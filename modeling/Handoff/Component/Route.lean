import Handoff.Component.Icon
import Handoff.Component.Shape
import Handoff.Component.Text
import Handoff.Component.Widget

/-!
# Routes

What a node becomes.  The catalogs come first: an instance of an icon or a widget is one, whatever
its layout.
-/

namespace Handoff

/-- What a node becomes, with what is needed for it. -/
inductive Route where
  | icon (layer : Layer) (glyphs : List Node)
  | widget (i : WidgetInstance)
  | autolayout (c : Container)
  | frame (layer : Layer) (box : Box)
  | group (layer : Layer)
  | text (layer : Layer) (content : TextContent)
  | rectangle (layer : Layer) (outline : Outline)
  | ellipse (layer : Layer) (outline : Outline)
  | line (layer : Layer) (outline : Outline)
  | skip

namespace Route

/-- The route of a node. -/
def ofNode (c : ComponentCatalog) : Node → Route
  | .inst l b ps cs es =>
    if c.isIcon l.name then icon l cs
    else if c.isComponent l.name then widget ⟨l, ps, cs, es⟩
    else if b.layout.isEnabled then autolayout ⟨l, b, cs⟩
    else skip
  | .frame .frame l b cs => if b.layout.isEnabled then autolayout ⟨l, b, cs⟩ else frame l b
  | .frame .component l b cs => if b.layout.isEnabled then autolayout ⟨l, b, cs⟩ else skip
  | .frame .componentSet _ _ _ => skip
  | .group l _ => group l
  | .text l t => text l t
  | .shape .rectangle l o => rectangle l o
  | .shape .ellipse l o => ellipse l o
  | .shape .line l o => line l o
  | .unsupported => skip

def label : Route → String
  | icon _ _ => "icon"
  | widget _ => "widget"
  | autolayout _ => "autolayout"
  | frame _ _ => "frame"
  | group _ => "group"
  | text _ _ => "text"
  | rectangle _ _ => "rectangle"
  | ellipse _ _ => "ellipse"
  | line _ _ => "line"
  | skip => "skip"

/-- The selector of the rule for the node itself, if there is one. -/
def selector? : Route → Option String
  | autolayout c => some c.selector
  | frame l _ | group l | text l _ | rectangle l _ | ellipse l _ | line l _ => some l.selector
  | icon _ _ | widget _ | skip => none

/-- Whether the children of the node become elements inside its own. -/
def isContainer : Route → Bool
  | autolayout _ | frame _ _ | group _ => true
  | icon _ _ | widget _ | text _ _ | rectangle _ _ | ellipse _ _ | line _ _ | skip => false

/-- What a node contributes by itself, `grouped` if its parent is a group. -/
def piece (s : Setting) (grouped : Bool) : Route → Piece
  | icon l gs => iconPiece s l gs
  | widget i => i.piece s
  | autolayout c => c.piece s grouped
  | frame l b => framePiece s grouped l b
  | group l => groupPiece s grouped l
  | text l t => textPiece s grouped l t
  | rectangle l o => rectanglePiece s grouped l o
  | ellipse l o => ellipsePiece s grouped l o
  | line l o => linePiece s grouped l o
  | skip => .empty

end Route

end Handoff
