import Handoff.Component.Setting
import Handoff.Markup.Element
import Handoff.Naming.Slug
import Handoff.Naming.Variable

/-!
# Containers

Frames, groups and containers that lay out their children.  Their pieces only open an element: the
children and the closing tag are yet to come.

A container that holds nothing but radio buttons opens a `RadioGroup`, which keeps the choice in a
variable.
-/

namespace Handoff
open Markup (Attribute Tag)

/-! ### Properties of instances -/

namespace PropertyValue

/-- A flag, also where it is the name of a variant. -/
def isTrue : PropertyValue → Bool
  | boolean b => b
  | number x => !(x == 0)
  | text s => s.toList.map Char.toLower = "true".toList

/-- The value as a text. -/
def display : PropertyValue → String
  | boolean b => if b then "true" else "false"
  | number x => Style.number x
  | text s => s

end PropertyValue

namespace Properties

/-- The first property whose key starts with `name`: the design tool adds ids behind names. -/
def find? (ps : Properties) (name : String) : Option PropertyValue :=
  (List.find? (fun p => name.toList.isPrefixOf p.1.toList) ps).map (·.2)

/-- Whether a property is set. -/
def flag (ps : Properties) (name : String) : Bool :=
  (ps.find? name).any (·.isTrue)

/-- The text of a property, empty where it is absent. -/
def text (ps : Properties) (name : String) : String :=
  ((ps.find? name).map (·.display)).getD ""

end Properties

/-! ### Frames and groups -/

/-- Whether what lies outside is shown. -/
def Box.overflow (b : Box) : String × String :=
  ("overflow", if b.clipsContent then "hidden" else "visible")

/-- The element of a frame; its children are placed absolutely. -/
def framePiece (s : Setting) (grouped : Bool) (l : Layer) (b : Box) : Piece where
  statements := []
  markup := (Tag.mk "div" [.text "class" (Style.frameClass ++ " " ++ l.cls)]).opening
  rules :=
    ⟨l.selector,
      ("background-color", s.color l.fills)
        :: l.border s (Style.borderWidth l b.outline.weights)
        ++ l.size s
        ++ ("border-radius", Style.borderRadius s.options.baseFontSize b.outline.corners)
        :: l.appearance ++ [b.overflow, ("position", "relative")]⟩
    :: ⟨l.selector ++ " > *", [("position", "absolute")]⟩
    :: l.inFrame s [("position", "absolute !important")]
    :: l.inGroup s grouped

/-- The element of a group.  It has no box that could cast a shadow, so its children do. -/
def groupPiece (s : Setting) (grouped : Bool) (l : Layer) : Piece where
  statements := []
  markup := (Tag.mk "div" [.text "class" (Style.groupClass ++ " " ++ l.cls)]).opening
  rules :=
    ⟨l.selector,
      l.size s ++ ("opacity", Style.number l.opacity)
        :: Style.Rule.optional "transform" (Style.rotation l.rotation)
        ++ [("position", "relative"), ("--xpos", s.rem l.x), ("--ypos", s.rem l.y)]⟩
    :: ⟨l.selector ++ " > *",
      ("position", "absolute !important")
        :: Style.Rule.optional "box-shadow" (Style.shadow l.effects)⟩
    :: l.inFrame s []
    :: l.inGroup s grouped

/-! ### Containers with automatic layout -/

/-- A frame, a component or an instance that lays out its children. -/
structure Container where
  layer : Layer
  box : Box
  children : List Node

namespace Container

/-- The name of instances that are radio buttons. -/
def radio : String := "Radio"

/-- Whether there are children and all are radio buttons. -/
def isRadioGroup (c : Container) : Bool :=
  !c.children.isEmpty && c.children.all fun n => (n.propertiesOf? radio).isSome

/-- The selector of the container; that of a radio group lies inside a widget. -/
def selector (c : Container) : String :=
  if c.isRadioGroup then ":global(" ++ c.layer.selector ++ ")" else c.layer.selector

/-- The properties of the first radio button that is checked. -/
def checked? (c : Container) : Option Properties :=
  (c.children.filterMap (·.propertiesOf? radio)).find? (·.flag "checked")

/-- The variable that keeps the choice of a radio group. -/
def choice (c : Container) : String :=
  stateName "radio" c.layer.id ++ "Value"

/-- What the choice of a radio group starts with. -/
def initialChoice (c : Container) : String :=
  (c.checked?.map fun ps => slug (ps.text "label")).getD ""

end Container

def LayoutSizing.css (s : Setting) (size : Float) : LayoutSizing → String
  | fixed => s.rem size
  | fill => "100%"
  | hug => "auto"

/-- An alignment; what flexible boxes do not have is centered. -/
def AxisAlign.css : AxisAlign → String
  | min => "flex-start"
  | max => "flex-end"
  | center | spaceBetween | baseline => "center"

namespace AutoLayout

def isHorizontal (a : AutoLayout) : Bool :=
  a.mode = .horizontal

/-- The space between rows and between columns. -/
def gap (s : Setting) (a : AutoLayout) : String :=
  let counter := s.rem (a.counterSpacing.getD 0)
  let item := s.rem a.itemSpacing
  if a.isHorizontal then counter ++ " " ++ item else item ++ " " ++ counter

/-- The layout of the children of a container. -/
def flexbox (s : Setting) (a : AutoLayout) : List (String × String) :=
  [("padding", " ".intercalate
      ([a.paddingTop, a.paddingRight, a.paddingBottom, a.paddingLeft].map s.rem)),
    ("display", "flex"),
    ("flex-direction", if a.isHorizontal then "row" else "column"),
    ("flex-wrap", match a.wrap with
      | .wrap => "wrap"
      | .noWrap => "nowrap"),
    ("align-items", a.counterAlign.css),
    ("justify-content", a.primaryAlign.css),
    ("gap", a.gap s),
    (if a.isHorizontal then "align-self" else "justify-self", match a.counterSizing with
      | .fixed => "flex-start"
      | .auto => "stretch")]

/-- The limits of the size of a container. -/
def limits (s : Setting) (a : AutoLayout) : List (String × String) :=
  [("min-width", a.minWidth), ("max-width", a.maxWidth), ("min-height", a.minHeight),
    ("max-height", a.maxHeight)].flatMap fun d => Style.Rule.optional d.1 (d.2.map s.rem)

end AutoLayout

namespace Container

/-- The rules of a container. -/
def rules (s : Setting) (grouped : Bool) (c : Container) : List Style.Rule :=
  let l := c.layer
  let a := c.box.layout
  ⟨c.selector,
    [("width", a.horizontalSizing.css s l.width), ("height", a.verticalSizing.css s l.height)]
      ++ a.limits s
      ++ [("border-radius", Style.borderRadius s.options.baseFontSize c.box.outline.corners),
        ("background-color", s.color l.fills)]
      ++ l.border s (Style.borderWidth l c.box.outline.weights)
      ++ a.flexbox s ++ l.appearance ++ [c.box.overflow]⟩
  :: l.inFrame s [] :: l.inGroup s grouped

/-- The tag that a container opens. -/
def tag (c : Container) : Tag :=
  let cls : Attribute := .text "class" c.layer.cls
  if c.isRadioGroup then
    ⟨"RadioGroup", cls :: Attribute.flagIf "inline" c.box.layout.isHorizontal
      ++ [.expr "bind:group" (.name c.choice), .text "name" c.layer.cls]⟩
  else ⟨"div", [cls]⟩

/-- The element of a container. -/
def piece (s : Setting) (grouped : Bool) (c : Container) : Piece where
  statements :=
    if c.isRadioGroup then
      [s.importWidgets ["RadioGroup"], .declare c.choice (.text c.initialChoice)]
    else []
  markup := c.tag.opening
  rules := c.rules s grouped

end Container

end Handoff
