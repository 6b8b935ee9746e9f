import Handoff.Component.Fragment
import Handoff.Naming.Class
import Handoff.Options

/-!
# Settings

What the pieces of all nodes have in common: they look up tokens in the same catalogs and follow the
same options, and the rules of their layers say the same things in the same way.
-/

namespace Handoff

structure Setting where
  catalogs : Catalogs
  options : Options

namespace Setting

/-- A length of `x` pixels. -/
def rem (s : Setting) (x : Float) : String :=
  Style.rem s.options.baseFontSize x

/-- The colour of paints. -/
def color (s : Setting) (paints : List Paint) : String :=
  s.catalogs.tokens.color paints

/-- Imports widgets. -/
def importWidgets (s : Setting) (names : List String) : Script.Statement :=
  .imports names s.options.library

end Setting

namespace Layer

/-- The class of the layer. -/
def cls (l : Layer) : String :=
  className l.name l.id

/-- The selector of the class of the layer. -/
def selector (l : Layer) : String :=
  Style.classSelector l.cls

/-- The corner where the layer starts. -/
def origin (l : Layer) : Point :=
  ⟨l.x, l.y⟩

/-- What all visible layers show in the same way. -/
def appearance (l : Layer) : List (String × String) :=
  ("opacity", Style.number l.opacity) :: Style.Rule.optional "box-shadow" (Style.shadow l.effects)
    ++ Style.Rule.optional "transform" (Style.rotation l.rotation)

/-- The place of the layer. -/
def place (s : Setting) (l : Layer) : List (String × String) :=
  [("left", s.rem l.x), ("top", s.rem l.y)]

/-- The size of the layer. -/
def size (s : Setting) (l : Layer) : List (String × String) :=
  [("width", s.rem l.width), ("height", s.rem l.height)]

/-- The borders of the layer, of the given width. -/
def border (s : Setting) (l : Layer) (width : String) : List (String × String) :=
  [("border-width", width), ("border-style", "solid"), ("border-color", s.color l.strokes)]

/-- Places the layer where its parent is a frame. -/
def inFrame (s : Setting) (l : Layer) (more : List (String × String)) : Style.Rule :=
  ⟨Style.childSelector Style.frameClass l.cls, l.place s ++ more⟩

/-- Places the layer where its parent is a group. -/
def inGroup (s : Setting) (l : Layer) (grouped : Bool) : List Style.Rule :=
  if grouped then [Style.inGroup l.cls (s.rem l.x) (s.rem l.y)] else []

end Layer

end Handoff
