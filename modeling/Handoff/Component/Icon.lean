import Handoff.Component.Container

/-!
# Icons

Instances of icons become one widget around the icon that their name names.
-/

namespace Handoff
open Markup (Tag)

/-- The space around an icon, on both sides together. -/
def iconPadding : Float := 8

/-- The token of the colour of an icon: the one of the strokes or else the fills of the first node
in it, or else the default. -/
def iconColor (s : Setting) (glyphs : List Node) : String :=
  let tokens := match glyphs.head?.bind (·.layer?) with
    | some l => [l.strokes, l.fills].map s.catalogs.tokens.name
    | none => []
  (tokens.find? (· ≠ noToken)).getD s.options.defaultIconColor

def iconPiece (s : Setting) (l : Layer) (glyphs : List Node) : Piece where
  statements := [s.importWidgets ["Icon"], .imports ["Icon" ++ l.name] s.options.iconModule]
  markup :=
    (Tag.mk "Icon"
      [.expr "icon" (.name ("Icon" ++ l.name)),
        .expr "size" (.number (l.width + iconPadding)),
        .verbatim "color" (iconColor s glyphs)]).around ""
  rules := []

end Handoff
