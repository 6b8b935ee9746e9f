import Handoff.Component.Setting
import Handoff.Markup.Element

/-!
# Shapes

Rectangles, ellipses and lines are empty elements that their rules draw.
-/

namespace Handoff

/-- The element of a shape with the given declarations. -/
def shapePiece (s : Setting) (grouped : Bool) (l : Layer) (ds : List (String × String)) :
    Piece where
  statements := []
  markup := (Markup.Tag.mk "div" [.text "class" l.cls]).around ""
  rules := ⟨l.selector, ds ++ l.appearance⟩ :: l.inGroup s grouped

def rectanglePiece (s : Setting) (grouped : Bool) (l : Layer) (o : Outline) : Piece :=
  shapePiece s grouped l <|
    ("background-color", s.color l.fills) :: l.border s (Style.borderWidth l o.weights)
      ++ l.size s ++ l.place s
      ++ [("border-radius", Style.borderRadius s.options.baseFontSize o.corners)]

/-- The border of an ellipse is uniform, and a length like others. -/
def ellipsePiece (s : Setting) (grouped : Bool) (l : Layer) (o : Outline) : Piece :=
  shapePiece s grouped l <|
    ("background-color", s.color l.fills) :: l.border s (s.rem o.weights.uniform)
      ++ l.size s ++ l.place s ++ [("border-radius", "50%")]

/-- A line is a bar as thick as its stroke. -/
def linePiece (s : Setting) (grouped : Bool) (l : Layer) (o : Outline) : Piece :=
  shapePiece s grouped l <|
    [("background-color", s.color l.strokes), ("width", s.rem l.width),
      ("height", s.rem o.weights.uniform)] ++ l.place s

end Handoff
