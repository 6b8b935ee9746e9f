import Handoff.Decimal.Form
import Handoff.Scene.Node
import Handoff.Style.Color
import Handoff.Text.Blank

/-!
# Measures in style sheets

Numbers, lengths, and the values of properties that are made of them.
-/

namespace Handoff.Style

/-- Numbers in style sheets: from `10 ^ 21` on and below `10 ^ -6` with an exponent, and with only
one zero. -/
def numberForm : Decimal.Form where
  positional e := -6 ≤ e && e ≤ 20
  keepsPoint := false
  plusExponent := true
  signedZero := false
  tie := .toEven
  infinity := "Infinity"

/-- The text of a number. -/
def number (x : Float) : String :=
  numberForm.write x

/-- A length in pixels. -/
def px (x : Float) : String :=
  number x ++ "px"

/-- A length of `x` pixels in units of `base` pixels. -/
def rem (base x : Float) : String :=
  number (x / base) ++ "rem"

/-! ### Shadows -/

/-- One layer of a shadow: offset, blur, spread and colour. -/
def shadowLayer (s : Shadow) : String :=
  " ".intercalate [px s.offset.x, px s.offset.y, px s.radius, px s.spread, s.color.toHex]

/-- The layers of all drop shadows in order, each with a semicolon and a blank behind it. -/
def shadowLayers (effects : List Effect) : String :=
  String.join ((dropShadows effects).map fun s => shadowLayer s ++ "; ")

/-- The value of a shadow with the given layers, if there are any. -/
def boxShadow (layers : String) : Option String :=
  let parts := ((layers.toList.splitOn ';').map Text.trim).filter (!·.isEmpty)
  if parts.isEmpty then none else some (", ".intercalate (parts.map String.ofList))

/-- The shadow that effects cast, if any. -/
def shadow (effects : List Effect) : Option String :=
  boxShadow (shadowLayers effects)

/-! ### Boxes -/

/-- The rotation by an angle, if there is one. -/
def rotation (degrees : Float) : Option String :=
  if degrees == 0 then none else some ("rotate(" ++ number degrees ++ "deg)")

/-- The widths of the four borders of a layer. -/
def borderWidth (l : Layer) (w : StrokeWeights) : String :=
  if l.strokes.isEmpty then "0"
  else " ".intercalate ([w.top, w.right, w.bottom, w.left].map px)

/-- The radii of the four corners. -/
def borderRadius (base : Float) (c : CornerRadii) : String :=
  " ".intercalate (c.clockwise.map (rem base))

end Handoff.Style
