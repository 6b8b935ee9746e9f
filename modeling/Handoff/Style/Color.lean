import Handoff.Catalog
import Handoff.Scene.Paint
import Handoff.Text.Hex

/-!
# Colours in style sheets

A colour is written as its four channels in hexadecimal digits.  Paints that are bound to a known
design token refer to the token, others are written as a colour; both look at the first solid paint
that is not hidden.
-/

namespace Handoff
open Text (hexDigit? hexByte)

/-- The byte nearest to a channel, and of two that are equally near the larger one; channels out of
range have the first or the last byte. -/
def channelByte (x : Float) : UInt8 :=
  let y := x * 255
  let whole := y.toUInt8
  if whole < 255 && whole.toFloat + 0.5 ≤ y then whole + 1 else whole

namespace Rgba

/-- The colour as `#rrggbbaa`. -/
def toHex (c : Rgba) : String :=
  String.ofList ('#' :: [c.r, c.g, c.b, c.a].flatMap (hexByte <| channelByte ·))

/-- The value of two hexadecimal digits, of which the first may be a plus sign. -/
def pair? (a b : Char) : Option Nat :=
  if a = '+' then hexDigit? b else do return (← hexDigit? a) * 16 + (← hexDigit? b)

/-- The channel written as a pair of digits. -/
def channel? (a b : Char) : Option Float :=
  (pair? a b).map fun n => n.toFloat / 255

/-- The colour written as `#rrggbb`, which is opaque, or as `#rrggbbaa`. -/
def ofHex? (text : String) : Option Rgba :=
  match text.toList with
  | ['#', r₁, r₂, g₁, g₂, b₁, b₂] => do
    return ⟨← channel? r₁ r₂, ← channel? g₁ g₂, ← channel? b₁ b₂, 1⟩
  | ['#', r₁, r₂, g₁, g₂, b₁, b₂, a₁, a₂] => do
    return ⟨← channel? r₁ r₂, ← channel? g₁ g₂, ← channel? b₁ b₂, ← channel? a₁ a₂⟩
  | _ => none

end Rgba

/-- What stands for a token where there is none. -/
def noToken : String := "initial"

/-- The colour of paints that show nothing. -/
def noColor : String := "transparent"

/-- The colour of paints, as opaque as the paint that shows it. -/
def literalColor (paints : List Paint) : String :=
  match firstVisibleSolid paints with
  | some p => (p.color.withAlpha p.opacity).toHex
  | none => noColor

namespace TokenCatalog

/-- The custom property of the token that paints are bound to. -/
def bound? (c : TokenCatalog) (paints : List Paint) : Option String := do
  c.lookup (← (← firstVisibleSolid paints).token)

/-- The custom property of the token that paints are bound to, by itself. -/
def name (c : TokenCatalog) (paints : List Paint) : String :=
  (c.bound? paints).getD noToken

/-- A reference to the custom property of the token that paints are bound to. -/
def reference (c : TokenCatalog) (paints : List Paint) : String :=
  match c.bound? paints with
  | some name => "var(" ++ name ++ ")"
  | none => noToken

/-- The colour of paints: the token that they are bound to, or else their own colour. -/
def color (c : TokenCatalog) (paints : List Paint) : String :=
  let token := c.reference paints
  if token = noToken then literalColor paints else token

end TokenCatalog

end Handoff
