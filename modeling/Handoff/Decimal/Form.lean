import Handoff.Decimal.Shortest

/-!
# Written forms of doubles

The digits of a double are its shortest decimal; a `Form` says how they are laid out.
-/

namespace Handoff.Decimal

/-- How doubles are written. -/
structure Form where
  /-- The exponents of the leading digit for which no exponent is written. -/
  positional : Int → Bool
  /-- Whether a whole number written positionally keeps `.0`. -/
  keepsPoint : Bool
  /-- Whether a positive exponent has a plus sign. -/
  plusExponent : Bool
  /-- Whether negative zero has a minus sign. -/
  signedZero : Bool
  tie : Tie
  infinity : String

namespace Form

/-- Digits without an exponent. -/
def writePositional (f : Form) (d : Digits) : List Char :=
  let whole := d.point.toNat
  if d.point ≤ 0 then ['0', '.'] ++ List.replicate (-d.point).toNat '0' ++ d.digits
  else if d.digits.length ≤ whole then
    d.digits ++ List.replicate (whole - d.digits.length) '0'
      ++ if f.keepsPoint then ['.', '0'] else []
  else d.digits.take whole ++ '.' :: d.digits.drop whole

/-- Digits with one of them before the point, and an exponent. -/
def writeExponential (f : Form) (d : Digits) : List Char :=
  let fraction := d.digits.drop 1
  let sign := if d.leading < 0 then ['-'] else if f.plusExponent then ['+'] else []
  d.digits.take 1 ++ (if fraction.isEmpty then [] else '.' :: fraction)
    ++ 'e' :: sign ++ Nat.toDigits 10 d.leading.natAbs

/-- The text of `x`. -/
def write (f : Form) (x : Float) : String :=
  let bits := x.toBits.toNat
  let negative := Nat.pow 2 63 ≤ bits
  if x.isNaN then "NaN"
  else if x.isInf then (if negative then "-" else "") ++ f.infinity
  else if x == 0 then
    (if negative && f.signedZero then "-" else "") ++ if f.keepsPoint then "0.0" else "0"
  else
    let d := (Binary.ofBits bits).shortest f.tie
    (if negative then "-" else "") ++ String.ofList
      (if f.positional d.leading then f.writePositional d else f.writeExponential d)

end Form

end Handoff.Decimal
