import Handoff.Text.Blank

/-!
# Reading numerals

Decimal numerals in texts that people fill in: whole numbers that fit 32 bits, and numbers with an
optional fraction and exponent.
-/

namespace Handoff.Decimal

/-- The value of the digits `ds`, appended to `n`. -/
def appendDigits (n : Nat) (ds : List Char) : Nat :=
  ds.foldl (fun n c => n * 10 + (c.toNat - '0'.toNat)) n

/-- The value of a nonempty text of ASCII digits. -/
def natural? (s : List Char) : Option Nat :=
  if !s.isEmpty && s.all Char.isDigit then some (appendDigits 0 s) else none

/-- The value of ASCII digits with an optional plus sign, when it fits 32 bits. -/
def word32? (s : List Char) : Option Nat :=
  let n := natural? <| match s with
    | '+' :: ds => ds
    | ds => ds
  n.filter (· < Nat.pow 2 32)

/-- A text without its sign, and whether the sign is a minus. -/
def splitSign : List Char → Bool × List Char
  | '-' :: s => (true, s)
  | '+' :: s => (false, s)
  | s => (false, s)

/-- The exponent at the end of a numeral: none is zero. -/
def exponent? : List Char → Option Int
  | [] => some 0
  | c :: s =>
    if c == 'e' || c == 'E' then
      let (negative, ds) := splitSign s
      (natural? ds).map fun n => if negative then -n else n
    else none

/-- The double nearest to `n · 10 ^ e`.  Far outside the range of doubles no power is computed. -/
def nearest (n : Nat) (e : Int) : Float :=
  let size := (Nat.toDigits 10 n).length + e
  if n = 0 || size < -400 then 0
  else if 400 < size then 1 / 0
  else Float.ofScientific n (e < 0) e.natAbs

/-- The double nearest to a numeral: a sign, digits with an optional point among or around them,
and an exponent, of which only some digit is required. -/
def double? (s : List Char) : Option Float :=
  let (negative, s) := splitSign s
  let (whole, s) := s.span Char.isDigit
  let (fraction, s) := match s with
    | '.' :: s => s.span Char.isDigit
    | s => ([], s)
  if whole.isEmpty && fraction.isEmpty then none
  else
    (exponent? s).map fun e =>
      let x := nearest (appendDigits 0 (whole ++ fraction)) (e - fraction.length)
      if negative then -x else x

end Handoff.Decimal
