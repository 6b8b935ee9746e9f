/-!
# Shortest decimals

The shortest decimal that reads back as a given finite double.  A double stands for all reals that
round to it, an interval around its value; of the grids with one, two, three, … significant digits
the first with a point in the interval is taken, and on it the point nearest to the value.  All
comparisons are between natural numbers.
-/

namespace Handoff.Decimal

/-- The positive decimal `0.d₁d₂…dₖ · 10 ^ point`; `dₖ` is not zero. -/
structure Digits where
  digits : List Char
  point : Int

/-- The decimal `n · 10 ^ place`, for a positive `n`. -/
def Digits.ofNat (n : Nat) (place : Int) : Digits :=
  let ds := Nat.toDigits 10 n
  ⟨(ds.reverse.dropWhile (· == '0')).reverse, ds.length + place⟩

/-- The exponent of the leading digit. -/
def Digits.leading (d : Digits) : Int :=
  d.point - 1

/-- The positive number `mantissa · 2 ^ exponent` among its neighbours on the binary grid. -/
structure Binary where
  mantissa : Nat
  exponent : Int
  /-- The next smaller double is only half as far away as the next larger one. -/
  narrowBelow : Bool

/-- The magnitude of the double with the bits `bits`, when it is finite and not zero. -/
def Binary.ofBits (bits : Nat) : Binary :=
  let fraction := bits % Nat.pow 2 52
  let field : Nat := bits / Nat.pow 2 52 % Nat.pow 2 11
  if field = 0 then ⟨fraction, -1074, false⟩
  else ⟨fraction + Nat.pow 2 52, (field : Int) - 1075, fraction == 0 && 1 < field⟩

/-- Which of two equally near points of a grid is taken. -/
inductive Tie where
  | toEven
  | up

/-- The number of decimal digits of `n`, and none for zero. -/
def digitCount (n : Nat) : Nat :=
  if n = 0 then 0 else (Nat.toDigits 10 n).length

namespace Binary

/-- The exponent `e` with `10 ^ e ≤ b < 10 ^ (e + 1)`. -/
def leading (b : Binary) : Int :=
  let num := b.mantissa * Nat.pow 2 b.exponent.toNat
  let den := Nat.pow 2 (-b.exponent).toNat
  if den ≤ num then digitCount (num / den) - 1 else -digitCount ((den - 1) / num)

/-- The point of the grid `10 ^ place` that stands for `b`, when the grid has one in the interval
of `b`.  The interval reaches half way to the neighbours of `b`, ends included iff the mantissa is
even; it is measured in quarters of the binary grid. -/
def onGrid (b : Binary) (tie : Tie) (place : Int) : Option Nat :=
  let unit := Nat.pow 2 (b.exponent - 2).toNat * Nat.pow 10 (-place).toNat
  let den := Nat.pow 2 (2 - b.exponent).toNat * Nat.pow 10 place.toNat
  let value := 4 * b.mantissa * unit
  let low := (4 * b.mantissa - if b.narrowBelow then 1 else 2) * unit
  let high := (4 * b.mantissa + 2) * unit
  let inside (n : Nat) : Bool :=
    if b.mantissa % 2 = 0 then low ≤ n * den && n * den ≤ high
    else low < n * den && n * den < high
  let below := value / den
  let rest := value % den
  let upper : Bool := match tie with
    | .toEven => den < 2 * rest || den == 2 * rest && below % 2 == 1
    | .up => den ≤ 2 * rest
  match inside below, inside (below + 1) with
  | true, true => some (if upper then below + 1 else below)
  | true, false => some below
  | false, true => some (below + 1)
  | false, false => none

/-- The shortest decimal that reads back as `b`, and of those the nearest to `b`.  Seventeen digits
always suffice. -/
def shortest (b : Binary) (tie : Tie) : Digits :=
  let hit := (List.range 17).findSome? fun (i : Nat) =>
    (b.onGrid tie (b.leading - i)).map fun n => Digits.ofNat n (b.leading - i)
  hit.getD (Digits.ofNat b.mantissa 0)

end Binary

end Handoff.Decimal
