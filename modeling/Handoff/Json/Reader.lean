import Handoff.Json.Draft
import Handoff.Text.Hex

/-!
# Reading JSON texts

A text is read in one pass into a draft.  Every reader answers with the draft of what it met and
with the text behind it; there is no text behind a fault that cannot be passed over.

A number is read in two steps: its leading digits, as many as fit 64 bits, are rounded to a double,
and that is scaled by a power of ten, itself a double.
-/

namespace Handoff.Json
open Text (hexDigit?)

/-- The four characters that may stand between the tokens of a JSON text. -/
def isBlank (c : Char) : Bool :=
  c == ' ' || c == '\t' || c == '\n' || c == '\r'

namespace Draft

/-- What was read, and the text behind it if reading can go on. -/
abbrev Reading := Draft × Option (List Char)

/-- Reading stops at a value that ends too early or is malformed. -/
def halt (f : Fault) : Reading :=
  (broken f, none)

/-! ### Names -/

/-- The fault of a text that should start with `name`. -/
def nameFault : List Char → List Char → Fault
  | _ :: _, [] => .ended
  | a :: name, c :: cs => if a = c then nameFault name cs else .malformed
  | [], _ => .malformed

/-- Reads `name`, which means `d`. -/
def readName (name : String) (d : Draft) (cs : List Char) : Reading :=
  match name.toList.isPrefixOf? cs with
  | some rest => (d, some rest)
  | none => halt (nameFault name.toList cs)

/-! ### Numbers -/

/-- Appends digits to `n` as long as the result fits 64 bits, and gives back the others. -/
def appendFitting (n : Nat) : List Char → Nat × List Char
  | [] => (n, [])
  | c :: cs =>
    let m := n * 10 + (c.toNat - '0'.toNat)
    if m < Nat.pow 2 64 then appendFitting m cs else (n, c :: cs)

/-- The double nearest to `10 ^ e`. -/
def powerOfTen (e : Nat) : Float :=
  Float.ofScientific 1 false e

/-- `x` divided by `10 ^ e`, in steps of `10 ^ 308`. -/
def shrink (x : Float) (e : Nat) : Float :=
  if e ≤ 308 then x / powerOfTen e
  else if x == 0 then x
  else shrink (x / powerOfTen 308) (e - 308)
termination_by e

/-- `x` times `10 ^ e`, unless the product is out of range. -/
def scale (x : Float) (e : Int) : Option Float :=
  if e < 0 then some (shrink x e.natAbs)
  else if e ≤ 308 then
    let y := x * powerOfTen e.natAbs
    if y.isInf then none else some y
  else if x == 0 then some x
  else none

/-- The number with the given sign, digits and exponent, when it is no plain integer. -/
def scaled (negative : Bool) (digits : Nat) (e : Int) : Draft :=
  match scale digits.toFloat e with
  | some x => number (.double (if negative then -x else x))
  | none => flawed .malformed none

/-- An integer that fits 64 bits: as itself if the 64-bit integers hold it, and a double if not. -/
def whole (negative : Bool) (digits : Nat) : Draft :=
  if !negative then number (.integer digits)
  else if digits = 0 || Nat.pow 2 63 < digits then number (.double (-digits.toFloat))
  else number (.integer (-digits))

/-- A number stops where a digit should be: passing over it, the end of the text is no better than
any other character. -/
def haltAtDigit (cs : List Char) : Reading :=
  (flawed (if cs.isEmpty then .ended else .malformed) (some .malformed), none)

/-- Reads the exponent behind its mark. -/
def readExponent (negative : Bool) (digits : Nat) (e : Int) (cs : List Char) : Reading :=
  let (down, cs) := match cs with
    | '-' :: cs => (true, cs)
    | '+' :: cs => (false, cs)
    | cs => (false, cs)
  let (ds, rest) := cs.span Char.isDigit
  if ds.isEmpty then haltAtDigit rest
  else
    let n := ds.foldl (fun n c => n * 10 + (c.toNat - '0'.toNat)) 0
    let d :=
      if n < Nat.pow 2 31 then scaled negative digits (if down then e - n else e + n)
      else if digits = 0 || down then scaled negative 0 0
      else flawed .malformed none
    (d, some rest)

/-- Reads what may follow the digits before the point: a fraction, an exponent, or neither. -/
def readFraction (negative : Bool) (digits : Nat) (left : List Char) (cs : List Char) : Reading :=
  match cs with
  | '.' :: cs =>
    let (ds, rest) := cs.span Char.isDigit
    if ds.isEmpty then haltAtDigit rest
    else
      let (digits, unused) := appendFitting digits ds
      let e : Int := left.length - (ds.length - unused.length)
      match rest with
      | 'e' :: cs => readExponent negative digits e cs
      | 'E' :: cs => readExponent negative digits e cs
      | _ => (scaled negative digits e, some rest)
  | 'e' :: cs => readExponent negative digits left.length cs
  | 'E' :: cs => readExponent negative digits left.length cs
  | _ =>
    (if left.isEmpty then whole negative digits else scaled negative digits left.length, some cs)

/-- Reads a number behind its sign. -/
def readNumber (negative : Bool) (cs : List Char) : Reading :=
  let (ds, rest) := cs.span Char.isDigit
  match ds with
  | [] => haltAtDigit rest
  | '0' :: _ :: _ => halt .malformed
  | ds =>
    let (digits, left) := appendFitting 0 ds
    readFraction negative digits left rest

/-! ### Strings -/

/-- The code unit written with four hexadecimal digits. -/
def codeUnit? (a b c d : Char) : Option Nat := do
  return (((← hexDigit? a) * 16 + (← hexDigit? b)) * 16 + (← hexDigit? c)) * 16 + (← hexDigit? d)

/-- The character that a one-letter escape stands for. -/
def escaped? (c : Char) : Option Char :=
  match c with
  | '"' => some '"'
  | '\\' => some '\\'
  | '/' => some '/'
  | 'b' => some '\x08'
  | 'f' => some '\x0c'
  | 'n' => some '\n'
  | 'r' => some '\r'
  | 't' => some '\t'
  | _ => none

/-- How a string ends: closed, with a text behind it, or at a fault.  A closed string has no value
if its surrogates are not paired. -/
inductive StringEnd where
  | closed (value : Option String) (rest : List Char)
  | stopped (read skip : Fault)

/-- What has been read of a string: its characters in reverse order, a high surrogate that waits
for its low half, and whether all surrogates before it were paired. -/
structure StringState where
  seen : List Char
  high : Option Nat
  paired : Bool

namespace StringState

/-- The string goes on with something that is no low surrogate. -/
def settle (s : StringState) : StringState :=
  ⟨s.seen, none, s.paired && s.high.isNone⟩

def push (s : StringState) (c : Char) : StringState :=
  let t := s.settle
  ⟨c :: t.seen, none, t.paired⟩

/-- The string goes on with an escaped code unit. -/
def pushUnit (s : StringState) (u : Nat) : StringState :=
  if 0xdc00 ≤ u && u ≤ 0xdfff then
    match s.high with
    | some h =>
      let c := Char.ofNat (0x10000 + (h - 0xd800) * 0x400 + (u - 0xdc00))
      ⟨c :: s.seen, none, s.paired⟩
    | none => ⟨s.seen, none, false⟩
  else if 0xd800 ≤ u && u ≤ 0xdbff then
    let t := s.settle
    ⟨t.seen, some u, t.paired⟩
  else s.push (Char.ofNat u)

/-- The string stops at a fault; an unpaired surrogate before it is met first. -/
def stop (s : StringState) (f : Fault) : StringEnd :=
  .stopped (if s.paired then f else .malformed) f

end StringState

/-- Reads a string behind its opening quote. -/
def readString (s : StringState) : List Char → StringEnd
  | [] => s.stop .ended
  | '"' :: cs =>
    let t := s.settle
    .closed (if t.paired then some (String.ofList t.seen.reverse) else none) cs
  | ['\\'] => s.stop .ended
  | '\\' :: 'u' :: a :: b :: c :: d :: cs =>
    match codeUnit? a b c d with
    | some u => readString (s.pushUnit u) cs
    | none => s.stop .malformed
  | '\\' :: 'u' :: cs =>
    -- four bytes have to follow, of whatever kind
    s.stop (if (String.ofList cs).utf8ByteSize < 4 then .ended else .malformed)
  | '\\' :: c :: cs =>
    match escaped? c with
    | some e => readString (s.push e) cs
    | none => s.settle.stop .malformed
  | c :: cs => if c.toNat < 0x20 then s.settle.stop .malformed else readString (s.push c) cs

/-- Reads a string value behind its opening quote. -/
def readText (cs : List Char) : Reading :=
  match readString ⟨[], none, true⟩ cs with
  | .closed (some s) rest => (string s, some rest)
  | .closed none rest => (flawed .malformed none, some rest)
  | .stopped read skip => (flawed read (some skip), none)

/-! ### Arrays and objects -/

/-- The fault of a text that stops before a closing bracket. -/
def stopFault (cs : List Char) : Fault :=
  if cs.isEmpty then .ended else .malformed

mutual

/-- Reads a value.  `fuel` is more than the length of the text. -/
def readValue : Nat → List Char → Reading
  | 0, _ => halt .malformed
  | fuel + 1, cs =>
    match cs.dropWhile isBlank with
    | [] => halt .ended
    | 'n' :: cs => readName "ull" null cs
    | 't' :: cs => readName "rue" (boolean true) cs
    | 'f' :: cs => readName "alse" (boolean false) cs
    | '-' :: cs => readNumber true cs
    | '"' :: cs => readText cs
    | '[' :: cs =>
      match cs.dropWhile isBlank with
      | [] => (array [] (some .ended), none)
      | ']' :: rest => (array [] none, some rest)
      | cs => readItems fuel [] cs
    | '\x7b' :: cs =>
      match cs.dropWhile isBlank with
      | '\x7d' :: rest => (object [] none, some rest)
      | '"' :: cs => readMembers fuel [] cs
      | cs => (object [] (some (stopFault cs)), none)
    | c :: cs => if c.isDigit then readNumber false (c :: cs) else halt .malformed

/-- Reads the items of an array, where `seen` stand before them in reverse order. -/
def readItems : Nat → List Draft → List Char → Reading
  | 0, _, _ => halt .malformed
  | fuel + 1, seen, cs =>
    match readValue fuel cs with
    | (d, none) => (array (d :: seen).reverse none, none)
    | (d, some cs) =>
      match cs.dropWhile isBlank with
      | ']' :: rest => (array (d :: seen).reverse none, some rest)
      | ',' :: cs => readItems fuel (d :: seen) cs
      | cs => (array (d :: seen).reverse (some (stopFault cs)), none)

/-- Reads the members of an object, the first one behind the opening quote of its key, where `seen`
stand before them in reverse order. -/
def readMembers : Nat → List (Except Fault String × Draft) → List Char → Reading
  | 0, _, _ => halt .malformed
  | fuel + 1, seen, cs =>
    match readString ⟨[], none, true⟩ cs with
    | .stopped read skip => (object ((.error read, broken skip) :: seen).reverse none, none)
    | .closed key cs =>
      let key : Except Fault String := match key with
        | some k => .ok k
        | none => .error .malformed
      match cs.dropWhile isBlank with
      | ':' :: cs =>
        match readValue fuel cs with
        | (d, none) => (object ((key, d) :: seen).reverse none, none)
        | (d, some cs) =>
          let seen := (key, d) :: seen
          match cs.dropWhile isBlank with
          | '\x7d' :: rest => (object seen.reverse none, some rest)
          | ',' :: cs =>
            match cs.dropWhile isBlank with
            | '"' :: cs => readMembers fuel seen cs
            | cs => (object seen.reverse (some (stopFault cs)), none)
          | cs => (object seen.reverse (some (stopFault cs)), none)
      | cs => (object ((key, broken (stopFault cs)) :: seen).reverse none, none)

end

/-- The draft of a text, and the fault of what follows the value, if anything but blanks does. -/
def ofText (text : String) : Draft × Option Fault :=
  let cs := text.toList
  match readValue (2 * cs.length + 2) cs with
  | (d, none) => (d, none)
  | (d, some rest) => (d, if rest.all isBlank then none else some .malformed)

end Draft

/-- The value of a text without faults; of a repeated key only the last member counts. -/
def Value.ofText? (text : String) : Option Value :=
  match Draft.ofText text with
  | (d, none) => (d.value text.length).toOption.map Value.distinct
  | _ => none

end Handoff.Json
