import Handoff.Decimal.Form
import Handoff.Json.Draft
import Handoff.Text.Quoted

/-!
# What is wrong with a JSON text

The reasons for which a text or a value is not what it should describe, and their wording.
-/

namespace Handoff.Json

/-- Doubles in messages: from `10 ^ 16` on and below `10 ^ -5` with an exponent, and never looking
like an integer. -/
def messageForm : Decimal.Form where
  positional e := -5 ≤ e && e ≤ 15
  keepsPoint := true
  plusExponent := true
  signedZero := true
  tie := .toEven
  infinity := "inf"

/-- What is found where something else should be. -/
inductive Kind where
  | null
  | boolean (value : Bool)
  | number (value : Number)
  | string (value : String)
  | sequence
  | map

def Kind.text : Kind → String
  | null => "null"
  | boolean b => s!"boolean `{b}`"
  | number (.integer n) => s!"integer `{n}`"
  | number (.double x) => s!"floating point `{messageForm.write x}`"
  | string s => "string " ++ Text.shown s
  | sequence => "sequence"
  | map => "map"

/-- What should be found. -/
inductive Expected where
  | number
  | count
  | boolean
  | text
  | nothing
  | sequence
  | map
  | choice
  | singleChoice
  | tag
  | tagIndex (variants : Nat)
  | tagged (name : String)
  | record (name : String)
  | recordItems (name : String) (fields : Nat)
  | items (n : Nat)
  | noMoreItems

/-- `n` things, where one is named in the singular. -/
def counted (n : Nat) (thing : String) : String :=
  if n = 1 then s!"1 {thing}" else s!"{n} {thing}s"

def Expected.wording : Expected → String
  | number => "f64"
  | count => "usize"
  | boolean => "a boolean"
  | text => "a string"
  | nothing => "unit"
  | sequence => "a sequence"
  | map => "a map"
  | choice => "string or map"
  | singleChoice => "map with a single key"
  | tag => "variant identifier"
  | tagIndex n => s!"variant index 0 <= i < {n}"
  | tagged name => "internally tagged enum " ++ name
  | record name => "struct " ++ name
  | recordItems name n => "struct " ++ name ++ " with " ++ counted n "element"
  | items n => counted n "element" ++ " in sequence"
  | noMoreItems => "fewer elements in array"

inductive DecodeError where
  /-- The text is no JSON value. -/
  | unreadable (fault : Fault)
  | wrongType (found : Kind) (expected : Expected)
  | wrongValue (found : Kind) (expected : Expected)
  | wrongLength (length : Nat) (expected : Expected)
  | missingField (name : String)
  | duplicateField (name : String)
  | unknownVariant (name : String) (known : List String)
  /-- No alternative of `name` takes the value. -/
  | noAlternative (name : String)
  | noMarker (found : String)

/-- Two names joined by `or`, or a list of names. -/
def oneOf : List String → String
  | [a, b] => s!"`{a}` or `{b}`"
  | names => "one of " ++ ", ".intercalate (names.map fun n => s!"`{n}`")

namespace DecodeError

/-- The wording; an unreadable text has none. -/
def wording? : DecodeError → Option String
  | unreadable _ => none
  | wrongType k e => some ("invalid type: " ++ k.text ++ ", expected " ++ e.wording)
  | wrongValue k e => some ("invalid value: " ++ k.text ++ ", expected " ++ e.wording)
  | wrongLength n e => some (s!"invalid length {n}, expected " ++ e.wording)
  | missingField name => some s!"missing field `{name}`"
  | duplicateField name => some s!"duplicate field `{name}`"
  | unknownVariant name known => some (s!"unknown variant `{name}`, expected " ++ oneOf known)
  | noAlternative name => some ("data did not match any variant of untagged enum " ++ name)
  | noMarker s => some ("expected a value or the mixed marker, found '" ++ s ++ "'")

end DecodeError

/-- Reading something out of a value or a draft. -/
abbrev Decoded := Except DecodeError

end Handoff.Json
