/-!
# JSON values

Objects keep their members in order, repeated keys included.  A number is an integer when it is
written as one and fits 64 bits, and a double otherwise.
-/

namespace Handoff.Json

inductive Number where
  | integer (value : Int)
  | double (value : Float)

namespace Number

/-- The double nearest to `n`. -/
def toDouble : Number → Float
  | integer n => Float.ofInt n
  | double x => x

end Number

inductive Value where
  | null
  | boolean (value : Bool)
  | number (value : Number)
  | string (value : String)
  | array (items : List Value)
  | object (members : List (String × Value))

/-- `entries` with `key` standing for `value`: an entry of that key keeps its place, a new one is
added at the end. -/
def insertEntry {α : Type} (key : String) (value : α) :
    List (String × α) → List (String × α)
  | [] => [(key, value)]
  | e :: entries =>
    if e.1 = key then (key, value) :: entries else e :: insertEntry key value entries

/-- One entry for each key: the value is the last one given, the place the first one. -/
def lastValues {α : Type} (entries : List (String × α)) : List (String × α) :=
  entries.foldl (fun done e => insertEntry e.1 e.2 done) []

mutual

/-- The value with one member for each key, throughout. -/
def Value.distinct : Value → Value
  | .null => .null
  | .boolean b => .boolean b
  | .number n => .number n
  | .string s => .string s
  | .array items => .array (distinctItems items)
  | .object members => .object (lastValues (distinctMembers members))

def distinctItems : List Value → List Value
  | [] => []
  | v :: vs => v.distinct :: distinctItems vs

def distinctMembers : List (String × Value) → List (String × Value)
  | [] => []
  | (k, v) :: ms => (k, v.distinct) :: distinctMembers ms

end

end Handoff.Json
