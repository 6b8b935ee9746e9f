import Handoff.Json.Error
import Handoff.Json.Reader

/-!
# Reading simple values

What a value holds, or the error that it holds something else.  A draft is read like the value that
its first token announces (`Draft.head`).
-/

namespace Handoff.Json

namespace Value

/-- What a message calls the value. -/
def kind : Value → Kind
  | null => .null
  | boolean b => .boolean b
  | number n => .number n
  | string s => .string s
  | array _ => .sequence
  | object _ => .map

/-- The error of a value of the wrong type. -/
def mistyped {α : Type} (v : Value) (e : Expected) : Decoded α :=
  .error (.wrongType v.kind e)

def text : Value → Decoded String
  | string s => .ok s
  | v => v.mistyped .text

def flag : Value → Decoded Bool
  | boolean b => .ok b
  | v => v.mistyped .boolean

def double : Value → Decoded Float
  | number n => .ok n.toDouble
  | v => v.mistyped .number

/-- An integer that is not negative. -/
def count : Value → Decoded Nat
  | number (.integer n) =>
    if 0 ≤ n then .ok n.toNat else .error (.wrongValue (.number (.integer n)) .count)
  | v => v.mistyped .count

/-- `null` is the absence of a value. -/
def orNull {α : Type} (read : Value → Decoded α) : Value → Decoded (Option α)
  | null => .ok none
  | v => (read v).map some

def listOf {α : Type} (read : Value → Decoded α) : Value → Decoded (List α)
  | array items => items.mapM read
  | v => v.mistyped .sequence

end Value

namespace Draft

/-- Raises the fault of a reader, if it met one. -/
def lift {α : Type} (r : Except Fault α) : Decoded α :=
  r.mapError .unreadable

/-- The value that a draft begins, without what is inside it. -/
def head : Draft → Decoded Value
  | null => .ok .null
  | boolean b => .ok (.boolean b)
  | number n => .ok (.number n)
  | string s => .ok (.string s)
  | array _ _ => .ok (.array [])
  | object _ _ => .ok (.object [])
  | flawed f _ => .error (.unreadable f)

/-- Reads a simple value. -/
def simple {α : Type} (read : Value → Decoded α) (d : Draft) : Decoded α := do
  read (← d.head)

def listOf {α : Type} (read : Draft → Decoded α) : Draft → Decoded (List α)
  | array items stop => do
    let as ← items.mapM read
    lift (proceed stop)
    return as
  | d => do (← d.head).mistyped .sequence

/-- Reads a text that should hold one value and nothing else. -/
def decode {α : Type} (read : Draft → Decoded α) (text : String) : Decoded α := do
  let (d, behind) := ofText text
  let a ← read d
  lift (proceed behind)
  return a

end Draft

end Handoff.Json
