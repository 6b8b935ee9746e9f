import Handoff.Json.Value

/-!
# JSON texts read as far as they go

A `Draft` is what a text says up to its first fault, with the fault standing where reading
stopped.  So a reader of drafts meets what is wrong in the order of the text: a value of the wrong
shape before a fault behind it, a fault before what it hides.

Some scalars are faulty only if somebody looks at them: strings with unpaired surrogates and
numbers beyond every double may be passed over, but not read.

* `Draft.value`: reading everything, at most 127 brackets deep.
* `Draft.skip`: passing over everything.
-/

namespace Handoff.Json

/-- Why a text is not a JSON value: it ends too early, or it is malformed. -/
inductive Fault where
  | ended
  | malformed

inductive Draft where
  | null
  | boolean (value : Bool)
  | number (value : Number)
  | string (value : String)
  /-- The items before `stop`, or before the closing bracket. -/
  | array (items : List Draft) (stop : Option Fault)
  /-- The members before `stop`, or before the closing bracket.  A key may be faulty to read. -/
  | object (members : List (Except Fault String × Draft)) (stop : Option Fault)
  /-- A value that cannot be read, and what comes of passing over it. -/
  | flawed (read : Fault) (skip : Option Fault)

namespace Draft

/-- A fault for readers and non-readers alike. -/
def broken (f : Fault) : Draft :=
  flawed f (some f)

/-- Succeeds unless something stopped the reader. -/
def proceed : Option Fault → Except Fault Unit
  | none => .ok ()
  | some f => .error f

mutual

/-- Passes over a value. -/
def skip : Draft → Except Fault Unit
  | null => .ok ()
  | boolean _ => .ok ()
  | number _ => .ok ()
  | string _ => .ok ()
  | array items stop => do skipItems items; proceed stop
  | object members stop => do skipMembers members; proceed stop
  | flawed _ f => proceed f

def skipItems : List Draft → Except Fault Unit
  | [] => .ok ()
  | d :: ds => do skip d; skipItems ds

def skipMembers : List (Except Fault String × Draft) → Except Fault Unit
  | [] => .ok ()
  | (_, d) :: ms => do skip d; skipMembers ms

end

mutual

/-- Reads a whole value of at most `room` nested arrays and objects. -/
def value : Nat → Draft → Except Fault Value
  | _, null => .ok .null
  | _, boolean b => .ok (.boolean b)
  | _, number n => .ok (.number n)
  | _, string s => .ok (.string s)
  | 0, array _ _ => .error .malformed
  | room + 1, array items stop => do
    let vs ← values room items
    proceed stop
    return .array vs
  | 0, object _ _ => .error .malformed
  | room + 1, object members stop => do
    let ms ← memberValues room members
    proceed stop
    return .object ms
  | _, flawed f _ => .error f

def values : Nat → List Draft → Except Fault (List Value)
  | _, [] => .ok []
  | room, d :: ds => do
    let v ← value room d
    let vs ← values room ds
    return v :: vs

def memberValues :
    Nat → List (Except Fault String × Draft) → Except Fault (List (String × Value))
  | _, [] => .ok []
  | room, (key, d) :: ms => do
    let k ← key
    let v ← value room d
    let vs ← memberValues room ms
    return (k, v) :: vs

end

mutual

/-- A value as the draft of some text of it. -/
def ofValue : Value → Draft
  | .null => null
  | .boolean b => boolean b
  | .number n => number n
  | .string s => string s
  | .array items => array (ofValues items) none
  | .object members => object (ofMembers members) none

def ofValues : List Value → List Draft
  | [] => []
  | v :: vs => ofValue v :: ofValues vs

def ofMembers : List (String × Value) → List (Except Fault String × Draft)
  | [] => []
  | (k, v) :: ms => (.ok k, ofValue v) :: ofMembers ms

end

/-- The brackets that may be open at once in a text that is read. -/
def maxDepth : Nat := 127

end Draft

end Handoff.Json
