import Handoff.Json.Scalar

/-!
# Reading records

A record is read from an object by the names of its fields, or from an array by their places.
Fields are declared one by one and put together applicatively: `Paint.mk <$> required … <*> …`.

The members of an object are checked in the order of the object, each as it is met: a second member
of a field, or a value that the field does not take.  Only then are absent fields noticed, in the
order of the declaration.  Members that belong to no field do not matter.
-/

namespace Handoff.Json

/-- How a record is read, where `π` stands at a field. -/
structure Fields (π α : Type) where
  /-- The names of the fields, each with the check of what stands there. -/
  checks : List (String × (π → Decoded Unit))
  /-- The record, given the error of an absent field and what stands at a field. -/
  build : (String → DecodeError) → (String → Option π) → Decoded α

namespace Fields

variable {π α β : Type}

/-- A field that may not be absent. -/
def required (key : String) (read : π → Decoded α) : Fields π α where
  checks := [(key, fun p => (read p).map fun _ => ())]
  build absent find :=
    match find key with
    | some p => read p
    | none => .error (absent key)

/-- A field that reads as `default` where it is absent. -/
def optional (key : String) (read : π → Decoded α) (default : α) : Fields π α where
  checks := [(key, fun p => (read p).map fun _ => ())]
  build _ find :=
    match find key with
    | some p => read p
    | none => .ok default

instance : Applicative (Fields π) where
  pure a := ⟨[], fun _ _ => .ok a⟩
  seq f x := ⟨f.checks ++ (x ()).checks, fun absent find => do
    let g ← f.build absent find
    let a ← (x ()).build absent find
    return g a⟩

/-- The names of the fields. -/
def keys (f : Fields π α) : List String :=
  f.checks.map (·.1)

/-- Checks the members in order, where `seen` are the fields met before them. -/
def scan (f : Fields π α) (seen : List String) : List (String × π) → Decoded Unit
  | [] => .ok ()
  | (key, p) :: ms =>
    match f.checks.lookup key with
    | none => f.scan seen ms
    | some check =>
      if seen.contains key then .error (.duplicateField key)
      else do
        check p
        f.scan (key :: seen) ms

/-- The record with the given members. -/
def ofMembers (f : Fields π α) (ms : List (String × π)) : Decoded α := do
  f.scan [] ms
  f.build .missingField fun key => ms.lookup key

/-- The record with the given items at its first fields. -/
def ofItems (f : Fields π α) (name : String) (items : List π) : Decoded α :=
  let absent key := .wrongLength (f.keys.idxOf key) (.recordItems name f.keys.length)
  f.build absent fun key => (f.keys.zip items).lookup key

/-- Reads a record called `name`.  An array has to end with the last field. -/
def read (f : Fields Value α) (name : String) : Value → Decoded α
  | .object ms => f.ofMembers ms
  | .array items => do
    let a ← f.ofItems name items
    if items.length ≤ f.keys.length then return a
    else throw (.wrongLength items.length (.items f.keys.length))
  | v => v.mistyped (.record name)

/-! ### Records in drafts -/

/-- Checks the members of a draft in order, passes over those of no field, and keeps the others. -/
def scanDraft (f : Fields Draft α) (seen : List String) :
    List (Except Fault String × Draft) → Decoded (List (String × Draft))
  | [] => .ok []
  | (key, d) :: ms => do
    let key ← Draft.lift key
    match f.checks.lookup key with
    | none =>
      Draft.lift d.skip
      f.scanDraft seen ms
    | some check =>
      if seen.contains key then throw (.duplicateField key)
      check d
      return (key, d) :: (← f.scanDraft (key :: seen) ms)

/-- Checks the items of a draft at the first fields. -/
def scanItems : List (String × (Draft → Decoded Unit)) → List Draft → Decoded Unit
  | (_, check) :: checks, d :: ds => do check d; scanItems checks ds
  | _, _ => .ok ()

/-- Reads a record called `name` from a draft.  `surplus` is the error of an array with too many
items. -/
def readDraft (f : Fields Draft α) (name : String) (surplus : Nat → DecodeError) :
    Draft → Decoded α
  | .object ms stop => do
    let known ← f.scanDraft [] ms
    Draft.lift (Draft.proceed stop)
    f.build .missingField fun key => known.lookup key
  | .array items stop => do
    scanItems f.checks items
    if f.keys.length < items.length then throw (surplus items.length)
    Draft.lift (Draft.proceed stop)
    f.ofItems name items
  | d => do (← d.head).mistyped (.record name)

end Fields

end Handoff.Json
