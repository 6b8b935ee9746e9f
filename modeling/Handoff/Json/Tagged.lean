import Handoff.Json.Scalar

/-!
# Tagged values

A value of one of several shapes names its shape in a tag: a member of its object, or the first
item of its array.  Inside other values a tag may also be written as the place of the shape in the
list of shapes.
-/

namespace Handoff.Json

inductive Tag where
  | name (name : String)
  | index (place : Nat)

/-- The spellings of a tag that are understood. -/
inductive TagForm where
  | nameOnly
  | nameOrIndex

/-- Reads a tag. -/
def TagForm.read : TagForm → Value → Decoded Tag
  | _, .string s => .ok (.name s)
  | nameOrIndex, .number (.integer n) =>
    if 0 ≤ n then .ok (.index n.toNat) else .error (.wrongType (.number (.integer n)) .tag)
  | _, v => v.mistyped .tag

/-- The shape that a tag names, out of `shapes`. -/
def Tag.find? {α : Type} (shapes : List (String × α)) : Tag → Option α
  | name s => shapes.lookup s
  | index i => shapes[i]?.map (·.2)

/-- The shape that a tag names, when every shape is known. -/
def Tag.known {α : Type} (shapes : List (String × α)) (t : Tag) : Decoded α :=
  match t.find? shapes, t with
  | some a, _ => .ok a
  | none, name s => .error (.unknownVariant s (shapes.map (·.1)))
  | none, index i => .error (.wrongValue (.number (.integer i)) (.tagIndex shapes.length))

/-- What a tagged value holds besides its tag, where `π` stands at a member. -/
inductive Body (π : Type) where
  | members (ms : List (String × π))
  | items (vs : List Value)

namespace Body

/-- Nothing has to be there.  Further members do not matter; further items do. -/
def ignore {π : Type} : Body π → Decoded Unit
  | members _ => .ok ()
  | items [] => .ok ()
  | items vs => .error (.wrongLength vs.length (.items 0))

/-- A body as a value of its own. -/
def value : Body Value → Value
  | members ms => .object ms
  | items vs => .array vs

end Body

/-- Takes the tag, a member called `key`, out of the members of an object; `tag` is the one met
before them. -/
def takeTag {π : Type} (form : TagForm) (key : String) (value : π → Value) (tag : Option Tag) :
    List (String × π) → Decoded (Option Tag × List (String × π))
  | [] => .ok (tag, [])
  | m :: ms =>
    if m.1 = key then
      if tag.isSome then .error (.duplicateField key)
      else do
        let t ← form.read (value m.2)
        takeTag form key value (some t) ms
    else do
      let (t, rest) ← takeTag form key value tag ms
      return (t, m :: rest)

/-- The tag of an object and its other members. -/
def untagMembers {π : Type} (form : TagForm) (key : String) (value : π → Value)
    (ms : List (String × π)) : Decoded (Tag × Body π) := do
  match ← takeTag form key value none ms with
  | (some t, rest) => return (t, .members rest)
  | (none, _) => throw (.missingField key)

/-- The tag of an array and its other items. -/
def untagItems {π : Type} (form : TagForm) (key : String) :
    List Value → Decoded (Tag × Body π)
  | [] => .error (.missingField key)
  | v :: vs => do return (← form.read v, .items vs)

/-- The tag of a value of `name`, and what the value holds besides. -/
def untag (form : TagForm) (key name : String) : Value → Decoded (Tag × Body Value)
  | .object ms => untagMembers form key id ms
  | .array vs => untagItems form key vs
  | v => v.mistyped (.tagged name)

end Handoff.Json
