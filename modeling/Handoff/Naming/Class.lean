/-!
# Class names

The class of a layer: some characters of its name, so that people recognise it, and its id, so that
no other layer has it.
-/

namespace Handoff

/-- The characters that a class keeps: ASCII letters and digits, the dash and the underscore. -/
def isClassChar (c : Char) : Bool :=
  c.isAlphanum || c == '-' || c == '_'

/-- The part of a class that stands for a name. -/
def classOfName (name : List Char) : List Char :=
  (name.take 8).filter isClassChar

/-- The part of a class that stands for an id.  Its separators are kept apart. -/
def classOfId (id : List Char) : List Char :=
  id.filterMap fun c =>
    if c = ':' then some '-'
    else if c = ';' then some '_'
    else if isClassChar c then some c
    else none

/-- The class of the layer `name` with the id `id`.  It starts like an identifier. -/
def className (name id : String) : String :=
  let cls := classOfName name.toList ++ '-' :: classOfId id.toList
  String.ofList <| match cls with
    | [] => ['_']
    | c :: _ => if c.isAlpha || c == '_' then cls else '_' :: cls

end Handoff
