import Handoff.Component.Error
import Handoff.Json.Error

/-!
# Failures

Everything that can go wrong between a text that describes a scene and the document of its
component: one of the inputs cannot be read, or the component cannot be generated.
-/

namespace Handoff
open Json (DecodeError Fault)

inductive Failure where
  | node (cause : DecodeError)
  | options (cause : DecodeError)
  | tokenCatalog (cause : DecodeError)
  | componentCatalog (cause : DecodeError)
  | generation (cause : GenerationError)

namespace Failure

/-- What is at fault, and the cause if there are words for it. -/
def describe (subject : String) (cause : DecodeError) : String :=
  match cause.wording? with
  | some words => subject ++ ": " ++ words
  | none => subject

def message : Failure → String
  | node e => describe "Invalid scene node" e
  | options e => describe "Invalid generate options" e
  | tokenCatalog e => describe "Invalid color token catalog" e
  | componentCatalog e => describe "Invalid component catalog" e
  | generation e => e.message

end Failure

end Handoff
