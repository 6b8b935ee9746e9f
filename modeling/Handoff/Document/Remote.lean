/-!
# Remote services

A finished document may be handed to a service that knows better.  The service may decline.
-/

namespace Handoff

/-- A service that transforms documents for the holder of a credential. -/
structure RemoteService where
  transform : (credential document : String) → Option String

/-- The answer of a service, or else the document itself. -/
def finishRemotely (service : Option (RemoteService × String)) (document : String) : String :=
  match service with
  | none => document
  | some (r, credential) => (r.transform credential document).getD document

end Handoff
