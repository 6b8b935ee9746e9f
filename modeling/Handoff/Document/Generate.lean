import Handoff.Component.Assembly
import Handoff.Document.Compose
import Handoff.Document.Format

/-!
# Generating documents

From a scene to the document of its component.
-/

namespace Handoff

/-- A document, formatted. -/
def formatDocument (document : String) : String :=
  String.ofList (Document.format document.toList)

/-- The document of a scene, formatted if the options say so. -/
def Node.document (s : Setting) (root : Node) : Except GenerationError String := do
  let f ← root.generate s
  return if s.options.format then formatDocument f.document else f.document

end Handoff
