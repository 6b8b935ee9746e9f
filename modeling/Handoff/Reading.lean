import Handoff.Catalog.Builtin
import Handoff.Document.Generate
import Handoff.Failure
import Handoff.Scene.Decode

/-!
# From texts to documents

The readers of all inputs, with failures that say which input is at fault.
-/

namespace Handoff
open Json (Decoded Value)

/-- The catalogs in two texts; the tokens are read first. -/
def readCatalogs (tokens components : String) : Except Failure Catalogs := do
  let t ← (TokenCatalog.ofText tokens).mapError .tokenCatalog
  let c ← (ComponentCatalog.ofText components).mapError .componentCatalog
  return ⟨t, c⟩

/-- The options in a text, which have to be usable. -/
def readOptions (text : String) : Except Failure Options := do
  let o ← (Options.ofText text).mapError .options
  o.check.mapError .generation
  return o

/-- The scene in a text. -/
def readNode (text : String) : Except Failure Node :=
  (Node.ofText text).mapError .node

/-- The document of the scene in a text, with the built-in catalogs. -/
def documentOfText (text : String) (o : Options) : Except Failure String := do
  let root ← readNode text
  (root.document ⟨.builtin, o⟩).mapError .generation

end Handoff
