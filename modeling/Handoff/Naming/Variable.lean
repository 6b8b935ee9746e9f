import Handoff.Digest.Sha256
import Handoff.Text.Hex

/-!
# Variable names

Widgets that keep state share it through variables, named after a digest of the id of their node.
-/

namespace Handoff

/-- The first ten hexadecimal digits of the digest of an id. -/
def shortDigest (id : String) : String :=
  let bytes := (Digest.sha256 id.toUTF8.toList).flatMap fun w => Digest.toBytes 4 w.toNat
  String.ofList ((bytes.flatMap Text.hexByte).take 10)

/-- The name of the state of the node `id`, after the kind of the widget. -/
def stateName (kind id : String) : String :=
  kind ++ "_" ++ shortDigest id

end Handoff
