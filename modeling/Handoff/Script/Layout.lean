import Handoff.Script.Imports
import Handoff.Script.Split

/-!
# Formatting scripts

Imports come first, merged; after a blank line all other statements follow in order.  Every
statement starts a line and is indented once.
-/

namespace Handoff.Script

/-- Lines, each indented once. -/
def indented (lines : List (List Char)) : List Char :=
  ['\n'].intercalate (lines.map ('\t' :: ·))

/-- Formats a script. -/
def format (script : List Char) : List Char :=
  let (imports, others) := (statements script).partition isImport
  let sections := [indented (mergeImports imports), indented (others.map (· ++ [';']))]
  ['\n', '\n'].intercalate (sections.filter (!·.isEmpty))

end Handoff.Script
