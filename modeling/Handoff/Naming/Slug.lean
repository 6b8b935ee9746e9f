import Handoff.Text.Blank
import Handoff.Text.Casing

/-!
# Slugs

The value of a labelled choice: the words of the label in lower case, run together, and every word
after the first with a capital.
-/

namespace Handoff
open Text (lower upperChar words)

/-- `word` with its first character in upper case. -/
def capitalize : List Char → List Char
  | [] => []
  | c :: cs => upperChar c ++ cs

/-- The slug of a label. -/
def slug (label : String) : String :=
  String.ofList <| match words (lower label.toList) with
    | [] => []
    | w :: ws => w ++ ws.flatMap capitalize

end Handoff
