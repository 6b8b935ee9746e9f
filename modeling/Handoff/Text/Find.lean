/-!
# Finding a mark in a text

`cut mark s` splits `s` around the first occurrence of `mark`.
-/

namespace Handoff.Text

/-- What precedes and what follows the first `mark` in `s`, where `seen` precedes `s` in reverse
order. -/
def cutAfter (mark : List Char) (seen : List Char) : List Char → Option (List Char × List Char)
  | [] => if mark.isEmpty then some (seen.reverse, []) else none
  | c :: s =>
    match mark.isPrefixOf? (c :: s) with
    | some rest => some (seen.reverse, rest)
    | none => cutAfter mark (c :: seen) s

/-- What precedes and what follows the first occurrence of `mark`. -/
def cut (mark s : List Char) : Option (List Char × List Char) :=
  cutAfter mark [] s

end Handoff.Text
