import Handoff.Text.Casing.Table

/-!
# Upper and lower case

Unicode's full case mappings.  Only one of them looks at the neighbours of a character: a capital
sigma becomes the final form at the end of a word.
-/

namespace Handoff.Text

/-- `c` under a case mapping given by its expansions and its runs. -/
def mapCase (expansions : List (Nat × List Nat)) (runs : List CaseRun) (c : Char) : List Char :=
  match expansions.lookup c.toNat with
  | some image => image.map Char.ofNat
  | none => [Char.ofNat ((runs.findSome? (·.image? c.toNat)).getD c.toNat)]

/-- The upper case of one character. -/
def upperChar (c : Char) : List Char :=
  mapCase upperExpansions upperRuns c

/-- The lower case of one character, regardless of its neighbours. -/
def lowerChar (c : Char) : List Char :=
  mapCase lowerExpansions lowerRuns c

/-- Whether the first character of `s` that is not case-ignorable is cased. -/
def meetsCased (s : List Char) : Bool :=
  match s.dropWhile caseIgnorableIntervals.contains with
  | [] => false
  | c :: _ => casedIntervals.contains c

/-- The lower case of `s`, where `before` precedes it in reverse order. -/
def lowerAfter (before : List Char) : List Char → List Char
  | [] => []
  | c :: s =>
    (if c = 'Σ' then [if meetsCased before && !meetsCased s then 'ς' else 'σ'] else lowerChar c)
      ++ lowerAfter (c :: before) s

/-- The lower case of `s`: a sigma is final if a cased letter precedes it and none follows. -/
def lower (s : List Char) : List Char :=
  lowerAfter [] s

end Handoff.Text
