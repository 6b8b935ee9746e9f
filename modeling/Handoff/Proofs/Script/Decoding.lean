import Handoff.Script.Statement
import Handoff.Text.Hex

/-!
# Literals are read back

A literal is read from left to right: a backslash stands for something with what is behind it, and
the first quote without one ends the text (`readQuoted`).  So the text between the quotes of a
literal is the one that was quoted (`unquote_singleQuoted`).
-/

namespace Handoff.Script

/-- What a character behind a backslash stands for. -/
def unescaped (c : Char) : Char :=
  if c = 'b' then '\x08'
  else if c = 't' then '\t'
  else if c = 'n' then '\n'
  else if c = 'f' then '\x0c'
  else if c = 'r' then '\r'
  else c

/-- The character with the code point that hexadecimal digits name. -/
def charOfHex? (digits : List Char) : Option Char :=
  (digits.foldlM (fun n d => (Text.hexDigit? d).map (16 * n + ·)) 0).map Char.ofNat

/-- The text up to the quote that ends it, and what stands behind the quote. -/
def readQuoted (quote : Char) : List Char → Option (List Char × List Char)
  | [] => none
  | '\\' :: 'u' :: a :: b :: c :: d :: s => do
    let e ← charOfHex? [a, b, c, d]
    let (t, rest) ← readQuoted quote s
    return (e :: t, rest)
  | '\\' :: c :: s => do
    let (t, rest) ← readQuoted quote s
    return (unescaped c :: t, rest)
  | c :: s =>
    if c = quote then some ([], s)
    else do
      let (t, rest) ← readQuoted quote s
      return (c :: t, rest)

/-- The text of a literal between quotes of either kind, if it is one. -/
def unquote : List Char → Option (List Char)
  | [] => none
  | quote :: s =>
    if quote = '\'' ∨ quote = '"' then
      ((readQuoted quote s).filter (·.2.isEmpty)).map (·.1)
    else none

theorem readQuoted_flatMap_escapeSingle (s rest : List Char) :
    readQuoted '\'' (s.flatMap escapeSingle ++ '\'' :: rest) = some (s, rest) := by
  induction s with
  | nil => simp [readQuoted]
  | cons c s ih =>
      rw [List.flatMap_cons, List.append_assoc, escapeSingle]
      by_cases hslash : c = '\\'
      · subst hslash
        simp [readQuoted, unescaped, ih]
      · by_cases hquote : c = '\''
        · subst hquote
          simp [readQuoted, unescaped, ih]
        · rw [if_neg hslash, if_neg hquote, List.singleton_append]
          simp [readQuoted, hslash, hquote, ih]

/-- A text between single quotes is read back. -/
theorem unquote_singleQuoted (s : String) : unquote (singleQuoted s).toList = some s.toList := by
  simp [singleQuoted, unquote, readQuoted_flatMap_escapeSingle]

theorem singleQuoted_inj {s t : String} : singleQuoted s = singleQuoted t ↔ s = t := by
  constructor
  · intro h
    have hread := congrArg (fun l => unquote l.toList) h
    simp only [unquote_singleQuoted, Option.some.injEq, String.toList_inj] at hread
    exact hread
  · rintro rfl
    rfl

end Handoff.Script
