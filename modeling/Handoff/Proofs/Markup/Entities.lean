import Handoff.Markup.Element
import Handoff.Proofs.Text.Mark

/-!
# Attributes are read back

What is escaped is read back from left to right (`unescape_escapeAttribute`).  No quote is left in
an escaped text, so that the text of an attribute can be told from what is behind it
(`attribute?_append`).
-/

namespace Handoff.Markup
open Text (Avoids cut)

/-! ### Entities -/

/-- The text that entities stand for, in one pass. -/
def unescape : List Char → List Char
  | [] => []
  | '&' :: 'a' :: 'm' :: 'p' :: ';' :: s => '&' :: unescape s
  | '&' :: 'l' :: 't' :: ';' :: s => '<' :: unescape s
  | '&' :: 'g' :: 't' :: ';' :: s => '>' :: unescape s
  | '&' :: 'q' :: 'u' :: 'o' :: 't' :: ';' :: s => '"' :: unescape s
  | '&' :: '#' :: '1' :: '2' :: '3' :: ';' :: s => '\x7b' :: unescape s
  | '&' :: '#' :: '1' :: '2' :: '5' :: ';' :: s => '\x7d' :: unescape s
  | c :: s => c :: unescape s

theorem unescape_escapeTextChar (c : Char) (s : List Char) :
    unescape (escapeTextChar c ++ s) = c :: unescape s := by
  rw [escapeTextChar]
  split_ifs with hamp hlt hgt hopen hclose
  · subst hamp
    simp [unescape]
  · subst hlt
    simp [unescape]
  · subst hgt
    simp [unescape]
  · subst hopen
    simp [unescape]
  · subst hclose
    simp [unescape]
  · simp [unescape, hamp]

theorem unescape_escapeAttributeChar (c : Char) (s : List Char) :
    unescape (escapeAttributeChar c ++ s) = c :: unescape s := by
  rw [escapeAttributeChar]
  split_ifs with hquote
  · subst hquote
    simp [unescape]
  · exact unescape_escapeTextChar c s

theorem unescape_flatMap {escape : Char → List Char}
    (h : ∀ c s, unescape (escape c ++ s) = c :: unescape s) (s : List Char) :
    unescape (s.flatMap escape) = s := by
  induction s with
  | nil => rw [List.flatMap_nil, unescape]
  | cons c s ih => rw [List.flatMap_cons, h, ih]

/-- A text in an attribute is read back. -/
theorem unescape_escapeAttribute (s : String) : unescape (escapeAttribute s).toList = s.toList := by
  rw [escapeAttribute, String.toList_ofList]
  exact unescape_flatMap unescape_escapeAttributeChar s.toList

theorem quote_not_mem_escapeAttribute (s : String) : '"' ∉ (escapeAttribute s).toList := by
  rw [escapeAttribute, String.toList_ofList]
  intro hm
  obtain ⟨c, -, hc⟩ := List.mem_flatMap.mp hm
  rw [escapeAttributeChar, escapeTextChar] at hc
  split_ifs at hc with hquote
  case neg => exact hquote (List.mem_singleton.mp hc).symm
  all_goals exact absurd hc (by decide)

/-! ### Attributes -/

/-- The text before the value of an attribute. -/
def attributeMark (name : String) : List Char := ' ' :: (name.toList ++ ['=', '"'])

/-- The text of the first attribute called `name` in a markup. -/
def attribute? (name : String) (markup : List Char) : Option (List Char) :=
  (cut (attributeMark name) markup).map fun r => unescape (r.2.takeWhile (· != '"'))

/-- An attribute is read behind a text without one of its name. -/
theorem attribute?_append {name : String} {before : List Char} (hname : ' ' ∉ name.toList)
    (h : Avoids (attributeMark name) before) (value : String) (after : List Char) :
    attribute? name (before ++ ((Attribute.text name value).render.toList ++ after)) =
      some value.toList := by
  have hrender : (Attribute.text name value).render.toList ++ after =
      attributeMark name ++ ((escapeAttribute value).toList ++ '"' :: after) := by
    simp [Attribute.render, attributeMark]
  have hcut : cut (attributeMark name)
      (before ++ (attributeMark name ++ ((escapeAttribute value).toList ++ '"' :: after))) =
        some (before, (escapeAttribute value).toList ++ '"' :: after) :=
    Text.cut_append (by simpa using hname) h _
  have hquote : ∀ c ∈ (escapeAttribute value).toList, (c != '"') = true := by
    intro c hc
    rw [bne_iff_ne]
    rintro rfl
    exact quote_not_mem_escapeAttribute value hc
  rw [attribute?, hrender, hcut, Option.map_some, List.takeWhile_append_of_pos hquote,
    List.takeWhile_cons_of_neg (by simp), List.append_nil, unescape_escapeAttribute]

end Handoff.Markup
