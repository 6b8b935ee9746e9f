import Handoff.Proofs.Markup.Element
import Handoff.Proofs.Markup.Entities

/-!
# Escaping loses nothing

No character that begins or ends a tag, an expression or an attribute is left in an escaped text.  An
ampersand is left in it only where it begins an entity (`Spelled`), and reading the entities from left
to right gives the text back, so different texts stay different (`lossless_escape`).

Escaping works character by character.  It does the same as two passes, the first for what markup
takes as its own and the second for braces: the second brings ampersands about that the first one
would have escaped, but none that it has to look at again (`escapeText_eq_passes`).
-/

namespace Handoff.Markup

/-! ### Entities -/

/-- The entities that are written for characters. -/
def entities : List (List Char) :=
  ["&amp;", "&lt;", "&gt;", "&quot;", "&#123;", "&#125;"].map String.toList

/-- A text in which every ampersand begins an entity. -/
def Spelled (s : List Char) : Prop :=
  ∀ a b, s = a ++ '&' :: b → ∃ e ∈ entities, e <+: '&' :: b

theorem spelled_nil : Spelled [] := by simp [Spelled]

theorem spelled_cons {c : Char} {s : List Char} (hc : c ≠ '&') (hs : Spelled s) :
    Spelled (c :: s) := by
  intro a b h
  cases a with
  | nil => exact absurd (List.cons.inj h).1 hc
  | cons d a => exact hs a b (List.cons.inj h).2

/-- An entity holds no other ampersand than the one that it begins with. -/
theorem exists_eq_ampersand_cons {e : List Char} (he : e ∈ entities) :
    ∃ t, e = '&' :: t ∧ '&' ∉ t := by
  have hentities : ∀ e ∈ entities, e.head? = some '&' ∧ '&' ∉ e.tail := by decide
  obtain ⟨hhead, htail⟩ := hentities e he
  exact ⟨e.tail, List.eq_cons_of_mem_head? hhead, htail⟩

theorem Spelled.entity_append {e s : List Char} (he : e ∈ entities) (hs : Spelled s) :
    Spelled (e ++ s) := by
  obtain ⟨t, rfl, ht⟩ := exists_eq_ampersand_cons he
  have hskip : ∀ t : List Char, '&' ∉ t → Spelled (t ++ s) := by
    intro t ht
    induction t with
    | nil => exact hs
    | cons c t ih =>
        rw [List.mem_cons, not_or] at ht
        exact spelled_cons (Ne.symm ht.1) (ih ht.2)
  intro a b h
  cases a with
  | nil =>
      rw [List.nil_append] at h
      exact ⟨_, he, h ▸ List.prefix_append _ _⟩
  | cons d a => exact hskip t ht a b (List.cons.inj h).2

/-- What is written for a character: an entity, or the character. -/
def WrittenFor (c : Char) (w : List Char) : Prop := w ∈ entities ∨ w = [c] ∧ c ≠ '&'

theorem spelled_flatMap {escape : Char → List Char} (h : ∀ c, WrittenFor c (escape c))
    (s : List Char) : Spelled (s.flatMap escape) := by
  induction s with
  | nil => exact spelled_nil
  | cons c s ih =>
      rw [List.flatMap_cons]
      rcases h c with he | ⟨hself, hc⟩
      · exact ih.entity_append he
      · rw [hself]
        exact spelled_cons hc ih

theorem writtenFor_escapeTextChar (c : Char) : WrittenFor c (escapeTextChar c) := by
  rw [escapeTextChar]
  split_ifs with hamp
  case neg => exact .inr ⟨rfl, hamp⟩
  all_goals exact .inl (by decide)

theorem writtenFor_escapeAttributeChar (c : Char) : WrittenFor c (escapeAttributeChar c) := by
  rw [escapeAttributeChar]
  split
  · exact .inl (by decide)
  · exact writtenFor_escapeTextChar c

/-! ### Two passes -/

/-- A character of a text between tags, where braces mean nothing. -/
def escapeMarkupChar (c : Char) : List Char :=
  if c = '&' then "&amp;".toList
  else if c = '<' then "&lt;".toList
  else if c = '>' then "&gt;".toList
  else [c]

/-- A brace of a text where only expressions mean something. -/
def escapeBraceChar (c : Char) : List Char :=
  if c = '\x7b' then "&#123;".toList
  else if c = '\x7d' then "&#125;".toList
  else [c]

theorem flatMap_escapeBraceChar_escapeMarkupChar (c : Char) :
    (escapeMarkupChar c).flatMap escapeBraceChar = escapeTextChar c := by
  rw [escapeMarkupChar, escapeTextChar]
  split_ifs with hamp hlt hgt hopen hclose
  · rfl
  · rfl
  · rfl
  · rw [hopen]
    rfl
  · rw [hclose]
    rfl
  · simp [escapeBraceChar, hopen, hclose]

theorem escapeText_eq_passes (s : String) :
    (escapeText s).toList = (s.toList.flatMap escapeMarkupChar).flatMap escapeBraceChar := by
  rw [escapeText, String.toList_ofList, List.flatMap_assoc]
  exact List.flatMap_congr fun c _ => (flatMap_escapeBraceChar_escapeMarkupChar c).symm

theorem escapeAttribute_eq_passes (s : String) :
    (escapeAttribute s).toList =
      (s.toList.flatMap fun c => if c = '"' then "&quot;".toList else escapeMarkupChar c).flatMap
        escapeBraceChar := by
  rw [escapeAttribute, String.toList_ofList, List.flatMap_assoc]
  refine List.flatMap_congr fun c _ => ?_
  rw [escapeAttributeChar]
  split
  · rfl
  · exact (flatMap_escapeBraceChar_escapeMarkupChar c).symm

/-! ### Reading back -/

/-- Escaping that leaves none of the characters `special` in a text, and no ampersand but those of
entities, and that can be undone. -/
structure Lossless (escape : String → String) (special : List Char) : Prop where
  not_mem : ∀ s, ∀ c ∈ special, c ∉ (escape s).toList
  spelled : ∀ s, Spelled (escape s).toList
  unescape : ∀ s, unescape (escape s).toList = s.toList
  injective : Function.Injective escape

theorem lossless_of_unescape {escape : String → String} {special : List Char}
    (hspecial : ∀ s, ∀ c ∈ special, c ∉ (escape s).toList)
    (hspelled : ∀ s, Spelled (escape s).toList)
    (hback : ∀ s, Markup.unescape (escape s).toList = s.toList) : Lossless escape special where
  not_mem := hspecial
  spelled := hspelled
  unescape := hback
  injective := by
    intro s t h
    rw [← String.toList_inj, ← hback s, ← hback t, h]

/-- A text between tags is read back. -/
theorem unescape_escapeText (s : String) : unescape (escapeText s).toList = s.toList := by
  rw [escapeText, String.toList_ofList]
  exact unescape_flatMap unescape_escapeTextChar s.toList

theorem Bare.not_mem_brackets {s : List Char} (h : Bare s) :
    ∀ c ∈ ['<', '>', '\x7b', '\x7d'], c ∉ s := by
  have hbracket : ∀ c ∈ ['<', '>', '\x7b', '\x7d'], isBracket c := by
    simp [isBracket]
  exact fun c hc => h.not_mem (hbracket c hc)

/-- Both ways of escaping lose nothing, whatever the text holds. -/
theorem lossless_escape :
    Lossless escapeText ['<', '>', '\x7b', '\x7d'] ∧
      Lossless escapeAttribute ['<', '>', '\x7b', '\x7d', '"'] := by
  constructor
  · refine lossless_of_unescape ?_ ?_ unescape_escapeText
    · exact fun s => (bare_escapeText s).not_mem_brackets
    · intro s
      rw [escapeText, String.toList_ofList]
      exact spelled_flatMap writtenFor_escapeTextChar s.toList
  · refine lossless_of_unescape ?_ ?_ unescape_escapeAttribute
    · intro s c hc
      rcases List.mem_append.mp (show c ∈ ['<', '>', '\x7b', '\x7d'] ++ ['"'] from hc) with hc | hc
      · exact (bare_escapeAttribute s).not_mem_brackets c hc
      · rw [List.mem_singleton.mp hc]
        exact quote_not_mem_escapeAttribute s
    · intro s
      rw [escapeAttribute, String.toList_ofList]
      exact spelled_flatMap writtenFor_escapeAttributeChar s.toList

/-- A text that looks like an entity already is read back as it was. -/
example : (escapeAttribute "&amp; \x7b\"a\" < b\x7d").toList =
    "&amp;amp; &#123;&quot;a&quot; &lt; b&#125;".toList := by decide

end Handoff.Markup
