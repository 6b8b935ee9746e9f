import Handoff.Proofs.Text.Words
import Handoff.Text.Find

/-!
# Texts without a mark

A text avoids a mark that does not occur in it.  Where texts are put together, a mark occurs in one
of them unless it lies across a seam.  It cannot if the seam holds a character that is not in the
mark (`avoids_append_cons`), or if the mark begins with the character behind the seam and has it
nowhere else (`avoids_append_start`).

`cut` finds the first occurrence of such a mark, so it finds the one behind a text that avoids it
(`cut_append`).
-/

namespace Handoff.Text

/-- `mark` does not occur in `s`. -/
def Avoids (mark s : List Char) : Prop := ¬ mark <:+: s

instance (mark s : List Char) : Decidable (Avoids mark s) :=
  @instDecidableNot _ (List.instDecidableIsInfixOfDecidableEq mark s)

theorem Avoids.of_isInfix {mark s t : List Char} (h : Avoids mark s) (ht : t <:+: s) :
    Avoids mark t :=
  fun hm => h (hm.trans ht)

theorem avoids_of_not_mem {c : Char} {m s : List Char} (h : c ∉ s) : Avoids (c :: m) s :=
  fun hm => h (hm.subset (by simp))

theorem avoids_append_cons {mark a s : List Char} {x : Char} (hx : x ∉ mark)
    (ha : Avoids mark a) (hs : Avoids mark s) : Avoids mark (a ++ x :: s) := by
  intro h
  rcases List.infix_append_iff.mp h with h | h | ⟨l₁, l₂, rfl, h₁, h₂⟩
  · exact ha h
  · rcases List.infix_cons_iff.mp h with h | h
    · rcases List.prefix_cons_iff.mp h with rfl | ⟨t, rfl, -⟩
      · exact ha List.nil_infix
      · exact hx (by simp)
    · exact hs h
  · rcases List.prefix_cons_iff.mp h₂ with rfl | ⟨t, rfl, -⟩
    · rw [List.append_nil] at ha
      exact ha h₁.isInfix
    · exact hx (by simp)

theorem avoids_append_start {m a s : List Char} {c : Char} (hc : c ∉ m)
    (ha : Avoids (c :: m) a) (hs : Avoids (c :: m) (c :: s)) : Avoids (c :: m) (a ++ c :: s) := by
  intro h
  rcases List.infix_append_iff.mp h with h | h | ⟨l₁, l₂, h, h₁, h₂⟩
  · exact ha h
  · exact hs h
  · cases l₁ with
    | nil =>
        rw [List.nil_append] at h
        exact hs (h ▸ h₂.isInfix)
    | cons d l₁ =>
        rw [List.cons_append, List.cons.injEq] at h
        obtain ⟨rfl, rfl⟩ := h
        rcases List.prefix_cons_iff.mp h₂ with rfl | ⟨t, rfl, -⟩
        · rw [List.append_nil] at ha
          exact ha h₁.isInfix
        · exact hc (by simp)

/-- No mark begins in a text without its first character. -/
theorem avoids_append_of_not_mem {m a s : List Char} {c : Char} (ha : c ∉ a) :
    Avoids (c :: m) (a ++ s) ↔ Avoids (c :: m) s := by
  constructor
  · exact fun h => h.of_isInfix (List.suffix_append a s).isInfix
  · intro hs
    induction a with
    | nil => exact hs
    | cons d a ih =>
        rw [List.mem_cons, not_or] at ha
        intro h
        rcases List.infix_cons_iff.mp h with h | h
        · exact ha.1 (List.cons_prefix_cons.mp h).1
        · exact ih ha.2 h

/-- A mark is on one side of a character that it does not have. -/
theorem avoids_append_cons_iff {mark a s : List Char} {x : Char} (hx : x ∉ mark) :
    Avoids mark (a ++ x :: s) ↔ Avoids mark a ∧ Avoids mark s := by
  constructor
  · intro h
    exact ⟨h.of_isInfix (List.prefix_append a _).isInfix,
      h.of_isInfix ((List.suffix_cons x s).trans (List.suffix_append a _)).isInfix⟩
  · rintro ⟨ha, hs⟩
    exact avoids_append_cons hx ha hs

theorem avoids_append_append {mark sep a s : List Char} (hsep : ∀ x ∈ sep, x ∉ mark)
    (hne : sep ≠ []) (ha : Avoids mark a) (hs : Avoids mark s) : Avoids mark (a ++ sep ++ s) := by
  have hnil : Avoids mark [] := ha.of_isInfix List.nil_infix
  induction sep generalizing a with
  | nil => exact absurd rfl hne
  | cons x sep ih =>
      have hx : x ∉ mark := hsep x (by simp)
      rw [List.append_assoc, List.cons_append]
      cases sep with
      | nil => exact avoids_append_cons hx ha hs
      | cons y sep =>
          exact avoids_append_cons hx ha (ih (fun z hz => hsep z (by simp [hz])) (by simp) hnil)

/-- A mark that has no character of a separator does not occur where texts that avoid it are
joined. -/
theorem avoids_intercalate {mark sep : List Char} {ls : List (List Char)}
    (hsep : ∀ x ∈ sep, x ∉ mark) (hne : sep ≠ []) (hm : mark ≠ [])
    (hls : ∀ l ∈ ls, Avoids mark l) : Avoids mark (sep.intercalate ls) := by
  induction ls with
  | nil => exact fun h => hm (List.infix_nil.mp h)
  | cons l ls ih =>
      cases ls with
      | nil => exact List.intercalate_singleton ▸ hls l (by simp)
      | cons l' ls =>
          rw [List.intercalate_cons_cons]
          exact avoids_append_append hsep hne (hls l (by simp))
            (ih fun k hk => hls k (by simp [hk]))

theorem Avoids.ne_nil {mark s : List Char} (h : Avoids mark s) : mark ≠ [] := by
  rintro rfl
  exact h List.nil_infix

/-- Single spaces bring no mark about that has no space. -/
theorem Avoids.singleSpaced {mark s : List Char} (h : Avoids mark s) (hm : ' ' ∉ mark) :
    Avoids mark (singleSpaced s) := by
  refine avoids_intercalate (by simpa using hm) (by simp) h.ne_nil fun w hw => ?_
  exact h.of_isInfix (infix_of_mem_words hw)

/-! ### Marks of tags -/

/-- The characters that tags begin with. -/
def isTagChar (c : Char) : Bool :=
  c.isAlpha || c == '<' || c == '/' || c == '>'

/-- The beginning of a tag: `<`, and behind it letters, `/` and `>`. -/
def TagMark : List Char → Prop
  | '<' :: m => ∀ c ∈ m, c.isAlpha ∨ c = '/' ∨ c = '>'
  | _ => False

theorem TagMark.not_mem {mark : List Char} (h : TagMark mark) {x : Char}
    (hx : isTagChar x = false) : x ∉ mark := by
  intro hm
  simp only [isTagChar, Bool.or_eq_false_iff, beq_eq_false_iff_ne] at hx
  obtain ⟨⟨⟨halpha, hlt⟩, hslash⟩, hgt⟩ := hx
  unfold TagMark at h
  split at h
  · next m =>
      rcases List.mem_cons.mp hm with rfl | hm
      · exact hlt rfl
      · rcases h x hm with h | rfl | rfl
        · rw [halpha] at h
          cases h
        · exact hslash rfl
        · exact hgt rfl
  · exact h

theorem TagMark.avoids {mark s : List Char} (h : TagMark mark) (hs : '<' ∉ s) :
    Avoids mark s := by
  unfold TagMark at h
  split at h
  · exact avoids_of_not_mem hs
  · exact h.elim

/-- Any other character between two texts keeps them from making up a mark. -/
theorem TagMark.append_cons {mark a s : List Char} {x : Char} (h : TagMark mark)
    (hx : isTagChar x = false) (ha : Avoids mark a) (hs : Avoids mark s) :
    Avoids mark (a ++ x :: s) :=
  avoids_append_cons (h.not_mem hx) ha hs

theorem TagMark.exists_eq_cons {mark : List Char} (h : TagMark mark) :
    ∃ m, mark = '<' :: m ∧ '<' ∉ m := by
  unfold TagMark at h
  split at h
  · next m =>
      exact ⟨m, rfl, fun hm => by simpa using h '<' hm⟩
  · exact h.elim

/-- Letters are ASCII letters. -/
theorem toNat_of_isAlpha {c : Char} (h : c.isAlpha) :
    65 ≤ c.toNat ∧ c.toNat ≤ 90 ∨ 97 ≤ c.toNat ∧ c.toNat ≤ 122 := by
  have hletters : c.isAlpha =
      (decide ('A'.val ≤ c.val ∧ c.val ≤ 'Z'.val) ||
        (decide ('a'.val ≤ c.val) && decide (c.val ≤ 'z'.val))) := rfl
  rw [hletters] at h
  simp only [Bool.or_eq_true, Bool.and_eq_true, decide_eq_true_eq, UInt32.le_iff_toNat_le,
    Char.toNat_val] at h
  exact h

theorem not_isAlpha_of_isBlank {c : Char} (h : isBlank c) : c.isAlpha = false := by
  rw [Bool.eq_false_iff]
  intro ha
  have hletter := toNat_of_isAlpha ha
  simp only [isBlank, Bool.or_eq_true, Bool.and_eq_true, decide_eq_true_eq, beq_iff_eq] at h
  omega

theorem not_isAlphanum_of_isBlank {c : Char} (h : isBlank c) : c.isAlphanum = false := by
  rw [Char.isAlphanum, not_isAlpha_of_isBlank h, Bool.false_or, Bool.eq_false_iff]
  intro hd
  have hdigit : 48 ≤ c.toNat ∧ c.toNat ≤ 57 := Char.isDigit_iff_toNat.mp hd
  simp only [isBlank, Bool.or_eq_true, Bool.and_eq_true, decide_eq_true_eq, beq_iff_eq] at h
  omega

theorem TagMark.not_mem_of_isBlank {mark : List Char} (h : TagMark mark) {x : Char}
    (hx : isBlank x) : x ∉ mark := by
  refine h.not_mem ?_
  have hne : ∀ d : Char, isBlank d = false → (x == d) = false := by
    rintro d hd
    rw [beq_eq_false_iff_ne]
    rintro rfl
    rw [hd] at hx
    cases hx
  rw [isTagChar, not_isAlpha_of_isBlank hx, hne '<' rfl, hne '/' rfl, hne '>' rfl]
  rfl

theorem TagMark.append_blank {mark a b : List Char} (h : TagMark mark) (ha : Avoids mark a)
    (hb : Blank b) : Avoids mark (a ++ b) := by
  by_cases hne : b = []
  · rwa [hne, List.append_nil]
  · have h' := avoids_append_append (fun x hx => h.not_mem_of_isBlank (hb x hx)) hne ha
      (h.avoids (s := []) (by simp))
    rwa [List.append_nil] at h'

theorem TagMark.blank_append {mark b s : List Char} (h : TagMark mark) (hb : Blank b)
    (hs : Avoids mark s) : Avoids mark (b ++ s) := by
  by_cases hne : b = []
  · rwa [hne]
  · exact avoids_append_append (fun x hx => h.not_mem_of_isBlank (hb x hx)) hne
      (h.avoids (s := []) (by simp)) hs

/-! ### Cutting at a mark -/

theorem isPrefixOf?_eq_some_iff {l s t : List Char} :
    l.isPrefixOf? s = some t ↔ s = l ++ t := by
  induction l generalizing s with
  | nil => simp [List.isPrefixOf?, eq_comm]
  | cons c l ih =>
      cases s with
      | nil => simp [List.isPrefixOf?]
      | cons d s =>
          by_cases hcd : c = d
          · simp [List.isPrefixOf?, hcd, ih]
          · simp [List.isPrefixOf?, hcd, Ne.symm hcd]

theorem cutAfter_eq_none {mark s : List Char} (h : Avoids mark s) (seen : List Char) :
    cutAfter mark seen s = none := by
  induction s generalizing seen with
  | nil => simp [cutAfter, h.ne_nil]
  | cons c s ih =>
      have hp : mark.isPrefixOf? (c :: s) = none := by
        by_contra hp
        obtain ⟨t, ht⟩ := Option.ne_none_iff_exists'.mp hp
        exact h ⟨[], t, (isPrefixOf?_eq_some_iff.mp ht).symm⟩
      rw [cutAfter, hp]
      exact ih (h.of_isInfix (List.infix_cons List.infix_rfl)) _

theorem cut_eq_none {mark s : List Char} (h : Avoids mark s) : cut mark s = none :=
  cutAfter_eq_none h []

theorem cutAfter_append {m a : List Char} {c : Char} (hc : c ∉ m) (ha : Avoids (c :: m) a)
    (seen s : List Char) :
    cutAfter (c :: m) seen (a ++ (c :: m ++ s)) = some (seen.reverse ++ a, s) := by
  induction a generalizing seen with
  | nil =>
      have hp : (c :: m).isPrefixOf? (c :: (m ++ s)) = some s := isPrefixOf?_eq_some_iff.mpr rfl
      rw [List.nil_append, List.cons_append, cutAfter, hp, List.append_nil]
  | cons d a ih =>
      -- an earlier occurrence would lie inside of `d :: a` or reach the `c` behind it
      have hp : (c :: m).isPrefixOf? (d :: (a ++ (c :: m ++ s))) = none := by
        by_contra hp
        obtain ⟨t, ht⟩ := Option.ne_none_iff_exists'.mp hp
        have ht := isPrefixOf?_eq_some_iff.mp ht
        simp only [List.cons_append, List.cons.injEq] at ht
        obtain ⟨rfl, ht⟩ := ht
        rcases List.append_eq_append_iff.mp ht with ⟨u, hu, hu'⟩ | ⟨u, hu, hu'⟩
        · cases u with
          | nil => exact ha ⟨[], [], by simpa using hu⟩
          | cons e u =>
              rw [List.cons_append, List.cons.injEq] at hu'
              exact hc (by rw [hu, hu'.1]; simp)
        · exact ha ⟨[], u, by simp [hu]⟩
      rw [List.cons_append, cutAfter, hp]
      refine (ih (ha.of_isInfix (List.infix_cons List.infix_rfl)) (d :: seen)).trans ?_
      simp

theorem cutAfter_eq_some {mark seen s a b : List Char} (hne : mark ≠ [])
    (h : cutAfter mark seen s = some (a, b)) :
    ∃ u, a = seen.reverse ++ u ∧ s = u ++ (mark ++ b) ∧ Avoids mark u := by
  induction s generalizing seen with
  | nil =>
      rw [cutAfter, if_neg (by simpa using hne)] at h
      cases h
  | cons c s ih =>
      rw [cutAfter] at h
      cases hp : mark.isPrefixOf? (c :: s) with
      | some rest =>
          rw [hp] at h
          obtain ⟨rfl, rfl⟩ := Prod.mk.inj (Option.some.inj h)
          have hs : c :: s = mark ++ rest := isPrefixOf?_eq_some_iff.mp hp
          exact ⟨[], by simp, hs, fun hm => hne (List.infix_nil.mp hm)⟩
      | none =>
          rw [hp] at h
          obtain ⟨u, rfl, rfl, hav⟩ := ih h
          refine ⟨c :: u, by simp, rfl, fun hm => ?_⟩
          rcases List.infix_cons_iff.mp hm with hm | hm
          · -- the mark would have been found at `c`
            obtain ⟨t, ht⟩ := hm.trans (List.prefix_append (c :: u) (mark ++ b))
            rw [← List.cons_append, isPrefixOf?_eq_some_iff.mpr ht.symm] at hp
            cases hp
          · exact hav hm

/-- What is cut in two has the mark between the parts, and not in the first one. -/
theorem cut_eq_some {mark s a b : List Char} (hne : mark ≠ []) (h : cut mark s = some (a, b)) :
    s = a ++ (mark ++ b) ∧ Avoids mark a := by
  obtain ⟨u, rfl, hs, hu⟩ := cutAfter_eq_some hne h
  exact ⟨hs, hu⟩

/-- The first occurrence of a mark is the one behind a text that avoids it. -/
theorem cut_append {m a : List Char} {c : Char} (hc : c ∉ m) (ha : Avoids (c :: m) a)
    (s : List Char) : cut (c :: m) (a ++ (c :: m ++ s)) = some (a, s) :=
  cutAfter_append hc ha [] s

end Handoff.Text
