import Handoff.Text.Blank
import Mathlib.Data.List.Chain
import Mathlib.Data.List.DropRight
import Mathlib.Data.List.TakeDrop
import Mathlib.Data.List.TakeWhile

/-!
# Blanks around and between words

What trimming and splitting into words do to a text that is put together from others.

* `trim_blank_append`, `trim_append_blank`: blanks at the ends make no difference to `trim`;
  `trim_eq_self`: a text without any is left alone.
* `Spaced ws s`: `s` consists of the words `ws` with blanks between neighbours.  Every trimmed text
  is of this form (`spaced_words`), so that facts about `singleSpaced` go by induction on it.
* `singleSpaced_eq_self`: the texts that `singleSpaced` leaves alone are those whose only blanks are
  spaces, none of them at an end or next to another (`Tight`).
-/

namespace Handoff.Text

/-! ### Cutting at a character -/

/-- `span` cuts in front of the first character that is not `p`. -/
theorem span_eq_iff {p : Char → Bool} {s u v : List Char} :
    s.span p = (u, v) ↔ u ++ v = s ∧ (∀ c ∈ u, p c) ∧ ∀ c ∈ v.head?, p c = false := by
  rw [List.span_eq_takeWhile_dropWhile]
  constructor
  · intro h
    obtain ⟨rfl, rfl⟩ := Prod.mk.inj h
    refine ⟨List.takeWhile_append_dropWhile, fun c hc => List.mem_takeWhile_imp hc, fun c hc => ?_⟩
    simpa [Option.mem_def.mp hc] using List.head?_dropWhile_not p s
  · rintro ⟨rfl, hu, hv⟩
    rw [List.takeWhile_append_of_pos hu, List.dropWhile_append_of_pos hu]
    cases v with
    | nil => simp
    | cons c v =>
        have hc : ¬ p c := by simp [hv c (by simp)]
        rw [List.takeWhile_cons_of_neg hc, List.dropWhile_cons_of_neg hc, List.append_nil]

theorem exists_span (p : Char → Bool) (s : List Char) :
    ∃ u v, u ++ v = s ∧ (∀ c ∈ u, p c) ∧ ∀ c ∈ v.head?, p c = false :=
  ⟨_, _, span_eq_iff.mp rfl⟩

/-! ### Blank characters -/

/-- The code points of the blank characters. -/
def blankCodes : List Nat :=
  [9, 10, 11, 12, 13, 0x20, 0x85, 0xa0, 0x1680, 0x2000, 0x2001, 0x2002, 0x2003, 0x2004, 0x2005,
    0x2006, 0x2007, 0x2008, 0x2009, 0x200a, 0x2028, 0x2029, 0x202f, 0x205f, 0x3000]

theorem toNat_mem_blankCodes {c : Char} (h : isBlank c) : c.toNat ∈ blankCodes := by
  simp only [isBlank, Bool.or_eq_true, Bool.and_eq_true, decide_eq_true_eq, beq_iff_eq] at h
  simp only [blankCodes, List.mem_cons, List.not_mem_nil, or_false]
  omega

/-! ### Trimming -/

/-- A text of blanks. -/
def Blank (s : List Char) : Prop := ∀ c ∈ s, isBlank c

/-- A text without blanks at its ends. -/
def Trimmed (s : List Char) : Prop :=
  (∀ c ∈ s.head?, isBlank c = false) ∧ ∀ c ∈ s.getLast?, isBlank c = false

instance : DecidablePred Blank := fun s => List.decidableBAll (fun c => isBlank c = true) s

instance : DecidablePred Trimmed := fun s =>
  @instDecidableAnd _ _ s.head?.decidableForallMem s.getLast?.decidableForallMem

theorem blank_nil : Blank [] := by simp [Blank]

theorem blank_append {a b : List Char} : Blank (a ++ b) ↔ Blank a ∧ Blank b := by
  simp only [Blank, List.mem_append, or_imp, forall_and]

theorem Blank.append {a b : List Char} (ha : Blank a) (hb : Blank b) : Blank (a ++ b) :=
  blank_append.mpr ⟨ha, hb⟩

theorem Blank.not_mem {b : List Char} (hb : Blank b) {c : Char} (hc : isBlank c = false) :
    c ∉ b := by
  intro hm
  rw [hb c hm] at hc
  cases hc

theorem trimmed_nil : Trimmed [] := by simp [Trimmed]

theorem trimEnd_append_blank {b : List Char} (s : List Char) (hb : Blank b) :
    trimEnd (s ++ b) = trimEnd s := by
  have h : ∀ c ∈ b.reverse, isBlank c := fun c hc => hb c (List.mem_reverse.mp hc)
  rw [trimEnd, List.reverse_append, List.dropWhile_append_of_pos h, trimEnd]

theorem trim_blank_append {b : List Char} (s : List Char) (hb : Blank b) :
    trim (b ++ s) = trim s := by
  rw [trim, List.dropWhile_append_of_pos hb, trim]

theorem trim_append_blank {b : List Char} (s : List Char) (hb : Blank b) :
    trim (s ++ b) = trim s := by
  rw [trim, trim, List.dropWhile_append]
  split
  case isTrue h =>
    rw [List.isEmpty_iff.mp h, List.dropWhile_eq_nil_iff.mpr hb]
  case isFalse => exact trimEnd_append_blank _ hb

theorem trim_eq_self {s : List Char} (h : Trimmed s) : trim s = s := by
  cases s with
  | nil => rfl
  | cons c cs =>
      have hc : isBlank c = false := h.1 c (by simp)
      rw [trim, List.dropWhile_cons_of_neg (by simp [hc])]
      refine List.rdropWhile_eq_self_iff.mpr fun hl => ?_
      rw [h.2 _ (List.getLast?_eq_some_getLast hl)]
      simp

theorem trimmed_trim (s : List Char) : Trimmed (trim s) := by
  have hs := List.head?_dropWhile_not isBlank s
  rw [trim]
  generalize s.dropWhile isBlank = t at hs ⊢
  constructor
  · intro c hc
    -- what is left of `t` starts as `t` does
    have hp : trimEnd t <+: t := List.rdropWhile_prefix isBlank t
    have hc' : t.head? = some c := by
      obtain ⟨u, hu⟩ := hp
      rw [← hu, List.head?_append, Option.mem_def.mp hc]
      rfl
    simpa [hc'] using hs
  · intro c hc
    have hne : trimEnd t ≠ [] := by
      intro h
      rw [h] at hc
      cases hc
    have hl : ¬ isBlank ((trimEnd t).getLast hne) := List.rdropWhile_last_not isBlank t hne
    rw [List.getLast?_eq_some_getLast hne, Option.mem_some_iff] at hc
    rw [hc] at hl
    exact Bool.not_eq_true _ ▸ hl

theorem trim_trim (s : List Char) : trim (trim s) = trim s :=
  trim_eq_self (trimmed_trim s)

/-- A text is its trimmed form with blanks around it. -/
theorem exists_eq_append_trim (s : List Char) :
    ∃ a b, Blank a ∧ Blank b ∧ s = a ++ trim s ++ b := by
  refine ⟨s.takeWhile isBlank, (s.dropWhile isBlank).rtakeWhile isBlank,
    fun c hc => List.mem_takeWhile_imp hc, fun c hc => List.mem_rtakeWhile_imp hc, ?_⟩
  have h : trim s ++ (s.dropWhile isBlank).rtakeWhile isBlank = s.dropWhile isBlank :=
    List.rdropWhile_append_rtakeWhile
  rw [List.append_assoc, h, List.takeWhile_append_dropWhile]

theorem trim_isInfix (s : List Char) : trim s <:+: s := by
  obtain ⟨a, b, -, -, h⟩ := exists_eq_append_trim s
  exact ⟨a, b, h.symm⟩

theorem trim_eq_nil_iff {s : List Char} : trim s = [] ↔ Blank s := by
  constructor
  · intro h
    obtain ⟨a, b, ha, hb, hs⟩ := exists_eq_append_trim s
    rw [hs, h, List.append_nil]
    exact ha.append hb
  · intro h
    have h' := trim_blank_append [] h
    rw [List.append_nil] at h'
    exact h'.trans (trim_eq_self trimmed_nil)

theorem Trimmed.eq_nil_of_blank {a b : List Char} (h : Trimmed (a ++ b)) (hb : Blank b) :
    b = [] := by
  by_contra hne
  have hl := h.2 (b.getLast hne) (by
    rw [List.getLast?_append_of_ne_nil _ hne]
    exact List.getLast?_eq_some_getLast hne)
  rw [hb _ (List.getLast_mem hne)] at hl
  cases hl

/-! ### Words -/

theorem mem_or_of_mem_intercalate {c : Char} {sep : List Char} {ls : List (List Char)}
    (h : c ∈ sep.intercalate ls) : c ∈ sep ∨ ∃ l ∈ ls, c ∈ l := by
  induction ls with
  | nil => cases h
  | cons l ls ih =>
      cases ls with
      | nil =>
          rw [List.intercalate_singleton] at h
          exact .inr ⟨l, by simp, h⟩
      | cons l' ls =>
          rw [List.intercalate_cons_cons, List.append_assoc, List.mem_append, List.mem_append] at h
          rcases h with h | h | h
          · exact .inr ⟨l, by simp, h⟩
          · exact .inl h
          · rcases ih h with h | ⟨k, hk, hc⟩
            · exact .inl h
            · exact .inr ⟨k, List.mem_cons_of_mem _ hk, hc⟩

/-- A text that is one word. -/
def Word (w : List Char) : Prop := w ≠ [] ∧ ∀ c ∈ w, isBlank c = false

theorem Word.append {w v : List Char} (hw : Word w) (hv : ∀ c ∈ v, isBlank c = false) :
    Word (w ++ v) :=
  ⟨by simp [hw.1], List.forall_mem_append.mpr ⟨hw.2, hv⟩⟩

theorem words_of_blank {b : List Char} (hb : Blank b) : words b = [] := by
  induction b with
  | nil => rfl
  | cons c b ih =>
      have hc : isBlank c := hb c (by simp)
      have hb' : Blank b := fun d hd => hb d (by simp [hd])
      have h := ih hb'
      rw [words] at h ⊢
      rw [List.splitOnP_cons_eq_if_modifyHead, if_pos hc, List.filter_cons_of_neg (by simp), h]

theorem words_word {w : List Char} (hw : Word w) : words w = [w] := by
  rw [words, List.splitOnP_eq_singleton hw.2]
  simp [hw.1]

theorem words_append_cons {c : Char} (a s : List Char) (hc : isBlank c) :
    words (a ++ c :: s) = words a ++ words s := by
  rw [words, List.splitOnP_append_cons a s hc, List.filter_append, words, words]

theorem words_blank_append {b : List Char} (s : List Char) (hb : Blank b) :
    words (b ++ s) = words s := by
  induction b with
  | nil => rfl
  | cons c b ih =>
      have h : words (c :: (b ++ s)) = words (b ++ s) :=
        words_append_cons [] (b ++ s) (hb c (by simp))
      rw [List.cons_append, h, ih fun d hd => hb d (by simp [hd])]

theorem words_append_blank {b : List Char} (s : List Char) (hb : Blank b) :
    words (s ++ b) = words s := by
  cases b with
  | nil => rw [List.append_nil]
  | cons c b =>
      have hb' : Blank b := fun d hd => hb d (by simp [hd])
      rw [words_append_cons s b (hb c (by simp)), words_of_blank hb', List.append_nil]

theorem words_trim (s : List Char) : words (trim s) = words s := by
  obtain ⟨a, b, ha, hb, hs⟩ := exists_eq_append_trim s
  conv_rhs => rw [hs, words_append_blank _ hb, words_blank_append _ ha]

/-- `s` consists of the words `ws` with blanks between neighbours. -/
inductive Spaced : List (List Char) → List Char → Prop where
  | word {w : List Char} : Word w → Spaced [w] w
  | cons {w b s : List Char} {ws : List (List Char)} :
      Word w → Blank b → b ≠ [] → Spaced ws s → Spaced (w :: ws) (w ++ b ++ s)

namespace Spaced

theorem ne_nil {ws : List (List Char)} {s : List Char} (h : Spaced ws s) : ws ≠ [] := by
  cases h <;> simp

theorem text_ne_nil {ws : List (List Char)} {s : List Char} (h : Spaced ws s) : s ≠ [] := by
  cases h with
  | word hw => exact hw.1
  | cons hw _ _ _ => simp [hw.1]

theorem words_eq {ws : List (List Char)} {s : List Char} (h : Spaced ws s) : words s = ws := by
  induction h with
  | word hw => exact words_word hw
  | @cons w b s ws hw hb hne _ ih =>
      obtain ⟨c, b, rfl⟩ := List.exists_cons_of_ne_nil hne
      have hb' : Blank b := fun d hd => hb d (by simp [hd])
      rw [List.append_assoc, List.cons_append, words_append_cons w _ (hb c (by simp)),
        words_blank_append _ hb', words_word hw, ih]
      rfl

/-- One space between neighbours is one way to space words. -/
theorem intercalate {ws : List (List Char)} {s : List Char} (h : Spaced ws s) :
    Spaced ws ([' '].intercalate ws) := by
  induction h with
  | word hw =>
      rw [List.intercalate_singleton]
      exact .word hw
  | cons hw _ _ hs ih =>
      rw [List.intercalate_cons_of_ne_nil hs.ne_nil]
      exact .cons hw (by simp [Blank, isBlank]) (by simp) ih

end Spaced

/-- Words with one space between neighbours. -/
theorem spaced_intercalate {ws : List (List Char)} (hne : ws ≠ []) (h : ∀ w ∈ ws, Word w) :
    Spaced ws ([' '].intercalate ws) := by
  induction ws with
  | nil => exact absurd rfl hne
  | cons w ws ih =>
      obtain ⟨hw, hws⟩ := List.forall_mem_cons.mp h
      by_cases hlast : ws = []
      · rw [hlast, List.intercalate_singleton]
        exact .word hw
      · rw [List.intercalate_cons_of_ne_nil hlast]
        exact .cons hw (by simp [Blank, isBlank]) (by simp) (ih hlast hws)

theorem spaced_words {s : List Char} (h : Trimmed s) (hne : s ≠ []) : Spaced (words s) s := by
  induction hn : s.length using Nat.strong_induction_on generalizing s with
  | _ n ih =>
  -- the first word, the blanks behind it, and the shorter rest
  obtain ⟨w, r, rfl, hwc, hr⟩ := exists_span (!isBlank ·) s
  have hw : Word w := by
    refine ⟨?_, fun c hc => by simpa using hwc c hc⟩
    rintro rfl
    obtain ⟨c, r, rfl⟩ := List.exists_cons_of_ne_nil hne
    have hc : isBlank c := by simpa using hr c (by simp)
    rw [h.1 c (by simp)] at hc
    cases hc
  cases r with
  | nil =>
      rw [List.append_nil, words_word hw]
      exact .word hw
  | cons c r =>
      have hc : isBlank c := by simpa using hr c (by simp)
      obtain ⟨b, t, rfl, hbc, ht⟩ := exists_span isBlank r
      have hb : Blank (c :: b) := List.forall_mem_cons.mpr ⟨hc, hbc⟩
      have htne : t ≠ [] := by
        rintro rfl
        rw [List.append_nil] at h
        cases h.eq_nil_of_blank hb
      have htt : Trimmed t := by
        constructor
        · exact ht
        · intro d hd
          refine h.2 d ?_
          rwa [← List.cons_append, ← List.append_assoc, List.getLast?_append_of_ne_nil _ htne]
      have hlt : t.length < n := by
        simp only [List.length_append, List.length_cons] at hn
        omega
      have hst : Spaced (words t) t := ih t.length hlt htt htne rfl
      have hsp := Spaced.cons hw hb (by simp) hst
      rw [List.append_assoc, List.cons_append] at hsp
      rw [hsp.words_eq]
      exact hsp

/-! ### Single spaces -/

theorem singleSpaced_of_blank {b : List Char} (hb : Blank b) : singleSpaced b = [] := by
  rw [singleSpaced, words_of_blank hb]
  rfl

theorem Spaced.singleSpaced_eq {ws : List (List Char)} {s : List Char} (h : Spaced ws s) :
    singleSpaced s = [' '].intercalate ws := by
  rw [singleSpaced, h.words_eq]

/-- Every text that is not blank has its words with single spaces between them. -/
theorem spaced_singleSpaced {s : List Char} (h : ¬ Blank s) :
    Spaced (words s) (singleSpaced s) := by
  have hne : trim s ≠ [] := fun h' => h (trim_eq_nil_iff.mp h')
  have hs := spaced_words (trimmed_trim s) hne
  rw [words_trim] at hs
  exact hs.intercalate

theorem singleSpaced_singleSpaced (s : List Char) :
    singleSpaced (singleSpaced s) = singleSpaced s := by
  by_cases h : Blank s
  · rw [singleSpaced_of_blank h]
    rfl
  · exact (spaced_singleSpaced h).singleSpaced_eq

theorem singleSpaced_blank_append {b : List Char} (s : List Char) (hb : Blank b) :
    singleSpaced (b ++ s) = singleSpaced s := by
  rw [singleSpaced, words_blank_append s hb, singleSpaced]

theorem singleSpaced_append_blank {b : List Char} (s : List Char) (hb : Blank b) :
    singleSpaced (s ++ b) = singleSpaced s := by
  rw [singleSpaced, words_append_blank s hb, singleSpaced]

theorem singleSpaced_append_cons {w s : List Char} {c : Char} (hw : Word w) (hc : isBlank c)
    (hs : ¬ Blank s) : singleSpaced (w ++ c :: s) = w ++ ' ' :: singleSpaced s := by
  have hne : words s ≠ [] := (spaced_singleSpaced hs).ne_nil
  rw [singleSpaced, words_append_cons w s hc, words_word hw, List.singleton_append,
    List.intercalate_cons_of_ne_nil hne, singleSpaced, List.append_assoc, List.singleton_append]

/-- The word that a text begins with is still there. -/
theorem exists_singleSpaced_append {w : List Char} (hw : Word w) (s : List Char) :
    ∃ t, singleSpaced (w ++ s) = w ++ t := by
  obtain ⟨v, u, rfl, hv, hu⟩ := exists_span (!isBlank ·) s
  have hwv : Word (w ++ v) := hw.append fun c hc => by simpa using hv c hc
  cases u with
  | nil =>
      refine ⟨v, ?_⟩
      rw [List.append_nil, singleSpaced, words_word hwv, List.intercalate_singleton]
  | cons c u =>
      have hc : isBlank c := by simpa using hu c (by simp)
      by_cases hb : Blank u
      · refine ⟨v, ?_⟩
        have hcu : Blank (c :: u) := List.forall_mem_cons.mpr ⟨hc, hb⟩
        rw [← List.append_assoc, singleSpaced_append_blank _ hcu, singleSpaced, words_word hwv,
          List.intercalate_singleton]
      · refine ⟨v ++ ' ' :: singleSpaced u, ?_⟩
        rw [← List.append_assoc, singleSpaced_append_cons hwv hc hb, List.append_assoc]

theorem Spaced.infix_of_mem {ws : List (List Char)} {s w : List Char} (h : Spaced ws s)
    (hw : w ∈ ws) : w <:+: s := by
  induction h with
  | word _ => exact List.mem_singleton.mp hw ▸ List.infix_rfl
  | @cons v b s ws _ _ _ _ ih =>
      rcases List.mem_cons.mp hw with rfl | hw
      · exact ⟨[], b ++ s, by simp⟩
      · exact List.infix_append_of_infix_right (ih hw)

theorem infix_of_mem_words {s w : List Char} (h : w ∈ words s) : w <:+: s := by
  by_cases hs : Blank s
  · rw [words_of_blank hs] at h
    cases h
  · have hsp := spaced_words (trimmed_trim s) fun h' => hs (trim_eq_nil_iff.mp h')
    rw [words_trim] at hsp
    exact (hsp.infix_of_mem h).trans (trim_isInfix s)

theorem Spaced.word_of_mem {ws : List (List Char)} {s w : List Char} (h : Spaced ws s)
    (hw : w ∈ ws) : Word w := by
  induction h with
  | word hword => exact List.mem_singleton.mp hw ▸ hword
  | cons hword _ _ _ ih =>
      rcases List.mem_cons.mp hw with rfl | hw
      · exact hword
      · exact ih hw

theorem word_of_mem_words {s w : List Char} (h : w ∈ words s) : Word w := by
  by_cases hs : Blank s
  · rw [words_of_blank hs] at h
    cases h
  · have hsp := spaced_words (trimmed_trim s) fun h' => hs (trim_eq_nil_iff.mp h')
    rw [words_trim] at hsp
    exact hsp.word_of_mem h

theorem mem_of_mem_singleSpaced {s : List Char} {c : Char} (h : c ∈ singleSpaced s) :
    c ∈ s ∨ c = ' ' := by
  rcases mem_or_of_mem_intercalate h with h | ⟨w, hw, hc⟩
  · exact .inr (List.mem_singleton.mp h)
  · exact .inl ((infix_of_mem_words hw).subset hc)

/-- The only blanks of `s` are spaces, and none of them is next to another. -/
def Tight (s : List Char) : Prop :=
  (∀ c ∈ s, isBlank c → c = ' ') ∧ s.IsChain fun c d => ¬ (isBlank c ∧ isBlank d)

instance : DecidablePred Tight := fun s =>
  @instDecidableAnd _ _ (List.decidableBAll (fun c => isBlank c → c = ' ') s) inferInstance

theorem tight_append {a b : List Char} :
    Tight (a ++ b) ↔ Tight a ∧ Tight b ∧
      ∀ c ∈ a.getLast?, ∀ d ∈ b.head?, ¬ (isBlank c ∧ isBlank d) := by
  simp only [Tight, List.isChain_append, List.mem_append, or_imp, forall_and]
  tauto

/-- Two tight texts are tight together if no blank stands in front of the seam, -/
theorem Tight.append_of_getLast? {a b : List Char} (ha : Tight a) (hb : Tight b)
    (h : ∀ c ∈ a.getLast?, isBlank c = false) : Tight (a ++ b) := by
  refine tight_append.mpr ⟨ha, hb, ?_⟩
  rintro c hc _ - ⟨hc', -⟩
  rw [h c hc] at hc'
  cases hc'

/-- or if none stands behind it. -/
theorem Tight.append_of_head? {a b : List Char} (ha : Tight a) (hb : Tight b)
    (h : ∀ d ∈ b.head?, isBlank d = false) : Tight (a ++ b) := by
  refine tight_append.mpr ⟨ha, hb, ?_⟩
  rintro _ - d hd ⟨-, hd'⟩
  rw [h d hd] at hd'
  cases hd'

theorem Tight.of_isInfix {s t : List Char} (h : Tight s) (ht : t <:+: s) : Tight t := by
  obtain ⟨a, b, rfl⟩ := ht
  exact (tight_append.mp (tight_append.mp h).1).2.1

theorem tight_of_forall {s : List Char} (h : ∀ c ∈ s, isBlank c = false) : Tight s := by
  refine ⟨fun c hc hb => by simp [h c hc] at hb, ?_⟩
  refine (List.pairwise_of_forall_mem_list fun c hc d _ hcd => ?_).isChain
  simp [h c hc] at hcd

theorem Trimmed.append {a b : List Char} (ha : Trimmed a) (hb : Trimmed b) (ha' : a ≠ [])
    (hb' : b ≠ []) (m : List Char) : Trimmed (a ++ m ++ b) := by
  constructor
  · intro c hc
    rw [List.append_assoc, List.head?_append_of_ne_nil _ ha'] at hc
    exact ha.1 c hc
  · intro c hc
    rw [List.getLast?_append_of_ne_nil _ hb'] at hc
    exact hb.2 c hc

theorem Word.trimmed {w : List Char} (hw : Word w) : Trimmed w :=
  ⟨fun c hc => hw.2 c (List.mem_of_mem_head? hc), fun c hc => hw.2 c (List.mem_of_mem_getLast? hc)⟩

theorem Spaced.trimmed {ws : List (List Char)} {s : List Char} (h : Spaced ws s) :
    Trimmed s := by
  induction h with
  | word hw => exact hw.trimmed
  | cons hw _ _ hs ih => exact hw.trimmed.append ih hw.1 hs.text_ne_nil _

theorem trimmed_singleSpaced (s : List Char) : Trimmed (singleSpaced s) := by
  by_cases h : Blank s
  · rw [singleSpaced_of_blank h]
    exact trimmed_nil
  · exact (spaced_singleSpaced h).trimmed

theorem Spaced.tight_intercalate {ws : List (List Char)} {s : List Char} (h : Spaced ws s) :
    Tight ([' '].intercalate ws) := by
  induction h with
  | word hw =>
      rw [List.intercalate_singleton]
      exact tight_of_forall hw.2
  | cons hw _ _ hs ih =>
      rw [List.intercalate_cons_of_ne_nil hs.ne_nil]
      have hspace : Tight [' '] := ⟨by simp, by simp⟩
      have hword : Tight (_ ++ [' ']) :=
        (tight_of_forall hw.2).append_of_getLast? hspace hw.trimmed.2
      exact hword.append_of_head? ih hs.intercalate.trimmed.1

theorem tight_singleSpaced (s : List Char) : Tight (singleSpaced s) := by
  by_cases h : Blank s
  · rw [singleSpaced_of_blank h]
    exact ⟨by simp, by simp⟩
  · exact (spaced_singleSpaced h).tight_intercalate

/-- A run of blanks in a tight text is a single space. -/
theorem Tight.eq_space {b : List Char} (h : Tight b) (hb : Blank b) (hne : b ≠ []) :
    b = [' '] := by
  match b, hne with
  | [c], _ => rw [h.1 c (by simp) (hb c (by simp))]
  | c :: d :: b, _ =>
      rw [Tight, List.isChain_cons_cons] at h
      exact absurd ⟨hb c (by simp), hb d (by simp)⟩ h.2.1

theorem Spaced.eq_intercalate {ws : List (List Char)} {s : List Char} (h : Spaced ws s)
    (ht : Tight s) : s = [' '].intercalate ws := by
  induction h with
  | word hw => rw [List.intercalate_singleton]
  | @cons w b s ws hw hb hne hs ih =>
      have hb' : b = [' '] := (ht.of_isInfix ⟨w, s, rfl⟩).eq_space hb hne
      have hs' : s <:+: w ++ b ++ s := List.infix_append_of_infix_right List.infix_rfl
      rw [List.intercalate_cons_of_ne_nil hs.ne_nil, ← ih (ht.of_isInfix hs'), hb']

theorem singleSpaced_eq_self {s : List Char} (h : Trimmed s) (ht : Tight s) :
    singleSpaced s = s := by
  by_cases hne : s = []
  · rw [hne]
    rfl
  · exact ((spaced_words h hne).eq_intercalate ht).symm

end Handoff.Text
