import Handoff.Proofs.Text.Words

/-!
# Lists with separators

The trimmed parts of a text between separators, those that are blank left out (`parts`), are what
the names of an import and the declarations of a rule are read with.  Parts that are written with
blanks around them and a separator behind are read back (`parts_cons`, `parts_blank_append`).
-/

namespace Handoff.Text

/-- The trimmed texts between separators that are not blank. -/
def parts (sep : Char) (s : List Char) : List (List Char) :=
  ((s.splitOn sep).map trim).filter (!·.isEmpty)

/-- What `parts` gives. -/
structure Part (sep : Char) (n : List Char) : Prop where
  ne_nil : n ≠ []
  trimmed : Trimmed n
  sep_not_mem : sep ∉ n

variable {sep : Char} {s n b : List Char}

theorem parts_append_cons (s t : List Char) :
    parts sep (s ++ sep :: t) = parts sep s ++ parts sep t := by
  rw [parts, List.splitOn_append_cons_self, List.map_append, List.filter_append, parts, parts]

theorem parts_of_not_mem (h : sep ∉ s) : parts sep s = if trim s = [] then [] else [trim s] := by
  rw [parts, List.splitOn_eq_singleton h]
  split
  · next hs => simp [hs]
  · next hs => simp [hs]

theorem parts_of_blank (hsep : isBlank sep = false) (hb : Blank b) : parts sep b = [] := by
  have hm : sep ∉ b := fun h => by
    rw [hb sep h] at hsep
    cases hsep
  rw [parts_of_not_mem hm, if_pos (trim_eq_nil_iff.mpr hb)]

/-- Blanks at the ends belong to no part. -/
theorem parts_blank_append (hsep : isBlank sep = false) (hb : Blank b) (s : List Char) :
    parts sep (b ++ s) = parts sep s := by
  have hm : sep ∉ b := fun h => by
    rw [hb sep h] at hsep
    cases hsep
  by_cases hs : sep ∈ s
  · obtain ⟨a, t, rfl, ha⟩ := List.eq_append_cons_of_mem hs
    have hba : sep ∉ b ++ a := by simp [hm, ha]
    rw [← List.append_assoc, parts_append_cons, parts_append_cons, parts_of_not_mem hba,
      parts_of_not_mem ha, trim_blank_append a hb]
  · have hbs : sep ∉ b ++ s := by simp [hm, hs]
    rw [parts_of_not_mem hbs, parts_of_not_mem hs, trim_blank_append s hb]

theorem Part.parts_append_blank (h : Part sep n) (hsep : isBlank sep = false) (hb : Blank b) :
    parts sep (n ++ b) = [n] := by
  have hm : sep ∉ n ++ b := by
    simp only [List.mem_append, not_or]
    refine ⟨h.sep_not_mem, fun hs => ?_⟩
    rw [hb sep hs] at hsep
    cases hsep
  rw [parts_of_not_mem hm, trim_append_blank n hb, trim_eq_self h.trimmed, if_neg h.ne_nil]

/-- A part with a separator behind is read first. -/
theorem Part.parts_cons (h : Part sep n) (hsep : isBlank sep = false) (s : List Char) :
    parts sep (n ++ sep :: s) = n :: parts sep s := by
  have hn := h.parts_append_blank hsep blank_nil
  rw [List.append_nil] at hn
  rw [parts_append_cons, hn, List.singleton_append]

/-! ### What is read -/

/-- The texts between separators are parts of the text without separators. -/
theorem of_mem_splitOn {t : List Char} (h : t ∈ s.splitOn sep) : sep ∉ t ∧ t <:+: s := by
  induction hl : s.length using Nat.strong_induction_on generalizing s with
  | _ l ih =>
  by_cases hs : sep ∈ s
  · -- the first text, and those of a shorter one
    obtain ⟨a, u, rfl, ha⟩ := List.eq_append_cons_of_mem hs
    rw [List.splitOn_append_cons_self_of_not_mem ha, List.mem_cons] at h
    rcases h with rfl | h
    · exact ⟨ha, (List.prefix_append t (sep :: u)).isInfix⟩
    · have hlt : u.length < l := by
        simp only [List.length_append, List.length_cons] at hl
        omega
      obtain ⟨hn, hi⟩ := ih u.length hlt h rfl
      refine ⟨hn, hi.trans ?_⟩
      exact ((List.suffix_cons sep u).trans (List.suffix_append a _)).isInfix
  · rw [List.splitOn_eq_singleton hs, List.mem_singleton] at h
    exact ⟨h ▸ hs, h ▸ List.infix_rfl⟩

theorem part_of_mem_parts (h : n ∈ parts sep s) : Part sep n ∧ n <:+: s := by
  rw [parts, List.mem_filter, List.mem_map] at h
  obtain ⟨⟨t, ht, rfl⟩, hne⟩ := h
  obtain ⟨hsep, hi⟩ := of_mem_splitOn ht
  have hi' : trim t <:+: t := trim_isInfix t
  exact ⟨⟨by simpa using hne, trimmed_trim t, fun hm => hsep (hi'.subset hm)⟩, hi'.trans hi⟩

/-- Every character of a list is blank, a separator or in a part. -/
theorem exists_mem_parts {c : Char} (hc : c ∈ s) (hb : isBlank c = false) (hne : c ≠ sep) :
    ∃ n ∈ parts sep s, c ∈ n := by
  -- the parts of a text without separators
  have key : ∀ {a : List Char}, sep ∉ a → c ∈ a → ∃ n ∈ parts sep a, c ∈ n := by
    intro a ha hca
    obtain ⟨x, y, hx, hy, hxy⟩ := exists_eq_append_trim a
    have hm : c ∈ trim a := by
      rw [hxy] at hca
      simp only [List.mem_append] at hca
      rcases hca with (hca | hca) | hca
      · simp [hx c hca] at hb
      · exact hca
      · simp [hy c hca] at hb
    refine ⟨trim a, ?_, hm⟩
    rw [parts_of_not_mem ha, if_neg (List.ne_nil_of_mem hm)]
    exact List.mem_singleton_self _
  induction hl : s.length using Nat.strong_induction_on generalizing s with
  | _ l ih =>
  by_cases hs : sep ∈ s
  · obtain ⟨a, t, rfl, ha⟩ := List.eq_append_cons_of_mem hs
    simp only [List.mem_append, List.mem_cons, hne, false_or] at hc
    simp only [parts_append_cons, List.mem_append]
    rcases hc with hc | hc
    · obtain ⟨n, hn, hcn⟩ := key ha hc
      exact ⟨n, .inl hn, hcn⟩
    · have hlt : t.length < l := by
        simp only [List.length_append, List.length_cons] at hl
        omega
      obtain ⟨n, hn, hcn⟩ := ih t.length hlt hc rfl
      exact ⟨n, .inr hn, hcn⟩
  · exact key hs hc

end Handoff.Text
