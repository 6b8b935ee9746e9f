import Handoff.Naming.Slug
import Handoff.Proofs.Text.Words

/-!
# Slugs are unbroken

A slug is made of the characters of words, the first of them in upper case.  No upper case holds a
blank, so there is none in a slug, whatever the label (`isBlank_of_mem_slug`).
-/

namespace Handoff.Text

theorem mem_blankCodes_of_isBlank_ofNat {n : Nat} (h : isBlank (Char.ofNat n)) :
    n ∈ blankCodes := by
  have hcode := toNat_mem_blankCodes h
  by_cases hn : n.isValidChar
  · have hself : (Char.ofNat n).toNat = n := by
      rw [Char.ofNat, dif_pos hn]
      rfl
    rwa [hself] at hcode
  · rw [Char.ofNat, dif_neg hn] at hcode
    exact absurd hcode (by decide)

/-- The upper case of a character that is not blank holds no blank. -/
theorem isBlank_of_mem_upperChar {c : Char} (hc : isBlank c = false) :
    ∀ d ∈ upperChar c, isBlank d = false := by
  have hexpansions : ∀ e ∈ upperExpansions, ∀ n ∈ e.2, n ∉ blankCodes := by decide +kernel
  have hruns : ∀ r ∈ upperRuns, ∀ n ∈ blankCodes,
      (n : Int) < r.first + r.shift ∨ r.last + r.shift < n := by decide +kernel
  intro d hd
  rw [Bool.eq_false_iff]
  intro hblank
  rw [upperChar, mapCase] at hd
  split at hd
  · next image himage =>
      obtain ⟨n, hn, rfl⟩ := List.mem_map.mp hd
      obtain ⟨l₁, l₂, hl, -⟩ := List.lookup_eq_some_iff.mp himage
      exact hexpansions (c.toNat, image) (by simp [hl]) n hn (mem_blankCodes_of_isBlank_ofNat hblank)
  · obtain rfl := List.mem_singleton.mp hd
    have hcode := mem_blankCodes_of_isBlank_ofNat hblank
    cases hrun : upperRuns.findSome? (·.image? c.toNat) with
    | none =>
        rw [hrun, Option.getD_none, Char.ofNat_toNat, hc] at hblank
        cases hblank
    | some n =>
        rw [hrun, Option.getD_some] at hcode
        obtain ⟨r, hr, himage⟩ := List.exists_of_findSome?_eq_some hrun
        have hpos : 0 < n := Nat.pos_of_ne_zero fun h => absurd (h ▸ hcode) (by decide)
        rw [CaseRun.image?] at himage
        split at himage
        · next hrange =>
            simp only [Bool.and_eq_true, decide_eq_true_eq] at hrange
            have hmoved := Option.some.inj himage
            -- the run as a whole is moved past this blank
            rcases hruns r hr n hcode with h | h <;> omega
        · cases himage

end Handoff.Text

namespace Handoff
open Text (isBlank Word words lower)

theorem isBlank_of_mem_slug {label : String} : ∀ c ∈ (slug label).toList, isBlank c = false := by
  intro c hc
  rw [slug, String.toList_ofList] at hc
  have hword : ∀ w ∈ words (lower label.toList), Word w := fun w hw => Text.word_of_mem_words hw
  split at hc
  · cases hc
  · next w ws hws =>
      rw [hws] at hword
      rcases List.mem_append.mp hc with hc | hc
      · exact (hword w (by simp)).2 c hc
      · obtain ⟨v, hv, hc⟩ := List.mem_flatMap.mp hc
        have hv := (hword v (by simp [hv])).2
        cases v with
        | nil => cases hc
        | cons d v =>
            rw [capitalize] at hc
            rcases List.mem_append.mp hc with hc | hc
            · exact Text.isBlank_of_mem_upperChar (hv d (by simp)) c hc
            · exact hv c (by simp [hc])

end Handoff
