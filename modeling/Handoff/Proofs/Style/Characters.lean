import Handoff.Proofs.Decimal.Form
import Handoff.Proofs.Text.Hex
import Handoff.Proofs.Text.Mark
import Handoff.Style.Measure

/-!
# The characters of style sheets

Selectors, properties and values are written with few characters (`isSheetChar`), of which only the
space is blank.  Numbers and colours are words of them (`word_number`, `word_toHex`).
-/

namespace Handoff.Style
open Text (Trimmed Word isBlank)

/-- The characters of style sheets that are neither letters nor digits. -/
def sheetPunctuation : List Char := "-_+.,:#%()!>* ".toList

/-- The characters of selectors, properties and values. -/
def isSheetChar (c : Char) : Bool := c.isAlphanum || sheetPunctuation.contains c

theorem isSheetChar_of_isNumeralChar {c : Char} (h : Decimal.isNumeralChar c) : isSheetChar c := by
  simp only [Decimal.isNumeralChar, Bool.or_eq_true, beq_iff_eq] at h
  rcases h with (((h | rfl) | rfl) | rfl) | rfl
  · simp [isSheetChar, Char.isAlphanum, h]
  all_goals decide

theorem isSheetChar_number {x : Float} {c : Char} (h : c ∈ (number x).toList) : isSheetChar c := by
  rcases Decimal.Form.mem_write h with h | h | h
  · exact List.all_eq_true.mp (by decide : "NaN".toList.all isSheetChar) c h
  · exact List.all_eq_true.mp (by decide : numberForm.infinity.toList.all isSheetChar) c h
  · exact isSheetChar_of_isNumeralChar h

theorem isSheetChar_toHex {r : Rgba} {c : Char} (h : c ∈ r.toHex.toList) : isSheetChar c := by
  rw [Rgba.toHex, String.toList_ofList, List.mem_cons] at h
  rcases h with rfl | h
  · decide
  · obtain ⟨x, -, hc⟩ := List.mem_flatMap.mp h
    have halphabet : Text.hexAlphabet.all isSheetChar := by decide
    exact List.all_eq_true.mp halphabet c (Text.mem_hexAlphabet c hc)

/-- The only blank in style sheets is the space. -/
theorem eq_space_of_isSheetChar {c : Char} (h : isSheetChar c) (hb : isBlank c) : c = ' ' := by
  rw [isSheetChar, Bool.or_eq_true] at h
  rcases h with h | h
  · rw [Text.not_isAlphanum_of_isBlank hb] at h
    cases h
  · have hpunctuation : sheetPunctuation.all fun d => !isBlank d || d == ' ' := by decide
    simpa [hb] using List.all_eq_true.mp hpunctuation c (List.contains_iff_mem.mp h)

/-- A fixed part of a style sheet. -/
def Keyword (v : String) : Prop := v.toList.all isSheetChar ∧ v ≠ "" ∧ Trimmed v.toList

instance : DecidablePred Keyword := fun v =>
  inferInstanceAs (Decidable (v.toList.all isSheetChar ∧ v ≠ "" ∧ Trimmed v.toList))

theorem word_number (x : Float) : Word (number x).toList := by
  have hne : number x ≠ "" := Decimal.Form.write_ne_empty (by decide) x
  refine ⟨by simpa using hne, fun c hc => ?_⟩
  by_contra hb
  obtain rfl := eq_space_of_isSheetChar (isSheetChar_number hc) (Bool.not_eq_false _ ▸ hb)
  rcases Decimal.Form.mem_write hc with h | h | h
  · exact absurd h (by decide)
  · exact absurd h (by decide)
  · cases h

theorem word_toHex (r : Rgba) : Word r.toHex.toList := by
  refine ⟨by simp [Rgba.toHex], fun c hc => ?_⟩
  rw [Rgba.toHex, String.toList_ofList, List.mem_cons] at hc
  rcases hc with rfl | hc
  · rfl
  · obtain ⟨x, -, hx⟩ := List.mem_flatMap.mp hc
    have halphabet : Text.hexAlphabet.all (!isBlank ·) := by decide
    simpa using List.all_eq_true.mp halphabet c (Text.mem_hexAlphabet c hx)

end Handoff.Style
