import Handoff.Decimal.Numeral

/-!
# Numerals that are read

A numeral of 32 bits is a run of digits with or without a plus sign in front
(`word32?_eq_some_iff`).  The decimal digits of a number are read as that number, whatever zeros stand
in front of them (`word32?_leftpad`).
-/

namespace Handoff.Decimal

theorem appendDigits_eq (n : Nat) (ds : List Char) :
    appendDigits n ds = Nat.ofDigitChars 10 ds n := by
  simp only [appendDigits, Nat.ofDigitChars_eq_foldl, Nat.mul_comm]

theorem natural?_eq_some_iff {s : List Char} {n : Nat} :
    natural? s = some n ↔ s ≠ [] ∧ (∀ c ∈ s, c.isDigit) ∧ Nat.ofDigitChars 10 s 0 = n := by
  rw [natural?]
  split
  · next h =>
      simp only [Bool.and_eq_true, Bool.not_eq_true', List.isEmpty_eq_false_iff,
        List.all_eq_true] at h
      rw [Option.some_inj, appendDigits_eq]
      exact ⟨fun hn => ⟨h.1, h.2, hn⟩, fun hn => hn.2.2⟩
  · next h =>
      constructor
      · intro hn
        cases hn
      · rintro ⟨hne, hdigits, -⟩
        refine absurd ?_ h
        rw [Bool.and_eq_true, List.all_eq_true]
        exact ⟨by simpa using hne, hdigits⟩

/-- What is read as a number of 32 bits. -/
theorem word32?_eq_some_iff {s : List Char} {n : Nat} :
    word32? s = some n ↔ n < Nat.pow 2 32 ∧ ∃ sign ds, (sign = [] ∨ sign = ['+']) ∧ s = sign ++ ds ∧
      ds ≠ [] ∧ (∀ c ∈ ds, c.isDigit) ∧ Nat.ofDigitChars 10 ds 0 = n := by
  unfold word32?
  rw [Option.filter_eq_some_iff, decide_eq_true_iff, and_comm]
  refine and_congr_right fun _ => ?_
  constructor
  · intro h
    split at h
    · next ds => exact ⟨['+'], ds, .inr rfl, rfl, natural?_eq_some_iff.mp h⟩
    · exact ⟨[], s, .inl rfl, rfl, natural?_eq_some_iff.mp h⟩
  · rintro ⟨sign, ds, rfl | rfl, rfl, h⟩
    · split
      · -- a plus sign is no digit
        cases h.2.1 '+' (by simp)
      · exact natural?_eq_some_iff.mpr h
    · exact natural?_eq_some_iff.mpr h

theorem isDigit_of_mem_word32 {s : List Char} {n : Nat} (h : word32? s = some n) {c : Char}
    (hc : c ∈ s) : c.isDigit ∨ c = '+' := by
  obtain ⟨-, sign, ds, hsign, rfl, -, hdigits, -⟩ := word32?_eq_some_iff.mp h
  rcases List.mem_append.mp hc with hc | hc
  · rcases hsign with rfl | rfl
    · cases hc
    · exact .inr (List.mem_singleton.mp hc)
  · exact .inl (hdigits c hc)

theorem ne_nil_of_word32 {s : List Char} {n : Nat} (h : word32? s = some n) : s ≠ [] := by
  rintro rfl
  cases h

theorem isDigit_of_mem_leftpad {k n : Nat} {c : Char}
    (h : c ∈ (Nat.toDigits 10 n).leftpad k '0') : c.isDigit := by
  rw [List.leftpad, List.mem_append] at h
  rcases h with h | h
  · rw [List.eq_of_mem_replicate h]
    rfl
  · exact Nat.isDigit_of_mem_toDigits (by decide) (by decide) h

/-- Digits are read back. -/
theorem word32?_leftpad {n : Nat} (h : n < Nat.pow 2 32) (k : Nat) :
    word32? ((Nat.toDigits 10 n).leftpad k '0') = some n := by
  refine word32?_eq_some_iff.mpr ⟨h, [], _, .inl rfl, (List.nil_append _).symm, ?_,
    fun c => isDigit_of_mem_leftpad, ?_⟩
  · simp [List.leftpad, Nat.toDigits_ne_nil]
  · rw [List.leftpad, Nat.ofDigitChars_append, Nat.ofDigitChars_replicate_zero, Nat.mul_zero,
      Nat.ofDigitChars_ten_toDigits]

end Handoff.Decimal
