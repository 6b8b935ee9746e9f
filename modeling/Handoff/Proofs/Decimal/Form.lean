import Handoff.Decimal.Form

/-!
# The characters of written doubles

A double is written with digits, a point, signs and `e`, or else as `NaN` or with the name of
infinity (`mem_write`); no double is written as nothing (`write_ne_empty`).
-/

namespace Handoff.Decimal

/-- The characters of a decimal numeral. -/
def isNumeralChar (c : Char) : Bool :=
  c.isDigit || c == '.' || c == 'e' || c == '+' || c == '-'

theorem isNumeralChar_of_isDigit {c : Char} (h : c.isDigit) : isNumeralChar c := by
  simp [isNumeralChar, h]

theorem isNumeralChar_of_mem_toDigits {n : Nat} {c : Char} (h : c ∈ Nat.toDigits 10 n) :
    isNumeralChar c :=
  isNumeralChar_of_isDigit (Nat.isDigit_of_mem_toDigits (by decide) (by decide) h)

theorem Digits.isNumeralChar_ofNat {n : Nat} {place : Int} :
    ∀ c ∈ (Digits.ofNat n place).digits, isNumeralChar c := by
  intro c hc
  simp only [Digits.ofNat, List.mem_reverse] at hc
  exact isNumeralChar_of_mem_toDigits
    (List.mem_reverse.mp ((List.dropWhile_sublist _).subset hc))

theorem Binary.isNumeralChar_shortest (b : Binary) (tie : Tie) :
    ∀ c ∈ (b.shortest tie).digits, isNumeralChar c := by
  -- whether a grid is hit or not, the digits are those of some number
  have h : ∃ n place, b.shortest tie = Digits.ofNat n place := by
    rw [Binary.shortest]
    cases hhit : (List.range 17).findSome? fun (i : Nat) =>
        (b.onGrid tie (b.leading - i)).map fun n => Digits.ofNat n (b.leading - i) with
    | none => exact ⟨_, _, rfl⟩
    | some d =>
        obtain ⟨i, -, hi⟩ := List.exists_of_findSome?_eq_some hhit
        obtain ⟨n, -, rfl⟩ := Option.map_eq_some_iff.mp hi
        exact ⟨_, _, rfl⟩
  obtain ⟨n, place, h⟩ := h
  rw [h]
  exact Digits.isNumeralChar_ofNat

namespace Form

theorem isNumeralChar_writePositional (f : Form) {d : Digits}
    (h : ∀ c ∈ d.digits, isNumeralChar c) : ∀ c ∈ f.writePositional d, isNumeralChar c := by
  have hzero : isNumeralChar '0' := rfl
  have hpoint : isNumeralChar '.' := rfl
  intro c hc
  rw [writePositional] at hc
  split at hc
  · simp only [List.mem_append, List.mem_cons, List.not_mem_nil, or_false,
      List.mem_replicate] at hc
    rcases hc with ((rfl | rfl) | ⟨-, rfl⟩) | hc
    · exact hzero
    · exact hpoint
    · exact hzero
    · exact h c hc
  · split at hc
    · simp only [List.mem_append, List.mem_replicate] at hc
      rcases hc with (hc | ⟨-, rfl⟩) | hc
      · exact h c hc
      · exact hzero
      · split at hc
        · simp only [List.mem_cons, List.not_mem_nil, or_false] at hc
          rcases hc with rfl | rfl
          · exact hpoint
          · exact hzero
        · cases hc
    · simp only [List.mem_append, List.mem_cons] at hc
      rcases hc with hc | rfl | hc
      · exact h c (List.mem_of_mem_take hc)
      · exact hpoint
      · exact h c (List.mem_of_mem_drop hc)

theorem isNumeralChar_writeExponential (f : Form) {d : Digits}
    (h : ∀ c ∈ d.digits, isNumeralChar c) : ∀ c ∈ f.writeExponential d, isNumeralChar c := by
  intro c hc
  simp only [writeExponential, List.mem_append, List.mem_cons] at hc
  rcases hc with ((hc | hc) | (rfl | hc)) | hc
  · exact h c (List.mem_of_mem_take hc)
  · split at hc
    · cases hc
    · rcases List.mem_cons.mp hc with rfl | hc
      · rfl
      · exact h c (List.mem_of_mem_drop hc)
  · rfl
  · split at hc
    · obtain rfl := List.mem_singleton.mp hc
      rfl
    · split at hc
      · obtain rfl := List.mem_singleton.mp hc
        rfl
      · cases hc
  · exact isNumeralChar_of_mem_toDigits hc

/-- A double is written as `NaN` or a numeral, or as infinity with a sign. -/
theorem mem_write {f : Form} {x : Float} {c : Char} (h : c ∈ (f.write x).toList) :
    c ∈ "NaN".toList ∨ c ∈ f.infinity.toList ∨ isNumeralChar c := by
  have hsign : ∀ {p : Prop} [Decidable p], c ∈ (if p then "-" else "").toList →
      isNumeralChar c := by
    intro p _ hc
    split at hc
    · obtain rfl := List.mem_singleton.mp hc
      rfl
    · cases hc
  have hzero : ∀ c ∈ (if f.keepsPoint then "0.0" else "0").toList, isNumeralChar c := by
    split <;> simp [isNumeralChar]
  have hdigits : ∀ d : Digits, (∀ c ∈ d.digits, isNumeralChar c) →
      ∀ c ∈ if f.positional d.leading then f.writePositional d else f.writeExponential d,
        isNumeralChar c := by
    intro d hd
    split
    · exact f.isNumeralChar_writePositional hd
    · exact f.isNumeralChar_writeExponential hd
  rw [write] at h
  split at h
  · exact .inl h
  · split at h
    · rw [String.toList_append, List.mem_append] at h
      rcases h with h | h
      · exact .inr (.inr (hsign h))
      · exact .inr (.inl h)
    · split at h
      · rw [String.toList_append, List.mem_append] at h
        rcases h with h | h
        · exact .inr (.inr (hsign h))
        · exact .inr (.inr (hzero c h))
      · rw [String.toList_append, List.mem_append, String.toList_ofList] at h
        rcases h with h | h
        · exact .inr (.inr (hsign h))
        · exact .inr (.inr (hdigits _ (Binary.isNumeralChar_shortest _ _) c h))

/-! ### Nothing is written as nothing -/

theorem writePositional_ne_nil (f : Form) (d : Digits) : f.writePositional d ≠ [] := by
  intro h
  rw [writePositional] at h
  split at h
  · simp at h
  · next hpoint =>
      split at h
      · next hwhole =>
          -- a whole number has a digit for every place before the point
          have hlen := congrArg List.length h
          simp only [List.length_append, List.length_replicate, List.length_nil] at hlen
          omega
      · simp at h

theorem writeExponential_ne_nil (f : Form) (d : Digits) : f.writeExponential d ≠ [] := by
  simp [writeExponential]

theorem write_ne_empty {f : Form} (hinfinity : f.infinity ≠ "") (x : Float) : f.write x ≠ "" := by
  have hdigits : ∀ d : Digits,
      (if f.positional d.leading then f.writePositional d else f.writeExponential d) ≠ [] := by
    intro d
    split
    · exact f.writePositional_ne_nil d
    · exact f.writeExponential_ne_nil d
  have hzero : (if f.keepsPoint then "0.0" else "0") ≠ "" := by
    split <;> simp
  intro h
  rw [write] at h
  split at h
  · simp at h
  · split at h
    · exact hinfinity (String.append_eq_empty_iff.mp h).2
    · split at h
      · exact hzero (String.append_eq_empty_iff.mp h).2
      · exact hdigits _ (String.ofList_eq_empty_iff.mp (String.append_eq_empty_iff.mp h).2)

end Form

end Handoff.Decimal
