import Handoff.Text.Hex

/-!
# Hexadecimal digits and their values

A digit is read as its place in the alphabet of digits, whatever its case (`hexDigit?_eq`).  A byte
is written with two digits of the alphabet (`mem_hexAlphabet`).
-/

namespace Handoff.Text

/-- The digits of digests and of colours. -/
def hexAlphabet : List Char := "0123456789abcdef".toList

theorem mem_hexAlphabet {b : UInt8} : ∀ c ∈ hexByte b, c ∈ hexAlphabet := by
  have hdigit : ∀ n < 16, Nat.digitChar n ∈ hexAlphabet := by decide
  have hb : b.toNat < 256 := b.toNat_lt
  simp only [hexByte, List.forall_mem_cons]
  exact ⟨hdigit _ (by omega), hdigit _ (by omega), List.forall_mem_nil _⟩

/-- `c` is the hexadecimal digit of value `n`, in either case. -/
def HexDigit (c : Char) (n : Nat) : Prop := hexAlphabet.idxOf? c.toLower = some n

instance (c : Char) (n : Nat) : Decidable (HexDigit c n) :=
  inferInstanceAs (Decidable (hexAlphabet.idxOf? c.toLower = some n))

theorem hexDigit?_eq (c : Char) : hexDigit? c = hexAlphabet.idxOf? c.toLower := by
  by_cases h : c.toNat < 128
  · have hascii : ∀ n < 128,
        hexDigit? (Char.ofNat n) = hexAlphabet.idxOf? (Char.ofNat n).toLower := by decide +kernel
    have hc := hascii _ h
    rwa [Char.ofNat_toNat] at hc
  · -- no letter beyond ASCII is a digit, and none has another case
    have hle : ∀ d : Char, d.toNat < 128 → ¬ c ≤ d := by
      intro d hd hcd
      rw [Char.le_def, UInt32.le_iff_toNat_le, Char.toNat_val, Char.toNat_val] at hcd
      omega
    have hlower : c.toLower = c := dif_neg fun hupper => hle 'Z' (by decide) hupper.2
    have hnot : c ∉ hexAlphabet := by
      have halphabet : hexAlphabet.all (·.toNat < 128) := by decide
      exact fun hc => h (of_decide_eq_true (List.all_eq_true.mp halphabet c hc))
    rw [hlower, List.idxOf?_eq_none_iff.mpr hnot]
    simp [hexDigit?, hle '9' (by decide), hle 'f' (by decide), hle 'F' (by decide)]

theorem hexDigit?_eq_some_iff {c : Char} {n : Nat} : hexDigit? c = some n ↔ HexDigit c n := by
  rw [hexDigit?_eq, HexDigit]

theorem hexDigit_digitChar {n : Nat} (h : n < 16) : HexDigit (Nat.digitChar n) n := by
  have hdigits : ∀ n < 16, HexDigit (Nat.digitChar n) n := by decide
  exact hdigits n h

end Handoff.Text
