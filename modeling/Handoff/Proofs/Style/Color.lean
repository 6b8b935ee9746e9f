import Handoff.Proofs.Text.Hex
import Handoff.Style.Color

/-!
# Colours that are read

A colour is written as three or four pairs of hexadecimal digits of either case
(`Denotes DigitPair`).  It is read from such a text, and every colour that is written is read back
byte by byte (`ofHex?_toHex`).

In place of a pair, a plus sign and one digit are read as well (`SignedDigit`).  So some texts are
read that denote no colour; those are exactly the texts with a plus sign that are read at all
(`ofHex?_denotes_iff`).
-/

namespace Handoff.Rgba
open Text (HexDigit)

/-! ### Pairs -/

/-- Two digits, of which `n` is the value. -/
def DigitPair (a b : Char) (n : Nat) : Prop :=
  ∃ m k, HexDigit a m ∧ HexDigit b k ∧ n = m * 16 + k

/-- A digit with a plus sign in front. -/
def SignedDigit (a b : Char) (n : Nat) : Prop := a = '+' ∧ HexDigit b n

/-- What is read as a pair. -/
def ReadPair (a b : Char) (n : Nat) : Prop := DigitPair a b n ∨ SignedDigit a b n

theorem not_hexDigit_plus (n : Nat) : ¬ HexDigit '+' n := by
  intro h
  cases h

theorem DigitPair.plus_ne {a b : Char} {n : Nat} (h : DigitPair a b n) : '+' ≠ a ∧ '+' ≠ b := by
  obtain ⟨m, k, ha, hb, -⟩ := h
  constructor
  · rintro rfl
    exact not_hexDigit_plus m ha
  · rintro rfl
    exact not_hexDigit_plus k hb

theorem ReadPair.digits {a b : Char} {n : Nat} (h : ReadPair a b n) (ha : '+' ≠ a) :
    DigitPair a b n :=
  h.resolve_right fun hsigned => ha hsigned.1.symm

theorem pair?_eq_some_iff {a b : Char} {n : Nat} : pair? a b = some n ↔ ReadPair a b n := by
  rw [pair?]
  split
  · next ha =>
      rw [Text.hexDigit?_eq_some_iff]
      refine ⟨fun hb => .inr ⟨ha, hb⟩, ?_⟩
      rintro (hpair | hsigned)
      · exact absurd ha.symm hpair.plus_ne.1
      · exact hsigned.2
  · next ha =>
      simp only [bind, Option.bind_eq_some_iff, Text.hexDigit?_eq_some_iff, pure, Option.some_inj]
      constructor
      · rintro ⟨m, hm, k, hk, rfl⟩
        exact .inl ⟨m, k, hm, hk, rfl⟩
      · rintro (⟨m, k, hm, hk, rfl⟩ | hsigned)
        · exact ⟨m, hm, k, hk, rfl⟩
        · exact absurd hsigned.1 ha

/-- The digits of a byte. -/
theorem digitPair_digitChar (b : UInt8) :
    DigitPair (Nat.digitChar (b.toNat / 16)) (Nat.digitChar (b.toNat % 16)) b.toNat := by
  have hb : b.toNat < 256 := b.toNat_lt
  refine ⟨b.toNat / 16, b.toNat % 16, ?_, ?_, ?_⟩
  · exact Text.hexDigit_digitChar (by omega)
  · exact Text.hexDigit_digitChar (by omega)
  · omega

/-! ### Colours -/

/-- The channel of which a byte is the value. -/
def ofByte (n : Nat) : Float := n.toFloat / 255

/-- The colour that is written as three or four pairs. -/
inductive Denotes (pair : Char → Char → Nat → Prop) : List Char → Rgba → Prop where
  | solid {r₁ r₂ g₁ g₂ b₁ b₂ : Char} {r g b : Nat} :
      pair r₁ r₂ r → pair g₁ g₂ g → pair b₁ b₂ b →
      Denotes pair ['#', r₁, r₂, g₁, g₂, b₁, b₂] ⟨ofByte r, ofByte g, ofByte b, 1⟩
  | translucent {r₁ r₂ g₁ g₂ b₁ b₂ a₁ a₂ : Char} {r g b a : Nat} :
      pair r₁ r₂ r → pair g₁ g₂ g → pair b₁ b₂ b → pair a₁ a₂ a →
      Denotes pair ['#', r₁, r₂, g₁, g₂, b₁, b₂, a₁, a₂] ⟨ofByte r, ofByte g, ofByte b, ofByte a⟩

theorem channel?_eq_some_iff {a b : Char} {x : Float} :
    channel? a b = some x ↔ ∃ n, ReadPair a b n ∧ ofByte n = x := by
  simp only [channel?, Option.map_eq_some_iff, pair?_eq_some_iff, ofByte]

/-- What is read as a colour. -/
theorem ofHex?_eq_some_iff {text : String} {c : Rgba} :
    ofHex? text = some c ↔ Denotes ReadPair text.toList c := by
  rw [ofHex?]
  constructor
  · intro h
    split at h
    · next htext =>
        simp only [bind, Option.bind_eq_some_iff, channel?_eq_some_iff, pure, Option.some_inj] at h
        obtain ⟨_, ⟨r, hr, rfl⟩, _, ⟨g, hg, rfl⟩, _, ⟨b, hb, rfl⟩, rfl⟩ := h
        rw [htext]
        exact .solid hr hg hb
    · next htext =>
        simp only [bind, Option.bind_eq_some_iff, channel?_eq_some_iff, pure, Option.some_inj] at h
        obtain ⟨_, ⟨r, hr, rfl⟩, _, ⟨g, hg, rfl⟩, _, ⟨b, hb, rfl⟩, _, ⟨a, ha, rfl⟩, rfl⟩ := h
        rw [htext]
        exact .translucent hr hg hb ha
    · cases h
  · intro h
    have hread : ∀ {a b : Char} {n : Nat}, ReadPair a b n → channel? a b = some (ofByte n) :=
      fun h => channel?_eq_some_iff.mpr ⟨_, h, rfl⟩
    generalize text.toList = s at h
    cases h with
    | solid hr hg hb => simp only [hread hr, hread hg, hread hb]; rfl
    | translucent hr hg hb ha => simp only [hread hr, hread hg, hread hb, hread ha]; rfl

theorem Denotes.plus_not_mem {s : List Char} {c : Rgba} (h : Denotes DigitPair s c) :
    '+' ∉ s := by
  cases h with
  | solid hr hg hb => simp [hr.plus_ne, hg.plus_ne, hb.plus_ne]
  | translucent hr hg hb ha => simp [hr.plus_ne, hg.plus_ne, hb.plus_ne, ha.plus_ne]

theorem Denotes.read {s : List Char} {c : Rgba} (h : Denotes DigitPair s c) :
    Denotes ReadPair s c := by
  cases h with
  | solid hr hg hb => exact .solid (.inl hr) (.inl hg) (.inl hb)
  | translucent hr hg hb ha => exact .translucent (.inl hr) (.inl hg) (.inl hb) (.inl ha)

/-- Without a plus sign only digits are read. -/
theorem Denotes.digits {s : List Char} {c : Rgba} (h : Denotes ReadPair s c) (hs : '+' ∉ s) :
    Denotes DigitPair s c := by
  cases h with
  | solid hr hg hb =>
      simp only [List.mem_cons, not_or] at hs
      obtain ⟨-, hr₁, -, hg₁, -, hb₁, -⟩ := hs
      exact .solid (hr.digits hr₁) (hg.digits hg₁) (hb.digits hb₁)
  | translucent hr hg hb ha =>
      simp only [List.mem_cons, not_or] at hs
      obtain ⟨-, hr₁, -, hg₁, -, hb₁, -, ha₁, -⟩ := hs
      exact .translucent (hr.digits hr₁) (hg.digits hg₁) (hb.digits hb₁) (ha.digits ha₁)

/-- A colour that is written is read back as the colour of its bytes. -/
theorem ofHex?_toHex (c : Rgba) :
    ofHex? c.toHex = some ⟨ofByte (channelByte c.r).toNat, ofByte (channelByte c.g).toNat,
      ofByte (channelByte c.b).toNat, ofByte (channelByte c.a).toNat⟩ := by
  have hdenotes := Denotes.translucent (digitPair_digitChar (channelByte c.r))
    (digitPair_digitChar (channelByte c.g)) (digitPair_digitChar (channelByte c.b))
    (digitPair_digitChar (channelByte c.a))
  refine ofHex?_eq_some_iff.mpr ?_
  rw [toHex, String.toList_ofList]
  exact hdenotes.read

/-- A text is read as the colour that it denotes, and as nothing if it denotes none, unless it has a
plus sign and is read at all. -/
theorem ofHex?_denotes_iff (text : String) :
    (∀ c, ofHex? text = some c ↔ Denotes ReadPair text.toList c) ∧
      ((∀ c, ofHex? text = some c ↔ Denotes DigitPair text.toList c) ↔
        ('+' ∈ text.toList → ofHex? text = none)) := by
  refine ⟨fun c => ofHex?_eq_some_iff, ?_, ?_⟩
  · intro hagree hplus
    rw [Option.eq_none_iff_forall_ne_some]
    intro c hc
    exact ((hagree c).mp hc).plus_not_mem hplus
  · intro hnone c
    rw [ofHex?_eq_some_iff]
    refine ⟨fun hread => ?_, Denotes.read⟩
    refine hread.digits fun hplus => ?_
    rw [← ofHex?_eq_some_iff, hnone hplus] at hread
    cases hread

/-- Three digits with plus signs are read as a colour, although they denote none. -/
theorem ofHex?_signedDigits :
    ofHex? "#+f+f+f" = some ⟨ofByte 15, ofByte 15, ofByte 15, 1⟩ ∧
      ∀ c, ¬ Denotes DigitPair "#+f+f+f".toList c :=
  ⟨rfl, fun _ h => h.plus_not_mem (by decide)⟩

end Handoff.Rgba
