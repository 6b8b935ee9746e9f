import Handoff.Clock
import Handoff.Proofs.Decimal.Numeral
import Handoff.Proofs.Text.Mark
import Handoff.Proofs.Text.Parts

/-!
# Times

The fields of a time, the half of the day behind it and the blanks around it, and what becomes of
them.

* `Field sep f`: a text that may stand between separators, of which a number comes out with at least
  two digits and anything else as it is (`written`).
* `isoTime_eq`: what is written for a text, in terms of the fields of its first word and of its
  second word.  Three fields without blanks come out, whatever went in.
* `ClockText fs half t`: `t` is a clock with the fields `fs`, with its half of the day and blanks.
* `isoTime_clockText`: what is written is left alone when it is read as a time again, and the hour
  of a clock becomes the hour of the day.
-/

namespace Handoff.Clock
open Decimal (word32?)
open Text (Blank Spaced Word isBlank trim words)

/-! ### Fields -/

/-- A text that may stand between separators of a clock or a date. -/
structure Field (sep : Char) (f : List Char) : Prop where
  unbroken : ∀ c ∈ f, isBlank c = false
  sep_not_mem : sep ∉ f

instance (sep : Char) : DecidablePred (Field sep) := fun f =>
  decidable_of_iff ((f.all fun c => !isBlank c) ∧ sep ∉ f) <| by
    simp only [List.all_eq_true, Bool.not_eq_true']
    exact ⟨fun h => ⟨h.1, h.2⟩, fun h => ⟨h.unbroken, h.sep_not_mem⟩⟩

/-- What is written for a field: its number under `value`, with at least two digits, or the field
itself if it has no number. -/
def written (value : Nat → Nat) (f : List Char) : List Char :=
  match word32? f with
  | some n => (Nat.toDigits 10 (value n)).leftpad 2 '0'
  | none => f

/-- Numbers of 32 bits stay numbers of 32 bits. -/
def Fits (value : Nat → Nat) : Prop := ∀ n < Nat.pow 2 32, value n < Nat.pow 2 32

theorem written_of_some {value : Nat → Nat} {f : List Char} {n : Nat} (h : word32? f = some n) :
    written value f = (Nat.toDigits 10 (value n)).leftpad 2 '0' := by
  rw [written, h]

theorem written_of_none {value : Nat → Nat} {f : List Char} (h : word32? f = none) :
    written value f = f := by
  rw [written, h]

theorem isBlank_of_isDigit {c : Char} (h : c.isDigit) : isBlank c = false := by
  rw [Bool.eq_false_iff]
  intro hb
  have hletter := Text.not_isAlphanum_of_isBlank hb
  rw [Char.isAlphanum, h, Bool.or_true] at hletter
  cases hletter

theorem field_nil (sep : Char) : Field sep [] := ⟨by simp, by simp⟩

/-- Digits and plus signs neither are blank nor separate fields. -/
theorem field_of_forall {sep : Char} {f : List Char} (hsep : ¬ (sep.isDigit ∨ sep = '+'))
    (h : ∀ c ∈ f, c.isDigit ∨ c = '+') : Field sep f where
  unbroken c hc := by
    rcases h c hc with hd | rfl
    · exact isBlank_of_isDigit hd
    · rfl
  sep_not_mem hm := hsep (h sep hm)

theorem Field.trim_eq {sep : Char} {f : List Char} (h : Field sep f) : trim f = f :=
  Text.trim_eq_self ⟨fun c hc => h.unbroken c (List.mem_of_mem_head? hc),
    fun c hc => h.unbroken c (List.mem_of_mem_getLast? hc)⟩

theorem Field.getD {sep : Char} {fs : List (List Char)} {d : List Char}
    (hfs : ∀ f ∈ fs, Field sep f) (hd : Field sep d) (i : Nat) : Field sep (fs[i]?.getD d) := by
  cases h : fs[i]? with
  | none => exact hd
  | some f => exact hfs f (List.mem_of_getElem? h)

theorem Field.written {sep : Char} {f : List Char} (hsep : ¬ (sep.isDigit ∨ sep = '+'))
    (h : Field sep f) (value : Nat → Nat) : Field sep (written value f) := by
  cases hn : word32? f with
  | none => rwa [written_of_none hn]
  | some n =>
      rw [written_of_some hn]
      exact field_of_forall hsep fun c hc => .inl (Decimal.isDigit_of_mem_leftpad hc)

/-- Two fields or more are a word together, as a separator stands between them. -/
theorem word_intercalate {sep : Char} {f g : List Char} {fs : List (List Char)}
    (hsep : isBlank sep = false) (h : ∀ k ∈ f :: g :: fs, Field sep k) :
    Word ([sep].intercalate (f :: g :: fs)) := by
  constructor
  · simp [List.intercalate_cons_cons]
  · intro c hc
    rcases Text.mem_or_of_mem_intercalate hc with hc | ⟨k, hk, hc⟩
    · rw [List.mem_singleton.mp hc]
      exact hsep
    · exact (h k hk).unbroken c hc

/-- A field that has been written is left alone. -/
theorem written_written {value : Nat → Nat} (hvalue : Fits value) (f : List Char) :
    written id (written value f) = written value f := by
  cases hn : word32? f with
  | none => rw [written_of_none hn, written_of_none hn]
  | some n =>
      have hlt : value n < Nat.pow 2 32 := hvalue n (Decimal.word32?_eq_some_iff.mp hn).1
      rw [written_of_some hn, written_of_some (Decimal.word32?_leftpad hlt 2), id_eq]

theorem twoDigits_eq (n : Nat) : twoDigits n = (Nat.toDigits 10 n).leftpad 2 '0' := by
  rw [twoDigits]
  split
  · next h =>
      rw [Nat.toDigits_of_lt_base h]
      rfl
  · next h =>
      have hlen : ¬ (Nat.toDigits 10 n).length ≤ 1 := fun hle =>
        h ((Nat.length_toDigits_le_iff (by decide) (by decide)).mp hle)
      have hpad : 2 - (Nat.toDigits 10 n).length = 0 := by omega
      simp only [List.leftpad, hpad, List.replicate_zero, List.nil_append]

theorem padded_eq (f : List Char) : padded f = written id (trim f) := by
  rw [padded, field?]
  cases h : word32? (trim f) with
  | none => rw [written_of_none h]
  | some n =>
      rw [written_of_some h]
      exact twoDigits_eq n

/-! ### Times -/

/-- Fields with colons in between. -/
def clock (fs : List (List Char)) : List Char := [':'].intercalate fs

theorem clock_three (h m s : List Char) : clock [h, m, s] = h ++ ':' :: m ++ ':' :: s := by
  simp [clock, List.intercalate_cons_cons]

theorem fits_dayHour (period : Option (List Char)) : Fits (dayHour period) := by
  have hday : 24 < Nat.pow 2 32 := by decide
  intro n hn
  rw [dayHour]
  split_ifs with hafternoon
  · simp only [Bool.and_eq_true, decide_eq_true_eq] at hafternoon
    omega
  · omega
  · exact hn

/-- What is written for a text with the fields `fs` in its first word. -/
theorem isoTime_eq {t : List Char} {fs : List (List Char)}
    (hclock : (words t)[0]?.getD [] = clock fs) (hne : fs ≠ []) (hfs : ∀ f ∈ fs, Field ':' f) :
    isoTime t = clock [written (dayHour ((words t)[1]?.map (·.map Char.toLower))) (fs[0]?.getD []),
      written id (fs[1]?.getD []), written id (fs[2]?.getD ['0'])] := by
  have hsplit : (clock fs).splitOn ':' = fs :=
    List.splitOn_intercalate ':' (fun f hf => (hfs f hf).sep_not_mem) hne
  have hzero : Field ':' ['0'] := by decide
  have hhour := (Field.getD hfs (field_nil ':') 0).trim_eq
  have hminute := (Field.getD hfs (field_nil ':') 1).trim_eq
  have hsecond := (Field.getD hfs hzero 2).trim_eq
  simp only [isoTime, field?, padded_eq, hclock, hsplit, hhour, hminute, hsecond, clock_three]
  cases h : word32? (fs[0]?.getD []) with
  | none => rw [written_of_none h, written_of_none h]
  | some n =>
      dsimp only
      rw [written_of_some h, twoDigits_eq]

/-- Only the words of a time are looked at. -/
theorem isoTime_congr {t u : List Char} (h : words t = words u) : isoTime t = isoTime u := by
  simp only [isoTime, h]

/-- Any text has fields in its first word. -/
theorem exists_clock (t : List Char) : ∃ fs : List (List Char),
    (words t)[0]?.getD [] = clock fs ∧ fs ≠ [] ∧ ∀ f ∈ fs, Field ':' f := by
  refine ⟨((words t)[0]?.getD []).splitOn ':', (List.intercalate_splitOn ':').symm,
    List.splitOn_ne_nil _ _, fun f hf => ?_⟩
  obtain ⟨hsep, hpart⟩ := Text.of_mem_splitOn hf
  refine ⟨fun c hc => ?_, hsep⟩
  cases hw : (words t)[0]? with
  | none =>
      rw [hw] at hpart
      cases hpart.subset hc
  | some w =>
      rw [hw] at hpart
      exact (Text.word_of_mem_words (List.mem_of_getElem? hw)).2 c (hpart.subset hc)

/-- Three fields are written for every text, with their numbers in the form that they keep. -/
theorem exists_isoTime_eq (t : List Char) : ∃ (value : Nat → Nat) (h m s : List Char),
    Fits value ∧ Field ':' h ∧ Field ':' m ∧ Field ':' s ∧
      isoTime t = clock [written value h, written id m, written id s] := by
  obtain ⟨fs, hclock, hne, hfs⟩ := exists_clock t
  have hzero : Field ':' ['0'] := by decide
  exact ⟨_, _, _, _, fits_dayHour _, .getD hfs (field_nil ':') 0, .getD hfs (field_nil ':') 1,
    .getD hfs hzero 2, isoTime_eq hclock hne hfs⟩

/-! ### Halves of the day -/

inductive Half where
  | am
  | pm

namespace Half

/-- How a half is written. -/
def spellings : Half → List (List Char)
  | am => ["am", "Am", "aM", "AM"].map String.toList
  | pm => ["pm", "Pm", "pM", "PM"].map String.toList

/-- The hour of the day of an hour in one half of it. -/
def hourOfDay : Option Half → Nat → Nat
  | some pm, h => if h < 12 then h + 12 else h
  | some am, h => if h = 12 then 0 else h
  | none, h => h

theorem word_of_mem_spellings {half : Half} {w : List Char} (h : w ∈ half.spellings) : Word w := by
  have hspelled : ∀ w ∈ half.spellings, w ≠ [] ∧ Field ':' w := by
    cases half <;> decide
  exact ⟨(hspelled w h).1, (hspelled w h).2.unbroken⟩

theorem dayHour_of_mem_spellings {half : Half} {w : List Char} (h : w ∈ half.spellings) :
    dayHour (some (w.map Char.toLower)) = hourOfDay (some half) := by
  cases half with
  | am =>
      have hlower : ∀ w ∈ am.spellings, w.map Char.toLower = ['a', 'm'] := by decide
      rw [hlower w h]
      funext n
      simp [dayHour, hourOfDay]
  | pm =>
      have hlower : ∀ w ∈ pm.spellings, w.map Char.toLower = ['p', 'm'] := by decide
      rw [hlower w h]
      funext n
      simp [dayHour, hourOfDay]

end Half

/-- A clock with its half of the day behind it, if it has one, and with blanks around it. -/
inductive ClockText (fs : List (List Char)) : Option Half → List Char → Prop where
  | bare {a b : List Char} : Blank a → Blank b → ClockText fs none (a ++ clock fs ++ b)
  | halved {half : Half} {a b w c : List Char} : Blank a → Blank b → b ≠ [] → w ∈ half.spellings →
      Blank c → ClockText fs (some half) (a ++ (clock fs ++ b ++ w) ++ c)

theorem ClockText.of_clock (fs : List (List Char)) : ClockText fs none (clock fs) := by
  have h : ClockText fs none (clock fs ++ []) := .bare Text.blank_nil Text.blank_nil
  rwa [List.append_nil] at h

/-- The words of a clock are the clock itself and its half. -/
theorem ClockText.words_eq {fs : List (List Char)} {half : Option Half} {t : List Char}
    (hclock : Word (clock fs)) (h : ClockText fs half t) :
    ∃ ws, words t = clock fs :: ws ∧
      dayHour (ws.head?.map (·.map Char.toLower)) = Half.hourOfDay half := by
  cases h with
  | bare ha hb =>
      refine ⟨[], ?_, rfl⟩
      rw [Text.words_append_blank _ hb, Text.words_blank_append _ ha, Text.words_word hclock]
  | @halved half a b w c ha hb hne hw hc =>
      refine ⟨[w], ?_, Half.dayHour_of_mem_spellings hw⟩
      have hspaced : Spaced [clock fs, w] (clock fs ++ b ++ w) :=
        .cons hclock hb hne (.word (Half.word_of_mem_spellings hw))
      rw [Text.words_append_blank _ hc, Text.words_blank_append _ ha, hspaced.words_eq]

/-- What is written for a clock. -/
theorem isoTime_of_clockText {h m t : List Char} {s : Option (List Char)} {half : Option Half}
    (hfs : ∀ f ∈ h :: m :: s.toList, Field ':' f) (ht : ClockText (h :: m :: s.toList) half t) :
    isoTime t = clock [written (Half.hourOfDay half) h, written id m,
      written id (s.getD ['0'])] := by
  obtain ⟨ws, hwords, hperiod⟩ := ht.words_eq (word_intercalate rfl hfs)
  have hclock : (words t)[0]?.getD [] = clock (h :: m :: s.toList) := by
    rw [hwords]
    rfl
  have hhalf : (words t)[1]? = ws.head? := by
    rw [hwords, List.head?_eq_getElem?]
    rfl
  have hsecond : (h :: m :: s.toList)[2]? = s := by
    cases s <;> rfl
  rw [isoTime_eq hclock (by simp) hfs, hhalf, hperiod, hsecond]
  rfl

/-- What is written is a clock of three fields that are written already. -/
theorem isoTime_isoTime (t : List Char) : isoTime (isoTime t) = isoTime t := by
  obtain ⟨value, h, m, s, hvalue, hh, hm, hs, ht⟩ := exists_isoTime_eq t
  have hfs : ∀ f ∈ written value h :: written id m :: (some (written id s)).toList,
      Field ':' f := by
    have hcolon : ¬ (':'.isDigit ∨ ':' = '+') := by decide
    simp only [Option.toList_some, List.forall_mem_cons]
    exact ⟨hh.written hcolon _, hm.written hcolon _, hs.written hcolon _, List.forall_mem_nil _⟩
  have htext : ClockText (written value h :: written id m :: (some (written id s)).toList) none
      (isoTime t) := ht ▸ .of_clock _
  have hkept : Fits id := fun _ hn => hn
  have hnone : Half.hourOfDay none = id := rfl
  rw [isoTime_of_clockText hfs htext, hnone, Option.getD_some, written_written hvalue,
    written_written hkept, written_written hkept, ht]

/-- A time that has been written is left alone.  For a clock, the fields are written in their
places, the hour as an hour of the day and no seconds as zero. -/
theorem isoTime_clockText :
    (∀ t, isoTime (isoTime t) = isoTime t) ∧
      ∀ {h m t : List Char} {s : Option (List Char)} {half : Option Half},
        (∀ f ∈ h :: m :: s.toList, Field ':' f) → ClockText (h :: m :: s.toList) half t →
        isoTime t = clock [written (Half.hourOfDay half) h, written id m,
          written id (s.getD ['0'])] :=
  ⟨isoTime_isoTime, isoTime_of_clockText⟩

/-- A clock in the afternoon, of which one field is no number. -/
theorem isoTime_clockText_afternoon :
    (∀ f ∈ ["+3".toList, "x".toList], Field ':' f) ∧
      ClockText ["+3".toList, "x".toList] (some .pm) " +3:x\u2003pM".toList ∧
      isoTime " +3:x\u2003pM".toList = "15:x:00".toList ∧
      isoTime "15:x:00".toList = "15:x:00".toList := by
  have hfs : ∀ f ∈ ["+3".toList, "x".toList], Field ':' f := by decide
  have ht : ClockText ["+3".toList, "x".toList] (some .pm) " +3:x\u2003pM".toList :=
    .halved (a := [' ']) (b := ['\u2003']) (w := "pM".toList) (c := [])
      (by decide) (by decide) (by simp) (by decide) (by decide)
  have hiso : isoTime " +3:x\u2003pM".toList = "15:x:00".toList :=
    isoTime_clockText.2 (s := none) hfs ht
  exact ⟨hfs, ht, hiso, hiso ▸ isoTime_clockText.1 _⟩

/-- Midnight is in the morning. -/
example : isoTime "12:00:00 AM".toList = "00:00:00".toList := by decide

end Handoff.Clock
