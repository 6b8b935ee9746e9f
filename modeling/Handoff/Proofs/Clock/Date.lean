import Handoff.Proofs.Clock.Time

/-!
# Dates with times

A date and a time in one text are told apart at the first separator.  Behind it further separators
may stand, but as long as none of them has a comma they are what words are told apart by, and a time
is read by its words.

* `splitSeparators_of_spaced`: a text of words in which no comma is followed by a blank is split
  into its words.
* `isoDateTime_separated`: the date and the time are written as they would be by themselves, and a
  date of three numbers with its year in front.
-/

namespace Handoff.Clock
open Decimal (word32?)
open Text (Blank Spaced Word isBlank singleSpaced trim words)

/-! ### Separators -/

/-- Blanks with or without a comma in front. -/
inductive Separator : List Char → Prop where
  | blanks {b : List Char} : Blank b → b ≠ [] → Separator b
  | comma {b : List Char} : Blank b → b ≠ [] → Separator (',' :: b)

/-- Whether no comma is followed by a blank. -/
def CommasTight (s : List Char) : Prop := s.IsChain fun c d => c = ',' → isBlank d = false

instance : DecidablePred CommasTight := fun s =>
  inferInstanceAs (Decidable (s.IsChain fun c d => c = ',' → isBlank d = false))

theorem Separator.append_blank {sep b : List Char} (h : Separator sep) (hb : Blank b) :
    Separator (sep ++ b) := by
  cases h with
  | blanks h hne => exact .blanks (h.append hb) (by simp [hne])
  | comma h hne => exact .comma (h.append hb) (by simp [hne])

/-- The rest of a separator is passed over. -/
theorem splitSeparators_blank_append {b : List Char} (hb : Blank b) (s : List Char) :
    splitSeparators true (b ++ s) = splitSeparators true s := by
  induction b with
  | nil => rfl
  | cons c b ih =>
      obtain ⟨hc, hb⟩ := List.forall_mem_cons.mp hb
      rw [List.cons_append, splitSeparators, if_pos hc, if_pos rfl, ih hb]

theorem splitSeparators_true {s : List Char} (h : ∀ c ∈ s.head?, isBlank c = false) :
    splitSeparators true s = splitSeparators false s := by
  cases s with
  | nil => rfl
  | cons c s =>
      have hc : ¬ isBlank c := by simp [h c (by simp)]
      rw [splitSeparators, splitSeparators, if_neg hc, if_neg hc]

theorem splitSeparators_separator {sep : List Char} (h : Separator sep) (s : List Char) :
    splitSeparators false (sep ++ s) = [] :: splitSeparators true s := by
  cases h with
  | @blanks b hb hne =>
      obtain ⟨c, b, rfl⟩ := List.exists_cons_of_ne_nil hne
      obtain ⟨hc, hb⟩ := List.forall_mem_cons.mp hb
      rw [List.cons_append, splitSeparators, if_pos hc, if_neg (by simp),
        splitSeparators_blank_append hb]
  | @comma b hb hne =>
      obtain ⟨c, b, rfl⟩ := List.exists_cons_of_ne_nil hne
      have hc : isBlank c := hb c (by simp)
      have hnext : ((c :: b) ++ s).head?.any isBlank := by simp [hc]
      rw [List.cons_append, splitSeparators, if_neg (by decide), hnext, if_pos (by simp),
        splitSeparators_blank_append hb]

/-- Characters in front of a text belong to its first part, if no separator begins in them. -/
theorem splitSeparators_append {w s f : List Char} {fs : List (List Char)}
    (hw : ∀ c ∈ w, isBlank c = false)
    (hcomma : ∀ c ∈ w.getLast?, ∀ d ∈ s.head?, c = ',' → isBlank d = false)
    (hs : splitSeparators false s = f :: fs) :
    splitSeparators false (w ++ s) = (w ++ f) :: fs := by
  induction w with
  | nil => exact hs
  | cons c w ih =>
      obtain ⟨hc, hw⟩ := List.forall_mem_cons.mp hw
      -- what follows `c` directly, and the end of the characters behind it
      have hnext : c = ',' → ∀ d ∈ (w ++ s).head?, isBlank d = false := by
        intro hc d hd
        cases w with
        | nil => exact hcomma c rfl d hd hc
        | cons e w =>
            obtain rfl := Option.some.inj hd
            exact hw _ (by simp)
      have hlast : ∀ e ∈ w.getLast?, ∀ d ∈ s.head?, e = ',' → isBlank d = false := by
        intro e he
        cases w with
        | nil => cases he
        | cons f w => exact hcomma e (by rwa [List.getLast?_cons_cons])
      have hinside : ¬ (c = ',' && (w ++ s).head?.any isBlank) := by
        rw [Bool.and_eq_true, decide_eq_true_iff, Option.any_eq_true]
        rintro ⟨hc, d, hd, hblank⟩
        rw [hnext hc d hd] at hblank
        cases hblank
      rw [List.cons_append, splitSeparators, if_neg (by simp [hc]), if_neg hinside, ih hw hlast]
      rfl

/-- Where no comma is followed by a blank, parts are words. -/
theorem splitSeparators_of_spaced {ws : List (List Char)} {s : List Char} (h : Spaced ws s)
    (hs : CommasTight s) : splitSeparators false s = ws := by
  induction h with
  | @word w hw =>
      have hend : splitSeparators false [] = [[]] := rfl
      have hsplit := splitSeparators_append hw.2 (by simp) hend
      rwa [List.append_nil] at hsplit
  | @cons w b s ws hw hb hne hrest ih =>
      rw [CommasTight, List.append_assoc, List.isChain_append] at hs
      obtain ⟨-, hbs, hcomma⟩ := hs
      have hparts : splitSeparators false (b ++ s) = [] :: ws := by
        rw [splitSeparators_separator (.blanks hb hne), splitSeparators_true hrest.trimmed.1,
          ih (List.isChain_append.mp hbs).2.1]
      rw [List.append_assoc, splitSeparators_append hw.2 hcomma hparts, List.append_nil]

/-! ### Dates -/

/-- A word that does not run into a separator behind it. -/
structure DateText (d : List Char) : Prop where
  word : Word d
  last : d.getLast? ≠ some ','

/-- Fields with slashes in between. -/
def date (fs : List (List Char)) : List Char := ['/'].intercalate fs

theorem fields_of_word32 {month day year : List Char} {m d y : Nat} (hm : word32? month = some m)
    (hd : word32? day = some d) (hy : word32? year = some y) :
    ∀ f ∈ [month, day, year], Field '/' f := by
  have hslash : ¬ ('/'.isDigit ∨ '/' = '+') := by decide
  simp only [List.forall_mem_cons]
  exact ⟨field_of_forall hslash fun _ => Decimal.isDigit_of_mem_word32 hm,
    field_of_forall hslash fun _ => Decimal.isDigit_of_mem_word32 hd,
    field_of_forall hslash fun _ => Decimal.isDigit_of_mem_word32 hy, List.forall_mem_nil _⟩

/-- Numbers do not run into a separator behind them. -/
theorem dateText_date {month day year : List Char} {m d y : Nat} (hm : word32? month = some m)
    (hd : word32? day = some d) (hy : word32? year = some y) :
    DateText (date [month, day, year]) where
  word := word_intercalate rfl (fields_of_word32 hm hd hy)
  last hlast := by
    have hne : year ≠ [] := Decimal.ne_nil_of_word32 hy
    rw [date, List.intercalate_cons_cons, List.intercalate_cons_cons, List.intercalate_singleton,
      ← List.append_assoc, List.getLast?_append_of_ne_nil _ hne] at hlast
    rcases Decimal.isDigit_of_mem_word32 hy (List.mem_of_mem_getLast? hlast) with h | h
    · cases h
    · cases h

/-- A date of three numbers. -/
theorem isoDate_date {month day year : List Char} {m d y : Nat} (hm : word32? month = some m)
    (hd : word32? day = some d) (hy : word32? year = some y) :
    isoDate (date [month, day, year]) = Nat.toDigits 10 y ++
      '-' :: (Nat.toDigits 10 m).leftpad 2 '0' ++ '-' :: (Nat.toDigits 10 d).leftpad 2 '0' := by
  have hfs := fields_of_word32 hm hd hy
  have hsplit : (date [month, day, year]).splitOn '/' = [month, day, year] :=
    List.splitOn_intercalate '/' (fun f hf => (hfs f hf).sep_not_mem) (by simp)
  have htrim : trim (date [month, day, year]) = date [month, day, year] :=
    Text.trim_eq_self (word_intercalate rfl hfs).trimmed
  have hmonth : trim month = month := (hfs month (by simp)).trim_eq
  have hday : trim day = day := (hfs day (by simp)).trim_eq
  have hyear : trim year = year := (hfs year (by simp)).trim_eq
  simp only [isoDate, field?, padded_eq, htrim, hsplit, List.getElem?_cons_zero,
    List.getElem?_cons_succ, Option.getD_some, hmonth, hday, hyear, hy, written_of_some hm,
    written_of_some hd, id_eq]

/-- A date and a time with a separator between them and blanks around them. -/
theorem isoDateTime_eq {lead d sep t trail : List Char} (hlead : Blank lead) (htrail : Blank trail)
    (hd : DateText d) (hsep : Separator sep) (hne : ¬ Blank t) (ht : CommasTight t) :
    isoDateTime (lead ++ (d ++ sep ++ t) ++ trail) = isoDate d ++ 'T' :: isoTime t := by
  obtain ⟨a, b, ha, hb, hu⟩ := Text.exists_eq_append_trim t
  have hwords : words (trim t) = words t := Text.words_trim t
  have htrimmed : Text.Trimmed (trim t) := Text.trimmed_trim t
  have hune : trim t ≠ [] := fun h => hne (Text.trim_eq_nil_iff.mp h)
  generalize trim t = u at *
  subst hu
  have hspaced : Spaced (words u) u := Text.spaced_words htrimmed hune
  -- the blanks in front of the time belong to the separator, those behind it to the end
  have htext : trim (lead ++ (d ++ sep ++ (a ++ u ++ b)) ++ trail) = d ++ ((sep ++ a) ++ u) := by
    have hends : lead ++ (d ++ sep ++ (a ++ u ++ b)) ++ trail =
        lead ++ (d ++ (sep ++ a) ++ u) ++ (b ++ trail) := by
      simp only [List.append_assoc]
    rw [hends, Text.trim_append_blank _ (hb.append htrail), Text.trim_blank_append _ hlead,
      Text.trim_eq_self (hd.word.trimmed.append htrimmed hd.word.1 hune _), List.append_assoc]
  have htight : CommasTight u :=
    (List.isChain_append.mp (List.isChain_append.mp ht).1).2.1
  have htime : splitSeparators false ((sep ++ a) ++ u) = [] :: words u := by
    rw [splitSeparators_separator (hsep.append_blank ha), splitSeparators_true htrimmed.1,
      splitSeparators_of_spaced hspaced htight]
  have hparts : splitSeparators false (d ++ ((sep ++ a) ++ u)) = d :: words u := by
    rw [splitSeparators_append hd.word.2 _ htime, List.append_nil]
    intro c hc _ _ hcomma
    rw [hcomma] at hc
    exact absurd hc hd.last
  have hsame : words (singleSpaced u) = words (a ++ u ++ b) := by
    rw [singleSpaced, hspaced.intercalate.words_eq, hwords]
  rw [isoDateTime, htext, hparts, ← isoTime_congr hsame]
  rfl

/-- A date and a time that are told apart are written as each of them by itself.  A date of three
numbers can be told from what follows, and has its year in front. -/
theorem isoDateTime_separated :
    (∀ {lead d sep t trail : List Char}, Blank lead → Blank trail → DateText d → Separator sep →
      ¬ Blank t → CommasTight t →
      isoDateTime (lead ++ (d ++ sep ++ t) ++ trail) = isoDate d ++ 'T' :: isoTime t) ∧
    ∀ {month day year : List Char} {m d y : Nat}, word32? month = some m → word32? day = some d →
      word32? year = some y → DateText (date [month, day, year]) ∧
        isoDate (date [month, day, year]) = Nat.toDigits 10 y ++
          '-' :: (Nat.toDigits 10 m).leftpad 2 '0' ++ '-' :: (Nat.toDigits 10 d).leftpad 2 '0' :=
  ⟨isoDateTime_eq, fun hm hd hy => ⟨dateText_date hm hd hy, isoDate_date hm hd hy⟩⟩

/-- A date with blanks of several kinds around it and in front of the time. -/
theorem isoDateTime_separated_evening :
    DateText "6/+9/2024".toList ∧ Separator ",\u00a0".toList ∧ CommasTight " 8:00,5  pm".toList ∧
      isoDateTime "\n6/+9/2024,\u00a0 8:00,5  pm ".toList = "2024-06-09T20:00,5:00".toList := by
  have hm : word32? "6".toList = some 6 := rfl
  have hd : word32? "+9".toList = some 9 := rfl
  have hy : word32? "2024".toList = some 2024 := rfl
  obtain ⟨hdate, hiso⟩ := isoDateTime_separated.2 hm hd hy
  have hsep : Separator ",\u00a0".toList := .comma (by decide) (by simp)
  have htight : CommasTight " 8:00,5  pm".toList := by decide
  have htime : isoTime " 8:00,5  pm".toList = "20:00,5:00".toList := by decide
  have hlead : Blank ['\n'] := by decide
  have htrail : Blank [' '] := by decide
  have h := isoDateTime_separated.1 hlead htrail hdate hsep (by decide) htight
  rw [hiso, htime] at h
  exact ⟨hdate, hsep, htight, h⟩

end Handoff.Clock
