import Handoff.Json.Reader
import Handoff.Script.Expr
import Mathlib.Data.List.Basic

/-!
# Lists of texts are JSON

A list of quoted texts is a JSON text, and reading it gives back the texts, whatever they hold
(`ofText?_texts`).  Each layer of the reader is followed with any text behind what it reads.
-/

namespace Handoff.Json
open Script (doubleQuoted escapeDouble)

namespace Draft

/-! ### Strings -/

theorem readString_escape {e c : Char} (he : e ≠ 'u') (hc : escaped? e = some c)
    (s : StringState) (rest : List Char) :
    readString s ('\\' :: e :: rest) = readString (s.push c) rest := by
  simp [readString, he, hc]

theorem readString_escapeDouble (c : Char) (seen rest : List Char) :
    readString ⟨seen, none, true⟩ (escapeDouble c ++ rest) =
      readString ⟨c :: seen, none, true⟩ rest := by
  have hpush : StringState.push ⟨seen, none, true⟩ c = ⟨c :: seen, none, true⟩ := rfl
  rw [escapeDouble]
  split_ifs with hquote hslash hback htab hline hform hreturn hcontrol
  · subst hquote
    exact readString_escape (by decide) rfl _ _
  · subst hslash
    exact readString_escape (by decide) rfl _ _
  · subst hback
    exact readString_escape (by decide) rfl _ _
  · subst htab
    exact readString_escape (by decide) rfl _ _
  · subst hline
    exact readString_escape (by decide) rfl _ _
  · subst hform
    exact readString_escape (by decide) rfl _ _
  · subst hreturn
    exact readString_escape (by decide) rfl _ _
  · have hunit : ∀ n < 32, codeUnit? '0' '0' (Nat.digitChar (n / 16)) (Nat.digitChar (n % 16)) =
        some n := by decide
    have hsurrogate : ¬ (0xdc00 ≤ c.toNat) ∧ ¬ (0xd800 ≤ c.toNat) := by omega
    simp [readString, hunit _ hcontrol, StringState.pushUnit, hsurrogate, hpush]
  · simp [readString, hslash, hcontrol, hpush]

theorem readString_quoted (s seen rest : List Char) :
    readString ⟨seen, none, true⟩ (s.flatMap escapeDouble ++ '"' :: rest) =
      .closed (some (String.ofList (seen.reverse ++ s))) rest := by
  induction s generalizing seen with
  | nil => simp [readString, StringState.settle]
  | cons c s ih =>
      rw [List.flatMap_cons, List.append_assoc, readString_escapeDouble, ih, List.reverse_cons,
        List.append_assoc, List.singleton_append]

/-- A quoted text behind blanks is read as the text. -/
theorem readValue_doubleQuoted {b : List Char} (hb : ∀ c ∈ b, isBlank c) (fuel : Nat) (t : String)
    (rest : List Char) :
    readValue (fuel + 1) (b ++ (doubleQuoted t).toList ++ rest) = (string t, some rest) := by
  have happ : (doubleQuoted t).toList ++ rest =
      '"' :: (t.toList.flatMap escapeDouble ++ '"' :: rest) := by simp [doubleQuoted]
  have hquote : ('"' :: (t.toList.flatMap escapeDouble ++ '"' :: rest)).dropWhile isBlank =
      '"' :: (t.toList.flatMap escapeDouble ++ '"' :: rest) := List.dropWhile_cons_of_neg (by decide)
  rw [List.append_assoc, happ, readValue, List.dropWhile_append_of_pos hb, hquote]
  simp only [readText, readString_quoted]
  simp

/-! ### Lists -/

/-- Quoted texts with commas between them. -/
def listed (items : List String) : List Char :=
  [',', ' '].intercalate (items.map fun t => (doubleQuoted t).toList)

theorem readItems_listed {items : List String} (hne : items ≠ []) {b : List Char}
    (hb : ∀ c ∈ b, isBlank c) (fuel : Nat) (seen : List Draft) (rest : List Char) :
    readItems (fuel + items.length + 1) seen (b ++ listed items ++ ']' :: rest) =
      (array (seen.reverse ++ items.map string) none, some rest) := by
  induction items generalizing b seen with
  | nil => exact absurd rfl hne
  | cons t items ih =>
      cases items with
      | nil =>
          have happ : b ++ listed [t] ++ ']' :: rest = b ++ (doubleQuoted t).toList ++ ']' :: rest := by
            simp [listed]
          have hclose : (']' :: rest).dropWhile isBlank = ']' :: rest := rfl
          rw [happ, readItems, List.length_singleton, readValue_doubleQuoted hb]
          simp [hclose]
      | cons t' items =>
          have happ : b ++ listed (t :: t' :: items) ++ ']' :: rest =
              b ++ (doubleQuoted t).toList ++ ',' :: ([' '] ++ listed (t' :: items) ++ ']' :: rest) := by
            simp [listed]
          have hnext := ih (by simp) (b := [' ']) (List.forall_mem_singleton.mpr rfl) (string t :: seen)
          rw [happ, readItems, List.length_cons, ← Nat.add_assoc, readValue_doubleQuoted hb]
          have hcomma : ∀ s, (',' :: s).dropWhile isBlank = ',' :: s := fun s => rfl
          simp only [hcomma]
          rw [hnext]
          simp

theorem length_le_listed (items : List String) : items.length ≤ (listed items).length := by
  induction items with
  | nil => simp
  | cons t items ih =>
      have hquotes : 2 ≤ (doubleQuoted t).toList.length := by simp [doubleQuoted]
      cases items with
      | nil =>
          simp only [listed, List.map_cons, List.map_nil, List.intercalate_singleton,
            List.length_singleton]
          omega
      | cons t' items =>
          have happ : listed (t :: t' :: items) =
              (doubleQuoted t).toList ++ [',', ' '] ++ listed (t' :: items) := by simp [listed]
          rw [happ, List.length_append, List.length_append, List.length_cons]
          omega

theorem readValue_listed (items : List String) (fuel : Nat) :
    readValue (fuel + items.length + 2) ('[' :: (listed items ++ [']'])) =
      (array (items.map string) none, some []) := by
  have hopen : ('[' :: (listed items ++ [']'])).dropWhile isBlank =
      '[' :: (listed items ++ [']']) := rfl
  rw [readValue, hopen]
  cases items with
  | nil => rfl
  | cons t items =>
      obtain ⟨s, hs⟩ : ∃ s, listed (t :: items) ++ [']'] = '"' :: s := by
        cases items <;> simp [listed, doubleQuoted]
      have hquote : ('"' :: s).dropWhile isBlank = '"' :: s := rfl
      have hitems := readItems_listed (List.cons_ne_nil t items) (b := []) (by simp) fuel [] []
      rw [List.nil_append, hs] at hitems
      rw [hs]
      simp only [hquote]
      exact hitems

theorem values_map_string (room : Nat) (items : List String) :
    values room (items.map string) = .ok (items.map .string) := by
  induction items with
  | nil => rfl
  | cons t items ih =>
      rw [List.map_cons, values, ih]
      rfl

end Draft

theorem distinctItems_map_string (items : List String) :
    distinctItems (items.map .string) = items.map .string := by
  induction items with
  | nil => rfl
  | cons t items ih => rw [List.map_cons, distinctItems, ih, Value.distinct]

/-- A list of quoted texts is read as a list of the texts. -/
theorem ofText?_texts (items : List String) :
    Value.ofText? (Script.Literal.texts items).render = some (.array (items.map .string)) := by
  have htext : (Script.Literal.texts items).render.toList = '[' :: (Draft.listed items ++ [']']) := by
    simp [Script.Literal.render, Draft.listed, Function.comp_def]
  have hlength : (Script.Literal.texts items).render.length = (Draft.listed items).length + 2 := by
    rw [← String.length_toList, htext]
    simp
  have hread : Draft.ofText (Script.Literal.texts items).render =
      (.array (items.map .string) none, none) := by
    have hitems := Draft.length_le_listed items
    have hfuel : 2 * ('[' :: (Draft.listed items ++ [']'])).length + 2 =
        2 * (Draft.listed items).length - items.length + 4 + items.length + 2 := by
      simp only [List.length_cons, List.length_append, List.length_nil]
      omega
    simp only [Draft.ofText, htext, hfuel, Draft.readValue_listed, List.all_nil, if_true]
  rw [Value.ofText?, hread, hlength]
  simp only [Draft.value, Draft.values_map_string]
  exact congrArg some (congrArg Value.array (distinctItems_map_string items))

end Handoff.Json
