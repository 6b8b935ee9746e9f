import Handoff.Proofs.Script.Imports
import Handoff.Script.Statement

/-!
# Declarations are split as they are written

A scan that enters a literal leaves it at the quote that ends it, whatever text was quoted: what is
escaped never ends the literal, and nothing escapes its last quote (`Position.walk?_quoted`).  So a
declaration is scanned from outside to outside, with its brackets matched (`single_declare`), and
declarations written one behind the other are split into themselves (`statements_render`).
-/

namespace Handoff.Script
open Text (Blank Trimmed isBlank)
open Position

/-! ### Escaped texts -/

namespace Position

theorem walk?_backslash (q c : Char) (s : List Char) (d : Nat) :
    (Position.mk (some q) false d).walk? ('\\' :: c :: s) =
      (Position.mk (some q) false d).walk? s := by
  simp [walk?_cons, step?, endsAt, Position.after]

theorem walk?_inside {q c : Char} (s : List Char) (d : Nat) (hc : c ≠ '\\') (hq : c ≠ q) :
    (Position.mk (some q) false d).walk? (c :: s) = (Position.mk (some q) false d).walk? s := by
  simp [walk?_cons, step?, endsAt, Position.after, hc, hq]

end Position

/-- Escaping of which a scan notices nothing inside of a literal with the quote `q`. -/
def Hides (q : Char) (escape : Char → List Char) : Prop :=
  ∀ c d, (Position.mk (some q) false d).walk? (escape c) = some ⟨some q, false, d⟩

theorem hides_escapeSingle : Hides '\'' escapeSingle := by
  intro c d
  rw [escapeSingle]
  split_ifs with hslash hquote
  · exact walk?_backslash _ _ [] d
  · exact walk?_backslash _ _ [] d
  · exact walk?_inside [] d hslash hquote

theorem hides_escapeDouble : Hides '"' escapeDouble := by
  intro c d
  rw [escapeDouble]
  split_ifs with hquote hslash _ _ _ _ _ hcontrol
  any_goals exact walk?_backslash _ _ [] d
  · -- the code of a control character is written with digits
    have hdigit : ∀ n < 16, Nat.digitChar n ≠ '\\' ∧ Nat.digitChar n ≠ '"' := by decide
    obtain ⟨hhigh, hhigh'⟩ := hdigit (c.toNat / 16) (by omega)
    obtain ⟨hlow, hlow'⟩ := hdigit (c.toNat % 16) (by omega)
    rw [walk?_backslash, walk?_inside _ d (by decide) (by decide),
      walk?_inside _ d (by decide) (by decide), walk?_inside _ d hhigh hhigh',
      walk?_inside _ d hlow hlow', walk?_nil]
  · exact walk?_inside [] d hslash hquote

theorem Position.walk?_escaped {q : Char} {escape : Char → List Char} (h : Hides q escape)
    (s : List Char) (d : Nat) :
    (Position.mk (some q) false d).walk? (s.flatMap escape) = some ⟨some q, false, d⟩ := by
  induction s with
  | nil => rfl
  | cons c s ih => rw [List.flatMap_cons, walk?_append_of_eq (h c d), ih]

/-- A literal is scanned as a whole, in whatever brackets. -/
theorem Position.walk?_quoted {q : Char} {escape : Char → List Char} (hq : isQuote q)
    (h : Hides q escape) (s : List Char) (d : Nat) :
    (Position.mk none false d).walk? (q :: s.flatMap escape ++ [q]) = some ⟨none, false, d⟩ := by
  have hends : ∀ p : Position, p.endsAt q = false := by
    intro p
    rw [Bool.eq_false_iff]
    intro he
    rw [(endsAt_iff.mp he).2.1] at hq
    cases hq
  have hopen : (Position.mk none false d).walk? [q] = some ⟨some q, false, d⟩ := by
    simp only [isQuote, Bool.or_eq_true, beq_iff_eq] at hq
    rcases hq with rfl | rfl <;> simp [walk?_cons, step?, hends, Position.after]
  have hclose : (Position.mk (some q) false d).walk? [q] = some ⟨none, false, d⟩ := by
    have hslash : q ≠ '\\' := by
      rintro rfl
      cases hq
    simp [walk?_cons, step?, hends, Position.after, hslash]
  rw [List.cons_append, ← List.singleton_append, walk?_append_of_eq hopen,
    walk?_append_of_eq (walk?_escaped h s d), hclose]

/-! ### Literals -/

theorem Position.walk?_intercalate {p : Position} {sep : List Char} {ls : List (List Char)}
    (hsep : p.walk? sep = some p) (h : ∀ l ∈ ls, p.walk? l = some p) :
    p.walk? (sep.intercalate ls) = some p := by
  induction ls with
  | nil => rfl
  | cons l ls ih =>
      have hl : p.walk? l = some p := h l (by simp)
      cases ls with
      | nil => rwa [List.intercalate_singleton]
      | cons l' ls =>
          rw [List.intercalate_cons_cons, List.append_assoc, walk?_append_of_eq hl,
            walk?_append_of_eq hsep]
          exact ih fun k hk => h k (List.mem_cons_of_mem l hk)

theorem toList_render_text (s : String) :
    (Literal.text s).render.toList = '\'' :: s.toList.flatMap escapeSingle ++ ['\''] := by
  simp [Literal.render, singleQuoted]

theorem toList_render_texts (items : List String) :
    (Literal.texts items).render.toList =
      '[' :: [',', ' '].intercalate (items.map fun t => (doubleQuoted t).toList) ++ [']'] := by
  simp [Literal.render, Function.comp_def]

/-- The brackets and the quotes of a literal are matched. -/
theorem whole_render (value : Literal) : Whole value.render.toList := by
  cases value with
  | boolean b => cases b <;> rfl
  | text s =>
      rw [Whole, toList_render_text]
      exact walk?_quoted rfl hides_escapeSingle s.toList 0
  | texts items =>
      have hopen : outside.walk? ['['] = some ⟨none, false, 1⟩ := rfl
      have hitems : ∀ l ∈ items.map fun t => (doubleQuoted t).toList,
          (Position.mk none false 1).walk? l = some ⟨none, false, 1⟩ := by
        intro l hl
        obtain ⟨t, -, rfl⟩ := List.mem_map.mp hl
        rw [doubleQuoted, String.toList_ofList]
        exact walk?_quoted rfl hides_escapeDouble t.toList 1
      have hsep : (Position.mk none false 1).walk? [',', ' '] = some ⟨none, false, 1⟩ := rfl
      rw [Whole, toList_render_texts, List.cons_append, ← List.singleton_append,
        walk?_append_of_eq hopen, walk?_append_of_eq (walk?_intercalate hsep hitems)]
      rfl

theorem getLast?_render (value : Literal) :
    ∃ c ∈ ['e', '\'', ']'], value.render.toList.getLast? = some c := by
  cases value with
  | boolean b => exact ⟨'e', by decide, by cases b <;> rfl⟩
  | text s => exact ⟨'\'', by decide, by rw [toList_render_text, List.getLast?_concat]⟩
  | texts items => exact ⟨']', by decide, by rw [toList_render_texts, List.getLast?_concat]⟩

/-! ### Declarations -/

theorem toList_body_declare (name : String) (value : Literal) :
    (Statement.declare name value).body.toList =
      "let ".toList ++ name.toList ++ " = ".toList ++ value.render.toList := by
  simp [Statement.body]

theorem single_declare {name : String} (hname : Plain name.toList) (value : Literal) :
    Single (Statement.declare name value).body.toList := by
  have hplain : Plain ("let ".toList ++ name.toList ++ " = ".toList) :=
    plain_append.mpr ⟨plain_append.mpr ⟨by decide, hname⟩, by decide⟩
  obtain ⟨c, hc, hlast⟩ := getLast?_render value
  rw [toList_body_declare]
  refine ⟨?_, ⟨fun d hd => ?_, fun d hd => ?_⟩, by simp⟩
  · rw [Whole, walk?_append_of_eq (walk?_plain hplain rfl)]
    exact whole_render value
  · obtain rfl : 'l' = d := Option.some.inj hd
    rfl
  · rw [List.getLast?_append, hlast, Option.some_or] at hd
    obtain rfl : c = d := Option.some.inj hd
    have hblank : ∀ c ∈ ['e', '\'', ']'], isBlank c = false := by
      simp only [List.forall_mem_cons]
      exact ⟨rfl, rfl, rfl, List.forall_mem_nil _⟩
    exact hblank c hc

/-- Statements on lines of their own are split into what they were. -/
theorem statements_render {sts : List Statement} (h : ∀ st ∈ sts, Single st.body.toList) :
    statements (render sts).toList = sts.map fun st => st.body.toList := by
  induction sts with
  | nil => rfl
  | cons st sts ih =>
      have hline : Blank ['\n'] := by decide
      have happ : (render (st :: sts)).toList =
          st.body.toList ++ ';' :: (['\n'] ++ (render sts).toList) := by
        simp [render, Statement.render, String.join_cons]
      rw [happ, statements_cons (h st (by simp)), statements_blank_append hline,
        ih fun t ht => h t (by simp [ht]), List.map_cons]

end Handoff.Script
