import Handoff.Proofs.Text.Mark
import Handoff.Script.Statement

/-!
# Tags in literals

A script holds texts of the design between quotes.  Escaping leaves the characters of tags alone, so
a tag begins in a script where, and only where, it begins in one of these texts
(`avoids_render_iff`).
-/

namespace Handoff.Script
open Text (Avoids TagMark avoids_append_cons_iff avoids_append_of_not_mem isTagChar)

/-! ### Escaping -/

/-- Escaping that writes the characters of tags as they are, and others so that a backslash shows. -/
structure Escaping (escape : Char → List Char) : Prop where
  self_or : ∀ c, escape c = [c] ∨ ∃ w, escape c = '\\' :: w ∧ '<' ∉ w
  tag : ∀ c, isTagChar c → escape c = [c]

theorem escaping_escapeSingle : Escaping escapeSingle where
  self_or c := by
    rw [escapeSingle]
    split_ifs
    · exact .inr ⟨['\\'], rfl, by decide⟩
    · exact .inr ⟨['\''], rfl, by decide⟩
    · exact .inl rfl
  tag c hc := by
    rw [escapeSingle, if_neg, if_neg]
    · rintro rfl
      cases hc
    · rintro rfl
      cases hc

theorem escaping_escapeDouble : Escaping escapeDouble where
  self_or c := by
    rw [escapeDouble]
    split_ifs with _ _ _ _ _ _ _ hcontrol
    · exact .inr ⟨['"'], rfl, by decide⟩
    · exact .inr ⟨['\\'], rfl, by decide⟩
    · exact .inr ⟨['b'], rfl, by decide⟩
    · exact .inr ⟨['t'], rfl, by decide⟩
    · exact .inr ⟨['n'], rfl, by decide⟩
    · exact .inr ⟨['f'], rfl, by decide⟩
    · exact .inr ⟨['r'], rfl, by decide⟩
    · have hdigit : ∀ n < 16, Nat.digitChar n ≠ '<' := by decide
      refine .inr ⟨_, rfl, ?_⟩
      simp [Ne.symm (hdigit (c.toNat / 16) (by omega)), Ne.symm (hdigit (c.toNat % 16) (by omega))]
    · exact .inl rfl
  tag c hc := by
    have hlt : ¬ c.toNat < 0x20 := by
      intro h
      simp only [isTagChar, Bool.or_eq_true, beq_iff_eq] at hc
      rcases hc with ((hc | rfl) | rfl) | rfl
      · have hletter := Text.toNat_of_isAlpha hc
        omega
      all_goals exact absurd h (by decide)
    have hne : ∀ d : Char, isTagChar d = false → c ≠ d := by
      rintro d hd rfl
      rw [hd] at hc
      cases hc
    rw [escapeDouble, if_neg (hne _ (by decide)), if_neg (hne _ (by decide)),
      if_neg (hne _ (by decide)), if_neg (hne _ (by decide)), if_neg (hne _ (by decide)),
      if_neg (hne _ (by decide)), if_neg (hne _ (by decide)), if_neg hlt]

namespace Escaping
variable {escape : Char → List Char} (he : Escaping escape)
include he

theorem prefix_of_prefix_flatMap {mark s : List Char} (hm : '\\' ∉ mark)
    (h : mark <+: s.flatMap escape) : mark <+: s := by
  induction s generalizing mark with
  | nil => exact h
  | cons c s ih =>
      cases mark with
      | nil => exact List.nil_prefix
      | cons d mark =>
          rw [List.mem_cons, not_or] at hm
          rw [List.flatMap_cons] at h
          rcases he.self_or c with hc | ⟨w, hc, -⟩
          · rw [hc, List.singleton_append] at h
            obtain ⟨rfl, hprefix⟩ := List.cons_prefix_cons.mp h
            exact List.cons_prefix_cons.mpr ⟨rfl, ih hm.2 hprefix⟩
          · -- the mark would begin with the backslash
            rw [hc, List.cons_append] at h
            exact absurd (List.cons_prefix_cons.mp h).1.symm hm.1

/-- Escaping brings no tag about and hides none. -/
theorem avoids_flatMap_iff {mark : List Char} (hm : TagMark mark) (s : List Char) :
    Avoids mark (s.flatMap escape) ↔ Avoids mark s := by
  have hslash : '\\' ∉ mark := hm.not_mem (by decide)
  have hself : mark.flatMap escape = mark := by
    have hsingle : ∀ c ∈ mark, escape c = [c] := by
      intro c hc
      refine he.tag c ?_
      by_contra hcontra
      exact hm.not_mem (by simpa using hcontra) hc
    rw [List.flatMap_congr hsingle, List.flatMap_singleton']
  constructor
  · rintro h ⟨a, b, rfl⟩
    refine h ⟨a.flatMap escape, b.flatMap escape, ?_⟩
    rw [List.flatMap_append, List.flatMap_append, hself]
  · intro h
    obtain ⟨m, rfl, -⟩ := hm.exists_eq_cons
    induction s with
    | nil => exact h
    | cons c s ih =>
        have hs := ih (h.of_isInfix (List.infix_cons List.infix_rfl))
        rw [List.flatMap_cons]
        rcases he.self_or c with hc | ⟨w, hc, hw⟩
        · rw [hc, List.singleton_append]
          intro hinfix
          rcases List.infix_cons_iff.mp hinfix with hprefix | hinfix
          · refine h (he.prefix_of_prefix_flatMap hslash ?_).isInfix
            rwa [List.flatMap_cons, hc, List.singleton_append]
          · exact hs hinfix
        · -- no mark begins at an escaped character or behind its backslash
          rw [hc]
          exact (avoids_append_of_not_mem (by simp [hw])).mpr hs

end Escaping

/-! ### Literals -/

/-- The texts of the design in a literal. -/
def Literal.strings : Literal → List String
  | boolean _ => []
  | text s => [s]
  | texts items => items

/-- The texts of the design in a statement. -/
def Statement.strings : Statement → List String
  | imports _ _ => []
  | declare _ value => value.strings

/-- A statement in whose names no tag begins. -/
def Statement.Unmarked : Statement → Prop
  | imports names source => (∀ n ∈ names, '<' ∉ n.toList) ∧ '<' ∉ source.toList
  | declare name _ => '<' ∉ name.toList

section
variable {mark : List Char} (hm : TagMark mark)
include hm

/-- A text between quotes. -/
theorem avoids_quoted_iff {escape : Char → List Char} (he : Escaping escape) {q : Char}
    (hq : isTagChar q = false) (s rest : List Char) :
    Avoids mark (q :: s.flatMap escape ++ q :: rest) ↔ Avoids mark s ∧ Avoids mark rest := by
  have hqm : q ∉ mark := hm.not_mem hq
  have hnil : Avoids mark [] := hm.avoids (by simp)
  rw [List.cons_append, ← List.nil_append (q :: _), avoids_append_cons_iff hqm,
    avoids_append_cons_iff hqm, he.avoids_flatMap_iff hm]
  exact and_iff_right hnil

theorem avoids_append_iff {a : List Char} (ha : '<' ∉ a) (s : List Char) :
    Avoids mark (a ++ s) ↔ Avoids mark s := by
  obtain ⟨m, rfl, -⟩ := hm.exists_eq_cons
  exact avoids_append_of_not_mem ha

theorem avoids_texts_iff (items : List String) (rest : List Char) :
    Avoids mark ((", ".intercalate (items.map doubleQuoted)).toList ++ rest) ↔
      (∀ t ∈ items, Avoids mark t.toList) ∧ Avoids mark rest := by
  have hquoted : ∀ (t : String) (rest : List Char), Avoids mark ((doubleQuoted t).toList ++ rest) ↔
      Avoids mark t.toList ∧ Avoids mark rest := by
    intro t rest
    have happ : (doubleQuoted t).toList ++ rest =
        '"' :: t.toList.flatMap escapeDouble ++ '"' :: rest := by simp [doubleQuoted]
    rw [happ]
    exact avoids_quoted_iff hm escaping_escapeDouble (by decide) _ _
  rw [String.toList_intercalate]
  induction items with
  | nil => simp
  | cons t items ih =>
      cases items with
      | nil => simpa using hquoted t rest
      | cons t' items =>
          rw [List.map_cons, List.map_cons, List.map_cons, List.map_cons,
            List.intercalate_cons_cons, List.append_assoc, List.append_assoc, hquoted,
            avoids_append_iff hm (by decide), ← List.map_cons, ← List.map_cons,
            List.forall_mem_cons, and_assoc]
          exact and_congr_right fun _ => ih

theorem avoids_literal_iff (value : Literal) (rest : List Char) :
    Avoids mark (value.render.toList ++ rest) ↔
      (∀ t ∈ value.strings, Avoids mark t.toList) ∧ Avoids mark rest := by
  cases value with
  | boolean b =>
      have hb : '<' ∉ (Literal.boolean b).render.toList := by cases b <;> decide
      rw [avoids_append_iff hm hb]
      simp [Literal.strings]
  | text s =>
      have happ : (Literal.text s).render.toList ++ rest =
          '\'' :: s.toList.flatMap escapeSingle ++ '\'' :: rest := by
        simp [Literal.render, singleQuoted]
      rw [happ, avoids_quoted_iff hm escaping_escapeSingle (by decide)]
      simp [Literal.strings]
  | texts items =>
      have happ : (Literal.texts items).render.toList ++ rest =
          ['['] ++ ((", ".intercalate (items.map doubleQuoted)).toList ++ ([']'] ++ rest)) := by
        simp [Literal.render]
      rw [happ, avoids_append_iff hm (by decide), avoids_texts_iff hm,
        avoids_append_iff hm (by decide)]
      rfl

theorem avoids_statement_iff {st : Statement} (h : st.Unmarked) (rest : List Char) :
    Avoids mark (st.render.toList ++ rest) ↔
      (∀ t ∈ st.strings, Avoids mark t.toList) ∧ Avoids mark rest := by
  cases st with
  | imports names source =>
      have hlt : '<' ∉ (Statement.imports names source).render.toList := by
        have hnames : '<' ∉ ", ".toList.intercalate (names.map String.toList) := by
          intro hc
          rcases Text.mem_or_of_mem_intercalate hc with hc | ⟨l, hl, hc⟩
          · exact absurd hc (by decide)
          · obtain ⟨n, hn, rfl⟩ := List.mem_map.mp hl
            exact h.1 n hn hc
        simpa [Statement.render, Statement.body, h.2] using hnames
      rw [avoids_append_iff hm hlt]
      simp [Statement.strings]
  | declare name value =>
      have happ : (Statement.declare name value).render.toList ++ rest =
          ("let ".toList ++ name.toList ++ " = ".toList) ++
            (value.render.toList ++ (";\n".toList ++ rest)) := by
        simp [Statement.render, Statement.body]
      have hname : '<' ∉ name.toList := h
      have hlt : '<' ∉ "let ".toList ++ name.toList ++ " = ".toList := by simp [hname]
      rw [happ, avoids_append_iff hm hlt, avoids_literal_iff hm, avoids_append_iff hm (by decide)]
      rfl

/-- A tag begins in a script where it begins in one of the texts of the design. -/
theorem avoids_render_iff {statements : List Statement} (h : ∀ st ∈ statements, st.Unmarked) :
    Avoids mark (render statements).toList ↔
      ∀ st ∈ statements, ∀ t ∈ st.strings, Avoids mark t.toList := by
  rw [render]
  induction statements with
  | nil => simpa using hm.avoids (by simp)
  | cons st statements ih =>
      obtain ⟨hst, hsts⟩ := List.forall_mem_cons.mp h
      rw [List.map_cons, String.join_cons, String.toList_append, avoids_statement_iff hm hst,
        ih hsts, List.forall_mem_cons]

end

end Handoff.Script
