import Handoff.Proofs.Script.Merging

/-!
# Formatted scripts

A script that ends outside of all literals and brackets and whose named imports take plain names is
formatted into statements that splitting gives back: the merged imports, and behind them the other
statements as they were (`statements_format`).  A formatted script is formatted into itself
(`format_format`).

* `Import.Sound`: an import whose statement is by itself, is an import, and is read as that import.
-/

namespace Handoff.Script
open Text (singleSpaced Blank Trimmed Avoids TagMark avoids_intercalate)

/-- The imports among statements, as they are read. -/
def importsOf (sts : List (List Char)) : List Import :=
  (sts.filter isImport).map Import.ofStatement

/-- Named imports that take plain names only. -/
def PlainNames (is : List Import) : Prop :=
  ∀ names source, Import.named names source ∈ is → ∀ n ∈ names, Plain n

/-! ### Imports that survive -/

/-- An import whose statement is by itself and is read as that import. -/
structure Import.Sound (i : Import) : Prop where
  single : Single i.statement
  isImport : isImport i.statement
  singleSpaced : singleSpaced i.statement = i.statement
  ofStatement : Import.ofStatement i.statement = i

theorem ofStatement_eq_other {st s source : List Char}
    (h : Import.ofStatement st = .other s source) : s = singleSpaced st := by
  rw [Import.ofStatement] at h
  split at h
  · split at h
    · cases h
    · exact (Import.other.inj h).1.symm
  · exact (Import.other.inj h).1.symm

/-- An other import is read as the same when it is read again. -/
theorem ofStatement_of_other_mem {sts : List (List Char)} {s source : List Char}
    (h : Import.other s source ∈ importsOf sts) : Import.ofStatement s = .other s source := by
  obtain ⟨st, -, hst⟩ := List.mem_map.mp h
  rw [ofStatement_eq_other hst, ofStatement_singleSpaced, hst, ofStatement_eq_other hst]

section
variable {sts : List (List Char)} (hs : ∀ st ∈ sts, Single st)

include hs in
theorem exists_of_mem_importsOf {i : Import} (hi : i ∈ importsOf sts) :
    ∃ st, Single st ∧ isImport st ∧ Import.ofStatement st = i := by
  obtain ⟨st, hst, rfl⟩ := List.mem_map.mp hi
  obtain ⟨hst, himp⟩ := List.mem_filter.mp hst
  exact ⟨st, hs st hst, himp, rfl⟩

include hs in
theorem sound_other {s source : List Char} (hi : Import.other s source ∈ importsOf sts) :
    (Import.other s source).Sound := by
  obtain ⟨st, hsingle, himp, hst⟩ := exists_of_mem_importsOf hs hi
  obtain rfl := ofStatement_eq_other hst
  have hne : ¬ Blank st := fun h => hsingle.ne_nil (by
    rw [← Text.trim_eq_self hsingle.trimmed, Text.trim_eq_nil_iff.mpr h])
  refine ⟨⟨?_, ?_, ?_⟩, ?_, ?_, ?_⟩
  · exact hsingle.whole.singleSpaced
  · exact Text.trimmed_singleSpaced st
  · exact (Text.spaced_singleSpaced hne).text_ne_nil
  · exact isImport_singleSpaced himp hsingle.trimmed
  · exact Text.singleSpaced_singleSpaced st
  · exact (ofStatement_singleSpaced st).trans hst

variable (hp : PlainNames (importsOf sts))
include hs hp

/-- The merged names of a module come from statements that take plain names. -/
theorem sound_named {source : List Char} (hne : firstSeen (namesOf source (importsOf sts)) ≠ []) :
    (Import.named (firstSeen (namesOf source (importsOf sts))) source).Sound := by
  have hnames : ∀ n ∈ firstSeen (namesOf source (importsOf sts)), Specifier n ∧ Plain n := by
    intro n hn
    obtain ⟨names, hi, hn⟩ := mem_namesOf.mp (mem_firstSeen.mp hn)
    obtain ⟨st, -, -, hst⟩ := exists_of_mem_importsOf hs hi
    exact ⟨specifier_of_named hst n hn, hp names source hi n hn⟩
  obtain ⟨n, hn⟩ := List.exists_mem_of_ne_nil _ hne
  obtain ⟨names, hi, -⟩ := mem_namesOf.mp (mem_firstSeen.mp hn)
  obtain ⟨st, hsingle, -, hst⟩ := exists_of_mem_importsOf hs hi
  have hm : Module source := module_of_named hst
  have he : escapes false source = false :=
    escapes_of_named hst (hp names source hi) hsingle.whole
  refine ⟨?_, ?_, ?_, ?_⟩
  · exact single_statement_named (fun n hn => (hnames n hn).2) hm he
  · exact isImport_statement_named _ _
  · exact singleSpaced_statement_named (fun n hn => (hnames n hn).1) hne hm
  · exact ofStatement_statement_named (fun n hn => (hnames n hn).1) hne hm

theorem sound_of_mem_merged {i : Import} (hi : i ∈ merged (importsOf sts)) : i.Sound := by
  cases i with
  | named names source =>
      obtain ⟨rfl, hne⟩ := named_mem_merged.mp hi
      exact sound_named hs hp hne
  | other s source => exact sound_other hs (other_mem_merged.mp hi)

end

/-! ### The statements of a formatted script -/

/-- What a script is formatted into, as statements. -/
def formatted (sts : List (List Char)) : List (List Char) :=
  (merged (importsOf sts)).map Import.statement ++ sts.filter (!isImport ·)

theorem format_eq (script : List Char) :
    format script =
      ['\n', '\n'].intercalate
        ([indented (((merged (importsOf (statements script))).map Import.statement).map (· ++ [';'])),
          indented (((statements script).filter (!isImport ·)).map (· ++ [';']))].filter
            (!·.isEmpty)) := by
  rw [format, List.partition_eq_filter_filter]
  simp only [mergeImports_eq, importsOf, List.map_map]
  rfl

theorem indented_eq_nil_iff {lines : List (List Char)} : indented lines = [] ↔ lines = [] := by
  cases lines with
  | nil => simp [indented]
  | cons l ls => simp [indented_cons]

theorem filter_isImport_formatted {sts : List (List Char)} (hs : ∀ st ∈ sts, Single st)
    (hp : PlainNames (importsOf sts)) :
    (formatted sts).filter isImport = (merged (importsOf sts)).map Import.statement := by
  have h₁ : ((merged (importsOf sts)).map Import.statement).filter isImport =
      (merged (importsOf sts)).map Import.statement :=
    List.filter_eq_self.mpr fun st hst => by
      obtain ⟨i, hi, rfl⟩ := List.mem_map.mp hst
      exact (sound_of_mem_merged hs hp hi).isImport
  have h₂ : (sts.filter (!isImport ·)).filter isImport = [] :=
    List.filter_eq_nil_iff.mpr fun st hst => by simpa using (List.mem_filter.mp hst).2
  rw [formatted, List.filter_append, h₁, h₂, List.append_nil]

theorem importsOf_formatted {sts : List (List Char)} (hs : ∀ st ∈ sts, Single st)
    (hp : PlainNames (importsOf sts)) : importsOf (formatted sts) = merged (importsOf sts) := by
  rw [importsOf, filter_isImport_formatted hs hp, List.map_map]
  exact (List.map_congr_left fun i hi => (sound_of_mem_merged hs hp hi).ofStatement).trans
    (List.map_id _)

theorem filter_not_isImport_formatted {sts : List (List Char)} (hs : ∀ st ∈ sts, Single st)
    (hp : PlainNames (importsOf sts)) :
    (formatted sts).filter (!isImport ·) = sts.filter (!isImport ·) := by
  have h₁ : ((merged (importsOf sts)).map Import.statement).filter (!isImport ·) = [] :=
    List.filter_eq_nil_iff.mpr fun st hst => by
      obtain ⟨i, hi, rfl⟩ := List.mem_map.mp hst
      simp [(sound_of_mem_merged hs hp hi).isImport]
  rw [formatted, List.filter_append, h₁, List.nil_append, List.filter_filter]
  simp

theorem single_of_mem_formatted {sts : List (List Char)} (hs : ∀ st ∈ sts, Single st)
    (hp : PlainNames (importsOf sts)) : ∀ st ∈ formatted sts, Single st := by
  intro st hst
  rcases List.mem_append.mp hst with h | h
  · obtain ⟨i, hi, rfl⟩ := List.mem_map.mp h
    exact (sound_of_mem_merged hs hp hi).single
  · exact hs st (List.mem_of_mem_filter h)

theorem statements_format {script : List Char} (he : EndsOutside script)
    (hp : PlainNames (importsOf (statements script))) {b : List Char} (hb : Blank b) :
    statements (format script ++ b) = formatted (statements script) := by
  have hs : ∀ st ∈ statements script, Single st := fun st => single_of_mem_statements he
  have hsingle := single_of_mem_formatted hs hp
  rw [format_eq]
  rw [formatted] at hsingle ⊢
  generalize (merged (importsOf (statements script))).map Import.statement = imports at *
  generalize (statements script).filter (!isImport ·) = others at *
  have h₁ : ∀ st ∈ imports, Single st := fun st h => hsingle st (by simp [h])
  have h₂ : ∀ st ∈ others, Single st := fun st h => hsingle st (by simp [h])
  have hblank := statements_blank hb
  -- which of the two sections are written
  by_cases hi : imports = []
  · by_cases ho : others = []
    · simp [hi, ho, indented_eq_nil_iff, hblank]
    · have hne : indented (others.map (· ++ [';'])) ≠ [] := by simp [indented_eq_nil_iff, ho]
      simp [hi, indented_eq_nil_iff, hne, statements_indented h₂, hblank]
  · have hne : indented (imports.map (· ++ [';'])) ≠ [] := by simp [indented_eq_nil_iff, hi]
    by_cases ho : others = []
    · simp [ho, indented_eq_nil_iff, hne, statements_indented h₁, hblank]
    · have hne' : indented (others.map (· ++ [';'])) ≠ [] := by simp [indented_eq_nil_iff, ho]
      have hl : Blank ['\n', '\n'] := by decide
      have happ : ['\n', '\n'].intercalate ([indented (imports.map (· ++ [';'])),
          indented (others.map (· ++ [';']))].filter (!·.isEmpty)) ++ b =
          indented (imports.map (· ++ [';'])) ++ (['\n', '\n'] ++
            (indented (others.map (· ++ [';'])) ++ b)) := by
        simp [hne, hne', List.intercalate_cons_cons]
      rw [happ, statements_indented h₁, statements_blank_append hl, statements_indented h₂, hblank,
        List.append_nil]

/-- A formatted script with blanks around it is formatted into itself. -/
theorem format_format {script : List Char} (he : EndsOutside script)
    (hp : PlainNames (importsOf (statements script))) {a b : List Char} (ha : Blank a)
    (hb : Blank b) : format (a ++ format script ++ b) = format script := by
  have hs : ∀ st ∈ statements script, Single st := fun st => single_of_mem_statements he
  have hst : statements (a ++ format script ++ b) = formatted (statements script) := by
    rw [List.append_assoc, statements_blank_append ha, statements_format he hp hb]
  rw [format_eq (a ++ format script ++ b), hst, importsOf_formatted hs hp, merged_merged,
    filter_not_isImport_formatted hs hp, ← format_eq]

/-! ### Tags in a formatted script -/

theorem avoids_indented {mark : List Char} (hm : TagMark mark) {sts : List (List Char)}
    (h : ∀ st ∈ sts, Avoids mark st) : Avoids mark (indented (sts.map (· ++ [';']))) := by
  have hnil : Avoids mark [] := hm.avoids (by simp)
  refine avoids_intercalate ?_ (by simp) hnil.ne_nil fun line hl => ?_
  · simpa using hm.not_mem (by decide)
  · simp only [List.mem_map] at hl
    obtain ⟨_, ⟨st, hst, rfl⟩, rfl⟩ := hl
    have hline : Avoids mark (st ++ ';' :: []) := hm.append_cons (by decide) (h st hst) hnil
    exact hm.append_cons (by decide) hnil hline

theorem avoids_statement_named {mark : List Char} (hm : TagMark mark) {names : List (List Char)}
    {source : List Char} (hn : ∀ n ∈ names, Avoids mark n) (hs : Avoids mark source) :
    Avoids mark (Import.named names source).statement := by
  have hnil : Avoids mark [] := hm.avoids (by simp)
  have hnames : Avoids mark ([',', ' '].intercalate names) := by
    refine avoids_intercalate ?_ (by simp) hnil.ne_nil hn
    have hcomma : ',' ∉ mark := hm.not_mem (by decide)
    have hspace : ' ' ∉ mark := hm.not_mem (by decide)
    simpa using ⟨hcomma, hspace⟩
  have happ : (Import.named names source).statement = "import \x7b".toList ++ ' ' ::
      ([',', ' '].intercalate names ++ ' ' :: ("\x7d from ".toList ++ '"' ::
        (source ++ '"' :: []))) := by simp
  rw [happ]
  have hquoted : Avoids mark (source ++ '"' :: []) := hm.append_cons (by decide) hs hnil
  refine hm.append_cons (by decide) (hm.avoids (by decide)) ?_
  refine hm.append_cons (by decide) hnames ?_
  exact hm.append_cons (by decide) (hm.avoids (by decide)) hquoted

/-- Formatting a script brings no tag about. -/
theorem avoids_format {mark script : List Char} (hm : TagMark mark) (h : Avoids mark script) :
    Avoids mark (format script) := by
  have hspace : ' ' ∉ mark := hm.not_mem (by decide)
  have hst : ∀ st ∈ statements script, Avoids mark (singleSpaced st) := fun st hst =>
    (h.of_isInfix (infix_of_mem_statements hst)).singleSpaced hspace
  have himp : ∀ i ∈ merged (importsOf (statements script)), Avoids mark i.statement := by
    intro i hi
    cases i with
    | named names source =>
        obtain ⟨rfl, hne⟩ := named_mem_merged.mp hi
        have key : ∀ n ∈ firstSeen (namesOf source (importsOf (statements script))),
            Avoids mark n ∧ Avoids mark source := by
          intro n hn
          obtain ⟨names, hj, hn⟩ := mem_namesOf.mp (mem_firstSeen.mp hn)
          obtain ⟨st, hmem, hread⟩ := List.mem_map.mp hj
          have h := hst st (List.mem_of_mem_filter hmem)
          obtain ⟨hi, hi'⟩ := infix_of_named hread
          exact ⟨h.of_isInfix (hi n hn), h.of_isInfix hi'⟩
        obtain ⟨n, hn⟩ := List.exists_mem_of_ne_nil _ hne
        exact avoids_statement_named hm (fun n hn => (key n hn).1) (key n hn).2
    | other s source =>
        obtain ⟨st, hmem, hread⟩ := List.mem_map.mp (other_mem_merged.mp hi)
        rw [statement_other, ofStatement_eq_other hread]
        exact hst st (List.mem_of_mem_filter hmem)
  have hoth : ∀ st ∈ (statements script).filter (!isImport ·), Avoids mark st := fun st hst =>
    h.of_isInfix (infix_of_mem_statements (List.mem_of_mem_filter hst))
  rw [format_eq]
  refine avoids_intercalate ?_ (by simp) h.ne_nil fun l hl => ?_
  · simpa using hm.not_mem (by decide)
  · rcases List.mem_pair.mp (List.mem_of_mem_filter hl) with rfl | rfl
    · refine avoids_indented hm fun st hst => ?_
      obtain ⟨i, hi, rfl⟩ := List.mem_map.mp hst
      exact himp i hi
    · exact avoids_indented hm hoth

end Handoff.Script
