import Handoff.Proofs.Script.Formatting

/-!
# What formatting keeps of a script

The statements of a formatted script against those of the script (`Preserved`): every name that is
taken from a module is still taken from it, once and in one statement; every other import is there
once, with single spaces; all other statements are there as they were, behind the imports.

The order in each case is the one in which the script has things first, said by `List.idxOf`.
-/

namespace Handoff.Script
open Text (singleSpaced)

/-- The modules of named imports, each with the names that are taken from it. -/
def specifiers (is : List Import) : List (List Char × List Char) :=
  is.flatMap fun
    | .named names source => names.map (source, ·)
    | .other _ _ => []

/-- The modules that have a statement of named imports. -/
def namedSources (is : List Import) : List (List Char) :=
  is.flatMap fun
    | .named _ source => [source]
    | .other _ _ => []

/-- The imports that are not named. -/
def kept (is : List Import) : List (List Char) :=
  is.flatMap fun
    | .named _ _ => []
    | .other st _ => [st]

theorem mem_specifiers {is : List Import} {source n : List Char} :
    (source, n) ∈ specifiers is ↔ n ∈ namesOf source is := by
  rw [mem_namesOf, specifiers, List.mem_flatMap]
  constructor
  · rintro ⟨i, hi, hn⟩
    cases i with
    | named names s =>
        obtain ⟨n', hn', h⟩ := List.mem_map.mp hn
        obtain ⟨rfl, rfl⟩ := Prod.mk.inj h
        exact ⟨names, hi, hn'⟩
    | other st s => cases hn
  · rintro ⟨names, hi, hn⟩
    exact ⟨_, hi, List.mem_map.mpr ⟨n, hn, rfl⟩⟩

theorem mem_kept {is : List Import} {st : List Char} :
    st ∈ kept is ↔ ∃ source, Import.other st source ∈ is := by
  rw [kept, List.mem_flatMap]
  constructor
  · rintro ⟨i, hi, hst⟩
    cases i with
    | named names s => cases hst
    | other st' s =>
        obtain rfl := List.mem_singleton.mp hst
        exact ⟨s, hi⟩
  · rintro ⟨source, hi⟩
    exact ⟨_, hi, List.mem_singleton_self st⟩

theorem plainNames_iff {is : List Import} :
    PlainNames is ↔ ∀ p ∈ specifiers is, Plain p.2 := by
  constructor
  · rintro h ⟨source, n⟩ hp
    obtain ⟨names, hi, hn⟩ := mem_namesOf.mp (mem_specifiers.mp hp)
    exact h names source hi n hn
  · intro h names source hi n hn
    exact h (source, n) (mem_specifiers.mpr (mem_namesOf.mpr ⟨names, hi, hn⟩))

/-! ### Merged imports, one module at a time -/

theorem specifiers_imports (g : ImportGroup) :
    specifiers g.imports = g.names.map (g.source, ·) := by
  have h : specifiers (g.others.map (Import.other · g.source)) = [] := by simp [specifiers]
  rw [specifiers, ImportGroup.imports, List.flatMap_append, ← specifiers, ← specifiers, h,
    List.append_nil]
  by_cases hn : g.names = []
  · simp [hn, specifiers]
  · simp [hn, specifiers]

theorem namedSources_imports (g : ImportGroup) :
    namedSources g.imports = if g.names = [] then [] else [g.source] := by
  have h : namedSources (g.others.map (Import.other · g.source)) = [] := by simp [namedSources]
  rw [namedSources, ImportGroup.imports, List.flatMap_append, ← namedSources, ← namedSources, h,
    List.append_nil]
  by_cases hn : g.names = []
  · simp [hn, namedSources]
  · simp [hn, namedSources]

theorem kept_imports (g : ImportGroup) : kept g.imports = g.others := by
  have h : kept (g.others.map (Import.other · g.source)) = g.others := by
    simp [kept, List.flatMap_map]
  rw [kept, ImportGroup.imports, List.flatMap_append, ← kept, ← kept, h]
  by_cases hn : g.names = []
  · simp [hn, kept]
  · simp [hn, kept]

theorem specifiers_merged (is : List Import) :
    specifiers (merged is) = (firstSeen (is.map Import.source)).flatMap fun source =>
      (firstSeen (namesOf source is)).map (source, ·) := by
  rw [specifiers, merged, List.flatMap_assoc]
  exact List.flatMap_congr fun source _ => specifiers_imports _

theorem namedSources_merged (is : List Import) :
    namedSources (merged is) = (firstSeen (is.map Import.source)).flatMap fun source =>
      if firstSeen (namesOf source is) = [] then [] else [source] := by
  rw [namedSources, merged, List.flatMap_assoc]
  exact List.flatMap_congr fun source _ => namedSources_imports _

theorem kept_merged (is : List Import) :
    kept (merged is) = (firstSeen (is.map Import.source)).flatMap fun source =>
      firstSeen (othersOf source is) := by
  rw [kept, merged, List.flatMap_assoc]
  exact List.flatMap_congr fun source _ => kept_imports _

theorem nodup_specifiers_merged (is : List Import) : (specifiers (merged is)).Nodup := by
  rw [specifiers_merged]
  refine List.nodup_flatMap.mpr ⟨fun source _ => ?_, ?_⟩
  · exact (nodup_firstSeen _).map fun _ _ h => (Prod.mk.inj h).2
  · -- pairs of different modules are different
    refine (nodup_firstSeen _).imp fun {s s'} hne p hp hp' => ?_
    obtain ⟨_, -, rfl⟩ := List.mem_map.mp hp
    obtain ⟨_, -, h⟩ := List.mem_map.mp hp'
    exact hne (Prod.mk.inj h).1.symm

theorem nodup_namedSources_merged (is : List Import) : (namedSources (merged is)).Nodup := by
  rw [namedSources_merged]
  have hmem : ∀ {x source : List Char},
      x ∈ (if firstSeen (namesOf source is) = [] then [] else [source]) → x = source := by
    intro x source hx
    split at hx
    · cases hx
    · exact List.mem_singleton.mp hx
  refine List.nodup_flatMap.mpr ⟨fun source _ => ?_, ?_⟩
  · split <;> simp
  · exact (nodup_firstSeen _).imp fun hne x hx hx' => hne ((hmem hx).symm.trans (hmem hx'))

theorem nodup_kept_merged {is : List Import}
    (h : ∀ st s s', Import.other st s ∈ is → Import.other st s' ∈ is → s = s') :
    (kept (merged is)).Nodup := by
  rw [kept_merged]
  refine List.nodup_flatMap.mpr ⟨fun source _ => nodup_firstSeen _, ?_⟩
  exact (nodup_firstSeen _).imp fun {s s'} hne st hst hst' =>
    hne (h st s s' (mem_othersOf.mp (mem_firstSeen.mp hst)) (mem_othersOf.mp (mem_firstSeen.mp hst')))

theorem pairwise_source_merged (is : List Import) :
    ((merged is).map Import.source).Pairwise fun s s' =>
      (is.map Import.source).idxOf s ≤ (is.map Import.source).idxOf s' := by
  rw [merged, List.map_flatMap, List.pairwise_flatMap]
  have hsource : ∀ {source s : List Char},
      s ∈ (ImportGroup.of is source).imports.map Import.source → s = source := by
    intro source s hs
    obtain ⟨i, hi, rfl⟩ := List.mem_map.mp hs
    exact ImportGroup.source_of_mem_imports hi
  refine ⟨fun source _ => ?_, ?_⟩
  · refine List.pairwise_of_forall_mem_list fun s hs s' hs' => ?_
    rw [hsource hs, hsource hs']
  · refine (firstSeen_pairwise _).imp fun {source source'} h s hs s' hs' => ?_
    rw [hsource hs, hsource hs']
    exact h.le

/-! ### The statements of a formatted script -/

/-- What formatting makes of the statements of a script. -/
structure Preserved (before after : List (List Char)) : Prop where
  /-- The imports come first. -/
  imports_first : after = after.filter isImport ++ after.filter (!isImport ·)
  /-- All other statements are there as they were. -/
  others : after.filter (!isImport ·) = before.filter (!isImport ·)
  /-- The same names are taken from the same modules. -/
  specifiers : ∀ p, p ∈ specifiers (importsOf after) ↔ p ∈ specifiers (importsOf before)
  /-- Each name is taken from a module once. -/
  specifiers_nodup : (Script.specifiers (importsOf after)).Nodup
  /-- No module has two statements of named imports. -/
  named_nodup : (namedSources (importsOf after)).Nodup
  /-- The names of a module are in the order in which they are taken first. -/
  names_order : ∀ source, (namesOf source (importsOf after)).Pairwise fun n n' =>
    (namesOf source (importsOf before)).idxOf n < (namesOf source (importsOf before)).idxOf n'
  /-- The same imports are kept. -/
  kept : ∀ st, st ∈ kept (importsOf after) ↔ st ∈ kept (importsOf before)
  /-- Each import is kept once. -/
  kept_nodup : (Script.kept (importsOf after)).Nodup
  /-- Imports have single spaces. -/
  singleSpaced : ∀ st ∈ after.filter isImport, singleSpaced st = st
  /-- Modules are in the order in which they are named first. -/
  sources_order : ((importsOf after).map Import.source).Pairwise fun s s' =>
    ((importsOf before).map Import.source).idxOf s ≤
      ((importsOf before).map Import.source).idxOf s'

/-- Formatting a script preserves it. -/
theorem preserved_statements_format {script : List Char} (he : EndsOutside script)
    (hp : ∀ p ∈ specifiers (importsOf (statements script)), Plain p.2) :
    Preserved (statements script) (statements (format script)) := by
  have hp := plainNames_iff.mpr hp
  have hs : ∀ st ∈ statements script, Single st := fun st => single_of_mem_statements he
  have hst : statements (format script) = formatted (statements script) := by
    have h := statements_format he hp Text.blank_nil
    rwa [List.append_nil] at h
  have himp := importsOf_formatted hs hp
  have hoth := filter_not_isImport_formatted hs hp
  rw [hst]
  generalize statements script = sts at *
  constructor
  case imports_first =>
    rw [filter_isImport_formatted hs hp, hoth, formatted]
  case others => exact hoth
  case specifiers =>
    rintro ⟨source, n⟩
    rw [himp, mem_specifiers, mem_specifiers, namesOf_merged, mem_firstSeen]
  case specifiers_nodup => exact himp ▸ nodup_specifiers_merged _
  case named_nodup => exact himp ▸ nodup_namedSources_merged _
  case names_order =>
    intro source
    rw [himp, namesOf_merged]
    exact firstSeen_pairwise _
  case kept =>
    intro st
    simp only [himp, mem_kept, other_mem_merged]
  case kept_nodup =>
    rw [himp]
    refine nodup_kept_merged fun st s s' h h' => ?_
    have h := ofStatement_of_other_mem h
    rw [ofStatement_of_other_mem h'] at h
    exact (Import.other.inj h).2.symm
  case singleSpaced =>
    intro st hst
    rw [filter_isImport_formatted hs hp] at hst
    obtain ⟨i, hi, rfl⟩ := List.mem_map.mp hst
    exact (sound_of_mem_merged hs hp hi).singleSpaced
  case sources_order => exact himp ▸ pairwise_source_merged _

/-- A script with imports of one module in both quotes, and a statement between them. -/
def mixedQuotes : List Char :=
  "import \x7bA\x7d from 'x'; let v = 'a;b'; import  \"y\"; import \x7b B , A \x7d from \"x\"".toList

theorem preserved_mixedQuotes :
    EndsOutside mixedQuotes ∧
      (∀ p ∈ specifiers (importsOf (statements mixedQuotes)), Plain p.2) ∧
      Preserved (statements mixedQuotes) (statements (format mixedQuotes)) := by
  have he : EndsOutside mixedQuotes := by decide +kernel
  have hp : ∀ p ∈ specifiers (importsOf (statements mixedQuotes)), Plain p.2 := by
    decide +kernel
  exact ⟨he, hp, preserved_statements_format he hp⟩

example : format mixedQuotes =
    "\timport \x7b A, B \x7d from \"x\";\n\timport \"y\";\n\n\tlet v = 'a;b';".toList := by
  decide +kernel

end Handoff.Script
