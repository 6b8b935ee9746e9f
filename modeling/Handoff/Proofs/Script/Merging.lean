import Handoff.Proofs.Script.FirstSeen
import Handoff.Proofs.Script.Imports

/-!
# Merging imports

What the groups of imports are, without the order in which they are filled: one for each module, in
the order in which the modules are first seen, with the names and the other statements of that
module in the order in which these are first seen (`foldl_addImport`).  Read again, the merged
imports have the same names and other statements for every module (`namesOf_merged`,
`othersOf_merged`), so that merging them once more changes nothing (`merged_merged`).
-/

namespace Handoff.Script
open Text (singleSpaced)

/-! ### What imports say of a module -/

/-- The names that an import takes from a module. -/
def Import.namesOf (source : List Char) : Import → List (List Char)
  | .named names s => if s = source then names else []
  | .other _ _ => []

/-- The import itself, if it is one of a module that is kept as it is. -/
def Import.othersOf (source : List Char) : Import → List (List Char)
  | .named _ _ => []
  | .other st s => if s = source then [st] else []

/-- The names that imports take from a module. -/
def namesOf (source : List Char) (is : List Import) : List (List Char) :=
  is.flatMap (·.namesOf source)

/-- The imports of a module that are kept as they are. -/
def othersOf (source : List Char) (is : List Import) : List (List Char) :=
  is.flatMap (·.othersOf source)

theorem Import.namesOf_eq_nil {i : Import} {source : List Char} (h : i.source ≠ source) :
    i.namesOf source = [] := by
  cases i with
  | named names s => exact if_neg h
  | other st s => rfl

theorem Import.othersOf_eq_nil {i : Import} {source : List Char} (h : i.source ≠ source) :
    i.othersOf source = [] := by
  cases i with
  | named names s => rfl
  | other st s => exact if_neg h

theorem namesOf_eq_nil {is : List Import} {source : List Char}
    (h : ∀ i ∈ is, i.source ≠ source) : namesOf source is = [] :=
  List.flatMap_eq_nil_iff.mpr fun i hi => Import.namesOf_eq_nil (h i hi)

theorem othersOf_eq_nil {is : List Import} {source : List Char}
    (h : ∀ i ∈ is, i.source ≠ source) : othersOf source is = [] :=
  List.flatMap_eq_nil_iff.mpr fun i hi => Import.othersOf_eq_nil (h i hi)

theorem mem_namesOf {is : List Import} {source n : List Char} :
    n ∈ namesOf source is ↔ ∃ names, Import.named names source ∈ is ∧ n ∈ names := by
  rw [namesOf, List.mem_flatMap]
  constructor
  · rintro ⟨i, hi, hn⟩
    cases i with
    | named names s =>
        rw [Import.namesOf] at hn
        split at hn
        · next hs =>
            subst hs
            exact ⟨names, hi, hn⟩
        · cases hn
    | other st s => cases hn
  · rintro ⟨names, hi, hn⟩
    exact ⟨_, hi, by simpa [Import.namesOf] using hn⟩

theorem mem_othersOf {is : List Import} {source st : List Char} :
    st ∈ othersOf source is ↔ Import.other st source ∈ is := by
  rw [othersOf, List.mem_flatMap]
  constructor
  · rintro ⟨i, hi, hst⟩
    cases i with
    | named names s => cases hst
    | other st' s =>
        rw [Import.othersOf] at hst
        split at hst
        · next hs =>
            rw [List.mem_singleton.mp hst, ← hs]
            exact hi
        · cases hst
  · exact fun hi => ⟨_, hi, by simp [Import.othersOf]⟩

/-! ### The groups -/

/-- The group of a module, of all imports together. -/
def ImportGroup.of (is : List Import) (source : List Char) : ImportGroup :=
  ⟨source, firstSeen (namesOf source is), firstSeen (othersOf source is)⟩

theorem ImportGroup.of_eq_empty {is : List Import} {source : List Char}
    (h : source ∉ is.map Import.source) : ImportGroup.of is source = ⟨source, [], []⟩ := by
  have h' : ∀ i ∈ is, i.source ≠ source := fun i hi hs => h (List.mem_map.mpr ⟨i, hi, hs⟩)
  rw [ImportGroup.of, namesOf_eq_nil h', othersOf_eq_nil h']
  rfl

theorem ImportGroup.of_snoc (is : List Import) (i : Import) (source : List Char) :
    ImportGroup.of (is ++ [i]) source =
      if source = i.source then (ImportGroup.of is source).add i else ImportGroup.of is source := by
  simp only [ImportGroup.of, namesOf, othersOf, List.flatMap_append, List.flatMap_singleton,
    firstSeen_append]
  split
  · next h =>
      subst h
      cases i with
      | named names s => simp [Import.namesOf, Import.othersOf, Import.source, ImportGroup.add, addNew]
      | other st s => simp [Import.namesOf, Import.othersOf, Import.source, ImportGroup.add, addNew]
  · next h =>
      rw [Import.namesOf_eq_nil (Ne.symm h), Import.othersOf_eq_nil (Ne.symm h)]
      rfl

theorem addImport_of_not_mem {gs : List ImportGroup} {i : Import}
    (h : i.source ∉ gs.map ImportGroup.source) :
    addImport i gs = gs ++ [ImportGroup.add ⟨i.source, [], []⟩ i] := by
  induction gs with
  | nil => rfl
  | cons g gs ih =>
      simp only [List.map_cons, List.mem_cons, not_or] at h
      rw [addImport, if_neg (Ne.symm h.1), ih h.2, List.cons_append]

theorem addImport_of_mem {gs : List ImportGroup} {i : Import}
    (hnd : (gs.map ImportGroup.source).Nodup) (h : i.source ∈ gs.map ImportGroup.source) :
    addImport i gs = gs.map fun g => if g.source = i.source then g.add i else g := by
  induction gs with
  | nil => cases h
  | cons g gs ih =>
      rw [List.map_cons, List.nodup_cons] at hnd
      rw [addImport, List.map_cons]
      split
      · next hg =>
          -- no other group has this module
          have hgs : ∀ g' ∈ gs, g'.source ≠ i.source := fun g' hg' hs =>
            hnd.1 (List.mem_map.mpr ⟨g', hg', hs.trans hg.symm⟩)
          rw [List.map_congr_left fun g' hg' => if_neg (hgs g' hg'), List.map_id']
      · next hg =>
          have hm : i.source ∈ gs.map ImportGroup.source :=
            (List.mem_cons.mp h).resolve_left (Ne.symm hg)
          rw [ih hnd.2 hm]

theorem map_source_of (is : List Import) (sources : List (List Char)) :
    (sources.map (ImportGroup.of is)).map ImportGroup.source = sources := by
  rw [List.map_map]
  exact List.map_id' sources

/-- One group for each module, in the order in which the modules are first seen. -/
theorem foldl_addImport (is : List Import) :
    is.foldl (fun gs i => addImport i gs) [] =
      (firstSeen (is.map Import.source)).map (ImportGroup.of is) := by
  induction is using List.reverseRecOn with
  | nil => rfl
  | append_singleton is i ih =>
      have hsrc := map_source_of is (firstSeen (is.map Import.source))
      rw [List.foldl_append, ih, List.foldl_cons, List.foldl_nil, List.map_append,
        List.map_singleton, firstSeen_append, addNew_singleton]
      split
      · next hi =>
          rw [addImport_of_mem (by rw [hsrc]; exact nodup_firstSeen _) (by rwa [hsrc]),
            List.map_map]
          exact List.map_congr_left fun source _ => (ImportGroup.of_snoc is i source).symm
      · next hi =>
          have hnew : i.source ∉ is.map Import.source := fun h => hi (mem_firstSeen.mpr h)
          rw [addImport_of_not_mem (by rwa [hsrc]), List.map_append, List.map_singleton,
            ImportGroup.of_snoc, if_pos rfl, ImportGroup.of_eq_empty hnew]
          congr 1
          refine List.map_congr_left fun source hs => ?_
          rw [ImportGroup.of_snoc, if_neg]
          rintro rfl
          exact hi hs

/-! ### The merged imports -/

/-- The imports that a group is written as. -/
def ImportGroup.imports (g : ImportGroup) : List Import :=
  (if g.names = [] then [] else [.named g.names g.source]) ++ g.others.map (.other · g.source)

theorem ImportGroup.lines_eq (g : ImportGroup) :
    g.lines = g.imports.map (·.statement ++ [';']) := by
  rw [ImportGroup.lines, ImportGroup.imports]
  by_cases h : g.names = []
  · simp [h]
  · simp [h]

/-- The imports that imports are merged into. -/
def merged (is : List Import) : List Import :=
  (firstSeen (is.map Import.source)).flatMap fun source => (ImportGroup.of is source).imports

theorem mergeImports_eq (sts : List (List Char)) :
    mergeImports sts = (merged (sts.map Import.ofStatement)).map (·.statement ++ [';']) := by
  have h : sts.foldl (fun gs s => addImport (.ofStatement s) gs) [] =
      (sts.map Import.ofStatement).foldl (fun gs i => addImport i gs) [] := by
    rw [List.foldl_map]
  rw [mergeImports, h, foldl_addImport, List.flatMap_map, merged, List.map_flatMap]
  exact List.flatMap_congr fun source _ => ImportGroup.lines_eq _

theorem ImportGroup.source_of_mem_imports {g : ImportGroup} {i : Import} (h : i ∈ g.imports) :
    i.source = g.source := by
  rw [ImportGroup.imports, List.mem_append] at h
  rcases h with h | h
  · split at h
    · cases h
    · rw [List.mem_singleton.mp h]
      rfl
  · obtain ⟨st, -, rfl⟩ := List.mem_map.mp h
    rfl

theorem ImportGroup.named_mem_imports {g : ImportGroup} {names : List (List Char)}
    {source : List Char} :
    .named names source ∈ g.imports ↔ names = g.names ∧ source = g.source ∧ names ≠ [] := by
  have h : Import.named names source ∉ g.others.map (Import.other · g.source) := by simp
  rw [ImportGroup.imports, List.mem_append, or_iff_left h]
  by_cases hn : g.names = []
  · rw [if_pos hn, iff_false_left (List.not_mem_nil)]
    exact fun h => h.2.2 (h.1.trans hn)
  · rw [if_neg hn, List.mem_singleton, Import.named.injEq]
    exact ⟨fun h => ⟨h.1, h.2, h.1 ▸ hn⟩, fun h => ⟨h.1, h.2.1⟩⟩

theorem ImportGroup.other_mem_imports {g : ImportGroup} {st source : List Char} :
    .other st source ∈ g.imports ↔ st ∈ g.others ∧ source = g.source := by
  have h : Import.other st source ∉
      if g.names = [] then [] else [Import.named g.names g.source] := by
    by_cases hn : g.names = [] <;> simp [hn]
  rw [ImportGroup.imports, List.mem_append, or_iff_right h, List.mem_map]
  constructor
  · rintro ⟨st', hst, h⟩
    obtain ⟨rfl, rfl⟩ := Import.other.inj h
    exact ⟨hst, rfl⟩
  · rintro ⟨hst, rfl⟩
    exact ⟨st, hst, rfl⟩

theorem ImportGroup.namesOf_imports (g : ImportGroup) : namesOf g.source g.imports = g.names := by
  have h : (g.others.map (Import.other · g.source)).flatMap (·.namesOf g.source) = [] := by
    simp [Import.namesOf]
  rw [namesOf, ImportGroup.imports, List.flatMap_append, h, List.append_nil]
  split
  · next hn => exact hn.symm
  · simp [Import.namesOf]

theorem ImportGroup.othersOf_imports (g : ImportGroup) :
    othersOf g.source g.imports = g.others := by
  have h : (g.others.map (Import.other · g.source)).flatMap (·.othersOf g.source) = g.others := by
    simp [Import.othersOf, List.flatMap_map]
  rw [othersOf, ImportGroup.imports, List.flatMap_append, h]
  split <;> simp [Import.othersOf]

/-! ### Reading merged imports again -/

/-- A part of a list that only one element has anything to do with. -/
theorem flatMap_eq_of_mem {α β : Type} {xs : List α} {x : α} {f : α → List β} (h : xs.Nodup)
    (hx : x ∈ xs) (hf : ∀ y ∈ xs, y ≠ x → f y = []) : xs.flatMap f = f x := by
  obtain ⟨as, bs, rfl⟩ := List.append_of_mem hx
  have hnd := List.nodup_append.mp h
  have has : as.flatMap f = [] := List.flatMap_eq_nil_iff.mpr fun y hy =>
    hf y (by simp [hy]) fun hyx => hnd.2.2 y hy x (by simp) hyx
  have hbs : bs.flatMap f = [] := List.flatMap_eq_nil_iff.mpr fun y hy =>
    hf y (by simp [hy]) fun hyx => (List.nodup_cons.mp hnd.2.1).1 (hyx ▸ hy)
  rw [List.flatMap_append, List.flatMap_cons, has, hbs, List.nil_append, List.append_nil]

theorem mem_merged {is : List Import} {i : Import} :
    i ∈ merged is ↔ i.source ∈ is.map Import.source ∧
      i ∈ (ImportGroup.of is i.source).imports := by
  rw [merged, List.mem_flatMap]
  constructor
  · rintro ⟨source, hs, hi⟩
    obtain rfl : i.source = source := ImportGroup.source_of_mem_imports hi
    exact ⟨mem_firstSeen.mp hs, hi⟩
  · rintro ⟨hs, hi⟩
    exact ⟨i.source, mem_firstSeen.mpr hs, hi⟩

/-- The names that are taken from a module are written together. -/
theorem named_mem_merged {is : List Import} {names : List (List Char)} {source : List Char} :
    .named names source ∈ merged is ↔ names = firstSeen (namesOf source is) ∧ names ≠ [] := by
  rw [mem_merged, ImportGroup.named_mem_imports]
  constructor
  · rintro ⟨-, hn, -, hne⟩
    exact ⟨hn, hne⟩
  · rintro ⟨rfl, hne⟩
    obtain ⟨n, hn⟩ := List.exists_mem_of_ne_nil _ hne
    obtain ⟨names, hi, -⟩ := mem_namesOf.mp (mem_firstSeen.mp hn)
    exact ⟨List.mem_map.mpr ⟨_, hi, rfl⟩, rfl, rfl, hne⟩

/-- Other imports are written as they are. -/
theorem other_mem_merged {is : List Import} {st source : List Char} :
    .other st source ∈ merged is ↔ Import.other st source ∈ is := by
  rw [mem_merged, ImportGroup.other_mem_imports]
  constructor
  · rintro ⟨-, hst, -⟩
    exact mem_othersOf.mp (mem_firstSeen.mp hst)
  · intro hi
    exact ⟨List.mem_map.mpr ⟨_, hi, rfl⟩, mem_firstSeen.mpr (mem_othersOf.mpr hi), rfl⟩

/-- What merged imports say of a module stands in its group. -/
theorem flatMap_merged {β : Type} {f : Import → List β} {source : List Char} (is : List Import)
    (hf : ∀ i, i.source ≠ source → f i = []) :
    (merged is).flatMap f = (ImportGroup.of is source).imports.flatMap f := by
  by_cases h : source ∈ is.map Import.source
  · rw [merged, List.flatMap_assoc, flatMap_eq_of_mem (nodup_firstSeen _) (mem_firstSeen.mpr h)]
    exact fun s _ hs => List.flatMap_eq_nil_iff.mpr fun i hi =>
      hf i (ImportGroup.source_of_mem_imports hi ▸ hs)
  · rw [ImportGroup.of_eq_empty h]
    exact List.flatMap_eq_nil_iff.mpr fun i hi => hf i fun hs => h (hs ▸ (mem_merged.mp hi).1)

theorem namesOf_merged (source : List Char) (is : List Import) :
    namesOf source (merged is) = firstSeen (namesOf source is) :=
  (flatMap_merged is fun _ => Import.namesOf_eq_nil).trans
    (ImportGroup.namesOf_imports (ImportGroup.of is source))

theorem othersOf_merged (source : List Char) (is : List Import) :
    othersOf source (merged is) = firstSeen (othersOf source is) :=
  (flatMap_merged is fun _ => Import.othersOf_eq_nil).trans
    (ImportGroup.othersOf_imports (ImportGroup.of is source))

/-- The modules of merged imports that are written at all. -/
theorem firstSeen_source_merged (is : List Import) :
    firstSeen ((merged is).map Import.source) =
      (firstSeen (is.map Import.source)).filter fun source =>
        !(ImportGroup.of is source).imports.isEmpty := by
  rw [merged, List.map_flatMap, firstSeen_flatMap (nodup_firstSeen _)]
  · simp
  · rintro source - s hs
    obtain ⟨i, hi, rfl⟩ := List.mem_map.mp hs
    exact ImportGroup.source_of_mem_imports hi

theorem merged_merged (is : List Import) : merged (merged is) = merged is := by
  have hof : ∀ source, ImportGroup.of (merged is) source = ImportGroup.of is source := by
    intro source
    rw [ImportGroup.of, namesOf_merged, othersOf_merged, firstSeen_eq_self (nodup_firstSeen _),
      firstSeen_eq_self (nodup_firstSeen _), ImportGroup.of]
  conv_lhs => rw [merged, firstSeen_source_merged]
  simp only [hof]
  rw [merged]
  -- a group that is not written contributes nothing
  induction firstSeen (is.map Import.source) with
  | nil => rfl
  | cons source sources ih =>
      rw [List.filter_cons, List.flatMap_cons]
      split
      · rw [List.flatMap_cons, ih]
      · next h =>
          have hnil : (ImportGroup.of is source).imports = [] := by simpa using h
          rw [ih, hnil, List.nil_append]

end Handoff.Script
