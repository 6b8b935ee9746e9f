import Handoff.Proofs.Component.Visits

/-!
# Which scenes are refused

Geometry is checked on the way through the scene, before a node contributes anything and before it is
asked whether it is visible.  `Node.fault?` is what the check of one node says; assembling a node fails
with what the first of its visits says (`Node.assemble_eq_error_iff`).  So generating fails exactly
where the base font size is of no use or a node that is reached is misplaced
(`generate_eq_error_iff`).
-/

namespace Handoff

/-! ### Faults of one layer -/

namespace Layer

/-- Geometry that no box can have. -/
def Misplaced (l : Layer) : Prop :=
  (∃ x ∈ [l.x, l.y, l.width, l.height, l.rotation, l.opacity], x.isFinite = false) ∨
    l.width < 0 ∨ l.height < 0

/-- What can be said about misplaced layers: of several numbers that are not finite the first is
named, and sizes are looked at only if there is none. -/
inductive HasFault (l : Layer) : GeometryFault → Prop where
  | notFinite {before after : List (String × Float)} {name : String} {x : Float}
      (hl : l.geometry = before ++ (name, x) :: after) (hbefore : ∀ f ∈ before, f.2.isFinite)
      (hx : x.isFinite = false) : HasFault l (.notFinite name)
  | negativeSize (hl : ∀ f ∈ l.geometry, f.2.isFinite) (hsize : l.width < 0 ∨ l.height < 0) :
      HasFault l (.negativeSize l.width l.height)

/-- The first number that is not finite. -/
theorem find?_geometry_eq_some_iff {l : Layer} {f : String × Float} :
    l.geometry.find? (fun f => !f.2.isFinite) = some f ↔ f.2.isFinite = false ∧
      ∃ before after, l.geometry = before ++ f :: after ∧ ∀ g ∈ before, g.2.isFinite := by
  rw [List.find?_eq_some_iff_append]
  simp only [Bool.not_eq_true', Bool.not_not]

theorem geometryFault?_eq_some_iff {l : Layer} {fault : GeometryFault} :
    l.geometryFault? = some fault ↔ l.HasFault fault := by
  rw [geometryFault?]
  cases hfind : l.geometry.find? fun f => !f.2.isFinite with
  | some f =>
      obtain ⟨name, x⟩ := f
      obtain ⟨hx, before, after, hl, hbefore⟩ := find?_geometry_eq_some_iff.mp hfind
      simp only
      constructor
      · intro h
        obtain rfl := Option.some.inj h
        exact .notFinite hl hbefore hx
      · intro h
        cases h with
        | @notFinite before' after' name' x' hl' hbefore' hx' =>
            have hfind' : l.geometry.find? (fun f => !f.2.isFinite) = some (name', x') :=
              find?_geometry_eq_some_iff.mpr ⟨hx', before', after', hl', hbefore'⟩
            obtain ⟨rfl, -⟩ := Prod.mk.inj (Option.some.inj (hfind.symm.trans hfind'))
            rfl
        | negativeSize hl' _ =>
            have hx' : x.isFinite := hl' (name, x) (List.mem_of_find?_eq_some hfind)
            rw [hx'] at hx
            cases hx
  | none =>
      have hfinite : ∀ f ∈ l.geometry, f.2.isFinite := by simpa using List.find?_eq_none.mp hfind
      simp only
      constructor
      · intro h
        simp only [Option.ite_none_right_eq_some, Bool.or_eq_true, decide_eq_true_eq] at h
        obtain ⟨hsize, h⟩ := h
        obtain rfl := Option.some.inj h
        exact .negativeSize hfinite hsize
      · intro h
        cases h with
        | @notFinite before after name x hl _ hx =>
            have hm : (name, x) ∈ l.geometry := by simp [hl]
            have hx' : x.isFinite := hfinite (name, x) hm
            rw [hx'] at hx
            cases hx
        | negativeSize _ hsize => simp [hsize]

theorem exists_hasFault_iff {l : Layer} : (∃ fault, l.HasFault fault) ↔ l.Misplaced := by
  have hgeometry :
      l.geometry.map (·.2) = [l.x, l.y, l.width, l.height, l.rotation, l.opacity] := rfl
  constructor
  · rintro ⟨_, hl, -, hx⟩
    · refine .inl ⟨_, ?_, hx⟩
      rw [← hgeometry, hl]
      simp
    · next hsize => exact .inr hsize
  · intro h
    -- a number that is not finite comes first
    by_cases hfinite : ∀ f ∈ l.geometry, f.2.isFinite
    · rcases h with ⟨x, hm, hx⟩ | hsize
      · rw [← hgeometry, List.mem_map] at hm
        obtain ⟨f, hf, rfl⟩ := hm
        rw [hfinite f hf] at hx
        cases hx
      · exact ⟨_, .negativeSize hfinite hsize⟩
    · have hfind : l.geometry.find? (fun f => !f.2.isFinite) ≠ none := by simpa using hfinite
      obtain ⟨f, hf⟩ := Option.ne_none_iff_exists'.mp hfind
      exact ⟨.notFinite f.1, geometryFault?_eq_some_iff.mp (by rw [geometryFault?, hf])⟩

end Layer

/-! ### Faults of one node -/

namespace Node

/-- A node whose layer is misplaced. -/
def Misplaced (n : Node) : Prop := ∃ l, n.layer? = some l ∧ l.Misplaced

/-- What is said about a misplaced node. -/
def HasFault (n : Node) (e : GenerationError) : Prop :=
  ∃ l fault, n.layer? = some l ∧ l.HasFault fault ∧ e = .invalidGeometry l.id l.name fault

/-- What the check of a node says. -/
def fault? (n : Node) : Option GenerationError :=
  n.layer?.bind fun l => l.geometryFault?.map (.invalidGeometry l.id l.name)

theorem fault?_eq_some_iff {n : Node} {e : GenerationError} :
    n.fault? = some e ↔ n.HasFault e := by
  simp only [fault?, HasFault, Option.bind_eq_some_iff, Option.map_eq_some_iff,
    Layer.geometryFault?_eq_some_iff]
  constructor
  · rintro ⟨l, hl, fault, hf, rfl⟩
    exact ⟨l, fault, hl, hf, rfl⟩
  · rintro ⟨l, fault, hl, hf, rfl⟩
    exact ⟨l, hl, fault, hf, rfl⟩

theorem fault?_eq_none_iff {n : Node} : n.fault? = none ↔ ¬ n.Misplaced := by
  rw [← not_iff_not, ← ne_eq, Option.ne_none_iff_exists']
  simp only [fault?_eq_some_iff, HasFault, Misplaced, not_not, ← Layer.exists_hasFault_iff]
  constructor
  · rintro ⟨_, l, fault, hl, hf, -⟩
    exact ⟨l, hl, fault, hf⟩
  · rintro ⟨l, hl, fault, hf⟩
    exact ⟨_, l, fault, hl, hf, rfl⟩

/-- A node fails by itself, or else with its children if they are looked at. -/
theorem complete_eq_error_iff {s : Setting} {grouped : Bool} {n : Node}
    {children : Except GenerationError Fragment} {e : GenerationError} :
    n.complete s grouped children = .error e ↔
      n.fault? = some e ∨ n.fault? = none ∧ n.isVisible ∧
        (Route.ofNode s.catalogs.components n).isContainer ∧ children = .error e := by
  rw [complete, fault?, isVisible]
  cases hl : n.layer? with
  | none =>
      rw [Route.ofNode_of_layer?_eq_none hl]
      simp [Route.isContainer]
  | some l =>
      simp only [Option.bind_some, Option.all_some, Layer.checkGeometry]
      cases l.geometryFault? with
      | some fault => simp [bind, Except.bind]
      | none =>
          by_cases hv : l.visible
          · by_cases hr : (Route.ofNode s.catalogs.components n).isContainer
            · cases children <;> simp [bind, Except.bind, pure, Except.pure, hv, hr]
            · simp [bind, Except.bind, pure, Except.pure, hv, hr]
          · simp [bind, Except.bind, pure, Except.pure, hv]

end Node

/-! ### The first fault on the way -/

/-- What the first visit to a misplaced node says. -/
def Visit.firstFault? (vs : List Visit) : Option GenerationError :=
  vs.findSome? (·.node.fault?)

theorem assembleAll_eq_error_iff {s : Setting} {parent : Node} {ns : List Node}
    (hns : ∀ n ∈ ns, ∀ origin e, n.assemble s origin = .error e ↔
      Visit.firstFault? (n.visits s (some parent)) = some e)
    (origin : Option Point) (e : GenerationError) :
    assembleAll s origin ns = .error e ↔
      Visit.firstFault? (visitsAll s parent ns) = some e := by
  induction ns with
  | nil => simp [assembleAll, visitsAll, Visit.firstFault?]
  | cons n ns ih =>
      obtain ⟨hn, hns⟩ := List.forall_mem_cons.mp hns
      have hn := hn origin
      have ih := ih hns
      rw [Visit.firstFault?] at ih
      simp only [Visit.firstFault?] at hn
      rw [assembleAll, visitsAll, Visit.firstFault?, List.findSome?_append]
      cases hg : n.assemble s origin with
      | error e' =>
          rw [(hn e').mp hg]
          simp [bind, Except.bind]
      | ok g =>
          -- nothing on the way through the first node fails
          have hnone : (n.visits s (some parent)).findSome? (·.node.fault?) = none := by
            by_contra hsome
            obtain ⟨e', he'⟩ := Option.ne_none_iff_exists'.mp hsome
            rw [(hn e').mpr he'] at hg
            cases hg
          rw [hnone, Option.none_or, ← ih]
          cases assembleAll s origin ns <;> simp [bind, Except.bind, pure, Except.pure]

/-- Assembling a node fails with what the first visit to a misplaced node says. -/
theorem Node.assemble_eq_error_iff {s : Setting} (n : Node) :
    ∀ parent origin e, n.assemble s origin = .error e ↔
      Visit.firstFault? (n.visits s parent) = some e := by
  induction n using Node.rec_children with
  | step n ih =>
      intro parent origin e
      have hinner : assembleAll s ((n.group? s).map Layer.origin) n.children = .error e ↔
          Visit.firstFault? (visitsAll s n n.children) = some e :=
        assembleAll_eq_error_iff (fun c hc => ih c hc (some n)) _ e
      rw [assemble_eq, complete_eq_error_iff, hinner, visits_eq, Visit.andThen]
      simp only [Visit.firstFault?, List.findSome?_cons, Visit.route]
      cases n.fault? with
      | some e' => simp
      | none =>
          by_cases hv : n.isVisible
          · by_cases hr : (Route.ofNode s.catalogs.components n).isContainer
            · simp [hv, hr]
            · simp [hv, hr]
          · simp [hv]

/-- A base font size that lengths can be divided by. -/
def Options.UsableBase (o : Options) : Prop := o.baseFontSize.isFinite ∧ 0 < o.baseFontSize

theorem Options.hasUsableBase_iff {o : Options} : o.hasUsableBase ↔ o.UsableBase := by
  simp [hasUsableBase, UsableBase]

theorem Visit.firstFault?_eq_some_iff {vs : List Visit} {e : GenerationError} :
    firstFault? vs = some e ↔ ∃ before v after, vs = before ++ v :: after ∧
      (∀ w ∈ before, ¬ w.node.Misplaced) ∧ v.node.HasFault e := by
  simp only [firstFault?, List.findSome?_eq_some_iff, Node.fault?_eq_some_iff,
    Node.fault?_eq_none_iff]
  constructor
  · rintro ⟨before, v, after, hvs, hv, hbefore⟩
    exact ⟨before, v, after, hvs, hbefore, hv⟩
  · rintro ⟨before, v, after, hvs, hbefore, hv⟩
    exact ⟨before, v, after, hvs, hv, hbefore⟩

theorem Visit.exists_firstFault?_iff {vs : List Visit} :
    (∃ e, firstFault? vs = some e) ↔ ∃ v ∈ vs, v.node.Misplaced := by
  rw [← Option.ne_none_iff_exists', firstFault?, ne_eq, List.findSome?_eq_none_iff]
  simp only [Node.fault?_eq_none_iff, not_forall, not_not, exists_prop]

/-- The options are checked before the scene is looked at. -/
theorem Node.generate_eq_error {s : Setting} {root : Node} {e : GenerationError} :
    root.generate s = .error e ↔
      ¬ s.options.UsableBase ∧ e = .invalidBaseFontSize s.options.baseFontSize ∨
        s.options.UsableBase ∧ Visit.firstFault? (root.visits s none) = some e := by
  rw [← assemble_eq_error_iff root none none, generate, Options.check,
    ← Options.hasUsableBase_iff]
  cases s.options.hasUsableBase with
  | true => simp [bind, Except.bind]
  | false =>
      simp only [Bool.false_eq_true, not_false_eq_true, true_and, false_and, or_false]
      constructor
      · intro h
        exact (Except.error.inj h).symm
      · rintro rfl
        rfl

/-- Generating fails exactly where the base font size is not a positive finite number, or a node that
is reached is misplaced.  A base font size of no use is what is said in any case; otherwise what is
said is about the first misplaced node in document order. -/
theorem generate_eq_error_iff (s : Setting) (root : Node) :
    ((∃ e, root.generate s = .error e) ↔
      ¬ s.options.UsableBase ∨ ∃ v, Reached s root v ∧ v.node.Misplaced) ∧
    ∀ e, root.generate s = .error e ↔
      ¬ s.options.UsableBase ∧ e = .invalidBaseFontSize s.options.baseFontSize ∨
        s.options.UsableBase ∧ ∃ before v after, root.visits s none = before ++ v :: after ∧
          (∀ w ∈ before, ¬ w.node.Misplaced) ∧ v.node.HasFault e := by
  refine ⟨?_, fun e => by rw [Node.generate_eq_error, Visit.firstFault?_eq_some_iff]⟩
  have hreached : (∃ e, Visit.firstFault? (root.visits s none) = some e) ↔
      ∃ v, Reached s root v ∧ v.node.Misplaced := by
    simp only [Visit.exists_firstFault?_iff, Node.mem_visits]
  rw [← hreached]
  simp only [Node.generate_eq_error]
  by_cases hbase : s.options.UsableBase
  · simp [hbase]
  · simp [hbase]

end Handoff
