import Handoff.Proofs.Component.Tags
import Mathlib.Data.List.Nodup

/-!
# Components are closed

Scripts and markup are written apart from each other.  What the tags of a visit use, its statements
provide, and what they declare is used (`Route.provides`); so the same holds of a whole component
(`closed_generate`).

Variables are named after the ids of nodes.  The digest of an id is read off the name of a variable
(`digestOf_stateName`), so nodes with different digests declare different variables.
-/

namespace Handoff
open Markup (Attribute Tag)
open Script (Expr Statement)

/-! ### What statements provide -/

/-- The text of an expression that is a constant, or that statements give a meaning to. -/
inductive Bound (s : Setting) (statements : List Statement) : String → Prop where
  | boolean (b : Bool) : Bound s statements (if b then "true" else "false")
  | null : Bound s statements "null"
  | number (x : Float) : Bound s statements (Style.number x)
  /-- An icon that is imported from the module of icons. -/
  | icon {names : List String} {name : String}
      (h : .imports names s.options.iconModule ∈ statements) (hn : "Icon" ++ name ∈ names) :
      Bound s statements ("Icon" ++ name)
  /-- A variable that is declared. -/
  | declared {name : String} {value : Script.Literal} (h : .declare name value ∈ statements) :
      Bound s statements name

theorem Bound.mono {s : Setting} {statements more : List Statement} (hsub : statements ⊆ more)
    {e : String} (h : Bound s statements e) : Bound s more e := by
  cases h with
  | boolean b => exact .boolean b
  | null => exact .null
  | number x => exact .number x
  | icon h hn => exact .icon (hsub h) hn
  | declared h => exact .declared (hsub h)

/-- A name that is imported from the library. -/
def Imported (s : Setting) (statements : List Statement) (name : String) : Prop :=
  ∃ names, .imports names s.options.library ∈ statements ∧ name ∈ names

/-- Elements of the library are told from others by their first letter. -/
def IsCapitalised (name : List Char) : Prop := name.head?.any Char.isUpper

instance : DecidablePred IsCapitalised := fun _ => inferInstanceAs (Decidable (_ = true))

/-- Statements that provide what tags use, and nothing but that. -/
structure Provides (s : Setting) (statements : List Statement) (tags : List Tag) : Prop where
  bound : ∀ t ∈ tags, ∀ e ∈ t.exprs, Bound s statements e.render
  imported : ∀ t ∈ tags, IsCapitalised t.name.toList → Imported s statements t.name
  used : ∀ name value, .declare name value ∈ statements → ∃ t ∈ tags, .name name ∈ t.exprs

namespace Provides

theorem nil (s : Setting) : Provides s [] [] :=
  ⟨by simp, by simp, by simp⟩

theorem flatMap {α : Type} {s : Setting} {f : α → List Statement} {g : α → List Tag} {as : List α}
    (h : ∀ a ∈ as, Provides s (f a) (g a)) : Provides s (as.flatMap f) (as.flatMap g) where
  bound t ht e he := by
    obtain ⟨a, ha, ht⟩ := List.mem_flatMap.mp ht
    exact ((h a ha).bound t ht e he).mono fun _ hm => List.mem_flatMap.mpr ⟨a, ha, hm⟩
  imported t ht hcap := by
    obtain ⟨a, ha, ht⟩ := List.mem_flatMap.mp ht
    obtain ⟨names, hnames, hname⟩ := (h a ha).imported t ht hcap
    exact ⟨names, List.mem_flatMap.mpr ⟨a, ha, hnames⟩, hname⟩
  used name value hd := by
    obtain ⟨a, ha, hd⟩ := List.mem_flatMap.mp hd
    obtain ⟨t, ht, hname⟩ := (h a ha).used name value hd
    exact ⟨t, List.mem_flatMap.mpr ⟨a, ha, ht⟩, hname⟩

/-- An element with a class needs nothing. -/
theorem classTag {s : Setting} {name : String} (h : ¬ IsCapitalised name.toList) (cls : String) :
    Provides s [] [classTag name cls] where
  bound t ht e he := by
    rw [List.mem_singleton.mp ht] at he
    cases he
  imported t ht hcap := by
    rw [List.mem_singleton.mp ht] at hcap
    exact absurd hcap h
  used name value hd := by cases hd

end Provides

/-! ### Widgets -/

namespace WidgetInstance

theorem bound_numberExpr (s : Setting) (statements : List Statement) (text : String) :
    Bound s statements (numberExpr text).render := by
  rw [numberExpr]
  split
  · split
    · exact .number _
    · exact .null
  · exact .null

/-- The expressions of a widget are constants and the variables that it declares. -/
theorem bound_tag (s : Setting) (i : WidgetInstance) (w : Widget) :
    ∀ e ∈ (i.tag w).exprs, Bound s (i.declarations w) e.render := by
  have hflag : ∀ {statements : List Statement} (name : String),
      Bound s statements (Expr.boolean (i.properties.flag name)).render := fun _ => .boolean _
  cases w <;>
    simp only [tag, Tag.exprs, attributes, inputFlags, flagAttribute, textAttribute, dateAttribute,
      List.filterMap_append, List.filterMap_cons, List.filterMap_nil, Attribute.expr?_expr,
      Attribute.expr?_text, Attribute.filterMap_expr?_flagIf, List.forall_mem_append,
      List.forall_mem_cons, List.not_mem_nil, false_imp_iff, implies_true, hflag, bound_numberExpr,
      and_true, true_and]
  case checkbox => exact .declared List.mem_cons_self
  case switch => exact .declared List.mem_cons_self
  case select =>
    refine ⟨?_, .declared List.mem_cons_self,
      .declared (List.mem_cons_of_mem _ List.mem_cons_self)⟩
    split
    · exact .null
    · exact .number 1

theorem exprs_innerTags (i : WidgetInstance) (w : Widget) :
    ∀ t ∈ i.innerTags w, t.exprs = [] := by
  intro t ht
  cases w with
  | tabs =>
      obtain ⟨ps, -, rfl⟩ := List.mem_map.mp ht
      rw [Tag.exprs, tabTag, List.filterMap_cons_none (Attribute.expr?_text _ _),
        Attribute.filterMap_expr?_flagIf]
  | button | checkbox | radio | switch | textInput | numberInput | dateInput | timeInput
  | dateTimeInput | select | formLabel | formHelpMessage | textarea | avatar | spinner | chip =>
      cases ht

/-- A widget imports the names of its own tag and of those inside of it. -/
theorem name_mem_imports (i : WidgetInstance) (w : Widget) :
    w.exportName ∈ imports w ∧ ∀ t ∈ i.innerTags w, t.name ∈ imports w := by
  cases w with
  | tabs =>
      refine ⟨by decide, fun t ht => ?_⟩
      obtain ⟨ps, -, rfl⟩ := List.mem_map.mp ht
      exact (by decide : "TabItem" ∈ imports .tabs)
  | button | checkbox | radio | switch | textInput | numberInput | dateInput | timeInput
  | dateTimeInput | select | formLabel | formHelpMessage | textarea | avatar | spinner | chip =>
      exact ⟨by decide, fun t ht => by cases ht⟩

/-- What a widget declares it is given. -/
theorem used_declarations (i : WidgetInstance) (w : Widget) :
    ∀ name value, .declare name value ∈ i.declarations w → .name name ∈ (i.tag w).exprs := by
  intro name value h
  cases w with
  | checkbox | switch =>
      simp only [declarations, checkedVariable, List.mem_singleton, Statement.declare.injEq] at h
      obtain ⟨rfl, -⟩ := h
      exact List.mem_cons_self
  | select =>
      simp only [declarations, List.mem_cons, List.not_mem_nil, or_false,
        Statement.declare.injEq] at h
      rcases h with ⟨rfl, -⟩ | ⟨rfl, -⟩
      · simp [tag, Tag.exprs, attributes]
      · simp [tag, Tag.exprs, attributes]
  | button | radio | textInput | numberInput | dateInput | timeInput | dateTimeInput | formLabel
  | formHelpMessage | textarea | tabs | avatar | spinner | chip => cases h

theorem provides (s : Setting) (i : WidgetInstance) : Provides s (i.piece s).statements i.tags := by
  rw [piece, tags]
  cases Widget.names.lookup i.layer.name with
  | none => exact .nil s
  | some w =>
      obtain ⟨hself, hinner⟩ := i.name_mem_imports w
      refine ⟨fun t ht e he => ?_, fun t ht _ => ?_, fun name value hd => ?_⟩
      · rcases List.mem_cons.mp ht with rfl | ht
        · exact (i.bound_tag s w e he).mono (List.subset_cons_self _ _)
        · rw [i.exprs_innerTags w t ht] at he
          cases he
      · refine ⟨_, List.mem_cons_self, ?_⟩
        rcases List.mem_cons.mp ht with rfl | ht
        · exact hself
        · exact hinner t ht
      · rcases List.mem_cons.mp hd with hd | hd
        · cases hd
        · exact ⟨_, List.mem_cons_self, i.used_declarations w name value hd⟩

end WidgetInstance

/-! ### Other nodes -/

theorem Container.exprs_tag (c : Container) :
    c.tag.exprs = if c.isRadioGroup then [.name c.choice] else [] := by
  rw [tag]
  split
  · simp only [Tag.exprs, List.filterMap_cons, List.filterMap_append, List.filterMap_nil,
      Attribute.expr?_text, Attribute.expr?_expr, Attribute.filterMap_expr?_flagIf, List.nil_append,
      List.cons_append]
  · rfl

theorem Container.provides (s : Setting) (c : Container) :
    Provides s (c.piece s false).statements [c.tag] := by
  have hexprs := c.exprs_tag
  have hname := c.tag_name
  rw [piece]
  by_cases hr : c.isRadioGroup
  · rw [if_pos hr] at hexprs hname
    simp only [if_pos hr]
    refine ⟨fun t ht e he => ?_, fun t ht _ => ?_, fun name value hd => ?_⟩
    · rw [List.mem_singleton.mp ht, hexprs, List.mem_singleton] at he
      rw [he]
      exact .declared (List.mem_cons_of_mem _ List.mem_cons_self)
    · rw [List.mem_singleton.mp ht, hname]
      exact ⟨_, List.mem_cons_self, List.mem_cons_self⟩
    · simp only [Setting.importWidgets, List.mem_cons, List.not_mem_nil, or_false, reduceCtorEq,
        false_or, Statement.declare.injEq] at hd
      refine ⟨c.tag, List.mem_cons_self, ?_⟩
      rw [hexprs, hd.1]
      exact List.mem_cons_self
  · simp only [tag, if_neg hr]
    exact .classTag (by decide) c.layer.cls

theorem provides_icon (s : Setting) (l : Layer) (glyphs : List Node) :
    Provides s (iconPiece s l glyphs).statements [iconTag s l glyphs] := by
  refine ⟨fun t ht e he => ?_, fun t ht _ => ?_, fun name value hd => ?_⟩
  · rw [List.mem_singleton.mp ht] at he
    simp only [iconTag, Tag.exprs, List.filterMap_cons, List.filterMap_nil, Attribute.expr?_expr,
      Attribute.expr?_verbatim, List.mem_cons, List.not_mem_nil, or_false] at he
    rcases he with rfl | rfl
    · exact .icon (List.mem_cons_of_mem _ List.mem_cons_self) List.mem_cons_self
    · exact .number _
  · rw [List.mem_singleton.mp ht]
    exact ⟨_, List.mem_cons_self, List.mem_cons_self⟩
  · simp [iconPiece, Setting.importWidgets] at hd

/-- The statements of a node provide what its tags use. -/
theorem Route.provides (s : Setting) (r : Route) :
    Provides s (r.piece s false).statements (r.tags s) := by
  cases r with
  | icon l glyphs => exact provides_icon s l glyphs
  | widget i => exact i.provides s
  | autolayout c => exact c.provides s
  | frame | group | rectangle | ellipse | line => exact .classTag (by decide) _
  | text => exact .classTag (by decide) _
  | skip => exact .nil s

theorem Visit.provides (s : Setting) (v : Visit) : Provides s (v.statements s) (v.tags s) := by
  rw [statements, tags]
  split
  · exact (v.route s).provides s
  · exact .nil s

/-! ### The names of variables -/

/-- The digits behind the first underscore of a name. -/
def digestOf (name : List Char) : List Char :=
  ((name.dropWhile (· ≠ '_')).drop 1).takeWhile Text.hexAlphabet.contains

/-- The digest of an id is read off the names of variables. -/
theorem digestOf_stateName {kind role : String} (hk : '_' ∉ kind.toList)
    (hr : role.toList.head?.all fun c => !Text.hexAlphabet.contains c) (id : String) :
    digestOf (stateName kind id ++ role).toList = (shortDigest id).toList := by
  have happ : (stateName kind id ++ role).toList =
      kind.toList ++ '_' :: ((shortDigest id).toList ++ role.toList) := by simp [stateName]
  have hkind : ∀ c ∈ kind.toList, decide (c ≠ '_') := by
    intro c hc
    rw [decide_eq_true_iff]
    rintro rfl
    exact hk hc
  have hspan : ((shortDigest id).toList ++ role.toList).span Text.hexAlphabet.contains =
      ((shortDigest id).toList, role.toList) := by
    refine Text.span_eq_iff.mpr ⟨rfl, fun c hc => ?_, fun c hc => ?_⟩
    · exact List.contains_iff_mem.mpr (mem_hexAlphabet_of_mem_shortDigest c hc)
    · simpa using (Option.all_eq_true _ _).mp hr c hc
  rw [List.span_eq_takeWhile_dropWhile] at hspan
  rw [digestOf, happ, List.dropWhile_append_of_pos hkind, List.dropWhile_cons_of_neg (by simp),
    List.drop_one, List.tail_cons]
  exact (Prod.mk.inj hspan).1

/-- The variable that a statement declares. -/
def Script.Statement.declared? : Statement → Option String
  | declare name _ => some name
  | imports _ _ => none

/-- Different names with the digest of one id. -/
def NamedAfter (id : String) (names : List String) : Prop :=
  names.Nodup ∧ ∀ name ∈ names, digestOf name.toList = (shortDigest id).toList

theorem namedAfter_nil (id : String) : NamedAfter id [] := ⟨List.nodup_nil, by simp⟩

theorem namedAfter_singleton {kind role : String} (hk : '_' ∉ kind.toList)
    (hr : role.toList.head?.all fun c => !Text.hexAlphabet.contains c) (id : String) :
    NamedAfter id [stateName kind id ++ role] := by
  refine ⟨List.nodup_singleton _, fun name hname => ?_⟩
  rw [List.mem_singleton.mp hname]
  exact digestOf_stateName hk hr id

theorem WidgetInstance.namedAfter_declarations (i : WidgetInstance) (w : Widget) :
    NamedAfter i.layer.id ((i.declarations w).filterMap Statement.declared?) := by
  cases w with
  | checkbox | switch => exact namedAfter_singleton (by decide) (by decide) i.layer.id
  | select =>
      have hnames : (i.declarations .select).filterMap Statement.declared? =
          [i.stateVariable "select" "Options", i.stateVariable "select" "Selected"] := rfl
      have hne : i.stateVariable "select" "Options" ≠ i.stateVariable "select" "Selected" := by
        intro h
        have hlists := congrArg String.toList h
        simp [stateVariable] at hlists
      rw [hnames]
      refine ⟨List.nodup_cons.mpr ⟨by simpa using hne, List.nodup_singleton _⟩, ?_⟩
      intro name hname
      simp only [List.mem_cons, List.not_mem_nil, or_false] at hname
      rcases hname with rfl | rfl
      · exact digestOf_stateName (by decide) (by decide) _
      · exact digestOf_stateName (by decide) (by decide) _
  | button | radio | textInput | numberInput | dateInput | timeInput | dateTimeInput | formLabel
  | formHelpMessage | textarea | tabs | avatar | spinner | chip => exact namedAfter_nil _

/-- The variables that a visit declares. -/
def Visit.declared (s : Setting) (v : Visit) : List String :=
  (v.statements s).filterMap Statement.declared?

/-- The layer of a widget is that of the node. -/
theorem Route.layer?_of_ofNode_widget {c : ComponentCatalog} {n : Node} {i : WidgetInstance}
    (h : ofNode c n = widget i) : n.layer? = some i.layer := by
  cases n with
  | inst l b ps cs es =>
      simp only [ofNode] at h
      split at h
      · cases h
      · split at h
        · obtain rfl := Route.widget.inj h
          rfl
        · split at h <;> cases h
  | frame role l b cs =>
      cases role <;> simp only [ofNode] at h
      · split at h <;> cases h
      · split at h <;> cases h
      · cases h
  | shape form l o => cases form <;> cases h
  | group | text => cases h
  | unsupported => cases h

/-- Variables are named after the node that they belong to. -/
theorem Visit.namedAfter_declared (s : Setting) (v : Visit) :
    v.declared s = [] ∨ ∃ l, v.node.layer? = some l ∧ NamedAfter l.id (v.declared s) := by
  by_cases hv : v.node.isVisible
  · rw [declared, statements, if_pos hv]
    cases hr : v.route s with
    | widget i =>
        refine .inr ⟨i.layer, Route.layer?_of_ofNode_widget hr, ?_⟩
        rw [Route.piece, WidgetInstance.piece]
        cases Widget.names.lookup i.layer.name with
        | none => exact namedAfter_nil _
        | some w => exact i.namedAfter_declarations w
    | autolayout c =>
        have hstyled : (Route.ofNode s.catalogs.components v.node).styled? = some c.layer := by
          rw [show Route.ofNode s.catalogs.components v.node = .autolayout c from hr]
          rfl
        refine .inr ⟨c.layer, Route.layer?_of_styled? hstyled, ?_⟩
        rw [Route.piece, Container.piece]
        by_cases hradio : c.isRadioGroup
        · simp only [if_pos hradio]
          exact namedAfter_singleton (by decide) (by decide) c.layer.id
        · simp only [if_neg hradio]
          exact namedAfter_nil _
    | icon | frame | group | text | rectangle | ellipse | line | skip => exact .inl rfl
  · rw [declared, statements, if_neg hv]
    exact .inl rfl

/-! ### The ids of a scene -/

/-- The id of a node. -/
def Node.id? (n : Node) : Option String := n.layer?.map (·.id)

mutual

/-- The ids of a node and of all nodes in it. -/
def Node.ids : Node → List String
  | .frame r l b cs => (Node.frame r l b cs).id?.toList ++ idsAll cs
  | .inst l b ps cs es => (Node.inst l b ps cs es).id?.toList ++ idsAll cs
  | .group l cs => (Node.group l cs).id?.toList ++ idsAll cs
  | .text l t => (Node.text l t).id?.toList
  | .shape f l o => (Node.shape f l o).id?.toList
  | .unsupported => []

def idsAll : List Node → List String
  | [] => []
  | n :: ns => Node.ids n ++ idsAll ns

end

theorem Node.ids_eq (n : Node) : n.ids = n.id?.toList ++ idsAll n.children := by
  cases n with
  | frame | inst | group => rw [ids, children]
  | text | shape => rw [ids, children, idsAll, List.append_nil]
  | unsupported => rfl

/-- The ids of the nodes that are visited. -/
def Visit.ids (vs : List Visit) : List String := vs.filterMap (·.node.id?)

theorem sublist_idsAll {s : Setting} {parent : Node} {ns : List Node}
    (hns : ∀ n ∈ ns, (Visit.ids (n.visits s (some parent))).Sublist n.ids) :
    (Visit.ids (visitsAll s parent ns)).Sublist (idsAll ns) := by
  induction ns with
  | nil => exact .slnil
  | cons n ns ih =>
      obtain ⟨hn, hns⟩ := List.forall_mem_cons.mp hns
      rw [visitsAll, idsAll, Visit.ids, List.filterMap_append]
      exact hn.append (ih hns)

/-- Every node is visited at most once. -/
theorem Node.sublist_ids (s : Setting) (n : Node) :
    ∀ parent, (Visit.ids (n.visits s parent)).Sublist n.ids := by
  induction n using Node.rec_children with
  | step n ih =>
      intro parent
      have hinner := sublist_idsAll (s := s) fun c hc => ih c hc (some n)
      have hcons : ∀ vs : List Visit,
          Visit.ids (⟨parent, n⟩ :: vs) = n.id?.toList ++ Visit.ids vs := by
        intro vs
        cases hid : n.id? with
        | none => simp [Visit.ids, hid]
        | some id => simp [Visit.ids, hid]
      rw [visits_eq, ids_eq, Visit.andThen, hcons]
      refine (List.Sublist.refl _).append ?_
      split
      · exact hinner
      · exact List.nil_sublist _

/-- Nodes with different digests declare different variables. -/
theorem nodup_declared {s : Setting} {root : Node} (h : (root.ids.map shortDigest).Nodup) :
    ((root.visits s none).flatMap (Visit.declared s)).Nodup := by
  have hids : ((Visit.ids (root.visits s none)).map shortDigest).Nodup :=
    h.sublist ((root.sublist_ids s none).map shortDigest)
  rw [List.Nodup, List.pairwise_map, Visit.ids, List.pairwise_filterMap] at hids
  refine List.nodup_flatMap.mpr ⟨fun v _ => ?_, hids.imp fun {v w} hvw => ?_⟩
  · rcases v.namedAfter_declared s with hnil | ⟨l, -, hnamed, -⟩
    · rw [hnil]
      exact List.nodup_nil
    · exact hnamed
  · rintro name hv hw
    rcases v.namedAfter_declared s with hnil | ⟨l, hl, -, hnamed⟩
    · rw [hnil] at hv
      cases hv
    · rcases w.namedAfter_declared s with hnil' | ⟨l', hl', -, hnamed'⟩
      · rw [hnil'] at hw
        cases hw
      · -- the digests of both nodes are read off a name that both declare
        have hdigest : shortDigest l.id = shortDigest l'.id :=
          String.toList_inj.mp ((hnamed name hv).symm.trans (hnamed' name hw))
        exact hvw l.id (by simp [Node.id?, hl]) l'.id (by simp [Node.id?, hl']) hdigest

/-! ### Closed components -/

/-- The statements of a scene, in the order of the visits. -/
def Node.statements (s : Setting) (root : Node) : List Statement :=
  (root.visits s none).flatMap (Visit.statements s)

theorem Script.render_append (xs ys : List Statement) :
    Script.render (xs ++ ys) = Script.render xs ++ Script.render ys := by
  simp only [Script.render, List.map_append, String.join_append]

theorem Visit.scripts_eq (s : Setting) (vs : List Visit) :
    Visit.scripts s vs = Script.render (vs.flatMap (Visit.statements s)) := by
  induction vs with
  | nil => rfl
  | cons v vs ih => rw [scripts_cons, List.flatMap_cons, Script.render_append, ih, script]

theorem script_generate {s : Setting} {root : Node} {f : Fragment} (h : root.generate s = .ok f) :
    f.script = Script.render (root.statements s) := by
  obtain ⟨hscript, -⟩ := Visit.contributes s root none f (Node.generate_eq_ok h)
  exact hscript.trans (Visit.scripts_eq s _)

/-- A generated component is closed: every expression of the markup is a constant, an icon that the
script imports or a variable that it declares; every element of the library is imported from it;
every variable that is declared is used; and none is declared twice, unless two nodes share a
digest. -/
theorem closed_generate {s : Setting} (hs : s.Plain) {root : Node} {f : Fragment}
    (h : root.generate s = .ok f) :
    f.script = String.join ((root.statements s).map fun
        | .imports names source =>
          "import \x7b " ++ ", ".intercalate names ++ " \x7d from \"" ++ source ++ "\";\n"
        | .declare name value => "let " ++ name ++ " = " ++ value.render ++ ";\n") ∧
      (∀ e ∈ Markup.expressions f.markup.toList,
        Bound s (root.statements s) (String.ofList e)) ∧
      (∀ k ∈ Markup.tokens f.markup.toList, IsCapitalised k.name →
        Imported s (root.statements s) (String.ofList k.name)) ∧
      (∀ name value, .declare name value ∈ root.statements s →
        name.toList ∈ Markup.expressions f.markup.toList) ∧
      ((root.ids.map shortDigest).Nodup →
        ((root.statements s).filterMap Statement.declared?).Nodup) := by
  have hwritten := written_generate hs h
  have hprovides : Provides s (root.statements s) ((root.visits s none).flatMap (Visit.tags s)) :=
    .flatMap fun v _ => v.provides s
  have hexpressions := hwritten.expressions_eq
  refine ⟨?_, fun e he => ?_, fun k hk hcap => ?_, fun name value hd => ?_, fun hnodup => ?_⟩
  · rw [script_generate h, Script.render]
    refine congrArg String.join (List.map_congr_left fun st _ => ?_)
    cases st with
    | imports names source => exact Statement.render_imports names source
    | declare name value => exact Statement.render_declare name value
  · rw [hexpressions, Markup.exprTexts] at he
    obtain ⟨expr, hexpr, rfl⟩ := List.mem_map.mp he
    obtain ⟨t, ht, hexpr⟩ := List.mem_flatMap.mp hexpr
    rw [String.ofList_toList]
    exact hprovides.bound t ht expr hexpr
  · obtain ⟨t, ht, hname⟩ := hwritten.exists_tag k hk
    rw [hname] at hcap ⊢
    rw [String.ofList_toList]
    exact hprovides.imported t ht hcap
  · obtain ⟨t, ht, hname⟩ := hprovides.used name value hd
    rw [hexpressions]
    exact List.mem_map.mpr ⟨_, List.mem_flatMap.mpr ⟨t, ht, hname⟩, rfl⟩
  · rw [Node.statements, List.filterMap_flatMap]
    exact nodup_declared hnodup

theorem plain_builtinSetting : builtinSetting.Plain where
  icons := by
    have hall : builtinSetting.catalogs.components.icons.all fun name =>
        name.toList.all fun c => c.isAlphanum || c == '_' := by decide +kernel
    simpa using hall
  tokens := by decide +kernel
  iconColor := by decide +kernel

/-- In the sample the markup uses the variable of the radio group, which is declared once, an icon
that is imported, and two constants. -/
theorem closed_generate_nestedScene :
    ∃ f, builtinSetting.Plain ∧ nestedScene.generate builtinSetting = .ok f ∧
      f.script = "import \x7b RadioGroup \x7d from \"deskblocks\";\n" ++
        "let radio_85f2ef987bValue = '';\n" ++
        "import \x7b Radio \x7d from \"deskblocks\";\n" ++
        "import \x7b Icon \x7d from \"deskblocks\";\n" ++
        "import \x7b IconStar \x7d from \"deskblocks/icons\";\n" ∧
      (Markup.expressions f.markup.toList).map String.ofList =
        ["radio_85f2ef987bValue", "false", "IconStar", "40"] ∧
      (∀ e ∈ ["radio_85f2ef987bValue", "false", "IconStar", "40"],
        Bound builtinSetting (nestedScene.statements builtinSetting) e) ∧
      (nestedScene.ids.map shortDigest).Nodup ∧
      ((nestedScene.statements builtinSetting).filterMap Statement.declared?).Nodup := by
  obtain ⟨f, h⟩ := exists_generate_nestedScene
  obtain ⟨hscript, hbound, -, -, hnodup⟩ := closed_generate plain_builtinSetting h
  have hdigests : (nestedScene.ids.map shortDigest).Nodup := by decide +kernel
  have hused : (Markup.expressions f.markup.toList).map String.ofList =
      ["radio_85f2ef987bValue", "false", "IconStar", "40"] := by
    rw [(written_generate plain_builtinSetting h).expressions_eq]
    decide +kernel
  refine ⟨f, plain_builtinSetting, h, hscript.trans (by decide +kernel), hused, fun e he => ?_,
    hdigests, hnodup hdigests⟩
  rw [← hused] at he
  obtain ⟨w, hw, rfl⟩ := List.mem_map.mp he
  exact hbound w hw

end Handoff
