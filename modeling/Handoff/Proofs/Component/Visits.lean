import Handoff.Proofs.Component.Nesting
import Handoff.Proofs.Component.Rules

/-!
# What each node contributes

Scripts and styles are assembled on the way through the scene.  `Node.visits` lists the nodes that
are reached, each with the container that it is in, and `Visit.statements` and `Visit.rules` say what
such a visit contributes from these two nodes alone.  The script and the style of a scene are these
contributions in the order of the visits (`sections_generate`).

The origin of a group is bound by the assembly, which asks the route for a selector; it is taken off
by the piece of the node.  `Visit.Placed` writes both rules out, and says that they are there for the
same children.
-/

namespace Handoff
open Style (Rule)

/-! ### Visits -/

/-- A node that is reached, and the container that it is in. -/
structure Visit where
  parent : Option Node
  node : Node

namespace Visit

def route (s : Setting) (v : Visit) : Route :=
  Route.ofNode s.catalogs.components v.node

/-- The layer of the group that the node is in. -/
def group? (s : Setting) (v : Visit) : Option Layer :=
  v.parent.bind (·.group? s)

/-- The origin of the group that the node is in. -/
def origin? (s : Setting) (v : Visit) : Option Point :=
  (v.group? s).map Layer.origin

/-- Whether the container that the node is in becomes a group. -/
def InGroup (s : Setting) (v : Visit) : Prop :=
  ∃ p g, v.parent = some p ∧ Route.ofNode s.catalogs.components p = .group g

/-- The rule that binds the origin of the group that the node is in. -/
def binding (s : Setting) (v : Visit) : List Rule :=
  match v.group? s, (v.route s).selector? with
  | some g, some selector => [Style.groupOrigin selector (s.rem g.x) (s.rem g.y)]
  | _, _ => []

/-- The rules that the visit contributes. -/
def rules (s : Setting) (v : Visit) : List Rule :=
  if v.node.isVisible then v.binding s ++ ((v.route s).piece s (v.group? s).isSome).rules else []

/-- The statements that the visit contributes. -/
def statements (s : Setting) (v : Visit) : List Script.Statement :=
  if v.node.isVisible then ((v.route s).piece s false).statements else []

def style (s : Setting) (v : Visit) : String :=
  Style.render (v.rules s)

def script (s : Setting) (v : Visit) : String :=
  Script.render (v.statements s)

/-- The visit, and behind it those to what is in a visible container. -/
def andThen (s : Setting) (v : Visit) (inner : List Visit) : List Visit :=
  v :: if v.node.isVisible && (v.route s).isContainer then inner else []

end Visit

mutual

/-- The visits from a node in document order, the node first. -/
def Node.visits (s : Setting) (parent : Option Node) : Node → List Visit
  | .frame r l b cs =>
    Visit.andThen s ⟨parent, .frame r l b cs⟩ (visitsAll s (.frame r l b cs) cs)
  | .inst l b ps cs es =>
    Visit.andThen s ⟨parent, .inst l b ps cs es⟩ (visitsAll s (.inst l b ps cs es) cs)
  | .group l cs => Visit.andThen s ⟨parent, .group l cs⟩ (visitsAll s (.group l cs) cs)
  | .text l t => Visit.andThen s ⟨parent, .text l t⟩ []
  | .shape f l o => Visit.andThen s ⟨parent, .shape f l o⟩ []
  | .unsupported => Visit.andThen s ⟨parent, .unsupported⟩ []

/-- The visits from nodes in one container. -/
def visitsAll (s : Setting) (parent : Node) : List Node → List Visit
  | [] => []
  | n :: ns => Node.visits s (some parent) n ++ visitsAll s parent ns

end

theorem Node.visits_eq (s : Setting) (parent : Option Node) (n : Node) :
    n.visits s parent = Visit.andThen s ⟨parent, n⟩ (visitsAll s n n.children) := by
  cases n with
  | frame | inst | group => rw [visits, children]
  | text | shape | unsupported => rw [visits, children, visitsAll]

/-- What the way through a scene reaches: its root, and what is in a visible layout, frame or
group. -/
inductive Reached (s : Setting) (root : Node) : Visit → Prop where
  | root : Reached s root ⟨none, root⟩
  | child {v : Visit} {c : Node} (hv : Reached s root v) (hvisible : v.node.isVisible)
      (hr : (∃ k, v.route s = .autolayout k) ∨ (∃ l b, v.route s = .frame l b) ∨
        ∃ l, v.route s = .group l)
      (hc : c ∈ v.node.children) : Reached s root ⟨some v.node, c⟩

theorem Route.isContainer_iff {r : Route} :
    r.isContainer ↔ (∃ k, r = autolayout k) ∨ (∃ l b, r = frame l b) ∨ ∃ l, r = group l := by
  cases r <;> simp [isContainer]

/-! ### Which nodes are reached -/

namespace Visit

theorem mem_andThen {s : Setting} {v w : Visit} {inner : List Visit} :
    w ∈ v.andThen s inner ↔
      w = v ∨ v.node.isVisible ∧ (v.route s).isContainer ∧ w ∈ inner := by
  rw [andThen, List.mem_cons]
  split
  · next h =>
      rw [Bool.and_eq_true] at h
      simp [h]
  · next h =>
      rw [Bool.and_eq_true] at h
      constructor
      · rintro (hw | hw)
        · exact .inl hw
        · cases hw
      · rintro (hw | ⟨hv, hr, -⟩)
        · exact .inl hw
        · exact absurd ⟨hv, hr⟩ h

end Visit

theorem mem_visitsAll {s : Setting} {parent : Node} {ns : List Node} {w : Visit} :
    w ∈ visitsAll s parent ns ↔ ∃ n ∈ ns, w ∈ n.visits s (some parent) := by
  induction ns with
  | nil => simp [visitsAll]
  | cons n ns ih => simp [visitsAll, ih]

theorem Node.self_mem_visits (s : Setting) (parent : Option Node) (n : Node) :
    ⟨parent, n⟩ ∈ n.visits s parent := by
  rw [visits_eq]
  exact List.mem_cons_self

theorem Node.reached_of_mem_visits {s : Setting} {root : Node} (n : Node) :
    ∀ parent w, Reached s root ⟨parent, n⟩ → w ∈ n.visits s parent → Reached s root w := by
  induction n using Node.rec_children with
  | step n ih =>
      intro parent w hn hw
      rw [visits_eq, Visit.mem_andThen] at hw
      rcases hw with rfl | ⟨hv, hr, hw⟩
      · exact hn
      · obtain ⟨c, hc, hw⟩ := mem_visitsAll.mp hw
        exact ih c hc (some n) w (hn.child hv (Route.isContainer_iff.mp hr) hc) hw

/-- The visits from what a visit reaches are among those that it belongs to. -/
theorem Node.mem_visits_trans {s : Setting} {v w : Visit} {c : Node} (hv : v.node.isVisible)
    (hr : (v.route s).isContainer) (hc : c ∈ v.node.children)
    (hw : w ∈ c.visits s (some v.node)) (n : Node) :
    ∀ parent, v ∈ n.visits s parent → w ∈ n.visits s parent := by
  induction n using Node.rec_children with
  | step n ih =>
      intro parent hmem
      rw [visits_eq, Visit.mem_andThen] at hmem ⊢
      rcases hmem with rfl | ⟨hv', hr', hmem⟩
      · exact .inr ⟨hv, hr, mem_visitsAll.mpr ⟨c, hc, hw⟩⟩
      · obtain ⟨m, hm, hmem⟩ := mem_visitsAll.mp hmem
        exact .inr ⟨hv', hr', mem_visitsAll.mpr ⟨m, hm, ih m hm (some n) hmem⟩⟩

/-- The visits of a scene are to what is reached. -/
theorem Node.mem_visits {s : Setting} {root : Node} {v : Visit} :
    v ∈ root.visits s none ↔ Reached s root v := by
  constructor
  · exact reached_of_mem_visits root none v .root
  · intro h
    induction h with
    | root => exact root.self_mem_visits s none
    | @child v c _ hvisible hr hc ih =>
        exact mem_visits_trans hvisible (Route.isContainer_iff.mpr hr) hc
          (c.self_mem_visits s (some v.node)) root none ih

/-! ### What is assembled -/

theorem Style.render_append (xs ys : List Rule) :
    Style.render (xs ++ ys) = Style.render xs ++ Style.render ys := by
  simp only [Style.render, List.map_append, String.join_append]

/-- A piece with a selector has a style. -/
theorem Route.style_piece_ne {s : Setting} {grouped : Bool} {r : Route}
    (h : r.selector?.isSome) : Style.render (r.piece s grouped).rules ≠ "" := by
  obtain ⟨selector, hs⟩ := Option.isSome_iff_exists.mp h
  obtain ⟨ds, more, hrules⟩ := exists_rules_piece hs s grouped
  rw [hrules]
  intro hempty
  have hchars := congrArg String.toList hempty
  simp [Style.render, Rule.render] at hchars

namespace Fragment

theorem isEmpty_eq_false {f : Fragment} (h : f.style ≠ "") : f.isEmpty = false := by
  have hstyle : f.style.isEmpty = false := by
    rw [← Bool.not_eq_true, String.isEmpty_iff]
    exact h
  rw [isEmpty, hstyle, Bool.and_false]

/-- The assembly binds the origin that the visit says. -/
theorem style_bindOrigin {s : Setting} {v : Visit} {f : Fragment}
    (hf : (v.route s).selector?.isSome → f.style ≠ "") :
    (f.bindOrigin s (v.origin? s) v.node).style = Style.render (v.binding s) ++ f.style := by
  unfold bindOrigin Visit.binding Visit.origin?
  cases hg : v.group? s with
  | none => simp [Style.render]
  | some g =>
      cases hs : (v.route s).selector? with
      | none =>
          have hnode : (Route.ofNode s.catalogs.components v.node).selector? = none := hs
          simp [Style.render, hnode]
      | some selector =>
          have hnode : (Route.ofNode s.catalogs.components v.node).selector? = some selector := hs
          have hne : f.isEmpty = false := isEmpty_eq_false (hf (by rw [hs]; rfl))
          simp [Style.render, Layer.origin, hnode, hne]

end Fragment

namespace Visit

/-- The scripts of visits, one behind the other. -/
def scripts (s : Setting) (vs : List Visit) : String :=
  String.join (vs.map (script s))

/-- The styles of visits, one behind the other. -/
def styles (s : Setting) (vs : List Visit) : String :=
  String.join (vs.map (style s))

theorem scripts_append (s : Setting) (vs ws : List Visit) :
    scripts s (vs ++ ws) = scripts s vs ++ scripts s ws := by
  simp only [scripts, List.map_append, String.join_append]

theorem styles_append (s : Setting) (vs ws : List Visit) :
    styles s (vs ++ ws) = styles s vs ++ styles s ws := by
  simp only [styles, List.map_append, String.join_append]

theorem scripts_cons (s : Setting) (v : Visit) (vs : List Visit) :
    scripts s (v :: vs) = v.script s ++ scripts s vs := by
  rw [scripts, List.map_cons, String.join_cons, scripts]

theorem styles_cons (s : Setting) (v : Visit) (vs : List Visit) :
    styles s (v :: vs) = v.style s ++ styles s vs := by
  rw [styles, List.map_cons, String.join_cons, styles]

theorem script_of_isVisible {s : Setting} {v : Visit} (h : v.node.isVisible) (grouped : Bool) :
    v.script s = Script.render ((v.route s).piece s grouped).statements := by
  rw [script, statements, if_pos h, Route.statements_piece s grouped]

theorem style_of_isVisible {s : Setting} {v : Visit} (h : v.node.isVisible) :
    v.style s = Style.render (v.binding s)
      ++ Style.render ((v.route s).piece s (v.group? s).isSome).rules := by
  rw [style, rules, if_pos h, Style.render_append]

theorem script_of_hidden {s : Setting} {v : Visit} (h : v.node.isVisible = false) :
    v.script s = "" := by
  rw [script, statements, if_neg (by simp [h])]
  rfl

theorem style_of_hidden {s : Setting} {v : Visit} (h : v.node.isVisible = false) :
    v.style s = "" := by
  rw [style, rules, if_neg (by simp [h])]
  rfl

/-- A node around children that give what the visits to them contribute. -/
theorem sections_complete {s : Setting} {v : Visit} {inner : List Visit}
    {children : Except GenerationError Fragment} {f : Fragment}
    (h : v.node.complete s (v.group? s).isSome children = .ok f)
    (hc : ∀ c, children = .ok c → c.script = scripts s inner ∧ c.style = styles s inner) :
    f.script = scripts s (v.andThen s inner) ∧
      (f.bindOrigin s (v.origin? s) v.node).style = styles s (v.andThen s inner) := by
  rcases Node.complete_cases h with ⟨hv, rfl⟩ | ⟨hv, hr, rfl⟩ | ⟨hv, hr, c, hchildren, rfl⟩
  · have hthen : v.andThen s inner = [v] := by simp [andThen, hv]
    rw [hthen, scripts_cons, styles_cons, script_of_hidden hv, style_of_hidden hv,
      Fragment.bindOrigin_empty]
    exact ⟨rfl, rfl⟩
  · have hthen : v.andThen s inner = [v] := by simp [andThen, route, hr]
    rw [hthen, scripts_cons, styles_cons, script_of_isVisible hv (v.group? s).isSome,
      style_of_isVisible hv, Fragment.style_bindOrigin fun hs => Route.style_piece_ne hs]
    exact ⟨(String.append_empty).symm, (String.append_empty).symm⟩
  · obtain ⟨hscript, hstyle⟩ := hc c hchildren
    have hthen : v.andThen s inner = v :: inner := by simp [andThen, route, hv, hr]
    have hne : (v.route s).selector?.isSome →
        ((((v.route s).piece s (v.group? s).isSome).fragment ++ c).close).style ≠ "" := by
      intro hs hempty
      exact Route.style_piece_ne hs (String.append_eq_empty_iff.mp hempty).1
    rw [hthen, scripts_cons, styles_cons, script_of_isVisible hv (v.group? s).isSome,
      style_of_isVisible hv, ← hscript, ← hstyle]
    refine ⟨rfl, ?_⟩
    rw [String.append_assoc]
    exact Fragment.style_bindOrigin hne

/-- What is assembled for the node of a visit is what the visits from it contribute. -/
def Contributes (s : Setting) (v : Visit) : Prop :=
  ∀ f, v.node.assemble s (v.origin? s) = .ok f →
    f.script = scripts s (v.node.visits s v.parent) ∧
      (f.bindOrigin s (v.origin? s) v.node).style = styles s (v.node.visits s v.parent)

theorem sections_assembleAll {s : Setting} {parent : Node} {ns : List Node}
    (hns : ∀ n ∈ ns, Contributes s ⟨some parent, n⟩) {f : Fragment}
    (h : assembleAll s ((parent.group? s).map Layer.origin) ns = .ok f) :
    f.script = scripts s (visitsAll s parent ns) ∧ f.style = styles s (visitsAll s parent ns) := by
  induction ns generalizing f with
  | nil =>
      cases h
      exact ⟨rfl, rfl⟩
  | cons n ns ih =>
      obtain ⟨hn, hns⟩ := List.forall_mem_cons.mp hns
      obtain ⟨g, gs, hg, hgs, rfl⟩ := assembleAll_cons h
      obtain ⟨hscript, hstyle⟩ := hn g hg
      obtain ⟨hscripts, hstyles⟩ := ih hns hgs
      rw [visitsAll, scripts_append, styles_append, Fragment.script_append,
        Fragment.style_append, Fragment.script_bindOrigin, hscript, hscripts, hstyles]
      exact ⟨rfl, congrArg (· ++ _) hstyle⟩

theorem contributes (s : Setting) (n : Node) : ∀ parent, Contributes s ⟨parent, n⟩ := by
  induction n using Node.rec_children with
  | step n ih =>
      intro parent f h
      rw [Node.assemble_eq, origin?, Option.isSome_map] at h
      rw [Node.visits_eq]
      exact sections_complete h fun c hc => sections_assembleAll (fun m hm => ih m hm (some n)) hc

/-! ### Layers in groups -/

theorem group?_eq_some_iff {s : Setting} {v : Visit} {g : Layer} :
    v.group? s = some g ↔
      ∃ p, v.parent = some p ∧ Route.ofNode s.catalogs.components p = .group g := by
  have hroute (r : Route) : r.group? = some g ↔ r = .group g := by
    cases r with
    | group l => simp [Route.group?]
    | icon | widget | autolayout | frame | text | rectangle | ellipse | line | skip =>
        simp [Route.group?]
  simp only [group?, Option.bind_eq_some_iff, Node.group?, hroute]

theorem isSome_group?_iff {s : Setting} {v : Visit} : (v.group? s).isSome ↔ v.InGroup s := by
  rw [Option.isSome_iff_exists]
  simp only [group?_eq_some_iff, InGroup]
  exact exists_comm

/-- What the rules of a visit to the visible layer `l` have to do with the group around it. -/
structure Placed (s : Setting) (v : Visit) (l : Layer) (selector : String) : Prop where
  /-- The first rule of the piece has the selector that an origin is bound on. -/
  own : ∀ grouped, ∃ ds more, ((v.route s).piece s grouped).rules = ⟨selector, ds⟩ :: more
  /-- In a group, its origin is bound before all rules of the piece, and taken off by one. -/
  grouped : ∀ p g, v.parent = some p → Route.ofNode s.catalogs.components p = .group g →
    v.rules s =
        ⟨selector, [("--parentXpos", Style.number (g.x / s.options.baseFontSize) ++ "rem"),
          ("--parentYpos", Style.number (g.y / s.options.baseFontSize) ++ "rem")]⟩
        :: ((v.route s).piece s true).rules ∧
      ⟨":global(.group-node > ." ++ l.cls ++ ")",
        [("left", "calc(" ++ Style.number (l.x / s.options.baseFontSize) ++
            "rem - var(--parentXpos)) !important"),
          ("top", "calc(" ++ Style.number (l.y / s.options.baseFontSize) ++
            "rem - var(--parentYpos)) !important")]⟩ ∈ ((v.route s).piece s true).rules
  /-- Only in a group an origin is bound. -/
  binds_iff : (∃ r ∈ v.rules s, ∃ d ∈ r.declarations, d.1 = "--parentXpos" ∨ d.1 = "--parentYpos") ↔
    v.InGroup s
  /-- Only in a group an origin is taken off. -/
  moved_iff : (∃ r ∈ v.rules s, r.selector = ":global(.group-node > ." ++ l.cls ++ ")") ↔
    v.InGroup s

theorem rules_eq_grouped {s : Setting} {v : Visit} {g : Layer} {selector : String}
    (hv : v.node.isVisible) (hg : v.group? s = some g)
    (hs : (v.route s).selector? = some selector) :
    v.rules s = Style.groupOrigin selector (s.rem g.x) (s.rem g.y)
      :: ((v.route s).piece s true).rules := by
  rw [rules, if_pos hv, binding, hg, hs]
  rfl

/-- Outside of groups the rules are those of the piece, whatever the node is in. -/
theorem rules_eq_ungrouped {s : Setting} {v : Visit} (hg : v.group? s = none) :
    v.rules s = if v.node.isVisible then ((v.route s).piece s false).rules else [] := by
  rw [rules, binding, hg]
  rfl

theorem rules_eq_nil {s : Setting} {v : Visit} (hs : (v.route s).selector? = none) :
    v.rules s = [] := by
  have hbinding : v.binding s = [] := by
    rw [binding, hs]
    cases v.group? s <;> rfl
  rw [rules, hbinding, Route.rules_piece_eq_nil hs, List.append_nil, ite_self]

theorem style_eq_empty {s : Setting} (v : Visit) (hs : (v.route s).selector? = none) :
    v.style s = "" := by
  rw [style, rules_eq_nil hs]
  rfl

theorem mem_piece_inGroup {s : Setting} {r : Route} {l : Layer} (hl : r.styled? = some l) :
    Style.inGroup l.cls (s.rem l.x) (s.rem l.y) ∈ (r.piece s true).rules := by
  rw [Route.rules_piece hl, List.mem_append]
  exact .inr List.mem_cons_self

theorem placed {s : Setting} {v : Visit} {l : Layer} {selector : String}
    (hv : v.node.isVisible) (hl : (v.route s).styled? = some l)
    (hs : (v.route s).selector? = some selector) : v.Placed s l selector where
  own := Route.exists_rules_piece hs s
  grouped p g hp hr := by
    have hmem := mem_piece_inGroup (s := s) hl
    simp only [Setting.rem, Style.inGroup_rem] at hmem
    exact ⟨rules_eq_grouped hv (group?_eq_some_iff.mpr ⟨p, hp, hr⟩) hs, hmem⟩
  binds_iff := by
    simp only [← Rule.bindsOrigin_iff, ← isSome_group?_iff]
    cases hg : v.group? s with
    | none =>
        simp only [rules_eq_ungrouped hg, if_pos hv, Option.isSome_none, Bool.false_eq_true,
          iff_false]
        rintro ⟨r, hr, hbinds⟩
        exact Route.not_bindsOrigin hr hbinds
    | some g =>
        simp only [rules_eq_grouped hv hg hs, Option.isSome_some, iff_true]
        exact ⟨_, List.mem_cons_self, Style.bindsOrigin_groupOrigin _ _ _⟩
  moved_iff := by
    rw [← isSome_group?_iff]
    cases hg : v.group? s with
    | none =>
        simp only [rules_eq_ungrouped hg, if_pos hv, Option.isSome_none, Bool.false_eq_true,
          iff_false]
        rintro ⟨r, hr, hsel⟩
        exact Route.selector_ne_of_mem hl r hr hsel
    | some g =>
        simp only [rules_eq_grouped hv hg hs, Option.isSome_some, iff_true]
        exact ⟨_, List.mem_cons_of_mem _ (mem_piece_inGroup hl), rfl⟩

end Visit

/-- The layer of a route is that of the node. -/
theorem Route.layer?_of_styled? {c : ComponentCatalog} {n : Node} {l : Layer}
    (h : (ofNode c n).styled? = some l) : n.layer? = some l := by
  cases n with
  | frame role l b cs =>
      cases role <;> simp only [ofNode] at h
      · split at h <;> exact h
      · split at h
        · exact h
        · cases h
      · cases h
  | inst l b ps cs es =>
      simp only [ofNode] at h
      split at h
      · cases h
      · split at h
        · cases h
        · split at h
          · exact h
          · cases h
  | shape form l o => cases form <;> exact h
  | group | text => exact h
  | unsupported => cases h

/-- The script and the style of a scene are what its visits contribute, in order.  The visits are to
what is reached; the rules of a layer are placed by the group that it is directly in; outside of
groups they are those of the same node as a root. -/
theorem sections_generate {s : Setting} {root : Node} {f : Fragment}
    (h : root.generate s = .ok f) :
    f.script = Visit.scripts s (root.visits s none) ∧
      f.style = Visit.styles s (root.visits s none) ∧
      (∀ v, v ∈ root.visits s none ↔ Reached s root v) ∧
      ∀ v ∈ root.visits s none,
        (v.style s = String.join ((v.rules s).map fun r => r.selector ++ " \x7b" ++
          String.join (r.declarations.map fun d => " " ++ d.1 ++ ": " ++ d.2 ++ ";") ++
          " \x7d\n")) ∧
        (∀ l selector, v.node.isVisible → v.node.layer? = some l →
          (v.route s).selector? = some selector → v.Placed s l selector) ∧
        ((v.route s).selector? = none → v.style s = "") ∧
        ((∃ l glyphs, v.route s = .icon l glyphs) ∨ (∃ i, v.route s = .widget i) ∨
          v.route s = .skip → v.style s = "") ∧
        (v.node.isVisible = false → v.script s = "" ∧ v.style s = "") ∧
        (¬ v.InGroup s → v.rules s = Visit.rules s ⟨none, v.node⟩) := by
  obtain ⟨hscript, hstyle⟩ := Visit.contributes s root none f (Node.generate_eq_ok h)
  refine ⟨hscript, hstyle, fun v => Node.mem_visits, fun v _ => ⟨rfl, ?_, v.style_eq_empty, ?_,
    fun hv => ⟨Visit.script_of_hidden hv, Visit.style_of_hidden hv⟩, ?_⟩⟩
  · intro l selector hv hl hs
    obtain ⟨l', hl'⟩ : ∃ l', (v.route s).styled? = some l' := by
      rw [← Option.isSome_iff_exists, Route.isSome_styled?, hs]
      rfl
    obtain rfl : l' = l := Option.some.inj ((Route.layer?_of_styled? hl').symm.trans hl)
    exact Visit.placed hv hl' hs
  · rintro (⟨l, glyphs, hr⟩ | ⟨i, hr⟩ | hr)
    all_goals exact v.style_eq_empty (by rw [hr]; rfl)
  · intro hgroup
    have hnone : v.group? s = none := by
      rwa [← Option.not_isSome_iff_eq_none, Visit.isSome_group?_iff]
    have hroot : (⟨none, v.node⟩ : Visit).group? s = none := rfl
    rw [Visit.rules_eq_ungrouped hnone, Visit.rules_eq_ungrouped hroot]
    rfl

/-- A radio group in a group in a group. -/
def groupedScene : Node :=
  .group { plainLayer "2:1" "Outer" true with x := 16, y := 32 } [
    .group { plainLayer "2:2" "Inner" true with x := 24, y := 40 } [
      .frame .frame { plainLayer "2:3" "Choice" true with x := 40, y := 44 }
        (plainBox .horizontal) [
          .inst (plainLayer "2:4" "Radio" true) (plainBox .none) [("label", .text "A")] [] []]]]

/-- The origin of each group is bound on what is directly in it, and taken off there; the radio
button has no style. -/
theorem sections_generate_groupedScene :
    ∃ f, groupedScene.generate builtinSetting = .ok f ∧
      f.script = "import \x7b RadioGroup \x7d from \"deskblocks\";\n" ++
        "let radio_8e0375adfcValue = '';\nimport \x7b Radio \x7d from \"deskblocks\";\n" ∧
      f.style = ".Outer-2-1 \x7b width: 2rem; height: 3rem; opacity: 1; position: relative; " ++
          "--xpos: 1rem; --ypos: 2rem; \x7d\n" ++
        ".Outer-2-1 > * \x7b position: absolute !important; \x7d\n" ++
        ":global(.frame-node > .Outer-2-1) \x7b left: 1rem; top: 2rem; \x7d\n" ++
        ".Inner-2-2 \x7b --parentXpos: 1rem; --parentYpos: 2rem; \x7d\n" ++
        ".Inner-2-2 \x7b width: 2rem; height: 3rem; opacity: 1; position: relative; " ++
          "--xpos: 1.5rem; --ypos: 2.5rem; \x7d\n" ++
        ".Inner-2-2 > * \x7b position: absolute !important; \x7d\n" ++
        ":global(.frame-node > .Inner-2-2) \x7b left: 1.5rem; top: 2.5rem; \x7d\n" ++
        ":global(.group-node > .Inner-2-2) \x7b left: calc(1.5rem - var(--parentXpos)) " ++
          "!important; top: calc(2.5rem - var(--parentYpos)) !important; \x7d\n" ++
        ":global(.Choice-2-3) \x7b --parentXpos: 1.5rem; --parentYpos: 2.5rem; \x7d\n" ++
        ":global(.Choice-2-3) \x7b width: 2rem; height: 3rem; border-radius: 0rem 0rem 0rem " ++
          "0rem; background-color: transparent; border-width: 0; border-style: solid; " ++
          "border-color: transparent; padding: 0rem 0rem 0rem 0rem; display: flex; " ++
          "flex-direction: row; flex-wrap: nowrap; align-items: flex-start; justify-content: " ++
          "flex-start; gap: 0rem 0rem; align-self: flex-start; opacity: 1; overflow: hidden; " ++
          "\x7d\n" ++
        ":global(.frame-node > .Choice-2-3) \x7b left: 2.5rem; top: 2.75rem; \x7d\n" ++
        ":global(.group-node > .Choice-2-3) \x7b left: calc(2.5rem - var(--parentXpos)) " ++
          "!important; top: calc(2.75rem - var(--parentYpos)) !important; \x7d\n" ∧
      ∃ v ∈ groupedScene.visits builtinSetting none, v.InGroup builtinSetting ∧
        ∃ l, v.node.layer? = some l ∧ v.Placed builtinSetting l ":global(.Choice-2-3)" := by
  obtain ⟨f, h⟩ : ∃ f, groupedScene.generate builtinSetting = .ok f :=
    exists_generate (by decide +kernel)
  obtain ⟨hscript, hstyle, hmem, hvisits⟩ := sections_generate h
  have hinner : Reached builtinSetting groupedScene ⟨some groupedScene, _⟩ :=
    .child .root rfl (.inr (.inr ⟨_, rfl⟩)) List.mem_cons_self
  have hchoice : Reached builtinSetting groupedScene ⟨some _, _⟩ :=
    hinner.child rfl (.inr (.inr ⟨_, rfl⟩)) List.mem_cons_self
  have hv := (hmem _).mpr hchoice
  refine ⟨f, h, hscript.trans (by decide +kernel), hstyle.trans (by decide +kernel), _, hv,
    ⟨_, _, rfl, rfl⟩, _, rfl, ?_⟩
  exact (hvisits _ hv).2.1 _ _ rfl rfl (by decide +kernel)

end Handoff
