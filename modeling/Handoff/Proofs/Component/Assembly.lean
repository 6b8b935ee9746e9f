import Handoff.Component.Assembly

/-!
# What assembling a node can give

A node that is assembled is hidden, or gives its own fragment, or is a container and gives that of
its children behind its own, closed (`Node.complete_cases`).  Its children are assembled one after the
other (`assembleAll_cons`), with the origin of the node only if it is a group (`Node.assemble_eq`).

What holds of every node is proved from its children (`Node.rec_children`).
-/

namespace Handoff

/-! ### Trees -/

mutual

/-- Induction over a scene: what holds of a node whenever it holds of its children. -/
@[elab_as_elim]
theorem Node.rec_children {motive : Node → Prop}
    (step : ∀ n : Node, (∀ c ∈ n.children, motive c) → motive n) : ∀ n, motive n
  | .frame _ _ _ cs => step _ (rec_children_all step cs)
  | .inst _ _ _ cs _ => step _ (rec_children_all step cs)
  | .group _ cs => step _ (rec_children_all step cs)
  | .text _ _ => step _ (List.forall_mem_nil _)
  | .shape _ _ _ => step _ (List.forall_mem_nil _)
  | .unsupported => step _ (List.forall_mem_nil _)

theorem rec_children_all {motive : Node → Prop}
    (step : ∀ n : Node, (∀ c ∈ n.children, motive c) → motive n) :
    ∀ (cs : List Node), ∀ c ∈ cs, motive c
  | [] => List.forall_mem_nil _
  | c :: cs => List.forall_mem_cons.mpr ⟨Node.rec_children step c, rec_children_all step cs⟩

end

/-! ### Fragments -/

theorem bind_eq_ok {ε α β : Type} {x : Except ε α} {f : α → Except ε β} {b : β}
    (h : (x >>= f) = .ok b) : ∃ a, x = .ok a ∧ f a = .ok b := by
  cases x with
  | error e => cases h
  | ok a => exact ⟨a, rfl, h⟩

namespace Fragment

@[simp] theorem script_append (f g : Fragment) : (f ++ g).script = f.script ++ g.script := rfl

@[simp] theorem markup_append (f g : Fragment) : (f ++ g).markup = f.markup ++ g.markup := rfl

@[simp] theorem style_append (f g : Fragment) : (f ++ g).style = f.style ++ g.style := rfl

@[simp] theorem markup_close (f : Fragment) :
    f.close.markup = f.markup ++ Markup.closingTag f.markup := rfl

/-- Binding an origin is a matter of style. -/
theorem bindOrigin_eq_or (s : Setting) (origin : Option Point) (n : Node) (f : Fragment) :
    f.bindOrigin s origin n = f ∨ ∃ style, f.bindOrigin s origin n = { f with style := style } := by
  unfold bindOrigin
  split
  · split
    · exact .inl rfl
    · exact .inr ⟨_, rfl⟩
  · exact .inl rfl

theorem script_bindOrigin (s : Setting) (origin : Option Point) (n : Node) (f : Fragment) :
    (f.bindOrigin s origin n).script = f.script := by
  rcases bindOrigin_eq_or s origin n f with h | ⟨style, h⟩
  · rw [h]
  · rw [h]

theorem markup_bindOrigin (s : Setting) (origin : Option Point) (n : Node) (f : Fragment) :
    (f.bindOrigin s origin n).markup = f.markup := by
  rcases bindOrigin_eq_or s origin n f with h | ⟨style, h⟩
  · rw [h]
  · rw [h]

theorem bindOrigin_empty (s : Setting) (origin : Option Point) (n : Node) :
    empty.bindOrigin s origin n = empty := by
  unfold bindOrigin
  split
  · rfl
  · rfl

end Fragment

/-! ### Pieces -/

namespace Route

/-- Only the rules of a piece ask whether the parent of the node is a group. -/
theorem markup_piece (s : Setting) (grouped : Bool) (r : Route) :
    (r.piece s grouped).markup = (r.piece s false).markup := by
  cases r <;> rfl

theorem statements_piece (s : Setting) (grouped : Bool) (r : Route) :
    (r.piece s grouped).statements = (r.piece s false).statements := by
  cases r <;> rfl

end Route

/-! ### Nodes -/

/-- The layer of a route to a group. -/
def Route.group? : Route → Option Layer
  | group l => some l
  | icon _ _ | widget _ | autolayout _ | frame _ _ | text _ _ | rectangle _ _ | ellipse _ _
  | line _ _ | skip => none

/-- The layer of a node that becomes a group. -/
def Node.group? (s : Setting) (n : Node) : Option Layer :=
  (Route.ofNode s.catalogs.components n).group?

theorem Node.group?_frame (s : Setting) (r : FrameRole) (l : Layer) (b : Box) (cs : List Node) :
    (Node.frame r l b cs).group? s = none := by
  cases r with
  | frame | component =>
      rw [group?, Route.ofNode]
      split <;> rfl
  | componentSet => rfl

theorem Node.group?_inst (s : Setting) (l : Layer) (b : Box) (ps : Properties)
    (cs es : List Node) : (Node.inst l b ps cs es).group? s = none := by
  rw [group?, Route.ofNode]
  repeat' split
  all_goals rfl

/-- Children are told the origin of their parent if it is a group, and of nothing else. -/
theorem Node.assemble_eq (s : Setting) (origin : Option Point) (n : Node) :
    n.assemble s origin =
      n.complete s origin.isSome
        (assembleAll s ((n.group? s).map Layer.origin) n.children) := by
  cases n with
  | frame r l b cs =>
      rw [assemble, group?_frame]
      rfl
  | inst l b ps cs es =>
      rw [assemble, group?_inst]
      rfl
  | group | text | shape | unsupported =>
      rw [assemble]
      rfl

theorem Route.ofNode_of_layer?_eq_none {c : ComponentCatalog} {n : Node} (h : n.layer? = none) :
    ofNode c n = skip := by
  cases n with
  | unsupported => rfl
  | frame | inst | group | text | shape => cases h

theorem Node.complete_cases {s : Setting} {grouped : Bool} {n : Node}
    {children : Except GenerationError Fragment} {f : Fragment}
    (h : n.complete s grouped children = .ok f) :
    (n.isVisible = false ∧ f = .empty) ∨
      (n.isVisible ∧ (Route.ofNode s.catalogs.components n).isContainer = false ∧
        f = ((Route.ofNode s.catalogs.components n).piece s grouped).fragment) ∨
      (n.isVisible ∧ (Route.ofNode s.catalogs.components n).isContainer ∧
        ∃ c, children = .ok c ∧
          f = (((Route.ofNode s.catalogs.components n).piece s grouped).fragment ++ c).close) := by
  rw [complete] at h
  split at h
  · next hl =>
      obtain rfl := Except.ok.inj h
      rw [Route.ofNode_of_layer?_eq_none hl]
      exact .inr (.inl ⟨by rw [isVisible, hl]; rfl, rfl, rfl⟩)
  · next l hl =>
      obtain ⟨_, -, h⟩ := bind_eq_ok h
      have hvisible : n.isVisible = l.visible := by rw [isVisible, hl, Option.all_some]
      rw [hvisible]
      by_cases hv : l.visible
      · rw [if_pos hv] at h
        by_cases hr : (Route.ofNode s.catalogs.components n).isContainer
        · simp only [if_pos hr] at h
          obtain ⟨c, hc, h⟩ := bind_eq_ok h
          exact .inr (.inr ⟨hv, hr, c, hc, (Except.ok.inj h).symm⟩)
        · simp only [if_neg hr] at h
          rw [Bool.not_eq_true] at hr
          exact .inr (.inl ⟨hv, hr, (Except.ok.inj h).symm⟩)
      · rw [if_neg hv] at h
        rw [Bool.not_eq_true] at hv
        exact .inl ⟨hv, (Except.ok.inj h).symm⟩

theorem assembleAll_cons {s : Setting} {origin : Option Point} {n : Node} {ns : List Node}
    {f : Fragment} (h : assembleAll s origin (n :: ns) = .ok f) :
    ∃ g gs, n.assemble s origin = .ok g ∧ assembleAll s origin ns = .ok gs ∧
      f = g.bindOrigin s origin n ++ gs := by
  rw [assembleAll] at h
  obtain ⟨g, hg, h⟩ := bind_eq_ok h
  obtain ⟨gs, hgs, h⟩ := bind_eq_ok h
  exact ⟨g, gs, hg, hgs, (Except.ok.inj h).symm⟩

theorem Node.generate_eq_ok {s : Setting} {root : Node} {f : Fragment}
    (h : root.generate s = .ok f) : root.assemble s none = .ok f := by
  obtain ⟨_, -, h⟩ := bind_eq_ok h
  exact h

end Handoff
