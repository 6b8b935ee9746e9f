import Handoff.Proofs.Component.Visits

/-!
# Scenes with a slot

A node at some place of a scene is what fills a slot among the children of the node around it, which
fills a slot itself, and so on up to the root (`exists_fillIn_of_reached`).

What is around a slot asks the node in it for few things.  Nodes that are alike in them (`Alike`)
make the same of any scene (`Alike.fillIn`).  All that a container is told by its children is whether
it is a group of radio buttons, and with which choice such a group starts (`Container.start_congr`).
-/

namespace Handoff

/-! ### Other children -/

namespace Node

/-- The node with other children, if it is one that has children. -/
def withChildren : Node → List Node → Node
  | frame r l b _, cs => frame r l b cs
  | inst l b ps _ es, cs => inst l b ps cs es
  | group l _, cs => group l cs
  | text l t, _ => text l t
  | shape f l o, _ => shape f l o
  | unsupported, _ => unsupported

@[simp] theorem layer?_withChildren (n : Node) (cs : List Node) :
    (n.withChildren cs).layer? = n.layer? := by
  cases n <;> rfl

@[simp] theorem isVisible_withChildren (n : Node) (cs : List Node) :
    (n.withChildren cs).isVisible = n.isVisible := by
  rw [isVisible, layer?_withChildren, isVisible]

@[simp] theorem propertiesOf?_withChildren (n : Node) (cs : List Node) (name : String) :
    (n.withChildren cs).propertiesOf? name = n.propertiesOf? name := by
  cases n <;> rfl

theorem withChildren_children (n : Node) : n.withChildren n.children = n := by
  cases n <;> rfl

theorem withChildren_withChildren (n : Node) (cs ds : List Node) :
    (n.withChildren cs).withChildren ds = n.withChildren ds := by
  cases n <;> rfl

end Node

namespace Route

/-- The route with other children. -/
def withChildren : Route → List Node → Route
  | icon l _, cs => icon l cs
  | widget i, cs => widget { i with children := cs }
  | autolayout c, cs => autolayout { c with children := cs }
  | frame l b, _ => frame l b
  | group l, _ => group l
  | text l t, _ => text l t
  | rectangle l o, _ => rectangle l o
  | ellipse l o, _ => ellipse l o
  | line l o, _ => line l o
  | skip, _ => skip

/-- A node takes its route whatever its children. -/
theorem ofNode_withChildren (c : ComponentCatalog) (n : Node) (cs : List Node) :
    ofNode c (n.withChildren cs) = (ofNode c n).withChildren cs := by
  cases n with
  | frame r l b ds =>
      cases r with
      | frame | component =>
          simp only [Node.withChildren, ofNode]
          split_ifs <;> rfl
      | componentSet => rfl
  | inst l b ps ds es =>
      simp only [Node.withChildren, ofNode]
      split_ifs <;> rfl
  | shape f l o => cases f <;> rfl
  | group | text | unsupported => rfl

@[simp] theorem isContainer_withChildren (r : Route) (cs : List Node) :
    (r.withChildren cs).isContainer = r.isContainer := by
  cases r <;> rfl

@[simp] theorem group?_withChildren (r : Route) (cs : List Node) :
    (r.withChildren cs).group? = r.group? := by
  cases r <;> rfl

end Route

theorem Node.children_withChildren {c : ComponentCatalog} {n : Node}
    (h : (Route.ofNode c n).isContainer) (cs : List Node) : (n.withChildren cs).children = cs := by
  cases n with
  | frame | inst | group => rfl
  | text | unsupported => cases h
  | shape f => cases f <;> cases h

/-! ### What children say about their container -/

/-- The choice that a group of radio buttons starts with. -/
def Container.start (c : Container) : Option String :=
  if c.isRadioGroup then some c.initialChoice else none

namespace Route

/-- The choice that a node starts with if it becomes a group of radio buttons. -/
def start : Route → Option String
  | autolayout c => c.start
  | icon _ _ | widget _ | frame _ _ | group _ | text _ _ | rectangle _ _ | ellipse _ _ | line _ _
  | skip => none

end Route

def Node.start (s : Setting) (n : Node) : Option String :=
  (Route.ofNode s.catalogs.components n).start

namespace Container

theorem isSome_start (c : Container) : c.start.isSome = c.isRadioGroup := by
  rw [start]
  split
  · next h => rw [h, Option.isSome_some]
  · next h => rw [Option.isSome_none, Bool.eq_false_iff.mpr h]

/-- Containers that start the same are both groups of radio buttons, or neither is. -/
theorem isRadioGroup_congr {c d : Container} (h : c.start = d.start) :
    c.isRadioGroup = d.isRadioGroup := by
  rw [← isSome_start, h, isSome_start]

/-- Only the properties of radio buttons among the children count. -/
theorem start_congr {c d : Container} (h : c.children.map (·.propertiesOf? radio) =
    d.children.map (·.propertiesOf? radio)) : c.start = d.start := by
  have hgroup (c : Container) : c.isRadioGroup =
      (!(c.children.map (·.propertiesOf? radio)).isEmpty &&
        (c.children.map (·.propertiesOf? radio)).all (·.isSome)) := by
    rw [isRadioGroup, List.isEmpty_map, List.all_map]
    rfl
  have hchecked (c : Container) : c.checked? =
      ((c.children.map (·.propertiesOf? radio)).filterMap id).find? (·.flag "checked") := by
    rw [checked?, List.filterMap_map]
    rfl
  rw [start, start, initialChoice, initialChoice, hgroup, hchecked, h, ← hgroup, ← hchecked]

variable {c : Container} {cs : List Node}

theorem selector_withChildren (h : ({ c with children := cs } : Container).start = c.start) :
    ({ c with children := cs } : Container).selector = c.selector := by
  rw [selector, selector, isRadioGroup_congr h]

/-- The start says all that the element of a container takes from the children. -/
theorem piece_withChildren (h : ({ c with children := cs } : Container).start = c.start)
    (s : Setting) (grouped : Bool) :
    ({ c with children := cs } : Container).piece s grouped = c.piece s grouped := by
  have hselector := selector_withChildren h
  have hgroup := isRadioGroup_congr h
  rw [start, start, hgroup] at h
  simp only [piece, rules, tag, hselector, hgroup]
  by_cases hc : c.isRadioGroup
  · rw [if_pos hc, if_pos hc, Option.some.injEq] at h
    simp only [if_pos hc, h]
    rfl
  · simp only [if_neg hc]

end Container

namespace Route

variable {r : Route} {cs : List Node}

theorem piece_withChildren (hr : r.isContainer) (h : (r.withChildren cs).start = r.start)
    (s : Setting) (grouped : Bool) : (r.withChildren cs).piece s grouped = r.piece s grouped := by
  cases r with
  | autolayout c => exact Container.piece_withChildren h s grouped
  | frame | group => rfl
  | icon | widget | text | rectangle | ellipse | line | skip => cases hr

theorem selector?_withChildren (h : (r.withChildren cs).start = r.start) :
    (r.withChildren cs).selector? = r.selector? := by
  cases r with
  | autolayout c => exact congrArg some (Container.selector_withChildren h)
  | frame | group | icon | widget | text | rectangle | ellipse | line | skip => rfl

end Route

theorem Node.start_withChildren_congr (s : Setting) (n : Node) {cs ds : List Node}
    (h : cs.map (·.propertiesOf? Container.radio) = ds.map (·.propertiesOf? Container.radio)) :
    (n.withChildren cs).start s = (n.withChildren ds).start s := by
  rw [start, start, Route.ofNode_withChildren, Route.ofNode_withChildren]
  cases Route.ofNode s.catalogs.components n with
  | autolayout c => exact Container.start_congr h
  | icon | widget | frame | group | text | rectangle | ellipse | line | skip => rfl

/-! ### Assembling with other children -/

namespace Fragment

theorem append_assoc (f g h : Fragment) : f ++ g ++ h = f ++ (g ++ h) := by
  show mk _ _ _ = mk _ _ _
  simp only [script_append, markup_append, style_append, String.append_assoc]

theorem empty_append (f : Fragment) : empty ++ f = f := by
  show mk _ _ _ = f
  simp only [empty, String.empty_append]

end Fragment

section
variable {s : Setting} {origin : Option Point} {n : Node}

theorem assembleAll_append (ns ms : List Node) :
    assembleAll s origin (ns ++ ms) =
      (do
        let f ← assembleAll s origin ns
        let g ← assembleAll s origin ms
        return f ++ g) := by
  induction ns with
  | nil =>
      rw [List.nil_append, assembleAll]
      cases assembleAll s origin ms with
      | error e => rfl
      | ok g => exact congrArg _ (Fragment.empty_append g).symm
  | cons n ns ih =>
      rw [List.cons_append, assembleAll, assembleAll, ih]
      cases n.assemble s origin with
      | error e => rfl
      | ok f =>
          cases assembleAll s origin ns with
          | error e => rfl
          | ok fs =>
              cases assembleAll s origin ms with
              | error e => rfl
              | ok g => exact congrArg _ (Fragment.append_assoc _ fs g).symm

/-- The children before a node, the node, and those behind it are assembled in this order. -/
theorem assembleAll_between {before after : List Node} {f : Fragment} :
    assembleAll s origin (before ++ n :: after) = .ok f ↔
      ∃ b g a, assembleAll s origin before = .ok b ∧ n.assemble s origin = .ok g ∧
        assembleAll s origin after = .ok a ∧ f = b ++ (g.bindOrigin s origin n ++ a) := by
  rw [assembleAll_append]
  constructor
  · intro h
    obtain ⟨b, hb, h⟩ := bind_eq_ok h
    obtain ⟨c, hc, h⟩ := bind_eq_ok h
    obtain ⟨g, a, hg, ha, rfl⟩ := assembleAll_cons hc
    exact ⟨b, g, a, hb, hg, ha, (Except.ok.inj h).symm⟩
  · rintro ⟨b, g, a, hb, hg, ha, rfl⟩
    rw [assembleAll, hb, hg, ha]
    rfl

theorem Node.assemble_of_hidden {f : Fragment} (hn : n.isVisible = false)
    (h : n.assemble s origin = .ok f) : f = .empty := by
  rw [assemble_eq] at h
  rcases complete_cases h with ⟨-, hf⟩ | ⟨hv, -⟩ | ⟨hv, -⟩
  · exact hf
  · rw [hn] at hv
    cases hv
  · rw [hn] at hv
    cases hv

/-- A container gives its own fragment and those of its children, closed. -/
theorem Node.assemble_container {f : Fragment} (hv : n.isVisible)
    (hr : (Route.ofNode s.catalogs.components n).isContainer)
    (h : n.assemble s origin = .ok f) :
    ∃ c, assembleAll s ((n.group? s).map Layer.origin) n.children = .ok c ∧
      f = (((Route.ofNode s.catalogs.components n).piece s origin.isSome).fragment ++ c).close := by
  rw [assemble_eq] at h
  rcases complete_cases h with ⟨hhidden, -⟩ | ⟨-, hno, -⟩ | ⟨-, -, c, hc, hf⟩
  · rw [hv] at hhidden
    cases hhidden
  · rw [hr] at hno
    cases hno
  · exact ⟨c, hc, hf⟩

/-- A hidden node is not missed where it is left out. -/
theorem assembleAll_of_hidden {before after : List Node} {f : Fragment}
    (hn : n.isVisible = false) (h : assembleAll s origin (before ++ n :: after) = .ok f) :
    assembleAll s origin (before ++ after) = .ok f := by
  obtain ⟨b, g, a, hb, hg, ha, rfl⟩ := assembleAll_between.mp h
  obtain rfl := Node.assemble_of_hidden hn hg
  rw [assembleAll_append, hb, ha, Fragment.bindOrigin_empty, Fragment.empty_append]
  rfl

theorem Node.complete_congr {n' : Node} {grouped : Bool} (hl : n'.layer? = n.layer?)
    (hr : (Route.ofNode s.catalogs.components n').isContainer =
      (Route.ofNode s.catalogs.components n).isContainer)
    (hp : (Route.ofNode s.catalogs.components n').piece s grouped =
      (Route.ofNode s.catalogs.components n).piece s grouped)
    (children : Except GenerationError Fragment) :
    n'.complete s grouped children = n.complete s grouped children := by
  simp only [complete, hl, hr, hp]

theorem Node.group?_withChildren (cs : List Node) : (n.withChildren cs).group? s = n.group? s := by
  rw [group?, Route.ofNode_withChildren, Route.group?_withChildren, group?]

/-- A container with other children is assembled into the same if they give the same, and say the
same about it. -/
theorem Node.assemble_withChildren {cs : List Node} {f : Fragment} (hv : n.isVisible)
    (hr : (Route.ofNode s.catalogs.components n).isContainer)
    (hstart : (n.withChildren cs).start s = n.start s)
    (hcs : ∀ o c, assembleAll s o n.children = .ok c → assembleAll s o cs = .ok c)
    (h : n.assemble s origin = .ok f) : (n.withChildren cs).assemble s origin = .ok f := by
  have hroute := Route.ofNode_withChildren s.catalogs.components n cs
  rw [start, hroute] at hstart
  obtain ⟨c, hc, -⟩ := assemble_container hv hr h
  rw [assemble_eq, hc] at h
  rw [assemble_eq, group?_withChildren, children_withChildren hr, hcs _ c hc,
    complete_congr (layer?_withChildren n cs) (by rw [hroute, Route.isContainer_withChildren])
      (by rw [hroute, Route.piece_withChildren hr hstart])]
  exact h

end

/-! ### Slots -/

/-- A place among the children of a node. -/
structure Slot where
  parent : Node
  before : List Node
  after : List Node

/-- The node of the slot, with `n` in the slot. -/
def Slot.fill (p : Slot) (n : Node) : Node := p.parent.withChildren (p.before ++ n :: p.after)

/-- The slot is reached wherever its node is. -/
def Slot.Open (s : Setting) (p : Slot) : Prop :=
  p.parent.isVisible ∧ (Route.ofNode s.catalogs.components p.parent).isContainer

namespace Slot
variable {s : Setting} {p : Slot}

/-- Another node in a slot is another list of children. -/
theorem fill_eq (p : Slot) (n n' : Node) :
    p.fill n' = (p.fill n).withChildren (p.before ++ n' :: p.after) := by
  rw [fill, fill, Node.withChildren_withChildren]

theorem isVisible_fill (hp : p.Open s) (n : Node) : (p.fill n).isVisible := by
  rw [fill, Node.isVisible_withChildren]
  exact hp.1

theorem isContainer_fill (hp : p.Open s) (n : Node) :
    (Route.ofNode s.catalogs.components (p.fill n)).isContainer := by
  rw [fill, Route.ofNode_withChildren, Route.isContainer_withChildren]
  exact hp.2

theorem children_fill (hp : p.Open s) (n : Node) :
    (p.fill n).children = p.before ++ n :: p.after :=
  Node.children_withChildren hp.2 _

/-- Radio buttons with the same properties say the same about what is around them. -/
theorem start_fill (s : Setting) (p : Slot) {n n' : Node}
    (h : n'.propertiesOf? Container.radio = n.propertiesOf? Container.radio) :
    (p.fill n').start s = (p.fill n).start s :=
  p.parent.start_withChildren_congr s (by simp [h])

end Slot

/-- The scene around a node, from the inside out. -/
def fillIn : List Slot → Node → Node
  | [], n => n
  | p :: ps, n => fillIn ps (p.fill n)

theorem exists_fillIn_of_reached {s : Setting} {root : Node} {v : Visit} (h : Reached s root v) :
    ∃ ps : List Slot, (∀ p ∈ ps, p.Open s) ∧ root = fillIn ps v.node := by
  induction h with
  | root => exact ⟨[], List.forall_mem_nil _, rfl⟩
  | @child v c hv hvisible hr hc ih =>
      obtain ⟨ps, hps, hroot⟩ := ih
      obtain ⟨before, after, hchildren⟩ := List.append_of_mem hc
      have hfill : Slot.fill ⟨v.node, before, after⟩ c = v.node := by
        rw [Slot.fill, ← hchildren, Node.withChildren_children]
      have hopen : Slot.Open s ⟨v.node, before, after⟩ :=
        ⟨hvisible, Route.isContainer_iff.mpr hr⟩
      refine ⟨⟨v.node, before, after⟩ :: ps, List.forall_mem_cons.mpr ⟨hopen, hps⟩, ?_⟩
      rw [fillIn, hfill]
      exact hroot

/-! ### Nodes that are alike -/

/-- The second node gives what the first one gives, and what is around them sees the same of both. -/
structure Alike (s : Setting) (n n' : Node) : Prop where
  layer : n'.layer? = n.layer?
  radio : n'.propertiesOf? Container.radio = n.propertiesOf? Container.radio
  selector : (Route.ofNode s.catalogs.components n').selector? =
    (Route.ofNode s.catalogs.components n).selector?
  assemble : ∀ origin f, n.assemble s origin = .ok f → n'.assemble s origin = .ok f

section
variable {s : Setting} {n n' : Node}

/-- A container is like itself with other children. -/
theorem alike_withChildren {cs : List Node} (hv : n.isVisible)
    (hr : (Route.ofNode s.catalogs.components n).isContainer)
    (hstart : (n.withChildren cs).start s = n.start s)
    (hcs : ∀ o c, assembleAll s o n.children = .ok c → assembleAll s o cs = .ok c) :
    Alike s n (n.withChildren cs) where
  layer := n.layer?_withChildren cs
  radio := n.propertiesOf?_withChildren cs Container.radio
  selector := by
    have hroute := Route.ofNode_withChildren s.catalogs.components n cs
    rw [Node.start, hroute] at hstart
    rw [hroute]
    exact Route.selector?_withChildren hstart
  assemble _ _ h := Node.assemble_withChildren hv hr hstart hcs h

namespace Alike
variable (h : Alike s n n')
include h

theorem bindOrigin (origin : Option Point) (f : Fragment) :
    f.bindOrigin s origin n' = f.bindOrigin s origin n := by
  unfold Fragment.bindOrigin
  rw [h.selector]

theorem fill {p : Slot} (hp : p.Open s) : Alike s (p.fill n) (p.fill n') := by
  have hstart := p.start_fill s h.radio
  rw [p.fill_eq n n'] at hstart ⊢
  refine alike_withChildren (Slot.isVisible_fill hp n) (Slot.isContainer_fill hp n) hstart ?_
  intro o c hc
  rw [Slot.children_fill hp] at hc
  obtain ⟨b, g, a, hb, hg, ha, rfl⟩ := assembleAll_between.mp hc
  exact assembleAll_between.mpr ⟨b, g, a, hb, h.assemble o g hg, ha, by rw [h.bindOrigin]⟩

/-- Nodes that are alike make the same of the scene around them. -/
theorem fillIn {ps : List Slot} (hps : ∀ p ∈ ps, p.Open s) :
    Alike s (fillIn ps n) (fillIn ps n') := by
  induction ps generalizing n n' with
  | nil => exact h
  | cons p ps ih =>
      obtain ⟨hp, hps⟩ := List.forall_mem_cons.mp hps
      exact ih (h.fill hp) hps

end Alike

end

end Handoff
