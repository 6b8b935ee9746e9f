import Handoff.Proofs.Component.Slots
import Handoff.Proofs.Script.Decoding

/-!
# Hidden nodes

A hidden node gives nothing by itself, wherever it is.  Yet the container around it may look at it:
a container whose children are radio buttons becomes a group of them, and starts with the choice of
the first one that is checked, whether it is shown or not.  So a scene is the same without a hidden
node exactly if the container of the node starts the same without it (`generate_withoutHidden_iff`).

Where it does not, the scripts differ.  A script has the statements of a node at a place that
depends on nothing in the node (`script_fillIn`).
-/

namespace Handoff
open Script (Statement singleQuoted_inj)

/-! ### Scripts around a slot -/

section
variable {s : Setting} {origin : Option Point}

/-- The script of a container is its own, and that of its children. -/
theorem Node.script_container {n : Node} {f : Fragment} (hv : n.isVisible)
    (hr : (Route.ofNode s.catalogs.components n).isContainer)
    (h : n.assemble s origin = .ok f) :
    ∃ c, assembleAll s ((n.group? s).map Layer.origin) n.children = .ok c ∧
      f.script = Script.render
        ((Route.ofNode s.catalogs.components n).piece s false).statements ++ c.script := by
  obtain ⟨c, hc, rfl⟩ := assemble_container hv hr h
  refine ⟨c, hc, ?_⟩
  rw [← Route.statements_piece s origin.isSome]
  rfl

/-- What stands around the script of a node in a slot is there with any other node, unless it is
another radio button. -/
theorem Slot.script_fill {p : Slot} (hp : p.Open s) {n : Node} {f : Fragment}
    (h : (p.fill n).assemble s origin = .ok f) :
    ∃ o g before after, n.assemble s o = .ok g ∧ f.script = before ++ g.script ++ after ∧
      ∀ n', n'.propertiesOf? Container.radio = n.propertiesOf? Container.radio →
        ∀ f', (p.fill n').assemble s origin = .ok f' →
          ∃ g', n'.assemble s o = .ok g' ∧ f'.script = before ++ g'.script ++ after := by
  obtain ⟨c, hc, hscript⟩ := Node.script_container (isVisible_fill hp n) (isContainer_fill hp n) h
  rw [children_fill hp] at hc
  obtain ⟨b, g, a, hb, hg, ha, rfl⟩ := assembleAll_between.mp hc
  refine ⟨_, g,
    Script.render ((Route.ofNode s.catalogs.components (p.fill n)).piece s false).statements
      ++ b.script, a.script, hg, ?_, fun n' hradio f' h' => ?_⟩
  · simp only [hscript, Fragment.script_append, Fragment.script_bindOrigin, String.append_assoc]
  · obtain ⟨c', hc', hscript'⟩ :=
      Node.script_container (isVisible_fill hp n') (isContainer_fill hp n') h'
    have hstart := p.start_fill s hradio
    rw [p.fill_eq n n', Node.start, Route.ofNode_withChildren] at hstart
    have hpiece := Route.piece_withChildren (isContainer_fill hp n) hstart s false
    rw [p.fill_eq n n', Node.group?_withChildren, ← p.fill_eq, children_fill hp] at hc'
    obtain ⟨b', g', a', hb', hg', ha', rfl⟩ := assembleAll_between.mp hc'
    obtain rfl : b' = b := Except.ok.inj (hb'.symm.trans hb)
    obtain rfl : a' = a := Except.ok.inj (ha'.symm.trans ha)
    refine ⟨g', hg', ?_⟩
    simp only [hscript', p.fill_eq n n', Route.ofNode_withChildren, hpiece,
      Fragment.script_append, Fragment.script_bindOrigin, String.append_assoc]

theorem script_fillIn {ps : List Slot} (hps : ∀ p ∈ ps, p.Open s) {n : Node} {f : Fragment}
    (h : (fillIn ps n).assemble s origin = .ok f) :
    ∃ o g before after, n.assemble s o = .ok g ∧ f.script = before ++ g.script ++ after ∧
      ∀ n', n'.propertiesOf? Container.radio = n.propertiesOf? Container.radio →
        ∀ f', (fillIn ps n').assemble s origin = .ok f' →
          ∃ g', n'.assemble s o = .ok g' ∧ f'.script = before ++ g'.script ++ after := by
  induction ps generalizing n f with
  | nil =>
      refine ⟨origin, f, "", "", h, by simp, fun n' _ f' h' => ⟨f', h', by simp⟩⟩
  | cons p ps ih =>
      obtain ⟨hp, hps⟩ := List.forall_mem_cons.mp hps
      obtain ⟨o, m, b, a, hm, hf, hout⟩ := ih hps h
      obtain ⟨o', g, b', a', hg, hm', hin⟩ := Slot.script_fill hp hm
      refine ⟨o', g, b ++ b', a' ++ a, hg, ?_, fun n' hradio f' h' => ?_⟩
      · simp only [hf, hm', String.append_assoc]
      · obtain ⟨m', hm'', hf'⟩ := hout (p.fill n') (by simp [Slot.fill]) f' h'
        obtain ⟨g', hg', hscript⟩ := hin n' hradio m' hm''
        exact ⟨g', hg', by simp only [hf', hscript, String.append_assoc]⟩

end

/-! ### Scripts and starts -/

/-- The statements of a container, from how it starts. -/
theorem Container.script_piece (s : Setting) (grouped : Bool) (c : Container) :
    Script.render (c.piece s grouped).statements =
      match c.start with
      | some choice =>
        Script.render [s.importWidgets ["RadioGroup"], .declare c.choice (.text choice)]
      | none => "" := by
  rw [piece, start]
  split
  · rfl
  · rfl

/-- The statements of a container tell how it starts. -/
theorem Container.start_eq_of_script {s : Setting} {grouped : Bool} {c d : Container}
    (hlayer : d.layer = c.layer) (h : Script.render (d.piece s grouped).statements =
      Script.render (c.piece s grouped).statements) : d.start = c.start := by
  have hne (choice : String) : Script.render
      [s.importWidgets ["RadioGroup"], .declare c.choice (.text choice)] ≠ "" := by
    simp [Script.render, Statement.render]
  have hchoice : d.choice = c.choice := by rw [choice, choice, hlayer]
  rw [script_piece, script_piece, hchoice] at h
  cases hc : c.start with
  | none =>
      cases hd : d.start with
      | none => rfl
      | some b =>
          rw [hc, hd] at h
          exact absurd h (hne b)
  | some a =>
      cases hd : d.start with
      | none =>
          rw [hc, hd] at h
          exact absurd h.symm (hne a)
      | some b =>
          rw [hc, hd] at h
          simp only [Script.render, List.map_cons, List.map_nil, String.join_cons, String.join_nil,
            Statement.render, Statement.body, Script.Literal.render, String.append_right_inj,
            String.append_left_inj, singleQuoted_inj] at h
          rw [h]

theorem Route.start_eq_of_script {s : Setting} {r : Route} {cs : List Node}
    (h : Script.render ((r.withChildren cs).piece s false).statements =
      Script.render (r.piece s false).statements) : (r.withChildren cs).start = r.start := by
  cases r with
  | autolayout c => exact Container.start_eq_of_script rfl h
  | icon | widget | frame | group | text | rectangle | ellipse | line | skip => rfl

/-! ### Leaving out hidden nodes -/

section
variable {s : Setting} {n h : Node} {before after : List Node} (hv : n.isVisible)
  (hr : (Route.ofNode s.catalogs.components n).isContainer)
  (hchildren : n.children = before ++ h :: after) (hh : h.isVisible = false)
include hv hr hchildren hh

/-- A container that starts the same without a hidden child is like itself without it. -/
theorem alike_withoutHidden
    (hstart : (n.withChildren (before ++ after)).start s = n.start s) :
    Alike s n (n.withChildren (before ++ after)) := by
  refine alike_withChildren hv hr hstart fun o c hc => ?_
  rw [hchildren] at hc
  exact assembleAll_of_hidden hh hc

/-- If a container has the same script without a hidden child, it starts the same. -/
theorem start_eq_of_script {origin : Option Point} {f f' : Fragment}
    (hf : n.assemble s origin = .ok f)
    (hf' : (n.withChildren (before ++ after)).assemble s origin = .ok f')
    (hscript : f'.script = f.script) : (n.withChildren (before ++ after)).start s = n.start s := by
  have hroute := Route.ofNode_withChildren s.catalogs.components n (before ++ after)
  have hr' :
      (Route.ofNode s.catalogs.components (n.withChildren (before ++ after))).isContainer := by
    rwa [hroute, Route.isContainer_withChildren]
  obtain ⟨c, hc, hown⟩ := Node.script_container hv hr hf
  obtain ⟨c', hc', hown'⟩ := Node.script_container (by rwa [Node.isVisible_withChildren]) hr' hf'
  rw [hchildren] at hc
  rw [Node.group?_withChildren, Node.children_withChildren hr] at hc'
  -- the children give the same in both cases, so what the container gives by itself is the same
  obtain rfl : c' = c := Except.ok.inj (hc'.symm.trans (assembleAll_of_hidden hh hc))
  rw [hown, hown', String.append_left_inj, hroute] at hscript
  rw [Node.start, hroute]
  exact Route.start_eq_of_script hscript

end

/-- Leaving out a hidden node changes nothing if, and only if, the container that it is directly in
starts the same without it.  Any container that is reached has a place in the scene. -/
theorem generate_withoutHidden_iff {s : Setting} {root : Node} {f : Fragment}
    (hf : root.generate s = .ok f) :
    (∀ v, Reached s root v →
      ∃ ps : List Slot, (∀ p ∈ ps, p.Open s) ∧ root = fillIn ps v.node) ∧
    ∀ (ps : List Slot) (n h : Node) (before after : List Node), (∀ p ∈ ps, p.Open s) →
      root = fillIn ps n → n.isVisible → (Route.ofNode s.catalogs.components n).isContainer →
      n.children = before ++ h :: after → h.isVisible = false →
      ((fillIn ps (n.withChildren (before ++ after))).generate s = .ok f ↔
        (n.withChildren (before ++ after)).start s = n.start s) := by
  refine ⟨fun v => exists_fillIn_of_reached, ?_⟩
  rintro ps n h before after hps rfl hv hr hchildren hh
  obtain ⟨_, hcheck, hassemble⟩ := bind_eq_ok hf
  constructor
  · intro hf'
    obtain ⟨o, g, b, a, hg, hscript, hother⟩ := script_fillIn hps hassemble
    obtain ⟨g', hg', hscript'⟩ :=
      hother _ (n.propertiesOf?_withChildren _ _) f (Node.generate_eq_ok hf')
    refine start_eq_of_script hv hr hchildren hh hg hg' ?_
    rwa [hscript, String.append_left_inj, String.append_right_inj, eq_comm] at hscript'
  · intro hstart
    have halike := (alike_withoutHidden hv hr hchildren hh hstart).fillIn hps
    rw [Node.generate, hcheck]
    exact halike.assemble none f hassemble

/-- The hidden layer of the sample is not missed. -/
theorem generate_withoutHidden_nestedScene :
    ∃ f h before, nestedScene.children = before ++ [h] ∧ h.isVisible = false ∧
      nestedScene.generate builtinSetting = .ok f ∧
      (nestedScene.withChildren before).generate builtinSetting = .ok f := by
  obtain ⟨f, hf⟩ := exists_generate_nestedScene
  have hleft := (generate_withoutHidden_iff hf).2 [] nestedScene _ [_, _] [] (List.forall_mem_nil _)
    rfl rfl rfl rfl rfl
  exact ⟨f, _, [_, _], rfl, rfl, hf, hleft.mpr rfl⟩

/-- A radio button that is checked. -/
def checkedButton (id label : String) (visible : Bool) : Node :=
  .inst (plainLayer id "Radio" visible) (plainBox .none)
    [("label", .text label), ("checked", .boolean true), ("showLabel", .boolean true)] [] []

/-- A frame of radio buttons. -/
def choicesScene (buttons : List Node) : Node :=
  .frame .frame (plainLayer "2:1" "Choices" true) (plainBox .horizontal) buttons

/-- Of two buttons that are checked, the first one is hidden. -/
def hiddenChoiceScene : Node :=
  choicesScene [checkedButton "2:2" "Yes" false, checkedButton "2:3" "No" true]

theorem exists_generate_hiddenChoiceScene :
    ∃ f, hiddenChoiceScene.generate builtinSetting = .ok f :=
  exists_generate (by decide +kernel)

/-- Without the hidden button, the group starts with the other choice. -/
theorem changed_withoutHidden_hiddenChoiceScene :
    (checkedButton "2:2" "Yes" false).isVisible = false ∧
      ∃ f, hiddenChoiceScene.generate builtinSetting = .ok f ∧
        (choicesScene [checkedButton "2:3" "No" true]).generate builtinSetting ≠ .ok f := by
  obtain ⟨f, hf⟩ := exists_generate_hiddenChoiceScene
  refine ⟨rfl, f, hf, fun hf' => ?_⟩
  -- the scripts would be the same, and tell the same start
  have hstart : (hiddenChoiceScene.withChildren ([] ++ [checkedButton "2:3" "No" true])).start
      builtinSetting = hiddenChoiceScene.start builtinSetting :=
    start_eq_of_script (h := checkedButton "2:2" "Yes" false) rfl rfl rfl rfl
      (Node.generate_eq_ok hf) (Node.generate_eq_ok hf') rfl
  exact absurd hstart (by decide +kernel)

end Handoff
