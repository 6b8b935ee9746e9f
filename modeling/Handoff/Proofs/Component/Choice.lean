import Handoff.Proofs.Component.Hidden
import Handoff.Proofs.Markup.Entities

/-!
# Groups of radio buttons

A group of radio buttons keeps the choice in a variable, and every button has the value that the
variable takes when it is chosen.  The container gives the variable a value to start with, and the
widget gives the button its own; both are slugs of labels, read from the same properties.

The container takes the first button that is checked, and its label; the widget takes the label only
if it is shown.  So the group starts with the value of the first checked button that can be seen
exactly if these two slugs are the same (`choice_agrees_iff`).
-/

namespace Handoff
open Markup (Attribute Tag attribute? attributeMark attribute?_append)
open Script (unquote unquote_singleQuoted)
open Text (Avoids)

/-! ### The button -/

/-- A radio button that is shown, and checked. -/
def Node.isShownChoice (n : Node) : Bool :=
  n.isVisible && (n.propertiesOf? Container.radio).any (·.flag "checked")

theorem exists_of_isShownChoice {n : Node} (h : n.isShownChoice) : n.isVisible ∧
    ∃ ps, n.propertiesOf? Container.radio = some ps ∧ ps.flag "checked" := by
  rw [Node.isShownChoice, Bool.and_eq_true] at h
  exact ⟨h.1, Option.any_eq_true _ _ |>.mp h.2⟩

/-- A group with a checked button that is shown has a checked button. -/
theorem Container.exists_checked? {c : Container} {r : Node} (hr : r ∈ c.children)
    (h : r.isShownChoice) : ∃ ps, c.checked? = some ps := by
  obtain ⟨-, ps, hps, hchecked⟩ := exists_of_isShownChoice h
  rw [← Option.isSome_iff_exists, checked?, List.find?_isSome]
  exact ⟨ps, List.mem_filterMap.mpr ⟨r, hr, hps⟩, hchecked⟩

theorem Route.ofNode_radio {n : Node} {ps : Properties}
    (h : n.propertiesOf? Container.radio = some ps) :
    ∃ i, ofNode .builtin n = widget i ∧ i.layer.name = Container.radio ∧ i.properties = ps := by
  have hicon : ComponentCatalog.builtin.isIcon Container.radio = false := by decide +kernel
  have hcomponent : ComponentCatalog.builtin.isComponent Container.radio := by decide +kernel
  cases n with
  | inst l b qs cs es =>
      simp only [Node.propertiesOf?] at h
      split at h
      · next hname =>
          refine ⟨⟨l, qs, cs, es⟩, ?_, hname, Option.some.inj h⟩
          simp only [ofNode, hname, hicon, hcomponent, Bool.false_eq_true, if_false, if_true]
      · cases h
  | frame | group | text | shape | unsupported => cases h

namespace WidgetInstance
variable {i : WidgetInstance} (h : i.layer.name = Container.radio)
include h

theorem markup_radio (s : Setting) : (i.piece s).markup =
    (Tag.mk "Radio" [i.flagAttribute "disabled", .text "value" (slug i.shownLabel)]).around
      (Markup.escapeText i.shownLabel) := by
  have hlookup : Widget.names.lookup Container.radio = some .radio := rfl
  rw [piece, h, hlookup]
  rfl

/-- The value of a radio button is the slug of the label that it is shown with. -/
theorem attribute?_radio (s : Setting) : attribute? "value" (i.piece s).markup.toList =
    some (slug i.shownLabel).toList := by
  -- the attribute before has no `value` in it
  have hbefore : Avoids (attributeMark "value")
      ("<Radio" ++ (i.flagAttribute "disabled").render).toList := by
    rw [flagAttribute]
    unfold Avoids
    cases i.properties.flag "disabled" <;> decide +kernel
  have happ : (i.piece s).markup.toList =
      ("<Radio" ++ (i.flagAttribute "disabled").render).toList ++
        ((Attribute.text "value" (slug i.shownLabel)).render.toList ++
          '>' :: ((Markup.escapeText i.shownLabel).toList ++ (Tag.closing "Radio").toList)) := by
    rw [markup_radio h s]
    simp [Tag.around, Tag.opening]
  rw [happ]
  exact attribute?_append (by decide) hbefore _ _

end WidgetInstance

/-! ### The group -/

/-- A container lays out the children of its node. -/
theorem Route.children_of_autolayout {cat : ComponentCatalog} {n : Node} {c : Container}
    (h : ofNode cat n = autolayout c) : c.children = n.children := by
  cases n with
  | frame role l b cs =>
      cases role with
      | frame | component =>
          simp only [ofNode] at h
          split at h
          · obtain rfl := autolayout.inj h
            rfl
          · cases h
      | componentSet => cases h
  | inst l b ps cs es =>
      simp only [ofNode] at h
      split_ifs at h
      obtain rfl := autolayout.inj h
      rfl
  | shape form => cases form <;> cases h
  | group | text | unsupported => cases h

section
variable {s : Setting} {origin : Option Point} {n : Node} {c : Container} {f : Fragment}
  (hv : n.isVisible) (hc : Route.ofNode s.catalogs.components n = .autolayout c)
  (hf : n.assemble s origin = .ok f)
include hv hc hf

/-- The script of a group begins with the variable that keeps the choice. -/
theorem script_radioGroup (hgroup : c.isRadioGroup) :
    ∃ rest, f.script = "import \x7b RadioGroup \x7d from \"" ++ s.options.library ++ "\";\n" ++
      ("let " ++ c.choice ++ " = " ++ (Script.Literal.text c.initialChoice).render ++ ";\n") ++
      rest := by
  have hr : (Route.ofNode s.catalogs.components n).isContainer := by rw [hc]; rfl
  obtain ⟨children, -, hscript⟩ := Node.script_container hv hr hf
  refine ⟨children.script, hscript.trans ?_⟩
  rw [hc, Route.piece, Container.script_piece, Container.start, if_pos hgroup]
  simp only [Setting.importWidgets, Script.render, List.map_cons, List.map_nil, String.join_cons,
    String.join_nil, Script.Statement.render_imports, Script.Statement.render_declare,
    String.append_empty]
  rfl

/-- The markup of a container has that of every child in it. -/
theorem markup_autolayout {r : Node} (hr : r ∈ c.children) :
    ∃ g before after, r.assemble s none = .ok g ∧ f.markup = before ++ g.markup ++ after := by
  have hcontainer : (Route.ofNode s.catalogs.components n).isContainer := by rw [hc]; rfl
  have hgroup : n.group? s = none := by rw [Node.group?, hc]; rfl
  obtain ⟨cf, hcf, hf⟩ := Node.assemble_container hv hcontainer hf
  generalize ((Route.ofNode s.catalogs.components n).piece s origin.isSome).fragment = own at hf
  rw [hgroup, ← Route.children_of_autolayout hc] at hcf
  obtain ⟨before, after, hchildren⟩ := List.append_of_mem hr
  rw [hchildren] at hcf
  obtain ⟨b, g, a, -, hg, -, rfl⟩ := assembleAll_between.mp hcf
  refine ⟨g, own.markup ++ b.markup,
    a.markup ++ Markup.closingTag (own.markup ++ (b.markup ++ (g.markup ++ a.markup))), hg, ?_⟩
  simp only [hf, Fragment.markup_close, Fragment.markup_append, Fragment.markup_bindOrigin,
    String.append_assoc]

end

/-- The value of a radio button that is shown is in what is generated for it. -/
theorem attribute?_assemble_radio {s : Setting} (hs : s.catalogs.components = .builtin)
    {origin : Option Point} {r : Node} {g : Fragment} (hr : r.isShownChoice)
    (hg : r.assemble s origin = .ok g) :
    ∃ i, Route.ofNode s.catalogs.components r = .widget i ∧
      r.propertiesOf? Container.radio = some i.properties ∧
      attribute? "value" g.markup.toList = some (slug i.shownLabel).toList := by
  obtain ⟨hvisible, ps, hps, -⟩ := exists_of_isShownChoice hr
  obtain ⟨i, hi, hname, rfl⟩ := Route.ofNode_radio hps
  rw [← hs] at hi
  rw [Node.assemble_eq] at hg
  rcases Node.complete_cases hg with ⟨hhidden, -⟩ | ⟨-, -, rfl⟩ | ⟨-, hcontainer, -⟩
  · rw [hvisible] at hhidden
    cases hhidden
  · refine ⟨i, hi, hps, ?_⟩
    rw [hi]
    exact WidgetInstance.attribute?_radio hname s
  · rw [hi] at hcontainer
    cases hcontainer

/-- A group with a checked button that can be seen starts with the value of the first such button
if, and only if, the label of the first checked button of all has the same slug as the label that it
is shown with. -/
theorem choice_agrees_iff {s : Setting} (hs : s.catalogs.components = .builtin)
    {origin : Option Point} {n r : Node} {c : Container} {f : Fragment} (hv : n.isVisible)
    (hc : Route.ofNode s.catalogs.components n = .autolayout c) (hgroup : c.isRadioGroup)
    (hr : c.children.find? Node.isShownChoice = some r) (hf : n.assemble s origin = .ok f) :
    ∃ (i : WidgetInstance) (first : Properties) (g : Fragment) (rest before after : String)
        (chosen value : List Char),
      Route.ofNode s.catalogs.components r = .widget i ∧
      r.propertiesOf? Container.radio = some i.properties ∧ c.checked? = some first ∧
      f.script = "import \x7b RadioGroup \x7d from \"" ++ s.options.library ++ "\";\n" ++
        ("let " ++ c.choice ++ " = " ++ (Script.Literal.text c.initialChoice).render ++ ";\n") ++
        rest ∧
      unquote (Script.Literal.text c.initialChoice).render.toList = some chosen ∧
      r.assemble s none = .ok g ∧ f.markup = before ++ g.markup ++ after ∧
      attribute? "value" g.markup.toList = some value ∧
      (chosen = value ↔ slug (first.text "label") = slug i.shownLabel) := by
  have hshown : r.isShownChoice := List.find?_some hr
  obtain ⟨rest, hscript⟩ := script_radioGroup hv hc hf hgroup
  obtain ⟨g, before, after, hg, hmarkup⟩ :=
    markup_autolayout hv hc hf (List.mem_of_find?_eq_some hr)
  obtain ⟨i, hi, hproperties, hvalue⟩ := attribute?_assemble_radio hs hshown hg
  obtain ⟨first, hfirst⟩ := Container.exists_checked? (List.mem_of_find?_eq_some hr) hshown
  refine ⟨i, first, g, rest, before, after, _, _, hi, hproperties, hfirst, hscript,
    unquote_singleQuoted _, hg, hmarkup, hvalue, ?_⟩
  rw [String.toList_inj, Container.initialChoice, hfirst]
  rfl

theorem shownLabel_checkedButton {i : WidgetInstance}
    (h : (checkedButton "2:3" "No" true).propertiesOf? Container.radio = some i.properties) :
    i.shownLabel = "No" := by
  have hproperties : i.properties = [("label", .text "No"), ("checked", .boolean true),
      ("showLabel", .boolean true)] := (Option.some.inj h).symm
  rw [WidgetInstance.shownLabel, hproperties]
  decide +kernel

/-- A group of one checked button starts with its value. -/
theorem choice_agrees_choicesScene :
    ∃ (c : Container) (f g : Fragment) (rest : String),
      Route.ofNode builtinSetting.catalogs.components
        (choicesScene [checkedButton "2:3" "No" true]) = .autolayout c ∧
      (choicesScene [checkedButton "2:3" "No" true]).generate builtinSetting = .ok f ∧
      f.script = "import \x7b RadioGroup \x7d from \"deskblocks\";\n" ++
        "let radio_70a37d8f97Value = 'no';\n" ++ rest ∧
      (checkedButton "2:3" "No" true).assemble builtinSetting none = .ok g ∧
      unquote (Script.Literal.text c.initialChoice).render.toList =
        attribute? "value" g.markup.toList ∧
      attribute? "value" g.markup.toList = some "no".toList := by
  obtain ⟨f, hf⟩ : ∃ f, (choicesScene [checkedButton "2:3" "No" true]).generate builtinSetting =
      .ok f := exists_generate (by decide +kernel)
  obtain ⟨i, first, g, rest, _, _, chosen, value, -, hi, hfirst, hscript, hchosen, hg, -, hvalue,
    hiff⟩ := choice_agrees_iff rfl rfl rfl rfl rfl (Node.generate_eq_ok hf)
  obtain rfl := Option.some.inj hfirst
  have hsame : chosen = value := hiff.mpr (by rw [shownLabel_checkedButton hi]; rfl)
  rw [← hsame, ← hchosen] at hvalue
  refine ⟨_, f, g, rest, rfl, hf, ?_, hg, hvalue.symm, hvalue.trans (by decide +kernel)⟩
  rw [hscript, String.append_left_inj]
  decide +kernel

/-- In a group whose first checked button is hidden, no button has the value that it starts with. -/
theorem choice_differs_hiddenChoiceScene :
    ∃ (c : Container) (r : Node) (f g : Fragment) (rest : String),
      Route.ofNode builtinSetting.catalogs.components hiddenChoiceScene = .autolayout c ∧
      c.isRadioGroup ∧ c.children.find? Node.isShownChoice = some r ∧
      hiddenChoiceScene.generate builtinSetting = .ok f ∧
      f.script = "import \x7b RadioGroup \x7d from \"deskblocks\";\n" ++
        "let radio_70a37d8f97Value = 'yes';\n" ++ rest ∧
      unquote (Script.Literal.text c.initialChoice).render.toList = some "yes".toList ∧
      r.assemble builtinSetting none = .ok g ∧
      attribute? "value" g.markup.toList = some "no".toList := by
  obtain ⟨f, hf⟩ := exists_generate_hiddenChoiceScene
  have hassemble := Node.generate_eq_ok hf
  obtain ⟨rest, hscript⟩ := script_radioGroup rfl rfl hassemble rfl
  obtain ⟨g, _, _, hg, -⟩ :=
    markup_autolayout (r := checkedButton "2:3" "No" true) rfl rfl hassemble (by simp)
  obtain ⟨i, -, hi, hvalue⟩ := attribute?_assemble_radio rfl rfl hg
  have hyes : slug "Yes" = "yes" := by decide +kernel
  have hno : slug "No" = "no" := by decide +kernel
  refine ⟨_, checkedButton "2:3" "No" true, f, g, rest, rfl, rfl, rfl, hf, ?_, ?_, hg, ?_⟩
  · rw [hscript, String.append_left_inj]
    decide +kernel
  · rw [Script.Literal.render, unquote_singleQuoted, ← hyes]
    rfl
  · rw [hvalue, shownLabel_checkedButton hi, hno]

end Handoff
