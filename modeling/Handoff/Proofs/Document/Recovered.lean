import Handoff.Proofs.Component.Closed
import Handoff.Proofs.Component.Sheet
import Handoff.Proofs.Document.Format
import Handoff.Proofs.Script.Literals

/-!
# The sections of a document

The sections of a document are found again by their tags.  No text of the design brings a tag of
another section about in the markup, where it is escaped (`markupBody_generate`), or in the style
sheet, where it leaves class characters only (`styleBody_generate`).

A script quotes texts as they are, but for quotes, backslashes and control characters.  So the
sections of a component are recovered if, and only if, no such text closes the script or begins a
style sheet (`recovered_generate_iff`).  The label of a chip can do either
(`not_recovered_closingLabel`).
-/

namespace Handoff
open Document (MarkupBody ScriptBody StyleBody assembled block? closing scriptBlock scriptMark
  styleBlock styleMark tagMark_marks without)
open Markup (Bare Tag)
open Script (Statement)
open Text (Avoids)

/-! ### Markup and style sheets -/

/-- A plain setting whose modules are named without a tag. -/
structure Setting.Tagless (s : Setting) : Prop extends s.Plain where
  library : '<' ∉ s.options.library.toList
  iconModule : '<' ∉ s.options.iconModule.toList

/-- The elements of components are called neither `script` nor `style`. -/
theorem Visit.head?_name_tags (s : Setting) (v : Visit) :
    ∀ t ∈ v.tags s, t.name.toList.head? ≠ some 's' := by
  have hexport : ∀ w : Widget, w.exportName.toList.head? ≠ some 's' := by
    intro w
    cases w <;> decide
  rw [tags]
  split
  · cases v.route s with
    | icon => exact List.forall_mem_singleton.mpr (by decide : "Icon".toList.head? ≠ some 's')
    | widget i =>
        rw [Route.tags, WidgetInstance.tags]
        cases Widget.names.lookup i.layer.name with
        | none => exact List.forall_mem_nil _
        | some w =>
            refine List.forall_mem_cons.mpr ⟨hexport w, fun t ht => ?_⟩
            cases w with
            | tabs =>
                obtain ⟨ps, -, rfl⟩ := List.mem_map.mp ht
                exact (by decide : "TabItem".toList.head? ≠ some 's')
            | button | checkbox | radio | switch | textInput | numberInput | dateInput | timeInput
            | dateTimeInput | select | formLabel | formHelpMessage | textarea | avatar | spinner
            | chip => cases ht
    | autolayout c =>
        rw [Route.tags, List.forall_mem_singleton, c.tag_name]
        split <;> decide
    | text => exact List.forall_mem_singleton.mpr (by decide : "p".toList.head? ≠ some 's')
    | frame | group | rectangle | ellipse | line =>
        exact List.forall_mem_singleton.mpr (by decide : "div".toList.head? ≠ some 's')
    | skip => exact List.forall_mem_nil _
  · exact List.forall_mem_nil _

theorem markupBody_generate {s : Setting} (hs : s.Plain) {root : Node} {f : Fragment}
    (h : root.generate s = .ok f) : MarkupBody f.markup.toList := by
  have hwritten := written_generate hs h
  have htags : ∀ t ∈ (root.visits s none).flatMap (Visit.tags s),
      t.name.toList.head? ≠ some 's' := by
    intro t ht
    obtain ⟨v, -, ht⟩ := List.mem_flatMap.mp ht
    exact v.head?_name_tags s t ht
  exact ⟨hwritten.avoids htags (by decide) "cript".toList,
    hwritten.avoids htags (by decide) "tyle".toList⟩

theorem styleBody_generate {s : Setting} (hs : s.Plain) {root : Node} {f : Fragment}
    (h : root.generate s = .ok f) : StyleBody f.style.toList := by
  have hlt : '<' ∉ f.style.toList := by
    intro hc
    rcases mem_style_generate h hc with hc | hc | ⟨e, he, hc⟩
    · exact absurd hc (by decide)
    · exact absurd hc (by decide)
    · exact (hs.tokens e he).not_mem rfl hc
  obtain ⟨hscript, -, -, hclose⟩ := tagMark_marks
  exact ⟨hclose.avoids hlt, hscript.avoids hlt⟩

/-! ### Scripts -/

/-- The texts of the design that a node puts into the script. -/
def Route.choices : Route → List String
  | widget i =>
    match Widget.names.lookup i.layer.name with
    | some .select => i.options
    | _ => []
  | autolayout c => if c.isRadioGroup then [c.initialChoice] else []
  | icon _ _ | frame _ _ | group _ | text _ _ | rectangle _ _ | ellipse _ _ | line _ _ | skip => []

/-- The texts of the design that a visit puts into the script: the options of a selection, and the
choice that a radio group starts with. -/
def Visit.choices (s : Setting) (v : Visit) : List String :=
  if v.node.isVisible then (v.route s).choices else []

theorem WidgetInstance.selected_subset (i : WidgetInstance) : i.selected ⊆ i.options := by
  rw [selected]
  split
  · exact fun _ h => h
  · exact List.take_subset _ _

theorem Route.mem_choices {s : Setting} {r : Route} {t : String} :
    t ∈ r.choices ↔ ∃ st ∈ (r.piece s false).statements, t ∈ st.strings := by
  cases r with
  | widget i =>
      rw [choices, piece, WidgetInstance.piece]
      cases Widget.names.lookup i.layer.name with
      | none => simp [Piece.empty]
      | some w =>
          cases w with
          | select =>
              have hsub := @i.selected_subset t
              simpa [WidgetInstance.declarations, Setting.importWidgets, Statement.strings,
                Script.Literal.strings] using hsub
          | checkbox | switch | button | radio | textInput | numberInput | dateInput | timeInput
          | dateTimeInput | formLabel | formHelpMessage | textarea | tabs | avatar | spinner
          | chip =>
              simp [WidgetInstance.declarations, WidgetInstance.checkedVariable,
                Setting.importWidgets, Statement.strings, Script.Literal.strings]
  | autolayout c =>
      rw [choices, piece, Container.piece]
      by_cases hr : c.isRadioGroup
      · simp [hr, Setting.importWidgets, Statement.strings, Script.Literal.strings]
      · simp [hr]
  | icon => simp [choices, piece, iconPiece, Setting.importWidgets, Statement.strings]
  | frame | group | text | rectangle | ellipse | line | skip =>
      simp [choices, piece, framePiece, groupPiece, textPiece, rectanglePiece, ellipsePiece,
        linePiece, shapePiece, Piece.empty]

theorem Visit.mem_choices {s : Setting} {v : Visit} {t : String} :
    t ∈ v.choices s ↔ ∃ st ∈ v.statements s, t ∈ st.strings := by
  rw [choices, statements]
  split
  · exact Route.mem_choices
  · simp

theorem WidgetInstance.unmarked_declarations (i : WidgetInstance) (w : Widget) :
    ∀ st ∈ i.declarations w, st.Unmarked := by
  have hvariable : ∀ {kind role : String} (value : Script.Literal), Bare kind.toList →
      Bare role.toList → (Statement.declare (i.stateVariable kind role) value).Unmarked :=
    fun _ hk hr => (i.bare_stateVariable hk hr).not_mem rfl
  cases w with
  | checkbox | switch =>
      exact List.forall_mem_singleton.mpr (hvariable _ (by decide) (by decide))
  | select =>
      exact List.forall_mem_cons.mpr ⟨hvariable _ (by decide) (by decide),
        List.forall_mem_singleton.mpr (hvariable _ (by decide) (by decide))⟩
  | button | radio | textInput | numberInput | dateInput | timeInput | dateTimeInput | formLabel
  | formHelpMessage | textarea | tabs | avatar | spinner | chip => exact List.forall_mem_nil _

theorem Setting.Tagless.unmarked_importWidgets {s : Setting} (hs : s.Tagless) {names : List String}
    (h : ∀ n ∈ names, '<' ∉ n.toList) : (s.importWidgets names).Unmarked :=
  ⟨h, hs.library⟩

/-- Nothing but quoted texts begins a tag in the statements of a node. -/
theorem Route.unmarked_piece {s : Setting} (hs : s.Tagless) (n : Node) :
    ∀ st ∈ ((ofNode s.catalogs.components n).piece s false).statements, st.Unmarked := by
  cases hr : ofNode s.catalogs.components n with
  | icon l glyphs =>
      have hname : '<' ∉ l.name.toList := (hs.bare_icon (isIcon_of_ofNode hr)).not_mem rfl
      simp only [piece, iconPiece, List.forall_mem_cons, List.not_mem_nil, false_imp_iff,
        implies_true, and_true]
      exact ⟨hs.unmarked_importWidgets (by decide), ⟨by simpa using hname, hs.iconModule⟩⟩
  | widget i =>
      rw [piece, WidgetInstance.piece]
      cases Widget.names.lookup i.layer.name with
      | none => exact List.forall_mem_nil _
      | some w =>
          have himports : ∀ n ∈ WidgetInstance.imports w, '<' ∉ n.toList := by
            cases w <;> decide
          exact List.forall_mem_cons.mpr
            ⟨hs.unmarked_importWidgets himports, i.unmarked_declarations w⟩
  | autolayout c =>
      rw [piece, Container.piece]
      by_cases hradio : c.isRadioGroup
      · simp only [if_pos hradio, List.forall_mem_cons, List.not_mem_nil, false_imp_iff,
          implies_true, and_true]
        exact ⟨hs.unmarked_importWidgets (by decide), c.bare_choice.not_mem rfl⟩
      · simp [hradio]
  | frame | group | text | rectangle | ellipse | line | skip => exact List.forall_mem_nil _

theorem Visit.unmarked_statements {s : Setting} (hs : s.Tagless) (v : Visit) :
    ∀ st ∈ v.statements s, st.Unmarked := by
  rw [statements]
  split
  · exact Route.unmarked_piece hs v.node
  · exact List.forall_mem_nil _

/-- A tag begins in the script of a component where it begins in a choice. -/
theorem avoids_script_generate_iff {s : Setting} (hs : s.Tagless) {root : Node} {f : Fragment}
    (h : root.generate s = .ok f) {mark : List Char} (hm : Text.TagMark mark) :
    Avoids mark f.script.toList ↔
      ∀ v ∈ root.visits s none, ∀ t ∈ v.choices s, Avoids mark t.toList := by
  have hunmarked : ∀ st ∈ root.statements s, st.Unmarked := by
    intro st hst
    obtain ⟨v, -, hst⟩ := List.mem_flatMap.mp hst
    exact v.unmarked_statements hs st hst
  rw [script_generate h, Script.avoids_render_iff hm hunmarked]
  constructor
  · intro hav v hv t ht
    obtain ⟨st, hst, ht⟩ := Visit.mem_choices.mp ht
    exact hav st (List.mem_flatMap.mpr ⟨v, hv, hst⟩) t ht
  · intro hav st hst t ht
    obtain ⟨v, hv, hst⟩ := List.mem_flatMap.mp hst
    exact hav v hv t (Visit.mem_choices.mpr ⟨st, hst, ht⟩)

/-! ### Recovered sections -/

/-- The blocks that are found in the document of a component are those that it was composed of, and
its markup is left. -/
structure Fragment.Recovered (f : Fragment) : Prop where
  script : ∃ after, block? "script" f.document.toList =
    some ⟨" lang=\"ts\"".toList, f.script.toList, [], after⟩
  style : ∃ before, block? "style" f.document.toList = some ⟨[], f.style.toList, before, []⟩
  markup : Text.trim (without "style" (without "script" f.document.toList)) =
    Text.trim f.markup.toList

/-- Beside markup and a style sheet that begin no block, it takes a script that does not either. -/
theorem Fragment.recovered_iff {f : Fragment} (hm : MarkupBody f.markup.toList)
    (ht : StyleBody f.style.toList) : f.Recovered ↔ ScriptBody f.script.toList := by
  have hb : Text.Blank [' '] := by decide
  constructor
  · rintro ⟨⟨after, hscript⟩, ⟨before, hstyle⟩, -⟩
    obtain ⟨-, -, hclosing⟩ := Document.of_block?_eq_some hscript
    obtain ⟨hdocument, hbefore, -⟩ := Document.of_block?_eq_some hstyle
    -- the style block ends the document, so what it is found behind is the script and the markup
    have hcomposed : f.document.toList = (scriptBlock (some f.script.toList) ++
        ([' '] ++ (f.markup.toList ++ [' ']))) ++ styleBlock (some f.style.toList) :=
      f.document_eq.trans (List.append_assoc _ _ _).symm
    have hfound : f.document.toList = before ++ styleBlock (some f.style.toList) := by
      rw [hdocument]
      simp [Document.block, Document.opening]
    have hbefore_eq := List.append_cancel_right (hfound.symm.trans hcomposed)
    refine ⟨hclosing, hbefore.of_isInfix ?_⟩
    rw [hbefore_eq]
    exact ⟨Document.opening "script" " lang=\"ts\"",
      closing "script" ++ ([' '] ++ (f.markup.toList ++ [' '])), by simp [Document.block]⟩
  · intro hs
    have hm' := hm.between hb hb
    have hs' : ∀ s ∈ some f.script.toList, ScriptBody s := by simpa using hs
    have ht' : ∀ t ∈ some f.style.toList, StyleBody t := by simpa using ht
    have hscriptBlock := Document.block?_script_assembled hs' hm' ht'
    have hstyleBlock := Document.block?_style_assembled hs' hm' ht'
    have hrest := Document.without_blocks_assembled hs' hm' ht'
    rw [← f.document_eq] at hscriptBlock hstyleBlock hrest
    refine ⟨⟨_, hscriptBlock⟩, ⟨_, hstyleBlock⟩, ?_⟩
    rw [hrest, Text.trim_blank_append _ hb, Text.trim_append_blank _ hb]

/-- The sections of a component are recovered if and only if no choice closes the script or begins a
style sheet. -/
theorem recovered_generate_iff {s : Setting} (hs : s.Tagless) {root : Node} {f : Fragment}
    (h : root.generate s = .ok f) :
    f.Recovered ↔ ∀ v ∈ root.visits s none, ∀ t ∈ v.choices s,
      Avoids (closing "script") t.toList ∧ Avoids styleMark t.toList := by
  obtain ⟨-, hstyle, hclosing, -⟩ := tagMark_marks
  have hbody : ScriptBody f.script.toList ↔
      Avoids (closing "script") f.script.toList ∧ Avoids styleMark f.script.toList :=
    ⟨fun hb => ⟨hb.closing, hb.style⟩, fun hb => ⟨hb.1, hb.2⟩⟩
  rw [Fragment.recovered_iff (markupBody_generate hs.toPlain h) (styleBody_generate hs.toPlain h),
    hbody, avoids_script_generate_iff hs h hclosing, avoids_script_generate_iff hs h hstyle]
  constructor
  · rintro ⟨hc, hst⟩ v hv t ht
    exact ⟨hc v hv t ht, hst v hv t ht⟩
  · intro hav
    exact ⟨fun v hv t ht => (hav v hv t ht).1, fun v hv t ht => (hav v hv t ht).2⟩

/-- A selection of one option. -/
def selection (label : String) : WidgetInstance :=
  ⟨plainLayer "2:1" "Select" true, [], [],
    [.inst (plainLayer "2:2" "Chip" true) (plainBox .none) [("label", .text label)] [] []]⟩

/-- The selection as a scene. -/
def selectScene (label : String) : Node :=
  .inst (selection label).layer (plainBox .none) [] [] (selection label).exposed

theorem choices_selectScene (label : String) :
    ∀ v ∈ (selectScene label).visits builtinSetting none, v.choices builtinSetting = [label] := by
  have hicon : builtinSetting.catalogs.components.isIcon "Select" = false := by decide +kernel
  have hcomponent : builtinSetting.catalogs.components.isComponent "Select" := by decide +kernel
  have hroute :
      Visit.route builtinSetting ⟨none, selectScene label⟩ = .widget (selection label) := by
    simp [Visit.route, selectScene, selection, Route.ofNode, plainLayer, hicon, hcomponent]
  have hlookup : Widget.names.lookup (selection label).layer.name = some .select := by
    simp [Widget.names, List.lookup_cons, selection, plainLayer]
  have hoptions : (selection label).options = [label] := by
    simp [WidgetInstance.options, selection, Node.propertiesOf?, plainLayer, Properties.text,
      Properties.find?, PropertyValue.display]
  have hvisible : (selectScene label).isVisible := rfl
  intro v hv
  rw [Node.visits_eq, Visit.mem_andThen, hroute] at hv
  rcases hv with rfl | ⟨-, hcontainer, -⟩
  · rw [Visit.choices, hroute, if_pos hvisible]
    simp only [Route.choices, hlookup, hoptions]
  · cases hcontainer

theorem tagless_builtinSetting : builtinSetting.Tagless :=
  ⟨plain_builtinSetting, by decide +kernel, by decide +kernel⟩

/-- Other tags do no harm in a label. -/
theorem recovered_generate_selectScene :
    ∃ f, builtinSetting.Tagless ∧ (selectScene "a <b> & </b>").generate builtinSetting = .ok f ∧
      f.Recovered := by
  obtain ⟨f, h⟩ := exists_generate (by decide +kernel :
    ((selectScene "a <b> & </b>").generate builtinSetting).toOption.isSome)
  refine ⟨f, tagless_builtinSetting, h, (recovered_generate_iff tagless_builtinSetting h).mpr ?_⟩
  intro v hv t ht
  rw [choices_selectScene _ v hv, List.mem_singleton] at ht
  rw [ht]
  decide +kernel

/-- A chip whose label closes the script ends the script block too soon. -/
theorem not_recovered_closingLabel :
    ∃ f, (selectScene "</script>").generate builtinSetting = .ok f ∧
      (block? "script" f.document.toList).map (·.body) ≠ some f.script.toList := by
  obtain ⟨f, h⟩ := exists_generate (by decide +kernel :
    ((selectScene "</script>").generate builtinSetting).toOption.isSome)
  refine ⟨f, h, fun hbody => ?_⟩
  obtain ⟨b, hblock, hb⟩ := Option.map_eq_some_iff.mp hbody
  obtain ⟨-, -, hav⟩ := Document.of_block?_eq_some hblock
  rw [hb, avoids_script_generate_iff tagless_builtinSetting h tagMark_marks.2.2.1] at hav
  have hself := Node.self_mem_visits builtinSetting none (selectScene "</script>")
  have hlabel := hav _ hself "</script>" (by rw [choices_selectScene _ _ hself]; simp)
  exact hlabel ⟨[], [], by decide +kernel⟩

end Handoff
