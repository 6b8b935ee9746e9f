import Handoff.Proofs.Component.Nesting
import Handoff.Proofs.Json.Texts
import Handoff.Proofs.Naming.Slug
import Handoff.Proofs.Script.Declarations
import Handoff.Proofs.Script.Decoding

/-!
# Texts of the design in declarations

The script of a component holds texts of the design only in the declarations of selections and of
groups of radio buttons.  Formatting a script splits it into statements, and does not know where a text
begins and ends but by the scan of quotes and brackets.

Whatever the texts are, a declaration is one statement, and its literals are read back as the texts:
the options of a selection as JSON, the choice of a group as a text between single quotes, in which
there is no blank (`declared_texts`).
-/

namespace Handoff
open Script (Plain Statement plain_append single_declare statements_render unquote)
open Text (isBlank)

theorem plain_stateName {kind role : String} (hk : Plain kind.toList) (hr : Plain role.toList)
    (id : String) : Plain (stateName kind id ++ role).toList := by
  have hdigest : Plain (shortDigest id).toList := fun c hc =>
    (by decide : Plain Text.hexAlphabet) c (mem_hexAlphabet_of_mem_shortDigest c hc)
  have happ : (stateName kind id ++ role).toList =
      kind.toList ++ (['_'] ++ ((shortDigest id).toList ++ role.toList)) := by simp [stateName]
  rw [happ]
  exact plain_append.mpr ⟨hk, plain_append.mpr ⟨by decide, plain_append.mpr ⟨hdigest, hr⟩⟩⟩

/-! ### Groups of radio buttons -/

/-- A text without blanks has none between quotes. -/
theorem isBlank_of_mem_literal {t : String} (ht : ∀ c ∈ t.toList, isBlank c = false) :
    ∀ c ∈ (Script.Literal.text t).render.toList, isBlank c = false := by
  have hescape : ∀ c, isBlank c = false → ∀ d ∈ Script.escapeSingle c, isBlank d = false := by
    intro c hc
    rw [Script.escapeSingle]
    split_ifs
    · exact List.forall_mem_cons.mpr ⟨rfl, List.forall_mem_singleton.mpr rfl⟩
    · exact List.forall_mem_cons.mpr ⟨rfl, List.forall_mem_singleton.mpr rfl⟩
    · simpa using hc
  intro c hc
  rw [Script.toList_render_text, List.mem_append, List.mem_cons, List.mem_singleton] at hc
  rcases hc with (rfl | hc) | rfl
  · rfl
  · obtain ⟨d, hd, hc⟩ := List.mem_flatMap.mp hc
    exact hescape d (ht d hd) c hc
  · rfl

namespace Container

theorem isBlank_of_mem_initialChoice (c : Container) :
    ∀ x ∈ c.initialChoice.toList, isBlank x = false := by
  rw [initialChoice]
  cases c.checked? with
  | none => simp
  | some ps => exact isBlank_of_mem_slug

/-- A group declares its choice. -/
def declaration (c : Container) : Statement := .declare c.choice (.text c.initialChoice)

theorem single_declaration (c : Container) : Script.Single c.declaration.body.toList :=
  single_declare (plain_stateName (by decide) (by decide) c.layer.id) _

end Container

/-! ### Selections -/

namespace WidgetInstance

theorem single_declarations (i : WidgetInstance) :
    ∀ d ∈ i.declarations .select, Script.Single d.body.toList := by
  intro d hd
  simp only [declarations, List.mem_cons, List.not_mem_nil, or_false] at hd
  rcases hd with rfl | rfl
  · exact single_declare (plain_stateName (by decide) (by decide) i.layer.id) _
  · exact single_declare (plain_stateName (by decide) (by decide) i.layer.id) _

theorem selected_eq (i : WidgetInstance) :
    i.selected = if i.properties.flag "multiselect" then i.options else i.options.head?.toList := by
  rw [selected]
  split
  · rfl
  · cases i.options <;> rfl

end WidgetInstance

/-! ### Both -/

/-- The declarations of selections and of groups of radio buttons are split into themselves, and their
literals hold the labels of chips and the slug of a label. -/
theorem declared_texts :
    (∀ (s : Setting) (i : WidgetInstance), i.layer.name = "Select" →
      ∃ (labels : List String) (options selected : String),
        labels = (i.exposed.filterMap (·.propertiesOf? "Chip")).map (·.text "label") ∧
        (i.piece s).statements = s.importWidgets ["Select"] :: i.declarations .select ∧
        Script.statements (Script.render (i.declarations .select)).toList =
          (i.declarations .select).map (·.body.toList) ∧
        (i.declarations .select).map (·.body) =
          ["let " ++ i.stateVariable "select" "Options" ++ " = " ++ options,
            "let " ++ i.stateVariable "select" "Selected" ++ " = " ++ selected] ∧
        Json.Value.ofText? options = some (.array (labels.map .string)) ∧
        Json.Value.ofText? selected = some (.array
          ((if i.properties.flag "multiselect" then labels else labels.head?.toList).map .string))) ∧
    ∀ (s : Setting) (grouped : Bool) (c : Container), c.isRadioGroup →
      ∃ (d : Statement) (literal : String),
        (c.piece s grouped).statements = [s.importWidgets ["RadioGroup"], d] ∧
        Script.statements (Script.render [d]).toList = [d.body.toList] ∧
        d.body = "let " ++ c.choice ++ " = " ++ literal ∧
        (∀ x ∈ literal.toList, isBlank x = false) ∧
        unquote literal.toList = some
          (match (c.children.filterMap (·.propertiesOf? "Radio")).find? (·.flag "checked") with
            | some ps => (slug (ps.text "label")).toList
            | none => []) := by
  constructor
  · intro s i hi
    refine ⟨i.options, _, _, rfl, ?_, statements_render i.single_declarations, rfl,
      Json.ofText?_texts i.options, ?_⟩
    · have hlookup : Widget.names.lookup "Select" = some .select := rfl
      rw [WidgetInstance.piece, hi, hlookup]
      rfl
    · rw [← WidgetInstance.selected_eq]
      exact Json.ofText?_texts i.selected
  · intro s grouped c hc
    refine ⟨c.declaration, _, ?_, statements_render (by simpa using c.single_declaration), rfl,
      isBlank_of_mem_literal c.isBlank_of_mem_initialChoice, ?_⟩
    · rw [Container.piece, if_pos hc]
      rfl
    · rw [Script.Literal.render, Script.unquote_singleQuoted, Container.initialChoice,
        Container.checked?, Container.radio]
      split
      · next ps hps => rw [hps, Option.map_some, Option.getD_some]
      · next hnone => rw [hnone, Option.map_none, Option.getD_none, String.toList_empty]

/-- A selection of two chips whose labels look like the end of the list and of the statement. -/
def awkwardSelection : WidgetInstance where
  layer := plainLayer "2:1" "Select" true
  properties := []
  children := []
  exposed := [
    .inst (plainLayer "2:2" "Chip" true) (plainBox .none) [("label", .text "\"]; let")] [] [],
    .inst (plainLayer "2:3" "Chip" true) (plainBox .none) [("label", .text "\\\n\x7b")] [] []]

/-- A group whose first button is not checked. -/
def awkwardGroup : Container where
  layer := plainLayer "3:1" "Choices" true
  box := plainBox .horizontal
  children := [
    .inst (plainLayer "3:2" "Radio" true) (plainBox .none) [("label", .text "No")] [] [],
    .inst (plainLayer "3:3" "Radio" true) (plainBox .none)
      [("label", .text "It's; \\ \x7b"), ("checked", .boolean true)] [] []]

theorem declared_texts_awkward :
    awkwardSelection.layer.name = "Select" ∧ awkwardGroup.isRadioGroup ∧
      (∃ options selected : String,
        Script.statements (Script.render (awkwardSelection.declarations .select)).toList =
          (awkwardSelection.declarations .select).map (·.body.toList) ∧
        Json.Value.ofText? options = some (.array [.string "\"]; let", .string "\\\n\x7b"]) ∧
        Json.Value.ofText? selected = some (.array [.string "\"]; let"])) ∧
      ∃ (d : Statement) (literal : String),
        Script.statements (Script.render [d]).toList = [d.body.toList] ∧
        d.body = "let " ++ awkwardGroup.choice ++ " = " ++ literal ∧
        unquote literal.toList = some "it's;\\\x7b".toList := by
  obtain ⟨hselect, hgroup⟩ := declared_texts
  obtain ⟨labels, options, selected, rfl, -, hsplit, -, hoptions, hselected⟩ :=
    hselect builtinSetting awkwardSelection rfl
  obtain ⟨d, literal, -, hsplit', hbody, -, hliteral⟩ :=
    hgroup builtinSetting false awkwardGroup (by decide)
  have hslug : slug "It's; \\ \x7b" = "it's;\\\x7b" := by decide +kernel
  refine ⟨rfl, by decide, ⟨options, selected, hsplit, hoptions, hselected⟩, d, literal, hsplit',
    hbody, ?_⟩
  rw [hliteral, ← hslug]
  rfl

end Handoff
