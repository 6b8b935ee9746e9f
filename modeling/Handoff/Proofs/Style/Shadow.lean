import Handoff.Proofs.Style.Characters
import Handoff.Proofs.Text.Parts

/-!
# Shadows

The layers of a shadow are written one behind the other with semicolons, and read back from that
text before they are joined.  No layer holds a semicolon or has a blank at an end, since it consists
of words of the characters of style sheets (`part_shadowLayer`); so each one is read back as it is,
however many there are and whatever numbers they hold (`boxShadow_shadowLayers`).
-/

namespace Handoff.Style
open Text (Part Spaced Word isBlank parts)

/-- A word of the characters of style sheets. -/
structure SheetWord (v : String) : Prop where
  word : Word v.toList
  sheet : ∀ c ∈ v.toList, isSheetChar c

theorem sheetWord_px (x : Float) : SheetWord (px x) := by
  have hunit : "px".toList.all fun c => !isBlank c && isSheetChar c := by decide
  simp only [List.all_eq_true, Bool.and_eq_true, Bool.not_eq_true'] at hunit
  constructor
  · rw [px, String.toList_append]
    exact (word_number x).append fun c hc => (hunit c hc).1
  · rw [px, String.toList_append]
    exact List.forall_mem_append.mpr ⟨fun _ => isSheetChar_number, fun c hc => (hunit c hc).2⟩

theorem sheetWord_toHex (r : Rgba) : SheetWord r.toHex := ⟨word_toHex r, fun _ => isSheetChar_toHex⟩

/-- The values that a layer is written with. -/
def layerValues (s : Shadow) : List String :=
  [px s.offset.x, px s.offset.y, px s.radius, px s.spread, s.color.toHex]

theorem sheetWord_layerValues (s : Shadow) : ∀ v ∈ layerValues s, SheetWord v := by
  simp only [layerValues, List.forall_mem_cons]
  exact ⟨sheetWord_px _, sheetWord_px _, sheetWord_px _, sheetWord_px _, sheetWord_toHex _,
    List.forall_mem_nil _⟩

theorem toList_shadowLayer (s : Shadow) :
    (shadowLayer s).toList = [' '].intercalate ((layerValues s).map String.toList) :=
  String.toList_intercalate

/-- The values of a layer are its words. -/
theorem spaced_shadowLayer (s : Shadow) :
    Spaced ((layerValues s).map String.toList) (shadowLayer s).toList := by
  rw [toList_shadowLayer]
  refine Text.spaced_intercalate (by simp [layerValues]) ?_
  exact List.forall_mem_map.mpr fun v hv => (sheetWord_layerValues s v hv).word

theorem isSheetChar_shadowLayer {s : Shadow} {c : Char} (h : c ∈ (shadowLayer s).toList) :
    isSheetChar c := by
  rw [toList_shadowLayer] at h
  rcases Text.mem_or_of_mem_intercalate h with h | ⟨w, hw, h⟩
  · rw [List.mem_singleton.mp h]
    decide
  · obtain ⟨v, hv, rfl⟩ := List.mem_map.mp hw
    exact (sheetWord_layerValues s v hv).sheet c h

theorem part_shadowLayer (s : Shadow) : Part ';' (shadowLayer s).toList where
  ne_nil := (spaced_shadowLayer s).text_ne_nil
  trimmed := (spaced_shadowLayer s).trimmed
  sep_not_mem h := absurd (isSheetChar_shadowLayer h) (by decide)

/-- The layers are what stands between the semicolons. -/
theorem parts_shadowLayers (effects : List Effect) :
    parts ';' (shadowLayers effects).toList =
      (dropShadows effects).map fun s => (shadowLayer s).toList := by
  rw [shadowLayers]
  induction dropShadows effects with
  | nil => rfl
  | cons s shadows ih =>
      have hcons : (String.join ((s :: shadows).map fun s => shadowLayer s ++ "; ")).toList =
          (shadowLayer s).toList ++ ';' ::
            ([' '] ++ (String.join (shadows.map fun s => shadowLayer s ++ "; ")).toList) := by
        simp
      rw [hcons, (part_shadowLayer s).parts_cons rfl, Text.parts_blank_append rfl (by decide), ih,
        List.map_cons]

/-- The shadow of effects is made of one layer for each drop shadow. -/
theorem boxShadow_eq (effects : List Effect) :
    boxShadow (shadowLayers effects) =
      if dropShadows effects = [] then none
      else some (", ".intercalate ((dropShadows effects).map shadowLayer)) := by
  have hparts := parts_shadowLayers effects
  rw [parts] at hparts
  rw [boxShadow, hparts]
  simp only [List.isEmpty_iff, List.map_eq_nil_iff, List.map_map, Function.comp_def,
    String.ofList_toList]

theorem dropShadows_eq_nil_iff {effects : List Effect} :
    dropShadows effects = [] ↔ ∀ s, Effect.dropShadow s ∉ effects := by
  rw [dropShadows, List.filterMap_eq_nil_iff]
  constructor
  · intro h s hs
    cases h _ hs
  · intro h e he
    cases e with
    | dropShadow s => exact absurd he (h s)
    | other => rfl

/-- The offsets, the blur and the spread in pixels, and the colour. -/
theorem shadowLayer_eq (s : Shadow) :
    shadowLayer s = number s.offset.x ++ "px " ++ number s.offset.y ++ "px " ++
      number s.radius ++ "px " ++ number s.spread ++ "px " ++ s.color.toHex := by
  simp [shadowLayer, px, String.intercalate_cons_cons, String.append_assoc]

theorem map_dropShadows (effects : List Effect) (layer : Shadow → String) :
    (dropShadows effects).map layer = effects.filterMap fun
      | .dropShadow s => some (layer s)
      | .other => none := by
  rw [dropShadows, List.map_filterMap]
  refine List.filterMap_congr fun e _ => ?_
  cases e <;> rfl

/-- There is a shadow if there is a drop shadow.  Its layers are those of the drop shadows in order:
none of them is lost, split or run into another where they are read back. -/
theorem boxShadow_shadowLayers (effects : List Effect) :
    ∃ layers, layers = (effects.filterMap fun
        | .dropShadow s => some (number s.offset.x ++ "px " ++ number s.offset.y ++ "px " ++
            number s.radius ++ "px " ++ number s.spread ++ "px " ++ s.color.toHex)
        | .other => none) ∧
      (boxShadow (shadowLayers effects) = none ↔ ∀ s, Effect.dropShadow s ∉ effects) ∧
      ((∃ s, Effect.dropShadow s ∈ effects) →
        boxShadow (shadowLayers effects) = some (", ".intercalate layers)) ∧
      parts ';' (shadowLayers effects).toList = layers.map String.toList := by
  have hlayers := map_dropShadows effects shadowLayer
  simp only [shadowLayer_eq] at hlayers
  refine ⟨_, hlayers, ?_, ?_, ?_⟩
  · rw [boxShadow_eq, ← dropShadows_eq_nil_iff]
    split
    · next h => simp [h]
    · next h => simp [h]
  · rintro ⟨s, hs⟩
    have hne : dropShadows effects ≠ [] := fun h => dropShadows_eq_nil_iff.mp h s hs
    rw [boxShadow_eq, if_neg hne]
  · rw [parts_shadowLayers, List.map_map]
    rfl

/-- A soft shadow below a layer. -/
def softShadow : Shadow where
  color := ⟨0, 0, 0, 0.25⟩
  offset := ⟨0, 4⟩
  radius := 8
  spread := 0

/-- A hard shadow beside a layer. -/
def hardShadow : Shadow where
  color := ⟨1, 0, 0, 1⟩
  offset := ⟨-1, 2⟩
  radius := 0.5
  spread := 1e-7

/-- Two drop shadows with another effect between them. -/
theorem boxShadow_shadowLayers_two :
    (∃ s, Effect.dropShadow s ∈ [.dropShadow softShadow, .other, .dropShadow hardShadow]) ∧
      boxShadow (shadowLayers [.dropShadow softShadow, .other, .dropShadow hardShadow]) =
        some "0px 4px 8px 0px #00000040, -1px 2px 0.5px 1e-7px #ff0000ff" := by
  have h : ∃ s, Effect.dropShadow s ∈ [.dropShadow softShadow, .other, .dropShadow hardShadow] :=
    ⟨softShadow, List.mem_cons_self⟩
  obtain ⟨layers, hlayers, -, hshadow, -⟩ := boxShadow_shadowLayers _
  refine ⟨h, (hshadow h).trans ?_⟩
  rw [hlayers]
  decide +kernel

end Handoff.Style
