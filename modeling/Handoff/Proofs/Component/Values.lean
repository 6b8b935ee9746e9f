import Handoff.Proofs.Component.Elements
import Handoff.Proofs.Naming.Class
import Handoff.Proofs.Style.Shadow

/-!
# The texts in style sheets

What selectors, properties and values are written with, and how they are put together.

* `Setting.Sheet`: a text of few characters (`Style.isSheetChar`) and those of tokens.
* `Setting.Value`: such a text with something other than a blank at either end.  Values are put
  together from values with anything of these characters in between (`Value.between`).
* `Setting.Selector`: a value whose blanks are single spaces.
-/

namespace Handoff
open Style (Rule)
open Text (Tight Trimmed Word isBlank)

/-! ### Texts -/

theorem Style.isSheetChar_of_isClassChar {c : Char} (h : isClassChar c) : isSheetChar c := by
  simp only [isClassChar, Bool.or_eq_true, beq_iff_eq] at h
  rcases h with (h | rfl) | rfl
  · simp [isSheetChar, h]
  · decide
  · decide

namespace Setting
open Style (isSheetChar)

/-- A text of the characters of style sheets and of tokens. -/
def Sheet (s : Setting) (v : String) : Prop :=
  ∀ c ∈ v.toList, isSheetChar c ∨ ∃ e ∈ s.catalogs.tokens.entries, c ∈ e.2.toList

variable {s : Setting} {a b m v : String}

theorem sheet_of_forall (h : ∀ c ∈ v.toList, isSheetChar c) : s.Sheet v := fun c hc => .inl (h c hc)

theorem sheet_literal (h : v.toList.all isSheetChar) : s.Sheet v :=
  sheet_of_forall (List.all_eq_true.mp h)

theorem sheet_append : s.Sheet (a ++ b) ↔ s.Sheet a ∧ s.Sheet b := by
  rw [Sheet, String.toList_append]
  exact List.forall_mem_append

/-! ### Values -/

/-- A text of a style sheet that is not empty and has no blanks at its ends. -/
structure Value (s : Setting) (v : String) : Prop where
  sheet : s.Sheet v
  ne_empty : v ≠ ""
  trimmed : Trimmed v.toList

theorem value_literal (h : Style.Keyword v) : s.Value v :=
  ⟨sheet_literal h.1, h.2.1, h.2.2⟩

theorem value_of_word (hs : s.Sheet v) (h : Word v.toList) : s.Value v :=
  ⟨hs, by simpa using h.1, h.trimmed⟩

/-- Two values with anything in between. -/
theorem Value.between (ha : s.Value a) (hm : s.Sheet m) (hb : s.Value b) :
    s.Value (a ++ m ++ b) where
  sheet := sheet_append.mpr ⟨sheet_append.mpr ⟨ha.sheet, hm⟩, hb.sheet⟩
  ne_empty h := hb.ne_empty (String.append_eq_empty_iff.mp h).2
  trimmed := by
    rw [String.toList_append, String.toList_append]
    exact ha.trimmed.append hb.trimmed (by simpa using ha.ne_empty) (by simpa using hb.ne_empty) _

theorem Value.append (ha : s.Value a) (hb : s.Value b) : s.Value (a ++ b) := by
  have hempty : s.Sheet "" := sheet_literal rfl
  have h := ha.between hempty hb
  rwa [String.append_empty] at h

theorem value_intercalate {vs : List String} (hne : vs ≠ []) (ha : s.Sheet a)
    (h : ∀ v ∈ vs, s.Value v) : s.Value (a.intercalate vs) := by
  induction vs with
  | nil => exact absurd rfl hne
  | cons v vs ih =>
      obtain ⟨hv, hvs⟩ := List.forall_mem_cons.mp h
      cases vs with
      | nil =>
          rw [String.intercalate_singleton]
          exact hv
      | cons w vs =>
          rw [String.intercalate_cons_cons]
          exact hv.between ha (ih (by simp) hvs)

@[simp] theorem value_number (x : Float) : s.Value (Style.number x) :=
  value_of_word (sheet_of_forall fun _ => Style.isSheetChar_number) (Style.word_number x)

@[simp] theorem value_px (x : Float) : s.Value (Style.px x) :=
  (value_number x).append (value_literal (by decide))

@[simp] theorem value_rem (x : Float) : s.Value (s.rem x) :=
  (value_number _).append (value_literal (by decide))

@[simp] theorem value_toHex (c : Rgba) : s.Value c.toHex :=
  value_of_word (sheet_of_forall fun _ => Style.isSheetChar_toHex) (Style.word_toHex c)

theorem value_lengths {xs : List Float} (hne : xs ≠ []) :
    s.Value (" ".intercalate (xs.map s.rem)) := by
  refine value_intercalate (by simpa using hne) (sheet_literal (by decide)) fun v hv => ?_
  obtain ⟨x, -, rfl⟩ := List.mem_map.mp hv
  exact value_rem x

/-- Colours are written in digits, or as a reference to a token. -/
@[simp] theorem value_color (paints : List Paint) : s.Value (s.color paints) := by
  have hreference : s.Value (s.catalogs.tokens.reference paints) := by
    rw [TokenCatalog.reference]
    cases hb : s.catalogs.tokens.bound? paints with
    | none => exact value_literal (by decide)
    | some token =>
        obtain ⟨id, hm⟩ := TokenCatalog.exists_of_bound? hb
        have htoken : s.Sheet token := fun c hc => .inr ⟨_, hm, hc⟩
        exact (value_literal (by decide)).between htoken (value_literal (by decide))
  have hliteral : s.Value (literalColor paints) := by
    rw [literalColor]
    split
    · exact value_toHex _
    · exact value_literal (by decide)
  rw [color, TokenCatalog.color]
  split
  · exact hliteral
  · exact hreference

theorem value_shadow {effects : List Effect} (h : Style.shadow effects = some v) : s.Value v := by
  have hlayer : ∀ shadow, s.Value (Style.shadowLayer shadow) := fun shadow =>
    value_intercalate (by simp) (sheet_literal (by decide)) (by simp)
  rw [Style.shadow, Style.boxShadow_eq] at h
  split at h
  · cases h
  · next hne =>
      obtain rfl := Option.some.inj h
      refine value_intercalate (by simpa using hne) (sheet_literal (by decide)) fun v hv => ?_
      obtain ⟨shadow, -, rfl⟩ := List.mem_map.mp hv
      exact hlayer shadow

theorem value_rotation {degrees : Float} (h : Style.rotation degrees = some v) : s.Value v := by
  rw [Style.rotation] at h
  split at h
  · cases h
  · obtain rfl := Option.some.inj h
    have hopen : s.Value "rotate(" := value_literal (by decide)
    exact (hopen.append (value_number degrees)).append (value_literal (by decide))

/-- A length that the origin of a group is taken from. -/
theorem value_fromOrigin {origin : String} (ho : s.Value origin) (x : Float) :
    s.Value ("calc(" ++ s.rem x ++ " - var(" ++ origin ++ ")) !important") := by
  have hopen : s.Value "calc(" := value_literal (by decide)
  have hminus : s.Sheet " - var(" := sheet_literal (by decide)
  exact ((hopen.append (value_rem x)).between hminus ho).append (value_literal (by decide))

/-! ### Selectors -/

/-- A value whose only blanks are single spaces. -/
structure Selector (s : Setting) (v : String) : Prop extends s.Value v where
  tight : Tight v.toList

theorem selector_literal (h : Style.Keyword v) (htight : Tight v.toList) : s.Selector v :=
  ⟨value_literal h, htight⟩

/-- Two selectors with single spaces in between. -/
theorem Selector.between (ha : s.Selector a) (hm : s.Sheet m) (htight : Tight m.toList)
    (hb : s.Selector b) : s.Selector (a ++ m ++ b) where
  toValue := ha.toValue.between hm hb.toValue
  tight := by
    rw [String.toList_append, String.toList_append]
    exact (ha.tight.append_of_getLast? htight ha.trimmed.2).append_of_head? hb.tight hb.trimmed.1

theorem Selector.append (ha : s.Selector a) (hb : s.Selector b) : s.Selector (a ++ b) := by
  have h := ha.between (sheet_literal rfl : s.Sheet "") (by decide) hb
  rwa [String.append_empty] at h

theorem selector_cls (l : Layer) : s.Selector l.cls := by
  have hword : Word l.cls.toList := by
    refine ⟨(isIdentifier_className l.name l.id).ne_nil, fun c hc => ?_⟩
    by_contra hb
    have hspace := Style.eq_space_of_isSheetChar
      (Style.isSheetChar_of_isClassChar (isClassChar_className hc)) (Bool.not_eq_false _ ▸ hb)
    have hclass := isClassChar_className hc
    rw [hspace] at hclass
    cases hclass
  have hsheet : s.Sheet l.cls :=
    sheet_of_forall fun _ hc => Style.isSheetChar_of_isClassChar (isClassChar_className hc)
  exact ⟨value_of_word hsheet hword, Text.tight_of_forall hword.2⟩

theorem selector_classSelector (l : Layer) : s.Selector l.selector :=
  (selector_literal (by decide) (by decide)).append (selector_cls l)

/-- All that is directly in an element. -/
theorem Selector.children (h : s.Selector a) : s.Selector (a ++ " > *") := by
  have hchild : a ++ " > *" = a ++ " > " ++ "*" := by rw [String.append_assoc]; rfl
  rw [hchild]
  exact h.between (sheet_literal (by decide)) (by decide) (selector_literal (by decide) (by decide))

theorem Selector.global (h : s.Selector a) : s.Selector (":global(" ++ a ++ ")") :=
  have hopen : s.Selector ":global(" := selector_literal (by decide) (by decide)
  (hopen.append h).append (selector_literal (by decide) (by decide))

theorem selector_childSelector {parent : String} (hp : s.Selector parent) (l : Layer) :
    s.Selector (Style.childSelector parent l.cls) := by
  have hchild : Style.childSelector parent l.cls =
      ":global(" ++ ("." ++ parent ++ " > " ++ l.selector) ++ ")" := by
    rw [← String.toList_inj]
    simp [Style.childSelector, Layer.selector, Style.classSelector]
  have hparent : s.Selector ("." ++ parent) := (selector_literal (by decide) (by decide)).append hp
  rw [hchild]
  exact (hparent.between (sheet_literal (by decide)) (by decide) (selector_classSelector l)).global

/-! ### Declarations -/

/-- Declarations whose properties and values are written as in style sheets. -/
def Declares (s : Setting) (ds : List (String × String)) : Prop :=
  ∀ d ∈ ds, s.Value d.1 ∧ s.Value d.2

@[simp] theorem declares_nil : s.Declares [] := List.forall_mem_nil _

@[simp] theorem declares_cons {d : String × String} {ds : List (String × String)} :
    s.Declares (d :: ds) ↔ (s.Value d.1 ∧ s.Value d.2) ∧ s.Declares ds :=
  List.forall_mem_cons

@[simp] theorem declares_append {ds es : List (String × String)} :
    s.Declares (ds ++ es) ↔ s.Declares ds ∧ s.Declares es :=
  List.forall_mem_append

theorem declares_optional {value : Option String} (ha : Style.Keyword a)
    (h : ∀ v, value = some v → s.Value v) : s.Declares (Rule.optional a value) := by
  cases value with
  | none => exact declares_nil
  | some v => simpa [Rule.optional] using ⟨value_literal ha, h v rfl⟩

theorem declares_shadow (ha : Style.Keyword a) (effects : List Effect) :
    s.Declares (Rule.optional a (Style.shadow effects)) :=
  declares_optional ha fun _ => value_shadow

theorem declares_rotation (ha : Style.Keyword a) (degrees : Float) :
    s.Declares (Rule.optional a (Style.rotation degrees)) :=
  declares_optional ha fun _ => value_rotation

theorem declares_length (ha : Style.Keyword a) (length : Option Float) :
    s.Declares (Rule.optional a (length.map s.rem)) := by
  refine declares_optional ha fun v hv => ?_
  obtain ⟨x, -, rfl⟩ := Option.map_eq_some_iff.mp hv
  exact value_rem x

end Setting

end Handoff
