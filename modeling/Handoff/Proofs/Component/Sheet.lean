import Handoff.Proofs.Component.Values
import Handoff.Proofs.Component.Visits
import Handoff.Proofs.Style.Listing

/-!
# Generated style sheets

The rules of all nodes are put together from values and selectors (`Visit.sheetRule_rules`).

* Nothing of a name, an id or a text of the design gets into a style sheet but what class names keep
  (`mem_style_generate`).
* As long as no token holds a brace or a semicolon, a generated style sheet is read as it was
  written: formatting lists its rules (`format_style`).
-/

namespace Handoff
open Style (Rule)
open Setting

variable {s : Setting}

/-! ### Values of properties -/

@[simp] theorem value_borderWidth (l : Layer) (w : StrokeWeights) :
    s.Value (Style.borderWidth l w) := by
  rw [Style.borderWidth]
  split
  · exact value_literal (by decide)
  · exact value_intercalate (by simp) (sheet_literal (by decide)) (by simp)

@[simp] theorem value_borderRadius (c : CornerRadii) :
    s.Value (Style.borderRadius s.options.baseFontSize c) := by
  have hlengths : s.Value (" ".intercalate (c.clockwise.map s.rem)) :=
    value_lengths (by simp [CornerRadii.clockwise])
  exact hlengths

@[simp] theorem value_overflow (b : Box) : s.Value b.overflow.1 ∧ s.Value b.overflow.2 := by
  rw [Box.overflow]
  cases b.clipsContent
  · exact ⟨value_literal (by decide), value_literal (by decide)⟩
  · exact ⟨value_literal (by decide), value_literal (by decide)⟩

@[simp] theorem value_sizing (size : Float) (z : LayoutSizing) : s.Value (z.css s size) := by
  cases z with
  | fixed => exact value_rem size
  | fill => exact (value_literal (by decide) : s.Value "100%")
  | hug => exact (value_literal (by decide) : s.Value "auto")

@[simp] theorem value_axisAlign (a : AxisAlign) : s.Value a.css := by
  cases a <;> exact value_literal (by decide)

@[simp] theorem value_textAlign (a : TextAlign) : s.Value a.css := by
  cases a <;> exact value_literal (by decide)

@[simp] theorem value_gap (a : AutoLayout) : s.Value (a.gap s) := by
  have hspace : s.Sheet " " := sheet_literal (by decide)
  rw [AutoLayout.gap]
  split
  · exact (value_rem _).between hspace (value_rem _)
  · exact (value_rem _).between hspace (value_rem _)

@[simp] theorem value_lineHeight (h : Option LineHeight) (size : Float) :
    s.Value (LineHeight.css h size) := by
  unfold LineHeight.css
  split
  · exact value_number _
  · split
    · exact value_number _
    · exact value_literal (by decide)
  · exact value_literal (by decide)
  · exact value_literal (by decide)

@[simp] theorem value_letterSpacing (h : Option LetterSpacing) (size : Float) :
    s.Value (LetterSpacing.css h size) := by
  unfold LetterSpacing.css
  extract_lets ratio
  split
  · exact value_literal (by decide)
  · exact (value_number ratio).append (value_literal (by decide))

/-! ### The declarations of layers -/

namespace Layer

@[simp] theorem declares_appearance (l : Layer) : s.Declares l.appearance := by
  simp (disch := decide) [appearance, declares_shadow, declares_rotation, value_literal]

@[simp] theorem declares_place (l : Layer) : s.Declares (l.place s) := by
  simp (disch := decide) [place, value_literal]

@[simp] theorem declares_size (l : Layer) : s.Declares (l.size s) := by
  simp (disch := decide) [size, value_literal]

@[simp] theorem declares_border (l : Layer) (width : String) :
    s.Declares (l.border s width) ↔ s.Value width := by
  simp (disch := decide) [border, value_literal]

end Layer

namespace AutoLayout

theorem keyword_ite {p : Prop} [Decidable p] {a b : String} (ha : Style.Keyword a)
    (hb : Style.Keyword b) : s.Value (if p then a else b) := by
  split
  · exact value_literal ha
  · exact value_literal hb

@[simp] theorem declares_flexbox (a : AutoLayout) : s.Declares (a.flexbox s) := by
  have hpadding : s.Value (" ".intercalate
      ([a.paddingTop, a.paddingRight, a.paddingBottom, a.paddingLeft].map s.rem)) :=
    value_lengths (by simp)
  rw [flexbox]
  simp (disch := decide) only [declares_cons, declares_nil, value_literal, keyword_ite, hpadding,
    value_axisAlign, value_gap, and_true, true_and]
  constructor
  · split
    · exact value_literal (by decide)
    · exact value_literal (by decide)
  · split
    · exact value_literal (by decide)
    · exact value_literal (by decide)

@[simp] theorem declares_limits (a : AutoLayout) : s.Declares (a.limits s) := by
  simp (disch := decide) [limits, declares_length]

end AutoLayout

@[simp] theorem TextContent.declares_typography (t : TextContent) :
    s.Declares (t.typography s) := by
  simp (disch := decide) [typography, value_literal]

/-! ### The rules of nodes -/

/-- A rule that is put together from a selector and values. -/
structure Setting.SheetRule (s : Setting) (r : Rule) : Prop where
  selector : s.Selector r.selector
  declarations : s.Declares r.declarations

theorem Layer.sheetRule_inFrame (l : Layer) {more : List (String × String)}
    (h : s.Declares more) : s.SheetRule (l.inFrame s more) where
  selector := selector_childSelector (selector_literal (by decide) (by decide)) l
  declarations := declares_append.mpr ⟨l.declares_place, h⟩

theorem Layer.sheetRule_inGroup (l : Layer) (grouped : Bool) :
    ∀ r ∈ l.inGroup s grouped, s.SheetRule r := by
  rw [inGroup]
  split
  · refine List.forall_mem_singleton.mpr ⟨?_, ?_⟩
    · exact selector_childSelector (selector_literal (by decide) (by decide)) l
    · have hleft : s.Value Style.groupLeft := value_literal (by decide)
      have htop : s.Value Style.groupTop := value_literal (by decide)
      have hx := value_fromOrigin hleft l.x
      have hy := value_fromOrigin htop l.y
      simp (disch := decide) [Style.inGroup, hx, hy, value_literal]
  · exact List.forall_mem_nil _

theorem sheetRule_groupOrigin {selector : String} (h : s.Selector selector) (x y : Float) :
    s.SheetRule (Style.groupOrigin selector (s.rem x) (s.rem y)) where
  selector := h
  declarations := by
    simp (disch := decide) [Style.groupOrigin, Style.groupLeft, Style.groupTop, value_literal]

theorem Route.selector_of_selector? {r : Route} {selector : String}
    (h : r.selector? = some selector) : s.Selector selector := by
  obtain ⟨l, -, rfl | rfl⟩ := selector?_cases h
  · exact selector_classSelector l
  · exact (selector_classSelector l).global

theorem sheetRule_shapePiece (grouped : Bool) (l : Layer) {ds : List (String × String)}
    (h : s.Declares ds) : ∀ r ∈ (shapePiece s grouped l ds).rules, s.SheetRule r := by
  simp only [shapePiece, List.forall_mem_cons]
  exact ⟨⟨selector_classSelector l, by simp [h]⟩, l.sheetRule_inGroup grouped⟩

/-- The rules of a node are put together from selectors and values. -/
theorem Route.sheetRule_piece (s : Setting) (grouped : Bool) (r : Route) :
    ∀ rule ∈ (r.piece s grouped).rules, s.SheetRule rule := by
  cases r with
  | icon | skip => exact List.forall_mem_nil _
  | widget i =>
      rw [rules_piece_eq_nil rfl]
      exact List.forall_mem_nil _
  | autolayout c =>
      simp only [piece, Container.piece, Container.rules, List.forall_mem_cons]
      refine ⟨⟨selector_of_selector? (r := autolayout c) rfl, ?_⟩,
        c.layer.sheetRule_inFrame declares_nil, c.layer.sheetRule_inGroup grouped⟩
      simp (disch := decide) [value_literal]
  | frame l b =>
      simp only [piece, framePiece, List.forall_mem_cons]
      refine ⟨⟨selector_classSelector l, ?_⟩, ⟨(selector_classSelector l).children, ?_⟩,
        l.sheetRule_inFrame ?_, l.sheetRule_inGroup grouped⟩
      all_goals simp (disch := decide) [value_literal]
  | group l =>
      simp only [piece, groupPiece, List.forall_mem_cons]
      refine ⟨⟨selector_classSelector l, ?_⟩, ⟨(selector_classSelector l).children, ?_⟩,
        l.sheetRule_inFrame declares_nil, l.sheetRule_inGroup grouped⟩
      all_goals simp (disch := decide) [declares_shadow, declares_rotation, value_literal]
  | text l t =>
      simp only [piece, textPiece, List.forall_mem_cons]
      refine ⟨⟨selector_classSelector l, ?_⟩, l.sheetRule_inGroup grouped⟩
      simp (disch := decide) [value_literal]
  | rectangle l o =>
      exact sheetRule_shapePiece grouped l (by simp (disch := decide) [value_literal])
  | ellipse l o =>
      exact sheetRule_shapePiece grouped l (by simp (disch := decide) [value_literal])
  | line l o =>
      exact sheetRule_shapePiece grouped l (by simp (disch := decide) [value_literal])

/-- So are those of a visit, with the origin of a group. -/
theorem Visit.sheetRule_rules (s : Setting) (v : Visit) : ∀ rule ∈ v.rules s, s.SheetRule rule := by
  rw [rules]
  split
  · rw [List.forall_mem_append]
    refine ⟨?_, Route.sheetRule_piece s _ _⟩
    rw [binding]
    split
    · next g selector _ hselector =>
        exact List.forall_mem_singleton.mpr
          (sheetRule_groupOrigin (Route.selector_of_selector? hselector) g.x g.y)
    · exact List.forall_mem_nil _
  · exact List.forall_mem_nil _

/-! ### Whole style sheets -/

/-- The characters that rules are written with besides. -/
def Style.ruleMarks : List Char := [' ', '\x7b', '\x7d', ':', ';', '\n']

theorem mem_render_rules {rules : List Rule} (h : ∀ rule ∈ rules, s.SheetRule rule) {c : Char}
    (hc : c ∈ (Style.render rules).toList) :
    c ∈ Style.ruleMarks ∨ Style.isSheetChar c ∨
      ∃ e ∈ s.catalogs.tokens.entries, c ∈ e.2.toList := by
  rw [Style.render, String.toList_join] at hc
  obtain ⟨t, ht, hc⟩ := List.mem_flatMap.mp hc
  obtain ⟨rule, hrule, rfl⟩ := List.mem_map.mp ht
  obtain ⟨hselector, hdeclarations⟩ := h rule hrule
  have hmarks : ∀ t ∈ [" \x7b", " \x7d\n", " ", ": ", ";"], t.toList ⊆ Style.ruleMarks := by
    decide
  simp only [Rule.render, String.toList_append, List.mem_append, String.toList_join] at hc
  rcases hc with ((hc | hc) | hc) | hc
  · exact .inr (hselector.sheet c hc)
  · exact .inl (hmarks " \x7b" (by simp) hc)
  · obtain ⟨t, ht, hc⟩ := List.mem_flatMap.mp hc
    obtain ⟨d, hd, rfl⟩ := List.mem_map.mp ht
    obtain ⟨hproperty, hvalue⟩ := hdeclarations d hd
    simp only [Rule.declaration, String.toList_append, List.mem_append] at hc
    rcases hc with (((hc | hc) | hc) | hc) | hc
    · exact .inl (hmarks " " (by simp) hc)
    · exact .inr (hproperty.sheet c hc)
    · exact .inl (hmarks ": " (by simp) hc)
    · exact .inr (hvalue.sheet c hc)
    · exact .inl (hmarks ";" (by simp) hc)
  · exact .inl (hmarks " \x7d\n" (by simp) hc)

/-- The rules of a scene, in document order. -/
def Node.rules (s : Setting) (root : Node) : List Rule :=
  (root.visits s none).flatMap (Visit.rules s)

theorem Node.sheetRule_rules (s : Setting) (root : Node) : ∀ r ∈ root.rules s, s.SheetRule r := by
  intro r hr
  obtain ⟨v, -, hr⟩ := List.mem_flatMap.mp hr
  exact v.sheetRule_rules s r hr

theorem Visit.styles_eq (s : Setting) (vs : List Visit) :
    styles s vs = Style.render (vs.flatMap (rules s)) := by
  induction vs with
  | nil => rfl
  | cons v vs ih => rw [styles_cons, ih, List.flatMap_cons, Style.render_append, style]

theorem style_generate {root : Node} {f : Fragment} (h : root.generate s = .ok f) :
    f.style = Style.render (root.rules s) :=
  ((Visit.contributes s root none f (Node.generate_eq_ok h)).2).trans (Visit.styles_eq s _)

/-- A style sheet holds no character of the design but those that class names keep. -/
theorem mem_style_generate {root : Node} {f : Fragment} (h : root.generate s = .ok f) {c : Char}
    (hc : c ∈ f.style.toList) :
    c ∈ Style.ruleMarks ∨ Style.isSheetChar c ∨
      ∃ e ∈ s.catalogs.tokens.entries, c ∈ e.2.toList := by
  rw [style_generate h] at hc
  exact mem_render_rules (root.sheetRule_rules s) hc

/-! ### Formatted style sheets -/

/-- The characters that end a declaration, or begin or end a rule. -/
def Style.breaks : List Char := ['\x7b', '\x7d', ';']

/-- A text with none of these characters. -/
def Style.Unbroken (v : String) : Prop := ∀ c ∈ v.toList, c ∉ breaks

instance : DecidablePred Style.Unbroken := fun v =>
  List.decidableBAll (fun c => c ∉ Style.breaks) v.toList

/-- No token breaks a rule. -/
def TokenCatalog.Unbroken (c : TokenCatalog) : Prop := ∀ e ∈ c.entries, Style.Unbroken e.2

instance : DecidablePred TokenCatalog.Unbroken := fun c =>
  List.decidableBAll (fun e : String × String => Style.Unbroken e.2) c.entries

namespace Setting
variable (hs : s.catalogs.tokens.Unbroken)
include hs

theorem Sheet.unbroken {v : String} (h : s.Sheet v) : Style.Unbroken v := by
  have hbreaks : Style.breaks.all (!Style.isSheetChar ·) := by decide
  intro c hc hbreak
  rcases h c hc with hsheet | ⟨e, he, hc⟩
  · simpa [hsheet] using List.all_eq_true.mp hbreaks c hbreak
  · exact hs e he c hc hbreak

theorem Value.legible {v : String} (h : s.Value v) : Style.Legible v where
  ne_empty := h.ne_empty
  trimmed := h.trimmed
  opening_not_mem hc := h.sheet.unbroken hs _ hc (by simp [Style.breaks])
  closing_not_mem hc := h.sheet.unbroken hs _ hc (by simp [Style.breaks])
  semicolon_not_mem hc := h.sheet.unbroken hs _ hc (by simp [Style.breaks])

theorem SheetRule.isLegible {r : Rule} (h : s.SheetRule r) : r.IsLegible where
  selector_ne_empty := h.selector.ne_empty
  singleSpaced := Text.singleSpaced_eq_self h.selector.trimmed h.selector.tight
  opening_not_mem hc := h.selector.sheet.unbroken hs _ hc (by simp [Style.breaks])
  closing_not_mem hc := h.selector.sheet.unbroken hs _ hc (by simp [Style.breaks])
  declarations d hd := ⟨(h.declarations d hd).1.legible hs, (h.declarations d hd).2.legible hs⟩

end Setting

/-- Rendered rules are formatted into their listing, so the style sheet of a scene is formatted into
the listing of the rules of its visits.  Whatever is formatted is formatted into itself. -/
theorem format_style :
    (∀ rules : List Rule, (∀ r ∈ rules, r.IsLegible) →
      Style.format (Style.render rules).toList = (Style.listing rules).toList) ∧
    (∀ (s : Setting) (root : Node) (f : Fragment), s.catalogs.tokens.Unbroken →
      root.generate s = .ok f →
        f.style = Style.render (root.rules s) ∧ (∀ r ∈ root.rules s, r.IsLegible) ∧
          Style.format f.style.toList = (Style.listing (root.rules s)).toList) ∧
    ∀ style : List Char, Style.format (Style.format style) = Style.format style := by
  refine ⟨fun rules h => Style.format_render h, fun s root f hs h => ?_, fun style => ?_⟩
  · have hlegible : ∀ r ∈ root.rules s, r.IsLegible :=
      fun r hr => (root.sheetRule_rules s r hr).isLegible hs
    rw [style_generate h]
    exact ⟨rfl, hlegible, Style.format_render hlegible⟩
  · have hblank := Style.format_format style Text.blank_nil Text.blank_nil
    rwa [List.nil_append, List.append_nil] at hblank

/-- A rule without declarations is not listed; the style sheet of the sample is. -/
theorem format_style_nestedScene :
    Style.format (Style.render [⟨".a > *", [("left", "0")]⟩, ⟨".b", []⟩]).toList =
        "\t.a > * \x7b\n\t\tleft: 0;\n\t\x7d".toList ∧
      ∃ f, nestedScene.generate builtinSetting = .ok f ∧
        Style.format f.style.toList =
          (Style.listing (nestedScene.rules builtinSetting)).toList := by
  have hlegible : ∀ r ∈ ([⟨".a > *", [("left", "0")]⟩, ⟨".b", []⟩] : List Rule), r.IsLegible := by
    refine List.forall_mem_cons.mpr ⟨⟨by decide, by decide, by decide, by decide, ?_⟩,
      List.forall_mem_singleton.mpr ⟨by decide, by decide, by decide, by decide, ?_⟩⟩
    · exact List.forall_mem_singleton.mpr
        ⟨⟨by decide, by decide, by decide, by decide, by decide⟩,
          ⟨by decide, by decide, by decide, by decide, by decide⟩⟩
    · exact List.forall_mem_nil _
  obtain ⟨f, h⟩ := exists_generate_nestedScene
  refine ⟨(format_style.1 _ hlegible).trans (by decide +kernel), f, h, ?_⟩
  exact (format_style.2.1 builtinSetting nestedScene f (by decide +kernel) h).2.2

end Handoff
