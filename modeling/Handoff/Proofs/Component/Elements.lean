import Handoff.Component.Assembly
import Handoff.Proofs.Decimal.Form
import Handoff.Proofs.Markup.Element
import Handoff.Proofs.Text.Hex

/-!
# The elements of components

Every piece opens and closes what it should: the fragment of a leaf, an icon or a widget is balanced,
and that of a container is the one tag that it opens (`Route.scans_piece`).  Names, ids, texts and
property values may be anything; only what is written as it is given must hold no angle bracket
(`Setting.Flat`).
-/

namespace Handoff
open Markup (Attribute Balanced Bare ElementName Flat Scans Tag Token bare_append flat_append)

/-! ### Expressions and names -/

theorem Style.bare_number (x : Float) : Bare (Style.number x).toList := by
  intro c hc
  rcases Decimal.Form.mem_write hc with hc | hc | hc
  · exact (by decide : Bare "NaN".toList) c hc
  · exact (by decide : Bare numberForm.infinity.toList) c hc
  · by_contra hbracket
    simp only [Markup.isBracket, Bool.not_eq_false, Bool.or_eq_true, beq_iff_eq] at hbracket
    rcases hbracket with ((rfl | rfl) | rfl) | rfl <;> cases hc

theorem mem_hexAlphabet_of_mem_shortDigest {id : String} :
    ∀ c ∈ (shortDigest id).toList, c ∈ Text.hexAlphabet := by
  intro c hc
  rw [shortDigest, String.toList_ofList] at hc
  obtain ⟨b, -, hc⟩ := List.mem_flatMap.mp (List.mem_of_mem_take hc)
  exact Text.mem_hexAlphabet c hc

theorem bare_shortDigest (id : String) : Bare (shortDigest id).toList := fun c hc =>
  (by decide : Bare Text.hexAlphabet) c (mem_hexAlphabet_of_mem_shortDigest c hc)

theorem bare_stateName {kind : String} (hk : Bare kind.toList) (id : String) :
    Bare (stateName kind id).toList := by
  have happ : (stateName kind id).toList = kind.toList ++ (['_'] ++ (shortDigest id).toList) := by
    simp [stateName]
  rw [happ]
  exact bare_append.mpr ⟨hk, bare_append.mpr ⟨by decide, bare_shortDigest id⟩⟩

/-! ### Containers and leaves -/

/-- The element of a frame, a group or a shape. -/
theorem plain_div (cls : String) : (Tag.mk "div" [.text "class" cls]).Plain where
  name := (by decide : ElementName "div".toList)
  attributes := by
    intro a ha
    rw [List.mem_singleton.mp ha]
    exact (by decide : Bare "class".toList)

theorem plain_p (cls : String) : (Tag.mk "p" [.text "class" cls]).Plain where
  name := (by decide : ElementName "p".toList)
  attributes := by
    intro a ha
    rw [List.mem_singleton.mp ha]
    exact (by decide : Bare "class".toList)

theorem Container.bare_choice (c : Container) : Bare c.choice.toList := by
  have h : Bare (stateName "radio" c.layer.id).toList := bare_stateName (by decide) c.layer.id
  rw [choice, String.toList_append]
  exact bare_append.mpr ⟨h, by decide⟩

theorem Container.tag_name (c : Container) :
    c.tag.name = if c.isRadioGroup then "RadioGroup" else "div" := by
  rw [tag]
  split <;> rfl

theorem Container.plain_tag (c : Container) : c.tag.Plain := by
  rw [tag]
  split
  · refine ⟨(by decide : ElementName "RadioGroup".toList), fun a ha => ?_⟩
    have hclass : Bare "class".toList := by decide
    have hname : Bare "name".toList := by decide
    have hgroup : Bare "bind:group".toList := by decide
    have hinline : (Attribute.flag "inline").Plain := ⟨by decide, by decide⟩
    simp only [List.mem_cons, List.mem_append, List.not_mem_nil, or_false] at ha
    rcases ha with (rfl | ha) | rfl | rfl
    · exact hclass
    · exact Attribute.plain_flagIf hinline _ a ha
    · exact ⟨hgroup, c.bare_choice⟩
    · exact hname
  · exact plain_div c.layer.cls

/-! ### Icons -/

/-- Catalogs and options whose texts hold no angle bracket where they are written as they are
given. -/
structure Setting.Flat (s : Setting) : Prop where
  icons : ∀ name ∈ s.catalogs.components.icons, Markup.Flat name.toList
  tokens : ∀ e ∈ s.catalogs.tokens.entries, Markup.Flat e.2.toList
  iconColor : Markup.Flat s.options.defaultIconColor.toList

/-- The custom property that paints are bound to is one of the catalog. -/
theorem TokenCatalog.exists_of_bound? {c : TokenCatalog} {paints : List Paint} {token : String}
    (h : c.bound? paints = some token) : ∃ id, (id, token) ∈ c.entries := by
  simp only [bound?, Option.bind_eq_bind, Option.bind_eq_some_iff] at h
  obtain ⟨_, -, id, -, h⟩ := h
  obtain ⟨l₁, l₂, hl, -⟩ := List.lookup_eq_some_iff.mp h
  have hm : (id, token) ∈ c.entries.reverse := by simp [hl]
  exact ⟨id, List.mem_reverse.mp hm⟩

/-- What holds of all custom properties holds of the one that paints are bound to. -/
theorem TokenCatalog.of_name {P : String → Prop} {c : TokenCatalog} (hnone : P noToken)
    (h : ∀ e ∈ c.entries, P e.2) (paints : List Paint) : P (c.name paints) := by
  rw [name]
  cases hb : c.bound? paints with
  | none => exact hnone
  | some token =>
      obtain ⟨id, hm⟩ := exists_of_bound? hb
      exact h _ hm

/-- An icon has the colour of a token or the default one. -/
theorem of_iconColor {P : String → Prop} {s : Setting} (hnone : P noToken)
    (htokens : ∀ e ∈ s.catalogs.tokens.entries, P e.2) (hdefault : P s.options.defaultIconColor)
    (glyphs : List Node) : P (iconColor s glyphs) := by
  have h : ∀ tokens : List String, (∀ t ∈ tokens, P t) →
      P ((tokens.find? (· ≠ noToken)).getD s.options.defaultIconColor) := by
    intro tokens ht
    cases hf : tokens.find? (· ≠ noToken) with
    | none => exact hdefault
    | some t => exact ht t (List.mem_of_find?_eq_some hf)
  refine h _ fun t ht => ?_
  split at ht
  · obtain ⟨paints, -, rfl⟩ := List.mem_map.mp ht
    exact TokenCatalog.of_name hnone htokens paints
  · cases ht

/-- The tag of an icon. -/
def iconTag (s : Setting) (l : Layer) (glyphs : List Node) : Tag :=
  ⟨"Icon",
    [.expr "icon" (.name ("Icon" ++ l.name)), .expr "size" (.number (l.width + iconPadding)),
      .verbatim "color" (iconColor s glyphs)]⟩

theorem sound_icon {s : Setting} (hs : s.Flat) {l : Layer}
    (hl : l.name ∈ s.catalogs.components.icons) (glyphs : List Node) :
    (iconTag s l glyphs).Sound where
  name := (by decide : ElementName "Icon".toList)
  attributes := by
    intro a ha
    simp only [iconTag, List.mem_cons, List.not_mem_nil, or_false] at ha
    rcases ha with rfl | rfl | rfl
    · refine Attribute.sound_expr (by decide) ?_
      have happ : (Script.Expr.name ("Icon" ++ l.name)).render.toList =
          "Icon".toList ++ l.name.toList := by simp [Script.Expr.render]
      rw [happ]
      exact flat_append.mpr ⟨by decide, hs.icons l.name hl⟩
    · exact Attribute.sound_expr (by decide) (Style.bare_number _).flat
    · exact Attribute.sound_verbatim (by decide)
        (of_iconColor (P := (Flat ·.toList)) (by decide) hs.tokens hs.iconColor glyphs)

/-! ### Widgets -/

theorem Widget.elementName_exportName (w : Widget) : ElementName w.exportName.toList := by
  cases w <;> decide

/-- The tag of a tab. -/
def tabTag (ps : Properties) : Tag :=
  ⟨"TabItem", .text "title" (ps.text "name") :: Attribute.flagIf "open" (ps.flag "active")⟩

theorem plain_tabTag (ps : Properties) : (tabTag ps).Plain where
  name := (by decide : ElementName "TabItem".toList)
  attributes := by
    have htitle : Bare "title".toList := by decide
    have hopen : (Attribute.flag "open").Plain := ⟨by decide, by decide⟩
    intro a ha
    rcases List.mem_cons.mp ha with rfl | ha
    · exact htitle
    · exact Attribute.plain_flagIf hopen _ a ha

namespace WidgetInstance

theorem nested_tabItems (i : WidgetInstance) : Markup.Nested i.tabItems := by
  refine Markup.nested_join fun t ht => ?_
  obtain ⟨ps, -, rfl⟩ := List.mem_map.mp ht
  exact Tag.nested_around (plain_tabTag ps).sound Markup.nested_empty

theorem nested_content (i : WidgetInstance) (w : Widget) : Markup.Nested (i.content w) := by
  have htext : ∀ s, Markup.Nested (Markup.escapeText s) := fun s =>
    Markup.nested_flat (Markup.bare_escapeText s).flat
  cases w with
  | button | checkbox | radio | formLabel | formHelpMessage | chip => exact htext _
  | tabs => exact i.nested_tabItems
  | switch | textInput | numberInput | dateInput | timeInput | dateTimeInput | select | textarea
  | avatar | spinner => exact Markup.nested_empty

theorem bare_stateVariable (i : WidgetInstance) {kind role : String} (hk : Bare kind.toList)
    (hr : Bare role.toList) : Bare (i.stateVariable kind role).toList := by
  rw [stateVariable, String.toList_append]
  exact bare_append.mpr ⟨bare_stateName hk _, hr⟩

theorem plain_flagAttribute (i : WidgetInstance) {name : String} (h : Bare name.toList) :
    (i.flagAttribute name).Plain := by
  refine ⟨h, ?_⟩
  rw [Script.Expr.render]
  split <;> decide

theorem plain_inputFlags (i : WidgetInstance) : ∀ a ∈ i.inputFlags, a.Plain := by
  intro a ha
  simp only [inputFlags, List.mem_cons, List.not_mem_nil, or_false] at ha
  rcases ha with rfl | rfl
  · exact i.plain_flagAttribute (by decide)
  · exact i.plain_flagAttribute (by decide)

theorem bare_numberExpr (text : String) : Bare (numberExpr text).render.toList := by
  have hnull : Bare Script.Expr.null.render.toList := by decide
  rw [numberExpr]
  split
  · split
    · exact Style.bare_number _
    · exact hnull
  · exact hnull

/-- Every attribute of a widget is a text of the instance, or an expression or a flag without
brackets. -/
theorem plain_attributes (i : WidgetInstance) (w : Widget) :
    ∀ a ∈ i.attributes w, a.Plain := by
  have hflag : ∀ {name : String}, Bare name.toList → (i.flagAttribute name).Plain :=
    i.plain_flagAttribute
  have htext : ∀ {name value : String}, Bare name.toList → (Attribute.text name value).Plain :=
    fun h => h
  have hstate : ∀ {name kind role : String}, Bare name.toList → Bare kind.toList →
      Bare role.toList → (Attribute.expr name (.name (i.stateVariable kind role))).Plain :=
    fun h hk hr => ⟨h, i.bare_stateVariable hk hr⟩
  have hset : ∀ {name : String} (set : Bool), Bare name.toList →
      name.toList.getLast?.any Markup.endsAttribute → ∀ a ∈ Attribute.flagIf name set, a.Plain :=
    fun set hf he => Attribute.plain_flagIf ⟨hf, he⟩ set
  have hinput := i.plain_inputFlags
  have hnil : ∀ a ∈ ([] : List Attribute), a.Plain := fun _ h => absurd h List.not_mem_nil
  cases w <;> simp only [attributes, List.forall_mem_cons, List.forall_mem_append]
  case button => exact ⟨hflag (by decide), htext (by decide), hnil⟩
  case checkbox =>
    exact ⟨hstate (by decide) (by decide) (by decide), hflag (by decide), hnil⟩
  case radio => exact ⟨hflag (by decide), htext (by decide), hnil⟩
  case switch =>
    exact ⟨hstate (by decide) (by decide) (by decide), htext (by decide), hflag (by decide), hnil⟩
  case textInput => exact ⟨hinput, htext (by decide), hnil⟩
  case numberInput => exact ⟨hinput, ⟨by decide, bare_numberExpr _⟩, hnil⟩
  case dateInput => exact ⟨hinput, htext (by decide), hnil⟩
  case timeInput => exact ⟨hinput, htext (by decide), hnil⟩
  case dateTimeInput => exact ⟨hinput, htext (by decide), hnil⟩
  case select =>
    refine ⟨hinput, ⟨by decide, ?_⟩, hstate (by decide) (by decide) (by decide),
      hstate (by decide) (by decide) (by decide), hnil⟩
    split
    · exact (by decide : Bare Script.Expr.null.render.toList)
    · exact Style.bare_number 1
  case formLabel => exact ⟨hflag (by decide), hflag (by decide), hnil⟩
  case formHelpMessage => exact ⟨hflag (by decide), hflag (by decide), hnil⟩
  case textarea => exact ⟨htext (by decide), hflag (by decide), htext (by decide), hnil⟩
  case tabs => exact hset _ (by decide) (by decide)
  case avatar => exact ⟨htext (by decide), htext (by decide), hnil⟩
  case spinner => exact ⟨htext (by decide), hset _ (by decide) (by decide)⟩
  case chip => exact ⟨hflag (by decide), hset _ (by decide) (by decide)⟩

/-- The tag of a widget. -/
def tag (i : WidgetInstance) (w : Widget) : Tag := ⟨w.exportName, i.attributes w⟩

theorem plain_tag (i : WidgetInstance) (w : Widget) : (i.tag w).Plain :=
  ⟨w.elementName_exportName, i.plain_attributes w⟩

theorem nested_piece (s : Setting) (i : WidgetInstance) : Markup.Nested (i.piece s).markup := by
  rw [piece]
  split
  · exact Markup.nested_empty
  · next w _ =>
      exact Tag.nested_around (i.plain_tag w).sound (i.nested_content w)

end WidgetInstance

/-! ### Routes -/

namespace Route

/-- The name of the element that a container opens. -/
def elementName : Route → String
  | autolayout c => if c.isRadioGroup then "RadioGroup" else "div"
  | _ => "div"

theorem isIcon_of_ofNode {c : ComponentCatalog} {n : Node} {l : Layer} {glyphs : List Node}
    (h : ofNode c n = icon l glyphs) : l.name ∈ c.icons := by
  cases n with
  | inst l' b ps cs es =>
      rw [ofNode] at h
      split at h
      · next hi =>
          obtain ⟨rfl, -⟩ := Route.icon.inj h
          simpa [ComponentCatalog.isIcon] using hi
      · split at h
        · cases h
        · split at h <;> cases h
  | frame r l' b cs =>
      cases r
      · rw [ofNode] at h
        split at h <;> cases h
      · rw [ofNode] at h
        split at h <;> cases h
      · cases h
  | group l' cs => cases h
  | text l' t => cases h
  | shape f l' o => cases f <;> cases h
  | unsupported => cases h

/-- What a container contributes by itself is the tag that it opens. -/
theorem scans_piece (s : Setting) (grouped : Bool) {r : Route} (h : r.isContainer) :
    Scans (r.piece s grouped).markup.toList [.opening r.elementName.toList] := by
  cases r with
  | autolayout c =>
      have h := Tag.scans_opening c.plain_tag.sound
      rwa [c.tag_name] at h
  | frame l b => exact Tag.scans_opening (plain_div _).sound
  | group l => exact Tag.scans_opening (plain_div _).sound
  | icon | widget | text | rectangle | ellipse | line | skip => cases h

/-- What any other node contributes is nested. -/
theorem nested_piece {s : Setting} (hs : s.Flat) (grouped : Bool) (n : Node)
    (h : (ofNode s.catalogs.components n).isContainer = false) :
    Markup.Nested ((ofNode s.catalogs.components n).piece s grouped).markup := by
  cases hr : ofNode s.catalogs.components n with
  | icon l glyphs =>
      exact Tag.nested_around (sound_icon hs (isIcon_of_ofNode hr) glyphs) Markup.nested_empty
  | widget i => exact i.nested_piece s
  | text l t =>
      exact Tag.nested_around (plain_p l.cls).sound
        (Markup.nested_flat (Markup.bare_escapeText t.characters).flat)
  | rectangle l o | ellipse l o | line l o =>
      exact Tag.nested_around (plain_div l.cls).sound Markup.nested_empty
  | skip => exact Markup.nested_empty
  | autolayout | frame | group =>
      rw [hr] at h
      cases h

theorem elementName_elementName (r : Route) : ElementName r.elementName.toList := by
  cases r with
  | autolayout c =>
      have h := c.plain_tag.name
      rwa [c.tag_name] at h
  | frame | group | icon | widget | text | rectangle | ellipse | line | skip =>
      exact (by decide : ElementName "div".toList)

end Route

end Handoff
