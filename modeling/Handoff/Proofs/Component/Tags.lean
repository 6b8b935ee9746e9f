import Handoff.Proofs.Component.Visits
import Handoff.Proofs.Markup.Written

/-!
# The tags of a scene

`Visit.tags` lists the tags that a visit opens.  The markup of a scene is written with those of its
visits, in order (`Node.written_rendered`), whatever its names, ids, texts and property values are:
nothing else in the markup is a tag or an expression.  What is written as it is given must hold no
bracket and no brace (`Setting.Plain`).
-/

namespace Handoff
open Markup (Attribute Bare Tag Written)

/-! ### Settings -/

/-- Catalogs and options whose texts are written as they are given and neither begin nor end a tag
or an expression. -/
structure Setting.Plain (s : Setting) : Prop where
  icons : ∀ name ∈ s.catalogs.components.icons, ∀ c ∈ name.toList, c.isAlphanum ∨ c = '_'
  tokens : ∀ e ∈ s.catalogs.tokens.entries, Bare e.2.toList
  iconColor : Bare s.options.defaultIconColor.toList

theorem Setting.Plain.bare_icon {s : Setting} (hs : s.Plain) {name : String}
    (h : name ∈ s.catalogs.components.icons) : Bare name.toList := by
  intro c hc
  by_contra hbracket
  simp only [Markup.isBracket, Bool.not_eq_false, Bool.or_eq_true, beq_iff_eq] at hbracket
  have hchar := hs.icons name h c hc
  rcases hbracket with ((rfl | rfl) | rfl) | rfl <;> exact absurd hchar (by decide)

theorem Setting.Plain.flat {s : Setting} (hs : s.Plain) : s.Flat where
  icons _ h := (hs.bare_icon h).flat
  tokens e he := (hs.tokens e he).flat
  iconColor := hs.iconColor.flat

/-! ### The tags of one node -/

/-- A tag that has a class and nothing else. -/
def classTag (name cls : String) : Tag := ⟨name, [.text "class" cls]⟩

namespace WidgetInstance

/-- The tags inside of a widget. -/
def innerTags (i : WidgetInstance) : Widget → List Tag
  | .tabs => ((i.children.filter (·.isVisible)).filterMap (·.propertiesOf? "_TabItem")).map tabTag
  | _ => []

/-- The tags of an instance as a widget, if there is one of its name. -/
def tags (i : WidgetInstance) : List Tag :=
  match Widget.names.lookup i.layer.name with
  | none => []
  | some w => i.tag w :: i.innerTags w

theorem written_content (i : WidgetInstance) (w : Widget) :
    Written (i.content w) (i.innerTags w) := by
  have htext : ∀ s, Written (Markup.escapeText s) [] := fun s => .text (Markup.bare_escapeText s)
  cases w with
  | button | checkbox | radio | formLabel | formHelpMessage | chip => exact htext _
  | tabs =>
      have htab : ∀ ps ∈ (i.children.filter (·.isVisible)).filterMap (·.propertiesOf? "_TabItem"),
          Written (tab ps) [tabTag ps] := fun ps _ => .element (plain_tabTag ps) .empty
      have hjoin := Written.join htab
      rwa [← List.map_eq_flatMap] at hjoin
  | switch | textInput | numberInput | dateInput | timeInput | dateTimeInput | select | textarea
  | avatar | spinner => exact .empty

theorem written_piece (s : Setting) (i : WidgetInstance) : Written (i.piece s).markup i.tags := by
  rw [piece, tags]
  cases Widget.names.lookup i.layer.name with
  | none => exact .empty
  | some w => exact .element (i.plain_tag w) (i.written_content w)

end WidgetInstance

namespace Route

/-- The tags that a node opens by itself. -/
def tags (s : Setting) : Route → List Tag
  | icon l glyphs => [iconTag s l glyphs]
  | widget i => i.tags
  | autolayout c => [c.tag]
  | frame l _ => [classTag "div" (Style.frameClass ++ " " ++ l.cls)]
  | group l => [classTag "div" (Style.groupClass ++ " " ++ l.cls)]
  | text l _ => [classTag "p" l.cls]
  | rectangle l _ | ellipse l _ | line l _ => [classTag "div" l.cls]
  | skip => []

theorem plain_iconTag {s : Setting} (hs : s.Plain) {l : Layer}
    (hl : l.name ∈ s.catalogs.components.icons) (glyphs : List Node) :
    (iconTag s l glyphs).Plain where
  name := (by decide : Markup.ElementName "Icon".toList)
  attributes := by
    intro a ha
    simp only [iconTag, List.mem_cons, List.not_mem_nil, or_false] at ha
    rcases ha with rfl | rfl | rfl
    · have happ : (Script.Expr.name ("Icon" ++ l.name)).render.toList =
          "Icon".toList ++ l.name.toList := by simp [Script.Expr.render]
      have hname : Bare (Script.Expr.name ("Icon" ++ l.name)).render.toList := by
        rw [happ]
        exact Markup.bare_append.mpr ⟨by decide, hs.bare_icon hl⟩
      exact ⟨by decide, hname⟩
    · exact ⟨by decide, Style.bare_number _⟩
    · exact ⟨by decide,
        of_iconColor (P := (Bare ·.toList)) (by decide) hs.tokens hs.iconColor glyphs⟩

/-- What any node that is no container writes. -/
theorem written_piece {s : Setting} (hs : s.Plain) (grouped : Bool) (n : Node)
    (h : (ofNode s.catalogs.components n).isContainer = false) :
    Written ((ofNode s.catalogs.components n).piece s grouped).markup
      ((ofNode s.catalogs.components n).tags s) := by
  cases hr : ofNode s.catalogs.components n with
  | icon l glyphs => exact .element (plain_iconTag hs (isIcon_of_ofNode hr) glyphs) .empty
  | widget i => exact i.written_piece s
  | text l t => exact .element (plain_p l.cls) (.text (Markup.bare_escapeText t.characters))
  | rectangle l o | ellipse l o | line l o => exact .element (plain_div l.cls) .empty
  | skip => exact .empty
  | autolayout | frame | group =>
      rw [hr] at h
      cases h

/-- A container opens one tag, which it is closed with. -/
theorem written_container {s : Setting} {r : Route} (h : r.isContainer) {inner : String}
    {ts : List Tag} (hi : Written inner ts) :
    Written ((r.piece s false).markup ++ inner ++ Tag.closing r.elementName) (r.tags s ++ ts) := by
  cases r with
  | autolayout c =>
      have hname : (autolayout c).elementName = c.tag.name := c.tag_name.symm
      rw [hname]
      exact .element c.plain_tag hi
  | frame l b => exact .element (plain_div _) hi
  | group l => exact .element (plain_div _) hi
  | icon | widget | text | rectangle | ellipse | line | skip => cases h

end Route

/-! ### The tags of a scene -/

/-- The tags that a visit opens. -/
def Visit.tags (s : Setting) (v : Visit) : List Tag :=
  if v.node.isVisible then (v.route s).tags s else []

/-- An element around what is written inside of it. -/
theorem Visit.written_enclose {s : Setting} (hs : s.Plain) (v : Visit) {inner : String}
    {vs : List Visit} (hi : Written inner (vs.flatMap (Visit.tags s))) :
    Written (v.node.enclose s inner) ((v.andThen s vs).flatMap (Visit.tags s)) := by
  rw [Node.enclose, andThen]
  by_cases hv : v.node.isVisible
  · have htags : v.tags s = (Route.ofNode s.catalogs.components v.node).tags s := by
      rw [tags, if_pos hv, route]
    by_cases hr : (Route.ofNode s.catalogs.components v.node).isContainer
    · have hwritten := Route.written_container (s := s) hr hi
      rw [← Route.element_of_isContainer hr, ← htags] at hwritten
      simpa [hv, route, hr] using hwritten
    · rw [Bool.not_eq_true] at hr
      have hwritten := Route.written_piece hs false v.node hr
      have helement : (Route.ofNode s.catalogs.components v.node).element s inner =
          ((Route.ofNode s.catalogs.components v.node).piece s false).markup :=
        Route.element_of_not_isContainer hr
      rw [← helement, ← htags] at hwritten
      simpa [hv, route, hr] using hwritten
  · have htags : v.tags s = [] := by rw [tags, if_neg hv]
    simpa [hv, htags] using Written.empty

theorem written_renderedAll {s : Setting} {parent : Node} {ns : List Node}
    (hns : ∀ n ∈ ns, Written (n.rendered s) ((n.visits s (some parent)).flatMap (Visit.tags s))) :
    Written (renderedAll s ns) ((visitsAll s parent ns).flatMap (Visit.tags s)) := by
  induction ns with
  | nil => exact .empty
  | cons n ns ih =>
      obtain ⟨hn, hns⟩ := List.forall_mem_cons.mp hns
      rw [renderedAll, visitsAll, List.flatMap_append]
      exact hn.append (ih hns)

/-- The markup of a node is written with the tags of the visits from it. -/
theorem Node.written_rendered {s : Setting} (hs : s.Plain) (n : Node) :
    ∀ parent, Written (n.rendered s) ((n.visits s parent).flatMap (Visit.tags s)) := by
  induction n using Node.rec_children with
  | step n ih =>
      intro parent
      rw [rendered_eq, visits_eq]
      exact Visit.written_enclose hs ⟨parent, n⟩
        (written_renderedAll fun c hc => ih c hc (some n))

theorem written_generate {s : Setting} (hs : s.Plain) {root : Node} {f : Fragment}
    (h : root.generate s = .ok f) :
    Written f.markup ((root.visits s none).flatMap (Visit.tags s)) := by
  rw [(Node.assemble_markup hs.flat root none f (Node.generate_eq_ok h)).1]
  exact root.written_rendered hs none

end Handoff
