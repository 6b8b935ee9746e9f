import Handoff.Proofs.Component.Assembly
import Handoff.Catalog.Builtin
import Handoff.Proofs.Component.Elements

/-!
# Generated markup is nested

Which element is to be closed is read off the text that has been generated.  `Node.rendered` knows
it: a container is closed with the name that it was opened with.  Both give the same markup, and its
tags are strictly nested (`markup_generate`).

The induction is over the tree.  What is generated for a node is nested, so that behind the tag of a
container it leaves nothing open but that tag.
-/

namespace Handoff
open Markup (Balanced Nested Scans Tag Token tokens)

/-! ### Rendering with known tags -/

/-- The element of a route around `inner`. -/
def Route.element (s : Setting) (inner : String) (r : Route) : String :=
  match r with
  | .autolayout _ | .frame _ _ | .group _ =>
    (r.piece s false).markup ++ inner ++ Tag.closing r.elementName
  | .icon _ _ | .text _ _ | .rectangle _ _ | .ellipse _ _ | .line _ _ => (r.piece s false).markup
  | .widget i =>
    if (Widget.names.lookup i.layer.name).isSome then (r.piece s false).markup else ""
  | .skip => ""

/-- The element of a node around `inner`; none if the node is hidden. -/
def Node.enclose (s : Setting) (n : Node) (inner : String) : String :=
  if n.isVisible then (Route.ofNode s.catalogs.components n).element s inner else ""

mutual

/-- The markup of a node, closed by name. -/
def Node.rendered (s : Setting) : Node → String
  | .frame r l b cs => Node.enclose s (.frame r l b cs) (renderedAll s cs)
  | .inst l b ps cs es => Node.enclose s (.inst l b ps cs es) (renderedAll s cs)
  | .group l cs => Node.enclose s (.group l cs) (renderedAll s cs)
  | .text l t => Node.enclose s (.text l t) ""
  | .shape f l o => Node.enclose s (.shape f l o) ""
  | .unsupported => Node.enclose s .unsupported ""

/-- The markup of nodes in order. -/
def renderedAll (s : Setting) : List Node → String
  | [] => ""
  | n :: ns => Node.rendered s n ++ renderedAll s ns

end

/-! ### What is assembled -/

theorem Route.element_of_isContainer {s : Setting} {inner : String} {r : Route}
    (h : r.isContainer) :
    r.element s inner = (r.piece s false).markup ++ inner ++ Tag.closing r.elementName := by
  cases r with
  | autolayout | frame | group => rfl
  | icon | widget | text | rectangle | ellipse | line | skip => cases h

theorem Route.element_of_not_isContainer {s : Setting} {inner : String} {r : Route}
    (h : r.isContainer = false) : r.element s inner = (r.piece s false).markup := by
  cases r with
  | autolayout | frame | group => cases h
  | icon | text | rectangle | ellipse | line | skip => rfl
  | widget i =>
      rw [element]
      split
      · rfl
      · next hn =>
          have hnone : Widget.names.lookup i.layer.name = none :=
            Option.not_isSome_iff_eq_none.mp hn
          show "" = (i.piece s).markup
          rw [WidgetInstance.piece, hnone]
          rfl

/-- Behind the tag of a container and nested markup, nothing is left open but that tag. -/
theorem Route.closingTag_piece_append (s : Setting) (grouped : Bool) {r : Route}
    (hr : r.isContainer) {inner : String} (hi : Nested inner) :
    Markup.closingTag ((r.piece s grouped).markup ++ inner) = Tag.closing r.elementName := by
  obtain ⟨ts, hts, hbal⟩ := hi
  have hopen := (scans_piece s grouped hr).append hts
  rw [← String.toList_append] at hopen
  exact Markup.closingTag_eq hopen hbal

theorem Route.nested_element {s : Setting} {r : Route} (hr : r.isContainer) {inner : String}
    (hi : Nested inner) :
    Nested ((r.piece s false).markup ++ inner ++ Tag.closing r.elementName) := by
  obtain ⟨ts, hts, hbal⟩ := hi
  have hscan := ((scans_piece s false hr).append hts).append
    (Tag.scans_closing r.elementName_elementName)
  rw [← String.toList_append, ← String.toList_append] at hscan
  exact ⟨_, hscan, hbal.element _⟩

/-- A node around children whose markup is nested. -/
theorem Node.complete_markup {s : Setting} (hs : s.Flat) {grouped : Bool} {n : Node}
    {children : Except GenerationError Fragment} {f : Fragment} {inner : String}
    (h : n.complete s grouped children = .ok f)
    (hc : ∀ c, children = .ok c → c.markup = inner ∧ Nested c.markup) :
    f.markup = n.enclose s inner ∧ Nested f.markup := by
  rcases complete_cases h with ⟨hv, rfl⟩ | ⟨hv, hr, rfl⟩ | ⟨hv, hr, c, hchildren, rfl⟩
  · rw [enclose, if_neg (by simp [hv])]
    exact ⟨rfl, Markup.nested_empty⟩
  · rw [enclose, if_pos hv, Route.element_of_not_isContainer hr]
    exact ⟨Route.markup_piece s grouped _, Route.nested_piece hs grouped n hr⟩
  · obtain ⟨rfl, hi⟩ := hc c hchildren
    have hclose := Route.closingTag_piece_append s grouped hr hi
    have hmarkup : ((((Route.ofNode s.catalogs.components n).piece s grouped).fragment
        ++ c).close).markup = ((Route.ofNode s.catalogs.components n).piece s false).markup
          ++ c.markup ++ Tag.closing (Route.ofNode s.catalogs.components n).elementName := by
      rw [← Route.markup_piece s grouped, Fragment.markup_close, Fragment.markup_append]
      exact congrArg _ hclose
    rw [hmarkup, enclose, if_pos hv, Route.element_of_isContainer hr]
    exact ⟨rfl, Route.nested_element hr hi⟩

theorem Node.rendered_eq (s : Setting) (n : Node) :
    n.rendered s = n.enclose s (renderedAll s n.children) := by
  cases n with
  | frame | inst | group => rw [rendered, children]
  | text | shape | unsupported => rw [rendered, children, renderedAll]

theorem assembleAll_markup {s : Setting} {ns : List Node}
    (hns : ∀ n ∈ ns, ∀ origin f, n.assemble s origin = .ok f →
      f.markup = n.rendered s ∧ Nested f.markup)
    {origin : Option Point} {f : Fragment} (h : assembleAll s origin ns = .ok f) :
    f.markup = renderedAll s ns ∧ Nested f.markup := by
  induction ns generalizing f with
  | nil =>
      cases h
      exact ⟨rfl, Markup.nested_empty⟩
  | cons n ns ih =>
      obtain ⟨hn, hns⟩ := List.forall_mem_cons.mp hns
      obtain ⟨g, gs, hg, hgs, rfl⟩ := assembleAll_cons h
      obtain ⟨hm, hnest⟩ := hn origin g hg
      obtain ⟨hms, hnests⟩ := ih hns hgs
      rw [Fragment.markup_append, Fragment.markup_bindOrigin]
      exact ⟨by rw [hm, hms, renderedAll], hnest.append hnests⟩

theorem Node.assemble_markup {s : Setting} (hs : s.Flat) (n : Node) :
    ∀ origin f, n.assemble s origin = .ok f → f.markup = n.rendered s ∧ Nested f.markup := by
  induction n using Node.rec_children with
  | step n ih =>
      intro origin f h
      rw [assemble_eq] at h
      rw [rendered_eq]
      exact complete_markup hs h fun c hc => assembleAll_markup ih hc

/-- Generated markup is what closing by name gives, and its tags are strictly nested.  The tag that
is closed behind a container is always the one that its own fragment opened. -/
theorem markup_generate {s : Setting} (hs : s.Flat) {root : Node} {f : Fragment}
    (h : root.generate s = .ok f) :
    f.markup = root.rendered s ∧ Balanced (tokens f.markup.toList) ∧
      ∀ (n : Node) (grouped : Bool) (origin : Option Point) (c : Fragment),
        (Route.ofNode s.catalogs.components n).isContainer →
        assembleAll s origin n.children = .ok c →
        tokens ((Route.ofNode s.catalogs.components n).piece s grouped).markup.toList =
            [.opening (Route.ofNode s.catalogs.components n).elementName.toList] ∧
          Markup.closingTag
              (((Route.ofNode s.catalogs.components n).piece s grouped).markup ++ c.markup) =
            Tag.closing (Route.ofNode s.catalogs.components n).elementName := by
  obtain ⟨hm, hn⟩ := Node.assemble_markup hs root none f (Node.generate_eq_ok h)
  refine ⟨hm, hn.balanced_tokens, fun n grouped origin c hr hc => ⟨?_, ?_⟩⟩
  · exact (Route.scans_piece s grouped hr).tokens_eq
  · have hchildren := assembleAll_markup (fun m _ => Node.assemble_markup hs m) hc
    exact Route.closingTag_piece_append s grouped hr hchildren.2

/-- A layer without paints. -/
def plainLayer (id name : String) (visible : Bool) : Layer :=
  ⟨id, name, visible, 8, 16, 32, 48, 0, 1, [], [], []⟩

def plainBox (mode : LayoutMode) : Box where
  outline := ⟨⟨.uniform 1, none, none, none, none⟩, ⟨.uniform 0, none, none, none, none⟩⟩
  clipsContent := true
  layout := ⟨mode, .noWrap, .min, .min, .fixed, .fixed, .fixed, .fixed, 0, 0, 0, 0, 0, none, none,
    none, none, none⟩

/-- A frame with a group of one radio button in a group of the design, an icon, and a hidden
layer. -/
def nestedScene : Node :=
  .frame .frame (plainLayer "1:1" "A </div>" true) (plainBox .none) [
    .group (plainLayer "1:2" "Group" true) [
      .frame .frame (plainLayer "1:3" "Choice" true) (plainBox .horizontal) [
        .inst (plainLayer "1:4" "Radio" true) (plainBox .none)
          [("label", .text "<b>"), ("showLabel", .boolean true)] [] []]],
    .inst (plainLayer "1:5" "Star" true) (plainBox .none) [] [] [],
    .group (plainLayer "1:6" "Hidden" false) [.unsupported]]

def builtinSetting : Setting := ⟨.builtin, .default⟩

theorem flat_builtinSetting : builtinSetting.Flat :=
  ⟨by decide +kernel, by decide +kernel, by decide +kernel⟩

theorem exists_generate {s : Setting} {root : Node} (h : (root.generate s).toOption.isSome) :
    ∃ f, root.generate s = .ok f := by
  cases hg : root.generate s with
  | error e =>
      rw [hg] at h
      cases h
  | ok f => exact ⟨f, rfl⟩

theorem exists_generate_nestedScene : ∃ f, nestedScene.generate builtinSetting = .ok f :=
  exists_generate (by decide +kernel)

theorem markup_generate_nestedScene :
    ∃ f, builtinSetting.Flat ∧ nestedScene.generate builtinSetting = .ok f ∧
      f.markup = nestedScene.rendered builtinSetting ∧ Balanced (tokens f.markup.toList) := by
  obtain ⟨f, h⟩ := exists_generate_nestedScene
  have hf := markup_generate flat_builtinSetting h
  exact ⟨f, flat_builtinSetting, h, hf.1, hf.2.1⟩

end Handoff
