import Handoff.Proofs.Markup.Element
import Handoff.Proofs.Markup.Preserved
import Mathlib.Data.List.Infix

/-!
# The tag that is closed

The closing tag of a container is not kept while its content is written: it is found by scanning the
markup, and is that of the outermost tag left open.  This is the container's own tag, however deep its
content is nested, as long as the content is balanced (`closingTag_outermost`).

Behind it stands that a text in which every `<` has a `>` further on (`Terminated`) leaves no tag
unfinished: its tags are found whatever stands behind it (`Terminated.scans`).
-/

namespace Handoff.Markup

/-! ### Strict nesting from anywhere -/

/-- Open tags further out make no difference to a strict scan that goes through. -/
theorem foldlM_strictly_append {ts : List Token} {stack stack' : List (List Char)}
    (h : ts.foldlM strictly stack = some stack') (outer : List (List Char)) :
    ts.foldlM strictly (stack ++ outer) = some (stack' ++ outer) := by
  induction ts generalizing stack with
  | nil => rw [Option.some.inj h]; rfl
  | cons t ts ih =>
      rw [List.foldlM_cons] at h ⊢
      obtain ⟨next, hnext, h⟩ := Option.bind_eq_some_iff.mp h
      have ht : strictly (stack ++ outer) t = some (next ++ outer) := by
        cases t with
        | opening name =>
            obtain rfl := Option.some.inj hnext
            rfl
        | closing name =>
            rw [strictly] at hnext
            split at hnext
            · next hs =>
                obtain ⟨rest, rfl⟩ := List.head?_eq_some_iff.mp hs
                obtain rfl := Option.some.inj hnext
                simp [strictly]
            · cases hnext
        | standalone name =>
            obtain rfl := Option.some.inj hnext
            rfl
      rw [ht]
      exact ih h

/-- Nesting is seen from the outside. -/
theorem balanced_iff {ts : List Token} : Balanced ts ↔ ts.foldlM strictly [] = some [] :=
  ⟨fun h => h [], fun h stack => foldlM_strictly_append h stack⟩

/-! ### Names of elements -/

theorem name_of_namedTag? {s name rest : List Char} (h : namedTag? s = some (name, rest)) :
    name.head?.any Char.isAlpha ∧ ∀ c ∈ name, isNameChar c := by
  cases s with
  | nil => cases h
  | cons c s =>
      rw [namedTag?] at h
      split at h
      · next hc =>
          obtain ⟨hsplit, hchars, hrest⟩ := Text.span_eq_iff.mp (Option.some.inj h)
          refine ⟨?_, hchars⟩
          cases name with
          | nil =>
              -- the letter that the tag begins with belongs to its name
              rw [List.nil_append] at hsplit
              rw [hsplit] at hrest
              have hname := isNameChar_of_isAlpha hc
              rw [hrest c (by simp)] at hname
              cases hname
          | cons d name =>
              obtain rfl := (List.cons.inj hsplit).1
              simpa using hc
      · cases h

theorem elementName_of_tokenOf? {inner name : List Char}
    (h : tokenOf? inner = some (.opening name)) : ElementName name := by
  unfold tokenOf? at h
  split at h
  · simp at h
  · obtain ⟨⟨n, rest⟩, hn, htoken⟩ := Option.map_eq_some_iff.mp h
    simp only at htoken
    split at htoken
    · cases htoken
    · next hstandalone =>
        obtain rfl := Token.opening.inj htoken
        rw [Bool.or_eq_true, not_or] at hstandalone
        obtain ⟨halpha, hchars⟩ := name_of_namedTag? hn
        exact ⟨halpha, hchars, Bool.eq_false_iff.mpr hstandalone.2⟩

theorem exists_of_tokenIn? {s : List Char} {t : Token} (h : tokenIn? s = some t) :
    ∃ inner, tokenOf? inner = some t := by
  induction s with
  | nil => cases h
  | cons c s ih =>
      rw [tokenIn?] at h
      split at h
      · next u hu =>
          obtain rfl := Option.some.inj h
          split at hu
          · exact ⟨s, hu⟩
          · cases hu
      · exact ih h

/-- A tag that is open has a name that a closing tag is recognised by. -/
theorem elementName_of_mem_openTags {s name : List Char} (h : name ∈ openTags s) :
    ElementName name := by
  have hopened : ∀ (ts : List Token) (stack : List (List Char)), name ∈ ts.foldl afterToken stack →
      name ∈ stack ∨ .opening name ∈ ts := by
    intro ts
    induction ts with
    | nil => exact fun _ h => .inl h
    | cons t ts ih =>
        intro stack h
        rcases ih (afterToken stack t) h with h | h
        · cases t with
          | opening n =>
              rcases List.mem_cons.mp h with rfl | h
              · exact .inr (by simp)
              · exact .inl h
          | closing n =>
              rw [afterToken] at h
              split at h
              · exact .inl (List.mem_of_mem_tail h)
              · exact .inl h
          | standalone n => exact .inl h
        · exact .inr (List.mem_cons_of_mem t h)
  rw [openTags, List.mem_reverse] at h
  rcases hopened _ _ h with h | h
  · cases h
  · obtain ⟨part, -, htoken⟩ := List.mem_filterMap.mp h
    obtain ⟨inner, hinner⟩ := exists_of_tokenIn? htoken
    exact elementName_of_tokenOf? hinner

/-! ### Texts that leave no tag unfinished -/

/-- A text in which every `<` has a `>` further on. -/
def Terminated (s : List Char) : Prop := ∀ a b, s = a ++ '<' :: b → '>' ∈ b

theorem terminated_iff {s : List Char} :
    Terminated s ↔ ∀ t ∈ s.tails, t.head? = some '<' → '>' ∈ t.tail := by
  constructor
  · intro h t ht hhead
    obtain ⟨a, rfl⟩ := (List.mem_tails _ _).mp ht
    obtain ⟨b, rfl⟩ := List.head?_eq_some_iff.mp hhead
    exact h a b rfl
  · rintro h a b rfl
    exact h ('<' :: b) ((List.mem_tails _ _).mpr (List.suffix_append a _)) rfl

instance : DecidablePred Terminated := fun _ => decidable_of_iff' _ terminated_iff

/-- A text that is one tag and nothing else. -/
def IsTag (s : List Char) (t : Token) : Prop :=
  ∃ inner, s = '<' :: inner ++ ['>'] ∧ '>' ∉ inner ∧ tokenOf? inner = some t

theorem Terminated.append {a b : List Char} (ha : Terminated a) (hb : Terminated b) :
    Terminated (a ++ b) := by
  intro x y h
  rcases List.append_eq_append_iff.mp h with ⟨z, -, hz⟩ | ⟨z, hz, hy⟩
  · exact hb z y hz
  · cases z with
    | nil => exact hb [] y hy.symm
    | cons c z =>
        obtain ⟨rfl, rfl⟩ := List.cons.inj hy
        exact List.mem_append_left b (ha x z hz)

theorem IsTag.terminated {s : List Char} {t : Token} (h : IsTag s t) : Terminated s := by
  obtain ⟨inner, rfl, -, -⟩ := h
  intro a b hab
  have hlast : ('<' :: b).getLast? = some '>' := by
    rw [← List.getLast?_append_cons a '<' b, ← hab, List.getLast?_concat]
  cases b with
  | nil => cases hlast
  | cons c b =>
      rw [List.getLast?_cons_cons] at hlast
      exact List.mem_of_getLast? hlast

/-- The tags of a text without an unfinished one do not depend on what stands behind it. -/
theorem Terminated.scans {a : List Char} (h : Terminated a) : Scans a (tokens a) := by
  intro s
  by_cases hgt : '>' ∈ a.reverse
  · -- behind the last `>` nothing begins a tag
    obtain ⟨v, u, huv, hv⟩ := List.eq_append_cons_of_mem hgt
    obtain rfl : a = u.reverse ++ '>' :: v.reverse := by
      rw [← List.reverse_inj, huv]
      simp
    have hflat : Flat v.reverse := by
      refine ⟨fun hlt => ?_, by simpa using hv⟩
      obtain ⟨x, y, hxy⟩ := List.append_of_mem hlt
      have hy : '>' ∈ y := h (u.reverse ++ '>' :: x) y (by simp [hxy])
      have hmem : '>' ∈ v.reverse := by simp [hxy, hy]
      exact hv (List.mem_reverse.mp hmem)
    rw [List.append_assoc, List.cons_append, tokens_append_cons, tokens_append_cons,
      scans_flat hflat s, (scans_flat hflat).tokens_eq, List.nil_append, List.append_nil]
  · rw [List.mem_reverse] at hgt
    have hflat : Flat a := by
      refine ⟨fun hlt => ?_, hgt⟩
      obtain ⟨x, y, rfl⟩ := List.append_of_mem hlt
      exact hgt (by simp [h x y rfl])
    rw [scans_flat hflat s, (scans_flat hflat).tokens_eq]

theorem IsTag.tokens_eq {s : List Char} {t : Token} (h : IsTag s t) : tokens s = [t] := by
  obtain ⟨inner, rfl, hinner, ht⟩ := h
  have hgt : '>' ∉ '<' :: inner := by simp [hinner]
  rw [tokens_append_cons, List.splitOn_eq_singleton hgt, List.filterMap_cons, tokenIn?,
    if_pos rfl, ht]
  rfl

/-! ### The closing tag -/

/-- The only tag that a text leaves open is closed by the closing tag. -/
theorem Terminated.openTags_closingTag {a : String} {name : List Char} (h : Terminated a.toList)
    (hopen : openTags a.toList = [name]) : openTags (a ++ closingTag a).toList = [] := by
  have hname : ElementName (String.ofList name).toList := by
    rw [String.toList_ofList]
    exact elementName_of_mem_openTags (s := a.toList) (by simp [hopen])
  have hclosing : closingTag a = Tag.closing (String.ofList name) := by
    rw [closingTag, hopen]
    rfl
  have hstack : (tokens a.toList).foldl afterToken [] = [name] := by
    rw [openTags, List.reverse_eq_iff] at hopen
    exact hopen
  rw [openTags, String.toList_append, h.scans, hclosing, (Tag.scans_closing hname).tokens_eq,
    List.foldl_append, hstack, String.toList_ofList]
  simp [afterToken]

/-- A tag is closed behind balanced content, however deep; and in general the only tag that a text
leaves open is closed, since tags are found one text after the other. -/
theorem closingTag_outermost :
    (∀ o b name : String, IsTag o.toList (.opening name.toList) → Terminated b.toList →
      (tokens b.toList).foldlM strictly [] = some [] →
      closingTag (o ++ b) = Tag.closing name ∧
        openTags (o ++ b ++ Tag.closing name).toList = []) ∧
    (∀ a c : List Char, Terminated a → tokens (a ++ c) = tokens a ++ tokens c) ∧
    ∀ (a : String) (name : List Char), Terminated a.toList → openTags a.toList = [name] →
      openTags (a ++ closingTag a).toList = [] := by
  refine ⟨fun o b name ho hb hbal => ?_, fun a c ha => ha.scans c,
    fun a name ha hopen => ha.openTags_closingTag hopen⟩
  have hbalanced : Balanced (tokens b.toList) := balanced_iff.mpr hbal
  have hscans : Scans (o ++ b).toList (.opening name.toList :: tokens b.toList) := by
    rw [String.toList_append, ← List.singleton_append, ← ho.tokens_eq]
    exact ho.terminated.scans.append hb.scans
  have hclosing : closingTag (o ++ b) = Tag.closing name := closingTag_eq hscans hbalanced
  have hopen : openTags (o ++ b).toList = [name.toList] := by
    rw [openTags, hscans.tokens_eq, List.foldl_cons, hbalanced.foldl_afterToken]
    rfl
  have hterminated : Terminated (o ++ b).toList :=
    String.toList_append ▸ ho.terminated.append hb
  refine ⟨hclosing, ?_⟩
  rw [← hclosing]
  exact hterminated.openTags_closingTag hopen

/-- The opening tag of a group, with a `<` in an attribute. -/
def groupOpening : String := "<RadioGroup class=\"<g\" inline>"

/-- An element in an element, elements without content, and a `>` that ends no tag. -/
def groupContent : String := "<p>1 > 0<b></b></p><br><Icon />"

theorem closingTag_outermost_group :
    IsTag groupOpening.toList (.opening "RadioGroup".toList) ∧ Terminated groupContent.toList ∧
      (tokens groupContent.toList).foldlM strictly [] = some [] ∧
      closingTag (groupOpening ++ groupContent) = "</RadioGroup>" ∧
      openTags (groupOpening ++ groupContent ++ "</RadioGroup>").toList = [] ∧
      tokens (groupContent.toList ++ "<p".toList) =
        tokens groupContent.toList ++ tokens "<p".toList ∧
      Terminated groupOpening.toList ∧ openTags groupOpening.toList = ["RadioGroup".toList] ∧
      openTags (groupOpening ++ closingTag groupOpening).toList = [] := by
  have ho : IsTag groupOpening.toList (.opening "RadioGroup".toList) :=
    ⟨"RadioGroup class=\"<g\" inline".toList, by decide, by decide, by decide +kernel⟩
  have hb : Terminated groupContent.toList := by decide
  have hbal : (tokens groupContent.toList).foldlM strictly [] = some [] := by decide +kernel
  have hopen : openTags groupOpening.toList = ["RadioGroup".toList] := by decide +kernel
  obtain ⟨hgroup, hsplit, hclose⟩ := closingTag_outermost
  obtain ⟨hclosing, hopenTags⟩ := hgroup groupOpening groupContent "RadioGroup" ho hb hbal
  exact ⟨ho, hb, hbal, hclosing, hopenTags, hsplit _ "<p".toList hb, ho.terminated, hopen,
    hclose groupOpening _ ho.terminated hopen⟩

end Handoff.Markup
