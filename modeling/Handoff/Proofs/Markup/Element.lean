import Handoff.Proofs.Markup.Nesting

/-!
# The tags of written elements

A tag whose attributes hold no angle bracket and do not end like that of an element without content
(`Attribute.Sound`) is scanned as one opening tag, and an element around balanced content as balanced
tags (`scans_opening`, `scans_around`).  Texts of a design are escaped, so nothing is asked of them.

`Attribute.Plain` asks the same of what is written as it is given, and that it holds no brace.
-/

namespace Handoff.Markup
open Text (isBlank trimEnd)

/-! ### Escaped texts -/

theorem bare_flatMap {α : Type} {f : α → List Char} (h : ∀ a, Bare (f a)) (as : List α) :
    Bare (as.flatMap f) := by
  intro c hc
  obtain ⟨a, -, hca⟩ := List.mem_flatMap.mp hc
  exact h a c hca

theorem bare_escapeTextChar (c : Char) : Bare (escapeTextChar c) := by
  rw [escapeTextChar]
  split_ifs with _ hlt hgt hopen hclose
  · decide
  · decide
  · decide
  · decide
  · decide
  · simp [Bare, isBracket, hlt, hgt, hopen, hclose]

theorem bare_escapeText (s : String) : Bare (escapeText s).toList := by
  rw [escapeText, String.toList_ofList]
  exact bare_flatMap bare_escapeTextChar _

theorem bare_escapeAttribute (s : String) : Bare (escapeAttribute s).toList := by
  rw [escapeAttribute, String.toList_ofList]
  refine bare_flatMap (fun c => ?_) _
  rw [escapeAttributeChar]
  split
  · decide
  · exact bare_escapeTextChar c

/-! ### Attributes -/

/-- A character that an attribute can end with. -/
def endsAttribute (c : Char) : Bool := !isBlank c && c != '/'

/-- An attribute that holds no angle bracket, begins with a blank, and does not end with a blank or
a slash. -/
structure Attribute.Sound (a : Attribute) : Prop where
  flat : Flat a.render.toList
  ends : ∃ t c, a.render.toList = ' ' :: t ++ [c] ∧ endsAttribute c

namespace Attribute

theorem sound_of_render {a : Attribute} {t : List Char} {c : Char}
    (h : a.render.toList = ' ' :: t ++ [c]) (ht : Flat (t ++ [c])) (hc : endsAttribute c) :
    a.Sound where
  flat := by
    rw [h]
    simpa [Flat] using ht
  ends := ⟨t, c, h, hc⟩

theorem sound_text {name : String} (hn : Flat name.toList) (value : String) :
    (text name value).Sound := by
  have hv := (bare_escapeAttribute value).flat
  have h : (text name value).render.toList =
      ' ' :: (name.toList ++ ['=', '"'] ++ (escapeAttribute value).toList) ++ ['"'] := by
    simp [render]
  exact sound_of_render h (by simp [Flat, hn.1, hn.2, hv.1, hv.2]) rfl

theorem sound_verbatim {name value : String} (hn : Flat name.toList) (hv : Flat value.toList) :
    (verbatim name value).Sound := by
  have h : (verbatim name value).render.toList =
      ' ' :: (name.toList ++ ['=', '"'] ++ value.toList) ++ ['"'] := by
    simp [render]
  exact sound_of_render h (by simp [Flat, hn.1, hn.2, hv.1, hv.2]) rfl

theorem sound_expr {name : String} {value : Script.Expr} (hn : Flat name.toList)
    (hv : Flat value.render.toList) : (expr name value).Sound := by
  have h : (expr name value).render.toList =
      ' ' :: (name.toList ++ ['=', '\x7b'] ++ value.render.toList) ++ ['\x7d'] := by
    simp [render]
  exact sound_of_render h (by simp [Flat, hn.1, hn.2, hv.1, hv.2]) rfl

theorem sound_flag {name : String} (hf : Flat name.toList)
    (he : name.toList.getLast?.any endsAttribute) : (flag name).Sound := by
  cases hlast : name.toList.getLast? with
  | none =>
      rw [hlast] at he
      cases he
  | some c =>
      obtain ⟨t, ht⟩ := List.getLast?_eq_some_iff.mp hlast
      have hc : endsAttribute c := by simpa [hlast] using he
      have h : (flag name).render.toList = ' ' :: t ++ [c] := by simp [render, ht]
      exact sound_of_render h (ht ▸ hf) hc

/-- An attribute in which nothing stands that tags or expressions begin or end with, but the braces
around an expression. -/
def Plain : Attribute → Prop
  | text name _ => Bare name.toList
  | verbatim name value => Bare name.toList ∧ Bare value.toList
  | expr name value => Bare name.toList ∧ Bare value.render.toList
  | flag name => Bare name.toList ∧ name.toList.getLast?.any endsAttribute

theorem Plain.sound {a : Attribute} (h : a.Plain) : a.Sound := by
  cases a with
  | text name value => exact sound_text h.flat value
  | verbatim name value => exact sound_verbatim h.1.flat h.2.flat
  | expr name value => exact sound_expr h.1.flat h.2.flat
  | flag name => exact sound_flag h.1.flat h.2

theorem plain_flagIf {name : String} (h : (flag name).Plain) (set : Bool) :
    ∀ a ∈ flagIf name set, a.Plain := by
  intro a ha
  rw [flagIf] at ha
  split at ha
  · rwa [List.mem_singleton.mp ha]
  · cases ha

/-- Attributes one behind the other. -/
theorem Sound.join {as : List Attribute} (h : ∀ a ∈ as, a.Sound) :
    Flat (String.join (as.map render)).toList ∧
      ((String.join (as.map render)).toList = [] ∨
        ∃ t c, (String.join (as.map render)).toList = ' ' :: t ++ [c] ∧ endsAttribute c) := by
  induction as with
  | nil => exact ⟨by decide, .inl rfl⟩
  | cons a as ih =>
      obtain ⟨hf, hr⟩ := ih fun b hb => h b (by simp [hb])
      have ha : a.Sound := h a (by simp)
      have happ : (String.join ((a :: as).map render)).toList =
          a.render.toList ++ (String.join (as.map render)).toList := by simp [String.join_cons]
      obtain ⟨t, c, hac, hc⟩ := ha.ends
      rw [happ]
      refine ⟨flat_append.mpr ⟨ha.flat, hf⟩, .inr ?_⟩
      rcases hr with hr | ⟨t', c', hr, hc'⟩
      · exact ⟨t, c, by rw [hr, List.append_nil, hac], hc⟩
      · exact ⟨t ++ [c] ++ ' ' :: t', c', by rw [hr, hac]; simp, hc'⟩

end Attribute

/-! ### Tags -/

/-- A name that a tag is recognised by, of an element that has content. -/
structure ElementName (name : List Char) : Prop where
  alpha : name.head?.any Char.isAlpha
  chars : ∀ c ∈ name, isNameChar c
  content : isVoid name = false

instance : DecidablePred ElementName := fun name =>
  decidable_of_iff (name.head?.any Char.isAlpha ∧ name.all isNameChar ∧ isVoid name = false)
    ⟨fun h => ⟨h.1, List.all_eq_true.mp h.2.1, h.2.2⟩,
      fun h => ⟨h.alpha, List.all_eq_true.mpr h.chars, h.content⟩⟩

theorem ElementName.flat {name : List Char} (h : ElementName name) : Flat name := by
  constructor
  · exact fun hm => absurd (h.chars _ hm) (by decide)
  · exact fun hm => absurd (h.chars _ hm) (by decide)

theorem ElementName.namedTag?_append {name rest : List Char} (h : ElementName name)
    (hrest : ∀ c ∈ rest.head?, isNameChar c = false) :
    namedTag? (name ++ rest) = some (name, rest) := by
  have hspan : (name ++ rest).span isNameChar = (name, rest) :=
    Text.span_eq_iff.mpr ⟨rfl, h.chars, hrest⟩
  have halpha := h.alpha
  cases name with
  | nil => cases halpha
  | cons c name =>
      have hc : c.isAlpha := by simpa using halpha
      rw [List.cons_append] at hspan ⊢
      rw [namedTag?, if_pos hc, hspan]

/-- A tag that is scanned as it is meant. -/
structure Tag.Sound (t : Tag) : Prop where
  name : ElementName t.name.toList
  attributes : ∀ a ∈ t.attributes, a.Sound

/-- A tag whose attributes are plain. -/
structure Tag.Plain (t : Tag) : Prop where
  name : ElementName t.name.toList
  attributes : ∀ a ∈ t.attributes, a.Plain

theorem Tag.Plain.sound {t : Tag} (h : t.Plain) : t.Sound :=
  ⟨h.name, fun a ha => (h.attributes a ha).sound⟩

theorem tokenOf?_opening {name rest : List Char} (h : ElementName name)
    (hrest : rest = [] ∨ ∃ t c, rest = ' ' :: t ++ [c] ∧ endsAttribute c) :
    tokenOf? (name ++ rest) = some (.opening name) := by
  have hhead : ∀ c ∈ rest.head?, isNameChar c = false := by
    rcases hrest with rfl | ⟨t, c, rfl, -⟩
    · simp
    · simp only [List.cons_append, List.head?_cons, Option.mem_some_iff, forall_eq']
      decide
  have hlast : ¬ (trimEnd rest).getLast? = some '/' := by
    rcases hrest with rfl | ⟨t, c, rfl, hc⟩
    · decide
    · simp only [endsAttribute, Bool.and_eq_true, Bool.not_eq_true', bne_iff_ne] at hc
      have htrim : trimEnd (' ' :: t ++ [c]) = ' ' :: t ++ [c] :=
        List.rdropWhile_eq_self_iff.mpr fun _ => by simp [hc.1]
      rw [htrim, List.getLast?_concat]
      simpa using hc.2
  have hnamed := h.namedTag?_append hhead
  have hslash : ∀ cs, name ++ rest ≠ '/' :: cs := by
    intro cs hcs
    have halpha := h.alpha
    cases name with
    | nil => cases halpha
    | cons c name =>
        obtain rfl : c = '/' := (List.cons.inj hcs).1
        cases halpha
  rw [tokenOf?, hnamed]
  · simp [hlast, h.content]
  · exact hslash

theorem tokenOf?_closing {name : List Char} (h : ElementName name) :
    tokenOf? ('/' :: name) = some (.closing name) := by
  have hnamed : namedTag? (name ++ []) = some (name, []) := h.namedTag?_append (by simp)
  rw [List.append_nil] at hnamed
  rw [tokenOf?, hnamed]
  rfl

namespace Tag

theorem scans_opening {t : Tag} (h : t.Sound) :
    Scans t.opening.toList [.opening t.name.toList] := by
  obtain ⟨hflat, hends⟩ := Attribute.Sound.join h.attributes
  have happ : t.opening.toList =
      '<' :: (t.name.toList ++ (String.join (t.attributes.map Attribute.render)).toList) ++ ['>'] := by
    simp [opening]
  rw [happ]
  exact scans_tag (flat_append.mpr ⟨h.name.flat, hflat⟩) (tokenOf?_opening h.name hends)

theorem scans_closing {name : String} (h : ElementName name.toList) :
    Scans (closing name).toList [.closing name.toList] := by
  have happ : (closing name).toList = '<' :: ('/' :: name.toList) ++ ['>'] := by simp [closing]
  rw [happ]
  refine scans_tag ?_ (tokenOf?_closing h)
  have hf := h.flat
  exact ⟨by simp [hf.1], by simp [hf.2]⟩

/-- An element around content. -/
theorem scans_around {t : Tag} (h : t.Sound) {content : String} {ts : List Token}
    (hc : Scans content.toList ts) :
    Scans (t.around content).toList
      (.opening t.name.toList :: (ts ++ [.closing t.name.toList])) := by
  have happ : (t.around content).toList =
      t.opening.toList ++ (content.toList ++ (closing t.name).toList) := by simp [around]
  rw [happ]
  exact (scans_opening h).append (hc.append (scans_closing h.name))

/-- An element around nested content is nested. -/
theorem nested_around {t : Tag} (h : t.Sound) {content : String} (hc : Nested content) :
    Nested (t.around content) := by
  obtain ⟨ts, hts, hbal⟩ := hc
  exact ⟨_, scans_around h hts, hbal.element _⟩

end Tag

end Handoff.Markup
