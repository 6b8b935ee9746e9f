import Handoff.Proofs.Markup.Element
import Handoff.Proofs.Text.Mark

/-!
# Markup and the tags that it is written with

`Written m ts` says that `m` is texts and elements, nested and one behind the other, whose tags are
`ts` in the order in which they open.  Whatever is in such markup is in one of these tags: its
expressions are theirs (`Written.expressions_eq`), and so are the names of the tags that it is
scanned for (`Written.exists_tag`).  No other tag begins in it, not even in part (`Written.avoids`).
-/

namespace Handoff.Markup
open Text (Avoids)

/-! ### Expressions -/

/-- The expressions in a text: what stands behind a brace that opens, up to the next one that
closes. -/
def expressions : List Char → List (List Char)
  | [] => []
  | c :: s =>
    if c = '\x7b' then s.takeWhile (· ≠ '\x7d') :: expressions s else expressions s

/-- A text contributes expressions, whatever stands behind it. -/
def Embeds (a : List Char) (es : List (List Char)) : Prop :=
  ∀ s, expressions (a ++ s) = es ++ expressions s

theorem Embeds.expressions_eq {a : List Char} {es : List (List Char)} (h : Embeds a es) :
    expressions a = es := by
  have h' := h []
  rwa [List.append_nil, show expressions [] = [] from rfl, List.append_nil] at h'

theorem embeds_nil : Embeds [] [] := fun _ => rfl

theorem Embeds.append {a b : List Char} {es fs : List (List Char)} (ha : Embeds a es)
    (hb : Embeds b fs) : Embeds (a ++ b) (es ++ fs) := by
  intro s
  rw [List.append_assoc, ha, hb, List.append_assoc]

theorem embeds_of_not_mem {a : List Char} (h : '\x7b' ∉ a) : Embeds a [] := by
  intro s
  induction a with
  | nil => rfl
  | cons c a ih =>
      rw [List.mem_cons, not_or] at h
      rw [List.cons_append, expressions, if_neg (Ne.symm h.1), ih h.2]

theorem Bare.embeds {a : List Char} (h : Bare a) : Embeds a [] :=
  embeds_of_not_mem (h.not_mem rfl)

theorem embeds_braces {e : List Char} (h : Bare e) : Embeds ('\x7b' :: e ++ ['\x7d']) [e] := by
  intro s
  have hclose : '\x7b' ∉ e ++ ['\x7d'] := List.not_mem_append (h.not_mem rfl) (by decide)
  have htake : (e ++ '\x7d' :: s).takeWhile (· ≠ '\x7d') = e := by
    rw [List.takeWhile_append_of_pos, List.takeWhile_cons_of_neg (by simp), List.append_nil]
    intro c hc
    have hne : c ≠ '\x7d' := by
      rintro rfl
      exact h.not_mem rfl hc
    simpa using hne
  have happ : ('\x7b' :: e ++ ['\x7d']) ++ s = '\x7b' :: (e ++ '\x7d' :: s) := by simp
  have hrest := embeds_of_not_mem hclose s
  rw [List.append_assoc, List.singleton_append, List.nil_append] at hrest
  rw [happ, expressions, if_pos rfl, htake, hrest, List.singleton_append]

/-! ### Tags -/

/-- The expression that an attribute is given. -/
def Attribute.expr? : Attribute → Option Script.Expr
  | expr _ value => some value
  | text _ _ | verbatim _ _ | flag _ => none

namespace Attribute

@[simp] theorem expr?_text (name value : String) : (text name value).expr? = none := rfl

@[simp] theorem expr?_verbatim (name value : String) : (verbatim name value).expr? = none := rfl

@[simp] theorem expr?_expr (name : String) (value : Script.Expr) :
    (expr name value).expr? = some value := rfl

@[simp] theorem filterMap_expr?_flagIf (name : String) (set : Bool) :
    (flagIf name set).filterMap expr? = [] := by
  rw [flagIf]
  split <;> rfl

end Attribute

/-- The expressions that a tag is given. -/
def Tag.exprs (t : Tag) : List Script.Expr := t.attributes.filterMap Attribute.expr?

/-- Expressions as they stand in the markup. -/
def exprTexts (es : List Script.Expr) : List (List Char) := es.map (·.render.toList)

theorem Attribute.Plain.embeds {a : Attribute} (h : a.Plain) :
    Embeds a.render.toList (exprTexts a.expr?.toList) := by
  cases a with
  | text name value =>
      have happ : (text name value).render.toList =
          [' '] ++ (name.toList ++ (['=', '"'] ++ ((escapeAttribute value).toList ++ ['"']))) := by
        simp [render]
      rw [happ]
      have hv := bare_escapeAttribute value
      exact Bare.embeds (bare_append.mpr ⟨by decide, bare_append.mpr ⟨h,
        bare_append.mpr ⟨by decide, bare_append.mpr ⟨hv, by decide⟩⟩⟩⟩)
  | verbatim name value =>
      have happ : (verbatim name value).render.toList =
          [' '] ++ (name.toList ++ (['=', '"'] ++ (value.toList ++ ['"']))) := by simp [render]
      rw [happ]
      exact Bare.embeds (bare_append.mpr ⟨by decide, bare_append.mpr ⟨h.1,
        bare_append.mpr ⟨by decide, bare_append.mpr ⟨h.2, by decide⟩⟩⟩⟩)
  | expr name value =>
      have happ : (expr name value).render.toList =
          (' ' :: name.toList ++ ['=']) ++ ('\x7b' :: value.render.toList ++ ['\x7d']) := by
        simp [render]
      have hname : '\x7b' ∉ ' ' :: name.toList ++ ['='] := by simpa using h.1.not_mem rfl
      rw [happ]
      exact (embeds_of_not_mem hname).append (embeds_braces h.2)
  | flag name =>
      have happ : (flag name).render.toList = [' '] ++ name.toList := by simp [render]
      rw [happ]
      exact Bare.embeds (bare_append.mpr ⟨by decide, h.1⟩)

theorem ElementName.embeds {name : List Char} (h : ElementName name) : Embeds name [] :=
  embeds_of_not_mem fun hm => absurd (h.chars _ hm) (by decide)

theorem embeds_attributes {as : List Attribute} (h : ∀ a ∈ as, a.Plain) :
    Embeds (String.join (as.map Attribute.render)).toList
      (exprTexts (as.filterMap Attribute.expr?)) := by
  induction as with
  | nil => exact embeds_nil
  | cons a as ih =>
      obtain ⟨ha, has⟩ := List.forall_mem_cons.mp h
      have hexprs : exprTexts ((a :: as).filterMap Attribute.expr?) =
          exprTexts a.expr?.toList ++ exprTexts (as.filterMap Attribute.expr?) := by
        cases hexpr : a.expr? with
        | none => simp [hexpr, exprTexts]
        | some e => simp [hexpr, exprTexts]
      rw [List.map_cons, String.join_cons, String.toList_append, hexprs]
      exact ha.embeds.append (ih has)

theorem Tag.Plain.embeds {t : Tag} (h : t.Plain) :
    Embeds t.opening.toList (exprTexts t.exprs) := by
  have happ : t.opening.toList = ['<'] ++ (t.name.toList ++
      ((String.join (t.attributes.map Attribute.render)).toList ++ ['>'])) := by simp [opening]
  have hbody := (embeds_attributes h.attributes).append
    (embeds_of_not_mem (a := ['>']) (by decide))
  rw [List.append_nil] at hbody
  rw [happ]
  exact (embeds_of_not_mem (a := ['<']) (by decide)).append (h.name.embeds.append hbody)

theorem Tag.embeds_closing {name : String} (h : ElementName name.toList) :
    Embeds (closing name).toList [] := by
  have happ : (closing name).toList = ['<', '/'] ++ (name.toList ++ ['>']) := by simp [closing]
  rw [happ]
  exact (embeds_of_not_mem (a := ['<', '/']) (by decide)).append
    (h.embeds.append (embeds_of_not_mem (a := ['>']) (by decide)))

/-! ### Written markup -/

/-- Texts and elements, with the tags of the elements in the order in which they open. -/
inductive Written : String → List Tag → Prop where
  | text {s : String} (h : Bare s.toList) : Written s []
  | append {a b : String} {ts us : List Tag} (ha : Written a ts) (hb : Written b us) :
      Written (a ++ b) (ts ++ us)
  | element {t : Tag} {content : String} {ts : List Tag} (ht : t.Plain)
      (hc : Written content ts) : Written (t.around content) (t :: ts)

namespace Written

theorem empty : Written "" [] := .text (by decide)

theorem join {α : Type} {f : α → String} {g : α → List Tag} {as : List α}
    (h : ∀ a ∈ as, Written (f a) (g a)) : Written (String.join (as.map f)) (as.flatMap g) := by
  induction as with
  | nil => exact .empty
  | cons a as ih =>
      obtain ⟨ha, has⟩ := List.forall_mem_cons.mp h
      rw [List.map_cons, String.join_cons, List.flatMap_cons]
      exact ha.append (ih has)

/-- The expressions of written markup are those of its tags. -/
theorem embeds {m : String} {ts : List Tag} (h : Written m ts) :
    Embeds m.toList (exprTexts (ts.flatMap Tag.exprs)) := by
  induction h with
  | text h => exact h.embeds
  | append _ _ iha ihb =>
      rw [String.toList_append, List.flatMap_append, exprTexts, List.map_append]
      exact iha.append ihb
  | @element t content ts ht _ ih =>
      have happ : (t.around content).toList =
          t.opening.toList ++ (content.toList ++ (Tag.closing t.name).toList) := by
        simp [Tag.around]
      have h' := ht.embeds.append (ih.append (Tag.embeds_closing ht.name))
      rw [List.append_nil] at h'
      rw [happ, List.flatMap_cons, exprTexts, List.map_append]
      exact h'

theorem expressions_eq {m : String} {ts : List Tag} (h : Written m ts) :
    expressions m.toList = exprTexts (ts.flatMap Tag.exprs) :=
  h.embeds.expressions_eq

end Written

/-- The name of a tag, as it is scanned. -/
def Token.name : Token → List Char
  | opening name | closing name | standalone name => name

/-- Written markup is scanned for opening and closing tags that are among its own. -/
theorem Written.scans {m : String} {ts : List Tag} (h : Written m ts) :
    ∃ ks, Scans m.toList ks ∧ ∀ k ∈ ks, ∃ t ∈ ts, k.name = t.name.toList := by
  induction h with
  | text h => exact ⟨[], scans_flat h.flat, by simp⟩
  | @append a b ts us _ _ iha ihb =>
      obtain ⟨ks, hks, hts⟩ := iha
      obtain ⟨ls, hls, hus⟩ := ihb
      refine ⟨ks ++ ls, String.toList_append ▸ hks.append hls, fun k hk => ?_⟩
      rcases List.mem_append.mp hk with hk | hk
      · obtain ⟨t, ht, hname⟩ := hts k hk
        exact ⟨t, List.mem_append_left _ ht, hname⟩
      · obtain ⟨t, ht, hname⟩ := hus k hk
        exact ⟨t, List.mem_append_right _ ht, hname⟩
  | @element t content ts ht _ ih =>
      obtain ⟨ks, hks, hts⟩ := ih
      refine ⟨_, Tag.scans_around ht.sound hks, fun k hk => ?_⟩
      simp only [List.mem_cons, List.mem_append, List.not_mem_nil, or_false] at hk
      rcases hk with rfl | hk | rfl
      · exact ⟨t, List.mem_cons_self, rfl⟩
      · obtain ⟨u, hu, hname⟩ := hts k hk
        exact ⟨u, List.mem_cons_of_mem _ hu, hname⟩
      · exact ⟨t, List.mem_cons_self, rfl⟩

theorem Written.exists_tag {m : String} {ts : List Tag} (h : Written m ts) :
    ∀ k ∈ tokens m.toList, ∃ t ∈ ts, k.name = t.name.toList := by
  obtain ⟨ks, hks, hts⟩ := h.scans
  rwa [hks.tokens_eq]

/-! ### Marks -/

/-- A text that brings no mark about, whatever stands behind it. -/
def Keeps (mark a : List Char) : Prop := ∀ s, Avoids mark s → Avoids mark (a ++ s)

theorem Keeps.append {mark a b : List Char} (ha : Keeps mark a) (hb : Keeps mark b) :
    Keeps mark (a ++ b) := by
  intro s hs
  rw [List.append_assoc]
  exact ha _ (hb s hs)

theorem keeps_of_not_mem {m a : List Char} {c : Char} (h : c ∉ a) : Keeps (c :: m) a :=
  fun _ => (Text.avoids_append_of_not_mem h).mpr

/-- A tag is known by the character behind its bracket. -/
theorem keeps_tag {m u : List Char} {x c : Char} (hx : c ≠ x) (hu : '<' ∉ c :: u) :
    Keeps ('<' :: x :: m) ('<' :: c :: u) := by
  intro s hs h
  rcases List.infix_cons_iff.mp h with h | h
  · have hprefix := (List.cons_prefix_cons.mp h).2
    exact hx (List.cons_prefix_cons.mp hprefix).1.symm
  · exact (Text.avoids_append_of_not_mem hu).mpr hs h

theorem Written.keeps {m : String} {ts : List Tag} (h : Written m ts) {x : Char}
    (hts : ∀ t ∈ ts, t.name.toList.head? ≠ some x) (hx : x ≠ '/') (rest : List Char) :
    Keeps ('<' :: x :: rest) m.toList := by
  induction h with
  | text h => exact keeps_of_not_mem h.flat.1
  | append _ _ iha ihb =>
      rw [List.forall_mem_append] at hts
      rw [String.toList_append]
      exact (iha hts.1).append (ihb hts.2)
  | @element t content ts ht _ ih =>
      obtain ⟨hname, hts⟩ := List.forall_mem_cons.mp hts
      obtain ⟨hflat, -⟩ := Attribute.Sound.join ht.sound.attributes
      have hlt := ht.name.flat.1
      have halpha := ht.name.alpha
      cases hn : t.name.toList with
      | nil =>
          rw [hn] at halpha
          cases halpha
      | cons c name =>
          rw [hn] at hlt hname
          have hc : c ≠ x := by simpa using hname
          -- both tags are a `<`, another character than `x` and no `<` behind it
          have happ : (t.around content).toList =
              ('<' :: c :: (name ++ ((String.join (t.attributes.map Attribute.render)).toList ++ ['>'])))
                ++ (content.toList ++ ('<' :: '/' :: (c :: name ++ ['>']))) := by
            simp [Tag.around, Tag.opening, Tag.closing, hn]
          rw [happ]
          refine (keeps_tag hc ?_).append ((ih hts).append (keeps_tag (Ne.symm hx) ?_))
          · rw [← List.cons_append]
            exact List.not_mem_append hlt (List.not_mem_append hflat.1 (by decide))
          · exact List.not_mem_cons_of_ne_of_not_mem (by decide)
              (List.not_mem_append hlt (by decide))

/-- No tag begins in written markup but its own. -/
theorem Written.avoids {m : String} {ts : List Tag} (h : Written m ts) {x : Char}
    (hts : ∀ t ∈ ts, t.name.toList.head? ≠ some x) (hx : x ≠ '/') (rest : List Char) :
    Avoids ('<' :: x :: rest) m.toList := by
  have h' := h.keeps hts hx rest [] (Text.avoids_of_not_mem (by simp))
  rwa [List.append_nil] at h'

end Handoff.Markup
