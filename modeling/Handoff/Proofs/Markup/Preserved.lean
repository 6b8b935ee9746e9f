import Handoff.Proofs.Markup.Layout
import Handoff.Proofs.Markup.Nesting

/-!
# What formatting keeps of markup

Formatting moves blanks only, and only those at the ends of a text and in front of a `<`.  The pieces
that are written of a text, put together without any blank between them, have the tags of the text
(`tokens_flatten_trimmedPieces`) and its other characters (`filter_flatten_trimmedPieces`).  Formatted
markup has the same pieces, so it has the same tags and the same characters, however malformed the
markup is (`tokens_characters_format`).

That tags stay as they are comes down to one blank in front of a `<` inside of what might be a tag: it
ends a name as `<` does, and which element has no content is read off the end of the tag, behind the
`<` (`tokenOf?_append_blank_tag`).
-/

namespace Handoff.Text

theorem isWord_of_isBlank {c : Char} (h : isBlank c) : isWord c = false := by
  have hcodes : ∀ n ∈ blankCodes, isWord (Char.ofNat n) = false := by decide +kernel
  rw [← Char.ofNat_toNat c]
  exact hcodes _ (toNat_mem_blankCodes h)

end Handoff.Text

namespace Handoff.Markup
open Text (isBlank isWord trim trimEnd Blank)

/-! ### Names -/

theorem isNameChar_of_isBlank {c : Char} (h : isBlank c) : isNameChar c = false := by
  have hdash : c ≠ '-' := by
    rintro rfl
    cases h
  simp [isNameChar, Text.isWord_of_isBlank h, hdash]

theorem isNameChar_of_isAlpha {c : Char} (h : c.isAlpha) : isNameChar c := by
  have hlt : c.toNat < 0x80 := by
    have hletter := Text.toNat_of_isAlpha h
    omega
  simp [isNameChar, Text.isWord_of_lt hlt, Char.isAlphanum, h]

theorem namedTag?_cons_of_not {c : Char} (hc : c.isAlpha = false) (w : List Char) :
    namedTag? (c :: w) = none := by
  simp [namedTag?, hc]

/-- What does not continue a name changes nothing about a named tag in front of it. -/
theorem namedTag?_append {w : List Char} (hw : ∀ c ∈ w.head?, isNameChar c = false)
    (y : List Char) :
    namedTag? (y ++ w) = (namedTag? y).map fun t => (t.1, t.2 ++ w) := by
  cases y with
  | nil =>
      cases w with
      | nil => rfl
      | cons c w =>
          have hc : c.isAlpha = false := by
            rw [Bool.eq_false_iff]
            intro ha
            have hn := isNameChar_of_isAlpha ha
            rw [hw c (by simp)] at hn
            cases hn
          exact namedTag?_cons_of_not hc w
  | cons c y =>
      obtain ⟨u, v, huv, hu, hv⟩ := Text.exists_span isNameChar (c :: y)
      have hspan : (c :: y).span isNameChar = (u, v) := Text.span_eq_iff.mpr ⟨huv, hu, hv⟩
      have hspan' : (c :: (y ++ w)).span isNameChar = (u, v ++ w) := by
        refine Text.span_eq_iff.mpr ⟨by rw [← List.append_assoc, huv, List.cons_append], hu, ?_⟩
        cases v with
        | nil => exact hw
        | cons d v => exact hv
      rw [List.cons_append, namedTag?, namedTag?, hspan, hspan']
      split <;> rfl

/-! ### Blanks in front of a tag -/

theorem getLast?_trimEnd_append_cons {c : Char} (hc : isBlank c = false) (r s : List Char) :
    (trimEnd (r ++ c :: s)).getLast? = (trimEnd (c :: s)).getLast? := by
  have hself : ∀ {d : Char} (t : List Char), isBlank d = false →
      trimEnd (t ++ [d]) = t ++ [d] := fun t hd =>
    List.rdropWhile_eq_self_iff.mpr fun _ => by simp [hd]
  induction s using List.reverseRecOn with
  | nil =>
      have hc' : trimEnd [c] = [c] := hself [] hc
      rw [hself r hc, hc', List.getLast?_concat, List.getLast?_singleton]
  | append_singleton s d ih =>
      rw [← List.cons_append, ← List.append_assoc]
      by_cases hd : isBlank d
      · have hb : Blank [d] := by simpa [Blank] using hd
        rw [Text.trimEnd_append_blank _ hb, Text.trimEnd_append_blank _ hb, ih]
      · rw [Bool.not_eq_true] at hd
        rw [hself _ hd, hself _ hd, List.getLast?_concat, List.getLast?_concat]

theorem head?_blank_tag {b : List Char} (hb : Blank b) (u : List Char) :
    ∀ c ∈ (b ++ '<' :: u).head?, isNameChar c = false ∧ c ≠ '/' := by
  intro c hc
  cases b with
  | nil =>
      obtain rfl : '<' = c := Option.some.inj hc
      decide
  | cons d b =>
      obtain rfl : d = c := Option.some.inj hc
      have hd : isBlank d := hb d (by simp)
      refine ⟨isNameChar_of_isBlank hd, ?_⟩
      rintro rfl
      cases hd

/-- What a tag is called and whether it has content, where the text behind the name ends as
`w` does. -/
theorem tokenOf?_append {w : List Char} (hw : ∀ c ∈ w.head?, isNameChar c = false ∧ c ≠ '/')
    {l : Option Char} (hl : ∀ r, (trimEnd (r ++ w)).getLast? = l) (y : List Char) :
    tokenOf? (y ++ w) =
      match y with
      | '/' :: cs => (namedTag? cs).map fun t => .closing t.1
      | cs => (namedTag? cs).map fun t =>
        if l = some '/' || isVoid t.1 then .standalone t.1 else .opening t.1 := by
  have hname : ∀ cs, namedTag? (cs ++ w) = (namedTag? cs).map fun t => (t.1, t.2 ++ w) :=
    namedTag?_append fun c hc => (hw c hc).1
  have hslash : ∀ cs, (∀ ds, cs ≠ '/' :: ds) → ∀ ds, cs ++ w ≠ '/' :: ds := by
    intro cs hcs ds h
    cases cs with
    | nil => exact (hw '/' (by rw [← List.nil_append w, h]; rfl)).2 rfl
    | cons c cs =>
        rw [List.cons_append, List.cons.injEq] at h
        exact hcs cs (by rw [h.1])
  split
  · next cs =>
      rw [List.cons_append, tokenOf?, hname, Option.map_map]
      rfl
  · next hcs =>
      rw [tokenOf?]
      · rw [hname, Option.map_map]
        refine congrArg (fun f => Option.map f _) (funext fun t => ?_)
        simp only [Function.comp_apply, hl]
      · exact hslash _ hcs

/-- Blanks inside of a tag, in front of a `<`, change nothing about it. -/
theorem tokenOf?_append_blank_tag {b : List Char} (hb : Blank b) (y u : List Char) :
    tokenOf? (y ++ (b ++ '<' :: u)) = tokenOf? (y ++ '<' :: u) := by
  have hlast : ∀ {b : List Char} (r : List Char),
      (trimEnd (r ++ (b ++ '<' :: u))).getLast? = (trimEnd ('<' :: u)).getLast? := by
    intro b r
    rw [← List.append_assoc, getLast?_trimEnd_append_cons rfl]
  rw [tokenOf?_append (head?_blank_tag hb u) hlast]
  exact (tokenOf?_append (head?_blank_tag Text.blank_nil u) (hlast (b := [])) y).symm

theorem tokenIn?_append_blank_tag {b : List Char} (hb : Blank b) (x u : List Char) :
    tokenIn? (x ++ (b ++ '<' :: u)) = tokenIn? (x ++ '<' :: u) := by
  induction x with
  | nil => exact tokenIn?_append (hb.not_mem rfl) ('<' :: u)
  | cons c x ih =>
      rw [List.cons_append, List.cons_append, tokenIn?, tokenIn?, ih,
        tokenOf?_append_blank_tag hb]

theorem tokens_of_not_mem {s : List Char} (h : '>' ∉ s) : tokens s = [] := by
  rw [tokens, List.splitOn_eq_singleton h]
  rfl

/-- Behind a `>` tags are looked for anew. -/
theorem tokens_append_cons (x t : List Char) :
    tokens (x ++ '>' :: t) = (x.splitOn '>').filterMap tokenIn? ++ tokens t := by
  rw [tokens, List.splitOn_append_cons_self,
    List.dropLast_append_of_ne_nil (List.splitOn_ne_nil '>' t), List.filterMap_append, ← tokens]

/-- Whether two endings make a difference to the tags is seen behind the last `>`. -/
theorem tokens_append_eq {z w : List Char}
    (h : ∀ x, '>' ∉ x → tokens (x ++ z) = tokens (x ++ w)) (x : List Char) :
    tokens (x ++ z) = tokens (x ++ w) := by
  -- what stands behind the first `>` is shorter
  induction hl : x.length using Nat.strong_induction_on generalizing x with
  | _ l ih =>
  by_cases hx : '>' ∈ x
  · obtain ⟨a, t, rfl, -⟩ := List.eq_append_cons_of_mem hx
    have hlt : t.length < l := by
      simp only [List.length_append, List.length_cons] at hl
      omega
    rw [List.append_assoc, List.append_assoc, List.cons_append, List.cons_append,
      tokens_append_cons, tokens_append_cons, ih t.length hlt t rfl]
  · exact h x hx

theorem tokens_append_blank {b : List Char} (hb : Blank b) (x : List Char) :
    tokens (x ++ b) = tokens x := by
  have h := tokens_append_eq (z := b) (w := []) fun x hx => by
    rw [List.append_nil, tokens_of_not_mem hx,
      tokens_of_not_mem (List.not_mem_append hx (hb.not_mem rfl))]
  rw [h, List.append_nil]

/-- Blanks in front of a `<` change no tag, wherever they are. -/
theorem tokens_append_blank_tag {b : List Char} (hb : Blank b) (x s : List Char) :
    tokens (x ++ (b ++ '<' :: s)) = tokens (x ++ '<' :: s) := by
  refine tokens_append_eq (fun x hx => ?_) x
  -- the tag around the `<` ends at the next `>`, if there is one
  by_cases hs : '>' ∈ '<' :: s
  · obtain ⟨u, t, hut, hu⟩ := List.eq_append_cons_of_mem hs
    obtain ⟨v, rfl⟩ : ∃ v, u = '<' :: v := by
      cases u with
      | nil => simp at hut
      | cons c v =>
          rw [List.cons_append, List.cons.injEq] at hut
          exact ⟨v, by rw [← hut.1]⟩
    have hxv : '>' ∉ x ++ '<' :: v := List.not_mem_append hx hu
    have hxb : '>' ∉ x ++ (b ++ '<' :: v) :=
      List.not_mem_append hx (List.not_mem_append (hb.not_mem rfl) hu)
    have hleft : x ++ (b ++ '<' :: s) = (x ++ (b ++ '<' :: v)) ++ '>' :: t := by simp [hut]
    have hright : x ++ '<' :: s = (x ++ '<' :: v) ++ '>' :: t := by simp [hut]
    rw [hleft, hright, tokens_append_cons, tokens_append_cons, List.splitOn_eq_singleton hxb,
      List.splitOn_eq_singleton hxv, List.filterMap_cons, List.filterMap_cons,
      tokenIn?_append_blank_tag hb]
  · have hxb : '>' ∉ b ++ '<' :: s := List.not_mem_append (hb.not_mem rfl) hs
    rw [tokens_of_not_mem (List.not_mem_append hx hxb),
      tokens_of_not_mem (List.not_mem_append hx hs)]

/-! ### The pieces of a text -/

theorem Tagged.exists_eq_trim_append {p : List Char} (hp : Tagged p) :
    ∃ b, Blank b ∧ p = Text.trim p ++ b := by
  obtain ⟨a, b, ha, hb, h⟩ := Text.exists_eq_append_trim p
  obtain ⟨t, rfl, -⟩ := hp
  cases a with
  | nil => exact ⟨b, hb, h⟩
  | cons c a =>
      -- a piece begins with `<`, which is no blank
      rw [List.cons_append, List.cons_append, List.cons.injEq] at h
      exact absurd (ha c (by simp)) (by simp [← h.1, isBlank])

theorem tokens_append_blank_flatten {b : List Char} (hb : Blank b) {ps : List (List Char)}
    (hps : ∀ p ∈ ps, Tagged p) (x : List Char) :
    tokens (x ++ (b ++ ps.flatten)) = tokens (x ++ ps.flatten) := by
  cases ps with
  | nil => simp [tokens_append_blank hb]
  | cons p ps =>
      obtain ⟨t, rfl, -⟩ := hps p (by simp)
      exact tokens_append_blank_tag hb x (t ++ ps.flatten)

/-- Trimming pieces changes no tag. -/
theorem tokens_append_flatten_trim {ps : List (List Char)} (hps : ∀ p ∈ ps, Tagged p)
    (x : List Char) : tokens (x ++ (ps.map trim).flatten) = tokens (x ++ ps.flatten) := by
  induction ps generalizing x with
  | nil => rfl
  | cons p ps ih =>
      obtain ⟨hp, hps⟩ := List.forall_mem_cons.mp hps
      obtain ⟨b, hb, h⟩ := hp.exists_eq_trim_append
      have h' := ih hps (x ++ trim p)
      rw [← tokens_append_blank_flatten hb hps] at h'
      rw [List.map_cons, List.flatten_cons, ← List.append_assoc, h', List.flatten_cons]
      conv_rhs => rw [h]
      simp

theorem flatten_trimmedPieces (s : List Char) :
    (trimmedPieces s).flatten = ((pieces s).map trim).flatten :=
  List.flatten_filter_not_isEmpty

/-- The pieces that are written of a text have its tags, -/
theorem tokens_flatten_trimmedPieces (s : List Char) :
    tokens (trimmedPieces s).flatten = tokens s := by
  obtain ⟨h, ps, heq, rfl, -, hps⟩ := exists_pieces_eq s
  obtain ⟨a, b, ha, hb, hh⟩ := Text.exists_eq_append_trim h
  have hflat : Flat a := ⟨ha.not_mem rfl, ha.not_mem rfl⟩
  rw [flatten_trimmedPieces, heq, List.map_cons, List.flatten_cons, tokens_append_flatten_trim hps,
    ← tokens_append_blank_flatten hb hps]
  conv_rhs => rw [hh, List.append_assoc, List.append_assoc, scans_flat hflat, List.nil_append]

theorem filter_trim (s : List Char) : (trim s).filter (!isBlank ·) = s.filter (!isBlank ·) := by
  obtain ⟨a, b, ha, hb, h⟩ := Text.exists_eq_append_trim s
  have hblank : ∀ {b : List Char}, Blank b → b.filter (!isBlank ·) = [] := fun hb =>
    List.filter_eq_nil_iff.mpr fun c hc => by simp [hb c hc]
  conv_rhs => rw [h, List.filter_append, List.filter_append, hblank ha, hblank hb]
  simp

/-- and its characters other than blanks. -/
theorem filter_flatten_trimmedPieces (s : List Char) :
    (trimmedPieces s).flatten.filter (!isBlank ·) = s.filter (!isBlank ·) := by
  obtain ⟨h, ps, heq, hs, -, -⟩ := exists_pieces_eq s
  have hs : s = (pieces s).flatten := by rw [heq, List.flatten_cons, ← hs]
  conv_rhs => rw [hs]
  rw [flatten_trimmedPieces, List.filter_flatten, List.filter_flatten, List.map_map]
  exact congrArg _ (List.map_congr_left fun p _ => filter_trim p)

/-- Formatting keeps the tags of a text and all its characters but blanks, and formatting again
changes nothing, whether the text is well formed or not. -/
theorem tokens_characters_format (m : List Char) :
    tokens (format m) = tokens m ∧
      (format m).filter (!isBlank ·) = m.filter (!isBlank ·) ∧ format (format m) = format m := by
  have hpieces : trimmedPieces (format m) = trimmedPieces m := by
    have h := trimmedPieces_format m Text.blank_nil Text.blank_nil
    rwa [List.nil_append, List.append_nil] at h
  refine ⟨?_, ?_, format_congr hpieces⟩
  · rw [← tokens_flatten_trimmedPieces, hpieces, tokens_flatten_trimmedPieces]
  · rw [← filter_flatten_trimmedPieces, hpieces, filter_flatten_trimmedPieces]

end Handoff.Markup
