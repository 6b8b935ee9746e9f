import Handoff.Proofs.Text.Mark
import Handoff.Proofs.Text.Parts
import Handoff.Style.Layout

/-!
# Formatted style sheets

Every style sheet is formatted into laid out rules (`exists_rules`), and laid out rules with blanks
around them are formatted into themselves (`filterMap_layoutChunk`).  So a formatted style sheet is
formatted into itself, whatever it was made of (`format_format`).
-/

namespace Handoff.Style
open Text (isBlank singleSpaced parts Part Blank Trimmed Tight Avoids TagMark avoids_intercalate)

/-- A rule as it is read: a selector with single spaces, and declarations. -/
structure LaidOut where
  selector : List Char
  declarations : List (List Char)
  selector_ne_nil : selector ≠ []
  trimmed : Trimmed selector
  tight : Tight selector
  opening_not_mem : '\x7b' ∉ selector
  closing_not_mem : '\x7d' ∉ selector
  declarations_ne_nil : declarations ≠ []
  part : ∀ d ∈ declarations, Part ';' d
  closing_not_mem_part : ∀ d ∈ declarations, '\x7d' ∉ d

/-- A selector with blanks before it, and a body behind the brace. -/
theorem layoutChunk_braced {lead selector body : List Char} (hlead : Blank lead)
    (hne : selector ≠ []) (htrimmed : Trimmed selector) (htight : Tight selector)
    (hopen : '\x7b' ∉ selector) :
    layoutChunk (lead ++ selector ++ ' ' :: '\x7b' :: body) =
      if declarations body = [] then none else some (layoutRule selector (declarations body)) := by
  have hspace : Blank [' '] := by decide
  -- the selector reaches up to the first brace
  have hp : ∀ c ∈ lead ++ selector ++ [' '], (c != '\x7b') = true := by
    intro c hc
    rw [bne_iff_ne]
    rintro rfl
    simp only [List.mem_append, List.mem_singleton] at hc
    rcases hc with (hc | hc) | hc
    · exact hlead.not_mem rfl hc
    · exact hopen hc
    · cases hc
  have happ : lead ++ selector ++ ' ' :: '\x7b' :: body =
      (lead ++ selector ++ [' ']) ++ '\x7b' :: body := by simp
  have hsel : singleSpaced (lead ++ selector ++ [' ']) = selector := by
    rw [Text.singleSpaced_append_blank _ hspace, Text.singleSpaced_blank_append _ hlead,
      Text.singleSpaced_eq_self htrimmed htight]
  rw [layoutChunk, happ, List.takeWhile_append_of_pos hp, List.dropWhile_append_of_pos hp]
  simp only [List.takeWhile_cons, List.dropWhile_cons, bne_self_eq_false, Bool.false_eq_true,
    if_false, List.append_nil, hsel]
  simp [hne]

namespace LaidOut

/-- The lines of the declarations. -/
def lines (r : LaidOut) : List Char :=
  ['\n'].intercalate (r.declarations.map fun d => ['\t', '\t'] ++ d ++ [';'])

/-- The rule without what closes it. -/
def text (r : LaidOut) : List Char :=
  '\t' :: r.selector ++ ' ' :: '\x7b' :: ('\n' :: r.lines ++ ['\n', '\t'])

/-- The rule as it is written. -/
def write (r : LaidOut) : List Char := layoutRule r.selector r.declarations

theorem write_eq (r : LaidOut) : r.write = r.text ++ ['\x7d'] := by
  simp [write, layoutRule, text, lines]

theorem closing_not_mem_text (r : LaidOut) : '\x7d' ∉ r.text := by
  have hl : '\x7d' ∉ r.lines := by
    intro h
    rcases Text.mem_or_of_mem_intercalate h with h | ⟨l, hl, h⟩
    · exact absurd h (by decide)
    · obtain ⟨d, hd, rfl⟩ := List.mem_map.mp hl
      simp only [List.mem_append] at h
      rcases h with (h | h) | h
      · exact absurd h (by decide)
      · exact r.closing_not_mem_part d hd h
      · exact absurd h (by decide)
  simp [text, r.closing_not_mem, hl]

/-! ### Reading a laid out rule -/

theorem declarations_lines {ds : List (List Char)} (h : ∀ d ∈ ds, Part ';' d) {b : List Char}
    (hb : Blank b) :
    parts ';' (['\n'].intercalate (ds.map fun d => ['\t', '\t'] ++ d ++ [';']) ++ b) = ds := by
  have hsep : isBlank ';' = false := rfl
  have ht : Blank ['\t', '\t'] := by decide
  have hl : Blank ['\n'] := by decide
  induction ds with
  | nil => exact Text.parts_of_blank hsep hb
  | cons d ds ih =>
      have hd : Part ';' d := h d (by simp)
      have ih := ih fun e he => h e (by simp [he])
      cases ds with
      | nil =>
          have happ : ['\n'].intercalate ([d].map fun d => ['\t', '\t'] ++ d ++ [';']) ++ b =
              ['\t', '\t'] ++ (d ++ ';' :: b) := by simp
          rw [happ, Text.parts_blank_append hsep ht, hd.parts_cons hsep,
            Text.parts_of_blank hsep hb]
      | cons d' ds =>
          have happ : ['\n'].intercalate ((d :: d' :: ds).map fun d => ['\t', '\t'] ++ d ++ [';'])
              ++ b = ['\t', '\t'] ++ (d ++ ';' :: (['\n'] ++ (['\n'].intercalate
                ((d' :: ds).map fun d => ['\t', '\t'] ++ d ++ [';']) ++ b))) := by
            simp [List.intercalate_cons_cons]
          rw [happ, Text.parts_blank_append hsep ht, hd.parts_cons hsep,
            Text.parts_blank_append hsep hl, ih]

theorem layoutChunk_text (r : LaidOut) {b : List Char} (hb : Blank b) :
    layoutChunk (b ++ r.text) = some r.write := by
  have hlead : Blank (b ++ ['\t']) := hb.append (by decide)
  have hl : Blank ['\n'] := by decide
  have happ : b ++ r.text = b ++ ['\t'] ++ r.selector ++
      ' ' :: '\x7b' :: (['\n'] ++ (r.lines ++ ['\n', '\t'])) := by simp [text]
  have hds : Style.declarations (['\n'] ++ (r.lines ++ ['\n', '\t'])) = r.declarations :=
    (Text.parts_blank_append rfl hl _).trans (declarations_lines r.part (by decide))
  rw [happ, layoutChunk_braced hlead r.selector_ne_nil r.trimmed r.tight r.opening_not_mem, hds,
    if_neg (by simp [r.declarations_ne_nil]), write]

end LaidOut

theorem layoutChunk_of_blank {b : List Char} (hb : Blank b) : layoutChunk b = none := by
  have h : b.dropWhile (· != '\x7b') = [] := by
    rw [List.dropWhile_eq_nil_iff]
    intro c hc
    rw [bne_iff_ne]
    rintro rfl
    exact hb.not_mem rfl hc
  rw [layoutChunk, h]

/-- Laid out rules with blanks around them are read as they are. -/
theorem filterMap_layoutChunk (rs : List LaidOut) {a b : List Char} (ha : Blank a)
    (hb : Blank b) :
    ((a ++ (['\n', '\n'].intercalate (rs.map LaidOut.write) ++ b)).splitOn '\x7d').filterMap
      layoutChunk = rs.map LaidOut.write := by
  induction rs generalizing a with
  | nil =>
      have hab : Blank (a ++ b) := ha.append hb
      rw [List.map_nil, List.intercalate_nil, List.nil_append,
        List.splitOn_eq_singleton (hab.not_mem rfl)]
      simp [layoutChunk_of_blank hab]
  | cons r rs ih =>
      have hm : '\x7d' ∉ a ++ r.text :=
        List.not_mem_append (ha.not_mem rfl) r.closing_not_mem_text
      cases rs with
      | nil =>
          have happ : a ++ (['\n', '\n'].intercalate ([r].map LaidOut.write) ++ b) =
              (a ++ r.text) ++ '\x7d' :: b := by simp [r.write_eq]
          rw [happ, List.splitOn_append_cons_self_of_not_mem hm,
            List.splitOn_eq_singleton (hb.not_mem rfl)]
          simp [r.layoutChunk_text ha, layoutChunk_of_blank hb]
      | cons r' rs =>
          have happ : a ++ (['\n', '\n'].intercalate ((r :: r' :: rs).map LaidOut.write) ++ b) =
              (a ++ r.text) ++ '\x7d' :: (['\n', '\n'] ++
                (['\n', '\n'].intercalate ((r' :: rs).map LaidOut.write) ++ b)) := by
            simp [List.intercalate_cons_cons, r.write_eq]
          rw [happ, List.splitOn_append_cons_self_of_not_mem hm,
            List.filterMap_cons_some (r.layoutChunk_text ha), ih (by decide)]
          rfl

/-! ### Formatting again -/

/-- What is laid out at all is a rule, made of parts of the text between two braces. -/
theorem exists_of_layoutChunk {chunk l : List Char} (hclose : '\x7d' ∉ chunk)
    (h : layoutChunk chunk = some l) :
    ∃ r : LaidOut, l = r.write ∧ r.selector = singleSpaced (chunk.takeWhile (· != '\x7b')) ∧
      ∀ d ∈ r.declarations, d <:+: chunk := by
  have hne : ∀ c ∈ chunk.takeWhile (· != '\x7b'), c ≠ '\x7b' := fun c hc => by
    simpa using List.mem_takeWhile_imp hc
  have happ := List.takeWhile_append_dropWhile (p := (· != '\x7b')) (l := chunk)
  rw [layoutChunk] at h
  generalize chunk.takeWhile (· != '\x7b') = selector at *
  generalize chunk.dropWhile (· != '\x7b') = rest at *
  subst happ
  split at h
  · cases h
  · next c body =>
      simp only [Bool.or_eq_true, List.isEmpty_iff] at h
      split at h
      · cases h
      · next hsome =>
          rw [not_or] at hsome
          have hmem : ∀ c ∈ singleSpaced selector, c ∈ selector ∨ c = ' ' := fun c hc =>
            Text.mem_of_mem_singleSpaced hc
          have hbody : ∀ d ∈ declarations body, Part ';' d ∧ d <:+: body :=
            fun d hd => Text.part_of_mem_parts hd
          refine ⟨⟨singleSpaced selector, declarations body, hsome.1, Text.trimmed_singleSpaced _,
            Text.tight_singleSpaced _, fun hm => ?_, fun hm => ?_, hsome.2,
            fun d hd => (hbody d hd).1, fun d hd hm => ?_⟩, (Option.some.inj h).symm, rfl,
            fun d hd => ?_⟩
          · rcases hmem _ hm with hm | hm
            · exact hne _ hm rfl
            · cases hm
          · rcases hmem _ hm with hm | hm
            · exact hclose (List.mem_append_left _ hm)
            · cases hm
          · exact hclose (by simp [(hbody d hd).2.subset hm])
          · exact (hbody d hd).2.trans ⟨selector ++ [c], [], by simp⟩

/-- A formatted style sheet consists of rules made of parts of the style sheet. -/
theorem exists_rules (style : List Char) :
    ∃ rs : List LaidOut, format style = ['\n', '\n'].intercalate (rs.map LaidOut.write) ∧
      ∀ r ∈ rs, (∃ s, s <:+: style ∧ r.selector = singleSpaced s) ∧
        ∀ d ∈ r.declarations, d <:+: style := by
  suffices h : ∀ chunks : List (List Char), (∀ t ∈ chunks, '\x7d' ∉ t ∧ t <:+: style) →
      ∃ rs : List LaidOut, chunks.filterMap layoutChunk = rs.map LaidOut.write ∧
        ∀ r ∈ rs, (∃ s, s <:+: style ∧ r.selector = singleSpaced s) ∧
          ∀ d ∈ r.declarations, d <:+: style by
    obtain ⟨rs, hrs, hi⟩ := h (style.splitOn '\x7d') fun t => Text.of_mem_splitOn
    exact ⟨rs, congrArg _ hrs, hi⟩
  intro chunks hchunks
  induction chunks with
  | nil => exact ⟨[], rfl, by simp⟩
  | cons t chunks ih =>
      obtain ⟨rs, hrs, hi⟩ := ih fun u hu => hchunks u (by simp [hu])
      obtain ⟨hclose, ht⟩ := hchunks t (by simp)
      cases hl : layoutChunk t with
      | none => exact ⟨rs, by rw [List.filterMap_cons_none hl, hrs], hi⟩
      | some l =>
          obtain ⟨r, rfl, hsel, hds⟩ := exists_of_layoutChunk hclose hl
          refine ⟨r :: rs, by rw [List.filterMap_cons_some hl, hrs]; rfl, fun r' hr' => ?_⟩
          rcases List.mem_cons.mp hr' with rfl | hr'
          · exact ⟨⟨_, (List.takeWhile_prefix _).isInfix.trans ht, hsel⟩,
              fun d hd => (hds d hd).trans ht⟩
          · exact hi r' hr'

/-- A formatted style sheet with blanks around it is formatted into itself. -/
theorem format_format (style : List Char) {a b : List Char} (ha : Blank a) (hb : Blank b) :
    format (a ++ format style ++ b) = format style := by
  obtain ⟨rs, hrs, -⟩ := exists_rules style
  rw [hrs, format, List.append_assoc, filterMap_layoutChunk rs ha hb]

/-- Formatting a style sheet brings no tag about. -/
theorem avoids_format {mark style : List Char} (hm : TagMark mark) (h : Avoids mark style) :
    Avoids mark (format style) := by
  have hnil : Avoids mark [] := hm.avoids (by simp)
  have hl : ∀ x ∈ ['\n'], x ∉ mark := by simpa using hm.not_mem (by decide)
  obtain ⟨rs, hrs, hi⟩ := exists_rules style
  rw [hrs]
  refine avoids_intercalate (by simpa using hl) (by simp) h.ne_nil fun l hl' => ?_
  obtain ⟨r, hr, rfl⟩ := List.mem_map.mp hl'
  obtain ⟨⟨s, hs, hsel⟩, hds⟩ := hi r hr
  have hselector : Avoids mark r.selector :=
    hsel ▸ (h.of_isInfix hs).singleSpaced (hm.not_mem (by decide))
  have hlines : Avoids mark r.lines := by
    refine avoids_intercalate hl (by simp) h.ne_nil fun l hl => ?_
    obtain ⟨d, hd, rfl⟩ := List.mem_map.mp hl
    have hend : Avoids mark (d ++ ';' :: []) :=
      hm.append_cons (by decide) (h.of_isInfix (hds d hd)) hnil
    have htabs : Avoids mark ([] ++ '\t' :: ([] ++ '\t' :: (d ++ ';' :: []))) :=
      hm.append_cons (by decide) hnil (hm.append_cons (by decide) hnil hend)
    simpa using htabs
  have happ : r.write = [] ++ '\t' :: (r.selector ++ ' ' :: (['\x7b'] ++ '\n' ::
      (r.lines ++ '\n' :: ['\t', '\x7d']))) := by
    simp [r.write_eq, LaidOut.text]
  have hclose : Avoids mark ['\t', '\x7d'] := hm.avoids (by decide)
  have hopen : Avoids mark (['\x7b'] ++ '\n' :: (r.lines ++ '\n' :: ['\t', '\x7d'])) :=
    hm.append_cons (by decide) (hm.avoids (by decide))
      (hm.append_cons (by decide) hlines hclose)
  rw [happ]
  exact hm.append_cons (by decide) hnil (hm.append_cons (by decide) hselector hopen)

end Handoff.Style
