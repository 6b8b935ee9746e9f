import Handoff.Proofs.Style.Layout
import Handoff.Style.Rule

/-!
# Rules and their listing

Rules are rendered on one line each; a style sheet is formatted by taking its text apart at braces
and semicolons.  `listing` says what is to come of it, from the rules and not from their text: one
declaration on a line, and rules without declarations left out.

* `layoutChunk_chunk`: the text of a legible rule, up to the brace that closes it, is laid out as
  the rule is listed.
* `format_render`: so is the text of any number of legible rules.
-/

namespace Handoff.Style
open Text (Blank Part Tight Trimmed parts singleSpaced)

/-! ### Legible rules -/

/-- A property or a value that is read as it is written: it is not empty, has no blanks at its ends,
and nothing in it ends a declaration or a rule. -/
structure Legible (v : String) : Prop where
  ne_empty : v ≠ ""
  trimmed : Trimmed v.toList
  opening_not_mem : '\x7b' ∉ v.toList
  closing_not_mem : '\x7d' ∉ v.toList
  semicolon_not_mem : ';' ∉ v.toList

/-- A rule that is read as it is written. -/
structure Rule.IsLegible (r : Rule) : Prop where
  selector_ne_empty : r.selector ≠ ""
  singleSpaced : singleSpaced r.selector.toList = r.selector.toList
  opening_not_mem : '\x7b' ∉ r.selector.toList
  closing_not_mem : '\x7d' ∉ r.selector.toList
  declarations : ∀ d ∈ r.declarations, Legible d.1 ∧ Legible d.2

/-! ### Listings -/

/-- A declaration on a line of its own. -/
def listedDeclaration (d : String × String) : String := "\t\t" ++ d.1 ++ ": " ++ d.2 ++ ";"

/-- A rule with every declaration on a line of its own. -/
def Rule.listed (r : Rule) : String :=
  "\t" ++ r.selector ++ " \x7b\n" ++ "\n".intercalate (r.declarations.map listedDeclaration)
    ++ "\n\t\x7d"

/-- The rules that declare anything, with a blank line between neighbours. -/
def listing (rules : List Rule) : String :=
  "\n\n".intercalate ((rules.filter fun r => !r.declarations.isEmpty).map Rule.listed)

/-! ### Declarations -/

/-- A declaration without what ends it. -/
def declared (d : String × String) : List Char := d.1.toList ++ [':', ' '] ++ d.2.toList

theorem toList_declaration (d : String × String) :
    (Rule.declaration d).toList = ' ' :: (declared d ++ [';']) := by
  simp [Rule.declaration, declared]

theorem toList_listedDeclaration (d : String × String) :
    (listedDeclaration d).toList = ['\t', '\t'] ++ declared d ++ [';'] := by
  simp [listedDeclaration, declared]

theorem part_declared {d : String × String} (hp : Legible d.1) (hv : Legible d.2) :
    Part ';' (declared d) where
  ne_nil := by simp [declared]
  trimmed :=
    hp.trimmed.append hv.trimmed (by simpa using hp.ne_empty) (by simpa using hv.ne_empty) _
  sep_not_mem := by
    simp only [declared, List.mem_append, not_or]
    exact ⟨⟨hp.semicolon_not_mem, by decide⟩, hv.semicolon_not_mem⟩

theorem closing_not_mem_declared {d : String × String} (hp : Legible d.1) (hv : Legible d.2) :
    '\x7d' ∉ declared d := by
  simp only [declared, List.mem_append, not_or]
  exact ⟨⟨hp.closing_not_mem, by decide⟩, hv.closing_not_mem⟩

/-- Declarations on one line are read one by one. -/
theorem declarations_join {ds : List (String × String)}
    (h : ∀ d ∈ ds, Legible d.1 ∧ Legible d.2) :
    declarations ((String.join (ds.map Rule.declaration)).toList ++ [' ']) = ds.map declared := by
  have hspace : Blank [' '] := by decide
  induction ds with
  | nil => rfl
  | cons d ds ih =>
      obtain ⟨⟨hp, hv⟩, hds⟩ := List.forall_mem_cons.mp h
      have happ : (String.join ((d :: ds).map Rule.declaration)).toList ++ [' '] =
          [' '] ++ (declared d ++
            ';' :: ((String.join (ds.map Rule.declaration)).toList ++ [' '])) := by
        simp [String.join_cons, toList_declaration]
      have hread := (part_declared hp hv).parts_cons rfl
        ((String.join (ds.map Rule.declaration)).toList ++ [' '])
      have htail : parts ';' ((String.join (ds.map Rule.declaration)).toList ++ [' ']) =
          ds.map declared := ih hds
      rw [declarations, happ]
      exact (Text.parts_blank_append rfl hspace _).trans
        (hread.trans (congrArg (declared d :: ·) htail))

/-! ### Rules -/

namespace Rule

/-- The text of a rule up to the brace that closes it. -/
def chunk (r : Rule) : List Char :=
  r.selector.toList
    ++ ' ' :: '\x7b' :: ((String.join (r.declarations.map declaration)).toList ++ [' '])

theorem toList_render (r : Rule) : r.render.toList = r.chunk ++ ['\x7d', '\n'] := by
  simp [render, chunk]

theorem toList_listed (r : Rule) :
    r.listed.toList = layoutRule r.selector.toList (r.declarations.map declared) := by
  have hlines : r.declarations.map (String.toList ∘ listedDeclaration) =
      r.declarations.map fun d => ['\t', '\t'] ++ declared d ++ [';'] :=
    List.map_congr_left fun d _ => toList_listedDeclaration d
  simp only [listed, layoutRule, String.toList_append, String.toList_intercalate, List.map_map,
    hlines]
  simp [Function.comp_def]

namespace IsLegible
variable {r : Rule} (h : r.IsLegible)
include h

theorem closing_not_mem_chunk : '\x7d' ∉ r.chunk := by
  have hdeclarations : '\x7d' ∉ (String.join (r.declarations.map declaration)).toList := by
    rw [String.toList_join]
    intro hm
    obtain ⟨t, ht, hm⟩ := List.mem_flatMap.mp hm
    obtain ⟨d, hd, rfl⟩ := List.mem_map.mp ht
    obtain ⟨hp, hv⟩ := h.declarations d hd
    have hnot := closing_not_mem_declared hp hv
    simp [toList_declaration, hnot] at hm
  simp only [chunk, List.mem_append, List.mem_cons, List.not_mem_nil, or_false, not_or]
  exact ⟨h.closing_not_mem, by decide, by decide, hdeclarations, by decide⟩

/-- A rule is laid out as it is listed, whatever blanks stand before it. -/
theorem layoutChunk_chunk {b : List Char} (hb : Blank b) :
    layoutChunk (b ++ r.chunk) =
      if r.declarations.isEmpty then none else some r.listed.toList := by
  have hne : r.selector.toList ≠ [] := by simpa using h.selector_ne_empty
  have htrimmed : Trimmed r.selector.toList := h.singleSpaced ▸ Text.trimmed_singleSpaced _
  have htight : Tight r.selector.toList := h.singleSpaced ▸ Text.tight_singleSpaced _
  rw [chunk, ← List.append_assoc, layoutChunk_braced hb hne htrimmed htight h.opening_not_mem,
    declarations_join h.declarations, toList_listed]
  simp only [List.map_eq_nil_iff, List.isEmpty_iff]

end IsLegible

end Rule

/-! ### Style sheets -/

theorem filterMap_layoutChunk_render {rules : List Rule} (h : ∀ r ∈ rules, r.IsLegible)
    {b : List Char} (hb : Blank b) :
    ((b ++ (render rules).toList).splitOn '\x7d').filterMap layoutChunk =
      (rules.filter fun r => !r.declarations.isEmpty).map (·.listed.toList) := by
  induction rules generalizing b with
  | nil =>
      have happ : b ++ (render []).toList = b := by simp [render]
      rw [happ, List.splitOn_eq_singleton (hb.not_mem rfl),
        List.filterMap_cons_none (layoutChunk_of_blank hb)]
      rfl
  | cons r rules ih =>
      obtain ⟨hr, hrules⟩ := List.forall_mem_cons.mp h
      have happ : b ++ (render (r :: rules)).toList =
          (b ++ r.chunk) ++ '\x7d' :: (['\n'] ++ (render rules).toList) := by
        simp [render, String.join_cons, r.toList_render]
      have hm : '\x7d' ∉ b ++ r.chunk :=
        List.not_mem_append (hb.not_mem rfl) hr.closing_not_mem_chunk
      -- the line break behind a rule stands before the next one
      have hrest := ih hrules (b := ['\n']) (by decide)
      rw [happ, List.splitOn_append_cons_self_of_not_mem hm, List.filterMap_cons,
        hr.layoutChunk_chunk hb, hrest]
      by_cases hempty : r.declarations.isEmpty
      · rw [if_pos hempty, List.filter_cons_of_neg (by simp [hempty])]
      · rw [if_neg hempty, List.filter_cons_of_pos (by simp [hempty])]
        rfl

/-- Rendered rules are formatted into their listing. -/
theorem format_render {rules : List Rule} (h : ∀ r ∈ rules, r.IsLegible) :
    format (render rules).toList = (listing rules).toList := by
  have hchunks := filterMap_layoutChunk_render h Text.blank_nil
  rw [List.nil_append] at hchunks
  rw [format, hchunks, listing, String.toList_intercalate, List.map_map]
  rfl

end Handoff.Style
