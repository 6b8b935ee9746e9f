import Handoff.Document.Generate
import Handoff.Proofs.Markup.Layout
import Handoff.Proofs.Script.Preserved
import Handoff.Proofs.Style.Layout

/-!
# Formatted documents

A document whose sections hold no tag of another section's is formatted section by section
(`format_assembled`).  Since no formatter brings a tag about, the sections of a formatted document
are found again, and each of them is formatted into itself: the document is formatted into itself
(`formatDocument_document`).
-/

namespace Handoff.Document
open Text (Blank Avoids TagMark cut_append cut_eq_none avoids_append_cons avoids_append_start)

/-! ### Finding blocks -/

/-- What opens a block. -/
def opening (name attributes : String) : List Char :=
  '<' :: name.toList ++ attributes.toList ++ ['>']

/-- What closes a block. -/
def closing (name : String) : List Char := '<' :: '/' :: name.toList ++ ['>']

theorem closing_eq (name : String) : "</".toList ++ name.toList ++ ['>'] = closing name := by
  simp [closing]

theorem block?_eq_some (name : String) (attributes before after : List Char) {body : List Char}
    (hname : '<' ∉ name.toList) (hbefore : Avoids ('<' :: name.toList) before)
    (hattr : '>' ∉ attributes) (hbody : Avoids (closing name) body) :
    block? name (before ++ ('<' :: name.toList ++ (attributes ++ '>' :: (body ++
      (closing name ++ after))))) = some ⟨attributes, body, before, after⟩ := by
  have hmem : '<' ∉ '/' :: name.toList ++ ['>'] := by simp [hname]
  have h₁ := cut_append hname hbefore (attributes ++ '>' :: (body ++ (closing name ++ after)))
  have h₂ := cut_append (c := '>') (m := []) (by simp) (Text.avoids_of_not_mem hattr)
    (body ++ (closing name ++ after))
  have h₃ : Text.cut (closing name) (body ++ (closing name ++ after)) = some (body, after) :=
    cut_append hmem hbody after
  rw [List.singleton_append] at h₂
  rw [block?, h₁, closing_eq]
  simp only [Option.bind_eq_bind, Option.bind_some, h₂, h₃]
  rfl

/-- A block stands in the document as it is found, and no sooner. -/
theorem of_block?_eq_some {name : String} {document : List Char} {b : Block}
    (h : block? name document = some b) :
    document = b.before ++ ('<' :: name.toList ++ (b.attributes ++ '>' :: (b.body ++
        (closing name ++ b.after)))) ∧
      Avoids ('<' :: name.toList) b.before ∧ Avoids (closing name) b.body := by
  rw [block?, closing_eq] at h
  simp only [Option.bind_eq_bind, Option.bind_eq_some_iff, Option.pure_def, Option.some.injEq,
    Prod.exists] at h
  obtain ⟨before, rest, h₁, attributes, rest', h₂, body, after, h₃, rfl⟩ := h
  obtain ⟨hdocument, hbefore⟩ := Text.cut_eq_some (by simp) h₁
  obtain ⟨rfl, -⟩ := Text.cut_eq_some (by simp) h₂
  obtain ⟨rfl, hbody⟩ := Text.cut_eq_some (by simp [closing]) h₃
  exact ⟨by simpa using hdocument, hbefore, hbody⟩

theorem block?_eq_none {name : String} {document : List Char}
    (h : Avoids ('<' :: name.toList) document) : block? name document = none := by
  rw [block?, cut_eq_none h]
  rfl

/-! ### Documents in sections -/

/-- A block with a body, if there is one. -/
def block (name attributes : String) (body : Option (List Char)) : List Char :=
  body.elim [] fun b => opening name attributes ++ (b ++ closing name)

/-- The block of a script. -/
abbrev scriptBlock (body : Option (List Char)) : List Char := block "script" " lang=\"ts\"" body

/-- The block of a style sheet. -/
abbrev styleBlock (body : Option (List Char)) : List Char := block "style" "" body

/-- A document of a script block, markup and a style block. -/
def assembled (script : Option (List Char)) (markup : List Char) (style : Option (List Char)) :
    List Char :=
  scriptBlock script ++ (markup ++ styleBlock style)

/-- A body on lines of its own, unless it is empty. -/
def onLines (body : List Char) : Option (List Char) :=
  if body = [] then none else some ('\n' :: body ++ ['\n'])

/-- The sections of a formatted document, those that are empty left out. -/
def sections (script markup style : List Char) : List (List Char) :=
  [scriptBlock (onLines script), markup, styleBlock (onLines style)].filter (!·.isEmpty)

/-- The marks that sections are told apart by. -/
abbrev scriptMark : List Char := '<' :: "script".toList

abbrev styleMark : List Char := '<' :: "style".toList

theorem tagMark_marks :
    TagMark scriptMark ∧ TagMark styleMark ∧ TagMark (closing "script") ∧
      TagMark (closing "style") := by
  simp [TagMark, scriptMark, styleMark, closing]

/-- A script that is closed by its own block only, and begins no style block. -/
structure ScriptBody (s : List Char) : Prop where
  closing : Avoids (closing "script") s
  style : Avoids styleMark s

/-- Markup that begins no block. -/
structure MarkupBody (m : List Char) : Prop where
  script : Avoids scriptMark m
  style : Avoids styleMark m

/-- A style sheet that is closed by its own block only, and begins no script block. -/
structure StyleBody (t : List Char) : Prop where
  closing : Avoids (closing "style") t
  script : Avoids scriptMark t

theorem avoids_script_style {script : Option (List Char)} {m : List Char}
    (hs : ∀ s ∈ script, ScriptBody s) (hm : Avoids styleMark m) :
    Avoids styleMark (scriptBlock script ++ m) := by
  cases script with
  | none => exact hm
  | some s =>
      have hlt : '<' ∉ "style".toList := by decide
      have hgt : '>' ∉ styleMark := by decide
      have happ : scriptBlock (some s) ++ m =
          ('<' :: "script".toList ++ " lang=\"ts\"".toList) ++ '>' ::
            (s ++ '<' :: ('/' :: "script".toList ++ '>' :: m)) := by
        simp [block, opening, closing]
      rw [happ]
      refine avoids_append_cons hgt (by decide +kernel)
        (avoids_append_start hlt (hs s rfl).style ?_)
      exact avoids_append_cons (a := '<' :: '/' :: "script".toList) hgt (by decide +kernel) hm

theorem avoids_style_script {style : Option (List Char)} {m : List Char}
    (hm : Avoids scriptMark m) (ht : ∀ t ∈ style, StyleBody t) :
    Avoids scriptMark (m ++ styleBlock style) := by
  cases style with
  | none => simpa [block] using hm
  | some t =>
      have hlt : '<' ∉ "script".toList := by decide
      have hgt : '>' ∉ scriptMark := by decide
      have happ : m ++ styleBlock (some t) =
          m ++ '<' :: ("style".toList ++ '>' :: (t ++ '<' :: ('/' :: "style".toList ++ ['>']))) := by
        simp [block, opening, closing]
      rw [happ]
      refine avoids_append_start hlt hm ?_
      exact avoids_append_cons (a := styleMark) hgt (by decide +kernel)
        (avoids_append_start hlt (ht t rfl).script (by decide +kernel))

section
variable {script style : Option (List Char)} {m : List Char}
  (hs : ∀ s ∈ script, ScriptBody s) (hm : MarkupBody m) (ht : ∀ t ∈ style, StyleBody t)
include hs hm ht

theorem block?_script_assembled :
    block? "script" (assembled script m style) =
      script.map fun s => ⟨" lang=\"ts\"".toList, s, [], m ++ styleBlock style⟩ := by
  cases script with
  | none => exact block?_eq_none (avoids_style_script hm.script ht)
  | some s =>
      have h := block?_eq_some "script" " lang=\"ts\"".toList [] (m ++ styleBlock style) (by decide)
        (tagMark_marks.1.avoids (by simp)) (by decide) (hs s rfl).closing
      refine Eq.trans (congrArg _ ?_) h
      simp [assembled, block, opening]

theorem block?_style_assembled :
    block? "style" (assembled script m style) =
      style.map fun t => ⟨[], t, scriptBlock script ++ m, []⟩ := by
  have hav := avoids_script_style hs hm.style
  cases style with
  | none =>
      have happ : assembled script m none = scriptBlock script ++ m := by simp [assembled, block]
      rw [happ]
      exact block?_eq_none hav
  | some t =>
      have h := block?_eq_some "style" [] (scriptBlock script ++ m) [] (by decide) hav (by simp)
        (ht t rfl).closing
      refine Eq.trans (congrArg _ ?_) h
      simp [assembled, block, opening]

theorem without_blocks_assembled :
    without "style" (without "script" (assembled script m style)) = m := by
  have h₁ : without "script" (assembled script m style) = assembled none m style := by
    rw [without, block?_script_assembled hs hm ht]
    cases script <;> simp [assembled, block]
  have hnone : ∀ s ∈ (none : Option (List Char)), ScriptBody s := by simp
  have h₂ := block?_style_assembled hnone hm ht
  rw [h₁, without, h₂]
  cases style <;> simp [assembled, block]

/-- A document is formatted section by section. -/
theorem format_assembled :
    format (assembled script m style) =
      ['\n', '\n'].intercalate (sections (script.elim [] Script.format) (Markup.format m)
        (style.elim [] Style.format)) := by
  have h₁ : formatBlock "script" Script.format (assembled script m style) =
      scriptBlock (onLines (script.elim [] Script.format)) := by
    rw [formatBlock, block?_script_assembled hs hm ht]
    cases script with
    | none => simp [onLines, block]
    | some s =>
        by_cases h : Script.format s = []
        · simp [h, onLines, block]
        · simp [h, onLines, block, opening, closing]
  have h₂ : formatBlock "style" Style.format (assembled script m style) =
      styleBlock (onLines (style.elim [] Style.format)) := by
    rw [formatBlock, block?_style_assembled hs hm ht]
    cases style with
    | none => simp [onLines, block]
    | some t =>
        by_cases h : Style.format t = []
        · simp [h, onLines, block]
        · simp [h, onLines, block, opening, closing]
  rw [format, h₁, h₂, without_blocks_assembled hs hm ht, sections]

end

/-! ### Formatting again -/

/-- Three sections, those that are empty left out, with blanks around the second. -/
theorem exists_intercalate_filter (x m y : List Char) :
    ∃ a b, Blank a ∧ Blank b ∧
      ['\n', '\n'].intercalate ([x, m, y].filter (!·.isEmpty)) = x ++ (a ++ (m ++ b) ++ y) := by
  have hn : Blank ['\n', '\n'] := by decide
  have hnil : Blank [] := Text.blank_nil
  rcases eq_or_ne x [] with rfl | hx
  · rcases eq_or_ne y [] with rfl | hy
    · exact ⟨[], [], hnil, hnil, by cases m <;> simp⟩
    · rcases eq_or_ne m [] with rfl | hm
      · exact ⟨[], [], hnil, hnil, by simp [hy]⟩
      · exact ⟨[], ['\n', '\n'], hnil, hn, by simp [hy, hm, List.intercalate_cons_cons]⟩
  · rcases eq_or_ne m [] with rfl | hm
    · rcases eq_or_ne y [] with rfl | hy
      · exact ⟨[], [], hnil, hnil, by simp [hx]⟩
      · exact ⟨['\n', '\n'], [], hn, hnil, by simp [hx, hy, List.intercalate_cons_cons]⟩
    · rcases eq_or_ne y [] with rfl | hy
      · exact ⟨['\n', '\n'], [], hn, hnil, by simp [hx, hm, List.intercalate_cons_cons]⟩
      · exact ⟨['\n', '\n'], ['\n', '\n'], hn, hn, by
          simp [hx, hm, hy, List.intercalate_cons_cons]⟩

/-- The sections of a formatted document make up a document again. -/
theorem exists_intercalate_sections (s m t : List Char) :
    ∃ a b, Blank a ∧ Blank b ∧ ['\n', '\n'].intercalate (sections s m t) =
      assembled (onLines s) (a ++ (m ++ b)) (onLines t) :=
  exists_intercalate_filter (scriptBlock (onLines s)) m (styleBlock (onLines t))

theorem scriptBody_onLines {s : List Char} (h : ScriptBody s) :
    ∀ b ∈ onLines (Script.format s), ScriptBody b := by
  obtain ⟨-, hstyle, hclose, -⟩ := tagMark_marks
  have hl : Blank ['\n'] := by decide
  intro b hb
  rw [onLines] at hb
  split at hb
  · cases hb
  · obtain rfl := Option.some.inj hb
    exact ⟨hclose.append_blank (hclose.blank_append hl (Script.avoids_format hclose h.closing)) hl,
      hstyle.append_blank (hstyle.blank_append hl (Script.avoids_format hstyle h.style)) hl⟩

theorem styleBody_onLines {t : List Char} (h : StyleBody t) :
    ∀ b ∈ onLines (Style.format t), StyleBody b := by
  obtain ⟨hscript, -, -, hclose⟩ := tagMark_marks
  have hl : Blank ['\n'] := by decide
  intro b hb
  rw [onLines] at hb
  split at hb
  · cases hb
  · obtain rfl := Option.some.inj hb
    exact ⟨hclose.append_blank (hclose.blank_append hl (Style.avoids_format hclose h.closing)) hl,
      hscript.append_blank (hscript.blank_append hl (Style.avoids_format hscript h.script)) hl⟩

/-- Blanks around markup begin no block. -/
theorem MarkupBody.between {m a b : List Char} (h : MarkupBody m) (ha : Blank a) (hb : Blank b) :
    MarkupBody (a ++ (m ++ b)) := by
  obtain ⟨hscript, hstyle, -, -⟩ := tagMark_marks
  exact ⟨hscript.blank_append ha (hscript.append_blank h.script hb),
    hstyle.blank_append ha (hstyle.append_blank h.style hb)⟩

theorem markupBody_format {m a b : List Char} (h : MarkupBody m) (ha : Blank a) (hb : Blank b) :
    MarkupBody (a ++ (Markup.format m ++ b)) := by
  obtain ⟨hscript, hstyle, -, -⟩ := tagMark_marks
  have hformat : MarkupBody (Markup.format m) :=
    ⟨Markup.avoids_format hscript h.script, Markup.avoids_format hstyle h.style⟩
  exact hformat.between ha hb

/-- A formatted document is formatted into itself. -/
theorem format_intercalate_sections {s m t : List Char} (hs : ScriptBody s) (hm : MarkupBody m)
    (ht : StyleBody t) (he : Script.EndsOutside s)
    (hp : Script.PlainNames (Script.importsOf (Script.statements s))) :
    format (['\n', '\n'].intercalate
        (sections (Script.format s) (Markup.format m) (Style.format t))) =
      ['\n', '\n'].intercalate
        (sections (Script.format s) (Markup.format m) (Style.format t)) := by
  have hl : Blank ['\n'] := by decide
  obtain ⟨a, b, ha, hb, h⟩ :=
    exists_intercalate_sections (Script.format s) (Markup.format m) (Style.format t)
  have hscript : (onLines (Script.format s)).elim [] Script.format = Script.format s := by
    by_cases hnil : Script.format s = []
    · simp [onLines, hnil]
    · simpa [onLines, hnil] using Script.format_format he hp hl hl
  have hstyle : (onLines (Style.format t)).elim [] Style.format = Style.format t := by
    by_cases hnil : Style.format t = []
    · simp [onLines, hnil]
    · simpa [onLines, hnil] using Style.format_format t hl hl
  conv_lhs => rw [h]
  rw [format_assembled (scriptBody_onLines hs) (markupBody_format hm ha hb) (styleBody_onLines ht),
    hscript, hstyle, Markup.format_format m ha hb]

end Handoff.Document

namespace Handoff
open Document

theorem Fragment.document_eq (f : Fragment) :
    f.document.toList =
      assembled (some f.script.toList) ([' '] ++ (f.markup.toList ++ [' ']))
        (some f.style.toList) := by
  have h : f.document = "<script lang=\"ts\">" ++ f.script ++ "</script> " ++ f.markup
    ++ " <style>" ++ f.style ++ "</style>" := rfl
  simp [h, assembled, block, opening, closing]

/-- The document of a component whose sections hold no tag of another section's is formatted
section by section, and formatting it again changes nothing. -/
theorem formatDocument_document (f : Fragment) (hs : ScriptBody f.script.toList)
    (hm : MarkupBody f.markup.toList) (ht : StyleBody f.style.toList)
    (he : Script.EndsOutside f.script.toList)
    (hp : ∀ p ∈ Script.specifiers (Script.importsOf (Script.statements f.script.toList)),
      Script.Plain p.2) :
    formatDocument f.document =
        String.ofList (['\n', '\n'].intercalate (sections (Script.format f.script.toList)
          (Markup.format f.markup.toList) (Style.format f.style.toList))) ∧
      formatDocument (formatDocument f.document) = formatDocument f.document := by
  have hb : Text.Blank [' '] := by decide
  have hp := Script.plainNames_iff.mpr hp
  obtain ⟨hscript, hstyle, -, -⟩ := tagMark_marks
  have hm' : MarkupBody ([' '] ++ (f.markup.toList ++ [' '])) :=
    ⟨hscript.blank_append hb (hscript.append_blank hm.script hb),
      hstyle.blank_append hb (hstyle.append_blank hm.style hb)⟩
  have h : formatDocument f.document = String.ofList (['\n', '\n'].intercalate
      (sections (Script.format f.script.toList) (Markup.format f.markup.toList)
        (Style.format f.style.toList))) := by
    rw [formatDocument, f.document_eq,
      format_assembled (by simpa using hs) hm' (by simpa using ht),
      Markup.format_blank_append_blank _ hb hb, Option.elim_some, Option.elim_some]
  refine ⟨h, ?_⟩
  rw [h, formatDocument, String.toList_ofList, format_intercalate_sections hs hm ht he hp]

/-- A component whose imports are merged, whose markup is indented, and one of whose rules is
empty. -/
def sample : Fragment :=
  ⟨"import \x7bA\x7d from 'x'; let v = 'a;b'; import \x7b B , A \x7d from \"x\";",
    "<div><p>t</p></div>", ".a\x7bcolor:red;;\x7d .empty \x7b \x7d"⟩

theorem formatDocument_document_sample :
    ScriptBody sample.script.toList ∧ MarkupBody sample.markup.toList ∧
      StyleBody sample.style.toList ∧ Script.EndsOutside sample.script.toList ∧
      (∀ p ∈ Script.specifiers (Script.importsOf (Script.statements sample.script.toList)),
        Script.Plain p.2) ∧
      formatDocument (formatDocument sample.document) = formatDocument sample.document := by
  have hs : ScriptBody sample.script.toList := ⟨by decide +kernel, by decide +kernel⟩
  have hm : MarkupBody sample.markup.toList := ⟨by decide +kernel, by decide +kernel⟩
  have ht : StyleBody sample.style.toList := ⟨by decide +kernel, by decide +kernel⟩
  have he : Script.EndsOutside sample.script.toList := by decide +kernel
  have hp : ∀ p ∈ Script.specifiers (Script.importsOf (Script.statements sample.script.toList)),
      Script.Plain p.2 := by decide +kernel
  exact ⟨hs, hm, ht, he, hp, (formatDocument_document sample hs hm ht he hp).2⟩

end Handoff
