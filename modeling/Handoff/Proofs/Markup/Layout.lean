import Handoff.Markup.Layout
import Handoff.Proofs.Text.Mark
import Mathlib.Data.List.Induction

/-!
# Formatted markup

Formatting writes the trimmed pieces of a text one behind the other with blanks before each
(`exists_format_eq`), and such a text has just these pieces (`trimmedPieces_join`).  What is written
depends on the trimmed pieces only, so formatted markup is formatted into itself
(`format_format`).
-/

namespace Handoff.Markup
open Text (isBlank trim Blank Trimmed Avoids TagMark)

/-- The pieces that are written. -/
def trimmedPieces (s : List Char) : List (List Char) :=
  ((pieces s).map trim).filter (!·.isEmpty)

/-- A piece that begins with `<`. -/
def Tagged (p : List Char) : Prop := ∃ t, p = '<' :: t ∧ '<' ∉ t

/-! ### Pieces -/

theorem pieces_ne_nil (s : List Char) : pieces s ≠ [] := by
  induction s with
  | nil => simp [pieces]
  | cons c s ih =>
      rw [pieces, List.foldr_cons]
      split
      · simp
      · split <;> simp

theorem pieces_cons (c : Char) (s : List Char) :
    pieces (c :: s) =
      if c = '<' then [] :: (pieces s).modifyHead (c :: ·) else (pieces s).modifyHead (c :: ·) := by
  obtain ⟨p, ps, h⟩ := List.exists_cons_of_ne_nil (pieces_ne_nil s)
  have h' : pieces (c :: s) = if c = '<' then [] :: (c :: p) :: ps else (c :: p) :: ps := by
    rw [pieces, List.foldr_cons, ← pieces, h]
  rw [h', h, List.modifyHead_cons]

theorem pieces_append {a : List Char} (ha : '<' ∉ a) (s : List Char) :
    pieces (a ++ s) = (pieces s).modifyHead (a ++ ·) := by
  induction a with
  | nil =>
      obtain ⟨p, ps, h⟩ := List.exists_cons_of_ne_nil (pieces_ne_nil s)
      simp [h]
  | cons c a ih =>
      simp only [List.mem_cons, not_or] at ha
      obtain ⟨p, ps, h⟩ := List.exists_cons_of_ne_nil (pieces_ne_nil s)
      rw [List.cons_append, pieces_cons, if_neg (Ne.symm ha.1), ih ha.2, h]
      rfl

/-- A text is its pieces; all but the first begin with `<`. -/
theorem exists_pieces_eq (s : List Char) :
    ∃ h ps, pieces s = h :: ps ∧ s = h ++ ps.flatten ∧ '<' ∉ h ∧ ∀ p ∈ ps, Tagged p := by
  induction s with
  | nil => exact ⟨[], [], rfl, rfl, by simp, by simp⟩
  | cons c s ih =>
      obtain ⟨h, ps, hs, rfl, hh, hps⟩ := ih
      rw [pieces_cons, hs, List.modifyHead_cons]
      split
      · next hc =>
          subst hc
          refine ⟨[], ('<' :: h) :: ps, rfl, by simp, by simp, fun p hp => ?_⟩
          rcases List.mem_cons.mp hp with rfl | hp
          · exact ⟨h, rfl, hh⟩
          · exact hps p hp
      · next hc =>
          refine ⟨c :: h, ps, rfl, by simp, ?_, hps⟩
          simp [hh, Ne.symm hc]

theorem Tagged.trim {p : List Char} (hp : Tagged p) : Tagged (trim p) := by
  obtain ⟨t, rfl, ht⟩ := hp
  obtain ⟨a, b, ha, hb, h⟩ := Text.exists_eq_append_trim ('<' :: t)
  cases a with
  | cons c a =>
      rw [List.cons_append, List.cons_append, List.cons.injEq] at h
      exact absurd (ha c (by simp)) (by simp [← h.1, isBlank])
  | nil =>
      cases htrim : Text.trim ('<' :: t) with
      | nil =>
          have hbl : Blank ('<' :: t) := Text.trim_eq_nil_iff.mp htrim
          exact absurd List.mem_cons_self (hbl.not_mem rfl)
      | cons c u =>
          rw [htrim, List.nil_append, List.cons_append, List.cons.injEq] at h
          refine ⟨u, by rw [← h.1], fun hu => ht ?_⟩
          rw [h.2]
          exact List.mem_append_left _ hu

theorem Tagged.ne_nil {p : List Char} (hp : Tagged p) : p ≠ [] := by
  obtain ⟨t, rfl, -⟩ := hp
  simp

/-! ### Pieces with gaps -/

/-- Texts one behind the other, each with what stands before it. -/
def join (gs : List (List Char × List Char)) : List Char :=
  gs.flatMap fun g => g.1 ++ g.2

/-- The piece that is written of a text, unless it is blank. -/
def written (x : List Char) : List (List Char) := if trim x = [] then [] else [trim x]

theorem filter_map_trim_cons (x : List Char) (ps : List (List Char)) :
    ((x :: ps).map trim).filter (!·.isEmpty) = written x ++ (ps.map trim).filter (!·.isEmpty) := by
  rw [written, List.map_cons, List.filter_cons]
  by_cases h : trim x = [] <;> simp [h]

theorem written_append_blank {b : List Char} (x : List Char) (hb : Blank b) :
    written (x ++ b) = written x := by
  rw [written, Text.trim_append_blank x hb, written]

theorem trimmedPieces_of_not_mem {x : List Char} (hx : '<' ∉ x.tail) :
    trimmedPieces x = written x := by
  cases x with
  | nil => rfl
  | cons c x =>
      rw [List.tail_cons] at hx
      have hp : pieces x = [x] := by
        have h := pieces_append hx []
        rw [List.append_nil] at h
        rw [h]
        simp [pieces]
      rw [trimmedPieces, pieces_cons, hp]
      split
      · rw [filter_map_trim_cons, List.modifyHead_cons, filter_map_trim_cons]
        simp [written, show trim [] = [] from rfl]
      · rw [List.modifyHead_cons, filter_map_trim_cons]
        simp

theorem trimmedPieces_append_tag {x : List Char} (hx : '<' ∉ x.tail) (s : List Char) :
    trimmedPieces (x ++ '<' :: s) = written x ++ trimmedPieces ('<' :: s) := by
  have hnil : written [] = [] := rfl
  cases x with
  | nil => rfl
  | cons c x =>
      rw [List.tail_cons] at hx
      have htag : pieces ('<' :: s) = [] :: (pieces s).modifyHead ('<' :: ·) := by
        rw [pieces_cons, if_pos rfl]
      rw [List.cons_append, trimmedPieces, trimmedPieces, pieces_cons, pieces_append hx, htag,
        List.modifyHead_cons, List.modifyHead_cons, List.append_nil, filter_map_trim_cons, hnil,
        List.nil_append]
      split
      · rw [filter_map_trim_cons, filter_map_trim_cons, hnil, List.nil_append]
      · rw [filter_map_trim_cons]

/-- A text that is a first piece and then further ones, with blanks between them, has these
pieces. -/
theorem trimmedPieces_join {x b : List Char} {gs : List (List Char × List Char)}
    (hx : '<' ∉ x.tail) (hgs : ∀ g ∈ gs, Blank g.1 ∧ Tagged g.2) (hb : Blank b) :
    trimmedPieces (x ++ (join gs ++ b)) = written x ++ gs.map (trim ·.2) := by
  -- blanks behind a piece begin no other
  have hblank : ∀ {x g : List Char}, '<' ∉ x.tail → Blank g → '<' ∉ (x ++ g).tail := by
    intro x g hx hg
    have hg' : '<' ∉ g := hg.not_mem rfl
    cases x with
    | nil => exact fun hm => hg' (List.mem_of_mem_tail hm)
    | cons c x =>
        rw [List.cons_append, List.tail_cons, List.mem_append, not_or]
        exact ⟨hx, hg'⟩
  induction gs generalizing x with
  | nil =>
      rw [join, List.flatMap_nil, List.nil_append, trimmedPieces_of_not_mem (hblank hx hb),
        written_append_blank x hb, List.map_nil, List.append_nil]
  | cons g gs ih =>
      obtain ⟨hg, hp⟩ := hgs g (by simp)
      have hne := hp.trim.ne_nil
      obtain ⟨t, ht, hlt⟩ := hp
      have hrest := ih (x := g.2) (by rwa [ht]) fun g' hg' => hgs g' (by simp [hg'])
      have happ : x ++ (join (g :: gs) ++ b) = (x ++ g.1) ++ '<' :: (t ++ (join gs ++ b)) := by
        simp [join, ht]
      have hw : written g.2 = [trim g.2] := if_neg hne
      rw [happ, trimmedPieces_append_tag (hblank hx hg), written_append_blank x hg,
        ← List.cons_append, ← ht, hrest, hw, List.map_cons, List.singleton_append]

/-- Trimmed pieces that begin with `<` are found as they are. -/
theorem trimmedPieces_join_of_map {x b : List Char} {gs : List (List Char × List Char)}
    {ps : List (List Char)} (hx : '<' ∉ x) (hgs : ∀ g ∈ gs, Blank g.1)
    (hps : gs.map Prod.snd = ps) (htag : ∀ p ∈ ps, Tagged p ∧ trim p = p) (hb : Blank b) :
    trimmedPieces (x ++ (join gs ++ b)) = written x ++ ps := by
  have hmem : ∀ g ∈ gs, g.2 ∈ ps := fun g hg => hps ▸ List.mem_map_of_mem hg
  rw [trimmedPieces_join (fun hm => hx (List.mem_of_mem_tail hm))
    (fun g hg => ⟨hgs g hg, (htag _ (hmem g hg)).1⟩) hb, ← hps]
  exact congrArg _ (List.map_congr_left fun g hg => (htag _ (hmem g hg)).2)

/-- The pieces that are written of a text: one that begins it, perhaps, and those that begin with
`<`.  Blanks around the text make no difference. -/
theorem exists_trimmedPieces_eq (s : List Char) :
    ∃ h ps, (∀ a b, Blank a → Blank b → trimmedPieces (a ++ (s ++ b)) = written h ++ ps) ∧
      '<' ∉ h ∧ (∀ p ∈ ps, Tagged p ∧ trim p = p) := by
  obtain ⟨h, ps, -, rfl, hh, hps⟩ := exists_pieces_eq s
  have hgs : ∀ g ∈ ps.map (([] : List Char), ·), Blank g.1 ∧ Tagged g.2 := by
    intro g hg
    obtain ⟨p, hp, rfl⟩ := List.mem_map.mp hg
    exact ⟨Text.blank_nil, hps p hp⟩
  have hjoin : join (ps.map (([] : List Char), ·)) = ps.flatten := by
    simp [join, List.flatMap_map]
  refine ⟨h, ps.map trim, fun a b ha hb => ?_, hh, fun p hp => ?_⟩
  · have hah : '<' ∉ a ++ h := List.not_mem_append (ha.not_mem rfl) hh
    have h' := trimmedPieces_join (fun hm => hah (List.mem_of_mem_tail hm)) hgs hb
    rw [hjoin, List.map_map, written, Text.trim_blank_append h ha] at h'
    rw [List.append_assoc, ← List.append_assoc a]
    exact h'
  · obtain ⟨q, hq, rfl⟩ := List.mem_map.mp hp
    exact ⟨(hps q hq).trim, Text.trim_trim q⟩

theorem trimmedPieces_blank_append_blank (s : List Char) {a b : List Char} (ha : Blank a)
    (hb : Blank b) : trimmedPieces (a ++ (s ++ b)) = trimmedPieces s := by
  obtain ⟨h, ps, heq, -, -⟩ := exists_trimmedPieces_eq s
  have h' := heq [] [] Text.blank_nil Text.blank_nil
  rw [List.nil_append, List.append_nil] at h'
  rw [heq a b ha hb, h']

/-! ### Lines -/

namespace LayoutState

/-- What has been written so far. -/
def text (s : LayoutState) : List Char := ['\n'].intercalate s.lines.reverse

theorem exists_intercalate_snoc (ls : List (List Char)) :
    ∃ g, Blank g ∧ ∀ l, ['\n'].intercalate (ls ++ [l]) = ['\n'].intercalate ls ++ (g ++ l) := by
  induction ls with
  | nil => exact ⟨[], Text.blank_nil, fun l => by simp⟩
  | cons l' ls ih =>
      cases ls with
      | nil => exact ⟨['\n'], by decide, fun l => by simp [List.intercalate_cons_cons]⟩
      | cons l'' ls =>
          obtain ⟨g, hg, h⟩ := ih
          refine ⟨g, hg, fun l => ?_⟩
          rw [List.cons_append, List.intercalate_cons_of_ne_nil (by simp), h,
            List.intercalate_cons_cons, List.append_assoc, List.append_assoc, List.append_assoc]

theorem newLine_text (s : LayoutState) (p : List Char) :
    ∃ g, Blank g ∧ (s.newLine p).text = s.text ++ (g ++ p) := by
  obtain ⟨g, hg, h⟩ := exists_intercalate_snoc s.lines.reverse
  refine ⟨g ++ List.replicate s.stack.length '\t', hg.append fun c hc => ?_, ?_⟩
  · rw [List.eq_of_mem_replicate hc]
    rfl
  · rw [text, newLine, List.reverse_cons, h, text, List.append_assoc]

theorem extendLine_text (s : LayoutState) (p : List Char) :
    (s.extendLine p).text = s.text ++ p := by
  rw [extendLine, text, text]
  split
  · next h => simp [h]
  · next l ls h =>
      obtain ⟨g, -, hg⟩ := exists_intercalate_snoc ls.reverse
      rw [h, List.reverse_cons, List.reverse_cons, hg, hg]
      simp

/-- A piece is written behind what has been written, with blanks before it. -/
theorem write_text (s : LayoutState) (p : List Char) :
    ∃ g, Blank g ∧ (s.write p).text = s.text ++ (g ++ p) := by
  rw [write]
  split
  · next name h =>
      split
      · split
        · exact ⟨[], Text.blank_nil, extendLine_text _ p⟩
        · exact newLine_text { s with stack := s.stack.tail } p
      · exact newLine_text s p
  · exact newLine_text s p
  · exact newLine_text s p

theorem foldl_write_text (ps : List (List Char)) (s : LayoutState) :
    ∃ gs : List (List Char × List Char), (∀ g ∈ gs, Blank g.1) ∧ gs.map Prod.snd = ps ∧
      (ps.foldl write s).text = s.text ++ join gs := by
  induction ps generalizing s with
  | nil => exact ⟨[], by simp, rfl, by simp [join]⟩
  | cons p ps ih =>
      obtain ⟨g, hg, h⟩ := write_text s p
      obtain ⟨gs, hgs, hps, h'⟩ := ih (s.write p)
      refine ⟨(g, p) :: gs, ?_, by rw [List.map_cons, hps], ?_⟩
      · simpa [hg] using hgs
      · rw [List.foldl_cons, h', h, List.append_assoc]
        simp [join]

end LayoutState

theorem exists_format_eq (m : List Char) :
    ∃ gs : List (List Char × List Char), (∀ g ∈ gs, Blank g.1) ∧
      gs.map Prod.snd = trimmedPieces m ∧ format m = join gs := by
  obtain ⟨gs, hgs, hps, h⟩ := LayoutState.foldl_write_text (trimmedPieces m) ⟨[], [], false⟩
  exact ⟨gs, hgs, hps, h⟩

/-! ### Formatting again -/

theorem trimmedPieces_format (m : List Char) {a b : List Char} (ha : Blank a) (hb : Blank b) :
    trimmedPieces (a ++ (format m ++ b)) = trimmedPieces m := by
  obtain ⟨gs, hgs, hps, hm⟩ := exists_format_eq m
  obtain ⟨h, ps, heq, hh, htag⟩ := exists_trimmedPieces_eq m
  have heq := heq [] [] Text.blank_nil Text.blank_nil
  rw [List.nil_append, List.append_nil] at heq
  rw [hm, heq]
  rw [heq] at hps
  -- whether the first piece is written, or begins with `<` as well
  by_cases hw : trim h = []
  · rw [written, if_pos hw, List.nil_append] at hps ⊢
    rw [trimmedPieces_join_of_map (ha.not_mem rfl) hgs hps htag hb, written, if_pos (Text.trim_eq_nil_iff.mpr ha), List.nil_append]
  · rw [written, if_neg hw, List.singleton_append] at hps
    obtain ⟨g, gs, rfl⟩ := List.exists_cons_of_ne_nil (l := gs) (by
      rintro rfl
      cases hps)
    rw [List.map_cons, List.cons.injEq] at hps
    have hg : Blank g.1 := hgs g (by simp)
    have hx : '<' ∉ a ++ g.1 ++ g.2 := by
      simp only [List.mem_append, not_or]
      exact ⟨⟨ha.not_mem rfl, hg.not_mem rfl⟩, fun hm => hh ((Text.trim_isInfix h).subset (hps.1 ▸ hm))⟩
    have htrim : written (a ++ g.1 ++ g.2) = written h := by
      rw [written, Text.trim_blank_append _ (ha.append hg), hps.1, Text.trim_trim, written]
    have happ : a ++ (join (g :: gs) ++ b) = (a ++ g.1 ++ g.2) ++ (join gs ++ b) := by
      simp [join]
    rw [happ, trimmedPieces_join_of_map hx (fun g' hg' => hgs g' (by simp [hg'])) hps.2 htag hb,
      htrim]

theorem format_congr {m m' : List Char} (h : trimmedPieces m = trimmedPieces m') :
    format m = format m' := by
  have h' := congrArg
    (fun ps => ['\n'].intercalate (ps.foldl LayoutState.write ⟨[], [], false⟩).lines.reverse) h
  exact h'

/-- Markup with blanks around it is formatted like the markup by itself. -/
theorem format_blank_append_blank (m : List Char) {a b : List Char} (ha : Blank a)
    (hb : Blank b) : format (a ++ (m ++ b)) = format m :=
  format_congr (trimmedPieces_blank_append_blank m ha hb)

/-- Formatted markup with blanks around it is formatted into itself. -/
theorem format_format (m : List Char) {a b : List Char} (ha : Blank a) (hb : Blank b) :
    format (a ++ (format m ++ b)) = format m :=
  format_congr (trimmedPieces_format m ha hb)

/-! ### Tags in formatted markup -/

theorem avoids_join {mark : List Char} (hm : TagMark mark) {gs : List (List Char × List Char)}
    (hgs : ∀ g ∈ gs, Blank g.1 ∧ Avoids mark g.2) (htag : ∀ g ∈ gs.tail, Tagged g.2) :
    Avoids mark (join gs) := by
  have hnil : Avoids mark [] := hm.avoids (by simp)
  induction gs using List.reverseRecOn with
  | nil => exact hnil
  | append_singleton gs g ih =>
      obtain ⟨hg, hp⟩ := hgs g (by simp)
      have ih := ih (fun g' hg' => hgs g' (by simp [hg']))
        fun g' hg' => htag g' (by
          cases gs with
          | nil => cases hg'
          | cons g'' gs => exact List.mem_append_left _ hg')
      rw [join, List.flatMap_append, List.flatMap_singleton, ← join, ← List.append_assoc]
      cases gs with
      | nil =>
          simpa [join] using hm.blank_append hg hp
      | cons g' gs =>
          -- a mark across the seam would begin with the `<` of the piece
          obtain ⟨t, ht, -⟩ := htag g (by simp)
          rw [ht] at hp ⊢
          obtain ⟨m, rfl, hlt⟩ := hm.exists_eq_cons
          exact Text.avoids_append_start hlt (hm.append_blank ih hg) hp

/-- Formatting markup brings no tag about. -/
theorem avoids_format {mark m : List Char} (hm : TagMark mark) (h : Avoids mark m) :
    Avoids mark (format m) := by
  obtain ⟨gs, hgs, hps, hfmt⟩ := exists_format_eq m
  obtain ⟨x, ps, heq, -, htag⟩ := exists_trimmedPieces_eq m
  have heq := heq [] [] Text.blank_nil Text.blank_nil
  rw [List.nil_append, List.append_nil] at heq
  obtain ⟨hd, tl, hpieces, hcat, -, -⟩ := exists_pieces_eq m
  have hpiece : ∀ p ∈ trimmedPieces m, p <:+: m := by
    intro p hp
    obtain ⟨q, hq, rfl⟩ := List.mem_map.mp (List.mem_of_mem_filter hp)
    refine (Text.trim_isInfix q).trans ?_
    rw [hcat, ← List.flatten_cons, ← hpieces]
    exact List.infix_of_mem_flatten hq
  rw [hfmt]
  refine avoids_join hm (fun g hg => ⟨hgs g hg, ?_⟩) fun g hg => ?_
  · exact h.of_isInfix (hpiece _ (hps ▸ List.mem_map_of_mem hg))
  · have hmem : g.2 ∈ (trimmedPieces m).tail := by
      rw [← hps, ← List.map_tail]
      exact List.mem_map_of_mem hg
    rw [heq, written] at hmem
    split at hmem
    · exact (htag _ (List.mem_of_mem_tail hmem)).1
    · exact (htag _ hmem).1

end Handoff.Markup
