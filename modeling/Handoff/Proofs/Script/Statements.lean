import Handoff.Proofs.Text.Words
import Handoff.Script.Layout

/-!
# Splitting a script and writing it again

A script whose scan ends outside of all literals and brackets splits into statements each of which
is scanned from outside to outside without an end of a statement in between (`Whole`).  Statements
of this kind can be written one behind the other, with blanks before each and a semicolon behind,
and splitting gives them back (`statements_cons`, `statements_indented`).

* `walk?`: the scan of a text that holds no end of a statement.
* `cuts`: what `splitFrom` collects, without its accumulators.
* `Whole.trim`, `Whole.singleSpaced`: trimming and single spaces do not change where a scan ends.
-/

namespace Handoff.Script
open Text (isBlank trim singleSpaced Blank Trimmed Spaced)

namespace Position

/-- Literals have one of three quotes, and outside of them no backslash is remembered. -/
structure Valid (p : Position) : Prop where
  quote : ∀ q ∈ p.quote, q = '"' ∨ q = '\'' ∨ q = '\x60'
  escaped : p.quote = none → p.escaped = false

theorem valid_outside : Valid outside :=
  ⟨by simp [outside], fun _ => rfl⟩

theorem Valid.after {p : Position} (h : p.Valid) (c : Char) : (p.after c).Valid := by
  obtain ⟨_ | q, e, d⟩ := p
  · have he : e = false := h.escaped rfl
    subst he
    simp only [Position.after]
    split
    · next hc =>
        simp only [Bool.or_eq_true, beq_iff_eq, or_assoc] at hc
        exact ⟨by simpa using hc, by simp⟩
    · split
      · exact ⟨by simp, by simp⟩
      · split
        · exact ⟨by simp, by simp⟩
        · exact h
  · have hq := h.quote q rfl
    simp only [Position.after]
    split
    · exact ⟨by simpa using hq, by simp⟩
    · split
      · exact ⟨by simpa using hq, by simp⟩
      · split
        · exact ⟨by simp, by simp⟩
        · exact h

theorem Valid.eq_outside {p : Position} (h : p.Valid) (hq : p.quote = none) (hd : p.depth = 0) :
    p = outside := by
  obtain ⟨q, e, d⟩ := p
  obtain rfl : q = none := hq
  obtain rfl : d = 0 := hd
  obtain rfl : e = false := h.escaped rfl
  rfl

theorem endsAt_iff {p : Position} {c : Char} :
    p.endsAt c ↔ p.quote = none ∧ c = ';' ∧ p.depth = 0 := by
  simp [endsAt, and_assoc]

theorem Valid.eq_outside_of_endsAt {p : Position} {c : Char} (h : p.Valid) (hc : p.endsAt c) :
    p = outside ∧ c = ';' :=
  have h' := endsAt_iff.mp hc
  ⟨h.eq_outside h'.1 h'.2.2, h'.2.1⟩

/-- A blank only ends an escape. -/
theorem Valid.after_blank {p : Position} {c : Char} (h : p.Valid) (hc : isBlank c) :
    p.after c = { p with escaped := false } := by
  -- no character that the scan looks for is blank
  have hne : ∀ d : Char, isBlank d = false → c ≠ d := fun d hd hcd => by simp [← hcd, hc] at hd
  obtain ⟨_ | q, e, d⟩ := p
  · have he : e = false := h.escaped rfl
    subst he
    simp [Position.after, hne _ (rfl : isBlank '"' = false), hne _ (rfl : isBlank '\'' = false),
      hne _ (rfl : isBlank '\x60' = false), hne _ (rfl : isBlank '(' = false),
      hne _ (rfl : isBlank '[' = false), hne _ (rfl : isBlank '\x7b' = false),
      hne _ (rfl : isBlank ')' = false), hne _ (rfl : isBlank ']' = false),
      hne _ (rfl : isBlank '\x7d' = false)]
  · have hq : c ≠ q := by
      rcases h.quote q rfl with rfl | rfl | rfl <;> exact hne _ rfl
    cases e <;> simp [Position.after, hq, hne _ (rfl : isBlank '\\' = false)]

/-! ### Scanning one statement -/

/-- The position behind `c`, unless `c` ends a statement. -/
def step? (p : Position) (c : Char) : Option Position :=
  if p.endsAt c then none else some (p.after c)

/-- The position behind `s`, unless some character of `s` ends a statement. -/
def walk? (p : Position) (s : List Char) : Option Position :=
  s.foldlM step? p

@[simp] theorem walk?_nil (p : Position) : p.walk? [] = some p := rfl

theorem walk?_cons (p : Position) (c : Char) (s : List Char) :
    p.walk? (c :: s) = (p.step? c).bind (·.walk? s) :=
  List.foldlM_cons ..

theorem walk?_append (p : Position) (s t : List Char) :
    p.walk? (s ++ t) = (p.walk? s).bind (·.walk? t) :=
  List.foldlM_append ..

theorem walk?_append_of_eq {p q : Position} {s : List Char} (h : p.walk? s = some q)
    (t : List Char) : p.walk? (s ++ t) = q.walk? t := by
  rw [walk?_append, h, Option.bind_some]

theorem Valid.walk? {p q : Position} {s : List Char} (h : p.Valid) (hs : p.walk? s = some q) :
    q.Valid := by
  induction s generalizing p with
  | nil => exact Option.some.inj hs ▸ h
  | cons c s ih =>
      rw [walk?_cons, step?] at hs
      split at hs
      · cases hs
      · exact ih (h.after c) hs

theorem Valid.walk?_blank {p : Position} {b : List Char} (h : p.Valid) (hb : Blank b)
    (hne : b ≠ []) : p.walk? b = some { p with escaped := false } := by
  induction b generalizing p with
  | nil => exact absurd rfl hne
  | cons c b ih =>
      have hc : isBlank c := hb c (by simp)
      have hs : ¬ p.endsAt c := by
        intro h'
        rw [(endsAt_iff.mp h').2.1] at hc
        cases hc
      rw [walk?_cons, step?, if_neg hs, Option.bind_some, h.after_blank hc]
      cases b with
      | nil => rfl
      | cons d b =>
          have hp : Valid { p with escaped := false } := h.after_blank hc ▸ h.after c
          exact ih hp (fun e he => hb e (by simp [he])) (by simp)

theorem walk?_outside_blank {b : List Char} (hb : Blank b) :
    outside.walk? b = some outside := by
  cases b with
  | nil => rfl
  | cons c b => exact valid_outside.walk?_blank hb (by simp)

/-- How many blanks there are between words does not matter. -/
theorem Valid.walk?_spaced {ws : List (List Char)} {s : List Char} {p : Position} (h : p.Valid)
    (hs : Spaced ws s) :
    p.walk? s = p.walk? ([' '].intercalate ws) := by
  induction hs generalizing p with
  | word _ => rw [List.intercalate_singleton]
  | @cons w b s ws _ hb hne hs ih =>
      rw [List.intercalate_cons_of_ne_nil hs.ne_nil, List.append_assoc, List.append_assoc,
        walk?_append, walk?_append p w]
      cases hw : p.walk? w with
      | none => rfl
      | some q =>
          have hq : q.Valid := h.walk? hw
          have hq' : Valid { q with escaped := false } := h.walk? (s := w ++ b) (by
            rw [walk?_append_of_eq hw, hq.walk?_blank hb hne])
          simp only [Option.bind_some]
          rw [walk?_append_of_eq (hq.walk?_blank hb hne),
            walk?_append_of_eq (hq.walk?_blank (b := [' ']) (by simp [Blank, isBlank]) (by simp)),
            ih hq']

end Position

open Position

/-- `s` is scanned from outside to outside, and nothing in it ends a statement. -/
def Whole (s : List Char) : Prop := outside.walk? s = some outside

theorem Whole.trim {s : List Char} (h : Whole s) : Whole (trim s) := by
  obtain ⟨a, b, ha, hb, hs⟩ := Text.exists_eq_append_trim s
  rw [Whole, hs, List.append_assoc, walk?_append_of_eq (walk?_outside_blank ha),
    walk?_append] at h
  cases ht : outside.walk? (Text.trim s) with
  | none =>
      rw [ht] at h
      cases h
  | some p =>
      rw [ht, Option.bind_some] at h
      have hp : p.Valid := valid_outside.walk? ht
      suffices hp' : p = outside by rw [Whole, ht, hp']
      cases b with
      | nil => exact Option.some.inj h
      | cons c b =>
          rw [hp.walk?_blank hb (by simp), Option.some_inj] at h
          exact hp.eq_outside (congrArg Position.quote h) (congrArg Position.depth h)

theorem Whole.singleSpaced {s : List Char} (h : Whole s) : Whole (singleSpaced s) := by
  by_cases hs : Blank s
  · rw [Text.singleSpaced_of_blank hs]
    rfl
  · have hsp := Text.spaced_words (Text.trimmed_trim s) fun h' => hs (Text.trim_eq_nil_iff.mp h')
    rw [Text.words_trim] at hsp
    have h' : outside.walk? (Text.trim s) = some outside := h.trim
    rwa [valid_outside.walk?_spaced hsp] at h'

/-! ### The texts between the ends of statements -/

/-- The texts between the characters that end statements. -/
def cuts (p : Position) : List Char → List (List Char)
  | [] => [[]]
  | c :: s => if p.endsAt c then [] :: cuts p s else (cuts (p.after c) s).modifyHead (c :: ·)

theorem cuts_ne_nil (p : Position) (s : List Char) : cuts p s ≠ [] := by
  induction s generalizing p with
  | nil => simp [cuts]
  | cons c s ih =>
      rw [cuts]
      split
      · simp
      · simp [ih]

theorem splitFrom_eq (p : Position) (seen : List Char) (done : List (List Char))
    (s : List Char) :
    splitFrom p seen done s = done.reverse ++ (cuts p s).modifyHead (seen.reverse ++ ·) := by
  induction s generalizing p seen done with
  | nil => simp [splitFrom, cuts]
  | cons c s ih =>
      obtain ⟨x, xs, hx⟩ := List.exists_cons_of_ne_nil (cuts_ne_nil (p.after c) s)
      obtain ⟨y, ys, hy⟩ := List.exists_cons_of_ne_nil (cuts_ne_nil p s)
      rw [splitFrom, cuts]
      split
      · simp [ih, hy]
      · simp [ih, hx]

theorem statements_eq (script : List Char) :
    statements script = ((cuts .outside script).map trim).filter (!·.isEmpty) := by
  obtain ⟨x, xs, hx⟩ := List.exists_cons_of_ne_nil (cuts_ne_nil outside script)
  rw [statements, splitFrom_eq, hx]
  rfl

theorem cuts_append {p q : Position} {a : List Char} (ha : p.walk? a = some q) (s : List Char) :
    cuts p (a ++ s) = (cuts q s).modifyHead (a ++ ·) := by
  induction a generalizing p with
  | nil =>
      obtain rfl : p = q := Option.some.inj ha
      obtain ⟨x, xs, hx⟩ := List.exists_cons_of_ne_nil (cuts_ne_nil p s)
      simp [hx]
  | cons c a ih =>
      rw [walk?_cons, step?] at ha
      split at ha
      · cases ha
      · next hc =>
          obtain ⟨x, xs, hx⟩ := List.exists_cons_of_ne_nil (cuts_ne_nil q s)
          rw [List.cons_append, cuts, if_neg hc, ih ha, hx]
          rfl

/-- Blanks before a script belong to no statement. -/
theorem statements_blank_append {b : List Char} (hb : Blank b) (s : List Char) :
    statements (b ++ s) = statements s := by
  obtain ⟨x, xs, hx⟩ := List.exists_cons_of_ne_nil (cuts_ne_nil outside s)
  rw [statements_eq, statements_eq, cuts_append (walk?_outside_blank hb), hx]
  simp only [List.modifyHead_cons, List.map_cons, Text.trim_blank_append x hb]

theorem statements_blank {b : List Char} (hb : Blank b) : statements b = [] := by
  rw [← List.append_nil b, statements_blank_append hb]
  rfl

theorem exists_cuts_isInfix (p : Position) (s : List Char) :
    ∃ x xs, cuts p s = x :: xs ∧ x <+: s ∧ ∀ y ∈ xs, y <:+: s := by
  induction s generalizing p with
  | nil => exact ⟨[], [], rfl, List.prefix_rfl, by simp⟩
  | cons c s ih =>
      rw [cuts]
      split
      · obtain ⟨x, xs, hx, hp, hxs⟩ := ih p
        refine ⟨[], x :: xs, by rw [hx], List.nil_prefix, fun y hy => ?_⟩
        rcases List.mem_cons.mp hy with rfl | hy
        · exact List.infix_cons hp.isInfix
        · exact List.infix_cons (hxs y hy)
      · obtain ⟨x, xs, hx, hp, hxs⟩ := ih (p.after c)
        refine ⟨c :: x, xs, by rw [hx]; rfl, List.prefix_cons_inj c |>.mpr hp, fun y hy => ?_⟩
        exact List.infix_cons (hxs y hy)

theorem infix_of_mem_statements {script s : List Char} (hs : s ∈ statements script) :
    s <:+: script := by
  obtain ⟨x, xs, hx, hp, hxs⟩ := exists_cuts_isInfix outside script
  rw [statements_eq, hx, List.mem_filter, List.mem_map] at hs
  obtain ⟨⟨y, hy, rfl⟩, -⟩ := hs
  refine (Text.trim_isInfix y).trans ?_
  rcases List.mem_cons.mp hy with rfl | hy
  · exact hp.isInfix
  · exact hxs y hy

/-! ### Statements by themselves -/

/-- What a splitting of a script consists of. -/
structure Single (s : List Char) : Prop where
  whole : Whole s
  trimmed : Trimmed s
  ne_nil : s ≠ []

theorem statements_cons {s : List Char} (h : Single s) (rest : List Char) :
    statements (s ++ ';' :: rest) = s :: statements rest := by
  have hc : cuts outside (';' :: rest) = [] :: cuts outside rest := rfl
  rw [statements_eq, cuts_append h.whole, hc, statements_eq]
  simp [Text.trim_eq_self h.trimmed, h.ne_nil]

/-- The scan of a script ends outside of all literals and brackets. -/
def EndsOutside (script : List Char) : Prop :=
  (script.foldl Position.after .outside).quote = none ∧
    (script.foldl Position.after .outside).depth = 0

instance : DecidablePred EndsOutside := fun _ => inferInstanceAs (Decidable (_ ∧ _))

theorem Position.Valid.foldl_after {p : Position} (h : p.Valid) (s : List Char) :
    (s.foldl Position.after p).Valid := by
  induction s generalizing p with
  | nil => exact h
  | cons c s ih => exact ih (h.after c)

theorem EndsOutside.foldl_eq {script : List Char} (h : EndsOutside script) :
    script.foldl Position.after .outside = .outside :=
  (valid_outside.foldl_after script).eq_outside h.1 h.2

/-- Where a scan ends outside, so does the scan of every text between ends of statements; the
first of them continues what stands before. -/
theorem exists_cuts_eq {p : Position} {s : List Char} (hp : p.Valid)
    (h : s.foldl Position.after p = outside) :
    ∃ x xs, cuts p s = x :: xs ∧ p.walk? x = some outside ∧ ∀ y ∈ xs, Whole y := by
  induction s generalizing p with
  | nil => exact ⟨[], [], rfl, congrArg some h, by simp⟩
  | cons c s ih =>
      rw [List.foldl_cons] at h
      obtain ⟨x, xs, hx, hw, hxs⟩ := ih (hp.after c) h
      by_cases hc : p.endsAt c
      · obtain ⟨rfl, rfl⟩ := hp.eq_outside_of_endsAt hc
        refine ⟨[], x :: xs, ?_, rfl, fun y hy => ?_⟩
        · exact congrArg _ hx
        · rcases List.mem_cons.mp hy with rfl | hy
          · exact hw
          · exact hxs y hy
      · refine ⟨c :: x, xs, ?_, ?_, hxs⟩
        · rw [cuts, if_neg hc, hx]
          rfl
        · rw [walk?_cons, step?, if_neg hc, Option.bind_some, hw]

theorem single_of_mem_statements {script s : List Char} (h : EndsOutside script)
    (hs : s ∈ statements script) : Single s := by
  obtain ⟨x, xs, hx, hw, hxs⟩ := exists_cuts_eq valid_outside h.foldl_eq
  rw [statements_eq, hx, List.mem_filter, List.mem_map] at hs
  obtain ⟨⟨y, hy, rfl⟩, hne⟩ := hs
  have hyw : Whole y := by
    rcases List.mem_cons.mp hy with rfl | hy
    · exact hw
    · exact hxs y hy
  exact ⟨hyw.trim, Text.trimmed_trim y, by simpa using hne⟩

/-! ### Statements on lines of their own -/

theorem indented_cons (l : List Char) (ls : List (List Char)) :
    indented (l :: ls) = '\t' :: l ++ if ls = [] then [] else '\n' :: indented ls := by
  cases ls with
  | nil => simp [indented]
  | cons l' ls => simp [indented]

theorem statements_indented {sts : List (List Char)} (h : ∀ s ∈ sts, Single s)
    (rest : List Char) :
    statements (indented (sts.map (· ++ [';'])) ++ rest) = sts ++ statements rest := by
  induction sts with
  | nil => rfl
  | cons s sts ih =>
      have hs : Single s := h s (by simp)
      have ht : Blank ['\t'] := by simp [Blank, isBlank]
      have hl : Blank ['\n'] := by simp [Blank, isBlank]
      have ih := ih fun t ht => h t (by simp [ht])
      rw [List.map_cons, indented_cons]
      split
      · next hnil =>
          rw [List.map_eq_nil_iff] at hnil
          subst hnil
          have h' := (statements_blank_append ht (s ++ ';' :: rest)).trans (statements_cons hs rest)
          simpa using h'
      · have h' := (statements_blank_append ht _).trans (statements_cons hs
          (['\n'] ++ (indented (sts.map (· ++ [';'])) ++ rest)))
        rw [statements_blank_append hl, ih] at h'
        simpa using h'

end Handoff.Script
