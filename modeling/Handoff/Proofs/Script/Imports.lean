import Handoff.Proofs.Script.Statements
import Handoff.Proofs.Text.Mark
import Handoff.Proofs.Text.Parts

/-!
# Reading imports and writing them

`Import.ofStatement` reads a statement; `Import.statement` writes what is read.  What has been read
reads back as itself when it is written (`ofStatement_statement_named`), and is written as a
statement of its own when the specifiers are plain: without quotes, brackets and semicolons
(`single_statement_named`).

* `finalQuoted?_eq_some_iff`, `exists_clause_eq`, `bracedNames?_clause`: the two parsers, by the
  texts they accept.
* `splitNames_intercalate`: the names in braces, written with commas, are read back.
-/

namespace Handoff.Script
open Text (isBlank trim singleSpaced parts Part Blank Trimmed Tight Spaced)
open Position

/-! ### The module at the end -/

theorem finalQuoted?_eq_some_iff {s clause source : List Char} :
    finalQuoted? s = some (clause, source) ↔
      ∃ q r, s = clause ++ q :: source ++ [r] ∧ isQuote q ∧ isQuote r ∧ source ≠ [] ∧
        ∀ c ∈ source, isQuote c = false := by
  constructor
  · intro h
    rw [finalQuoted?] at h
    split at h
    · next r cs hcs =>
        obtain ⟨text, before, hspan⟩ : ∃ text before, cs.span (!isQuote ·) = (text, before) :=
          ⟨_, _, rfl⟩
        obtain ⟨happ, ht, hd⟩ := Text.span_eq_iff.mp hspan
        simp only [hspan] at h
        split at h
        · next hq =>
            simp only [Bool.and_eq_true, Bool.not_eq_true', List.isEmpty_eq_false_iff] at hq
            obtain ⟨q, before, rfl⟩ := List.exists_cons_of_ne_nil hq.2
            obtain ⟨rfl, rfl⟩ := Prod.mk.inj (Option.some.inj h)
            have hs : s = (text ++ q :: before).reverse ++ [r] := by
              rw [← List.reverse_reverse s, hcs, List.reverse_cons, happ]
            refine ⟨q, r, by simp [hs], by simpa using hd q (by simp), hq.1.1,
              by simpa using hq.1.2, by simpa using ht⟩
        · cases h
    · cases h
  · rintro ⟨q, r, rfl, hq, hr, hne, hs⟩
    have hspan : (source.reverse ++ q :: clause.reverse).span (!isQuote ·) =
        (source.reverse, q :: clause.reverse) :=
      Text.span_eq_iff.mpr ⟨rfl, by simpa using hs, by simpa using hq⟩
    have hrev : (clause ++ q :: source ++ [r]).reverse =
        r :: (source.reverse ++ q :: clause.reverse) := by simp
    rw [finalQuoted?, hrev]
    simp only [hspan]
    simp [hr, hne]

/-! ### The names in braces -/

theorem dropWord?_eq_some_iff {word s t : List Char} :
    dropWord? word s = some t ↔
      ∃ b, Blank b ∧ s = word ++ b ++ t ∧ ∀ c ∈ t.head?, isBlank c = false := by
  simp only [dropWord?, Option.map_eq_some_iff, Text.isPrefixOf?_eq_some_iff]
  constructor
  · rintro ⟨u, rfl, rfl⟩
    refine ⟨u.takeWhile isBlank, fun c hc => List.mem_takeWhile_imp hc, ?_, fun c hc => ?_⟩
    · rw [List.append_assoc, List.takeWhile_append_dropWhile]
    · simpa [Option.mem_def.mp hc] using List.head?_dropWhile_not isBlank u
  · rintro ⟨b, hb, rfl, ht⟩
    refine ⟨b ++ t, by simp, ?_⟩
    rw [List.dropWhile_append_of_pos hb]
    cases t with
    | nil => rfl
    | cons c t => exact List.dropWhile_cons_of_neg (by simp [ht c (by simp)])

/-- What stands before the module of a named import. -/
def clause (a names b c : List Char) : List Char :=
  "import".toList ++ a ++ '\x7b' :: names ++ '\x7d' :: b ++ "from".toList ++ c

theorem clause_eq (a names b c : List Char) :
    clause a names b c =
      "import".toList ++ a ++ '\x7b' :: names ++ '\x7d' :: b ++ "from".toList ++ c := rfl

theorem exists_clause_eq {s names : List Char} (h : bracedNames? s = some names) :
    ∃ a b c, Blank a ∧ Blank b ∧ Blank c ∧ '\x7d' ∉ names ∧ s = clause a names b c := by
  simp only [bracedNames?, Option.bind_eq_bind, Option.bind_eq_some_iff] at h
  obtain ⟨s, hs, h⟩ := h
  obtain ⟨a, ha, rfl, -⟩ := dropWord?_eq_some_iff.mp hs
  split at h
  · next cs =>
      obtain ⟨text, rest, hspan⟩ : ∃ text rest, cs.span (· != '\x7d') = (text, rest) :=
        ⟨_, _, rfl⟩
      obtain ⟨rfl, hn, -⟩ := Text.span_eq_iff.mp hspan
      simp only [hspan] at h
      split at h
      · next rest =>
          obtain ⟨t, ht, h⟩ := Option.bind_eq_some_iff.mp h
          obtain ⟨c, hc, htc, -⟩ := dropWord?_eq_some_iff.mp ht
          split at h
          · next hnil =>
              obtain rfl : text = names := Option.some.inj h
              obtain rfl : t = [] := List.isEmpty_iff.mp hnil
              have hr : rest.takeWhile isBlank ++ ("from".toList ++ c) = rest := by
                rw [← List.append_nil ("from".toList ++ c), ← htc,
                  List.takeWhile_append_dropWhile]
              refine ⟨a, rest.takeWhile isBlank, c, ha, fun d hd => List.mem_takeWhile_imp hd,
                hc, fun hm => by simpa using hn _ hm, ?_⟩
              rw [clause_eq]
              conv_lhs => rw [← hr]
              simp
          · cases h
      · cases h
  · cases h

theorem bracedNames?_clause {a names b c : List Char} (ha : Blank a) (hb : Blank b) (hc : Blank c)
    (hn : '\x7d' ∉ names) : bracedNames? (clause a names b c) = some names := by
  have h₁ : dropWord? "import".toList (clause a names b c) =
      some ('\x7b' :: names ++ '\x7d' :: b ++ "from".toList ++ c) :=
    dropWord?_eq_some_iff.mpr ⟨a, ha, by simp [clause_eq], by simp [isBlank]⟩
  have h₂ : dropWord? "from".toList ("from".toList ++ c) = some [] :=
    dropWord?_eq_some_iff.mpr ⟨c, hc, by simp, by simp⟩
  have hspan : (names ++ '\x7d' :: (b ++ ("from".toList ++ c))).span (· != '\x7d') =
      (names, '\x7d' :: (b ++ ("from".toList ++ c))) := by
    refine Text.span_eq_iff.mpr ⟨rfl, fun d hd => ?_, by simp⟩
    simpa using fun h : d = '\x7d' => hn (h ▸ hd)
  have hfrom : (b ++ ("from".toList ++ c)).dropWhile isBlank = "from".toList ++ c := by
    rw [List.dropWhile_append_of_pos hb]
    exact List.dropWhile_cons_of_neg (by decide)
  rw [bracedNames?, h₁]
  simp only [Option.bind_eq_bind, Option.bind_some, List.cons_append, List.append_assoc, hspan,
    hfrom, h₂]
  rfl

theorem splitNames_eq (s : List Char) : splitNames s = parts ',' s := rfl

/-- A name in braces, of a text with single spaces. -/
structure Specifier (n : List Char) : Prop extends Part ',' n where
  tight : Tight n
  brace_not_mem : '\x7d' ∉ n

theorem splitNames_intercalate {names : List (List Char)} {a b : List Char}
    (h : ∀ n ∈ names, Specifier n) (ha : Blank a) (hb : Blank b) :
    splitNames (a ++ ([',', ' '].intercalate names ++ b)) = names := by
  have hc : isBlank ',' = false := rfl
  rw [splitNames_eq, Text.parts_blank_append hc ha]
  clear ha
  induction names with
  | nil => exact Text.parts_of_blank hc hb
  | cons n names ih =>
      have hn : Specifier n := h n (by simp)
      have hs : Blank [' '] := by simp [Blank, isBlank]
      cases names with
      | nil =>
          rw [List.intercalate_singleton]
          exact hn.parts_append_blank hc hb
      | cons n' names =>
          have happ : [',', ' '].intercalate (n :: n' :: names) ++ b =
              n ++ ',' :: ([' '] ++ ([',', ' '].intercalate (n' :: names) ++ b)) := by
            simp [List.intercalate_cons_cons]
          rw [happ, hn.parts_cons hc, Text.parts_blank_append hc hs,
            ih fun m hm => h m (by simp [hm])]

/-! ### What is read -/

theorem ofStatement_singleSpaced (s : List Char) :
    Import.ofStatement (singleSpaced s) = Import.ofStatement s := by
  rw [Import.ofStatement, Text.singleSpaced_singleSpaced, Import.ofStatement]

/-- A statement is a named import if it is of this form with single spaces. -/
theorem ofStatement_eq_named_iff {st source : List Char} {names : List (List Char)} :
    Import.ofStatement st = .named names source ↔
      ∃ a raw b c q r, Blank a ∧ Blank b ∧ Blank c ∧ '\x7d' ∉ raw ∧ isQuote q ∧ isQuote r ∧
        source ≠ [] ∧ (∀ d ∈ source, isQuote d = false) ∧ splitNames raw = names ∧
        singleSpaced st = clause a raw b c ++ q :: source ++ [r] := by
  constructor
  · intro h
    rw [Import.ofStatement] at h
    split at h
    · next clause src hsrc =>
        split at h
        · next raw hraw =>
            obtain ⟨rfl, rfl⟩ := Import.named.inj h
            obtain ⟨q, r, hs, hq, hr, hne, hd⟩ := finalQuoted?_eq_some_iff.mp hsrc
            obtain ⟨a, b, c, ha, hb, hc, hn, rfl⟩ := exists_clause_eq hraw
            exact ⟨a, raw, b, c, q, r, ha, hb, hc, hn, hq, hr, hne, hd, rfl, hs⟩
        · cases h
    · cases h
  · rintro ⟨a, raw, b, c, q, r, ha, hb, hc, hn, hq, hr, hne, hsrc, rfl, hs⟩
    have h₁ := finalQuoted?_eq_some_iff.mpr ⟨q, r, hs, hq, hr, hne, hsrc⟩
    have h₂ : bracedNames? (clause a raw b c) = some raw := bracedNames?_clause ha hb hc hn
    rw [Import.ofStatement]
    simp only [h₁, h₂]

/-- A module between quotes, of a text with single spaces. -/
structure Module (source : List Char) : Prop where
  ne_nil : source ≠ []
  tight : Tight source
  quote : ∀ c ∈ source, isQuote c = false

/-- The names and the module stand in the statement. -/
theorem infix_of_named {st source : List Char} {names : List (List Char)}
    (h : Import.ofStatement st = .named names source) :
    (∀ n ∈ names, n <:+: singleSpaced st) ∧ source <:+: singleSpaced st := by
  obtain ⟨a, raw, b, c, q, r, -, -, -, -, -, -, -, -, rfl, hs⟩ := ofStatement_eq_named_iff.mp h
  rw [hs]
  refine ⟨fun n hn => (Text.part_of_mem_parts hn).2.trans ?_, clause a raw b c ++ [q], [r], by simp⟩
  exact ⟨"import".toList ++ a ++ ['\x7b'], '\x7d' :: b ++ "from".toList ++ c ++ q :: source ++ [r],
    by simp [clause_eq]⟩

theorem module_of_named {st source : List Char} {names : List (List Char)}
    (h : Import.ofStatement st = .named names source) : Module source := by
  obtain ⟨_, _, _, _, _, _, -, -, -, -, -, -, hne, hd, -, -⟩ := ofStatement_eq_named_iff.mp h
  exact ⟨hne, (Text.tight_singleSpaced st).of_isInfix (infix_of_named h).2, hd⟩

theorem specifier_of_named {st source : List Char} {names : List (List Char)}
    (h : Import.ofStatement st = .named names source) : ∀ n ∈ names, Specifier n := by
  intro n hn
  have ht : Tight n := (Text.tight_singleSpaced st).of_isInfix ((infix_of_named h).1 n hn)
  obtain ⟨_, raw, _, _, _, _, -, -, -, hb, -, -, -, -, rfl, -⟩ := ofStatement_eq_named_iff.mp h
  have ⟨hp, hi⟩ := Text.part_of_mem_parts hn
  exact ⟨hp, ht, fun hm => hb (hi.subset hm)⟩

/-! ### Writing imports -/

/-- The statement of an import, as `ImportGroup.lines` writes it. -/
def Import.statement : Import → List Char
  | .named names source =>
    "import \x7b ".toList ++ [',', ' '].intercalate names ++ " \x7d from \"".toList ++ source
      ++ ['"']
  | .other s _ => s

@[simp] theorem statement_named (names : List (List Char)) (source : List Char) :
    (Import.named names source).statement =
      "import \x7b ".toList ++ [',', ' '].intercalate names ++ " \x7d from \"".toList ++ source
        ++ ['"'] := rfl

@[simp] theorem statement_other (s source : List Char) : (Import.other s source).statement = s :=
  rfl

theorem tight_trimmed_intercalate {names : List (List Char)} (h : ∀ n ∈ names, Specifier n)
    (hne : names ≠ []) :
    Tight ([',', ' '].intercalate names) ∧ Trimmed ([',', ' '].intercalate names) ∧
      [',', ' '].intercalate names ≠ [] := by
  induction names with
  | nil => exact absurd rfl hne
  | cons n names ih =>
      have hn : Specifier n := h n (by simp)
      cases names with
      | nil =>
          rw [List.intercalate_singleton]
          exact ⟨hn.tight, hn.trimmed, hn.ne_nil⟩
      | cons n' names =>
          obtain ⟨ht, hb, he⟩ := ih (fun m hm => h m (by simp [hm])) (by simp)
          rw [List.intercalate_cons_cons]
          have hs : Tight [',', ' '] := ⟨by simp [isBlank], by simp [isBlank]⟩
          have hns : Tight (n ++ [',', ' ']) := hn.tight.append_of_getLast? hs hn.trimmed.2
          exact ⟨hns.append_of_head? ht hb.1, hn.trimmed.append hb hn.ne_nil he _,
            by simp [hn.ne_nil]⟩

theorem trimmed_statement_named (names : List (List Char)) (source : List Char) :
    Trimmed (Import.named names source).statement :=
  (by decide : Trimmed "import".toList).append (by decide : Trimmed ['"']) (by decide) (by decide)
    (" \x7b ".toList ++ [',', ' '].intercalate names ++ " \x7d from \"".toList ++ source)

/-- A named import has single spaces when it is written. -/
theorem singleSpaced_statement_named {names : List (List Char)} {source : List Char}
    (hn : ∀ n ∈ names, Specifier n) (hne : names ≠ []) (hs : Module source) :
    singleSpaced (Import.named names source).statement = (Import.named names source).statement := by
  obtain ⟨ht, hb, he⟩ := tight_trimmed_intercalate hn hne
  refine Text.singleSpaced_eq_self (trimmed_statement_named names source) ?_
  -- no blank stands at a seam next to another
  have h₁ : Tight ("import \x7b ".toList ++ [',', ' '].intercalate names) :=
    Tight.append_of_head? (by decide) ht hb.1
  have h₂ : Tight ("import \x7b ".toList ++ [',', ' '].intercalate names
      ++ " \x7d from \"".toList) := by
    refine h₁.append_of_getLast? (by decide) ?_
    rw [List.getLast?_append_of_ne_nil _ he]
    exact hb.2
  have hquote : Trimmed ['"'] := by decide
  have h₃ : Tight ("import \x7b ".toList ++ [',', ' '].intercalate names
      ++ " \x7d from \"".toList ++ source) := by
    refine h₂.append_of_getLast? hs.tight ?_
    rw [List.getLast?_append_of_ne_nil _ (by decide)]
    exact hquote.2
  exact h₃.append_of_head? (by decide) hquote.1

theorem statement_named_eq_clause (names : List (List Char)) (source : List Char) :
    (Import.named names source).statement =
      clause [' '] ([' '] ++ ([',', ' '].intercalate names ++ [' '])) [' '] [' ']
        ++ '"' :: source ++ ['"'] := by
  simp [clause_eq]

theorem ofStatement_statement_named {names : List (List Char)} {source : List Char}
    (hn : ∀ n ∈ names, Specifier n) (hne : names ≠ []) (hs : Module source) :
    Import.ofStatement (Import.named names source).statement = .named names source := by
  have hb : Blank [' '] := by decide
  refine ofStatement_eq_named_iff.mpr
    ⟨[' '], [' '] ++ ([',', ' '].intercalate names ++ [' ']), [' '], [' '], '"', '"', hb, hb, hb,
      ?_, rfl, rfl, hs.ne_nil, hs.quote, splitNames_intercalate hn hb hb, ?_⟩
  · simp only [List.mem_append, not_or]
    refine ⟨by decide, fun h => ?_, by decide⟩
    rcases Text.mem_or_of_mem_intercalate h with h | ⟨n, hm, h⟩
    · exact absurd h (by decide)
    · exact (hn n hm).brace_not_mem h
  · rw [singleSpaced_statement_named hn hne hs, statement_named_eq_clause]

/-! ### Written imports are statements -/

/-- What a text must not hold for the scan to pass it by. -/
def marks : List Char := ['"', '\'', '\x60', '(', '[', '\x7b', ')', ']', '\x7d', ';']

/-- A text without quotes, brackets and semicolons. -/
def Plain (s : List Char) : Prop := ∀ c ∈ s, c ∉ marks

instance : DecidablePred Plain := fun s => List.decidableBAll (fun c => c ∉ marks) s

theorem plain_append {a b : List Char} : Plain (a ++ b) ↔ Plain a ∧ Plain b := by
  simp only [Plain, List.mem_append, or_imp, forall_and]

theorem plain_of_blank {b : List Char} (hb : Blank b) : Plain b := by
  intro c hc hm
  have h := hb c hc
  have hmarks : ∀ d ∈ marks, isBlank d = false := by simp [marks, isBlank]
  rw [hmarks c hm] at h
  cases h

/-- The scan passes over a plain text outside of literals. -/
theorem Position.walk?_plain {p : Position} {s : List Char} (hs : Plain s)
    (hp : p.quote = none) : p.walk? s = some p := by
  induction s with
  | nil => rfl
  | cons c s ih =>
      have hc := hs c (by simp)
      simp only [marks, List.mem_cons, List.not_mem_nil, or_false, not_or] at hc
      have he : ¬ p.endsAt c := fun h => hc.2.2.2.2.2.2.2.2.2 (endsAt_iff.mp h).2.1
      have ha : p.after c = p := by
        simp [Position.after, hp, hc]
      rw [walk?_cons, step?, if_neg he, ha, Option.bind_some]
      exact ih fun d hd => hs d (by simp [hd])

/-- Whether the character behind a text in a literal is escaped. -/
def escapes (e : Bool) (s : List Char) : Bool :=
  s.foldl (fun e c => !e && c == '\\') e

theorem Position.walk?_literal {q : Char} {s : List Char} (hq : isQuote q)
    (hs : ∀ c ∈ s, isQuote c = false) (e : Bool) (d : Nat) :
    (Position.mk (some q) e d).walk? s = some ⟨some q, escapes e s, d⟩ := by
  induction s generalizing e with
  | nil => rfl
  | cons c s ih =>
      have hcq : c ≠ q := by
        rintro rfl
        rw [hs c (by simp)] at hq
        cases hq
      have he : ¬ (Position.mk (some q) e d).endsAt c := by simp [endsAt]
      have ha : (Position.mk (some q) e d).after c = ⟨some q, !e && c == '\\', d⟩ := by
        cases e
        · by_cases hc : c = '\\' <;> simp [Position.after, hc, hcq]
        · simp [Position.after]
      rw [walk?_cons, step?, if_neg he, ha, Option.bind_some,
        ih fun b hb => hs b (by simp [hb])]
      rfl

/-- A literal of one of the two quotes is closed by its own quote, if that is not escaped. -/
theorem whole_literal_iff {q r : Char} {s : List Char} (hq : isQuote q)
    (hs : ∀ c ∈ s, isQuote c = false) (hr : isQuote r) :
    Whole (q :: s ++ [r]) ↔ r = q ∧ escapes false s = false := by
  have hq' : ¬ outside.endsAt q ∧ outside.after q = ⟨some q, false, 0⟩ := by
    simp only [isQuote, Bool.or_eq_true, beq_iff_eq] at hq
    rcases hq with rfl | rfl <;> exact ⟨by decide, rfl⟩
  have hslash : r ≠ '\\' := by
    rintro rfl
    cases hr
  rw [Whole, List.cons_append, walk?_cons, step?, if_neg hq'.1, hq'.2, Option.bind_some,
    walk?_append_of_eq (walk?_literal hq hs false 0), walk?_cons, step?, if_neg (by simp [endsAt]),
    Option.bind_some, walk?_nil]
  cases escapes false s
  · rcases eq_or_ne r q with rfl | hrq
    · simp [Position.after, hslash, outside]
    · simp [Position.after, hslash, hrq, outside]
  · simp [Position.after, outside]

theorem whole_clause_iff {a names b c : List Char} (ha : Blank a) (hn : Plain names)
    (hb : Blank b) (hc : Blank c) (s : List Char) : Whole (clause a names b c ++ s) ↔ Whole s := by
  -- the two braces are passed from outside to outside
  have h : outside.walk? (clause a names b c) = some outside := by
    have h₁ : Plain ("import".toList ++ a) := plain_append.mpr ⟨by decide, plain_of_blank ha⟩
    have h₂ : Plain (b ++ "from".toList ++ c) :=
      plain_append.mpr ⟨plain_append.mpr ⟨plain_of_blank hb, by decide⟩, plain_of_blank hc⟩
    have hs : clause a names b c = ("import".toList ++ a) ++ (['\x7b'] ++ (names ++ (['\x7d']
        ++ (b ++ "from".toList ++ c)))) := by simp [clause_eq]
    have hopen : outside.walk? ['\x7b'] = some ⟨none, false, 1⟩ := rfl
    have hclose : (Position.mk none false 1).walk? ['\x7d'] = some outside := rfl
    rw [hs, walk?_append_of_eq (walk?_plain h₁ rfl), walk?_append_of_eq hopen,
      walk?_append_of_eq (walk?_plain hn rfl), walk?_append_of_eq hclose, walk?_plain h₂ rfl]
  rw [Whole, walk?_append_of_eq h, Whole]

theorem escapes_of_named {st source : List Char} {names : List (List Char)}
    (h : Import.ofStatement st = .named names source) (hp : ∀ n ∈ names, Plain n)
    (hw : Whole st) : escapes false source = false := by
  obtain ⟨a, raw, b, c, q, r, ha, hb, hc, -, hq, hr, -, hd, rfl, hs⟩ :=
    ofStatement_eq_named_iff.mp h
  have hraw : Plain raw := by
    intro d hd hm
    have hmarks : ∀ d ∈ marks, isBlank d = false ∧ d ≠ ',' := by simp [marks, isBlank]
    obtain ⟨n, hn, hdn⟩ := Text.exists_mem_parts hd (hmarks d hm).1 (hmarks d hm).2
    exact hp n hn d hdn hm
  have hw' := hw.singleSpaced
  rw [hs, List.append_assoc, whole_clause_iff ha hraw hb hc] at hw'
  exact ((whole_literal_iff hq hd hr).mp hw').2

theorem single_statement_named {names : List (List Char)} {source : List Char}
    (hp : ∀ n ∈ names, Plain n) (hs : Module source) (he : escapes false source = false) :
    Single (Import.named names source).statement := by
  have hb : Blank [' '] := by decide
  have hnames : Plain ([' '] ++ ([',', ' '].intercalate names ++ [' '])) := by
    refine plain_append.mpr ⟨by decide, plain_append.mpr ⟨fun c hc => ?_, by decide⟩⟩
    rcases Text.mem_or_of_mem_intercalate hc with hc | ⟨n, hn, hc⟩
    · exact (by decide : Plain [',', ' ']) c hc
    · exact hp n hn c hc
  refine ⟨?_, trimmed_statement_named names source, by simp⟩
  rw [statement_named_eq_clause, List.append_assoc, whole_clause_iff hb hnames hb hb]
  exact (whole_literal_iff rfl hs.quote rfl).mpr ⟨rfl, he⟩

/-! ### Which statements are imports -/

theorem isImport_iff {st : List Char} :
    isImport st ↔ ∃ c s, st = "import".toList ++ c :: s ∧ (isBlank c ∨ c = '\x7b' ∨ isQuote c) := by
  rw [isImport]
  constructor
  · intro h
    split at h
    · next c s hs =>
        refine ⟨c, s, Text.isPrefixOf?_eq_some_iff.mp hs, ?_⟩
        simpa [isQuote, or_assoc] using h
    · cases h
  · rintro ⟨c, s, hs, hc⟩
    rw [Text.isPrefixOf?_eq_some_iff.mpr hs]
    simpa [isQuote, or_assoc] using hc

theorem isImport_statement_named (names : List (List Char)) (source : List Char) :
    isImport (Import.named names source).statement :=
  isImport_iff.mpr ⟨' ', ['\x7b', ' '] ++ [',', ' '].intercalate names ++ " \x7d from \"".toList
    ++ source ++ ['"'], by simp, .inl rfl⟩

theorem isImport_singleSpaced {st : List Char} (h : isImport st) (ht : Trimmed st) :
    isImport (singleSpaced st) := by
  have hw : Text.Word "import".toList := ⟨by decide, by simp [isBlank]⟩
  obtain ⟨c, s, rfl, hc⟩ := isImport_iff.mp h
  by_cases hb : isBlank c
  · have hs : ¬ Blank s := by
      intro hs
      have hcs : Blank (c :: s) := by simpa [Blank, hb] using hs
      cases ht.eq_nil_of_blank hcs
    rw [Text.singleSpaced_append_cons hw hb hs]
    exact isImport_iff.mpr ⟨' ', _, rfl, .inl rfl⟩
  · have hw' : Text.Word ("import".toList ++ [c]) := hw.append (by simpa using hb)
    obtain ⟨t, ht⟩ := Text.exists_singleSpaced_append hw' s
    rw [List.append_assoc, List.singleton_append] at ht
    rw [ht, List.append_assoc]
    exact isImport_iff.mpr ⟨c, t, rfl, hc⟩

end Handoff.Script
