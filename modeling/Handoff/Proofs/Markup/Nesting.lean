import Handoff.Markup.Scan
import Handoff.Proofs.Text.Parts

/-!
# Nested tags

The scan of markup is lenient; `strictly` is the scan that refuses what the lenient one passes over.
Tokens that it takes back to where it started (`Balanced`) are nested, and the lenient scan agrees
with it on them.

`Scans a ts` says that a text `a` contributes the tokens `ts`, whatever stands behind it.  Texts
with this property are put together one behind the other, so the tokens of markup are found along
its construction.
-/

namespace Handoff.Markup
open Text (isBlank trimEnd)

/-! ### Strict nesting -/

/-- The open tags after another one; a closing tag has to match the innermost open one. -/
def strictly (stack : List (List Char)) : Token → Option (List (List Char))
  | .opening name => some (name :: stack)
  | .closing name => if stack.head? = some name then some stack.tail else none
  | .standalone _ => some stack

/-- Every closing tag matches the innermost open one, and nothing is left open. -/
def Balanced (ts : List Token) : Prop := ∀ stack, ts.foldlM strictly stack = some stack

theorem balanced_nil : Balanced [] := fun _ => rfl

theorem Balanced.append {ts us : List Token} (ht : Balanced ts) (hu : Balanced us) :
    Balanced (ts ++ us) := by
  intro stack
  rw [List.foldlM_append, ht stack]
  exact hu stack

/-- An element around what is balanced is balanced. -/
theorem Balanced.element {ts : List Token} (ht : Balanced ts) (name : List Char) :
    Balanced (.opening name :: (ts ++ [.closing name])) := by
  intro stack
  have h : (ts ++ [Token.closing name]).foldlM strictly (name :: stack) = some stack := by
    rw [List.foldlM_append, ht (name :: stack)]
    simp [strictly]
  rw [List.foldlM_cons]
  exact h

/-- Where the strict scan goes through, the lenient one does the same. -/
theorem foldl_afterToken_eq {ts : List Token} {stack stack' : List (List Char)}
    (h : ts.foldlM strictly stack = some stack') : ts.foldl afterToken stack = stack' := by
  induction ts generalizing stack with
  | nil => exact Option.some.inj h
  | cons t ts ih =>
      rw [List.foldlM_cons] at h
      obtain ⟨next, hnext, h⟩ := Option.bind_eq_some_iff.mp h
      have ht : afterToken stack t = next := by
        cases t with
        | opening name => exact Option.some.inj hnext
        | closing name =>
            rw [strictly] at hnext
            split at hnext
            · next hs =>
                rw [afterToken, if_pos hs]
                exact Option.some.inj hnext
            · cases hnext
        | standalone name => exact Option.some.inj hnext
      rw [List.foldl_cons, ht, ih h]

/-- What is balanced leaves nothing open. -/
theorem Balanced.foldl_afterToken {ts : List Token} (h : Balanced ts)
    (stack : List (List Char)) : ts.foldl afterToken stack = stack :=
  foldl_afterToken_eq (h stack)

/-! ### Texts and the tokens that they contribute -/

/-- A text without angle brackets. -/
def Flat (s : List Char) : Prop := '<' ∉ s ∧ '>' ∉ s

instance : DecidablePred Flat := fun _ => inferInstanceAs (Decidable (_ ∧ _))

theorem Flat.of_subset {a b : List Char} (h : Flat b) (hab : a ⊆ b) : Flat a :=
  ⟨fun hm => h.1 (hab hm), fun hm => h.2 (hab hm)⟩

theorem flat_append {a b : List Char} : Flat (a ++ b) ↔ Flat a ∧ Flat b := by
  simp only [Flat, List.mem_append, not_or]
  tauto

/-- The characters that tags and expressions begin and end with. -/
def isBracket (c : Char) : Bool := c == '<' || c == '>' || c == '\x7b' || c == '\x7d'

/-- A text in which no tag and no expression begins or ends. -/
def Bare (s : List Char) : Prop := ∀ c ∈ s, isBracket c = false

instance : DecidablePred Bare := fun s => List.decidableBAll (fun c => isBracket c = false) s

theorem bare_append {a b : List Char} : Bare (a ++ b) ↔ Bare a ∧ Bare b :=
  List.forall_mem_append

theorem Bare.of_subset {a b : List Char} (h : Bare b) (hab : a ⊆ b) : Bare a :=
  fun c hc => h c (hab hc)

theorem Bare.not_mem {s : List Char} (h : Bare s) {c : Char} (hc : isBracket c) : c ∉ s := by
  intro hm
  rw [h c hm] at hc
  cases hc

theorem Bare.flat {s : List Char} (h : Bare s) : Flat s := ⟨h.not_mem rfl, h.not_mem rfl⟩

/-- A text contributes tokens, whatever stands behind it. -/
def Scans (a : List Char) (ts : List Token) : Prop := ∀ s, tokens (a ++ s) = ts ++ tokens s

theorem Scans.tokens_eq {a : List Char} {ts : List Token} (h : Scans a ts) : tokens a = ts := by
  have h' := h []
  rwa [List.append_nil, show tokens [] = [] from rfl, List.append_nil] at h'

theorem scans_nil : Scans [] [] := fun _ => rfl

theorem Scans.append {a b : List Char} {ts us : List Token} (ha : Scans a ts)
    (hb : Scans b us) : Scans (a ++ b) (ts ++ us) := by
  intro s
  rw [List.append_assoc, ha, hb, List.append_assoc]

theorem tokenIn?_append {a : List Char} (ha : '<' ∉ a) (s : List Char) :
    tokenIn? (a ++ s) = tokenIn? s := by
  induction a with
  | nil => rfl
  | cons c a ih =>
      simp only [List.mem_cons, not_or] at ha
      rw [List.cons_append, tokenIn?, if_neg (Ne.symm ha.1)]
      exact ih ha.2

theorem scans_flat {a : List Char} (h : Flat a) : Scans a [] := by
  intro s
  rw [List.nil_append, tokens, tokens]
  -- the text runs up to the first `>` behind it, and nothing in it begins a tag
  by_cases hs : '>' ∈ s
  · obtain ⟨b, t, rfl, hb⟩ := List.eq_append_cons_of_mem hs
    have hab : '>' ∉ a ++ b := by simp [h.2, hb]
    have hne := List.splitOn_ne_nil '>' t
    rw [← List.append_assoc, List.splitOn_append_cons_self_of_not_mem hab,
      List.splitOn_append_cons_self_of_not_mem hb, List.dropLast_cons_of_ne_nil hne,
      List.dropLast_cons_of_ne_nil hne, List.filterMap_cons, List.filterMap_cons,
      tokenIn?_append h.1]
  · have has : '>' ∉ a ++ s := by simp [h.2, hs]
    rw [List.splitOn_eq_singleton has, List.splitOn_eq_singleton hs]
    rfl

theorem scans_tag {inner : List Char} {t : Token} (h : Flat inner)
    (ht : tokenOf? inner = some t) : Scans ('<' :: inner ++ ['>']) [t] := by
  intro s
  have hm : '>' ∉ '<' :: inner := by simp [h.2]
  have hin : tokenIn? ('<' :: inner) = some t := by rw [tokenIn?, if_pos rfl, ht]
  rw [List.append_assoc, List.singleton_append, tokens,
    List.splitOn_append_cons_self_of_not_mem hm,
    List.dropLast_cons_of_ne_nil (List.splitOn_ne_nil '>' s), List.filterMap_cons_some hin]
  rfl

/-! ### Nested markup -/

/-- Markup that contributes balanced tags. -/
def Nested (s : String) : Prop := ∃ ts, Scans s.toList ts ∧ Balanced ts

theorem nested_empty : Nested "" := ⟨[], scans_nil, balanced_nil⟩

theorem nested_flat {s : String} (h : Flat s.toList) : Nested s :=
  ⟨[], scans_flat h, balanced_nil⟩

theorem Nested.append {a b : String} (ha : Nested a) (hb : Nested b) : Nested (a ++ b) := by
  obtain ⟨ts, hts, hbal⟩ := ha
  obtain ⟨us, hus, hbal'⟩ := hb
  exact ⟨ts ++ us, String.toList_append ▸ hts.append hus, hbal.append hbal'⟩

theorem nested_join {ss : List String} (h : ∀ s ∈ ss, Nested s) : Nested (String.join ss) := by
  induction ss with
  | nil => exact nested_empty
  | cons s ss ih =>
      rw [String.join_cons]
      exact (h s (by simp)).append (ih fun t ht => h t (by simp [ht]))

/-- The tag that is left open is the one that is closed. -/
theorem closingTag_eq {a : String} {name : String} {ts : List Token}
    (h : Scans a.toList (.opening name.toList :: ts)) (hts : Balanced ts) :
    closingTag a = Tag.closing name := by
  have hopen : openTags a.toList = [name.toList] := by
    rw [openTags, h.tokens_eq, List.foldl_cons, hts.foldl_afterToken]
    rfl
  rw [closingTag, hopen]
  simp

theorem Nested.balanced_tokens {s : String} (h : Nested s) : Balanced (tokens s.toList) := by
  obtain ⟨ts, hts, hbal⟩ := h
  rwa [hts.tokens_eq]

end Handoff.Markup
