import Handoff.Script.Imports
import Mathlib.Data.List.Induction
import Mathlib.Data.List.Nodup
import Mathlib.Data.List.Pairwise

/-!
# Texts in the order in which they are first seen

`addNew` adds texts one after the other and skips those that are there.  From nothing (`firstSeen`)
it gives every text of a list once, ordered by where the list has it first.
-/

namespace Handoff.Script

variable {xs ys zs : List (List Char)}

theorem addNew_cons (xs : List (List Char)) (y : List Char) (ys : List (List Char)) :
    addNew xs (y :: ys) = addNew (if y ∈ xs then xs else xs ++ [y]) ys := by
  simp [addNew]

theorem addNew_append (xs ys zs : List (List Char)) :
    addNew xs (ys ++ zs) = addNew (addNew xs ys) zs :=
  List.foldl_append

theorem addNew_singleton (xs : List (List Char)) (y : List Char) :
    addNew xs [y] = if y ∈ xs then xs else xs ++ [y] :=
  addNew_cons xs y []

theorem mem_addNew {x : List Char} : x ∈ addNew xs ys ↔ x ∈ xs ∨ x ∈ ys := by
  induction ys generalizing xs with
  | nil => simp [addNew]
  | cons y ys ih =>
      rw [addNew_cons, ih]
      split
      · next hy =>
          constructor
          · rintro (h | h)
            · exact .inl h
            · exact .inr (List.mem_cons_of_mem _ h)
          · rintro (h | h)
            · exact .inl h
            · rcases List.mem_cons.mp h with rfl | h
              · exact .inl hy
              · exact .inr h
      · simp [or_assoc]

theorem nodup_addNew (h : xs.Nodup) (ys : List (List Char)) : (addNew xs ys).Nodup := by
  induction ys generalizing xs with
  | nil => exact h
  | cons y ys ih =>
      rw [addNew_cons]
      split
      · exact ih h
      · next hy => exact ih (List.nodup_append.mpr ⟨h, by simp, by
          rintro x hx _ hy' rfl
          rw [List.mem_singleton] at hy'
          exact hy (hy' ▸ hx)⟩)

/-- Texts that are all new are added as they are. -/
theorem addNew_eq_append (h : (xs ++ ys).Nodup) : addNew xs ys = xs ++ ys := by
  induction ys generalizing xs with
  | nil => exact (List.append_nil xs).symm
  | cons y ys ih =>
      have hy : y ∉ xs := fun hy =>
        (List.nodup_append.mp h).2.2 y hy y (by simp) rfl
      rw [List.append_cons] at h
      rw [addNew_cons, if_neg hy, ih h, ← List.append_cons]

/-- Every text once, in the order in which they are first seen. -/
def firstSeen (ys : List (List Char)) : List (List Char) := addNew [] ys

theorem firstSeen_append (ys zs : List (List Char)) :
    firstSeen (ys ++ zs) = addNew (firstSeen ys) zs :=
  addNew_append [] ys zs

@[simp] theorem mem_firstSeen {y : List Char} : y ∈ firstSeen ys ↔ y ∈ ys := by
  simp [firstSeen, mem_addNew]

theorem nodup_firstSeen (ys : List (List Char)) : (firstSeen ys).Nodup :=
  nodup_addNew List.nodup_nil ys

theorem firstSeen_eq_self (h : ys.Nodup) : firstSeen ys = ys :=
  addNew_eq_append h

/-- Repeating what is there adds nothing. -/
theorem addNew_eq_self (h : ∀ y ∈ ys, y ∈ xs) : addNew xs ys = xs := by
  induction ys with
  | nil => rfl
  | cons y ys ih =>
      rw [addNew_cons, if_pos (h y (by simp))]
      exact ih fun z hz => h z (by simp [hz])

theorem firstSeen_pairwise (ys : List (List Char)) :
    (firstSeen ys).Pairwise fun x y => ys.idxOf x < ys.idxOf y := by
  induction ys using List.reverseRecOn with
  | nil => exact List.Pairwise.nil
  | append_singleton ys y ih =>
      -- what is seen before stays where it is
      have hold : (firstSeen ys).Pairwise fun a b => (ys ++ [y]).idxOf a < (ys ++ [y]).idxOf b := by
        refine ih.imp_of_mem fun {a b} ha hb hab => ?_
        rwa [List.idxOf_append_of_mem (mem_firstSeen.mp ha),
          List.idxOf_append_of_mem (mem_firstSeen.mp hb)]
      rw [firstSeen_append, addNew_singleton]
      split
      · exact hold
      · next hy =>
          rw [mem_firstSeen] at hy
          refine List.pairwise_append.mpr ⟨hold, List.pairwise_singleton .., fun a ha b hb => ?_⟩
          obtain rfl := List.mem_singleton.mp hb
          have ha' := mem_firstSeen.mp ha
          rw [List.idxOf_append_of_mem ha', List.idxOf_append_of_notMem hy]
          exact Nat.lt_add_right _ (List.idxOf_lt_length_of_mem ha')

/-- A list in which every text is repeated a number of times, its repetitions together. -/
theorem firstSeen_flatMap {f : List Char → List (List Char)} (h : xs.Nodup)
    (hf : ∀ x ∈ xs, ∀ y ∈ f x, y = x) :
    firstSeen (xs.flatMap f) = xs.filter fun x => !(f x).isEmpty := by
  induction xs using List.reverseRecOn with
  | nil => rfl
  | append_singleton xs x ih =>
      have hx : x ∉ xs := fun hx => (List.nodup_append.mp h).2.2 x hx x (by simp) rfl
      have ih := ih (List.nodup_append.mp h).1 fun y hy => hf y (by simp [hy])
      have hfx : ∀ y ∈ f x, y = x := hf x (by simp)
      rw [List.flatMap_append, List.flatMap_singleton, firstSeen_append, ih, List.filter_append]
      cases hxs : f x with
      | nil => simp [hxs, addNew]
      | cons y ys =>
          rw [hxs] at hfx
          obtain rfl : y = x := hfx y (by simp)
          have hnew : y ∉ xs.filter fun x => !(f x).isEmpty := fun hm =>
            hx (List.mem_of_mem_filter hm)
          rw [addNew_cons, if_neg hnew, addNew_eq_self fun z hz => by
            simp [hfx z (List.mem_cons_of_mem _ hz)]]
          simp [hxs]

end Handoff.Script
