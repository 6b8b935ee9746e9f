import Handoff.Proofs.Component.Closed
import Handoff.Proofs.Naming.Class

/-!
# Selectors tell nodes apart

The rule of a node is for its class, so nodes share the selector of it only if they share their
class (`Route.cls_eq_of_selector?`).  In a scene whose ids are different and of the form that the
design tool gives them, no two nodes do, whatever their names (`className_identifies`).
-/

namespace Handoff

/-! ### The nodes of a scene -/

mutual

/-- A node and all nodes in it, in document order. -/
def Node.subtree : Node → List Node
  | .frame r l b cs => .frame r l b cs :: subtreeAll cs
  | .inst l b ps cs es => .inst l b ps cs es :: subtreeAll cs
  | .group l cs => .group l cs :: subtreeAll cs
  | .text l t => [.text l t]
  | .shape f l o => [.shape f l o]
  | .unsupported => [.unsupported]

def subtreeAll : List Node → List Node
  | [] => []
  | n :: ns => Node.subtree n ++ subtreeAll ns

end

theorem Node.subtree_eq (n : Node) : n.subtree = n :: subtreeAll n.children := by
  cases n with
  | frame | inst | group => rw [subtree, children]
  | text | shape | unsupported => rw [subtree, children, subtreeAll]

theorem filterMap_id?_subtreeAll {ns : List Node}
    (hns : ∀ n ∈ ns, n.subtree.filterMap Node.id? = n.ids) :
    (subtreeAll ns).filterMap Node.id? = idsAll ns := by
  induction ns with
  | nil => rfl
  | cons n ns ih =>
      obtain ⟨hn, hns⟩ := List.forall_mem_cons.mp hns
      rw [subtreeAll, idsAll, List.filterMap_append, hn, ih hns]

theorem Node.filterMap_id?_subtree (n : Node) : n.subtree.filterMap Node.id? = n.ids := by
  induction n using Node.rec_children with
  | step n ih =>
      rw [subtree_eq, ids_eq, ← filterMap_id?_subtreeAll ih]
      cases hid : n.id? with
      | none => rw [List.filterMap_cons_none hid, Option.toList_none, List.nil_append]
      | some id => rw [List.filterMap_cons_some hid, Option.toList_some, List.singleton_append]

/-! ### Selectors -/

theorem Layer.selector_ne_global (l l' : Layer) :
    l.selector ≠ ":global(" ++ l'.selector ++ ")" := by
  intro h
  have hhead := congrArg (fun t => t.toList.head?) h
  simp [selector, Style.classSelector] at hhead

theorem Layer.cls_eq_of_selector {l l' : Layer} (h : l.selector = l'.selector) :
    l.cls = l'.cls := by
  refine String.toList_inj.mp ?_
  simpa [selector, Style.classSelector] using congrArg String.toList h

/-- Nodes with one selector have one class. -/
theorem Route.cls_eq_of_selector? {r r' : Route} {selector : String}
    (h : r.selector? = some selector) (h' : r'.selector? = some selector) :
    ∃ l l', r.styled? = some l ∧ r'.styled? = some l' ∧ l.cls = l'.cls := by
  obtain ⟨l, hl, hsel⟩ := selector?_cases h
  obtain ⟨l', hl', hsel'⟩ := selector?_cases h'
  refine ⟨l, l', hl, hl', Layer.cls_eq_of_selector ?_⟩
  rcases hsel with rfl | rfl <;> rcases hsel' with hsel' | hsel'
  · exact hsel'
  · exact absurd hsel' (l.selector_ne_global l')
  · exact absurd hsel'.symm (l'.selector_ne_global l)
  · refine String.toList_inj.mp ?_
    simpa using congrArg String.toList hsel'

/-- The selectors of the rules of nodes, for those that have one. -/
def Node.selectors (c : ComponentCatalog) (ns : List Node) : List String :=
  ns.filterMap fun n => (Route.ofNode c n).selector?

/-- Nodes with different ids of the design tool have different selectors. -/
theorem Node.nodup_selectors {ns : List Node} (c : ComponentCatalog)
    (hform : ∀ n ∈ ns, ∀ id, n.id? = some id → LayerId id.toList)
    (hnodup : (ns.filterMap Node.id?).Nodup) : (selectors c ns).Nodup := by
  rw [List.Nodup, List.pairwise_filterMap] at hnodup
  rw [selectors, List.Nodup, List.pairwise_filterMap]
  refine hnodup.imp_of_mem fun {n m} hn hm hne selector hs selector' hs' he => ?_
  obtain rfl := he
  obtain ⟨l, l', hl, hl', hcls⟩ := Route.cls_eq_of_selector? hs hs'
  have hid : n.id? = some l.id := by rw [id?, Route.layer?_of_styled? hl]; rfl
  have hid' : m.id? = some l'.id := by rw [id?, Route.layer?_of_styled? hl']; rfl
  exact hne l.id hid l'.id hid' ((hform n hn _ hid).eq_of_className (hform m hm _ hid') hcls)

/-- A class is an identifier.  Under different ids of the design tool the classes of layers differ,
and under one name also those of other ids with the same characters.  In a scene in which the ids of
nodes are different and of this form, no two nodes share the selector of their own rule. -/
theorem className_identifies :
    (∀ name id, IsIdentifier (className name id).toList) ∧
      (∀ name name' id id', LayerId id.toList → LayerId id'.toList → id ≠ id' →
        className name id ≠ className name' id') ∧
      (∀ (c : ComponentCatalog) (root : Node), (∀ id ∈ root.ids, LayerId id.toList) →
        root.ids.Nodup → (Node.selectors c root.subtree).Nodup) ∧
      ∀ name id id', (∀ c ∈ id.toList, isIdChar c) → (∀ c ∈ id'.toList, isIdChar c) → id ≠ id' →
        className name id ≠ className name id' := by
  refine ⟨isIdentifier_className, ?_, ?_, ?_⟩
  · intro name name' id id' h h' hne he
    exact hne (h.eq_of_className h' he)
  · intro c root hform hnodup
    have hids := root.filterMap_id?_subtree
    refine Node.nodup_selectors c (fun n hn id hid => hform id ?_) (hids ▸ hnodup)
    rw [← hids]
    exact List.mem_filterMap.mpr ⟨n, hn, hid⟩
  · intro name id id' h h' hne he
    exact hne (eq_of_className_of_isIdChar h h' he)

/-- A group whose name ends like the id of the group in it begins. -/
def lookalikeScene : Node :=
  .group (plainLayer "3:4" "x-1-2" true) [.group (plainLayer "1:2;3:4" "x" true) []]

theorem className_identifies_lookalikeScene :
    IsIdentifier (className "x-1-2" "3:4").toList ∧
      LayerId "3:4".toList ∧ LayerId "1:2;3:4".toList ∧
      className "x-1-2" "3:4" ≠ className "x" "1:2;3:4" ∧
      (Node.selectors .builtin lookalikeScene.subtree).Nodup ∧
      className "x" "3:4" ≠ className "x" ":34" := by
  obtain ⟨hidentifier, hdiffer, hscene, hname⟩ := className_identifies
  have hshort : LayerId "3:4".toList :=
    .pair (.plain (isNumber_singleton (c := '3') rfl) (isNumber_singleton (c := '4') rfl))
  have hlong : LayerId "1:2;3:4".toList :=
    .cons (.plain (isNumber_singleton (c := '1') rfl) (isNumber_singleton (c := '2') rfl)) hshort
  have hchars : "3:4".toList.all isIdChar ∧ ":34".toList.all isIdChar := by decide
  have hids : lookalikeScene.ids = ["3:4", "1:2;3:4"] := rfl
  refine ⟨hidentifier _ _, hshort, hlong, hdiffer _ _ _ _ hshort hlong (by decide),
    hscene .builtin lookalikeScene ?_ ?_,
    hname "x" "3:4" ":34" (List.all_eq_true.mp hchars.1) (List.all_eq_true.mp hchars.2)
      (by decide)⟩
  · rw [hids]
    exact List.forall_mem_cons.mpr ⟨hshort, List.forall_mem_singleton.mpr hlong⟩
  · rw [hids]
    decide

end Handoff
