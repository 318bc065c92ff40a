/-
Processing the nodes of a dependency graph in an order that puts what each node depends on
first.

A list is a ready order from a set of nodes already done when each node has what it depends
on done by its turn: done before the list starts, or listed before it. A loop that handles
each node of a ready order in turn, and stops at the first that fails, finds what each node
depends on handled.

* `ReadyOrder.mono` — more nodes done keeps a ready order;
* `readyOrder_of_sublist` — a list without repeats that has each node's dependencies before
  it, but those done already, is a ready order.
-/
import Mathlib.Data.Set.Insert
import Mathlib.Data.List.Nodup

namespace Graph

variable {α : Type} (dep : α → α → Prop)

/-- Each node of the list has every node it depends on done when its turn comes: done before
the list starts, or listed before it. -/
def ReadyOrder : Set α → List α → Prop
  | _, [] => True
  | done, x :: rest => (∀ y, dep x y → y ∈ done) ∧ ReadyOrder (insert x done) rest

variable {dep}

theorem readyOrder_cons {done : Set α} {x : α} {rest : List α} :
    ReadyOrder dep done (x :: rest) ↔
      (∀ y, dep x y → y ∈ done) ∧ ReadyOrder dep (insert x done) rest :=
  Iff.rfl

/-- More nodes done keeps a ready order. -/
theorem ReadyOrder.mono {done done' : Set α} (hsub : done ⊆ done') {l : List α}
    (h : ReadyOrder dep done l) : ReadyOrder dep done' l := by
  induction l generalizing done done' with
  | nil => trivial
  | cons x rest ih =>
    obtain ⟨hdeps, hrest⟩ := h
    exact ⟨fun y hy => hsub (hdeps y hy), ih (Set.insert_subset_insert hsub) hrest⟩

/-- A node listed once is listed before no other node. -/
theorem not_sublist_pair_cons {x y : α} {rest : List α} (hx : x ∉ rest) :
    ¬[y, x].Sublist (x :: rest) := by
  intro hsub
  rcases List.sublist_cons_iff.mp hsub with hrest | ⟨r, hr, hsub'⟩
  · exact hx (hrest.subset (List.mem_cons_of_mem y List.mem_cons_self))
  · -- the head is matched by the pair's first node, so the second lies in the tail
    obtain ⟨-, rfl⟩ := List.cons.inj hr
    exact hx (hsub'.subset List.mem_cons_self)

/-- A list without repeats in which each node's dependencies are done or listed before it is
a ready order. -/
theorem readyOrder_of_sublist {done : Set α} {l : List α} (hnodup : l.Nodup)
    (hbefore : ∀ x ∈ l, ∀ y, dep x y → y ∈ done ∨ [y, x].Sublist l) :
    ReadyOrder dep done l := by
  induction l generalizing done with
  | nil => trivial
  | cons x rest ih =>
    obtain ⟨hx, hrest⟩ := List.nodup_cons.mp hnodup
    refine ⟨fun y hy => ?_, ih hrest fun x' hx' y hy => ?_⟩
    · -- nothing is listed before the head
      rcases hbefore x List.mem_cons_self y hy with hdone | hsub
      · exact hdone
      · exact absurd hsub (not_sublist_pair_cons hx)
    · -- a dependency listed before a later node is the head, or in the tail before it
      rcases hbefore x' (List.mem_cons_of_mem x hx') y hy with hdone | hsub
      · exact .inl (Set.mem_insert_of_mem x hdone)
      · rcases List.sublist_cons_iff.mp hsub with hsub' | ⟨r, hr, -⟩
        · exact .inr hsub'
        · obtain ⟨rfl, -⟩ := List.cons.inj hr
          exact .inl (Set.mem_insert y done)

end Graph
