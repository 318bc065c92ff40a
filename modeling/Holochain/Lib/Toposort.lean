/-
Topological sorting by Kahn's method, and what a topological sort promises.

`kahn` orders a list of nodes by taking, again and again, the first remaining node that no
remaining node has an edge into. With as many rounds as there are nodes it fails exactly when
the edges between the nodes have a cycle, and otherwise lists every node once, each edge's
source before its target. `toposort` runs it on the nodes `0, …, n - 1` of a graph given by
its edges, the form of a sort over node indices; `IsToposort` is that promise, stated for any
sorting function.

* `perm_of_kahn`, `pair_sublist_of_kahn` — what a successful run lists;
* `isSome_kahn` — enough rounds succeed on a graph without cycles;
* `not_hasCycle_of_kahn` — a successful run rules out a cycle;
* `isToposort_toposort` — `toposort` keeps the promise.
-/
import Mathlib.Data.List.Perm.Basic
import Holochain.Lib.Acyclic

namespace Graph

variable {α : Type} [DecidableEq α] (edges : List (α × α))

/-- No node of `nodes` has an edge into `a`. -/
def noPred (nodes : List α) (a : α) : Bool :=
  !nodes.any fun b => decide ((b, a) ∈ edges)

/-- Kahn's order of `nodes` in `fuel` rounds; `none` when no remaining node is free of
predecessors, or the rounds run out. -/
def kahn : List α → Nat → Option (List α)
  | [], _ => some []
  | _ :: _, 0 => none
  | nodes@(_ :: _), fuel + 1 =>
    match nodes.find? (noPred edges nodes) with
    | none => none
    | some a => (kahn (nodes.erase a) fuel).map (a :: ·)

variable {edges}

theorem noPred_eq_true {nodes : List α} {a : α} :
    noPred edges nodes a = true ↔ ∀ b ∈ nodes, (b, a) ∉ edges := by
  simp [noPred]

/-- A successful round takes a node free of predecessors and orders the rest. -/
theorem eq_cons_of_kahn {nodes : List α} {fuel : Nat} {order : List α} (hne : nodes ≠ [])
    (h : kahn edges nodes (fuel + 1) = some order) :
    ∃ a, nodes.find? (noPred edges nodes) = some a ∧
      ∃ rest, kahn edges (nodes.erase a) fuel = some rest ∧ order = a :: rest := by
  cases nodes with
  | nil => exact absurd rfl hne
  | cons n ns =>
    unfold kahn at h
    cases hfind : (n :: ns).find? (noPred edges (n :: ns)) with
    | none => rw [hfind] at h; cases h
    | some a =>
      rw [hfind, Option.map_eq_some_iff] at h
      obtain ⟨rest, hrest, rfl⟩ := h
      exact ⟨a, rfl, rest, hrest, rfl⟩

/-- A successful run lists each node as often as `nodes` does. -/
theorem perm_of_kahn {nodes : List α} {fuel : Nat} {order : List α}
    (h : kahn edges nodes fuel = some order) : order.Perm nodes := by
  induction fuel generalizing nodes order with
  | zero =>
    cases nodes with
    | nil => cases h; exact .nil
    | cons _ _ => cases h
  | succ fuel ih =>
    by_cases hne : nodes = []
    · subst hne
      cases h
      exact .nil
    obtain ⟨a, hfind, rest, hrest, rfl⟩ := eq_cons_of_kahn hne h
    have ha : a ∈ nodes := List.mem_of_find?_eq_some hfind
    exact ((ih hrest).cons a).trans (List.perm_cons_erase ha).symm

/-- A successful run puts the source of every edge between the nodes before its target. -/
theorem pair_sublist_of_kahn {nodes : List α} {fuel : Nat} {order : List α}
    (h : kahn edges nodes fuel = some order) :
    ∀ x ∈ nodes, ∀ y ∈ nodes, (x, y) ∈ edges → [x, y].Sublist order := by
  induction fuel generalizing nodes order with
  | zero =>
    cases nodes with
    | nil => intro x hx; cases hx
    | cons _ _ => cases h
  | succ fuel ih =>
    intro x hx y hy hxy
    have hne : nodes ≠ [] := List.ne_nil_of_mem hx
    obtain ⟨a, hfind, rest, hrest, rfl⟩ := eq_cons_of_kahn hne h
    -- the node taken first has no edge into it, so the target is another node
    have hya : y ≠ a := by
      rintro rfl
      exact noPred_eq_true.mp (List.find?_some hfind) x hx hxy
    have hy' : y ∈ nodes.erase a := (List.mem_erase_of_ne hya).mpr hy
    by_cases hxa : x = a
    · subst hxa
      exact List.Sublist.cons_cons x
        (List.singleton_sublist.mpr ((perm_of_kahn hrest).mem_iff.mpr hy'))
    · have hx' : x ∈ nodes.erase a := (List.mem_erase_of_ne hxa).mpr hx
      exact (ih hrest x hx' y hy' hxy).cons a

/-- With a round for every node, a run on a graph without cycles succeeds: there is always a
node free of predecessors. -/
theorem isSome_kahn {nodes : List α} {fuel : Nat} (hfuel : nodes.length ≤ fuel)
    (hacyclic : ¬HasCycle (EdgeIn edges nodes)) : (kahn edges nodes fuel).isSome := by
  induction fuel generalizing nodes with
  | zero =>
    cases nodes with
    | nil => rfl
    | cons _ _ => simp at hfuel
  | succ fuel ih =>
    by_cases hne : nodes = []
    · subst hne
      rfl
    obtain ⟨a, ha, hfree⟩ := exists_no_pred_of_not_hasCycle hne hacyclic
    have hnone : nodes.find? (noPred edges nodes) ≠ none := by
      rw [ne_eq, List.find?_eq_none]
      intro hall
      exact hall a ha (noPred_eq_true.mpr fun b hb hba => hfree b hb hba)
    obtain ⟨a', hfind⟩ := Option.ne_none_iff_exists'.mp hnone
    have ha' : a' ∈ nodes := List.mem_of_find?_eq_some hfind
    -- the rest is shorter and, as part of the nodes, has no cycle either
    have hlen : (nodes.erase a').length ≤ fuel := by
      rw [List.length_erase_of_mem ha']
      omega
    have hrest : ¬HasCycle (EdgeIn edges (nodes.erase a')) := fun hcycle =>
      hacyclic (HasCycle.mono (fun x y ⟨hx, hy, hxy⟩ =>
        ⟨List.erase_subset hx, List.erase_subset hy, hxy⟩) hcycle)
    cases nodes with
    | nil => exact absurd rfl hne
    | cons n ns =>
      unfold kahn
      rw [hfind]
      simp only [Option.isSome_map]
      exact ih hlen hrest

/-- In a list without duplicates, the first of a pair that is a sublist comes first. -/
theorem idxOf_lt_idxOf_of_pair_sublist {l : List α} {x y : α} (hnodup : l.Nodup)
    (h : [x, y].Sublist l) : l.idxOf x < l.idxOf y := by
  induction l with
  | nil => cases h
  | cons c t ih =>
    obtain ⟨hc, ht⟩ := List.nodup_cons.mp hnodup
    rcases List.sublist_cons_iff.mp h with hsub | ⟨r, hr, hsub⟩
    · -- both lie after the head
      have hxc : c ≠ x := fun hcx => hc (hcx ▸ hsub.subset (List.mem_cons_self))
      have hyc : c ≠ y := fun hcy =>
        hc (hcy ▸ hsub.subset (List.mem_cons_of_mem x (List.mem_singleton_self y)))
      rw [List.idxOf_cons_ne t hxc, List.idxOf_cons_ne t hyc]
      exact Nat.succ_lt_succ (ih ht hsub)
    · -- the head is the first of the pair
      obtain ⟨hxc, hry⟩ := List.cons_eq_cons.mp hr
      rw [← hry] at hsub
      have hyc : c ≠ y := fun hcy => hc (hcy ▸ List.singleton_sublist.mp hsub)
      rw [hxc, List.idxOf_cons_self, List.idxOf_cons_ne t hyc]
      exact Nat.succ_pos _

/-- A successful run on nodes without duplicates rules out a cycle: along every edge the
position in the order grows. -/
theorem not_hasCycle_of_kahn {nodes : List α} {fuel : Nat} {order : List α}
    (hnodup : nodes.Nodup) (h : kahn edges nodes fuel = some order) :
    ¬HasCycle (EdgeIn edges nodes) := by
  have hperm := perm_of_kahn h
  have horder : order.Nodup := hperm.nodup_iff.mpr hnodup
  refine not_hasCycle_of_lt (f := fun a => order.length - order.idxOf a) ?_
  rintro x y ⟨hx, hy, hxy⟩
  have hlt := idxOf_lt_idxOf_of_pair_sublist horder (pair_sublist_of_kahn h x hx y hy hxy)
  have hyin : order.idxOf y < order.length :=
    List.idxOf_lt_length_iff.mpr (hperm.mem_iff.mpr hy)
  show order.length - order.idxOf y < order.length - order.idxOf x
  omega

/-! ### Sorting node indices -/

/-- A topological sort of the graph on the nodes `0, …, n - 1` with the given edges; a cycle
is an error. -/
def toposort (n : Nat) (edges : List (Nat × Nat)) : Except Unit (List Nat) :=
  match kahn edges (List.range n) n with
  | some order => .ok order
  | none => .error ()

/-- What a topological sort of node indices promises, for graphs whose edges join nodes
`0, …, n - 1`: it succeeds exactly when there is no cycle, and then lists every node once,
each edge's source before its target. -/
structure IsToposort {ε : Type} (sort : Nat → List (Nat × Nat) → Except ε (List Nat)) : Prop where
  ok_iff : ∀ n edges, (∀ e ∈ edges, e.1 < n ∧ e.2 < n) →
    ((∃ order, sort n edges = .ok order) ↔ ¬HasCycle fun a b => (a, b) ∈ edges)
  perm : ∀ n edges order, (∀ e ∈ edges, e.1 < n ∧ e.2 < n) → sort n edges = .ok order →
    order.Perm (List.range n)
  pair_sublist : ∀ n edges order, (∀ e ∈ edges, e.1 < n ∧ e.2 < n) →
    sort n edges = .ok order → ∀ e ∈ edges, [e.1, e.2].Sublist order

/-- On edges between the nodes `0, …, n - 1`, the edges within the nodes are all the edges. -/
theorem edgeIn_range {n : Nat} {edges : List (Nat × Nat)}
    (hin : ∀ e ∈ edges, e.1 < n ∧ e.2 < n) :
    EdgeIn edges (List.range n) = fun a b => (a, b) ∈ edges := by
  funext a b
  apply propext
  constructor
  · rintro ⟨-, -, hab⟩
    exact hab
  · intro hab
    exact ⟨List.mem_range.mpr (hin _ hab).1, List.mem_range.mpr (hin _ hab).2, hab⟩

theorem toposort_eq_ok {n : Nat} {edges : List (Nat × Nat)} {order : List Nat} :
    toposort n edges = .ok order ↔ kahn edges (List.range n) n = some order := by
  unfold toposort
  cases kahn edges (List.range n) n <;> simp

/-- Kahn's method is a topological sort. -/
theorem isToposort_toposort : IsToposort toposort where
  ok_iff n edges hin := by
    rw [← edgeIn_range hin]
    constructor
    · rintro ⟨order, horder⟩
      exact not_hasCycle_of_kahn List.nodup_range (toposort_eq_ok.mp horder)
    · intro hacyclic
      obtain ⟨order, horder⟩ := Option.isSome_iff_exists.mp
        (isSome_kahn (List.length_range.le) hacyclic)
      exact ⟨order, toposort_eq_ok.mpr horder⟩
  perm n edges order _ horder := perm_of_kahn (toposort_eq_ok.mp horder)
  pair_sublist n edges order hin horder e he :=
    pair_sublist_of_kahn (toposort_eq_ok.mp horder) e.1 (List.mem_range.mpr (hin e he).1)
      e.2 (List.mem_range.mpr (hin e he).2) he

end Graph
