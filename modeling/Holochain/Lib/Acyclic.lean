/-
Acyclicity of a finite directed graph, decided by peeling.

A graph on the nodes `nodes` with the edges `edges` (pairs source, target) is acyclic
exactly when removing, again and again, every node that no remaining node has an edge into
empties it. One round is `peel`; `acyclic` runs as many rounds as there are nodes, after
which the rounds have reached a fixed point.

* `peel_subset` — a round keeps fewer nodes of a smaller node list;
* `peel_iterate_fixed` — after `nodes.length` rounds no round changes anything;
* `acyclic_of_sublist` — a sublist of the nodes of an acyclic graph is acyclic, under the
  same edges;
* `exists_no_pred_of_not_hasCycle`, `exists_no_succ_of_not_hasCycle` — a relation without
  cycles on a nonempty finite list has an element of the list with no predecessor in it, and
  one with no successor;
* `HasCycle.map`, `HasCycle.mono` — a cycle carries over along a map of relations;
* `acyclic_iff` — peeling empties the graph exactly when its edges between its nodes have no
  cycle;
* `hasCycle_addEdge_iff`, `acyclic_append_iff` — adding an edge to a graph without cycles
  makes one exactly when the edge's target already reaches its source.
-/
import Mathlib.Data.Fintype.Card
import Mathlib.Data.Fintype.EquivFin
import Mathlib.Data.Fintype.Sets
import Mathlib.Logic.Function.Iterate
import Mathlib.Logic.Relation
import Mathlib.Order.WellFounded
import Mathlib.Data.List.Basic

namespace Graph

variable {α : Type} [DecidableEq α] (edges : List (α × α))

/-- One round of peeling: the nodes that a remaining node still has an edge into. -/
def peel (nodes : List α) : List α :=
  nodes.filter fun n => edges.any fun e => e.2 == n && nodes.contains e.1

/-- Whether peeling empties the graph. -/
def acyclic (nodes : List α) : Bool :=
  (peel edges)^[nodes.length] nodes = []

theorem peel_sublist (nodes : List α) : (peel edges nodes).Sublist nodes :=
  List.filter_sublist

theorem mem_peel {nodes : List α} {n : α} :
    n ∈ peel edges nodes ↔ n ∈ nodes ∧ ∃ e ∈ edges, e.2 = n ∧ e.1 ∈ nodes := by
  simp [peel]

/-- Peeling is monotone in the node list. -/
theorem peel_subset {small large : List α} (h : small ⊆ large) :
    peel edges small ⊆ peel edges large := by
  intro n hn
  rw [mem_peel] at hn ⊢
  obtain ⟨hns, e, he, hen, hes⟩ := hn
  exact ⟨h hns, e, he, hen, h hes⟩

theorem peel_iterate_subset {small large : List α} (h : small ⊆ large) (k : Nat) :
    (peel edges)^[k] small ⊆ (peel edges)^[k] large := by
  induction k generalizing small large with
  | zero => exact h
  | succ k ih =>
    rw [Function.iterate_succ_apply, Function.iterate_succ_apply]
    exact ih (peel_subset edges h)

/-- Each round either removes a node or changes nothing from then on: after `k` rounds,
`k` nodes are gone or a fixed point is reached. -/
theorem peel_iterate_progress (nodes : List α) (k : Nat) :
    ((peel edges)^[k] nodes).length + k ≤ nodes.length ∨
      peel edges ((peel edges)^[k] nodes) = (peel edges)^[k] nodes := by
  induction k with
  | zero => exact .inl (by simp)
  | succ k ih =>
    rw [Function.iterate_succ_apply']
    rcases ih with hlen | hfix
    · by_cases hfix : peel edges ((peel edges)^[k] nodes) = (peel edges)^[k] nodes
      · right
        rw [hfix, hfix]
      · -- a round that changes the list removes a node
        left
        have hsub := peel_sublist edges ((peel edges)^[k] nodes)
        have hlt : (peel edges ((peel edges)^[k] nodes)).length <
            ((peel edges)^[k] nodes).length :=
          Nat.lt_of_le_of_ne hsub.length_le fun heq => hfix (hsub.eq_of_length heq)
        omega
    · right
      rw [hfix, hfix]

/-- After as many rounds as nodes, peeling has reached its fixed point. -/
theorem peel_iterate_fixed (nodes : List α) :
    peel edges ((peel edges)^[nodes.length] nodes) = (peel edges)^[nodes.length] nodes := by
  rcases peel_iterate_progress edges nodes nodes.length with hlen | hfix
  · have hnil : (peel edges)^[nodes.length] nodes = [] :=
      List.eq_nil_of_length_eq_zero (by omega)
    rw [hnil]
    rfl
  · exact hfix

theorem peel_iterate_of_le (nodes : List α) {m : Nat} (hm : nodes.length ≤ m) :
    (peel edges)^[m] nodes = (peel edges)^[nodes.length] nodes := by
  obtain ⟨d, rfl⟩ := Nat.exists_eq_add_of_le hm
  rw [Nat.add_comm, Function.iterate_add_apply]
  exact Function.iterate_fixed (peel_iterate_fixed edges nodes) d

/-- Dropping nodes, under the same edges, keeps a graph acyclic. -/
theorem acyclic_of_sublist {small large : List α} (h : small.Sublist large)
    (hacyclic : acyclic edges large = true) : acyclic edges small = true := by
  unfold acyclic at hacyclic ⊢
  rw [decide_eq_true_iff] at hacyclic ⊢
  have hsub := peel_iterate_subset edges h.subset large.length
  rw [hacyclic, peel_iterate_of_le edges small h.length_le] at hsub
  exact List.eq_nil_of_subset_nil hsub

theorem peel_iterate_sublist (nodes : List α) (k : Nat) : ((peel edges)^[k] nodes).Sublist nodes := by
  induction k with
  | zero => exact List.Sublist.refl nodes
  | succ k ih =>
    rw [Function.iterate_succ_apply']
    exact (peel_sublist edges _).trans ih

/-! ### Cycles -/

section Cycles

variable {β : Type} (r : β → β → Prop)

/-- `r` between elements of the list `F`. -/
def Within (F : List β) (x y : β) : Prop := x ∈ F ∧ y ∈ F ∧ r x y

/-- A cycle: an element that a nonempty chain of `r` steps leads back to. -/
def HasCycle : Prop := ∃ a, Relation.TransGen r a a

variable {r}

/-- A relation along which a measure falls has no cycle. -/
theorem not_hasCycle_of_lt {f : β → Nat} (h : ∀ a b, r a b → f b < f a) : ¬HasCycle r := by
  rintro ⟨a, ha⟩
  have hlt : ∀ {x y}, Relation.TransGen r x y → f y < f x := by
    intro x y hxy
    induction hxy with
    | single hab => exact h _ _ hab
    | tail _ hbc ih => exact lt_trans (h _ _ hbc) ih
  exact lt_irrefl _ (hlt ha)

/-- A cycle of `r` is a cycle of every relation that `r` maps into. -/
theorem HasCycle.map {γ : Type} {s : γ → γ → Prop} (f : β → γ)
    (h : ∀ a b, r a b → s (f a) (f b)) : HasCycle r → HasCycle s := by
  rintro ⟨a, ha⟩
  exact ⟨f a, Relation.TransGen.lift f h a a ha⟩

theorem HasCycle.mono {s : β → β → Prop} (h : ∀ a b, r a b → s a b) :
    HasCycle r → HasCycle s :=
  HasCycle.map id h

/-- An element on a cycle has a predecessor on the cycle. -/
theorem exists_pred_of_transGen_self {a : β} (h : Relation.TransGen r a a) :
    ∃ p, r p a ∧ Relation.TransGen r p p := by
  obtain ⟨p, hap, hpa⟩ := Relation.TransGen.tail'_iff.mp h
  exact ⟨p, hpa, Relation.TransGen.head' hpa hap⟩

/-- On a nonempty list over which `r` has no cycle, some element has no predecessor in the
list: the chains of `r` order the elements strictly, and a finite strict order is well
founded. -/
theorem exists_no_pred_of_not_hasCycle [DecidableEq β] {F : List β} (hne : F ≠ [])
    (hacyclic : ¬HasCycle (Within r F)) : ∃ a ∈ F, ∀ b ∈ F, ¬r b a := by
  let R : {x // x ∈ F} → {x // x ∈ F} → Prop := fun a b => Relation.TransGen (Within r F) a.1 b.1
  have : IsTrans _ R := ⟨fun _ _ _ hab hbc => hab.trans hbc⟩
  have : Std.Irrefl R := ⟨fun a h => hacyclic ⟨a.1, h⟩⟩
  have hwf : WellFounded R := Finite.wellFounded_of_trans_of_irrefl R
  obtain ⟨x, hx⟩ := List.exists_mem_of_ne_nil F hne
  obtain ⟨⟨a, ha⟩, -, hmin⟩ := hwf.has_min Set.univ ⟨⟨x, hx⟩, trivial⟩
  refine ⟨a, ha, fun b hb hba => hmin ⟨b, hb⟩ trivial ?_⟩
  exact Relation.TransGen.single ⟨hb, ha, hba⟩

/-- The same with the relation turned round: some element has no successor in the list. -/
theorem exists_no_succ_of_not_hasCycle [DecidableEq β] {F : List β} (hne : F ≠ [])
    (hacyclic : ¬HasCycle (Within r F)) : ∃ a ∈ F, ∀ b ∈ F, ¬r a b := by
  refine exists_no_pred_of_not_hasCycle (r := Function.swap r) hne ?_
  rintro ⟨a, ha⟩
  -- a cycle of the turned relation is one of `r`, run backwards
  have hswap : Relation.TransGen (Function.swap (Within r F)) a a := by
    refine Relation.TransGen.mono ?_ a a ha
    rintro x y ⟨hx, hy, hxy⟩
    exact ⟨hy, hx, hxy⟩
  exact hacyclic ⟨a, Relation.transGen_swap.mp hswap⟩

end Cycles

/-- The graph's edges between its nodes. -/
def EdgeIn (nodes : List α) : α → α → Prop := Within (fun a b => (a, b) ∈ edges) nodes

/-- A node on a cycle survives every round of peeling: its predecessor on the cycle does. -/
theorem mem_peel_iterate_of_cycle (nodes : List α) (k : Nat) :
    ∀ {n : α}, Relation.TransGen (EdgeIn edges nodes) n n → n ∈ (peel edges)^[k] nodes := by
  induction k with
  | zero =>
    intro n hn
    obtain ⟨p, ⟨-, hn, -⟩, -⟩ := exists_pred_of_transGen_self hn
    exact hn
  | succ k ih =>
    intro n hn
    obtain ⟨p, ⟨-, -, hpn⟩, hp⟩ := exists_pred_of_transGen_self hn
    rw [Function.iterate_succ_apply', mem_peel]
    exact ⟨ih hn, (p, n), hpn, rfl, ih hp⟩

/-- Peeling decides acyclicity: it empties the graph exactly when no cycle runs through the
graph's edges between its nodes. What is left after the last round has a predecessor inside
for each node, which a graph without cycles cannot have. -/
theorem acyclic_iff (nodes : List α) :
    acyclic edges nodes = true ↔ ¬HasCycle (EdgeIn edges nodes) := by
  unfold acyclic
  rw [decide_eq_true_iff]
  constructor
  · rintro hempty ⟨n, hn⟩
    have hmem := mem_peel_iterate_of_cycle edges nodes nodes.length hn
    rw [hempty] at hmem
    exact List.not_mem_nil hmem
  · intro hacyclic
    by_contra hne
    set F := (peel edges)^[nodes.length] nodes with hF
    have hsub : F ⊆ nodes := (peel_iterate_sublist edges nodes nodes.length).subset
    -- a cycle among the nodes left is a cycle of the graph
    have hacyclicF : ¬HasCycle (Within (fun a b => (a, b) ∈ edges) F) := by
      rintro ⟨n, hn⟩
      refine hacyclic ⟨n, Relation.TransGen.mono ?_ n n hn⟩
      rintro a b ⟨ha, hb, hab⟩
      exact ⟨hsub ha, hsub hb, hab⟩
    obtain ⟨a, ha, hnone⟩ := exists_no_pred_of_not_hasCycle hne hacyclicF
    have hfix : peel edges F = F := peel_iterate_fixed edges nodes
    rw [← hfix, mem_peel] at ha
    obtain ⟨-, e, he, hea, he₁⟩ := ha
    exact hnone e.1 he₁ (by rw [← hea]; exact he)

/-! ### Adding an edge -/

section AddEdge

variable {β : Type} {r : β → β → Prop} {u v : β}

/-- A chain that may take the edge from `u` to `v` runs along `r` alone, or reaches `u` along
`r` and goes on from `v`. -/
theorem transGen_addEdge {x y : β}
    (h : Relation.TransGen (fun a b => r a b ∨ a = u ∧ b = v) x y) :
    Relation.TransGen r x y ∨ Relation.ReflTransGen r x u ∧ Relation.ReflTransGen r v y := by
  induction h with
  | single hxy =>
    rcases hxy with hxy | ⟨rfl, rfl⟩
    · exact .inl (.single hxy)
    · exact .inr ⟨.refl, .refl⟩
  | tail _ hbc ih =>
    rcases hbc with hbc | ⟨rfl, rfl⟩
    · rcases ih with hxb | ⟨hxu, hvb⟩
      · exact .inl (hxb.tail hbc)
      · exact .inr ⟨hxu, hvb.tail hbc⟩
    · -- the chain takes the new edge last
      rcases ih with hxu | ⟨hxu, -⟩
      · exact .inr ⟨hxu.to_reflTransGen, .refl⟩
      · exact .inr ⟨hxu, .refl⟩

/-- Adding the edge from `u` to `v` to a relation without cycles makes a cycle exactly when `v`
already reaches `u`. -/
theorem hasCycle_addEdge_iff (hr : ¬HasCycle r) :
    HasCycle (fun a b => r a b ∨ a = u ∧ b = v) ↔ Relation.ReflTransGen r v u := by
  constructor
  · rintro ⟨a, ha⟩
    rcases transGen_addEdge ha with hcycle | ⟨hau, hva⟩
    · exact absurd ⟨a, hcycle⟩ hr
    · exact hva.trans hau
  · intro hvu
    -- the new edge, then the way back along `r`
    refine ⟨u, Relation.TransGen.head' (.inr ⟨rfl, rfl⟩) ?_⟩
    exact Relation.ReflTransGen.mono (fun a b hab => Or.inl hab) v u hvu

end AddEdge

/-- Adding an edge between two nodes of an acyclic graph keeps it acyclic exactly when the
edge's target does not already reach its source. -/
theorem acyclic_append_iff {nodes : List α} {u v : α} (hacyclic : acyclic edges nodes = true)
    (hu : u ∈ nodes) (hv : v ∈ nodes) :
    acyclic (edges ++ [(u, v)]) nodes = true ↔
      ¬Relation.ReflTransGen (EdgeIn edges nodes) v u := by
  have hedge : EdgeIn (edges ++ [(u, v)]) nodes =
      fun a b => EdgeIn edges nodes a b ∨ a = u ∧ b = v := by
    funext a b
    apply propext
    simp only [EdgeIn, Within, List.mem_append, List.mem_singleton, Prod.mk.injEq]
    constructor
    · rintro ⟨ha, hb, hab | hab⟩
      · exact .inl ⟨ha, hb, hab⟩
      · exact .inr hab
    · rintro (⟨ha, hb, hab⟩ | ⟨rfl, rfl⟩)
      · exact ⟨ha, hb, .inl hab⟩
      · exact ⟨hu, hv, .inr ⟨rfl, rfl⟩⟩
  rw [acyclic_iff, hedge, hasCycle_addEdge_iff ((acyclic_iff edges nodes).mp hacyclic)]

end Graph
