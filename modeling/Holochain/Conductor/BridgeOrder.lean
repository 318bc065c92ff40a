/-
The order in which the conductor starts its instances
(`Configuration::instance_ids_sorted_by_bridge_dependencies` in `conductor_lib/src/config.rs`).

The instances are the nodes of a graph, numbered in the order of the configuration, and each
bridge is an edge from its caller to its callee. The source sorts the graph topologically and
reverses the order, so that every callee comes before its callers. petgraph's `toposort` is a
parameter, assumed to keep the promise of `Graph.IsToposort`; Kahn's method
(`Graph.toposort`) keeps it. A panic (`unwrap` of a missing map entry) is the outer `Except
String`, the function's `Result` the inner `Except`. The two maps of the source are
`HashMap`s filled by `collect`: a later entry for the same key replaces an earlier one.

Main results:
* `indexMap_eq` — with distinct ids, an instance id's node is its position;
* `bridge_order_topological` — with distinct instance ids the function never panics,
  succeeds exactly when every bridge joins two instances and the bridges have no cycle, and
  then lists the instance ids once each, every callee before its callers;
* `instanceIdsSortedByBridgeDependencies_eq_ok_iff` — the model of `Conductor.Config`, which
  keeps only whether the sort fails, agrees with this one.
-/
import Holochain.Conductor.Config
import Holochain.Lib.Toposort

namespace Holochain.Conductor

/-! ### Maps filled by updates -/

section Update

variable {γ κ V : Type} [DecidableEq κ] (key : γ → κ) (val : γ → V)

/-- A key that no element has keeps its first value. -/
theorem foldl_update_of_not_mem {l : List γ} {k : κ} (hk : k ∉ l.map key) (m : κ → Option V) :
    (l.foldl (fun m x => Function.update m (key x) (some (val x))) m) k = m k := by
  induction l generalizing m with
  | nil => rfl
  | cons x l ih =>
    have hxk : k ≠ key x := fun h => hk (h ▸ List.mem_map_of_mem List.mem_cons_self)
    rw [List.foldl_cons, ih (fun h => hk (List.mem_cons_of_mem _ h)),
      Function.update_of_ne hxk]

/-- With distinct keys, each element's key ends with the element's value. -/
theorem foldl_update_of_mem {l : List γ} (hnodup : (l.map key).Nodup) {x : γ} (hx : x ∈ l)
    (m : κ → Option V) :
    (l.foldl (fun m x => Function.update m (key x) (some (val x))) m) (key x) = some (val x) := by
  induction l generalizing m with
  | nil => cases hx
  | cons y l ih =>
    rw [List.map_cons, List.nodup_cons] at hnodup
    rw [List.foldl_cons]
    rcases List.mem_cons.mp hx with rfl | hx
    · -- no later element has the key
      rw [foldl_update_of_not_mem key val hnodup.1, Function.update_self]
    · exact ih hnodup.2 hx _

end Update

namespace Configuration

variable (c : Configuration)

/-- `instance_ids`. -/
def instanceIds : List String :=
  c.instances.map fun inst => inst.id

/-- `index_map`: each instance id to the index of its node, the position of its instance. -/
def indexMap : String → Option Nat :=
  c.instances.zipIdx.foldl (fun indexMap entry => Function.update indexMap entry.1.id (some entry.2))
    fun _ => none

/-- `reverse_map`: each node index to its instance's id, through `index_map`, unwrapped. -/
def reverseMap : Except String (Nat → Option String) :=
  c.instances.foldlM (fun reverseMap inst =>
    match c.indexMap inst.id with
    | some node => pure (Function.update reverseMap node (some inst.id))
    | none => throw "called Option::unwrap() on a None value") fun _ => none

/-- The bridges as edges of the graph, from caller to callee. -/
def bridgeEdges : Except HolochainError (List (Nat × Nat)) :=
  c.bridges.mapM fun bridge =>
    match c.indexMap bridge.callerId, c.indexMap bridge.calleeId with
    | some start, some stop => .ok (start, stop)
    | _, _ => .error (.configError
      ("Instance configuration not found, mentioned in bridge configuration: " ++
        bridge.callerId ++ " -> " ++ bridge.calleeId))

variable {ε : Type} (toposort : Nat → List (Nat × Nat) → Except ε (List Nat))

/-- `instance_ids_sorted_by_bridge_dependencies`, with petgraph's `toposort` given. -/
def instanceIdsSortedByBridgeDependenciesWith :
    Except String (Except HolochainError (List String)) := do
  let reverseMap ← c.reverseMap
  match c.bridgeEdges with
  | .error e => pure (.error e)
  | .ok edges =>
    match toposort c.instances.length edges with
    | .error _ => pure (.error (.configError "Cyclic dependency in bridge configuration"))
    | .ok sortedNodes =>
      -- callees first: the reverse of the topological order
      let ids ← sortedNodes.reverse.mapM fun node =>
        match reverseMap node with
        | some id => pure id
        | none => throw "called Option::unwrap() on a None value"
      pure (.ok ids)

/-- A bridge from the caller to the callee. -/
def BridgeEdge (caller callee : String) : Prop :=
  ∃ bridge ∈ c.bridges, bridge.callerId = caller ∧ bridge.calleeId = callee

/-! ### The two maps -/

variable {c}

theorem length_instanceIds : c.instanceIds.length = c.instances.length :=
  List.length_map _

theorem mem_instanceIds {inst : InstanceConfiguration} (h : inst ∈ c.instances) :
    inst.id ∈ c.instanceIds :=
  List.mem_map_of_mem h

theorem getElem?_instanceIds (i : Nat) : c.instanceIds[i]? = c.instances[i]?.map (·.id) :=
  List.getElem?_map

/-- In a list without duplicates, an element's position is where it is. -/
theorem idxOf_eq_of_getElem? {ids : List String} {i : Nat} {x : String} (hnodup : ids.Nodup)
    (h : ids[i]? = some x) : ids.idxOf x = i := by
  obtain ⟨hi, rfl⟩ := List.getElem?_eq_some_iff.mp h
  exact List.Nodup.idxOf_getElem hnodup i hi

/-- In a list of ids, the id at an id's position. -/
theorem getD_idxOf {ids : List String} {id : String} (h : id ∈ ids) :
    ids.getD (ids.idxOf id) "" = id := by
  rw [List.getD_eq_getElem?_getD, List.getElem?_idxOf h, Option.getD_some]

/-- Reading a list at each of its positions gives the list. -/
theorem map_getD_range {α : Type} (ids : List α) (d : α) :
    (List.range ids.length).map (fun i => ids.getD i d) = ids := by
  apply List.ext_getElem (by simp)
  intro i h₁ h₂
  rw [List.getElem_map, List.getElem_range, List.getD_eq_getElem?_getD,
    List.getElem?_eq_getElem h₂, Option.getD_some]

/-- With distinct ids, an instance id's node is its position; another id has none. -/
theorem indexMap_eq (hnodup : c.instanceIds.Nodup) (id : String) :
    c.indexMap id = if id ∈ c.instanceIds then some (c.instanceIds.idxOf id) else none := by
  have hkeys : c.instances.zipIdx.map (fun entry : InstanceConfiguration × Nat => entry.1.id) =
      c.instanceIds := by
    have hcomp : (fun entry : InstanceConfiguration × Nat => entry.1.id) =
        (fun inst : InstanceConfiguration => inst.id) ∘ Prod.fst := rfl
    rw [hcomp, ← List.map_map, List.zipIdx_map_fst]
    rfl
  unfold indexMap
  by_cases hid : id ∈ c.instanceIds
  · rw [if_pos hid]
    -- the instance at the id's position carries the id, and its entry writes the position
    have hat := List.getElem?_idxOf hid
    rw [getElem?_instanceIds, Option.map_eq_some_iff] at hat
    obtain ⟨inst, hinst, rfl⟩ := hat
    have hentry : (inst, c.instanceIds.idxOf inst.id) ∈ c.instances.zipIdx :=
      List.mem_zipIdx_iff_getElem?.mpr hinst
    exact foldl_update_of_mem (fun entry : InstanceConfiguration × Nat => entry.1.id)
      (fun entry => entry.2) (by rw [hkeys]; exact hnodup) hentry (fun _ => none)
  · rw [if_neg hid]
    exact foldl_update_of_not_mem (fun entry : InstanceConfiguration × Nat => entry.1.id)
      (fun entry => entry.2) (by rw [hkeys]; exact hid) _

/-- The nodes of the instances, in order, are `0, …, n - 1`. -/
theorem map_idxOf_instances (hnodup : c.instanceIds.Nodup) :
    c.instances.map (fun inst => c.instanceIds.idxOf inst.id) =
      List.range c.instances.length := by
  apply List.ext_getElem (by simp)
  intro i h₁ h₂
  have hi : i < c.instances.length := by simpa using h₁
  have hat : c.instanceIds[i]? = some c.instances[i].id := by
    rw [getElem?_instanceIds, List.getElem?_eq_getElem hi, Option.map_some]
  rw [List.getElem_map, List.getElem_range, idxOf_eq_of_getElem? hnodup hat]

/-- With distinct ids, `reverse_map` does not panic and takes each node to its instance's
id. -/
theorem reverseMap_eq_ok (hnodup : c.instanceIds.Nodup) :
    ∃ reverseMap, c.reverseMap = .ok reverseMap ∧
      ∀ node < c.instances.length, reverseMap node = some (c.instanceIds.getD node "") := by
  have hfind : ∀ inst ∈ c.instances,
      c.indexMap inst.id = some (c.instanceIds.idxOf inst.id) := fun inst hinst => by
    rw [indexMap_eq hnodup, if_pos (mem_instanceIds hinst)]
  have hrev : c.reverseMap = .ok (c.instances.foldl (fun m inst =>
      Function.update m (c.instanceIds.idxOf inst.id) (some inst.id)) fun _ => none) := by
    unfold reverseMap
    refine Except.foldlM_eq_ok_foldl (fun m inst hinst => ?_) _
    rw [hfind inst hinst]
    rfl
  refine ⟨_, hrev, fun node hnode => ?_⟩
  have hkeys : (c.instances.map fun inst => c.instanceIds.idxOf inst.id).Nodup := by
    rw [map_idxOf_instances hnodup]
    exact List.nodup_range
  -- the instance at the node's position writes its id there
  have hat : c.instanceIds[node]? = some c.instances[node].id := by
    rw [getElem?_instanceIds, List.getElem?_eq_getElem hnode, Option.map_some]
  have hwrite := foldl_update_of_mem (fun inst : InstanceConfiguration => c.instanceIds.idxOf inst.id)
    (fun inst : InstanceConfiguration => inst.id) hkeys (List.getElem_mem hnode) (fun _ => none)
  rw [idxOf_eq_of_getElem? hnodup hat] at hwrite
  rw [hwrite, List.getD_eq_getElem?_getD, hat, Option.getD_some]

/-! ### The edges -/

/-- When every bridge joins two instances, the edges are their ends' positions. -/
theorem bridgeEdges_eq_ok (hnodup : c.instanceIds.Nodup)
    (hends : ∀ bridge ∈ c.bridges,
      bridge.callerId ∈ c.instanceIds ∧ bridge.calleeId ∈ c.instanceIds) :
    c.bridgeEdges = .ok (c.bridges.map fun bridge =>
      (c.instanceIds.idxOf bridge.callerId, c.instanceIds.idxOf bridge.calleeId)) := by
  refine Except.mapM_eq_ok_map fun bridge hb => ?_
  rw [indexMap_eq hnodup, indexMap_eq hnodup, if_pos (hends bridge hb).1,
    if_pos (hends bridge hb).2]

/-- The edges are built only when every bridge joins two instances. -/
theorem ends_of_bridgeEdges_eq_ok (hnodup : c.instanceIds.Nodup) {edges : List (Nat × Nat)}
    (h : c.bridgeEdges = .ok edges) :
    ∀ bridge ∈ c.bridges, bridge.callerId ∈ c.instanceIds ∧ bridge.calleeId ∈ c.instanceIds := by
  intro bridge hb
  obtain ⟨e, he⟩ := Except.exists_eq_ok_of_mapM_eq_ok h bridge hb
  rw [indexMap_eq hnodup, indexMap_eq hnodup] at he
  by_cases hcaller : bridge.callerId ∈ c.instanceIds
  · by_cases hcallee : bridge.calleeId ∈ c.instanceIds
    · exact ⟨hcaller, hcallee⟩
    · rw [if_pos hcaller, if_neg hcallee] at he
      cases he
  · rw [if_neg hcaller] at he
    cases he

/-- When every bridge joins two instances, every edge joins two nodes of the graph. -/
theorem edges_lt_length
    (hends : ∀ bridge ∈ c.bridges,
      bridge.callerId ∈ c.instanceIds ∧ bridge.calleeId ∈ c.instanceIds) :
    ∀ e ∈ c.bridges.map (fun bridge =>
      (c.instanceIds.idxOf bridge.callerId, c.instanceIds.idxOf bridge.calleeId)),
      e.1 < c.instances.length ∧ e.2 < c.instances.length := by
  intro e he
  obtain ⟨bridge, hb, rfl⟩ := List.mem_map.mp he
  rw [← length_instanceIds]
  exact ⟨List.idxOf_lt_length_of_mem (hends bridge hb).1,
    List.idxOf_lt_length_of_mem (hends bridge hb).2⟩

/-- On the nodes, the edges have a cycle exactly when the bridges do. -/
theorem hasCycle_edges_iff
    (hends : ∀ bridge ∈ c.bridges,
      bridge.callerId ∈ c.instanceIds ∧ bridge.calleeId ∈ c.instanceIds) :
    Graph.HasCycle (fun i j => (i, j) ∈ c.bridges.map fun bridge =>
      (c.instanceIds.idxOf bridge.callerId, c.instanceIds.idxOf bridge.calleeId)) ↔
      Graph.HasCycle c.BridgeEdge := by
  constructor
  · -- a node is read back as the id at its position
    apply Graph.HasCycle.map fun node => c.instanceIds.getD node ""
    intro i j hij
    obtain ⟨bridge, hb, hbij⟩ := List.mem_map.mp hij
    rw [Prod.mk.injEq] at hbij
    obtain ⟨rfl, rfl⟩ := hbij
    exact ⟨bridge, hb, (getD_idxOf (hends bridge hb).1).symm, (getD_idxOf (hends bridge hb).2).symm⟩
  · apply Graph.HasCycle.map fun id => c.instanceIds.idxOf id
    rintro a b ⟨bridge, hb, rfl, rfl⟩
    exact List.mem_map.mpr ⟨bridge, hb, rfl⟩

/-! ### The sort -/

variable {ε : Type} {toposort : Nat → List (Nat × Nat) → Except ε (List Nat)}

theorem sortedWith_of_bridgeEdges_error (hnodup : c.instanceIds.Nodup) {e : HolochainError}
    (hedges : c.bridgeEdges = .error e) :
    c.instanceIdsSortedByBridgeDependenciesWith toposort = .ok (.error e) := by
  obtain ⟨reverseMap, hrev, -⟩ := reverseMap_eq_ok hnodup
  unfold instanceIdsSortedByBridgeDependenciesWith
  rw [hrev, Except.ok_bind, hedges]
  rfl

theorem sortedWith_of_toposort_error (hnodup : c.instanceIds.Nodup) {edges : List (Nat × Nat)}
    {e : ε} (hedges : c.bridgeEdges = .ok edges)
    (htop : toposort c.instances.length edges = .error e) :
    c.instanceIdsSortedByBridgeDependenciesWith toposort =
      .ok (.error (.configError "Cyclic dependency in bridge configuration")) := by
  obtain ⟨reverseMap, hrev, -⟩ := reverseMap_eq_ok hnodup
  unfold instanceIdsSortedByBridgeDependenciesWith
  rw [hrev, Except.ok_bind, hedges]
  dsimp only
  rw [htop]
  rfl

/-- A sorted order of the nodes comes back reversed, as the ids at its nodes. -/
theorem sortedWith_of_toposort_ok (hnodup : c.instanceIds.Nodup) {edges : List (Nat × Nat)}
    {order : List Nat} (hedges : c.bridgeEdges = .ok edges)
    (htop : toposort c.instances.length edges = .ok order)
    (hrange : ∀ node ∈ order, node < c.instances.length) :
    c.instanceIdsSortedByBridgeDependenciesWith toposort =
      .ok (.ok (order.reverse.map fun node => c.instanceIds.getD node "")) := by
  obtain ⟨reverseMap, hrev, happly⟩ := reverseMap_eq_ok hnodup
  -- every node of the order is an instance's, so no `unwrap` fails
  have hids : order.reverse.mapM (fun node => match reverseMap node with
      | some id => (pure id : Except String String)
      | none => throw "called Option::unwrap() on a None value") =
      .ok (order.reverse.map fun node => c.instanceIds.getD node "") :=
    Except.mapM_eq_ok_map fun node hnode => by
      rw [happly node (hrange node (List.mem_reverse.mp hnode))]
      rfl
  unfold instanceIdsSortedByBridgeDependenciesWith
  rw [hrev, Except.ok_bind, hedges]
  dsimp only
  rw [htop]
  dsimp only
  rw [hids]
  rfl

/-- The reverse of an order of the nodes, read as ids, lists every id once. -/
theorem perm_of_order {order : List Nat} (hperm : order.Perm (List.range c.instances.length)) :
    (order.reverse.map fun node => c.instanceIds.getD node "").Perm c.instanceIds := by
  have h := ((List.reverse_perm order).trans hperm).map fun node => c.instanceIds.getD node ""
  rwa [← length_instanceIds, map_getD_range] at h

/-- In the reverse of an order that puts each caller's node before its callee's, read as ids,
every callee comes before its callers. -/
theorem callee_before_caller_of_order {order : List Nat}
    (hends : ∀ bridge ∈ c.bridges,
      bridge.callerId ∈ c.instanceIds ∧ bridge.calleeId ∈ c.instanceIds)
    (hsorted : ∀ e ∈ c.bridges.map (fun bridge =>
      (c.instanceIds.idxOf bridge.callerId, c.instanceIds.idxOf bridge.calleeId)),
      [e.1, e.2].Sublist order)
    {bridge : Bridge} (hb : bridge ∈ c.bridges) :
    [bridge.calleeId, bridge.callerId].Sublist
      (order.reverse.map fun node => c.instanceIds.getD node "") := by
  have h : [c.instanceIds.getD (c.instanceIds.idxOf bridge.calleeId) "",
      c.instanceIds.getD (c.instanceIds.idxOf bridge.callerId) ""].Sublist
      (order.reverse.map fun node => c.instanceIds.getD node "") :=
    ((hsorted _ (List.mem_map_of_mem hb)).reverse).map fun node => c.instanceIds.getD node ""
  rwa [getD_idxOf (hends bridge hb).1, getD_idxOf (hends bridge hb).2] at h

/-- With distinct instance ids and a topological sort, the function never panics. It
returns an order exactly when every bridge joins two instances and the bridges have no
cycle: the ids read from the reverse of a sorted order of the nodes. Otherwise it returns an
error. -/
theorem sortedWith_cases (htopo : Graph.IsToposort toposort) (hnodup : c.instanceIds.Nodup) :
    ((∀ bridge ∈ c.bridges, bridge.callerId ∈ c.instanceIds ∧ bridge.calleeId ∈ c.instanceIds) ∧
        ¬Graph.HasCycle c.BridgeEdge →
      ∃ order, order.Perm (List.range c.instances.length) ∧
        (∀ e ∈ c.bridges.map (fun bridge =>
          (c.instanceIds.idxOf bridge.callerId, c.instanceIds.idxOf bridge.calleeId)),
          [e.1, e.2].Sublist order) ∧
        c.instanceIdsSortedByBridgeDependenciesWith toposort =
          .ok (.ok (order.reverse.map fun node => c.instanceIds.getD node ""))) ∧
    (¬((∀ bridge ∈ c.bridges, bridge.callerId ∈ c.instanceIds ∧ bridge.calleeId ∈ c.instanceIds) ∧
        ¬Graph.HasCycle c.BridgeEdge) →
      ∃ e, c.instanceIdsSortedByBridgeDependenciesWith toposort = .ok (.error e)) := by
  refine ⟨fun ⟨hends, hacyclic⟩ => ?_, fun hnot => ?_⟩
  · have hedges := bridgeEdges_eq_ok hnodup hends
    have hin := edges_lt_length hends
    obtain ⟨order, horder⟩ :=
      (htopo.ok_iff _ _ hin).mpr fun hcycle => hacyclic ((hasCycle_edges_iff hends).mp hcycle)
    have hperm := htopo.perm _ _ order hin horder
    refine ⟨order, hperm, htopo.pair_sublist _ _ order hin horder,
      sortedWith_of_toposort_ok hnodup hedges horder fun node hnode => ?_⟩
    exact List.mem_range.mp (hperm.mem_iff.mp hnode)
  · by_cases hends : ∀ bridge ∈ c.bridges,
        bridge.callerId ∈ c.instanceIds ∧ bridge.calleeId ∈ c.instanceIds
    · -- the bridges have a cycle, which the sort reports
      have hcycle : Graph.HasCycle c.BridgeEdge := by
        by_contra hacyclic
        exact hnot ⟨hends, hacyclic⟩
      have hedges := bridgeEdges_eq_ok hnodup hends
      have hin := edges_lt_length hends
      cases htop : toposort c.instances.length (c.bridges.map fun bridge =>
          (c.instanceIds.idxOf bridge.callerId, c.instanceIds.idxOf bridge.calleeId)) with
      | error e => exact ⟨_, sortedWith_of_toposort_error hnodup hedges htop⟩
      | ok order =>
        exact absurd ((hasCycle_edges_iff hends).mpr hcycle)
          ((htopo.ok_iff _ _ hin).mp ⟨order, htop⟩)
    · -- a bridge names a missing instance
      cases hedges : c.bridgeEdges with
      | ok edges => exact absurd (ends_of_bridgeEdges_eq_ok hnodup hedges) hends
      | error e => exact ⟨e, sortedWith_of_bridgeEdges_error hnodup hedges⟩

/-- `instance_ids_sorted_by_bridge_dependencies`, for every configuration with distinct
instance ids and any topological sort: it never panics; it returns `Ok` exactly when every
bridge joins two instances and the bridges have no cycle; and then it lists every instance id
once, each callee before its callers. -/
theorem bridge_order_topological (htopo : Graph.IsToposort toposort)
    (hnodup : c.instanceIds.Nodup) :
    ∃ result, c.instanceIdsSortedByBridgeDependenciesWith toposort = .ok result ∧
      ((∃ l, result = .ok l) ↔
        (∀ bridge ∈ c.bridges,
          bridge.callerId ∈ c.instanceIds ∧ bridge.calleeId ∈ c.instanceIds) ∧
        ¬Graph.HasCycle c.BridgeEdge) ∧
      ∀ l, result = .ok l →
        l.Perm c.instanceIds ∧ ∀ bridge ∈ c.bridges, [bridge.calleeId, bridge.callerId].Sublist l := by
  obtain ⟨hgood, hbad⟩ := sortedWith_cases htopo hnodup
  by_cases hok : (∀ bridge ∈ c.bridges,
      bridge.callerId ∈ c.instanceIds ∧ bridge.calleeId ∈ c.instanceIds) ∧
      ¬Graph.HasCycle c.BridgeEdge
  · obtain ⟨order, hperm, hsorted, hsort⟩ := hgood hok
    refine ⟨_, hsort, ⟨fun _ => hok, fun _ => ⟨_, rfl⟩⟩, ?_⟩
    rintro l hl
    cases hl
    exact ⟨perm_of_order hperm, fun bridge hb => callee_before_caller_of_order hok.1 hsorted hb⟩
  · obtain ⟨e, hsort⟩ := hbad hok
    refine ⟨_, hsort, ⟨?_, fun h => absurd h hok⟩, ?_⟩
    · rintro ⟨l, hl⟩
      cases hl
    · intro l hl
      cases hl

/-- The configuration of the source's `test_bridge_config`: `app1` calls `app2`, which calls
`app3`. -/
def bridgeChainConfig : Configuration where
  agents := [⟨"test agent", "Holo Tester 1",
    "HoloTester1-------------------------------------------------------------------------AHi1",
    "holo_tester.key", none, none⟩]
  dnas := [⟨"bridge caller", "bridge/caller_without_required.dna", "Qm328wyq38924y", none⟩]
  instances := ["app1", "app2", "app3"].map fun id =>
    ⟨id, "bridge caller", "test agent", .file (id ++ "_spec_storage")⟩
  interfaces := []
  bridges := [⟨"app1", "app2", "happ-store"⟩, ⟨"app2", "app3", "DPKI"⟩]
  uiBundles := []
  uiInterfaces := []
  signingServiceUri := none
  encryptionServiceUri := none
  decryptionServiceUri := none
  dpki := none

/-- Sorted by Kahn's method, the chain starts with `app3`, then `app2`, then `app1`, as the
source's test expects, and the order has every callee first. -/
theorem bridge_order_topological_chain :
    Graph.IsToposort Graph.toposort ∧ bridgeChainConfig.instanceIds.Nodup ∧
      bridgeChainConfig.instanceIdsSortedByBridgeDependenciesWith Graph.toposort =
        .ok (.ok ["app3", "app2", "app1"]) ∧
      ∀ bridge ∈ bridgeChainConfig.bridges,
        [bridge.calleeId, bridge.callerId].Sublist ["app3", "app2", "app1"] := by
  have hnodup : bridgeChainConfig.instanceIds.Nodup := by decide
  have hsort : bridgeChainConfig.instanceIdsSortedByBridgeDependenciesWith Graph.toposort =
      .ok (.ok ["app3", "app2", "app1"]) := rfl
  obtain ⟨result, hresult, -, horder⟩ :=
    bridge_order_topological Graph.isToposort_toposort hnodup
  rw [hsort, Except.ok.injEq] at hresult
  exact ⟨Graph.isToposort_toposort, hnodup, hsort, (horder _ hresult.symm).2⟩

/-- Between instances, the edges of the model of `Conductor.Config` are the bridges. -/
theorem edgeIn_bridges
    (hends : ∀ bridge ∈ c.bridges,
      bridge.callerId ∈ c.instanceIds ∧ bridge.calleeId ∈ c.instanceIds) :
    Graph.EdgeIn (c.bridges.map fun bridge => (bridge.callerId, bridge.calleeId))
      (c.instances.map fun inst => inst.id) = c.BridgeEdge := by
  funext a b
  apply propext
  constructor
  · rintro ⟨-, -, hab⟩
    obtain ⟨bridge, hb, hbab⟩ := List.mem_map.mp hab
    rw [Prod.mk.injEq] at hbab
    exact ⟨bridge, hb, hbab.1, hbab.2⟩
  · rintro ⟨bridge, hb, rfl, rfl⟩
    exact ⟨(hends bridge hb).1, (hends bridge hb).2, List.mem_map_of_mem hb⟩

/-- The model of `Conductor.Config`, which keeps only whether the sort fails, agrees with this
one: it passes exactly when this one returns an order. -/
theorem instanceIdsSortedByBridgeDependencies_eq_ok_iff (htopo : Graph.IsToposort toposort)
    (hnodup : c.instanceIds.Nodup) :
    c.instanceIdsSortedByBridgeDependencies = .ok () ↔
      ∃ l, c.instanceIdsSortedByBridgeDependenciesWith toposort = .ok (.ok l) := by
  obtain ⟨hgood, hbad⟩ := sortedWith_cases htopo hnodup
  rw [instanceIdsSortedByBridgeDependencies_eq_ok, Graph.acyclic_iff]
  constructor
  · rintro ⟨hends, hacyclic⟩
    rw [edgeIn_bridges hends] at hacyclic
    obtain ⟨order, -, -, hsort⟩ := hgood ⟨hends, hacyclic⟩
    exact ⟨_, hsort⟩
  · rintro ⟨l, hl⟩
    by_cases hok : (∀ bridge ∈ c.bridges,
        bridge.callerId ∈ c.instanceIds ∧ bridge.calleeId ∈ c.instanceIds) ∧
        ¬Graph.HasCycle c.BridgeEdge
    · refine ⟨hok.1, ?_⟩
      rw [edgeIn_bridges hok.1]
      exact hok.2
    · -- otherwise the sort returns an error, not an order
      obtain ⟨e, he⟩ := hbad hok
      rw [hl] at he
      cases he

end Configuration

end Holochain.Conductor
