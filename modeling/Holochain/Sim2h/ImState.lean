/-
The in-memory state of the sim2h relay (`sim2h/src/sim2h_im_state.rs`): per space, the
connected agents, which agent each uri is joined as, who holds which aspects, and the uris
replaced connections left behind for closing.

The store is mutated by one task, one append-only-log entry (`AolEntry`) at a time
(`Store::mutate`); that makes it a state machine over `AolEntry`s (`StoreStep`). What the
source draws from a random generator or the clock (a connection's next gossip check, the
jitter of a gossip round, the time of a round) is part of the entry here. Locations come
from the space's crypto system (`calc_location_for_id`, `entry_location`) and are
parameters; the first may fail, and the source then leaves the space as it was.

Main results:
* `Store.UriRoutes.mutate`, `reachable_uriRoutes` — over every run, a uri that a space
  maps to an agent is that agent's connection uri;
* `check_insert_connection_breaks_inverse` — the converse fails, and a live uri can be
  queued for disconnection.
-/
import Mathlib.Data.Finset.Basic
import Holochain.Lib.AListMap
import Holochain.Lib.Multimap
import Holochain.Lib.Run

namespace Holochain.Sim2h

variable {A U : Type}

/-- `ConnectionState`. The next gossip check, an `Instant`, is a time in milliseconds. -/
structure ConnectionState (A U : Type) where
  agentId : A
  agentLoc : Nat
  uri : U
  nextGossipCheck : Nat
  deriving DecidableEq, Repr

/-- `Holding`: the agents holding each aspect. -/
abbrev Holding (A : Type) := AList (fun _ : A => Finset A)

/-- `EntryInfo`. -/
structure EntryInfo (A : Type) where
  entryHash : A
  entryLoc : Nat
  aspects : Holding A

/-- `Space`, without its crypto system. Agents, spaces, entries and aspects are hashes of
type `A`, uris of type `U`. -/
structure Space (A U : Type) where
  redundancy : Nat
  allAspects : Finset A
  entryToAllAspects : AList (fun _ : A => EntryInfo A)
  connections : AList (fun _ : A => ConnectionState A U)
  uriToConnection : AList (fun _ : U => A)
  disconnectUri : List U
  gossipInterval : Nat

namespace Space

/-- `Space::new`. -/
def new (redundancy gossipInterval : Nat) : Space A U :=
  ⟨redundancy, ∅, ∅, ∅, ∅, [], gossipInterval⟩

variable [DecidableEq A] [DecidableEq U] (s : Space A U)

/-- `Space::clear_holding`: the agent holds nothing any more. -/
def clearHolding (agentId : A) : Space A U :=
  { s with entryToAllAspects := s.entryToAllAspects.mapVal fun _ entry =>
      { entry with aspects := entry.aspects.mapVal fun _ holding => holding.erase agentId } }

section Locations

variable (calcLocation : A → Option Nat) (entryLocation : A → Nat)

/-- `Space::check_insert_connection`: the agent's connection now has this uri, the uri
routes to the agent, and a replaced connection's uri is unmapped and queued for closing. -/
def checkInsertConnection (agentId : A) (uri : U) (nextGossipCheck : Nat) : Space A U :=
  match calcLocation agentId with
  -- "FAILED to generate agent loc": nothing changes
  | none => s
  | some agentLoc =>
    let (connections, removeOldUri) :=
      match s.connections.lookup agentId with
      | some entry =>
        (s.connections.insert agentId
          { entry with agentId := agentId, agentLoc := agentLoc, uri := uri,
                       nextGossipCheck := nextGossipCheck }, some entry.uri)
      | none =>
        (s.connections.insert agentId ⟨agentId, agentLoc, uri, nextGossipCheck⟩, none)
    let s := { s with connections := connections }
    let s := match removeOldUri with
      | some oldUri =>
        { s with uriToConnection := s.uriToConnection.erase oldUri
                 disconnectUri := s.disconnectUri ++ [oldUri] }
      | none => s
    ({ s with uriToConnection := s.uriToConnection.insert uri agentId }).clearHolding agentId

/-- `Space::priv_check_insert_entry_hash`: an entry is recorded with its location. -/
def privCheckInsertEntryHash (entryHash : A) : Space A U :=
  match s.entryToAllAspects.lookup entryHash with
  | some _ => s
  | none =>
    { s with entryToAllAspects :=
        s.entryToAllAspects.insert entryHash ⟨entryHash, entryLocation entryHash, ∅⟩ }

/-- `Space::agent_holds_aspects`: the agent holds these aspects of the entry. -/
def agentHoldsAspects (agentId entryHash : A) (aspects : List A) : Space A U :=
  let s := s.privCheckInsertEntryHash entryLocation entryHash
  -- `priv_check_insert_aspect` for each aspect
  let s := { s with allAspects := s.allAspects ∪ aspects.toFinset }
  match s.entryToAllAspects.lookup entryHash with
  -- the entry was just inserted; the source `unwrap`s
  | none => s
  | some e =>
    let held := aspects.foldl (fun h a => h.insert a (insert agentId ((h.lookup a).getD ∅)))
      e.aspects
    { s with entryToAllAspects := s.entryToAllAspects.insert entryHash { e with aspects := held } }

end Locations

/-- `Space::check_gossip` at time `now`: every connection whose check is due is checked
again `toAdd` of its agent later, and is reported with the space. -/
def checkGossip (spaceHash : A) (now : Nat) (toAdd : A → Nat) :
    Space A U × List (A × A) :=
  let due := fun (c : ConnectionState A U) => !decide (now < c.nextGossipCheck)
  ({ s with connections := s.connections.mapVal (fun a c =>
      if due c then { c with nextGossipCheck := now + toAdd a } else c) },
    (s.connections.entries.filter fun e => due e.2).map fun e => (spaceHash, e.2.agentId))

end Space

/-- `AGENT_FETCH_ASPECTS_INTERVAL_MS`. -/
def agentFetchAspectsIntervalMs : Nat := 5000

/-- `Store`, without its crypto system and log counter. -/
structure Store (A U : Type) where
  redundancy : Nat
  spaces : AList (fun _ : A => Space A U)
  gossipInterval : Nat

variable (A U) in
/-- `AolEntry`, with what the source draws from its random generator and clock. -/
inductive AolEntry
  | newConnection (spaceHash agentId : A) (uri : U) (nextGossipCheck : Nat)
  | dropConnectionByUri (uri : U)
  | agentHoldsAspects (spaceHash agentId entryHash : A) (aspects : List A)
  | checkGossip (now : Nat) (toAdd : A → A → Nat)
  | checkDisconnected

namespace Store

/-- `Store::new`. -/
def new (redundancy : Nat) (gossipInterval : Option Nat) : Store A U :=
  ⟨redundancy, ∅, gossipInterval.getD agentFetchAspectsIntervalMs⟩

variable [DecidableEq A] [DecidableEq U] (s : Store A U)

/-- `Store::drop_connection_inner`: the agent's holdings are cleared, and its connection
and the uri it was on are removed. -/
def dropConnectionInner (space : Space A U) (agentId : A) : Space A U :=
  let space := space.clearHolding agentId
  match space.connections.lookup agentId with
  | some c =>
    { space with connections := space.connections.erase agentId
                 uriToConnection := space.uriToConnection.erase c.uri }
  | none => space

/-- `Store::get_space_mut` followed by a change of the space; a missing space is created. -/
def modifySpace (spaceHash : A) (f : Space A U → Space A U) : Store A U :=
  let space := (s.spaces.lookup spaceHash).getD (Space.new s.redundancy s.gossipInterval)
  { s with spaces := s.spaces.insert spaceHash (f space) }

/-- `Store::check_drop_spaces`: spaces without connections are dropped. -/
def checkDropSpaces : Store A U :=
  { s with spaces := s.spaces.filter fun _ space => !space.connections.entries.isEmpty }

/-- `Store::drop_connection_by_uri`. -/
def dropConnectionByUri (uri : U) : Store A U :=
  ({ s with spaces := s.spaces.mapVal (fun _ (space : Space A U) =>
      match space.uriToConnection.lookup uri with
      | some agentId => dropConnectionInner space agentId
      | none => space) }).checkDropSpaces

/-- `Store::check_gossip`: every space's round, and the agents to check. -/
def checkGossip (now : Nat) (toAdd : A → A → Nat) : Store A U × List (A × A) :=
  ({ s with spaces := s.spaces.mapVal fun h space => (space.checkGossip h now (toAdd h)).1 },
    s.spaces.entries.flatMap fun e => (e.2.checkGossip e.1 now (toAdd e.1)).2)

/-- `Store::check_disconnected`: the queued uris of every space, which are then cleared. -/
def checkDisconnected : Store A U × List U :=
  ({ s with spaces := s.spaces.mapVal fun _ space => { space with disconnectUri := [] } },
    s.spaces.entries.flatMap fun e => e.2.disconnectUri)

variable (calcLocation : A → Option Nat) (entryLocation : A → Nat)

/-- `Store::mutate`. -/
def mutate : AolEntry A U → Store A U
  | .newConnection spaceHash agentId uri next =>
    s.modifySpace spaceHash (·.checkInsertConnection calcLocation agentId uri next)
  | .dropConnectionByUri uri => s.dropConnectionByUri uri
  | .agentHoldsAspects spaceHash agentId entryHash aspects =>
    s.modifySpace spaceHash (·.agentHoldsAspects entryLocation agentId entryHash aspects)
  | .checkGossip now toAdd => (s.checkGossip now toAdd).1
  | .checkDisconnected => s.checkDisconnected.1

end Store

/-- One mutation of the sim2h store. -/
def StoreStep [DecidableEq A] [DecidableEq U] (calcLocation : A → Option Nat)
    (entryLocation : A → Nat) (s : Store A U) (e : AolEntry A U) (s' : Store A U) : Prop :=
  s' = s.mutate calcLocation entryLocation e

/-! ### Queries -/

/-- `should_store`: with no redundancy every agent holds everything; otherwise naive
sharding (`naive_sharding_should_store` of the `lib3h` crate, a parameter) decides. -/
def shouldStore (naiveShardingShouldStore : Nat → Nat → Nat → Nat → Bool)
    (agentLoc entryLoc agentCount redundancy : Nat) : Bool :=
  if redundancy = 0 then true
  else naiveShardingShouldStore agentLoc entryLoc agentCount redundancy

namespace Space

variable [DecidableEq A] (s : Space A U) (entryLocation : A → Nat)
  (naiveShardingShouldStore : Nat → Nat → Nat → Nat → Bool)

/-- `Space::get_entry_location`. -/
def getEntryLocation (entryHash : A) : Nat :=
  match s.entryToAllAspects.lookup entryHash with
  | some entry => entry.entryLoc
  | none => entryLocation entryHash

/-- `Space::get_agents_that_should_hold_entry`, in the order of the connections. -/
def getAgentsThatShouldHoldEntry (entryHash : A) : List A :=
  if s.redundancy = 0 then s.connections.keys
  else
    let entryLoc := s.getEntryLocation entryLocation entryHash
    let agentCount := s.connections.entries.length
    (s.connections.entries.filter fun e =>
      shouldStore naiveShardingShouldStore e.2.agentLoc entryLoc agentCount s.redundancy).map
      (·.1)

/-- `Space::get_agents_holding_entry`: the agents holding every aspect of the entry. The
source stops early once the intersection is empty, which gives the same set. -/
def getAgentsHoldingEntry (entryHash : A) : Finset A :=
  match s.entryToAllAspects.lookup entryHash with
  | none => ∅
  | some entry =>
    match entry.aspects.entries with
    | [] => ∅
    | first :: rest => rest.foldl (fun remaining e => remaining ∩ e.2) first.2

/-- `Space::get_agents_that_need_aspect`: the agents that should hold the entry and do not
hold the aspect, when the space knows that aspect of the entry. -/
def getAgentsThatNeedAspect (entryHash aspectHash : A) : List A :=
  match s.entryToAllAspects.lookup entryHash with
  | none => []
  | some entry =>
    match entry.aspects.lookup aspectHash with
    | none => []
    | some holding =>
      (s.getAgentsThatShouldHoldEntry entryLocation naiveShardingShouldStore entryHash).filter
        (· ∉ holding)

/-- `Space::get_gossip_aspects_needed_for_agent`: for each entry the agent should hold, by the
entry's recorded location, the aspects it does not hold; nothing for an agent that is not
connected. An entry the agent should hold is present even when it needs none of its aspects
(`entry(..).or_default()`). -/
def getGossipAspectsNeededForAgent (agentId : A) : Finmap (fun _ : A => Finset A) :=
  let agentCount := s.connections.entries.length
  match s.connections.lookup agentId with
  | none => ∅
  | some c =>
    s.entryToAllAspects.entries.foldl (fun out entry =>
      if shouldStore naiveShardingShouldStore c.agentLoc entry.2.entryLoc agentCount s.redundancy then
        ((entry.2.aspects.entries.filter fun h => agentId ∉ h.2).map (·.1)).foldl
          (fun out aspectHash => Multimap.addTo out entry.2.entryHash aspectHash)
          (out.insert entry.2.entryHash ((out.lookup entry.2.entryHash).getD ∅))
      else out) ∅

end Space

namespace Store

variable [DecidableEq A] [DecidableEq U] (s : Store A U) (entryLocation : A → Nat)
  (naiveShardingShouldStore : Nat → Nat → Nat → Nat → Bool)

/-- `Store::lookup_joined`: the uri of an agent's connection in a space. -/
def lookupJoined (spaceHash agentId : A) : Option U := do
  let space ← s.spaces.lookup spaceHash
  let con ← space.connections.lookup agentId
  return con.uri

/-- `Store::get_space_info_from_uri`: the agent a uri is joined as and its space, from the
first space, in the order of the spaces, that knows the uri. -/
def getSpaceInfoFromUri (uri : U) : Option (A × A) :=
  s.spaces.entries.findSome? fun e => (e.2.uriToConnection.lookup uri).map (·, e.1)

/-- `Store::get_agents_that_should_hold_entry`. -/
def getAgentsThatShouldHoldEntry (spaceHash entryHash : A) : Option (List A) :=
  (s.spaces.lookup spaceHash).map
    (·.getAgentsThatShouldHoldEntry entryLocation naiveShardingShouldStore entryHash)

/-- `Store::get_agents_holding_entry`. -/
def getAgentsHoldingEntry (spaceHash entryHash : A) : Option (Finset A) :=
  (s.spaces.lookup spaceHash).map (·.getAgentsHoldingEntry entryHash)

/-- `Store::get_agents_that_need_aspect`. -/
def getAgentsThatNeedAspect (spaceHash entryHash aspectHash : A) : List A :=
  match s.spaces.lookup spaceHash with
  | none => []
  | some space =>
    space.getAgentsThatNeedAspect entryLocation naiveShardingShouldStore entryHash aspectHash

/-- `Store::get_gossip_aspects_needed_for_agent`. -/
def getGossipAspectsNeededForAgent (spaceHash agentId : A) : Option (Finmap (fun _ : A => Finset A)) :=
  (s.spaces.lookup spaceHash).map (·.getGossipAspectsNeededForAgent naiveShardingShouldStore agentId)

/-- `Store::get_agents_for_query`: the agents holding the entry, else those that should,
other than the requester; the requester itself when there is no one else. The set is
listed in the order `shuffle` draws (the source's `thread_rng`), and cut to three. -/
def getAgentsForQuery (shuffle : Finset A → List A) (spaceHash entryHash : A)
    (requestingAgentId : Option A) : List A :=
  let withoutRequester := fun (out : Finset A) =>
    match requestingAgentId with
    | some aid => out.erase aid
    | none => out
  let out := withoutRequester ((s.getAgentsHoldingEntry spaceHash entryHash).getD ∅)
  let out :=
    if out = ∅ then
      withoutRequester
        (((s.getAgentsThatShouldHoldEntry entryLocation naiveShardingShouldStore spaceHash
          entryHash).map List.toFinset).getD out)
    else out
  if out = ∅ then
    match requestingAgentId with
    -- "there are no options"
    | none => []
    | some aid => (shuffle {aid}).take 3
  else (shuffle out).take 3

end Store

/-! ### Invariants of every space -/

/-- Every space of the store satisfies `P`. -/
def Store.AllSpaces [DecidableEq A] (P : Space A U → Prop) (s : Store A U) : Prop :=
  ∀ h space, s.spaces.lookup h = some space → P space

/-- What a property of a space must survive for every mutation of the store to keep it in
every space (`SpaceInvariant.mutate`): a new space has it, and each change a mutation makes
to one space keeps it. -/
structure SpaceInvariant [DecidableEq A] [DecidableEq U] (calcLocation : A → Option Nat)
    (entryLocation : A → Nat) (P : Space A U → Prop) : Prop where
  new : ∀ redundancy gossipInterval, P (Space.new redundancy gossipInterval)
  checkInsertConnection : ∀ space agentId uri next, P space →
    P (space.checkInsertConnection calcLocation agentId uri next)
  agentHoldsAspects : ∀ space agentId entryHash aspects, P space →
    P (space.agentHoldsAspects entryLocation agentId entryHash aspects)
  dropConnectionInner : ∀ space agentId, P space → P (Store.dropConnectionInner space agentId)
  checkGossip : ∀ space spaceHash now toAdd, P space →
    P (space.checkGossip spaceHash now toAdd).1
  clearDisconnectUri : ∀ space, P space → P { space with disconnectUri := [] }

namespace Store

variable [DecidableEq A] [DecidableEq U] {s : Store A U} {P : Space A U → Prop}

omit [DecidableEq U] in
theorem AllSpaces.modifySpace (h : s.AllSpaces P) (spaceHash : A)
    (hnew : P (Space.new s.redundancy s.gossipInterval)) {f : Space A U → Space A U}
    (hf : ∀ space, P space → P (f space)) : (s.modifySpace spaceHash f).AllSpaces P := by
  intro h' space hspace
  unfold Store.modifySpace at hspace
  by_cases hh : h' = spaceHash
  · subst hh
    rw [AList.lookup_insert, Option.some.injEq] at hspace
    subst hspace
    apply hf
    cases hs : s.spaces.lookup h' with
    | none => exact hnew
    | some space => exact h h' space hs
  · rw [AList.lookup_insert_ne hh] at hspace
    exact h h' space hspace

theorem AllSpaces.dropConnectionByUri (h : s.AllSpaces P)
    (hdrop : ∀ space agentId, P space → P (dropConnectionInner space agentId)) (uri : U) :
    (s.dropConnectionByUri uri).AllSpaces P := by
  intro h' space hspace
  simp only [Store.dropConnectionByUri, checkDropSpaces, AList.lookup_filter,
    AList.lookup_mapVal] at hspace
  -- a space left after the drop is one that was there, changed by the drop
  obtain ⟨old, hold, rfl⟩ := Option.map_eq_some_iff.mp (Option.eq_some_of_filter_eq_some hspace)
  split
  · exact hdrop old _ (h h' old hold)
  · exact h h' old hold

end Store

variable [DecidableEq A] [DecidableEq U] in
/-- Every mutation keeps an invariant of spaces in every space. -/
theorem SpaceInvariant.mutate {P : Space A U → Prop} {s : Store A U}
    {calcLocation : A → Option Nat} {entryLocation : A → Nat}
    (hP : SpaceInvariant calcLocation entryLocation P) (h : s.AllSpaces P) (e : AolEntry A U) :
    (s.mutate calcLocation entryLocation e).AllSpaces P := by
  cases e with
  | newConnection spaceHash agentId uri next =>
    exact h.modifySpace spaceHash (hP.new _ _) fun space => hP.checkInsertConnection space _ _ _
  | dropConnectionByUri uri => exact h.dropConnectionByUri hP.dropConnectionInner uri
  | agentHoldsAspects spaceHash agentId entryHash aspects =>
    exact h.modifySpace spaceHash (hP.new _ _) fun space => hP.agentHoldsAspects space _ _ _
  | checkGossip now toAdd =>
    intro h' space hspace
    simp only [Store.mutate, Store.checkGossip, AList.lookup_mapVal] at hspace
    obtain ⟨old, hold, rfl⟩ := Option.map_eq_some_iff.mp hspace
    exact hP.checkGossip old h' now (toAdd h') (h h' old hold)
  | checkDisconnected =>
    intro h' space hspace
    simp only [Store.mutate, Store.checkDisconnected, AList.lookup_mapVal] at hspace
    obtain ⟨old, hold, rfl⟩ := Option.map_eq_some_iff.mp hspace
    exact hP.clearDisconnectUri old (h h' old hold)

/-- An invariant of spaces holds in every space of every reachable store. -/
theorem SpaceInvariant.reachable [DecidableEq A] [DecidableEq U] {calcLocation : A → Option Nat}
    {entryLocation : A → Nat} {P : Space A U → Prop}
    (hP : SpaceInvariant calcLocation entryLocation P) {redundancy : Nat}
    {gossipInterval : Option Nat} {s : Store A U}
    (hs : Run.Reachable (StoreStep calcLocation entryLocation)
      (Store.new redundancy gossipInterval) s) : s.AllSpaces P := by
  refine Run.Reachable.invariant (P := Store.AllSpaces P) ?_ ?_ hs
  · intro h space hspace
    cases hspace
  · rintro s e s' hs rfl
    exact hP.mutate hs e

/-! ### Routing by uri -/

/-- A uri the space maps to an agent is the uri of that agent's connection: a message
routed by uri reaches the agent's current connection. -/
def Space.UriRoutes [DecidableEq A] [DecidableEq U] (s : Space A U) : Prop :=
  ∀ u a, s.uriToConnection.lookup u = some a →
    ∃ c, s.connections.lookup a = some c ∧ c.uri = u

/-- Every space of the store routes its uris to connections. -/
def Store.UriRoutes [DecidableEq A] [DecidableEq U] (s : Store A U) : Prop :=
  ∀ h space, s.spaces.lookup h = some space → space.UriRoutes

namespace Space

variable [DecidableEq A] [DecidableEq U] {s : Space A U}

omit [DecidableEq U] in
@[simp] theorem connections_clearHolding (agentId : A) :
    (s.clearHolding agentId).connections = s.connections := rfl

omit [DecidableEq U] in
@[simp] theorem uriToConnection_clearHolding (agentId : A) :
    (s.clearHolding agentId).uriToConnection = s.uriToConnection := rfl

omit [DecidableEq U] in
@[simp] theorem disconnectUri_clearHolding (agentId : A) :
    (s.clearHolding agentId).disconnectUri = s.disconnectUri := rfl

omit [DecidableEq U] in
/-- Clearing an agent's holdings keeps every entry record but its holding sets. -/
theorem lookup_entryToAllAspects_clearHolding (agentId k : A) :
    (s.clearHolding agentId).entryToAllAspects.lookup k =
      (s.entryToAllAspects.lookup k).map fun entry =>
        { entry with aspects := entry.aspects.mapVal fun _ holding => holding.erase agentId } := by
  simp [clearHolding, AList.lookup_mapVal]

theorem uriRoutes_new (redundancy gossipInterval : Nat) :
    (Space.new redundancy gossipInterval : Space A U).UriRoutes := by
  unfold UriRoutes
  intro u a h
  cases h

section Insert

variable {calcLocation : A → Option Nat} {agentId : A} {uri : U} {next loc : Nat}

theorem checkInsertConnection_of_loc_eq_none (hloc : calcLocation agentId = none) :
    s.checkInsertConnection calcLocation agentId uri next = s := by
  simp [checkInsertConnection, hloc]

/-- After `check_insert_connection` the agent's connection is the new one. -/
theorem lookup_connections_checkInsertConnection (hloc : calcLocation agentId = some loc)
    (a : A) : (s.checkInsertConnection calcLocation agentId uri next).connections.lookup a =
      if a = agentId then some ⟨agentId, loc, uri, next⟩ else s.connections.lookup a := by
  unfold checkInsertConnection
  rw [hloc]
  by_cases ha : a = agentId
  · subst ha
    cases s.connections.lookup a <;> simp
  · cases s.connections.lookup agentId <;> simp [ha, AList.lookup_insert_ne ha]

/-- After `check_insert_connection` the uri routes to the agent, and the uri the agent was
on before routes nowhere. -/
theorem lookup_uriToConnection_checkInsertConnection (hloc : calcLocation agentId = some loc)
    (u : U) : (s.checkInsertConnection calcLocation agentId uri next).uriToConnection.lookup u =
      if u = uri then some agentId
      else if (s.connections.lookup agentId).map (·.uri) = some u then none
      else s.uriToConnection.lookup u := by
  unfold checkInsertConnection
  rw [hloc]
  by_cases hu : u = uri
  · subst hu
    cases s.connections.lookup agentId <;> simp
  · cases s.connections.lookup agentId with
    | none => simp [hu, AList.lookup_insert_ne hu]
    | some c =>
      by_cases hold : c.uri = u
      · simp [hu, hold, AList.lookup_insert_ne hu]
      · simp [hu, hold, AList.lookup_insert_ne hu, AList.lookup_erase_ne (Ne.symm hold)]

/-- A replaced connection's uri is queued for closing. -/
theorem disconnectUri_checkInsertConnection (hloc : calcLocation agentId = some loc) :
    (s.checkInsertConnection calcLocation agentId uri next).disconnectUri =
      s.disconnectUri ++ ((s.connections.lookup agentId).map (·.uri)).toList := by
  unfold checkInsertConnection
  rw [hloc]
  cases s.connections.lookup agentId <;> simp

/-- A connection touches the entry records only by clearing the agent's holdings. -/
theorem entryToAllAspects_checkInsertConnection (hloc : calcLocation agentId = some loc) :
    (s.checkInsertConnection calcLocation agentId uri next).entryToAllAspects =
      (s.clearHolding agentId).entryToAllAspects := by
  unfold checkInsertConnection
  rw [hloc]
  cases s.connections.lookup agentId <;> rfl

theorem UriRoutes.checkInsertConnection (h : s.UriRoutes) :
    (s.checkInsertConnection calcLocation agentId uri next).UriRoutes := by
  cases hloc : calcLocation agentId with
  | none =>
    rw [checkInsertConnection_of_loc_eq_none hloc]
    exact h
  | some loc =>
    unfold UriRoutes
    intro u a hu
    rw [lookup_uriToConnection_checkInsertConnection hloc] at hu
    simp only [lookup_connections_checkInsertConnection hloc]
    by_cases huri : u = uri
    · rw [if_pos huri, Option.some.injEq] at hu
      exact ⟨_, by rw [if_pos hu.symm], huri.symm⟩
    · rw [if_neg huri] at hu
      by_cases hold : (s.connections.lookup agentId).map (·.uri) = some u
      · rw [if_pos hold] at hu
        cases hu
      · rw [if_neg hold] at hu
        obtain ⟨c, hc, hcu⟩ := h u a hu
        -- the agent's old uri was erased, so the uri belongs to another agent
        have ha : a ≠ agentId := by
          rintro rfl
          exact hold (by rw [hc, Option.map_some, hcu])
        exact ⟨c, by rw [if_neg ha, hc], hcu⟩

end Insert

/-- Routing reads only the connections and the uri map. -/
theorem UriRoutes.of_eq {s' : Space A U} (h : s.UriRoutes)
    (hc : s'.connections = s.connections) (hu : s'.uriToConnection = s.uriToConnection) :
    s'.UriRoutes := by
  unfold UriRoutes
  rw [hc, hu]
  exact h

theorem UriRoutes.agentHoldsAspects (h : s.UriRoutes) (entryLocation : A → Nat)
    (agentId entryHash : A) (aspects : List A) :
    (s.agentHoldsAspects entryLocation agentId entryHash aspects).UriRoutes := by
  -- holding aspects writes neither map, whichever branch the entry takes
  have hmaps : (s.privCheckInsertEntryHash entryLocation entryHash).connections = s.connections ∧
      (s.privCheckInsertEntryHash entryLocation entryHash).uriToConnection =
        s.uriToConnection := by
    unfold privCheckInsertEntryHash
    split <;> exact ⟨rfl, rfl⟩
  unfold Space.agentHoldsAspects
  dsimp only
  split
  · exact h.of_eq hmaps.1 hmaps.2
  · exact h.of_eq hmaps.1 hmaps.2

omit [DecidableEq U] in
/-- `agent_holds_aspects` writes the entry's record alone: the recorded one, or a new one at
the entry's location, with the agent added to the holding of each aspect. -/
theorem lookup_entryToAllAspects_agentHoldsAspects (entryLocation : A → Nat)
    (agentId entryHash : A) (aspects : List A) (k : A) :
    (s.agentHoldsAspects entryLocation agentId entryHash aspects).entryToAllAspects.lookup k =
      if k = entryHash then
        let e := (s.entryToAllAspects.lookup entryHash).getD
          ⟨entryHash, entryLocation entryHash, ∅⟩
        some { e with
          aspects := aspects.foldl (fun h a => h.insert a (insert agentId ((h.lookup a).getD ∅)))
            e.aspects }
      else s.entryToAllAspects.lookup k := by
  unfold agentHoldsAspects privCheckInsertEntryHash
  by_cases hk : k = entryHash
  · subst hk
    cases hlook : s.entryToAllAspects.lookup k <;> simp [hlook]
  · cases hlook : s.entryToAllAspects.lookup entryHash <;> simp [hlook, hk, AList.lookup_insert_ne hk]

theorem UriRoutes.checkGossip (h : s.UriRoutes) (spaceHash : A) (now : Nat) (toAdd : A → Nat) :
    (s.checkGossip spaceHash now toAdd).1.UriRoutes := by
  unfold UriRoutes
  intro u a hu
  obtain ⟨c, hc, hcu⟩ := h u a hu
  refine ⟨_, by simp only [Space.checkGossip, AList.lookup_mapVal, hc, Option.map_some]; rfl, ?_⟩
  -- a gossip round only moves the connections' next check
  split <;> exact hcu

end Space

namespace Store

variable [DecidableEq A] [DecidableEq U] {s : Store A U}

/-- Dropping a connection touches the entry records only by clearing the agent's holdings. -/
theorem entryToAllAspects_dropConnectionInner (space : Space A U) (agentId : A) :
    (dropConnectionInner space agentId).entryToAllAspects =
      (space.clearHolding agentId).entryToAllAspects := by
  unfold dropConnectionInner
  dsimp only
  split <;> rfl

theorem lookup_connections_dropConnectionInner (space : Space A U) (agentId a : A) :
    (dropConnectionInner space agentId).connections.lookup a =
      if a = agentId then none else space.connections.lookup a := by
  unfold dropConnectionInner
  simp only [Space.connections_clearHolding]
  by_cases ha : a = agentId
  · subst ha
    cases hc : space.connections.lookup a with
    | none => simpa using hc
    | some c => simp
  · cases space.connections.lookup agentId <;> simp [ha, AList.lookup_erase_ne ha]

theorem lookup_uriToConnection_dropConnectionInner (space : Space A U) (agentId : A) (u : U) :
    (dropConnectionInner space agentId).uriToConnection.lookup u =
      if (space.connections.lookup agentId).map (·.uri) = some u then none
      else space.uriToConnection.lookup u := by
  unfold dropConnectionInner
  simp only [Space.connections_clearHolding]
  cases space.connections.lookup agentId with
  | none => simp
  | some c =>
    by_cases hu : c.uri = u
    · simp [hu]
    · simp [hu, AList.lookup_erase_ne (Ne.symm hu)]

theorem uriRoutes_dropConnectionInner {space : Space A U} (h : space.UriRoutes) (agentId : A) :
    (dropConnectionInner space agentId).UriRoutes := by
  unfold Space.UriRoutes
  intro u a hu
  rw [lookup_uriToConnection_dropConnectionInner] at hu
  rw [lookup_connections_dropConnectionInner]
  by_cases hold : (space.connections.lookup agentId).map (·.uri) = some u
  · rw [if_pos hold] at hu
    cases hu
  · rw [if_neg hold] at hu
    obtain ⟨c, hc, hcu⟩ := h u a hu
    have ha : a ≠ agentId := by
      rintro rfl
      exact hold (by rw [hc, Option.map_some, hcu])
    exact ⟨c, by rw [if_neg ha, hc], hcu⟩

end Store

/-- Routing by uri is an invariant of spaces: every change a mutation makes to a space keeps
it. -/
theorem spaceInvariant_uriRoutes [DecidableEq A] [DecidableEq U] (calcLocation : A → Option Nat)
    (entryLocation : A → Nat) :
    SpaceInvariant calcLocation entryLocation (Space.UriRoutes (A := A) (U := U)) where
  new := Space.uriRoutes_new
  checkInsertConnection _ _ _ _ h := h.checkInsertConnection
  agentHoldsAspects _ _ _ _ h := h.agentHoldsAspects entryLocation _ _ _
  dropConnectionInner _ agentId h := Store.uriRoutes_dropConnectionInner h agentId
  checkGossip _ spaceHash now toAdd h := h.checkGossip spaceHash now toAdd
  clearDisconnectUri _ h := h.of_eq rfl rfl

/-- Every mutation keeps every space routing its uris to connections. -/
theorem Store.UriRoutes.mutate [DecidableEq A] [DecidableEq U] {s : Store A U}
    (calcLocation : A → Option Nat) (entryLocation : A → Nat) (h : s.UriRoutes)
    (e : AolEntry A U) : (s.mutate calcLocation entryLocation e).UriRoutes :=
  (spaceInvariant_uriRoutes calcLocation entryLocation).mutate h e

theorem reachable_uriRoutes [DecidableEq A] [DecidableEq U] {calcLocation : A → Option Nat}
    {entryLocation : A → Nat} {redundancy : Nat} {gossipInterval : Option Nat} {s : Store A U}
    (hs : Run.Reachable (StoreStep calcLocation entryLocation)
      (Store.new redundancy gossipInterval) s) : s.UriRoutes :=
  (spaceInvariant_uriRoutes calcLocation entryLocation).reachable hs

/-- The converse of `reachable_uriRoutes` fails, and so does the promise of the disconnect
queue. Joining one uri as a second agent leaves the first agent's connection on a uri that
now routes to the second; an agent rejoining on its own uri leaves that live uri queued for
closing, and `check_disconnected` hands it out. -/
theorem check_insert_connection_breaks_inverse :
    (∃ s : Store Nat Nat,
      Run.Reachable (StoreStep (fun _ => some 0) (fun _ => 0)) (Store.new 0 none) s ∧
      (s.spaces.lookup 1).bind (·.uriToConnection.lookup 100) = some 11 ∧
      ((s.spaces.lookup 1).bind (·.connections.lookup 10)).map (·.uri) = some 100) ∧
    (∃ s : Store Nat Nat,
      Run.Reachable (StoreStep (fun _ => some 0) (fun _ => 0)) (Store.new 0 none) s ∧
      (s.spaces.lookup 1).bind (·.uriToConnection.lookup 100) = some 10 ∧
      100 ∈ s.checkDisconnected.2) := by
  refine ⟨⟨_, .step (.newConnection 1 11 100 0)
      (.step (.newConnection 1 10 100 0) .init rfl) rfl, ?_, ?_⟩,
    ⟨_, .step (.newConnection 1 10 100 0)
      (.step (.newConnection 1 10 100 0) .init rfl) rfl, ?_, ?_⟩⟩ <;> decide

end Holochain.Sim2h
