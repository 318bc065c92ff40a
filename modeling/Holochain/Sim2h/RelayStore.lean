/-
The relay changes its in-memory state only through the state's own mutations.

Every handler of `Holochain.Sim2h.Handler` leaves the store as it is and sends, or goes
through `Relay.mutate` and `Relay.disconnect`, and both are `Store::mutate` of an
`AolEntry` (`drop_connection_by_uri` is one). A step of the relay therefore moves its store
along a run of `StoreStep`, and every store a run of the relay reaches is one the store's
mutations reach from an empty store: what is proved of the store over its own runs holds over
every run of the relay, whatever frames its clients send.

* `relayStep_storeReach` — one step of the relay moves its store by mutations of the store;
* `Relay.reachable_store` — every store a run of the relay reaches is a reachable store;
* `relay_reachable_uriRoutes` — so over every run of the relay, a uri a space maps to an agent
  is that agent's connection uri.
-/
import Holochain.Lib.Run
import Holochain.Sim2h.Identity

namespace Holochain.Sim2h

variable {A U : Type} [DecidableEq A] [DecidableEq U]

namespace Relay

variable (cfg : Sim2hConfig A)

/-- The store of `r'` is reached from that of `r` by mutations of the store. -/
def StoreReach (r r' : Relay A U) : Prop :=
  Run.Reachable (StoreStep cfg.calcLocation cfg.entryLocation) r.store r'.store

variable {cfg} {r r' r'' : Relay A U}

theorem StoreReach.of_store_eq (h : r'.store = r.store) : StoreReach cfg r r' := by
  unfold StoreReach
  rw [h]
  exact .init

theorem StoreReach.refl (r : Relay A U) : StoreReach cfg r r := .of_store_eq rfl

theorem StoreReach.trans (h : StoreReach cfg r r') (h' : StoreReach cfg r' r'') :
    StoreReach cfg r r'' :=
  Run.Reachable.trans h h'

variable (cfg) (r)

theorem storeReach_mutate (e : AolEntry A U) : StoreReach cfg r (r.mutate cfg e) :=
  .single e rfl

omit [DecidableEq A] [DecidableEq U] in
/-- A fold of relay updates that keep the store keeps it. -/
theorem store_foldl {β : Type} (f : Relay A U → β → Relay A U)
    (hf : ∀ r b, (f r b).store = r.store) (l : List β) : (l.foldl f r).store = r.store := by
  apply List.foldlRecOn (motive := fun r' : Relay A U => r'.store = r.store)
  · rfl
  · intro r' hr' b _
    rw [hf r' b, hr']

/-- A fold of relay updates that move the store by mutations moves it by mutations. -/
theorem storeReach_foldl {β : Type} (f : Relay A U → β → Relay A U)
    (hf : ∀ r b, StoreReach cfg r (f r b)) (l : List β) : StoreReach cfg r (l.foldl f r) := by
  apply List.foldlRecOn (motive := fun r' : Relay A U => StoreReach cfg r r')
  · exact .refl r
  · intro r' hr' b _
    exact hr'.trans (hf r' b)

/-- Closing connections drops each from the store, which is a mutation. -/
theorem storeReach_disconnect (uris : List U) : StoreReach cfg r (r.disconnect uris) := by
  unfold Relay.disconnect
  refine storeReach_foldl cfg r _ (fun r d => ?_) uris
  exact .single (AolEntry.dropConnectionByUri d) rfl

end Relay

/-! ### The handlers -/

section Handlers

variable (cfg : Sim2hConfig A) (r : Relay A U) (uri : U) (signer spaceHash : A)

omit [DecidableEq U] in
@[simp] theorem store_innerSpawnHandleMessageSendDmx (toAgentId dataSpaceHash : A)
    (message : WireMessage A) :
    (innerSpawnHandleMessageSendDmx r toAgentId dataSpaceHash spaceHash message).store =
      r.store := by
  unfold innerSpawnHandleMessageSendDmx
  split
  · rfl
  · split <;> rfl

omit [DecidableEq U] in
@[simp] theorem store_spawnHandleMessagePublishEntry (data : ProvidedEntryData A) :
    (spawnHandleMessagePublishEntry cfg r uri signer spaceHash data).store = r.store := by
  unfold spawnHandleMessagePublishEntry
  dsimp only
  split
  · rfl
  · split
    · rfl
    · split
      · rfl
      · -- each agent that should hold the entry is sent the aspects
        refine Relay.store_foldl r _ (fun r agentId => ?_) _
        split <;> rfl

omit [DecidableEq U] in
@[simp] theorem store_spawnHandleMessageAuthoringEntryList (listData : EntryListData A) :
    (spawnHandleMessageAuthoringEntryList cfg r uri signer spaceHash listData).store =
      r.store := by
  unfold spawnHandleMessageAuthoringEntryList
  dsimp only
  split
  · rfl
  · split <;> rfl

omit [DecidableEq U] in
@[simp] theorem store_spawnHandleMessageFetchEntryResult (fetchResult : FetchEntryResultData A) :
    (spawnHandleMessageFetchEntryResult cfg r uri signer spaceHash fetchResult).store =
      r.store := by
  unfold spawnHandleMessageFetchEntryResult
  dsimp only
  split
  · rfl
  · refine Relay.store_foldl r _ (fun r e => ?_) _
    split <;> rfl

omit [DecidableEq U] in
@[simp] theorem store_spawnHandleMessageQueryEntryResult (queryResult : QueryEntryResultData A) :
    (spawnHandleMessageQueryEntryResult r uri signer spaceHash queryResult).store = r.store := by
  unfold spawnHandleMessageQueryEntryResult
  dsimp only
  split
  · rfl
  · split <;> rfl

omit [DecidableEq U] in
theorem store_of_spawnHandleMessageQueryEntry {queryData : QueryEntryData A}
    {shuffle : Finset A → List A} {r' : Relay A U}
    (h : spawnHandleMessageQueryEntry cfg r uri signer spaceHash queryData shuffle = .ok r') :
    r'.store = r.store := by
  unfold spawnHandleMessageQueryEntry at h
  dsimp only at h
  split at h
  · cases h
    rfl
  · split at h
    · cases h
    · split at h <;> cases h <;> rfl

theorem storeReach_spawnHandleMessageHello (version : Nat) (receipt : WireMessage A) :
    Relay.StoreReach cfg r (spawnHandleMessageHello cfg r uri signer version receipt) := by
  unfold spawnHandleMessageHello
  split
  · exact Relay.storeReach_disconnect cfg _ [uri]
  · exact .of_store_eq rfl

theorem storeReach_spawnHandleMessageListData (listData : EntryListData A) :
    Relay.StoreReach cfg r (spawnHandleMessageListData cfg r uri signer spaceHash listData) := by
  unfold spawnHandleMessageListData
  split
  · exact .refl r
  · refine Relay.storeReach_foldl cfg r _ (fun r e => ?_) _
    split
    · exact .refl r
    · exact Relay.storeReach_mutate cfg r _

theorem storeReach_clientToLib3h {data : ClientToLib3h A} {shuffle : Finset A → List A}
    {r' : Relay A U} (h : clientToLib3h cfg r data uri signer spaceHash shuffle = .ok r') :
    Relay.StoreReach cfg r r' := by
  unfold clientToLib3h at h
  split at h
  · cases h
    exact Relay.storeReach_disconnect cfg r [uri]
  · cases h
    exact .of_store_eq (store_innerSpawnHandleMessageSendDmx r spaceHash _ _ _)
  · cases h
    exact .of_store_eq (store_spawnHandleMessagePublishEntry cfg r uri signer spaceHash _)
  · exact .of_store_eq (store_of_spawnHandleMessageQueryEntry cfg r uri signer spaceHash h)
  all_goals cases h; exact .refl r

theorem storeReach_lib3hToClientResponse (data : Lib3hToClientResponse A) :
    Relay.StoreReach cfg r (lib3hToClientResponse cfg r data uri signer spaceHash) := by
  unfold lib3hToClientResponse
  split
  · exact .of_store_eq (store_innerSpawnHandleMessageSendDmx r spaceHash _ _ _)
  · -- an authoring list is first taken as held, then answered
    exact (storeReach_spawnHandleMessageListData cfg r uri signer spaceHash _).trans
      (.of_store_eq (store_spawnHandleMessageAuthoringEntryList cfg _ uri signer spaceHash _))
  · exact storeReach_spawnHandleMessageListData cfg r uri signer spaceHash _
  · exact .of_store_eq (store_spawnHandleMessageFetchEntryResult cfg r uri signer spaceHash _)
  · exact .of_store_eq (store_spawnHandleMessageQueryEntryResult r uri signer spaceHash _)
  · exact .refl r

theorem storeReach_handleJoinedMessage {message receipt : WireMessage A}
    {shuffle : Finset A → List A} {r' : Relay A U}
    (h : handleJoinedMessage cfg r uri message signer spaceHash receipt shuffle = .ok r') :
    Relay.StoreReach cfg r r' := by
  unfold handleJoinedMessage at h
  dsimp only at h
  split at h
  · exact storeReach_clientToLib3h cfg (r.sendReceipt receipt signer uri) uri signer spaceHash h
  · cases h
    exact storeReach_lib3hToClientResponse cfg (r.sendReceipt receipt signer uri) uri signer
      spaceHash _
  · cases h
    exact Relay.storeReach_foldl cfg (r.sendReceipt receipt signer uri) _
      (fun r data => storeReach_lib3hToClientResponse cfg r uri signer spaceHash data) _
  · cases h
    exact .refl r

/-- A join is a new connection in the store, then messages. -/
theorem storeReach_handleMessageJoinSpace (data : SpaceData A) (receipt : WireMessage A)
    (nextGossipCheck : Nat) :
    Relay.StoreReach cfg r (handleMessageJoinSpace cfg r uri signer data receipt nextGossipCheck) :=
  Relay.storeReach_mutate cfg r (.newConnection data.spaceAddress data.agentId uri nextGossipCheck)

theorem storeReach_handleMessage {message receipt : WireMessage A} {env : Sim2hEnv A}
    {r' : Relay A U} (h : handleMessage cfg r uri message signer receipt env = .ok r') :
    Relay.StoreReach cfg r r' := by
  unfold handleMessage at h
  split at h
  · cases h
    exact .refl r
  · cases h
    exact .refl r
  · cases h
    exact .refl r
  · cases h
    exact .refl r
  · cases h
    exact .refl r
  · cases h
    exact storeReach_spawnHandleMessageHello cfg r uri signer _ _
  · cases h
    exact storeReach_handleMessageJoinSpace cfg r uri signer _ _ _
  · split at h
    · cases h
      exact Relay.storeReach_disconnect cfg r [uri]
    · split at h
      · cases h
        exact .refl r
      · exact storeReach_handleJoinedMessage cfg r uri signer _ h

theorem storeReach_handlePayload {payload : Opaque} {env : Sim2hEnv A} {r' : Relay A U}
    (h : handlePayload cfg r uri payload env = .ok r') : Relay.StoreReach cfg r r' := by
  unfold handlePayload at h
  split at h
  · cases h
    exact Relay.storeReach_disconnect cfg r [uri]
  · split at h
    · cases h
      exact Relay.storeReach_disconnect cfg r [uri]
    · dsimp only at h
      split at h
      · -- a join: a frame whose signature fails closes the connection
        obtain ⟨result, -, h⟩ := Except.bind_eq_ok.mp h
        split at h
        · cases h
          exact Relay.storeReach_disconnect cfg r [uri]
        · exact storeReach_handleMessage cfg r uri _ h
      · simp only [Except.pure_eq_ok, Except.ok_bind, Bool.not_true, Bool.false_eq_true,
          if_false] at h
        exact storeReach_handleMessage cfg r uri _ h

end Handlers

/-- One step of the relay moves its store by mutations of the store. -/
theorem relayStep_storeReach {cfg : Sim2hConfig A} {r r' : Relay A U} {e : RelayEvent A U}
    (h : RelayStep cfg r e r') : Relay.StoreReach cfg r r' := by
  unfold RelayStep at h
  cases e with
  | receiveData uri frame env =>
    simp only [Relay.next, privHandleRecvData] at h
    cases frame with
    | binary payload => exact storeReach_handlePayload cfg r uri h
    | text _ | close =>
      cases h
      exact Relay.storeReach_disconnect cfg r [uri]
    | ping | pong =>
      cases h
      exact .refl r
  | connectionLost uri =>
    cases h
    exact Relay.storeReach_disconnect cfg r [uri]
  | checkGossip now toAdd =>
    cases h
    exact Relay.storeReach_mutate cfg r _
  | checkDisconnected =>
    cases h
    -- the sweep clears the queues of uris, then closes them
    exact (Relay.storeReach_mutate cfg r .checkDisconnected).trans
      (Relay.storeReach_disconnect cfg _ r.store.checkDisconnected.2)

/-- Every store a run of the relay reaches is one the store's mutations reach from an empty
store with the algorithm's redundancy. -/
theorem Relay.reachable_store {cfg : Sim2hConfig A} {r : Relay A U}
    (hr : Run.Reachable (RelayStep cfg) (Relay.new cfg) r) :
    Run.Reachable (StoreStep cfg.calcLocation cfg.entryLocation)
      (Store.new cfg.dhtAlgorithm.redundantCount none) r.store :=
  Run.Reachable.invariant (P := fun r : Relay A U => Run.Reachable
      (StoreStep cfg.calcLocation cfg.entryLocation) (Store.new cfg.dhtAlgorithm.redundantCount none)
      r.store)
    .init (fun _ _ _ hs hstep => hs.trans (relayStep_storeReach hstep)) hr

/-- Over every run of the relay, whatever frames its clients send, a uri that a space maps to
an agent is the uri of that agent's connection in the space. -/
theorem relay_reachable_uriRoutes {cfg : Sim2hConfig A} {r : Relay A U}
    (hr : Run.Reachable (RelayStep cfg) (Relay.new cfg) r) : r.store.UriRoutes :=
  reachable_uriRoutes (Relay.reachable_store hr)

/-- A relay over agents, spaces and entries that are numbers, with full sync and signatures
that always verify. Frames `[2]` and `[1]` are the joins of agents `2` and `1` into space `7`;
frame `[3]`, signed by `2`, is its list of held aspects, aspect `6` of entry `5`, and frame
`[4]`, signed by `1`, its own, aspect `8` of entry `5`. -/
def gossipConfig : Sim2hConfig Nat where
  calcLocation _ := some 0
  entryLocation _ := 0
  naiveShardingShouldStore _ _ _ _ := true
  dhtAlgorithm := .fullSync
  verify _ _ _ := .ok true
  decodeSigned
    | [1] => .ok ⟨⟨1, ""⟩, [11]⟩
    | [2] => .ok ⟨⟨2, ""⟩, [12]⟩
    | [3] => .ok ⟨⟨2, ""⟩, [13]⟩
    | [4] => .ok ⟨⟨1, ""⟩, [14]⟩
    | _ => .error "expected value"
  decodeWire
    | [11] => .ok (.clientToLib3h (.joinSpace ⟨"", 7, 1⟩))
    | [12] => .ok (.clientToLib3h (.joinSpace ⟨"", 7, 2⟩))
    | [13] => .ok (.lib3hToClientResponse
        (.handleGetGossipingEntryListResult ⟨7, 2, "", [(5, [6])]⟩))
    | [14] => .ok (.lib3hToClientResponse
        (.handleGetGossipingEntryListResult ⟨7, 1, "", [(5, [8])]⟩))
    | _ => .error "expected value"
  receiptHash payload := payload.length

/-- The relay after agents `2` and `1` join space `7` on uris `200` and `100`. -/
def joinedRelay : Relay Nat Nat :=
  (Run.runSteps (fun r e => (r.next gossipConfig e).toOption) (Relay.new gossipConfig)
    [.receiveData 200 (.binary [2]) ⟨0, fun _ => []⟩,
      .receiveData 100 (.binary [1]) ⟨0, fun _ => []⟩]).getD (Relay.new gossipConfig)

/-- After two joins, each uri of space `7` routes to its agent's connection. -/
theorem relay_reachable_uriRoutes_joined :
    Run.Reachable (RelayStep gossipConfig) (Relay.new gossipConfig) joinedRelay ∧
      joinedRelay.store.UriRoutes :=
  have hr : Run.Reachable (RelayStep gossipConfig) (Relay.new gossipConfig) joinedRelay :=
    (Relay.reachableBy_of_runSteps gossipConfig
      (rfl : Run.runSteps (fun r e => (r.next gossipConfig e).toOption) (Relay.new gossipConfig)
        [.receiveData 200 (.binary [2]) ⟨0, fun _ => []⟩,
          .receiveData 100 (.binary [1]) ⟨0, fun _ => []⟩] = some joinedRelay)).reachable
  ⟨hr, relay_reachable_uriRoutes hr⟩

end Holochain.Sim2h
