/-
Who the relay takes an agent to be. The relay maps an agent of a space to a uri
(`Store::lookup_joined`) only when a `JoinSpace` arrives on that uri, and it checks the
signature of that message, and of no other. What the check proves is that someone signed the
join, not that the agent it names did: `handle_message_join_space` records `data.agent_id`,
not the signer.

Every later message on the uri is accepted when the signer it names is the joined agent,
and the direct-message handlers do not look at the signer at all: a direct message is
forwarded with whatever sender it claims.

Main results:

* `lookupJoined_of_relayStep` — a step that maps an agent to a uri received, on that uri, a
  frame carrying a `JoinSpace` for the agent with a signature that verifies under its signer;
* `reachable_joined_has_join` — over every run, each agent a space maps to a uri joined it
  with such a frame;
* `join_space_binds_unsigned_agent` — that signer need not be the agent, and the join
  replaces the agent's own connection;
* `handlePayload_forwards_direct_message`, `direct_message_from_forged` — a direct message is
  forwarded to its recipient with the sender it names, whoever signed it.
-/
import Holochain.Lib.Except
import Holochain.Lib.Run
import Holochain.Sim2h.Handler

namespace Holochain.Sim2h

variable {A U : Type} [DecidableEq A]

/-! ### Joins in the store -/

namespace Space

@[simp] theorem connections_agentHoldsAspects (s : Space A U) (entryLocation : A → Nat)
    (agentId entryHash : A) (aspects : List A) :
    (s.agentHoldsAspects entryLocation agentId entryHash aspects).connections = s.connections := by
  have hins : (s.privCheckInsertEntryHash entryLocation entryHash).connections = s.connections := by
    unfold privCheckInsertEntryHash
    split <;> rfl
  unfold agentHoldsAspects
  dsimp only
  split <;> exact hins

end Space

namespace Store

theorem lookupJoined_eq (s : Store A U) (h a : A) :
    s.lookupJoined h a =
      (s.spaces.lookup h).bind fun space => (space.connections.lookup a).map (·.uri) := by
  unfold lookupJoined
  cases s.spaces.lookup h with
  | none => rfl
  | some space => simp [Option.map_eq_bind]

/-- No agent is newly mapped to a uri from `s` to `s'`. -/
def JoinsWithin (s s' : Store A U) : Prop :=
  ∀ h a u, s'.lookupJoined h a = some u → s.lookupJoined h a = some u

theorem JoinsWithin.refl (s : Store A U) : JoinsWithin s s := fun _ _ _ hj => hj

theorem JoinsWithin.trans {s s' s'' : Store A U} (h₁ : JoinsWithin s s')
    (h₂ : JoinsWithin s' s'') : JoinsWithin s s'' :=
  fun h a u hj => h₁ h a u (h₂ h a u hj)

theorem lookupJoined_checkGossip (s : Store A U) (now : Nat) (toAdd : A → A → Nat) (h a : A) :
    (s.checkGossip now toAdd).1.lookupJoined h a = s.lookupJoined h a := by
  rw [lookupJoined_eq, lookupJoined_eq]
  simp only [checkGossip, AList.lookup_mapVal]
  cases s.spaces.lookup h with
  | none => rfl
  | some space =>
    simp only [Option.map_some, Option.bind_some, Space.checkGossip, AList.lookup_mapVal]
    -- a gossip round moves a connection's next check, never its uri
    cases space.connections.lookup a with
    | none => rfl
    | some c =>
      simp only [Option.map_some, Option.some.injEq]
      split <;> rfl

theorem lookupJoined_checkDisconnected (s : Store A U) (h a : A) :
    s.checkDisconnected.1.lookupJoined h a = s.lookupJoined h a := by
  rw [lookupJoined_eq, lookupJoined_eq]
  simp only [checkDisconnected, AList.lookup_mapVal]
  cases s.spaces.lookup h <;> rfl

theorem lookupJoined_modifySpace (s : Store A U) (spaceHash : A) (f : Space A U → Space A U)
    (h a : A) :
    (s.modifySpace spaceHash f).lookupJoined h a =
      if h = spaceHash then
        ((f ((s.spaces.lookup spaceHash).getD (Space.new s.redundancy s.gossipInterval))).connections.lookup
          a).map (·.uri)
      else s.lookupJoined h a := by
  rw [lookupJoined_eq, lookupJoined_eq]
  unfold modifySpace
  by_cases hh : h = spaceHash
  · subst hh
    simp
  · simp [hh, AList.lookup_insert_ne hh]

/-- A join read in the space that `modifySpace` starts from, an empty one when the space is
missing, is a join of the store. -/
theorem lookupJoined_of_getD {s : Store A U} {h a : A} {u : U}
    (hj : (((s.spaces.lookup h).getD (Space.new s.redundancy s.gossipInterval)).connections.lookup
      a).map (·.uri) = some u) : s.lookupJoined h a = some u := by
  rw [lookupJoined_eq]
  cases hs : s.spaces.lookup h with
  | none =>
    rw [hs] at hj
    cases hj
  | some space =>
    rw [hs] at hj
    exact hj

variable [DecidableEq U] {calcLocation : A → Option Nat} {entryLocation : A → Nat}

theorem joinsWithin_dropConnectionByUri (s : Store A U) (uri : U) :
    JoinsWithin s (s.dropConnectionByUri uri) := by
  intro h a u hj
  rw [lookupJoined_eq] at hj ⊢
  simp only [dropConnectionByUri, checkDropSpaces, AList.lookup_filter,
    AList.lookup_mapVal] at hj
  obtain ⟨space', hspace', hc⟩ := Option.bind_eq_some_iff.mp hj
  -- the space is the old one, maybe with one connection dropped
  obtain ⟨old, hold, rfl⟩ := Option.map_eq_some_iff.mp (Option.eq_some_of_filter_eq_some hspace')
  rw [hold, Option.bind_some]
  split at hc
  · rw [lookup_connections_dropConnectionInner] at hc
    split at hc
    · cases hc
    · exact hc
  · exact hc

theorem joinsWithin_agentHoldsAspects (s : Store A U) (spaceHash agentId entryHash : A)
    (aspects : List A) :
    JoinsWithin s
      (s.mutate calcLocation entryLocation (.agentHoldsAspects spaceHash agentId entryHash aspects)) := by
  intro h a u hj
  simp only [mutate] at hj
  rw [lookupJoined_modifySpace] at hj
  split at hj
  · rename_i hh
    subst hh
    rw [Space.connections_agentHoldsAspects] at hj
    exact lookupJoined_of_getD hj
  · exact hj

/-- A new connection maps its agent to its uri in its space, and nothing else. -/
theorem lookupJoined_newConnection {s : Store A U} {spaceHash agentId : A} {uri : U}
    {next : Nat} {h a : A} {u : U}
    (hj : (s.mutate calcLocation entryLocation (.newConnection spaceHash agentId uri next)).lookupJoined
      h a = some u) :
    s.lookupJoined h a = some u ∨ h = spaceHash ∧ a = agentId ∧ u = uri := by
  simp only [mutate] at hj
  rw [lookupJoined_modifySpace] at hj
  split at hj
  · rename_i hh
    subst hh
    cases hloc : calcLocation agentId with
    | none =>
      rw [Space.checkInsertConnection_of_loc_eq_none hloc] at hj
      exact .inl (lookupJoined_of_getD hj)
    | some loc =>
      rw [Space.lookup_connections_checkInsertConnection hloc] at hj
      split at hj
      · rename_i ha
        simp only [Option.map_some, Option.some.injEq] at hj
        exact .inr ⟨rfl, ha, hj.symm⟩
      · exact .inl (lookupJoined_of_getD hj)
  · exact .inl hj

end Store

/-! ### Joins through the relay -/

namespace Relay

variable (cfg : Sim2hConfig A) (r : Relay A U)

omit [DecidableEq A] in
@[simp] theorem store_send (agent : A) (uri : U) (message : WireMessage A) :
    (r.send agent uri message).store = r.store := rfl

omit [DecidableEq A] in
@[simp] theorem store_sendReceipt (receipt : WireMessage A) (source : A) (url : U) :
    (r.sendReceipt receipt source url).store = r.store := rfl

/-- A fold of relay updates none of which joins anyone joins no one. -/
theorem joinsWithin_foldl {β : Type} (f : Relay A U → β → Relay A U)
    (hf : ∀ r b, Store.JoinsWithin r.store (f r b).store) (l : List β) :
    Store.JoinsWithin r.store (l.foldl f r).store := by
  apply List.foldlRecOn (motive := fun r' : Relay A U => Store.JoinsWithin r.store r'.store)
  · exact .refl _
  · intro r' hr' b _
    exact hr'.trans (hf r' b)

variable [DecidableEq U]

@[simp] theorem store_mutate (e : AolEntry A U) :
    (r.mutate cfg e).store = r.store.mutate cfg.calcLocation cfg.entryLocation e := rfl

theorem joinsWithin_disconnect (uris : List U) :
    Store.JoinsWithin r.store (r.disconnect uris).store :=
  joinsWithin_foldl r _ (fun r d => Store.joinsWithin_dropConnectionByUri r.store d) uris

end Relay

/-! ### Signed joins -/

section Spec

variable (cfg : Sim2hConfig A)

/-- The frame carries a `JoinSpace` of `agentId` into `spaceHash`, signed by `signer` with a
signature that verifies. -/
def JoinSignedBy (payload : Opaque) (spaceHash agentId signer : A) : Prop :=
  ∃ signed data, cfg.decodeSigned payload = .ok signed ∧
    cfg.decodeWire signed.payload = .ok (.clientToLib3h (.joinSpace data)) ∧
    data.spaceAddress = spaceHash ∧ data.agentId = agentId ∧
    signed.provenance.source = signer ∧
    cfg.verify signer signed.payload signed.provenance.signature = .ok true

end Spec

section Handlers

variable (cfg : Sim2hConfig A) (r : Relay A U) (uri : U) (signer spaceHash : A)

theorem joinsWithin_innerSpawnHandleMessageSendDmx (toAgentId dataSpaceHash : A)
    (message : WireMessage A) :
    Store.JoinsWithin r.store
      (innerSpawnHandleMessageSendDmx r toAgentId dataSpaceHash spaceHash message).store := by
  unfold innerSpawnHandleMessageSendDmx
  split
  · exact .refl _
  · split <;> exact .refl _

theorem joinsWithin_spawnHandleMessagePublishEntry (data : ProvidedEntryData A) :
    Store.JoinsWithin r.store
      (spawnHandleMessagePublishEntry cfg r uri signer spaceHash data).store := by
  unfold spawnHandleMessagePublishEntry
  dsimp only
  split
  · exact .refl _
  · split
    · exact .refl _
    · split
      · exact .refl _
      · -- each agent that should hold the entry is sent the aspects
        refine Relay.joinsWithin_foldl r _ (fun r agentId => ?_) _
        split <;> exact .refl _

theorem joinsWithin_spawnHandleMessageAuthoringEntryList (listData : EntryListData A) :
    Store.JoinsWithin r.store
      (spawnHandleMessageAuthoringEntryList cfg r uri signer spaceHash listData).store := by
  unfold spawnHandleMessageAuthoringEntryList
  dsimp only
  split
  · exact .refl _
  · split <;> exact .refl _

theorem joinsWithin_spawnHandleMessageFetchEntryResult (fetchResult : FetchEntryResultData A) :
    Store.JoinsWithin r.store
      (spawnHandleMessageFetchEntryResult cfg r uri signer spaceHash fetchResult).store := by
  unfold spawnHandleMessageFetchEntryResult
  dsimp only
  split
  · exact .refl _
  · refine Relay.joinsWithin_foldl r _ (fun r e => ?_) _
    split <;> exact .refl _

theorem joinsWithin_spawnHandleMessageQueryEntry {queryData : QueryEntryData A}
    {shuffle : Finset A → List A} {r' : Relay A U}
    (h : spawnHandleMessageQueryEntry cfg r uri signer spaceHash queryData shuffle = .ok r') :
    Store.JoinsWithin r.store r'.store := by
  unfold spawnHandleMessageQueryEntry at h
  dsimp only at h
  split at h
  · cases h
    exact .refl _
  · split at h
    · cases h
    · split at h <;> cases h <;> exact .refl _

theorem joinsWithin_spawnHandleMessageQueryEntryResult (queryResult : QueryEntryResultData A) :
    Store.JoinsWithin r.store
      (spawnHandleMessageQueryEntryResult r uri signer spaceHash queryResult).store := by
  unfold spawnHandleMessageQueryEntryResult
  dsimp only
  split
  · exact .refl _
  · split <;> exact .refl _

variable [DecidableEq U]

theorem joinsWithin_spawnHandleMessageHello (version : Nat) (receipt : WireMessage A) :
    Store.JoinsWithin r.store (spawnHandleMessageHello cfg r uri signer version receipt).store := by
  unfold spawnHandleMessageHello
  split
  · exact Relay.joinsWithin_disconnect _ [uri]
  · exact .refl _

theorem joinsWithin_spawnHandleMessageListData (listData : EntryListData A) :
    Store.JoinsWithin r.store
      (spawnHandleMessageListData cfg r uri signer spaceHash listData).store := by
  unfold spawnHandleMessageListData
  split
  · exact .refl _
  · refine Relay.joinsWithin_foldl r _ (fun r e => ?_) _
    split
    · exact .refl _
    · rw [Relay.store_mutate]
      exact Store.joinsWithin_agentHoldsAspects r.store spaceHash signer e.1 e.2

theorem joinsWithin_clientToLib3h {data : ClientToLib3h A} {shuffle : Finset A → List A}
    {r' : Relay A U} (h : clientToLib3h cfg r data uri signer spaceHash shuffle = .ok r') :
    Store.JoinsWithin r.store r'.store := by
  unfold clientToLib3h at h
  split at h
  · cases h
    exact Relay.joinsWithin_disconnect r [uri]
  · cases h
    exact joinsWithin_innerSpawnHandleMessageSendDmx r spaceHash _ _ _
  · cases h
    exact joinsWithin_spawnHandleMessagePublishEntry cfg r uri signer spaceHash _
  · exact joinsWithin_spawnHandleMessageQueryEntry cfg r uri signer spaceHash h
  all_goals cases h; exact .refl _

theorem joinsWithin_lib3hToClientResponse (data : Lib3hToClientResponse A) :
    Store.JoinsWithin r.store (lib3hToClientResponse cfg r data uri signer spaceHash).store := by
  unfold lib3hToClientResponse
  split
  · exact joinsWithin_innerSpawnHandleMessageSendDmx r spaceHash _ _ _
  · -- an authoring list is first taken as held, then answered
    exact (joinsWithin_spawnHandleMessageListData cfg r uri signer spaceHash _).trans
      (joinsWithin_spawnHandleMessageAuthoringEntryList cfg _ uri signer spaceHash _)
  · exact joinsWithin_spawnHandleMessageListData cfg r uri signer spaceHash _
  · exact joinsWithin_spawnHandleMessageFetchEntryResult cfg r uri signer spaceHash _
  · exact joinsWithin_spawnHandleMessageQueryEntryResult r uri signer spaceHash _
  · exact .refl _

theorem joinsWithin_handleJoinedMessage {message receipt : WireMessage A}
    {shuffle : Finset A → List A} {r' : Relay A U}
    (h : handleJoinedMessage cfg r uri message signer spaceHash receipt shuffle = .ok r') :
    Store.JoinsWithin r.store r'.store := by
  unfold handleJoinedMessage at h
  dsimp only at h
  split at h
  · exact joinsWithin_clientToLib3h cfg (r.sendReceipt receipt signer uri) uri signer spaceHash h
  · cases h
    exact joinsWithin_lib3hToClientResponse cfg (r.sendReceipt receipt signer uri) uri signer
      spaceHash _
  · cases h
    exact Relay.joinsWithin_foldl _ _
      (fun r data => joinsWithin_lib3hToClientResponse cfg r uri signer spaceHash data) _
  · cases h
    exact .refl _

/-- Of the messages the relay handles, only a join maps an agent to a uri. -/
theorem handleMessage_joins {message receipt : WireMessage A} {env : Sim2hEnv A}
    {r' : Relay A U} (h : handleMessage cfg r uri message signer receipt env = .ok r') :
    Store.JoinsWithin r.store r'.store ∨
      ∃ data, message = .clientToLib3h (.joinSpace data) ∧
        r' = handleMessageJoinSpace cfg r uri signer data receipt env.nextGossipCheck := by
  unfold handleMessage at h
  split at h
  · cases h
    exact .inl (.refl _)
  · cases h
    exact .inl (.refl _)
  · cases h
    exact .inl (.refl _)
  · cases h
    exact .inl (.refl _)
  · cases h
    exact .inl (.refl _)
  · cases h
    exact .inl (joinsWithin_spawnHandleMessageHello cfg r uri signer _ _)
  · cases h
    exact .inr ⟨_, rfl, rfl⟩
  · -- every other message needs the uri joined, and its signer to be the joined agent
    left
    split at h
    · cases h
      exact Relay.joinsWithin_disconnect r [uri]
    · split at h
      · cases h
        exact .refl _
      · exact joinsWithin_handleJoinedMessage cfg r uri signer _ h

theorem lookupJoined_handleMessageJoinSpace {data : SpaceData A} {receipt : WireMessage A}
    {next : Nat} {h a : A} {u : U}
    (hj : (handleMessageJoinSpace cfg r uri signer data receipt next).store.lookupJoined h a =
      some u) :
    r.store.lookupJoined h a = some u ∨ h = data.spaceAddress ∧ a = data.agentId ∧ u = uri := by
  simp only [handleMessageJoinSpace, Relay.store_send, Relay.store_sendReceipt,
    Relay.store_mutate] at hj
  exact Store.lookupJoined_newConnection hj

/-- Of the frames the relay handles, only one carrying a `JoinSpace` whose signature
verifies maps an agent to a uri. -/
theorem handlePayload_joins {payload : Opaque} {env : Sim2hEnv A} {r' : Relay A U}
    (h : handlePayload cfg r uri payload env = .ok r') :
    Store.JoinsWithin r.store r'.store ∨
      ∃ signed data, cfg.decodeSigned payload = .ok signed ∧
        cfg.decodeWire signed.payload = .ok (.clientToLib3h (.joinSpace data)) ∧
        cfg.verify signed.provenance.source signed.payload signed.provenance.signature =
          .ok true ∧
        r' = handleMessageJoinSpace cfg r uri signed.provenance.source data
          (.ack (cfg.receiptHash signed.payload)) env.nextGossipCheck := by
  unfold handlePayload at h
  split at h
  · cases h
    exact .inl (Relay.joinsWithin_disconnect r [uri])
  · rename_i signed hsigned
    split at h
    · cases h
      exact .inl (Relay.joinsWithin_disconnect r [uri])
    · rename_i wire hwire
      dsimp only at h
      split at h
      · -- a join: its signature is checked, and a frame that fails closes the connection
        rename_i data
        obtain ⟨result, hres, h⟩ := Except.bind_eq_ok.mp h
        split at h
        · cases h
          exact .inl (Relay.joinsWithin_disconnect r [uri])
        · rename_i hresult
          have hverify : cfg.verify signed.provenance.source signed.payload
              signed.provenance.signature = .ok true := by
            simp only [SignedWireMessage.verifyUnwrap] at hres
            split at hres
            · rename_i b hb
              rw [hb, Except.ok.inj hres]
              simpa using hresult
            · cases hres
          rcases handleMessage_joins cfg r uri _ h with hw | ⟨data', hdata, rfl⟩
          · exact .inl hw
          · cases hdata
            exact .inr ⟨signed, data, hsigned, hwire, hverify, rfl⟩
      · -- any other message passes unchecked, and is not a join
        rename_i hnot
        simp only [Except.pure_eq_ok, Except.ok_bind, Bool.not_true, Bool.false_eq_true,
          if_false] at h
        rcases handleMessage_joins cfg r uri _ h with hw | ⟨data, rfl, -⟩
        · exact .inl hw
        · exact absurd rfl (hnot data)

/-- What one step of the relay can do to the joins: nothing new, or the join of a frame
carrying a `JoinSpace` whose signature verifies. -/
theorem relayStep_joins {e : RelayEvent A U} {r' : Relay A U} (h : RelayStep cfg r e r') :
    Store.JoinsWithin r.store r'.store ∨
      ∃ uri payload env signed data, e = .receiveData uri (.binary payload) env ∧
        cfg.decodeSigned payload = .ok signed ∧
        cfg.decodeWire signed.payload = .ok (.clientToLib3h (.joinSpace data)) ∧
        cfg.verify signed.provenance.source signed.payload signed.provenance.signature =
          .ok true ∧
        r' = handleMessageJoinSpace cfg r uri signed.provenance.source data
          (.ack (cfg.receiptHash signed.payload)) env.nextGossipCheck := by
  unfold RelayStep at h
  cases e with
  | receiveData uri frame env =>
    simp only [Relay.next, privHandleRecvData] at h
    cases frame with
    | binary payload =>
      rcases handlePayload_joins cfg r uri h with hw | ⟨signed, data, h1, h2, h3, rfl⟩
      · exact .inl hw
      · exact .inr ⟨uri, payload, env, signed, data, rfl, h1, h2, h3, rfl⟩
    | text _ | close =>
      cases h
      exact .inl (Relay.joinsWithin_disconnect r [uri])
    | ping | pong =>
      cases h
      exact .inl (.refl _)
  | connectionLost uri =>
    cases h
    exact .inl (Relay.joinsWithin_disconnect r [uri])
  | checkGossip now toAdd =>
    cases h
    refine .inl fun h a u hj => ?_
    rwa [Relay.store_mutate, Store.mutate, Store.lookupJoined_checkGossip] at hj
  | checkDisconnected =>
    cases h
    -- the sweep clears the queues of uris, then closes them
    refine .inl (Store.JoinsWithin.trans (fun h a u hj => ?_)
      (Relay.joinsWithin_disconnect _ r.store.checkDisconnected.2))
    rw [← Store.lookupJoined_checkDisconnected r.store h a]
    exact hj

/-- A step that maps an agent of a space to a uri received, on that uri, a frame carrying a
`JoinSpace` of the agent into the space, with a signature that verifies under its signer. -/
theorem lookupJoined_of_relayStep {e : RelayEvent A U} {r' : Relay A U}
    (hstep : RelayStep cfg r e r') {h a : A} {u : U} (hj : r'.store.lookupJoined h a = some u) :
    r.store.lookupJoined h a = some u ∨
      ∃ payload env signer, e = .receiveData u (.binary payload) env ∧
        JoinSignedBy cfg payload h a signer := by
  rcases relayStep_joins cfg r hstep with
    hw | ⟨uri, payload, env, signed, data, rfl, h1, h2, h3, rfl⟩
  · exact .inl (hw h a u hj)
  · rcases lookupJoined_handleMessageJoinSpace cfg r uri _ hj with hold | ⟨rfl, rfl, rfl⟩
    · exact .inl hold
    · exact .inr ⟨payload, env, signed.provenance.source, rfl,
        signed, data, h1, h2, rfl, rfl, rfl, h3⟩

end Handlers

/-- Over every run of the relay, an agent a space maps to a uri joined it with a frame
received on that uri that carries its `JoinSpace` with a signature that verifies, under
the key of whoever signed it. -/
theorem reachable_joined_has_join [DecidableEq U] (cfg : Sim2hConfig A)
    {trace : List (RelayEvent A U)} {r : Relay A U}
    (hr : Run.ReachableBy (RelayStep cfg) (Relay.new cfg) trace r) {h a : A} {u : U}
    (hj : r.store.lookupJoined h a = some u) :
    ∃ payload env signer, RelayEvent.receiveData u (.binary payload) env ∈ trace ∧
      JoinSignedBy cfg payload h a signer := by
  have h0 : ¬(Relay.new cfg : Relay A U).store.lookupJoined h a = some u := by
    simp [Relay.new, Store.new, Store.lookupJoined_eq]
  obtain ⟨e, he, payload, env, signer, rfl, hjoin⟩ :=
    hr.origin (P := fun r => r.store.lookupJoined h a = some u)
      (W := fun e => ∃ payload env signer, e = .receiveData u (.binary payload) env ∧
        JoinSignedBy cfg payload h a signer)
      h0 (fun r _ _ hstep hj' => lookupJoined_of_relayStep cfg r hstep hj') hj
  exact ⟨payload, env, signer, he, hjoin⟩

/-! ### Direct messages -/

/-- On a uri joined as `s` in space `h`, a frame signed as `s` that carries a direct message
of space `h` to an agent joined there is forwarded to the agent's uri as it is, with the
sender it names: nothing relates that sender to `s`. -/
theorem handlePayload_forwards_direct_message [DecidableEq U] (cfg : Sim2hConfig A)
    (r : Relay A U) (env : Sim2hEnv A) {u v : U} {s h : A} {payload : Opaque}
    {signed : SignedWireMessage A} {d : DirectMessageData A}
    (hsigned : cfg.decodeSigned payload = .ok signed)
    (hwire : cfg.decodeWire signed.payload = .ok (.clientToLib3h (.sendDirectMessage d)))
    (hsource : signed.provenance.source = s) (hinfo : r.store.getSpaceInfoFromUri u = some (s, h))
    (hspace : d.spaceAddress = h) (hto : r.store.lookupJoined h d.toAgentId = some v) :
    handlePayload cfg r u payload env =
      .ok ((r.sendReceipt (.ack (cfg.receiptHash signed.payload)) s u).send d.toAgentId v
        (.lib3hToClient (.handleSendDirectMessage d))) := by
  subst hsource
  simp only [handlePayload, hsigned, hwire, Except.pure_eq_ok, Except.ok_bind, Bool.not_true,
    Bool.false_eq_true, if_false]
  simp only [handleMessage, hinfo, ne_eq, not_true_eq_false, if_false, handleJoinedMessage,
    clientToLib3h, spawnHandleMessageSendDm, innerSpawnHandleMessageSendDmx, hspace,
    Relay.store_sendReceipt, hto]

/-! ### Runs of a relay -/

/-- A run of the relay's step function over a list of events is a run of the relay with
those events. -/
theorem Relay.reachableBy_of_runSteps [DecidableEq U] (cfg : Sim2hConfig A)
    {trace : List (RelayEvent A U)} {r : Relay A U}
    (h : Run.runSteps (fun r e => (r.next cfg e).toOption) (Relay.new cfg) trace = some r) :
    Run.ReachableBy (RelayStep cfg) (Relay.new cfg) trace r := by
  have hnext : ∀ (r : Relay A U) (e : RelayEvent A U) r',
      (r.next cfg e).toOption = some r' → RelayStep cfg r e r' := by
    intro r e r' hr
    unfold RelayStep
    cases hn : r.next cfg e with
    | error _ => simp [hn, Except.toOption] at hr
    | ok r'' =>
      simp only [hn, Except.toOption, Option.some.injEq] at hr
      rw [hr]
  simpa using Run.ReachableBy.of_runSteps hnext .init h

/-- A relay over agents and uris that are numbers, where agent `k` signs with the text of
`k`. Frame `[1]` is agent `1`'s join of space `7`, signed by `1`; frame `[2]` a join of
agent `1` signed by agent `2`; frame `[3]` agent `3`'s own join; frame `[4]`, signed by
agent `3`, a direct message to agent `1` that names agent `2` as its sender. -/
def impersonationConfig : Sim2hConfig Nat where
  calcLocation _ := some 0
  entryLocation _ := 0
  naiveShardingShouldStore _ _ _ _ := true
  dhtAlgorithm := .fullSync
  verify source _ signature := .ok (signature == toString source)
  decodeSigned
    | [1] => .ok ⟨⟨1, "1"⟩, [11]⟩
    | [2] => .ok ⟨⟨2, "2"⟩, [12]⟩
    | [3] => .ok ⟨⟨3, "3"⟩, [13]⟩
    | [4] => .ok ⟨⟨3, "3"⟩, [14]⟩
    | _ => .error "expected value"
  decodeWire
    | [11] => .ok (.clientToLib3h (.joinSpace ⟨"", 7, 1⟩))
    | [12] => .ok (.clientToLib3h (.joinSpace ⟨"", 7, 1⟩))
    | [13] => .ok (.clientToLib3h (.joinSpace ⟨"", 7, 3⟩))
    | [14] => .ok (.clientToLib3h (.sendDirectMessage ⟨7, "", 1, 2, []⟩))
    | _ => .error "expected value"
  receiptHash payload := payload.length

/-- Random draws that are all zero and empty. -/
def quietEnv : Sim2hEnv Nat := ⟨0, fun _ => []⟩

/-- Agent `1` joins space `7` on uri `100` with its own signature; agent `2` then sends on
uri `200` a `JoinSpace` naming agent `1`, signed with its own key. The relay maps agent `1`
to uri `200` and drops its own connection, though no frame on uri `200` carries a join
signed by agent `1`. -/
theorem join_space_binds_unsigned_agent :
    let trace : List (RelayEvent Nat Nat) :=
      [.receiveData 100 (.binary [1]) quietEnv, .receiveData 200 (.binary [2]) quietEnv]
    ∃ r, Run.ReachableBy (RelayStep impersonationConfig) (Relay.new impersonationConfig) trace r ∧
      r.store.lookupJoined 7 1 = some 200 ∧
      ∀ payload env, RelayEvent.receiveData 200 (.binary payload) env ∈ trace →
        ¬JoinSignedBy impersonationConfig payload 7 1 1 := by
  intro trace
  refine ⟨_, Relay.reachableBy_of_runSteps impersonationConfig rfl, by decide, ?_⟩
  rintro payload env hmem ⟨signed, data, hdec, -, -, -, hsrc, -⟩
  simp only [trace, List.mem_cons, List.not_mem_nil, or_false, RelayEvent.receiveData.injEq,
    WsFrame.binary.injEq] at hmem
  -- the only frame on uri `200` is agent `2`'s
  obtain ⟨-, rfl, -⟩ := hmem.resolve_left fun h => absurd h.1 (by decide)
  cases hdec
  exact absurd hsrc (by decide)

/-- Agents `1` and `3` join space `7` on uris `100` and `300`, each with its own signature.
On uri `300` agent `3` sends a direct message to agent `1` that names agent `2` as its
sender; the relay forwards it to agent `1` on uri `100`, sender `2` and all. -/
theorem direct_message_from_forged :
    let trace : List (RelayEvent Nat Nat) :=
      [.receiveData 100 (.binary [1]) quietEnv, .receiveData 300 (.binary [3]) quietEnv,
        .receiveData 300 (.binary [4]) quietEnv]
    ∃ r, Run.ReachableBy (RelayStep impersonationConfig) (Relay.new impersonationConfig) trace r ∧
      (impersonationConfig.decodeSigned [4]).map (·.provenance.source) = .ok 3 ∧
      r.store.getSpaceInfoFromUri 300 = some (3, 7) ∧
      Outgoing.send 1 100 (.lib3hToClient (.handleSendDirectMessage ⟨7, "", 1, 2, []⟩)) ∈
        r.outbox := by
  intro trace
  exact ⟨_, Relay.reachableBy_of_runSteps impersonationConfig rfl, rfl, by decide, by decide⟩

end Holochain.Sim2h
