/-
The sim2h relay's message handling (`sim2h/src/lib.rs`). A binary frame from a connection is
decoded into a signed wire message (`handle_payload`), dispatched on its kind
(`Sim2hHandle::handle_message`) and handled against the in-memory state of
`Holochain.Sim2h.ImState`; what the relay does is recorded as the messages it sends and the
connections it closes.

The relay runs each handler in a task of its own. Here a frame is handled to its end before
the next one, which is one of the schedules the runtime allows. A panic stops the relay: the
source installs a panic hook that exits the process. Signature checking, the JSON decoding
of frames and the receipt hash are parameters (`Sim2hConfig`); the random draws of a step
(a new connection's first gossip check, the shuffle of query targets) come with the frame
(`Sim2hEnv`).

Only `JoinSpace` is signature-checked. Every later message on a uri is accepted when the
signer it names is the agent the uri joined as, so the joined agent is the relay's notion
of who is on the connection. What that notion rests on, over every run of the relay, is
the subject of `Holochain.Sim2h.Identity`.
-/
import Holochain.CoreTypes.Entry
import Holochain.CoreTypes.Error
import Holochain.Protocol.Data
import Holochain.Sim2h.ImState

namespace Holochain.Sim2h

variable (A U : Type)

/-! ### The wire protocol -/

/-- `ClientToLib3h`: requests of a client. Bootstrap data is not read. -/
inductive ClientToLib3h
  | bootstrap
  | fetchEntry (data : FetchEntryData A)
  | joinSpace (data : SpaceData A)
  | leaveSpace (data : SpaceData A)
  | publishEntry (data : ProvidedEntryData A)
  | queryEntry (data : QueryEntryData A)
  | sendDirectMessage (data : DirectMessageData A)
  deriving DecidableEq, Repr

/-- `ClientToLib3hResponse`: the relay builds only `QueryEntryResult`, and the sim2h worker
tells `SendDirectMessageResult` apart when it drops messages on a reconnect; the relay
refuses every response of this kind a client sends, so the others are one constructor. -/
inductive ClientToLib3hResponse
  | queryEntryResult (data : QueryEntryResultData A)
  | sendDirectMessageResult (data : DirectMessageData A)
  | other
  deriving DecidableEq, Repr

/-- `Lib3hToClient`: what the relay asks of a client. The relay builds the named ones; the
others it refuses when a client sends them. -/
inductive Lib3hToClient
  | handleSendDirectMessage (data : DirectMessageData A)
  | sendDirectMessageResult (data : DirectMessageData A)
  | handleGetGossipingEntryList (data : GetListData A)
  | handleGetAuthoringEntryList (data : GetListData A)
  | handleStoreEntryAspect (data : StoreEntryAspectData A)
  | handleFetchEntry (data : FetchEntryData A)
  | handleQueryEntry (data : QueryEntryData A)
  | other
  deriving DecidableEq, Repr

/-- `Lib3hToClientResponse`: a client's answers. The store and drop results are
unhandled. -/
inductive Lib3hToClientResponse
  | handleSendDirectMessageResult (data : DirectMessageData A)
  | handleGetAuthoringEntryListResult (data : EntryListData A)
  | handleGetGossipingEntryListResult (data : EntryListData A)
  | handleFetchEntryResult (data : FetchEntryResultData A)
  | handleQueryEntryResult (data : QueryEntryResultData A)
  | other
  deriving DecidableEq, Repr

/-- `WireError`: what the relay reports in an `Err` message. -/
inductive WireError
  | messageWhileInLimbo
  | other (message : String)
  deriving DecidableEq, Repr

/-- `WireMessage`, without the tracing spans its protocol messages are wrapped in. A hello
response has no `extra`; a status response no count of open connections, which the
connection manager keeps; a debug response no contents. -/
inductive WireMessage
  | clientToLib3h (message : ClientToLib3h A)
  | clientToLib3hResponse (message : ClientToLib3hResponse A)
  | lib3hToClient (message : Lib3hToClient A)
  | lib3hToClientResponse (message : Lib3hToClientResponse A)
  | multiSend (messages : List (Lib3hToClient A))
  | multiSendResponse (messages : List (Lib3hToClientResponse A))
  | err (error : WireError)
  | ping
  | pong
  | hello (version : Nat)
  | helloResponse (redundantCount version : Nat)
  | status
  | statusResponse (spaces joinedConnections redundantCount version : Nat)
  | ack (receipt : Nat)
  | debug
  | debugResponse
  deriving DecidableEq, Repr

/-- `SignedWireMessage`: a serialized wire message and who signed it. -/
structure SignedWireMessage where
  provenance : Provenance A
  payload : Opaque
  deriving DecidableEq, Repr

/-- `WsFrame`: what a connection delivers. -/
inductive WsFrame
  | text (s : String)
  | binary (b : Opaque)
  | ping
  | pong
  | close
  deriving DecidableEq, Repr

/-- `WIRE_VERSION`. -/
def wireVersion : Nat := 4

/-- `DhtAlgorithm`. -/
inductive DhtAlgorithm
  | fullSync
  | naiveSharding (redundantCount : Nat)
  deriving DecidableEq, Repr

/-- The redundancy a DHT algorithm asks for; full sync is none. -/
def DhtAlgorithm.redundantCount : DhtAlgorithm → Nat
  | .fullSync => 0
  | .naiveSharding redundantCount => redundantCount

/-! ### The relay -/

/-- What the relay does to the outside: a message sent to an agent on a uri
(`Sim2hHandle::send`), or a connection closed (`ConnectionMgrHandle::disconnect`). -/
inductive Outgoing
  | send (agent : A) (uri : U) (message : WireMessage A)
  | disconnect (uri : U)
  deriving DecidableEq, Repr

/-- The relay's state: the in-memory store and, in order, what the relay has done. -/
structure Relay where
  store : Store A U
  outbox : List (Outgoing A U)

/-- What the relay is built with: the space's crypto system, the DHT algorithm, signature
verification (`verify_bufs`, which fails on a key or signature that does not decode), the
JSON decoding of frames and the receipt hash (`generate_ack_receipt_hash`). -/
structure Sim2hConfig where
  calcLocation : A → Option Nat
  entryLocation : A → Nat
  naiveShardingShouldStore : Nat → Nat → Nat → Nat → Bool
  dhtAlgorithm : DhtAlgorithm
  verify : A → Opaque → String → Except HolochainError Bool
  decodeSigned : Opaque → Except String (SignedWireMessage A)
  decodeWire : Opaque → Except String (WireMessage A)
  receiptHash : Opaque → Nat

/-- The random draws of one step: the first gossip check of a new connection, and the order
`thread_rng` shuffles query targets into. -/
structure Sim2hEnv where
  nextGossipCheck : Nat
  shuffle : Finset A → List A

/-- What drives the relay: a frame from a connection, a connection the manager lost, a
round of the gossip loop (its fetch requests are not modelled), the sweep of uris that
replaced connections left behind. -/
inductive RelayEvent
  | receiveData (uri : U) (frame : WsFrame) (env : Sim2hEnv A)
  | connectionLost (uri : U)
  | checkGossip (now : Nat) (toAdd : A → A → Nat)
  | checkDisconnected

variable {A U}

namespace Relay

variable [DecidableEq A] [DecidableEq U] (cfg : Sim2hConfig A) (r : Relay A U)

/-- `Sim2h::new`: an empty store with the algorithm's redundancy. -/
def new : Relay A U := ⟨Store.new cfg.dhtAlgorithm.redundantCount none, []⟩

/-- `Sim2hHandle::send`. -/
def send (agent : A) (uri : U) (message : WireMessage A) : Relay A U :=
  { r with outbox := r.outbox ++ [.send agent uri message] }

/-- `Sim2hHandle::send_receipt`. -/
def sendReceipt (receipt : WireMessage A) (source : A) (url : U) : Relay A U :=
  r.send source url receipt

/-- `Sim2hHandle::disconnect`: each uri's connection is dropped from the store and closed. -/
def disconnect (uris : List U) : Relay A U :=
  uris.foldl (fun r d =>
    { store := r.store.dropConnectionByUri d, outbox := r.outbox ++ [.disconnect d] }) r

/-- A mutation of the store (`StoreHandle`'s `new_connection`, `agent_holds_aspects`, ...). -/
def mutate (e : AolEntry A U) : Relay A U :=
  { r with store := r.store.mutate cfg.calcLocation cfg.entryLocation e }

end Relay

/-! ### Handlers -/

section Handlers

variable [DecidableEq A] [DecidableEq U] (cfg : Sim2hConfig A)

/-- `spawn_handle_message_ping`. -/
def spawnHandleMessagePing (r : Relay A U) (uri : U) (signer : A) (receipt : WireMessage A) :
    Relay A U :=
  (r.send signer uri .pong).sendReceipt receipt signer uri

/-- `spawn_handle_message_status`. -/
def spawnHandleMessageStatus (r : Relay A U) (uri : U) (signer : A)
    (receipt : WireMessage A) : Relay A U :=
  let joinedConnections := r.store.spaces.entries.foldl
    (fun n e => n + e.2.connections.entries.length) 0
  (r.send signer uri (.statusResponse r.store.spaces.entries.length joinedConnections
    cfg.dhtAlgorithm.redundantCount wireVersion)).sendReceipt receipt signer uri

/-- `spawn_handle_message_debug`; the files it writes are not modelled. -/
def spawnHandleMessageDebug (r : Relay A U) (uri : U) (signer : A)
    (receipt : WireMessage A) : Relay A U :=
  (r.send signer uri .debugResponse).sendReceipt receipt signer uri

/-- `spawn_handle_message_hello`: a client of another wire version is answered, then
disconnected. -/
def spawnHandleMessageHello (r : Relay A U) (uri : U) (signer : A) (version : Nat)
    (receipt : WireMessage A) : Relay A U :=
  let r := (r.send signer uri (.helloResponse cfg.dhtAlgorithm.redundantCount wireVersion)).sendReceipt
    receipt signer uri
  if version ≠ wireVersion then r.disconnect [uri] else r

/-- `handle_message_join_space`: the uri joins the space as the agent the data names, and
that agent is asked for its lists. -/
def handleMessageJoinSpace (r : Relay A U) (uri : U) (signer : A) (data : SpaceData A)
    (receipt : WireMessage A) (nextGossipCheck : Nat) : Relay A U :=
  let r := r.mutate cfg (.newConnection data.spaceAddress data.agentId uri nextGossipCheck)
  let r := r.sendReceipt receipt signer uri
  let r := r.send data.agentId uri
    (.lib3hToClient (.handleGetGossipingEntryList ⟨data.spaceAddress, data.agentId, ""⟩))
  r.send data.agentId uri
    (.lib3hToClient (.handleGetAuthoringEntryList ⟨data.spaceAddress, data.agentId, ""⟩))

/-- `inner_spawn_handle_message_send_dmx`: a message for an agent of the sender's space is
forwarded to the agent's connection. -/
def innerSpawnHandleMessageSendDmx (r : Relay A U) (toAgentId dataSpaceHash spaceHash : A)
    (message : WireMessage A) : Relay A U :=
  if dataSpaceHash ≠ spaceHash then r
  else
    match r.store.lookupJoined spaceHash toAgentId with
    -- "unvalidated proxy agent"
    | none => r
    | some toUrl => r.send toAgentId toUrl message

/-- `spawn_handle_message_send_dm`: the signer is not read. -/
def spawnHandleMessageSendDm (r : Relay A U) (_uri : U) (_signer spaceHash : A)
    (data : DirectMessageData A) : Relay A U :=
  innerSpawnHandleMessageSendDmx r data.toAgentId data.spaceAddress spaceHash
    (.lib3hToClient (.handleSendDirectMessage data))

/-- `spawn_handle_message_send_dm_result`: the signer is not read. -/
def spawnHandleMessageSendDmResult (r : Relay A U) (_uri : U) (_signer spaceHash : A)
    (data : DirectMessageData A) : Relay A U :=
  innerSpawnHandleMessageSendDmx r data.toAgentId data.spaceAddress spaceHash
    (.lib3hToClient (.sendDirectMessageResult data))

/-- `spawn_handle_message_publish_entry`: each aspect, with the signer as its provider, to
every joined agent that should hold the entry. -/
def spawnHandleMessagePublishEntry (r : Relay A U) (_uri : U) (signer spaceHash : A)
    (data : ProvidedEntryData A) : Relay A U :=
  if data.spaceAddress ≠ spaceHash then r
  else
    let multiMessage := data.entry.aspectList.map fun aspect =>
      Lib3hToClient.handleStoreEntryAspect ⟨"", spaceHash, signer, data.entry.entryAddress, aspect⟩
    if multiMessage.isEmpty then r
    else
      let state := r.store
      match state.getAgentsThatShouldHoldEntry cfg.entryLocation cfg.naiveShardingShouldStore
          spaceHash data.entry.entryAddress with
      | none => r
      | some sendTo =>
        sendTo.foldl (fun r agentId =>
          match state.lookupJoined spaceHash agentId with
          | some uri => r.send agentId uri (.multiSend multiMessage)
          | none => r) r

/-- `spawn_handle_message_list_data`: the signer, when it is the list's provider, holds the
listed aspects. -/
def spawnHandleMessageListData (r : Relay A U) (_uri : U) (signer spaceHash : A)
    (listData : EntryListData A) : Relay A U :=
  if signer ≠ listData.providerAgentId ∨ listData.spaceAddress ≠ spaceHash then r
  else
    listData.addressMap.foldl (fun r e =>
      if e.2.isEmpty then r
      else r.mutate cfg (.agentHoldsAspects spaceHash signer e.1 e.2)) r

/-- `spawn_handle_message_authoring_entry_list`: the signer is asked for the aspects it
authored that some agent still needs. -/
def spawnHandleMessageAuthoringEntryList (r : Relay A U) (uri : U) (signer spaceHash : A)
    (listData : EntryListData A) : Relay A U :=
  if signer ≠ listData.providerAgentId ∨ listData.spaceAddress ≠ spaceHash then r
  else
    let state := r.store
    let multiMessage := listData.addressMap.filterMap fun e =>
      let aspectList := e.2.filter fun aspect =>
        !(state.getAgentsThatNeedAspect cfg.entryLocation cfg.naiveShardingShouldStore
          spaceHash e.1 aspect).isEmpty
      if aspectList.isEmpty then none
      else some (Lib3hToClient.handleFetchEntry ⟨spaceHash, e.1, "", signer, some aspectList⟩)
    if multiMessage.isEmpty then r else r.send signer uri (.multiSend multiMessage)

/-- The messages `spawn_handle_message_fetch_entry_result` sends, by agent: each fetched
aspect to each agent that needs it. -/
def fetchEntryResultMessages (state : Store A U) (spaceHash : A)
    (fetchResult : FetchEntryResultData A) : AList (fun _ : A => List (Lib3hToClient A)) :=
  fetchResult.entry.aspectList.foldl (fun toAgent aspect =>
    (state.getAgentsThatNeedAspect cfg.entryLocation cfg.naiveShardingShouldStore spaceHash
        fetchResult.entry.entryAddress aspect.aspectAddress).foldl (fun toAgent agentId =>
      toAgent.insert agentId (((toAgent.lookup agentId).getD []) ++
        [.handleStoreEntryAspect
          ⟨"", spaceHash, agentId, fetchResult.entry.entryAddress, aspect⟩])) toAgent) ∅

/-- `spawn_handle_message_fetch_entry_result`: the signer, when it is the provider, hands
the aspects on to the joined agents that need them. -/
def spawnHandleMessageFetchEntryResult (r : Relay A U) (_uri : U) (signer spaceHash : A)
    (fetchResult : FetchEntryResultData A) : Relay A U :=
  if signer ≠ fetchResult.providerAgentId ∨ fetchResult.spaceAddress ≠ spaceHash then r
  else
    let state := r.store
    (fetchEntryResultMessages cfg state spaceHash fetchResult).entries.foldl (fun r e =>
      match state.lookupJoined spaceHash e.1 with
      | none => r
      | some uri => r.send e.1 uri (.multiSend e.2)) r

/-- `spawn_handle_message_query_entry`: the query goes to the first of the agents
`get_agents_for_query` draws; indexing an empty draw panics. -/
def spawnHandleMessageQueryEntry (r : Relay A U) (_uri : U) (signer spaceHash : A)
    (queryData : QueryEntryData A) (shuffle : Finset A → List A) : Except String (Relay A U) :=
  if signer ≠ queryData.requesterAgentId ∨ queryData.spaceAddress ≠ spaceHash then .ok r
  else
    let state := r.store
    match state.getAgentsForQuery cfg.entryLocation cfg.naiveShardingShouldStore shuffle
        spaceHash queryData.entryAddress (some queryData.requesterAgentId) with
    | [] => .error "index out of bounds: the len is 0 but the index is 0"
    | queryTarget :: _ =>
      match state.lookupJoined spaceHash queryTarget with
      -- "AHH - the query_target we found doesn't exist"
      | none => .ok r
      | some url => .ok (r.send queryTarget url (.lib3hToClient (.handleQueryEntry queryData)))

/-- `spawn_handle_message_query_entry_result`: the answer, when the signer is its
responder, goes back to the requester. -/
def spawnHandleMessageQueryEntryResult (r : Relay A U) (_uri : U) (signer spaceHash : A)
    (queryResult : QueryEntryResultData A) : Relay A U :=
  if signer ≠ queryResult.responderAgentId ∨ queryResult.spaceAddress ≠ spaceHash then r
  else
    let reqAgentId := queryResult.requesterAgentId
    match r.store.lookupJoined spaceHash reqAgentId with
    -- "unvalidated proxy agent"
    | none => r
    | some toUrl => r.send reqAgentId toUrl (.clientToLib3hResponse (.queryEntryResult queryResult))

/-- `client_to_lib3h`. -/
def clientToLib3h (r : Relay A U) (data : ClientToLib3h A) (uri : U) (signer spaceHash : A)
    (shuffle : Finset A → List A) : Except String (Relay A U) :=
  match data with
  -- "for now, just disconnect on LeaveSpace"
  | .leaveSpace _ => .ok (r.disconnect [uri])
  | .sendDirectMessage dmData => .ok (spawnHandleMessageSendDm r uri signer spaceHash dmData)
  | .publishEntry data => .ok (spawnHandleMessagePublishEntry cfg r uri signer spaceHash data)
  | .queryEntry queryData =>
    spawnHandleMessageQueryEntry cfg r uri signer spaceHash queryData shuffle
  -- "unhandled message type"
  | .bootstrap | .fetchEntry _ | .joinSpace _ => .ok r

/-- `lib3h_to_client_response`. An authoring list is first taken as held, then answered. -/
def lib3hToClientResponse (r : Relay A U) (data : Lib3hToClientResponse A) (uri : U)
    (signer spaceHash : A) : Relay A U :=
  match data with
  | .handleSendDirectMessageResult dmData =>
    spawnHandleMessageSendDmResult r uri signer spaceHash dmData
  | .handleGetAuthoringEntryListResult listData =>
    spawnHandleMessageAuthoringEntryList cfg
      (spawnHandleMessageListData cfg r uri signer spaceHash listData) uri signer spaceHash
      listData
  | .handleGetGossipingEntryListResult listData =>
    spawnHandleMessageListData cfg r uri signer spaceHash listData
  | .handleFetchEntryResult fetchResult =>
    spawnHandleMessageFetchEntryResult cfg r uri signer spaceHash fetchResult
  | .handleQueryEntryResult queryResult =>
    spawnHandleMessageQueryEntryResult r uri signer spaceHash queryResult
  -- "unhandled message type"
  | .other => r

/-- The part of `handle_message` after the joined check: the receipt, then the handler. -/
def handleJoinedMessage (r : Relay A U) (uri : U) (message : WireMessage A) (signer spaceHash : A)
    (receipt : WireMessage A) (shuffle : Finset A → List A) : Except String (Relay A U) :=
  let r := r.sendReceipt receipt signer uri
  match message with
  | .clientToLib3h data => clientToLib3h cfg r data uri signer spaceHash shuffle
  | .lib3hToClientResponse data => .ok (lib3hToClientResponse cfg r data uri signer spaceHash)
  | .multiSendResponse messages =>
    .ok (messages.foldl (fun r data => lib3hToClientResponse cfg r data uri signer spaceHash) r)
  -- "unhandled message type"
  | _ => .ok r

/-- `Sim2hHandle::handle_message`. A message that is not allowed before joining needs the
uri to have joined a space, and its signer to be the agent the uri joined as. -/
def handleMessage (r : Relay A U) (uri : U) (message : WireMessage A) (signer : A)
    (receipt : WireMessage A) (env : Sim2hEnv A) : Except String (Relay A U) :=
  match message with
  -- "Clients should never send a message that only servers can send."
  | .lib3hToClient _ | .clientToLib3hResponse _ => .ok r
  | .ping => .ok (spawnHandleMessagePing r uri signer receipt)
  | .status => .ok (spawnHandleMessageStatus cfg r uri signer receipt)
  | .debug => .ok (spawnHandleMessageDebug r uri signer receipt)
  | .hello version => .ok (spawnHandleMessageHello cfg r uri signer version receipt)
  | .clientToLib3h (.joinSpace data) =>
    .ok (handleMessageJoinSpace cfg r uri signer data receipt env.nextGossipCheck)
  | message =>
    match r.store.getSpaceInfoFromUri uri with
    -- "uri has not joined space, cannot proceed"
    | none => .ok (r.disconnect [uri])
    | some (agentId, spaceHash) =>
      -- "signer does not match joined agent"
      if agentId ≠ signer then .ok r
      else handleJoinedMessage cfg r uri message signer spaceHash receipt env.shuffle

/-- `SignedWireMessage::verify`, unwrapped by `handle_payload`. -/
def SignedWireMessage.verifyUnwrap (signed : SignedWireMessage A) : Except String Bool :=
  match cfg.verify signed.provenance.source signed.payload signed.provenance.signature with
  | .ok b => .ok b
  | .error _ => .error "called Result::unwrap() on an Err value"

/-- `Sim2h::handle_payload`: only a `JoinSpace` is signature-checked; the signer of every
message is the source its provenance names. A frame that does not decode or verify closes
the connection. -/
def handlePayload (r : Relay A U) (url : U) (payload : Opaque) (env : Sim2hEnv A) :
    Except String (Relay A U) :=
  match cfg.decodeSigned payload with
  | .error _ => .ok (r.disconnect [url])
  | .ok signedMessage =>
    match cfg.decodeWire signedMessage.payload with
    | .error _ => .ok (r.disconnect [url])
    | .ok wireMessage => do
      let result ←
        match wireMessage with
        | .clientToLib3h (.joinSpace _) => signedMessage.verifyUnwrap cfg
        | _ => pure true
      -- "message signature failed verify"
      if !result then return r.disconnect [url]
      handleMessage cfg r url wireMessage signedMessage.provenance.source
        (.ack (cfg.receiptHash signedMessage.payload)) env

/-- `Sim2h::priv_handle_recv_data`. -/
def privHandleRecvData (r : Relay A U) (uri : U) (frame : WsFrame) (env : Sim2hEnv A) :
    Except String (Relay A U) :=
  match frame with
  | .text _ => .ok (r.disconnect [uri])
  | .binary b => handlePayload cfg r uri b env
  | .ping | .pong => .ok r
  | .close => .ok (r.disconnect [uri])

/-- One step of the relay. -/
def Relay.next (r : Relay A U) : RelayEvent A U → Except String (Relay A U)
  | .receiveData uri frame env => privHandleRecvData cfg r uri frame env
  | .connectionLost uri => .ok (r.disconnect [uri])
  | .checkGossip now toAdd => .ok (r.mutate cfg (.checkGossip now toAdd))
  | .checkDisconnected =>
    let (store, uris) := r.store.checkDisconnected
    .ok ({ r with store := store }.disconnect uris)

/-- The relay's transitions; a panic has none. -/
def RelayStep (r : Relay A U) (e : RelayEvent A U) (r' : Relay A U) : Prop :=
  r.next cfg e = .ok r'

end Handlers

end Holochain.Sim2h
