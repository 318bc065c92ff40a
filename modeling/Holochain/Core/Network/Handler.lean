/-
The core's network handler (`network/handler/`): the closure `create_handler` builds, which
the network thread calls on every message of the lib3h server, and the handlers it calls for
store requests (`store.rs`), queries and their results (`query.rs`), and direct messages and
their answers (`send.rs`).

A handler's outcome is what it hands on, in order: the actions it dispatches to the reducers
and the tasks it spawns; or the text of the panic that ends it. Log lines are not modelled, so
a message the source logs and drops hands nothing on. `log_debug!` evaluates its arguments
only when debug logging is on for the handler's target: the two formatting helpers, which
unwrap what they decode, run only then. `std::str::from_utf8` is the core library's
`String.fromUTF8?`. The JSON decoders of `EntryAspect`, `NetworkQuery`, `NetworkQueryResult`
and `DirectMessage`, and the local reads a query makes (`get_links`, `get_entry`), are
parameters. The fetch and list handlers read local state and are not modelled: the message
is handed on to them.

Main results:
* `createHandler_ok_iff` — on an initialized node the handler survives a message exactly
  when the message is not for this node or is `Tolerated`: its byte payloads are UTF-8 where a
  handler unwraps them and decode where debug formatting unwraps them, a stored aspect names
  its entry, and a validation package answers a request for one;
* `non_utf8_store_request_panics` — a store request whose aspect bytes are not UTF-8 makes
  the handler panic, whatever the log level, the state and the decoders;
* `dispatched_dht_reduces` — every action the handler hands to the DHT reducer is reduced
  without a panic, from every DHT state.
-/
import Holochain.Core.Dht.Reducers
import Holochain.Core.Network
import Holochain.Protocol.Data

namespace Holochain.Network

/-! ### Queries and their results (`core_types/network/query.rs`) -/

/-- `GetLinksQueryConfiguration`; pagination and sort order are kept as their JSON. -/
structure GetLinksQueryConfiguration where
  headers : Bool
  pagination : Option String
  sortOrder : Option String
  deriving DecidableEq, Repr

/-- `GetLinksQueryConfiguration::default()`. -/
def GetLinksQueryConfiguration.default : GetLinksQueryConfiguration := ⟨false, none, none⟩

/-- `GetLinksNetworkQuery`. -/
inductive GetLinksNetworkQuery
  | count
  | links (configuration : GetLinksQueryConfiguration)
  deriving DecidableEq, Repr

/-- `CrudStatus`. -/
inductive CrudStatus
  | live
  | rejected
  | deleted
  | modified
  | locked
  deriving DecidableEq, Repr

/-- `NetworkQuery`: a link query names a link type, a tag and a status to filter by. -/
inductive NetworkQuery
  | getEntry
  | getLinks (linkType tag : Option String) (crudFilter : Option CrudStatus)
      (query : GetLinksNetworkQuery)
  deriving DecidableEq, Repr

/-- `GetLinksNetworkResult`, over the link records `L` that `get_links` returns. -/
inductive GetLinksNetworkResult (L : Type)
  | count (n : Nat)
  | links (links : List L)

/-- `NetworkQueryResult`, over link records `L` and the entries `E` of `get_entry`
(`EntryWithMetaAndHeader`). -/
inductive NetworkQueryResult (L E : Type)
  | entry (maybeEntry : Option E)
  | links (result : GetLinksNetworkResult L) (linkType tag : Option String)

/-- `QueryKey`: the pending query a result answers. -/
inductive QueryKey (A : Type)
  | entry (address : A) (id : String)
  | links (baseAddress : A) (linkType tag : Option String) (id : String)

/-! ### Messages, the handler's context, and what it hands on -/

variable (A L E : Type)

/-- `Lib3hServerProtocol`: the messages `create_handler` reads; `other` stands for those its
last arm ignores. -/
inductive Lib3hServerProtocol
  | failureResult (data : GenericResultData A)
  | handleStoreEntryAspect (data : StoreEntryAspectData A)
  | handleFetchEntry (data : FetchEntryData A)
  | fetchEntryResult (data : FetchEntryResultData A)
  | handleQueryEntry (data : QueryEntryData A)
  | queryEntryResult (data : QueryEntryResultData A)
  | handleSendDirectMessage (data : DirectMessageData A)
  | sendDirectMessageResult (data : DirectMessageData A)
  | connected
  | handleGetAuthoringEntryList (data : GetListData A)
  | handleGetGossipingEntryList (data : GetListData A)
  | other

/-- What a handler hands on: an action dispatched to the reducers, or a task it spawns or a
handler it calls that this development does not model. -/
inductive Dispatched
  /-- `QueueHoldingWorkflow`, an action of the DHT reducer -/
  | dht (action : DhtAction A)
  | respondGossipList (data : EntryListData A)
  | respondQuery (data : QueryEntryData A) (result : NetworkQueryResult L E)
  | handleQuery (result : NetworkQueryResult L E) (key : QueryKey A)
  | handleCustomSendResponse (requestId : String) (payload : Except String String)
  | handleGetValidationPackage (sender : A) (key : ValidationKey A) (package : Option String)
  | resolveDirectConnection (requestId : String)
  /-- the task running `handle_custom_direct_message` -/
  | handleCustomDirectMessage (sender : A) (requestId : String) (message : CustomDirectMessage)
  /-- the task running `respond_validation_package_request` -/
  | respondValidationPackageRequest (sender : A) (requestId : String) (address : A)
  | handleFetchEntry (data : FetchEntryData A)
  | handleGetAuthoringList (data : GetListData A)
  | handleGetGossipList (data : GetListData A)

/-- The decoders and the local reads the handlers use. -/
structure HandlerConfig where
  /-- `AddressableContent::address` of CAS content -/
  hash : CasContent A → A
  /-- `AddressableContent::address` of an aspect -/
  aspectHash : EntryAspect A → A
  decodeEntryAspect : String → Except String (EntryAspect A)
  decodeNetworkQuery : String → Except String NetworkQuery
  decodeNetworkQueryResult : String → Except String (NetworkQueryResult L E)
  decodeDirectMessage : String → Except String (DirectMessage A)
  /-- `get_links` on the local DHT: base, link type, tag, status filter, configuration -/
  getLinks : A → Option String → Option String → Option CrudStatus →
    GetLinksQueryConfiguration → Except HolochainError (List L)
  /-- `get_entry` on the local DHT -/
  getEntry : A → Option E

/-- The slices of the node's `State` the handlers read. The network slice's `dna_address`,
which `NetworkState` leaves out, stands beside it. -/
structure NodeState where
  dht : DhtStore A
  network : NetworkState A
  networkDnaAddress : Option A

/-- The parts of the `Context` the handlers read. -/
structure HandlerContext where
  /-- `agent_id.pub_sign_key` -/
  pubSignKey : String
  /-- `agent_id.address()` -/
  agentAddress : A
  /-- whether `log_debug!` is enabled for the handler's target -/
  debug : Bool
  /-- `Context::state()`, `None` until the instance is initialized -/
  state : Option (NodeState A)

variable {A L E}

/-! ### Panics -/

/-- `std::str::from_utf8`. -/
def fromUtf8 (bytes : Opaque) : Option String := String.fromUTF8? ⟨bytes.toArray⟩

/-- `std::str::from_utf8(bytes).unwrap()`. -/
def fromUtf8Unwrap (bytes : Opaque) : Except String String :=
  match fromUtf8 bytes with
  | some text => .ok text
  | none => .error "called Result::unwrap() on an Err value"

/-- `Result::unwrap`. -/
def resultUnwrap {ε α : Type} : Except ε α → Except String α
  | .ok a => .ok a
  | .error _ => .error "called Result::unwrap() on an Err value"

/-- `Option::expect`, and `Option::unwrap` with its own text. -/
def optionExpect {α : Type} (o : Option α) (msg : String) : Except String α :=
  match o with
  | some a => .ok a
  | none => .error msg

theorem fromUtf8Unwrap_eq_ok {bytes : Opaque} {text : String} :
    fromUtf8Unwrap bytes = .ok text ↔ fromUtf8 bytes = some text := by
  unfold fromUtf8Unwrap
  cases fromUtf8 bytes <;> simp

theorem fromUtf8Unwrap_of_eq_none {bytes : Opaque} (h : fromUtf8 bytes = none) :
    fromUtf8Unwrap bytes = .error "called Result::unwrap() on an Err value" := by
  rw [fromUtf8Unwrap, h]

/-- The byte payload is UTF-8 text that `decode` accepts. -/
def Decodes {α : Type} (decode : String → Except String α) (bytes : Opaque) : Prop :=
  ∃ text x, fromUtf8 bytes = some text ∧ decode text = .ok x

/-- The common part of `format_store_data` and `format_message_data`: both unwrap the UTF-8
text of a payload and its JSON decoding. The text they build goes to the log. -/
def formatDecoded {α : Type} (decode : String → Except String α) (bytes : Opaque) :
    Except String Unit := do
  let json ← fromUtf8Unwrap bytes
  let _ ← resultUnwrap (decode json)
  pure ()

theorem formatDecoded_eq_ok {α : Type} {decode : String → Except String α} {bytes : Opaque} :
    formatDecoded decode bytes = .ok () ↔ Decodes decode bytes := by
  unfold formatDecoded Decodes
  cases h : fromUtf8 bytes with
  | none => simp [fromUtf8Unwrap_of_eq_none h]
  | some text =>
    rw [(fromUtf8Unwrap_eq_ok).mpr h, Except.ok_bind]
    cases hd : decode text <;> simp [resultUnwrap, hd]

/-- `log_debug!`: its arguments are formatted only when debug logging is on. -/
def logDebug (ctx : HandlerContext A) (format : Except String Unit) : Except String Unit :=
  if ctx.debug then format else .ok ()

theorem logDebug_eq_ok {ctx : HandlerContext A} {format : Except String Unit} :
    logDebug ctx format = .ok () ↔ (ctx.debug = true → format = .ok ()) := by
  unfold logDebug
  cases ctx.debug <;> simp

/-- A debug line followed by a handler: the line's formatting must succeed only when debug
logging is on. -/
theorem exists_logDebug_bind_eq_ok {β : Type} {ctx : HandlerContext A}
    {format : Except String Unit} {next : Unit → Except String β} :
    (∃ b, (logDebug ctx format >>= next) = .ok b) ↔
      (ctx.debug = true → format = .ok ()) ∧ ∃ b, next () = .ok b := by
  rw [Except.exists_bind_eq_ok]
  constructor
  · rintro ⟨u, hu, hnext⟩
    exact ⟨logDebug_eq_ok.mp hu, hnext⟩
  · rintro ⟨hformat, hnext⟩
    exact ⟨(), logDebug_eq_ok.mpr hformat, hnext⟩

section Handlers

variable [DecidableEq A] (cfg : HandlerConfig A L E)

/-- `format_store_data`. -/
def formatStoreData (data : StoreEntryAspectData A) : Except String Unit :=
  formatDecoded cfg.decodeEntryAspect data.entryAspect.aspect

/-- `format_message_data`. -/
def formatMessageData (data : DirectMessageData A) : Except String Unit :=
  formatDecoded cfg.decodeDirectMessage data.content

/-! ### `handle_store` -/

/-- `ack_single`: a gossip list naming the one aspect, sent back to the network. The map
`AspectMap::add` builds from an empty one has the one pair written here. -/
def ackSingle (ctx : HandlerContext A) (aspect : EntryAspect A) :
    Except String (List (Dispatched A L E)) := do
  let state ← optionExpect ctx.state "No state present when trying to respond with gossip list"
  let entryAddress ← (aspect.entryAddress cfg.hash).mapError
    fun _ => "Could not get entry address from aspect"
  let spaceAddress ← optionExpect state.networkDnaAddress "called Option::unwrap() on a None value"
  pure [.respondGossipList ⟨spaceAddress, ctx.agentAddress, "",
    [(entryAddress, [cfg.aspectHash aspect])]⟩]

omit [DecidableEq A] in
theorem dht_not_mem_ackSingle {ctx : HandlerContext A} {aspect : EntryAspect A}
    {out : List (Dispatched A L E)} (h : ackSingle cfg ctx aspect = .ok out)
    (action : DhtAction A) :
    Dispatched.dht action ∉ out := by
  obtain ⟨state, -, h⟩ := Except.bind_eq_ok.mp h
  obtain ⟨e, -, h⟩ := Except.bind_eq_ok.mp h
  obtain ⟨spaceAddress, -, h⟩ := Except.bind_eq_ok.mp h
  cases h
  simp

/-- `handle_store`. An aspect already held is acknowledged at once; another is queued for
validation under the fresh id `uuid`. -/
def handleStore (ctx : HandlerContext A) (uuid : Nat) (dhtData : StoreEntryAspectData A) :
    Except String (List (Dispatched A L E)) := do
  let aspectJson ← fromUtf8Unwrap dhtData.entryAspect.aspect
  match cfg.decodeEntryAspect aspectJson with
  | .error _ => pure []
  | .ok aspect =>
    let state ← optionExpect ctx.state "called Option::unwrap() on a None value"
    if ← state.dht.holdingMap.contains cfg.hash cfg.aspectHash aspect then
      ackSingle cfg ctx aspect
    else
      match PendingValidation.tryFromAspect cfg.hash uuid aspect with
      | .error _ => pure []
      | .ok pending => pure [.dht (.queueHoldingWorkflow pending none)]

/-! ### `handle_query_entry_data` and `handle_query_entry_result` -/

/-- `handle_query_entry_data`: the answer to a query, read from the local DHT. -/
def handleQueryEntryData (queryData : QueryEntryData A) :
    Except String (List (Dispatched A L E)) := do
  let queryJson ← fromUtf8Unwrap queryData.query
  match cfg.decodeNetworkQuery queryJson with
  | .ok (.getLinks linkType tag options query) =>
    let configuration := match query with
      | .links configuration => configuration
      | .count => GetLinksQueryConfiguration.default
    match cfg.getLinks queryData.entryAddress linkType tag options configuration with
    | .ok links =>
      let linksResult := match query with
        | .links _ => GetLinksNetworkResult.links links
        | .count => .count links.length
      pure [.respondQuery queryData (.links linksResult linkType tag)]
    | .error _ => pure []
  | .ok .getEntry =>
    pure [.respondQuery queryData (.entry (cfg.getEntry queryData.entryAddress))]
  | .error _ => pure []

/-- `handle_query_entry_result`: the result goes to the query it answers. -/
def handleQueryEntryResult (queryResultData : QueryEntryResultData A) :
    Except String (List (Dispatched A L E)) := do
  let queryResultJson ← fromUtf8Unwrap queryResultData.queryResult
  match cfg.decodeNetworkQueryResult queryResultJson with
  | .ok (.entry maybeEntry) =>
    pure [.handleQuery (.entry maybeEntry)
      (.entry queryResultData.entryAddress queryResultData.requestId)]
  | .ok (.links linksResult linkType tag) =>
    pure [.handleQuery (.links linksResult linkType tag)
      (.links queryResultData.entryAddress linkType tag queryResultData.requestId)]
  | .error _ => pure []

/-! ### `handle_send_message` and `handle_send_message_result` -/

/-- `parse_direct_message`: UTF-8, then JSON. Its error, which the handlers only log, is
dropped. -/
def parseDirectMessage (content : Opaque) : Option (DirectMessage A) :=
  (fromUtf8 content).bind fun text => (cfg.decodeDirectMessage text).toOption

/-- `handle_send_message`: a message that opens a round trip. It cannot panic. -/
def handleSendMessage (messageData : DirectMessageData A) : List (Dispatched A L E) :=
  match parseDirectMessage cfg messageData.content with
  | none => []
  | some (.custom message) =>
    [.handleCustomDirectMessage messageData.fromAgentId messageData.requestId message]
  | some (.requestValidationPackage key) =>
    [.respondValidationPackageRequest messageData.fromAgentId messageData.requestId key.address]
  | some (.validationPackage _) => []

/-- `handle_send_message_result`: the answer to a message this node sent, matched with it by
request id in `direct_message_connections`. The initial message of a validation package is
destructured by `unwrap_to!`. -/
def handleSendMessageResult (ctx : HandlerContext A) (messageData : DirectMessageData A) :
    Except String (List (Dispatched A L E)) :=
  match parseDirectMessage cfg messageData.content with
  | none => pure []
  | some response => do
    let state ← optionExpect ctx.state "network state not initialized"
    let initialMessage := state.network.directMessageConnections.lookup messageData.requestId
    match response with
    | .custom message =>
      match initialMessage with
      | none => pure []
      | some _ =>
        pure [.handleCustomSendResponse messageData.requestId message.payload,
          .resolveDirectConnection messageData.requestId]
    | .requestValidationPackage _ => pure []
    | .validationPackage maybeValidationPackage =>
      match initialMessage with
      | none => pure []
      | some (.requestValidationPackage key) =>
        pure [.handleGetValidationPackage messageData.fromAgentId key maybeValidationPackage,
          .resolveDirectConnection messageData.requestId]
      | some _ => .error "unwrap_to! DirectMessage::RequestValidationPackage"

/-! ### What each handler survives -/

/-- The computation of a handler that unwraps a payload's UTF-8 text and, on the text, cannot
fail: it succeeds exactly when the payload is UTF-8. -/
theorem exists_fromUtf8Unwrap_bind_eq_ok {β : Type} {bytes : Opaque}
    {f : String → Except String β} (hf : ∀ text, ∃ b, f text = .ok b) :
    (∃ b, (fromUtf8Unwrap bytes >>= f) = .ok b) ↔ (fromUtf8 bytes).isSome := by
  cases h : fromUtf8 bytes with
  | none => simp [fromUtf8Unwrap_of_eq_none h]
  | some text =>
    rw [fromUtf8Unwrap_eq_ok.mpr h, Except.ok_bind]
    simpa using hf text

/-- A store request `handle_store` takes without panicking: its aspect bytes are UTF-8, and
an aspect they decode to names its entry. -/
def StoreTolerated (dhtData : StoreEntryAspectData A) : Prop :=
  ∃ text, fromUtf8 dhtData.entryAspect.aspect = some text ∧
    ∀ aspect, cfg.decodeEntryAspect text = .ok aspect → ∃ e, aspect.entryAddress cfg.hash = .ok e

/-- A validation package answers a request for one: the message logged under its request id,
if there is one, asked for a validation package. -/
def AnswersRequest (connections : AList fun _ : String => DirectMessage A)
    (messageData : DirectMessageData A) : Prop :=
  ∀ package, parseDirectMessage cfg messageData.content = some (.validationPackage package) →
    ∀ initial, connections.lookup messageData.requestId = some initial →
      ∃ key, initial = .requestValidationPackage key

section Initialized

variable {ctx : HandlerContext A} {st : NodeState A} (hst : ctx.state = some st)
include hst

omit [DecidableEq A] in
theorem ackSingle_ok (hnet : st.networkDnaAddress ≠ none) {aspect : EntryAspect A} {e : A}
    (he : aspect.entryAddress cfg.hash = .ok e) : ∃ out, ackSingle cfg ctx aspect = .ok out := by
  obtain ⟨spaceAddress, hspace⟩ := Option.ne_none_iff_exists'.mp hnet
  simp [ackSingle, optionExpect, hst, he, hspace]

theorem handleStore_ok_iff (hnet : st.networkDnaAddress ≠ none) (uuid : Nat)
    (dhtData : StoreEntryAspectData A) :
    (∃ out, handleStore cfg ctx uuid dhtData = .ok out) ↔ StoreTolerated cfg dhtData := by
  unfold handleStore StoreTolerated
  cases h : fromUtf8 dhtData.entryAspect.aspect with
  | none => simp [fromUtf8Unwrap_of_eq_none h]
  | some text =>
    rw [fromUtf8Unwrap_eq_ok.mpr h, Except.ok_bind]
    cases hd : cfg.decodeEntryAspect text with
    | error _ => simp [hd]
    | ok aspect =>
      simp only [hst, hd, optionExpect, Except.ok_bind, Except.ok.injEq, forall_eq',
        Option.some.injEq, exists_eq_left']
      rw [Except.exists_bind_eq_ok, ← AspectMap.exists_contains_eq_ok cfg.hash cfg.aspectHash
        st.dht.holdingMap]
      constructor
      · rintro ⟨held, hheld, -⟩
        exact ⟨held, hheld⟩
      · rintro ⟨held, hheld⟩
        refine ⟨held, hheld, ?_⟩
        cases held with
        | true =>
          obtain ⟨e, he⟩ := (AspectMap.exists_contains_eq_ok cfg.hash cfg.aspectHash
            st.dht.holdingMap aspect).mp ⟨true, hheld⟩
          exact ackSingle_ok cfg hst hnet he
        | false => cases PendingValidation.tryFromAspect cfg.hash uuid aspect <;> simp

omit [DecidableEq A] hst in
theorem handleQueryEntryData_ok_iff (queryData : QueryEntryData A) :
    (∃ out, handleQueryEntryData cfg queryData = .ok out) ↔ (fromUtf8 queryData.query).isSome := by
  refine exists_fromUtf8Unwrap_bind_eq_ok fun text => ?_
  -- every branch answers the query or drops it
  cases cfg.decodeNetworkQuery text with
  | error _ => exact ⟨_, rfl⟩
  | ok query =>
    cases query with
    | getEntry => exact ⟨_, rfl⟩
    | getLinks linkType tag options query =>
      cases query <;> dsimp only <;> split <;> exact ⟨_, rfl⟩

omit [DecidableEq A] hst in
theorem handleQueryEntryResult_ok_iff (queryResultData : QueryEntryResultData A) :
    (∃ out, handleQueryEntryResult cfg queryResultData = .ok out) ↔
      (fromUtf8 queryResultData.queryResult).isSome := by
  refine exists_fromUtf8Unwrap_bind_eq_ok fun text => ?_
  split <;> exact ⟨_, rfl⟩

omit [DecidableEq A] in
theorem handleSendMessageResult_ok_iff (messageData : DirectMessageData A) :
    (∃ out, handleSendMessageResult cfg ctx messageData = .ok out) ↔
      AnswersRequest cfg st.network.directMessageConnections messageData := by
  unfold handleSendMessageResult AnswersRequest
  cases hp : parseDirectMessage cfg messageData.content with
  | none => simp
  | some response =>
    simp only [hst, optionExpect, Except.ok_bind, Option.some.injEq]
    cases response with
    | custom message =>
      cases st.network.directMessageConnections.lookup messageData.requestId <;> simp
    | requestValidationPackage key => simp
    | validationPackage package =>
      cases st.network.directMessageConnections.lookup messageData.requestId with
      | none => simp
      | some initial => cases initial <;> simp

end Initialized

/-! ### What each handler hands on -/

theorem handleStore_eq_ok {ctx : HandlerContext A} {uuid : Nat} {dhtData : StoreEntryAspectData A}
    {out : List (Dispatched A L E)} (h : handleStore cfg ctx uuid dhtData = .ok out) :
    (∀ action, Dispatched.dht action ∈ out → ∃ aspect pending,
      action = .queueHoldingWorkflow pending none ∧
        PendingValidation.tryFromAspect cfg.hash uuid aspect = .ok pending ∧
          ∃ e, aspect.entryAddress cfg.hash = .ok e) := by
  intro action hmem
  obtain ⟨text, -, h⟩ := Except.bind_eq_ok.mp h
  split at h
  · cases h
    cases hmem
  · rename_i aspect _
    obtain ⟨state, -, h⟩ := Except.bind_eq_ok.mp h
    obtain ⟨held, hheld, h⟩ := Except.bind_eq_ok.mp h
    obtain ⟨e, he⟩ := (AspectMap.exists_contains_eq_ok cfg.hash cfg.aspectHash
      state.dht.holdingMap aspect).mp ⟨held, hheld⟩
    cases held with
    | true => exact absurd hmem (dht_not_mem_ackSingle cfg h action)
    | false =>
      rw [if_neg Bool.false_ne_true] at h
      split at h
      · cases h
        cases hmem
      · rename_i pending hpending
        cases h
        obtain ⟨⟩ := List.mem_singleton.mp hmem
        exact ⟨aspect, pending, rfl, hpending, e, he⟩

/-- The DHT reducer takes, without a panic, the holding workflow of an aspect that names its
entry: the workflow converts back to the aspect, and the aspect map answers for it. -/
theorem reduceQueueHoldingWorkflow_of_tryFromAspect {s : DhtStore A} {uuid : Nat}
    {aspect : EntryAspect A} {pending : PendingValidation A} {e : A}
    (hpending : PendingValidation.tryFromAspect cfg.hash uuid aspect = .ok pending)
    (he : aspect.entryAddress cfg.hash = .ok e) (delay : Option (Nat × Nat)) :
    ∃ r, Dht.reduceQueueHoldingWorkflow cfg.hash cfg.aspectHash s pending delay = .ok r := by
  obtain ⟨held, hheld⟩ := (AspectMap.exists_contains_eq_ok cfg.hash cfg.aspectHash
    s.holdingMap aspect).mpr ⟨e, he⟩
  unfold Dht.reduceQueueHoldingWorkflow
  rw [PendingValidation.ofPending_tryFromAspect cfg.hash uuid hpending, Except.ok_bind, hheld,
    Except.ok_bind]
  split_ifs <;> exact ⟨_, rfl⟩

omit [DecidableEq A] in
/-- `handle_query_entry_data` answers the query it was given, or drops it. -/
theorem handleQueryEntryData_eq_ok {queryData : QueryEntryData A} {out : List (Dispatched A L E)}
    (h : handleQueryEntryData cfg queryData = .ok out) :
    out = [] ∨ ∃ result, out = [.respondQuery queryData result] := by
  obtain ⟨text, -, h⟩ := Except.bind_eq_ok.mp h
  split at h
  · dsimp only at h
    split at h
    · cases h; exact .inr ⟨_, rfl⟩
    · cases h; exact .inl rfl
  · cases h; exact .inr ⟨_, rfl⟩
  · cases h; exact .inl rfl

omit [DecidableEq A] in
/-- `handle_query_entry_result` hands the result to the query it answers, or drops it. -/
theorem handleQueryEntryResult_eq_ok {queryResultData : QueryEntryResultData A}
    {out : List (Dispatched A L E)} (h : handleQueryEntryResult cfg queryResultData = .ok out) :
    out = [] ∨ ∃ result key, out = [.handleQuery result key] := by
  obtain ⟨text, -, h⟩ := Except.bind_eq_ok.mp h
  split at h
  · cases h; exact .inr ⟨_, _, rfl⟩
  · cases h; exact .inr ⟨_, _, rfl⟩
  · cases h; exact .inl rfl

omit [DecidableEq A] in
/-- `handle_send_message` spawns at most one task, for the sender and request the message
names. -/
theorem handleSendMessage_eq (messageData : DirectMessageData A) :
    handleSendMessage cfg messageData = [] ∨
      (∃ message, handleSendMessage cfg messageData =
        [.handleCustomDirectMessage messageData.fromAgentId messageData.requestId message]) ∨
      ∃ address, handleSendMessage cfg messageData =
        [.respondValidationPackageRequest messageData.fromAgentId messageData.requestId
          address] := by
  unfold handleSendMessage
  split
  · exact .inl rfl
  · exact .inr (.inl ⟨_, rfl⟩)
  · exact .inr (.inr ⟨_, rfl⟩)
  · exact .inl rfl

omit [DecidableEq A] in
/-- `handle_send_message_result` acts only on the answer to a message this node logged: it
hands the answer on and resolves that message's direct connection. -/
theorem handleSendMessageResult_eq_ok {ctx : HandlerContext A} {messageData : DirectMessageData A}
    {out : List (Dispatched A L E)} (h : handleSendMessageResult cfg ctx messageData = .ok out) :
    out = [] ∨ ∃ first, out = [first, .resolveDirectConnection messageData.requestId] ∧
      (∃ st initial, ctx.state = some st ∧
        st.network.directMessageConnections.lookup messageData.requestId = some initial) ∧
      ((∃ payload, first = .handleCustomSendResponse messageData.requestId payload) ∨
        ∃ key package,
          first = .handleGetValidationPackage messageData.fromAgentId key package) := by
  unfold handleSendMessageResult at h
  split at h
  · cases h; exact .inl rfl
  · obtain ⟨st, hst, h⟩ := Except.bind_eq_ok.mp h
    have hst : ctx.state = some st := by
      unfold optionExpect at hst
      split at hst <;> cases hst
      assumption
    -- the answer's kind, then the message logged under its request id
    split at h <;> dsimp only at h
    · split at h
      · cases h; exact .inl rfl
      · rename_i initial hinitial
        cases h
        exact .inr ⟨_, rfl, ⟨st, initial, hst, hinitial⟩, .inl ⟨_, rfl⟩⟩
    · cases h; exact .inl rfl
    · split at h
      · cases h; exact .inl rfl
      · rename_i key hinitial
        cases h
        exact .inr ⟨_, rfl, ⟨st, _, hst, hinitial⟩, .inr ⟨key, _, rfl⟩⟩
      · cases h

/-! ### `create_handler`, and the messages it survives -/

/-- `is_my_dna`. -/
def isMyDna (myDnaAddress dnaAddress : String) : Bool := myDnaAddress == dnaAddress

/-- `is_my_id`: the id is empty or the agent's own key. -/
def isMyId (ctx : HandlerContext A) (agentId : String) : Bool :=
  if agentId != "" && ctx.pubSignKey != agentId then false else true

variable [ToString A]

/-- The closure `create_handler` builds for the node's DNA `myDnaAddress`, on one message of
the network thread; an `Err` from the lib3h server is logged. `uuid` is the fresh id a
queued pending validation takes. -/
def createHandler (ctx : HandlerContext A) (myDnaAddress : String) (uuid : Nat) :
    Except String (Lib3hServerProtocol A) → Except String (List (Dispatched A L E))
  | .error _ => pure []
  -- `handle_failure_result` only logs, and `FetchEntryResult` is logged as unexpected
  | .ok (.failureResult _) | .ok (.fetchEntryResult _) => pure []
  | .ok (.handleStoreEntryAspect data) =>
    if !isMyDna myDnaAddress (toString data.spaceAddress) then pure [] else do
      logDebug ctx (formatStoreData cfg data)
      handleStore cfg ctx uuid data
  | .ok (.handleFetchEntry data) =>
    if !isMyDna myDnaAddress (toString data.spaceAddress) then pure []
    else pure [.handleFetchEntry data]
  | .ok (.handleQueryEntry data) =>
    if !isMyDna myDnaAddress (toString data.spaceAddress) then pure []
    else handleQueryEntryData cfg data
  | .ok (.queryEntryResult data) =>
    if !isMyDna myDnaAddress (toString data.spaceAddress) then pure []
    else if !isMyId ctx (toString data.requesterAgentId) then pure []
    else handleQueryEntryResult cfg data
  | .ok (.handleSendDirectMessage data) =>
    if !isMyDna myDnaAddress (toString data.spaceAddress) then pure []
    else if !isMyId ctx (toString data.toAgentId) then pure [] else do
      logDebug ctx (formatMessageData cfg data)
      pure (handleSendMessage cfg data)
  | .ok (.sendDirectMessageResult data) =>
    if !isMyDna myDnaAddress (toString data.spaceAddress) then pure []
    else if !isMyId ctx (toString data.toAgentId) then pure [] else do
      logDebug ctx (formatMessageData cfg data)
      handleSendMessageResult cfg ctx data
  | .ok .connected | .ok .other => pure []
  | .ok (.handleGetAuthoringEntryList data) =>
    if !isMyDna myDnaAddress (toString data.spaceAddress) then pure []
    else if !isMyId ctx (toString data.providerAgentId) then pure []
    else pure [.handleGetAuthoringList data]
  | .ok (.handleGetGossipingEntryList data) =>
    if !isMyDna myDnaAddress (toString data.spaceAddress) then pure []
    else if !isMyId ctx (toString data.providerAgentId) then pure []
    else pure [.handleGetGossipList data]

/-- The messages the handler survives, with debug logging on or off as `ctx` says and
`connections` the node's log of direct messages: every message that no handler takes, and
those that one takes when their payloads meet what its unwraps ask. -/
def Tolerated (ctx : HandlerContext A) (myDnaAddress : String)
    (connections : AList fun _ : String => DirectMessage A) : Lib3hServerProtocol A → Prop
  | .handleStoreEntryAspect data =>
    isMyDna myDnaAddress (toString data.spaceAddress) = true →
      (ctx.debug = true → Decodes cfg.decodeEntryAspect data.entryAspect.aspect) ∧
        StoreTolerated cfg data
  | .handleQueryEntry data =>
    isMyDna myDnaAddress (toString data.spaceAddress) = true → (fromUtf8 data.query).isSome
  | .queryEntryResult data =>
    isMyDna myDnaAddress (toString data.spaceAddress) = true →
      isMyId ctx (toString data.requesterAgentId) = true → (fromUtf8 data.queryResult).isSome
  | .handleSendDirectMessage data =>
    isMyDna myDnaAddress (toString data.spaceAddress) = true →
      isMyId ctx (toString data.toAgentId) = true →
        ctx.debug = true → Decodes cfg.decodeDirectMessage data.content
  | .sendDirectMessageResult data =>
    isMyDna myDnaAddress (toString data.spaceAddress) = true →
      isMyId ctx (toString data.toAgentId) = true →
        (ctx.debug = true → Decodes cfg.decodeDirectMessage data.content) ∧
          AnswersRequest cfg connections data
  | _ => True

/-- On an initialized node the handler survives a message exactly when the message is
`Tolerated`. -/
theorem createHandler_ok_iff {ctx : HandlerContext A} {st : NodeState A}
    (hst : ctx.state = some st) (hnet : st.networkDnaAddress ≠ none) (myDnaAddress : String)
    (uuid : Nat) (message : Lib3hServerProtocol A) :
    (∃ out, createHandler cfg ctx myDnaAddress uuid (.ok message) = .ok out) ↔
      Tolerated cfg ctx myDnaAddress st.network.directMessageConnections message := by
  cases message with
  | handleStoreEntryAspect data =>
    simp only [createHandler, Tolerated]
    cases isMyDna myDnaAddress (toString data.spaceAddress)
    · simp
    · rw [Bool.not_true, if_neg Bool.false_ne_true, exists_logDebug_bind_eq_ok,
        handleStore_ok_iff cfg hst hnet, formatStoreData]
      simp only [formatDecoded_eq_ok, true_implies]
  | handleQueryEntry data =>
    simp only [createHandler, Tolerated]
    cases isMyDna myDnaAddress (toString data.spaceAddress)
    · simp
    · simpa using handleQueryEntryData_ok_iff cfg data
  | queryEntryResult data =>
    simp only [createHandler, Tolerated]
    cases isMyDna myDnaAddress (toString data.spaceAddress)
    · simp
    · cases isMyId ctx (toString data.requesterAgentId)
      · simp
      · simpa using handleQueryEntryResult_ok_iff cfg data
  | handleSendDirectMessage data =>
    simp only [createHandler, Tolerated]
    cases isMyDna myDnaAddress (toString data.spaceAddress)
    · simp
    · cases isMyId ctx (toString data.toAgentId)
      · simp
      · rw [Bool.not_true, if_neg Bool.false_ne_true, if_neg Bool.false_ne_true,
          exists_logDebug_bind_eq_ok, formatMessageData]
        simp [formatDecoded_eq_ok]
  | sendDirectMessageResult data =>
    simp only [createHandler, Tolerated]
    cases isMyDna myDnaAddress (toString data.spaceAddress)
    · simp
    · cases isMyId ctx (toString data.toAgentId)
      · simp
      · rw [Bool.not_true, if_neg Bool.false_ne_true, if_neg Bool.false_ne_true,
          exists_logDebug_bind_eq_ok, handleSendMessageResult_ok_iff cfg hst, formatMessageData]
        simp only [formatDecoded_eq_ok, true_implies]
  | failureResult _ | fetchEntryResult _ | connected | other => simp [createHandler, Tolerated]
  | handleFetchEntry data =>
    simp only [createHandler, Tolerated]
    split <;> simp
  | handleGetAuthoringEntryList data | handleGetGossipingEntryList data =>
    simp only [createHandler, Tolerated]
    split
    · simp
    · split <;> simp

/-- A store request for this node whose aspect bytes are not UTF-8 panics:
`format_store_data` unwraps the decoding when debug logging is on, and `handle_store` does
when it is off. -/
theorem createHandler_store_of_fromUtf8_eq_none {ctx : HandlerContext A} {myDnaAddress : String}
    {uuid : Nat} {data : StoreEntryAspectData A}
    (hdna : isMyDna myDnaAddress (toString data.spaceAddress) = true)
    (hbytes : fromUtf8 data.entryAspect.aspect = none) :
    createHandler cfg ctx myDnaAddress uuid (.ok (.handleStoreEntryAspect data)) =
      .error "called Result::unwrap() on an Err value" := by
  have hunwrap := fromUtf8Unwrap_of_eq_none hbytes
  simp only [createHandler, hdna, Bool.not_true, Bool.false_eq_true, if_false]
  cases hdebug : ctx.debug with
  | false => simp [logDebug, hdebug, handleStore, hunwrap]
  | true => simp [logDebug, hdebug, formatStoreData, formatDecoded, hunwrap]

theorem non_utf8_store_request_panics (ctx : HandlerContext A) (uuid : Nat) (requestId : String)
    (space provider entry aspectAddress : A) (typeHint : String) (publishTs : Nat) :
    createHandler cfg ctx (toString space) uuid (.ok (.handleStoreEntryAspect
      ⟨requestId, space, provider, entry, ⟨aspectAddress, typeHint, [0xFF], publishTs⟩⟩)) =
      .error "called Result::unwrap() on an Err value" :=
  createHandler_store_of_fromUtf8_eq_none cfg (by simp [isMyDna])
    (show fromUtf8 [0xFF] = none by decide)

/-! ### What the handler hands to the DHT reducer -/

/-- Only a store request hands an action to the DHT reducer. -/
theorem dht_mem_createHandler {ctx : HandlerContext A} {myDnaAddress : String} {uuid : Nat}
    {message : Except String (Lib3hServerProtocol A)} {out : List (Dispatched A L E)}
    {action : DhtAction A} (h : createHandler cfg ctx myDnaAddress uuid message = .ok out)
    (hmem : Dispatched.dht action ∈ out) :
    ∃ dhtData out', handleStore cfg ctx uuid dhtData = .ok out' ∧ Dispatched.dht action ∈ out' := by
  rcases message with _ | message
  · cases h; cases hmem
  cases message with
  | handleStoreEntryAspect data =>
    simp only [createHandler] at h
    split at h
    · cases h; cases hmem
    · obtain ⟨_, -, h⟩ := Except.bind_eq_ok.mp h
      exact ⟨data, out, h, hmem⟩
  | handleQueryEntry data =>
    simp only [createHandler] at h
    split at h
    · cases h; cases hmem
    · rcases handleQueryEntryData_eq_ok cfg h with rfl | ⟨_, rfl⟩ <;> simp at hmem
  | queryEntryResult data =>
    simp only [createHandler] at h
    split_ifs at h
    · cases h; cases hmem
    · cases h; cases hmem
    · rcases handleQueryEntryResult_eq_ok cfg h with rfl | ⟨_, _, rfl⟩ <;> simp at hmem
  | handleSendDirectMessage data =>
    simp only [createHandler] at h
    split_ifs at h
    · cases h; cases hmem
    · cases h; cases hmem
    · obtain ⟨_, -, h⟩ := Except.bind_eq_ok.mp h
      cases h
      rcases handleSendMessage_eq cfg data with h | ⟨_, h⟩ | ⟨_, h⟩ <;> simp [h] at hmem
  | sendDirectMessageResult data =>
    simp only [createHandler] at h
    split_ifs at h
    · cases h; cases hmem
    · cases h; cases hmem
    · obtain ⟨_, -, h⟩ := Except.bind_eq_ok.mp h
      rcases handleSendMessageResult_eq_ok cfg h with rfl | ⟨_, rfl, -, ⟨_, rfl⟩ | ⟨_, _, rfl⟩⟩ <;>
        simp at hmem
  | failureResult _ | fetchEntryResult _ | connected | other =>
    simp only [createHandler] at h
    cases h; cases hmem
  | handleFetchEntry data =>
    simp only [createHandler] at h
    split_ifs at h <;> cases h <;> simp at hmem
  | handleGetAuthoringEntryList data | handleGetGossipingEntryList data =>
    simp only [createHandler] at h
    split_ifs at h <;> cases h <;> simp at hmem

/-- Every action the handler hands to the DHT reducer is reduced without a panic, from every
state of the DHT and its storages. -/
theorem dispatched_dht_reduces {S : Type} (w : ShardWrites S A) {ctx : HandlerContext A}
    {myDnaAddress : String} {uuid : Nat} {message : Except String (Lib3hServerProtocol A)}
    {out : List (Dispatched A L E)} {action : DhtAction A}
    (h : createHandler cfg ctx myDnaAddress uuid message = .ok out)
    (hmem : Dispatched.dht action ∈ out) (st : S) (s : DhtStore A) (now : Nat) :
    ∃ r, DhtStore.reduceAction w cfg.hash cfg.aspectHash st s now action = .ok r := by
  obtain ⟨dhtData, out', hstore, hmem'⟩ := dht_mem_createHandler cfg h hmem
  obtain ⟨aspect, pending, rfl, hpending, e, he⟩ := handleStore_eq_ok cfg hstore action hmem'
  obtain ⟨r, hr⟩ := reduceQueueHoldingWorkflow_of_tryFromAspect cfg (s := s) hpending he none
  exact ⟨(st, r), by rw [DhtStore.reduceAction, hr]; rfl⟩

end Handlers

end Holochain.Network
