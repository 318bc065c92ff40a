/-
The sim2h worker (`net/src/sim2h_worker.rs`): a node's end of its connection to a sim2h
relay, with its outgoing queues.

The worker queues what it sends in `outgoing_message_buffer` and writes only the head,
again every `RESEND_WIRE_MESSAGE_MS`, until the relay acknowledges it: an `Ack(hash)`
dequeues the head when `hash` is the hash the head was last written with, the receipt hash
of its payload. Fat acks (entry lists with no request id) and fetch results are batched
aside and queued, every `BATCHING_INTERVAL_MS`, as one `MultiSendResponse`. On a reconnect
a `JoinSpace` goes to the front, the direct messages are dropped and every message is due
again.

Each operation of the worker is one step, run with what the outside answers during it
(`WorkerEnv`: the clock, the socket, the signer); `tick` calls them in one of the orders
the step relation allows. The serialization of wire messages and the receipt hash are
parameters. What goes to core (`to_core`) is not modelled. Each buffered message carries a
ghost id, drawn from a ghost counter, so that a proof can follow it through the buffer.

* `queueMove_of_step` — what one step can do to the queues: keep them, batch a fat ack,
  queue a message at the back, write the head, dequeue an acknowledged head, or prepend a
  `JoinSpace` and drop the direct messages;
* `reachable_workerInv` — over every run the ghost ids are distinct and every hash is 0 or
  the receipt hash of its message's payload;
* `queueGuarantees_of_queueMove` — hence a message leaves only as an acknowledged head or
  as a direct message dropped on a reconnect, the others keep their order, and a batched
  fat ack stays batched or queued until a multi-send response carrying it is acknowledged.
-/
import Holochain.Lib.Except
import Holochain.Lib.QueueEdit
import Holochain.Lib.Run
import Holochain.Net.AspectMap
import Holochain.Sim2h.Handler

namespace Holochain.Net

open Sim2h
open Multimap (Holds)

variable {A : Type} [LinearOrder A]

/-- `INITIAL_CONNECTION_TIMEOUT_MS`. -/
def initialConnectionTimeoutMs : Nat := 2000

/-- `MAX_CONNECTION_TIMEOUT_MS`. -/
def maxConnectionTimeoutMs : Nat := 60000

/-- `RESEND_WIRE_MESSAGE_MS`. -/
def resendWireMessageMs : Nat := 10000

/-- `BATCHING_INTERVAL_MS`. -/
def batchingIntervalMs : Nat := 1000

variable (A) in
/-- `BufferedMessage`: a queued wire message, the receipt hash it was last written with (0
before its first write) and when, in milliseconds, that was. `id` is ghost. -/
structure BufferedMessage where
  wireMessage : WireMessage A
  hash : Nat
  lastSent : Option Nat
  id : Nat

/-- `BufferedMessage::from`, under a ghost id. -/
def BufferedMessage.ofWireMessage (wireMessage : WireMessage A) (id : Nat) :
    BufferedMessage A :=
  ⟨wireMessage, 0, none, id⟩

variable (A) in
/-- `Sim2hWorker`, with the fields its queues use. `connection` says whether there is one
(the `Option<TcpWss>` is `Some`); what the socket answers comes with each step. Times are
in milliseconds. `nextId` is ghost: the id the next queued message gets. -/
structure Sim2hWorker where
  connection : Bool
  spaceData : Option (SpaceData A)
  timeOfLastConnectionAttempt : Nat
  connectionTimeoutBackoff : Nat
  reconnectInterval : Nat
  timeOfLastBatching : Nat
  outgoingFetchEntryResults : List (Lib3hToClientResponse A)
  outgoingFatAcks : AspectMap A
  outgoingMessageBuffer : List (BufferedMessage A)
  isFullSyncDHT : Bool
  nextId : Nat

/-- What `check_ready` of the connection answers: `Ok(true)`, `Ok(false)` or an error. -/
inductive CheckReady
  | ready
  | notReady
  | error
  deriving DecidableEq, Repr

/-- What the outside answers during one step: the time, the readiness of the connection, and
whether a connect, the conductor's signature of a payload and a write succeed. -/
structure WorkerEnv where
  now : Nat
  checkReady : CheckReady
  connectOk : Bool
  signOk : Bool
  writeOk : Bool
  deriving DecidableEq, Repr

/-- Whether `prepend_wire_message` keeps a queued message: it drops direct messages and
the results of direct messages. -/
def keptOnPrepend : WireMessage A → Bool
  | .clientToLib3hResponse (.sendDirectMessageResult _) => false
  | .clientToLib3h (.sendDirectMessage _) => false
  | _ => true

/-- Whether a wire message is a `JoinSpace`, the one message the worker signs. -/
def isJoinSpace : WireMessage A → Bool
  | .clientToLib3h (.joinSpace _) => true
  | _ => false

/-- The batched fat acks a wire message carries: the entry and aspect hashes of the entry
lists with no request id in a multi-send response. -/
def InMultiSend : WireMessage A → A → A → Prop
  | .multiSendResponse messages, entry, aspect =>
    ∃ entryData, .handleGetGossipingEntryListResult entryData ∈ messages ∧
      entryData.requestId = "" ∧ ∃ aspects, (entry, aspects) ∈ entryData.addressMap ∧
        aspect ∈ aspects
  | _, _, _ => False

omit [LinearOrder A] in
/-- A message that carries fat acks is not a direct message. -/
theorem keptOnPrepend_of_inMultiSend {message : WireMessage A} {entry aspect : A}
    (h : InMultiSend message entry aspect) : keptOnPrepend message = true := by
  cases message with
  | multiSendResponse messages => rfl
  | _ => exact h.elim

/-- An aspect whose fat ack is pending in a state: batched, or queued in a multi-send
response. -/
def PendingFatAck (x : Sim2hWorker A) (entry aspect : A) : Prop :=
  Holds x.outgoingFatAcks entry aspect ∨
    ∃ b ∈ x.outgoingMessageBuffer, InMultiSend b.wireMessage entry aspect

namespace Sim2hWorker

/-! ### The worker -/

section Operations

variable (env : WorkerEnv) (x : Sim2hWorker A)

/-- The ghost ids of the buffered messages, head first. -/
def ids : List Nat :=
  x.outgoingMessageBuffer.map BufferedMessage.id

/-- `Sim2hWorker::connection_ready`: whether there is a ready connection; a handshake error
drops it. -/
def connectionReady : Bool × Sim2hWorker A :=
  if x.connection then
    match env.checkReady with
    | .ready => (true, x)
    | .notReady => (false, x)
    | .error => (false, { x with connection := false })
  else (false, x)

/-- `Sim2hWorker::inner_set_backoff`. -/
def innerSetBackoff (backoff : Nat) : Sim2hWorker A :=
  { x with connectionTimeoutBackoff := backoff, reconnectInterval := backoff }

/-- `Sim2hWorker::backoff`. -/
def backoff : Sim2hWorker A :=
  let newBackoff := max maxConnectionTimeoutMs (x.connectionTimeoutBackoff * 2)
  if x.connectionTimeoutBackoff ≠ newBackoff then
    x.innerSetBackoff (x.connectionTimeoutBackoff * 2)
  else x

/-- `Sim2hWorker::reset_backoff`. -/
def resetBackoff : Sim2hWorker A :=
  if initialConnectionTimeoutMs < x.connectionTimeoutBackoff then
    x.innerSetBackoff initialConnectionTimeoutMs
  else x

/-- Queue a message at the back (`outgoing_message_buffer.push(message.into())`). -/
def push (message : WireMessage A) : Sim2hWorker A :=
  { x with
    outgoingMessageBuffer := x.outgoingMessageBuffer ++ [.ofWireMessage message x.nextId]
    nextId := x.nextId + 1 }

/-- `Sim2hWorker::prepend_wire_message`: every queued message is due again, the direct
messages are dropped and `message` goes to the front. Its `NetResult` is always `Ok`. -/
def prependWireMessage (message : WireMessage A) : Sim2hWorker A :=
  { x with
    outgoingMessageBuffer := .ofWireMessage message x.nextId ::
      (x.outgoingMessageBuffer.map fun b => { b with lastSent := none }).filter
        fun b => keptOnPrepend b.wireMessage
    nextId := x.nextId + 1 }

/-- `Sim2hWorker::send_wire_message`: fetch results, and fat acks with no request id, are
batched; every other message is queued. Its `NetResult` is always `Ok`. -/
def sendWireMessage (message : WireMessage A) : Sim2hWorker A :=
  match message with
  | .lib3hToClientResponse (.handleFetchEntryResult data) =>
    { x with
      outgoingFetchEntryResults := x.outgoingFetchEntryResults ++ [.handleFetchEntryResult data] }
  | .lib3hToClientResponse (.handleGetGossipingEntryListResult entryData) =>
    if entryData.requestId = "" then
      { x with
        outgoingFatAcks :=
          AspectMap.merge x.outgoingFatAcks (AspectMap.ofVecMap entryData.addressMap) }
    else x.push message
  | _ => x.push message

/-- `Sim2hWorker::check_reconnect`: without a ready connection, and once the reconnect
interval has passed, back off and connect again; a new connection to a joined space sends
the `JoinSpace` first. The `expect` on `prepend_wire_message` never fires. -/
def checkReconnect : Sim2hWorker A :=
  match x.connectionReady env with
  | (true, y) => y.resetBackoff
  | (false, y) =>
    if env.now - y.timeOfLastConnectionAttempt < y.reconnectInterval then y
    else
      let z := { y.backoff with timeOfLastConnectionAttempt := env.now, connection := false }
      if env.connectOk then
        match z.spaceData with
        | none => { z with connection := true }
        | some spaceData =>
          { z with connection := true }.prependWireMessage (.clientToLib3h (.joinSpace spaceData))
      else z

/-- The fat-ack part of `check_batched_messages`: with a space joined, the batched fat acks
become one entry list with no request id, and the batch is emptied. -/
def takeFatAcks : List (Lib3hToClientResponse A) × Sim2hWorker A :=
  if !AspectMap.empty x.outgoingFatAcks then
    match x.spaceData with
    | some spaceData =>
      ([.handleGetGossipingEntryListResult
          ⟨spaceData.spaceAddress, spaceData.agentId, "", AspectMap.toVecMap x.outgoingFatAcks⟩],
        { x with outgoingFatAcks := ∅ })
    | none => ([], x)
  else ([], x)

/-- `Sim2hWorker::check_batched_messages`: once the batching interval has passed, the fat
acks and then the fetch results go to the back of the buffer as one multi-send response. -/
def checkBatchedMessages (now : Nat) : Sim2hWorker A :=
  if now - x.timeOfLastBatching < batchingIntervalMs then x
  else
    let y := { x with timeOfLastBatching := now }
    let msgs := (takeFatAcks y).1 ++ y.outgoingFetchEntryResults
    let z := { (takeFatAcks y).2 with outgoingFetchEntryResults := [] }
    if 0 < msgs.length then z.push (.multiSendResponse msgs) else z

/-- The `Ack` arm of `Sim2hWorker::handle_server_message`: the head is dequeued when the
hash is its hash; any other ack is out of order and ignored. -/
def handleAck (hash : Nat) : Sim2hWorker A :=
  match x.outgoingMessageBuffer with
  | head :: rest => if head.hash = hash then { x with outgoingMessageBuffer := rest } else x
  | [] => x

/-- `Sim2hWorker::handle_server_message` on the worker's own state: a ping is answered, a
message sent while in limbo joins the space again, a hello response sets full sync or, of
another wire version, panics, and an ack dequeues. What goes to core is not modelled. -/
def handleServerMessage (message : WireMessage A) : Except String (Sim2hWorker A) :=
  match message with
  | .ping => pure (x.sendWireMessage .pong)
  | .err .messageWhileInLimbo =>
    match x.spaceData with
    | some spaceData => pure (x.sendWireMessage (.clientToLib3h (.joinSpace spaceData)))
    | none => pure x
  | .helloResponse redundantCount version =>
    if wireVersion ≠ version then
      throw s!"holochain SIM2H WIRE_VERSION ({wireVersion}) does not match SIM2H server WIRE_VERSION ({version}) - cannot continue"
    else pure { x with isFullSyncDHT := redundantCount == 0 }
  | .ack hash => pure (x.handleAck hash)
  | _ => pure x

section Send

variable (encode : WireMessage A → Opaque) (receiptHash : Opaque → Nat)

/-- `Sim2hWorker::try_send_from_outgoing_buffer`: with a ready connection and the head due,
write the head (a `JoinSpace` signed) and record the receipt hash of its payload; a failed
write drops the connection and reconnects. Whether it did something comes first. -/
def trySendFromOutgoingBuffer : Bool × Sim2hWorker A :=
  match x.outgoingMessageBuffer with
  | [] => (false, x)
  | head :: rest =>
    match x.connectionReady env with
    | (false, y) => (false, y)
    | (true, y) =>
      if (head.lastSent.map fun lastSent =>
          decide (env.now - lastSent < resendWireMessageMs)).getD false then (false, y)
      else if isJoinSpace head.wireMessage && !env.signOk then (false, y)
      else if !env.writeOk then (true, { y with connection := false }.checkReconnect env)
      else
        (true, { y with
          outgoingMessageBuffer :=
            { head with hash := receiptHash (encode head.wireMessage), lastSent := some env.now }
              :: rest })

end Send

end Operations

/-- `Sim2hWorker::new`: the last connection attempt is one reconnect interval back, so that
the first `check_reconnect` connects; `checked_sub` is `None` before the clock's origin and
is unwrapped. -/
def new (env : WorkerEnv) : Except String (Sim2hWorker A) :=
  if env.now < initialConnectionTimeoutMs then
    throw "called \x60Option::unwrap()\x60 on a \x60None\x60 value"
  else
    let x : Sim2hWorker A :=
      ⟨false, none, env.now - initialConnectionTimeoutMs, initialConnectionTimeoutMs,
        initialConnectionTimeoutMs, env.now, [], ∅, [], false, 0⟩
    pure ((x.sendWireMessage (.hello wireVersion)).checkReconnect env)

end Sim2hWorker

variable (A) in
/-- What drives a step of the worker: one of its operations, a message core has the worker
send (`handle_client_message` and `new` hand it to `send_wire_message`), core joining a
space, a read that failed, or a message from the relay. -/
inductive WorkerLabel
  | connectionReady
  | sendWireMessage (message : WireMessage A)
  | joinSpace (spaceData : SpaceData A)
  | checkBatchedMessages
  | trySendFromOutgoingBuffer
  | checkReconnect
  | readError
  | handleServerMessage (message : WireMessage A)

section Steps

variable (encode : WireMessage A → Opaque) (receiptHash : Opaque → Nat)

open Sim2hWorker in
/-- One step of the worker. -/
def step (env : WorkerEnv) : WorkerLabel A → Sim2hWorker A → Except String (Sim2hWorker A)
  | .connectionReady, x =>
    -- the opening of `tick`: a ready connection resets the backoff
    match x.connectionReady env with
    | (true, y) => pure y.resetBackoff
    | (false, y) => pure y
  | .sendWireMessage message, x => pure (x.sendWireMessage message)
  | .joinSpace spaceData, x =>
    -- the `JoinSpace` arm of `handle_client_message`
    pure ({ x with spaceData := some spaceData }.sendWireMessage
      (.clientToLib3h (.joinSpace spaceData)))
  | .checkBatchedMessages, x => pure (x.checkBatchedMessages env.now)
  | .trySendFromOutgoingBuffer, x => pure (x.trySendFromOutgoingBuffer env encode receiptHash).2
  | .checkReconnect, x => pure (x.checkReconnect env)
  | .readError, x =>
    -- a read error in `tick` drops the connection and reconnects
    pure ({ x with connection := false }.checkReconnect env)
  | .handleServerMessage message, x => x.handleServerMessage message

/-- The worker's steps, labelled with what the outside answers and what drives the step; a
panic is no step. -/
def WorkerStep (x : Sim2hWorker A) (l : WorkerEnv × WorkerLabel A) (x' : Sim2hWorker A) :
    Prop :=
  step encode receiptHash l.1 l.2 x = .ok x'

end Steps

/-! ### What a step does to the queues -/

namespace Sim2hWorker

/-- Two states with the same queues: the buffer, the ghost counter and the batched fat
acks. -/
structure SameQueues (x y : Sim2hWorker A) : Prop where
  buffer : y.outgoingMessageBuffer = x.outgoingMessageBuffer
  nextId : y.nextId = x.nextId
  fatAcks : y.outgoingFatAcks = x.outgoingFatAcks

omit [LinearOrder A] in
theorem SameQueues.refl (x : Sim2hWorker A) : SameQueues x x :=
  ⟨rfl, rfl, rfl⟩

omit [LinearOrder A] in
theorem SameQueues.trans {x y z : Sim2hWorker A} (hxy : SameQueues x y)
    (hyz : SameQueues y z) : SameQueues x z :=
  ⟨hyz.buffer.trans hxy.buffer, hyz.nextId.trans hxy.nextId, hyz.fatAcks.trans hxy.fatAcks⟩

variable (env : WorkerEnv) (x : Sim2hWorker A)

omit [LinearOrder A] in
theorem sameQueues_connectionReady : SameQueues x (x.connectionReady env).2 := by
  unfold connectionReady
  split
  · split <;> exact ⟨rfl, rfl, rfl⟩
  · exact .refl x

omit [LinearOrder A] in
theorem sameQueues_of_connectionReady {ready : Bool} {y : Sim2hWorker A}
    (h : x.connectionReady env = (ready, y)) : SameQueues x y := by
  have hsame := sameQueues_connectionReady env x
  rwa [h] at hsame

omit [LinearOrder A] in
theorem sameQueues_resetBackoff : SameQueues x x.resetBackoff := by
  unfold resetBackoff
  split
  · exact ⟨rfl, rfl, rfl⟩
  · exact .refl x

omit [LinearOrder A] in
theorem sameQueues_backoff : SameQueues x x.backoff := by
  unfold backoff
  dsimp only
  split
  · exact ⟨rfl, rfl, rfl⟩
  · exact .refl x

end Sim2hWorker

open Sim2hWorker

section Moves

variable (encode : WireMessage A → Opaque) (receiptHash : Opaque → Nat)

/-- What one step of the worker can do to its queues. -/
inductive QueueMove (l : WorkerLabel A) (x x' : Sim2hWorker A) : Prop
  /-- the queues stay as they are -/
  | keep (h : SameQueues x x')
  /-- a fat ack is merged into the batch -/
  | batchFatAck (addressMap : List (A × List A))
      (hbuf : x'.outgoingMessageBuffer = x.outgoingMessageBuffer) (hnext : x'.nextId = x.nextId)
      (hfat : x'.outgoingFatAcks =
        AspectMap.merge x.outgoingFatAcks (AspectMap.ofVecMap addressMap))
  /-- a message is queued at the back; a multi-send response may take the batch with it -/
  | push (message : WireMessage A)
      (hbuf : x'.outgoingMessageBuffer =
        x.outgoingMessageBuffer ++ [.ofWireMessage message x.nextId])
      (hnext : x'.nextId = x.nextId + 1)
      (hfat : x'.outgoingFatAcks = x.outgoingFatAcks ∨ x'.outgoingFatAcks = ∅ ∧
        ∀ entry aspect, Holds x.outgoingFatAcks entry aspect → InMultiSend message entry aspect)
  /-- the head is written, with the receipt hash of its payload -/
  | sent (head : BufferedMessage A) (rest : List (BufferedMessage A)) (now : Nat)
      (hx : x.outgoingMessageBuffer = head :: rest)
      (hbuf : x'.outgoingMessageBuffer =
        { head with hash := receiptHash (encode head.wireMessage), lastSent := some now } :: rest)
      (hnext : x'.nextId = x.nextId) (hfat : x'.outgoingFatAcks = x.outgoingFatAcks)
  /-- an ack of the head's hash dequeues the head -/
  | acked (head : BufferedMessage A) (rest : List (BufferedMessage A))
      (hl : l = .handleServerMessage (.ack head.hash))
      (hx : x.outgoingMessageBuffer = head :: rest) (hbuf : x'.outgoingMessageBuffer = rest)
      (hnext : x'.nextId = x.nextId) (hfat : x'.outgoingFatAcks = x.outgoingFatAcks)
  /-- a reconnect puts a `JoinSpace` in front and drops the direct messages -/
  | prepend (spaceData : SpaceData A)
      (hbuf : x'.outgoingMessageBuffer =
        .ofWireMessage (.clientToLib3h (.joinSpace spaceData)) x.nextId ::
          (x.outgoingMessageBuffer.map fun b => { b with lastSent := none }).filter
            fun b => keptOnPrepend b.wireMessage)
      (hnext : x'.nextId = x.nextId + 1) (hfat : x'.outgoingFatAcks = x.outgoingFatAcks)

variable {encode receiptHash} {l : WorkerLabel A}

/-- A move from a state with the same queues is a move from this one. -/
theorem QueueMove.of_sameQueues {x y x' : Sim2hWorker A}
    (h : QueueMove encode receiptHash l y x') (hxy : SameQueues x y) :
    QueueMove encode receiptHash l x x' := by
  obtain ⟨hbuf, hnext, hfat⟩ := hxy
  cases h with
  | keep h => exact .keep (SameQueues.trans ⟨hbuf, hnext, hfat⟩ h)
  | batchFatAck addressMap hbuf' hnext' hfat' =>
    exact .batchFatAck addressMap (hbuf'.trans hbuf) (hnext'.trans hnext) (by rw [hfat', hfat])
  | push message hbuf' hnext' hfat' =>
    refine .push message (by rw [hbuf', hbuf, hnext]) (by rw [hnext', hnext]) ?_
    rwa [hfat] at hfat'
  | sent head rest now hx hbuf' hnext' hfat' =>
    exact .sent head rest now (hbuf.symm.trans hx) hbuf' (hnext'.trans hnext) (hfat'.trans hfat)
  | acked head rest hl hx hbuf' hnext' hfat' =>
    exact .acked head rest hl (hbuf.symm.trans hx) hbuf' (hnext'.trans hnext) (hfat'.trans hfat)
  | prepend spaceData hbuf' hnext' hfat' =>
    exact .prepend spaceData (by rw [hbuf', hbuf, hnext]) (by rw [hnext', hnext])
      (hfat'.trans hfat)

variable (env : WorkerEnv) (x : Sim2hWorker A)

theorem queueMove_push (message : WireMessage A) :
    QueueMove encode receiptHash l x (x.push message) :=
  .push message rfl rfl (.inl rfl)

theorem queueMove_prependJoinSpace (spaceData : SpaceData A) :
    QueueMove encode receiptHash l x
      (x.prependWireMessage (.clientToLib3h (.joinSpace spaceData))) :=
  .prepend spaceData rfl rfl rfl

theorem queueMove_sendWireMessage (message : WireMessage A) :
    QueueMove encode receiptHash l x (x.sendWireMessage message) := by
  unfold sendWireMessage
  split
  · -- a fetch result only joins its own batch
    exact .keep ⟨rfl, rfl, rfl⟩
  · split
    · exact .batchFatAck _ rfl rfl rfl
    · exact queueMove_push x _
  · exact queueMove_push x _

theorem queueMove_checkReconnect : QueueMove encode receiptHash l x (x.checkReconnect env) := by
  unfold checkReconnect
  split
  · next y hready =>
    exact .keep ((sameQueues_of_connectionReady env x hready).trans (sameQueues_resetBackoff y))
  · next y hready =>
    have hxy := sameQueues_of_connectionReady env x hready
    split
    · exact .keep hxy
    · -- the connection attempt: only a new connection to a joined space prepends
      dsimp only
      have hxz : SameQueues x
          { y.backoff with timeOfLastConnectionAttempt := env.now, connection := false } :=
        hxy.trans ((sameQueues_backoff y).trans ⟨rfl, rfl, rfl⟩)
      split
      · split
        · exact .keep (hxz.trans ⟨rfl, rfl, rfl⟩)
        · next spaceData _ =>
          exact (queueMove_prependJoinSpace
            { y.backoff with timeOfLastConnectionAttempt := env.now, connection := true }
            spaceData).of_sameQueues (hxz.trans ⟨rfl, rfl, rfl⟩)
      · exact .keep hxz

theorem takeFatAcks_cases :
    x.takeFatAcks = ([], x) ∨ ∃ spaceData : SpaceData A,
      x.takeFatAcks = ([.handleGetGossipingEntryListResult
          ⟨spaceData.spaceAddress, spaceData.agentId, "", AspectMap.toVecMap x.outgoingFatAcks⟩],
        { x with outgoingFatAcks := ∅ }) := by
  unfold takeFatAcks
  split
  · split
    · next spaceData _ => exact .inr ⟨spaceData, rfl⟩
    · exact .inl rfl
  · exact .inl rfl

theorem queueMove_checkBatchedMessages (now : Nat) :
    QueueMove encode receiptHash l x (x.checkBatchedMessages now) := by
  unfold checkBatchedMessages
  split
  · exact .keep (.refl x)
  · dsimp only
    rcases takeFatAcks_cases { x with timeOfLastBatching := now } with htake | ⟨spaceData, htake⟩
    · -- no fat acks taken: at most the fetch results are queued
      rw [htake]
      split
      · exact .push _ rfl rfl (.inl rfl)
      · exact .keep ⟨rfl, rfl, rfl⟩
    · -- the fat acks go to the back inside the multi-send response
      rw [htake, if_pos (by simp)]
      refine .push _ rfl rfl (.inr ⟨rfl, fun entry aspect hholds => ?_⟩)
      obtain ⟨aspects, hmem, ha⟩ := (AspectMap.mem_toVecMap _).mpr hholds
      exact ⟨_, List.mem_cons_self, rfl, aspects, hmem, ha⟩

theorem queueMove_trySendFromOutgoingBuffer :
    QueueMove encode receiptHash l x (x.trySendFromOutgoingBuffer env encode receiptHash).2 := by
  unfold trySendFromOutgoingBuffer
  split
  · exact .keep (.refl x)
  · next head rest hbuf =>
    split
    · next y hready => exact .keep (sameQueues_of_connectionReady env x hready)
    · next y hready =>
      have hxy := sameQueues_of_connectionReady env x hready
      split
      · exact .keep hxy
      · split
        · exact .keep hxy
        · split
          · -- the write failed: the connection is dropped and re-established
            exact (queueMove_checkReconnect env { y with connection := false }).of_sameQueues
              (hxy.trans ⟨rfl, rfl, rfl⟩)
          · exact .sent head rest env.now hbuf rfl hxy.nextId hxy.fatAcks

theorem queueMove_handleAck (hash : Nat) :
    QueueMove encode receiptHash (.handleServerMessage (.ack hash)) x (x.handleAck hash) := by
  unfold handleAck
  split
  · next head rest hbuf =>
    split
    · next hhash => exact .acked head rest (by rw [hhash]) hbuf rfl rfl rfl
    · exact .keep (.refl x)
  · exact .keep (.refl x)

theorem queueMove_handleServerMessage {message : WireMessage A} {x' : Sim2hWorker A}
    (h : x.handleServerMessage message = .ok x') :
    QueueMove encode receiptHash (.handleServerMessage message) x x' := by
  unfold handleServerMessage at h
  split at h
  · cases h
    exact queueMove_sendWireMessage x _
  · split at h
    · cases h
      exact queueMove_sendWireMessage x _
    · cases h
      exact .keep (.refl x)
  · split at h
    · cases h
    · cases h
      exact .keep ⟨rfl, rfl, rfl⟩
  · cases h
    exact queueMove_handleAck x _
  · cases h
    exact .keep (.refl x)

/-- Every step of the worker is one of the queue moves. -/
theorem queueMove_of_step {x' : Sim2hWorker A} {label : WorkerLabel A}
    (h : step encode receiptHash env label x = .ok x') : QueueMove encode receiptHash label x x' := by
  cases label with
  | connectionReady =>
    simp only [step] at h
    split at h
    · next y hready =>
      cases h
      exact .keep ((sameQueues_of_connectionReady env x hready).trans (sameQueues_resetBackoff y))
    · next y hready =>
      cases h
      exact .keep (sameQueues_of_connectionReady env x hready)
  | sendWireMessage message =>
    cases h
    exact queueMove_sendWireMessage x message
  | joinSpace spaceData =>
    cases h
    exact (queueMove_sendWireMessage { x with spaceData := some spaceData } _).of_sameQueues
      ⟨rfl, rfl, rfl⟩
  | checkBatchedMessages =>
    cases h
    exact queueMove_checkBatchedMessages x env.now
  | trySendFromOutgoingBuffer =>
    cases h
    exact queueMove_trySendFromOutgoingBuffer env x
  | checkReconnect =>
    cases h
    exact queueMove_checkReconnect env x
  | readError =>
    cases h
    exact (queueMove_checkReconnect env { x with connection := false }).of_sameQueues
      ⟨rfl, rfl, rfl⟩
  | handleServerMessage message =>
    exact queueMove_handleServerMessage x h

theorem queueMove_of_workerStep {x' : Sim2hWorker A} {l : WorkerEnv × WorkerLabel A}
    (h : WorkerStep encode receiptHash x l x') : QueueMove encode receiptHash l.2 x x' :=
  queueMove_of_step l.1 x h

end Moves

/-! ### Over every run -/

section Invariant

variable (encode : WireMessage A → Opaque) (receiptHash : Opaque → Nat)

/-- The invariant of the queues: the ghost ids are distinct and below the counter, and each
hash is 0, before the first write, or the receipt hash of its message's payload. -/
structure WorkerInv (x : Sim2hWorker A) : Prop where
  nodup : x.ids.Nodup
  idLt : ∀ b ∈ x.outgoingMessageBuffer, b.id < x.nextId
  hash : ∀ b ∈ x.outgoingMessageBuffer, b.hash = 0 ∨ b.hash = receiptHash (encode b.wireMessage)

variable {encode receiptHash} {l : WorkerLabel A} {x x' : Sim2hWorker A}

omit [LinearOrder A] in
/-- The messages a prepend keeps, each due again. -/
theorem mem_prepended {buffer : List (BufferedMessage A)} {b' : BufferedMessage A} :
    b' ∈ (buffer.map fun b => { b with lastSent := none }).filter
        (fun b => keptOnPrepend b.wireMessage) ↔
      ∃ b ∈ buffer, keptOnPrepend b.wireMessage = true ∧ b' = { b with lastSent := none } := by
  rw [List.mem_filter, List.mem_map]
  constructor
  · rintro ⟨⟨b, hb, rfl⟩, hkept⟩
    exact ⟨b, hb, hkept, rfl⟩
  · rintro ⟨b, hb, hkept, rfl⟩
    exact ⟨⟨b, hb, rfl⟩, hkept⟩

omit [LinearOrder A] in
theorem ids_prepended (buffer : List (BufferedMessage A)) :
    ((buffer.map fun b => { b with lastSent := none }).filter
        fun b => keptOnPrepend b.wireMessage).map BufferedMessage.id =
      (buffer.filter fun b => keptOnPrepend b.wireMessage).map BufferedMessage.id := by
  rw [List.filter_map, List.map_map]
  rfl

omit [LinearOrder A] in
theorem WorkerInv.nextId_not_mem (hinv : WorkerInv encode receiptHash x) : x.nextId ∉ x.ids := by
  intro hmem
  obtain ⟨b, hb, hid⟩ := List.mem_map.mp hmem
  exact absurd (hinv.idLt b hb) (by omega)

omit [LinearOrder A] in
theorem WorkerInv.of_queues (hinv : WorkerInv encode receiptHash x)
    (hbuf : x'.outgoingMessageBuffer = x.outgoingMessageBuffer) (hnext : x'.nextId = x.nextId) :
    WorkerInv encode receiptHash x' := by
  refine ⟨?_, ?_, ?_⟩
  · unfold ids
    rw [hbuf]
    exact hinv.nodup
  · rw [hbuf, hnext]
    exact hinv.idLt
  · rw [hbuf]
    exact hinv.hash

/-- Every queue move keeps the invariant. -/
theorem workerInv_of_queueMove (hinv : WorkerInv encode receiptHash x)
    (h : QueueMove encode receiptHash l x x') : WorkerInv encode receiptHash x' := by
  cases h with
  | keep h => exact hinv.of_queues h.buffer h.nextId
  | batchFatAck _ hbuf hnext _ => exact hinv.of_queues hbuf hnext
  | push message hbuf hnext _ =>
    refine ⟨?_, ?_, ?_⟩
    · -- the new id is the counter, which no queued message has
      unfold ids
      rw [hbuf, List.map_append]
      exact hinv.nodup.append (List.nodup_singleton _)
        (List.disjoint_singleton.mpr hinv.nextId_not_mem)
    · intro b hb
      rw [hbuf] at hb
      rw [hnext]
      rcases List.mem_append.mp hb with hb | hb
      · exact Nat.lt_succ_of_lt (hinv.idLt b hb)
      · rw [List.mem_singleton.mp hb]
        exact Nat.lt_succ_self _
    · intro b hb
      rw [hbuf] at hb
      rcases List.mem_append.mp hb with hb | hb
      · exact hinv.hash b hb
      · rw [List.mem_singleton.mp hb]
        exact .inl rfl
  | sent head rest now hx hbuf hnext _ =>
    have hids : x'.ids = x.ids := by
      unfold ids
      rw [hbuf, hx, List.map_cons, List.map_cons]
    refine ⟨hids ▸ hinv.nodup, ?_, ?_⟩
    · intro b hb
      rw [hbuf] at hb
      rw [hnext]
      rcases List.mem_cons.mp hb with rfl | hb
      · exact hinv.idLt head (hx ▸ List.mem_cons_self)
      · exact hinv.idLt b (hx ▸ List.mem_cons_of_mem _ hb)
    · -- the written head carries the receipt hash of its payload
      intro b hb
      rw [hbuf] at hb
      rcases List.mem_cons.mp hb with rfl | hb
      · exact .inr rfl
      · exact hinv.hash b (hx ▸ List.mem_cons_of_mem _ hb)
  | acked head rest _ hx hbuf hnext _ =>
    refine ⟨?_, ?_, ?_⟩
    · have hnodup := hinv.nodup
      unfold ids at hnodup ⊢
      rw [hx, List.map_cons] at hnodup
      rw [hbuf]
      exact hnodup.of_cons
    · intro b hb
      rw [hbuf] at hb
      rw [hnext]
      exact hinv.idLt b (hx ▸ List.mem_cons_of_mem _ hb)
    · intro b hb
      rw [hbuf] at hb
      exact hinv.hash b (hx ▸ List.mem_cons_of_mem _ hb)
  | prepend spaceData hbuf hnext _ =>
    refine ⟨?_, ?_, ?_⟩
    · -- the `JoinSpace` gets the counter; the kept ids are a sublist of the old ones
      unfold ids
      rw [hbuf, List.map_cons, ids_prepended]
      have hsub := (List.filter_sublist (p := fun b => keptOnPrepend b.wireMessage)
        (l := x.outgoingMessageBuffer)).map BufferedMessage.id
      exact List.nodup_cons.mpr ⟨fun hmem => hinv.nextId_not_mem (hsub.subset hmem),
        hinv.nodup.sublist hsub⟩
    · intro b hb
      rw [hbuf] at hb
      rw [hnext]
      rcases List.mem_cons.mp hb with rfl | hb
      · exact Nat.lt_succ_self _
      · obtain ⟨b₀, hb₀, -, rfl⟩ := mem_prepended.mp hb
        exact Nat.lt_succ_of_lt (hinv.idLt b₀ hb₀)
    · intro b hb
      rw [hbuf] at hb
      rcases List.mem_cons.mp hb with rfl | hb
      · exact .inl rfl
      · obtain ⟨b₀, hb₀, -, rfl⟩ := mem_prepended.mp hb
        exact hinv.hash b₀ hb₀

variable (encode receiptHash) in
theorem workerInv_new {env : WorkerEnv} {x₀ : Sim2hWorker A} (h : Sim2hWorker.new env = .ok x₀) :
    WorkerInv encode receiptHash x₀ := by
  unfold Sim2hWorker.new at h
  split at h
  · cases h
  · -- the hello, then the first reconnect, from an empty buffer
    dsimp only at h
    rw [Except.pure_eq_ok, Except.ok.injEq] at h
    subst h
    have hinit : WorkerInv encode receiptHash
        (⟨false, none, env.now - initialConnectionTimeoutMs, initialConnectionTimeoutMs,
          initialConnectionTimeoutMs, env.now, [], ∅, [], false, 0⟩ : Sim2hWorker A) :=
      ⟨List.nodup_nil, by simp, by simp⟩
    have hhello := workerInv_of_queueMove hinit
      (queueMove_sendWireMessage (l := .checkReconnect) _ (.hello wireVersion))
    exact workerInv_of_queueMove hhello (queueMove_checkReconnect (l := .checkReconnect) env _)

/-- The invariant holds on every state a run of the worker reaches. -/
theorem reachable_workerInv {env : WorkerEnv} {x₀ : Sim2hWorker A}
    (hnew : Sim2hWorker.new env = .ok x₀)
    (hx : Run.Reachable (WorkerStep encode receiptHash) x₀ x) : WorkerInv encode receiptHash x :=
  Run.Reachable.invariant (workerInv_new encode receiptHash hnew)
    (fun _ _ _ hs hstep => workerInv_of_queueMove hs (queueMove_of_workerStep _ hstep)) hx

end Invariant

/-! ### What every step guarantees -/

section Guarantees

variable (encode : WireMessage A → Opaque) (receiptHash : Opaque → Nat)

/-- How a buffered message may leave the buffer in a step: as the head, dequeued by an ack
of its hash, the receipt hash of its payload; or as a direct message a reconnect drops when
it puts a `JoinSpace` in front. -/
def LeavesBy (x x' : Sim2hWorker A) (l : WorkerLabel A) (b : BufferedMessage A) : Prop :=
  (∃ rest, x.outgoingMessageBuffer = b :: rest ∧ l = .handleServerMessage (.ack b.hash) ∧
      b.hash = receiptHash (encode b.wireMessage)) ∨
    (keptOnPrepend b.wireMessage = false ∧ ∃ spaceData : SpaceData A,
      x'.outgoingMessageBuffer.head? =
        some (.ofWireMessage (.clientToLib3h (.joinSpace spaceData)) x.nextId))

/-- What a step from `x` to `x'` driven by `l` guarantees about the queues. -/
structure QueueGuarantees (x : Sim2hWorker A) (l : WorkerLabel A) (x' : Sim2hWorker A) :
    Prop where
  /-- a message leaves only as an acknowledged head or a dropped direct message -/
  leaves : ∀ b ∈ x.outgoingMessageBuffer, b.id ∉ x'.ids → LeavesBy encode receiptHash x x' l b
  /-- the messages that stay keep their order -/
  survivorsInOrder : x'.ids.filter (· ∈ x.ids) = x.ids.filter (· ∈ x'.ids)
  /-- a pending fat ack stays pending, unless the multi-send response carrying it was the
  acknowledged head -/
  pendingKept : ∀ entry aspect, PendingFatAck x entry aspect →
    PendingFatAck x' entry aspect ∨ ∃ head rest, x.outgoingMessageBuffer = head :: rest ∧
      x'.outgoingMessageBuffer = rest ∧ l = .handleServerMessage (.ack head.hash) ∧
      InMultiSend head.wireMessage entry aspect
  /-- every aspect of a fat ack the step batches is pending -/
  batchedPending : ∀ entryData : EntryListData A,
    l = .sendWireMessage (.lib3hToClientResponse (.handleGetGossipingEntryListResult entryData)) →
    entryData.requestId = "" → ∀ entry aspects aspect, (entry, aspects) ∈ entryData.addressMap →
      aspect ∈ aspects → PendingFatAck x' entry aspect

variable {encode receiptHash} {l : WorkerLabel A} {x x' : Sim2hWorker A}

omit [LinearOrder A] in
theorem mem_ids_of_mem {b : BufferedMessage A} (hb : b ∈ x.outgoingMessageBuffer) :
    b.id ∈ x.ids :=
  List.mem_map_of_mem hb

omit [LinearOrder A] in
theorem ids_eq_of_buffer_eq (hbuf : x'.outgoingMessageBuffer = x.outgoingMessageBuffer) :
    x'.ids = x.ids := by
  unfold ids
  rw [hbuf]

/-- Under acks of nonzero hashes, a message leaves the buffer only as an acknowledged head
or as a direct message dropped by a prepend. -/
theorem leavesBy_of_queueMove (hinv : WorkerInv encode receiptHash x)
    (h : QueueMove encode receiptHash l x x')
    (hack : ∀ hash, l = .handleServerMessage (.ack hash) → hash ≠ 0)
    {b : BufferedMessage A} (hb : b ∈ x.outgoingMessageBuffer) (hleft : b.id ∉ x'.ids) :
    LeavesBy encode receiptHash x x' l b := by
  have hid := mem_ids_of_mem hb
  cases h with
  | keep h => exact absurd (ids_eq_of_buffer_eq h.buffer ▸ hid) hleft
  | batchFatAck _ hbuf _ _ => exact absurd (ids_eq_of_buffer_eq hbuf ▸ hid) hleft
  | push message hbuf _ _ =>
    refine absurd ?_ hleft
    unfold ids
    rw [hbuf, List.map_append]
    exact List.mem_append_left _ hid
  | sent head rest now hx hbuf _ _ =>
    refine absurd ?_ hleft
    unfold ids
    rw [hbuf, List.map_cons]
    rw [hx] at hb
    rcases List.mem_cons.mp hb with rfl | hb
    · exact List.mem_cons_self
    · exact List.mem_cons_of_mem _ (List.mem_map_of_mem hb)
  | acked head rest hl hx hbuf _ _ =>
    -- only the head can go, and its hash is not the 0 of a message never written
    rw [hx] at hb
    rcases List.mem_cons.mp hb with rfl | hrest
    · refine .inl ⟨rest, hx, hl, ?_⟩
      rcases hinv.hash b (hx ▸ List.mem_cons_self) with h0 | hreceipt
      · exact absurd h0 (hack _ hl)
      · exact hreceipt
    · refine absurd ?_ hleft
      unfold ids
      rw [hbuf]
      exact List.mem_map_of_mem hrest
  | prepend spaceData hbuf _ _ =>
    -- a message the prepend keeps is still there under its id
    refine .inr ⟨?_, spaceData, by rw [hbuf]; rfl⟩
    by_contra hkept
    refine hleft ?_
    unfold ids
    rw [hbuf, List.map_cons]
    refine List.mem_cons_of_mem _ (List.mem_map.mpr ⟨{ b with lastSent := none }, ?_, rfl⟩)
    exact mem_prepended.mpr ⟨b, hb, by simpa using hkept, rfl⟩

/-- On the ghost ids, every queue move is a queue edit. -/
theorem queueEdit_of_queueMove (hinv : WorkerInv encode receiptHash x)
    (h : QueueMove encode receiptHash l x x') : QueueEdit x.ids x'.ids := by
  cases h with
  | keep h => exact ids_eq_of_buffer_eq h.buffer ▸ .refl x.ids
  | batchFatAck _ hbuf _ _ => exact ids_eq_of_buffer_eq hbuf ▸ .refl x.ids
  | push message hbuf _ _ =>
    have hids : x'.ids = x.ids ++ [x.nextId] := by
      unfold ids
      rw [hbuf, List.map_append]
      rfl
    exact hids ▸ .append_fresh hinv.nextId_not_mem
  | sent head rest now hx hbuf _ _ =>
    have hids : x'.ids = x.ids := by
      unfold ids
      rw [hbuf, hx, List.map_cons, List.map_cons]
    exact hids ▸ .refl x.ids
  | acked head rest _ hx hbuf _ _ =>
    have hids : x.ids = head.id :: x'.ids := by
      unfold ids
      rw [hx, hbuf, List.map_cons]
    exact hids ▸ .tail head.id x'.ids
  | prepend spaceData hbuf _ _ =>
    have hids : x'.ids = x.nextId ::
        (x.outgoingMessageBuffer.filter fun b => keptOnPrepend b.wireMessage).map
          BufferedMessage.id := by
      unfold ids
      rw [hbuf, List.map_cons, ids_prepended]
      rfl
    exact hids ▸ .cons_fresh hinv.nextId_not_mem ((List.filter_sublist).map _)

/-- A pending fat ack stays pending through every queue move but the ack of the multi-send
response that carries it. -/
theorem pendingFatAck_of_queueMove (h : QueueMove encode receiptHash l x x') {entry aspect : A}
    (hp : PendingFatAck x entry aspect) :
    PendingFatAck x' entry aspect ∨ ∃ head rest, x.outgoingMessageBuffer = head :: rest ∧
      x'.outgoingMessageBuffer = rest ∧ l = .handleServerMessage (.ack head.hash) ∧
      InMultiSend head.wireMessage entry aspect := by
  cases h with
  | keep h =>
    left
    rwa [PendingFatAck, h.buffer, h.fatAcks]
  | batchFatAck addressMap hbuf _ hfat =>
    left
    rcases hp with hholds | hqueued
    · exact .inl (by rw [hfat, AspectMap.holds_merge]; exact .inl hholds)
    · exact .inr (by rwa [hbuf])
  | push message hbuf _ hfat =>
    left
    rcases hp with hholds | ⟨b, hb, hin⟩
    · rcases hfat with hfat | ⟨-, hcarried⟩
      · exact .inl (by rwa [hfat])
      · -- the batch went to the back inside the new multi-send response
        refine .inr ⟨.ofWireMessage message x.nextId, ?_, hcarried entry aspect hholds⟩
        rw [hbuf]
        exact List.mem_append_right _ (List.mem_singleton_self _)
    · exact .inr ⟨b, by rw [hbuf]; exact List.mem_append_left _ hb, hin⟩
  | sent head rest now hx hbuf _ hfat =>
    left
    rcases hp with hholds | ⟨b, hb, hin⟩
    · exact .inl (by rwa [hfat])
    · rw [hx] at hb
      rcases List.mem_cons.mp hb with rfl | hrest
      · -- the written head is the same wire message
        refine .inr ⟨{ b with hash := receiptHash (encode b.wireMessage), lastSent := some now },
          ?_, hin⟩
        rw [hbuf]
        exact List.mem_cons_self
      · exact .inr ⟨b, hbuf ▸ List.mem_cons_of_mem _ hrest, hin⟩
  | acked head rest hl hx hbuf _ hfat =>
    rcases hp with hholds | ⟨b, hb, hin⟩
    · exact .inl (.inl (by rwa [hfat]))
    · rw [hx] at hb
      rcases List.mem_cons.mp hb with rfl | hrest
      · exact .inr ⟨b, rest, hx, hbuf, hl, hin⟩
      · exact .inl (.inr ⟨b, by rw [hbuf]; exact hrest, hin⟩)
  | prepend spaceData hbuf _ hfat =>
    left
    rcases hp with hholds | ⟨b, hb, hin⟩
    · exact .inl (by rwa [hfat])
    · -- a message carrying fat acks is no direct message: the prepend keeps it
      refine .inr ⟨{ b with lastSent := none }, ?_, hin⟩
      rw [hbuf]
      exact List.mem_cons_of_mem _
        (mem_prepended.mpr ⟨b, hb, keptOnPrepend_of_inMultiSend hin, rfl⟩)

variable (x) in
/-- Sending a fat ack with no request id batches its aspects. -/
theorem pendingFatAck_sendWireMessage {entryData : EntryListData A}
    (hreq : entryData.requestId = "") {entry aspect : A} {aspects : List A}
    (hmem : (entry, aspects) ∈ entryData.addressMap) (ha : aspect ∈ aspects) :
    PendingFatAck
      (x.sendWireMessage (.lib3hToClientResponse (.handleGetGossipingEntryListResult entryData)))
      entry aspect := by
  left
  simp only [sendWireMessage, hreq, if_true]
  rw [AspectMap.holds_merge, AspectMap.holds_ofVecMap]
  exact .inr ⟨aspects, hmem, ha⟩

/-- Over every run of the worker from `new`, with the relay acknowledging by receipt hashes
and no receipt hash 0, every step keeps the queue guarantees, whatever the order of the
steps and whatever the relay acknowledges when. -/
theorem sim2h_worker_queue_guarantees (hnonzero : ∀ payload, receiptHash payload ≠ 0)
    {env₀ : WorkerEnv} {x₀ x x' : Sim2hWorker A} {l : WorkerEnv × WorkerLabel A}
    (hnew : Sim2hWorker.new env₀ = .ok x₀)
    (hx : Run.Reachable (WorkerStep encode receiptHash) x₀ x)
    (hstep : WorkerStep encode receiptHash x l x')
    (hack : ∀ hash, l.2 = .handleServerMessage (.ack hash) →
      ∃ payload, receiptHash payload = hash) :
    QueueGuarantees encode receiptHash x l.2 x' := by
  have hinv := reachable_workerInv hnew hx
  have hmove := queueMove_of_workerStep x hstep
  have hnonzeroAck : ∀ hash, l.2 = .handleServerMessage (.ack hash) → hash ≠ 0 := by
    intro hash hl
    obtain ⟨payload, rfl⟩ := hack hash hl
    exact hnonzero payload
  refine ⟨fun b hb hleft => leavesBy_of_queueMove hinv hmove hnonzeroAck hb hleft,
    QueueEdit.survivors_eq hinv.nodup (queueEdit_of_queueMove hinv hmove),
    fun entry aspect hp => pendingFatAck_of_queueMove hmove hp, ?_⟩
  -- the step that batches a fat ack is its send
  intro entryData hl hreq entry aspects aspect hmem ha
  obtain ⟨env, label⟩ := l
  obtain rfl : label = _ := hl
  have hx' : x' = x.sendWireMessage _ := (Except.ok.inj hstep).symm
  rw [hx']
  exact pendingFatAck_sendWireMessage x hreq hmem ha

/-- A new worker connects, writes its hello, and the relay acknowledges the hello by its
receipt hash: the guarantees hold for the acknowledgement, which takes the hello off the
queue. -/
theorem sim2h_worker_queue_guarantees_hello_acked :
    QueueGuarantees (A := Nat) (fun _ => []) (fun _ => 1)
      ⟨true, none, 2000, 4000, 4000, 2000, [], ∅, [⟨.hello wireVersion, 1, some 2100, 0⟩], false, 1⟩
      (.handleServerMessage (.ack 1))
      ⟨true, none, 2000, 4000, 4000, 2000, [], ∅, [], false, 1⟩ :=
  sim2h_worker_queue_guarantees (fun _ => Nat.one_ne_zero)
    (l := (⟨2200, .ready, false, true, true⟩, .handleServerMessage (.ack 1)))
    (rfl : Sim2hWorker.new ⟨2000, .notReady, true, false, false⟩ = .ok _)
    (.step (⟨2100, .ready, false, true, true⟩, .trySendFromOutgoingBuffer) .init rfl) rfl
    (fun _ hl => by cases hl; exact ⟨[], rfl⟩)

end Guarantees

end Holochain.Net
