/-
The sim2h connection manager (`sim2h/src/connection_mgr.rs`): one task owning a map from
uris to the command senders of per-connection websocket tasks, and the tasks themselves.

The system is the manager, its spawned tasks and the channels between them, each an
unbounded queue: the handles' commands to the manager, the tasks' events to the manager,
the manager's commands to each task, and the events and answers it passes to its owner. A
step is a handle's call, one `ConnectionMgr::process`, one iteration of one task's loop, or
one spawned `ConnectionCount` write. What the sockets do (each write's result, each read's)
is part of the label of a task's step. A task's command channel is closed for it once the
manager holds no sender for it; a task's receiver is gone once it ended, and sends to it
fail. The owner and the handles stay alive.

Main results:
* `mapNamesTasks_step`, `reachable_mapNamesTasks` — every uri of `wss_map` names a task
  spawned for that uri;
* `replaced_task_disconnect_drops_successor` — the `Disconnect` event of a replaced task
  removes the task that replaced it.
-/
import Mathlib.Data.List.AList
import Holochain.Lib.Deque
import Holochain.Lib.Run

namespace Holochain.Sim2h

variable {U W F : Type}

/-- `ConMgrEvent`; the error of a disconnect is kept as its message. -/
inductive ConMgrEvent (U F : Type)
  | disconnect (uri : U) (err : Option String)
  | receiveData (uri : U) (frame : F)
  deriving DecidableEq, Repr

/-- `ConMgrCommand`; the answer channel of `ListConnections` is the system's list of
answers. -/
inductive ConMgrCommand (U W F : Type)
  | connect (uri : U) (wss : W)
  | sendData (uri : U) (frame : F)
  | disconnect (uri : U)
  | listConnections
  deriving DecidableEq, Repr

/-- A spawned `wss_task`: its uri and socket, the commands sent to it and not yet received,
and whether it still runs. -/
structure WssTask (U W F : Type) where
  uri : U
  wss : W
  cmdRecv : List (ConMgrCommand U W F)
  running : Bool
  deriving DecidableEq, Repr

/-- The connection manager with its tasks and channels. -/
structure ConMgrSystem (U W F : Type) where
  /-- the handles' commands not yet received (`cmd_recv`) -/
  cmdRecv : List (ConMgrCommand U W F)
  /-- the tasks' events not yet received (`evt_recv_from_children`) -/
  evtRecvFromChildren : List (ConMgrEvent U F)
  /-- the events passed to the owner, in order (`evt_send_to_parent`) -/
  evtSendToParent : List (ConMgrEvent U F)
  /-- the answers to `ListConnections`, in order -/
  listResponses : List (List U)
  /-- `wss_map`: for each uri, the index of the task whose command sender is kept -/
  wssMap : AList (fun _ : U => Nat)
  /-- the spawned tasks, by index -/
  tasks : List (WssTask U W F)
  /-- the value behind `ConnectionCount` -/
  connectionCount : Nat
  /-- the counts of spawned count writes that have not run yet -/
  pendingCounts : List Nat

/-- What a socket read gives: a frame, nothing yet, or an error. -/
inductive ReadResult (F : Type)
  | frame (f : F)
  | wouldBlock
  | error (e : String)
  deriving DecidableEq, Repr

/-- `ConMgrResult`; the channels to the owner and from the handles never close here, so
`EndTask` does not occur. -/
inductive ConMgrResult
  | didWork
  | noWork
  deriving DecidableEq, Repr

namespace ConMgrSystem

/-- `ConnectionMgr::new`: nothing connected. -/
def new : ConMgrSystem U W F := ⟨[], [], [], [], ∅, [], 0, []⟩

variable [DecidableEq U] (sys : ConMgrSystem U W F)

/-- `cmd_send.send(cmd)` to task `t`: it fails once the task has ended. -/
def sendToTask (t : Nat) (cmd : ConMgrCommand U W F) : ConMgrSystem U W F × Bool :=
  match sys.tasks[t]? with
  | some task =>
    if task.running then
      ({ sys with tasks := sys.tasks.set t { task with cmdRecv := task.cmdRecv ++ [cmd] } }, true)
    else (sys, false)
  | none => (sys, false)

/-- `wss_map.remove(uri)` and a `Disconnect` sent to the removed task, as both the
`Disconnect` command and a task's `Disconnect` event do. -/
def removeAndDisconnect (uri : U) : ConMgrSystem U W F :=
  match sys.wssMap.lookup uri with
  | some t => ({ sys with wssMap := sys.wssMap.erase uri }.sendToTask t (.disconnect uri)).1
  | none => sys

/-- `ConnectionMgr::handle_connect_data`: a task is spawned for the socket and its sender
replaces the uri's old one, whose task is told to disconnect. -/
def handleConnectData (uri : U) (wss : W) : ConMgrSystem U W F :=
  let t := sys.tasks.length
  let sys' := { sys with
    tasks := sys.tasks ++ [⟨uri, wss, [], true⟩]
    wssMap := sys.wssMap.insert uri t }
  match sys.wssMap.lookup uri with
  | some old => (sys'.sendToTask old (.disconnect uri)).1
  | none => sys'

/-- `ConnectionMgr::handle_send_data`: a failed send forgets the uri. -/
def handleSendData (uri : U) (frame : F) : ConMgrSystem U W F :=
  match sys.wssMap.lookup uri with
  | some t =>
    match sys.sendToTask t (.sendData uri frame) with
    | (sys', true) => sys'
    | (sys', false) => { sys' with wssMap := sys'.wssMap.erase uri }
  | none => sys

/-- One command of `process_sent_cmds`. -/
def handleCommand : ConMgrCommand U W F → ConMgrSystem U W F
  | .sendData uri frame => sys.handleSendData uri frame
  | .disconnect uri => sys.removeAndDisconnect uri
  | .connect uri wss => sys.handleConnectData uri wss
  | .listConnections => { sys with listResponses := sys.listResponses ++ [sys.wssMap.keys] }

/-- One event of `process_child_cmds`: a disconnect also drops the uri's task; every event
goes on to the owner. -/
def handleChildEvent : ConMgrEvent U F → ConMgrSystem U W F
  | .disconnect uri err =>
    let sys' := sys.removeAndDisconnect uri
    { sys' with evtSendToParent := sys'.evtSendToParent ++ [.disconnect uri err] }
  | evt => { sys with evtSendToParent := sys.evtSendToParent ++ [evt] }

end ConMgrSystem

namespace ConMgrSystem

variable [DecidableEq U]

/-- `process_sent_cmds`: at most `n` commands, and whether there was one. -/
def processSentCmds : Nat → ConMgrSystem U W F → ConMgrSystem U W F × Bool
  | 0, sys => (sys, false)
  | n + 1, sys =>
    match sys.cmdRecv with
    | [] => (sys, false)
    | cmd :: rest => ((processSentCmds n ({ sys with cmdRecv := rest }.handleCommand cmd)).1, true)

/-- `process_child_cmds`: at most `n` events, and whether there was one. -/
def processChildCmds : Nat → ConMgrSystem U W F → ConMgrSystem U W F × Bool
  | 0, sys => (sys, false)
  | n + 1, sys =>
    match sys.evtRecvFromChildren with
    | [] => (sys, false)
    | evt :: rest =>
      ((processChildCmds n ({ sys with evtRecvFromChildren := rest }.handleChildEvent evt)).1,
        true)

/-- `ConnectionMgr::process`: a batch of commands, then a batch of events; a changed
number of connections spawns a write of `ConnectionCount`. -/
def process (sys : ConMgrSystem U W F) : ConMgrSystem U W F × ConMgrResult :=
  let cCount := sys.wssMap.keys.length
  let (sys, didSend) := processSentCmds 100 sys
  let (sys, didRecv) := processChildCmds 100 sys
  let newCCount := sys.wssMap.keys.length
  let sys := if newCCount ≠ cCount then
      { sys with pendingCounts := sys.pendingCounts ++ [newCCount] }
    else sys
  (sys, if didSend || didRecv then .didWork else .noWork)

/-! ### The websocket tasks -/

/-- Task `t` sends an event to the manager (the manager keeps a sender of its own, so the
send succeeds). -/
def emit (sys : ConMgrSystem U W F) (evt : ConMgrEvent U F) : ConMgrSystem U W F :=
  { sys with evtRecvFromChildren := sys.evtRecvFromChildren ++ [evt] }

/-- Task `t` ends: its receiver is dropped. -/
def endTask (sys : ConMgrSystem U W F) (t : Nat) : ConMgrSystem U W F :=
  match sys.tasks[t]? with
  | some task => { sys with tasks := sys.tasks.set t { task with running := false } }
  | none => sys

/-- The manager keeps no sender for task `t`: its command channel is closed. -/
def senderDropped (sys : ConMgrSystem U W F) (t : Nat) : Bool :=
  !sys.wssMap.entries.any fun e => e.2 == t

/-- `process_control_cmds` of task `t` on `uri`: at most `n` commands, with the results of
the socket writes in order (a missing one succeeds); `true` when the task ends. -/
def processControlCmds (t : Nat) (uri : U) :
    Nat → List (Option String) → ConMgrSystem U W F → ConMgrSystem U W F × Bool
  | 0, _, sys => (sys, false)
  | n + 1, writes, sys =>
    match sys.tasks[t]? with
    | none => (sys, true)
    | some task =>
      match task.cmdRecv with
      | [] =>
        if sys.senderDropped t then
          -- "socket cmd channel closed"
          ((sys.emit (.disconnect uri none)).endTask t, true)
        else (sys, false)
      | cmd :: rest =>
        let sys := { sys with tasks := sys.tasks.set t { task with cmdRecv := rest } }
        match cmd, writes with
        | .sendData _ _, some e :: _ => ((sys.emit (.disconnect uri (some e))).endTask t, true)
        | .sendData _ _, _ :: ws => processControlCmds t uri n ws sys
        | .sendData _ _, [] => processControlCmds t uri n [] sys
        | .disconnect _, _ => ((sys.emit (.disconnect uri none)).endTask t, true)
        -- `unreachable!()`: the task panics
        | _, _ => (sys.endTask t, true)

/-- `process_websocket_frames` of task `t` on `uri`: at most `n` reads, with their results
in order (a missing one would block); `true` when the task ends. -/
def processWebsocketFrames (t : Nat) (uri : U) :
    Nat → List (ReadResult F) → ConMgrSystem U W F → ConMgrSystem U W F × Bool
  | 0, _, sys => (sys, false)
  | _ + 1, [], sys => (sys, false)
  | n + 1, r :: rs, sys =>
    match r with
    | .frame f => processWebsocketFrames t uri n rs (sys.emit (.receiveData uri f))
    | .wouldBlock => (sys, false)
    | .error e => ((sys.emit (.disconnect uri (some e))).endTask t, true)

/-- One iteration of `wss_task` for task `t` on `uri`. -/
def wssTaskIteration (t : Nat) (uri : U) (writes : List (Option String))
    (reads : List (ReadResult F)) (sys : ConMgrSystem U W F) : ConMgrSystem U W F :=
  match processControlCmds t uri 10 writes sys with
  | (sys, true) => sys
  | (sys, false) => (processWebsocketFrames t uri 10 reads sys).1

end ConMgrSystem

/-- What drives the system one step. -/
inductive ConMgrLabel (U W F : Type)
  /-- a call of a `ConnectionMgrHandle` method -/
  | send (cmd : ConMgrCommand U W F)
  /-- one `ConnectionMgr::process` -/
  | process
  /-- one loop of task `t`, with what its socket writes and reads give -/
  | wssTask (t : Nat) (writes : List (Option String)) (reads : List (ReadResult F))
  /-- the `i`-th pending `ConnectionCount` write runs -/
  | countTask (i : Nat)

namespace ConMgrSystem

variable [DecidableEq U]

/-- The step of the system under a label; a task that has ended, or a count write that
is not pending, takes no step. -/
def next (sys : ConMgrSystem U W F) : ConMgrLabel U W F → Option (ConMgrSystem U W F)
  | .send cmd => some { sys with cmdRecv := sys.cmdRecv ++ [cmd] }
  | .process => some sys.process.1
  | .wssTask t writes reads =>
    match sys.tasks[t]? with
    | some task => if task.running then some (sys.wssTaskIteration t task.uri writes reads)
      else none
    | none => none
  | .countTask i =>
    match sys.pendingCounts[i]? with
    | some c => some { sys with connectionCount := c, pendingCounts := sys.pendingCounts.eraseIdx i }
    | none => none

end ConMgrSystem

/-- One step of the connection manager's system. -/
def ConMgrStep [DecidableEq U] (sys : ConMgrSystem U W F) (l : ConMgrLabel U W F)
    (sys' : ConMgrSystem U W F) : Prop :=
  sys.next l = some sys'

/-! ### Invariant rules of the batches and of a task's loop -/

namespace ConMgrSystem

variable [DecidableEq U] {P : ConMgrSystem U W F → Prop}

/-- The invariant rule of `process_sent_cmds`: what receiving and handling one command
keeps, a batch keeps. -/
theorem processSentCmds_invariant
    (hcmd : ∀ sys cmd rest, sys.cmdRecv = cmd :: rest → P sys →
      P ({ sys with cmdRecv := rest }.handleCommand cmd)) :
    ∀ (n : Nat) {sys : ConMgrSystem U W F}, P sys → P (processSentCmds n sys).1
  | 0, _, h => h
  | n + 1, sys, h => by
    unfold processSentCmds
    split
    · exact h
    · next cmd rest hrecv =>
      exact processSentCmds_invariant hcmd n (hcmd sys cmd rest hrecv h)

/-- The invariant rule of `process_child_cmds`. -/
theorem processChildCmds_invariant
    (hevt : ∀ sys evt rest, sys.evtRecvFromChildren = evt :: rest → P sys →
      P ({ sys with evtRecvFromChildren := rest }.handleChildEvent evt)) :
    ∀ (n : Nat) {sys : ConMgrSystem U W F}, P sys → P (processChildCmds n sys).1
  | 0, _, h => h
  | n + 1, sys, h => by
    unfold processChildCmds
    split
    · exact h
    · next evt rest hrecv =>
      exact processChildCmds_invariant hevt n (hevt sys evt rest hrecv h)

section TaskLoop

variable (t : Nat) (uri : U)
  (hrecv : ∀ sys task rest, sys.tasks[t]? = some task → P sys →
    P { sys with tasks := sys.tasks.set t { task with cmdRecv := rest } })
  (hemit : ∀ sys evt, P sys → P (sys.emit evt)) (hend : ∀ sys, P sys → P (sys.endTask t))
include hrecv hemit hend

omit [DecidableEq U] in
/-- The invariant rule of `process_control_cmds`: what receiving a command, sending an
event and ending keep, the task's commands keep. -/
theorem processControlCmds_invariant :
    ∀ (n : Nat) (writes : List (Option String)) {sys : ConMgrSystem U W F}, P sys →
      P (processControlCmds t uri n writes sys).1
  | 0, _, _, h => h
  | n + 1, writes, sys, h => by
    unfold processControlCmds
    split
    · exact h
    · next task htask =>
      split
      · split
        · exact hend _ (hemit _ _ h)
        · exact h
      · next cmd rest _ =>
        have h' := hrecv sys task rest htask h
        split
        · exact hend _ (hemit _ _ h')
        · exact processControlCmds_invariant n _ h'
        · exact processControlCmds_invariant n _ h'
        · exact hend _ (hemit _ _ h')
        · exact hend _ h'

omit [DecidableEq U] hrecv in
/-- The invariant rule of `process_websocket_frames`. -/
theorem processWebsocketFrames_invariant :
    ∀ (n : Nat) (reads : List (ReadResult F)) {sys : ConMgrSystem U W F}, P sys →
      P (processWebsocketFrames t uri n reads sys).1
  | 0, _, _, h => h
  | _ + 1, [], _, h => h
  | n + 1, r :: rs, sys, h => by
    unfold processWebsocketFrames
    split
    · exact processWebsocketFrames_invariant n rs (hemit _ _ h)
    · exact h
    · exact hend _ (hemit _ _ h)

omit [DecidableEq U] in
/-- The invariant rule of one iteration of `wss_task`. -/
theorem wssTaskIteration_invariant (writes : List (Option String))
    (reads : List (ReadResult F)) {sys : ConMgrSystem U W F} (h : P sys) :
    P (sys.wssTaskIteration t uri writes reads) := by
  have hc := processControlCmds_invariant t uri hrecv hemit hend 10 writes h
  unfold wssTaskIteration
  split
  · next sys' hsys' =>
    rw [hsys'] at hc
    exact hc
  · next sys' hsys' =>
    rw [hsys'] at hc
    exact processWebsocketFrames_invariant t uri hemit hend 10 reads hc

end TaskLoop

end ConMgrSystem

/-! ### What `wss_map` names -/

namespace ConMgrSystem

/-- The uri each task was spawned for, by index. -/
def taskUris (sys : ConMgrSystem U W F) : List U := sys.tasks.map (·.uri)

variable [DecidableEq U]

/-- Every uri of `wss_map` names a task spawned for that uri. -/
def MapNamesTasks (sys : ConMgrSystem U W F) : Prop :=
  ∀ u t, sys.wssMap.lookup u = some t → sys.taskUris[t]? = some u

variable {sys : ConMgrSystem U W F}

omit [DecidableEq U] in
@[simp] theorem taskUris_sendToTask (t : Nat) (cmd : ConMgrCommand U W F) :
    (sys.sendToTask t cmd).1.taskUris = sys.taskUris := by
  unfold sendToTask
  cases h : sys.tasks[t]? with
  | none => rfl
  | some task =>
    dsimp only
    split
    · exact List.map_set_of_getElem?_eq h rfl
    · rfl

omit [DecidableEq U] in
@[simp] theorem wssMap_sendToTask (t : Nat) (cmd : ConMgrCommand U W F) :
    (sys.sendToTask t cmd).1.wssMap = sys.wssMap := by
  unfold sendToTask
  cases sys.tasks[t]? with
  | none => rfl
  | some task =>
    dsimp only
    split <;> rfl

omit [DecidableEq U] in
@[simp] theorem taskUris_emit (evt : ConMgrEvent U F) : (sys.emit evt).taskUris = sys.taskUris :=
  rfl

omit [DecidableEq U] in
@[simp] theorem wssMap_emit (evt : ConMgrEvent U F) : (sys.emit evt).wssMap = sys.wssMap := rfl

omit [DecidableEq U] in
@[simp] theorem taskUris_endTask (t : Nat) : (sys.endTask t).taskUris = sys.taskUris := by
  unfold endTask
  cases h : sys.tasks[t]? with
  | none => rfl
  | some task => exact List.map_set_of_getElem?_eq h rfl

omit [DecidableEq U] in
@[simp] theorem wssMap_endTask (t : Nat) : (sys.endTask t).wssMap = sys.wssMap := by
  unfold endTask
  cases sys.tasks[t]? <;> rfl

/-- Routing reads only `wss_map` and the tasks' uris. -/
theorem MapNamesTasks.of_eq {sys' : ConMgrSystem U W F} (h : sys.MapNamesTasks)
    (hmap : sys'.wssMap = sys.wssMap) (huris : sys'.taskUris = sys.taskUris) :
    sys'.MapNamesTasks := by
  unfold MapNamesTasks
  rw [hmap, huris]
  exact h

theorem MapNamesTasks.erase (h : sys.MapNamesTasks) (uri : U) :
    ({ sys with wssMap := sys.wssMap.erase uri } : ConMgrSystem U W F).MapNamesTasks := by
  intro u t hu
  by_cases hne : u = uri
  · subst hne
    simp at hu
  · rw [AList.lookup_erase_ne hne] at hu
    exact h u t hu

theorem MapNamesTasks.removeAndDisconnect (h : sys.MapNamesTasks) (uri : U) :
    (sys.removeAndDisconnect uri).MapNamesTasks := by
  unfold ConMgrSystem.removeAndDisconnect
  split
  · exact (h.erase uri).of_eq (wssMap_sendToTask _ _) (taskUris_sendToTask _ _)
  · exact h

/-- A connect names the new task, which is spawned for the uri. -/
theorem MapNamesTasks.handleConnectData (h : sys.MapNamesTasks) (uri : U) (wss : W) :
    (sys.handleConnectData uri wss).MapNamesTasks := by
  have hnew : ({ sys with
      tasks := sys.tasks ++ [⟨uri, wss, [], true⟩]
      wssMap := sys.wssMap.insert uri sys.tasks.length } : ConMgrSystem U W F).MapNamesTasks := by
    intro u t hu
    simp only [taskUris, List.map_append, List.map_cons, List.map_nil]
    by_cases hne : u = uri
    · subst hne
      rw [AList.lookup_insert, Option.some.injEq] at hu
      subst hu
      simp
    · rw [AList.lookup_insert_ne hne] at hu
      have ht := h u t hu
      have hlt : t < (sys.tasks.map (·.uri)).length := (List.getElem?_eq_some_iff.mp ht).1
      rw [List.getElem?_append_left hlt]
      exact ht
  unfold ConMgrSystem.handleConnectData
  split
  · exact hnew.of_eq (wssMap_sendToTask _ _) (taskUris_sendToTask _ _)
  · exact hnew

theorem MapNamesTasks.handleSendData (h : sys.MapNamesTasks) (uri : U) (frame : F) :
    (sys.handleSendData uri frame).MapNamesTasks := by
  unfold ConMgrSystem.handleSendData
  cases sys.wssMap.lookup uri with
  | none => exact h
  | some t =>
    have hs := h.of_eq (wssMap_sendToTask t (.sendData uri frame)) (taskUris_sendToTask t _)
    dsimp only
    cases hsend : sys.sendToTask t (.sendData uri frame) with
    | mk sys' ok =>
      rw [hsend] at hs
      -- a failed send also forgets the uri
      cases ok
      · exact hs.erase uri
      · exact hs

theorem MapNamesTasks.handleCommand (h : sys.MapNamesTasks) (cmd : ConMgrCommand U W F) :
    (sys.handleCommand cmd).MapNamesTasks := by
  cases cmd with
  | sendData uri frame => exact h.handleSendData uri frame
  | disconnect uri => exact h.removeAndDisconnect uri
  | connect uri wss => exact h.handleConnectData uri wss
  | listConnections => exact h.of_eq rfl rfl

theorem MapNamesTasks.handleChildEvent (h : sys.MapNamesTasks) (evt : ConMgrEvent U F) :
    (sys.handleChildEvent evt).MapNamesTasks := by
  cases evt with
  | disconnect uri err => exact (h.removeAndDisconnect uri).of_eq rfl rfl
  | receiveData uri frame => exact h.of_eq rfl rfl

theorem MapNamesTasks.processSentCmds :
    ∀ (n : Nat) {sys : ConMgrSystem U W F}, sys.MapNamesTasks →
      (processSentCmds n sys).1.MapNamesTasks :=
  processSentCmds_invariant fun s cmd rest _ h => by
    -- receiving the command touches neither `wss_map` nor the tasks
    have h' : ({ s with cmdRecv := rest } : ConMgrSystem U W F).MapNamesTasks := h.of_eq rfl rfl
    exact h'.handleCommand cmd

theorem MapNamesTasks.processChildCmds :
    ∀ (n : Nat) {sys : ConMgrSystem U W F}, sys.MapNamesTasks →
      (processChildCmds n sys).1.MapNamesTasks :=
  processChildCmds_invariant fun s evt rest _ h => by
    have h' : ({ s with evtRecvFromChildren := rest } : ConMgrSystem U W F).MapNamesTasks :=
      h.of_eq rfl rfl
    exact h'.handleChildEvent evt

theorem MapNamesTasks.process (h : sys.MapNamesTasks) : sys.process.1.MapNamesTasks := by
  have h' := MapNamesTasks.processChildCmds 100 (MapNamesTasks.processSentCmds 100 h)
  unfold ConMgrSystem.process
  dsimp only
  split
  · exact h'.of_eq rfl rfl
  · exact h'

/-- A task's loop touches neither `wss_map` nor the tasks' uris: receiving a command
rewrites the task in place, and ending it keeps its uri. -/
theorem MapNamesTasks.wssTaskIteration (h : sys.MapNamesTasks) (t : Nat) (uri : U)
    (writes : List (Option String)) (reads : List (ReadResult F)) :
    (sys.wssTaskIteration t uri writes reads).MapNamesTasks := by
  refine wssTaskIteration_invariant t uri ?_ ?_ ?_ writes reads h
  · intro s task rest htask hs
    exact hs.of_eq rfl (List.map_set_of_getElem?_eq htask rfl)
  · intro s evt hs
    exact hs.of_eq rfl rfl
  · intro s hs
    exact hs.of_eq (wssMap_endTask t) (taskUris_endTask t)

end ConMgrSystem

theorem mapNamesTasks_step [DecidableEq U] {sys sys' : ConMgrSystem U W F}
    {l : ConMgrLabel U W F} (h : ConMgrStep sys l sys') (hm : sys.MapNamesTasks) :
    sys'.MapNamesTasks := by
  unfold ConMgrStep at h
  cases l with
  | send cmd =>
    cases h
    exact hm.of_eq rfl rfl
  | process =>
    cases h
    exact hm.process
  | wssTask t writes reads =>
    simp only [ConMgrSystem.next] at h
    split at h
    · split at h
      · cases h
        exact hm.wssTaskIteration _ _ _ _
      · cases h
    · cases h
  | countTask i =>
    simp only [ConMgrSystem.next] at h
    split at h
    · cases h
      exact hm.of_eq rfl rfl
    · cases h

theorem reachable_mapNamesTasks [DecidableEq U] {sys : ConMgrSystem U W F}
    (h : Run.Reachable ConMgrStep ConMgrSystem.new sys) : sys.MapNamesTasks := by
  refine Run.Reachable.invariant (P := ConMgrSystem.MapNamesTasks) ?_ ?_ h
  · intro u t hu
    cases hu
  · intro sys l sys' hm hstep
    exact mapNamesTasks_step hstep hm

/-- A run of `next` over a list of labels reaches a reachable system. -/
theorem reachable_of_runSteps [DecidableEq U] (ls : List (ConMgrLabel U W F))
    {sys : ConMgrSystem U W F} (h : Run.runSteps ConMgrSystem.next ConMgrSystem.new ls = some sys) :
    Run.Reachable ConMgrStep ConMgrSystem.new sys :=
  Run.Reachable.of_runSteps (fun _ _ _ hnext => hnext) .init h

/-- Uri `0` is connected on socket `1` and then on socket `2`. The manager replaces task
`0` by task `1` and tells task `0` to disconnect; task `0` reports `Disconnect(0)` and
ends; the manager, taking the report for the uri's current connection, removes task `1`
from `wss_map` and tells it to disconnect too. No `Disconnect(0)` command was sent and task
`1` has reported nothing. -/
theorem replaced_task_disconnect_drops_successor :
    ∃ sys : ConMgrSystem Nat Nat Unit,
      Run.runSteps ConMgrSystem.next ConMgrSystem.new
        [.send (.connect 0 1), .send (.connect 0 2), .process, .wssTask 0 [] [], .process] =
        some sys ∧
      Run.Reachable ConMgrStep ConMgrSystem.new sys ∧
      sys.wssMap.lookup 0 = none ∧
      sys.tasks[1]? = some ⟨0, 2, [.disconnect 0], true⟩ := by
  refine ⟨_, rfl, reachable_of_runSteps
    [.send (.connect 0 1), .send (.connect 0 2), .process, .wssTask 0 [] [], .process] rfl,
    ?_, ?_⟩ <;> decide

end Holochain.Sim2h
