/-
The connection count of the sim2h connection manager (`ConnectionCount` and
`ConnectionMgr::process`, `sim2h/src/connection_mgr.rs`).

Each `process` that changes the number of connections spawns a task that writes the number
it saw into `ConnectionCount`. The spawned writes are independent tokio tasks: any pending
one may run next (`ConMgrLabel.countTask`).

* `countsTrack_step` — a step that runs no write but the oldest pending one keeps the last
  count written or pending equal to `wss_map.len()`;
* `connectionCount_eq_of_inOrder` — so over every run whose writes run in the order they
  were spawned, once none is pending `ConnectionCount` holds `wss_map.len()`;
* `connection_count_stale_after_reordered_writes` — run newest first, two writes leave the
  older count behind.
-/
import Holochain.Sim2h.ConnectionMgr

namespace Holochain.Sim2h

variable {U W F : Type}

namespace ConMgrSystem

/-- What `ConnectionCount` holds, and the counts of the spawned writes that have not run,
oldest first. -/
def counts (sys : ConMgrSystem U W F) : Nat × List Nat :=
  (sys.connectionCount, sys.pendingCounts)

/-- The count `ConnectionCount` is left with once the pending writes run in the order they
were spawned: the newest pending count, or with none pending the count it holds. -/
def lastCount (sys : ConMgrSystem U W F) : Nat :=
  sys.pendingCounts.getLast?.getD sys.connectionCount

/-- The invariant of writes run in order: the count they leave is the number of
connections. -/
def CountsTrack [DecidableEq U] (sys : ConMgrSystem U W F) : Prop :=
  sys.lastCount = sys.wssMap.keys.length

/-! ### The counts are written only by the count tasks -/

section Frame

variable {sys : ConMgrSystem U W F}

theorem lastCount_eq_of_counts {sys' : ConMgrSystem U W F} (h : sys'.counts = sys.counts) :
    sys'.lastCount = sys.lastCount := by
  obtain ⟨hcount, hpending⟩ := Prod.mk.inj h
  unfold lastCount
  rw [hcount, hpending]

@[simp] theorem counts_sendToTask (t : Nat) (cmd : ConMgrCommand U W F) :
    (sys.sendToTask t cmd).1.counts = sys.counts := by
  unfold sendToTask
  cases sys.tasks[t]? with
  | none => rfl
  | some task =>
    dsimp only
    split <;> rfl

@[simp] theorem counts_endTask (t : Nat) : (sys.endTask t).counts = sys.counts := by
  unfold endTask
  cases sys.tasks[t]? <;> rfl

variable [DecidableEq U]

@[simp] theorem counts_removeAndDisconnect (uri : U) :
    (sys.removeAndDisconnect uri).counts = sys.counts := by
  unfold removeAndDisconnect
  split
  · exact counts_sendToTask _ _
  · rfl

@[simp] theorem counts_handleConnectData (uri : U) (wss : W) :
    (sys.handleConnectData uri wss).counts = sys.counts := by
  unfold handleConnectData
  split
  · exact counts_sendToTask _ _
  · rfl

@[simp] theorem counts_handleSendData (uri : U) (frame : F) :
    (sys.handleSendData uri frame).counts = sys.counts := by
  unfold handleSendData
  cases sys.wssMap.lookup uri with
  | none => rfl
  | some t =>
    have hsent : (sys.sendToTask t (.sendData uri frame)).1.counts = sys.counts :=
      counts_sendToTask t _
    dsimp only
    cases hsend : sys.sendToTask t (.sendData uri frame) with
    | mk sys' ok =>
      rw [hsend] at hsent
      -- a failed send forgets the uri, and nothing else
      cases ok <;> exact hsent

theorem counts_handleCommand (cmd : ConMgrCommand U W F) :
    (sys.handleCommand cmd).counts = sys.counts := by
  cases cmd with
  | sendData uri frame => exact counts_handleSendData uri frame
  | disconnect uri => exact counts_removeAndDisconnect uri
  | connect uri wss => exact counts_handleConnectData uri wss
  | listConnections => rfl

theorem counts_handleChildEvent (evt : ConMgrEvent U F) :
    (sys.handleChildEvent evt).counts = sys.counts := by
  cases evt with
  | disconnect uri err =>
    exact (counts_removeAndDisconnect uri : (sys.removeAndDisconnect uri).counts = sys.counts)
  | receiveData uri frame => rfl

/-- The batches of `process` leave the counts alone; only its end queues a write. -/
theorem counts_processBatches (sys : ConMgrSystem U W F) :
    (processChildCmds 100 (processSentCmds 100 sys).1).1.counts = sys.counts := by
  have hsent : (processSentCmds 100 sys).1.counts = sys.counts :=
    processSentCmds_invariant (P := fun s => s.counts = sys.counts)
      (fun _ cmd _ _ hs => (counts_handleCommand cmd).trans hs) 100 rfl
  exact processChildCmds_invariant (P := fun s => s.counts = sys.counts)
    (fun _ evt _ _ hs => (counts_handleChildEvent evt).trans hs) 100 hsent

omit [DecidableEq U] in
/-- A task's loop touches neither `wss_map` nor the counts. -/
theorem frame_wssTaskIteration (sys : ConMgrSystem U W F) (t : Nat) (uri : U) (writes : List (Option String))
    (reads : List (ReadResult F)) :
    (sys.wssTaskIteration t uri writes reads).wssMap = sys.wssMap ∧
      (sys.wssTaskIteration t uri writes reads).counts = sys.counts :=
  wssTaskIteration_invariant (P := fun s => s.wssMap = sys.wssMap ∧ s.counts = sys.counts) t uri
    (fun _ _ _ _ hs => hs) (fun _ _ hs => hs)
    (fun _ ⟨hmap, hcounts⟩ => ⟨(wssMap_endTask _).trans hmap, (counts_endTask _).trans hcounts⟩)
    writes reads ⟨rfl, rfl⟩

end Frame

/-! ### In-order writes track the number of connections -/

section Track

variable [DecidableEq U] {sys sys' : ConMgrSystem U W F}

/-- `process` keeps the invariant: a batch that changes the number of connections queues a
write of the new number, and one that does not leaves the last count as it was. -/
theorem CountsTrack.process (h : sys.CountsTrack) : sys.process.1.CountsTrack := by
  have hcounts := counts_processBatches sys
  unfold ConMgrSystem.process
  dsimp only
  split
  · -- the new write is the newest pending one
    simp [CountsTrack, lastCount]
  · next hsame =>
    unfold CountsTrack
    rw [lastCount_eq_of_counts hcounts, h]
    exact (not_not.mp hsame).symm

/-- The step rule: every step keeps the invariant, as long as a count write that runs is
the oldest one pending. -/
theorem countsTrack_step {l : ConMgrLabel U W F} (hinOrder : ∀ i, l = .countTask i → i = 0)
    (hstep : ConMgrStep sys l sys') (h : sys.CountsTrack) : sys'.CountsTrack := by
  unfold ConMgrStep at hstep
  cases l with
  | send cmd =>
    cases hstep
    exact h
  | process =>
    cases hstep
    exact h.process
  | wssTask t writes reads =>
    simp only [next] at hstep
    split at hstep
    · split at hstep
      · cases hstep
        obtain ⟨hmap, hcounts⟩ := frame_wssTaskIteration sys t _ writes reads
        unfold CountsTrack
        rw [lastCount_eq_of_counts hcounts, hmap]
        exact h
      · cases hstep
    · cases hstep
  | countTask i =>
    obtain rfl := hinOrder i rfl
    -- the oldest write runs: what is left to write ends as before
    cases hpending : sys.pendingCounts with
    | nil => simp [next, hpending] at hstep
    | cons c rest =>
      simp only [next, hpending, List.getElem?_cons_zero, Option.some.injEq] at hstep
      subst hstep
      unfold CountsTrack lastCount at h ⊢
      rw [hpending, List.getLast?_cons, Option.getD_some] at h
      simpa using h

/-- Nothing is connected, counted or pending. -/
theorem countsTrack_new : (ConMgrSystem.new : ConMgrSystem U W F).CountsTrack :=
  rfl

/-- The invariant holds over every run whose count writes each run as the oldest one
pending. -/
theorem countsTrack_of_inOrder {ls : List (ConMgrLabel U W F)}
    (h : Run.ReachableBy ConMgrStep ConMgrSystem.new ls sys)
    (hinOrder : ∀ i, ConMgrLabel.countTask i ∈ ls → i = 0) : sys.CountsTrack :=
  Run.ReachableBy.invariant (P := CountsTrack)
    (W := fun l : ConMgrLabel U W F => ∀ i, l = .countTask i → i = 0) countsTrack_new
    (fun _ _ _ hw hs hstep => countsTrack_step hw hstep hs) h
    (fun _ hl i hli => hinOrder i (hli ▸ hl))

/-- Over every run whose count writes run in the order `process` spawned them, once every
write has run `ConnectionCount` holds `wss_map.len()`. -/
theorem connectionCount_eq_of_inOrder {ls : List (ConMgrLabel U W F)}
    (h : Run.ReachableBy ConMgrStep ConMgrSystem.new ls sys)
    (hinOrder : ∀ i, ConMgrLabel.countTask i ∈ ls → i = 0) (hnone : sys.pendingCounts = []) :
    sys.connectionCount = sys.wssMap.keys.length := by
  have htrack := countsTrack_of_inOrder h hinOrder
  unfold CountsTrack lastCount at htrack
  rwa [hnone, List.getLast?_nil, Option.getD_none] at htrack

end Track

/-! ### Writes run out of order -/

/-- Two pending writes run newest first: the older count is the one left. -/
theorem runSteps_newestFirst [DecidableEq U] {sys : ConMgrSystem U W F} {a b : Nat}
    (hpending : sys.pendingCounts = [a, b]) :
    Run.runSteps next sys [.countTask 1, .countTask 0] =
      some { sys with connectionCount := a, pendingCounts := [] } := by
  simp [Run.runSteps, next, hpending]

/-- Uri `0` connects and a `process` counts one connection; uri `1` connects and a
`process` counts two. The write of 2 runs first, then the write of 1: with every write run,
`ConnectionCount` holds 1 while `wss_map` holds two connections. -/
theorem connection_count_stale_after_reordered_writes :
    ∃ sys : ConMgrSystem Nat Nat Unit,
      Run.ReachableBy ConMgrStep ConMgrSystem.new
        [.send (.connect 0 1), .process, .send (.connect 1 2), .process,
          .countTask 1, .countTask 0] sys ∧
      sys.pendingCounts = [] ∧ sys.connectionCount = 1 ∧ sys.wssMap.keys.length = 2 := by
  -- the two connects, each counted by its own `process`: writes of 1 and 2 pending
  obtain ⟨sys₂, hrun, hpending, hlen⟩ : ∃ sys₂ : ConMgrSystem Nat Nat Unit,
      Run.runSteps next ConMgrSystem.new
        [.send (.connect 0 1), .process, .send (.connect 1 2), .process] = some sys₂ ∧
      sys₂.pendingCounts = [1, 2] ∧ sys₂.wssMap.keys.length = 2 :=
    ⟨_, rfl, rfl, rfl⟩
  have hprefix := Run.ReachableBy.of_runSteps (fun _ _ _ hnext => hnext) .init hrun
  have hrun' := Run.ReachableBy.of_runSteps (fun _ _ _ hnext => hnext) hprefix
    (runSteps_newestFirst hpending)
  exact ⟨_, hrun', rfl, rfl, hlen⟩

end ConMgrSystem

end Holochain.Sim2h
