/-
The zome calls of the nucleus state (`nucleus/state.rs`) and the three reducers that move a
call through them (`nucleus/reducers/queue_zome_function_call.rs`,
`return_zome_function_result.rs`, `clear_zome_function_call.rs`): at most `MAX_ZOME_CALLS`
calls run, the others wait in a queue, and a returning call makes room for the first waiting one.

The reducers are driven by the protocol of `call_zome_function`: a call is queued once, under a
fresh id; `CallResultFuture::poll` spawns it once it sees it running, and the spawned thread
returns its result once (`spawn_zome_function`); the future clears the call once it sees the
result. The protocol is stated over the history of a run (`CallHistory`): what was queued, what
entered the running set, what returned. Calls are of any type with decidable equality (the
source's `ZomeFnCall` is compared by value, its id included), results of any type.

`hdk_function_calls` is left out: the reducers only remove entries of it.

Main results:
* `zomeCallInv_step`, `reachable_zomeCallInv` — over every run of the protocol, the running
  set stays within `MAX_ZOME_CALLS`, calls wait only while it is full, and no call is both
  running and waiting or waits twice;
* `queued_getElem?_of_reachableBy`, `mem_running_of_reachableBy` — the call at position `k` of
  the queue moves up one place with each returned result, and runs after the `k + 1`-th;
* `zome_call_queue_fifo` — the above, assembled.
-/
import Mathlib.Data.Finset.Card
import Mathlib.Data.List.AList
import Holochain.Lib.Run

namespace Holochain

/-- `MAX_ZOME_CALLS`. -/
def maxZomeCalls : Nat := 10

/-- The zome calls of `NucleusState`: those waiting, those running, and the results returned. -/
structure NucleusState (C R : Type) where
  queuedZomeCalls : List C
  runningZomeCalls : Finset C
  zomeCallResults : AList (fun _ : C => R)

/-- The actions on the zome calls. -/
inductive ZomeCallAction (C R : Type)
  | queueZomeFunctionCall (call : C)
  | returnZomeFunctionResult (call : C) (result : R)
  | clearZomeFunctionCall (call : C)

/-- A returned result. -/
def ZomeCallAction.isReturn {C R : Type} : ZomeCallAction C R → Bool
  | .returnZomeFunctionResult _ _ => true
  | _ => false

namespace NucleusState

variable {C R : Type} [DecidableEq C]

/-- `NucleusState::new`. -/
def new : NucleusState C R := ⟨[], ∅, ∅⟩

/-- `reduce_queue_zome_function_call`: the call runs if there is room, and waits otherwise. -/
def reduceQueueZomeFunctionCall (s : NucleusState C R) (call : C) : NucleusState C R :=
  if s.runningZomeCalls.card < maxZomeCalls then
    { s with runningZomeCalls := insert call s.runningZomeCalls }
  else { s with queuedZomeCalls := s.queuedZomeCalls ++ [call] }

/-- `reduce_return_zome_function_result`: the result is kept, the call stops running, and the
first waiting call, if any, runs. -/
def reduceReturnZomeFunctionResult (s : NucleusState C R) (call : C) (result : R) :
    NucleusState C R :=
  let s := { s with zomeCallResults := s.zomeCallResults.insert call result
                    runningZomeCalls := s.runningZomeCalls.erase call }
  match s.queuedZomeCalls with
  | [] => s
  | nextCall :: rest =>
    { s with queuedZomeCalls := rest, runningZomeCalls := insert nextCall s.runningZomeCalls }

/-- `reduce_clear_zome_function_call`: the call is taken out of everything. -/
def reduceClearZomeFunctionCall (s : NucleusState C R) (call : C) : NucleusState C R :=
  { s with queuedZomeCalls := s.queuedZomeCalls.filter (· != call)
           runningZomeCalls := s.runningZomeCalls.erase call
           zomeCallResults := s.zomeCallResults.erase call }

/-- The nucleus reducer on the zome-call actions. -/
def reduce (s : NucleusState C R) : ZomeCallAction C R → NucleusState C R
  | .queueZomeFunctionCall call => s.reduceQueueZomeFunctionCall call
  | .returnZomeFunctionResult call result => s.reduceReturnZomeFunctionResult call result
  | .clearZomeFunctionCall call => s.reduceClearZomeFunctionCall call

/-- The calls an action makes enter the running set. -/
def enteredBy (s : NucleusState C R) : ZomeCallAction C R → List C
  | .queueZomeFunctionCall call => if s.runningZomeCalls.card < maxZomeCalls then [call] else []
  | .returnZomeFunctionResult _ _ => s.queuedZomeCalls.head?.toList
  | .clearZomeFunctionCall _ => []

end NucleusState

/-- What a run has done so far: the calls queued, the calls that entered the running set, and
the calls whose result was returned. -/
structure CallHistory (C : Type) where
  queued : List C
  entered : List C
  returned : List C

namespace CallHistory

variable {C R : Type} [DecidableEq C]

/-- The history after an action on the nucleus state `s`. -/
def record (h : CallHistory C) (s : NucleusState C R) (a : ZomeCallAction C R) : CallHistory C :=
  match a with
  | .queueZomeFunctionCall call => ⟨h.queued ++ [call], h.entered ++ s.enteredBy a, h.returned⟩
  | .returnZomeFunctionResult call _ => ⟨h.queued, h.entered ++ s.enteredBy a, h.returned ++ [call]⟩
  | .clearZomeFunctionCall _ => h

/-- The protocol of `call_zome_function`: a call is queued only when fresh, returns once and
only after it entered the running set, and is cleared only after it returned. -/
def Allowed (h : CallHistory C) : ZomeCallAction C R → Prop
  | .queueZomeFunctionCall call => call ∉ h.queued
  | .returnZomeFunctionResult call _ => call ∈ h.entered ∧ call ∉ h.returned
  | .clearZomeFunctionCall call => call ∈ h.returned

end CallHistory

/-- The nucleus zome calls with the history of the run that reached them. -/
structure ZomeCallRun (C R : Type) where
  nucleus : NucleusState C R
  history : CallHistory C

namespace ZomeCallRun

variable {C R : Type} [DecidableEq C]

/-- The start of every run: a new nucleus state and an empty history. -/
def init : ZomeCallRun C R := ⟨.new, ⟨[], [], []⟩⟩

/-- One action of the protocol. -/
def Step (p : ZomeCallRun C R) (a : ZomeCallAction C R) (p' : ZomeCallRun C R) : Prop :=
  p.history.Allowed a ∧ p' = ⟨p.nucleus.reduce a, p.history.record p.nucleus a⟩

instance CallHistory.decidableAllowed (h : CallHistory C) :
    (a : ZomeCallAction C R) → Decidable (h.Allowed a)
  | .queueZomeFunctionCall call => inferInstanceAs (Decidable (call ∉ h.queued))
  | .returnZomeFunctionResult call _ =>
    inferInstanceAs (Decidable (call ∈ h.entered ∧ call ∉ h.returned))
  | .clearZomeFunctionCall call => inferInstanceAs (Decidable (call ∈ h.returned))

/-- The step as a function: the action's effect, when the protocol allows it. -/
def next (p : ZomeCallRun C R) (a : ZomeCallAction C R) : Option (ZomeCallRun C R) :=
  if p.history.Allowed a then some ⟨p.nucleus.reduce a, p.history.record p.nucleus a⟩ else none

theorem step_of_next {p p' : ZomeCallRun C R} {a : ZomeCallAction C R}
    (h : p.next a = some p') : Step p a p' := by
  unfold next at h
  split at h
  · exact ⟨‹_›, (Option.some.inj h).symm⟩
  · cases h

/-- The invariant of the zome calls over a run of the protocol. The running set is exactly the
calls that entered it and have not returned; waiting calls never entered it. -/
structure Inv (p : ZomeCallRun C R) : Prop where
  card_le : p.nucleus.runningZomeCalls.card ≤ maxZomeCalls
  full_of_waiting : p.nucleus.queuedZomeCalls ≠ [] → p.nucleus.runningZomeCalls.card = maxZomeCalls
  nodup : p.nucleus.queuedZomeCalls.Nodup
  mem_running_iff : ∀ c, c ∈ p.nucleus.runningZomeCalls ↔ c ∈ p.history.entered ∧ c ∉ p.history.returned
  waiting_not_entered : ∀ c ∈ p.nucleus.queuedZomeCalls, c ∉ p.history.entered
  waiting_queued : ∀ c ∈ p.nucleus.queuedZomeCalls, c ∈ p.history.queued
  entered_queued : ∀ c ∈ p.history.entered, c ∈ p.history.queued
  returned_entered : ∀ c ∈ p.history.returned, c ∈ p.history.entered

omit [DecidableEq C] in
theorem inv_init : (init : ZomeCallRun C R).Inv where
  card_le := by simp [init, NucleusState.new]
  full_of_waiting := by simp [init, NucleusState.new]
  nodup := List.nodup_nil
  mem_running_iff := by simp [init, NucleusState.new]
  waiting_not_entered := by simp [init, NucleusState.new]
  waiting_queued := by simp [init, NucleusState.new]
  entered_queued := by simp [init]
  returned_entered := by simp [init]

variable {p : ZomeCallRun C R}

omit [DecidableEq C] in
/-- No call both runs and waits. -/
theorem Inv.not_running_of_waiting (hinv : p.Inv) {c : C} (hc : c ∈ p.nucleus.queuedZomeCalls) :
    c ∉ p.nucleus.runningZomeCalls := fun hrun =>
  hinv.waiting_not_entered c hc ((hinv.mem_running_iff c).mp hrun).1

/-- A call that returned neither runs nor waits: clearing it changes only the results. -/
theorem Inv.reduceClear (hinv : p.Inv) {c : C} (hc : c ∈ p.history.returned) :
    (p.nucleus.reduceClearZomeFunctionCall c).queuedZomeCalls = p.nucleus.queuedZomeCalls ∧
      (p.nucleus.reduceClearZomeFunctionCall c).runningZomeCalls = p.nucleus.runningZomeCalls := by
  have hentered := hinv.returned_entered c hc
  have hwaiting : c ∉ p.nucleus.queuedZomeCalls := fun hq => hinv.waiting_not_entered c hq hentered
  have hrunning : c ∉ p.nucleus.runningZomeCalls := fun hr => ((hinv.mem_running_iff c).mp hr).2 hc
  refine ⟨List.filter_eq_self.mpr fun d hd => ?_, Finset.erase_eq_of_notMem hrunning⟩
  have hne : d ≠ c := fun hdc => hwaiting (hdc ▸ hd)
  simpa using hne

omit [DecidableEq C] in
/-- The invariant depends on the waiting and running calls and on the history only. -/
theorem Inv.congr (hinv : p.Inv) {p' : ZomeCallRun C R}
    (hq : p'.nucleus.queuedZomeCalls = p.nucleus.queuedZomeCalls)
    (hr : p'.nucleus.runningZomeCalls = p.nucleus.runningZomeCalls) (hh : p'.history = p.history) :
    p'.Inv where
  card_le := hr ▸ hinv.card_le
  full_of_waiting := hq ▸ hr ▸ hinv.full_of_waiting
  nodup := hq ▸ hinv.nodup
  mem_running_iff := hr ▸ hh ▸ hinv.mem_running_iff
  waiting_not_entered := hq ▸ hh ▸ hinv.waiting_not_entered
  waiting_queued := hq ▸ hh ▸ hinv.waiting_queued
  entered_queued := hh ▸ hinv.entered_queued
  returned_entered := hh ▸ hinv.returned_entered

/-! ### One action -/

/-- Queueing a fresh call keeps the invariant: it runs when there is room, and then nothing
waits; otherwise it waits behind the others. -/
theorem Inv.queue (hinv : p.Inv) {c : C} (hfresh : c ∉ p.history.queued) :
    (⟨p.nucleus.reduce (.queueZomeFunctionCall c),
      p.history.record p.nucleus (.queueZomeFunctionCall c)⟩ : ZomeCallRun C R).Inv := by
  have hent : c ∉ p.history.entered := fun h => hfresh (hinv.entered_queued c h)
  have hret : c ∉ p.history.returned := fun h => hent (hinv.returned_entered c h)
  have hrun : c ∉ p.nucleus.runningZomeCalls := fun h => hent ((hinv.mem_running_iff c).mp h).1
  have hwait : c ∉ p.nucleus.queuedZomeCalls := fun h => hfresh (hinv.waiting_queued c h)
  simp only [NucleusState.reduce, NucleusState.reduceQueueZomeFunctionCall, CallHistory.record,
    NucleusState.enteredBy]
  by_cases hroom : p.nucleus.runningZomeCalls.card < maxZomeCalls
  · -- the call runs, and nothing waits: the running set was not full
    have hempty : p.nucleus.queuedZomeCalls = [] := by
      by_contra hne
      have hfull := hinv.full_of_waiting hne
      omega
    simp only [if_pos hroom]
    refine ⟨?_, ?_, hinv.nodup, fun d => ?_, ?_, ?_, ?_, ?_⟩
    · rw [Finset.card_insert_of_notMem hrun]
      omega
    · exact fun hne => absurd hempty hne
    · by_cases hdc : d = c
      · subst hdc
        simp [hret]
      · simp [hdc, hinv.mem_running_iff]
    · simp [hempty]
    · simp [hempty]
    · intro d hd
      rcases List.mem_append.mp hd with hd | hd
      · exact List.mem_append_left _ (hinv.entered_queued d hd)
      · exact List.mem_append_right _ hd
    · exact fun d hd => List.mem_append_left _ (hinv.returned_entered d hd)
  · -- the call waits at the back, behind a full running set
    simp only [if_neg hroom, List.append_nil]
    refine ⟨hinv.card_le, fun _ => Nat.le_antisymm hinv.card_le (Nat.le_of_not_lt hroom), ?_,
      hinv.mem_running_iff, ?_, ?_, ?_, hinv.returned_entered⟩
    · refine List.nodup_append.mpr ⟨hinv.nodup, List.nodup_singleton c, fun d hd b hb hdb => ?_⟩
      rw [List.mem_singleton.mp hb] at hdb
      exact hwait (hdb ▸ hd)
    · intro d hd
      rcases List.mem_append.mp hd with hd | hd
      · exact hinv.waiting_not_entered d hd
      · rw [List.mem_singleton.mp hd]
        exact hent
    · intro d hd
      rcases List.mem_append.mp hd with hd | hd
      · exact List.mem_append_left _ (hinv.waiting_queued d hd)
      · exact List.mem_append_right _ hd
    · exact fun d hd => List.mem_append_left _ (hinv.entered_queued d hd)

/-- Returning the result of a running call keeps the invariant: the call stops running, and the
first waiting call, if any, takes its place. -/
theorem Inv.return (hinv : p.Inv) {c : C} (r : R) (hc : c ∈ p.history.entered)
    (hnr : c ∉ p.history.returned) :
    (⟨p.nucleus.reduce (.returnZomeFunctionResult c r),
      p.history.record p.nucleus (.returnZomeFunctionResult c r)⟩ : ZomeCallRun C R).Inv := by
  have hrun : c ∈ p.nucleus.runningZomeCalls := (hinv.mem_running_iff c).mpr ⟨hc, hnr⟩
  have hpos : 0 < p.nucleus.runningZomeCalls.card := Finset.card_pos.mpr ⟨c, hrun⟩
  -- the running set without the call: those entered and not returned, counting the call
  have hmem_erase : ∀ d, d ∈ p.nucleus.runningZomeCalls.erase c ↔
      d ∈ p.history.entered ∧ d ∉ p.history.returned ++ [c] := by
    intro d
    rw [Finset.mem_erase, hinv.mem_running_iff]
    simp only [List.mem_append, List.mem_singleton, not_or]
    tauto
  have hreturned : ∀ d ∈ p.history.returned ++ [c], d ∈ p.history.entered := by
    intro d hd
    rcases List.mem_append.mp hd with hd | hd
    · exact hinv.returned_entered d hd
    · rw [List.mem_singleton.mp hd]
      exact hc
  simp only [NucleusState.reduce, NucleusState.reduceReturnZomeFunctionResult, CallHistory.record,
    NucleusState.enteredBy]
  cases hq : p.nucleus.queuedZomeCalls with
  | nil =>
    -- nothing waits: the running set shrinks by the call
    simp only [Option.toList, List.head?_nil, List.append_nil]
    refine ⟨?_, fun h => absurd rfl h, List.nodup_nil, hmem_erase, by simp, by simp,
      hinv.entered_queued, hreturned⟩
    exact (Finset.card_erase_le).trans hinv.card_le
  | cons n rest =>
    -- the first waiting call runs in the returned call's place
    have hn_ent : n ∉ p.history.entered := hinv.waiting_not_entered n (by simp [hq])
    have hn_erase : n ∉ p.nucleus.runningZomeCalls.erase c := fun h => hn_ent ((hmem_erase n).mp h).1
    have hnodup : (n :: rest).Nodup := hq ▸ hinv.nodup
    have hfull := hinv.full_of_waiting (by simp [hq])
    have hcard : (insert n (p.nucleus.runningZomeCalls.erase c)).card = maxZomeCalls := by
      rw [Finset.card_insert_of_notMem hn_erase, Finset.card_erase_of_mem hrun]
      omega
    simp only [Option.toList, List.head?_cons]
    refine ⟨hcard.le, fun _ => hcard, hnodup.of_cons, fun d => ?_, ?_, ?_, ?_, ?_⟩
    · by_cases hdn : d = n
      · subst hdn
        have hn_ret : d ∉ p.history.returned ++ [c] := fun h => hn_ent (hreturned d h)
        simp [hn_ret]
      · rw [Finset.mem_insert, hmem_erase, List.mem_append, List.mem_singleton]
        simp [hdn]
    · intro d hd
      have hdn : d ≠ n := fun h => (List.nodup_cons.mp hnodup).1 (h ▸ hd)
      have hd_ent : d ∉ p.history.entered := hinv.waiting_not_entered d (by simp [hq, hd])
      simp [hd_ent, hdn]
    · exact fun d hd => hinv.waiting_queued d (by simp [hq, hd])
    · intro d hd
      rcases List.mem_append.mp hd with hd | hd
      · exact hinv.entered_queued d hd
      · rw [List.mem_singleton.mp hd]
        exact hinv.waiting_queued n (by simp [hq])
    · exact fun d hd => List.mem_append_left _ (hreturned d hd)

/-- Clearing a returned call keeps the invariant: it neither runs nor waits. -/
theorem Inv.clear (hinv : p.Inv) {c : C} (hc : c ∈ p.history.returned) :
    (⟨p.nucleus.reduce (.clearZomeFunctionCall c),
      p.history.record p.nucleus (.clearZomeFunctionCall c)⟩ : ZomeCallRun C R).Inv := by
  obtain ⟨hq, hr⟩ := hinv.reduceClear hc
  exact hinv.congr hq hr rfl

/-- Every step of the protocol keeps the invariant. -/
theorem zomeCallInv_step {a : ZomeCallAction C R} {p' : ZomeCallRun C R} (hstep : Step p a p')
    (hinv : p.Inv) : p'.Inv := by
  obtain ⟨hallowed, rfl⟩ := hstep
  cases a with
  | queueZomeFunctionCall c => exact hinv.queue hallowed
  | returnZomeFunctionResult c r => exact hinv.return r hallowed.1 hallowed.2
  | clearZomeFunctionCall c => exact hinv.clear hallowed

/-- The invariant holds from the start over every run of the protocol. -/
theorem reachable_zomeCallInv (h : Run.Reachable Step init p) : p.Inv :=
  Run.Reachable.invariant inv_init (fun _ _ _ hinv hstep => zomeCallInv_step hstep hinv) h

/-- From a state that keeps the invariant, every run keeps it. -/
theorem Inv.of_reachable (hinv : p.Inv) {p' : ZomeCallRun C R} (h : Run.Reachable Step p p') :
    p'.Inv :=
  Run.Reachable.invariant hinv (fun _ _ _ hinv hstep => zomeCallInv_step hstep hinv) h

/-! ### The order of the waiting calls -/

section Order

variable {p' : ZomeCallRun C R} {k : Nat} {c : C}

/-- An action other than a return keeps every waiting call at its place. -/
theorem queued_getElem?_step_of_not_return (hinv : p.Inv) {a : ZomeCallAction C R}
    (hstep : Step p a p') (ha : a.isReturn = false) (hk : p.nucleus.queuedZomeCalls[k]? = some c) :
    p'.nucleus.queuedZomeCalls[k]? = some c := by
  obtain ⟨hallowed, rfl⟩ := hstep
  have hlt : k < p.nucleus.queuedZomeCalls.length := (List.getElem?_eq_some_iff.mp hk).1
  cases a with
  | queueZomeFunctionCall d =>
    -- a queued call is put behind the others, or runs
    simp only [NucleusState.reduce, NucleusState.reduceQueueZomeFunctionCall]
    split_ifs
    · exact hk
    · rw [List.getElem?_append_left hlt]
      exact hk
  | returnZomeFunctionResult d r => cases ha
  | clearZomeFunctionCall d =>
    show (p.nucleus.reduceClearZomeFunctionCall d).queuedZomeCalls[k]? = some c
    rw [(hinv.reduceClear hallowed).1]
    exact hk

/-- A return moves every waiting call up one place. -/
theorem queued_getElem?_step_of_return {d : C} {r : R}
    (hstep : Step p (.returnZomeFunctionResult d r) p')
    (hk : p.nucleus.queuedZomeCalls[k + 1]? = some c) : p'.nucleus.queuedZomeCalls[k]? = some c := by
  obtain ⟨-, rfl⟩ := hstep
  simp only [NucleusState.reduce, NucleusState.reduceReturnZomeFunctionResult]
  cases hq : p.nucleus.queuedZomeCalls with
  | nil => simp [hq] at hk
  | cons n rest => simpa [hq] using hk

/-- A return makes the first waiting call run. -/
theorem mem_running_step_of_return {d : C} {r : R}
    (hstep : Step p (.returnZomeFunctionResult d r) p')
    (hk : p.nucleus.queuedZomeCalls[0]? = some c) : c ∈ p'.nucleus.runningZomeCalls := by
  obtain ⟨-, rfl⟩ := hstep
  simp only [NucleusState.reduce, NucleusState.reduceReturnZomeFunctionResult]
  cases hq : p.nucleus.queuedZomeCalls with
  | nil => simp [hq] at hk
  | cons n rest =>
    have hn : n = c := by simpa [hq] using hk
    simp [hn]

/-- Over a run from a state that keeps the invariant, the call at position `k` of the queue
moves up one place with each returned result, as long as there have been at most `k` of them. -/
theorem queued_getElem?_of_reachableBy (hinv : p.Inv) (hk : p.nucleus.queuedZomeCalls[k]? = some c)
    {acts : List (ZomeCallAction C R)} (hrun : Run.ReachableBy Step p acts p')
    (hle : acts.countP ZomeCallAction.isReturn ≤ k) :
    p'.nucleus.queuedZomeCalls[k - acts.countP ZomeCallAction.isReturn]? = some c := by
  induction hrun with
  | init => simpa using hk
  | @step ls pMid pEnd l hrun' hstep ih =>
    have hinvMid := hinv.of_reachable hrun'.reachable
    rw [List.countP_append] at hle ⊢
    cases hl : l.isReturn with
    | false =>
      simp only [List.countP_singleton, hl, Bool.false_eq_true, if_false, Nat.add_zero] at hle ⊢
      exact queued_getElem?_step_of_not_return hinvMid hstep hl (ih hle)
    | true =>
      simp only [List.countP_singleton, hl, if_true] at hle ⊢
      -- the call was one place further back before this return
      have hbefore := ih (by omega)
      rw [show k - ls.countP ZomeCallAction.isReturn =
        k - (ls.countP ZomeCallAction.isReturn + 1) + 1 by omega] at hbefore
      cases l with
      | returnZomeFunctionResult d r => exact queued_getElem?_step_of_return hstep hbefore
      | queueZomeFunctionCall d => cases hl
      | clearZomeFunctionCall d => cases hl

/-- Over a run from a state that keeps the invariant, the call at position `k` of the queue runs
right after the `k + 1`-th returned result. -/
theorem mem_running_of_reachableBy (hinv : p.Inv) (hk : p.nucleus.queuedZomeCalls[k]? = some c)
    {acts : List (ZomeCallAction C R)} (hrun : Run.ReachableBy Step p acts p')
    (hcount : acts.countP ZomeCallAction.isReturn = k) {d : C} {r : R} {p'' : ZomeCallRun C R}
    (hstep : Step p' (.returnZomeFunctionResult d r) p'') : c ∈ p''.nucleus.runningZomeCalls := by
  have hfirst := queued_getElem?_of_reachableBy hinv hk hrun hcount.le
  rw [hcount, Nat.sub_self] at hfirst
  exact mem_running_step_of_return hstep hfirst

end Order

end ZomeCallRun

open ZomeCallRun in
/-- Over every run of the `call_zome_function` protocol, at most `MAX_ZOME_CALLS` calls run;
calls wait only while that many run; no call both runs and waits or waits twice; and the calls
run in the order they waited: the call at position `k` of the queue still waits, `k - n` places
from the front, after `n ≤ k` further returned results, and runs right after the `k + 1`-th. -/
theorem zome_call_queue_fifo {C R : Type} [DecidableEq C] {p : ZomeCallRun C R}
    (hreach : Run.Reachable Step init p) :
    p.nucleus.runningZomeCalls.card ≤ maxZomeCalls ∧
      (p.nucleus.queuedZomeCalls ≠ [] → p.nucleus.runningZomeCalls.card = maxZomeCalls) ∧
      (∀ c ∈ p.nucleus.queuedZomeCalls, c ∉ p.nucleus.runningZomeCalls) ∧
      p.nucleus.queuedZomeCalls.Nodup ∧
      ∀ k c, p.nucleus.queuedZomeCalls[k]? = some c →
        (∀ acts p', Run.ReachableBy Step p acts p' → acts.countP ZomeCallAction.isReturn ≤ k →
          p'.nucleus.queuedZomeCalls[k - acts.countP ZomeCallAction.isReturn]? = some c ∧
            c ∉ p'.nucleus.runningZomeCalls) ∧
        (∀ acts p' d r p'', Run.ReachableBy Step p acts p' →
          acts.countP ZomeCallAction.isReturn = k → Step p' (.returnZomeFunctionResult d r) p'' →
            c ∈ p''.nucleus.runningZomeCalls) := by
  have hinv := reachable_zomeCallInv hreach
  refine ⟨hinv.card_le, hinv.full_of_waiting, fun c hc => hinv.not_running_of_waiting hc,
    hinv.nodup, fun k c hk => ⟨fun acts p' hrun hle => ?_, fun acts p' d r p'' hrun hcount hstep =>
      mem_running_of_reachableBy hinv hk hrun hcount hstep⟩⟩
  -- still waiting, so not running
  have hpos := queued_getElem?_of_reachableBy hinv hk hrun hle
  exact ⟨hpos, (hinv.of_reachable hrun.reachable).not_running_of_waiting
    (List.mem_of_getElem? hpos)⟩

/-- Twelve calls queued and the first returned: of the run so far, ten calls entered the running
set, and the last two waited. -/
def twelveCallsOneReturned : List (ZomeCallAction Nat Unit) :=
  (List.range 12).map .queueZomeFunctionCall ++ [.returnZomeFunctionResult 0 ()]

/-- The state that run reaches. -/
def twelveCallsState : ZomeCallRun Nat Unit :=
  (Run.runSteps ZomeCallRun.next ZomeCallRun.init twelveCallsOneReturned).getD ZomeCallRun.init

/-- After twelve calls and one returned result, call `11` waits at the front and ten calls run:
the protocol's guarantees hold there. -/
theorem zome_call_queue_fifo_twelveCalls :
    Run.Reachable ZomeCallRun.Step ZomeCallRun.init twelveCallsState ∧
      twelveCallsState.nucleus.queuedZomeCalls = [11] ∧
      twelveCallsState.nucleus.runningZomeCalls.card ≤ maxZomeCalls ∧
      (twelveCallsState.nucleus.queuedZomeCalls ≠ [] →
        twelveCallsState.nucleus.runningZomeCalls.card = maxZomeCalls) ∧
      (∀ c ∈ twelveCallsState.nucleus.queuedZomeCalls, c ∉ twelveCallsState.nucleus.runningZomeCalls) ∧
      twelveCallsState.nucleus.queuedZomeCalls.Nodup ∧
      ∀ k c, twelveCallsState.nucleus.queuedZomeCalls[k]? = some c →
        (∀ acts p', Run.ReachableBy ZomeCallRun.Step twelveCallsState acts p' →
          acts.countP ZomeCallAction.isReturn ≤ k →
          p'.nucleus.queuedZomeCalls[k - acts.countP ZomeCallAction.isReturn]? = some c ∧
            c ∉ p'.nucleus.runningZomeCalls) ∧
        (∀ acts p' d r p'', Run.ReachableBy ZomeCallRun.Step twelveCallsState acts p' →
          acts.countP ZomeCallAction.isReturn = k →
          ZomeCallRun.Step p' (.returnZomeFunctionResult d r) p'' →
            c ∈ p''.nucleus.runningZomeCalls) := by
  have hreach : Run.Reachable ZomeCallRun.Step ZomeCallRun.init twelveCallsState :=
    Run.Reachable.of_runSteps (fun _ _ _ => ZomeCallRun.step_of_next) .init
      (rfl : Run.runSteps ZomeCallRun.next ZomeCallRun.init twelveCallsOneReturned =
        some twelveCallsState)
  exact ⟨hreach, by decide, zome_call_queue_fifo hreach⟩

end Holochain
