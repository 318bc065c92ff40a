/-
The DHT reducers (`dht/dht_reducers.rs`) and the holding queue they maintain.

The shard storages are a state `S` beside the store. What the hold reducers write to them
(the inner reducers of `dht_inner_reducers.rs` and `add_header_for_entry`, over the CAS and
EAV stores of `holochain_persistence_api`) is a parameter `ShardWrites S A`: each write
returns the storage after it, also when it fails, since the storage is shared by the
old store and its clone.

Main results:
* `holdingQueueUnique_step`, `reachable_holdingQueueUnique` — no two elements of the
  holding queue and the in-process list share a header and a workflow, from any state
  reachable by the DHT's reductions;
* `queueMove_update` — on such a state `RemoveQueuedHoldingWorkflow` moves the one
  element it names, or changes nothing.
-/
import Mathlib.Data.List.Perm.Basic
import Holochain.Core.Dht.Store
import Holochain.Lib.Run

namespace Holochain

variable {A : Type} [DecidableEq A]

/-- `LinkModification`. -/
inductive LinkModification
  | add
  | remove
  deriving DecidableEq, Repr

/-- The writes of the hold reducers to the shard storages `S`, each with the storage after
it: `reduce_store_entry_inner`, `DhtStore::add_header_for_entry`,
`reduce_add_remove_link_inner`, `reduce_update_entry_inner` and `reduce_remove_entry_inner`. -/
structure ShardWrites (S A : Type) where
  storeEntry : S → Entry A → S × Except HolochainError Unit
  addHeaderForEntry : S → Entry A → ChainHeader A → S × Except HolochainError Unit
  addRemoveLink : S → LinkData A → A → LinkModification → ChainHeader A →
    S × Except HolochainError A
  updateEntry : S → A → A → S × Except HolochainError A
  removeEntry : S → A → A → S × Except HolochainError A

/-- How the match of `reduce_hold_aspect` ends: the aspect was written, a write failed with
`hold_result` set, or `add_header_for_entry(..).ok()?` returned from the reducer. -/
inductive HoldArm
  | held
  | failed (e : HolochainError)
  | abandoned

/-- The `hold_result` of a failed write in the arm for `what`. -/
def holdError (what : String) (e : HolochainError) : HoldArm :=
  .failed (.errorGeneric ("EntryAspect::" ++ what ++ " hold error: " ++ e.toString))

variable (A) in
/-- The actions the DHT reducer handles (`resolve_reducer`); it ignores every other. -/
inductive DhtAction
  | commit (entry : Entry A)
  | holdAspect (aspect : EntryAspect A) (id : HoldAspectAttemptId)
  | queueHoldingWorkflow (pending : PendingValidation A) (delay : Option (Nat × Nat))
  | removeQueuedHoldingWorkflow (state : HoldingWorkflowQueueing) (pending : PendingValidation A)
  | prune

namespace Dht

section Reducers

variable {S : Type} (w : ShardWrites S A) (hash : CasContent A → A)
  (aspectHash : EntryAspect A → A)

/-- `reduce_commit_entry`: the entry is stored, and the store itself is unchanged. -/
def reduceCommitEntry (st : S) (s : DhtStore A) (entry : Entry A) :
    S × Option (DhtStore A) :=
  match w.storeEntry st entry with
  | (st', .ok ()) => (st', some s)
  | (st', .error _) => (st', none)

/-- The match of `reduce_hold_aspect`: the writes an aspect asks for. -/
def holdAspectArm (st : S) : EntryAspect A → S × HoldArm
  | .content entry header =>
    match w.storeEntry st entry with
    | (st, .ok ()) =>
      match w.addHeaderForEntry st entry header with
      | (st, .ok ()) => (st, .held)
      | (st, .error _) => (st, .abandoned)
    | (st, .error e) => (st, holdError "Content" e)
  | .linkAdd link header =>
    match w.addRemoveLink st link ((Entry.linkAdd link).address hash) .add header with
    | (st, .ok _) => (st, .held)
    | (st, .error e) => (st, holdError "LinkAdd" e)
  | .linkRemove link linksToRemove header =>
    -- every link is removed; the last failure is the hold result
    linksToRemove.foldl (fun (st, arm) linkAddress =>
      match w.addRemoveLink st link linkAddress .remove header with
      | (st, .ok _) => (st, arm)
      | (st, .error e) => (st, holdError "LinkRemove" e)) (st, .held)
  | .update entry header =>
    match header.linkUpdateDelete with
    | some crudLink =>
      match w.updateEntry st crudLink (entry.address hash) with
      | (st, .ok _) => (st, .held)
      | (st, .error e) => (st, holdError "Update" e)
    | none =>
      (st, .failed (.errorGeneric "EntryAspect::Update without crud_link in header received!"))
  | .deletion header =>
    match header.linkUpdateDelete with
    | some crudLink =>
      match w.removeEntry st crudLink header.entryAddress with
      | (st, .ok _) => (st, .held)
      | (st, .error e) => (st, holdError "Deletion" e)
    | none =>
      (st, .failed (.errorGeneric "EntryAspect::Deletion without crud_link in header received!"))
  | .header _ =>
    (st, .failed (.errorGeneric "Got EntryAspect::Header which is not implemented."))

/-- `reduce_hold_aspect`: a held aspect is marked as held; the attempt's result is recorded
unless the reducer returned early. -/
def reduceHoldAspect (st : S) (s : DhtStore A) (aspect : EntryAspect A)
    (id : HoldAspectAttemptId) : Except String (S × Option (DhtStore A)) :=
  match holdAspectArm w hash st aspect with
  | (st', .held) => do
    let s' ← s.markAspectAsHeld hash aspectHash aspect
    return (st', some (s'.markHoldAspectComplete id (.ok ())))
  | (st', .failed e) => return (st', some (s.markHoldAspectComplete id (.error e)))
  | (st', .abandoned) => return (st', none)

/-- `reduce_queue_holding_workflow`: the pending validation joins the back of the queue
unless its aspect is held or an element with its header and workflow is queued or in
process. The delay is a system time and a duration. -/
def reduceQueueHoldingWorkflow (s : DhtStore A) (pending : PendingValidation A)
    (maybeDelay : Option (Nat × Nat)) : Except String (Option (DhtStore A)) := do
  let entryAspect ← EntryAspect.ofPending pending
  let held ← s.holdingMap.contains hash aspectHash entryAspect
  if held then return none
  else if s.hasSameQueuedHoldingWorfkow pending then return none
  else if s.hasSameInProcessHoldingWorfkow pending then return none
  else return some { s with
    queuedHoldingWorkflows :=
      s.queuedHoldingWorkflows ++ [⟨pending, maybeDelay.map fun (t, d) => ⟨t, d⟩⟩] }

end Reducers

/-- The key `reduce_prune` deduplicates the queue by: workflow and entry address. -/
def pruneKey (p : PendingValidationWithTimeout A) : ValidatingWorkflow × A :=
  (p.pending.workflow, p.pending.entryWithHeader.header.entryAddress)

/-- `reduce_prune`: later queued elements with the key of an earlier one are dropped. -/
def reducePrune (s : DhtStore A) : Option (DhtStore A) :=
  let prunedQueue := s.queuedHoldingWorkflows.uniqueBy pruneKey
  if prunedQueue.length < s.queuedHoldingWorkflows.length then
    some { s with queuedHoldingWorkflows := prunedQueue }
  else none

/-- `reduce_remove_queued_holding_workflow`, at system time `now`. -/
def reduceRemoveQueuedHoldingWorkflow (s : DhtStore A) (state : HoldingWorkflowQueueing)
    (pending : PendingValidation A) (now : Nat) : DhtStore A :=
  s.updateQueuedHoldingWorkflow now state pending

end Dht

section Step

variable {S : Type} (w : ShardWrites S A) (hash : CasContent A → A)
  (aspectHash : EntryAspect A → A)

/-- `resolve_reducer` and the reducer it names: the storages after it, and the new store
unless the reducer returns `None`. A panic is `Except.error`. -/
def DhtStore.reduceAction (st : S) (s : DhtStore A) (now : Nat) :
    DhtAction A → Except String (S × Option (DhtStore A))
  | .commit entry => .ok (Dht.reduceCommitEntry w st s entry)
  | .holdAspect aspect id => Dht.reduceHoldAspect w hash aspectHash st s aspect id
  | .queueHoldingWorkflow pending delay =>
    (st, ·) <$> Dht.reduceQueueHoldingWorkflow hash aspectHash s pending delay
  | .removeQueuedHoldingWorkflow state pending =>
    .ok (st, some (Dht.reduceRemoveQueuedHoldingWorkflow s state pending now))
  | .prune => .ok (st, Dht.reducePrune s)

/-- `dht_reducers::reduce` on the store and its storages, at system time `now`: a reducer
that returns `None` leaves the store as it was. -/
def DhtStore.reduce (st : S) (s : DhtStore A) (action : DhtAction A) (now : Nat) :
    Except String (S × DhtStore A) :=
  (fun r => (r.1, r.2.getD s)) <$> DhtStore.reduceAction w hash aspectHash st s now action

/-- One step of the DHT slice: an action dispatched at system time `now`. A panic is no
step. -/
def DhtStep (x : S × DhtStore A) (l : DhtAction A × Nat) (x' : S × DhtStore A) : Prop :=
  DhtStore.reduce w hash aspectHash x.1 x.2 l.1 l.2 = .ok x'

end Step

/-! ### The holding queue -/

/-- The key the enqueue guard compares: header and workflow. -/
def holdingKey (p : PendingValidationWithTimeout A) : ChainHeader A × ValidatingWorkflow :=
  (p.pending.entryWithHeader.header, p.pending.workflow)

/-- All elements of the holding queue and the in-process list, in that order. -/
def DhtStore.holdingWorkflows (s : DhtStore A) : List (PendingValidationWithTimeout A) :=
  s.queuedHoldingWorkflows ++ s.inProcessHoldingWorkflows

/-- No two queued or in-process elements share a header and a workflow. -/
def HoldingQueueUnique (s : DhtStore A) : Prop :=
  (s.holdingWorkflows.map holdingKey).Nodup

theorem hasSameHoldingWorkflow_eq_false {queue : List (PendingValidationWithTimeout A)}
    {pending : PendingValidation A} :
    DhtStore.hasSameHoldingWorkflow queue pending = false ↔
      ∀ c ∈ queue, holdingKey c ≠ (pending.entryWithHeader.header, pending.workflow) := by
  simp [DhtStore.hasSameHoldingWorkflow, List.any_eq_false, holdingKey]

/-- `x` is the element of `l` whose pending validation is `item`, and no other element of
`l` or of `others` has it. -/
def OnlyMatch (item : PendingValidation A) (l others : List (PendingValidationWithTimeout A))
    (pre : List (PendingValidationWithTimeout A)) (x : PendingValidationWithTimeout A)
    (post : List (PendingValidationWithTimeout A)) : Prop :=
  l = pre ++ x :: post ∧ x.pending = item ∧ ∀ y ∈ pre ++ post ++ others, y.pending ≠ item

/-- What `RemoveQueuedHoldingWorkflow(state, item)` is for: `Processing` moves the one
element holding `item` from the queue to the back of the in-process list, `Waiting` moves
it back to the back of the queue with a new timeout, `Done` deletes it; with no such
element in the list it is looked for in, nothing changes. -/
def QueueMove (s : DhtStore A) (now : Nat) :
    HoldingWorkflowQueueing → PendingValidation A → DhtStore A → Prop
  | .processing, item, s' =>
    (∃ pre x post, OnlyMatch item s.queuedHoldingWorkflows s.inProcessHoldingWorkflows pre x post ∧
      s'.queuedHoldingWorkflows = pre ++ post ∧
      s'.inProcessHoldingWorkflows = s.inProcessHoldingWorkflows ++ [x]) ∨
    ((∀ y ∈ s.queuedHoldingWorkflows, y.pending ≠ item) ∧ s' = s)
  | .waiting delay, item, s' =>
    (∃ pre x post, OnlyMatch item s.inProcessHoldingWorkflows s.queuedHoldingWorkflows pre x post ∧
      s'.inProcessHoldingWorkflows = pre ++ post ∧
      s'.queuedHoldingWorkflows =
        s.queuedHoldingWorkflows ++ [{ x with timeout := some ⟨now, delay⟩ }]) ∨
    ((∀ y ∈ s.inProcessHoldingWorkflows, y.pending ≠ item) ∧ s' = s)
  | .done, item, s' =>
    (∃ pre x post, OnlyMatch item s.inProcessHoldingWorkflows s.queuedHoldingWorkflows pre x post ∧
      s'.inProcessHoldingWorkflows = pre ++ post ∧
      s'.queuedHoldingWorkflows = s.queuedHoldingWorkflows) ∨
    ((∀ y ∈ s.inProcessHoldingWorkflows, y.pending ≠ item) ∧ s' = s)

section Lemmas

variable {S : Type} {w : ShardWrites S A} {hash : CasContent A → A}
  {aspectHash : EntryAspect A → A}

omit [DecidableEq A] in
@[simp] theorem DhtStore.holdingWorkflows_markHoldAspectComplete (s : DhtStore A)
    (id : HoldAspectAttemptId) (result : Except HolochainError Unit) :
    (s.markHoldAspectComplete id result).holdingWorkflows = s.holdingWorkflows := rfl

theorem DhtStore.holdingWorkflows_of_markAspectAsHeld {s s' : DhtStore A}
    {aspect : EntryAspect A} (h : s.markAspectAsHeld hash aspectHash aspect = .ok s') :
    s'.holdingWorkflows = s.holdingWorkflows := by
  unfold DhtStore.markAspectAsHeld at h
  obtain ⟨m, -, hs'⟩ := Except.bind_eq_ok.mp h
  cases hs'
  rfl

/-- Holding an aspect touches neither queue. -/
theorem Dht.holdingWorkflows_of_reduceHoldAspect {st st' : S} {s s' : DhtStore A}
    {aspect : EntryAspect A} {id : HoldAspectAttemptId}
    (h : reduceHoldAspect w hash aspectHash st s aspect id = .ok (st', some s')) :
    s'.holdingWorkflows = s.holdingWorkflows := by
  unfold reduceHoldAspect at h
  split at h
  · obtain ⟨s₁, hheld, hs'⟩ := Except.bind_eq_ok.mp h
    cases hs'
    simpa using DhtStore.holdingWorkflows_of_markAspectAsHeld hheld
  · cases h
    rfl
  · cases h

omit [DecidableEq A] in
theorem Dht.reduceCommitEntry_eq_some {st : S} {s s' : DhtStore A} {entry : Entry A}
    (h : (reduceCommitEntry w st s entry).2 = some s') : s' = s := by
  unfold reduceCommitEntry at h
  split at h
  · exact (Option.some.inj h).symm
  · cases h

/-- A pending validation is queued only when no element has its header and workflow. -/
theorem Dht.reduceQueueHoldingWorkflow_eq_some {s s' : DhtStore A} {pending : PendingValidation A}
    {delay : Option (Nat × Nat)}
    (h : reduceQueueHoldingWorkflow hash aspectHash s pending delay = .ok (some s')) :
    (∀ c ∈ s.holdingWorkflows, holdingKey c ≠ (pending.entryWithHeader.header, pending.workflow)) ∧
      ∃ x, holdingKey x = (pending.entryWithHeader.header, pending.workflow) ∧
        s'.holdingWorkflows = s.queuedHoldingWorkflows ++ x :: s.inProcessHoldingWorkflows := by
  unfold reduceQueueHoldingWorkflow at h
  obtain ⟨aspect, -, h⟩ := Except.bind_eq_ok.mp h
  obtain ⟨held, -, h⟩ := Except.bind_eq_ok.mp h
  cases held
  · cases hq : s.hasSameQueuedHoldingWorfkow pending
    · cases hp : s.hasSameInProcessHoldingWorfkow pending
      · simp only [hq, hp, Bool.false_eq_true, if_false, Except.pure_eq_ok, Except.ok.injEq,
          Option.some.injEq] at h
        subst h
        refine ⟨?_, ⟨pending, delay.map fun (t, d) => ⟨t, d⟩⟩, rfl, ?_⟩
        · intro c hc
          rcases List.mem_append.mp hc with hc | hc
          · exact hasSameHoldingWorkflow_eq_false.mp hq c hc
          · exact hasSameHoldingWorkflow_eq_false.mp hp c hc
        · simp [DhtStore.holdingWorkflows]
      · simp [hq, hp] at h
    · simp [hq] at h
  · simp at h

theorem Dht.reducePrune_eq_some {s s' : DhtStore A} (h : reducePrune s = some s') :
    s'.holdingWorkflows =
      s.queuedHoldingWorkflows.uniqueBy pruneKey ++ s.inProcessHoldingWorkflows := by
  unfold reducePrune at h
  dsimp only at h
  split at h
  · cases h
    rfl
  · cases h

/-- A prune keeps, of the queued elements of every prune key, one. -/
theorem Dht.exists_pruneKey_of_reducePrune {s s' : DhtStore A} (h : reducePrune s = some s')
    {p : PendingValidationWithTimeout A} (hp : p ∈ s.queuedHoldingWorkflows) :
    ∃ q ∈ s'.queuedHoldingWorkflows, pruneKey q = pruneKey p := by
  unfold reducePrune at h
  dsimp only at h
  split at h
  · cases h
    exact List.exists_key_mem_uniqueBy pruneKey hp
  · cases h

/-- What one step of the DHT slice does to the store: nothing, a hold that keeps both
queues, a guarded enqueue, a queue move, or a prune. -/
theorem dhtStep_cases {st st' : S} {s s' : DhtStore A} {action : DhtAction A} {now : Nat}
    (h : DhtStep w hash aspectHash (st, s) (action, now) (st', s')) :
    s' = s ∨
      s'.holdingWorkflows = s.holdingWorkflows ∨
      (∃ pending delay, Dht.reduceQueueHoldingWorkflow hash aspectHash s pending delay =
        .ok (some s')) ∨
      (∃ state item, s' = s.updateQueuedHoldingWorkflow now state item) ∨
      Dht.reducePrune s = some s' := by
  unfold DhtStep DhtStore.reduce at h
  obtain ⟨⟨st₁, r⟩, hr, hx'⟩ := Except.map_eq_ok.mp h
  cases hx'
  cases r with
  | none => exact .inl rfl
  | some s₁ =>
    cases action with
    | commit entry =>
      exact .inl (Dht.reduceCommitEntry_eq_some (congrArg Prod.snd (Except.ok.inj hr)))
    | holdAspect aspect id => exact .inr (.inl (Dht.holdingWorkflows_of_reduceHoldAspect hr))
    | queueHoldingWorkflow pending delay =>
      obtain ⟨r, hq, hr⟩ := Except.map_eq_ok.mp hr
      cases hr
      exact .inr (.inr (.inl ⟨pending, delay, hq⟩))
    | removeQueuedHoldingWorkflow state item =>
      cases hr
      exact .inr (.inr (.inr (.inl ⟨state, item, rfl⟩)))
    | prune => exact .inr (.inr (.inr (.inr (congrArg Prod.snd (Except.ok.inj hr)))))

end Lemmas

/-! ### Hold attempts -/

section Hold

variable {S : Type} {w : ShardWrites S A} {hash : CasContent A → A}
  {aspectHash : EntryAspect A → A}

omit [DecidableEq A] in
/-- Only the `Content` arm returns early: the entry was stored, and writing its header
failed. The `LinkRemove` fold starts held and keeps a held or failed arm. -/
theorem Dht.holdAspectArm_abandoned {st st' : S} {aspect : EntryAspect A}
    (h : holdAspectArm w hash st aspect = (st', .abandoned)) :
    ∃ entry header st₁ e, aspect = .content entry header ∧
      w.storeEntry st entry = (st₁, .ok ()) ∧
      w.addHeaderForEntry st₁ entry header = (st', .error e) := by
  cases aspect with
  | content entry header =>
    simp only [holdAspectArm] at h
    split at h
    · rename_i st₁ hstore
      split at h
      · cases h
      · rename_i e hheader
        cases h
        exact ⟨entry, header, st₁, e, rfl, hstore, hheader⟩
    · cases h
  | linkRemove link linksToRemove header =>
    simp only [holdAspectArm] at h
    refine absurd (congrArg Prod.snd h) (List.foldlRecOn
      (motive := fun x : S × HoldArm => x.2 ≠ .abandoned) linksToRemove _ (by simp) ?_)
    intro x hx a _
    split <;> simp_all [holdError]
  | header _ => simp [holdAspectArm] at h
  | linkAdd link header =>
    simp only [holdAspectArm] at h
    split at h <;> simp [holdError] at h
  | update entry header =>
    simp only [holdAspectArm] at h
    split at h
    · split at h <;> simp [holdError] at h
    · simp at h
  | deletion header =>
    simp only [holdAspectArm] at h
    split at h
    · split at h <;> simp [holdError] at h
    · simp at h

/-- What `reduce_hold_aspect` returns when it does not panic: a held aspect is marked as
held and its attempt recorded as `Ok(())`, a failed write records its error on the old
store, and the early return records nothing. -/
theorem Dht.reduceHoldAspect_eq_ok {st st' : S} {s : DhtStore A} {aspect : EntryAspect A}
    {id : HoldAspectAttemptId} {r : Option (DhtStore A)}
    (h : reduceHoldAspect w hash aspectHash st s aspect id = .ok (st', r)) :
    (∃ s₁, holdAspectArm w hash st aspect = (st', .held) ∧
        s.markAspectAsHeld hash aspectHash aspect = .ok s₁ ∧
        r = some (s₁.markHoldAspectComplete id (.ok ()))) ∨
      (∃ e, holdAspectArm w hash st aspect = (st', .failed e) ∧
        r = some (s.markHoldAspectComplete id (.error e))) ∨
      (holdAspectArm w hash st aspect = (st', .abandoned) ∧ r = none) := by
  unfold reduceHoldAspect at h
  split at h
  · rename_i st₁ harm
    obtain ⟨s₁, hheld, hr⟩ := Except.bind_eq_ok.mp h
    cases hr
    exact .inl ⟨s₁, harm, hheld, rfl⟩
  · rename_i st₁ e harm
    cases h
    exact .inr (.inl ⟨e, harm, rfl⟩)
  · rename_i st₁ harm
    cases h
    exact .inr (.inr ⟨harm, rfl⟩)

/-- A `HoldAspect` whose `Content` entry is stored but whose header cannot be written
leaves the store as it was: `add_header_for_entry(..).ok()?` returns `None` from the
reducer before the attempt is recorded, so the attempt `id` gets no result. -/
theorem hold_content_unrecorded_on_header_failure (w : ShardWrites S A)
    (hash : CasContent A → A) (aspectHash : EntryAspect A → A) (st : S) (s : DhtStore A)
    (entry : Entry A) (header : ChainHeader A) (id : HoldAspectAttemptId) (e : HolochainError)
    (now : Nat) :
    DhtStore.reduce ⟨fun st _ => (st, .ok ()), fun st _ _ => (st, .error e), w.addRemoveLink,
        w.updateEntry, w.removeEntry⟩ hash aspectHash st s
      (.holdAspect (.content entry header) id) now = .ok (st, s) := by
  rfl

end Hold

/-! ### What a step does to the storages -/

section Storages

variable {S : Type} {w : ShardWrites S A} {hash : CasContent A → A}
  {aspectHash : EntryAspect A → A}

variable (A) in
/-- Writes that each relate the storages before them to those after them by a reflexive and
transitive relation `R`, also when they fail. -/
structure ShardWrites.Keeps (w : ShardWrites S A) (R : S → S → Prop) : Prop where
  refl : ∀ st, R st st
  trans : ∀ {st₁ st₂ st₃}, R st₁ st₂ → R st₂ st₃ → R st₁ st₃
  storeEntry : ∀ st entry, R st (w.storeEntry st entry).1
  addHeaderForEntry : ∀ st entry header, R st (w.addHeaderForEntry st entry header).1
  addRemoveLink : ∀ st link address m header, R st (w.addRemoveLink st link address m header).1
  updateEntry : ∀ st oldAddress newAddress, R st (w.updateEntry st oldAddress newAddress).1
  removeEntry : ∀ st oldAddress deletionAddress,
    R st (w.removeEntry st oldAddress deletionAddress).1

omit [DecidableEq A] in
/-- The writes of a hold arm keep what each write keeps. -/
theorem Dht.holdAspectArm_keeps {R : S → S → Prop} (hw : w.Keeps A R) (st : S)
    (aspect : EntryAspect A) : R st (holdAspectArm w hash st aspect).1 := by
  cases aspect with
  | content entry header =>
    have hstore := hw.storeEntry st entry
    simp only [holdAspectArm]
    split
    · rename_i st₁ hst₁
      rw [hst₁] at hstore
      have hheader := hw.addHeaderForEntry st₁ entry header
      split <;> (rename_i hst₂; rw [hst₂] at hheader; exact hw.trans hstore hheader)
    · rename_i hst₁
      rw [hst₁] at hstore
      exact hstore
  | header _ => exact hw.refl st
  | linkAdd link header =>
    have hlink := hw.addRemoveLink st link ((Entry.linkAdd link).address hash) .add header
    simp only [holdAspectArm]
    split <;> (rename_i hst₁; rw [hst₁] at hlink; exact hlink)
  | linkRemove link linksToRemove header =>
    simp only [holdAspectArm]
    -- the fold relates the storages before it to those after each removal
    refine List.foldlRecOn (motive := fun x : S × HoldArm => R st x.1) linksToRemove _
      (hw.refl st) ?_
    rintro ⟨st₁, arm⟩ hst₁ linkAddress -
    have hlink := hw.addRemoveLink st₁ link linkAddress .remove header
    dsimp only
    split <;> (rename_i hst₂; rw [hst₂] at hlink; exact hw.trans hst₁ hlink)
  | update entry header =>
    simp only [holdAspectArm]
    split
    · rename_i crudLink _
      have hupdate := hw.updateEntry st crudLink (entry.address hash)
      split <;> (rename_i hst₁; rw [hst₁] at hupdate; exact hupdate)
    · exact hw.refl st
  | deletion header =>
    simp only [holdAspectArm]
    split
    · rename_i crudLink _
      have hremove := hw.removeEntry st crudLink header.entryAddress
      split <;> (rename_i hst₁; rw [hst₁] at hremove; exact hremove)
    · exact hw.refl st

/-- A step keeps what every write keeps: the storages after it are those of a commit's
write, of a hold arm's writes, or the ones before. -/
theorem Dht.keeps_of_step {R : S → S → Prop} (hw : w.Keeps A R) {x x' : S × DhtStore A}
    {l : DhtAction A × Nat} (h : DhtStep w hash aspectHash x l x') : R x.1 x'.1 := by
  obtain ⟨st, s⟩ := x
  obtain ⟨action, now⟩ := l
  unfold DhtStep DhtStore.reduce at h
  obtain ⟨⟨st₁, r⟩, hr, hx'⟩ := Except.map_eq_ok.mp h
  cases hx'
  cases action with
  | commit entry =>
    have hcommit := Except.ok.inj hr
    have hstore := hw.storeEntry st entry
    unfold Dht.reduceCommitEntry at hcommit
    split at hcommit <;> (rename_i hst; rw [hst] at hstore; cases hcommit; exact hstore)
  | holdAspect aspect id =>
    have harm : R st (holdAspectArm w hash st aspect).1 := Dht.holdAspectArm_keeps hw st aspect
    rcases Dht.reduceHoldAspect_eq_ok hr with ⟨_, hheld, -⟩ | ⟨_, hfailed, -⟩ | ⟨habandoned, -⟩
    · rw [hheld] at harm; exact harm
    · rw [hfailed] at harm; exact harm
    · rw [habandoned] at harm; exact harm
  | queueHoldingWorkflow pending delay =>
    obtain ⟨_, -, hr'⟩ := Except.map_eq_ok.mp hr
    cases hr'
    exact hw.refl st
  | removeQueuedHoldingWorkflow state item =>
    cases hr
    exact hw.refl st
  | prune =>
    cases hr
    exact hw.refl st

/-- Over every run, the storages are related to those at its start. -/
theorem Dht.keeps_of_reachable {R : S → S → Prop} (hw : w.Keeps A R) {x₀ x : S × DhtStore A}
    (h : Run.Reachable (DhtStep w hash aspectHash) x₀ x) : R x₀.1 x.1 := by
  induction h with
  | init => exact hw.refl _
  | step l _ hs ih => exact hw.trans ih (Dht.keeps_of_step hw hs)

end Storages

/-! ### Uniqueness of the holding queue -/

omit [DecidableEq A] in
theorem holdingKey_eq_of_pending {x y : PendingValidationWithTimeout A}
    (h : y.pending = x.pending) : holdingKey y = holdingKey x := by
  simp [holdingKey, h]

omit [DecidableEq A] in
/-- Under distinct keys, an element is the only one with its pending validation. -/
theorem pending_ne_of_nodup {l rest : List (PendingValidationWithTimeout A)}
    {x : PendingValidationWithTimeout A} (hperm : l.Perm (x :: rest))
    (hnd : (l.map holdingKey).Nodup) : ∀ y ∈ rest, y.pending ≠ x.pending := by
  have hcons : ((x :: rest).map holdingKey).Nodup := (hperm.map holdingKey).nodup_iff.mp hnd
  rw [List.map_cons, List.nodup_cons] at hcons
  intro y hy hyx
  exact hcons.1 (List.mem_map.mpr ⟨y, hy, holdingKey_eq_of_pending hyx⟩)

/-- An enqueue keeps the keys distinct: its guard rejects every key already present. -/
theorem holdingQueueUnique_of_queue {hash : CasContent A → A}
    {aspectHash : EntryAspect A → A} {s s' : DhtStore A} {pending : PendingValidation A}
    {delay : Option (Nat × Nat)} (hu : HoldingQueueUnique s)
    (h : Dht.reduceQueueHoldingWorkflow hash aspectHash s pending delay = .ok (some s')) :
    HoldingQueueUnique s' := by
  obtain ⟨hfresh, x, hx, hs'⟩ := Dht.reduceQueueHoldingWorkflow_eq_some h
  unfold HoldingQueueUnique
  rw [hs']
  refine (List.perm_middle.map holdingKey).nodup_iff.mpr ?_
  rw [List.map_cons, List.nodup_cons]
  refine ⟨fun hmem => ?_, hu⟩
  obtain ⟨c, hc, hck⟩ := List.mem_map.mp hmem
  exact hfresh c hc (hck.trans hx)

/-- A prune keeps a sublist of the queue. -/
theorem holdingQueueUnique_of_prune {s s' : DhtStore A} (hu : HoldingQueueUnique s)
    (h : Dht.reducePrune s = some s') : HoldingQueueUnique s' := by
  unfold HoldingQueueUnique
  rw [Dht.reducePrune_eq_some h]
  exact hu.sublist (((List.uniqueBy_sublist Dht.pruneKey _).append_right _).map holdingKey)

/-- The element `update_queued_holding_workflow` finds in `l` is, under distinct keys in
`l` and `others`, the only one holding its pending validation. -/
theorem onlyMatch_of_removeFirst? {l others rest : List (PendingValidationWithTimeout A)}
    {item : PendingValidation A} {x : PendingValidationWithTimeout A}
    (hnd : ((l ++ others).map holdingKey).Nodup)
    (h : l.removeFirst? (·.pending == item) = some (x, rest)) :
    ∃ pre post, OnlyMatch item l others pre x post ∧ rest = pre ++ post := by
  obtain ⟨pre, post, hl, -, hx, hrest⟩ := List.removeFirst?_eq_some_split h
  have hxi : x.pending = item := by simpa using hx
  refine ⟨pre, post, ⟨hl, hxi, ?_⟩, hrest⟩
  have hperm : (l ++ others).Perm (x :: (pre ++ post ++ others)) := by
    rw [hl, List.append_assoc, List.cons_append, List.append_assoc]
    exact List.perm_middle
  intro y hy
  rw [← hxi]
  exact pending_ne_of_nodup hperm hnd y hy

theorem pending_ne_of_removeFirst?_eq_none {l : List (PendingValidationWithTimeout A)}
    {item : PendingValidation A} (h : l.removeFirst? (·.pending == item) = none) :
    ∀ y ∈ l, y.pending ≠ item := by
  intro y hy hyi
  have hy' := List.removeFirst?_eq_none_forall h y hy
  simp [hyi] at hy'

/-- The search of `update_queued_holding_workflow` in `l`, with `others` the other list:
it finds the one element holding `item` and leaves the rest in order, or nothing holds it. -/
theorem removeFirst?_pending_cases {l others : List (PendingValidationWithTimeout A)}
    (hnd : ((l ++ others).map holdingKey).Nodup) (item : PendingValidation A) :
    (∃ pre x post, OnlyMatch item l others pre x post ∧
      l.removeFirst? (·.pending == item) = some (x, pre ++ post)) ∨
    ((∀ y ∈ l, y.pending ≠ item) ∧ l.removeFirst? (·.pending == item) = none) := by
  cases h : l.removeFirst? (·.pending == item) with
  | none => exact .inr ⟨pending_ne_of_removeFirst?_eq_none h, rfl⟩
  | some r =>
    obtain ⟨x, rest⟩ := r
    obtain ⟨pre, post, hmatch, rfl⟩ := onlyMatch_of_removeFirst? hnd h
    exact .inl ⟨pre, x, post, hmatch, rfl⟩

/-- On distinct keys, `update_queued_holding_workflow` makes the move it is for. -/
theorem queueMove_update {s : DhtStore A} (hu : HoldingQueueUnique s) (now : Nat)
    (state : HoldingWorkflowQueueing) (item : PendingValidation A) :
    QueueMove s now state item (s.updateQueuedHoldingWorkflow now state item) := by
  -- the in-process list is searched with the queue as the other list
  have hu' : ((s.inProcessHoldingWorkflows ++ s.queuedHoldingWorkflows).map holdingKey).Nodup :=
    (List.perm_append_comm.map holdingKey).nodup_iff.mp hu
  cases state with
  | processing =>
    rcases removeFirst?_pending_cases hu item with ⟨pre, x, post, hmatch, h⟩ | ⟨hne, h⟩ <;>
      simp only [DhtStore.updateQueuedHoldingWorkflow, h]
    · exact Or.inl ⟨pre, x, post, hmatch, rfl, rfl⟩
    · exact Or.inr ⟨hne, rfl⟩
  | waiting delay =>
    rcases removeFirst?_pending_cases hu' item with ⟨pre, x, post, hmatch, h⟩ | ⟨hne, h⟩ <;>
      simp only [DhtStore.updateQueuedHoldingWorkflow, h]
    · exact Or.inl ⟨pre, x, post, hmatch, rfl, rfl⟩
    · exact Or.inr ⟨hne, rfl⟩
  | done =>
    rcases removeFirst?_pending_cases hu' item with ⟨pre, x, post, hmatch, h⟩ | ⟨hne, h⟩ <;>
      simp only [DhtStore.updateQueuedHoldingWorkflow, h]
    · exact Or.inl ⟨pre, x, post, hmatch, rfl, rfl⟩
    · exact Or.inr ⟨hne, rfl⟩

omit [DecidableEq A] in
/-- A queue move only rearranges the elements, and renews one timeout. -/
theorem QueueMove.holdingQueueUnique {s s' : DhtStore A} {now : Nat}
    {state : HoldingWorkflowQueueing} {item : PendingValidation A}
    (hu : HoldingQueueUnique s) (h : QueueMove s now state item s') : HoldingQueueUnique s' := by
  unfold HoldingQueueUnique DhtStore.holdingWorkflows at hu ⊢
  cases state with
  | processing =>
    rcases h with ⟨pre, x, post, ⟨hq, -, -⟩, hq', hip'⟩ | ⟨-, rfl⟩
    · rw [hq', hip']
      rw [hq] at hu
      exact ((List.perm_move_back pre post _ x).map holdingKey).nodup_iff.mpr hu
    · exact hu
  | waiting delay =>
    rcases h with ⟨pre, x, post, ⟨hip, -, -⟩, hip', hq'⟩ | ⟨-, rfl⟩
    · rw [hq', hip']
      rw [hip] at hu
      -- the renewed timeout is not part of the key
      have hkeys : ((s.queuedHoldingWorkflows ++ [{ x with timeout := some ⟨now, delay⟩ }]) ++
          (pre ++ post)).map holdingKey =
          ((s.queuedHoldingWorkflows ++ [x]) ++ (pre ++ post)).map holdingKey := by
        simp [holdingKey]
      rw [hkeys]
      exact ((List.perm_move_front _ pre post x).map holdingKey).nodup_iff.mpr hu
    · exact hu
  | done =>
    rcases h with ⟨pre, x, post, ⟨hip, -, -⟩, hip', hq'⟩ | ⟨-, rfl⟩
    · rw [hq', hip']
      rw [hip] at hu
      have hsub : (pre ++ post).Sublist (pre ++ x :: post) :=
        (List.sublist_cons_self x post).append_left pre
      exact hu.sublist ((hsub.append_left _).map holdingKey)
    · exact hu

section Run

variable {S : Type} {w : ShardWrites S A} {hash : CasContent A → A}
  {aspectHash : EntryAspect A → A}

theorem holdingQueueUnique_step {x x' : S × DhtStore A} {l : DhtAction A × Nat}
    (h : DhtStep w hash aspectHash x l x') (hu : HoldingQueueUnique x.2) :
    HoldingQueueUnique x'.2 := by
  obtain ⟨st, s⟩ := x
  obtain ⟨st', s'⟩ := x'
  obtain ⟨action, now⟩ := l
  rcases dhtStep_cases h with rfl | hkeep | ⟨pending, delay, hq⟩ | ⟨state, item, rfl⟩ | hprune
  · exact hu
  · unfold HoldingQueueUnique
    rw [hkeep]
    exact hu
  · exact holdingQueueUnique_of_queue hu hq
  · exact (queueMove_update hu now state item).holdingQueueUnique hu
  · exact holdingQueueUnique_of_prune hu hprune

theorem reachable_holdingQueueUnique {st₀ : S} {x : S × DhtStore A}
    (hx : Run.Reachable (DhtStep w hash aspectHash) (st₀, DhtStore.new) x) :
    HoldingQueueUnique x.2 := by
  refine Run.Reachable.invariant (P := fun x => HoldingQueueUnique x.2) ?_ ?_ hx
  · exact List.nodup_nil
  · intro x l x' hu h
    exact holdingQueueUnique_step h hu

/-- `RemoveQueuedHoldingWorkflow` always steps, to the store
`update_queued_holding_workflow` makes, with the storages untouched. -/
theorem dhtStep_removeQueued_iff {x x' : S × DhtStore A} {state : HoldingWorkflowQueueing}
    {item : PendingValidation A} {now : Nat} :
    DhtStep w hash aspectHash x (.removeQueuedHoldingWorkflow state item, now) x' ↔
      x' = (x.1, x.2.updateQueuedHoldingWorkflow now state item) := by
  simp [DhtStep, DhtStore.reduce, DhtStore.reduceAction, Dht.reduceRemoveQueuedHoldingWorkflow,
    eq_comm]

/-- The holding queue over every run of the DHT slice: from the new store, through
commits, holds, enqueues, queue moves and prunes with any pending validations and any
outcome of the storage writes, no two queued or in-process elements share a header and a
workflow; and every `RemoveQueuedHoldingWorkflow` moves the one element holding its pending
validation, or changes nothing when the list it searches has none. -/
theorem holding_queue_unique_and_moves {st₀ : S} {x : S × DhtStore A}
    (hx : Run.Reachable (DhtStep w hash aspectHash) (st₀, DhtStore.new) x) :
    HoldingQueueUnique x.2 ∧
      ∀ (state : HoldingWorkflowQueueing) (item : PendingValidation A) (now : Nat)
        (x' : S × DhtStore A),
        DhtStep w hash aspectHash x (.removeQueuedHoldingWorkflow state item, now) x' →
          x'.1 = x.1 ∧ QueueMove x.2 now state item x'.2 := by
  have hu := reachable_holdingQueueUnique hx
  refine ⟨hu, ?_⟩
  intro state item now x' hstep
  rw [dhtStep_removeQueued_iff] at hstep
  subst hstep
  exact ⟨rfl, queueMove_update hu now state item⟩

end Run

/-- Two pending validations of `hold_entry` for one entry, under headers that differ in
their timestamp (the same content authored twice): both pass the enqueue guard, and a
prune drops the second, though no other element has its header and workflow. -/
theorem prune_drops_pending_of_other_header :
    ∃ (x x' : Unit × DhtStore Nat) (p : PendingValidationWithTimeout Nat),
      Run.Reachable (DhtStep ⟨fun st _ => (st, .ok ()), fun st _ _ => (st, .ok ()),
          fun st link _ _ _ => (st, .ok link.base), fun st _ a => (st, .ok a),
          fun st a _ => (st, .ok a)⟩ (fun _ => 0) (fun _ => 0)) ((), DhtStore.new) x ∧
      DhtStep ⟨fun st _ => (st, .ok ()), fun st _ _ => (st, .ok ()),
          fun st link _ _ _ => (st, .ok link.base), fun st _ a => (st, .ok a),
          fun st a _ => (st, .ok a)⟩ (fun _ => 0) (fun _ => 0) x (.prune, 0) x' ∧
      p ∈ x.2.queuedHoldingWorkflows ∧ p ∉ x'.2.queuedHoldingWorkflows ∧
      ∀ q ∈ x.2.holdingWorkflows, q ≠ p → holdingKey q ≠ holdingKey p := by
  let header : ChainHeader Nat := ⟨.deletion, 0, [], none, none, none, 0⟩
  let p₁ : PendingValidationWithTimeout Nat := ⟨⟨⟨.deletion 0, header⟩, [], .holdEntry, 0⟩, none⟩
  let p₂ : PendingValidationWithTimeout Nat :=
    ⟨⟨⟨.deletion 0, { header with timestamp := 1 }⟩, [], .holdEntry, 1⟩, none⟩
  refine ⟨((), { DhtStore.new with queuedHoldingWorkflows := [p₁, p₂] }),
    ((), { DhtStore.new with queuedHoldingWorkflows := [p₁] }), p₂, ?_, rfl, ?_, ?_, ?_⟩
  · -- the second enqueue finds no element with its header
    exact .step (.queueHoldingWorkflow p₂.pending none, 0)
      (.step (.queueHoldingWorkflow p₁.pending none, 0) .init rfl) rfl
  · simp
  · simp [p₁, p₂]
  · simp [DhtStore.holdingWorkflows, DhtStore.new, holdingKey, p₁, p₂, header]

/-- The pending validation of holding `Entry::Deletion(0)` under a header of timestamp `t`. -/
def holdDeletion (t : Nat) : PendingValidationWithTimeout Nat :=
  ⟨⟨⟨.deletion 0, ⟨.deletion, 0, [], none, none, none, t⟩⟩, [], .holdEntry, t⟩, none⟩

/-- Two pending validations queued, under two headers, and the first then moved to in process:
the queue is unique there, and every further move is one of the moves the theorem lists. -/
theorem holding_queue_unique_and_moves_queued :
    Run.Reachable (DhtStep ⟨fun st _ => (st, .ok ()), fun st _ _ => (st, .ok ()),
          fun st link _ _ _ => (st, .ok link.base), fun st _ a => (st, .ok a),
          fun st a _ => (st, .ok a)⟩ (fun _ => 0) (fun _ => 0)) ((), DhtStore.new)
        ((), { DhtStore.new with
          queuedHoldingWorkflows := [holdDeletion 1], inProcessHoldingWorkflows := [holdDeletion 0] }) ∧
    HoldingQueueUnique ({ DhtStore.new with
        queuedHoldingWorkflows := [holdDeletion 1],
        inProcessHoldingWorkflows := [holdDeletion 0] } : DhtStore Nat) ∧
      ∀ (state : HoldingWorkflowQueueing) (item : PendingValidation Nat) (now : Nat)
        (x' : Unit × DhtStore Nat),
        DhtStep ⟨fun st _ => (st, .ok ()), fun st _ _ => (st, .ok ()),
            fun st link _ _ _ => (st, .ok link.base), fun st _ a => (st, .ok a),
            fun st a _ => (st, .ok a)⟩ (fun _ => 0) (fun _ => 0)
          ((), { DhtStore.new with
            queuedHoldingWorkflows := [holdDeletion 1],
            inProcessHoldingWorkflows := [holdDeletion 0] })
          (.removeQueuedHoldingWorkflow state item, now) x' →
          x'.1 = () ∧ QueueMove { DhtStore.new with
            queuedHoldingWorkflows := [holdDeletion 1],
            inProcessHoldingWorkflows := [holdDeletion 0] } now state item x'.2 := by
  -- both enqueues pass the guard, and the move takes the first element into process
  have hx : Run.Reachable (DhtStep ⟨fun st _ => (st, .ok ()), fun st _ _ => (st, .ok ()),
        fun st link _ _ _ => (st, .ok link.base), fun st _ a => (st, .ok a),
        fun st a _ => (st, .ok a)⟩ (fun _ => 0) (fun _ => 0)) ((), DhtStore.new)
      ((), { DhtStore.new with
        queuedHoldingWorkflows := [holdDeletion 1], inProcessHoldingWorkflows := [holdDeletion 0] }) :=
    .step (.removeQueuedHoldingWorkflow .processing (holdDeletion 0).pending, 2)
      (.step (.queueHoldingWorkflow (holdDeletion 1).pending none, 1)
        (.step (.queueHoldingWorkflow (holdDeletion 0).pending none, 0) .init rfl) rfl) rfl
  exact ⟨hx, holding_queue_unique_and_moves hx⟩

end Holochain
