/-
The DHT state slice (`dht/dht_store.rs`): the aspects the node holds, the results of hold
attempts, and the holding queue of pending validations, with the entry aspects of
`core_types/network/entry_aspect.rs` and the aspect map of `net/aspect_map.rs`.

The shard storages (`content_storage`, `meta_storage`) sit behind shared references: every
clone of a `DhtStore` writes to the same ones. They are therefore not a field here; the
reducers (`Holochain.Core.Dht.Reducers`) thread them beside the store.

The holding queue is two `VecDeque`s, lists here; `update_queued_holding_workflow` moves
an element between them with `List.removeFirst?` (`position` then `remove`).
-/
import Mathlib.Data.Finmap
import Holochain.Core.ChainStore
import Holochain.Lib.Acyclic
import Holochain.Lib.Deque
import Holochain.Lib.Except

namespace Holochain

variable {A : Type} [DecidableEq A]

/-- `ValidatingWorkflow`. -/
inductive ValidatingWorkflow
  | holdEntry
  | holdLink
  | removeLink
  | updateEntry
  | removeEntry
  deriving DecidableEq, Repr

variable (A) in
/-- `EntryWithHeader`. -/
structure EntryWithHeader where
  entry : Entry A
  header : ChainHeader A
  deriving DecidableEq, Repr

variable (A) in
/-- `PendingValidationStruct` (a `PendingValidation` is an `Arc` of one, compared by
content). The `uuid`, a `ProcessUniqueId`, is a number. -/
structure PendingValidation where
  entryWithHeader : EntryWithHeader A
  dependencies : List A
  workflow : ValidatingWorkflow
  uuid : Nat
  deriving DecidableEq, Repr

/-- `ValidationTimeout`: system time of dispatch and delay. -/
structure ValidationTimeout where
  timeOfDispatch : Nat
  delay : Nat
  deriving DecidableEq, Repr

variable (A) in
/-- `PendingValidationWithTimeout`: an element of the holding queue. -/
structure PendingValidationWithTimeout where
  pending : PendingValidation A
  timeout : Option ValidationTimeout
  deriving DecidableEq, Repr

/-- `HoldingWorkflowQueueing`: where `RemoveQueuedHoldingWorkflow` moves an element. -/
inductive HoldingWorkflowQueueing
  | processing
  | waiting (delay : Nat)
  | done
  deriving DecidableEq, Repr

/-! ### Entry aspects and the aspect map -/

variable (A) in
/-- `EntryAspect`. -/
inductive EntryAspect
  | content (entry : Entry A) (header : ChainHeader A)
  | header (header : ChainHeader A)
  | linkAdd (link : LinkData A) (header : ChainHeader A)
  | linkRemove (link : LinkData A) (linksToRemove : List A) (header : ChainHeader A)
  | update (entry : Entry A) (header : ChainHeader A)
  | deletion (header : ChainHeader A)
  deriving DecidableEq, Repr

namespace EntryAspect

/-- `EntryAspect::entry_address`: the entry the aspect is about. The error's text ends with
the header's `Debug` form, not modelled. -/
def entryAddress (hash : CasContent A → A) : EntryAspect A → Except HolochainError A
  | content _ h => .ok h.entryAddress
  | linkAdd l _ => .ok l.base
  | linkRemove l _ _ => .ok l.base
  | update _ h | deletion h =>
    match h.linkUpdateDelete with
    | some a => .ok a
    | none => .error (.errorGeneric
        "no link_update_delete on Update/Deletion entry header. Header: ")
  | header h => .ok (h.address hash)

/-- `From<PendingValidationStruct> for EntryAspect`. A link workflow whose entry is not a
link panics in `unwrap_to!`. -/
def ofPending (p : PendingValidation A) : Except String (EntryAspect A) :=
  let ewh := p.entryWithHeader
  match p.workflow, ewh.entry with
  | .holdEntry, e => .ok (content e ewh.header)
  | .holdLink, .linkAdd l => .ok (linkAdd l ewh.header)
  | .holdLink, _ => .error "unwrap_to! Entry::LinkAdd"
  | .removeLink, .linkRemove l ls => .ok (linkRemove l ls ewh.header)
  | .removeLink, _ => .error "unwrap_to! Entry::LinkRemove"
  | .updateEntry, e => .ok (update e ewh.header)
  | .removeEntry, _ => .ok (deletion ewh.header)

end EntryAspect

/-! ### Pending validations from aspects (`dht/pending_validations.rs`) -/

namespace EntryWithHeader

variable (hash : CasContent A → A)

/-- `EntryWithHeader::try_from_entry_and_header`: the header must name the entry. -/
def tryFromEntryAndHeader (entry : Entry A) (header : ChainHeader A) :
    Except HolochainError (EntryWithHeader A) :=
  if hash (.entry entry) ≠ header.entryAddress then
    .error (.validationFailed "Entry/Header mismatch")
  else .ok ⟨entry, header⟩

/-- `get_validation_dependencies`: the addresses that must be validated first. -/
def getValidationDependencies (ewh : EntryWithHeader A) : List A :=
  match ewh.entry with
  | .app _ _ => ewh.header.linkUpdateDelete.toList
  | .linkAdd l | .linkRemove l _ => [l.base, l.target]
  | .chainHeader h => h.link.toList
  | .deletion deleted => [deleted]
  | _ => []

end EntryWithHeader

namespace PendingValidation

/-- `PendingValidationStruct::new`, with `uuid` the fresh `ProcessUniqueId`. -/
def new (ewh : EntryWithHeader A) (workflow : ValidatingWorkflow) (uuid : Nat) :
    PendingValidation A :=
  ⟨ewh, ewh.getValidationDependencies, workflow, uuid⟩

variable (hash : CasContent A → A) (uuid : Nat)

/-- `TryFrom<EntryAspect> for PendingValidationStruct`: the workflow that validates the
aspect, over the entry it carries or, for a deletion, rebuilds from the header. -/
def tryFromAspect : EntryAspect A → Except HolochainError (PendingValidation A)
  | .content entry header =>
    (new · .holdEntry uuid) <$> EntryWithHeader.tryFromEntryAndHeader hash entry header
  | .header _ => .error (.notImplemented "EntryAspect::Header")
  | .linkAdd link header =>
    (new · .holdLink uuid) <$> EntryWithHeader.tryFromEntryAndHeader hash (.linkAdd link) header
  | .linkRemove link links header =>
    (new · .removeLink uuid) <$>
      EntryWithHeader.tryFromEntryAndHeader hash (.linkRemove link links) header
  | .update entry header =>
    (new · .updateEntry uuid) <$> EntryWithHeader.tryFromEntryAndHeader hash entry header
  | .deletion header =>
    match header.linkUpdateDelete with
    | none => .error (.validationFailed "Deletion header is missing deletion link")
    | some deleted =>
      (new · .removeEntry uuid) <$>
        EntryWithHeader.tryFromEntryAndHeader hash (.deletion deleted) header

theorem tryFromEntryAndHeader_eq_ok {entry : Entry A} {header : ChainHeader A}
    {ewh : EntryWithHeader A}
    (h : EntryWithHeader.tryFromEntryAndHeader hash entry header = .ok ewh) :
    ewh = ⟨entry, header⟩ := by
  unfold EntryWithHeader.tryFromEntryAndHeader at h
  split at h
  · cases h
  · exact (Except.ok.inj h).symm

/-- The two conversions are inverse: a pending validation built from an aspect converts
back to that aspect, so the `unwrap_to!` of `From<PendingValidationStruct>` never fires on
one. -/
theorem ofPending_tryFromAspect {aspect : EntryAspect A} {p : PendingValidation A}
    (h : tryFromAspect hash uuid aspect = .ok p) : EntryAspect.ofPending p = .ok aspect := by
  cases aspect with
  | content entry header =>
    obtain ⟨ewh, hewh, rfl⟩ := Except.map_eq_ok.mp h
    rw [tryFromEntryAndHeader_eq_ok hash hewh]
    rfl
  | header _ => cases h
  | linkAdd link header =>
    obtain ⟨ewh, hewh, rfl⟩ := Except.map_eq_ok.mp h
    rw [tryFromEntryAndHeader_eq_ok hash hewh]
    rfl
  | linkRemove link links header =>
    obtain ⟨ewh, hewh, rfl⟩ := Except.map_eq_ok.mp h
    rw [tryFromEntryAndHeader_eq_ok hash hewh]
    rfl
  | update entry header =>
    obtain ⟨ewh, hewh, rfl⟩ := Except.map_eq_ok.mp h
    rw [tryFromEntryAndHeader_eq_ok hash hewh]
    rfl
  | deletion header =>
    cases hd : header.linkUpdateDelete with
    | none => simp [tryFromAspect, hd] at h
    | some deleted =>
      rw [tryFromAspect, hd] at h
      obtain ⟨ewh, hewh, rfl⟩ := Except.map_eq_ok.mp h
      rw [tryFromEntryAndHeader_eq_ok hash hewh]
      rfl

end PendingValidation

variable (A) in
/-- `AspectMap`: aspect hashes by entry address (`HashMap<EntryHash, HashSet<AspectHash>>`,
equal when their contents are). -/
abbrev AspectMap := Finmap (fun _ : A => Finset A)

namespace AspectMap

variable (hash : CasContent A → A) (aspectHash : EntryAspect A → A)

/-- `AspectMap::contains`. `aspectHash` is `AddressableContent::address` of an aspect; an
aspect without an entry address panics in `expect`. -/
def contains (m : AspectMap A) (aspect : EntryAspect A) : Except String Bool :=
  match aspect.entryAddress hash with
  | .error _ => .error "Could not get entry address from aspect"
  | .ok e => .ok (((m.lookup e).map fun set => decide (aspectHash aspect ∈ set)).getD false)

/-- Whether `contains` panics depends on the aspect alone: it answers exactly when the
aspect names its entry. -/
theorem exists_contains_eq_ok (m : AspectMap A) (aspect : EntryAspect A) :
    (∃ b, m.contains hash aspectHash aspect = .ok b) ↔ ∃ e, aspect.entryAddress hash = .ok e := by
  unfold contains
  cases aspect.entryAddress hash with
  | error _ => simp
  | ok e => simp

/-- `AspectMap::add`. -/
def add (m : AspectMap A) (aspect : EntryAspect A) : Except String (AspectMap A) :=
  match aspect.entryAddress hash with
  | .error _ => .error "Could not get entry address from aspect"
  | .ok e => .ok (m.insert e (insert (aspectHash aspect) ((m.lookup e).getD ∅)))

end AspectMap

/-! ### The store -/

/-- `HoldAspectAttemptId`: two `ProcessUniqueId`s. -/
abbrev HoldAspectAttemptId := Nat × Nat

variable (A) in
/-- `DhtStore`, without its shared storages. -/
structure DhtStore where
  holdingMap : AspectMap A
  holdingAttemptResults : AList (fun _ : HoldAspectAttemptId => Except HolochainError Unit)
  queuedHoldingWorkflows : List (PendingValidationWithTimeout A)
  inProcessHoldingWorkflows : List (PendingValidationWithTimeout A)

namespace DhtStore

/-- `DhtStore::new`. -/
def new : DhtStore A := ⟨∅, ∅, [], []⟩

/-- The test of `has_same_queued_holding_worfkow` and `has_same_in_process_holding_worfkow`
over one of the queues: an element with the same header and workflow. -/
def hasSameHoldingWorkflow (queue : List (PendingValidationWithTimeout A))
    (pending : PendingValidation A) : Bool :=
  queue.any fun current =>
    current.pending.entryWithHeader.header == pending.entryWithHeader.header &&
      current.pending.workflow == pending.workflow

/-- `DhtStore::has_same_queued_holding_worfkow`. -/
def hasSameQueuedHoldingWorfkow (s : DhtStore A) (pending : PendingValidation A) : Bool :=
  hasSameHoldingWorkflow s.queuedHoldingWorkflows pending

/-- `DhtStore::has_same_in_process_holding_worfkow`. -/
def hasSameInProcessHoldingWorfkow (s : DhtStore A) (pending : PendingValidation A) : Bool :=
  hasSameHoldingWorkflow s.inProcessHoldingWorkflows pending

/-- `DhtStore::update_queued_holding_workflow`, at system time `now`. An element is found
by full equality of its pending validation; when none is found the source logs an error
and changes nothing. -/
def updateQueuedHoldingWorkflow (s : DhtStore A) (now : Nat) :
    HoldingWorkflowQueueing → PendingValidation A → DhtStore A
  | .waiting delay, item =>
    match s.inProcessHoldingWorkflows.removeFirst? (·.pending == item) with
    | none => s
    | some (pending, rest) =>
      { s with
        inProcessHoldingWorkflows := rest
        queuedHoldingWorkflows :=
          s.queuedHoldingWorkflows ++ [{ pending with timeout := some ⟨now, delay⟩ }] }
  | .processing, item =>
    match s.queuedHoldingWorkflows.removeFirst? (·.pending == item) with
    | none => s
    | some (pending, rest) =>
      { s with
        queuedHoldingWorkflows := rest
        inProcessHoldingWorkflows := s.inProcessHoldingWorkflows ++ [pending] }
  | .done, item =>
    match s.inProcessHoldingWorkflows.removeFirst? (·.pending == item) with
    | none => s
    | some (_, rest) => { s with inProcessHoldingWorkflows := rest }

/-- `DhtStore::mark_hold_aspect_complete`. -/
def markHoldAspectComplete (s : DhtStore A) (id : HoldAspectAttemptId)
    (result : Except HolochainError Unit) : DhtStore A :=
  { s with holdingAttemptResults := s.holdingAttemptResults.insert id result }

/-- `DhtStore::mark_aspect_as_held`. -/
def markAspectAsHeld (hash : CasContent A → A) (aspectHash : EntryAspect A → A)
    (s : DhtStore A) (aspect : EntryAspect A) : Except String (DhtStore A) := do
  let m ← s.holdingMap.add hash aspectHash aspect
  return { s with holdingMap := m }

/-! ### The next queued element -/

variable (hash : CasContent A → A)

/-- The entry address of a queued element. -/
def entryAddress (p : PendingValidationWithTimeout A) : A :=
  hash (.entry p.pending.entryWithHeader.entry)

/-- `free_pending_filter` over the queue `pending`: none of the element's dependencies is the
entry address of a queued element. -/
def freePendingFilter (pending : List (PendingValidationWithTimeout A))
    (p : PendingValidationWithTimeout A) : Bool :=
  let uniquePending := pending.map (entryAddress hash)
  p.pending.dependencies.all fun depAddr => !uniquePending.contains depAddr

/-- The test `skip_while` makes at system time `now`: the element's delay has not passed since
its dispatch. `elapsed` fails for a dispatch after `now`, and the element is then not skipped. -/
def stillDelayed (now : Nat) (p : PendingValidationWithTimeout A) : Bool :=
  match p.timeout with
  | some t => decide (t.timeOfDispatch ≤ now) && decide (now - t.timeOfDispatch < t.delay)
  | none => false

/-- `DhtStore::next_queued_holding_workflow` at system time `now`: of the free elements, the
first after those still delayed, with its delay. -/
def nextQueuedHoldingWorkflow (s : DhtStore A) (now : Nat) :
    Option (PendingValidation A × Option Nat) :=
  (((s.queuedHoldingWorkflows.filter (freePendingFilter hash s.queuedHoldingWorkflows)).dropWhile
      (stillDelayed now)).map fun p => (p.pending, p.timeout.map (·.delay))).head?

/-- Element `p` depends on element `q`: `q`'s entry address is one of `p`'s dependencies. -/
def DependsOn (p q : PendingValidationWithTimeout A) : Prop :=
  entryAddress hash q ∈ p.pending.dependencies

variable {hash}

theorem freePendingFilter_eq_true {pending : List (PendingValidationWithTimeout A)}
    {p : PendingValidationWithTimeout A} :
    freePendingFilter hash pending p = true ↔
      ∀ d ∈ p.pending.dependencies, d ∉ pending.map (entryAddress hash) := by
  simp [freePendingFilter]

omit [DecidableEq A] in
/-- An element is free exactly when it depends on no queued element. -/
theorem free_iff_not_dependsOn {pending : List (PendingValidationWithTimeout A)}
    {p : PendingValidationWithTimeout A} :
    (∀ d ∈ p.pending.dependencies, d ∉ pending.map (entryAddress hash)) ↔
      ∀ q ∈ pending, ¬DependsOn hash p q := by
  simp only [List.mem_map, not_exists, not_and, DependsOn]
  constructor
  · intro h q hq hdep
    exact h _ hdep q hq rfl
  · rintro h d hd q hq rfl
    exact h q hq hd

/-- Without delayed elements, the next element is the first free one. -/
theorem nextQueuedHoldingWorkflow_of_not_delayed {s : DhtStore A} {now : Nat}
    (helapsed : ∀ p ∈ s.queuedHoldingWorkflows, stillDelayed now p = false) :
    s.nextQueuedHoldingWorkflow hash now =
      (s.queuedHoldingWorkflows.find? (freePendingFilter hash s.queuedHoldingWorkflows)).map
        fun p => (p.pending, p.timeout.map (·.delay)) := by
  rw [nextQueuedHoldingWorkflow, ← List.head?_filter]
  -- `skip_while` stops at once: the first free element is not delayed
  cases hfree : s.queuedHoldingWorkflows.filter (freePendingFilter hash s.queuedHoldingWorkflows) with
  | nil => rfl
  | cons p rest =>
    have hp : p ∈ s.queuedHoldingWorkflows :=
      (List.mem_filter.mp (hfree ▸ List.mem_cons_self : p ∈ _)).1
    rw [List.dropWhile_cons, if_neg (by simp [helapsed p hp])]
    rfl

/-- With no element delayed and no cycle among the dependencies of the queued elements, a
non-empty queue has a next element: the first that depends on no queued element and whose
delay has passed. A finite queue without dependency cycles has an element that depends on no
other. -/
theorem nextQueuedHoldingWorkflow_eq_first_free (s : DhtStore A) (now : Nat)
    (hne : s.queuedHoldingWorkflows ≠ [])
    (helapsed : ∀ p ∈ s.queuedHoldingWorkflows, stillDelayed now p = false)
    (hacyclic : ¬Graph.HasCycle (Graph.Within (DependsOn hash) s.queuedHoldingWorkflows)) :
    ∃ p, s.queuedHoldingWorkflows.find? (fun p => decide
        ((∀ d ∈ p.pending.dependencies, d ∉ s.queuedHoldingWorkflows.map (entryAddress hash)) ∧
          stillDelayed now p = false)) = some p ∧
      s.nextQueuedHoldingWorkflow hash now = some (p.pending, p.timeout.map (·.delay)) := by
  -- the code's filter is the predicate of the claim on every queued element
  have hpred : ∀ p ∈ s.queuedHoldingWorkflows,
      freePendingFilter hash s.queuedHoldingWorkflows p = decide
        ((∀ d ∈ p.pending.dependencies, d ∉ s.queuedHoldingWorkflows.map (entryAddress hash)) ∧
          stillDelayed now p = false) := by
    intro p hp
    simp only [helapsed p hp, and_true]
    exact Bool.eq_iff_iff.mpr (by rw [freePendingFilter_eq_true, decide_eq_true_iff])
  obtain ⟨a, ha, hnone⟩ := Graph.exists_no_succ_of_not_hasCycle hne hacyclic
  have hfree : freePendingFilter hash s.queuedHoldingWorkflows a = true :=
    freePendingFilter_eq_true.mpr (free_iff_not_dependsOn.mpr hnone)
  have hsome : (s.queuedHoldingWorkflows.find? (freePendingFilter hash s.queuedHoldingWorkflows)).isSome :=
    List.find?_isSome.mpr ⟨a, ha, hfree⟩
  obtain ⟨p, hp⟩ := Option.isSome_iff_exists.mp hsome
  refine ⟨p, ?_, ?_⟩
  · rw [← List.head?_filter, ← List.filter_congr hpred, List.head?_filter, hp]
  · rw [nextQueuedHoldingWorkflow_of_not_delayed helapsed, hp]
    rfl

/-- The queue of the source's `test_dependency_resolution_chain`, with addresses for entries:
the element for entry 1 depends on entry 2, which depends on entry 3. -/
def dependencyChainQueue : List (PendingValidationWithTimeout Nat) :=
  [1, 2, 3].map fun n =>
    ⟨⟨⟨.deletion n, ⟨.deletion, n, [], none, none, none, 0⟩⟩,
      if n < 3 then [n + 1] else [], .holdEntry, 0⟩, none⟩

/-- The address of an entry that is a deletion is the address it deletes. -/
def deletionHash : CasContent Nat → Nat
  | .entry (.deletion n) => n
  | _ => 0

/-- In the chain, the element that depends on nothing queued comes next. -/
theorem nextQueuedHoldingWorkflow_dependencyChain :
    ∃ p, dependencyChainQueue.find? (fun p => decide
        ((∀ d ∈ p.pending.dependencies, d ∉ dependencyChainQueue.map (entryAddress deletionHash)) ∧
          stillDelayed 0 p = false)) = some p ∧
      ({ DhtStore.new with queuedHoldingWorkflows := dependencyChainQueue } : DhtStore Nat).nextQueuedHoldingWorkflow
        deletionHash 0 = some (p.pending, p.timeout.map (·.delay)) := by
  refine nextQueuedHoldingWorkflow_eq_first_free
    { DhtStore.new with queuedHoldingWorkflows := dependencyChainQueue } 0 (by simp [dependencyChainQueue])
    (by simp [dependencyChainQueue, stillDelayed]) ?_
  -- each dependency is on a later entry, so the entry address rises along them
  refine Graph.not_hasCycle_of_lt (f := fun p => 4 - entryAddress deletionHash p) ?_
  rintro p q ⟨hp, hq, hpq⟩
  simp only [dependencyChainQueue, List.map_cons, List.map_nil, List.mem_cons, List.not_mem_nil,
    or_false] at hp hq
  rcases hp with rfl | rfl | rfl <;> rcases hq with rfl | rfl | rfl <;>
    simp_all [DependsOn, entryAddress, deletionHash]

end DhtStore

end Holochain
