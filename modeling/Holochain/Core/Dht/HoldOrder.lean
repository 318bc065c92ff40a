/-
The order in which a DHT node holds the aspects of an entry, and what
`get_entry_crud_meta_from_dht` (`nucleus/actions/get_entry.rs`) then reports for the entry.

Every `Update` aspect makes `reduce_update_entry_inner` write a crud-link EAV from the entry it
replaces to the new version, and no EAV is ever taken back. `get_entry_crud_meta_from_dht`
reports the value of the first link EAV that `fetch_eavi` with `IndexFilter::LatestByAttribute`
returns. Two updates of one entry to different contents leave two link EAVs of one entity and
attribute, and which of them the filter returns first is decided by the order they were
written in, for every filter that returns the last EAV written, reads only the EAVs asked for
and compares values only for equality.

* `HoldDependsOn`, `RespectsDependencies` — when the holding queue holds one aspect back for
  another, and an order of holds that waits for them;
* `head?_latest_swap` — on two EAVs of one entity and attribute with different values, the
  filter returns first the EAV at the same position in both orders of writing;
* `hold_order_changes_crud_link` — two nodes that hold an entry and two updates of it, in two
  orders that both wait for the dependencies, report different crud links for the entry.
-/
import Holochain.Core.Workflows.GetEntryResult
import Holochain.Lib.ReadyOrder

namespace Holochain

/-! ### The orders the holding queue allows -/

section Dependencies

variable (hash : CasContent String → String)

/-- The holding queue holds aspect `p` back while aspect `q` is queued: `q`'s entry address is
among the validation dependencies of `p`'s pending validation (`free_pending_filter`). -/
def HoldDependsOn (p q : EntryAspect String) : Prop :=
  ∃ pv qv, PendingValidation.tryFromAspect hash 0 p = .ok pv ∧
    PendingValidation.tryFromAspect hash 0 q = .ok qv ∧
    qv.entryWithHeader.entry.address hash ∈ pv.dependencies

/-- The aspects are held in `order`, each after the aspects of `aspects` it waits for. -/
def RespectsDependencies (aspects order : List (EntryAspect String)) : Prop :=
  Graph.ReadyOrder (fun p q => q ∈ aspects ∧ HoldDependsOn hash p q) ∅ order

variable {hash}

theorem holdDependsOn_iff {p q : EntryAspect String} {pv qv : PendingValidation String}
    (hp : PendingValidation.tryFromAspect hash 0 p = .ok pv)
    (hq : PendingValidation.tryFromAspect hash 0 q = .ok qv) :
    HoldDependsOn hash p q ↔ qv.entryWithHeader.entry.address hash ∈ pv.dependencies := by
  constructor
  · rintro ⟨pv', qv', hp', hq', hdep⟩
    rw [hp] at hp'
    rw [hq] at hq'
    cases hp'
    cases hq'
    exact hdep
  · exact fun hdep => ⟨pv, qv, hp, hq, hdep⟩

end Dependencies

/-! ### Two updates of one entry -/

section ConcurrentUpdates

variable (hash : CasContent String → String)

/-- The entry the two updates replace. -/
def originalEntry : Entry String := .app "t" "a"

/-- The original entry's header. -/
def originalHeader : ChainHeader String :=
  ⟨.app "t", originalEntry.address hash, [], none, none, none, 0⟩

/-- The header of an update to `entry` committed at `timestamp`: it names the original entry as
the version it replaces. -/
def updateHeader (entry : Entry String) (timestamp : Nat) : ChainHeader String :=
  ⟨.app "t", entry.address hash, [], none, none, some (originalEntry.address hash), timestamp⟩

/-- The original entry's content. -/
def originalContent : EntryAspect String := .content originalEntry (originalHeader hash)

/-- The update to the content `"b"`. -/
def updateToB : EntryAspect String := .update (.app "t" "b") (updateHeader hash (.app "t" "b") 1)

/-- The update to the content `"c"`. -/
def updateToC : EntryAspect String := .update (.app "t" "c") (updateHeader hash (.app "t" "c") 2)

/-- The three aspects, each with its own attempt id: the original content first, then the two
updates, the one to `"b"` first when `bFirst` holds. -/
def concurrentUpdates (bFirst : Bool) : List (EntryAspect String × HoldAspectAttemptId) :=
  (originalContent hash, (0, 0)) ::
    if bFirst then [(updateToB hash, (0, 1)), (updateToC hash, (0, 2))]
    else [(updateToC hash, (0, 2)), (updateToB hash, (0, 1))]

/-- One `HoldAspect` action for each aspect, all at time 0. -/
def holds (attempts : List (EntryAspect String × HoldAspectAttemptId)) :
    List (DhtAction String × Nat) :=
  attempts.map fun (aspect, id) => (.holdAspect aspect id, 0)

variable {hash}

/-- The original content waits for nothing. -/
theorem tryFromAspect_originalContent :
    PendingValidation.tryFromAspect hash 0 (originalContent hash) =
      .ok (PendingValidation.new ⟨originalEntry, originalHeader hash⟩ .holdEntry 0) := by
  simp [originalContent, PendingValidation.tryFromAspect, EntryWithHeader.tryFromEntryAndHeader,
    originalHeader, Entry.address]

/-- An update waits for the original entry. -/
theorem tryFromAspect_update (entry : Entry String) (timestamp : Nat) :
    PendingValidation.tryFromAspect hash 0 (.update entry (updateHeader hash entry timestamp)) =
      .ok (PendingValidation.new ⟨entry, updateHeader hash entry timestamp⟩ .updateEntry 0) := by
  simp [PendingValidation.tryFromAspect, EntryWithHeader.tryFromEntryAndHeader, updateHeader,
    Entry.address]

/-- With the three entries at different addresses, both orders hold each update after the
original content, the one aspect it waits for. -/
theorem respectsDependencies_concurrentUpdates
    (hba : (Entry.app "t" "b").address hash ≠ originalEntry.address hash)
    (hca : (Entry.app "t" "c").address hash ≠ originalEntry.address hash) (bFirst : Bool) :
    RespectsDependencies hash ((concurrentUpdates hash true).map (·.1))
      ((concurrentUpdates hash bFirst).map (·.1)) := by
  -- what each aspect waits for: nothing for the content, the content's address for an update
  have hcontent : ∀ q, ¬HoldDependsOn hash (originalContent hash) q := by
    rintro q ⟨pv, qv, hp, -, hdep⟩
    rw [tryFromAspect_originalContent] at hp
    cases hp
    simp [PendingValidation.new, EntryWithHeader.getValidationDependencies, originalEntry,
      originalHeader] at hdep
  have hupdate : ∀ content timestamp, ∀ q ∈ (concurrentUpdates hash true).map (·.1),
      HoldDependsOn hash (.update (.app "t" content) (updateHeader hash (.app "t" content) timestamp))
        q → q = originalContent hash := by
    intro content timestamp q hq hdep
    simp only [concurrentUpdates, if_true, List.map_cons, List.map_nil, List.mem_cons,
      List.not_mem_nil, or_false] at hq
    rcases hq with rfl | rfl | rfl
    · rfl
    · rw [updateToB, holdDependsOn_iff (tryFromAspect_update _ timestamp)
        (tryFromAspect_update _ _)] at hdep
      simp [PendingValidation.new, EntryWithHeader.getValidationDependencies, updateHeader,
        hba] at hdep
    · rw [updateToC, holdDependsOn_iff (tryFromAspect_update _ timestamp)
        (tryFromAspect_update _ _)] at hdep
      simp [PendingValidation.new, EntryWithHeader.getValidationDependencies, updateHeader,
        hca] at hdep
  cases bFirst <;>
    simp only [RespectsDependencies, concurrentUpdates, Bool.false_eq_true, if_true, if_false,
      List.map_cons, List.map_nil, Graph.readyOrder_cons, Graph.ReadyOrder, and_true] <;>
    refine ⟨fun q hq => absurd hq.2 (hcontent q), fun q hq => ?_, fun q hq => ?_⟩ <;>
    simp [hupdate _ _ q hq.1 hq.2]

end ConcurrentUpdates

/-! ### Which link the filter returns first -/

section Swap

variable {latest : LatestFetch}

/-- On two EAVs of one entity and attribute with different values, written in one order or in
the other, the filter returns first the EAV at the same position: renaming the values by their
swap turns one list into the other, and the filter follows the renaming. -/
theorem head?_latest_swap (hlatest : LatestByAttribute latest)
    (hblind : LatestByAttribute.ValueBlind latest) (entity : String) (attr : Attribute String)
    (v w : String) :
    ((latest [⟨entity, attr, v⟩, ⟨entity, attr, w⟩] entity attr).head?.map (·.value) = some v ∧
        (latest [⟨entity, attr, w⟩, ⟨entity, attr, v⟩] entity attr).head?.map (·.value) = some w) ∨
      ((latest [⟨entity, attr, v⟩, ⟨entity, attr, w⟩] entity attr).head?.map (·.value) = some w ∧
        (latest [⟨entity, attr, w⟩, ⟨entity, attr, v⟩] entity attr).head?.map (·.value) = some v) := by
  have hswap : latest [⟨entity, attr, w⟩, ⟨entity, attr, v⟩] entity attr =
      (latest [⟨entity, attr, v⟩, ⟨entity, attr, w⟩] entity attr).map
        (·.renameValue (Equiv.swap v w)) := by
    rw [← hblind.map_renameValue]
    simp [EntityAttributeValueIndex.renameValue, Equiv.swap_apply_left, Equiv.swap_apply_right]
  -- the filter returns the last EAV, so something, and only the two EAVs
  have hlast : ⟨entity, attr, w⟩ ∈ latest [⟨entity, attr, v⟩, ⟨entity, attr, w⟩] entity attr :=
    hlatest.getLast_mem (by simp [EntityAttributeValueIndex.isOf])
  have hne : latest [⟨entity, attr, v⟩, ⟨entity, attr, w⟩] entity attr ≠ [] :=
    List.ne_nil_of_mem hlast
  obtain ⟨first, rest, hcons⟩ := List.exists_cons_of_ne_nil hne
  have hfirst : first = ⟨entity, attr, v⟩ ∨ first = ⟨entity, attr, w⟩ := by
    have hmem := hlatest.mem_filter (hcons ▸ List.mem_cons_self :
      first ∈ latest [⟨entity, attr, v⟩, ⟨entity, attr, w⟩] entity attr)
    simpa [EntityAttributeValueIndex.isOf] using hmem
  rw [hswap, hcons]
  rcases hfirst with rfl | rfl
  · exact .inl ⟨rfl, by simp [EntityAttributeValueIndex.renameValue, Equiv.swap_apply_left]⟩
  · exact .inr ⟨rfl, by simp [EntityAttributeValueIndex.renameValue, Equiv.swap_apply_right]⟩

end Swap

/-- A node holds an entry and two updates of it to different contents, the update to `"b"`
first; another node holds the same aspects with the update to `"c"` first. Both orders hold
each update after the content it replaces, as the holding queue requires. The two nodes then
report different crud links for the entry: one reports the update to `"b"` and the other the
update to `"c"`, so which update wins is decided by the order of the holds. This holds for every `LatestByAttribute` filter that returns only EAVs of the
entity and attribute asked for, always the last of them written, reads no other EAV and compares
values only for equality; the content hash need only give the three entries different
addresses. -/
theorem hold_order_changes_crud_link (hash : CasContent String → String)
    (aspectHash : EntryAspect String → String) (debugLink : LinkData String → String)
    (latest : LatestFetch) (hlatest : LatestByAttribute latest)
    (hblind : LatestByAttribute.ValueBlind latest)
    (hbc : (Entry.app "t" "b").address hash ≠ (Entry.app "t" "c").address hash)
    (hba : (Entry.app "t" "b").address hash ≠ originalEntry.address hash)
    (hca : (Entry.app "t" "c").address hash ≠ originalEntry.address hash) :
    (concurrentUpdates hash true).Perm (concurrentUpdates hash false) ∧
    (∀ bFirst, RespectsDependencies hash ((concurrentUpdates hash true).map (·.1))
      ((concurrentUpdates hash bFirst).map (·.1))) ∧
    ∃ x₁ x₂,
      Run.ReachableBy (DhtStep (shardWrites latest hash debugLink) hash aspectHash)
        (Shard.new, DhtStore.new) (holds (concurrentUpdates hash true)) x₁ ∧
      Run.ReachableBy (DhtStep (shardWrites latest hash debugLink) hash aspectHash)
        (Shard.new, DhtStore.new) (holds (concurrentUpdates hash false)) x₂ ∧
      (x₁.1.getEntryCrudMetaFromDht latest (originalEntry.address hash)).map (·.2) ≠
        (x₂.1.getEntryCrudMetaFromDht latest (originalEntry.address hash)).map (·.2) ∧
      (((x₁.1.getEntryCrudMetaFromDht latest (originalEntry.address hash)).map (·.2) =
            some (some ((Entry.app "t" "b").address hash)) ∧
          (x₂.1.getEntryCrudMetaFromDht latest (originalEntry.address hash)).map (·.2) =
            some (some ((Entry.app "t" "c").address hash))) ∨
        ((x₁.1.getEntryCrudMetaFromDht latest (originalEntry.address hash)).map (·.2) =
            some (some ((Entry.app "t" "c").address hash)) ∧
          (x₂.1.getEntryCrudMetaFromDht latest (originalEntry.address hash)).map (·.2) =
            some (some ((Entry.app "t" "b").address hash)))) := by
  refine ⟨.cons _ (.swap _ _ _), respectsDependencies_concurrentUpdates hba hca, ?_⟩
  -- the storages after the holds: the content with its header, then per update a `Modified`
  -- status and a crud link, in the order of the holds
  set a := originalEntry.address hash with ha
  set b := (Entry.app "t" "b").address hash with hb
  set c := (Entry.app "t" "c").address hash with hc
  let st₀ : Shard := ((Shard.new.add hash (.entry originalEntry)).addEavi ⟨a, .crudStatus, "live"⟩
    |>.add hash (.header (originalHeader hash))).addEavi
      ⟨a, .entryHeader, (originalHeader hash).address hash⟩
  let updated (st : Shard) (target : String) : Shard :=
    (st.addEavi ⟨a, .crudStatus, "modified"⟩).addEavi ⟨a, .crudLink, target⟩
  obtain ⟨s₁, hs₁⟩ : ∃ s, Run.ReachableBy (DhtStep (shardWrites latest hash debugLink) hash aspectHash)
      (Shard.new, DhtStore.new) (holds (concurrentUpdates hash true)) (updated (updated st₀ b) c, s) :=
    ⟨_, @Run.ReachableBy.step _ _ _ _ [_, _] (updated st₀ b, _) _ _
      (@Run.ReachableBy.step _ _ _ _ [_] (st₀, _) _ _
        (@Run.ReachableBy.step _ _ _ _ [] _ _ _ .init rfl) rfl) rfl⟩
  obtain ⟨s₂, hs₂⟩ : ∃ s, Run.ReachableBy (DhtStep (shardWrites latest hash debugLink) hash aspectHash)
      (Shard.new, DhtStore.new) (holds (concurrentUpdates hash false)) (updated (updated st₀ c) b, s) :=
    ⟨_, @Run.ReachableBy.step _ _ _ _ [_, _] (updated st₀ c, _) _ _
      (@Run.ReachableBy.step _ _ _ _ [_] (st₀, _) _ _
        (@Run.ReachableBy.step _ _ _ _ [] _ _ _ .init rfl) rfl) rfl⟩
  refine ⟨_, _, hs₁, hs₂, ?_⟩
  -- in both storages the entry has a status EAV, and its two link EAVs in the order of the holds
  have heav : ∀ first second, (updated (updated st₀ first) second).eav =
      [⟨a, .crudStatus, "live"⟩, ⟨a, .entryHeader, (originalHeader hash).address hash⟩,
        ⟨a, .crudStatus, "modified"⟩, ⟨a, .crudLink, first⟩,
        ⟨a, .crudStatus, "modified"⟩, ⟨a, .crudLink, second⟩] := fun _ _ => rfl
  have hmeta : ∀ first second,
      ((updated (updated st₀ first) second).getEntryCrudMetaFromDht latest a).map (·.2) =
        some ((latest [⟨a, .crudLink, first⟩, ⟨a, .crudLink, second⟩] a .crudLink).head?.map
          (·.value)) := by
    intro first second
    have hstatus : (updated (updated st₀ first) second).fetchEavi latest a .crudStatus ≠ [] :=
      Shard.fetchEavi_ne_nil hlatest
        (by simp [heav] : (⟨a, .crudStatus, "live"⟩ : EntityAttributeValueIndex) ∈ _)
        (by simp [EntityAttributeValueIndex.isOf])
    obtain ⟨status, hstatus⟩ := Shard.getEntryCrudMetaFromDht_of_ne_nil hstatus
    rw [hstatus, Shard.fetchEavi, hblind.filter_eq, heav]
    simp [EntityAttributeValueIndex.isOf]
  simp only [hmeta]
  rcases head?_latest_swap hlatest hblind a .crudLink b c with ⟨hfirst, hsecond⟩ | ⟨hfirst, hsecond⟩
  · rw [hfirst, hsecond]
    exact ⟨by simpa using hbc, .inl ⟨rfl, rfl⟩⟩
  · rw [hfirst, hsecond]
    exact ⟨by simpa using hbc.symm, .inr ⟨rfl, rfl⟩⟩

/-- The divergence with the filter that keeps the last EAV of each value, under a content hash
that gives each application entry its content as address. -/
theorem hold_order_changes_crud_link_byValue :
    let hash : CasContent String → String := fun c => match c with
      | .entry (.app _ content) => content
      | .entry _ => ""
      | .header h => "header " ++ h.entryAddress
    LatestByAttribute latestByValue ∧ LatestByAttribute.ValueBlind latestByValue ∧
    (Entry.app "t" "b").address hash ≠ (Entry.app "t" "c").address hash ∧
    (Entry.app "t" "b").address hash ≠ originalEntry.address hash ∧
    (Entry.app "t" "c").address hash ≠ originalEntry.address hash ∧
    (concurrentUpdates hash true).Perm (concurrentUpdates hash false) ∧
    (∀ bFirst, RespectsDependencies hash ((concurrentUpdates hash true).map (·.1))
      ((concurrentUpdates hash bFirst).map (·.1))) ∧
    ∃ x₁ x₂,
      Run.ReachableBy (DhtStep (shardWrites latestByValue hash fun _ => "") hash fun _ => "")
        (Shard.new, DhtStore.new) (holds (concurrentUpdates hash true)) x₁ ∧
      Run.ReachableBy (DhtStep (shardWrites latestByValue hash fun _ => "") hash fun _ => "")
        (Shard.new, DhtStore.new) (holds (concurrentUpdates hash false)) x₂ ∧
      (x₁.1.getEntryCrudMetaFromDht latestByValue (originalEntry.address hash)).map (·.2) ≠
        (x₂.1.getEntryCrudMetaFromDht latestByValue (originalEntry.address hash)).map (·.2) ∧
      (((x₁.1.getEntryCrudMetaFromDht latestByValue (originalEntry.address hash)).map (·.2) =
            some (some ((Entry.app "t" "b").address hash)) ∧
          (x₂.1.getEntryCrudMetaFromDht latestByValue (originalEntry.address hash)).map (·.2) =
            some (some ((Entry.app "t" "c").address hash))) ∨
        ((x₁.1.getEntryCrudMetaFromDht latestByValue (originalEntry.address hash)).map (·.2) =
            some (some ((Entry.app "t" "c").address hash)) ∧
          (x₂.1.getEntryCrudMetaFromDht latestByValue (originalEntry.address hash)).map (·.2) =
            some (some ((Entry.app "t" "b").address hash)))) :=
  ⟨latestByValue_spec, latestByValue_valueBlind, by decide, by decide, by decide,
    hold_order_changes_crud_link _ (fun _ => "") (fun _ => "") latestByValue latestByValue_spec
      latestByValue_valueBlind (by decide) (by decide) (by decide)⟩

end Holochain
