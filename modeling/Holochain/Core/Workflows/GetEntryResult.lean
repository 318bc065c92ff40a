/-
Reading an entry and its history from the local DHT shard: `get_entry_with_meta` and
`get_entry_crud_meta_from_dht` (`nucleus/actions/get_entry.rs`), `State::get_headers`, and
the local get-entry workflows of `workflows/get_entry_result.rs`, with the result types of
`wasm_utils/src/api_serialization/get_entry.rs`.

The entry's crud status is read from the status EAVs that `fetch_eavi` with
`IndexFilter::LatestByAttribute` returns, and its crud link from the first link EAV it
returns; the filter is the parameter `latest` of `InnerReducers`. `get_entry_result_workflow_local` then follows crud links, from one entry to
the next, in a `while` loop that keeps no record of where it has been; the model runs it with
fuel (`Loop.run`). The agent's source chain, which `State::get_headers` also reads, is a
parameter: its headers from the top.

* `getEntryResultWorkflowLocal_initial` — for `Initial` the loop ends in at most two rounds,
  with the entry at the address alone;
* `getEntryResultWorkflowLocal_eq_none_of_cycle` — for `Latest` and `All` the loop never ends
  once the links it follows stay among live or modified entries;
* `self_update_never_returns` — for every filter that returns the last EAV written, an update
  that keeps an entry's content links the entry to itself, and from then on the loop never
  ends.
-/
import Holochain.Core.Dht.InnerReducers
import Holochain.Lib.Loop

namespace Holochain

open Network (CrudStatus)

/-- `StatusRequestKind`. -/
inductive StatusRequestKind
  | initial
  | latest
  | all
  deriving DecidableEq, Repr

/-- `GetEntryOptions`, with the fields the local workflow reads. -/
structure GetEntryOptions where
  statusRequest : StatusRequestKind
  headers : Bool
  deriving DecidableEq, Repr

/-- `GetEntryArgs`. -/
structure GetEntryArgs where
  address : String
  options : GetEntryOptions
  deriving DecidableEq, Repr

/-- `EntryWithMeta`. -/
structure EntryWithMeta where
  entry : Entry String
  crudStatus : CrudStatus
  maybeLinkUpdateDelete : Option String
  deriving DecidableEq, Repr

/-- `EntryWithMetaAndHeader`. -/
structure EntryWithMetaAndHeader where
  entryWithMeta : EntryWithMeta
  headers : List (ChainHeader String)
  deriving DecidableEq, Repr

/-- `EntryResultMeta`. -/
structure EntryResultMeta where
  address : String
  entryType : EntryType
  crudStatus : CrudStatus
  deriving DecidableEq, Repr

/-- `GetEntryResultItem`. -/
structure GetEntryResultItem where
  «meta» : Option EntryResultMeta
  entry : Option (Entry String)
  headers : List (ChainHeader String)
  deriving DecidableEq, Repr

/-- `EntryHistory`: the items in the order they were read, and the crud links met. -/
structure EntryHistory where
  items : List GetEntryResultItem
  crudLinks : AList (fun _ : String => String)

/-- `GetEntryResultType`. -/
inductive GetEntryResultType
  | single (item : GetEntryResultItem)
  | all (history : EntryHistory)

/-- `GetEntryResult`. -/
structure GetEntryResult where
  result : GetEntryResultType

section Results

variable (hash : CasContent String → String)

/-- `GetEntryResultItem::new`. -/
def GetEntryResultItem.new : Option (EntryWithMeta × List (ChainHeader String)) → GetEntryResultItem
  | some (entryWithMeta, headers) =>
    ⟨some ⟨entryWithMeta.entry.address hash, entryWithMeta.entry.entryType,
      entryWithMeta.crudStatus⟩, some entryWithMeta.entry, headers⟩
  | none => ⟨none, none, []⟩

/-- `EntryHistory::new`. -/
def EntryHistory.new : EntryHistory := ⟨[], ∅⟩

/-- `EntryHistory::push`: the item goes at the end, and a crud link is recorded. -/
def EntryHistory.push (history : EntryHistory) (entryWithMeta : EntryWithMeta)
    (headers : List (ChainHeader String)) : EntryHistory :=
  let address := entryWithMeta.entry.address hash
  let item := GetEntryResultItem.new hash (some (entryWithMeta, headers))
  { items := history.items ++ [item]
    crudLinks := match entryWithMeta.maybeLinkUpdateDelete with
      | some newAddress => history.crudLinks.insert address newAddress
      | none => history.crudLinks }

/-- `GetEntryResult::push`: a single result is replaced, a history grows. -/
def GetEntryResult.push (entryResult : GetEntryResult) (entryWithMeta : EntryWithMeta)
    (headers : List (ChainHeader String)) : GetEntryResult :=
  match entryResult.result with
  | .single _ => ⟨.single (GetEntryResultItem.new hash (some (entryWithMeta, headers)))⟩
  | .all history => ⟨.all (history.push hash entryWithMeta headers)⟩

/-- `GetEntryResult::clear`. -/
def GetEntryResult.clear (entryResult : GetEntryResult) : GetEntryResult :=
  match entryResult.result with
  | .single _ => ⟨.single (GetEntryResultItem.new hash none)⟩
  | .all history => ⟨.all { history with items := [] }⟩

/-- `GetEntryResult::new`. -/
def GetEntryResult.new (requestKind : StatusRequestKind)
    (maybeEntryWithMetaAndHeaders : Option (EntryWithMeta × List (ChainHeader String))) :
    GetEntryResult :=
  match requestKind with
  | .all =>
    let entryResult : GetEntryResult := ⟨.all EntryHistory.new⟩
    match maybeEntryWithMetaAndHeaders with
    | some (entryWithMeta, headers) => entryResult.push hash entryWithMeta headers
    | none => entryResult
  | _ => ⟨.single (GetEntryResultItem.new hash maybeEntryWithMetaAndHeaders)⟩

end Results

namespace Shard

variable (hash : CasContent String → String) (chain : List (ChainHeader String))
  (latest : LatestFetch)

/-- `get_entry_crud_meta_from_dht`: no status EAV means the DHT does not hold the entry; a
`Deleted` status wins over a `Modified` one, which wins over the rest. -/
def getEntryCrudMetaFromDht (st : Shard) (address : String) :
    Option (CrudStatus × Option String) :=
  let statusEavs := st.fetchEavi latest address .crudStatus
  if statusEavs.isEmpty then none
  else
    let hasDeleted := statusEavs.any fun e => (CrudStatus.fromStr e.value).toOption == some .deleted
    let crudStatus : CrudStatus :=
      if hasDeleted then .deleted
      else if statusEavs.any (fun e => (CrudStatus.fromStr e.value).toOption == some .modified) then
        .modified
      else .live
    let linkEavs := st.fetchEavi latest address .crudLink
    some (crudStatus, linkEavs.head?.map fun e => e.value)

/-- `get_entry_with_meta`: a header is always live and has no link. -/
def getEntryWithMeta (st : Shard) (address : String) : Option EntryWithMeta :=
  match st.get address with
  | none => none
  | some entry =>
    match entry with
    | .chainHeader _ => some ⟨entry, .live, none⟩
    | _ =>
      (st.getEntryCrudMetaFromDht latest address).map fun crudInfo => ⟨entry, crudInfo.1, crudInfo.2⟩

/-- `State::get_headers`: the headers of the agent's chain for the entry, then those the DHT
holds for it that are not among them. -/
def getHeaders (st : Shard) (entryAddress : String) :
    Except HolochainError (List (ChainHeader String)) := do
  let headers := chain.filter fun h => h.entryAddress == entryAddress
  let headerAddresses := headers.map (ChainHeader.address hash)
  let dhtHeaders ← (((st.fetchEavi latest entryAddress .entryHeader).map fun eavi => eavi.value).filter
      (fun a => !headerAddresses.contains a) |>.filterMap st.get).mapM fun entry =>
    match entry with
    | .chainHeader chainHeader => pure chainHeader
    | _ => throw (.errorGeneric "Non chain-header entry found")
  pure (headers ++ dhtHeaders)

/-- `get_entry_with_meta_workflow_local`. -/
def getEntryWithMetaWorkflowLocal (st : Shard) (address : String) :
    Except HolochainError (Option EntryWithMetaAndHeader) := do
  let entry ← (st.getEntryWithMeta latest address).getDM
    (throw (.errorGeneric ("Could not get entry: " ++ address)))
  let headers ← st.getHeaders hash chain latest address
  pure (some ⟨entry, headers⟩)

/-- One round of the `while` loop of `get_entry_result_workflow_local`, on the result so far
and the address to read next. -/
def getEntryResultLoop (st : Shard) (args : GetEntryArgs) :
    GetEntryResult × Option String →
      Except HolochainError ((GetEntryResult × Option String) ⊕ GetEntryResult)
  | (entryResult, none) => pure (.inr entryResult)
  | (entryResult, some address) => do
    match ← st.getEntryWithMetaWorkflowLocal hash chain latest address with
    | none => pure (.inl (entryResult, none))
    | some entryWithMetaAndHeaders =>
      let entryWithMeta := entryWithMetaAndHeaders.entryWithMeta
      -- the history is erased when the latest version was deleted
      if args.options.statusRequest = .latest ∧ entryWithMeta.crudStatus = .deleted then
        pure (.inr (entryResult.clear hash))
      else
        let headers := if args.options.headers then entryWithMetaAndHeaders.headers else []
        let entryResult := entryResult.push hash entryWithMeta headers
        if args.options.statusRequest = .initial then pure (.inr entryResult)
        else if entryWithMeta.maybeLinkUpdateDelete.isSome ∧
            entryWithMeta.crudStatus ≠ .deleted ∧ args.options.statusRequest ≠ .initial then
          pure (.inl (entryResult, entryWithMeta.maybeLinkUpdateDelete))
        else pure (.inl (entryResult, none))

/-- `get_entry_result_workflow_local`, with `fuel` rounds of its loop. -/
def getEntryResultWorkflowLocal (fuel : Nat) (st : Shard) (args : GetEntryArgs) :
    Option (Except HolochainError GetEntryResult) :=
  Loop.run (st.getEntryResultLoop hash chain latest args) fuel
    (GetEntryResult.new hash args.options.statusRequest none, some args.address)

/-! ### Reading an entry -/

variable {hash chain latest}

/-- A stored entry that is not a header has the crud status and link its EAVs give. -/
theorem getEntryWithMeta_of_get {st : Shard} {address : String} {entry : Entry String}
    (hget : st.get address = some entry) (hentry : ∀ h, entry ≠ .chainHeader h) :
    st.getEntryWithMeta latest address =
      (st.getEntryCrudMetaFromDht latest address).map fun crudInfo =>
        ⟨entry, crudInfo.1, crudInfo.2⟩ := by
  unfold getEntryWithMeta
  rw [hget]
  dsimp only
  split
  · rename_i h
    exact absurd rfl (hentry h)
  · rfl

/-- With a status EAV, the entry's crud link is the value of the first link EAV. -/
theorem getEntryCrudMetaFromDht_of_ne_nil {st : Shard} {address : String}
    (h : st.fetchEavi latest address .crudStatus ≠ []) :
    ∃ status, st.getEntryCrudMetaFromDht latest address =
      some (status, (st.fetchEavi latest address .crudLink).head?.map fun e => e.value) := by
  unfold getEntryCrudMetaFromDht
  rw [if_neg (by simpa using h)]
  exact ⟨_, rfl⟩

/-- With a `Modified` status EAV and no `Deleted` one, the entry is `Modified`. -/
theorem getEntryCrudMetaFromDht_of_modified {st : Shard} {address : String}
    (hmod : ∃ e ∈ st.fetchEavi latest address .crudStatus, e.value = CrudStatus.modified.toString)
    (hdel : ∀ e ∈ st.fetchEavi latest address .crudStatus, e.value ≠ CrudStatus.deleted.toString) :
    st.getEntryCrudMetaFromDht latest address =
      some (.modified, (st.fetchEavi latest address .crudLink).head?.map fun e => e.value) := by
  obtain ⟨e, he, hval⟩ := hmod
  -- no status EAV reads back as `Deleted`, and the one found reads back as `Modified`
  have hnoDeleted : ((st.fetchEavi latest address .crudStatus).any fun e =>
      (CrudStatus.fromStr e.value).toOption == some .deleted) = false := by
    simpa [CrudStatus.fromStr_toOption_eq_some] using hdel
  have hhasModified : ((st.fetchEavi latest address .crudStatus).any fun e =>
      (CrudStatus.fromStr e.value).toOption == some .modified) = true :=
    List.any_eq_true.mpr ⟨e, he, by rw [hval, CrudStatus.fromStr_toString]; rfl⟩
  unfold getEntryCrudMetaFromDht
  rw [if_neg (by simpa using List.ne_nil_of_mem he)]
  simp only [hnoDeleted, hhasModified]
  rfl

/-- `State::get_headers` succeeds when every header EAV of the entry points at a header or at
nothing stored. -/
theorem exists_getHeaders_eq_ok {st : Shard} {entryAddress : String}
    (hheaders : ∀ eavi ∈ st.fetchEavi latest entryAddress .entryHeader, ∀ entry,
      st.get eavi.value = some entry → ∃ h, entry = .chainHeader h) :
    ∃ headers, st.getHeaders hash chain latest entryAddress = .ok headers := by
  unfold getHeaders
  dsimp only
  -- every entry the DHT part reads is a header, so each step of the mapM succeeds
  obtain ⟨dhtHeaders, hdht⟩ := Except.exists_mapM_eq_ok (f := fun entry =>
      match entry with
      | .chainHeader chainHeader => (pure chainHeader : Except HolochainError (ChainHeader String))
      | _ => throw (.errorGeneric "Non chain-header entry found"))
    (l := (((st.fetchEavi latest entryAddress .entryHeader).map fun eavi => eavi.value).filter
      (fun a => !((chain.filter fun h => h.entryAddress == entryAddress).map
        (ChainHeader.address hash)).contains a)).filterMap st.get) (by
      intro entry hentry
      obtain ⟨address, haddress, hget⟩ := List.mem_filterMap.mp hentry
      obtain ⟨eavi, heavi, rfl⟩ := List.mem_map.mp (List.mem_filter.mp haddress).1
      obtain ⟨h, rfl⟩ := hheaders eavi heavi entry hget
      exact ⟨h, rfl⟩)
  exact ⟨_, by rw [hdht]; rfl⟩

/-! ### The loop -/

/-- A round on a live or modified entry with a crud link, for `Latest` or `All`: the entry
joins the result and the loop goes on at the link. -/
theorem getEntryResultLoop_follow {st : Shard} {args : GetEntryArgs} {entryResult : GetEntryResult}
    {address next : String} {entryWithMeta : EntryWithMeta} {headers : List (ChainHeader String)}
    (hlocal : st.getEntryWithMetaWorkflowLocal hash chain latest address =
      .ok (some ⟨entryWithMeta, headers⟩))
    (hreq : args.options.statusRequest ≠ .initial) (hstatus : entryWithMeta.crudStatus ≠ .deleted)
    (hlink : entryWithMeta.maybeLinkUpdateDelete = some next) :
    st.getEntryResultLoop hash chain latest args (entryResult, some address) =
      .ok (.inl (entryResult.push hash entryWithMeta
        (if args.options.headers then headers else []), some next)) := by
  rw [getEntryResultLoop.eq_2, hlocal]
  simp [hreq, hstatus, hlink]

/-- A round for `Initial` that reads the entry ends the loop with it. -/
theorem getEntryResultLoop_initial {st : Shard} {args : GetEntryArgs} {entryResult : GetEntryResult}
    {address : String} {e : EntryWithMetaAndHeader}
    (hlocal : st.getEntryWithMetaWorkflowLocal hash chain latest address = .ok (some e))
    (hreq : args.options.statusRequest = .initial) :
    st.getEntryResultLoop hash chain latest args (entryResult, some address) =
      .ok (.inr (entryResult.push hash e.entryWithMeta
        (if args.options.headers then e.headers else []))) := by
  rw [getEntryResultLoop.eq_2, hlocal]
  simp [hreq]

/-- For `Initial` the loop ends in at most two rounds, and when the entry is read it returns
that entry alone. -/
theorem getEntryResultWorkflowLocal_initial {st : Shard} {args : GetEntryArgs}
    (hreq : args.options.statusRequest = .initial) :
    ∃ r, st.getEntryResultWorkflowLocal hash chain latest 2 args = some r ∧
      ∀ e, st.getEntryWithMetaWorkflowLocal hash chain latest args.address = .ok (some e) →
        r = .ok ⟨.single (GetEntryResultItem.new hash
          (some (e.entryWithMeta, if args.options.headers then e.headers else [])))⟩ := by
  unfold getEntryResultWorkflowLocal
  rw [hreq]
  cases hlocal : st.getEntryWithMetaWorkflowLocal hash chain latest args.address with
  | error err =>
    -- the read fails, and so does the loop
    refine ⟨.error err, Loop.run_succ_of_error ?_, fun e he => nomatch he⟩
    rw [getEntryResultLoop.eq_2, hlocal]
    rfl
  | ok maybeEntry =>
    cases maybeEntry with
    | none =>
      -- nothing is read: the next round sees no address and returns the empty result
      refine ⟨.ok (GetEntryResult.new hash .initial none), ?_, fun e he => nomatch he⟩
      have hround : st.getEntryResultLoop hash chain latest args
          (GetEntryResult.new hash .initial none, some args.address) =
            .ok (.inl (GetEntryResult.new hash .initial none, none)) := by
        rw [getEntryResultLoop.eq_2, hlocal]
        rfl
      rw [Loop.run_succ_of_continue hround]
      rfl
    | some e =>
      refine ⟨_, Loop.run_succ_of_end (getEntryResultLoop_initial hlocal hreq), ?_⟩
      intro e' he'
      cases he'
      rfl

/-- For `Latest` and `All` the loop never ends from an address on a set of addresses whose
every entry is read, is not deleted, and links to another address of the set: it reads the
links round after round and keeps no record of those it has followed. -/
theorem getEntryResultWorkflowLocal_eq_none_of_cycle (C : String → Prop) {st : Shard}
    {args : GetEntryArgs} (hreq : args.options.statusRequest ≠ .initial)
    (hcycle : ∀ b, C b → ∃ entryWithMeta headers next,
      st.getEntryWithMetaWorkflowLocal hash chain latest b = .ok (some ⟨entryWithMeta, headers⟩) ∧
        entryWithMeta.crudStatus ≠ .deleted ∧ entryWithMeta.maybeLinkUpdateDelete = some next ∧ C next)
    (ha : C args.address) (fuel : Nat) :
    st.getEntryResultWorkflowLocal hash chain latest fuel args = none := by
  unfold getEntryResultWorkflowLocal
  -- the loop states whose next address is in the set are never left
  refine Loop.run_eq_none_of_closed (fun s => ∃ b, s.2 = some b ∧ C b) ?_ fuel _
    ⟨args.address, rfl, ha⟩
  rintro ⟨entryResult, maybeAddress⟩ ⟨b, hb, hCb⟩
  obtain rfl : maybeAddress = some b := hb
  obtain ⟨entryWithMeta, headers, next, hlocal, hstatus, hlink, hnext⟩ := hcycle b hCb
  exact ⟨_, getEntryResultLoop_follow hlocal hreq hstatus hlink, next, rfl, hnext⟩

end Shard

/-- An application entry is held, then updated to the same content: the update's header
names the entry as the version it replaces, and the new version has the entry's own
address. The DHT then holds the entry as modified with a crud link to itself, and for
`Latest` and for `All` the local get-entry loop never returns. This holds for every
`LatestByAttribute` filter that returns only EAVs of the entity and attribute asked for and
always the last of them written; the other assumption is that the content hash tells the entry
apart from its header. -/
theorem self_update_never_returns (hash : CasContent String → String)
    (aspectHash : EntryAspect String → String) (debugLink : LinkData String → String)
    (chain : List (ChainHeader String)) (headers : Bool) (latest : LatestFetch)
    (hlatest : LatestByAttribute latest)
    (hne : ChainHeader.address hash
        ⟨.app "t", Entry.address hash (.app "t" "v"), [], none, none, none, 0⟩ ≠
      Entry.address hash (.app "t" "v")) :
    let entry : Entry String := .app "t" "v"
    let header : ChainHeader String := ⟨.app "t", entry.address hash, [], none, none, none, 0⟩
    let update : ChainHeader String :=
      { header with linkUpdateDelete := some (entry.address hash), timestamp := 1 }
    ∃ x, Run.ReachableBy (DhtStep (shardWrites latest hash debugLink) hash aspectHash)
        (Shard.new, DhtStore.new)
        [(.holdAspect (.content entry header) (0, 0), 0), (.holdAspect (.update entry update) (0, 1), 0)] x ∧
      ∀ fuel,
        x.1.getEntryResultWorkflowLocal hash chain latest fuel
            ⟨entry.address hash, ⟨.latest, headers⟩⟩ = none ∧
          x.1.getEntryResultWorkflowLocal hash chain latest fuel
            ⟨entry.address hash, ⟨.all, headers⟩⟩ = none := by
  intro entry header update
  -- the storages after the two holds: the entry, its header, and the EAVs written for them
  let a := entry.address hash
  let st₁ : Shard := ((Shard.new.add hash (.entry entry)).addEavi ⟨a, .crudStatus, "live"⟩
    |>.add hash (.header header)).addEavi ⟨a, .entryHeader, header.address hash⟩
  let st₂ : Shard := (st₁.addEavi ⟨a, .crudStatus, "modified"⟩).addEavi ⟨a, .crudLink, a⟩
  have hreach : ∃ s, Run.ReachableBy (DhtStep (shardWrites latest hash debugLink) hash aspectHash)
      (Shard.new, DhtStore.new)
      [(.holdAspect (.content entry header) (0, 0), 0), (.holdAspect (.update entry update) (0, 1), 0)]
      (st₂, s) :=
    ⟨_, @Run.ReachableBy.step _ _ _ _ [_] (st₁, _) _ _
      (@Run.ReachableBy.step _ _ _ _ [] _ _ _ .init rfl) rfl⟩
  obtain ⟨s, hs⟩ := hreach
  refine ⟨(st₂, s), hs, fun fuel => ?_⟩
  -- what the storages give for the entry: it is stored, its status EAVs are `Live` and then
  -- `Modified`, and its one crud link goes back to it
  have hcas : st₂.cas = ((∅ : Cas String).insert a (.entry entry)).insert (header.address hash)
      (.header header) := rfl
  have heav : st₂.eav = [⟨a, .crudStatus, "live"⟩, ⟨a, .entryHeader, header.address hash⟩,
      ⟨a, .crudStatus, "modified"⟩, ⟨a, .crudLink, a⟩] := rfl
  have hget : st₂.get a = some entry := by
    unfold Shard.get
    rw [hcas, AList.lookup_insert_ne hne.symm, AList.lookup_insert]
    rfl
  have hnotDeleted : ∀ e ∈ st₂.fetchEavi latest a .crudStatus,
      e.value ≠ CrudStatus.deleted.toString := by
    intro e he
    obtain ⟨hmem, -, hattr⟩ := Shard.mem_fetchEavi hlatest he
    rw [heav] at hmem
    simp only [List.mem_cons, List.not_mem_nil, or_false] at hmem
    rcases hmem with rfl | rfl | rfl | rfl <;> simp_all [CrudStatus.toString]
  -- the filter returns the last status EAV written, which is `Modified`
  have hmodified : ∃ e ∈ st₂.fetchEavi latest a .crudStatus,
      e.value = CrudStatus.modified.toString :=
    ⟨⟨a, .crudStatus, "modified"⟩,
      hlatest.getLast_mem (by rw [heav]; simp [EntityAttributeValueIndex.isOf]), rfl⟩
  have hlink : (st₂.fetchEavi latest a .crudLink).head? = some ⟨a, .crudLink, a⟩ :=
    Shard.head?_fetchEavi_of_filter_eq_singleton hlatest
      (by rw [heav]; simp [EntityAttributeValueIndex.isOf])
  have hmeta : st₂.getEntryWithMeta latest a = some ⟨entry, .modified, some a⟩ := by
    rw [Shard.getEntryWithMeta_of_get hget (fun _ heq => by simp [entry] at heq),
      Shard.getEntryCrudMetaFromDht_of_modified hmodified hnotDeleted, hlink]
    rfl
  -- the only header EAV of the entry points at its header, so reading the headers succeeds
  have hheaderEav : ∀ e ∈ st₂.fetchEavi latest a .entryHeader,
      e = ⟨a, .entryHeader, header.address hash⟩ :=
    (Shard.fetchEavi_of_filter_eq_singleton hlatest
      (by rw [heav]; simp [EntityAttributeValueIndex.isOf])).1
  have hheaderGet : st₂.get (header.address hash) = some (.chainHeader header) := by
    unfold Shard.get
    rw [hcas, AList.lookup_insert]
    rfl
  obtain ⟨hs', hheaders⟩ : ∃ headers, st₂.getHeaders hash chain latest a = .ok headers := by
    refine Shard.exists_getHeaders_eq_ok ?_
    intro eavi heavi e he
    rw [hheaderEav eavi heavi, hheaderGet] at he
    exact ⟨header, (Option.some.inj he).symm⟩
  have hlocal : st₂.getEntryWithMetaWorkflowLocal hash chain latest a =
      .ok (some ⟨⟨entry, .modified, some a⟩, hs'⟩) := by
    unfold Shard.getEntryWithMetaWorkflowLocal
    rw [hmeta, hheaders]
    rfl
  -- the entry is a cycle of one address
  have hcycle : ∀ b, b = a → ∃ entryWithMeta headers next,
      st₂.getEntryWithMetaWorkflowLocal hash chain latest b = .ok (some ⟨entryWithMeta, headers⟩) ∧
        entryWithMeta.crudStatus ≠ .deleted ∧ entryWithMeta.maybeLinkUpdateDelete = some next ∧
          next = a := by
    rintro b rfl
    exact ⟨_, _, a, hlocal, (by decide : CrudStatus.modified ≠ .deleted), rfl, rfl⟩
  exact ⟨Shard.getEntryResultWorkflowLocal_eq_none_of_cycle (· = a)
      (by decide : StatusRequestKind.latest ≠ .initial) hcycle rfl fuel,
    Shard.getEntryResultWorkflowLocal_eq_none_of_cycle (· = a)
      (by decide : StatusRequestKind.all ≠ .initial) hcycle rfl fuel⟩

/-- The divergence with the filter that keeps the last EAV of each value, under a content hash
that tells entries and headers apart. -/
theorem self_update_never_returns_tagged :
    let hash : CasContent String → String := fun c => match c with
      | .entry _ => "entry"
      | .header _ => "header"
    LatestByAttribute latestByValue ∧
    ChainHeader.address hash
        ⟨.app "t", Entry.address hash (.app "t" "v"), [], none, none, none, 0⟩ ≠
      Entry.address hash (.app "t" "v") ∧
    let entry : Entry String := .app "t" "v"
    let header : ChainHeader String := ⟨.app "t", entry.address hash, [], none, none, none, 0⟩
    let update : ChainHeader String :=
      { header with linkUpdateDelete := some (entry.address hash), timestamp := 1 }
    ∃ x, Run.ReachableBy (DhtStep (shardWrites latestByValue hash fun _ => "") hash fun _ => "")
        (Shard.new, DhtStore.new)
        [(.holdAspect (.content entry header) (0, 0), 0), (.holdAspect (.update entry update) (0, 1), 0)] x ∧
      ∀ fuel,
        x.1.getEntryResultWorkflowLocal hash [] latestByValue fuel
            ⟨entry.address hash, ⟨.latest, false⟩⟩ = none ∧
          x.1.getEntryResultWorkflowLocal hash [] latestByValue fuel
            ⟨entry.address hash, ⟨.all, false⟩⟩ = none :=
  ⟨latestByValue_spec, by decide,
    self_update_never_returns _ (fun _ => "") (fun _ => "") [] false latestByValue
      latestByValue_spec (by decide)⟩

end Holochain
