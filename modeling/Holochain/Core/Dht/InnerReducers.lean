/-
The shard storages of the DHT and what the hold reducers write to them: the inner reducers
of `dht/dht_inner_reducers.rs` and `DhtStore::add_header_for_entry`, over the CAS and EAV
stores of `holochain_persistence_api` and the crud-status EAVs of
`core_types/src/crud_status.rs`.

Addresses are `HashString`s. The EAV store keeps a crud status as the address made of its
name, so this part of the model fixes the address type to `String`.

The EAV store is kept as the EAVs written to it, in the order of their indices: a crud-status,
crud-link or header EAV takes the current time as its index, so it comes after every EAV
written before it. (A link EAV takes its header's timestamp instead; no modelled query asks
for the latest link.) What `fetch_eavi` with `IndexFilter::LatestByAttribute` returns from
them belongs to `holochain_persistence_api`, which is not part of the repository: it is a
parameter `latest`, and the structures `LatestByAttribute` and `LatestByAttribute.ValueBlind`
name what the results assume of it. `latestByValue`, which keeps the last EAV of each value,
meets both. Storage failures of the backing stores are not modelled.

* `shardWrites` — the inner reducers as the writes of the hold reducers;
* `latestByValue_spec`, `latestByValue_valueBlind` — the filter that keeps each value's last
  EAV meets the assumptions;
* `eav_prefix_of_step`, `eav_prefix_of_reachable` — over every run of the DHT reducers the
  EAV store only grows: no EAV is ever taken back.
-/
import Holochain.Core.Dht.Reducers
import Holochain.Core.Network.Handler
import Holochain.CoreTypes.Eav

namespace Holochain

open Network (CrudStatus)

/-- `From<CrudStatus> for String`: the lower-case name. -/
def Network.CrudStatus.toString : CrudStatus → String
  | .live => "live"
  | .rejected => "rejected"
  | .deleted => "deleted"
  | .modified => "modified"
  | .locked => "locked"

/-- `CrudStatus::from_str`: exactly the lower-case names are read back. -/
def Network.CrudStatus.fromStr (s : String) : Except String CrudStatus :=
  if s = "live" then .ok .live
  else if s = "rejected" then .ok .rejected
  else if s = "deleted" then .ok .deleted
  else if s = "modified" then .ok .modified
  else if s = "locked" then .ok .locked
  else .error "failed to deserialize CrudStatus enum"

@[simp] theorem Network.CrudStatus.fromStr_toString (status : CrudStatus) :
    CrudStatus.fromStr status.toString = .ok status := by
  cases status <;> rfl

/-- A name reads back as a status exactly when it is that status's name. -/
theorem Network.CrudStatus.fromStr_toOption_eq_some {s : String} {status : CrudStatus} :
    (CrudStatus.fromStr s).toOption = some status ↔ s = status.toString := by
  constructor
  · intro h
    unfold CrudStatus.fromStr at h
    split_ifs at h <;> cases status <;> simp_all [Except.toOption, CrudStatus.toString]
  · rintro rfl
    simp [Except.toOption]

/-- `From<PersistenceError> for HolochainError`. -/
def PersistenceError.toHolochainError : PersistenceError → HolochainError
  | .errorGeneric e => .errorGeneric e

/-- `EntityAttributeValueIndex`, without its index: the store keeps its entries in index
order. The attribute is the field `attr` (`attribute` is a keyword). -/
structure EntityAttributeValueIndex where
  entity : String
  attr : Attribute String
  value : String
  deriving DecidableEq, Repr

/-- `EntityAttributeValueIndex::new`: the attribute's name must be valid. -/
def EntityAttributeValueIndex.new (entity : String) (attr : Attribute String) (value : String) :
    Except PersistenceError EntityAttributeValueIndex := do
  attr.validateAttribute
  pure ⟨entity, attr, value⟩

/-- `create_crud_status_eav`. -/
def createCrudStatusEav (address : String) (status : CrudStatus) :
    Except PersistenceError EntityAttributeValueIndex :=
  EntityAttributeValueIndex.new address .crudStatus status.toString

/-- `create_crud_link_eav`. -/
def createCrudLinkEav (source target : String) : Except PersistenceError EntityAttributeValueIndex :=
  EntityAttributeValueIndex.new source .crudLink target

/-- The crud attributes have no name to validate. -/
@[simp] theorem createCrudStatusEav_eq (address : String) (status : CrudStatus) :
    createCrudStatusEav address status = .ok ⟨address, .crudStatus, status.toString⟩ := rfl

@[simp] theorem createCrudLinkEav_eq (source target : String) :
    createCrudLinkEav source target = .ok ⟨source, .crudLink, target⟩ := rfl

/-- The EAV is of the entity and the attribute a query names. -/
def EntityAttributeValueIndex.isOf (entity : String) (attr : Attribute String)
    (eavi : EntityAttributeValueIndex) : Bool :=
  eavi.entity == entity && eavi.attr == attr

/-- The EAV with its value renamed. -/
def EntityAttributeValueIndex.renameValue (σ : String → String) (eavi : EntityAttributeValueIndex) :
    EntityAttributeValueIndex :=
  { eavi with value := σ eavi.value }

@[simp] theorem EntityAttributeValueIndex.isOf_renameValue (σ : String → String)
    (entity : String) (attr : Attribute String) (eavi : EntityAttributeValueIndex) :
    (eavi.renameValue σ).isOf entity attr = eavi.isOf entity attr := rfl

/-! ### The filter `IndexFilter::LatestByAttribute` -/

/-- `fetch_eavi` with `IndexFilter::LatestByAttribute`, for one entity and one attribute, on
the EAVs of a store in index order; the result is in the order of the returned set. -/
abbrev LatestFetch :=
  List EntityAttributeValueIndex → String → Attribute String → List EntityAttributeValueIndex

/-- What the results assume of `IndexFilter::LatestByAttribute`: asked for one entity and one
attribute, it returns EAVs of the store of that entity and attribute only, and always the last
of them written. -/
structure LatestByAttribute (latest : LatestFetch) : Prop where
  mem_filter : ∀ {eavs entity attr eavi}, eavi ∈ latest eavs entity attr →
    eavi ∈ eavs.filter (·.isOf entity attr)
  getLast_mem : ∀ {eavs entity attr eavi},
    (eavs.filter (·.isOf entity attr)).getLast? = some eavi → eavi ∈ latest eavs entity attr

/-- Two more assumptions, for the results on the order of holds: the filter reads only the
EAVs of the entity and attribute asked for, and compares their values only for equality, so
renaming the values renames what it returns. -/
structure LatestByAttribute.ValueBlind (latest : LatestFetch) : Prop where
  filter_eq : ∀ eavs entity attr,
    latest eavs entity attr = latest (eavs.filter (·.isOf entity attr)) entity attr
  map_renameValue : ∀ (σ : Equiv.Perm String) eavs entity attr,
    latest (eavs.map (·.renameValue σ)) entity attr =
      (latest eavs entity attr).map (·.renameValue σ)

/-- Of a list of EAVs, the last of each value, in their order. -/
def lastByValue : List EntityAttributeValueIndex → List EntityAttributeValueIndex
  | [] => []
  | eavi :: rest =>
    if rest.any (·.value == eavi.value) then lastByValue rest else eavi :: lastByValue rest

/-- A filter that meets the assumptions: of the EAVs of the entity and attribute, the last of
each value. -/
def latestByValue : LatestFetch := fun eavs entity attr =>
  lastByValue (eavs.filter (·.isOf entity attr))

theorem lastByValue_subset (eavs : List EntityAttributeValueIndex) : lastByValue eavs ⊆ eavs := by
  induction eavs with
  | nil => exact List.Subset.refl _
  | cons eavi rest ih =>
    unfold lastByValue
    split
    · exact List.Subset.trans ih (List.subset_cons_self eavi rest)
    · exact List.cons_subset_cons eavi ih

/-- The last EAV of the list is always kept. -/
theorem mem_lastByValue_of_getLast? {eavs : List EntityAttributeValueIndex}
    {eavi : EntityAttributeValueIndex} (h : eavs.getLast? = some eavi) : eavi ∈ lastByValue eavs := by
  induction eavs with
  | nil => exact absurd h (by simp)
  | cons x rest ih =>
    cases rest with
    | nil =>
      obtain rfl : x = eavi := by simpa using h
      simp [lastByValue]
    | cons y rest' =>
      -- the last EAV lies in the tail, and the tail's survivors survive in the whole list
      have hin : eavi ∈ lastByValue (y :: rest') := ih (by simpa [List.getLast?_cons_cons] using h)
      unfold lastByValue
      split
      · exact hin
      · exact List.mem_cons_of_mem x hin

/-- Renaming the values by an injective map commutes with keeping the last of each value. -/
theorem lastByValue_map_renameValue {σ : String → String} (hσ : Function.Injective σ)
    (eavs : List EntityAttributeValueIndex) :
    lastByValue (eavs.map (·.renameValue σ)) = (lastByValue eavs).map (·.renameValue σ) := by
  induction eavs with
  | nil => rfl
  | cons eavi rest ih =>
    have hany : ((rest.map (·.renameValue σ)).any fun e => e.value == σ eavi.value) =
        rest.any (·.value == eavi.value) := by
      simp only [List.any_map, Function.comp_def, EntityAttributeValueIndex.renameValue]
      congr 1
      funext x
      by_cases h : x.value = eavi.value
      · simp [h]
      · simp [h, hσ.ne h]
    simp only [List.map_cons, lastByValue]
    rw [show (eavi.renameValue σ).value = σ eavi.value from rfl, hany]
    split <;> simp [ih]

theorem latestByValue_spec : LatestByAttribute latestByValue where
  mem_filter h := lastByValue_subset _ h
  getLast_mem h := mem_lastByValue_of_getLast? h

theorem latestByValue_valueBlind : LatestByAttribute.ValueBlind latestByValue where
  filter_eq eavs entity attr := by
    simp only [latestByValue, List.filter_filter, Bool.and_self]
  map_renameValue σ eavs entity attr := by
    simp only [latestByValue, List.filter_map, Function.comp_def,
      EntityAttributeValueIndex.isOf_renameValue]
    exact lastByValue_map_renameValue σ.injective _

/-- The storages a DHT store shares with its clones: the contents by address, and the EAVs
in index order. -/
structure Shard where
  cas : Cas String
  eav : List EntityAttributeValueIndex

namespace Shard

variable (hash : CasContent String → String) (latest : LatestFetch)

/-- The storages of `DhtStore::new`. -/
def new : Shard := ⟨∅, []⟩

/-- `add` of an entry or a header to the CAS. -/
def add (st : Shard) (content : CasContent String) : Shard :=
  { st with cas := Cas.add hash st.cas content }

/-- `add_eavi`. -/
def addEavi (st : Shard) (eavi : EntityAttributeValueIndex) : Shard :=
  { st with eav := st.eav ++ [eavi] }

/-- `contains`. -/
def contains (st : Shard) (address : String) : Bool :=
  (st.cas.lookup address).isSome

/-- `DhtStore::get`: the content at the address read as an entry. A header is read as
`Entry::ChainHeader`. -/
def get (st : Shard) (address : String) : Option (Entry String) :=
  (st.cas.lookup address).map fun
    | .entry e => e
    | .header h => .chainHeader h

/-- `fetch_eavi` for one entity and one attribute with `IndexFilter::LatestByAttribute`. -/
def fetchEavi (st : Shard) (entity : String) (attr : Attribute String) :
    List EntityAttributeValueIndex :=
  latest st.eav entity attr

@[simp] theorem get_addEavi (st : Shard) (eavi : EntityAttributeValueIndex) :
    (st.addEavi eavi).get = st.get := rfl

@[simp] theorem eav_addEavi (st : Shard) (eavi : EntityAttributeValueIndex) :
    (st.addEavi eavi).eav = st.eav ++ [eavi] := rfl

@[simp] theorem eav_add (st : Shard) (content : CasContent String) :
    (st.add hash content).eav = st.eav := rfl

variable {latest}

/-- What the query returns is an EAV of the store, of the entity and attribute asked for. -/
theorem mem_fetchEavi (hlatest : LatestByAttribute latest) {st : Shard} {entity : String}
    {attr : Attribute String} {eavi : EntityAttributeValueIndex}
    (h : eavi ∈ st.fetchEavi latest entity attr) :
    eavi ∈ st.eav ∧ eavi.entity = entity ∧ eavi.attr = attr := by
  have hmem := hlatest.mem_filter h
  simp only [List.mem_filter, EntityAttributeValueIndex.isOf, Bool.and_eq_true,
    beq_iff_eq] at hmem
  exact ⟨hmem.1, hmem.2⟩

/-- The query returns something when the store has an EAV of the entity and attribute. -/
theorem fetchEavi_ne_nil (hlatest : LatestByAttribute latest) {st : Shard} {entity : String}
    {attr : Attribute String} {eavi : EntityAttributeValueIndex} (hmem : eavi ∈ st.eav)
    (hof : eavi.isOf entity attr = true) : st.fetchEavi latest entity attr ≠ [] := by
  have hne : st.eav.filter (·.isOf entity attr) ≠ [] :=
    List.ne_nil_of_mem (List.mem_filter.mpr ⟨hmem, hof⟩)
  obtain ⟨last, hlast⟩ := Option.isSome_iff_exists.mp (List.getLast?_isSome.mpr hne)
  exact List.ne_nil_of_mem (hlatest.getLast_mem hlast)

/-- When the store has one EAV of the entity and attribute, the query returns it and nothing
else. -/
theorem fetchEavi_of_filter_eq_singleton (hlatest : LatestByAttribute latest) {st : Shard}
    {entity : String} {attr : Attribute String} {eavi : EntityAttributeValueIndex}
    (h : st.eav.filter (·.isOf entity attr) = [eavi]) :
    (∀ e ∈ st.fetchEavi latest entity attr, e = eavi) ∧ eavi ∈ st.fetchEavi latest entity attr := by
  refine ⟨fun e he => ?_, hlatest.getLast_mem (by rw [h]; rfl)⟩
  have hmem := hlatest.mem_filter he
  rw [h] at hmem
  exact List.mem_singleton.mp hmem

theorem head?_fetchEavi_of_filter_eq_singleton (hlatest : LatestByAttribute latest) {st : Shard}
    {entity : String} {attr : Attribute String} {eavi : EntityAttributeValueIndex}
    (h : st.eav.filter (·.isOf entity attr) = [eavi]) :
    (st.fetchEavi latest entity attr).head? = some eavi := by
  obtain ⟨hall, hmem⟩ := fetchEavi_of_filter_eq_singleton hlatest h
  cases hl : st.fetchEavi latest entity attr with
  | nil =>
    rw [hl] at hmem
    cases hmem
  | cons e rest =>
    rw [hl] at hall
    rw [List.head?_cons, hall e List.mem_cons_self]

/-! ### The inner reducers -/

variable (debugLink : LinkData String → String) (latest)

/-- `reduce_store_entry_inner`: the entry goes into the CAS, with the status `Live`. -/
def reduceStoreEntryInner (st : Shard) (entry : Entry String) : Shard × Except HolochainError Unit :=
  let st := st.add hash (.entry entry)
  match createCrudStatusEav (entry.address hash) .live with
  | .ok statusEav => (st.addEavi statusEav, .ok ())
  | .error e => (st, .error e.toHolochainError)

/-- `DhtStore::add_header_for_entry`: the header goes into the CAS, and an EAV from the
entry to it. -/
def addHeaderForEntry (st : Shard) (entry : Entry String) (header : ChainHeader String) :
    Shard × Except HolochainError Unit :=
  match EntityAttributeValueIndex.new (entry.address hash) .entryHeader (header.address hash) with
  | .error e => (st, .error e.toHolochainError)
  | .ok eavi => ((st.add hash (.header header)).addEavi eavi, .ok ())

/-- `reduce_add_remove_link_inner`: an EAV from the link's base, whose attribute names the
link, or the removal of a link and the header that removes it. The base must be stored.
`debugLink` is the link's `Debug` text. -/
def reduceAddRemoveLinkInner (st : Shard) (link : LinkData String) (address : String)
    (linkModification : LinkModification) (header : ChainHeader String) :
    Shard × Except HolochainError String :=
  if st.contains link.base then
    let attr : Attribute String := match linkModification with
      | .add => .linkTag link.linkType link.tag
      | .remove => .removedLink header.entryAddress link.linkType link.tag
    match EntityAttributeValueIndex.new link.base attr address with
    | .error e => (st, .error e.toHolochainError)
    | .ok eav => (st.addEavi eav, .ok link.base)
  else (st, .error (.errorGeneric ("Base for link not found: " ++ debugLink link)))

/-- `reduce_update_entry_inner`: the old entry's status becomes `Modified`, with a crud link
to the new address. The new entry itself is not stored. -/
def reduceUpdateEntryInner (st : Shard) (oldAddress newAddress : String) :
    Shard × Except HolochainError String :=
  match createCrudStatusEav oldAddress .modified with
  | .error e => (st, .error e.toHolochainError)
  | .ok newStatusEav =>
    let st := st.addEavi newStatusEav
    match createCrudLinkEav oldAddress newAddress with
    | .error e => (st, .error e.toHolochainError)
    | .ok crudLinkEav => (st.addEavi crudLinkEav, .ok newAddress)

/-- `reduce_remove_entry_inner`: a stored entry of an application type whose latest status
is `Live` gets the status `Deleted`. -/
def reduceRemoveEntryInner (st : Shard) (latestDeletedAddress _deletionAddress : String) :
    Shard × Except HolochainError String :=
  match st.get latestDeletedAddress with
  | none => (st, .error (.errorGeneric "trying to remove a missing entry"))
  | some entry =>
    if entry.entryType.isSys then
      (st, .error (.errorGeneric "trying to remove a system entry type"))
    else
      let statusEavs := (st.fetchEavi latest latestDeletedAddress .crudStatus).filter fun e =>
        (CrudStatus.fromStr e.value).toOption != some .live
      if !statusEavs.isEmpty then (st, .error (.errorGeneric "entry_status != CrudStatus::Live"))
      else
        match createCrudStatusEav latestDeletedAddress .deleted with
        | .error _ => (st, .error (.errorGeneric "Could not create eav"))
        | .ok newStatusEav => (st.addEavi newStatusEav, .ok latestDeletedAddress)

end Shard

/-- The inner reducers as the writes of the hold reducers. -/
def shardWrites (latest : LatestFetch) (hash : CasContent String → String)
    (debugLink : LinkData String → String) : ShardWrites Shard String :=
  ⟨Shard.reduceStoreEntryInner hash, Shard.addHeaderForEntry hash,
    Shard.reduceAddRemoveLinkInner debugLink, Shard.reduceUpdateEntryInner,
    Shard.reduceRemoveEntryInner latest⟩

/-! ### The EAV store only grows -/

section Grows

variable (latest : LatestFetch) (hash : CasContent String → String)
  (debugLink : LinkData String → String)

/-- Every inner reducer keeps the EAVs it finds and can only add to them. -/
theorem shardWrites_keepsEavs :
    (shardWrites latest hash debugLink).Keeps String fun st st' => st.eav <+: st'.eav where
  refl st := List.prefix_refl st.eav
  trans h₁ h₂ := h₁.trans h₂
  storeEntry st entry := by
    simp [shardWrites, Shard.reduceStoreEntryInner]
  addHeaderForEntry st entry header := by
    simp only [shardWrites, Shard.addHeaderForEntry]
    split <;> simp
  addRemoveLink st link address m header := by
    simp only [shardWrites, Shard.reduceAddRemoveLinkInner]
    split
    · split <;> simp
    · exact List.prefix_refl st.eav
  updateEntry st oldAddress newAddress := by
    simp [shardWrites, Shard.reduceUpdateEntryInner]
  removeEntry st oldAddress deletionAddress := by
    simp only [shardWrites, Shard.reduceRemoveEntryInner]
    split
    · exact List.prefix_refl st.eav
    · split
      · exact List.prefix_refl st.eav
      · split
        · exact List.prefix_refl st.eav
        · simp

variable {latest hash debugLink} {aspectHash : EntryAspect String → String}

theorem eav_prefix_of_step {x x' : Shard × DhtStore String} {l : DhtAction String × Nat}
    (h : DhtStep (shardWrites latest hash debugLink) hash aspectHash x l x') : x.1.eav <+: x'.1.eav :=
  Dht.keeps_of_step (shardWrites_keepsEavs latest hash debugLink) h

/-- Over every run of the DHT reducers, the EAVs at its start are still there, in order. -/
theorem eav_prefix_of_reachable {x₀ x : Shard × DhtStore String}
    (h : Run.Reachable (DhtStep (shardWrites latest hash debugLink) hash aspectHash) x₀ x) :
    x₀.1.eav <+: x.1.eav :=
  Dht.keeps_of_reachable (shardWrites_keepsEavs latest hash debugLink) h

end Grows

end Holochain
