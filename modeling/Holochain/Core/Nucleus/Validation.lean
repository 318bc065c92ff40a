/-
The entry validation workflow (`nucleus/validation/mod.rs`, `header_address.rs`,
`provenances.rs`) over the validation data of `core_types/src/validation.rs`.

`validate_entry` prunes the package's source-chain headers to those older than the
validated header, checks that the header names the entry, verifies every provenance of the
header, and hands the entry to a validator chosen by its type. The type-specific validators
run wasm callbacks or read the DHT; they are a parameter `EntryValidators`, and signature
verification (`Provenance::verify`) is a parameter `verify`.

Main results:
* `validateEntry_eq_ok` — an accepted entry has the header's address, every provenance of
  the header verifies, and its type's validator accepted data whose source-chain headers
  are all older than the header;
* `unsigned_header_passes` — a header without provenances passes the signature stage.
-/
import Holochain.Core.ChainStore
import Holochain.Lib.Except

namespace Holochain

variable {A : Type}

variable (A) in
/-- `ValidationPackage`. -/
structure ValidationPackage where
  chainHeader : ChainHeader A
  sourceChainEntries : Option (List (Entry A))
  sourceChainHeaders : Option (List (ChainHeader A))
  custom : Option String
  deriving DecidableEq, Repr

/-- `ValidationPackageDefinition`. -/
inductive ValidationPackageDefinition
  | entry
  | chainEntries
  | chainHeaders
  | chainFull
  | custom (s : String)
  deriving DecidableEq, Repr

/-- `EntryLifecycle`. -/
inductive EntryLifecycle
  | chain
  | dht
  | «meta»
  deriving DecidableEq, Repr

variable (A) in
/-- `ValidationData`. -/
structure ValidationData where
  package : ValidationPackage A
  lifecycle : EntryLifecycle
  deriving DecidableEq, Repr

variable (A) in
/-- `ValidationError`. -/
inductive ValidationError
  | fail (reason : String)
  | unresolvedDependencies (addresses : List A)
  | notImplemented
  | error (e : HolochainError)

/-- `ValidationContext`. -/
inductive ValidationContext
  | authoring
  | holding
  deriving DecidableEq, Repr

variable (A) in
/-- The validators `validate_entry` dispatches to: `validate_app_entry` (with the app entry
type and the link being updated), `validate_link_entry`, `validate_remove_entry` and
`validate_agent_entry`. -/
structure EntryValidators where
  validateAppEntry : Entry A → String → Option A → ValidationData A →
    Except (ValidationError A) Unit
  validateLinkEntry : Entry A → ValidationData A → ValidationContext →
    Except (ValidationError A) Unit
  validateRemoveEntry : Entry A → ValidationData A → Except (ValidationError A) Unit
  validateAgentEntry : Entry A → ValidationData A → Except (ValidationError A) Unit

namespace Validation

/-- The cleanup at the start of `validate_entry`: only source-chain headers strictly older
than the validated header are kept. -/
def pruneHeaders (d : ValidationData A) : ValidationData A :=
  let t := d.package.chainHeader.timestamp
  { d with package := { d.package with
      sourceChainHeaders := d.package.sourceChainHeaders.map fun headers =>
        headers.filter fun header => decide (header.timestamp < t) } }

/-- `header_address::validate_header_address`. -/
def validateHeaderAddress [DecidableEq A] (hash : CasContent A → A) (entry : Entry A)
    (header : ChainHeader A) : Except (ValidationError A) Unit :=
  if entry.address hash = header.entryAddress then .ok ()
  else .error (.fail "Wrong header for entry")

/-- `provenances::validate_provenances`: every provenance of the header must verify over the
entry address, the first that does not is the error. `verify` is `Provenance::verify`, whose
error is a key that could not be read; `addressString` is an address's `Display`. -/
def validateProvenances (verify : Provenance A → String → Except HolochainError Bool)
    (addressString : A → String) (validationData : ValidationData A) :
    Except (ValidationError A) Unit :=
  let header := validationData.package.chainHeader
  header.provenances.forM fun provenance =>
    match verify provenance (addressString header.entryAddress) with
    | .error _ =>
      .error (.fail ("Signature of entry " ++ addressString header.entryAddress ++
        " from author " ++ addressString provenance.source ++
        " failed to verify public signing key. Key might be invalid."))
    | .ok true => .ok ()
    | .ok false =>
      .error (.fail ("Signature of entry " ++ addressString header.entryAddress ++
        " from author " ++ addressString provenance.source ++ " invalid"))

/-- The `match entry.entry_type()` of `validate_entry`. -/
def validateEntryType (v : EntryValidators A) (entry : Entry A) (link : Option A)
    (validationData : ValidationData A) (validationContext : ValidationContext) :
    Except (ValidationError A) Unit :=
  match entry.entryType with
  | .dna => .ok ()
  | .app appEntryType => v.validateAppEntry entry appEntryType link validationData
  | .linkAdd => v.validateLinkEntry entry validationData validationContext
  | .linkRemove => v.validateLinkEntry entry validationData validationContext
  | .deletion => v.validateRemoveEntry entry validationData
  | .capTokenGrant => .ok ()
  | .agentId => v.validateAgentEntry entry validationData
  | .chainHeader => .ok ()
  | _ => .error .notImplemented

/-- `validate_entry`. -/
def validateEntry [DecidableEq A] (hash : CasContent A → A)
    (verify : Provenance A → String → Except HolochainError Bool) (addressString : A → String)
    (v : EntryValidators A) (entry : Entry A) (link : Option A) (validationData : ValidationData A)
    (validationContext : ValidationContext) : Except (ValidationError A) Unit := do
  let validationData := pruneHeaders validationData
  validateHeaderAddress hash entry validationData.package.chainHeader
  validateProvenances verify addressString validationData
  validateEntryType v entry link validationData validationContext

/-! ### What an accepted entry satisfies -/

@[simp] theorem chainHeader_pruneHeaders (d : ValidationData A) :
    (pruneHeaders d).package.chainHeader = d.package.chainHeader := rfl

/-- The pruned data holds only headers strictly older than the validated one. -/
theorem timestamp_lt_of_mem_pruneHeaders {d : ValidationData A} {headers : List (ChainHeader A)}
    (hd : (pruneHeaders d).package.sourceChainHeaders = some headers) :
    ∀ h ∈ headers, h.timestamp < d.package.chainHeader.timestamp := by
  intro h hh
  unfold pruneHeaders at hd
  obtain ⟨all, -, rfl⟩ := Option.map_eq_some_iff.mp hd
  simpa using (List.mem_filter.mp hh).2

theorem validateHeaderAddress_eq_ok [DecidableEq A] {hash : CasContent A → A} {entry : Entry A}
    {header : ChainHeader A} :
    validateHeaderAddress hash entry header = .ok () ↔ entry.address hash = header.entryAddress := by
  unfold validateHeaderAddress
  split <;> simp_all

/-- The signature stage passes exactly when every provenance of the header verifies. -/
theorem validateProvenances_eq_ok {verify : Provenance A → String → Except HolochainError Bool}
    {addressString : A → String} {d : ValidationData A} :
    validateProvenances verify addressString d = .ok () ↔
      ∀ p ∈ d.package.chainHeader.provenances,
        verify p (addressString d.package.chainHeader.entryAddress) = .ok true := by
  unfold validateProvenances
  rw [Except.forM_eq_ok]
  refine forall₂_congr fun p _ => ?_
  split <;> simp_all

/-- An accepted entry has the address its header names, every provenance of the header
verifies over that address, and the validator of its type accepted the data with the
source-chain headers pruned to those strictly older than the header. -/
theorem validateEntry_eq_ok [DecidableEq A] {hash : CasContent A → A}
    {verify : Provenance A → String → Except HolochainError Bool} {addressString : A → String}
    {v : EntryValidators A} {entry : Entry A} {link : Option A} {d : ValidationData A}
    {ctx : ValidationContext}
    (h : validateEntry hash verify addressString v entry link d ctx = .ok ()) :
    entry.address hash = d.package.chainHeader.entryAddress ∧
      (∀ p ∈ d.package.chainHeader.provenances,
        verify p (addressString d.package.chainHeader.entryAddress) = .ok true) ∧
      ∃ d', d'.package.chainHeader = d.package.chainHeader ∧
        (∀ headers, d'.package.sourceChainHeaders = some headers →
          ∀ h ∈ headers, h.timestamp < d.package.chainHeader.timestamp) ∧
        validateEntryType v entry link d' ctx = .ok () := by
  unfold validateEntry at h
  obtain ⟨_, haddr, h⟩ := Except.bind_eq_ok.mp h
  obtain ⟨_, hprov, htype⟩ := Except.bind_eq_ok.mp h
  refine ⟨validateHeaderAddress_eq_ok.mp haddr, validateProvenances_eq_ok.mp hprov,
    pruneHeaders d, rfl, fun _ hd => timestamp_lt_of_mem_pruneHeaders hd, htype⟩

end Validation

/-- A DNA entry under a header that names it and carries no provenance at all is accepted:
the signature stage folds over an empty list, and DNA entries are not validated further. -/
theorem unsigned_header_passes [DecidableEq A] (hash : CasContent A → A)
    (verify : Provenance A → String → Except HolochainError Bool) (addressString : A → String)
    (v : EntryValidators A) (json : String) (link : Option A) (header : ChainHeader A)
    (package : ValidationPackage A) (lifecycle : EntryLifecycle) (ctx : ValidationContext) :
    Validation.validateEntry hash verify addressString v (.dna json) link
      ⟨{ package with chainHeader :=
          { header with entryAddress := (Entry.dna json).address hash, provenances := [] } },
        lifecycle⟩ ctx = .ok () := by
  -- the header names the entry, and the fold over its provenances has nothing to check
  have hprov : Validation.validateProvenances verify addressString
      (Validation.pruneHeaders ⟨{ package with chainHeader :=
          { header with entryAddress := (Entry.dna json).address hash, provenances := [] } },
        lifecycle⟩) = .ok () :=
    Validation.validateProvenances_eq_ok.mpr (by simp)
  simp [Validation.validateEntry, Validation.validateHeaderAddress, hprov,
    Validation.validateEntryType, Entry.entryType]

end Holochain
