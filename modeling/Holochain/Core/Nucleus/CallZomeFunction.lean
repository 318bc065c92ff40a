/-
Zome-call authorization (`nucleus/actions/call_zome_function.rs`) over the capability grants
of `entry/cap_entries.rs`.

`validate_call` first makes sure the DNA, the zome and the function exist, then accepts the
call when a grant on the callee's own chain admits it (`check_capability`), or when the
call's token is the callee's public key and the call's signature verifies
(`is_token_the_agent`, `verify_call_sig`). Rust's `||` and `&&` short-circuit, and so does
the model: the second path runs only when the first says no.

Signature verification (`dpki::utils::verify`) is a parameter `verify source data signature`,
which fails when the signature or the key does not decode; `verify_call_sig` unwraps it, a
panic here. `base64::encode` is a parameter too.

Main results:

* `capType_create` — `CapTokenGrant::create` makes a grant of the type asked for;
* `verifyGrant_eq_true` — a grant that admits a call lists its function, has its token,
  and is public, transferable, or assigned to the call's signer;
* `getEntryFromAgentChain_of_chainInv` — on a chain with the chain invariant the lookup never
  panics and finds what the store holds at an address a header of the chain names;
* `validateCall_eq_ok` — what `validate_call` accepts, path by path;
* `validateCall_sound` — on every chain the agent's reducer builds, an accepted call carries
  a valid signature and either a grant of the callee admits its signer or its token is the
  callee's key. That token is public: the second path does not tie the signer to the callee.
-/
import Holochain.Core.Agent

namespace Holochain

variable {A : Type} [DecidableEq A]

/-! ### Grants -/

namespace CapTokenGrant

/-- `CapTokenGrant::cap_type`: read off the shape of the assignees. -/
def capType (grant : CapTokenGrant A) : CapabilityType :=
  match grant.assignees with
  | none => .public
  | some vec => if vec.isEmpty then .transferable else .assigned

/-- `CapTokenGrant::token`: the address of the grant's entry. -/
def token (hash : CasContent A → A) (grant : CapTokenGrant A) : A :=
  (Entry.capTokenGrant grant).address hash

/-- `CapTokenGrant::valid`: the assignees a grant of a type is stored with. -/
def valid (capType : CapabilityType) (assignees : Option (List A)) :
    Except HolochainError (Option (List A)) :=
  if (capType == .public || capType == .transferable) &&
      (assignees.isSome && !(assignees.getD []).isEmpty) then
    .error (.errorGeneric "there must be no assignees for public or transferable grants")
  else
    match capType with
    | .assigned =>
      if assignees.isNone || (assignees.getD []).isEmpty then
        .error (.errorGeneric "Assigned grant must have 1 or more assignees")
      else .ok assignees
    | .public => .ok none
    | .transferable => .ok (some [])

/-- `CapTokenGrant::create`. -/
def create (id : String) (capType : CapabilityType) (assignees : Option (List A))
    (functions : CapFunctions) : Except HolochainError (CapTokenGrant A) := do
  let assignees ← valid capType assignees
  return ⟨id, assignees, functions⟩

omit [DecidableEq A] in
theorem capType_of_valid {t : CapabilityType} {assignees stored : Option (List A)}
    {grant : CapTokenGrant A} (h : valid t assignees = .ok stored)
    (hg : grant.assignees = stored) : grant.capType = t := by
  unfold valid at h
  split at h
  · cases h
  · cases t with
    | assigned =>
      simp only at h
      split at h
      · cases h
      · rename_i hne
        cases h
        cases assignees with
        | none => simp at hne
        | some vec => simpa [capType, hg] using hne
    | «public» => cases h; simp [capType, hg]
    | transferable => cases h; simp [capType, hg]

omit [DecidableEq A] in
/-- A created grant has the type it was created with: the type is not stored, but the
shape `valid` gives the assignees determines it. -/
theorem capType_create {id : String} {t : CapabilityType} {assignees : Option (List A)}
    {functions : CapFunctions} {grant : CapTokenGrant A}
    (h : create id t assignees functions = .ok grant) : grant.capType = t := by
  obtain ⟨stored, hv, hg⟩ := Except.bind_eq_ok.mp h
  cases hg
  exact capType_of_valid hv rfl

end CapTokenGrant

/-! ### Calls, the DNA and the instance -/

variable (A) in
/-- `CapabilityRequest`: the token a call presents and who signed the call. -/
structure CapabilityRequest where
  capToken : A
  provenance : Provenance A
  deriving DecidableEq, Repr

variable (A) in
/-- `ZomeFnCall`, without its process-unique id. The parameters are their JSON text. -/
structure ZomeFnCall where
  zomeName : String
  cap : CapabilityRequest A
  fnName : String
  parameters : String
  deriving DecidableEq, Repr

/-- `DnaWasm`: a zome's code. -/
abbrev DnaWasm := List UInt8

/-- `Zome`, with the names of its function declarations and its code. -/
structure Zome where
  fnDeclarations : List String
  code : DnaWasm
  deriving DecidableEq, Repr

/-- `Dna`, with its name and its zomes by name (a `BTreeMap`). -/
structure Dna where
  name : String
  zomes : List (String × Zome)
  deriving DecidableEq, Repr

/-- `Dna::get_zome`. -/
def Dna.getZome (dna : Dna) (zomeName : String) : Except DnaError Zome :=
  match dna.zomes.lookup zomeName with
  | some zome => .ok zome
  | none => .error (.zomeNotFound ("Zome '" ++ zomeName ++ "' not found"))

/-- `Zome::get_function`. -/
def Zome.getFunction (zome : Zome) (fnName : String) : Option String :=
  zome.fnDeclarations.find? (· == fnName)

/-- `Dna::get_function_with_zome_name`. -/
def Dna.getFunctionWithZomeName (dna : Dna) (zomeName fnName : String) :
    Except DnaError String := do
  let zome ← dna.getZome zomeName
  match zome.getFunction fnName with
  | some f => .ok f
  | none => .error (.zomeFunctionNotFound
      ("Zome function '" ++ fnName ++ "' not found in Zome '" ++ zomeName ++ "'"))

variable (A) in
/-- The parts of an instance's `State` that `validate_call` reads: the agent's chain and the
nucleus's DNA. -/
structure State where
  agent : AgentState A
  dna : Option Dna

variable (A) in
/-- The parts of a `Context` that `validate_call` reads: the agent's public signing key and
the instance's state, absent before initialization. -/
structure Context where
  agentPubSignKey : A
  state : Option (State A)

/-! ### Reading the callee's chain -/

/-- `GetContent::get` on the chain's store: what is stored at an address, decoded as an
entry. A header does not decode (serde's message is not modelled). -/
def Cas.get (cas : Cas A) (address : A) : Except HolochainError (Option (Entry A)) :=
  match cas.lookup address with
  | none => .ok none
  | some (.entry e) => .ok (some e)
  | some (.header _) => .error (.serializationError "Entry::try_from_content")

/-- `get_entry_from_agent_chain`: the entry at an address, when a header of the chain names
it. The walk of the chain is `find` on the chain store's iterator. -/
def getEntryFromAgentChain (ctx : Context A) (address : A) :
    Except String (Except HolochainError (Option (Entry A))) :=
  match ctx.state with
  | none => .error "called Option::unwrap() on a None value"
  | some state => do
    let agent := state.agent
    let maybeHeader ← findChain ChainStoreIterator.ptr agent.chainStore
      (fun header => header.entryAddress == address) (chainBound agent.chainStore)
      agent.topChainHeader
    match maybeHeader with
    | none => return .ok none
    | some _ => return agent.chainStore.get address

/-- `get_grant`: a failed read is no grant (`ok()??`), a panic is not caught. -/
def getGrant (ctx : Context A) (address : A) : Except String (Option (CapTokenGrant A)) := do
  let entry ← getEntryFromAgentChain ctx address
  match entry with
  | .ok (some (.capTokenGrant grant)) => return some grant
  | _ => return none

/-! ### Checking a call -/

section Check

variable (hash : CasContent A → A) (verify : A → String → String → Except HolochainError Bool)
  (base64Encode : String → String)

/-- `encode_call_data_for_signing`. -/
def encodeCallDataForSigning (function parameters : String) : String :=
  base64Encode (function ++ ":" ++ parameters)

/-- `verify_call_sig`: the provenance's signature of the call data, unwrapped. -/
def verifyCallSig (provenance : Provenance A) (function parameters : String) :
    Except String Bool :=
  match verify provenance.source (encodeCallDataForSigning base64Encode function parameters)
      provenance.signature with
  | .ok b => .ok b
  | .error _ => .error "called Result::unwrap() on an Err value"

/-- `verify_grant`, its tests in the source's order. -/
def verifyGrant (grant : CapTokenGrant A) (fnCall : ZomeFnCall A) : Except String Bool :=
  match grant.functions.lookup fnCall.zomeName with
  | none => .ok false
  | some zomeGrants =>
    if !zomeGrants.contains fnCall.fnName then .ok false
    else if grant.token hash != fnCall.cap.capToken then .ok false
    else do
      let sigOk ← verifyCallSig verify base64Encode fnCall.cap.provenance fnCall.fnName
        fnCall.parameters
      if !sigOk then return false
      match grant.capType with
      | .public => return true
      | .transferable => return true
      | .assigned =>
        -- `assignees().unwrap()`: an assigned grant has assignees by `cap_type`
        match grant.assignees with
        | none => .error "called Option::unwrap() on a None value"
        | some assignees => return assignees.contains fnCall.cap.provenance.source

/-- `check_capability`: a grant stored on the chain under the call's token admits it. -/
def checkCapability (ctx : Context A) (fnCall : ZomeFnCall A) : Except String Bool := do
  let maybeGrant ← getGrant ctx fnCall.cap.capToken
  match maybeGrant with
  | none => return false
  | some grant => verifyGrant hash verify base64Encode grant fnCall

/-- `is_token_the_agent`: the call's token is the callee's public signing key. -/
def isTokenTheAgent (ctx : Context A) (request : CapabilityRequest A) : Bool :=
  ctx.agentPubSignKey == request.capToken

/-- The first block of `validate_call`: the DNA's name and the zome's code, when the DNA,
the zome and the function exist. -/
def dnaNameAndCode (ctx : Context A) (fnCall : ZomeFnCall A) :
    Except HolochainError (String × DnaWasm) := do
  let some state := ctx.state | .error (.errorGeneric "Context not initialized")
  let some dna := state.dna | .error .dnaMissing
  let zome ← (dna.getZome fnCall.zomeName).mapError .dna
  let _ ← (dna.getFunctionWithZomeName fnCall.zomeName fnCall.fnName).mapError .dna
  return (dna.name, zome.code)

/-- `validate_call`: a panic is the outer error, the returned `Result` the inner value. -/
def validateCall (ctx : Context A) (fnCall : ZomeFnCall A) :
    Except String (Except HolochainError (String × DnaWasm)) :=
  match dnaNameAndCode ctx fnCall with
  | .error e => .ok (.error e)
  | .ok (dnaName, code) => do
    let byGrant ← checkCapability hash verify base64Encode ctx fnCall
    let authorized ←
      if byGrant then pure true
      else if isTokenTheAgent ctx fnCall.cap then
        verifyCallSig verify base64Encode fnCall.cap.provenance fnCall.fnName fnCall.parameters
      else pure false
    return if authorized then .ok (dnaName, code) else .error .capabilityCheckFailed

end Check

/-! ### What a check that passes says -/

theorem Cas.get_eq_some {cas : Cas A} {address : A} {e : Entry A} :
    cas.get address = .ok (some e) ↔ cas.lookup address = some (.entry e) := by
  unfold Cas.get
  split <;> simp_all

/-- On a state with the chain invariant, the chain read never panics: it finds what the
store holds at an address exactly when a header of the chain names the address. -/
theorem getEntryFromAgentChain_of_chainInv {hash : CasContent A → A}
    (hinj : Function.Injective hash) {ctx : Context A} {state : State A}
    {chain : List (ChainHeader A)} (hs : ctx.state = some state)
    (hi : ChainInv hash state.agent chain) (address : A) :
    getEntryFromAgentChain ctx address =
      .ok (if chain.any (·.entryAddress == address) then state.agent.chainStore.get address
        else .ok none) := by
  simp only [getEntryFromAgentChain, hs, hi.findChain_eq hinj, Except.ok_bind]
  cases hf : chain.find? (·.entryAddress == address) with
  | none =>
    have hany : chain.any (·.entryAddress == address) = false := by
      simpa [List.find?_eq_none] using hf
    simp [hany]
  | some header =>
    have hany : chain.any (·.entryAddress == address) = true :=
      List.any_eq_true.mpr ⟨header, List.mem_of_find?_eq_some hf, by simpa using List.find?_some hf⟩
    simp [hany]

theorem getGrant_eq_some {ctx : Context A} {address : A} {grant : CapTokenGrant A}
    (h : getGrant ctx address = .ok (some grant)) :
    getEntryFromAgentChain ctx address = .ok (.ok (some (.capTokenGrant grant))) := by
  obtain ⟨entry, he, h⟩ := Except.bind_eq_ok.mp h
  rw [he]
  split at h
  · cases h
    rfl
  · cases h

section Check

variable {hash : CasContent A → A} {verify : A → String → String → Except HolochainError Bool}
  {base64Encode : String → String}

omit [DecidableEq A] in
theorem verifyCallSig_eq_ok {provenance : Provenance A} {function parameters : String}
    {b : Bool} :
    verifyCallSig verify base64Encode provenance function parameters = .ok b ↔
      verify provenance.source (encodeCallDataForSigning base64Encode function parameters)
        provenance.signature = .ok b := by
  unfold verifyCallSig
  split <;> simp_all

/-- A grant admits a call only when it lists the call's function under its zome, its token
is the call's, the call's signature verifies, and it is public, transferable, or assigned
to the call's signer. -/
theorem verifyGrant_eq_true {grant : CapTokenGrant A} {fnCall : ZomeFnCall A}
    (h : verifyGrant hash verify base64Encode grant fnCall = .ok true) :
    (∃ zomeGrants, grant.functions.lookup fnCall.zomeName = some zomeGrants ∧
      fnCall.fnName ∈ zomeGrants) ∧
    grant.token hash = fnCall.cap.capToken ∧
    verifyCallSig verify base64Encode fnCall.cap.provenance fnCall.fnName fnCall.parameters =
      .ok true ∧
    (grant.capType = .public ∨ grant.capType = .transferable ∨
      grant.capType = .assigned ∧ ∃ assignees, grant.assignees = some assignees ∧
        fnCall.cap.provenance.source ∈ assignees) := by
  unfold verifyGrant at h
  split at h
  · cases h
  · rename_i zomeGrants hz
    split at h
    · cases h
    · rename_i hc
      split at h
      · cases h
      · rename_i ht
        have hmem : fnCall.fnName ∈ zomeGrants := by simpa using hc
        have htok : grant.token hash = fnCall.cap.capToken := by simpa using ht
        obtain ⟨sigOk, hsig, h⟩ := Except.bind_eq_ok.mp h
        cases sigOk with
        | false => simp at h
        | true =>
          refine ⟨⟨zomeGrants, hz, hmem⟩, htok, hsig, ?_⟩
          rw [if_neg (by decide)] at h
          -- the three-way split of `verify_grant` on the grant's type
          cases hty : grant.capType with
          | «public» => exact .inl rfl
          | transferable => exact .inr (.inl rfl)
          | assigned =>
            simp only [hty] at h
            split at h
            · cases h
            · rename_i assignees has
              exact .inr (.inr ⟨rfl, assignees, has, by simpa using h⟩)

theorem checkCapability_eq_true {ctx : Context A} {fnCall : ZomeFnCall A}
    (h : checkCapability hash verify base64Encode ctx fnCall = .ok true) :
    ∃ grant, getGrant ctx fnCall.cap.capToken = .ok (some grant) ∧
      verifyGrant hash verify base64Encode grant fnCall = .ok true := by
  obtain ⟨maybeGrant, hg, h⟩ := Except.bind_eq_ok.mp h
  cases maybeGrant with
  | none => cases h
  | some grant => exact ⟨grant, hg, h⟩

/-- `validate_call` accepts a call of an existing function exactly when a grant admits it,
or no grant does, the token is the callee's key, and the call's signature verifies. -/
theorem validateCall_eq_ok {ctx : Context A} {fnCall : ZomeFnCall A} {r : String × DnaWasm} :
    validateCall hash verify base64Encode ctx fnCall = .ok (.ok r) ↔
      dnaNameAndCode ctx fnCall = .ok r ∧
        (checkCapability hash verify base64Encode ctx fnCall = .ok true ∨
          checkCapability hash verify base64Encode ctx fnCall = .ok false ∧
            isTokenTheAgent ctx fnCall.cap = true ∧
            verifyCallSig verify base64Encode fnCall.cap.provenance fnCall.fnName
              fnCall.parameters = .ok true) := by
  unfold validateCall
  cases hd : dnaNameAndCode ctx fnCall with
  | error e => simp
  | ok target =>
    cases hc : checkCapability hash verify base64Encode ctx fnCall with
    | error e => simp
    | ok byGrant =>
      cases byGrant with
      | true => simp
      | false =>
        cases isTokenTheAgent ctx fnCall.cap with
        | false => simp
        | true =>
          cases verifyCallSig verify base64Encode fnCall.cap.provenance fnCall.fnName
            fnCall.parameters with
          | error e => simp
          | ok b => cases b <;> simp

end Check

/-! ### Authorization as it is meant, and as the code does it -/

section Spec

variable (verify : A → String → String → Except HolochainError Bool)
  (base64Encode : String → String)

/-- The call's signature of its function and parameters verifies under the key it names. -/
def SignatureValid (fnCall : ZomeFnCall A) : Prop :=
  verify fnCall.cap.provenance.source
    (encodeCallDataForSigning base64Encode fnCall.fnName fnCall.parameters)
    fnCall.cap.provenance.signature = .ok true

/-- A grant lists the call's function under its zome and is public, transferable, or
assigned to the call's signer. -/
def GrantAdmits (grant : CapTokenGrant A) (fnCall : ZomeFnCall A) : Prop :=
  (∃ zomeGrants, grant.functions.lookup fnCall.zomeName = some zomeGrants ∧
    fnCall.fnName ∈ zomeGrants) ∧
  (grant.capType = .public ∨ grant.capType = .transferable ∨
    grant.capType = .assigned ∧ ∃ assignees, grant.assignees = some assignees ∧
      fnCall.cap.provenance.source ∈ assignees)

/-- A grant on the chain at an address: a header of the chain names the address and the
store holds the grant's entry there. -/
def GrantOnChain (agent : AgentState A) (chain : List (ChainHeader A)) (address : A)
    (grant : CapTokenGrant A) : Prop :=
  (∃ header ∈ chain, header.entryAddress = address) ∧
    agent.chainStore.lookup address = some (.entry (.capTokenGrant grant))

/-- Capability-based authorization as it is meant: the call's signature verifies, and its
signer is the callee `key` itself or a grant on the callee's chain at the call's token
admits it. -/
def CallAuthorized (key : A) (agent : AgentState A) (chain : List (ChainHeader A))
    (fnCall : ZomeFnCall A) : Prop :=
  SignatureValid verify base64Encode fnCall ∧
    (fnCall.cap.provenance.source = key ∨
      ∃ grant, GrantOnChain agent chain fnCall.cap.capToken grant ∧ GrantAdmits grant fnCall)

end Spec

section Sound

variable {hash : CasContent A → A} {verify : A → String → String → Except HolochainError Bool}
  {base64Encode : String → String}

/-- A grant the chain read finds is on the chain. -/
theorem grantOnChain_of_getGrant (hinj : Function.Injective hash) {ctx : Context A}
    {state : State A} {chain : List (ChainHeader A)} (hs : ctx.state = some state)
    (hi : ChainInv hash state.agent chain) {address : A} {grant : CapTokenGrant A}
    (h : getGrant ctx address = .ok (some grant)) :
    GrantOnChain state.agent chain address grant := by
  have hread := getGrant_eq_some h
  rw [getEntryFromAgentChain_of_chainInv hinj hs hi, Except.ok.injEq] at hread
  split at hread
  · rename_i hany
    obtain ⟨header, hm, he⟩ := List.any_eq_true.mp hany
    exact ⟨⟨header, hm, by simpa using he⟩, Cas.get_eq_some.mp hread⟩
  · cases hread

/-- On every chain the agent's reducer builds, `validate_call` accepts a call only when its
signature verifies, and either a grant on the chain at its token admits it or its token is
the callee's key. The token is public, so unlike `CallAuthorized` the second path does not
tie the signer to the callee. -/
theorem validateCall_sound (hinj : Function.Injective hash)
    {sign : A → Except HolochainError String} {cas : Cas A} {a : A} {ctx : Context A}
    {state : State A} (hs : ctx.state = some state)
    (hreach : Run.Reachable (AgentStep hash sign) (AgentState.new cas a) state.agent)
    {fnCall : ZomeFnCall A} {r : String × DnaWasm}
    (h : validateCall hash verify base64Encode ctx fnCall = .ok (.ok r)) :
    ∃ chain, ChainInv hash state.agent chain ∧ SignatureValid verify base64Encode fnCall ∧
      (fnCall.cap.capToken = ctx.agentPubSignKey ∨
        ∃ grant, GrantOnChain state.agent chain fnCall.cap.capToken grant ∧
          GrantAdmits grant fnCall) := by
  obtain ⟨chain, hi⟩ := reachable_chainInv hinj hreach
  refine ⟨chain, hi, ?_⟩
  obtain ⟨-, hgrant | ⟨-, htoken, hsig⟩⟩ := validateCall_eq_ok.mp h
  · obtain ⟨grant, hg, hv⟩ := checkCapability_eq_true hgrant
    obtain ⟨hfn, -, hsig, htype⟩ := verifyGrant_eq_true hv
    exact ⟨verifyCallSig_eq_ok.mp hsig,
      .inr ⟨grant, grantOnChain_of_getGrant hinj hs hi hg, hfn, htype⟩⟩
  · have hkey : ctx.agentPubSignKey = fnCall.cap.capToken := by
      simpa [isTokenTheAgent] using htoken
    exact ⟨verifyCallSig_eq_ok.mp hsig, .inl hkey.symm⟩

end Sound

/-- The callee `1` has an empty chain, so no grants. The agent `2` signs a call with its own
key and presents the callee's public key as the token: `validate_call` accepts it, though
the signer is not the callee and no grant admits it. -/
theorem validate_call_accepts_foreign_signer :
    let verify : Nat → String → String → Except HolochainError Bool :=
      fun source _ signature => .ok (source == 2 && signature == "sig")
    let agent : AgentState Nat := AgentState.new ∅ 1
    let ctx : Context Nat := ⟨1, some ⟨agent, some ⟨"dna", [("zome", ⟨["fn"], []⟩)]⟩⟩⟩
    let fnCall : ZomeFnCall Nat := ⟨"zome", ⟨1, ⟨2, "sig"⟩⟩, "fn", "null"⟩
    ChainInv (fun _ => 0) agent [] ∧
      validateCall (fun _ => 0) verify id ctx fnCall = .ok (.ok ("dna", [])) ∧
      ¬ CallAuthorized verify id ctx.agentPubSignKey agent [] fnCall := by
  intro verify agent ctx fnCall
  refine ⟨⟨rfl, trivial, trivial, by simp, List.nodup_nil⟩, rfl, ?_⟩
  rintro ⟨-, hsigner | ⟨grant, ⟨⟨header, hm, -⟩, -⟩, -⟩⟩
  · -- the signer is `2`, the callee `1`
    exact absurd hsigner (by decide)
  · -- the empty chain has no header
    simp at hm

end Holochain
