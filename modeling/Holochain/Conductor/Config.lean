/-
The conductor configuration (`conductor_lib/src/config.rs`), its consistency check, and the
admin operations that take instances out of it (`conductor/admin.rs`).

`check_consistency` checks, in this order: agent, DNA, instance and interface ids are unique
and no two instances share a storage path; every instance names a configured agent and DNA
whose file loads, and every bridge that a zome of that DNA requires is configured; every
instance an interface lists exists; every configured bridge joins two instances whose DNAs
load and whose caller DNA defines the bridge, with a callee that matches the definition; UI
interfaces name existing bundles and interfaces; the DPKI instance exists; and the bridges
form no cycle. The DNA loader is a parameter, and so are a DNA's address (the hash of its
JSON) and the `Debug` text of a function list, which only an error message prints.

`save_remove_instance` drops the instance and scrubs it from the interfaces; bridges and the
DPKI configuration are left as they are.

Main results:
* `checkConsistency_eq_ok` — the check passes exactly when the configuration is `Consistent`;
* `consistent_saveRemoveInstance` — removing an instance that no bridge and no DPKI
  configuration names keeps a configuration consistent;
* `removal_leaves_dangling_bridge` — a bridge into the removed instance is left behind, and
  the check, and with it `remove_instance`, then fails.
-/
import Holochain.CoreTypes.Error
import Holochain.Lib.Acyclic
import Holochain.Lib.Except

namespace Holochain

namespace Conductor

/-! ### The parts of a DNA the check reads -/

/-- `BridgePresence`. -/
inductive BridgePresence
  | required
  | optional
  deriving DecidableEq, Repr

/-- `FnParameter`. -/
structure FnParameter where
  parameterType : String
  name : String
  deriving DecidableEq, Repr

/-- `FnDeclaration`. -/
structure FnDeclaration where
  name : String
  inputs : List FnParameter
  outputs : List FnParameter
  deriving DecidableEq, Repr

/-- `Trait`: the functions a bridge expects its callee to implement. -/
structure Trait where
  functions : List FnDeclaration
  deriving DecidableEq, Repr

/-- `BridgeReference`, with the traits by name (a `BTreeMap`, in key order). -/
inductive BridgeReference
  | address (dnaAddress : String)
  | trait (traits : List (String × Trait))
  deriving DecidableEq, Repr

/-- `dna::bridges::Bridge`: a bridge that a zome declares. -/
structure DnaBridge where
  presence : BridgePresence
  handle : String
  reference : BridgeReference
  deriving DecidableEq, Repr

/-- `TraitFns`. -/
structure TraitFns where
  functions : List String
  deriving DecidableEq, Repr

/-- `Zome`, with its traits by name, its function declarations and its bridges. -/
structure Zome where
  traits : List (String × TraitFns)
  fnDeclarations : List FnDeclaration
  bridges : List DnaBridge
  deriving DecidableEq, Repr

/-- `Dna`, with its uuid and its zomes by name. -/
structure Dna where
  uuid : String
  zomes : List (String × Zome)
  deriving DecidableEq, Repr

/-! ### The configuration -/

/-- `AgentConfiguration`. An agent with a remote key (the Holo closed-alpha hack) signs
through the services the configuration names; a test agent's key is made from its name. -/
structure AgentConfiguration where
  id : String
  name : String
  publicAddress : String
  keystoreFile : String
  holoRemoteKey : Option Bool
  testAgent : Option Bool
  deriving DecidableEq, Repr

/-- `DnaConfiguration`. -/
structure DnaConfiguration where
  id : String
  file : String
  hash : String
  uuid : Option String
  deriving DecidableEq, Repr

/-- `StorageConfiguration`. -/
inductive StorageConfiguration
  | memory
  | file (path : String)
  | pickle (path : String)
  | lmdb (path : String) (initialMmapBytes : Option Nat)
  deriving DecidableEq, Repr

/-- `InstanceConfiguration`. -/
structure InstanceConfiguration where
  id : String
  dna : String
  agent : String
  storage : StorageConfiguration
  deriving DecidableEq, Repr

/-- `InstanceReferenceConfiguration`: an instance an interface exposes. -/
structure InstanceReferenceConfiguration where
  id : String
  deriving DecidableEq, Repr

/-- `InterfaceConfiguration`. -/
structure InterfaceConfiguration where
  id : String
  instances : List InstanceReferenceConfiguration
  deriving DecidableEq, Repr

/-- `Bridge`: a configured bridge from a caller instance to a callee instance. -/
structure Bridge where
  callerId : String
  calleeId : String
  handle : String
  deriving DecidableEq, Repr

/-- `UiBundleConfiguration`. -/
structure UiBundleConfiguration where
  id : String
  deriving DecidableEq, Repr

/-- `UiInterfaceConfiguration`. -/
structure UiInterfaceConfiguration where
  id : String
  bundle : String
  dnaInterface : Option String
  deriving DecidableEq, Repr

/-- `DpkiConfiguration`. -/
structure DpkiConfiguration where
  instanceId : String
  deriving DecidableEq, Repr

/-- `Configuration`. -/
structure Configuration where
  agents : List AgentConfiguration
  dnas : List DnaConfiguration
  instances : List InstanceConfiguration
  interfaces : List InterfaceConfiguration
  bridges : List Bridge
  uiBundles : List UiBundleConfiguration
  uiInterfaces : List UiInterfaceConfiguration
  signingServiceUri : Option String
  encryptionServiceUri : Option String
  decryptionServiceUri : Option String
  dpki : Option DpkiConfiguration
  deriving DecidableEq, Repr

/-- The storage path of an instance whose storage lives in a file. -/
def StorageConfiguration.path? : StorageConfiguration → Option String
  | .file path | .lmdb path _ | .pickle path => some path
  | .memory => none

/-- The loop of `detect_dupes`: an item that is already in the set is a duplicate. -/
def collectDupes (set : List String) : List String → List String
  | [] => []
  | item :: items =>
    if set.contains item then item :: collectDupes set items else collectDupes (item :: set) items

/-- `detect_dupes`. -/
def detectDupes (name : String) (items : List String) : Except String Unit :=
  let dupes := collectDupes [] items
  if !dupes.isEmpty then .error ("Duplicate " ++ name ++ " IDs detected: " ++ ", ".intercalate dupes)
  else .ok ()

/-- `iter().all(|x| path_set.insert(x))`: every path is new to the set when it comes; the
loop stops at the first that is not. -/
def allInsert (pathSet : List String) : List String → Bool
  | [] => true
  | x :: xs => !pathSet.contains x && allInsert (x :: pathSet) xs

/-- The last bridge definition with the handle, over the zomes of the DNA in order: the
`maybe_bridge` loop of `check_bridge_requirements`. -/
def findBridgeDef (dna : Dna) (handle : String) : Option DnaBridge :=
  dna.zomes.foldl (fun maybeBridge zome => zome.2.bridges.foldl
    (fun maybeBridge bridgeDef => if bridgeDef.handle == handle then some bridgeDef else maybeBridge)
    maybeBridge) none

/-- Whether a zome of the callee implements the expected trait: it has a trait of that name
that exports every function of it, and declares each with the expected signature. -/
def implementsTrait (zome : Zome) (expectedTraitName : String) (expectedTrait : Trait) : Bool :=
  zome.traits.any fun zomeTrait =>
    zomeTrait.1 == expectedTraitName &&
      expectedTrait.functions.all (fun fnDef => zomeTrait.2.functions.contains fnDef.name) &&
      expectedTrait.functions.all fun fnDef => zome.fnDeclarations.contains fnDef

/-- The `find(..).map(..)` of `update_dna_hash_by_id`: the first DNA with the id gets the
hash. -/
def updateDnaHash (id hash : String) : List DnaConfiguration → List DnaConfiguration
  | [] => []
  | dna :: dnas =>
    if dna.id = id then { dna with hash := hash } :: dnas else dna :: updateDnaHash id hash dnas

/-- An agent's configuration but its public address. -/
def AgentConfiguration.unkeyed (ac : AgentConfiguration) : AgentConfiguration :=
  { ac with publicAddress := "" }

/-- A DNA's configuration but its hash. -/
def DnaConfiguration.unhashed (dc : DnaConfiguration) : DnaConfiguration := { dc with hash := "" }

namespace Configuration

variable (c : Configuration) (loader : String → Except HolochainError Dna)
  (dnaAddress : Dna → String) (debugFns : List FnDeclaration → String)

/-- `agent_by_id`. -/
def agentById (id : String) : Option AgentConfiguration :=
  c.agents.find? fun ac => ac.id == id

/-- `dna_by_id`. -/
def dnaById (id : String) : Option DnaConfiguration :=
  c.dnas.find? fun dc => dc.id == id

/-- `instance_by_id`. -/
def instanceById (id : String) : Option InstanceConfiguration :=
  c.instances.find? fun ic => ic.id == id

/-- `interface_by_id`. -/
def interfaceById (id : String) : Option InterfaceConfiguration :=
  c.interfaces.find? fun ic => ic.id == id

/-- `ui_bundle_by_id`. -/
def uiBundleById (id : String) : Option UiBundleConfiguration :=
  c.uiBundles.find? fun ic => ic.id == id

/-- `check_instances_storage`. -/
def checkInstancesStorage : Except String Unit :=
  let storagePaths := c.instances.filterMap fun stgConfig => stgConfig.storage.path?
  if !allInsert [] storagePaths then .error "Forbidden duplicated file storage value encountered."
  else .ok ()

/-- The loop body of `check_consistency` over one instance. -/
def checkInstance (inst : InstanceConfiguration) : Except String Unit := do
  unless (c.agentById inst.agent).isSome do
    throw ("Agent configuration " ++ inst.agent ++ " not found, mentioned in instance " ++
      inst.id)
  let dnaConfig ← (c.dnaById inst.dna).getDM
    (throw ("DNA configuration \x22" ++ inst.dna ++ "\x22 not found, mentioned in instance \x22" ++
      inst.id ++ "\x22"))
  let dna ← (loader dnaConfig.file).mapError fun _ =>
    "Could not load DNA file \x22" ++ dnaConfig.file ++ "\x22"
  dna.zomes.forM fun zome => zome.2.bridges.forM fun bridge =>
    if bridge.presence = .required then
      unless (c.bridges.find? fun b => b.handle == bridge.handle).isSome do
        throw ("Required bridge \x27" ++ bridge.handle ++ "\x27 for instance \x27" ++ inst.id ++
          "\x27 missing")
    else pure ()

/-- The first half of `check_bridge_requirements`, the same for the caller and the callee:
the instance's configuration, its DNA configuration, and its DNA. -/
def loadBridgeEnd (instanceId : String) : Except String (InstanceConfiguration × Dna) := do
  let config ← (c.instanceById instanceId).getDM
    (throw ("Instance configuration \x22" ++ instanceId ++ "\x22 not found, mentioned in bridge"))
  let dnaConfig ← (c.dnaById config.dna).getDM
    (throw ("DNA configuration \x22" ++ config.dna ++ "\x22 not found, mentioned in instance \x22" ++
      config.id ++ "\x22"))
  let dna ← (loader dnaConfig.file).mapError fun err =>
    "Could not load DNA file \x22" ++ dnaConfig.file ++ "\x22; error was: " ++ err.toString
  pure (config, dna)

/-- `check_bridge_requirements`. -/
def checkBridgeRequirements (bridgeConfig : Bridge) : Except String Unit := do
  let (_, callerDna) ← c.loadBridgeEnd loader bridgeConfig.callerId
  let (calleeConfig, calleeDna) ← c.loadBridgeEnd loader bridgeConfig.calleeId
  let bridge ← (findBridgeDef callerDna bridgeConfig.handle).getDM
    (throw ("No bridge definition with handle \x27" ++ bridgeConfig.handle ++ "\x27 found in " ++
      bridgeConfig.callerId ++ "\x27s DNA"))
  match bridge.reference with
  | .address expected =>
    if expected ≠ dnaAddress calleeDna then
      throw ("Bridge \x27" ++ bridge.handle ++ "\x27 of caller instance \x27" ++
        bridgeConfig.callerId ++ "\x27 requires callee to be DNA with hash \x27" ++ expected ++
        "\x27, but the configured instance \x27" ++ calleeConfig.id ++
        "\x27 runs DNA with hash \x27" ++ dnaAddress calleeDna ++ "\x27.")
  | .trait traits =>
    traits.forM fun expected =>
      unless calleeDna.zomes.any (fun zome => implementsTrait zome.2 expected.1 expected.2) do
        throw ("Bridge \x27" ++ bridge.handle ++ "\x27 of instance \x27" ++ bridgeConfig.callerId ++
          "\x27 requires callee to to implement trait \x27" ++ expected.1 ++
          "\x27 with functions: " ++ debugFns expected.2.functions)

/-- The loop body of `check_consistency` over the instances one interface lists. -/
def checkInterface (interface : InterfaceConfiguration) : Except String Unit :=
  interface.instances.forM fun inst =>
    unless (c.instanceById inst.id).isSome do
      throw ("Instance configuration \x22" ++ inst.id ++ "\x22 not found, mentioned in interface")

/-- The loop body of `check_consistency` over one UI interface. -/
def checkUiInterface (uiInterface : UiInterfaceConfiguration) : Except String Unit := do
  unless (c.uiBundleById uiInterface.bundle).isSome do
    throw ("UI bundle configuration " ++ uiInterface.bundle ++ " not found, mentioned in UI interface " ++
      uiInterface.id)
  match uiInterface.dnaInterface with
  | some dnaInterfaceId =>
    unless (c.interfaceById dnaInterfaceId).isSome do
      throw ("DNA Interface configuration \x22" ++ dnaInterfaceId ++
        "\x22 not found, mentioned in UI interface \x22" ++ uiInterface.id ++ "\x22")
  | none => pure ()

/-- The DPKI part of `check_consistency`. -/
def checkDpki : Except String Unit :=
  match c.dpki with
  | some dpkiConfig =>
    unless (c.instanceById dpkiConfig.instanceId).isSome do
      throw ("Instance configuration \x22" ++ dpkiConfig.instanceId ++ "\x22 not found, mentioned in dpki")
  | none => pure ()

/-- `instance_ids_sorted_by_bridge_dependencies`, up to its result: only whether it fails is
modelled. Which topological order petgraph's `toposort` returns is not, and
`check_consistency` discards it. Every bridge must join two instances, and the bridges, as
edges between instance ids, must have no cycle. -/
def instanceIdsSortedByBridgeDependencies : Except HolochainError Unit := do
  let ids := c.instances.map fun inst => inst.id
  let edges ← c.bridges.mapM fun bridge =>
    if ids.contains bridge.callerId && ids.contains bridge.calleeId then
      pure (bridge.callerId, bridge.calleeId)
    else
      throw (.configError ("Instance configuration not found, mentioned in bridge configuration: " ++
        bridge.callerId ++ " -> " ++ bridge.calleeId))
  unless Graph.acyclic edges ids do
    throw (.configError "Cyclic dependency in bridge configuration")

/-- `check_consistency`. The passphrase service check exists only off Unix and is left out. -/
def checkConsistency : Except String Unit := do
  detectDupes "agent" (c.agents.map fun c => c.id)
  detectDupes "dna" (c.dnas.map fun c => c.id)
  detectDupes "instance" (c.instances.map fun c => c.id)
  c.checkInstancesStorage
  detectDupes "interface" (c.interfaces.map fun c => c.id)
  c.instances.forM (c.checkInstance loader)
  c.interfaces.forM c.checkInterface
  c.bridges.forM (c.checkBridgeRequirements loader dnaAddress debugFns)
  c.uiInterfaces.forM c.checkUiInterface
  c.checkDpki
  c.instanceIdsSortedByBridgeDependencies.mapError HolochainError.toString

/-- `save_remove_instance`: the instance goes, and so do the interfaces' references to it. -/
def saveRemoveInstance (id : String) : Configuration :=
  { c with
    instances := c.instances.filter fun inst => inst.id != id
    interfaces := c.interfaces.map fun interface =>
      { interface with instances := interface.instances.filter fun inst => inst.id != id } }

/-- `update_agent_address_by_id`: every agent with the id gets the public key as its
address. -/
def updateAgentAddressById (id agentAddress : String) : Configuration :=
  { c with agents := c.agents.map fun ac =>
      if ac.id = id then { ac with publicAddress := agentAddress } else ac }

/-- `update_dna_hash_by_id`. -/
def updateDnaHashById (id hash : String) : Configuration :=
  { c with dnas := updateDnaHash id hash c.dnas }

/-- What `check_consistency` establishes, check by check. -/
structure Consistent : Prop where
  agentIds : (c.agents.map fun c => c.id).Nodup
  dnaIds : (c.dnas.map fun c => c.id).Nodup
  instanceIds : (c.instances.map fun c => c.id).Nodup
  storagePaths : (c.instances.filterMap fun stgConfig => stgConfig.storage.path?).Nodup
  interfaceIds : (c.interfaces.map fun c => c.id).Nodup
  instancesOk : ∀ inst ∈ c.instances, c.checkInstance loader inst = .ok ()
  interfacesOk : ∀ interface ∈ c.interfaces, ∀ inst ∈ interface.instances,
    (c.instanceById inst.id).isSome
  bridgesOk : ∀ bridge ∈ c.bridges, c.checkBridgeRequirements loader dnaAddress debugFns bridge = .ok ()
  uiInterfacesOk : ∀ uiInterface ∈ c.uiInterfaces, c.checkUiInterface uiInterface = .ok ()
  dpkiOk : ∀ dpkiConfig, c.dpki = some dpkiConfig → (c.instanceById dpkiConfig.instanceId).isSome
  bridgeEnds : ∀ bridge ∈ c.bridges, bridge.callerId ∈ c.instances.map (fun inst => inst.id) ∧
    bridge.calleeId ∈ c.instances.map (fun inst => inst.id)
  acyclic : Graph.acyclic (c.bridges.map fun bridge => (bridge.callerId, bridge.calleeId))
    (c.instances.map fun inst => inst.id) = true

end Configuration

/-! ### What the check establishes -/

/-- The membership facts the two duplicate loops share: an item list is distinct and new
to a set exactly when its head is new to the set and its tail is distinct and new to the
set with the head inserted. -/
theorem nodup_cons_new_iff {x : String} {xs set : List String} :
    ((x :: xs).Nodup ∧ ∀ y ∈ x :: xs, y ∉ set) ↔
      x ∉ set ∧ xs.Nodup ∧ ∀ y ∈ xs, y ∉ x :: set := by
  rw [List.nodup_cons]
  constructor
  · rintro ⟨⟨hnotin, hnodup⟩, hnew⟩
    refine ⟨hnew x List.mem_cons_self, hnodup, fun y hy hys => ?_⟩
    rcases List.mem_cons.mp hys with rfl | hys
    · exact hnotin hy
    · exact hnew y (List.mem_cons_of_mem x hy) hys
  · rintro ⟨hx, hnodup, hnew⟩
    refine ⟨⟨fun hmem => hnew x hmem List.mem_cons_self, hnodup⟩, fun y hy => ?_⟩
    rcases List.mem_cons.mp hy with rfl | hy
    · exact hx
    · exact fun hs => hnew y hy (List.mem_cons_of_mem _ hs)

/-- No duplicate is found exactly when the items are distinct and none was in the set. -/
theorem collectDupes_eq_nil {set items : List String} :
    collectDupes set items = [] ↔ items.Nodup ∧ ∀ x ∈ items, x ∉ set := by
  induction items generalizing set with
  | nil => simp [collectDupes]
  | cons item items ih =>
    rw [nodup_cons_new_iff]
    by_cases h : item ∈ set
    · simp [collectDupes, h]
    · have hc : set.contains item = false := by simpa using h
      simp only [collectDupes, hc, Bool.false_eq_true, if_false, ih]
      exact ⟨fun hrest => ⟨h, hrest⟩, fun hrest => hrest.2⟩

theorem detectDupes_eq_ok {name : String} {items : List String} :
    detectDupes name items = .ok () ↔ items.Nodup := by
  have h : collectDupes [] items = [] ↔ items.Nodup ∧ ∀ x ∈ items, x ∉ ([] : List String) :=
    collectDupes_eq_nil
  simp only [List.not_mem_nil, not_false_eq_true, implies_true, and_true] at h
  unfold detectDupes
  by_cases hd : collectDupes [] items = [] <;> simp_all

/-- The storage loop inserts every path exactly when the paths are distinct and none was in
the set. -/
theorem allInsert_eq_true {pathSet paths : List String} :
    allInsert pathSet paths = true ↔ paths.Nodup ∧ ∀ x ∈ paths, x ∉ pathSet := by
  induction paths generalizing pathSet with
  | nil => simp [allInsert]
  | cons x xs ih =>
    have hx : pathSet.contains x = false ↔ x ∉ pathSet := by simp
    rw [nodup_cons_new_iff, allInsert, Bool.and_eq_true, Bool.not_eq_true', hx, ih]

namespace Configuration

variable {c : Configuration} {loader : String → Except HolochainError Dna}
  {dnaAddress : Dna → String} {debugFns : List FnDeclaration → String}

theorem checkInstancesStorage_eq_ok :
    c.checkInstancesStorage = .ok () ↔
      (c.instances.filterMap fun stgConfig => stgConfig.storage.path?).Nodup := by
  have h : allInsert [] (c.instances.filterMap fun stgConfig => stgConfig.storage.path?) = true ↔
      (c.instances.filterMap fun stgConfig => stgConfig.storage.path?).Nodup ∧
        ∀ x ∈ c.instances.filterMap (fun stgConfig => stgConfig.storage.path?),
          x ∉ ([] : List String) :=
    allInsert_eq_true
  simp only [List.not_mem_nil, not_false_eq_true, implies_true, and_true] at h
  unfold checkInstancesStorage
  by_cases ha : allInsert [] (c.instances.filterMap fun stgConfig => stgConfig.storage.path?) <;>
    simp_all

theorem checkInterface_eq_ok {interface : InterfaceConfiguration} :
    c.checkInterface interface = .ok () ↔
      ∀ inst ∈ interface.instances, (c.instanceById inst.id).isSome := by
  unfold checkInterface
  rw [Except.forM_eq_ok]
  simp only [Except.ite_pure_throw_eq_ok]

theorem checkDpki_eq_ok :
    c.checkDpki = .ok () ↔
      ∀ dpkiConfig, c.dpki = some dpkiConfig → (c.instanceById dpkiConfig.instanceId).isSome := by
  unfold checkDpki
  cases c.dpki with
  | none => simp
  | some dpkiConfig => simp only [Except.ite_pure_throw_eq_ok, Option.some.injEq, forall_eq']

/-- The bridge graph passes exactly when every bridge joins two instances and the bridges,
as edges between instance ids, have no cycle. -/
theorem instanceIdsSortedByBridgeDependencies_eq_ok :
    c.instanceIdsSortedByBridgeDependencies = .ok () ↔
      (∀ bridge ∈ c.bridges, bridge.callerId ∈ c.instances.map (fun inst => inst.id) ∧
        bridge.calleeId ∈ c.instances.map (fun inst => inst.id)) ∧
      Graph.acyclic (c.bridges.map fun bridge => (bridge.callerId, bridge.calleeId))
        (c.instances.map fun inst => inst.id) = true := by
  unfold instanceIdsSortedByBridgeDependencies
  dsimp only
  -- once every bridge joins two instances, the edges are the bridges' ends
  have hedges : (∀ bridge ∈ c.bridges, bridge.callerId ∈ c.instances.map (fun inst => inst.id) ∧
        bridge.calleeId ∈ c.instances.map (fun inst => inst.id)) →
      c.bridges.mapM (fun bridge =>
        if (c.instances.map fun inst => inst.id).contains bridge.callerId &&
            (c.instances.map fun inst => inst.id).contains bridge.calleeId then
          (pure (bridge.callerId, bridge.calleeId) : Except HolochainError (String × String))
        else throw (.configError ("Instance configuration not found, mentioned in bridge configuration: " ++
          bridge.callerId ++ " -> " ++ bridge.calleeId))) =
        .ok (c.bridges.map fun bridge => (bridge.callerId, bridge.calleeId)) := by
    intro hends
    refine Except.mapM_eq_ok_map fun bridge hb => ?_
    simp [hends bridge hb]
  constructor
  · intro h
    obtain ⟨edges, hmapM, hacyclic⟩ := Except.bind_eq_ok.mp h
    have hends : ∀ bridge ∈ c.bridges, bridge.callerId ∈ c.instances.map (fun inst => inst.id) ∧
        bridge.calleeId ∈ c.instances.map (fun inst => inst.id) := by
      intro bridge hb
      obtain ⟨y, hy⟩ := Except.exists_eq_ok_of_mapM_eq_ok hmapM bridge hb
      split at hy
      · rename_i hjoins
        simpa using hjoins
      · cases hy
    rw [hedges hends] at hmapM
    cases hmapM
    exact ⟨hends, by simpa using hacyclic⟩
  · rintro ⟨hends, hacyclic⟩
    rw [hedges hends]
    simpa using hacyclic

/-- `check_consistency` passes exactly when the configuration is consistent. -/
theorem checkConsistency_eq_ok :
    c.checkConsistency loader dnaAddress debugFns = .ok () ↔
      c.Consistent loader dnaAddress debugFns := by
  unfold checkConsistency
  simp only [Except.bind_const_eq_ok, detectDupes_eq_ok, checkInstancesStorage_eq_ok,
    Except.forM_eq_ok, checkInterface_eq_ok, checkDpki_eq_ok, Except.mapError_eq_ok,
    instanceIdsSortedByBridgeDependencies_eq_ok]
  constructor
  · rintro ⟨hagents, hdnas, hinstances, hstorage, hinterfaces, hinstOk, hifaceOk, hbridgesOk,
      huiOk, hdpkiOk, hends, hacyclic⟩
    exact ⟨hagents, hdnas, hinstances, hstorage, hinterfaces, hinstOk, hifaceOk, hbridgesOk,
      huiOk, hdpkiOk, hends, hacyclic⟩
  · intro h
    exact ⟨h.agentIds, h.dnaIds, h.instanceIds, h.storagePaths, h.interfaceIds, h.instancesOk,
      h.interfacesOk, h.bridgesOk, h.uiInterfacesOk, h.dpkiOk, h.bridgeEnds, h.acyclic⟩

/-! ### Removing an instance -/

section SaveRemoveInstance

variable {id : String}

/-- The other instances are found as before. -/
theorem instanceById_saveRemoveInstance {j : String} (hj : j ≠ id) :
    (c.saveRemoveInstance id).instanceById j = c.instanceById j := by
  simp only [instanceById, saveRemoveInstance, List.find?_filter]
  congr 1
  funext inst
  by_cases h : inst.id = j
  · simp [h, hj]
  · simp [h]

/-- Scrubbing the interfaces keeps their ids, so an interface is found as before. -/
theorem isSome_interfaceById_saveRemoveInstance {j : String} :
    ((c.saveRemoveInstance id).interfaceById j).isSome = (c.interfaceById j).isSome := by
  simp only [interfaceById, saveRemoveInstance, List.find?_map, Option.isSome_map]
  rfl

theorem checkInstance_saveRemoveInstance :
    (c.saveRemoveInstance id).checkInstance loader = c.checkInstance loader := rfl

theorem loadBridgeEnd_saveRemoveInstance {j : String} (hj : j ≠ id) :
    (c.saveRemoveInstance id).loadBridgeEnd loader j = c.loadBridgeEnd loader j := by
  unfold loadBridgeEnd
  rw [instanceById_saveRemoveInstance hj]
  rfl

/-- A bridge that does not touch the removed instance is checked as before. -/
theorem checkBridgeRequirements_saveRemoveInstance {bridge : Bridge} (hcaller : bridge.callerId ≠ id)
    (hcallee : bridge.calleeId ≠ id) :
    (c.saveRemoveInstance id).checkBridgeRequirements loader dnaAddress debugFns bridge =
      c.checkBridgeRequirements loader dnaAddress debugFns bridge := by
  unfold checkBridgeRequirements
  rw [loadBridgeEnd_saveRemoveInstance hcaller, loadBridgeEnd_saveRemoveInstance hcallee]

theorem checkUiInterface_saveRemoveInstance {uiInterface : UiInterfaceConfiguration} :
    (c.saveRemoveInstance id).checkUiInterface uiInterface = c.checkUiInterface uiInterface := by
  unfold checkUiInterface
  simp only [isSome_interfaceById_saveRemoveInstance]
  rfl

theorem mem_ids_saveRemoveInstance {j : String} (hj : j ≠ id)
    (hmem : j ∈ c.instances.map fun inst => inst.id) :
    j ∈ (c.saveRemoveInstance id).instances.map fun inst => inst.id := by
  obtain ⟨inst, hinst, rfl⟩ := List.mem_map.mp hmem
  exact List.mem_map_of_mem (List.mem_filter.mpr ⟨hinst, by simpa using hj⟩)

theorem ids_saveRemoveInstance_sublist :
    ((c.saveRemoveInstance id).instances.map fun inst => inst.id).Sublist
      (c.instances.map fun inst => inst.id) :=
  List.filter_sublist.map _

/-- Removing an instance that no bridge and no DPKI configuration names keeps a configuration
consistent: every check reads the other instances as before, the id lists only shrink, and the
bridge graph keeps its edges over fewer nodes. -/
theorem consistent_saveRemoveInstance (hc : c.Consistent loader dnaAddress debugFns)
    (hbridges : ∀ bridge ∈ c.bridges, bridge.callerId ≠ id ∧ bridge.calleeId ≠ id)
    (hdpki : ∀ dpkiConfig, c.dpki = some dpkiConfig → dpkiConfig.instanceId ≠ id) :
    (c.saveRemoveInstance id).Consistent loader dnaAddress debugFns where
  agentIds := hc.agentIds
  dnaIds := hc.dnaIds
  instanceIds := hc.instanceIds.sublist ids_saveRemoveInstance_sublist
  storagePaths := hc.storagePaths.sublist (List.filter_sublist.filterMap _)
  interfaceIds := by simpa [saveRemoveInstance, Function.comp_def] using hc.interfaceIds
  instancesOk inst hinst := by
    rw [checkInstance_saveRemoveInstance]
    exact hc.instancesOk inst (List.mem_filter.mp hinst).1
  interfacesOk interface hinterface inst hinst := by
    -- the interface is a scrubbed one of the old configuration, and the reference survived
    -- the scrub, so it names another instance
    obtain ⟨old, hold, rfl⟩ := List.mem_map.mp hinterface
    obtain ⟨hinstOld, hne⟩ := List.mem_filter.mp hinst
    rw [instanceById_saveRemoveInstance (by simpa using hne)]
    exact hc.interfacesOk old hold inst hinstOld
  bridgesOk bridge hbridge := by
    rw [checkBridgeRequirements_saveRemoveInstance (hbridges bridge hbridge).1
      (hbridges bridge hbridge).2]
    exact hc.bridgesOk bridge hbridge
  uiInterfacesOk uiInterface huiInterface := by
    rw [checkUiInterface_saveRemoveInstance]
    exact hc.uiInterfacesOk uiInterface huiInterface
  dpkiOk dpkiConfig hdpkiConfig := by
    rw [instanceById_saveRemoveInstance (hdpki dpkiConfig hdpkiConfig)]
    exact hc.dpkiOk dpkiConfig hdpkiConfig
  bridgeEnds bridge hbridge :=
    ⟨mem_ids_saveRemoveInstance (hbridges bridge hbridge).1 (hc.bridgeEnds bridge hbridge).1,
      mem_ids_saveRemoveInstance (hbridges bridge hbridge).2 (hc.bridgeEnds bridge hbridge).2⟩
  acyclic := Graph.acyclic_of_sublist _ ids_saveRemoveInstance_sublist hc.acyclic

/-- Removing instances one after the other keeps a configuration consistent when no bridge
and no DPKI configuration names any of them. -/
theorem consistent_foldl_saveRemoveInstance {ids : List String}
    (hc : c.Consistent loader dnaAddress debugFns)
    (hbridges : ∀ bridge ∈ c.bridges, bridge.callerId ∉ ids ∧ bridge.calleeId ∉ ids)
    (hdpki : ∀ dpkiConfig, c.dpki = some dpkiConfig → dpkiConfig.instanceId ∉ ids) :
    (ids.foldl (fun c id => c.saveRemoveInstance id) c).Consistent loader dnaAddress debugFns := by
  induction ids generalizing c with
  | nil => exact hc
  | cons id ids ih =>
    -- the bridges and the DPKI configuration stay as they are, so the hypotheses carry over
    have hstep : (c.saveRemoveInstance id).Consistent loader dnaAddress debugFns :=
      consistent_saveRemoveInstance hc
        (fun bridge hb => ⟨fun h => (hbridges bridge hb).1 (h ▸ List.mem_cons_self),
          fun h => (hbridges bridge hb).2 (h ▸ List.mem_cons_self)⟩)
        (fun dpkiConfig hd h => hdpki dpkiConfig hd (h ▸ List.mem_cons_self))
    exact ih hstep
      (fun bridge hb => ⟨fun h => (hbridges bridge hb).1 (List.mem_cons_of_mem id h),
        fun h => (hbridges bridge hb).2 (List.mem_cons_of_mem id h)⟩)
      (fun dpkiConfig hd h => hdpki dpkiConfig hd (List.mem_cons_of_mem id h))

/-- An instance left after removing some is one of the old instances, and not one removed. -/
theorem mem_instances_foldl_saveRemoveInstance {ids : List String} {inst : InstanceConfiguration}
    (h : inst ∈ (ids.foldl (fun c id => c.saveRemoveInstance id) c).instances) :
    inst ∈ c.instances ∧ inst.id ∉ ids := by
  induction ids generalizing c with
  | nil => exact ⟨h, List.not_mem_nil⟩
  | cons id ids ih =>
    obtain ⟨hmem, hnot⟩ := ih h
    obtain ⟨hold, hne⟩ := List.mem_filter.mp hmem
    refine ⟨hold, fun hin => ?_⟩
    rcases List.mem_cons.mp hin with heq | hin
    · simp [heq] at hne
    · exact hnot hin

theorem dnas_foldl_saveRemoveInstance {ids : List String} :
    (ids.foldl (fun c id => c.saveRemoveInstance id) c).dnas = c.dnas := by
  induction ids generalizing c with
  | nil => rfl
  | cons id ids ih => exact ih

/-- Removing instances commutes with replacing the DNA list. -/
theorem foldl_saveRemoveInstance_dnas {ids : List String} {dnas : List DnaConfiguration} :
    ids.foldl (fun c id => c.saveRemoveInstance id) { c with dnas := dnas } =
      { ids.foldl (fun c id => c.saveRemoveInstance id) c with dnas := dnas } := by
  induction ids generalizing c with
  | nil => rfl
  | cons id ids ih => exact @ih (c.saveRemoveInstance id)

end SaveRemoveInstance

/-! ### Removing a DNA that no instance runs -/

section RemoveDna

variable {id : String}

theorem dnaById_filter {j : String} (hj : j ≠ id) :
    ({ c with dnas := c.dnas.filter fun dna => dna.id != id } : Configuration).dnaById j =
      c.dnaById j := by
  simp only [dnaById, List.find?_filter]
  congr 1
  funext dna
  by_cases h : dna.id = j
  · simp [h, hj]
  · simp [h]

theorem checkInstance_filter_dnas {inst : InstanceConfiguration} (hinst : inst.dna ≠ id) :
    ({ c with dnas := c.dnas.filter fun dna => dna.id != id } : Configuration).checkInstance
      loader inst = c.checkInstance loader inst := by
  unfold checkInstance
  rw [dnaById_filter hinst]
  rfl

/-- The end of a bridge loads as before when no instance runs the removed DNA. -/
theorem loadBridgeEnd_filter_dnas (hunused : ∀ inst ∈ c.instances, inst.dna ≠ id) {j : String} :
    ({ c with dnas := c.dnas.filter fun dna => dna.id != id } : Configuration).loadBridgeEnd
      loader j = c.loadBridgeEnd loader j := by
  unfold loadBridgeEnd
  rw [show ({ c with dnas := c.dnas.filter fun dna => dna.id != id } : Configuration).instanceById j =
    c.instanceById j from rfl]
  -- the DNA is looked up for the instance found, which runs another DNA
  cases hfound : c.instanceById j with
  | none => rfl
  | some config =>
    simp only [Option.getDM_some, Except.pure_eq_ok, Except.ok_bind]
    rw [dnaById_filter (hunused config (List.mem_of_find?_eq_some hfound))]

/-- Dropping a DNA that no instance runs keeps a configuration consistent. -/
theorem consistent_filter_dnas (hc : c.Consistent loader dnaAddress debugFns)
    (hunused : ∀ inst ∈ c.instances, inst.dna ≠ id) :
    ({ c with dnas := c.dnas.filter fun dna => dna.id != id } : Configuration).Consistent
      loader dnaAddress debugFns where
  agentIds := hc.agentIds
  dnaIds := hc.dnaIds.sublist (List.filter_sublist.map _)
  instanceIds := hc.instanceIds
  storagePaths := hc.storagePaths
  interfaceIds := hc.interfaceIds
  instancesOk inst hinst := by
    rw [checkInstance_filter_dnas (hunused inst hinst)]
    exact hc.instancesOk inst hinst
  interfacesOk := hc.interfacesOk
  bridgesOk bridge hbridge := by
    unfold checkBridgeRequirements
    rw [loadBridgeEnd_filter_dnas hunused, loadBridgeEnd_filter_dnas hunused]
    exact hc.bridgesOk bridge hbridge
  uiInterfacesOk := hc.uiInterfacesOk
  dpkiOk := hc.dpkiOk
  bridgeEnds := hc.bridgeEnds
  acyclic := hc.acyclic

end RemoveDna

/-! ### The keys `instantiate_from_config` writes -/

/-- The configuration `c'` is `c` but for the agents' public addresses and the DNAs' hashes:
what building instances may write into it. -/
structure Rekeyed (c c' : Configuration) : Prop where
  agents : c'.agents.map AgentConfiguration.unkeyed = c.agents.map AgentConfiguration.unkeyed
  dnas : c'.dnas.map DnaConfiguration.unhashed = c.dnas.map DnaConfiguration.unhashed
  rest : { c' with agents := c.agents, dnas := c.dnas } = c

section Rekeyed

variable {c' c'' : Configuration} {j : String}

theorem Rekeyed.refl (c : Configuration) : c.Rekeyed c := ⟨rfl, rfl, rfl⟩

theorem Rekeyed.trans (h : c.Rekeyed c') (h' : c'.Rekeyed c'') : c.Rekeyed c'' :=
  ⟨h'.agents.trans h.agents, h'.dnas.trans h.dnas,
    (congrArg (fun c₀ : Configuration => { c₀ with agents := c.agents, dnas := c.dnas })
      h'.rest).trans h.rest⟩

theorem rekeyed_updateAgentAddressById (id agentAddress : String) :
    c.Rekeyed (c.updateAgentAddressById id agentAddress) := by
  refine ⟨?_, rfl, rfl⟩
  -- an address is all the update changes of an agent
  show (c.agents.map _).map _ = _
  rw [List.map_map]
  congr 1
  funext ac
  by_cases hid : ac.id = id <;> simp [hid, AgentConfiguration.unkeyed]

theorem map_unhashed_updateDnaHash (id hash : String) :
    ∀ dnas : List DnaConfiguration,
      (updateDnaHash id hash dnas).map DnaConfiguration.unhashed = dnas.map DnaConfiguration.unhashed
  | [] => rfl
  | dna :: dnas => by
    by_cases hid : dna.id = id
    · simp [updateDnaHash, hid, DnaConfiguration.unhashed]
    · simp [updateDnaHash, hid, map_unhashed_updateDnaHash id hash dnas]

theorem rekeyed_updateDnaHashById (id hash : String) : c.Rekeyed (c.updateDnaHashById id hash) :=
  ⟨rfl, map_unhashed_updateDnaHash id hash c.dnas, rfl⟩

variable (h : c.Rekeyed c')
include h

theorem Rekeyed.instances : c'.instances = c.instances := (congrArg Configuration.instances h.rest :)

theorem Rekeyed.interfaces : c'.interfaces = c.interfaces :=
  (congrArg Configuration.interfaces h.rest :)

theorem Rekeyed.bridges : c'.bridges = c.bridges := (congrArg Configuration.bridges h.rest :)

theorem Rekeyed.uiBundles : c'.uiBundles = c.uiBundles := (congrArg Configuration.uiBundles h.rest :)

theorem Rekeyed.uiInterfaces : c'.uiInterfaces = c.uiInterfaces :=
  (congrArg Configuration.uiInterfaces h.rest :)

theorem Rekeyed.dpki : c'.dpki = c.dpki := (congrArg Configuration.dpki h.rest :)

theorem Rekeyed.symm : c'.Rekeyed c :=
  ⟨h.agents.symm, h.dnas.symm, by rw [← h.rest]⟩

theorem Rekeyed.agentIds : c'.agents.map (fun ac => ac.id) = c.agents.map fun ac => ac.id := by
  have hmap := congrArg (List.map AgentConfiguration.id) h.agents
  rwa [List.map_map, List.map_map] at hmap

theorem Rekeyed.dnaIds : c'.dnas.map (fun dc => dc.id) = c.dnas.map fun dc => dc.id := by
  have hmap := congrArg (List.map DnaConfiguration.id) h.dnas
  rwa [List.map_map, List.map_map] at hmap

/-- The agent found under an id is the same but for its address. -/
theorem Rekeyed.agentById :
    (c'.agentById j).map AgentConfiguration.unkeyed = (c.agentById j).map AgentConfiguration.unkeyed := by
  have hfind : ∀ d : Configuration, (d.agentById j).map AgentConfiguration.unkeyed =
      (d.agents.map AgentConfiguration.unkeyed).find? fun ac => ac.id == j := fun d => by
    rw [Configuration.agentById, List.find?_map]
    rfl
  rw [hfind, hfind, h.agents]

theorem Rekeyed.isSome_agentById : (c'.agentById j).isSome = (c.agentById j).isSome := by
  simpa using congrArg Option.isSome h.agentById

/-- The DNA found under an id is the same but for its hash. -/
theorem Rekeyed.dnaById :
    (c'.dnaById j).map DnaConfiguration.unhashed = (c.dnaById j).map DnaConfiguration.unhashed := by
  have hfind : ∀ d : Configuration, (d.dnaById j).map DnaConfiguration.unhashed =
      (d.dnas.map DnaConfiguration.unhashed).find? fun dc => dc.id == j := fun d => by
    rw [Configuration.dnaById, List.find?_map]
    rfl
  rw [hfind, hfind, h.dnas]

/-- The DNA found under an id has the same file. -/
theorem Rekeyed.dnaById_file :
    (c'.dnaById j).map DnaConfiguration.file = (c.dnaById j).map DnaConfiguration.file := by
  have hmap := congrArg (Option.map DnaConfiguration.file) (h.dnaById (j := j))
  rwa [Option.map_map, Option.map_map] at hmap

theorem Rekeyed.instanceById : c'.instanceById j = c.instanceById j := by
  unfold Configuration.instanceById
  rw [h.instances]

/-- The DNA found under an id is there or not alike, with the same file. -/
theorem Rekeyed.dnaById_cases :
    (c.dnaById j = none ∧ c'.dnaById j = none) ∨
      ∃ dc dc', c.dnaById j = some dc ∧ c'.dnaById j = some dc' ∧ dc'.file = dc.file := by
  have hfile := h.dnaById_file (j := j)
  cases h₁ : c.dnaById j with
  | none =>
    rw [h₁, Option.map_none, Option.map_eq_none_iff] at hfile
    exact .inl ⟨rfl, hfile⟩
  | some dc =>
    rw [h₁, Option.map_some, Option.map_eq_some_iff] at hfile
    obtain ⟨dc', hdc', hfile⟩ := hfile
    exact .inr ⟨dc, dc', rfl, hdc', hfile⟩

theorem Rekeyed.checkInstance {loader : String → Except HolochainError Dna}
    {inst : InstanceConfiguration} : c'.checkInstance loader inst = c.checkInstance loader inst := by
  unfold Configuration.checkInstance
  rw [h.isSome_agentById, h.bridges]
  -- only the file of the instance's DNA is read
  rcases h.dnaById_cases (j := inst.dna) with ⟨h₁, h₂⟩ | ⟨dc, dc', h₁, h₂, hfile⟩
  · rw [h₁, h₂]
  · rw [h₁, h₂]
    simp only [Option.getDM_some, Except.pure_eq_ok, Except.ok_bind, hfile]

theorem Rekeyed.loadBridgeEnd {loader : String → Except HolochainError Dna} :
    c'.loadBridgeEnd loader j = c.loadBridgeEnd loader j := by
  unfold Configuration.loadBridgeEnd
  rw [h.instanceById]
  cases c.instanceById j with
  | none => rfl
  | some config =>
    simp only [Option.getDM_some, Except.pure_eq_ok, Except.ok_bind]
    rcases h.dnaById_cases (j := config.dna) with ⟨h₁, h₂⟩ | ⟨dc, dc', h₁, h₂, hfile⟩
    · rw [h₁, h₂]
    · rw [h₁, h₂]
      simp only [Option.getDM_some, Except.pure_eq_ok, Except.ok_bind, hfile]

/-- The check reads of the agents only their ids, and of the DNAs their ids and files: it
gives the same answer on a rekeyed configuration. -/
theorem Rekeyed.checkConsistency {loader : String → Except HolochainError Dna}
    {dnaAddress : Dna → String} {debugFns : List FnDeclaration → String} :
    c'.checkConsistency loader dnaAddress debugFns = c.checkConsistency loader dnaAddress debugFns := by
  have hstorage : c'.checkInstancesStorage = c.checkInstancesStorage := by
    unfold checkInstancesStorage
    rw [h.instances]
  have hinstance : c'.checkInstance loader = c.checkInstance loader := funext fun _ => h.checkInstance
  have hinterface : c'.checkInterface = c.checkInterface := by
    funext interface
    unfold checkInterface
    simp only [h.instanceById]
  have hbridge : c'.checkBridgeRequirements loader dnaAddress debugFns =
      c.checkBridgeRequirements loader dnaAddress debugFns := by
    funext bridge
    unfold checkBridgeRequirements
    rw [h.loadBridgeEnd, h.loadBridgeEnd]
  have hui : c'.checkUiInterface = c.checkUiInterface := by
    funext uiInterface
    unfold checkUiInterface uiBundleById interfaceById
    rw [h.uiBundles, h.interfaces]
  have hdpki : c'.checkDpki = c.checkDpki := by
    unfold checkDpki
    simp only [h.dpki, h.instanceById]
  have hsorted : c'.instanceIdsSortedByBridgeDependencies = c.instanceIdsSortedByBridgeDependencies := by
    unfold instanceIdsSortedByBridgeDependencies
    rw [h.instances, h.bridges]
  unfold Configuration.checkConsistency
  rw [h.agentIds, h.dnaIds, h.instances, hstorage, h.interfaces, hinstance, hinterface, h.bridges,
    hbridge, h.uiInterfaces, hui, hdpki, hsorted]

theorem Rekeyed.consistent {loader : String → Except HolochainError Dna}
    {dnaAddress : Dna → String} {debugFns : List FnDeclaration → String}
    (hc : c.Consistent loader dnaAddress debugFns) : c'.Consistent loader dnaAddress debugFns :=
  checkConsistency_eq_ok.mp (h.checkConsistency.trans (checkConsistency_eq_ok.mpr hc))

end Rekeyed

end Configuration

/-! ### The admin operations -/

section Admin

variable (loader : String → Except HolochainError Dna) (dnaAddress : Dna → String)
  (debugFns : List FnDeclaration → String)

/-- The configuration part of `remove_instance` (`admin.rs`): the new configuration replaces
the old one only if it passes the check, whose `String` error becomes a `HolochainError`
through `From<String>`, that is `ErrorGeneric`. Stopping the running instance comes after
and is left out. -/
def removeInstance (c : Configuration) (id : String) : Except HolochainError Configuration := do
  let newConfig := c.saveRemoveInstance id
  (newConfig.checkConsistency loader dnaAddress debugFns).mapError HolochainError.errorGeneric
  pure newConfig

/-- The configuration part of `uninstall_dna`: the DNA goes, and each instance that runs it
is removed in turn. -/
def uninstallDna (c : Configuration) (id : String) : Except HolochainError Configuration := do
  let newConfig := { c with dnas := c.dnas.filter fun dna => dna.id != id }
  let instanceIds := (newConfig.instances.filter fun inst => inst.dna == id).map fun inst => inst.id
  let newConfig := instanceIds.foldl (fun newConfig id => newConfig.saveRemoveInstance id) newConfig
  (newConfig.checkConsistency loader dnaAddress debugFns).mapError HolochainError.errorGeneric
  pure newConfig

variable {loader dnaAddress debugFns}

/-- `remove_instance` succeeds on a consistent configuration when no bridge and no DPKI
configuration names the instance. -/
theorem removeInstance_eq_ok {c : Configuration} {id : String}
    (hc : c.Consistent loader dnaAddress debugFns)
    (hbridges : ∀ bridge ∈ c.bridges, bridge.callerId ≠ id ∧ bridge.calleeId ≠ id)
    (hdpki : ∀ dpkiConfig, c.dpki = some dpkiConfig → dpkiConfig.instanceId ≠ id) :
    removeInstance loader dnaAddress debugFns c id = .ok (c.saveRemoveInstance id) := by
  unfold removeInstance
  dsimp only
  rw [Configuration.checkConsistency_eq_ok.mpr
    (Configuration.consistent_saveRemoveInstance hc hbridges hdpki)]
  rfl

/-- `uninstall_dna` succeeds on a consistent configuration when no bridge and no DPKI
configuration names an instance that runs the DNA, and leaves a consistent configuration. -/
theorem uninstallDna_eq_ok {c : Configuration} {id : String}
    (hc : c.Consistent loader dnaAddress debugFns)
    (hbridges : ∀ bridge ∈ c.bridges, ∀ inst ∈ c.instances, inst.dna = id →
      bridge.callerId ≠ inst.id ∧ bridge.calleeId ≠ inst.id)
    (hdpki : ∀ dpkiConfig, c.dpki = some dpkiConfig → ∀ inst ∈ c.instances, inst.dna = id →
      dpkiConfig.instanceId ≠ inst.id) :
    ∃ c', uninstallDna loader dnaAddress debugFns c id = .ok c' ∧
      c'.Consistent loader dnaAddress debugFns := by
  let ids := (c.instances.filter fun inst => inst.dna == id).map fun inst => inst.id
  -- an id of an instance that runs the DNA is one of those removed
  have hran : ∀ j ∈ ids, ∃ inst ∈ c.instances, inst.dna = id ∧ inst.id = j := by
    intro j hj
    obtain ⟨inst, hinst, rfl⟩ := List.mem_map.mp hj
    obtain ⟨hmem, hdna⟩ := List.mem_filter.mp hinst
    exact ⟨inst, hmem, by simpa using hdna, rfl⟩
  have hremoved : (ids.foldl (fun c id => c.saveRemoveInstance id) c).Consistent
      loader dnaAddress debugFns := by
    refine Configuration.consistent_foldl_saveRemoveInstance hc (fun bridge hb => ⟨?_, ?_⟩) ?_
    · intro hj
      obtain ⟨inst, hinst, hdna, hid⟩ := hran _ hj
      exact (hbridges bridge hb inst hinst hdna).1 hid.symm
    · intro hj
      obtain ⟨inst, hinst, hdna, hid⟩ := hran _ hj
      exact (hbridges bridge hb inst hinst hdna).2 hid.symm
    · intro dpkiConfig hd hj
      obtain ⟨inst, hinst, hdna, hid⟩ := hran _ hj
      exact hdpki dpkiConfig hd inst hinst hdna hid.symm
  -- every instance left runs another DNA
  have hunused : ∀ inst ∈ (ids.foldl (fun c id => c.saveRemoveInstance id) c).instances,
      inst.dna ≠ id := by
    intro inst hinst hdna
    obtain ⟨hmem, hnot⟩ := Configuration.mem_instances_foldl_saveRemoveInstance hinst
    exact hnot (List.mem_map_of_mem (List.mem_filter.mpr ⟨hmem, by simpa using hdna⟩))
  have hfinal := Configuration.consistent_filter_dnas hremoved hunused
  rw [Configuration.dnas_foldl_saveRemoveInstance] at hfinal
  refine ⟨_, ?_, hfinal⟩
  unfold uninstallDna
  dsimp only
  rw [Configuration.foldl_saveRemoveInstance_dnas,
    Configuration.checkConsistency_eq_ok.mpr hfinal]
  rfl

end Admin

/-- Two instances of one DNA, the first bridged to the second under a handle that the DNA
defines as optional: the configuration is consistent, but removing the callee leaves the
bridge behind, and the check, and with it `remove_instance`, fails on it. -/
theorem removal_leaves_dangling_bridge (dnaAddress : Dna → String)
    (debugFns : List FnDeclaration → String) :
    let dna : Dna := ⟨"", [("zome", ⟨[], [], [⟨.optional, "h", .trait []⟩]⟩)]⟩
    let c : Configuration := ⟨[⟨"a", "a", "HcSCa", "a.keystore", none, none⟩], [⟨"d", "f", "QmDna", none⟩],
      [⟨"i1", "d", "a", .memory⟩, ⟨"i2", "d", "a", .memory⟩], [], [⟨"i1", "i2", "h"⟩], [], [], none,
      none, none, none⟩
    c.checkConsistency (fun _ => .ok dna) dnaAddress debugFns = .ok () ∧
      (c.saveRemoveInstance "i2").checkConsistency (fun _ => .ok dna) dnaAddress debugFns =
        .error "Instance configuration \x22i2\x22 not found, mentioned in bridge" ∧
      removeInstance (fun _ => .ok dna) dnaAddress debugFns c "i2" =
        .error (.errorGeneric "Instance configuration \x22i2\x22 not found, mentioned in bridge") := by
  intro dna c
  exact ⟨rfl, rfl, rfl⟩

end Conductor

end Holochain
