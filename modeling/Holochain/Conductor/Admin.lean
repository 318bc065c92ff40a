/-
The conductor's admin calls (`ConductorAdmin` in `conductor_lib/src/conductor/admin.rs`), over
the part of the `Conductor` (`conductor/base.rs`) that they change: its configuration, the ids
of the instances it has built, the bridges each instance's conductor API was built with, and
the interfaces it runs a thread for.

Each call builds a new configuration, checks it with `check_consistency`, and only then
replaces the old one. What comes after can still fail: saving the file, building an instance,
starting an interface, rebuilding a conductor API. The call then returns the error with the
new configuration in place, as Rust's `?` after `self.config = new_config` does. The world's
answers (the DNA files, the file system, the keystores, the stores and instances, the channels
of the interface threads) are an `AdminEnv`. A panic is the outer `Except String`; in a run it
is a call with no next state.

Building an instance (`instantiate_from_config`) writes into the configuration too: a test
agent's public address becomes the key made from its name, and a DNA with a uuid gets the hash
of the DNA with it; each is saved. An agent with a remote key (the Holo closed-alpha hack) signs
through the services the configuration names, and `build_conductor_api` panics when one is not
set; `check_consistency` does not look at them.

Main results:
* `addBridge_check_iff` — on a consistent configuration, a new bridge passes the check exactly
  when its requirements hold and its callee does not already reach its caller through the
  bridges, that is, when it closes no cycle;
* `running_step`, `admin_runs_keep_running` — from a running conductor (consistent, the
  services of its remote keys set, every configured instance built, every bridge of a
  conductor API configured) whose DNA hashes match, no call panics when every instance builds,
  and every call but `remove_bridge`, and `add_agent` of a remote key without the services,
  leaves it so;
* `addInstance_unbuilt_then_addBridge_panics` — an `add_instance` whose instance fails to build
  leaves it configured but not built, and a bridge to it that passes the check then panics in
  `build_conductor_api`;
* `removeInterface_addInterface` — removing an interface just added gives back the conductor;
* `removeBridge_addBridge` — removing a bridge just added gives back the configuration only:
  `remove_bridge` does not rebuild the caller's conductor API, which keeps the bridge.
-/
import Holochain.Conductor.BridgeOrder
import Holochain.Lib.Run

set_option linter.dupNamespace false

namespace Holochain.Conductor

/-- `bridge_dependencies`: the bridges the instance calls. -/
def Configuration.bridgeDependencies (c : Configuration) (callerInstanceId : String) :
    List Bridge :=
  c.bridges.filter fun bridge => bridge.callerId == callerInstanceId

/-- The part of a `Conductor` that the admin calls change. -/
structure Conductor where
  config : Configuration
  /-- The ids of `instances`, the instances the conductor has built. -/
  instances : Finset String
  /-- The bridges each instance's conductor API was built with. -/
  apiBridges : String → List Bridge
  /-- The ids of `interface_threads`, the interfaces with a running thread. -/
  interfaceThreads : Finset String

/-- What the admin calls ask of the world, as the world answers: the DNA loader, a DNA's
address and the `Debug` text of a function list, as `check_consistency` takes them; writing
the configuration file (`save_config`); an instance's storage directory
(`instance_storage_dir_path().join(id).to_str()`) and `create_dir_all` on it; an agent's
keystore (`test_keystore` of its name for a test agent, the key loader on its keystore file
for any other) as the id of its primary keybundle; opening a file, pickle or LMDB store for an
instance's context; the instance itself, loaded or made new with its DNA (`Holochain::load`,
`Holochain::new`); `set_conductor_api` on an instance; the keystore `add_agent` makes and
saves, as its file and public address; and whether an interface's kill switch reaches its
thread. -/
structure AdminEnv where
  loader : String → Except HolochainError Dna
  dnaAddress : Dna → String
  debugFns : List FnDeclaration → String
  saveConfig : Configuration → Except HolochainError Unit
  storagePath : String → Except HolochainError String
  createDirAll : String → Except HolochainError Unit
  keybundle : AgentConfiguration → Except String String
  openStorage : StorageConfiguration → Except HolochainError Unit
  createInstance : InstanceConfiguration → Dna → Except String Unit
  setConductorApi : String → Except HolochainError Unit
  newKeystore : String → Except HolochainError (String × String)
  killSwitchSends : String → Bool

/-- The world makes the context and the conductor API of every instance: every keystore loads,
with the key its agent's configuration names unless it is a test agent, every store opens, and
every configuration is saved. -/
structure AdminEnv.MakesContexts (env : AdminEnv) : Prop where
  keystores : ∀ agentConfig, ∃ keybundleId, env.keybundle agentConfig = .ok keybundleId ∧
    (agentConfig.testAgent = some true ∨ agentConfig.publicAddress = keybundleId)
  storage : ∀ storage, env.openStorage storage = .ok ()
  saved : ∀ c, env.saveConfig c = .ok ()

/-- Every instance builds: the world makes every context and conductor API, and every
instance. -/
structure AdminEnv.Builds (env : AdminEnv) : Prop extends env.MakesContexts where
  created : ∀ inst dna, env.createInstance inst dna = .ok ()

/-- `From<NoneError> for HolochainError`: the `?` on a missing `Option`. -/
def noneError : HolochainError := .errorGeneric "Expected Some and got None"

/-- The message of `unwrap` on a `None`. -/
def unwrapNone : String := "called \x60Option::unwrap()\x60 on a \x60None\x60 value"

/-- The message of the `expect` in `build_conductor_api` on a callee that is not built. -/
def calleeMissing : String :=
  "\n                    We have to create instances ordered by bridge dependencies such that we\n                    can expect the callee to be present here because we need it to create\n                    the bridge API"

/-- The `storage` argument of `add_instance`, read into a storage configuration at the path. -/
def storageConfiguration (storage : Option String) (storagePath : String) :
    Except HolochainError StorageConfiguration :=
  match storage with
  | some "memory" => .ok .memory
  | some "file" => .ok (.file storagePath)
  | some "pickle" => .ok (.pickle storagePath)
  | none | some "lmdb" => .ok (.lmdb storagePath none)
  | some s => .error (.configError ("Invalid storage option: " ++ s))

namespace Conductor

/-! ### The steps the calls share -/

/-- A step of a call followed by the rest of it: the rest runs, on the state the step leaves,
only when the step succeeded, as `?` does. -/
def andThen {α : Type} (r : Conductor × Except HolochainError Unit)
    (k : Conductor → Conductor × Except HolochainError α) : Conductor × Except HolochainError α :=
  match r with
  | (s, .ok ()) => k s
  | (s, .error e) => (s, .error e)

/-- A stage of a call that may panic, followed by the rest of it: a panic stops the call, and
an error returns it with the conductor as the stage left it, as `?` does once `&mut self` has
been changed. -/
def chain {ε α β : Type} (r : Except String (Conductor × Except ε α))
    (k : α → Conductor → Except String (Conductor × Except ε β)) :
    Except String (Conductor × Except ε β) :=
  match r with
  | .error p => .error p
  | .ok (s, .error e) => .ok (s, .error e)
  | .ok (s, .ok a) => k a s

/-- `?` on a step whose error is a `String`: `From<String>` makes it `ErrorGeneric`. -/
def liftString (r : Conductor × Except String Unit) : Conductor × Except HolochainError Unit :=
  (r.1, r.2.mapError HolochainError.errorGeneric)

variable (env : AdminEnv)

/-- `new_config.check_consistency(&mut self.dna_loader)?; self.config = new_config`. -/
def replaceConfig (newConfig : Configuration) (s : Conductor) :
    Conductor × Except HolochainError Unit :=
  match newConfig.checkConsistency env.loader env.dnaAddress env.debugFns with
  | .error e => (s, .error (.errorGeneric e))
  | .ok () => ({ s with config := newConfig }, .ok ())

/-- `save_config`. -/
def saveConfig (s : Conductor) : Conductor × Except HolochainError Unit :=
  (s, env.saveConfig s.config)

/-- The shape of every call but `add_instance` and `add_bridge`: refuse with an error, or
replace the configuration by one that passes the check, save it, and go on with the rest. -/
def updateConfig {α : Type} (refusal : Option HolochainError) (newConfig : Configuration)
    (rest : Conductor → Conductor × Except HolochainError α) (s : Conductor) :
    Conductor × Except HolochainError α :=
  match refusal with
  | some e => (s, .error e)
  | none => andThen (replaceConfig env newConfig s) fun s => andThen (saveConfig env s) rest

/-- `start_interface_by_id`, with `start_interface`: the interface must be configured and have
no thread yet; its thread is spawned and recorded. -/
def startInterfaceById (id : String) (s : Conductor) : Conductor × Except String Unit :=
  match s.config.interfaceById id with
  | none => (s, .error ("Interface does not exist: " ++ id))
  | some config =>
    if config.id ∈ s.interfaceThreads then
      (s, .error ("Interface " ++ config.id ++ " already started!"))
    else ({ s with interfaceThreads := insert config.id s.interfaceThreads }, .ok ())

/-- `stop_interface_by_id`: the interface's kill switch is sent, and its thread forgotten. -/
def stopInterfaceById (id : String) (s : Conductor) : Conductor × Except HolochainError Unit :=
  if id ∉ s.interfaceThreads then (s, .error (.errorGeneric ("Interface " ++ id ++ " not found.")))
  else if env.killSwitchSends id then
    ({ s with interfaceThreads := s.interfaceThreads.erase id }, .ok ())
  else (s, .error (.errorGeneric "Error stopping interface: sending on a disconnected channel"))

/-- `get_keybundle_for_agent`, through `get_keystore_for_agent`: the id of the agent's
primary keybundle. An agent with a remote key has no keystore, and the key of any agent but a
test agent must be the public address its configuration names. -/
def getKeybundleForAgent (s : Conductor) (agentId : String) : Except String String :=
  match s.config.agentById agentId with
  | none => .error ("Agent \x27" ++ agentId ++ "\x27 not found")
  | some agentConfig =>
    if agentConfig.holoRemoteKey = some true then .error "agent is holo_remote, no keystore"
    else
      match env.keybundle agentConfig with
      | .error e => .error e
      | .ok keybundleId =>
        if agentConfig.testAgent ≠ some true ∧ agentConfig.publicAddress ≠ keybundleId then
          .error ("Key from file \x27" ++ agentConfig.keystoreFile ++ "\x27 (\x27" ++ keybundleId ++
            "\x27) does not match public address " ++ agentConfig.publicAddress ++
            " mentioned in config!")
        else .ok keybundleId

/-- `agent_config_to_id`, as the agent's public key: the public address of an agent with a
remote key, the id of the keybundle of any other. -/
def agentConfigToId (s : Conductor) (agentConfig : AgentConfiguration) :
    Except HolochainError String :=
  if agentConfig.holoRemoteKey = some true then .ok agentConfig.publicAddress
  else (getKeybundleForAgent env s agentConfig.id).mapError .errorGeneric

/-- The signing callbacks of `build_conductor_api`. An agent with a remote key signs, encrypts
and decrypts through the services the configuration names, each `expect`ed to be set (its
`agent_config_to_id` is its public address, and cannot fail); any other through its keystore. -/
def signingCallbacks (s : Conductor) (agentConfig : AgentConfiguration) :
    Except String (Except HolochainError Unit) :=
  if agentConfig.holoRemoteKey = some true then
    match s.config.signingServiceUri, s.config.encryptionServiceUri,
        s.config.decryptionServiceUri with
    | none, _, _ => .error "holo_remote_key needs signing_service_uri set"
    | some _, none, _ => .error "holo_remote_key needs encryption_service_uri set"
    | some _, some _, none => .error "holo_remote_key needs decryption_service_uri set"
    | some _, some _, some _ => .ok (.ok ())
  else
    -- the three keybundles and the keystore come from the one keystore of the agent, which
    -- `agent_keys` keeps once loaded: the first answer is the answer of all four
    .ok (((getKeybundleForAgent env s agentConfig.id).map fun _ => ()).mapError .errorGeneric)

/-- What `build_conductor_api` asks of a bridge's callee, with an `expect` each: that it is
configured, then that it is built. -/
def calleeBuilt (s : Conductor) (bridge : Bridge) : Except String Unit :=
  if (s.config.instanceById bridge.calleeId).isNone then
    throw "config.check_consistency()? jumps out if config is broken"
  else if bridge.calleeId ∈ s.instances then pure ()
  else throw calleeMissing

/-- `build_conductor_api` for an instance: its configuration and its agent's, the agent's
signing callbacks, and a named instance for each bridge it calls, whose callee must be
configured and built. The API is returned as the bridges it was built with. -/
def buildConductorApi (s : Conductor) (instanceId : String) :
    Except String (Except HolochainError (List Bridge)) :=
  match s.config.instanceById instanceId with
  | none => .ok (.error noneError)
  | some instanceConfig =>
    match s.config.agentById instanceConfig.agent with
    | none => .ok (.error noneError)
    | some agentConfig =>
      match signingCallbacks env s agentConfig with
      | .error p => .error p
      | .ok (.error e) => .ok (.error e)
      | .ok (.ok ()) =>
        let bridges := s.config.bridgeDependencies instanceConfig.id
        match bridges.forM (calleeBuilt s) with
        | .error p => .error p
        | .ok () => .ok (.ok bridges)

/-- The agent part of `instantiate_from_config`: the agent's public key, which becomes a test
agent's public address in the configuration, saved. -/
def instanceAgent (s : Conductor) (agentId : String) :
    Except String (Conductor × Except String Unit) :=
  match s.config.agentById agentId with
  | none => .error unwrapNone
  | some agentConfig =>
    match agentConfigToId env s agentConfig with
    | .error e => .ok (s, .error e.toString)
    | .ok agentAddress =>
      if agentConfig.testAgent.getD false then
        let s := { s with config := s.config.updateAgentAddressById agentId agentAddress }
        .ok (s, (env.saveConfig s.config).mapError HolochainError.toString)
      else .ok (s, .ok ())

/-- The storage of the context `instantiate_from_config` builds: memory is always there, and a
file, pickle or LMDB store opens as the world answers. -/
def contextStorage (storage : StorageConfiguration) : Except String Unit :=
  match storage with
  | .memory => .ok ()
  | storage => (env.openStorage storage).mapError fun hcErr =>
    "Error creating context: " ++ hcErr.toString

/-- `check_dna_consistency`. -/
def checkDnaConsistency (dnaHashA dnaHashB : String) : Except HolochainError Unit :=
  if dnaHashA = dnaHashB then .ok () else .error (.dnaHashMismatch dnaHashA dnaHashB)

/-- `check_dna_consistency_from_all_sources`: the configured hash, the loaded DNA's and the
file's agree, pair by pair. -/
def checkDnaConsistencyFromAllSources (fromConductorConfig computed computedFromFile : String) :
    Except HolochainError Unit := do
  checkDnaConsistency fromConductorConfig computed
  checkDnaConsistency fromConductorConfig computedFromFile
  checkDnaConsistency computed computedFromFile

/-- The DNA part of `instantiate_from_config`, which returns the DNA the instance runs. A DNA
configured with a uuid gets it, and the configuration the hash of the DNA with it, saved; the
hash configured for any other must be the loaded DNA's, and the file's when it loads again. -/
def instanceDna (s : Conductor) (dnaId : String) : Except String (Conductor × Except String Dna) :=
  match s.config.dnaById dnaId with
  | none => .error unwrapNone
  | some dnaConfig =>
    match env.loader dnaConfig.file with
    | .error _ => .ok (s, .error ("Could not load DNA file \x22" ++ dnaConfig.file ++ "\x22"))
    | .ok dna =>
      match dnaConfig.uuid with
      | some uuid =>
        let dna := { dna with uuid := uuid }
        let s := { s with config := s.config.updateDnaHashById dnaConfig.id (env.dnaAddress dna) }
        .ok (s, ((env.saveConfig s.config).map fun () => dna).mapError HolochainError.toString)
      | none =>
        let check := match env.loader dnaConfig.file with
          | .ok dnaFromFile => checkDnaConsistencyFromAllSources dnaConfig.hash
              (env.dnaAddress dna) (env.dnaAddress dnaFromFile)
          | .error _ => checkDnaConsistency dnaConfig.hash (env.dnaAddress dna)
        .ok (s, (check.map fun () => dna).mapError HolochainError.toString)

/-- `instantiate_from_config`: the check again, the instance's configuration, then its agent,
the storage of its context, its conductor API, its DNA, and the instance itself. The
conductor is returned as the stages leave it, with the bridges of the conductor API. -/
def instantiateFromConfig (s : Conductor) (id : String) :
    Except String (Conductor × Except String (List Bridge)) :=
  match s.config.checkConsistency env.loader env.dnaAddress env.debugFns with
  | .error e => .ok (s, .error e)
  | .ok () =>
    match s.config.instanceById id with
    | none => .ok (s, .error "Instance not found in config")
    | some instanceConfig =>
      chain (instanceAgent env s instanceConfig.agent) fun () s =>
      chain (.ok (s, contextStorage env instanceConfig.storage)) fun () s =>
      chain ((buildConductorApi env s instanceConfig.id).map fun api =>
          (s, api.mapError HolochainError.toString)) fun bridges s =>
      chain (instanceDna env s instanceConfig.dna) fun dna s =>
      .ok (s, (env.createInstance instanceConfig dna).map fun () => bridges)

/-! ### The admin calls -/

/-- `uninstall_dna`. Stopping the removed instances comes after and only logs its errors; it
leaves them in the instance map. -/
def uninstallDna (id : String) (s : Conductor) : Conductor × Except HolochainError Unit :=
  match Holochain.Conductor.uninstallDna env.loader env.dnaAddress env.debugFns s.config id with
  | .error e => (s, .error e)
  | .ok newConfig => saveConfig env { s with config := newConfig }

/-- `add_instance`. The storage directory is made before the storage option is read; the
instance is built after the new configuration is in place, and saved after that. -/
def addInstance (id dnaId agentId : String) (storage : Option String) (s : Conductor) :
    Except String (Conductor × Except HolochainError Unit) :=
  match env.storagePath id with
  | .error e => .ok (s, .error e)
  | .ok storagePath =>
    match env.createDirAll storagePath with
    | .error e => .ok (s, .error e)
    | .ok () =>
      match storageConfiguration storage storagePath with
      | .error e => .ok (s, .error e)
      | .ok storageConfig =>
        match replaceConfig env { s.config with instances :=
            s.config.instances ++ [⟨id, dnaId, agentId, storageConfig⟩] } s with
        | (s, .error e) => .ok (s, .error e)
        | (s, .ok ()) =>
          match instantiateFromConfig env s id with
          | .error p => .error p
          | .ok (s, .error e) => .ok (s, .error (.errorGeneric e))
          | .ok (s, .ok bridges) =>
            let s := { s with
              instances := insert id s.instances
              apiBridges := Function.update s.apiBridges id bridges }
            .ok (saveConfig env s)

/-- `remove_instance`. Stopping the instance only logs its error; it is then taken out of the
instance map and killed. -/
def removeInstance (id : String) (s : Conductor) : Conductor × Except HolochainError Unit :=
  match Holochain.Conductor.removeInstance env.loader env.dnaAddress env.debugFns s.config id with
  | .error e => (s, .error e)
  | .ok newConfig =>
    andThen (saveConfig env { s with config := newConfig }) fun s =>
      ({ s with instances := s.instances.erase id }, .ok ())

/-- `add_interface`: the interface is started once the configuration is saved. -/
def addInterface (interface : InterfaceConfiguration) (s : Conductor) :
    Conductor × Except HolochainError Unit :=
  updateConfig env
    (if s.config.interfaces.any (fun i => i.id == interface.id) then
      some (.errorGeneric ("Interface with ID \x27" ++ interface.id ++ "\x27 already exists"))
    else none)
    { s.config with interfaces := s.config.interfaces ++ [interface] }
    (fun s => liftString (startInterfaceById interface.id s)) s

/-- `remove_interface`: stopping the interface only logs its error. -/
def removeInterface (id : String) (s : Conductor) : Conductor × Except HolochainError Unit :=
  updateConfig env
    (if !(s.config.interfaces.any fun interface => interface.id == id) then
      some (.errorGeneric ("No such interface: \x27" ++ id ++ "\x27"))
    else none)
    { s.config with interfaces := s.config.interfaces.filter fun interface => interface.id != id }
    (fun s => ((stopInterfaceById env id s).1, .ok ())) s

/-- `add_instance_to_interface`, without the reference's alias: the interface is restarted,
and stopping it only logs its error. -/
def addInstanceToInterface (interfaceId instanceId : String) (s : Conductor) :
    Conductor × Except HolochainError Unit :=
  updateConfig env
    (match s.config.interfaceById interfaceId with
    | none => some (.errorGeneric ("Interface with ID " ++ interfaceId ++ " not found"))
    | some interface =>
      if interface.instances.any (fun i => i.id == instanceId) then
        some (.errorGeneric ("Instance \x27" ++ instanceId ++ "\x27 already in interface \x27" ++
          interfaceId ++ "\x27"))
      else none)
    { s.config with interfaces := s.config.interfaces.map fun interface =>
      if interface.id == interfaceId then
        { interface with instances := interface.instances ++ [⟨instanceId⟩] }
      else interface }
    (fun s => liftString (startInterfaceById interfaceId (stopInterfaceById env interfaceId s).1)) s

/-- `remove_instance_from_interface`: the interface is restarted, and stopping it only logs its
error. -/
def removeInstanceFromInterface (interfaceId instanceId : String) (s : Conductor) :
    Conductor × Except HolochainError Unit :=
  updateConfig env
    (match s.config.interfaceById interfaceId with
    | none => some (.errorGeneric ("Interface with ID " ++ interfaceId ++ " not found"))
    | some interface =>
      if !(interface.instances.any fun i => i.id == instanceId) then
        some (.errorGeneric ("No Instance \x27" ++ instanceId ++ "\x27 in interface \x27" ++
          interfaceId ++ "\x27"))
      else none)
    { s.config with interfaces := s.config.interfaces.map fun interface =>
      if interface.id == interfaceId then
        { interface with instances := interface.instances.filter fun inst =>
          inst.id != instanceId }
      else interface }
    (fun s => liftString (startInterfaceById interfaceId (stopInterfaceById env interfaceId s).1)) s

/-- `add_agent`: an agent with a remote key has it as its public address and no keystore
file; any other gets a new keystore, made and saved before the configuration is checked. -/
def addAgent (id name : String) (holoRemoteKey : Option String) (s : Conductor) :
    Conductor × Except HolochainError String :=
  if s.config.agents.any (fun agent => agent.id == id) then
    (s, .error (.errorGeneric ("Agent with ID \x27" ++ id ++ "\x27 already exists")))
  else
    let keystore : Except HolochainError (String × String) := match holoRemoteKey with
      | some publicAddress => .ok ("::ignored::", publicAddress)
      | none => env.newKeystore id
    match keystore with
    | .error e => (s, .error e)
    | .ok (keystoreFile, publicAddress) =>
      let newAgent : AgentConfiguration :=
        ⟨id, name, publicAddress, keystoreFile, holoRemoteKey.map fun _ => true, none⟩
      updateConfig env none { s.config with agents := s.config.agents ++ [newAgent] }
        (fun s => (s, .ok publicAddress)) s

/-- `remove_agent`: the agent goes, and each instance it runs is removed in turn. Stopping
them comes after and only logs its errors; it leaves them in the instance map. -/
def removeAgent (id : String) (s : Conductor) : Conductor × Except HolochainError Unit :=
  let newConfig := { s.config with agents := s.config.agents.filter fun agent => agent.id != id }
  let instanceIds := (newConfig.instances.filter fun inst => inst.agent == id).map
    fun inst => inst.id
  updateConfig env
    (if !(s.config.agents.any fun agent => agent.id == id) then
      some (.errorGeneric ("Agent with ID \x27" ++ id ++ "\x27 does not exist"))
    else none)
    (instanceIds.foldl (fun newConfig id => newConfig.saveRemoveInstance id) newConfig)
    (fun s => (s, .ok ())) s

/-- `add_bridge`: once the configuration is saved, the caller's conductor API is rebuilt, so
that it sees the bridge's handle, and set on the caller's instance. -/
def addBridge (newBridge : Bridge) (s : Conductor) :
    Except String (Conductor × Except HolochainError Unit) :=
  if s.config.bridges.any (fun b => b.callerId == newBridge.callerId &&
      b.calleeId == newBridge.calleeId) then
    .ok (s, .error (.errorGeneric ("Bridge from instance \x27" ++ newBridge.callerId ++
      "\x27 to instance \x27" ++ newBridge.calleeId ++ "\x27 already exists")))
  else
    match andThen (replaceConfig env { s.config with bridges := s.config.bridges ++ [newBridge] } s)
        (saveConfig env) with
    | (s, .error e) => .ok (s, .error e)
    | (s, .ok ()) =>
      match buildConductorApi env s newBridge.callerId with
      | .error p => .error p
      | .ok (.error e) => .ok (s, .error e)
      | .ok (.ok bridges) =>
        if newBridge.callerId ∈ s.instances then
          match env.setConductorApi newBridge.callerId with
          | .error e => .ok (s, .error e)
          | .ok () =>
            .ok ({ s with apiBridges := Function.update s.apiBridges newBridge.callerId bridges },
              .ok ())
        else .ok (s, .error noneError)

/-- `remove_bridge`. Unlike `add_bridge`, it leaves the caller's conductor API as it is. -/
def removeBridge (callerId calleeId : String) (s : Conductor) :
    Conductor × Except HolochainError Unit :=
  updateConfig env
    (if !(s.config.bridges.any fun b => b.callerId == callerId && b.calleeId == calleeId) then
      some (.errorGeneric ("Bridge from instance \x27" ++ callerId ++ "\x27 to instance \x27" ++
        calleeId ++ "\x27 does not exist"))
    else none)
    { s.config with bridges := s.config.bridges.filter fun bridge =>
      bridge.callerId != callerId || bridge.calleeId != calleeId }
    (fun s => (s, .ok ())) s

end Conductor

/-! ### Runs of admin calls -/

/-- An admin call, with its arguments. -/
inductive AdminCall
  | uninstallDna (id : String)
  | addInstance (id dnaId agentId : String) (storage : Option String)
  | removeInstance (id : String)
  | addInterface (interface : InterfaceConfiguration)
  | removeInterface (id : String)
  | addInstanceToInterface (interfaceId instanceId : String)
  | removeInstanceFromInterface (interfaceId instanceId : String)
  | addAgent (id name : String) (holoRemoteKey : Option String)
  | removeAgent (id : String)
  | addBridge (newBridge : Bridge)
  | removeBridge (callerId calleeId : String)

/-- The conductor an admin call leaves, whatever it returns; `none` when it panics. -/
def AdminCall.run (env : AdminEnv) : AdminCall → Conductor → Option Conductor
  | .uninstallDna id, s => some (s.uninstallDna env id).1
  | .addInstance id dnaId agentId storage, s =>
    match s.addInstance env id dnaId agentId storage with
    | .ok (s', _) => some s'
    | .error _ => none
  | .removeInstance id, s => some (s.removeInstance env id).1
  | .addInterface interface, s => some (s.addInterface env interface).1
  | .removeInterface id, s => some (s.removeInterface env id).1
  | .addInstanceToInterface interfaceId instanceId, s =>
    some (s.addInstanceToInterface env interfaceId instanceId).1
  | .removeInstanceFromInterface interfaceId instanceId, s =>
    some (s.removeInstanceFromInterface env interfaceId instanceId).1
  | .addAgent id name holoRemoteKey, s => some (s.addAgent env id name holoRemoteKey).1
  | .removeAgent id, s => some (s.removeAgent env id).1
  | .addBridge newBridge, s =>
    match s.addBridge env newBridge with
    | .ok (s', _) => some s'
    | .error _ => none
  | .removeBridge callerId calleeId, s => some (s.removeBridge env callerId calleeId).1

/-- One admin call on the conductor. -/
def AdminStep (env : AdminEnv) (s : Conductor) (call : AdminCall) (s' : Conductor) : Prop :=
  call.run env s = some s'

/-! ### Remote keys and DNA hashes -/

namespace Configuration

/-- The URIs of the signing, encryption and decryption services. -/
def services (c : Configuration) : Option String × Option String × Option String :=
  (c.signingServiceUri, c.encryptionServiceUri, c.decryptionServiceUri)

/-- The three services an agent with a remote key signs, encrypts and decrypts through are
configured. -/
def ServicesSet (c : Configuration) : Prop :=
  c.signingServiceUri.isSome ∧ c.encryptionServiceUri.isSome ∧ c.decryptionServiceUri.isSome

/-- Every agent with a remote key has the services it needs: what keeps the `expect`s of
`build_conductor_api` from panicking. -/
def RemoteKeysServed (c : Configuration) : Prop :=
  ∀ agentConfig ∈ c.agents, agentConfig.holoRemoteKey = some true → c.ServicesSet

/-- The hash configured for a DNA without a uuid is the address of the DNA its file holds, as
`instantiate_from_config` checks. -/
def DnaHashesMatch (c : Configuration) (loader : String → Except HolochainError Dna)
    (dnaAddress : Dna → String) : Prop :=
  ∀ dnaConfig ∈ c.dnas, dnaConfig.uuid = none → ∀ dna, loader dnaConfig.file = .ok dna →
    dnaConfig.hash = dnaAddress dna

variable {c c' : Configuration} {loader : String → Except HolochainError Dna}
  {dnaAddress : Dna → String} {debugFns : List FnDeclaration → String}

theorem ServicesSet.of_services (h : c.ServicesSet) (hservices : c'.services = c.services) :
    c'.ServicesSet := by
  simp only [services, Prod.mk.injEq] at hservices
  obtain ⟨hsig, henc, hdec⟩ := hservices
  unfold ServicesSet
  rw [hsig, henc, hdec]
  exact h

/-- Remote keys stay served with the same services and no new agent. -/
theorem RemoteKeysServed.of_agents (h : c.RemoteKeysServed) (hservices : c'.services = c.services)
    (hagents : ∀ agentConfig ∈ c'.agents, agentConfig ∈ c.agents) : c'.RemoteKeysServed :=
  fun agentConfig hmem hremote => (h agentConfig (hagents agentConfig hmem) hremote).of_services hservices

theorem Rekeyed.services (h : c.Rekeyed c') : c'.services = c.services := by
  have hrest := h.rest
  unfold Configuration.services
  rw [← hrest]

/-- Rekeying keeps which agents have a remote key. -/
theorem Rekeyed.remoteKeysServed (h : c.Rekeyed c') (hs : c.RemoteKeysServed) :
    c'.RemoteKeysServed := by
  intro agentConfig hmem hremote
  have hkeyed : agentConfig.unkeyed ∈ c.agents.map AgentConfiguration.unkeyed :=
    h.agents ▸ List.mem_map_of_mem hmem
  obtain ⟨old, hold, hunkeyed⟩ := List.mem_map.mp hkeyed
  have holdRemote : old.holoRemoteKey = some true :=
    (congrArg AgentConfiguration.holoRemoteKey hunkeyed).trans hremote
  exact (hs old hold holdRemote).of_services h.services

theorem DnaHashesMatch.of_dnas (h : c.DnaHashesMatch loader dnaAddress)
    (hdnas : ∀ dnaConfig ∈ c'.dnas, dnaConfig ∈ c.dnas) : c'.DnaHashesMatch loader dnaAddress :=
  fun dnaConfig hmem => h dnaConfig (hdnas dnaConfig hmem)

/-- A DNA the hash update writes is the first with the id; every other is as it was. -/
theorem mem_updateDnaHash {id hash : String} :
    ∀ {dnas : List DnaConfiguration} {dnaConfig : DnaConfiguration},
      dnaConfig ∈ updateDnaHash id hash dnas →
        dnaConfig ∈ dnas ∨ ∃ first, dnas.find? (fun dc => dc.id == id) = some first ∧
          dnaConfig = { first with hash := hash }
  | [], _, h => absurd h List.not_mem_nil
  | dna :: dnas, dnaConfig, h => by
    by_cases hid : dna.id = id
    · rw [updateDnaHash, if_pos hid] at h
      rcases List.mem_cons.mp h with rfl | hrest
      · exact .inr ⟨dna, by simp [hid], rfl⟩
      · exact .inl (List.mem_cons_of_mem dna hrest)
    · rw [updateDnaHash, if_neg hid] at h
      rcases List.mem_cons.mp h with rfl | hrest
      · exact .inl List.mem_cons_self
      · rcases mem_updateDnaHash hrest with hold | ⟨first, hfirst, rfl⟩
        · exact .inl (List.mem_cons_of_mem dna hold)
        · exact .inr ⟨first, by simp [hid, hfirst], rfl⟩

/-- Writing the hash of a DNA with a uuid keeps the hashes of the others matching. -/
theorem DnaHashesMatch.updateDnaHashById (h : c.DnaHashesMatch loader dnaAddress)
    {id hash : String} {dnaConfig : DnaConfiguration} (hfound : c.dnaById id = some dnaConfig)
    (huuid : dnaConfig.uuid ≠ none) :
    (c.updateDnaHashById id hash).DnaHashesMatch loader dnaAddress := by
  intro dc hmem hnone
  rcases mem_updateDnaHash hmem with hold | ⟨first, hfirst, rfl⟩
  · exact h dc hold hnone
  · -- the DNA written is the one found, which has a uuid
    have hsame : first = dnaConfig := Option.some.inj (hfirst.symm.trans hfound)
    subst hsame
    exact absurd hnone huuid

/-- The agent found under an id is found under its own id. -/
theorem agentById_self {j : String} {agentConfig : AgentConfiguration}
    (h : c.agentById j = some agentConfig) : c.agentById agentConfig.id = some agentConfig := by
  have hid : agentConfig.id = j := by simpa using List.find?_some h
  rw [hid]
  exact h

/-- The DNA found under an id is found under its own id. -/
theorem dnaById_self {j : String} {dnaConfig : DnaConfiguration}
    (h : c.dnaById j = some dnaConfig) : c.dnaById dnaConfig.id = some dnaConfig := by
  have hid : dnaConfig.id = j := by simpa using List.find?_some h
  rw [hid]
  exact h

/-- The DNA of an instance that passes its check is configured, and its file loads. -/
theorem exists_dna_of_checkInstance {inst : InstanceConfiguration}
    (h : c.checkInstance loader inst = .ok ()) :
    ∃ dnaConfig dna, c.dnaById inst.dna = some dnaConfig ∧ loader dnaConfig.file = .ok dna := by
  unfold checkInstance at h
  cases hag : (c.agentById inst.agent).isSome with
  | false =>
    simp only [hag, Bool.false_eq_true, if_false] at h
    cases h
  | true =>
    simp only [hag, if_true] at h
    obtain ⟨dnaConfig, hdnaConfig, h⟩ := Except.bind_eq_ok.mp h
    obtain ⟨dna, hdnaOk, -⟩ := Except.bind_eq_ok.mp h
    cases hfound : c.dnaById inst.dna with
    | none =>
      rw [hfound] at hdnaConfig
      cases hdnaConfig
    | some found =>
      rw [hfound] at hdnaConfig
      cases hdnaConfig
      exact ⟨_, dna, rfl, Except.mapError_eq_ok.mp hdnaOk⟩

/-! ### The check with one more bridge -/

/-- An instance that passes its check still passes it when the agents and DNAs are the same and
every bridge handle found before is still found. -/
theorem checkInstance_of_bridges (hagents : c'.agents = c.agents) (hdnas : c'.dnas = c.dnas)
    (hfound : ∀ handle, (c.bridges.find? fun b => b.handle == handle).isSome →
      (c'.bridges.find? fun b => b.handle == handle).isSome)
    {inst : InstanceConfiguration} (h : c.checkInstance loader inst = .ok ()) :
    c'.checkInstance loader inst = .ok () := by
  have hagent : c'.agentById = c.agentById := by
    unfold agentById
    rw [hagents]
  have hdna : c'.dnaById = c.dnaById := by
    unfold dnaById
    rw [hdnas]
  unfold checkInstance at h ⊢
  rw [hagent, hdna]
  -- the agent is found, or the check would have failed on it
  cases hag : (c.agentById inst.agent).isSome with
  | false =>
    simp only [hag, Bool.false_eq_true, if_false] at h
    cases h
  | true =>
    simp only [hag, if_true] at h ⊢
    obtain ⟨dnaConfig, hdnaConfig, h⟩ := Except.bind_eq_ok.mp h
    refine Except.bind_eq_ok.mpr ⟨dnaConfig, hdnaConfig, ?_⟩
    obtain ⟨dna, hdnaOk, h⟩ := Except.bind_eq_ok.mp h
    refine Except.bind_eq_ok.mpr ⟨dna, hdnaOk, ?_⟩
    rw [Except.forM_eq_ok] at h ⊢
    intro zome hzome
    have hzome' := h zome hzome
    rw [Except.forM_eq_ok] at hzome' ⊢
    intro bridge hbridge
    have hbridge' := hzome' bridge hbridge
    -- only a required bridge is looked up, by its handle
    by_cases hreq : bridge.presence = .required
    · rw [if_pos hreq] at hbridge' ⊢
      rw [Except.ite_pure_throw_eq_ok] at hbridge' ⊢
      exact hfound bridge.handle hbridge'
    · rw [if_neg hreq] at hbridge' ⊢
      rfl

/-- An end of a bridge that loads is a configured instance. -/
theorem mem_ids_of_loadBridgeEnd {j : String} {x : InstanceConfiguration × Dna}
    (h : c.loadBridgeEnd loader j = .ok x) : j ∈ c.instances.map fun inst => inst.id := by
  unfold loadBridgeEnd at h
  obtain ⟨config, hconfig, -⟩ := Except.bind_eq_ok.mp h
  cases hfound : c.instanceById j with
  | none =>
    rw [hfound] at hconfig
    cases hconfig
  | some found =>
    exact List.mem_map.mpr ⟨found, List.mem_of_find?_eq_some hfound,
      by simpa using List.find?_some hfound⟩

/-- A bridge that passes its requirements joins two configured instances. -/
theorem ends_of_checkBridgeRequirements {bridge : Bridge}
    (h : c.checkBridgeRequirements loader dnaAddress debugFns bridge = .ok ()) :
    bridge.callerId ∈ c.instances.map (fun inst => inst.id) ∧
      bridge.calleeId ∈ c.instances.map (fun inst => inst.id) := by
  unfold checkBridgeRequirements at h
  obtain ⟨caller, hcaller, h⟩ := Except.bind_eq_ok.mp h
  obtain ⟨callee, hcallee, -⟩ := Except.bind_eq_ok.mp h
  exact ⟨mem_ids_of_loadBridgeEnd hcaller, mem_ids_of_loadBridgeEnd hcallee⟩

/-- Removing instances keeps the bridges. -/
theorem bridges_foldl_saveRemoveInstance {ids : List String} :
    (ids.foldl (fun c id => c.saveRemoveInstance id) c).bridges = c.bridges := by
  induction ids generalizing c with
  | nil => rfl
  | cons id ids ih => exact ih

/-- Removing instances keeps the agents. -/
theorem agents_foldl_saveRemoveInstance {ids : List String} :
    (ids.foldl (fun c id => c.saveRemoveInstance id) c).agents = c.agents := by
  induction ids generalizing c with
  | nil => rfl
  | cons id ids ih => exact ih

/-- Removing instances keeps the services. -/
theorem services_foldl_saveRemoveInstance {ids : List String} :
    (ids.foldl (fun c id => c.saveRemoveInstance id) c).services = c.services := by
  induction ids generalizing c with
  | nil => rfl
  | cons id ids ih => exact ih

/-- The instance found under an id is a configured instance with that id. -/
theorem instanceById_eq_some {j : String} {ic : InstanceConfiguration}
    (h : c.instanceById j = some ic) : ic ∈ c.instances ∧ ic.id = j :=
  ⟨List.mem_of_find?_eq_some h, by simpa using List.find?_some h⟩

/-- A configured instance id is found. -/
theorem exists_instanceById_of_mem {j : String} (h : j ∈ c.instances.map fun inst => inst.id) :
    ∃ ic, c.instanceById j = some ic := by
  obtain ⟨inst, hinst, rfl⟩ := List.mem_map.mp h
  exact Option.isSome_iff_exists.mp (List.find?_isSome.mpr ⟨inst, hinst, by simp⟩)

/-- An instance that passes its check runs a configured agent. -/
theorem isSome_agentById_of_checkInstance {inst : InstanceConfiguration}
    (h : c.checkInstance loader inst = .ok ()) : (c.agentById inst.agent).isSome := by
  unfold checkInstance at h
  cases hag : (c.agentById inst.agent).isSome with
  | false =>
    simp only [hag, Bool.false_eq_true, if_false] at h
    cases h
  | true => rfl

/-- What `remove_instance` puts in place: the configuration without the instance, which
passed the check. -/
theorem removeInstance_eq_ok_spec {id : String}
    (h : Holochain.Conductor.removeInstance loader dnaAddress debugFns c id = .ok c') :
    c' = c.saveRemoveInstance id ∧ c'.Consistent loader dnaAddress debugFns := by
  unfold Holochain.Conductor.removeInstance at h
  obtain ⟨u, hcheck, h⟩ := Except.bind_eq_ok.mp h
  cases h
  exact ⟨rfl, checkConsistency_eq_ok.mp (Except.mapError_eq_ok.mp hcheck)⟩

/-- What `uninstall_dna` puts in place passed the check, keeps the bridges, the agents and
the services, and keeps only instances and DNAs there were. -/
theorem uninstallDna_eq_ok_spec {id : String}
    (h : Holochain.Conductor.uninstallDna loader dnaAddress debugFns c id = .ok c') :
    c'.Consistent loader dnaAddress debugFns ∧ (∀ inst ∈ c'.instances, inst ∈ c.instances) ∧
      c'.bridges = c.bridges ∧ c'.agents = c.agents ∧ c'.services = c.services ∧
      ∀ dnaConfig ∈ c'.dnas, dnaConfig ∈ c.dnas := by
  unfold Holochain.Conductor.uninstallDna at h
  obtain ⟨u, hcheck, h⟩ := Except.bind_eq_ok.mp h
  cases h
  refine ⟨checkConsistency_eq_ok.mp (Except.mapError_eq_ok.mp hcheck),
    fun inst hinst => (mem_instances_foldl_saveRemoveInstance hinst).1,
    bridges_foldl_saveRemoveInstance, agents_foldl_saveRemoveInstance,
    services_foldl_saveRemoveInstance, fun dnaConfig hdna => ?_⟩
  rw [dnas_foldl_saveRemoveInstance] at hdna
  exact List.mem_of_mem_filter hdna

/-- An instance added under a fresh id is found under it. -/
theorem instanceById_append_fresh {inst : InstanceConfiguration}
    (hfresh : inst.id ∉ c.instances.map fun i => i.id) :
    ({ c with instances := c.instances ++ [inst] } : Configuration).instanceById inst.id =
      some inst := by
  have hnone : c.instances.find? (fun ic => ic.id == inst.id) = none :=
    List.find?_eq_none.mpr fun ic hic heq =>
      hfresh (List.mem_map.mpr ⟨ic, hic, by simpa using heq⟩)
  show (c.instances ++ [inst]).find? (fun ic => ic.id == inst.id) = some inst
  rw [List.find?_append, hnone, Option.none_or]
  simp

/-- An instance added to a configuration that then passes the check, which keeps instance ids
apart, is found under its id. -/
theorem instanceById_append_of_consistent {inst : InstanceConfiguration}
    (hc : ({ c with instances := c.instances ++ [inst] } : Configuration).Consistent loader
      dnaAddress debugFns) :
    ({ c with instances := c.instances ++ [inst] } : Configuration).instanceById inst.id =
      some inst := by
  have hnodup := hc.instanceIds
  rw [List.map_append, List.nodup_append] at hnodup
  exact instanceById_append_fresh fun hmem => hnodup.2.2 _ hmem _ (List.mem_singleton_self _) rfl

/-- An agent added under an id no agent has is found under it. -/
theorem agentById_append_fresh {agentConfig : AgentConfiguration}
    (hfresh : (c.agents.any fun agent => agent.id == agentConfig.id) = false) :
    ({ c with agents := c.agents ++ [agentConfig] } : Configuration).agentById agentConfig.id =
      some agentConfig := by
  have hnone : c.agents.find? (fun ac => ac.id == agentConfig.id) = none :=
    List.find?_eq_none.mpr (List.any_eq_false.mp hfresh)
  show (c.agents ++ [agentConfig]).find? (fun ac => ac.id == agentConfig.id) = some agentConfig
  rw [List.find?_append, hnone, Option.none_or]
  simp

/-- What a lookup finds in a list it still finds with more after. -/
theorem isSome_find?_append {β : Type} {bridges more : List β} {p : β → Bool}
    (h : (bridges.find? p).isSome) : ((bridges ++ more).find? p).isSome := by
  rw [List.find?_append, Option.isSome_or, h, Bool.true_or]

/-- On a consistent configuration, the configuration with one more bridge is consistent exactly
when the bridge passes its requirements and its callee does not already reach its caller
through the bridges: the other checks read no bridge, or only find more, and the bridge graph
gets the one edge. -/
theorem consistent_append_bridge_iff (hc : c.Consistent loader dnaAddress debugFns) {b : Bridge} :
    ({ c with bridges := c.bridges ++ [b] } : Configuration).Consistent loader dnaAddress debugFns ↔
      c.checkBridgeRequirements loader dnaAddress debugFns b = .ok () ∧
        ¬Relation.ReflTransGen c.BridgeEdge b.calleeId b.callerId := by
  -- a bridge's requirements read only the instances and the DNAs
  have hreq : ∀ bridge, ({ c with bridges := c.bridges ++ [b] } : Configuration).checkBridgeRequirements
      loader dnaAddress debugFns bridge = c.checkBridgeRequirements loader dnaAddress debugFns bridge :=
    fun _ => rfl
  have hedges : (c.bridges ++ [b]).map (fun bridge => (bridge.callerId, bridge.calleeId)) =
      c.bridges.map (fun bridge => (bridge.callerId, bridge.calleeId)) ++ [(b.callerId, b.calleeId)] :=
    List.map_append
  have hgraph := edgeIn_bridges hc.bridgeEnds
  constructor
  · intro hc'
    have hbOk : c.checkBridgeRequirements loader dnaAddress debugFns b = .ok () := by
      rw [← hreq]
      exact hc'.bridgesOk b (List.mem_append_right _ (List.mem_singleton_self b))
    obtain ⟨hcaller, hcallee⟩ := ends_of_checkBridgeRequirements hbOk
    refine ⟨hbOk, ?_⟩
    have hacyclic := hc'.acyclic
    dsimp only at hacyclic
    rw [hedges] at hacyclic
    rw [← hgraph]
    exact (Graph.acyclic_append_iff _ hc.acyclic hcaller hcallee).mp hacyclic
  · rintro ⟨hbOk, hreach⟩
    obtain ⟨hcaller, hcallee⟩ := ends_of_checkBridgeRequirements hbOk
    refine ⟨hc.agentIds, hc.dnaIds, hc.instanceIds, hc.storagePaths, hc.interfaceIds,
      fun inst hinst => ?_, hc.interfacesOk, fun bridge hbridge => ?_, hc.uiInterfacesOk, hc.dpkiOk,
      fun bridge hbridge => ?_, ?_⟩
    · refine checkInstance_of_bridges ?_ ?_ (fun _ => isSome_find?_append)
        (hc.instancesOk inst hinst) <;> rfl
    · rw [hreq]
      rcases List.mem_append.mp hbridge with hold | hnew
      · exact hc.bridgesOk bridge hold
      · rw [List.mem_singleton.mp hnew]
        exact hbOk
    · rcases List.mem_append.mp hbridge with hold | hnew
      · exact hc.bridgeEnds bridge hold
      · rw [List.mem_singleton.mp hnew]
        exact ⟨hcaller, hcallee⟩
    · -- the one new edge closes no cycle
      show Graph.acyclic ((c.bridges ++ [b]).map fun bridge => (bridge.callerId, bridge.calleeId))
        (c.instances.map fun inst => inst.id) = true
      rw [hedges, Graph.acyclic_append_iff _ hc.acyclic hcaller hcallee, hgraph]
      exact hreach

end Configuration

/-! ### What the shared steps do -/

namespace Conductor

variable {env : AdminEnv} {s s' s'' s₁ : Conductor}

@[simp] theorem andThen_ok {α : Type} (k : Conductor → Conductor × Except HolochainError α) :
    andThen (s, .ok ()) k = k s := rfl

@[simp] theorem andThen_error {α : Type} (e : HolochainError)
    (k : Conductor → Conductor × Except HolochainError α) : andThen (s, .error e) k = (s, .error e) :=
  rfl

section Chain

variable {ε α β : Type} {k : α → Conductor → Except String (Conductor × Except ε β)}

@[simp] theorem chain_panic (p : String) : chain (.error p) k = .error p := rfl

@[simp] theorem chain_error (e : ε) : chain (.ok (s, .error e)) k = .ok (s, .error e) := rfl

@[simp] theorem chain_ok (a : α) : chain (.ok (s, .ok a)) k = k a s := rfl

/-- Stages that do not panic make a chain that does not panic; what every stage keeps of the
conductor, the chain keeps. -/
theorem chain_ne_panic {P : Conductor → Prop} {r : Except String (Conductor × Except ε α)}
    (hr : ∃ s' x, r = .ok (s', x) ∧ P s')
    (hk : ∀ a s', P s' → ∃ s'' y, k a s' = .ok (s'', y) ∧ P s'') :
    ∃ s' y, chain r k = .ok (s', y) ∧ P s' := by
  obtain ⟨s', x, rfl, hP⟩ := hr
  cases x with
  | error e => exact ⟨s', _, rfl, hP⟩
  | ok a => exact hk a s' hP

end Chain

theorem replaceConfig_of_ok {newConfig : Configuration}
    (h : newConfig.checkConsistency env.loader env.dnaAddress env.debugFns = .ok ()) :
    replaceConfig env newConfig s = ({ s with config := newConfig }, .ok ()) := by
  unfold replaceConfig
  rw [h]

theorem replaceConfig_of_error {newConfig : Configuration} {e : String}
    (h : newConfig.checkConsistency env.loader env.dnaAddress env.debugFns = .error e) :
    replaceConfig env newConfig s = (s, .error (.errorGeneric e)) := by
  unfold replaceConfig
  rw [h]

section UpdateConfig

variable {α : Type} {refusal : Option HolochainError} {newConfig : Configuration}
  {rest : Conductor → Conductor × Except HolochainError α}

/-- A call of the common shape leaves the conductor as it was, or puts in a configuration that
passes the check and goes on from there, whether the saving fails or not. -/
theorem updateConfig_cases (env : AdminEnv) (refusal : Option HolochainError)
    (newConfig : Configuration) (rest : Conductor → Conductor × Except HolochainError α)
    (s : Conductor) :
    (updateConfig env refusal newConfig rest s).1 = s ∨
      newConfig.Consistent env.loader env.dnaAddress env.debugFns ∧
        ((updateConfig env refusal newConfig rest s).1 = { s with config := newConfig } ∨
          (updateConfig env refusal newConfig rest s).1 = (rest { s with config := newConfig }).1) := by
  cases refusal with
  | some e => exact .inl rfl
  | none =>
    cases hcheck : newConfig.checkConsistency env.loader env.dnaAddress env.debugFns with
    | error e =>
      left
      rw [updateConfig, replaceConfig_of_error hcheck]
      rfl
    | ok u =>
      right
      refine ⟨Configuration.checkConsistency_eq_ok.mp hcheck, ?_⟩
      rw [updateConfig, replaceConfig_of_ok hcheck, andThen_ok]
      -- the saving decides whether the rest runs
      cases hsave : env.saveConfig newConfig with
      | error e =>
        left
        show (andThen ({ s with config := newConfig }, env.saveConfig newConfig) rest).1 = _
        rw [hsave]
        rfl
      | ok u' =>
        right
        show (andThen ({ s with config := newConfig }, env.saveConfig newConfig) rest).1 = _
        rw [hsave]
        rfl

/-- A call of the common shape that succeeds was not refused, its configuration passed the
check and was saved, and the rest of it succeeded. -/
theorem updateConfig_eq_ok {a : α} (h : updateConfig env refusal newConfig rest s = (s₁, .ok a)) :
    refusal = none ∧ newConfig.checkConsistency env.loader env.dnaAddress env.debugFns = .ok () ∧
      env.saveConfig newConfig = .ok () ∧ rest { s with config := newConfig } = (s₁, .ok a) := by
  cases refusal with
  | some e => cases h
  | none =>
    cases hcheck : newConfig.checkConsistency env.loader env.dnaAddress env.debugFns with
    | error e =>
      rw [updateConfig, replaceConfig_of_error hcheck] at h
      cases h
    | ok u =>
      rw [updateConfig, replaceConfig_of_ok hcheck, andThen_ok] at h
      change andThen ({ s with config := newConfig }, env.saveConfig newConfig) rest = _ at h
      cases hsave : env.saveConfig newConfig with
      | error e =>
        rw [hsave] at h
        cases h
      | ok u' =>
        rw [hsave] at h
        exact ⟨rfl, rfl, rfl, h⟩

/-- A call of the common shape whose new configuration passes the check and is saved goes on
with the rest. -/
theorem updateConfig_of_ok
    (hcheck : newConfig.checkConsistency env.loader env.dnaAddress env.debugFns = .ok ())
    (hsave : env.saveConfig newConfig = .ok ()) :
    updateConfig env none newConfig rest s = rest { s with config := newConfig } := by
  rw [updateConfig, replaceConfig_of_ok hcheck, andThen_ok]
  show andThen ({ s with config := newConfig }, env.saveConfig newConfig) rest = _
  rw [hsave]
  rfl

end UpdateConfig

/-! ### Interfaces -/

/-- Two conductors that differ at most in their interface threads. -/
def SameBuilt (s s' : Conductor) : Prop :=
  s'.config = s.config ∧ s'.instances = s.instances ∧ s'.apiBridges = s.apiBridges

theorem SameBuilt.refl (s : Conductor) : SameBuilt s s := ⟨rfl, rfl, rfl⟩

theorem SameBuilt.trans (h : SameBuilt s s') (h' : SameBuilt s' s'') : SameBuilt s s'' :=
  ⟨h'.1.trans h.1, h'.2.1.trans h.2.1, h'.2.2.trans h.2.2⟩

theorem sameBuilt_startInterfaceById (id : String) (s : Conductor) :
    SameBuilt s (startInterfaceById id s).1 := by
  unfold startInterfaceById
  split
  · exact .refl s
  · split
    · exact .refl s
    · exact ⟨rfl, rfl, rfl⟩

theorem sameBuilt_stopInterfaceById (id : String) (s : Conductor) :
    SameBuilt s (stopInterfaceById env id s).1 := by
  unfold stopInterfaceById
  split
  · exact .refl s
  · split
    · exact ⟨rfl, rfl, rfl⟩
    · exact .refl s

/-- Starting an interface that is configured first under its id and has no thread spawns it. -/
theorem startInterfaceById_of_new {interface : InterfaceConfiguration}
    (hfound : s.config.interfaceById interface.id = some interface)
    (hnew : interface.id ∉ s.interfaceThreads) :
    startInterfaceById interface.id s =
      ({ s with interfaceThreads := insert interface.id s.interfaceThreads }, .ok ()) := by
  unfold startInterfaceById
  rw [hfound]
  exact if_neg hnew

/-- Stopping an interface with a thread whose kill switch reaches it forgets the thread. -/
theorem stopInterfaceById_of_mem {id : String} (hmem : id ∈ s.interfaceThreads)
    (hkill : env.killSwitchSends id = true) :
    stopInterfaceById env id s = ({ s with interfaceThreads := s.interfaceThreads.erase id }, .ok ()) := by
  unfold stopInterfaceById
  rw [if_neg (not_not.mpr hmem), if_pos hkill]

/-! ### Building an instance and its conductor API -/

theorem calleeBuilt_of_built {bridge : Bridge}
    (hconfigured : (s.config.instanceById bridge.calleeId).isSome)
    (hbuilt : bridge.calleeId ∈ s.instances) : calleeBuilt s bridge = .ok () := by
  unfold calleeBuilt
  rw [if_neg (by rw [Option.isNone_iff_eq_none]; exact Option.isSome_iff_ne_none.mp hconfigured),
    if_pos hbuilt]
  rfl

theorem calleeBuilt_of_not_built {bridge : Bridge}
    (hconfigured : (s.config.instanceById bridge.calleeId).isSome)
    (hbuilt : bridge.calleeId ∉ s.instances) : calleeBuilt s bridge = .error calleeMissing := by
  unfold calleeBuilt
  rw [if_neg (by rw [Option.isNone_iff_eq_none]; exact Option.isSome_iff_ne_none.mp hconfigured),
    if_neg hbuilt]
  rfl

/-- The bridges an instance calls are configured bridges from it. -/
theorem mem_bridgeDependencies {c : Configuration} {id : String} {bridge : Bridge} :
    bridge ∈ c.bridgeDependencies id ↔ bridge ∈ c.bridges ∧ bridge.callerId = id := by
  simp [Configuration.bridgeDependencies]

/-- Every bridge the instance calls has its callee configured and built: what building its
conductor API asks of the conductor. -/
def CalleesBuilt (s : Conductor) (instanceId : String) : Prop :=
  ∀ bridge ∈ s.config.bridgeDependencies instanceId,
    (s.config.instanceById bridge.calleeId).isSome ∧ bridge.calleeId ∈ s.instances

theorem CalleesBuilt.of_all
    (hcallees : ∀ bridge ∈ s.config.bridges,
      (s.config.instanceById bridge.calleeId).isSome ∧ bridge.calleeId ∈ s.instances)
    (instanceId : String) : CalleesBuilt s instanceId :=
  fun bridge hb => hcallees bridge (mem_bridgeDependencies.mp hb).1

/-- The conductor `s'` is `s` but for the keys `instantiate_from_config` writes into its
configuration. -/
structure Rekeyed (s s' : Conductor) : Prop where
  config : s.config.Rekeyed s'.config
  instances : s'.instances = s.instances
  apiBridges : s'.apiBridges = s.apiBridges
  interfaceThreads : s'.interfaceThreads = s.interfaceThreads

theorem Rekeyed.refl (s : Conductor) : s.Rekeyed s := ⟨.refl s.config, rfl, rfl, rfl⟩

theorem Rekeyed.trans (h : s.Rekeyed s') (h' : s'.Rekeyed s'') : s.Rekeyed s'' :=
  ⟨h.config.trans h'.config, h'.instances.trans h.instances, h'.apiBridges.trans h.apiBridges,
    h'.interfaceThreads.trans h.interfaceThreads⟩

theorem Rekeyed.of_config {c : Configuration} (h : s.config.Rekeyed c) :
    s.Rekeyed { s with config := c } :=
  ⟨h, rfl, rfl, rfl⟩

theorem Rekeyed.remoteKeysServed (h : s.Rekeyed s') (hs : s.config.RemoteKeysServed) :
    s'.config.RemoteKeysServed :=
  h.config.remoteKeysServed hs

/-- A rekeyed conductor has the callees it had. -/
theorem Rekeyed.calleesBuilt (h : s.Rekeyed s') {instanceId : String}
    (hcallees : CalleesBuilt s instanceId) : CalleesBuilt s' instanceId := by
  intro bridge hb
  unfold Configuration.bridgeDependencies at hb
  rw [h.config.bridges] at hb
  rw [h.config.instanceById, h.instances]
  exact hcallees bridge hb

/-- A rekeyed conductor finds an instance it found under the instance's own id, and an agent
under the id it found one. -/
theorem Rekeyed.instance_found (h : s.Rekeyed s') {id : String} {ic : InstanceConfiguration}
    (hic : s.config.instanceById id = some ic) (hagent : (s.config.agentById ic.agent).isSome) :
    s'.config.instanceById ic.id = some ic ∧ (s'.config.agentById ic.agent).isSome := by
  obtain ⟨-, hid⟩ := Configuration.instanceById_eq_some hic
  refine ⟨?_, ?_⟩
  · rw [h.config.instanceById]
    exact hid ▸ hic
  · rwa [h.config.isSome_agentById]

/-- The keybundle of a configured agent without a remote key is the one its keystore holds, in
a world that loads every keystore with its key. -/
theorem getKeybundleForAgent_eq_ok (hctx : env.MakesContexts) {agentId : String}
    {agentConfig : AgentConfiguration} (hfound : s.config.agentById agentId = some agentConfig)
    (hlocal : agentConfig.holoRemoteKey ≠ some true) :
    ∃ keybundleId, getKeybundleForAgent env s agentId = .ok keybundleId := by
  obtain ⟨keybundleId, hload, hmatch⟩ := hctx.keystores agentConfig
  refine ⟨keybundleId, ?_⟩
  unfold getKeybundleForAgent
  rw [hfound]
  dsimp only
  rw [if_neg hlocal, hload]
  dsimp only
  -- a test agent's key is not compared; any other's is its public address
  rw [if_neg]
  rintro ⟨htest, hne⟩
  rcases hmatch with h | h
  · exact htest h
  · exact hne h

theorem agentConfigToId_eq_ok (hctx : env.MakesContexts) {agentConfig : AgentConfiguration}
    (hfound : s.config.agentById agentConfig.id = some agentConfig) :
    ∃ agentAddress, agentConfigToId env s agentConfig = .ok agentAddress := by
  unfold agentConfigToId
  by_cases hremote : agentConfig.holoRemoteKey = some true
  · rw [if_pos hremote]
    exact ⟨_, rfl⟩
  · rw [if_neg hremote]
    obtain ⟨keybundleId, hkeybundle⟩ := getKeybundleForAgent_eq_ok hctx hfound hremote
    rw [hkeybundle]
    exact ⟨keybundleId, rfl⟩

/-- An agent with a remote key and the services set, or any other, gets its signing callbacks
without a panic. -/
theorem signingCallbacks_ne_panic (env : AdminEnv) {agentConfig : AgentConfiguration}
    (hserved : agentConfig.holoRemoteKey = some true → s.config.ServicesSet) :
    ∃ r, signingCallbacks env s agentConfig = .ok r := by
  unfold signingCallbacks
  by_cases hremote : agentConfig.holoRemoteKey = some true
  · obtain ⟨hsig, henc, hdec⟩ := hserved hremote
    obtain ⟨sig, hsig⟩ := Option.isSome_iff_exists.mp hsig
    obtain ⟨enc, henc⟩ := Option.isSome_iff_exists.mp henc
    obtain ⟨dec, hdec⟩ := Option.isSome_iff_exists.mp hdec
    rw [if_pos hremote, hsig, henc, hdec]
    exact ⟨_, rfl⟩
  · rw [if_neg hremote]
    exact ⟨_, rfl⟩

theorem signingCallbacks_eq_ok (hctx : env.MakesContexts) {agentConfig : AgentConfiguration}
    (hserved : agentConfig.holoRemoteKey = some true → s.config.ServicesSet)
    (hfound : s.config.agentById agentConfig.id = some agentConfig) :
    signingCallbacks env s agentConfig = .ok (.ok ()) := by
  unfold signingCallbacks
  by_cases hremote : agentConfig.holoRemoteKey = some true
  · obtain ⟨hsig, henc, hdec⟩ := hserved hremote
    obtain ⟨sig, hsig⟩ := Option.isSome_iff_exists.mp hsig
    obtain ⟨enc, henc⟩ := Option.isSome_iff_exists.mp henc
    obtain ⟨dec, hdec⟩ := Option.isSome_iff_exists.mp hdec
    rw [if_pos hremote, hsig, henc, hdec]
  · rw [if_neg hremote]
    obtain ⟨keybundleId, hkeybundle⟩ := getKeybundleForAgent_eq_ok hctx hfound hremote
    rw [hkeybundle]
    rfl

/-- An agent with a remote key on a configuration with no signing service panics in the first
`expect`. -/
theorem signingCallbacks_of_signing_unset {agentConfig : AgentConfiguration}
    (hremote : agentConfig.holoRemoteKey = some true) (hunset : s.config.signingServiceUri = none) :
    signingCallbacks env s agentConfig = .error "holo_remote_key needs signing_service_uri set" := by
  unfold signingCallbacks
  rw [if_pos hremote, hunset]

/-- With the services of its remote keys set and the callees of the instance configured and
built, building its conductor API does not panic, and it is built with configured bridges. -/
theorem buildConductorApi_of_callees (env : AdminEnv) {instanceId : String}
    (hserved : s.config.RemoteKeysServed) (hcallees : CalleesBuilt s instanceId) :
    ∃ r, buildConductorApi env s instanceId = .ok r ∧
      ∀ bridges, r = .ok bridges → ∀ bridge ∈ bridges, bridge ∈ s.config.bridges := by
  unfold buildConductorApi
  -- an instance or agent not found, or a keystore not loaded, is an error, not a panic
  split
  · exact ⟨_, rfl, by rintro _ ⟨⟩⟩
  · rename_i instanceConfig hfound
    obtain ⟨-, hid⟩ := Configuration.instanceById_eq_some hfound
    split
    · exact ⟨_, rfl, by rintro _ ⟨⟩⟩
    · rename_i agentConfig hagent
      obtain ⟨r, hr⟩ := signingCallbacks_ne_panic env
        (hserved agentConfig (List.mem_of_find?_eq_some hagent))
      rw [hr]
      rcases r with e | ⟨⟩
      · exact ⟨_, rfl, by rintro _ ⟨⟩⟩
      · have hloop : (s.config.bridgeDependencies instanceConfig.id).forM (calleeBuilt s) =
            .ok () :=
          Except.forM_eq_ok.mpr fun bridge hb =>
            have hcallee := hcallees bridge (hid ▸ hb)
            calleeBuilt_of_built hcallee.1 hcallee.2
        dsimp only
        rw [hloop]
        refine ⟨_, rfl, ?_⟩
        rintro bridges ⟨⟩ bridge hb
        exact (mem_bridgeDependencies.mp hb).1

/-- With the callee of every bridge configured and built, building a conductor API does not
panic, and it is built with configured bridges. -/
theorem buildConductorApi_of_built (env : AdminEnv) (hserved : s.config.RemoteKeysServed)
    (hcallees : ∀ bridge ∈ s.config.bridges,
      (s.config.instanceById bridge.calleeId).isSome ∧ bridge.calleeId ∈ s.instances)
    (instanceId : String) :
    ∃ r, buildConductorApi env s instanceId = .ok r ∧
      ∀ bridges, r = .ok bridges → ∀ bridge ∈ bridges, bridge ∈ s.config.bridges :=
  buildConductorApi_of_callees env hserved (CalleesBuilt.of_all hcallees instanceId)

/-- The agent of an instance gets its signing callbacks, in a world that makes them. -/
theorem signingCallbacks_of_instance (hctx : env.MakesContexts) (hserved : s.config.RemoteKeysServed)
    {agentId : String} {agentConfig : AgentConfiguration}
    (hagent : s.config.agentById agentId = some agentConfig) :
    signingCallbacks env s agentConfig = .ok (.ok ()) :=
  signingCallbacks_eq_ok hctx (hserved agentConfig (List.mem_of_find?_eq_some hagent))
    (Configuration.agentById_self hagent)

/-- The conductor API of a configured instance of a configured agent, in a world that makes its
signing callbacks, with its callees configured and built, is built with the bridges it calls. -/
theorem buildConductorApi_eq_ok (hctx : env.MakesContexts) (hserved : s.config.RemoteKeysServed)
    {instanceId : String} {ic : InstanceConfiguration}
    (hinst : s.config.instanceById instanceId = some ic)
    (hagent : (s.config.agentById ic.agent).isSome) (hcallees : CalleesBuilt s ic.id) :
    buildConductorApi env s instanceId = .ok (.ok (s.config.bridgeDependencies ic.id)) := by
  obtain ⟨agentConfig, hagent⟩ := Option.isSome_iff_exists.mp hagent
  have hloop : (s.config.bridgeDependencies ic.id).forM (calleeBuilt s) = .ok () :=
    Except.forM_eq_ok.mpr fun bridge hb =>
      have hcallee := hcallees bridge hb
      calleeBuilt_of_built hcallee.1 hcallee.2
  unfold buildConductorApi
  rw [hinst]
  dsimp only
  rw [hagent]
  dsimp only
  rw [signingCallbacks_of_instance hctx hserved hagent]
  dsimp only
  rw [hloop]

/-- A conductor API whose instance calls a configured callee that is not built panics, when
every callee is configured and the world makes the signing callbacks. -/
theorem buildConductorApi_panics (hctx : env.MakesContexts) (hserved : s.config.RemoteKeysServed)
    {instanceId : String} {ic : InstanceConfiguration}
    (hinst : s.config.instanceById instanceId = some ic)
    (hagent : (s.config.agentById ic.agent).isSome)
    (hconfigured : ∀ bridge ∈ s.config.bridges, (s.config.instanceById bridge.calleeId).isSome)
    {bridge : Bridge} (hbridge : bridge ∈ s.config.bridgeDependencies ic.id)
    (hunbuilt : bridge.calleeId ∉ s.instances) :
    buildConductorApi env s instanceId = .error calleeMissing := by
  obtain ⟨agentConfig, hagent⟩ := Option.isSome_iff_exists.mp hagent
  -- each callee passes or is missing, and the bridge's callee is missing
  have hloop : (s.config.bridgeDependencies ic.id).forM (calleeBuilt s) = .error calleeMissing := by
    refine Except.forM_eq_error (fun b hb => ?_) ⟨bridge, hbridge,
      calleeBuilt_of_not_built (hconfigured bridge (mem_bridgeDependencies.mp hbridge).1) hunbuilt⟩
    have hb' := hconfigured b (mem_bridgeDependencies.mp hb).1
    by_cases hbuilt : b.calleeId ∈ s.instances
    · exact .inl (calleeBuilt_of_built hb' hbuilt)
    · exact .inr (calleeBuilt_of_not_built hb' hbuilt)
  unfold buildConductorApi
  rw [hinst]
  dsimp only
  rw [hagent]
  dsimp only
  rw [signingCallbacks_of_instance hctx hserved hagent]
  dsimp only
  rw [hloop]

/-- The agent part of building an instance of a configured agent does not panic; it rekeys the
configuration at most, and leaves the DNAs. -/
theorem instanceAgent_ne_panic (env : AdminEnv) {agentId : String}
    (hagent : (s.config.agentById agentId).isSome) :
    ∃ s' r, instanceAgent env s agentId = .ok (s', r) ∧ s.Rekeyed s' ∧
      s'.config.dnas = s.config.dnas := by
  obtain ⟨agentConfig, hagent⟩ := Option.isSome_iff_exists.mp hagent
  unfold instanceAgent
  rw [hagent]
  dsimp only
  cases agentConfigToId env s agentConfig with
  | error e => exact ⟨s, _, rfl, .refl s, rfl⟩
  | ok agentAddress =>
    dsimp only
    split
    · exact ⟨_, _, rfl, .of_config (Configuration.rekeyed_updateAgentAddressById _ _), rfl⟩
    · exact ⟨s, _, rfl, .refl s, rfl⟩

/-- In a world that makes the agent's key and saves the configuration, the agent part of
building an instance succeeds. -/
theorem instanceAgent_eq_ok (hctx : env.MakesContexts) {agentId : String}
    {agentConfig : AgentConfiguration} (hagent : s.config.agentById agentId = some agentConfig) :
    ∃ s', instanceAgent env s agentId = .ok (s', .ok ()) ∧ s.Rekeyed s' ∧
      s'.config.dnas = s.config.dnas := by
  obtain ⟨agentAddress, haddress⟩ :=
    agentConfigToId_eq_ok hctx (Configuration.agentById_self hagent)
  unfold instanceAgent
  rw [hagent]
  dsimp only
  rw [haddress]
  dsimp only
  split
  · -- a test agent's address is written and saved
    rw [hctx.saved]
    exact ⟨_, rfl, .of_config (Configuration.rekeyed_updateAgentAddressById _ _), rfl⟩
  · exact ⟨s, rfl, .refl s, rfl⟩

theorem contextStorage_eq_ok (hctx : env.MakesContexts) (storage : StorageConfiguration) :
    contextStorage env storage = .ok () := by
  unfold contextStorage
  split
  · rfl
  · rw [hctx.storage]
    rfl

/-- Where the loaded DNA and the file agree, all sources agree with the configured hash
exactly when the loaded DNA does. -/
theorem checkDnaConsistencyFromAllSources_self (fromConductorConfig computed : String) :
    checkDnaConsistencyFromAllSources fromConductorConfig computed computed =
      checkDnaConsistency fromConductorConfig computed := by
  unfold checkDnaConsistencyFromAllSources
  by_cases hsame : fromConductorConfig = computed
  · simp [checkDnaConsistency, hsame]
  · simp [checkDnaConsistency, hsame]

/-- The DNA part of building an instance of a configured DNA does not panic; it rekeys the
configuration at most. -/
theorem instanceDna_ne_panic (env : AdminEnv) {dnaId : String}
    (hdna : (s.config.dnaById dnaId).isSome) :
    ∃ s' r, instanceDna env s dnaId = .ok (s', r) ∧ s.Rekeyed s' := by
  obtain ⟨dnaConfig, hfound⟩ := Option.isSome_iff_exists.mp hdna
  unfold instanceDna
  rw [hfound]
  dsimp only
  cases env.loader dnaConfig.file with
  | error e => exact ⟨s, _, rfl, .refl s⟩
  | ok dna =>
    dsimp only
    cases dnaConfig.uuid with
    | some uuid => exact ⟨_, _, rfl, .of_config (Configuration.rekeyed_updateDnaHashById _ _)⟩
    | none => exact ⟨s, _, rfl, .refl s⟩

/-- In a world that saves the configuration, the DNA part of building an instance whose DNA
file loads, with the hashes matching, succeeds and keeps them matching. -/
theorem instanceDna_eq_ok (hctx : env.MakesContexts) {dnaId : String}
    {dnaConfig : DnaConfiguration} {dna : Dna} (hfound : s.config.dnaById dnaId = some dnaConfig)
    (hload : env.loader dnaConfig.file = .ok dna)
    (hhashes : s.config.DnaHashesMatch env.loader env.dnaAddress) :
    ∃ s' dna', instanceDna env s dnaId = .ok (s', .ok dna') ∧ s.Rekeyed s' ∧
      s'.config.DnaHashesMatch env.loader env.dnaAddress := by
  unfold instanceDna
  rw [hfound]
  dsimp only
  rw [hload]
  dsimp only
  cases huuid : dnaConfig.uuid with
  | some uuid =>
    -- the DNA with the uuid gives the hash written, and saved
    dsimp only
    rw [hctx.saved]
    exact ⟨_, _, rfl, .of_config (Configuration.rekeyed_updateDnaHashById _ _),
      hhashes.updateDnaHashById (Configuration.dnaById_self hfound)
        (by rw [huuid]; exact Option.some_ne_none uuid)⟩
  | none =>
    have hhash := hhashes dnaConfig (List.mem_of_find?_eq_some hfound) huuid dna hload
    refine ⟨s, dna, ?_, .refl s, hhashes⟩
    dsimp only
    rw [checkDnaConsistencyFromAllSources_self, checkDnaConsistency, if_pos hhash]
    rfl

/-- Building an instance whose callees are configured and built, in a configuration whose
remote keys have their services, does not panic, whatever the world answers; it rekeys the
configuration at most. -/
theorem instantiateFromConfig_ne_panic (env : AdminEnv) {id : String}
    (hserved : s.config.RemoteKeysServed) (hcallees : CalleesBuilt s id) :
    ∃ s' r, instantiateFromConfig env s id = .ok (s', r) ∧ s.Rekeyed s' := by
  unfold instantiateFromConfig
  -- the check and the instance's configuration fail as errors
  cases hcheck : s.config.checkConsistency env.loader env.dnaAddress env.debugFns with
  | error e => exact ⟨s, _, rfl, .refl s⟩
  | ok u =>
    have hc := Configuration.checkConsistency_eq_ok.mp hcheck
    dsimp only
    cases hfound : s.config.instanceById id with
    | none => exact ⟨s, _, rfl, .refl s⟩
    | some ic =>
      obtain ⟨hmem, hid⟩ := Configuration.instanceById_eq_some hfound
      have hok := hc.instancesOk ic hmem
      dsimp only
      -- every stage keeps the conductor but for the keys of its configuration
      obtain ⟨s₁, r₁, h₁, hrek₁, -⟩ :=
        instanceAgent_ne_panic env (Configuration.isSome_agentById_of_checkInstance hok)
      refine chain_ne_panic ⟨s₁, r₁, h₁, hrek₁⟩ fun () s₂ hrek₂ => ?_
      refine chain_ne_panic ⟨s₂, _, rfl, hrek₂⟩ fun () s₃ hrek₃ => ?_
      obtain ⟨api, hapi, -⟩ :=
        buildConductorApi_of_callees env (hrek₃.remoteKeysServed hserved) (hrek₃.calleesBuilt (hid ▸ hcallees))
      refine chain_ne_panic ⟨s₃, api.mapError HolochainError.toString, by rw [hapi]; rfl, hrek₃⟩
        fun bridges s₄ hrek₄ => ?_
      obtain ⟨dnaConfig, dna, hdna, -⟩ := Configuration.exists_dna_of_checkInstance hok
      have hdna₄ : (s₄.config.dnaById ic.dna).isSome := by
        have hmap := hrek₄.config.dnaById_file (j := ic.dna)
        rw [hdna, Option.map_some] at hmap
        exact Option.isSome_iff_exists.mpr ((Option.map_eq_some_iff.mp hmap).imp fun _ h => h.1)
      obtain ⟨s₅, r₅, h₅, hrek₅⟩ := instanceDna_ne_panic env hdna₄
      refine chain_ne_panic ⟨s₅, r₅, h₅, hrek₄.trans hrek₅⟩ fun dna s₆ hrek₆ => ?_
      exact ⟨s₆, _, rfl, hrek₆⟩

/-- On a consistent configuration that has the instance, once the agent stage has gone
through, building the instance is building its conductor API on the conductor that stage
left, then loading its DNA and creating it. -/
theorem instantiateFromConfig_of_agent (hctx : env.MakesContexts) {id : String}
    {ic : InstanceConfiguration} (hc : s.config.Consistent env.loader env.dnaAddress env.debugFns)
    (hic : s.config.instanceById id = some ic) {s₁ : Conductor}
    (hagentStage : instanceAgent env s ic.agent = .ok (s₁, .ok ())) :
    instantiateFromConfig env s id =
      chain ((buildConductorApi env s₁ ic.id).map fun api =>
          (s₁, api.mapError HolochainError.toString)) fun bridges s =>
      chain (instanceDna env s ic.dna) fun dna s =>
      .ok (s, (env.createInstance ic dna).map fun () => bridges) := by
  unfold instantiateFromConfig
  rw [Configuration.checkConsistency_eq_ok.mpr hc]
  dsimp only
  rw [hic]
  dsimp only
  rw [hagentStage, chain_ok, contextStorage_eq_ok hctx, chain_ok]

/-- An instance of a consistent configuration, in a world that makes its context and conductor
API, with the services of its remote keys set, the hashes of the DNAs right and its callees
built, gets as far as being created: the conductor is rekeyed at most, the hashes still match,
and its conductor API has the bridges it calls. -/
theorem instantiateFromConfig_of_found (hctx : env.MakesContexts) {id : String}
    {ic : InstanceConfiguration} (hc : s.config.Consistent env.loader env.dnaAddress env.debugFns)
    (hserved : s.config.RemoteKeysServed) (hhashes : s.config.DnaHashesMatch env.loader env.dnaAddress)
    (hic : s.config.instanceById id = some ic) (hcallees : CalleesBuilt s id) :
    ∃ s' dna, instantiateFromConfig env s id =
        .ok (s', (env.createInstance ic dna).map fun () => s.config.bridgeDependencies ic.id) ∧
      s.Rekeyed s' ∧ s'.config.DnaHashesMatch env.loader env.dnaAddress := by
  obtain ⟨hmem, hid⟩ := Configuration.instanceById_eq_some hic
  have hok := hc.instancesOk ic hmem
  have hfound := Configuration.isSome_agentById_of_checkInstance hok
  obtain ⟨agentConfig, hagent⟩ := Option.isSome_iff_exists.mp hfound
  obtain ⟨dnaConfig, dna, hdna, hload⟩ := Configuration.exists_dna_of_checkInstance hok
  -- the agent stage rekeys the agents at most, and leaves the DNAs
  obtain ⟨s₁, hagentStage, hrek₁, hdnas₁⟩ := instanceAgent_eq_ok hctx hagent
  obtain ⟨hself, hagent₁⟩ := hrek₁.instance_found hic hfound
  have hapi := buildConductorApi_eq_ok hctx (hrek₁.remoteKeysServed hserved) hself hagent₁
    (hrek₁.calleesBuilt (hid ▸ hcallees))
  have hdna₁ : s₁.config.dnaById ic.dna = some dnaConfig := by
    unfold Configuration.dnaById
    rw [hdnas₁]
    exact hdna
  have hhashes₁ : s₁.config.DnaHashesMatch env.loader env.dnaAddress :=
    hhashes.of_dnas fun dnaConfig hmem => hdnas₁ ▸ hmem
  obtain ⟨s₂, dna', hdnaStage, hrek₂, hhashes₂⟩ := instanceDna_eq_ok hctx hdna₁ hload hhashes₁
  have hbridges : s₁.config.bridgeDependencies ic.id = s.config.bridgeDependencies ic.id := by
    unfold Configuration.bridgeDependencies
    rw [hrek₁.config.bridges]
  refine ⟨s₂, dna', ?_, hrek₁.trans hrek₂, hhashes₂⟩
  rw [instantiateFromConfig_of_agent hctx hc hic hagentStage]
  simp only [hapi, Except.ok_map, Except.mapError_ok, chain_ok, hdnaStage, hbridges]

/-- In a world where every instance builds, an instance found as `instantiateFromConfig_of_found`
asks is built, with the bridges it calls. -/
theorem instantiateFromConfig_of_builds (henv : env.Builds) {id : String}
    {ic : InstanceConfiguration} (hc : s.config.Consistent env.loader env.dnaAddress env.debugFns)
    (hserved : s.config.RemoteKeysServed) (hhashes : s.config.DnaHashesMatch env.loader env.dnaAddress)
    (hic : s.config.instanceById id = some ic) (hcallees : CalleesBuilt s id) :
    ∃ s', instantiateFromConfig env s id = .ok (s', .ok (s.config.bridgeDependencies ic.id)) ∧
      s.Rekeyed s' ∧ s'.config.DnaHashesMatch env.loader env.dnaAddress := by
  obtain ⟨s', dna, hbuild, hrek, hhashes'⟩ :=
    instantiateFromConfig_of_found henv.toMakesContexts hc hserved hhashes hic hcallees
  rw [henv.created, Except.ok_map] at hbuild
  exact ⟨s', hbuild, hrek, hhashes'⟩

/-- Building an instance of a consistent configuration panics where its conductor API finds a
configured callee not built, once the world makes its context and signing callbacks. -/
theorem instantiateFromConfig_panics (hctx : env.MakesContexts) {id : String}
    {ic : InstanceConfiguration} (hc : s.config.Consistent env.loader env.dnaAddress env.debugFns)
    (hserved : s.config.RemoteKeysServed) (hic : s.config.instanceById id = some ic)
    {bridge : Bridge} (hbridge : bridge ∈ s.config.bridgeDependencies ic.id)
    (hunbuilt : bridge.calleeId ∉ s.instances) :
    instantiateFromConfig env s id = .error calleeMissing := by
  obtain ⟨hmem, -⟩ := Configuration.instanceById_eq_some hic
  have hok := hc.instancesOk ic hmem
  have hfound := Configuration.isSome_agentById_of_checkInstance hok
  obtain ⟨agentConfig, hagent⟩ := Option.isSome_iff_exists.mp hfound
  obtain ⟨s₁, hagentStage, hrek₁, -⟩ := instanceAgent_eq_ok hctx hagent
  -- the conductor API is built on the rekeyed conductor, with the same bridges and callees
  obtain ⟨hself, hagent₁⟩ := hrek₁.instance_found hic hfound
  have hconfigured : ∀ b ∈ s₁.config.bridges, (s₁.config.instanceById b.calleeId).isSome := by
    intro b hb
    rw [hrek₁.config.bridges] at hb
    rw [hrek₁.config.instanceById]
    exact Option.isSome_iff_exists.mpr
      (Configuration.exists_instanceById_of_mem (hc.bridgeEnds b hb).2)
  have hbridge₁ : bridge ∈ s₁.config.bridgeDependencies ic.id := by
    unfold Configuration.bridgeDependencies
    rw [hrek₁.config.bridges]
    exact hbridge
  have hpanic := buildConductorApi_panics hctx (hrek₁.remoteKeysServed hserved) hself hagent₁
    hconfigured hbridge₁ (hrek₁.instances ▸ hunbuilt)
  rw [instantiateFromConfig_of_agent hctx hc hic hagentStage, hpanic]
  rfl

/-- Building an instance whose agent has a remote key, in a configuration without
`signing_service_uri`, panics in the first `expect` of `build_conductor_api`. -/
theorem instantiateFromConfig_of_signing_unset (hctx : env.MakesContexts) {id : String}
    {ic : InstanceConfiguration} {agentConfig : AgentConfiguration}
    (hc : s.config.Consistent env.loader env.dnaAddress env.debugFns)
    (hic : s.config.instanceById id = some ic)
    (hagent : s.config.agentById ic.agent = some agentConfig)
    (hremote : agentConfig.holoRemoteKey = some true) (hunset : s.config.signingServiceUri = none) :
    instantiateFromConfig env s id = .error "holo_remote_key needs signing_service_uri set" := by
  obtain ⟨-, hid⟩ := Configuration.instanceById_eq_some hic
  obtain ⟨s₁, hagentStage, hrek₁, -⟩ := instanceAgent_eq_ok hctx hagent
  -- the rekeyed conductor finds the agent with the same remote key, and the service unset
  have hmap := hrek₁.config.agentById (j := ic.agent)
  rw [hagent, Option.map_some] at hmap
  obtain ⟨agentConfig₁, hagent₁, hunkeyed⟩ := Option.map_eq_some_iff.mp hmap
  have hremote₁ : agentConfig₁.holoRemoteKey = some true := by
    rw [← hremote]
    exact congrArg (fun a => a.unkeyed.holoRemoteKey) hunkeyed
  have hunset₁ : s₁.config.signingServiceUri = none := by
    rw [← hunset]
    exact congrArg Prod.fst hrek₁.config.services
  have hapi : buildConductorApi env s₁ ic.id =
      .error "holo_remote_key needs signing_service_uri set" := by
    unfold buildConductorApi
    rw [hrek₁.config.instanceById, hid, hic]
    dsimp only
    rw [hagent₁]
    dsimp only
    rw [signingCallbacks_of_signing_unset hremote₁ hunset₁]
  rw [instantiateFromConfig_of_agent hctx hc hic hagentStage, hapi]
  rfl

/-! ### A running conductor -/

/-- The conductor APIs of a conductor, with one more built from some of the bridges, have
bridges among them. -/
theorem apisConfigured_update {bridges deps : List Bridge} {id : String}
    (hapis : ∀ j ∈ s.instances, ∀ bridge ∈ s.apiBridges j, bridge ∈ bridges)
    (hdeps : ∀ bridge ∈ deps, bridge ∈ bridges) :
    ∀ j ∈ insert id s.instances, ∀ bridge ∈ Function.update s.apiBridges id deps j,
      bridge ∈ bridges := by
  intro j hj bridge hb
  by_cases hjid : j = id
  · subst hjid
    rw [Function.update_self] at hb
    exact hdeps bridge hb
  · rw [Function.update_of_ne hjid] at hb
    exact hapis j ((Finset.mem_insert.mp hj).resolve_left hjid) bridge hb

/-- A running conductor, as the admin calls keep it: its configuration is consistent and has
the services its remote keys need, every configured instance is built, and every bridge that
a built instance's conductor API was built with is configured. -/
structure Running (env : AdminEnv) (s : Conductor) : Prop where
  consistent : s.config.Consistent env.loader env.dnaAddress env.debugFns
  served : s.config.RemoteKeysServed
  built : ∀ inst ∈ s.config.instances, inst.id ∈ s.instances
  apisConfigured : ∀ id ∈ s.instances, ∀ bridge ∈ s.apiBridges id, bridge ∈ s.config.bridges

/-- In a consistent configuration whose instances are all built, every callee is configured
and built. -/
theorem callees_built {c : Configuration} (hc : c.Consistent env.loader env.dnaAddress env.debugFns)
    (hbuilt : ∀ inst ∈ c.instances, inst.id ∈ s.instances) :
    ∀ bridge ∈ c.bridges, (c.instanceById bridge.calleeId).isSome ∧ bridge.calleeId ∈ s.instances := by
  intro bridge hb
  obtain ⟨inst, hinst, hid⟩ := List.mem_map.mp (hc.bridgeEnds bridge hb).2
  obtain ⟨ic, hic⟩ := Configuration.exists_instanceById_of_mem (hc.bridgeEnds bridge hb).2
  exact ⟨Option.isSome_iff_exists.mpr ⟨ic, hic⟩, hid ▸ hbuilt inst hinst⟩

/-- Every bridge of a running conductor has its callee configured, also once one more instance
is configured, and built. -/
theorem Running.callees_append_instance (h : Running env s) (inst : InstanceConfiguration) :
    ∀ bridge ∈ s.config.bridges,
      (({ s.config with instances := s.config.instances ++ [inst] } : Configuration).instanceById
        bridge.calleeId).isSome ∧ bridge.calleeId ∈ s.instances := by
  intro bridge hb
  obtain ⟨hconfigured, hbuilt⟩ := callees_built h.consistent h.built bridge hb
  exact ⟨Configuration.isSome_find?_append hconfigured, hbuilt⟩

/-- A conductor that differs from a running one only in its threads is running. -/
theorem Running.of_sameBuilt (h : Running env s) (hsame : SameBuilt s s') : Running env s' := by
  obtain ⟨hconfig, hinstances, hapi⟩ := hsame
  refine ⟨hconfig ▸ h.consistent, hconfig ▸ h.served, fun inst hi => ?_, fun id hid bridge hb => ?_⟩
  · rw [hconfig] at hi
    rw [hinstances]
    exact h.built inst hi
  · rw [hinstances] at hid
    rw [hapi] at hb
    rw [hconfig]
    exact h.apisConfigured id hid bridge hb

/-- A rekeyed running conductor is running. -/
theorem Running.rekeyed (h : Running env s) (hrek : s.Rekeyed s') : Running env s' where
  consistent := hrek.config.consistent h.consistent
  served := hrek.remoteKeysServed h.served
  built inst hi := by
    rw [hrek.config.instances] at hi
    rw [hrek.instances]
    exact h.built inst hi
  apisConfigured id hid bridge hb := by
    rw [hrek.instances] at hid
    rw [hrek.apiBridges] at hb
    rw [hrek.config.bridges]
    exact h.apisConfigured id hid bridge hb

/-- A running conductor stays running under a new consistent configuration whose remote keys
have their services, with no other instances and no fewer bridges. -/
theorem Running.replace (h : Running env s) {newConfig : Configuration}
    (hc : newConfig.Consistent env.loader env.dnaAddress env.debugFns)
    (hserved : newConfig.RemoteKeysServed)
    (hinstances : ∀ inst ∈ newConfig.instances, inst ∈ s.config.instances)
    (hbridges : ∀ bridge ∈ s.config.bridges, bridge ∈ newConfig.bridges) :
    Running env { s with config := newConfig } where
  consistent := hc
  served := hserved
  built inst hi := h.built inst (hinstances inst hi)
  apisConfigured id hid bridge hb := hbridges bridge (h.apisConfigured id hid bridge hb)

/-- A call of the common shape whose rest changes only threads keeps a conductor running when
its new configuration has its remote keys served, no other instances and no fewer bridges. -/
theorem Running.updateConfig {α : Type} (h : Running env s) {refusal : Option HolochainError}
    {newConfig : Configuration} {rest : Conductor → Conductor × Except HolochainError α}
    (hrest : ∀ s', SameBuilt s' (rest s').1) (hserved : newConfig.RemoteKeysServed)
    (hinstances : ∀ inst ∈ newConfig.instances, inst ∈ s.config.instances)
    (hbridges : ∀ bridge ∈ s.config.bridges, bridge ∈ newConfig.bridges) :
    Running env (updateConfig env refusal newConfig rest s).1 := by
  rcases updateConfig_cases env refusal newConfig rest s with heq | ⟨hc, heq | heq⟩
  · rw [heq]
    exact h
  · rw [heq]
    exact h.replace hc hserved hinstances hbridges
  · rw [heq]
    exact (h.replace hc hserved hinstances hbridges).of_sameBuilt (hrest _)

/-- A call of the common shape whose rest changes only threads leaves the configuration it had
or the new one. -/
theorem updateConfig_config {α : Type} (env : AdminEnv) (refusal : Option HolochainError)
    (newConfig : Configuration) (rest : Conductor → Conductor × Except HolochainError α)
    (s : Conductor) (hrest : ∀ s', SameBuilt s' (rest s').1) :
    (updateConfig env refusal newConfig rest s).1.config = s.config ∨
      (updateConfig env refusal newConfig rest s).1.config = newConfig := by
  rcases updateConfig_cases env refusal newConfig rest s with heq | ⟨-, heq | heq⟩
  · exact .inl (by rw [heq])
  · exact .inr (by rw [heq])
  · exact .inr (by rw [heq]; exact (hrest _).1)

/-- The hashes of the DNAs stay matching across a call of the common shape that drops DNAs at
most. -/
theorem dnaHashesMatch_updateConfig {α : Type} {refusal : Option HolochainError}
    {newConfig : Configuration} {rest : Conductor → Conductor × Except HolochainError α}
    (hhashes : s.config.DnaHashesMatch env.loader env.dnaAddress)
    (hrest : ∀ s', SameBuilt s' (rest s').1)
    (hdnas : ∀ dnaConfig ∈ newConfig.dnas, dnaConfig ∈ s.config.dnas) :
    (updateConfig env refusal newConfig rest s).1.config.DnaHashesMatch env.loader env.dnaAddress := by
  rcases updateConfig_config env refusal newConfig rest s hrest with heq | heq
  · rw [heq]
    exact hhashes
  · rw [heq]
    exact hhashes.of_dnas hdnas

/-! ### Every call keeps a conductor running, but `remove_bridge` -/

theorem running_uninstallDna (h : Running env s) (id : String) :
    Running env (s.uninstallDna env id).1 := by
  unfold uninstallDna
  split
  · exact h
  · rename_i newConfig hok
    obtain ⟨hc, hinstances, hbridges, hagents, hservices, -⟩ :=
      Configuration.uninstallDna_eq_ok_spec hok
    exact h.replace hc (h.served.of_agents hservices fun _ ha => hagents ▸ ha) hinstances
      fun bridge hb => hbridges ▸ hb

theorem dnas_uninstallDna (id : String) :
    ∀ dnaConfig ∈ (s.uninstallDna env id).1.config.dnas, dnaConfig ∈ s.config.dnas := by
  unfold uninstallDna
  split
  · exact fun _ h => h
  · rename_i newConfig hok
    exact (Configuration.uninstallDna_eq_ok_spec hok).2.2.2.2.2

theorem running_removeInstance (h : Running env s) (id : String) :
    Running env (s.removeInstance env id).1 := by
  unfold removeInstance
  split
  · exact h
  · rename_i newConfig hok
    obtain ⟨rfl, hc⟩ := Configuration.removeInstance_eq_ok_spec hok
    have hkept : ∀ inst ∈ (s.config.saveRemoveInstance id).instances,
        inst.id ≠ id ∧ inst ∈ s.config.instances := fun inst hi =>
      ⟨by simpa using (List.mem_filter.mp hi).2, (List.mem_filter.mp hi).1⟩
    dsimp only [saveConfig]
    cases hsave : env.saveConfig (s.config.saveRemoveInstance id) with
    | error e => exact h.replace hc h.served (fun inst hi => (hkept inst hi).2) fun _ hb => hb
    | ok u =>
      -- saved: the instance also leaves the map
      refine ⟨hc, h.served, fun inst hi => ?_, fun j hj bridge hb => ?_⟩
      · obtain ⟨hne, hmem⟩ := hkept inst hi
        exact Finset.mem_erase.mpr ⟨hne, h.built inst hmem⟩
      · exact h.apisConfigured j (Finset.mem_of_mem_erase hj) bridge hb

theorem dnas_removeInstance (env : AdminEnv) (id : String) :
    (s.removeInstance env id).1.config.dnas = s.config.dnas := by
  unfold removeInstance
  split
  · rfl
  · rename_i newConfig hok
    obtain ⟨rfl, -⟩ := Configuration.removeInstance_eq_ok_spec hok
    dsimp only [saveConfig]
    cases env.saveConfig (s.config.saveRemoveInstance id) <;> rfl

theorem running_addInterface (h : Running env s) (interface : InterfaceConfiguration) :
    Running env (s.addInterface env interface).1 :=
  h.updateConfig (fun s' => sameBuilt_startInterfaceById interface.id s') h.served (fun _ hi => hi)
    fun _ hb => hb

theorem running_removeInterface (h : Running env s) (id : String) :
    Running env (s.removeInterface env id).1 :=
  h.updateConfig (fun s' => sameBuilt_stopInterfaceById id s') h.served (fun _ hi => hi)
    fun _ hb => hb

theorem running_addInstanceToInterface (h : Running env s) (interfaceId instanceId : String) :
    Running env (s.addInstanceToInterface env interfaceId instanceId).1 :=
  h.updateConfig (fun s' => (sameBuilt_stopInterfaceById interfaceId s').trans
    (sameBuilt_startInterfaceById interfaceId _)) h.served (fun _ hi => hi) fun _ hb => hb

theorem running_removeInstanceFromInterface (h : Running env s) (interfaceId instanceId : String) :
    Running env (s.removeInstanceFromInterface env interfaceId instanceId).1 :=
  h.updateConfig (fun s' => (sameBuilt_stopInterfaceById interfaceId s').trans
    (sameBuilt_startInterfaceById interfaceId _)) h.served (fun _ hi => hi) fun _ hb => hb

/-- `add_agent` keeps a conductor running, unless it adds a remote key to a configuration
without the services. -/
theorem running_addAgent (h : Running env s) (id name : String) (holoRemoteKey : Option String)
    (hservices : holoRemoteKey.isSome → s.config.ServicesSet) :
    Running env (s.addAgent env id name holoRemoteKey).1 := by
  unfold addAgent
  split
  · exact h
  · dsimp only
    split
    · exact h
    · rename_i keystoreFile publicAddress _
      refine h.updateConfig (fun s' => .refl s') ?_ (fun _ hi => hi) fun _ hb => hb
      -- the new agent has a remote key exactly when one was given
      intro agentConfig hmem hremote
      rcases List.mem_append.mp hmem with hold | hnew
      · exact h.served agentConfig hold hremote
      · obtain rfl := List.mem_singleton.mp hnew
        cases holoRemoteKey with
        | none => cases hremote
        | some key => exact hservices rfl

theorem dnas_addAgent (env : AdminEnv) (id name : String) (holoRemoteKey : Option String) :
    (s.addAgent env id name holoRemoteKey).1.config.dnas = s.config.dnas := by
  unfold addAgent
  split
  · rfl
  · dsimp only
    split
    · rfl
    · rename_i keystoreFile publicAddress _
      rcases updateConfig_config env none _ (fun s => (s, .ok publicAddress)) s
        (fun s' => .refl s') with heq | heq <;> rw [heq]

theorem running_removeAgent (h : Running env s) (id : String) :
    Running env (s.removeAgent env id).1 :=
  h.updateConfig (fun s' => .refl s')
    (h.served.of_agents Configuration.services_foldl_saveRemoveInstance fun _ ha => by
      rw [Configuration.agents_foldl_saveRemoveInstance] at ha
      exact List.mem_of_mem_filter ha)
    (fun _ hi => (Configuration.mem_instances_foldl_saveRemoveInstance hi).1)
    fun _ hb => by
      rw [Configuration.bridges_foldl_saveRemoveInstance]
      exact hb

/-- On a running conductor whose DNA hashes match, where every instance builds, `add_instance`
does not panic and leaves the conductor so: the instance is built once the configuration lists
it. -/
theorem running_addInstance (henv : env.Builds) (h : Running env s)
    (hhashes : s.config.DnaHashesMatch env.loader env.dnaAddress)
    (id dnaId agentId : String) (storage : Option String) :
    ∃ s' r, s.addInstance env id dnaId agentId storage = .ok (s', r) ∧ Running env s' ∧
      s'.config.DnaHashesMatch env.loader env.dnaAddress := by
  unfold addInstance
  split
  · exact ⟨s, _, rfl, h, hhashes⟩
  · split
    · exact ⟨s, _, rfl, h, hhashes⟩
    · split
      · exact ⟨s, _, rfl, h, hhashes⟩
      · rename_i storageConfig _
        set inst : InstanceConfiguration := ⟨id, dnaId, agentId, storageConfig⟩ with hinst
        set newConfig : Configuration := { s.config with instances := s.config.instances ++ [inst] }
          with hnewConfig
        cases hcheck : newConfig.checkConsistency env.loader env.dnaAddress env.debugFns with
        | error e =>
          rw [replaceConfig_of_error hcheck]
          exact ⟨s, _, rfl, h, hhashes⟩
        | ok u =>
          rw [replaceConfig_of_ok hcheck]
          dsimp only
          have hc := Configuration.checkConsistency_eq_ok.mp hcheck
          -- the new instance is found, and every callee is an old, built instance
          have hfound : (newConfig.instanceById id).isSome :=
            List.find?_isSome.mpr ⟨inst, List.mem_append_right _ (List.mem_singleton_self inst),
              by simp [hinst]⟩
          obtain ⟨ic, hic⟩ := Option.isSome_iff_exists.mp hfound
          obtain ⟨s₁, hbuild, hrek, hhashes₁⟩ := instantiateFromConfig_of_builds
            (s := { s with config := newConfig }) henv hc h.served hhashes hic
            (CalleesBuilt.of_all (h.callees_append_instance inst) id)
          rw [hbuild]
          refine ⟨_, _, rfl, ⟨hrek.config.consistent hc, hrek.remoteKeysServed h.served,
            fun inst' hi => ?_, fun j hj bridge hb => ?_⟩, hhashes₁⟩
          · rw [hrek.config.instances] at hi
            rw [hrek.instances]
            rcases List.mem_append.mp hi with hold | hnew
            · exact Finset.mem_insert_of_mem (h.built inst' hold)
            · rw [List.mem_singleton.mp hnew]
              exact Finset.mem_insert_self id s.instances
          · -- the new instance's API was just built; the others' are as before
            have hapis : ∀ j ∈ s₁.instances, ∀ bridge ∈ s₁.apiBridges j, bridge ∈ s.config.bridges :=
              hrek.apiBridges ▸ hrek.instances ▸ h.apisConfigured
            rw [hrek.config.bridges]
            exact apisConfigured_update hapis (fun b hb => (mem_bridgeDependencies.mp hb).1) j hj
              bridge hb

/-- A configuration with one more bridge is another configuration. -/
theorem config_ne_append_bridge (c : Configuration) (b : Bridge) :
    c ≠ { c with bridges := c.bridges ++ [b] } := fun h => by
  have hlen := congrArg (fun c : Configuration => c.bridges.length) h
  simp at hlen

/-- On a running conductor, `add_bridge` does not panic and leaves the conductor running: the
callees of the caller are all built, and the caller's API is rebuilt from configured bridges.
The configuration gets the bridge exactly when no bridge joins the same two instances and the
configuration with it passes the check; its DNAs stay. -/
theorem addBridge_spec (h : Running env s) (newBridge : Bridge) :
    ∃ s' r, s.addBridge env newBridge = .ok (s', r) ∧ Running env s' ∧
      (s'.config = { s.config with bridges := s.config.bridges ++ [newBridge] } ↔
        (s.config.bridges.any fun b => b.callerId == newBridge.callerId &&
          b.calleeId == newBridge.calleeId) = false ∧
        ({ s.config with bridges := s.config.bridges ++ [newBridge] } : Configuration).checkConsistency
          env.loader env.dnaAddress env.debugFns = .ok ()) ∧
      s'.config.dnas = s.config.dnas := by
  have hne := config_ne_append_bridge s.config newBridge
  unfold addBridge
  split
  · rename_i hdup
    exact ⟨s, _, rfl, h, ⟨fun heq => absurd heq hne, fun hpass => by simp [hdup] at hpass⟩, rfl⟩
  · rename_i hdup
    set newConfig : Configuration := { s.config with bridges := s.config.bridges ++ [newBridge] }
      with hnewConfig
    by_cases hcheck : newConfig.checkConsistency env.loader env.dnaAddress env.debugFns = .ok ()
    swap
    · -- refused by the check: the conductor is as it was
      obtain ⟨e, he⟩ : ∃ e, newConfig.checkConsistency env.loader env.dnaAddress env.debugFns =
          .error e := by
        cases hc : newConfig.checkConsistency env.loader env.dnaAddress env.debugFns with
        | error e => exact ⟨e, rfl⟩
        | ok u => exact absurd hc hcheck
      rw [replaceConfig_of_error he]
      exact ⟨s, _, rfl, h, ⟨fun heq => absurd heq hne, fun hpass => absurd hpass.2 hcheck⟩, rfl⟩
    · have hc := Configuration.checkConsistency_eq_ok.mp hcheck
      have hrun : Running env { s with config := newConfig } :=
        h.replace hc h.served (fun _ hi => hi) fun _ hb => List.mem_append_left _ hb
      -- from here on the configuration is the new one
      have hpass : newConfig = newConfig ↔ (s.config.bridges.any fun b =>
          b.callerId == newBridge.callerId && b.calleeId == newBridge.calleeId) = false ∧
          newConfig.checkConsistency env.loader env.dnaAddress env.debugFns = .ok () :=
        ⟨fun _ => ⟨by simpa using hdup, hcheck⟩, fun _ => rfl⟩
      rw [replaceConfig_of_ok hcheck, andThen_ok]
      dsimp only [saveConfig]
      cases hsave : env.saveConfig newConfig with
      | error e => exact ⟨_, _, rfl, hrun, hpass, rfl⟩
      | ok u' =>
        dsimp only
        obtain ⟨r, hr, hbridges⟩ := buildConductorApi_of_built env
          (s := { s with config := newConfig }) h.served (callees_built hc h.built) newBridge.callerId
        rw [hr]
        cases r with
        | error e => exact ⟨_, _, rfl, hrun, hpass, rfl⟩
        | ok bridges =>
          dsimp only
          split
          · cases env.setConductorApi newBridge.callerId with
            | error e => exact ⟨_, _, rfl, hrun, hpass, rfl⟩
            | ok u'' =>
              refine ⟨_, _, rfl, ⟨hc, h.served, hrun.built, fun j hj bridge hb => ?_⟩, hpass, rfl⟩
              dsimp only at hb
              by_cases hj' : j = newBridge.callerId
              · subst hj'
                rw [Function.update_self] at hb
                exact hbridges bridges rfl bridge hb
              · rw [Function.update_of_ne hj'] at hb
                exact hrun.apisConfigured j hj bridge hb
          · exact ⟨_, _, rfl, hrun, hpass, rfl⟩

theorem running_addBridge (h : Running env s) (newBridge : Bridge) :
    ∃ s' r, s.addBridge env newBridge = .ok (s', r) ∧ Running env s' ∧
      s'.config.dnas = s.config.dnas :=
  let ⟨s', r, hcall, hrun, _, hdnas⟩ := addBridge_spec h newBridge
  ⟨s', r, hcall, hrun, hdnas⟩

end Conductor

/-- Whether the call is `remove_bridge`. -/
def AdminCall.removesBridge : AdminCall → Bool
  | .removeBridge _ _ => true
  | _ => false

/-- Whether the call is `add_agent` of an agent with a remote key. -/
def AdminCall.addsRemoteAgent : AdminCall → Bool
  | .addAgent _ _ (some _) => true
  | _ => false

namespace Conductor

/-! ### A conductor to run the calls on -/

/-- A DNA with one zome, which declares an optional bridge `h` to any callee. -/
def optionalBridgeDna : Dna := ⟨"", [("zome", ⟨[], [], [⟨.optional, "h", .trait []⟩]⟩)]⟩

/-- One agent and one DNA, with two instances of it and nothing else. -/
def twoInstanceConfig : Configuration :=
  ⟨[⟨"a", "a", "HcSCa", "a.keystore", none, none⟩], [⟨"d", "f", "QmDna", none⟩],
    [⟨"i1", "d", "a", .memory⟩, ⟨"i2", "d", "a", .memory⟩], [], [], [], [], none, none, none, none⟩

/-- A world where every DNA file is `optionalBridgeDna`, every keystore holds the key its agent
names, and everything asked of it succeeds. -/
def readyEnv : AdminEnv where
  loader _ := .ok optionalBridgeDna
  dnaAddress _ := "QmDna"
  debugFns _ := "[]"
  saveConfig _ := .ok ()
  storagePath id := .ok ("storage/" ++ id)
  createDirAll _ := .ok ()
  keybundle agentConfig := .ok agentConfig.publicAddress
  openStorage _ := .ok ()
  createInstance _ _ := .ok ()
  setConductorApi _ := .ok ()
  newKeystore id := .ok ("keystores/" ++ id, "HcScK" ++ id)
  killSwitchSends _ := true

/-- The bridge from `i1` to `i2` under the DNA's optional handle. -/
def optionalBridge : Bridge := ⟨"i1", "i2", "h"⟩

/-- The conductor of `twoInstanceConfig` with both instances built and no interface running. -/
def twoInstanceConductor : Conductor := ⟨twoInstanceConfig, {"i1", "i2"}, fun _ => [], ∅⟩

theorem readyEnv_makesContexts : readyEnv.MakesContexts :=
  ⟨fun agentConfig => ⟨agentConfig.publicAddress, rfl, .inr rfl⟩, fun _ => rfl, fun _ => rfl⟩

theorem readyEnv_builds : readyEnv.Builds := ⟨readyEnv_makesContexts, fun _ _ => rfl⟩

/-- The two-instance conductor is running in every world whose DNA files are
`optionalBridgeDna`: with no bridge, the check reads nothing else of the world, and its agent
has no remote key. -/
theorem twoInstanceConductor_running (env : AdminEnv)
    (hloader : env.loader = fun _ => .ok optionalBridgeDna) : Running env twoInstanceConductor where
  consistent := Configuration.checkConsistency_eq_ok.mp (by rw [hloader]; rfl)
  served agentConfig hmem hremote := by
    obtain rfl := List.mem_singleton.mp hmem
    cases hremote
  built := by decide
  apisConfigured _ _ _ hb := absurd hb List.not_mem_nil

/-- The hash configured for the DNA of `twoInstanceConfig` is the address `readyEnv` gives. -/
theorem twoInstanceConfig_dnaHashesMatch :
    twoInstanceConfig.DnaHashesMatch readyEnv.loader readyEnv.dnaAddress := by
  intro dnaConfig hmem _ dna _
  obtain rfl := List.mem_singleton.mp hmem
  rfl

variable {env : AdminEnv} {s : Conductor}

/-- From a running conductor whose DNA hashes match, where every instance builds, no admin
call panics, every call keeps the hashes matching, and every call but `remove_bridge` leaves the
conductor running, unless it adds a remote key to a configuration without the services. -/
theorem running_step (henv : env.Builds) (h : Running env s)
    (hhashes : s.config.DnaHashesMatch env.loader env.dnaAddress) (call : AdminCall) :
    ∃ s', AdminStep env s call s' ∧ s'.config.DnaHashesMatch env.loader env.dnaAddress ∧
      (call.removesBridge = false → (call.addsRemoteAgent = true → s.config.ServicesSet) →
        Running env s') := by
  cases call with
  | uninstallDna id =>
    exact ⟨_, rfl, hhashes.of_dnas (dnas_uninstallDna id), fun _ _ => running_uninstallDna h id⟩
  | addInstance id dnaId agentId storage =>
    obtain ⟨s', r, hcall, hs', hhashes'⟩ := running_addInstance henv h hhashes id dnaId agentId storage
    refine ⟨s', ?_, hhashes', fun _ _ => hs'⟩
    show (match s.addInstance env id dnaId agentId storage with
      | .ok (s', _) => some s'
      | .error _ => none) = some s'
    rw [hcall]
  | removeInstance id =>
    exact ⟨_, rfl, hhashes.of_dnas fun _ hd => dnas_removeInstance env id ▸ hd,
      fun _ _ => running_removeInstance h id⟩
  | addInterface interface =>
    exact ⟨_, rfl, dnaHashesMatch_updateConfig hhashes (fun s' => sameBuilt_startInterfaceById interface.id s')
      fun _ hd => hd, fun _ _ => running_addInterface h interface⟩
  | removeInterface id =>
    exact ⟨_, rfl, dnaHashesMatch_updateConfig hhashes (fun s' => sameBuilt_stopInterfaceById id s')
      fun _ hd => hd, fun _ _ => running_removeInterface h id⟩
  | addInstanceToInterface interfaceId instanceId =>
    exact ⟨_, rfl, dnaHashesMatch_updateConfig hhashes (fun s' => (sameBuilt_stopInterfaceById interfaceId s').trans
      (sameBuilt_startInterfaceById interfaceId _)) fun _ hd => hd,
      fun _ _ => running_addInstanceToInterface h interfaceId instanceId⟩
  | removeInstanceFromInterface interfaceId instanceId =>
    exact ⟨_, rfl, dnaHashesMatch_updateConfig hhashes (fun s' => (sameBuilt_stopInterfaceById interfaceId s').trans
      (sameBuilt_startInterfaceById interfaceId _)) fun _ hd => hd,
      fun _ _ => running_removeInstanceFromInterface h interfaceId instanceId⟩
  | addAgent id name holoRemoteKey =>
    refine ⟨_, rfl, hhashes.of_dnas fun _ hd => dnas_addAgent env id name holoRemoteKey ▸ hd,
      fun _ hremote => running_addAgent h id name holoRemoteKey fun hkey => hremote ?_⟩
    -- only `add_agent` with a key adds a remote key
    obtain ⟨key, rfl⟩ := Option.isSome_iff_exists.mp hkey
    rfl
  | removeAgent id =>
    exact ⟨_, rfl, dnaHashesMatch_updateConfig hhashes (fun s' => .refl s') fun _ hd => by
      rw [Configuration.dnas_foldl_saveRemoveInstance] at hd
      exact hd, fun _ _ => running_removeAgent h id⟩
  | addBridge newBridge =>
    obtain ⟨s', r, hcall, hs', hdnas⟩ := running_addBridge h newBridge
    refine ⟨s', ?_, hhashes.of_dnas fun _ hd => hdnas ▸ hd, fun _ _ => hs'⟩
    show (match s.addBridge env newBridge with
      | .ok (s', _) => some s'
      | .error _ => none) = some s'
    rw [hcall]
  | removeBridge callerId calleeId =>
    exact ⟨_, rfl, dnaHashesMatch_updateConfig hhashes (fun s' => .refl s') fun _ hd => hd,
      fun hremoves => by cases hremoves⟩

/-- A bridge from `i1` to `i2`, then an interface to `i1`. -/
def bridgeThenInterface : List AdminCall :=
  [.addBridge optionalBridge, .addInterface ⟨"web", [⟨"i1"⟩]⟩]

/-- The two-instance conductor after `bridgeThenInterface`. -/
def bridgedConductor : Conductor :=
  (Run.runSteps (fun s call => call.run readyEnv s) twoInstanceConductor bridgeThenInterface).getD
    twoInstanceConductor

/-- On a running conductor, `add_bridge` between two instances that no bridge joins yet does
not panic, and it puts the bridge into the configuration exactly when the bridge passes its
requirements and its callee does not already reach its caller through the bridges: the check
refuses the bridges that would close a cycle, and only those of the bridges that pass their
requirements. -/
theorem addBridge_check_iff (h : Running env s) {newBridge : Bridge}
    (hnew : (s.config.bridges.any fun b => b.callerId == newBridge.callerId &&
      b.calleeId == newBridge.calleeId) = false) :
    ∃ s' r, s.addBridge env newBridge = .ok (s', r) ∧
      (s'.config = { s.config with bridges := s.config.bridges ++ [newBridge] } ↔
        s.config.checkBridgeRequirements env.loader env.dnaAddress env.debugFns newBridge = .ok () ∧
          ¬Relation.ReflTransGen s.config.BridgeEdge newBridge.calleeId newBridge.callerId) := by
  obtain ⟨s', r, hcall, -, hconfig, -⟩ := addBridge_spec h newBridge
  refine ⟨s', r, hcall, ?_⟩
  rw [hconfig, ← Configuration.consistent_append_bridge_iff h.consistent,
    ← Configuration.checkConsistency_eq_ok]
  exact and_iff_right hnew

theorem addBridge_check_iff_optionalBridge :
    Running readyEnv twoInstanceConductor ∧
      (twoInstanceConfig.bridges.any fun b => b.callerId == "i1" && b.calleeId == "i2") = false ∧
      ∃ s' r, twoInstanceConductor.addBridge readyEnv optionalBridge = .ok (s', r) ∧
        (s'.config = { twoInstanceConfig with bridges := [optionalBridge] } ↔
          twoInstanceConfig.checkBridgeRequirements readyEnv.loader readyEnv.dnaAddress
              readyEnv.debugFns optionalBridge = .ok () ∧
            ¬Relation.ReflTransGen twoInstanceConfig.BridgeEdge "i2" "i1") :=
  have h := twoInstanceConductor_running readyEnv rfl
  have hnew : (twoInstanceConfig.bridges.any fun b => b.callerId == "i1" && b.calleeId == "i2") =
      false := rfl
  ⟨h, hnew, addBridge_check_iff h hnew⟩

/-! ### An instance that fails to build -/

/-- `add_bridge` of a new bridge whose configuration passes the check and is saved panics when
its callee is not built: the caller's conductor API is rebuilt, and its `expect` finds no
callee. -/
theorem addBridge_panics (hctx : env.MakesContexts) (hserved : s.config.RemoteKeysServed)
    {newBridge : Bridge}
    (hnew : (s.config.bridges.any fun b => b.callerId == newBridge.callerId &&
      b.calleeId == newBridge.calleeId) = false)
    (hcheck : ({ s.config with bridges := s.config.bridges ++ [newBridge] } : Configuration).checkConsistency
      env.loader env.dnaAddress env.debugFns = .ok ())
    (hsave : env.saveConfig { s.config with bridges := s.config.bridges ++ [newBridge] } = .ok ())
    (hunbuilt : newBridge.calleeId ∉ s.instances) :
    s.addBridge env newBridge = .error calleeMissing := by
  set newConfig : Configuration := { s.config with bridges := s.config.bridges ++ [newBridge] }
    with hnewConfig
  have hc := Configuration.checkConsistency_eq_ok.mp hcheck
  have hmem : newBridge ∈ newConfig.bridges := List.mem_append_right _ (List.mem_singleton_self _)
  -- the caller is configured, with a configured agent, and every callee is configured
  obtain ⟨ic, hic⟩ := Configuration.exists_instanceById_of_mem (hc.bridgeEnds newBridge hmem).1
  obtain ⟨hicMem, hicId⟩ := Configuration.instanceById_eq_some hic
  have hagent := Configuration.isSome_agentById_of_checkInstance (hc.instancesOk ic hicMem)
  have hconfigured : ∀ bridge ∈ newConfig.bridges, (newConfig.instanceById bridge.calleeId).isSome :=
    fun bridge hb => Option.isSome_iff_exists.mpr
      (Configuration.exists_instanceById_of_mem (hc.bridgeEnds bridge hb).2)
  have hpanic := buildConductorApi_panics (s := { s with config := newConfig }) hctx hserved hic
    hagent hconfigured (mem_bridgeDependencies.mpr ⟨hmem, hicId.symm⟩) hunbuilt
  unfold addBridge
  rw [if_neg (by rw [hnew]; exact Bool.false_ne_true), replaceConfig_of_ok hcheck, andThen_ok]
  dsimp only [saveConfig]
  rw [hsave]
  dsimp only
  rw [hpanic]

/-- `add_instance` whose storage is made and whose configuration with the new instance passes
the check goes on as building the instance on the conductor with that configuration goes. -/
theorem addInstance_of_checked {id dnaId agentId storagePath : String}
    {storage : Option String} {storageConfig : StorageConfiguration}
    (hpath : env.storagePath id = .ok storagePath) (hdir : env.createDirAll storagePath = .ok ())
    (hstorage : storageConfiguration storage storagePath = .ok storageConfig)
    (hcheck : ({ s.config with instances :=
        s.config.instances ++ [⟨id, dnaId, agentId, storageConfig⟩] } : Configuration).checkConsistency
      env.loader env.dnaAddress env.debugFns = .ok ()) :
    s.addInstance env id dnaId agentId storage =
      match instantiateFromConfig env { s with config := { s.config with instances :=
          s.config.instances ++ [⟨id, dnaId, agentId, storageConfig⟩] } } id with
      | .error p => .error p
      | .ok (s, .error e) => .ok (s, .error (.errorGeneric e))
      | .ok (s, .ok bridges) =>
        .ok (saveConfig env { s with
          instances := insert id s.instances
          apiBridges := Function.update s.apiBridges id bridges }) := by
  unfold addInstance
  rw [hpath]
  dsimp only
  rw [hdir]
  dsimp only
  rw [hstorage]
  dsimp only
  rw [replaceConfig_of_ok hcheck]

/-- A world like `readyEnv` where no instance can be created. -/
def noStorageEnv : AdminEnv :=
  { readyEnv with createInstance := fun _ _ => .error "could not open storage" }

/-- `add_agent` with a remote key, where it succeeds, puts in the agent with the key as its
public address, and that is all. -/
theorem addAgent_remote_eq_ok {id name key a : String}
    (h : s.addAgent env id name (some key) = (s₁, .ok a)) :
    (s.config.agents.any fun agent => agent.id == id) = false ∧
      s₁ = { s with config := { s.config with agents :=
        s.config.agents ++ [⟨id, name, key, "::ignored::", some true, none⟩] } } := by
  unfold addAgent at h
  split at h
  · cases h
  · rename_i hfresh
    obtain ⟨-, -, -, hrest⟩ := updateConfig_eq_ok h
    cases hrest
    exact ⟨by simpa using hfresh, rfl⟩

/-- Filtering out what was just appended, and nothing before it, gives back the list. -/
theorem filter_append_singleton_of_forall {β : Type} {l : List β} {a : β} {p : β → Bool}
    (hl : ∀ b ∈ l, p b = true) (ha : p a = false) : (l ++ [a]).filter p = l := by
  rw [List.filter_append, List.filter_eq_self.mpr hl, List.filter_singleton, ha, cond_false,
    List.append_nil]

/-- An `add_interface` that succeeds found no interface with the id, and started the new
interface, which had no thread, once the configuration with it was in place. -/
theorem addInterface_eq_ok {interface : InterfaceConfiguration}
    (hadd : s.addInterface env interface = (s₁, .ok ())) :
    (s.config.interfaces.any fun i => i.id == interface.id) = false ∧
      interface.id ∉ s.interfaceThreads ∧
      s₁ = { s with
        config := { s.config with interfaces := s.config.interfaces ++ [interface] }
        interfaceThreads := insert interface.id s.interfaceThreads } := by
  obtain ⟨hrefusal, -, -, hstart⟩ := updateConfig_eq_ok hadd
  have hany : (s.config.interfaces.any fun i => i.id == interface.id) = false := by
    cases hany : s.config.interfaces.any fun i => i.id == interface.id with
    | false => rfl
    | true =>
      rw [if_pos hany] at hrefusal
      cases hrefusal
  -- no interface had the id, so the new one is found under it
  have hfresh : ∀ i ∈ s.config.interfaces, i.id ≠ interface.id := fun i hi => by
    simpa using List.any_eq_false.mp hany i hi
  have hfound : ({ s.config with interfaces := s.config.interfaces ++ [interface] } :
      Configuration).interfaceById interface.id = some interface := by
    show (s.config.interfaces ++ [interface]).find? (fun i => i.id == interface.id) = some interface
    rw [List.find?_append, List.find?_eq_none.mpr fun i hi => by simpa using hfresh i hi,
      Option.none_or]
    simp
  -- the interface had no thread: starting it is what succeeded
  have hnotrunning : interface.id ∉ s.interfaceThreads := by
    intro hin
    unfold liftString startInterfaceById at hstart
    rw [hfound] at hstart
    dsimp only at hstart
    rw [if_pos hin] at hstart
    cases hstart
  exact ⟨hany, hnotrunning, (Prod.mk.inj ((congrArg liftString (startInterfaceById_of_new
    (s := { s with config := { s.config with interfaces := s.config.interfaces ++ [interface] } })
    hfound hnotrunning)).symm.trans hstart)).1.symm⟩

/-- Removing an interface just added gives back the conductor: the configuration it had, and
its threads once the new interface's thread is stopped. -/
theorem removeInterface_addInterface
    (hc : s.config.Consistent env.loader env.dnaAddress env.debugFns)
    {interface : InterfaceConfiguration} (hadd : s.addInterface env interface = (s₁, .ok ()))
    (hsave : env.saveConfig s.config = .ok ()) (hkill : env.killSwitchSends interface.id = true) :
    s₁.removeInterface env interface.id = (s, .ok ()) := by
  obtain ⟨hfresh, hnotrunning, rfl⟩ := addInterface_eq_ok hadd
  -- removing it filters back to the old interfaces
  have hany : ((s.config.interfaces ++ [interface]).any fun i => i.id == interface.id) = true :=
    List.any_eq_true.mpr ⟨interface, List.mem_append_right _ (List.mem_singleton_self _), by simp⟩
  have hfilter : (s.config.interfaces ++ [interface]).filter (fun i => i.id != interface.id) =
      s.config.interfaces :=
    filter_append_singleton_of_forall (fun i hi => by simpa using List.any_eq_false.mp hfresh i hi)
      (by simp)
  unfold removeInterface
  dsimp only
  rw [hany, hfilter]
  rw [show ({ ({ s.config with interfaces := s.config.interfaces ++ [interface] } : Configuration) with
    interfaces := s.config.interfaces } : Configuration) = s.config from rfl]
  rw [if_neg (by decide), updateConfig_of_ok (Configuration.checkConsistency_eq_ok.mpr hc) hsave]
  dsimp only
  rw [stopInterfaceById_of_mem (Finset.mem_insert_self _ _) hkill,
    Finset.erase_insert hnotrunning]

/-- The interface `web`, to `i1`. -/
def webInterface : InterfaceConfiguration := ⟨"web", [⟨"i1"⟩]⟩

theorem removeInterface_addInterface_web :
    twoInstanceConfig.Consistent readyEnv.loader readyEnv.dnaAddress readyEnv.debugFns ∧
      twoInstanceConductor.addInterface readyEnv webInterface =
        ((twoInstanceConductor.addInterface readyEnv webInterface).1, .ok ()) ∧
      readyEnv.saveConfig twoInstanceConfig = .ok () ∧ readyEnv.killSwitchSends "web" = true ∧
      (twoInstanceConductor.addInterface readyEnv webInterface).1.removeInterface readyEnv "web" =
        (twoInstanceConductor, .ok ()) :=
  have hc := (twoInstanceConductor_running readyEnv rfl).consistent
  have hadd : twoInstanceConductor.addInterface readyEnv webInterface =
      ((twoInstanceConductor.addInterface readyEnv webInterface).1, .ok ()) := rfl
  ⟨hc, hadd, rfl, rfl, removeInterface_addInterface hc hadd rfl rfl⟩

/-- The bridges of a conductor API that is built are those the instance calls. -/
theorem buildConductorApi_eq_ok_inv {instanceId : String} {bridges : List Bridge}
    (h : buildConductorApi env s instanceId = .ok (.ok bridges)) :
    bridges = s.config.bridgeDependencies instanceId := by
  unfold buildConductorApi at h
  split at h
  · cases h
  · rename_i ic hic
    obtain ⟨-, hid⟩ := Configuration.instanceById_eq_some hic
    split at h
    · cases h
    -- the signing callbacks: a panic, a refusal, or built
    · split at h
      · cases h
      · cases h
      · dsimp only at h
        split at h
        · cases h
        · cases h
          rw [hid]

/-- An `add_bridge` that succeeds found no bridge between the two instances, put in the
configuration with the bridge, saved it, and rebuilt the caller's conductor API with the
bridges the caller calls. -/
theorem addBridge_eq_ok {newBridge : Bridge} (h : s.addBridge env newBridge = .ok (s₁, .ok ())) :
    (s.config.bridges.any fun b => b.callerId == newBridge.callerId &&
        b.calleeId == newBridge.calleeId) = false ∧
      s₁ = { s with
        config := { s.config with bridges := s.config.bridges ++ [newBridge] }
        apiBridges := Function.update s.apiBridges newBridge.callerId
          (({ s.config with bridges := s.config.bridges ++ [newBridge] } : Configuration).bridgeDependencies
            newBridge.callerId) } := by
  unfold addBridge at h
  split at h
  · cases h
  · rename_i hdup
    refine ⟨by simpa using hdup, ?_⟩
    cases hcheck : ({ s.config with bridges := s.config.bridges ++ [newBridge] } :
        Configuration).checkConsistency env.loader env.dnaAddress env.debugFns with
    | error e =>
      rw [replaceConfig_of_error hcheck] at h
      cases h
    | ok u =>
      rw [replaceConfig_of_ok hcheck, andThen_ok] at h
      dsimp only [saveConfig] at h
      cases hsave : env.saveConfig { s.config with bridges := s.config.bridges ++ [newBridge] } with
      | error e =>
        rw [hsave] at h
        cases h
      | ok u' =>
        rw [hsave] at h
        dsimp only at h
        split at h
        · cases h
        · cases h
        · rename_i bridges hbuild
          rw [buildConductorApi_eq_ok_inv hbuild] at h
          split at h
          · split at h
            · cases h
            · cases h
              rfl
          · cases h

/-- Removing a bridge just added gives back the configuration, but not the conductor: the
caller's conductor API, rebuilt when the bridge was added, still has the bridge. -/
theorem removeBridge_addBridge (hc : s.config.Consistent env.loader env.dnaAddress env.debugFns)
    {newBridge : Bridge} (hadd : s.addBridge env newBridge = .ok (s₁, .ok ()))
    (hsave : env.saveConfig s.config = .ok ()) :
    s₁.removeBridge env newBridge.callerId newBridge.calleeId = ({ s₁ with config := s.config }, .ok ()) ∧
      newBridge ∈ s₁.apiBridges newBridge.callerId ∧ newBridge ∉ s.config.bridges := by
  obtain ⟨hnew, rfl⟩ := addBridge_eq_ok hadd
  -- no old bridge joins the two instances
  have hother : ∀ b ∈ s.config.bridges, b.callerId ≠ newBridge.callerId ∨ b.calleeId ≠ newBridge.calleeId :=
    fun b hb => by simpa [or_iff_not_imp_left] using List.any_eq_false.mp hnew b hb
  have hmem : newBridge ∈ s.config.bridges ++ [newBridge] :=
    List.mem_append_right _ (List.mem_singleton_self _)
  have hany : ((s.config.bridges ++ [newBridge]).any fun b => b.callerId == newBridge.callerId &&
      b.calleeId == newBridge.calleeId) = true :=
    List.any_eq_true.mpr ⟨newBridge, hmem, by simp⟩
  have hfilter : (s.config.bridges ++ [newBridge]).filter (fun b =>
      b.callerId != newBridge.callerId || b.calleeId != newBridge.calleeId) = s.config.bridges :=
    filter_append_singleton_of_forall (fun b hb => by simpa [or_iff_not_imp_left] using hother b hb)
      (by simp)
  refine ⟨?_, ?_, fun hold => ?_⟩
  · unfold removeBridge
    dsimp only
    rw [hany, hfilter]
    rw [show ({ ({ s.config with bridges := s.config.bridges ++ [newBridge] } : Configuration) with
      bridges := s.config.bridges } : Configuration) = s.config from rfl]
    rw [if_neg (by decide), updateConfig_of_ok (Configuration.checkConsistency_eq_ok.mpr hc) hsave]
  · dsimp only
    rw [Function.update_self]
    exact mem_bridgeDependencies.mpr ⟨hmem, rfl⟩
  · rcases hother newBridge hold with hne | hne <;> exact hne rfl

/-- The two-instance conductor once `optionalBridge` is added: configured, and in the
conductor API of `i1`. -/
def oneBridgeConductor : Conductor :=
  { twoInstanceConductor with
    config := { twoInstanceConfig with bridges := [optionalBridge] }
    apiBridges := Function.update (fun _ => []) "i1" [optionalBridge] }

theorem removeBridge_addBridge_optionalBridge :
    twoInstanceConfig.Consistent readyEnv.loader readyEnv.dnaAddress readyEnv.debugFns ∧
      twoInstanceConductor.addBridge readyEnv optionalBridge = .ok (oneBridgeConductor, .ok ()) ∧
      readyEnv.saveConfig twoInstanceConfig = .ok () ∧
      oneBridgeConductor.removeBridge readyEnv "i1" "i2" =
        ({ oneBridgeConductor with config := twoInstanceConfig }, .ok ()) ∧
      optionalBridge ∈ oneBridgeConductor.apiBridges "i1" ∧ optionalBridge ∉ twoInstanceConfig.bridges :=
  have hc := (twoInstanceConductor_running readyEnv rfl).consistent
  have hadd : twoInstanceConductor.addBridge readyEnv optionalBridge =
      .ok (oneBridgeConductor, .ok ()) := rfl
  ⟨hc, hadd, rfl, removeBridge_addBridge hc hadd rfl⟩

end Conductor

end Holochain.Conductor
