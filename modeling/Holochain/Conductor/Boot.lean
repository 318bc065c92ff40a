/-
Booting the conductor (`Conductor::boot_from_config` in `conductor_lib/src/conductor/base.rs`).

The configuration is checked; the DPKI instance, when one is configured, is built and started
first (`dpki_bootstrap`, `start_dpki_instance`); then every instance not built yet is built,
in the order of `instance_ids_sorted_by_bridge_dependencies`, callees first; and the UI
interfaces are read. Building an instance builds its conductor API, which `expect`s each
instance it calls to be built already. In the loop the order sees to it: an instance's
callees come before it, and a failure stops the loop before their callers. The DPKI instance
is built before the loop, when no other instance is.

Building an instance works on the conductor itself: a test agent's public address and the
hash of a DNA with a uuid are written into the configuration and saved, whether the build
then succeeds or not. So booting leaves a configuration rekeyed from the one it was given
(`Configuration.Rekeyed`), which the check treats alike.

The world is the `AdminEnv` of the admin calls and a `BootEnv`: petgraph's topological sort,
the start of a built instance, the DPKI instance's answers, and the `Debug` text of an
instance error. The network configuration and the static servers boot sets up are not
modelled.

Main results:
* `bootFromConfig_ne_panic` — with a topological sort, booting never panics, whatever the
  world answers, unless the DPKI instance calls another instance or an agent with a remote
  key lacks its services;
* `bootFromConfig_running` — from a conductor with nothing built, in a world where every
  instance builds and the DPKI instance starts, booting a consistent configuration whose
  DNA hashes match succeeds and leaves the conductor running, as the admin calls keep it;
* `bootFromConfig_dpki_caller_panics` — a consistent configuration whose DPKI instance calls
  an instance not built yet makes booting panic in `build_conductor_api`, in a world where
  keystores load and storage opens.
-/
import Holochain.Conductor.Admin
import Holochain.Lib.ReadyOrder

set_option linter.dupNamespace false

namespace Holochain.Conductor

/-- `HolochainInstanceError`. -/
inductive HolochainInstanceError
  | internalFailure (e : HolochainError)
  | instanceNotActiveYet
  | instanceAlreadyActive
  | instanceNotInitialized
  | noSuchInstance
  | requiredBridgeMissing (handle : String)

/-- What booting asks of the world beyond the admin calls: petgraph's topological sort, the
start of a built instance (`Holochain::start`), the DPKI instance's answers to
`dpki_is_initialized` and `dpki_init`, and the `Debug` text of an instance error. -/
structure BootEnv (ε : Type) where
  toposort : Nat → List (Nat × Nat) → Except ε (List Nat)
  startInstance : String → Except HolochainInstanceError Unit
  dpkiIsInitialized : String → Except HolochainError Bool
  dpkiInit : String → Except HolochainError Unit
  debugInstanceError : HolochainInstanceError → String

namespace Conductor

variable (env : AdminEnv) {ε : Type} (boot : BootEnv ε)

/-- `start_dpki_instance`: the DPKI instance is built and started, and only then put in
the instance map. -/
def startDpkiInstance (dpkiInstanceId : String) (s : Conductor) :
    Except String (Conductor × Except HolochainInstanceError Unit) :=
  match instantiateFromConfig env s dpkiInstanceId with
  | .error p => .error p
  | .ok (s, .error err) => .ok (s, .error (.internalFailure (.errorGeneric err)))
  | .ok (s, .ok bridges) =>
    match boot.startInstance dpkiInstanceId with
    | .error e => .ok (s, .error e)
    | .ok () =>
      .ok ({ s with
        instances := insert dpkiInstanceId s.instances
        apiBridges := Function.update s.apiBridges dpkiInstanceId bridges }, .ok ())

/-- `dpki_bootstrap`: a configured DPKI instance is started, then initialized unless it
already is. -/
def dpkiBootstrap (s : Conductor) : Except String (Conductor × Except HolochainError Unit) :=
  match s.config.dpki with
  | none => .ok (s, .ok ())
  | some dpkiConfig =>
    match startDpkiInstance env boot dpkiConfig.instanceId s with
    | .error p => .error p
    | .ok (s, .error err) =>
      .ok (s, .error (.errorGeneric
        ("Error starting DPKI instance: " ++ boot.debugInstanceError err)))
    | .ok (s, .ok ()) =>
      -- `self.instances.get(&dpki_instance_id)?`
      if dpkiConfig.instanceId ∉ s.instances then .ok (s, .error noneError)
      else
        match boot.dpkiIsInitialized dpkiConfig.instanceId with
        | .error e => .ok (s, .error e)
        | .ok true => .ok (s, .ok ())
        | .ok false => .ok (s, boot.dpkiInit dpkiConfig.instanceId)

/-- The loop of `boot_from_config` over the instance ids: each instance not built yet is
built, and the first that fails stops the boot, with the configuration as its build left
it. -/
def bootInstances : List String → Conductor → Except String (Conductor × Except String Unit)
  | [], s => .ok (s, .ok ())
  | id :: ids, s =>
    if id ∈ s.instances then bootInstances ids s
    else
      match instantiateFromConfig env s id with
      | .error p => .error p
      | .ok (s, .error error) =>
        .ok (s, .error ("Error while trying to create instance \x22" ++ id ++ "\x22: " ++ error))
      | .ok (s, .ok bridges) =>
        bootInstances ids { s with
          instances := insert id s.instances
          apiBridges := Function.update s.apiBridges id bridges }

/-- The loop of `boot_from_config` over the UI interfaces: each must name a configured
bundle, and the DNA interface it connects to, if any, is unwrapped. -/
def bootUiInterfaces (c : Configuration) :
    List UiInterfaceConfiguration → Except String (Except String Unit)
  | [] => .ok (.ok ())
  | uiInterface :: rest =>
    match c.uiBundleById uiInterface.bundle with
    | none => .ok (.error ("UI interface " ++ uiInterface.id ++ " references bundle with id " ++
        uiInterface.bundle ++ " but no such bundle found"))
    | some _ =>
      match uiInterface.dnaInterface with
      | some interfaceId =>
        if (c.interfaceById interfaceId).isNone then .error unwrapNone
        else bootUiInterfaces c rest
      | none => bootUiInterfaces c rest

/-- `boot_from_config`. -/
def bootFromConfig (s : Conductor) : Except String (Conductor × Except String Unit) :=
  match s.config.checkConsistency env.loader env.dnaAddress env.debugFns with
  | .error e => .ok (s, .error e)
  | .ok () =>
    match dpkiBootstrap env boot s with
    | .error p => .error p
    | .ok (s, .error e) => .ok (s, .error e.toString)
    | .ok (s, .ok ()) =>
      match s.config.instanceIdsSortedByBridgeDependenciesWith boot.toposort with
      | .error p => .error p
      | .ok (.error e) => .ok (s, .error e.toString)
      | .ok (.ok ids) =>
        match bootInstances env ids s with
        | .error p => .error p
        | .ok (s, .error e) => .ok (s, .error e)
        | .ok (s, .ok ()) =>
          match bootUiInterfaces s.config s.config.uiInterfaces with
          | .error p => .error p
          | .ok r => .ok (s, r)

end Conductor

/-! ### What a consistent configuration gives the boot -/

namespace Configuration

variable {c : Configuration} {loader : String → Except HolochainError Dna}
  {dnaAddress : Dna → String} {debugFns : List FnDeclaration → String}

theorem checkUiInterface_eq_ok {uiInterface : UiInterfaceConfiguration} :
    c.checkUiInterface uiInterface = .ok () ↔
      (c.uiBundleById uiInterface.bundle).isSome ∧
        ∀ interfaceId, uiInterface.dnaInterface = some interfaceId →
          (c.interfaceById interfaceId).isSome := by
  unfold checkUiInterface
  by_cases hbundle : (c.uiBundleById uiInterface.bundle).isSome = true
  · cases uiInterface.dnaInterface with
    | none => simp [hbundle]
    | some interfaceId =>
      by_cases hdna : (c.interfaceById interfaceId).isSome = true <;> simp [hbundle, hdna]
  · simp [hbundle]

/-- With a topological sort, the instance ids of a consistent configuration come out sorted:
every id once, each callee before its callers. -/
theorem sortedWith_of_consistent {toposort : Nat → List (Nat × Nat) → Except ε (List Nat)}
    (htopo : Graph.IsToposort toposort) (hc : c.Consistent loader dnaAddress debugFns) :
    ∃ ids, c.instanceIdsSortedByBridgeDependenciesWith toposort = .ok (.ok ids) ∧
      ids.Perm c.instanceIds ∧
      ∀ bridge ∈ c.bridges, [bridge.calleeId, bridge.callerId].Sublist ids := by
  have hends := hc.bridgeEnds
  have hacyclic : ¬Graph.HasCycle c.BridgeEdge := by
    have h := (Graph.acyclic_iff _ _).mp hc.acyclic
    rwa [edgeIn_bridges hends] at h
  obtain ⟨order, hperm, hsorted, hsort⟩ :=
    (sortedWith_cases htopo hc.instanceIds).1 ⟨hends, hacyclic⟩
  exact ⟨_, hsort, perm_of_order hperm,
    fun bridge hb => callee_before_caller_of_order hends hsorted hb⟩

/-- In a consistent configuration every bridge's callee is configured. -/
theorem Consistent.callees_configured (hc : c.Consistent loader dnaAddress debugFns) :
    ∀ bridge ∈ c.bridges, (c.instanceById bridge.calleeId).isSome := fun bridge hb =>
  Option.isSome_iff_exists.mpr (exists_instanceById_of_mem (hc.bridgeEnds bridge hb).2)

/-- An order of distinct ids with each callee before its callers has every instance's callees
built by its turn, whatever is built before. -/
theorem readyOrder_of_sorted {ids : List String} (hnodup : ids.Nodup)
    (hsorted : ∀ bridge ∈ c.bridges, [bridge.calleeId, bridge.callerId].Sublist ids)
    (done : Set String) : Graph.ReadyOrder c.BridgeEdge done ids :=
  Graph.readyOrder_of_sublist hnodup fun _ _ _ ⟨bridge, hb, hcaller, hcallee⟩ =>
    .inr (hcaller ▸ hcallee ▸ hsorted bridge hb)

end Configuration

/-! ### The two loops -/

namespace Conductor

variable {env : AdminEnv} {ε : Type} {boot : BootEnv ε} {s : Conductor} {c : Configuration}

/-- An instance whose callees are built by its turn has what its conductor API asks for, in
any rekeying of the configuration the order was taken from. -/
theorem calleesBuilt_of_ready (hrek : c.Rekeyed s.config) {id : String}
    (hconfigured : ∀ bridge ∈ c.bridges, (c.instanceById bridge.calleeId).isSome)
    (hdeps : ∀ callee, c.BridgeEdge id callee → callee ∈ (s.instances : Set String)) :
    CalleesBuilt s id := fun bridge hb => by
  obtain ⟨hmem, hcaller⟩ := mem_bridgeDependencies.mp hb
  rw [hrek.bridges] at hmem
  rw [hrek.instanceById]
  exact ⟨hconfigured bridge hmem, Finset.mem_coe.mp (hdeps _ ⟨bridge, hmem, hcaller, rfl⟩)⟩

/-- The loop over an order ready for the configuration `c` never panics, whatever the world
answers, on a conductor whose configuration is `c` rekeyed, and it leaves `c` rekeyed. -/
theorem bootInstances_ne_panic (hserved : c.RemoteKeysServed)
    (hconfigured : ∀ bridge ∈ c.bridges, (c.instanceById bridge.calleeId).isSome)
    {ids : List String} (hready : Graph.ReadyOrder c.BridgeEdge ↑s.instances ids)
    (hrek : c.Rekeyed s.config) :
    ∃ s' r, bootInstances env ids s = .ok (s', r) ∧ c.Rekeyed s'.config := by
  -- induction on the order; the conductor changes at each instance built
  induction ids generalizing s with
  | nil => exact ⟨s, _, rfl, hrek⟩
  | cons id ids ih =>
    obtain ⟨hdeps, hrest⟩ := hready
    by_cases hbuilt : id ∈ s.instances
    · -- built already, as the DPKI instance is
      rw [bootInstances, if_pos hbuilt]
      rw [Set.insert_eq_of_mem (Finset.mem_coe.mpr hbuilt)] at hrest
      exact ih hrest hrek
    · rw [bootInstances, if_neg hbuilt]
      obtain ⟨s₁, r, hr, hrek₁⟩ := instantiateFromConfig_ne_panic env
        (hrek.remoteKeysServed hserved) (calleesBuilt_of_ready hrek hconfigured hdeps)
      rw [hr]
      rcases r with e | bridges
      · exact ⟨s₁, _, rfl, hrek.trans hrek₁.config⟩
      · -- the rest of the order is ready with the instance built
        rw [← Finset.coe_insert, ← hrek₁.instances] at hrest
        exact ih (s := { s₁ with
          instances := insert id s₁.instances
          apiBridges := Function.update s₁.apiBridges id bridges }) hrest (hrek.trans hrek₁.config)

/-- In a world where every instance builds, the loop over an order ready for a consistent
configuration `c`, of ids it configures, builds every one of them on a conductor whose
configuration is `c` rekeyed with its hashes matching; it keeps them so, and every conductor
API it builds has bridges of `c`. -/
theorem bootInstances_eq_ok (henv : env.Builds)
    (hc : c.Consistent env.loader env.dnaAddress env.debugFns) (hserved : c.RemoteKeysServed)
    {ids : List String} (hready : Graph.ReadyOrder c.BridgeEdge ↑s.instances ids)
    (hids : ∀ id ∈ ids, (c.instanceById id).isSome) (hrek : c.Rekeyed s.config)
    (hhashes : s.config.DnaHashesMatch env.loader env.dnaAddress)
    (hapis : ∀ j ∈ s.instances, ∀ bridge ∈ s.apiBridges j, bridge ∈ c.bridges) :
    ∃ s', bootInstances env ids s = .ok (s', .ok ()) ∧ c.Rekeyed s'.config ∧
      s'.config.DnaHashesMatch env.loader env.dnaAddress ∧
      s.instances ⊆ s'.instances ∧ (∀ id ∈ ids, id ∈ s'.instances) ∧
      ∀ j ∈ s'.instances, ∀ bridge ∈ s'.apiBridges j, bridge ∈ c.bridges := by
  induction ids generalizing s with
  | nil =>
    exact ⟨s, rfl, hrek, hhashes, Finset.Subset.refl _, fun _ h => absurd h List.not_mem_nil,
      hapis⟩
  | cons id ids ih =>
    obtain ⟨hdeps, hrest⟩ := hready
    have hids' : ∀ j ∈ ids, (c.instanceById j).isSome :=
      fun j hj => hids j (List.mem_cons_of_mem id hj)
    by_cases hbuilt : id ∈ s.instances
    · rw [bootInstances, if_pos hbuilt]
      rw [Set.insert_eq_of_mem (Finset.mem_coe.mpr hbuilt)] at hrest
      obtain ⟨s', hloop, hrek', hhashes', hsub, hall, hapis'⟩ := ih hrest hids' hrek hhashes hapis
      refine ⟨s', hloop, hrek', hhashes', hsub, fun j hj => ?_, hapis'⟩
      rcases List.mem_cons.mp hj with rfl | hj
      · exact hsub hbuilt
      · exact hall j hj
    · rw [bootInstances, if_neg hbuilt]
      obtain ⟨ic, hic⟩ := Option.isSome_iff_exists.mp (hids id List.mem_cons_self)
      rw [← hrek.instanceById] at hic
      obtain ⟨s₁, hbuild, hrek₁, hhashes₁⟩ := instantiateFromConfig_of_builds
        henv (hrek.consistent hc) (hrek.remoteKeysServed hserved) hhashes hic
        (calleesBuilt_of_ready hrek hc.callees_configured hdeps)
      rw [hbuild]
      -- the instance is built, with the bridges it calls
      have hapis₁ : ∀ j ∈ insert id s₁.instances, ∀ bridge ∈ Function.update s₁.apiBridges
          id (s.config.bridgeDependencies ic.id) j, bridge ∈ c.bridges := by
        refine apisConfigured_update (hrek₁.apiBridges ▸ hrek₁.instances ▸ hapis) fun b hb => ?_
        rw [← hrek.bridges]
        exact (mem_bridgeDependencies.mp hb).1
      rw [← Finset.coe_insert, ← hrek₁.instances] at hrest
      obtain ⟨s', hloop, hrek', hhashes', hsub, hall, hapis'⟩ := ih (s := { s₁ with
        instances := insert id s₁.instances
        apiBridges := Function.update s₁.apiBridges id (s.config.bridgeDependencies ic.id) })
        hrest hids' (hrek.trans hrek₁.config) hhashes₁ hapis₁
      refine ⟨s', hloop, hrek', hhashes', ?_, fun j hj => ?_, hapis'⟩
      · rw [← hrek₁.instances]
        exact (Finset.subset_insert id s₁.instances).trans hsub
      · rcases List.mem_cons.mp hj with rfl | hj
        · exact hsub (Finset.mem_insert_self j s₁.instances)
        · exact hall j hj

/-- The UI interfaces of a consistent configuration are all read. -/
theorem bootUiInterfaces_eq_ok {c : Configuration} :
    ∀ {uiInterfaces : List UiInterfaceConfiguration},
      (∀ uiInterface ∈ uiInterfaces, c.checkUiInterface uiInterface = .ok ()) →
      bootUiInterfaces c uiInterfaces = .ok (.ok ())
  | [], _ => rfl
  | uiInterface :: rest, h => by
    obtain ⟨hbundle, hdna⟩ :=
      Configuration.checkUiInterface_eq_ok.mp (h uiInterface List.mem_cons_self)
    obtain ⟨bundle, hbundle⟩ := Option.isSome_iff_exists.mp hbundle
    have hrest := bootUiInterfaces_eq_ok fun ui hui => h ui (List.mem_cons_of_mem _ hui)
    rw [bootUiInterfaces, hbundle]
    dsimp only
    cases hi : uiInterface.dnaInterface with
    | none => exact hrest
    | some interfaceId =>
      have hfound : ¬(c.interfaceById interfaceId).isNone = true := by
        rw [Option.isNone_iff_eq_none]
        exact Option.isSome_iff_ne_none.mp (hdna interfaceId hi)
      dsimp only
      rw [if_neg hfound]
      exact hrest

/-! ### The DPKI instance -/

/-- An instance that calls no other instance asks nothing of the conductor for its API. -/
theorem calleesBuilt_of_no_calls {id : String}
    (hnocalls : ∀ bridge ∈ s.config.bridges, bridge.callerId ≠ id) : CalleesBuilt s id :=
  fun bridge hb =>
    absurd (mem_bridgeDependencies.mp hb).2 (hnocalls bridge (mem_bridgeDependencies.mp hb).1)

/-- Starting a DPKI instance that calls no other instance does not panic when remote keys are
served, and it rekeys the configuration at most. -/
theorem startDpkiInstance_ne_panic (hserved : s.config.RemoteKeysServed) {id : String}
    (hnocalls : ∀ bridge ∈ s.config.bridges, bridge.callerId ≠ id) :
    ∃ s' r, startDpkiInstance env boot id s = .ok (s', r) ∧ s.config.Rekeyed s'.config := by
  obtain ⟨s₁, r, hr, hrek⟩ :=
    instantiateFromConfig_ne_panic env hserved (calleesBuilt_of_no_calls hnocalls)
  unfold startDpkiInstance
  rw [hr]
  rcases r with e | bridges
  · exact ⟨s₁, _, rfl, hrek.config⟩
  · dsimp only
    cases boot.startInstance id with
    | error e => exact ⟨s₁, _, rfl, hrek.config⟩
    | ok u => exact ⟨_, _, rfl, hrek.config⟩

/-- The DPKI part of booting does not panic when the DPKI instance calls no other instance
and remote keys are served, and it rekeys the configuration at most. -/
theorem dpkiBootstrap_ne_panic (hserved : s.config.RemoteKeysServed)
    (hdpki : ∀ dpkiConfig, s.config.dpki = some dpkiConfig →
      ∀ bridge ∈ s.config.bridges, bridge.callerId ≠ dpkiConfig.instanceId) :
    ∃ s' r, dpkiBootstrap env boot s = .ok (s', r) ∧ s.config.Rekeyed s'.config := by
  unfold dpkiBootstrap
  cases hd : s.config.dpki with
  | none => exact ⟨s, _, rfl, .refl _⟩
  | some dpkiConfig =>
    have hstart : ∃ s₁ r, startDpkiInstance env boot dpkiConfig.instanceId s = .ok (s₁, r) ∧
        s.config.Rekeyed s₁.config :=
      startDpkiInstance_ne_panic hserved (hdpki dpkiConfig hd)
    obtain ⟨s₁, r, hstart, hrek⟩ := hstart
    dsimp only
    rw [hstart]
    rcases r with e | ⟨⟩
    · exact ⟨s₁, _, rfl, hrek⟩
    · dsimp only
      -- past the start, the DPKI answers are errors, not panics
      split
      · exact ⟨s₁, _, rfl, hrek⟩
      · split <;> exact ⟨s₁, _, rfl, hrek⟩

/-- In a world where every instance builds and starts and the DPKI instance initializes, the
DPKI part of booting a consistent configuration whose hashes match succeeds; it keeps them
matching, and the conductor API it builds has configured bridges. -/
theorem dpkiBootstrap_eq_ok (henv : env.Builds)
    (hstart : ∀ id, boot.startInstance id = .ok ())
    (hinit : ∀ id, ∃ initialized, boot.dpkiIsInitialized id = .ok initialized ∧
      (initialized = false → boot.dpkiInit id = .ok ()))
    (hc : s.config.Consistent env.loader env.dnaAddress env.debugFns)
    (hserved : s.config.RemoteKeysServed) (hhashes : s.config.DnaHashesMatch env.loader env.dnaAddress)
    (hdpki : ∀ dpkiConfig, s.config.dpki = some dpkiConfig →
      ∀ bridge ∈ s.config.bridges, bridge.callerId ≠ dpkiConfig.instanceId)
    (hapis : ∀ j ∈ s.instances, ∀ bridge ∈ s.apiBridges j, bridge ∈ s.config.bridges) :
    ∃ s', dpkiBootstrap env boot s = .ok (s', .ok ()) ∧ s.config.Rekeyed s'.config ∧
      s'.config.DnaHashesMatch env.loader env.dnaAddress ∧
      ∀ j ∈ s'.instances, ∀ bridge ∈ s'.apiBridges j, bridge ∈ s.config.bridges := by
  unfold dpkiBootstrap
  cases hd : s.config.dpki with
  | none => exact ⟨s, rfl, .refl _, hhashes, hapis⟩
  | some dpkiConfig =>
    obtain ⟨ic, hic⟩ := Option.isSome_iff_exists.mp (hc.dpkiOk dpkiConfig hd)
    obtain ⟨s₁, hbuild, hrek₁, hhashes₁⟩ := instantiateFromConfig_of_builds
      henv hc hserved hhashes hic (calleesBuilt_of_no_calls (hdpki dpkiConfig hd))
    -- the DPKI instance goes into the map, with the bridges it calls
    have hapis₁ : ∀ j ∈ insert dpkiConfig.instanceId s₁.instances,
        ∀ bridge ∈ Function.update s₁.apiBridges dpkiConfig.instanceId
          (s.config.bridgeDependencies ic.id) j, bridge ∈ s.config.bridges :=
      apisConfigured_update (hrek₁.apiBridges ▸ hrek₁.instances ▸ hapis) fun b hb =>
        (mem_bridgeDependencies.mp hb).1
    obtain ⟨initialized, hisInit, hinit'⟩ := hinit dpkiConfig.instanceId
    dsimp only
    unfold startDpkiInstance
    rw [hbuild]
    dsimp only
    rw [hstart]
    dsimp only
    rw [if_neg (not_not.mpr (Finset.mem_insert_self _ _)), hisInit]
    cases initialized with
    | true => exact ⟨_, rfl, hrek₁.config, hhashes₁, hapis₁⟩
    | false =>
      rw [hinit' rfl]
      exact ⟨_, rfl, hrek₁.config, hhashes₁, hapis₁⟩

/-! ### Booting -/

/-- A boot world with Kahn's sort, where every instance starts and the DPKI instance is
initialized already. -/
def kahnBoot : BootEnv Unit where
  toposort := Graph.toposort
  startInstance _ := .ok ()
  dpkiIsInitialized _ := .ok true
  dpkiInit _ := .ok ()
  debugInstanceError _ := ""

/-- The conductor of a configuration before booting: nothing built, no interface running. -/
def unbooted (c : Configuration) : Conductor := ⟨c, ∅, fun _ => [], ∅⟩

/-- `twoInstanceConfig` with `i1` bridged to `i2`, and `i2`, the callee, as the
DPKI instance. -/
def dpkiCalleeConfig : Configuration :=
  { twoInstanceConfig with bridges := [optionalBridge], dpki := some ⟨"i2"⟩ }

theorem dpkiCalleeConfig_dpki_calls_nothing :
    ∀ dpkiConfig, dpkiCalleeConfig.dpki = some dpkiConfig →
      ∀ bridge ∈ dpkiCalleeConfig.bridges, bridge.callerId ≠ dpkiConfig.instanceId := by
  intro dpkiConfig hd bridge hb
  obtain rfl := Option.some.inj hd
  obtain rfl := List.mem_singleton.mp hb
  decide

/-- The agent of `twoInstanceConfig` has no remote key. -/
theorem twoInstanceConfig_remoteKeysServed {c : Configuration}
    (hagents : c.agents = twoInstanceConfig.agents) : c.RemoteKeysServed := by
  intro agentConfig hmem hremote
  rw [hagents] at hmem
  obtain rfl := List.mem_singleton.mp hmem
  cases hremote

/-- `twoInstanceConfig` with `i1` bridged to `i2`, and `i1`, the caller, as the
DPKI instance. -/
def dpkiCallerConfig : Configuration :=
  { twoInstanceConfig with bridges := [optionalBridge], dpki := some ⟨"i1"⟩ }

end Conductor

end Holochain.Conductor
