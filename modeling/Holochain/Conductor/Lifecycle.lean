/-
Starting and stopping the conductor's instances: the lifecycle of one instance (`Holochain` in
`conductor_lib/src/holochain.rs`) and the `Conductor`'s `start_instance`, `stop_instance`,
`start_all_instances` and `stop_all_instances` (`conductor/base.rs`), over the configuration
and the instance map.

An instance is started only when each required bridge of its DNA has an active callee. That
callee is the one of the first configured bridge with the bridge's handle, whichever instance
calls through it, as `check_consistency` finds the bridge too; its lock is taken for reading
while the instance's own is held for writing. Starting all instances goes through the
configured instances in the configuration's order, not in the order of their bridges that
booting builds them in, and an instance already active counts as started.

Main results:
* `startInstance_eq_ok_iff` — starting an instance succeeds exactly when it is built, set up,
  inactive and has its DNA, and each required handle finds a bridge to another instance that
  is active; only that instance changes, and it becomes active;
* `startAllInstances_of_callees_first` — when each required handle of a configured instance
  finds a bridge to another instance, active already or configured before it, starting all
  instances succeeds and activates exactly the configured ones;
* `startAllInstances_caller_first` — an instance configured before the callee of one of its
  required bridges, while that callee is not active, makes starting all instances fail;
* `lifecycle_runs_keep_bridgesLive` — through every run of the lifecycle calls but
  `stop_instance`, each active instance keeps the callees of its required bridges active;
* `bridgesLive_stopInstance_iff` — stopping an active instance keeps that exactly when no
  other active instance calls it through a required bridge.
-/
import Holochain.Conductor.Boot
import Holochain.Lib.Run

set_option linter.dupNamespace false

namespace Holochain.Conductor

/-- A `Holochain` instance, as starting and stopping it sees it: whether its `instance` and
`context` are set (`new` and `load` set both, `kill` clears both), the DNA in its state's
nucleus, and whether it is active. -/
structure Holochain where
  initialized : Bool
  dna : Option Dna
  active : Bool
  deriving DecidableEq, Repr

namespace Holochain

/-- `check_instance`. -/
def checkInstance (hc : Holochain) : Except HolochainInstanceError Unit :=
  if hc.initialized then .ok () else .error .instanceNotInitialized

/-- `check_active`. -/
def checkActive (hc : Holochain) : Except HolochainInstanceError Unit :=
  if hc.active then .ok () else .error .instanceNotActiveYet

/-- `start`. -/
def start (hc : Holochain) : Holochain × Except HolochainInstanceError Unit :=
  match hc.checkInstance with
  | .error e => (hc, .error e)
  | .ok () =>
    if hc.active then (hc, .error .instanceAlreadyActive) else ({ hc with active := true }, .ok ())

/-- `stop`. Shutting the instance's network down only logs its error. -/
def stop (hc : Holochain) : Holochain × Except HolochainInstanceError Unit :=
  match hc.checkInstance >>= fun () => hc.checkActive with
  | .error e => (hc, .error e)
  | .ok () => ({ hc with active := false }, .ok ())

theorem checkInstance_eq_ok {hc : Holochain} : hc.checkInstance = .ok () ↔ hc.initialized = true := by
  unfold checkInstance
  cases hc.initialized <;> simp

theorem checkInstance_eq_error {hc : Holochain} {e : HolochainInstanceError}
    (h : hc.checkInstance = .error e) : e = .instanceNotInitialized := by
  unfold checkInstance at h
  split at h
  · cases h
  · exact (Except.error.inj h).symm

/-- A set-up instance becomes active; it was already when it answers so. -/
theorem start_of_initialized {hc : Holochain} (h : hc.initialized = true) :
    hc.start = ({ hc with active := true },
      if hc.active then .error .instanceAlreadyActive else .ok ()) := by
  obtain ⟨initialized, dna, active⟩ := hc
  subst h
  cases active <;> rfl

/-- A set-up instance becomes inactive; it must have been active for the stop to succeed. -/
theorem stop_of_initialized {hc : Holochain} (h : hc.initialized = true) :
    hc.stop = ({ hc with active := false },
      if hc.active then .ok () else .error .instanceNotActiveYet) := by
  obtain ⟨initialized, dna, active⟩ := hc
  subst h
  cases active <;> rfl

end Holochain

/-- The instance map `instances` of a conductor: the instance each built id maps to. -/
abbrev InstanceMap := String → Option Holochain

/-- Whether the instance map holds an active instance under the id. -/
def isActive (instances : InstanceMap) (id : String) : Bool :=
  match instances id with
  | some inst => inst.active
  | none => false

theorem isActive_of_some {instances : InstanceMap} {id : String} {inst : Holochain}
    (h : instances id = some inst) : isActive instances id = inst.active := by
  simp [isActive, h]

theorem exists_of_isActive {instances : InstanceMap} {id : String}
    (h : isActive instances id = true) : ∃ inst, instances id = some inst ∧
      inst.active = true := by
  unfold isActive at h
  split at h
  · exact ⟨_, ‹_›, h⟩
  · cases h

/-- The panic of the standard library's `RwLock::read` on a lock that its own thread holds for
writing. -/
def readLockDeadlock : String := "rwlock read lock would result in deadlock"

/-- The callee of the first configured bridge with the handle, whichever instance calls
through it: the bridge that `start_instance` and `check_consistency` find for a required
bridge of a DNA. -/
def Configuration.calleeByHandle (c : Configuration) (handle : String) : Option String :=
  (c.bridges.find? fun b => b.handle == handle).map fun bridge => bridge.calleeId

/-- The handles of the required bridges of a DNA, zome by zome. -/
def Dna.requiredHandles (dna : Dna) : List String :=
  (dna.zomes.flatMap fun zome => zome.2.bridges).filterMap fun bridge =>
    if bridge.presence = .required then some bridge.handle else none

section Lifecycle

variable (config : Configuration)

/-! ### The calls -/

/-- What `start_instance` asks of one bridge of the instance's DNA: nothing of an optional one;
of a required one, that the first configured bridge with its handle calls an instance that is
built and active. The callee's lock is taken for reading while `start_instance` holds the
instance's own for writing, which panics when the two are one lock. -/
def requiredBridgeStarted (instances : InstanceMap) (id : String) (bridge : DnaBridge) :
    Except String (Except HolochainInstanceError Unit) :=
  if bridge.presence = .required then
    match config.calleeByHandle bridge.handle with
    | none => .ok (.error (.requiredBridgeMissing bridge.handle))
    | some calleeId =>
      match instances calleeId with
      | none => .ok (.error (.requiredBridgeMissing bridge.handle))
      | some callee =>
        if calleeId = id then .error readLockDeadlock
        else if callee.active then .ok (.ok ())
        else .ok (.error (.requiredBridgeMissing bridge.handle))
  else .ok (.ok ())

/-- The loops of `start_instance` over the zomes of the DNA and their bridges: the first bridge
whose check fails ends them. -/
def requiredBridgesStarted (instances : InstanceMap) (id : String) :
    List DnaBridge → Except String (Except HolochainInstanceError Unit)
  | [] => .ok (.ok ())
  | bridge :: bridges =>
    match requiredBridgeStarted config instances id bridge with
    | .ok (.ok ()) => requiredBridgesStarted instances id bridges
    | r => r

/-- `start_instance`: the instance must be built and set up, with a DNA whose required bridges
have active callees; then it is started. -/
def startInstance (instances : InstanceMap) (id : String) :
    Except String (InstanceMap × Except HolochainInstanceError Unit) :=
  match instances id with
  | none => .ok (instances, .error .noSuchInstance)
  | some inst =>
    match inst.checkInstance with
    | .error e => .ok (instances, .error e)
    | .ok () =>
      match inst.dna with
      | none => .ok (instances, .error (.internalFailure .dnaMissing))
      | some dna =>
        match requiredBridgesStarted config instances id
            (dna.zomes.flatMap fun zome => zome.2.bridges) with
        | .error p => .error p
        | .ok (.error e) => .ok (instances, .error e)
        | .ok (.ok ()) =>
          match inst.start with
          | (started, r) => .ok (Function.update instances id (some started), r)

/-- `stop_instance`. -/
def stopInstance (instances : InstanceMap) (id : String) :
    InstanceMap × Except HolochainInstanceError Unit :=
  match instances id with
  | none => (instances, .error .noSuchInstance)
  | some inst =>
    match inst.stop with
    | (stopped, r) => (Function.update instances id (some stopped), r)

/-- What `start_all_instances` makes of one instance's start: an instance already active counts
as started. -/
def continuesStart : Except HolochainInstanceError Unit → Bool
  | .ok () | .error .instanceAlreadyActive => true
  | .error _ => false

/-- The loop of `start_all_instances`: the instances are started one by one, and the first
that fails ends the loop, as collecting into a `Result` does. -/
def startInstances (instances : InstanceMap) :
    List String → Except String (InstanceMap × Except HolochainInstanceError Unit)
  | [] => .ok (instances, .ok ())
  | id :: ids =>
    match startInstance config instances id with
    | .error p => .error p
    | .ok (instances, r) => if continuesStart r then startInstances instances ids else .ok (instances, r)

/-- `start_all_instances`: the configured instances, in the configuration's order. -/
def startAllInstances (instances : InstanceMap) :
    Except String (InstanceMap × Except HolochainInstanceError Unit) :=
  startInstances config instances config.instanceIds

/-- `stop_all_instances`: every instance is stopped, and a failure to stop one is ignored. -/
def stopAllInstances (instances : InstanceMap) : InstanceMap × Except HolochainInstanceError Unit :=
  (fun id => (instances id).map fun inst => inst.stop.1, .ok ())

/-- The calls that start and stop instances: `admin/instance/start` and `admin/instance/stop`
of the admin interface, and starting and stopping them all, as the conductor's binary does
once booted and on shutdown. -/
inductive LifecycleCall
  | start (id : String)
  | stop (id : String)
  | startAll
  | stopAll

/-- A call on an instance map: the map it leaves, whether it succeeds or not; none when it
panics. -/
def LifecycleCall.run : LifecycleCall → InstanceMap → Option InstanceMap
  | .start id, instances =>
    match startInstance config instances id with
    | .ok (instances, _) => some instances
    | .error _ => none
  | .stop id, instances => some (stopInstance instances id).1
  | .startAll, instances =>
    match startAllInstances config instances with
    | .ok (instances, _) => some instances
    | .error _ => none
  | .stopAll, instances => some (stopAllInstances instances).1

/-- The lifecycle calls as a transition system. -/
def LifecycleStep (instances : InstanceMap) (call : LifecycleCall) (instances' : InstanceMap) :
    Prop :=
  call.run config instances = some instances'

/-- Whether the call is a `stop_instance`. -/
def LifecycleCall.stopsInstance : LifecycleCall → Bool
  | .stop _ => true
  | _ => false

/-! ### What starting an instance asks -/

/-- Each required handle of the DNA finds a bridge to another instance, built and active: what
`start_instance` asks before it starts the instance `id`. -/
def RequiredCalleesActive (instances : InstanceMap) (id : String) (dna : Dna) : Prop :=
  ∀ handle ∈ dna.requiredHandles, ∃ calleeId, config.calleeByHandle handle = some calleeId ∧
    calleeId ≠ id ∧ isActive instances calleeId = true

/-- The calls `start_instance` checks: the instance `id` has a required handle whose first
bridge calls `calleeId`. -/
def CallsByHandle (instances : InstanceMap) (id calleeId : String) : Prop :=
  ∃ inst dna, instances id = some inst ∧ inst.dna = some dna ∧
    ∃ handle ∈ dna.requiredHandles, config.calleeByHandle handle = some calleeId

/-- The instances of the map, with those of the ids activated. -/
def markActive (instances : InstanceMap) (ids : List String) : InstanceMap := fun j =>
  if j ∈ ids then (instances j).map fun inst => { inst with active := true } else instances j

/-- Each instance of the second map is the one of the first, or that one activated. -/
def Activated (instances instances' : InstanceMap) : Prop :=
  ∀ j, instances' j = instances j ∨
    ∃ inst, instances j = some inst ∧ instances' j = some { inst with active := true }

/-- Every instance of the map is set up, and every active one has, for each required handle of
its DNA, the first bridge with the handle calling an active instance: what `start_instance`
asked when it started it. -/
structure BridgesLive (instances : InstanceMap) : Prop where
  initialized : ∀ id inst, instances id = some inst → inst.initialized = true
  calleesActive : ∀ id inst, instances id = some inst → inst.active = true →
    ∀ dna, inst.dna = some dna → ∀ handle ∈ dna.requiredHandles,
      ∃ calleeId, config.calleeByHandle handle = some calleeId ∧ isActive instances calleeId = true

variable {config} {instances instances' : InstanceMap} {id : String}

/-! ### Two instances, one calling the other -/

/-- A DNA whose zome requires a bridge with the handle `callee`. -/
def callingDna : Dna := ⟨"", [("zome", ⟨[], [], [⟨.required, "callee", .trait []⟩]⟩)]⟩

/-- A DNA whose zome has no bridges. -/
def calledDna : Dna := ⟨"", [("zome", ⟨[], [], []⟩)]⟩

theorem callingDna_requiredHandles : callingDna.requiredHandles = ["callee"] := rfl

theorem calledDna_requiredHandles : calledDna.requiredHandles = [] := rfl

/-- The instances `callee` and `caller`, configured in this order, the second calling the
first through a bridge with the handle `callee`. -/
def calleeFirstConfig : Configuration :=
  ⟨[⟨"a", "a", "HcSCa", "a.keystore", none, none⟩], [⟨"d", "f", "QmDna", none⟩],
    [⟨"callee", "d", "a", .memory⟩, ⟨"caller", "d", "a", .memory⟩], [],
    [⟨"caller", "callee", "callee"⟩], [], [], none, none, none, none⟩

/-- The same instances, configured caller first. -/
def callerFirstConfig : Configuration :=
  { calleeFirstConfig with instances := calleeFirstConfig.instances.reverse }

/-- The instances `caller` and `callee` built and set up, each active or not. -/
def twoInstances (callerActive calleeActive : Bool) : InstanceMap := fun id =>
  if id = "caller" then some ⟨true, some callingDna, callerActive⟩
  else if id = "callee" then some ⟨true, some calledDna, calleeActive⟩
  else none

theorem twoInstances_eq_some {callerActive calleeActive : Bool} {j : String} {inst : Holochain}
    (h : twoInstances callerActive calleeActive j = some inst) :
    (j = "caller" ∧ inst = ⟨true, some callingDna, callerActive⟩) ∨
      (j = "callee" ∧ inst = ⟨true, some calledDna, calleeActive⟩) := by
  unfold twoInstances at h
  split_ifs at h with hcaller hcallee
  · exact .inl ⟨hcaller, (Option.some.inj h).symm⟩
  · exact .inr ⟨hcallee, (Option.some.inj h).symm⟩

/-- The two instances keep the caller's callee active whenever the caller is. -/
theorem twoInstances_bridgesLive {callerActive calleeActive : Bool}
    (h : callerActive = true → calleeActive = true) :
    BridgesLive calleeFirstConfig (twoInstances callerActive calleeActive) := by
  constructor
  · intro j inst hj
    rcases twoInstances_eq_some hj with ⟨-, rfl⟩ | ⟨-, rfl⟩ <;> rfl
  · intro j inst hj hactive dna hdna handle hhandle
    rcases twoInstances_eq_some hj with ⟨-, rfl⟩ | ⟨-, rfl⟩
    · rw [Option.some.injEq] at hdna
      subst hdna
      rw [callingDna_requiredHandles, List.mem_singleton] at hhandle
      subst hhandle
      exact ⟨"callee", rfl, by simpa [isActive, twoInstances] using h hactive⟩
    · rw [Option.some.injEq] at hdna
      subst hdna
      rw [calledDna_requiredHandles] at hhandle
      cases hhandle

/-- Both instances running the DNA that requires a bridge with the handle `callee`. -/
def sameDnaInstances : InstanceMap := fun id =>
  if id = "caller" ∨ id = "callee" then some ⟨true, some callingDna, false⟩ else none

theorem requiredBridgeStarted_eq_ok_ok {bridge : DnaBridge} :
    requiredBridgeStarted config instances id bridge = .ok (.ok ()) ↔
      (bridge.presence = .required → ∃ calleeId, config.calleeByHandle bridge.handle = some calleeId ∧
        calleeId ≠ id ∧ isActive instances calleeId = true) := by
  unfold requiredBridgeStarted
  by_cases hrequired : bridge.presence = .required
  · rw [if_pos hrequired, imp_iff_right hrequired]
    cases hcallee : config.calleeByHandle bridge.handle with
    | none => simp
    | some calleeId =>
      simp only [Option.some.injEq, exists_eq_left']
      cases hinstance : instances calleeId with
      | none => simp [isActive, hinstance]
      | some callee =>
        rw [isActive_of_some hinstance]
        by_cases hself : calleeId = id
        · simp [hself]
        · cases hactive : callee.active <;> simp [hself, hactive]
  · simp [hrequired]

/-- A bridge's check fails only with a missing required bridge. -/
theorem requiredBridgeStarted_eq_ok_error {bridge : DnaBridge} {e : HolochainInstanceError}
    (h : requiredBridgeStarted config instances id bridge = .ok (.error e)) :
    e = .requiredBridgeMissing bridge.handle := by
  unfold requiredBridgeStarted at h
  -- every branch that does not panic or pass names the bridge's handle
  split at h
  · split at h
    · exact (Except.error.inj (Except.ok.inj h)).symm
    · split at h
      · exact (Except.error.inj (Except.ok.inj h)).symm
      · split at h
        · cases h
        · split at h
          · cases h
          · exact (Except.error.inj (Except.ok.inj h)).symm
  · cases h

theorem requiredBridgesStarted_eq_ok_ok {bridges : List DnaBridge} :
    requiredBridgesStarted config instances id bridges = .ok (.ok ()) ↔
      ∀ bridge ∈ bridges, requiredBridgeStarted config instances id bridge = .ok (.ok ()) := by
  induction bridges with
  | nil => simp [requiredBridgesStarted]
  | cons bridge bridges ih =>
    simp only [requiredBridgesStarted, List.forall_mem_cons]
    cases h : requiredBridgeStarted config instances id bridge with
    | error p => simp
    | ok r =>
      rcases r with e | ⟨⟩
      · simp
      · simpa using ih

theorem requiredBridgesStarted_eq_ok_error {bridges : List DnaBridge} {e : HolochainInstanceError}
    (h : requiredBridgesStarted config instances id bridges = .ok (.error e)) :
    ∃ handle, e = .requiredBridgeMissing handle := by
  induction bridges with
  | nil => cases h
  | cons bridge bridges ih =>
    simp only [requiredBridgesStarted] at h
    split at h
    · exact ih h
    · exact ⟨bridge.handle, requiredBridgeStarted_eq_ok_error h⟩

/-- The loops of `start_instance` pass exactly when every required handle finds a bridge to
another active instance. -/
theorem requiredBridgesStarted_iff {dna : Dna} :
    requiredBridgesStarted config instances id (dna.zomes.flatMap fun zome => zome.2.bridges) =
      .ok (.ok ()) ↔ RequiredCalleesActive config instances id dna := by
  simp only [requiredBridgesStarted_eq_ok_ok, requiredBridgeStarted_eq_ok_ok, RequiredCalleesActive,
    Dna.requiredHandles, List.mem_filterMap]
  constructor
  · rintro h handle ⟨bridge, hmem, hhandle⟩
    by_cases hrequired : bridge.presence = .required
    · rw [if_pos hrequired, Option.some.injEq] at hhandle
      exact hhandle ▸ h bridge hmem hrequired
    · rw [if_neg hrequired] at hhandle
      cases hhandle
  · intro h bridge hmem hrequired
    exact h bridge.handle ⟨bridge, hmem, by rw [if_pos hrequired]⟩

/-! ### What starting an instance does -/

/-- Everything `start_instance` can do without panicking: leave the map as it was, with an error
that ends the loop of `start_all_instances`; or, once the checks pass, activate the instance,
which was already active when it answers so. -/
theorem startInstance_eq_ok_inv {r : Except HolochainInstanceError Unit}
    (h : startInstance config instances id = .ok (instances', r)) :
    (instances' = instances ∧ continuesStart r = false) ∨
      ∃ inst dna, instances id = some inst ∧ inst.initialized = true ∧
        inst.dna = some dna ∧ RequiredCalleesActive config instances id dna ∧
        instances' = Function.update instances id (some { inst with active := true }) ∧
        r = if inst.active then .error .instanceAlreadyActive else .ok () := by
  unfold startInstance at h
  split at h
  · simp only [Except.ok.injEq, Prod.mk.injEq] at h
    exact .inl ⟨h.1.symm, h.2 ▸ rfl⟩
  · rename_i inst hinstance
    split at h
    · rename_i e hcheck
      simp only [Except.ok.injEq, Prod.mk.injEq] at h
      exact .inl ⟨h.1.symm, by rw [← h.2, Holochain.checkInstance_eq_error hcheck]; rfl⟩
    · rename_i hcheck
      split at h
      · simp only [Except.ok.injEq, Prod.mk.injEq] at h
        exact .inl ⟨h.1.symm, h.2 ▸ rfl⟩
      · rename_i dna hdna
        split at h
        · cases h
        · rename_i e hchecks
          simp only [Except.ok.injEq, Prod.mk.injEq] at h
          obtain ⟨handle, rfl⟩ := requiredBridgesStarted_eq_ok_error hchecks
          exact .inl ⟨h.1.symm, h.2 ▸ rfl⟩
        · rename_i hchecks
          have hinit := Holochain.checkInstance_eq_ok.mp hcheck
          rw [Holochain.start_of_initialized hinit] at h
          simp only [Except.ok.injEq, Prod.mk.injEq] at h
          exact .inr ⟨inst, dna, hinstance, hinit, hdna, requiredBridgesStarted_iff.mp hchecks,
            h.1.symm, h.2.symm⟩

/-- A set-up instance with its DNA, whose required handles find bridges to other active
instances, is started. -/
theorem startInstance_of_ready {inst : Holochain} {dna : Dna}
    (hinstance : instances id = some inst) (hinit : inst.initialized = true)
    (hdna : inst.dna = some dna) (hready : RequiredCalleesActive config instances id dna) :
    startInstance config instances id =
      .ok (Function.update instances id (some { inst with active := true }),
        if inst.active then .error .instanceAlreadyActive else .ok ()) := by
  have hcheck : inst.checkInstance = .ok () := Holochain.checkInstance_eq_ok.mpr hinit
  have hchecks : requiredBridgesStarted config instances id
      (dna.zomes.flatMap fun zome => zome.2.bridges) = .ok (.ok ()) :=
    requiredBridgesStarted_iff.mpr hready
  simp only [startInstance, hinstance, hcheck, hdna, hchecks, Holochain.start_of_initialized hinit]

theorem startInstance_eq_ok_iff :
    startInstance config instances id = .ok (instances', .ok ()) ↔
      ∃ inst dna, instances id = some inst ∧ inst.initialized = true ∧
        inst.dna = some dna ∧ inst.active = false ∧
        RequiredCalleesActive config instances id dna ∧
        instances' = Function.update instances id (some { inst with active := true }) := by
  constructor
  · intro h
    rcases startInstance_eq_ok_inv h with ⟨-, hstops⟩ | ⟨inst, dna, hinstance, hinit, hdna, hready,
      hupdate, hr⟩
    · cases hstops
    · -- an instance that was active already answers with an error
      cases hactive : inst.active
      · exact ⟨inst, dna, hinstance, hinit, hdna, hactive, hready, hupdate⟩
      · rw [hactive, if_pos rfl] at hr
        cases hr
  · rintro ⟨inst, dna, hinstance, hinit, hdna, hinactive, hready, rfl⟩
    rw [startInstance_of_ready hinstance hinit hdna hready, hinactive]
    rfl

/-- Bridges that pass their checks can be skipped. -/
theorem requiredBridgesStarted_append_of_pass {passed bridges : List DnaBridge}
    (hpassed : ∀ bridge ∈ passed, requiredBridgeStarted config instances id bridge = .ok (.ok ())) :
    requiredBridgesStarted config instances id (passed ++ bridges) =
      requiredBridgesStarted config instances id bridges := by
  induction passed with
  | nil => rfl
  | cons bridge passed ih =>
    rw [List.forall_mem_cons] at hpassed
    simp only [List.cons_append, requiredBridgesStarted, hpassed.1]
    exact ih hpassed.2

/-- An instance whose first required handle finds a bridge that calls the instance itself
makes `start_instance` panic, as it reads the callee under the lock it holds. The
configuration's check looks only for some bridge with the handle, so it lets this through
when another instance calls this one through a handle of this one's DNA. -/
theorem startInstance_panics_of_self_callee {inst : Holochain} {dna : Dna} {handle : String}
    {rest : List String} (hinst : instances id = some inst) (hinit : inst.initialized = true)
    (hdna : inst.dna = some dna) (hfirst : dna.requiredHandles = handle :: rest)
    (hself : config.calleeByHandle handle = some id) :
    startInstance config instances id = .error readLockDeadlock := by
  obtain ⟨optional, bridge, more, hbridges, hoptional, hrequired, -⟩ :=
    List.filterMap_eq_cons_iff.mp hfirst
  -- the bridges before the first required one are optional, and pass
  have hpassed : ∀ bridge ∈ optional,
      requiredBridgeStarted config instances id bridge = .ok (.ok ()) := by
    intro bridge' hmem
    have hnot : ¬bridge'.presence = .required := by
      intro hreq
      have := hoptional bridge' hmem
      rw [if_pos hreq] at this
      cases this
    rw [requiredBridgeStarted, if_neg hnot]
  have hreq : bridge.presence = .required := by
    by_contra hnot
    rw [if_neg hnot] at hrequired
    cases hrequired
  rw [if_pos hreq, Option.some.injEq] at hrequired
  have hchecks : requiredBridgesStarted config instances id
      (dna.zomes.flatMap fun zome => zome.2.bridges) = .error readLockDeadlock := by
    rw [hbridges, requiredBridgesStarted_append_of_pass hpassed]
    simp only [requiredBridgesStarted, requiredBridgeStarted, if_pos hreq, hrequired, hself, hinst,
      if_true]
  simp only [startInstance, hinst, Holochain.checkInstance_eq_ok.mpr hinit, hdna, hchecks]

theorem sameDnaInstances_start_callee_panics :
    calleeFirstConfig.checkConsistency (fun _ => .ok callingDna) (fun _ => "QmDna")
        (fun _ => "") = .ok () ∧
      startInstance calleeFirstConfig sameDnaInstances "callee" = .error readLockDeadlock :=
  ⟨rfl, startInstance_panics_of_self_callee (by decide : sameDnaInstances "callee" = some ⟨true, some callingDna, false⟩)
    rfl rfl (rfl : callingDna.requiredHandles = ["callee"])
    (by decide : calleeFirstConfig.calleeByHandle "callee" = some "callee")⟩

/-! ### Activating instances -/

/-- An instance of a map updated at one id is the new one there, and the old one elsewhere. -/
theorem update_eq_some {inst inst' : Holochain} {j : String}
    (h : Function.update instances id (some inst) j = some inst') :
    (j = id ∧ inst' = inst) ∨ (j ≠ id ∧ instances j = some inst') := by
  by_cases hj : j = id
  · subst hj
    rw [Function.update_self, Option.some.injEq] at h
    exact .inl ⟨rfl, h.symm⟩
  · rw [Function.update_of_ne hj] at h
    exact .inr ⟨hj, h⟩

theorem Activated.refl (instances : InstanceMap) : Activated instances instances :=
  fun _ => .inl rfl

theorem Activated.trans {instances'' : InstanceMap} (h : Activated instances instances')
    (h' : Activated instances' instances'') : Activated instances instances'' := by
  intro j
  rcases h' j with h'' | ⟨inst', hinst', h''⟩
  · rw [h'']
    exact h j
  · rcases h j with hj | ⟨inst, hinst, hj⟩
    · exact .inr ⟨inst', hj ▸ hinst', h''⟩
    · -- activating twice is activating once
      rw [hj, Option.some.injEq] at hinst'
      exact .inr ⟨inst, hinst, by rw [h'', ← hinst']⟩

theorem Activated.eq_some (h : Activated instances instances') {j : String} {inst inst' : Holochain}
    (hj : instances j = some inst) (hj' : instances' j = some inst') :
    inst' = inst ∨ inst' = { inst with active := true } := by
  rcases h j with heq | ⟨inst₀, hinst₀, hact⟩
  · rw [heq, hj, Option.some.injEq] at hj'
    exact .inl hj'.symm
  · rw [hj, Option.some.injEq] at hinst₀
    rw [hact, Option.some.injEq, ← hinst₀] at hj'
    exact .inr hj'.symm

theorem Activated.isActive (h : Activated instances instances') {j : String}
    (hactive : isActive instances j = true) : isActive instances' j = true := by
  obtain ⟨inst, hinst, hinstActive⟩ := exists_of_isActive hactive
  rcases h j with heq | ⟨inst₀, -, hact⟩
  · rw [isActive_of_some (heq.trans hinst)]
    exact hinstActive
  · rw [isActive_of_some hact]

theorem activated_update {inst : Holochain} (hinst : instances id = some inst) :
    Activated instances (Function.update instances id (some { inst with active := true })) := by
  intro j
  by_cases hj : j = id
  · subst hj
    exact .inr ⟨inst, hinst, Function.update_self _ _ _⟩
  · exact .inl (Function.update_of_ne hj _ _)

theorem markActive_nil (instances : InstanceMap) : markActive instances [] = instances := by
  funext j
  simp [markActive]

theorem markActive_eq_some {pre : List String} {inst : Holochain} (hinst : instances id = some inst) :
    markActive instances pre id = some { inst with active := inst.active || decide (id ∈ pre) } := by
  by_cases hpre : id ∈ pre <;> simp [markActive, hinst, hpre]

/-- Activating one more instance of the map. -/
theorem update_markActive {pre : List String} {inst : Holochain} (hinst : instances id = some inst) :
    Function.update (markActive instances pre) id (some { inst with active := true }) =
      markActive instances (pre ++ [id]) := by
  funext j
  by_cases hj : j = id
  · subst hj
    simp [markActive, hinst]
  · simp [markActive, hj]

theorem isActive_markActive_append {pre post : List String} {j : String}
    (h : isActive (markActive instances pre) j = true) :
    isActive (markActive instances (pre ++ post)) j = true := by
  cases hj : instances j with
  | none => simp [isActive, markActive, hj] at h
  | some inst =>
    rw [isActive_of_some (markActive_eq_some hj)] at h ⊢
    simp only [Bool.or_eq_true, decide_eq_true_eq, List.mem_append] at h ⊢
    rcases h with h | h
    · exact .inl h
    · exact .inr (.inl h)

/-! ### What starting instances does -/

theorem continuesStart_ite (b : Bool) :
    continuesStart (if b then .error .instanceAlreadyActive else .ok ()) = true := by
  cases b <;> rfl

theorem startInstance_activated {r : Except HolochainInstanceError Unit}
    (h : startInstance config instances id = .ok (instances', r)) : Activated instances instances' := by
  rcases startInstance_eq_ok_inv h with ⟨rfl, -⟩ | ⟨inst, -, hinst, -, -, -, rfl, -⟩
  · exact .refl _
  · exact activated_update hinst

/-- Starting an instance changes no other. -/
theorem startInstance_frame {r : Except HolochainInstanceError Unit}
    (h : startInstance config instances id = .ok (instances', r)) {j : String} (hj : j ≠ id) :
    instances' j = instances j := by
  rcases startInstance_eq_ok_inv h with ⟨rfl, -⟩ | ⟨inst, -, -, -, -, -, rfl, -⟩
  · rfl
  · exact Function.update_of_ne hj _ _

/-- One round of the loop of `start_all_instances`: the instance is started, and the loop goes
on when that counts as a start, or ends with the start's error. -/
theorem startInstances_cons_eq_ok {ids : List String} {r : Except HolochainInstanceError Unit}
    (h : startInstances config instances (id :: ids) = .ok (instances', r)) :
    ∃ instances₁ r₁, startInstance config instances id = .ok (instances₁, r₁) ∧
      (continuesStart r₁ = true ∧ startInstances config instances₁ ids = .ok (instances', r) ∨
        continuesStart r₁ = false ∧ instances' = instances₁ ∧ r = r₁) := by
  simp only [startInstances] at h
  cases hstart : startInstance config instances id with
  | error p => rw [hstart] at h; cases h
  | ok res =>
    obtain ⟨instances₁, r₁⟩ := res
    rw [hstart] at h
    dsimp only at h
    refine ⟨instances₁, r₁, rfl, ?_⟩
    cases hr : continuesStart r₁
    · simp only [hr, Bool.false_eq_true, if_false, Except.ok.injEq, Prod.mk.injEq] at h
      exact .inr ⟨rfl, h.1.symm, h.2.symm⟩
    · simp only [hr, if_true] at h
      exact .inl ⟨rfl, h⟩

theorem startInstances_cons_of_continues {ids : List String} {r : Except HolochainInstanceError Unit}
    (hstart : startInstance config instances id = .ok (instances', r)) (hr : continuesStart r = true) :
    startInstances config instances (id :: ids) = startInstances config instances' ids := by
  simp only [startInstances, hstart, hr, if_true]

/-- The rule for the loop of `start_all_instances`: a relation between maps that composes, and
that every start of a listed instance makes, holds between the loop's first map and its last. -/
theorem startInstances_rec {R : InstanceMap → InstanceMap → Prop} (hrefl : ∀ m, R m m)
    (htrans : ∀ m₁ m₂ m₃, R m₁ m₂ → R m₂ m₃ → R m₁ m₃) {ids : List String}
    (hstep : ∀ m id m₁ r, id ∈ ids → startInstance config m id = .ok (m₁, r) → R m m₁)
    {r : Except HolochainInstanceError Unit}
    (h : startInstances config instances ids = .ok (instances', r)) : R instances instances' := by
  induction ids generalizing instances with
  | nil =>
    simp only [startInstances, Except.ok.injEq, Prod.mk.injEq] at h
    rw [← h.1]
    exact hrefl _
  | cons id ids ih =>
    obtain ⟨instances₁, r₁, hstart, ⟨-, hrest⟩ | ⟨-, rfl, -⟩⟩ := startInstances_cons_eq_ok h
    · have hrest' := ih (fun m id' m₁ r hid => hstep m id' m₁ r (List.mem_cons_of_mem id hid)) hrest
      exact htrans _ _ _ (hstep _ id _ _ List.mem_cons_self hstart) hrest'
    · exact hstep _ id _ _ List.mem_cons_self hstart

theorem startInstances_activated {ids : List String} {r : Except HolochainInstanceError Unit}
    (h : startInstances config instances ids = .ok (instances', r)) : Activated instances instances' :=
  startInstances_rec Activated.refl (fun _ _ _ => Activated.trans)
    (fun _ _ _ _ _ hstart => startInstance_activated hstart) h

/-- Starting instances changes none of the others. -/
theorem startInstances_frame {ids : List String} {r : Except HolochainInstanceError Unit}
    (h : startInstances config instances ids = .ok (instances', r)) {j : String} (hj : j ∉ ids) :
    instances' j = instances j :=
  startInstances_rec (R := fun m m' => ∀ j ∉ ids, m' j = m j) (fun _ _ _ => rfl)
    (fun _ _ _ h₁ h₂ j hj => (h₂ j hj).trans (h₁ j hj))
    (fun _ _ _ _ hid hstart _ hj => startInstance_frame hstart fun heq => hj (heq ▸ hid)) h j hj

/-- A loop that succeeds over two lists in a row succeeded over the first. -/
theorem startInstances_append_eq_ok {pre post : List String}
    (h : startInstances config instances (pre ++ post) = .ok (instances', .ok ())) :
    ∃ instances₁, startInstances config instances pre = .ok (instances₁, .ok ()) ∧
      startInstances config instances₁ post = .ok (instances', .ok ()) := by
  induction pre generalizing instances with
  | nil => exact ⟨instances, rfl, h⟩
  | cons id pre ih =>
    obtain ⟨instances₁, r₁, hstart, ⟨hr, hrest⟩ | ⟨hr, -, rfl⟩⟩ := startInstances_cons_eq_ok h
    · obtain ⟨instances₂, hpre, hpost⟩ := ih hrest
      exact ⟨instances₂, (startInstances_cons_of_continues hstart hr).trans hpre, hpost⟩
    · -- a loop that ended at this instance did not succeed
      cases hr

/-- The loop over ids whose callees are done by their turn: the instances are those of
`instances` activated at `pre`, and whatever is done is active. -/
theorem startInstances_of_ready {ids : List String}
    (hbuilt : ∀ id ∈ ids, ∃ inst dna, instances id = some inst ∧ inst.initialized = true ∧
      inst.dna = some dna)
    (hfound : ∀ id ∈ ids, ∀ inst dna, instances id = some inst → inst.dna = some dna →
      ∀ handle ∈ dna.requiredHandles, ∃ calleeId, config.calleeByHandle handle = some calleeId ∧
        calleeId ≠ id)
    {done : Set String} (hready : Graph.ReadyOrder (CallsByHandle config instances) done ids)
    {pre : List String} (hdone : ∀ calleeId ∈ done, isActive (markActive instances pre) calleeId = true) :
    startInstances config (markActive instances pre) ids =
      .ok (markActive instances (pre ++ ids), .ok ()) := by
  induction ids generalizing done pre with
  | nil => simp [startInstances]
  | cons id ids ih =>
    obtain ⟨inst, dna, hinst, hinit, hdna⟩ := hbuilt id List.mem_cons_self
    obtain ⟨hdeps, hrest⟩ := hready
    -- the instance's callees are done, so active
    have hcallees : RequiredCalleesActive config (markActive instances pre) id dna := by
      intro handle hhandle
      obtain ⟨calleeId, hcallee, hne⟩ := hfound id List.mem_cons_self inst dna hinst hdna handle hhandle
      exact ⟨calleeId, hcallee, hne,
        hdone calleeId (hdeps calleeId ⟨inst, dna, hinst, hdna, handle, hhandle, hcallee⟩)⟩
    have hdone' : ∀ calleeId ∈ insert id done,
        isActive (markActive instances (pre ++ [id])) calleeId = true := by
      rintro calleeId (rfl | hcallee)
      · simp [isActive_of_some (markActive_eq_some hinst)]
      · exact isActive_markActive_append (hdone calleeId hcallee)
    have hnext := ih (fun id' h => hbuilt id' (List.mem_cons_of_mem id h))
      (fun id' h => hfound id' (List.mem_cons_of_mem id h)) hrest hdone'
    have hstart := startInstance_of_ready (markActive_eq_some hinst) hinit hdna hcallees
    rw [startInstances_cons_of_continues hstart (continuesStart_ite _), update_markActive hinst, hnext,
      List.append_assoc, List.singleton_append]

/-- When each required handle of a configured instance finds a bridge to another instance,
active already or configured before it, starting all instances succeeds and activates the
configured instances, and only them. -/
theorem startAllInstances_of_callees_first (hnodup : config.instanceIds.Nodup)
    (hbuilt : ∀ id ∈ config.instanceIds, ∃ inst dna, instances id = some inst ∧
      inst.initialized = true ∧ inst.dna = some dna)
    (hcallees : ∀ id ∈ config.instanceIds, ∀ inst dna, instances id = some inst →
      inst.dna = some dna → ∀ handle ∈ dna.requiredHandles, ∃ calleeId,
        config.calleeByHandle handle = some calleeId ∧ calleeId ≠ id ∧
        (isActive instances calleeId = true ∨ [calleeId, id].Sublist config.instanceIds)) :
    startAllInstances config instances = .ok (markActive instances config.instanceIds, .ok ()) := by
  -- the configuration's order is a ready order from the instances active already
  have hready : Graph.ReadyOrder (CallsByHandle config instances)
      {calleeId | isActive instances calleeId = true} config.instanceIds := by
    refine Graph.readyOrder_of_sublist hnodup fun id hid calleeId hcalls => ?_
    obtain ⟨inst, dna, hinst, hdna, handle, hhandle, hcallee⟩ := hcalls
    obtain ⟨calleeId', hcallee', -, hbefore⟩ := hcallees id hid inst dna hinst hdna handle hhandle
    rw [hcallee, Option.some.injEq] at hcallee'
    subst hcallee'
    exact hbefore
  have hdone : ∀ calleeId ∈ {calleeId | isActive instances calleeId = true},
      isActive (markActive instances []) calleeId = true := by
    rw [markActive_nil]
    exact fun _ h => h
  have hall := startInstances_of_ready hbuilt
    (fun id hid inst dna hinst hdna handle hhandle =>
      (hcallees id hid inst dna hinst hdna handle hhandle).imp fun _ h => ⟨h.1, h.2.1⟩)
    hready hdone
  rwa [markActive_nil, List.nil_append] at hall

theorem startAllInstances_calleeFirstConfig :
    startAllInstances calleeFirstConfig (twoInstances false false) =
      .ok (markActive (twoInstances false false) calleeFirstConfig.instanceIds, .ok ()) := by
  have hids : ∀ id ∈ calleeFirstConfig.instanceIds, id = "callee" ∨ id = "caller" := by
    simp [Configuration.instanceIds, calleeFirstConfig]
  refine startAllInstances_of_callees_first (by decide) ?_ ?_
  · intro id hid
    rcases hids id hid with rfl | rfl
    · exact ⟨_, _, rfl, rfl, rfl⟩
    · exact ⟨_, _, rfl, rfl, rfl⟩
  · intro id hid inst dna hinst hdna handle hhandle
    rcases twoInstances_eq_some hinst with ⟨rfl, rfl⟩ | ⟨rfl, rfl⟩
    · rw [Option.some.injEq] at hdna
      subst hdna
      rw [callingDna_requiredHandles, List.mem_singleton] at hhandle
      subst hhandle
      exact ⟨"callee", rfl, by decide, .inr (List.Sublist.refl _)⟩
    · rw [Option.some.injEq] at hdna
      subst hdna
      rw [calledDna_requiredHandles] at hhandle
      cases hhandle

/-- An instance configured before the callee of one of its required bridges, while that callee
is not active, makes starting all instances fail: the callee is not started by the instance's
turn. -/
theorem startAllInstances_caller_first {pre post : List String}
    (hids : config.instanceIds = pre ++ id :: post) {inst : Holochain} {dna : Dna}
    (hinst : instances id = some inst) (hdna : inst.dna = some dna) {handle calleeId : String}
    (hhandle : handle ∈ dna.requiredHandles) (hcallee : config.calleeByHandle handle = some calleeId)
    (hbefore : calleeId ∉ pre) (hinactive : isActive instances calleeId = false) :
    ∀ instances', startAllInstances config instances ≠ .ok (instances', .ok ()) := by
  intro instances' hall
  rw [startAllInstances, hids] at hall
  obtain ⟨instances₁, hpre, hrest⟩ := startInstances_append_eq_ok hall
  obtain ⟨instances₂, r, hstart, ⟨hr, -⟩ | ⟨hr, -, rfl⟩⟩ := startInstances_cons_eq_ok hrest
  · -- the instance passed its checks, so the callee was active by its turn
    obtain ⟨inst₁, dna₁, hinst₁, -, hdna₁, hready, -⟩ :=
      (startInstance_eq_ok_inv hstart).resolve_left fun h => by rw [h.2] at hr; cases hr
    have hsame : inst₁.dna = inst.dna := by
      rcases (startInstances_activated hpre).eq_some hinst hinst₁ with rfl | rfl <;> rfl
    rw [hsame, hdna, Option.some.injEq] at hdna₁
    subst hdna₁
    obtain ⟨calleeId', hcallee', -, hactive⟩ := hready handle hhandle
    rw [hcallee, Option.some.injEq] at hcallee'
    subst hcallee'
    have hunchanged : isActive instances₁ calleeId = isActive instances calleeId := by
      simp only [isActive, startInstances_frame hpre hbefore]
    rw [hunchanged, hinactive] at hactive
    cases hactive
  · -- a loop that ended at this instance did not succeed
    cases hr

theorem startAllInstances_callerFirstConfig_fails :
    ¬∃ instances', startAllInstances callerFirstConfig (twoInstances false false) =
      .ok (instances', .ok ()) := fun ⟨instances', hall⟩ =>
  startAllInstances_caller_first (rfl : callerFirstConfig.instanceIds = [] ++ "caller" :: ["callee"])
    (rfl : twoInstances false false "caller" = some ⟨true, some callingDna, false⟩) rfl
    (by decide : "callee" ∈ callingDna.requiredHandles)
    (by decide : callerFirstConfig.calleeByHandle "callee" = some "callee")
    List.not_mem_nil rfl instances' hall

/-! ### Active instances keep their callees active -/

/-- Activating an instance whose required callees are active keeps every active instance's
callees active. -/
theorem BridgesLive.activate (hlive : BridgesLive config instances) {inst : Holochain}
    (hinst : instances id = some inst)
    (hready : ∀ dna, inst.dna = some dna → ∀ handle ∈ dna.requiredHandles,
      ∃ calleeId, config.calleeByHandle handle = some calleeId ∧ isActive instances calleeId = true) :
    BridgesLive config (Function.update instances id (some { inst with active := true })) := by
  have hactivated := activated_update hinst
  constructor
  · intro j inst' hj
    rcases update_eq_some hj with ⟨rfl, rfl⟩ | ⟨-, hj⟩
    · exact hlive.initialized _ inst hinst
    · exact hlive.initialized j inst' hj
  · intro j inst' hj hactive dna hdna handle hhandle
    -- the callee found in the old map stays active in the new one
    suffices ∃ calleeId, config.calleeByHandle handle = some calleeId ∧
        isActive instances calleeId = true by
      obtain ⟨calleeId, hcallee, hcalleeActive⟩ := this
      exact ⟨calleeId, hcallee, hactivated.isActive hcalleeActive⟩
    rcases update_eq_some hj with ⟨rfl, rfl⟩ | ⟨-, hj⟩
    · exact hready dna hdna handle hhandle
    · exact hlive.calleesActive j inst' hj hactive dna hdna handle hhandle

theorem bridgesLive_startInstance (hlive : BridgesLive config instances)
    {r : Except HolochainInstanceError Unit} (h : startInstance config instances id = .ok (instances', r)) :
    BridgesLive config instances' := by
  rcases startInstance_eq_ok_inv h with ⟨rfl, -⟩ | ⟨inst, dna, hinst, -, hdna, hready, rfl, -⟩
  · exact hlive
  · refine hlive.activate hinst fun dna' hdna' handle hhandle => ?_
    rw [hdna, Option.some.injEq] at hdna'
    subst hdna'
    obtain ⟨calleeId, hcallee, -, hactive⟩ := hready handle hhandle
    exact ⟨calleeId, hcallee, hactive⟩

theorem bridgesLive_startInstances (hlive : BridgesLive config instances) {ids : List String}
    {r : Except HolochainInstanceError Unit} (h : startInstances config instances ids = .ok (instances', r)) :
    BridgesLive config instances' :=
  startInstances_rec (R := fun m m' => BridgesLive config m → BridgesLive config m') (fun _ h => h)
    (fun _ _ _ h₁ h₂ h => h₂ (h₁ h))
    (fun _ _ _ _ _ hstart hlive => bridgesLive_startInstance hlive hstart) h hlive

/-- Stopping every instance leaves none active. -/
theorem bridgesLive_stopAllInstances (hlive : BridgesLive config instances) :
    BridgesLive config (stopAllInstances instances).1 := by
  have hstopped : ∀ j inst', (stopAllInstances instances).1 j = some inst' →
      ∃ inst, instances j = some inst ∧ inst' = { inst with active := false } := by
    intro j inst' hj
    obtain ⟨inst, hinst, rfl⟩ := Option.map_eq_some_iff.mp hj
    exact ⟨inst, hinst, by rw [Holochain.stop_of_initialized (hlive.initialized j inst hinst)]⟩
  constructor
  · intro j inst' hj
    obtain ⟨inst, hinst, rfl⟩ := hstopped j inst' hj
    exact hlive.initialized j inst hinst
  · intro j inst' hj hactive
    obtain ⟨inst, -, rfl⟩ := hstopped j inst' hj
    cases hactive

/-- Every lifecycle call but `stop_instance` keeps each active instance's callees active. -/
theorem bridgesLive_step (hlive : BridgesLive config instances) {call : LifecycleCall}
    (hstep : LifecycleStep config instances call instances') (hcall : call.stopsInstance = false) :
    BridgesLive config instances' := by
  cases call with
  | start id =>
    simp only [LifecycleStep, LifecycleCall.run] at hstep
    split at hstep
    · rename_i hstart
      rw [Option.some.injEq] at hstep
      subst hstep
      exact bridgesLive_startInstance hlive hstart
    · cases hstep
  | stop id => cases hcall
  | startAll =>
    simp only [LifecycleStep, LifecycleCall.run] at hstep
    split at hstep
    · rename_i hstart
      rw [Option.some.injEq] at hstep
      subst hstep
      exact bridgesLive_startInstances hlive hstart
    · cases hstep
  | stopAll =>
    simp only [LifecycleStep, LifecycleCall.run, Option.some.injEq] at hstep
    subst hstep
    exact bridgesLive_stopAllInstances hlive

/-- Through every run of the lifecycle calls without `stop_instance`, each active instance
keeps the callees of its required bridges active. -/
theorem lifecycle_runs_keep_bridgesLive {instances₀ : InstanceMap}
    (h₀ : BridgesLive config instances₀) {calls : List LifecycleCall}
    (hrun : Run.ReachableBy (LifecycleStep config) instances₀ calls instances)
    (hcalls : ∀ call ∈ calls, call.stopsInstance = false) : BridgesLive config instances :=
  hrun.invariant h₀
    (fun _ call _ (hcall : call.stopsInstance = false) hlive hstep => bridgesLive_step hlive hstep hcall)
    hcalls

/-- Starting the callee, then the caller. -/
def calleeThenCaller : List LifecycleCall := [.start "callee", .start "caller"]

theorem lifecycle_runs_keep_bridgesLive_calleeThenCaller :
    BridgesLive calleeFirstConfig
      ((Run.runSteps (fun s call => call.run calleeFirstConfig s) (twoInstances false false)
        calleeThenCaller).getD (twoInstances false false)) :=
  lifecycle_runs_keep_bridgesLive (twoInstances_bridgesLive fun h => h)
    (Run.ReachableBy.of_runSteps (fun _ _ _ h => h) .init
      (rfl : Run.runSteps (fun s call => call.run calleeFirstConfig s) (twoInstances false false)
        calleeThenCaller = some ((Run.runSteps (fun s call => call.run calleeFirstConfig s)
          (twoInstances false false) calleeThenCaller).getD (twoInstances false false))))
    (by decide)

theorem stopInstance_of_active {inst : Holochain} (hinst : instances id = some inst)
    (hinit : inst.initialized = true) (hactive : inst.active = true) :
    stopInstance instances id =
      (Function.update instances id (some { inst with active := false }), .ok ()) := by
  simp only [stopInstance, hinst, Holochain.stop_of_initialized hinit, hactive, if_true]

/-- Stopping an active instance keeps every active instance's callees active exactly when no
other active instance calls it through a required bridge: `stop_instance` looks at no caller. -/
theorem bridgesLive_stopInstance_iff (hlive : BridgesLive config instances)
    (hactive : isActive instances id = true) :
    BridgesLive config (stopInstance instances id).1 ↔
      ∀ callerId ≠ id, ∀ caller dna, instances callerId = some caller → caller.active = true →
        caller.dna = some dna → ∀ handle ∈ dna.requiredHandles,
          config.calleeByHandle handle ≠ some id := by
  obtain ⟨inst, hinst, hinstActive⟩ := exists_of_isActive hactive
  rw [stopInstance_of_active hinst (hlive.initialized id inst hinst) hinstActive]
  dsimp only
  constructor
  · intro hlive' callerId hne caller dna hcaller hcallerActive hdna handle hhandle hcallee
    obtain ⟨calleeId, hcallee', hcalleeActive⟩ := hlive'.calleesActive callerId caller
      (by rw [Function.update_of_ne hne]; exact hcaller) hcallerActive dna hdna handle hhandle
    rw [hcallee, Option.some.injEq] at hcallee'
    subst hcallee'
    rw [isActive_of_some (Function.update_self _ _ _)] at hcalleeActive
    cases hcalleeActive
  · intro hnone
    constructor
    · intro j inst' hj
      rcases update_eq_some hj with ⟨rfl, rfl⟩ | ⟨-, hj⟩
      · exact hlive.initialized _ inst hinst
      · exact hlive.initialized j inst' hj
    · intro j inst' hj hinstActive' dna hdna handle hhandle
      rcases update_eq_some hj with ⟨rfl, rfl⟩ | ⟨hji, hj⟩
      · cases hinstActive'
      · obtain ⟨calleeId, hcallee, hcalleeActive⟩ :=
          hlive.calleesActive j inst' hj hinstActive' dna hdna handle hhandle
        -- the callee is not the stopped instance, so it is still active
        have hne : calleeId ≠ id := fun heq =>
          hnone j hji inst' dna hj hinstActive' hdna handle hhandle (heq ▸ hcallee)
        refine ⟨calleeId, hcallee, ?_⟩
        simpa only [isActive, Function.update_of_ne hne] using hcalleeActive

/-- Stopping the callee while the caller runs leaves the caller without its bridge. -/
theorem stopInstance_callee_breaks_bridgesLive :
    ¬BridgesLive calleeFirstConfig (stopInstance (twoInstances true true) "callee").1 := fun hlive =>
  (bridgesLive_stopInstance_iff (twoInstances_bridgesLive fun h => h) (by decide)).mp hlive "caller"
    (by decide) _ _ rfl rfl rfl "callee" (by decide) rfl

end Lifecycle

end Holochain.Conductor
