/-
The reconnect backoff of the sim2h worker (`Sim2hWorker::backoff`, `inner_set_backoff`,
`reset_backoff` and `check_reconnect`, `net/src/sim2h_worker.rs`).

`backoff` compares the backoff with `max(MAX_CONNECTION_TIMEOUT_MS, backoff * 2)`, which it
never equals, and then sets the doubled value: the cap is never applied, and every
reconnect attempt doubles the timeout.

* `backoff_eq` — a backoff always doubles;
* `backoffMove_of_step` — a step keeps the backoff, resets it to
  `INITIAL_CONNECTION_TIMEOUT_MS` or doubles it, and sets the reconnect interval with it;
* `reachable_backoffInv` — over every run on which the backoff fits in the `u64` the source
  keeps it in, the reconnect interval is the backoff, which is never below
  `INITIAL_CONNECTION_TIMEOUT_MS`;
* `reachable_backoff_pow` — from a state without a connection, `k` failed reconnects in a
  row multiply the backoff by `2 ^ k`;
* `backoff_passes_max_and_overflows` — so a run from `new` passes
  `MAX_CONNECTION_TIMEOUT_MS`, and reaches a backoff that fits in a `u64` and whose doubling
  does not.

The model keeps the backoff as a `Nat`, so its doubling is the source's `u64` doubling only
while the result fits: past that the source panics (in a debug build) or wraps, and the
invariant is stated for the runs before it.
-/
import Holochain.Net.Sim2hWorker

namespace Holochain.Net

open Sim2h

variable {A : Type} [LinearOrder A]

namespace Sim2hWorker

/-! ### The backoff operations -/

/-- No backoff equals the value `backoff` compares it with. -/
theorem connectionTimeoutBackoff_ne_max (b : Nat) : b ≠ max maxConnectionTimeoutMs (b * 2) := by
  unfold maxConnectionTimeoutMs
  omega

omit [LinearOrder A] in
/-- `backoff` always doubles: its comparison never fails. -/
theorem backoff_eq (x : Sim2hWorker A) :
    x.backoff = x.innerSetBackoff (x.connectionTimeoutBackoff * 2) :=
  if_pos (connectionTimeoutBackoff_ne_max _)

/-- Two states with the same backoff and reconnect interval. -/
structure SameBackoff (x y : Sim2hWorker A) : Prop where
  backoff : y.connectionTimeoutBackoff = x.connectionTimeoutBackoff
  interval : y.reconnectInterval = x.reconnectInterval

omit [LinearOrder A] in
theorem SameBackoff.refl (x : Sim2hWorker A) : SameBackoff x x :=
  ⟨rfl, rfl⟩

omit [LinearOrder A] in
theorem SameBackoff.trans {x y z : Sim2hWorker A} (hxy : SameBackoff x y)
    (hyz : SameBackoff y z) : SameBackoff x z :=
  ⟨hyz.backoff.trans hxy.backoff, hyz.interval.trans hxy.interval⟩

/-- What one step can do to the backoff: keep it, reset it to the initial timeout, or
double it; the reconnect interval is set with it. -/
inductive BackoffMove (x x' : Sim2hWorker A) : Prop
  /-- the backoff and the interval stay as they are -/
  | keep (h : SameBackoff x x')
  /-- `reset_backoff` of a backoff above the initial timeout -/
  | reset (hlt : initialConnectionTimeoutMs < x.connectionTimeoutBackoff)
      (hbackoff : x'.connectionTimeoutBackoff = initialConnectionTimeoutMs)
      (hinterval : x'.reconnectInterval = initialConnectionTimeoutMs)
  /-- `backoff`, on a reconnect attempt -/
  | double (hbackoff : x'.connectionTimeoutBackoff = x.connectionTimeoutBackoff * 2)
      (hinterval : x'.reconnectInterval = x.connectionTimeoutBackoff * 2)

section Moves

variable {x y x' : Sim2hWorker A}

omit [LinearOrder A] in
/-- A move from a state with the same backoff is a move from this one. -/
theorem BackoffMove.of_sameBackoff (h : BackoffMove y x') (hxy : SameBackoff x y) :
    BackoffMove x x' := by
  cases h with
  | keep h => exact .keep (hxy.trans h)
  | reset hlt hbackoff hinterval => exact .reset (hxy.backoff ▸ hlt) hbackoff hinterval
  | double hbackoff hinterval =>
    exact .double (by rw [hbackoff, hxy.backoff]) (by rw [hinterval, hxy.backoff])

omit [LinearOrder A] in
/-- A move followed by a change that keeps the backoff is a move. -/
theorem BackoffMove.sameBackoff (h : BackoffMove x y) (hyx : SameBackoff y x') :
    BackoffMove x x' := by
  cases h with
  | keep h => exact .keep (h.trans hyx)
  | reset hlt hbackoff hinterval =>
    exact .reset hlt (hyx.backoff.trans hbackoff) (hyx.interval.trans hinterval)
  | double hbackoff hinterval =>
    exact .double (hyx.backoff.trans hbackoff) (hyx.interval.trans hinterval)

variable (env : WorkerEnv) (x : Sim2hWorker A)

omit [LinearOrder A] in
theorem sameBackoff_of_connectionReady {ready : Bool} {y : Sim2hWorker A}
    (h : x.connectionReady env = (ready, y)) : SameBackoff x y := by
  unfold connectionReady at h
  split at h
  · split at h <;> cases h <;> exact ⟨rfl, rfl⟩
  · cases h
    exact .refl x

omit [LinearOrder A] in
theorem backoffMove_resetBackoff : BackoffMove x x.resetBackoff := by
  unfold resetBackoff
  split
  · next hlt => exact .reset hlt rfl rfl
  · exact .keep (.refl x)

omit [LinearOrder A] in
theorem backoffMove_backoff : BackoffMove x x.backoff := by
  rw [backoff_eq]
  exact .double rfl rfl

theorem sameBackoff_sendWireMessage (message : WireMessage A) :
    SameBackoff x (x.sendWireMessage message) := by
  unfold sendWireMessage
  split
  · exact ⟨rfl, rfl⟩
  · split <;> exact ⟨rfl, rfl⟩
  · exact ⟨rfl, rfl⟩

omit [LinearOrder A] in
theorem backoffMove_checkReconnect : BackoffMove x (x.checkReconnect env) := by
  unfold checkReconnect
  split
  · next y hready =>
    exact (backoffMove_resetBackoff y).of_sameBackoff (sameBackoff_of_connectionReady env x hready)
  · next y hready =>
    have hxy := sameBackoff_of_connectionReady env x hready
    split
    · exact .keep hxy
    · -- the attempt doubles the backoff; connecting touches it no more
      dsimp only
      have hmove : BackoffMove x
          { y.backoff with timeOfLastConnectionAttempt := env.now, connection := false } :=
        ((backoffMove_backoff y).of_sameBackoff hxy).sameBackoff ⟨rfl, rfl⟩
      split
      · split
        · exact hmove.sameBackoff ⟨rfl, rfl⟩
        · exact hmove.sameBackoff ⟨rfl, rfl⟩
      · exact hmove

theorem sameBackoff_takeFatAcks : SameBackoff x x.takeFatAcks.2 := by
  rcases takeFatAcks_cases x with htake | ⟨spaceData, htake⟩
  · rw [htake]
    exact .refl x
  · rw [htake]
    exact ⟨rfl, rfl⟩

theorem sameBackoff_checkBatchedMessages (now : Nat) :
    SameBackoff x (x.checkBatchedMessages now) := by
  unfold checkBatchedMessages
  split
  · exact .refl x
  · dsimp only
    have hy : SameBackoff x (takeFatAcks { x with timeOfLastBatching := now }).2 :=
      SameBackoff.trans (y := { x with timeOfLastBatching := now }) ⟨rfl, rfl⟩
        (sameBackoff_takeFatAcks _)
    split <;> exact hy.trans ⟨rfl, rfl⟩

variable (encode : WireMessage A → Opaque) (receiptHash : Opaque → Nat)

omit [LinearOrder A] in
theorem backoffMove_trySendFromOutgoingBuffer :
    BackoffMove x (x.trySendFromOutgoingBuffer env encode receiptHash).2 := by
  unfold trySendFromOutgoingBuffer
  split
  · exact .keep (.refl x)
  · split
    · next y hready => exact .keep (sameBackoff_of_connectionReady env x hready)
    · next y hready =>
      have hxy := sameBackoff_of_connectionReady env x hready
      split
      · exact .keep hxy
      · split
        · exact .keep hxy
        · split
          · -- the write failed: the connection is dropped and re-established
            exact (backoffMove_checkReconnect env { y with connection := false }).of_sameBackoff
              (hxy.trans ⟨rfl, rfl⟩)
          · exact .keep (hxy.trans ⟨rfl, rfl⟩)

theorem sameBackoff_handleServerMessage {message : WireMessage A} {x' : Sim2hWorker A}
    (h : x.handleServerMessage message = .ok x') : SameBackoff x x' := by
  unfold handleServerMessage at h
  split at h
  · cases h
    exact sameBackoff_sendWireMessage x _
  · split at h
    · cases h
      exact sameBackoff_sendWireMessage x _
    · cases h
      exact .refl x
  · split at h
    · cases h
    · cases h
      exact ⟨rfl, rfl⟩
  · cases h
    unfold handleAck
    split
    · split <;> exact ⟨rfl, rfl⟩
    · exact .refl x
  · cases h
    exact .refl x

/-- Every step of the worker is one of the backoff moves. -/
theorem backoffMove_of_step {x' : Sim2hWorker A} {label : WorkerLabel A}
    (h : step encode receiptHash env label x = .ok x') : BackoffMove x x' := by
  cases label with
  | connectionReady =>
    simp only [step] at h
    split at h
    · next y hready =>
      cases h
      exact (backoffMove_resetBackoff y).of_sameBackoff
        (sameBackoff_of_connectionReady env x hready)
    · next y hready =>
      cases h
      exact .keep (sameBackoff_of_connectionReady env x hready)
  | sendWireMessage message =>
    cases h
    exact .keep (sameBackoff_sendWireMessage x message)
  | joinSpace spaceData =>
    cases h
    exact .keep (SameBackoff.trans (y := { x with spaceData := some spaceData }) ⟨rfl, rfl⟩
      (sameBackoff_sendWireMessage _ _))
  | checkBatchedMessages =>
    cases h
    exact .keep (sameBackoff_checkBatchedMessages x env.now)
  | trySendFromOutgoingBuffer =>
    cases h
    exact backoffMove_trySendFromOutgoingBuffer env x encode receiptHash
  | checkReconnect =>
    cases h
    exact backoffMove_checkReconnect env x
  | readError =>
    cases h
    exact (backoffMove_checkReconnect env { x with connection := false }).of_sameBackoff
      ⟨rfl, rfl⟩
  | handleServerMessage message =>
    exact .keep (sameBackoff_handleServerMessage x h)

end Moves

/-! ### Over every run -/

/-- The invariant of the backoff: the reconnect interval is the backoff, and the backoff is
never below the initial timeout. -/
structure BackoffInv (x : Sim2hWorker A) : Prop where
  interval : x.reconnectInterval = x.connectionTimeoutBackoff
  initialLe : initialConnectionTimeoutMs ≤ x.connectionTimeoutBackoff

section Invariant

variable {x x' x₀ : Sim2hWorker A}

omit [LinearOrder A] in
theorem backoffInv_of_backoffMove (hinv : BackoffInv x) (h : BackoffMove x x') :
    BackoffInv x' := by
  cases h with
  | keep h => exact ⟨by rw [h.interval, h.backoff, hinv.interval], h.backoff ▸ hinv.initialLe⟩
  | reset _ hbackoff hinterval => exact ⟨hinterval.trans hbackoff.symm, hbackoff.ge⟩
  | double hbackoff hinterval =>
    have hle := hinv.initialLe
    exact ⟨hinterval.trans hbackoff.symm, by rw [hbackoff]; omega⟩

theorem backoffInv_new {env : WorkerEnv} (h : Sim2hWorker.new env = .ok x₀) : BackoffInv x₀ := by
  unfold Sim2hWorker.new at h
  split at h
  · cases h
  · -- the hello keeps the initial timeout, and the first reconnect doubles it
    dsimp only at h
    rw [Except.pure_eq_ok, Except.ok.injEq] at h
    subst h
    have hinit : BackoffInv
        (⟨false, none, env.now - initialConnectionTimeoutMs, initialConnectionTimeoutMs,
          initialConnectionTimeoutMs, env.now, [], ∅, [], false, 0⟩ : Sim2hWorker A) :=
      ⟨rfl, le_rfl⟩
    exact backoffInv_of_backoffMove hinit
      ((backoffMove_checkReconnect env _).of_sameBackoff (sameBackoff_sendWireMessage _ _))

variable (encode : WireMessage A → Opaque) (receiptHash : Opaque → Nat)

/-- A step of the worker after which the backoff fits in a `u64`: on these steps the model's
doubling is the source's. -/
def U64Step (x : Sim2hWorker A) (l : WorkerEnv × WorkerLabel A) (x' : Sim2hWorker A) : Prop :=
  WorkerStep encode receiptHash x l x' ∧ x'.connectionTimeoutBackoff < 2 ^ 64

/-- Over every run of the worker from `new` on which the backoff fits in a `u64`, the
reconnect interval is the backoff, and the backoff is never below
`INITIAL_CONNECTION_TIMEOUT_MS`. -/
theorem reachable_backoffInv {env : WorkerEnv} (hnew : Sim2hWorker.new env = .ok x₀)
    (hx : Run.Reachable (U64Step encode receiptHash) x₀ x) : BackoffInv x :=
  Run.Reachable.invariant (backoffInv_new hnew)
    (fun _ l _ hs hstep => backoffInv_of_backoffMove hs (backoffMove_of_step l.1 _ _ _ hstep.1)) hx

omit [LinearOrder A] in
/-- A reconnect attempt without a connection, once the interval has passed, that fails to
connect: the backoff doubles and there is still no connection. -/
theorem checkReconnect_of_refused (env : WorkerEnv) (hconn : x.connection = false)
    (hdue : x.reconnectInterval ≤ env.now - x.timeOfLastConnectionAttempt)
    (hrefused : env.connectOk = false) :
    x.checkReconnect env = { x.innerSetBackoff (x.connectionTimeoutBackoff * 2) with
      timeOfLastConnectionAttempt := env.now, connection := false } := by
  have hready : x.connectionReady env = (false, x) := by
    simp [connectionReady, hconn]
  unfold checkReconnect
  rw [hready]
  dsimp only
  rw [if_neg (Nat.not_lt.mpr hdue), hrefused, backoff_eq]
  rfl

/-- A new worker whose first connect is refused: no connection, and the initial timeout
doubled once. -/
theorem new_of_refused (env : WorkerEnv) (hnow : initialConnectionTimeoutMs ≤ env.now)
    (hrefused : env.connectOk = false) :
    ∃ x₀ : Sim2hWorker A, Sim2hWorker.new env = .ok x₀ ∧ x₀.connection = false ∧
      x₀.connectionTimeoutBackoff = initialConnectionTimeoutMs * 2 := by
  let x : Sim2hWorker A :=
    ⟨false, none, env.now - initialConnectionTimeoutMs, initialConnectionTimeoutMs,
      initialConnectionTimeoutMs, env.now, [], ∅, [], false, 0⟩
  -- the hello is queued, and the first reconnect is due at once
  have hnew : Sim2hWorker.new env = .ok ((x.push (.hello wireVersion)).checkReconnect env) := by
    unfold Sim2hWorker.new
    rw [if_neg (Nat.not_lt.mpr hnow)]
    rfl
  have hdue : (x.push (.hello wireVersion)).reconnectInterval ≤
      env.now - (x.push (.hello wireVersion)).timeOfLastConnectionAttempt := by
    show initialConnectionTimeoutMs ≤ env.now - (env.now - initialConnectionTimeoutMs)
    omega
  rw [checkReconnect_of_refused env rfl hdue hrefused] at hnew
  exact ⟨_, hnew, rfl, rfl⟩

/-- From a reachable state without a connection, `k` reconnects in a row, each once its
interval has passed and each refused, reach a state without a connection whose backoff is
`2 ^ k` times as long. -/
theorem reachable_backoff_pow (hconn : x.connection = false)
    (hx : Run.Reachable (WorkerStep encode receiptHash) x₀ x) (k : Nat) :
    ∃ x', Run.Reachable (WorkerStep encode receiptHash) x₀ x' ∧ x'.connection = false ∧
      x'.connectionTimeoutBackoff = x.connectionTimeoutBackoff * 2 ^ k := by
  induction k with
  | zero => exact ⟨x, hx, hconn, by rw [pow_zero, mul_one]⟩
  | succ k ih =>
    -- one more attempt, at the end of the interval, with the connect refused
    obtain ⟨y, hy, hyconn, hyb⟩ := ih
    have hstep : WorkerStep encode receiptHash y
        (⟨y.timeOfLastConnectionAttempt + y.reconnectInterval, .notReady, false, false, false⟩,
          .checkReconnect) _ :=
      congrArg Except.ok
        (checkReconnect_of_refused _ hyconn (by rw [Nat.add_sub_cancel_left]) rfl)
    refine ⟨_, hy.step _ hstep, rfl, ?_⟩
    show y.connectionTimeoutBackoff * 2 = x.connectionTimeoutBackoff * 2 ^ (k + 1)
    rw [hyb, pow_succ, Nat.mul_assoc]

/-- The backoff is neither capped nor bounded. A new worker whose first connect is refused
has a backoff of 4000 ms; refused reconnects take it past `MAX_CONNECTION_TIMEOUT_MS` after
four more attempts, and after 52 to a backoff that fits in a `u64` while the next attempt
computes its double, which does not. -/
theorem backoff_passes_max_and_overflows :
    ∃ x₀, Sim2hWorker.new ⟨2000, .notReady, false, false, false⟩ = .ok x₀ ∧
      (∃ x, Run.Reachable (WorkerStep encode receiptHash) x₀ x ∧
        maxConnectionTimeoutMs < x.connectionTimeoutBackoff) ∧
      ∃ x x' l, Run.Reachable (WorkerStep encode receiptHash) x₀ x ∧
        x.connectionTimeoutBackoff < 2 ^ 64 ∧ WorkerStep encode receiptHash x l x' ∧
        x'.connectionTimeoutBackoff = x.connectionTimeoutBackoff * 2 ∧
        2 ^ 64 ≤ x'.connectionTimeoutBackoff := by
  -- the worker `new` leaves: no connection, and a backoff doubled once
  obtain ⟨x₀, hnew, hconn₀, hb₀⟩ :=
    new_of_refused (A := A) ⟨2000, .notReady, false, false, false⟩ le_rfl rfl
  have hx₀ : Run.Reachable (WorkerStep encode receiptHash) x₀ x₀ := .init
  obtain ⟨x₁, hx₁, -, hb₁⟩ := reachable_backoff_pow encode receiptHash hconn₀ hx₀ 4
  obtain ⟨y, hy, hyconn, hyb⟩ := reachable_backoff_pow encode receiptHash hconn₀ hx₀ 52
  -- the attempt after those 52
  have hstep : WorkerStep encode receiptHash y
      (⟨y.timeOfLastConnectionAttempt + y.reconnectInterval, .notReady, false, false, false⟩,
        .checkReconnect) _ :=
    congrArg Except.ok
      (checkReconnect_of_refused _ hyconn (by rw [Nat.add_sub_cancel_left]) rfl)
  have hyb' : y.connectionTimeoutBackoff = 4000 * 2 ^ 52 := by
    rw [hyb, hb₀]
    rfl
  refine ⟨x₀, hnew, ⟨x₁, hx₁, ?_⟩, y, _, _, hy, ?_, hstep, rfl, ?_⟩
  · rw [hb₁, hb₀]
    decide
  · rw [hyb']
    decide
  · show 2 ^ 64 ≤ y.connectionTimeoutBackoff * 2
    rw [hyb']
    decide

end Invariant

end Sim2hWorker

end Holochain.Net
