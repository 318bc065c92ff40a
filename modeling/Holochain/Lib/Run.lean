/-
Runs of a labelled transition system.

A system is a step relation `step s l s'` between states, labelled by what drove the step
(an action, a message, a scheduling choice). A state is reachable when finitely many steps
lead to it from the initial state.

* `Reachable.invariant` — what holds initially and what every step keeps holds on every
  reachable state;
* `Reachable.trans` — runs compose, so a step that moves one part of a larger state by
  runs of that part's own system keeps the part reachable;
* `Reachable.of_runSteps` — a deterministic partial step function, run over a list of
  labels, only reaches reachable states (used to replay a concrete trace);
* `ReachableBy.invariant` — the same over the runs whose labels all satisfy a condition;
* `ReachableBy.origin` — with the labels of a run recorded, a fact that fails initially and
  that only some labels can make true holds only after one of them.
-/
import Mathlib.Logic.Basic

namespace Run

variable {σ L : Type*}

/-- `s` is reached from `init` by finitely many steps of `step`. -/
inductive Reachable (step : σ → L → σ → Prop) (init : σ) : σ → Prop
  | init : Reachable step init init
  | step {s s' : σ} (l : L) : Reachable step init s → step s l s' → Reachable step init s'

variable {step : σ → L → σ → Prop} {init : σ}

/-- The invariant rule: an invariant of the initial state that every step keeps holds on
every reachable state. -/
theorem Reachable.invariant {P : σ → Prop} (h0 : P init)
    (hstep : ∀ s l s', P s → step s l s' → P s') {s : σ} (h : Reachable step init s) :
    P s := by
  induction h with
  | init => exact h0
  | step l _ hs ih => exact hstep _ l _ ih hs

/-- One step reaches its target. -/
theorem Reachable.single {s : σ} (l : L) (h : step init l s) : Reachable step init s :=
  .step l .init h

/-- Runs compose: what is reached from a reachable state is reachable. -/
theorem Reachable.trans {s s' : σ} (h : Reachable step init s) (h' : Reachable step s s') :
    Reachable step init s' := by
  induction h' with
  | init => exact h
  | step l _ hs ih => exact .step l ih hs

/-- Run a partial step function over a list of labels; `none` once a step is refused. -/
def runSteps (next : σ → L → Option σ) : σ → List L → Option σ
  | s, [] => some s
  | s, l :: ls => (next s l).bind (runSteps next · ls)

/-- `s` is reached from `init` by steps labelled `ls`, oldest first. -/
inductive ReachableBy (step : σ → L → σ → Prop) (init : σ) : List L → σ → Prop
  | init : ReachableBy step init [] init
  | step {ls : List L} {s s' : σ} (l : L) : ReachableBy step init ls s → step s l s' →
      ReachableBy step init (ls ++ [l]) s'

theorem ReachableBy.reachable {ls : List L} {s : σ} (h : ReachableBy step init ls s) :
    Reachable step init s := by
  induction h with
  | init => exact .init
  | step l _ hs ih => exact .step l ih hs

theorem Reachable.reachableBy {s : σ} (h : Reachable step init s) :
    ∃ ls, ReachableBy step init ls s := by
  induction h with
  | init => exact ⟨[], .init⟩
  | step l _ hs ih =>
    obtain ⟨ls, hls⟩ := ih
    exact ⟨ls ++ [l], .step l hls hs⟩

/-- The invariant rule over runs whose labels all satisfy `W`: what holds initially and what
every step with such a label keeps holds at the end. -/
theorem ReachableBy.invariant {P : σ → Prop} {W : L → Prop} (h0 : P init)
    (hstep : ∀ s l s', W l → P s → step s l s' → P s') {ls : List L} {s : σ}
    (h : ReachableBy step init ls s) (hls : ∀ l ∈ ls, W l) : P s := by
  induction h with
  | init => exact h0
  | step l _ hl ih =>
    have hprefix := fun l' hl' => hls l' (List.mem_append_left _ hl')
    exact hstep _ l _ (hls l (List.mem_append_right _ (List.mem_singleton_self l))) (ih hprefix) hl

/-- The origin rule: when a step can make `P` true only if its label is a witness, and `P`
fails initially, a run that ends in `P` has a witness among its labels. -/
theorem ReachableBy.origin {P : σ → Prop} {W : L → Prop} (h0 : ¬P init)
    (hstep : ∀ s l s', step s l s' → P s' → P s ∨ W l) {ls : List L} {s : σ}
    (h : ReachableBy step init ls s) (hs : P s) : ∃ l ∈ ls, W l := by
  induction h with
  | init => exact absurd hs h0
  | step l _ hl ih =>
    rcases hstep _ l _ hl hs with hprev | hw
    · obtain ⟨l', hl', hw'⟩ := ih hprev
      exact ⟨l', List.mem_append_left _ hl', hw'⟩
    · exact ⟨l, List.mem_append_right _ (List.mem_singleton_self l), hw⟩

/-- A run of `next` over a list of labels is a run of the system with those labels, when each
step of `next` is a step of the system. -/
theorem ReachableBy.of_runSteps {next : σ → L → Option σ}
    (hnext : ∀ s l s', next s l = some s' → step s l s') :
    ∀ {ls pre : List L} {s s' : σ}, ReachableBy step init pre s →
      runSteps next s ls = some s' → ReachableBy step init (pre ++ ls) s'
  | [], pre, s, s', hs, h => by
    simp only [runSteps, Option.some.injEq] at h
    subst h
    simpa using hs
  | l :: ls, pre, s, s', hs, h => by
    simp only [runSteps] at h
    cases hl : next s l with
    | none => simp [hl] at h
    | some s₁ =>
      rw [hl, Option.bind_some] at h
      have hrun := ReachableBy.of_runSteps hnext (ReachableBy.step l hs (hnext s l s₁ hl)) h
      simpa using hrun

/-- Every state a run of `next` reaches is reachable, when each step of `next` is a step of
the system. -/
theorem Reachable.of_runSteps {next : σ → L → Option σ}
    (hnext : ∀ s l s', next s l = some s' → step s l s') {ls : List L} {s s' : σ}
    (hs : Reachable step init s) (h : runSteps next s ls = some s') : Reachable step init s' := by
  obtain ⟨pre, hpre⟩ := hs.reachableBy
  exact (ReachableBy.of_runSteps hnext hpre h).reachable

end Run
