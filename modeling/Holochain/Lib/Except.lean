/-
Computation rules for `Except`, the monad in which the model writes fallible code.

The core library has the monad laws but no simp lemmas that run a `bind`, a `map` or a
`mapError` on a constructor; these are the ones the development uses, and the inversion rules
`Except.bind_eq_ok`, `Except.exists_bind_eq_ok`, `Except.map_eq_ok`, `Except.forM_eq_ok` and
`Except.exists_eq_ok_of_mapM_eq_ok` that take a successful computation apart, and
`Except.forM_eq_error` for a loop of checks that all fail the same way.
-/
import Mathlib.Logic.Basic

namespace Except

variable {ε : Type*} {α β : Type}

@[simp] theorem ok_bind (a : α) (f : α → Except ε β) : (Except.ok a >>= f) = f a := rfl

@[simp] theorem error_bind (e : ε) (f : α → Except ε β) :
    (Except.error e >>= f) = Except.error e := rfl

@[simp] theorem map_ok' (f : α → β) (a : α) : (f <$> (Except.ok a : Except ε α)) = .ok (f a) :=
  rfl

@[simp] theorem map_error' (f : α → β) (e : ε) :
    (f <$> (Except.error e : Except ε α)) = .error e := rfl

@[simp] theorem ok_map (f : α → β) (a : α) : (Except.ok a : Except ε α).map f = .ok (f a) := rfl

@[simp] theorem error_map (f : α → β) (e : ε) : (Except.error e : Except ε α).map f = .error e :=
  rfl

@[simp] theorem mapError_ok {ε' : Type*} (f : ε → ε') (a : α) :
    (Except.ok a : Except ε α).mapError f = .ok a := rfl

@[simp] theorem mapError_error {ε' : Type*} (f : ε → ε') (e : ε) :
    (Except.error e : Except ε α).mapError f = .error (f e) := rfl

/-- Mapping the error changes no success. -/
@[simp] theorem mapError_eq_ok {ε' : Type*} {x : Except ε α} {f : ε → ε'} {a : α} :
    x.mapError f = .ok a ↔ x = .ok a := by
  cases x <;> simp

@[simp] theorem pure_eq_ok (a : α) : (pure a : Except ε α) = .ok a := rfl

@[simp] theorem throw_eq_error (e : ε) : (throw e : Except ε α) = .error e := rfl

/-- A check that returns nothing, followed by the rest of the computation. -/
theorem bind_const_eq_ok {x : Except ε PUnit} {y : Except ε β} {b : β} :
    (x >>= fun _ => y) = .ok b ↔ x = .ok PUnit.unit ∧ y = .ok b := by
  cases x with
  | error e => simp
  | ok u => simp

/-- The shape of Rust's `cond.ok_or_else(|| e)?` on a boolean. -/
@[simp] theorem ite_pure_throw_eq_ok {p : Prop} [Decidable p] {e : ε} :
    (if p then pure () else throw e : Except ε Unit) = .ok () ↔ p := by
  by_cases hp : p <;> simp [hp]

/-- A `bind` succeeds exactly when both computations do. -/
theorem bind_eq_ok {x : Except ε α} {f : α → Except ε β} {b : β} :
    (x >>= f) = .ok b ↔ ∃ a, x = .ok a ∧ f a = .ok b := by
  cases x with
  | error e => simp
  | ok a => simp

/-- A `bind` succeeds with some value exactly when the first computation does and the
second succeeds on its value. -/
theorem exists_bind_eq_ok {x : Except ε α} {f : α → Except ε β} :
    (∃ b, (x >>= f) = .ok b) ↔ ∃ a, x = .ok a ∧ ∃ b, f a = .ok b := by
  cases x with
  | error e => simp
  | ok a => simp

/-- A `map` succeeds exactly when the computation does. -/
theorem map_eq_ok {x : Except ε α} {f : α → β} {b : β} :
    (f <$> x) = .ok b ↔ ∃ a, x = .ok a ∧ f a = b := by
  cases x with
  | error e => simp
  | ok a => simp

/-- A loop of checks over a list succeeds exactly when every check does. -/
theorem forM_eq_ok {l : List α} {f : α → Except ε PUnit} :
    l.forM f = .ok PUnit.unit ↔ ∀ x ∈ l, f x = .ok PUnit.unit := by
  induction l with
  | nil => simp only [List.not_mem_nil, false_implies, implies_true, iff_true]; rfl
  | cons x xs ih =>
    show (f x >>= fun _ => xs.forM f) = _ ↔ _
    cases hx : f x with
    | error e =>
      constructor
      · intro h
        cases h
      · intro h
        have hfx := h x List.mem_cons_self
        rw [hx] at hfx
        cases hfx
    | ok u =>
      change xs.forM f = _ ↔ _
      rw [ih]
      simp [hx]

/-- A `mapM` whose every step succeeds returns the list of the step values. -/
theorem mapM_eq_ok_map {l : List α} {f : α → Except ε β} {g : α → β}
    (h : ∀ x ∈ l, f x = .ok (g x)) : l.mapM f = .ok (l.map g) := by
  induction l with
  | nil => rfl
  | cons x xs ih =>
    rw [List.mapM_cons, h x List.mem_cons_self, ih fun y hy => h y (List.mem_cons_of_mem x hy)]
    rfl

/-- A `foldlM` whose every step succeeds is the `foldl` of the step values. -/
theorem foldlM_eq_ok_foldl {l : List α} {f : β → α → Except ε β} {g : β → α → β}
    (h : ∀ b, ∀ x ∈ l, f b x = .ok (g b x)) (b : β) : l.foldlM f b = .ok (l.foldl g b) := by
  induction l generalizing b with
  | nil => rfl
  | cons x xs ih =>
    rw [List.foldlM_cons, h b x List.mem_cons_self]
    exact ih (fun b' y hy => h b' y (List.mem_cons_of_mem x hy)) (g b x)

/-- A `mapM` whose every step succeeds succeeds. -/
theorem exists_mapM_eq_ok {l : List α} {f : α → Except ε β} (h : ∀ x ∈ l, ∃ y, f x = .ok y) :
    ∃ ys, l.mapM f = .ok ys := by
  induction l with
  | nil => exact ⟨[], rfl⟩
  | cons x xs ih =>
    obtain ⟨y, hy⟩ := h x List.mem_cons_self
    obtain ⟨ys, hys⟩ := ih fun z hz => h z (List.mem_cons_of_mem x hz)
    refine ⟨y :: ys, ?_⟩
    rw [List.mapM_cons, hy, hys]
    rfl

/-- Every step of a successful `mapM` succeeds. -/
theorem exists_eq_ok_of_mapM_eq_ok {l : List α} {f : α → Except ε β} {ys : List β}
    (h : l.mapM f = .ok ys) : ∀ x ∈ l, ∃ y, f x = .ok y := by
  induction l generalizing ys with
  | nil => simp
  | cons x xs ih =>
    rw [List.mapM_cons] at h
    obtain ⟨y, hy, h⟩ := bind_eq_ok.mp h
    obtain ⟨ys', hys, -⟩ := bind_eq_ok.mp h
    intro z hz
    rcases List.mem_cons.mp hz with rfl | hz
    · exact ⟨y, hy⟩
    · exact ih hys z hz

/-- A loop of checks that each pass or fail with one error, and one of which fails, fails with
that error. -/
theorem forM_eq_error {l : List α} {f : α → Except ε PUnit} {e : ε}
    (hcases : ∀ x ∈ l, f x = .ok PUnit.unit ∨ f x = .error e) (hfail : ∃ x ∈ l, f x = .error e) :
    l.forM f = .error e := by
  induction l with
  | nil =>
    obtain ⟨x, hx, -⟩ := hfail
    exact absurd hx List.not_mem_nil
  | cons x xs ih =>
    show (f x >>= fun _ => xs.forM f) = _
    rcases hcases x List.mem_cons_self with hx | hx
    · -- the head passes, so a later check fails
      rw [hx]
      change xs.forM f = _
      refine ih (fun y hy => hcases y (List.mem_cons_of_mem x hy)) ?_
      obtain ⟨y, hy, hfy⟩ := hfail
      rcases List.mem_cons.mp hy with rfl | hy
      · rw [hx] at hfy
        cases hfy
      · exact ⟨y, hy, hfy⟩
    · rw [hx]
      rfl

end Except
