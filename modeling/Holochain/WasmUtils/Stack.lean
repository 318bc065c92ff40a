/-
The stack allocator of the wasm memory (`wasm_utils/src/memory/stack.rs`): a top that
allocations push up and deallocations pull back down, over the allocations that
`WasmAllocation::new` accepts (`Holochain.CoreTypes.Ribosome`), and its use by
`write_in_wasm_memory` and `write_string` (`wasm_utils/src/memory/write.rs`).

`MemoryInt` is `u32`, here `UInt32`, whose addition wraps as a release build's does; the bound
checks are made on the `u64` sums (`MemoryBits`), here `Nat`. A call takes `&mut self`: it
returns its result beside the stack it leaves. The bytes that a write copies into the memory
are not modelled, only how many there are.

Main results:
* `toNat_offset_add_length` — the `u32` sum of an allocation's offset and length never wraps;
* `allocate_isOk_iff`, `allocate_of_offset_eq`, `deallocate_of_top_eq` — when each call
  succeeds and the top it leaves; `allocate_of_isOk_eq_false`, `deallocate_of_isOk_eq_false` —
  a failed call leaves the stack as it was;
* `deallocateAll_reverse_allocateAll` — deallocating a run of allocations in reverse order
  succeeds at every step and brings the top back;
* `wasm_stack_lifo` — the above, assembled.
-/
import Holochain.CoreTypes.Ribosome

namespace Holochain

/-- `WasmStack`; its `Top` is a `MemoryInt`. -/
structure WasmStack where
  top : UInt32
  deriving DecidableEq, Repr

namespace WasmStack

/-- `WasmStack::max()`, `MEMORY_INT_MAX` as `MemoryBits`. -/
def max : Nat := u32Max

/-- `WasmStack::min()`. -/
def min : UInt32 := 0

/-- `WasmStack::new`. -/
def new : WasmStack := ⟨min⟩

/-- `WasmStack::next_allocation`: `length` bytes at the top. -/
def nextAllocation (s : WasmStack) (length : UInt32) : Except AllocationError WasmAllocation :=
  WasmAllocation.new s.top length

/-- `WasmStack::allocate`: the allocation must start at the top and end within the memory; the
old top is returned. -/
def allocate (s : WasmStack) (a : WasmAllocation) : Except AllocationError UInt32 × WasmStack :=
  if s.top ≠ a.offset then (.error .badStackAlignment, s)
  else if s.top.toNat + a.length.toNat > max then (.error .outOfBounds, s)
  else (.ok s.top, ⟨a.offset + a.length⟩)

/-- `WasmStack::deallocate`: the allocation must end at the top; the old top is returned. -/
def deallocate (s : WasmStack) (a : WasmAllocation) : Except AllocationError UInt32 × WasmStack :=
  if s.top ≠ a.offset + a.length then (.error .badStackAlignment, s)
  else if a.offset < min then (.error .outOfBounds, s)
  else (.ok s.top, ⟨a.offset⟩)

/-- `TryFrom<WasmAllocation> for WasmStack`: a stack whose one allocation is `a`. -/
def tryFrom (a : WasmAllocation) : Except AllocationError WasmStack :=
  match (WasmStack.mk a.offset).allocate a with
  | (.error e, _) => .error e
  | (.ok _, stack) => .ok stack

/-- What `write_in_wasm_memory` does to the stack: the next allocation of `length` bytes,
allocated, and the allocation of the returned pointer rebuilt. -/
def writeInWasmMemory (s : WasmStack) (length : UInt32) :
    Except AllocationError WasmAllocation × WasmStack :=
  match s.nextAllocation length with
  | .error e => (.error e, s)
  | .ok next =>
    match s.allocate next with
    | (.error e, s') => (.error e, s')
    | (.ok ptr, s') => (WasmAllocation.new ptr length, s')

/-- What `write_string` does to the stack, for a string of `n` bytes: at least one byte is
allocated, and `as MemoryInt` keeps the low 32 bits of the count, so the bound test after it
never fails. -/
def writeString (s : WasmStack) (n : Nat) : Except AllocationError WasmAllocation × WasmStack :=
  let length : UInt32 := UInt32.ofNat (Nat.max n 1)
  if length.toNat > max then (.error .outOfBounds, s)
  else s.writeInWasmMemory length

/-- Allocate each allocation in turn, stopping at the first failure. -/
def allocateAll (s : WasmStack) : List WasmAllocation → Except AllocationError WasmStack
  | [] => .ok s
  | a :: as =>
    match s.allocate a with
    | (.error e, _) => .error e
    | (.ok _, s') => allocateAll s' as

/-- Deallocate each allocation in turn, stopping at the first failure. -/
def deallocateAll (s : WasmStack) : List WasmAllocation → Except AllocationError WasmStack
  | [] => .ok s
  | a :: as =>
    match s.deallocate a with
    | (.error e, _) => .error e
    | (.ok _, s') => deallocateAll s' as

end WasmStack

/-! ### No `u32` sum wraps -/

/-- The `u32` sum of an allocation's offset and length is the exact sum: `WasmAllocation::new`
bounded it by `u32::MAX`. -/
theorem toNat_offset_add_length (a : WasmAllocation) :
    (a.offset + a.length).toNat = a.offset.toNat + a.length.toNat := by
  have hle := a.le_u32Max
  unfold u32Max at hle
  rw [UInt32.toNat_add, Nat.mod_eq_of_lt (by omega)]

namespace WasmStack

variable {s : WasmStack} {a : WasmAllocation}

/-! ### One call -/

/-- An allocation at the top always fits: the top is its offset, and `new` bounded the sum. -/
theorem allocate_of_offset_eq (h : a.offset = s.top) :
    s.allocate a = (.ok s.top, ⟨s.top + a.length⟩) := by
  have hle := a.le_u32Max
  rw [h] at hle
  rw [allocate, if_neg (by simp [h]), if_neg (by unfold max; omega), h]

/-- `allocate` succeeds exactly when the allocation starts at the top and ends within the
memory. -/
theorem allocate_isOk_iff :
    (s.allocate a).1.isOk = true ↔ a.offset = s.top ∧ s.top.toNat + a.length.toNat ≤ u32Max := by
  constructor
  · intro hok
    by_cases halign : a.offset = s.top
    · refine ⟨halign, ?_⟩
      by_contra hbound
      rw [allocate, if_neg (by simp [halign]), if_pos (by unfold max; omega)] at hok
      cases hok
    · rw [allocate, if_pos (fun h => halign h.symm)] at hok
      cases hok
  · rintro ⟨h, -⟩
    rw [allocate_of_offset_eq h]
    rfl

/-- A failed `allocate` leaves the stack as it was. -/
theorem allocate_of_isOk_eq_false (h : (s.allocate a).1.isOk = false) : (s.allocate a).2 = s := by
  unfold allocate at h ⊢
  split_ifs at h ⊢ <;> first | rfl | cases h

/-- An allocation ending at the top is deallocated, and the top goes back to its offset. -/
theorem deallocate_of_top_eq (h : s.top = a.offset + a.length) :
    s.deallocate a = (.ok s.top, ⟨a.offset⟩) := by
  have hmin : ¬a.offset < min := by simp [min, UInt32.lt_iff_toNat_lt]
  rw [deallocate, if_neg (not_not.mpr h), if_neg hmin]

/-- A failed `deallocate` leaves the stack as it was. -/
theorem deallocate_of_isOk_eq_false (h : (s.deallocate a).1.isOk = false) :
    (s.deallocate a).2 = s := by
  unfold deallocate at h ⊢
  split_ifs at h ⊢ <;> first | rfl | cases h

/-- `try_from` gives the stack whose top is the end of the allocation. -/
theorem tryFrom_eq (a : WasmAllocation) : tryFrom a = .ok ⟨a.offset + a.length⟩ := by
  rw [tryFrom, allocate_of_offset_eq rfl]

/-- `write_in_wasm_memory` fails exactly when the next allocation does, and then changes
nothing; otherwise it allocates `length` bytes at the top and returns that allocation. -/
theorem writeInWasmMemory_eq (length : UInt32) :
    s.writeInWasmMemory length =
      match s.nextAllocation length with
      | .error e => (.error e, s)
      | .ok next => (.ok next, ⟨s.top + length⟩) := by
  unfold writeInWasmMemory
  cases hnext : s.nextAllocation length with
  | error e => rfl
  | ok next =>
    -- the next allocation starts at the top and has the requested length
    have hnew : WasmAllocation.new s.top length = .ok next := hnext
    have hfields : next.offset = s.top ∧ next.length = length := by
      unfold WasmAllocation.new at hnew
      split_ifs at hnew
      cases hnew
      exact ⟨rfl, rfl⟩
    obtain ⟨hoffset, hlength⟩ := hfields
    simp only [allocate_of_offset_eq hoffset, hlength, hnew]

/-- `write_string`'s bound test never fails: the count was cut to 32 bits before it. -/
theorem writeString_eq (n : Nat) :
    s.writeString n = s.writeInWasmMemory (UInt32.ofNat (Nat.max n 1)) := by
  have hlt := (UInt32.ofNat (Nat.max n 1)).toNat_lt
  rw [writeString, if_neg (by unfold max u32Max; omega)]

/-! ### Runs -/

/-- After a run that succeeds, the run continues from the stack it left. -/
theorem deallocateAll_append {l₁ : List WasmAllocation} :
    ∀ {s s₁ : WasmStack}, deallocateAll s l₁ = .ok s₁ →
      ∀ l₂, deallocateAll s (l₁ ++ l₂) = deallocateAll s₁ l₂ := by
  induction l₁ with
  | nil =>
    intro s s₁ h l₂
    cases h
    rfl
  | cons a l₁ ih =>
    intro s s₁ h l₂
    unfold deallocateAll at h
    rw [List.cons_append, deallocateAll]
    split at h
    · cases h
    · rename_i top s' _
      exact ih h l₂

/-- Allocating a run of allocations and then deallocating them in reverse order brings the stack
back: each deallocation finds its allocation ending at the top. -/
theorem deallocateAll_reverse_allocateAll (as : List WasmAllocation) :
    ∀ {s s' : WasmStack}, allocateAll s as = .ok s' → deallocateAll s' as.reverse = .ok s := by
  induction as with
  | nil =>
    intro s s' h
    cases h
    rfl
  | cons a as ih =>
    intro s s' h
    -- the first allocation succeeded, so it started at the top
    have hok : (s.allocate a).1.isOk = true := by
      unfold allocateAll at h
      split at h
      · cases h
      · rename_i top s₁ heq
        rw [heq]
        rfl
    have hoffset := (allocate_isOk_iff.mp hok).1
    rw [allocateAll, allocate_of_offset_eq hoffset] at h
    -- the rest of the run comes back to the end of the first allocation, which then goes
    have hrest := ih h
    rw [List.reverse_cons, deallocateAll_append hrest, deallocateAll, deallocate_of_top_eq
      (by rw [hoffset]), hoffset]
    rfl

end WasmStack

/-- The stack allocator's guarantees, for every stack and every allocation `new` accepts: no
`u32` sum of offset and length wraps; `allocate` succeeds exactly when the allocation starts at
the top and ends within the memory, and then moves the top to the allocation's end; a failed
`allocate` or `deallocate` leaves the stack as it was; and allocations deallocated in reverse
order are all deallocated and bring the top back. -/
theorem wasm_stack_lifo (s : WasmStack) (a : WasmAllocation) :
    (a.offset + a.length).toNat = a.offset.toNat + a.length.toNat ∧
      ((s.allocate a).1.isOk = true ↔
        a.offset = s.top ∧ s.top.toNat + a.length.toNat ≤ u32Max) ∧
      ((s.allocate a).1.isOk = true →
        (s.allocate a).2.top.toNat = s.top.toNat + a.length.toNat) ∧
      ((s.allocate a).1.isOk = false → (s.allocate a).2 = s) ∧
      ((s.deallocate a).1.isOk = false → (s.deallocate a).2 = s) ∧
      ∀ (as : List WasmAllocation) (s' : WasmStack),
        WasmStack.allocateAll s as = .ok s' → WasmStack.deallocateAll s' as.reverse = .ok s := by
  refine ⟨toNat_offset_add_length a, WasmStack.allocate_isOk_iff, fun hok => ?_,
    WasmStack.allocate_of_isOk_eq_false, WasmStack.deallocate_of_isOk_eq_false,
    fun as _ h => WasmStack.deallocateAll_reverse_allocateAll as h⟩
  -- the new top is the allocation's end, with the top as its offset
  have hoffset := (WasmStack.allocate_isOk_iff.mp hok).1
  rw [WasmStack.allocate_of_offset_eq hoffset, ← hoffset]
  exact toNat_offset_add_length a

end Holochain
