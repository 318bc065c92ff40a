/-
The ribosome's `u64` encoding of what a zome API function returns
(`core_types/src/error/ribosome_error.rs`, `core_types/src/bits_n_pieces.rs`) and of the
wasm allocations it points at (`wasm_utils/src/memory/allocation.rs`,
`wasm_utils/src/memory/ribosome.rs`).

One `u64` carries three kinds of value: zero is success; a value whose low 32 bits are
non-zero is an allocation, offset in the high half and length in the low half; any other
value is an error code in the high half, read back by `from_code_int`. The machine words
are `UInt64` and `UInt32`; the merge and split of the halves are proved through `toNat`
and `omega`.

Main results:
* `tryFromRibosomeEncoding_asRibosomeEncoding` — an allocation `WasmAllocation::new`
  accepts decodes back to itself, through an `Allocation` value;
* `ofBits_failure` — an error code decodes back to itself, except
  `MismatchWasmCallDataType`, which `from_code_int` lacks and reads as `Unspecified`.
-/
import Mathlib.Data.Nat.Bitwise
import Holochain.CoreTypes.Error

namespace Holochain

/-! ### Halves of a `u64` -/

/-- `U32_MAX`, the largest offset-plus-length of an allocation (`MEMORY_INT_MAX`). -/
def u32Max : Nat := 4294967295

/-- `u64_high_bits`. -/
def u64HighBits (i : UInt64) : UInt32 := (i >>> 32).toUInt32

/-- `u64_low_bits`: the lossy cast. -/
def u64LowBits (i : UInt64) : UInt32 := i.toUInt32

/-- `u64_split_bits`. -/
def u64SplitBits (i : UInt64) : UInt32 × UInt32 := (u64HighBits i, u64LowBits i)

/-- `u64_merge_bits`. -/
def u64MergeBits (high low : UInt32) : UInt64 := (high.toUInt64 <<< 32) ||| low.toUInt64

theorem toNat_u64MergeBits (high low : UInt32) :
    (u64MergeBits high low).toNat = high.toNat * 2 ^ 32 + low.toNat := by
  unfold u64MergeBits
  simp only [UInt64.toNat_or, UInt64.toNat_shiftLeft, UInt32.toNat_toUInt64]
  have hlow := low.toNat_lt
  have hhigh := high.toNat_lt
  have h32 : (32 : UInt64).toNat % 64 = 32 := rfl
  -- the high half shifted stays below `2 ^ 64`, and the halves do not overlap
  have hlt : high.toNat <<< 32 < 2 ^ 64 := by
    rw [Nat.shiftLeft_eq]
    omega
  rw [h32, Nat.mod_eq_of_lt hlt, ← Nat.shiftLeft_add_eq_or_of_lt hlow, Nat.shiftLeft_eq]

@[simp] theorem u64HighBits_u64MergeBits (high low : UInt32) :
    u64HighBits (u64MergeBits high low) = high := by
  apply UInt32.toNat_inj.mp
  unfold u64HighBits
  simp only [UInt64.toNat_toUInt32, UInt64.toNat_shiftRight, toNat_u64MergeBits]
  have h32 : (32 : UInt64).toNat % 64 = 32 := rfl
  have hlow := low.toNat_lt
  have hhigh := high.toNat_lt
  rw [h32, Nat.shiftRight_eq_div_pow]
  omega

@[simp] theorem u64LowBits_u64MergeBits (high low : UInt32) :
    u64LowBits (u64MergeBits high low) = low := by
  apply UInt32.toNat_inj.mp
  unfold u64LowBits
  simp only [UInt64.toNat_toUInt32, toNat_u64MergeBits]
  have hlow := low.toNat_lt
  omega

@[simp] theorem u64SplitBits_u64MergeBits (high low : UInt32) :
    u64SplitBits (u64MergeBits high low) = (high, low) := by
  simp [u64SplitBits]

/-! ### Encoded values -/

namespace RibosomeErrorCode

/-- The `#[repr(u64)]` discriminants: `n << 32` for the `n`-th variant. -/
def discriminant : RibosomeErrorCode → UInt64
  | unspecified => (1 : UInt64) <<< 32
  | argumentDeserializationFailed => (2 : UInt64) <<< 32
  | outOfMemory => (3 : UInt64) <<< 32
  | receivedWrongActionResult => (4 : UInt64) <<< 32
  | callbackFailed => (5 : UInt64) <<< 32
  | recursiveCallForbidden => (6 : UInt64) <<< 32
  | responseSerializationFailed => (7 : UInt64) <<< 32
  | notAnAllocation => (8 : UInt64) <<< 32
  | zeroSizedAllocation => (9 : UInt64) <<< 32
  | unknownEntryType => (10 : UInt64) <<< 32
  | mismatchWasmCallDataType => (11 : UInt64) <<< 32
  | entryNotFound => (12 : UInt64) <<< 32
  | workflowFailed => (13 : UInt64) <<< 32

/-- `RibosomeErrorCode::from_code_int`: the table from the high half back to a code. A
zero code panics; `1 | _` is the last arm. -/
def fromCodeInt (code : UInt32) : Except String RibosomeErrorCode :=
  match code.toNat with
  | 0 => .error "RibosomeErrorCode == 0 encountered"
  | 2 => .ok argumentDeserializationFailed
  | 3 => .ok outOfMemory
  | 4 => .ok receivedWrongActionResult
  | 5 => .ok callbackFailed
  | 6 => .ok recursiveCallForbidden
  | 7 => .ok responseSerializationFailed
  | 8 => .ok notAnAllocation
  | 9 => .ok zeroSizedAllocation
  | 10 => .ok unknownEntryType
  | 12 => .ok entryNotFound
  | 13 => .ok workflowFailed
  | _ => .ok unspecified

end RibosomeErrorCode

/-- `RibosomeEncodedAllocation`: the bits of an allocation, not checked. -/
structure RibosomeEncodedAllocation where
  bits : UInt64
  deriving DecidableEq, Repr

/-- `RibosomeEncodedValue`. -/
inductive RibosomeEncodedValue
  | success
  | allocation (a : RibosomeEncodedAllocation)
  | failure (code : RibosomeErrorCode)
  deriving DecidableEq, Repr

namespace RibosomeEncodedValue

/-- `From<RibosomeEncodedValue> for RibosomeEncodingBits`; an error code goes through
`code as i64 as u64`. -/
def toBits : RibosomeEncodedValue → UInt64
  | success => 0
  | allocation a => a.bits
  | failure code => code.discriminant.toInt64.toUInt64

/-- `From<RibosomeEncodingBits> for RibosomeEncodedValue`; the panic of `from_code_int` is
`Except.error`. -/
def ofBits (i : UInt64) : Except String RibosomeEncodedValue :=
  if i = 0 then .ok success
  else
    let (codeInt, maybeAllocationLength) := u64SplitBits i
    if maybeAllocationLength = 0 then failure <$> RibosomeErrorCode.fromCodeInt codeInt
    else .ok (allocation ⟨i⟩)

/-- Zero is success, both ways. -/
theorem ofBits_toBits_success : ofBits success.toBits = .ok success := rfl

/-- An error code decodes back to itself, except `MismatchWasmCallDataType`: its high half
11 has no arm in `from_code_int` and falls to `Unspecified`. -/
theorem ofBits_failure (code : RibosomeErrorCode) :
    ofBits (failure code).toBits =
      .ok (failure (if code = .mismatchWasmCallDataType then .unspecified else code)) := by
  cases code <;> decide

/-- Any word whose low half is not zero decodes as an allocation of itself. -/
theorem ofBits_of_u64LowBits_ne_zero {i : UInt64} (h : u64LowBits i ≠ 0) :
    ofBits i = .ok (allocation ⟨i⟩) := by
  have hi : i ≠ 0 := by
    rintro rfl
    exact h rfl
  simp [ofBits, hi, u64SplitBits, h]

end RibosomeEncodedValue

/-! ### Wasm allocations -/

/-- `AllocationError`. -/
inductive AllocationError
  | outOfBounds
  | zeroLength
  | badStackAlignment
  | serialization
  deriving DecidableEq, Repr

/-- `From<AllocationError> for RibosomeErrorCode`. -/
def AllocationError.toRibosomeErrorCode : AllocationError → RibosomeErrorCode
  | .outOfBounds => .outOfMemory
  | .zeroLength => .zeroSizedAllocation
  | .badStackAlignment => .notAnAllocation
  | .serialization => .notAnAllocation

/-- `AllocationError::as_ribosome_encoding`. -/
def AllocationError.asRibosomeEncoding (e : AllocationError) : UInt64 :=
  (RibosomeEncodedValue.failure e.toRibosomeErrorCode).toBits

/-- `WasmAllocation`: an offset and a length that `WasmAllocation::new` accepted. -/
structure WasmAllocation where
  offset : UInt32
  length : UInt32
  length_ne_zero : length ≠ 0
  le_u32Max : offset.toNat + length.toNat ≤ u32Max

namespace WasmAllocation

/-- `WasmAllocation::new`. The bound is checked on the `u64` sum, which cannot overflow. -/
def new (offset length : UInt32) : Except AllocationError WasmAllocation :=
  if hmax : offset.toNat + length.toNat > u32Max then .error .outOfBounds
  else if hlength : length = 0 then .error .zeroLength
  else .ok ⟨offset, length, hlength, Nat.le_of_not_gt hmax⟩

/-- `new` accepts the fields of every allocation, and rebuilds it. -/
theorem new_offset_length (a : WasmAllocation) : new a.offset a.length = .ok a := by
  have hmax : ¬a.offset.toNat + a.length.toNat > u32Max := Nat.not_lt_of_ge a.le_u32Max
  simp [new, hmax, a.length_ne_zero]

/-- `From<WasmAllocation> for RibosomeEncodedAllocation`. -/
def toEncodedAllocation (a : WasmAllocation) : RibosomeEncodedAllocation :=
  ⟨u64MergeBits a.offset a.length⟩

/-- `TryFrom<RibosomeEncodedAllocation> for WasmAllocation`. -/
def tryFromEncodedAllocation (a : RibosomeEncodedAllocation) :
    Except AllocationError WasmAllocation :=
  let (offset, length) := u64SplitBits a.bits
  new offset length

/-- `WasmAllocation::as_ribosome_encoding`. -/
def asRibosomeEncoding (a : WasmAllocation) : UInt64 :=
  (RibosomeEncodedValue.allocation a.toEncodedAllocation).toBits

/-- `WasmAllocation::try_from_ribosome_encoding`; a panic of the decoding is the outer
`Except.error`. -/
def tryFromRibosomeEncoding (encodedValue : UInt64) :
    Except String (Except AllocationError WasmAllocation) :=
  (fun v => match v with
    | .success => .error .zeroLength
    | .failure _ => .error .outOfBounds
    | .allocation a => tryFromEncodedAllocation a) <$> RibosomeEncodedValue.ofBits encodedValue

/-- The encoding of an allocation decodes as that allocation's `Allocation` value. -/
theorem ofBits_asRibosomeEncoding (a : WasmAllocation) :
    RibosomeEncodedValue.ofBits a.asRibosomeEncoding =
      .ok (.allocation a.toEncodedAllocation) := by
  apply RibosomeEncodedValue.ofBits_of_u64LowBits_ne_zero
  simpa [asRibosomeEncoding, toEncodedAllocation, RibosomeEncodedValue.toBits] using
    a.length_ne_zero

/-- The allocation round trip: `try_from_ribosome_encoding(a.as_ribosome_encoding())`
gives `a` back, for every allocation `new` builds. -/
theorem tryFromRibosomeEncoding_asRibosomeEncoding (a : WasmAllocation) :
    tryFromRibosomeEncoding a.asRibosomeEncoding = .ok (.ok a) := by
  rw [tryFromRibosomeEncoding, ofBits_asRibosomeEncoding]
  simp [tryFromEncodedAllocation, toEncodedAllocation, new_offset_length]

end WasmAllocation

/-- The failure `MismatchWasmCallDataType` encodes to `11 << 32` and decodes as
`Failure(Unspecified)`. -/
theorem mismatch_code_decodes_unspecified :
    RibosomeEncodedValue.ofBits (RibosomeEncodedValue.failure .mismatchWasmCallDataType).toBits =
      .ok (.failure .unspecified) := by
  simpa using RibosomeEncodedValue.ofBits_failure .mismatchWasmCallDataType

end Holochain
