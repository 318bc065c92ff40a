/-
Buffers of fixed size, written at offsets and read back by slices.

A buffer is a list whose length is fixed when it is made: `write buf offset data` puts
`data` at `offset` when it fits, and `slice buf start stop` is the range `start..stop`
when it lies inside.

* `write_append_replicate` — a write right after what was written so far, into the
  unwritten rest, appends the data: a run of writes at running offsets lays the fields out
  one after the other;
* `slice_append_append` — a slice over the range of one part of a buffer laid out in parts is
  that part;
* `write_of_length_eq` — a write of a buffer's whole length gives the data.
-/
import Mathlib.Logic.Basic

namespace ByteBuf

variable {α : Type*}

/-- `data` written into `buf` at `offset`, when it fits. -/
def write (buf : List α) (offset : Nat) (data : List α) : Option (List α) :=
  if offset + data.length ≤ buf.length then
    some (buf.take offset ++ data ++ buf.drop (offset + data.length))
  else none

/-- The range `start..stop` of `buf`, when `start ≤ stop ≤ buf.length`. -/
def slice (buf : List α) (start stop : Nat) : Option (List α) :=
  if start ≤ stop ∧ stop ≤ buf.length then some ((buf.drop start).take (stop - start))
  else none

/-- A write right after a prefix, into an unwritten rest, appends the data to the prefix. -/
theorem write_append_replicate (pre data : List α) (z : α) {k offset : Nat}
    (ho : offset = pre.length) (hk : data.length ≤ k) :
    write (pre ++ List.replicate k z) offset data =
      some ((pre ++ data) ++ List.replicate (k - data.length) z) := by
  subst ho
  rw [write, if_pos (by simp only [List.length_append, List.length_replicate]; omega)]
  -- what was written stays, and the write consumes the front of the rest
  have hdrop : (pre ++ List.replicate k z).drop (pre.length + data.length) =
      List.replicate (k - data.length) z := by
    rw [List.drop_append, List.drop_eq_nil_of_le (by omega), List.nil_append,
      Nat.add_sub_cancel_left, List.drop_replicate]
  rw [hdrop, List.take_left, List.append_assoc]

/-- A write of the buffer's whole length gives the data. -/
theorem write_of_length_eq {buf data : List α} (h : data.length = buf.length) :
    write buf 0 data = some data := by
  rw [write, if_pos (by omega), List.take_zero, List.nil_append, Nat.zero_add, h,
    List.drop_length, List.append_nil]

/-- A slice past a prefix is a slice of the rest. -/
theorem slice_append_of_le (a b : List α) {start stop : Nat} (h : a.length ≤ start)
    (hle : start ≤ stop) :
    slice (a ++ b) start stop = slice b (start - a.length) (stop - a.length) := by
  have hbounds : (start ≤ stop ∧ stop ≤ (a ++ b).length) ↔
      (start - a.length ≤ stop - a.length ∧ stop - a.length ≤ b.length) := by
    rw [List.length_append]
    omega
  unfold slice
  by_cases hin : start ≤ stop ∧ stop ≤ (a ++ b).length
  · rw [if_pos hin, if_pos (hbounds.mp hin), List.drop_append,
      List.drop_eq_nil_of_le h, List.nil_append]
    congr 2
    omega
  · rw [if_neg hin, if_neg (fun hin' => hin (hbounds.mpr hin'))]

/-- A slice over a buffer's whole range is the buffer. -/
theorem slice_self (a : List α) {stop : Nat} (h : stop = a.length) : slice a 0 stop = some a := by
  subst h
  rw [slice, if_pos ⟨Nat.zero_le _, Nat.le_refl _⟩, List.drop_zero, Nat.sub_zero, List.take_length]

/-- A slice that ends inside a prefix is a slice of the prefix. -/
theorem slice_append_of_le_length (a b : List α) {start stop : Nat} (h : stop ≤ a.length) :
    slice (a ++ b) start stop = slice a start stop := by
  unfold slice
  by_cases hin : start ≤ stop ∧ stop ≤ a.length
  · rw [if_pos ⟨hin.1, by rw [List.length_append]; omega⟩, if_pos hin,
      List.drop_append_of_le_length (by omega),
      List.take_append_of_le_length (by rw [List.length_drop]; omega)]
  · rw [if_neg (by rw [List.length_append]; omega), if_neg hin]

/-- A slice over the range of the middle part of three is that part. -/
theorem slice_append_append (a b c : List α) {start stop : Nat} (hstart : start = a.length)
    (hstop : stop = a.length + b.length) : slice ((a ++ b) ++ c) start stop = some b := by
  rw [slice_append_of_le_length _ _ (by rw [List.length_append]; omega),
    slice_append_of_le a b (by omega) (by omega), show start - a.length = 0 by omega]
  exact slice_self b (by omega)

end ByteBuf
