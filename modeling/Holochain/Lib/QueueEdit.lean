/-
Edits of a queue whose items are named by distinct keys.

One step of a queue drops some items and adds fresh ones, with keys the queue did not have,
at the front and at the back. On the key lists this is `QueueEdit keys keys'`: the keys after
the step are `front ++ kept ++ back`, with `kept` a sublist of the keys before and `front`,
`back` fresh.

* `QueueEdit.survivors_eq` — over distinct keys, the items that both lists have stand in the
  same order in both;
* `QueueEdit.mem_kept` — an old key still there after the edit is one of the kept ones;
* `QueueEdit.refl`, `append_fresh`, `tail`, `cons_fresh` — the edits a queue makes.
-/
import Mathlib.Data.List.Nodup

variable {κ : Type}

/-- `keys'` is `keys` with some keys dropped and fresh ones added at the front and the
back. -/
def QueueEdit (keys keys' : List κ) : Prop :=
  ∃ front kept back, keys' = front ++ kept ++ back ∧ kept.Sublist keys ∧
    (∀ k ∈ front, k ∉ keys) ∧ (∀ k ∈ back, k ∉ keys)

namespace QueueEdit

/-- Filtering distinct keys by membership in a sublist gives the sublist back. -/
theorem filter_mem_of_sublist [DecidableEq κ] {keys kept : List κ} (hnodup : keys.Nodup)
    (hsub : kept.Sublist keys) : keys.filter (· ∈ kept) = kept := by
  induction hsub with
  | slnil => rfl
  | cons a hsub ih =>
    -- a dropped key: distinct keys keep it out of the sublist
    rw [List.nodup_cons] at hnodup
    have ha : a ∉ _ := fun h => hnodup.1 (hsub.subset h)
    rw [List.filter_cons_of_neg (by simpa using ha), ih hnodup.2]
  | cons_cons a hsub ih =>
    rw [List.nodup_cons] at hnodup
    rw [List.filter_cons_of_pos (by simp)]
    congr 1
    refine (List.filter_congr fun x hx => ?_).trans (ih hnodup.2)
    have hxa : x ≠ a := fun h => hnodup.1 (h ▸ hx)
    simp [hxa]

/-- Over distinct keys, the survivors of an edit keep their order: the new keys that are
old, in the new order, are the old keys that survive, in the old order. -/
theorem survivors_eq [DecidableEq κ] {keys keys' : List κ} (hnodup : keys.Nodup) (h : QueueEdit keys keys') :
    keys'.filter (· ∈ keys) = keys.filter (· ∈ keys') := by
  obtain ⟨front, kept, back, rfl, hsub, hfront, hback⟩ := h
  have hfront' : front.filter (· ∈ keys) = [] :=
    List.filter_eq_nil_iff.mpr fun k hk => by simpa using hfront k hk
  have hback' : back.filter (· ∈ keys) = [] :=
    List.filter_eq_nil_iff.mpr fun k hk => by simpa using hback k hk
  have hkept : kept.filter (· ∈ keys) = kept :=
    List.filter_eq_self.mpr fun k hk => by simpa using hsub.subset hk
  -- on the old keys, membership in the new list is membership in the kept part
  have hmem : keys.filter (· ∈ front ++ kept ++ back) = keys.filter (· ∈ kept) := by
    refine List.filter_congr fun k hk => ?_
    have hkf : k ∉ front := fun h => hfront k h hk
    have hkb : k ∉ back := fun h => hback k h hk
    simp [hkf, hkb]
  rw [List.filter_append, List.filter_append, hfront', hback', hkept, hmem,
    filter_mem_of_sublist hnodup hsub]
  simp

theorem mem_kept {keys keys' : List κ} {k : κ} (h : QueueEdit keys keys') (hk : k ∈ keys)
    (hk' : k ∈ keys') : ∃ front kept back, keys' = front ++ kept ++ back ∧
      kept.Sublist keys ∧ k ∈ kept := by
  obtain ⟨front, kept, back, rfl, hsub, hfront, hback⟩ := h
  refine ⟨front, kept, back, rfl, hsub, ?_⟩
  rcases List.mem_append.mp hk' with hfk | hbk
  · rcases List.mem_append.mp hfk with hf | hkk
    · exact absurd hk (hfront k hf)
    · exact hkk
  · exact absurd hk (hback k hbk)

theorem refl (keys : List κ) : QueueEdit keys keys :=
  ⟨[], keys, [], by simp, List.Sublist.refl keys, by simp, by simp⟩

theorem append_fresh {keys : List κ} {k : κ} (hk : k ∉ keys) : QueueEdit keys (keys ++ [k]) :=
  ⟨[], keys, [k], by simp, List.Sublist.refl keys, by simp, by simpa using hk⟩

theorem tail (k : κ) (keys : List κ) : QueueEdit (k :: keys) keys :=
  ⟨[], keys, [], by simp, List.sublist_cons_self k keys, by simp, by simp⟩

theorem cons_fresh {keys kept : List κ} {k : κ} (hk : k ∉ keys) (hsub : kept.Sublist keys) :
    QueueEdit keys (k :: kept) :=
  ⟨[k], kept, [], by simp, hsub, by simpa using hk, by simp⟩

end QueueEdit
