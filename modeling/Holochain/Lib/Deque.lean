/-
Double-ended queues (`VecDeque`) as lists, with the two operations that remove elements
from the middle of one:

* `removeFirst?`: the first element that passes a test, taken out, as
  `iter().position(p).and_then(|i| remove(i))` computes it;
* `uniqueBy`: later elements with a key seen before dropped, as `Itertools::unique_by`
  computes it.

Main results: `removeFirst?_eq_some_split` and `removeFirst?_eq_none_forall` say which
element is removed and that the rest keeps its order; `perm_move_back` and
`perm_move_front` that moving it to the back of a second deque only permutes the two;
`uniqueBy_sublist` that deduplication keeps a sublist; `map_set_of_getElem?_eq` that an
in-place update keeping an element's image keeps the image of the list.
-/
import Mathlib.Data.List.Perm.Basic

namespace List

variable {α β : Type*}

/-- `VecDeque::remove(i)`: the element at index `i` and the deque without it. -/
def removeAt? (l : List α) (i : Nat) : Option (α × List α) :=
  l[i]?.map fun x => (x, l.eraseIdx i)

/-- `iter().position(p).and_then(|i| remove(i))`. -/
def removeFirst? (p : α → Bool) (l : List α) : Option (α × List α) :=
  (l.findIdx? p).bind l.removeAt?

theorem removeAt?_cons_succ (a : α) (l : List α) (i : Nat) :
    (a :: l).removeAt? (i + 1) = (l.removeAt? i).map fun r => (r.1, a :: r.2) := by
  simp only [removeAt?, getElem?_cons_succ, eraseIdx_cons_succ, Option.map_map]
  rfl

theorem removeFirst?_nil (p : α → Bool) : ([] : List α).removeFirst? p = none := rfl

theorem removeFirst?_cons (p : α → Bool) (a : α) (l : List α) :
    (a :: l).removeFirst? p =
      if p a then some (a, l) else (l.removeFirst? p).map fun r => (r.1, a :: r.2) := by
  by_cases ha : p a
  · simp [removeFirst?, removeAt?, findIdx?_cons, ha]
  · cases h : l.findIdx? p with
    | none => simp [removeFirst?, findIdx?_cons, ha, h]
    | some i => simp [removeFirst?, findIdx?_cons, ha, h, removeAt?_cons_succ]

/-- The element removed is the first that passes the test; the others keep their order. -/
theorem removeFirst?_eq_some_split {p : α → Bool} :
    ∀ {l : List α} {x : α} {rest : List α}, l.removeFirst? p = some (x, rest) →
      ∃ pre post, l = pre ++ x :: post ∧ (∀ y ∈ pre, p y = false) ∧ p x = true ∧
        rest = pre ++ post
  | [], _, _, h => by simp [removeFirst?_nil] at h
  | a :: l, x, rest, h => by
    rw [removeFirst?_cons] at h
    by_cases ha : p a
    · rw [if_pos ha, Option.some.injEq, Prod.mk.injEq] at h
      obtain ⟨rfl, rfl⟩ := h
      exact ⟨[], l, rfl, by simp, ha, rfl⟩
    · rw [if_neg ha, Option.map_eq_some_iff] at h
      obtain ⟨⟨x', rest'⟩, hr, hxr⟩ := h
      simp only [Prod.mk.injEq] at hxr
      obtain ⟨rfl, rfl⟩ := hxr
      obtain ⟨pre, post, rfl, hpre, hx, rfl⟩ := removeFirst?_eq_some_split hr
      refine ⟨a :: pre, post, rfl, ?_, hx, rfl⟩
      intro y hy
      rcases mem_cons.mp hy with rfl | hy
      · simpa using ha
      · exact hpre y hy

/-- Nothing is removed only when no element passes the test. -/
theorem removeFirst?_eq_none_forall {p : α → Bool} :
    ∀ {l : List α}, l.removeFirst? p = none → ∀ y ∈ l, p y = false
  | [], _ => by simp
  | a :: l, h => by
    rw [removeFirst?_cons] at h
    by_cases ha : p a
    · rw [if_pos ha] at h
      cases h
    · rw [if_neg ha, Option.map_eq_none_iff] at h
      intro y hy
      rcases mem_cons.mp hy with rfl | hy
      · simpa using ha
      · exact removeFirst?_eq_none_forall h y hy

/-- An element taken out of the first deque and pushed to the back of the second. -/
theorem perm_move_back (pre post l : List α) (x : α) :
    ((pre ++ post) ++ (l ++ [x])).Perm ((pre ++ x :: post) ++ l) := by
  have hnew : ((pre ++ post) ++ (l ++ [x])).Perm (x :: (pre ++ (post ++ l))) := by
    rw [← append_assoc, append_assoc pre]
    exact perm_append_singleton x _
  have hold : ((pre ++ x :: post) ++ l).Perm (x :: (pre ++ (post ++ l))) := by
    rw [append_assoc, cons_append]
    exact perm_middle
  exact hnew.trans hold.symm

/-- An element taken out of the second deque and pushed to the back of the first. -/
theorem perm_move_front (l pre post : List α) (x : α) :
    ((l ++ [x]) ++ (pre ++ post)).Perm (l ++ (pre ++ x :: post)) := by
  have hnew : ((l ++ [x]) ++ (pre ++ post)).Perm (x :: (l ++ (pre ++ post))) := by
    rw [append_assoc, singleton_append]
    exact perm_middle
  have hold : (l ++ (pre ++ x :: post)).Perm (x :: (l ++ (pre ++ post))) := by
    rw [← append_assoc]
    exact perm_middle.trans (by rw [append_assoc])
  exact hnew.trans hold.symm

/-- Overwriting an element by one with the same image leaves the list's image unchanged. -/
theorem map_set_of_getElem?_eq {f : α → β} {l : List α} {t : Nat} {a b : α}
    (h : l[t]? = some a) (hf : f b = f a) : (l.set t b).map f = l.map f := by
  apply ext_getElem?
  intro i
  rw [getElem?_map, getElem?_map, getElem?_set]
  split_ifs with hi hlt
  · subst hi
    simp [h, hf]
  · -- past the end the index has no element, against `h`
    subst hi
    simp_all
  · rfl

section UniqueBy

variable [DecidableEq β] (key : α → β)

/-- `Itertools::unique_by`, with `seen` the keys of the elements kept so far. -/
def uniqueByAux : List β → List α → List α
  | _, [] => []
  | seen, x :: xs =>
    if key x ∈ seen then uniqueByAux seen xs else x :: uniqueByAux (key x :: seen) xs

/-- `iter().unique_by(key)`: each element whose key no earlier element has. -/
def uniqueBy (l : List α) : List α := uniqueByAux key [] l

theorem uniqueByAux_sublist : ∀ (seen : List β) (l : List α), (uniqueByAux key seen l).Sublist l
  | _, [] => Sublist.slnil
  | seen, x :: xs => by
    unfold uniqueByAux
    split
    · exact (uniqueByAux_sublist seen xs).cons x
    · exact (uniqueByAux_sublist (key x :: seen) xs).cons_cons x

theorem uniqueBy_sublist (l : List α) : (uniqueBy key l).Sublist l :=
  uniqueByAux_sublist key [] l

/-- Every key of `l` is seen before or kept. -/
theorem exists_key_mem_uniqueByAux :
    ∀ (seen : List β) (l : List α), ∀ z ∈ l,
      key z ∈ seen ∨ ∃ y ∈ uniqueByAux key seen l, key y = key z
  | _, [], _, hz => absurd hz (not_mem_nil)
  | seen, x :: xs, z, hz => by
    unfold uniqueByAux
    split
    · rename_i hseen
      rcases mem_cons.mp hz with rfl | hz
      · exact .inl hseen
      · exact exists_key_mem_uniqueByAux seen xs z hz
    · rcases mem_cons.mp hz with rfl | hz
      · exact .inr ⟨z, mem_cons_self, rfl⟩
      · rcases exists_key_mem_uniqueByAux (key x :: seen) xs z hz with hk | ⟨y, hy, hyz⟩
        · rcases mem_cons.mp hk with hk | hk
          · exact .inr ⟨x, mem_cons_self, hk.symm⟩
          · exact .inl hk
        · exact .inr ⟨y, mem_cons_of_mem x hy, hyz⟩

/-- Deduplication keeps an element of every key. -/
theorem exists_key_mem_uniqueBy {l : List α} {z : α} (hz : z ∈ l) :
    ∃ y ∈ uniqueBy key l, key y = key z :=
  (exists_key_mem_uniqueByAux key [] l z hz).resolve_left (not_mem_nil)

end UniqueBy

end List
