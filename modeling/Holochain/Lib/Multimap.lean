/-
Finite multimaps: a finite map from keys to finite sets of values, read as a relation.

`Multimap.Holds m a b` says that `m` relates `a` to `b`: `b` is in the set `m` keeps under
`a`, an absent key keeping none. The writes are an insert of a whole value set under a key
and `addTo`, which adds one value to the set a key already has.

* `holds_insert`, `holds_addTo` — what one write relates;
* `lookup_foldl_insert` — a fold that writes each key of a list with a value set that
  depends on the key alone leaves every listed key with that set;
* `holds_foldl_addTo` — a fold that adds values one at a time relates exactly what it added
  and what was there;
* `holds_foldl_orDefault_addTo` — the same for a fold over a list of records, each of which,
  when it passes a test, makes its key present and adds its values;
* `holds_foldl_addTo_pairs`, `NoEmpty.addTo` — the same for a list of pairs, which leaves no
  key with an empty set.
-/
import Mathlib.Data.Finmap

namespace Multimap

variable {α β : Type} [DecidableEq α]

/-- `m` relates `a` to `b`. -/
def Holds (m : Finmap fun _ : α => Finset β) (a : α) (b : β) : Prop :=
  b ∈ (m.lookup a).getD ∅

/-- Add `b` to the values of `a` (`entry(a).or_insert_with(HashSet::new).insert(b)`). -/
def addTo [DecidableEq β] (m : Finmap fun _ : α => Finset β) (a : α) (b : β) :
    Finmap fun _ : α => Finset β :=
  m.insert a (insert b ((m.lookup a).getD ∅))

variable {m : Finmap fun _ : α => Finset β} {a a' : α} {b b' : β}

@[simp]
theorem not_holds_empty : ¬ Holds (∅ : Finmap fun _ : α => Finset β) a b := by
  simp [Holds]

theorem holds_of_lookup {s : Finset β} (h : m.lookup a = some s) : Holds m a b ↔ b ∈ s := by
  rw [Holds, h, Option.getD_some]

/-- A key the map does not have relates to nothing. -/
theorem not_holds_of_not_mem (h : a ∉ m) : ¬ Holds m a b := by
  rw [Holds, Finmap.lookup_eq_none.mpr h]
  simp

theorem mem_of_holds (h : Holds m a b) : a ∈ m := by
  by_contra hnot
  exact not_holds_of_not_mem hnot h

theorem holds_insert {s : Finset β} :
    Holds (m.insert a' s) a b ↔ (a = a' ∧ b ∈ s) ∨ (a ≠ a' ∧ Holds m a b) := by
  by_cases ha : a = a'
  · subst ha
    rw [holds_of_lookup (Finmap.lookup_insert m)]
    simp
  · rw [Holds, Finmap.lookup_insert_of_ne m ha]
    simp [ha, Holds]

theorem holds_addTo [DecidableEq β] :
    Holds (addTo m a' b') a b ↔ (a = a' ∧ b = b') ∨ Holds m a b := by
  rw [addTo, holds_insert, Finset.mem_insert]
  by_cases ha : a = a'
  · subst ha
    simp [Holds]
  · simp [ha]

/-- Adding the values of a list one at a time. -/
theorem holds_foldl_addTo [DecidableEq β] (bs : List β) :
    Holds (bs.foldl (fun m b => addTo m a' b) m) a b ↔ (a = a' ∧ b ∈ bs) ∨ Holds m a b := by
  induction bs generalizing m with
  | nil => simp
  | cons b₀ bs ih =>
    rw [List.foldl_cons, ih, holds_addTo, List.mem_cons]
    tauto

/-- `entry(a).or_default()`: the key is present, and relates to what it did. -/
theorem holds_insert_getD : Holds (m.insert a' ((m.lookup a').getD ∅)) a b ↔ Holds m a b := by
  rw [holds_insert]
  by_cases ha : a = a'
  · subst ha
    simp [Holds]
  · simp [ha]

/-- A fold over records that, for each record passing a test, makes the record's key present
and adds the record's values to it one at a time: it relates what it added and what was
there. -/
theorem holds_foldl_orDefault_addTo [DecidableEq β] {γ : Type} (P : γ → Bool) (key : γ → α)
    (vals : γ → List β) (l : List γ) :
    Holds (l.foldl (fun m g => if P g then (vals g).foldl (fun m b => addTo m (key g) b)
        (m.insert (key g) ((m.lookup (key g)).getD ∅)) else m) m) a b ↔
      (∃ g ∈ l, P g = true ∧ key g = a ∧ b ∈ vals g) ∨ Holds m a b := by
  induction l generalizing m with
  | nil => simp
  | cons g l ih =>
    rw [List.foldl_cons, ih]
    by_cases hg : P g = true
    · -- the record's own values join what was there
      rw [if_pos hg, holds_foldl_addTo, holds_insert_getD]
      simp only [List.mem_cons, exists_eq_or_imp, hg, true_and]
      constructor
      · rintro (hrest | ⟨rfl, hb⟩ | hm)
        · exact .inl (.inr hrest)
        · exact .inl (.inl ⟨rfl, hb⟩)
        · exact .inr hm
      · rintro ((⟨rfl, hb⟩ | hrest) | hm)
        · exact .inr (.inl ⟨rfl, hb⟩)
        · exact .inl hrest
        · exact .inr (.inr hm)
    · rw [if_neg hg]
      simp [hg]

/-- Adding a list of pairs one at a time relates exactly the listed pairs and what was
there. -/
theorem holds_foldl_addTo_pairs [DecidableEq β] (l : List (α × β)) :
    Holds (l.foldl (fun m p => addTo m p.1 p.2) m) a b ↔ (a, b) ∈ l ∨ Holds m a b := by
  induction l generalizing m with
  | nil => simp
  | cons p l ih =>
    rw [List.foldl_cons, ih, holds_addTo, List.mem_cons]
    constructor
    · rintro (hl | ⟨rfl, rfl⟩ | hm)
      · exact .inl (.inr hl)
      · exact .inl (.inl rfl)
      · exact .inr hm
    · rintro ((heq | hl) | hm)
      · exact .inr (.inl ⟨congrArg Prod.fst heq, congrArg Prod.snd heq⟩)
      · exact .inl hl
      · exact .inr (.inr hm)

/-- No key keeps an empty set of values. -/
def NoEmpty (m : Finmap fun _ : α => Finset β) : Prop :=
  ∀ a s, m.lookup a = some s → s.Nonempty

theorem noEmpty_empty : NoEmpty (∅ : Finmap fun _ : α => Finset β) := by
  intro a s h
  simp at h

/-- Adding a value leaves its key with a nonempty set and the other keys as they were. -/
theorem NoEmpty.addTo [DecidableEq β] (h : NoEmpty m) (a' : α) (b' : β) :
    NoEmpty (addTo m a' b') := by
  intro a s hs
  unfold Multimap.addTo at hs
  by_cases ha : a = a'
  · subst ha
    rw [Finmap.lookup_insert, Option.some.injEq] at hs
    rw [← hs]
    exact Finset.insert_nonempty _ _
  · rw [Finmap.lookup_insert_of_ne _ ha] at hs
    exact h a s hs

theorem NoEmpty.foldl_addTo_pairs [DecidableEq β] (h : NoEmpty m) (l : List (α × β)) :
    NoEmpty (l.foldl (fun m p => Multimap.addTo m p.1 p.2) m) := by
  induction l generalizing m with
  | nil => exact h
  | cons p l ih => exact ih (h.addTo p.1 p.2)

/-- Writing each key of `keys` with the set `f` gives it: a listed key looks up `f` of it,
another what the map had. -/
theorem lookup_foldl_insert (f : α → Finset β) (keys : List α) :
    (keys.foldl (fun m k => m.insert k (f k)) m).lookup a =
      if a ∈ keys then some (f a) else m.lookup a := by
  induction keys generalizing m with
  | nil => simp
  | cons k keys ih =>
    rw [List.foldl_cons, ih]
    by_cases hk : a = k
    · subst hk
      simp [Finmap.lookup_insert]
    · simp [hk, Finmap.lookup_insert_of_ne _ hk]

end Multimap
