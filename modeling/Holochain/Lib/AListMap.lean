/-
Values-only rewriting and filtering of association lists.

Mathlib's `AList` has insertion, erasure and lookup. The hash maps of a program are also
rewritten value by value in place (`iter_mut`) and cut down to the entries a predicate
selects (`iter().filter(..).collect()`). Both operations keep the keys of a sublist of the
entries, so their results are again `AList`s:

* `AList.lookup_mapVal` — a rewritten map answers with the rewritten value;
* `AList.lookup_filter` — a filtered map answers where the old one did and the predicate
  holds.
-/
import Mathlib.Data.List.AList

namespace AList

variable {α : Type*} {β γ : α → Type*}

/-- Rewrite every value by `f`, keeping the keys and their order. -/
def mapVal (f : ∀ a, β a → γ a) (s : AList β) : AList γ :=
  ⟨s.entries.map (Sigma.map id f), List.NodupKeys.map₂ f _ s.nodupKeys⟩

/-- Keep the entries whose key and value satisfy `p`. -/
def filter (p : ∀ a, β a → Bool) (s : AList β) : AList β :=
  ⟨s.entries.filter (fun x => p x.1 x.2), s.nodupKeys.sublist List.filter_sublist⟩

@[simp] theorem keys_mapVal (f : ∀ a, β a → γ a) (s : AList β) :
    (s.mapVal f).keys = s.keys :=
  List.map₂_keys f s.entries

variable [DecidableEq α]

@[simp] theorem lookup_mapVal (f : ∀ a, β a → γ a) (s : AList β) (a : α) :
    (s.mapVal f).lookup a = (s.lookup a).map (f a) :=
  List.dlookup_map₂ a

theorem dlookup_filter (p : ∀ a, β a → Bool) (a : α) :
    ∀ {l : List (Sigma β)}, l.NodupKeys →
      (l.filter (fun x => p x.1 x.2)).dlookup a = (l.dlookup a).filter (p a)
  | [], _ => rfl
  | ⟨k, v⟩ :: l, nd => by
    have ih := dlookup_filter p a (List.nodupKeys_of_nodupKeys_cons nd)
    by_cases hk : a = k
    · subst hk
      -- the key is absent from the tail, so the tail answers `none` either way
      have hnot : a ∉ l.keys := (List.nodupKeys_cons.mp nd).1
      have htail : (l.filter (fun x => p x.1 x.2)).dlookup a = none := by
        rw [ih, List.dlookup_eq_none.mpr hnot]
        rfl
      by_cases hp : p a v = true
      · simp [hp, List.dlookup_cons_eq, Option.filter]
      · simp [hp, htail, List.dlookup_cons_eq, Option.filter]
    · have hne : a ≠ (⟨k, v⟩ : Sigma β).1 := hk
      by_cases hp : p k v = true
      · simp only [List.filter_cons, hp, if_true, List.dlookup_cons_ne _ _ hne, ih]
      · simp only [List.filter_cons, hp, Bool.false_eq_true, if_false, ih,
          List.dlookup_cons_ne _ _ hne]

@[simp] theorem lookup_filter (p : ∀ a, β a → Bool) (s : AList β) (a : α) :
    (s.filter p).lookup a = (s.lookup a).filter (p a) :=
  dlookup_filter p a s.nodupKeys

end AList
