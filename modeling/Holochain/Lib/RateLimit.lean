/-
Per-key rate limiting over a sliding window.

A limiter is asked about requests, each a time and a key. It holds a request back when a
request for the same key went through less than `window` before, and lets it through
otherwise; `passed` lists what went through, oldest first. With times that never go back,
two requests for one key that go through are at least `window` apart.

An implementation keeps, per key, the time the key last went through, and forgets the times
that are `window` old when it is asked. `Tracks` says that such a table, read through its
lookup function, answers for the limiter:

* `Spaced.offer`, `Spaced.foldl_offer` — letting requests through, in the order of their
  times, keeps the requests of each key `window` apart;
* `Tracks.check` — asked no earlier than it was last asked, the pruned table has the key
  exactly when the limiter holds the request back, and pruning, then recording the request
  when it goes through, keeps the table in step with the limiter;
* `heldBack_offer_of_ne`, `filterMap_offer_of_ne` — a request for one key does not change what
  the limiter says of another.
-/
import Mathlib.Data.List.Basic

namespace RateLimit

variable {κ : Type} [DecidableEq κ] (window : Nat)

/-- A request for `k` at time `t` is held back: a request for `k` went through less than
`window` before. -/
def heldBack (passed : List (Nat × κ)) (t : Nat) (k : κ) : Bool :=
  passed.any fun p => decide (p.2 = k) && decide (t - p.1 < window)

/-- The limiter asked about a request at `t` for `k`: what has gone through, with the request
when it is not held back. -/
def offer (passed : List (Nat × κ)) (t : Nat) (k : κ) : List (Nat × κ) :=
  if heldBack window passed t k then passed else passed ++ [(t, k)]

/-- Two requests for one key that went through are at least `window` apart, in order. -/
def Spaced (passed : List (Nat × κ)) : Prop :=
  passed.Pairwise fun p q => p.2 = q.2 → p.1 + window ≤ q.1

/-- A lookup table pruned at time `now`: the times less than `window` old. -/
def prune (now : Nat) (lookup : κ → Option Nat) : κ → Option Nat :=
  fun k => (lookup k).filter fun t => decide (now - t < window)

variable {window} {passed : List (Nat × κ)} {t : Nat} {k : κ}

theorem heldBack_iff : heldBack window passed t k = true ↔ ∃ t', (t', k) ∈ passed ∧ t - t' < window := by
  simp only [heldBack, List.any_eq_true, Bool.and_eq_true, decide_eq_true_eq]
  constructor
  · rintro ⟨⟨t', k'⟩, hmem, rfl, hlt⟩
    exact ⟨t', hmem, hlt⟩
  · rintro ⟨t', hmem, hlt⟩
    exact ⟨(t', k), hmem, rfl, hlt⟩

theorem heldBack_eq_false_iff :
    heldBack window passed t k = false ↔ ∀ t', (t', k) ∈ passed → window ≤ t - t' := by
  rw [← Bool.not_eq_true, heldBack_iff]
  simp only [not_exists, not_and, Nat.not_lt]

@[simp] theorem heldBack_nil : heldBack window ([] : List (Nat × κ)) t k = false := rfl

/-- A request for one key does not change what the limiter says of another. -/
theorem heldBack_offer_of_ne {k' : κ} (hne : k' ≠ k) (t' : Nat) :
    heldBack window (offer window passed t' k') t k = heldBack window passed t k := by
  unfold offer
  split
  · rfl
  · simp only [heldBack, List.any_append, List.any_cons, List.any_nil, hne, decide_false,
      Bool.false_and, Bool.or_false]

/-- Letting a request for one key through changes nothing the limiter lets through of requests
for other keys. -/
theorem filterMap_offer_of_ne {β : Type} {reqs : List (Nat × κ)} {k' : κ}
    (hne : ∀ r ∈ reqs, k' ≠ r.2) (t' : Nat) (g : Nat × κ → Option β) :
    (reqs.filterMap fun r =>
        if heldBack window (offer window passed t' k') r.1 r.2 = false then g r else none) =
      reqs.filterMap fun r => if heldBack window passed r.1 r.2 = false then g r else none :=
  List.filterMap_congr fun r hr => by rw [heldBack_offer_of_ne (hne r hr) t']

theorem offer_of_heldBack (h : heldBack window passed t k = true) : offer window passed t k = passed :=
  if_pos h

theorem offer_of_not_heldBack (h : heldBack window passed t k = false) :
    offer window passed t k = passed ++ [(t, k)] :=
  if_neg (by rw [h]; exact Bool.false_ne_true)

theorem mem_offer {p : Nat × κ} : p ∈ offer window passed t k → p ∈ passed ∨ p = (t, k) := by
  unfold offer
  split
  · exact .inl
  · rw [List.mem_append, List.mem_singleton]
    exact id

/-- Letting a request through at a time no earlier than any before keeps the requests of
each key `window` apart. -/
theorem Spaced.offer (h : Spaced window passed) (ht : ∀ p ∈ passed, p.1 ≤ t) :
    Spaced window (offer window passed t k) := by
  cases hheld : heldBack window passed t k with
  | true => rwa [offer_of_heldBack hheld]
  | false =>
    rw [offer_of_not_heldBack hheld]
    refine List.pairwise_append.mpr ⟨h, List.pairwise_singleton _ _, ?_⟩
    rintro ⟨t', k'⟩ hmem q hq hk
    rw [List.mem_singleton] at hq
    subst hq
    dsimp only at hk
    subst hk
    -- an earlier request for the key went through at least `window` before
    have hgap := heldBack_eq_false_iff.mp hheld t' hmem
    have hle := ht _ hmem
    dsimp only at hle ⊢
    omega

/-- Asking the limiter about requests in the order of their times, none earlier than anything
that went through, keeps the requests of each key `window` apart. -/
theorem Spaced.foldl_offer (reqs : List (Nat × κ)) (hsorted : reqs.Pairwise fun r r' => r.1 ≤ r'.1) :
    ∀ {passed : List (Nat × κ)}, Spaced window passed → (∀ p ∈ passed, ∀ r ∈ reqs, p.1 ≤ r.1) →
      Spaced window (reqs.foldl (fun p r => RateLimit.offer window p r.1 r.2) passed) := by
  induction reqs with
  | nil => exact fun h _ => h
  | cons r reqs ih =>
    intro passed h ht
    obtain ⟨hfirst, hrest⟩ := List.pairwise_cons.mp hsorted
    -- the request goes in no earlier than what went through, and no later than those after it
    refine ih hrest (h.offer fun p hp => ht p hp r List.mem_cons_self) fun p hp r' hr' => ?_
    rcases mem_offer hp with hp | rfl
    · exact ht p hp r' (List.mem_cons_of_mem r hr')
    · exact hfirst r' hr'

/-- The table `lookup` answers for the limiter as of `now`: what has gone through is no later
than `now`, every time the table holds is that of a request for its key that went through,
and each request that went through is `window` old by `now` or covered by a time the table
holds for its key. -/
structure Tracks (window now : Nat) (passed : List (Nat × κ)) (lookup : κ → Option Nat) :
    Prop where
  passed_le : ∀ p ∈ passed, p.1 ≤ now
  lookup_passed : ∀ k t, lookup k = some t → (t, k) ∈ passed
  passed_lookup : ∀ t k, (t, k) ∈ passed → window ≤ now - t ∨ ∃ t', lookup k = some t' ∧ t ≤ t'

variable {now : Nat} {lookup : κ → Option Nat}

omit [DecidableEq κ] in
theorem tracks_nil (now : Nat) : Tracks window now ([] : List (Nat × κ)) fun _ => none where
  passed_le _ h := absurd h List.not_mem_nil
  lookup_passed _ _ h := by cases h
  passed_lookup _ _ h := absurd h List.not_mem_nil

omit [DecidableEq κ] in
/-- A table in step as of `now` is in step at every later time. -/
theorem Tracks.mono (h : Tracks window now passed lookup) {now' : Nat} (hle : now ≤ now') :
    Tracks window now' passed lookup where
  passed_le p hp := Nat.le_trans (h.passed_le p hp) hle
  lookup_passed := h.lookup_passed
  passed_lookup t k hp := (h.passed_lookup t k hp).imp_left fun hw => by omega

omit [DecidableEq κ] in
/-- Pruning forgets only times that are `window` old. -/
theorem Tracks.pruned (h : Tracks window now passed lookup) :
    Tracks window now passed (prune window now lookup) where
  passed_le := h.passed_le
  lookup_passed k t hk := h.lookup_passed k t (Option.eq_some_of_filter_eq_some hk)
  passed_lookup t k hp := by
    rcases h.passed_lookup t k hp with hw | ⟨t', hk, hle⟩
    · exact .inl hw
    · by_cases hfresh : now - t' < window
      · refine .inr ⟨t', ?_, hle⟩
        rw [RateLimit.prune, hk, Option.filter_some, decide_eq_true hfresh, if_pos rfl]
      · -- the covering time is stale, so the request it covers is too
        exact .inl (by omega)

/-- The pruned table has the key exactly when the limiter holds the request back. -/
theorem Tracks.isSome_prune_iff (h : Tracks window now passed lookup) (k : κ) :
    (prune window now lookup k).isSome = heldBack window passed now k := by
  apply Bool.eq_iff_iff.mpr
  rw [heldBack_iff, Option.isSome_iff_exists]
  constructor
  · rintro ⟨t, ht⟩
    have hlook : lookup k = some t := Option.eq_some_of_filter_eq_some ht
    have hfresh : now - t < window := by
      rw [RateLimit.prune, hlook, Option.filter_some] at ht
      by_contra hstale
      rw [decide_eq_false hstale, if_neg Bool.false_ne_true] at ht
      cases ht
    exact ⟨t, h.lookup_passed k t hlook, hfresh⟩
  · rintro ⟨t, hp, hfresh⟩
    rcases h.passed_lookup t k hp with hw | ⟨t', hk, hle⟩
    · omega
    · refine ⟨t', ?_⟩
      rw [RateLimit.prune, hk, Option.filter_some, decide_eq_true (by omega), if_pos rfl]

/-- Recording a request at `now` keeps the table in step, with the request gone through. -/
theorem Tracks.update (h : Tracks window now passed lookup) (k : κ) :
    Tracks window now (passed ++ [(now, k)]) (Function.update lookup k (some now)) := by
  have hle : ∀ p ∈ passed ++ [(now, k)], p.1 ≤ now := by
    intro p hp
    rcases List.mem_append.mp hp with hp | hp
    · exact h.passed_le p hp
    · obtain rfl := List.mem_singleton.mp hp
      exact Nat.le_refl now
  refine ⟨hle, fun k' t hk => ?_, fun t k' hp => ?_⟩
  · by_cases hkk : k' = k
    · subst hkk
      rw [Function.update_self, Option.some.injEq] at hk
      subst hk
      exact List.mem_append_right _ (List.mem_singleton_self _)
    · rw [Function.update_of_ne hkk] at hk
      exact List.mem_append_left _ (h.lookup_passed k' t hk)
  · by_cases hkk : k' = k
    · -- the key's entry is now, no earlier than anything that went through
      subst hkk
      exact .inr ⟨now, Function.update_self .., hle _ hp⟩
    · rw [Function.update_of_ne hkk]
      rcases List.mem_append.mp hp with hp | hp
      · exact h.passed_lookup t k' hp
      · cases List.mem_singleton.mp hp
        exact absurd rfl hkk

/-- One check of the table at `now'`, no earlier than it is in step: prune, answer whether
the key is there, and record the key at `now'` when it is not. The answer is the limiter's,
and the table stays in step with what the limiter lets through. -/
theorem Tracks.check (h : Tracks window now passed lookup) {now' : Nat} (hle : now ≤ now')
    (k : κ) :
    (prune window now' lookup k).isSome = heldBack window passed now' k ∧
      Tracks window now' (offer window passed now' k)
        (if (prune window now' lookup k).isSome then prune window now' lookup
          else Function.update (prune window now' lookup) k (some now')) := by
  have hpruned := (h.mono hle).pruned
  have hanswer := (h.mono hle).isSome_prune_iff k
  refine ⟨hanswer, ?_⟩
  rw [hanswer]
  cases hheld : heldBack window passed now' k with
  | true =>
    rw [offer_of_heldBack hheld, if_pos rfl]
    exact hpruned
  | false =>
    rw [offer_of_not_heldBack hheld, if_neg Bool.false_ne_true]
    exact hpruned.update k

end RateLimit
