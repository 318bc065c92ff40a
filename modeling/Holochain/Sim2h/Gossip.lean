/-
The gossip of the sim2h relay: `missing_aspects_resync` and `fetch_entry_data` of
`sim2h/src/lib.rs`, with the `Schedule` of `sim2h/src/schedule.rs` that starts its rounds.

Every time the relay's `process` polls the schedule and the interval has passed, a round of
gossip starts as a task of its own, holding the schedule's guard until it ends. The round
asks the store which connections are due a gossip check (`check_gossip`), then, one agent
at a time, with the other handlers running in between, takes a copy of the store and, for
each entry the agent still needs aspects of, asks the first agent `get_agents_for_query`
draws to send the entry (`HandleFetchEntry`); the answer is handed on by
`spawn_handle_message_fetch_entry_result`. A table of the whole process
(`ENTRIES_ALREADY_FETCHED`) keeps an entry hash from being asked for again within a second,
whatever space it is asked for in.

`Sim2hSystem` is the relay together with the schedule, the running rounds, that table and the
clock. A step is an event of the relay (a frame, a lost connection, the disconnect sweep),
a poll of the schedule, or a step of a running round; a step that reads the clock is taken at
a time no earlier than the last, and the gossip to one agent reads it again for each entry it
puts to the table, some `delay` after the reading before. Times are in milliseconds. Two history variables, which no
step reads, record the checks the table let through, with their times (`passed`), and when
each round started (`starts`). The iteration orders the
source leaves to its hash maps are the order of the keys here, and the order of the agents
`check_gossip` reports.

Main results:
* `reachable_fetch_limiter` — over every run, the table holds a check of an entry hash back
  exactly when a check of that hash, for any space, went through less than a second before,
  and the checks of one hash that go through are at least a second apart;
* `gossipAgent_fetches` — in every reachable state, what the gossip of one agent sends: a
  fetch for each entry the agent needs an aspect of and the limiter lets through at the time
  its check reads, to an agent holding the entry when one does, and otherwise to one that
  should hold it, the agent itself among them, on its uri in the space;
* `reachable_rounds` — at most one round runs at a time, and rounds start at least thirty
  seconds apart, the first thirty seconds after the relay started.
-/
import Mathlib
import Holochain.Lib.RateLimit
import Holochain.Sim2h.Queries
import Holochain.Sim2h.RelayStore

namespace Holochain.Sim2h

open Multimap (Holds)

variable {A U : Type}

/-- `RETRY_FETCH_MISSING_ASPECTS_INTERVAL_MS`. -/
def retryFetchMissingAspectsIntervalMs : Nat := 30000

/-! ### The schedule -/

/-- `Schedule`: when it last let a task run, its interval, and whether its channel, of
capacity one, holds the token that a dropped guard sends. -/
structure Schedule where
  lastTrue : Nat
  interval : Nat
  ready : Bool
  deriving DecidableEq, Repr

namespace Schedule

/-- `Schedule::new` at time `now`. -/
def new (interval now : Nat) : Schedule := ⟨now, interval, false⟩

/-- `Schedule::should_proceed` at time `now`: the interval has passed since a task was last
let run, and the token is there; it is taken. -/
def shouldProceed (s : Schedule) (now : Nat) : Bool × Schedule :=
  if now - s.lastTrue < s.interval then (false, s)
  else if s.ready then (true, { s with lastTrue := now, ready := false })
  else (false, s)

/-- Dropping a `ScheduleGuard`: `try_send` of the token, which a full channel refuses, keeping
the one it has. -/
def dropGuard (s : Schedule) : Schedule := { s with ready := true }

variable {s : Schedule} {now : Nat}

/-- When the schedule proceeds, the interval has passed and the token was there; it is
taken, and the time noted. -/
theorem shouldProceed_of_true (h : (s.shouldProceed now).1 = true) :
    s.interval ≤ now - s.lastTrue ∧ s.ready = true ∧
      (s.shouldProceed now).2 = { s with lastTrue := now, ready := false } := by
  unfold shouldProceed at h ⊢
  split at h
  · cases h
  · rename_i hint
    rw [if_neg hint]
    split at h
    · exact ⟨Nat.le_of_not_lt hint, ‹_›, by rw [if_pos ‹_›]⟩
    · cases h

/-- When it does not, the schedule is left as it was. -/
theorem shouldProceed_of_false (h : (s.shouldProceed now).1 = false) :
    (s.shouldProceed now).2 = s := by
  unfold shouldProceed at h ⊢
  split
  · rfl
  · split
    · rw [if_neg ‹_›, if_pos ‹_›] at h
      cases h
    · rfl

end Schedule

/-! ### The table of entries already fetched -/

/-- `EntriesAlreadyFetched`: when each entry hash was last let through. -/
structure EntriesAlreadyFetched (A : Type) where
  entries : AList (fun _ : A => Nat)

/-- `EntriesAlreadyFetched::check` at time `now`: whether the entry was let through less than
a second ago; when it was not, it is let through now. -/
def EntriesAlreadyFetched.check [DecidableEq A] (f : EntriesAlreadyFetched A) (now : Nat)
    (entry : A) : Bool × EntriesAlreadyFetched A :=
  -- "first - prune"
  let entries := f.entries.filter fun _ t => decide (now - t < 1000)
  -- "next - check"
  if entry ∈ entries then (true, ⟨entries⟩)
  -- "finally - set"
  else (false, ⟨entries.insert entry now⟩)

/-- Entries checked one after the other from `now`, each with the time its check reads: the
clock has moved on by `delay entry` when `entry` is checked. -/
def checkTimes (delay : A → Nat) (now : Nat) : List A → List (Nat × A)
  | [] => []
  | entry :: rest => (now + delay entry, entry) :: checkTimes delay (now + delay entry) rest

/-- The checks of entries, each at its own time, that the table lets through, with their
times, the table threaded from one to the next; the history `Sim2hSystem.passed` records
them. -/
def EntriesAlreadyFetched.passedChecks [DecidableEq A] (f : EntriesAlreadyFetched A) :
    List (Nat × A) → List (Nat × A)
  | [] => []
  | (now, entry) :: rest =>
    (if (f.check now entry).1 then [] else [(now, entry)]) ++
      (f.check now entry).2.passedChecks rest

/-! ### A round of gossip -/

section Round

variable [LinearOrder A] [DecidableEq U] (cfg : Sim2hConfig A)

/-- The request for an entry that `fetch_entry_data` sends to its provider; it names no
aspects, so that every aspect of the entry comes back. -/
def fetchMessage (spaceHash entryHash queryAgent : A) : WireMessage A :=
  .lib3hToClient (.handleFetchEntry ⟨spaceHash, entryHash, "", queryAgent, none⟩)

/-- One entry of the loop of `fetch_entry_data`, with the clock, the table and the relay it
threads. `check_already_fetched` reads the clock, which has moved on by `delay entryHash`
since the last reading; the draws of `get_agents_for_query` are in the order `shuffle` gives
for the entry. -/
def fetchEntryStep (shuffle : A → Finset A → List A) (delay : A → Nat)
    (gossipAspects : Finmap (fun _ : A => Finset A)) (spaceHash : A) (state : Store A U)
    (acc : Nat × EntriesAlreadyFetched A × Relay A U) (entryHash : A) :
    Nat × EntriesAlreadyFetched A × Relay A U :=
  if (gossipAspects.lookup entryHash).getD ∅ = ∅ then acc
  else
    let now := acc.1 + delay entryHash
    let (already, fetched) := acc.2.1.check now entryHash
    if already then (now, fetched, acc.2.2)
    else
      match state.getAgentsForQuery cfg.entryLocation cfg.naiveShardingShouldStore
          (shuffle entryHash) spaceHash entryHash none with
      -- "nobody online to service gossip request"
      | [] => (now, fetched, acc.2.2)
      | queryAgent :: _ =>
        match state.lookupJoined spaceHash queryAgent with
        | none => (now, fetched, acc.2.2)
        | some uri =>
          (now, fetched, acc.2.2.send queryAgent uri (fetchMessage spaceHash entryHash queryAgent))

/-- `≤` on hashes is transitive, as `Finset.sort` needs for the order of a map's keys; named so
that the definitions below refer to it, not to a proof of their own. -/
theorem hashOrder_trans : IsTrans A (· ≤ ·) := inferInstance

/-- `≤` on hashes is antisymmetric, as `Finset.sort` needs. -/
theorem hashOrder_antisymm : Std.Antisymm (α := A) (· ≤ ·) := inferInstance

/-- `fetch_entry_data`, from the clock at `now`: the entries of the map in the order of their
hashes. The clock, the table and the relay come back as the loop leaves them. -/
def fetchEntryData (shuffle : A → Finset A → List A) (delay : A → Nat) (now : Nat)
    (gossipAspects : Finmap (fun _ : A => Finset A)) (spaceHash : A) (state : Store A U)
    (fetched : EntriesAlreadyFetched A) (r : Relay A U) :
    Nat × EntriesAlreadyFetched A × Relay A U :=
  (@Finset.sort A gossipAspects.keys (· ≤ ·) _ hashOrder_trans hashOrder_antisymm _).foldl
    (fetchEntryStep cfg shuffle delay gossipAspects spaceHash state) (now, fetched, r)

/-- The entries `fetch_entry_data` puts to the table: those with aspects to fetch, in order. -/
def gossipChecks (gossipAspects : Finmap (fun _ : A => Finset A)) : List A :=
  (@Finset.sort A gossipAspects.keys (· ≤ ·) _ hashOrder_trans hashOrder_antisymm _).filter
    fun entryHash => decide ((gossipAspects.lookup entryHash).getD ∅ ≠ ∅)

end Round

/-! ### The relay with its gossip -/

/-- The relay with its gossip. `rounds` holds, for each running `missing_aspects_resync`
task, the agents it still has to gossip to, by space, or `none` before `check_gossip` has
answered it. `clock` is the last time a step read. `passed` and `starts` are history
variables. -/
structure Sim2hSystem (A U : Type) where
  relay : Relay A U
  schedule : Schedule
  rounds : List (Option (List (A × A)))
  fetched : EntriesAlreadyFetched A
  clock : Nat
  passed : List (Nat × A)
  starts : List Nat

/-- What drives the relay and its gossip: an event of the relay, a poll of the schedule by
`process`, and the steps of the running round `i`: its `check_gossip`, the gossip of its next
agent (after `yield_now`, on a copy of the store) from the time `now`, the clock moving on by
`delay` before each check of the table, and its end, which drops its guard. -/
inductive Sim2hEvent (A U : Type)
  | relay (e : RelayEvent A U)
  | process (now : Nat)
  | checkGossip (i now : Nat) (toAdd : A → A → Nat)
  | gossipAgent (i now : Nat) (delay : A → Nat) (shuffle : A → Finset A → List A)
  | finishRound (i : Nat)

namespace Sim2hSystem

variable [LinearOrder A] [DecidableEq U] (cfg : Sim2hConfig A)

/-- `Sim2h::new` at time 0: the schedule is made, and the guard it hands out at once is
dropped, which puts the token in its channel ("trigger an initial schedule ready event"). -/
def new : Sim2hSystem A U :=
  ⟨Relay.new cfg, (Schedule.new retryFetchMissingAspectsIntervalMs 0).dropGuard, [], ⟨∅⟩, 0,
    [], []⟩

/-- One step. A panic of the relay has no transition, and neither has a step that reads the
clock at an earlier time than the last. -/
def next (s : Sim2hSystem A U) : Sim2hEvent A U → Option (Sim2hSystem A U)
  -- only a round asks `check_gossip`
  | .relay (.checkGossip _ _) => none
  | .relay e =>
    match s.relay.next cfg e with
    | .ok relay => some { s with relay := relay }
    | .error _ => none
  | .process now =>
    if now < s.clock then none
    else
      let (proceed, schedule) := s.schedule.shouldProceed now
      if proceed then
        -- a round is spawned, holding the guard
        some { s with schedule := schedule, rounds := s.rounds ++ [none], clock := now,
                      starts := s.starts ++ [now] }
      else some { s with schedule := schedule, clock := now }
  | .checkGossip i now toAdd =>
    if now < s.clock then none
    else
      match s.rounds[i]? with
      | some none =>
        some { s with relay := s.relay.mutate cfg (.checkGossip now toAdd),
                      rounds := s.rounds.set i (some (s.relay.store.checkGossip now toAdd).2),
                      clock := now }
      | _ => none
  | .gossipAgent i now delay shuffle =>
    if now < s.clock then none
    else
      match s.rounds[i]? with
      | some (some ((spaceHash, agentId) :: rest)) =>
        -- `get_clone`: the gossip of the agent reads a copy of the store
        let state := s.relay.store
        let s := { s with rounds := s.rounds.set i (some rest), clock := now }
        match state.getGossipAspectsNeededForAgent cfg.naiveShardingShouldStore spaceHash agentId with
        | none => some s
        | some gossipAspects =>
          let (clock, fetched, relay) :=
            fetchEntryData cfg shuffle delay now gossipAspects spaceHash state s.fetched s.relay
          some { s with clock := clock, fetched := fetched, relay := relay,
                        passed := s.passed ++ s.fetched.passedChecks
                          (checkTimes delay now (gossipChecks gossipAspects)) }
      | _ => none
  | .finishRound i =>
    match s.rounds[i]? with
    | some (some []) =>
      some { s with rounds := s.rounds.eraseIdx i, schedule := s.schedule.dropGuard }
    | _ => none

end Sim2hSystem

/-- The transitions of the relay with its gossip. -/
def Sim2hStep [LinearOrder A] [DecidableEq U] (cfg : Sim2hConfig A) (s : Sim2hSystem A U)
    (e : Sim2hEvent A U) (s' : Sim2hSystem A U) : Prop :=
  s.next cfg e = some s'

/-! ### The table answers for the limiter -/

namespace EntriesAlreadyFetched

variable [DecidableEq A]

theorem lookup_filter_eq_prune (f : EntriesAlreadyFetched A) (now : Nat) :
    (f.entries.filter fun _ t => decide (now - t < 1000)).lookup =
      RateLimit.prune 1000 now f.entries.lookup := by
  funext k
  rw [AList.lookup_filter]
  rfl

theorem lookup_insert_eq_update (s : AList (fun _ : A => Nat)) (k : A) (t : Nat) :
    (s.insert k t).lookup = Function.update s.lookup k (some t) := by
  funext k'
  by_cases hk : k' = k
  · subst hk
    rw [AList.lookup_insert, Function.update_self]
  · rw [AList.lookup_insert_ne hk, Function.update_of_ne hk]

/-- A check of the table at a time no earlier than it is in step with the limiter: its
answer is the limiter's, and the table stays in step with what the limiter lets through. -/
theorem check_spec {f : EntriesAlreadyFetched A} {now now' : Nat} {passed : List (Nat × A)}
    (h : RateLimit.Tracks 1000 now passed f.entries.lookup) (hle : now ≤ now') (entry : A) :
    (f.check now' entry).1 = RateLimit.heldBack 1000 passed now' entry ∧
      RateLimit.Tracks 1000 now' (RateLimit.offer 1000 passed now' entry)
        (f.check now' entry).2.entries.lookup := by
  obtain ⟨hanswer, htracks⟩ := h.check hle entry
  have hmem : (entry ∈ f.entries.filter fun _ t => decide (now' - t < 1000)) ↔
      (RateLimit.prune 1000 now' f.entries.lookup entry).isSome = true := by
    rw [← AList.lookup_isSome, congrFun (lookup_filter_eq_prune f now') entry]
  unfold check
  dsimp only
  cases hsome : (RateLimit.prune 1000 now' f.entries.lookup entry).isSome with
  | true =>
    -- the entry went through less than a second ago: the pruned table is kept
    rw [if_pos (hmem.mpr hsome)]
    rw [hsome, if_pos rfl] at htracks
    rw [hsome] at hanswer
    exact ⟨hanswer, by rwa [lookup_filter_eq_prune]⟩
  | false =>
    rw [if_neg fun hin => Bool.false_ne_true (hsome.symm.trans (hmem.mp hin))]
    rw [hsome, if_neg Bool.false_ne_true] at htracks
    rw [hsome] at hanswer
    exact ⟨hanswer, by rwa [lookup_insert_eq_update, lookup_filter_eq_prune]⟩

/-- The checks the table lets through, one after the other at times that never go back, are
those the limiter lets through. -/
theorem append_passedChecks (checks : List (Nat × A)) :
    ∀ {now : Nat} {f : EntriesAlreadyFetched A} {passed : List (Nat × A)},
      RateLimit.Tracks 1000 now passed f.entries.lookup →
      checks.Pairwise (fun c c' => c.1 ≤ c'.1) → (∀ c ∈ checks, now ≤ c.1) →
      passed ++ f.passedChecks checks =
        checks.foldl (fun p c => RateLimit.offer 1000 p c.1 c.2) passed := by
  induction checks with
  | nil => exact fun _ _ _ => List.append_nil _
  | cons c checks ih =>
    intro now f passed h hsorted hle
    obtain ⟨t, e⟩ := c
    obtain ⟨hfirst, hrest⟩ := List.pairwise_cons.mp hsorted
    obtain ⟨hanswer, hstep⟩ := check_spec h (hle _ List.mem_cons_self) e
    -- the later checks read the clock no earlier than this one
    rw [passedChecks, List.foldl_cons, ← ih hstep hrest hfirst, ← List.append_assoc, hanswer]
    cases hheld : RateLimit.heldBack 1000 passed t e with
    | true => rw [RateLimit.offer_of_heldBack hheld, if_pos rfl, List.append_nil]
    | false => rw [RateLimit.offer_of_not_heldBack hheld, if_neg Bool.false_ne_true]

end EntriesAlreadyFetched

section CheckTimes

variable (delay : A → Nat)

/-- The entries are checked in their order. -/
@[simp] theorem map_snd_checkTimes (now : Nat) (l : List A) :
    (checkTimes delay now l).map Prod.snd = l := by
  induction l generalizing now with
  | nil => rfl
  | cons e l ih => rw [checkTimes, List.map_cons, ih]

theorem mem_of_mem_checkTimes {now : Nat} {l : List A} {c : Nat × A}
    (h : c ∈ checkTimes delay now l) : c.2 ∈ l := by
  rw [← map_snd_checkTimes delay now l]
  exact List.mem_map_of_mem h

/-- The clock readings of the checks never go back, and none is before `now`. -/
theorem checkTimes_sorted (now : Nat) (l : List A) :
    (checkTimes delay now l).Pairwise (fun c c' => c.1 ≤ c'.1) ∧
      ∀ c ∈ checkTimes delay now l, now ≤ c.1 := by
  induction l generalizing now with
  | nil => exact ⟨List.Pairwise.nil, fun _ h => absurd h List.not_mem_nil⟩
  | cons e l ih =>
    obtain ⟨hsorted, hle⟩ := ih (now + delay e)
    refine ⟨List.pairwise_cons.mpr ⟨hle, hsorted⟩, fun c hc => ?_⟩
    rcases List.mem_cons.mp hc with rfl | hc
    · exact Nat.le_add_right now (delay e)
    · exact Nat.le_trans (Nat.le_add_right now (delay e)) (hle c hc)

end CheckTimes

/-! ### One agent's gossip -/

section Fetch

variable [LinearOrder A] (cfg : Sim2hConfig A) (shuffle : A → Finset A → List A)
  (delay : A → Nat) (now : Nat)
  (gossipAspects : Finmap (fun _ : A => Finset A)) (spaceHash : A) (state : Store A U)

/-- What the gossip of an entry sends once the table lets it through: the request to the
first agent drawn, when that agent has a uri in the space. -/
def fetchRequest (entryHash : A) : Option (Outgoing A U) :=
  match state.getAgentsForQuery cfg.entryLocation cfg.naiveShardingShouldStore
      (shuffle entryHash) spaceHash entryHash none with
  | [] => none
  | queryAgent :: _ =>
    (state.lookupJoined spaceHash queryAgent).map fun uri =>
      .send queryAgent uri (fetchMessage spaceHash entryHash queryAgent)

/-- One entry of `fetch_entry_data`: nothing for an entry without aspects to fetch; otherwise
the clock moves on, the table is checked then, and the request goes out when the table lets
the entry through. -/
theorem fetchEntryStep_eq (now : Nat) (f : EntriesAlreadyFetched A) (r : Relay A U)
    (entryHash : A) :
    fetchEntryStep cfg shuffle delay gossipAspects spaceHash state (now, f, r) entryHash =
      if (gossipAspects.lookup entryHash).getD ∅ = ∅ then (now, f, r)
      else (now + delay entryHash, (f.check (now + delay entryHash) entryHash).2,
        if (f.check (now + delay entryHash) entryHash).1 then r
        else { r with outbox := r.outbox ++
          (fetchRequest cfg shuffle spaceHash state entryHash).toList }) := by
  unfold fetchEntryStep
  split
  · rfl
  · dsimp only
    split
    · rfl
    · unfold fetchRequest
      split
      · simp only [Option.toList_none, List.append_nil]
      · rename_i queryAgent _ _
        cases state.lookupJoined spaceHash queryAgent with
        | none => simp only [Option.map_none, Option.toList_none, List.append_nil]
        | some uri => rfl

/-- The loop of `fetch_entry_data` over distinct entries, from the clock at `now` and a table in
step with the limiter at `now`: the store is kept; the requests sent are those of the entries
with aspects to fetch that the limiter lets through at the times their checks read, in order;
and the table is in step, at the time the loop ends, with the limiter asked about each of
those entries at its time. -/
theorem foldl_fetchEntryStep :
    ∀ (l : List A) (now : Nat) (f : EntriesAlreadyFetched A) (r : Relay A U)
      (passed : List (Nat × A)),
      l.Nodup → RateLimit.Tracks 1000 now passed f.entries.lookup →
      let checks := checkTimes delay now
        (l.filter fun entryHash => decide ((gossipAspects.lookup entryHash).getD ∅ ≠ ∅))
      let res :=
        l.foldl (fetchEntryStep cfg shuffle delay gossipAspects spaceHash state) (now, f, r)
      res.2.2 = { r with outbox := r.outbox ++ checks.filterMap fun c =>
            if RateLimit.heldBack 1000 passed c.1 c.2 = false then
              fetchRequest cfg shuffle spaceHash state c.2
            else none } ∧
        RateLimit.Tracks 1000 res.1
          (checks.foldl (fun p c => RateLimit.offer 1000 p c.1 c.2) passed) res.2.1.entries.lookup
  | [], now, f, r, passed, _, h => ⟨by simp [checkTimes], h⟩
  | e :: l, now, f, r, passed, hnodup, h => by
    obtain ⟨he, hnodup⟩ := List.nodup_cons.mp hnodup
    dsimp only
    rw [List.foldl_cons, fetchEntryStep_eq]
    by_cases hempty : (gossipAspects.lookup e).getD ∅ = ∅
    · -- an entry without aspects to fetch is not put to the table, and reads no clock
      rw [if_pos hempty, List.filter_cons_of_neg (by simpa using hempty)]
      exact foldl_fetchEntryStep l now f r passed hnodup h
    · rw [if_neg hempty, List.filter_cons_of_pos (by simpa using hempty), checkTimes]
      obtain ⟨hanswer, hstep⟩ :=
        EntriesAlreadyFetched.check_spec h (Nat.le_add_right now (delay e)) e
      obtain ⟨hr, htracks⟩ := foldl_fetchEntryStep l (now + delay e) _
        (if (f.check (now + delay e) e).1 then r
          else { r with outbox := r.outbox ++ (fetchRequest cfg shuffle spaceHash state e).toList })
        _ hnodup hstep
      -- the later entries are other keys, for which the limiter answers as before
      have hlater : ∀ c ∈ checkTimes delay (now + delay e)
          (l.filter fun e' => decide ((gossipAspects.lookup e').getD ∅ ≠ ∅)), e ≠ c.2 :=
        fun c hc heq => he (heq ▸ List.mem_of_mem_filter (mem_of_mem_checkTimes delay hc))
      refine ⟨?_, ?_⟩
      · rw [hr, RateLimit.filterMap_offer_of_ne hlater, List.filterMap_cons, hanswer]
        cases hheld : RateLimit.heldBack 1000 passed (now + delay e) e with
        | true => simp
        | false => cases fetchRequest cfg shuffle spaceHash state e <;> simp
      · rwa [List.foldl_cons]

/-- `fetch_entry_data` from the clock at `now`, with a table in step with the limiter at
`now`: the relay keeps its store and sends, in the order of the entries, the request of each
entry with aspects to fetch that the limiter lets through at the time its check reads; the
table is in step with the checks it let through at the time the loop ends. -/
theorem fetchEntryData_spec {f : EntriesAlreadyFetched A} {passed : List (Nat × A)}
    (h : RateLimit.Tracks 1000 now passed f.entries.lookup) (r : Relay A U) :
    (fetchEntryData cfg shuffle delay now gossipAspects spaceHash state f r).2.2 =
        { r with outbox := r.outbox ++
          (checkTimes delay now (gossipChecks gossipAspects)).filterMap fun c =>
            if RateLimit.heldBack 1000 passed c.1 c.2 = false then
              fetchRequest cfg shuffle spaceHash state c.2
            else none } ∧
      RateLimit.Tracks 1000
        (fetchEntryData cfg shuffle delay now gossipAspects spaceHash state f r).1
        (passed ++ f.passedChecks (checkTimes delay now (gossipChecks gossipAspects)))
        (fetchEntryData cfg shuffle delay now gossipAspects spaceHash state f r).2.1.entries.lookup := by
  obtain ⟨hr, htracks⟩ := foldl_fetchEntryStep cfg shuffle delay gossipAspects spaceHash state _
    now f r passed (Finset.sort_nodup gossipAspects.keys (· ≤ ·)) h
  obtain ⟨hsorted, hle⟩ := checkTimes_sorted delay now (gossipChecks gossipAspects)
  refine ⟨hr, ?_⟩
  rw [EntriesAlreadyFetched.append_passedChecks _ h hsorted hle]
  exact htracks

theorem store_fetchEntryStep (acc : Nat × EntriesAlreadyFetched A × Relay A U) (entryHash : A) :
    (fetchEntryStep cfg shuffle delay gossipAspects spaceHash state acc entryHash).2.2.store =
      acc.2.2.store := by
  obtain ⟨now, f, r⟩ := acc
  rw [fetchEntryStep_eq]
  split
  · rfl
  · dsimp only
    split <;> rfl

/-- The gossip of an agent only sends: the relay keeps its store. -/
theorem store_fetchEntryData (f : EntriesAlreadyFetched A) (r : Relay A U) :
    (fetchEntryData cfg shuffle delay now gossipAspects spaceHash state f r).2.2.store =
      r.store := by
  unfold fetchEntryData
  apply List.foldlRecOn (motive := fun acc : Nat × EntriesAlreadyFetched A × Relay A U =>
    acc.2.2.store = r.store)
  · rfl
  · intro acc hacc entryHash _
    rw [store_fetchEntryStep, hacc]

theorem fetchRequest_eq_some {entryHash : A} {o : Outgoing A U} :
    fetchRequest cfg shuffle spaceHash state entryHash = some o ↔
      ∃ queryAgent others uri,
        state.getAgentsForQuery cfg.entryLocation cfg.naiveShardingShouldStore (shuffle entryHash)
          spaceHash entryHash none = queryAgent :: others ∧
        state.lookupJoined spaceHash queryAgent = some uri ∧
        o = .send queryAgent uri (fetchMessage spaceHash entryHash queryAgent) := by
  unfold fetchRequest
  split
  · rename_i hquery
    simp [hquery]
  · rename_i queryAgent others hquery
    simp only [hquery, List.cons.injEq, Option.map_eq_some_iff]
    constructor
    · rintro ⟨uri, hjoined, rfl⟩
      exact ⟨queryAgent, others, uri, ⟨rfl, rfl⟩, hjoined, rfl⟩
    · rintro ⟨_, _, uri, ⟨rfl, rfl⟩, hjoined, rfl⟩
      exact ⟨uri, hjoined, rfl⟩

end Fetch

/-! ### Who is asked for an entry -/

section Query

variable [DecidableEq A] {state : Store A U} {entryLocation : A → Nat}
  {naiveShardingShouldStore : Nat → Nat → Nat → Nat → Bool} {spaceHash entryHash : A}

omit [DecidableEq A] in
/-- A draw from a set that is not empty is not empty. -/
theorem ne_nil_of_perm {l : List A} {t : Finset A} (hperm : l.Perm t.toList) (ht : t ≠ ∅) :
    l ≠ [] := by
  intro hnil
  rw [hnil, List.nil_perm, Finset.toList_eq_nil] at hperm
  exact ht hperm

/-- With no requester, `get_agents_for_query` draws from the holders of the entry when there
are any, and otherwise from the agents that should hold it. -/
theorem getAgentsForQuery_none_eq (shuffle : Finset A → List A) :
    state.getAgentsForQuery entryLocation naiveShardingShouldStore shuffle spaceHash entryHash
        none =
      if queryHolders state spaceHash entryHash none ≠ ∅ then
        (shuffle (queryHolders state spaceHash entryHash none)).take 3
      else if queryShouldHold state entryLocation naiveShardingShouldStore spaceHash entryHash
          none ≠ ∅ then
        (shuffle (queryShouldHold state entryLocation naiveShardingShouldStore spaceHash
          entryHash none)).take 3
      else [] :=
  getAgentsForQuery_eq shuffle spaceHash entryHash none

/-- The first agent drawn with no requester holds the entry when anyone does, and otherwise
should hold it. -/
theorem head_getAgentsForQuery {shuffle : Finset A → List A}
    (hshuffle : ∀ t, (shuffle t).Perm t.toList) {queryAgent : A} {others : List A}
    (h : state.getAgentsForQuery entryLocation naiveShardingShouldStore shuffle spaceHash
      entryHash none = queryAgent :: others) :
    (queryHolders state spaceHash entryHash none ≠ ∅ →
        queryAgent ∈ queryHolders state spaceHash entryHash none) ∧
      (queryHolders state spaceHash entryHash none = ∅ →
        queryAgent ∈ queryShouldHold state entryLocation naiveShardingShouldStore spaceHash
          entryHash none) := by
  rw [getAgentsForQuery_none_eq] at h
  have hhead : ∀ t, (shuffle t).take 3 = queryAgent :: others → queryAgent ∈ t := fun t ht =>
    (take_three_of_perm (hshuffle t)).2.2 queryAgent (by rw [ht]; exact List.mem_cons_self)
  by_cases hholders : queryHolders state spaceHash entryHash none = ∅
  · rw [if_neg (not_not.mpr hholders)] at h
    refine ⟨fun hne => absurd hholders hne, fun _ => ?_⟩
    split at h
    · exact hhead _ h
    · cases h
  · rw [if_pos hholders] at h
    exact ⟨fun _ => hhead _ h, fun h' => absurd h' hholders⟩

/-- With no requester, somebody is drawn when anybody holds or should hold the entry. -/
theorem getAgentsForQuery_ne_nil {shuffle : Finset A → List A}
    (hshuffle : ∀ t, (shuffle t).Perm t.toList)
    (hshould : queryShouldHold state entryLocation naiveShardingShouldStore spaceHash entryHash
      none ≠ ∅) :
    state.getAgentsForQuery entryLocation naiveShardingShouldStore shuffle spaceHash entryHash
      none ≠ [] := by
  have htake : ∀ t : Finset A, t ≠ ∅ → (shuffle t).take 3 ≠ [] := fun t ht => by
    rw [Ne, List.take_eq_nil_iff, not_or]
    exact ⟨by omega, ne_nil_of_perm (hshuffle t) ht⟩
  rw [getAgentsForQuery_none_eq]
  split
  · exact htake _ ‹_›
  · exact htake _ hshould

end Query

/-! ### What an agent needs -/

section Needs

variable [DecidableEq A] {state : Store A U} {entryLocation : A → Nat}
  {naiveShardingShouldStore : Nat → Nat → Nat → Nat → Bool} {spaceHash agentId entryHash : A}

/-- By the publish path, an agent needs an aspect of an entry its space records, and is a
connected agent of the space that should hold the entry. -/
theorem exists_of_mem_getAgentsThatNeedAspect {aspectHash : A}
    (h : agentId ∈ state.getAgentsThatNeedAspect entryLocation naiveShardingShouldStore
      spaceHash entryHash aspectHash) :
    ∃ space info, state.spaces.lookup spaceHash = some space ∧
      space.entryToAllAspects.lookup entryHash = some info ∧
      agentId ∈ space.getAgentsThatShouldHoldEntry entryLocation naiveShardingShouldStore
        entryHash := by
  unfold Store.getAgentsThatNeedAspect at h
  cases hspace : state.spaces.lookup spaceHash with
  | none =>
    rw [hspace] at h
    cases h
  | some space =>
    rw [hspace] at h
    obtain ⟨info, hinfo, _, _, _, c, hc, hstore⟩ := (Space.mem_getAgentsThatNeedAspect _ _ _ _ _ _).mp h
    exact ⟨space, info, rfl, hinfo, (Space.mem_getAgentsThatShouldHoldEntry space entryLocation
      naiveShardingShouldStore hinfo agentId).mpr ⟨c, hc, hstore⟩⟩

/-- An agent that needs an aspect of an entry is one of the agents that should hold it. -/
theorem mem_queryShouldHold_of_need {aspectHash : A}
    (h : agentId ∈ state.getAgentsThatNeedAspect entryLocation naiveShardingShouldStore
      spaceHash entryHash aspectHash) :
    agentId ∈ queryShouldHold state entryLocation naiveShardingShouldStore spaceHash entryHash
      none := by
  obtain ⟨space, _, hspace, _, hshould⟩ := exists_of_mem_getAgentsThatNeedAspect h
  show agentId ∈ (((state.spaces.lookup spaceHash).map
    (·.getAgentsThatShouldHoldEntry entryLocation naiveShardingShouldStore entryHash)).map
      List.toFinset).getD ∅
  rw [hspace]
  exact List.mem_toFinset.mpr hshould

/-- An agent that should hold an entry the space records is connected, on the uri the space
joined it on. -/
theorem lookupJoined_of_mem_queryShouldHold {q : A} {space : Space A U} {info : EntryInfo A}
    (hspace : state.spaces.lookup spaceHash = some space)
    (hinfo : space.entryToAllAspects.lookup entryHash = some info)
    (hq : q ∈ queryShouldHold state entryLocation naiveShardingShouldStore spaceHash entryHash
      none) :
    (state.lookupJoined spaceHash q).isSome := by
  have hq' : q ∈ space.getAgentsThatShouldHoldEntry entryLocation naiveShardingShouldStore
      entryHash := by
    have : q ∈ (((state.spaces.lookup spaceHash).map
        (·.getAgentsThatShouldHoldEntry entryLocation naiveShardingShouldStore entryHash)).map
          List.toFinset).getD ∅ := hq
    rw [hspace] at this
    exact List.mem_toFinset.mp this
  obtain ⟨c, hc, -⟩ := (Space.mem_getAgentsThatShouldHoldEntry space entryLocation
    naiveShardingShouldStore hinfo q).mp hq'
  rw [Store.lookupJoined_eq, hspace, Option.bind_some, hc, Option.map_some]
  rfl

/-- When every entry record sits under its own hash, the gossip of an agent lists an entry
with aspects to fetch exactly when, by the publish path, the agent needs an aspect of it. -/
theorem gossipAspects_ne_empty_iff (hkeys : state.AllSpaces Space.EntryKeys)
    {gossipAspects : Finmap fun _ : A => Finset A}
    (hm : state.getGossipAspectsNeededForAgent naiveShardingShouldStore spaceHash agentId =
      some gossipAspects) (entryHash : A) :
    (gossipAspects.lookup entryHash).getD ∅ ≠ ∅ ↔
      ∃ aspectHash, agentId ∈ state.getAgentsThatNeedAspect entryLocation
        naiveShardingShouldStore spaceHash entryHash aspectHash := by
  obtain ⟨space, hspace, rfl⟩ := Option.map_eq_some_iff.mp hm
  rw [← Finset.nonempty_iff_ne_empty]
  unfold Store.getAgentsThatNeedAspect
  rw [hspace]
  dsimp only
  constructor
  · rintro ⟨aspectHash, haspect⟩
    refine ⟨aspectHash, (Space.mem_getAgentsThatNeedAspect _ _ _ _ _ _).mpr ?_⟩
    exact (Space.holds_getGossipAspectsNeededForAgent space naiveShardingShouldStore
      (hkeys spaceHash space hspace) agentId entryHash aspectHash).mp haspect
  · rintro ⟨aspectHash, hneed⟩
    refine ⟨aspectHash, ?_⟩
    exact (Space.holds_getGossipAspectsNeededForAgent space naiveShardingShouldStore
      (hkeys spaceHash space hspace) agentId entryHash aspectHash).mpr
      ((Space.mem_getAgentsThatNeedAspect _ _ _ _ _ _).mp hneed)

end Needs

/-! ### What the gossip of an agent sends -/

/-- What the gossip of `agentId` in `spaceHash` sends, on the store `state`, after the checks
`passed` that the table let through, when it checks the entries `checks` at their times, read
in order from `now` on: those that, by the publish path, the agent needs an aspect of. Every
message asks for a checked entry that no check let through less than a second before the
entry's own check; it goes to an agent holding the entry when one does, and otherwise to one
that should hold it, on the uri that agent joined the space on. Every entry the agent needs is
checked, and asked for when it passes, unless an agent holding it has no uri in the space. -/
structure GossipFetches [DecidableEq A] (cfg : Sim2hConfig A) (state : Store A U)
    (passed : List (Nat × A)) (now : Nat) (checks : List (Nat × A)) (spaceHash agentId : A)
    (sent : List (Outgoing A U)) : Prop where
  sorted : checks.Pairwise fun c c' => c.1 ≤ c'.1
  from_now : ∀ c ∈ checks, now ≤ c.1
  checked : ∀ c ∈ checks, ∃ aspectHash, agentId ∈ state.getAgentsThatNeedAspect
    cfg.entryLocation cfg.naiveShardingShouldStore spaceHash c.2 aspectHash
  sound : ∀ o ∈ sent, ∃ t entryHash queryAgent uri,
    o = .send queryAgent uri (fetchMessage spaceHash entryHash queryAgent) ∧
    (t, entryHash) ∈ checks ∧
    (∀ t', (t', entryHash) ∈ passed → 1000 ≤ t - t') ∧
    state.lookupJoined spaceHash queryAgent = some uri ∧
    (queryHolders state spaceHash entryHash none ≠ ∅ →
      queryAgent ∈ queryHolders state spaceHash entryHash none) ∧
    (queryHolders state spaceHash entryHash none = ∅ →
      queryAgent ∈ queryShouldHold state cfg.entryLocation cfg.naiveShardingShouldStore
        spaceHash entryHash none)
  complete : ∀ entryHash aspectHash, agentId ∈ state.getAgentsThatNeedAspect cfg.entryLocation
      cfg.naiveShardingShouldStore spaceHash entryHash aspectHash →
    ∃ t, (t, entryHash) ∈ checks ∧
      ((∀ t', (t', entryHash) ∈ passed → 1000 ≤ t - t') →
        (∀ q ∈ queryHolders state spaceHash entryHash none,
          (state.lookupJoined spaceHash q).isSome) →
        ∃ queryAgent uri,
          Outgoing.send queryAgent uri (fetchMessage spaceHash entryHash queryAgent) ∈ sent)

section Sends

variable [LinearOrder A] {cfg : Sim2hConfig A} {state : Store A U} {spaceHash agentId : A}
  {shuffle : A → Finset A → List A} {delay : A → Nat} {now : Nat} {passed : List (Nat × A)}

/-- An entry with aspects to fetch is among the entries the gossip checks. -/
theorem mem_gossipChecks {gossipAspects : Finmap fun _ : A => Finset A} {entryHash : A}
    (hne : (gossipAspects.lookup entryHash).getD ∅ ≠ ∅) :
    entryHash ∈ gossipChecks gossipAspects := by
  refine List.mem_filter.mpr ⟨?_, decide_eq_true hne⟩
  rw [Finset.mem_sort, Finmap.mem_keys]
  by_contra hnot
  rw [Finmap.lookup_eq_none.mpr hnot] at hne
  exact hne rfl

/-- The requests of the entries with aspects to fetch that the limiter lets through at the
times their checks read are what the gossip of the agent should send, when every entry
record of the store sits under its own hash and each draw is an order of the set drawn
from. -/
theorem gossipFetches_filterMap (hkeys : state.AllSpaces Space.EntryKeys)
    (hshuffle : ∀ entryHash t, (shuffle entryHash t).Perm t.toList)
    {gossipAspects : Finmap fun _ : A => Finset A}
    (hm : state.getGossipAspectsNeededForAgent cfg.naiveShardingShouldStore spaceHash agentId =
      some gossipAspects) :
    GossipFetches cfg state passed now (checkTimes delay now (gossipChecks gossipAspects))
      spaceHash agentId
      ((checkTimes delay now (gossipChecks gossipAspects)).filterMap fun c =>
        if RateLimit.heldBack 1000 passed c.1 c.2 = false then
          fetchRequest cfg shuffle spaceHash state c.2
        else none) where
  sorted := (checkTimes_sorted delay now _).1
  from_now := (checkTimes_sorted delay now _).2
  checked c hc := by
    refine (gossipAspects_ne_empty_iff hkeys hm c.2).mp ?_
    simpa using (List.mem_filter.mp (mem_of_mem_checkTimes delay hc)).2
  sound o ho := by
    obtain ⟨⟨t, entryHash⟩, hc, hsend⟩ := List.mem_filterMap.mp ho
    split at hsend
    · rename_i hheld
      obtain ⟨queryAgent, others, uri, hquery, hjoined, rfl⟩ :=
        (fetchRequest_eq_some cfg shuffle spaceHash state).mp hsend
      obtain ⟨hholders, hshould⟩ := head_getAgentsForQuery (hshuffle entryHash) hquery
      exact ⟨t, entryHash, queryAgent, uri, rfl, hc, RateLimit.heldBack_eq_false_iff.mp hheld,
        hjoined, hholders, hshould⟩
    · cases hsend
  complete entryHash aspectHash hneed := by
    have hne : (gossipAspects.lookup entryHash).getD ∅ ≠ ∅ :=
      (gossipAspects_ne_empty_iff hkeys hm entryHash).mpr ⟨aspectHash, hneed⟩
    -- the entry is checked at some time, and asked for when it passes then
    have hmem : entryHash ∈ (checkTimes delay now (gossipChecks gossipAspects)).map Prod.snd := by
      rw [map_snd_checkTimes]
      exact mem_gossipChecks hne
    obtain ⟨⟨t, e⟩, hc, rfl⟩ := List.mem_map.mp hmem
    refine ⟨t, hc, fun hfresh hholdersJoined => ?_⟩
    -- the agent itself should hold the entry, so somebody is drawn
    have hshould := mem_queryShouldHold_of_need hneed
    obtain ⟨queryAgent, others, hquery⟩ := List.exists_cons_of_ne_nil
      (getAgentsForQuery_ne_nil (hshuffle e) (Finset.ne_empty_of_mem hshould))
    obtain ⟨hholders, hshouldHold⟩ := head_getAgentsForQuery (hshuffle e) hquery
    -- the agent drawn is joined: a holder by assumption, an agent that should hold it always
    have hjoined : (state.lookupJoined spaceHash queryAgent).isSome := by
      by_cases hh : queryHolders state spaceHash e none = ∅
      · obtain ⟨space, info, hspace, hinfo, -⟩ := exists_of_mem_getAgentsThatNeedAspect hneed
        exact lookupJoined_of_mem_queryShouldHold hspace hinfo (hshouldHold hh)
      · exact hholdersJoined queryAgent (hholders hh)
    obtain ⟨uri, huri⟩ := Option.isSome_iff_exists.mp hjoined
    refine ⟨queryAgent, uri, List.mem_filterMap.mpr ⟨(t, e), hc, ?_⟩⟩
    rw [if_pos (RateLimit.heldBack_eq_false_iff.mpr hfresh)]
    exact (fetchRequest_eq_some cfg shuffle spaceHash state).mpr
      ⟨queryAgent, others, uri, hquery, huri, rfl⟩

end Sends

/-! ### What each step does -/

namespace Sim2hSystem

variable [LinearOrder A] [DecidableEq U] {cfg : Sim2hConfig A} {s s' : Sim2hSystem A U}

theorem next_relay {e : RelayEvent A U} (h : s.next cfg (.relay e) = some s') :
    ∃ relay, RelayStep cfg s.relay e relay ∧ s' = { s with relay := relay } := by
  cases e with
  | checkGossip now toAdd =>
    simp only [next] at h
    cases h
  | receiveData | connectionLost | checkDisconnected =>
    simp only [next] at h
    split at h
    · cases h
      exact ⟨_, ‹_›, rfl⟩
    · cases h

theorem next_process {now : Nat} (h : s.next cfg (.process now) = some s') :
    s.clock ≤ now ∧
      ((s.schedule.shouldProceed now).1 = true ∧
          s' = { s with schedule := (s.schedule.shouldProceed now).2, rounds := s.rounds ++ [none],
                        clock := now, starts := s.starts ++ [now] } ∨
        (s.schedule.shouldProceed now).1 = false ∧
          s' = { s with schedule := (s.schedule.shouldProceed now).2, clock := now }) := by
  simp only [next] at h
  split at h
  · cases h
  · rename_i hclock
    refine ⟨Nat.le_of_not_lt hclock, ?_⟩
    split at h
    · cases h
      exact .inl ⟨‹_›, rfl⟩
    · cases h
      rename_i hproceed
      exact .inr ⟨Bool.eq_false_iff.mpr hproceed, rfl⟩

theorem next_checkGossip {i now : Nat} {toAdd : A → A → Nat}
    (h : s.next cfg (.checkGossip i now toAdd) = some s') :
    s.clock ≤ now ∧ s.rounds[i]? = some none ∧
      s' = { s with relay := s.relay.mutate cfg (.checkGossip now toAdd),
                    rounds := s.rounds.set i (some (s.relay.store.checkGossip now toAdd).2),
                    clock := now } := by
  simp only [next] at h
  split at h
  · cases h
  · rename_i hclock
    split at h
    · cases h
      exact ⟨Nat.le_of_not_lt hclock, ‹_›, rfl⟩
    · cases h

theorem next_gossipAgent {i now : Nat} {delay : A → Nat} {shuffle : A → Finset A → List A}
    (h : s.next cfg (.gossipAgent i now delay shuffle) = some s') :
    s.clock ≤ now ∧ ∃ spaceHash agentId rest,
      s.rounds[i]? = some (some ((spaceHash, agentId) :: rest)) ∧
      (s.relay.store.getGossipAspectsNeededForAgent cfg.naiveShardingShouldStore spaceHash
          agentId = none ∧
        s' = { s with rounds := s.rounds.set i (some rest), clock := now } ∨
      ∃ gossipAspects,
        s.relay.store.getGossipAspectsNeededForAgent cfg.naiveShardingShouldStore spaceHash
          agentId = some gossipAspects ∧
        s' = { s with
          rounds := s.rounds.set i (some rest),
          clock := (fetchEntryData cfg shuffle delay now gossipAspects spaceHash s.relay.store
            s.fetched s.relay).1,
          fetched := (fetchEntryData cfg shuffle delay now gossipAspects spaceHash s.relay.store
            s.fetched s.relay).2.1,
          relay := (fetchEntryData cfg shuffle delay now gossipAspects spaceHash s.relay.store
            s.fetched s.relay).2.2,
          passed := s.passed ++
            s.fetched.passedChecks (checkTimes delay now (gossipChecks gossipAspects)) }) := by
  simp only [next] at h
  split at h
  · cases h
  · rename_i hclock
    refine ⟨Nat.le_of_not_lt hclock, ?_⟩
    split at h
    · rename_i spaceHash agentId rest hround
      refine ⟨spaceHash, agentId, rest, hround, ?_⟩
      split at h
      · cases h
        exact .inl ⟨‹_›, rfl⟩
      · cases h
        exact .inr ⟨_, ‹_›, rfl⟩
    · cases h

theorem next_finishRound {i : Nat} (h : s.next cfg (.finishRound i) = some s') :
    s.rounds[i]? = some (some []) ∧
      s' = { s with rounds := s.rounds.eraseIdx i, schedule := s.schedule.dropGuard } := by
  simp only [next] at h
  split at h
  · cases h
    exact ⟨‹_›, rfl⟩
  · cases h

end Sim2hSystem

/-! ### Invariants over every run -/

namespace Sim2hSystem

variable [LinearOrder A] [DecidableEq U] {cfg : Sim2hConfig A} {s s' : Sim2hSystem A U}

/-- A step of the relay with its gossip moves the relay's store by mutations of the store. -/
theorem storeReach_of_step {e : Sim2hEvent A U} (h : Sim2hStep cfg s e s') :
    Relay.StoreReach cfg s.relay s'.relay := by
  cases e with
  | relay e =>
    obtain ⟨relay, hstep, rfl⟩ := next_relay h
    exact relayStep_storeReach hstep
  | process now =>
    obtain ⟨-, ⟨-, rfl⟩ | ⟨-, rfl⟩⟩ := next_process h <;> exact .refl _
  | checkGossip i now toAdd =>
    obtain ⟨-, -, rfl⟩ := next_checkGossip h
    exact Relay.storeReach_mutate cfg _ _
  | gossipAgent i now delay shuffle =>
    obtain ⟨-, spaceHash, agentId, rest, -, ⟨-, rfl⟩ | ⟨m, -, rfl⟩⟩ := next_gossipAgent h
    · exact .refl _
    · exact .of_store_eq (store_fetchEntryData cfg shuffle delay now m spaceHash _ _ _)
  | finishRound i =>
    obtain ⟨-, rfl⟩ := next_finishRound h
    exact .refl _

/-- Every store the relay with its gossip reaches is one the store's mutations reach. -/
theorem reachable_store (hs : Run.Reachable (Sim2hStep cfg) (new cfg) s) :
    Run.Reachable (StoreStep cfg.calcLocation cfg.entryLocation)
      (Store.new cfg.dhtAlgorithm.redundantCount none) s.relay.store :=
  Run.Reachable.invariant (P := fun s : Sim2hSystem A U =>
      Run.Reachable (StoreStep cfg.calcLocation cfg.entryLocation)
        (Store.new cfg.dhtAlgorithm.redundantCount none) s.relay.store)
    .init (fun _ _ _ hs hstep => hs.trans (storeReach_of_step hstep)) hs

/-- The table is in step with the checks it let through, and the checks of one entry hash that
it let through are a second apart. -/
structure FetchInv (s : Sim2hSystem A U) : Prop where
  tracks : RateLimit.Tracks 1000 s.clock s.passed s.fetched.entries.lookup
  spaced : RateLimit.Spaced 1000 s.passed

omit [DecidableEq U] in
theorem fetchInv_new : (new cfg : Sim2hSystem A U).FetchInv :=
  ⟨RateLimit.tracks_nil 0, List.Pairwise.nil⟩

/-- Every step keeps the table in step: a later clock keeps it, and the gossip of an agent
checks at its own time. -/
theorem FetchInv.step (hinv : s.FetchInv) {e : Sim2hEvent A U} (h : Sim2hStep cfg s e s') :
    s'.FetchInv := by
  cases e with
  | relay e =>
    obtain ⟨relay, -, rfl⟩ := next_relay h
    exact ⟨hinv.tracks, hinv.spaced⟩
  | process now =>
    obtain ⟨hle, ⟨-, rfl⟩ | ⟨-, rfl⟩⟩ := next_process h <;>
      exact ⟨hinv.tracks.mono hle, hinv.spaced⟩
  | checkGossip i now toAdd =>
    obtain ⟨hle, -, rfl⟩ := next_checkGossip h
    exact ⟨hinv.tracks.mono hle, hinv.spaced⟩
  | gossipAgent i now delay shuffle =>
    obtain ⟨hle, spaceHash, agentId, rest, -, ⟨-, rfl⟩ | ⟨m, -, rfl⟩⟩ := next_gossipAgent h
    · exact ⟨hinv.tracks.mono hle, hinv.spaced⟩
    · have htracks := hinv.tracks.mono hle
      obtain ⟨-, htracks'⟩ := fetchEntryData_spec cfg shuffle delay now m spaceHash s.relay.store
        htracks s.relay
      obtain ⟨hsorted, hfrom⟩ := checkTimes_sorted delay now (gossipChecks m)
      refine ⟨htracks', ?_⟩
      -- what the table let through is what the limiter lets through, in the order of the
      -- times the checks read, none before what went through already; so it stays spaced
      show RateLimit.Spaced 1000
        (s.passed ++ s.fetched.passedChecks (checkTimes delay now (gossipChecks m)))
      rw [EntriesAlreadyFetched.append_passedChecks _ htracks hsorted hfrom]
      exact RateLimit.Spaced.foldl_offer _ hsorted hinv.spaced fun p hp c hc =>
        (htracks.passed_le p hp).trans (hfrom c hc)
  | finishRound i =>
    obtain ⟨-, rfl⟩ := next_finishRound h
    exact ⟨hinv.tracks, hinv.spaced⟩

theorem reachable_fetchInv (hs : Run.Reachable (Sim2hStep cfg) (new cfg) s) : s.FetchInv :=
  Run.Reachable.invariant fetchInv_new (fun _ _ _ hinv hstep => hinv.step hstep) hs

/-- The schedule's token and the running rounds: one or the other is there, never both; every
round started at most at the schedule's last time, thirty seconds after the one before and no
earlier than thirty seconds after the relay started. -/
structure RoundsInv (s : Sim2hSystem A U) : Prop where
  interval : s.schedule.interval = retryFetchMissingAspectsIntervalMs
  token : (if s.schedule.ready then 1 else 0) + s.rounds.length = 1
  starts_le : ∀ t ∈ s.starts, t ≤ s.schedule.lastTrue
  spaced : s.starts.Pairwise fun t t' => t + retryFetchMissingAspectsIntervalMs ≤ t'
  first : ∀ t ∈ s.starts, retryFetchMissingAspectsIntervalMs ≤ t

omit [LinearOrder A] [DecidableEq U] in
theorem roundsInv_new : (new cfg : Sim2hSystem A U).RoundsInv where
  interval := rfl
  token := rfl
  starts_le _ h := absurd h List.not_mem_nil
  spaced := List.Pairwise.nil
  first _ h := absurd h List.not_mem_nil

omit [LinearOrder A] [DecidableEq U] in
/-- Starting a round takes the token, at least the interval after the last start. -/
theorem RoundsInv.start (hinv : s.RoundsInv) {now : Nat}
    (hproceed : (s.schedule.shouldProceed now).1 = true) :
    RoundsInv { s with schedule := (s.schedule.shouldProceed now).2, rounds := s.rounds ++ [none],
                       clock := now, starts := s.starts ++ [now] } := by
  obtain ⟨hint, hready, hsch⟩ := Schedule.shouldProceed_of_true hproceed
  -- the interval is thirty seconds, so the last start is that much before `now`
  have hgap : s.schedule.lastTrue + retryFetchMissingAspectsIntervalMs ≤ now := by
    have hthirty : retryFetchMissingAspectsIntervalMs = 30000 := rfl
    rw [hinv.interval] at hint
    omega
  have hnow : ∀ t ∈ s.starts ++ [now], t ≤ now := by
    intro t ht
    rcases List.mem_append.mp ht with ht | ht
    · have := hinv.starts_le t ht
      omega
    · exact Nat.le_of_eq (List.mem_singleton.mp ht)
  have htoken := hinv.token
  rw [hready, if_pos rfl] at htoken
  refine ⟨?_, ?_, ?_, ?_, ?_⟩
  · rw [hsch]
    exact hinv.interval
  · -- the token was there, so no round was running; now one is
    rw [hsch]
    show 0 + (s.rounds ++ [none]).length = 1
    rw [List.length_append, List.length_singleton]
    omega
  · rw [hsch]
    exact hnow
  · refine List.pairwise_append.mpr ⟨hinv.spaced, List.pairwise_singleton _ _, ?_⟩
    intro t ht t' ht'
    rw [List.mem_singleton.mp ht']
    have := hinv.starts_le t ht
    omega
  · intro t ht
    rcases List.mem_append.mp ht with ht | ht
    · exact hinv.first t ht
    · rw [List.mem_singleton.mp ht]
      omega

omit [LinearOrder A] [DecidableEq U] in
/-- A round that ends drops its guard, which puts the token back. -/
theorem RoundsInv.finish (hinv : s.RoundsInv) {i : Nat} {round : Option (List (A × A))}
    (hround : s.rounds[i]? = some round) :
    RoundsInv { s with rounds := s.rounds.eraseIdx i, schedule := s.schedule.dropGuard } := by
  have hi : i < s.rounds.length := (List.getElem?_eq_some_iff.mp hround).1
  refine ⟨hinv.interval, ?_, hinv.starts_le, hinv.spaced, hinv.first⟩
  have htoken := hinv.token
  show 1 + (s.rounds.eraseIdx i).length = 1
  rw [List.length_eraseIdx_of_lt hi]
  split at htoken <;> omega

theorem RoundsInv.step (hinv : s.RoundsInv) {e : Sim2hEvent A U} (h : Sim2hStep cfg s e s') :
    s'.RoundsInv := by
  cases e with
  | relay e =>
    obtain ⟨relay, -, rfl⟩ := next_relay h
    exact ⟨hinv.interval, hinv.token, hinv.starts_le, hinv.spaced, hinv.first⟩
  | process now =>
    obtain ⟨-, ⟨hproceed, rfl⟩ | ⟨hproceed, rfl⟩⟩ := next_process h
    · exact hinv.start hproceed
    · -- the schedule is polled and stays as it was
      rw [Schedule.shouldProceed_of_false hproceed]
      exact ⟨hinv.interval, hinv.token, hinv.starts_le, hinv.spaced, hinv.first⟩
  | checkGossip i now toAdd =>
    obtain ⟨-, -, rfl⟩ := next_checkGossip h
    exact ⟨hinv.interval, by rw [List.length_set]; exact hinv.token, hinv.starts_le,
      hinv.spaced, hinv.first⟩
  | gossipAgent i now delay shuffle =>
    obtain ⟨-, spaceHash, agentId, rest, -, ⟨-, rfl⟩ | ⟨m, -, rfl⟩⟩ := next_gossipAgent h <;>
      exact ⟨hinv.interval, by rw [List.length_set]; exact hinv.token, hinv.starts_le,
        hinv.spaced, hinv.first⟩
  | finishRound i =>
    obtain ⟨hround, rfl⟩ := next_finishRound h
    exact hinv.finish hround

theorem reachable_roundsInv (hs : Run.Reachable (Sim2hStep cfg) (new cfg) s) : s.RoundsInv :=
  Run.Reachable.invariant roundsInv_new (fun _ _ _ hinv hstep => hinv.step hstep) hs

end Sim2hSystem

/-! ### Main results -/

section Main

variable [LinearOrder A] [DecidableEq U] {cfg : Sim2hConfig A} {s : Sim2hSystem A U}

/-- Over every run of the relay with its gossip, in which the clock never goes back: the
checks of one entry hash that the table let through, for whatever space, are at least a second
apart, and at any time from the clock on the table holds a check of an entry hash back exactly
when a check of that hash went through less than a second before. -/
theorem reachable_fetch_limiter (hs : Run.Reachable (Sim2hStep cfg) (Sim2hSystem.new cfg) s) :
    RateLimit.Spaced 1000 s.passed ∧
      ∀ now entryHash, s.clock ≤ now →
        ((s.fetched.check now entryHash).1 = true ↔
          ∃ t, (t, entryHash) ∈ s.passed ∧ now - t < 1000) := by
  have hinv := Sim2hSystem.reachable_fetchInv hs
  refine ⟨hinv.spaced, fun now entryHash hle => ?_⟩
  rw [(EntriesAlreadyFetched.check_spec hinv.tracks hle entryHash).1, RateLimit.heldBack_iff]

/-- Over every run, at most one round of gossip runs at a time, and the rounds start at least
thirty seconds apart, the first thirty seconds after the relay started. -/
theorem reachable_rounds (hs : Run.Reachable (Sim2hStep cfg) (Sim2hSystem.new cfg) s) :
    s.rounds.length ≤ 1 ∧
      s.starts.Pairwise (fun t t' => t + retryFetchMissingAspectsIntervalMs ≤ t') ∧
      ∀ t ∈ s.starts, retryFetchMissingAspectsIntervalMs ≤ t := by
  have hinv := Sim2hSystem.reachable_roundsInv hs
  refine ⟨?_, hinv.spaced, hinv.first⟩
  have := hinv.token
  split at this <;> omega

end Main

/-! ### A run -/

/-- Agents `2` and `1` join on uris `200` and `100` and report what they hold; at thirty
seconds a round starts and finds both due. -/
def gossipTrace : List (Sim2hEvent Nat Nat) :=
  [.relay (.receiveData 200 (.binary [2]) ⟨0, fun _ => []⟩),
   .relay (.receiveData 100 (.binary [1]) ⟨0, fun _ => []⟩),
   .relay (.receiveData 200 (.binary [3]) ⟨0, fun _ => []⟩),
   .relay (.receiveData 100 (.binary [4]) ⟨0, fun _ => []⟩),
   .process 30000,
   .checkGossip 0 30000 fun _ _ => 30000]

/-- The state the trace reaches. -/
def gossipExample : Sim2hSystem Nat Nat :=
  (Run.runSteps (fun s e => s.next gossipConfig e) (Sim2hSystem.new gossipConfig)
    gossipTrace).getD (Sim2hSystem.new gossipConfig)

/-- Each check of an entry reads the clock five milliseconds after the one before. -/
def gossipDelay (_ : Nat) : Nat := 5

/-- Draws in increasing order. -/
def gossipShuffle (_ : Nat) (t : Finset Nat) : List Nat := t.sort

/-- The state after the round's gossip to agent `1`, which needs aspect `6` of entry `5`. -/
def gossipExampleNext : Sim2hSystem Nat Nat :=
  (gossipExample.next gossipConfig (.gossipAgent 0 30000 gossipDelay gossipShuffle)).getD
    gossipExample

theorem gossipExample_reachable :
    Run.Reachable (Sim2hStep gossipConfig) (Sim2hSystem.new gossipConfig) gossipExample :=
  Run.Reachable.of_runSteps (fun _ _ _ h => h) .init
    (rfl : Run.runSteps (fun s e => s.next gossipConfig e) (Sim2hSystem.new gossipConfig)
      gossipTrace = some gossipExample)

theorem gossipExample_step :
    Sim2hStep gossipConfig gossipExample (.gossipAgent 0 30000 gossipDelay gossipShuffle)
      gossipExampleNext :=
  rfl

theorem gossipExampleNext_reachable :
    Run.Reachable (Sim2hStep gossipConfig) (Sim2hSystem.new gossipConfig) gossipExampleNext :=
  .step (.gossipAgent 0 30000 gossipDelay gossipShuffle) gossipExample_reachable gossipExample_step

theorem gossipShuffle_perm (entryHash : Nat) (t : Finset Nat) :
    (gossipShuffle entryHash t).Perm t.toList :=
  Finset.sort_perm_toList t _

/-- In the run, the table answers for the limiter after the gossip to agent `1`. -/
theorem reachable_fetch_limiter_example :
    Run.Reachable (Sim2hStep gossipConfig) (Sim2hSystem.new gossipConfig) gossipExampleNext ∧
      RateLimit.Spaced 1000 gossipExampleNext.passed ∧
      ∀ now entryHash, gossipExampleNext.clock ≤ now →
        ((gossipExampleNext.fetched.check now entryHash).1 = true ↔
          ∃ t, (t, entryHash) ∈ gossipExampleNext.passed ∧ now - t < 1000) :=
  ⟨gossipExampleNext_reachable, reachable_fetch_limiter gossipExampleNext_reachable⟩

/-- In the run, one round is running, started at thirty seconds. -/
theorem reachable_rounds_example :
    Run.Reachable (Sim2hStep gossipConfig) (Sim2hSystem.new gossipConfig) gossipExample ∧
      gossipExample.rounds.length ≤ 1 ∧
      gossipExample.starts.Pairwise (fun t t' => t + retryFetchMissingAspectsIntervalMs ≤ t') ∧
      ∀ t ∈ gossipExample.starts, retryFetchMissingAspectsIntervalMs ≤ t :=
  ⟨gossipExample_reachable, reachable_rounds gossipExample_reachable⟩

end Holochain.Sim2h
