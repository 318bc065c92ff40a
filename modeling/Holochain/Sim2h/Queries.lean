/-
What the sim2h relay asks its in-memory state (`sim2h/src/sim2h_im_state.rs`): who holds an
entry, who should, who to ask for it, and what each agent still has to fetch.

The relay publishes an aspect to the agents that need it (`get_agents_that_need_aspect`) and
gossips to each agent the aspects it needs (`get_gossip_aspects_needed_for_agent`). The two are
written separately; over every run of the store they give the same relation between agents
and aspects. They read an entry through its hash, and the per-agent path through the hash the
entry record carries: every record sits under its own hash (`EntryKeys`).

Main results:
* `mem_getAgentsHoldingEntry` — the agents holding an entry are those holding each of its
  aspects, and nobody for an entry without aspects;
* `get_agents_for_query_spec` — a query goes to at most three distinct agents: holders other
  than the requester, else agents that should hold the entry, else the requester alone;
* `reachable_entryKeys` — every entry record sits under its own hash;
* `need_aspect_iff_gossip` — an agent needs an aspect by the publish path exactly when the
  gossip path lists the aspect for it.
-/
import Mathlib.Data.Finset.Sort
import Holochain.Lib.Multimap
import Holochain.Lib.Run
import Holochain.Sim2h.ImState

namespace Holochain.Sim2h

variable {A U : Type} [DecidableEq A]

/-! ### The holders of an entry -/

/-- Intersecting a set with each set of a list keeps what is in all of them. -/
theorem mem_foldl_inter {β : Type} (f : β → Finset A) (a : A) (first : Finset A) (rest : List β) :
    a ∈ rest.foldl (fun remaining e => remaining ∩ f e) first ↔ a ∈ first ∧ ∀ e ∈ rest, a ∈ f e := by
  induction rest generalizing first with
  | nil => simp
  | cons e rest ih =>
    simp only [List.foldl_cons, ih, Finset.mem_inter, List.mem_cons, forall_eq_or_imp]
    tauto

/-- `get_agents_holding_entry`: the agents holding every aspect of the entry. An entry the
space does not know, or one with no aspects, is held by nobody. -/
theorem mem_getAgentsHoldingEntry {space : Space A U} {entryHash a : A} :
    a ∈ space.getAgentsHoldingEntry entryHash ↔
      ∃ info, space.entryToAllAspects.lookup entryHash = some info ∧ info.aspects.entries ≠ [] ∧
        ∀ h ∈ info.aspects.entries, a ∈ h.2 := by
  unfold Space.getAgentsHoldingEntry
  cases space.entryToAllAspects.lookup entryHash with
  | none => simp
  | some info =>
    simp only [Option.some.injEq, exists_eq_left']
    cases info.aspects.entries with
    | nil => simp
    | cons first rest =>
      simp only [ne_eq, reduceCtorEq, not_false_eq_true, true_and, List.mem_cons, forall_eq_or_imp]
      exact mem_foldl_inter (·.2) a first.2 rest

/-! ### Who is asked for an entry -/

/-- The agents without the requester, when there is one. -/
def withoutRequester (requestingAgentId : Option A) (out : Finset A) : Finset A :=
  match requestingAgentId with
  | some aid => out.erase aid
  | none => out

theorem withoutRequester_subset (r : Option A) (out : Finset A) : withoutRequester r out ⊆ out := by
  cases r with
  | none => exact Finset.Subset.refl out
  | some aid => exact Finset.erase_subset aid out

theorem not_mem_withoutRequester (aid : A) (out : Finset A) : aid ∉ withoutRequester (some aid) out :=
  Finset.notMem_erase aid out

variable (s : Store A U) (entryLocation : A → Nat)
  (naiveShardingShouldStore : Nat → Nat → Nat → Nat → Bool)

/-- The agents holding the entry, other than the requester. -/
def queryHolders (spaceHash entryHash : A) (r : Option A) : Finset A :=
  withoutRequester r ((s.getAgentsHoldingEntry spaceHash entryHash).getD ∅)

/-- The agents that should hold the entry, other than the requester. -/
def queryShouldHold (spaceHash entryHash : A) (r : Option A) : Finset A :=
  withoutRequester r (((s.getAgentsThatShouldHoldEntry entryLocation naiveShardingShouldStore
    spaceHash entryHash).map List.toFinset).getD ∅)

variable {s entryLocation naiveShardingShouldStore}

/-- The stages of a query: the first set, else the second, else what is left, where each set
is taken without the requester. -/
theorem query_stages (without : Finset A → Finset A) (holders : Finset A)
    (shouldHold : Option (Finset A)) (pick : Finset A → List A) (last : List A) :
    (let out := without holders
     let out := if out = ∅ then without (shouldHold.getD out) else out
     if out = ∅ then last else pick out) =
      if without holders ≠ ∅ then pick (without holders)
      else if without (shouldHold.getD ∅) ≠ ∅ then pick (without (shouldHold.getD ∅))
      else last := by
  dsimp only
  by_cases hholders : without holders = ∅
  · -- the second stage reads the agents that should hold the entry
    rw [if_pos hholders, hholders]
    simp only [ne_eq, not_true_eq_false, if_false]
    by_cases hshould : without (shouldHold.getD ∅) = ∅
    · rw [if_pos hshould, if_neg (not_not.mpr hshould)]
    · rw [if_neg hshould, if_pos hshould]
  · rw [if_neg hholders, if_neg hholders, if_pos hholders]

/-- `get_agents_for_query` by its three stages: holders other than the requester, else agents
that should hold the entry other than the requester, else the requester. -/
theorem getAgentsForQuery_eq (shuffle : Finset A → List A) (spaceHash entryHash : A)
    (r : Option A) :
    s.getAgentsForQuery entryLocation naiveShardingShouldStore shuffle spaceHash entryHash r =
      if queryHolders s spaceHash entryHash r ≠ ∅ then
        (shuffle (queryHolders s spaceHash entryHash r)).take 3
      else if queryShouldHold s entryLocation naiveShardingShouldStore spaceHash entryHash r ≠ ∅ then
        (shuffle (queryShouldHold s entryLocation naiveShardingShouldStore spaceHash entryHash r)).take 3
      else match r with
        | none => []
        | some aid => (shuffle {aid}).take 3 :=
  query_stages (withoutRequester r) ((s.getAgentsHoldingEntry spaceHash entryHash).getD ∅)
    ((s.getAgentsThatShouldHoldEntry entryLocation naiveShardingShouldStore spaceHash
      entryHash).map List.toFinset) (fun out => (shuffle out).take 3)
    (match r with
      | none => []
      | some aid => (shuffle {aid}).take 3)

omit [DecidableEq A] in
/-- The first three of a permutation of a set: at most three distinct agents of the set. -/
theorem take_three_of_perm {l : List A} {t : Finset A} (hperm : l.Perm t.toList) :
    (l.take 3).length ≤ 3 ∧ (l.take 3).Nodup ∧ ∀ a ∈ l.take 3, a ∈ t := by
  have hnodup : l.Nodup := hperm.nodup_iff.mpr t.nodup_toList
  refine ⟨List.length_take_le 3 l, hnodup.sublist (List.take_sublist 3 l), fun a ha => ?_⟩
  rw [← Finset.mem_toList, ← hperm.mem_iff]
  exact List.mem_of_mem_take ha

/-- A stage that drew from a set without the requester never returns the requester. -/
theorem requester_not_drawn {result : List A} {aid : A} {out : Finset A} {P : Prop}
    (hdrawn : ∀ a ∈ result, a ∈ withoutRequester (some aid) out) (hP : ¬P) :
    (aid ∈ result → result = [aid]) ∧ (result = [aid] ↔ P) := by
  have hnot : aid ∉ result := fun h => not_mem_withoutRequester aid out (hdrawn aid h)
  refine ⟨fun h => absurd h hnot, fun h => ?_, fun h => absurd h hP⟩
  rw [h] at hnot
  exact absurd (List.mem_singleton_self aid) hnot

/-- `get_agents_for_query`, for every order the shuffle draws: at most three distinct agents;
the requester only alone, and exactly when nobody else holds or should hold the entry;
otherwise holders when there are any, else agents that should hold it; nobody when there is
no requester and no one else. -/
theorem get_agents_for_query_spec (shuffle : Finset A → List A)
    (hshuffle : ∀ t, (shuffle t).Perm t.toList) (spaceHash entryHash : A) (r : Option A)
    {result : List A}
    (hquery : s.getAgentsForQuery entryLocation naiveShardingShouldStore shuffle spaceHash
      entryHash r = result) :
    result.length ≤ 3 ∧ result.Nodup ∧
      (∀ aid, r = some aid →
        (aid ∈ result → result = [aid]) ∧
        (result = [aid] ↔ queryHolders s spaceHash entryHash r = ∅ ∧
          queryShouldHold s entryLocation naiveShardingShouldStore spaceHash entryHash r = ∅)) ∧
      (queryHolders s spaceHash entryHash r ≠ ∅ →
        ∀ a ∈ result, a ∈ queryHolders s spaceHash entryHash r) ∧
      (queryHolders s spaceHash entryHash r = ∅ →
        queryShouldHold s entryLocation naiveShardingShouldStore spaceHash entryHash r ≠ ∅ →
        ∀ a ∈ result, a ∈ queryShouldHold s entryLocation naiveShardingShouldStore spaceHash
          entryHash r) ∧
      (r = none → queryHolders s spaceHash entryHash r = ∅ →
        queryShouldHold s entryLocation naiveShardingShouldStore spaceHash entryHash r = ∅ →
        result = []) := by
  have hresult := hquery.symm.trans (getAgentsForQuery_eq shuffle spaceHash entryHash r)
  set holders := queryHolders s spaceHash entryHash r
  set shouldHold := queryShouldHold s entryLocation naiveShardingShouldStore spaceHash entryHash r
  by_cases hholders : holders = ∅
  · by_cases hshould : shouldHold = ∅
    · -- the last stage: the requester alone, or nobody
      rw [if_neg (not_not.mpr hholders), if_neg (not_not.mpr hshould)] at hresult
      cases r with
      | none =>
        rw [hresult]
        refine ⟨Nat.zero_le 3, List.nodup_nil, ?_, fun h => absurd hholders h,
          fun _ h => absurd hshould h, fun _ _ _ => rfl⟩
        intro aid hnone
        cases hnone
      | some aid =>
        have hsingle : shuffle {aid} = [aid] := by
          have hperm := hshuffle {aid}
          rw [Finset.toList_singleton] at hperm
          exact List.perm_singleton.mp hperm
        have hone : result = [aid] := by
          rw [hresult]
          dsimp only
          rw [hsingle]
          rfl
        rw [hone]
        refine ⟨Nat.le_succ_of_le (Nat.le_succ 1), List.nodup_singleton aid, ?_,
          fun h => absurd hholders h, fun _ h => absurd hshould h, ?_⟩
        · rintro b hb
          cases hb
          exact ⟨fun _ => rfl, fun _ => ⟨hholders, hshould⟩, fun _ => rfl⟩
        · intro hnone
          cases hnone
    · -- the second stage: agents that should hold the entry
      rw [if_neg (not_not.mpr hholders), if_pos hshould] at hresult
      obtain ⟨hlen, hnodup, hdrawn⟩ := take_three_of_perm (hshuffle shouldHold)
      rw [← hresult] at hlen hnodup hdrawn
      refine ⟨hlen, hnodup, ?_, fun h => absurd hholders h, fun _ _ => hdrawn,
        fun _ _ h => absurd h hshould⟩
      rintro aid rfl
      exact requester_not_drawn hdrawn (fun h => hshould h.2)
  · -- the first stage: holders of the entry
    rw [if_pos hholders] at hresult
    obtain ⟨hlen, hnodup, hdrawn⟩ := take_three_of_perm (hshuffle holders)
    rw [← hresult] at hlen hnodup hdrawn
    refine ⟨hlen, hnodup, ?_, fun _ => hdrawn, fun h => absurd h hholders,
      fun _ h => absurd h hholders⟩
    rintro aid rfl
    exact requester_not_drawn hdrawn (fun h => hholders h.1)

/-- A requester asking an empty store, with the agents drawn in increasing order, is sent
its own query alone. -/
theorem get_agents_for_query_requester_alone :
    (∀ t : Finset Nat, t.sort.Perm t.toList) ∧
      (Store.new 0 none : Store Nat Nat).getAgentsForQuery (fun _ => 0) (fun _ _ _ _ => true)
        (fun t => t.sort) 0 0 (some 1) = [1] :=
  ⟨fun t => Finset.sort_perm_toList t _,
    ((@get_agents_for_query_spec Nat Nat _ (Store.new 0 none) (fun _ => 0) (fun _ _ _ _ => true)
      (fun t => t.sort) (fun t => Finset.sort_perm_toList t _) 0 0 (some 1) _ rfl).2.2.1 1
        rfl).2.mpr
      ⟨by decide, by decide⟩⟩

/-! ### Entry records sit under their own hash -/

/-- Every entry record of the space sits under its own hash. -/
def Space.EntryKeys (s : Space A U) : Prop :=
  ∀ k info, s.entryToAllAspects.lookup k = some info → info.entryHash = k

namespace Space

variable {s s' : Space A U}

/-- Entry keys read only the hashes the records carry. -/
theorem EntryKeys.of_entryHash (h : s.EntryKeys)
    (hkeys : ∀ k, (s'.entryToAllAspects.lookup k).map (·.entryHash) =
      (s.entryToAllAspects.lookup k).map (·.entryHash)) : s'.EntryKeys := by
  intro k info hinfo
  have hk := hkeys k
  rw [hinfo, Option.map_some] at hk
  obtain ⟨old, hold, hhash⟩ := Option.map_eq_some_iff.mp hk.symm
  rw [← hhash]
  exact h k old hold

theorem EntryKeys.clearHolding (h : s.EntryKeys) (agentId : A) :
    (s.clearHolding agentId).EntryKeys :=
  h.of_entryHash fun k => by
    rw [lookup_entryToAllAspects_clearHolding, Option.map_map]
    rfl

theorem EntryKeys.agentHoldsAspects (h : s.EntryKeys) (entryLocation : A → Nat)
    (agentId entryHash : A) (aspects : List A) :
    (s.agentHoldsAspects entryLocation agentId entryHash aspects).EntryKeys := by
  intro k info hinfo
  rw [lookup_entryToAllAspects_agentHoldsAspects] at hinfo
  by_cases hk : k = entryHash
  · -- the record written is the recorded one or a new one, both under the entry's hash
    subst hk
    rw [if_pos rfl, Option.some.injEq] at hinfo
    rw [← hinfo]
    show ((s.entryToAllAspects.lookup k).getD _).entryHash = k
    cases hlook : s.entryToAllAspects.lookup k with
    | none => rfl
    | some old => exact h k old hlook
  · rw [if_neg hk] at hinfo
    exact h k info hinfo

end Space

/-! ### Who needs an aspect -/

namespace Space

variable (s : Space A U) (entryLocation : A → Nat)
  (naiveShardingShouldStore : Nat → Nat → Nat → Nat → Bool)

/-- A recorded entry is to be held by the connected agents that `should_store` picks for its
recorded location; with no redundancy that is every connected agent. -/
theorem mem_getAgentsThatShouldHoldEntry {entryHash : A} {info : EntryInfo A}
    (hentry : s.entryToAllAspects.lookup entryHash = some info) (a : A) :
    a ∈ s.getAgentsThatShouldHoldEntry entryLocation naiveShardingShouldStore entryHash ↔
      ∃ c, s.connections.lookup a = some c ∧
        shouldStore naiveShardingShouldStore c.agentLoc info.entryLoc s.connections.entries.length
          s.redundancy = true := by
  unfold getAgentsThatShouldHoldEntry
  by_cases hred : s.redundancy = 0
  · -- full sync: every connected agent, which `should_store` also picks
    rw [if_pos hred, ← AList.mem_keys, ← AList.lookup_isSome, Option.isSome_iff_exists]
    simp only [shouldStore, hred, if_true, and_true]
  · have hloc : s.getEntryLocation entryLocation entryHash = info.entryLoc := by
      rw [getEntryLocation, hentry]
    rw [if_neg hred, hloc]
    simp only [List.mem_map, List.mem_filter]
    constructor
    · rintro ⟨⟨a, c⟩, ⟨hmem, hstore⟩, rfl⟩
      exact ⟨c, AList.mem_lookup_iff.mpr hmem, hstore⟩
    · rintro ⟨c, hc, hstore⟩
      exact ⟨⟨a, c⟩, ⟨AList.mem_lookup_iff.mp hc, hstore⟩, rfl⟩

/-- `get_agents_that_need_aspect`: the agents that should hold a recorded entry and are not
in the holding of a recorded aspect of it. -/
theorem mem_getAgentsThatNeedAspect (entryHash aspectHash a : A) :
    a ∈ s.getAgentsThatNeedAspect entryLocation naiveShardingShouldStore entryHash aspectHash ↔
      ∃ info, s.entryToAllAspects.lookup entryHash = some info ∧
        ∃ holding, info.aspects.lookup aspectHash = some holding ∧ a ∉ holding ∧
          ∃ c, s.connections.lookup a = some c ∧
            shouldStore naiveShardingShouldStore c.agentLoc info.entryLoc
              s.connections.entries.length s.redundancy = true := by
  unfold getAgentsThatNeedAspect
  cases hentry : s.entryToAllAspects.lookup entryHash with
  | none => simp
  | some info =>
    cases hholding : info.aspects.lookup aspectHash with
    | none => simp [hholding]
    | some holding =>
      simp only [hholding, List.mem_filter, mem_getAgentsThatShouldHoldEntry s entryLocation
        naiveShardingShouldStore hentry, decide_eq_true_eq, Option.some.injEq, exists_eq_left']
      exact and_comm

/-- `get_gossip_aspects_needed_for_agent`, when every record sits under its own hash: the
aspects of recorded entries that the connected agent should hold and is not holding. -/
theorem holds_getGossipAspectsNeededForAgent (h : s.EntryKeys) (agentId entryHash aspectHash : A) :
    Multimap.Holds (s.getGossipAspectsNeededForAgent naiveShardingShouldStore agentId) entryHash
        aspectHash ↔
      ∃ info, s.entryToAllAspects.lookup entryHash = some info ∧
        ∃ holding, info.aspects.lookup aspectHash = some holding ∧ agentId ∉ holding ∧
          ∃ c, s.connections.lookup agentId = some c ∧
            shouldStore naiveShardingShouldStore c.agentLoc info.entryLoc
              s.connections.entries.length s.redundancy = true := by
  unfold getGossipAspectsNeededForAgent
  cases hc : s.connections.lookup agentId with
  | none => simp
  | some c =>
    dsimp only
    rw [Multimap.holds_foldl_orDefault_addTo
      (fun entry : (_ : A) × EntryInfo A => shouldStore naiveShardingShouldStore c.agentLoc
        entry.2.entryLoc s.connections.entries.length s.redundancy)
      (fun entry : (_ : A) × EntryInfo A => entry.2.entryHash)
      (fun entry : (_ : A) × EntryInfo A =>
        (entry.2.aspects.entries.filter fun h => agentId ∉ h.2).map (·.1))]
    simp only [Multimap.not_holds_empty, or_false, Option.some.injEq, exists_eq_left']
    constructor
    · rintro ⟨⟨k, info⟩, hmem, hstore, hkey, hx⟩
      -- the record found is the one under the entry's hash
      have hlook : s.entryToAllAspects.lookup k = some info := AList.mem_lookup_iff.mpr hmem
      have hk : k = entryHash := (h k info hlook).symm.trans hkey
      subst hk
      simp only [List.mem_map, List.mem_filter, decide_eq_true_eq] at hx
      obtain ⟨⟨x, holding⟩, ⟨hasp, hnot⟩, rfl⟩ := hx
      exact ⟨info, hlook, holding, AList.mem_lookup_iff.mpr hasp, hnot, hstore⟩
    · rintro ⟨info, hlook, holding, hasp, hnot, hstore⟩
      refine ⟨⟨entryHash, info⟩, AList.mem_lookup_iff.mp hlook, hstore, h _ _ hlook, ?_⟩
      simp only [List.mem_map, List.mem_filter, decide_eq_true_eq]
      exact ⟨⟨aspectHash, holding⟩, ⟨AList.mem_lookup_iff.mp hasp, hnot⟩, rfl⟩

end Space

variable [DecidableEq U]

/-- Every change a mutation makes to a space keeps its records under their own hashes. -/
theorem spaceInvariant_entryKeys (calcLocation : A → Option Nat) (entryLocation : A → Nat) :
    SpaceInvariant calcLocation entryLocation (Space.EntryKeys (U := U)) where
  new _ _ k info hinfo := by cases hinfo
  checkInsertConnection space agentId uri next h := by
    cases hloc : calcLocation agentId with
    | none =>
      rw [Space.checkInsertConnection_of_loc_eq_none hloc]
      exact h
    | some loc =>
      refine (h.clearHolding agentId).of_entryHash fun k => ?_
      rw [Space.entryToAllAspects_checkInsertConnection hloc]
  agentHoldsAspects space agentId entryHash aspects h :=
    h.agentHoldsAspects entryLocation agentId entryHash aspects
  dropConnectionInner space agentId h :=
    (h.clearHolding agentId).of_entryHash fun k => by
      rw [Store.entryToAllAspects_dropConnectionInner]
  checkGossip _ _ _ _ h := h
  clearDisconnectUri _ h := h

/-- Over every run, every entry record of every space sits under its own hash. -/
theorem reachable_entryKeys {calcLocation : A → Option Nat} {entryLocation : A → Nat}
    {redundancy : Nat} {gossipInterval : Option Nat} {s : Store A U}
    (hs : Run.Reachable (StoreStep calcLocation entryLocation)
      (Store.new redundancy gossipInterval) s) : s.AllSpaces Space.EntryKeys :=
  (spaceInvariant_entryKeys calcLocation entryLocation).reachable hs

/-- Over every run and for every redundancy, the publish path and the gossip path agree: an
agent needs an aspect of an entry exactly when the gossip of its space lists that aspect of
the entry for it. -/
theorem need_aspect_iff_gossip {calcLocation : A → Option Nat} {entryLocation : A → Nat}
    {redundancy : Nat} {gossipInterval : Option Nat} {s : Store A U}
    (hs : Run.Reachable (StoreStep calcLocation entryLocation)
      (Store.new redundancy gossipInterval) s)
    (naiveShardingShouldStore : Nat → Nat → Nat → Nat → Bool)
    (spaceHash agentId entryHash aspectHash : A) :
    agentId ∈ s.getAgentsThatNeedAspect entryLocation naiveShardingShouldStore spaceHash entryHash
        aspectHash ↔
      ∃ m, s.getGossipAspectsNeededForAgent naiveShardingShouldStore spaceHash agentId = some m ∧
        Multimap.Holds m entryHash aspectHash := by
  unfold Store.getAgentsThatNeedAspect Store.getGossipAspectsNeededForAgent
  cases hspace : s.spaces.lookup spaceHash with
  | none => simp
  | some space =>
    simp only [Option.map_some, Option.some.injEq, exists_eq_left']
    rw [Space.mem_getAgentsThatNeedAspect, Space.holds_getGossipAspectsNeededForAgent _ _
      (reachable_entryKeys hs spaceHash space hspace)]

/-- The store after agent 2 joins space 1 on uri 3 and agent 4 reports holding aspect 6 of
entry 5 there. -/
def gossipExampleStore : Store Nat Nat :=
  ((Store.new 0 none).mutate (fun _ => some 0) (fun _ => 0) (.newConnection 1 2 3 0)).mutate
    (fun _ => some 0) (fun _ => 0) (.agentHoldsAspects 1 4 5 [6])

/-- Agent 2 needs the aspect by the publish path, so the gossip path lists it for agent 2. -/
theorem need_aspect_iff_gossip_example :
    Run.Reachable (StoreStep (fun _ => some 0) (fun _ => 0)) (Store.new 0 none)
        gossipExampleStore ∧
      2 ∈ gossipExampleStore.getAgentsThatNeedAspect (fun _ => 0) (fun _ _ _ _ => true) 1 5 6 ∧
      ∃ m, gossipExampleStore.getGossipAspectsNeededForAgent (fun _ _ _ _ => true) 1 2 = some m ∧
        Multimap.Holds m 5 6 :=
  have hreach : Run.Reachable (StoreStep (fun _ => some 0) (fun _ => 0)) (Store.new 0 none)
      gossipExampleStore :=
    .step (.agentHoldsAspects 1 4 5 [6]) (.step (.newConnection 1 2 3 0) .init rfl) rfl
  have hneed : 2 ∈ gossipExampleStore.getAgentsThatNeedAspect (fun _ => 0)
      (fun _ _ _ _ => true) 1 5 6 := by decide
  ⟨hreach, hneed, (need_aspect_iff_gossip hreach (fun _ _ _ _ => true) 1 2 5 6).mp hneed⟩

end Holochain.Sim2h
