/-
The agent's state slice (`agent/state.rs`): the responses recorded for dispatched actions,
and the source chain, kept in a chain store whose top header the state holds.

A commit (`reduce_commit_entry`) stores the entry and a new header built by
`create_new_chain_header`: its `link` is the address of the old top header and its
`link_same_type` the address of the newest header of the entry's type, found by
`iter_type`. So the chain carries two pointer structures, and the fast path of `query`
(`iter_type`) is only right if the second one is always the first filtered by type.

* `reachable_chainInv` — every state reached by the agent's reducer keeps `ChainInv`: the
  top header starts a list of distinct stored headers, linked by `link` and by
  `link_same_type` as above;
* `iterType_of_chainInv`, `query_one_of_chainInv` — on such a state `iter_type(top, t)`
  yields exactly the headers of type `t` that `iter(top)` yields, in order, and so does a
  query for one non-empty name without glob syntax.
-/
import Holochain.Core.ChainStore
import Holochain.Lib.Run
import Mathlib.Data.List.Perm.Subperm

namespace Holochain

/-- `ActionWrapper`: an action and the unique id it is dispatched under. Maps keyed by an
`ActionWrapper` compare and hash only the id, so the model keys them by `id`. -/
structure ActionWrapper (α : Type) where
  action : α
  id : String

/-- `ActionResponse<T>`: a response and the system time it was recorded at. -/
structure ActionResponse (α : Type) where
  createdAt : Nat
  response : α

/-- `AgentActionResponse`. -/
inductive AgentActionResponse (A : Type)
  | commit (result : Except HolochainError A)
  | fetchEntry (entry : Option (Entry A))
  | getLinks (result : Except HolochainError (List A))
  | linkEntries (result : Except HolochainError (Entry A))

/-- The actions the agent's reducer handles (`resolve_reducer`); every other action leaves
the agent state as it is. -/
inductive AgentAction (A : Type)
  | commit (entry : Entry A) (crudLink : Option A) (provenances : List (Provenance A))
  | clearActionResponse (id : String)
  | prune

/-- `AgentState`. -/
structure AgentState (A : Type) where
  actions : AList (fun _ : String => AgentAction A × ActionResponse (AgentActionResponse A))
  chainStore : Cas A
  topChainHeader : Option (ChainHeader A)
  initialAgentAddress : A

variable {A : Type} [DecidableEq A]

/-- `AgentState::new`: no responses and an empty chain over a given store. -/
def AgentState.new (chainStore : Cas A) (initialAgentAddress : A) : AgentState A :=
  ⟨∅, chainStore, none, initialAgentAddress⟩

/-- `ACTION_PRUNE_MS`. -/
def actionPruneMs : Nat := 60000

/-- `AgentState::get_agent_address`: the entry address of the newest agent entry on the
chain (`iter_type(top, AgentId).nth(0)`), else the initial agent address. -/
def AgentState.getAgentAddress (s : AgentState A) : Except String A := do
  let newest ← iterType s.chainStore s.topChainHeader .agentId 1
  return (newest.head?.map (·.entryAddress)).getD s.initialAgentAddress

section Reduce

variable (hash : CasContent A → A) (sign : A → Except HolochainError String)

/-- `create_new_chain_header`. `sign` is the conductor API's signature of the entry
address (`CryptoMethod::Sign`), `now` the system time. The outer `Except` is a panic of the
chain iterators, the inner one the source's `Result`. -/
def createNewChainHeader (entry : Entry A) (s : AgentState A) (crudLink : Option A)
    (provenances : List (Provenance A)) (now : Nat) :
    Except String (Except HolochainError (ChainHeader A)) := do
  let agentAddress ← s.getAgentAddress
  match sign (entry.address hash) with
  | .error e => return .error e
  | .ok signature =>
    let sameType ← iterType s.chainStore s.topChainHeader entry.entryType 1
    return .ok
      { entryType := entry.entryType
        entryAddress := entry.address hash
        provenances := provenances ++ [⟨agentAddress, signature⟩]
        link := s.topChainHeader.map (·.address hash)
        linkSameType := sameType.head?.map (·.address hash)
        linkUpdateDelete := crudLink
        timestamp := now }

/-- `reduce_commit_entry`: on a header, store entry and header and make the header the
top; record the result under the action either way. -/
def reduceCommitEntry (s : AgentState A) (aw : ActionWrapper (AgentAction A))
    (entry : Entry A) (crudLink : Option A) (provenances : List (Provenance A)) (now : Nat) :
    Except String (AgentState A) := do
  let header ← createNewChainHeader hash sign entry s crudLink provenances now
  let (s', result) : AgentState A × Except HolochainError A :=
    match header with
    | .error e => (s, .error e)
    | .ok h =>
      ({ s with
          chainStore := (s.chainStore.add hash (.entry entry)).add hash (.header h)
          topChainHeader := some h }, .ok (entry.address hash))
  return { s' with actions := s'.actions.insert aw.id (aw.action, ⟨now, .commit result⟩) }

end Reduce

/-- `reduce_prune`: drop the responses recorded more than `ACTION_PRUNE_MS` ago. A
response stamped later than `now` has no elapsed time (`elapsed()` fails) and stays. -/
def reducePrune (s : AgentState A) (now : Nat) : AgentState A :=
  { s with actions := s.actions.filter fun _ v =>
      !(decide (v.2.createdAt ≤ now) && decide (actionPruneMs < now - v.2.createdAt)) }

/-- `agent::state::reduce_clear_action_response`, as written: the filter keeps the
responses whose action id *is* `id`. -/
def reduceClearActionResponse (s : AgentState A) (id : String) : AgentState A :=
  { s with actions := s.actions.filter fun k _ => k == id }

/-- `agent::state::reduce`, for the actions the agent handles; `now` is the system time. -/
def AgentState.reduce (hash : CasContent A → A) (sign : A → Except HolochainError String)
    (s : AgentState A) (aw : ActionWrapper (AgentAction A)) (now : Nat) :
    Except String (AgentState A) :=
  match aw.action with
  | .clearActionResponse id => .ok (reduceClearActionResponse s id)
  | .commit entry crudLink provenances =>
    reduceCommitEntry hash sign s aw entry crudLink provenances now
  | .prune => .ok (reducePrune s now)

/-- One step of the agent's reducer: an action dispatched at system time `now`. A panic is
no step. -/
def AgentStep (hash : CasContent A → A) (sign : A → Except HolochainError String)
    (s : AgentState A) (l : ActionWrapper (AgentAction A) × Nat) (s' : AgentState A) : Prop :=
  s.reduce hash sign l.1 l.2 = .ok s'

/-! ### Clearing a response -/

omit [DecidableEq A] in
/-- The agent's clear keeps exactly the response recorded under `id`. -/
theorem lookup_reduceClearActionResponse (s : AgentState A) (id k : String) :
    (reduceClearActionResponse s id).actions.lookup k =
      if k = id then s.actions.lookup k else none := by
  unfold reduceClearActionResponse
  rw [AList.lookup_filter]
  by_cases hk : k = id
  · subst hk
    cases s.actions.lookup k <;> simp [Option.filter]
  · cases s.actions.lookup k <;> simp [Option.filter, hk]

/-! ### The two pointer structures of a committed chain -/

section Chain

variable (hash : CasContent A → A)

/-- Each header's `link` names the next header of the list; the last one's names nothing. -/
def Linked : List (ChainHeader A) → Prop
  | [] => True
  | h :: rest => h.link = rest.head?.map (·.address hash) ∧ Linked rest

/-- Each header's `link_same_type` names the next header of its own type in the list. -/
def SameTypeLinked : List (ChainHeader A) → Prop
  | [] => True
  | h :: rest =>
    h.linkSameType = (rest.find? (·.entryType = h.entryType)).map (·.address hash) ∧
      SameTypeLinked rest

/-- The chain invariant: the top header starts `chain`, a list of distinct headers kept in
the store under their addresses and linked both ways. -/
structure ChainInv (s : AgentState A) (chain : List (ChainHeader A)) : Prop where
  top : s.topChainHeader = chain.head?
  linked : Linked hash chain
  sameTypeLinked : SameTypeLinked hash chain
  stored : ∀ h ∈ chain, s.chainStore.lookup (h.address hash) = some (.header h)
  nodup : chain.Nodup

variable {hash}

omit [DecidableEq A] in
theorem Linked.of_suffix : ∀ {l l' : List (ChainHeader A)}, Linked hash l → l' <:+ l →
    Linked hash l'
  | [], _, _, hs => by rw [List.suffix_nil.mp hs]; trivial
  | _ :: rest, _, hl, hs => by
    rcases List.suffix_cons_iff.mp hs with rfl | hs
    · exact hl
    · exact Linked.of_suffix hl.2 hs

/-- Following `link` from the head walks the whole list. -/
theorem yields_of_linked {cas : Cas A} :
    ∀ {chain : List (ChainHeader A)}, Linked hash chain →
      (∀ h ∈ chain, cas.lookup (h.address hash) = some (.header h)) →
      ChainYields ChainStoreIterator.ptr cas chain.head? chain
  | [], _, _ => .nil
  | h :: rest, hl, hst => by
    have hload : loadHeader cas h.link = .ok rest.head? := by
      rw [hl.1]
      cases rest with
      | nil => rfl
      | cons h' _ => simp [loadHeader, hst h' (by simp)]
    exact .cons hload (yields_of_linked hl.2 fun h' hm => hst h' (List.mem_cons_of_mem _ hm))

/-- Following `link_same_type` from the first header of type `t` walks exactly the
headers of type `t`. -/
theorem yields_of_sameTypeLinked {cas : Cas A} (t : EntryType) :
    ∀ {chain : List (ChainHeader A)}, SameTypeLinked hash chain →
      (∀ h ∈ chain, cas.lookup (h.address hash) = some (.header h)) →
      ChainYields ChainStoreTypeIterator.ptr cas (chain.find? (·.entryType = t))
        (chain.filter (·.entryType = t))
  | [], _, _ => .nil
  | h :: rest, hl, hst => by
    have ih := yields_of_sameTypeLinked t hl.2 fun h' hm => hst h' (List.mem_cons_of_mem _ hm)
    by_cases ht : h.entryType = t
    · -- `h` is the first header of type `t`; its `link_same_type` names the next one
      have hload : loadHeader cas (ChainStoreTypeIterator.ptr h) =
          .ok (rest.find? (·.entryType = t)) := by
        rw [ChainStoreTypeIterator.ptr, hl.1, ht]
        cases hf : rest.find? (·.entryType = t) with
        | none => rfl
        | some h' =>
          have hm : h' ∈ rest := List.mem_of_find?_eq_some hf
          simp [loadHeader, hst h' (List.mem_cons_of_mem _ hm)]
      have hfind : (h :: rest).find? (·.entryType = t) = some h := by simp [ht]
      have hfilter : (h :: rest).filter (·.entryType = t) =
          h :: rest.filter (·.entryType = t) := by simp [ht]
      rw [hfind, hfilter]
      exact .cons hload ih
    · simpa [List.find?_cons, List.filter_cons, ht] using ih

/-- Distinct stored headers are at most as many as the store's keys. -/
theorem length_le_keys (hinj : Function.Injective hash) {cas : Cas A}
    {chain : List (ChainHeader A)}
    (hst : ∀ h ∈ chain, cas.lookup (h.address hash) = some (.header h)) (hnd : chain.Nodup) :
    chain.length ≤ cas.keys.length := by
  have haddr : Function.Injective (ChainHeader.address hash) :=
    fun _ _ he => CasContent.header.inj (hinj he)
  have hsub : chain.map (ChainHeader.address hash) ⊆ cas.keys := by
    intro a ha
    obtain ⟨h, hm, rfl⟩ := List.mem_map.mp ha
    exact AList.mem_keys.mp (AList.lookup_isSome.mp (by simp [hst h hm]))
  have hperm := List.Nodup.subperm (hnd.map haddr) hsub
  simpa using hperm.length_le

/-- On a state with the chain invariant, `find` on the chain store's iterator, within the
bound the model gives it, is `find?` on the chain. -/
theorem ChainInv.findChain_eq (hinj : Function.Injective hash) {s : AgentState A}
    {chain : List (ChainHeader A)} (hi : ChainInv hash s chain) (p : ChainHeader A → Bool) :
    findChain ChainStoreIterator.ptr s.chainStore p (chainBound s.chainStore) s.topChainHeader =
      .ok (chain.find? p) := by
  have hlen : chain.length ≤ chainBound s.chainStore := by
    have := length_le_keys hinj hi.stored hi.nodup
    unfold chainBound
    omega
  rw [hi.top]
  exact findChain_of_yields p (yields_of_linked hi.linked hi.stored) _ hlen

/-- On a state with the chain invariant, `iter_type` yields the headers of one type in
chain order. -/
theorem iterType_of_chainInv (hinj : Function.Injective hash) {s : AgentState A}
    {chain : List (ChainHeader A)} (hi : ChainInv hash s chain) (t : EntryType) (n : Nat) :
    iterType s.chainStore s.topChainHeader t n = .ok ((chain.filter (·.entryType = t)).take n) := by
  simp only [iterType, hi.findChain_eq hinj, Except.ok_bind]
  exact takeChain_of_yields (yields_of_sameTypeLinked t hi.sameTypeLinked hi.stored) n

omit [DecidableEq A] in
/-- A header whose `link` names the old top is not on the old chain: on it, that pointer
would name the header's successor, which the old top is not. -/
theorem not_mem_of_link (hinj : Function.Injective hash) {chain : List (ChainHeader A)}
    (hl : Linked hash chain) (hnd : chain.Nodup) {h : ChainHeader A}
    (hlink : h.link = chain.head?.map (·.address hash)) : h ∉ chain := by
  intro hm
  obtain ⟨pre, rest, hsplit⟩ := List.mem_iff_append.mp hm
  have hsuf : h :: rest <:+ chain := hsplit ▸ List.suffix_append pre (h :: rest)
  have hl' : Linked hash (h :: rest) := hl.of_suffix hsuf
  have haddr : Function.Injective (ChainHeader.address hash) :=
    fun _ _ he => CasContent.header.inj (hinj he)
  have hhead : rest.head? = chain.head? :=
    Option.map_injective haddr (hl'.1.symm.trans hlink)
  cases chain with
  | nil => simp at hm
  | cons c cs =>
    obtain ⟨r, rfl⟩ : ∃ r, rest = c :: r := by
      cases rest with
      | nil => simp at hhead
      | cons c' r => simp at hhead; exact ⟨r, by rw [hhead]⟩
    -- `c` would occur twice on the old chain
    have hc : c ∉ cs := (List.nodup_cons.mp hnd).1
    rcases List.suffix_cons_iff.mp hsuf with he | hsuf'
    · simp only [List.cons.injEq] at he
      exact hc (he.2 ▸ List.mem_cons_self)
    · exact hc ((List.suffix_cons _ _).trans hsuf' |>.subset List.mem_cons_self)

/-- A commit of header `h` on top of a chain with the invariant extends it by `h`. -/
theorem ChainInv.push (hinj : Function.Injective hash) {s s' : AgentState A}
    {chain : List (ChainHeader A)} (hi : ChainInv hash s chain) {entry : Entry A}
    {h : ChainHeader A} (hlink : h.link = s.topChainHeader.map (·.address hash))
    (hsame : h.linkSameType = (chain.find? (·.entryType = h.entryType)).map (·.address hash))
    (hcas : s'.chainStore = (s.chainStore.add hash (.entry entry)).add hash (.header h))
    (htop : s'.topChainHeader = some h) : ChainInv hash s' (h :: chain) := by
  rw [hi.top] at hlink
  have hnew : h ∉ chain := not_mem_of_link hinj hi.linked hi.nodup hlink
  refine ⟨htop, ⟨hlink, hi.linked⟩, ⟨hsame, hi.sameTypeLinked⟩, ?_,
    List.nodup_cons.mpr ⟨hnew, hi.nodup⟩⟩
  intro h' hm
  rw [hcas]
  by_cases he : h'.address hash = h.address hash
  · -- the same address holds the same header
    have : h' = h := CasContent.header.inj (hinj he)
    subst this
    simp [Cas.add, ChainHeader.address]
  · have hentry : h'.address hash ≠ hash (.entry entry) := fun he' => by
      cases hinj he'
    rcases List.mem_cons.mp hm with rfl | hm
    · exact absurd rfl he
    · simp only [Cas.add]
      have hheader : h'.address hash ≠ hash (.header h) := he
      rw [AList.lookup_insert_ne hheader, AList.lookup_insert_ne hentry]
      exact hi.stored h' hm

theorem ChainInv.frame {s s' : AgentState A} {chain : List (ChainHeader A)}
    (hi : ChainInv hash s chain) (hcas : s'.chainStore = s.chainStore)
    (htop : s'.topChainHeader = s.topChainHeader) : ChainInv hash s' chain :=
  ⟨htop.trans hi.top, hi.linked, hi.sameTypeLinked, hcas ▸ hi.stored, hi.nodup⟩

end Chain

/-! ### Every reachable state keeps the chain invariant -/

section Step

variable {hash : CasContent A → A} {sign : A → Except HolochainError String}

/-- What a successful `create_new_chain_header` builds. -/
theorem createNewChainHeader_ok {entry : Entry A} {s : AgentState A} {crudLink : Option A}
    {provenances : List (Provenance A)} {now : Nat} {h : ChainHeader A}
    (hc : createNewChainHeader hash sign entry s crudLink provenances now = .ok (.ok h)) :
    h.entryType = entry.entryType ∧ h.link = s.topChainHeader.map (·.address hash) ∧
      ∃ sameType, iterType s.chainStore s.topChainHeader entry.entryType 1 = .ok sameType ∧
        h.linkSameType = sameType.head?.map (·.address hash) := by
  unfold createNewChainHeader at hc
  cases hg : s.getAgentAddress with
  | error e => simp [hg] at hc
  | ok agent =>
    cases hs : sign (entry.address hash) with
    | error e => simp [hg, hs] at hc
    | ok signature =>
      cases ht : iterType s.chainStore s.topChainHeader entry.entryType 1 with
      | error e => simp [hg, hs, ht] at hc
      | ok sameType =>
        simp only [hg, hs, ht, Except.ok_bind, Except.pure_eq_ok, Except.ok.injEq] at hc
        subst hc
        exact ⟨rfl, rfl, sameType, rfl, rfl⟩

/-- What a successful `reduce_commit_entry` does to the chain: nothing, when no header
was made, or it puts a new header on top. -/
theorem reduceCommitEntry_ok {s s' : AgentState A} {aw : ActionWrapper (AgentAction A)}
    {entry : Entry A} {crudLink : Option A} {provenances : List (Provenance A)} {now : Nat}
    (hr : reduceCommitEntry hash sign s aw entry crudLink provenances now = .ok s') :
    (s'.chainStore = s.chainStore ∧ s'.topChainHeader = s.topChainHeader) ∨
      ∃ h, createNewChainHeader hash sign entry s crudLink provenances now = .ok (.ok h) ∧
        s'.chainStore = (s.chainStore.add hash (.entry entry)).add hash (.header h) ∧
        s'.topChainHeader = some h := by
  unfold reduceCommitEntry at hr
  cases hc : createNewChainHeader hash sign entry s crudLink provenances now with
  | error e => simp [hc] at hr
  | ok header =>
    cases header with
    | error e =>
      simp only [hc, Except.ok_bind, Except.pure_eq_ok, Except.ok.injEq] at hr
      subst hr
      exact .inl ⟨rfl, rfl⟩
    | ok h =>
      simp only [hc, Except.ok_bind, Except.pure_eq_ok, Except.ok.injEq] at hr
      subst hr
      exact .inr ⟨h, rfl, rfl, rfl⟩

/-- One step of the agent's reducer keeps the chain invariant. -/
theorem chainInv_step (hinj : Function.Injective hash) {s s' : AgentState A}
    {l : ActionWrapper (AgentAction A) × Nat} (hstep : AgentStep hash sign s l s')
    {chain : List (ChainHeader A)} (hi : ChainInv hash s chain) :
    ∃ chain', ChainInv hash s' chain' := by
  obtain ⟨⟨action, id⟩, now⟩ := l
  unfold AgentStep AgentState.reduce at hstep
  cases action with
  | clearActionResponse x =>
    cases hstep
    exact ⟨chain, hi.frame rfl rfl⟩
  | prune =>
    cases hstep
    exact ⟨chain, hi.frame rfl rfl⟩
  | commit entry crudLink provenances =>
    rcases reduceCommitEntry_ok hstep with ⟨hcas, htop⟩ | ⟨h, hc, hcas, htop⟩
    · exact ⟨chain, hi.frame hcas htop⟩
    · obtain ⟨htype, hlink, sameType, hiter, hsame⟩ := createNewChainHeader_ok hc
      -- the header's `link_same_type` is the newest header of its type on the old chain
      rw [iterType_of_chainInv hinj hi, Except.ok.injEq] at hiter
      have hsame' : h.linkSameType =
          (chain.find? (·.entryType = h.entryType)).map (·.address hash) := by
        rw [hsame, ← hiter, htype, List.head?_take, if_neg (by omega),
          List.head?_filter]
      exact ⟨h :: chain, hi.push hinj hlink hsame' hcas htop⟩

/-- On a state with the chain invariant, a commit whose entry address the conductor signs is a
step of the reducer, and its new header, of the entry's type, goes on top: none of the
iterators the commit runs panics. -/
theorem exists_commit_step (hinj : Function.Injective hash) {s : AgentState A}
    {chain : List (ChainHeader A)} (hi : ChainInv hash s chain) {entry : Entry A}
    {crudLink : Option A} {provenances : List (Provenance A)} {id : String} {now : Nat}
    {signature : String} (hsign : sign (entry.address hash) = .ok signature) :
    ∃ h s', AgentStep hash sign s (⟨.commit entry crudLink provenances, id⟩, now) s' ∧
      s'.topChainHeader = some h ∧ h.entryType = entry.entryType := by
  unfold AgentStep AgentState.reduce reduceCommitEntry createNewChainHeader
    AgentState.getAgentAddress
  dsimp only
  rw [iterType_of_chainInv hinj hi, hsign, iterType_of_chainInv hinj hi]
  exact ⟨_, _, rfl, rfl, rfl⟩

/-- The chain invariant holds on every state the agent's reducer reaches from an empty
chain, whatever the store held before. -/
theorem reachable_chainInv (hinj : Function.Injective hash) {cas : Cas A} {a : A}
    {s : AgentState A} (hs : Run.Reachable (AgentStep hash sign) (AgentState.new cas a) s) :
    ∃ chain, ChainInv hash s chain := by
  refine Run.Reachable.invariant (P := fun s => ∃ chain, ChainInv hash s chain) ?_ ?_ hs
  · exact ⟨[], rfl, trivial, trivial, by simp, List.nodup_nil⟩
  · rintro s l s' ⟨chain, hi⟩ hstep
    exact chainInv_step hinj hstep hi

end Step

/-! ### The fast path of `query` -/

section Query

variable {hash : CasContent A → A} {sign : A → Except HolochainError String}

theorem iterType_eq_filter_iter (hinj : Function.Injective hash) {cas : Cas A} {a : A}
    {s : AgentState A} (hs : Run.Reachable (AgentStep hash sign) (AgentState.new cas a) s)
    (t : EntryType) :
    ∃ chain : List (ChainHeader A),
      (∀ n, takeChain ChainStoreIterator.ptr s.chainStore n s.topChainHeader =
        .ok (chain.take n)) ∧
      (∀ n, iterType s.chainStore s.topChainHeader t n =
        .ok ((chain.filter (·.entryType = t)).take n)) ∧
      ∀ (globSet : List String → Option (String → Bool)) (name : String)
        (options : ChainStoreQueryOptions), name ≠ "" → isGlobStr name = false →
        EntryType.fromStr name = t →
        query globSet s.chainStore s.topChainHeader [name] options =
          .ok (.ok (ChainStoreQueryResult.ofHeaders options.headers
            (((chain.filter (·.entryType = t)).drop options.start).take
              (if options.limit = 0 then usizeMax else options.limit)))) := by
  obtain ⟨chain, hi⟩ := reachable_chainInv hinj hs
  have hiter := iterType_of_chainInv hinj hi t
  refine ⟨chain, ?_, hiter, ?_⟩
  · rw [hi.top]
    exact takeChain_of_yields (yields_of_linked hi.linked hi.stored)
  · intro globSet name options hne hglob hname
    rw [query_one globSet _ _ name options hne hglob, hname, hiter]
    simp [List.drop_take]

end Query

/-- Addresses that are the content they address: a content hash without collisions. -/
inductive ContentAddress
  | ofContent (c : CasContent ContentAddress)

noncomputable instance : DecidableEq ContentAddress := Classical.decEq _

/-- After a `dna` commit and then a `post` commit, under a content hash without collisions:
the top header is the `post` header, and iterators and queries read the chain as the theorem
says. -/
theorem iterType_eq_filter_iter_twoCommits :
    ∃ s : AgentState ContentAddress,
      Run.Reachable (AgentStep ContentAddress.ofContent fun _ => .ok "")
        (AgentState.new ∅ (.ofContent (.entry (.dna "")))) s ∧
      s.topChainHeader.map (·.entryType) = some (.app "post") ∧
      ∃ chain : List (ChainHeader ContentAddress),
        (∀ n, takeChain ChainStoreIterator.ptr s.chainStore n s.topChainHeader =
          .ok (chain.take n)) ∧
        (∀ n, iterType s.chainStore s.topChainHeader (.app "post") n =
          .ok ((chain.filter (·.entryType = .app "post")).take n)) ∧
        ∀ (globSet : List String → Option (String → Bool)) (name : String)
          (options : ChainStoreQueryOptions), name ≠ "" → isGlobStr name = false →
          EntryType.fromStr name = .app "post" →
          query globSet s.chainStore s.topChainHeader [name] options =
            .ok (.ok (ChainStoreQueryResult.ofHeaders options.headers
              (((chain.filter (·.entryType = .app "post")).drop options.start).take
                (if options.limit = 0 then usizeMax else options.limit)))) := by
  have hinj : Function.Injective ContentAddress.ofContent := fun _ _ h =>
    ContentAddress.ofContent.inj h
  -- the two commits, each a step from a state with the chain invariant
  obtain ⟨chain₀, hi₀⟩ := reachable_chainInv hinj
    (.init : Run.Reachable (AgentStep ContentAddress.ofContent fun _ => .ok "")
      (AgentState.new ∅ (.ofContent (.entry (.dna "")))) _)
  obtain ⟨h₁, s₁, hstep₁, -⟩ : ∃ h s', AgentStep ContentAddress.ofContent (fun _ => .ok "")
      (AgentState.new ∅ (.ofContent (.entry (.dna ""))))
      (⟨.commit (.dna "") none [], "c1"⟩, 1) s' ∧
      s'.topChainHeader = some h ∧ h.entryType = (Entry.dna "").entryType :=
    exists_commit_step hinj hi₀ rfl
  have hs₁ : Run.Reachable (AgentStep ContentAddress.ofContent fun _ => .ok "")
      (AgentState.new ∅ (.ofContent (.entry (.dna "")))) s₁ := .step _ .init hstep₁
  obtain ⟨chain₁, hi₁⟩ := reachable_chainInv hinj hs₁
  obtain ⟨h₂, s₂, hstep₂, htop₂, htype₂⟩ : ∃ h s', AgentStep ContentAddress.ofContent
      (fun _ => .ok "") s₁ (⟨.commit (.app "post" "hi") none [], "c2"⟩, 2) s' ∧
      s'.topChainHeader = some h ∧ h.entryType = (Entry.app "post" "hi").entryType :=
    exists_commit_step hinj hi₁ rfl
  have hs₂ : Run.Reachable (AgentStep ContentAddress.ofContent fun _ => .ok "")
      (AgentState.new ∅ (.ofContent (.entry (.dna "")))) s₂ := .step _ hs₁ hstep₂
  refine ⟨s₂, hs₂, by rw [htop₂, Option.map_some, htype₂]; rfl, ?_⟩
  exact iterType_eq_filter_iter hinj hs₂ (.app "post")

/-- The empty name is the unfiltered query (`[] | [""] | ["**"]`): after one commit of a
`post` entry, `[""]` answers with that entry though `""` names the type `App("")`. -/
theorem query_empty_name_unfiltered :
    ∃ s : AgentState Nat,
      Run.Reachable (AgentStep (fun c => match c with | .entry _ => 0 | .header _ => 1)
        (fun _ => .ok "sig")) (AgentState.new ∅ 7) s ∧
      ∃ chain : List (ChainHeader Nat),
        (∀ n, takeChain ChainStoreIterator.ptr s.chainStore n s.topChainHeader =
          .ok (chain.take n)) ∧
        isGlobStr "" = false ∧
        query (fun _ => none) s.chainStore s.topChainHeader [""] ⟨0, 0, false⟩ ≠
          .ok (.ok (ChainStoreQueryResult.ofHeaders false
            (((chain.filter (·.entryType = EntryType.fromStr "")).drop 0).take usizeMax))) := by
  refine ⟨_, .step (⟨.commit (.app "post" "hi") none [], "c1"⟩, 5) .init rfl,
    [⟨.app "post", 0, [⟨7, "sig"⟩], none, none, none, 5⟩], ?_, by decide, by decide⟩
  exact takeChain_of_yields (.cons rfl .nil)

/-- Two commits are pending; the future of the first dispatches `ClearActionResponse` for
its id, and the reducer drops the second commit's response, which its future still polls
for. -/
theorem clear_drops_pending_commit :
    ∃ s : AgentState Nat,
      Run.Reachable (AgentStep (fun c => match c with | .entry _ => 0 | .header _ => 1)
        (fun _ => .ok "sig")) (AgentState.new ∅ 7) s ∧
      (s.actions.lookup "c2").isSome ∧
      AgentStep (fun c => match c with | .entry _ => 0 | .header _ => 1) (fun _ => .ok "sig") s
        (⟨.clearActionResponse "c1", "x1"⟩, 7) (reduceClearActionResponse s "c1") ∧
      (reduceClearActionResponse s "c1").actions.lookup "c2" = none := by
  refine ⟨_, .step (⟨.commit (.app "post" "b") none [], "c2"⟩, 6)
    (.step (⟨.commit (.app "post" "a") none [], "c1"⟩, 5) .init rfl) rfl, by decide, rfl, ?_⟩
  rw [lookup_reduceClearActionResponse, if_neg (by decide)]

end Holochain
