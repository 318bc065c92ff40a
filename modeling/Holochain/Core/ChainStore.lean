/-
The chain store: a source chain kept as headers in a content-addressable store, linked
backwards from the top header (`agent/chain_store.rs`).

`ChainStoreIterator` follows each header's `link`, `ChainStoreTypeIterator` its
`link_same_type`; both are one definition here, parameterised by the pointer they follow.
The source's iterators are lazy: each `next()` yields the current header and loads the one
its pointer names, so a loop stops exactly where the source's would, and a content that is
not a header (the source `expect`s the decoding) is a panic, `Except.error`.

Loops the source leaves unbounded (`find`, `filter`) are bounded by `chainBound`, one more
than the number of stored contents: a chain that never revisits a header is no longer.

The semantics of an iterator is the list it yields (`ChainYields`):

* `takeChain_of_yields`, `findChain_of_yields`, `filterTakeChain_of_yields` — on a chain
  that yields `l`, the bounded loops compute `l.take`, `l.find?` and the matching prefix.
-/
import Mathlib.Algebra.Group.Nat.Defs
import Holochain.CoreTypes.Entry
import Holochain.CoreTypes.Error
import Holochain.Lib.AListMap
import Holochain.Lib.Except

namespace Holochain

variable {A : Type} [DecidableEq A]

/-- The content-addressable store under a chain store: contents by address. -/
abbrev Cas (A : Type) := AList (fun _ : A => CasContent A)

section Hash

variable (hash : CasContent A → A)

/-- `AddressableContent::address` of an entry. -/
def Entry.address (e : Entry A) : A := hash (.entry e)

/-- `AddressableContent::address` of a header. -/
def ChainHeader.address (h : ChainHeader A) : A := hash (.header h)

/-- `AddContent::add`: store a content under its address. -/
def Cas.add (cas : Cas A) (c : CasContent A) : Cas A := cas.insert (hash c) c

end Hash

/-- The bound on the source's unbounded loops over a chain. -/
def chainBound (cas : Cas A) : Nat := cas.keys.length + 1

/-- The header a pointer names: `storage.fetch(address)` decoded by
`ChainHeader::try_from_content`. Nothing stored there ends the iteration; a stored entry
does not decode, and the source panics. -/
def loadHeader (cas : Cas A) : Option A → Except String (Option (ChainHeader A))
  | none => .ok none
  | some a =>
    match cas.lookup a with
    | none => .ok none
    | some (.header h) => .ok (some h)
    | some (.entry _) => .error "failed to load ChainHeader from Content"

section Iter

variable (ptr : ChainHeader A → Option A) (cas : Cas A)

/-- `n` calls of `next()` (`.take(n).collect()`) on an iterator that follows `ptr` from
`current`. -/
def takeChain : Nat → Option (ChainHeader A) → Except String (List (ChainHeader A))
  | 0, _ => .ok []
  | _ + 1, none => .ok []
  | n + 1, some h => do
    let next ← loadHeader cas (ptr h)
    let rest ← takeChain n next
    return h :: rest

/-- `.find(p)`, calling `next()` at most `n` times. -/
def findChain (p : ChainHeader A → Bool) :
    Nat → Option (ChainHeader A) → Except String (Option (ChainHeader A))
  | 0, _ => .ok none
  | _ + 1, none => .ok none
  | n + 1, some h => do
    let next ← loadHeader cas (ptr h)
    if p h then return some h else findChain p n next

/-- `.filter(p).take(k).collect()`, calling the underlying `next()` at most `n` times. -/
def filterTakeChain (p : ChainHeader A → Bool) :
    Nat → Nat → Option (ChainHeader A) → Except String (List (ChainHeader A))
  | 0, _, _ => .ok []
  | _ + 1, 0, _ => .ok []
  | _ + 1, _ + 1, none => .ok []
  | k + 1, n + 1, some h => do
    let next ← loadHeader cas (ptr h)
    if p h then
      let rest ← filterTakeChain p k n next
      return h :: rest
    else filterTakeChain p (k + 1) n next

end Iter

/-- `ChainStoreIterator::next` follows `link`. -/
def ChainStoreIterator.ptr (h : ChainHeader A) : Option A := h.link

/-- `ChainStoreTypeIterator::next` follows `link_same_type`. -/
def ChainStoreTypeIterator.ptr (h : ChainHeader A) : Option A := h.linkSameType

/-- `ChainStore::iter_type(start, t)`: the type iterator starts at the first header of type
`t` that `iter(start).find(..)` meets; `n` calls of its `next()`. -/
def iterType (cas : Cas A) (start : Option (ChainHeader A)) (t : EntryType) (n : Nat) :
    Except String (List (ChainHeader A)) := do
  let first ← findChain ChainStoreIterator.ptr cas (fun h => h.entryType = t)
    (chainBound cas) start
  takeChain ChainStoreTypeIterator.ptr cas n first

/-- `ChainStoreQueryOptions`. -/
structure ChainStoreQueryOptions where
  start : Nat
  limit : Nat
  headers : Bool

/-- `ChainStoreQueryResult`. -/
inductive ChainStoreQueryResult (A : Type)
  | addresses (l : List A)
  | headers (l : List (ChainHeader A))
  deriving DecidableEq

/-- `usize::max_value()` on the 64-bit targets the conductor runs on. -/
def usizeMax : Nat := 2 ^ 64 - 1

/-- The characters `query` treats as glob syntax (`is_glob`). -/
def isGlob (c : Char) : Bool := "./*[]{}".toList.contains c

/-- `is_glob_str`. -/
def isGlobStr (s : String) : Bool := s.toList.any isGlob

/-- The result of a query in the requested form: the headers, or their entry addresses. -/
def ChainStoreQueryResult.ofHeaders (headers : Bool) (l : List (ChainHeader A)) :
    ChainStoreQueryResult A :=
  if headers then .headers l else .addresses (l.map (·.entryAddress))

/-- `ChainStore::query`. The outer `Except` is a panic of the iterators, the inner one the
source's `Result`. The glob branch builds a `GlobSet` (crate `globset`): `globSet names` is
its matcher, `none` when a pattern does not parse. -/
def query (globSet : List String → Option (String → Bool)) (cas : Cas A)
    (startChainHeader : Option (ChainHeader A)) (entryTypeNames : List String)
    (options : ChainStoreQueryOptions) :
    Except String (Except RibosomeErrorCode (ChainStoreQueryResult A)) :=
  -- start == 0 --> start at beginning, limit == 0 --> take all remaining
  let start := options.start
  let limit := if options.limit = 0 then usizeMax else options.limit
  let finish (l : List (ChainHeader A)) :=
    Except.ok (ChainStoreQueryResult.ofHeaders options.headers (l.drop start))
  match entryTypeNames with
  | [] | [""] | ["**"] =>
    -- no filtering: bare `.iter()`
    finish <$> takeChain ChainStoreIterator.ptr cas (start + limit) startChainHeader
  | [one] =>
    if !isGlobStr one then
      -- one entry type without glob syntax: `.iter_type()`
      finish <$> iterType cas startChainHeader (EntryType.fromStr one) (start + limit)
    else
      match globSet [one] with
      | none => .ok (.error .unknownEntryType)
      | some m => finish <$> filterTakeChain ChainStoreIterator.ptr cas
          (fun h => m h.entryType.toString) (start + limit) (chainBound cas) startChainHeader
  | rest =>
    match globSet rest with
    | none => .ok (.error .unknownEntryType)
    | some m => finish <$> filterTakeChain ChainStoreIterator.ptr cas
        (fun h => m h.entryType.toString) (start + limit) (chainBound cas) startChainHeader

/-- A query for one non-empty name without glob syntax takes the `iter_type` fast path;
the empty name is the unfiltered query. -/
theorem query_one (globSet : List String → Option (String → Bool)) (cas : Cas A)
    (start : Option (ChainHeader A)) (name : String) (options : ChainStoreQueryOptions)
    (hne : name ≠ "") (hglob : isGlobStr name = false) :
    query globSet cas start [name] options =
      (fun l => Except.ok (ChainStoreQueryResult.ofHeaders options.headers
        (l.drop options.start))) <$>
        iterType cas start (EntryType.fromStr name)
          (options.start + if options.limit = 0 then usizeMax else options.limit) := by
  -- `"**"` is glob syntax, so the name misses all three unfiltered patterns; the two
  -- inequalities discharge the pattern tests
  have hstar : name ≠ "**" := by
    rintro rfl
    simp [isGlobStr, isGlob] at hglob
  unfold query
  simp [hglob]

/-! ### What an iterator yields -/

section Yields

variable (ptr : ChainHeader A → Option A) (cas : Cas A)

/-- `ChainYields ptr cas current l`: the iterator following `ptr` from `current` yields
exactly `l` and then ends, every load on the way succeeding. -/
inductive ChainYields : Option (ChainHeader A) → List (ChainHeader A) → Prop
  | nil : ChainYields none []
  | cons {h : ChainHeader A} {next : Option (ChainHeader A)} {l : List (ChainHeader A)} :
      loadHeader cas (ptr h) = .ok next → ChainYields next l → ChainYields (some h) (h :: l)

variable {ptr cas}

theorem takeChain_of_yields {cur : Option (ChainHeader A)} {l : List (ChainHeader A)}
    (h : ChainYields ptr cas cur l) : ∀ n, takeChain ptr cas n cur = .ok (l.take n) := by
  induction h with
  | nil => intro n; cases n <;> rfl
  | cons hload _ ih =>
    intro n
    cases n with
    | zero => rfl
    | succ n => simp [takeChain, hload, ih n]

theorem findChain_of_yields (p : ChainHeader A → Bool) {cur : Option (ChainHeader A)}
    {l : List (ChainHeader A)} (h : ChainYields ptr cas cur l) :
    ∀ n, l.length ≤ n → findChain ptr cas p n cur = .ok (l.find? p) := by
  induction h with
  | nil => intro n _; cases n <;> rfl
  | @cons hd next l hload _ ih =>
    intro n hn
    obtain ⟨m, rfl⟩ : ∃ m, n = m + 1 := ⟨n - 1, by simp at hn; omega⟩
    have hm : l.length ≤ m := by simpa using hn
    by_cases hp : p hd = true
    · simp [findChain, hload, hp]
    · simp [findChain, hload, hp, ih m hm]

theorem filterTakeChain_of_yields (p : ChainHeader A → Bool) {cur : Option (ChainHeader A)}
    {l : List (ChainHeader A)} (h : ChainYields ptr cas cur l) :
    ∀ k n, l.length ≤ n → filterTakeChain ptr cas p k n cur = .ok ((l.filter p).take k) := by
  induction h with
  | nil => intro k n _; rcases k with _ | k <;> rcases n with _ | n <;> rfl
  | @cons hd next l hload _ ih =>
    intro k n hn
    obtain ⟨m, rfl⟩ : ∃ m, n = m + 1 := ⟨n - 1, by simp at hn; omega⟩
    have hm : l.length ≤ m := by simpa using hn
    rcases k with _ | k
    · rfl
    · by_cases hp : p hd = true
      · simp [filterTakeChain, hload, hp, ih k m hm]
      · simp [filterTakeChain, hload, hp, ih (k + 1) m hm]

/-- The walk is deterministic: from one start it yields one list. -/
theorem ChainYields.unique {c : Option (ChainHeader A)} {l₁ l₂ : List (ChainHeader A)}
    (h₁ : ChainYields ptr cas c l₁) (h₂ : ChainYields ptr cas c l₂) : l₁ = l₂ := by
  induction h₁ generalizing l₂ with
  | nil => cases h₂; rfl
  | cons hload _ ih =>
    cases h₂ with
    | cons hload₂ h₂ =>
      rw [hload] at hload₂
      cases hload₂
      rw [ih h₂]

/-- Every header of a walk starts a suffix of it, which the walk from that header yields. -/
theorem ChainYields.suffix_of_mem {c : Option (ChainHeader A)} {l : List (ChainHeader A)}
    (hy : ChainYields ptr cas c l) : ∀ x ∈ l, ∃ s, x :: s <:+ l ∧
      ChainYields ptr cas (some x) (x :: s) := by
  induction hy with
  | nil => intro x hx; simp at hx
  | @cons hd next l hload hy ih =>
    intro x hx
    rcases List.mem_cons.mp hx with rfl | hx
    · exact ⟨l, List.suffix_refl _, .cons hload hy⟩
    · obtain ⟨s, hs, hys⟩ := ih x hx
      exact ⟨s, hs.trans (List.suffix_cons _ _), hys⟩

/-- A chain the iterator walks to its end never revisits a header: the source's iterator is
deterministic, so a repeated header would repeat forever. -/
theorem ChainYields.nodup {cur : Option (ChainHeader A)} {l : List (ChainHeader A)}
    (h : ChainYields ptr cas cur l) : l.Nodup := by
  induction h with
  | nil => exact List.nodup_nil
  | @cons hd next l hload hy ih =>
    refine List.nodup_cons.mpr ⟨fun hmem => ?_, ih⟩
    -- the walk from the repeated `hd` would be both `hd :: l` and a proper suffix of `l`
    obtain ⟨s, hs, hys⟩ := hy.suffix_of_mem hd hmem
    have heq : hd :: s = hd :: l := hys.unique (.cons hload hy)
    have hlen := hs.length_le
    rw [heq] at hlen
    exact Nat.not_succ_le_self _ hlen

end Yields

end Holochain
