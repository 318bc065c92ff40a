/-
The validation cache of the network state (`network/state.rs`): the source-chain data of
remote agents, kept from the validation packages they answered with
(`reduce_handle_get_validation_package`), from which `get_validation_package_from_cache`
builds later packages without asking the network.

The cache is the `validation_cache` map of `NetworkState`; the two functions read and write
nothing else of it. `SystemTime::now()` is a parameter `now`, and a panic is
`Except.error`.

Main results:
* `getValidationPackageFromCache_ok` — building a package from the cache never panics;
* `getValidationPackageFromCache_eq_some` — it builds one only for `ChainFull`, with cached
  entries, for a header strictly older than the agent's latest cached header;
* `reachable_headersNonEmpty` — while every package cached has a non-empty header list,
  every cache entry has one and caching never panics;
* `empty_headers_cached_then_panic` — a package with an empty header list is cached as
  is, and the next package from that agent panics in `latest_header`.
-/
import Holochain.Core.Nucleus.Validation
import Holochain.Lib.Run

namespace Holochain

variable {A : Type}

variable (A) in
/-- `ValidationCacheData`; `cached_at` is a system time. -/
structure ValidationCacheData where
  entries : Option (List (Entry A))
  headers : List (ChainHeader A)
  cachedAt : Nat
  deriving DecidableEq, Repr

variable (A) in
/-- The `validation_cache` of `NetworkState`, by agent address. -/
abbrev ValidationCache := AList (fun _ : A => ValidationCacheData A)

/-- `ValidationCacheData::latest_header`: `headers.first().unwrap()`. -/
def ValidationCacheData.latestHeader (d : ValidationCacheData A) : Except String (ChainHeader A) :=
  match d.headers.head? with
  | some header => .ok header
  | none => .error "called Option::unwrap() on a None value"

namespace ValidationCache

variable [DecidableEq A]

/-- `NetworkState::cache_validation`: a package with source-chain headers is cached for the
agent, replacing what is cached when its header is newer than the latest cached one. -/
def cacheValidation (cache : ValidationCache A) (agent : A) (validation : ValidationPackage A)
    (now : Nat) : Except String (ValidationCache A) :=
  match validation.sourceChainHeaders with
  | none => .ok cache
  | some headers =>
    match cache.lookup agent with
    | some cacheEntry => do
      let latest ← cacheEntry.latestHeader
      if validation.chainHeader.timestamp > latest.timestamp then
        let entries :=
          if validation.sourceChainEntries.isSome then validation.sourceChainEntries
          else cacheEntry.entries
        return cache.insert agent { cacheEntry with headers := headers, entries := entries }
      else return cache
    | none => return cache.insert agent ⟨validation.sourceChainEntries, headers, now⟩

/-- `NetworkState::get_validation_package_from_cache`: the cases where no package can be
built return first; then a header at or after the latest cached one is refused. -/
def getValidationPackageFromCache (cache : ValidationCache A) (agent : A)
    (definition : ValidationPackageDefinition) (header : ChainHeader A) :
    Except String (Option (ValidationPackage A)) :=
  match cache.lookup agent with
  | none => .ok none
  | some cacheEntry =>
    let cannotBuild :=
      match definition with
      | .chainFull => cacheEntry.headers.isEmpty || cacheEntry.entries.isNone
      | _ => true
    if cannotBuild then .ok none
    else do
      let latest ← cacheEntry.latestHeader
      if header.timestamp ≥ latest.timestamp then return none
      else return match definition with
        | .chainHeaders => some ⟨header, none, some cacheEntry.headers, none⟩
        | .chainFull => some ⟨header, cacheEntry.entries, some cacheEntry.headers, none⟩
        | _ => none

variable (A) in
/-- The calls the network reducers make on the cache. -/
inductive CacheCall
  | cacheValidation (agent : A) (validation : ValidationPackage A) (now : Nat)
  | getValidationPackage (agent : A) (definition : ValidationPackageDefinition)
      (header : ChainHeader A)

/-- One call on the cache; a call that panics is no step. -/
def CacheStep (cache : ValidationCache A) : CacheCall A → ValidationCache A → Prop
  | .cacheValidation agent validation now, cache' =>
    cacheValidation cache agent validation now = .ok cache'
  | .getValidationPackage agent definition header, cache' =>
    cache' = cache ∧ ∃ r, getValidationPackageFromCache cache agent definition header = .ok r

/-! ### Building packages -/

omit [DecidableEq A] in
theorem latestHeader_of_ne_nil {d : ValidationCacheData A} (h : d.headers ≠ []) :
    ∃ header, d.headers.head? = some header ∧ d.latestHeader = .ok header := by
  obtain ⟨header, rest, hd⟩ := List.exists_cons_of_ne_nil h
  exact ⟨header, by simp [hd], by simp [ValidationCacheData.latestHeader, hd]⟩

/-- What building a `ChainFull` package computes from an entry with headers and entries. -/
theorem getValidationPackageFromCache_chainFull {cache : ValidationCache A} {agent : A}
    {cacheEntry : ValidationCacheData A} {latest : ChainHeader A} {rest : List (ChainHeader A)}
    {entries : List (Entry A)} (hl : cache.lookup agent = some cacheEntry)
    (hh : cacheEntry.headers = latest :: rest) (he : cacheEntry.entries = some entries)
    (header : ChainHeader A) :
    getValidationPackageFromCache cache agent .chainFull header =
      .ok (if header.timestamp ≥ latest.timestamp then none
        else some ⟨header, some entries, some cacheEntry.headers, none⟩) := by
  have hlatest : cacheEntry.latestHeader = .ok latest := by
    simp [ValidationCacheData.latestHeader, hh]
  simp only [getValidationPackageFromCache, hl, hh, he, List.isEmpty_cons, Option.isNone_some,
    Bool.or_false, Bool.false_eq_true, if_false, hlatest, Except.ok_bind]
  split <;> rfl

/-- Every other case of the first match gives up before reading the latest header. -/
theorem getValidationPackageFromCache_eq_none {cache : ValidationCache A} {agent : A}
    {definition : ValidationPackageDefinition} {header : ChainHeader A}
    (h : ∀ cacheEntry latest rest entries, cache.lookup agent = some cacheEntry →
      definition = .chainFull → cacheEntry.headers = latest :: rest →
      cacheEntry.entries = some entries → False) :
    getValidationPackageFromCache cache agent definition header = .ok none := by
  unfold getValidationPackageFromCache
  cases hl : cache.lookup agent with
  | none => rfl
  | some cacheEntry =>
    cases definition with
    | chainFull =>
      cases hh : cacheEntry.headers with
      | nil => simp [hh]
      | cons latest rest =>
        cases he : cacheEntry.entries with
        | none => simp [he]
        | some entries => exact (h cacheEntry latest rest entries hl rfl hh he).elim
    | _ => simp

/-- The cases of `get_validation_package_from_cache`: a `ChainFull` package from an entry
with headers and entries, or nothing. -/
theorem getValidationPackageFromCache_cases (cache : ValidationCache A) (agent : A)
    (definition : ValidationPackageDefinition) (header : ChainHeader A) :
    (∃ cacheEntry latest rest entries, cache.lookup agent = some cacheEntry ∧
        definition = .chainFull ∧ cacheEntry.headers = latest :: rest ∧
        cacheEntry.entries = some entries ∧
        getValidationPackageFromCache cache agent definition header =
          .ok (if header.timestamp ≥ latest.timestamp then none
            else some ⟨header, some entries, some cacheEntry.headers, none⟩)) ∨
      getValidationPackageFromCache cache agent definition header = .ok none := by
  by_cases hfull : ∃ cacheEntry latest rest entries, cache.lookup agent = some cacheEntry ∧
      definition = .chainFull ∧ cacheEntry.headers = latest :: rest ∧
      cacheEntry.entries = some entries
  · obtain ⟨cacheEntry, latest, rest, entries, hl, rfl, hh, he⟩ := hfull
    exact .inl ⟨cacheEntry, latest, rest, entries, hl, rfl, hh, he,
      getValidationPackageFromCache_chainFull hl hh he header⟩
  · refine .inr (getValidationPackageFromCache_eq_none ?_)
    intro cacheEntry latest rest entries hl hd hh he
    exact hfull ⟨cacheEntry, latest, rest, entries, hl, hd, hh, he⟩

/-- Building a package never panics: `ChainFull`, the one case that reads the latest header,
first returns when the cached header list is empty. -/
theorem getValidationPackageFromCache_ok (cache : ValidationCache A) (agent : A)
    (definition : ValidationPackageDefinition) (header : ChainHeader A) :
    ∃ r, getValidationPackageFromCache cache agent definition header = .ok r := by
  rcases getValidationPackageFromCache_cases cache agent definition header with
    ⟨_, _, _, _, _, _, _, _, hget⟩ | hget
  · exact ⟨_, hget⟩
  · exact ⟨_, hget⟩

/-- A package is built only for `ChainFull`, from cached entries and headers, for a header
strictly older than the first cached header. -/
theorem getValidationPackageFromCache_eq_some {cache : ValidationCache A} {agent : A}
    {definition : ValidationPackageDefinition} {header : ChainHeader A}
    {p : ValidationPackage A}
    (h : getValidationPackageFromCache cache agent definition header = .ok (some p)) :
    definition = .chainFull ∧ ∃ cacheEntry latest entries,
      cache.lookup agent = some cacheEntry ∧ cacheEntry.headers.head? = some latest ∧
      cacheEntry.entries = some entries ∧ header.timestamp < latest.timestamp ∧
      p = ⟨header, some entries, some cacheEntry.headers, none⟩ := by
  rcases getValidationPackageFromCache_cases cache agent definition header with
    ⟨cacheEntry, latest, rest, entries, hl, hd, hh, he, hget⟩ | hget
  · rw [hget, Except.ok.injEq] at h
    split at h
    · cases h
    · rename_i hlt
      refine ⟨hd, cacheEntry, latest, entries, hl, by simp [hh], he, by omega, ?_⟩
      exact (Option.some.inj h).symm
  · rw [hget] at h
    cases h

/-! ### Caching -/

/-- Every cached entry has a non-empty header list. -/
def HeadersNonEmpty (cache : ValidationCache A) : Prop :=
  ∀ agent cacheEntry, cache.lookup agent = some cacheEntry → cacheEntry.headers ≠ []

/-- The packages a run caches all have a non-empty header list, or none. -/
def CacheCall.HeadersNonEmpty : CacheCall A → Prop
  | .cacheValidation _ validation _ => validation.sourceChainHeaders ≠ some []
  | .getValidationPackage _ _ _ => True

/-- On a cache whose entries all have headers, caching never panics. -/
theorem cacheValidation_ok {cache : ValidationCache A} (hc : HeadersNonEmpty cache) (agent : A)
    (validation : ValidationPackage A) (now : Nat) :
    ∃ cache', cacheValidation cache agent validation now = .ok cache' := by
  unfold cacheValidation
  cases validation.sourceChainHeaders with
  | none => exact ⟨cache, rfl⟩
  | some headers =>
    dsimp only
    cases hl : cache.lookup agent with
    | none => exact ⟨_, rfl⟩
    | some cacheEntry =>
      obtain ⟨latest, -, hlatest⟩ := latestHeader_of_ne_nil (hc agent cacheEntry hl)
      simp only [hlatest, Except.ok_bind]
      split <;> exact ⟨_, rfl⟩

/-- Caching a package with a non-empty header list keeps every entry's headers non-empty:
it writes that list or leaves the entry. -/
theorem headersNonEmpty_cacheValidation {cache cache' : ValidationCache A} {agent : A}
    {validation : ValidationPackage A} {now : Nat} (hc : HeadersNonEmpty cache)
    (hv : validation.sourceChainHeaders ≠ some [])
    (h : cacheValidation cache agent validation now = .ok cache') : HeadersNonEmpty cache' := by
  unfold cacheValidation at h
  cases hs : validation.sourceChainHeaders with
  | none =>
    simp only [hs] at h
    cases h
    exact hc
  | some headers =>
    have hne : headers ≠ [] := fun hnil => hv (hs.trans (by rw [hnil]))
    simp only [hs] at h
    -- the one entry written holds `headers`; every other entry is as before
    have hinsert : ∀ d : ValidationCacheData A, d.headers = headers →
        HeadersNonEmpty (cache.insert agent d) := by
      intro d hd a e ha
      by_cases hae : a = agent
      · subst hae
        rw [AList.lookup_insert, Option.some.injEq] at ha
        subst ha
        rw [hd]
        exact hne
      · rw [AList.lookup_insert_ne hae] at ha
        exact hc a e ha
    cases hl : cache.lookup agent with
    | none =>
      simp only [hl, Except.pure_eq_ok, Except.ok.injEq] at h
      subst h
      exact hinsert _ rfl
    | some cacheEntry =>
      simp only [hl] at h
      obtain ⟨latest, hlatest, h⟩ := Except.bind_eq_ok.mp h
      split at h
      · simp only [Except.pure_eq_ok, Except.ok.injEq] at h
        subst h
        exact hinsert _ rfl
      · simp only [Except.pure_eq_ok, Except.ok.injEq] at h
        subst h
        exact hc

/-- Over every run from the empty cache that caches only packages with headers, every entry
keeps a header, so that neither call ever panics. -/
theorem reachable_headersNonEmpty {calls : List (CacheCall A)} {cache : ValidationCache A}
    (hrun : Run.ReachableBy CacheStep ∅ calls cache) (hcalls : ∀ c ∈ calls, c.HeadersNonEmpty) :
    HeadersNonEmpty cache := by
  induction hrun with
  | init => intro agent cacheEntry h; simp at h
  | step call _ hstep ih =>
    have hprev := ih fun c hc => hcalls c (List.mem_append_left _ hc)
    have hcall := hcalls call (List.mem_append_right _ (List.mem_singleton_self call))
    cases call with
    | cacheValidation agent validation now =>
      exact headersNonEmpty_cacheValidation hprev hcall hstep
    | getValidationPackage agent definition header =>
      rw [hstep.1]
      exact hprev

end ValidationCache

/-- From the empty cache, a package whose header list is empty is cached as it is, and the
next package the same agent sends makes `cache_validation` panic in `latest_header`. And a
newer package whose header list starts with an older header moves the agent's latest
cached header back, from timestamp 1 to timestamp 0. -/
theorem empty_headers_cached_then_panic [DecidableEq A] (agent : A)
    (validation validation' : ValidationPackage A) (header : ChainHeader A)
    (headers : List (ChainHeader A)) (now now' : Nat) :
    (do
      let cache ← ValidationCache.cacheValidation ∅ agent
        { validation with sourceChainHeaders := some [] } now
      ValidationCache.cacheValidation cache agent
        { validation' with sourceChainHeaders := some headers } now') =
      .error "called Option::unwrap() on a None value" ∧
    (do
      let cache ← ValidationCache.cacheValidation ∅ agent
        { validation with sourceChainHeaders := some [{ header with timestamp := 1 }] } now
      let cache' ← ValidationCache.cacheValidation cache agent
        { validation' with
          chainHeader := { header with timestamp := 2 }
          sourceChainHeaders := some [{ header with timestamp := 0 }] } now'
      return ((cache.lookup agent).bind (·.headers.head?.map ChainHeader.timestamp),
        (cache'.lookup agent).bind (·.headers.head?.map ChainHeader.timestamp))) =
      .ok (some 1, some 0) := by
  constructor
  · -- the first call inserts the entry with no headers, the second reads its latest header
    have hfirst : ValidationCache.cacheValidation ∅ agent
        { validation with sourceChainHeaders := some [] } now =
        .ok ((∅ : ValidationCache A).insert agent ⟨validation.sourceChainEntries, [], now⟩) := rfl
    rw [hfirst, Except.ok_bind]
    simp [ValidationCache.cacheValidation, AList.lookup_insert, ValidationCacheData.latestHeader,
      -AList.insert_empty]
  · -- the header of timestamp 2 is newer than the cached one, so its list replaces the cache
    simp [ValidationCache.cacheValidation, AList.lookup_insert, ValidationCacheData.latestHeader,
      -AList.insert_empty]

end Holochain
