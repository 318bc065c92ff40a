/-
The link query of the DHT store (`DhtStore::get_links` and `create_get_links_eavi_query` of
`core/src/dht/dht_store.rs`) with its configuration (`core_types/src/network/query.rs`).

`get_links` asks the EAV store for the link and removed-link EAVs of a base, puts them in the
requested order, pages them, and then marks each live or deleted and keeps those whose
status passes the filter. The EAV store's query (`fetch_eavi`) is a parameter, and so is the
upper-casing the tag comparison uses (`str::to_uppercase`). A timestamp `from_time` is its
nanoseconds since the epoch, the number chrono's `timestamp_nanos` gives; an EAV's index is
an `i64`. `usize` is 64 bits wide and wraps, as in a release build. A poisoned lock on the EAV
store is not modelled.

Main results:
* `getLinks_of_fetch` — the result is the page of the ordered EAVs, marked and then filtered
  by status;
* `getLinks_ascending_time` — ascending, over EAVs in index order and with no status filter,
  time pagination gives the first `limit` EAVs after `from_time`;
* `getLinks_size_of_lt` — size pagination without overflow gives the page's slice;
* `get_links_pagination_diverges` — in descending order, under a status filter, or with an
  overflowing page, the result is not the page of the filtered, ordered links.
-/
import Holochain.Core.Dht.InnerReducers

namespace Holochain

open Network (CrudStatus)

namespace Query

/-- `SortOrder`. -/
inductive SortOrder
  | ascending
  | descending
  deriving DecidableEq, Repr

/-- `SortOrder::default()`. -/
def SortOrder.default : SortOrder := .descending

/-- `TimePagination`, with `from_time` as its nanoseconds since the epoch. -/
structure TimePagination where
  fromTime : Int
  limit : Nat
  deriving DecidableEq, Repr

/-- `SizePagination`. -/
structure SizePagination where
  pageNumber : Nat
  pageSize : Nat
  deriving DecidableEq, Repr

/-- `Pagination`. -/
inductive Pagination
  | size (p : SizePagination)
  | time (p : TimePagination)
  deriving DecidableEq, Repr

/-- `GetLinksQueryConfiguration`, decoded; `get_links` does not read `headers`. -/
structure GetLinksQueryConfiguration where
  pagination : Option Pagination
  sortOrder : Option SortOrder
  deriving DecidableEq, Repr

end Query

open Query

/-- An EAV with its index (`EntityAttributeValueIndex::index`). -/
structure IndexedEavi where
  eavi : EntityAttributeValueIndex
  index : Int
  deriving DecidableEq, Repr

/-- `IndexFilter`; the link query asks for `LatestByAttribute`. -/
inductive IndexFilter
  | latestByAttribute
  deriving DecidableEq, Repr

/-- `EaviQuery`: an entity (`none` for any), a test on attributes (the field `attr`), a value
(`none` for any), an index filter, and the test that marks an attribute as a tombstone. -/
structure EaviQuery where
  entity : Option String
  attr : Attribute String → Bool
  value : Option String
  index : IndexFilter
  tombstone : Option (Attribute String → Bool)

variable (toUppercase : String → String)

/-- `create_get_links_eavi_query`: the link and removed-link EAVs of the base with the link
type, when one is given, and the tag up to case, when one is given; removed links are the
tombstones. -/
def createGetLinksEaviQuery (address : String) (linkType tag : Option String) :
    Except HolochainError EaviQuery :=
  .ok ⟨some address,
    fun
      | .linkTag queryLinkType queryTag | .removedLink _ queryLinkType queryTag =>
        (linkType.map fun linkType => linkType == queryLinkType).getD true &&
          (tag.map fun tag => toUppercase tag == toUppercase queryTag).getD true
      | _ => false,
    none, .latestByAttribute,
    some fun
      | .removedLink _ _ _ => true
      | _ => false⟩

/-- The EAVs in the requested order; `fetch_eavi` gives them in index order. -/
def filterWithSortOrder (filtered : List IndexedEavi) : SortOrder → List IndexedEavi
  | .ascending => filtered
  | .descending => filtered.reverse

/-- The page of the ordered EAVs: after `from_time` by `skip_while` and then `limit` of
them, or the `page_number`-th page of `page_size`. -/
def filterWithPagination (ordered : List IndexedEavi) : Option Pagination → List IndexedEavi
  | some (.time timePagination) =>
    (ordered.dropWhile fun eavi => decide (timePagination.fromTime ≥ eavi.index)).take
      timePagination.limit
  | some (.size sizePagination) =>
    (ordered.drop (sizePagination.pageSize * sizePagination.pageNumber % 2 ^ 64)).take
      sizePagination.pageSize
  | none => ordered

/-- A link EAV is live, any other deleted. -/
def linkCrudStatus (s : IndexedEavi) : IndexedEavi × CrudStatus :=
  match s.eavi.attr with
  | .linkTag _ _ => (s, .live)
  | _ => (s, .deleted)

/-- The status filter of a link query; no filter passes every status. -/
def passesCrudFilter (crudFilter : Option CrudStatus) (linkCrud : IndexedEavi × CrudStatus) :
    Bool :=
  (crudFilter.map fun crud => crud == linkCrud.2).getD true

variable (fetchEavi : EaviQuery → Except HolochainError (List IndexedEavi))

/-- `DhtStore::get_links`. -/
def getLinks (address : String) (linkType tag : Option String) (crudFilter : Option CrudStatus)
    (configuration : GetLinksQueryConfiguration) :
    Except HolochainError (List (IndexedEavi × CrudStatus)) := do
  let getLinksQuery ← createGetLinksEaviQuery toUppercase address linkType tag
  let filtered ← fetchEavi getLinksQuery
  let ordered := filterWithSortOrder filtered (configuration.sortOrder.getD .default)
  let paged := filterWithPagination ordered configuration.pagination
  pure ((paged.map linkCrudStatus).filter (passesCrudFilter crudFilter))

/-! ### What the query selects -/

/-- The query takes exactly the links and removed links of the asked type and tag. -/
theorem attribute_createGetLinksEaviQuery {address : String} {linkType tag : Option String}
    {query : EaviQuery} (hquery : createGetLinksEaviQuery toUppercase address linkType tag = .ok query)
    (attr : Attribute String) :
    query.attr attr = true ↔
      ∃ queryLinkType queryTag,
        (attr = .linkTag queryLinkType queryTag ∨
          ∃ removed, attr = .removedLink removed queryLinkType queryTag) ∧
        (∀ l ∈ linkType, l = queryLinkType) ∧
        (∀ t ∈ tag, toUppercase t = toUppercase queryTag) := by
  cases hquery
  cases attr <;> cases linkType <;> cases tag <;> simp

/-! ### Paging -/

variable {toUppercase fetchEavi}

/-- `get_links` once the query has fetched its EAVs: the page of the ordered EAVs, marked and
filtered by status. -/
theorem getLinks_of_fetch {address : String} {linkType tag : Option String}
    {filtered : List IndexedEavi}
    (hfetch : (createGetLinksEaviQuery toUppercase address linkType tag >>= fetchEavi) = .ok filtered)
    (crudFilter : Option CrudStatus) (configuration : GetLinksQueryConfiguration) :
    getLinks toUppercase fetchEavi address linkType tag crudFilter configuration =
      .ok (((filterWithPagination (filterWithSortOrder filtered
        (configuration.sortOrder.getD .default)) configuration.pagination).map
          linkCrudStatus).filter (passesCrudFilter crudFilter)) := by
  unfold getLinks
  rw [← bind_assoc, hfetch]
  rfl

/-- Over EAVs in index order, skipping those not after a time keeps exactly those after it. -/
theorem dropWhile_index_eq_filter {l : List IndexedEavi} (hsorted : l.Pairwise (·.index ≤ ·.index))
    (fromTime : Int) :
    l.dropWhile (fun eavi => decide (fromTime ≥ eavi.index)) =
      l.filter (fun eavi => decide (fromTime < eavi.index)) := by
  induction hsorted with
  | nil => rfl
  | @cons a l hle _ ih =>
    by_cases ha : a.index ≤ fromTime
    · rw [List.dropWhile_cons_of_pos (by simpa using ha),
        List.filter_cons_of_neg (by simpa using ha), ih]
    · -- the first EAV after the time is followed only by later ones
      have hafter : ∀ b ∈ l, decide (fromTime < b.index) = true := by
        intro b hb
        have hab := hle b hb
        simp only [decide_eq_true_eq]
        omega
      rw [List.dropWhile_cons_of_neg (by simpa using ha),
        List.filter_cons_of_pos (by simpa using ha), List.filter_eq_self.mpr hafter]

/-- Ascending, over EAVs in index order and with no status filter, time pagination gives the
first `limit` EAVs after `from_time`. -/
theorem getLinks_ascending_time {address : String} {linkType tag : Option String}
    {filtered : List IndexedEavi}
    (hfetch : (createGetLinksEaviQuery toUppercase address linkType tag >>= fetchEavi) = .ok filtered)
    (hsorted : filtered.Pairwise (·.index ≤ ·.index)) (timePagination : TimePagination) :
    getLinks toUppercase fetchEavi address linkType tag none
        ⟨some (.time timePagination), some .ascending⟩ =
      .ok (((filtered.filter fun eavi => decide (timePagination.fromTime < eavi.index)).take
        timePagination.limit).map linkCrudStatus) := by
  rw [getLinks_of_fetch hfetch]
  have hall : ∀ linkCrud, passesCrudFilter none linkCrud = true := fun _ => rfl
  simp only [Option.getD_some, filterWithSortOrder, filterWithPagination,
    dropWhile_index_eq_filter hsorted, List.filter_eq_self.mpr fun linkCrud _ => hall linkCrud]

/-- Size pagination whose first position fits in a `usize` gives the slice of the page. -/
theorem getLinks_size_of_lt {address : String} {linkType tag : Option String}
    {filtered : List IndexedEavi}
    (hfetch : (createGetLinksEaviQuery toUppercase address linkType tag >>= fetchEavi) = .ok filtered)
    (crudFilter : Option CrudStatus) (sortOrder : Option SortOrder)
    (sizePagination : SizePagination)
    (hfits : sizePagination.pageSize * sizePagination.pageNumber < 2 ^ 64) :
    getLinks toUppercase fetchEavi address linkType tag crudFilter
        ⟨some (.size sizePagination), sortOrder⟩ =
      .ok ((((filterWithSortOrder filtered (sortOrder.getD .default)).drop
        (sizePagination.pageSize * sizePagination.pageNumber)).take
          sizePagination.pageSize).map linkCrudStatus |>.filter (passesCrudFilter crudFilter)) := by
  rw [getLinks_of_fetch hfetch]
  simp only [filterWithPagination, Nat.mod_eq_of_lt hfits]

/-- The EAV of a link from the base to a target, at an index. -/
def linkAt (target : String) (index : Int) : IndexedEavi :=
  ⟨⟨"base", .linkTag "type" "tag", target⟩, index⟩

/-- The EAV of the removal of the link from the base to a target, at an index. -/
def removedLinkAt (target : String) (index : Int) : IndexedEavi :=
  ⟨⟨"base", .removedLink "link" "type" "tag", target⟩, index⟩

/-- Three pages that are not the page of the filtered, ordered links. In the default,
descending order, time pagination from 5 keeps the link at index 1. Under the filter for live
links, the first link after time 0 is the removed one, and the page comes back empty while a
live link follows. A page of 2^32 links numbered 2^32 starts at position 0. -/
theorem get_links_pagination_diverges :
    getLinks id (fun _ => .ok [linkAt "t1" 1, linkAt "t10" 10]) "base" none none none
        ⟨some (.time ⟨5, 10⟩), none⟩ = .ok [(linkAt "t10" 10, .live), (linkAt "t1" 1, .live)] ∧
      getLinks id (fun _ => .ok [removedLinkAt "t1" 1, linkAt "t2" 2]) "base" none none
        (some .live) ⟨some (.time ⟨0, 1⟩), some .ascending⟩ = .ok [] ∧
      getLinks id (fun _ => .ok [linkAt "t1" 1, linkAt "t10" 10]) "base" none none none
        ⟨some (.size ⟨2 ^ 32, 2 ^ 32⟩), some .ascending⟩ =
          .ok [(linkAt "t1" 1, .live), (linkAt "t10" 10, .live)] :=
  ⟨rfl, rfl, rfl⟩

end Holochain
