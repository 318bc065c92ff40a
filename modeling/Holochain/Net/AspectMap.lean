/-
The aspect map of `net/aspect_map.rs` as the sim2h worker batches fat acks with it: built
from the vector map of an entry list, merged, and turned back into a vector map. The type is
`Holochain.AspectMap` of `Holochain.Core.Dht.Store`, read as a relation between entry and
aspect hashes through `Multimap.Holds`.

A `HashMap` iterates in an order the program does not fix; here it iterates in key order, so
the hashes are linearly ordered. No result below depends on the order.

* `holds_ofVecMap` — the map built from a vector map relates the pairs it lists;
* `holds_merge` — a merge relates what either map does;
* `mem_toVecMap` — the vector map of a map lists the pairs it relates.
-/
import Mathlib.Data.Finset.Sort
import Mathlib.Data.Finset.SymmDiff
import Mathlib.Data.Prod.Lex
import Holochain.Core.Dht.Store
import Holochain.Lib.Multimap

namespace Holochain.AspectMap

open Multimap (Holds)

variable {A : Type} [LinearOrder A]

/-- `AspectMap::from(&HashMap<EntryHash, Vec<AspectHash>>)`: every aspect listed under its
entry; an entry listed with no aspect gets no key. -/
def ofVecMap (addressMap : List (A × List A)) : AspectMap A :=
  addressMap.foldl
    (fun m entry => entry.2.foldl (fun m aspect => Multimap.addTo m entry.1 aspect) m) ∅

/-- `AspectMap::merge`: the keys of both maps, each with the union of its aspects in both. -/
def merge (map1 map2 : AspectMap A) : AspectMap A :=
  (map1.keys.sort ++ map2.keys.sort).foldl
    (fun m entry => m.insert entry ((map1.lookup entry).getD ∅ ∪ (map2.lookup entry).getD ∅))
    ∅

/-- `From<AspectMap> for AspectVecMap`. -/
def toVecMap (map : AspectMap A) : List (A × List A) :=
  map.keys.sort.map fun entry => (entry, ((map.lookup entry).getD ∅).sort)

/-- `AspectMap::empty`: the map has no key. -/
def empty (map : AspectMap A) : Bool :=
  map.keys.card == 0

variable {e a : A}

theorem holds_foldl_ofVecMap (addressMap : List (A × List A)) (m : AspectMap A) :
    Holds (addressMap.foldl
        (fun m entry => entry.2.foldl (fun m aspect => Multimap.addTo m entry.1 aspect) m) m)
        e a ↔
      (∃ aspects, (e, aspects) ∈ addressMap ∧ a ∈ aspects) ∨ Holds m e a := by
  induction addressMap generalizing m with
  | nil => simp
  | cons entry addressMap ih =>
    rw [List.foldl_cons, ih, Multimap.holds_foldl_addTo]
    constructor
    · rintro (⟨aspects, hmem, ha⟩ | ⟨rfl, ha⟩ | hm)
      · exact .inl ⟨aspects, List.mem_cons_of_mem _ hmem, ha⟩
      · exact .inl ⟨entry.2, List.mem_cons_self, ha⟩
      · exact .inr hm
    · rintro (⟨aspects, hmem, ha⟩ | hm)
      · rcases List.mem_cons.mp hmem with heq | hmem
        · subst heq
          exact .inr (.inl ⟨rfl, ha⟩)
        · exact .inl ⟨aspects, hmem, ha⟩
      · exact .inr (.inr hm)

theorem holds_ofVecMap (addressMap : List (A × List A)) :
    Holds (ofVecMap addressMap) e a ↔ ∃ aspects, (e, aspects) ∈ addressMap ∧ a ∈ aspects := by
  rw [ofVecMap, holds_foldl_ofVecMap]
  simp

theorem mem_toVecMap (map : AspectMap A) :
    (∃ aspects, (e, aspects) ∈ map.toVecMap ∧ a ∈ aspects) ↔ Holds map e a := by
  constructor
  · rintro ⟨aspects, hmem, ha⟩
    rw [toVecMap] at hmem
    obtain ⟨entry, -, heq⟩ := List.mem_map.mp hmem
    cases heq
    rwa [Finset.mem_sort] at ha
  · intro h
    refine ⟨((map.lookup e).getD ∅).sort, ?_, (Finset.mem_sort _).mpr h⟩
    exact List.mem_map.mpr ⟨e, (Finset.mem_sort _).mpr
      (Finmap.mem_keys.mpr (Multimap.mem_of_holds h)), rfl⟩

/-! ### Merging -/

/-- A merge has the keys of both maps, each with the union of its aspects in both. -/
theorem lookup_merge (map1 map2 : AspectMap A) (entry : A) :
    (merge map1 map2).lookup entry =
      if entry ∈ map1 ∨ entry ∈ map2 then
        some ((map1.lookup entry).getD ∅ ∪ (map2.lookup entry).getD ∅)
      else none := by
  rw [merge, Multimap.lookup_foldl_insert, Finmap.lookup_empty]
  have hkeys : entry ∈ map1.keys.sort ++ map2.keys.sort ↔ entry ∈ map1 ∨ entry ∈ map2 := by
    simp only [List.mem_append, Finset.mem_sort, Finmap.mem_keys]
  by_cases h : entry ∈ map1 ∨ entry ∈ map2
  · rw [if_pos (hkeys.mpr h), if_pos h]
  · rw [if_neg (fun h' => h (hkeys.mp h')), if_neg h]

theorem mem_merge {map1 map2 : AspectMap A} : e ∈ merge map1 map2 ↔ e ∈ map1 ∨ e ∈ map2 := by
  rw [← Finmap.lookup_isSome, lookup_merge]
  by_cases h : e ∈ map1 ∨ e ∈ map2
  · simp [h]
  · simp [h]

/-- The aspects a merge keeps under an entry, present or not, are the union of both. -/
theorem getD_lookup_merge (map1 map2 : AspectMap A) :
    ((merge map1 map2).lookup e).getD ∅ = (map1.lookup e).getD ∅ ∪ (map2.lookup e).getD ∅ := by
  rw [lookup_merge]
  by_cases h : e ∈ map1 ∨ e ∈ map2
  · rw [if_pos h, Option.getD_some]
  · -- an entry in neither map keeps no aspect in either
    rw [if_neg h]
    simp only [not_or] at h
    simp [Finmap.lookup_eq_none.mpr h.1, Finmap.lookup_eq_none.mpr h.2]

theorem holds_merge (map1 map2 : AspectMap A) :
    Holds (merge map1 map2) e a ↔ Holds map1 e a ∨ Holds map2 e a := by
  rw [Holds, getD_lookup_merge, Finset.mem_union]
  rfl

theorem merge_comm (map1 map2 : AspectMap A) : merge map1 map2 = merge map2 map1 :=
  Finmap.ext_lookup fun entry => by
    simp only [lookup_merge, or_comm, Finset.union_comm]

theorem merge_assoc (map1 map2 map3 : AspectMap A) :
    merge (merge map1 map2) map3 = merge map1 (merge map2 map3) :=
  Finmap.ext_lookup fun entry => by
    rw [lookup_merge (merge map1 map2), lookup_merge map1 (merge map2 map3), getD_lookup_merge,
      getD_lookup_merge]
    simp only [mem_merge, or_assoc, Finset.union_assoc]

theorem merge_self (map : AspectMap A) : merge map map = map :=
  Finmap.ext_lookup fun entry => by
    by_cases h : entry ∈ map
    · obtain ⟨aspects, haspects⟩ := Finmap.mem_iff.mp h
      simp [lookup_merge, h, haspects]
    · simp [lookup_merge, h, Finmap.lookup_eq_none.mpr h]

/-! ### The set view and `diff` -/

/-- The pairs of a set in lexicographic order: how a `HashSet` of pairs is iterated here. -/
def pairList (s : Finset (A × A)) : List (A × A) :=
  ((s.map toLex.toEmbedding).sort (· ≤ ·)).map ofLex

/-- `From<&AspectMap> for HashSet<(EntryHash, AspectHash)>`: each aspect with its entry. -/
def toPairSet (a : AspectMap A) : Finset (A × A) :=
  a.keys.sort.foldl (fun result entryAddress =>
    ((a.lookup entryAddress).getD ∅).sort.foldl
      (fun result aspectAddress => insert (entryAddress, aspectAddress) result) result) ∅

/-- `From<&HashSet<(EntryHash, AspectHash)>> for AspectMap`: a pair's entry gets an empty set
when it has none, and then the pair's aspect; the `unwrap` of `get_mut` reads the entry that
was just made present. -/
def ofPairSet (s : Finset (A × A)) : Except String (AspectMap A) :=
  (pairList s).foldlM (fun result pair =>
    let result := if pair.1 ∈ result then result else result.insert pair.1 ∅
    match result.lookup pair.1 with
    | some aspects => pure (result.insert pair.1 (insert pair.2 aspects))
    | none => throw "called \x60Option::unwrap()\x60 on a \x60None\x60 value") ∅

/-- `HashSet::difference` of the `im` crate at the version the source pins (14.0.0): each value
of `other` is removed from `self` when it is there and inserted when it is not. That is the
symmetric difference; later versions of the crate call it `symmetric_difference`. -/
def hashSetDifference (selfSet otherSet : Finset (A × A)) : Finset (A × A) :=
  (pairList otherSet).foldl
    (fun result value => if value ∈ result then result.erase value else insert value result)
    selfSet

/-- `AspectMap::diff`. -/
def diff (map other : AspectMap A) : Except String (AspectMap A) :=
  ofPairSet (hashSetDifference (toPairSet map) (toPairSet other))

theorem mem_pairList {s : Finset (A × A)} {v : A × A} : v ∈ pairList s ↔ v ∈ s := by
  rw [pairList, List.mem_map]
  constructor
  · rintro ⟨w, hw, rfl⟩
    rw [Finset.mem_sort, Finset.mem_map_equiv] at hw
    exact hw
  · intro hv
    refine ⟨toLex v, ?_, rfl⟩
    rw [Finset.mem_sort, Finset.mem_map_equiv]
    exact hv

theorem nodup_pairList (s : Finset (A × A)) : (pairList s).Nodup :=
  (Finset.sort_nodup _ _).map ofLex.injective

/-- Inserting the image of each element of a list. -/
theorem mem_foldl_insert {β : Type} (f : β → A × A) (l : List β) (acc : Finset (A × A))
    (v : A × A) : v ∈ l.foldl (fun result x => insert (f x) result) acc ↔ v ∈ acc ∨ ∃ x ∈ l, f x = v := by
  induction l generalizing acc with
  | nil => simp
  | cons x l ih =>
    rw [List.foldl_cons, ih, Finset.mem_insert]
    constructor
    · rintro ((rfl | hacc) | ⟨y, hy, rfl⟩)
      · exact .inr ⟨x, List.mem_cons_self, rfl⟩
      · exact .inl hacc
      · exact .inr ⟨y, List.mem_cons_of_mem x hy, rfl⟩
    · rintro (hacc | ⟨y, hy, rfl⟩)
      · exact .inl (.inr hacc)
      · rcases List.mem_cons.mp hy with rfl | hy
        · exact .inl (.inl rfl)
        · exact .inr ⟨y, hy, rfl⟩

/-- The pair set of a map is the relation the map holds. -/
theorem mem_toPairSet (a : AspectMap A) (entry aspect : A) :
    (entry, aspect) ∈ toPairSet a ↔ Holds a entry aspect := by
  -- the loop over the entries adds, for each, the pairs of its aspects
  have hloop : ∀ (entries : List A) (acc : Finset (A × A)),
      (entry, aspect) ∈ entries.foldl (fun result entryAddress =>
        ((a.lookup entryAddress).getD ∅).sort.foldl
          (fun result aspectAddress => insert (entryAddress, aspectAddress) result) result) acc ↔
        (entry, aspect) ∈ acc ∨ (entry ∈ entries ∧ Holds a entry aspect) := by
    intro entries
    induction entries with
    | nil => simp
    | cons k entries ih =>
      intro acc
      rw [List.foldl_cons, ih, mem_foldl_insert]
      simp only [Prod.mk.injEq, Finset.mem_sort, List.mem_cons]
      constructor
      · rintro ((hacc | ⟨x, hx, rfl, rfl⟩) | ⟨hk, hholds⟩)
        · exact .inl hacc
        · exact .inr ⟨.inl rfl, hx⟩
        · exact .inr ⟨.inr hk, hholds⟩
      · rintro (hacc | ⟨rfl | hk, hholds⟩)
        · exact .inl (.inl hacc)
        · exact .inl (.inr ⟨aspect, hholds, rfl, rfl⟩)
        · exact .inr ⟨hk, hholds⟩
  rw [toPairSet, hloop, Finset.mem_sort, Finmap.mem_keys]
  constructor
  · rintro (hempty | ⟨-, hholds⟩)
    · simp at hempty
    · exact hholds
  · intro hholds
    exact .inr ⟨Multimap.mem_of_holds hholds, hholds⟩

/-- One round of `From<&HashSet<…>> for AspectMap` adds the pair's aspect to its entry. -/
theorem ofPairSet_eq_ok (s : Finset (A × A)) :
    ofPairSet s = .ok ((pairList s).foldl (fun m p => Multimap.addTo m p.1 p.2) ∅) := by
  refine Except.foldlM_eq_ok_foldl (fun result pair _ => ?_) ∅
  by_cases hmem : pair.1 ∈ result
  · obtain ⟨aspects, haspects⟩ := Finmap.mem_iff.mp hmem
    simp only [if_pos hmem, haspects, Multimap.addTo, Option.getD_some]
    rfl
  · -- the entry is made present with no aspect, then given the pair's
    simp only [if_neg hmem, Finmap.lookup_insert, Finmap.insert_insert, Multimap.addTo,
      Finmap.lookup_eq_none.mpr hmem, Option.getD_none]
    rfl

/-- The map built from a pair set relates exactly its pairs and keeps no empty aspect set. -/
theorem ofPairSet_spec (s : Finset (A × A)) :
    ∃ m, ofPairSet s = .ok m ∧ (∀ entry aspect, Holds m entry aspect ↔ (entry, aspect) ∈ s) ∧
      Multimap.NoEmpty m := by
  refine ⟨_, ofPairSet_eq_ok s, fun entry aspect => ?_,
    Multimap.noEmpty_empty.foldl_addTo_pairs _⟩
  rw [Multimap.holds_foldl_addTo_pairs, mem_pairList]
  simp

/-- `im`'s difference toggles each value of the other set, each once. -/
theorem hashSetDifference_eq (selfSet otherSet : Finset (A × A)) :
    hashSetDifference selfSet otherSet = symmDiff selfSet otherSet := by
  -- over a list without duplicates, a value is in the result when it is in exactly one of
  -- the start and the list
  have htoggle : ∀ (l : List (A × A)), l.Nodup → ∀ (acc : Finset (A × A)) (v : A × A),
      v ∈ l.foldl (fun result value => if value ∈ result then result.erase value
        else insert value result) acc ↔ (v ∈ acc ∧ v ∉ l) ∨ (v ∈ l ∧ v ∉ acc) := by
    intro l hl
    induction l with
    | nil => simp
    | cons x l ih =>
      intro acc v
      obtain ⟨hx, hl⟩ := List.nodup_cons.mp hl
      rw [List.foldl_cons, ih hl]
      by_cases hv : v = x
      · subst hv
        by_cases hacc : v ∈ acc
        · simp [hacc, hx]
        · simp [hacc, hx]
      · by_cases hacc : x ∈ acc
        · simp [hacc, hv]
        · simp [hacc, hv]
  ext v
  rw [hashSetDifference, htoggle _ (nodup_pairList otherSet), Finset.mem_symmDiff, mem_pairList]

/-- `AspectMap::diff` never panics; its pair set is the symmetric difference of the two pair
sets, and it keeps no entry with an empty aspect set. -/
theorem diff_spec (map other : AspectMap A) :
    ∃ d, diff map other = .ok d ∧ toPairSet d = symmDiff (toPairSet map) (toPairSet other) ∧
      Multimap.NoEmpty d := by
  obtain ⟨d, hd, hholds, hnonempty⟩ := ofPairSet_spec (hashSetDifference (toPairSet map)
    (toPairSet other))
  refine ⟨d, hd, ?_, hnonempty⟩
  ext ⟨entry, aspect⟩
  rw [mem_toPairSet, hholds, hashSetDifference_eq]

/-- The pair set of a merge is the union of the pair sets. -/
theorem toPairSet_merge (map1 map2 : AspectMap A) :
    toPairSet (merge map1 map2) = toPairSet map1 ∪ toPairSet map2 := by
  ext ⟨entry, aspect⟩
  rw [Finset.mem_union, mem_toPairSet, mem_toPairSet, mem_toPairSet, holds_merge]

/-- `diff` is not the difference its documentation promises. From the empty map, the diff with
a map holding one aspect holds that aspect, which the empty map does not. -/
theorem diff_adds_other_aspects :
    ∃ d, diff (∅ : AspectMap Nat) (Finmap.singleton 0 {1}) = .ok d ∧
      toPairSet d = {(0, 1)} ∧
      toPairSet (∅ : AspectMap Nat) \ toPairSet (Finmap.singleton 0 {1}) = ∅ := by
  -- the one-aspect map holds exactly the pair `(0, 1)`, the empty map nothing
  have hone : ∀ entry aspect, Holds (Finmap.singleton 0 {1} : AspectMap Nat) entry aspect ↔
      (entry, aspect) = (0, 1) := by
    intro entry aspect
    by_cases he : entry = 0
    · subst he
      simp [Holds, Finmap.lookup_singleton_eq]
    · have hnone : (Finmap.singleton 0 {1} : AspectMap Nat).lookup entry = none :=
        Finmap.lookup_eq_none.mpr (by rw [Finmap.mem_singleton]; exact he)
      simp [Holds, hnone, he]
  obtain ⟨d, hd, hpairs, -⟩ := diff_spec (∅ : AspectMap Nat) (Finmap.singleton 0 {1})
  refine ⟨d, hd, ?_, ?_⟩
  · rw [hpairs]
    ext ⟨entry, aspect⟩
    rw [Finset.mem_symmDiff, mem_toPairSet, mem_toPairSet, hone, Finset.mem_singleton]
    simp
  · ext ⟨entry, aspect⟩
    rw [Finset.mem_sdiff, mem_toPairSet]
    simp

end Holochain.AspectMap
