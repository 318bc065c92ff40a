/-
The attributes of entity-attribute-value metadata (`core_types/src/eav/eavi.rs`): their
string form (`Display`), the parser back (`TryFrom<&str>`) and `validate_attribute`.

The parser matches two regexes of the `regex` crate, `^link__(.*)__(.*)$` and
`^removed_link__(.*)__(.*)__(.*)$`. Their captures are modelled as that crate's
leftmost-first search finds them: each greedy `(.*)` tries the longest text first and
gives back one character at a time until the rest of the pattern matches; `.` matches
anything but a line feed and `$` is the end of the text.

Main results:
* `tryFrom_toString_linkTag`, `tryFrom_toString_removedLink` — a link attribute is read
  back when its tag (and, for a removed link, its link type) has no underscore;
* `tag_separator_splits_at_last` — a tag holding `__` is split at the wrong separator,
  although `validate_attribute` accepts it.
-/
import Mathlib.Data.List.Basic
import Holochain.CoreTypes.Error

namespace Holochain

/-! ### Greedy captures -/

namespace Eav

/-- `.` of the `regex` crate: any character but a line feed. -/
def isDot (c : Char) : Bool := c != '\n'

/-- The text after a separator at the very start of `s`. -/
def sepHere : List Char → Option (List Char)
  | a :: b :: q => if a = '_' ∧ b = '_' then some q else none
  | _ => none

/-- The ways to write `s` as `p ++ "__" ++ q`, by increasing length of `p`. -/
def sepSplits : List Char → List (List Char × List Char)
  | [] => []
  | c :: cs =>
    ((sepHere (c :: cs)).map fun q => ([], q)).toList ++
      (sepSplits cs).map fun pq => (c :: pq.1, pq.2)

/-- The captures of `(.*)__(.*)…__(.*)$` with `n` separators: the first group is the
longest all-dot `p` of a split `p ++ "__" ++ q` whose `q` matches the rest. -/
def greedyFields : Nat → List Char → Option (List (List Char))
  | 0, s => if s.all isDot then some [s] else none
  | n + 1, s => (sepSplits s).reverse.findSome? fun pq =>
      if pq.1.all isDot then (greedyFields n pq.2).map (pq.1 :: ·) else none

/-- The captures of `^{pre}(.*)__…__(.*)$` on `s`, with `n` separators. -/
def captures (pre : String) (n : Nat) (s : String) : Option (List String) :=
  if pre.toList.isPrefixOf s.toList then
    (greedyFields n (s.toList.drop pre.length)).map (·.map String.ofList)
  else none

theorem all_isDot {s : List Char} (h : '\n' ∉ s) : s.all isDot = true := by
  rw [List.all_eq_true]
  intro c hc
  have hne : c ≠ '\n' := fun hcn => h (hcn ▸ hc)
  simpa [isDot] using hne

@[simp] theorem sepHere_sep (q : List Char) : sepHere ('_' :: '_' :: q) = some q := by
  simp [sepHere]

/-- No separator starts at an underscore followed by another character. -/
theorem sepHere_underscore_cons {y : List Char} (hy : y.head? ≠ some '_') :
    sepHere ('_' :: y) = none := by
  cases y with
  | nil => rfl
  | cons c cs =>
    have hc : c ≠ '_' := fun hc => hy (by simp [hc])
    simp [sepHere, hc]

/-- Text without an underscore has no separator. -/
theorem sepSplits_eq_nil {s : List Char} (h : '_' ∉ s) : sepSplits s = [] := by
  induction s with
  | nil => rfl
  | cons c cs ih =>
    have hc : c ≠ '_' := fun hc => h (hc ▸ List.mem_cons_self)
    have hcs : '_' ∉ cs := fun hm => h (List.mem_cons_of_mem c hm)
    have hhere : sepHere (c :: cs) = none := by
      cases cs with
      | nil => rfl
      | cons d ds => simp [sepHere, hc]
    simp [sepSplits, ih hcs, hhere]

/-- The separator after `x`, followed by text that does not start with an underscore,
is the last split of `x` and the splits of that text, moved behind it. -/
theorem sepSplits_sep_append (x : List Char) {y : List Char} (hy : y.head? ≠ some '_') :
    ∃ l, sepSplits (x ++ '_' :: '_' :: y) =
      l ++ (x, y) :: (sepSplits y).map fun pq => (x ++ '_' :: '_' :: pq.1, pq.2) := by
  induction x with
  | nil =>
    -- the second underscore starts no separator, since `y` does not start with one
    refine ⟨[], ?_⟩
    simp [sepSplits, sepHere_underscore_cons hy, List.map_map, Function.comp_def]
  | cons c x ih =>
    obtain ⟨l, hl⟩ := ih
    refine ⟨((sepHere (c :: (x ++ '_' :: '_' :: y))).map fun q => ([], q)).toList ++
      l.map fun pq => (c :: pq.1, pq.2), ?_⟩
    rw [List.cons_append, sepSplits, hl]
    simp [List.map_map, Function.comp_def]

/-- `(.*)$` takes all of a line. -/
theorem greedyFields_zero {s : List Char} (h : '\n' ∉ s) : greedyFields 0 s = some [s] := by
  simp [greedyFields, all_isDot h]

/-- With one separator, a second field without an underscore is split off whole. -/
theorem greedyFields_one {t g : List Char} (ht : '\n' ∉ t) (hg : '\n' ∉ g) (hgu : '_' ∉ g) :
    greedyFields 1 (t ++ '_' :: '_' :: g) = some [t, g] := by
  have hhead : g.head? ≠ some '_' := fun h => hgu (List.mem_of_mem_head? h)
  obtain ⟨l, hl⟩ := sepSplits_sep_append t hhead
  -- the longest first group is tried first, and it is `t`
  have hrev : (sepSplits (t ++ '_' :: '_' :: g)).reverse = (t, g) :: l.reverse := by
    simp [hl, sepSplits_eq_nil hgu]
  simp only [greedyFields, hrev, List.findSome?_cons, all_isDot ht, all_isDot hg, if_true,
    Option.map_some]

/-- Before text without an underscore, the separator written after it is the first. -/
theorem sepSplits_sep_append_of_not_mem {x y : List Char} (hx : '_' ∉ x)
    (hy : y.head? ≠ some '_') :
    sepSplits (x ++ '_' :: '_' :: y) =
      (x, y) :: (sepSplits y).map fun pq => (x ++ '_' :: '_' :: pq.1, pq.2) := by
  induction x with
  | nil => simp [sepSplits, sepHere_underscore_cons hy, List.map_map, Function.comp_def]
  | cons c x ih =>
    have hc : c ≠ '_' := fun hc => hx (hc ▸ List.mem_cons_self)
    have hhere : sepHere (c :: (x ++ '_' :: '_' :: y)) = none := by
      cases x <;> simp [sepHere, hc]
    rw [List.cons_append, sepSplits, hhere, ih (fun hm => hx (List.mem_cons_of_mem c hm))]
    simp [List.map_map, Function.comp_def]

/-- With no separator in `g`, `(.*)__(.*)$` does not match it. -/
theorem greedyFields_one_of_not_mem {g : List Char} (hgu : '_' ∉ g) : greedyFields 1 g = none := by
  simp [greedyFields, sepSplits_eq_nil hgu]

/-- With two separators, a non-empty middle field and a last field without underscores are
split off whole. -/
theorem greedyFields_two {a t g : List Char} (ha : '\n' ∉ a) (ht : '\n' ∉ t) (hg : '\n' ∉ g)
    (htu : '_' ∉ t) (htne : t ≠ []) (hgu : '_' ∉ g) :
    greedyFields 2 (a ++ '_' :: '_' :: (t ++ '_' :: '_' :: g)) = some [a, t, g] := by
  have hthead : (t ++ '_' :: '_' :: g).head? ≠ some '_' := by
    obtain ⟨c, cs, rfl⟩ := List.exists_cons_of_ne_nil htne
    intro h
    exact htu (by simp at h; simp [h])
  have hghead : g.head? ≠ some '_' := fun h => hgu (List.mem_of_mem_head? h)
  obtain ⟨l, hl⟩ := sepSplits_sep_append a hthead
  -- the last split leaves `g`, which has no separator; the one before leaves `t__g`
  have hrev : (sepSplits (a ++ '_' :: '_' :: (t ++ '_' :: '_' :: g))).reverse =
      (a ++ '_' :: '_' :: t, g) :: (a, t ++ '_' :: '_' :: g) :: l.reverse := by
    simp [hl, sepSplits_sep_append_of_not_mem htu hghead, sepSplits_eq_nil hgu]
  have hat : '\n' ∉ a ++ '_' :: '_' :: t := by simp [ha, ht]
  rw [greedyFields, hrev]
  simp only [List.findSome?_cons, all_isDot hat, all_isDot ha, if_true,
    greedyFields_one_of_not_mem hgu, Option.map_none, greedyFields_one ht hg hgu,
    Option.map_some]

/-- A text that starts with `pre` has the captures of what follows. -/
theorem captures_append (pre : String) (n : Nat) (rest : String) :
    captures pre n (pre ++ rest) = (greedyFields n rest.toList).map (·.map String.ofList) := by
  have hpre : pre.toList.isPrefixOf (pre ++ rest).toList = true := by
    rw [String.toList_append, List.isPrefixOf_iff_prefix]
    exact List.prefix_append _ _
  rw [captures, if_pos hpre, String.toList_append, List.drop_left' String.length_toList]

theorem captures_eq_none_of_not_prefix {pre s : String} {n : Nat}
    (h : pre.toList.isPrefixOf s.toList = false) : captures pre n s = none := by
  simp [captures, h]

end Eav

/-! ### Attributes -/

variable {A : Type}

variable (A) in
/-- `Attribute`; the address of a removed link is an `Address`. -/
inductive Attribute
  | crudStatus
  | crudLink
  | entryHeader
  | link
  | linkTag (linkType tag : String)
  | removedLink (address : A) (linkType tag : String)
  | pendingEntry
  | target
  deriving DecidableEq, Repr

/-- `AttributeError`. -/
inductive AttributeError
  | unrecognized (s : String)
  | parseError
  deriving DecidableEq, Repr

/-- `PersistenceError`, the one variant `validate_attribute` returns. -/
inductive PersistenceError
  | errorGeneric (msg : String)
  deriving DecidableEq, Repr

namespace Attribute

variable (addressString : A → String) (addressOf : String → A)

/-- `impl Display for Attribute`; an address is written as its string, and a format string
as the join of its pieces. -/
def toString : Attribute A → String
  | crudStatus => "crud-status"
  | crudLink => "crud-link"
  | entryHeader => "entry-header"
  | link => "link"
  | linkTag linkType tag => String.join ["link__", linkType, "__", tag]
  | removedLink address linkType tag =>
    String.join ["removed_link__", addressString address, "__", linkType, "__", tag]
  | pendingEntry => "pending-entry"
  | target => "target"

/-- `TryFrom<&str> for Attribute`: the link regexes first, then the plain names. A capture
group missing (never the case) is a `ParseError`. -/
def tryFrom (s : String) : Except AttributeError (Attribute A) :=
  match Eav.captures "link__" 1 s with
  | some [linkType, tag] => .ok (.linkTag linkType tag)
  | some _ => .error .parseError
  | none =>
    match Eav.captures "removed_link__" 2 s with
    | some [address, linkType, tag] => .ok (.removedLink (addressOf address) linkType tag)
    | some _ => .error .parseError
    | none =>
      match s with
      | "crud-status" => .ok crudStatus
      | "crud-link" => .ok crudLink
      | "entry-header" => .ok entryHeader
      | "link" => .ok link
      | "pending-entry" => .ok pendingEntry
      | "target" => .ok target
      | a => .error (.unrecognized a)

/-- The character class `[/:*?<>"'\\|+]` of `validate_attribute`. -/
def forbiddenNameChars : List Char :=
  ['/', ':', '*', '?', '<', '>', '\x22', '\x27', '\x5c', '|', '+']

/-- `validate_attribute`: the link type of a link attribute must avoid the forbidden
characters. -/
def validateAttribute : Attribute A → Except PersistenceError Unit
  | linkTag name _ | removedLink _ name _ =>
    if name.toList.any (· ∈ forbiddenNameChars) then
      .error (.errorGeneric "Attribute name invalid")
    else .ok ()
  | _ => .ok ()

/-- A text the link regex matches is read as a link. -/
theorem tryFrom_of_link {s linkType tag : String}
    (h : Eav.captures "link__" 1 s = some [linkType, tag]) :
    tryFrom addressOf s = .ok (linkTag linkType tag) := by
  unfold tryFrom
  rw [h]

/-- A text the removed-link regex matches, and the link regex does not, is read as a
removed link. -/
theorem tryFrom_of_removedLink {s address linkType tag : String}
    (hlink : Eav.captures "link__" 1 s = none)
    (h : Eav.captures "removed_link__" 2 s = some [address, linkType, tag]) :
    tryFrom addressOf s = .ok (removedLink (addressOf address) linkType tag) := by
  unfold tryFrom
  rw [hlink]
  dsimp only
  rw [h]

/-- The attributes without fields are read back from their names. -/
theorem tryFrom_toString_of_plain (a : Attribute A)
    (ha : a ∈ [crudStatus, crudLink, entryHeader, link, pendingEntry, target]) :
    tryFrom addressOf (a.toString addressString) = .ok a := by
  simp only [List.mem_cons, List.not_mem_nil, or_false] at ha
  -- neither regex matches a plain name, so the table of names decides
  rcases ha with rfl | rfl | rfl | rfl | rfl | rfl <;>
  · simp only [toString]
    unfold tryFrom
    rw [Eav.captures_eq_none_of_not_prefix (by decide)]
    dsimp only
    rw [Eav.captures_eq_none_of_not_prefix (by decide)]
    simp

/-- A link attribute is read back when neither field has a line feed and its tag has no
underscore: the last separator is then the one `Display` wrote. -/
theorem tryFrom_toString_linkTag {linkType tag : String} (ht : '\n' ∉ linkType.toList)
    (hg : '\n' ∉ tag.toList) (hgu : '_' ∉ tag.toList) :
    tryFrom addressOf ((linkTag linkType tag : Attribute A).toString addressString) =
      .ok (linkTag linkType tag) := by
  apply tryFrom_of_link
  have hs : (linkTag linkType tag : Attribute A).toString addressString =
      "link__" ++ (linkType ++ "__" ++ tag) := by
    simp [toString, String.join, String.append_assoc]
  rw [hs, Eav.captures_append]
  simp [String.toList_append, Eav.greedyFields_one ht hg hgu, String.ofList_toList]

/-- A removed link is read back when no field has a line feed, its link type is not empty,
neither its link type nor its tag has an underscore, and its address is read back from its
string. -/
theorem tryFrom_toString_removedLink {address : A} {linkType tag : String}
    (hadr : addressOf (addressString address) = address)
    (ha : '\n' ∉ (addressString address).toList) (ht : '\n' ∉ linkType.toList)
    (hg : '\n' ∉ tag.toList) (htu : '_' ∉ linkType.toList) (htne : linkType ≠ "")
    (hgu : '_' ∉ tag.toList) :
    tryFrom addressOf ((removedLink address linkType tag).toString addressString) =
      .ok (removedLink address linkType tag) := by
  have htne' : linkType.toList ≠ [] := fun h => htne (String.toList_inj.mp (by simpa using h))
  have hs : (removedLink address linkType tag).toString addressString =
      "removed_link__" ++ (addressString address ++ "__" ++ (linkType ++ "__" ++ tag)) := by
    simp [toString, String.join, String.append_assoc]
  rw [hs]
  nth_rewrite 2 [← hadr]
  apply tryFrom_of_removedLink
  · -- the text starts with `removed_link__`, not with `link__`
    apply Eav.captures_eq_none_of_not_prefix
    simp [String.toList_append, List.isPrefixOf]
  · rw [Eav.captures_append]
    simp [String.toList_append, Eav.greedyFields_two ha ht hg htu htne' hgu, String.ofList_toList]

end Attribute

/-- The tag `b__c` is accepted by `validate_attribute`, but `link__a__b__c` is split at its
last separator and reads back as the link type `a__b` with the tag `c`. -/
theorem tag_separator_splits_at_last :
    (Attribute.linkTag "a" "b__c" : Attribute String).validateAttribute = .ok () ∧
      Attribute.tryFrom id ((Attribute.linkTag "a" "b__c" : Attribute String).toString id) =
        .ok (.linkTag "a__b" "c") := by
  constructor <;> decide

end Holochain
