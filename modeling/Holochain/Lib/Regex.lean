/-
Regular expressions with named capture groups, matched as a backtracking matcher with
leftmost-first priorities matches them.

`Re.m r s caps k` matches `r` at the start of the text `s` and hands each way it can end,
the rest of the text with the captures so far, to the continuation `k`, in priority order,
until `k` accepts one: an alternation tries its left side first, an option its inner
expression first, a repetition its longest run first. Started with the continuation that
accepts everything, the first answer is the match that leftmost-first search reports at
the start of the text, with its captures (`Re.captures`). A group records the text it
consumed each time the matcher leaves it, so only the groups on the path that matched are
set. Repetition is of one character class, so it never repeats an empty match.

* `m_opt_of_some`, `m_opt_of_none`, `m_opt_of_cont_none`, `m_alt_of_some`, `m_alt_of_none`,
  `m_alt_of_right_none` — which side an option or an alternation answers with;
* `starM_append` — maximal munch: a repetition over a run of its class followed by a
  character outside it answers with the whole run, when the continuation rejects every text
  that starts inside the run;
* `m_group_plus_append` — a group of one or more of a class captures the whole run;
* `FirstIn r P` — `r` fails on every text that does not start with a character of `P`, built up
  along the expression by `firstIn_char`, `FirstIn.seq`, `FirstIn.alt`, `FirstIn.optSeq`.
-/
import Mathlib.Data.List.Basic

namespace Regex

/-- Captured texts by group name, the latest first. -/
abbrev Caps := List (String × List Char)

/-- The text a group captured, if it took part in the match. -/
def Caps.name (caps : Caps) (name : String) : Option (List Char) :=
  caps.lookup name

/-- Regular expressions over character classes. -/
inductive Re
  | empty
  | char (p : Char → Bool)
  | seq (r₁ r₂ : Re)
  | alt (r₁ r₂ : Re)
  | opt (r : Re)
  | star (p : Char → Bool)
  | group (name : String) (r : Re)
  | eos

namespace Re

variable {α : Type}

/-- Greedy repetition of a class: the longest run first. -/
def starM (p : Char → Bool) : List Char → Caps → (List Char → Caps → Option α) → Option α
  | [], caps, k => k [] caps
  | a :: s, caps, k =>
    if p a then (starM p s caps k).orElse fun _ => k (a :: s) caps else k (a :: s) caps

/-- The matcher, in continuation-passing style. -/
def m : Re → List Char → Caps → (List Char → Caps → Option α) → Option α
  | .empty, s, caps, k => k s caps
  | .char _, [], _, _ => none
  | .char p, a :: s, caps, k => if p a then k s caps else none
  | .seq r₁ r₂, s, caps, k => m r₁ s caps fun s' caps' => m r₂ s' caps' k
  | .alt r₁ r₂, s, caps, k => (m r₁ s caps k).orElse fun _ => m r₂ s caps k
  | .opt r, s, caps, k => (m r s caps k).orElse fun _ => k s caps
  | .star p, s, caps, k => starM p s caps k
  | .group name r, s, caps, k =>
    m r s caps fun s' caps' => k s' ((name, s.take (s.length - s'.length)) :: caps')
  | .eos, s, caps, k => if s = [] then k s caps else none

/-- One or more of a class. -/
def plus (p : Char → Bool) : Re :=
  seq (char p) (star p)

/-- The continuation that accepts every way to end. -/
def done : List Char → Caps → Option Caps :=
  fun _ caps => some caps

/-- The captures of the first match of `r` at the start of `s`. -/
def captures (r : Re) (s : List Char) : Option Caps :=
  m r s [] done

/-- Every text that `r` matches a prefix of starts with a character of `P`: `r` fails on the
others, and on the empty text. -/
structure FirstIn (r : Re) (P : Char → Bool) : Prop where
  fails : ∀ {α : Type} (s : List Char) (caps : Caps) (k : List Char → Caps → Option α),
    (∀ a ∈ s.head?, P a = false) → m r s caps k = none

variable {r r₁ r₂ : Re} {p : Char → Bool} {s : List Char} {caps : Caps}
  {k : List Char → Caps → Option α}

@[simp] theorem m_empty : m .empty s caps k = k s caps := rfl

@[simp] theorem m_seq : m (.seq r₁ r₂) s caps k = m r₁ s caps fun s' caps' => m r₂ s' caps' k :=
  rfl

@[simp] theorem m_star : m (.star p) s caps k = starM p s caps k := rfl

theorem starM_cons {a : Char} :
    starM p (a :: s) caps k =
      if p a then (starM p s caps k).orElse (fun _ => k (a :: s) caps) else k (a :: s) caps :=
  rfl

theorem m_char_cons {a : Char} (ha : p a = true) : m (.char p) (a :: s) caps k = k s caps :=
  if_pos ha

/-- A class fails on a text that does not start with one of its characters. -/
theorem m_char_of_head {s : List Char} (hs : ∀ a ∈ s.head?, p a = false) :
    m (.char p) s caps k = none := by
  cases s with
  | nil => rfl
  | cons a s =>
    have ha : p a = false := hs a rfl
    show (if p a then k s caps else none) = none
    rw [ha]
    rfl

theorem m_opt_of_some {a : α} (h : m r s caps k = some a) : m (.opt r) s caps k = some a := by
  show (m r s caps k).orElse (fun _ => k s caps) = some a
  rw [h]
  rfl

theorem m_opt_of_none (h : m r s caps k = none) : m (.opt r) s caps k = k s caps := by
  show (m r s caps k).orElse (fun _ => k s caps) = k s caps
  rw [h]
  rfl

/-- An option whose continuation rejects the text it was given answers as its expression. -/
theorem m_opt_of_cont_none (h : k s caps = none) : m (.opt r) s caps k = m r s caps k := by
  show (m r s caps k).orElse (fun _ => k s caps) = m r s caps k
  rw [h]
  cases m r s caps k <;> rfl

theorem m_alt_of_some {a : α} (h : m r₁ s caps k = some a) :
    m (.alt r₁ r₂) s caps k = some a := by
  show (m r₁ s caps k).orElse (fun _ => m r₂ s caps k) = some a
  rw [h]
  rfl

theorem m_alt_of_none (h : m r₁ s caps k = none) : m (.alt r₁ r₂) s caps k = m r₂ s caps k := by
  show (m r₁ s caps k).orElse (fun _ => m r₂ s caps k) = m r₂ s caps k
  rw [h]
  rfl

/-- An alternation whose right side fails answers as its left side. -/
theorem m_alt_of_right_none (h : m r₂ s caps k = none) : m (.alt r₁ r₂) s caps k = m r₁ s caps k := by
  show (m r₁ s caps k).orElse (fun _ => m r₂ s caps k) = m r₁ s caps k
  rw [h]
  cases m r₁ s caps k <;> rfl

theorem m_group {name : String} :
    m (.group name r) s caps k =
      m r s caps fun s' caps' => k s' ((name, s.take (s.length - s'.length)) :: caps') :=
  rfl

@[simp] theorem m_eos_nil : m .eos [] caps k = k [] caps := rfl

@[simp] theorem m_eos_cons {a : Char} : m .eos (a :: s) caps k = none :=
  if_neg (List.cons_ne_nil a s)

/-- A repetition that cannot start answers with the text it was given. -/
theorem starM_of_head (hs : ∀ a ∈ s.head?, p a = false) : starM p s caps k = k s caps := by
  cases s with
  | nil => rfl
  | cons a s =>
    have ha : p a = false := hs a rfl
    rw [starM_cons, if_neg (by simp [ha])]

/-- Maximal munch: over a run `u` of the class followed by a text `v` it cannot continue
into, the repetition answers as the continuation does on `v`, when the continuation rejects
every text that starts with a character of the class. -/
theorem starM_append {u v : List Char} (hu : ∀ a ∈ u, p a = true)
    (hv : ∀ a ∈ v.head?, p a = false) (hk : ∀ a t, p a = true → k (a :: t) caps = none) :
    starM p (u ++ v) caps k = k v caps := by
  induction u with
  | nil => exact starM_of_head hv
  | cons a u ih =>
    have ha : p a = true := hu a List.mem_cons_self
    have hrest := ih fun b hb => hu b (List.mem_cons_of_mem a hb)
    -- the longest run answers first; the shorter one starting at `a` is rejected
    rw [List.cons_append, starM_cons, if_pos ha, hrest, hk a (u ++ v) ha]
    cases k v caps <;> rfl

/-- The text a group took from `u ++ v`, leaving `v`, is `u`. -/
theorem take_length_sub_append (u v : List Char) :
    (u ++ v).take ((u ++ v).length - v.length) = u := by
  rw [List.length_append, Nat.add_sub_cancel, List.take_left']
  rfl

/-- A group of one or more of a class, over a nonempty run followed by a text the class
cannot continue into, captures the whole run. -/
theorem m_group_plus_append {name : String} {u v : List Char} (hne : u ≠ [])
    (hu : ∀ a ∈ u, p a = true) (hv : ∀ a ∈ v.head?, p a = false)
    (hk : ∀ a t caps', p a = true → k (a :: t) caps' = none) :
    m (.group name (plus p)) (u ++ v) caps k = k v ((name, u) :: caps) := by
  obtain ⟨a, u, rfl⟩ := List.exists_cons_of_ne_nil hne
  have ha : p a = true := hu a List.mem_cons_self
  rw [m_group, plus, m_seq, List.cons_append, m_char_cons ha, m_star]
  refine (starM_append (fun b hb => hu b (List.mem_cons_of_mem a hb)) hv ?_).trans ?_
  · -- a shorter run leaves a character of the class, which the continuation rejects
    intro b t hb
    exact hk b t _ hb
  · rw [← List.cons_append, take_length_sub_append]

/-- A group of one or more of a class fails on a text that does not start with it. -/
theorem m_group_plus_of_head {name : String} (hs : ∀ a ∈ s.head?, p a = false) :
    m (.group name (plus p)) s caps k = none := by
  rw [m_group, plus, m_seq, m_char_of_head hs]

/-- An option of an option answers as the option. -/
theorem m_opt_opt : m (.opt (.opt r)) s caps k = m (.opt r) s caps k := by
  show ((m r s caps k).orElse fun _ => k s caps).orElse (fun _ => k s caps) =
    (m r s caps k).orElse fun _ => k s caps
  -- the outer option only answers when the inner one has failed along with `k`
  cases m r s caps k with
  | none => cases k s caps <;> rfl
  | some a => rfl

/-! ### First characters -/

theorem firstIn_char : FirstIn (.char p) p :=
  ⟨fun _ _ _ hs => m_char_of_head hs⟩

theorem FirstIn.seq {P : Char → Bool} (h : FirstIn r₁ P) : FirstIn (.seq r₁ r₂) P :=
  ⟨fun s caps _ hs => h.fails s caps _ hs⟩

theorem FirstIn.alt {P₁ P₂ : Char → Bool} (h₁ : FirstIn r₁ P₁) (h₂ : FirstIn r₂ P₂) :
    FirstIn (.alt r₁ r₂) fun a => P₁ a || P₂ a := by
  refine ⟨fun s caps k hs => ?_⟩
  have hs₁ : ∀ a ∈ s.head?, P₁ a = false := fun a ha => (Bool.or_eq_false_iff.mp (hs a ha)).1
  have hs₂ : ∀ a ∈ s.head?, P₂ a = false := fun a ha => (Bool.or_eq_false_iff.mp (hs a ha)).2
  rw [m_alt_of_none (h₁.fails s caps k hs₁), h₂.fails s caps k hs₂]

/-- An optional part followed by another starts with a character of either. -/
theorem FirstIn.optSeq {P₁ P₂ : Char → Bool} (h₁ : FirstIn r₁ P₁) (h₂ : FirstIn r₂ P₂) :
    FirstIn (.seq (.opt r₁) r₂) fun a => P₁ a || P₂ a := by
  refine ⟨fun s caps k hs => ?_⟩
  have hs₁ : ∀ a ∈ s.head?, P₁ a = false := fun a ha => (Bool.or_eq_false_iff.mp (hs a ha)).1
  have hs₂ : ∀ a ∈ s.head?, P₂ a = false := fun a ha => (Bool.or_eq_false_iff.mp (hs a ha)).2
  rw [m_seq, m_opt_of_none (h₁.fails s caps _ hs₁), h₂.fails s caps k hs₂]

theorem FirstIn.group {P : Char → Bool} {name : String} (h : FirstIn r P) :
    FirstIn (.group name r) P :=
  ⟨fun s caps _ hs => h.fails s caps _ hs⟩

theorem firstIn_plus : FirstIn (plus p) p :=
  firstIn_char.seq

theorem FirstIn.mono {P Q : Char → Bool} (h : FirstIn r P) (hPQ : ∀ a, Q a = false → P a = false) :
    FirstIn r Q :=
  ⟨fun s caps k hs => h.fails s caps k fun a ha => hPQ a (hs a ha)⟩

end Re

end Regex
