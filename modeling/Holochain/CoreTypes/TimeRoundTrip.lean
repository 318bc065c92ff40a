/-
`Display for Period` round-trips through `FromStr`: every duration, written out, is read back
as itself (`period_fromStr_toString`).

The proof follows the text from its end. The seconds part is matched first, in each of the
four shapes `Display` gives it (`m_secondsRe_secondsText`); then each count before it, from the
minutes out to the years. A count the text leaves out is not matched: what follows it starts
with a count and a unit letter that the left-out unit does not fold with (`CountThen`). The
minutes need more, as their pattern also matches the "m" of a millisecond count; the seconds
pattern then fails on the "s" that is left (`m_secondsRe_of_letter`), and the matcher goes back.
From the captures, `from_str` reads each count back, the fraction filled to nine digits again.

The same steps read counts of any size: `from_str` then adds them up in `u64` arithmetic,
which wraps (`fromStr_unitTexts`), so a count of years that fits a `u64` can still give a
period of a few months (`year_count_overflow_wraps`).

* `m_counted_append`, `m_counted_of_countThen` — a count with its unit, matched or not;
* `captures_periodRe_units`, `captures_periodRe_text` — the captures of the whole text;
* `parseField_toDigits`, `parseField_fraction` — the fields read back.
-/
import Holochain.CoreTypes.Time
import Holochain.Lib.Except

namespace Holochain.Period

open Regex Re

variable {α : Type} {caps : Caps} {k : List Char → Caps → Option α}

/-! ### Characters -/

theorem isDigit_toNat {a : Char} (ha : a.isDigit = true) : 48 ≤ a.toNat ∧ a.toNat ≤ 57 :=
  Char.isDigit_iff_toNat.mp ha

theorem toLower_of_isDigit {a : Char} (ha : a.isDigit = true) : a.toLower = a := by
  have h := isDigit_toNat ha
  -- delta, not rw: an equation lemma made here would be a declaration Mathlib already has
  delta Char.toLower
  rw [dif_neg]
  rintro ⟨hA, -⟩
  have : 'A'.val.toNat ≤ a.val.toNat := hA
  simp at this
  omega

/-- A digit folds with no pattern letter. -/
theorem foldsWith_of_isDigit {letter a : Char} (hl : letter.isDigit = false)
    (ha : a.isDigit = true) : foldsWith letter a = false := by
  have h := isDigit_toNat ha
  have hne : a ≠ letter := by
    rintro rfl
    simp [hl] at ha
  -- the letters beyond ASCII that fold are no digits either
  have hK : a ≠ '\u212A' := fun h' => by subst h'; simp at h
  have hs : a ≠ '\u017F' := fun h' => by subst h'; simp at h
  have hM : a ≠ '\u039C' := fun h' => by subst h'; simp at h
  have hm : a ≠ '\u00B5' := fun h' => by subst h'; simp at h
  simp [foldsWith, toLower_of_isDigit ha, hne, hK, hs, hM, hm]

theorem space_of_isDigit {a : Char} (ha : a.isDigit = true) : space a = false := by
  have h := isDigit_toNat ha
  simp only [space, Bool.or_eq_false_iff, Bool.and_eq_false_iff, decide_eq_false_iff_not,
    beq_eq_false_iff_ne, ne_eq]
  omega

@[simp] theorem digit_eq_isDigit (c : Char) : digit c = c.isDigit :=
  rfl

theorem digit_of_mem_toDigits {n : Nat} {a : Char} (ha : a ∈ Nat.toDigits 10 n) :
    a.isDigit = true :=
  Nat.isDigit_of_mem_toDigits (by decide) (by decide) ha

theorem noDigit_foldsWith {letter : Char} (hl : letter.isDigit = false) :
    ∀ a, a.isDigit = true → foldsWith letter a = false :=
  fun _ => foldsWith_of_isDigit hl

/-! ### Counts -/

/-- The text is empty or starts with a digit: where a count or the end of the text starts. -/
def Boundary (R : List Char) : Prop :=
  ∀ a ∈ R.head?, a.isDigit = true

/-- The text is empty, or a count followed by a letter that `ok` admits with what follows it. -/
def CountThen (ok : Char → List Char → Prop) (T : List Char) : Prop :=
  T = [] ∨ ∃ n c t, T = Nat.toDigits 10 n ++ c :: t ∧ ok c t

/-- A letter after a count that the unit starting with `P` does not read. -/
def Foreign (P : Char → Bool) (c : Char) : Prop :=
  P c = false ∧ c.isDigit = false ∧ space c = false

instance (P : Char → Bool) (c : Char) : Decidable (Foreign P c) :=
  inferInstanceAs (Decidable (_ ∧ _ ∧ _))

theorem boundary_toDigits_append {n : Nat} {t : List Char} : Boundary (Nat.toDigits 10 n ++ t) := by
  intro a ha
  obtain ⟨d, ds, hds⟩ := List.exists_cons_of_ne_nil (Nat.toDigits_ne_nil (n := n) (b := 10))
  rw [hds, List.cons_append, List.head?_cons, Option.mem_some_iff] at ha
  subst ha
  exact digit_of_mem_toDigits (hds ▸ List.mem_cons_self)

theorem Boundary.foldsWith {R : List Char} (hR : Boundary R) {letter : Char}
    (hl : letter.isDigit = false) : ∀ a ∈ R.head?, foldsWith letter a = false :=
  fun a ha => foldsWith_of_isDigit hl (hR a ha)

theorem boundary_nil : Boundary [] :=
  fun a ha => by simp at ha

/-- No mark of the pattern starts a count. -/
theorem Boundary.head_ne {R : List Char} (hR : Boundary R) {c : Char} (hc : c.isDigit = false) :
    ∀ a ∈ R.head?, (a == c) = false := by
  intro a ha
  have hne : a ≠ c := by
    rintro rfl
    simp [hR a ha] at hc
  simp [hne]

theorem CountThen.boundary {ok : Char → List Char → Prop} {T : List Char} (h : CountThen ok T) :
    Boundary T := by
  rcases h with rfl | ⟨n, c, t, rfl, -⟩
  · intro a ha
    simp at ha
  · exact boundary_toDigits_append

theorem CountThen.mono {ok ok' : Char → List Char → Prop} {T : List Char} (h : CountThen ok T)
    (hok : ∀ c t, ok c t → ok' c t) : CountThen ok' T := by
  rcases h with rfl | ⟨n, c, t, rfl, hc⟩
  · exact .inl rfl
  · exact .inr ⟨n, c, t, rfl, hok c t hc⟩

theorem countThen_unitText {ok : Char → List Char → Prop} {n : Nat} {unit : Char} {T : List Char}
    (hunit : ok unit T) (hT : CountThen ok T) : CountThen ok (unitText n unit ++ T) := by
  unfold unitText
  split
  · exact .inr ⟨n, unit, T, by simp, hunit⟩
  · exact hT

/-- A digit-free class: no count starts inside it. -/
theorem firstIn_noDigit {U : Re} {P : Char → Bool} (hU : FirstIn U P)
    (hP : ∀ a, a.isDigit = true → P a = false) {a : Char} {t : List Char} (ha : a.isDigit = true) :
    m U (a :: t) caps k = none :=
  hU.fails _ _ _ fun b hb => by
    rw [List.head?_cons, Option.mem_some_iff] at hb
    exact hb ▸ hP a ha

/-- A count and its unit, over a run of digits that stops at a letter: the group captures the
run and the unit reads on from the letter. -/
theorem m_counted_append {name : String} {U : Re} {P : Char → Bool} {u v : List Char}
    (hne : u ≠ []) (hu : ∀ a ∈ u, a.isDigit = true)
    (hv : ∀ a ∈ v.head?, a.isDigit = false ∧ space a = false) (hU : FirstIn U P)
    (hP : ∀ a, a.isDigit = true → P a = false) :
    m (counted name U) (u ++ v) caps k = m U v ((name, u) :: caps) k := by
  obtain ⟨d, ds, rfl⟩ := List.exists_cons_of_ne_nil hne
  have hd : space d = false := space_of_isDigit (hu d List.mem_cons_self)
  rw [counted, m_seq, m_star, starM_of_head (by simpa using hd)]
  rw [m_seq, m_group_plus_append (p := digit) hne hu (fun a ha => (hv a ha).1)]
  · rw [m_seq, m_star, starM_of_head fun a ha => (hv a ha).2]
  · -- a shorter run leaves a digit, which the unit does not read
    intro a t caps' ha
    rw [m_seq, m_star, starM_of_head (by simpa using space_of_isDigit ha)]
    exact firstIn_noDigit hU hP ha

theorem m_counted_toDigits {name : String} {U : Re} {P : Char → Bool} {n : Nat} {v : List Char}
    (hv : ∀ a ∈ v.head?, a.isDigit = false ∧ space a = false) (hU : FirstIn U P)
    (hP : ∀ a, a.isDigit = true → P a = false) :
    m (counted name U) (Nat.toDigits 10 n ++ v) caps k =
      m U v ((name, Nat.toDigits 10 n) :: caps) k :=
  m_counted_append Nat.toDigits_ne_nil (fun _ => digit_of_mem_toDigits) hv hU hP

/-- A count cannot start on a text without a leading digit. -/
theorem m_counted_of_head {name : String} {U : Re} {s : List Char}
    (hs : ∀ a ∈ s.head?, a.isDigit = false ∧ space a = false) :
    m (counted name U) s caps k = none := by
  rw [counted, m_seq, m_star, starM_of_head fun a ha => (hs a ha).2, m_seq,
    m_group_plus_of_head (p := digit) fun a ha => (hs a ha).1]

/-- A count fails on a text that is empty or has a count of another unit. -/
theorem m_counted_of_countThen {name : String} {U : Re} {P : Char → Bool} {T : List Char}
    (hU : FirstIn U P) (hP : ∀ a, a.isDigit = true → P a = false)
    (hT : CountThen (fun c _ => Foreign P c) T) : m (counted name U) T caps k = none := by
  rcases hT with rfl | ⟨n, c, t, rfl, hc, hcd, hcs⟩
  · exact m_counted_of_head fun a ha => by simp at ha
  · have hv : ∀ a ∈ (c :: t).head?, a.isDigit = false ∧ space a = false := by
      simpa using And.intro hcd hcs
    rw [m_counted_toDigits hv hU hP]
    exact hU.fails _ _ _ (by simpa using hc)

/-- An optional count over a count, its unit and the rest: the unit reads up to the rest, on
which the continuation answers. -/
theorem m_opt_counted_of_reads {name : String} {U : Re} {P : Char → Bool} {n : Nat}
    {v R : List Char} {a : α} (hv : ∀ a ∈ v.head?, a.isDigit = false ∧ space a = false)
    (hU : FirstIn U P) (hP : ∀ a, a.isDigit = true → P a = false)
    (hreads : m U v ((name, Nat.toDigits 10 n) :: caps) k =
      k R ((name, Nat.toDigits 10 n) :: caps))
    (hk : k R ((name, Nat.toDigits 10 n) :: caps) = some a) :
    m (.opt (counted name U)) (Nat.toDigits 10 n ++ v) caps k = some a := by
  apply m_opt_of_some
  rw [m_counted_toDigits hv hU hP, hreads, hk]

/-! ### Units -/

theorem firstIn_ci (letter : Char) : FirstIn (ci letter) (foldsWith letter) :=
  firstIn_char

theorem firstIn_word (letter : Char) (letters : List Char) :
    FirstIn (word (letter :: letters)) (foldsWith letter) :=
  firstIn_char.seq

theorem firstIn_longUnit {u z : Char} {mid : List Char} :
    FirstIn (longUnit u mid z) (foldsWith u) :=
  firstIn_char.seq

theorem firstIn_minuteUnit : FirstIn minuteUnit (foldsWith 'm') :=
  firstIn_char.seq

theorem firstIn_secondUnit : FirstIn secondUnit (foldsWith 's') :=
  firstIn_char.seq

theorem firstIn_millisecondUnit : FirstIn millisecondUnit (foldsWith 'm') :=
  ((firstIn_ci 'm').alt (firstIn_word 'm' _)).seq.mono fun a ha => by simp [ha]

theorem firstIn_microsecondUnit :
    FirstIn microsecondUnit fun a => foldsWith 'u' a || foldsWith '\u03BC' a || foldsWith 'm' a :=
  ((firstIn_ci 'u').alt ((firstIn_ci _).alt (firstIn_word 'm' _))).seq.mono fun a ha => by
    simpa [Bool.or_assoc] using ha

theorem firstIn_nanosecondUnit : FirstIn nanosecondUnit (foldsWith 'n') :=
  ((firstIn_ci 'n').alt (firstIn_word 'n' _)).seq.mono fun a ha => by simp [ha]

theorem noDigit_microsecondUnit :
    ∀ a, a.isDigit = true → (foldsWith 'u' a || foldsWith '\u03BC' a || foldsWith 'm' a) = false :=
  fun _ ha => by
    simp [noDigit_foldsWith (by decide : 'u'.isDigit = false) _ ha,
      noDigit_foldsWith (by decide : '\u03BC'.isDigit = false) _ ha,
      noDigit_foldsWith (by decide : 'm'.isDigit = false) _ ha]

/-- The letter of a unit, with no long form after it: the unit reads it alone. -/
theorem m_longUnit_cons {u c m₀ z : Char} {mid R : List Char} (hc : foldsWith u c = true)
    (hm₀ : m₀.isDigit = false) (hz : z.isDigit = false) (hR : Boundary R) :
    m (longUnit u (m₀ :: mid) z) (c :: R) caps k = k R caps := by
  have hlong : FirstIn (.seq (.seq (.opt (word (m₀ :: mid))) (ci z)) (.opt (ci 's')))
      fun a => foldsWith m₀ a || foldsWith z a :=
    ((firstIn_word m₀ mid).optSeq (firstIn_ci z)).seq
  rw [longUnit, m_seq, ci, m_char_cons hc, m_opt_opt, m_opt_of_none]
  exact hlong.fails _ _ _ fun a ha => by simp [hR.foldsWith hm₀ a ha, hR.foldsWith hz a ha]

theorem m_minuteUnit_cons {c : Char} {R : List Char} (hc : foldsWith 'm' c = true)
    (hR : ∀ a ∈ R.head?, foldsWith 'i' a = false) : m minuteUnit (c :: R) caps k = k R caps := by
  rw [minuteUnit, m_seq, ci, m_char_cons hc, m_opt_of_none]
  exact (firstIn_word 'i' ['n']).seq.seq.fails _ _ _ hR

theorem m_secondUnit_cons {c : Char} {R : List Char} (hc : foldsWith 's' c = true)
    (hR : ∀ a ∈ R.head?, foldsWith 'e' a = false) : m secondUnit (c :: R) caps k = k R caps := by
  rw [secondUnit, m_seq, ci, m_char_cons hc, m_opt_of_none]
  exact (firstIn_word 'e' ['c']).seq.seq.fails _ _ _ hR

theorem m_millisecondUnit {R : List Char} (hR : Boundary R) :
    m millisecondUnit ('m' :: 's' :: R) caps k = k R caps := by
  rw [millisecondUnit, m_seq, m_alt_of_right_none, ci, m_char_cons (by decide),
    m_secondUnit_cons (by decide) (hR.foldsWith (by decide))]
  -- "milli" stops at the "s"
  rw [word, m_seq, ci, m_char_cons (by decide)]
  exact (firstIn_word 'i' _).fails _ _ _ (by simp; decide)

theorem m_microsecondUnit {R : List Char} (hR : Boundary R) :
    m microsecondUnit ('u' :: 's' :: R) caps k = k R caps := by
  rw [microsecondUnit, m_seq, m_alt_of_right_none, ci, m_char_cons (by decide),
    m_secondUnit_cons (by decide) (hR.foldsWith (by decide))]
  exact ((firstIn_ci _).alt (firstIn_word 'm' _)).fails _ _ _ (by simp; decide)

theorem m_nanosecondUnit {R : List Char} (hR : Boundary R) :
    m nanosecondUnit ('n' :: 's' :: R) caps k = k R caps := by
  rw [nanosecondUnit, m_seq, m_alt_of_right_none, ci, m_char_cons (by decide),
    m_secondUnit_cons (by decide) (hR.foldsWith (by decide))]
  -- "nano" stops at the "s"
  rw [word, m_seq, ci, m_char_cons (by decide)]
  exact (firstIn_word 'a' _).fails _ _ _ (by simp; decide)

/-! ### Seconds -/

/-- What the seconds pattern matches after the seconds: blanks, then the end of the text. -/
def atEnd : List Char → Caps → Option Caps :=
  fun s caps => m (.seq (.star space) .eos) s caps done

theorem atEnd_nil : atEnd [] caps = some caps := by
  rw [atEnd, m_seq, m_star, starM, m_eos_nil]
  rfl

theorem atEnd_cons {a : Char} {t : List Char} (ha : space a = false) : atEnd (a :: t) caps = none := by
  rw [atEnd, m_seq, m_star, starM_of_head (by simpa using ha), m_eos_cons]

theorem m_secondsRe (s : List Char) :
    m secondsRe s caps done = m (.alt (.opt fractionalSeconds) subseconds) s caps atEnd := by
  rw [secondsRe, m_seq]
  rfl

theorem dot_of_isDigit {a : Char} (ha : a.isDigit = true) : (a == '.' || a == ',') = false := by
  have h := isDigit_toNat ha
  have h₁ : a ≠ '.' := fun h' => by subst h'; simp at h
  have h₂ : a ≠ ',' := fun h' => by subst h'; simp at h
  simp [h₁, h₂]

/-- Fractional seconds fail on a run of digits, perhaps empty, that stops at another letter than
the decimal mark. -/
theorem m_fractionalSeconds_append {u t : List Char} {c : Char} (hu : ∀ a ∈ u, a.isDigit = true)
    (hc : c.isDigit = false ∧ space c = false ∧ (c == '.' || c == ',') = false) :
    m fractionalSeconds (u ++ c :: t) caps k = none := by
  obtain ⟨hcd, hcs, hcdot⟩ := hc
  rw [fractionalSeconds, m_seq, m_star]
  rcases u with _ | ⟨d, ds⟩
  · rw [List.nil_append, starM_of_head (by simpa using hcs), m_seq,
      m_opt_of_none (m_group_plus_of_head (p := digit) (by simpa using hcd)), m_seq,
      m_char_of_head (by simpa using hcdot)]
  · have hd : d.isDigit = true := hu d List.mem_cons_self
    rw [starM_of_head (by simpa using space_of_isDigit hd), m_seq,
      m_opt_of_cont_none (by rw [m_seq, List.cons_append, m_char_of_head (by simpa using dot_of_isDigit hd)])]
    rw [m_group_plus_append (p := digit) (List.cons_ne_nil d ds) hu (by simpa using hcd)]
    · rw [m_seq, m_char_of_head (by simpa using hcdot)]
    · intro a t' caps' ha
      rw [m_seq, m_char_of_head (by simpa using dot_of_isDigit ha)]

theorem m_fractionalSeconds_nil : m fractionalSeconds [] caps k = none := by
  rw [fractionalSeconds, m_seq, m_star, starM, m_seq,
    m_opt_of_none (m_group_plus_of_head (p := digit) (by simp)), m_seq, m_char_of_head (by simp)]

/-- Fractional seconds over the seconds, the decimal mark, the digits of the fraction and the
unit. -/
theorem m_fractionalSeconds_text {x : Nat} {F : List Char} (hF : F ≠ [])
    (hFd : ∀ a ∈ F, a.isDigit = true) :
    m fractionalSeconds (Nat.toDigits 10 x ++ '.' :: (F ++ ['s'])) caps k =
      k [] (("s_fra", F) :: ("s_man", Nat.toDigits 10 x) :: caps) := by
  have hx := boundary_toDigits_append (n := x) (t := '.' :: (F ++ ['s']))
  obtain ⟨d, ds, hds⟩ := List.exists_cons_of_ne_nil (Nat.toDigits_ne_nil (n := x) (b := 10))
  have hd : d.isDigit = true := hx d (by simp [hds])
  rw [fractionalSeconds, m_seq, m_star, hds, List.cons_append,
    starM_of_head (by simpa using space_of_isDigit hd), ← List.cons_append, ← hds, m_seq]
  rw [m_opt_of_cont_none (by
    rw [m_seq, hds, List.cons_append, m_char_of_head (by simpa using dot_of_isDigit hd)])]
  rw [m_group_plus_append (p := digit) Nat.toDigits_ne_nil (fun _ => digit_of_mem_toDigits)
    (by simp)]
  · -- the decimal mark, then the fraction up to the unit
    rw [m_seq, m_char_cons (by decide), m_seq,
      m_group_plus_append (p := digit) hF hFd (by simp)]
    · rw [m_seq, m_star, starM_of_head (by simp; decide), m_secondUnit_cons (by decide) (by simp)]
    · intro a t caps' ha
      rw [m_seq, m_star, starM_of_head (by simpa using space_of_isDigit ha)]
      exact firstIn_noDigit firstIn_secondUnit (noDigit_foldsWith (by decide)) ha
  · intro a t caps' ha
    rw [m_seq, m_char_of_head (by simpa using dot_of_isDigit ha)]

theorem atEnd_toDigits_append {n : Nat} {t : List Char} :
    atEnd (Nat.toDigits 10 n ++ t) caps = none := by
  obtain ⟨d, ds, hds⟩ := List.exists_cons_of_ne_nil (Nat.toDigits_ne_nil (n := n) (b := 10))
  have hd : d.isDigit = true := boundary_toDigits_append (n := n) (t := t) d (by simp [hds])
  rw [hds, List.cons_append, atEnd_cons (space_of_isDigit hd)]

/-- Fractional seconds fail on a text without a decimal mark after its count. -/
theorem m_fractionalSeconds_of_countThen {T : List Char}
    (hT : CountThen (fun c _ => c.isDigit = false ∧ space c = false ∧ (c == '.' || c == ',') = false) T) :
    m fractionalSeconds T caps k = none := by
  rcases hT with rfl | ⟨n, c, t, rfl, hc⟩
  · exact m_fractionalSeconds_nil
  · exact m_fractionalSeconds_append (fun _ => digit_of_mem_toDigits) hc

/-! ### Sub-seconds -/

/-- The captures of `subsecondText`. -/
def subsecondCaps (nsecs : Nat) : Caps :=
  if 0 < nsecs % 1000 then [("ns", Nat.toDigits 10 nsecs)]
  else if 0 < nsecs / 1000 % 1000 then [("us", Nat.toDigits 10 (nsecs / 1000))]
  else if 0 < nsecs / 1000000 then [("ms", Nat.toDigits 10 (nsecs / 1000000))]
  else []

/-- The sub-seconds are empty or a count with one of the units ns, us and ms. -/
theorem countThen_subsecondText (nsecs : Nat) :
    CountThen (fun c t => (c = 'n' ∨ c = 'u' ∨ c = 'm') ∧ t = ['s']) (subsecondText nsecs) := by
  unfold subsecondText
  split_ifs
  · exact .inr ⟨_, 'n', ['s'], rfl, by simp⟩
  · exact .inr ⟨_, 'u', ['s'], rfl, by simp⟩
  · exact .inr ⟨_, 'm', ['s'], rfl, by simp⟩
  · exact .inl rfl

theorem subsecondText_ne_nil {nsecs : Nat} (h : 0 < nsecs) : subsecondText nsecs ≠ [] := by
  unfold subsecondText
  split_ifs <;> simp
  omega

theorem m_subsecondCounts_of_head {s : List Char}
    (hs : ∀ a ∈ s.head?, a.isDigit = false ∧ space a = false) :
    m subsecondCounts s caps k = k s caps := by
  rw [subsecondCounts, m_seq, m_opt_of_none (m_counted_of_head hs), m_seq,
    m_opt_of_none (m_counted_of_head hs), m_opt_of_none (m_counted_of_head hs)]

theorem m_subsecondCounts_subsecondText (nsecs : Nat) :
    m subsecondCounts (subsecondText nsecs) caps atEnd = some (subsecondCaps nsecs ++ caps) := by
  have hnil : ∀ a ∈ ([] : List Char).head?, a.isDigit = false ∧ space a = false := by simp
  unfold subsecondText subsecondCaps
  split_ifs
  · -- nanoseconds: milliseconds and microseconds do not read the "n"
    rw [subsecondCounts, m_seq, m_opt_of_none (m_counted_of_countThen firstIn_millisecondUnit
      (noDigit_foldsWith (by decide)) (.inr ⟨_, 'n', ['s'], rfl, by decide⟩)), m_seq,
      m_opt_of_none (m_counted_of_countThen firstIn_microsecondUnit noDigit_microsecondUnit
        (.inr ⟨_, 'n', ['s'], rfl, by decide⟩))]
    exact m_opt_counted_of_reads (by simp; decide) firstIn_nanosecondUnit
      (noDigit_foldsWith (by decide)) (m_nanosecondUnit boundary_nil) atEnd_nil
  · -- microseconds
    rw [List.singleton_append, subsecondCounts, m_seq, m_opt_of_none (m_counted_of_countThen firstIn_millisecondUnit
      (noDigit_foldsWith (by decide)) (.inr ⟨_, 'u', ['s'], rfl, by decide⟩)), m_seq]
    exact m_opt_counted_of_reads (by simp; decide) firstIn_microsecondUnit
      noDigit_microsecondUnit (m_microsecondUnit boundary_nil)
      (by rw [m_opt_of_none (m_counted_of_head hnil), atEnd_nil])
  · -- milliseconds
    rw [List.singleton_append, subsecondCounts, m_seq]
    exact m_opt_counted_of_reads (by simp; decide) firstIn_millisecondUnit
      (noDigit_foldsWith (by decide)) (m_millisecondUnit boundary_nil)
      (by rw [m_seq, m_opt_of_none (m_counted_of_head hnil), m_opt_of_none (m_counted_of_head hnil),
        atEnd_nil])
  · rw [m_subsecondCounts_of_head hnil, atEnd_nil, List.nil_append]

theorem m_seq_opt_colon {r : Re} {s : List Char} (hs : ∀ a ∈ s.head?, (a == ':') = false) :
    m (.seq (.opt (.char (· == ':'))) r) s caps k = m r s caps k := by
  rw [m_seq, m_opt_of_none (m_char_of_head hs)]

/-- Sub-seconds without whole seconds: the seconds count does not read the sub-second unit. -/
theorem m_subseconds_subsecondText (nsecs : Nat) :
    m subseconds (subsecondText nsecs) caps atEnd = some (subsecondCaps nsecs ++ caps) := by
  have hT := countThen_subsecondText nsecs
  rw [subseconds, m_seq, m_opt_of_none, m_subsecondCounts_subsecondText]
  rw [m_seq_opt_colon (hT.boundary.head_ne (by decide))]
  refine m_counted_of_countThen firstIn_secondUnit (noDigit_foldsWith (by decide)) (hT.mono ?_)
  rintro c t ⟨rfl | rfl | rfl, -⟩ <;> decide

/-- Whole seconds, then the sub-seconds. -/
theorem m_subseconds_seconds (x nsecs : Nat) :
    m subseconds (Nat.toDigits 10 x ++ 's' :: subsecondText nsecs) caps atEnd =
      some (subsecondCaps nsecs ++ ("s", Nat.toDigits 10 x) :: caps) := by
  rw [subseconds, m_seq]
  apply m_opt_of_some
  rw [m_seq_opt_colon (boundary_toDigits_append.head_ne (by decide)),
    m_counted_toDigits (by simp; decide) firstIn_secondUnit (noDigit_foldsWith (by decide)),
    m_secondUnit_cons (by decide) ((countThen_subsecondText nsecs).boundary.foldsWith (by decide))]
  exact m_subsecondCounts_subsecondText nsecs

/-! ### Fractions -/

theorem leftpad_digits {n x : Nat} : ∀ a ∈ List.leftpad n '0' (Nat.toDigits 10 x), a.isDigit = true := by
  intro a ha
  rw [List.leftpad, List.mem_append] at ha
  rcases ha with ha | ha
  · rw [(List.mem_replicate.mp ha).2]
    decide
  · exact digit_of_mem_toDigits ha

/-- Leading zeros do not change the value of a count. -/
theorem ofDigitChars_leftpad (n x : Nat) :
    Nat.ofDigitChars 10 (List.leftpad n '0' (Nat.toDigits 10 x)) 0 = x := by
  rw [List.leftpad, Nat.ofDigitChars_append, Nat.ofDigitChars_replicate_zero, Nat.mul_zero,
    Nat.ofDigitChars_ten_toDigits]

theorem fractionText_digits {nsecs : Nat} : ∀ a ∈ fractionText nsecs, a.isDigit = true :=
  fun a ha => leftpad_digits a ((List.rdropWhile_prefix _ _).subset ha)

/-- Trimming the zeros of a fraction that is not zero leaves a digit. -/
theorem fractionText_ne_nil {nsecs : Nat} (h : 0 < nsecs) : fractionText nsecs ≠ [] := by
  intro hnil
  rw [fractionText, List.rdropWhile_eq_nil_iff] at hnil
  have hzeros : List.leftpad 9 '0' (Nat.toDigits 10 nsecs) =
      List.replicate (List.leftpad 9 '0' (Nat.toDigits 10 nsecs)).length '0' :=
    List.eq_replicate_iff.mpr ⟨rfl, fun a ha => by simpa using hnil a ha⟩
  have hvalue := ofDigitChars_leftpad 9 nsecs
  rw [hzeros, Nat.ofDigitChars_replicate_zero] at hvalue
  omega

/-- The fraction, cut or filled to nine digits, is the nanoseconds with their leading zeros. -/
theorem rightpad_fractionText {nsecs : Nat} (h : nsecs < 1000000000) :
    List.rightpad 9 '0' ((fractionText nsecs).take 9) = List.leftpad 9 '0' (Nat.toDigits 10 nsecs) := by
  set L := List.leftpad 9 '0' (Nat.toDigits 10 nsecs) with hL
  have hlen : L.length = 9 := by
    have hdigits : (Nat.toDigits 10 nsecs).length ≤ 9 :=
      (Nat.length_toDigits_le_iff (by decide) (by decide)).mpr (by simpa using h)
    rw [hL, List.length_leftpad]
    omega
  -- the trimmed zeros are what the filling puts back
  have hsplit := List.rdropWhile_append_rtakeWhile (p := (· == '0')) (l := L)
  have hzeros : L.rtakeWhile (· == '0') = List.replicate (L.rtakeWhile (· == '0')).length '0' :=
    List.eq_replicate_iff.mpr ⟨rfl, fun a ha => by simpa using List.mem_rtakeWhile_imp ha⟩
  have hsum : (fractionText nsecs).length + (L.rtakeWhile (· == '0')).length = 9 := by
    rw [← hlen, ← List.length_append]
    exact congrArg List.length hsplit
  rw [List.take_of_length_le (by omega), List.rightpad]
  calc fractionText nsecs ++ List.replicate (9 - (fractionText nsecs).length) '0'
      = L.rdropWhile (· == '0') ++ L.rtakeWhile (· == '0') := by
        rw [hzeros, show 9 - (fractionText nsecs).length = (L.rtakeWhile (· == '0')).length by omega]
        rfl
    _ = L := hsplit

/-! ### The seconds pattern -/

/-- The captures of `secondsText`. -/
def secondsCaps (secs s nsecs : Nat) : Caps :=
  if 0 < nsecs / 1000000 ∧ (0 < s ∨ 0 < nsecs % 1000) then
    [("s_fra", fractionText nsecs), ("s_man", Nat.toDigits 10 s)]
  else if 0 < nsecs ∨ 0 < s then
    subsecondCaps nsecs ++ if 0 < s then [("s", Nat.toDigits 10 s)] else []
  else if nsecs = 0 ∧ secs = 0 then [("s", ['0'])]
  else []

/-- The seconds pattern over each shape of the seconds part. -/
theorem m_secondsRe_secondsText (secs s nsecs : Nat) :
    m secondsRe (secondsText secs s nsecs) caps done = some (secondsCaps secs s nsecs ++ caps) := by
  have hsub := countThen_subsecondText nsecs
  rw [m_secondsRe]
  unfold secondsText secondsCaps
  split_ifs with hfrac hsome hs hzero
  · -- fractional seconds: the first alternative matches
    apply m_alt_of_some
    rw [m_opt_of_cont_none atEnd_toDigits_append,
      m_fractionalSeconds_text (fractionText_ne_nil (by omega)) fractionText_digits, atEnd_nil]
    rfl
  · -- whole seconds and sub-seconds: no decimal mark, so the second alternative
    rw [List.append_assoc, List.singleton_append, List.append_assoc, List.singleton_append,
      m_alt_of_none, m_subseconds_seconds]
    rw [m_opt_of_none (m_fractionalSeconds_append (fun _ => digit_of_mem_toDigits) (by decide)),
      atEnd_toDigits_append]
  · -- sub-seconds alone
    have hne := subsecondText_ne_nil (by omega : 0 < nsecs)
    rcases hsub with hnil | ⟨n, c, t, htext, hc, -⟩
    · exact absurd hnil hne
    rw [List.nil_append, List.append_nil, m_alt_of_none, m_subseconds_subsecondText]
    rw [m_opt_of_none (m_fractionalSeconds_of_countThen (.inr ⟨n, c, t, htext, by
      rcases hc with rfl | rfl | rfl <;> decide⟩)), htext, atEnd_toDigits_append]
  · -- the zero period, "0s"
    have h0 : m subseconds (Nat.toDigits 10 0 ++ 's' :: subsecondText 0) caps atEnd =
        some (subsecondCaps 0 ++ ("s", Nat.toDigits 10 0) :: caps) :=
      m_subseconds_seconds 0 0
    simp only [Nat.toDigits_zero, subsecondText, subsecondCaps, Nat.lt_irrefl, if_false,
      Nat.zero_mod, Nat.zero_div, List.nil_append, List.cons_append] at h0
    rw [m_alt_of_none, h0]
    · rfl
    rw [m_opt_of_none (m_fractionalSeconds_of_countThen (T := ['0', 's'])
      (.inr ⟨0, 's', [], rfl, by decide⟩))]
    exact atEnd_cons (by decide)
  · -- nothing after the minutes: the first alternative matches the empty text
    exact m_alt_of_some (by rw [m_opt_of_none m_fractionalSeconds_nil, atEnd_nil]; rfl)

/-- The seconds pattern fails on a text that starts with a letter: what the minutes pattern
leaves when it reads the "m" of a millisecond count. -/
theorem m_secondsRe_of_letter {c : Char} {t : List Char}
    (hc : c.isDigit = false ∧ space c = false ∧ (c == '.' || c == ',') = false ∧
      (c == ':') = false) :
    m secondsRe (c :: t) caps done = none := by
  obtain ⟨hcd, hcs, hcdot, hcolon⟩ := hc
  have hhead : ∀ a ∈ (c :: t).head?, a.isDigit = false ∧ space a = false := by
    simpa using And.intro hcd hcs
  have hfrac : m fractionalSeconds ([] ++ c :: t) caps atEnd = none :=
    m_fractionalSeconds_append (by simp) ⟨hcd, hcs, hcdot⟩
  rw [List.nil_append] at hfrac
  rw [m_secondsRe, m_alt_of_none (by rw [m_opt_of_none hfrac, atEnd_cons hcs]), subseconds, m_seq,
    m_opt_of_none (by rw [m_seq_opt_colon (by simpa using hcolon), m_counted_of_head hhead]),
    m_subsecondCounts_of_head hhead, atEnd_cons hcs]

/-! ### The counts before the seconds -/

/-- The capture of a count, when `Display` writes it. -/
def countCaps (name : String) (n : Nat) : Caps :=
  if 0 < n then [(name, Nat.toDigits 10 n)] else []

/-- After its count, the seconds part has a decimal mark, an "s", or a sub-second unit. -/
theorem countThen_secondsText (secs s nsecs : Nat) :
    CountThen (fun c t => c = '.' ∨ c = 's' ∨ (c = 'n' ∨ c = 'u' ∨ c = 'm') ∧ t = ['s'])
      (secondsText secs s nsecs) := by
  unfold secondsText
  split_ifs with hfrac hsome hs
  · exact .inr ⟨s, '.', _, rfl, .inl rfl⟩
  · exact .inr ⟨s, 's', subsecondText nsecs, by simp, .inr (.inl rfl)⟩
  · rw [List.nil_append]
    exact (countThen_subsecondText nsecs).mono fun c t hc => .inr (.inr hc)
  · exact .inr ⟨0, 's', [], rfl, .inr (.inl rfl)⟩
  · exact .inl rfl

/-- No unit before the seconds reads a letter of the seconds part. -/
theorem countThen_secondsText_foreign {u : Char} (secs s nsecs : Nat)
    (hu : ∀ c ∈ ['.', 's', 'n', 'u', 'm'], Foreign (foldsWith u) c) :
    CountThen (fun c _ => Foreign (foldsWith u) c) (secondsText secs s nsecs) :=
  (countThen_secondsText secs s nsecs).mono fun c _ hc =>
    hu c (by rcases hc with rfl | rfl | ⟨rfl | rfl | rfl, -⟩ <;> simp)

/-- An optional count of years, weeks, days or hours: matched when `Display` writes it, and
skipped over the count of a later unit otherwise. -/
theorem m_seq_opt_longUnit {name : String} {u m₀ z : Char} {mid : List Char} {rest : Re} {n : Nat}
    {R : List Char} {X : Caps} (hu : foldsWith u u = true ∧ u.isDigit = false ∧ space u = false)
    (hm₀ : m₀.isDigit = false) (hz : z.isDigit = false)
    (hR : CountThen (fun c _ => Foreign (foldsWith u) c) R)
    (hrest : ∀ caps', m rest R caps' done = some (X ++ caps')) :
    m (.seq (.opt (counted name (longUnit u (m₀ :: mid) z))) rest) (unitText n u ++ R) caps done =
      some (X ++ countCaps name n ++ caps) := by
  obtain ⟨huu, hud, hus⟩ := hu
  rw [m_seq]
  unfold unitText countCaps
  split_ifs
  · rw [List.append_assoc, List.singleton_append]
    refine m_opt_counted_of_reads (by simpa using And.intro hud hus) firstIn_longUnit
      (noDigit_foldsWith hud) (m_longUnit_cons huu hm₀ hz hR.boundary) ?_
    rw [hrest, List.append_assoc, List.singleton_append]
  · rw [List.nil_append, m_opt_of_none (m_counted_of_countThen firstIn_longUnit
      (noDigit_foldsWith hud) hR), hrest, List.append_nil]

/-- The minutes, then the seconds. Without minutes, the minutes pattern may still read the "m"
of a millisecond count; the seconds pattern then fails on the "s" left over. -/
theorem m_minutes_secondsText (minutes secs s nsecs : Nat) :
    m (.seq (.opt (counted "m" minuteUnit)) secondsRe) (unitText minutes 'm' ++ secondsText secs s nsecs)
      caps done = some (secondsCaps secs s nsecs ++ countCaps "m" minutes ++ caps) := by
  have hS := countThen_secondsText secs s nsecs
  rw [m_seq]
  unfold unitText countCaps
  split_ifs
  · rw [List.append_assoc, List.singleton_append]
    refine m_opt_counted_of_reads (by simp; decide) firstIn_minuteUnit
      (noDigit_foldsWith (by decide))
      (m_minuteUnit_cons (by decide) (hS.boundary.foldsWith (by decide))) ?_
    rw [m_secondsRe_secondsText, List.append_assoc, List.singleton_append]
  · rw [List.nil_append, m_opt_of_none, m_secondsRe_secondsText, List.append_nil]
    rcases hS with hnil | ⟨n, c, t, htext, hc⟩
    · rw [hnil]
      exact m_counted_of_head (by simp)
    have hcletter : c.isDigit = false ∧ space c = false := by
      rcases hc with rfl | rfl | ⟨rfl | rfl | rfl, -⟩ <;> decide
    rw [htext, m_counted_toDigits (by simpa using hcletter) firstIn_minuteUnit
      (noDigit_foldsWith (by decide))]
    rcases hc with rfl | rfl | ⟨rfl | rfl | rfl, rfl⟩
    · exact firstIn_minuteUnit.fails _ _ _ (by simp; decide)
    · exact firstIn_minuteUnit.fails _ _ _ (by simp; decide)
    · exact firstIn_minuteUnit.fails _ _ _ (by simp; decide)
    · exact firstIn_minuteUnit.fails _ _ _ (by simp; decide)
    · -- the "m" of a millisecond count
      rw [m_minuteUnit_cons (by decide) (by simp; decide)]
      exact m_secondsRe_of_letter (by decide)

/-! ### The whole text -/

/-- The captures of `Display for Period`, the latest first. -/
def textCaps (p : Period) : Caps :=
  let secs := p.duration.secs
  let ySecs := secs % yr
  let wSecs := ySecs % wk
  let dSecs := wSecs % dy
  let hSecs := dSecs % hr
  secondsCaps secs (hSecs % mn) p.duration.nanos ++ countCaps "m" (hSecs / mn) ++
    countCaps "h" (dSecs / hr) ++ countCaps "d" (wSecs / dy) ++ countCaps "w" (ySecs / wk) ++
    countCaps "y" (secs / yr)

/-- `PERIOD_RE` matches counts of years, weeks, days, hours and minutes as `Display` writes
them, of any size, then a seconds part, with the captures of each count. -/
theorem captures_periodRe_units (y w d h mi secs s nsecs : Nat) :
    periodRe.captures (unitText y 'y' ++ unitText w 'w' ++ unitText d 'd' ++ unitText h 'h' ++
        unitText mi 'm' ++ secondsText secs s nsecs) =
      some (secondsCaps secs s nsecs ++ countCaps "m" mi ++ countCaps "h" h ++ countCaps "d" d ++
        countCaps "w" w ++ countCaps "y" y) := by
  -- the letters are checked as a Bool: a bounded Prop quantifier over Char can be decided by
  -- enumerating every Char, the instance Batteries gives once it is imported
  have hS : ∀ u, (['.', 's', 'n', 'u', 'm'].all fun c => decide (Foreign (foldsWith u) c)) →
      CountThen (fun c _ => Foreign (foldsWith u) c) (secondsText secs s nsecs) :=
    fun u hu => countThen_secondsText_foreign _ _ _ fun c hc =>
      of_decide_eq_true (List.all_eq_true.mp hu c hc)
  rw [captures, periodRe, ← List.append_nil (secondsCaps secs s nsecs ++ countCaps "m" mi ++
    countCaps "h" h ++ countCaps "d" d ++ countCaps "w" w ++ countCaps "y" y)]
  conv_lhs => simp only [List.append_assoc]
  -- the years, weeks, days and hours, each over what follows it
  refine m_seq_opt_longUnit (by decide) (by decide) (by decide)
    (countThen_unitText (by decide) (countThen_unitText (by decide) (countThen_unitText (by decide)
      (countThen_unitText (by decide) (hS 'y' (by decide)))))) fun caps₁ => ?_
  refine m_seq_opt_longUnit (by decide) (by decide) (by decide)
    (countThen_unitText (by decide) (countThen_unitText (by decide)
      (countThen_unitText (by decide) (hS 'w' (by decide))))) fun caps₂ => ?_
  refine m_seq_opt_longUnit (by decide) (by decide) (by decide)
    (countThen_unitText (by decide) (countThen_unitText (by decide) (hS 'd' (by decide))))
    fun caps₃ => ?_
  refine m_seq_opt_longUnit (by decide) (by decide) (by decide)
    (countThen_unitText (by decide) (hS 'h' (by decide))) fun caps₄ => ?_
  exact m_minutes_secondsText _ _ _ _

/-- `PERIOD_RE` matches the whole of `Display for Period`, with the captures of each count it
writes. -/
theorem captures_periodRe_text (p : Period) : periodRe.captures p.text = some (textCaps p) :=
  captures_periodRe_units _ _ _ _ _ _ _ _

/-! ### Reading the counts back -/

/-- A count's value is at least what it starts from. -/
theorem le_ofDigitChars (l : List Char) (init : Nat) : init ≤ Nat.ofDigitChars 10 l init := by
  rw [Nat.ofDigitChars_eq_ofDigitChars_zero]
  exact Nat.le_add_right_of_le (Nat.le_mul_of_pos_left _ (Nat.pow_pos (by decide)))

/-- Checked accumulation never overflows below the final value. -/
theorem accumulateU64_digits {l : List Char} {acc : Nat} (hd : ∀ a ∈ l, a.isDigit = true)
    (hlt : Nat.ofDigitChars 10 l acc < 2 ^ 64) :
    accumulateU64 l acc = .ok (Nat.ofDigitChars 10 l acc) := by
  induction l generalizing acc with
  | nil => rfl
  | cons c cs ih =>
    rw [Nat.ofDigitChars_cons] at hlt ⊢
    rw [accumulateU64, if_pos (hd c List.mem_cons_self),
      if_pos (Nat.lt_of_le_of_lt (le_ofDigitChars cs _) hlt)]
    exact ih (fun a ha => hd a (List.mem_cons_of_mem c ha)) hlt

theorem parseU64_of_isDigit {c : Char} {t : List Char} (hc : c.isDigit = true) :
    parseU64 (c :: t) = accumulateU64 (c :: t) 0 := by
  have hplus : c ≠ '+' := by
    rintro rfl
    simp at hc
  have hminus : c ≠ '-' := by
    rintro rfl
    simp at hc
  unfold parseU64
  split <;> simp_all

/-- A field of digits whose value fits in a `u64` reads as that value. -/
theorem parseField_digits (debugStr : String → String) {periodStr field : String} {l : List Char}
    (hne : l ≠ []) (hd : ∀ a ∈ l, a.isDigit = true) (hlt : Nat.ofDigitChars 10 l 0 < 2 ^ 64) :
    parseField debugStr periodStr field l = .ok (Nat.ofDigitChars 10 l 0) := by
  obtain ⟨c, t, rfl⟩ := List.exists_cons_of_ne_nil hne
  rw [parseField, parseU64_of_isDigit (hd c List.mem_cons_self), accumulateU64_digits hd hlt,
    Except.mapError_ok]

theorem parseField_toDigits (debugStr : String → String) {periodStr field : String} {n : Nat}
    (h : n < 2 ^ 64) : parseField debugStr periodStr field (Nat.toDigits 10 n) = .ok n := by
  have hread : parseField debugStr periodStr field (Nat.toDigits 10 n) =
      .ok (Nat.ofDigitChars 10 (Nat.toDigits 10 n) 0) := parseField_digits debugStr
    Nat.toDigits_ne_nil (fun _ => digit_of_mem_toDigits) (by rwa [Nat.ofDigitChars_ten_toDigits])
  rwa [Nat.ofDigitChars_ten_toDigits] at hread

/-- The fraction, filled back to nine digits, reads as the nanoseconds. -/
theorem parseField_fraction (debugStr : String → String) {periodStr field : String} {nsecs : Nat}
    (h : nsecs < 1000000000) :
    parseField debugStr periodStr field (List.rightpad 9 '0' ((fractionText nsecs).take 9)) =
      .ok nsecs := by
  rw [rightpad_fractionText h]
  have hne : List.leftpad 9 '0' (Nat.toDigits 10 nsecs) ≠ [] := by
    rw [List.leftpad]
    exact List.append_ne_nil_of_right_ne_nil _ Nat.toDigits_ne_nil
  have hread : parseField debugStr periodStr field (List.leftpad 9 '0' (Nat.toDigits 10 nsecs)) =
      .ok (Nat.ofDigitChars 10 (List.leftpad 9 '0' (Nat.toDigits 10 nsecs)) 0) :=
    parseField_digits debugStr hne leftpad_digits (by rw [ofDigitChars_leftpad]; omega)
  rwa [ofDigitChars_leftpad] at hread

theorem parseField_zero (debugStr : String → String) {periodStr field : String} :
    parseField debugStr periodStr field ['0'] = .ok 0 :=
  parseField_toDigits debugStr (n := 0) (by decide)

/-! ### The captures read back -/

theorem lookup_countCaps_of_ne {name key : String} (h : key ≠ name) (n : Nat) :
    (countCaps name n).lookup key = none := by
  unfold countCaps
  split_ifs <;> simp [h]

/-- A count left out reads as zero, as `from_str` defaults it to "0". -/
theorem getD_lookup_countCaps (name : String) (n : Nat) :
    ((countCaps name n).lookup name).getD ['0'] = Nat.toDigits 10 n := by
  unfold countCaps
  split_ifs with hn
  · simp
  · simp [Nat.eq_zero_of_not_pos hn]

theorem lookup_subsecondCaps_of_ne {key : String} (hns : key ≠ "ns") (hus : key ≠ "us")
    (hms : key ≠ "ms") (nsecs : Nat) : (subsecondCaps nsecs).lookup key = none := by
  unfold subsecondCaps
  split_ifs <;> simp [hns, hus, hms]

theorem lookup_secondsCaps_of_unit {key : String} (h : key ∈ ["y", "w", "d", "h", "m"])
    (secs s nsecs : Nat) : (secondsCaps secs s nsecs).lookup key = none := by
  have hne : key ≠ "s_fra" ∧ key ≠ "s_man" ∧ key ≠ "s" ∧ key ≠ "ns" ∧ key ≠ "us" ∧ key ≠ "ms" := by
    simp only [List.mem_cons, List.not_mem_nil, or_false] at h
    rcases h with rfl | rfl | rfl | rfl | rfl <;> decide
  obtain ⟨hfra, hman, hs, hns, hus, hms⟩ := hne
  unfold secondsCaps
  split_ifs <;> simp [hfra, hman, hs, List.lookup_append, lookup_subsecondCaps_of_ne hns hus hms]

/-- The counts before the seconds, read from the captures of the counts after those of the
seconds. -/
theorem getD_name_units {S : Caps} (hS : ∀ key ∈ ["y", "w", "d", "h", "m"], S.lookup key = none)
    (y w d h mi : Nat) :
    let caps := S ++ countCaps "m" mi ++ countCaps "h" h ++ countCaps "d" d ++ countCaps "w" w ++
      countCaps "y" y
    (caps.name "y").getD ['0'] = Nat.toDigits 10 y ∧ (caps.name "w").getD ['0'] = Nat.toDigits 10 w ∧
    (caps.name "d").getD ['0'] = Nat.toDigits 10 d ∧ (caps.name "h").getD ['0'] = Nat.toDigits 10 h ∧
    (caps.name "m").getD ['0'] = Nat.toDigits 10 mi := by
  intro caps
  simp (disch := decide) only [caps, Caps.name, List.lookup_append, hS "y" (by simp),
    hS "w" (by simp), hS "d" (by simp), hS "h" (by simp), hS "m" (by simp), lookup_countCaps_of_ne,
    Option.none_or, Option.or_none, getD_lookup_countCaps, and_self]

/-- The seconds fields, read from the captures of the counts after those of the seconds, are
those of the seconds. -/
theorem name_units_of_seconds {key : String} (h : key ∈ ["s_fra", "s_man", "s", "ns", "us", "ms"])
    (S : Caps) (y w d hr mi : Nat) :
    (S ++ countCaps "m" mi ++ countCaps "h" hr ++ countCaps "d" d ++ countCaps "w" w ++
      countCaps "y" y).name key = S.lookup key := by
  have hne : key ≠ "y" ∧ key ≠ "w" ∧ key ≠ "d" ∧ key ≠ "h" ∧ key ≠ "m" := by
    simp only [List.mem_cons, List.not_mem_nil, or_false] at h
    rcases h with rfl | rfl | rfl | rfl | rfl | rfl <;> decide
  obtain ⟨hy, hw, hd, hh, hm⟩ := hne
  simp only [Caps.name, List.lookup_append, lookup_countCaps_of_ne hy,
    lookup_countCaps_of_ne hw, lookup_countCaps_of_ne hd, lookup_countCaps_of_ne hh,
    lookup_countCaps_of_ne hm, Option.or_none]

/-- The counts before the seconds, read from the captures of the whole text. -/
theorem getD_name_textCaps_units (p : Period) :
    ((textCaps p).name "y").getD ['0'] = Nat.toDigits 10 (p.duration.secs / yr) ∧
    ((textCaps p).name "w").getD ['0'] = Nat.toDigits 10 (p.duration.secs % yr / wk) ∧
    ((textCaps p).name "d").getD ['0'] = Nat.toDigits 10 (p.duration.secs % yr % wk / dy) ∧
    ((textCaps p).name "h").getD ['0'] = Nat.toDigits 10 (p.duration.secs % yr % wk % dy / hr) ∧
    ((textCaps p).name "m").getD ['0'] =
      Nat.toDigits 10 (p.duration.secs % yr % wk % dy % hr / mn) :=
  getD_name_units (fun _ hkey => lookup_secondsCaps_of_unit hkey _ _ _) _ _ _ _ _

/-- The seconds fields, read from the captures of the whole text, are those of the seconds
part. -/
theorem name_textCaps_of_seconds {key : String} (h : key ∈ ["s_fra", "s_man", "s", "ns", "us", "ms"])
    (p : Period) :
    (textCaps p).name key = (secondsCaps p.duration.secs (p.duration.secs % yr % wk % dy % hr % mn)
      p.duration.nanos).lookup key :=
  name_units_of_seconds h _ _ _ _ _ _

/-- The sub-second counts read back as the nanoseconds. -/
theorem parseField_subsecondCaps (debugStr : String → String) (periodStr : String) {nsecs : Nat}
    (h : nsecs < 2 ^ 64) :
    ∃ ms us ns,
      parseField debugStr periodStr "milliseconds" (((subsecondCaps nsecs).lookup "ms").getD ['0']) =
        .ok ms ∧
      parseField debugStr periodStr "microseconds" (((subsecondCaps nsecs).lookup "us").getD ['0']) =
        .ok us ∧
      parseField debugStr periodStr "nanoseconds" (((subsecondCaps nsecs).lookup "ns").getD ['0']) =
        .ok ns ∧
      1000000 * ms + 1000 * us + ns = nsecs := by
  have hus : nsecs / 1000 < 2 ^ 64 := by omega
  have hms : nsecs / 1000000 < 2 ^ 64 := by omega
  unfold subsecondCaps
  split_ifs with hns hus' hms'
  · refine ⟨0, 0, nsecs, ?_, ?_, ?_, by omega⟩ <;>
      simp only [List.lookup_cons, List.lookup_nil, String.reduceBEq, Option.getD_none,
        Option.getD_some, parseField_zero, parseField_toDigits debugStr h]
  · refine ⟨0, nsecs / 1000, 0, ?_, ?_, ?_, by omega⟩ <;>
      simp only [List.lookup_cons, List.lookup_nil, String.reduceBEq, Option.getD_none,
        Option.getD_some, parseField_zero, parseField_toDigits debugStr hus]
  · refine ⟨nsecs / 1000000, 0, 0, ?_, ?_, ?_, by omega⟩ <;>
      simp only [List.lookup_cons, List.lookup_nil, String.reduceBEq, Option.getD_none,
        Option.getD_some, parseField_zero, parseField_toDigits debugStr hms]
  · -- no sub-seconds: the nanoseconds are zero
    refine ⟨0, 0, 0, ?_, ?_, ?_, by omega⟩ <;>
      simp only [List.lookup_nil, Option.getD_none, parseField_zero]

/-- The counts `Display` writes add up to the seconds. -/
theorem counts_add_up (secs : Nat) :
    yr * (secs / yr) + wk * (secs % yr / wk) + dy * (secs % yr % wk / dy) +
      hr * (secs % yr % wk % dy / hr) + mn * (secs % yr % wk % dy % hr / mn) +
      secs % yr % wk % dy % hr % mn = secs := by
  unfold yr wk dy hr mn
  omega

/-- The result of `from_str`, once its two fields are the duration's. -/
theorem ok_period_eq {ε : Type} {a b secs nanos : Nat} {ha : a < 2 ^ 64} {hb : b < 1000000000}
    {hsecs : secs < 2 ^ 64} {hnanos : nanos < 1000000000} (h₁ : a = secs) (h₂ : b = nanos) :
    (Except.ok ⟨⟨a, b, ha, hb⟩⟩ : Except ε Period) = .ok ⟨⟨secs, nanos, hsecs, hnanos⟩⟩ := by
  subst h₁ h₂
  rfl

/-! ### The round trip -/

/-- `Period::from_str` reads back every period that `Display` writes. -/
theorem period_fromStr_toString (debugStr : String → String) (d : Duration) :
    Period.fromStr debugStr (Period.toString ⟨d⟩) = .ok ⟨d⟩ := by
  obtain ⟨secs, nsecs, hsecs, hnsecs⟩ := d
  obtain ⟨hy, hw, hd, hh, hm⟩ := getD_name_textCaps_units ⟨⟨secs, nsecs, hsecs, hnsecs⟩⟩
  have hsum := counts_add_up secs
  -- every count is at most the seconds, so fits in a u64
  have hY : secs / yr < 2 ^ 64 := Nat.lt_of_le_of_lt (Nat.div_le_self _ _) hsecs
  have hW : secs % yr / wk < 2 ^ 64 := by unfold yr wk; omega
  have hD : secs % yr % wk / dy < 2 ^ 64 := by unfold yr wk dy; omega
  have hH : secs % yr % wk % dy / hr < 2 ^ 64 := by unfold yr wk dy hr; omega
  have hM : secs % yr % wk % dy % hr / mn < 2 ^ 64 := by unfold yr wk dy hr mn; omega
  have hS : secs % yr % wk % dy % hr % mn < 2 ^ 64 := by unfold mn; omega
  rw [Period.fromStr, Period.toString, String.toList_ofList, captures_periodRe_text]
  dsimp only
  simp only [hy, hw, hd, hh, hm, parseField_toDigits debugStr hY, parseField_toDigits debugStr hW,
    parseField_toDigits debugStr hD, parseField_toDigits debugStr hH,
    parseField_toDigits debugStr hM, Except.ok_bind]
  simp (disch := decide) only [name_textCaps_of_seconds]
  -- the seconds fields, in each shape of the seconds part
  unfold secondsCaps
  split_ifs with hfrac hsome hs hzero
  · -- fractional seconds
    simp only [List.lookup_cons, List.lookup_nil, String.reduceBEq, Option.getD_some,
      Option.getD_none, parseField_toDigits debugStr hS, parseField_fraction debugStr hnsecs,
      parseField_zero, Except.ok_bind, Except.pure_eq_ok]
    exact ok_period_eq (by omega) (by omega)
  · -- whole seconds and sub-seconds
    obtain ⟨ms, us, ns, hms, hus, hns, hnanos⟩ := parseField_subsecondCaps debugStr
      (String.ofList (Period.text ⟨⟨secs, nsecs, hsecs, hnsecs⟩⟩)) (by omega : nsecs < 2 ^ 64)
    simp (disch := decide) only [List.lookup_append, List.lookup_cons, List.lookup_nil,
      String.reduceBEq, Option.or_none, Option.none_or, lookup_subsecondCaps_of_ne, Option.getD_some,
      parseField_toDigits debugStr hS, hms, hus, hns, Except.ok_bind, Except.pure_eq_ok]
    exact ok_period_eq (by omega) (by omega)
  · -- sub-seconds alone
    obtain ⟨ms, us, ns, hms, hus, hns, hnanos⟩ := parseField_subsecondCaps debugStr
      (String.ofList (Period.text ⟨⟨secs, nsecs, hsecs, hnsecs⟩⟩)) (by omega : nsecs < 2 ^ 64)
    simp (disch := decide) only [List.append_nil, lookup_subsecondCaps_of_ne, Option.getD_none,
      parseField_zero, hms, hus, hns, Except.ok_bind, Except.pure_eq_ok]
    exact ok_period_eq (by omega) (by omega)
  · -- the zero period
    simp only [List.lookup_cons, List.lookup_nil, String.reduceBEq, Option.getD_none,
      Option.getD_some, parseField_zero, Except.ok_bind, Except.pure_eq_ok]
    exact ok_period_eq (by omega) (by omega)
  · -- nothing after the minutes
    simp only [List.lookup_nil, Option.getD_none, parseField_zero, Except.ok_bind,
      Except.pure_eq_ok]
    exact ok_period_eq (by omega) (by omega)

/-! ### Counts of any size -/

/-- Counts of years, weeks, days, hours and minutes, each of which fits a `u64`, read back as
the seconds they add up to, wrapped to 64 bits. -/
theorem fromStr_unitTexts (debugStr : String → String) {y w d h mi : Nat} (hy : y < 2 ^ 64)
    (hw : w < 2 ^ 64) (hd : d < 2 ^ 64) (hh : h < 2 ^ 64) (hmi : mi < 2 ^ 64) :
    Period.fromStr debugStr (String.ofList (unitText y 'y' ++ unitText w 'w' ++ unitText d 'd' ++
        unitText h 'h' ++ unitText mi 'm')) =
      .ok ⟨⟨(yr * y + wk * w + dy * d + hr * h + mn * mi) % 2 ^ 64, 0,
        Nat.mod_lt _ (Nat.two_pow_pos 64), by decide⟩⟩ := by
  -- no seconds part: `Display` writes none after whole minutes
  have htext : unitText y 'y' ++ unitText w 'w' ++ unitText d 'd' ++ unitText h 'h' ++
      unitText mi 'm' = unitText y 'y' ++ unitText w 'w' ++ unitText d 'd' ++ unitText h 'h' ++
      unitText mi 'm' ++ secondsText 1 0 0 := by
    rw [show secondsText 1 0 0 = [] from rfl, List.append_nil]
  have hnone : secondsCaps 1 0 0 = [] := rfl
  obtain ⟨hy', hw', hd', hh', hm'⟩ := getD_name_units (S := secondsCaps 1 0 0)
    (fun key _ => by rw [hnone]; rfl) y w d h mi
  rw [Period.fromStr, String.toList_ofList, htext, captures_periodRe_units]
  dsimp only
  simp only [hy', hw', hd', hh', hm', parseField_toDigits debugStr hy,
    parseField_toDigits debugStr hw, parseField_toDigits debugStr hd,
    parseField_toDigits debugStr hh, parseField_toDigits debugStr hmi, Except.ok_bind]
  -- every seconds field is absent and reads as zero
  simp (disch := decide) only [name_units_of_seconds, hnone, List.lookup_nil, Option.getD_none,
    parseField_zero, Except.ok_bind, Except.pure_eq_ok]
  exact ok_period_eq (by omega) (by omega)

/-- "584542046091y" has a count of years that fits a `u64`, but not the seconds of that many
years: `from_str` returns the sum wrapped to 64 bits, a period of 11789984 seconds (some 136
days), and no error. -/
theorem year_count_overflow_wraps (debugStr : String → String) :
    Period.fromStr debugStr "584542046091y" =
        .ok ⟨⟨11789984, 0, by decide, by decide⟩⟩ ∧
      2 ^ 64 ≤ yr * 584542046091 := by
  have htext : ("584542046091y" : String) = String.ofList (unitText 584542046091 'y' ++
      unitText 0 'w' ++ unitText 0 'd' ++ unitText 0 'h' ++ unitText 0 'm') := by
    decide
  refine ⟨?_, by decide⟩
  rw [htext, fromStr_unitTexts debugStr (by decide) (by decide) (by decide) (by decide) (by decide)]
  exact ok_period_eq (by decide) rfl

end Holochain.Period
