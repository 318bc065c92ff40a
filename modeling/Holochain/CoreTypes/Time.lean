/-
`Period` (`core_types/src/time.rs`): a `std::time::Duration` with a human-readable form,
written by `Display` ("1y2w3d4h5m6.007008009s", "456ms") and read back by `FromStr` through
the regex `PERIOD_RE` of the `regex` crate.

The regex is a `Regex.Re`, matched leftmost-first as the crate matches it
(`Holochain.Lib.Regex`); `^` is the start of the text, where the search begins. Under `(?x)`
its blanks and comments are not part of it, and under `(?i)` a letter matches the letters
it folds with. `\s` is Unicode white space; `\d` is the ASCII digits (the crate's other
Unicode decimal digits are not modelled). The `u64` arithmetic of `from_str` wraps, as in a
release build. How a `&str` is written by `{:?}` is a parameter.

`Timeout` is a number of milliseconds in a `usize`, whose width is a parameter: 64 bits for the
conductor, 32 for the wasm32 target the zomes are built for. `as usize` keeps the low bits.

The round trip of `Display` through `FromStr` is `Holochain.CoreTypes.TimeRoundTrip`.

* `millis_fromPeriod_of_lt`, `min_le_millis_fromPeriod` — while the seconds fit the `usize`,
  the timeout is the period's milliseconds below the bound and `usize::MAX` from it on, and
  never shorter than the milliseconds saturated at `usize::MAX`;
* `timeout_truncates_seconds` — on 32 bits, 2^32 seconds time out at once, and on 64 bits the
  bound saturates milliseconds that still fit.
-/
import Mathlib.Algebra.Group.Nat.Defs
import Mathlib.Data.List.DropRight
import Holochain.CoreTypes.Error
import Holochain.Lib.Regex

namespace Holochain

/-- `std::time::Duration`: whole seconds, a `u64`, and the nanoseconds below a second. -/
structure Duration where
  secs : Nat
  nanos : Nat
  secs_lt : secs < 2 ^ 64
  nanos_lt : nanos < 1000000000
  deriving DecidableEq

/-- `Period`: a `Duration` with a human-readable form. -/
structure Period where
  duration : Duration
  deriving DecidableEq

/-- `YR`: 365.25 days. -/
def yr : Nat := 31557600

/-- `WK`. -/
def wk : Nat := 604800

/-- `DY`. -/
def dy : Nat := 86400

/-- `HR`. -/
def hr : Nat := 3600

/-- `MN`. -/
def mn : Nat := 60

namespace Period

/-! ### `Display` -/

/-- `write!(f, "{}u", n)` when `n > 0`: a count and its unit letter. -/
def unitText (n : Nat) (unit : Char) : List Char :=
  if 0 < n then Nat.toDigits 10 n ++ [unit] else []

/-- `format!("{:0>9}", nsecs).trim_end_matches('0')`: the nanoseconds as nine digits, without
their trailing zeros. -/
def fractionText (nsecs : Nat) : List Char :=
  (List.leftpad 9 '0' (Nat.toDigits 10 nsecs)).rdropWhile (· == '0')

/-- The sub-seconds of `Display for Period` without fractional seconds: the finest of ns, us and
ms that holds data. -/
def subsecondText (nsecs : Nat) : List Char :=
  if 0 < nsecs % 1000 then Nat.toDigits 10 nsecs ++ ['n', 's']
  else if 0 < nsecs / 1000 % 1000 then Nat.toDigits 10 (nsecs / 1000) ++ ['u', 's']
  else if 0 < nsecs / 1000000 then Nat.toDigits 10 (nsecs / 1000000) ++ ['m', 's']
  else []

/-- The seconds part of `Display for Period`, from the whole duration's seconds, the seconds
below a minute and the nanoseconds: fractional seconds when there are milliseconds and
seconds or nanoseconds; else the seconds and the sub-seconds; "0s" for a zero period. -/
def secondsText (secs s nsecs : Nat) : List Char :=
  if 0 < nsecs / 1000000 ∧ (0 < s ∨ 0 < nsecs % 1000) then
    Nat.toDigits 10 s ++ '.' :: (fractionText nsecs ++ ['s'])
  else if 0 < nsecs ∨ 0 < s then
    (if 0 < s then Nat.toDigits 10 s ++ ['s'] else []) ++ subsecondText nsecs
  else if nsecs = 0 ∧ secs = 0 then ['0', 's']
  else []

/-- `Display for Period`, as characters. -/
def text (p : Period) : List Char :=
  let secs := p.duration.secs
  let ySecs := secs % yr
  let wSecs := ySecs % wk
  let dSecs := wSecs % dy
  let hSecs := dSecs % hr
  unitText (secs / yr) 'y' ++ unitText (ySecs / wk) 'w' ++ unitText (wSecs / dy) 'd' ++
    unitText (dSecs / hr) 'h' ++ unitText (hSecs / mn) 'm' ++
    secondsText secs (hSecs % mn) p.duration.nanos

/-- `Period::to_string`. -/
def toString (p : Period) : String :=
  String.ofList p.text

/-! ### `PERIOD_RE` -/

open Regex Re

/-- What a pattern letter matches under `(?i)`: the letters of its simple case folding, which
beyond ASCII are the Kelvin sign for k, the long s for s, and the capital mu and the micro
sign for the small mu. -/
def foldsWith (letter c : Char) : Bool :=
  c.toLower == letter || (letter == 'k' && c == '\u212A') || (letter == 's' && c == '\u017F') ||
    (letter == '\u03BC' && (c == '\u039C' || c == '\u00B5'))

/-- A pattern letter under `(?i)`. -/
def ci (letter : Char) : Re :=
  .char (foldsWith letter)

/-- A word of pattern letters. -/
def word : List Char → Re
  | [] => .empty
  | letter :: letters => .seq (ci letter) (word letters)

/-- `\d`: an ASCII digit. -/
def digit (c : Char) : Bool :=
  c.isDigit

/-- `\s`: Unicode white space. -/
def space (c : Char) : Bool :=
  (9 ≤ c.toNat && c.toNat ≤ 13) || c.toNat == 0x20 || c.toNat == 0x85 || c.toNat == 0xA0 ||
    c.toNat == 0x1680 || (0x2000 ≤ c.toNat && c.toNat ≤ 0x200A) || c.toNat == 0x2028 ||
    c.toNat == 0x2029 || c.toNat == 0x202F || c.toNat == 0x205F || c.toNat == 0x3000

/-- `\s*(?P<name>\d+)\s*` and then a unit. -/
def counted (name : String) (unit : Re) : Re :=
  .seq (.star space) (.seq (.group name (plus digit)) (.seq (.star space) unit))

/-- `u((((mid)?z)s?)?)?`: a unit letter, with a long form and a plural. -/
def longUnit (u : Char) (mid : List Char) (z : Char) : Re :=
  .seq (ci u) (.opt (.opt (.seq (.seq (.opt (word mid)) (ci z)) (.opt (ci 's')))))

/-- `m((in(ute)?)s?)?`. -/
def minuteUnit : Re :=
  .seq (ci 'm')
    (.opt (.seq (.seq (word ['i', 'n']) (.opt (word ['u', 't', 'e']))) (.opt (ci 's'))))

/-- `s((ec(ond)?)s?)?`. -/
def secondUnit : Re :=
  .seq (ci 's')
    (.opt (.seq (.seq (word ['e', 'c']) (.opt (word ['o', 'n', 'd']))) (.opt (ci 's'))))

/-- `\s*(?P<s_man>\d+)?[.,](?P<s_fra>\d+)\s*s((ec(ond)?)s?)?`: fractional seconds. -/
def fractionalSeconds : Re :=
  .seq (.star space) (.seq (.opt (.group "s_man" (plus digit)))
    (.seq (.char fun c => c == '.' || c == ',')
      (.seq (.group "s_fra" (plus digit)) (.seq (.star space) secondUnit))))

/-- `(m|(milli))s((ec(ond)?)s?)?`. -/
def millisecondUnit : Re :=
  .seq (.alt (ci 'm') (word ['m', 'i', 'l', 'l', 'i'])) secondUnit

/-- `(u|μ|(micro))s((ec(ond)?)s?)?`, with the small mu. -/
def microsecondUnit : Re :=
  .seq (.alt (ci 'u') (.alt (ci '\u03BC') (word ['m', 'i', 'c', 'r', 'o']))) secondUnit

/-- `(n|(nano))s((ec(ond)?)s?)?`. -/
def nanosecondUnit : Re :=
  .seq (.alt (ci 'n') (word ['n', 'a', 'n', 'o'])) secondUnit

/-- Milliseconds, microseconds and nanoseconds, each optional. -/
def subsecondCounts : Re :=
  .seq (.opt (counted "ms" millisecondUnit))
    (.seq (.opt (counted "us" microsecondUnit)) (.opt (counted "ns" nanosecondUnit)))

/-- Whole seconds, optional and perhaps after a colon, then the sub-second counts. -/
def subseconds : Re :=
  .seq (.opt (.seq (.opt (.char (· == ':'))) (counted "s" secondUnit))) subsecondCounts

/-- What follows the minutes: the seconds, blanks and the end of the text. -/
def secondsRe : Re :=
  .seq (.alt (.opt fractionalSeconds) subseconds) (.seq (.star space) .eos)

/-- `PERIOD_RE`. -/
def periodRe : Re :=
  .seq (.opt (counted "y" (longUnit 'y' ['e', 'a'] 'r')))
    (.seq (.opt (counted "w" (longUnit 'w' ['e', 'e'] 'k')))
      (.seq (.opt (counted "d" (longUnit 'd' ['a'] 'y')))
        (.seq (.opt (counted "h" (longUnit 'h' ['o', 'u'] 'r')))
          (.seq (.opt (counted "m" minuteUnit)) secondsRe))))

/-! ### `FromStr` -/

/-- The kind of a `ParseIntError` of `u64::from_str`. -/
inductive IntErrorKind
  | empty
  | invalidDigit
  | posOverflow
  deriving DecidableEq, Repr

/-- `Debug for IntErrorKind`. -/
def IntErrorKind.debug : IntErrorKind → String
  | .empty => "Empty"
  | .invalidDigit => "InvalidDigit"
  | .posOverflow => "PosOverflow"

/-- The digits of `u64::from_str`, accumulated with checked arithmetic. -/
def accumulateU64 : List Char → Nat → Except IntErrorKind Nat
  | [], acc => .ok acc
  | c :: cs, acc =>
    if c.isDigit then
      if 10 * acc + (c.toNat - '0'.toNat) < 2 ^ 64 then
        accumulateU64 cs (10 * acc + (c.toNat - '0'.toNat))
      else .error .posOverflow
    else .error .invalidDigit

/-- `u64::from_str`: an optional `+`, then digits. -/
def parseU64 : List Char → Except IntErrorKind Nat
  | [] => .error .empty
  | ['+'] => .error .invalidDigit
  | ['-'] => .error .invalidDigit
  | '+' :: digits => accumulateU64 digits 0
  | digits => accumulateU64 digits 0

variable (debugStr : String → String)

/-- `parse::<u64>()` of a field of the text, its error worded as `from_str` words it. -/
def parseField (periodStr field : String) (text : List Char) : Except HolochainError Nat :=
  (parseU64 text).mapError fun e =>
    .errorGeneric ("Invalid " ++ field ++ " in period " ++ debugStr periodStr ++
      ": ParseIntError \x7b kind: " ++ e.debug ++ " \x7d")

/-- `Period::from_str`. The seconds and the nanoseconds are `u64` sums, which wrap; wrapping
each operation wraps the sum. `Duration::new` cannot carry: the nanoseconds are below a
second. -/
def fromStr (periodStr : String) : Except HolochainError Period :=
  match periodRe.captures periodStr.toList with
  | none =>
    .error (.errorGeneric ("Failed to find Period specification in " ++ debugStr periodStr))
  | some cap => do
    let count := fun name => (cap.name name).getD ['0']
    let years ← parseField debugStr periodStr "year(s)" (count "y")
    let weeks ← parseField debugStr periodStr "week(s)" (count "w")
    let days ← parseField debugStr periodStr "days(s)" (count "d")
    let hours ← parseField debugStr periodStr "hour(s)" (count "h")
    let minutes ← parseField debugStr periodStr "minute(s)" (count "m")
    let secs ← parseField debugStr periodStr "seconds"
      ((cap.name "s").getD ((cap.name "s_man").getD ['0']))
    let seconds :=
      (yr * years + wk * weeks + dy * days + hr * hours + mn * minutes + secs) % 2 ^ 64
    -- `{:0<9.9}`: the fraction cut or filled to nine digits
    let fra ← match cap.name "s_fra" with
      | none => pure 0
      | some sFra =>
        parseField debugStr periodStr "fractional seconds" (List.rightpad 9 '0' (sFra.take 9))
    let ms ← parseField debugStr periodStr "milliseconds" (count "ms")
    let us ← parseField debugStr periodStr "microseconds" (count "us")
    let ns ← parseField debugStr periodStr "nanoseconds" (count "ns")
    let nanos := (fra + 1000000 * ms + 1000 * us + ns) % 2 ^ 64
    pure ⟨⟨(seconds + nanos / 1000000000) % 2 ^ 64, nanos % 1000000000,
      Nat.mod_lt _ (Nat.two_pow_pos 64), Nat.mod_lt _ (by decide)⟩⟩

end Period

/-! ### `From<Period> for Timeout` -/

/-- `usize::max_value()` for a `usize` of `width` bits. -/
def usizeMaxOfWidth (width : Nat) : Nat := 2 ^ width - 1

/-- `Timeout`: milliseconds. -/
structure Timeout where
  millis : Nat
  deriving DecidableEq, Repr

/-- `From<Period> for Timeout`, for a `usize` of `width` bits. Below the bound the product and
the sum are `usize` arithmetic, which wraps. -/
def Timeout.fromPeriod (width : Nat) (p : Period) : Timeout :=
  let secs := p.duration.secs % 2 ^ width
  let subsecMillis := p.duration.nanos / 1000000
  ⟨if secs ≥ usizeMaxOfWidth width / 1000 then usizeMaxOfWidth width
    else (secs * 1000 + subsecMillis) % 2 ^ width⟩

section Timeout

variable {width : Nat} {p : Period}

/-- Below the bound nothing wraps: a second less than `usize::MAX / 1000` leaves room for a
thousand milliseconds. -/
theorem millis_fromPeriod_of_lt_bound (h : p.duration.secs % 2 ^ width < usizeMaxOfWidth width / 1000) :
    (Timeout.fromPeriod width p).millis = p.duration.secs % 2 ^ width * 1000 + p.duration.nanos / 1000000 := by
  have hnanos := p.duration.nanos_lt
  have hpow : 0 < 2 ^ width := Nat.two_pow_pos width
  unfold usizeMaxOfWidth at h
  rw [Timeout.fromPeriod, if_neg (by unfold usizeMaxOfWidth; omega)]
  exact Nat.mod_eq_of_lt (by omega)

/-- While the seconds fit the `usize`, the timeout is the period's milliseconds below the bound,
and `usize::MAX` from it on. -/
theorem millis_fromPeriod_of_lt (h : p.duration.secs < 2 ^ width) :
    (Timeout.fromPeriod width p).millis =
      if p.duration.secs < usizeMaxOfWidth width / 1000 then
        p.duration.secs * 1000 + p.duration.nanos / 1000000
      else usizeMaxOfWidth width := by
  have hsecs : p.duration.secs % 2 ^ width = p.duration.secs := Nat.mod_eq_of_lt h
  split_ifs with hlt
  · rw [millis_fromPeriod_of_lt_bound (by rw [hsecs]; exact hlt), hsecs]
  · rw [Timeout.fromPeriod, hsecs, if_pos (Nat.le_of_not_lt hlt)]

/-- While the seconds fit the `usize`, the timeout is never shorter than the milliseconds
saturated at `usize::MAX`. -/
theorem min_le_millis_fromPeriod (h : p.duration.secs < 2 ^ width) :
    min (p.duration.secs * 1000 + p.duration.nanos / 1000000) (usizeMaxOfWidth width) ≤
      (Timeout.fromPeriod width p).millis := by
  rw [millis_fromPeriod_of_lt h]
  split_ifs
  · exact Nat.min_le_left _ _
  · exact Nat.min_le_right _ _

end Timeout

/-- On 32 bits a period of 2^32 seconds, some 136 years, becomes a timeout of no time at all:
the cast drops the seconds' high bits. On 64 bits the bound test also saturates the period of
`usize::MAX / 1000` seconds, whose 18446744073709551000 milliseconds fit a `usize`. -/
theorem timeout_truncates_seconds :
    (Timeout.fromPeriod 32 ⟨⟨2 ^ 32, 0, by decide, by decide⟩⟩).millis = 0 ∧
      min (2 ^ 32 * 1000) (usizeMaxOfWidth 32) = usizeMaxOfWidth 32 ∧
      (Timeout.fromPeriod 64 ⟨⟨18446744073709551, 0, by decide, by decide⟩⟩).millis =
        usizeMaxOfWidth 64 ∧
      min (18446744073709551 * 1000) (usizeMaxOfWidth 64) = 18446744073709551000 ∧
      18446744073709551000 < usizeMaxOfWidth 64 := by
  refine ⟨by decide, by decide, by decide, by decide, by decide⟩

end Holochain
