import Mathlib.Data.Rat.Floor
import Mathlib.Order.Lex
import Mathlib.Data.Prod.Lex

/-!
# Timezone-aware timestamps

A timestamp is an instant and the UTC offset it is written with. Python compares instants;
SQLite compares the ISO texts, which for four-digit years is the comparison of `isoKey`.
-/

namespace NetTools

/-- A timezone-aware `datetime`: microseconds since the epoch, and the UTC offset. -/
structure Datetime where
  micros : Int
  offset : Int := 0
deriving DecidableEq, Repr

/-- Rounds half to even, as `timedelta` rounds its seconds to microseconds. -/
def roundHalfEven (q : ℚ) : Int :=
  let f := ⌊q⌋
  if q - f < 1 / 2 then f
  else if 1 / 2 < q - f then f + 1
  else if f % 2 = 0 then f
  else f + 1

def timedelta (seconds : ℚ) : Int := roundHalfEven (seconds * 1000000)

namespace Datetime

/-- `t + timedelta(seconds=seconds)`. -/
def addSeconds (t : Datetime) (seconds : ℚ) : Datetime :=
  { t with micros := t.micros + timedelta seconds }

/-- `t - u` in seconds. -/
def secondsSince (t u : Datetime) : ℚ := (t.micros - u.micros) / 1000000

/-- Python's `<=` on aware datetimes compares the instants. -/
def le (t u : Datetime) : Bool := t.micros ≤ u.micros

def zeroPad (width n : Nat) : String :=
  let digits := (toString n).toList
  String.ofList (List.replicate (width - digits.length) '0' ++ digits)

def civilDate (days : Int) : Int × Int × Int :=
  let z := days + 719468
  let era := z / 146097
  let doe := z % 146097
  let yoe := (doe - doe / 1460 + doe / 36524 - doe / 146096) / 365
  let doy := doe - (365 * yoe + yoe / 4 - yoe / 100)
  let mp := (5 * doy + 2) / 153
  let day := doy - (153 * mp + 2) / 5 + 1
  let month := if mp < 10 then mp + 3 else mp - 9
  (yoe + era * 400 + (if month ≤ 2 then 1 else 0), month, day)

/-- The digits of a clock time given in microseconds, `full` for seconds even when zero. -/
def clockText (micros : Nat) (full : Bool) : String :=
  let seconds := micros / 1000000
  let fraction := micros % 1000000
  zeroPad 2 (seconds / 3600) ++ ":" ++ zeroPad 2 (seconds / 60 % 60) ++
    (if full || seconds % 60 != 0 || fraction != 0 then ":" ++ zeroPad 2 (seconds % 60) else "") ++
    (if fraction != 0 then "." ++ zeroPad 6 fraction else "")

def isoformat (t : Datetime) : String :=
  let wall := t.micros + t.offset
  let (year, month, day) := civilDate (wall / 86400000000)
  zeroPad 4 year.toNat ++ "-" ++ zeroPad 2 month.toNat ++ "-" ++ zeroPad 2 day.toNat ++ "T" ++
    clockText (wall % 86400000000).toNat true ++
    (if t.offset < 0 then "-" else "+") ++ clockText t.offset.natAbs false

/-- The order key of the ISO text `YYYY-MM-DDTHH:MM:SS[.ffffff]±HH:MM[:SS[.ffffff]]`: the
wall-clock digits decide first, then the sign of the offset (`+` sorts before `-`), then its
digits. A fraction of zero is left out of the text and `+`, `-` sort before `.`, so that a
missing fraction sorts as zero does. -/
def isoKey (t : Datetime) : Int ×ₗ Bool ×ₗ Nat :=
  toLex (t.micros + t.offset, toLex (decide (t.offset < 0), t.offset.natAbs))

/-- SQLite's `<=` on two ISO texts. -/
def isoLe (t u : Datetime) : Bool := t.isoKey ≤ u.isoKey

/-- SQLite's order on nullable ISO texts, `NULL` first. -/
def isoLeOption : Option Datetime → Option Datetime → Bool
  | none, _ => true
  | some _, none => false
  | some t, some u => t.isoLe u

lemma isoKey_injective : Function.Injective isoKey := by
  rintro ⟨m, o⟩ ⟨m', o'⟩ h
  simp only [isoKey, EmbeddingLike.apply_eq_iff_eq, Prod.mk.injEq, decide_eq_decide] at h
  have ho : o = o' := by omega
  have hm : m = m' := by omega
  rw [ho, hm]

@[simp] lemma addSeconds_offset (t : Datetime) (seconds : ℚ) :
    (t.addSeconds seconds).offset = t.offset := rfl

theorem isoLe_iff_of_offset_eq {t u : Datetime} (h : t.offset = u.offset) :
    t.isoLe u = true ↔ t.micros ≤ u.micros := by
  simp only [isoLe, isoKey, h, decide_eq_true_eq, Prod.Lex.le_iff, ofLex_toLex, le_refl, and_true]
  omega

end Datetime

end NetTools
