import NetTools.Library.Calendar
import NetTools.Python.Digits
import NetTools.Routing.Syslog

/-!
# Device timestamps

A device prints the date and the time without a year. The reader checks the shape of the text
only; the calendar is asked when two timestamps are compared.
-/

namespace NetTools

open Calendar

/-- `\d{least,most}` before something that is no digit, as `int` reads it. -/
def DigitTable.read (digits : DigitTable) (least most : Nat) (cs : List Char) :
    Option (Nat × List Char) :=
  let token := (cs.take most).takeWhile (fun c => (digits.value c).isSome)
  if token.length < least then none
  else
    some (token.foldl (fun n c => 10 * n + (digits.value c).getD 0) 0, cs.drop token.length)

def monthNames : List String :=
  ["Jan", "Feb", "Mar", "Apr", "May", "Jun", "Jul", "Aug", "Sep", "Oct", "Nov", "Dec"]

def monthNumber (name : String) : Option Nat := (monthNames.idxOf? name).map (· + 1)

/-- `_DEVICE_TIMESTAMP`, with the name of the month. -/
def matchDeviceTimestamp (digits : DigitTable) (cs : List Char) : Option (String × Stamp) := do
  let month := cs.take 3
  guard (month.length = 3 ∧ month.all Char.isAlpha)
  let cs ← skipSome isSpaceChar (cs.drop 3)
  let (day, cs) ← digits.read 1 2 cs
  let cs ← skipSome isSpaceChar cs
  let (hour, cs) ← digits.read 2 2 cs
  let cs ← skipText [':'] cs
  let (minute, cs) ← digits.read 2 2 cs
  let cs ← skipText [':'] cs
  let (second, cs) ← digits.read 2 2 cs
  let cs ← skipText ['.'] cs
  let (milli, cs) ← digits.read 3 3 cs
  let zone ← skipSome isSpaceChar cs
  guard (zone ≠ [] ∧ zone.all (fun c => !isSpaceChar c))
  pure (String.ofList month, ⟨0, day, hour, minute, second, milli⟩)

/-- `None` for a text of another shape; a date that no calendar has is read all the same. -/
def parseDeviceTimestamp (digits : DigitTable) (text : String) : Option Stamp := do
  let (month, stamp) ← matchDeviceTimestamp digits (pyStrip text).toList
  let month ← monthNumber month
  pure { stamp with month := month }

def datetime (year : Int) (t : Stamp) : Option Int :=
  if t.onCalendar (isLeap year) then some (t.instant year) else none

/-- The seconds from one timestamp to a later one, in a leap year; `none` for a `ValueError`. -/
def secondsBetween (earlier later : Stamp) : Option ℚ := do
  let lo ← datetime 2000 earlier
  let hi ← datetime 2000 later
  -- Read as the next year's, once it would come before the other.
  let hi ← if hi < lo then datetime 2001 later else pure hi
  pure (((hi - lo : Int) : ℚ) / 1000)

lemma secondsBetween_of_key_le {a b : Stamp} (ha : a.onCalendar true = true)
    (hb : b.onCalendar true = true) (h : a.key ≤ b.key) :
    secondsBetween a b = some (((b.sinceNewYear true - a.sinceNewYear true : Int) : ℚ) / 1000) := by
  have hleap : isLeap 2000 = true := by decide
  have horder : ¬ b.instant 2000 < a.instant 2000 := by
    rw [not_lt, Stamp.instant_le_iff (hleap ▸ ha) (hleap ▸ hb)]
    exact h
  have hsub : b.instant 2000 - a.instant 2000 = b.sinceNewYear true - a.sinceNewYear true := by
    unfold Stamp.instant
    rw [hleap]
    omega
  unfold secondsBetween datetime
  rw [hleap, if_pos ha, if_pos hb, ← hsub]
  simp only [Option.bind_eq_bind, Option.bind_some, if_neg horder]
  rfl

example : secondsBetween ⟨8, 16, 7, 41, 54, 748⟩ ⟨8, 16, 7, 44, 28, 97⟩ = some (153349 / 1000) := by
  decide +kernel

end NetTools
