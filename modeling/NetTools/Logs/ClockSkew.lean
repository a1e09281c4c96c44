import NetTools.Logs.Timestamps
import NetTools.Python.Double

/-!
# Device clocks against a shared reference

A record carries the time of the device, without a year, and the time at which it was ingested.
The year is taken from the reference. The offsets of a device are summed up by their median, and
the medians of the devices are compared.
-/

namespace NetTools

open Calendar

namespace ClockSkew

inductive ClockError where
  /-- `AttributeError`: the timestamp has no `strip`. -/
  | attribute
  /-- `OverflowError`, `OSError` or `ValueError`: the instant is out of range. -/
  | range
deriving DecidableEq, Repr

def parseIngestNs (digits : DigitTable) : Value → Option Int
  | .int i => some i
  | .str s => if pyStrip s = "" then none else digits.integer (pyStrip s)
  | _ => none

def dayMicros : Int := 86400000000

def epochMicros : Int := daysBeforeYear 1970 * dayMicros

/-- The microseconds of a number of seconds. `modf` cuts towards zero, and what is left is rounded
half to even. -/
def microsOf (seconds : ℚ) : Int :=
  let whole := seconds.num.tdiv seconds.den
  whole * 1000000 + roundHalfEven (Double.round ((seconds - whole) * 1000000))

/-- `datetime.fromtimestamp(seconds, tz=timezone.utc)`, in microseconds since the year 1; `none`
outside of the years 1 to 9999. -/
def fromTimestamp (seconds : ℚ) : Option Int :=
  let micros := epochMicros + microsOf seconds
  if 0 ≤ micros ∧ micros < daysBeforeYear 10000 * dayMicros then some micros else none

/-- `datetime.fromtimestamp(ns / 1_000_000_000, tz=timezone.utc)`. -/
def ingestDatetime (ns : Int) : Except ClockError Int :=
  let seconds := Double.round ((ns : ℚ) / 1000000000)
  -- a quotient that no double holds
  if 2 ^ 1024 ≤ |seconds| then .error .range
  else
    match fromTimestamp seconds with
    | some micros => .ok micros
    | none => .error .range

/-- `datetime(year, …, tzinfo=timezone.utc)`, in microseconds since the year 1; `none` for a
`ValueError`. -/
def candidateIn (parsed : Stamp) (year : Int) : Option Int :=
  if 1 ≤ year ∧ year ≤ 9999 then (datetime year parsed).map (· * 1000) else none

def totalSeconds (micros : Int) : ℚ := Double.round ((micros : ℚ) / 1000000)

def nearer (parsed : Stamp) (reference : Int) (best : Option (Int × ℚ)) (year : Int) :
    Option (Int × ℚ) :=
  match candidateIn parsed year with
  | none => best
  | some candidate =>
    let delta := |totalSeconds (candidate - reference)|
    match best with
    | none => some (candidate, delta)
    | some (_, bestDelta) => if delta < bestDelta then some (candidate, delta) else best

/-- `reference.year`. -/
def yearOfMicros (micros : Int) : Int := yearOf (micros / dayMicros)

def deviceDatetimeNear (parsed : Stamp) (reference : Int) : Option Int :=
  let year := yearOfMicros reference
  ([year - 1, year, year + 1].foldl (nearer parsed reference) none).map Prod.fst

variable (digits : DigitTable)

def deviceOffsetSeconds (deviceTimestamp ingestTimestampNs : Value) :
    Except ClockError (Option ℚ) :=
  match deviceTimestamp with
  | .str text =>
    match parseDeviceTimestamp digits text with
    | none => .ok none
    | some parsed =>
      match parseIngestNs digits ingestTimestampNs with
      | none => .ok none
      | some ns => do
        let ingest ← ingestDatetime ns
        pure ((deviceDatetimeNear parsed ingest).map (fun device => totalSeconds (device - ingest)))
  | _ => .error .attribute

/-! ### The devices -/

def median (data : List ℚ) : ℚ :=
  let sorted := data.insertionSort (· ≤ ·)
  let middle := sorted.length / 2
  if sorted.length % 2 = 1 then sorted.getD middle 0
  else Double.div (Double.add (sorted.getD (middle - 1) 0) (sorted.getD middle 0)) 2

structure DeviceClockOffset where
  device : String
  totalRecords : Nat
  comparableRecords : Nat
  medianOffsetSeconds : Option ℚ := none
  minOffsetSeconds : Option ℚ := none
  maxOffsetSeconds : Option ℚ := none
deriving DecidableEq

def DeviceClockOffset.evaluated (d : DeviceClockOffset) : Bool :=
  0 < d.comparableRecords && d.medianOffsetSeconds.isSome

/-- `record.get("timestamp", "")` and `record.get("ingest_timestamp_ns")`. -/
def recordOffset (record : Dict) : Except ClockError (Option ℚ) :=
  deviceOffsetSeconds digits ((record.get? "timestamp").getD (.str ""))
    ((record.get? "ingest_timestamp_ns").getD .none)

def summarizeDeviceOffsets (device : String) (records : List Dict) :
    Except ClockError DeviceClockOffset := do
  let answers ← records.mapM (recordOffset digits)
  match answers.reduceOption with
  | [] => pure { device := device, totalRecords := records.length, comparableRecords := 0 }
  | offset :: offsets =>
    pure
      { device := device
        totalRecords := records.length
        comparableRecords := (offset :: offsets).length
        medianOffsetSeconds := some (median (offset :: offsets))
        minOffsetSeconds := some (offsets.foldl min offset)
        maxOffsetSeconds := some (offsets.foldl max offset) }

def defaultClockSkewBoundSeconds : ℚ := 15

def boundSourcePolicyDefault : String := "policy default (not measured)"

def boundSourceEnvOverride : String := "env override (NETTOOLS_CLOCK_SKEW_BOUND_SECONDS)"

def boundSourceCallerOverride : String := "caller-supplied override"

def resolveBound (parseFloat : String → Option ℚ) (env : Option String) (bound : Option ℚ) :
    ℚ × String :=
  match bound with
  | some seconds => (seconds, boundSourceCallerOverride)
  | none =>
    let raw := pyStrip (env.getD "")
    if raw ≠ "" then
      ((parseFloat raw).getD defaultClockSkewBoundSeconds, boundSourceEnvOverride)
    else (defaultClockSkewBoundSeconds, boundSourcePolicyDefault)

structure ClockSkewFinding where
  perDevice : List DeviceClockOffset
  boundSeconds : ℚ
  boundSource : String
deriving DecidableEq

namespace ClockSkewFinding

def evaluatedDevices (f : ClockSkewFinding) : List DeviceClockOffset :=
  f.perDevice.filter (·.evaluated)

def spanSeconds (f : ClockSkewFinding) : Option ℚ :=
  match f.evaluatedDevices.filterMap (·.medianOffsetSeconds) with
  | m :: m' :: rest =>
    some (Double.sub ((m' :: rest).foldl max m) ((m' :: rest).foldl min m))
  | _ => none

def status (f : ClockSkewFinding) : String :=
  match f.spanSeconds with
  | none => "not_evaluated"
  | some span => if f.boundSeconds < span then "skew_detected" else "within_bound"

end ClockSkewFinding

def assessClockSkew (parseFloat : String → Option ℚ) (env : Option String)
    (recordsByDevice : List (String × List Dict)) (bound : Option ℚ) :
    Except ClockError ClockSkewFinding := do
  let perDevice ← recordsByDevice.mapM (fun entry => summarizeDeviceOffsets digits entry.1 entry.2)
  let (resolvedBound, boundSource) := resolveBound parseFloat env bound
  pure ⟨perDevice, resolvedBound, boundSource⟩

variable {digits}

/-- A number of nanoseconds is in the years 1 to 9999, once it is rounded to a double. -/
def InRange (ns : Int) : Prop := -62135596800000003814 ≤ ns ∧ ns ≤ 253402300799999984741

/-- A timestamp is a text, and where it has the shape of one the ingest timestamp, if it is a
number, is in range. -/
def Readable (digits : DigitTable) (record : Dict) : Prop :=
  ∃ text, (record.get? "timestamp").getD (.str "") = .str text ∧
    ((parseDeviceTimestamp digits text).isSome = true →
      ∀ ns, parseIngestNs digits ((record.get? "ingest_timestamp_ns").getD .none) = some ns →
        InRange ns)

/-- Both sides of a record denote an instant: the device's date is one of the year of the ingest
timestamp, or of a year next to it. -/
def DenoteInstants (digits : DigitTable) (record : Dict) : Prop :=
  ∃ text parsed ns micros year, (record.get? "timestamp").getD (.str "") = .str text ∧
    parseDeviceTimestamp digits text = some parsed ∧
    parseIngestNs digits ((record.get? "ingest_timestamp_ns").getD .none) = some ns ∧
    ingestDatetime ns = .ok micros ∧
    |year - yearOfMicros micros| ≤ 1 ∧ 1 ≤ year ∧ year ≤ 9999 ∧
    parsed.onCalendar (isLeap year) = true

end ClockSkew

end NetTools
