import Mathlib.Algebra.Ring.Int.Defs
import Mathlib.Logic.Function.Basic
import NetTools.Library.LastRow
import NetTools.Python.Digits
import NetTools.Python.Double

/-!
# Operational counters

`metrics.py`: the counters of a collector, the document that holds them on disk, and its adoption
by a reload. The numbers of the document are doubles, whose rounding is a parameter.
-/

namespace NetTools

namespace Metrics

/-- What `json.loads` returns. -/
inductive Json where
  | null
  | bool (b : Bool)
  | int (i : ℤ)
  | float (f : PyFloat)
  | str (s : String)
  | list (items : List Json)
  | dict (entries : List (String × Json))

mutual

/-- No integer is too long for `json.dumps` to print it. -/
def Json.fits : Json → Bool
  | .int i => intFits i
  | .list items => Json.itemsFit items
  | .dict entries => Json.entriesFit entries
  | .null | .bool _ | .float _ | .str _ => true

def Json.itemsFit : List Json → Bool
  | [] => true
  | item :: items => item.fits && Json.itemsFit items

def Json.entriesFit : List (String × Json) → Bool
  | [] => true
  | (_, value) :: entries => value.fits && Json.entriesFit entries

end

/-- `value.get(key)` if the value is a `dict`. -/
def Json.get? : Json → String → Option Json
  | .dict entries, key => entries.lookup key
  | _, _ => none

/-- The number operations of the runtime. `round` is the double closest to a rational. -/
structure Numerals where
  round : ℚ → PyFloat
  parseFloat : String → Option PyFloat
  parseInt : String → Option ℤ
  div : PyFloat → PyFloat → PyFloat
  roundSix : PyFloat → PyFloat

inductive ConversionError where
  | value
  | type
  | overflow
  deriving DecidableEq

variable (R : Numerals)

/-- `float(value)`. -/
def pyFloat : Json → Except ConversionError PyFloat
  | .bool b => .ok (.finite (if b then 1 else 0))
  | .int i =>
    match R.round i with
    | .finite q => .ok (.finite q)
    | _ => .error .overflow
  | .float f => .ok f
  | .str s => (R.parseFloat s).elim (.error .value) .ok
  | _ => .error .type

/-- `int(value)`. -/
def pyInt : Json → Except ConversionError ℤ
  | .bool b => .ok (if b then 1 else 0)
  | .int i => .ok i
  | .float (.finite q) => .ok (q.num.tdiv q.den)
  | .float (.inf _) => .error .overflow
  | .float .nan => .error .value
  | .str s => (R.parseInt s).elim (.error .value) .ok
  | _ => .error .type

/-- `a + b`. -/
def addFloat : PyFloat → PyFloat → PyFloat
  | .finite a, .finite b => R.round (a + b)
  | .nan, _ => .nan
  | _, .nan => .nan
  | .inf s, .inf t => if s = t then .inf s else .nan
  | .inf s, .finite _ => .inf s
  | .finite _, .inf s => .inf s

/-! ### Counters -/

/-- `SEVERITIES`. -/
inductive Severity where
  | ok
  | info
  | warning
  | unreachable
  | critical
  deriving DecidableEq

def SEVERITIES : List Severity := [.ok, .info, .warning, .unreachable, .critical]

def Severity.text : Severity → String
  | .ok => "ok"
  | .info => "info"
  | .warning => "warning"
  | .unreachable => "unreachable"
  | .critical => "critical"

/-- `PARAPHRASE_OUTCOMES`. -/
inductive ParaphraseOutcome where
  | emitted
  | withheld
  | coverageLimited
  | notAttempted
  deriving DecidableEq

def PARAPHRASE_OUTCOMES : List ParaphraseOutcome :=
  [.emitted, .withheld, .coverageLimited, .notAttempted]

def ParaphraseOutcome.text : ParaphraseOutcome → String
  | .emitted => "emitted"
  | .withheld => "withheld"
  | .coverageLimited => "coverage_limited"
  | .notAttempted => "not_attempted"

lemma mem_severities (s : Severity) : s ∈ SEVERITIES := by cases s <;> decide

lemma mem_paraphraseOutcomes (o : ParaphraseOutcome) : o ∈ PARAPHRASE_OUTCOMES := by
  cases o <;> decide

lemma Severity.text_injective : Function.Injective Severity.text := by
  intro a b
  cases a <;> cases b <;> decide

lemma ParaphraseOutcome.text_injective : Function.Injective ParaphraseOutcome.text := by
  intro a b
  cases a <;> cases b <;> decide

/-- `_EMPTY_DEVICE_STATS`. -/
structure DeviceStats where
  success : PyFloat := .finite 0
  failure : PyFloat := .finite 0
  latencyTotalS : PyFloat := .finite 0
  latencyCount : PyFloat := .finite 0
  retriesTotal : PyFloat := .finite 0

/-- The state of a `MetricsCollector`. -/
structure Counters where
  collections : List (String × DeviceStats) := []
  verdicts : Severity → ℤ := fun _ => 0
  paraphrases : ParaphraseOutcome → ℤ := fun _ => 0

inductive MetricEvent where
  | collection (device : String) (success : Bool) (durationS : ℚ) (retries : Nat)
  | verdict (severity : Severity)
  | paraphrase (outcome : ParaphraseOutcome)

namespace DeviceStats

def recorded (s : DeviceStats) (success : Bool) (durationS : ℚ) (retries : Nat) : DeviceStats where
  success := if success then addFloat R s.success (.finite 1) else s.success
  failure := if success then s.failure else addFloat R s.failure (.finite 1)
  latencyTotalS := addFloat R s.latencyTotalS (.finite durationS)
  latencyCount := addFloat R s.latencyCount (.finite 1)
  retriesTotal := addFloat R s.retriesTotal (.finite retries)

end DeviceStats

def Counters.stats (c : Counters) (device : String) : DeviceStats :=
  (c.collections.lookup device).getD {}

/-- `apply_delta`. -/
def Counters.apply (c : Counters) : MetricEvent → Counters
  | .collection device success durationS retries =>
    { c with
      collections := LastRow.assign c.collections device
        ((c.stats device).recorded R success durationS retries) }
  | .verdict severity =>
    { c with verdicts := Function.update c.verdicts severity (c.verdicts severity + 1) }
  | .paraphrase outcome =>
    { c with paraphrases := Function.update c.paraphrases outcome (c.paraphrases outcome + 1) }

/-! ### The document on disk -/

def DeviceStats.document (s : DeviceStats) : Json :=
  .dict [("success", .float s.success), ("failure", .float s.failure),
    ("latency_total_s", .float s.latencyTotalS), ("latency_count", .float s.latencyCount),
    ("retries_total", .float s.retriesTotal)]

/-- The document that `_persist` writes. -/
def Counters.document (c : Counters) : Json :=
  .dict [("collections", .dict (c.collections.map (fun entry => (entry.1, entry.2.document)))),
    ("verdicts", .dict (SEVERITIES.map (fun s => (s.text, .int (c.verdicts s))))),
    ("paraphrases", .dict (PARAPHRASE_OUTCOMES.map (fun o => (o.text, .int (c.paraphrases o)))))]

/-- `float(stats.get(key, default))`. -/
def readStat (stats : List (String × Json)) (key : String) (default : Json) :
    Except ConversionError PyFloat :=
  pyFloat R ((stats.lookup key).getD default)

def readStats (stats : List (String × Json)) : Except ConversionError DeviceStats := do
  let success ← readStat R stats "success" (.int 0)
  let failure ← readStat R stats "failure" (.int 0)
  let latencyTotalS ← readStat R stats "latency_total_s" (.float (.finite 0))
  let latencyCount ← readStat R stats "latency_count" (.int 0)
  let retriesTotal ← readStat R stats "retries_total" (.int 0)
  return { success, failure, latencyTotalS, latencyCount, retriesTotal }

/-- The comprehension over `collections.items()`. -/
def readCollections : List (String × Json) → Except ConversionError (List (String × DeviceStats))
  | [] => .ok []
  | (name, .dict stats) :: rest => do
    let read ← readStats R stats
    let others ← readCollections rest
    return (name, read) :: others
  | _ :: rest => readCollections rest

/-- `int(counts.get(name, 0))`. -/
def readCount (counts : List (String × Json)) (name : String) : Except ConversionError ℤ :=
  pyInt R ((counts.lookup name).getD (.int 0))

def assignCounts {κ : Type} [DecidableEq κ] (text : κ → String) (counts : List (String × Json)) :
    List κ → (κ → ℤ) → Except ConversionError Unit × (κ → ℤ)
  | [], memory => (.ok (), memory)
  | k :: ks, memory =>
    match readCount R counts (text k) with
    | .error e => (.error e, memory)
    | .ok i => assignCounts text counts ks (Function.update memory k i)

/-- One part of counts, which is skipped unless it is a `dict`. -/
def applyCounts {κ : Type} [DecidableEq κ] (text : κ → String) (names : List κ)
    (part : Option Json) (memory : κ → ℤ) : Except ConversionError Unit × (κ → ℤ) :=
  match part with
  | some (.dict counts) => assignCounts R text counts names memory
  | _ => (.ok (), memory)

/-- The part of the devices, which is skipped unless it is a `dict`. -/
def applyCollections (part : Option Json) (memory : List (String × DeviceStats)) :
    Except ConversionError (List (String × DeviceStats)) :=
  match part with
  | some (.dict entries) => readCollections R entries
  | _ => .ok memory

def Counters.applyRawDocument (c : Counters) (raw : Json) :
    Except ConversionError Unit × Counters :=
  match applyCollections R (raw.get? "collections") c.collections with
  | .error e => (.error e, c)
  | .ok collections =>
    let verdicts := applyCounts R Severity.text SEVERITIES (raw.get? "verdicts") c.verdicts
    let c := { c with collections, verdicts := verdicts.2 }
    match verdicts.1 with
    | .error e => (.error e, c)
    | .ok () =>
      let paraphrases := applyCounts R ParaphraseOutcome.text PARAPHRASE_OUTCOMES
        (raw.get? "paraphrases") c.paraphrases
      (paraphrases.1, { c with paraphrases := paraphrases.2 })

/-- The metrics file, by what reading it and `json.loads` make of it. -/
inductive FileContent where
  | missing
  | notJson
  | tooDeep
  | document (raw : Json)

/-- What escapes a call: the text of the file is too deep, a value of it does not convert, or a
count is too long for `json.dumps`. -/
inductive ReloadError where
  | recursion
  | conversion (e : ConversionError)
  | tooLong
  deriving DecidableEq

/-- `_reload_from_disk_locked`. Its guard has no clause for a `RecursionError`. -/
def Counters.reload (c : Counters) : FileContent → Except ReloadError Unit × Counters
  | .missing => (.ok (), c)
  | .notJson => (.ok (), c)
  | .tooDeep => (.error .recursion, c)
  | .document raw =>
    let applied := c.applyRawDocument R raw
    (applied.1.mapError .conversion, applied.2)

/-- `_mutate`: what it raises, the memory and the file. The guard of `_persist` has no clause for
the `ValueError` of a count that is too long to print. -/
def Counters.mutate (c : Counters) (file : FileContent) (event : MetricEvent) :
    Except ReloadError Unit × Counters × FileContent :=
  match c.reload R file with
  | (.error e, c) => (.error e, c, file)
  | (.ok (), c) =>
    if (c.apply R event).document.fits then
      (.ok (), c.apply R event, .document (c.apply R event).document)
    else (.error .tooLong, c.apply R event, file)

structure DeviceSnapshot where
  success : ℤ
  failure : ℤ
  retriesTotal : ℤ
  latencyTotalS : PyFloat
  latencyCount : ℤ
  latencyAvgS : Option PyFloat

structure Snapshot where
  collections : List (String × DeviceSnapshot)
  success : ℤ
  failure : ℤ
  retriesTotal : ℤ
  verdicts : Severity → ℤ
  paraphrases : ParaphraseOutcome → ℤ

def DeviceStats.snapshot (s : DeviceStats) : Except ConversionError DeviceSnapshot := do
  let success ← pyInt R (.float s.success)
  let failure ← pyInt R (.float s.failure)
  let retriesTotal ← pyInt R (.float s.retriesTotal)
  let latencyCount ← pyInt R (.float s.latencyCount)
  return {
    success, failure, retriesTotal, latencyCount
    latencyTotalS := R.roundSix s.latencyTotalS
    latencyAvgS :=
      if s.latencyCount = .finite 0 then none
      else some (R.roundSix (R.div s.latencyTotalS s.latencyCount)) }

def snapshotDevices : List (String × DeviceStats) →
    Except ConversionError (List (String × DeviceSnapshot))
  | [] => .ok []
  | (name, stats) :: rest => do
    let device ← stats.snapshot R
    let others ← snapshotDevices rest
    return (name, device) :: others

/-- The part of `snapshot` after its reload. -/
def Counters.render (c : Counters) : Except ConversionError Snapshot := do
  let devices ← snapshotDevices R (c.collections.insertionSort (fun a b => a.1 ≤ b.1))
  return {
    collections := devices
    success := (devices.map (fun d => d.2.success)).sum
    failure := (devices.map (fun d => d.2.failure)).sum
    retriesTotal := (devices.map (fun d => d.2.retriesTotal)).sum
    verdicts := c.verdicts
    paraphrases := c.paraphrases }

def Counters.snapshot (c : Counters) (file : FileContent) :
    Except ReloadError Snapshot × Counters :=
  match c.reload R file with
  | (.error e, c) => (.error e, c)
  | (.ok (), c) => ((c.render R).mapError .conversion, c)

end Metrics

end NetTools
