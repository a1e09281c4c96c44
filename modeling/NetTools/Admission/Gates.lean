import Mathlib.Algebra.Order.Ring.Rat
import NetTools.Library.KeyedTable
import NetTools.Library.SlidingWindow
import NetTools.Python.Value

/-!
# Admission gates

`admission.py`: the probe budgets and the event runs. Each gate reads and writes one file under
an exclusive lock, so that it is a function of the file's contents. A clock reading is a number of
seconds, and is taken before the lock except by `finish_event_run`.
-/

namespace NetTools

/-- A float setting with its `:g` text, which only messages show. -/
structure SecondsSetting where
  value : ℚ
  text : String

structure AdmissionRefusal where
  scope : String
  reason : String
deriving DecidableEq, Repr

def checkAndRecordWindow (file : List ℚ) (limit : Int) (windowSeconds now : ℚ) :
    Bool × List ℚ :=
  let kept := SlidingWindow.since id windowSeconds now file
  if limit ≤ kept.length then (false, file) else (true, kept ++ [now])

def isSafeNameChar (c : Char) : Bool :=
  c.isAlphanum || c == '_' || c == '.' || c == '-'

/-- The substitution of `_SAFE_NAME`: each run of other characters becomes one underscore. -/
def replaceUnsafe : List Char → List Char
  | [] => []
  | c :: cs =>
    if isSafeNameChar c then c :: replaceUnsafe cs
    else if cs.head?.all isSafeNameChar then '_' :: replaceUnsafe cs
    else replaceUnsafe cs

def sanitize (name : String) : String :=
  let safe := String.ofList (replaceUnsafe name.toList)
  if safe = "" then "unknown" else safe

/-- The environment of `check_probe_budget`. -/
structure ProbeSettings where
  window : SecondsSetting
  maxPerDevice : Int
  maxFabric : Int

namespace ProbeSettings

def deviceLimit (cfg : ProbeSettings) : Int := max 1 cfg.maxPerDevice

def fabricLimit (cfg : ProbeSettings) : Int := max 1 cfg.maxFabric

end ProbeSettings

abbrev WindowFiles := String → List ℚ

def probeDevicePath (deviceName : String) : String := "probes." ++ sanitize deviceName ++ ".log"

def probeFabricPath : String := "probes.fabric.log"

def checkFile (files : WindowFiles) (path : String) (limit : Int) (windowSeconds now : ℚ) :
    Bool × WindowFiles :=
  let (admitted, file) := checkAndRecordWindow (files path) limit windowSeconds now
  (admitted, Function.update files path file)

/-- The first half of `check_probe_budget`: the budget of the device. -/
def checkProbeDevice (cfg : ProbeSettings) (files : WindowFiles) (deviceName : String) (now : ℚ) :
    Except AdmissionRefusal Unit × WindowFiles :=
  match checkFile files (probeDevicePath deviceName) cfg.deviceLimit cfg.window.value now with
  | (true, files') => (.ok (), files')
  | (false, files') =>
    let limit := cfg.deviceLimit
    let window := cfg.window.text
    (.error ⟨"probe_device", s!"{limit} active probe(s) already sent to {deviceName} " ++
      s!"in the last {window}s (NETTOOLS_MAX_ACTIVE_PROBES_PER_DEVICE={limit})"⟩, files')

def checkProbeFabric (cfg : ProbeSettings) (files : WindowFiles) (now : ℚ) :
    Except AdmissionRefusal Unit × WindowFiles :=
  match checkFile files probeFabricPath cfg.fabricLimit cfg.window.value now with
  | (true, files') => (.ok (), files')
  | (false, files') =>
    let limit := cfg.fabricLimit
    let window := cfg.window.text
    (.error ⟨"probe_fabric", s!"{limit} active probe(s) already sent fabric-wide " ++
      s!"in the last {window}s (NETTOOLS_MAX_ACTIVE_PROBES_FABRIC={limit})"⟩, files')

/-- `check_probe_budget` of a caller that nobody comes between. A refusal by the fabric leaves the
device's record. -/
def checkProbeBudget (cfg : ProbeSettings) (files : WindowFiles) (deviceName : String) (now : ℚ) :
    Except AdmissionRefusal Unit × WindowFiles :=
  match checkProbeDevice cfg files deviceName now with
  | (.error refusal, files') => (.error refusal, files')
  | (.ok (), files') => checkProbeFabric cfg files' now

/-! ### Event runs -/

inductive RunStatus where
  | accepted
  | running
  | completed
  | terminalFailed
  | retryableFailed
deriving DecidableEq, Repr

namespace RunStatus

def text : RunStatus → String
  | accepted => "accepted"
  | running => "running"
  | completed => "completed"
  | terminalFailed => "terminal_failed"
  | retryableFailed => "retryable_failed"

end RunStatus

/-- An entry of `state["events"]`, with its key. -/
structure EventEntry where
  eventId : String
  device : String
  status : RunStatus
  updated : ℚ
deriving DecidableEq, Repr

/-- An entry of `state["starts"]`. -/
structure StartEntry where
  timestamp : ℚ
  device : String
  eventId : String
deriving DecidableEq, Repr

/-- `events.state.json`. -/
structure EventRunState where
  events : KeyedTable EventEntry.eventId := .empty
  starts : List StartEntry := []

/-- The environment of `admit_event_run`. -/
structure EventRunSettings where
  window : SecondsSetting
  idempotencyWindow : SecondsSetting
  maxPerDevice : Int
  maxFabric : Int

/-- `DEFAULT_EVENT_LEASE_SECONDS`. -/
def defaultEventLease : ℚ := 300

namespace EventRunSettings

variable (cfg : EventRunSettings)

def deviceLimit : Int := max 1 cfg.maxPerDevice

def fabricLimit : Int := max 1 cfg.maxFabric

def leaseSeconds : ℚ := min defaultEventLease (max 1 cfg.idempotencyWindow.value)

end EventRunSettings

namespace EventEntry

def active (entry : EventEntry) (leaseSeconds now : ℚ) : Bool :=
  entry.status ∈ [RunStatus.accepted, .running] && now - entry.updated < leaseSeconds

def completed (entry : EventEntry) : Bool :=
  entry.status ∈ [RunStatus.completed, .terminalFailed]

end EventEntry

namespace EventRunState

/-- The starts that count for a budget at `now`. -/
def retainedStarts (state : EventRunState) (cfg : EventRunSettings) (now : ℚ) : List StartEntry :=
  SlidingWindow.since StartEntry.timestamp cfg.window.value now state.starts

def retainedEvents (state : EventRunState) (cfg : EventRunSettings) (now : ℚ) :
    KeyedTable EventEntry.eventId :=
  state.events.filter (fun entry => now - cfg.idempotencyWindow.value ≤ entry.updated)

end EventRunState

def admitEventRun (cfg : EventRunSettings) (state : EventRunState) (eventId deviceName : String)
    (now : ℚ) : Except AdmissionRefusal Unit × EventRunState :=
  let retainedStarts := state.retainedStarts cfg now
  let retainedEvents := state.retainedEvents cfg now
  match (retainedEvents.get? eventId).filter
      (fun prior => prior.active cfg.leaseSeconds now || prior.completed) with
  | some prior =>
    let status := prior.status.text
    let window := cfg.idempotencyWindow.text
    (.error ⟨"event_idempotency",
      s!"event_id {eventId} is {status} within the {window}s idempotency window"⟩, state)
  | none =>
    let window := cfg.window.text
    if cfg.deviceLimit ≤ (retainedStarts.filter (fun e => e.device = deviceName)).length then
      let limit := cfg.deviceLimit
      (.error ⟨"event_device", s!"{limit} event run(s) already started for {deviceName} " ++
        s!"in the last {window}s (NETTOOLS_MAX_EVENT_RUNS_PER_DEVICE={limit})"⟩, state)
    else if cfg.fabricLimit ≤ retainedStarts.length then
      let limit := cfg.fabricLimit
      (.error ⟨"event_fabric", s!"{limit} event run(s) already started fabric-wide " ++
        s!"in the last {window}s (NETTOOLS_MAX_EVENT_RUNS_FABRIC={limit})"⟩, state)
    else
      (.ok (),
        { starts := retainedStarts ++ [⟨now, deviceName, eventId⟩]
          events := retainedEvents.upsert ⟨eventId, deviceName, .accepted, now⟩
            (fun e => { e with device := deviceName, status := .accepted, updated := now })
            (fun _ => rfl) })

def finishEventRun (state : EventRunState) (eventId : String) (completed : Bool) (now : ℚ) :
    EventRunState :=
  { state with
    events := state.events.modify eventId
      (fun e => { e with
        status := if completed then .completed else .retryableFailed, updated := now })
      (fun _ => rfl) }

theorem checkFile_cases (files : WindowFiles) (path : String) (limit : Int)
    (windowSeconds now : ℚ) :
    checkFile files path limit windowSeconds now = (false, files) ∨
      (((SlidingWindow.since id windowSeconds now (files path)).length : Int) < limit ∧
        checkFile files path limit windowSeconds now =
          (true, Function.update files path
            (SlidingWindow.since id windowSeconds now (files path) ++ [now]))) := by
  unfold checkFile checkAndRecordWindow
  dsimp only
  split
  · exact .inl (by rw [Function.update_eq_self])
  · rename_i hroom
    exact .inr ⟨not_le.mp hroom, rfl⟩

lemma EventRunState.retainedEvents_of_kept {cfg : EventRunSettings} {state : EventRunState}
    {eventId : String} {entry : EventEntry} {now : ℚ}
    (hentry : state.events.get? eventId = some entry)
    (hkept : now - cfg.idempotencyWindow.value ≤ entry.updated) :
    (state.retainedEvents cfg now).get? eventId = some entry := by
  rw [retainedEvents, KeyedTable.get?_filter, hentry]
  exact Option.filter_some_pos (decide_eq_true hkept)

theorem admitEventRun_refused {cfg : EventRunSettings} {state : EventRunState}
    {eventId deviceName : String} {now : ℚ} {refusal : AdmissionRefusal}
    (h : (admitEventRun cfg state eventId deviceName now).1 = .error refusal) :
    (admitEventRun cfg state eventId deviceName now).2 = state := by
  unfold admitEventRun at h ⊢
  dsimp only at h ⊢
  split
  · rfl
  · rename_i hfree
    rw [hfree] at h
    split
    · rfl
    · rename_i hdevice
      rw [if_neg hdevice] at h
      split
      · rfl
      · rename_i hfabric
        rw [if_neg hfabric] at h
        cases h

theorem admitEventRun_admitted {cfg : EventRunSettings} {state state' : EventRunState}
    {eventId deviceName : String} {now : ℚ}
    (h : admitEventRun cfg state eventId deviceName now = (.ok (), state')) :
    (∀ prior, (state.retainedEvents cfg now).get? eventId = some prior →
        prior.active cfg.leaseSeconds now = false) ∧
      (((state.retainedStarts cfg now).filter (fun e => e.device = deviceName)).length : Int) <
        cfg.deviceLimit ∧
      ((state.retainedStarts cfg now).length : Int) < cfg.fabricLimit ∧
      state'.starts = state.retainedStarts cfg now ++ [⟨now, deviceName, eventId⟩] ∧
      state'.events.get? eventId = some ⟨eventId, deviceName, .accepted, now⟩ ∧
      ∀ other, other ≠ eventId →
        state'.events.get? other = (state.retainedEvents cfg now).get? other := by
  unfold admitEventRun at h
  dsimp only at h
  split at h
  · cases h
  rename_i hfree
  split at h
  · cases h
  rename_i hdevice
  split at h
  · cases h
  rename_i hfabric
  cases h
  refine ⟨?_, not_le.mp hdevice, not_le.mp hfabric, rfl, ?_, ?_⟩
  · intro prior hprior
    rw [hprior, Option.filter_eq_none_iff] at hfree
    have hno := hfree prior rfl
    simp only [Bool.or_eq_true, not_or, Bool.not_eq_true] at hno
    exact hno.1
  · have hkeep : ∀ e : EventEntry, EventEntry.eventId { e with
        device := deviceName, status := .accepted, updated := now } = e.eventId := fun _ => rfl
    have hself := KeyedTable.get?_upsert_self (t := state.retainedEvents cfg now)
      (r := ⟨eventId, deviceName, .accepted, now⟩) hkeep
    dsimp only at hself ⊢
    rw [hself]
    cases hprior : (state.retainedEvents cfg now).get? eventId with
    | none => rfl
    | some prior =>
      have hkey : prior.eventId = eventId := KeyedTable.key_of_get? hprior
      simp [hkey]
  · intro other hother
    exact KeyedTable.get?_upsert_of_ne _ hother

end NetTools
