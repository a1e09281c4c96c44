import NetTools.EventAgent.Gate
import NetTools.EventStore.Records

/-!
# One run over the event store

`event_agent.run_event`: the event is taken up in the store, the gate refuses or clears it,
and every later exit settles the row. What lies outside the function (the admission files, the
MCP server, the bounded loop with its model) is an input that may behave in any way.
-/

namespace NetTools

/-- The outcome of a run, as far as the store and the caller branch on it. -/
structure EventRun where
  ran : Bool
  reason : String
  mode : String
  stoppedBecause : String
  complete : Bool
  limitsHit : List Dict := []
  ticketRunId : Option String := none

/-- How `admission.admit_event_run` ends. -/
inductive AdmissionOutcome where
  | admitted
  | denied (scope reason : String)
  | raised (message : String)

/-- What `_dispatch` did: its calls to the tables beside the lifecycle, and the run it
returned or the text of its exception. -/
structure Dispatched where
  calls : List SideCall
  outcome : Except String EventRun

structure RunClock where
  receivedAt : Datetime
  createdAt : Datetime
  admittedAt : Datetime
  runningAt : Datetime
  shadowAt : Datetime
  retryAt : Datetime
  settledAt : Datetime
  resettledAt : Datetime

structure RunInputs where
  decision : RoutingDecision
  /-- `decision.event_id`. -/
  eventId : String
  clock : RunClock
  /-- The decimal digits that `int` reads. -/
  digits : DigitTable
  /-- `time.time()` at the age check. -/
  time : ℚ
  /-- `NETTOOLS_MAX_EVENT_AGE_SECONDS`, or its default. -/
  maxEventAge : ℚ
  limitText : ℚ → String
  triggerTable : List TriggerEntry
  callerGiven : Bool
  toolsetGiven : Bool
  admits : Bool
  admission : AdmissionOutcome
  dispatch : PinnedContext → String → Dispatched
  /-- The texts of the exceptions of the MCP server's start and shutdown, if any. -/
  mcpStart : Option String
  mcpExit : Option String
  /-- The text of the exception of `admission.finish_event_run`, if any, on its first call
  and on the one after a failed live session. -/
  finish : EventRun → Option String
  finishAgain : EventRun → Option String

namespace RunInputs

variable (i : RunInputs) (lease : Option EventRecord)

def device : String := (i.decision.device.filter (· ≠ "")).getD "unknown"

def payload : Dict := i.decision.envelopePayload i.eventId i.clock.receivedAt

def ageRefusal : Except String (Option String) :=
  eventAgeRefusal i.digits i.decision i.maxEventAge i.limitText i.time

def checkLease (s : EventStore) (record : EventRecord) : Except StoreError EventRecord :=
  match lease with
  | some held =>
    match s.get i.eventId with
    | none => .error (storeError "event lease does not match current durable work")
    | some current =>
      if held.eventId ≠ i.eventId ∨ current.state ≠ .running ∨
          current.leaseOwner ≠ held.leaseOwner ∨ current.leaseEpoch ≠ held.leaseEpoch then
        .error (storeError "event lease does not match current durable work")
      else .ok current
  | none =>
    if record.state = .running ∧ record.leaseOwner ≠ none then
      .error (storeError "active event lease context is required")
    else .ok record

/-- The move to `admitted` that a received or retryable event makes first. -/
def readmission (s : EventStore) (record : EventRecord) : Except StoreError EventStore :=
  if lease.isNone && (record.state = .retryableFailed || record.state = .received) then
    (s.transition i.eventId .admitted none none none none i.clock.admittedAt).map Prod.snd
  else .ok s

/-- The store part of a run: `none` when the event has been taken up, the record when it was
already completed. -/
def enterStore (s : EventStore) : Except StoreError (Option EventRecord) × EventStore :=
  match s.createOrGet i.eventId i.device i.payload false i.clock.createdAt with
  | .error e => (.error e, s)
  | .ok ((found, created), s₁) =>
    match i.checkLease lease s₁ found with
    | .error e => (.error e, s₁)
    | .ok record =>
      if !created && record.state = .completed then (.ok (some record), s₁)
      else
        match i.readmission lease s₁ record with
        | .error e => (.error e, s₁)
        | .ok s₂ =>
          if record.state = .running then (.ok none, s₂)
          else
            match s₂.transition i.eventId .running none none none none i.clock.runningAt with
            | .error e => (.error e, s₂)
            | .ok (_, s₃) => (.ok none, s₃)

/-- `store_terminal`: a complete run completes the event, any other schedules a retry. -/
def settle (s : EventStore) (run : EventRun) (now : Datetime) : EventStore :=
  let owner := lease.bind EventRecord.leaseOwner
  let epoch := lease.map EventRecord.leaseEpoch
  match s.get i.eventId with
  | none => s
  | some current =>
    if run.complete then
      s.after (s.transition i.eventId .completed none run.ticketRunId owner epoch now)
    else if current.state = .admitted ∨ current.state = .running then
      s.after (s.scheduleRetry i.eventId run.stoppedBecause run.ticketRunId 5 3 owner epoch now)
    else s

def stopped (reason mode stoppedBecause : String) : EventRun :=
  { ran := false, reason, mode, stoppedBecause, complete := false }

end RunInputs

inductive RunOutcome where
  | returned (run : EventRun)
  | raised (message : String)

namespace RunInputs

variable (i : RunInputs) (lease : Option EventRecord)

def finishAdmission (finish : EventRun → Option String) (run : EventRun) : Option String :=
  if i.admits then finish run else none

def mcpFailed (s : EventStore) (message : String) : RunOutcome × EventStore :=
  let run := stopped s!"could not start the live MCP server: {message}" "live" "mcp_start_failed"
  match i.finishAdmission i.finishAgain run with
  | some raised => (.raised raised, s)
  | none => (.returned run, i.settle lease s run i.clock.resettledAt)

def dispatchFixtures (s : EventStore) (context : PinnedContext) : RunOutcome × EventStore :=
  let dispatched := i.dispatch context "fixtures"
  let s₁ := Runs.final EventStore.sideStep s dispatched.calls
  match dispatched.outcome with
  | .error message => (.raised message, s₁)
  | .ok run =>
    match i.finishAdmission i.finish run with
    | some message => (.raised message, s₁)
    | none => (.returned run, i.settle lease s₁ run i.clock.settledAt)

def dispatchLive (s : EventStore) (context : PinnedContext) : RunOutcome × EventStore :=
  match i.mcpStart with
  | some message => i.mcpFailed lease s message
  | none =>
    let dispatched := i.dispatch context "live"
    let s₁ := Runs.final EventStore.sideStep s dispatched.calls
    match dispatched.outcome with
    | .error message => i.mcpFailed lease s₁ message
    | .ok run =>
      match i.finishAdmission i.finish run with
      | some message => i.mcpFailed lease s₁ message
      | none =>
        let s₂ := i.settle lease s₁ run i.clock.settledAt
        match i.mcpExit with
        | some message => i.mcpFailed lease s₂ message
        | none => (.returned run, s₂)

def dispatchPhase (s : EventStore) (context : PinnedContext) : RunOutcome × EventStore :=
  if i.toolsetGiven then i.dispatchFixtures lease s context else i.dispatchLive lease s context

def refuseAdmission (s : EventStore) (scope reason : String) : EventStore :=
  match s.recordAdmissionShadow i.eventId false (some s!"{scope}: {reason}") i.clock.shadowAt with
  | .error _ => s
  | .ok (_, s₁) =>
    s₁.after (s₁.scheduleRetry i.eventId s!"legacy admission refused: {scope}" none 5 3 none none
      i.clock.retryAt)

def admitPhase (s : EventStore) (context : PinnedContext) : RunOutcome × EventStore :=
  if i.admits then
    match i.admission with
    | .raised message => (.raised message, s)
    | .denied scope reason =>
      (.returned
        { stopped s!"event admission refused ({scope}): {reason}"
            (if i.toolsetGiven then "fixtures" else "live") "event_admission_refused" with
          limitsHit := [[("limit", .str scope), ("reason", .str reason)]] },
        i.refuseAdmission s scope reason)
    | .admitted =>
      i.dispatchPhase lease
        (s.after (s.recordAdmissionShadow i.eventId true none i.clock.shadowAt)) context
  else i.dispatchPhase lease s context

def runEvent (s : EventStore) : RunOutcome × EventStore :=
  match i.enterStore lease s with
  | (.error e, s₁) =>
    (.returned (stopped s!"durable event store unavailable: {e.message}" "plan"
      "event_store_failed"), s₁)
  | (.ok (some record), s₁) =>
    (.returned
      { stopped "event already completed in durable store" "plan"
          "event_store_completed_duplicate" with
        complete := true
        ticketRunId := record.ticketId }, s₁)
  | (.ok none, s₁) =>
    match if lease.isSome then .ok none else i.ageRefusal with
    | .error message => (.raised message, s₁)
    | .ok (some reason) =>
      (.returned
        { stopped reason "plan" "stale_event" with
          limitsHit := [[("limit", .str "event_age"), ("reason", .str reason)]] }, s₁)
    | .ok none =>
      match resolveContext i.triggerTable i.decision with
      | .raised message => (.raised message, s₁)
      | .refused reason => (.returned (stopped reason "plan" "not_run"), s₁)
      | .cleared _ context =>
        if !i.callerGiven then
          (.returned (stopped "no ModelCaller supplied; run_event needs one to drive the loop"
            "plan" "not_run"), s₁)
        else i.admitPhase lease s₁ context

end RunInputs

end NetTools
