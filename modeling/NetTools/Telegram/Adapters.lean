import NetTools.EventAgent.Dispatch
import NetTools.Telegram.EveryChat
import NetTools.Templates.Parameters

/-!
# What a run tells its cards

`investigation_activity_adapters.py`, and the activities that the event agent hands to the
coordinators of a run: a start, the steps of its tool calls, and the rungs and the verdict of its
receipt. The ticket of the run holds all that they are made of.
-/

namespace NetTools

def ActivityKind.value : ActivityKind → String
  | .started => "started"
  | .planDeclared => "plan_declared"
  | .stageStarted => "stage_started"
  | .stageCompleted => "stage_completed"
  | .rungObserved => "rung_observed"
  | .toolRefused => "tool_refused"
  | .toolSelected => "tool_selected"
  | .commandPreview => "command_preview"
  | .toolResultSummary => "tool_result_summary"
  | .visibleReasoningTail => "visible_reasoning_tail"
  | .retrying => "retrying"
  | .humanInputRequired => "human_input_required"
  | .completed => "completed"
  | .failed => "failed"

/-- The arguments of `InvestigationActivity(...)`. -/
structure ActivityArgs where
  activityId : String
  incidentId : String
  eventId : String
  sequence : Int
  kind : ActivityKind
  status : ActivityStatus
  stage : Option String := none
  finding : Option String := none
  classification : Option String := none
  rung : Option String := none
  device : Option String := none
  limitation : Option String := none
  tool : Option String := none
  commandLabel : Option String := none
  durationMs : Option Int := none
  evidenceKeys : List String := []
  visibleSummary : List String := []

/-- The checks of `__post_init__`, with the texts of its `ValueError`s. -/
def ActivityArgs.activity (a : ActivityArgs) : Except String InvestigationActivity :=
  if identified : a.activityId ≠ "" ∧ a.incidentId ≠ "" ∧ a.eventId ≠ "" then
    if numbered : 0 ≤ a.sequence then
      if staged : a.kind ∈ [.stageStarted, .stageCompleted, .rungObserved] →
          hasText a.stage = true then
        if runged : a.kind = .rungObserved → hasText a.rung = true then
          if classed : a.kind = .completed → hasText a.classification = true then
            if tooled : a.kind ∈ [.toolSelected, .commandPreview, .toolResultSummary] →
                hasText a.tool = true then
              if labelled : a.kind = .commandPreview → hasText a.commandLabel = true then
                if timed : ∀ ms ∈ a.durationMs, 0 ≤ ms then
                  if summed : a.visibleSummary.length ≤ 2 ∧
                      a.visibleSummary.all (fun sentence => !isBlank sentence) = true then
                    .ok ⟨a.activityId, a.incidentId, a.eventId, a.sequence, a.kind, a.status,
                      a.stage, a.finding, a.classification, a.rung, a.device, a.limitation, a.tool,
                      a.commandLabel, a.durationMs, a.evidenceKeys, a.visibleSummary, identified,
                      numbered, staged, runged, classed, tooled, labelled, timed, summed⟩
                  else .error "visible reasoning tail must contain one or two non-empty sentences"
                else .error "activity duration must be non-negative"
              else .error "command_preview activity requires a command label"
            else .error (a.kind.value ++ " activity requires a tool")
          else .error "completed activity requires a classification"
        else .error "rung_observed activity requires a rung"
      else .error (a.kind.value ++ " activity requires a stage")
    else .error "activity sequence must be non-negative"
  else .error "activity identity fields must be non-empty"

def InvestigationActivity.args (a : InvestigationActivity) : ActivityArgs :=
  ⟨a.activityId, a.incidentId, a.eventId, a.sequence, a.kind, a.status, a.stage, a.finding,
    a.classification, a.rung, a.device, a.limitation, a.tool, a.commandLabel, a.durationMs,
    a.evidenceKeys, a.visibleSummary⟩

theorem ActivityArgs.activity_args {a : ActivityArgs} {activity : InvestigationActivity}
    (h : a.activity = .ok activity) : activity.args = a := by
  unfold ActivityArgs.activity at h
  split at h <;> [skip; cases h]
  split at h <;> [skip; cases h]
  split at h <;> [skip; cases h]
  split at h <;> [skip; cases h]
  split at h <;> [skip; cases h]
  split at h <;> [skip; cases h]
  split at h <;> [skip; cases h]
  split at h <;> [skip; cases h]
  split at h <;> [skip; cases h]
  cases h
  rfl

/-- `f"{event_id}:{tag}:{text}"`. -/
def taggedId (eventId tag text : String) : String := eventId ++ ":" ++ tag ++ ":" ++ text

/-- `f"{event_id}:{tag}:{sequence}"`. -/
def numberedId (eventId tag : String) (sequence : Int) : String :=
  taggedId eventId tag (String.ofList (integerText sequence))

namespace Adapters

def toolSelectedActivity (incidentId eventId : String) (sequence : Int) (tool : String)
    (stage : Option String) : Except String InvestigationActivity :=
  ActivityArgs.activity
    { activityId := numberedId eventId "tool-selected" sequence
      incidentId, eventId, sequence
      kind := .toolSelected
      status := .running
      stage
      tool := some tool }

def commandPreviewActivity (incidentId eventId : String) (sequence : Int)
    (tool device commandLabel : String) : Except String InvestigationActivity :=
  ActivityArgs.activity
    { activityId := numberedId eventId "command-preview" sequence
      incidentId, eventId, sequence
      kind := .commandPreview
      status := .running
      stage := some tool
      tool := some tool
      device := some device
      commandLabel := some commandLabel }

def toolResultActivity (incidentId eventId : String) (sequence : Int) (tool device : String)
    (isError : Bool) (durationMs : Int) : Except String InvestigationActivity :=
  ActivityArgs.activity
    { activityId := numberedId eventId "tool-result" sequence
      incidentId, eventId, sequence
      kind := .toolResultSummary
      status := if isError then .anomaly else .healthy
      stage := some tool
      tool := some tool
      device := some device
      durationMs := some durationMs }

/-- `flow` is `decision.flow`. -/
def startedActivity (incidentId eventId : String) (flow : Option String) (sequence : Int) :
    Except String InvestigationActivity :=
  ActivityArgs.activity
    { activityId := eventId ++ ":started"
      incidentId, eventId, sequence
      kind := .started
      status := .queued
      stage := orText flow (some "investigation") }

def visibleReasoningTailActivity (incidentId eventId : String) (sequence : Int) (finding : String)
    (trustworthy : Bool) (coverageComplete : Option Bool) : Except String InvestigationActivity :=
  if finding = "" then .error "visible reasoning tail requires a deterministic finding"
  else
    let limitation :=
      if !trustworthy then
        "Evidence is not trustworthy; this is not a final causal explanation."
      else if coverageComplete = some false then
        "Evidence coverage is incomplete; this is not a final causal explanation."
      else "Evidence is deterministic but this is not a final causal explanation."
    ActivityArgs.activity
      { activityId := numberedId eventId "reasoning-tail" sequence
        incidentId, eventId, sequence
        kind := .visibleReasoningTail
        status := .inconclusive
        finding := some finding
        visibleSummary :=
          ["Deterministic investigation classified the event as " ++ finding ++ ".", limitation] }

/-- `_classification`. -/
def classificationOf (receipt : InvestigationReceipt) : String :=
  if receipt.finding ∈ ["all_layers_healthy", "no_fault_on_path"] then "NO_ACTIVE_FAULT"
  else if receipt.finding = "subject_not_found" then "SUBJECT_INVALID"
  else if receipt.finding ∈ ["undetermined", "temporally_incoherent"] ∨
      receipt.trustworthy = false then "INCONCLUSIVE"
  else if receipt.cause.isSome then "ACTIVE_FAULT_LOCALIZED"
  else "INCONCLUSIVE"

/-- `_limitation`. -/
def limitationOf (receipt : InvestigationReceipt) : Option String :=
  if receipt.trustworthy = false then some "deterministic evidence is not trustworthy"
  else if receipt.coherence.any (fun entries => isTrue (entries.fetch "refuses")) then
    some "evidence coherence refused a final diagnosis"
  else if receipt.coverage.any (fun entries => isFalse (entries.fetch "complete")) then
    some "evidence coverage is incomplete"
  else none

def rungStatus (rung : Dict) : ActivityStatus :=
  if (rung.fetch "status").pyEq (.str "unevaluated") then .inconclusive
  else if (rung.fetch "status").pyEq (.str "healthy") then .healthy
  else .anomaly

section receipts

variable (str : Value → String) (receipt : InvestigationReceipt) (incidentId eventId : String)

def rungActivity (sequence : Int) (rung : Dict) : Except String InvestigationActivity :=
  ActivityArgs.activity
    { activityId := taggedId eventId "rung" (str (rung.fetch "position"))
      incidentId, eventId, sequence
      kind := .rungObserved
      status := rungStatus rung
      stage := some receipt.flow
      rung := (rung.fetch "rung").str?
      device := (rung.fetch "device").str?
      finding := some receipt.finding }

def rungActivities (sequence : Int) : List Dict → Except String (List InvestigationActivity)
  | [] => .ok []
  | rung :: rest => do
    let activity ← rungActivity str receipt incidentId eventId (sequence + 1) rung
    let activities ← rungActivities (sequence + 1) rest
    .ok (activity :: activities)

def terminalActivity (sequence : Int) : Except String InvestigationActivity :=
  ActivityArgs.activity
    { activityId := eventId ++ ":terminal"
      incidentId, eventId, sequence
      kind := .completed
      status := .completed
      stage := some receipt.flow
      finding := some receipt.finding
      classification := some (classificationOf receipt)
      limitation := limitationOf receipt }

def activitiesForReceipt (sequenceStart : Int) : Except String (List InvestigationActivity) := do
  let rungs ← rungActivities str receipt incidentId eventId sequenceStart receipt.rungs
  let terminal ← terminalActivity receipt incidentId eventId
    (sequenceStart + receipt.rungs.length + 1)
  .ok (rungs ++ [terminal])

end receipts

end Adapters

def chatCommandLabel (str : Value → String) (tool : String) (arguments : Dict) : String :=
  if tool = "investigate_lab" then
    "deterministic " ++ str ((arguments.get? "flow").getD (.str "network")) ++ " investigation"
  else if tool = "explore_lab" then "inventory and health context"
  else if tool = "check_lab" then
    str ((arguments.get? "intent").getD (.str "network")) ++ " status check"
  else "approved " ++ tool ++ " check"

structure Telling where
  eventId : String
  incidentId : String
  /-- `decision.flow`. -/
  flow : Option String
  context : PinnedContext
  /-- `reasoning_tail_enabled()`. -/
  reasoningTail : Bool
  /-- `str` of a value. -/
  str : Value → String

/-- Activities that are built before the first of them is applied. A reply goes out for each where
the chats are to have one. -/
structure Batch where
  activities : Except String (List InvestigationActivity)
  replied : Bool

def Batch.one (activity : Except String InvestigationActivity) : Batch :=
  ⟨activity.map (fun a => [a]), true⟩

namespace Telling

open Adapters

variable (t : Telling)

def coverageComplete (receipt : InvestigationReceipt) : Option Bool :=
  receipt.coverage.bind (fun entries =>
    match entries.fetch "complete" with
    | .bool b => some b
    | _ => none)

def callBatches (sequence : Int) (tool : String) (arguments : Dict) (isError : Bool)
    (durationMs : Int) : List Batch :=
  [.one (toolSelectedActivity t.incidentId t.eventId (sequence + 1) tool t.context.flow),
    .one (commandPreviewActivity t.incidentId t.eventId (sequence + 2) tool t.context.device
      (chatCommandLabel t.str tool arguments)),
    .one (toolResultActivity t.incidentId t.eventId (sequence + 3) tool t.context.device isError
      durationMs)]

def tailBatches (sequence : Int) (receipt : InvestigationReceipt) : List Batch :=
  if t.reasoningTail then
    [.one (visibleReasoningTailActivity t.incidentId t.eventId (sequence + 1) receipt.finding
      receipt.trustworthy (coverageComplete receipt))]
  else []

def receiptStart (sequence : Int) : Int := if t.reasoningTail then sequence + 1 else sequence

def receiptBatches (sequence : Int) (receipt : InvestigationReceipt) : List Batch :=
  t.tailBatches sequence receipt ++
    [⟨activitiesForReceipt t.str receipt t.incidentId t.eventId (t.receiptStart sequence), false⟩]

/-- What is told of a section of the ticket after the number of the last activity, and the number
after it. A call that was refused for its arguments has been selected before, one that was refused
earlier has not, the refusal of a receipt is told nobody, and a duration that is not a number ends
the run. -/
def sectionBatches (sequence : Int) : TicketSection → List Batch × Int
  | .toolEvent tool _ _ none _ false true =>
    ([.one (toolSelectedActivity t.incidentId t.eventId (sequence + 1) tool t.context.flow)],
      sequence + 1)
  | .toolEvent tool status _ (some (.finite ms)) arguments true _ =>
    (t.callBatches sequence tool arguments (decide (status = "error")) (roundHalfEven ms),
      sequence + 3)
  | .answer _ receipt =>
    (t.receiptBatches sequence receipt,
      t.receiptStart sequence + receipt.rungs.length + 1)
  | _ => ([], sequence)

def ticketBatches (sequence : Int) : List TicketSection → List Batch
  | [] => []
  | entry :: rest => (t.sectionBatches sequence entry).1 ++
    ticketBatches (t.sectionBatches sequence entry).2 rest

def batches (ticket : List TicketSection) : List Batch :=
  ⟨(Adapters.startedActivity t.incidentId t.eventId t.flow 0).map (fun a => [a]), false⟩ ::
    t.ticketBatches 10 ticket

end Telling

/-- Why telling a batch ends early: an activity was refused, or an update of the card. -/
inductive TellError where
  | activity (message : String)
  | card (e : CardError)
deriving DecidableEq

structure Handling where
  owner : String
  applied : String → Datetime
  card : String → Tick
  reply : String → Tick

def Handling.emission (h : Handling) (activity : InvestigationActivity) : Emission :=
  ⟨activity, h.owner, h.applied, h.card, h.reply⟩

section telling

variable (digest : String → String)

def eachChat (body : TelegramCardCoordinator → EventStore → Except CardError Unit × EventStore)
    (s : EventStore) : List TelegramCardCoordinator → Except CardError Unit × EventStore
  | [] => (.ok (), s)
  | c :: rest => match body c s with
    | (.error err, s') => (.error err, s')
    | (.ok _, s') => eachChat body s' rest

/-- `deliver_live_card(event_store, coordinator.apply(activity))`. -/
def applyTo (c : TelegramCardCoordinator) (s : EventStore) (e : Emission) :
    Except CardError Unit × EventStore :=
  match c.apply digest s e.activity (e.applied c.chatId) with
  | (.error err, s₁) => (.error err, s₁)
  | (.ok _, s₁) => (.ok (), s₁.drainLive (e.card c.chatId) e.owner)

def applyToAll (s : EventStore) (e : Emission) (cs : List TelegramCardCoordinator) :
    Except CardError Unit × EventStore := eachChat (fun c s => applyTo digest c s e) s cs

variable (handling : InvestigationActivity → Handling) (cs : List TelegramCardCoordinator)

def tellOne (replied : Bool) (s : EventStore) (activity : InvestigationActivity) :
    Except CardError Unit × EventStore :=
  if replied then emitToAll digest s ((handling activity).emission activity) cs
  else applyToAll digest s ((handling activity).emission activity) cs

def tellEach (replied : Bool) (s : EventStore) :
    List InvestigationActivity → Except TellError Unit × EventStore
  | [] => (.ok (), s)
  | a :: rest => match tellOne digest handling cs replied s a with
    | (.error e, s') => (.error (.card e), s')
    | (.ok _, s') => tellEach replied s' rest

def tellBatches (s : EventStore) : List Batch → Except TellError Unit × EventStore
  | [] => (.ok (), s)
  | b :: rest => match b.activities with
    | .error message => (.error (.activity message), s)
    | .ok activities => match tellEach digest handling cs b.replied s activities with
      | (.error e, s') => (.error e, s')
      | (.ok _, s') => tellBatches s' rest

def Telling.tell (t : Telling) (s : EventStore) (ticket : List TicketSection) :
    Except TellError Unit × EventStore :=
  tellBatches digest handling cs s (t.batches ticket)

end telling

end NetTools
