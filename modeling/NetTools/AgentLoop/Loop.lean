import NetTools.AgentLoop.TemplateCalls
import NetTools.Egress.Projector

/-!
# The agent loop

`run_agent_loop` and what it does with a block of a message. The model's messages, the tools'
behaviour and the clock come from outside; the events of a run are recorded in their order.
-/

namespace NetTools

namespace AgentLoop

open TemplateCalls

/-- A `tool_use` block. -/
structure ToolUse where
  id : String
  name : String
  input : Value

/-- A content block of a message; `text` is what a block of another type carries, if it does. -/
inductive ContentBlock where
  | toolUse (block : ToolUse)
  | other (text : Option String)

def ContentBlock.toolUse? : ContentBlock → Option ToolUse
  | toolUse block => some block
  | other _ => none

def ContentBlock.text? : ContentBlock → Option String
  | toolUse _ => none
  | other text => text.filter (· ≠ "")

structure ModelMessage where
  content : List ContentBlock
  stopReason : Option String
  stopCategory : Option String
  usage : String → Option Int

def extractText (message : ModelMessage) : String :=
  "\n".intercalate (message.content.filterMap ContentBlock.text?)

def ModelMessage.toolUses (message : ModelMessage) : List ToolUse :=
  message.content.filterMap ContentBlock.toolUse?

/-- A `tool_result` block. -/
structure ResultBlock where
  toolUseId : String
  content : String
  isError : Bool
deriving DecidableEq, Repr

/-- An entry of `tool_calls`. -/
structure CallEntry where
  tool : String
  input : Value
  isError : Bool
  error : Option String
  skipped : Bool

inductive Entry where
  | user (content : String)
  | assistant (content : List ContentBlock)
  | toolResults (results : List ResultBlock)

/-! ### Tools -/

/-- The function that a tool's name stands for, with its arguments. -/
inductive ToolCall where
  | listDevices
  | runIntent (device intent : Value)
  | runTemplate (call : TemplateCall)
  | checkFabric (check : Value)
  | collectEvidence (device : Value)
  | assessHealth (target : Value)

inductive ToolError where
  | input (error : InputError)
  | notSubscriptable (typeName : String)
  | noGet (typeName : String)
  | unknownTool (name : String)
  | notIterable (typeName : String)

/-- All that a run learns from outside: the readings of the clock, the model calls, and what a tool
does that is started after a reading of the clock. -/
structure Setup where
  clock : ℕ → ℚ
  model : ℕ → Except String ModelMessage
  tools : ℕ → ToolCall → Except String Dict
  describe : ToolError → String
  dumps : Value → String
  repr : Value → String
  lower : String → String

/-- `tool_input[key]`. -/
def field (toolInput : Value) (key : String) : Except ToolError Value :=
  match toolInput with
  | .dict fields => (required fields key).mapError .input
  | value => .error (.notSubscriptable value.typeName)

def executeTool (name : String) (toolInput : Value) : Except ToolError ToolCall :=
  if name = "list_lab_devices" then .ok .listDevices
  else if name = "run_lab_intent" then do
    let device ← field toolInput "device_name"
    let intent ← field toolInput "intent"
    return .runIntent device intent
  else if name = "run_lab_template" then
    match toolInput with
    | .dict fields => ((bindTemplateCall fields).mapError .input).map .runTemplate
    | value => .error (.noGet value.typeName)
  else if name = "check_lab_fabric" then (field toolInput "check").map .checkFabric
  else if name = "collect_lab_evidence" then (field toolInput "device_name").map .collectEvidence
  else if name = "assess_lab_health" then (field toolInput "target").map .assessHealth
  else .error (.unknownTool name)

variable (setup : Setup)

/-- The texts of `result.get("errors") or []`. -/
def errorTexts : Value → Except ToolError (List String)
  | .list items => .ok (items.map (Value.pyStr setup.repr))
  | .dict entries => .ok (Dict.keys entries)
  | .str text => .ok (text.toList.map (fun c => String.ofList [c]))
  | value => if value.truthy then .error (.notIterable value.typeName) else .ok []

def errorDetail (result : Dict) : Except ToolError (Option String) := do
  let texts ← errorTexts setup ((result.get? "errors").getD .none)
  let detail := "; ".intercalate texts
  return if detail = "" then none else some detail

structure Report where
  content : String
  isError : Bool
  detail : Option String

/-- `block.input or {}`. -/
def ToolUse.toolInput (block : ToolUse) : Value :=
  if block.input.truthy then block.input else .dict []

def reportOf (name : String) (result : Dict) : Except ToolError Report := do
  let projected :=
    if name = "collect_lab_evidence" then
      .dict (ModelEgress.projectEvidence setup.repr setup.lower result none)
    else ModelEgress.projectEnvelope setup.repr setup.lower (.dict result) none
  let content := setup.dumps projected
  match result.get? "status" with
  | some (.str "error") => do
    let detail ← errorDetail setup result
    return { content := content, isError := true, detail := detail }
  | _ => return { content := content, isError := false, detail := none }

/-- The `try` of `_run_tool_block`; an error is the text of the exception. -/
def attempt (reading : ℕ) (block : ToolUse) : Except String Report := do
  let call ← (executeTool block.name block.toolInput).mapError setup.describe
  let result ← setup.tools reading call
  (reportOf setup block.name result).mapError setup.describe

inductive Escaped where
  | declined (message : String)
  | callFailed (message : String)
  | attributeError (message : String)

def errorEnvelope (block : ToolUse) (device : Value) (detail : String) : Value :=
  .dict [("tool", .str block.name), ("device", device), ("status", .str STATUS_ERROR),
    ("data", .dict []), ("errors", .list [.str detail])]

/-- The entry of `tool_calls` and the `tool_result` block of one report. -/
def answerOf (block : ToolUse) (report : Report) : CallEntry × ResultBlock :=
  ({ tool := block.name
     input := block.input
     isError := report.isError
     error := report.detail.map (fun detail => String.ofList (detail.toList.take 300))
     skipped := false },
   { toolUseId := block.id, content := report.content, isError := report.isError })

def runToolBlock (reading : ℕ) (block : ToolUse) : Except Escaped (CallEntry × ResultBlock) :=
  match attempt setup reading block with
  | .ok report => .ok (answerOf block report)
  | .error detail =>
    -- The device is read from the input once more, outside the `try`.
    match block.toolInput with
    | .dict fields =>
      let device := (Dict.get? fields "device_name").getD .none
      let envelope := errorEnvelope block device detail
      let projected := ModelEgress.projectEnvelope setup.repr setup.lower envelope none
      .ok (answerOf block
        { content := setup.dumps projected, isError := true, detail := some detail })
    | value => .error (.attributeError ("'" ++ value.typeName ++ "' object has no attribute 'get'"))

def skippedToolResult (block : ToolUse) : CallEntry × ResultBlock :=
  let message := "not started: time budget exhausted"
  ({ tool := block.name, input := block.input, isError := true, error := some message,
     skipped := true },
   { toolUseId := block.id, content := message, isError := true })

def USAGE_FIELDS : List String :=
  ["input_tokens", "output_tokens", "cache_read_input_tokens", "cache_creation_input_tokens"]

abbrev Totals : Type := List (String × Int)

/-- `totals.get(field, 0)`. -/
def Totals.amount (totals : Totals) (field : String) : Int := (totals.lookup field).getD 0

def accumulateUsage (totals : Totals) (usage : String → Option Int) : Totals :=
  USAGE_FIELDS.foldl (fun (totals : Totals) field =>
    LastRow.assign totals field (totals.amount field + (usage field).getD 0)) totals

def usageTurnDelta (before after : Totals) : Totals :=
  USAGE_FIELDS.map (fun field => (field, after.amount field - before.amount field))

/-! ### The loop -/

structure Exchange where
  iteration : ℕ
  responseText : String
  stopReason : Option String
  usage : Totals
  toolCallsRequested : Option (List (String × Value)) := none

/-- A block, the reading of the clock made for it, and whether it was handed to the pool. -/
structure Decision where
  reading : ℕ
  block : ToolUse
  submitted : Bool

inductive Event where
  | called (reading : ℕ) (timeout : ℚ) (conversation : List Entry)
  | received (message : ModelMessage)
  | decided (decision : Decision)
  | replied (answers : List (CallEntry × ResultBlock))

structure LoopState where
  messages : List Entry
  toolCalls : List CallEntry := []
  exchanges : List Exchange := []
  usageTotals : Totals := []
  iteration : ℕ := 0
  finalMessage : Option ModelMessage := none
  /-- How often the clock was read. -/
  readings : ℕ

structure LoopResult where
  answer : String
  iterations : ℕ
  toolCalls : List CallEntry
  stoppedBecause : String
  complete : Bool
  trustClass : String := "exploratory"
  usage : Totals
  elapsed : ℚ
  overranBudget : Bool
  exchanges : List Exchange

def finish (timeBudget : ℚ) (state : LoopState) (stoppedBecause answer : String) : LoopResult :=
  let elapsed := setup.clock state.readings - setup.clock 0
  { answer := answer
    iterations := state.iteration
    toolCalls := state.toolCalls
    stoppedBecause := stoppedBecause
    complete := stoppedBecause = "end_turn"
    usage := state.usageTotals
    elapsed := elapsed
    overranBudget := timeBudget < elapsed
    exchanges := state.exchanges }

def finishBounded (timeBudget : ℚ) (state : LoopState) (stoppedBecause : String) : LoopResult :=
  finish setup timeBudget state stoppedBecause ((state.finalMessage.map extractText).getD "")

def TRUNCATION_NOTICE : String :=
  "\n\n[Analysis truncated: the model hit the output token limit. " ++
    "Treat the sections above as incomplete.]"

def LoopState.issueCall (state : LoopState) : LoopState :=
  { state with iteration := state.iteration + 1, readings := state.readings + 1 }

def LoopState.receive (state : LoopState) (message : ModelMessage) : LoopState :=
  let totals := accumulateUsage state.usageTotals message.usage
  { state with
    usageTotals := totals
    finalMessage := some message
    exchanges := state.exchanges ++
      [{ iteration := state.iteration
         responseText := extractText message
         stopReason := message.stopReason
         usage := usageTurnDelta state.usageTotals totals
         toolCallsRequested :=
           if message.stopReason = some "tool_use" then
             some (message.toolUses.map (fun block => (block.name, block.input)))
           else none }] }

def decideBlocks (deadline : ℚ) : ℕ → List ToolUse → List Decision
  | _, [] => []
  | reading, block :: blocks =>
    { reading := reading, block := block, submitted := setup.clock reading < deadline } ::
      decideBlocks deadline (reading + 1) blocks

def answerDecision (decision : Decision) : Except Escaped (CallEntry × ResultBlock) :=
  if decision.submitted then runToolBlock setup decision.reading decision.block
  else .ok (skippedToolResult decision.block)

def LoopState.keep (state : LoopState) (message : ModelMessage) : LoopState :=
  { state with messages := state.messages ++ [.assistant message.content] }

def LoopState.reply (state : LoopState) (answers : List (CallEntry × ResultBlock)) : LoopState :=
  { state with
    toolCalls := state.toolCalls ++ answers.map Prod.fst
    messages := state.messages ++ [.toolResults (answers.map Prod.snd)]
    readings := state.readings + answers.length }

def declinedText (message : ModelMessage) : String :=
  "The model declined to continue the agent loop." ++
    match message.stopCategory with
    | some category => if category = "" then "" else " (category: " ++ category ++ ")"
    | none => ""

/-- The `while` loop, with the iterations that are left. -/
def loop (timeBudget deadline : ℚ) : ℕ → LoopState → List Event × Except Escaped LoopResult
  | 0, state => ([], .ok (finishBounded setup timeBudget state "max_iterations"))
  | left + 1, state =>
    let now := setup.clock state.readings
    if deadline ≤ now then
      ([], .ok (finishBounded setup timeBudget
        { state with readings := state.readings + 1 } "time_budget"))
    else
      let called := Event.called state.readings (max 5 (deadline - now)) state.messages
      match setup.model state.iteration with
      | .error message => ([called], .error (.callFailed message))
      | .ok message =>
        let state := state.issueCall.receive message
        let events := [called, .received message]
        let stop := fun (reason answer : String) =>
          (events, Except.ok (finish setup timeBudget state reason answer))
        match message.stopReason with
        | some "refusal" => (events, .error (.declined (declinedText message)))
        | some "max_tokens" => stop "truncated" (extractText message ++ TRUNCATION_NOTICE)
        | some "pause_turn" =>
          let rest := loop timeBudget deadline left (state.keep message)
          (events ++ rest.1, rest.2)
        | some "tool_use" =>
          let decisions := decideBlocks setup deadline state.readings message.toolUses
          let events := events ++ decisions.map Event.decided
          match decisions.mapM (answerDecision setup) with
          | .error e => (events, .error e)
          | .ok answers =>
            let rest := loop timeBudget deadline left ((state.keep message).reply answers)
            (events ++ .replied answers :: rest.1, rest.2)
        | some "end_turn" => stop "end_turn" (extractText message)
        | reason => stop ("unknown_stop:" ++ reason.getD "None") (extractText message)

def initialUserContent (question : String) (device : Option String) : String :=
  match device with
  | some device =>
    if device = "" then question else "Focus device: " ++ device ++ "\n\nQuestion: " ++ question
  | none => question

def runAgentLoop (question : String) (device : Option String) (maxIterations : Int)
    (timeBudget : ℚ) : List Event × Except Escaped LoopResult :=
  loop setup timeBudget (setup.clock 0 + timeBudget) maxIterations.toNat
    { messages := [.user (initialUserContent question device)], readings := 1 }

end AgentLoop

end NetTools
