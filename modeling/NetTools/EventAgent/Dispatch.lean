import NetTools.EventAgent.Offers
import NetTools.EventStore.EventIdentity
import NetTools.Investigation.Receipt

/-!
# The bounded tool loop

The loop of `event_agent._dispatch`. The model, the toolset and the clock are read one answer
after the other and may answer anything. An exception that the loop does not catch ends the run
with the state that it had.
-/

namespace NetTools

structure AgentBounds where
  maxIterations : Int := 4
  timeBudget : ℚ := 90
  maxToolCalls : Int := 6
  maxCallsPerTool : List (String × Int) := [("investigate_lab", 1)]
  maxResultChars : Int := 20000

inductive CallerAnswer where
  | turn (value : Value)
  | raised (message : String)

structure ToolCallResult where
  text : String
  isError : Bool
  elapsed : PyFloat
  truncatedChars : Option Int

/-- `elapsed_s * 1000`. -/
def PyFloat.milliseconds : PyFloat → PyFloat
  | .finite q =>
    let ms := Double.round (q * 1000)
    if 2 ^ 1024 ≤ |ms| then .inf (decide (ms < 0)) else .finite ms
  | x => x

/-- `round(x)`. -/
def PyFloat.roundInt : PyFloat → Except Uncaught Int
  | .finite q => .ok (roundHalfEven q)
  | .inf _ => .error .overflowError
  | .nan => .error .valueError

/-- What one call of `toolset.call_tool` gives. -/
inductive ToolAnswer where
  | result (result : ToolCallResult)
  | raised (message : String)

/-- Where a call that goes out is told to the chats: its tool, its command, its result, and the
receipt of an investigation. -/
inductive CallStep where
  | selected
  | preview
  | result
  | receipt

structure LoopInputs where
  context : PinnedContext
  bounds : AgentBounds
  /-- `toolset.list_tools()`, or the text of its exception. -/
  manifest : Except String (List LiveTool)
  start : ℚ
  /-- The readings of `now_fn` in the loop, in their order. -/
  clock : Nat → ℚ
  caller : Nat → CallerAnswer
  toolset : Nat → ToolAnswer
  /-- `json.loads`, `none` where it raises `ValueError`. -/
  loads : String → Option Value
  /-- The texts that `json.loads` raises `RecursionError` for. -/
  tooDeep : String → Bool := fun _ => false
  repr : Value → String
  str : Value → String
  /-- What `repr` and `str` raise for a value that they cannot print: an integer with too many
  digits, a nest that is too deep. -/
  unprintable : Value → Option Uncaught := fun _ => none
  /-- What sorting and printing the unknown arguments of a call gives, where some keys are not
  texts. The call is known by its turn and the number of results before it in the turn. -/
  otherKeys : Nat → Nat → Option (Except Uncaught String) := fun _ _ => none
  /-- What the event store or a live card raises when a call is told, by the number of calls that
  were recorded before it. Without live cards nothing is told. -/
  deliveries : Nat → CallStep → Option Uncaught := fun _ _ => none
  question : String

/-! ### State -/

/-- An entry of a `tool_results` message. -/
structure ToolResult where
  id : Value
  name : Value
  content : String
  isError : Bool

inductive Message where
  | user (content : String)
  | assistant (text : Value) (toolCalls : List Value)
  | toolResults (results : List ToolResult)

structure ToolCallEntry where
  tool : Value
  arguments : Dict
  isError : Bool
  detail : Option String
  durationMs : Option PyFloat := none
  truncatedChars : Option Int := none
  skipped : Bool
  fabrication : Bool := false

structure Exchange where
  iteration : Nat
  responseText : Value
  stopReason : Value
  tokens : Value
  requested : List (Value × Value)

inductive TicketSection where
  | modelExchange (exchange : Exchange) (error : Option String)
  | toolEvent (tool status : String) (detail : Option String) (durationMs : Option PyFloat)
      (arguments : Dict) (dispatched fabrication : Bool)
  | answer (tool : String) (receipt : InvestigationReceipt)

/-- The variables of the loop. `investigate_lab_recorded` is that a final receipt is there. -/
structure LoopState where
  ticks : Nat := 0
  iteration : Nat := 0
  messages : List Message := []
  exchanges : List Exchange := []
  toolCalls : List ToolCallEntry := []
  fabricationAttempts : List (Value × Dict × String) := []
  limitsHit : List Dict := []
  callsPerTool : String → Nat := fun _ => 0
  totalCalls : Nat := 0
  /-- The calls of `toolset.call_tool`. -/
  dispatched : List (String × Dict) := []
  ticket : List TicketSection := []
  results : List ToolResult := []
  toolFailure : Bool := false
  finalReceipt : Option InvestigationReceipt := none

structure Crash where
  exception : Uncaught
  state : LoopState

namespace LoopState

def recordLimit (st : LoopState) (key : String) (value observed : ℚ) : LoopState :=
  if st.limitsHit.any (fun entry => Dict.hasText entry "limit" key) then st
  else
    { st with
      limitsHit := st.limitsHit ++
        [[("limit", .str key), ("value", .float value), ("observed", .float observed)]] }

end LoopState

variable (i : LoopInputs)

namespace LoopInputs

def deadline : ℚ := Double.add i.start i.bounds.timeBudget

/-- `now_fn()`. -/
def now (st : LoopState) : ℚ × LoopState := (i.clock st.ticks, { st with ticks := st.ticks + 1 })

/-- `str(value)`. -/
def strOf : Value → String
  | .str text => text
  | value => i.str value

def printing : Value → Option Uncaught
  | .str _ => none
  | value => if value.truthy then i.unprintable value else none

def printer : Printer := ⟨i.repr, i.printing⟩

/-- A tool name that `record_tool_event` refuses: a text of white space only. -/
def blankName : Value → Bool
  | .str text => text != "" && isBlank text
  | _ => false

def refuse (i : LoopInputs) (st : LoopState) (callId name : Value) (args : Dict) (message : String)
    (fabrication : Bool) : Except Crash LoopState :=
  let entry : ToolCallEntry := {
    tool := name, arguments := args, isError := true, detail := some message,
    skipped := true, fabrication := fabrication }
  let st := { st with
    results := st.results ++ [⟨callId, name, message, true⟩]
    toolCalls := st.toolCalls ++ [entry] }
  match if blankName name then some .valueError else i.printing name with
  | some e => .error ⟨e, st⟩
  | none =>
    let tool := if name.truthy then i.strOf name else "(unnamed tool)"
    .ok { st with
      ticket := st.ticket ++ [.toolEvent tool "refused" (some message) none args false fabrication] }

/-- `bounds.max_calls_per_tool.get(name) if name else None`. -/
def perToolCap (name : Value) : Except Uncaught (Option (String × Int)) :=
  match name with
  | .str tool =>
    .ok (if tool = "" then none else (i.bounds.maxCallsPerTool.lookup tool).map (fun cap => (tool, cap)))
  | .list items => if items.isEmpty then .ok none else .error .typeError
  | .dict entries => if entries.isEmpty then .ok none else .error .typeError
  | _ => .ok none

/-- `offers_by_name.get(name)`: a later offer of a name replaces an earlier one. -/
def offerNamed (offers : List ToolOffer) (name : Value) : Except Uncaught (Option ToolOffer) :=
  match name with
  | .str tool => .ok (offers.reverse.find? (fun offer => offer.name = tool))
  | .list _ => .error .typeError
  | .dict _ => .error .typeError
  | _ => .ok none

def checkCall (offers : List ToolOffer) (st : LoopState) (name : Value) :
    Except Crash (LoopState × Except String ToolOffer) :=
  if i.bounds.maxToolCalls ≤ st.totalCalls then
    let budget := i.bounds.maxToolCalls
    .ok (st.recordLimit "max_tool_calls" i.bounds.maxToolCalls st.totalCalls,
      .error s!"not started: max_tool_calls budget exhausted ({budget})")
  else
    match i.perToolCap name with
    | .error e => .error ⟨e, st⟩
    | .ok cap =>
      match cap.filter (fun entry => entry.2 ≤ (st.callsPerTool entry.1 : Int)) with
      | some (tool, cap) =>
        .ok (st.recordLimit ("max_calls_per_tool:" ++ tool) cap (st.callsPerTool tool),
          .error (s!"not started: {tool} already called {cap} time(s) " ++
            "(max_calls_per_tool budget)"))
      | none =>
        let (time, st) := i.now st
        if i.deadline ≤ time then
          let (time, st) := i.now st
          .ok (st.recordLimit "time_budget_s" i.bounds.timeBudget (Double.sub time i.start),
            .error "not started: time budget exhausted")
        else
          match offerNamed offers name with
          | .error e => .error ⟨e, st⟩
          | .ok none =>
            match i.printing name with
            | some e => .error ⟨e, st⟩
            | none => .ok (st, .error (i.repr name ++ " is not an offered tool for this event"))
          | .ok (some offer) => .ok (st, .ok offer)

/-! ### A call and its result -/

/-- `text[:limit]`. -/
def cutText (limit : Int) (text : String) : String :=
  let kept := if limit < 0 then text.length + limit else limit
  String.ofList (text.toList.take kept.toNat)

def classifyCallResult (result : ToolCallResult) : Bool × Option String :=
  if result.isError then (true, if result.text = "" then none else some (cutText 300 result.text))
  else
    match i.loads result.text with
    | some (.dict payload) =>
      if Dict.hasText payload "status" "error" then
        let detail := match Dict.get? payload "errors" with
          | some (.list errors) => "; ".intercalate (errors.map i.strOf)
          | _ => ""
        (true, some (cutText 300 (if detail = "" then "status: error" else detail)))
      else (false, none)
    | _ => (false, none)

/-- The result of a call of `toolset.call_tool` that may raise. -/
def callResult : ToolAnswer → ToolCallResult
  | .result result => result
  | .raised message => ⟨"tool call failed: " ++ message, true, .finite 0, none⟩

/-- The content that the model sees, its detail and whether it is an error, once the result has
been cut to its budget. -/
def cutResult (result : ToolCallResult) : String × Option String × Bool :=
  let (isError, detail) := i.classifyCallResult result
  if i.bounds.maxResultChars < result.text.length then
    let chars := result.text.length
    let kept := i.bounds.maxResultChars
    let note := s!"[event_agent max_result_chars budget exceeded: {chars} chars, kept {kept}]"
    (cutText kept result.text ++ "\n..." ++ note,
      some (match detail with
        | some text => if text = "" then note else text ++ "; " ++ note
        | none => note), true)
  else (result.text, detail, isError)

def readReceipt (call : Nat) (st : LoopState) (name : String) (result : ToolCallResult)
    (isError : Bool) : Except Crash LoopState :=
  if name = "investigate_lab" ∧ isError = false ∧ st.finalReceipt.isNone then
    match i.loads result.text with
    | some (.dict payload) =>
      match InvestigationReceipt.parse payload with
      | .ok receipt =>
        let st := { st with
          ticket := st.ticket ++ [.answer name receipt]
          finalReceipt := some receipt }
        match i.deliveries call .receipt with
        | some e => .error ⟨e, st⟩
        | none => .ok st
      | .error (.validation message) =>
        let detail := "invalid deterministic investigation receipt: " ++ message
        .ok { st with
          toolCalls := st.toolCalls.modifyLast
            (fun entry => { entry with isError := true, detail := some detail })
          ticket := st.ticket ++
            [.toolEvent name "error" (some detail) none [] true false]
          results := st.results.modifyLast
            (fun entry => { entry with isError := true, content := detail }) }
      | .error .unhashable => .error ⟨.typeError, st⟩
    | _ => .ok st
  else .ok st

def startCall (st : LoopState) (name : String) (args : Dict) : LoopState :=
  { st with
    ticks := st.ticks + 1
    totalCalls := st.totalCalls + 1
    callsPerTool := fun tool => st.callsPerTool tool + if tool = name then 1 else 0
    dispatched := st.dispatched ++ [(name, args)]
    toolFailure := st.toolFailure || (match i.toolset st.dispatched.length with
      | .raised _ => true
      | .result _ => false) }

def recordCall (st : LoopState) (callId : Value) (name : String) (args : Dict)
    (result : ToolCallResult) : LoopState :=
  let st :=
    if i.bounds.maxResultChars < result.text.length then
      st.recordLimit "max_result_chars" i.bounds.maxResultChars result.text.length
    else st
  let (content, detail, isError) := i.cutResult result
  let entry : ToolCallEntry := {
    tool := .str name, arguments := args, isError := isError, detail := detail,
    durationMs := some result.elapsed.milliseconds, truncatedChars := result.truncatedChars,
    skipped := false }
  { st with
    results := st.results ++ [⟨callId, .str name, content, isError⟩]
    toolCalls := st.toolCalls ++ [entry]
    ticket := st.ticket ++ [.toolEvent name (if isError then "error" else "success") detail
      (some result.elapsed.milliseconds) args true false] }

/-- What the activity of a result raises: for a duration that is not a number or below zero, and
when it is told. -/
def resultRaises (call : Nat) (result : ToolCallResult) : Option Uncaught :=
  match result.elapsed.milliseconds.roundInt with
  | .error e => some e
  | .ok ms => if ms < 0 then some .valueError else i.deliveries call .result

/-- A call that goes out. The classification of its result catches no `RecursionError`. -/
def dispatchCall (st : LoopState) (callId : Value) (name : String) (args : Dict) :
    Except Crash LoopState :=
  let result := callResult (i.toolset st.dispatched.length)
  let started := i.startCall st name args
  if !result.isError && i.tooDeep result.text then .error ⟨.recursionError, started⟩
  else
    let recorded := i.recordCall started callId name args result
    match i.resultRaises st.toolCalls.length result with
    | some e => .error ⟨e, recorded⟩
    | none => i.readReceipt st.toolCalls.length recorded name result (i.cutResult result).2.2

def callName (call : Dict) : Value := call.fetch "name"

/-- `call.get("id") or f"{name}-{len(tool_calls)}"`. -/
def callIdOf (st : LoopState) (call : Dict) : Value :=
  if (call.fetch "id").truthy then call.fetch "id"
  else
    let count := st.toolCalls.length
    .str (i.strOf (callName call) ++ s!"-{count}")

def callArguments (call : Dict) : Dict :=
  match call.get? "arguments" with
  | some (.dict args) => args
  | _ => []

def callIdRaises (call : Dict) : Option Uncaught :=
  if (call.fetch "id").truthy then none else i.printing (callName call)

def resolveCall (st : LoopState) (offer : ToolOffer) (call : Dict) : Except ArgumentError Dict :=
  resolveArguments i.printer offer (.dict (callArguments call))
    (i.otherKeys st.iteration st.results.length)

def takeOffer (st : LoopState) (offer : ToolOffer) (call : Dict) : Except Crash LoopState :=
  let name := callName call
  let callId := i.callIdOf st call
  match i.deliveries st.toolCalls.length .selected with
  | some e => .error ⟨e, st⟩
  | none =>
    match i.resolveCall st offer call with
    | .error (.raised e) => .error ⟨e, st⟩
    | .error (.refusal message) =>
      let args := callArguments call
      i.refuse { st with fabricationAttempts := st.fabricationAttempts ++ [(name, args, message)] }
        callId name args message true
    | .ok resolved =>
      match i.deliveries st.toolCalls.length .preview with
      | some e => .error ⟨e, st⟩
      | none => i.dispatchCall st callId offer.name resolved

def handleCall (offers : List ToolOffer) (st : LoopState) (call : Dict) :
    Except Crash LoopState :=
  match i.callIdRaises call with
  | some e => .error ⟨e, st⟩
  | none =>
    match i.checkCall offers st (callName call) with
    | .error crash => .error crash
    | .ok (st, .error message) =>
      i.refuse st (i.callIdOf st call) (callName call) (callArguments call) message false
    | .ok (st, .ok offer) => i.takeOffer st offer call

def handleCalls (offers : List ToolOffer) : LoopState → List Value → Except Crash LoopState
  | st, [] => .ok st
  | st, call :: calls =>
    match call with
    | .dict fields =>
      match i.handleCall offers st fields with
      | .error crash => .error crash
      | .ok st => handleCalls offers st calls
    | _ => handleCalls offers st calls

/-- `list(turn.get("tool_calls") or [])`. -/
def requestedCalls : Value → Except Uncaught (List Value)
  | .dict turn =>
    let value := Dict.fetch turn "tool_calls"
    if value.truthy then
      match value with
      | .list items => .ok items
      | .str text => .ok (text.toList.map (fun c => .str (String.singleton c)))
      | .dict entries => .ok ((Dict.keys entries).map Value.str)
      | _ => .error .typeError
    else .ok []
  | _ => .ok []

/-- `turn.get(key)`, or a default for a falsy value. -/
def turnField (turn : Value) (key : String) (default : Value) : Value :=
  match turn with
  | .dict fields => if (Dict.fetch fields key).truthy then Dict.fetch fields key else default
  | _ => default

def exchangeOf (iteration : Nat) (turn : Value) (calls : List Value) : Exchange where
  iteration := iteration
  responseText := turnField turn "text" (.str "")
  stopReason := turnField turn "stop_reason" (.str "end_turn")
  tokens := match turn with
    | .dict fields => Dict.fetch fields "tokens"
    | _ => .none
  requested := calls.filterMap (fun call =>
    match call with
    | .dict fields => some (Dict.fetch fields "name", Dict.fetch fields "arguments")
    | _ => none)

/-- How a turn ends the loop: the reason, and whether the model stopped by itself. -/
structure Stop where
  because : Value
  modelFinished : Bool

def recordTurn (st : LoopState) (exchange : Exchange) (error : Option String) : LoopState :=
  { st with
    exchanges := st.exchanges ++ [exchange]
    ticket := st.ticket ++ [.modelExchange exchange error] }

def openTurn (st : LoopState) (exchange : Exchange) (calls : List Value) : LoopState :=
  { recordTurn st exchange none with
    messages := st.messages ++ [.assistant exchange.responseText calls]
    results := [] }

def takeTurn (offers : List ToolOffer) (st : LoopState) (turn : Value) :
    Except Crash (LoopState × Option Stop) :=
  match requestedCalls turn with
  | .error e => .error ⟨e, st⟩
  | .ok calls =>
    let exchange := exchangeOf st.iteration turn calls
    if calls.isEmpty then
      .ok (recordTurn st exchange none,
        some (if exchange.responseText.truthy then ⟨exchange.stopReason, true⟩
          else ⟨.str "empty_turn", false⟩))
    else
      match i.handleCalls offers (openTurn st exchange calls) calls with
      | .error crash => .error crash
      | .ok st => .ok ({ st with messages := st.messages ++ [.toolResults st.results] }, none)

def startRound (st : LoopState) : LoopState :=
  { st with ticks := st.ticks + 1, iteration := st.iteration + 1 }

def round (offers : List ToolOffer) (st : LoopState) :
    Except Crash (LoopState × Option Stop) :=
  if i.deadline ≤ i.clock st.ticks then
    .ok ((i.now st).2.recordLimit "time_budget_s" i.bounds.timeBudget
        (Double.sub (i.clock st.ticks) i.start),
      some ⟨.str "time_budget", false⟩)
  else
    match i.caller st.iteration with
    | .raised message =>
      let exchange : Exchange := ⟨st.iteration + 1, .str "", .str "caller_error", .none, []⟩
      .ok (recordTurn (startRound st) exchange (some (cutText 300 message)),
        some ⟨.str "caller_error", false⟩)
    | .turn turn => i.takeTurn offers (startRound st) turn

structure LoopEnd where
  state : LoopState
  stop : Except Uncaught Stop

/-- The loop, with the number of rounds that `max_iterations` still allows. -/
def rounds (offers : List ToolOffer) : Nat → LoopState → LoopEnd
  | 0, st =>
    ⟨st.recordLimit "max_iterations" i.bounds.maxIterations st.iteration,
      .ok ⟨.str "max_iterations", false⟩⟩
  | left + 1, st =>
    match i.round offers st with
    | .error crash => ⟨crash.state, .error crash.exception⟩
    | .ok (st, some stop) => ⟨st, .ok stop⟩
    | .ok (st, none) => rounds offers left st

def firstState : LoopState := { messages := [.user i.question] }

def dispatch : LoopEnd :=
  match i.manifest with
  | .error _ => ⟨{}, .ok ⟨.str "list_tools_failed", false⟩⟩
  | .ok tools =>
    match buildOffers i.context offeredTools tools with
    | .error e => ⟨{}, .error e⟩
    | .ok [] => ⟨{}, .ok ⟨.str "not_run", false⟩⟩
    | .ok (offer :: offers) => i.rounds (offer :: offers) i.bounds.maxIterations.toNat i.firstState

end LoopInputs

end NetTools
