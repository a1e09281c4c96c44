import NetTools.AgentLoop.Loop

/-!
# The contract of the agent loop

The bounds, the pairing of blocks with results and the report hold in every run that no block
escapes from, and a block escapes exactly when its input is no object and its call raises.
-/

namespace NetTools

namespace AgentLoop

variable (setup : Setup)

namespace Event

def isCall : Event → Bool
  | called _ _ _ => true
  | _ => false

def message? : Event → Option ModelMessage
  | received message => some message
  | _ => none

def entries : Event → List CallEntry
  | replied answers => answers.map Prod.fst
  | _ => []

end Event

def countCalls (events : List Event) : ℕ := (events.filter Event.isCall).length

def lastMessage (events : List Event) : Option ModelMessage :=
  (events.filterMap Event.message?).getLast?

def ModelMessage.kept (message : ModelMessage) : List Entry :=
  if message.stopReason = some "pause_turn" ∨ message.stopReason = some "tool_use" then
    [.assistant message.content]
  else []

def Conversing : List Entry → List Event → Prop
  | _, [] => True
  | said, .called _ _ sent :: events => sent = said ∧ Conversing said events
  | said, .received message :: events => Conversing (said ++ message.kept) events
  | said, .decided _ :: events => Conversing said events
  | said, .replied answers :: events =>
    Conversing (said ++ [.toolResults (answers.map Prod.snd)]) events

/-- The answer to a decision: the report of the block that was run, or that it was skipped. -/
structure Answers (decision : Decision) (answer : CallEntry × ResultBlock) : Prop where
  id : answer.2.toolUseId = decision.block.id
  skipped : answer.1.skipped = !decision.submitted
  executed : decision.submitted = true →
    runToolBlock setup decision.reading decision.block = .ok answer
  turnedAway : decision.submitted = false → answer = skippedToolResult decision.block

/-- After a message that asks for tools, every block is decided in its place, and the next that is
said answers each of them. -/
def Replied (events : List Event) : Prop :=
  ∀ message after, .received message :: after <:+ events → message.stopReason = some "tool_use" →
    ∃ decisions answers rest,
      after = decisions.map Event.decided ++ .replied answers :: rest ∧
        decisions.map Decision.block = message.toolUses ∧
        List.Forall₂ (Answers setup) decisions answers

inductive Expected (events : List Event) : Escaped → Prop
  | callFailed {call text} (h : setup.model call = .error text) :
      Expected events (.callFailed text)
  | declined {message text} (hlast : lastMessage events = some message)
      (hstop : message.stopReason = some "refusal") : Expected events (.declined text)

structure Contract (maxIterations : Int) (deadline : ℚ) (conversation : List Entry)
    (run : List Event × Except Escaped LoopResult) : Prop where
  calls : countCalls run.1 ≤ maxIterations.toNat
  admitted : ∀ reading timeout sent, .called reading timeout sent ∈ run.1 →
    setup.clock reading < deadline
  conversation : Conversing conversation run.1
  submitted : ∀ decision, .decided decision ∈ run.1 →
    (decision.submitted = true ↔ setup.clock decision.reading < deadline)
  replied : Replied setup run.1
  raised : ∀ e, run.2 = .error e → Expected setup run.1 e
  complete : ∀ result, run.2 = .ok result → (result.complete = true ↔
    ∃ message, lastMessage run.1 = some message ∧ message.stopReason = some "end_turn")
  audited : ∀ result, run.2 = .ok result → result.toolCalls = run.1.flatMap Event.entries
  usage : ∀ result, run.2 = .ok result → ∀ field ∈ USAGE_FIELDS,
    (result.exchanges.map (fun exchange => exchange.usage.amount field)).sum =
      result.usage.amount field

def Joinable (result : Dict) : Prop :=
  result.get? "status" = some (.str "error") →
    ∃ texts, errorTexts setup ((result.get? "errors").getD .none) = .ok texts

/-- The input is an object or falsy, or the tool takes no input and returns. -/
def Answerable (reading : ℕ) (block : ToolUse) : Prop :=
  block.input.truthy = false ∨ (∃ fields, block.input = .dict fields) ∨
    (block.name = "list_lab_devices" ∧
      ∃ result, setup.tools reading .listDevices = .ok result ∧ Joinable setup result)

variable {setup}

lemma toolInput_of_object {block : ToolUse}
    (h : block.input.truthy = false ∨ ∃ fields, block.input = .dict fields) :
    ∃ fields, block.toolInput = .dict fields := by
  rw [ToolUse.toolInput]
  rcases h with hfalsy | ⟨fields, hfields⟩
  · rw [hfalsy]
    exact ⟨[], rfl⟩
  · split
    · exact ⟨fields, hfields⟩
    · exact ⟨[], rfl⟩

lemma toolInput_of_truthy {block : ToolUse} (h : block.input.truthy = true) :
    block.toolInput = block.input := by
  rw [ToolUse.toolInput, if_pos h]

lemma field_of_notObject {value : Value} (h : ∀ fields, value ≠ .dict fields) (key : String) :
    field value key = .error (.notSubscriptable value.typeName) := by
  cases value with
  | dict fields => exact absurd rfl (h fields)
  | _ => rfl

lemma executeTool_of_notObject {name : String} {value : Value}
    (h : ∀ fields, value ≠ .dict fields) :
    (name = "list_lab_devices" ∧ executeTool name value = .ok .listDevices) ∨
      (name ≠ "list_lab_devices" ∧ ∃ e, executeTool name value = .error e) := by
  unfold executeTool
  by_cases hname : name = "list_lab_devices"
  · rw [if_pos hname]
    exact .inl ⟨hname, rfl⟩
  · rw [if_neg hname]
    refine .inr ⟨hname, ?_⟩
    simp only [field_of_notObject h, bind, Except.bind, Except.map]
    split
    · exact ⟨_, rfl⟩
    · split
      · cases value with
        | dict fields => exact absurd rfl (h fields)
        | _ => exact ⟨_, rfl⟩
      · split
        · exact ⟨_, rfl⟩
        · split
          · exact ⟨_, rfl⟩
          · split <;> exact ⟨_, rfl⟩

variable {reading : ℕ} {block : ToolUse}

lemma reportOf_ok_iff {name : String} {result : Dict} :
    (∃ report, reportOf setup name result = .ok report) ↔ Joinable setup result := by
  rw [reportOf, Joinable, errorDetail]
  dsimp only
  split
  · rename_i hstatus
    rw [hstatus]
    cases errorTexts setup ((result.get? "errors").getD .none) with
    | error e => simp [bind, Except.bind]
    | ok texts => simp [bind, Except.bind, pure, Except.pure]
  · rename_i hstatus
    constructor
    · intro hreport herror
      exact absurd herror hstatus
    · intro hjoinable
      exact ⟨_, rfl⟩

lemma mapError_ok_iff {ε ε' α : Type} {f : ε → ε'} {x : Except ε α} :
    (∃ a, x.mapError f = .ok a) ↔ ∃ a, x = .ok a := by
  cases x <;> simp [Except.mapError]

theorem runToolBlock_ok_iff :
    (∃ answer, runToolBlock setup reading block = .ok answer) ↔ Answerable setup reading block := by
  by_cases hobject : block.input.truthy = false ∨ ∃ fields, block.input = .dict fields
  · obtain ⟨fields, hfields⟩ := toolInput_of_object hobject
    have hanswer : ∃ answer, runToolBlock setup reading block = .ok answer := by
      rw [runToolBlock]
      split
      · exact ⟨_, rfl⟩
      · rw [hfields]
        exact ⟨_, rfl⟩
    exact iff_of_true hanswer (hobject.elim .inl (fun h => .inr (.inl h)))
  · rw [not_or, Bool.not_eq_false] at hobject
    obtain ⟨htruthy, hnotObject⟩ := hobject
    have hinput : block.toolInput = block.input := toolInput_of_truthy htruthy
    have hvalue : ∀ fields, block.toolInput ≠ .dict fields := by
      intro fields h
      exact hnotObject ⟨fields, hinput ▸ h⟩
    -- Without an object, an answer is a report.
    have hreport : (∃ answer, runToolBlock setup reading block = .ok answer) ↔
        ∃ report, attempt setup reading block = .ok report := by
      rw [runToolBlock]
      cases attempt setup reading block with
      | ok report => simp
      | error detail =>
        dsimp only
        split
        · rename_i fields hfields
          exact absurd hfields (hvalue fields)
        · simp
    rw [hreport, Answerable, htruthy]
    rcases @executeTool_of_notObject block.name _ hvalue with ⟨hname, hcall⟩ | ⟨hname, e, hcall⟩
    · cases htool : setup.tools reading .listDevices with
      | error e =>
        have hrun : attempt setup reading block = .error e := by
          simp only [attempt, hcall, Except.mapError, bind, Except.bind, htool]
        simp [hrun, hnotObject]
      | ok result =>
        have hrun : attempt setup reading block =
            (reportOf setup block.name result).mapError setup.describe := by
          simp only [attempt, hcall, Except.mapError, bind, Except.bind, htool]
        rw [hrun, mapError_ok_iff, reportOf_ok_iff]
        simp [hnotObject, hname]
    · have hrun : attempt setup reading block = .error (setup.describe e) := by
        simp only [attempt, hcall, Except.mapError, bind, Except.bind]
      simp [hrun, hnotObject, hname]

lemma skipped_runToolBlock {answer : CallEntry × ResultBlock}
    (h : runToolBlock setup reading block = .ok answer) :
    answer.2.toolUseId = block.id ∧ answer.1.skipped = false := by
  rw [runToolBlock] at h
  split at h
  · cases h
    exact ⟨rfl, rfl⟩
  · split at h
    · cases h
      exact ⟨rfl, rfl⟩
    · cases h

lemma attributeError_of_runToolBlock {e : Escaped}
    (h : runToolBlock setup reading block = .error e) : ∃ message, e = .attributeError message := by
  rw [runToolBlock] at h
  split at h
  · cases h
  · split at h
    · cases h
    · cases h
      exact ⟨_, rfl⟩

lemma answers_of_answerDecision {decision : Decision} {answer : CallEntry × ResultBlock}
    (h : answerDecision setup decision = .ok answer) : Answers setup decision answer := by
  rw [answerDecision] at h
  by_cases hsubmitted : decision.submitted = true
  · rw [if_pos hsubmitted] at h
    obtain ⟨hid, hskipped⟩ := skipped_runToolBlock h
    constructor
    · exact hid
    · rw [hskipped, hsubmitted]
      rfl
    · intro _
      exact h
    · intro hnot
      rw [hsubmitted] at hnot
      cases hnot
  · rw [if_neg hsubmitted] at h
    rw [Bool.not_eq_true] at hsubmitted
    cases h
    constructor
    · rfl
    · rw [hsubmitted]
      rfl
    · intro h
      rw [hsubmitted] at h
      cases h
    · intro _
      rfl

def Decision.Escapes (setup : Setup) (decision : Decision) : Prop :=
  decision.submitted = true ∧ ¬ Answerable setup decision.reading decision.block

lemma escapes_iff {decision : Decision} :
    decision.Escapes setup ↔ ∃ e, answerDecision setup decision = .error e := by
  rw [Decision.Escapes, answerDecision]
  by_cases hsubmitted : decision.submitted = true
  · rw [if_pos hsubmitted, ← runToolBlock_ok_iff]
    cases runToolBlock setup decision.reading decision.block <;> simp [hsubmitted]
  · rw [if_neg hsubmitted]
    simp [hsubmitted]

lemma blocks_decideBlocks (deadline : ℚ) (blocks : List ToolUse) :
    (decideBlocks setup deadline reading blocks).map Decision.block = blocks := by
  induction blocks generalizing reading with
  | nil => rfl
  | cons block blocks ih => rw [decideBlocks, List.map_cons, ih]

lemma submitted_decideBlocks {deadline : ℚ} {blocks : List ToolUse} :
    ∀ decision ∈ decideBlocks setup deadline reading blocks,
      (decision.submitted = true ↔ setup.clock decision.reading < deadline) := by
  induction blocks generalizing reading with
  | nil => simp [decideBlocks]
  | cons block blocks ih =>
    intro decision hdecision
    rw [decideBlocks, List.mem_cons] at hdecision
    rcases hdecision with rfl | hdecision
    · exact decide_eq_true_iff
    · exact ih decision hdecision

lemma mapM_answerDecision (decisions : List Decision) :
    (∃ answers, decisions.mapM (answerDecision setup) = .ok answers ∧
        List.Forall₂ (Answers setup) decisions answers ∧
        ∀ decision ∈ decisions, ¬ decision.Escapes setup) ∨
      ∃ message, decisions.mapM (answerDecision setup) = .error (.attributeError message) ∧
        ∃ decision ∈ decisions, decision.Escapes setup := by
  induction decisions with
  | nil => exact .inl ⟨[], rfl, .nil, by simp⟩
  | cons decision decisions ih =>
    rw [List.mapM_cons]
    cases hfirst : answerDecision setup decision with
    | error e =>
      have hescapes : decision.Escapes setup := escapes_iff.mpr ⟨e, hfirst⟩
      have hrun : runToolBlock setup decision.reading decision.block = .error e := by
        rw [answerDecision, if_pos hescapes.1] at hfirst
        exact hfirst
      obtain ⟨message, rfl⟩ := attributeError_of_runToolBlock hrun
      exact .inr ⟨message, rfl, decision, List.mem_cons_self .., hescapes⟩
    | ok answer =>
      have hnot : ¬ decision.Escapes setup := by
        rw [escapes_iff, hfirst]
        rintro ⟨e, ⟨⟩⟩
      rcases ih with ⟨answers, hanswers, hall, hnone⟩ | ⟨message, hmessage, found, hfound, hescapes⟩
      · left
        rw [hanswers]
        refine ⟨answer :: answers, rfl, .cons (answers_of_answerDecision hfirst) hall, ?_⟩
        rw [List.forall_mem_cons]
        exact ⟨hnot, hnone⟩
      · right
        rw [hmessage]
        exact ⟨message, rfl, found, List.mem_cons_of_mem _ hfound, hescapes⟩

inductive Loops (setup : Setup) (deadline : ℚ) :
    ℕ → LoopState → List Event → Except Escaped LoopResult → Prop
  | bounded {left state result} (hcomplete : result.complete = false)
      (hcalls : result.toolCalls = state.toolCalls) (husage : result.usage = state.usageTotals)
      (hexchanges : result.exchanges = state.exchanges) :
      Loops setup deadline left state [] (.ok result)
  | failed {left} {state : LoopState} {timeout text} (hnow : setup.clock state.readings < deadline)
      (hcall : setup.model state.iteration = .error text) :
      Loops setup deadline (left + 1) state [.called state.readings timeout state.messages]
        (.error (.callFailed text))
  | declined {left state timeout message text} (hnow : setup.clock state.readings < deadline)
      (hstop : message.stopReason = some "refusal") :
      Loops setup deadline (left + 1) state
        [.called state.readings timeout state.messages, .received message]
        (.error (.declined text))
  | stopped {left state timeout message result} (hnow : setup.clock state.readings < deadline)
      (hstop : message.stopReason ≠ some "pause_turn" ∧ message.stopReason ≠ some "tool_use")
      (hcomplete : result.complete = true ↔ message.stopReason = some "end_turn")
      (hcalls : result.toolCalls = state.toolCalls)
      (husage : result.usage = (state.receive message).usageTotals)
      (hexchanges : result.exchanges = (state.issueCall.receive message).exchanges) :
      Loops setup deadline (left + 1) state
        [.called state.readings timeout state.messages, .received message] (.ok result)
  | paused {left state timeout message events outcome}
      (hnow : setup.clock state.readings < deadline)
      (hstop : message.stopReason = some "pause_turn")
      (hrest : Loops setup deadline left ((state.issueCall.receive message).keep message) events
        outcome) :
      Loops setup deadline (left + 1) state
        (.called state.readings timeout state.messages :: .received message :: events) outcome
  | escaped {left state timeout message text} {decisions : List Decision}
      (hnow : setup.clock state.readings < deadline)
      (hstop : message.stopReason = some "tool_use")
      (hdecided : ∀ decision ∈ decisions,
        (decision.submitted = true ↔ setup.clock decision.reading < deadline))
      (hescapes : ∃ decision ∈ decisions, decision.Escapes setup) :
      Loops setup deadline (left + 1) state
        (.called state.readings timeout state.messages :: .received message ::
          decisions.map .decided) (.error (.attributeError text))
  | answered {left state timeout message answers events outcome} {decisions : List Decision}
      (hnow : setup.clock state.readings < deadline)
      (hstop : message.stopReason = some "tool_use")
      (hdecided : ∀ decision ∈ decisions,
        (decision.submitted = true ↔ setup.clock decision.reading < deadline))
      (hblocks : decisions.map Decision.block = message.toolUses)
      (hanswers : List.Forall₂ (Answers setup) decisions answers)
      (hnone : ∀ decision ∈ decisions, ¬ decision.Escapes setup)
      (hrest : Loops setup deadline left
        (((state.issueCall.receive message).keep message).reply answers) events outcome) :
      Loops setup deadline (left + 1) state
        (.called state.readings timeout state.messages :: .received message ::
          (decisions.map .decided ++ .replied answers :: events)) outcome

lemma unknown_stop_ne (reason : String) : "unknown_stop:" ++ reason ≠ "end_turn" := by
  intro h
  have hhead := congrArg (fun text => text.toList.head?) h
  simp [String.toList_append] at hhead

theorem loops_loop (timeBudget deadline : ℚ) (left : ℕ) (state : LoopState) :
    Loops setup deadline left state (loop setup timeBudget deadline left state).1
      (loop setup timeBudget deadline left state).2 := by
  induction left generalizing state with
  | zero => exact .bounded rfl rfl rfl rfl
  | succ left ih =>
    rw [loop]
    by_cases hlate : deadline ≤ setup.clock state.readings
    · rw [if_pos hlate]
      exact .bounded rfl rfl rfl rfl
    · rw [if_neg hlate]
      have hnow : setup.clock state.readings < deadline := not_le.mp hlate
      dsimp only
      split
      · rename_i text hcall
        exact .failed hnow hcall
      · rename_i message hmessage
        split
        · rename_i hstop
          exact .declined hnow hstop
        · rename_i hstop
          exact .stopped hnow (by simp [hstop]) (by simp [hstop, finish]) rfl rfl rfl
        · rename_i hstop
          exact .paused hnow hstop (ih _)
        · rename_i hstop
          have hdecided := @submitted_decideBlocks setup (state.issueCall.receive message).readings
            deadline message.toolUses
          have hblocks := @blocks_decideBlocks setup (state.issueCall.receive message).readings
            deadline message.toolUses
          rcases @mapM_answerDecision setup (decideBlocks setup deadline
            (state.issueCall.receive message).readings message.toolUses) with
              ⟨answers, hrun, hanswers, hnone⟩ | ⟨text, hrun, hescapes⟩
          · rw [hrun]
            exact .answered hnow hstop hdecided hblocks hanswers hnone (ih _)
          · rw [hrun]
            exact .escaped hnow hstop hdecided hescapes
        · rename_i hstop
          exact .stopped hnow (by simp [hstop]) (by simp [hstop, finish]) rfl rfl rfl
        · rename_i hpause htools hend
          refine .stopped hnow ⟨hpause, htools⟩ ?_ rfl rfl rfl
          simp only [finish, unknown_stop_ne, decide_false, Bool.false_eq_true, false_iff]
          exact hend

section Kept

variable {deadline : ℚ} {left : ℕ} {state : LoopState} {events : List Event}
  {outcome : Except Escaped LoopResult}

lemma countCalls_turn {reading : ℕ} {timeout : ℚ} {sent : List Entry} {message : ModelMessage} :
    countCalls (.called reading timeout sent :: .received message :: events) =
      countCalls events + 1 := rfl

lemma countCalls_decided (decisions : List Decision) (rest : List Event) :
    countCalls (decisions.map Event.decided ++ rest) = countCalls rest := by
  induction decisions with
  | nil => rfl
  | cons decision decisions ih => exact ih

lemma Loops.calls (h : Loops setup deadline left state events outcome) :
    countCalls events ≤ left := by
  induction h with
  | bounded => exact Nat.zero_le _
  | failed => exact Nat.le_add_left 1 _
  | declined => exact Nat.le_add_left 1 _
  | stopped => exact Nat.le_add_left 1 _
  | paused _ _ _ ih =>
    rw [countCalls_turn]
    omega
  | escaped =>
    rw [countCalls_turn, ← List.append_nil (List.map _ _), countCalls_decided]
    exact Nat.le_add_left 1 _
  | answered _ _ _ _ _ _ _ ih =>
    rw [countCalls_turn, countCalls_decided]
    have hreplied : ∀ answers events, countCalls (.replied answers :: events) = countCalls events :=
      fun _ _ => rfl
    rw [hreplied]
    omega

lemma Loops.admitted (h : Loops setup deadline left state events outcome) :
    ∀ reading timeout sent, .called reading timeout sent ∈ events →
      setup.clock reading < deadline := by
  induction h with
  | bounded => simp
  | failed hnow =>
    intro reading timeout sent hmem
    simp only [List.mem_singleton, Event.called.injEq] at hmem
    rw [hmem.1]
    exact hnow
  | declined hnow | stopped hnow =>
    intro reading timeout sent hmem
    simp only [List.mem_cons, Event.called.injEq, reduceCtorEq, List.not_mem_nil, or_self,
      or_false] at hmem
    rw [hmem.1]
    exact hnow
  | paused hnow _ _ ih =>
    intro reading timeout sent hmem
    simp only [List.mem_cons, Event.called.injEq, reduceCtorEq, false_or] at hmem
    rcases hmem with hmem | hmem
    · rw [hmem.1]
      exact hnow
    · exact ih _ _ _ hmem
  | escaped hnow =>
    intro reading timeout sent hmem
    simp only [List.mem_cons, Event.called.injEq, reduceCtorEq, List.mem_map, and_false,
      exists_false, or_false] at hmem
    rw [hmem.1]
    exact hnow
  | answered hnow _ _ _ _ _ _ ih =>
    intro reading timeout sent hmem
    simp only [List.mem_cons, Event.called.injEq, reduceCtorEq, false_or, List.mem_append,
      List.mem_map, and_false, exists_false] at hmem
    rcases hmem with hmem | hmem
    · rw [hmem.1]
      exact hnow
    · exact ih _ _ _ hmem

lemma conversing_decided (said : List Entry) (decisions : List Decision) (rest : List Event) :
    Conversing said (decisions.map Event.decided ++ rest) ↔ Conversing said rest := by
  induction decisions with
  | nil => rfl
  | cons decision decisions ih => exact ih

lemma Loops.conversation (h : Loops setup deadline left state events outcome) :
    Conversing state.messages events := by
  induction h with
  | bounded => trivial
  | failed => exact ⟨rfl, trivial⟩
  | declined => exact ⟨rfl, trivial⟩
  | stopped => exact ⟨rfl, trivial⟩
  | @paused left state timeout message events outcome hnow hstop hrest ih =>
    refine ⟨rfl, ?_⟩
    have hkept : message.kept = [.assistant message.content] := if_pos (.inl hstop)
    rw [Conversing, hkept]
    exact ih
  | @escaped left state timeout message text decisions hnow hstop hdecided hescapes =>
    refine ⟨rfl, ?_⟩
    rw [Conversing, ← List.append_nil (decisions.map Event.decided), conversing_decided]
    trivial
  | @answered left state timeout message answers events outcome decisions hnow hstop hdecided
      hblocks hanswers hnone hrest ih =>
    refine ⟨rfl, ?_⟩
    have hkept : message.kept = [.assistant message.content] := if_pos (.inr hstop)
    rw [Conversing, hkept, conversing_decided]
    exact ih

lemma Loops.submitted (h : Loops setup deadline left state events outcome) :
    ∀ decision, .decided decision ∈ events →
      (decision.submitted = true ↔ setup.clock decision.reading < deadline) := by
  induction h with
  | bounded => simp
  | failed => simp
  | declined => simp
  | stopped => simp
  | paused _ _ _ ih =>
    intro decision hmem
    simp only [List.mem_cons, reduceCtorEq, false_or] at hmem
    exact ih decision hmem
  | escaped _ _ hdecided =>
    intro decision hmem
    simp only [List.mem_cons, reduceCtorEq, false_or, List.mem_map, Event.decided.injEq,
      exists_eq_right] at hmem
    exact hdecided decision hmem
  | answered _ _ hdecided _ _ _ _ ih =>
    intro decision hmem
    simp only [List.mem_cons, reduceCtorEq, false_or, List.mem_append, List.mem_map,
      Event.decided.injEq, exists_eq_right] at hmem
    rcases hmem with hmem | hmem
    · exact hdecided decision hmem
    · exact ih decision hmem

lemma replied_nil : Replied setup [] := by
  intro message after hsuffix
  cases List.suffix_nil.mp hsuffix

lemma replied_cons {event : Event} (hevent : ∀ message, event ≠ .received message)
    (h : Replied setup events) : Replied setup (event :: events) := by
  intro message after hsuffix
  rcases List.suffix_cons_iff.mp hsuffix with heq | hsuffix
  · cases heq
    exact absurd rfl (hevent message)
  · exact h message after hsuffix

lemma replied_received {message : ModelMessage} (hstop : message.stopReason ≠ some "tool_use")
    (h : Replied setup events) : Replied setup (.received message :: events) := by
  intro other after hsuffix
  rcases List.suffix_cons_iff.mp hsuffix with heq | hsuffix
  · cases heq
    intro htools
    exact absurd htools hstop
  · exact h other after hsuffix

lemma replied_decided (decisions : List Decision) (h : Replied setup events) :
    Replied setup (decisions.map Event.decided ++ events) := by
  induction decisions with
  | nil => exact h
  | cons decision decisions ih => exact replied_cons (by simp) ih

lemma Loops.replied_or_escapes (h : Loops setup deadline left state events outcome) :
    (Replied setup events ∧ (∀ text, outcome ≠ .error (.attributeError text)) ∧
        ∀ decision, .decided decision ∈ events → ¬ decision.Escapes setup) ∨
      ((∃ text, outcome = .error (.attributeError text)) ∧
        ∃ decision, .decided decision ∈ events ∧ decision.Escapes setup) := by
  induction h with
  | bounded => exact .inl ⟨replied_nil, by simp, by simp⟩
  | failed => exact .inl ⟨replied_cons (by simp) replied_nil, by simp, by simp⟩
  | @declined left state timeout message text hnow hstop =>
    have hother : Replied setup [.received message] :=
      replied_received (by simp [hstop]) replied_nil
    exact .inl ⟨replied_cons (by simp) hother, by simp, by simp⟩
  | stopped _ hstop =>
    have hother : Replied setup [.received _] := replied_received hstop.2 replied_nil
    exact .inl ⟨replied_cons (by simp) hother, by simp, by simp⟩
  | paused _ hstop _ ih =>
    rcases ih with ⟨hreplied, houtcome, hnone⟩ | ⟨houtcome, decision, hmem, hescapes⟩
    · left
      refine ⟨?_, houtcome, ?_⟩
      · exact replied_cons (by simp) (replied_received (by simp [hstop]) hreplied)
      · intro decision hmem
        simp only [List.mem_cons, reduceCtorEq, false_or] at hmem
        exact hnone decision hmem
    · right
      exact ⟨houtcome, decision, List.mem_cons_of_mem _ (List.mem_cons_of_mem _ hmem), hescapes⟩
  | escaped _ _ _ hescapes =>
    obtain ⟨decision, hmem, hescapes⟩ := hescapes
    right
    refine ⟨⟨_, rfl⟩, decision, ?_, hescapes⟩
    exact List.mem_cons_of_mem _ (List.mem_cons_of_mem _ (List.mem_map_of_mem hmem))
  | @answered left state timeout message answers events outcome decisions hnow hstop hdecided
      hblocks hanswers hnone hrest ih =>
    rcases ih with ⟨hreplied, houtcome, hrestNone⟩ | ⟨houtcome, decision, hmem, hescapes⟩
    · left
      refine ⟨replied_cons (by simp) ?_, houtcome, ?_⟩
      · intro other after hsuffix
        rcases List.suffix_cons_iff.mp hsuffix with heq | hsuffix
        · cases heq
          intro _
          exact ⟨decisions, answers, events, rfl, hblocks, hanswers⟩
        · have hlater : Replied setup (decisions.map .decided ++ .replied answers :: events) :=
            replied_decided decisions (replied_cons (by simp) hreplied)
          exact hlater other after hsuffix
      · intro decision hmem
        simp only [List.mem_cons, reduceCtorEq, false_or, List.mem_append, List.mem_map,
          Event.decided.injEq, exists_eq_right] at hmem
        rcases hmem with hmem | hmem
        · exact hnone decision hmem
        · exact hrestNone decision hmem
    · right
      refine ⟨houtcome, decision, ?_, hescapes⟩
      simp [hmem]

/-! ### Reports -/

lemma lastMessage_turn {reading : ℕ} {timeout : ℚ} {sent : List Entry} (message : ModelMessage)
    (rest : List Event) :
    lastMessage (.called reading timeout sent :: .received message :: rest) =
      some ((lastMessage rest).getD message) := by
  change ((message :: rest.filterMap Event.message?)).getLast? = _
  rw [List.getLast?_cons]
  rfl

lemma lastMessage_decided (decisions : List Decision) (rest : List Event) :
    lastMessage (decisions.map Event.decided ++ rest) = lastMessage rest := by
  induction decisions with
  | nil => rfl
  | cons decision decisions ih => exact ih

lemma entries_decided (decisions : List Decision) :
    (decisions.map Event.decided).flatMap Event.entries = [] := by
  simp [Event.entries]

lemma Expected.of_turn {reading : ℕ} {timeout : ℚ} {sent : List Entry} {message : ModelMessage}
    {rest rest' : List Event} {e : Escaped} (hrest : lastMessage rest' = lastMessage rest)
    (h : Expected setup rest e) :
    Expected setup (.called reading timeout sent :: .received message :: rest') e := by
  cases h with
  | callFailed h => exact .callFailed h
  | declined hlast hstop =>
    refine .declined ?_ hstop
    rw [lastMessage_turn, hrest, hlast]
    rfl

lemma Loops.raised (h : Loops setup deadline left state events outcome) :
    ∀ e, outcome = .error e → (∀ text, e ≠ .attributeError text) → Expected setup events e := by
  induction h with
  | bounded => rintro e ⟨⟩
  | failed _ hcall =>
    rintro e ⟨⟩ -
    exact .callFailed hcall
  | declined _ hstop =>
    rintro e ⟨⟩ -
    exact .declined (lastMessage_turn _ []) hstop
  | stopped => rintro e ⟨⟩
  | paused _ _ _ ih =>
    intro e he hother
    exact (ih e he hother).of_turn rfl
  | escaped =>
    rintro e ⟨⟩ hother
    exact absurd rfl (hother _)
  | answered _ _ _ _ _ _ _ ih =>
    intro e he hother
    refine (ih e he hother).of_turn ?_
    rw [lastMessage_decided]
    rfl

def Told (events : List Event) (result : LoopResult) : Prop :=
  result.complete = true ↔
    ∃ message, lastMessage events = some message ∧ message.stopReason = some "end_turn"

lemma told_turn {reading : ℕ} {timeout : ℚ} {sent : List Entry} {message : ModelMessage}
    {rest rest' : List Event} {result : LoopResult} (hstop : message.stopReason ≠ some "end_turn")
    (hrest : lastMessage rest' = lastMessage rest) (h : Told rest result) :
    Told (.called reading timeout sent :: .received message :: rest') result := by
  rw [Told, lastMessage_turn, hrest]
  rw [Told] at h
  rw [h]
  cases lastMessage rest with
  | none => simp [hstop]
  | some last => simp

lemma Loops.complete (h : Loops setup deadline left state events outcome) :
    ∀ result, outcome = .ok result → Told events result := by
  induction h with
  | bounded hcomplete =>
    rintro result ⟨⟩
    simp [Told, hcomplete, lastMessage]
  | failed => rintro result ⟨⟩
  | declined => rintro result ⟨⟩
  | stopped _ _ hcomplete =>
    rintro result ⟨⟩
    rw [Told, lastMessage_turn, hcomplete]
    simp [lastMessage]
  | paused _ hstop _ ih =>
    intro result hresult
    exact told_turn (by simp [hstop]) rfl (ih result hresult)
  | escaped => rintro result ⟨⟩
  | answered _ hstop _ _ _ _ _ ih =>
    intro result hresult
    refine told_turn (by simp [hstop]) ?_ (ih result hresult)
    rw [lastMessage_decided]
    rfl

lemma Loops.audited (h : Loops setup deadline left state events outcome) :
    ∀ result, outcome = .ok result →
      result.toolCalls = state.toolCalls ++ events.flatMap Event.entries := by
  induction h with
  | bounded _ hcalls =>
    rintro result ⟨⟩
    rw [hcalls, List.flatMap_nil, List.append_nil]
  | failed => rintro result ⟨⟩
  | declined => rintro result ⟨⟩
  | stopped _ _ _ hcalls =>
    rintro result ⟨⟩
    rw [hcalls]
    exact (List.append_nil _).symm
  | paused _ _ _ ih =>
    intro result hresult
    exact ih result hresult
  | escaped => rintro result ⟨⟩
  | @answered left state timeout message answers events outcome decisions hnow hstop hdecided
      hblocks hanswers hnone hrest ih =>
    intro result hresult
    rw [ih result hresult]
    simp only [LoopState.reply, LoopState.keep, LoopState.receive, LoopState.issueCall,
      List.flatMap_cons, List.flatMap_append, entries_decided, Event.entries, List.nil_append,
      List.append_assoc]

def SumsUp (exchanges : List Exchange) (totals : Totals) : Prop :=
  ∀ field ∈ USAGE_FIELDS,
    (exchanges.map (fun exchange => exchange.usage.amount field)).sum = totals.amount field

lemma amount_usageTurnDelta (before after : Totals) {field : String} (h : field ∈ USAGE_FIELDS) :
    (usageTurnDelta before after).amount field = after.amount field - before.amount field := by
  have hlookup : (usageTurnDelta before after).lookup field =
      some (after.amount field - before.amount field) :=
    ListSearch.lookup_map_of_injective Function.injective_id _ h
  rw [Totals.amount, hlookup]
  rfl

lemma sumsUp_receive {state : LoopState} (message : ModelMessage)
    (h : SumsUp state.exchanges state.usageTotals) :
    SumsUp (state.issueCall.receive message).exchanges
      (state.issueCall.receive message).usageTotals := by
  intro field hfield
  have hdelta := amount_usageTurnDelta state.usageTotals
    (accumulateUsage state.usageTotals message.usage) hfield
  simp only [LoopState.receive, LoopState.issueCall, List.map_append, List.map_cons, List.map_nil,
    List.sum_append, List.sum_cons, List.sum_nil, hdelta]
  rw [h field hfield]
  omega

lemma Loops.usage (h : Loops setup deadline left state events outcome)
    (hstate : SumsUp state.exchanges state.usageTotals) :
    ∀ result, outcome = .ok result → SumsUp result.exchanges result.usage := by
  induction h with
  | bounded _ _ husage hexchanges =>
    rintro result ⟨⟩
    rw [husage, hexchanges]
    exact hstate
  | failed => rintro result ⟨⟩
  | declined => rintro result ⟨⟩
  | stopped _ _ _ _ husage hexchanges =>
    rintro result ⟨⟩
    rw [husage, hexchanges]
    exact sumsUp_receive _ hstate
  | paused _ _ _ ih => exact ih (sumsUp_receive _ hstate)
  | escaped => rintro result ⟨⟩
  | answered _ _ _ _ _ _ _ ih => exact ih (sumsUp_receive _ hstate)

end Kept

/-- A run keeps its contract exactly when no block that was handed to the pool escapes. -/
theorem runAgentLoop_contract_iff (setup : Setup) (question : String) (device : Option String)
    (maxIterations : Int) (timeBudget : ℚ) :
    Contract setup maxIterations (setup.clock 0 + timeBudget)
        [.user (initialUserContent question device)]
        (runAgentLoop setup question device maxIterations timeBudget) ↔
      ∀ decision, .decided decision ∈
          (runAgentLoop setup question device maxIterations timeBudget).1 →
        decision.submitted = true → Answerable setup decision.reading decision.block := by
  have hloops := @loops_loop setup timeBudget (setup.clock 0 + timeBudget)
    maxIterations.toNat { messages := [.user (initialUserContent question device)], readings := 1 }
  constructor
  · intro h decision hmem hsubmitted
    by_contra hnot
    rcases hloops.replied_or_escapes with ⟨-, -, hnone⟩ | ⟨⟨text, houtcome⟩, -⟩
    · exact hnone decision hmem ⟨hsubmitted, hnot⟩
    · cases h.raised _ houtcome
  · intro h
    rcases hloops.replied_or_escapes with ⟨hreplied, houtcome, -⟩ | ⟨-, decision, hmem, hescapes⟩
    · constructor
      · exact hloops.calls
      · exact hloops.admitted
      · exact hloops.conversation
      · exact hloops.submitted
      · exact hreplied
      · intro e he
        apply hloops.raised e he
        rintro text rfl
        exact houtcome text he
      · exact hloops.complete
      · exact hloops.audited
      · exact hloops.usage (fun _ _ => rfl)
    · exact absurd (h decision hmem hescapes.1) hescapes.2

def listInput : Setup where
  clock := fun _ => 0
  model := fun _ => .ok
    { content := [.toolUse ⟨"toolu_1", "run_lab_intent", .list [.str "PE1", .str "bgp"]⟩]
      stopReason := some "tool_use"
      stopCategory := none
      usage := fun _ => none }
  tools := fun _ _ => .ok []
  describe := fun _ => "TypeError: list indices must be integers or slices, not str"
  dumps := fun _ => ""
  repr := fun _ => ""
  lower := id

/-- The run raises what the handler raises, and nothing is reported. -/
theorem not_contract_listInput :
    (runAgentLoop listInput "Why is BGP down?" none 8 120).2 =
        .error (.attributeError "'list' object has no attribute 'get'") ∧
      ¬ Contract listInput 8 (listInput.clock 0 + 120)
        [.user (initialUserContent "Why is BGP down?" none)]
        (runAgentLoop listInput "Why is BGP down?" none 8 120) := by
  have houtcome : (runAgentLoop listInput "Why is BGP down?" none 8 120).2 =
      .error (.attributeError "'list' object has no attribute 'get'") := by
    with_unfolding_all rfl
  refine ⟨houtcome, ?_⟩
  intro h
  cases h.raised _ houtcome

end AgentLoop

end NetTools
