import NetTools.EventAgent.DispatchCalls

/-!
# The loop against any model

What holds of every state of a run, whatever the model asks for: the bounds, the arguments of
each call, the answer. A run answers every requested call exactly when each of them fits the
loop in the state in which it is handled.
-/

namespace NetTools

namespace LoopInputs

variable {i : LoopInputs} {offers : List ToolOffer} {st st' : LoopState}

/-- What the bounds say of a state, with a negative bound as none. -/
structure Bounded (i : LoopInputs) (offers : List ToolOffer) (st : LoopState) : Prop where
  total : st.totalCalls = st.dispatched.length
  counts : ∀ tool, st.callsPerTool tool = st.dispatched.countP (fun call => call.1 = tool)
  calls : (st.totalCalls : Int) ≤ max i.bounds.maxToolCalls 0
  caps : ∀ tool cap, i.bounds.maxCallsPerTool.lookup tool = some cap →
    (st.callsPerTool tool : Int) ≤ max cap 0
  resolved : ∀ call ∈ st.dispatched, ∃ offer ∈ offers, ∃ supplied others, offer.name = call.1 ∧
    resolveArguments i.printer offer (.dict supplied) others = .ok call.2
  answers : st.answers = st.finalReceipt.toList.map (fun receipt => ("investigate_lab", receipt))
  read : ∀ receipt, st.finalReceipt = some receipt → ∃ k args,
    st.dispatched[k]? = some ("investigate_lab", args) ∧ i.ReceiptAt k receipt

lemma Bounded.of_same (hsame : SameCalls st st') (h : Bounded i offers st) :
    Bounded i offers st' where
  total := by rw [hsame.totalCalls, hsame.dispatched, h.total]
  counts := by rw [hsame.callsPerTool, hsame.dispatched]; exact h.counts
  calls := by rw [hsame.totalCalls]; exact h.calls
  caps := by rw [hsame.callsPerTool]; exact h.caps
  resolved := by rw [hsame.dispatched]; exact h.resolved
  answers := by rw [hsame.answers, hsame.finalReceipt]; exact h.answers
  read := by rw [hsame.finalReceipt, hsame.dispatched]; exact h.read

theorem Bounded.of_effect (hoffers : ∀ offer ∈ offers, offer.name ≠ "")
    (heffect : Effect i offers st st') (h : Bounded i offers st) : Bounded i offers st' := by
  cases heffect with
  | quiet hquiet => exact h.of_same hquiet.toSameCalls
  | sent offer supplied args others offered resolved budget cap hsent =>
    refine ⟨?_, ?_, ?_, ?_, ?_, ?_, ?_⟩
    · rw [hsent.totalCalls, hsent.dispatched, List.length_append, h.total]
      rfl
    · intro tool
      rw [hsent.callsPerTool, hsent.dispatched, List.countP_append, h.counts, List.countP_singleton]
      congr 1
      by_cases hname : tool = offer.name
      · rw [if_pos hname, if_pos (by simpa using hname.symm)]
      · rw [if_neg hname, if_neg (by simpa using fun heq => hname heq.symm)]
    · rw [hsent.totalCalls]
      have := le_max_left i.bounds.maxToolCalls 0
      omega
    · intro tool limit hlimit
      rw [hsent.callsPerTool]
      by_cases hname : tool = offer.name
      · rw [hname] at hlimit ⊢
        have hbelow := cap limit (hoffers offer offered) hlimit
        have hmax := le_max_left limit 0
        rw [if_pos rfl]
        omega
      · rw [if_neg hname]
        exact h.caps tool limit hlimit
    · rw [hsent.dispatched]
      intro call hcall
      rcases List.mem_append.mp hcall with hcall | hcall
      · exact h.resolved call hcall
      · rw [List.mem_singleton.mp hcall]
        exact ⟨offer, offered, supplied, others, rfl, resolved⟩
    · rcases hsent.receipt with ⟨hfinal, hanswers⟩ | ⟨hnone, hname, receipt, hfinal, hanswers, hread⟩
      · rw [hfinal, hanswers]
        exact h.answers
      · rw [hfinal, hanswers, h.answers, hnone]
        rfl
    · intro receipt hreceipt
      rw [hsent.dispatched]
      rcases hsent.receipt with ⟨hfinal, -⟩ | ⟨-, hname, read, hfinal, -, hread⟩
      · rw [hfinal] at hreceipt
        obtain ⟨k, args', hk, hat⟩ := h.read receipt hreceipt
        obtain ⟨hlt, -⟩ := List.getElem?_eq_some_iff.mp hk
        exact ⟨k, args', (List.getElem?_append_left hlt).trans hk, hat⟩
      · rw [hfinal] at hreceipt
        cases hreceipt
        refine ⟨st.dispatched.length, args, ?_, hread⟩
        rw [List.getElem?_concat_length, hname]

/-! ### The turns of a run -/

def endOfRound : Except Crash (LoopState × Option Stop) → LoopState
  | .ok out => out.1
  | .error crash => crash.state

lemma handleCalls_keeps {P : LoopState → Prop}
    (hstep : ∀ st st', Effect i offers st st' → P st → P st') (calls : List Value) (h : P st) :
    P (endOf (i.handleCalls offers st calls)) := by
  induction calls generalizing st with
  | nil => exact h
  | cons call calls ih =>
    unfold handleCalls
    split
    · rename_i fields
      have hcall := hstep st _ (handleCall_effect i offers st fields) h
      split
      · rename_i crash hcrash
        rw [hcrash] at hcall
        exact hcall
      · rename_i st' hst'
        rw [hst'] at hcall
        exact ih hcall
    · exact ih h

def callPoints (i : LoopInputs) (offers : List ToolOffer) :
    LoopState → List Value → List (LoopState × Dict)
  | _, [] => []
  | st, call :: calls =>
    match call with
    | .dict fields => (st, fields) ::
      match i.handleCall offers st fields with
      | .error _ => []
      | .ok st => callPoints i offers st calls
    | _ => callPoints i offers st calls

def roundPoints (i : LoopInputs) (offers : List ToolOffer) (st : LoopState) :
    List (LoopState × Dict) :=
  if i.deadline ≤ i.clock st.ticks then []
  else
    match i.caller st.iteration with
    | .raised _ => []
    | .turn turn =>
      match requestedCalls turn with
      | .error _ => []
      | .ok calls =>
        i.callPoints offers
          (openTurn (startRound st) (exchangeOf (st.iteration + 1) turn calls) calls) calls

def mappingCalls (calls : List Value) : List Dict :=
  calls.filterMap (fun call =>
    match call with
    | .dict fields => some fields
    | _ => none)

def requestsOf (calls : List Value) : List (Value × Value) :=
  (mappingCalls calls).map (fun call => (callName call, call.fetch "arguments"))

def requested (st : LoopState) : List (Value × Value) := st.exchanges.flatMap Exchange.requested

lemma exchangeOf_requested (iteration : Nat) (turn : Value) (calls : List Value) :
    (exchangeOf iteration turn calls).requested = requestsOf calls := by
  rw [requestsOf, mappingCalls, List.map_filterMap]
  apply congrArg (fun f => List.filterMap f calls)
  funext call
  cases call <;> rfl

lemma requested_recordTurn (st : LoopState) (exchange : Exchange) (error : Option String) :
    requested (recordTurn st exchange error) = requested st ++ exchange.requested := by
  rw [requested, recordTurn, List.flatMap_append, List.flatMap_singleton, requested]

lemma sameCalls_recordTurn (st : LoopState) (exchange : Exchange) (error : Option String) :
    SameCalls st (recordTurn st exchange error) :=
  ⟨rfl, rfl, rfl, answers_concat_of_none rfl rfl, rfl⟩

lemma sameCalls_startRound (st : LoopState) : SameCalls st (startRound st) :=
  ⟨rfl, rfl, rfl, rfl, rfl⟩

lemma sameCalls_openTurn (st : LoopState) (exchange : Exchange) (calls : List Value) :
    SameCalls st (openTurn (startRound st) exchange calls) :=
  (sameCalls_startRound st).trans
    ⟨rfl, rfl, rfl, (sameCalls_recordTurn (startRound st) exchange none).answers, rfl⟩

inductive RoundEnds (i : LoopInputs) (offers : List ToolOffer) (st : LoopState) :
    Except Crash (LoopState × Option Stop) → List (LoopState × Dict) → Prop where
  | plain (out : Except Crash (LoopState × Option Stop)) (same : SameCalls st (endOfRound out))
      (iteration : (endOfRound out).iteration ≤ st.iteration + 1)
      (messages : (endOfRound out).messages = st.messages)
      (requests : requested (endOfRound out) = requested st)
      (last : ∀ st', out ≠ .ok (st', none)) : RoundEnds i offers st out []
  | crashed (exchange : Exchange) (calls : List Value) (crash : Crash)
      (h : i.handleCalls offers (openTurn (startRound st) exchange calls) calls = .error crash) :
      RoundEnds i offers st (.error crash)
        (i.callPoints offers (openTurn (startRound st) exchange calls) calls)
  | answered (exchange : Exchange) (calls : List Value) (handled : LoopState)
      (requests : exchange.requested = requestsOf calls)
      (h : i.handleCalls offers (openTurn (startRound st) exchange calls) calls = .ok handled) :
      RoundEnds i offers st
        (.ok ({ handled with messages := handled.messages ++ [.toolResults handled.results] }, none))
        (i.callPoints offers (openTurn (startRound st) exchange calls) calls)

theorem round_ends (i : LoopInputs) (offers : List ToolOffer) (st : LoopState) :
    RoundEnds i offers st (i.round offers st) (i.roundPoints offers st) := by
  rw [round, roundPoints]
  split
  · obtain ⟨limits, hlimits⟩ := recordLimit_eq { st with ticks := st.ticks + 1 } "time_budget_s"
      i.bounds.timeBudget (Double.sub (i.clock st.ticks) i.start)
    rw [now, hlimits]
    exact .plain _ ⟨rfl, rfl, rfl, rfl, rfl⟩ (Nat.le_succ _) rfl rfl (fun st' h => nomatch h)
  cases i.caller st.iteration with
  | raised message =>
    refine .plain _ ((sameCalls_startRound st).trans (sameCalls_recordTurn _ _ _)) le_rfl rfl ?_
      (fun st' h => nomatch h)
    exact (requested_recordTurn (startRound st) _ _).trans (List.append_nil _)
  | turn turn =>
    dsimp only
    rw [takeTurn]
    cases requestedCalls turn with
    | error e =>
      exact .plain _ ⟨rfl, rfl, rfl, rfl, rfl⟩ le_rfl rfl rfl (fun st' h => nomatch h)
    | ok calls =>
      have hrequests := exchangeOf_requested (st.iteration + 1) turn calls
      have hiteration : (startRound st).iteration = st.iteration + 1 := rfl
      dsimp only
      rw [hiteration]
      generalize exchangeOf (st.iteration + 1) turn calls = exchange at hrequests ⊢
      split
      · rename_i hempty
        rw [List.isEmpty_iff.mp hempty] at hrequests ⊢
        refine .plain _ ((sameCalls_startRound st).trans (sameCalls_recordTurn _ _ _)) le_rfl rfl ?_
          (fun st' h => nomatch h)
        refine (requested_recordTurn (startRound st) _ _).trans ?_
        rw [hrequests]
        exact List.append_nil _
      · cases hcalls : i.handleCalls offers (openTurn (startRound st) exchange calls) calls with
        | error crash => exact .crashed exchange calls crash hcalls
        | ok handled => exact .answered exchange calls handled hrequests hcalls

theorem round_bounded (hoffers : ∀ offer ∈ offers, offer.name ≠ "") (h : Bounded i offers st) :
    Bounded i offers (endOfRound (i.round offers st)) := by
  have hends := round_ends i offers st
  generalize i.round offers st = out, i.roundPoints offers st = points at hends
  have hturn (exchange : Exchange) (calls : List Value) : Bounded i offers
      (endOf (i.handleCalls offers (openTurn (startRound st) exchange calls) calls)) :=
    handleCalls_keeps (fun _ _ heffect => Bounded.of_effect hoffers heffect) calls
      (h.of_same (sameCalls_openTurn st exchange calls))
  cases hends with
  | plain out same => exact h.of_same same
  | crashed exchange calls crash hcalls =>
    have hcrash := hturn exchange calls
    rw [hcalls] at hcrash
    exact hcrash
  | answered exchange calls handled requests hcalls =>
    have hhandled := hturn exchange calls
    rw [hcalls] at hhandled
    refine hhandled.of_same ?_
    exact ⟨rfl, rfl, rfl, rfl, rfl⟩

theorem rounds_bounded (hoffers : ∀ offer ∈ offers, offer.name ≠ "") (left : Nat)
    (h : Bounded i offers st) : Bounded i offers (i.rounds offers left st).state := by
  induction left generalizing st with
  | zero =>
    obtain ⟨limits, hlimits⟩ := recordLimit_eq st "max_iterations" i.bounds.maxIterations st.iteration
    rw [rounds, hlimits]
    refine h.of_same ?_
    exact ⟨rfl, rfl, rfl, rfl, rfl⟩
  | succ left ih =>
    have hround := round_bounded hoffers h
    rw [rounds]
    split
    · rename_i crash hcrash
      rw [hcrash] at hround
      exact hround
    · rename_i st' stop hstop
      rw [hstop] at hround
      exact hround
    · rename_i st' hnext
      rw [hnext] at hround
      exact ih hround

/-- A result stands under the name of its call, and under its id if it has one. -/
structure Answers (call : Dict) (result : ToolResult) : Prop where
  name : result.name = callName call
  id : (call.fetch "id").truthy = true → result.id = call.fetch "id"

/-- A turn of the model with its calls, and one result for each that is a mapping. -/
structure AnsweredTurn where
  text : Value
  calls : List Value
  results : List ToolResult
  answered : List.Forall₂ Answers (mappingCalls calls) results

def AnsweredTurn.messages (turn : AnsweredTurn) : List Message :=
  [.assistant turn.text turn.calls, .toolResults turn.results]

def isUser : Message → Bool
  | .user _ => true
  | _ => false

def conversation (st : LoopState) : List Message := st.messages.filter (fun m => !isUser m)

/-- The messages are answered turns, and every requested call is in one of them. -/
def Answered (st : LoopState) : Prop :=
  ∃ turns : List AnsweredTurn, conversation st = turns.flatMap AnsweredTurn.messages ∧
    requested st = turns.flatMap (fun turn => requestsOf turn.calls)

lemma Answered.length (h : Answered st) : ∃ n, (conversation st).length = 2 * n := by
  obtain ⟨turns, hmessages, -⟩ := h
  refine ⟨turns.length, ?_⟩
  rw [hmessages, List.length_flatMap]
  have hlengths : turns.map (fun turn => turn.messages.length) = turns.map (fun _ => 2) := rfl
  rw [hlengths, List.map_const', List.sum_replicate_nat, Nat.mul_comm]

def runPoints (i : LoopInputs) (offers : List ToolOffer) :
    Nat → LoopState → List (LoopState × Dict)
  | 0, _ => []
  | left + 1, st => i.roundPoints offers st ++
    match i.round offers st with
    | .ok (st, none) => runPoints i offers left st
    | _ => []

end LoopInputs

end NetTools
