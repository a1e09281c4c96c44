import Mathlib.Data.List.ModifyLast
import NetTools.EventAgent.Dispatch

/-!
# What one requested call does

A call is refused or goes out once, and nothing else changes what the bounds of the loop count.
It ends in an uncaught exception exactly when it does not fit the loop.
-/

namespace NetTools

def TicketSection.answer? : TicketSection → Option (String × InvestigationReceipt)
  | .answer tool receipt => some (tool, receipt)
  | _ => none

def LoopState.answers (st : LoopState) : List (String × InvestigationReceipt) :=
  st.ticket.filterMap TicketSection.answer?

lemma answers_concat {st st' : LoopState} {entry : TicketSection}
    (h : st'.ticket = st.ticket ++ [entry]) :
    st'.answers = st.answers ++ entry.answer?.toList := by
  rw [LoopState.answers, h, List.filterMap_append, LoopState.answers, List.append_cancel_left_eq]
  cases hanswer : entry.answer? with
  | none => rw [List.filterMap_cons_none hanswer]; rfl
  | some answer => rw [List.filterMap_cons_some hanswer]; rfl

lemma answers_concat_of_none {st st' : LoopState} {entry : TicketSection}
    (h : st'.ticket = st.ticket ++ [entry]) (hentry : entry.answer? = none) :
    st'.answers = st.answers := by
  rw [answers_concat h, hentry]
  exact List.append_nil _

def endOf : Except Crash LoopState → LoopState
  | .ok st => st
  | .error crash => crash.state

structure SameTurn (st st' : LoopState) : Prop where
  iteration : st'.iteration = st.iteration
  messages : st'.messages = st.messages
  exchanges : st'.exchanges = st.exchanges

structure SameCalls (st st' : LoopState) : Prop where
  totalCalls : st'.totalCalls = st.totalCalls
  callsPerTool : st'.callsPerTool = st.callsPerTool
  dispatched : st'.dispatched = st.dispatched
  answers : st'.answers = st.answers
  finalReceipt : st'.finalReceipt = st.finalReceipt

structure Quiet (st st' : LoopState) : Prop extends SameTurn st st', SameCalls st st'

lemma SameTurn.trans {s s' s'' : LoopState} (h : SameTurn s s') (h' : SameTurn s' s'') :
    SameTurn s s'' :=
  ⟨h'.iteration.trans h.iteration, h'.messages.trans h.messages, h'.exchanges.trans h.exchanges⟩

lemma SameCalls.trans {s s' s'' : LoopState} (h : SameCalls s s') (h' : SameCalls s' s'') :
    SameCalls s s'' :=
  ⟨h'.totalCalls.trans h.totalCalls, h'.callsPerTool.trans h.callsPerTool,
    h'.dispatched.trans h.dispatched, h'.answers.trans h.answers,
    h'.finalReceipt.trans h.finalReceipt⟩

lemma Quiet.refl (s : LoopState) : Quiet s s := ⟨⟨rfl, rfl, rfl⟩, ⟨rfl, rfl, rfl, rfl, rfl⟩⟩

lemma Quiet.trans {s s' s'' : LoopState} (h : Quiet s s') (h' : Quiet s' s'') : Quiet s s'' :=
  ⟨h.toSameTurn.trans h'.toSameTurn, h.toSameCalls.trans h'.toSameCalls⟩

namespace LoopInputs

variable {i : LoopInputs} {offers : List ToolOffer} {st st' : LoopState}

def ReceiptAt (i : LoopInputs) (k : Nat) (receipt : InvestigationReceipt) : Prop :=
  ∃ result payload, i.toolset k = .result result ∧ result.isError = false ∧
    i.loads result.text = some (.dict payload) ∧ InvestigationReceipt.parse payload = .ok receipt

structure Sent (i : LoopInputs) (st st' : LoopState) (name : String) (args : Dict) : Prop extends
    SameTurn st st' where
  totalCalls : st'.totalCalls = st.totalCalls + 1
  callsPerTool : ∀ tool, st'.callsPerTool tool = st.callsPerTool tool + if tool = name then 1 else 0
  dispatched : st'.dispatched = st.dispatched ++ [(name, args)]
  receipt : (st'.finalReceipt = st.finalReceipt ∧ st'.answers = st.answers) ∨
    (st.finalReceipt = none ∧ name = "investigate_lab" ∧ ∃ receipt,
      st'.finalReceipt = some receipt ∧ st'.answers = st.answers ++ [("investigate_lab", receipt)] ∧
      i.ReceiptAt st.dispatched.length receipt)

inductive Effect (i : LoopInputs) (offers : List ToolOffer) (st st' : LoopState) : Prop where
  | quiet (h : Quiet st st')
  | sent (offer : ToolOffer) (supplied args : Dict) (others : Option (Except Uncaught String))
      (offered : offer ∈ offers)
      (resolved : resolveArguments i.printer offer (.dict supplied) others = .ok args)
      (budget : (st.totalCalls : Int) < i.bounds.maxToolCalls)
      (cap : ∀ cap, offer.name ≠ "" → i.bounds.maxCallsPerTool.lookup offer.name = some cap →
        (st.callsPerTool offer.name : Int) < cap)
      (h : Sent i st st' offer.name args)

def isHashable : Value → Bool
  | .list _ => false
  | .dict _ => false
  | _ => true

/-- The checks ask no dictionary for a name that none can hold: they refuse the call before. -/
def NameFits (i : LoopInputs) (st : LoopState) (name : Value) : Prop :=
  isHashable name = true ∨ i.bounds.maxToolCalls ≤ st.totalCalls ∨
    (name.truthy = false ∧ i.deadline ≤ i.clock st.ticks)

inductive Checked (i : LoopInputs) (offers : List ToolOffer) (st : LoopState) (name : Value) :
    Except Crash (LoopState × Except String ToolOffer) → Prop where
  | refused (ticks : Nat) (limits : List Dict) (message : String) (fits : i.NameFits st name) :
      Checked i offers st name
        (.ok ({ st with ticks := ticks, limitsHit := limits }, .error message))
  | offered (offer : ToolOffer) (mem : offer ∈ offers) (hname : name = .str offer.name)
      (budget : (st.totalCalls : Int) < i.bounds.maxToolCalls)
      (cap : ∀ cap, offer.name ≠ "" → i.bounds.maxCallsPerTool.lookup offer.name = some cap →
        (st.callsPerTool offer.name : Int) < cap) :
      Checked i offers st name (.ok ({ st with ticks := st.ticks + 1 }, .ok offer))
  | crashed (e : Uncaught) (ticks : Nat) (unfit : i.printing name = none → ¬ i.NameFits st name) :
      Checked i offers st name (.error ⟨e, { st with ticks := ticks }⟩)

lemma recordLimit_eq (st : LoopState) (key : String) (value observed : ℚ) :
    ∃ limits, st.recordLimit key value observed = { st with limitsHit := limits } := by
  rw [LoopState.recordLimit]
  split
  · exact ⟨st.limitsHit, rfl⟩
  · exact ⟨_, rfl⟩

lemma perToolCap_unhashable {name : Value} (hname : isHashable name = false) :
    i.perToolCap name = if name.truthy then .error .typeError else .ok none := by
  cases name with
  | list items =>
    rw [Value.truthy]
    unfold perToolCap
    cases items <;> rfl
  | dict entries =>
    rw [Value.truthy]
    unfold perToolCap
    cases entries <;> rfl
  | _ => cases hname

lemma perToolCap_hashable {name : Value} (hname : isHashable name = true) (e : Uncaught) :
    i.perToolCap name ≠ .error e := by
  cases name with
  | list items => cases hname
  | dict entries => cases hname
  | _ => exact fun h => nomatch h

lemma perToolCap_str {tool : String} (hne : tool ≠ "") :
    i.perToolCap (.str tool) =
      .ok ((i.bounds.maxCallsPerTool.lookup tool).map (fun cap => (tool, cap))) := by
  unfold perToolCap
  dsimp only
  rw [if_neg hne]

lemma offerNamed_unhashable {name : Value} (hname : isHashable name = false) :
    offerNamed offers name = .error .typeError := by
  cases name with
  | list items => rfl
  | dict entries => rfl
  | _ => cases hname

lemma offerNamed_hashable {name : Value} (hname : isHashable name = true) (e : Uncaught) :
    offerNamed offers name ≠ .error e := by
  cases name with
  | list items => cases hname
  | dict entries => cases hname
  | _ => exact fun h => nomatch h

lemma offerNamed_some {name : Value} {offer : ToolOffer}
    (h : offerNamed offers name = .ok (some offer)) : offer ∈ offers ∧ name = .str offer.name := by
  cases name with
  | str tool =>
    have hfind : offers.reverse.find? (fun offer => offer.name = tool) = some offer :=
      Except.ok.inj h
    have hmem := List.mem_of_find?_eq_some hfind
    have hname := List.find?_some hfind
    rw [decide_eq_true_eq] at hname
    exact ⟨List.mem_reverse.mp hmem, congrArg Value.str hname.symm⟩
  | _ => cases h

lemma below_cap {tool : String} {cap : Option (String × Int)} {count : String → Nat}
    (hcap : i.perToolCap (.str tool) = .ok cap)
    (hbelow : cap.filter (fun entry => entry.2 ≤ (count entry.1 : Int)) = none) (limit : Int)
    (hne : tool ≠ "") (hlookup : i.bounds.maxCallsPerTool.lookup tool = some limit) :
    (count tool : Int) < limit := by
  rw [perToolCap_str hne, hlookup] at hcap
  cases hcap
  rw [Option.map_some, Option.filter_some] at hbelow
  split at hbelow
  · cases hbelow
  · rename_i hlimit
    rw [decide_eq_true_eq] at hlimit
    exact not_le.mp hlimit

theorem checkCall_checked (i : LoopInputs) (offers : List ToolOffer) (st : LoopState) (name : Value) :
    Checked i offers st name (i.checkCall offers st name) := by
  rw [checkCall]
  split
  · rename_i hbudget
    obtain ⟨limits, hlimits⟩ := recordLimit_eq st "max_tool_calls" i.bounds.maxToolCalls st.totalCalls
    rw [hlimits]
    exact .refused st.ticks limits _ (.inr (.inl hbudget))
  rename_i hbudget
  have hleft := not_le.mp hbudget
  split
  · rename_i e herror
    refine .crashed e st.ticks ?_
    rintro - (hhash | hfull | ⟨hfalsy, -⟩)
    · exact perToolCap_hashable hhash e herror
    · exact hbudget hfull
    · cases hname : isHashable name with
      | true => exact perToolCap_hashable hname e herror
      | false =>
        rw [perToolCap_unhashable hname, hfalsy] at herror
        cases herror
  rename_i cap hcap
  have hfalsy (hname : isHashable name = false) : name.truthy = false ∧ cap = none := by
    rw [perToolCap_unhashable hname] at hcap
    cases htruthy : name.truthy with
    | true =>
      rw [htruthy] at hcap
      cases hcap
    | false =>
      rw [htruthy] at hcap
      cases hcap
      exact ⟨rfl, rfl⟩
  split
  · rename_i tool limit hfilter
    obtain ⟨limits, hlimits⟩ := recordLimit_eq st ("max_calls_per_tool:" ++ tool) limit
      (st.callsPerTool tool)
    have hhash : isHashable name = true := by
      by_contra hname
      rw [(hfalsy (Bool.eq_false_iff.mpr hname)).2] at hfilter
      cases hfilter
    rw [hlimits]
    exact .refused st.ticks limits _ (.inl hhash)
  rename_i hfilter
  dsimp only [now]
  split
  · rename_i hdeadline
    obtain ⟨limits, hlimits⟩ := recordLimit_eq { st with ticks := st.ticks + 1 + 1 } "time_budget_s"
      i.bounds.timeBudget (Double.sub (i.clock (st.ticks + 1)) i.start)
    rw [hlimits]
    refine .refused (st.ticks + 1 + 1) limits _ ?_
    cases hname : isHashable name with
    | true => exact .inl hname
    | false => exact .inr (.inr ⟨(hfalsy hname).1, hdeadline⟩)
  rename_i hdeadline
  have hhashable (hoffer : offerNamed offers name ≠ .error .typeError) : isHashable name = true := by
    by_contra hname
    exact hoffer (offerNamed_unhashable (Bool.eq_false_iff.mpr hname))
  split
  · rename_i e herror
    refine .crashed e (st.ticks + 1) ?_
    rintro - (hhash | hfull | ⟨-, hlate⟩)
    · exact offerNamed_hashable hhash e herror
    · exact hbudget hfull
    · exact hdeadline hlate
  · rename_i hnone
    split
    · rename_i e hraises
      refine .crashed e (st.ticks + 1) (fun hprints => ?_)
      rw [hprints] at hraises
      cases hraises
    · refine .refused (st.ticks + 1) st.limitsHit _ (.inl (hhashable ?_))
      rw [hnone]
      exact fun h => nomatch h
  · rename_i offer hsome
    obtain ⟨hmem, hname⟩ := offerNamed_some hsome
    rw [hname] at hcap
    exact .offered offer hmem hname hleft
      (fun limit hne hlookup => below_cap hcap hfilter limit hne hlookup)

lemma refuse_quiet (i : LoopInputs) (st : LoopState) (callId name : Value) (args : Dict)
    (message : String) (fabrication : Bool) :
    Quiet st (endOf (i.refuse st callId name args message fabrication)) := by
  rw [refuse]
  dsimp only
  split
  · exact ⟨⟨rfl, rfl, rfl⟩, ⟨rfl, rfl, rfl, rfl, rfl⟩⟩
  · exact ⟨⟨rfl, rfl, rfl⟩, ⟨rfl, rfl, rfl, answers_concat_of_none rfl rfl, rfl⟩⟩

lemma recordCall_limits (i : LoopInputs) (st : LoopState) (result : ToolCallResult) :
    ∃ limits, (if i.bounds.maxResultChars < (result.text.length : Int) then
      st.recordLimit "max_result_chars" i.bounds.maxResultChars result.text.length
      else st) = { st with limitsHit := limits } := by
  split
  · exact recordLimit_eq _ _ _ _
  · exact ⟨st.limitsHit, rfl⟩

lemma recordCall_quiet (i : LoopInputs) (st : LoopState) (callId : Value) (name : String)
    (args : Dict) (result : ToolCallResult) :
    Quiet st (i.recordCall st callId name args result) ∧
      (i.recordCall st callId name args result).results = st.results ++
        [⟨callId, .str name, (i.cutResult result).1, (i.cutResult result).2.2⟩] := by
  obtain ⟨limits, hlimits⟩ := recordCall_limits i st result
  rw [recordCall]
  dsimp only
  rw [hlimits]
  exact ⟨⟨⟨rfl, rfl, rfl⟩, ⟨rfl, rfl, rfl, answers_concat_of_none rfl rfl, rfl⟩⟩, rfl⟩

section Receipt

variable {call : Nat} {name : String} {result : ToolCallResult} {isError : Bool}

lemma readReceipt_effect (i : LoopInputs) (call : Nat) (st : LoopState) (name : String)
    (result : ToolCallResult) (isError : Bool) :
    Quiet st (endOf (i.readReceipt call st name result isError)) ∨
      st.finalReceipt = none ∧ name = "investigate_lab" ∧ isError = false ∧
        ∃ payload receipt, i.loads result.text = some (.dict payload) ∧
          InvestigationReceipt.parse payload = .ok receipt ∧
          endOf (i.readReceipt call st name result isError) = { st with
            ticket := st.ticket ++ [.answer name receipt]
            finalReceipt := some receipt } := by
  rw [readReceipt]
  split
  · rename_i hread
    split
    · rename_i payload hpayload
      split
      · rename_i receipt hreceipt
        refine .inr ⟨Option.isNone_iff_eq_none.mp hread.2.2, hread.1, hread.2.1, payload, receipt,
          hpayload, hreceipt, ?_⟩
        cases i.deliveries call .receipt <;> rfl
      · exact .inl ⟨⟨rfl, rfl, rfl⟩, ⟨rfl, rfl, rfl, answers_concat_of_none rfl rfl, rfl⟩⟩
      · exact .inl (Quiet.refl st)
    · exact .inl (Quiet.refl st)
  · exact .inl (Quiet.refl st)

end Receipt

lemma cutResult_isError {result : ToolCallResult} (h : result.isError = true) :
    (i.cutResult result).2.2 = true := by
  rw [cutResult, classifyCallResult, if_pos h]
  dsimp only
  split
  · rfl
  · rfl

lemma receiptAt_of_read {k : Nat} {payload : Dict} {receipt : InvestigationReceipt}
    (herror : (i.cutResult (callResult (i.toolset k))).2.2 = false)
    (hpayload : i.loads (callResult (i.toolset k)).text = some (.dict payload))
    (hreceipt : InvestigationReceipt.parse payload = .ok receipt) : i.ReceiptAt k receipt := by
  have hresult : (callResult (i.toolset k)).isError = false := by
    by_contra h
    rw [Bool.not_eq_false] at h
    rw [cutResult_isError h] at herror
    cases herror
  cases hanswer : i.toolset k with
  | result result =>
    rw [hanswer] at hresult hpayload
    exact ⟨result, payload, hanswer, hresult, hpayload, hreceipt⟩
  | raised message =>
    rw [hanswer] at hresult
    cases hresult

section Sending

variable {callId : Value} {name : String} {args : Dict}

lemma recordCall_startCall (i : LoopInputs) (st : LoopState) (callId : Value) (name : String)
    (args : Dict) :
    let st' := i.recordCall (i.startCall st name args) callId name args
      (callResult (i.toolset st.dispatched.length))
    Sent i st st' name args ∧ st'.finalReceipt = st.finalReceipt ∧ st'.answers = st.answers := by
  obtain ⟨hquiet, -⟩ := recordCall_quiet i (i.startCall st name args) callId name args
    (callResult (i.toolset st.dispatched.length))
  refine ⟨?_, hquiet.finalReceipt, hquiet.answers⟩
  exact ⟨⟨hquiet.iteration, hquiet.messages, hquiet.exchanges⟩, hquiet.totalCalls,
    fun tool => congrFun hquiet.callsPerTool tool, hquiet.dispatched,
    .inl ⟨hquiet.finalReceipt, hquiet.answers⟩⟩

lemma sent_startCall (i : LoopInputs) (st : LoopState) (name : String) (args : Dict) :
    Sent i st (i.startCall st name args) name args :=
  ⟨⟨rfl, rfl, rfl⟩, rfl, fun _ => rfl, rfl, .inl ⟨rfl, rfl⟩⟩

lemma dispatchCall_sent (i : LoopInputs) (st : LoopState) (callId : Value) (name : String)
    (args : Dict) : Sent i st (endOf (i.dispatchCall st callId name args)) name args := by
  obtain ⟨hsent, hfinal, hanswers⟩ := recordCall_startCall i st callId name args
  rw [dispatchCall]
  dsimp only
  generalize i.recordCall (i.startCall st name args) callId name args
    (callResult (i.toolset st.dispatched.length)) = recorded at *
  split
  · exact sent_startCall i st name args
  split
  · exact hsent
  rcases readReceipt_effect i st.toolCalls.length recorded name
    (callResult (i.toolset st.dispatched.length))
    (i.cutResult (callResult (i.toolset st.dispatched.length))).2.2 with hquiet | hread
  · exact ⟨hsent.toSameTurn.trans hquiet.toSameTurn, hquiet.totalCalls.trans hsent.totalCalls,
      fun tool => (congrFun hquiet.callsPerTool tool).trans (hsent.callsPerTool tool),
      hquiet.dispatched.trans hsent.dispatched,
      .inl ⟨hquiet.finalReceipt.trans hfinal, hquiet.answers.trans hanswers⟩⟩
  · obtain ⟨hnone, hname, herror, payload, receipt, hpayload, hreceipt, hread⟩ := hread
    rw [hread]
    refine ⟨⟨hsent.iteration, hsent.messages, hsent.exchanges⟩, hsent.totalCalls,
      hsent.callsPerTool, hsent.dispatched, .inr ⟨hfinal ▸ hnone, hname, receipt, rfl, ?_,
        receiptAt_of_read herror hpayload hreceipt⟩⟩
    rw [← hanswers, ← hname]
    exact @answers_concat recorded _ (.answer name receipt) rfl

end Sending

section Offer

variable {offer : ToolOffer} {call : Dict}

lemma takeOffer_effect (i : LoopInputs) (st : LoopState) (offer : ToolOffer) (call : Dict) :
    Quiet st (endOf (i.takeOffer st offer call)) ∨ ∃ args,
      i.resolveCall st offer call = .ok args ∧
        Sent i st (endOf (i.takeOffer st offer call)) offer.name args := by
  rw [takeOffer]
  dsimp only
  split
  · exact .inl (Quiet.refl st)
  split
  · exact .inl (Quiet.refl st)
  · rename_i message _
    have hattempt : Quiet st { st with
        fabricationAttempts := st.fabricationAttempts ++
          [(callName call, callArguments call, message)] } :=
      ⟨⟨rfl, rfl, rfl⟩, ⟨rfl, rfl, rfl, rfl, rfl⟩⟩
    exact .inl (hattempt.trans (refuse_quiet i _ (i.callIdOf st call) (callName call)
      (callArguments call) message true))
  · rename_i args hargs
    split
    · exact .inl (Quiet.refl st)
    · exact .inr ⟨args, hargs, dispatchCall_sent i st (i.callIdOf st call) offer.name args⟩

end Offer

theorem handleCall_effect (i : LoopInputs) (offers : List ToolOffer) (st : LoopState) (call : Dict) :
    Effect i offers st (endOf (i.handleCall offers st call)) := by
  have hchecked := checkCall_checked i offers st (callName call)
  rw [handleCall]
  cases i.callIdRaises call with
  | some e => exact .quiet (Quiet.refl st)
  | none =>
    dsimp only
    generalize i.checkCall offers st (callName call) = out at hchecked ⊢
    cases hchecked with
    | refused ticks limits message fits =>
      have hticks : Quiet st { st with ticks := ticks, limitsHit := limits } :=
        ⟨⟨rfl, rfl, rfl⟩, ⟨rfl, rfl, rfl, rfl, rfl⟩⟩
      exact .quiet (hticks.trans (refuse_quiet i _ (i.callIdOf _ call) (callName call)
        (callArguments call) message false))
    | crashed e ticks unfit => exact .quiet ⟨⟨rfl, rfl, rfl⟩, ⟨rfl, rfl, rfl, rfl, rfl⟩⟩
    | offered offer mem hname budget cap =>
      have hticks : Quiet st { st with ticks := st.ticks + 1 } :=
        ⟨⟨rfl, rfl, rfl⟩, ⟨rfl, rfl, rfl, rfl, rfl⟩⟩
      rcases takeOffer_effect i { st with ticks := st.ticks + 1 } offer call with
        hquiet | ⟨args, hargs, hsent⟩
      · exact .quiet (hticks.trans hquiet)
      · exact .sent offer (callArguments call) args _ mem hargs budget cap
          ⟨⟨hsent.iteration, hsent.messages, hsent.exchanges⟩, hsent.totalCalls,
            hsent.callsPerTool, hsent.dispatched, hsent.receipt⟩

end LoopInputs

end NetTools
