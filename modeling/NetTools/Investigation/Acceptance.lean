import NetTools.Descent.Reasons
import NetTools.Investigation.Receipt

/-!
# What the receipt parser accepts

`parse` returns a receipt exactly for the payloads that are `Validated`. The payloads of
deterministic results are compared with that.
-/

namespace NetTools

open Validation ListSearch

/-- What a payload has to hold for `parse` to return a receipt. -/
structure Validated (payload : Dict) (receipt : InvestigationReceipt) : Prop where
  tool : (payload.fetch "tool").pyEq (.str "investigate") = true
  device : requiredText payload "device" = .ok receipt.device
  subject : requiredText payload "subject" = .ok receipt.subject
  flow : requiredText payload "flow" = .ok receipt.flow
  flowKnown : receipt.flow ∈ flows.map Flow.objectType
  finding : requiredText payload "finding" = .ok receipt.finding
  declared : receipt.finding ∈ declaredFindings
  trustworthy : requiredBool (payload.fetch "trustworthy") = .ok receipt.trustworthy
  rungs : rungsOf (payload.fetch "rungs") (payload.fetch "rungs_examined") = .ok receipt.rungs
  cause : objectOrNone (payload.fetch "cause") "cause" = .ok receipt.cause
  uncaused : receipt.finding ∈ noCauseFindings → receipt.cause = none
  causeBroken : ∀ cause, receipt.cause = some cause → validateCause receipt.rungs cause = .ok ()
  causalChain : objectSequence (payload.fetch "causal_chain") "causal_chain" =
    .ok receipt.causalChain
  chainBroken : ∀ cause ∈ receipt.causalChain, validateCause receipt.rungs cause = .ok ()
  coherence : objectOrNone (payload.fetch "coherence") "coherence" = .ok receipt.coherence
  refused : ∀ entries, receipt.coherence = some entries → isTrue (entries.fetch "refuses") = true →
    receipt.trustworthy = false
  coverage : objectOrNone (payload.fetch "coverage") "coverage" = .ok receipt.coverage
  sessions : objectOrNone (payload.fetch "sessions") "sessions" = .ok receipt.sessions
  operatorNotes : objectSequence (payload.fetch "operator_notes") "operator_notes" =
    .ok receipt.operatorNotes
  offPath : objectSequence (payload.fetch "off_path") "off_path" = .ok receipt.offPath
  report : ∃ report, objectOrNone (payload.fetch "report") "report" = .ok report ∧
    receipt.reportStatus = report.bind (fun entries => (entries.fetch "status").str?)
  correlation : ∃ correlation,
    objectOrNone (payload.fetch "correlation") "correlation" = .ok correlation ∧
    receipt.correlationStatus = correlation.bind (fun entries => (entries.fetch "status").str?)
  narrowingShadow : objectOrNone (payload.fetch "narrowing_shadow") "narrowing_shadow" =
    .ok receipt.narrowingShadow
  inactive : ∀ entries, receipt.narrowingShadow = some entries →
    isFalse (entries.fetch "active") = true
  reason : receipt.reason = (payload.fetch "reason").str?

lemma forEach_const_eq_ok_iff {check : Dict → Except ReceiptError Unit} {l : List Dict} {u : Unit} :
    forEach (fun _ => check) 1 l = .ok u ↔ ∀ a ∈ l, check a = .ok () := by
  rw [forEach_eq_ok_iff]
  constructor
  · intro h a ha
    obtain ⟨index, hindex⟩ := List.mem_iff_getElem?.mp ha
    exact h index a hindex
  · intro h index a ha
    exact h a (List.mem_of_getElem? ha)

theorem parse_eq_ok_iff {payload : Dict} {receipt : InvestigationReceipt} :
    InvestigationReceipt.parse payload = .ok receipt ↔ Validated payload receipt := by
  unfold InvestigationReceipt.parse
  simp only [bind_eq_ok_iff, require_eq_ok_iff, forEach_const_eq_ok_iff, exists_and_left,
    exists_const, List.contains_iff_mem, Option.mem_toList]
  constructor
  · rintro ⟨htool, device, hdevice, subject, hsubject, flow, hflow, hknown, finding, hfinding,
      hdeclared, trustworthy, htrust, rungs, hrungs, cause, hcause, huncaused, hbroken, chain,
      hchain, hchainBroken, coherence, hcoherence, hrefused, coverage, hcoverage, sessions,
      hsessions, notes, hnotes, offPath, hoffPath, report, hreport, correlation, hcorrelation,
      shadow, hshadow, hinactive, heq⟩
    cases heq
    refine ⟨htool, hdevice, hsubject, hflow, hknown, hfinding, hdeclared, htrust, hrungs, hcause,
      ?_, hbroken, hchain, hchainBroken, hcoherence, ?_, hcoverage, hsessions, hnotes, hoffPath,
      ⟨report, hreport, rfl⟩, ⟨correlation, hcorrelation, rfl⟩, hshadow, ?_, rfl⟩
    · intro hnone
      simpa [hnone] using huncaused
    · rintro entries rfl hrefuses
      simpa [hrefuses] using hrefused
    · rintro entries rfl
      exact hinactive
  · intro h
    obtain ⟨report, hreport, hreportStatus⟩ := h.report
    obtain ⟨correlation, hcorrelation, hcorrelationStatus⟩ := h.correlation
    refine ⟨h.tool, _, h.device, _, h.subject, _, h.flow, h.flowKnown, _, h.finding, h.declared,
      _, h.trustworthy, _, h.rungs, _, h.cause, ?_, h.causeBroken, _, h.causalChain,
      h.chainBroken, _, h.coherence, ?_, _, h.coverage, _, h.sessions, _, h.operatorNotes, _,
      h.offPath, report, hreport, correlation, hcorrelation, _, h.narrowingShadow, ?_, ?_⟩
    · by_cases hnone : receipt.finding ∈ noCauseFindings
      · simp [h.uncaused hnone]
      · simp [hnone]
    · cases hcoherence : receipt.coherence with
      | none => simp
      | some entries =>
        cases hrefuses : isTrue (entries.fetch "refuses") with
        | false => simp [hrefuses]
        | true => simp [h.refused entries hcoherence hrefuses]
    · cases hshadow : receipt.narrowingShadow with
      | none => rfl
      | some entries => exact h.inactive entries hshadow
    · rw [← h.reason, ← hreportStatus, ← hcorrelationStatus]
      rfl

section Parts

lemma requiredText_eq_ok_iff {payload : Dict} {key text : String} :
    requiredText payload key = .ok text ↔
      payload.fetch key = .str text ∧ isBlank text = false := by
  unfold requiredText
  cases payload.fetch key with
  | str value =>
    dsimp only
    rw [Value.str.injEq]
    by_cases hblank : isBlank value = true
    · rw [if_pos hblank]
      constructor
      · intro h
        cases h
      · rintro ⟨rfl, h⟩
        rw [hblank] at h
        cases h
    · rw [if_neg hblank, Except.ok.injEq]
      constructor
      · rintro rfl
        exact ⟨rfl, Bool.eq_false_iff.mpr hblank⟩
      · exact And.left
  | _ => simp

lemma objectOrNone_eq_ok_iff {value : Value} {name : String} {entries : Option Dict} :
    objectOrNone value name = .ok entries ↔ value = dictOrNone entries := by
  cases value <;> cases entries <;> simp [objectOrNone, dictOrNone]

lemma filterMap_dict? {items : List Value}
    (h : items.all (fun item => item.dict?.isSome) = true) :
    (items.filterMap Value.dict?).map Value.dict = items := by
  induction items with
  | nil => rfl
  | cons item items ih =>
    rw [List.all_cons, Bool.and_eq_true] at h
    cases item with
    | dict entries =>
      have hhead : (Value.dict entries).dict? = some entries := rfl
      rw [List.filterMap_cons_some hhead, List.map_cons, ih h.2]
    | _ => cases h.1

lemma dict?_map (items : List Dict) : (items.map Value.dict).filterMap Value.dict? = items := by
  rw [List.filterMap_map]
  exact List.filterMap_some

lemma objectSequence_eq_ok_iff {value : Value} {name : String} {items : List Dict} :
    objectSequence value name = .ok items ↔ value = .list (items.map Value.dict) := by
  cases value with
  | list values =>
    unfold objectSequence
    dsimp only
    rw [Value.list.injEq]
    constructor
    · intro h
      split at h
      · rename_i hall
        cases h
        exact (filterMap_dict? hall).symm
      · cases h
    · rintro rfl
      rw [if_pos, dict?_map]
      simp [Value.dict?]
  | _ => simp [objectSequence]

lemma requiredBool_eq_ok_iff {value : Value} {b : Bool} :
    requiredBool value = .ok b ↔ value = .bool b := by
  cases value <;> simp [requiredBool]

lemma rungsOf_eq_ok_iff {value declared : Value} {rungs : List Dict} :
    rungsOf value declared = .ok rungs ↔ value = .list (rungs.map Value.dict) ∧
      countDeclared declared rungs.length = true ∧ rungs ≠ [] ∧
      ∀ index rung, rungs[index]? = some rung →
        checkRung rungs.length (1 + index) rung = .ok () := by
  unfold rungsOf
  simp only [bind_eq_ok_iff, require_eq_ok_iff, forEach_eq_ok_iff, objectSequence_eq_ok_iff,
    Bool.and_eq_true, Bool.not_eq_true', List.isEmpty_eq_false_iff, exists_const]
  constructor
  · rintro ⟨items, hvalue, ⟨hcount, hne⟩, hchecks, heq⟩
    cases heq
    exact ⟨hvalue, hcount, hne, hchecks⟩
  · rintro ⟨hvalue, hcount, hne, hchecks⟩
    exact ⟨rungs, hvalue, ⟨hcount, hne⟩, hchecks, rfl⟩

lemma isText_iff {value : Value} : value.isText = true ↔ ∃ text, value = .str text ∧ text ≠ "" := by
  cases value <;> simp [Value.isText]

lemma pyEq_str (value : Value) (text : String) :
    value.pyEq (.str text) = true ↔ value = .str text := by
  cases value <;> simp [Value.pyEq, Value.number?]

lemma validateCause_eq_ok_iff {rungs : List Dict} {cause : Dict} :
    validateCause rungs cause = .ok () ↔ ∃ rung device reason,
      cause.fetch "rung" = .str rung ∧ rung ≠ "" ∧ cause.fetch "device" = .str device ∧
        device ≠ "" ∧ cause.fetch "reason" = .str reason ∧ reason ≠ "" ∧
        ∃ item ∈ rungs, item.fetch "rung" = .str rung ∧ item.fetch "device" = .str device ∧
          item.fetch "status" = .str "broken" := by
  unfold validateCause
  simp only [bind_eq_ok_iff, require_eq_ok_iff, exists_const, Bool.and_eq_true, isText_iff]
  constructor
  · rintro ⟨⟨⟨⟨rung, hrung, hr⟩, ⟨device, hdevice, hd⟩⟩, ⟨reason, hreason, hw⟩⟩, hnames⟩
    refine ⟨rung, device, reason, hrung, hr, hdevice, hd, hreason, hw, ?_⟩
    unfold namesBroken at hnames
    simpa only [hrung, hdevice, List.any_eq_true, Bool.and_eq_true, pyEq_str, and_assoc]
      using hnames
  · rintro ⟨rung, device, reason, hrung, hr, hdevice, hd, hreason, hw, hitem⟩
    refine ⟨⟨⟨⟨rung, hrung, hr⟩, ⟨device, hdevice, hd⟩⟩, ⟨reason, hreason, hw⟩⟩, ?_⟩
    unfold namesBroken
    simpa only [hrung, hdevice, List.any_eq_true, Bool.and_eq_true, pyEq_str, and_assoc]
      using hitem

end Parts

structure InvestigationReceipt.Mirrors (receipt : InvestigationReceipt) (payload : Dict) :
    Prop where
  finding : payload.fetch "finding" = .str receipt.finding
  trustworthy : payload.fetch "trustworthy" = .bool receipt.trustworthy
  cause : payload.fetch "cause" = dictOrNone receipt.cause
  causalChain : payload.fetch "causal_chain" = .list (receipt.causalChain.map Value.dict)
  rungs : payload.fetch "rungs" = .list (receipt.rungs.map Value.dict)
  offPath : payload.fetch "off_path" = .list (receipt.offPath.map Value.dict)

/-- The cause of a payload, if it has one, is one of its broken rungs. -/
def CauseIsBrokenRung (payload : Dict) : Prop :=
  payload.fetch "cause" = .none ∨
    ∃ (cause : Dict) (items : List Value) (item : Dict) (rung device : String),
    payload.fetch "cause" = .dict cause ∧ payload.fetch "rungs" = .list items ∧
      .dict item ∈ items ∧ cause.fetch "rung" = .str rung ∧ item.fetch "rung" = .str rung ∧
      cause.fetch "device" = .str device ∧ item.fetch "device" = .str device ∧
      item.fetch "status" = .str "broken"

/-- The payload calls itself trustworthy although its coherence refuses. -/
def TrustsRefusal (payload : Dict) : Prop :=
  payload.fetch "trustworthy" = .bool true ∧ ∃ coherence : Dict,
    payload.fetch "coherence" = .dict coherence ∧ coherence.fetch "refuses" = .bool true

section Sound

variable {payload : Dict} {receipt : InvestigationReceipt}
  (h : InvestigationReceipt.parse payload = .ok receipt)
include h

lemma mirrors_of_parse : receipt.Mirrors payload := by
  have hvalid := parse_eq_ok_iff.mp h
  exact
    { finding := (requiredText_eq_ok_iff.mp hvalid.finding).1
      trustworthy := requiredBool_eq_ok_iff.mp hvalid.trustworthy
      cause := objectOrNone_eq_ok_iff.mp hvalid.cause
      causalChain := objectSequence_eq_ok_iff.mp hvalid.causalChain
      rungs := (rungsOf_eq_ok_iff.mp hvalid.rungs).1
      offPath := objectSequence_eq_ok_iff.mp hvalid.offPath }

theorem causeIsBrokenRung_of_parse : CauseIsBrokenRung payload := by
  have hvalid := parse_eq_ok_iff.mp h
  have hmirrors := mirrors_of_parse h
  cases hcause : receipt.cause with
  | none =>
    left
    rw [hmirrors.cause, hcause]
    rfl
  | some cause =>
    right
    obtain ⟨rung, device, reason, hrung, -, hdevice, -, -, -, item, hitem, hr, hd, hs⟩ :=
      validateCause_eq_ok_iff.mp (hvalid.causeBroken cause hcause)
    refine ⟨cause, receipt.rungs.map Value.dict, item, rung, device, ?_, hmirrors.rungs,
      List.mem_map_of_mem hitem, hrung, hr, hdevice, hd, hs⟩
    rw [hmirrors.cause, hcause]
    rfl

theorem not_trustsRefusal_of_parse : ¬TrustsRefusal payload := by
  have hvalid := parse_eq_ok_iff.mp h
  rintro ⟨htrust, coherence, hcoherence, hrefuses⟩
  have hentries : receipt.coherence = some coherence := by
    have heq := objectOrNone_eq_ok_iff.mp hvalid.coherence
    rw [hcoherence] at heq
    cases hreceipt : receipt.coherence with
    | none =>
      rw [hreceipt] at heq
      cases heq
    | some entries =>
      rw [hreceipt] at heq
      cases heq
      rfl
  have hfalse := hvalid.refused coherence hentries (by rw [hrefuses]; rfl)
  have htrue := requiredBool_eq_ok_iff.mp hvalid.trustworthy
  rw [htrust, hfalse] at htrue
  cases htrue

end Sound

/-- What the deterministic surface returns for a flow: a walk, or the refusal of a subject that
the device does not have. -/
inductive Deterministic (flow : Flow) : DescentResult → Prop where
  | walked (collector : Collector) (resolver : Option Resolver) (originPrefix : Option String)
      (device subject : String) (coherence : Option (List RungOutcome → Coherence)) :
      Deterministic flow
        (runDescent collector resolver originPrefix device subject flow coherence)
  | refused (device subject : String) (evidenceKeys : List String) (reason : Option String) :
      Deterministic flow
        { flow := flow.objectType, device, subject, finding := SUBJECT_NOT_FOUND, evidenceKeys,
          reason }

structure Reportable (result : InvestigationResult) : Prop where
  localised : result.descent.finding ≠ CAUSE_NOT_LOCALISED
  walked : result.descent.finding ≠ SUBJECT_NOT_FOUND
  device : isBlank result.device = false
  subject : isBlank result.subject = false
  chain : ∀ outcome ∈ result.descent.causalChain, outcome.device ≠ ""
  cause : result.descent.finding ∉ findingsWithoutACause →
    ∀ outcome, result.descent.cause = some outcome → outcome.device ≠ ""

section Produced

variable {flow : Flow} {result : InvestigationResult}

/-- What the walks of a flow have in common, as far as the parser looks. -/
structure WalkFacts (flow : Flow) (descent : DescentResult) : Prop where
  nonempty : descent.outcomes ≠ []
  stated : ∀ outcome ∈ descent.outcomes, outcome.result.Stated
  named : ∀ outcome ∈ descent.outcomes, outcome.rung ≠ ""
  declared : descent.finding ∈ flow.findings
  refused : ∀ coherence, descent.coherence = some coherence → coherence.refuses = true →
    descent.finding = UNDETERMINED ∨ descent.finding = TEMPORALLY_INCOHERENT
  healthy : descent.finding = ALL_LAYERS_HEALTHY → descent.cause = none
  broken : descent.finding = CAUSE_NOT_LOCALISED → descent.cause ≠ none
  found : descent.finding ≠ SUBJECT_NOT_FOUND

lemma cause_eq_none_iff (descent : DescentResult) :
    descent.cause = none ↔ .broken ∉ descent.outcomes.map RungOutcome.status := by
  unfold DescentResult.cause
  rw [List.getLast?_eq_none_iff, List.eq_nil_iff_forall_not_mem]
  constructor
  · intro h hmem
    obtain ⟨outcome, houtcome, hstatus⟩ := List.mem_map.mp hmem
    exact h outcome (mem_brokenOutcomes.mpr ⟨houtcome, hstatus⟩)
  · intro h outcome hmem
    obtain ⟨houtcome, hstatus⟩ := mem_brokenOutcomes.mp hmem
    exact h (List.mem_map.mpr ⟨outcome, houtcome, hstatus⟩)

lemma universalFinding_broken {flow : Flow} {refused : Bool} {statuses : List Status} :
    (universalFinding flow refused statuses = some ALL_LAYERS_HEALTHY → .broken ∉ statuses) ∧
      (universalFinding flow refused statuses = some CAUSE_NOT_LOCALISED →
        .broken ∈ statuses) := by
  unfold universalFinding
  by_cases hb : .broken ∈ statuses
  · simp only [hb, not_true_eq_false, if_false, implies_true, and_true]
    intro h
    repeat' split at h
    all_goals exact absurd h (by decide)
  · simp only [hb, not_false_eq_true, if_true, implies_true, true_and]
    intro h
    repeat' split at h
    all_goals exact absurd h (by decide)

lemma walkFacts (hflow : flow ∈ flows) (collector : Collector) (resolver : Option Resolver)
    (originPrefix : Option String) (device subject : String)
    (coherence : Option (List RungOutcome → Coherence)) :
    WalkFacts flow
      (runDescent collector resolver originPrefix device subject flow coherence) := by
  have hmeaning := runDescent_meaning flow (flows_names_nodup flow hflow) collector resolver
    originPrefix device subject coherence
  have hstated := runDescent_stated hflow collector resolver originPrefix device subject coherence
  have hinitial := runDescent_rungs_initial collector resolver originPrefix device subject flow
    coherence
  set descent := runDescent collector resolver originPrefix device subject flow coherence
    with hdescent
  have hrungs := flows_rung_finding_not_universal flow hflow
  have hbroken : ∀ finding ∈ universalFindings, (descent.finding = finding ↔
      universalFinding flow (refusedBy coherence descent.outcomes)
        (descent.outcomes.map RungOutcome.status) = some finding) :=
    hmeaning.classified hrungs
  refine ⟨?_, hstated, ?_, hmeaning.declared hflow, ?_, ?_, ?_, ?_⟩
  · rw [hmeaning.outcomes]
    apply takeThrough_ne_nil
    intro h
    exact flows_descent_ne_nil flow hflow (List.map_eq_nil_iff.mp h)
  · intro outcome houtcome heq
    have hin := hinitial.subset (List.mem_map_of_mem houtcome)
    rw [heq] at hin
    exact flows_names_ne_empty flow hflow hin
  · intro verdict hverdict hrefuses
    have hrefused : refusedBy coherence descent.outcomes = true := by
      have hanswered := hmeaning.answered
      rw [hverdict] at hanswered
      unfold refusedBy
      rw [← hanswered, Option.any_some, hrefuses]
    by_cases hu : .unevaluated ∈ descent.outcomes.map RungOutcome.status
    · left
      rw [hbroken _ (by decide)]
      unfold universalFinding
      rw [if_pos hu]
    · right
      rw [hbroken _ (by decide)]
      unfold universalFinding
      rw [if_neg hu, if_pos hrefused]
  · intro h
    rw [cause_eq_none_iff]
    exact universalFinding_broken.1 ((hbroken _ (by decide)).mp h)
  · intro h
    rw [ne_eq, cause_eq_none_iff, not_not]
    exact universalFinding_broken.2 ((hbroken _ (by decide)).mp h)
  · intro h
    have huni := (hbroken _ (by decide)).mp h
    unfold universalFinding at huni
    repeat' split at huni
    all_goals exact absurd huni (by decide)

lemma validateCause_asCause {descent : DescentResult} (hfacts : WalkFacts flow descent)
    (hdescent : result.descent = descent) {outcome : RungOutcome}
    (hmem : outcome ∈ brokenOutcomes descent.outcomes) :
    validateCause result.shownRungs outcome.asCause = .ok () ↔ outcome.device ≠ "" := by
  obtain ⟨houtcome, hbroken⟩ := mem_brokenOutcomes.mp hmem
  obtain ⟨reason, hreason, hwords⟩ := hfacts.stated outcome houtcome
  have hshown : outcome.asCause.fetch "reason" = .str reason := by
    change strOrNone outcome.result.reason = _
    rw [hreason]
    rfl
  rw [validateCause_eq_ok_iff]
  constructor
  · rintro ⟨rung, device, _, -, -, hdevice, hne, -⟩
    cases hdevice
    exact hne
  · intro hne
    obtain ⟨index, hindex⟩ := List.mem_iff_getElem?.mp houtcome
    refine ⟨outcome.rung, outcome.device, reason, rfl, hfacts.named outcome houtcome, rfl, hne,
      hshown, hwords hbroken, outcome.asRung (index + 1) result.descent.outcomes.length, ?_, rfl,
      rfl, ?_⟩
    · rw [← hdescent] at hindex
      exact List.mem_map.mpr ⟨(outcome, index), List.mk_mem_zipIdx_iff_getElem?.mpr hindex, rfl⟩
    · change Value.str outcome.status.text = _
      rw [hbroken]
      rfl

lemma checkRung_asRung {outcome : RungOutcome} {reason : String}
    (hreason : outcome.result.reason = some reason) (index count : Nat) :
    checkRung count (1 + index) (outcome.asRung (index + 1) count) = .ok () := by
  have hshown : (outcome.asRung (index + 1) count).fetch "reason" = .str reason := by
    change strOrNone outcome.result.reason = _
    rw [hreason]
    rfl
  have hposition : ∀ n m : Nat, n = m → (Value.int n).pyEq (.int m) = true := by
    rintro n m rfl
    simp [Value.pyEq, Value.number?]
  have hkeys : ∀ keys : List String, (strings keys).isStrings = true := by
    intro keys
    simp [strings, Value.isStrings, Value.isStr]
  unfold checkRung
  simp only [bind_eq_ok_iff, require_eq_ok_iff, exists_const, Bool.and_eq_true, hshown]
  refine ⟨⟨hposition _ _ (Nat.add_comm index 1), hposition _ _ rfl⟩, ⟨rfl, rfl⟩, ⟨(), ?_, rfl, hkeys _⟩⟩
  change checkStatus (.str outcome.status.text) = .ok ()
  cases outcome.status with
  | healthy => rfl
  | broken => rfl
  | unevaluated => rfl

lemma shownRungs_pass {descent : DescentResult} (hfacts : WalkFacts flow descent)
    (hdescent : result.descent = descent) :
    rungsOf (result.toPayload.fetch "rungs") (result.toPayload.fetch "rungs_examined") =
      .ok result.shownRungs := by
  have hlength : result.shownRungs.length = result.descent.outcomes.length := by
    unfold InvestigationResult.shownRungs
    rw [List.length_map, List.length_zipIdx]
  rw [rungsOf_eq_ok_iff]
  refine ⟨rfl, ?_, ?_, ?_⟩
  · change ((result.descent.outcomes.length : Int) == (result.shownRungs.length : Int)) = true
    rw [hlength]
    exact beq_self_eq_true _
  · intro hnil
    rw [hnil] at hlength
    exact hfacts.nonempty (List.length_eq_zero_iff.mp (hdescent ▸ hlength.symm))
  · intro index rung hrung
    unfold InvestigationResult.shownRungs at hrung
    rw [List.getElem?_map, Option.map_eq_some_iff] at hrung
    obtain ⟨⟨outcome, position⟩, hzip, rfl⟩ := hrung
    have hposition : position = index ∧ outcome ∈ descent.outcomes := by
      rw [List.getElem?_zipIdx, Option.map_eq_some_iff, hdescent] at hzip
      obtain ⟨outcome', houtcome, heq⟩ := hzip
      cases heq
      exact ⟨Nat.zero_add index, List.mem_of_getElem? houtcome⟩
    obtain ⟨rfl, houtcome⟩ := hposition
    obtain ⟨reason, hreason, -⟩ := hfacts.stated outcome houtcome
    rw [hlength]
    exact checkRung_asRung hreason position result.descent.outcomes.length

lemma shownCause_mem {outcome : RungOutcome} (h : result.shownCause = some outcome) :
    result.descent.finding ∉ findingsWithoutACause ∧ result.descent.cause = some outcome ∧
      outcome ∈ brokenOutcomes result.descent.outcomes := by
  unfold InvestigationResult.shownCause at h
  split at h
  · cases h
  · rename_i hfinding
    exact ⟨hfinding, h, List.mem_of_getLast? h⟩

lemma causalChain_subset (descent : DescentResult) :
    descent.causalChain ⊆ brokenOutcomes descent.outcomes := by
  unfold DescentResult.causalChain
  dsimp only
  split
  · exact (List.dropLast_sublist _).subset
  · exact List.nil_subset _

lemma mem_noCauseFindings {finding : String} : finding ∈ noCauseFindings ↔
    finding = ALL_LAYERS_HEALTHY ∨ finding ∈ findingsWithoutACause ∨
      finding = CAUSE_NOT_LOCALISED := by
  simp only [noCauseFindings, findingsWithoutACause, List.mem_cons, List.not_mem_nil, or_false]
  tauto

lemma declaredFindings_not_blank : ∀ finding ∈ declaredFindings, isBlank finding = false := by
  decide

lemma flows_objectType_not_blank : ∀ flow ∈ flows, isBlank flow.objectType = false := by
  decide

def receiptOf (result : InvestigationResult) : InvestigationReceipt :=
  { device := result.device
    subject := result.subject
    flow := result.flow
    finding := result.descent.finding
    reason := result.descent.reason
    trustworthy := result.trustworthy
    cause := result.shownCause.map RungOutcome.asCause
    causalChain := result.descent.causalChain.map RungOutcome.asCause
    rungs := result.shownRungs
    coherence := result.descent.coherence.map Coherence.asDict
    coverage := result.coverage.map Coverage.asDict
    sessions := result.sessionSummary
    operatorNotes := result.operatorNotes
    offPath := result.offPath
    reportStatus := some result.reportStatus
    correlationStatus := some result.correlationStatus
    narrowingShadow := result.narrowingShadow.map shadowPayload }

theorem validated_of_reportable (hflow : flow ∈ flows) (hname : result.flow = flow.objectType)
    (hfacts : WalkFacts flow result.descent) (h : Reportable result) :
    Validated result.toPayload (receiptOf result) := by
  have hdeclared : result.descent.finding ∈ declaredFindings :=
    List.mem_flatMap.mpr ⟨flow, hflow, hfacts.declared⟩
  have hblank : isBlank result.flow = false := by
    rw [hname]
    exact flows_objectType_not_blank flow hflow
  have hknown : result.flow ∈ flows.map Flow.objectType := by
    rw [hname]
    exact List.mem_map_of_mem hflow
  exact
    { tool := (pyEq_str _ _).mpr rfl
      device := requiredText_eq_ok_iff.mpr ⟨rfl, h.device⟩
      subject := requiredText_eq_ok_iff.mpr ⟨rfl, h.subject⟩
      flow := requiredText_eq_ok_iff.mpr ⟨rfl, hblank⟩
      flowKnown := hknown
      finding := requiredText_eq_ok_iff.mpr
        ⟨rfl, declaredFindings_not_blank _ hdeclared⟩
      declared := hdeclared
      trustworthy := rfl
      rungs := shownRungs_pass hfacts rfl
      cause := objectOrNone_eq_ok_iff.mpr rfl
      uncaused := by
        intro hnone
        have hshown : result.shownCause = none := by
          unfold InvestigationResult.shownCause
          by_cases hsilent : result.descent.finding ∈ findingsWithoutACause
          · exact if_pos hsilent
          · rw [if_neg hsilent]
            apply hfacts.healthy
            exact (mem_noCauseFindings.mp hnone).resolve_right
              (fun h' => h'.elim hsilent h.localised)
        change result.shownCause.map RungOutcome.asCause = none
        rw [hshown]
        rfl
      causeBroken := by
        intro cause hcause
        obtain ⟨outcome, hshown, rfl⟩ := Option.map_eq_some_iff.mp hcause
        obtain ⟨hfinding, hlast, hmem⟩ := shownCause_mem hshown
        exact (validateCause_asCause hfacts rfl hmem).mpr (h.cause hfinding outcome hlast)
      causalChain := objectSequence_eq_ok_iff.mpr (congrArg Value.list List.map_map.symm)
      chainBroken := by
        intro cause hcause
        obtain ⟨outcome, hmem, rfl⟩ := List.mem_map.mp hcause
        exact (validateCause_asCause hfacts rfl (causalChain_subset _ hmem)).mpr
          (h.chain outcome hmem)
      coherence := objectOrNone_eq_ok_iff.mpr rfl
      refused := by
        intro entries hentries hrefuses
        obtain ⟨coherence, hcoherence, rfl⟩ := Option.map_eq_some_iff.mp hentries
        change result.trustworthy = false
        unfold InvestigationResult.trustworthy
        rcases hfacts.refused coherence hcoherence hrefuses with hfinding | hfinding
        · rw [if_pos hfinding]
        · rw [hfinding]
          rfl
      coverage := objectOrNone_eq_ok_iff.mpr rfl
      sessions := objectOrNone_eq_ok_iff.mpr rfl
      operatorNotes := objectSequence_eq_ok_iff.mpr rfl
      offPath := objectSequence_eq_ok_iff.mpr rfl
      report := ⟨some _, rfl, rfl⟩
      correlation := ⟨some _, rfl, rfl⟩
      narrowingShadow := objectOrNone_eq_ok_iff.mpr rfl
      inactive := by
        intro entries hentries
        obtain ⟨record, -, rfl⟩ := Option.map_eq_some_iff.mp hentries
        rfl
      reason := by
        change result.descent.reason = (strOrNone result.descent.reason).str?
        cases result.descent.reason <;> rfl }

theorem reportable_of_validated (hfacts : WalkFacts flow result.descent)
    {receipt : InvestigationReceipt} (h : Validated result.toPayload receipt) :
    Reportable result := by
  have hfinding : receipt.finding = result.descent.finding := by
    have heq := (requiredText_eq_ok_iff.mp h.finding).1
    change Value.str result.descent.finding = _ at heq
    rw [Value.str.injEq] at heq
    exact heq.symm
  have hrungs : receipt.rungs = result.shownRungs := by
    have heq := h.rungs
    rw [shownRungs_pass hfacts rfl, Except.ok.injEq] at heq
    exact heq.symm
  have hcause : receipt.cause = result.shownCause.map RungOutcome.asCause := by
    have hshown : objectOrNone (result.toPayload.fetch "cause") "cause" =
        .ok (result.shownCause.map RungOutcome.asCause) := objectOrNone_eq_ok_iff.mpr rfl
    have heq := h.cause
    rw [hshown, Except.ok.injEq] at heq
    exact heq.symm
  have hchain : receipt.causalChain = result.descent.causalChain.map RungOutcome.asCause := by
    have hshown : objectSequence (result.toPayload.fetch "causal_chain") "causal_chain" =
        .ok (result.descent.causalChain.map RungOutcome.asCause) :=
      objectSequence_eq_ok_iff.mpr (congrArg Value.list List.map_map.symm)
    have heq := h.causalChain
    rw [hshown, Except.ok.injEq] at heq
    exact heq.symm
  refine ⟨?_, hfacts.found, ?_, ?_, ?_, ?_⟩
  · intro hlocal
    have hnone := h.uncaused (by rw [hfinding, hlocal]; decide)
    have hshown : result.shownCause = result.descent.cause := by
      unfold InvestigationResult.shownCause
      rw [hlocal]
      exact if_neg (by decide)
    rw [hcause, hshown, Option.map_eq_none_iff] at hnone
    exact hfacts.broken hlocal hnone
  · have heq := requiredText_eq_ok_iff.mp h.device
    rw [← Value.str.inj heq.1] at heq
    exact heq.2
  · have heq := requiredText_eq_ok_iff.mp h.subject
    rw [← Value.str.inj heq.1] at heq
    exact heq.2
  · intro outcome hmem
    have hpass := h.chainBroken outcome.asCause (by
      rw [hchain]
      exact List.mem_map_of_mem hmem)
    rw [hrungs] at hpass
    exact (validateCause_asCause hfacts rfl (causalChain_subset _ hmem)).mp hpass
  · intro hsilent outcome hlast
    have hshown : result.shownCause = some outcome := by
      unfold InvestigationResult.shownCause
      rw [if_neg hsilent, hlast]
    have hpass := h.causeBroken outcome.asCause (by rw [hcause, hshown]; rfl)
    rw [hrungs] at hpass
    exact (validateCause_asCause hfacts rfl (shownCause_mem hshown).2.2).mp hpass

lemma no_receipt_of_no_outcomes (hnil : result.descent.outcomes = [])
    {receipt : InvestigationReceipt} : ¬Validated result.toPayload receipt := by
  intro h
  obtain ⟨heq, -, hne, -⟩ := rungsOf_eq_ok_iff.mp h.rungs
  have hshown : result.toPayload.fetch "rungs" = .list [] := by
    change Value.list (result.shownRungs.map Value.dict) = _
    unfold InvestigationResult.shownRungs
    rw [hnil]
    rfl
  rw [hshown, Value.list.injEq] at heq
  exact hne (List.map_eq_nil_iff.mp heq.symm)

/-- A deterministic result has a receipt, and one that says the same, exactly when it is
reportable; and no payload at all has one whose cause is not a broken rung or that trusts a
refusal of the coherence check. -/
theorem receipt_accepted_iff (hflow : flow ∈ flows) (hname : result.flow = flow.objectType)
    (hdescent : Deterministic flow result.descent) :
    ((∃ receipt, InvestigationReceipt.parse result.toPayload = .ok receipt ∧
        receipt.Mirrors result.toPayload) ↔ Reportable result) ∧
      ∀ payload receipt, InvestigationReceipt.parse payload = .ok receipt →
        CauseIsBrokenRung payload ∧ ¬TrustsRefusal payload := by
  constructor
  · have hmirrors : (∃ receipt, InvestigationReceipt.parse result.toPayload = .ok receipt ∧
        receipt.Mirrors result.toPayload) ↔ ∃ receipt, Validated result.toPayload receipt := by
      apply exists_congr
      intro receipt
      rw [← parse_eq_ok_iff]
      exact and_iff_left_of_imp mirrors_of_parse
    rw [hmirrors]
    have hcases : WalkFacts flow result.descent ∨
        result.descent.outcomes = [] ∧ result.descent.finding = SUBJECT_NOT_FOUND := by
      generalize result.descent = descent at hdescent
      cases hdescent with
      | walked collector resolver originPrefix device subject coherence =>
        exact Or.inl (walkFacts hflow collector resolver originPrefix device subject coherence)
      | refused device subject evidenceKeys reason => exact Or.inr ⟨rfl, rfl⟩
    rcases hcases with hfacts | ⟨hnil, hrefused⟩
    · constructor
      · rintro ⟨receipt, h⟩
        exact reportable_of_validated hfacts h
      · intro h
        exact ⟨receiptOf result, validated_of_reportable hflow hname hfacts h⟩
    · constructor
      · rintro ⟨receipt, h⟩
        exact absurd h (no_receipt_of_no_outcomes hnil)
      · intro h
        exact absurd hrefused h.walked
  · intro payload receipt h
    exact ⟨causeIsBrokenRung_of_parse h, not_trustsRefusal_of_parse h⟩

end Produced

section Adjacency

/-- Evidence of an IS-IS adjacency of `PE3` that is not up, over a port in some line state. -/
def adjacencyDown (line : String) : Evidence :=
  { device := "PE3"
    get := fun key => List.lookup key
      [("isis", { parsed := some { records :=
          [{ interface := some "Gi0/0/0/0", state := some "Init" }] }
                  parseStatus := some PARSE_OK }),
        ("interfaces", { parsed := some { records :=
            [{ interface := some "Gi0/0/0/0", adminState := some "up",
               lineProtocol := some line }] }
                         parseStatus := some PARSE_OK })] }

def adjacencyResult (line : String) : InvestigationResult :=
  { device := "PE3"
    subject := "Gi0/0/0/0"
    flow := "isis_adjacency"
    descent := runDescent (fun _ _ _ => adjacencyDown line) none none "PE3" "Gi0/0/0/0"
      isisAdjacencyFlow none
    correlationGrounding := ""
    paraphraseGrounding := "" }

/-- The result of asking about an interface that `PE3` does not have. -/
def unknownSubjectResult : InvestigationResult :=
  { device := "PE3"
    subject := "Gi9/9/9/9"
    flow := "isis_adjacency"
    descent :=
      { flow := "isis_adjacency"
        device := "PE3"
        subject := "Gi9/9/9/9"
        finding := SUBJECT_NOT_FOUND
        reason := some "no such interface" }
    correlationGrounding := ""
    paraphraseGrounding := "" }

def refusal (payload : Dict) : Option ReceiptError :=
  match InvestigationReceipt.parse payload with
  | .ok _ => none
  | .error error => some error

/-- Two deterministic results are refused: that of a symptom whose cause no rung shows, and that
of an unknown subject. -/
theorem receipt_refuses_results :
    (adjacencyResult "up").descent.finding = CAUSE_NOT_LOCALISED ∧
      refusal (adjacencyResult "up").toPayload =
        some (.validation "finding 'cause_not_localised' must not carry a cause") ∧
      refusal unknownSubjectResult.toPayload = some (.validation
        "investigation receipt rungs_examined must equal a non-empty rungs list") := by
  decide +kernel

/-- With the port down as well, the cause is localised and the result has a receipt. -/
theorem receipt_accepted_iff_adjacency :
    ∃ receipt, InvestigationReceipt.parse (adjacencyResult "down").toPayload = .ok receipt ∧
      receipt.Mirrors (adjacencyResult "down").toPayload := by
  have hflow : isisAdjacencyFlow ∈ flows := by simp [flows]
  have hcause : (adjacencyResult "down").descent.cause.all (fun o => o.device != "") = true := by
    decide +kernel
  apply (receipt_accepted_iff hflow rfl (Deterministic.walked _ _ _ _ _ _)).1.mpr
  refine ⟨by decide +kernel, by decide +kernel, by decide, by decide, by decide +kernel, ?_⟩
  intro _ outcome hlast
  rw [hlast] at hcause
  simpa using hcause

end Adjacency

end NetTools
