import NetTools.Descent.Walk
import NetTools.Python.Datetime

/-!
# The investigation payload

`InvestigationResult.to_payload` of `investigation.py`, with the dictionaries of the parts that
it carries.
-/

namespace NetTools

def strOrNone : Option String → Value
  | none => .none
  | some text => .str text

def dictOrNone : Option Dict → Value
  | none => .none
  | some entries => .dict entries

def strings (items : List String) : Value := .list (items.map Value.str)

/-- `round(q, digits)`. -/
def roundTo (digits : Nat) (q : ℚ) : ℚ := roundHalfEven (q * 10 ^ digits) / 10 ^ digits

/-- `format(q, ".<digits>f")`. -/
def fixed (digits : Nat) (q : ℚ) : String :=
  let scaled := (roundHalfEven (q * 10 ^ digits)).natAbs
  let fraction := toString (scaled % 10 ^ digits)
  (if q < 0 then "-" else "") ++ toString (scaled / 10 ^ digits) ++
    if digits = 0 then "" else
      "." ++ String.ofList (List.replicate (digits - fraction.length) '0') ++ fraction

def RereadStatus.text : RereadStatus → String
  | .verdict status => status.text
  | .rereadFailed => "reread_failed"

def Reread.asDict (reread : Reread) : Dict :=
  [("rung", .str reread.rung), ("device", .str reread.device),
    ("before", .str reread.before.text), ("after", .str reread.after.text),
    ("agrees", .bool reread.agrees), ("detail", strOrNone reread.detail)]

def CoherenceStatus.text : CoherenceStatus → String
  | .coherent => "coherent"
  | .fabricMoved => "fabric_moved"
  | .windowLimited => "window_limited"
  | .unverified => "unverified"

namespace Coherence

def stable (coherence : Coherence) : Bool :=
  !coherence.rereads.isEmpty && coherence.rereads.all Reread.agrees

def rungsRead (coherence : Coherence) : String :=
  String.intercalate ", " (coherence.rereads.map Reread.rung)

def caveat (coherence : Coherence) : Option String :=
  if coherence.status ≠ .windowLimited then none
  else some ("The finding stands. It was read over " ++ fixed 1 coherence.skewSeconds ++
    "s, wider than the " ++ fixed 1 coherence.boundSeconds ++ "s bound, and " ++
    coherence.rungsRead ++ " were unchanged at both ends of that window. Read it as 'true at " ++
    "the start and at the end', not as 'true throughout' — nothing observed the middle.")

def detail (coherence : Coherence) : String :=
  let margin := "skew " ++ fixed 1 coherence.skewSeconds ++ "s of " ++
    fixed 0 coherence.boundSeconds ++ "s allowed"
  let moved := coherence.rereads.filter (fun reread => !reread.agrees)
  if coherence.rereads = [] then
    margin ++ "; nothing was re-read, so stability is unknown"
  else if moved ≠ [] then
    margin ++ "; state changed during the walk: " ++ String.intercalate "; " (moved.map
      (fun reread => reread.rung ++ " on " ++ reread.device ++ ": " ++ reread.before.text ++
        " -> " ++ reread.after.text))
  else if !coherence.withinBound then
    margin ++ " — EXCEEDED; " ++ coherence.rungsRead ++ " agreed at both ends, so the finding " ++
      "stands qualified: the window brackets a stable interval, and nothing observed its middle"
  else
    margin ++ "; " ++ coherence.rungsRead ++ " unchanged on re-read"

def asDict (coherence : Coherence) : Dict :=
  [("status", .str coherence.status.text), ("ok", .bool (coherence.status == .coherent)),
    ("refuses", .bool coherence.refuses), ("caveat", strOrNone coherence.caveat),
    ("skew_seconds", .float (roundTo 3 coherence.skewSeconds)),
    ("bound_seconds", .float coherence.boundSeconds),
    ("within_bound", .bool coherence.withinBound), ("stable", .bool coherence.stable),
    ("detail", .str coherence.detail),
    ("rereads", .list (coherence.rereads.map (fun reread => .dict reread.asDict)))]

end Coherence

structure Coverage where
  device : String
  source : String
  queryComplete : Bool := true
  windowStart : Option String := none
  windowEnd : Option String := none
  severityAvailable : List Int := [0, 1, 2, 3, 4, 5, 6, 7]
  recordsAvailable : Option Int := none
  recordsReturned : Int := 0
  recordsDroppedAtSource : Int := 0
  recordsKeptUnattributable : Int := 0
  notes : List String := []

namespace Coverage

def allSeverities : List Int := [0, 1, 2, 3, 4, 5, 6, 7]

def severityMissing (coverage : Coverage) : List Int :=
  allSeverities.filter (fun severity => !coverage.severityAvailable.contains severity)

def truncated (coverage : Coverage) : Bool :=
  coverage.recordsAvailable.any (fun available => coverage.recordsReturned < available)

def gaps (coverage : Coverage) : List String :=
  (if coverage.queryComplete then [] else ["the query did not complete"]) ++
    (if coverage.severityMissing = [] then [] else
      ["severities " ++ String.intercalate "," (coverage.severityMissing.map toString) ++
        " are not carried by this source"]) ++
    (if coverage.truncated then
      [toString coverage.recordsReturned ++ " of " ++
        (coverage.recordsAvailable.map toString).getD "None" ++
        " available records were retrieved; the rest of the window was not read"]
      else []) ++
    (if coverage.recordsDroppedAtSource = 0 then [] else
      ["the source reports dropping " ++ toString coverage.recordsDroppedAtSource ++
        " records"]) ++
    coverage.notes

def asDict (coverage : Coverage) : Dict :=
  [("device", .str coverage.device), ("source", .str coverage.source),
    ("window", .dict [("start", strOrNone coverage.windowStart),
      ("end", strOrNone coverage.windowEnd)]),
    ("query_complete", .bool coverage.queryComplete),
    ("severity_available", .list (coverage.severityAvailable.map Value.int)),
    ("severity_missing", .list (coverage.severityMissing.map Value.int)),
    ("records_available", match coverage.recordsAvailable with
      | none => .none
      | some available => .int available),
    ("records_returned", .int coverage.recordsReturned),
    ("records_dropped_at_source", .int coverage.recordsDroppedAtSource),
    ("records_kept_unattributable", .int coverage.recordsKeptUnattributable),
    ("complete", .bool coverage.gaps.isEmpty), ("gaps", strings coverage.gaps)]

end Coverage

structure ShapedWindow where
  records : List Dict := []
  totalIn : Nat := 0
  duplicatesRemoved : Nat := 0
  collectorNoiseRemoved : Nat := 0
  unrelatedRemoved : Nat := 0
  unattributedKept : Nat := 0
  coverage : Option Coverage := none

namespace ShapedWindow

end ShapedWindow

structure Candidate where
  kind : String
  id : String
  device : String
  evidenceKey : String
  deriving DecidableEq

def Candidate.asDict (candidate : Candidate) : Dict :=
  [("kind", .str candidate.kind), ("id", .str candidate.id),
    ("device", .str candidate.device), ("evidence_key", .str candidate.evidenceKey)]

inductive GateDecision where
  | narrow (target : Candidate)
  | stop
  deriving DecidableEq

inductive NarrowingMode where
  | off
  | shadow

def NarrowingMode.value : NarrowingMode → String
  | .off => "off"
  | .shadow => "shadow"

/-- A decision that cannot alter the descent, about one of the candidates. -/
structure ShadowNarrowingRecord where
  mode : NarrowingMode
  candidates : List Candidate
  decision : Option GateDecision
  refusal : Option String
  enumerated : ∀ target, decision = some (.narrow target) → target ∈ candidates

def shadowPayload (record : ShadowNarrowingRecord) : Dict :=
  [("mode", .str record.mode.value), ("active", .bool false),
    ("candidates", .list (record.candidates.map (fun candidate => .dict candidate.asDict))),
    ("decision", match record.decision with
      | some (.narrow target) =>
        .dict [("kind", .str "narrow"), ("index", .int (record.candidates.idxOf target)),
          ("target", .dict target.asDict)]
      | some .stop => .dict [("kind", .str "stop")]
      | none => .none),
    ("refusal", strOrNone record.refusal)]

def COVERAGE_LIMITED : String := "coverage_limited"

def NOT_ATTEMPTED : String := "not_attempted"

def findingsWithoutACause : List String :=
  [UNDETERMINED, NO_FAULT_ON_PATH, TEMPORALLY_INCOHERENT, SUBJECT_NOT_FOUND]

def reportGroundingNote : String :=
  "not graded: the authoritative report is generated from the descent's typed fields, so " ++
    "grounding it would check code against itself and always pass. The model paraphrase, " ++
    "where present, is graded normally."

/-- One investigation: the descent, and what a model added to it. The two groundings are their
summaries. -/
structure InvestigationResult where
  device : String
  subject : String
  flow : String
  descent : DescentResult
  report : Option Dict := none
  reportStatus : String := NOT_ATTEMPTED
  correlation : Option Dict := none
  correlationStatus : String := NOT_ATTEMPTED
  correlationGrounding : String
  coverage : Option Coverage := none
  paraphrase : Option Dict := none
  paraphraseStatus : String := NOT_ATTEMPTED
  paraphraseGrounding : String
  correlationParaphrase : Option Dict := none
  correlationParaphraseStatus : String := NOT_ATTEMPTED
  operatorNotes : List Dict := []
  originUnresolved : Option String := none
  sessionSummary : Option Dict := none
  narrowingShadow : Option ShadowNarrowingRecord := none
  repairs : List String := []
  usage : Option Dict := none

def RungOutcome.asCause (outcome : RungOutcome) : Dict :=
  [("rung", .str outcome.rung), ("device", .str outcome.device),
    ("reason", strOrNone outcome.result.reason)]

def RungOutcome.asRung (outcome : RungOutcome) (position count : Nat) : Dict :=
  [("position", .int position), ("of", .int count), ("rung", .str outcome.rung),
    ("device", .str outcome.device), ("status", .str outcome.status.text),
    ("reason", strOrNone outcome.result.reason),
    ("evidence_keys", strings outcome.result.evidenceKeys)]

namespace InvestigationResult

variable (result : InvestigationResult)

def offPath : List Dict :=
  if result.descent.finding ≠ NO_FAULT_ON_PATH then []
  else (brokenOutcomes result.descent.outcomes).map RungOutcome.asCause

def caveat : Option String :=
  if result.correlationParaphraseStatus ≠ COVERAGE_LIMITED then none
  else
    let gaps := match result.coverage with
      | some coverage => String.intercalate "; " coverage.gaps
      | none => "coverage unknown"
    some ("The finding is deterministic and unaffected. The timeline is limited: " ++ gaps ++
      ". Read the correlation as 'nothing found in what was available', not as 'nothing " ++
      "happened'.")

def trustworthy : Bool :=
  if result.descent.finding = UNDETERMINED then false
  else if result.descent.finding = TEMPORALLY_INCOHERENT then false
  else if result.descent.finding = SUBJECT_NOT_FOUND then false
  else true

def shownCause : Option RungOutcome :=
  if result.descent.finding ∈ findingsWithoutACause then none else result.descent.cause

def shownRungs : List Dict :=
  result.descent.outcomes.zipIdx.map (fun (outcome, index) =>
    outcome.asRung (index + 1) result.descent.outcomes.length)

def toPayload : Dict :=
  [("tool", .str "investigate"),
    ("device", .str result.device),
    ("subject", .str result.subject),
    ("flow", .str result.flow),
    ("finding", .str result.descent.finding),
    ("reason", strOrNone result.descent.reason),
    ("origin_unresolved", strOrNone result.originUnresolved),
    ("operator_notes", .list (result.operatorNotes.map Value.dict)),
    ("narrowing_shadow", dictOrNone (result.narrowingShadow.map shadowPayload)),
    ("cause", dictOrNone (result.shownCause.map RungOutcome.asCause)),
    ("causal_chain", .list (result.descent.causalChain.map (fun o => .dict o.asCause))),
    ("rungs_examined", .int result.descent.outcomes.length),
    ("rungs", .list (result.shownRungs.map Value.dict)),
    ("report", .dict [("status", .str result.reportStatus),
      ("content", dictOrNone result.report), ("authoritative", .bool true),
      ("grounding", .str reportGroundingNote),
      ("paraphrase", .dict [("status", .str result.paraphraseStatus),
        ("content", dictOrNone result.paraphrase), ("authoritative", .bool false),
        ("grounding", .str result.paraphraseGrounding)])]),
    ("correlation", .dict [("status", .str result.correlationStatus),
      ("content", dictOrNone result.correlation), ("authoritative", .bool true),
      ("grounding", .str reportGroundingNote), ("caveat", strOrNone result.caveat),
      ("paraphrase", .dict [("status", .str result.correlationParaphraseStatus),
        ("content", dictOrNone result.correlationParaphrase), ("authoritative", .bool false),
        ("grounding", .str result.correlationGrounding)])]),
    ("off_path", .list (result.offPath.map Value.dict)),
    ("coherence", dictOrNone (result.descent.coherence.map Coherence.asDict)),
    ("sessions", dictOrNone result.sessionSummary),
    ("usage", dictOrNone result.usage),
    ("coverage", dictOrNone (result.coverage.map Coverage.asDict)),
    ("repairs", strings result.repairs),
    ("trustworthy", .bool result.trustworthy)]

end InvestigationResult

end NetTools
