import NetTools.Investigation.Payload
import NetTools.Library.Validation

/-!
# Investigation receipts

`event_reporting.py`: the event agent believes a payload only after `parse` has validated it.
-/

namespace NetTools

open Validation

/-- What `parse` raises: its own refusal, or the `TypeError` of a status that no set can hold. -/
inductive ReceiptError where
  | validation (message : String)
  | unhashable
  deriving DecidableEq

def declaredFindings : List String := flows.flatMap Flow.findings

def noCauseFindings : List String :=
  [ALL_LAYERS_HEALTHY, CAUSE_NOT_LOCALISED, NO_FAULT_ON_PATH, SUBJECT_NOT_FOUND,
    TEMPORALLY_INCOHERENT, UNDETERMINED]

def validRungStatus : List String := ["healthy", "broken", "unevaluated"]

structure InvestigationReceipt where
  device : String
  subject : String
  flow : String
  finding : String
  reason : Option String
  trustworthy : Bool
  cause : Option Dict
  causalChain : List Dict
  rungs : List Dict
  coherence : Option Dict
  coverage : Option Dict
  sessions : Option Dict
  operatorNotes : List Dict
  offPath : List Dict
  reportStatus : Option String
  correlationStatus : Option String
  narrowingShadow : Option Dict

/-- `payload.get(key)`, `None` for a missing key. -/
def Dict.fetch (payload : Dict) (key : String) : Value := (payload.get? key).getD .none

def Value.str? : Value → Option String
  | .str text => some text
  | _ => Option.none

def Value.dict? : Value → Option Dict
  | .dict entries => some entries
  | _ => Option.none

/-- `isinstance(value, str) and value`. -/
def Value.isText : Value → Bool
  | .str text => text != ""
  | _ => false

/-- `isinstance(value, list) and all(isinstance(key, str) for key in value)`. -/
def Value.isStrings : Value → Bool
  | .list items => items.all Value.isStr
  | _ => false

def requiredText (payload : Dict) (key : String) : Except ReceiptError String :=
  match payload.fetch key with
  | .str text =>
    if isBlank text then
      .error (.validation ("investigation receipt " ++ pyRepr key ++
        " must be a non-empty string"))
    else .ok text
  | _ =>
    .error (.validation ("investigation receipt " ++ pyRepr key ++
      " must be a non-empty string"))

def objectOrNone (value : Value) (name : String) : Except ReceiptError (Option Dict) :=
  match value with
  | .none => .ok none
  | .dict entries => .ok (some entries)
  | _ => .error (.validation ("investigation receipt " ++ name ++ " must be an object or null"))

def objectSequence (value : Value) (name : String) : Except ReceiptError (List Dict) :=
  match value with
  | .list items =>
    if items.all (fun item => item.dict?.isSome) then .ok (items.filterMap Value.dict?)
    else
      .error (.validation ("investigation receipt " ++ name ++ " must be an array of objects"))
  | _ => .error (.validation ("investigation receipt " ++ name ++ " must be an array of objects"))

/-- `rung.get("status") not in _VALID_RUNG_STATUS`. -/
def checkStatus (status : Value) : Except ReceiptError Unit :=
  match status with
  | .list _ => .error .unhashable
  | .dict _ => .error .unhashable
  | status => require (status.str?.any validRungStatus.contains)
    (.validation "investigation receipt rung status is invalid")

def checkRung (count position : Nat) (rung : Dict) : Except ReceiptError Unit := do
  require ((rung.fetch "position").pyEq (.int position) && (rung.fetch "of").pyEq (.int count))
    (.validation "investigation receipt rungs must have contiguous positions")
  require ((rung.fetch "rung").isStr && (rung.fetch "device").isStr)
    (.validation "investigation receipt rung identity is invalid")
  checkStatus (rung.fetch "status")
  require (rung.fetch "reason").isStr
    (.validation "investigation receipt rung reason is invalid")
  require (rung.fetch "evidence_keys").isStrings
    (.validation "investigation receipt rung evidence keys are invalid")

/-- `isinstance(declared_count, int) and declared_count == count`. -/
def countDeclared (declared : Value) (count : Nat) : Bool :=
  match declared with
  | .int n => n == count
  | .bool b => (if b then 1 else 0) == count
  | _ => false

/-- `_rungs`. -/
def rungsOf (value declared : Value) : Except ReceiptError (List Dict) := do
  let rungs ← objectSequence value "rungs"
  require (countDeclared declared rungs.length && !rungs.isEmpty)
    (.validation "investigation receipt rungs_examined must equal a non-empty rungs list")
  forEach (checkRung rungs.length) 1 rungs
  pure rungs

def namesBroken (cause : Dict) (rungs : List Dict) : Bool :=
  rungs.any (fun item => (item.fetch "rung").pyEq (cause.fetch "rung") &&
    (item.fetch "device").pyEq (cause.fetch "device") &&
    (item.fetch "status").pyEq (.str "broken"))

def validateCause (rungs : List Dict) (cause : Dict) : Except ReceiptError Unit := do
  require ((cause.fetch "rung").isText && (cause.fetch "device").isText &&
    (cause.fetch "reason").isText) (.validation "investigation receipt cause is invalid")
  require (namesBroken cause rungs)
    (.validation "investigation receipt cause must reference a broken rung")

def isTrue : Value → Bool
  | .bool b => b
  | _ => false

def isFalse : Value → Bool
  | .bool b => !b
  | _ => false

/-- `isinstance(trustworthy, bool)`. -/
def requiredBool (value : Value) : Except ReceiptError Bool :=
  match value with
  | .bool b => .ok b
  | _ => .error (.validation "investigation receipt trustworthy must be a bool")

namespace InvestigationReceipt

def parse (payload : Dict) : Except ReceiptError InvestigationReceipt := do
  require ((payload.fetch "tool").pyEq (.str "investigate"))
    (.validation "investigation receipt has an unexpected tool")
  let device ← requiredText payload "device"
  let subject ← requiredText payload "subject"
  let flow ← requiredText payload "flow"
  require ((flows.map Flow.objectType).contains flow)
    (.validation ("investigation receipt has unsupported flow " ++ pyRepr flow))
  let finding ← requiredText payload "finding"
  require (declaredFindings.contains finding)
    (.validation ("investigation receipt has undeclared finding " ++ pyRepr finding))
  let trustworthy ← requiredBool (payload.fetch "trustworthy")
  let rungs ← rungsOf (payload.fetch "rungs") (payload.fetch "rungs_examined")
  let cause ← objectOrNone (payload.fetch "cause") "cause"
  require (!(noCauseFindings.contains finding && cause.isSome))
    (.validation ("finding " ++ pyRepr finding ++ " must not carry a cause"))
  forEach (fun _ => validateCause rungs) 1 cause.toList
  let causalChain ← objectSequence (payload.fetch "causal_chain") "causal_chain"
  forEach (fun _ => validateCause rungs) 1 causalChain
  let coherence ← objectOrNone (payload.fetch "coherence") "coherence"
  require (!(coherence.any (fun entries => isTrue (entries.fetch "refuses")) && trustworthy))
    (.validation "coherence refusal cannot be trustworthy")
  let coverage ← objectOrNone (payload.fetch "coverage") "coverage"
  let sessions ← objectOrNone (payload.fetch "sessions") "sessions"
  let operatorNotes ← objectSequence (payload.fetch "operator_notes") "operator_notes"
  let offPath ← objectSequence (payload.fetch "off_path") "off_path"
  let report ← objectOrNone (payload.fetch "report") "report"
  let correlation ← objectOrNone (payload.fetch "correlation") "correlation"
  let narrowingShadow ← objectOrNone (payload.fetch "narrowing_shadow") "narrowing_shadow"
  require (narrowingShadow.all (fun entries => isFalse (entries.fetch "active")))
    (.validation "investigation receipt narrowing shadow must be inactive")
  pure
    { device, subject, flow, finding
      reason := (payload.fetch "reason").str?
      trustworthy, cause, causalChain, rungs, coherence, coverage, sessions, operatorNotes
      offPath
      reportStatus := report.bind (fun entries => (entries.fetch "status").str?)
      correlationStatus := correlation.bind (fun entries => (entries.fetch "status").str?)
      narrowingShadow }

end InvestigationReceipt

end NetTools
