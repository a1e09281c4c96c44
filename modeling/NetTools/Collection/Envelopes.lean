import NetTools.Collection.Platforms
import NetTools.Library.Traces
import NetTools.Python.Text

/-!
# Envelopes and the outside world

The results that `network_tools.py` returns, what it learns from outside, and what it does there. A
check that a command passes is recorded with the rest.
-/

namespace NetTools

def SOURCE_LIVE : String := "live"

def SOURCE_FIXTURE : String := "fixture"

def STATUS_SUCCESS : String := "success"

def STATUS_ERROR : String := "error"

def STATUS_UNSUPPORTED : String := "unsupported"

structure Refusal where
  scope : String
  reason : String

structure Envelope where
  tool : String
  device : String
  status : String := STATUS_SUCCESS
  timestamp : String
  source : String
  data : Dict := []
  errors : List String := []
  admission : Option Refusal := none

def Refusal.toValue (refusal : Refusal) : Value :=
  .dict [("outcome", .str "refused"), ("scope", .str refusal.scope),
    ("reason", .str refusal.reason)]

def Envelope.toDict (envelope : Envelope) : Dict :=
  [("tool", .str envelope.tool), ("device", .str envelope.device),
    ("status", .str envelope.status), ("timestamp", .str envelope.timestamp),
    ("source", .str envelope.source), ("data", .dict envelope.data),
    ("errors", .list (envelope.errors.map .str))] ++
  (envelope.admission.map (fun refusal => ("admission", refusal.toValue))).toList

/-! ### Effects -/

/-- What a call does: the checks that it makes, and what reaches the outside. -/
inductive Effect where
  | approved (command : String)
  | refused (command : String)
  | probeBudget (templateName : String) (params : List (String × Value)) (granted : Bool)
  | rendered (templateName : String) (params : List (String × Value)) (command : String)
  | getDevice
  | sent (command : String)
  | session (commands : List String) (readTimeout : Option Nat)

namespace Effect

def commands : Effect → List String
  | sent command => [command]
  | session commands _ => commands
  | _ => []

def isCheck : Effect → Bool
  | approved _ | refused _ | probeBudget _ _ _ | rendered _ _ _ => true
  | getDevice | sent _ | session _ _ => false

end Effect

/-- What `_netmiko_send_commands` returns. -/
structure Session where
  outputs : List (String × String)
  errors : List String := []
  retries : List (String × Nat) := []

abbrev Sender : Type := List Effect → String → Except String String

/-- All that comes from outside; an answer may depend on what was done before. -/
structure World where
  platformFor : String → String
  timestamp : String
  probesAllowed : Bool
  probeBudget : List Effect → Option Refusal
  getDevice : List Effect → Except String Dict
  session : List Effect → List String → Except Refusal Session
  sender : Option Sender

inductive Raised where
  | template (error : TemplateError)
  | typeError

abbrev Run (α : Type) : Type := Traces.Traced Effect Raised α

open Traces.Traced

variable (world : World)

def sourceFor : String := if world.sender.isSome then SOURCE_FIXTURE else SOURCE_LIVE

def baseResult (tool device source : String) : Envelope :=
  { tool := tool, device := device, timestamp := world.timestamp, source := source }

def safeError (tool device message source : String) : Envelope :=
  { baseResult world tool device source with status := STATUS_ERROR, errors := [message] }

def unsupportedResult (tool device intent platform source : String) : Envelope :=
  { baseResult world tool device source with
    status := STATUS_UNSUPPORTED
    data := [("intent", .str intent), ("platform", .str platform), ("commands", .dict [])] }

def markAdmissionRefused (result : Envelope) (refusal : Refusal) : Envelope :=
  { result with
    status := STATUS_ERROR
    data := if (result.data.lookup "commands").isSome then result.data
      else result.data ++ [("commands", .dict [])]
    errors := result.errors ++ ["admission refused (" ++ refusal.scope ++ "): " ++
      refusal.reason ++ " -- unevaluated, not attempted"]
    admission := some refusal }

/-- `platform or platform_for(device_name)`. -/
def resolvePlatform (platform : Option String) (device : String) : String :=
  match platform with
  | some "" | none => world.platformFor device
  | some platform => platform

lemma resolvePlatform_again (named : Option String) (device : String) :
    resolvePlatform world (some (resolvePlatform world named device)) device =
      resolvePlatform world named device := by
  have hagain : ∀ resolved : String, (resolved = "" → world.platformFor device = "") →
      resolvePlatform world (some resolved) device = resolved := by
    intro resolved hempty
    by_cases h : resolved = ""
    · rw [h, resolvePlatform, hempty h]
    · simp [resolvePlatform]
  cases named with
  | none => exact hagain _ (fun h => h)
  | some platform =>
    by_cases h : platform = ""
    · rw [h]
      exact hagain _ (fun h => h)
    · have hresolved : resolvePlatform world (some platform) device = platform := by
        simp [resolvePlatform]
      rw [hresolved, hresolved]

def outputsValue (outputs : List (String × String)) : Value :=
  .dict (outputs.map (fun output => (output.1, .str output.2)))

/-- `result["data"]["retries"]`, when there were any. -/
def retriesEntry (retries : List (String × Nat)) : Dict :=
  if retries = [] then []
  else [("retries", .dict (retries.map (fun entry => (entry.1, .int entry.2))))]

/-- `sender(device, command)`. -/
def askSender (sender : Sender) (command : String) : Run (Except String String) := do
  let t ← recorded
  emit (.sent command)
  return sender t command

/-- `get_device(device_name)`. -/
def askDevice : Run (Except String Dict) := do
  let t ← recorded
  emit .getDevice
  return world.getDevice t

/-- `_netmiko_send_commands(device, commands)`. -/
def askSession (commands : List String) (readTimeout : Option Nat) :
    Run (Except Refusal Session) := do
  let t ← recorded
  emit (.session commands readTimeout)
  return world.session t commands

/-- `check_probe_budget`. -/
def askProbeBudget (templateName : String) (params : List (String × Value)) :
    Run (Option Refusal) := do
  let t ← recorded
  let refusal := world.probeBudget t
  emit (.probeBudget templateName params refusal.isNone)
  return refusal

end NetTools
