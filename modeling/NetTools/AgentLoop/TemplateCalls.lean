import NetTools.Collection.Authorisation

/-!
# Template calls that a model asks for

`_execute_tool` for `run_lab_template`: the model's parameters are expanded as keyword arguments of
`run_template`, two of which are not parameters of a template.
-/

namespace NetTools

namespace TemplateCalls

open Traces Traces.Traced

inductive InputError where
  | keyError (key : String)
  | typeError
  | valueError
deriving DecidableEq, Repr

/-- An element of a sequence that `dict` is given. -/
def pairOf : Value → Except InputError (Value × Value)
  | .list [key, value] => .ok (key, value)
  | .list _ => .error .valueError
  | .str text =>
    match text.toList with
    | [key, value] => .ok (.str (String.ofList [key]), .str (String.ofList [value]))
    | _ => .error .valueError
  | .dict [key, value] => .ok (.str key.1, .str value.1)
  | .dict _ => .error .valueError
  | _ => .error .typeError

def hashable : Value → Bool
  | .list _ | .dict _ => false
  | _ => true

/-- `dict(value)` of a truthy value, as the assignments that it makes. -/
def pyDict : Value → Except InputError (List (Value × Value))
  | .dict entries => .ok (entries.map (fun entry => (.str entry.1, entry.2)))
  | .list items => items.mapM (fun item => do
      let pair ← pairOf item
      if hashable pair.1 then .ok pair else .error .typeError)
  | .str _ => .error .valueError
  | _ => .error .typeError

/-- `**params`, where every keyword is a text. -/
def keywords (pairs : List (Value × Value)) : Except InputError Dict :=
  pairs.foldlM (fun (supplied : Dict) pair =>
    match pair.1 with
    | .str key => .ok (supplied.set key pair.2)
    | _ => .error .typeError) []

/-- `tool_input[key]`. -/
def required (toolInput : Dict) (key : String) : Except InputError Value :=
  match toolInput.get? key with
  | some value => .ok value
  | none => .error (.keyError key)

/-- The arguments of `run_template`: the two positional ones and the keywords supplied. -/
structure TemplateCall where
  device : Value
  template : Value
  supplied : Dict

/-- `run_template(tool_input["device_name"], tool_input["template"], **params)`, up to the body. -/
def bindTemplateCall (toolInput : Dict) : Except InputError TemplateCall := do
  let pairs ←
    match toolInput.get? "params" with
    | some params => if params.truthy then pyDict params else .ok []
    | none => .ok []
  let device ← required toolInput "device_name"
  let template ← required toolInput "template"
  let supplied ← keywords pairs
  if "device_name" ∈ supplied.keys ∨ "template_name" ∈ supplied.keys then .error .typeError
  else .ok { device := device, template := template, supplied := supplied }

namespace TemplateCall

variable (call : TemplateCall)

def platform : Value := (call.supplied.get? "platform").getD .none

def sender : Value := (call.supplied.get? "sender").getD .none

/-- The keywords that are left for `**params` of `run_template`. -/
def params : Dict := call.supplied.filter (fun entry => entry.1 ∉ ["platform", "sender"])

def plain : TemplateCall := { call with supplied := call.params }

end TemplateCall

-- `shown` is `str` on the values that are no texts.
variable (world : World) (shown : Value → String) (parseTemplate : ParseTemplate)

def DEFAULT_PLATFORM : String := "cisco_xr"

/-- `platform_for(device_name)`: a value that is no text names no device, and a list or a dict
cannot be looked up. -/
def platformOf : Value → Except Raised String
  | .str device => .ok (world.platformFor device)
  | device => if hashable device then .ok DEFAULT_PLATFORM else .error .typeError

/-- `platform or platform_for(device_name)`. -/
def usedPlatform (call : TemplateCall) : Except Raised Value :=
  if call.platform.truthy then .ok call.platform else (platformOf world call.device).map .str

/-- `sender(device, command)` with a value that is no function. -/
def notCallable (value : Value) : Sender :=
  fun _ _ => .error ("'" ++ value.typeName ++ "' object is not callable")

/-- The sender of the call, `none` for a session with the device. -/
def transport (call : TemplateCall) : Option Sender :=
  match call.sender with
  | .none => none
  | value => some (notCallable value)

/-- `str(value)`. -/
def textOf : Value → String
  | .str text => text
  | value => shown value

def noCommands (device template platform : Value) : Envelope :=
  { safeError world "run_template" (textOf shown device)
      ("No command definitions for platform: " ++ textOf shown platform ++ ".") SOURCE_LIVE with
    data := [("template", template), ("platform", platform)] }

/-- `_unsupported_template_result`. -/
def unsupportedTemplate (device template : Value) (platform : String) : Envelope :=
  attachParsedTemplate parseTemplate platform (textOf shown template)
    { baseResult world "run_template" (textOf shown device) SOURCE_LIVE with
      status := STATUS_UNSUPPORTED
      data := [("template", template), ("platform", .str platform)] }

/-- The rendered command of a device that no inventory lists: `get_device` refuses it. -/
def sendUnlisted (device : Value) (platform : String) (entry : ManifestEntry) (command : String) :
    Run Envelope :=
  match world.sender with
  | some sender => do
    let answered ← sendAll sender
      { baseResult world "run_template" (shown device) (sourceFor world) with
        data := [("template", .str entry.1), ("platform", .str platform),
          ("command", .str command)] }
      [(command, command)]
    return attachParsedTemplate parseTemplate platform entry.1 answered
  | none => do
    emit .getDevice
    if hashable device then
      return safeError world "run_template" (shown device)
        ("Device is not in the lab inventory: " ++ shown device) SOURCE_LIVE
    else raise .typeError

/-- `run_template` for a device name that is no text, on a known platform. -/
def runUnlisted (device : Value) (platform : String) (entry : ManifestEntry) : Run Envelope :=
  if !Platforms.supportsTemplate platform entry.1 then
    pure (unsupportedTemplate world shown parseTemplate device (.str entry.1) platform)
  else if Platforms.activeProbe platform entry.1 ∧ !world.probesAllowed then
    pure { safeError world "run_template" (shown device)
      ("Active probes (ping/traceroute) are disabled: NETTOOLS_ALLOW_ACTIVE_PROBES is set to a " ++
        "falsy value. Unset it or set it to 1/true to allow ping/traceroute templates.")
      SOURCE_LIVE with data := [("template", .str entry.1), ("platform", .str platform)] }
  else if Platforms.activeProbe platform entry.1 ∧ world.sender.isNone then
    -- `check_probe_budget` makes a file name of the device name.
    raise .typeError
  else do
    match ← checkRendered platform entry
      (fun command => "Refusing unsafe rendered command: " ++ pyRepr command) with
    | .error message => return safeError world "run_template" (shown device) message SOURCE_LIVE
    | .ok command => sendUnlisted world shown parseTemplate device platform entry command

/-- `run_template` from the platform on. -/
def runOn (device template platform : Value) (params : Dict) : Run Envelope :=
  match platform with
  | .str platform =>
    if platform ∉ Platforms.knownPlatforms then
      pure (noCommands world shown device template (.str platform))
    else
      match template with
      | .str template =>
        match device with
        | .str device => runTemplate world parseTemplate device (template, params) (some platform)
        | device => runUnlisted world shown parseTemplate device platform (template, params)
      | template =>
        if hashable template then
          pure (unsupportedTemplate world shown parseTemplate device template platform)
        else raise .typeError
  | platform => pure (noCommands world shown device template platform)

/-- The body of `run_template`, whatever the sender of the world is. -/
def callTemplate (call : TemplateCall) : Run Envelope :=
  match usedPlatform world call with
  | .error error => raise error
  | .ok platform =>
    runOn { world with sender := transport call } shown parseTemplate call.device call.template
      platform call.params

/-- `_execute_tool("run_lab_template", tool_input)`. -/
def executeLabTemplate (toolInput : Dict) : Except InputError (Run Envelope) :=
  (bindTemplateCall toolInput).map (callTemplate world shown parseTemplate)

end TemplateCalls

end NetTools
