import NetTools.Collection.Envelopes

/-!
# Running approved commands

`_run_approved_commands`, `run_intent` and `collect_evidence`: the allowlist is asked about every
command before credentials are loaded, and a collection opens one session.
-/

namespace NetTools

open Traces Traces.Traced

variable (world : World)

def checkCommand (platform command : String) : Run Unit :=
  emit (if Platforms.isApproved platform command then .approved command else .refused command)

def recordAnswer (answered : Dict × List String)
    (answer : (String × String) × Except String String) : Dict × List String :=
  match answer.2 with
  | .ok output => (answered.1.set answer.1.2 (.str output), answered.2)
  | .error message => (answered.1, answered.2 ++ [answer.1.1 ++ ": " ++ message])

def sendAll (sender : Sender) (result : Envelope) (labelled : List (String × String)) :
    Run Envelope := do
  let answers ← forEach (fun command => askSender sender command.2) labelled
  let (outputs, errors) := (labelled.zip answers).foldl recordAnswer ([], [])
  return { result with
    status := if errors = [] then result.status else STATUS_ERROR
    data := result.data.set "commands" (.dict outputs)
    errors := result.errors ++ errors }

def finishSession (result : Envelope) : Except Refusal Session → Envelope
  | .error refusal => markAdmissionRefused result refusal
  | .ok session =>
    { result with
      status := if session.errors = [] then result.status else STATUS_ERROR
      data := result.data.set "commands" (outputsValue session.outputs) ++
        retriesEntry session.retries
      errors := result.errors ++ session.errors }

def runApprovedCommands (device : String) (commands : List String) (platform : String)
    (credentials : Option Dict) : Run Envelope := do
  let _ ← forEach (checkCommand platform) commands
  let refused := commands.filter (fun command => !Platforms.isApproved platform command)
  if refused ≠ [] then
    return safeError world "run_approved_commands" device
      ("Refusing unapproved commands for " ++ platform ++ ": " ++ ", ".intercalate refused)
      SOURCE_LIVE
  else
    let result : Envelope :=
      { baseResult world "run_approved_commands" device (sourceFor world) with
        data := [("commands", .dict [])] }
    match world.sender, credentials with
    | some sender, _ => sendAll sender result (commands.map (fun command => (command, command)))
    | none, some _ => do
      let answer ← askSession world commands none
      return finishSession result answer
    | none, none => do
      match ← askDevice world with
      | .error message =>
        return safeError world "run_approved_commands" device message SOURCE_LIVE
      | .ok _ =>
        let answer ← askSession world commands none
        return finishSession result answer

abbrev ParseIntent : Type := String → String → Dict → Option Value × String

variable (parseIntent : ParseIntent)

def Envelope.outputs (envelope : Envelope) : Dict :=
  match envelope.data.lookup "commands" with
  | some (.dict commands) => commands
  | _ => []

def attachParsed (platform intent : String) (result : Envelope) : Envelope :=
  let (parsed, status) :=
    if result.status = STATUS_UNSUPPORTED then (none, "unavailable")
    else parseIntent platform intent result.outputs
  { result with
    data := (result.data.set "parsed" (parsed.getD .none)).set "parse_status" (.str status) }

def runIntent (device intent : String) (credentials : Option Dict) : Run Envelope := do
  let platform := world.platformFor device
  let result ←
    if platform ∉ Platforms.knownPlatforms then
      pure (safeError world "run_approved_commands" device
        ("No command definitions for platform: " ++ platform ++ ".") SOURCE_LIVE)
    else if !Platforms.supportsIntent platform intent then
      pure (unsupportedResult world "run_approved_commands" device intent platform SOURCE_LIVE)
    else
      runApprovedCommands world device (Platforms.commandsFor platform intent) platform credentials
  return attachParsed parseIntent platform intent result

def sectionFromCombined (device : String) (commands : List String) (combined : Envelope) :
    Envelope :=
  let executed := combined.outputs
  let missing := commands.filter (fun command => (executed.lookup command).isNone)
  let related := combined.errors.filter
    (fun error => missing.any (fun command => pyStartsWith error (command ++ ": ")))
  { baseResult world "run_approved_commands" device combined.source with
    status := if missing = [] then STATUS_SUCCESS else STATUS_ERROR
    data := [("commands", .dict (commands.filterMap
      (fun command => (executed.lookup command).map (fun output => (command, output)))))]
    errors := if missing = [] then [] else if related = [] then combined.errors else related
    admission := combined.admission }

structure CollectedEvidence where
  device : String
  platform : String
  timestamp : String
  sections : List (String × Envelope)

def CollectedEvidence.toDict (evidence : CollectedEvidence) : Dict :=
  [("device", .str evidence.device), ("platform", .str evidence.platform),
    ("timestamp", .str evidence.timestamp)] ++
  evidence.sections.map (fun entry => (entry.1, .dict entry.2.toDict))

def evidenceSection (device platform : String) (combined : Envelope) (source : String)
    (intent : String) : Envelope :=
  attachParsed parseIntent platform intent
    (if Platforms.supportsIntent platform intent then
      sectionFromCombined world device (Platforms.commandsFor platform intent) combined
    else unsupportedResult world "run_approved_commands" device intent platform source)

def unknownEvidence (device platform : String) : CollectedEvidence :=
  { device := device
    platform := platform
    timestamp := world.timestamp
    sections := Platforms.allIntents.map (fun intent => (intent,
      attachParsed parseIntent platform intent (safeError world "run_approved_commands" device
        ("No command definitions for platform: " ++ platform ++ ".") (sourceFor world)))) }

def intentCommands (platform : String) : List String :=
  (Platforms.intentsFor platform).flatMap (Platforms.commandsFor platform)

def collectEvidence (device : String) : Run CollectedEvidence := do
  let platform := world.platformFor device
  if platform ∉ Platforms.knownPlatforms then return unknownEvidence world parseIntent device platform
  else
    let combined ← runApprovedCommands world device (intentCommands platform) platform none
    return {
      device := device
      platform := platform
      timestamp := world.timestamp
      sections := Platforms.allIntents.map (fun intent => (intent,
        evidenceSection world parseIntent device platform combined combined.source intent)) }

end NetTools
