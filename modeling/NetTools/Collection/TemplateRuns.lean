import NetTools.Collection.Commands

/-!
# Running rendered commands

`run_template`, `run_templates`, `run_templates_split` and `collect_evidence_and_templates`: every
entry of a manifest is authorised before credentials are loaded, and a batch opens one session.
-/

namespace NetTools

open Traces Traces.Traced

abbrev ManifestEntry : Type := String × List (String × Value)

/-- `parse_template_output`: what was parsed, and the status. -/
abbrev ParseTemplate : Type := String → String → String → Option Value × String

variable (world : World) (parseTemplate : ParseTemplate)

/-- `render_command(platform, template_name, **params)`; an error is the text of a
`TemplateValidationError`. -/
def callRender (platform : String) (entry : ManifestEntry) : Run (Except String String) :=
  if "platform" ∈ entry.2.map Prod.fst ∨ "template_name" ∈ entry.2.map Prod.fst then
    raise .typeError
  else
    match renderCommand platform entry.1 entry.2 with
    | .ok command => pure (.ok command)
    | .error (.validation message) => pure (.error message)
    | .error error => raise (.template error)

def checkRendered (platform : String) (entry : ManifestEntry) (refusal : String → String) :
    Run (Except String String) := do
  match ← callRender platform entry with
  | .error message => return .error message
  | .ok command =>
    if isSafeRenderedCommand command then
      emit (.rendered entry.1 entry.2 command)
      return .ok command
    else return .error (refusal command)

def probesDisabledBy (templateName : String) : String :=
  templateName ++ ": active probes are disabled by NETTOOLS_ALLOW_ACTIVE_PROBES"

def checkProbe (platform : String) (entry : ManifestEntry) : Run (Option Refusal) :=
  if Platforms.activeProbe platform entry.1 ∧ world.sender.isNone then
    askProbeBudget world entry.1 entry.2
  else pure none

def authorizeEntry (platform : String) (entry : ManifestEntry) : Run (Except String String) := do
  -- `template_for` raises for an unknown name, so that no entry gets to `template is None`.
  match templateFor platform entry.1 with
  | .error error => raise (.template error)
  | .ok _ =>
    if Platforms.activeProbe platform entry.1 ∧ !world.probesAllowed then
      return .error (probesDisabledBy entry.1)
    else
      match ← checkProbe world platform entry with
      | some refusal =>
        return .error (entry.1 ++ ": admission refused (" ++ refusal.scope ++ "): " ++
          refusal.reason ++ " -- unevaluated, not attempted")
      | none =>
        match ← checkRendered platform entry (fun _ => "refusing unsafe rendered command") with
        | .error message => return .error (entry.1 ++ ": " ++ message)
        | .ok command => return .ok command

def Envelope.firstOutput (envelope : Envelope) : String :=
  match envelope.outputs with
  | (_, .str output) :: _ => output
  | _ => ""

def attachParsedTemplate (platform templateName : String) (result : Envelope) : Envelope :=
  let (parsed, status) :=
    if result.status = STATUS_UNSUPPORTED then (none, "unavailable")
    else parseTemplate platform templateName result.firstOutput
  { result with
    data := (result.data.set "parsed" (parsed.getD .none)).set "parse_status" (.str status) }

def runRenderedCommand (device platform : String) (entry : ManifestEntry) : Run Envelope := do
  match ← checkRendered platform entry
    (fun command => "Refusing unsafe rendered command: " ++ pyRepr command) with
  | .error message => return safeError world "run_template" device message SOURCE_LIVE
  | .ok command =>
    let result : Envelope :=
      { baseResult world "run_template" device (sourceFor world) with
        data := [("template", .str entry.1), ("platform", .str platform),
          ("command", .str command)] }
    match world.sender with
    | some sender => do
      let answered ← sendAll sender result [(command, command)]
      return attachParsedTemplate parseTemplate platform entry.1 answered
    | none => do
      match ← askDevice world with
      | .error message => return safeError world "run_template" device message SOURCE_LIVE
      | .ok _ =>
        let answer ← askSession world [command] (some (Platforms.readTimeout platform entry.1))
        return attachParsedTemplate parseTemplate platform entry.1 (finishSession result answer)

def runTemplate (device : String) (entry : ManifestEntry) (platform : Option String) :
    Run Envelope := do
  let platform := resolvePlatform world platform device
  let named : Dict := [("template", .str entry.1), ("platform", .str platform)]
  if platform ∉ Platforms.knownPlatforms then
    return { safeError world "run_template" device
      ("No command definitions for platform: " ++ platform ++ ".") SOURCE_LIVE with data := named }
  else if !Platforms.supportsTemplate platform entry.1 then
    return attachParsedTemplate parseTemplate platform entry.1
      { baseResult world "run_template" device SOURCE_LIVE with
        status := STATUS_UNSUPPORTED
        data := named }
  else if Platforms.activeProbe platform entry.1 ∧ !world.probesAllowed then
    return { safeError world "run_template" device
      ("Active probes (ping/traceroute) are disabled: NETTOOLS_ALLOW_ACTIVE_PROBES is set to a " ++
        "falsy value. Unset it or set it to 1/true to allow ping/traceroute templates.")
      SOURCE_LIVE with data := named }
  else
    match ← checkProbe world platform entry with
    | some refusal =>
      return attachParsedTemplate parseTemplate platform entry.1
        (markAdmissionRefused
          { baseResult world "run_template" device SOURCE_LIVE with data := named } refusal)
    | none => runRenderedCommand world parseTemplate device platform entry

def authorized (manifest : List ManifestEntry) (answers : List (Except String String)) :
    List (String × String) :=
  (manifest.zip answers).filterMap (fun entry => entry.2.toOption.map
    (fun command => (entry.1.1, command)))

def droppedErrors (answers : List (Except String String)) : List String :=
  answers.filterMap fun answer =>
    match answer with
    | .error message => some message
    | .ok _ => none

def batchTimeout (platform : String) (rendered : List (String × String)) : Option Nat :=
  (rendered.map (fun entry => Platforms.readTimeout platform entry.1)).max?

def runTemplates (device : String) (manifest : List ManifestEntry) (platform : Option String) :
    Run Envelope := do
  let platform := resolvePlatform world platform device
  if platform ∉ Platforms.knownPlatforms then
    return safeError world "run_templates" device ("Unknown platform: " ++ platform) SOURCE_LIVE
  else
    let answers ← forEach (authorizeEntry world platform) manifest
    let rendered := authorized manifest answers
    let result : Envelope :=
      { baseResult world "run_templates" device (sourceFor world) with
        data := [("platform", .str platform),
          ("templates", .list (rendered.map (fun entry => .str entry.1)))]
        errors := droppedErrors answers }
    if rendered = [] then
      return { result with
        status := STATUS_ERROR
        data := result.data.set "commands" (.dict []) }
    else
      match world.sender with
      | some sender => sendAll sender result rendered
      | none => do
        match ← askDevice world with
        | .error message =>
          return { result with
            status := STATUS_ERROR
            data := result.data.set "commands" (.dict [])
            errors := result.errors ++ [message] }
        | .ok _ =>
          let answer ← askSession world (rendered.map Prod.snd) (batchTimeout platform rendered)
          return finishSession result answer

def entryFromBatch (device platform templateName command : String) (batch : Envelope)
    (source : String) : Envelope :=
  let output := batch.outputs.lookup command
  attachParsedTemplate parseTemplate platform templateName
    { baseResult world "run_template" device source with
      status := if output.isSome then STATUS_SUCCESS else STATUS_ERROR
      data := [("template", .str templateName), ("platform", .str platform),
        ("command", .str command),
        ("commands", .dict (output.map (fun text => (command, text))).toList)]
      errors := if output.isSome then []
        else if batch.errors = [] then [command ++ ": no output returned by the batch"]
        else batch.errors
      admission := if output.isSome then none else batch.admission }

def runTemplatesSplit (device : String) (manifest : List ManifestEntry) (platform : Option String) :
    Run (List Envelope) := do
  let platform := resolvePlatform world platform device
  let batch ← runTemplates world device manifest (some platform)
  forEach (fun entry => do
    match ← callRender platform entry with
    | .error message => return safeError world "run_template" device message batch.source
    | .ok command =>
      return entryFromBatch world parseTemplate device platform entry.1 command batch batch.source)
    manifest

/-- `_run_approved_commands_and_templates`, which authorises nothing. -/
def runAuthorized (device : String) (commands : List String) (platform : String)
    (readTimeout : Option Nat) : Run Envelope := do
  let result : Envelope :=
    { baseResult world "run_approved_commands" device (sourceFor world) with
      data := [("platform", .str platform), ("commands", .dict [])] }
  match world.sender with
  | some sender => sendAll sender result (commands.map (fun command => (command, command)))
  | none => do
    match ← askDevice world with
    | .error message => return safeError world "run_approved_commands" device message SOURCE_LIVE
    | .ok _ =>
      let answer ← askSession world commands readTimeout
      return finishSession result answer

variable (parseIntent : ParseIntent)

/-- The evidence of a refused batch. The sections share one `data`, so that each shows what was
attached to it last. -/
def refusedEvidence (device platform : String) (refused : List String) : CollectedEvidence :=
  let refusal := safeError world "run_approved_commands" device
    ("Refusing unapproved commands for " ++ platform ++ ": " ++ ", ".intercalate refused)
    (sourceFor world)
  let section_ := Platforms.allIntents.foldl
    (fun result intent => attachParsed parseIntent platform intent result) refusal
  { device := device
    platform := platform
    timestamp := world.timestamp
    sections := Platforms.allIntents.map (fun intent => (intent, section_)) }

def collectEvidenceAndTemplates (device : String) (manifest : List ManifestEntry) :
    Run (CollectedEvidence × List Envelope) := do
  let platform := world.platformFor device
  let source := sourceFor world
  if platform ∉ Platforms.knownPlatforms then
    return (unknownEvidence world parseIntent device platform,
      manifest.map (fun _ => safeError world "run_template" device
        ("No command definitions for platform: " ++ platform ++ ".") source))
  else
    let _ ← forEach (checkCommand platform) (intentCommands platform)
    let refused := (intentCommands platform).filter
      (fun command => !Platforms.isApproved platform command)
    if refused ≠ [] then
      return (refusedEvidence world parseIntent device platform refused,
        manifest.map (fun _ => safeError world "run_template" device "batch refused" source))
    else
      let answers ← forEach (authorizeEntry world platform) manifest
      let rendered := authorized manifest answers
      let combined ← runAuthorized world device
        (intentCommands platform ++ rendered.map Prod.snd) platform (batchTimeout platform rendered)
      return ({
          device := device
          platform := platform
          timestamp := world.timestamp
          sections := Platforms.allIntents.map (fun intent => (intent,
            evidenceSection world parseIntent device platform combined source intent)) },
        (manifest.zip answers).map fun entry =>
          match entry.2 with
          | .error message => safeError world "run_template" device message source
          | .ok command =>
            entryFromBatch world parseTemplate device platform entry.1.1 command combined source)

end NetTools
