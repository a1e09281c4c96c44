import NetTools.Collection.TemplateRuns
import NetTools.Templates.Errors

/-!
# A sender that answers each command the same way

What the collections give when no answer depends on what was sent before: every run is then a
function of its manifest and of the sender's answers.
-/

namespace NetTools

open Traces Traces.Traced

/-- The world in which a sender answers each command by `answer`. -/
def World.answeredBy (world : World) (answer : String → Except String String) : World :=
  { world with sender := some (fun _ => answer) }

section Answers

variable (answer : String → Except String String)

def outputOf (command : String) : Option Value := (answer command).toOption.map .str

/-- What `sendAll` makes of a result. -/
def sentResult (result : Envelope) (labelled : List (String × String)) : Envelope :=
  let (outputs, errors) := (labelled.map (fun command => (command, answer command.2))).foldl
    recordAnswer ([], [])
  { result with
    status := if errors = [] then result.status else STATUS_ERROR
    data := result.data.set "commands" (.dict outputs)
    errors := result.errors ++ errors }

lemma gives_sendAll (result : Envelope) (labelled : List (String × String)) :
    Gives (sendAll (fun _ => answer) result labelled)
      (.ok (sentResult answer result labelled)) := by
  have hasked : ∀ command ∈ labelled,
      Gives (askSender (fun _ => answer) command.2) (.ok (answer command.2)) := by
    intro command _ t
    rfl
  have hzip : labelled.zip (labelled.map (fun command => answer command.2)) =
      labelled.map (fun command => (command, answer command.2)) := by
    have hboth : (labelled.map id).zip (labelled.map (fun command => answer command.2)) =
        labelled.map (fun command => (id command, answer command.2)) := List.zip_map'
    rw [List.map_id] at hboth
    exact hboth
  rw [sendAll]
  apply gives_bind (gives_forEach hasked)
  rw [hzip]
  exact gives_pure _

lemma lookup_recorded (labelled : List (String × String)) (recorded : Dict × List String)
    (command : String) :
    ((labelled.map (fun command => (command, answer command.2))).foldl
      recordAnswer recorded).1.lookup command =
      if command ∈ labelled.map Prod.snd then
        (outputOf answer command).or (recorded.1.lookup command)
      else recorded.1.lookup command := by
  induction labelled generalizing recorded with
  | nil => rfl
  | cons first labelled ih =>
    rw [List.map_cons, List.foldl_cons, ih, List.map_cons]
    have hfirst : (recordAnswer recorded (first, answer first.2)).1.lookup command =
        if command = first.2 then (outputOf answer command).or (recorded.1.lookup command)
        else recorded.1.lookup command := by
      rw [recordAnswer]
      cases hanswer : answer first.2 with
      | error message =>
        dsimp only
        split
        · rename_i heq
          rw [outputOf, heq, hanswer]
          rfl
        · rfl
      | ok output =>
        dsimp only
        rw [Dict.set, LastRow.lookup_assign]
        split
        · rename_i heq
          rw [outputOf, heq, hanswer]
          rfl
        · rfl
    rw [hfirst]
    by_cases heq : command = first.2
    · have hmem : command ∈ first.2 :: labelled.map Prod.snd := by
        rw [heq]
        exact List.mem_cons_self
      rw [if_pos heq, if_pos hmem]
      split
      · rw [← Option.or_assoc, Option.or_self]
      · rfl
    · rw [if_neg heq]
      by_cases hmem : command ∈ labelled.map Prod.snd
      · rw [if_pos hmem, if_pos (List.mem_cons_of_mem _ hmem)]
      · rw [if_neg hmem, if_neg (fun h => (List.mem_cons.mp h).elim heq hmem)]

lemma outputs_sentResult (result : Envelope) (labelled : List (String × String)) :
    (sentResult answer result labelled).outputs =
      ((labelled.map (fun command => (command, answer command.2))).foldl
        recordAnswer ([], [])).1 := by
  rw [Envelope.outputs, sentResult]
  dsimp only
  rw [Dict.set, LastRow.lookup_assign, if_pos rfl]

lemma lookup_sentResult (result : Envelope) {labelled : List (String × String)} {command : String}
    (h : command ∈ labelled.map Prod.snd) :
    (sentResult answer result labelled).outputs.lookup command = outputOf answer command := by
  rw [outputs_sentResult, lookup_recorded, if_pos h]
  exact Option.or_none

lemma sentResult_single (result : Envelope) (label command : String) :
    (sentResult answer result [(label, command)]).status =
        (if (outputOf answer command).isSome = true then result.status else STATUS_ERROR) ∧
      (sentResult answer result [(label, command)]).data = result.data.set "commands"
        (.dict ((outputOf answer command).map (fun output => (command, output))).toList) := by
  rw [sentResult, outputOf]
  dsimp only
  rw [List.map_cons, List.map_nil, List.foldl_cons, List.foldl_nil]
  cases hsent : answer command with
  | error message => exact ⟨rfl, rfl⟩
  | ok output => exact ⟨rfl, rfl⟩

def failures (commands : List String) : List String :=
  commands.filterMap fun command =>
    match answer command with
    | .error message => some (command ++ ": " ++ message)
    | .ok _ => none

lemma errors_recorded (commands : List String) (recorded : Dict × List String) :
    (((commands.map (fun command => (command, command))).map
      (fun command => (command, answer command.2))).foldl recordAnswer recorded).2 =
      recorded.2 ++ failures answer commands := by
  induction commands generalizing recorded with
  | nil => exact (List.append_nil _).symm
  | cons command commands ih =>
    rw [List.map_cons, List.map_cons, List.foldl_cons, ih, recordAnswer, failures, failures]
    cases hanswer : answer command with
    | error message =>
      rw [List.filterMap_cons_some (by rw [hanswer])]
      dsimp only
      rw [List.append_assoc]
      rfl
    | ok output =>
      rw [List.filterMap_cons_none (by rw [hanswer])]

lemma errors_sentResult {result : Envelope} (h : result.errors = []) (commands : List String) :
    (sentResult answer result (commands.map (fun command => (command, command)))).errors =
      failures answer commands := by
  rw [sentResult]
  dsimp only
  rw [h, errors_recorded, List.nil_append, List.nil_append]

lemma failures_append (commands commands' : List String) :
    failures answer (commands ++ commands') =
      failures answer commands ++ failures answer commands' :=
  List.filterMap_append ..

end Answers

section Templates

variable (world : World) (answer : String → Except String String) (parseTemplate : ParseTemplate)
variable (device platform : String)

/-- The names of the arguments that a call of `run_template` has of its own. -/
def callNames : List String := ["device_name", "template_name", "platform", "sender"]

/-- An entry that a batch can be asked about: its template is registered on the platform, probes
are allowed if it is one, and no parameter has the name of another argument. -/
structure EntryFits (entry : ManifestEntry) : Prop where
  supported : Platforms.supportsTemplate platform entry.1 = true
  probes : Platforms.activeProbe platform entry.1 = true → world.probesAllowed = true
  named : ∀ name ∈ entry.2.map Prod.fst, name ∉ callNames

/-- The rendered command of an entry, or the message of the `TemplateValidationError`. -/
def renderAnswer (entry : ManifestEntry) : Except String String :=
  match renderCommand platform entry.1 entry.2 with
  | .ok command => .ok command
  | .error (.validation message) => .error message
  | .error _ => .error ""

variable {world platform} {entry : ManifestEntry}

lemma templateFor_of_supports {templateName : String}
    (h : Platforms.supportsTemplate platform templateName = true) :
    ∃ template, templateFor platform templateName = .ok template := by
  rw [Platforms.supportsTemplate] at h
  obtain ⟨template, htemplate⟩ := Option.isSome_iff_exists.mp h
  refine ⟨template, ?_⟩
  rw [templateFor]
  dsimp only
  rw [htemplate]

lemma supports_of_templateFor {templateName : String} {template : Template}
    (h : templateFor platform templateName = .ok template) :
    Platforms.supportsTemplate platform templateName = true := by
  rw [templateFor] at h
  rw [Platforms.supportsTemplate]
  split at h
  · rename_i found hfound
    rw [hfound]
    rfl
  · cases h

lemma known_of_supports {templateName : String}
    (h : Platforms.supportsTemplate platform templateName = true) :
    platform ∈ Platforms.knownPlatforms := by
  have hregistered : ∀ entry ∈ platformTemplates, entry.1 ∈ Platforms.knownPlatforms := by decide
  rw [Platforms.supportsTemplate] at h
  cases hplatform : platformTemplates.lookup platform with
  | none =>
    rw [hplatform] at h
    cases h
  | some templates => exact hregistered _ (ListSearch.mem_of_lookup hplatform)

lemma gives_callRender (h : EntryFits world platform entry) :
    Gives (callRender platform entry) (.ok (renderAnswer platform entry)) := by
  have hplain : ¬("platform" ∈ entry.2.map Prod.fst ∨ "template_name" ∈ entry.2.map Prod.fst) := by
    rintro (hmem | hmem)
    · exact h.named _ hmem (by decide)
    · exact h.named _ hmem (by decide)
  rw [callRender, if_neg hplain, renderAnswer]
  obtain ⟨template, htemplate⟩ := templateFor_of_supports h.supported
  cases hrender : renderCommand platform entry.1 entry.2 with
  | ok command => exact gives_pure _
  | error error =>
    obtain ⟨message, rfl⟩ := renderCommand_error htemplate hrender
    exact gives_pure _

lemma isSafe_of_renderAnswer {command : String} (h : renderAnswer platform entry = .ok command) :
    isSafeRenderedCommand command = true ∧
      renderCommand platform entry.1 entry.2 = .ok command := by
  have hrender : renderCommand platform entry.1 entry.2 = .ok command := by
    rw [renderAnswer] at h
    split at h
    · rename_i rendered hrendered
      cases h
      exact hrendered
    · cases h
    · cases h
  obtain ⟨template, values, -, -, -, -, -, hvalid⟩ := renderCommand_ok hrender
  exact ⟨validateRenderedCommand_ok hvalid, hrender⟩

lemma gives_checkRendered (refusal : String → String) (h : EntryFits world platform entry) :
    Gives (checkRendered platform entry refusal) (.ok (renderAnswer platform entry)) := by
  rw [checkRendered]
  apply gives_bind (gives_callRender h)
  cases hanswer : renderAnswer platform entry with
  | error message => exact gives_pure _
  | ok command =>
    dsimp only
    rw [if_pos (isSafe_of_renderAnswer hanswer).1]
    apply gives_bind (gives_emit _)
    exact gives_pure _

lemma gives_checkProbe :
    Gives (checkProbe (world.answeredBy answer) platform entry) (.ok none) := by
  have hsender : ¬(Platforms.activeProbe platform entry.1 = true ∧
      (world.answeredBy answer).sender.isNone = true) := by
    rintro ⟨-, hnone⟩
    cases hnone
  rw [checkProbe, if_neg hsender]
  exact gives_pure none

def aloneEnvelope (world : World) (platform : String) (entry : ManifestEntry) : Envelope :=
  match renderAnswer platform entry with
  | .error message => safeError world "run_template" device message SOURCE_LIVE
  | .ok command =>
    attachParsedTemplate parseTemplate platform entry.1 (sentResult answer
      { baseResult world "run_template" device (sourceFor world) with
        data := [("template", .str entry.1), ("platform", .str platform),
          ("command", .str command)] } [(command, command)])

lemma gives_runTemplate {named : Option String}
    (hplatform : resolvePlatform world named device = platform)
    (h : EntryFits world platform entry) :
    Gives (runTemplate (world.answeredBy answer) parseTemplate device entry named)
      (.ok (aloneEnvelope answer parseTemplate device (world.answeredBy answer) platform
        entry)) := by
  have hresolved : resolvePlatform (world.answeredBy answer) named device = platform := hplatform
  have hprobe : ¬(Platforms.activeProbe platform entry.1 = true ∧
      (!(world.answeredBy answer).probesAllowed) = true) := by
    rintro ⟨hactive, hdenied⟩
    have hallowed : (world.answeredBy answer).probesAllowed = true := h.probes hactive
    rw [hallowed] at hdenied
    cases hdenied
  rw [runTemplate, hresolved]
  dsimp only
  rw [if_neg (not_not.mpr (known_of_supports h.supported)), h.supported, Bool.not_true,
    if_neg Bool.false_ne_true, if_neg hprobe]
  apply gives_bind (gives_checkProbe answer)
  dsimp only
  rw [runRenderedCommand, aloneEnvelope]
  apply gives_bind (gives_checkRendered _ h)
  cases hanswer : renderAnswer platform entry with
  | error message => exact gives_pure _
  | ok command =>
    dsimp only [World.answeredBy]
    apply gives_bind (gives_sendAll answer _ _)
    exact gives_pure _

def entryAnswer (platform : String) (entry : ManifestEntry) : Except String String :=
  match renderAnswer platform entry with
  | .error message => .error (entry.1 ++ ": " ++ message)
  | .ok command => .ok command

def renderedOf (platform : String) (manifest : List ManifestEntry) : List (String × String) :=
  manifest.filterMap (fun entry => (renderAnswer platform entry).toOption.map
    (fun command => (entry.1, command)))

variable {manifest : List ManifestEntry}

lemma gives_authorizeEntry (h : EntryFits world platform entry) :
    Gives (authorizeEntry (world.answeredBy answer) platform entry)
      (.ok (entryAnswer platform entry)) := by
  obtain ⟨template, htemplate⟩ := templateFor_of_supports h.supported
  have hprobe : ¬(Platforms.activeProbe platform entry.1 = true ∧
      (!(world.answeredBy answer).probesAllowed) = true) := by
    rintro ⟨hactive, hdenied⟩
    have hallowed : (world.answeredBy answer).probesAllowed = true := h.probes hactive
    rw [hallowed] at hdenied
    cases hdenied
  rw [authorizeEntry, htemplate]
  dsimp only
  rw [if_neg hprobe]
  apply gives_bind (gives_checkProbe answer)
  dsimp only
  apply gives_bind (gives_checkRendered _ h)
  rw [entryAnswer]
  cases hanswer : renderAnswer platform entry with
  | error message => exact gives_pure _
  | ok command => exact gives_pure _

lemma zip_entryAnswers (manifest : List ManifestEntry) :
    manifest.zip (manifest.map (entryAnswer platform)) =
      manifest.map (fun entry => (entry, entryAnswer platform entry)) := by
  have hboth : (manifest.map id).zip (manifest.map (entryAnswer platform)) =
      manifest.map (fun entry => (id entry, entryAnswer platform entry)) := List.zip_map'
  rw [List.map_id] at hboth
  exact hboth

lemma authorized_map (manifest : List ManifestEntry) :
    authorized manifest (manifest.map (entryAnswer platform)) = renderedOf platform manifest := by
  rw [authorized, zip_entryAnswers, List.filterMap_map, renderedOf]
  congr 1
  funext entry
  rw [Function.comp, entryAnswer]
  cases renderAnswer platform entry <;> rfl

lemma mem_renderedOf {command : String} :
    command ∈ (renderedOf platform manifest).map Prod.snd ↔
      ∃ entry ∈ manifest, renderAnswer platform entry = .ok command := by
  rw [renderedOf, List.map_filterMap, List.mem_filterMap]
  refine exists_congr (fun entry => and_congr_right (fun _ => ?_))
  cases renderAnswer platform entry with
  | error message => simp [Except.toOption]
  | ok rendered => simp [Except.toOption]

def Carries (answer : String → Except String String) (batch : Envelope)
    (commands : List String) : Prop :=
  ∀ command ∈ commands, batch.outputs.lookup command = outputOf answer command

lemma gives_runTemplates (hknown : platform ∈ Platforms.knownPlatforms) (named : Option String)
    (hplatform : resolvePlatform world named device = platform)
    (h : ∀ entry ∈ manifest, EntryFits world platform entry) :
    ∃ batch, Gives (runTemplates (world.answeredBy answer) device manifest named) (.ok batch) ∧
      Carries answer batch ((renderedOf platform manifest).map Prod.snd) := by
  have hresolved : resolvePlatform (world.answeredBy answer) named device = platform := hplatform
  have hanswers : Gives (forEach (authorizeEntry (world.answeredBy answer) platform) manifest)
      (.ok (manifest.map (entryAnswer platform))) :=
    gives_forEach (fun entry hentry => gives_authorizeEntry answer (h entry hentry))
  rw [runTemplates, hresolved]
  dsimp only
  rw [if_neg (not_not.mpr hknown)]
  apply exists_gives_bind hanswers
  rw [authorized_map]
  by_cases hnone : renderedOf platform manifest = []
  · rw [if_pos hnone, hnone]
    exact ⟨_, gives_pure _, fun command hcommand => absurd hcommand List.not_mem_nil⟩
  · rw [if_neg hnone]
    exact ⟨_, gives_sendAll answer _ _, fun command hcommand => lookup_sentResult answer _ hcommand⟩

def cutEnvelope (world : World) (platform : String) (batch : Envelope) (source : String)
    (entry : ManifestEntry) : Envelope :=
  match renderAnswer platform entry with
  | .error message => safeError world "run_template" device message source
  | .ok command =>
    entryFromBatch world parseTemplate device platform entry.1 command batch source

lemma gives_runTemplatesSplit (named : Option String)
    (hplatform : resolvePlatform world named device = platform)
    (hknown : platform ∈ Platforms.knownPlatforms)
    (h : ∀ entry ∈ manifest, EntryFits world platform entry) :
    ∃ batch, Carries answer batch ((renderedOf platform manifest).map Prod.snd) ∧
      Gives (runTemplatesSplit (world.answeredBy answer) parseTemplate device manifest named)
        (.ok (manifest.map (cutEnvelope parseTemplate device (world.answeredBy answer) platform
          batch batch.source))) := by
  have hagain : resolvePlatform world (some platform) device = platform := by
    rw [← hplatform, resolvePlatform_again]
  have hresolved : resolvePlatform (world.answeredBy answer) named device = platform := hplatform
  obtain ⟨batch, hbatch, hcarries⟩ := gives_runTemplates answer device hknown _ hagain h
  refine ⟨batch, hcarries, ?_⟩
  rw [runTemplatesSplit, hresolved]
  apply gives_bind hbatch
  apply gives_forEach
  intro entry hentry
  apply gives_bind (gives_callRender (h entry hentry))
  rw [cutEnvelope]
  cases hanswer : renderAnswer platform entry with
  | error message => exact gives_pure _
  | ok command => exact gives_pure _

end Templates

section Evidence

variable (world : World) (answer : String → Except String String) (parseTemplate : ParseTemplate)
variable (parseIntent : ParseIntent) (device : String)

lemma refused_intentCommands {platform : String} (h : platform ∈ Platforms.knownPlatforms) :
    (intentCommands platform).filter (fun command => !Platforms.isApproved platform command) =
      [] := by
  have hall : ∀ platform ∈ Platforms.knownPlatforms, (intentCommands platform).filter
      (fun command => !Platforms.isApproved platform command) = [] := by decide +kernel
  exact hall platform h

lemma gives_checkCommands (platform : String) (commands : List String) :
    Gives (forEach (checkCommand platform) commands) (.ok (commands.map (fun _ => ()))) :=
  gives_forEach (fun _ _ => gives_emit _)

/-- The one run that the sections are cut out of, `data` being what it starts with. -/
def combinedResult (data : Dict) (commands : List String) : Envelope :=
  sentResult answer
    { baseResult (world.answeredBy answer) "run_approved_commands" device
        (sourceFor (world.answeredBy answer)) with data := data }
    (commands.map (fun command => (command, command)))

def cutSections (platform : String) (combined : Envelope) (source : String) :
    List (String × Envelope) :=
  Platforms.allIntents.map (fun intent => (intent,
    evidenceSection (world.answeredBy answer) parseIntent device platform combined source intent))

lemma gives_collectEvidence (hknown : world.platformFor device ∈ Platforms.knownPlatforms) :
    ∃ evidence, Gives (collectEvidence (world.answeredBy answer) parseIntent device)
        (.ok evidence) ∧
      evidence.sections = cutSections world answer parseIntent device (world.platformFor device)
        (combinedResult world answer device [("commands", .dict [])]
          (intentCommands (world.platformFor device)))
        (sourceFor (world.answeredBy answer)) := by
  have hrun : Gives (runApprovedCommands (world.answeredBy answer) device
      (intentCommands (world.platformFor device)) (world.platformFor device) none)
      (.ok (combinedResult world answer device [("commands", .dict [])]
        (intentCommands (world.platformFor device)))) := by
    rw [runApprovedCommands]
    apply gives_bind (gives_checkCommands _ _)
    rw [refused_intentCommands hknown, if_neg (not_not.mpr rfl)]
    exact gives_sendAll answer _ _
  have hknown' : (world.answeredBy answer).platformFor device ∈ Platforms.knownPlatforms := hknown
  rw [collectEvidence, if_neg (not_not.mpr hknown')]
  apply exists_gives_bind hrun
  exact ⟨_, gives_pure _, rfl⟩

variable {manifest : List ManifestEntry}

def carriedEnvelope (world : World) (platform : String) (combined : Envelope) (source : String)
    (entry : ManifestEntry) : Envelope :=
  match entryAnswer platform entry with
  | .error message => safeError world "run_template" device message source
  | .ok command =>
    entryFromBatch world parseTemplate device platform entry.1 command combined source

lemma map_carriedEnvelope (world : World) (platform : String) (combined : Envelope)
    (source : String) :
    manifest.map (carriedEnvelope parseTemplate device world platform combined source) =
      (manifest.zip (manifest.map (entryAnswer platform))).map fun entry =>
        match entry.2 with
        | .error message => safeError world "run_template" device message source
        | .ok command =>
          entryFromBatch world parseTemplate device platform entry.1.1 command combined source := by
  rw [zip_entryAnswers, List.map_map]
  rfl

def carriedResult (platform : String) (manifest : List ManifestEntry) : Envelope :=
  combinedResult world answer device [("platform", .str platform), ("commands", .dict [])]
    (intentCommands platform ++ (renderedOf platform manifest).map Prod.snd)

lemma gives_collectEvidenceAndTemplates
    (hknown : world.platformFor device ∈ Platforms.knownPlatforms)
    (h : ∀ entry ∈ manifest, EntryFits world (world.platformFor device) entry) :
    ∃ evidence,
      Gives (collectEvidenceAndTemplates (world.answeredBy answer) parseTemplate parseIntent device
          manifest)
        (.ok (evidence, manifest.map (carriedEnvelope parseTemplate device
          (world.answeredBy answer) (world.platformFor device)
          (carriedResult world answer device (world.platformFor device) manifest)
          (sourceFor (world.answeredBy answer))))) ∧
      evidence.sections = cutSections world answer parseIntent device (world.platformFor device)
        (carriedResult world answer device (world.platformFor device) manifest)
        (sourceFor (world.answeredBy answer)) := by
  have hknown' : (world.answeredBy answer).platformFor device ∈ Platforms.knownPlatforms := hknown
  have hanswers : Gives (forEach (authorizeEntry (world.answeredBy answer)
      (world.platformFor device)) manifest)
      (.ok (manifest.map (entryAnswer (world.platformFor device)))) :=
    gives_forEach (fun entry hentry => gives_authorizeEntry answer (h entry hentry))
  have hrun (readTimeout : Option Nat) : Gives (runAuthorized (world.answeredBy answer) device
      (intentCommands (world.platformFor device) ++
        (renderedOf (world.platformFor device) manifest).map Prod.snd)
      (world.platformFor device) readTimeout)
      (.ok (carriedResult world answer device (world.platformFor device) manifest)) := by
    rw [runAuthorized]
    exact gives_sendAll answer _ _
  refine ⟨?_, ?_, ?_⟩
  rotate_left
  · rw [collectEvidenceAndTemplates]
    dsimp only
    rw [if_neg (not_not.mpr hknown')]
    apply gives_bind (gives_checkCommands _ _)
    rw [refused_intentCommands hknown', if_neg (not_not.mpr rfl)]
    apply gives_bind hanswers
    rw [authorized_map, map_carriedEnvelope]
    apply gives_bind (hrun _)
    exact gives_pure _
  · rfl

end Evidence

end NetTools
