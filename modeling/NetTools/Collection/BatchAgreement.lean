import NetTools.Collection.SteadySender

/-!
# A batch against single runs

What a batch gives for each entry of its manifest, and what a collection that carries a manifest
gives for each intent, beside the same asked alone.
-/

namespace NetTools

open Traces Traces.Traced

section Agreement

variable (world : World) (parseTemplate : ParseTemplate) (parseIntent : ParseIntent)
variable (device : String)

/-- `run_template(device_name, template_name, platform=platform, sender=sender, **params)`. -/
def callTemplate (entry : ManifestEntry) (named : Option String) : Run Envelope :=
  if ∃ name ∈ entry.2.map Prod.fst, name ∈ callNames then raise .typeError
  else runTemplate world parseTemplate device entry named

/-- The envelope of an entry in a batch, beside that of the entry alone. -/
structure SameAnswer (alone batched : Envelope) : Prop where
  status : batched.status = alone.status
  data : ∀ key ∈ ["template", "platform", "command", "commands", "parsed", "parse_status"],
    batched.data.lookup key = alone.data.lookup key

def EntriesAgree (manifest : List ManifestEntry) (named : Option String)
    (envelopes : List Envelope) : Prop :=
  List.Forall₂ (fun entry batched => ∃ alone,
    Gives (callTemplate world parseTemplate device entry named) (.ok alone) ∧
      SameAnswer alone batched) manifest envelopes

/-- The section of an intent in a collection with a manifest, beside that without one. -/
structure SameSection (alone batched : Envelope) : Prop where
  status : batched.status = alone.status
  data : ∀ key ∈ ["commands", "parsed"], batched.data.lookup key = alone.data.lookup key
  errors : batched.errors = alone.errors

def SectionsAgree (alone batched : List (String × Envelope)) : Prop :=
  List.Forall₂ (fun entry entry' => entry'.1 = entry.1 ∧ SameSection entry.2 entry'.2) alone batched

def BatchAgrees (manifest : List ManifestEntry) (named : Option String) : Prop :=
  (∃ envelopes,
    Gives (runTemplatesSplit world parseTemplate device manifest named) (.ok envelopes) ∧
    EntriesAgree world parseTemplate device manifest named envelopes) ∧
  ∃ evidence envelopes alone,
    Gives (collectEvidenceAndTemplates world parseTemplate parseIntent device manifest)
      (.ok (evidence, envelopes)) ∧
    EntriesAgree world parseTemplate device manifest none envelopes ∧
    Gives (collectEvidence world parseIntent device) (.ok alone) ∧
    SectionsAgree alone.sections evidence.sections

end Agreement

section Entries

variable {world : World} {answer : String → Except String String} {parseTemplate : ParseTemplate}
variable {device platform : String} {entry : ManifestEntry} {manifest : List ManifestEntry}

lemma gives_callTemplate {named : Option String}
    (hplatform : resolvePlatform world named device = platform)
    (h : EntryFits world platform entry) :
    Gives (callTemplate (world.answeredBy answer) parseTemplate device entry named)
      (.ok (aloneEnvelope answer parseTemplate device (world.answeredBy answer) platform
        entry)) := by
  have hnamed : ¬∃ name ∈ entry.2.map Prod.fst, name ∈ callNames := by
    rintro ⟨name, hname, hmem⟩
    exact h.named name hname hmem
  rw [callTemplate, if_neg hnamed]
  exact gives_runTemplate answer parseTemplate device hplatform h

lemma sameAnswer_attachParsedTemplate {templateName : String} {alone batched : Envelope}
    (hstatus : batched.status = alone.status) (hdata : batched.data = alone.data) :
    SameAnswer (attachParsedTemplate parseTemplate platform templateName alone)
      (attachParsedTemplate parseTemplate platform templateName batched) := by
  have houtput : batched.firstOutput = alone.firstOutput := by
    rw [Envelope.firstOutput, Envelope.firstOutput, Envelope.outputs, Envelope.outputs, hdata]
  constructor
  · exact hstatus
  · intro key _
    rw [attachParsedTemplate, attachParsedTemplate, hstatus, hdata, houtput]

lemma sameAnswer_cutEnvelope (parseTemplate : ParseTemplate) (device : String) (world : World)
    {batch : Envelope} (source : String)
    (hcarries : Carries answer batch ((renderedOf platform manifest).map Prod.snd))
    (hentry : entry ∈ manifest) :
    SameAnswer (aloneEnvelope answer parseTemplate device world platform entry)
      (cutEnvelope parseTemplate device world platform batch source entry) := by
  rw [aloneEnvelope, cutEnvelope]
  cases hanswer : renderAnswer platform entry with
  | error message => exact ⟨rfl, fun _ _ => rfl⟩
  | ok command =>
    have houtput := hcarries command (mem_renderedOf.mpr ⟨entry, hentry, hanswer⟩)
    dsimp only
    rw [entryFromBatch]
    apply sameAnswer_attachParsedTemplate
    · dsimp only
      rw [houtput, (sentResult_single answer _ command command).1]
      rfl
    · dsimp only
      rw [houtput, (sentResult_single answer _ command command).2]
      rfl

lemma split_agrees {named : Option String}
    (hplatform : resolvePlatform world named device = platform)
    (h : ∀ entry ∈ manifest, EntryFits world platform entry)
    (hknown : platform ∈ Platforms.knownPlatforms) :
    ∃ envelopes, Gives (runTemplatesSplit (world.answeredBy answer) parseTemplate device manifest
        named) (.ok envelopes) ∧
      EntriesAgree (world.answeredBy answer) parseTemplate device manifest named envelopes := by
  obtain ⟨batch, hcarries, hgives⟩ :=
    gives_runTemplatesSplit answer parseTemplate device named hplatform hknown h
  refine ⟨_, hgives, ?_⟩
  rw [EntriesAgree, List.forall₂_map_right_iff, List.forall₂_same]
  intro entry hentry
  exact ⟨_, gives_callTemplate hplatform (h entry hentry),
    sameAnswer_cutEnvelope _ _ _ _ hcarries hentry⟩

/-- What `run_template` answers before it renders anything. -/
def RefusedEarly (alone : Envelope) : Prop :=
  (alone.data.lookup "template").isSome = true ∧ alone.data.lookup "command" = none

lemma runTemplate_unknown (parseTemplate : ParseTemplate) (entry : ManifestEntry)
    {named : Option String}
    (hplatform : resolvePlatform world named device = platform)
    (hunknown : platform ∉ Platforms.knownPlatforms) :
    ∃ alone, Gives (runTemplate world parseTemplate device entry named) (.ok alone) ∧
      RefusedEarly alone := by
  rw [runTemplate, hplatform]
  dsimp only
  rw [if_pos hunknown]
  exact ⟨_, gives_pure _, rfl, rfl⟩

lemma runTemplate_denied (parseTemplate : ParseTemplate) {named : Option String}
    (hplatform : resolvePlatform world named device = platform)
    (hsupported : Platforms.supportsTemplate platform entry.1 = true)
    (hactive : Platforms.activeProbe platform entry.1 = true)
    (hdenied : world.probesAllowed = false) :
    ∃ alone, Gives (runTemplate world parseTemplate device entry named) (.ok alone) ∧
      RefusedEarly alone := by
  have hprobe : Platforms.activeProbe platform entry.1 = true ∧ (!world.probesAllowed) = true := by
    rw [hdenied]
    exact ⟨hactive, rfl⟩
  rw [runTemplate, hplatform]
  dsimp only
  rw [if_neg (not_not.mpr (known_of_supports hsupported)), hsupported, Bool.not_true,
    if_neg Bool.false_ne_true, if_pos hprobe]
  exact ⟨_, gives_pure _, rfl, rfl⟩

/-- An envelope of a batch names its command or carries no data at all. -/
def NamesCommand (batched : Envelope) : Prop :=
  batched.data.lookup "template" = none ∨ (batched.data.lookup "command").isSome = true

lemma RefusedEarly.not_same {alone batched : Envelope} (halone : RefusedEarly alone)
    (hbatched : NamesCommand batched) : ¬SameAnswer alone batched := by
  intro hsame
  obtain ⟨htemplate, hcommand⟩ := halone
  rcases hbatched with hnone | hsome
  · rw [← hsame.data "template" (by decide), hnone] at htemplate
    cases htemplate
  · rw [hsame.data "command" (by decide), hcommand] at hsome
    cases hsome

lemma called_of_agrees {named : Option String} {batched : Envelope}
    (h : ∃ alone, Gives (callTemplate world parseTemplate device entry named) (.ok alone) ∧
      SameAnswer alone batched) :
    (∀ name ∈ entry.2.map Prod.fst, name ∉ callNames) ∧
      ∃ alone, Gives (runTemplate world parseTemplate device entry named) (.ok alone) ∧
        SameAnswer alone batched := by
  obtain ⟨alone, hgives, hsame⟩ := h
  by_cases hnamed : ∃ name ∈ entry.2.map Prod.fst, name ∈ callNames
  · rw [callTemplate, if_pos hnamed] at hgives
    cases hgives []
  · rw [callTemplate, if_neg hnamed] at hgives
    refine ⟨?_, alone, hgives, hsame⟩
    intro name hname hmem
    exact hnamed ⟨name, hname, hmem⟩

lemma entryFits_of_agrees {named : Option String} {batched : Envelope}
    (hplatform : resolvePlatform world named device = platform)
    (hsupported : Platforms.supportsTemplate platform entry.1 = true)
    (hbatched : world.probesAllowed = false → Platforms.activeProbe platform entry.1 = true →
      NamesCommand batched)
    (h : ∃ alone, Gives (callTemplate world parseTemplate device entry named) (.ok alone) ∧
      SameAnswer alone batched) : EntryFits world platform entry := by
  obtain ⟨hnamed, alone, hgives, hsame⟩ := called_of_agrees h
  refine ⟨hsupported, ?_, hnamed⟩
  intro hactive
  by_contra hdenied
  rw [Bool.not_eq_true] at hdenied
  obtain ⟨refused, hrefused, hearly⟩ :=
    runTemplate_denied parseTemplate hplatform hsupported hactive hdenied
  have heq := hgives.unique hrefused
  rw [Except.ok.injEq] at heq
  rw [heq] at hsame
  exact hearly.not_same (hbatched hdenied hactive) hsame

lemma unknown_of_templateFor {templateName : String} {error : TemplateError}
    (h : templateFor platform templateName = .error error) :
    ∃ message, error = .unknownTemplate message := by
  rw [templateFor] at h
  split at h
  · cases h
  · cases h
    exact ⟨_, rfl⟩

lemma supports_of_callRender {answered : Except String String} {t : List Effect}
    (h : (callRender platform entry t).1 = .ok answered) :
    Platforms.supportsTemplate platform entry.1 = true := by
  rw [callRender] at h
  split at h
  · cases h
  · cases htemplate : templateFor platform entry.1 with
    | ok template => exact supports_of_templateFor htemplate
    | error error =>
      have hrender : renderCommand platform entry.1 entry.2 = .error error := by
        rw [renderCommand, htemplate]
        rfl
      obtain ⟨message, rfl⟩ := unknown_of_templateFor htemplate
      rw [hrender] at h
      cases h

lemma exists_of_forall₂ {α β : Type} {R S : α → β → Prop} {as : List α} {bs : List β}
    (hR : List.Forall₂ R as bs) (hS : List.Forall₂ S as bs) {a : α} (ha : a ∈ as) :
    ∃ b, R a b ∧ S a b := by
  induction hR with
  | nil => cases ha
  | @cons a' b as bs hfirst hrest ih =>
    obtain ⟨hfirst', hrest'⟩ := List.forall₂_cons.mp hS
    rcases List.mem_cons.mp ha with rfl | hmem
    · exact ⟨b, hfirst, hfirst'⟩
    · exact ih hrest' hmem

lemma fits_of_split {named : Option String} {envelopes : List Envelope}
    (hplatform : resolvePlatform world named device = platform)
    (hgives : Gives (runTemplatesSplit world parseTemplate device manifest named) (.ok envelopes))
    (hagree : EntriesAgree world parseTemplate device manifest named envelopes) :
    ∀ entry ∈ manifest, EntryFits world platform entry := by
  have hrun := hgives []
  rw [runTemplatesSplit, hplatform] at hrun
  obtain ⟨batch, t, -, hloop⟩ := of_bind_ok hrun
  have hcut := of_forEach_ok hloop
  intro entry hentry
  obtain ⟨batched, ⟨t', hbody⟩, halone⟩ := exists_of_forall₂ hcut hagree hentry
  obtain ⟨answered, t'', hrender, hrest⟩ := of_bind_ok hbody
  have hanswered : (callRender platform entry t').1 = .ok answered := by rw [hrender]
  have hsupported := supports_of_callRender hanswered
  apply entryFits_of_agrees hplatform hsupported _ halone
  intro _ _
  cases answered with
  | error message =>
    cases hrest
    exact .inl rfl
  | ok command =>
    cases hrest
    exact .inr rfl

end Entries

section Sections

variable (world : World) (answer : String → Except String String) (parseIntent : ParseIntent)
variable (device : String)

lemma startsWith_label {command other message : String} (hcommand : ':' ∉ command.toList)
    (hother : ':' ∉ other.toList) :
    pyStartsWith (command ++ ": " ++ message) (other ++ ": ") = true ↔ other = command := by
  have hsep : ": ".toList = [':', ' '] := rfl
  have hhead : ∀ (front rest : List Char), ':' ∉ front →
      (front ++ ':' :: rest).takeWhile (· ≠ ':') = front := by
    intro front rest hfront
    rw [List.takeWhile_append_of_pos, List.takeWhile_cons_of_neg, List.append_nil]
    · simp
    · intro c hc
      have hne : c ≠ ':' := fun heq => hfront (heq ▸ hc)
      simpa using hne
  rw [pyStartsWith, List.isPrefixOf_iff_prefix, String.toList_append, String.toList_append,
    String.toList_append, hsep, List.append_assoc]
  constructor
  · rintro ⟨rest, hrest⟩
    rw [List.append_assoc] at hrest
    have hfront : (other.toList ++ ':' :: ' ' :: rest).takeWhile (· ≠ ':') =
        (command.toList ++ ':' :: ' ' :: message.toList).takeWhile (· ≠ ':') :=
      congrArg (List.takeWhile (· ≠ ':')) hrest
    rw [hhead _ (' ' :: rest) hother, hhead _ (' ' :: message.toList) hcommand] at hfront
    exact String.toList_inj.mp hfront
  · rintro rfl
    exact ⟨message.toList, List.append_assoc _ _ _⟩

lemma filter_failures {commands missing : List String}
    (hcommands : ∀ command ∈ commands, ':' ∉ command.toList)
    (hmissing : ∀ command ∈ missing, ':' ∉ command.toList) :
    (failures answer commands).filter
      (fun error => missing.any (fun command => pyStartsWith error (command ++ ": "))) =
      failures answer (commands.filter (· ∈ missing)) := by
  induction commands with
  | nil => rfl
  | cons command commands ih =>
    rw [List.forall_mem_cons] at hcommands
    have hrest := ih hcommands.2
    rw [failures] at hrest ⊢
    cases hanswer : answer command with
    | ok output =>
      rw [List.filterMap_cons_none (by rw [hanswer]), hrest, List.filter_cons]
      split
      · rw [failures, failures, List.filterMap_cons_none (by rw [hanswer])]
      · rfl
    | error message =>
      have hlabel : missing.any (fun other =>
          pyStartsWith (command ++ ": " ++ message) (other ++ ": ")) =
            decide (command ∈ missing) := by
        rw [Bool.eq_iff_iff, List.any_eq_true, decide_eq_true_eq]
        constructor
        · rintro ⟨other, hother, hstart⟩
          rw [startsWith_label hcommands.1 (hmissing other hother)] at hstart
          exact hstart ▸ hother
        · intro hmem
          exact ⟨command, hmem, (startsWith_label hcommands.1 hcommands.1).mpr rfl⟩
      rw [List.filterMap_cons_some (by rw [hanswer]), List.filter_cons, List.filter_cons, hlabel,
        hrest]
      split
      · rw [failures, failures, List.filterMap_cons_some (by rw [hanswer])]
      · rfl

lemma failures_ne_nil {commands : List String} {command : String} (hmem : command ∈ commands)
    (hfailed : (outputOf answer command).isNone = true) : failures answer commands ≠ [] := by
  intro hnil
  rw [failures, List.filterMap_eq_nil_iff] at hnil
  have hcommand := hnil command hmem
  rw [outputOf] at hfailed
  cases hanswer : answer command with
  | error message =>
    rw [hanswer] at hcommand
    cases hcommand
  | ok output =>
    rw [hanswer] at hfailed
    cases hfailed

def missingOf (commands : List String) : List String :=
  commands.filter (fun command => (outputOf answer command).isNone)

def steadySection (commands sent : List String) : Envelope :=
  { baseResult (world.answeredBy answer) "run_approved_commands" device
      (sourceFor (world.answeredBy answer)) with
    status := if missingOf answer commands = [] then STATUS_SUCCESS else STATUS_ERROR
    data := [("commands", .dict (commands.filterMap
      (fun command => (outputOf answer command).map (fun output => (command, output)))))]
    errors := if missingOf answer commands = [] then []
      else failures answer (sent.filter (· ∈ missingOf answer commands)) }

lemma sectionFromCombined_eq (data : Dict) {commands sent : List String}
    (hsubset : commands ⊆ sent) (hsent : ∀ command ∈ sent, ':' ∉ command.toList) :
    sectionFromCombined (world.answeredBy answer) device commands
      (combinedResult world answer device data sent) =
      steadySection world answer device commands sent := by
  have hlookup : ∀ command ∈ commands,
      (combinedResult world answer device data sent).outputs.lookup command =
        outputOf answer command := by
    intro command hcommand
    apply lookup_sentResult
    rw [List.map_map]
    exact List.mem_map.mpr ⟨command, hsubset hcommand, rfl⟩
  have hmissing : commands.filter (fun command =>
      ((combinedResult world answer device data sent).outputs.lookup command).isNone) =
        missingOf answer commands := by
    apply List.filter_congr
    intro command hcommand
    rw [hlookup command hcommand]
  have hdata : commands.filterMap (fun command =>
      ((combinedResult world answer device data sent).outputs.lookup command).map
        (fun output => (command, output))) = commands.filterMap
          (fun command => (outputOf answer command).map (fun output => (command, output))) := by
    apply List.filterMap_congr
    intro command hcommand
    rw [hlookup command hcommand]
  have herrors : (combinedResult world answer device data sent).errors = failures answer sent :=
    errors_sentResult answer rfl sent
  have hrelated : ((combinedResult world answer device data sent).errors.filter
      (fun error => (missingOf answer commands).any
        (fun command => pyStartsWith error (command ++ ": ")))) =
      failures answer (sent.filter (· ∈ missingOf answer commands)) := by
    rw [herrors]
    apply filter_failures answer hsent
    intro command hcommand
    exact hsent command (hsubset (List.mem_filter.mp hcommand).1)
  rw [sectionFromCombined, steadySection, hmissing, hdata, hrelated]
  by_cases hnone : missingOf answer commands = []
  · simp only [if_pos hnone]
    rfl
  · obtain ⟨command, hcommand⟩ := List.exists_mem_of_ne_nil _ hnone
    obtain ⟨hmem, hfailed⟩ := List.mem_filter.mp hcommand
    have hne : failures answer (sent.filter (· ∈ missingOf answer commands)) ≠ [] := by
      apply failures_ne_nil answer _ hfailed
      exact List.mem_filter.mpr ⟨hsubset hmem, decide_eq_true hcommand⟩
    simp only [if_neg hnone, if_neg hne]
    rfl

lemma sameSection_attachParsed_iff (platform intent : String) {alone batched : Envelope}
    (hstatus : batched.status = alone.status) (hdata : batched.data = alone.data) :
    SameSection (attachParsed parseIntent platform intent alone)
      (attachParsed parseIntent platform intent batched) ↔ batched.errors = alone.errors := by
  have houtputs : batched.outputs = alone.outputs := by
    rw [Envelope.outputs, Envelope.outputs, hdata]
  constructor
  · exact fun h => h.errors
  · intro herrors
    refine ⟨hstatus, ?_, herrors⟩
    intro key _
    rw [attachParsed, attachParsed, hstatus, hdata, houtputs]

variable {platform : String}

lemma colon_not_mem_intentCommands (h : platform ∈ Platforms.knownPlatforms) :
    ∀ command ∈ intentCommands platform, ':' ∉ command.toList := by
  have hall : ∀ platform ∈ Platforms.knownPlatforms, ∀ command ∈ intentCommands platform,
      ':' ∉ command.toList := by decide +kernel
  exact hall platform h

lemma commandsFor_subset {intent : String} (hintent : intent ∈ Platforms.allIntents)
    (hsupported : Platforms.supportsIntent platform intent = true) :
    Platforms.commandsFor platform intent ⊆ intentCommands platform := by
  intro command hcommand
  rw [intentCommands, List.mem_flatMap]
  exact ⟨intent, List.mem_filter.mpr ⟨hintent, hsupported⟩, hcommand⟩

lemma errors_steadySection_iff {commands sent more : List String} :
    (steadySection world answer device commands (sent ++ more)).errors =
        (steadySection world answer device commands sent).errors ↔
      ∀ command ∈ more, command ∉ missingOf answer commands := by
  have herrors : ∀ sent, (steadySection world answer device commands sent).errors =
      if missingOf answer commands = [] then []
      else failures answer (sent.filter (· ∈ missingOf answer commands)) := fun _ => rfl
  rw [herrors, herrors]
  by_cases hnone : missingOf answer commands = []
  · rw [if_pos hnone, if_pos hnone, hnone]
    simp
  · rw [if_neg hnone, if_neg hnone, List.filter_append, failures_append,
      List.append_right_eq_self]
    constructor
    · intro hnil command hcommand hmissing
      have hmem : command ∈ more.filter (· ∈ missingOf answer commands) :=
        List.mem_filter.mpr ⟨hcommand, decide_eq_true hmissing⟩
      exact failures_ne_nil answer hmem (List.mem_filter.mp hmissing).2 hnil
    · intro hall
      have hempty : more.filter (· ∈ missingOf answer commands) = [] := by
        rw [List.filter_eq_nil_iff]
        intro command hcommand
        simpa using hall command hcommand
      rw [hempty]
      rfl

lemma sectionsAgree_iff {data data' : Dict} {source source' : String} {more : List String}
    (hknown : platform ∈ Platforms.knownPlatforms)
    (hmore : ∀ command ∈ more, ':' ∉ command.toList) :
    SectionsAgree
        (cutSections world answer parseIntent device platform
          (combinedResult world answer device data (intentCommands platform)) source)
        (cutSections world answer parseIntent device platform
          (combinedResult world answer device data' (intentCommands platform ++ more)) source') ↔
      ∀ command ∈ more, command ∈ intentCommands platform →
        (outputOf answer command).isNone = false := by
  have hcolon := colon_not_mem_intentCommands hknown
  have hcolons : ∀ command ∈ intentCommands platform ++ more, ':' ∉ command.toList := by
    intro command hcommand
    rcases List.mem_append.mp hcommand with hcommand | hcommand
    · exact hcolon command hcommand
    · exact hmore command hcommand
  have hsection : ∀ intent ∈ Platforms.allIntents,
      Platforms.supportsIntent platform intent = true →
      (SameSection
        (evidenceSection (world.answeredBy answer) parseIntent device platform
          (combinedResult world answer device data (intentCommands platform)) source intent)
        (evidenceSection (world.answeredBy answer) parseIntent device platform
          (combinedResult world answer device data' (intentCommands platform ++ more)) source'
          intent) ↔
        ∀ command ∈ more, command ∉ missingOf answer (Platforms.commandsFor platform intent)) := by
    intro intent hintent hsupported
    have hsubset := commandsFor_subset hintent hsupported
    rw [evidenceSection, evidenceSection, if_pos hsupported, if_pos hsupported,
      sectionFromCombined_eq world answer device data hsubset hcolon,
      sectionFromCombined_eq world answer device data'
        (List.Subset.trans hsubset (List.subset_append_left _ _)) hcolons]
    refine Iff.trans (sameSection_attachParsed_iff parseIntent platform intent ?_ ?_)
      (errors_steadySection_iff world answer device)
    · rfl
    · rfl
  rw [SectionsAgree, cutSections, cutSections, List.forall₂_map_left_iff,
    List.forall₂_map_right_iff, List.forall₂_same]
  constructor
  · intro hall command hcommand hintended
    rw [intentCommands, List.mem_flatMap] at hintended
    obtain ⟨intent, hintent, hmem⟩ := hintended
    obtain ⟨hintent, hsupported⟩ := List.mem_filter.mp hintent
    have hkept := (hsection intent hintent hsupported).mp (hall intent hintent).2 command hcommand
    rw [missingOf, List.mem_filter, not_and] at hkept
    rw [← Bool.not_eq_true]
    exact hkept hmem
  · intro hall intent hintent
    refine ⟨rfl, ?_⟩
    cases hsupported : Platforms.supportsIntent platform intent with
    | true =>
      rw [hsection intent hintent hsupported]
      intro command hcommand hmissing
      obtain ⟨hmem, hfailed⟩ := List.mem_filter.mp hmissing
      have hanswered := hall command hcommand (commandsFor_subset hintent hsupported hmem)
      rw [hanswered] at hfailed
      cases hfailed
    | false =>
      rw [evidenceSection, evidenceSection, if_neg (by rw [hsupported]; exact Bool.false_ne_true),
        if_neg (by rw [hsupported]; exact Bool.false_ne_true)]
      refine (sameSection_attachParsed_iff parseIntent platform intent ?_ ?_).mpr rfl
      · rfl
      · rfl

end Sections

section Carried

variable {world : World} {answer : String → Except String String} {parseTemplate : ParseTemplate}
variable {parseIntent : ParseIntent} {device platform : String} {manifest : List ManifestEntry}

lemma sameAnswer_carriedEnvelope (world : World) {combined : Envelope} (source : String)
    (hcarries : Carries answer combined ((renderedOf platform manifest).map Prod.snd))
    {entry : ManifestEntry} (hentry : entry ∈ manifest) :
    SameAnswer (aloneEnvelope answer parseTemplate device world platform entry)
      (carriedEnvelope parseTemplate device world platform combined source entry) := by
  have hcut := sameAnswer_cutEnvelope parseTemplate device world source hcarries hentry
  rw [aloneEnvelope, cutEnvelope] at hcut
  rw [aloneEnvelope, carriedEnvelope, entryAnswer]
  cases hanswer : renderAnswer platform entry with
  | error message => exact ⟨rfl, fun _ _ => rfl⟩
  | ok command =>
    rw [hanswer] at hcut
    exact hcut

lemma carries_carriedResult (world : World) :
    Carries answer (carriedResult world answer device platform manifest)
      ((renderedOf platform manifest).map Prod.snd) := by
  intro command hcommand
  apply lookup_sentResult
  rw [List.map_map]
  exact List.mem_map.mpr ⟨command, List.mem_append_right _ hcommand, rfl⟩

lemma colon_not_mem_renderedOf :
    ∀ command ∈ (renderedOf platform manifest).map Prod.snd, ':' ∉ command.toList := by
  intro command hcommand
  obtain ⟨entry, -, hanswer⟩ := mem_renderedOf.mp hcommand
  exact colon_not_mem_renderCommand (isSafe_of_renderAnswer hanswer).2

/-- A command of the manifest that an intent has as well is one that the sender answers. -/
def RepeatsAnswered (answer : String → Except String String) (platform : String)
    (manifest : List ManifestEntry) : Prop :=
  ∀ entry ∈ manifest, ∀ command, renderCommand platform entry.1 entry.2 = .ok command →
    command ∈ intentCommands platform → ∃ output, answer command = .ok output

lemma repeatsAnswered_iff : RepeatsAnswered answer platform manifest ↔
    ∀ command ∈ (renderedOf platform manifest).map Prod.snd, command ∈ intentCommands platform →
      (outputOf answer command).isNone = false := by
  have hanswered : ∀ command, (∃ output, answer command = .ok output) ↔
      (outputOf answer command).isNone = false := by
    intro command
    rw [outputOf]
    cases answer command with
    | error message => simp [Except.toOption]
    | ok output => simp [Except.toOption]
  constructor
  · intro h command hcommand hintended
    obtain ⟨entry, hentry, hanswer⟩ := mem_renderedOf.mp hcommand
    exact (hanswered command).mp
      (h entry hentry command (isSafe_of_renderAnswer hanswer).2 hintended)
  · intro h entry hentry command hrender hintended
    have hanswer : renderAnswer platform entry = .ok command := by
      rw [renderAnswer, hrender]
    exact (hanswered command).mpr
      (h command (mem_renderedOf.mpr ⟨entry, hentry, hanswer⟩) hintended)

lemma collect_agrees_iff (hknown : world.platformFor device ∈ Platforms.knownPlatforms)
    (h : ∀ entry ∈ manifest, EntryFits world (world.platformFor device) entry) :
    (∃ evidence envelopes alone,
      Gives (collectEvidenceAndTemplates (world.answeredBy answer) parseTemplate parseIntent device
          manifest) (.ok (evidence, envelopes)) ∧
        EntriesAgree (world.answeredBy answer) parseTemplate device manifest none envelopes ∧
        Gives (collectEvidence (world.answeredBy answer) parseIntent device) (.ok alone) ∧
        SectionsAgree alone.sections evidence.sections) ↔
      RepeatsAnswered answer (world.platformFor device) manifest := by
  obtain ⟨evidence, hgives, hsections⟩ :=
    gives_collectEvidenceAndTemplates world answer parseTemplate parseIntent device hknown h
  obtain ⟨alone, halone, hsections'⟩ := gives_collectEvidence world answer parseIntent device hknown
  have hagree : SectionsAgree alone.sections evidence.sections ↔
      RepeatsAnswered answer (world.platformFor device) manifest := by
    rw [hsections, hsections', repeatsAnswered_iff]
    exact sectionsAgree_iff world answer parseIntent device hknown colon_not_mem_renderedOf
  rw [← hagree]
  constructor
  · rintro ⟨evidence', envelopes', alone', hgives', -, halone', hsame⟩
    have hboth := hgives.unique hgives'
    have heq := halone.unique halone'
    rw [Except.ok.injEq, Prod.mk.injEq] at hboth
    rw [Except.ok.injEq] at heq
    rw [hboth.1, heq]
    exact hsame
  · intro hsame
    refine ⟨evidence, _, alone, hgives, ?_, halone, hsame⟩
    rw [EntriesAgree, List.forall₂_map_right_iff, List.forall₂_same]
    intro entry hentry
    exact ⟨_, gives_callTemplate rfl (h entry hentry),
      sameAnswer_carriedEnvelope _ _ (carries_carriedResult world) hentry⟩

lemma supports_of_authorizeEntry {entry : ManifestEntry} {answered : Except String String}
    {t : List Effect} (h : (authorizeEntry world platform entry t).1 = .ok answered) :
    Platforms.supportsTemplate platform entry.1 = true := by
  rw [authorizeEntry] at h
  cases htemplate : templateFor platform entry.1 with
  | ok template => exact supports_of_templateFor htemplate
  | error error =>
    rw [htemplate] at h
    cases h

lemma forall₂_map_zip {α β γ : Type} {R : α → β → Prop} (g : α × β → γ) {as : List α}
    {bs : List β} (h : List.Forall₂ R as bs) :
    List.Forall₂ (fun a c => ∃ b, c = g (a, b)) as ((as.zip bs).map g) := by
  induction h with
  | nil => exact .nil
  | cons _ _ ih => exact .cons ⟨_, rfl⟩ ih

lemma fits_of_collect {evidence : CollectedEvidence} {envelopes : List Envelope}
    (hgives : Gives (collectEvidenceAndTemplates world parseTemplate parseIntent device manifest)
      (.ok (evidence, envelopes)))
    (hagree : EntriesAgree world parseTemplate device manifest none envelopes) :
    ∀ entry ∈ manifest, EntryFits world (world.platformFor device) entry := by
  have hrun := hgives []
  rw [collectEvidenceAndTemplates] at hrun
  dsimp only at hrun
  intro entry hentry
  by_cases hknown : world.platformFor device ∈ Platforms.knownPlatforms
  · rw [if_neg (not_not.mpr hknown)] at hrun
    obtain ⟨checked, t, -, hrun⟩ := of_bind_ok hrun
    rw [refused_intentCommands hknown, if_neg (not_not.mpr rfl)] at hrun
    obtain ⟨answers, t', hloop, hrun⟩ := of_bind_ok hrun
    obtain ⟨combined, t'', -, hrun⟩ := of_bind_ok hrun
    cases hrun
    have hanswers : (forEach (authorizeEntry world (world.platformFor device)) manifest t).1 =
        .ok answers := by rw [hloop]
    have hasked := of_forEach_ok hanswers
    obtain ⟨answered, ⟨t₁, hauthorize⟩, -⟩ := exists_of_forall₂ hasked hasked hentry
    have hsupported := supports_of_authorizeEntry hauthorize
    obtain ⟨batched, ⟨answered', rfl⟩, halone⟩ :=
      exists_of_forall₂ (forall₂_map_zip _ hasked) hagree hentry
    have hplatform : resolvePlatform world none device = world.platformFor device := rfl
    apply entryFits_of_agrees hplatform hsupported _ halone
    intro _ _
    cases answered' with
    | error message => exact .inl rfl
    | ok command => exact .inr rfl
  · rw [if_pos hknown] at hrun
    cases hrun
    rw [EntriesAgree, List.forall₂_map_right_iff, List.forall₂_same] at hagree
    obtain ⟨-, alone, halone, hsame⟩ := called_of_agrees (hagree entry hentry)
    obtain ⟨refused, hrefused, hearly⟩ :=
      runTemplate_unknown parseTemplate entry (rfl : resolvePlatform world none device = _) hknown
    have heq := halone.unique hrefused
    rw [Except.ok.injEq] at heq
    rw [heq] at hsame
    exact absurd hsame (hearly.not_same (.inl rfl))

/-- What a batch must be like to be collected as its entries are alone. -/
structure BatchFits (world : World) (answer : String → Except String String) (device : String)
    (manifest : List ManifestEntry) (named : Option String) : Prop where
  split : ∀ entry ∈ manifest, EntryFits world (resolvePlatform world named device) entry
  carried : ∀ entry ∈ manifest, EntryFits world (world.platformFor device) entry
  repeated : RepeatsAnswered answer (world.platformFor device) manifest

lemma split_agrees_nil {named : Option String}
    (hunknown : resolvePlatform world named device ∉ Platforms.knownPlatforms) :
    ∃ envelopes, Gives (runTemplatesSplit (world.answeredBy answer) parseTemplate device [] named)
        (.ok envelopes) ∧
      EntriesAgree (world.answeredBy answer) parseTemplate device [] named envelopes := by
  have hagain : resolvePlatform (world.answeredBy answer)
      (some (resolvePlatform (world.answeredBy answer) named device)) device =
        resolvePlatform world named device := resolvePlatform_again world named device
  have hbatch : ∃ batch, Gives (runTemplates (world.answeredBy answer) device []
      (some (resolvePlatform (world.answeredBy answer) named device))) (.ok batch) := by
    rw [runTemplates, hagain]
    dsimp only
    rw [if_pos hunknown]
    exact ⟨_, gives_pure _⟩
  obtain ⟨batch, hbatch⟩ := hbatch
  refine ⟨[], ?_, .nil⟩
  rw [runTemplatesSplit]
  apply gives_bind hbatch
  exact gives_pure []

lemma collect_agrees_nil (hunknown : world.platformFor device ∉ Platforms.knownPlatforms) :
    ∃ evidence envelopes alone,
      Gives (collectEvidenceAndTemplates (world.answeredBy answer) parseTemplate parseIntent device
          []) (.ok (evidence, envelopes)) ∧
        EntriesAgree (world.answeredBy answer) parseTemplate device [] none envelopes ∧
        Gives (collectEvidence (world.answeredBy answer) parseIntent device) (.ok alone) ∧
        SectionsAgree alone.sections evidence.sections := by
  have hunknown' : (world.answeredBy answer).platformFor device ∉ Platforms.knownPlatforms :=
    hunknown
  have hsame : ∀ sections : List (String × Envelope), SectionsAgree sections sections := by
    intro sections
    rw [SectionsAgree, List.forall₂_same]
    exact fun _ _ => ⟨rfl, rfl, fun _ _ => rfl, rfl⟩
  let evidence := unknownEvidence (world.answeredBy answer) parseIntent device
    ((world.answeredBy answer).platformFor device)
  refine ⟨evidence, [], evidence, ?_, .nil, ?_, hsame _⟩
  · rw [collectEvidenceAndTemplates]
    dsimp only
    rw [if_pos hunknown']
    exact gives_pure _
  · rw [collectEvidence, if_pos hunknown']
    exact gives_pure _

lemma eq_nil_of_fits (hunknown : platform ∉ Platforms.knownPlatforms)
    (h : ∀ entry ∈ manifest, EntryFits world platform entry) : manifest = [] := by
  rw [List.eq_nil_iff_forall_not_mem]
  intro entry hentry
  exact hunknown (known_of_supports (h entry hentry).supported)

/-- A batch is collected as its entries are alone exactly when every entry fits, on the platform
named and on that of the device, and no command of an intent that fails is in it. -/
theorem batchAgrees_iff (world : World) (answer : String → Except String String)
    (parseTemplate : ParseTemplate) (parseIntent : ParseIntent) (device : String)
    (manifest : List ManifestEntry) (named : Option String) :
    BatchAgrees (world.answeredBy answer) parseTemplate parseIntent device manifest named ↔
      BatchFits world answer device manifest named := by
  constructor
  · rintro ⟨⟨envelopes, hsplit, hagree⟩, evidence, carried, alone, hcollect, hcarried, hrest⟩
    have hfits : ∀ entry ∈ manifest, EntryFits world (resolvePlatform world named device) entry :=
      fun entry hentry =>
        have hentry := fits_of_split rfl hsplit hagree entry hentry
        ⟨hentry.supported, hentry.probes, hentry.named⟩
    have hfits' : ∀ entry ∈ manifest, EntryFits world (world.platformFor device) entry :=
      fun entry hentry =>
        have hentry := fits_of_collect hcollect hcarried entry hentry
        ⟨hentry.supported, hentry.probes, hentry.named⟩
    refine ⟨hfits, hfits', ?_⟩
    by_cases hknown : world.platformFor device ∈ Platforms.knownPlatforms
    · exact (collect_agrees_iff hknown hfits').mp
        ⟨evidence, carried, alone, hcollect, hcarried, hrest⟩
    · rw [eq_nil_of_fits hknown hfits']
      exact fun entry hentry => absurd hentry List.not_mem_nil
  · rintro ⟨hsplit, hcarried, hrepeated⟩
    constructor
    · by_cases hknown : resolvePlatform world named device ∈ Platforms.knownPlatforms
      · exact split_agrees rfl hsplit hknown
      · rw [eq_nil_of_fits hknown hsplit]
        exact split_agrees_nil hknown
    · by_cases hknown : world.platformFor device ∈ Platforms.knownPlatforms
      · exact (collect_agrees_iff hknown hcarried).mpr hrepeated
      · rw [eq_nil_of_fits hknown hcarried]
        exact collect_agrees_nil hknown

end Carried

def junosWorld : World :=
  { platformFor := fun _ => "juniper_junos"
    timestamp := "2026-01-01T00:00:00+00:00"
    probesAllowed := true
    probeBudget := fun _ => none
    getDevice := fun _ => .error "no inventory"
    session := fun _ _ => .ok { outputs := [] }
    sender := none }

/-- A template that Junos does not have is unsupported alone and ends the batch. -/
theorem not_batchAgrees_junosRoute :
    (∃ alone, Gives (callTemplate (junosWorld.answeredBy .ok)
        (fun _ _ _ => (none, "unavailable")) "p1" ("route", [("prefix", .str "10.0.0.0/8")]) none)
        (.ok alone) ∧ alone.status = STATUS_UNSUPPORTED) ∧
    ¬BatchAgrees (junosWorld.answeredBy .ok) (fun _ _ _ => (none, "unavailable"))
      (fun _ _ _ => (none, "unavailable")) "p1" [("route", [("prefix", .str "10.0.0.0/8")])]
      none := by
  constructor
  · have hnamed : ¬∃ name ∈ [("prefix", Value.str "10.0.0.0/8")].map Prod.fst,
        name ∈ callNames := by decide
    rw [callTemplate, if_neg hnamed]
    exact ⟨_, fun _ => rfl, rfl⟩
  · rintro ⟨⟨envelopes, hgives, hagree⟩, -⟩
    have hfits := fits_of_split rfl hgives hagree _ List.mem_cons_self
    have hunsupported : Platforms.supportsTemplate "juniper_junos" "route" = false := by decide
    have hsupported : Platforms.supportsTemplate "juniper_junos" "route" = true := hfits.supported
    rw [hunsupported] at hsupported
    cases hsupported

end NetTools
