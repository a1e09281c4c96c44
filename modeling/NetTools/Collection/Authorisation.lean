import NetTools.Collection.TemplateRuns
import NetTools.Templates.Soundness

/-!
# Nothing unauthorised reaches a device

Each of the six ways in first checks, and then sends: the trace of a call is a list of checks with
what they let through after it.
-/

namespace NetTools

open Traces Traces.Traced

def Effect.readsCredentials : Effect → Bool
  | getDevice => true
  | _ => false

def Passed (checks : List Effect) (command : String) : Prop :=
  .approved command ∈ checks ∨ ∃ templateName params, .rendered templateName params command ∈ checks

variable (world : World) (platform : String)

/-- Only a command of the platform's allowlist, or the rendering of a registered template, is handed
over. All checks come before anything else, a refused command silences the call, and a probe needs
the permission and, without a sender, a budget. -/
structure Authorised (trace : List Effect) : Prop where
  commands : ∀ effect ∈ trace, ∀ command ∈ effect.commands,
    command ∈ Platforms.approvedCommands platform ∨
      ∃ templateName params, renderCommand platform templateName params = .ok command
  passed : ∀ before effect after, trace = before ++ effect :: after →
    ∀ command ∈ effect.commands, Passed before command
  last : ∀ before effect after, trace = before ++ effect :: after → effect.isCheck = false →
    ∀ later ∈ after, later.isCheck = false
  once : (trace.filter Effect.readsCredentials).length ≤ 1
  silent : ∀ command, .refused command ∈ trace → ∀ effect ∈ trace, effect.isCheck = true
  probes : ∀ before effect after, trace = before ++ effect :: after →
    ∀ command ∈ effect.commands, ∀ templateName params,
      Platforms.activeProbe platform templateName = true →
      renderCommand platform templateName params = .ok command →
      world.probesAllowed = true ∧ (world.sender = none →
        ∃ params', .probeBudget templateName params' true ∈ before ∧
          renderCommand platform templateName params' = .ok command)

/-- The checks that a call has made, none of them a refusal of a command. -/
structure Cleared (checks : List Effect) : Prop where
  check : ∀ effect ∈ checks, effect.isCheck = true
  approved : ∀ command, .approved command ∈ checks → command ∈ Platforms.approvedCommands platform
  rendered : ∀ templateName params command, .rendered templateName params command ∈ checks →
    renderCommand platform templateName params = .ok command ∧
      (Platforms.activeProbe platform templateName = true → world.probesAllowed = true ∧
        (world.sender = none → .probeBudget templateName params true ∈ checks))
  unrefused : ∀ command, .refused command ∉ checks

structure Sends (checks sends : List Effect) : Prop where
  send : ∀ effect ∈ sends, effect.isCheck = false
  passed : ∀ effect ∈ sends, ∀ command ∈ effect.commands, Passed checks command
  once : (sends.filter Effect.readsCredentials).length ≤ 1

variable {world platform}

lemma cleared_nil : Cleared world platform [] := by
  constructor <;> simp

lemma Cleared.append {checks checks' : List Effect} (h : Cleared world platform checks)
    (h' : Cleared world platform checks') : Cleared world platform (checks ++ checks') := by
  constructor
  · intro effect heffect
    rw [List.mem_append] at heffect
    exact heffect.elim (h.check effect) (h'.check effect)
  · intro command hcommand
    rw [List.mem_append] at hcommand
    exact hcommand.elim (h.approved command) (h'.approved command)
  · intro templateName params command hcommand
    rw [List.mem_append] at hcommand
    rcases hcommand with hcommand | hcommand
    · obtain ⟨hrender, hprobe⟩ := h.rendered _ _ _ hcommand
      refine ⟨hrender, fun hactive => ⟨(hprobe hactive).1, fun hlive => ?_⟩⟩
      exact List.mem_append_left _ ((hprobe hactive).2 hlive)
    · obtain ⟨hrender, hprobe⟩ := h'.rendered _ _ _ hcommand
      refine ⟨hrender, fun hactive => ⟨(hprobe hactive).1, fun hlive => ?_⟩⟩
      exact List.mem_append_right _ ((hprobe hactive).2 hlive)
  · intro command hcommand
    rw [List.mem_append] at hcommand
    exact hcommand.elim (h.unrefused command) (h'.unrefused command)

lemma commands_of_check {effect : Effect} (h : effect.isCheck = true) : effect.commands = [] := by
  cases effect <;> simp_all [Effect.isCheck, Effect.commands]

/-! ### The verb tells the probes apart -/

def verbOf (command : String) : Option (List Char) := (command.toList.splitOn ' ').head?

lemma verbOf_render {templateName command : String} {params : List (String × Value)}
    (h : renderCommand platform templateName params = .ok command) :
    ∃ template, templateFor platform templateName = .ok template ∧
      verbOf command = verbOf template.formatString := by
  obtain ⟨template, values, htemplate, -, -, hvalues, hformat, -⟩ := renderCommand_ok h
  have hwell := wellFormed_of_templateFor htemplate
  have hsplit := splitOn_of_formatWith hwell (renderParams_ok hvalues).2 hformat
  obtain ⟨verb, -, hhead, hscan⟩ := hwell.verb
  refine ⟨template, htemplate, ?_⟩
  rw [verbOf, verbOf, hsplit, List.head?_map, hhead, Option.map_some, hscan, flatMap_literal]

lemma verbOf_approved : ∀ command ∈ Platforms.approvedCommands "cisco_xr",
    verbOf command = some "show".toList := by
  decide +kernel

lemma verbOf_registered : ∀ entry ∈ ciscoXrTemplates, ∀ probe ∈ ["ping", "traceroute"],
    verbOf entry.2.formatString = some probe.toList ↔ entry.1 = probe := by
  decide +kernel

lemma mem_ciscoXrTemplates {templateName : String} {template : Template}
    (h : templateFor "cisco_xr" templateName = .ok template) :
    (templateName, template) ∈ ciscoXrTemplates := by
  rw [templateFor] at h
  split at h
  · rename_i found hfound
    cases h
    exact ListSearch.mem_of_lookup hfound
  · cases h

lemma activeProbe_iff {templateName : String} :
    Platforms.activeProbe platform templateName = true ↔
      platform = "cisco_xr" ∧ templateName ∈ ["ping", "traceroute"] := by
  simp [Platforms.activeProbe]

lemma templateName_of_verb {templateName probe command : String} {params : List (String × Value)}
    (hprobe : probe ∈ ["ping", "traceroute"])
    (h : renderCommand "cisco_xr" templateName params = .ok command) :
    verbOf command = some probe.toList ↔ templateName = probe := by
  obtain ⟨template, htemplate, hverb⟩ := verbOf_render h
  rw [hverb]
  exact verbOf_registered _ (mem_ciscoXrTemplates htemplate) probe hprobe

lemma rendered_of_passed {checks : List Effect} (h : Cleared world platform checks)
    {templateName command : String} {params : List (String × Value)} (hpassed : Passed checks command)
    (hactive : Platforms.activeProbe platform templateName = true)
    (hrender : renderCommand platform templateName params = .ok command) :
    ∃ params', .rendered templateName params' command ∈ checks := by
  obtain ⟨rfl, hprobe⟩ := activeProbe_iff.mp hactive
  have hverb := (templateName_of_verb hprobe hrender).mpr rfl
  rcases hpassed with happroved | ⟨other, params', hrendered⟩
  · have hshow := verbOf_approved command (h.approved command happroved)
    rw [hshow] at hverb
    exfalso
    rcases List.mem_pair.mp hprobe with rfl | rfl
    · exact absurd hverb (by decide)
    · exact absurd hverb (by decide)
  · have hname := (templateName_of_verb hprobe (h.rendered _ _ _ hrendered).1).mp hverb
    rw [hname] at hrendered
    exact ⟨params', hrendered⟩

lemma split_after_checks {checks sends before after : List Effect} {effect : Effect}
    (hchecks : ∀ effect ∈ checks, effect.isCheck = true) (heffect : effect.isCheck = false)
    (h : checks ++ sends = before ++ effect :: after) :
    ∃ middle, before = checks ++ middle ∧ sends = middle ++ effect :: after := by
  rcases List.append_eq_append_iff.mp h with ⟨middle, hbefore, hsends⟩ | ⟨rest, hcut, hrest⟩
  · exact ⟨middle, hbefore, hsends⟩
  · cases rest with
    | nil =>
      rw [List.append_nil] at hcut
      refine ⟨[], ?_, hrest.symm⟩
      rw [hcut, List.append_nil]
    | cons first rest =>
      rw [List.cons_append, List.cons.injEq] at hrest
      have hmem : effect ∈ checks := by
        rw [hcut, hrest.1]
        exact List.mem_append_right _ List.mem_cons_self
      rw [hchecks effect hmem] at heffect
      cases heffect

theorem authorised_of {checks sends : List Effect} (h : Cleared world platform checks)
    (hsends : Sends checks sends) : Authorised world platform (checks ++ sends) := by
  have hnocheck : ∀ {effect : Effect} {command : String}, command ∈ effect.commands →
      effect.isCheck = false := by
    intro effect command hcommand
    by_contra hcheck
    rw [commands_of_check (eq_true_of_ne_false hcheck)] at hcommand
    cases hcommand
  have hpassed : ∀ {command : String}, Passed checks command →
      command ∈ Platforms.approvedCommands platform ∨
        ∃ templateName params, renderCommand platform templateName params = .ok command := by
    rintro command (happroved | ⟨templateName, params, hrendered⟩)
    · exact .inl (h.approved command happroved)
    · exact .inr ⟨templateName, params, (h.rendered _ _ _ hrendered).1⟩
  constructor
  · intro effect heffect command hcommand
    rw [List.mem_append] at heffect
    rcases heffect with heffect | heffect
    · rw [commands_of_check (h.check effect heffect)] at hcommand
      cases hcommand
    · exact hpassed (hsends.passed effect heffect command hcommand)
  · intro before effect after htrace command hcommand
    obtain ⟨middle, rfl, rfl⟩ := split_after_checks h.check (hnocheck hcommand) htrace
    have hmem : effect ∈ middle ++ effect :: after := by simp
    rcases hsends.passed effect hmem command hcommand with happroved | ⟨name, params, hrendered⟩
    · exact .inl (List.mem_append_left _ happroved)
    · exact .inr ⟨name, params, List.mem_append_left _ hrendered⟩
  · intro before effect after htrace hcheck later hlater
    obtain ⟨middle, rfl, rfl⟩ := split_after_checks h.check hcheck htrace
    exact hsends.send later (by simp [hlater])
  · have hnone : checks.filter Effect.readsCredentials = [] := by
      rw [List.filter_eq_nil_iff]
      intro effect heffect hreads
      have hcheck := h.check effect heffect
      cases effect <;> simp_all [Effect.readsCredentials, Effect.isCheck]
    rw [List.filter_append, hnone, List.nil_append]
    exact hsends.once
  · intro command hcommand effect heffect
    rw [List.mem_append] at hcommand
    rcases hcommand with hcommand | hcommand
    · exact absurd hcommand (h.unrefused command)
    · have hsend := hsends.send _ hcommand
      cases hsend
  · intro before effect after htrace command hcommand templateName params hactive hrender
    obtain ⟨middle, rfl, rfl⟩ := split_after_checks h.check (hnocheck hcommand) htrace
    have hmem : effect ∈ middle ++ effect :: after := by simp
    obtain ⟨params', hrendered⟩ := rendered_of_passed h (hsends.passed effect hmem command hcommand)
      hactive hrender
    obtain ⟨hrender', hprobe⟩ := h.rendered _ _ _ hrendered
    obtain ⟨hallowed, hbudget⟩ := hprobe hactive
    exact ⟨hallowed, fun hlive =>
      ⟨params', List.mem_append_left _ (hbudget hlive), hrender'⟩⟩

lemma authorised_of_checks {checks : List Effect}
    (hcheck : ∀ effect ∈ checks, effect.isCheck = true) : Authorised world platform checks := by
  have hcommands : ∀ effect ∈ checks, effect.commands = [] :=
    fun effect heffect => commands_of_check (hcheck effect heffect)
  have hmem : ∀ {before effect after}, checks = before ++ effect :: after → effect ∈ checks := by
    rintro before effect after rfl
    simp
  constructor
  · intro effect heffect command hcommand
    rw [hcommands effect heffect] at hcommand
    cases hcommand
  · intro before effect after htrace command hcommand
    rw [hcommands effect (hmem htrace)] at hcommand
    cases hcommand
  · intro before effect after htrace hsend
    rw [hcheck effect (hmem htrace)] at hsend
    cases hsend
  · have hnone : checks.filter Effect.readsCredentials = [] := by
      rw [List.filter_eq_nil_iff]
      intro effect heffect hreads
      have := hcheck effect heffect
      cases effect <;> simp_all [Effect.readsCredentials, Effect.isCheck]
    rw [hnone]
    exact Nat.zero_le 1
  · intro command hcommand
    exact hcheck
  · intro before effect after htrace command hcommand
    rw [hcommands effect (hmem htrace)] at hcommand
    cases hcommand

variable {raised : List Effect → Prop}

lemma leaves_askSender (sender : Sender) (command : String) :
    Leaves (askSender sender command) (fun _ events => events = [.sent command]) raised := by
  apply leaves_bind leaves_recorded
  rintro t events rfl
  apply leaves_bind (leaves_emit _)
  rintro - events rfl
  exact leaves_pure rfl

lemma leaves_askDevice :
    Leaves (askDevice world) (fun _ events => events = [.getDevice]) raised := by
  apply leaves_bind leaves_recorded
  rintro t events rfl
  apply leaves_bind (leaves_emit _)
  rintro - events rfl
  exact leaves_pure rfl

lemma leaves_askSession (commands : List String) (readTimeout : Option Nat) :
    Leaves (askSession world commands readTimeout)
      (fun _ events => events = [.session commands readTimeout]) raised := by
  apply leaves_bind leaves_recorded
  rintro t events rfl
  apply leaves_bind (leaves_emit _)
  rintro - events rfl
  exact leaves_pure rfl

lemma leaves_askProbeBudget (templateName : String) (params : List (String × Value)) :
    Leaves (askProbeBudget world templateName params)
      (fun refusal events => events = [.probeBudget templateName params refusal.isNone])
      raised := by
  apply leaves_bind leaves_recorded
  rintro t events rfl
  apply leaves_bind (leaves_emit _)
  rintro - events rfl
  exact leaves_pure rfl

lemma leaves_sendAll (sender : Sender) (result : Envelope) (labelled : List (String × String)) :
    Leaves (sendAll sender result labelled)
      (fun _ events => events = labelled.map (fun command => .sent command.2)) raised := by
  apply leaves_bind (leaves_forEach_map (fun command => leaves_askSender sender command.2) labelled)
  rintro answers events rfl
  apply leaves_pure
  rw [List.append_nil]

lemma leaves_openSession {α : Type} (commands : List String) (readTimeout : Option Nat)
    (missing : String → α) (finish : Except Refusal Session → α) :
    Leaves (do
        match ← askDevice world with
        | .error message => return missing message
        | .ok _ =>
          let answer ← askSession world commands readTimeout
          return finish answer)
      (fun _ events => events = [.getDevice] ∨
        events = [.getDevice, .session commands readTimeout]) raised := by
  apply leaves_bind leaves_askDevice
  rintro record events rfl
  cases record with
  | error message => exact leaves_pure (.inl rfl)
  | ok record =>
    apply leaves_bind (leaves_askSession commands readTimeout)
    rintro answer events rfl
    exact leaves_pure (.inr rfl)

section Passed

variable {checks : List Effect} {commands : List String}

lemma sends_sent (h : ∀ command ∈ commands, Passed checks command) :
    Sends checks (commands.map Effect.sent) := by
  constructor
  · simp [Effect.isCheck]
  · intro effect heffect command hcommand
    obtain ⟨sent, hsent, rfl⟩ := List.mem_map.mp heffect
    rw [List.mem_singleton.mp hcommand]
    exact h sent hsent
  · have hnone : (commands.map Effect.sent).filter Effect.readsCredentials = [] := by
      simp [Effect.readsCredentials]
    rw [hnone]
    exact Nat.zero_le 1

lemma sends_session (readTimeout : Option Nat) (h : ∀ command ∈ commands, Passed checks command) :
    Sends checks [.session commands readTimeout] := by
  constructor
  · simp [Effect.isCheck]
  · intro effect heffect command hcommand
    rw [List.mem_singleton.mp heffect] at hcommand
    exact h command hcommand
  · exact Nat.zero_le 1

lemma sends_openSession {events : List Effect} (readTimeout : Option Nat)
    (h : ∀ command ∈ commands, Passed checks command)
    (hevents : events = [.getDevice] ∨ events = [.getDevice, .session commands readTimeout]) :
    Sends checks events := by
  rcases hevents with rfl | rfl
  · constructor
    · simp [Effect.isCheck]
    · simp [Effect.commands]
    · exact le_rfl
  · constructor
    · simp [Effect.isCheck]
    · intro effect heffect command hcommand
      rcases List.mem_pair.mp heffect with rfl | rfl
      · cases hcommand
      · exact h command hcommand
    · exact le_rfl

end Passed

/-! ### Approved commands -/

def allowlistEvent (platform command : String) : Effect :=
  if Platforms.isApproved platform command then .approved command else .refused command

lemma leaves_checkCommands (commands : List String) :
    Leaves (forEach (checkCommand platform) commands)
      (fun _ events => events = commands.map (allowlistEvent platform)) raised :=
  leaves_forEach_map (fun _ => leaves_emit _) commands

lemma isCheck_allowlistEvent (command : String) :
    (allowlistEvent platform command).isCheck = true := by
  rw [allowlistEvent]
  split <;> rfl

section Allowlist

variable {commands : List String}
  (h : commands.filter (fun command => !Platforms.isApproved platform command) = [])

include h

lemma allowlistEvent_of_approved : ∀ command ∈ commands,
    command ∈ Platforms.approvedCommands platform ∧
      allowlistEvent platform command = .approved command := by
  intro command hcommand
  have happroved := List.filter_eq_nil_iff.mp h command hcommand
  rw [Bool.not_eq_true, Bool.not_eq_false'] at happroved
  refine ⟨of_decide_eq_true happroved, ?_⟩
  rw [allowlistEvent, if_pos happroved]

lemma cleared_of_allowlist : Cleared world platform (commands.map (allowlistEvent platform)) := by
  have hevent : ∀ effect ∈ commands.map (allowlistEvent platform), ∃ command,
      command ∈ Platforms.approvedCommands platform ∧ effect = .approved command := by
    intro effect heffect
    obtain ⟨command, hcommand, rfl⟩ := List.mem_map.mp heffect
    obtain ⟨happroved, hevent⟩ := allowlistEvent_of_approved h command hcommand
    exact ⟨command, happroved, hevent⟩
  constructor
  · intro effect heffect
    obtain ⟨command, -, rfl⟩ := hevent effect heffect
    rfl
  · intro command hcommand
    obtain ⟨approved, happroved, heq⟩ := hevent _ hcommand
    cases heq
    exact happroved
  · intro templateName params command hcommand
    obtain ⟨approved, -, heq⟩ := hevent _ hcommand
    cases heq
  · intro command hcommand
    obtain ⟨approved, -, heq⟩ := hevent _ hcommand
    cases heq

lemma passed_of_allowlist : ∀ command ∈ commands,
    Passed (commands.map (allowlistEvent platform)) command := by
  intro command hcommand
  left
  rw [List.mem_map]
  exact ⟨command, hcommand, (allowlistEvent_of_approved h command hcommand).2⟩

end Allowlist

abbrev Keeps {α : Type} (world : World) (platform : String) (m : Run α) : Prop :=
  Leaves m (fun _ => Authorised world platform) (Authorised world platform)

lemma keeps_pure {α : Type} (a : α) : Keeps world platform (pure a) :=
  leaves_pure (authorised_of_checks (by simp))

theorem keeps_runApprovedCommands (device : String) (commands : List String)
    (credentials : Option Dict) :
    Keeps world platform (runApprovedCommands world device commands platform credentials) := by
  rw [runApprovedCommands]
  apply leaves_bind (leaves_checkCommands commands)
  rintro - checks rfl
  dsimp only
  by_cases hrefused : commands.filter (fun command => !Platforms.isApproved platform command) ≠ []
  · rw [if_pos hrefused]
    apply leaves_pure
    rw [List.append_nil]
    apply authorised_of_checks
    intro effect heffect
    obtain ⟨command, -, rfl⟩ := List.mem_map.mp heffect
    exact isCheck_allowlistEvent command
  · rw [if_neg hrefused]
    rw [not_not] at hrefused
    have hcleared : Cleared world platform _ := cleared_of_allowlist hrefused
    have hpassed := passed_of_allowlist hrefused
    split
    · rename_i sender _
      apply (leaves_sendAll sender _ _).weaken _ (fun _ h => h)
      rintro result events rfl
      rw [List.map_map]
      exact authorised_of hcleared (sends_sent hpassed)
    · apply leaves_bind (leaves_askSession commands none)
      rintro answer events rfl
      apply leaves_pure
      rw [List.append_nil]
      exact authorised_of hcleared (sends_session none hpassed)
    · apply (leaves_openSession commands none _ _).weaken _ (fun _ h => h)
      intro result events hevents
      exact authorised_of hcleared (sends_openSession none hpassed hevents)

lemma Keeps.map {α β : Type} {m : Run α} (h : Keeps world platform m) (f : α → β) :
    Keeps world platform (m >>= fun a => pure (f a)) := by
  apply leaves_bind h
  intro a events hevents
  apply leaves_pure
  rw [List.append_nil]
  exact hevents

theorem keeps_runIntent (parseIntent : ParseIntent) (device intent : String)
    (credentials : Option Dict) :
    Keeps world (world.platformFor device)
      (runIntent world parseIntent device intent credentials) := by
  rw [runIntent]
  split
  · exact (keeps_pure _).map _
  · split
    · exact (keeps_pure _).map _
    · exact (keeps_runApprovedCommands device _ credentials).map _

theorem keeps_collectEvidence (parseIntent : ParseIntent) (device : String) :
    Keeps world (world.platformFor device) (collectEvidence world parseIntent device) := by
  rw [collectEvidence]
  split
  · exact keeps_pure _
  · exact (keeps_runApprovedCommands device _ none).map _

lemma leaves_callRender (entry : ManifestEntry) :
    Leaves (callRender platform entry)
      (fun answer events => events = [] ∧
        ∀ command, answer = .ok command → renderCommand platform entry.1 entry.2 = .ok command)
      (fun events => events = []) := by
  rw [callRender]
  split
  · exact leaves_raise rfl
  · cases hrender : renderCommand platform entry.1 entry.2 with
    | ok command =>
      refine leaves_pure ⟨rfl, ?_⟩
      rintro other ⟨⟩
      rfl
    | error error =>
      cases error with
      | validation message =>
        refine leaves_pure ⟨rfl, ?_⟩
        rintro command ⟨⟩
      | unknownTemplate message => exact leaves_raise rfl
      | keyError key => exact leaves_raise rfl

lemma leaves_checkRendered (entry : ManifestEntry) (refusal : String → String) :
    Leaves (checkRendered platform entry refusal)
      (fun answer events => (∃ message, answer = .error message ∧ events = []) ∨
        ∃ command, answer = .ok command ∧ events = [.rendered entry.1 entry.2 command] ∧
          renderCommand platform entry.1 entry.2 = .ok command)
      (fun events => events = []) := by
  rw [checkRendered]
  apply leaves_bind (leaves_callRender entry)
  rintro answer events ⟨rfl, hrender⟩
  cases answer with
  | error message => exact leaves_pure (.inl ⟨message, rfl, rfl⟩)
  | ok command =>
    dsimp only
    split
    · apply leaves_bind (leaves_emit _)
      rintro - events rfl
      exact leaves_pure (.inr ⟨command, rfl, rfl, hrender command rfl⟩)
    · exact leaves_pure (.inl ⟨_, rfl, rfl⟩)

lemma leaves_checkProbe (entry : ManifestEntry) :
    Leaves (checkProbe world platform entry)
      (fun refusal events =>
        (events = [] ∨ ∃ granted, events = [.probeBudget entry.1 entry.2 granted]) ∧
        (refusal = none → Platforms.activeProbe platform entry.1 = true → world.sender = none →
          events = [.probeBudget entry.1 entry.2 true])) raised := by
  rw [checkProbe]
  split
  · apply (leaves_askProbeBudget entry.1 entry.2).weaken _ (fun _ h => h)
    rintro refusal events rfl
    refine ⟨.inr ⟨_, rfl⟩, ?_⟩
    rintro rfl - -
    rfl
  · rename_i hgate
    refine leaves_pure ⟨.inl rfl, ?_⟩
    intro _ hactive hlive
    exact absurd ⟨hactive, by rw [hlive]; rfl⟩ hgate

lemma cleared_budget {entry : ManifestEntry} {events : List Effect}
    (h : events = [] ∨ ∃ granted, events = [.probeBudget entry.1 entry.2 granted]) :
    Cleared world platform events := by
  rcases h with rfl | ⟨granted, rfl⟩
  · exact cleared_nil
  · constructor <;> simp [Effect.isCheck]

lemma cleared_rendered {entry : ManifestEntry} {command : String} {events : List Effect}
    (hrender : renderCommand platform entry.1 entry.2 = .ok command)
    (hallowed : Platforms.activeProbe platform entry.1 = true → world.probesAllowed = true)
    (hevents : events = [] ∨ ∃ granted, events = [.probeBudget entry.1 entry.2 granted])
    (hbudget : Platforms.activeProbe platform entry.1 = true → world.sender = none →
      events = [.probeBudget entry.1 entry.2 true]) :
    Cleared world platform (events ++ [.rendered entry.1 entry.2 command]) := by
  have hgate : Cleared world platform events := cleared_budget hevents
  constructor
  · intro effect heffect
    rw [List.mem_append, List.mem_singleton] at heffect
    rcases heffect with heffect | rfl
    · exact hgate.check effect heffect
    · rfl
  · intro approved happroved
    rw [List.mem_append, List.mem_singleton] at happroved
    rcases happroved with happroved | heq
    · exact hgate.approved approved happroved
    · cases heq
  · intro templateName params rendered hrendered
    rw [List.mem_append, List.mem_singleton] at hrendered
    rcases hrendered with hrendered | heq
    · exfalso
      rcases hevents with rfl | ⟨granted, rfl⟩ <;> simp at hrendered
    · cases heq
      refine ⟨hrender, fun hactive => ⟨hallowed hactive, fun hlive => ?_⟩⟩
      rw [hbudget hactive hlive]
      simp
  · intro refused hrefused
    rw [List.mem_append, List.mem_singleton] at hrefused
    rcases hrefused with hrefused | heq
    · exact hgate.unrefused refused hrefused
    · cases heq

lemma probesAllowed_of_not {active : Bool}
    (h : ¬(active = true ∧ (!world.probesAllowed) = true)) (hactive : active = true) :
    world.probesAllowed = true := by
  by_contra hdenied
  exact h ⟨hactive, by simp [hdenied]⟩

theorem leaves_authorizeEntry (entry : ManifestEntry) :
    Leaves (authorizeEntry world platform entry)
      (fun answer events => Cleared world platform events ∧
        ∀ command, answer = .ok command → Passed events command)
      (Cleared world platform) := by
  rw [authorizeEntry]
  cases templateFor platform entry.1 with
  | error error => exact leaves_raise cleared_nil
  | ok template =>
    dsimp only
    split
    · refine leaves_pure ⟨cleared_nil, ?_⟩
      rintro command ⟨⟩
    · rename_i hprobes
      have hallowed := probesAllowed_of_not hprobes
      apply leaves_bind (leaves_checkProbe entry)
      rintro refusal events ⟨hevents, hbudget⟩
      cases refusal with
      | some refusal =>
        refine leaves_pure ⟨?_, ?_⟩
        · rw [List.append_nil]
          exact cleared_budget hevents
        · rintro command ⟨⟩
      | none =>
        have hraised : ∀ rest : List Effect, rest = [] →
            Cleared world platform (events ++ rest) := by
          rintro rest rfl
          rw [List.append_nil]
          exact cleared_budget hevents
        apply leaves_bind ((leaves_checkRendered entry _).weaken (fun _ _ h => h) hraised)
        rintro answer new (⟨message, rfl, rfl⟩ | ⟨command, rfl, rfl, hrender⟩)
        · refine leaves_pure ⟨?_, ?_⟩
          · rw [List.append_nil]
            exact hraised [] rfl
          · rintro command ⟨⟩
        · refine leaves_pure ⟨?_, ?_⟩
          · rw [List.append_nil]
            exact cleared_rendered hrender hallowed hevents (hbudget rfl)
          · rintro other ⟨⟩
            rw [List.append_nil]
            exact .inr ⟨entry.1, entry.2, List.mem_append_right _ (List.mem_singleton_self _)⟩

lemma authorised_of_cleared {checks : List Effect} (h : Cleared world platform checks) :
    Authorised world platform checks :=
  authorised_of_checks h.check

lemma Passed.mono {checks checks' : List Effect} {command : String} (h : Passed checks command)
    (hsub : checks ⊆ checks') : Passed checks' command := by
  rcases h with happroved | ⟨templateName, params, hrendered⟩
  · exact .inl (hsub happroved)
  · exact .inr ⟨templateName, params, hsub hrendered⟩

theorem keeps_runRenderedCommand (parseTemplate : ParseTemplate) (device : String)
    {entry : ManifestEntry} {events : List Effect}
    (hallowed : Platforms.activeProbe platform entry.1 = true → world.probesAllowed = true)
    (hevents : events = [] ∨ ∃ granted, events = [.probeBudget entry.1 entry.2 granted])
    (hbudget : Platforms.activeProbe platform entry.1 = true → world.sender = none →
      events = [.probeBudget entry.1 entry.2 true]) :
    Leaves (runRenderedCommand world parseTemplate device platform entry)
      (fun _ rest => Authorised world platform (events ++ rest))
      (fun rest => Authorised world platform (events ++ rest)) := by
  have hgate : Cleared world platform events := cleared_budget hevents
  have hraised : ∀ rest : List Effect, rest = [] → Authorised world platform (events ++ rest) := by
    rintro rest rfl
    rw [List.append_nil]
    exact authorised_of_cleared hgate
  rw [runRenderedCommand]
  apply leaves_bind ((leaves_checkRendered entry _).weaken (fun _ _ h => h) hraised)
  rintro answer new (⟨message, rfl, rfl⟩ | ⟨command, rfl, rfl, hrender⟩)
  · apply leaves_pure
    exact hraised [] rfl
  · have hcleared := cleared_rendered hrender hallowed hevents hbudget
    have hpassed : ∀ c ∈ [command],
        Passed (events ++ [.rendered entry.1 entry.2 command]) c := by
      intro c hc
      rw [List.mem_singleton.mp hc]
      exact .inr ⟨entry.1, entry.2, List.mem_append_right _ (List.mem_singleton_self _)⟩
    have hdone : ∀ sends, Sends (events ++ [.rendered entry.1 entry.2 command]) sends →
        Authorised world platform (events ++ ([.rendered entry.1 entry.2 command] ++ sends)) := by
      intro sends hsends
      rw [← List.append_assoc]
      exact authorised_of hcleared hsends
    dsimp only
    split
    · apply leaves_bind (leaves_sendAll _ _ _)
      rintro answered sends rfl
      apply leaves_pure
      rw [List.append_nil]
      exact hdone _ (sends_sent hpassed)
    · apply (leaves_openSession [command] _ _ _).weaken _ (fun _ h => h)
      intro result sends hsends
      exact hdone sends (sends_openSession _ hpassed hsends)

theorem keeps_runTemplate (parseTemplate : ParseTemplate) (device : String)
    (entry : ManifestEntry) (named : Option String) :
    Keeps world (resolvePlatform world named device)
      (runTemplate world parseTemplate device entry named) := by
  rw [runTemplate]
  dsimp only
  split
  · exact keeps_pure _
  · split
    · exact keeps_pure _
    · split
      · exact keeps_pure _
      · rename_i hprobes
        have hallowed := probesAllowed_of_not hprobes
        apply leaves_bind (leaves_checkProbe entry)
        rintro refusal events ⟨hevents, hbudget⟩
        cases refusal with
        | some refusal =>
          apply leaves_pure
          rw [List.append_nil]
          exact authorised_of_cleared (cleared_budget hevents)
        | none => exact keeps_runRenderedCommand parseTemplate device hallowed hevents (hbudget rfl)

lemma leaves_authorizeEntries (manifest : List ManifestEntry) :
    Leaves (forEach (authorizeEntry world platform) manifest)
      (fun answers events => Cleared world platform events ∧
        ∀ command, .ok command ∈ answers → Passed events command)
      (Cleared world platform) := by
  have hstep : ∀ (_ : List ManifestEntry) (entry : ManifestEntry)
      (answers : List (Except String String)) (events : List Effect),
      (Cleared world platform events ∧ ∀ command, .ok command ∈ answers → Passed events command) →
      Leaves (authorizeEntry world platform entry)
        (fun answer new => Cleared world platform (events ++ new) ∧
          ∀ command, .ok command ∈ answers ++ [answer] → Passed (events ++ new) command)
        (fun new => Cleared world platform (events ++ new)) := by
    rintro - entry answers events ⟨hcleared, hpassed⟩
    apply (leaves_authorizeEntry entry).weaken
    · rintro answer new ⟨hnew, hanswer⟩
      refine ⟨hcleared.append hnew, ?_⟩
      intro command hcommand
      rw [List.mem_append, List.mem_singleton] at hcommand
      rcases hcommand with hcommand | hcommand
      · exact (hpassed command hcommand).mono (List.subset_append_left _ _)
      · exact (hanswer command hcommand.symm).mono (List.subset_append_right _ _)
    · intro new hnew
      exact hcleared.append hnew
  have hloop := leaves_forEach (Cleared world platform) _ hstep manifest [] [] []
    ⟨cleared_nil, by simp⟩
  exact hloop

lemma mem_of_authorized {manifest : List ManifestEntry} {answers : List (Except String String)}
    {command : String} (h : command ∈ (authorized manifest answers).map Prod.snd) :
    .ok command ∈ answers := by
  obtain ⟨rendered, hrendered, rfl⟩ := List.mem_map.mp h
  rw [authorized, List.mem_filterMap] at hrendered
  obtain ⟨⟨entry, answer⟩, hmem, hanswer⟩ := hrendered
  cases answer with
  | error message => cases hanswer
  | ok command =>
    cases hanswer
    exact (List.of_mem_zip hmem).2

theorem keeps_runTemplates (device : String) (manifest : List ManifestEntry)
    (named : Option String) :
    Keeps world (resolvePlatform world named device)
      (runTemplates world device manifest named) := by
  rw [runTemplates]
  dsimp only
  split
  · exact keeps_pure _
  · apply leaves_bind ((leaves_authorizeEntries manifest).weaken (fun _ _ h => h)
      (fun _ h => authorised_of_cleared h))
    rintro answers checks ⟨hcleared, hpassed⟩
    have hrendered : ∀ command ∈ (authorized manifest answers).map Prod.snd,
        Passed checks command :=
      fun command hcommand => hpassed command (mem_of_authorized hcommand)
    split
    · apply leaves_pure
      rw [List.append_nil]
      exact authorised_of_cleared hcleared
    · split
      · apply (leaves_sendAll _ _ _).weaken _ (fun _ h => h)
        rintro result sends rfl
        apply authorised_of hcleared
        have hsent := sends_sent hrendered
        rw [List.map_map] at hsent
        exact hsent
      · apply (leaves_openSession _ _ _ _).weaken _ (fun _ h => h)
        intro result sends hsends
        exact authorised_of hcleared (sends_openSession _ hrendered hsends)

lemma leaves_entryFromBatch (parseTemplate : ParseTemplate) (device : String) (batch : Envelope)
    (platform : String) (entry : ManifestEntry) {cut : List Effect} (hcut : cut = []) :
    Leaves (do
        match ← callRender platform entry with
        | .error message => return safeError world "run_template" device message batch.source
        | .ok command =>
          return entryFromBatch world parseTemplate device platform entry.1 command batch
            batch.source)
      (fun _ new => cut ++ new = []) (fun new => cut ++ new = []) := by
  subst hcut
  apply leaves_bind ((leaves_callRender entry).weaken (fun _ _ h => h) (fun _ h => h))
  rintro answer new ⟨rfl, -⟩
  cases answer with
  | error message => exact leaves_pure rfl
  | ok command => exact leaves_pure rfl

theorem keeps_runTemplatesSplit (parseTemplate : ParseTemplate) (device : String)
    (manifest : List ManifestEntry) (named : Option String) :
    Keeps world (resolvePlatform world named device)
      (runTemplatesSplit world parseTemplate device manifest named) := by
  have hbatch : Keeps world _ (runTemplates world device manifest
      (some (resolvePlatform world named device))) := keeps_runTemplates device manifest _
  rw [resolvePlatform_again] at hbatch
  rw [runTemplatesSplit]
  apply leaves_bind hbatch
  intro batch events hevents
  have hloop := leaves_forEach (fun events => events = []) (fun _ _ events => events = [])
    (fun _ entry _ cut hcut => @leaves_entryFromBatch world parseTemplate device batch
      (resolvePlatform world named device) entry cut hcut) manifest [] [] [] rfl
  have hnothing : ∀ new : List Effect, [] ++ new = [] →
      Authorised world (resolvePlatform world named device) (events ++ new) := by
    intro new hnew
    rw [List.nil_append] at hnew
    rw [hnew, List.append_nil]
    exact hevents
  exact hloop.weaken (fun _ new hnew => hnothing new hnew) hnothing

lemma leaves_runAuthorized (device : String) {commands : List String} {checks : List Effect}
    (readTimeout : Option Nat) (h : ∀ command ∈ commands, Passed checks command) :
    Leaves (runAuthorized world device commands platform readTimeout)
      (fun _ sends => Sends checks sends) raised := by
  rw [runAuthorized]
  split
  · apply (leaves_sendAll _ _ _).weaken _ (fun _ h => h)
    rintro result sends rfl
    rw [List.map_map]
    exact sends_sent h
  · apply (leaves_openSession _ _ _ _).weaken _ (fun _ h => h)
    intro result sends hsends
    exact sends_openSession _ h hsends

theorem keeps_collectEvidenceAndTemplates (parseTemplate : ParseTemplate)
    (parseIntent : ParseIntent) (device : String) (manifest : List ManifestEntry) :
    Keeps world (world.platformFor device)
      (collectEvidenceAndTemplates world parseTemplate parseIntent device manifest) := by
  rw [collectEvidenceAndTemplates]
  dsimp only
  split
  · exact keeps_pure _
  · apply leaves_bind (leaves_checkCommands _)
    rintro - allowlist rfl
    by_cases hrefused : (intentCommands (world.platformFor device)).filter
      (fun command => !Platforms.isApproved (world.platformFor device) command) ≠ []
    · rw [if_pos hrefused]
      apply leaves_pure
      rw [List.append_nil]
      apply authorised_of_checks
      intro effect heffect
      obtain ⟨command, -, rfl⟩ := List.mem_map.mp heffect
      exact isCheck_allowlistEvent command
    · rw [if_neg hrefused]
      rw [not_not] at hrefused
      have hcleared : Cleared world (world.platformFor device) _ := cleared_of_allowlist hrefused
      have happroved := passed_of_allowlist hrefused
      apply leaves_bind ((leaves_authorizeEntries manifest).weaken (fun _ _ h => h)
        (fun _ h => authorised_of_cleared (hcleared.append h)))
      rintro answers checks ⟨hchecks, hpassed⟩
      have hall : ∀ command ∈ intentCommands (world.platformFor device) ++
          (authorized manifest answers).map Prod.snd,
          Passed ((intentCommands (world.platformFor device)).map
            (allowlistEvent (world.platformFor device)) ++ checks) command := by
        intro command hcommand
        rw [List.mem_append] at hcommand
        rcases hcommand with hcommand | hcommand
        · exact (happroved command hcommand).mono (List.subset_append_left _ _)
        · exact (hpassed command (mem_of_authorized hcommand)).mono
            (List.subset_append_right _ _)
      apply leaves_bind (leaves_runAuthorized device _ hall)
      intro combined sends hsends
      apply leaves_pure
      rw [List.append_nil, ← List.append_assoc]
      exact authorised_of (hcleared.append hchecks) hsends

/-- Each of the six ways in sends only what it is authorised to, and loads credentials last. -/
theorem entryPoints_authorised (world : World) (parseTemplate : ParseTemplate)
    (parseIntent : ParseIntent) (device : String) :
    (∀ intent credentials, Authorised world (world.platformFor device)
      (runIntent world parseIntent device intent credentials []).2) ∧
    Authorised world (world.platformFor device)
      (collectEvidence world parseIntent device []).2 ∧
    (∀ entry named, Authorised world (resolvePlatform world named device)
      (runTemplate world parseTemplate device entry named []).2) ∧
    (∀ manifest named, Authorised world (resolvePlatform world named device)
      (runTemplates world device manifest named []).2) ∧
    (∀ manifest named, Authorised world (resolvePlatform world named device)
      (runTemplatesSplit world parseTemplate device manifest named []).2) ∧
    ∀ manifest, Authorised world (world.platformFor device)
      (collectEvidenceAndTemplates world parseTemplate parseIntent device manifest []).2 := by
  refine ⟨?_, ?_, ?_, ?_, ?_, ?_⟩
  · intro intent credentials
    exact (keeps_runIntent parseIntent device intent credentials).always
  · exact (keeps_collectEvidence parseIntent device).always
  · intro entry named
    exact (keeps_runTemplate parseTemplate device entry named).always
  · intro manifest named
    exact (keeps_runTemplates device manifest named).always
  · intro manifest named
    exact (keeps_runTemplatesSplit parseTemplate device manifest named).always
  · intro manifest
    exact (keeps_collectEvidenceAndTemplates parseTemplate parseIntent device manifest).always

end NetTools
