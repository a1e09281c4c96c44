import NetTools.AgentLoop.TemplateCalls

/-!
# When the model's parameters are only parameters

A call keeps to the platform of its device and to a live session exactly when no keyword of
`run_template` is among the parameters, or when those that are change nothing and the call is
stopped by its checks.
-/

namespace NetTools

namespace TemplateCalls

open Traces Traces.Traced

/-! ### Calls that are refused -/

/-- From `t` on, no success and nothing but checks. -/
def RefusedFrom (t : List Effect) (m : Run Envelope) : Prop :=
  (∀ envelope, (m t).1 = .ok envelope → envelope.status ≠ STATUS_SUCCESS) ∧
    ∀ effect ∈ (m t).2, effect.isCheck = true

/-- The call returns an error, or raises, without credentials or a device. -/
abbrev Refused (m : Run Envelope) : Prop := RefusedFrom [] m

variable {t t' : List Effect}

lemma refusedFrom_pure {envelope : Envelope} (ht : ∀ effect ∈ t, effect.isCheck = true)
    (h : envelope.status ≠ STATUS_SUCCESS) : RefusedFrom t (pure envelope) := by
  refine ⟨?_, ht⟩
  rintro other ⟨⟩
  exact h

lemma refusedFrom_raise (ht : ∀ effect ∈ t, effect.isCheck = true) (e : Raised) :
    RefusedFrom t (raise e) := by
  refine ⟨?_, ht⟩
  rintro other ⟨⟩

lemma refusedFrom_bind {α : Type} {m : Run α} {f : α → Run Envelope} {a : α}
    (hm : m t = (.ok a, t')) (hf : RefusedFrom t' (f a)) : RefusedFrom t (m >>= f) := by
  rw [RefusedFrom, bind_ok hm]
  exact hf

lemma refusedFrom_bind_error {α : Type} {m : Run α} {f : α → Run Envelope} {e : Raised}
    (hm : m t = (.error e, t')) (ht : ∀ effect ∈ t', effect.isCheck = true) :
    RefusedFrom t (m >>= f) := by
  rw [RefusedFrom, bind_error hm]
  exact refusedFrom_raise ht e

def TouchesFrom (t : List Effect) (m : Run Envelope) : Prop := .getDevice ∈ (m t).2

lemma TouchesFrom.not_refused {m : Run Envelope} (h : TouchesFrom t m) : ¬ RefusedFrom t m := by
  intro hrefused
  have hcheck := hrefused.2 .getDevice h
  cases hcheck

lemma touchesFrom_bind {α : Type} {m : Run α} {f : α → Run Envelope} {a : α}
    (hm : m t = (.ok a, t')) (hf : TouchesFrom t' (f a)) : TouchesFrom t (m >>= f) := by
  rw [TouchesFrom, bind_ok hm]
  exact hf

lemma touchesFrom_of_leaves {m : Run Envelope}
    (h : Leaves m (fun _ events => .getDevice ∈ events) (fun events => .getDevice ∈ events)) :
    TouchesFrom t m := by
  obtain ⟨events, htrace, hok, herror⟩ := h t
  rw [TouchesFrom, htrace, List.mem_append]
  right
  cases hresult : (m t).1 with
  | ok a => exact hok a hresult
  | error e => exact herror e hresult

section Rendering

variable {platform : String} {entry : ManifestEntry} {refusal : String → String}

lemma declared_of_registered : ∀ entry ∈ platformTemplates, ∀ template ∈ entry.2,
    ∀ keyword ∈ ["platform", "sender", "template_name"],
      keyword ∉ template.2.params.map Prod.fst := by
  decide +kernel

lemma notMem_params {templateName keyword : String} {template : Template}
    (h : templateFor platform templateName = .ok template)
    (hkeyword : keyword ∈ ["platform", "sender", "template_name"]) :
    keyword ∉ template.params.map Prod.fst := by
  obtain ⟨registered, hregistered, found, hfound, rfl⟩ := registered_of_templateFor h
  exact declared_of_registered registered hregistered found hfound keyword hkeyword

lemma checkRendered_of_ok {command : String}
    (h : renderCommand platform entry.1 entry.2 = .ok command) :
    checkRendered platform entry refusal t =
      (.ok (.ok command), t ++ [.rendered entry.1 entry.2 command]) := by
  obtain ⟨template, values, htemplate, -, hextra, -, -, hvalid⟩ := renderCommand_ok h
  have hkeywords : ¬("platform" ∈ entry.2.map Prod.fst ∨
      "template_name" ∈ entry.2.map Prod.fst) := by
    rintro (hmem | hmem)
    · exact notMem_params htemplate (by decide) (hextra _ hmem)
    · exact notMem_params htemplate (by decide) (hextra _ hmem)
  have hcall : callRender platform entry = pure (.ok command) := by
    rw [callRender, if_neg hkeywords, h]
  rw [checkRendered, hcall]
  have hsafe := validateRenderedCommand_ok hvalid
  change (if isSafeRenderedCommand command = true then _ else _ : Run (Except String String)) t = _
  rw [if_pos hsafe]
  rfl

lemma checkRendered_of_not (h : ∀ command, renderCommand platform entry.1 entry.2 ≠ .ok command) :
    (∃ message, checkRendered platform entry refusal t = (.ok (.error message), t)) ∨
      ∃ e, checkRendered platform entry refusal t = (.error e, t) := by
  obtain ⟨events, htrace, hok, herror⟩ := @leaves_checkRendered platform entry refusal t
  cases hrun : checkRendered platform entry refusal t with
  | mk result t' =>
    rw [hrun] at htrace hok herror
    dsimp only at htrace hok herror
    cases result with
    | error e =>
      right
      rw [htrace, herror e rfl, List.append_nil]
      exact ⟨e, rfl⟩
    | ok answer =>
      rcases hok answer rfl with ⟨message, rfl, rfl⟩ | ⟨command, -, -, hrender⟩
      · left
        rw [htrace, List.append_nil]
        exact ⟨message, rfl⟩
      · exact absurd hrender (h command)

end Rendering

section Calls

variable (world : World) (shown : Value → String) (parseTemplate : ParseTemplate)

abbrev live : World := { world with sender := none }

/-- The key is a parameter of the template, and `render_command` accepts the parameters. -/
def Validated (call : TemplateCall) (key : String) : Prop :=
  ∃ platform name template command, platformOf world call.device = .ok platform ∧
    call.template = .str name ∧ templateFor platform name = .ok template ∧
    key ∈ template.params.map Prod.fst ∧ renderCommand platform name call.params = .ok command

/-- The platform is that of the device and the transport is the live one, the gates are those of a
plain call, and every key is validated or the call is refused. -/
structure ParamsOnly (call : TemplateCall) : Prop where
  platform : usedPlatform world call = (platformOf world call.device).map .str
  transport : transport call = none
  gates : ∀ platform, platformOf world call.device = .ok platform →
    Keeps (live world) platform (callTemplate world shown parseTemplate call)
  asPlain : callTemplate world shown parseTemplate call =
    callTemplate world shown parseTemplate call.plain
  keys : ∀ key ∈ call.supplied.keys,
    Validated world call key ∨ Refused (callTemplate world shown parseTemplate call)

def ProbeStopped (device : Value) (platform name : String) : Prop :=
  Platforms.activeProbe platform name = true ∧
    (world.probesAllowed = false ∨ device.isStr = false ∨ (world.probeBudget []).isSome)

def Stopped (call : TemplateCall) : Prop :=
  ∀ platform name, platformOf world call.device = .ok platform → call.template = .str name →
    platform ∈ Platforms.knownPlatforms → Platforms.supportsTemplate platform name = true →
    ProbeStopped world call.device platform name ∨
      ∀ command, renderCommand platform name call.params ≠ .ok command

variable {world shown parseTemplate} {call : TemplateCall}

/-! ### The platform and the transport -/

lemma usedPlatform_eq_iff :
    usedPlatform world call = (platformOf world call.device).map .str ↔
      call.platform.truthy = false ∨
        ∃ platform, call.platform = .str platform ∧
          platformOf world call.device = .ok platform := by
  rw [usedPlatform]
  cases htruthy : call.platform.truthy with
  | false => simp
  | true =>
    rw [if_pos rfl]
    cases hplatform : platformOf world call.device with
    | error e => simp [Except.map]
    | ok platform => simp [Except.map]

lemma transport_eq_none_iff : transport call = none ↔ call.sender = .none := by
  rw [transport]
  split
  · rename_i hsender
    simp [hsender]
  · rename_i hsender
    simp only [reduceCtorEq, false_iff]
    exact hsender

lemma params_eq_supplied (hplatform : "platform" ∉ call.supplied.keys)
    (hsender : "sender" ∉ call.supplied.keys) : call.params = call.supplied := by
  rw [TemplateCall.params, List.filter_eq_self]
  intro entry hentry
  have hkey : entry.1 ∈ call.supplied.keys := List.mem_map_of_mem hentry
  simp only [decide_eq_true_eq, List.mem_cons, List.not_mem_nil, or_false, not_or]
  exact ⟨fun h => hplatform (h ▸ hkey), fun h => hsender (h ▸ hkey)⟩

lemma get?_of_notMem {supplied : Dict} {key : String} (h : key ∉ supplied.keys) :
    supplied.get? key = none := by
  rw [Dict.get?, List.lookup_eq_none_iff]
  intro entry hentry
  have hne : entry.1 ≠ key := fun heq => h (heq ▸ List.mem_map_of_mem hentry)
  simpa using hne.symm

lemma notMem_plain {keyword : String} (h : keyword ∈ ["platform", "sender"]) :
    keyword ∉ call.plain.supplied.keys := by
  intro hmem
  obtain ⟨entry, hentry, rfl⟩ := List.mem_map.mp hmem
  have hkept := (List.mem_filter.mp hentry).2
  rw [decide_eq_true_eq] at hkept
  exact hkept h

lemma usedPlatform_of_notMem (h : "platform" ∉ call.supplied.keys) :
    usedPlatform world call = (platformOf world call.device).map .str := by
  rw [usedPlatform_eq_iff, TemplateCall.platform, get?_of_notMem h]
  exact .inl rfl

lemma transport_of_notMem (h : "sender" ∉ call.supplied.keys) : transport call = none := by
  rw [transport_eq_none_iff, TemplateCall.sender, get?_of_notMem h]
  rfl

lemma resolvePlatform_known {platform : String} (h : platform ∈ Platforms.knownPlatforms)
    (device : String) : resolvePlatform world (some platform) device = platform := by
  rw [resolvePlatform]
  rintro rfl
  exact absurd h (by decide)

variable {platform name device : String} {params : Dict}

lemma checkProbe_live (entry : ManifestEntry) :
    checkProbe (live world) platform entry [] =
      if Platforms.activeProbe platform entry.1 = true then
        (.ok (world.probeBudget []),
          [.probeBudget entry.1 entry.2 (world.probeBudget []).isNone])
      else (.ok none, []) := by
  rw [checkProbe]
  by_cases hactive : Platforms.activeProbe platform entry.1 = true
  · rw [if_pos hactive, if_pos ⟨hactive, rfl⟩]
    rfl
  · rw [if_neg hactive, if_neg (fun h => hactive h.1)]
    rfl

lemma refusedFrom_runRenderedCommand {t : List Effect} (ht : ∀ effect ∈ t, effect.isCheck = true)
    {entry : ManifestEntry} (h : ∀ command, renderCommand platform entry.1 entry.2 ≠ .ok command) :
    RefusedFrom t (runRenderedCommand (live world) parseTemplate device platform entry) := by
  rw [runRenderedCommand]
  rcases checkRendered_of_not h with ⟨message, hrun⟩ | ⟨e, hrun⟩
  · apply refusedFrom_bind hrun
    exact refusedFrom_pure ht (show STATUS_ERROR ≠ STATUS_SUCCESS by decide)
  · exact refusedFrom_bind_error hrun ht

lemma touchesFrom_runRenderedCommand {t : List Effect} {entry : ManifestEntry} {command : String}
    (h : renderCommand platform entry.1 entry.2 = .ok command) :
    TouchesFrom t (runRenderedCommand (live world) parseTemplate device platform entry) := by
  rw [runRenderedCommand]
  apply touchesFrom_bind (checkRendered_of_ok h)
  apply touchesFrom_of_leaves
  apply (leaves_openSession [command] _ _ _).weaken _ (fun _ h => h)
  rintro result events (rfl | rfl)
  · exact List.mem_singleton_self _
  · exact List.mem_cons_self ..

lemma refused_runTemplate (hknown : platform ∈ Platforms.knownPlatforms)
    (hstop : Platforms.supportsTemplate platform name = true →
      ProbeStopped world (.str device) platform name ∨
        ∀ command, renderCommand platform name params ≠ .ok command) :
    Refused (runTemplate (live world) parseTemplate device (name, params) (some platform)) := by
  have hnil : ∀ effect ∈ ([] : List Effect), effect.isCheck = true := by simp
  rw [runTemplate, resolvePlatform_known hknown]
  dsimp only
  rw [if_neg (not_not_intro hknown)]
  by_cases hsupported : Platforms.supportsTemplate platform name = true
  · rw [if_neg (by simp [hsupported])]
    by_cases hdenied : Platforms.activeProbe platform name = true ∧ world.probesAllowed = false
    · rw [if_pos ⟨hdenied.1, by simp [hdenied.2]⟩]
      exact refusedFrom_pure hnil (show STATUS_ERROR ≠ STATUS_SUCCESS by decide)
    · rw [if_neg (by simpa using hdenied)]
      have hprobe := @checkProbe_live world platform (name, params)
      by_cases hactive : Platforms.activeProbe platform name = true
      · rw [if_pos hactive] at hprobe
        apply refusedFrom_bind hprobe
        cases hbudget : world.probeBudget [] with
        | some refusal =>
          apply refusedFrom_pure
          · simp [Effect.isCheck]
          · exact show STATUS_ERROR ≠ STATUS_SUCCESS by decide
        | none =>
          apply refusedFrom_runRenderedCommand
          · simp [Effect.isCheck]
          · rcases hstop hsupported with ⟨-, hstopped⟩ | hrender
            · rw [hbudget] at hstopped
              simp only [Value.isStr, Option.isSome_none, reduceCtorEq, Bool.false_eq_true,
                or_false] at hstopped
              exact absurd ⟨hactive, hstopped⟩ hdenied
            · exact hrender
      · rw [if_neg hactive] at hprobe
        apply refusedFrom_bind hprobe
        apply refusedFrom_runRenderedCommand hnil
        rcases hstop hsupported with ⟨hactive', -⟩ | hrender
        · exact absurd hactive' hactive
        · exact hrender
  · rw [if_pos (by simpa using hsupported)]
    exact refusedFrom_pure hnil (show STATUS_UNSUPPORTED ≠ STATUS_SUCCESS by decide)

lemma touches_runTemplate (hknown : platform ∈ Platforms.knownPlatforms)
    (hsupported : Platforms.supportsTemplate platform name = true)
    (hprobes : ¬ ProbeStopped world (.str device) platform name) {command : String}
    (hrender : renderCommand platform name params = .ok command) :
    TouchesFrom []
      (runTemplate (live world) parseTemplate device (name, params) (some platform)) := by
  rw [runTemplate, resolvePlatform_known hknown]
  dsimp only
  rw [if_neg (not_not_intro hknown), if_neg (by simp [hsupported])]
  have hprobe := @checkProbe_live world platform (name, params)
  by_cases hactive : Platforms.activeProbe platform name = true
  · rw [ProbeStopped, not_and, not_or, not_or] at hprobes
    obtain ⟨hallowed, -, hbudget⟩ := hprobes hactive
    rw [Option.not_isSome_iff_eq_none] at hbudget
    rw [if_neg (by simpa using fun _ => hallowed)]
    rw [if_pos hactive, hbudget] at hprobe
    apply touchesFrom_bind hprobe
    exact touchesFrom_runRenderedCommand hrender
  · rw [if_neg (by simp [hactive])]
    rw [if_neg hactive] at hprobe
    apply touchesFrom_bind hprobe
    exact touchesFrom_runRenderedCommand hrender

variable {unlisted : Value}

lemma leaves_sendUnlisted (entry : ManifestEntry) (command : String) :
    Leaves (sendUnlisted (live world) shown parseTemplate unlisted platform entry command)
      (fun _ events => events = [.getDevice]) (fun events => events = [.getDevice]) := by
  rw [sendUnlisted]
  dsimp only
  apply leaves_bind (leaves_emit _)
  rintro - events rfl
  split
  · exact leaves_pure rfl
  · exact leaves_raise rfl

lemma refused_runUnlisted
    (hstop : Platforms.supportsTemplate platform name = true →
      ProbeStopped world unlisted platform name ∨
        ∀ command, renderCommand platform name params ≠ .ok command) :
    Refused (runUnlisted (live world) shown parseTemplate unlisted platform (name, params)) := by
  have hnil : ∀ effect ∈ ([] : List Effect), effect.isCheck = true := by simp
  rw [runUnlisted]
  split
  · exact refusedFrom_pure hnil (show STATUS_UNSUPPORTED ≠ STATUS_SUCCESS by decide)
  · rename_i hsupported
    split
    · exact refusedFrom_pure hnil (show STATUS_ERROR ≠ STATUS_SUCCESS by decide)
    · split
      · exact refusedFrom_raise hnil _
      · rename_i hactive
        have hrender : ∀ command, renderCommand platform name params ≠ .ok command := by
          rcases hstop (by simpa using hsupported) with hstopped | hrender
          · exact absurd ⟨hstopped.1, rfl⟩ hactive
          · exact hrender
        have hentry : ∀ command, renderCommand platform (name, params).1 (name, params).2 ≠
            .ok command := hrender
        rcases checkRendered_of_not hentry with ⟨message, hrun⟩ | ⟨e, hrun⟩
        · apply refusedFrom_bind hrun
          exact refusedFrom_pure hnil (show STATUS_ERROR ≠ STATUS_SUCCESS by decide)
        · exact refusedFrom_bind_error hrun hnil

lemma touches_runUnlisted (hunlisted : unlisted.isStr = false)
    (hsupported : Platforms.supportsTemplate platform name = true)
    (hprobes : ¬ ProbeStopped world unlisted platform name) {command : String}
    (hrender : renderCommand platform name params = .ok command) :
    TouchesFrom []
      (runUnlisted (live world) shown parseTemplate unlisted platform (name, params)) := by
  have hinactive : Platforms.activeProbe platform name ≠ true := by
    intro hactive
    exact hprobes ⟨hactive, .inr (.inl hunlisted)⟩
  rw [runUnlisted, if_neg (by simp [hsupported]), if_neg (fun h => hinactive h.1),
    if_neg (fun h => hinactive h.1)]
  apply touchesFrom_bind (checkRendered_of_ok hrender)
  apply touchesFrom_of_leaves
  apply (leaves_sendUnlisted _ command).weaken
  · rintro - events rfl
    exact List.mem_singleton_self _
  · rintro events rfl
    exact List.mem_singleton_self _

lemma keeps_runUnlisted (entry : ManifestEntry) :
    Keeps (live world) platform
      (runUnlisted (live world) shown parseTemplate unlisted platform entry) := by
  have hnil : Authorised (live world) platform [] := authorised_of_cleared cleared_nil
  rw [runUnlisted]
  split
  · exact keeps_pure _
  · split
    · exact keeps_pure _
    · split
      · exact leaves_raise hnil
      · rename_i hactive
        have hinactive : Platforms.activeProbe platform entry.1 ≠ true := by
          intro h
          exact hactive ⟨h, rfl⟩
        have hraised : ∀ events : List Effect, events = [] →
            Authorised (live world) platform events := by
          rintro events rfl
          exact hnil
        apply leaves_bind ((leaves_checkRendered entry _).weaken (fun _ _ h => h) hraised)
        rintro answer events (⟨message, rfl, rfl⟩ | ⟨command, rfl, rfl, hrender⟩)
        · exact leaves_pure hnil
        · have hcleared : Cleared (live world) platform
              ([] ++ [.rendered entry.1 entry.2 command]) :=
            cleared_rendered hrender (fun h => absurd h hinactive) (.inl rfl)
              (fun h => absurd h hinactive)
          have hdone : Authorised (live world) platform
              ([.rendered entry.1 entry.2 command] ++ [.getDevice]) := by
            apply authorised_of hcleared
            constructor
            · simp [Effect.isCheck]
            · simp [Effect.commands]
            · exact Nat.le_refl 1
          apply (leaves_sendUnlisted entry command).weaken
          · rintro - events rfl
            exact hdone
          · rintro events rfl
            exact hdone

lemma callTemplate_eq
    (hplatform : usedPlatform world call = (platformOf world call.device).map .str)
    (htransport : transport call = none) :
    callTemplate world shown parseTemplate call =
      match platformOf world call.device with
      | .error e => raise e
      | .ok platform =>
        runOn (live world) shown parseTemplate call.device call.template (.str platform)
          call.params := by
  unfold callTemplate
  cases hplatformOf : platformOf world call.device <;>
    simp only [hplatform, htransport, hplatformOf, Except.map, live]

lemma runOn_text {device : Value} (hknown : platform ∈ Platforms.knownPlatforms) :
    runOn (live world) shown parseTemplate device (.str name) (.str platform) params =
      match device with
      | .str device => runTemplate (live world) parseTemplate device (name, params) (some platform)
      | device => runUnlisted (live world) shown parseTemplate device platform (name, params) := by
  have hchecked : ¬¬platform ∈ Platforms.knownPlatforms := not_not_intro hknown
  cases device <;> simp only [runOn, if_neg hchecked]

theorem refused_iff_stopped
    (hplatform : usedPlatform world call = (platformOf world call.device).map .str)
    (htransport : transport call = none) :
    Refused (callTemplate world shown parseTemplate call) ↔ Stopped world call := by
  have hnil : ∀ effect ∈ ([] : List Effect), effect.isCheck = true := by simp
  rw [callTemplate_eq hplatform htransport]
  constructor
  · intro hrefused platform name hdevice htemplate hknown hsupported
    by_contra hpassed
    rw [not_or, not_forall] at hpassed
    obtain ⟨hprobes, command, hrender⟩ := hpassed
    rw [not_not] at hrender
    rw [hdevice, htemplate] at hrefused
    dsimp only at hrefused
    rw [runOn_text hknown] at hrefused
    split at hrefused
    · rename_i device heq
      rw [heq] at hprobes
      exact (touches_runTemplate hknown hsupported hprobes hrender).not_refused hrefused
    · rename_i device hunlisted
      have hnotText : call.device.isStr = false := by
        cases hcase : call.device with
        | str text => exact absurd hcase (hunlisted text)
        | _ => rfl
      exact (touches_runUnlisted hnotText hsupported hprobes hrender).not_refused hrefused
  · intro hstopped
    cases hdevice : platformOf world call.device with
    | error e => exact refusedFrom_raise hnil e
    | ok platform =>
      dsimp only
      by_cases hknown : platform ∈ Platforms.knownPlatforms
      · cases htemplate : call.template with
        | str name =>
          have hstop := hstopped platform name hdevice htemplate hknown
          rw [runOn_text hknown]
          split
          · rename_i device heq
            rw [heq] at hstop
            exact refused_runTemplate hknown hstop
          · exact refused_runUnlisted hstop
        | _ =>
          unfold runOn
          dsimp only
          rw [if_neg (not_not_intro hknown)]
          split
          · exact refusedFrom_pure hnil (show STATUS_UNSUPPORTED ≠ STATUS_SUCCESS by decide)
          · exact refusedFrom_raise hnil _
      · unfold runOn
        dsimp only
        rw [if_pos hknown]
        exact refusedFrom_pure hnil (show STATUS_ERROR ≠ STATUS_SUCCESS by decide)

theorem keeps_callTemplate
    (hplatform : usedPlatform world call = (platformOf world call.device).map .str)
    (htransport : transport call = none) (hdevice : platformOf world call.device = .ok platform) :
    Keeps (live world) platform (callTemplate world shown parseTemplate call) := by
  rw [callTemplate_eq hplatform htransport, hdevice]
  unfold runOn
  dsimp only
  split
  · exact keeps_pure _
  · rename_i hknown
    rw [not_not] at hknown
    split
    · rename_i name htemplate
      split
      · rename_i device heq
        have hkeeps := @keeps_runTemplate (live world) parseTemplate device (name, call.params)
          (some platform)
        rw [resolvePlatform_known hknown] at hkeeps
        exact hkeeps
      · exact keeps_runUnlisted _
    · split
      · exact keeps_pure _
      · exact leaves_raise (authorised_of_cleared cleared_nil)

lemma validated_of_not_stopped (h : ¬ Stopped world call) :
    ∀ key ∈ call.params.keys, Validated world call key := by
  simp only [Stopped, not_forall, not_or, not_not] at h
  obtain ⟨platform, name, hdevice, htemplate, -, -, -, command, hrender⟩ := h
  obtain ⟨template, values, hfound, -, hextra, -⟩ := renderCommand_ok hrender
  intro key hkey
  exact ⟨platform, name, template, command, hdevice, htemplate, hfound, hextra key hkey, hrender⟩

lemma not_validated {keyword : String} (h : keyword ∈ ["platform", "sender"]) :
    ¬ Validated world call keyword := by
  rintro ⟨platform, name, template, command, -, -, hfound, hmem, -⟩
  refine notMem_params hfound ?_ hmem
  rw [List.mem_cons, List.mem_singleton] at h
  rcases h with rfl | rfl <;> decide

lemma callTemplate_plain
    (hplatform : usedPlatform world call = (platformOf world call.device).map .str)
    (htransport : transport call = none) :
    callTemplate world shown parseTemplate call =
      callTemplate world shown parseTemplate call.plain := by
  have hplatform' : "platform" ∉ call.plain.supplied.keys := notMem_plain (by decide)
  have hsender' : "sender" ∉ call.plain.supplied.keys := notMem_plain (by decide)
  have hparams : call.plain.params = call.params := params_eq_supplied hplatform' hsender'
  rw [callTemplate_eq hplatform htransport,
    callTemplate_eq (usedPlatform_of_notMem hplatform') (transport_of_notMem hsender'), hparams]
  rfl

/-- The parameters hold no keyword, or those that they hold change nothing and a check stops the
call. -/
def Harmless (world : World) (call : TemplateCall) : Prop :=
  ("platform" ∉ call.supplied.keys ∧ "sender" ∉ call.supplied.keys) ∨
    ((call.platform.truthy = false ∨
        ∃ platform, call.platform = .str platform ∧ platformOf world call.device = .ok platform) ∧
      call.sender = .none ∧ Stopped world call)

theorem paramsOnly_iff_harmless :
    ParamsOnly world shown parseTemplate call ↔ Harmless world call := by
  constructor
  · intro h
    have hplatform := usedPlatform_eq_iff.mp h.platform
    have hsender := transport_eq_none_iff.mp h.transport
    by_cases hstopped : Stopped world call
    · exact .inr ⟨hplatform, hsender, hstopped⟩
    · have hlive : ¬ Refused (callTemplate world shown parseTemplate call) := by
        rw [refused_iff_stopped h.platform h.transport]
        exact hstopped
      left
      constructor
      · intro hmem
        exact (h.keys _ hmem).elim (not_validated (by decide)) hlive
      · intro hmem
        exact (h.keys _ hmem).elim (not_validated (by decide)) hlive
  · intro h
    have hcall : usedPlatform world call = (platformOf world call.device).map .str ∧
        transport call = none := by
      rcases h with ⟨hplatform, hsender⟩ | ⟨hplatform, hsender, -⟩
      · exact ⟨usedPlatform_of_notMem hplatform, transport_of_notMem hsender⟩
      · exact ⟨usedPlatform_eq_iff.mpr hplatform, transport_eq_none_iff.mpr hsender⟩
    obtain ⟨hplatform, htransport⟩ := hcall
    have hrefused : Refused (callTemplate world shown parseTemplate call) ↔ Stopped world call :=
      refused_iff_stopped hplatform htransport
    refine ⟨hplatform, htransport, fun platform => keeps_callTemplate hplatform htransport,
      callTemplate_plain hplatform htransport, ?_⟩
    intro key hkey
    by_cases hstopped : Stopped world call
    · exact .inr (hrefused.mpr hstopped)
    · rcases h with ⟨hnoPlatform, hnoSender⟩ | ⟨-, -, hstopped'⟩
      · left
        apply validated_of_not_stopped hstopped
        rw [params_eq_supplied hnoPlatform hnoSender]
        exact hkey
      · exact absurd hstopped' hstopped

end Calls

/-- The parameters of a block are only parameters exactly when the call that they make is harmless.
A block whose input makes no call is refused before anything is done. -/
theorem labTemplate_paramsOnly_iff (world : World) (shown : Value → String)
    (parseTemplate : ParseTemplate) (toolInput : Dict) :
    (∀ call, bindTemplateCall toolInput = .ok call → ParamsOnly world shown parseTemplate call) ↔
      ∀ call, bindTemplateCall toolInput = .ok call → Harmless world call := by
  simp only [paramsOnly_iff_harmless]

def xrWorld : World where
  platformFor := fun _ => "cisco_xr"
  timestamp := ""
  probesAllowed := true
  probeBudget := fun _ => none
  getDevice := fun _ => .ok []
  session := fun _ _ => .ok { outputs := [] }
  sender := none

def pickedPlatform : Dict :=
  [("device_name", .str "PE1"), ("template", .str "route"),
    ("params", .dict [("prefix", .str "10.0.0.0/8"), ("platform", .str "cisco_iosxe")])]

/-- The device is sent the command of the other platform. -/
theorem not_paramsOnly_pickedPlatform :
    ∃ call, bindTemplateCall pickedPlatform = .ok call ∧
      ¬ ParamsOnly xrWorld (fun _ => "") (fun _ _ _ => (none, "unavailable")) call ∧
      ((callTemplate xrWorld (fun _ => "") (fun _ _ _ => (none, "unavailable")) call) []).2.flatMap
        Effect.commands = ["show ip route 10.0.0.0/8"] := by
  refine ⟨_, rfl, ?_, by decide +kernel⟩
  intro h
  have hplatform : Except.ok (Value.str "cisco_iosxe") =
      (Except.ok (Value.str "cisco_xr") : Except Raised Value) := h.platform
  simp at hplatform

end TemplateCalls

end NetTools
