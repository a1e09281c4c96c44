import NetTools.Descent.CheckVerdicts
import NetTools.Descent.EpochSessions

/-!
# What the walk finds in an epoch

The keys that the rungs look up, and the observations of an epoch under them, on devices that may
answer differently in every session.
-/

namespace NetTools

/-! ### One call for each key -/

def templateParams : List (String × List String) :=
  [("bgp_neighbor", ["address"]), ("route", ["prefix"]), ("interface", ["interface"]),
    ("config_ldp", [])]

def Call.Known : Call → Prop
  | intent name => name ∈ allIntents
  | static name => name = "ldp_intent"
  | template name params => (name, params.map Prod.fst) ∈ templateParams

def keyName (key : String) : List Char := key.toList.takeWhile (· ≠ ':')

lemma keyName_append {name : String} (value : String) (h : ':' ∉ name.toList) :
    keyName (name ++ ":" ++ value) = name.toList := by
  have hsep : ":".toList = [':'] := rfl
  rw [keyName, String.toList_append, String.toList_append, hsep, List.append_assoc,
    List.takeWhile_append_of_pos, List.singleton_append, List.takeWhile_cons_of_neg,
    List.append_nil]
  · simp
  · intro c hc
    have hne : c ≠ ':' := fun heq => h (heq ▸ hc)
    simpa using hne

lemma keyName_self {name : String} (h : ':' ∉ name.toList) : keyName name = name.toList := by
  rw [keyName, List.takeWhile_eq_self_iff]
  intro c hc
  have hne : c ≠ ':' := fun heq => h (heq ▸ hc)
  simpa using hne

def Call.name : Call → String
  | intent name => name
  | static name => name
  | template name _ => name

lemma Call.Known.colon_not_mem {call : Call} (h : call.Known) : ':' ∉ call.name.toList := by
  have hintents : ∀ name ∈ allIntents, ':' ∉ name.toList := by decide
  have htemplates : ∀ entry ∈ templateParams, ':' ∉ entry.1.toList := by decide
  cases call with
  | intent name => exact hintents name h
  | static name =>
    have hname : name = "ldp_intent" := h
    rw [hname]
    decide
  | template name params => exact htemplates _ h

lemma Call.Known.keyName_key {call : Call} (h : call.Known) :
    keyName call.key = call.name.toList := by
  cases call with
  | intent name => exact keyName_self h.colon_not_mem
  | static name => exact keyName_self h.colon_not_mem
  | template name params =>
    cases params with
    | nil => exact keyName_self h.colon_not_mem
    | cons param params => exact keyName_append param.2 h.colon_not_mem

lemma params_eq_of_key {name : String} {params others : List (String × String)}
    (h : (name, params.map Prod.fst) ∈ templateParams)
    (hother : (name, others.map Prod.fst) ∈ templateParams)
    (hkey : (Call.template name params).key = (Call.template name others).key) :
    params = others := by
  have hnames : ∀ entry ∈ templateParams, ∀ entry' ∈ templateParams,
      entry.1 = entry'.1 → entry.2 = entry'.2 := by decide
  have hshort : ∀ entry ∈ templateParams, entry.2.length ≤ 1 := by decide
  have hsame : params.map Prod.fst = others.map Prod.fst := hnames _ h _ hother rfl
  have hlength := hshort _ h
  rw [List.length_map] at hlength
  match params, others with
  | [], [] => rfl
  | [], _ :: _ => cases hsame
  | _ :: _, [] => cases hsame
  | [(label, value)], (label', value') :: rest =>
    rw [List.map_cons, List.map_cons, List.cons.injEq, eq_comm (a := List.map Prod.fst []),
      List.map_nil, List.map_eq_nil_iff] at hsame
    have hvalue : value = value' := (String.append_right_inj (name ++ ":")).mp hkey
    have hlabel : label = label' := hsame.1
    rw [hvalue, hlabel, hsame.2]
  | _ :: _ :: _, _ :: _ =>
    rw [List.length_cons, List.length_cons] at hlength
    omega

theorem Call.Known.eq_of_key {call other : Call} (h : call.Known) (hother : other.Known)
    (hkey : call.key = other.key) : call = other := by
  have hname : call.name = other.name := by
    rw [← String.toList_inj, ← h.keyName_key, ← hother.keyName_key, hkey]
  have hintents : "ldp_intent" ∉ allIntents := by decide
  have htemplates : ∀ entry ∈ templateParams, entry.1 ∉ allIntents ∧ entry.1 ≠ "ldp_intent" := by
    decide
  cases call with
  | intent name =>
    cases other with
    | intent name' => exact congrArg Call.intent hname
    | static name' =>
      have hstatic : name' = "ldp_intent" := hother
      have hintent : name = name' := hname
      rw [Known, hintent, hstatic] at h
      exact absurd h hintents
    | template name' params =>
      have hintent : name = name' := hname
      rw [Known, hintent] at h
      exact absurd h (htemplates _ hother).1
  | static name =>
    have hstatic : name = "ldp_intent" := h
    cases other with
    | intent name' =>
      have hintent : name = name' := hname
      rw [Known, ← hintent, hstatic] at hother
      exact absurd hother hintents
    | static name' => exact congrArg Call.static hname
    | template name' params =>
      have hsame : name' = "ldp_intent" := Eq.trans (Eq.symm hname) hstatic
      exact absurd hsame (htemplates _ hother).2
  | template name params =>
    cases other with
    | intent name' =>
      have hintent : name = name' := hname
      rw [Known, ← hintent] at hother
      exact absurd hother (htemplates _ h).1
    | static name' =>
      have hstatic : name' = "ldp_intent" := hother
      exact absurd (Eq.trans hname hstatic) (htemplates _ h).2
    | template name' params' =>
      have hsame : name = name' := hname
      rw [← hsame] at hother hkey ⊢
      rw [params_eq_of_key h hother hkey]

section Plan

variable {flow : Flow} {device subject : String} {resolver : Option Resolver} {planned : Plan}

lemma plan_induction {P : Plan → Prop} (hnil : P [])
    (hstep : ∀ rung ∈ flow.descent, ∀ targets,
      resolveDevices rung device subject resolver = .ok targets → ∀ target ∈ targets,
        ∀ planned, P planned → P (planDevice rung planned target))
    (h : plan flow device subject resolver = .ok planned) : P planned := by
  obtain ⟨resolved, hresolved, rfl⟩ := plan_cases h
  refine List.foldlRecOn _ _ hnil (fun acc hacc rung hrung => ?_)
  exact List.foldlRecOn _ _ hacc (fun planned hplanned target htarget =>
    hstep rung hrung _ (hresolved rung hrung) target htarget planned hplanned)

lemma keys_planDevice (rung : Rung) (planned : Plan) (target : String) :
    (planDevice rung planned target).map Prod.fst =
      if target ∈ planned.map Prod.fst then planned.map Prod.fst
      else planned.map Prod.fst ++ [target] := by
  induction planned with
  | nil => rfl
  | cons entry rest ih =>
    obtain ⟨other, steps⟩ := entry
    rw [planDevice]
    by_cases heq : other = target
    · rw [if_pos heq, if_pos]
      · rfl
      · rw [← heq]
        exact List.mem_cons_self
    · have hmem : target ∈ other :: rest.map Prod.fst ↔ target ∈ rest.map Prod.fst := by
        rw [List.mem_cons, or_iff_right (fun h => heq h.symm)]
      rw [if_neg heq, List.map_cons, ih, List.map_cons]
      by_cases hin : target ∈ rest.map Prod.fst
      · rw [if_pos hin, if_pos (hmem.mpr hin)]
      · rw [if_neg hin, if_neg (fun h => hin (hmem.mp h))]
        rfl

lemma plan_nodup (h : plan flow device subject resolver = .ok planned) :
    (planned.map Prod.fst).Nodup := by
  apply plan_induction (P := fun planned => (planned.map Prod.fst).Nodup) _ _ h
  · exact List.nodup_nil
  · intro rung _ targets _ target _ planned hplanned
    rw [keys_planDevice]
    split
    · exact hplanned
    · rename_i hnew
      exact List.Nodup.append hplanned (List.nodup_singleton target)
        (List.disjoint_singleton.mpr hnew)

def Plan.Declared (flow : Flow) (device subject : String) (resolver : Option Resolver)
    (target : String) (step : CollectStep) : Prop :=
  ∃ rung ∈ flow.descent, step ∈ rung.collect ∧ step.isTemplate = true ∧
    ∃ targets, resolveDevices rung device subject resolver = .ok targets ∧ target ∈ targets

lemma mem_of_extendSteps {rung : Rung} {steps : List CollectStep} {step : CollectStep}
    (h : step ∈ extendSteps rung steps) :
    step ∈ steps ∨ step ∈ rung.collect ∧ step.isTemplate = true := by
  have hfold : ∀ (collect : List CollectStep) (steps : List CollectStep),
      step ∈ collect.foldl (fun steps step =>
        if step.isTemplate ∧ step ∉ steps then steps ++ [step] else steps) steps →
      step ∈ steps ∨ step ∈ collect ∧ step.isTemplate = true := by
    intro collect
    induction collect with
    | nil => exact fun steps h => .inl h
    | cons next rest ih =>
      intro steps h
      rw [List.foldl_cons] at h
      rcases ih _ h with h | ⟨h, htemplate⟩
      · split at h
        · rename_i hnext
          rcases List.mem_append.mp h with h | h
          · exact .inl h
          · rw [List.mem_singleton] at h
            rw [h]
            exact .inr ⟨List.mem_cons_self, hnext.1⟩
        · exact .inl h
      · exact .inr ⟨List.mem_cons_of_mem _ h, htemplate⟩
  exact hfold rung.collect steps h

lemma plan_declared (h : plan flow device subject resolver = .ok planned) :
    ∀ entry ∈ planned, ∀ step ∈ entry.2,
      Plan.Declared flow device subject resolver entry.1 step := by
  apply plan_induction (P := fun planned => ∀ entry ∈ planned, ∀ step ∈ entry.2,
    Plan.Declared flow device subject resolver entry.1 step) _ _ h
  · exact fun entry hentry => absurd hentry List.not_mem_nil
  · intro rung hrung targets hresolve target htarget planned hplanned
    have hextend : ∀ steps, (∀ step ∈ steps,
        Plan.Declared flow device subject resolver target step) →
        ∀ step ∈ extendSteps rung steps,
          Plan.Declared flow device subject resolver target step := by
      intro steps hsteps step hstep
      rcases mem_of_extendSteps hstep with hstep | ⟨hstep, htemplate⟩
      · exact hsteps step hstep
      · exact ⟨rung, hrung, hstep, htemplate, targets, hresolve, htarget⟩
    induction planned with
    | nil =>
      rw [planDevice, List.forall_mem_singleton]
      exact hextend [] (fun step hstep => absurd hstep List.not_mem_nil)
    | cons entry rest ih =>
      obtain ⟨other, steps⟩ := entry
      rw [List.forall_mem_cons] at hplanned
      rw [planDevice]
      split
      · rename_i heq
        rw [List.forall_mem_cons]
        refine ⟨?_, hplanned.2⟩
        rw [heq]
        apply hextend
        rw [← heq]
        exact hplanned.1
      · rw [List.forall_mem_cons]
        exact ⟨hplanned.1, ih hplanned.2⟩

end Plan

section Observations

variable {devices : Devices} {subject : String} {originPrefix : Option String} {flow : Flow}
  {device : String} {resolver : Option Resolver} {boundSeconds : ℚ} {clock : Nat → ℚ}
  {epoch : EvidenceEpoch} {planned : Plan} {target key : String} {sec : Section}
  {steps : List CollectStep} {n : Nat}

def Observed (epoch : EvidenceEpoch) (target key : String) : Prop :=
  ∃ observation ∈ epoch.observations, observation.device = target ∧ observation.key = key

lemma mem_session {calls : List (String × Call)} :
    (key, sec) ∈ session devices n target calls ↔
      ∃ call, (key, call) ∈ calls ∧ sec = devices n target call := by
  rw [session, List.mem_map]
  constructor
  · rintro ⟨⟨key', call⟩, hcall, heq⟩
    cases heq
    exact ⟨call, hcall, rfl⟩
  · rintro ⟨call, hcall, rfl⟩
    exact ⟨(key, call), hcall, rfl⟩

lemma mem_deviceReads :
    (key, sec) ∈ deviceReads devices subject originPrefix n target steps ↔
      (∃ call, (key, call) ∈ firstCalls subject originPrefix steps ∧
        sec = devices n target call) ∨
      ∃ call, (key, call) ∈ secondCalls devices subject originPrefix n target steps ∧
        sec = devices (n + 1) target call := by
  rw [deviceReads, List.mem_append, List.mem_append, mem_session, mem_session]
  constructor
  · rintro ((h | h) | h)
    · exact .inl h
    · split at h
      · rename_i hfan
        obtain ⟨call, hcall, hsec⟩ := mem_session.mp h
        refine .inl ⟨call, ?_, hsec⟩
        rw [firstCalls, if_pos hfan]
        exact List.mem_append_right _ hcall
      · cases h
    · exact .inr h
  · rintro (h | h)
    · exact .inl (.inl h)
    · exact .inr h

lemma collectEpochOver_observations
    (h : collectEpochOver devices subject originPrefix flow device resolver boundSeconds clock =
      .ok epoch) :
    ∃ planned, plan flow device subject resolver = .ok planned ∧ ∀ target key sec,
      (∃ observation ∈ epoch.observations, observation.device = target ∧
          observation.key = key ∧ observation.envelope = sec) ↔
        ((target, key) ∈ staticKeys subject flow device resolver ∧
          sec = devices 0 target (.static key)) ∨
        ∃ index steps, planned[index]? = some (target, steps) ∧
          (key, sec) ∈ deviceReads devices subject originPrefix (2 * index) target steps := by
  unfold collectEpochOver at h
  obtain ⟨-, -, h⟩ := Validation.bind_eq_ok_iff.mp h
  obtain ⟨planned, hplan, h⟩ := Validation.bind_eq_ok_iff.mp h
  cases h
  refine ⟨planned, hplan, ?_⟩
  intro target key sec
  dsimp only
  constructor
  · rintro ⟨observation, hobservation, rfl, rfl, rfl⟩
    rcases List.mem_append.mp hobservation with hobservation | hobservation
    · obtain ⟨_, hstatic, rfl⟩ := List.mem_map.mp hobservation
      exact .inl ⟨hstatic, rfl⟩
    · obtain ⟨⟨⟨target, steps⟩, index⟩, hplanned, hobservation⟩ :=
        List.mem_flatMap.mp hobservation
      obtain ⟨_, hread, rfl⟩ := List.mem_map.mp hobservation
      exact .inr ⟨index, steps, List.mk_mem_zipIdx_iff_getElem?.mp hplanned, hread⟩
  · rintro (⟨hstatic, rfl⟩ | ⟨index, steps, hplanned, hread⟩)
    · exact ⟨_, List.mem_append_left _ (List.mem_map_of_mem hstatic), rfl, rfl, rfl⟩
    · have hzip := List.mk_mem_zipIdx_iff_getElem?.mpr hplanned
      exact ⟨_, List.mem_append_right _
        (List.mem_flatMap.mpr ⟨_, hzip, List.mem_map_of_mem hread⟩), rfl, rfl, rfl⟩

lemma observation_of_get (h : (epoch.forDevice target).get key = some sec) :
    ∃ observation ∈ epoch.observations, observation.device = target ∧ observation.key = key ∧
      observation.envelope = sec := by
  unfold EvidenceEpoch.forDevice at h
  dsimp only at h
  obtain ⟨observation, hlast, rfl⟩ := Option.map_eq_some_iff.mp h
  have hmem := List.mem_of_getLast? hlast
  rw [List.mem_filter, List.mem_filter, beq_iff_eq, beq_iff_eq] at hmem
  exact ⟨observation, hmem.1.1, hmem.1.2, hmem.2, rfl⟩

lemma get_of_observations (hobserved : Observed epoch target key)
    (hall : ∀ observation ∈ epoch.observations, observation.device = target →
      observation.key = key → observation.envelope = sec) :
    (epoch.forDevice target).get key = some sec := by
  obtain ⟨observation, hin, hdevice, hkey⟩ := hobserved
  cases hget : (epoch.forDevice target).get key with
  | some other =>
    obtain ⟨last, hlast, hdevice', hkey', rfl⟩ := observation_of_get hget
    rw [hall last hlast hdevice' hkey']
  | none =>
    unfold EvidenceEpoch.forDevice at hget
    dsimp only at hget
    rw [Option.map_eq_none_iff, List.getLast?_eq_none_iff, List.filter_eq_nil_iff] at hget
    have hmem : observation ∈ epoch.observations.filter
        (fun observation => observation.device == target) :=
      List.mem_filter.mpr ⟨hin, beq_iff_eq.mpr hdevice⟩
    exact absurd (beq_iff_eq.mpr hkey) (hget observation hmem)

end Observations

section Registered

variable {devices : Devices} {subject : String} {originPrefix : Option String} {flow : Flow}
  {device : String} {resolver : Option Resolver} {boundSeconds : ℚ} {clock : Nat → ℚ}
  {epoch : EvidenceEpoch} {planned : Plan} {target key : String} {sec : Section}
  {steps : List CollectStep} {n : Nat} {step : CollectStep} {evidence : Evidence}

structure CollectStep.Registered (step : CollectStep) : Prop where
  known : (step.name, step.parameter.toList) ∈ templateParams
  fill : step.fill = some "origin" → step.name = "route"

lemma flows_steps_registered : ∀ flow ∈ flows, ∀ rung ∈ flow.descent, ∀ step ∈ rung.collect,
    step.isTemplate = true → step.Registered := by
  have hall : ∀ flow ∈ flows, ∀ rung ∈ flow.descent, ∀ step ∈ rung.collect,
      step.isTemplate = true → (step.name, step.parameter.toList) ∈ templateParams ∧
        (step.fill = some "origin" → step.name = "route") := by
    apply flows_rungs
    all_goals decide
  intro flow hflow rung hrung step hstep htemplate
  obtain ⟨hknown, hfill⟩ := hall flow hflow rung hrung step hstep htemplate
  exact ⟨hknown, hfill⟩

lemma CollectStep.Registered.known_templateCalls (h : step.Registered)
    {call : String × List (String × String)}
    (hcall : call ∈ templateCalls step subject evidence originPrefix) :
    (Call.template step.name call.2).Known := by
  have hknown := h.known
  rw [Call.Known]
  unfold templateCalls at hcall
  split at hcall
  · rename_i hfill
    rw [h.fill hfill] at hknown ⊢
    have hparameter : step.parameter = some "prefix" := by
      have hroute : ∀ entry ∈ templateParams, entry.1 = "route" → entry.2 = ["prefix"] := by decide
      have hlist := hroute _ hknown rfl
      dsimp only at hlist
      cases hparameter : step.parameter with
      | none =>
        rw [hparameter] at hlist
        cases hlist
      | some parameter =>
        rw [hparameter, Option.toList_some, List.cons.injEq] at hlist
        rw [hlist.1]
    split at hcall
    · cases hcall
    · rw [List.mem_singleton] at hcall
      rw [hcall, hparameter]
      have hroute : ("route", ["prefix"]) ∈ templateParams := by decide
      exact hroute
  · split at hcall
    · rename_i hparameter
      rw [List.mem_singleton] at hcall
      rw [hparameter] at hknown
      rw [hcall]
      exact hknown
    · rename_i parameter hparameter
      rw [hparameter] at hknown
      split at hcall
      · rename_i hfixed
        have hname : parameter = "prefix" := by simpa [prefixParameters] using hfixed
        rw [List.mem_singleton] at hcall
        rw [hname] at hknown
        rw [hcall]
        exact hknown
      · split at hcall
        · rename_i hfixed
          have hname : parameter = "interface" := by simpa [fanoutParameters] using hfixed
          obtain ⟨name, -, rfl⟩ := List.mem_map.mp hcall
          rw [hname] at hknown
          exact hknown
        · split at hcall
          · rw [List.mem_singleton] at hcall
            rw [hcall]
            exact hknown
          · cases hcall

lemma known_manifestFor (h : ∀ step ∈ steps, step.Registered) {call : Call}
    (hcall : (key, call) ∈ manifestFor subject originPrefix steps evidence) : call.Known := by
  rw [manifestFor, List.mem_flatMap] at hcall
  obtain ⟨step, hstep, hcall⟩ := hcall
  obtain ⟨made, hmade, heq⟩ := List.mem_map.mp hcall
  cases heq
  exact (h step hstep).known_templateCalls hmade

lemma known_firstCalls (h : ∀ step ∈ steps, step.Registered) {call : Call}
    (hcall : (key, call) ∈ firstCalls subject originPrefix steps) : call.Known := by
  rw [firstCalls, List.mem_append] at hcall
  rcases hcall with hcall | hcall
  · obtain ⟨name, hname, heq⟩ := List.mem_map.mp hcall
    cases heq
    exact hname
  · apply known_manifestFor _ hcall
    intro step hstep
    split at hstep
    · exact h step (List.mem_filter.mp hstep).1
    · exact h step hstep

lemma known_secondCalls (h : ∀ step ∈ steps, step.Registered) {call : Call}
    (hcall : (key, call) ∈ secondCalls devices subject originPrefix n target steps) :
    call.Known ∧ call.key = key := by
  rw [secondCalls] at hcall
  split at hcall
  · have hrest : ∀ step ∈ steps.filter (fun step => step.fill != some "origin"),
        step.Registered := fun step hstep => h step (List.mem_filter.mp hstep).1
    exact ⟨known_manifestFor hrest hcall, key_manifestFor hcall⟩
  · cases hcall

lemma registered_of_plan (hflow : flow ∈ flows)
    (hplan : plan flow device subject resolver = .ok planned) :
    ∀ entry ∈ planned, ∀ step ∈ entry.2, step.Registered := by
  intro entry hentry step hstep
  obtain ⟨rung, hrung, hcollect, htemplate, -⟩ := plan_declared hplan entry hentry step hstep
  exact flows_steps_registered flow hflow rung hrung step hcollect htemplate

lemma call_of_read (h : ∀ step ∈ steps, step.Registered)
    (hread : (key, sec) ∈ deviceReads devices subject originPrefix n target steps) :
    ∃ call m, call.Known ∧ call.key = key ∧ sec = devices m target call := by
  rcases mem_deviceReads.mp hread with ⟨call, hcall, hsec⟩ | ⟨call, hcall, hsec⟩
  · exact ⟨call, n, known_firstCalls h hcall, key_firstCalls hcall, hsec⟩
  · obtain ⟨hknown, hkey⟩ := known_secondCalls h hcall
    exact ⟨call, n + 1, hknown, hkey, hsec⟩

lemma name_of_staticKeys (hflow : flow ∈ flows)
    (h : (target, key) ∈ staticKeys subject flow device resolver) : key = "ldp_intent" := by
  have hnames : ∀ flow ∈ flows, ∀ rung ∈ flow.descent, ∀ step ∈ rung.collect,
      step.isStatic = true → step.name = "ldp_intent" := by
    apply flows_rungs
    all_goals decide
  obtain ⟨rung, hrung, -, -, -, step, hcollect, hstatic, rfl⟩ := mem_staticKeys.mp h
  exact hnames flow hflow rung hrung step hcollect hstatic

theorem answer_of_get (hflow : flow ∈ flows)
    (hepoch : collectEpochOver devices subject originPrefix flow device resolver boundSeconds
      clock = .ok epoch) (hget : (epoch.forDevice target).get key = some sec) :
    ∃ call m, call.key = key ∧ sec = devices m target call ∧
      ∀ other : Call, other.Known → other.key = key → other = call := by
  obtain ⟨planned, hplan, hobservations⟩ := collectEpochOver_observations hepoch
  have honly : ∀ call : Call, call.Known → call.key = key →
      ∀ other : Call, other.Known → other.key = key → other = call :=
    fun call hknown hkey other hother hkey' => hother.eq_of_key hknown (hkey'.trans hkey.symm)
  rcases (hobservations target key sec).mp (observation_of_get hget) with
    ⟨hstatic, hsec⟩ | ⟨index, steps, hindex, hread⟩
  · exact ⟨.static key, 0, rfl, hsec, honly _ (name_of_staticKeys hflow hstatic) rfl⟩
  · have hregistered := registered_of_plan hflow hplan _ (List.mem_of_getElem? hindex)
    obtain ⟨call, m, hknown, hkey, hsec⟩ := call_of_read hregistered hread
    exact ⟨call, m, hkey, hsec, honly call hknown hkey⟩

end Registered

/-- The keys that `_rung_subjects` looks up. -/
def subjectKeys (rung : Rung) (originPrefix : Option String) : List String :=
  match rung.subjectRule with
  | .eachPathInterface =>
    ((orNone originPrefix).map (fun origin => "route:" ++ origin)).toList ++ ["interfaces"]
  | .eachPhysicalInterface => ["interfaces"]
  | _ => []

def checkKeys (rung : Rung) (member : Option String) : List String :=
  let object := member.getD ""
  match rung.name with
  | "bgp_session" => ["bgp"]
  | "transport" => ["bgp_neighbor:" ++ object]
  | "route_to_peer" => ["route:" ++ object]
  | "igp_adjacency" => ["isis"]
  | "isis_adjacency" => ["isis", "lldp", "interfaces"]
  | "ldp_session" => ["ldp", "ldp_discovery", "interfaces", "config_ldp", "ldp_intent"]
  | _ => ["interface:" ++ object, "interfaces"]

section LookUps

variable {evidence evidence' : Evidence}

lemma requireParsed_congr {key : String} (h : evidence.get key = evidence'.get key)
    (subject : Option String) :
    requireParsed evidence key subject = requireParsed evidence' key subject := by
  unfold requireParsed
  rw [h]

lemma readInterfaceObservation_congr (hdevice : evidence.device = evidence'.device)
    {name : String} (hcapture : evidence.get ("interface:" ++ name) =
      evidence'.get ("interface:" ++ name))
    (hbulk : evidence.get "interfaces" = evidence'.get "interfaces") :
    readInterfaceObservation evidence name = readInterfaceObservation evidence' name := by
  have hread : ∀ bail, readBulkObservation evidence name bail =
      readBulkObservation evidence' name bail := by
    intro bail
    unfold readBulkObservation
    rw [requireParsed_congr hbulk, hdevice]
  unfold readInterfaceObservation
  simp only [requireParsed_congr hcapture, hdevice, hread]

theorem check_congr (hdevice : evidence.device = evidence'.device) :
    ∀ flow ∈ flows, ∀ rung ∈ flow.descent, ∀ member,
      (∀ key ∈ checkKeys rung member, evidence.get key = evidence'.get key) →
        rung.check evidence member = rung.check evidence' member := by
  have hinterface : ∀ name, (∀ key ∈ ["interface:" ++ name, "interfaces"],
      evidence.get key = evidence'.get key) →
        interfaceCheck evidence name = interfaceCheck evidence' name := by
    intro name h
    rw [List.forall_mem_cons, List.forall_mem_singleton] at h
    unfold interfaceCheck interfaceState
    rw [readInterfaceObservation_congr hdevice h.1 h.2]
  apply flows_rungs
  case session =>
    intro member h
    have hbgp := requireParsed_congr (h "bgp" List.mem_cons_self)
    change bgpSessionState _ _ = bgpSessionState _ _
    unfold bgpSessionState
    simp only [hbgp, hdevice]
  case transport =>
    intro member h
    have hneighbor := requireParsed_congr (h _ List.mem_cons_self)
    change bgpTransport _ _ = bgpTransport _ _
    unfold bgpTransport
    simp only [hneighbor, hdevice]
  case route =>
    intro member h
    have hroute := requireParsed_congr (h _ List.mem_cons_self)
    change routePresent _ _ = routePresent _ _
    unfold routePresent
    simp only [hroute, hdevice]
  case igp =>
    intro member h
    have hisis := requireParsed_congr (h "isis" List.mem_cons_self)
    change isisAdjacency _ _ = isisAdjacency _ _
    unfold isisAdjacency
    simp only [hisis, hdevice]
  case path => exact fun member h => hinterface (member.getD "") h
  case interface => exact fun member h => hinterface (member.getD "") h
  case isis =>
    intro member hkeys
    have h : ∀ key ∈ ["isis", "lldp", "interfaces"], evidence.get key = evidence'.get key := hkeys
    have hisis := requireParsed_congr (h "isis" (by decide))
    have hlldp := requireParsed_congr (h "lldp" (by decide))
    have hinterfaces := requireParsed_congr (h "interfaces" (by decide))
    change isisNeighborUp _ _ = isisNeighborUp _ _
    unfold isisNeighborUp
    simp only [hisis, hlldp, hinterfaces, hdevice]
  case ldp =>
    intro member hkeys
    have h : ∀ key ∈ ["ldp", "ldp_discovery", "interfaces", "config_ldp", "ldp_intent"],
        evidence.get key = evidence'.get key := hkeys
    have hldp := requireParsed_congr (h "ldp" (by decide))
    have hdiscovery := requireParsed_congr (h "ldp_discovery" (by decide))
    have hinterfaces := requireParsed_congr (h "interfaces" (by decide))
    have hconfig := requireParsed_congr (h "config_ldp" (by decide))
    have hintent := requireParsed_congr (h "ldp_intent" (by decide))
    change ldpSessionUp _ _ = ldpSessionUp _ _
    unfold ldpSessionUp
    simp only [hldp, hdiscovery, hinterfaces, hconfig, hintent, hdevice]

theorem rungSubjects_congr (rung : Rung) (subject : String) (originPrefix : Option String)
    (h : ∀ key ∈ subjectKeys rung originPrefix, evidence.get key = evidence'.get key) :
    rungSubjects rung subject evidence originPrefix =
      rungSubjects rung subject evidence' originPrefix := by
  unfold subjectKeys at h
  unfold rungSubjects
  cases hrule : rung.subjectRule with
  | asIs => rfl
  | hostPrefix => rfl
  | deviceWide => rfl
  | eachPhysicalInterface =>
    rw [hrule] at h
    have hinterfaces := h "interfaces" List.mem_cons_self
    dsimp only
    rw [physicalInterfaces_congr hinterfaces]
  | eachPathInterface =>
    rw [hrule] at h
    have hinterfaces := h "interfaces" (List.mem_append_right _ List.mem_cons_self)
    have hpath : SamePath originPrefix evidence evidence' := by
      refine ⟨hinterfaces, ?_⟩
      intro origin horigin
      apply h
      rw [horigin]
      exact List.mem_cons_self
    dsimp only
    rw [pathInterfaces_congr hpath, physicalInterfaces_congr hinterfaces]

theorem deviceResults_congr (hdevice : evidence.device = evidence'.device) {flow : Flow}
    (hflow : flow ∈ flows) {rung : Rung} (hrung : rung ∈ flow.descent) (subject : String)
    (originPrefix : Option String) (target : String)
    (hsubjects : ∀ key ∈ subjectKeys rung originPrefix, evidence.get key = evidence'.get key)
    (hchecks : ∀ member ∈ (rungSubjects rung subject evidence originPrefix).1,
      ∀ key ∈ checkKeys rung member, evidence.get key = evidence'.get key) :
    deviceResults rung subject (fun _ => evidence) originPrefix target =
      deviceResults rung subject (fun _ => evidence') originPrefix target := by
  unfold deviceResults
  rw [← rungSubjects_congr rung subject originPrefix hsubjects]
  dsimp only
  split
  · rfl
  · apply List.map_congr_left
    intro member hmember
    exact check_congr hdevice flow hflow rung hrung member (hchecks member hmember)

end LookUps

/-! ### What an epoch holds for a rung -/

def probe (devices : Devices) (subject : String) (originPrefix : Option String) (index : Nat)
    (target : String) (steps : List CollectStep) : Evidence :=
  evidenceOf target
    (session devices (2 * index) target (firstCalls subject originPrefix steps))

structure Collected (devices : Devices) (subject : String) (originPrefix : Option String)
    (flow : Flow) (device : String) (resolver : Option Resolver) (epoch : EvidenceEpoch)
    (planned : Plan) : Prop where
  mem : flow ∈ flows
  planned_of : plan flow device subject resolver = .ok planned
  observations : ∀ target key sec,
    (∃ observation ∈ epoch.observations, observation.device = target ∧ observation.key = key ∧
      observation.envelope = sec) ↔
        ((target, key) ∈ staticKeys subject flow device resolver ∧
          sec = devices 0 target (.static key)) ∨
        ∃ index steps, planned[index]? = some (target, steps) ∧
          (key, sec) ∈ deviceReads devices subject originPrefix (2 * index) target steps

namespace Collected

variable {devices : Devices} {subject : String} {originPrefix : Option String} {flow : Flow}
  {device : String} {resolver : Option Resolver} {epoch : EvidenceEpoch} {planned : Plan}
  {target key : String} {steps : List CollectStep} {index : Nat} {call : Call}
  (h : Collected devices subject originPrefix flow device resolver epoch planned)

include h

lemma observed_static (hstatic : (target, key) ∈ staticKeys subject flow device resolver) :
    Observed epoch target key := by
  obtain ⟨observation, hin, hdevice, hkey, -⟩ :=
    (h.observations target key _).mpr (.inl ⟨hstatic, rfl⟩)
  exact ⟨observation, hin, hdevice, hkey⟩

lemma observed_first (hindex : planned[index]? = some (target, steps))
    (hcall : (key, call) ∈ firstCalls subject originPrefix steps) : Observed epoch target key := by
  obtain ⟨observation, hin, hdevice, hkey, -⟩ := (h.observations target key _).mpr
    (.inr ⟨index, steps, hindex, mem_deviceReads.mpr (.inl ⟨call, hcall, rfl⟩)⟩)
  exact ⟨observation, hin, hdevice, hkey⟩

lemma observed_second (hindex : planned[index]? = some (target, steps))
    (hcall : (key, call) ∈
      secondCalls devices subject originPrefix (2 * index) target steps) :
    Observed epoch target key := by
  obtain ⟨observation, hin, hdevice, hkey, -⟩ := (h.observations target key _).mpr
    (.inr ⟨index, steps, hindex, mem_deviceReads.mpr (.inr ⟨call, hcall, rfl⟩)⟩)
  exact ⟨observation, hin, hdevice, hkey⟩

lemma registered (hindex : planned[index]? = some (target, steps)) :
    ∀ step ∈ steps, step.Registered :=
  registered_of_plan h.mem h.planned_of _ (List.mem_of_getElem? hindex)

lemma index_unique {other : Nat} {steps' : List CollectStep}
    (hindex : planned[index]? = some (target, steps))
    (hother : planned[other]? = some (target, steps')) : other = index ∧ steps' = steps := by
  have hnodup := plan_nodup h.planned_of
  have hfirst : (planned.map Prod.fst)[index]? = some target := by
    rw [List.getElem?_map, hindex]
    rfl
  have hsecond : (planned.map Prod.fst)[other]? = some target := by
    rw [List.getElem?_map, hother]
    rfl
  have hlength : other < (planned.map Prod.fst).length := by
    rw [List.getElem?_eq_some_iff] at hsecond
    exact hsecond.1
  have heq : other = index :=
    (List.getElem?_inj hlength hnodup).mp (hsecond.trans hfirst.symm)
  rw [heq, hindex] at hother
  cases hother
  exact ⟨heq, rfl⟩

lemma get_first (hindex : planned[index]? = some (target, steps))
    (hcall : (key, call) ∈ firstCalls subject originPrefix steps) (hkey : key ≠ "ldp_intent")
    (honce : ∀ other, (key, other) ∉
      secondCalls devices subject originPrefix (2 * index) target steps) :
    (epoch.forDevice target).get key = some (devices (2 * index) target call) := by
  have hregistered := h.registered hindex
  apply get_of_observations (h.observed_first hindex hcall)
  intro observation hin hdevice hkey'
  rcases (h.observations target key observation.envelope).mp
    ⟨observation, hin, hdevice, hkey', rfl⟩ with ⟨hstatic, -⟩ | ⟨other, steps', hother, hread⟩
  · exact absurd (name_of_staticKeys h.mem hstatic) hkey
  · obtain ⟨rfl, rfl⟩ := h.index_unique hindex hother
    rcases mem_deviceReads.mp hread with ⟨call', hcall', hsec⟩ | ⟨call', hcall', -⟩
    · have hsame : call' = call := (known_firstCalls hregistered hcall').eq_of_key
        (known_firstCalls hregistered hcall)
        ((key_firstCalls hcall').trans (key_firstCalls hcall).symm)
      rw [hsec, hsame]
    · exact absurd hcall' (honce call')

omit h in
lemma mem_manifestFor_of_key {step : CollectStep} {evidence : Evidence} (hstep : step ∈ steps)
    (hkey : key ∈ (templateCalls step subject evidence originPrefix).map Prod.fst) :
    ∃ params, (key, .template step.name params) ∈
      manifestFor subject originPrefix steps evidence := by
  obtain ⟨made, hmade, rfl⟩ := List.mem_map.mp hkey
  exact ⟨made.2, List.mem_flatMap.mpr ⟨step, hstep, List.mem_map_of_mem hmade⟩⟩

omit h in
lemma template_of_secondCalls
    (hcall : (key, call) ∈ secondCalls devices subject originPrefix (2 * index) target steps) :
    ∃ name params, call = .template name params := by
  rw [secondCalls] at hcall
  split at hcall
  · rw [manifestFor, List.mem_flatMap] at hcall
    obtain ⟨step, -, hcall⟩ := hcall
    obtain ⟨made, -, heq⟩ := List.mem_map.mp hcall
    cases heq
    exact ⟨_, _, rfl⟩
  · cases hcall

lemma planned_rung {rung : Rung} (hrung : rung ∈ flow.descent) {targets : List String}
    (hresolve : resolveDevices rung device subject resolver = .ok targets)
    (htarget : target ∈ targets) :
    ∃ (index : Nat) (steps : List CollectStep), planned[index]? = some (target, steps) ∧
      ∀ step ∈ rung.collect, step.isTemplate = true → step ∈ steps := by
  obtain ⟨steps, hin, hsubset⟩ := plan_covers h.planned_of hrung hresolve htarget
  obtain ⟨index, hindex⟩ := List.mem_iff_getElem?.mp hin
  exact ⟨index, steps, hindex,
    fun step hstep htemplate => hsubset (List.mem_filter.mpr ⟨hstep, htemplate⟩)⟩

lemma observed_intent (hindex : planned[index]? = some (target, steps)) (hkey : key ∈ allIntents) :
    Observed epoch target key :=
  h.observed_first hindex (List.mem_append_left _
    (List.mem_map_of_mem (f := fun name => (name, Call.intent name)) hkey))

lemma observed_step {rung : Rung} (hrung : rung ∈ flow.descent) {targets : List String}
    (hresolve : resolveDevices rung device subject resolver = .ok targets)
    (htarget : target ∈ targets) {step : CollectStep} (hstep : step ∈ rung.collect)
    (hplain : step.Plain) (hfan : step.fansOut = false) :
    Observed epoch target (step.key subject) := by
  obtain ⟨index, steps, hindex, hsteps⟩ := h.planned_rung hrung hresolve htarget
  cases htemplate : step.isTemplate with
  | true =>
    have hin := hsteps step hstep htemplate
    have hkey : ∀ evidence, step.key subject ∈
        (templateCalls step subject evidence originPrefix).map Prod.fst := by
      intro evidence
      rw [templateCalls_plain hplain hfan]
      exact List.mem_singleton_self _
    by_cases hfans : steps.any CollectStep.fansOut = true
    · have hrest : step ∈ steps.filter (fun step => step.fill != some "origin") := by
        rw [List.mem_filter, hplain.fill]
        exact ⟨hin, rfl⟩
      obtain ⟨params, hcall⟩ := mem_manifestFor_of_key hrest
        (hkey (probe devices subject originPrefix index target steps))
      have hsecond : (step.key subject, Call.template step.name params) ∈
          secondCalls devices subject originPrefix (2 * index) target steps := by
        rw [secondCalls, if_pos hfans]
        exact hcall
      exact h.observed_second hindex hsecond
    · obtain ⟨params, hcall⟩ := mem_manifestFor_of_key hin (hkey (evidenceOf "" []))
      have hfirst : (step.key subject, Call.template step.name params) ∈
          firstCalls subject originPrefix steps := by
        rw [firstCalls, if_neg hfans]
        exact List.mem_append_right _ hcall
      exact h.observed_first hindex hfirst
  | false =>
    obtain ⟨hparameter, hname⟩ := hplain.steady htemplate
    have hkey : step.key subject = step.name := by
      unfold CollectStep.key
      rw [hparameter]
    rw [hkey]
    rcases hname with hstatic | hintent
    · exact h.observed_static (mem_staticKeys.mpr
        ⟨rung, hrung, targets, hresolve, htarget, step, hstep, hstatic, rfl⟩)
    · exact h.observed_intent hindex hintent

lemma probe_get (hindex : planned[index]? = some (target, steps))
    (hcall : (key, call) ∈ firstCalls subject originPrefix steps) :
    (probe devices subject originPrefix index target steps).get key =
      some (devices (2 * index) target call) := by
  have hregistered := h.registered hindex
  set answered := session devices (2 * index) target (firstCalls subject originPrefix steps)
    with hanswered
  have hmem : (key, devices (2 * index) target call) ∈ answered :=
    mem_session.mpr ⟨call, hcall, rfl⟩
  have hne : answered.filter (fun entry => entry.1 == key) ≠ [] :=
    List.ne_nil_of_mem (List.mem_filter.mpr ⟨hmem, beq_self_eq_true key⟩)
  have hlast := List.mem_filter.mp (List.getLast_mem hne)
  have hkey : ((answered.filter (fun entry => entry.1 == key)).getLast hne).1 = key :=
    beq_iff_eq.mp hlast.2
  obtain ⟨call', hcall', hsec⟩ := mem_session.mp hlast.1
  have hsame : call' = call := by
    apply (known_firstCalls hregistered hcall').eq_of_key (known_firstCalls hregistered hcall)
    rw [key_firstCalls hcall', key_firstCalls hcall, hkey]
  rw [probe, evidenceOf]
  dsimp only
  rw [← hanswered, List.getLast?_eq_some_getLast hne, Option.map_some, hsec, hsame]

lemma get_interfaces (hindex : planned[index]? = some (target, steps)) :
    (epoch.forDevice target).get "interfaces" =
      (probe devices subject originPrefix index target steps).get "interfaces" := by
  have hcall : ("interfaces", Call.intent "interfaces") ∈
      firstCalls subject originPrefix steps :=
    List.mem_append_left _ (List.mem_map_of_mem (f := fun name => (name, Call.intent name))
      (by decide : "interfaces" ∈ allIntents))
  rw [h.probe_get hindex hcall]
  apply h.get_first hindex hcall (by decide)
  intro other hother
  obtain ⟨hknown, hkey⟩ := known_secondCalls (h.registered hindex) hother
  obtain ⟨name, params, rfl⟩ := template_of_secondCalls hother
  have hintent : (Call.intent "interfaces").Known := by
    rw [Call.Known]
    decide
  cases hknown.eq_of_key hintent hkey

lemma physicalInterfaces_eq (hindex : planned[index]? = some (target, steps)) :
    physicalInterfaces (epoch.forDevice target) =
      physicalInterfaces (probe devices subject originPrefix index target steps) :=
  physicalInterfaces_congr (h.get_interfaces hindex)

lemma observed_interface (hindex : planned[index]? = some (target, steps))
    (hstep : interfaceStep ∈ steps) {name : String}
    (hname : name ∈ (pathInterfaces (probe devices subject originPrefix index target steps)
        originPrefix).1 ∨
      name ∈ physicalInterfaces (probe devices subject originPrefix index target steps)) :
    Observed epoch target ("interface:" ++ name) := by
  have hfans : steps.any CollectStep.fansOut = true := List.any_eq_true.mpr ⟨_, hstep, rfl⟩
  have hrest : interfaceStep ∈ steps.filter (fun step => step.fill != some "origin") :=
    List.mem_filter.mpr ⟨hstep, rfl⟩
  obtain ⟨params, hcall⟩ := mem_manifestFor_of_key hrest (mem_interfaceCalls.mpr hname)
  have hsecond : ("interface:" ++ name, Call.template interfaceStep.name params) ∈
      secondCalls devices subject originPrefix (2 * index) target steps := by
    rw [secondCalls, if_pos hfans]
    exact hcall
  exact h.observed_second hindex hsecond

lemma route_again (hindex : planned[index]? = some (target, steps)) {origin : String}
    (hcall : ("route:" ++ origin, call) ∈
      secondCalls devices subject originPrefix (2 * index) target steps) :
    origin = subject ++ "/32" ∧ target = device := by
  have hroutes : ∀ flow ∈ flows, ∀ rung ∈ flow.descent, ∀ step ∈ rung.collect,
      step.isTemplate = true → step.name = "route" → step.fill ≠ some "origin" →
        step.fill = none ∧ step.parameter = some "prefix" ∧
          rung.deviceScope = .localDevice := by
    apply flows_rungs
    all_goals decide
  obtain ⟨hknown, hkey⟩ := known_secondCalls (h.registered hindex) hcall
  have hroute : (Call.template "route" [("prefix", origin)]).Known := by
    rw [Call.Known]
    exact (by decide : ("route", ["prefix"]) ∈ templateParams)
  have hsame := hknown.eq_of_key hroute hkey
  rw [secondCalls] at hcall
  split at hcall
  · rw [manifestFor, List.mem_flatMap] at hcall
    obtain ⟨step, hstep, hcall⟩ := hcall
    obtain ⟨made, hmade, heq⟩ := List.mem_map.mp hcall
    rw [← (Prod.mk.inj heq).2] at hsame
    obtain ⟨hin, hfill⟩ := List.mem_filter.mp hstep
    rw [bne_iff_ne] at hfill
    have hname : step.name = "route" := (Call.template.inj hsame).1
    obtain ⟨rung, hrung, hcollect, htemplate, targets, hresolve, htarget⟩ :=
      plan_declared h.planned_of _ (List.mem_of_getElem? hindex) step hin
    obtain ⟨hnone, hparameter, hscope⟩ :=
      hroutes flow h.mem rung hrung step hcollect htemplate hname hfill
    unfold resolveDevices at hresolve
    rw [if_pos hscope, Except.ok.injEq] at hresolve
    rw [← hresolve, List.mem_singleton] at htarget
    unfold templateCalls at hmade
    rw [if_neg hfill, hparameter] at hmade
    have hcalls : made = (step.name ++ ":" ++ (subject ++ "/32"), [("prefix", subject ++ "/32")]) :=
      List.mem_singleton.mp hmade
    have hparams := (Call.template.inj hsame).2
    rw [hcalls] at hparams
    cases hparams
    exact ⟨rfl, htarget⟩
  · cases hcall

lemma pathInterfaces_eq (hindex : planned[index]? = some (target, steps))
    (hroute : routeStep ∈ steps) (hstep : interfaceStep ∈ steps)
    (hother : ¬(orNone originPrefix = some (subject ++ "/32") ∧ target = device)) :
    pathInterfaces (epoch.forDevice target) originPrefix =
      pathInterfaces (probe devices subject originPrefix index target steps) originPrefix := by
  apply pathInterfaces_congr
  refine ⟨h.get_interfaces hindex, ?_⟩
  intro origin horigin
  have hfans : steps.any CollectStep.fansOut = true := List.any_eq_true.mpr ⟨_, hstep, rfl⟩
  have hcall : ("route:" ++ origin, Call.template "route" [("prefix", origin)]) ∈
      firstCalls subject originPrefix steps := by
    rw [firstCalls, if_pos hfans]
    apply List.mem_append_right
    refine List.mem_flatMap.mpr ⟨routeStep, List.mem_filter.mpr ⟨hroute, rfl⟩, ?_⟩
    have hfill : routeStep.fill = some "origin" := rfl
    unfold templateCalls
    rw [if_pos hfill, horigin]
    exact List.mem_singleton_self _
  have hkey : "route:" ++ origin ≠ "ldp_intent" := by
    intro heq
    have hname := keyName_append origin (by decide : ':' ∉ "route".toList)
    have hself := keyName_self (by decide : ':' ∉ "ldp_intent".toList)
    have hroute : keyName ("route:" ++ origin) = "route".toList := hname
    rw [heq, hself] at hroute
    exact absurd hroute (by decide)
  rw [h.probe_get hindex hcall]
  apply h.get_first hindex hcall hkey
  intro other hcall'
  obtain ⟨hsubject, htarget⟩ := h.route_again hindex hcall'
  exact hother ⟨horigin.trans (congrArg some hsubject), htarget⟩

end Collected

section Walk

variable {devices : Devices} {subject : String} {originPrefix : Option String} {flow : Flow}
  {device : String} {resolver : Option Resolver} {boundSeconds : ℚ} {clock : Nat → ℚ}
  {epoch : EvidenceEpoch} {planned : Plan} {target : String}

/-- Each key that the walk looks up is the key of an observation. -/
def CoversWalk (epoch : EvidenceEpoch) (flow : Flow) (device subject : String)
    (resolver : Option Resolver) (originPrefix : Option String) : Prop :=
  ∀ rung ∈ flow.descent, ∀ targets, resolveDevices rung device subject resolver = .ok targets →
    ∀ target ∈ targets, (∀ key ∈ subjectKeys rung originPrefix, Observed epoch target key) ∧
      ∀ member ∈ (rungSubjects rung subject (epoch.forDevice target) originPrefix).1,
        ∀ key ∈ checkKeys rung member, Observed epoch target key

/-- The capture of an interface that the collection did not know of: one that is no physical port
in the bulk table, named by the subject, or by the route to the device's own subject, which is read
twice. The check then goes by the bulk table, and is unevaluated only where that says nothing. -/
structure FallsBack (epoch : EvidenceEpoch) (device subject : String)
    (originPrefix : Option String) (rung : Rung) (target : String) (member : Option String)
    (key : String) : Prop where
  capture : key = "interface:" ++ member.getD ""
  unlisted : member.getD "" ∉ physicalInterfaces (epoch.forDevice target)
  named : rung.subjectRule = .asIs ∨
    orNone originPrefix = some (subject ++ "/32") ∧ target = device
  verdict : (rung.check (epoch.forDevice target) member).status = .unevaluated →
    ∃ sec, (epoch.forDevice target).get "interfaces" = some sec ∧
      (sec.parseStatus ≠ some PARSE_OK ∨
        sec.parsedRecords.find? (Record.onInterface (member.getD "")) = none)

lemma get_of_observed {key : String} (h : Observed epoch target key) :
    ∃ sec, (epoch.forDevice target).get key = some sec := by
  obtain ⟨observation, hin, hdevice, hkey⟩ := h
  have hne : (epoch.observations.filter (fun observation => observation.device == target)).filter
      (fun observation => observation.key == key) ≠ [] := by
    apply List.ne_nil_of_mem (a := observation)
    rw [List.mem_filter, List.mem_filter, beq_iff_eq, beq_iff_eq]
    exact ⟨⟨hin, hdevice⟩, hkey⟩
  unfold EvidenceEpoch.forDevice
  dsimp only
  rw [List.getLast?_eq_some_getLast hne]
  exact ⟨_, rfl⟩

lemma interfaceCheck_unevaluated {evidence : Evidence} {name : String} {sec : Section}
    (hbulk : evidence.get "interfaces" = some sec)
    (h : (interfaceCheck evidence name).status = .unevaluated) :
    sec.parseStatus ≠ some PARSE_OK ∨
      sec.parsedRecords.find? (Record.onInterface name) = none := by
  rw [interfaceCheck, interfaceCheck_status, interfaceVerdict, answer_eq_unevaluated_iff,
    Option.or_eq_none_iff] at h
  by_cases hok : sec.parseStatus = some PARSE_OK
  · have hread : evidence.read "interfaces" = some sec := by
      rw [Evidence.read, hbulk, Option.filter_some, hok]
      rfl
    rw [hread, Option.bind_some, firstAnswer, Option.map_eq_none_iff] at h
    exact .inr h.2
  · exact .inl hok

lemma covers_interface (h : Collected devices subject originPrefix flow device resolver epoch
      planned) {rung : Rung} (hrung : rung ∈ flow.descent) {targets : List String}
    (hresolve : resolveDevices rung device subject resolver = .ok targets)
    (htarget : target ∈ targets) (hcollect : interfaceStep ∈ rung.collect)
    (hcheck : rung.check = onName interfaceCheck) {member : Option String}
    (hnamed : member.getD "" ∉ physicalInterfaces (epoch.forDevice target) →
      ¬Observed epoch target ("interface:" ++ member.getD "") → rung.subjectRule = .asIs ∨
        orNone originPrefix = some (subject ++ "/32") ∧ target = device) :
    ∀ key ∈ ["interface:" ++ member.getD "", "interfaces"], Observed epoch target key ∨
      FallsBack epoch device subject originPrefix rung target member key := by
  obtain ⟨index, steps, hindex, hsteps⟩ := h.planned_rung hrung hresolve htarget
  have hbulk : Observed epoch target "interfaces" := h.observed_intent hindex (by decide)
  rw [List.forall_mem_cons, List.forall_mem_singleton]
  refine ⟨?_, .inl hbulk⟩
  by_cases hobserved : Observed epoch target ("interface:" ++ member.getD "")
  · exact .inl hobserved
  · right
    have hunlisted : member.getD "" ∉ physicalInterfaces (epoch.forDevice target) := by
      intro hlisted
      rw [h.physicalInterfaces_eq hindex] at hlisted
      exact hobserved (h.observed_interface hindex (hsteps _ hcollect rfl) (.inr hlisted))
    refine ⟨rfl, hunlisted, hnamed hunlisted hobserved, ?_⟩
    intro hunevaluated
    obtain ⟨sec, hsec⟩ := get_of_observed hbulk
    rw [hcheck, onName] at hunevaluated
    exact ⟨sec, hsec, interfaceCheck_unevaluated hsec hunevaluated⟩

lemma covers_steps (h : Collected devices subject originPrefix flow device resolver epoch planned)
    {rung : Rung} (hrung : rung ∈ flow.descent) {targets : List String}
    (hresolve : resolveDevices rung device subject resolver = .ok targets)
    (htarget : target ∈ targets)
    (hplain : ∀ step ∈ rung.collect, step.Plain ∧ step.fansOut = false) {keys : List String}
    (hkeys : keys = rung.collect.map (fun step => step.key subject)) :
    ∀ key ∈ keys, Observed epoch target key := by
  intro key hkey
  rw [hkeys] at hkey
  obtain ⟨step, hstep, rfl⟩ := List.mem_map.mp hkey
  exact h.observed_step hrung hresolve htarget hstep (hplain step hstep).1 (hplain step hstep).2

def CoversRung (epoch : EvidenceEpoch) (device subject : String) (originPrefix : Option String)
    (rung : Rung) (target : String) : Prop :=
  (∀ key ∈ subjectKeys rung originPrefix, Observed epoch target key) ∧
    ∀ member ∈ (rungSubjects rung subject (epoch.forDevice target) originPrefix).1,
      ∀ key ∈ checkKeys rung member, Observed epoch target key ∨
        FallsBack epoch device subject originPrefix rung target member key

lemma covers_path (h : Collected devices subject originPrefix flow device resolver epoch planned)
    (hrung : pathInterfaceRung ∈ flow.descent) {targets : List String}
    (hresolve : resolveDevices pathInterfaceRung device subject resolver = .ok targets)
    (htarget : target ∈ targets) :
    CoversRung epoch device subject originPrefix pathInterfaceRung target := by
  obtain ⟨index, steps, hindex, hsteps⟩ := h.planned_rung hrung hresolve htarget
  have hroute : routeStep ∈ steps := hsteps _ (by decide) rfl
  have hinterface : interfaceStep ∈ steps := hsteps _ (by decide) rfl
  constructor
  · intro key hkey
    rcases List.mem_append.mp hkey with hkey | hkey
    · obtain ⟨origin, horigin, rfl⟩ := Option.map_eq_some_iff.mp (Option.mem_toList.mp hkey)
      have hfill : routeStep.fill = some "origin" := rfl
      have hcalls : "route:" ++ origin ∈
          (templateCalls routeStep subject (evidenceOf "" []) originPrefix).map Prod.fst := by
        unfold templateCalls
        rw [if_pos hfill, horigin]
        exact List.mem_singleton_self _
      have hfans : steps.any CollectStep.fansOut = true :=
        List.any_eq_true.mpr ⟨_, hinterface, rfl⟩
      have hfirst : routeStep ∈ steps.filter (fun step => step.fill == some "origin") :=
        List.mem_filter.mpr ⟨hroute, rfl⟩
      obtain ⟨params, hcall⟩ := Collected.mem_manifestFor_of_key hfirst hcalls
      have hin : ("route:" ++ origin, Call.template routeStep.name params) ∈
          firstCalls subject originPrefix steps := by
        rw [firstCalls, if_pos hfans]
        exact List.mem_append_right _ hcall
      exact h.observed_first hindex hin
    · rw [List.mem_singleton] at hkey
      rw [hkey]
      exact h.observed_intent hindex (by decide)
  · intro member hmember
    apply covers_interface h hrung hresolve htarget (by decide) rfl
    intro hunlisted hunobserved
    right
    by_contra hother
    have hpath := h.pathInterfaces_eq hindex hroute hinterface hother
    have hlisted : member.getD "" ∈ (pathInterfaces (epoch.forDevice target) originPrefix).1 := by
      have hsubjects : (rungSubjects pathInterfaceRung subject (epoch.forDevice target)
          originPrefix).1 =
            if (pathInterfaces (epoch.forDevice target) originPrefix).1 ≠ [] then
              (pathInterfaces (epoch.forDevice target) originPrefix).1.map some
            else (physicalInterfaces (epoch.forDevice target)).map some := by
        change (if _ then _ else _ : List (Option String) × Option Aggregation).1 = _
        split
        · rfl
        · rfl
      rw [hsubjects] at hmember
      split at hmember
      · obtain ⟨name, hname, rfl⟩ := List.mem_map.mp hmember
        exact hname
      · obtain ⟨name, hname, rfl⟩ := List.mem_map.mp hmember
        exact absurd hname hunlisted
    rw [hpath] at hlisted
    exact hunobserved (h.observed_interface hindex hinterface (.inl hlisted))

lemma covers_rung : ∀ flow ∈ flows, ∀ rung ∈ flow.descent,
    ∀ (devices : Devices) (subject : String) (originPrefix : Option String) (walked : Flow)
      (device : String) (resolver : Option Resolver) (epoch : EvidenceEpoch) (planned : Plan),
      Collected devices subject originPrefix walked device resolver epoch planned →
        rung ∈ walked.descent → ∀ targets,
          resolveDevices rung device subject resolver = .ok targets → ∀ target ∈ targets,
            CoversRung epoch device subject originPrefix rung target := by
  apply flows_rungs
  case path =>
    intro devices subject originPrefix walked device resolver epoch planned h hrung targets
      hresolve target htarget
    exact covers_path h hrung hresolve htarget
  case interface =>
    intro devices subject originPrefix walked device resolver epoch planned h hrung targets
      hresolve target htarget
    refine ⟨fun key hkey => absurd hkey List.not_mem_nil, ?_⟩
    intro member hmember
    exact covers_interface h hrung hresolve htarget (by decide) rfl (fun _ _ => .inl rfl)
  all_goals
    intro devices subject originPrefix walked device resolver epoch planned h hrung targets
      hresolve target htarget
    refine ⟨fun key hkey => absurd hkey List.not_mem_nil, ?_⟩
    intro member hmember key hkey
    left
    rw [List.mem_singleton.mp hmember] at hkey
    exact covers_steps h hrung hresolve htarget (by decide) rfl key hkey

/-- Every key that a walk over the epoch looks up is the key of an observation, but for the capture
of an interface that the collection did not know of, where the bulk table decides; what
`for_device` gives under a key is that device's answer to the one call that the key stands for; and
no other key decides a verdict. -/
theorem collectEpochOver_covers (hflow : flow ∈ flows)
    (hepoch : collectEpochOver devices subject originPrefix flow device resolver boundSeconds
      clock = .ok epoch) :
    (∀ rung ∈ flow.descent, ∀ targets, resolveDevices rung device subject resolver = .ok targets →
      ∀ target ∈ targets, CoversRung epoch device subject originPrefix rung target) ∧
    (∀ target key sec, (epoch.forDevice target).get key = some sec →
      ∃ call m, call.key = key ∧ sec = devices m target call ∧
        ∀ other : Call, other.Known → other.key = key → other = call) ∧
    ∀ rung ∈ flow.descent, ∀ target (evidence : Evidence),
      (epoch.forDevice target).device = evidence.device →
      (∀ key ∈ subjectKeys rung originPrefix,
        (epoch.forDevice target).get key = evidence.get key) →
      (∀ member ∈ (rungSubjects rung subject (epoch.forDevice target) originPrefix).1,
        ∀ key ∈ checkKeys rung member, (epoch.forDevice target).get key = evidence.get key) →
      deviceResults rung subject epoch.forDevice originPrefix target =
        deviceResults rung subject (fun _ => evidence) originPrefix target := by
  obtain ⟨planned, hplan, hobservations⟩ := collectEpochOver_observations hepoch
  refine ⟨?_, ?_, ?_⟩
  · intro rung hrung targets hresolve target htarget
    exact covers_rung flow hflow rung hrung devices subject originPrefix flow device resolver epoch
      planned ⟨hflow, hplan, hobservations⟩ hrung targets hresolve target htarget
  · intro target key sec hget
    exact answer_of_get hflow hepoch hget
  · intro rung hrung target evidence hdevice hsubjects hchecks
    exact deviceResults_congr hdevice hflow hrung subject originPrefix target hsubjects hchecks

def loopbackDevices : Devices := fun _ _ _ =>
  { parsed := some { records :=
      [{ interface := some "Loopback0", adminState := some "up", lineProtocol := some "up" }] }
    parseStatus := some PARSE_OK }

/-- The interface check looks a loopback's capture up, and the epoch has none. -/
theorem not_coversWalk_loopback :
    ∃ epoch, collectEpochOver loopbackDevices "Loopback0" none interfaceFlow "PE1" none 30
        (fun n => n) = .ok epoch ∧
      ¬CoversWalk epoch interfaceFlow "PE1" "Loopback0" none none := by
  refine ⟨_, rfl, ?_⟩
  intro h
  obtain ⟨observation, hin, -, hkey⟩ := (h interfaceRung List.mem_cons_self ["PE1"] rfl "PE1"
    List.mem_cons_self).2 (some "Loopback0") List.mem_cons_self "interface:Loopback0"
      List.mem_cons_self
  have hmem := List.mem_map_of_mem (f := Observation.key) hin
  rw [hkey] at hmem
  exact absurd hmem (by decide +kernel)

def Evidence.only (keys : List String) (evidence : Evidence) : Evidence :=
  { evidence with get := fun key => if key ∈ keys then evidence.get key else none }

/-- The two rungs of an adjacency on a loopback. -/
theorem collectEpochOver_covers_loopback : ∃ epoch,
    collectEpochOver loopbackDevices "Loopback0" none isisAdjacencyFlow "PE1" none 30
        (fun n => n) = .ok epoch ∧
    CoversRung epoch "PE1" "Loopback0" none isisAdjacencyRung "PE1" ∧
    CoversRung epoch "PE1" "Loopback0" none interfaceRung "PE1" ∧
    (∀ target key sec, (epoch.forDevice target).get key = some sec →
      ∃ call m, call.key = key ∧ sec = loopbackDevices m target call ∧
        ∀ other : Call, other.Known → other.key = key → other = call) ∧
    deviceResults interfaceRung "Loopback0" epoch.forDevice none "PE1" =
      deviceResults interfaceRung "Loopback0" (fun _ =>
        Evidence.only ["interface:Loopback0", "interfaces"] (epoch.forDevice "PE1")) none "PE1" := by
  have hcollected : ∃ epoch, collectEpochOver loopbackDevices "Loopback0" none isisAdjacencyFlow
      "PE1" none 30 (fun n => n) = .ok epoch := ⟨_, rfl⟩
  obtain ⟨epoch, hepoch⟩ := hcollected
  obtain ⟨hcovers, hanswers, hdecide⟩ := collectEpochOver_covers
    (by simp [flows] : isisAdjacencyFlow ∈ flows) hepoch
  have hadjacency : isisAdjacencyRung ∈ isisAdjacencyFlow.descent := List.mem_cons_self
  have hinterface : interfaceRung ∈ isisAdjacencyFlow.descent := by simp [isisAdjacencyFlow]
  refine ⟨epoch, hepoch, hcovers _ hadjacency ["PE1"] rfl "PE1" List.mem_cons_self,
    hcovers _ hinterface ["PE1"] rfl "PE1" List.mem_cons_self, hanswers, ?_⟩
  apply hdecide interfaceRung hinterface "PE1" (Evidence.only _ (epoch.forDevice "PE1")) rfl
  · exact fun key hkey => absurd hkey List.not_mem_nil
  · intro member hmember key hkey
    rw [List.mem_singleton.mp hmember] at hkey
    exact (if_pos hkey).symm

end Walk

end NetTools
