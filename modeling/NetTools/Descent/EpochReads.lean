import NetTools.Descent.Epoch
import NetTools.Library.Validation

/-!
# What an epoch holds

The sections of an epoch that was collected over a fabric, key by key: everything that the
steps of a rung ask for is among them.
-/

namespace NetTools

def fabricEvidence (fabric : Fabric) (device : String) : Evidence :=
  { device, get := fun key => some (fabric device key) }

lemma forDevice_get {fabric : Fabric} {epoch : EvidenceEpoch}
    (hfabric : ∀ observation ∈ epoch.observations,
      observation.envelope = fabric observation.device observation.key) (target key : String) :
    ((∃ observation ∈ epoch.observations, observation.device = target ∧ observation.key = key) →
        (epoch.forDevice target).get key = some (fabric target key)) ∧
      ((¬∃ observation ∈ epoch.observations,
          observation.device = target ∧ observation.key = key) →
        (epoch.forDevice target).get key = none) := by
  have hmem : ∀ observation, observation ∈ (epoch.observations.filter
      (fun observation => observation.device == target)).filter
        (fun observation => observation.key == key) ↔
      observation ∈ epoch.observations ∧ observation.device = target ∧
        observation.key = key := by
    intro observation
    simp only [List.mem_filter, beq_iff_eq, and_assoc]
  constructor
  · rintro ⟨observation, hobservation⟩
    have hne := List.ne_nil_of_mem ((hmem observation).mpr hobservation)
    have hlast := List.getLast?_eq_some_getLast hne
    obtain ⟨hin, hdevice, hkey⟩ := (hmem _).mp (List.getLast_mem hne)
    unfold EvidenceEpoch.forDevice
    dsimp only
    rw [hlast, Option.map_some, hfabric _ hin, hdevice, hkey]
  · intro hnone
    have hnil : (epoch.observations.filter
        (fun observation => observation.device == target)).filter
          (fun observation => observation.key == key) = [] := by
      rw [List.eq_nil_iff_forall_not_mem]
      intro observation h
      exact hnone ⟨observation, (hmem observation).mp h⟩
    unfold EvidenceEpoch.forDevice
    dsimp only
    rw [hnil]
    rfl

section Plan

def Plan.Covers (planned : Plan) (target : String) (needed : List CollectStep) : Prop :=
  ∃ steps, (target, steps) ∈ planned ∧ needed ⊆ steps

lemma extendSteps_superset (rung : Rung) (steps : List CollectStep) :
    steps ⊆ extendSteps rung steps := by
  unfold extendSteps
  induction rung.collect generalizing steps with
  | nil => exact List.Subset.refl steps
  | cons step rest ih =>
    rw [List.foldl_cons]
    refine List.Subset.trans ?_ (ih _)
    split
    · exact List.subset_append_left steps [step]
    · exact List.Subset.refl steps

lemma mem_extendSteps {rung : Rung} {step : CollectStep} (hstep : step ∈ rung.collect)
    (htemplate : step.isTemplate = true) (steps : List CollectStep) :
    step ∈ extendSteps rung steps := by
  have hfold : ∀ (collect : List CollectStep) (steps : List CollectStep),
      step ∈ collect ∨ step ∈ steps → step ∈ collect.foldl (fun steps step =>
        if step.isTemplate ∧ step ∉ steps then steps ++ [step] else steps) steps := by
    intro collect
    induction collect with
    | nil =>
      intro steps h
      exact h.resolve_left List.not_mem_nil
    | cons next rest ih =>
      intro steps h
      rw [List.foldl_cons]
      apply ih
      rw [List.mem_cons, or_assoc] at h
      rcases h with rfl | h | h
      · right
        by_cases hin : step ∈ steps
        · rw [if_neg (fun h => h.2 hin)]
          exact hin
        · rw [if_pos ⟨htemplate, hin⟩]
          exact List.mem_append_right steps (List.mem_singleton_self step)
      · exact Or.inl h
      · right
        split
        · exact List.mem_append_left _ h
        · exact h
  exact hfold rung.collect steps (Or.inl hstep)

variable {rung : Rung} {target : String} {needed : List CollectStep}

lemma planDevice_covers_self (planned : Plan)
    (hneeded : ∀ step ∈ needed, step ∈ rung.collect ∧ step.isTemplate = true) :
    Plan.Covers (planDevice rung planned target) target needed := by
  have hextend : ∀ steps, needed ⊆ extendSteps rung steps := by
    intro steps step hstep
    exact mem_extendSteps (hneeded step hstep).1 (hneeded step hstep).2 steps
  induction planned with
  | nil => exact ⟨_, List.mem_singleton_self _, hextend []⟩
  | cons head rest ih =>
    rw [planDevice]
    by_cases heq : head.1 = target
    · rw [if_pos heq, heq]
      exact ⟨_, List.mem_cons_self, hextend head.2⟩
    · rw [if_neg heq]
      obtain ⟨steps, hin, hsub⟩ := ih
      exact ⟨steps, List.mem_cons_of_mem _ hin, hsub⟩

lemma planDevice_covers {planned : Plan} (other : String)
    (h : Plan.Covers planned target needed) :
    Plan.Covers (planDevice rung planned other) target needed := by
  obtain ⟨steps, hin, hsub⟩ := h
  induction planned with
  | nil => cases hin
  | cons head rest ih =>
    rw [planDevice]
    rcases List.mem_cons.mp hin with rfl | hin
    · by_cases heq : target = other
      · rw [if_pos heq]
        exact ⟨_, List.mem_cons_self,
          List.Subset.trans hsub (extendSteps_superset rung steps)⟩
      · rw [if_neg heq]
        exact ⟨steps, List.mem_cons_self, hsub⟩
    · by_cases heq : head.1 = other
      · rw [if_pos heq]
        exact ⟨steps, List.mem_cons_of_mem _ hin, hsub⟩
      · rw [if_neg heq]
        obtain ⟨steps', hin', hsub'⟩ := ih hin
        exact ⟨steps', List.mem_cons_of_mem _ hin', hsub'⟩

lemma planDevice_foldl_covers (targets : List String) {planned : Plan}
    (h : Plan.Covers planned target needed ∨ target ∈ targets ∧
      ∀ step ∈ needed, step ∈ rung.collect ∧ step.isTemplate = true) :
    Plan.Covers (targets.foldl (planDevice rung) planned) target needed := by
  induction targets generalizing planned with
  | nil => exact h.resolve_right (fun h => List.not_mem_nil h.1)
  | cons next rest ih =>
    rw [List.foldl_cons]
    apply ih
    rcases h with h | ⟨hin, hneeded⟩
    · exact Or.inl (planDevice_covers next h)
    · rcases List.mem_cons.mp hin with rfl | hin
      · exact Or.inl (planDevice_covers_self planned hneeded)
      · exact Or.inr ⟨hin, hneeded⟩

variable {flow : Flow} {device subject : String} {resolver : Option Resolver} {planned : Plan}

/-- A plan that succeeds has resolved the devices of every rung, and collects them in turn. -/
lemma plan_cases (h : plan flow device subject resolver = .ok planned) :
    ∃ resolved : Rung → List String,
      (∀ rung ∈ flow.descent, resolveDevices rung device subject resolver = .ok (resolved rung)) ∧
        planned = flow.descent.foldl
          (fun acc rung => (resolved rung).foldl (planDevice rung) acc) [] := by
  refine ⟨fun rung => (resolveDevices rung device subject resolver).toOption.getD [], ?_⟩
  dsimp only
  unfold plan at h
  generalize ([] : Plan) = acc at h ⊢
  generalize flow.descent = rungs at h ⊢
  induction rungs generalizing acc with
  | nil =>
    cases h
    exact ⟨fun _ hrung => absurd hrung List.not_mem_nil, rfl⟩
  | cons next rest ih =>
    rw [List.foldlM_cons] at h
    obtain ⟨acc', hacc, h⟩ := Validation.bind_eq_ok_iff.mp h
    cases hnext : resolveDevices next device subject resolver with
    | error message =>
      rw [hnext] at hacc
      cases hacc
    | ok targets =>
      rw [hnext] at hacc
      cases hacc
      obtain ⟨hrest, hplanned⟩ := ih _ h
      rw [List.foldl_cons, List.forall_mem_cons, hnext]
      exact ⟨⟨rfl, hrest⟩, hplanned⟩

theorem plan_covers (hplan : plan flow device subject resolver = .ok planned)
    (hrung : rung ∈ flow.descent) {targets : List String}
    (hresolve : resolveDevices rung device subject resolver = .ok targets)
    (htarget : target ∈ targets) :
    Plan.Covers planned target (rung.collect.filter CollectStep.isTemplate) := by
  obtain ⟨resolved, hresolved, rfl⟩ := plan_cases hplan
  have hown := hresolved rung hrung
  rw [hresolve] at hown
  obtain rfl := Except.ok.inj hown
  obtain ⟨before, after, hdescent⟩ := List.append_of_mem hrung
  rw [hdescent, List.foldl_append, List.foldl_cons]
  -- The rung's own steps are in the plan, and no later rung takes steps out of it.
  refine List.foldlRecOn (motive := fun acc => Plan.Covers acc target _) _ _ ?_
    (fun acc hacc next _ => planDevice_foldl_covers _ (Or.inl hacc))
  exact planDevice_foldl_covers _ (Or.inr ⟨htarget, fun step hstep => List.mem_filter.mp hstep⟩)

end Plan

section Collect

variable {fabric : Fabric} {subject : String} {originPrefix : Option String} {flow : Flow}
  {device : String} {resolver : Option Resolver} {boundSeconds : ℚ} {clock : Nat → ℚ}
  {epoch : EvidenceEpoch}

lemma mem_staticKeys {target key : String} :
    (target, key) ∈ staticKeys subject flow device resolver ↔
      ∃ rung ∈ flow.descent, ∃ targets, resolveDevices rung device subject resolver = .ok targets ∧
        target ∈ targets ∧ ∃ step ∈ rung.collect, step.isStatic = true ∧ step.name = key := by
  unfold staticKeys
  rw [List.mem_eraseDups, List.mem_flatMap]
  constructor
  · rintro ⟨rung, hrung, h⟩
    cases hresolve : resolveDevices rung device subject resolver with
    | error message =>
      rw [hresolve] at h
      cases h
    | ok targets =>
      rw [hresolve] at h
      obtain ⟨other, hother, h⟩ := List.mem_flatMap.mp h
      obtain ⟨step, hstep, heq⟩ := List.mem_map.mp h
      obtain ⟨hcollect, hstatic⟩ := List.mem_filter.mp hstep
      cases heq
      exact ⟨rung, hrung, targets, hresolve, hother, step, hcollect, hstatic, rfl⟩
  · rintro ⟨rung, hrung, targets, hresolve, htarget, step, hcollect, hstatic, rfl⟩
    refine ⟨rung, hrung, ?_⟩
    rw [hresolve]
    exact List.mem_flatMap.mpr ⟨target, htarget,
      List.mem_map_of_mem (List.mem_filter.mpr ⟨hcollect, hstatic⟩)⟩

def Held (fabric : Fabric) (subject : String) (originPrefix : Option String) (flow : Flow)
    (device : String) (resolver : Option Resolver) (planned : Plan) (target key : String) :
    Prop :=
  (target, key) ∈ staticKeys subject flow device resolver ∨
    ∃ steps, (target, steps) ∈ planned ∧ key ∈ deviceKeys fabric subject originPrefix target steps

lemma collectEpoch_observed
    (h : collectEpoch fabric subject originPrefix flow device resolver boundSeconds clock =
      .ok epoch) :
    ∃ planned, plan flow device subject resolver = .ok planned ∧
      (∀ observation ∈ epoch.observations,
        observation.envelope = fabric observation.device observation.key) ∧
      ∀ target key, (∃ observation ∈ epoch.observations,
          observation.device = target ∧ observation.key = key) ↔
        Held fabric subject originPrefix flow device resolver planned target key := by
  unfold collectEpoch at h
  obtain ⟨-, -, h⟩ := Validation.bind_eq_ok_iff.mp h
  obtain ⟨planned, hplan, h⟩ := Validation.bind_eq_ok_iff.mp h
  cases h
  refine ⟨planned, hplan, ?_, ?_⟩
  · intro observation hobservation
    dsimp only at hobservation
    rcases List.mem_append.mp hobservation with hobservation | hobservation
    · obtain ⟨_, _, rfl⟩ := List.mem_map.mp hobservation
      rfl
    · obtain ⟨_, _, hobservation⟩ := List.mem_flatMap.mp hobservation
      obtain ⟨_, _, rfl⟩ := List.mem_map.mp hobservation
      rfl
  · intro target key
    constructor
    · rintro ⟨observation, hobservation, rfl, rfl⟩
      dsimp only at hobservation
      rcases List.mem_append.mp hobservation with hobservation | hobservation
      · obtain ⟨_, hstatic, rfl⟩ := List.mem_map.mp hobservation
        exact Or.inl hstatic
      · obtain ⟨⟨⟨_, steps⟩, _⟩, hplanned, hobservation⟩ := List.mem_flatMap.mp hobservation
        obtain ⟨_, hkey, rfl⟩ := List.mem_map.mp hobservation
        exact Or.inr ⟨steps, List.fst_mem_of_mem_zipIdx hplanned, hkey⟩
    · rintro (hstatic | ⟨steps, hplanned, hkey⟩)
      · exact ⟨_, List.mem_append_left _ (List.mem_map_of_mem hstatic), rfl, rfl⟩
      · obtain ⟨index, hindex⟩ := List.mem_iff_getElem?.mp hplanned
        have hzip := List.mk_mem_zipIdx_iff_getElem?.mpr hindex
        exact ⟨_, List.mem_append_right _
          (List.mem_flatMap.mpr ⟨_, hzip, List.mem_map_of_mem hkey⟩), rfl, rfl⟩

theorem collectEpoch_get
    (h : collectEpoch fabric subject originPrefix flow device resolver boundSeconds clock =
      .ok epoch) :
    ∃ planned, plan flow device subject resolver = .ok planned ∧ ∀ target key,
      (Held fabric subject originPrefix flow device resolver planned target key →
          (epoch.forDevice target).get key = some (fabric target key)) ∧
        (¬Held fabric subject originPrefix flow device resolver planned target key →
          (epoch.forDevice target).get key = none) := by
  obtain ⟨planned, hplan, hfabric, hobserved⟩ := collectEpoch_observed h
  refine ⟨planned, hplan, ?_⟩
  intro target key
  rw [← hobserved]
  exact forDevice_get hfabric target key

end Collect

section TemplateCalls

variable {step : CollectStep} {subject : String} {originPrefix : Option String}
  {evidence evidence' : Evidence}

/-- Two sets of evidence show the same interfaces and the same route back. -/
def SamePath (originPrefix : Option String) (evidence evidence' : Evidence) : Prop :=
  evidence.get "interfaces" = evidence'.get "interfaces" ∧
    ∀ origin, orNone originPrefix = some origin →
      evidence.get ("route:" ++ origin) = evidence'.get ("route:" ++ origin)

lemma physicalInterfaces_congr (h : evidence.get "interfaces" = evidence'.get "interfaces") :
    physicalInterfaces evidence = physicalInterfaces evidence' := by
  unfold physicalInterfaces rowsUnder
  rw [h]

lemma pathInterfaces_congr (h : SamePath originPrefix evidence evidence') :
    pathInterfaces evidence originPrefix = pathInterfaces evidence' originPrefix := by
  unfold pathInterfaces rowsUnder
  cases horigin : orNone originPrefix with
  | none => rfl
  | some origin =>
    have hroute := h.2 origin horigin
    have hinterfaces := h.1
    dsimp only
    rw [hroute, hinterfaces]

lemma templateCalls_congr (h : step.fansOut = true → SamePath originPrefix evidence evidence') :
    templateCalls step subject evidence originPrefix =
      templateCalls step subject evidence' originPrefix := by
  unfold templateCalls
  by_cases hfill : step.fill = some "origin"
  · rw [if_pos hfill, if_pos hfill]
  · rw [if_neg hfill, if_neg hfill]
    cases hparameter : step.parameter with
    | none => rfl
    | some parameter =>
      dsimp only
      by_cases hfan : fanoutParameters.contains parameter = true
      · have hpath : SamePath originPrefix evidence evidence' := by
          apply h
          rw [CollectStep.fansOut, hparameter, Option.any_some, hfan]
        rw [pathInterfaces_congr hpath, physicalInterfaces_congr hpath.1]
      · rw [if_neg hfan, if_neg hfan]

lemma mem_manifestKeys {steps : List CollectStep} {key : String} :
    key ∈ manifestKeys steps subject evidence originPrefix ↔
      ∃ step ∈ steps, key ∈ (templateCalls step subject evidence originPrefix).map Prod.fst := by
  unfold manifestKeys
  rw [List.map_flatMap, List.mem_flatMap]

end TemplateCalls

section DeviceKeys

variable {fabric : Fabric} {subject : String} {originPrefix : Option String} {target : String}
  {steps : List CollectStep} {key : String}

lemma answers_get_of_mem {keys : List String} (h : key ∈ keys) :
    (answers fabric target keys).get key = some (fabric target key) := if_pos h

lemma mem_deviceKeys_of_intent (h : key ∈ allIntents) :
    key ∈ deviceKeys fabric subject originPrefix target steps := by
  unfold deviceKeys
  split
  · exact List.mem_append_left _ (List.mem_append_left _ h)
  · exact List.mem_append_left _ h

lemma mem_deviceKeys_of_step {step : CollectStep} (hstep : step ∈ steps)
    (hroute : step.fansOut = true → ∀ origin, orNone originPrefix = some origin →
      ∃ route ∈ steps, route.name = "route" ∧ route.fill = some "origin")
    (hkey : key ∈ (templateCalls step subject (fabricEvidence fabric target)
      originPrefix).map Prod.fst) :
    key ∈ deviceKeys fabric subject originPrefix target steps := by
  unfold deviceKeys
  by_cases hfan : steps.any CollectStep.fansOut = true
  · rw [if_pos hfan]
    set originKeys := manifestKeys (steps.filter (fun step => step.fill == some "origin")) subject
      (answers fabric target []) originPrefix with horiginKeys
    by_cases hfill : step.fill = some "origin"
    · have hsame : templateCalls step subject (answers fabric target []) originPrefix =
          templateCalls step subject (fabricEvidence fabric target) originPrefix := by
        unfold templateCalls
        rw [if_pos hfill, if_pos hfill]
      have hin : key ∈ originKeys := by
        rw [horiginKeys, mem_manifestKeys]
        refine ⟨step, List.mem_filter.mpr ⟨hstep, ?_⟩, ?_⟩
        · rw [hfill]
          rfl
        · rw [hsame]
          exact hkey
      exact List.mem_append_left _ (List.mem_append_right _ hin)
    · have hpath : step.fansOut = true → SamePath originPrefix
          (answers fabric target (allIntents ++ originKeys)) (fabricEvidence fabric target) := by
        intro hfan
        refine ⟨answers_get_of_mem (List.mem_append_left _ (by decide)), ?_⟩
        intro origin horigin
        obtain ⟨route, hin, hname, hfill⟩ := hroute hfan origin horigin
        apply answers_get_of_mem
        apply List.mem_append_right
        rw [horiginKeys, mem_manifestKeys]
        refine ⟨route, List.mem_filter.mpr ⟨hin, ?_⟩, ?_⟩
        · rw [hfill]
          rfl
        · unfold templateCalls
          rw [if_pos hfill, horigin, hname]
          exact List.mem_singleton_self _
      apply List.mem_append_right
      apply List.mem_append_right
      rw [mem_manifestKeys]
      refine ⟨step, List.mem_filter.mpr ⟨hstep, ?_⟩, ?_⟩
      · simpa using hfill
      · rw [templateCalls_congr hpath]
        exact hkey
  · rw [if_neg hfan]
    apply List.mem_append_right
    rw [mem_manifestKeys]
    refine ⟨step, hstep, ?_⟩
    rw [templateCalls_congr (fun h => absurd (List.any_eq_true.mpr ⟨step, hstep, h⟩) hfan)]
    exact hkey

end DeviceKeys

section Rungs

variable {fabric : Fabric} {subject : String} {originPrefix : Option String} {flow : Flow}
  {device : String} {resolver : Option Resolver} {planned : Plan} {rung : Rung}
  {targets : List String} {target : String} {step : CollectStep}

def CollectStep.key (step : CollectStep) (subject : String) : String :=
  match step.parameter with
  | none => step.name
  | some parameter =>
    if prefixParameters.contains parameter then step.name ++ ":" ++ (subject ++ "/32")
    else step.name ++ ":" ++ subject

/-- What the steps of a rung that is not about the path look like. -/
structure CollectStep.Plain (step : CollectStep) : Prop where
  fill : step.fill = none
  steady : step.isTemplate = false →
    step.parameter = none ∧ (step.isStatic = true ∨ step.name ∈ allIntents)
  parameter : step.parameter ∈ [none, some "address", some "prefix", some "interface"]

instance (step : CollectStep) : Decidable step.Plain :=
  decidable_of_iff (step.fill = none ∧ (step.isTemplate = false →
      step.parameter = none ∧ (step.isStatic = true ∨ step.name ∈ allIntents)) ∧
      step.parameter ∈ [none, some "address", some "prefix", some "interface"])
    ⟨fun h => ⟨h.1, h.2.1, h.2.2⟩, fun h => ⟨h.fill, h.steady, h.parameter⟩⟩

lemma flows_steps_plain :
    ∀ flow ∈ flows, ∀ rung ∈ flow.descent, rung.subjectRule ≠ .eachPathInterface →
      ∀ step ∈ rung.collect, step.Plain := by
  apply flows_rungs
  case path =>
    intro h
    exact absurd rfl h
  all_goals
    intro _
    decide

lemma templateCalls_plain (hplain : step.Plain) (hfan : step.fansOut = false)
    (evidence : Evidence) :
    (templateCalls step subject evidence originPrefix).map Prod.fst = [step.key subject] := by
  have hfill : ¬step.fill = some "origin" := by
    rw [hplain.fill]
    decide
  unfold templateCalls CollectStep.key
  rw [if_neg hfill]
  unfold CollectStep.fansOut at hfan
  have hparameter := hplain.parameter
  simp only [List.mem_cons, List.not_mem_nil, or_false] at hparameter
  rcases hparameter with h | h | h | h
  · rw [h]
    rfl
  · rw [h]
    rfl
  · rw [h]
    rfl
  · rw [h] at hfan
    cases hfan

lemma held_of_step (hplan : plan flow device subject resolver = .ok planned)
    (hrung : rung ∈ flow.descent)
    (hresolve : resolveDevices rung device subject resolver = .ok targets)
    (htarget : target ∈ targets) (hstep : step ∈ rung.collect) (hplain : step.Plain)
    (hfan : step.fansOut = false) :
    Held fabric subject originPrefix flow device resolver planned target (step.key subject) := by
  obtain ⟨steps, hin, hsub⟩ := plan_covers hplan hrung hresolve htarget
  cases htemplate : step.isTemplate with
  | true =>
    refine Or.inr ⟨steps, hin, ?_⟩
    apply mem_deviceKeys_of_step (hsub (List.mem_filter.mpr ⟨hstep, htemplate⟩))
    · intro h
      rw [hfan] at h
      cases h
    · rw [templateCalls_plain hplain hfan]
      exact List.mem_singleton_self _
  | false =>
    obtain ⟨hparameter, hname⟩ := hplain.steady htemplate
    have hkey : step.key subject = step.name := by
      unfold CollectStep.key
      rw [hparameter]
    rw [hkey]
    rcases hname with hstatic | hintent
    · exact Or.inl (mem_staticKeys.mpr
        ⟨rung, hrung, targets, hresolve, htarget, step, hstep, hstatic, rfl⟩)
    · exact Or.inr ⟨steps, hin, mem_deviceKeys_of_intent hintent⟩

lemma collectOneRung_get_step (hstep : step ∈ rung.collect) (hplain : step.Plain)
    (hfan : step.fansOut = false) :
    (collectOneRung fabric subject rung target).get (step.key subject) =
      some (fabric target (step.key subject)) := by
  apply if_pos
  unfold rereadKeys
  dsimp only
  rw [List.mem_append]
  cases htemplate : step.isTemplate with
  | true =>
    right
    rw [mem_manifestKeys]
    refine ⟨step, List.mem_filter.mpr ⟨hstep, htemplate⟩, ?_⟩
    rw [templateCalls_plain hplain hfan]
    exact List.mem_singleton_self _
  | false =>
    left
    have hkey : step.key subject = step.name := by
      unfold CollectStep.key
      rw [(hplain.steady htemplate).1]
    rw [hkey]
    refine List.mem_map_of_mem (List.mem_filter.mpr ⟨hstep, ?_⟩)
    rw [htemplate]
    rfl

end Rungs

section Fanout

variable {fabric : Fabric} {subject : String} {originPrefix : Option String} {flow : Flow}
  {device : String} {resolver : Option Resolver} {planned : Plan} {target name : String}

def interfaceStep : CollectStep :=
  { name := "interface", parameter := some "interface", isTemplate := true }

def routeStep : CollectStep :=
  { name := "route", parameter := some "prefix", isTemplate := true, fill := some "origin" }

lemma interface_key_colon (name : String) :
    ("interface:" ++ name).toList[9]? = some ':' := by
  rw [String.toList_append, List.getElem?_append_left (by decide)]
  rfl

lemma interface_key_not_intent (name : String) : "interface:" ++ name ∉ allIntents := by
  intro h
  have hkey : ∀ key ∈ allIntents, key.toList[9]? ≠ some ':' := by decide
  exact hkey _ h (interface_key_colon name)

lemma route_key_not_intent (origin : String) : "route:" ++ origin ∉ allIntents := by
  intro h
  have hkey : ∀ key ∈ allIntents, key.toList[0]? ≠ some 'r' := by decide
  apply hkey _ h
  rw [String.toList_append, List.getElem?_append_left (by decide)]
  rfl

lemma mem_interfaceCalls {evidence : Evidence} :
    "interface:" ++ name ∈
        (templateCalls interfaceStep subject evidence originPrefix).map Prod.fst ↔
      name ∈ (pathInterfaces evidence originPrefix).1 ∨ name ∈ physicalInterfaces evidence := by
  have hcalls : (templateCalls interfaceStep subject evidence originPrefix).map Prod.fst =
      (fromKeys ((pathInterfaces evidence originPrefix).1 ++ physicalInterfaces evidence)).map
        (fun name => "interface:" ++ name) := by
    unfold templateCalls
    rw [if_neg (by decide)]
    exact List.map_map
  rw [hcalls, List.mem_map]
  constructor
  · rintro ⟨other, hin, heq⟩
    rw [(String.append_right_inj "interface:").mp heq] at hin
    exact List.mem_append.mp (List.mem_eraseDups.mp hin)
  · intro h
    exact ⟨name, List.mem_eraseDups.mpr (List.mem_append.mpr h), rfl⟩

lemma deviceKeys_unrouted {steps : List CollectStep}
    (hfan : steps.any CollectStep.fansOut = true) (hfill : ∀ step ∈ steps, step.fill = none) :
    deviceKeys fabric subject originPrefix target steps =
      allIntents ++ manifestKeys steps subject (answers fabric target allIntents)
        originPrefix := by
  have horigin : steps.filter (fun step => step.fill == some "origin") = [] := by
    rw [List.filter_eq_nil_iff]
    intro step hstep
    rw [hfill step hstep]
    decide
  have hrest : steps.filter (fun step => step.fill != some "origin") = steps := by
    rw [List.filter_eq_self]
    intro step hstep
    rw [hfill step hstep]
    rfl
  unfold deviceKeys
  rw [if_pos hfan, horigin, hrest]
  rfl

lemma mem_deviceKeys_interface {steps : List CollectStep} (hstep : interfaceStep ∈ steps)
    (hfill : ∀ step ∈ steps, step.fill = none)
    (hothers : ∀ step ∈ steps, step ≠ interfaceStep → step.parameter = none ∧
      step.name.toList[9]? ≠ some ':') :
    "interface:" ++ name ∈ deviceKeys fabric subject originPrefix target steps ↔
      name ∈ physicalInterfaces (fabricEvidence fabric target) := by
  have hphysical : physicalInterfaces (answers fabric target allIntents) =
      physicalInterfaces (fabricEvidence fabric target) :=
    physicalInterfaces_congr (answers_get_of_mem (by decide))
  have hpath : pathInterfaces (answers fabric target allIntents) originPrefix = ([], []) := by
    unfold pathInterfaces
    cases orNone originPrefix with
    | none => rfl
    | some origin =>
      dsimp only [answers]
      rw [if_neg (route_key_not_intent origin)]
  rw [deviceKeys_unrouted (List.any_eq_true.mpr ⟨_, hstep, rfl⟩) hfill, List.mem_append,
    or_iff_right (interface_key_not_intent name), mem_manifestKeys]
  constructor
  · rintro ⟨step, hin, hkey⟩
    by_cases heq : step = interfaceStep
    · rw [heq, mem_interfaceCalls, hpath, hphysical] at hkey
      exact hkey.resolve_left List.not_mem_nil
    · obtain ⟨hparameter, hcolon⟩ := hothers step hin heq
      unfold templateCalls at hkey
      rw [if_neg (by rw [hfill step hin]; decide), hparameter] at hkey
      have hname : "interface:" ++ name = step.name := List.mem_singleton.mp hkey
      rw [← hname] at hcolon
      exact absurd (interface_key_colon name) hcolon
  · intro hname
    refine ⟨interfaceStep, hstep, ?_⟩
    rw [mem_interfaceCalls, hphysical]
    exact Or.inr hname

lemma plan_local {first second : Rung} (hdescent : flow.descent = [first, second])
    (hfirst : first.deviceScope = .localDevice) (hsecond : second.deviceScope = .localDevice) :
    plan flow device subject resolver =
      .ok [(device, extendSteps second (extendSteps first []))] := by
  have hone : planDevice first [] device = [(device, extendSteps first [])] := rfl
  have htwo : planDevice second [(device, extendSteps first [])] device =
      [(device, extendSteps second (extendSteps first []))] := if_pos rfl
  unfold plan
  rw [hdescent, List.foldlM_cons]
  unfold resolveDevices
  rw [if_pos hfirst, ← htwo, ← hone]
  dsimp only [Except.map, bind, Except.bind]
  rw [List.foldlM_cons, if_pos hsecond]
  rfl

theorem held_interface (hflow : flow ∈ flows) (hlocal : flow.objectType ≠ "bgp_session")
    (hplan : plan flow device subject resolver = .ok planned) :
    Held fabric subject originPrefix flow device resolver planned device
        ("interface:" ++ name) ↔
      name ∈ physicalInterfaces (fabricEvidence fabric device) := by
  have hplanned : ∃ steps, planned = [(device, steps)] ∧ interfaceStep ∈ steps ∧
      (∀ step ∈ steps, step.fill = none) ∧ ∀ step ∈ steps, step ≠ interfaceStep →
        step.parameter = none ∧ step.name.toList[9]? ≠ some ':' := by
    revert flow
    apply flows_cases
    · intro hlocal
      exact absurd rfl hlocal
    · intro _ hplan
      cases hplan
      exact ⟨_, rfl, by decide⟩
    · intro _ hplan
      rw [plan_local rfl rfl rfl] at hplan
      cases hplan
      exact ⟨_, rfl, by decide⟩
    · intro _ hplan
      rw [plan_local rfl rfl rfl] at hplan
      cases hplan
      exact ⟨_, rfl, by decide +kernel⟩
  have hstatic : (device, "interface:" ++ name) ∉ staticKeys subject flow device resolver := by
    have hnames : ∀ flow ∈ flows, ∀ rung ∈ flow.descent, ∀ step ∈ rung.collect,
        step.isStatic = true → step.name.toList[9]? ≠ some ':' := by
      apply flows_rungs
      all_goals decide
    intro h
    obtain ⟨rung, hrung, -, -, -, step, hin, hstatic, hname⟩ := mem_staticKeys.mp h
    apply hnames flow hflow rung hrung step hin hstatic
    rw [hname]
    exact interface_key_colon name
  obtain ⟨steps, rfl, hstep, hfill, hothers⟩ := hplanned
  rw [← @mem_deviceKeys_interface fabric subject originPrefix device name steps hstep hfill
    hothers]
  constructor
  · rintro (h | ⟨steps', hin, hkey⟩)
    · exact absurd h hstatic
    · cases List.mem_singleton.mp hin
      exact hkey
  · intro hkey
    exact Or.inr ⟨steps, List.mem_singleton_self _, hkey⟩

lemma rereadKeys_interfaceSteps {rung : Rung} (hcollect : rung.collect = interfaceSteps) :
    rereadKeys fabric subject rung target = "interfaces" ::
      (templateCalls interfaceStep subject (answers fabric target ["interfaces"]) none).map
        Prod.fst := by
  simp [rereadKeys, hcollect, interfaceSteps, manifestKeys, interfaceStep]

lemma rereadKeys_pathInterfaceRung :
    rereadKeys fabric subject pathInterfaceRung target = "interfaces" ::
      (templateCalls interfaceStep subject (answers fabric target ["interfaces"]) none).map
        Prod.fst := by
  have hroute : templateCalls routeStep subject (answers fabric target ["interfaces"]) none =
      [] := rfl
  change "interfaces" :: ([routeStep, interfaceStep].flatMap (fun step =>
    templateCalls step subject (answers fabric target ["interfaces"]) none)).map Prod.fst = _
  rw [List.flatMap_cons, List.flatMap_singleton, hroute, List.nil_append]

theorem collectOneRung_get_interface {rung : Rung}
    (hkeys : rereadKeys fabric subject rung target = "interfaces" ::
      (templateCalls interfaceStep subject (answers fabric target ["interfaces"]) none).map
        Prod.fst) :
    (collectOneRung fabric subject rung target).get "interfaces" =
        some (fabric target "interfaces") ∧
      (name ∈ physicalInterfaces (fabricEvidence fabric target) →
        (collectOneRung fabric subject rung target).get ("interface:" ++ name) =
          some (fabric target ("interface:" ++ name))) ∧
      (name ∉ physicalInterfaces (fabricEvidence fabric target) →
        (collectOneRung fabric subject rung target).get ("interface:" ++ name) = none) := by
  have hphysical : physicalInterfaces (answers fabric target ["interfaces"]) =
      physicalInterfaces (fabricEvidence fabric target) :=
    physicalInterfaces_congr (answers_get_of_mem List.mem_cons_self)
  have hmem : "interface:" ++ name ∈ rereadKeys fabric subject rung target ↔
      name ∈ physicalInterfaces (fabricEvidence fabric target) := by
    have hne : "interface:" ++ name ≠ "interfaces" := by
      intro h
      have hcolon := interface_key_colon name
      rw [h] at hcolon
      exact absurd hcolon (by decide)
    rw [hkeys, List.mem_cons, or_iff_right hne, mem_interfaceCalls, hphysical]
    exact or_iff_right List.not_mem_nil
  refine ⟨?_, ?_, ?_⟩
  · apply if_pos
    rw [hkeys]
    exact List.mem_cons_self
  · intro h
    exact if_pos (hmem.mpr h)
  · intro h
    exact if_neg (fun hin => h (hmem.mp hin))

end Fanout

end NetTools
