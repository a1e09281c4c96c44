import NetTools.Descent.EpochReads

/-!
# An epoch on devices that change

`collect_epoch` on devices that may answer differently in every session, and what `for_device`
makes of it: each key stands for one call, and holds the last answer to it.
-/

namespace NetTools

inductive Call where
  | intent (name : String)
  | static (name : String)
  | template (name : String) (params : List (String × String))
  deriving DecidableEq, Repr

def Call.key : Call → String
  | intent name => name
  | static name => name
  | template name [] => name
  | template name ((_, value) :: _) => name ++ ":" ++ value

/-- What each session answers. The sessions of the `n`-th device of a plan are `2 * n` and
`2 * n + 1`. -/
abbrev Devices := Nat → String → Call → Section

/-- Answers by their keys, as a `dict` that later answers overwrite. -/
def evidenceOf (target : String) (answered : List (String × Section)) : Evidence :=
  { device := target
    get := fun key => (answered.filter (fun entry => entry.1 == key)).getLast?.map Prod.snd }

section Sessions

variable (devices : Devices) (subject : String) (originPrefix : Option String)

def manifestFor (steps : List CollectStep) (evidence : Evidence) : List (String × Call) :=
  steps.flatMap (fun step => (templateCalls step subject evidence originPrefix).map
    (fun call => (call.1, .template step.name call.2)))

def session (n : Nat) (target : String) (calls : List (String × Call)) :
    List (String × Section) :=
  calls.map (fun call => (call.1, devices n target call.2))

def intentCalls : List (String × Call) := allIntents.map (fun name => (name, .intent name))

def firstCalls (steps : List CollectStep) : List (String × Call) :=
  intentCalls ++ manifestFor subject originPrefix
    (if steps.any CollectStep.fansOut then
      steps.filter (fun step => step.fill == some "origin")
    else steps) (evidenceOf "" [])

def secondCalls (n : Nat) (target : String) (steps : List CollectStep) : List (String × Call) :=
  if steps.any CollectStep.fansOut then
    manifestFor subject originPrefix (steps.filter (fun step => step.fill != some "origin"))
      (evidenceOf target (session devices n target (firstCalls subject originPrefix steps)))
  else []

def deviceReads (n : Nat) (target : String) (steps : List CollectStep) :
    List (String × Section) :=
  session devices n target (firstCalls subject originPrefix steps) ++
    (if steps.any CollectStep.fansOut then
      session devices n target (manifestFor subject originPrefix
        (steps.filter (fun step => step.fill == some "origin")) (evidenceOf "" []))
    else []) ++
    session devices (n + 1) target (secondCalls devices subject originPrefix n target steps)

/-- `collect_epoch`, with the readings that `clock` gives in turn. -/
def collectEpochOver (flow : Flow) (device : String) (resolver : Option Resolver)
    (boundSeconds : ℚ) (clock : Nat → ℚ) : Except String EvidenceEpoch := do
  validatePrewalkCollection flow
  let planned ← plan flow device subject resolver
  let openedAt := clock 0
  let static := (staticKeys subject flow device resolver).map (fun (target, name) =>
    { key := name, device := target, started := openedAt, completed := openedAt
      envelope := devices 0 target (.static name) : Observation })
  let collected := planned.zipIdx.flatMap (fun ((target, steps), index) =>
    (deviceReads devices subject originPrefix (2 * index) target steps).map (fun entry =>
      { key := entry.1, device := target, started := clock (1 + 2 * index)
        completed := clock (2 + 2 * index), envelope := entry.2 : Observation }))
  pure
    { observations := static ++ collected
      openedAt
      closedAt := clock (1 + 2 * planned.length)
      boundSeconds
      sessionCounts := planned.map (fun (target, steps) =>
        (target, if steps.any CollectStep.fansOut then 2 else 1)) }

end Sessions

section Still

variable {fabric : Fabric} {subject : String} {originPrefix : Option String}

lemma keys_manifestFor (steps : List CollectStep) (evidence : Evidence) :
    (manifestFor subject originPrefix steps evidence).map Prod.fst =
      manifestKeys steps subject evidence originPrefix := by
  rw [manifestFor, manifestKeys, List.map_flatMap, List.map_flatMap]
  congr 1
  funext step
  rw [List.map_map]
  rfl

lemma key_templateCalls {step : CollectStep} {evidence : Evidence}
    {call : String × List (String × String)}
    (h : call ∈ templateCalls step subject evidence originPrefix) :
    (Call.template step.name call.2).key = call.1 := by
  unfold templateCalls at h
  split at h
  · split at h
    · cases h
    · rw [List.mem_singleton] at h
      rw [h]
      rfl
  · split at h
    · rw [List.mem_singleton] at h
      rw [h]
      rfl
    · split at h
      · rw [List.mem_singleton] at h
        rw [h]
        rfl
      · split at h
        · obtain ⟨name, -, rfl⟩ := List.mem_map.mp h
          rfl
        · split at h
          · rw [List.mem_singleton] at h
            rw [h]
            rfl
          · cases h

lemma key_manifestFor {steps : List CollectStep} {evidence : Evidence} {call : String × Call}
    (h : call ∈ manifestFor subject originPrefix steps evidence) : call.2.key = call.1 := by
  rw [manifestFor, List.mem_flatMap] at h
  obtain ⟨step, -, h⟩ := h
  obtain ⟨made, hmade, rfl⟩ := List.mem_map.mp h
  exact key_templateCalls hmade

lemma key_intentCalls {call : String × Call} (h : call ∈ intentCalls) : call.2.key = call.1 := by
  obtain ⟨name, -, rfl⟩ := List.mem_map.mp h
  rfl

lemma key_firstCalls {steps : List CollectStep} {call : String × Call}
    (h : call ∈ firstCalls subject originPrefix steps) : call.2.key = call.1 := by
  rw [firstCalls, List.mem_append] at h
  rcases h with h | h
  · exact key_intentCalls h
  · exact key_manifestFor h

def stillDevices (fabric : Fabric) : Devices := fun _ target call => fabric target call.key

lemma session_still {n : Nat} {target : String} {calls : List (String × Call)}
    (h : ∀ call ∈ calls, call.2.key = call.1) :
    session (stillDevices fabric) n target calls =
      (calls.map Prod.fst).map (fun key => (key, fabric target key)) := by
  rw [session, List.map_map]
  apply List.map_congr_left
  intro call hcall
  rw [stillDevices, h call hcall]
  rfl

lemma evidenceOf_still (target : String) (keys : List String) :
    evidenceOf target (keys.map (fun key => (key, fabric target key))) =
      answers fabric target keys := by
  rw [evidenceOf, answers]
  congr 1
  funext key
  have hfilter : (keys.map (fun key => (key, fabric target key))).filter
      (fun entry => entry.1 == key) =
        (keys.filter (· == key)).map (fun key => (key, fabric target key)) := by
    rw [List.filter_map]
    rfl
  rw [hfilter, List.getLast?_map, Option.map_map]
  by_cases hmem : key ∈ keys
  · have hne : keys.filter (· == key) ≠ [] :=
      List.ne_nil_of_mem (List.mem_filter.mpr ⟨hmem, beq_self_eq_true key⟩)
    have hlast := List.getLast_mem hne
    have hkey : (keys.filter (· == key)).getLast hne = key :=
      beq_iff_eq.mp (List.mem_filter.mp hlast).2
    rw [List.getLast?_eq_some_getLast hne, hkey, if_pos hmem]
    rfl
  · have hnil : keys.filter (· == key) = [] := by
      rw [List.filter_eq_nil_iff]
      intro other hother heq
      rw [beq_iff_eq.mp heq] at hother
      exact hmem hother
    rw [hnil, if_neg hmem]
    rfl

lemma session_manifest_still (n : Nat) (target : String) (steps : List CollectStep)
    (evidence : Evidence) :
    session (stillDevices fabric) n target (manifestFor subject originPrefix steps evidence) =
      (manifestKeys steps subject evidence originPrefix).map
        (fun key => (key, fabric target key)) := by
  rw [session_still (fun call hcall => key_manifestFor hcall), keys_manifestFor]

lemma manifestKeys_nothing (fabric : Fabric) (steps : List CollectStep) (target : String) :
    manifestKeys steps subject (evidenceOf "" []) originPrefix =
      manifestKeys steps subject (answers fabric target []) originPrefix := by
  have hnone : ∀ key, (evidenceOf "" []).get key = (answers fabric target []).get key := by
    intro key
    simp [answers, evidenceOf]
  have hsame : SamePath originPrefix (evidenceOf "" []) (answers fabric target []) :=
    ⟨hnone _, fun origin _ => hnone _⟩
  have hcalls : (fun step => templateCalls step subject (evidenceOf "" []) originPrefix) =
      fun step => templateCalls step subject (answers fabric target []) originPrefix := by
    funext step
    exact templateCalls_congr (fun _ => hsame)
  rw [manifestKeys, manifestKeys, hcalls]

lemma keys_firstCalls (fabric : Fabric) (steps : List CollectStep) (target : String) :
    (firstCalls subject originPrefix steps).map Prod.fst = allIntents ++
      manifestKeys (if steps.any CollectStep.fansOut then
        steps.filter (fun step => step.fill == some "origin") else steps) subject
        (answers fabric target []) originPrefix := by
  have hintents : intentCalls.map Prod.fst = allIntents := by
    rw [intentCalls, List.map_map]
    exact List.map_id _
  rw [firstCalls, List.map_append, hintents, keys_manifestFor,
    manifestKeys_nothing fabric _ target]

lemma deviceReads_still (n : Nat) (target : String) (steps : List CollectStep) :
    deviceReads (stillDevices fabric) subject originPrefix n target steps =
      (deviceKeys fabric subject originPrefix target steps).map
        (fun key => (key, fabric target key)) := by
  have hfirst : session (stillDevices fabric) n target (firstCalls subject originPrefix steps) =
      ((firstCalls subject originPrefix steps).map Prod.fst).map
        (fun key => (key, fabric target key)) :=
    session_still (fun call hcall => key_firstCalls hcall)
  rw [deviceReads, secondCalls, hfirst, keys_firstCalls fabric steps target,
    deviceKeys]
  by_cases hfan : steps.any CollectStep.fansOut = true
  · rw [if_pos hfan, if_pos hfan, if_pos hfan, if_pos hfan, evidenceOf_still,
      session_manifest_still, session_manifest_still, manifestKeys_nothing fabric _ target]
    simp only [List.map_append, List.append_assoc]
  · rw [if_neg hfan, if_neg hfan, if_neg hfan, if_neg hfan, List.append_nil]
    exact List.append_nil _

theorem collectEpochOver_still (flow : Flow) (device : String) (resolver : Option Resolver)
    (boundSeconds : ℚ) (clock : Nat → ℚ) :
    collectEpochOver (stillDevices fabric) subject originPrefix flow device resolver boundSeconds
        clock =
      collectEpoch fabric subject originPrefix flow device resolver boundSeconds clock := by
  rw [collectEpochOver, collectEpoch]
  simp only [deviceReads_still, List.map_map]
  rfl

end Still

end NetTools
