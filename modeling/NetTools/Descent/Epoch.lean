import NetTools.Descent.Findings

/-!
# The evidence epoch

`epoch.py`: one collection of everything a flow needs, and the re-read of the symptom and of
the proposed cause that follows the walk.
-/

namespace NetTools

abbrev Fabric := String → String → Section

def allIntents : List String :=
  ["facts", "interfaces", "bgp", "bgp_vpnv4", "lldp", "isis", "ldp", "ldp_discovery", "sr"]

def subjectParameters : List String := ["address"]

def prefixParameters : List String := ["prefix"]

def fanoutParameters : List String := ["interface"]

def fillStrategies : List String := ["origin"]

namespace CollectStep

def resolvable (step : CollectStep) : Bool :=
  step.isStatic || !step.isTemplate ||
    match step.fill, step.parameter with
    | some fill, _ => fillStrategies.contains fill
    | none, none => true
    | none, some parameter =>
      (subjectParameters ++ prefixParameters ++ fanoutParameters).contains parameter

def fansOut (step : CollectStep) : Bool := step.parameter.any fanoutParameters.contains

end CollectStep

def validatePrewalkCollection (flow : Flow) : Except String Unit :=
  match (flow.descent.flatMap Rung.collect).find? (fun step => !step.resolvable) with
  | none => .ok ()
  | some step => .error ("flow " ++ pyRepr flow.objectType ++ " collects " ++ pyRepr step.name ++
      ", which the epoch builder cannot resolve before the walk")

def templateCalls (step : CollectStep) (subject : String) (evidence : Evidence)
    (originPrefix : Option String) : List (String × List (String × String)) :=
  if step.fill = some "origin" then
    match orNone originPrefix with
    | none => []
    | some origin => [(step.name ++ ":" ++ origin, [(step.parameter.getD "", origin)])]
  else match step.parameter with
    | none => [(step.name, [])]
    | some parameter =>
      if prefixParameters.contains parameter then
        [(step.name ++ ":" ++ (subject ++ "/32"), [("prefix", subject ++ "/32")])]
      else if fanoutParameters.contains parameter then
        -- Both member sets: the walk chooses between them only later.
        (fromKeys ((pathInterfaces evidence originPrefix).1 ++ physicalInterfaces evidence)).map
          (fun name => (step.name ++ ":" ++ name, [("interface", name)]))
      else if subjectParameters.contains parameter then
        [(step.name ++ ":" ++ subject, [(parameter, subject)])]
      else []  -- refused by `validatePrewalkCollection`

def manifestKeys (steps : List CollectStep) (subject : String) (evidence : Evidence)
    (originPrefix : Option String) : List String :=
  (steps.flatMap (fun step => templateCalls step subject evidence originPrefix)).map Prod.fst

abbrev Plan := List (String × List CollectStep)

/-- The template steps of a rung that are not among `steps` yet. -/
def extendSteps (rung : Rung) (steps : List CollectStep) : List CollectStep :=
  rung.collect.foldl
    (fun steps step => if step.isTemplate ∧ step ∉ steps then steps ++ [step] else steps) steps

def planDevice (rung : Rung) : Plan → String → Plan
  | [], target => [(target, extendSteps rung [])]
  | (planned, steps) :: rest, target =>
    if planned = target then (planned, extendSteps rung steps) :: rest
    else (planned, steps) :: planDevice rung rest target

def plan (flow : Flow) (device subject : String) (resolver : Option Resolver) :
    Except String Plan :=
  flow.descent.foldlM (fun acc rung =>
    (resolveDevices rung device subject resolver).map (fun targets =>
      targets.foldl (planDevice rung) acc)) []

structure Observation where
  key : String
  device : String
  started : ℚ
  completed : ℚ
  envelope : Section

structure EvidenceEpoch where
  observations : List Observation := []
  openedAt : ℚ := 0
  closedAt : ℚ := 0
  boundSeconds : ℚ := 30
  sessionCounts : List (String × Nat) := []

namespace EvidenceEpoch

def skewSeconds (epoch : EvidenceEpoch) : ℚ := epoch.closedAt - epoch.openedAt

def forDevice (epoch : EvidenceEpoch) (device : String) : Evidence :=
  let own := epoch.observations.filter (fun observation => observation.device == device)
  { device := if own = [] then "unknown" else device
    get := fun key =>
      (own.filter (fun observation => observation.key == key)).getLast?.map
        Observation.envelope }

end EvidenceEpoch

section Collect

variable (fabric : Fabric) (subject : String) (originPrefix : Option String)

def answers (target : String) (keys : List String) : Evidence :=
  { device := target
    get := fun key => if key ∈ keys then some (fabric target key) else none }

/-- The keys under which a device is observed, in the order of the observations. A device that
fans out is read in two sessions: the first one carries the intents and the reverse route. -/
def deviceKeys (target : String) (steps : List CollectStep) : List String :=
  if steps.any CollectStep.fansOut then
    let originKeys := manifestKeys (steps.filter (fun step => step.fill == some "origin")) subject
      (answers fabric target []) originPrefix
    let probe := answers fabric target (allIntents ++ originKeys)
    let restKeys := manifestKeys (steps.filter (fun step => step.fill != some "origin")) subject
      probe originPrefix
    (allIntents ++ originKeys) ++ (originKeys ++ restKeys)
  else
    allIntents ++ manifestKeys steps subject (answers fabric target []) originPrefix

def staticKeys (flow : Flow) (device : String) (resolver : Option Resolver) :
    List (String × String) :=
  (flow.descent.flatMap (fun rung =>
    match resolveDevices rung device subject resolver with
    | .error _ => []
    | .ok targets => targets.flatMap (fun target =>
      (rung.collect.filter CollectStep.isStatic).map (fun step => (target, step.name))))).eraseDups

def collectEpoch (flow : Flow) (device : String) (resolver : Option Resolver)
    (boundSeconds : ℚ) (clock : Nat → ℚ) : Except String EvidenceEpoch := do
  validatePrewalkCollection flow
  let planned ← plan flow device subject resolver
  let openedAt := clock 0
  let static := (staticKeys subject flow device resolver).map (fun (target, name) =>
    { key := name, device := target, started := openedAt, completed := openedAt
      envelope := fabric target name : Observation })
  let collected := planned.zipIdx.flatMap (fun ((target, steps), index) =>
    (deviceKeys fabric subject originPrefix target steps).map (fun key =>
      { key, device := target, started := clock (1 + 2 * index)
        completed := clock (2 + 2 * index), envelope := fabric target key : Observation }))
  pure
    { observations := static ++ collected
      openedAt
      closedAt := clock (1 + 2 * planned.length)
      boundSeconds
      sessionCounts := planned.map (fun (target, steps) =>
        (target, if steps.any CollectStep.fansOut then 2 else 1)) }

def rereadKeys (rung : Rung) (target : String) : List String :=
  let steady := (rung.collect.filter (fun step => !step.isTemplate)).map CollectStep.name
  steady ++ manifestKeys (rung.collect.filter CollectStep.isTemplate) subject
    (answers fabric target steady) none

def collectOneRung (rung : Rung) (target : String) : Evidence :=
  { answers fabric target (rereadKeys fabric subject rung target) with device := "unknown" }

end Collect

def rungNamed (flow : Flow) (name : String) : Option Rung :=
  flow.descent.find? (fun rung => rung.name == name)

def rereadOutcome (fabric : Fabric) (flow : Flow) (subject device : String)
    (resolver : Option Resolver) (outcome : RungOutcome) : Option Reread :=
  (rungNamed flow outcome.rung).map (fun rung =>
    let (after, detail) :=
      match resolveDevices rung device subject resolver with
      | .error message => (RereadStatus.rereadFailed, some message)
      | .ok devices =>
        let result := evaluateRung rung devices subject (collectOneRung fabric subject rung) none
        (.verdict result.status, result.reason)
    { rung := outcome.rung, device := outcome.device, before := outcome.status, after, detail })

def rereadTargets (outcomes : List RungOutcome) : List RungOutcome :=
  match outcomes with
  | [] => []
  | symptom :: _ =>
    match (brokenOutcomes outcomes).getLast? with
    | some cause => if cause.rung ≠ symptom.rung then [symptom, cause] else [symptom]
    | none => [symptom]

def checkCoherence (fabric : Fabric) (flow : Flow) (outcomes : List RungOutcome)
    (epoch : EvidenceEpoch) (subject device : String) (resolver : Option Resolver) : Coherence :=
  { skewSeconds := epoch.skewSeconds
    boundSeconds := epoch.boundSeconds
    rereads := (rereadTargets outcomes).filterMap
      (rereadOutcome fabric flow subject device resolver) }

lemma flows_validate : ∀ flow ∈ flows, validatePrewalkCollection flow = .ok () :=
  flows_cases (by rfl) (by rfl) (by rfl) (by rfl)

end NetTools
