import NetTools.Grounding.Identifiers

/-!
# The gate of a report

`ground_report`: the citations of a report, its completeness against the descent, and what its prose
may say.
-/

namespace NetTools

namespace Grounding

variable (repr : Value → String) (lower : String → String) (u : CharClasses)

def hasClaim (item : Dict) : Bool :=
  match Dict.get? item "claim" with
  | some (.str text) => !isBlank text
  | _ => false

def claimFailure (item : Dict) (label detail : String) : List GroundingFailure :=
  if hasClaim item then [] else [⟨"empty_claim", label, detail⟩]

def citedKey (observation : Dict) : Option String :=
  match Dict.get? observation "evidence_key" with
  | some (.str key) => if isBlank key then none else some key
  | _ => none

def checkObservation (evidenceKeys : List String) (label : String) (observation : Value) :
    List GroundingFailure × Nat :=
  match observation with
  | .dict observation =>
    let failures := claimFailure observation label "observation has no claim"
    match citedKey observation with
    | none => (failures ++ [⟨"uncited_observation", label,
        "observation cites no evidence key; an observation is a fact read off a device and must " ++
        "name where it was read"⟩], 0)
    | some key =>
      (failures ++ (if key ∈ evidenceKeys then [] else [⟨"invented_evidence_key", label,
        "cites " ++ reprLocus repr (.str key) ++ ", which this descent never read"⟩]), 1)
  | _ => ([⟨"malformed_observation", label, "not a JSON object"⟩], 0)

def checkReferences (known : List String) (place : String) :
    List Value → Except HashError (List GroundingFailure)
  | [] => .ok []
  | reference :: references => do
    let there ← isMember known reference
    let rest ← checkReferences known place references
    return (if there then [] else [⟨"dangling_reference", place, "cites " ++
      reprLocus repr reference ++ ", which is not an observation in this report (it has " ++
      toString known.length ++ ")"⟩]) ++ rest

def basedOn (interpretation : Dict) : List Value :=
  match Dict.get? interpretation "based_on" with
  | some (.list references) => references
  | _ => []

def checkInterpretation (known : List String) (place : String) (interpretation : Value) :
    Except HashError (List GroundingFailure × Nat) :=
  match interpretation with
  | .dict interpretation => do
    let failures := claimFailure interpretation place "interpretation has no claim"
    let references := basedOn interpretation
    if references.isEmpty then
      return (failures ++ [⟨"uncited_interpretation", place,
        "interpretation cites no observations; an interpretation is the only inferential claim " ++
        "in the report and is exactly the one that must be traceable"⟩], 0)
    else
      let dangling ← checkReferences repr known place references
      return (failures ++ dangling, references.length)
  | _ => .ok ([⟨"malformed_interpretation", place, "not a JSON object"⟩], 0)

def checkInterpretations (known : List String) :
    Nat → List Value → Except HashError (List GroundingFailure × Nat)
  | _, [] => .ok ([], 0)
  | index, interpretation :: interpretations => do
    let checked ← checkInterpretation repr known ("interp-" ++ toString index) interpretation
    let rest ← checkInterpretations known (index + 1) interpretations
    return (checked.1 ++ rest.1, checked.2 + rest.2)

def checkRecommendation (report : Dict) : List GroundingFailure :=
  match (Dict.get? report "recommendation").getD .none with
  | .none => []
  | .dict recommendation =>
    match Dict.get? recommendation "requires_human" with
    | some (.bool true) => []
    | _ => [⟨"recommendation_not_flagged", "recommendation",
        "must carry requires_human: true -- it is the only uncited claim in the report, and the " ++
        "flag is what buys the exemption"⟩]
  | _ => [⟨"malformed_recommendation", "recommendation", "not a JSON object"⟩]

def checkGrounding (report : Value) (evidenceKeys : List String) :
    Except HashError GroundingResult :=
  match sequence report "observations", sequence report "interpretations" with
  | .error bad, _ => .ok { failures := [bad] }
  | .ok _, .error bad => .ok { failures := [bad] }
  | .ok observations, .ok interpretations => do
    let labels := observationLabels observations.length
    let observed := (labels.zip observations).map
      (fun observation => checkObservation repr evidenceKeys observation.1 observation.2)
    let interpreted ← checkInterpretations repr labels 1 interpretations
    let advice := match report with
      | .dict report => checkRecommendation report
      | _ => []
    return {
      failures := observed.flatMap Prod.fst ++ interpreted.1 ++ advice
      observationsChecked := observations.length
      citationsChecked := (observed.map Prod.snd).sum + interpreted.2 }

def evidenceKeyOf : Value → Option String
  | .dict observation =>
    match Dict.get? observation "evidence_key" with
    | some (.str key) => some key
    | _ => none
  | _ => none

def keyToLabel (observations : List Value) : List (String × String) :=
  ((observationLabels observations.length).zip observations).filterMap
    (fun observation => (evidenceKeyOf observation.2).map (fun key => (key, observation.1)))

def rungLabel (labels : List (String × String)) (outcome : RungOutcome) : Option String :=
  outcome.result.evidenceKeys.findSome? (fun key => labels.lookup key)

def citedLabels (interpretations : List Value) : List String :=
  interpretations.flatMap fun interpretation =>
    match interpretation with
    | .dict interpretation => (basedOn interpretation).filterMap (fun reference =>
        match reference with
        | .str label => some label
        | _ => none)
    | _ => []

def argument (descent : DescentResult) : List RungOutcome :=
  descent.causalChain ++ descent.cause.toList

def rungLabels (labels : List (String × String)) (required : List RungOutcome) :
    List (String × String) :=
  required.foldl (fun known outcome =>
    match rungLabel labels outcome with
    | some label => LastRow.assign known outcome.rung label
    | none => known) []

def checkChainCoverage (report : Value) (descent : DescentResult) : GroundingResult :=
  match sequence report "observations" with
  | .error bad => { failures := [bad] }
  | .ok observations =>
    let interpretations := match sequence report "interpretations" with
      | .ok interpretations => interpretations
      | .error _ => []
    let labels := keyToLabel observations
    let required := descent.outcomes.filter (fun outcome => outcome.result.evidenceKeys ≠ [])
    let known := rungLabels labels required
    let cited := citedLabels interpretations
    { failures :=
        (required.filter (fun outcome => (rungLabel labels outcome).isNone)).map (fun outcome =>
          ⟨"uncited_rung", "rung:" ++ outcome.rung, "the walk read this rung on " ++
            outcome.device ++ " and found " ++ outcome.status.text ++ ", but no observation " ++
            "cites any of its evidence keys; an uncited rung is a link the reader cannot " ++
            "check"⟩) ++
        (argument descent).filterMap (fun outcome =>
          match known.lookup outcome.rung with
          | none => none
          | some label =>
            if label ∈ cited then none
            else some ⟨"chain_link_not_argued", "rung:" ++ outcome.rung, label ++ " is present " ++
              "but no interpretation cites it; this rung is part of the causal chain and the " ++
              "chain is the argument, not decoration"⟩)
      rungsCovered := (required.filter (fun outcome => (rungLabel labels outcome).isSome)).length
      rungsRequired := required.length }

def groundReport (report : Value) (descent : DescentResult) : Except HashError GroundingResult := do
  let citations ← checkGrounding repr report (descentEvidenceKeys descent)
  let merged := (((citations.merge (checkChainCoverage report descent)).merge
    (checkIdentifierContainment repr lower u report descent)).merge
    (checkRecommendationClosed repr report descent)).merge
    (checkNoInventedCause repr lower report descent)
  return refuseUnmeasured repr merged report "report"

end Grounding

end NetTools
