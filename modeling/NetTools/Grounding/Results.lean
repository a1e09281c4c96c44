import NetTools.Egress.Projector

/-!
# Results of the gates

`grounding.py`: a gate reports failures and counts what it examined. A payload that asserts
something, beside a result that examined nothing, is refused.
-/

namespace NetTools

namespace Grounding

def MAX_LOCUS_LENGTH : Nat := 120

/-- `text.split()`. -/
def words (text : String) : List String :=
  ((text.toList.splitOnP isSpaceChar).filter (· ≠ [])).map String.ofList

/-- The `TypeError` of a lookup in a set. -/
inductive HashError where
  | unhashable (typeName : String)
deriving DecidableEq

/-- `value in names`, of a set of texts. -/
def isMember (names : List String) : Value → Except HashError Bool
  | .str text => .ok (decide (text ∈ names))
  | .list _ => .error (.unhashable "list")
  | .dict _ => .error (.unhashable "dict")
  | _ => .ok false

structure GroundingFailure where
  kind : String
  locus : String
  detail : String
deriving DecidableEq

def GroundingFailure.text (failure : GroundingFailure) : String :=
  failure.kind ++ " [" ++ failure.locus ++ "]: " ++ failure.detail

structure GroundingResult where
  failures : List GroundingFailure := []
  observationsChecked : Nat := 0
  citationsChecked : Nat := 0
  rungsCovered : Nat := 0
  rungsRequired : Nat := 0
  absenceClaimsChecked : Nat := 0
  timelineEntriesChecked : Nat := 0
  identifiersChecked : Nat := 0
  recommendationsChecked : Nat := 0
  inventedCauseChecked : Nat := 0

namespace GroundingResult

def ok (result : GroundingResult) : Bool := result.failures.isEmpty

def Examined (result : GroundingResult) : Prop :=
  result.observationsChecked ≠ 0 ∨ result.citationsChecked ≠ 0 ∨ result.rungsRequired ≠ 0 ∨
    result.absenceClaimsChecked ≠ 0 ∨ result.timelineEntriesChecked ≠ 0 ∨
    result.identifiersChecked ≠ 0 ∨ result.recommendationsChecked ≠ 0 ∨
    result.inventedCauseChecked ≠ 0

instance (result : GroundingResult) : Decidable result.Examined :=
  inferInstanceAs (Decidable (_ ∨ _))

def vacuous (result : GroundingResult) : Bool := result.ok && !decide result.Examined

def merge (result other : GroundingResult) : GroundingResult where
  failures := result.failures ++ other.failures
  observationsChecked := result.observationsChecked + other.observationsChecked
  citationsChecked := result.citationsChecked + other.citationsChecked
  rungsCovered := result.rungsCovered + other.rungsCovered
  rungsRequired := result.rungsRequired + other.rungsRequired
  absenceClaimsChecked := result.absenceClaimsChecked + other.absenceClaimsChecked
  timelineEntriesChecked := result.timelineEntriesChecked + other.timelineEntriesChecked
  identifiersChecked := result.identifiersChecked + other.identifiersChecked
  recommendationsChecked := result.recommendationsChecked + other.recommendationsChecked
  inventedCauseChecked := result.inventedCauseChecked + other.inventedCauseChecked

lemma ok_iff {result : GroundingResult} : result.ok = true ↔ result.failures = [] :=
  List.isEmpty_iff

@[simp]
lemma ok_merge (result other : GroundingResult) :
    (result.merge other).ok = (result.ok && other.ok) := by
  rw [Bool.eq_iff_iff, Bool.and_eq_true, ok_iff, ok_iff, ok_iff, merge, List.append_eq_nil_iff]

end GroundingResult

def refused (kind locus detail : String) : GroundingResult := { failures := [⟨kind, locus, detail⟩] }

lemma not_ok_refused (kind locus detail : String) : (refused kind locus detail).ok = false := rfl

section Payloads

variable (repr : Value → String)

def locus (value : Value) : String :=
  let text := " ".intercalate (words (value.pyStr repr))
  if MAX_LOCUS_LENGTH < text.length then
    String.ofList (text.toList.take (MAX_LOCUS_LENGTH - 1)) ++ "…"
  else text

/-- `repr(_locus(value))`. -/
def reprLocus (value : Value) : String := repr (.str (locus repr value))

/-- `obs-1` to `obs-N`. -/
def observationLabels (count : Nat) : List String :=
  (List.range count).map (fun index => "obs-" ++ toString (index + 1))

def sequence (report : Value) (key : String) : Except GroundingFailure (List Value) :=
  match report with
  | .dict entries =>
    match (Dict.get? entries key).getD (.list []) with
    | .none => .ok []
    | .list items => .ok items
    | _ => .error ⟨"malformed_report", key, pyRepr key ++ " must be a list"⟩
  | _ => .error ⟨"malformed_report", key, "the report is not a JSON object"⟩

def listClaim (payload : Dict) (key : String) : Option String :=
  match Dict.get? payload key with
  | some (.list (item :: items)) =>
    some (key ++ "[" ++ toString (item :: items).length ++ "]")
  | _ => none

def recommendationClaim (payload : Dict) : List String :=
  match Dict.get? payload "recommendation" with
  | some (.dict _) => ["recommendation"]
  | _ => []

def foundClaim (payload : Dict) : List String :=
  match Dict.get? payload "correlation" with
  | some (.dict correlation) =>
    match Dict.get? correlation "found" with
    | some found => ["correlation.found=" ++ found.pyStr repr]
    | none => []
  | _ => []

def claimsPresent : Value → List String
  | .dict payload =>
    ["observations", "interpretations", "timeline"].filterMap (listClaim payload) ++
      recommendationClaim payload ++ foundClaim repr payload
  | _ => []

def refuseUnmeasured (result : GroundingResult) (payload : Value) (place : String) :
    GroundingResult :=
  let claims := claimsPresent repr payload
  if !result.vacuous || claims.isEmpty then result
  else
    { failures := result.failures ++ [⟨"verified_nothing", place,
        "the payload asserts " ++ ", ".intercalate claims ++ " and this gate examined none of " ++
        "it; a pass over nothing is not a pass"⟩]
      observationsChecked := result.observationsChecked
      citationsChecked := result.citationsChecked
      rungsCovered := result.rungsCovered
      rungsRequired := result.rungsRequired
      absenceClaimsChecked := result.absenceClaimsChecked
      timelineEntriesChecked := result.timelineEntriesChecked
      recommendationsChecked := result.recommendationsChecked
      inventedCauseChecked := result.inventedCauseChecked }

theorem ok_refuseUnmeasured_iff (result : GroundingResult) (payload : Value) (place : String) :
    (refuseUnmeasured repr result payload place).ok = true ↔
      result.ok = true ∧ (claimsPresent repr payload ≠ [] → result.Examined) := by
  rw [refuseUnmeasured]
  by_cases hkept : (!result.vacuous || (claimsPresent repr payload).isEmpty) = true
  · rw [if_pos hkept]
    rw [Bool.or_eq_true, Bool.not_eq_true', GroundingResult.vacuous, Bool.and_eq_false_iff,
      Bool.not_eq_false', decide_eq_true_eq, List.isEmpty_iff] at hkept
    constructor
    · intro hok
      refine ⟨hok, ?_⟩
      intro hclaims
      rcases hkept with (hnot | hexamined) | hnone
      · rw [hok] at hnot
        cases hnot
      · exact hexamined
      · exact absurd hnone hclaims
    · exact fun h => h.1
  · rw [if_neg hkept]
    rw [Bool.not_eq_true, Bool.or_eq_false_iff, Bool.not_eq_false', GroundingResult.vacuous,
      Bool.and_eq_true, Bool.not_eq_true', decide_eq_false_iff_not, List.isEmpty_eq_false_iff]
      at hkept
    constructor
    · intro hok
      rw [GroundingResult.ok_iff] at hok
      simp at hok
    · rintro ⟨-, hexamined⟩
      exact absurd (hexamined hkept.2) hkept.1.2

lemma refuseUnmeasured_of_ok {result : GroundingResult} {payload : Value} {place : String}
    (h : (refuseUnmeasured repr result payload place).ok = true) :
    refuseUnmeasured repr result payload place = result := by
  rw [refuseUnmeasured] at h ⊢
  by_cases hkept : (!result.vacuous || (claimsPresent repr payload).isEmpty) = true
  · rw [if_pos hkept]
  · rw [if_neg hkept, GroundingResult.ok_iff] at h
    simp at h

end Payloads

end Grounding

end NetTools
