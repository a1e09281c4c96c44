import NetTools.Descent.Findings

/-!
# Reasons

Every verdict of a rung says why, and a broken one says so in words.
-/

namespace NetTools

open ListSearch

/-- The verdict has a reason, and one with words in it where it is broken. -/
def CheckResult.Stated (result : CheckResult) : Prop :=
  ∃ reason, result.reason = some reason ∧ (result.status = .broken → reason ≠ "")

section Stated

variable {subject : Option String} {keys : List String} {reason : String}
  {text : Option DeviceText}

@[simp] lemma unevaluated_stated : (unevaluated subject reason keys text).Stated :=
  ⟨reason, rfl, fun h => by cases h⟩

@[simp] lemma healthy_stated {hkeys : keys ≠ []} : (healthy subject keys reason text hkeys).Stated :=
  ⟨reason, rfl, fun h => by cases h⟩

lemma broken_stated {hkeys : keys ≠ []} (hreason : reason ≠ "") :
    (broken subject keys reason text hkeys).Stated :=
  ⟨reason, rfl, fun _ => hreason⟩

lemma requireParsed_stated {evidence : Evidence} {key : String} {bail : CheckResult}
    (h : requireParsed evidence key subject = .error bail) : bail.Stated := by
  unfold requireParsed at h
  split at h
  · cases h
    exact unevaluated_stated
  · split at h
    · cases h
    · split at h
      · cases h
        exact unevaluated_stated
      · split at h
        · cases h
          exact unevaluated_stated
        · cases h
          exact unevaluated_stated

end Stated

attribute [simp] unevaluated_stated healthy_stated

lemma bgpSessionState_stated (evidence : Evidence) (peer : String) :
    (bgpSessionState evidence peer).Stated := by
  unfold bgpSessionState
  cases hreq : requireParsed evidence "bgp" (some peer) with
  | error bail => exact requireParsed_stated hreq
  | ok sec =>
    dsimp only
    repeat' split
    all_goals simp [broken_stated]

lemma bgpTransport_stated (evidence : Evidence) (peer : String) :
    (bgpTransport evidence peer).Stated := by
  unfold bgpTransport
  dsimp only
  cases hreq : requireParsed evidence ("bgp_neighbor:" ++ peer) (some peer) with
  | error bail => exact requireParsed_stated hreq
  | ok sec =>
    dsimp only
    repeat' split
    all_goals simp [broken_stated]

lemma routePresent_stated (evidence : Evidence) (route : String) :
    (routePresent evidence route).Stated := by
  unfold routePresent
  dsimp only
  cases hreq : requireParsed evidence ("route:" ++ route) (some route) with
  | error bail => exact requireParsed_stated hreq
  | ok sec =>
    dsimp only
    repeat' split
    all_goals simp [broken_stated]

lemma isisAdjacency_stated (evidence : Evidence) (interface : Option String) :
    (isisAdjacency evidence interface).Stated := by
  unfold isisAdjacency
  cases hreq : requireParsed evidence "isis" interface with
  | error bail => exact requireParsed_stated hreq
  | ok sec =>
    dsimp only
    repeat' split
    all_goals simp [broken_stated]

lemma isisNeighborUp_stated (evidence : Evidence) (name : String) :
    (isisNeighborUp evidence name).Stated := by
  unfold isisNeighborUp
  cases hreq : requireParsed evidence "isis" (some name) with
  | error bail => exact requireParsed_stated hreq
  | ok isis =>
    dsimp only
    repeat' split
    all_goals simp [broken_stated]

lemma ldpSessionUp_stated (evidence : Evidence) (name : String) :
    (ldpSessionUp evidence name).Stated := by
  unfold ldpSessionUp
  dsimp only
  cases hreq : requireParsed evidence "ldp" (some name) with
  | error bail => exact requireParsed_stated hreq
  | ok ldp =>
    dsimp only
    repeat' split
    all_goals simp [broken_stated]

lemma readInterfaceObservation_stated {evidence : Evidence} {name : String} {bail : CheckResult}
    (h : readInterfaceObservation evidence name = .error bail) : bail.Stated := by
  have hbulk : ∀ templateBail, readBulkObservation evidence name templateBail = .error bail →
      bail.Stated := by
    intro templateBail hbail
    unfold readBulkObservation at hbail
    repeat' split at hbail
    all_goals cases hbail
    all_goals exact unevaluated_stated
  unfold readInterfaceObservation at h
  dsimp only at h
  split at h
  · split at h
    · cases h
    · exact hbulk none h
  · exact hbulk _ h

lemma interfaceCheck_stated (evidence : Evidence) (name : String) :
    (interfaceCheck evidence name).Stated := by
  unfold interfaceCheck interfaceState
  cases hobs : readInterfaceObservation evidence name with
  | error bail => exact readInterfaceObservation_stated hobs
  | ok obs =>
    dsimp only
    repeat' split
    all_goals simp [broken_stated]

lemma flows_check_stated : ∀ flow ∈ flows, ∀ rung ∈ flow.descent,
    ∀ (evidence : Evidence) (object : Option String), (rung.check evidence object).Stated := by
  apply flows_rungs
  case session => exact fun evidence object => bgpSessionState_stated evidence (object.getD "")
  case transport => exact fun evidence object => bgpTransport_stated evidence (object.getD "")
  case route => exact fun evidence object => routePresent_stated evidence (object.getD "")
  case igp => exact isisAdjacency_stated
  case path => exact fun evidence object => interfaceCheck_stated evidence (object.getD "")
  case interface => exact fun evidence object => interfaceCheck_stated evidence (object.getD "")
  case isis => exact fun evidence object => isisNeighborUp_stated evidence (object.getD "")
  case ldp => exact fun evidence object => ldpSessionUp_stated evidence (object.getD "")

lemma aggregate_stated (rung : Rung) {results : List CheckResult}
    (aggregation : Option Aggregation) (h : ∀ result ∈ results, result.Stated) :
    (aggregate rung results aggregation).Stated := by
  match results with
  | [] => exact unevaluated_stated
  | [result] => exact h result (List.mem_singleton_self result)
  | first :: second :: rest =>
    have hrule : ∀ rule : String, membersReason (first :: second :: rest) rule ≠ "" := by
      intro rule
      unfold membersReason
      simp
    unfold aggregate
    dsimp only
    split
    · exact unevaluated_stated
    · split
      · split
        · exact healthy_stated
        · exact broken_stated (hrule _)
      · split
        · exact healthy_stated
        · exact broken_stated (hrule _)

lemma evaluateRung_stated {rung : Rung}
    (h : ∀ (evidence : Evidence) (object : Option String), (rung.check evidence object).Stated)
    (devices : List String) (subject : String) (evidenceFor : String → Evidence)
    (originPrefix : Option String) :
    (evaluateRung rung devices subject evidenceFor originPrefix).Stated := by
  unfold evaluateRung
  dsimp only
  rw [evaluateDevice_foldl]
  apply aggregate_stated
  intro result hresult
  rw [List.nil_append] at hresult
  obtain ⟨target, -, hin⟩ := List.mem_flatMap.mp hresult
  unfold deviceResults at hin
  dsimp only at hin
  split at hin
  · rw [List.mem_singleton.mp hin]
    exact unevaluated_stated
  · obtain ⟨object, -, rfl⟩ := List.mem_map.mp hin
    exact h _ object

theorem runDescent_stated {flow : Flow} (hflow : flow ∈ flows) (collector : Collector)
    (resolver : Option Resolver) (originPrefix : Option String) (device subject : String)
    (coherence : Option (List RungOutcome → Coherence)) :
    ∀ outcome ∈ (runDescent collector resolver originPrefix device subject flow
      coherence).outcomes, outcome.result.Stated := by
  intro outcome houtcome
  rw [runDescent_outcomes] at houtcome
  obtain ⟨rung, hrung, rfl⟩ := List.mem_map.mp ((takeThrough_initial _ _).subset houtcome)
  unfold rungOutcome
  split
  · exact unevaluated_stated
  · exact evaluateRung_stated (flows_check_stated flow hflow rung hrung) _ _ _ _

end NetTools
