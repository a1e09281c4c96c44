import Mathlib.Data.Finset.Basic
import NetTools.Python.Value

/-!
# Investigation activities and the view they reduce to

`investigation_activity.py` and `investigation_view.py`.
-/

namespace NetTools

inductive ActivityKind where
  | started
  | planDeclared
  | stageStarted
  | stageCompleted
  | rungObserved
  | toolRefused
  | toolSelected
  | commandPreview
  | toolResultSummary
  | visibleReasoningTail
  | retrying
  | humanInputRequired
  | completed
  | failed
deriving DecidableEq, Repr

inductive ActivityStatus where
  | queued
  | running
  | healthy
  | anomaly
  | refused
  | retrying
  | inconclusive
  | completed
  | failed
deriving DecidableEq, Repr

namespace ActivityStatus

def value : ActivityStatus → String
  | queued => "queued"
  | running => "running"
  | healthy => "healthy"
  | anomaly => "anomaly"
  | refused => "refused"
  | retrying => "retrying"
  | inconclusive => "inconclusive"
  | completed => "completed"
  | failed => "failed"

def all : List ActivityStatus :=
  [queued, running, healthy, anomaly, refused, retrying, inconclusive, completed, failed]

/-- `ActivityStatus(value)`, `none` where Python raises `ValueError`. -/
def ofValue (value : String) : Option ActivityStatus := all.find? (fun s => s.value = value)

lemma ofValue_value (s : ActivityStatus) : ofValue s.value = some s := by
  cases s <;> decide

end ActivityStatus

def hasText (s : Option String) : Bool := s.any (fun text => text ≠ "")

/-- Python's `a or b`. -/
def orText (a b : Option String) : Option String := if hasText a then a else b

/-- One ordered incident state transition. The fields after the first ones are what
`__post_init__` checks. -/
structure InvestigationActivity where
  activityId : String
  incidentId : String
  eventId : String
  sequence : Int
  kind : ActivityKind
  status : ActivityStatus
  stage : Option String := none
  finding : Option String := none
  classification : Option String := none
  rung : Option String := none
  device : Option String := none
  limitation : Option String := none
  tool : Option String := none
  commandLabel : Option String := none
  durationMs : Option Int := none
  evidenceKeys : List String := []
  visibleSummary : List String := []
  identified : activityId ≠ "" ∧ incidentId ≠ "" ∧ eventId ≠ "" := by decide
  sequence_nonneg : 0 ≤ sequence := by decide
  stage_named : kind ∈ [.stageStarted, .stageCompleted, .rungObserved] → hasText stage = true := by
    decide
  rung_named : kind = .rungObserved → hasText rung = true := by decide
  classified : kind = .completed → hasText classification = true := by decide
  tool_named : kind ∈ [.toolSelected, .commandPreview, .toolResultSummary] →
    hasText tool = true := by decide
  labelled : kind = .commandPreview → hasText commandLabel = true := by decide
  duration_nonneg : ∀ ms, durationMs = some ms → 0 ≤ ms := by simp
  summary_short : visibleSummary.length ≤ 2 ∧
    visibleSummary.all (fun sentence => !isBlank sentence) = true := by decide

lemma InvestigationActivity.first_nonneg : (0 : Int) ≤ 0 := le_rfl

lemma InvestigationActivity.untimed (ms : Int) (h : none = some ms) : 0 ≤ ms := by cases h

lemma InvestigationActivity.unsummarised : ([] : List String).length ≤ 2 ∧
    ([] : List String).all (fun sentence => !isBlank sentence) = true := by decide

structure InvestigationStage where
  name : String
  status : ActivityStatus
  finding : Option String := none
  rung : Option String := none
  device : Option String := none
deriving DecidableEq, Repr

structure InvestigationView where
  incidentId : String
  eventId : String
  status : ActivityStatus := .queued
  stages : List InvestigationStage := []
  finding : Option String := none
  classification : Option String := none
  limitation : Option String := none
  lastSequence : Int := -1
  appliedActivityIds : Finset String := ∅
  terminal : Bool := false
deriving DecidableEq

namespace InvestigationView

def new (incidentId eventId : String) : Except String InvestigationView :=
  if incidentId = "" ∨ eventId = "" then .error "view identity fields must be non-empty"
  else .ok { incidentId, eventId }

def completedChecks (view : InvestigationView) : Nat :=
  view.stages.countP (fun stage => stage.status ∈ [ActivityStatus.healthy, .anomaly])

def runningChecks (view : InvestigationView) : Nat :=
  view.stages.countP (fun stage => stage.status ∈ [ActivityStatus.running, .retrying])

end InvestigationView

def terminalKinds : List ActivityKind := [.completed, .failed]

def InvestigationActivity.stageOf (activity : InvestigationActivity) (name : String) :
    InvestigationStage :=
  { name
    status := activity.status
    finding := activity.finding
    rung := activity.rung
    device := activity.device }

/-- The `stages` dict with one entry set: a name keeps its place, a new one goes last. -/
def setStage (stages : List InvestigationStage) (stage : InvestigationStage) :
    List InvestigationStage :=
  if stages.any (fun s => s.name = stage.name) then
    stages.map (fun s => if s.name = stage.name then stage else s)
  else stages ++ [stage]

/-- `{stage.name: stage for stage in stages}`. -/
def stagesByName (stages : List InvestigationStage) : List InvestigationStage :=
  stages.foldl setStage []

def reduceView (view : InvestigationView) (activity : InvestigationActivity) :
    Except String InvestigationView :=
  if (activity.incidentId, activity.eventId) ≠ (view.incidentId, view.eventId) then
    .error "activity identity does not match investigation view"
  else if activity.activityId ∈ view.appliedActivityIds ∨ activity.sequence ≤ view.lastSequence then
    .ok view
  else if view.terminal then .ok view
  else
    let stages := stagesByName view.stages
    let stages := match activity.stage with
      | some name => if name = "" then stages else setStage stages (activity.stageOf name)
      | none => stages
    .ok
      { view with
        status :=
          if activity.kind = .completed then .completed
          else if activity.kind = .failed then .failed
          else activity.status
        stages := stages.insertionSort (fun a b => a.name ≤ b.name)
        finding := orText activity.finding view.finding
        classification := orText activity.classification view.classification
        limitation := orText activity.limitation view.limitation
        lastSequence := activity.sequence
        appliedActivityIds := insert activity.activityId view.appliedActivityIds
        terminal := activity.kind ∈ terminalKinds }

def Applies (view : InvestigationView) (activity : InvestigationActivity) : Prop :=
  activity.activityId ∉ view.appliedActivityIds ∧ view.lastSequence < activity.sequence ∧
    view.terminal = false

instance (view : InvestigationView) (activity : InvestigationActivity) :
    Decidable (Applies view activity) := inferInstanceAs (Decidable (_ ∧ _ ∧ _))

variable {view updated : InvestigationView} {activity : InvestigationActivity}

theorem reduceView_cases (h : reduceView view activity = .ok updated) :
    activity.incidentId = view.incidentId ∧ activity.eventId = view.eventId ∧
      updated.incidentId = view.incidentId ∧ updated.eventId = view.eventId ∧
      ((¬Applies view activity ∧ updated = view) ∨
        (Applies view activity ∧ updated.lastSequence = activity.sequence ∧
          activity.activityId ∈ updated.appliedActivityIds)) := by
  unfold reduceView at h
  split at h
  · cases h
  rename_i hidentity
  obtain ⟨hincident, hevent⟩ := Prod.mk.inj (not_not.mp hidentity)
  refine ⟨hincident, hevent, ?_⟩
  split at h
  · rename_i hstale
    cases h
    refine ⟨rfl, rfl, .inl ⟨?_, rfl⟩⟩
    rintro ⟨hnew, hlater, -⟩
    rcases hstale with hmem | hle
    · exact hnew hmem
    · omega
  rename_i hfresh
  push Not at hfresh
  split at h
  · rename_i hterminal
    cases h
    refine ⟨rfl, rfl, .inl ⟨?_, rfl⟩⟩
    rintro ⟨-, -, hopen⟩
    rw [hterminal] at hopen
    cases hopen
  · rename_i hopen
    cases h
    exact ⟨rfl, rfl, .inr ⟨⟨hfresh.1, hfresh.2, by simpa using hopen⟩, rfl,
      Finset.mem_insert_self _ _⟩⟩

theorem reduceView_eq_self_iff (h : reduceView view activity = .ok updated) :
    updated = view ↔ ¬Applies view activity := by
  obtain ⟨-, -, -, -, ⟨hstale, hsame⟩ | ⟨happlies, hsequence, -⟩⟩ := reduceView_cases h
  · exact iff_of_true hsame hstale
  · refine iff_of_false ?_ (not_not_intro happlies)
    intro hsame
    have hlt := happlies.2.1
    rw [← hsequence, hsame] at hlt
    exact lt_irrefl _ hlt

theorem not_applies_of_reduceView (h : reduceView view activity = .ok updated)
    (hne : updated ≠ view) : ¬Applies updated activity := by
  obtain ⟨-, -, -, -, ⟨-, hsame⟩ | ⟨-, -, hmem⟩⟩ := reduceView_cases h
  · exact absurd hsame hne
  · exact fun happlies => happlies.1 hmem

end NetTools
