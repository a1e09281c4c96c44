import NetTools.Descent.Flows
import NetTools.Library.ListSearch
import NetTools.Library.Verdicts

/-!
# The walk

`descent.py`: the objects a rung is evaluated over, the aggregation of their verdicts, the
walk down a ladder and the finding it ends in. `Coherence` is the answer of the re-read that
`epoch.py` makes once the walk is done.
-/

namespace NetTools

structure RungOutcome where
  rung : String
  device : String
  result : CheckResult
  deriving DecidableEq

def RungOutcome.status (outcome : RungOutcome) : Status := outcome.result.status

/-- The status of a second reading, or the sentinel of a reading that failed. -/
inductive RereadStatus where
  | verdict (status : Status)
  | rereadFailed
  deriving DecidableEq, Repr

structure Reread where
  rung : String
  device : String
  before : Status
  after : RereadStatus
  detail : Option String := none
  deriving DecidableEq, Repr

def Reread.agrees (reread : Reread) : Bool := reread.after == .verdict reread.before

inductive CoherenceStatus where
  | coherent
  | fabricMoved
  | windowLimited
  | unverified
  deriving DecidableEq, Repr

structure Coherence where
  skewSeconds : ℚ
  boundSeconds : ℚ
  rereads : List Reread := []
  deriving DecidableEq, Repr

namespace Coherence

def withinBound (coherence : Coherence) : Bool :=
  decide (coherence.skewSeconds ≤ coherence.boundSeconds)

def status (coherence : Coherence) : CoherenceStatus :=
  if coherence.rereads = [] then .unverified
  else if !coherence.rereads.all Reread.agrees then .fabricMoved
  else if coherence.withinBound then .coherent
  else .windowLimited

def refuses (coherence : Coherence) : Bool :=
  coherence.status == .fabricMoved || coherence.status == .unverified

end Coherence

structure DescentResult where
  flow : String
  device : String
  subject : String
  finding : String
  outcomes : List RungOutcome := []
  evidenceKeys : List String := []
  reason : Option String := none
  coherence : Option Coherence := none

def brokenOutcomes (outcomes : List RungOutcome) : List RungOutcome :=
  outcomes.filter (fun outcome => outcome.status == .broken)

namespace DescentResult

def cause (result : DescentResult) : Option RungOutcome := (brokenOutcomes result.outcomes).getLast?

def causalChain (result : DescentResult) : List RungOutcome :=
  let broken := brokenOutcomes result.outcomes
  if 1 < broken.length then broken.dropLast else []

end DescentResult

/-- The device or the devices a subject resolves to; an error is a `ValueError`. -/
abbrev Resolver := String → Except String (String ⊕ List String)

def resolveDevices (rung : Rung) (localDevice subject : String) (resolver : Option Resolver) :
    Except String (List String) :=
  if rung.deviceScope = .localDevice then .ok [localDevice]
  else match resolver with
    | none =>
      .error ("rung " ++ pyRepr rung.name ++ " has " ++ rung.deviceScope.value ++
        " scope but no resolver was supplied; refusing to fall back to the local device")
    | some resolve =>
      match resolve subject with
      | .error message => .error message
      | .ok (.inl device) => .ok [device]
      | .ok (.inr devices) =>
        if devices = [] then
          .error ("resolver returned no devices for subject " ++ pyRepr subject)
        else .ok devices

def rowsUnder (evidence : Evidence) (key : String) : List Record :=
  match evidence.get key with
  | some sec => sec.parsedRecords
  | none => []

def physicalInterfaces (evidence : Evidence) : List String :=
  (physicalMembers ((rowsUnder evidence "interfaces").map
    (fun record => record.interface.getD ""))).1

def namedInterfaces (records : List Record) : List String :=
  records.filterMap (fun record => orNone record.interface)

def joinRouteName (own : List String) (acc : List String × List String) (routeName : String) :
    List String × List String :=
  match own.find? (fun name => sameInterface name routeName) with
  | none => (acc.1, acc.2 ++ [routeName])
  | some name => if name ∈ acc.1 then acc else (acc.1 ++ [name], acc.2)

/-- The interfaces the device's route back toward the origin uses, and the names in that
route which the device's own list does not have. -/
def pathInterfaces (evidence : Evidence) (originPrefix : Option String) :
    List String × List String :=
  match orNone originPrefix with
  | none => ([], [])
  | some origin =>
    match evidence.get ("route:" ++ origin) with
    | none => ([], [])
    | some sec =>
      -- Only `found` is read here, never the parse status of the section.
      if !sec.parsedMeta.found then ([], [])
      else (namedInterfaces sec.parsedRecords).foldl
        (joinRouteName (namedInterfaces (rowsUnder evidence "interfaces"))) ([], [])

def rungSubjects (rung : Rung) (subject : String) (evidence : Evidence)
    (originPrefix : Option String) : List (Option String) × Option Aggregation :=
  match rung.subjectRule with
  | .asIs => ([some subject], none)
  | .hostPrefix => ([some (subject ++ "/32")], none)
  | .deviceWide => ([none], none)
  | .eachPhysicalInterface => ((physicalInterfaces evidence).map some, none)
  | .eachPathInterface =>
    let members := (pathInterfaces evidence originPrefix).1
    if members ≠ [] then (members.map some, some .anyHealthy)
    else ((physicalInterfaces evidence).map some, some .allHealthy)

def citations (results : List CheckResult) : List String :=
  results.flatMap CheckResult.evidenceKeys

def membersReason (results : List CheckResult) (rule : String) : String :=
  toString (results.countP (fun result => result.status == .healthy)) ++ " of " ++
    toString results.length ++ " members healthy (" ++ rule ++ ")"

lemma citations_ne_nil {results : List CheckResult} {result : CheckResult}
    (hmem : result ∈ results) (h : result.status ≠ .unevaluated) : citations results ≠ [] := by
  obtain ⟨key, hkey⟩ := List.exists_mem_of_ne_nil _ (result.cites h)
  exact List.ne_nil_of_mem (List.mem_flatMap.mpr ⟨result, hmem, hkey⟩)

def aggregate (rung : Rung) (results : List CheckResult) (aggregation : Option Aggregation) :
    CheckResult :=
  match results with
  | [] =>
    unevaluated none ("rung " ++ pyRepr rung.name ++ " resolved to no members; nothing was " ++
      "read, so nothing is known about it")
  | [result] => result
  | first :: second :: rest =>
    let members := first :: second :: rest
    if h : ∃ result ∈ members, result.status = .unevaluated then
      let unread := members.filter (fun result => result.status == .unevaluated)
      unevaluated first.subject (toString unread.length ++ " of " ++ toString members.length ++
        " members could not be read: " ++
        String.intercalate "; " (unread.filterMap (fun result => orNone result.reason)))
        (citations members)
    else
      have cites : citations members ≠ [] :=
        citations_ne_nil List.mem_cons_self (fun hfirst => h ⟨first, List.mem_cons_self, hfirst⟩)
      if aggregation.or rung.aggregation = some .anyHealthy then
        if members.any (fun result => result.status == .healthy) then
          healthy first.subject (citations members) (membersReason members "any suffices") none
            cites
        else
          broken first.subject (citations members) (membersReason members "any suffices") none
            cites
      else if members.all (fun result => result.status == .healthy) then
        healthy first.subject (citations members) (membersReason members "all required") none
          cites
      else
        broken first.subject (citations members) (membersReason members "all required") none cites

def deviceResults (rung : Rung) (subject : String) (evidenceFor : String → Evidence)
    (originPrefix : Option String) (target : String) : List CheckResult :=
  let subjects := (rungSubjects rung subject (evidenceFor target) originPrefix).1
  if subjects = [] then
    [unevaluated (some subject) ("no objects to check on " ++ target ++ " for rung " ++
      pyRepr rung.name)]
  else subjects.map (rung.check (evidenceFor target))

/-- One device of the loop in `evaluate_rung`: its verdicts join the pool, and the
aggregation it imposes replaces the one in force. -/
def evaluateDevice (rung : Rung) (subject : String) (evidenceFor : String → Evidence)
    (originPrefix : Option String) (pool : List CheckResult × Option Aggregation)
    (target : String) : List CheckResult × Option Aggregation :=
  let imposed := (rungSubjects rung subject (evidenceFor target) originPrefix).2
  (pool.1 ++ deviceResults rung subject evidenceFor originPrefix target, imposed.or pool.2)

def evaluateRung (rung : Rung) (devices : List String) (subject : String)
    (evidenceFor : String → Evidence) (originPrefix : Option String) : CheckResult :=
  let pool := devices.foldl (evaluateDevice rung subject evidenceFor originPrefix) ([], none)
  aggregate rung pool.1 pool.2

abbrev Collector := String → Rung → String → Evidence

structure Walk where
  outcomes : List RungOutcome := []
  evidenceKeys : List String := []
  stoppedReason : Option String := none

section RunDescent

variable (collector : Collector) (resolver : Option Resolver) (originPrefix : Option String)
  (device subject : String)

/-- The loop of `run_descent` over the rungs that are left. -/
def walkRungs : List Rung → Walk → Walk
  | [], walk => walk
  | rung :: rungs, walk =>
    match resolveDevices rung device subject resolver with
    | .error message =>
      { walk with
        outcomes := walk.outcomes ++ [⟨rung.name, device, unevaluated none message⟩]
        stoppedReason := some message }
    | .ok devices =>
      let result := evaluateRung rung devices subject
        (fun target => collector target rung subject) originPrefix
      let walk : Walk := { walk with
        outcomes := walk.outcomes ++ [⟨rung.name, String.intercalate ", " devices, result⟩]
        evidenceKeys := walk.evidenceKeys ++ result.evidenceKeys }
      if result.status = .unevaluated then { walk with stoppedReason := result.reason }
      else walkRungs rungs walk

def findingFor (flow : Flow) (outcomes : List RungOutcome) (coherence : Option Coherence) :
    String :=
  if outcomes.any (fun outcome => outcome.status == .unevaluated) then UNDETERMINED
  else if coherence.any Coherence.refuses then TEMPORALLY_INCOHERENT
  else match (brokenOutcomes outcomes).getLast? with
    | none => ALL_LAYERS_HEALTHY
    | some lowest =>
      if outcomes.head?.any (fun outcome => outcome.status == .healthy) then NO_FAULT_ON_PATH
      else
        let lowestIndex := outcomes.idxOf lowest
        if lowestIndex = 0 ∧ 1 < outcomes.length then CAUSE_NOT_LOCALISED
        else match flow.descent[lowestIndex]? with
          | some rung => rung.finding
          | none => ""  -- no outcome lies beyond the ladder

def runDescent (flow : Flow) (coherence : Option (List RungOutcome → Coherence)) :
    DescentResult :=
  let walk := walkRungs collector resolver originPrefix device subject flow.descent {}
  let verdict := coherence.map (fun reread => reread walk.outcomes)
  { flow := flow.objectType
    device
    subject
    finding := findingFor flow walk.outcomes verdict
    outcomes := walk.outcomes
    evidenceKeys := fromKeys walk.evidenceKeys
    reason := walk.stoppedReason
    coherence := verdict }

def rungOutcome (rung : Rung) : RungOutcome :=
  match resolveDevices rung device subject resolver with
  | .error message => ⟨rung.name, device, unevaluated none message⟩
  | .ok devices =>
    ⟨rung.name, String.intercalate ", " devices,
      evaluateRung rung devices subject (fun target => collector target rung subject)
        originPrefix⟩

end RunDescent

section Aggregate

def inForce (rung : Rung) (aggregation : Option Aggregation) : Aggregation :=
  if aggregation.or rung.aggregation = some .anyHealthy then .anyHealthy else .allHealthy

def combine : Aggregation → List Status → Status
  | .anyHealthy => Verdicts.dominant .unevaluated .healthy .broken
  | .allHealthy => Verdicts.dominant .unevaluated .broken .healthy

lemma combine_singleton (aggregation : Aggregation) (status : Status) :
    combine aggregation [status] = status := by
  cases aggregation <;> cases status <;> rfl

lemma Status.eq_healthy_of_ne {status : Status} (hu : status ≠ .unevaluated)
    (hb : status ≠ .broken) : status = .healthy := by
  cases status with
  | healthy => rfl
  | broken => exact absurd rfl hb
  | unevaluated => exact absurd rfl hu

lemma combine_eq_unevaluated_iff (aggregation : Aggregation) (statuses : List Status) :
    combine aggregation statuses = .unevaluated ↔ statuses = [] ∨ .unevaluated ∈ statuses := by
  cases aggregation
  · exact Verdicts.dominant_eq_unknown_iff (by decide) (by decide)
  · exact Verdicts.dominant_eq_unknown_iff (by decide) (by decide)

lemma combine_congr {aggregation : Aggregation} {statuses statuses' : List Status}
    (h : ∀ status, status ∈ statuses ↔ status ∈ statuses') :
    combine aggregation statuses = combine aggregation statuses' := by
  cases aggregation
  · exact Verdicts.dominant_congr h
  · exact Verdicts.dominant_congr h

theorem aggregate_status (rung : Rung) (results : List CheckResult)
    (aggregation : Option Aggregation) :
    (aggregate rung results aggregation).status =
      combine (inForce rung aggregation) (results.map CheckResult.status) := by
  match results with
  | [] =>
    cases inForce rung aggregation <;> rfl
  | [result] =>
    exact (combine_singleton _ _).symm
  | first :: second :: rest =>
    have hne : (first :: second :: rest).map CheckResult.status ≠ [] := List.cons_ne_nil _ _
    unfold aggregate
    dsimp only
    by_cases hu : ∃ result ∈ first :: second :: rest, result.status = .unevaluated
    · have hmem : Status.unevaluated ∈ (first :: second :: rest).map CheckResult.status :=
        List.mem_map.mpr hu
      rw [dif_pos hu, unevaluated_status, eq_comm, combine_eq_unevaluated_iff]
      exact Or.inr hmem
    · have hmem : Status.unevaluated ∉ (first :: second :: rest).map CheckResult.status :=
        fun h => hu (List.mem_map.mp h)
      rw [dif_neg hu]
      by_cases hany : aggregation.or rung.aggregation = some .anyHealthy
      · rw [if_pos hany, inForce, if_pos hany, combine, Verdicts.dominant_of_known hne hmem]
        simp only [List.any_eq_true, beq_iff_eq, List.mem_map]
        split <;> rfl
      · rw [if_neg hany, inForce, if_neg hany, combine, Verdicts.dominant_of_known hne hmem]
        -- No member is unread, so all are healthy exactly when none is broken.
        have hall : ((first :: second :: rest).all (fun result => result.status == .healthy)) =
            true ↔ Status.broken ∉ (first :: second :: rest).map CheckResult.status := by
          rw [List.all_eq_true]
          constructor
          · intro h hb
            obtain ⟨result, hresult, hstatus⟩ := List.mem_map.mp hb
            have := h result hresult
            rw [hstatus] at this
            cases this
          · intro h result hresult
            have hub : result.status ≠ .unevaluated := fun hs => hu ⟨result, hresult, hs⟩
            have hbb : result.status ≠ .broken :=
              fun hs => h (List.mem_map.mpr ⟨result, hresult, hs⟩)
            rw [Status.eq_healthy_of_ne hub hbb]
            rfl
        by_cases hb : Status.broken ∈ (first :: second :: rest).map CheckResult.status
        · rw [if_pos hb, if_neg (fun h => hall.mp h hb), broken_status]
        · rw [if_neg hb, if_pos (hall.mpr hb), healthy_status]

end Aggregate

section EvaluateRung

variable (rung : Rung) (subject : String) (evidenceFor : String → Evidence)
  (originPrefix : Option String)

def imposedAggregation (devices : List String) : Option Aggregation :=
  (devices.filterMap
    (fun target => (rungSubjects rung subject (evidenceFor target) originPrefix).2)).getLast?

lemma imposedAggregation_cons (target : String) (devices : List String) :
    imposedAggregation rung subject evidenceFor originPrefix (target :: devices) =
      (imposedAggregation rung subject evidenceFor originPrefix devices).or
        (rungSubjects rung subject (evidenceFor target) originPrefix).2 := by
  unfold imposedAggregation
  cases himp : (rungSubjects rung subject (evidenceFor target) originPrefix).2 with
  | none => simp [himp]
  | some aggregation =>
    simp only [List.filterMap_cons, himp, List.getLast?_cons]
    cases (devices.filterMap
      (fun target => (rungSubjects rung subject (evidenceFor target) originPrefix).2)).getLast?
    · rfl
    · rfl

lemma evaluateDevice_foldl (devices : List String) (pool : List CheckResult × Option Aggregation) :
    devices.foldl (evaluateDevice rung subject evidenceFor originPrefix) pool =
      (pool.1 ++ devices.flatMap (deviceResults rung subject evidenceFor originPrefix),
        (imposedAggregation rung subject evidenceFor originPrefix devices).or pool.2) := by
  induction devices generalizing pool with
  | nil => simp [imposedAggregation]
  | cons target devices ih =>
    rw [List.foldl_cons, ih, imposedAggregation_cons, List.flatMap_cons]
    simp [evaluateDevice, Option.or_assoc]

theorem evaluateRung_status (devices : List String) :
    (evaluateRung rung devices subject evidenceFor originPrefix).status =
      combine (inForce rung (imposedAggregation rung subject evidenceFor originPrefix devices))
        ((devices.flatMap (deviceResults rung subject evidenceFor originPrefix)).map
          CheckResult.status) := by
  unfold evaluateRung
  rw [evaluateDevice_foldl, aggregate_status]
  simp

theorem evaluateRung_unevaluated_iff {devices : List String} (hdevices : devices ≠ []) :
    (evaluateRung rung devices subject evidenceFor originPrefix).status = .unevaluated ↔
      ∃ target ∈ devices,
        let subjects := (rungSubjects rung subject (evidenceFor target) originPrefix).1
        subjects = [] ∨
          ∃ object ∈ subjects, (rung.check (evidenceFor target) object).status = .unevaluated := by
  have hresults : ∀ target, (∃ result ∈ deviceResults rung subject evidenceFor originPrefix target,
      result.status = .unevaluated) ↔
      (rungSubjects rung subject (evidenceFor target) originPrefix).1 = [] ∨
        ∃ object ∈ (rungSubjects rung subject (evidenceFor target) originPrefix).1,
          (rung.check (evidenceFor target) object).status = .unevaluated := by
    intro target
    unfold deviceResults
    by_cases hnil : (rungSubjects rung subject (evidenceFor target) originPrefix).1 = []
    · simp [hnil]
    · simp [hnil]
  have hne : devices.flatMap (deviceResults rung subject evidenceFor originPrefix) ≠ [] := by
    obtain ⟨target, htarget⟩ := List.exists_mem_of_ne_nil _ hdevices
    have hdev : deviceResults rung subject evidenceFor originPrefix target ≠ [] := by
      unfold deviceResults
      by_cases hnil : (rungSubjects rung subject (evidenceFor target) originPrefix).1 = []
      · simp [hnil]
      · simp [hnil]
    obtain ⟨result, hresult⟩ := List.exists_mem_of_ne_nil _ hdev
    exact List.ne_nil_of_mem (List.mem_flatMap.mpr ⟨target, htarget, hresult⟩)
  rw [evaluateRung_status, combine_eq_unevaluated_iff]
  constructor
  · rintro (hnil | hmem)
    · exact absurd (List.map_eq_nil_iff.mp hnil) hne
    · obtain ⟨result, hresult, hstatus⟩ := List.mem_map.mp hmem
      obtain ⟨target, htarget, hin⟩ := List.mem_flatMap.mp hresult
      exact ⟨target, htarget, (hresults target).mp ⟨result, hin, hstatus⟩⟩
  · rintro ⟨target, htarget, h⟩
    obtain ⟨result, hin, hstatus⟩ := (hresults target).mpr h
    exact Or.inr (List.mem_map.mpr
      ⟨result, List.mem_flatMap.mpr ⟨target, htarget, hin⟩, hstatus⟩)

end EvaluateRung

end NetTools
