import NetTools.Admission.EventRuns

/-!
# Budgets under any order of service

Each caller reads its clock before it waits for the lock, so that callers may be served in another
order than that of their readings. A served caller deletes what is too old for itself, which a
later one with an earlier reading may still need.
-/

namespace NetTools

open Runs SlidingWindow

def AdmittedRun.start (r : AdmittedRun) : StartEntry := ⟨r.admittedAt, r.device, r.eventId⟩

namespace EventRunWorld

def starts (w : EventRunWorld) : List StartEntry := w.runs.map AdmittedRun.start

variable (cfg : EventRunSettings)

structure WithinBudgets (w : EventRunWorld) : Prop where
  fabric : Budget StartEntry.timestamp cfg.window.value cfg.fabricLimit w.starts
  device : ∀ name, Budget StartEntry.timestamp cfg.window.value cfg.deviceLimit
    (w.starts.filter (fun e => e.device = name))

/-- The file still holds every start since the beginning of the caller's window. -/
def HistoryKept (w : EventRunWorld) : EventRunCall → Prop
  | .start _ _ now =>
    since StartEntry.timestamp cfg.window.value now w.starts = w.state.retainedStarts cfg now
  | .finish _ _ _ => True

variable (w : EventRunWorld)

lemma starts_finish (i : Nat) (completed : Bool) (now : ℚ) :
    (w.step cfg (.finish i completed now)).starts = w.starts ∧
      (w.step cfg (.finish i completed now)).state.starts = w.state.starts := by
  rw [step]
  split
  · exact ⟨rfl, rfl⟩
  · split
    · exact ⟨rfl, rfl⟩
    · refine ⟨?_, rfl⟩
      rw [starts, starts]
      apply List.ext_getElem?
      intro j
      rw [List.getElem?_map, List.getElem?_map, List.getElem?_modify]
      cases w.runs[j]? with
      | none => rfl
      | some r =>
        simp only [Option.map_some, Option.map_eq_map]
        split <;> rfl

lemma starts_start (eventId deviceName : String) (now : ℚ) :
    ((w.step cfg (.start eventId deviceName now)).starts = w.starts ∧
        (w.step cfg (.start eventId deviceName now)).state.starts = w.state.starts) ∨
      ((((w.state.retainedStarts cfg now).filter (fun e => e.device = deviceName)).length : Int) <
          cfg.deviceLimit ∧
        ((w.state.retainedStarts cfg now).length : Int) < cfg.fabricLimit ∧
        (w.step cfg (.start eventId deviceName now)).starts =
          w.starts ++ [⟨now, deviceName, eventId⟩] ∧
        (w.step cfg (.start eventId deviceName now)).state.starts =
          w.state.retainedStarts cfg now ++ [⟨now, deviceName, eventId⟩]) := by
  cases hresult : admitEventRun cfg w.state eventId deviceName now with
  | mk result state =>
    cases result with
    | error refusal =>
      have hsame := admitEventRun_refused (congrArg Prod.fst hresult)
      rw [hresult] at hsame
      left
      rw [step, hresult]
      exact ⟨rfl, congrArg EventRunState.starts hsame⟩
    | ok =>
      obtain ⟨-, hdevice, hfabric, hstarts, -⟩ := admitEventRun_admitted hresult
      refine .inr ⟨hdevice, hfabric, ?_, ?_⟩
      · rw [step, hresult, starts, starts, List.map_append]
        rfl
      · rw [step, hresult]
        exact hstarts

variable {cfg} {w}

theorem withinBudgets_step (h : w.WithinBudgets cfg) {call : EventRunCall}
    (hkept : w.HistoryKept cfg call) : (w.step cfg call).WithinBudgets cfg := by
  cases call with
  | finish i completed now =>
    have hstarts := (starts_finish cfg w i completed now).1
    refine ⟨?_, fun name => ?_⟩
    · rw [hstarts]
      exact h.fabric
    · rw [hstarts]
      exact h.device name
  | start eventId deviceName now =>
    rcases starts_start cfg w eventId deviceName now with
      ⟨hstarts, -⟩ | ⟨hdevice, hfabric, hstarts, -⟩
    · refine ⟨?_, fun name => ?_⟩
      · rw [hstarts]
        exact h.fabric
      · rw [hstarts]
        exact h.device name
    rw [← hkept] at hdevice hfabric
    refine ⟨?_, fun name => ?_⟩
    · rw [hstarts]
      exact h.fabric.append hfabric
    · rw [hstarts, List.filter_append]
      by_cases hname : deviceName = name
      · subst hname
        have hroom : ((since StartEntry.timestamp cfg.window.value now
            (w.starts.filter (fun e => e.device = deviceName))).length : Int) <
              cfg.deviceLimit := by
          rw [since, List.filter_comm] at hdevice
          exact hdevice
        simp only [List.filter_cons, List.filter_nil, decide_true, if_true]
        exact (h.device deviceName).append hroom
      · simp only [List.filter_cons, List.filter_nil, hname, decide_false, Bool.false_eq_true,
          if_false, List.append_nil]
        exact h.device name

/-- The file holds every start that a caller with a later reading can need. -/
def Complete (cfg : EventRunSettings) (w : EventRunWorld) : Prop :=
  ∀ now, w.clock ≤ now → since StartEntry.timestamp cfg.window.value now w.starts =
    w.state.retainedStarts cfg now

theorem complete_step (h : w.Complete cfg) {call : EventRunCall} (horder : w.InOrder call) :
    (w.step cfg call).Complete cfg := by
  intro later hlater
  have hclock : (w.step cfg call).clock = call.now := by
    cases call with
    | start eventId deviceName now =>
      rw [step]
      split <;> rfl
    | finish i completed now =>
      rw [step]
      split
      · rfl
      · split <;> rfl
  rw [hclock] at hlater
  have hkept := h later (horder.trans hlater)
  rw [EventRunState.retainedStarts] at hkept ⊢
  cases call with
  | finish i completed now =>
    obtain ⟨hstarts, hstate⟩ := starts_finish cfg w i completed now
    rw [hstarts, hstate]
    exact hkept
  | start eventId deviceName now =>
    rcases starts_start cfg w eventId deviceName now with
      ⟨hstarts, hstate⟩ | ⟨-, -, hstarts, hstate⟩
    · rw [hstarts, hstate]
      exact hkept
    · rw [hstarts, hstate, since, List.filter_append, since, List.filter_append]
      congr 1
      have hpruned : since StartEntry.timestamp cfg.window.value later
          (since StartEntry.timestamp cfg.window.value now w.state.starts) =
            since StartEntry.timestamp cfg.window.value later w.state.starts :=
        since_since hlater _
      rw [since] at hkept hpruned
      rw [hkept]
      exact hpruned.symm

theorem historyKept_of_inOrder {calls : List EventRunCall} (h : w.Complete cfg)
    (horder : AllSteps (step cfg) InOrder w calls) :
    AllSteps (step cfg) (HistoryKept cfg) w calls := by
  have hkept : ∀ (w : EventRunWorld) call, w.Complete cfg → w.InOrder call →
      w.HistoryKept cfg call := by
    intro w call hw horder
    cases call with
    | start eventId deviceName now => exact hw now horder
    | finish i completed now => trivial
  have hstep : ∀ (w : EventRunWorld) call, w.Complete cfg → w.InOrder call →
      (w.step cfg call).Complete cfg := by
    intro w call hw horder
    exact complete_step hw horder
  exact allSteps_of_guard hstep hkept h horder

end EventRunWorld

/-! ### Probes -/

/-- An active probe whose caller read the clock at `now`. -/
structure ProbeStart where
  device : String
  now : ℚ
deriving DecidableEq, Repr

/-- The window files with all that was ever recorded in them, the callers that have passed the
window of their device, those of them that still wait for the fabric's, and those that have passed
both. -/
structure ProbeWorld where
  files : WindowFiles := fun _ => []
  recorded : WindowFiles := fun _ => []
  passed : List ProbeStart := []
  waiting : List ProbeStart := []
  admitted : List ProbeStart := []

inductive ProbeTurn where
  | device (deviceName : String) (now : ℚ)
  | fabric (waiting : Nat)

namespace ProbeWorld

def record (recorded : WindowFiles) (path : String) (now : ℚ) : WindowFiles :=
  Function.update recorded path (recorded path ++ [now])

variable (cfg : ProbeSettings)

/-- One turn. Other callers may come between the two halves of `check_probe_budget`. -/
def step (w : ProbeWorld) : ProbeTurn → ProbeWorld
  | .device deviceName now =>
    match checkProbeDevice cfg w.files deviceName now with
    | (.error _, files) => { w with files }
    | (.ok (), files) =>
      { w with
        files
        recorded := record w.recorded (probeDevicePath deviceName) now
        passed := w.passed ++ [⟨deviceName, now⟩]
        waiting := w.waiting ++ [⟨deviceName, now⟩] }
  | .fabric i =>
    match w.waiting[i]? with
    | none => w
    | some probe =>
      match checkProbeFabric cfg w.files probe.now with
      | (.error _, files) => { w with files, waiting := w.waiting.eraseIdx i }
      | (.ok (), files) =>
        { w with
          files
          recorded := record w.recorded probeFabricPath probe.now
          waiting := w.waiting.eraseIdx i
          admitted := w.admitted ++ [probe] }

structure WithinBudgets (w : ProbeWorld) : Prop where
  fabric : Budget ProbeStart.now cfg.window.value cfg.fabricLimit w.admitted
  device : ∀ name, Budget ProbeStart.now cfg.window.value cfg.deviceLimit
    (w.admitted.filter (fun p => p.device = name))

/-- The file still holds all that was recorded since the beginning of the caller's window. -/
def KeptAt (w : ProbeWorld) (path : String) (now : ℚ) : Prop :=
  since id cfg.window.value now (w.recorded path) = since id cfg.window.value now (w.files path)

def HistoryKept (w : ProbeWorld) : ProbeTurn → Prop
  | .device deviceName now => w.KeptAt cfg (probeDevicePath deviceName) now
  | .fabric i => ∀ probe, w.waiting[i]? = some probe → w.KeptAt cfg probeFabricPath probe.now

/-- The passes of one window are among the records of its file, so that the file bounds them. -/
structure Inv (w : ProbeWorld) : Prop where
  device : ∀ name, Budget ProbeStart.now cfg.window.value cfg.deviceLimit
    (w.passed.filter (fun p => p.device = name))
  fabric : Budget ProbeStart.now cfg.window.value cfg.fabricLimit w.admitted
  deviceRecorded : ∀ name, ((w.passed.filter (fun p => p.device = name)).map ProbeStart.now).Sublist
    (w.recorded (probeDevicePath name))
  fabricRecorded : (w.admitted.map ProbeStart.now).Sublist (w.recorded probeFabricPath)
  accounted : (w.waiting ++ w.admitted).Subperm w.passed

variable {cfg} {w : ProbeWorld}

lemma sublist_record {l : List ℚ} {path : String} (h : l.Sublist (w.recorded path))
    (path' : String) (now : ℚ) : l.Sublist (record w.recorded path' now path) := by
  rw [record, Function.update_apply]
  split
  · rename_i hpath
    subst hpath
    exact h.trans (List.sublist_append_left _ _)
  · exact h

lemma filter_device_append (l : List ProbeStart) (deviceName name : String) (now : ℚ) :
    (l ++ [(⟨deviceName, now⟩ : ProbeStart)]).filter (fun p => p.device = name) =
      if deviceName = name then l.filter (fun p => p.device = name) ++ [⟨deviceName, now⟩]
      else l.filter (fun p => p.device = name) := by
  rw [List.filter_append]
  by_cases hname : deviceName = name
  · rw [if_pos hname, List.filter_cons_of_pos (by simp [hname]), List.filter_nil]
  · rw [if_neg hname, List.filter_cons_of_neg (by simp [hname]), List.filter_nil, List.append_nil]

theorem inv_device (h : w.Inv cfg) {deviceName : String} {now : ℚ}
    (hkept : w.KeptAt cfg (probeDevicePath deviceName) now) :
    (w.step cfg (.device deviceName now)).Inv cfg := by
  rw [step, checkProbeDevice]
  rcases checkFile_cases w.files (probeDevicePath deviceName) cfg.deviceLimit cfg.window.value now
    with hcheck | ⟨hroom, hcheck⟩
  · rw [hcheck]
    dsimp only
    exact ⟨h.device, h.fabric, h.deviceRecorded, h.fabricRecorded, h.accounted⟩
  rw [hcheck]
  dsimp only
  rw [← hkept] at hroom
  refine ⟨fun name => ?_, h.fabric, fun name => ?_, ?_, ?_⟩
  · rw [filter_device_append]
    split
    · rename_i hname
      subst hname
      have hle := since_length_le (h.deviceRecorded deviceName) cfg.window.value now
      exact (h.device deviceName).append (lt_of_le_of_lt (Int.ofNat_le.mpr hle) hroom)
    · exact h.device name
  · rw [filter_device_append]
    split
    · rename_i hname
      subst hname
      dsimp only
      rw [List.map_append, record, Function.update_self]
      exact (h.deviceRecorded deviceName).append (List.Sublist.refl _)
    · dsimp only
      exact sublist_record (h.deviceRecorded name) (probeDevicePath deviceName) now
  · dsimp only
    exact sublist_record h.fabricRecorded (probeDevicePath deviceName) now
  · have hperm : (w.waiting ++ [(⟨deviceName, now⟩ : ProbeStart)] ++ w.admitted).Perm
        (w.waiting ++ w.admitted ++ [⟨deviceName, now⟩]) := by
      rw [List.append_assoc, List.append_assoc]
      exact List.perm_append_comm.append_left _
    exact hperm.subperm.trans (h.accounted.append (List.Subperm.refl _))

theorem inv_fabric (h : w.Inv cfg) {i : Nat} (hkept : w.HistoryKept cfg (.fabric i)) :
    (w.step cfg (.fabric i)).Inv cfg := by
  rw [step]
  cases hwaiting : w.waiting[i]? with
  | none => exact h
  | some probe =>
    dsimp only
    rw [checkProbeFabric]
    rcases checkFile_cases w.files probeFabricPath cfg.fabricLimit cfg.window.value probe.now
      with hcheck | ⟨hroom, hcheck⟩
    · rw [hcheck]
      dsimp only
      have hsub := (List.eraseIdx_sublist w.waiting i).append (List.Sublist.refl w.admitted)
      exact ⟨h.device, h.fabric, h.deviceRecorded, h.fabricRecorded,
        hsub.subperm.trans h.accounted⟩
    rw [hcheck]
    dsimp only
    rw [← hkept probe hwaiting] at hroom
    have hle := since_length_le h.fabricRecorded cfg.window.value probe.now
    refine ⟨h.device, h.fabric.append (lt_of_le_of_lt (Int.ofNat_le.mpr hle) hroom),
      fun name => ?_, ?_, ?_⟩
    · dsimp only
      exact sublist_record (h.deviceRecorded name) probeFabricPath probe.now
    · dsimp only
      rw [List.map_append, record, Function.update_self]
      exact h.fabricRecorded.append (List.Sublist.refl _)
    · obtain ⟨hlt, rfl⟩ := List.getElem?_eq_some_iff.mp hwaiting
      have hperm : (w.waiting.eraseIdx i ++ (w.admitted ++ [w.waiting[i]])).Perm
          (w.waiting ++ w.admitted) := by
        rw [← List.append_assoc]
        refine (List.perm_append_singleton _ _).trans ?_
        exact (List.getElem_cons_eraseIdx_perm hlt).append_right w.admitted
      exact hperm.subperm.trans h.accounted

theorem inv_step (h : w.Inv cfg) {turn : ProbeTurn} (hkept : w.HistoryKept cfg turn) :
    (w.step cfg turn).Inv cfg := by
  cases turn with
  | device deviceName now => exact inv_device h hkept
  | fabric i => exact inv_fabric h hkept

theorem files_turns (cfg : ProbeSettings) (w : ProbeWorld) (deviceName : String) (now : ℚ) :
    (final (step cfg) w [.device deviceName now, .fabric w.waiting.length]).files =
      (checkProbeBudget cfg w.files deviceName now).2 := by
  rw [final_cons, final_cons, final_nil, checkProbeBudget]
  cases hdevice : checkProbeDevice cfg w.files deviceName now with
  | mk result files =>
    cases result with
    | error refusal => simp [step, hdevice]
    | ok =>
      cases hfabric : checkProbeFabric cfg files now with
      | mk result' files' => cases result' <;> simp [step, hdevice, hfabric]

lemma Inv.withinBudgets (h : w.Inv cfg) : w.WithinBudgets cfg := by
  refine ⟨h.fabric, fun name => ?_⟩
  have hsub := (List.sublist_append_right w.waiting w.admitted).subperm.trans h.accounted
  exact (h.device name).subperm (hsub.filter _)

lemma inv_initial : (({} : ProbeWorld)).Inv cfg := by
  have hfabric : 0 ≤ cfg.fabricLimit := zero_le_one.trans (le_max_left _ _)
  have hdevice : 0 ≤ cfg.deviceLimit := zero_le_one.trans (le_max_left _ _)
  exact ⟨fun _ => budget_nil hdevice, budget_nil hfabric, fun _ => List.Sublist.refl _,
    List.Sublist.refl _, List.Subperm.refl _⟩

end ProbeWorld

lemma EventRunWorld.withinBudgets_of_no_runs {cfg : EventRunSettings} {w : EventRunWorld}
    (h : w.runs = []) : w.WithinBudgets cfg := by
  have hfabric : 0 ≤ cfg.fabricLimit := zero_le_one.trans (le_max_left _ _)
  have hdevice : 0 ≤ cfg.deviceLimit := zero_le_one.trans (le_max_left _ _)
  have hstarts : w.starts = [] := by
    rw [starts, h]
    rfl
  refine ⟨?_, fun name => ?_⟩
  · rw [hstarts]
    exact budget_nil hfabric
  · rw [hstarts]
    exact budget_nil hdevice

/-- Budgets hold in whatever order callers are served, as long as each finds the starts of its own
window, and a refused event run writes nothing. -/
theorem admission_budgets (cfg : EventRunSettings) :
    (∀ (clock : ℚ) (calls : List EventRunCall),
      AllSteps (EventRunWorld.step cfg) (EventRunWorld.HistoryKept cfg) { clock } calls →
        AllSteps (EventRunWorld.step cfg) (fun w call => (w.step cfg call).WithinBudgets cfg)
          { clock } calls) ∧
      (∀ (cfg : ProbeSettings) (turns : List ProbeTurn),
        AllSteps (ProbeWorld.step cfg) (ProbeWorld.HistoryKept cfg) {} turns →
          AllSteps (ProbeWorld.step cfg) (fun w turn => (w.step cfg turn).WithinBudgets cfg) {}
            turns) ∧
      ∀ (state : EventRunState) (eventId deviceName : String) (now : ℚ)
        (refusal : AdmissionRefusal),
        (admitEventRun cfg state eventId deviceName now).1 = .error refusal →
          (admitEventRun cfg state eventId deviceName now).2 = state := by
  refine ⟨fun clock calls hkept => ?_, fun cfg turns hkept => ?_,
    fun state eventId deviceName now refusal => admitEventRun_refused⟩
  · have hstep : ∀ (w : EventRunWorld) call, w.WithinBudgets cfg → w.HistoryKept cfg call →
        (w.step cfg call).WithinBudgets cfg := by
      intro w call hw hcall
      exact EventRunWorld.withinBudgets_step hw hcall
    exact allSteps_of_guard hstep hstep (EventRunWorld.withinBudgets_of_no_runs rfl) hkept
  · have hstep : ∀ (w : ProbeWorld) turn, w.Inv cfg → w.HistoryKept cfg turn →
        (w.step cfg turn).Inv cfg := by
      intro w turn hw hturn
      exact ProbeWorld.inv_step hw hturn
    have hwithin : ∀ (w : ProbeWorld) turn, w.Inv cfg → w.HistoryKept cfg turn →
        (w.step cfg turn).WithinBudgets cfg := by
      intro w turn hw hturn
      exact (hstep w turn hw hturn).withinBudgets
    exact allSteps_of_guard hstep hwithin ProbeWorld.inv_initial hkept

def twoPerMinute : EventRunSettings where
  window := ⟨60, "60"⟩
  idempotencyWindow := ⟨3600, "3600"⟩
  maxPerDevice := 2
  maxFabric := 30

def twoProbesPerMinute : ProbeSettings where
  window := ⟨60, "60"⟩
  maxPerDevice := 2
  maxFabric := 10

def servedInOrder : List EventRunCall :=
  [.start "e1" "PE1" 0, .start "e2" "PE1" 1, .start "e3" "PE1" 2]

theorem admission_budgets_servedInOrder :
    AllSteps (EventRunWorld.step twoPerMinute)
        (fun w call => (w.step twoPerMinute call).WithinBudgets twoPerMinute) { clock := 0 }
        servedInOrder ∧
      AllSteps (ProbeWorld.step twoProbesPerMinute)
        (fun w turn => (w.step twoProbesPerMinute turn).WithinBudgets twoProbesPerMinute) {}
        [.device "PE1" 0, .fabric 0] ∧
      (admitEventRun twoPerMinute
        (final (EventRunWorld.step twoPerMinute) { clock := 0 } servedInOrder).state "e3" "PE1" 2).2 =
          (final (EventRunWorld.step twoPerMinute) { clock := 0 } servedInOrder).state := by
  have hcomplete : EventRunWorld.Complete twoPerMinute { clock := 0 } := fun _ _ => rfl
  refine ⟨(admission_budgets twoPerMinute).1 0 servedInOrder
    (EventRunWorld.historyKept_of_inOrder hcomplete (by decide +kernel)),
    (admission_budgets twoPerMinute).2.1 _ _ ⟨rfl, ?_, trivial⟩, ?_⟩
  · intro probe hprobe
    cases hprobe
    rfl
  · refine (admission_budgets twoPerMinute).2.2 _ "e3" "PE1" 2 ⟨"event_device",
      "2 event run(s) already started for PE1 in the last 60s " ++
        "(NETTOOLS_MAX_EVENT_RUNS_PER_DEVICE=2)"⟩ ?_
    decide +kernel

/-- A caller that read the clock at 50 is served after one that read it at 61.5, which has dropped
the starts at 0 and 1. -/
def servedLate : List EventRunCall :=
  [.start "e1" "PE1" 0, .start "e2" "PE1" 1, .start "e3" "PE1" (123 / 2), .start "e4" "PE1" 50]

theorem admission_budgets_fail_servedLate :
    ¬AllSteps (EventRunWorld.step twoPerMinute)
      (fun w call => (w.step twoPerMinute call).WithinBudgets twoPerMinute) { clock := 0 }
      servedLate := by
  intro h
  have hdevice := h.2.2.2.1.device "PE1" 50
  exact absurd hdevice (by decide +kernel)

end NetTools
