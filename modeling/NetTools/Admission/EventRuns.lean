import Mathlib.Algebra.Order.Group.Basic
import NetTools.Admission.Gates
import NetTools.Library.Runs

/-!
# One live run for each event

Any number of processes admit and finish event runs. The calls take the lock one after the other,
so that a schedule is a list of calls; each run that was admitted may report its end once.
-/

namespace NetTools

open Runs

/-- A run that was admitted, and whether its own `finish_event_run` has been made. -/
structure AdmittedRun where
  eventId : String
  device : String
  admittedAt : ℚ
  finished : Bool := false
deriving DecidableEq, Repr

/-- The state file, all runs admitted so far in the order of their admission, and the last clock
reading. -/
structure EventRunWorld where
  state : EventRunState := {}
  runs : List AdmittedRun := []
  clock : ℚ

inductive EventRunCall where
  | start (eventId deviceName : String) (now : ℚ)
  | finish (run : Nat) (completed : Bool) (now : ℚ)

def EventRunCall.now : EventRunCall → ℚ
  | .start _ _ now => now
  | .finish _ _ now => now

namespace EventRunWorld

def step (cfg : EventRunSettings) (w : EventRunWorld) : EventRunCall → EventRunWorld
  | .start eventId deviceName now =>
    match admitEventRun cfg w.state eventId deviceName now with
    | (.ok (), state) =>
      { state, runs := w.runs ++ [⟨eventId, deviceName, now, false⟩], clock := now }
    | (.error _, state) => { w with state, clock := now }
  | .finish i completed now =>
    match w.runs[i]? with
    | none => { w with clock := now }
    | some run =>
      if run.finished then { w with clock := now }
      else
        { state := finishEventRun w.state run.eventId completed now
          runs := w.runs.modify i (fun r => { r with finished := true })
          clock := now }

variable (cfg : EventRunSettings)

def InOrder (w : EventRunWorld) (call : EventRunCall) : Prop := w.clock ≤ call.now

instance (w : EventRunWorld) (call : EventRunCall) : Decidable (w.InOrder call) :=
  inferInstanceAs (Decidable (_ ≤ _))

/-- A run of the event that was admitted after the `i`-th and has not finished. -/
def HeldByNewer (w : EventRunWorld) (i : Nat) (eventId : String) : Prop :=
  ∃ j r, i < j ∧ w.runs[j]? = some r ∧ r.eventId = eventId ∧ r.finished = false

/-- What an admission or the end of a run must respect: no run is admitted beside a live one of
its event, and the late end of a run leaves alone an identity that a newer run holds. -/
def OneLive (w : EventRunWorld) : EventRunCall → Prop
  | .start eventId deviceName now =>
    (admitEventRun cfg w.state eventId deviceName now).1 = .ok () →
      ∀ r ∈ w.runs, r.eventId = eventId → r.finished = false → r.admittedAt ≤ now →
        cfg.leaseSeconds ≤ now - r.admittedAt
  | .finish i completed now =>
    ∀ r, w.runs[i]? = some r → r.finished = false → cfg.leaseSeconds ≤ now - r.admittedAt →
      w.HeldByNewer i r.eventId →
        (w.step cfg (.finish i completed now)).state.events.get? r.eventId =
          w.state.events.get? r.eventId

/-- The calls under which the gate does its work: the idempotency window of an admission cuts off
no entry within its lease, and a run ends before a newer one holds its identity, or when the file
has no entry for it any more. -/
def Fenced (w : EventRunWorld) : EventRunCall → Prop
  | .start _ _ now => ∀ entry ∈ w.state.events.rows, entry.active cfg.leaseSeconds now = true →
      now - cfg.idempotencyWindow.value ≤ entry.updated
  | .finish i _ _ => ∀ r, w.runs[i]? = some r → r.finished = false → w.HeldByNewer i r.eventId →
      w.state.events.get? r.eventId = none

/-- A run that has not finished is past its lease, or holds the identity of its event. -/
def Covered (w : EventRunWorld) (i : Nat) (r : AdmittedRun) : Prop :=
  cfg.leaseSeconds ≤ w.clock - r.admittedAt ∨
    ((∃ device, w.state.events.get? r.eventId =
        some ⟨r.eventId, device, .accepted, r.admittedAt⟩) ∧
      ∀ j r', i < j → w.runs[j]? = some r' → r'.eventId ≠ r.eventId)

def Inv (w : EventRunWorld) : Prop :=
  ∀ i r, w.runs[i]? = some r → r.finished = false → w.Covered cfg i r

variable {cfg} {w : EventRunWorld}

lemma fenced_start_of_window (hwindow : 1 ≤ cfg.idempotencyWindow.value)
    (eventId deviceName : String) (now : ℚ) : w.Fenced cfg (.start eventId deviceName now) := by
  intro entry _ hactive
  have hlt : now - entry.updated < cfg.leaseSeconds := by
    rw [EventEntry.active, Bool.and_eq_true] at hactive
    exact of_decide_eq_true hactive.2
  have hle : cfg.leaseSeconds ≤ cfg.idempotencyWindow.value := by
    rw [EventRunSettings.leaseSeconds, max_eq_right hwindow]
    exact min_le_right _ _
  have h := hlt.trans_le hle
  rw [sub_lt_comm] at h
  exact h.le

lemma Covered.later {w' : EventRunWorld} {i : Nat} {r : AdmittedRun} (h : w.Covered cfg i r)
    (hstate : w'.state = w.state) (hruns : w'.runs = w.runs) (hclock : w.clock ≤ w'.clock) :
    w'.Covered cfg i r := by
  rcases h with hpast | hholds
  · exact .inl (hpast.trans (sub_le_sub_right hclock _))
  · rw [Covered, hstate, hruns]
    exact .inr hholds

lemma past_of_admitted (hinv : w.Inv cfg) {eventId deviceName : String} {now : ℚ}
    {state : EventRunState} (hfenced : w.Fenced cfg (.start eventId deviceName now))
    (hclock : w.clock ≤ now)
    (hok : admitEventRun cfg w.state eventId deviceName now = (.ok (), state)) {i : Nat}
    {r : AdmittedRun} (hr : w.runs[i]? = some r) (hevent : r.eventId = eventId)
    (hfinished : r.finished = false) : cfg.leaseSeconds ≤ now - r.admittedAt := by
  rcases hinv i r hr hfinished with hpast | ⟨⟨device, hentry⟩, -⟩
  · exact hpast.trans (sub_le_sub_right hclock _)
  by_contra hlive
  set entry : EventEntry := ⟨r.eventId, device, .accepted, r.admittedAt⟩
  have hactive : entry.active cfg.leaseSeconds now = true := by
    rw [EventEntry.active, Bool.and_eq_true]
    exact ⟨rfl, decide_eq_true (not_le.mp hlive)⟩
  have hkept := hfenced entry (KeyedTable.mem_of_get? hentry) hactive
  have hprior := EventRunState.retainedEvents_of_kept (hevent ▸ hentry) hkept
  have hfree := (admitEventRun_admitted hok).1 entry hprior
  rw [hactive] at hfree
  cases hfree

lemma Covered.admitted {eventId deviceName : String} {now : ℚ} {state : EventRunState}
    (hfenced : w.Fenced cfg (.start eventId deviceName now)) (hclock : w.clock ≤ now)
    (hok : admitEventRun cfg w.state eventId deviceName now = (.ok (), state)) {i : Nat}
    {r : AdmittedRun} (h : w.Covered cfg i r) (hevent : r.eventId ≠ eventId) :
    Covered cfg ⟨state, w.runs ++ [⟨eventId, deviceName, now, false⟩], now⟩ i r := by
  rcases h with hpast | ⟨⟨device, hentry⟩, hnewest⟩
  · exact .inl (hpast.trans (sub_le_sub_right hclock _))
  set entry : EventEntry := ⟨r.eventId, device, .accepted, r.admittedAt⟩
  obtain ⟨-, -, -, -, -, hothers⟩ := admitEventRun_admitted hok
  by_cases hkept : now - cfg.idempotencyWindow.value ≤ entry.updated
  · have hget := hothers r.eventId hevent
    rw [EventRunState.retainedEvents_of_kept hentry hkept] at hget
    refine .inr ⟨⟨device, hget⟩, fun j r' hj hr' => ?_⟩
    rw [List.getElem?_append] at hr'
    split at hr'
    · exact hnewest j r' hj hr'
    · rename_i hlen
      rw [List.getElem?_singleton] at hr'
      split at hr'
      · cases hr'
        exact hevent.symm
      · cases hr'
  · refine .inl (not_lt.mp (fun hlive => hkept (hfenced entry (KeyedTable.mem_of_get? hentry) ?_)))
    rw [EventEntry.active, Bool.and_eq_true]
    exact ⟨rfl, decide_eq_true hlive⟩

theorem inv_start (hinv : w.Inv cfg) {eventId deviceName : String} {now : ℚ}
    (hclock : w.clock ≤ now) (hfenced : w.Fenced cfg (.start eventId deviceName now)) :
    (w.step cfg (.start eventId deviceName now)).Inv cfg := by
  intro i r hr hfinished
  cases hresult : admitEventRun cfg w.state eventId deviceName now with
  | mk result state =>
    cases result with
    | error refusal =>
      have hsame := admitEventRun_refused (congrArg Prod.fst hresult)
      rw [hresult] at hsame
      simp only [step, hresult] at hr ⊢
      exact (hinv i r hr hfinished).later hsame rfl hclock
    | ok =>
      simp only [step, hresult] at hr ⊢
      rw [List.getElem?_append] at hr
      split at hr
      · rename_i hlen
        by_cases hevent : r.eventId = eventId
        · exact .inl (past_of_admitted hinv hfenced hclock hresult hr hevent hfinished)
        · exact (hinv i r hr hfinished).admitted hfenced hclock hresult hevent
      · rename_i hlen
        rw [List.getElem?_singleton] at hr
        split at hr
        · cases hr
          obtain ⟨-, -, -, -, hentry, -⟩ := admitEventRun_admitted hresult
          refine .inr ⟨⟨deviceName, hentry⟩, fun j r' hj hr' => ?_⟩
          rw [List.getElem?_eq_none (by simp; omega)] at hr'
          cases hr'
        · cases hr

theorem inv_finish (hinv : w.Inv cfg) {i : Nat} {completed : Bool} {now : ℚ}
    (hclock : w.clock ≤ now) (hfenced : w.Fenced cfg (.finish i completed now)) :
    (w.step cfg (.finish i completed now)).Inv cfg := by
  intro k r hr hfinished
  rw [step] at hr ⊢
  cases hrun : w.runs[i]? with
  | none =>
    simp only [hrun] at hr ⊢
    exact (hinv k r hr hfinished).later rfl rfl hclock
  | some run =>
    simp only [hrun] at hr ⊢
    split at hr
    · rename_i hdone
      rw [if_pos hdone]
      exact (hinv k r hr hfinished).later rfl rfl hclock
    · rename_i hopen
      rw [if_neg hopen]
      dsimp only at hr
      -- the run that ends is not `r`, which has not finished
      have hne : i ≠ k := by
        rintro rfl
        rw [List.getElem?_modify_eq, hrun] at hr
        cases hr
        cases hfinished
      rw [List.getElem?_modify_ne _ _ hne] at hr
      rcases hinv k r hr hfinished with hpast | ⟨⟨device, hentry⟩, hnewest⟩
      · exact .inl (hpast.trans (sub_le_sub_right hclock _))
      have hother : run.eventId ≠ r.eventId := by
        intro hsame
        rcases lt_or_gt_of_ne hne with hlt | hgt
        · have habsent := hfenced run hrun (by simpa using hopen) ⟨k, r, hlt, hr, hsame.symm, hfinished⟩
          rw [hsame, hentry] at habsent
          cases habsent
        · exact hnewest i run hgt hrun hsame
      refine .inr ⟨⟨device, ?_⟩, fun j r' hj hr' => ?_⟩
      · rw [finishEventRun, KeyedTable.get?_modify_of_ne _ hother.symm]
        exact hentry
      · by_cases hij : i = j
        · subst hij
          rw [List.getElem?_modify_eq, hrun] at hr'
          cases hr'
          exact hother
        · rw [List.getElem?_modify_ne _ _ hij] at hr'
          exact hnewest j r' hj hr'

theorem inv_step (hinv : w.Inv cfg) {call : EventRunCall} (hclock : w.InOrder call)
    (hfenced : w.Fenced cfg call) : (w.step cfg call).Inv cfg := by
  cases call with
  | start eventId deviceName now => exact inv_start hinv hclock hfenced
  | finish i completed now => exact inv_finish hinv hclock hfenced

theorem oneLive_of_inv (hinv : w.Inv cfg) {call : EventRunCall} (hclock : w.InOrder call)
    (hfenced : w.Fenced cfg call) : w.OneLive cfg call := by
  cases call with
  | start eventId deviceName now =>
    intro hok r hr hevent hfinished _
    obtain ⟨i, hi⟩ := List.mem_iff_getElem?.mp hr
    have hresult : admitEventRun cfg w.state eventId deviceName now =
        (.ok (), (admitEventRun cfg w.state eventId deviceName now).2) := Prod.ext hok rfl
    exact past_of_admitted hinv hfenced hclock hresult hi hevent hfinished
  | finish i completed now =>
    intro r hr hfinished _ hnewer
    have habsent := hfenced r hr hfinished hnewer
    rw [step, hr]
    dsimp only
    rw [hfinished, if_neg Bool.false_ne_true, finishEventRun, KeyedTable.get?_modify, habsent]
    rfl

end EventRunWorld

/-- Whatever the state file holds at first, calls that are fenced never leave two live runs of one
event, and no late end reaches a newer run. -/
theorem oneLiveRun (cfg : EventRunSettings) (w : EventRunWorld) (hruns : w.runs = [])
    (calls : List EventRunCall)
    (horder : AllSteps (EventRunWorld.step cfg) EventRunWorld.InOrder w calls)
    (hfenced : AllSteps (EventRunWorld.step cfg) (EventRunWorld.Fenced cfg) w calls) :
    AllSteps (EventRunWorld.step cfg) (EventRunWorld.OneLive cfg) w calls := by
  have hinv : w.Inv cfg := by
    intro i r hr
    rw [hruns] at hr
    cases hr
  have hstep : ∀ (w : EventRunWorld) call, w.Inv cfg → w.InOrder call ∧ w.Fenced cfg call →
      (w.step cfg call).Inv cfg := by
    intro w call hinv h
    exact EventRunWorld.inv_step hinv h.1 h.2
  have hlive : ∀ (w : EventRunWorld) call, w.Inv cfg → w.InOrder call ∧ w.Fenced cfg call →
      w.OneLive cfg call := by
    intro w call hinv h
    exact EventRunWorld.oneLive_of_inv hinv h.1 h.2
  exact allSteps_of_guard hstep hlive hinv (allSteps_and.mpr ⟨horder, hfenced⟩)

/-- The defaults of `admission.py`. -/
def defaultEventRunSettings : EventRunSettings where
  window := ⟨3600, "3600"⟩
  idempotencyWindow := ⟨3600, "3600"⟩
  maxPerDevice := 6
  maxFabric := 30

def retriedRun : List EventRunCall :=
  [.start "e" "PE1" 0, .finish 0 false 10, .start "e" "PE1" 20]

theorem oneLiveRun_retriedRun :
    AllSteps (EventRunWorld.step defaultEventRunSettings)
      (EventRunWorld.OneLive defaultEventRunSettings) { clock := 0 } retriedRun := by
  have hwindow : 1 ≤ defaultEventRunSettings.idempotencyWindow.value := by decide +kernel
  refine oneLiveRun defaultEventRunSettings { clock := 0 } rfl retriedRun (by decide +kernel) ?_
  refine ⟨EventRunWorld.fenced_start_of_window hwindow _ _ _, ?_,
    EventRunWorld.fenced_start_of_window hwindow _ _ _, trivial⟩
  rintro r - - ⟨j, r', hj, hr', -⟩
  have hlength : j < 1 := (List.getElem?_eq_some_iff.mp hr').1
  omega

/-- The first run outlives its lease, a second takes the event over, and the end of the first
opens the event to a third while the second is live. -/
def lateEnd : List EventRunCall :=
  [.start "e" "PE1" 0, .start "e" "PE1" 300, .finish 0 false 301, .start "e" "PE1" 302]

theorem oneLiveRun_fails_lateEnd :
    ¬AllSteps (EventRunWorld.step defaultEventRunSettings)
      (EventRunWorld.OneLive defaultEventRunSettings) { clock := 0 } lateEnd := by
  intro h
  have hthird := h.2.2.2.1 (by decide +kernel) ⟨"e", "PE1", 300, false⟩ (by decide +kernel) rfl rfl
    (by decide +kernel)
  exact absurd hthird (by decide +kernel)

end NetTools
