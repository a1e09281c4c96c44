import NetTools.EventAgent.Dispatch
import NetTools.EventStore.Heartbeat

/-!
# Recovery sweeps

A worker goes over the events that are due. It leases one after the other, runs each and reports a
failure under the lease. While a runner works, the store takes calls of others and renewals.
-/

namespace NetTools

open Runs

/-- What reaches the store while a runner works, and the type of the exception that ends it. -/
structure RunnerTurn where
  calls : List LifecycleCall
  failure : Option String
  ended : Datetime

/-- What a sweep does not decide: the calls of others before a record is leased, and the runner. -/
structure Surroundings where
  before : EventStore → EventRecord → List LifecycleCall
  runner : EventStore → EventRecord → RunnerTurn

/-- `run_eligible` as far as it went. -/
structure SweepRun where
  store : EventStore
  claimed : List String
  raised : Option StoreError

structure EventWorker where
  owner : String
  leaseSeconds : ℚ := 180

namespace EventWorker

variable (worker : EventWorker) (around : Surroundings) (current : Datetime) (fixedClock : Bool)

def failureReason (failure : String) : String := "event runner failed: " ++ failure

def report (s : EventStore) (eventId failure : String) (lease : EventRecord) (now : Datetime) :
    EventStore × Option StoreError :=
  match s.scheduleRetry eventId (failureReason failure) none 5 3 lease.leaseOwner
      (some lease.leaseEpoch) now with
  | .ok (_, s') => (s', none)
  | .error e => (s, if e.kind = .lease then none else some e)

def runRecord (s : EventStore) (record : EventRecord) : SweepRun :=
  let s := final EventStore.lifecycleStep s (around.before s record)
  match s.acquireLease record.eventId worker.owner worker.leaseSeconds current with
  | .error _ => ⟨s, [], none⟩
  | .ok (lease, s) =>
    let turn := around.runner s lease
    let s := final EventStore.lifecycleStep s turn.calls
    match turn.failure with
    | none => ⟨s, [record.eventId], none⟩
    | some failure =>
      let reported := report s record.eventId failure lease
        (if fixedClock then current else turn.ended)
      ⟨reported.1, [record.eventId], reported.2⟩

def runRecords : EventStore → List EventRecord → SweepRun
  | s, [] => ⟨s, [], none⟩
  | s, record :: records =>
    let first := runRecord worker around current fixedClock s record
    if first.raised.isSome then first
    else
      let rest := runRecords first.store records
      ⟨rest.store, first.claimed ++ rest.claimed, rest.raised⟩

def runEligible (now : Option Datetime) (clock : Datetime) (s : EventStore) : SweepRun :=
  runRecords worker around (now.getD clock) now.isSome s (s.recoverableEvents (now.getD clock))

end EventWorker

structure RecoveryService where
  owner : String
  leaseSeconds : ℚ
  spare : ({} : AgentBounds).timeBudget + 60 ≤ leaseSeconds

/-- What one sweep meets. The drain ends with the number of its outcomes, or raises. -/
structure Sweep where
  service : RecoveryService
  around : Surroundings
  drain : EventStore → List SideCall × Option Nat
  now : Option Datetime
  clock : Datetime

structure SweepResult where
  claimedEvents : List String
  notificationOutcomes : Nat

namespace Sweep

variable (sweep : Sweep) (s : EventStore)

def worker : EventWorker := ⟨sweep.service.owner, sweep.service.leaseSeconds⟩

def eligible : SweepRun := sweep.worker.runEligible sweep.around sweep.now sweep.clock s

def sweepOnce : SweepResult × EventStore :=
  let run := sweep.eligible s
  let drained := sweep.drain run.store
  (⟨if run.raised.isSome then [] else run.claimed, drained.2.getD 0⟩,
    final EventStore.sideStep run.store drained.1)

def reported (turn : RunnerTurn) : Datetime :=
  if sweep.now.isSome then sweep.now.getD sweep.clock else turn.ended

end Sweep

def retryTarget (failures : Nat) : EventState :=
  if (3 : Int) ≤ (failures + 1 : Nat) then .deadLetter else .retryableFailed

def retryDeadline (failures : Nat) (now : Datetime) : Option Datetime :=
  if (3 : Int) ≤ (failures + 1 : Nat) then none else some (now.addSeconds (5 * 2 ^ failures))

def EventView.afterFailure (v : EventView) (lease : EventRecord) (owner failure : String)
    (current now : Datetime) : EventView :=
  ⟨some (lease.retried (retryTarget v.failures) (retryDeadline v.failures now)
      (EventWorker.failureReason failure) none now),
    v.attempts ++ [⟨.running, current, some s!"lease acquired by {owner}"⟩] ++
      [⟨retryTarget v.failures, now, some (EventWorker.failureReason failure)⟩]⟩

namespace EventWorker

variable {worker : EventWorker} {around : Surroundings} {current : Datetime} {fixedClock : Bool}
  {s : EventStore} {record : EventRecord} {eventId : String}

lemma report_of_held {row lease : EventRecord} {failure : String} {now : Datetime}
    (hrow : s.get eventId = some row) (hworkable : row.state.workable = true)
    (howner : row.leaseOwner = lease.leaseOwner) {owner : String}
    (hleased : lease.leaseOwner = some owner) (hepoch : row.leaseEpoch = lease.leaseEpoch)
    {expiry : Datetime} (hexpiry : row.leaseExpiresAt = some expiry)
    (hlive : now.micros < expiry.micros) :
    (report s eventId failure lease now).2 = none ∧
      (report s eventId failure lease now).1 = s.writeEvent eventId
        (fun r => r.retried (retryTarget (s.retryCount eventId))
          (retryDeadline (s.retryCount eventId) now) (failureReason failure) none now)
        (fun r => r.retried_eventId _ _ _ _ _)
        [⟨retryTarget (s.retryCount eventId), now, some (failureReason failure)⟩] := by
  have hfence : EventStore.validateLeaseFence row lease.leaseOwner (some lease.leaseEpoch) now =
      .ok () :=
    EventStore.validateLeaseFence_eq_ok_iff.mpr (.inr ⟨owner, lease.leaseEpoch, hleased, rfl,
      howner.trans hleased, hepoch, expiry, hexpiry, hlive⟩)
  have hpolicy : ¬((5 : ℚ) ≤ 0 ∨ (3 : Int) < 1) := by norm_num
  have hpower : s.retryCount eventId + 1 - 1 = s.retryCount eventId := rfl
  unfold report EventStore.scheduleRetry
  simp only [if_neg hpolicy, hrow, hworkable, Bool.true_eq_false, if_false, hfence, hpower]
  exact ⟨trivial, rfl⟩

/-- The runner has left the event as it was leased, but for a later expiry that is still ahead. -/
def LeaseKept (s s' : EventStore) (lease : EventRecord) (now : Datetime) : Prop :=
  ∃ expiry updated, s'.view lease.eventId =
      ⟨some { lease with leaseExpiresAt := some expiry, updatedAt := updated },
        s.eventAttempts lease.eventId⟩ ∧
    now.micros < expiry.micros

lemma leased_view {s' : EventStore} {owner : String} {leaseSeconds : ℚ} {lease : EventRecord}
    (h : s.acquireLease eventId owner leaseSeconds current = .ok (lease, s')) :
    lease.eventId = eventId ∧ lease.leaseOwner = some owner ∧ lease.state = .running ∧
      s'.view eventId = ⟨some lease, (s.view eventId).attempts ++
        [⟨.running, current, some s!"lease acquired by {owner}"⟩]⟩ ∧
      ∀ other, other ≠ eventId → s'.view other = s.view other := by
  obtain ⟨row, hrow, -, rfl, rfl⟩ := EventStore.acquireLease_cases h
  have hid : row.eventId = eventId := EventStore.key_of_get hrow
  exact ⟨hid, rfl, rfl, EventStore.view_writeEvent_self hrow,
    fun other hother => EventStore.view_writeEvent_of_ne hother⟩

lemma runRecord_of_failed {s₁ s₂ : EventStore} {lease : EventRecord} {failure : String}
    (hbefore : final EventStore.lifecycleStep s (around.before s record) = s₁)
    (hlease : s₁.acquireLease record.eventId worker.owner worker.leaseSeconds current =
      .ok (lease, s₂))
    (hfailed : (around.runner s₂ lease).failure = some failure) {now : Datetime}
    (hnow : (if fixedClock then current else (around.runner s₂ lease).ended) = now)
    (hkept : LeaseKept s₂ (final EventStore.lifecycleStep s₂ (around.runner s₂ lease).calls) lease
      now) :
    (worker.runRecord around current fixedClock s record).raised = none ∧
      (worker.runRecord around current fixedClock s record).claimed = [record.eventId] ∧
      (worker.runRecord around current fixedClock s record).store.view record.eventId =
        (s₁.view record.eventId).afterFailure lease worker.owner failure current now ∧
      ∀ other, other ≠ record.eventId →
        (worker.runRecord around current fixedClock s record).store.view other =
          (final EventStore.lifecycleStep s₂ (around.runner s₂ lease).calls).view other := by
  obtain ⟨hid, howner, hstate, hview, -⟩ := leased_view hlease
  obtain ⟨expiry, updated, hleft, hlive⟩ := hkept
  rw [hid] at hleft
  have hrow := congrArg EventView.row hleft
  have hattempts := congrArg EventView.attempts hleft
  have hlog := congrArg EventView.attempts hview
  rw [EventStore.view_row] at hrow
  rw [EventStore.view_attempts] at hattempts hlog
  have hworkable : ({ lease with leaseExpiresAt := some expiry, updatedAt := updated } :
      EventRecord).state.workable = true := by
    change lease.state.workable = true
    rw [hstate]
    rfl
  obtain ⟨hraised, hstore⟩ := @report_of_held _ _ _ lease failure now hrow hworkable rfl _ howner
    rfl _ rfl hlive
  have hcount : (final EventStore.lifecycleStep s₂ (around.runner s₂ lease).calls).retryCount
      record.eventId = (s₁.view record.eventId).failures := by
    unfold EventStore.retryCount EventView.failures
    rw [hattempts, hlog, List.filter_append, List.length_append]
    exact Nat.add_zero _
  have hrun : worker.runRecord around current fixedClock s record =
      ⟨(report (final EventStore.lifecycleStep s₂ (around.runner s₂ lease).calls) record.eventId
        failure lease now).1, [record.eventId], none⟩ := by
    unfold runRecord
    dsimp only
    rw [hbefore, hlease]
    dsimp only
    rw [hfailed]
    dsimp only
    rw [hnow, hraised]
  rw [hrun, hstore, hcount]
  refine ⟨rfl, rfl, ?_, fun other hother => EventStore.view_writeEvent_of_ne hother⟩
  rw [EventStore.view_writeEvent_self hrow, hattempts, hlog]
  unfold EventView.afterFailure EventRecord.retried
  rw [hid]

lemma runRecord_view_of_ne {other : String} (hne : other ≠ record.eventId)
    (hbefore : (final EventStore.lifecycleStep s (around.before s record)).view other =
      s.view other)
    (hrunner : ∀ s₂ lease, lease.eventId = record.eventId →
      (final EventStore.lifecycleStep s₂ (around.runner s₂ lease).calls).view other =
        s₂.view other) :
    (worker.runRecord around current fixedClock s record).store.view other = s.view other := by
  unfold runRecord
  dsimp only
  cases hlease : (final EventStore.lifecycleStep s (around.before s record)).acquireLease
      record.eventId worker.owner worker.leaseSeconds current with
  | error e => exact hbefore
  | ok result =>
    obtain ⟨lease, s₂⟩ := result
    obtain ⟨hid, -, -, -, hother⟩ := leased_view hlease
    have hleft := (hrunner s₂ lease hid).trans ((hother other hne).trans hbefore)
    dsimp only
    cases (around.runner s₂ lease).failure with
    | none => exact hleft
    | some failure =>
      dsimp only
      unfold report
      cases hretry : (final EventStore.lifecycleStep s₂ (around.runner s₂ lease).calls).scheduleRetry
          record.eventId (failureReason failure) none 5 3 lease.leaseOwner (some lease.leaseEpoch)
          (if fixedClock then current else (around.runner s₂ lease).ended) with
      | error e => exact hleft
      | ok result =>
        obtain ⟨retry, s'⟩ := result
        obtain ⟨-, -, -, -, -, -, -, -, -, -, -, rfl⟩ := EventStore.scheduleRetry_cases hretry
        exact (EventStore.view_writeEvent_of_ne hne).trans hleft

lemma claimed_runRecord :
    (worker.runRecord around current fixedClock s record).claimed = [] ∨
      (worker.runRecord around current fixedClock s record).claimed = [record.eventId] := by
  unfold runRecord
  dsimp only
  split
  · exact .inl rfl
  · split <;> exact .inr rfl

end EventWorker

/-- The store after sweeps, and the claims of all of them in order. -/
structure RecoveryWorld where
  store : EventStore
  claims : List String

def RecoveryWorld.step (w : RecoveryWorld) (sweep : Sweep) : RecoveryWorld :=
  ⟨(sweep.sweepOnce w.store).2, w.claims ++ (sweep.eligible w.store).claimed⟩

/-- Every run of the event fails while its lease is live, and leaves the event as it was leased but
for renewals. Nothing else touches the event. -/
structure Sweep.Poisons (sweep : Sweep) (eventId : String) : Prop where
  before : ∀ s record, (final EventStore.lifecycleStep s (sweep.around.before s record)).view
    eventId = s.view eventId
  others : ∀ s lease, lease.eventId ≠ eventId →
    (final EventStore.lifecycleStep s (sweep.around.runner s lease).calls).view eventId =
      s.view eventId
  fails : ∀ s lease, lease.eventId = eventId → ∃ failure,
    (sweep.around.runner s lease).failure = some failure
  keeps : ∀ (s₀ s : EventStore) lease, s₀.acquireLease eventId sweep.worker.owner sweep.worker.leaseSeconds
      (sweep.now.getD sweep.clock) = .ok (lease, s) →
    EventWorker.LeaseKept s
      (final EventStore.lifecycleStep s (sweep.around.runner s lease).calls) lease
      (sweep.reported (sweep.around.runner s lease))

def EventView.claimLimit (v : EventView) : Nat := max 1 (3 - v.failures)

/-- What the store holds about an event that has failed a number of times since `base`. -/
structure EventView.Failed (base : EventView) (claims : Nat) (v : EventView) : Prop where
  bounded : claims ≤ base.claimLimit
  untouched : claims = 0 → v = base
  waiting : 0 < claims → claims < base.claimLimit → v.failures = base.failures + claims ∧
    ∃ row failure, v.row = some row ∧ row.state = .retryableFailed ∧ row.leaseOwner = none ∧
      v.attempts.getLast? =
        some ⟨.retryableFailed, row.updatedAt, some (EventWorker.failureReason failure)⟩ ∧
      row.retryAt = some (row.updatedAt.addSeconds (5 * 2 ^ (base.failures + claims - 1)))
  dead : claims = base.claimLimit → ∃ row, v.row = some row ∧ row.state = .deadLetter ∧
    row.leaseOwner = none

namespace EventView

lemma failures_afterFailure (v : EventView) (lease : EventRecord) (owner failure : String)
    (current now : Datetime) : (v.afterFailure lease owner failure current now).failures =
      v.failures + if (3 : Int) ≤ (v.failures + 1 : Nat) then 0 else 1 := by
  have hrunning : ([⟨.running, current, some s!"lease acquired by {owner}"⟩] :
      List EventAttempt).filter (fun a => a.state = .retryableFailed) = [] := rfl
  have htarget : (([⟨retryTarget v.failures, now, some (EventWorker.failureReason failure)⟩] :
      List EventAttempt).filter (fun a => a.state = .retryableFailed)).length =
        if (3 : Int) ≤ (v.failures + 1 : Nat) then 0 else 1 := by
    unfold retryTarget
    split <;> rfl
  rw [← htarget, afterFailure, failures, List.filter_append, List.filter_append, hrunning,
    List.append_nil, List.length_append]
  rfl

lemma Failed.next {base v : EventView} {claims : Nat} (h : Failed base claims v)
    {row : EventRecord} (hrow : v.row = some row) (hworkable : row.state.workable = true)
    (lease : EventRecord) (owner failure : String) (current now : Datetime) :
    Failed base (claims + 1) (v.afterFailure lease owner failure current now) := by
  have halive : claims ≠ base.claimLimit := by
    intro hlimit
    obtain ⟨old, hold, hdead, -⟩ := h.dead hlimit
    obtain rfl := Option.some.inj (hrow.symm.trans hold)
    rw [hdead] at hworkable
    cases hworkable
  have hcount : v.failures = base.failures + claims := by
    rcases Nat.eq_zero_or_pos claims with rfl | hpos
    · rw [h.untouched rfl]
      rfl
    · exact (h.waiting hpos (lt_of_le_of_ne h.bounded halive)).1
  have hbound := h.bounded
  have hlimit : claims + 1 = base.claimLimit ↔ (3 : Int) ≤ (v.failures + 1 : Nat) := by
    unfold claimLimit at *
    omega
  refine ⟨by omega, ?_, ?_, ?_⟩
  · intro hzero
    cases hzero
  · intro _ hlt
    have hmore : ¬(3 : Int) ≤ (v.failures + 1 : Nat) := fun hlast => by
      have := hlimit.mpr hlast
      omega
    refine ⟨?_, _, failure, rfl, ?_, rfl, ?_, ?_⟩
    · rw [failures_afterFailure, if_neg hmore, hcount]
      rfl
    · exact if_neg hmore
    · rw [afterFailure, List.getLast?_append, List.getLast?_singleton, Option.some_or,
        show retryTarget v.failures = .retryableFailed from if_neg hmore]
      rfl
    · rw [← Nat.add_assoc, Nat.add_sub_cancel, ← hcount]
      exact if_neg hmore
  · intro hlast
    exact ⟨_, rfl, if_pos (hlimit.mp hlast), rfl⟩

end EventView

namespace Sweep

variable {sweep : Sweep} {eventId : String} {base : EventView} {claims : Nat} {s : EventStore}

lemma runRecord_failed (h : sweep.Poisons eventId) (record : EventRecord)
    (hbase : base.Failed claims (s.view eventId)) :
    base.Failed (claims + ((sweep.worker.runRecord sweep.around (sweep.now.getD sweep.clock)
        sweep.now.isSome s record).claimed.count eventId))
      ((sweep.worker.runRecord sweep.around (sweep.now.getD sweep.clock) sweep.now.isSome s
        record).store.view eventId) := by
  by_cases hid : record.eventId = eventId
  · subst hid
    have hbefore := h.before s record
    cases hlease : (final EventStore.lifecycleStep s (sweep.around.before s record)).acquireLease
        record.eventId sweep.worker.owner sweep.worker.leaseSeconds
        (sweep.now.getD sweep.clock) with
    | error e =>
      unfold EventWorker.runRecord
      dsimp only
      rw [hlease]
      dsimp only
      rw [List.count_nil, Nat.add_zero, hbefore]
      exact hbase
    | ok result =>
      obtain ⟨lease, s₂⟩ := result
      obtain ⟨row, hrow, hworkable, -, -⟩ := EventStore.acquireLease_cases hlease
      obtain ⟨hleased, -⟩ := EventWorker.leased_view hlease
      obtain ⟨failure, hfailure⟩ := h.fails s₂ lease hleased
      obtain ⟨-, hclaimed, hview, -⟩ := EventWorker.runRecord_of_failed rfl hlease hfailure rfl
        (h.keeps _ _ _ hlease)
      rw [hclaimed, hview, hbefore, List.count_singleton_self]
      rw [← EventStore.view_row, hbefore] at hrow
      exact hbase.next hrow hworkable lease _ _ _ _
  · have hview := @EventWorker.runRecord_view_of_ne sweep.worker sweep.around
      (sweep.now.getD sweep.clock) sweep.now.isSome s record eventId (Ne.symm hid)
      (h.before s record) (fun s₂ lease hlease => h.others s₂ lease (hlease ▸ hid))
    have hcount : (sweep.worker.runRecord sweep.around (sweep.now.getD sweep.clock)
        sweep.now.isSome s record).claimed.count eventId = 0 := by
      rw [List.count_eq_zero]
      rcases @EventWorker.claimed_runRecord sweep.worker sweep.around
        (sweep.now.getD sweep.clock) sweep.now.isSome s record with hnone | hone
      · rw [hnone]
        exact List.not_mem_nil
      · rw [hone, List.mem_singleton]
        exact Ne.symm hid
    rw [hview, hcount]
    exact hbase

lemma runRecords_failed (h : sweep.Poisons eventId) (records : List EventRecord)
    (hbase : base.Failed claims (s.view eventId)) :
    base.Failed (claims + ((sweep.worker.runRecords sweep.around (sweep.now.getD sweep.clock)
        sweep.now.isSome s records).claimed.count eventId))
      ((sweep.worker.runRecords sweep.around (sweep.now.getD sweep.clock) sweep.now.isSome s
        records).store.view eventId) := by
  induction records generalizing s claims with
  | nil => exact hbase
  | cons record records ih =>
    have hfirst := runRecord_failed h record hbase
    rw [EventWorker.runRecords]
    dsimp only
    split
    · exact hfirst
    · dsimp only
      rw [List.count_append, ← Nat.add_assoc]
      exact ih hfirst

lemma step_failed (h : sweep.Poisons eventId) {w : RecoveryWorld}
    (hbase : base.Failed (w.claims.count eventId) (w.store.view eventId)) :
    base.Failed ((w.step sweep).claims.count eventId) ((w.step sweep).store.view eventId) := by
  have hswept := runRecords_failed h
    (w.store.recoverableEvents (sweep.now.getD sweep.clock)) hbase
  have hsame := EventStore.sideRun_sameEvents (sweep.eligible w.store).store
    (sweep.drain (sweep.eligible w.store).store).1
  have hview : (w.step sweep).store.view eventId = (sweep.eligible w.store).store.view eventId := by
    unfold RecoveryWorld.step sweepOnce
    dsimp only
    rw [EventStore.view, EventStore.view, hsame.get, EventStore.eventAttempts,
      EventStore.eventAttempts, hsame.2]
  rw [hview]
  unfold RecoveryWorld.step
  dsimp only
  rw [List.count_append]
  exact hswept

end Sweep

/-- An event whose runs all fail is claimed until its third failure and is a dead letter from then
on, however many sweeps of whatever workers follow. Until then it waits for a deadline that
doubles. -/
theorem poisoned_event_dies (eventId : String) (s : EventStore) (sweeps : List Sweep)
    (h : ∀ sweep ∈ sweeps, sweep.Poisons eventId) :
    (s.view eventId).Failed
      ((final RecoveryWorld.step ⟨s, []⟩ sweeps).claims.count eventId)
      ((final RecoveryWorld.step ⟨s, []⟩ sweeps).store.view eventId) := by
  have hrun : ∀ w : RecoveryWorld,
      (s.view eventId).Failed (w.claims.count eventId) (w.store.view eventId) →
      (s.view eventId).Failed ((final RecoveryWorld.step w sweeps).claims.count eventId)
        ((final RecoveryWorld.step w sweeps).store.view eventId) := by
    induction sweeps with
    | nil => exact fun w hw => hw
    | cons sweep sweeps ih =>
      intro w hw
      exact ih (fun other hother => h other (List.mem_cons_of_mem _ hother)) _
        (Sweep.step_failed (h sweep List.mem_cons_self) hw)
  apply hrun
  refine ⟨Nat.zero_le _, fun _ => rfl, fun hpos => absurd hpos (lt_irrefl 0), ?_⟩
  intro hlimit
  have hpos : 0 < (s.view eventId).claimLimit := lt_of_lt_of_le Nat.zero_lt_one (le_max_left _ _)
  rw [← hlimit] at hpos
  exact absurd hpos (lt_irrefl 0)

/-- No call but those of the sweep, and every runner fails before the lease it works under would
run out. -/
structure Sweep.AllFail (sweep : Sweep) : Prop where
  before : ∀ s record, sweep.around.before s record = []
  calls : ∀ s lease, (sweep.around.runner s lease).calls = []
  fails : ∀ s lease, ∃ failure, (sweep.around.runner s lease).failure = some failure
  later : ∀ s lease, (sweep.now.getD sweep.clock).micros ≤
    (sweep.reported (sweep.around.runner s lease)).micros
  inTime : ∀ s lease, (sweep.reported (sweep.around.runner s lease)).micros <
    ((sweep.now.getD sweep.clock).addSeconds sweep.service.leaseSeconds).micros
  zone : ∀ s lease, (sweep.reported (sweep.around.runner s lease)).offset =
    (sweep.now.getD sweep.clock).offset

lemma Datetime.lt_addSeconds (t : Datetime) {seconds : ℚ} (h : 1 ≤ seconds) :
    t.micros < (t.addSeconds seconds).micros := by
  have hscaled : ((1000000 : Int) : ℚ) ≤ seconds * 1000000 := by
    push_cast
    linarith
  have hrounded := roundHalfEven_mono hscaled
  rw [roundHalfEven_intCast] at hrounded
  unfold Datetime.addSeconds timedelta
  dsimp only
  omega

lemma not_recoverable_retried {row : EventRecord} {failures : Nat} {reason : String}
    {current now : Datetime} (hlater : current.micros ≤ now.micros)
    (hzone : now.offset = current.offset) :
    EventStore.recoverable current (row.retried (retryTarget failures)
      (retryDeadline failures now) reason none now) = false := by
  by_cases hlast : (3 : Int) ≤ (failures + 1 : Nat)
  · unfold retryTarget
    rw [if_pos hlast]
    rfl
  · have hpower : (1 : ℚ) ≤ 5 * 2 ^ failures := by
      have h : (1 : ℚ) ≤ 2 ^ failures := one_le_pow₀ (by norm_num)
      linarith
    have hwait := now.lt_addSeconds hpower
    have hnot : (now.addSeconds (5 * 2 ^ failures)).isoLe current = false := by
      rw [Bool.eq_false_iff, ne_eq, Datetime.isoLe_iff_of_offset_eq
        (show (now.addSeconds (5 * 2 ^ failures)).offset = current.offset from hzone)]
      omega
    unfold retryTarget retryDeadline
    rw [if_neg hlast, if_neg hlast]
    simp [EventStore.recoverable, EventRecord.retried, hnot]

namespace Sweep

variable {sweep : Sweep} {s : EventStore}

lemma AllFail.poisons (h : sweep.AllFail) (eventId : String) : sweep.Poisons eventId where
  before := by
    intro s record
    rw [h.before]
    rfl
  others := by
    intro s lease _
    rw [h.calls]
    rfl
  fails := fun s lease _ => h.fails s lease
  keeps := by
    intro s₀ s lease hlease
    obtain ⟨rfl, -, -, hview, -⟩ := EventWorker.leased_view hlease
    obtain ⟨old, -, -, hleased, -⟩ := EventStore.acquireLease_cases hlease
    have hlog := congrArg EventView.attempts hview
    rw [EventStore.view_attempts] at hlog
    rw [h.calls]
    refine ⟨_, lease.updatedAt, ?_, h.inTime s lease⟩
    rw [final_nil, hview, hlog, hleased]
    rfl

lemma runRecord_allFail (h : sweep.AllFail) (howner : isBlank sweep.service.owner = false)
    {record : EventRecord} (hrow : s.get record.eventId = some record)
    (hdue : EventStore.recoverable (sweep.now.getD sweep.clock) record = true)
    (hskew : ∀ d, record.deadline = some d → ¬d.Skewed (sweep.now.getD sweep.clock)) :
    let first := sweep.worker.runRecord sweep.around (sweep.now.getD sweep.clock) sweep.now.isSome s
      record
    first.raised = none ∧ first.claimed = [record.eventId] ∧
      (∃ failure now, (sweep.now.getD sweep.clock).micros ≤ now.micros ∧
        now.offset = (sweep.now.getD sweep.clock).offset ∧
        first.store.view record.eventId = (s.view record.eventId).afterFailure
          (record.leased sweep.service.owner sweep.service.leaseSeconds
            (sweep.now.getD sweep.clock)) sweep.service.owner failure
          (sweep.now.getD sweep.clock) now) ∧
      ∀ other, other ≠ record.eventId → first.store.view other = s.view other := by
  have hspare : (150 : ℚ) ≤ sweep.service.leaseSeconds := by
    have hfield := sweep.service.spare
    have hbudget : ({} : AgentBounds).timeBudget + 60 = (150 : ℚ) := by
      change (90 : ℚ) + 60 = 150
      norm_num
    rwa [hbudget] at hfield
  have hseconds : 0 < sweep.service.leaseSeconds := by linarith
  have hwaiting : record.state = .retryableFailed ∨
      record.state = .running ∧ record.leaseExpiresAt.isSome = true := by
    rcases (Bool.or_eq_true _ _).mp hdue with hleft | hright
    · exact .inl (of_decide_eq_true ((Bool.and_eq_true _ _).mp hleft).1)
    · obtain ⟨hstate, hexpired⟩ := (Bool.and_eq_true _ _).mp hright
      exact .inr ⟨of_decide_eq_true hstate, Option.isSome_of_any hexpired⟩
  obtain ⟨d, hd, htext⟩ := (EventStore.recoverable_iff hwaiting).mp hdue
  have hpast : d.micros ≤ (sweep.now.getD sweep.clock).micros :=
    ((d.isoLe_iff_le_iff_not_skewed _).mpr (hskew d hd)).mp htext
  obtain ⟨⟨lease, s₂⟩, hlease⟩ := (EventStore.acquireLease_ok_iff hrow howner hseconds hwaiting).mpr
    ⟨d, hd, hpast⟩
  obtain ⟨-, -, -, -, hothers⟩ := EventWorker.leased_view hlease
  obtain ⟨old, hold, -, hleased, -⟩ := EventStore.acquireLease_cases hlease
  obtain rfl := Option.some.inj (hrow.symm.trans hold)
  have hnone : final EventStore.lifecycleStep s (sweep.around.before s record) = s := by
    rw [h.before]
    rfl
  have hquiet : final EventStore.lifecycleStep s₂ (sweep.around.runner s₂ lease).calls = s₂ := by
    rw [h.calls]
    rfl
  obtain ⟨failure, hfailure⟩ := h.fails s₂ lease
  have hkept := (h.poisons record.eventId).keeps s s₂ lease hlease
  obtain ⟨hraised, hclaimed, hview, hother⟩ :=
    @EventWorker.runRecord_of_failed sweep.worker sweep.around (sweep.now.getD sweep.clock)
      sweep.now.isSome s record s s₂ lease failure hnone hlease hfailure _ rfl hkept
  refine ⟨hraised, hclaimed, ⟨failure, _, h.later s₂ lease, h.zone s₂ lease, ?_⟩, ?_⟩
  · rw [hview, hleased]
    rfl
  · intro other hne
    rw [hother other hne, hquiet, hothers other hne]

lemma runRecords_allFail (h : sweep.AllFail) (howner : isBlank sweep.service.owner = false)
    {records : List EventRecord} (hnodup : (records.map EventRecord.eventId).Nodup)
    (hrows : ∀ record ∈ records, s.get record.eventId = some record ∧
      EventStore.recoverable (sweep.now.getD sweep.clock) record = true ∧
        ∀ d, record.deadline = some d → ¬d.Skewed (sweep.now.getD sweep.clock)) :
    let run := sweep.worker.runRecords sweep.around (sweep.now.getD sweep.clock) sweep.now.isSome s
      records
    run.raised = none ∧ run.claimed = records.map EventRecord.eventId ∧
      (∀ record ∈ records, ∃ failure now, (sweep.now.getD sweep.clock).micros ≤ now.micros ∧
        now.offset = (sweep.now.getD sweep.clock).offset ∧
        run.store.view record.eventId = (s.view record.eventId).afterFailure
          (record.leased sweep.service.owner sweep.service.leaseSeconds
            (sweep.now.getD sweep.clock)) sweep.service.owner failure
          (sweep.now.getD sweep.clock) now) ∧
      ∀ other, other ∉ records.map EventRecord.eventId → run.store.view other = s.view other := by
  induction records generalizing s with
  | nil => exact ⟨rfl, rfl, fun record hrecord => absurd hrecord List.not_mem_nil, fun _ _ => rfl⟩
  | cons record records ih =>
    obtain ⟨hnew, hnodup⟩ := List.nodup_cons.mp hnodup
    obtain ⟨hrow, hdue, hskew⟩ := hrows record List.mem_cons_self
    obtain ⟨hraised, hclaimed, hview, hother⟩ := runRecord_allFail h howner hrow hdue hskew
    have hapart : ∀ other ∈ records, other.eventId ≠ record.eventId := by
      intro other hmem hid
      exact hnew (hid ▸ List.mem_map_of_mem hmem)
    obtain ⟨hrest, hids, hviews, hothers⟩ := ih hnodup (fun other hmem => by
      obtain ⟨hget, hrest⟩ := hrows other (List.mem_cons_of_mem _ hmem)
      refine ⟨?_, hrest⟩
      rw [← EventStore.view_row, hother _ (hapart other hmem)]
      exact hget)
    dsimp only
    rw [EventWorker.runRecords]
    dsimp only
    rw [hraised, Option.isSome_none, if_neg Bool.false_ne_true]
    dsimp only
    refine ⟨hrest, by rw [hclaimed, hids]; rfl, ?_, ?_⟩
    · intro other hmem
      rcases List.mem_cons.mp hmem with rfl | hlater
      · rw [hothers _ hnew]
        exact hview
      · rw [← hother _ (hapart other hlater)]
        exact hviews other hlater
    · intro other hmem
      rw [List.map_cons, List.mem_cons, not_or] at hmem
      rw [hothers other hmem.2, hother other hmem.1]

end Sweep

/-- A sweep in which every runner fails claims all that is due, in order, moves each event on to its
next retry or to the dead letters, leaves the other events alone, and leaves nothing due. -/
theorem failing_sweep_leaves_nothing_due (sweep : Sweep) (s : EventStore) (h : sweep.AllFail)
    (howner : isBlank sweep.service.owner = false)
    (hskew : ∀ row ∈ s.recoverableEvents (sweep.now.getD sweep.clock), ∀ d, row.deadline = some d →
      ¬d.Skewed (sweep.now.getD sweep.clock)) :
    let listed := s.recoverableEvents (sweep.now.getD sweep.clock)
    let run := sweep.eligible s
    run.raised = none ∧ run.claimed = listed.map EventRecord.eventId ∧
      (∀ row ∈ listed, ∃ failure now, run.store.view row.eventId =
        (s.view row.eventId).afterFailure
          (row.leased sweep.service.owner sweep.service.leaseSeconds (sweep.now.getD sweep.clock))
          sweep.service.owner failure (sweep.now.getD sweep.clock) now) ∧
      (∀ other, other ∉ run.claimed → run.store.view other = s.view other) ∧
      run.store.recoverableEvents (sweep.now.getD sweep.clock) = [] := by
  intro listed run
  have hperm : listed.Perm (s.events.rows.filter
      (EventStore.recoverable (sweep.now.getD sweep.clock))) := List.perm_insertionSort _ _
  have hmem : ∀ row, row ∈ listed ↔ row ∈ s.events.rows ∧
      EventStore.recoverable (sweep.now.getD sweep.clock) row = true := by
    intro row
    rw [hperm.mem_iff, List.mem_filter]
  have hnodup : (listed.map EventRecord.eventId).Nodup :=
    (hperm.map _).nodup_iff.mpr (s.events.nodup.sublist (List.filter_sublist.map _))
  obtain ⟨hraised, hclaimed, hviews, hothers⟩ := Sweep.runRecords_allFail h howner hnodup
    (fun record hrecord => ⟨KeyedTable.get?_of_mem ((hmem record).mp hrecord).1,
      ((hmem record).mp hrecord).2, hskew record hrecord⟩)
  refine ⟨hraised, hclaimed, ?_, ?_, ?_⟩
  · intro row hrow
    obtain ⟨failure, now, -, -, hview⟩ := hviews row hrow
    exact ⟨failure, now, hview⟩
  · intro other hother
    exact hothers other (fun hin => hother (hclaimed ▸ hin))
  · rw [← List.length_eq_zero_iff, EventStore.recoverableEvents, List.length_insertionSort,
      List.length_eq_zero_iff, List.filter_eq_nil_iff]
    intro row' hrow' hdue
    have hget : run.store.get row'.eventId = some row' := KeyedTable.get?_of_mem hrow'
    by_cases hlisted : row'.eventId ∈ listed.map EventRecord.eventId
    · obtain ⟨row, hrow, hid⟩ := List.mem_map.mp hlisted
      obtain ⟨failure, now, hlater, hzone, hview⟩ := hviews row hrow
      rw [← hid] at hget
      have hafter := Option.some.inj (hget.symm.trans (congrArg EventView.row hview))
      rw [hafter, not_recoverable_retried hlater hzone] at hdue
      cases hdue
    · have hsame : s.get row'.eventId = some row' := by
        rw [← EventStore.view_row, ← hothers _ hlisted]
        exact hget
      exact hlisted (List.mem_map_of_mem ((hmem row').mpr ⟨KeyedTable.mem_of_get? hsame, hdue⟩))

def timeoutSweep : Sweep where
  service := ⟨"A", 180, by change (90 : ℚ) + 60 ≤ 180; norm_num⟩
  around := ⟨fun _ _ => [], fun _ _ => ⟨[], some "TimeoutError", utcSeconds 5⟩⟩
  drain := fun _ => ([], some 0)
  now := some (utcSeconds 5)
  clock := utcSeconds 5

lemma timeoutSweep_allFail : timeoutSweep.AllFail where
  before := fun _ _ => rfl
  calls := fun _ _ => rfl
  fails := fun _ _ => ⟨"TimeoutError", rfl⟩
  later := fun _ _ => le_rfl
  inTime := fun _ _ => (utcSeconds 5).lt_addSeconds (by change (1 : ℚ) ≤ 180; norm_num)
  zone := fun _ _ => rfl

theorem failing_sweep_dueStore :
    let run := timeoutSweep.eligible dueStore
    run.raised = none ∧ run.claimed = ["e"] ∧
      (∃ failure now, run.store.view "e" = (dueStore.view "e").afterFailure
        (dueEvent.leased "A" 180 (utcSeconds 5)) "A" failure (utcSeconds 5) now) ∧
      (∀ other, other ≠ "e" → run.store.view other = dueStore.view other) ∧
      run.store.recoverableEvents (utcSeconds 5) = [] := by
  have hlisted : dueStore.recoverableEvents (utcSeconds 5) = [dueEvent] := rfl
  have hzone : ∀ row ∈ dueStore.recoverableEvents (utcSeconds 5), ∀ d, row.deadline = some d →
      ¬d.Skewed (utcSeconds 5) := by
    intro row hrow d hd
    rw [hlisted] at hrow
    rw [List.mem_singleton.mp hrow] at hd
    obtain rfl := Option.some.inj hd
    exact Datetime.not_skewed_of_offset_eq rfl
  obtain ⟨hraised, hclaimed, hviews, hothers, hnone⟩ := failing_sweep_leaves_nothing_due
    timeoutSweep dueStore timeoutSweep_allFail (by decide) hzone
  have hnames : (timeoutSweep.eligible dueStore).claimed = ["e"] := by
    rw [hclaimed]
    exact congrArg (List.map EventRecord.eventId) hlisted
  refine ⟨hraised, hnames, ?_, ?_, hnone⟩
  · exact hviews dueEvent (List.mem_singleton_self dueEvent)
  · intro other hother
    exact hothers other (by rw [hnames, List.mem_singleton]; exact hother)

theorem poisoned_event_dies_dueStore : (dueStore.view "e").Failed
    ((final RecoveryWorld.step ⟨dueStore, []⟩ [timeoutSweep]).claims.count "e")
    ((final RecoveryWorld.step ⟨dueStore, []⟩ [timeoutSweep]).store.view "e") :=
  poisoned_event_dies "e" dueStore [timeoutSweep]
    (List.forall_mem_singleton.mpr (timeoutSweep_allFail.poisons "e"))

end NetTools
