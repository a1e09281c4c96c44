import NetTools.EventStore.Compaction
import NetTools.EventStore.LeaseRuns

/-!
# Lifecycle invariant

Every operation acts on what the store holds about one event by one of a few steps, and
compaction may drop a finished event. What the row of an event says about its attempt log
and its leases is an invariant of these steps.
-/

namespace NetTools

open Runs

inductive LifecycleCall where
  | event (call : StoreCall)
  | createOrUpdate (eventId device : String) (payload : Dict) (now : Datetime)
  | compact (now : Datetime) (completedDays auditDays : Int)
  | side (call : SideCall)

namespace EventStore

def eventStep (s : EventStore) : StoreCall → EventStore
  | .createOrGet eventId device payload strict now =>
    s.after (s.createOrGet eventId device payload strict now)
  | .transition eventId state reason ticketId leaseOwner leaseEpoch now =>
    s.after (s.transition eventId state reason ticketId leaseOwner leaseEpoch now)
  | .scheduleRetry eventId reason ticketId baseSeconds maxAttempts leaseOwner leaseEpoch now =>
    s.after (s.scheduleRetry eventId reason ticketId baseSeconds maxAttempts leaseOwner leaseEpoch
      now)
  | .acquireLease eventId owner leaseSeconds now =>
    s.after (s.acquireLease eventId owner leaseSeconds now)
  | .renewLease eventId owner leaseEpoch leaseSeconds now =>
    s.after (s.renewLease eventId owner leaseEpoch leaseSeconds now)

lemma eventStep_eq (s : EventStore) (call : StoreCall) :
    s.eventStep call = { s with
      events := (s.eventStep call).events
      attempts := (s.eventStep call).attempts } := by
  cases call with
  | createOrGet eventId device payload strict now =>
    simp only [eventStep]
    cases h : s.createOrGet eventId device payload strict now with
    | error e => rfl
    | ok result =>
      obtain ⟨record, s'⟩ := result
      rcases createOrGet_cases h with ⟨-, -, -, -, rfl⟩ | ⟨-, -, rfl⟩ <;> rfl
  | transition eventId state reason ticketId leaseOwner leaseEpoch now =>
    simp only [eventStep]
    cases h : s.transition eventId state reason ticketId leaseOwner leaseEpoch now with
    | error e => rfl
    | ok result =>
      obtain ⟨record, s'⟩ := result
      obtain ⟨-, -, -, -, -, rfl⟩ := transition_cases h
      rfl
  | scheduleRetry eventId reason ticketId baseSeconds maxAttempts leaseOwner leaseEpoch now =>
    simp only [eventStep]
    cases h : s.scheduleRetry eventId reason ticketId baseSeconds maxAttempts leaseOwner
        leaseEpoch now with
    | error e => rfl
    | ok result =>
      obtain ⟨record, s'⟩ := result
      obtain ⟨-, -, -, -, -, -, -, -, -, -, -, rfl⟩ := scheduleRetry_cases h
      rfl
  | acquireLease eventId owner leaseSeconds now =>
    simp only [eventStep]
    cases h : s.acquireLease eventId owner leaseSeconds now with
    | error e => rfl
    | ok result =>
      obtain ⟨record, s'⟩ := result
      obtain ⟨-, -, -, -, rfl⟩ := acquireLease_cases h
      rfl
  | renewLease eventId owner leaseEpoch leaseSeconds now =>
    simp only [eventStep]
    cases h : s.renewLease eventId owner leaseEpoch leaseSeconds now with
    | error e => rfl
    | ok result =>
      obtain ⟨record, s'⟩ := result
      obtain ⟨-, -, -, -, -, -, -, rfl⟩ := renewLease_cases h
      rfl

def lifecycleStep (s : EventStore) : LifecycleCall → EventStore
  | .event call => s.eventStep call
  | .createOrUpdate eventId device payload now =>
    s.after (s.createOrUpdate eventId device payload now)
  | .compact now completedDays auditDays => s.after (s.compact now completedDays auditDays)
  | .side call => s.sideStep call

/-- The call is an `acquire_lease` of the event that succeeds. -/
def leases (s : EventStore) (eventId : String) : LifecycleCall → Bool
  | .event (.acquireLease leased owner leaseSeconds now) =>
    leased = eventId && (s.acquireLease leased owner leaseSeconds now).isOk
  | _ => false

end EventStore

def EventView.failures (v : EventView) : Nat :=
  (v.attempts.filter (fun a => a.state = .retryableFailed)).length

/-- What one call can do to an event. The flag says whether the call leased the event. -/
inductive EventView.Step (call : LifecycleCall) (v : EventView) : Bool → EventView → Prop where
  | same : Step call v false v
  | created (eventId device : String) (payload : Dict) (now : Datetime) (hnew : v.row = none) :
      Step call v false ⟨some (EventStore.newEvent eventId device payload now),
        v.attempts ++ [{ state := .received, recordedAt := now }]⟩
  | updated (row : EventRecord) (payload : Dict) (now : Datetime) (hrow : v.row = some row)
      (hreceived : row.state = .received) :
      Step call v false ⟨some { row with payload, updatedAt := now }, v.attempts ++ []⟩
  | transitioned (row : EventRecord) (state : EventState) (reason ticketId : Option String)
      (now : Datetime) (hrow : v.row = some row) (hallowed : state ∈ row.state.allowedTransitions)
      (hcall : ∃ owner epoch,
        call = .event (.transition row.eventId state reason ticketId owner epoch now)) :
      Step call v false ⟨some (row.transitioned state reason ticketId now),
        v.attempts ++ [⟨state, now, reason⟩]⟩
  | retried (row : EventRecord) (target : EventState) (retryAt : Option Datetime) (reason : String)
      (ticketId : Option String) (baseSeconds : ℚ) (maxAttempts : Int) (now : Datetime)
      (hrow : v.row = some row) (hworkable : row.state.workable = true)
      (hcall : ∃ owner epoch, call = .event
        (.scheduleRetry row.eventId reason ticketId baseSeconds maxAttempts owner epoch now))
      (htarget : target = .deadLetter ∧ retryAt = none ∨
        target = .retryableFailed ∧ (v.failures : Int) + 1 < maxAttempts) :
      Step call v false ⟨some (row.retried target retryAt reason ticketId now),
        v.attempts ++ [⟨target, now, some reason⟩]⟩
  | leased (row : EventRecord) (owner : String) (leaseSeconds : ℚ) (now : Datetime)
      (hrow : v.row = some row) (hworkable : row.state.workable = true) :
      Step call v true ⟨some (row.leased owner leaseSeconds now),
        v.attempts ++ [⟨.running, now, some s!"lease acquired by {owner}"⟩]⟩
  | renewed (row : EventRecord) (leaseSeconds : ℚ) (now : Datetime) (hrow : v.row = some row)
      (hrunning : row.state = .running)
      (hcall : ∃ owner epoch, call = .event (.renewLease row.eventId owner epoch leaseSeconds now) ∧
        isBlank owner = false ∧ 0 < leaseSeconds) :
      Step call v false ⟨some (row.renewed leaseSeconds now), v.attempts ++ []⟩
  | dropped (row : EventRecord) (hrow : v.row = some row)
      (hfinished : row.state = .completed ∨ row.state = .terminalFailed)
      (hcall : ∃ now completedDays auditDays, call = .compact now completedDays auditDays) :
      Step call v false ⟨none, []⟩

namespace EventStore

variable {s s' : EventStore} {call : LifecycleCall} {eventId : String}

lemma view_insertReceived_self {device : String} {payload : Dict} {now : Datetime}
    (hnew : s.get eventId = none) :
    (s.insertReceived eventId device payload now).view eventId =
      ⟨some (newEvent eventId device payload now),
        (s.view eventId).attempts ++ [{ state := .received, recordedAt := now }]⟩ := by
  rw [view, get_insertReceived_self hnew, view_attempts]
  simp [eventAttempts, insertReceived, List.filter_append]

lemma step_writeEvent (leased : Bool) {target : String} {f : EventRecord → EventRecord}
    {hf : ∀ r, (f r).eventId = r.eventId} {logged : List EventAttempt} {row : EventRecord}
    (hrow : s.get target = some row)
    (hstep : (s.view target).Step call leased
      ⟨some (f row), (s.view target).attempts ++ logged⟩) :
    (s.view eventId).Step call (leased && target = eventId)
      ((s.writeEvent target f hf logged).view eventId) := by
  by_cases hsame : eventId = target
  · subst hsame
    rw [view_writeEvent_self hrow]
    simpa using hstep
  · have hne : decide (target = eventId) = false := decide_eq_false (fun h => hsame h.symm)
    rw [view_writeEvent_of_ne hsame, hne, Bool.and_false]
    exact .same

lemma step_insertReceived {target device : String} {payload : Dict} {now : Datetime}
    (hnew : s.get target = none) :
    (s.view eventId).Step call false
      ((s.insertReceived target device payload now).view eventId) := by
  by_cases hsame : eventId = target
  · subst hsame
    rw [view_insertReceived_self hnew]
    exact .created eventId device payload now hnew
  · rw [view_insertReceived_of_ne hsame]
    exact .same

theorem lifecycleStep_step (s : EventStore) (call : LifecycleCall) (eventId : String) :
    (s.view eventId).Step call (s.leases eventId call) ((s.lifecycleStep call).view eventId) := by
  cases call with
  | side call =>
    have hsame := s.sideStep_sameEvents call
    have hview : (s.sideStep call).view eventId = s.view eventId := by
      rw [view, view, hsame.get, eventAttempts, eventAttempts, hsame.2]
    simp only [lifecycleStep, leases, hview]
    exact .same
  | compact now completedDays auditDays =>
    simp only [lifecycleStep, leases]
    cases hcompact : s.compact now completedDays auditDays with
    | error e => exact .same
    | ok result =>
      obtain ⟨report, s'⟩ := result
      rcases compact_view hcompact eventId with hview | ⟨row, hrow, hfinished, hview⟩
      · simp only [after, hview]
        exact .same
      · simp only [after, hview]
        exact .dropped row hrow hfinished ⟨now, completedDays, auditDays, rfl⟩
  | createOrUpdate target device payload now =>
    simp only [lifecycleStep, leases]
    cases hcall : s.createOrUpdate target device payload now with
    | error e => exact .same
    | ok result =>
      obtain ⟨record, s'⟩ := result
      rcases createOrUpdate_cases hcall with ⟨hnew, rfl⟩ | ⟨row, hrow, hreceived, rfl⟩
      · exact step_insertReceived hnew
      · exact step_writeEvent false hrow (.updated row payload now hrow hreceived)
  | event call =>
    cases call with
    | createOrGet target device payload strict now =>
      simp only [lifecycleStep, eventStep, leases]
      cases hcall : s.createOrGet target device payload strict now with
      | error e => exact .same
      | ok result =>
        obtain ⟨record, s'⟩ := result
        rcases createOrGet_cases hcall with ⟨-, -, -, -, rfl⟩ | ⟨hnew, -, rfl⟩
        · exact .same
        · exact step_insertReceived hnew
    | transition target state reason ticketId leaseOwner leaseEpoch now =>
      simp only [lifecycleStep, eventStep, leases]
      cases hcall : s.transition target state reason ticketId leaseOwner leaseEpoch now with
      | error e => exact .same
      | ok result =>
        obtain ⟨record, s'⟩ := result
        obtain ⟨row, hrow, hallowed, -, -, rfl⟩ := transition_cases hcall
        obtain rfl := key_of_get hrow
        exact step_writeEvent false hrow
          (.transitioned row state reason ticketId now hrow hallowed ⟨leaseOwner, leaseEpoch, rfl⟩)
    | scheduleRetry target reason ticketId baseSeconds maxAttempts leaseOwner leaseEpoch now =>
      simp only [lifecycleStep, eventStep, leases]
      cases hcall : s.scheduleRetry target reason ticketId baseSeconds maxAttempts leaseOwner
          leaseEpoch now with
      | error e => exact .same
      | ok result =>
        obtain ⟨record, s'⟩ := result
        obtain ⟨-, -, row, hrow, hworkable, -, state, retryAt, hstate, -, -, rfl⟩ :=
          scheduleRetry_cases hcall
        obtain rfl := key_of_get hrow
        refine step_writeEvent false hrow
          (.retried row state retryAt reason ticketId baseSeconds maxAttempts now hrow hworkable
            ⟨leaseOwner, leaseEpoch, rfl⟩ ?_)
        rcases hstate with hdead | ⟨hretry, -, hlt⟩
        · exact .inl hdead
        · exact .inr ⟨hretry, hlt⟩
    | acquireLease target owner leaseSeconds now =>
      simp only [lifecycleStep, eventStep, leases]
      cases hcall : s.acquireLease target owner leaseSeconds now with
      | error e => simpa [after, Except.isOk, Except.toBool] using EventView.Step.same
      | ok result =>
        obtain ⟨record, s'⟩ := result
        obtain ⟨row, hrow, hworkable, -, rfl⟩ := acquireLease_cases hcall
        have hsuccess : (decide (target = eventId) &&
            (Except.ok (record, s.writeEvent target (fun r => r.leased owner leaseSeconds now)
              (fun r => r.leased_eventId owner leaseSeconds now)
              [⟨.running, now, some s!"lease acquired by {owner}"⟩]) :
                Except StoreError (EventRecord × EventStore)).isOk) =
            (true && decide (target = eventId)) := by
          rw [Bool.true_and]
          exact Bool.and_true _
        rw [hsuccess]
        exact step_writeEvent true hrow (.leased row owner leaseSeconds now hrow hworkable)
    | renewLease target owner leaseEpoch leaseSeconds now =>
      simp only [lifecycleStep, eventStep, leases]
      cases hcall : s.renewLease target owner leaseEpoch leaseSeconds now with
      | error e => exact .same
      | ok result =>
        obtain ⟨record, s'⟩ := result
        obtain ⟨howner, hseconds, row, hrow, hrunning, -, -, rfl⟩ := renewLease_cases hcall
        obtain rfl := key_of_get hrow
        exact step_writeEvent false hrow
          (.renewed row leaseSeconds now hrow hrunning ⟨owner, leaseEpoch, rfl, howner, hseconds⟩)

end EventStore

/-- The row of an event agrees with its attempt log and with the number of its leases. -/
structure EventRecord.Sound (row : EventRecord) (attempts : List EventAttempt) (leases : Nat) :
    Prop where
  first : ∃ a, attempts.head? = some a ∧ a.state = .received
  last : ∃ a, attempts.getLast? = some a ∧ a.state = row.state
  paired : row.leaseOwner.isSome = row.leaseExpiresAt.isSome
  leased : row.leaseOwner.isSome = true → row.state = .running
  due : row.retryAt.isSome = true → row.state = .retryableFailed
  epoch : row.leaseEpoch = leases

structure EventView.Sound (v : EventView) (leases : Nat) : Prop where
  absent : v.row = none → v.attempts = []
  present : ∀ row, v.row = some row → row.Sound v.attempts leases

namespace EventView

variable {call : LifecycleCall} {v v' : EventView} {leased : Bool} {n : Nat}

lemma Sound.of_row {row : EventRecord} {attempts : List EventAttempt}
    (h : row.Sound attempts n) : Sound ⟨some row, attempts⟩ n := by
  constructor
  · intro hnone
    cases hnone
  · intro row' hrow'
    cases hrow'
    exact h

lemma first_append {attempts logged : List EventAttempt}
    (h : ∃ a, attempts.head? = some a ∧ a.state = .received) :
    ∃ a, (attempts ++ logged).head? = some a ∧ a.state = .received := by
  obtain ⟨a, ha, hstate⟩ := h
  exact ⟨a, by rw [List.head?_append, ha, Option.some_or], hstate⟩

lemma last_append {attempts : List EventAttempt} (a : EventAttempt) :
    ∃ b, (attempts ++ [a]).getLast? = some b ∧ b.state = a.state :=
  ⟨a, by rw [List.getLast?_append, List.getLast?_singleton, Option.some_or], rfl⟩

theorem Step.sound (h : Step call v leased v') (hsound : v.Sound n)
    (hrenew : ∀ row owner epoch leaseSeconds now, v.row = some row → row.state = .running →
      call = .event (.renewLease row.eventId owner epoch leaseSeconds now) →
      isBlank owner = false → 0 < leaseSeconds → row.leaseOwner ≠ none) :
    v'.Sound (if v.row = none then 0 else n + if leased then 1 else 0) := by
  cases h with
  | same =>
    by_cases hrow : v.row = none
    · rw [if_pos hrow]
      refine ⟨hsound.absent, ?_⟩
      intro row hsome
      rw [hrow] at hsome
      cases hsome
    · simpa [hrow] using hsound
  | created eventId device payload now hnew =>
    rw [if_pos hnew, hsound.absent hnew]
    exact .of_row
      { first := ⟨_, rfl, rfl⟩
        last := ⟨_, rfl, rfl⟩
        paired := rfl
        leased := fun hsome => by cases hsome
        due := fun hsome => by cases hsome
        epoch := rfl }
  | updated row payload now hrow hreceived =>
    have hold := hsound.present row hrow
    simp only [hrow, reduceCtorEq, if_false, List.append_nil, Bool.false_eq_true, add_zero]
    exact .of_row
      { first := hold.first
        last := hold.last
        paired := hold.paired
        leased := hold.leased
        due := hold.due
        epoch := hold.epoch }
  | transitioned row state reason ticketId now hrow =>
    have hold := hsound.present row hrow
    simp only [hrow, reduceCtorEq, if_false, Bool.false_eq_true, add_zero]
    exact .of_row
      { first := first_append hold.first
        last := last_append _
        paired := rfl
        leased := fun hsome => by cases hsome
        due := fun hsome => by cases hsome
        epoch := hold.epoch }
  | retried row target retryAt reason ticketId baseSeconds maxAttempts now hrow _ _ htarget =>
    have hold := hsound.present row hrow
    simp only [hrow, reduceCtorEq, if_false, Bool.false_eq_true, add_zero]
    refine .of_row
      { first := first_append hold.first
        last := last_append _
        paired := rfl
        leased := fun hsome => by cases hsome
        due := ?_
        epoch := hold.epoch }
    intro hsome
    rcases htarget with ⟨-, rfl⟩ | ⟨rfl, -⟩
    · cases hsome
    · rfl
  | leased row owner leaseSeconds now hrow =>
    have hold := hsound.present row hrow
    simp only [hrow, reduceCtorEq, if_false, if_true]
    refine .of_row
      { first := first_append hold.first
        last := last_append _
        paired := rfl
        leased := fun _ => rfl
        due := fun hsome => by cases hsome
        epoch := ?_ }
    simp only [EventRecord.leased, hold.epoch]
    omega
  | renewed row leaseSeconds now hrow hrunning hcall =>
    have hold := hsound.present row hrow
    obtain ⟨owner, epoch, hcall, howner, hseconds⟩ := hcall
    have hheld : row.leaseOwner ≠ none :=
      hrenew row owner epoch leaseSeconds now hrow hrunning hcall howner hseconds
    simp only [hrow, reduceCtorEq, if_false, List.append_nil, Bool.false_eq_true, add_zero]
    exact .of_row
      { first := hold.first
        last := hold.last
        paired := Option.isSome_iff_ne_none.mpr hheld
        leased := hold.leased
        due := hold.due
        epoch := hold.epoch }
  | dropped row hrow =>
    refine ⟨fun _ => rfl, ?_⟩
    intro row' hrow'
    cases hrow'

theorem Step.kept (h : Step call v leased v') {row row' : EventRecord} (hrow : v.row = some row)
    (hrow' : v'.row = some row') :
    row'.device = row.device ∧ row'.createdAt = row.createdAt ∧
      (row.state ≠ .received → row'.payload = row.payload) ∧ row.leaseEpoch ≤ row'.leaseEpoch ∧
      (row.state = .completed ∨ row.state = .deadLetter → row'.state = row.state) := by
  cases h with
  | same =>
    rw [hrow] at hrow'
    cases hrow'
    exact ⟨rfl, rfl, fun _ => rfl, le_rfl, fun _ => rfl⟩
  | created _ _ _ _ hnew =>
    rw [hrow] at hnew
    cases hnew
  | updated old payload now hold hreceived =>
    rw [hrow] at hold
    cases hold
    cases hrow'
    exact ⟨rfl, rfl, fun hne => absurd hreceived hne, le_rfl, fun _ => rfl⟩
  | transitioned old state reason ticketId now hold hallowed =>
    rw [hrow] at hold
    cases hold
    cases hrow'
    refine ⟨rfl, rfl, fun _ => rfl, le_rfl, ?_⟩
    rintro (hfinal | hfinal) <;> simp [hfinal, EventState.allowedTransitions] at hallowed
  | retried old target retryAt reason ticketId baseSeconds maxAttempts now hold hworkable =>
    rw [hrow] at hold
    cases hold
    cases hrow'
    refine ⟨rfl, rfl, fun _ => rfl, le_rfl, ?_⟩
    rintro (hfinal | hfinal) <;> simp [hfinal, EventState.workable] at hworkable
  | leased old owner leaseSeconds now hold hworkable =>
    rw [hrow] at hold
    cases hold
    cases hrow'
    refine ⟨rfl, rfl, fun _ => rfl, by simp [EventRecord.leased], ?_⟩
    rintro (hfinal | hfinal) <;> simp [hfinal, EventState.workable] at hworkable
  | renewed old leaseSeconds now hold =>
    rw [hrow] at hold
    cases hold
    cases hrow'
    exact ⟨rfl, rfl, fun _ => rfl, le_rfl, fun _ => rfl⟩
  | dropped => cases hrow'

lemma Step.present_of_leased (h : Step call v true v') : v.row ≠ none := by
  cases h with
  | leased row owner leaseSeconds now hrow => simp [hrow]

theorem Step.finished_of_removed (h : Step call v leased v') {row : EventRecord}
    (hrow : v.row = some row) (hrow' : v'.row = none) :
    (row.state = .completed ∨ row.state = .terminalFailed) ∧
      ∃ now completedDays auditDays, call = .compact now completedDays auditDays := by
  cases h with
  | same =>
    rw [hrow] at hrow'
    cases hrow'
  | dropped old hold hfinished hcall =>
    rw [hrow] at hold
    cases hold
    exact ⟨hfinished, hcall⟩
  | _ => cases hrow'

end EventView

/-- The store with three counts for each event id: the successful `acquire_lease` calls since
its row exists, all of them, and whether compaction has ever removed it. -/
structure LifecycleWorld where
  store : EventStore
  leases : String → Nat
  acquired : String → Nat
  dropped : String → Bool

namespace LifecycleWorld

def initial : LifecycleWorld := ⟨.empty, fun _ => 0, fun _ => 0, fun _ => false⟩

def step (w : LifecycleWorld) (call : LifecycleCall) : LifecycleWorld :=
  let leased := fun eventId => if w.store.leases eventId call then 1 else 0
  { store := w.store.lifecycleStep call
    leases := fun eventId =>
      if w.store.get eventId = none then 0 else w.leases eventId + leased eventId
    acquired := fun eventId => w.acquired eventId + leased eventId
    dropped := fun eventId => w.dropped eventId ||
      ((w.store.get eventId).isSome && ((w.store.lifecycleStep call).get eventId).isNone) }

/-- What is stored about each event is sound, and an id that was never removed has all its
leases on its one row. -/
structure Sound (w : LifecycleWorld) : Prop where
  views : ∀ eventId, (w.store.view eventId).Sound (w.leases eventId)
  counts : ∀ eventId, w.dropped eventId = false → w.acquired eventId = w.leases eventId ∧
    (w.store.get eventId = none → w.leases eventId = 0)

/-- A call keeps what an event may not lose, and removes none but a finished one. -/
structure Keeps (w : LifecycleWorld) (call : LifecycleCall) : Prop where
  kept : ∀ eventId row row', w.store.get eventId = some row →
    (w.step call).store.get eventId = some row' →
      row'.device = row.device ∧ row'.createdAt = row.createdAt ∧
        (row.state ≠ .received → row'.payload = row.payload) ∧
        row.leaseEpoch ≤ row'.leaseEpoch ∧
        (row.state = .completed ∨ row.state = .deadLetter → row'.state = row.state)
  removed : ∀ eventId row, w.store.get eventId = some row →
    (w.step call).store.get eventId = none →
      row.state = .completed ∨ row.state = .terminalFailed

/-- The call is no renewal, with a named owner and a positive duration, of a running event that
nobody has leased. -/
def RenewsHeld (w : LifecycleWorld) : LifecycleCall → Prop
  | .event (.renewLease eventId owner _ leaseSeconds _) =>
    ∀ row, w.store.get eventId = some row → row.state = .running → isBlank owner = false →
      0 < leaseSeconds → row.leaseOwner ≠ none
  | _ => True

variable {w : LifecycleWorld} {call : LifecycleCall}

lemma step_keeps (w : LifecycleWorld) (call : LifecycleCall) : w.Keeps call :=
  ⟨fun eventId _ _ hrow hrow' =>
      (w.store.lifecycleStep_step call eventId).kept hrow hrow',
    fun eventId _ hrow hrow' =>
      ((w.store.lifecycleStep_step call eventId).finished_of_removed hrow hrow').1⟩

lemma step_sound (hsound : w.Sound) (hguard : w.RenewsHeld call) : (w.step call).Sound := by
  constructor
  · intro eventId
    refine (w.store.lifecycleStep_step call eventId).sound (hsound.views eventId) ?_
    intro row owner epoch leaseSeconds now hrow hrunning hcall howner hseconds
    rw [hcall] at hguard
    have hget : w.store.get row.eventId = some row := by
      rw [EventStore.key_of_get hrow]
      exact hrow
    exact hguard row hget hrunning howner hseconds
  · intro eventId hdropped
    simp only [step, Bool.or_eq_false_iff, Bool.and_eq_false_iff] at hdropped
    obtain ⟨hbefore, hpresent⟩ := hdropped
    obtain ⟨hcount, habsent⟩ := hsound.counts eventId hbefore
    have hstep := w.store.lifecycleStep_step call eventId
    simp only [step]
    by_cases hrow : w.store.get eventId = none
    · have hleased : w.store.leases eventId call = false := by
        cases hl : w.store.leases eventId call with
        | false => rfl
        | true =>
          rw [hl] at hstep
          exact absurd hrow hstep.present_of_leased
      simp [hrow, hleased, hcount, habsent hrow]
    · refine ⟨by simp [hrow, hcount], ?_⟩
      intro hnone
      rcases hpresent with hgone | hkept
      · rw [Option.isSome_eq_false_iff, Option.isNone_iff_eq_none] at hgone
        exact absurd hgone hrow
      · rw [hnone] at hkept
        cases hkept

lemma not_sound_of_renewal (hguard : ¬w.RenewsHeld call) : ¬(w.step call).Sound := by
  intro hsound
  apply hguard
  cases call with
  | event call =>
    cases call with
    | renewLease eventId owner epoch leaseSeconds now =>
      intro row hrow hrunning howner hseconds hnone
      have hfence : EventStore.validateLeaseFence row (some owner) (some epoch) now = .ok () :=
        EventStore.validateLeaseFence_eq_ok_iff.mpr (.inl hnone)
      have hget : (w.step (.event (.renewLease eventId owner epoch leaseSeconds now))).store.get
          eventId = some (row.renewed leaseSeconds now) := by
        simp only [step, EventStore.lifecycleStep, EventStore.eventStep,
          EventStore.renewLease_eq_ok howner hseconds hrow hrunning hfence, EventStore.after]
        exact EventStore.get_writeEvent_self hrow
      have hpaired := ((hsound.views eventId).present _ hget).paired
      simp [EventRecord.renewed, hnone] at hpaired
    | _ => trivial
  | _ => trivial

lemma sound_iff (hsound : w.Sound) :
    ((w.step call).Sound ∧ w.Keeps call) ↔ w.RenewsHeld call := by
  constructor
  · rintro ⟨hnext, -⟩
    by_contra hguard
    exact not_sound_of_renewal hguard hnext
  · intro hguard
    exact ⟨step_sound hsound hguard, w.step_keeps call⟩

lemma initial_sound : initial.Sound := by
  constructor
  · intro eventId
    refine ⟨fun _ => rfl, ?_⟩
    intro row hrow
    cases hrow
  · intro eventId _
    exact ⟨rfl, fun _ => rfl⟩

/-- Every failure goes through `schedule_retry` with the same bound. -/
def Budgeted (maxAttempts : Int) : LifecycleCall → Prop
  | .event (.transition _ state _ _ _ _ _) => state ≠ .retryableFailed
  | .event (.scheduleRetry _ _ _ _ bound _ _ _) => bound = maxAttempts
  | _ => True

def WithinBudget (maxAttempts : Int) (v : EventView) : Prop :=
  v.failures = 0 ∨ (v.failures : Int) < maxAttempts

lemma failures_append (row : Option EventRecord) (v : EventView) (a : EventAttempt) :
    EventView.failures ⟨row, v.attempts ++ [a]⟩ =
      v.failures + if a.state = .retryableFailed then 1 else 0 := by
  rw [EventView.failures, EventView.failures, List.filter_append, List.length_append]
  split <;> simp [*]

lemma step_withinBudget {maxAttempts : Int} {v v' : EventView} {leased : Bool}
    (h : EventView.Step call v leased v') (hbudget : Budgeted maxAttempts call)
    (hold : WithinBudget maxAttempts v) : WithinBudget maxAttempts v' := by
  have unchanged : ∀ row, WithinBudget maxAttempts ⟨row, v.attempts ++ []⟩ := by
    intro row
    rw [List.append_nil]
    exact hold
  have grown : ∀ row (a : EventAttempt), a.state ≠ .retryableFailed →
      WithinBudget maxAttempts ⟨row, v.attempts ++ [a]⟩ := by
    intro row a hne
    rw [WithinBudget, failures_append, if_neg hne, Nat.add_zero]
    exact hold
  cases h with
  | same => exact hold
  | created => exact grown _ _ (by simp)
  | updated => exact unchanged _
  | transitioned row state reason ticketId now hrow hallowed hcall =>
    obtain ⟨owner, epoch, rfl⟩ := hcall
    exact grown _ _ hbudget
  | retried row target retryAt reason ticketId baseSeconds bound now hrow hworkable hcall htarget =>
    obtain ⟨owner, epoch, rfl⟩ := hcall
    obtain rfl : bound = maxAttempts := hbudget
    rcases htarget with ⟨rfl, -⟩ | ⟨rfl, hlt⟩
    · exact grown _ _ (by simp)
    · refine .inr ?_
      rw [failures_append, if_pos rfl]
      push_cast
      exact hlt
  | leased => exact grown _ _ (by simp)
  | renewed => exact unchanged _
  | dropped => exact .inl rfl

lemma run_withinBudget {maxAttempts : Int} {calls : List LifecycleCall}
    (hcalls : ∀ call ∈ calls, Budgeted maxAttempts call) (w : LifecycleWorld)
    (hold : ∀ eventId, WithinBudget maxAttempts (w.store.view eventId)) (eventId : String) :
    WithinBudget maxAttempts ((final step w calls).store.view eventId) := by
  induction calls generalizing w with
  | nil => exact hold eventId
  | cons call calls ih =>
    refine ih (fun c hc => hcalls c (List.mem_cons_of_mem _ hc)) (w.step call) ?_
    intro other
    exact step_withinBudget (w.store.lifecycleStep_step call other)
      (hcalls call List.mem_cons_self) (hold other)

end LifecycleWorld

/-- In every run from an empty store, every state is sound and every call keeps what it must,
if and only if no call renews the lease of a running event that nobody has leased. The retry
budget holds in every run. -/
theorem lifecycle_sound_iff (calls : List LifecycleCall) :
    (AllSteps LifecycleWorld.step (fun w call => (w.step call).Sound ∧ w.Keeps call) .initial
        calls ↔
      AllSteps LifecycleWorld.step LifecycleWorld.RenewsHeld .initial calls) ∧
    ∀ maxAttempts, (∀ call ∈ calls, LifecycleWorld.Budgeted maxAttempts call) →
      ∀ eventId, LifecycleWorld.WithinBudget maxAttempts
        ((final LifecycleWorld.step .initial calls).store.view eventId) :=
  ⟨allSteps_next_iff (fun _ _ hsound => LifecycleWorld.sound_iff hsound)
      LifecycleWorld.initial_sound calls,
    fun _ hcalls => LifecycleWorld.run_withinBudget hcalls .initial (fun _ => .inl rfl)⟩

/-- A worker moves an event to `running` by a transition and renews a lease it never took. -/
def renewalWithoutLease : List LifecycleCall :=
  [.event (.createOrGet "e" "r1" [] false (utcSeconds 0)),
    .event (.transition "e" .admitted none none none none (utcSeconds 0)),
    .event (.transition "e" .running none none none none (utcSeconds 1)),
    .event (.renewLease "e" "A" 0 30 (utcSeconds 2))]

theorem lifecycle_fails :
    ¬∀ calls : List LifecycleCall, (final LifecycleWorld.step .initial calls).Sound := by
  intro h
  let w := final LifecycleWorld.step .initial renewalWithoutLease
  have hrow : ((w.store.get "e").map fun row =>
      (row.leaseOwner.isSome, row.leaseExpiresAt.isSome)) = some (false, true) := by
    decide +kernel
  obtain ⟨row, hget, hpair⟩ := Option.map_eq_some_iff.mp hrow
  have hpaired := (((h renewalWithoutLease).views "e").present row hget).paired
  rw [Prod.mk.injEq] at hpair
  rw [hpair.1, hpair.2] at hpaired
  cases hpaired

end NetTools
