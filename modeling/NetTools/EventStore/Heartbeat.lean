import NetTools.EventStore.Listings
import NetTools.Python.Double

/-!
# The heartbeat of a lease

While a runner works, a thread renews its lease at each tick. Others call the store meanwhile, by
clocks of their own.
-/

namespace NetTools

open Runs

/-- The thread beside a runner. It stops at the first renewal that fails. -/
structure LeaseHeartbeat where
  store : EventStore
  lease : EventRecord
  failed : Bool := false

def LeaseHeartbeat.beat (leaseSeconds : ℚ) (h : LeaseHeartbeat)
    (tick : List LifecycleCall × Datetime) : LeaseHeartbeat :=
  let s := final EventStore.lifecycleStep h.store tick.1
  if h.failed then { h with store := s }
  else
    match s.renewLease h.lease.eventId (h.lease.leaseOwner.getD "") h.lease.leaseEpoch leaseSeconds
        tick.2 with
    | .ok (lease, s) => ⟨s, lease, false⟩
    | .error _ => ⟨s, h.lease, true⟩

namespace LifecycleCall

/-- The caller reads a clock before the lease runs out and does not present its token. -/
def Outside (token : Fencing.Token String String) (expiry : Datetime) (call : LifecycleCall) :
    Prop :=
  ∀ c, call = .event c → c.now.micros < expiry.micros ∧ c.presented ≠ some token

end LifecycleCall

/-- Every tick comes before the lease that the last one has set runs out. -/
def InTime (token : Fencing.Token String String) (leaseSeconds : ℚ) :
    Datetime → List (List LifecycleCall × Datetime) → Prop
  | _, [] => True
  | expiry, tick :: ticks =>
    (∀ call ∈ tick.1, call.Outside token expiry) ∧ tick.2.micros < expiry.micros ∧
      InTime token leaseSeconds (tick.2.addSeconds leaseSeconds) ticks

/-- Whatever part of the calls of others has come since a tick, they have left the event alone. -/
def OthersLeave (eventId : String) (leaseSeconds : ℚ) (h : LeaseHeartbeat)
    (ticks : List (List LifecycleCall × Datetime)) : Prop :=
  ∀ before tick after, ticks = before ++ tick :: after → ∀ calls, calls <+: tick.1 →
    let store := (final (LeaseHeartbeat.beat leaseSeconds) h before).store
    (final EventStore.lifecycleStep store calls).view eventId = store.view eventId

namespace EventStore

variable {s : EventStore} {eventId owner : String} {row : EventRecord} {expiry now : Datetime}

lemma acquireLease_args {s' : EventStore} {leaseSeconds : ℚ}
    (h : s.acquireLease eventId owner leaseSeconds now = .ok (row, s')) :
    isBlank owner = false ∧ 0 < leaseSeconds := by
  unfold acquireLease at h
  split_ifs at h with hblank hseconds
  exact ⟨Bool.eq_false_iff.mpr hblank, not_le.mp hseconds⟩

lemma eventStep_view_of_held (hrow : s.get eventId = some row) (hrunning : row.state = .running)
    (howner : row.leaseOwner = some owner) (hexpiry : row.leaseExpiresAt = some expiry)
    {call : StoreCall} (hclock : call.now.micros < expiry.micros)
    (htoken : call.presented ≠ some ⟨eventId, owner, row.leaseEpoch⟩) :
    (s.eventStep call).view eventId = s.view eventId := by
  have hfence : ∀ {o : Option String} {k : Option Int}, validateLeaseFence row o k call.now = .ok () →
      o = some owner ∧ k = some row.leaseEpoch := by
    intro o k h
    rcases validateLeaseFence_eq_ok_iff.mp h with hnone | ⟨o', k', rfl, rfl, hheld⟩
    · rw [howner] at hnone
      cases hnone
    · rw [← hheld.1, howner, hheld.2.1]
      exact ⟨rfl, rfl⟩
  cases call with
  | createOrGet target device payload strict at' =>
    simp only [eventStep]
    cases h : s.createOrGet target device payload strict at' with
    | error e => rfl
    | ok result =>
      obtain ⟨record, s'⟩ := result
      rcases createOrGet_cases h with ⟨-, -, -, -, rfl⟩ | ⟨hnone, -, rfl⟩
      · rfl
      · apply view_insertReceived_of_ne
        rintro rfl
        rw [hrow] at hnone
        cases hnone
  | transition target state reason ticketId o k at' =>
    simp only [eventStep]
    cases h : s.transition target state reason ticketId o k at' with
    | error e => rfl
    | ok result =>
      obtain ⟨record, s'⟩ := result
      obtain ⟨old, hold, -, hpass, -, rfl⟩ := transition_cases h
      apply view_writeEvent_of_ne
      rintro rfl
      obtain rfl := Option.some.inj (hrow.symm.trans hold)
      obtain ⟨rfl, rfl⟩ := hfence hpass
      exact htoken rfl
  | scheduleRetry target reason ticketId baseSeconds maxAttempts o k at' =>
    simp only [eventStep]
    cases h : s.scheduleRetry target reason ticketId baseSeconds maxAttempts o k at' with
    | error e => rfl
    | ok result =>
      obtain ⟨record, s'⟩ := result
      obtain ⟨-, -, old, hold, -, hpass, -, -, -, -, -, rfl⟩ := scheduleRetry_cases h
      apply view_writeEvent_of_ne
      rintro rfl
      obtain rfl := Option.some.inj (hrow.symm.trans hold)
      obtain ⟨rfl, rfl⟩ := hfence hpass
      exact htoken rfl
  | acquireLease target other leaseSeconds at' =>
    simp only [eventStep]
    cases h : s.acquireLease target other leaseSeconds at' with
    | error e => rfl
    | ok result =>
      obtain ⟨record, s'⟩ := result
      obtain ⟨old, hold, -, -, rfl⟩ := acquireLease_cases h
      apply view_writeEvent_of_ne
      rintro rfl
      have hlive : ¬expiry.micros ≤ at'.micros := not_le.mpr hclock
      unfold acquireLease at h
      simp [hrow, hrunning, hexpiry, EventState.workable, Datetime.le, hlive] at h
      split_ifs at h
  | renewLease target other epoch leaseSeconds at' =>
    simp only [eventStep]
    cases h : s.renewLease target other epoch leaseSeconds at' with
    | error e => rfl
    | ok result =>
      obtain ⟨record, s'⟩ := result
      obtain ⟨-, -, old, hold, -, hpass, -, rfl⟩ := renewLease_cases h
      apply view_writeEvent_of_ne
      rintro rfl
      obtain rfl := Option.some.inj (hrow.symm.trans hold)
      obtain ⟨ho, hk⟩ := hfence hpass
      cases ho
      cases hk
      exact htoken rfl

lemma lifecycleStep_view_of_held (hrow : s.get eventId = some row) (hrunning : row.state = .running)
    (howner : row.leaseOwner = some owner) (hexpiry : row.leaseExpiresAt = some expiry)
    {call : LifecycleCall} (hcall : call.Outside ⟨eventId, owner, row.leaseEpoch⟩ expiry) :
    (s.lifecycleStep call).view eventId = s.view eventId := by
  cases call with
  | event call =>
    obtain ⟨hclock, htoken⟩ := hcall call rfl
    exact eventStep_view_of_held hrow hrunning howner hexpiry hclock htoken
  | side call =>
    have hsame := s.sideStep_sameEvents call
    simp only [lifecycleStep]
    rw [view, view, hsame.get, eventAttempts, eventAttempts, hsame.2]
  | createOrUpdate target device payload at' =>
    simp only [lifecycleStep]
    cases h : s.createOrUpdate target device payload at' with
    | error e => rfl
    | ok result =>
      obtain ⟨record, s'⟩ := result
      rcases createOrUpdate_cases h with ⟨hnone, rfl⟩ | ⟨old, hold, hreceived, rfl⟩
      · apply view_insertReceived_of_ne
        rintro rfl
        rw [hrow] at hnone
        cases hnone
      · apply view_writeEvent_of_ne
        rintro rfl
        obtain rfl := Option.some.inj (hrow.symm.trans hold)
        rw [hrunning] at hreceived
        cases hreceived
  | compact at' completedDays auditDays =>
    simp only [lifecycleStep]
    cases h : s.compact at' completedDays auditDays with
    | error e => rfl
    | ok result =>
      obtain ⟨report, s'⟩ := result
      rcases compact_view h eventId with hview | ⟨old, hold, hfinished, -⟩
      · exact hview
      · obtain rfl := Option.some.inj (hrow.symm.trans hold)
        rw [hrunning] at hfinished
        rcases hfinished with hdone | hdone <;> cases hdone

lemma final_view_of_held (hrow : s.get eventId = some row) (hrunning : row.state = .running)
    (howner : row.leaseOwner = some owner) (hexpiry : row.leaseExpiresAt = some expiry)
    {calls : List LifecycleCall}
    (hcalls : ∀ call ∈ calls, call.Outside ⟨eventId, owner, row.leaseEpoch⟩ expiry) :
    (final lifecycleStep s calls).view eventId = s.view eventId := by
  induction calls generalizing s with
  | nil => rfl
  | cons call calls ih =>
    have hview := lifecycleStep_view_of_held hrow hrunning howner hexpiry
      (hcalls call List.mem_cons_self)
    have hkept : (s.lifecycleStep call).get eventId = some row :=
      (congrArg EventView.row hview).trans hrow
    rw [final_cons, ih hkept (fun c hc => hcalls c (List.mem_cons_of_mem _ hc)), hview]

end EventStore

lemma LeaseHeartbeat.beat_eq {s : EventStore} {lease : EventRecord} {eventId owner : String}
    {leaseSeconds : ℚ} {expiry : Datetime} (hblank : isBlank owner = false)
    (hseconds : 0 < leaseSeconds) (hrow : s.get eventId = some lease)
    (hrunning : lease.state = .running) (howner : lease.leaseOwner = some owner)
    (hexpiry : lease.leaseExpiresAt = some expiry) {tick : List LifecycleCall × Datetime}
    (hcalls : ∀ call ∈ tick.1, call.Outside ⟨eventId, owner, lease.leaseEpoch⟩ expiry)
    (htick : tick.2.micros < expiry.micros) :
    ∃ s', beat leaseSeconds ⟨s, lease, false⟩ tick = ⟨s', lease.renewed leaseSeconds tick.2, false⟩ ∧
      s'.view eventId = ⟨some (lease.renewed leaseSeconds tick.2), s.eventAttempts eventId⟩ := by
  have hview := EventStore.final_view_of_held hrow hrunning howner hexpiry hcalls
  have hkept : (final EventStore.lifecycleStep s tick.1).get eventId = some lease :=
    (congrArg EventView.row hview).trans hrow
  have hfence : EventStore.validateLeaseFence lease (some owner) (some lease.leaseEpoch) tick.2 =
      .ok () :=
    EventStore.validateLeaseFence_eq_ok_iff.mpr
      (.inr ⟨owner, lease.leaseEpoch, rfl, rfl, howner, rfl, expiry, hexpiry, htick⟩)
  have hrenewed := EventStore.renewLease_eq_ok hblank hseconds hkept hrunning hfence
  have hattempts := congrArg EventView.attempts hview
  rw [EventStore.view_attempts, EventStore.view_attempts] at hattempts
  obtain rfl := EventStore.key_of_get hrow
  refine ⟨(final EventStore.lifecycleStep s tick.1).writeEvent lease.eventId
    (fun r => r.renewed leaseSeconds tick.2) (fun r => r.renewed_eventId leaseSeconds tick.2) [],
    ?_, ?_⟩
  · rw [beat, howner]
    dsimp only
    rw [if_neg Bool.false_ne_true, Option.getD_some, hrenewed]
  · rw [EventStore.view_writeEvent_self hkept, hattempts, List.append_nil]

lemma LeaseHeartbeat.final_beat {s : EventStore} {lease : EventRecord} {eventId owner : String}
    {leaseSeconds : ℚ} {now : Datetime} (hblank : isBlank owner = false)
    (hseconds : 0 < leaseSeconds) (hrow : s.get eventId = some lease)
    (hrunning : lease.state = .running) (howner : lease.leaseOwner = some owner)
    (hexpiry : lease.leaseExpiresAt = some (now.addSeconds leaseSeconds))
    (hupdated : lease.updatedAt = now) {ticks : List (List LifecycleCall × Datetime)}
    (hticks : InTime ⟨eventId, owner, lease.leaseEpoch⟩ leaseSeconds (now.addSeconds leaseSeconds)
      ticks) :
    let h := final (beat leaseSeconds) ⟨s, lease, false⟩ ticks
    let last := (ticks.getLast?.map Prod.snd).getD now
    h.failed = false ∧ OthersLeave eventId leaseSeconds ⟨s, lease, false⟩ ticks ∧
      h.store.view eventId = ⟨some { lease with
          leaseExpiresAt := some (last.addSeconds leaseSeconds), updatedAt := last },
        s.eventAttempts eventId⟩ := by
  induction ticks generalizing s lease now with
  | nil =>
    refine ⟨rfl, fun before tick after hticks => by simp at hticks, ?_⟩
    change s.view eventId = ⟨some { lease with
      leaseExpiresAt := some (now.addSeconds leaseSeconds), updatedAt := now }, _⟩
    rw [← hexpiry, ← hupdated, EventStore.view, hrow]
  | cons tick ticks ih =>
    obtain ⟨hcalls, htick, hlater⟩ := hticks
    obtain ⟨s', hbeat, hview⟩ :=
      beat_eq hblank hseconds hrow hrunning howner hexpiry hcalls htick
    have hrow' : s'.get eventId = some (lease.renewed leaseSeconds tick.2) :=
      congrArg EventView.row hview
    have hattempts : s'.eventAttempts eventId = s.eventAttempts eventId :=
      congrArg EventView.attempts hview
    have hrest := ih hrow' hrunning howner rfl rfl hlater
    have hlast : (((tick :: ticks).getLast?.map Prod.snd).getD now) =
        (ticks.getLast?.map Prod.snd).getD tick.2 := by
      rw [List.getLast?_cons]
      cases ticks.getLast? <;> rfl
    rw [final_cons, hbeat, hlast, ← hattempts]
    refine ⟨hrest.1, ?_, hrest.2.2⟩
    intro before other after hsplit calls hinitial
    cases before with
    | nil =>
      obtain rfl := (List.cons.inj hsplit).1
      exact EventStore.final_view_of_held hrow hrunning howner hexpiry
        (fun call hcall => hcalls call (hinitial.subset hcall))
    | cons first before =>
      obtain ⟨rfl, hothers⟩ := List.cons.inj hsplit
      rw [final_cons, hbeat]
      exact hrest.2.1 before other after hothers calls hinitial

/-- A lease that is renewed in time is never lost: no other call changes the event, no renewal
fails, and the lease runs from the last tick. -/
theorem heartbeat_keeps_lease {s₀ s : EventStore} {eventId owner : String} {leaseSeconds : ℚ}
    {now : Datetime} {lease : EventRecord}
    (hlease : s₀.acquireLease eventId owner leaseSeconds now = .ok (lease, s))
    (ticks : List (List LifecycleCall × Datetime))
    (hticks : InTime ⟨eventId, owner, lease.leaseEpoch⟩ leaseSeconds (now.addSeconds leaseSeconds)
      ticks) :
    let h := final (LeaseHeartbeat.beat leaseSeconds) ⟨s, lease, false⟩ ticks
    let last := (ticks.getLast?.map Prod.snd).getD now
    h.failed = false ∧ OthersLeave eventId leaseSeconds ⟨s, lease, false⟩ ticks ∧
      h.store.view eventId = ⟨some { lease with
          leaseExpiresAt := some (last.addSeconds leaseSeconds), updatedAt := last },
        s.eventAttempts eventId⟩ := by
  obtain ⟨hblank, hseconds⟩ := EventStore.acquireLease_args hlease
  obtain ⟨row, hrow, -, rfl, rfl⟩ := EventStore.acquireLease_cases hlease
  exact LeaseHeartbeat.final_beat hblank hseconds (EventStore.get_writeEvent_self hrow) rfl rfl rfl
    rfl hticks

def dueEvent : EventRecord :=
  { eventId := "e", device := "r1", state := .retryableFailed, payload := [],
    createdAt := utcSeconds 0, updatedAt := utcSeconds 0, retryAt := some (utcSeconds 5) }

lemma dueEvent_nodup : ([dueEvent].map EventRecord.eventId).Nodup := List.nodup_singleton _

def dueStore : EventStore := { events := ⟨[dueEvent], dueEvent_nodup⟩ }

lemma dueStore_acquireLease : ∃ s, dueStore.acquireLease "e" "A" 180 (utcSeconds 5) =
    .ok (dueEvent.leased "A" 180 (utcSeconds 5), s) :=
  ⟨_, EventStore.acquireLease_eq_ok (by decide) (by norm_num) rfl rfl
    (fun _ => ⟨utcSeconds 5, rfl, le_rfl⟩) (fun h => by cases h)⟩

lemma timedelta_180 : timedelta 180 = 180000000 := by
  have h := roundHalfEven_intCast 180000000
  rw [timedelta]
  norm_num at h ⊢
  exact h

theorem heartbeat_keeps_lease_dueStore : ∃ s,
    dueStore.acquireLease "e" "A" 180 (utcSeconds 5) =
      .ok (dueEvent.leased "A" 180 (utcSeconds 5), s) ∧
    (final (LeaseHeartbeat.beat 180) ⟨s, dueEvent.leased "A" 180 (utcSeconds 5), false⟩
      [([.event (.acquireLease "e" "B" 180 (utcSeconds 30))], utcSeconds 65)]).failed = false ∧
    (s.lifecycleStep (.event (.acquireLease "e" "B" 180 (utcSeconds 30)))).view "e" =
      s.view "e" := by
  obtain ⟨s, hlease⟩ := dueStore_acquireLease
  have hexpiry : ((utcSeconds 5).addSeconds 180).micros = 185000000 := by
    rw [Datetime.addSeconds, timedelta_180]
    rfl
  have hticks : InTime ⟨"e", "A", (dueEvent.leased "A" 180 (utcSeconds 5)).leaseEpoch⟩ 180
      ((utcSeconds 5).addSeconds 180)
      [([.event (.acquireLease "e" "B" 180 (utcSeconds 30))], utcSeconds 65)] := by
    refine And.intro ?_ (And.intro ?_ trivial)
    · intro call hcall c hc
      rw [List.mem_singleton.mp hcall] at hc
      cases hc
      refine ⟨?_, fun htoken => by cases htoken⟩
      rw [hexpiry]
      decide
    · rw [hexpiry]
      decide
  obtain ⟨hfailed, hothers, -⟩ := heartbeat_keeps_lease hlease _ hticks
  exact ⟨s, hlease, hfailed, hothers [] _ [] rfl _ (List.prefix_refl _)⟩

end NetTools
