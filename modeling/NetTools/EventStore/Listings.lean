import NetTools.EventStore.Lifecycle
import NetTools.EventStore.OutboxRuns

/-!
# Listings and claims

The queries that list work compare ISO texts in SQL, the operations that claim it compare
instants. The two orders part where the offsets of the two timestamps differ by more than
the time between them.
-/

namespace NetTools

open Runs

namespace Datetime

def wall (t : Datetime) : Int := t.micros + t.offset

/-- The texts of the two timestamps are in another order than their instants: the wall clocks
are the other way round, or equal and told apart by two offsets east of Greenwich. -/
def Skewed (d now : Datetime) : Prop :=
  (d.micros ≤ now.micros ∧ now.wall < d.wall) ∨ (now.micros < d.micros ∧ d.wall < now.wall) ∨
    (d.wall = now.wall ∧ d.offset ≠ now.offset ∧ 0 ≤ d.offset ∧ 0 ≤ now.offset)

theorem isoLe_iff_le_iff_not_skewed (d now : Datetime) :
    (d.isoLe now = true ↔ d.micros ≤ now.micros) ↔ ¬Skewed d now := by
  have htext : d.isoLe now = true ↔ d.wall < now.wall ∨ (d.wall = now.wall ∧
      ((0 ≤ d.offset ∧ now.offset < 0) ∨
        ((d.offset < 0 ↔ now.offset < 0) ∧ d.offset.natAbs ≤ now.offset.natAbs))) := by
    simp only [isoLe, isoKey, decide_eq_true_eq, Prod.Lex.le_iff, ofLex_toLex, wall]
    by_cases hd : d.offset < 0 <;> by_cases hn : now.offset < 0 <;> simp [hd, hn] <;> omega
  rw [htext]
  simp only [Skewed, wall]
  omega

lemma not_skewed_of_offset_eq {d now : Datetime} (h : d.offset = now.offset) :
    ¬Skewed d now := by
  rw [← isoLe_iff_le_iff_not_skewed]
  exact isoLe_iff_of_offset_eq h

end Datetime

def EventRecord.deadline (row : EventRecord) : Option Datetime :=
  if row.state = .retryableFailed then row.retryAt else row.leaseExpiresAt

def OutboxRecord.deadline (row : OutboxRecord) : Option Datetime :=
  if row.state = .pending then row.retryAt else row.leaseExpiresAt

namespace EventStore

/-- A leased event and a notification that is being sent have an expiry. -/
structure Deadlines (s : EventStore) : Prop where
  leased : ∀ row ∈ s.events.rows, row.leaseOwner.isSome = true → row.leaseExpiresAt.isSome = true
  sending : ∀ row ∈ s.outbox.rows, row.state = .sending → row.leaseExpiresAt.isSome = true

lemma outboxWorld_store (s : EventStore) (call : SideCall) :
    (OutboxWorld.step ⟨s, []⟩ call).store = s.sideStep call := by
  cases call with
  | claim outboxId owner leaseSeconds now =>
    simp only [OutboxWorld.step, sideStep]
    cases s.claimNotification outboxId owner leaseSeconds now <;> rfl
  | finish outboxId sent error now retryAfterSeconds baseSeconds maxAttempts owner leaseEpoch =>
    simp only [OutboxWorld.step, sideStep]
    cases s.finishNotification outboxId sent error now retryAfterSeconds baseSeconds maxAttempts
      owner leaseEpoch <;> rfl
  | _ => rfl

lemma sideStep_sending (s : EventStore) (call : SideCall)
    (h : ∀ row ∈ s.outbox.rows, row.state = .sending → row.leaseExpiresAt.isSome = true) :
    ∀ row ∈ (s.sideStep call).outbox.rows, row.state = .sending →
      row.leaseExpiresAt.isSome = true := by
  intro row hrow hsending
  have hstep := OutboxWorld.step_stepped ⟨s, []⟩ call
  rw [← outboxWorld_store] at hrow
  cases hstep with
  | quiet houtbox =>
    rw [houtbox] at hrow
    exact h row hrow hsending
  | enqueued new eventId destination kind payload now hnew _ houtbox =>
    rw [houtbox] at hrow
    rcases KeyedTable.mem_of_mem_insert hrow with hold | rfl
    · exact h row hold hsending
    · rw [hnew] at hsending
      cases hsending
  | changed old changed event f hf hold hchanged hchange houtbox =>
    rw [houtbox] at hrow
    rcases (KeyedTable.mem_modify hold).mp hrow with hsame | ⟨hmem, -⟩
    · rw [← hchanged] at hsame
      subst hsame
      cases hchange with
      | claimed => rfl
      | finished sent error now retryAfterSeconds baseSeconds maxAttempts state retryAt _ _ houtcome =>
        change state = .sending at hsending
        rcases deliveryOutcome_cases houtcome with ⟨hs, -⟩ | ⟨hs, -⟩ | ⟨hs, -⟩
        all_goals
          rw [hs] at hsending
          cases hsending
    · exact h row hmem hsending

end EventStore

lemma EventView.Step.expiry {call : LifecycleCall} {v v' : EventView} {leased : Bool}
    (h : Step call v leased v')
    (hv : ∀ row, v.row = some row → row.leaseOwner.isSome = true →
      row.leaseExpiresAt.isSome = true) :
    ∀ row, v'.row = some row → row.leaseOwner.isSome = true →
      row.leaseExpiresAt.isSome = true := by
  intro row hrow howner
  cases h with
  | same => exact hv row hrow howner
  | updated old payload now hold =>
    cases hrow
    exact hv old hold howner
  | leased => cases hrow; rfl
  | renewed => cases hrow; rfl
  | created => cases hrow; cases howner
  | transitioned => cases hrow; cases howner
  | retried => cases hrow; cases howner
  | dropped => cases hrow

namespace EventStore

theorem lifecycleStep_deadlines (s : EventStore) (call : LifecycleCall) (h : s.Deadlines) :
    (s.lifecycleStep call).Deadlines := by
  refine ⟨?_, ?_⟩
  · intro row hrow
    refine (s.lifecycleStep_step call row.eventId).expiry ?_ row (KeyedTable.get?_of_mem hrow)
    intro old hold
    exact h.leased old (KeyedTable.mem_of_get? hold)
  · cases call with
    | side call => exact s.sideStep_sending call h.sending
    | event call =>
      simp only [lifecycleStep]
      rw [eventStep_eq]
      exact h.sending
    | createOrUpdate eventId device payload now =>
      simp only [lifecycleStep]
      cases hcall : s.createOrUpdate eventId device payload now with
      | error e => exact h.sending
      | ok result =>
        obtain ⟨record, s'⟩ := result
        rcases createOrUpdate_cases hcall with ⟨-, rfl⟩ | ⟨-, -, -, rfl⟩ <;> exact h.sending
    | compact now completedDays auditDays =>
      simp only [lifecycleStep]
      cases hcall : s.compact now completedDays auditDays with
      | error e => exact h.sending
      | ok result =>
        obtain ⟨report, s'⟩ := result
        obtain ⟨cutoff, rfl⟩ := compact_cases hcall
        intro row hrow
        exact h.sending row (List.mem_of_mem_filter hrow)

variable {s : EventStore} {now : Datetime} {owner : String} {leaseSeconds : ℚ}

lemma mem_recoverableEvents {row : EventRecord} (hrow : row ∈ s.events.rows) :
    row ∈ s.recoverableEvents now ↔ recoverable now row = true := by
  rw [recoverableEvents, (List.perm_insertionSort _ _).mem_iff, List.mem_filter]
  exact and_iff_right hrow

lemma recoverable_iff {row : EventRecord}
    (hrow : row.state = .retryableFailed ∨ row.state = .running ∧ row.leaseExpiresAt.isSome = true) :
    recoverable now row = true ↔ ∃ d, row.deadline = some d ∧ d.isoLe now = true := by
  rcases hrow with hstate | ⟨hstate, -⟩
  · cases hretry : row.retryAt <;> simp [recoverable, EventRecord.deadline, hstate, hretry]
  · cases hexpiry : row.leaseExpiresAt <;>
      simp [recoverable, EventRecord.deadline, hstate, hexpiry]

lemma acquireLease_ok_iff {row : EventRecord} (hrow : s.get row.eventId = some row)
    (howner : isBlank owner = false) (hseconds : 0 < leaseSeconds)
    (hwaiting : row.state = .retryableFailed ∨
      row.state = .running ∧ row.leaseExpiresAt.isSome = true) :
    (∃ result, s.acquireLease row.eventId owner leaseSeconds now = .ok result) ↔
      ∃ d, row.deadline = some d ∧ d.micros ≤ now.micros := by
  unfold acquireLease
  rw [howner, if_neg Bool.false_ne_true, if_neg (not_le.mpr hseconds), hrow]
  dsimp only
  rcases hwaiting with hstate | ⟨hstate, hsome⟩
  · cases hretry : row.retryAt with
    | none => simp [EventRecord.deadline, hstate, hretry, EventState.workable]
    | some d =>
      by_cases hdue : d.micros ≤ now.micros <;>
        simp [EventRecord.deadline, hstate, hretry, EventState.workable, Datetime.le, hdue]
  · obtain ⟨d, hexpiry⟩ := Option.isSome_iff_exists.mp hsome
    by_cases hdue : d.micros ≤ now.micros <;>
      simp [EventRecord.deadline, hstate, hexpiry, EventState.workable, Datetime.le, hdue]

lemma eligible_iff {row : OutboxRecord}
    (hrow : row.state = .pending ∨ row.state = .sending ∧ row.leaseExpiresAt.isSome = true) :
    eligible now row = true ↔ ∀ d, row.deadline = some d → d.isoLe now = true := by
  rcases hrow with hstate | ⟨hstate, hsome⟩
  · cases hretry : row.retryAt <;> simp [eligible, OutboxRecord.deadline, hstate, hretry]
  · obtain ⟨d, hexpiry⟩ := Option.isSome_iff_exists.mp hsome
    simp [eligible, OutboxRecord.deadline, hstate, hexpiry]

lemma claimNotification_ok_iff {row : OutboxRecord}
    (hrow : s.outbox.get? row.outboxId = some row) (howner : isBlank owner = false)
    (hseconds : 0 < leaseSeconds)
    (hwaiting : row.state = .pending ∨ row.state = .sending) :
    (∃ result, s.claimNotification row.outboxId owner leaseSeconds now = .ok result) ↔
      ∀ d, row.deadline = some d → d.micros ≤ now.micros := by
  have hclaimable : (∃ result, s.claimNotification row.outboxId owner leaseSeconds now =
      .ok result) ↔ row.Claimable now := by
    constructor
    · rintro ⟨⟨claimed, s'⟩, hok⟩
      obtain ⟨-, -, row', hrow', hdue, -⟩ := claimNotification_eq_ok_iff.mp hok
      have hsame : row' = row := Option.some.inj (hrow'.symm.trans hrow)
      exact hsame ▸ hdue
    · intro hdue
      exact ⟨(_, _), claimNotification_eq_ok_iff.mpr
        ⟨howner, hseconds, row, hrow, hdue, rfl, rfl⟩⟩
  rw [hclaimable, OutboxRecord.Claimable, OutboxRecord.deadline]
  rcases hwaiting with hstate | hstate <;> simp [hstate]

end EventStore

lemma exists_deadline_iff {deadline : Option Datetime} {now : Datetime} :
    ((∃ d, deadline = some d ∧ d.isoLe now = true) ↔
        ∃ d, deadline = some d ∧ d.micros ≤ now.micros) ↔
      ∀ d, deadline = some d → ¬d.Skewed now := by
  cases deadline with
  | none => simp
  | some d => simpa using d.isoLe_iff_le_iff_not_skewed now

lemma forall_deadline_iff {deadline : Option Datetime} {now : Datetime} :
    ((∀ d, deadline = some d → d.isoLe now = true) ↔
        ∀ d, deadline = some d → d.micros ≤ now.micros) ↔
      ∀ d, deadline = some d → ¬d.Skewed now := by
  cases deadline with
  | none => simp
  | some d => simpa using d.isoLe_iff_le_iff_not_skewed now

/-- In every state that calls reach, a waiting or leased event is listed exactly when it can be
leased, and a notification exactly when it can be claimed, if and only if the deadline of the
row and the clock are not skewed. -/
theorem listed_iff_claimable (calls : List LifecycleCall) (now : Datetime) (owner : String)
    (leaseSeconds : ℚ) (howner : isBlank owner = false) (hseconds : 0 < leaseSeconds) :
    (∀ row ∈ (final EventStore.lifecycleStep .empty calls).events.rows,
      row.state = .retryableFailed ∨ (row.state = .running ∧
        (row.leaseOwner.isSome = true ∨ row.leaseExpiresAt.isSome = true)) →
      ((row ∈ (final EventStore.lifecycleStep .empty calls).recoverableEvents now ↔
          ∃ result, (final EventStore.lifecycleStep .empty calls).acquireLease row.eventId owner
            leaseSeconds now = .ok result) ↔
        ∀ d, row.deadline = some d → ¬d.Skewed now)) ∧
    ∀ row ∈ (final EventStore.lifecycleStep .empty calls).outbox.rows,
      row.state = .pending ∨ row.state = .sending →
      ((EventStore.eligible now row = true ↔
          ∃ result, (final EventStore.lifecycleStep .empty calls).claimNotification row.outboxId
            owner leaseSeconds now = .ok result) ↔
        ∀ d, row.deadline = some d → ¬d.Skewed now) := by
  have hdeadlines : (final EventStore.lifecycleStep .empty calls).Deadlines := by
    refine final_of_step EventStore.lifecycleStep_deadlines ⟨?_, ?_⟩ calls
    · intro row hrow
      cases hrow
    · intro row hrow
      cases hrow
  constructor
  · intro row hrow hwaiting
    have hleased : row.state = .retryableFailed ∨
        row.state = .running ∧ row.leaseExpiresAt.isSome = true := by
      rcases hwaiting with hstate | ⟨hstate, howns | hexpires⟩
      · exact .inl hstate
      · exact .inr ⟨hstate, hdeadlines.leased row hrow howns⟩
      · exact .inr ⟨hstate, hexpires⟩
    rw [EventStore.mem_recoverableEvents hrow, EventStore.recoverable_iff hleased,
      EventStore.acquireLease_ok_iff (KeyedTable.get?_of_mem hrow) howner hseconds hleased]
    exact exists_deadline_iff
  · intro row hrow hwaiting
    have hsending : row.state = .pending ∨
        row.state = .sending ∧ row.leaseExpiresAt.isSome = true := by
      rcases hwaiting with hstate | hstate
      · exact .inl hstate
      · exact .inr ⟨hstate, hdeadlines.sending row hrow hstate⟩
    rw [EventStore.eligible_iff hsending, EventStore.claimNotification_ok_iff
      (KeyedTable.get?_of_mem hrow) howner hseconds hwaiting]
    exact forall_deadline_iff

/-- An event fails at 08:00 UTC, by a clock that writes 10:00+02:00, and is due five seconds
later. -/
def skewedRetry : List LifecycleCall :=
  let clock : Datetime := ⟨8 * 3600 * 1000000, 2 * 3600 * 1000000⟩
  [.event (.createOrGet "e" "r1" [] false clock),
    .event (.transition "e" .admitted none none none none clock),
    .event (.scheduleRetry "e" "failed" none 5 3 none none clock)]

theorem listed_iff_claimable_skewedRetry :
    ∃ row ∈ (final EventStore.lifecycleStep .empty skewedRetry).events.rows,
      ((row ∈ (final EventStore.lifecycleStep .empty skewedRetry).recoverableEvents
            (utcSeconds (9 * 3600)) ↔
          ∃ result, (final EventStore.lifecycleStep .empty skewedRetry).acquireLease row.eventId
            "A" 30 (utcSeconds (9 * 3600)) = .ok result) ↔
        ∀ d, row.deadline = some d → ¬d.Skewed (utcSeconds (9 * 3600))) := by
  have hrow : ((final EventStore.lifecycleStep .empty skewedRetry).get "e").map
      EventRecord.state = some .retryableFailed := by decide +kernel
  obtain ⟨row, hget, hstate⟩ := Option.map_eq_some_iff.mp hrow
  have hmem := KeyedTable.mem_of_get? hget
  exact ⟨row, hmem, (listed_iff_claimable skewedRetry (utcSeconds (9 * 3600)) "A" 30 (by decide)
    (by norm_num)).1 row hmem (.inl hstate)⟩

/-- At 09:00 UTC the event can be leased but is not listed. -/
theorem listing_misses_skewedRetry :
    ¬∀ (calls : List LifecycleCall) (now : Datetime) (owner : String) (leaseSeconds : ℚ),
      isBlank owner = false → 0 < leaseSeconds →
      ∀ row ∈ (final EventStore.lifecycleStep .empty calls).events.rows,
        row.state = .retryableFailed →
        (row ∈ (final EventStore.lifecycleStep .empty calls).recoverableEvents now ↔
          ∃ result, (final EventStore.lifecycleStep .empty calls).acquireLease row.eventId owner
            leaseSeconds now = .ok result) := by
  intro h
  have hlisted : (final EventStore.lifecycleStep .empty skewedRetry).recoverableEvents
      (utcSeconds (9 * 3600)) = [] := by
    rw [← List.length_eq_zero_iff]
    decide +kernel
  have hleased : ((final EventStore.lifecycleStep .empty skewedRetry).acquireLease "e" "A" 30
      (utcSeconds (9 * 3600))).isOk = true := by decide +kernel
  have hrow : ((final EventStore.lifecycleStep .empty skewedRetry).get "e").map
      (fun row => (row.eventId, row.state)) = some ("e", .retryableFailed) := by decide +kernel
  obtain ⟨row, hget, hpair⟩ := Option.map_eq_some_iff.mp hrow
  obtain ⟨hid, hstate⟩ := Prod.mk.inj hpair
  have hiff := h skewedRetry (utcSeconds (9 * 3600)) "A" 30 (by decide) (by norm_num) row
    (KeyedTable.mem_of_get? hget) hstate
  rw [hlisted, hid] at hiff
  cases hresult : (final EventStore.lifecycleStep .empty skewedRetry).acquireLease "e" "A" 30
      (utcSeconds (9 * 3600)) with
  | error e =>
    rw [hresult] at hleased
    cases hleased
  | ok result => exact List.not_mem_nil (hiff.mpr ⟨result, hresult⟩)

end NetTools
