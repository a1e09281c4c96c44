import NetTools.EventStore.Events

/-!
# Notification outbox

`enqueue_notification`, `eligible_notifications`, `claim_notification` and
`finish_notification` of `event_store.py`.
-/

namespace NetTools

namespace OutboxRecord

def claimed (row : OutboxRecord) (owner : String) (leaseSeconds : ℚ) (now : Datetime) :
    OutboxRecord :=
  { row with
    state := .sending
    attempts := row.attempts + 1
    leaseOwner := some owner
    leaseExpiresAt := some (now.addSeconds leaseSeconds)
    leaseEpoch := row.leaseEpoch + 1
    retryAt := none
    updatedAt := now }

def finished (row : OutboxRecord) (state : OutboxState) (retryAt : Option Datetime)
    (error : Option String) (now : Datetime) : OutboxRecord :=
  { row with
    state
    leaseOwner := none
    leaseExpiresAt := none
    retryAt
    updatedAt := now
    lastError := error }

variable (row : OutboxRecord) (owner : String) (leaseSeconds : ℚ) (state : OutboxState)
  (retryAt : Option Datetime) (error : Option String) (now : Datetime)

lemma claimed_outboxId : (row.claimed owner leaseSeconds now).outboxId = row.outboxId := rfl

lemma finished_outboxId : (row.finished state retryAt error now).outboxId = row.outboxId := rfl

end OutboxRecord

namespace EventStore

def foreignKeyError : StoreError := ⟨.integrity, "FOREIGN KEY constraint failed"⟩

def findNotification (s : EventStore) (eventId destination kind : String) : Option OutboxRecord :=
  s.outbox.rows.find? (fun row =>
    decide (row.eventId = eventId ∧ row.destination = destination ∧ row.kind = kind))

def newNotification (s : EventStore) (eventId destination kind : String) (payload : Dict)
    (now : Datetime) : OutboxRecord :=
  { outboxId := s.nextOutboxId, eventId, destination, kind, payload, createdAt := now,
    updatedAt := now }

def enqueueNotification (s : EventStore) (eventId destination kind : String) (payload : Dict)
    (now : Datetime) : Except StoreError ((OutboxRecord × Bool) × EventStore) :=
  if isBlank destination ∨ isBlank kind then
    .error (storeError "outbox destination and kind must be non-empty")
  else
    match s.findNotification eventId destination kind with
    | some row => .ok ((row, false), s)
    | none =>
      if s.get eventId = none then .error foreignKeyError
      else
        let row := s.newNotification eventId destination kind payload now
        .ok ((row, true),
          { s with outbox := s.outbox.insert row, nextOutboxId := s.nextOutboxId + 1 })

/-- The filter of `eligible_notifications`, on the texts of the timestamps. -/
def eligible (now : Datetime) (row : OutboxRecord) : Bool :=
  (row.state = .pending && row.retryAt.all (fun t => t.isoLe now)) ||
    (row.state = .sending && row.leaseExpiresAt.any (fun t => t.isoLe now))

/-- `ORDER BY COALESCE(retry_at, lease_expires_at, created_at), outbox_id`. -/
def deliveryOrder (a b : OutboxRecord) : Prop :=
  let due := fun r : OutboxRecord => (r.retryAt.or r.leaseExpiresAt).getD r.createdAt
  (due a).isoLe (due b) = true ∧ (due a = due b → a.outboxId ≤ b.outboxId)

instance : DecidableRel deliveryOrder := fun _ _ => inferInstanceAs (Decidable (_ ∧ (_ → _)))

def eligibleNotifications (s : EventStore) (now : Datetime) (limit : Int) :
    Except StoreError (List OutboxRecord) :=
  if limit < 1 ∨ 1000 < limit then
    .error (storeError "notification eligibility limit must be from 1 through 1000")
  else .ok (((s.outbox.rows.filter (eligible now)).insertionSort deliveryOrder).take limit.toNat)

def claimNotification (s : EventStore) (outboxId : Nat) (owner : String) (leaseSeconds : ℚ)
    (now : Datetime) : Except StoreError (OutboxRecord × EventStore) :=
  if isBlank owner ∨ leaseSeconds ≤ 0 then
    .error (leaseError "outbox lease owner and duration must be valid")
  else
    match s.outbox.get? outboxId with
    | none => .error (storeError s!"outbox {outboxId} does not exist")
    | some row =>
      if row.state ∈ [OutboxState.sent, .deadLetter] then
        .error (leaseError s!"outbox {outboxId} is {row.state.text}")
      else if row.state = .pending ∧ row.retryAt.any (fun t => !t.le now) then
        .error (leaseError s!"outbox {outboxId} retry deadline has not elapsed")
      else if row.state = .sending ∧ row.leaseExpiresAt.any (fun t => !t.le now) then
        .error (leaseError s!"outbox {outboxId} is leased by {pyReprOption row.leaseOwner}")
      else
        .ok (row.claimed owner leaseSeconds now,
          { s with
            outbox := s.outbox.modify outboxId (fun r => r.claimed owner leaseSeconds now)
              (fun r => r.claimed_outboxId owner leaseSeconds now) })

def deliveryOutcome (row : OutboxRecord) (sent : Bool) (now : Datetime)
    (retryAfterSeconds : Option ℚ) (baseSeconds : ℚ) (maxAttempts : Int) :
    OutboxState × Option Datetime :=
  if sent then (.sent, none)
  else if maxAttempts ≤ row.attempts then (.deadLetter, none)
  else
    let delay := retryAfterSeconds.getD (baseSeconds * 2 ^ (row.attempts - 1))
    (.pending, some (now.addSeconds delay))

def finishNotification (s : EventStore) (outboxId : Nat) (sent : Bool) (error : Option String)
    (now : Datetime) (retryAfterSeconds : Option ℚ) (baseSeconds : ℚ) (maxAttempts : Int)
    (owner : Option String) (leaseEpoch : Option Int) :
    Except StoreError (OutboxRecord × EventStore) :=
  if baseSeconds ≤ 0 ∨ maxAttempts < 1 then
    .error (storeError "notification retry policy must be positive")
  else if retryAfterSeconds.any (fun d => d < 0) then
    .error (storeError "notification retry delay must not be negative")
  else
    match s.outbox.get? outboxId with
    | none => .error (storeError s!"outbox {outboxId} does not exist")
    | some row =>
      if row.state ≠ .sending then
        .error (transitionError s!"outbox {outboxId} is not sending")
      else if owner ≠ row.leaseOwner ∨ leaseEpoch ≠ some row.leaseEpoch then
        .error (leaseError (s!"outbox {outboxId} requires lease owner " ++
          s!"{pyReprOption row.leaseOwner} at epoch {row.leaseEpoch}"))
      else
        let (state, retryAt) :=
          deliveryOutcome row sent now retryAfterSeconds baseSeconds maxAttempts
        .ok (row.finished state retryAt error now,
          { s with
            outbox := s.outbox.modify outboxId (fun r => r.finished state retryAt error now)
              (fun r => r.finished_outboxId state retryAt error now) })

section cases

variable {s s' : EventStore} {eventId destination kind : String} {payload : Dict}
  {now : Datetime} {row : OutboxRecord}

theorem findNotification_eq_some (h : s.findNotification eventId destination kind = some row) :
    row ∈ s.outbox.rows ∧ row.eventId = eventId ∧ row.destination = destination ∧
      row.kind = kind := by
  have hkey := List.find?_some h
  rw [decide_eq_true_eq] at hkey
  exact ⟨List.mem_of_find?_eq_some h, hkey⟩

theorem findNotification_eq_none_iff :
    s.findNotification eventId destination kind = none ↔
      ∀ row ∈ s.outbox.rows,
        ¬(row.eventId = eventId ∧ row.destination = destination ∧ row.kind = kind) := by
  simp [findNotification, List.find?_eq_none]

theorem enqueueNotification_cases {created : Bool}
    (h : s.enqueueNotification eventId destination kind payload now =
      .ok ((row, created), s')) :
    (s.findNotification eventId destination kind = some row ∧ created = false ∧ s' = s) ∨
      (s.findNotification eventId destination kind = none ∧ created = true ∧
        row = s.newNotification eventId destination kind payload now ∧
        s' = { s with outbox := s.outbox.insert row, nextOutboxId := s.nextOutboxId + 1 }) := by
  unfold enqueueNotification at h
  split at h
  · cases h
  · cases hfind : s.findNotification eventId destination kind with
    | some found =>
      simp only [hfind] at h
      cases h
      exact .inl ⟨rfl, rfl, rfl⟩
    | none =>
      simp only [hfind] at h
      split at h
      · cases h
      · cases h
        exact .inr ⟨rfl, rfl, rfl, rfl⟩

end cases

end EventStore

/-- The row is pending and due, or its last delivery has lost its lease. -/
def OutboxRecord.Claimable (row : OutboxRecord) (now : Datetime) : Prop :=
  (row.state = .pending ∧ ∀ t, row.retryAt = some t → t.micros ≤ now.micros) ∨
    (row.state = .sending ∧ ∀ t, row.leaseExpiresAt = some t → t.micros ≤ now.micros)

namespace EventStore

section cases

variable {s s' : EventStore} {outboxId : Nat} {now : Datetime} {row : OutboxRecord}

lemma any_not_le_eq_false_iff {deadline : Option Datetime} :
    deadline.any (fun t => !t.le now) = false ↔ ∀ t, deadline = some t → t.micros ≤ now.micros := by
  cases deadline with
  | none => simp
  | some t => simp [Datetime.le]

theorem claimNotification_eq_ok_iff {owner : String} {leaseSeconds : ℚ} {claimed : OutboxRecord} :
    s.claimNotification outboxId owner leaseSeconds now = .ok (claimed, s') ↔
      isBlank owner = false ∧ 0 < leaseSeconds ∧
        ∃ row, s.outbox.get? outboxId = some row ∧ row.Claimable now ∧
          claimed = row.claimed owner leaseSeconds now ∧
          s' = { s with
            outbox := s.outbox.modify outboxId (fun r => r.claimed owner leaseSeconds now)
              (fun r => r.claimed_outboxId owner leaseSeconds now) } := by
  unfold claimNotification
  by_cases hvalid : isBlank owner = true ∨ leaseSeconds ≤ 0
  · rw [if_pos hvalid]
    constructor
    · intro h
      cases h
    · rintro ⟨howner, hseconds, -⟩
      rcases hvalid with hblank | hle
      · rw [howner] at hblank
        cases hblank
      · exact absurd hseconds (not_lt.mpr hle)
  rw [if_neg hvalid]
  push Not at hvalid
  have howner : isBlank owner = false := Bool.eq_false_iff.mpr hvalid.1
  cases hrow : s.outbox.get? outboxId with
  | none => simp
  | some row =>
    simp only [howner, hvalid.2, true_and, Option.some.injEq, exists_eq_left']
    rw [OutboxRecord.Claimable, ← any_not_le_eq_false_iff, ← any_not_le_eq_false_iff]
    cases hstate : row.state with
    | sent => simp
    | deadLetter => simp
    | pending =>
      cases hdue : row.retryAt.any (fun t => !t.le now) with
      | true => simp
      | false =>
        simp only [reduceCtorEq, Bool.false_eq_true, List.mem_cons, List.not_mem_nil, or_false,
          or_self, and_false, if_false, true_and, Except.ok.injEq, Prod.mk.injEq, false_and]
        exact and_congr eq_comm eq_comm
    | sending =>
      cases hfree : row.leaseExpiresAt.any (fun t => !t.le now) with
      | true => simp
      | false =>
        simp only [reduceCtorEq, Bool.false_eq_true, List.mem_cons, List.not_mem_nil, or_self,
          and_false, if_false, true_and, Except.ok.injEq, Prod.mk.injEq, false_and, false_or]
        exact and_congr eq_comm eq_comm

theorem finishNotification_cases {sent : Bool} {error : Option String}
    {retryAfterSeconds : Option ℚ} {baseSeconds : ℚ} {maxAttempts : Int} {owner : Option String}
    {leaseEpoch : Option Int} {finished : OutboxRecord}
    (h : s.finishNotification outboxId sent error now retryAfterSeconds baseSeconds maxAttempts
      owner leaseEpoch = .ok (finished, s')) :
    ∃ row, s.outbox.get? outboxId = some row ∧ row.state = .sending ∧ owner = row.leaseOwner ∧
      leaseEpoch = some row.leaseEpoch ∧
      ∃ state retryAt,
        (state, retryAt) =
          deliveryOutcome row sent now retryAfterSeconds baseSeconds maxAttempts ∧
        finished = row.finished state retryAt error now ∧
        s' = { s with
          outbox := s.outbox.modify outboxId (fun r => r.finished state retryAt error now)
            (fun r => r.finished_outboxId state retryAt error now) } := by
  unfold finishNotification at h
  split at h
  · cases h
  split at h
  · cases h
  cases hrow : s.outbox.get? outboxId with
  | none => simp [hrow] at h
  | some row =>
    simp only [hrow] at h
    split at h
    · cases h
    · rename_i hsending
      split at h
      · cases h
      · rename_i hfence
        push Not at hfence
        cases h
        exact ⟨row, rfl, not_not.mp hsending, hfence.1, hfence.2, _, _, rfl, rfl, rfl⟩

lemma deliveryOutcome_cases {row : OutboxRecord} {sent : Bool} {retryAfterSeconds : Option ℚ}
    {baseSeconds : ℚ} {maxAttempts : Int} {state : OutboxState} {retryAt : Option Datetime}
    (h : (state, retryAt) = deliveryOutcome row sent now retryAfterSeconds baseSeconds maxAttempts) :
    (state = .sent ∧ retryAt = none ∧ sent = true) ∨
      (state = .deadLetter ∧ retryAt = none ∧ sent = false ∧ maxAttempts ≤ row.attempts) ∨
      (state = .pending ∧ retryAt.isSome = true ∧ sent = false ∧ (row.attempts : Int) < maxAttempts) := by
  unfold deliveryOutcome at h
  cases sent with
  | true =>
    rw [if_pos rfl] at h
    cases h
    exact .inl ⟨rfl, rfl, rfl⟩
  | false =>
    rw [if_neg Bool.false_ne_true] at h
    split at h
    · rename_i hmax
      cases h
      exact .inr (.inl ⟨rfl, rfl, rfl, hmax⟩)
    · rename_i hmax
      cases h
      exact .inr (.inr ⟨rfl, rfl, rfl, not_le.mp hmax⟩)

end cases

end EventStore

end NetTools
