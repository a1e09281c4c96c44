import NetTools.EventStore.EventIdentity
import NetTools.EventStore.Schema

/-!
# Event lifecycle operations

`create_or_get`, `create_or_update`, `transition`, `schedule_retry`, `acquire_lease`,
`renew_lease` and the queries of `event_store.py`. Each mutation has one inversion lemma
that lists its guards and the row and attempt it writes.
-/

namespace NetTools

namespace EventRecord

/-- A lease that an owner holds at an epoch and that has not expired. -/
def HeldBy (row : EventRecord) (owner : String) (epoch : Int) (now : Datetime) : Prop :=
  row.leaseOwner = some owner ∧ row.leaseEpoch = epoch ∧
    ∃ expiry, row.leaseExpiresAt = some expiry ∧ now.micros < expiry.micros

def transitioned (row : EventRecord) (state : EventState) (reason ticketId : Option String)
    (now : Datetime) : EventRecord :=
  { row with
    state
    updatedAt := now
    ticketId := ticketId.or row.ticketId
    retryAt := none
    terminalReason := reason.or row.terminalReason
    leaseOwner := none
    leaseExpiresAt := none }

def retried (row : EventRecord) (state : EventState) (retryAt : Option Datetime) (reason : String)
    (ticketId : Option String) (now : Datetime) : EventRecord :=
  { row with
    state
    updatedAt := now
    retryAt
    ticketId := ticketId.or row.ticketId
    terminalReason := some reason
    leaseOwner := none
    leaseExpiresAt := none }

def leased (row : EventRecord) (owner : String) (leaseSeconds : ℚ) (now : Datetime) :
    EventRecord :=
  { row with
    state := .running
    updatedAt := now
    leaseOwner := some owner
    leaseExpiresAt := some (now.addSeconds leaseSeconds)
    leaseEpoch := row.leaseEpoch + 1
    retryAt := none }

def renewed (row : EventRecord) (leaseSeconds : ℚ) (now : Datetime) : EventRecord :=
  { row with leaseExpiresAt := some (now.addSeconds leaseSeconds), updatedAt := now }

variable (row : EventRecord) (state : EventState) (reason ticketId : Option String) (why owner : String)
  (retryAt : Option Datetime) (leaseSeconds : ℚ) (now : Datetime)

lemma transitioned_eventId : (row.transitioned state reason ticketId now).eventId = row.eventId :=
  rfl

lemma retried_eventId : (row.retried state retryAt why ticketId now).eventId = row.eventId := rfl

lemma leased_eventId : (row.leased owner leaseSeconds now).eventId = row.eventId := rfl

lemma renewed_eventId : (row.renewed leaseSeconds now).eventId = row.eventId := rfl

end EventRecord

/-- What `schedule_retry` returns. -/
structure RetryRecord where
  eventId : String
  attemptCount : Nat
  retryAt : Option Datetime
  terminal : Bool
deriving DecidableEq, Repr

def storeError (message : String) : StoreError := ⟨.eventStore, message⟩

def transitionError (message : String) : StoreError := ⟨.transition, message⟩

def leaseError (message : String) : StoreError := ⟨.lease, message⟩

namespace EventStore

/-- Kinds whose redelivery is compared with the stored payload even without `strict`. -/
def knownKind (payload : Dict) : Bool := isSyslog payload || isCampaignPhase payload

def newEvent (eventId device : String) (payload : Dict) (now : Datetime) : EventRecord :=
  { eventId, device, state := .received, payload, createdAt := now, updatedAt := now }

def insertReceived (s : EventStore) (eventId device : String) (payload : Dict) (now : Datetime) :
    EventStore :=
  { s with
    events := s.events.insert (newEvent eventId device payload now)
    attempts := s.attempts ++ [(eventId, { state := .received, recordedAt := now })] }

/-- `now` is the clock reading of the call. -/
def createOrGet (s : EventStore) (eventId device : String) (payload : Dict) (strict : Bool)
    (now : Datetime) : Except StoreError ((EventRecord × Bool) × EventStore) :=
  match s.get eventId with
  | some existing =>
    if existing.device ≠ device then
      .error (storeError s!"event {pyRepr eventId} was reused with different content")
    else if strict || knownKind existing.payload then
      match validatePayloadUpdate existing.payload payload with
      | .error e =>
        .error (storeError (s!"event {pyRepr eventId} " ++
          if strict then "was reused with different content" else s!"identity differs: {e}"))
      | .ok () => .ok ((existing, false), s)
    else .ok ((existing, false), s)
  | none =>
    .ok ((newEvent eventId device payload now, true), s.insertReceived eventId device payload now)

def createOrUpdate (s : EventStore) (eventId device : String) (payload : Dict)
    (now : Datetime) : Except StoreError ((EventRecord × Bool) × EventStore) :=
  match s.get eventId with
  | none =>
    .ok ((newEvent eventId device payload now, true), s.insertReceived eventId device payload now)
  | some row =>
    if row.device ≠ device then
      .error (storeError
        s!"event {pyRepr eventId} cannot move from device {pyRepr row.device} to {pyRepr device}")
    else
      match validatePayloadUpdate row.payload payload with
      | .error e => .error (storeError s!"event {pyRepr eventId} identity differs: {e}")
      | .ok () =>
        if row.state ≠ .received then
          .error (storeError
            s!"event {pyRepr eventId} payload is immutable in state {pyRepr row.state.text}")
        else
          .ok (({ row with payload, updatedAt := now }, false),
            s.writeEvent eventId (fun r => { r with payload, updatedAt := now }) (fun _ => rfl) [])

def validateLeaseFence (row : EventRecord) (owner : Option String) (leaseEpoch : Option Int)
    (now : Datetime) : Except StoreError Unit :=
  match row.leaseOwner with
  | none => .ok ()
  | some heldBy =>
    if row.leaseExpiresAt.all (fun expiry => expiry.le now) then
      .error (leaseError s!"event {row.eventId} lease expired and must be reacquired")
    else if owner ≠ some heldBy ∨ leaseEpoch ≠ some row.leaseEpoch then
      .error (leaseError (s!"event {row.eventId} requires lease owner {pyRepr heldBy} " ++
        s!"at epoch {row.leaseEpoch}"))
    else .ok ()

def transition (s : EventStore) (eventId : String) (state : EventState)
    (reason ticketId leaseOwner : Option String) (leaseEpoch : Option Int) (now : Datetime) :
    Except StoreError (EventRecord × EventStore) :=
  match s.get eventId with
  | none => .error (storeError s!"event {pyRepr eventId} does not exist")
  | some row =>
    if state ∉ row.state.allowedTransitions then
      .error (transitionError
        s!"cannot transition event {eventId} from {row.state.text} to {state.text}")
    else
      match validateLeaseFence row leaseOwner leaseEpoch now with
      | .error e => .error e
      | .ok () =>
        .ok (row.transitioned state reason ticketId now,
          s.writeEvent eventId (fun r => r.transitioned state reason ticketId now)
            (fun r => r.transitioned_eventId state reason ticketId now)
            [⟨state, now, reason⟩])

def retryCount (s : EventStore) (eventId : String) : Nat :=
  ((s.eventAttempts eventId).filter (fun a => a.state = .retryableFailed)).length

def scheduleRetry (s : EventStore) (eventId reason : String) (ticketId : Option String)
    (baseSeconds : ℚ) (maxAttempts : Int) (leaseOwner : Option String) (leaseEpoch : Option Int)
    (now : Datetime) : Except StoreError (RetryRecord × EventStore) :=
  if baseSeconds ≤ 0 ∨ maxAttempts < 1 then
    .error (storeError "retry policy must be positive")
  else
    match s.get eventId with
    | none => .error (storeError s!"event {pyRepr eventId} does not exist")
    | some row =>
      if row.state.workable = false then
        .error (transitionError s!"event {eventId} in state {row.state.text} cannot be retried")
      else
        match validateLeaseFence row leaseOwner leaseEpoch now with
        | .error e => .error e
        | .ok () =>
          let attempts := s.retryCount eventId + 1
          let target := if maxAttempts ≤ attempts then .deadLetter else .retryableFailed
          let retryAt := if maxAttempts ≤ attempts then none
            else some (now.addSeconds (baseSeconds * 2 ^ (attempts - 1)))
          .ok (⟨eventId, attempts, retryAt, target = .deadLetter⟩,
            s.writeEvent eventId (fun r => r.retried target retryAt reason ticketId now)
              (fun r => r.retried_eventId target ticketId reason retryAt now) [⟨target, now, some reason⟩])

def acquireLease (s : EventStore) (eventId owner : String) (leaseSeconds : ℚ) (now : Datetime) :
    Except StoreError (EventRecord × EventStore) :=
  if isBlank owner then .error (leaseError "lease owner must not be empty")
  else if leaseSeconds ≤ 0 then .error (leaseError "lease duration must be positive")
  else
    match s.get eventId with
    | none => .error (leaseError s!"event {pyRepr eventId} does not exist")
    | some row =>
      if row.state.workable = false then
        .error (leaseError s!"event {eventId} in state {row.state.text} cannot acquire a lease")
      else if row.state = .retryableFailed ∧ row.retryAt.all (fun t => !t.le now) then
        .error (leaseError s!"event {eventId} retry deadline has not elapsed")
      else if row.state = .running ∧ row.leaseExpiresAt.any (fun t => !t.le now) then
        .error (leaseError (s!"event {eventId} lease is held by {pyReprOption row.leaseOwner} " ++
          "until " ++ (row.leaseExpiresAt.map Datetime.isoformat).getD "None"))
      else
        .ok (row.leased owner leaseSeconds now,
          s.writeEvent eventId (fun r => r.leased owner leaseSeconds now)
          (fun r => r.leased_eventId owner leaseSeconds now)
            [⟨.running, now, some s!"lease acquired by {owner}"⟩])

def renewLease (s : EventStore) (eventId owner : String) (leaseEpoch : Int) (leaseSeconds : ℚ)
    (now : Datetime) : Except StoreError (EventRecord × EventStore) :=
  if isBlank owner ∨ leaseSeconds ≤ 0 then
    .error (leaseError "lease owner and duration must be positive")
  else
    match s.get eventId with
    | none => .error (leaseError s!"event {pyRepr eventId} does not exist")
    | some row =>
      if row.state ≠ .running then .error (leaseError s!"event {eventId} is not running")
      else
        match validateLeaseFence row (some owner) (some leaseEpoch) now with
        | .error e => .error e
        | .ok () =>
          .ok (row.renewed leaseSeconds now,
            s.writeEvent eventId (fun r => r.renewed leaseSeconds now)
          (fun r => r.renewed_eventId leaseSeconds now) [])

/-- The filter of `recoverable_events`, on the texts of the timestamps. -/
def recoverable (now : Datetime) (row : EventRecord) : Bool :=
  (row.state = .retryableFailed && row.retryAt.any (fun t => t.isoLe now)) ||
    (row.state = .running && row.leaseExpiresAt.any (fun t => t.isoLe now))

/-- `ORDER BY COALESCE(retry_at, lease_expires_at), event_id`. -/
def recoveryOrder (a b : EventRecord) : Prop :=
  let due := fun r : EventRecord => r.retryAt.or r.leaseExpiresAt
  Datetime.isoLeOption (due a) (due b) = true ∧ (due a = due b → a.eventId ≤ b.eventId)

instance : DecidableRel recoveryOrder := fun _ _ => inferInstanceAs (Decidable (_ ∧ (_ → _)))

def recoverableEvents (s : EventStore) (now : Datetime) : List EventRecord :=
  (s.events.rows.filter (recoverable now)).insertionSort recoveryOrder

/-- `ORDER BY updated_at DESC, event_id ASC`. -/
def newestFirst (a b : EventRecord) : Prop :=
  b.updatedAt.isoKey < a.updatedAt.isoKey ∨
    (a.updatedAt = b.updatedAt ∧ a.eventId ≤ b.eventId)

instance : DecidableRel newestFirst := fun _ _ => inferInstanceAs (Decidable (_ ∨ _))

/-- The `WHERE` clause of `list_events`. -/
def listed (state : Option EventState) (device : Option String) (row : EventRecord) : Bool :=
  state.all (fun st => row.state = st) && device.all (fun d => row.device = d)

def listEvents (s : EventStore) (state : Option EventState) (device : Option String)
    (limit : Int) : Except StoreError (List EventRecord) :=
  if limit < 0 ∨ 1000 < limit then
    .error (storeError "event list limit must be an integer from 0 through 1000")
  else
    .ok (((s.events.rows.filter (listed state device)).insertionSort newestFirst).take limit.toNat)

lemma validateLeaseFence_eq_ok_iff {row : EventRecord} {owner : Option String}
    {leaseEpoch : Option Int} {now : Datetime} :
    validateLeaseFence row owner leaseEpoch now = .ok () ↔
      row.leaseOwner = none ∨
        ∃ o k, owner = some o ∧ leaseEpoch = some k ∧ row.HeldBy o k now := by
  unfold validateLeaseFence EventRecord.HeldBy
  cases hheld : row.leaseOwner with
  | none => simp
  | some heldBy =>
    cases hexpiry : row.leaseExpiresAt with
    | none => simp
    | some expiry =>
      by_cases hdue : expiry.micros ≤ now.micros
      · have hlive : ¬now.micros < expiry.micros := by omega
        simp [Datetime.le, hdue, hlive]
      · have hlive : now.micros < expiry.micros := by omega
        by_cases hmatch : owner = some heldBy ∧ leaseEpoch = some row.leaseEpoch
        · simp [Datetime.le, hdue, hmatch.1, hmatch.2, hlive]
        · have hmismatch : owner ≠ some heldBy ∨ leaseEpoch ≠ some row.leaseEpoch := by tauto
          simp only [Datetime.le, hdue, hmismatch, Option.all_some, decide_false, if_true,
            Bool.false_eq_true, if_false, false_iff, reduceCtorEq, Option.some.injEq, false_or]
          rintro ⟨o, k, ho, hk, hown, hepoch, -⟩
          exact hmatch ⟨by rw [ho, hown], by rw [hk, hepoch]⟩

variable {s s' : EventStore} {eventId owner reason : String} {now : Datetime} {row : EventRecord}
  {ticketId leaseOwner : Option String} {leaseEpoch : Option Int}

theorem transition_cases {state : EventState} {why : Option String} {updated : EventRecord}
    (h : s.transition eventId state why ticketId leaseOwner leaseEpoch now = .ok (updated, s')) :
    ∃ row, s.get eventId = some row ∧ state ∈ row.state.allowedTransitions ∧
      validateLeaseFence row leaseOwner leaseEpoch now = .ok () ∧
      updated = row.transitioned state why ticketId now ∧
      s' = s.writeEvent eventId (fun r => r.transitioned state why ticketId now)
        (fun r => r.transitioned_eventId state why ticketId now)
        [⟨state, now, why⟩] := by
  unfold transition at h
  cases hrow : s.get eventId with
  | none => simp [hrow] at h
  | some row =>
    simp only [hrow] at h
    split at h
    · cases h
    · rename_i hallowed
      split at h
      · cases h
      · rename_i hfence
        cases h
        exact ⟨row, rfl, not_not.mp hallowed, hfence, rfl, rfl⟩

theorem scheduleRetry_cases {baseSeconds : ℚ} {maxAttempts : Int} {record : RetryRecord}
    (h : s.scheduleRetry eventId reason ticketId baseSeconds maxAttempts leaseOwner leaseEpoch now =
      .ok (record, s')) :
    0 < baseSeconds ∧ 1 ≤ maxAttempts ∧
    ∃ row, s.get eventId = some row ∧ row.state.workable = true ∧
      validateLeaseFence row leaseOwner leaseEpoch now = .ok () ∧
      ∃ target retryAt,
        (target = .deadLetter ∧ retryAt = none ∨
          target = .retryableFailed ∧
            retryAt = some (now.addSeconds (baseSeconds * 2 ^ s.retryCount eventId)) ∧
            (s.retryCount eventId : Int) + 1 < maxAttempts) ∧
        record.retryAt = retryAt ∧ record.terminal = decide (target = .deadLetter) ∧
        s' = s.writeEvent eventId (fun r => r.retried target retryAt reason ticketId now)
          (fun r => r.retried_eventId target ticketId reason retryAt now) [⟨target, now, some reason⟩] := by
  unfold scheduleRetry at h
  split at h
  · cases h
  · rename_i hpolicy
    have hbase : 0 < baseSeconds := not_le.mp (fun hle => hpolicy (.inl hle))
    have hmax : 1 ≤ maxAttempts := not_lt.mp (fun hlt => hpolicy (.inr hlt))
    refine ⟨hbase, hmax, ?_⟩
    cases hrow : s.get eventId with
    | none => simp [hrow] at h
    | some row =>
      simp only [hrow] at h
      split at h
      · cases h
      · rename_i hworkable
        split at h
        · cases h
        · rename_i hfence
          cases h
          refine ⟨row, rfl, by simpa using hworkable, hfence, _, _, ?_, rfl, rfl, rfl⟩
          by_cases hlast : maxAttempts ≤ s.retryCount eventId + 1
          · exact .inl (by simp [hlast])
          · refine .inr ⟨by simp [hlast], by simp [hlast], not_le.mp hlast⟩

theorem acquireLease_cases {leaseSeconds : ℚ} {updated : EventRecord}
    (h : s.acquireLease eventId owner leaseSeconds now = .ok (updated, s')) :
    ∃ row, s.get eventId = some row ∧ row.state.workable = true ∧
      updated = row.leased owner leaseSeconds now ∧
      s' = s.writeEvent eventId (fun r => r.leased owner leaseSeconds now)
          (fun r => r.leased_eventId owner leaseSeconds now)
        [⟨.running, now, some s!"lease acquired by {owner}"⟩] := by
  unfold acquireLease at h
  split at h
  · cases h
  · split at h
    · cases h
    · cases hrow : s.get eventId with
      | none => simp [hrow] at h
      | some row =>
        simp only [hrow] at h
        split at h
        · cases h
        · rename_i hworkable
          split at h
          · cases h
          · split at h
            · cases h
            · cases h
              exact ⟨row, rfl, by simpa using hworkable, rfl, rfl⟩

theorem renewLease_cases {epoch : Int} {leaseSeconds : ℚ} {updated : EventRecord}
    (h : s.renewLease eventId owner epoch leaseSeconds now = .ok (updated, s')) :
    isBlank owner = false ∧ 0 < leaseSeconds ∧
    ∃ row, s.get eventId = some row ∧ row.state = .running ∧
      validateLeaseFence row (some owner) (some epoch) now = .ok () ∧
      updated = row.renewed leaseSeconds now ∧
      s' = s.writeEvent eventId (fun r => r.renewed leaseSeconds now)
          (fun r => r.renewed_eventId leaseSeconds now) [] := by
  unfold renewLease at h
  split at h
  · cases h
  · rename_i hvalid
    have howner : isBlank owner = false := by simpa using fun hb => hvalid (.inl hb)
    have hseconds : 0 < leaseSeconds := not_le.mp (fun hle => hvalid (.inr hle))
    refine ⟨howner, hseconds, ?_⟩
    cases hrow : s.get eventId with
    | none => simp [hrow] at h
    | some row =>
      simp only [hrow] at h
      split at h
      · cases h
      · rename_i hrunning
        split at h
        · cases h
        · rename_i hfence
          cases h
          exact ⟨row, rfl, not_not.mp hrunning, hfence, rfl, rfl⟩

theorem createOrGet_cases {device : String} {payload : Dict} {strict : Bool}
    {result : EventRecord × Bool}
    (h : s.createOrGet eventId device payload strict now = .ok (result, s')) :
    (s.get eventId = some result.1 ∧ result.2 = false ∧ result.1.device = device ∧
        (knownKind result.1.payload = true →
          validatePayloadUpdate result.1.payload payload = .ok ()) ∧ s' = s) ∨
      (s.get eventId = none ∧ result = (newEvent eventId device payload now, true) ∧
        s' = s.insertReceived eventId device payload now) := by
  unfold createOrGet at h
  cases hrow : s.get eventId with
  | none =>
    simp only [hrow] at h
    cases h
    exact .inr ⟨rfl, rfl, rfl⟩
  | some row =>
    simp only [hrow] at h
    split at h
    · cases h
    · rename_i hdevice
      split at h
      · split at h
        · cases h
        · rename_i hidentity
          cases h
          exact .inl ⟨rfl, rfl, not_not.mp hdevice, fun _ => hidentity, rfl⟩
      · rename_i hunchecked
        cases h
        exact .inl ⟨rfl, rfl, not_not.mp hdevice,
          fun hk => absurd (by simp [hk]) hunchecked, rfl⟩

theorem createOrUpdate_cases {device : String} {payload : Dict} {result : EventRecord × Bool}
    (h : s.createOrUpdate eventId device payload now = .ok (result, s')) :
    (s.get eventId = none ∧ s' = s.insertReceived eventId device payload now) ∨
      ∃ row, s.get eventId = some row ∧ row.state = .received ∧
        s' = s.writeEvent eventId (fun r => { r with payload, updatedAt := now })
          (fun _ => rfl) [] := by
  unfold createOrUpdate at h
  cases hrow : s.get eventId with
  | none =>
    simp only [hrow] at h
    cases h
    exact .inl ⟨rfl, rfl⟩
  | some row =>
    simp only [hrow] at h
    split at h
    · cases h
    · split at h
      · cases h
      · split at h
        · cases h
        · rename_i hreceived
          cases h
          exact .inr ⟨row, rfl, not_not.mp hreceived, rfl⟩

lemma createOrGet_eq_ok {device : String} {payload : Dict} (hrow : s.get eventId = some row)
    (hdevice : row.device = device)
    (hidentity : knownKind row.payload = true →
      validatePayloadUpdate row.payload payload = .ok ()) :
    s.createOrGet eventId device payload false now = .ok ((row, false), s) := by
  by_cases hk : knownKind row.payload = true
  · simp [createOrGet, hrow, hdevice, hk, hidentity hk]
  · simp [createOrGet, hrow, hdevice, hk]

lemma transition_eq_ok {state : EventState} {why : Option String}
    (hrow : s.get eventId = some row) (hallowed : state ∈ row.state.allowedTransitions)
    (hfence : validateLeaseFence row leaseOwner leaseEpoch now = .ok ()) :
    s.transition eventId state why ticketId leaseOwner leaseEpoch now =
      .ok (row.transitioned state why ticketId now,
        s.writeEvent eventId (fun r => r.transitioned state why ticketId now)
        (fun r => r.transitioned_eventId state why ticketId now)
          [⟨state, now, why⟩]) := by
  simp [transition, hrow, hallowed, hfence]

lemma exists_transition_eq_ok (state : EventState) (why ticketId : Option String)
    (hrow : s.get eventId = some row) (hallowed : state ∈ row.state.allowedTransitions)
    (hfence : validateLeaseFence row leaseOwner leaseEpoch now = .ok ()) :
    ∃ s', s.transition eventId state why ticketId leaseOwner leaseEpoch now =
        .ok (row.transitioned state why ticketId now, s') ∧
      s'.get eventId = some (row.transitioned state why ticketId now) :=
  ⟨_, transition_eq_ok hrow hallowed hfence, get_writeEvent_self hrow⟩

lemma exists_scheduleRetry_eq_ok {baseSeconds : ℚ} {maxAttempts : Int}
    (hbase : 0 < baseSeconds) (hmax : 1 ≤ maxAttempts) (hrow : s.get eventId = some row)
    (hworkable : row.state.workable = true)
    (hfence : validateLeaseFence row leaseOwner leaseEpoch now = .ok ()) :
    ∃ result, s.scheduleRetry eventId reason ticketId baseSeconds maxAttempts leaseOwner leaseEpoch
      now = .ok result := by
  have hpolicy : ¬(baseSeconds ≤ 0 ∨ maxAttempts < 1) := by
    rintro (hle | hlt)
    · exact absurd hbase (not_lt.mpr hle)
    · omega
  simp only [scheduleRetry, hpolicy, if_false, hrow, hworkable, hfence]
  exact ⟨_, rfl⟩

lemma renewLease_eq_ok {epoch : Int} {leaseSeconds : ℚ} (howner : isBlank owner = false)
    (hseconds : 0 < leaseSeconds) (hrow : s.get eventId = some row)
    (hrunning : row.state = .running)
    (hfence : validateLeaseFence row (some owner) (some epoch) now = .ok ()) :
    s.renewLease eventId owner epoch leaseSeconds now =
      .ok (row.renewed leaseSeconds now,
        s.writeEvent eventId (fun r => r.renewed leaseSeconds now)
          (fun r => r.renewed_eventId leaseSeconds now) []) := by
  simp [renewLease, howner, not_le.mpr hseconds, hrow, hrunning, hfence]

lemma acquireLease_eq_ok {leaseSeconds : ℚ} (howner : isBlank owner = false)
    (hseconds : 0 < leaseSeconds) (hrow : s.get eventId = some row)
    (hworkable : row.state.workable = true)
    (hdue : row.state = .retryableFailed → ∃ t, row.retryAt = some t ∧ t.micros ≤ now.micros)
    (hfree : row.state = .running → ∀ t, row.leaseExpiresAt = some t → t.micros ≤ now.micros) :
    s.acquireLease eventId owner leaseSeconds now =
      .ok (row.leased owner leaseSeconds now,
        s.writeEvent eventId (fun r => r.leased owner leaseSeconds now)
          (fun r => r.leased_eventId owner leaseSeconds now)
          [⟨.running, now, some s!"lease acquired by {owner}"⟩]) := by
  have hretry : ¬(row.state = .retryableFailed ∧ row.retryAt.all (fun t => !t.le now) = true) := by
    rintro ⟨hstate, hall⟩
    obtain ⟨t, ht, hle⟩ := hdue hstate
    simp [ht, Datetime.le, hle] at hall
  have hlease : ¬(row.state = .running ∧
      row.leaseExpiresAt.any (fun t => !t.le now) = true) := by
    rintro ⟨hstate, hany⟩
    cases hexpiry : row.leaseExpiresAt with
    | none => simp [hexpiry] at hany
    | some t => simp [hexpiry, Datetime.le, hfree hstate t hexpiry] at hany
  simp [acquireLease, howner, not_le.mpr hseconds, hrow, hworkable, hretry, hlease]

lemma get_insertReceived_self {device : String} {payload : Dict} (h : s.get eventId = none) :
    (s.insertReceived eventId device payload now).get eventId =
      some (newEvent eventId device payload now) :=
  KeyedTable.get?_insert_self h

lemma get_insertReceived_of_ne {device other : String} {payload : Dict} (h : other ≠ eventId) :
    (s.insertReceived eventId device payload now).get other = s.get other :=
  KeyedTable.get?_insert_of_ne h.symm

lemma view_insertReceived_of_ne {device other : String} {payload : Dict} (h : other ≠ eventId) :
    (s.insertReceived eventId device payload now).view other = s.view other := by
  have hattempts : (s.insertReceived eventId device payload now).eventAttempts other =
      s.eventAttempts other := by
    simp [eventAttempts, insertReceived, List.filter_append, h.symm]
  rw [view, get_insertReceived_of_ne h, hattempts, view]

end EventStore

end NetTools
