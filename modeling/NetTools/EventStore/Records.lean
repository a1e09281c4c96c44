import NetTools.EventStore.Outbox
import NetTools.Library.Runs

/-!
# Records kept beside the lifecycle

Card views and receipts, operator callbacks and the two shadow logs of `event_store.py`.
-/

namespace NetTools

namespace EventStore

def saveTelegramCardState (s : EventStore) (eventId : String) (payload : Dict)
    (dirtyAt : Option Datetime) (now : Datetime) :
    Except StoreError (TelegramCardState × EventStore) :=
  if s.get eventId = none then .error foreignKeyError
  else
    let row : TelegramCardState := { eventId, payload, dirtyAt, updatedAt := now }
    .ok (row, { s with
      cardStates := s.cardStates.upsert row
        (fun r => { r with payload, dirtyAt, updatedAt := now }) (fun _ => rfl) })

def recordTelegramCard (s : EventStore) (eventId chatId : String) (messageId : Int)
    (renderHash : String) (now : Datetime) :
    Except StoreError (TelegramCardReceipt × EventStore) :=
  if chatId = "" ∨ messageId ≤ 0 ∨ renderHash = "" then
    .error (storeError "Telegram card receipt fields must be valid")
  else if s.get eventId = none then .error foreignKeyError
  else
    let row : TelegramCardReceipt := { eventId, chatId, messageId, renderHash, updatedAt := now }
    .ok (row, { s with
      cardReceipts := s.cardReceipts.upsert row
        (fun r => { r with messageId, renderHash, updatedAt := now }) (fun _ => rfl) })

def recordOperatorCallback (s : EventStore) (callbackId eventId : String) (result : Dict)
    (now : Datetime) : Except StoreError (OperatorCallbackResult × EventStore) :=
  if callbackId = "" then .error (storeError "operator callback record is invalid")
  else
    match s.operatorCallbacks.get? callbackId with
    | some row => .ok (row, s)
    | none =>
      let row : OperatorCallbackResult := { callbackId, eventId, result, recordedAt := now }
      .ok (row, { s with operatorCallbacks := s.operatorCallbacks.insert row })

def recordAdmissionShadow (s : EventStore) (eventId : String) (legacyAdmitted : Bool)
    (legacyReason : Option String) (now : Datetime) :
    Except StoreError (AdmissionShadowRecord × EventStore) :=
  match s.get eventId with
  | none => .error (storeError s!"event {pyRepr eventId} does not exist")
  | some current =>
    let record : AdmissionShadowRecord :=
      { eventId, legacyAdmitted, legacyReason, durableState := some current.state,
        recordedAt := now }
    .ok (record, { s with admissionShadow := s.admissionShadow ++ [record] })

def recordNarrowingShadow (s : EventStore) (eventId mode : String) (candidates : List Dict)
    (decision : Option Dict) (refusal : Option String) (now : Datetime) :
    Except StoreError (NarrowingShadowRecord × EventStore) :=
  if mode ≠ "shadow" then
    .error (storeError "only shadow narrowing mode can be persisted")
  else if s.get eventId = none then
    .error (storeError s!"event {pyRepr eventId} does not exist")
  else
    let record : NarrowingShadowRecord :=
      { eventId, candidates, decision, refusal, recordedAt := now }
    .ok (record, { s with narrowingShadow := s.narrowingShadow ++ [record] })

def activeIncident (s : EventStore) (identity : IncidentIdentity) : Option IncidentRow :=
  s.incidents.rows.find? (fun row =>
    decide (row.device = identity.device ∧ row.causeRung = identity.causeRung ∧
      row.causeSubject = identity.causeSubject ∧ row.state ∈ [.opened, .acknowledged]))

/-- `newId` is the fresh `uuid4` of the call. -/
def createOrJoinIncident (s : EventStore) (identity : IncidentIdentity) (eventId newId : String)
    (now : Datetime) : Except StoreError ((IncidentRow × Bool) × EventStore) :=
  if s.get eventId = none then
    .error (storeError s!"event {pyRepr eventId} does not exist")
  else
    let existing := s.activeIncident identity
    let created : IncidentRow :=
      { incidentId := newId, device := identity.device, causeRung := identity.causeRung,
        causeSubject := identity.causeSubject, state := .opened, openedAt := now,
        updatedAt := now }
    let incident := existing.getD created
    let opened : EventStore :=
      if existing = none then
        { s with
          incidents := s.incidents.insert created
          incidentTransitions := s.incidentTransitions ++
            [⟨newId, .opened, now, some "incident created"⟩] }
      else s
    if existing = none ∧ (s.incidents.get? newId).isSome then
      .error ⟨.integrity, "UNIQUE constraint failed: incidents.incident_id"⟩
    else if (s.incidentEvents.get? eventId).any
        (fun prior => prior.incidentId ≠ incident.incidentId)
    then .error (storeError s!"event {pyRepr eventId} already belongs to another incident")
    else
      .ok (({ incident with updatedAt := now }, existing = none),
        { opened with
          incidentEvents := opened.incidentEvents.insert ⟨incident.incidentId, eventId, now⟩
          incidents := opened.incidents.modify incident.incidentId
            (fun row => { row with updatedAt := now }) (fun _ => rfl) })

end EventStore

inductive SideCall where
  | enqueue (eventId destination kind : String) (payload : Dict) (now : Datetime)
  | claim (outboxId : Nat) (owner : String) (leaseSeconds : ℚ) (now : Datetime)
  | finish (outboxId : Nat) (sent : Bool) (error : Option String) (now : Datetime)
      (retryAfterSeconds : Option ℚ) (baseSeconds : ℚ) (maxAttempts : Int)
      (owner : Option String) (leaseEpoch : Option Int)
  | saveCardState (eventId : String) (payload : Dict) (dirtyAt : Option Datetime) (now : Datetime)
  | recordCard (eventId chatId : String) (messageId : Int) (renderHash : String) (now : Datetime)
  | recordCallback (callbackId eventId : String) (result : Dict) (now : Datetime)
  | admissionShadow (eventId : String) (admitted : Bool) (reason : Option String) (now : Datetime)
  | narrowingShadow (eventId mode : String) (candidates : List Dict) (decision : Option Dict)
      (refusal : Option String) (now : Datetime)
  | joinIncident (identity : IncidentIdentity) (eventId newId : String) (now : Datetime)

namespace EventStore

def after {α : Type} (s : EventStore) (result : Except StoreError (α × EventStore)) : EventStore :=
  match result with
  | .ok (_, s') => s'
  | .error _ => s

def sideStep (s : EventStore) : SideCall → EventStore
  | .enqueue eventId destination kind payload now =>
    s.after (s.enqueueNotification eventId destination kind payload now)
  | .claim outboxId owner leaseSeconds now =>
    s.after (s.claimNotification outboxId owner leaseSeconds now)
  | .finish outboxId sent error now retryAfterSeconds baseSeconds maxAttempts owner leaseEpoch =>
    s.after (s.finishNotification outboxId sent error now retryAfterSeconds baseSeconds
      maxAttempts owner leaseEpoch)
  | .saveCardState eventId payload dirtyAt now =>
    s.after (s.saveTelegramCardState eventId payload dirtyAt now)
  | .recordCard eventId chatId messageId renderHash now =>
    s.after (s.recordTelegramCard eventId chatId messageId renderHash now)
  | .recordCallback callbackId eventId result now =>
    s.after (s.recordOperatorCallback callbackId eventId result now)
  | .admissionShadow eventId admitted reason now =>
    s.after (s.recordAdmissionShadow eventId admitted reason now)
  | .narrowingShadow eventId mode candidates decision refusal now =>
    s.after (s.recordNarrowingShadow eventId mode candidates decision refusal now)
  | .joinIncident identity eventId newId now =>
    s.after (s.createOrJoinIncident identity eventId newId now)

def SameEvents (s t : EventStore) : Prop := t.events = s.events ∧ t.attempts = s.attempts

lemma SameEvents.refl (s : EventStore) : SameEvents s s := ⟨rfl, rfl⟩

lemma SameEvents.trans {s t u : EventStore} (h : SameEvents s t) (h' : SameEvents t u) :
    SameEvents s u :=
  ⟨h'.1.trans h.1, h'.2.trans h.2⟩

lemma SameEvents.get {s t : EventStore} (h : SameEvents s t) (eventId : String) :
    t.get eventId = s.get eventId := by
  rw [EventStore.get, h.1, EventStore.get]

lemma SameEvents.after {α : Type} {s : EventStore} {result : Except StoreError (α × EventStore)}
    (h : ∀ a s', result = .ok (a, s') → SameEvents s s') : SameEvents s (s.after result) := by
  cases hresult : result with
  | error e => exact .refl s
  | ok pair => exact h pair.1 pair.2 (by rw [hresult])

theorem sideStep_sameEvents (s : EventStore) (call : SideCall) :
    SameEvents s (s.sideStep call) := by
  cases call with
  | enqueue =>
    refine SameEvents.after (fun a s' h => ?_)
    simp only [enqueueNotification] at h
    split at h
    · cases h
    · split at h
      · cases h; exact ⟨rfl, rfl⟩
      · split at h <;> cases h
        exact ⟨rfl, rfl⟩
  | claim =>
    refine SameEvents.after (fun a s' h => ?_)
    simp only [claimNotification] at h
    repeat' split at h
    all_goals cases h
    exact ⟨rfl, rfl⟩
  | finish =>
    refine SameEvents.after (fun a s' h => ?_)
    simp only [finishNotification] at h
    repeat' split at h
    all_goals cases h
    exact ⟨rfl, rfl⟩
  | saveCardState =>
    refine SameEvents.after (fun a s' h => ?_)
    simp only [saveTelegramCardState] at h
    split at h <;> cases h
    exact ⟨rfl, rfl⟩
  | recordCard =>
    refine SameEvents.after (fun a s' h => ?_)
    simp only [recordTelegramCard] at h
    repeat' split at h
    all_goals cases h
    exact ⟨rfl, rfl⟩
  | recordCallback =>
    refine SameEvents.after (fun a s' h => ?_)
    simp only [recordOperatorCallback] at h
    split at h
    · cases h
    · split at h <;> cases h <;> exact ⟨rfl, rfl⟩
  | admissionShadow =>
    refine SameEvents.after (fun a s' h => ?_)
    simp only [recordAdmissionShadow] at h
    split at h <;> cases h
    exact ⟨rfl, rfl⟩
  | narrowingShadow =>
    refine SameEvents.after (fun a s' h => ?_)
    simp only [recordNarrowingShadow] at h
    repeat' split at h
    all_goals cases h
    exact ⟨rfl, rfl⟩
  | joinIncident =>
    refine SameEvents.after (fun a s' h => ?_)
    simp only [createOrJoinIncident] at h
    split at h
    · cases h
    · split at h
      · cases h
      · split at h
        · cases h
        · cases h
          split <;> exact ⟨rfl, rfl⟩

theorem sideRun_sameEvents (s : EventStore) (calls : List SideCall) :
    SameEvents s (Runs.final sideStep s calls) := by
  induction calls generalizing s with
  | nil => exact .refl s
  | cons call calls ih => exact (s.sideStep_sameEvents call).trans (ih _)

end EventStore

end NetTools
