import NetTools.Library.KeyedTable
import NetTools.Python.Datetime
import NetTools.Python.Value

/-!
# Tables of the event store

The rows of `event_store.py` and the store that holds them. A column that SQLite declares
as a primary key is the key of a `KeyedTable`; an autoincremented log is a list in the order
of its ids. A failing call rolls back, so that an operation is a function from a store to an
error or to a result and the next store.
-/

namespace NetTools

inductive EventState where
  | received
  | admitted
  | running
  | completed
  | retryableFailed
  | terminalFailed
  | deadLetter
deriving DecidableEq, Repr

namespace EventState

/-- The text stored in the `state` column. -/
def text : EventState → String
  | received => "received"
  | admitted => "admitted"
  | running => "running"
  | completed => "completed"
  | retryableFailed => "retryable_failed"
  | terminalFailed => "terminal_failed"
  | deadLetter => "dead_letter"

def allowedTransitions : EventState → List EventState
  | received => [admitted, terminalFailed]
  | admitted => [running, retryableFailed, terminalFailed]
  | running => [completed, retryableFailed, terminalFailed]
  | retryableFailed => [admitted, deadLetter]
  | terminalFailed => [deadLetter]
  | completed => []
  | deadLetter => []

def workable (s : EventState) : Bool := s ∈ [admitted, running, retryableFailed]

end EventState

/-- A row of `events`. -/
structure EventRecord where
  eventId : String
  device : String
  state : EventState
  payload : Dict
  createdAt : Datetime
  updatedAt : Datetime
  ticketId : Option String := none
  leaseOwner : Option String := none
  leaseExpiresAt : Option Datetime := none
  leaseEpoch : Int := 0
  terminalReason : Option String := none
  retryAt : Option Datetime := none

/-- One recorded lifecycle transition, as `event_attempts` stores it for an event. -/
structure EventAttempt where
  state : EventState
  recordedAt : Datetime
  reason : Option String := none
deriving DecidableEq, Repr

inductive OutboxState where
  | pending
  | sending
  | sent
  | deadLetter
deriving DecidableEq, Repr

/-- The text stored in the `state` column of the outbox. -/
def OutboxState.text : OutboxState → String
  | pending => "pending"
  | sending => "sending"
  | sent => "sent"
  | deadLetter => "dead_letter"

/-- A row of `notification_outbox`. -/
structure OutboxRecord where
  outboxId : Nat
  eventId : String
  destination : String
  kind : String
  payload : Dict
  state : OutboxState := .pending
  attempts : Nat := 0
  leaseOwner : Option String := none
  leaseExpiresAt : Option Datetime := none
  leaseEpoch : Int := 0
  retryAt : Option Datetime := none
  createdAt : Datetime
  updatedAt : Datetime
  lastError : Option String := none

/-- A row of `telegram_card_receipts`: the one editable message of an event in a chat. -/
structure TelegramCardReceipt where
  eventId : String
  chatId : String
  messageId : Int
  renderHash : String
  updatedAt : Datetime
deriving DecidableEq, Repr

/-- A row of `telegram_card_states`: the view of an event that waits for its card. -/
structure TelegramCardState where
  eventId : String
  payload : Dict
  dirtyAt : Option Datetime
  updatedAt : Datetime

/-- A row of `operator_callbacks`. -/
structure OperatorCallbackResult where
  callbackId : String
  eventId : String
  result : Dict
  recordedAt : Datetime

/-- A row of `admission_shadow`. -/
structure AdmissionShadowRecord where
  eventId : String
  legacyAdmitted : Bool
  legacyReason : Option String
  durableState : Option EventState
  recordedAt : Datetime

/-- A row of `narrowing_shadow_records`. Its `mode` and `active` columns are fixed by checks. -/
structure NarrowingShadowRecord where
  eventId : String
  candidates : List Dict
  decision : Option Dict
  refusal : Option String
  recordedAt : Datetime

/-- The states of an incident; `opened` is stored as `open`. -/
inductive IncidentState where
  | opened
  | acknowledged
  | resolved
  | archived
deriving DecidableEq, Repr

/-- The text stored in the `state` column of an incident. -/
def IncidentState.text : IncidentState → String
  | opened => "open"
  | acknowledged => "acknowledged"
  | resolved => "resolved"
  | archived => "archived"

structure IncidentIdentity where
  device : String
  causeRung : String
  causeSubject : String
  nonblank : isBlank device = false ∧ isBlank causeRung = false ∧ isBlank causeSubject = false

structure IncidentRow where
  incidentId : String
  device : String
  causeRung : String
  causeSubject : String
  state : IncidentState
  openedAt : Datetime
  updatedAt : Datetime
  resolvedAt : Option Datetime := none

structure IncidentEvent where
  incidentId : String
  eventId : String
  joinedAt : Datetime

structure IncidentTransition where
  incidentId : String
  state : IncidentState
  recordedAt : Datetime
  reason : Option String

/-- The errors that a store call raises. The last kind is `sqlite3.IntegrityError`, which is
not an `EventStoreError`. -/
inductive StoreErrorKind where
  | eventStore
  | transition
  | lease
  | integrity
deriving DecidableEq, Repr

structure StoreError where
  kind : StoreErrorKind
  message : String
deriving DecidableEq, Repr

structure EventStore where
  events : KeyedTable EventRecord.eventId := .empty
  attempts : List (String × EventAttempt) := []
  outbox : KeyedTable OutboxRecord.outboxId := .empty
  nextOutboxId : Nat := 1
  cardReceipts : KeyedTable (fun r : TelegramCardReceipt => (r.eventId, r.chatId)) := .empty
  cardStates : KeyedTable TelegramCardState.eventId := .empty
  operatorCallbacks : KeyedTable OperatorCallbackResult.callbackId := .empty
  admissionShadow : List AdmissionShadowRecord := []
  narrowingShadow : List NarrowingShadowRecord := []
  incidents : KeyedTable IncidentRow.incidentId := .empty
  incidentEvents : KeyedTable IncidentEvent.eventId := .empty
  incidentTransitions : List IncidentTransition := []

namespace EventStore

def empty : EventStore := {}

def get (s : EventStore) (eventId : String) : Option EventRecord := s.events.get? eventId

def eventAttempts (s : EventStore) (eventId : String) : List EventAttempt :=
  (s.attempts.filter (fun a => a.1 = eventId)).map Prod.snd

def telegramCardReceipt (s : EventStore) (eventId chatId : String) : Option TelegramCardReceipt :=
  s.cardReceipts.get? (eventId, chatId)

def telegramCardState (s : EventStore) (eventId : String) : Option TelegramCardState :=
  s.cardStates.get? eventId

def writeEvent (s : EventStore) (eventId : String) (f : EventRecord → EventRecord)
    (hf : ∀ r, (f r).eventId = r.eventId) (logged : List EventAttempt) : EventStore :=
  { s with
    events := s.events.modify eventId f hf
    attempts := s.attempts ++ logged.map (fun a => (eventId, a)) }

end EventStore

/-- What a call about one event can see of the store: the event's row and attempt log. -/
@[ext] structure EventView where
  row : Option EventRecord
  attempts : List EventAttempt

namespace EventStore

def view (s : EventStore) (eventId : String) : EventView :=
  ⟨s.get eventId, s.eventAttempts eventId⟩

@[simp] lemma view_row (s : EventStore) (eventId : String) :
    (s.view eventId).row = s.get eventId := rfl

@[simp] lemma view_attempts (s : EventStore) (eventId : String) :
    (s.view eventId).attempts = s.eventAttempts eventId := rfl

section writeEvent

variable {s : EventStore} {eventId other : String} {f : EventRecord → EventRecord}
  {hf : ∀ r, (f r).eventId = r.eventId} {logged : List EventAttempt} {row : EventRecord}

lemma get_writeEvent_self (h : s.get eventId = some row) :
    (s.writeEvent eventId f hf logged).get eventId = some (f row) :=
  KeyedTable.get?_modify_self hf h

lemma get_writeEvent_of_ne (h : other ≠ eventId) :
    (s.writeEvent eventId f hf logged).get other = s.get other :=
  KeyedTable.get?_modify_of_ne hf h

lemma eventAttempts_writeEvent_self :
    (s.writeEvent eventId f hf logged).eventAttempts eventId =
      s.eventAttempts eventId ++ logged := by
  have hlogged : (logged.map (fun a => (eventId, a))).filter (fun a => decide (a.1 = eventId)) =
      logged.map (fun a => (eventId, a)) := by
    rw [List.filter_eq_self]
    intro a ha
    obtain ⟨b, _, rfl⟩ := List.mem_map.mp ha
    simp
  simp [eventAttempts, writeEvent, List.filter_append, hlogged, Function.comp_def]

lemma eventAttempts_writeEvent_of_ne (h : other ≠ eventId) :
    (s.writeEvent eventId f hf logged).eventAttempts other = s.eventAttempts other := by
  have hlogged : (logged.map (fun a => (eventId, a))).filter (fun a => decide (a.1 = other)) =
      [] := by
    rw [List.filter_eq_nil_iff]
    intro a ha
    obtain ⟨b, _, rfl⟩ := List.mem_map.mp ha
    simpa using h.symm
  simp [eventAttempts, writeEvent, List.filter_append, hlogged]

lemma view_writeEvent_of_ne (h : other ≠ eventId) :
    (s.writeEvent eventId f hf logged).view other = s.view other := by
  rw [view, get_writeEvent_of_ne h, eventAttempts_writeEvent_of_ne h, view]

lemma view_writeEvent_self (h : s.get eventId = some row) :
    (s.writeEvent eventId f hf logged).view eventId =
      ⟨some (f row), s.eventAttempts eventId ++ logged⟩ := by
  rw [view, get_writeEvent_self h, eventAttempts_writeEvent_self]

lemma key_of_get (h : s.get eventId = some row) : row.eventId = eventId :=
  KeyedTable.key_of_get? h

end writeEvent

end EventStore

end NetTools
