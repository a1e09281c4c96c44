import Mathlib.Computability.Primrec.List
import NetTools.Telegram.Delivery

/-!
# Card coordinator

`telegram_card_coordinator.py`: the view of an event is kept in the store between activities,
under the event alone, and each coordinator hands its renders to the outbox of its chat.
-/

namespace NetTools

/-- `sorted(ids)`. -/
def sortedIds (ids : Finset String) : List String :=
  Quot.liftOn ids.val (List.insertionSort (· ≤ ·)) (fun a b h =>
    List.Perm.eq_of_pairwise' (r := (· ≤ ·)) (List.pairwise_insertionSort _ a)
      (List.pairwise_insertionSort _ b)
      ((List.perm_insertionSort _ a).trans (h.trans (List.perm_insertionSort _ b).symm)))

lemma toFinset_sortedIds (ids : Finset String) : (sortedIds ids).toFinset = ids := by
  obtain ⟨⟨l⟩, hl⟩ := ids
  ext x
  have hmem : x ∈ l.insertionSort (· ≤ ·) ↔ x ∈ l := (List.perm_insertionSort _ l).mem_iff
  rw [List.mem_toFinset]
  exact hmem

/-! ### The stored view -/

def Value.ofText : Option String → Value
  | some text => .str text
  | Option.none => .none

/-- An optional string of a payload, `none` for anything else. -/
def Value.toText : Value → Option (Option String)
  | .str text => some (some text)
  | .none => some Option.none
  | _ => Option.none

lemma Value.toText_ofText (text : Option String) : (Value.ofText text).toText = some text := by
  cases text <;> rfl

def Value.toStr : Value → Option String
  | .str text => some text
  | _ => Option.none

/-- `{**asdict(stage), "status": stage.status.value}`. -/
def encodeStage (stage : InvestigationStage) : Value :=
  .dict [("name", .str stage.name), ("status", .str stage.status.value),
    ("finding", .ofText stage.finding), ("rung", .ofText stage.rung),
    ("device", .ofText stage.device)]

def encodeView (view : InvestigationView) : Dict :=
  [("incident_id", .str view.incidentId), ("event_id", .str view.eventId),
    ("status", .str view.status.value), ("stages", .list (view.stages.map encodeStage)),
    ("finding", .ofText view.finding), ("classification", .ofText view.classification),
    ("limitation", .ofText view.limitation), ("last_sequence", .int view.lastSequence),
    ("applied_activity_ids", .list ((sortedIds view.appliedActivityIds).map .str)),
    ("terminal", .bool view.terminal)]

/-- `payload[key]` as a string. -/
def strAt (payload : Dict) (key : String) : Option String := payload.get? key >>= Value.toStr

/-- `payload.get(key)` as an optional string. -/
def textAt (payload : Dict) (key : String) : Option (Option String) :=
  ((payload.get? key).getD .none).toText

def decodeStage (item : Value) : Option InvestigationStage :=
  match item with
  | .dict fields => do
    let name ← strAt fields "name"
    let status ← strAt fields "status" >>= ActivityStatus.ofValue
    let finding ← textAt fields "finding"
    let rung ← textAt fields "rung"
    let device ← textAt fields "device"
    pure { name, status, finding, rung, device }
  | _ => none

def listAt (payload : Dict) (key : String) : Option (List Value) :=
  match payload.get? key with
  | some (.list items) => some items
  | _ => none

def intAt (payload : Dict) (key : String) : Option Int :=
  match payload.get? key with
  | some (.int i) => some i
  | _ => none

def boolAt (payload : Dict) (key : String) : Option Bool :=
  match payload.get? key with
  | some (.bool b) => some b
  | _ => none

def decodeView (payload : Dict) : Option InvestigationView := do
  let incidentId ← strAt payload "incident_id"
  let eventId ← strAt payload "event_id"
  let status ← strAt payload "status" >>= ActivityStatus.ofValue
  let items ← listAt payload "stages"
  let stages ← items.mapM decodeStage
  let finding ← textAt payload "finding"
  let classification ← textAt payload "classification"
  let limitation ← textAt payload "limitation"
  let lastSequence ← intAt payload "last_sequence"
  let ids ← listAt payload "applied_activity_ids"
  let applied ← ids.mapM Value.toStr
  let terminal ← boolAt payload "terminal"
  pure
    { incidentId, eventId, status, stages, finding, classification, limitation, lastSequence,
      appliedActivityIds := applied.toFinset, terminal }

lemma decodeStage_encodeStage (stage : InvestigationStage) :
    decodeStage (encodeStage stage) = some stage := by
  simp [decodeStage, encodeStage, strAt, textAt, Dict.get?, List.lookup, Value.toStr,
    Value.toText_ofText, ActivityStatus.ofValue_value]

lemma mapM_map_of_inverse {α β : Type} {f : α → β} {g : β → Option α}
    (h : ∀ a, g (f a) = some a) (l : List α) : (l.map f).mapM g = some l := by
  induction l with
  | nil => rfl
  | cons a l ih =>
    rw [List.map_cons, List.mapM_cons, h, ih]
    rfl

theorem decodeView_encodeView (view : InvestigationView) :
    decodeView (encodeView view) = some view := by
  have hids : ((sortedIds view.appliedActivityIds).map Value.str).mapM Value.toStr =
      some (sortedIds view.appliedActivityIds) :=
    mapM_map_of_inverse (f := Value.str) (g := Value.toStr) (fun _ => rfl) _
  simp [decodeView, encodeView, strAt, textAt, listAt, intAt, boolAt, Dict.get?, List.lookup,
    Value.toStr, Value.toText_ofText, ActivityStatus.ofValue_value,
    mapM_map_of_inverse decodeStage_encodeStage, hids, toFinset_sortedIds]

structure TelegramCardCoordinator where
  chatId : String
  debounceSeconds : ℚ := 1
  debounce_nonneg : 0 ≤ debounceSeconds := by norm_num

/-- What `apply` and `flush` raise: a `ValueError`, an error of the store, or whatever the
decoding of a payload that is no view raises. -/
inductive CardError where
  | value (message : String)
  | store (e : StoreError)
  | payload
deriving DecidableEq

def immediateKinds : List ActivityKind := [.started, .completed, .failed]

def EventStore.currentView (s : EventStore) (activity : InvestigationActivity) :
    Except CardError InvestigationView :=
  match s.telegramCardState activity.eventId with
  | some state => match decodeView state.payload with
    | some view => .ok view
    | none => .error .payload
  | none => match InvestigationView.new activity.incidentId activity.eventId with
    | .ok view => .ok view
    | .error e => .error (.value e)

def EventStore.updatedView (s : EventStore) (activity : InvestigationActivity) :
    Except CardError (Option InvestigationView) :=
  match s.currentView activity with
  | .error e => .error e
  | .ok view => match reduceView view activity with
    | .error e => .error (.value e)
    | .ok updated => if updated = view then .ok none else .ok (some updated)

namespace TelegramCardCoordinator

variable (digest : String → String)

def enqueue (c : TelegramCardCoordinator) (s : EventStore) (view : InvestigationView)
    (now : Datetime) : Except CardError (Option OutboxRecord) × EventStore :=
  match renderCard digest view MAX_TELEGRAM_CARD_CHARS with
  | .error e => (.error (.value e), s)
  | .ok render => match s.enqueueCard view.eventId c.chatId render now with
    | .error e => (.error (.store e), s)
    | .ok (record, s') => (.ok record, s')

/-- The part of `apply` before `_enqueue`: the view that it then enqueues. -/
def applyState (s : EventStore) (activity : InvestigationActivity) (now : Datetime) :
    Except CardError (Option InvestigationView) × EventStore :=
  match s.updatedView activity with
  | .error e => (.error e, s)
  | .ok none => (.ok none, s)
  | .ok (some updated) =>
    let dirtyAt := if activity.kind ∈ immediateKinds then none else some now
    match s.saveTelegramCardState activity.eventId (encodeView updated) dirtyAt now with
    | .error e => (.error (.store e), s)
    | .ok (_, s') => (.ok (if activity.kind ∈ immediateKinds then some updated else none), s')

/-- The part of `flush` before `_enqueue`: the view that it then enqueues. -/
def flushState (c : TelegramCardCoordinator) (s : EventStore) (eventId : String)
    (now : Datetime) : Except CardError (Option InvestigationView) × EventStore :=
  match s.telegramCardState eventId with
  | none => (.ok none, s)
  | some state =>
    match state.dirtyAt with
    | none => (.ok none, s)
    | some dirtyAt =>
      if now.micros < (dirtyAt.addSeconds c.debounceSeconds).micros then (.ok none, s)
      else match decodeView state.payload with
        | none => (.error .payload, s)
        | some view =>
          match s.saveTelegramCardState eventId state.payload none now with
          | .error e => (.error (.store e), s)
          | .ok (_, s') => (.ok (some view), s')

/-- `_enqueue` of the view that the first part of a call has found, if any. -/
def enqueueFound (c : TelegramCardCoordinator) (now : Datetime)
    (found : Except CardError (Option InvestigationView) × EventStore) :
    Except CardError (Option OutboxRecord) × EventStore :=
  match found with
  | (.error e, s) => (.error e, s)
  | (.ok none, s) => (.ok none, s)
  | (.ok (some view), s) => c.enqueue digest s view now

def apply (c : TelegramCardCoordinator) (s : EventStore) (activity : InvestigationActivity)
    (now : Datetime) : Except CardError (Option OutboxRecord) × EventStore :=
  c.enqueueFound digest now (applyState s activity now)

def flush (c : TelegramCardCoordinator) (s : EventStore) (eventId : String) (now : Datetime) :
    Except CardError (Option OutboxRecord) × EventStore :=
  c.enqueueFound digest now (c.flushState s eventId now)

end TelegramCardCoordinator

end NetTools
