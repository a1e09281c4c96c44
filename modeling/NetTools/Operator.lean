import NetTools.EventStore.Records
import NetTools.Library.Sorting

/-!
# Operator callbacks

`telegram_operator.py`: authorization by role and the actions of a callback. `handle` commits
its steps one after the other, so that an error of a later step leaves the earlier ones done.
-/

namespace NetTools

/-- `_ROLE_ACTIONS.get(role, frozenset())`. -/
def roleActions (role : String) : List String :=
  if role = "viewer" then ["evidence", "timeline"]
  else if role = "operator" then ["evidence", "timeline", "acknowledge", "silence"]
  else if role = "incident_manager" then
    ["evidence", "timeline", "acknowledge", "silence", "retry"]
  else []

structure OperatorPolicy where
  userId : Int
  role : String
  enabled : Bool

def OperatorPolicy.permits (policy : OperatorPolicy) (action : String) : Bool :=
  policy.enabled && action ∈ roleActions policy.role

structure Callback where
  callbackId : String
  userId : Int
  action : String
  eventId : String

/-- `type(exc).__name__`. -/
def StoreError.typeName (e : StoreError) : String :=
  match e.kind with
  | .eventStore => "EventStoreError"
  | .transition => "EventTransitionError"
  | .lease => "EventLeaseError"
  | .integrity => "IntegrityError"

/-- The clock readings of one callback, in the order in which the code takes them. -/
structure CallbackClock where
  transitionAt : Datetime
  auditedAt : Datetime
  recordedAt : Datetime

structure OperatorState where
  store : EventStore
  audit : List Dict := []

namespace OperatorWorkflow

variable (policies : List (Int × OperatorPolicy)) (clock : CallbackClock)

def auditRecord (callback : Callback) (policy : Option OperatorPolicy) (outcome detail : String) :
    Dict :=
  [("timestamp", .str clock.auditedAt.isoformat),
    ("callback_id", .str callback.callbackId),
    ("event_id", .str callback.eventId),
    ("actor_user_id", .int callback.userId),
    ("role", (policy.map (fun p => Value.str p.role)).getD .none),
    ("action", .str callback.action),
    ("outcome", .str outcome),
    ("detail", .str detail)]

def record (s : OperatorState) (callback : Callback) (policy : Option OperatorPolicy)
    (outcome detail : String) : Except StoreError Dict × OperatorState :=
  let line := auditRecord clock callback policy outcome detail
  let audited := { s with audit := s.audit ++ [line] }
  match s.store.recordOperatorCallback callback.callbackId callback.eventId line
      clock.recordedAt with
  | .error e => (.error e, audited)
  | .ok (row, store) => (.ok row.result, { audited with store })

def handle (s : OperatorState) (callback : Callback) : Except StoreError Dict × OperatorState :=
  match s.store.operatorCallbacks.get? callback.callbackId with
  | some prior => (.ok prior.result, s)
  | none =>
    let policy := policies.lookup callback.userId
    if policy.all (fun p => !p.permits callback.action) then
      record clock s callback policy "refused" "operator is not authorized"
    else
      match s.store.get callback.eventId with
      | none => record clock s callback policy "refused" "event does not exist"
      | some event =>
        if callback.action = "retry" then
          if event.state ≠ .retryableFailed then
            record clock s callback policy "refused" "event is not retryable"
          else
            match s.store.transition event.eventId .admitted (some "operator retry requested")
                none none none clock.transitionAt with
            | .error e =>
              record clock s callback policy "refused" s!"retry refused: {e.typeName}"
            | .ok (_, store) =>
              record clock { s with store } callback policy "accepted" "event readmitted"
        else if callback.action = "silence" then
          record clock s callback policy "input_required" "silence requires reason and expiry"
        else if callback.action = "evidence" then
          record clock s callback policy "accepted" "evidence view requested"
        else if callback.action = "timeline" then
          record clock s callback policy "accepted" "timeline view requested"
        else record clock s callback policy "accepted" "incident acknowledged"

end OperatorWorkflow

namespace EventStore

lemma recordOperatorCallback_get {s s' : EventStore} {callbackId eventId other : String}
    {result : Dict} {now : Datetime} {row : OperatorCallbackResult}
    (h : s.recordOperatorCallback callbackId eventId result now = .ok (row, s')) :
    s'.get other = s.get other := by
  unfold recordOperatorCallback at h
  split at h
  · cases h
  · split at h <;> cases h <;> rfl

lemma leased_mem_recoverableEvents {s s' : EventStore} {eventId owner : String} {leaseSeconds : ℚ}
    {now t : Datetime} {row : EventRecord}
    (h : s.acquireLease eventId owner leaseSeconds now = .ok (row, s'))
    (hzone : t.offset = now.offset) (hdue : (now.addSeconds leaseSeconds).micros ≤ t.micros) :
    row ∈ s'.recoverableEvents t := by
  obtain ⟨old, hrow, -, rfl, rfl⟩ := acquireLease_cases h
  rw [recoverableEvents, List.mem_insertionSort, List.mem_filter]
  refine ⟨KeyedTable.mem_of_get? (get_writeEvent_self hrow), ?_⟩
  have hzone' : (now.addSeconds leaseSeconds).offset = t.offset := by
    rw [Datetime.addSeconds_offset, hzone]
  have htext : (now.addSeconds leaseSeconds).isoLe t = true :=
    (Datetime.isoLe_iff_of_offset_eq hzone').mpr hdue
  simp [recoverable, EventRecord.leased, htext]

instance : Std.Total newestFirst where
  total a b := by
    unfold newestFirst
    rcases lt_trichotomy a.updatedAt.isoKey b.updatedAt.isoKey with h | h | h
    · exact .inr (.inl h)
    · have heq := Datetime.isoKey_injective h
      rcases String.le_total a.eventId b.eventId with hid | hid
      · exact .inl (.inr ⟨heq, hid⟩)
      · exact .inr (.inr ⟨heq.symm, hid⟩)
    · exact .inl (.inl h)

instance : IsTrans EventRecord newestFirst where
  trans a b c hab hbc := by
    unfold newestFirst at *
    rcases hab with hab | ⟨hab, hidab⟩
    · rcases hbc with hbc | ⟨hbc, -⟩
      · exact .inl (hbc.trans hab)
      · exact .inl (hbc ▸ hab)
    · rcases hbc with hbc | ⟨hbc, hidbc⟩
      · exact .inl (hab ▸ hbc)
      · exact .inr ⟨hab.trans hbc, String.le_trans hidab hidbc⟩

/-- The listed rows that `list_events` returns before a given one. -/
def listedBefore (s : EventStore) (state : Option EventState) (device : Option String)
    (row : EventRecord) : List EventRecord :=
  (s.events.rows.filter (listed state device)).filter
    (fun r => newestFirst r row ∧ r.eventId ≠ row.eventId)

lemma exists_listEvents_mem {s : EventStore} {state : Option EventState} {device : Option String}
    {row : EventRecord} {limit : Int} (hrow : s.get row.eventId = some row)
    (hlisted : listed state device row = true) (hlimit : limit ≤ 1000)
    (hbefore : (s.listedBefore state device row).length < limit) :
    ∃ rows, s.listEvents state device limit = .ok rows ∧ row ∈ rows := by
  have hvalid : ¬(limit < 0 ∨ 1000 < limit) := by omega
  rw [listEvents, if_neg hvalid]
  refine ⟨_, rfl, ?_⟩
  have hmem : row ∈ s.events.rows := KeyedTable.mem_of_get? hrow
  refine Sorting.mem_take_insertionSort (List.mem_filter.mpr ⟨hmem, hlisted⟩)
    (fun r => newestFirst r row ∧ r.eventId ≠ row.eventId) ?_ ?_
  · intro y hy hle
    by_cases hid : y.eventId = row.eventId
    · exact .inl (List.inj_on_of_nodup_map s.events.nodup (List.mem_of_mem_filter hy) hmem hid)
    · exact .inr (by simp [hle, hid])
  · rw [listedBefore] at hbefore
    omega

end EventStore

namespace OperatorWorkflow

variable {policies : List (Int × OperatorPolicy)} {clock : CallbackClock}

lemma record_get {s : OperatorState} {callback : Callback} {policy : Option OperatorPolicy}
    {outcome detail : String} (eventId : String) :
    (record clock s callback policy outcome detail).2.store.get eventId = s.store.get eventId := by
  simp only [record]
  split
  · rfl
  · rename_i hok
    exact EventStore.recordOperatorCallback_get hok

theorem handle_moves {s : OperatorState} {callback : Callback}
    (hmoved : (handle policies clock s callback).2.store.get callback.eventId ≠
      s.store.get callback.eventId) :
    ∃ event, s.store.get callback.eventId = some event ∧ event.state = .retryableFailed ∧
      (handle policies clock s callback).2.store.get callback.eventId =
        some (event.transitioned .admitted (some "operator retry requested") none
          clock.transitionAt) := by
  revert hmoved
  unfold handle
  split
  · intro hmoved
    exact absurd rfl hmoved
  · dsimp only
    split
    · intro hmoved
      exact absurd (record_get _) hmoved
    · split
      · intro hmoved
        exact absurd (record_get _) hmoved
      · rename_i event hevent
        split
        · split
          · intro hmoved
            exact absurd (record_get _) hmoved
          · split
            · intro hmoved
              exact absurd (record_get _) hmoved
            · rename_i hretryable _ _ _ hok
              intro _
              obtain ⟨row, hrow, -, -, -, rfl⟩ := EventStore.transition_cases hok
              have hkey := EventStore.key_of_get hevent
              rw [hkey, hevent, Option.some.injEq] at hrow
              subst hrow
              refine ⟨event, hevent, not_not.mp hretryable, ?_⟩
              rw [record_get, hkey]
              exact EventStore.get_writeEvent_self hevent
        · intro hmoved
          refine absurd ?_ hmoved
          split
          · exact record_get _
          · split
            · exact record_get _
            · split <;> exact record_get _

end OperatorWorkflow

/-- An operator retry that moves an event out of `retryable_failed` leaves it as work. As long
as no worker has touched its row, every worker can lease it at any time, and recovery lists it
once that lease has run out. Until then the admitted listing shows it as soon as its limit
reaches it. -/
theorem operator_retry_not_lost (policies : List (Int × OperatorPolicy)) (clock : CallbackClock)
    (s : OperatorState) (callback : Callback) (outcome : Except StoreError Dict)
    (s' : OperatorState)
    (hhandle : OperatorWorkflow.handle policies clock s callback = (outcome, s'))
    (hbefore : (s.store.get callback.eventId).map EventRecord.state = some .retryableFailed)
    (hafter : (s'.store.get callback.eventId).map EventRecord.state ≠ some .retryableFailed) :
    ∃ row, s'.store.get callback.eventId = some row ∧ row.state = .admitted ∧
      ∀ later : EventStore, later.get callback.eventId = some row →
        (∀ owner leaseSeconds now, isBlank owner = false → 0 < leaseSeconds →
          ∃ leased next, later.acquireLease callback.eventId owner leaseSeconds now =
              .ok (leased, next) ∧
            ∀ t : Datetime, t.offset = now.offset →
              (now.addSeconds leaseSeconds).micros ≤ t.micros →
                leased ∈ next.recoverableEvents t) ∧
        ∀ limit : Int, limit ≤ 1000 →
          (later.listedBefore (some .admitted) none row).length < limit →
            ∃ rows, later.listEvents (some .admitted) none limit = .ok rows ∧ row ∈ rows := by
  have hmoved : (OperatorWorkflow.handle policies clock s callback).2.store.get callback.eventId ≠
      s.store.get callback.eventId := by
    rw [hhandle]
    intro hsame
    exact hafter ((congrArg (Option.map EventRecord.state) hsame).trans hbefore)
  obtain ⟨event, hevent, -, hrow⟩ := OperatorWorkflow.handle_moves hmoved
  rw [hhandle] at hrow
  refine ⟨_, hrow, rfl, ?_⟩
  intro later hlater
  have hkey : event.eventId = callback.eventId := EventStore.key_of_get hevent
  refine ⟨?_, ?_⟩
  · intro owner leaseSeconds now howner hseconds
    have hdue : EventState.admitted = .retryableFailed →
        ∃ t, (none : Option Datetime) = some t ∧ t.micros ≤ now.micros := by simp
    have hfree : EventState.admitted = .running →
        ∀ t, (none : Option Datetime) = some t → t.micros ≤ now.micros := by simp
    have hok := EventStore.acquireLease_eq_ok howner hseconds hlater rfl hdue hfree
    exact ⟨_, _, hok, fun t hzone hdue => EventStore.leased_mem_recoverableEvents hok hzone hdue⟩
  · intro limit hlimit hcount
    refine EventStore.exists_listEvents_mem ?_ rfl hlimit hcount
    rw [EventRecord.transitioned_eventId, hkey]
    exact hlater

def failedEvent : EventRecord :=
  { eventId := "ab", device := "r1", state := .retryableFailed, payload := [],
    createdAt := ⟨0, 0⟩, updatedAt := ⟨0, 0⟩, retryAt := some ⟨5000000, 0⟩ }

lemma failedEvent_nodup : ([failedEvent].map EventRecord.eventId).Nodup := by simp

def retryCallback : Callback := ⟨"cb-1", 7, "retry", "ab"⟩

def retryOutcome : Except StoreError Dict × OperatorState :=
  OperatorWorkflow.handle [(7, ⟨7, "incident_manager", true⟩)] ⟨⟨9, 0⟩, ⟨9, 0⟩, ⟨9, 0⟩⟩
    ⟨{ events := ⟨[failedEvent], failedEvent_nodup⟩ }, []⟩ retryCallback

theorem operator_retry_not_lost_ab :
    ∃ row, retryOutcome.2.store.get "ab" = some row ∧ row.state = .admitted := by
  obtain ⟨row, hrow, hstate, -⟩ := operator_retry_not_lost [(7, ⟨7, "incident_manager", true⟩)]
    ⟨⟨9, 0⟩, ⟨9, 0⟩, ⟨9, 0⟩⟩ ⟨{ events := ⟨[failedEvent], failedEvent_nodup⟩ }, []⟩ retryCallback
    retryOutcome.1 retryOutcome.2 rfl (by decide) (by decide)
  exact ⟨row, hrow, hstate⟩

end NetTools
