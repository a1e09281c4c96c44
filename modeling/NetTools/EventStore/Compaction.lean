import NetTools.EventStore.Records

/-!
# Compaction

`compact` of `event_store.py`: sent notifications and finished events that nothing refers to
are deleted once they are old enough. The backup file and the `recovery_sweeps` table, which
no other operation reads, are left out.
-/

namespace NetTools

/-- SQLite's `<` on two ISO texts. -/
def Datetime.isoLt (t u : Datetime) : Bool := t.isoKey < u.isoKey

structure CompactionReport where
  completedEventCandidates : Nat
  sentOutboxCandidates : Nat
  sentOutboxDeleted : Nat
  eventsDeleted : Nat
deriving DecidableEq, Repr

namespace EventStore

def agedEvent (cutoff : Datetime) (row : EventRecord) : Bool :=
  row.state ∈ [EventState.completed, .terminalFailed] && row.updatedAt.isoLt cutoff

def agedNotification (cutoff : Datetime) (row : OutboxRecord) : Bool :=
  row.state = .sent && row.updatedAt.isoLt cutoff

def referenced (s : EventStore) (eventId : String) : Bool :=
  s.outbox.rows.any (fun r => r.eventId = eventId) ||
    s.incidentEvents.rows.any (fun r => r.eventId = eventId) ||
    s.cardReceipts.rows.any (fun r => r.eventId = eventId) ||
    s.cardStates.rows.any (fun r => r.eventId = eventId) ||
    s.operatorCallbacks.rows.any (fun r => r.eventId = eventId)

/-- `PRAGMA foreign_key_check`: some row names an event or an incident that is not there. -/
def foreignKeyViolated (s : EventStore) : Bool :=
  s.attempts.any (fun a => (s.get a.1).isNone) ||
    s.outbox.rows.any (fun r => (s.get r.eventId).isNone) ||
    s.cardReceipts.rows.any (fun r => (s.get r.eventId).isNone) ||
    s.cardStates.rows.any (fun r => (s.get r.eventId).isNone) ||
    s.admissionShadow.any (fun r => (s.get r.eventId).isNone) ||
    s.narrowingShadow.any (fun r => (s.get r.eventId).isNone) ||
    s.incidentEvents.rows.any (fun r =>
      (s.get r.eventId).isNone || (s.incidents.get? r.incidentId).isNone) ||
    s.incidentTransitions.any (fun r => (s.incidents.get? r.incidentId).isNone)

def withoutSent (s : EventStore) (cutoff : Datetime) : EventStore :=
  { s with outbox := s.outbox.filter (fun r => !agedNotification cutoff r) }

def doomed (s : EventStore) (cutoff : Datetime) (row : EventRecord) : Bool :=
  agedEvent cutoff row && !s.referenced row.eventId

def withoutDoomed (s : EventStore) (cutoff : Datetime) : EventStore :=
  let deleted := fun eventId => (s.get eventId).any (s.doomed cutoff)
  { s with
    events := s.events.filter (fun r => !s.doomed cutoff r)
    attempts := s.attempts.filter (fun a => !deleted a.1)
    admissionShadow := s.admissionShadow.filter (fun r => !deleted r.eventId)
    narrowingShadow := s.narrowingShadow.filter (fun r => !deleted r.eventId) }

def compact (s : EventStore) (now : Datetime) (completedDays auditDays : Int) :
    Except StoreError (CompactionReport × EventStore) :=
  if completedDays < 1 ∨ auditDays < completedDays then
    .error (storeError "retention days are invalid")
  else
    let completedBefore := now.addSeconds (-(completedDays * 86400))
    let swept := (s.withoutSent completedBefore).withoutDoomed completedBefore
    if swept.foreignKeyViolated then
      .error (storeError "compaction foreign key check failed")
    else
      .ok
        ({ completedEventCandidates := s.events.rows.countP (agedEvent completedBefore)
           sentOutboxCandidates := s.outbox.rows.countP (agedNotification completedBefore)
           sentOutboxDeleted := s.outbox.rows.countP (agedNotification completedBefore)
           eventsDeleted :=
             s.events.rows.countP ((s.withoutSent completedBefore).doomed completedBefore) },
          swept)

variable {s s' : EventStore} {now : Datetime} {completedDays auditDays : Int}
  {report : CompactionReport}

theorem compact_cases (h : s.compact now completedDays auditDays = .ok (report, s')) :
    ∃ cutoff, s' = (s.withoutSent cutoff).withoutDoomed cutoff := by
  unfold compact at h
  split at h
  · cases h
  · dsimp only at h
    split at h
    · cases h
    · cases h
      exact ⟨_, rfl⟩

lemma get_withoutDoomed (s : EventStore) (cutoff : Datetime) (eventId : String) :
    (s.withoutDoomed cutoff).get eventId =
      (s.get eventId).filter (fun r => !s.doomed cutoff r) :=
  KeyedTable.get?_filter _ _ _

lemma eventAttempts_withoutDoomed (s : EventStore) (cutoff : Datetime) (eventId : String) :
    (s.withoutDoomed cutoff).eventAttempts eventId =
      if (s.get eventId).any (s.doomed cutoff) then [] else s.eventAttempts eventId := by
  rw [eventAttempts, withoutDoomed, List.filter_filter]
  split
  · rename_i hdeleted
    rw [List.map_eq_nil_iff, List.filter_eq_nil_iff]
    intro a _ ha
    obtain ⟨hid, hkept⟩ := (Bool.and_eq_true _ _).mp ha
    rw [decide_eq_true_eq] at hid
    simp only [hid, hdeleted, Bool.not_true, Bool.false_eq_true] at hkept
  · rename_i hkept
    rw [eventAttempts]
    congr 1
    refine List.filter_congr (fun a _ => ?_)
    by_cases hid : a.1 = eventId
    · simp [hid, Bool.eq_false_iff.mpr hkept]
    · simp [hid]

theorem compact_view (h : s.compact now completedDays auditDays = .ok (report, s'))
    (eventId : String) :
    s'.view eventId = s.view eventId ∨
      ∃ row, s.get eventId = some row ∧ (row.state = .completed ∨ row.state = .terminalFailed) ∧
        s'.view eventId = ⟨none, []⟩ := by
  obtain ⟨cutoff, rfl⟩ := compact_cases h
  have hget : (s.withoutSent cutoff).get eventId = s.get eventId := rfl
  have hattempts : (s.withoutSent cutoff).eventAttempts eventId = s.eventAttempts eventId := rfl
  rw [view, get_withoutDoomed, eventAttempts_withoutDoomed, hget, hattempts]
  cases hrow : s.get eventId with
  | none => exact .inl (by simp [view, hrow])
  | some row =>
    cases hdoomed : (s.withoutSent cutoff).doomed cutoff row with
    | false => exact .inl (by simp [view, hrow, hdoomed])
    | true =>
      refine .inr ⟨row, rfl, ?_, by simp [hdoomed]⟩
      have haged := (Bool.and_eq_true _ _).mp hdoomed
      simpa using (((Bool.and_eq_true _ _).mp haged.1).1)

end EventStore

end NetTools
