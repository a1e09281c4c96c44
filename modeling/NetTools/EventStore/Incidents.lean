import Mathlib.Data.List.Chain
import NetTools.EventStore.Lifecycle

/-!
# Incident store

`transition_incident` of `event_store.py`, and what joins, transitions and compaction keep true
of the three incident tables.
-/

namespace NetTools

open Runs

namespace IncidentState

def allowed : IncidentState → List IncidentState
  | opened => [acknowledged, resolved]
  | acknowledged => [resolved]
  | resolved => [archived]
  | archived => []

def active (state : IncidentState) : Bool := state ∈ [opened, acknowledged]

end IncidentState

def IncidentRow.moved (row : IncidentRow) (state : IncidentState) (now : Datetime) : IncidentRow :=
  { row with
    state
    updatedAt := now
    resolvedAt := if state = .resolved then some now else row.resolvedAt }

lemma IncidentRow.moved_incidentId (row : IncidentRow) (state : IncidentState) (now : Datetime) :
    (row.moved state now).incidentId = row.incidentId := rfl

def IncidentRow.SameCause (a b : IncidentRow) : Prop :=
  a.device = b.device ∧ a.causeRung = b.causeRung ∧ a.causeSubject = b.causeSubject

lemma IncidentRow.SameCause.symm {a b : IncidentRow} (h : a.SameCause b) : b.SameCause a :=
  ⟨h.1.symm, h.2.1.symm, h.2.2.symm⟩

lemma IncidentRow.SameCause.trans {a b c : IncidentRow} (h : a.SameCause b)
    (h' : b.SameCause c) : a.SameCause c :=
  ⟨h.1.trans h'.1, h.2.1.trans h'.2.1, h.2.2.trans h'.2.2⟩

namespace EventStore

def transitionIncident (s : EventStore) (incidentId : String) (state : IncidentState)
    (reason : Option String) (now : Datetime) : Except StoreError (IncidentRow × EventStore) :=
  match s.incidents.get? incidentId with
  | none => .error (storeError s!"incident {pyRepr incidentId} does not exist")
  | some row =>
    if state ∉ row.state.allowed then
      .error (transitionError
        s!"cannot transition incident {incidentId} from {row.state.text} to {state.text}")
    else
      .ok (row.moved state now, { s with
        incidents := s.incidents.modify incidentId (fun r => r.moved state now)
          (fun r => r.moved_incidentId state now)
        incidentTransitions := s.incidentTransitions ++ [⟨incidentId, state, now, reason⟩] })

def trail (s : EventStore) (incidentId : String) : List IncidentState :=
  (s.incidentTransitions.filter (fun t => t.incidentId = incidentId)).map
    IncidentTransition.state

end EventStore

/-- A call of the incident operations, or any other call of the store. -/
inductive IncidentCall where
  | join (identity : IncidentIdentity) (eventId newId : String) (now : Datetime)
  | transition (incidentId : String) (state : IncidentState) (reason : Option String)
      (now : Datetime)
  | lifecycle (call : LifecycleCall)

namespace EventStore

/-- The error that a call of the incident operations or of `compact` raises. -/
def incidentError (s : EventStore) : IncidentCall → Option StoreError
  | .join identity eventId newId now =>
    match s.createOrJoinIncident identity eventId newId now with
    | .ok _ => none
    | .error e => some e
  | .transition incidentId state reason now =>
    match s.transitionIncident incidentId state reason now with
    | .ok _ => none
    | .error e => some e
  | .lifecycle (.compact now completedDays auditDays) =>
    match s.compact now completedDays auditDays with
    | .ok _ => none
    | .error e => some e
  | .lifecycle _ => none

def incidentStep (s : EventStore) : IncidentCall → EventStore
  | .join identity eventId newId now =>
    s.after (s.createOrJoinIncident identity eventId newId now)
  | .transition incidentId state reason now =>
    s.after (s.transitionIncident incidentId state reason now)
  | .lifecycle call => s.lifecycleStep call

structure IncidentsSound (s : EventStore) : Prop where
  /-- One active incident for a cause. -/
  unique : ∀ a ∈ s.incidents.rows, ∀ b ∈ s.incidents.rows, a.state.active = true →
    b.state.active = true → a.SameCause b → a = b
  /-- An event belongs to one incident. -/
  member : ∀ m ∈ s.incidentEvents.rows, ∀ m' ∈ s.incidentEvents.rows,
    m.eventId = m'.eventId → m.incidentId = m'.incidentId
  /-- An incident has a stored event. -/
  populated : ∀ row ∈ s.incidents.rows, ∃ m ∈ s.incidentEvents.rows,
    m.incidentId = row.incidentId ∧ s.get m.eventId ≠ none
  stored : ∀ m ∈ s.incidentEvents.rows, s.get m.eventId ≠ none
  /-- The trail of an incident starts `open`, moves along the table and ends in its state. -/
  opened : ∀ row ∈ s.incidents.rows, (s.trail row.incidentId).head? = some .opened
  moves : ∀ row ∈ s.incidents.rows,
    (s.trail row.incidentId).IsChain (fun a b => b ∈ a.allowed)
  current : ∀ row ∈ s.incidents.rows, (s.trail row.incidentId).getLast? = some row.state
  known : ∀ t ∈ s.incidentTransitions, s.incidents.get? t.incidentId ≠ none

variable {s s' : EventStore} {identity : IncidentIdentity} {eventId newId incidentId : String}
  {now : Datetime} {row : IncidentRow}

theorem transitionIncident_cases {state : IncidentState} {reason : Option String}
    (h : s.transitionIncident incidentId state reason now = .ok (row, s')) :
    ∃ old, s.incidents.get? incidentId = some old ∧ state ∈ old.state.allowed ∧
      s' = { s with
        incidents := s.incidents.modify incidentId (fun r => r.moved state now)
          (fun r => r.moved_incidentId state now)
        incidentTransitions := s.incidentTransitions ++ [⟨incidentId, state, now, reason⟩] } := by
  unfold transitionIncident at h
  cases hold : s.incidents.get? incidentId with
  | none => simp [hold] at h
  | some old =>
    simp only [hold] at h
    split at h
    · cases h
    · rename_i hallowed
      cases h
      exact ⟨old, rfl, not_not.mp hallowed, rfl⟩

theorem createOrJoinIncident_cases {created : Bool}
    (h : s.createOrJoinIncident identity eventId newId now = .ok ((row, created), s')) :
    ∃ joinedId, s.get eventId ≠ none ∧
      (∀ prior, s.incidentEvents.get? eventId = some prior → prior.incidentId = joinedId) ∧
      s'.incidentEvents = s.incidentEvents.insert ⟨joinedId, eventId, now⟩ ∧
      s'.events = s.events ∧
      ((∃ active, s.activeIncident identity = some active ∧ joinedId = active.incidentId ∧
          s'.incidents = s.incidents.modify joinedId (fun r => { r with updatedAt := now })
            (fun _ => rfl) ∧
          s'.incidentTransitions = s.incidentTransitions) ∨
        ∃ fresh : IncidentRow, s.activeIncident identity = none ∧
          s.incidents.get? fresh.incidentId = none ∧ joinedId = fresh.incidentId ∧
          fresh.device = identity.device ∧ fresh.causeRung = identity.causeRung ∧
          fresh.causeSubject = identity.causeSubject ∧ fresh.state = .opened ∧
          s'.incidents = (s.incidents.insert fresh).modify joinedId
            (fun r => { r with updatedAt := now }) (fun _ => rfl) ∧
          s'.incidentTransitions = s.incidentTransitions ++
            [⟨joinedId, .opened, now, some "incident created"⟩]) := by
  unfold createOrJoinIncident at h
  split at h
  · cases h
  rename_i hevent
  dsimp only at h
  split at h
  · cases h
  rename_i hfresh
  split at h
  · cases h
  rename_i hprior
  cases h
  have prior_of : ∀ joinedId, ¬(s.incidentEvents.get? eventId).any
      (fun prior => decide (prior.incidentId ≠ joinedId)) = true →
      ∀ prior, s.incidentEvents.get? eventId = some prior → prior.incidentId = joinedId := by
    intro joinedId hany prior hsome
    by_contra hne
    exact hany (by simp [hsome, hne])
  refine ⟨_, hevent, prior_of _ hprior, ?_⟩
  cases hactive : s.activeIncident identity with
  | some active => exact ⟨rfl, rfl, .inl ⟨active, rfl, rfl, rfl, rfl⟩⟩
  | none =>
    have hnew : s.incidents.get? newId = none := by
      cases hget : s.incidents.get? newId with
      | none => rfl
      | some taken => exact absurd ⟨hactive, by rw [hget]; rfl⟩ hfresh
    exact ⟨rfl, rfl, .inr ⟨_, rfl, hnew, rfl, rfl, rfl, rfl, rfl, rfl, rfl⟩⟩

def SameIncidents (s s' : EventStore) : Prop :=
  s'.incidents = s.incidents ∧ s'.incidentEvents = s.incidentEvents ∧
    s'.incidentTransitions = s.incidentTransitions

lemma SameIncidents.refl (s : EventStore) : SameIncidents s s := ⟨rfl, rfl, rfl⟩

lemma SameIncidents.after {α : Type} {result : Except StoreError (α × EventStore)}
    (h : ∀ a s', result = .ok (a, s') → SameIncidents s s') : SameIncidents s (s.after result) := by
  cases hresult : result with
  | error e => exact .refl s
  | ok pair => exact h pair.1 pair.2 (by rw [hresult])

lemma eventStep_sameIncidents (s : EventStore) (call : StoreCall) :
    SameIncidents s (s.eventStep call) := by
  rw [eventStep_eq]
  exact ⟨rfl, rfl, rfl⟩

lemma sideStep_sameIncidents (s : EventStore) {call : SideCall}
    (h : ∀ identity eventId newId now, call ≠ .joinIncident identity eventId newId now) :
    SameIncidents s (s.sideStep call) := by
  cases call with
  | joinIncident identity eventId newId now => exact absurd rfl (h identity eventId newId now)
  | enqueue =>
    refine .after (fun a s' h => ?_)
    obtain ⟨row, created⟩ := a
    rcases enqueueNotification_cases h with ⟨-, -, rfl⟩ | ⟨-, -, -, rfl⟩ <;> exact ⟨rfl, rfl, rfl⟩
  | claim =>
    refine .after (fun a s' h => ?_)
    obtain ⟨-, -, -, -, -, -, rfl⟩ := claimNotification_eq_ok_iff.mp h
    exact ⟨rfl, rfl, rfl⟩
  | finish =>
    refine .after (fun a s' h => ?_)
    obtain ⟨-, -, -, -, -, -, -, -, -, rfl⟩ := finishNotification_cases h
    exact ⟨rfl, rfl, rfl⟩
  | saveCardState =>
    refine .after (fun a s' h => ?_)
    simp only [saveTelegramCardState] at h
    split at h <;> cases h
    exact ⟨rfl, rfl, rfl⟩
  | recordCard =>
    refine .after (fun a s' h => ?_)
    simp only [recordTelegramCard] at h
    repeat' split at h
    all_goals cases h
    exact ⟨rfl, rfl, rfl⟩
  | recordCallback =>
    refine .after (fun a s' h => ?_)
    simp only [recordOperatorCallback] at h
    split at h
    · cases h
    · split at h <;> cases h <;> exact ⟨rfl, rfl, rfl⟩
  | admissionShadow =>
    refine .after (fun a s' h => ?_)
    simp only [recordAdmissionShadow] at h
    split at h <;> cases h
    exact ⟨rfl, rfl, rfl⟩
  | narrowingShadow =>
    refine .after (fun a s' h => ?_)
    simp only [recordNarrowingShadow] at h
    repeat' split at h
    all_goals cases h
    exact ⟨rfl, rfl, rfl⟩

lemma compact_keeps_members {completedDays auditDays : Int} {report : CompactionReport}
    (h : s.compact now completedDays auditDays = .ok (report, s')) :
    SameIncidents s s' ∧ ∀ m ∈ s.incidentEvents.rows, s'.get m.eventId = s.get m.eventId := by
  obtain ⟨cutoff, rfl⟩ := compact_cases h
  refine ⟨⟨rfl, rfl, rfl⟩, ?_⟩
  intro m hm
  have hreferenced : (s.withoutSent cutoff).referenced m.eventId = true := by
    have hany : s.incidentEvents.rows.any (fun r => decide (r.eventId = m.eventId)) = true :=
      List.any_eq_true.mpr ⟨m, hm, by simp⟩
    simp only [referenced, withoutSent, hany, Bool.or_true, Bool.true_or]
  have hget : (s.withoutSent cutoff).get m.eventId = s.get m.eventId := rfl
  rw [get_withoutDoomed, hget]
  cases hrow : s.get m.eventId with
  | none => rfl
  | some row =>
    have hkept : (s.withoutSent cutoff).doomed cutoff row = false := by
      rw [doomed, key_of_get hrow, hreferenced, Bool.not_true, Bool.and_false]
    simp [hkept]

theorem lifecycleStep_keeps_members (s : EventStore) {call : LifecycleCall}
    (h : ∀ identity eventId newId now, call ≠ .side (.joinIncident identity eventId newId now)) :
    SameIncidents s (s.lifecycleStep call) ∧
      ∀ m ∈ s.incidentEvents.rows, s.get m.eventId ≠ none →
        (s.lifecycleStep call).get m.eventId ≠ none := by
  have stays : (∀ now completedDays auditDays, call ≠ .compact now completedDays auditDays) →
      ∀ m ∈ s.incidentEvents.rows, s.get m.eventId ≠ none →
        (s.lifecycleStep call).get m.eventId ≠ none := by
    intro hcompact m _ hsome hnone
    obtain ⟨row, hrow⟩ := Option.ne_none_iff_exists'.mp hsome
    obtain ⟨-, now, completedDays, auditDays, hcall⟩ :=
      (s.lifecycleStep_step call m.eventId).finished_of_removed hrow hnone
    exact hcompact now completedDays auditDays hcall
  cases call with
  | event call => exact ⟨s.eventStep_sameIncidents call, stays (fun _ _ _ h => by cases h)⟩
  | side call =>
    refine ⟨s.sideStep_sameIncidents ?_, stays (fun _ _ _ h => by cases h)⟩
    intro identity eventId newId now hjoin
    exact h identity eventId newId now (by rw [hjoin])
  | createOrUpdate eventId device payload now =>
    refine ⟨.after (fun a s' hok => ?_), stays (fun _ _ _ h => by cases h)⟩
    rcases createOrUpdate_cases hok with ⟨-, rfl⟩ | ⟨-, -, -, rfl⟩ <;> exact ⟨rfl, rfl, rfl⟩
  | compact now completedDays auditDays =>
    simp only [lifecycleStep]
    cases hcompact : s.compact now completedDays auditDays with
    | error e => exact ⟨.refl s, fun _ _ hsome => hsome⟩
    | ok result =>
      obtain ⟨report, s'⟩ := result
      obtain ⟨hsame, hget⟩ := compact_keeps_members hcompact
      refine ⟨hsame, fun m hm hsome => ?_⟩
      simp only [after]
      rw [hget m hm]
      exact hsome

lemma trail_append {t : IncidentTransition}
    (h : s'.incidentTransitions = s.incidentTransitions ++ [t]) (id : String) :
    s'.trail id = s.trail id ++ if t.incidentId = id then [t.state] else [] := by
  rw [trail, h, List.filter_append, List.map_append, trail]
  by_cases hid : t.incidentId = id <;> simp [hid]

lemma trail_of_eq (h : s'.incidentTransitions = s.incidentTransitions) (id : String) :
    s'.trail id = s.trail id := by
  rw [trail, h, trail]

lemma IncidentsSound.of_same (hsound : s.IncidentsSound) (hsame : SameIncidents s s')
    (hstored : ∀ m ∈ s.incidentEvents.rows, s.get m.eventId ≠ none → s'.get m.eventId ≠ none) :
    s'.IncidentsSound := by
  obtain ⟨hincidents, hmembers, htransitions⟩ := hsame
  exact
    { unique := by rw [hincidents]; exact hsound.unique
      member := by rw [hmembers]; exact hsound.member
      populated := by
        rw [hincidents, hmembers]
        intro row hrow
        obtain ⟨m, hm, hid, hsome⟩ := hsound.populated row hrow
        exact ⟨m, hm, hid, hstored m hm hsome⟩
      stored := by
        rw [hmembers]
        exact fun m hm => hstored m hm (hsound.stored m hm)
      opened := by
        rw [hincidents]
        exact fun row hrow => trail_of_eq htransitions row.incidentId ▸ hsound.opened row hrow
      moves := by
        rw [hincidents]
        exact fun row hrow => trail_of_eq htransitions row.incidentId ▸ hsound.moves row hrow
      current := by
        rw [hincidents]
        exact fun row hrow => trail_of_eq htransitions row.incidentId ▸ hsound.current row hrow
      known := by rw [htransitions, hincidents]; exact hsound.known }

lemma mem_touched {t : KeyedTable IncidentRow.incidentId} {id : String}
    (hrow : row ∈ (t.modify id (fun r => { r with updatedAt := now }) (fun _ => rfl)).rows) :
    ∃ old ∈ t.rows, row.incidentId = old.incidentId ∧ row.state = old.state ∧ row.SameCause old := by
  rw [KeyedTable.rows_modify, List.mem_map] at hrow
  obtain ⟨old, hold, rfl⟩ := hrow
  refine ⟨old, hold, ?_⟩
  split <;> exact ⟨rfl, rfl, rfl, rfl, rfl⟩

theorem join_sound {created : Bool} (hsound : s.IncidentsSound)
    (h : s.createOrJoinIncident identity eventId newId now = .ok ((row, created), s')) :
    s'.IncidentsSound := by
  obtain ⟨joinedId, hevent, hprior, hmembers, hevents, hincident⟩ := createOrJoinIncident_cases h
  have hget : ∀ id, s'.get id = s.get id := by
    intro id
    rw [EventStore.get, hevents, EventStore.get]
  have joined : ∃ m ∈ s'.incidentEvents.rows, m.incidentId = joinedId ∧ m.eventId = eventId := by
    rw [hmembers]
    obtain ⟨m, hm, hid, hnew | hold⟩ := s.incidentEvents.exists_key_insert ⟨joinedId, eventId, now⟩
    · exact ⟨m, hm, by rw [hnew], hid⟩
    · exact ⟨m, hm, hprior m hold, hid⟩
  have member_cases : ∀ m ∈ s'.incidentEvents.rows,
      m ∈ s.incidentEvents.rows ∨ m = ⟨joinedId, eventId, now⟩ := by
    rw [hmembers]
    exact fun m hm => KeyedTable.mem_of_mem_insert hm
  -- A row is one from before, up to its time stamps, or the new incident of a cause without one.
  have row_cases : ∀ r ∈ s'.incidents.rows,
      (∃ old ∈ s.incidents.rows, r.incidentId = old.incidentId ∧ r.state = old.state ∧
        r.SameCause old ∧ s'.trail r.incidentId = s.trail old.incidentId) ∨
      (r.incidentId = joinedId ∧ r.state = .opened ∧ s'.trail r.incidentId = [.opened] ∧
        ∀ old ∈ s.incidents.rows, old.state.active = true → ¬r.SameCause old) := by
    intro r hr
    rcases hincident with ⟨active, -, -, hrows, htransitions⟩ | ⟨fresh, hactive, hnone, rfl, hdevice,
      hrung, hsubject, hstate, hrows, htransitions⟩
    · rw [hrows] at hr
      obtain ⟨old, hold, hid, hst, hcause⟩ := mem_touched hr
      exact .inl ⟨old, hold, hid, hst, hcause, by rw [trail_of_eq htransitions, hid]⟩
    · rw [hrows] at hr
      obtain ⟨old, hold, hid, hst, hcause⟩ := mem_touched hr
      rcases KeyedTable.mem_of_mem_insert hold with hold | rfl
      · refine .inl ⟨old, hold, hid, hst, hcause, ?_⟩
        have hne : fresh.incidentId ≠ old.incidentId := by
          intro heq
          rw [heq, KeyedTable.get?_of_mem hold] at hnone
          cases hnone
        rw [trail_append htransitions, hid, if_neg hne, List.append_nil]
      · refine .inr ⟨hid, hst.trans hstate, ?_, ?_⟩
        · have hempty : s.trail old.incidentId = [] := by
            rw [trail, List.map_eq_nil_iff, List.filter_eq_nil_iff]
            intro t ht heq
            have hknown := hsound.known t ht
            rw [decide_eq_true_eq] at heq
            rw [heq] at hknown
            exact hknown hnone
          rw [trail_append htransitions, hid, hempty, if_pos rfl, List.nil_append]
        · intro other hother hactiveState hsame
          have hfind := List.find?_eq_none.mp hactive other hother
          obtain ⟨hd, hr', hs⟩ := hcause.symm.trans hsame
          apply hfind
          rw [decide_eq_true_eq]
          refine ⟨by rw [← hd, hdevice], by rw [← hr', hrung], by rw [← hs, hsubject], ?_⟩
          simpa [IncidentState.active] using hactiveState
  exact
    { unique := by
        intro a ha b hb haActive hbActive hcause
        apply KeyedTable.eq_of_key_eq ha hb
        rcases row_cases a ha with ⟨a', ha', hid, hst, hsame, -⟩ | ⟨hid, -, -, hnone⟩
        · rcases row_cases b hb with ⟨b', hb', hid', hst', hsame', -⟩ | ⟨-, -, -, hnone'⟩
          · have heq : a' = b' := hsound.unique a' ha' b' hb' (hst ▸ haActive) (hst' ▸ hbActive)
              (hsame.symm.trans (hcause.trans hsame'))
            rw [hid, hid', heq]
          · exact absurd (hcause.symm.trans hsame) (hnone' a' ha' (hst ▸ haActive))
        · rcases row_cases b hb with ⟨b', hb', hid', hst', hsame', -⟩ | ⟨hid', -, -, -⟩
          · exact absurd (hcause.trans hsame') (hnone b' hb' (hst' ▸ hbActive))
          · rw [hid, hid']
      member := by
        intro m hm m' hm' heq
        rw [KeyedTable.eq_of_key_eq hm hm' heq]
      populated := by
        intro r hr
        rcases row_cases r hr with ⟨old, hold, hid, -⟩ | ⟨hid, -⟩
        · obtain ⟨m, hm, hmid, hsome⟩ := hsound.populated old hold
          refine ⟨m, ?_, by rw [hmid, hid], by rw [hget]; exact hsome⟩
          rw [hmembers]
          exact KeyedTable.mem_insert_of_mem hm
        · obtain ⟨m, hm, hmid, hevent'⟩ := joined
          exact ⟨m, hm, by rw [hmid, hid], by rw [hget, hevent']; exact hevent⟩
      stored := by
        intro m hm
        rw [hget]
        rcases member_cases m hm with hold | rfl
        · exact hsound.stored m hold
        · exact hevent
      opened := by
        intro r hr
        rcases row_cases r hr with ⟨old, hold, -, -, -, htrail⟩ | ⟨-, -, htrail, -⟩
        · rw [htrail]
          exact hsound.opened old hold
        · rw [htrail]
          rfl
      moves := by
        intro r hr
        rcases row_cases r hr with ⟨old, hold, -, -, -, htrail⟩ | ⟨-, -, htrail, -⟩
        · rw [htrail]
          exact hsound.moves old hold
        · rw [htrail]
          exact List.isChain_singleton _
      current := by
        intro r hr
        rcases row_cases r hr with ⟨old, hold, -, hst, -, htrail⟩ | ⟨-, hst, htrail, -⟩
        · rw [htrail, hst]
          exact hsound.current old hold
        · rw [htrail, hst]
          rfl
      known := by
        intro t ht
        rcases hincident with ⟨active, -, -, hrows, htransitions⟩ | ⟨fresh, -, hnone, rfl, -, -, -,
          -, hrows, htransitions⟩
        · rw [htransitions] at ht
          rw [hrows, KeyedTable.get?_modify]
          simpa using hsound.known t ht
        · rw [htransitions, List.mem_append, List.mem_singleton] at ht
          rw [hrows, KeyedTable.get?_modify]
          rcases ht with ht | rfl
          · have hne : fresh.incidentId ≠ t.incidentId := by
              intro heq
              exact hsound.known t ht (heq ▸ hnone)
            rw [KeyedTable.get?_insert_of_ne hne]
            simpa using hsound.known t ht
          · rw [KeyedTable.get?_insert_self hnone]
            simp }

theorem transition_sound {state : IncidentState} {reason : Option String}
    (hsound : s.IncidentsSound)
    (h : s.transitionIncident incidentId state reason now = .ok (row, s')) :
    s'.IncidentsSound := by
  obtain ⟨old, hold, hallowed, hs'⟩ := transitionIncident_cases h
  obtain rfl := KeyedTable.key_of_get? hold
  have hmem := KeyedTable.mem_of_get? hold
  have hmembers : s'.incidentEvents = s.incidentEvents := by rw [hs']
  have hget : ∀ id, s'.get id = s.get id := by
    intro id
    rw [hs']
    rfl
  have hincidents : s'.incidents =
      s.incidents.modify old.incidentId (fun r => r.moved state now)
          (fun r => r.moved_incidentId state now) := by rw [hs']
  have htransitions : s'.incidentTransitions =
      s.incidentTransitions ++ [⟨old.incidentId, state, now, reason⟩] := by rw [hs']
  -- Only active incidents move to an active state.
  have hactive : state.active = true → old.state.active = true := by
    intro hstate
    revert hallowed hstate
    cases old.state <;> cases state <;> decide
  have row_cases : ∀ r ∈ s'.incidents.rows,
      (r = old.moved state now ∧ s'.trail r.incidentId = s.trail old.incidentId ++ [state]) ∨
        (r ∈ s.incidents.rows ∧ s'.trail r.incidentId = s.trail r.incidentId) := by
    intro r hr
    rw [hincidents] at hr
    rcases (KeyedTable.mem_modify hold).mp hr with rfl | ⟨hr, hne⟩
    · refine .inl ⟨rfl, ?_⟩
      have hmoved := trail_append htransitions old.incidentId
      rwa [if_pos rfl] at hmoved
    · refine .inr ⟨hr, ?_⟩
      rw [trail_append htransitions, if_neg hne.symm, List.append_nil]
  have before : ∀ r ∈ s'.incidents.rows, ∃ r' ∈ s.incidents.rows,
      r.incidentId = r'.incidentId ∧ r.SameCause r' ∧
        (r.state.active = true → r'.state.active = true) := by
    intro r hr
    rcases row_cases r hr with ⟨rfl, -⟩ | ⟨hr, -⟩
    · exact ⟨old, hmem, rfl, ⟨rfl, rfl, rfl⟩, hactive⟩
    · exact ⟨r, hr, rfl, ⟨rfl, rfl, rfl⟩, id⟩
  exact
    { unique := by
        intro a ha b hb haActive hbActive hcause
        apply KeyedTable.eq_of_key_eq ha hb
        obtain ⟨a', ha', hida, hsame, hact⟩ := before a ha
        obtain ⟨b', hb', hidb, hsame', hact'⟩ := before b hb
        have heq : a' = b' := hsound.unique a' ha' b' hb' (hact haActive) (hact' hbActive)
          (hsame.symm.trans (hcause.trans hsame'))
        rw [hida, hidb, heq]
      member := by rw [hmembers]; exact hsound.member
      populated := by
        intro r hr
        obtain ⟨r', hr', hid, -⟩ := before r hr
        obtain ⟨m, hm, hmid, hsome⟩ := hsound.populated r' hr'
        exact ⟨m, hmembers ▸ hm, by rw [hmid, hid], by rw [hget]; exact hsome⟩
      stored := by
        rw [hmembers]
        intro m hm
        rw [hget]
        exact hsound.stored m hm
      opened := by
        intro r hr
        rcases row_cases r hr with ⟨rfl, htrail⟩ | ⟨hr, htrail⟩
        · rw [htrail, List.head?_append, hsound.opened old hmem, Option.some_or]
        · rw [htrail]
          exact hsound.opened r hr
      moves := by
        intro r hr
        rcases row_cases r hr with ⟨rfl, htrail⟩ | ⟨hr, htrail⟩
        · rw [htrail, List.isChain_append]
          refine ⟨hsound.moves old hmem, List.isChain_singleton _, ?_⟩
          intro a ha b hb
          rw [hsound.current old hmem] at ha
          cases ha
          cases hb
          exact hallowed
        · rw [htrail]
          exact hsound.moves r hr
      current := by
        intro r hr
        rcases row_cases r hr with ⟨rfl, htrail⟩ | ⟨hr, htrail⟩
        · rw [htrail, List.getLast?_append, List.getLast?_singleton, Option.some_or]
          rfl
        · rw [htrail]
          exact hsound.current r hr
      known := by
        intro t ht
        rw [htransitions, List.mem_append, List.mem_singleton] at ht
        rw [hincidents, KeyedTable.get?_modify]
        rcases ht with ht | rfl
        · simpa using hsound.known t ht
        · rw [hold]
          simp }

theorem incidentStep_sound (s : EventStore) (call : IncidentCall) (hsound : s.IncidentsSound) :
    (s.incidentStep call).IncidentsSound := by
  have hjoin : ∀ identity eventId newId now,
      (s.after (s.createOrJoinIncident identity eventId newId now)).IncidentsSound := by
    intro identity eventId newId now
    cases hcall : s.createOrJoinIncident identity eventId newId now with
    | error e => exact hsound
    | ok result => exact join_sound hsound hcall
  cases call with
  | join identity eventId newId now => exact hjoin identity eventId newId now
  | transition incidentId state reason now =>
    simp only [incidentStep]
    cases hcall : s.transitionIncident incidentId state reason now with
    | error e => exact hsound
    | ok result => exact transition_sound hsound hcall
  | lifecycle call =>
    by_cases hside : ∃ identity eventId newId now,
        call = .side (.joinIncident identity eventId newId now)
    · obtain ⟨identity, eventId, newId, now, rfl⟩ := hside
      exact hjoin identity eventId newId now
    · have hkept := s.lifecycleStep_keeps_members
        (fun identity eventId newId now heq => hside ⟨identity, eventId, newId, now, heq⟩)
      exact hsound.of_same hkept.1 hkept.2

lemma incidentStep_of_error {call : IncidentCall} {e : StoreError}
    (h : s.incidentError call = some e) : SameIncidents s (s.incidentStep call) := by
  cases call with
  | join identity eventId newId now =>
    cases hcall : s.createOrJoinIncident identity eventId newId now with
    | error e => simp only [incidentStep, hcall, after]; exact .refl s
    | ok result => simp [incidentError, hcall] at h
  | transition incidentId state reason now =>
    cases hcall : s.transitionIncident incidentId state reason now with
    | error e => simp only [incidentStep, hcall, after]; exact .refl s
    | ok result => simp [incidentError, hcall] at h
  | lifecycle call =>
    cases call with
    | compact now completedDays auditDays =>
      exact (s.lifecycleStep_keeps_members (fun _ _ _ _ heq => by cases heq)).1
    | _ => cases h

lemma sound_of_empty (hincidents : s.incidents.rows = []) (hmembers : s.incidentEvents.rows = [])
    (htransitions : s.incidentTransitions = []) : s.IncidentsSound := by
  exact
    { unique := by simp [hincidents]
      member := by simp [hmembers]
      populated := by simp [hincidents]
      stored := by simp [hmembers]
      opened := by simp [hincidents]
      moves := by simp [hincidents]
      current := by simp [hincidents]
      known := by simp [htransitions] }

end EventStore

/-- In every run of joins, transitions, compactions and all other calls, from a store without
incidents, every state has sound incident tables and no call that raises changes them. -/
theorem incidents_sound (s : EventStore) (hincidents : s.incidents.rows = [])
    (hmembers : s.incidentEvents.rows = []) (htransitions : s.incidentTransitions = [])
    (calls : List IncidentCall) :
    AllSteps EventStore.incidentStep
      (fun s call => (s.incidentStep call).IncidentsSound ∧
        ∀ e, s.incidentError call = some e → EventStore.SameIncidents s (s.incidentStep call))
      s calls :=
  allSteps_of_invariant EventStore.incidentStep_sound
    (fun s call hsound => ⟨s.incidentStep_sound call hsound,
      fun _ he => EventStore.incidentStep_of_error he⟩)
    (EventStore.sound_of_empty hincidents hmembers htransitions) calls

def recurrence : List IncidentCall :=
  let identity : IncidentIdentity := ⟨"r1", "bgp_session", "10.0.0.1", by decide⟩
  let other : IncidentIdentity := ⟨"r2", "interface", "Gi0/0", by decide⟩
  [.lifecycle (.event (.createOrGet "e1" "r1" [] false ⟨0, 0⟩)),
    .lifecycle (.event (.createOrGet "e2" "r1" [] false ⟨0, 0⟩)),
    .join identity "e1" "i1" ⟨0, 0⟩,
    .transition "i1" .resolved none ⟨1, 0⟩,
    .join identity "e2" "i2" ⟨2, 0⟩,
    .join other "e2" "i3" ⟨3, 0⟩]

theorem incidents_sound_recurrence :
    AllSteps EventStore.incidentStep
      (fun s call => (s.incidentStep call).IncidentsSound ∧
        ∀ e, s.incidentError call = some e → EventStore.SameIncidents s (s.incidentStep call))
      .empty recurrence ∧
    (final EventStore.incidentStep .empty recurrence).incidents.rows.map
      (fun row => (row.incidentId, row.state)) = [("i1", .resolved), ("i2", .opened)] :=
  ⟨incidents_sound .empty rfl rfl rfl recurrence, by decide +kernel⟩

end NetTools
