import Mathlib.Data.Option.Basic
import Mathlib.Logic.Relation
import NetTools.EventStore.Incidents
import NetTools.Library.Simulation

/-!
# Incident cases

`incident_case.py`: the contract of one incident, which the store does not use. The store keeps
its incidents as a register of such cases would, and whatever the contract keeps of a case holds
of what the store reads back.
-/

namespace NetTools

open Runs

instance : DecidableEq IncidentIdentity := fun a b =>
  decidable_of_iff (a.device = b.device ∧ a.causeRung = b.causeRung ∧
    a.causeSubject = b.causeSubject)
    (by
      obtain ⟨_, _, _, _⟩ := a
      obtain ⟨_, _, _, _⟩ := b
      simp)

structure IncidentCase where
  identity : IncidentIdentity
  state : IncidentState
  eventIds : List String
  openedAt : Datetime
  updatedAt : Datetime

namespace IncidentCase

/-- `IncidentCase.open`. -/
def openCase (identity : IncidentIdentity) (eventId : String) (now : Datetime) :
    Except String IncidentCase :=
  if eventId = "" then .error "incident event identity must be non-empty"
  else .ok ⟨identity, .opened, [eventId], now, now⟩

def canJoin (c : IncidentCase) (identity : IncidentIdentity) : Bool :=
  c.state ∈ [IncidentState.opened, .acknowledged] && c.identity = identity

def joinEvent (c : IncidentCase) (identity : IncidentIdentity) (eventId : String)
    (now : Datetime) : Except String IncidentCase :=
  if eventId = "" then .error "incident event identity must be non-empty"
  else if !c.canJoin identity then .error "event identity cannot join this incident"
  else if eventId ∈ c.eventIds then .ok c
  else .ok ⟨c.identity, c.state, c.eventIds ++ [eventId], c.openedAt, now⟩

def allowed : IncidentState → List IncidentState
  | .opened => [.acknowledged, .resolved]
  | .acknowledged => [.resolved]
  | .resolved => [.archived]
  | .archived => []

def transition (c : IncidentCase) (target : IncidentState) (now : Datetime) :
    Except String IncidentCase :=
  if target ∉ allowed c.state then
    .error ("cannot transition incident from " ++ c.state.text ++ " to " ++ target.text)
  else .ok ⟨c.identity, target, c.eventIds, c.openedAt, now⟩

lemma allowed_eq (state : IncidentState) : allowed state = state.allowed := by
  cases state <;> rfl

end IncidentCase

structure Register where
  stored : Set String
  cases : String → Option IncidentCase

namespace Register

def put (r : Register) (incidentId : String) (c : IncidentCase) : Register :=
  { r with cases := Function.update r.cases incidentId (some c) }

def Closed (r : Register) (identity : IncidentIdentity) : Prop :=
  ∀ id c, r.cases id = some c → c.canJoin identity = false

/-- What a join does: the event goes to the case that can take it, or opens one. The time of a
case is set also where it had the event before. -/
inductive Join (r : Register) (identity : IncidentIdentity) (eventId newId : String)
    (now : Datetime) : Register → Prop where
  | joined (id : String) (c joined : IncidentCase) (known : eventId ∈ r.stored)
      (found : r.cases id = some c) (join : c.joinEvent identity eventId now = .ok joined)
      (only : ∀ other c, r.cases other = some c → eventId ∈ c.eventIds → other = id) :
      Join r identity eventId newId now (r.put id { joined with updatedAt := now })
  | opened (c : IncidentCase) (known : eventId ∈ r.stored) (closed : r.Closed identity)
      (fresh : r.cases newId = none)
      (alone : ∀ other c, r.cases other = some c → eventId ∉ c.eventIds)
      (opens : IncidentCase.openCase identity eventId now = .ok c) :
      Join r identity eventId newId now (r.put newId c)
  | unknown (missing : eventId ∉ r.stored) : Join r identity eventId newId now r
  | elsewhere (other : String) (c : IncidentCase) (found : r.cases other = some c)
      (member : eventId ∈ c.eventIds) (refused : c.canJoin identity = false) :
      Join r identity eventId newId now r
  | taken (closed : r.Closed identity) (clash : r.cases newId ≠ none) :
      Join r identity eventId newId now r

inductive Move (r : Register) (incidentId : String) (target : IncidentState) (now : Datetime) :
    Register → Prop where
  | moved (c moved : IncidentCase) (found : r.cases incidentId = some c)
      (move : c.transition target now = .ok moved) :
      Move r incidentId target now (r.put incidentId moved)
  | unknown (missing : r.cases incidentId = none) : Move r incidentId target now r
  | refused (c : IncidentCase) (message : String) (found : r.cases incidentId = some c)
      (refusal : c.transition target now = .error message) : Move r incidentId target now r

structure Kept (r r' : Register) : Prop where
  cases : r'.cases = r.cases
  members : ∀ id c, r.cases id = some c → ∀ e ∈ c.eventIds, e ∈ r'.stored

def Step (r : Register) (call : IncidentCall) (r' : Register) : Prop :=
  match call with
  | .join identity eventId newId now => r.Join identity eventId newId now r'
  | .transition incidentId state _ now => r.Move incidentId state now r'
  | .lifecycle (.side (.joinIncident identity eventId newId now)) =>
    r.Join identity eventId newId now r'
  | .lifecycle _ => r.Kept r'

end Register

def IncidentCall.Named : IncidentCall → Prop
  | .join _ eventId _ _ => eventId ≠ ""
  | .lifecycle (.side (.joinIncident _ eventId _ _)) => eventId ≠ ""
  | _ => True

/-- `IncidentIdentity(row["device"], row["cause_rung"], row["cause_subject"])`. -/
def IncidentRow.identity (row : IncidentRow) : Option IncidentIdentity :=
  if h : isBlank row.device = false ∧ isBlank row.causeRung = false ∧
      isBlank row.causeSubject = false then
    some ⟨row.device, row.causeRung, row.causeSubject, h⟩
  else none

namespace EventStore

def members (s : EventStore) (incidentId : String) : List String :=
  (s.incidentEvents.rows.filter (fun m => m.incidentId = incidentId)).map IncidentEvent.eventId

def caseOf (s : EventStore) (incidentId : String) : Option IncidentCase :=
  (s.incidents.get? incidentId).bind (fun row => row.identity.map (fun identity =>
    ⟨identity, row.state, s.members incidentId, row.openedAt, row.updatedAt⟩))

def register (s : EventStore) : Register where
  stored := { eventId | s.get eventId ≠ none }
  cases := s.caseOf

end EventStore

structure IncidentRecord where
  incidentId : String
  identity : IncidentIdentity
  state : IncidentState
  eventIds : List String
  openedAt : Datetime
  updatedAt : Datetime
  resolvedAt : Option Datetime

/-- `ORDER BY joined_at, event_id`. -/
def IncidentEvent.before (a b : IncidentEvent) : Prop :=
  a.joinedAt.isoLe b.joinedAt = true ∧
    (b.joinedAt.isoLe a.joinedAt = true → a.eventId ≤ b.eventId)

instance (a b : IncidentEvent) : Decidable (a.before b) := inferInstanceAs (Decidable (_ ∧ _))

namespace EventStore

def recordOf (s : EventStore) (row : IncidentRow) (identity : IncidentIdentity) :
    IncidentRecord :=
  let joined := s.incidentEvents.rows.filter (fun m => m.incidentId = row.incidentId)
  { incidentId := row.incidentId
    identity
    state := row.state
    eventIds := (joined.insertionSort IncidentEvent.before).map IncidentEvent.eventId
    openedAt := row.openedAt
    updatedAt := row.updatedAt
    resolvedAt := row.resolvedAt }

def incidentRecord (s : EventStore) (row : IncidentRow) : Except String IncidentRecord :=
  match row.identity with
  | none => .error "incident identity fields must be non-empty"
  | some identity => .ok (s.recordOf row identity)

def incident (s : EventStore) (incidentId : String) : Except String (Option IncidentRecord) :=
  match s.incidents.get? incidentId with
  | none => .ok none
  | some row => (s.incidentRecord row).map some

end EventStore

/-! ### What a call does to the cases -/

def IncidentRow.touched (row : IncidentRow) (now : Datetime) : IncidentRow :=
  { row with updatedAt := now }

lemma IncidentRow.touched_incidentId (row : IncidentRow) (now : Datetime) :
    (row.touched now).incidentId = row.incidentId := rfl

def IncidentRow.new (identity : IncidentIdentity) (newId : String) (now : Datetime) :
    IncidentRow :=
  { incidentId := newId
    device := identity.device
    causeRung := identity.causeRung
    causeSubject := identity.causeSubject
    state := .opened
    openedAt := now
    updatedAt := now }

/-- What the tables promise beside their soundness: each event belongs to a stored incident, and
each incident has an identity. -/
structure EventStore.Registered (s : EventStore) : Prop where
  owned : ∀ m ∈ s.incidentEvents.rows, s.incidents.get? m.incidentId ≠ none
  named : ∀ row ∈ s.incidents.rows, row.identity.isSome = true

namespace EventStore

variable {s s' : EventStore} {identity : IncidentIdentity} {eventId newId incidentId : String}
  {now : Datetime} {row : IncidentRow}

def joinedTo (s : EventStore) (incidentId eventId : String) (now : Datetime) : EventStore :=
  { s with
    incidentEvents := s.incidentEvents.insert ⟨incidentId, eventId, now⟩
    incidents := s.incidents.modify incidentId (fun row => row.touched now)
      (fun row => row.touched_incidentId now) }

def openedFor (s : EventStore) (identity : IncidentIdentity) (newId : String) (now : Datetime) :
    EventStore :=
  { s with
    incidents := s.incidents.insert (IncidentRow.new identity newId now)
    incidentTransitions := s.incidentTransitions ++
      [⟨newId, .opened, now, some "incident created"⟩] }

inductive Joined (s : EventStore) (identity : IncidentIdentity) (eventId newId : String)
    (now : Datetime) : EventStore → Prop where
  | unknown (missing : s.get eventId = none) : Joined s identity eventId newId now s
  | elsewhere (prior : IncidentEvent) (known : s.get eventId ≠ none)
      (found : s.incidentEvents.get? eventId = some prior)
      (other : ∀ active, s.activeIncident identity = some active →
        prior.incidentId ≠ active.incidentId) :
      Joined s identity eventId newId now s
  | taken (inactive : s.activeIncident identity = none) (clash : s.incidents.get? newId ≠ none) :
      Joined s identity eventId newId now s
  | joined (active : IncidentRow) (known : s.get eventId ≠ none)
      (found : s.activeIncident identity = some active)
      (only : ∀ prior, s.incidentEvents.get? eventId = some prior →
        prior.incidentId = active.incidentId) :
      Joined s identity eventId newId now (s.joinedTo active.incidentId eventId now)
  | opened (known : s.get eventId ≠ none) (inactive : s.activeIncident identity = none)
      (fresh : s.incidents.get? newId = none)
      (only : ∀ prior, s.incidentEvents.get? eventId = some prior → prior.incidentId = newId) :
      Joined s identity eventId newId now
        ((s.openedFor identity newId now).joinedTo newId eventId now)

lemma any_other {prior : Option IncidentEvent} {id : String} :
    (prior.any (fun prior => decide (prior.incidentId ≠ id))) = false ↔
      ∀ event, prior = some event → event.incidentId = id := by
  cases prior with
  | none => simp
  | some event => simp

theorem createOrJoinIncident_joined (s : EventStore) (identity : IncidentIdentity)
    (eventId newId : String) (now : Datetime) :
    Joined s identity eventId newId now
      (s.after (s.createOrJoinIncident identity eventId newId now)) := by
  unfold createOrJoinIncident
  by_cases hevent : s.get eventId = none
  · rw [if_pos hevent]
    exact .unknown hevent
  rw [if_neg hevent]
  cases hactive : s.activeIncident identity with
  | some active =>
    simp only [Option.getD_some, reduceCtorEq, false_and, if_false]
    by_cases hany : (s.incidentEvents.get? eventId).any
        (fun prior => decide (prior.incidentId ≠ active.incidentId)) = true
    · rw [if_pos hany]
      obtain ⟨prior, hprior, hne⟩ := Option.any_eq_true .. |>.mp hany
      refine .elsewhere prior hevent hprior (fun other hother => ?_)
      obtain rfl := Option.some.inj (hactive.symm.trans hother)
      exact of_decide_eq_true hne
    · rw [if_neg hany]
      exact .joined active hevent hactive (any_other.mp (Bool.eq_false_iff.mpr hany))
  | none =>
    simp only [Option.getD_none, true_and, if_true]
    by_cases hnew : s.incidents.get? newId = none
    · rw [if_neg (by rw [hnew]; exact Bool.false_ne_true)]
      by_cases hany : (s.incidentEvents.get? eventId).any
          (fun prior => decide (prior.incidentId ≠ newId)) = true
      · rw [if_pos hany]
        obtain ⟨prior, hprior, -⟩ := Option.any_eq_true .. |>.mp hany
        refine .elsewhere prior hevent hprior (fun other hother => ?_)
        rw [hactive] at hother
        cases hother
      · rw [if_neg hany]
        exact .opened hevent hactive hnew (any_other.mp (Bool.eq_false_iff.mpr hany))
    · rw [if_pos (Option.isSome_iff_ne_none.mpr hnew)]
      exact .taken hactive hnew

lemma mem_members {e : String} : e ∈ s.members incidentId ↔
    ∃ m, s.incidentEvents.get? e = some m ∧ m.incidentId = incidentId := by
  unfold members
  simp only [List.mem_map, List.mem_filter, decide_eq_true_eq]
  constructor
  · rintro ⟨m, ⟨hm, hid⟩, rfl⟩
    exact ⟨m, KeyedTable.get?_of_mem hm, hid⟩
  · rintro ⟨m, hm, hid⟩
    exact ⟨m, ⟨KeyedTable.mem_of_get? hm, hid⟩, KeyedTable.key_of_get? hm⟩

lemma members_joinedTo
    (honly : ∀ prior, s.incidentEvents.get? eventId = some prior → prior.incidentId = incidentId)
    (id : String) :
    (s.joinedTo incidentId eventId now).members id =
      if id = incidentId ∧ eventId ∉ s.members incidentId then s.members id ++ [eventId]
      else s.members id := by
  unfold joinedTo members
  dsimp only
  cases hprior : s.incidentEvents.get? eventId with
  | some prior =>
    have hmember : eventId ∈ s.members incidentId := mem_members.mpr ⟨prior, hprior, honly _ hprior⟩
    rw [KeyedTable.insert_of_some hprior, if_neg (fun h => h.2 hmember)]
  | none =>
    have hnew : eventId ∉ s.members incidentId := by
      intro hmember
      obtain ⟨m, hm, -⟩ := mem_members.mp hmember
      rw [hprior] at hm
      cases hm
    rw [KeyedTable.rows_insert_of_none hprior, List.filter_append, List.map_append]
    by_cases hid : id = incidentId
    · rw [if_pos ⟨hid, hnew⟩, hid]
      simp
    · rw [if_neg (fun h => hid h.1)]
      simp [Ne.symm hid]

lemma caseOf_joinedTo {c : IncidentCase} (hcase : s.caseOf incidentId = some c)
    (honly : ∀ prior, s.incidentEvents.get? eventId = some prior → prior.incidentId = incidentId) :
    (s.joinedTo incidentId eventId now).caseOf = Function.update s.caseOf incidentId
      (some { c with
        eventIds := if eventId ∈ c.eventIds then c.eventIds else c.eventIds ++ [eventId]
        updatedAt := now }) := by
  funext id
  obtain ⟨row, hrow, hmap⟩ := Option.bind_eq_some_iff.mp hcase
  obtain ⟨identity, hidentity, rfl⟩ := Option.map_eq_some_iff.mp hmap
  by_cases hid : id = incidentId
  · subst hid
    have htouched : (s.joinedTo id eventId now).incidents.get? id = some (row.touched now) :=
      KeyedTable.get?_modify_self (fun row => row.touched_incidentId now) hrow
    have hsame : (row.touched now).identity = some identity := hidentity
    rw [Function.update_self, caseOf, members_joinedTo honly, htouched, Option.bind_some, hsame,
      Option.map_some]
    by_cases hmember : eventId ∈ s.members id
    · rw [if_neg (fun h => h.2 hmember), if_pos hmember]
      rfl
    · rw [if_pos ⟨rfl, hmember⟩, if_neg hmember]
      rfl
  · have hother : (s.joinedTo incidentId eventId now).incidents.get? id = s.incidents.get? id :=
      KeyedTable.get?_modify_of_ne (fun row => row.touched_incidentId now) hid
    rw [Function.update_of_ne hid, caseOf, members_joinedTo honly, if_neg (fun h => hid h.1),
      hother]
    rfl

lemma members_openedFor (s : EventStore) (identity : IncidentIdentity) (newId : String)
    (now : Datetime) (id : String) : (s.openedFor identity newId now).members id = s.members id :=
  rfl

lemma identity_new (identity : IncidentIdentity) (newId : String) (now : Datetime) :
    (IncidentRow.new identity newId now).identity = some identity := dif_pos identity.nonblank

lemma incidents_openedFor (hfresh : s.incidents.get? newId = none) :
    (s.openedFor identity newId now).incidents.get? newId =
      some (IncidentRow.new identity newId now) :=
  KeyedTable.get?_insert_self (r := IncidentRow.new identity newId now) hfresh

lemma incidents_openedFor_of_ne (hid : newId ≠ incidentId) :
    (s.openedFor identity newId now).incidents.get? incidentId = s.incidents.get? incidentId :=
  KeyedTable.get?_insert_of_ne (r := IncidentRow.new identity newId now) hid

lemma caseOf_openedFor (hfresh : s.incidents.get? newId = none) (hempty : s.members newId = []) :
    (s.openedFor identity newId now).caseOf = Function.update s.caseOf newId
      (some ⟨identity, .opened, [], now, now⟩) := by
  funext id
  by_cases hid : id = newId
  · subst hid
    rw [Function.update_self, caseOf, members_openedFor, incidents_openedFor hfresh,
      Option.bind_some, identity_new, Option.map_some, hempty]
    rfl
  · rw [Function.update_of_ne hid, caseOf, members_openedFor,
      incidents_openedFor_of_ne (Ne.symm hid)]
    rfl

lemma Registered.caseOf_row (h : s.Registered) (hrow : s.incidents.get? incidentId = some row) :
    ∃ identity, row.identity = some identity ∧ s.caseOf incidentId =
      some ⟨identity, row.state, s.members incidentId, row.openedAt, row.updatedAt⟩ := by
  obtain ⟨identity, hidentity⟩ := Option.isSome_iff_exists.mp
    (h.named row (KeyedTable.mem_of_get? hrow))
  refine ⟨identity, hidentity, ?_⟩
  rw [caseOf, hrow, Option.bind_some, hidentity, Option.map_some]

lemma row_of_caseOf {c : IncidentCase} (h : s.caseOf incidentId = some c) :
    ∃ row, s.incidents.get? incidentId = some row ∧ row.identity = some c.identity ∧
      c.state = row.state ∧ c.eventIds = s.members incidentId := by
  obtain ⟨row, hrow, hmap⟩ := Option.bind_eq_some_iff.mp h
  obtain ⟨identity, hidentity, rfl⟩ := Option.map_eq_some_iff.mp hmap
  exact ⟨row, hrow, hidentity, rfl, rfl⟩

lemma identity_eq_some_iff : row.identity = some identity ↔ row.device = identity.device ∧
    row.causeRung = identity.causeRung ∧ row.causeSubject = identity.causeSubject := by
  unfold IncidentRow.identity
  obtain ⟨device, rung, subject, hnonblank⟩ := identity
  constructor
  · intro h
    split at h
    · cases h
      exact ⟨rfl, rfl, rfl⟩
    · cases h
  · rintro ⟨hdevice, hrung, hsubject⟩
    dsimp only at hdevice hrung hsubject
    subst hdevice hrung hsubject
    rw [dif_pos hnonblank]

lemma canJoin_iff {c : IncidentCase} (hrow : row.identity = some c.identity)
    (hstate : c.state = row.state) : c.canJoin identity = true ↔
      row.device = identity.device ∧ row.causeRung = identity.causeRung ∧
        row.causeSubject = identity.causeSubject ∧ row.state ∈ [.opened, .acknowledged] := by
  rw [IncidentCase.canJoin, Bool.and_eq_true, decide_eq_true_eq, decide_eq_true_eq, hstate]
  have hsame : c.identity = identity ↔ row.identity = some identity := by
    rw [hrow, Option.some.injEq]
  rw [hsame, identity_eq_some_iff]
  tauto

lemma Registered.canJoin_of_active (h : s.Registered)
    (hactive : s.activeIncident identity = some row) :
    ∃ c, s.caseOf row.incidentId = some c ∧ c.canJoin identity = true := by
  have hmem := List.mem_of_find?_eq_some hactive
  obtain ⟨found, hfound, hcase⟩ := h.caseOf_row (KeyedTable.get?_of_mem hmem)
  refine ⟨_, hcase, (canJoin_iff hfound rfl).mpr ?_⟩
  have hmatch := List.find?_some (show s.incidents.rows.find? _ = some row from hactive)
  exact of_decide_eq_true hmatch

lemma closed_of_inactive (hinactive : s.activeIncident identity = none) :
    s.register.Closed identity := by
  intro id c hcase
  obtain ⟨row, hrow, hidentity, hstate, -⟩ := row_of_caseOf hcase
  rw [Bool.eq_false_iff]
  intro hjoin
  have hmatch := (canJoin_iff hidentity hstate).mp hjoin
  have hnone := List.find?_eq_none.mp hinactive row (KeyedTable.mem_of_get? hrow)
  exact hnone (decide_eq_true hmatch)

lemma eq_of_canJoin (hsound : s.IncidentsSound) {id id' : String} {c c' : IncidentCase}
    (hc : s.caseOf id = some c) (hc' : s.caseOf id' = some c') (hjoin : c.canJoin identity = true)
    (hjoin' : c'.canJoin identity = true) : id = id' := by
  obtain ⟨row, hrow, hidentity, hstate, -⟩ := row_of_caseOf hc
  obtain ⟨row', hrow', hidentity', hstate', -⟩ := row_of_caseOf hc'
  obtain ⟨hdevice, hrung, hsubject, hactive⟩ := (canJoin_iff hidentity hstate).mp hjoin
  obtain ⟨hdevice', hrung', hsubject', hactive'⟩ := (canJoin_iff hidentity' hstate').mp hjoin'
  have hsame : row = row' := hsound.unique row (KeyedTable.mem_of_get? hrow) row'
    (KeyedTable.mem_of_get? hrow') (decide_eq_true hactive) (decide_eq_true hactive')
    ⟨hdevice.trans hdevice'.symm, hrung.trans hrung'.symm, hsubject.trans hsubject'.symm⟩
  rw [← KeyedTable.key_of_get? hrow, hsame, KeyedTable.key_of_get? hrow']

theorem join_register (hsound : s.IncidentsSound) (h : s.Registered) (hid : eventId ≠ "")
    (newId : String) (now : Datetime) : s.register.Join identity eventId newId now
      (s.after (s.createOrJoinIncident identity eventId newId now)).register := by
  have houtcome := s.createOrJoinIncident_joined identity eventId newId now
  generalize s.after (s.createOrJoinIncident identity eventId newId now) = s' at houtcome
  cases houtcome with
  | unknown missing => exact .unknown (not_not_intro missing)
  | elsewhere prior known found other =>
    obtain ⟨row, hrow⟩ := Option.ne_none_iff_exists'.mp
      (h.owned prior (KeyedTable.mem_of_get? found))
    obtain ⟨owner, -, hcase⟩ := h.caseOf_row hrow
    refine .elsewhere prior.incidentId _ hcase (mem_members.mpr ⟨prior, found, rfl⟩) ?_
    cases hactive : s.activeIncident identity with
    | none => exact closed_of_inactive hactive _ _ hcase
    | some active =>
      rw [Bool.eq_false_iff]
      intro hjoin
      obtain ⟨c, hc, hcan⟩ := h.canJoin_of_active hactive
      exact other active hactive (eq_of_canJoin hsound hcase hc hjoin hcan)
  | taken inactive clash =>
    obtain ⟨row, hrow⟩ := Option.ne_none_iff_exists'.mp clash
    obtain ⟨owner, -, hcase⟩ := h.caseOf_row hrow
    refine .taken (closed_of_inactive inactive) ?_
    change s.caseOf newId ≠ none
    rw [hcase]
    exact Option.some_ne_none _
  | joined active known found only =>
    obtain ⟨c, hcase, hcan⟩ := h.canJoin_of_active found
    have hjoin : c.joinEvent identity eventId now = .ok (if eventId ∈ c.eventIds then c
        else ⟨c.identity, c.state, c.eventIds ++ [eventId], c.openedAt, now⟩) := by
      rw [IncidentCase.joinEvent, if_neg hid, hcan, if_neg (by decide)]
      split <;> rfl
    have honly : ∀ other c', s.caseOf other = some c' → eventId ∈ c'.eventIds →
        other = active.incidentId := by
      intro other c' hc' hmember
      obtain ⟨row, -, -, -, hevents⟩ := row_of_caseOf hc'
      rw [hevents] at hmember
      obtain ⟨m, hm, hmid⟩ := mem_members.mp hmember
      rw [← hmid, only m hm]
    have hafter : (s.joinedTo active.incidentId eventId now).register =
        s.register.put active.incidentId { (if eventId ∈ c.eventIds then c
          else ⟨c.identity, c.state, c.eventIds ++ [eventId], c.openedAt, now⟩) with
            updatedAt := now } := by
      unfold register Register.put
      rw [caseOf_joinedTo hcase only]
      split <;> rfl
    rw [hafter]
    exact .joined active.incidentId c _ known hcase hjoin honly
  | opened known inactive fresh only =>
    have hnone : ∀ m ∈ s.incidentEvents.rows, m.incidentId ≠ newId :=
      fun m hm hid => h.owned m hm (hid ▸ fresh)
    have hempty : s.members newId = [] := by
      rw [members, List.map_eq_nil_iff, List.filter_eq_nil_iff]
      exact fun m hm hmid => hnone m hm (of_decide_eq_true hmid)
    have hprior : s.incidentEvents.get? eventId = none := by
      cases hfound : s.incidentEvents.get? eventId with
      | none => rfl
      | some prior => exact absurd (only prior hfound) (hnone prior (KeyedTable.mem_of_get? hfound))
    have hopens : IncidentCase.openCase identity eventId now =
        .ok ⟨identity, .opened, [eventId], now, now⟩ := if_neg hid
    have hfree : s.caseOf newId = none := by
      rw [caseOf, fresh]
      rfl
    have halone : ∀ other c, s.caseOf other = some c → eventId ∉ c.eventIds := by
      intro other c hc hmember
      obtain ⟨row, -, -, -, hevents⟩ := row_of_caseOf hc
      rw [hevents] at hmember
      obtain ⟨m, hm, -⟩ := mem_members.mp hmember
      rw [hprior] at hm
      cases hm
    have hcase : (s.openedFor identity newId now).caseOf newId =
        some ⟨identity, .opened, [], now, now⟩ := by
      rw [caseOf_openedFor fresh hempty, Function.update_self]
    have hafter : ((s.openedFor identity newId now).joinedTo newId eventId now).register =
        s.register.put newId ⟨identity, .opened, [eventId], now, now⟩ := by
      unfold register Register.put
      rw [caseOf_joinedTo hcase only, caseOf_openedFor fresh hempty, Function.update_idem,
        if_neg List.not_mem_nil]
      rfl
    rw [hafter]
    exact .opened _ known (closed_of_inactive inactive) hfree halone hopens

theorem transition_register (h : s.Registered) (incidentId : String) (state : IncidentState)
    (reason : Option String) (now : Datetime) : s.register.Move incidentId state now
      (s.after (s.transitionIncident incidentId state reason now)).register := by
  unfold transitionIncident
  cases hrow : s.incidents.get? incidentId with
  | none =>
    refine .unknown ?_
    change s.caseOf incidentId = none
    rw [caseOf, hrow]
    rfl
  | some row =>
    obtain ⟨identity, hidentity, hcase⟩ := h.caseOf_row hrow
    dsimp only
    by_cases hallowed : state ∈ row.state.allowed
    · rw [if_neg (not_not_intro hallowed)]
      have hmove : (⟨identity, row.state, s.members incidentId, row.openedAt,
          row.updatedAt⟩ : IncidentCase).transition state now =
            .ok ⟨identity, state, s.members incidentId, row.openedAt, now⟩ := by
        rw [IncidentCase.transition, IncidentCase.allowed_eq, if_neg (not_not_intro hallowed)]
      have hstep := Register.Move.moved (r := s.register) _ _ hcase hmove
      have hafter : (s.after (.ok (row.moved state now, { s with
          incidents := s.incidents.modify incidentId (fun r => r.moved state now)
            (fun r => r.moved_incidentId state now)
          incidentTransitions := s.incidentTransitions ++
            [⟨incidentId, state, now, reason⟩] }))).register = s.register.put incidentId
              ⟨identity, state, s.members incidentId, row.openedAt, now⟩ := by
        unfold register Register.put
        congr 1
        funext id
        by_cases hid : id = incidentId
        · subst hid
          have hmoved := KeyedTable.get?_modify_self
            (fun r => IncidentRow.moved_incidentId r state now) hrow
          have hsame : (row.moved state now).identity = some identity := hidentity
          rw [Function.update_self]
          unfold after caseOf
          dsimp only
          rw [hmoved, Option.bind_some, hsame]
          rfl
        · have hother := KeyedTable.get?_modify_of_ne (t := s.incidents)
            (f := fun r : IncidentRow => r.moved state now) (fun _ => rfl) hid
          rw [Function.update_of_ne hid]
          unfold after caseOf
          dsimp only
          rw [hother]
          rfl
      rw [hafter]
      exact hstep
    · rw [if_pos hallowed]
      exact .refused _ _ hcase (if_pos (IncidentCase.allowed_eq row.state ▸ hallowed))

lemma Registered.of_same (h : s.Registered) (hsame : SameIncidents s s') : s'.Registered := by
  obtain ⟨hincidents, hmembers, -⟩ := hsame
  constructor
  · rw [hmembers, hincidents]
    exact h.owned
  · rw [hincidents]
    exact h.named

lemma get?_joinedTo_ne_none {id : String} (h : s.incidents.get? id ≠ none) :
    (s.joinedTo incidentId eventId now).incidents.get? id ≠ none := by
  unfold joinedTo
  dsimp only
  rw [KeyedTable.get?_modify]
  simpa using h

lemma Registered.joinedTo (h : s.Registered) (hid : s.incidents.get? incidentId ≠ none)
    (eventId : String) (now : Datetime) : (s.joinedTo incidentId eventId now).Registered := by
  constructor
  · intro m hm
    apply get?_joinedTo_ne_none
    rcases KeyedTable.mem_of_mem_insert hm with hold | rfl
    · exact h.owned m hold
    · exact hid
  · intro row hrow
    obtain ⟨old, hold, rfl⟩ := List.mem_map.mp hrow
    split
    · exact h.named old hold
    · exact h.named old hold

lemma Registered.openedFor (h : s.Registered) (identity : IncidentIdentity)
    (hfresh : s.incidents.get? newId = none) (now : Datetime) :
    (s.openedFor identity newId now).Registered := by
  constructor
  · intro m hm
    have hne : newId ≠ m.incidentId := fun hid => h.owned m hm (hid ▸ hfresh)
    rw [incidents_openedFor_of_ne hne]
    exact h.owned m hm
  · intro row hrow
    rcases KeyedTable.mem_of_mem_insert hrow with hold | rfl
    · exact h.named row hold
    · rw [identity_new]
      rfl

lemma Registered.join (h : s.Registered) (identity : IncidentIdentity) (eventId newId : String)
    (now : Datetime) :
    (s.after (s.createOrJoinIncident identity eventId newId now)).Registered := by
  have houtcome := s.createOrJoinIncident_joined identity eventId newId now
  generalize s.after (s.createOrJoinIncident identity eventId newId now) = s' at houtcome
  cases houtcome with
  | joined active known found only =>
    apply h.joinedTo
    rw [KeyedTable.get?_of_mem (List.mem_of_find?_eq_some found)]
    exact Option.some_ne_none _
  | opened known inactive fresh only =>
    apply (h.openedFor identity fresh now).joinedTo
    rw [incidents_openedFor fresh]
    exact Option.some_ne_none _
  | _ => exact h

lemma Registered.step (h : s.Registered) (call : IncidentCall) :
    (s.incidentStep call).Registered := by
  cases call with
  | join identity eventId newId now => exact h.join identity eventId newId now
  | transition incidentId state reason now =>
    unfold incidentStep
    dsimp only
    cases hcall : s.transitionIncident incidentId state reason now with
    | error e => exact h
    | ok result =>
      obtain ⟨row, s'⟩ := result
      obtain ⟨old, hold, -, rfl⟩ := transitionIncident_cases hcall
      constructor
      · intro m hm
        unfold after
        dsimp only
        rw [KeyedTable.get?_modify]
        simpa using h.owned m hm
      · intro row hrow
        obtain ⟨old, hold, rfl⟩ := List.mem_map.mp hrow
        split
        · exact h.named old hold
        · exact h.named old hold
  | lifecycle call =>
    by_cases hside : ∃ identity eventId newId now,
        call = .side (.joinIncident identity eventId newId now)
    · obtain ⟨identity, eventId, newId, now, rfl⟩ := hside
      exact h.join identity eventId newId now
    · exact h.of_same (s.lifecycleStep_keeps_members
        (fun identity eventId newId now heq => hside ⟨identity, eventId, newId, now, heq⟩)).1

theorem incidentStep_register (hsound : s.IncidentsSound) (h : s.Registered)
    (call : IncidentCall) (hnamed : call.Named) :
    s.register.Step call (s.incidentStep call).register := by
  cases call with
  | join identity eventId newId now => exact join_register hsound h hnamed newId now
  | transition incidentId state reason now =>
    exact transition_register h incidentId state reason now
  | lifecycle call =>
    by_cases hside : ∃ identity eventId newId now,
        call = .side (.joinIncident identity eventId newId now)
    · obtain ⟨identity, eventId, newId, now, rfl⟩ := hside
      exact join_register hsound h hnamed newId now
    · obtain ⟨⟨hincidents, hmembers, -⟩, hstored⟩ := s.lifecycleStep_keeps_members
        (fun identity eventId newId now heq => hside ⟨identity, eventId, newId, now, heq⟩)
      have hkept : s.register.Kept (s.lifecycleStep call).register := by
        constructor
        · funext id
          change (s.lifecycleStep call).caseOf id = s.caseOf id
          unfold caseOf members
          rw [hincidents, hmembers]
        · intro id c hcase e he
          obtain ⟨row, -, -, -, hevents⟩ := row_of_caseOf hcase
          rw [hevents] at he
          obtain ⟨m, hm, -⟩ := mem_members.mp he
          have hmem := KeyedTable.mem_of_get? hm
          have hkept := hstored m hmem (hsound.stored m hmem)
          rw [KeyedTable.key_of_get? hm] at hkept
          exact hkept
      unfold Register.Step
      split
      · rename_i heq
        cases heq
      · rename_i heq
        cases heq
      · rename_i identity eventId newId now heq
        cases heq
        exact absurd ⟨identity, eventId, newId, now, rfl⟩ hside
      · rename_i heq
        cases heq
        exact hkept

def simulation : Simulation incidentStep IncidentCall.Named Register.Step where
  abs := register
  Inv := fun s => s.IncidentsSound ∧ s.Registered
  keeps := fun s call h => ⟨s.incidentStep_sound call h.1, h.2.step call⟩
  allows := fun _ call h hnamed => incidentStep_register h.1 h.2 call hnamed

end EventStore

/-- The record shows the case, with its events in the order of the times at which they joined. -/
structure IncidentRecord.Reads (record : IncidentRecord) (c : IncidentCase) : Prop where
  identity : record.identity = c.identity
  state : record.state = c.state
  openedAt : record.openedAt = c.openedAt
  updatedAt : record.updatedAt = c.updatedAt
  events : record.eventIds.Perm c.eventIds

lemma EventStore.incident_reads {s : EventStore} (h : s.Registered) (incidentId : String) :
    ∃ record, s.incident incidentId = .ok record ∧
      Option.Rel IncidentRecord.Reads record (s.caseOf incidentId) := by
  cases hrow : s.incidents.get? incidentId with
  | none =>
    refine ⟨none, ?_, ?_⟩
    · rw [incident, hrow]
    · rw [caseOf, hrow]
      exact .none
  | some row =>
    obtain ⟨identity, hidentity, hcase⟩ := h.caseOf_row hrow
    have hkey : row.incidentId = incidentId := KeyedTable.key_of_get? hrow
    refine ⟨some (s.recordOf row identity), ?_, ?_⟩
    · rw [incident, hrow]
      dsimp only
      rw [incidentRecord, hidentity]
      rfl
    · rw [hcase]
      refine .some ⟨rfl, rfl, rfl, rfl, ?_⟩
      unfold recordOf
      dsimp only
      rw [hkey]
      exact (List.perm_insertionSort _ _).map _

structure IncidentCase.Becomes (c c' : IncidentCase) : Prop where
  identity : c'.identity = c.identity
  openedAt : c'.openedAt = c.openedAt
  moves : Relation.ReflTransGen (fun a b => b ∈ IncidentCase.allowed a) c.state c'.state
  events : ∃ joined, c'.eventIds = c.eventIds ++ joined
  settled : c.state ∉ [.opened, .acknowledged] → c'.eventIds = c.eventIds

namespace IncidentCase

variable {c c' c'' : IncidentCase}

lemma Becomes.refl (c : IncidentCase) : c.Becomes c :=
  ⟨rfl, rfl, .refl, ⟨[], (List.append_nil _).symm⟩, fun _ => rfl⟩

lemma settled_of_moves {a b : IncidentState}
    (h : Relation.ReflTransGen (fun a b => b ∈ allowed a) a b)
    (ha : a ∉ [IncidentState.opened, .acknowledged]) :
    b ∉ [IncidentState.opened, .acknowledged] := by
  induction h with
  | refl => exact ha
  | @tail b c _ hstep ih =>
    revert hstep ih
    cases b <;> cases c <;> decide

lemma Becomes.trans (h : c.Becomes c') (h' : c'.Becomes c'') : c.Becomes c'' := by
  obtain ⟨joined, hjoined⟩ := h.events
  obtain ⟨later, hlater⟩ := h'.events
  refine ⟨h'.identity.trans h.identity, h'.openedAt.trans h.openedAt, h.moves.trans h'.moves,
    ⟨joined ++ later, by rw [hlater, hjoined, List.append_assoc]⟩, fun hstate => ?_⟩
  rw [h'.settled (settled_of_moves h.moves hstate), h.settled hstate]

lemma joinEvent_becomes {identity : IncidentIdentity} {eventId : String} {now : Datetime}
    (h : c.joinEvent identity eventId now = .ok c') :
    c.Becomes { c' with updatedAt := now } := by
  unfold joinEvent at h
  split at h
  · cases h
  split at h
  · cases h
  rename_i hjoin
  rw [Bool.not_eq_true, Bool.not_eq_false'] at hjoin
  have hactive : c.state ∈ [IncidentState.opened, .acknowledged] :=
    of_decide_eq_true ((Bool.and_eq_true _ _).mp hjoin).1
  split at h
  · cases h
    exact ⟨rfl, rfl, .refl, ⟨[], (List.append_nil _).symm⟩, fun hstate => absurd hactive hstate⟩
  · cases h
    exact ⟨rfl, rfl, .refl, ⟨[eventId], rfl⟩, fun hstate => absurd hactive hstate⟩

lemma transition_becomes {target : IncidentState} {now : Datetime}
    (h : c.transition target now = .ok c') : c.Becomes c' := by
  unfold transition at h
  split at h
  · cases h
  rename_i hallowed
  rw [not_not] at hallowed
  cases h
  exact ⟨rfl, rfl, .single hallowed, ⟨[], (List.append_nil _).symm⟩, fun _ => rfl⟩

end IncidentCase

namespace Register

def Becomes (r r' : Register) : Prop :=
  ∀ id c, r.cases id = some c → ∃ c', r'.cases id = some c' ∧ c.Becomes c'

variable {r r' : Register} {id : String} {c : IncidentCase}

lemma Becomes.refl (r : Register) : r.Becomes r := fun _ c hc => ⟨c, hc, .refl c⟩

lemma Becomes.trans (r r' r'' : Register) (h : r.Becomes r') (h' : r'.Becomes r'') :
    r.Becomes r'' := by
  intro id c hc
  obtain ⟨c', hc', hbecomes⟩ := h id c hc
  obtain ⟨c'', hc'', hlater⟩ := h' id c' hc'
  exact ⟨c'', hc'', hbecomes.trans hlater⟩

lemma put_becomes (h : ∀ old, r.cases id = some old → old.Becomes c) : r.Becomes (r.put id c) := by
  intro other old hold
  by_cases hid : other = id
  · subst hid
    exact ⟨c, Function.update_self .., h old hold⟩
  · exact ⟨old, (Function.update_of_ne hid ..).trans hold, .refl old⟩

lemma Join.becomes {identity : IncidentIdentity} {eventId newId : String} {now : Datetime}
    (h : r.Join identity eventId newId now r') : r.Becomes r' := by
  cases h with
  | joined id c joined known found join only =>
    refine put_becomes (fun old hold => ?_)
    obtain rfl := Option.some.inj (found.symm.trans hold)
    exact IncidentCase.joinEvent_becomes join
  | opened c known closed fresh alone opens =>
    refine put_becomes (fun old hold => ?_)
    rw [fresh] at hold
    cases hold
  | _ => exact .refl r

lemma Move.becomes {incidentId : String} {target : IncidentState} {now : Datetime}
    (h : r.Move incidentId target now r') : r.Becomes r' := by
  cases h with
  | moved c moved found move =>
    refine put_becomes (fun old hold => ?_)
    obtain rfl := Option.some.inj (found.symm.trans hold)
    exact IncidentCase.transition_becomes move
  | _ => exact .refl r

lemma Kept.becomes (h : r.Kept r') : r.Becomes r' :=
  fun _ c hc => ⟨c, h.cases ▸ hc, .refl c⟩

lemma Step.becomes {call : IncidentCall} (h : r.Step call r') : r.Becomes r' := by
  unfold Step at h
  split at h
  · exact Join.becomes h
  · exact Move.becomes h
  · exact Join.becomes h
  · exact Kept.becomes h

end Register

namespace EventStore

variable {s : EventStore} {incidentId id : String} {row : IncidentRow}

def tablesOf (s : EventStore) (id : String) : Option IncidentRow × List IncidentEvent :=
  (s.incidents.get? id, s.incidentEvents.rows.filter (fun m => m.incidentId = id))

lemma incident_eq_of_tablesOf {s' : EventStore} (h : s'.tablesOf id = s.tablesOf id) :
    s'.incident id = s.incident id := by
  obtain ⟨hrow, hevents⟩ := Prod.mk.inj h
  unfold incident
  rw [hrow]
  cases hget : s.incidents.get? id with
  | none => rfl
  | some row =>
    dsimp only
    unfold incidentRecord recordOf
    rw [KeyedTable.key_of_get? hget, hevents]

lemma tablesOf_joinedTo (hid : id ≠ incidentId) (eventId : String) (now : Datetime) :
    (s.joinedTo incidentId eventId now).tablesOf id = s.tablesOf id := by
  unfold joinedTo tablesOf
  dsimp only
  rw [KeyedTable.get?_modify_of_ne (fun row => row.touched_incidentId now) hid]
  congr 1
  cases hprior : s.incidentEvents.get? eventId with
  | some prior => rw [KeyedTable.insert_of_some hprior]
  | none =>
    rw [KeyedTable.rows_insert_of_none hprior, List.filter_append]
    simp [Ne.symm hid]

lemma tablesOf_openedFor {identity : IncidentIdentity} (hid : incidentId ≠ id) (now : Datetime) :
    (s.openedFor identity incidentId now).tablesOf id = s.tablesOf id := by
  unfold tablesOf
  rw [incidents_openedFor_of_ne hid]
  rfl

lemma join_archived (hrow : s.incidents.get? id = some row) (harchived : row.state = .archived)
    (identity : IncidentIdentity) (eventId newId : String) (now : Datetime) :
    (s.after (s.createOrJoinIncident identity eventId newId now)).tablesOf id = s.tablesOf id := by
  have houtcome := s.createOrJoinIncident_joined identity eventId newId now
  generalize s.after (s.createOrJoinIncident identity eventId newId now) = s' at houtcome
  cases houtcome with
  | joined active known found only =>
    apply tablesOf_joinedTo
    rintro rfl
    have hmem := List.mem_of_find?_eq_some found
    obtain rfl := Option.some.inj (hrow.symm.trans (KeyedTable.get?_of_mem hmem))
    have hmatch := List.find?_some (show s.incidents.rows.find? _ = some row from found)
    have hactive := (of_decide_eq_true hmatch).2.2.2
    rw [harchived] at hactive
    exact absurd hactive (by decide)
  | opened known inactive fresh only =>
    have hid : newId ≠ id := by
      rintro rfl
      rw [hrow] at fresh
      cases fresh
    rw [tablesOf_joinedTo (Ne.symm hid), tablesOf_openedFor hid]
  | _ => rfl

lemma step_archived (hrow : s.incidents.get? id = some row) (harchived : row.state = .archived)
    (call : IncidentCall) : (s.incidentStep call).tablesOf id = s.tablesOf id := by
  cases call with
  | join identity eventId newId now => exact join_archived hrow harchived identity eventId newId now
  | transition incidentId state reason now =>
    unfold incidentStep
    dsimp only
    cases hcall : s.transitionIncident incidentId state reason now with
    | error e => rfl
    | ok result =>
      obtain ⟨moved, s'⟩ := result
      obtain ⟨old, hold, hallowed, rfl⟩ := transitionIncident_cases hcall
      have hid : id ≠ incidentId := by
        rintro rfl
        obtain rfl := Option.some.inj (hrow.symm.trans hold)
        rw [harchived] at hallowed
        simp [IncidentState.allowed] at hallowed
      unfold after tablesOf
      dsimp only
      rw [KeyedTable.get?_modify_of_ne (fun r => IncidentRow.moved_incidentId r state now) hid]
  | lifecycle call =>
    by_cases hside : ∃ identity eventId newId now,
        call = .side (.joinIncident identity eventId newId now)
    · obtain ⟨identity, eventId, newId, now, rfl⟩ := hside
      exact join_archived hrow harchived identity eventId newId now
    · obtain ⟨hincidents, hmembers, -⟩ := (s.lifecycleStep_keeps_members
        (fun identity eventId newId now heq => hside ⟨identity, eventId, newId, now, heq⟩)).1
      change (s.lifecycleStep call).tablesOf id = _
      unfold tablesOf
      rw [hincidents, hmembers]

lemma final_archived (hrow : s.incidents.get? id = some row) (harchived : row.state = .archived)
    (calls : List IncidentCall) : (final incidentStep s calls).tablesOf id = s.tablesOf id := by
  induction calls generalizing s with
  | nil => rfl
  | cons call calls ih =>
    have hstep := step_archived hrow harchived call
    rw [final_cons, ih ((congrArg Prod.fst hstep).trans hrow), hstep]

lemma row_of_incident {record : IncidentRecord} (h : s.incident id = .ok (some record)) :
    ∃ row, s.incidents.get? id = some row ∧ row.state = record.state := by
  unfold incident at h
  cases hrow : s.incidents.get? id with
  | none =>
    rw [hrow] at h
    cases h
  | some row =>
    rw [hrow] at h
    dsimp only at h
    unfold incidentRecord at h
    cases hidentity : row.identity with
    | none =>
      rw [hidentity] at h
      cases h
    | some identity =>
      rw [hidentity] at h
      cases h
      exact ⟨row, rfl, rfl⟩

end EventStore

section runs

variable {s : EventStore} (hincidents : s.incidents.rows = [])
  (hmembers : s.incidentEvents.rows = []) (htransitions : s.incidentTransitions = [])

include hincidents hmembers htransitions

lemma EventStore.simulation_start : EventStore.simulation.Inv s := by
  refine ⟨EventStore.sound_of_empty hincidents hmembers htransitions, ?_, ?_⟩
  · rw [hmembers]
    exact fun m hm => absurd hm List.not_mem_nil
  · rw [hincidents]
    exact fun row hrow => absurd hrow List.not_mem_nil

/-- From a store without incidents, whatever calls follow, the store does with its incidents what
the contract of a case and the register of such cases allow, and each incident is read back as its
case. -/
theorem incidents_follow_cases {calls : List IncidentCall} (hnamed : ∀ call ∈ calls, call.Named) :
    Allowed Register.Step s.register calls (final EventStore.incidentStep s calls).register ∧
      ∀ id, ∃ record, (final EventStore.incidentStep s calls).incident id = .ok record ∧
        Option.Rel IncidentRecord.Reads record
          ((final EventStore.incidentStep s calls).register.cases id) := by
  have hstart := EventStore.simulation_start hincidents hmembers htransitions
  have hend := EventStore.simulation.inv_final hstart calls
  exact ⟨EventStore.simulation.allowed_final hstart hnamed,
    fun id => EventStore.incident_reads hend.2 id⟩

/-- Between any two points of a run an incident keeps its cause and its start and loses no event.
It moves along the table. Once it is resolved no event joins it, and once it is archived it stays
as it is. -/
theorem incident_history {before after : List IncidentCall}
    (hnamed : ∀ call ∈ before ++ after, call.Named) {id : String} {record : IncidentRecord}
    (hread : (final EventStore.incidentStep s before).incident id = .ok (some record)) :
    ∃ later, (final EventStore.incidentStep s (before ++ after)).incident id = .ok (some later) ∧
      later.identity = record.identity ∧ later.openedAt = record.openedAt ∧
      Relation.ReflTransGen (fun a b => b ∈ IncidentCase.allowed a) record.state later.state ∧
      (∀ e ∈ record.eventIds, e ∈ later.eventIds) ∧
      (record.state ∉ [.opened, .acknowledged] → later.eventIds.Perm record.eventIds) ∧
      (record.state = .archived → later = record) := by
  have hstart := EventStore.simulation_start hincidents hmembers htransitions
  have hbefore := EventStore.simulation.inv_final hstart before
  have hafter := EventStore.simulation.inv_final hbefore after
  rw [show final EventStore.incidentStep s (before ++ after) =
    final EventStore.incidentStep (final EventStore.incidentStep s before) after from
      List.foldl_append ..]
  generalize final EventStore.incidentStep s before = s₁ at hread hbefore hafter ⊢
  have harchived : record.state = .archived →
      (final EventStore.incidentStep s₁ after).incident id = .ok (some record) := by
    intro hstate
    obtain ⟨row, hrow, hsame⟩ := EventStore.row_of_incident hread
    rw [← hread]
    exact EventStore.incident_eq_of_tablesOf
      (EventStore.final_archived hrow (hsame.trans hstate) after)
  have hrun := (EventStore.simulation.allowed_final hbefore
    (fun call hcall => hnamed call (List.mem_append_right before hcall))).related
      Register.Becomes.refl Register.Becomes.trans (fun _ _ _ => Register.Step.becomes)
  obtain ⟨first, hfirst, hreads⟩ := EventStore.incident_reads hbefore.2 id
  obtain rfl := Except.ok.inj (hread.symm.trans hfirst)
  obtain ⟨last, hlast, hreads'⟩ := EventStore.incident_reads hafter.2 id
  generalize final EventStore.incidentStep s₁ after = s₂ at hlast hreads' hrun harchived ⊢
  cases hcase : s₁.caseOf id with
  | none =>
    rw [hcase] at hreads
    cases hreads
  | some c =>
    rw [hcase] at hreads
    obtain ⟨c', hcase', hbecomes⟩ := hrun id c hcase
    change s₂.caseOf id = some c' at hcase'
    rw [hcase'] at hreads'
    cases hreads with
    | some hshows =>
      cases hreads' with
      | @some later _ hshows' =>
        obtain ⟨joined, hjoined⟩ := hbecomes.events
        refine ⟨later, hlast, ?_, ?_, ?_, ?_, ?_, ?_⟩
        · rw [hshows'.identity, hbecomes.identity, hshows.identity]
        · rw [hshows'.openedAt, hbecomes.openedAt, hshows.openedAt]
        · rw [hshows'.state, hshows.state]
          exact hbecomes.moves
        · intro e he
          rw [hshows'.events.mem_iff, hjoined]
          exact List.mem_append_left joined (hshows.events.mem_iff.mp he)
        · intro hstate
          rw [hshows.state] at hstate
          have hsame := hshows'.events
          rw [hbecomes.settled hstate] at hsame
          exact hsame.trans hshows.events.symm
        · intro hstate
          have hsame := Except.ok.inj (hlast.symm.trans (harchived hstate))
          exact Option.some.inj hsame

end runs

lemma bgpCause_nonblank : isBlank "r1" = false ∧ isBlank "bgp_session" = false ∧
    isBlank "10.0.0.1" = false := by decide

def bgpCause : IncidentIdentity := ⟨"r1", "bgp_session", "10.0.0.1", bgpCause_nonblank⟩

def earlierCalls : List IncidentCall :=
  [.lifecycle (.event (.createOrGet "e1" "r1" [] false ⟨0, 0⟩)),
    .lifecycle (.event (.createOrGet "e2" "r1" [] false ⟨0, 0⟩)),
    .join bgpCause "e1" "i1" ⟨0, 0⟩]

def laterCalls : List IncidentCall :=
  [.transition "i1" .resolved none ⟨1, 0⟩, .join bgpCause "e2" "i2" ⟨2, 0⟩]

lemma calls_named : ∀ call ∈ earlierCalls ++ laterCalls, call.Named := by
  have hfirst : "e1" ≠ "" := by decide
  have hlater : "e2" ≠ "" := by decide
  rw [List.forall_mem_append]
  constructor
  · exact List.forall_mem_cons.mpr ⟨trivial,
      List.forall_mem_cons.mpr ⟨trivial, List.forall_mem_singleton.mpr hfirst⟩⟩
  · exact List.forall_mem_cons.mpr ⟨trivial, List.forall_mem_singleton.mpr hlater⟩

theorem incidents_follow_cases_recurring :
    Allowed Register.Step EventStore.empty.register (earlierCalls ++ laterCalls)
      (final EventStore.incidentStep .empty (earlierCalls ++ laterCalls)).register ∧
    ∀ id, ∃ record,
      (final EventStore.incidentStep .empty (earlierCalls ++ laterCalls)).incident id = .ok record ∧
        Option.Rel IncidentRecord.Reads record
          ((final EventStore.incidentStep .empty (earlierCalls ++ laterCalls)).register.cases id) :=
  incidents_follow_cases (s := .empty) rfl rfl rfl calls_named

theorem incident_history_recurring : ∃ later,
    (final EventStore.incidentStep .empty (earlierCalls ++ laterCalls)).incident "i1" =
      .ok (some later) ∧ later.identity = bgpCause ∧ later.openedAt = ⟨0, 0⟩ := by
  have hfirst : (final EventStore.incidentStep .empty earlierCalls).incident "i1" =
      .ok (some ⟨"i1", bgpCause, .opened, ["e1"], ⟨0, 0⟩, ⟨0, 0⟩, none⟩) := rfl
  obtain ⟨later, hread, hidentity, hopened, -⟩ :=
    incident_history rfl rfl rfl calls_named hfirst
  exact ⟨later, hread, hidentity, hopened⟩

end NetTools
