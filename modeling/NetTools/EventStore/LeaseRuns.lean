import NetTools.EventStore.Events
import NetTools.Library.Fencing
import NetTools.Library.Runs

/-!
# Runs of fenced workers

Workers call the event operations in any order. The world remembers which lease tokens
`acquire_lease` has returned, and a fenced call may present one of them. A call that presents
a token must change an event only under that token's live lease, and no call may do so with a
token that a later one has superseded.
-/

namespace NetTools

open Fencing Runs

inductive StoreCall where
  | createOrGet (eventId device : String) (payload : Dict) (strict : Bool) (now : Datetime)
  | transition (eventId : String) (state : EventState) (reason ticketId leaseOwner : Option String)
      (leaseEpoch : Option Int) (now : Datetime)
  | scheduleRetry (eventId reason : String) (ticketId : Option String) (baseSeconds : ℚ)
      (maxAttempts : Int) (leaseOwner : Option String) (leaseEpoch : Option Int) (now : Datetime)
  | acquireLease (eventId owner : String) (leaseSeconds : ℚ) (now : Datetime)
  | renewLease (eventId owner : String) (leaseEpoch : Int) (leaseSeconds : ℚ) (now : Datetime)

namespace StoreCall

def now : StoreCall → Datetime
  | createOrGet _ _ _ _ now => now
  | transition _ _ _ _ _ _ now => now
  | scheduleRetry _ _ _ _ _ _ _ now => now
  | acquireLease _ _ _ now => now
  | renewLease _ _ _ _ now => now

def presented : StoreCall → Option (Token String String)
  | transition eventId _ _ _ (some owner) (some epoch) _ => some ⟨eventId, owner, epoch⟩
  | scheduleRetry eventId _ _ _ _ (some owner) (some epoch) _ => some ⟨eventId, owner, epoch⟩
  | renewLease eventId owner epoch _ _ => some ⟨eventId, owner, epoch⟩
  | _ => none

/-- The call passes all its checks but the lease fence on this row, and has something to
write. -/
def AdmittedBy (row : EventRecord) : StoreCall → Prop
  | transition _ state _ _ _ _ _ => state ∈ row.state.allowedTransitions
  | scheduleRetry _ _ _ baseSeconds maxAttempts _ _ _ =>
    0 < baseSeconds ∧ 1 ≤ maxAttempts ∧ row.state.workable = true
  | renewLease _ owner _ leaseSeconds now =>
    isBlank owner = false ∧ 0 < leaseSeconds ∧ row.state = .running ∧
      ¬(row.leaseExpiresAt = some (now.addSeconds leaseSeconds) ∧ row.updatedAt = now)
  | _ => False

end StoreCall

/-- The store together with the tokens that `acquire_lease` has returned, latest first. -/
structure LeaseWorld where
  store : EventStore
  issued : List (Token String String)

namespace LeaseWorld

def initial : LeaseWorld := ⟨.empty, []⟩

def step (w : LeaseWorld) : StoreCall → LeaseWorld
  | .createOrGet eventId device payload strict now =>
    match w.store.createOrGet eventId device payload strict now with
    | .ok (_, s) => { w with store := s }
    | .error _ => w
  | .transition eventId state reason ticketId leaseOwner leaseEpoch now =>
    match w.store.transition eventId state reason ticketId leaseOwner leaseEpoch now with
    | .ok (_, s) => { w with store := s }
    | .error _ => w
  | .scheduleRetry eventId reason ticketId baseSeconds maxAttempts leaseOwner leaseEpoch now =>
    match w.store.scheduleRetry eventId reason ticketId baseSeconds maxAttempts leaseOwner
        leaseEpoch now with
    | .ok (_, s) => { w with store := s }
    | .error _ => w
  | .acquireLease eventId owner leaseSeconds now =>
    match w.store.acquireLease eventId owner leaseSeconds now with
    | .ok (record, s) => ⟨s, ⟨eventId, owner, record.leaseEpoch⟩ :: w.issued⟩
    | .error _ => w
  | .renewLease eventId owner leaseEpoch leaseSeconds now =>
    match w.store.renewLease eventId owner leaseEpoch leaseSeconds now with
    | .ok (_, s) => { w with store := s }
    | .error _ => w

def Changes (w : LeaseWorld) (call : StoreCall) (eventId : String) : Prop :=
  (w.step call).store.view eventId ≠ w.store.view eventId

/-- Presenting an issued token changes the event only under that token's live lease, and a
superseded token changes nothing. -/
structure Fenced (w : LeaseWorld) (call : StoreCall) : Prop where
  held : ∀ t ∈ w.issued, call.presented = some t → w.Changes call t.resource →
    ∃ row, w.store.get t.resource = some row ∧ row.HeldBy t.owner t.epoch call.now
  takenOver : ∀ t ∈ w.issued, call.presented = some t → Superseded w.issued t →
    ¬w.Changes call t.resource

/-- No issued token is presented on a row without a lease owner that would otherwise admit
the call: there the fence has nothing to compare the token with. -/
def FenceArmed (w : LeaseWorld) (call : StoreCall) : Prop :=
  ∀ t ∈ w.issued, call.presented = some t →
    ∀ row, w.store.get t.resource = some row → row.leaseOwner = none → ¬call.AdmittedBy row

def epochOf (s : EventStore) (eventId : String) : Int :=
  ((s.get eventId).map EventRecord.leaseEpoch).getD 0

lemma epochOf_of_get {s : EventStore} {eventId : String} {row : EventRecord}
    (h : s.get eventId = some row) : epochOf s eventId = row.leaseEpoch := by
  simp [epochOf, h]

lemma epochOf_writeEvent_le {s : EventStore} {eventId : String} {f : EventRecord → EventRecord}
    {hf : ∀ r, (f r).eventId = r.eventId} {logged : List EventAttempt} {row : EventRecord}
    (h : s.get eventId = some row) (hle : row.leaseEpoch ≤ (f row).leaseEpoch) (k : String) :
    epochOf s k ≤ epochOf (s.writeEvent eventId f hf logged) k := by
  by_cases hk : k = eventId
  · subst hk
    rw [epochOf_of_get h, epochOf_of_get (EventStore.get_writeEvent_self h)]
    exact hle
  · rw [epochOf, epochOf, EventStore.get_writeEvent_of_ne hk]

lemma epochOf_insertReceived {s : EventStore} {eventId device : String} {payload : Dict}
    {now : Datetime} (h : s.get eventId = none) (k : String) :
    epochOf (s.insertReceived eventId device payload now) k = epochOf s k := by
  by_cases hk : k = eventId
  · subst hk
    simp [epochOf, h, EventStore.get_insertReceived_self h, EventStore.newEvent]
  · rw [epochOf, epochOf, EventStore.get_insertReceived_of_ne hk]

theorem step_bounded (w : LeaseWorld) (call : StoreCall)
    (hb : Bounded (epochOf w.store) w.issued) :
    Bounded (epochOf (w.step call).store) (w.step call).issued := by
  cases call with
  | createOrGet eventId device payload strict now =>
    simp only [step]
    split
    · rename_i hok
      rcases EventStore.createOrGet_cases hok with ⟨-, -, -, -, rfl⟩ | ⟨hnone, -, rfl⟩
      · exact hb
      · exact hb.mono (fun k => (epochOf_insertReceived hnone k).ge)
    · exact hb
  | transition eventId state reason ticketId leaseOwner leaseEpoch now =>
    simp only [step]
    split
    · rename_i hok
      obtain ⟨row, hrow, -, -, -, rfl⟩ := EventStore.transition_cases hok
      exact hb.mono (epochOf_writeEvent_le hrow le_rfl)
    · exact hb
  | scheduleRetry eventId reason ticketId baseSeconds maxAttempts leaseOwner leaseEpoch now =>
    simp only [step]
    split
    · rename_i hok
      obtain ⟨-, -, row, hrow, -, -, target, retryAt, -, -, -, rfl⟩ :=
        EventStore.scheduleRetry_cases hok
      exact hb.mono (epochOf_writeEvent_le hrow le_rfl)
    · exact hb
  | acquireLease eventId owner leaseSeconds now =>
    simp only [step]
    split
    · rename_i hok
      obtain ⟨row, hrow, -, rfl, rfl⟩ := EventStore.acquireLease_cases hok
      have hup : row.leaseEpoch ≤ (row.leased owner leaseSeconds now).leaseEpoch := by
        simp only [EventRecord.leased]
        omega
      exact hb.issue (epochOf_writeEvent_le hrow hup)
        (epochOf_of_get (EventStore.get_writeEvent_self hrow)).ge
    · exact hb
  | renewLease eventId owner leaseEpoch leaseSeconds now =>
    simp only [step]
    split
    · rename_i hok
      obtain ⟨-, -, row, hrow, -, -, -, rfl⟩ := EventStore.renewLease_cases hok
      exact hb.mono (epochOf_writeEvent_le hrow le_rfl)
    · exact hb

lemma changes_cases {w : LeaseWorld} {call : StoreCall} {t : Token String String}
    (hp : call.presented = some t) (hc : w.Changes call t.resource) :
    ∃ row, w.store.get t.resource = some row ∧ call.AdmittedBy row ∧
      (row.leaseOwner = none ∨ row.HeldBy t.owner t.epoch call.now) := by
  have held_of_fence : ∀ {row : EventRecord} {owner : String} {epoch : Int} {now : Datetime},
      EventStore.validateLeaseFence row (some owner) (some epoch) now = .ok () →
        row.leaseOwner = none ∨ row.HeldBy owner epoch now := by
    intro row owner epoch now hfence
    rcases EventStore.validateLeaseFence_eq_ok_iff.mp hfence with hnone | ⟨o, k, ho, hk, hheld⟩
    · exact .inl hnone
    · cases ho
      cases hk
      exact .inr hheld
  unfold Changes at hc
  cases call with
  | createOrGet eventId device payload strict now => cases hp
  | acquireLease eventId owner leaseSeconds now => cases hp
  | transition eventId state reason ticketId leaseOwner leaseEpoch now =>
    cases leaseOwner with
    | none => cases hp
    | some owner =>
      cases leaseEpoch with
      | none => cases hp
      | some epoch =>
        cases hp
        simp only [step] at hc
        split at hc
        · rename_i hok
          obtain ⟨row, hrow, hallowed, hfence, -, -⟩ := EventStore.transition_cases hok
          exact ⟨row, hrow, hallowed, held_of_fence hfence⟩
        · exact absurd rfl hc
  | scheduleRetry eventId reason ticketId baseSeconds maxAttempts leaseOwner leaseEpoch now =>
    cases leaseOwner with
    | none => cases hp
    | some owner =>
      cases leaseEpoch with
      | none => cases hp
      | some epoch =>
        cases hp
        simp only [step] at hc
        split at hc
        · rename_i hok
          obtain ⟨hbase, hmax, row, hrow, hworkable, hfence, -⟩ :=
            EventStore.scheduleRetry_cases hok
          exact ⟨row, hrow, ⟨hbase, hmax, hworkable⟩, held_of_fence hfence⟩
        · exact absurd rfl hc
  | renewLease eventId owner epoch leaseSeconds now =>
    cases hp
    simp only [step] at hc
    split at hc
    · rename_i hok
      obtain ⟨howner, hseconds, row, hrow, hrunning, hfence, -, rfl⟩ :=
        EventStore.renewLease_cases hok
      refine ⟨row, hrow, ⟨howner, hseconds, hrunning, ?_⟩, held_of_fence hfence⟩
      rintro ⟨hexpiry, hupdated⟩
      have hsame : row.renewed leaseSeconds now = row := by
        rw [EventRecord.renewed, ← hexpiry, ← hupdated]
      apply hc
      rw [EventStore.view_writeEvent_self hrow, hsame, List.append_nil, EventStore.view, hrow]
    · exact absurd rfl hc

lemma changes_of_unleased {w : LeaseWorld} {call : StoreCall} {t : Token String String}
    (hp : call.presented = some t) {row : EventRecord} (hrow : w.store.get t.resource = some row)
    (hnone : row.leaseOwner = none) (hadmitted : call.AdmittedBy row) :
    w.Changes call t.resource := by
  have hfence : ∀ owner epoch now,
      EventStore.validateLeaseFence row owner epoch now = .ok () :=
    fun owner epoch now => EventStore.validateLeaseFence_eq_ok_iff.mpr (.inl hnone)
  have grows : ∀ {s' : EventStore} {logged : List EventAttempt}, logged ≠ [] →
      s'.eventAttempts t.resource = w.store.eventAttempts t.resource ++ logged →
      s'.view t.resource ≠ w.store.view t.resource := by
    intro s' logged hlogged hlog hview
    have hsame := congrArg EventView.attempts hview
    simp only [EventStore.view_attempts, hlog] at hsame
    exact hlogged (List.append_right_eq_self.mp hsame)
  unfold Changes
  cases call with
  | createOrGet eventId device payload strict now => cases hp
  | acquireLease eventId owner leaseSeconds now => cases hp
  | transition eventId state reason ticketId leaseOwner leaseEpoch now =>
    cases leaseOwner with
    | none => cases hp
    | some owner =>
      cases leaseEpoch with
      | none => cases hp
      | some epoch =>
        cases hp
        simp only [step, EventStore.transition_eq_ok hrow hadmitted (hfence _ _ _)]
        exact grows (by simp) EventStore.eventAttempts_writeEvent_self
  | scheduleRetry eventId reason ticketId baseSeconds maxAttempts leaseOwner leaseEpoch now =>
    cases leaseOwner with
    | none => cases hp
    | some owner =>
      cases leaseEpoch with
      | none => cases hp
      | some epoch =>
        cases hp
        obtain ⟨hbase, hmax, hworkable⟩ := hadmitted
        have hex : ∃ result, w.store.scheduleRetry eventId reason ticketId baseSeconds maxAttempts
            (some owner) (some epoch) now = .ok result :=
          EventStore.exists_scheduleRetry_eq_ok hbase hmax hrow hworkable (hfence _ _ _)
        obtain ⟨⟨record, s'⟩, hok⟩ := hex
        simp only [step, hok]
        obtain ⟨-, -, -, -, -, -, target, retryAt, -, -, -, rfl⟩ :=
          EventStore.scheduleRetry_cases hok
        exact grows (by simp) EventStore.eventAttempts_writeEvent_self
  | renewLease eventId owner epoch leaseSeconds now =>
    cases hp
    obtain ⟨howner, hseconds, hrunning, hnew⟩ := hadmitted
    simp only [step, EventStore.renewLease_eq_ok howner hseconds hrow hrunning (hfence _ _ _)]
    intro hview
    have hsame := congrArg EventView.row hview
    rw [EventStore.view_writeEvent_self hrow, EventStore.view_row, hrow,
      Option.some.injEq] at hsame
    exact hnew ⟨(congrArg EventRecord.leaseExpiresAt hsame).symm,
      (congrArg EventRecord.updatedAt hsame).symm⟩

lemma fenced_iff_fenceArmed (w : LeaseWorld) (call : StoreCall)
    (hb : Bounded (epochOf w.store) w.issued) : w.Fenced call ↔ w.FenceArmed call := by
  constructor
  · intro h t ht hp row hrow hnone hadmitted
    obtain ⟨row', hrow', hheld⟩ :=
      h.held t ht hp (changes_of_unleased hp hrow hnone hadmitted)
    have hsame : row' = row := Option.some.inj (hrow'.symm.trans hrow)
    rw [hsame] at hheld
    rw [hheld.1] at hnone
    cases hnone
  · intro harmed
    have held : ∀ t ∈ w.issued, call.presented = some t → w.Changes call t.resource →
        ∃ row, w.store.get t.resource = some row ∧ row.HeldBy t.owner t.epoch call.now := by
      intro t ht hp hc
      obtain ⟨row, hrow, hadmitted, hnone | hheld⟩ := changes_cases hp hc
      · exact absurd hadmitted (harmed t ht hp row hrow hnone)
      · exact ⟨row, hrow, hheld⟩
    refine ⟨held, ?_⟩
    intro t ht hp hsuperseded hc
    obtain ⟨row, hrow, -, hepoch, -⟩ := held t ht hp hc
    have hlt := hsuperseded.epoch_lt hb
    rw [epochOf_of_get hrow, hepoch] at hlt
    exact lt_irrefl _ hlt

end LeaseWorld

/-- In every run from an empty store, every call is fenced if and only if no call presents an
issued token on a row that holds no lease and would otherwise admit it. -/
theorem lease_fencing_iff (calls : List StoreCall) :
    AllSteps LeaseWorld.step LeaseWorld.Fenced .initial calls ↔
      AllSteps LeaseWorld.step LeaseWorld.FenceArmed .initial calls :=
  allSteps_iff LeaseWorld.step_bounded LeaseWorld.fenced_iff_fenceArmed bounded_nil calls

def utcSeconds (n : Int) : Datetime := ⟨n * 1000000, 0⟩

/-- Worker `A` lets its lease expire, worker `B` takes the event over and releases it for a
retry, and `A` then reports its own failure with the token of epoch 1. -/
def takeoverRun : List StoreCall :=
  [.createOrGet "e" "r1" [] false (utcSeconds 0),
    .transition "e" .admitted none none none none (utcSeconds 0),
    .acquireLease "e" "A" 10 (utcSeconds 0),
    .acquireLease "e" "B" 10 (utcSeconds 20),
    .scheduleRetry "e" "failed" none 5 3 (some "B") (some 2) (utcSeconds 21),
    .scheduleRetry "e" "late" none 5 3 (some "A") (some 1) (utcSeconds 22)]

theorem lease_fencing_fails :
    ¬∀ calls : List StoreCall,
      calls.Pairwise (fun c d => c.now.micros ≤ d.now.micros) →
        AllSteps LeaseWorld.step LeaseWorld.Fenced .initial calls := by
  intro h
  obtain ⟨-, -, -, -, -, hlast, -⟩ := h takeoverRun (by decide)
  let w := final LeaseWorld.step .initial (takeoverRun.take 5)
  let late : Token String String := ⟨"e", "A", 1⟩
  have hissued : w.issued = [⟨"e", "B", 2⟩, late] := by decide +kernel
  have hsuperseded : Superseded w.issued late :=
    ⟨⟨"e", "B", 2⟩, by simp [hissued], rfl, by decide⟩
  have hmem : late ∈ w.issued := by simp [hissued]
  refine hlast.takenOver late hmem rfl hsuperseded ?_
  intro hview
  have hlog : ((w.step (takeoverRun.getLast (by decide))).store.eventAttempts "e").length =
      (w.store.eventAttempts "e").length := congrArg (fun v => v.attempts.length) hview
  revert hlog
  decide +kernel

end NetTools
