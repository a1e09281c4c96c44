import NetTools.EventStore.Records
import NetTools.Library.Fencing

/-!
# Runs of outbox workers

Workers enqueue, claim and finish notifications in any order and under any clock, among the
other calls that leave events alone. The world remembers every claim and every outcome that
took effect, so that the counters of a row can be compared with what happened to it.
-/

namespace NetTools

open Fencing Runs

inductive OutboxEvent where
  | claimed (outboxId : Nat) (owner : String) (epoch : Int)
  | finished (outboxId : Nat) (owner : Option String) (epoch : Option Int)
deriving DecidableEq

namespace OutboxEvent

def outboxId : OutboxEvent → Nat
  | claimed outboxId _ _ => outboxId
  | finished outboxId _ _ => outboxId

def token : OutboxEvent → Option (Token Nat String)
  | claimed outboxId owner epoch => some ⟨outboxId, owner, epoch⟩
  | finished _ _ _ => none

end OutboxEvent

def SideCall.presented : SideCall → Option (Token Nat String)
  | finish outboxId _ _ _ _ _ _ (some owner) (some epoch) => some ⟨outboxId, owner, epoch⟩
  | _ => none

def SideCall.onOutbox : SideCall → Bool
  | enqueue .. => true
  | claim .. => true
  | finish .. => true
  | _ => false

/-- The store with the history of its outbox, latest event first. -/
structure OutboxWorld where
  store : EventStore
  history : List OutboxEvent

namespace OutboxWorld

def issued (w : OutboxWorld) : List (Token Nat String) := w.history.filterMap OutboxEvent.token

def claims (w : OutboxWorld) (outboxId : Nat) : Nat :=
  w.issued.countP (fun t => t.resource = outboxId)

def latest (w : OutboxWorld) (outboxId : Nat) : Option OutboxEvent :=
  w.history.find? (fun e => e.outboxId = outboxId)

def step (w : OutboxWorld) : SideCall → OutboxWorld
  | .claim outboxId owner leaseSeconds now =>
    match w.store.claimNotification outboxId owner leaseSeconds now with
    | .ok (row, s) => ⟨s, .claimed outboxId owner row.leaseEpoch :: w.history⟩
    | .error _ => w
  | .finish outboxId sent error now retryAfterSeconds baseSeconds maxAttempts owner leaseEpoch =>
    match w.store.finishNotification outboxId sent error now retryAfterSeconds baseSeconds
        maxAttempts owner leaseEpoch with
    | .ok (_, s) => ⟨s, .finished outboxId owner leaseEpoch :: w.history⟩
    | .error _ => w
  | call => { w with store := w.store.sideStep call }

lemma sideStep_outbox (s : EventStore) {call : SideCall} (h : call.onOutbox = false) :
    (s.sideStep call).outbox = s.outbox ∧
      (s.sideStep call).nextOutboxId = s.nextOutboxId := by
  cases call with
  | enqueue => cases h
  | claim => cases h
  | finish => cases h
  | saveCardState =>
    simp only [EventStore.sideStep, EventStore.saveTelegramCardState]
    split <;> exact ⟨rfl, rfl⟩
  | recordCard =>
    simp only [EventStore.sideStep, EventStore.recordTelegramCard]
    split
    · exact ⟨rfl, rfl⟩
    · split <;> exact ⟨rfl, rfl⟩
  | recordCallback =>
    simp only [EventStore.sideStep, EventStore.recordOperatorCallback]
    split
    · exact ⟨rfl, rfl⟩
    · split <;> exact ⟨rfl, rfl⟩
  | admissionShadow =>
    simp only [EventStore.sideStep, EventStore.recordAdmissionShadow]
    split <;> exact ⟨rfl, rfl⟩
  | narrowingShadow =>
    simp only [EventStore.sideStep, EventStore.recordNarrowingShadow]
    split
    · exact ⟨rfl, rfl⟩
    · split <;> exact ⟨rfl, rfl⟩
  | joinIncident identity eventId newId now =>
    simp only [EventStore.sideStep]
    cases hjoin : s.createOrJoinIncident identity eventId newId now with
    | error e => exact ⟨rfl, rfl⟩
    | ok result =>
      simp only [EventStore.createOrJoinIncident] at hjoin
      split at hjoin
      · cases hjoin
      · split at hjoin
        · cases hjoin
        · split at hjoin
          · cases hjoin
          · cases hjoin
            simp only [EventStore.after]
            split <;> exact ⟨rfl, rfl⟩

/-- What a claim or an outcome that takes effect does to its row. -/
inductive Change (call : SideCall) (row : OutboxRecord) : OutboxRecord → OutboxEvent → Prop where
  | claimed (owner : String) (leaseSeconds : ℚ) (now : Datetime)
      (hcall : call = .claim row.outboxId owner leaseSeconds now) (hdue : row.Claimable now) :
      Change call row (row.claimed owner leaseSeconds now)
        (.claimed row.outboxId owner (row.leaseEpoch + 1))
  | finished (sent : Bool) (error : Option String) (now : Datetime)
      (retryAfterSeconds : Option ℚ) (baseSeconds : ℚ) (maxAttempts : Int)
      (state : OutboxState) (retryAt : Option Datetime)
      (hcall : call = .finish row.outboxId sent error now retryAfterSeconds baseSeconds maxAttempts
        row.leaseOwner (some row.leaseEpoch))
      (hsending : row.state = .sending)
      (houtcome : (state, retryAt) =
        EventStore.deliveryOutcome row sent now retryAfterSeconds baseSeconds maxAttempts) :
      Change call row (row.finished state retryAt error now)
        (.finished row.outboxId row.leaseOwner (some row.leaseEpoch))

/-- A call adds a fresh row, changes one row, or leaves the outbox and its history alone. -/
inductive Stepped (w : OutboxWorld) (call : SideCall) (w' : OutboxWorld) : Prop where
  | quiet (houtbox : w'.store.outbox = w.store.outbox)
      (hnext : w'.store.nextOutboxId = w.store.nextOutboxId) (hhistory : w'.history = w.history)
  | enqueued (row : OutboxRecord) (eventId destination kind : String) (payload : Dict)
      (now : Datetime)
      (hrow : row = w.store.newNotification eventId destination kind payload now)
      (hnew : w.store.findNotification eventId destination kind = none)
      (houtbox : w'.store.outbox = w.store.outbox.insert row)
      (hnext : w'.store.nextOutboxId = w.store.nextOutboxId + 1)
      (hhistory : w'.history = w.history)
  | changed (old row : OutboxRecord) (event : OutboxEvent) (f : OutboxRecord → OutboxRecord)
      (hf : ∀ r, (f r).outboxId = r.outboxId)
      (hold : w.store.outbox.get? old.outboxId = some old) (hrow : row = f old)
      (hchange : Change call old row event)
      (houtbox : w'.store.outbox = w.store.outbox.modify old.outboxId f hf)
      (hnext : w'.store.nextOutboxId = w.store.nextOutboxId)
      (hhistory : w'.history = event :: w.history)

theorem step_stepped (w : OutboxWorld) (call : SideCall) : Stepped w call (w.step call) := by
  cases call with
  | enqueue eventId destination kind payload now =>
    simp only [step, EventStore.sideStep]
    cases henqueue : w.store.enqueueNotification eventId destination kind payload now with
    | error e => exact .quiet rfl rfl rfl
    | ok result =>
      obtain ⟨⟨row, created⟩, s⟩ := result
      rcases EventStore.enqueueNotification_cases henqueue with ⟨-, -, rfl⟩ | ⟨hnew, -, rfl, rfl⟩
      · exact .quiet rfl rfl rfl
      · exact .enqueued _ eventId destination kind payload now rfl hnew rfl rfl rfl
  | claim outboxId owner leaseSeconds now =>
    simp only [step]
    cases hclaim : w.store.claimNotification outboxId owner leaseSeconds now with
    | error e => exact .quiet rfl rfl rfl
    | ok result =>
      obtain ⟨claimed, s⟩ := result
      obtain ⟨-, -, row, hrow, hdue, rfl, rfl⟩ := EventStore.claimNotification_eq_ok_iff.mp hclaim
      obtain rfl := KeyedTable.key_of_get? hrow
      exact .changed row _ _ (fun r => r.claimed owner leaseSeconds now) (fun _ => rfl) hrow rfl
        (.claimed owner leaseSeconds now rfl hdue) rfl rfl rfl
  | finish outboxId sent error now retryAfterSeconds baseSeconds maxAttempts owner leaseEpoch =>
    simp only [step]
    cases hfinish : w.store.finishNotification outboxId sent error now retryAfterSeconds
        baseSeconds maxAttempts owner leaseEpoch with
    | error e => exact .quiet rfl rfl rfl
    | ok result =>
      obtain ⟨finished, s⟩ := result
      obtain ⟨row, hrow, hsending, rfl, rfl, state, retryAt, houtcome, -, rfl⟩ :=
        EventStore.finishNotification_cases hfinish
      obtain rfl := KeyedTable.key_of_get? hrow
      exact .changed row _ _ (fun r => r.finished state retryAt error now) (fun _ => rfl) hrow rfl
        (.finished sent error now retryAfterSeconds baseSeconds maxAttempts state retryAt rfl
          hsending houtcome) rfl rfl rfl
  | _ => exact .quiet (sideStep_outbox w.store rfl).1 (sideStep_outbox w.store rfl).2 rfl

def epochOf (s : EventStore) (outboxId : Nat) : Int :=
  ((s.outbox.get? outboxId).map OutboxRecord.leaseEpoch).getD 0

structure Inv (w : OutboxWorld) : Prop where
  fresh : ∀ row ∈ w.store.outbox.rows, row.outboxId < w.store.nextOutboxId
  past : ∀ e ∈ w.history, e.outboxId < w.store.nextOutboxId
  unique : ∀ row ∈ w.store.outbox.rows, ∀ other ∈ w.store.outbox.rows,
    row.eventId = other.eventId → row.destination = other.destination → row.kind = other.kind →
      row = other
  counted : ∀ row ∈ w.store.outbox.rows,
    row.attempts = w.claims row.outboxId ∧ row.leaseEpoch = w.claims row.outboxId
  bounded : Bounded (epochOf w.store) w.issued
  sending : ∀ row ∈ w.store.outbox.rows, row.state = .sending →
    ∃ owner expiry, row.leaseOwner = some owner ∧ row.leaseExpiresAt = some expiry ∧
      w.latest row.outboxId = some (.claimed row.outboxId owner row.leaseEpoch)
  due : ∀ row ∈ w.store.outbox.rows, row.retryAt.isSome = true → row.state = .pending

variable {w w' : OutboxWorld} {call : SideCall}

lemma Change.sameIntent {old row : OutboxRecord} {event : OutboxEvent}
    (h : Change call old row event) :
    row.outboxId = old.outboxId ∧ row.eventId = old.eventId ∧
      row.destination = old.destination ∧ row.kind = old.kind ∧ row.payload = old.payload := by
  cases h <;> exact ⟨rfl, rfl, rfl, rfl, rfl⟩

lemma Change.event_outboxId {old row : OutboxRecord} {event : OutboxEvent}
    (h : Change call old row event) : event.outboxId = old.outboxId := by
  cases h <;> rfl

lemma get?_next (hinv : Inv w) : w.store.outbox.get? w.store.nextOutboxId = none := by
  rw [KeyedTable.get?_eq_none_iff]
  intro row hrow heq
  have hlt := hinv.fresh row hrow
  omega

lemma Stepped.row_cases (h : Stepped w call w') (hinv : Inv w) {row : OutboxRecord}
    (hmem : row ∈ w'.store.outbox.rows) :
    (row ∈ w.store.outbox.rows ∧
        (w'.history = w.history ∨
          ∃ event, event.outboxId ≠ row.outboxId ∧ w'.history = event :: w.history)) ∨
      (∃ eventId destination kind payload now,
        row = w.store.newNotification eventId destination kind payload now ∧
        w.store.findNotification eventId destination kind = none ∧
        w'.store.nextOutboxId = w.store.nextOutboxId + 1 ∧ w'.history = w.history) ∨
      ∃ old event, w.store.outbox.get? old.outboxId = some old ∧ Change call old row event ∧
        w'.history = event :: w.history := by
  cases h with
  | quiet houtbox _ hhistory =>
    rw [houtbox] at hmem
    exact .inl ⟨hmem, .inl hhistory⟩
  | enqueued new eventId destination kind payload now hrow hnew houtbox hnext hhistory =>
    have hnone : w.store.outbox.get? new.outboxId = none := by
      rw [hrow]
      exact get?_next hinv
    rw [houtbox, KeyedTable.mem_insert hnone] at hmem
    rcases hmem with hmem | rfl
    · exact .inl ⟨hmem, .inl hhistory⟩
    · exact .inr (.inl ⟨_, _, _, _, _, hrow, hnew, hnext, hhistory⟩)
  | changed old changed event f hf hold hrow hchange houtbox hnext hhistory =>
    rw [houtbox, KeyedTable.mem_modify hold] at hmem
    rcases hmem with rfl | ⟨hmem, hne⟩
    · exact .inr (.inr ⟨old, event, hold, hrow ▸ hchange, hhistory⟩)
    · refine .inl ⟨hmem, .inr ⟨event, ?_, hhistory⟩⟩
      rw [hchange.event_outboxId]
      exact hne.symm

lemma Stepped.next_le (h : Stepped w call w') : w.store.nextOutboxId ≤ w'.store.nextOutboxId := by
  cases h <;> omega

lemma Stepped.get? (h : Stepped w call w') {outboxId : Nat} {row : OutboxRecord}
    (hrow : w.store.outbox.get? outboxId = some row) :
    ∃ row', w'.store.outbox.get? outboxId = some row' ∧
      (row' = row ∨ ∃ event, Change call row row' event) := by
  cases h with
  | quiet houtbox => exact ⟨row, by rw [houtbox, hrow], .inl rfl⟩
  | enqueued new _ _ _ _ _ _ _ houtbox =>
    refine ⟨row, ?_, .inl rfl⟩
    by_cases hsame : w.store.outbox.get? new.outboxId = none
    · have hne : new.outboxId ≠ outboxId := by
        rintro rfl
        rw [hsame] at hrow
        cases hrow
      rw [houtbox, KeyedTable.get?_insert_of_ne hne, hrow]
    · obtain ⟨other, hother⟩ := Option.ne_none_iff_exists'.mp hsame
      rw [houtbox, KeyedTable.insert_of_some hother, hrow]
  | changed old changed event f hf hold hchanged hchange houtbox =>
    by_cases hsame : outboxId = old.outboxId
    · subst hsame
      have heq : row = old := Option.some.inj (hrow.symm.trans hold)
      subst heq
      exact ⟨changed, by rw [houtbox, hchanged, KeyedTable.get?_modify_self hf hold],
        .inr ⟨event, hchange⟩⟩
    · exact ⟨row, by rw [houtbox, KeyedTable.get?_modify_of_ne hf hsame, hrow], .inl rfl⟩

/-! ### Every step keeps the invariant -/

section history

variable {event : OutboxEvent} {outboxId : Nat}

lemma latest_of_cons_of_ne (h : w'.history = event :: w.history) (hne : event.outboxId ≠ outboxId) :
    w'.latest outboxId = w.latest outboxId := by
  rw [latest, h, List.find?_cons_of_neg (by simpa using hne), latest]

lemma latest_of_cons_self (h : w'.history = event :: w.history) :
    w'.latest event.outboxId = some event := by
  rw [latest, h, List.find?_cons_of_pos (by simp)]

lemma issued_of_claimed {owner : String} {epoch : Int}
    (h : w'.history = .claimed outboxId owner epoch :: w.history) :
    w'.issued = ⟨outboxId, owner, epoch⟩ :: w.issued := by
  rw [issued, h]
  rfl

lemma issued_of_finished {owner : Option String} {epoch : Option Int}
    (h : w'.history = .finished outboxId owner epoch :: w.history) : w'.issued = w.issued := by
  rw [issued, h]
  rfl

lemma claims_of_cons_of_ne (h : w'.history = event :: w.history) (hne : event.outboxId ≠ outboxId) :
    w'.claims outboxId = w.claims outboxId := by
  cases event with
  | claimed id owner epoch =>
    rw [claims, issued_of_claimed h, List.countP_cons_of_neg (by simpa [OutboxEvent.outboxId] using hne),
      claims]
  | finished id owner epoch => rw [claims, issued_of_finished h, claims]

lemma claims_of_claimed {owner : String} {epoch : Int}
    (h : w'.history = .claimed outboxId owner epoch :: w.history) :
    w'.claims outboxId = w.claims outboxId + 1 := by
  rw [claims, issued_of_claimed h, List.countP_cons_of_pos (by simp), claims]

lemma claims_of_finished {owner : Option String} {epoch : Option Int}
    (h : w'.history = .finished outboxId owner epoch :: w.history) (k : Nat) :
    w'.claims k = w.claims k := by
  rw [claims, issued_of_finished h, claims]

lemma claims_of_history_eq (h : w'.history = w.history) : w'.claims outboxId = w.claims outboxId := by
  rw [claims, issued, h, claims, issued]

lemma latest_of_history_eq (h : w'.history = w.history) : w'.latest outboxId = w.latest outboxId := by
  rw [latest, h, latest]

end history

lemma claims_next (hinv : Inv w) : w.claims w.store.nextOutboxId = 0 := by
  rw [claims, List.countP_eq_zero]
  intro t ht
  obtain ⟨event, hmem, htoken⟩ := List.mem_filterMap.mp ht
  have hlt := hinv.past event hmem
  cases event with
  | claimed id owner epoch =>
    cases htoken
    simp only [OutboxEvent.outboxId] at hlt
    simp only [decide_eq_true_eq]
    omega
  | finished id owner epoch => cases htoken

lemma Stepped.counted (h : Stepped w call w') (hinv : Inv w) :
    ∀ row ∈ w'.store.outbox.rows,
      row.attempts = w'.claims row.outboxId ∧ row.leaseEpoch = w'.claims row.outboxId := by
  intro row hmem
  rcases h.row_cases hinv hmem with ⟨hold, hhistory⟩ | ⟨eventId, destination, kind, payload, now,
    rfl, -, -, hhistory⟩ | ⟨old, event, hold, hchange, hhistory⟩
  · have hclaims : w'.claims row.outboxId = w.claims row.outboxId := by
      rcases hhistory with hhistory | ⟨event, hne, hhistory⟩
      · exact claims_of_history_eq hhistory
      · exact claims_of_cons_of_ne hhistory hne
    rw [hclaims]
    exact hinv.counted row hold
  · rw [claims_of_history_eq hhistory]
    have hzero := claims_next hinv
    exact ⟨hzero.symm, by rw [EventStore.newNotification, hzero]; rfl⟩
  · have hcounted := hinv.counted old (KeyedTable.mem_of_get? hold)
    cases hchange with
    | claimed owner leaseSeconds now =>
      simp only [OutboxRecord.claimed, claims_of_claimed hhistory]
      omega
    | finished =>
      simp only [OutboxRecord.finished, claims_of_finished hhistory]
      exact hcounted

lemma Stepped.sending (h : Stepped w call w') (hinv : Inv w) :
    ∀ row ∈ w'.store.outbox.rows, row.state = .sending →
      ∃ owner expiry, row.leaseOwner = some owner ∧ row.leaseExpiresAt = some expiry ∧
        w'.latest row.outboxId = some (.claimed row.outboxId owner row.leaseEpoch) := by
  intro row hmem hsending
  rcases h.row_cases hinv hmem with ⟨hold, hhistory⟩ | ⟨eventId, destination, kind, payload, now,
    rfl, -⟩ | ⟨old, event, hold, hchange, hhistory⟩
  · obtain ⟨owner, expiry, howner, hexpiry, hlatest⟩ := hinv.sending row hold hsending
    refine ⟨owner, expiry, howner, hexpiry, ?_⟩
    rcases hhistory with hhistory | ⟨event, hne, hhistory⟩
    · rw [latest_of_history_eq hhistory, hlatest]
    · rw [latest_of_cons_of_ne hhistory hne, hlatest]
  · cases hsending
  · cases hchange with
    | claimed owner leaseSeconds now =>
      exact ⟨owner, _, rfl, rfl, latest_of_cons_self hhistory⟩
    | finished sent error now retryAfterSeconds baseSeconds maxAttempts state retryAt _ _ houtcome =>
      change state = .sending at hsending
      rcases EventStore.deliveryOutcome_cases houtcome with ⟨hs, -⟩ | ⟨hs, -⟩ | ⟨hs, -⟩
      all_goals
        rw [hs] at hsending
        cases hsending

lemma Stepped.due (h : Stepped w call w') (hinv : Inv w) :
    ∀ row ∈ w'.store.outbox.rows, row.retryAt.isSome = true → row.state = .pending := by
  intro row hmem hsome
  rcases h.row_cases hinv hmem with ⟨hold, -⟩ | ⟨eventId, destination, kind, payload, now,
    rfl, -⟩ | ⟨old, event, hold, hchange, -⟩
  · exact hinv.due row hold hsome
  · rfl
  · cases hchange with
    | claimed owner leaseSeconds now => cases hsome
    | finished sent error now retryAfterSeconds baseSeconds maxAttempts state retryAt _ _ houtcome =>
      change retryAt.isSome = true at hsome
      rcases EventStore.deliveryOutcome_cases houtcome with ⟨-, hnone, -⟩ | ⟨-, hnone, -⟩ | ⟨hs, -⟩
      · rw [hnone] at hsome
        cases hsome
      · rw [hnone] at hsome
        cases hsome
      · exact hs

lemma Stepped.unique (h : Stepped w call w') (hinv : Inv w) :
    ∀ row ∈ w'.store.outbox.rows, ∀ other ∈ w'.store.outbox.rows,
      row.eventId = other.eventId → row.destination = other.destination → row.kind = other.kind →
        row = other := by
  -- Every row but the added one has the identity of a row from before.
  have before : ∀ row ∈ w'.store.outbox.rows,
      (∃ old ∈ w.store.outbox.rows, row.outboxId = old.outboxId ∧ row.eventId = old.eventId ∧
        row.destination = old.destination ∧ row.kind = old.kind) ∨
      (row.outboxId = w.store.nextOutboxId ∧
        w.store.findNotification row.eventId row.destination row.kind = none) := by
    intro row hmem
    rcases h.row_cases hinv hmem with ⟨hold, -⟩ | ⟨eventId, destination, kind, payload, now, rfl,
      hnew, -⟩ | ⟨old, event, hold, hchange, -⟩
    · exact .inl ⟨row, hold, rfl, rfl, rfl, rfl⟩
    · exact .inr ⟨rfl, hnew⟩
    · obtain ⟨hid, hevent, hdestination, hkind, -⟩ := hchange.sameIntent
      exact .inl ⟨old, KeyedTable.mem_of_get? hold, hid, hevent, hdestination, hkind⟩
  intro row hmem other hother hevent hdestination hkind
  have hid : row.outboxId = other.outboxId := by
    rcases before row hmem with ⟨old, hold, hi, he, hd, hk⟩ | ⟨hi, hnone⟩
    · rcases before other hother with ⟨old', hold', hi', he', hd', hk'⟩ | ⟨hi', hnone'⟩
      · have hsame := hinv.unique old hold old' hold' (by rw [← he, ← he', hevent])
          (by rw [← hd, ← hd', hdestination]) (by rw [← hk, ← hk', hkind])
        rw [hi, hi', hsame]
      · rw [EventStore.findNotification_eq_none_iff] at hnone'
        exact absurd ⟨by rw [← he, hevent], by rw [← hd, hdestination], by rw [← hk, hkind]⟩
          (hnone' old hold)
    · rcases before other hother with ⟨old', hold', hi', he', hd', hk'⟩ | ⟨hi', hnone'⟩
      · rw [EventStore.findNotification_eq_none_iff] at hnone
        exact absurd ⟨by rw [← he', hevent], by rw [← hd', hdestination], by rw [← hk', hkind]⟩
          (hnone old' hold')
      · rw [hi, hi']
  exact KeyedTable.eq_of_key_eq hmem hother hid

lemma Stepped.epoch_le (h : Stepped w call w') (hinv : Inv w) (k : Nat) :
    epochOf w.store k ≤ epochOf w'.store k := by
  rw [epochOf, epochOf]
  cases hrow : w.store.outbox.get? k with
  | some row =>
    obtain ⟨row', hrow', hsame | ⟨event, hchange⟩⟩ := h.get? hrow
    · rw [hrow', hsame]
    · rw [hrow']
      simp only [Option.map_some, Option.getD_some]
      cases hchange with
      | claimed =>
        simp only [OutboxRecord.claimed]
        omega
      | finished => exact le_rfl
  | none =>
    cases hrow' : w'.store.outbox.get? k with
    | none => exact le_rfl
    | some row' =>
      have hcounted := h.counted hinv row' (KeyedTable.mem_of_get? hrow')
      simp only [Option.map_some, Option.map_none, Option.getD_some, Option.getD_none]
      omega

lemma Stepped.bounded (h : Stepped w call w') (hinv : Inv w) :
    Bounded (epochOf w'.store) w'.issued := by
  have hmono := h.epoch_le hinv
  cases h with
  | quiet _ _ hhistory =>
    rw [issued, hhistory]
    exact hinv.bounded.mono hmono
  | enqueued _ _ _ _ _ _ _ _ _ _ hhistory =>
    rw [issued, hhistory]
    exact hinv.bounded.mono hmono
  | changed old changed event f hf hold hchanged hchange houtbox _ hhistory =>
    have hnew : w'.store.outbox.get? old.outboxId = some changed := by
      rw [houtbox, KeyedTable.get?_modify_self hf hold, hchanged]
    cases hchange with
    | claimed owner leaseSeconds now =>
      rw [issued_of_claimed hhistory]
      refine hinv.bounded.issue hmono ?_
      rw [epochOf, hnew]
      exact le_rfl
    | finished =>
      rw [issued_of_finished hhistory]
      exact hinv.bounded.mono hmono

lemma Stepped.fresh (h : Stepped w call w') (hinv : Inv w) :
    ∀ row ∈ w'.store.outbox.rows, row.outboxId < w'.store.nextOutboxId := by
  intro row hmem
  have hle := h.next_le
  rcases h.row_cases hinv hmem with ⟨hold, -⟩ | ⟨eventId, destination, kind, payload, now, rfl, -,
    hnext, -⟩ | ⟨old, event, hold, hchange, -⟩
  · exact (hinv.fresh row hold).trans_le hle
  · simp only [EventStore.newNotification]
    omega
  · rw [hchange.sameIntent.1]
    exact (hinv.fresh old (KeyedTable.mem_of_get? hold)).trans_le hle

lemma Stepped.past (h : Stepped w call w') (hinv : Inv w) :
    ∀ e ∈ w'.history, e.outboxId < w'.store.nextOutboxId := by
  intro e hmem
  have hle := h.next_le
  cases h with
  | quiet _ _ hhistory =>
    rw [hhistory] at hmem
    exact (hinv.past e hmem).trans_le hle
  | enqueued _ _ _ _ _ _ _ _ _ _ hhistory =>
    rw [hhistory] at hmem
    exact (hinv.past e hmem).trans_le hle
  | changed old changed event f hf hold hchanged hchange _ _ hhistory =>
    rw [hhistory] at hmem
    rcases List.mem_cons.mp hmem with rfl | hmem
    · rw [hchange.event_outboxId]
      exact (hinv.fresh old (KeyedTable.mem_of_get? hold)).trans_le hle
    · exact (hinv.past e hmem).trans_le hle

theorem step_inv (w : OutboxWorld) (call : SideCall) (hinv : Inv w) : Inv (w.step call) := by
  have h := step_stepped w call
  exact
    { fresh := h.fresh hinv
      past := h.past hinv
      unique := h.unique hinv
      counted := h.counted hinv
      bounded := h.bounded hinv
      sending := h.sending hinv
      due := h.due hinv }

structure Safe (w : OutboxWorld) (call : SideCall) : Prop where
  /-- There is one row for an event, a destination and a kind. -/
  unique : ∀ row ∈ w.store.outbox.rows, ∀ other ∈ w.store.outbox.rows,
    row.eventId = other.eventId → row.destination = other.destination → row.kind = other.kind →
      row = other
  /-- The counters of a row are the number of its successful claims. -/
  counted : ∀ row ∈ w.store.outbox.rows,
    row.attempts = w.claims row.outboxId ∧ row.leaseEpoch = w.claims row.outboxId
  /-- No row disappears, no counter falls, and a settled row stays what it is. -/
  kept : ∀ outboxId row, w.store.outbox.get? outboxId = some row →
    ∃ row', (w.step call).store.outbox.get? outboxId = some row' ∧
      row.attempts ≤ row'.attempts ∧ row.leaseEpoch ≤ row'.leaseEpoch ∧
      (row.state = .sent ∨ row.state = .deadLetter → row' = row)
  /-- A claim under a live lease or before the retry deadline fails and changes nothing. -/
  held : ∀ outboxId owner leaseSeconds now row, call = .claim outboxId owner leaseSeconds now →
    w.store.outbox.get? outboxId = some row →
    ((row.state = .sending ∧ ∃ t, row.leaseExpiresAt = some t ∧ now.micros < t.micros) ∨
      ∃ t, row.retryAt = some t ∧ now.micros < t.micros) →
    (∃ e, w.store.claimNotification outboxId owner leaseSeconds now = .error e) ∧
      w.step call = w
  /-- An outcome takes effect once for the latest claim, under its owner and epoch. -/
  once : ∀ outboxId owner epoch,
    (w.step call).history = .finished outboxId owner epoch :: w.history →
    ∃ o k, owner = some o ∧ epoch = some k ∧
      w.latest outboxId = some (.claimed outboxId o k)
  /-- An outcome reported under a superseded claim changes nothing. -/
  superseded : ∀ t ∈ w.issued, call.presented = some t → Superseded w.issued t → w.step call = w

theorem step_safe (w : OutboxWorld) (call : SideCall) (hinv : Inv w) : Safe w call := by
  have h := step_stepped w call
  refine ⟨hinv.unique, hinv.counted, ?kept, ?held, ?once, ?superseded⟩
  case kept =>
    intro outboxId row hrow
    obtain ⟨row', hrow', rfl | ⟨event, hchange⟩⟩ := h.get? hrow
    · exact ⟨row', hrow', le_rfl, le_rfl, fun _ => rfl⟩
    · refine ⟨row', hrow', ?_⟩
      cases hchange with
      | claimed owner leaseSeconds now hcall hdue =>
        refine ⟨Nat.le_succ _, by simp [OutboxRecord.claimed], ?_⟩
        intro hsettled
        rcases hdue with ⟨hpending, -⟩ | ⟨hsending, -⟩
        · simp [hpending] at hsettled
        · simp [hsending] at hsettled
      | finished _ _ _ _ _ _ _ _ _ hsending =>
        refine ⟨le_rfl, le_rfl, ?_⟩
        intro hsettled
        simp [hsending] at hsettled
  case held =>
    intro outboxId owner leaseSeconds now row hcall hrow hbusy
    have hnot : ¬row.Claimable now := by
      intro hdue
      rcases hbusy with ⟨hsending, t, hexpiry, hlt⟩ | ⟨t, hretry, hlt⟩
      · rcases hdue with ⟨hpending, -⟩ | ⟨-, hfree⟩
        · rw [hsending] at hpending
          cases hpending
        · have hle := hfree t hexpiry
          omega
      · have hpending := hinv.due row (KeyedTable.mem_of_get? hrow) (by rw [hretry]; rfl)
        rcases hdue with ⟨-, hdue⟩ | ⟨hsending, -⟩
        · have hle := hdue t hretry
          omega
        · rw [hpending] at hsending
          cases hsending
    cases hclaim : w.store.claimNotification outboxId owner leaseSeconds now with
    | error e =>
      refine ⟨⟨e, rfl⟩, ?_⟩
      simp only [hcall, step, hclaim]
    | ok result =>
      obtain ⟨-, -, row', hrow', hdue, -⟩ := EventStore.claimNotification_eq_ok_iff.mp hclaim
      have hsame : row' = row := Option.some.inj (hrow'.symm.trans hrow)
      exact absurd (hsame ▸ hdue) hnot
  case once =>
    intro outboxId owner epoch hfinished
    cases h with
    | quiet _ _ hhistory =>
      rw [hhistory] at hfinished
      exact absurd hfinished.symm (List.cons_ne_self _ _)
    | enqueued _ _ _ _ _ _ _ _ _ _ hhistory =>
      rw [hhistory] at hfinished
      exact absurd hfinished.symm (List.cons_ne_self _ _)
    | changed old changed event f hf hold hchanged hchange houtbox _ hhistory =>
      rw [hhistory] at hfinished
      obtain ⟨rfl, -⟩ := List.cons.inj hfinished
      cases hchange with
      | finished _ _ _ _ _ _ _ _ _ hsending =>
        obtain ⟨o, expiry, howner, -, hlatest⟩ :=
          hinv.sending old (KeyedTable.mem_of_get? hold) hsending
        exact ⟨o, old.leaseEpoch, howner, rfl, hlatest⟩
  case superseded =>
    intro t ht hpresented hsuperseded
    have hlt := hsuperseded.epoch_lt hinv.bounded
    cases call with
    | finish outboxId sent error now retryAfterSeconds baseSeconds maxAttempts owner leaseEpoch =>
      simp only [step]
      cases hfinish : w.store.finishNotification outboxId sent error now retryAfterSeconds
          baseSeconds maxAttempts owner leaseEpoch with
      | error e => rfl
      | ok result =>
        obtain ⟨finished, s⟩ := result
        obtain ⟨row, hrow, -, rfl, rfl, -⟩ := EventStore.finishNotification_cases hfinish
        exfalso
        cases howner : row.leaseOwner with
        | none =>
          rw [howner] at hpresented
          cases hpresented
        | some owner =>
          rw [howner] at hpresented
          cases hpresented
          simp only [epochOf, hrow, Option.map_some, Option.getD_some] at hlt
          exact lt_irrefl _ hlt
    | _ => cases hpresented

end OutboxWorld

/-- In every run of enqueues, claims and outcomes by any workers under any clock, on a store
whose outbox starts empty, every call is safe. -/
theorem outbox_safety (s : EventStore) (hempty : s.outbox.rows = []) (calls : List SideCall) :
    AllSteps OutboxWorld.step OutboxWorld.Safe ⟨s, []⟩ calls := by
  have hstart : OutboxWorld.Inv ⟨s, []⟩ :=
    { fresh := by simp [hempty]
      past := by simp
      unique := by simp [hempty]
      counted := by simp [hempty]
      bounded := bounded_nil
      sending := by simp [hempty]
      due := by simp [hempty] }
  exact allSteps_of_invariant OutboxWorld.step_inv OutboxWorld.step_safe hstart calls

def oneEvent : EventStore :=
  EventStore.empty.insertReceived "e" "r1" [] ⟨0, 0⟩

/-- `A` claims and stalls, `B` takes the row over and reports, and `A` reports late. -/
def lateReport : List SideCall :=
  [.enqueue "e" "telegram:1" "card:h" [] ⟨0, 0⟩,
    .claim 1 "A" 10 ⟨0, 0⟩,
    .claim 1 "B" 10 ⟨20000000, 0⟩,
    .finish 1 true none ⟨21000000, 0⟩ none 5 5 (some "B") (some 2),
    .finish 1 false (some "late") ⟨22000000, 0⟩ none 5 5 (some "A") (some 1)]

theorem outbox_safety_lateReport :
    AllSteps OutboxWorld.step OutboxWorld.Safe ⟨oneEvent, []⟩ lateReport ∧
      (final OutboxWorld.step ⟨oneEvent, []⟩ lateReport).history =
        [.finished 1 (some "B") (some 2), .claimed 1 "B" 2, .claimed 1 "A" 1] :=
  ⟨outbox_safety oneEvent rfl lateReport, by decide +kernel⟩

end NetTools
