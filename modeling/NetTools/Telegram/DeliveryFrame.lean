import Mathlib.Logic.Relation
import NetTools.Telegram.Coordinator

/-!
# What deliveries change

A delivery changes the progress of outbox rows and the receipts of cards. The intents of the
rows, the stored views and the events stay what they are, and every receipt written is that of
a card row.
-/

namespace NetTools

/-- What a row asks for: all its columns but those of its progress. -/
structure Intent where
  outboxId : Nat
  eventId : String
  destination : String
  kind : String
  payload : Dict

def OutboxRecord.intent (row : OutboxRecord) : Intent :=
  ⟨row.outboxId, row.eventId, row.destination, row.kind, row.payload⟩

/-- The row is a card revision, by the test of `drain_notifications`. -/
def Intent.isCard (i : Intent) : Bool := pyStartsWith i.kind "card:"

lemma pyStartsWith_append (start rest : String) : pyStartsWith (start ++ rest) start = true := by
  rw [pyStartsWith, String.toList_append, List.isPrefixOf_iff_prefix]
  exact List.prefix_append _ _

lemma isCard_cardKind (renderHash : String) : pyStartsWith (cardKind renderHash) "card:" = true :=
  pyStartsWith_append _ _

lemma not_isCard_activityKind (activityId : String) :
    pyStartsWith (activityKindOf activityId) "card:" = false := by
  rw [pyStartsWith, activityKindOf, String.toList_append]
  rfl

namespace EventStore

def intents (s : EventStore) : List Intent := s.outbox.rows.map OutboxRecord.intent

structure SameIntents (s s' : EventStore) : Prop where
  intents : s'.intents = s.intents
  next : s'.nextOutboxId = s.nextOutboxId
  states : s'.cardStates = s.cardStates
  events : s'.events = s.events

/-- One write of a delivery: progress of a row, or the receipt of a card row. -/
inductive DeliveryStep (s s' : EventStore) : Prop where
  | progress (hsame : SameIntents s s') (hreceipts : s'.cardReceipts = s.cardReceipts)
  | receipt (hsame : SameIntents s s') (i : Intent) (hi : i ∈ s.intents)
      (hcard : i.isCard = true) (chatId text renderHash : String) (messageId : Int)
      (now : Datetime) (hfields : cardFields i.payload = some (chatId, text, renderHash))
      (hreceipts : s'.cardReceipts = s.cardReceipts.upsert
        ⟨i.eventId, chatId, messageId, renderHash, now⟩
        (fun r => { r with messageId, renderHash, updatedAt := now }) (fun _ => rfl))

def Delivered : EventStore → EventStore → Prop := Relation.ReflTransGen DeliveryStep

variable {s s' : EventStore} {outboxId : Nat} {now : Datetime}

lemma intents_modify (s : EventStore) (outboxId : Nat) {f : OutboxRecord → OutboxRecord}
    (hf : ∀ r, (f r).outboxId = r.outboxId) (hintent : ∀ r, (f r).intent = r.intent) :
    (s.outbox.modify outboxId f hf).rows.map OutboxRecord.intent = s.intents := by
  rw [KeyedTable.rows_modify, List.map_map, intents]
  refine List.map_congr_left (fun r _ => ?_)
  simp only [Function.comp_apply]
  split
  · exact hintent r
  · rfl

lemma claim_delivery {owner : String} {leaseSeconds : ℚ} {claimed : OutboxRecord}
    (h : s.claimNotification outboxId owner leaseSeconds now = .ok (claimed, s')) :
    DeliveryStep s s' ∧ claimed.intent ∈ s.intents := by
  obtain ⟨-, -, row, hrow, -, rfl, rfl⟩ := claimNotification_eq_ok_iff.mp h
  have hintents := intents_modify s outboxId
    (fun r => r.claimed_outboxId owner leaseSeconds now) (fun _ => rfl)
  exact ⟨.progress ⟨hintents, rfl, rfl, rfl⟩ rfl,
    List.mem_map.mpr ⟨row, KeyedTable.mem_of_get? hrow, rfl⟩⟩

lemma finish_delivery {claimed finished : OutboxRecord} {owner : String} {sent : Bool}
    {error : Option String} {retryAfterSeconds : Option ℚ}
    (h : s.finishDelivery claimed owner sent error retryAfterSeconds now = .ok (finished, s')) :
    DeliveryStep s s' := by
  obtain ⟨row, hrow, -, -, -, state, retryAt, -, -, rfl⟩ := finishNotification_cases h
  have hintents := intents_modify s claimed.outboxId
    (fun r => r.finished_outboxId state retryAt error now) (fun _ => rfl)
  exact .progress ⟨hintents, rfl, rfl, rfl⟩ rfl

lemma finish_delivered {claimed : OutboxRecord} {owner : String} {sent : Bool}
    {error : Option String} {retryAfterSeconds : Option ℚ} :
    Delivered s (s.returning
      (s.finishDelivery claimed owner sent error retryAfterSeconds now)).2 := by
  cases h : s.finishDelivery claimed owner sent error retryAfterSeconds now with
  | error e => exact .refl
  | ok result =>
    obtain ⟨finished, s'⟩ := result
    exact .single (finish_delivery h)

theorem recordTelegramCard_cases {eventId chatId renderHash : String} {messageId : Int}
    {receipt : TelegramCardReceipt}
    (h : s.recordTelegramCard eventId chatId messageId renderHash now = .ok (receipt, s')) :
    s' = { s with
      cardReceipts := s.cardReceipts.upsert ⟨eventId, chatId, messageId, renderHash, now⟩
        (fun r => { r with messageId, renderHash, updatedAt := now }) (fun _ => rfl) } := by
  unfold recordTelegramCard at h
  split at h
  · cases h
  · split at h
    · cases h
    · cases h
      rfl

lemma record_delivery {i : Intent} {chatId text renderHash : String} {messageId : Int}
    {receipt : TelegramCardReceipt} (hi : i ∈ s.intents) (hcard : i.isCard = true)
    (hfields : cardFields i.payload = some (chatId, text, renderHash))
    (h : s.recordTelegramCard i.eventId chatId messageId renderHash now = .ok (receipt, s')) :
    DeliveryStep s s' := by
  have hs := recordTelegramCard_cases h
  have hsame : SameIntents s s' := by
    rw [hs]
    exact ⟨rfl, rfl, rfl, rfl⟩
  exact .receipt hsame i hi hcard chatId text renderHash messageId now hfields (by rw [hs])

variable {notifier : Notifier} {owner : String}

theorem deliverCard_delivered {leaseSeconds : ℚ}
    (hcard : ∀ row, s.outbox.get? outboxId = some row → row.intent.isCard = true) :
    Delivered s (s.deliverCard outboxId notifier owner leaseSeconds now).2 := by
  unfold deliverCard
  cases hclaim : s.claimNotification outboxId owner leaseSeconds now with
  | error e => exact .refl
  | ok result =>
    obtain ⟨claimed, s₁⟩ := result
    obtain ⟨hstep, hmem⟩ := claim_delivery hclaim
    obtain ⟨-, -, row, hrow, -, hclaimed, -⟩ := claimNotification_eq_ok_iff.mp hclaim
    have hkind : claimed.intent.isCard = true := by
      rw [hclaimed]
      exact hcard row hrow
    refine Relation.ReflTransGen.head hstep ?_
    dsimp only
    cases hfields : cardFields claimed.payload with
    | none => exact finish_delivered
    | some fields =>
      obtain ⟨chatId, text, renderHash⟩ := fields
      dsimp only
      cases hsend : s₁.sendCard notifier claimed chatId text with
      | error e => exact finish_delivered
      | ok messageId =>
        dsimp only
        cases hrecord : s₁.recordTelegramCard claimed.eventId chatId messageId renderHash now with
        | error e => exact .refl
        | ok result =>
          obtain ⟨receipt, s₂⟩ := result
          have hsame : claimed.intent ∈ s₁.intents := by
            cases hstep with
            | progress hsame => exact hsame.intents ▸ hmem
            | receipt hsame => exact hsame.intents ▸ hmem
          exact Relation.ReflTransGen.head (record_delivery hsame hkind hfields hrecord)
            finish_delivered

theorem deliverActivity_delivered :
    Delivered s (s.deliverActivity outboxId notifier owner now).2 := by
  unfold deliverActivity
  cases hclaim : s.claimNotification outboxId owner 30 now with
  | error e => exact .refl
  | ok result =>
    obtain ⟨claimed, s₁⟩ := result
    refine Relation.ReflTransGen.head (claim_delivery hclaim).1 ?_
    dsimp only
    split
    · split
      · exact finish_delivered
      · split <;> exact finish_delivered
    · exact finish_delivered

theorem deliverRow_delivered {record : OutboxRecord}
    (hrecord : ∀ row, s.outbox.get? record.outboxId = some row → row.kind = record.kind) :
    Delivered s (s.deliverRow notifier owner now record).2 := by
  unfold deliverRow
  split
  · rename_i hcard
    refine deliverCard_delivered (fun row hrow => ?_)
    rw [Intent.isCard, OutboxRecord.intent, hrecord row hrow]
    exact hcard
  · split
    · exact deliverActivity_delivered
    · cases hclaim : s.claimNotification record.outboxId owner 30 now with
      | error e => exact .refl
      | ok result =>
        obtain ⟨claimed, s₁⟩ := result
        exact Relation.ReflTransGen.head (claim_delivery hclaim).1 finish_delivered

lemma cardFields_cardPayload {chatId : String} {render : TelegramRender}
    {fields : String × String × String}
    (h : cardFields (cardPayload chatId render) = some fields) :
    fields = (chatId, render.text, render.renderHash) := by
  unfold cardFields at h
  split at h
  · rename_i c text renderHash hchat htext hhash
    simp only [nonemptyText, cardPayload, Dict.get?, List.lookup] at hchat htext hhash
    simp_all
  · cases h

def FreshIds (s : EventStore) : Prop := ∀ i ∈ s.intents, i.outboxId < s.nextOutboxId

lemma SameIntents.fresh (h : SameIntents s s') (hfresh : s.FreshIds) : s'.FreshIds := by
  intro i hi
  rw [h.next]
  exact hfresh i (h.intents ▸ hi)

lemma FreshIds.get?_next (hfresh : s.FreshIds) : s.outbox.get? s.nextOutboxId = none := by
  rw [KeyedTable.get?_eq_none_iff]
  intro row hrow
  exact (hfresh row.intent (List.mem_map.mpr ⟨row, hrow, rfl⟩)).ne

lemma telegramDestination_inj {a b : String}
    (h : telegramDestination a = telegramDestination b) : a = b := by
  have hlists := congrArg String.toList h
  rw [telegramDestination, telegramDestination, String.toList_append,
    String.toList_append] at hlists
  exact String.toList_inj.mp (List.append_cancel_left hlists)

lemma isBlank_telegramDestination (chatId : String) :
    isBlank (telegramDestination chatId) = false := isBlank_append (by decide) chatId

lemma isBlank_cardKind (renderHash : String) : isBlank (cardKind renderHash) = false :=
  isBlank_append (by decide) renderHash

lemma isBlank_activityKindOf (activityId : String) : isBlank (activityKindOf activityId) = false :=
  isBlank_append (by decide) activityId

section enqueue

variable {eventId destination kind : String} {payload : Dict} {row : OutboxRecord}

theorem enqueueNotification_ok (hevent : s.get eventId ≠ none)
    (hdestination : isBlank destination = false) (hkind : isBlank kind = false) (payload : Dict)
    (now : Datetime) :
    ∃ row created s', s.enqueueNotification eventId destination kind payload now =
      .ok ((row, created), s') := by
  unfold enqueueNotification
  rw [if_neg (by simp [hdestination, hkind])]
  cases hfind : s.findNotification eventId destination kind with
  | some row => exact ⟨row, false, s, rfl⟩
  | none =>
    dsimp only
    rw [if_neg hevent]
    exact ⟨_, _, _, rfl⟩

theorem enqueueNotification_intents {created : Bool} (hfresh : s.FreshIds)
    (h : s.enqueueNotification eventId destination kind payload now =
      .ok ((row, created), s')) :
    row.intent ∈ s'.intents ∧ row.eventId = eventId ∧ row.destination = destination ∧
      row.kind = kind ∧
      (s' = s ∨
        (row.intent = ⟨s.nextOutboxId, eventId, destination, kind, payload⟩ ∧
          (∀ i ∈ s.intents,
            ¬(i.eventId = eventId ∧ i.destination = destination ∧ i.kind = kind)) ∧
          s'.intents = s.intents ++ [row.intent] ∧ s'.nextOutboxId = s.nextOutboxId + 1 ∧
          s'.events = s.events ∧ s'.cardStates = s.cardStates ∧
          s'.cardReceipts = s.cardReceipts)) := by
  rcases enqueueNotification_cases h with ⟨hfind, -, rfl⟩ | ⟨hfind, -, rfl, rfl⟩
  · obtain ⟨hmem, hidentity⟩ := findNotification_eq_some hfind
    exact ⟨List.mem_map.mpr ⟨row, hmem, rfl⟩, hidentity.1, hidentity.2.1, hidentity.2.2, .inl rfl⟩
  · set row := s.newNotification eventId destination kind payload now
    have hintents : (s.outbox.insert row).rows.map OutboxRecord.intent =
        s.intents ++ [row.intent] := by
      rw [KeyedTable.rows_insert_of_none hfresh.get?_next, List.map_append, List.map_singleton,
        intents]
    have hother : ∀ i ∈ s.intents,
        ¬(i.eventId = eventId ∧ i.destination = destination ∧ i.kind = kind) := by
      intro i hi
      obtain ⟨r, hr, rfl⟩ := List.mem_map.mp hi
      exact findNotification_eq_none_iff.mp hfind r hr
    refine ⟨?_, rfl, rfl, rfl, .inr ⟨rfl, hother, hintents, rfl, rfl, rfl, rfl⟩⟩
    rw [intents, hintents]
    exact List.mem_append_right _ (List.mem_singleton_self _)

theorem saveTelegramCardState_ok (hevent : s.get eventId ≠ none) (payload : Dict)
    (dirtyAt : Option Datetime) (now : Datetime) :
    ∃ state s', s.saveTelegramCardState eventId payload dirtyAt now = .ok (state, s') ∧
      (∃ saved, s'.telegramCardState eventId = some saved ∧ saved.payload = payload ∧
        saved.dirtyAt = dirtyAt) ∧
      (∀ other, other ≠ eventId → s'.telegramCardState other = s.telegramCardState other) ∧
      s'.intents = s.intents ∧ s'.nextOutboxId = s.nextOutboxId ∧ s'.events = s.events ∧
      s'.cardReceipts = s.cardReceipts := by
  unfold saveTelegramCardState
  rw [if_neg hevent]
  set state : TelegramCardState := { eventId, payload, dirtyAt, updatedAt := now }
  have hkeep : ∀ r : TelegramCardState,
      TelegramCardState.eventId { r with payload, dirtyAt, updatedAt := now } = r.eventId :=
    fun _ => rfl
  refine ⟨state, _, rfl, ?_, ?_, rfl, rfl, rfl, rfl⟩
  · refine ⟨_, KeyedTable.get?_upsert_self (r := state) hkeep, ?_⟩
    cases s.cardStates.get? state.eventId <;> exact ⟨rfl, rfl⟩
  · intro other hother
    exact KeyedTable.get?_upsert_of_ne hkeep hother

end enqueue

lemma SameIntents.trans {s₁ s₂ s₃ : EventStore} (h : SameIntents s₁ s₂) (h' : SameIntents s₂ s₃) :
    SameIntents s₁ s₃ :=
  ⟨h'.intents.trans h.intents, h'.next.trans h.next, h'.states.trans h.states,
    h'.events.trans h.events⟩

lemma DeliveryStep.same (h : DeliveryStep s s') : SameIntents s s' := by
  cases h with
  | progress hsame => exact hsame
  | receipt hsame => exact hsame

theorem Delivered.same (h : Delivered s s') : SameIntents s s' := by
  induction h with
  | refl => exact ⟨rfl, rfl, rfl, rfl⟩
  | tail _ hstep ih => exact ih.trans hstep.same

lemma kind_of_same {record row : OutboxRecord} (hsame : s'.intents = s.intents)
    (hrecord : record ∈ s.outbox.rows) (hrow : s'.outbox.get? record.outboxId = some row) :
    row.kind = record.kind := by
  have hmem : row.intent ∈ s.intents := by
    rw [← hsame]
    exact List.mem_map.mpr ⟨row, KeyedTable.mem_of_get? hrow, rfl⟩
  obtain ⟨other, hother, hintent⟩ := List.mem_map.mp hmem
  have hid : other.outboxId = record.outboxId := by
    rw [← KeyedTable.key_of_get? hrow]
    exact congrArg Intent.outboxId hintent
  rw [KeyedTable.eq_of_key_eq hother hrecord hid] at hintent
  exact (congrArg Intent.kind hintent).symm

theorem deliverRows_delivered {records : List OutboxRecord} (hsame : s'.intents = s.intents)
    (hrecords : ∀ record ∈ records, record ∈ s.outbox.rows) :
    Delivered s' (deliverRows notifier owner now s' records).2 := by
  induction records generalizing s' with
  | nil => exact .refl
  | cons record records ih =>
    have hfirst : Delivered s' (s'.deliverRow notifier owner now record).2 :=
      deliverRow_delivered (fun row hrow =>
        kind_of_same hsame (hrecords record List.mem_cons_self) hrow)
    exact hfirst.trans (ih (hfirst.same.intents.trans hsame)
      (fun r hr => hrecords r (List.mem_cons_of_mem _ hr)))

lemma mem_of_eligible {limit : Int} {records : List OutboxRecord}
    (h : s.eligibleNotifications now limit = .ok records) :
    ∀ record ∈ records, record ∈ s.outbox.rows := by
  rw [eligibleNotifications] at h
  split at h
  · cases h
  · cases h
    intro record hrecord
    have hmem := List.mem_of_mem_take hrecord
    rw [(List.perm_insertionSort _ _).mem_iff] at hmem
    exact List.mem_of_mem_filter hmem

theorem drainNotifications_delivered {limit : Int} :
    Delivered s (s.drainNotifications notifier owner now limit).2 := by
  unfold drainNotifications
  cases hlist : s.eligibleNotifications now limit with
  | error e => exact .refl
  | ok records => exact deliverRows_delivered rfl (mem_of_eligible hlist)

end EventStore

end NetTools
