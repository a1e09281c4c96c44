import Mathlib.Data.Set.Function
import NetTools.EventStore.OutboxRuns
import NetTools.Telegram.DeliveryFrame

/-!
# Cards for every chat

The event agent applies an activity to one coordinator for each chat in turn and drains the
outbox after each. The view that they share is kept under the event, so that the first
coordinator's write is what the later ones read.
-/

namespace NetTools

/-- The clock and the provider that one drain meets; no provider is configured for `none`. -/
structure Tick where
  now : Datetime
  sender : Option Notifier

structure Emission where
  activity : InvestigationActivity
  owner : String
  applied : String → Datetime
  card : String → Tick
  reply : String → Tick

namespace EventStore

/-- `deliver_live_card`, and the second half of `deliver_live_activity`. -/
def drainLive (s : EventStore) (tick : Tick) (owner : String) : EventStore :=
  match tick.sender with
  | none => s
  | some notifier => (s.drainNotifications notifier owner tick.now 100).2

end EventStore

section emission

variable (digest : String → String)

/-- The body of the loop of `emit_chat_activity` for one coordinator. -/
def emitTo (c : TelegramCardCoordinator) (s : EventStore) (e : Emission) :
    Except CardError Unit × EventStore :=
  match c.apply digest s e.activity (e.applied c.chatId) with
  | (.error err, s₁) => (.error err, s₁)
  | (.ok _, s₁) =>
    let s₂ := s₁.drainLive (e.card c.chatId) e.owner
    match s₂.enqueueActivity c.chatId e.activity (e.reply c.chatId).now with
    | .error err => (.error (.store err), s₂)
    | .ok (none, s₃) => (.ok (), s₃)
    | .ok (some _, s₃) => (.ok (), s₃.drainLive (e.reply c.chatId) e.owner)

/-- `emit_chat_activity`. The loop over the chats ends at the first error. -/
def emitToAll (s : EventStore) (e : Emission) :
    List TelegramCardCoordinator → Except CardError Unit × EventStore
  | [] => (.ok (), s)
  | c :: rest => match emitTo digest c s e with
    | (.error err, s') => (.error err, s')
    | (.ok _, s') => emitToAll s' e rest

/-- The chat has an outbox row for the render, or a receipt for exactly it. -/
def HasCard (s : EventStore) (eventId chatId : String) (render : TelegramRender) : Prop :=
  (∃ row ∈ s.outbox.rows, row.eventId = eventId ∧
      row.destination = telegramDestination chatId ∧ row.kind = cardKind render.renderHash ∧
      row.payload = cardPayload chatId render) ∨
    ∃ receipt, s.telegramCardReceipt eventId chatId = some receipt ∧
      receipt.renderHash = render.renderHash

/-- After every activity of an immediate kind that changes the view, each chat has the card of
the view. The activities end with the first that raises. -/
def EveryChat (coordinators : List TelegramCardCoordinator) : EventStore → List Emission → Prop
  | _, [] => True
  | s, e :: es =>
    (∀ updated, s.updatedView e.activity = .ok (some updated) →
      e.activity.kind ∈ immediateKinds →
      ∃ render, renderCard digest updated MAX_TELEGRAM_CARD_CHARS = .ok render ∧
        ∀ c ∈ coordinators,
          HasCard (emitToAll digest s e coordinators).2 e.activity.eventId c.chatId render) ∧
    ((emitToAll digest s e coordinators).1 = .ok () →
      EveryChat coordinators (emitToAll digest s e coordinators).2 es)

end emission

def viewBefore (stored : Option InvestigationView) (activity : InvestigationActivity) :
    Except String InvestigationView :=
  match stored with
  | some view => .ok view
  | none => InvestigationView.new activity.incidentId activity.eventId

/-- The views that activities of the immediate kinds make by changing the one before, up to the
first activity that does not fit the view. -/
def immediateViews : Option InvestigationView → List InvestigationActivity →
    List InvestigationView
  | _, [] => []
  | stored, a :: as =>
    match viewBefore stored a with
    | .error _ => []
    | .ok view => match reduceView view a with
      | .error _ => []
      | .ok updated =>
        if updated = view then immediateViews stored as
        else if a.kind ∈ immediateKinds then updated :: immediateViews (some updated) as
        else immediateViews (some updated) as

def cardTexts (digest : String → String) (views : List InvestigationView) : Set String :=
  { text | ∃ view ∈ views, ∃ render,
    renderCard digest view MAX_TELEGRAM_CARD_CHARS = .ok render ∧ render.text = text }

/-- `apply`'s update of the stored view, on the view alone. -/
def viewUpdate (stored : Option InvestigationView) (activity : InvestigationActivity) :
    Except CardError (Option InvestigationView) :=
  match viewBefore stored activity with
  | .error e => .error (.value e)
  | .ok view => match reduceView view activity with
    | .error e => .error (.value e)
    | .ok updated => if updated = view then .ok none else .ok (some updated)

def storedAfter (stored : Option InvestigationView) :
    Option InvestigationView → Option InvestigationView
  | some updated => some updated
  | none => stored

lemma immediateViews_cons (stored : Option InvestigationView) (a : InvestigationActivity)
    (as : List InvestigationActivity) :
    immediateViews stored (a :: as) = match viewUpdate stored a with
      | .error _ => []
      | .ok none => immediateViews stored as
      | .ok (some updated) =>
        if a.kind ∈ immediateKinds then updated :: immediateViews (some updated) as
        else immediateViews (some updated) as := by
  rw [immediateViews, viewUpdate]
  cases viewBefore stored a with
  | error e => rfl
  | ok view =>
    dsimp only
    cases reduceView view a with
    | error e => rfl
    | ok updated =>
      dsimp only
      split <;> rfl

lemma viewUpdate_again {stored : Option InvestigationView} {activity : InvestigationActivity}
    {change : Option InvestigationView} (h : viewUpdate stored activity = .ok change) :
    viewUpdate (storedAfter stored change) activity = .ok none := by
  unfold viewUpdate at h
  cases hbefore : viewBefore stored activity with
  | error e => simp [hbefore] at h
  | ok view =>
    simp only [hbefore] at h
    cases hreduce : reduceView view activity with
    | error e => simp [hreduce] at h
    | ok updated =>
      simp only [hreduce] at h
      split at h
      · rename_i hsame
        cases h
        simp only [storedAfter, viewUpdate, hbefore, hreduce, if_pos hsame]
      · rename_i hne
        cases h
        obtain ⟨hincident, hevent, hincident', hevent', -⟩ := reduceView_cases hreduce
        have hstale := not_applies_of_reduceView hreduce hne
        have hreduce' : ∃ again, reduceView updated activity = .ok again := by
          unfold reduceView
          rw [if_neg (by rw [hincident, hevent, hincident', hevent']; exact not_not_intro rfl)]
          split
          · exact ⟨_, rfl⟩
          · split
            · exact ⟨_, rfl⟩
            · exact ⟨_, rfl⟩
        obtain ⟨again, hagain⟩ := hreduce'
        simp only [storedAfter, viewUpdate, viewBefore, hagain,
          if_pos ((reduceView_eq_self_iff hagain).mpr hstale)]

namespace EventStore

def StoresView (s : EventStore) (eventId : String) (stored : Option InvestigationView) : Prop :=
  match stored with
  | none => s.telegramCardState eventId = none
  | some view => ∃ state, s.telegramCardState eventId = some state ∧
      decodeView state.payload = some view

variable {s s' : EventStore} {eventId : String} {stored : Option InvestigationView}

lemma updatedView_eq {activity : InvestigationActivity} (h : s.StoresView activity.eventId stored) :
    s.updatedView activity = viewUpdate stored activity := by
  cases stored with
  | none =>
    have hnone : s.telegramCardState activity.eventId = none := h
    unfold updatedView currentView viewUpdate viewBefore
    rw [hnone]
    cases InvestigationView.new activity.incidentId activity.eventId <;> rfl
  | some view =>
    obtain ⟨state, hstate, hdecode⟩ := h
    cases hreduced : reduceView view activity <;>
      simp only [updatedView, currentView, viewUpdate, viewBefore, hstate, hdecode, hreduced]

lemma StoresView.of_states (h : s.StoresView eventId stored) (hsame : s'.cardStates = s.cardStates) :
    s'.StoresView eventId stored := by
  have hget : s'.telegramCardState eventId = s.telegramCardState eventId := by
    rw [telegramCardState, hsame, telegramCardState]
  cases stored with
  | none => exact hget.trans h
  | some view =>
    obtain ⟨state, hstate, hdecode⟩ := h
    exact ⟨state, hget.trans hstate, hdecode⟩

/-! ### Cards of the first chat only -/

/-- Every card row of the event is that of a text for the one chat, and every receipt of the
event has such a row. -/
structure CardsOf (s : EventStore) (eventId chatId : String) (digest : String → String)
    (texts : Set String) : Prop where
  intents : ∀ i ∈ s.intents, i.eventId = eventId → i.isCard = true →
    ∃ render : TelegramRender, i.destination = telegramDestination chatId ∧
      i.kind = cardKind render.renderHash ∧ i.payload = cardPayload chatId render ∧
      render.renderHash = digest render.text ∧ render.text ∈ texts
  receipts : ∀ r ∈ s.cardReceipts.rows, r.eventId = eventId →
    ∃ i ∈ s.intents, i.eventId = eventId ∧ i.isCard = true ∧
      ∃ text, cardFields i.payload = some (r.chatId, text, r.renderHash)

variable {chatId : String} {digest : String → String} {texts : Set String}

lemma CardsOf.step (h : s.CardsOf eventId chatId digest texts) (hstep : DeliveryStep s s') :
    s'.CardsOf eventId chatId digest texts := by
  have hintents := hstep.same.intents
  refine ⟨fun i hi => h.intents i (hintents ▸ hi), fun r hr hevent => ?_⟩
  rw [hintents]
  cases hstep with
  | progress _ hreceipts => exact h.receipts r (hreceipts ▸ hr) hevent
  | receipt _ i hi hcard c text renderHash messageId now hfields hreceipts =>
    rw [hreceipts] at hr
    rcases KeyedTable.mem_of_mem_upsert hr with hold | rfl | ⟨old, -, hkey, rfl⟩
    · exact h.receipts r hold hevent
    · exact ⟨i, hi, hevent, hcard, text, hfields⟩
    · obtain ⟨hevent', hchat⟩ := Prod.mk.inj hkey
      dsimp only at hevent' hchat
      exact ⟨i, hi, hevent'.symm.trans hevent, hcard, text, by rw [hfields, hchat]⟩

/-- The store between two activities of the event: its cards are those of one chat, and the view
is the one that the activities so far have left. -/
structure Following (s : EventStore) (eventId chatId : String) (digest : String → String)
    (texts : Set String) (stored : Option InvestigationView) : Prop where
  event : s.get eventId ≠ none
  fresh : s.FreshIds
  cards : s.CardsOf eventId chatId digest texts
  view : s.StoresView eventId stored

theorem Following.delivered (h : s.Following eventId chatId digest texts stored)
    (hdelivered : Delivered s s') : s'.Following eventId chatId digest texts stored := by
  have hsame := hdelivered.same
  refine ⟨?_, hsame.fresh h.fresh, ?_, h.view.of_states hsame.states⟩
  · rw [EventStore.get, hsame.events]
    exact h.event
  · induction hdelivered with
    | refl => exact h.cards
    | tail hbefore hstep ih => exact (ih (Delivered.same hbefore)).step hstep

lemma drainLive_delivered (s : EventStore) (tick : Tick) (owner : String) :
    Delivered s (s.drainLive tick owner) := by
  unfold drainLive
  split
  · exact .refl
  · exact drainNotifications_delivered

theorem Following.add_intent (h : s.Following eventId chatId digest texts stored) {i : Intent}
    (hintents : s'.intents = s.intents ++ [i]) (hid : i.outboxId = s.nextOutboxId)
    (hnext : s'.nextOutboxId = s.nextOutboxId + 1) (hevents : s'.events = s.events)
    (hstates : s'.cardStates = s.cardStates) (hreceipts : s'.cardReceipts = s.cardReceipts)
    (hcard : i.eventId = eventId → i.isCard = true →
      ∃ render : TelegramRender, i.destination = telegramDestination chatId ∧
        i.kind = cardKind render.renderHash ∧ i.payload = cardPayload chatId render ∧
        render.renderHash = digest render.text ∧ render.text ∈ texts) :
    s'.Following eventId chatId digest texts stored := by
  refine ⟨?_, ?_, ⟨?_, ?_⟩, h.view.of_states hstates⟩
  · rw [EventStore.get, hevents]
    exact h.event
  · intro j hj
    rw [hnext]
    rw [hintents, List.mem_append, List.mem_singleton] at hj
    rcases hj with hold | rfl
    · exact (h.fresh j hold).trans (Nat.lt_succ_self _)
    · rw [hid]
      exact Nat.lt_succ_self _
  · intro j hj hevent hkind
    rw [hintents, List.mem_append, List.mem_singleton] at hj
    rcases hj with hold | rfl
    · exact h.cards.intents j hold hevent hkind
    · exact hcard hevent hkind
  · intro r hr hr'
    rw [hreceipts] at hr
    obtain ⟨j, hj, hrest⟩ := h.cards.receipts r hr hr'
    rw [hintents]
    exact ⟨j, List.mem_append_left _ hj, hrest⟩

theorem Following.enqueueActivity (h : s.Following eventId chatId digest texts stored)
    {activity : InvestigationActivity} (hevent : activity.eventId = eventId) (other : String)
    (now : Datetime) :
    ∃ record s', s.enqueueActivity other activity now = .ok (record, s') ∧
      s'.Following eventId chatId digest texts stored ∧ ∀ i ∈ s.intents, i ∈ s'.intents := by
  unfold EventStore.enqueueActivity
  cases hrender : renderActivityMessage activity with
  | none => exact ⟨none, s, rfl, h, fun _ hi => hi⟩
  | some text =>
    have hget : s.get activity.eventId ≠ none := by
      rw [hevent]
      exact h.event
    obtain ⟨row, created, s', hok⟩ := enqueueNotification_ok hget
      (isBlank_telegramDestination other) (isBlank_activityKindOf activity.activityId)
      [("chat_id", .str other), ("text", .str text), ("activity_id", .str activity.activityId)] now
    refine ⟨some row, s', by simp only [hok], ?_⟩
    obtain ⟨-, -, -, -, rfl | ⟨hrow, -, hintents, hnext, hevents, hstates, hreceipts⟩⟩ :=
      enqueueNotification_intents h.fresh hok
    · exact ⟨h, fun _ hi => hi⟩
    refine ⟨h.add_intent hintents (by rw [hrow]) hnext hevents hstates hreceipts ?_, ?_⟩
    · intro _ hcard
      rw [hrow, Intent.isCard, not_isCard_activityKind] at hcard
      cases hcard
    · intro i hi
      rw [hintents]
      exact List.mem_append_left _ hi

theorem Following.save (h : s.Following eventId chatId digest texts stored)
    (updated : InvestigationView) (dirtyAt : Option Datetime) (now : Datetime) :
    ∃ state s', s.saveTelegramCardState eventId (encodeView updated) dirtyAt now = .ok (state, s') ∧
      s'.Following eventId chatId digest texts (some updated) ∧ s'.intents = s.intents := by
  obtain ⟨state, s', hok, ⟨saved, hsaved, hpayload, -⟩, -, hintents, hnext, hevents, hreceipts⟩ :=
    saveTelegramCardState_ok h.event (encodeView updated) dirtyAt now
  refine ⟨state, s', hok, ⟨?_, ?_, ⟨?_, ?_⟩, saved, hsaved, ?_⟩, hintents⟩
  · rw [EventStore.get, hevents]
    exact h.event
  · intro i hi
    rw [hnext]
    exact h.fresh i (hintents ▸ hi)
  · rw [hintents]
    exact h.cards.intents
  · rw [hintents, hreceipts]
    exact h.cards.receipts
  · rw [hpayload]
    exact decodeView_encodeView updated

lemma cardKind_inj {a b : String} (h : cardKind a = cardKind b) : a = b := by
  have hlists := congrArg String.toList h
  rw [cardKind, cardKind, String.toList_append, String.toList_append] at hlists
  exact String.toList_inj.mp (List.append_cancel_left hlists)

lemma CardsOf.payload_eq (h : s.CardsOf eventId chatId digest texts)
    (hinj : Set.InjOn digest texts) {render : TelegramRender}
    (hhash : render.renderHash = digest render.text) (htext : render.text ∈ texts) {i : Intent}
    (hi : i ∈ s.intents) (hevent : i.eventId = eventId)
    (hkind : i.kind = cardKind render.renderHash) :
    i.destination = telegramDestination chatId ∧ i.payload = cardPayload chatId render := by
  have hcard : i.isCard = true := by
    rw [Intent.isCard, hkind]
    exact isCard_cardKind _
  obtain ⟨other, hdestination, hkind', hpayload, hhash', htext'⟩ := h.intents i hi hevent hcard
  have hhashes : other.renderHash = render.renderHash := cardKind_inj (hkind'.symm.trans hkind)
  have hsame : other.text = render.text := by
    apply hinj htext' htext
    rw [← hhash, ← hhash', hhashes]
  refine ⟨hdestination, ?_⟩
  rw [hpayload, cardPayload, cardPayload, hsame, hhashes]

lemma telegramCardReceipt_key {r : TelegramCardReceipt}
    (hr : s.telegramCardReceipt eventId chatId = some r) :
    r.eventId = eventId ∧ r.chatId = chatId := by
  have hkey := @KeyedTable.key_of_get? _ _ _ (fun r : TelegramCardReceipt => (r.eventId, r.chatId))
    s.cardReceipts (eventId, chatId) r hr
  exact Prod.mk.inj hkey

lemma CardsOf.row_of_receipt (h : s.CardsOf eventId chatId digest texts)
    {r : TelegramCardReceipt} (hr : s.telegramCardReceipt eventId chatId = some r) :
    ∃ i ∈ s.intents, i.eventId = eventId ∧ i.kind = cardKind r.renderHash := by
  obtain ⟨hevent, -⟩ := telegramCardReceipt_key hr
  obtain ⟨i, hi, hi', hcard, text, hfields⟩ :=
    h.receipts r (KeyedTable.mem_of_get? hr) hevent
  obtain ⟨other, -, hkind, hpayload, -⟩ := h.intents i hi hi' hcard
  rw [hpayload] at hfields
  have hhash : r.renderHash = other.renderHash :=
    congrArg (fun fields => fields.2.2) (cardFields_cardPayload hfields)
  exact ⟨i, hi, hi', by rw [hkind, hhash]⟩

theorem Following.enqueueCard (h : s.Following eventId chatId digest texts stored)
    (hinj : Set.InjOn digest texts) {render : TelegramRender}
    (hhash : render.renderHash = digest render.text) (htext : render.text ∈ texts)
    (now : Datetime) :
    ∃ record s', s.enqueueCard eventId chatId render now = .ok (record, s') ∧
      s'.Following eventId chatId digest texts stored ∧
      ∃ i ∈ s'.intents, i.eventId = eventId ∧ i.destination = telegramDestination chatId ∧
        i.kind = cardKind render.renderHash ∧ i.payload = cardPayload chatId render := by
  unfold EventStore.enqueueCard
  split
  · rename_i hreceipt
    obtain ⟨r, hr, hsame⟩ := Option.any_eq_true .. |>.mp hreceipt
    rw [decide_eq_true_eq] at hsame
    obtain ⟨i, hi, hevent, hkind⟩ := h.cards.row_of_receipt hr
    rw [hsame] at hkind
    obtain ⟨hdestination, hpayload⟩ :=
      h.cards.payload_eq hinj hhash htext hi hevent hkind
    exact ⟨none, s, rfl, h, i, hi, hevent, hdestination, hkind, hpayload⟩
  · obtain ⟨row, created, s', hok⟩ := enqueueNotification_ok h.event
      (isBlank_telegramDestination chatId) (isBlank_cardKind render.renderHash)
      (cardPayload chatId render) now
    refine ⟨some row, s', by simp only [hok], ?_⟩
    obtain ⟨hmem, hevent, hdestination, hkind, hadded⟩ := enqueueNotification_intents h.fresh hok
    rcases hadded with rfl | ⟨hrow, -, hintents, hnext, hevents, hstates, hreceipts⟩
    · exact ⟨h, row.intent, hmem, hevent, hdestination, hkind,
        (h.cards.payload_eq hinj hhash htext hmem hevent hkind).2⟩
    refine ⟨h.add_intent hintents (by rw [hrow]) hnext hevents hstates hreceipts ?_, row.intent,
      hmem, hevent, hdestination, hkind, by rw [hrow]⟩
    intro _ _
    rw [hrow]
    exact ⟨render, rfl, rfl, rfl, hhash, htext⟩

end EventStore

lemma viewUpdate_eventId {stored : Option InvestigationView} {activity : InvestigationActivity}
    {updated : InvestigationView} (h : viewUpdate stored activity = .ok (some updated)) :
    updated.eventId = activity.eventId := by
  unfold viewUpdate at h
  cases hbefore : viewBefore stored activity with
  | error e => simp [hbefore] at h
  | ok view =>
    simp only [hbefore] at h
    cases hreduce : reduceView view activity with
    | error e => simp [hreduce] at h
    | ok next =>
      simp only [hreduce] at h
      split at h
      · cases h
      · cases h
        obtain ⟨-, hevent, -, hevent', -⟩ := reduceView_cases hreduce
        rw [hevent', hevent]

lemma renderCard_hash {digest : String → String} {view : InvestigationView} {maxChars : Nat}
    {render : TelegramRender} (h : renderCard digest view maxChars = .ok render) :
    render.renderHash = digest render.text := by
  unfold renderCard at h
  split at h
  · cases h
  dsimp only at h
  split at h
  · cases h
    rfl
  · split at h
    · cases h
    · cases h
      rfl

section steps

variable {digest : String → String} {texts : Set String} {first : String}
  {c : TelegramCardCoordinator} {s s₁ : EventStore} {e : Emission}
  {stored : Option InvestigationView} {updated : InvestigationView}

lemma emitTo_of_apply {record : Option OutboxRecord}
    (happly : c.apply digest s e.activity (e.applied c.chatId) = (.ok record, s₁))
    (h : s₁.Following e.activity.eventId first digest texts stored) :
    ∃ s', emitTo digest c s e = (.ok (), s') ∧
      s'.Following e.activity.eventId first digest texts stored ∧
      ∀ i ∈ s₁.intents, i ∈ s'.intents := by
  have hdrained := s₁.drainLive_delivered (e.card c.chatId) e.owner
  obtain ⟨reply, s₃, hreply, hfollow, hkept⟩ := (h.delivered hdrained).enqueueActivity
    rfl c.chatId (e.reply c.chatId).now
  rw [hdrained.same.intents] at hkept
  unfold emitTo
  simp only [happly, hreply]
  cases reply with
  | none => exact ⟨s₃, rfl, hfollow, hkept⟩
  | some row =>
    have hdrained' := s₃.drainLive_delivered (e.reply c.chatId) e.owner
    refine ⟨_, rfl, hfollow.delivered hdrained', fun i hi => ?_⟩
    rw [hdrained'.same.intents]
    exact hkept i hi

lemma apply_unchanged (h : s.Following e.activity.eventId first digest texts stored)
    (hview : viewUpdate stored e.activity = .ok none) (now : Datetime) :
    c.apply digest s e.activity now = (.ok none, s) := by
  rw [TelegramCardCoordinator.apply, TelegramCardCoordinator.applyState,
    EventStore.updatedView_eq h.view, hview]
  rfl

theorem emitToAll_unchanged (h : s.Following e.activity.eventId first digest texts stored)
    (hview : viewUpdate stored e.activity = .ok none) (cs : List TelegramCardCoordinator) :
    ∃ s', emitToAll digest s e cs = (.ok (), s') ∧
      s'.Following e.activity.eventId first digest texts stored ∧
      ∀ i ∈ s.intents, i ∈ s'.intents := by
  induction cs generalizing s with
  | nil => exact ⟨s, rfl, h, fun _ hi => hi⟩
  | cons c cs ih =>
    obtain ⟨s₁, hemit, hfollow, hkept⟩ := emitTo_of_apply (c := c) (apply_unchanged h hview _) h
    obtain ⟨s', hrest, hfollow', hkept'⟩ := ih hfollow
    refine ⟨s', ?_, hfollow', fun i hi => hkept' i (hkept i hi)⟩
    rw [emitToAll, hemit]
    exact hrest

lemma apply_changed (h : s.Following e.activity.eventId first digest texts stored)
    (hview : viewUpdate stored e.activity = .ok (some updated)) (now : Datetime) :
    ∃ s₁, s₁.Following e.activity.eventId first digest texts (some updated) ∧
      c.apply digest s e.activity now =
        if e.activity.kind ∈ immediateKinds then c.enqueue digest s₁ updated now
        else (.ok none, s₁) := by
  obtain ⟨state, s₁, hsave, hfollow, -⟩ := h.save updated
    (if e.activity.kind ∈ immediateKinds then none else some now) now
  refine ⟨s₁, hfollow, ?_⟩
  rw [TelegramCardCoordinator.apply, TelegramCardCoordinator.applyState,
    EventStore.updatedView_eq h.view, hview]
  simp only [hsave]
  split <;> rfl

end steps

section runs

variable {digest : String → String} {texts : Set String} {c : TelegramCardCoordinator}
  {cs : List TelegramCardCoordinator} {s : EventStore} {eventId : String}
  {stored : Option InvestigationView} {updated : InvestigationView} {render : TelegramRender}

lemma hasCard_of_intent {chatId : String} {i : Intent} (hi : i ∈ s.intents)
    (hevent : i.eventId = eventId) (hdestination : i.destination = telegramDestination chatId)
    (hkind : i.kind = cardKind render.renderHash)
    (hpayload : i.payload = cardPayload chatId render) : HasCard s eventId chatId render := by
  obtain ⟨row, hrow, rfl⟩ := List.mem_map.mp hi
  exact .inl ⟨row, hrow, hevent, hdestination, hkind, hpayload⟩

lemma not_hasCard_of_ne (h : s.CardsOf eventId c.chatId digest texts) {chatId : String}
    (hne : chatId ≠ c.chatId) : ¬HasCard s eventId chatId render := by
  rintro (⟨row, hrow, hevent, hdestination, hkind, -⟩ | ⟨receipt, hreceipt, -⟩)
  · have hcard : row.intent.isCard = true := by
      rw [Intent.isCard, OutboxRecord.intent, hkind]
      exact isCard_cardKind _
    obtain ⟨-, hfirst, -⟩ := h.intents row.intent (List.mem_map.mpr ⟨row, hrow, rfl⟩) hevent hcard
    exact hne (EventStore.telegramDestination_inj (hdestination.symm.trans hfirst))
  · obtain ⟨hevent, hchat⟩ := EventStore.telegramCardReceipt_key hreceipt
    obtain ⟨i, hi, hi', hcard, text, hfields⟩ :=
      h.receipts receipt (KeyedTable.mem_of_get? hreceipt) hevent
    obtain ⟨other, -, -, hpayload, -⟩ := h.intents i hi hi' hcard
    rw [hpayload] at hfields
    have hfirst : receipt.chatId = c.chatId :=
      congrArg (fun fields : String × String × String => fields.1)
        (EventStore.cardFields_cardPayload hfields)
    exact hne (hchat.symm.trans hfirst)

theorem emitToAll_shown {e : Emission}
    (h : s.Following e.activity.eventId c.chatId digest texts stored)
    (hinj : Set.InjOn digest texts)
    (hview : viewUpdate stored e.activity = .ok (some updated))
    (hkind : e.activity.kind ∈ immediateKinds)
    (hok : renderCard digest updated MAX_TELEGRAM_CARD_CHARS = .ok render)
    (htext : render.text ∈ texts) (cs : List TelegramCardCoordinator) :
    ∃ s', emitToAll digest s e (c :: cs) = (.ok (), s') ∧
      s'.Following e.activity.eventId c.chatId digest texts (some updated) ∧
      HasCard s' e.activity.eventId c.chatId render := by
  obtain ⟨s₁, hfollow, happly⟩ := apply_changed (c := c) h hview (e.applied c.chatId)
  obtain ⟨record, s₂, henqueue, hfollow₂, i, hi, hevent, hdestination, hikind, hpayload⟩ :=
    hfollow.enqueueCard hinj (renderCard_hash hok) htext (e.applied c.chatId)
  have hrecord : c.apply digest s e.activity (e.applied c.chatId) = (.ok record, s₂) := by
    rw [happly, if_pos hkind, TelegramCardCoordinator.enqueue, hok, viewUpdate_eventId hview]
    simp only [henqueue]
  obtain ⟨s₃, hemit, hfollow₃, hkept⟩ := emitTo_of_apply hrecord hfollow₂
  obtain ⟨s', hrest, hfollow', hkept'⟩ :=
    emitToAll_unchanged hfollow₃ (viewUpdate_again hview) cs
  refine ⟨s', ?_, hfollow', ?_⟩
  · rw [emitToAll, hemit]
    exact hrest
  · exact hasCard_of_intent (hkept' i (hkept i hi)) hevent hdestination hikind hpayload

theorem emitToAll_quiet {e : Emission}
    (h : s.Following e.activity.eventId c.chatId digest texts stored)
    (hview : viewUpdate stored e.activity = .ok (some updated))
    (hkind : e.activity.kind ∉ immediateKinds) (cs : List TelegramCardCoordinator) :
    ∃ s', emitToAll digest s e (c :: cs) = (.ok (), s') ∧
      s'.Following e.activity.eventId c.chatId digest texts (some updated) := by
  obtain ⟨s₁, hfollow, happly⟩ := apply_changed (c := c) h hview (e.applied c.chatId)
  rw [if_neg hkind] at happly
  obtain ⟨s₃, hemit, hfollow₃, -⟩ := emitTo_of_apply happly hfollow
  obtain ⟨s', hrest, hfollow', -⟩ := emitToAll_unchanged hfollow₃ (viewUpdate_again hview) cs
  refine ⟨s', ?_, hfollow'⟩
  rw [emitToAll, hemit]
  exact hrest

theorem everyChat_iff_of_following {emissions : List Emission}
    (hdistinct : ((c :: cs).map TelegramCardCoordinator.chatId).Nodup)
    (hinj : Set.InjOn digest texts)
    (hemissions : ∀ e ∈ emissions, e.activity.eventId = eventId)
    (h : s.Following eventId c.chatId digest texts stored)
    (htexts : cardTexts digest (immediateViews stored (emissions.map Emission.activity)) ⊆ texts) :
    EveryChat digest (c :: cs) s emissions ↔
      ∀ view ∈ immediateViews stored (emissions.map Emission.activity), cs = [] ∧
        ∃ render, renderCard digest view MAX_TELEGRAM_CARD_CHARS = .ok render := by
  induction emissions generalizing s stored with
  | nil => simp [EveryChat, immediateViews]
  | cons e emissions ih =>
    obtain ⟨he, hrest⟩ := List.forall_mem_cons.mp hemissions
    subst he
    have hupdated := EventStore.updatedView_eq h.view
    rw [List.map_cons, immediateViews_cons] at htexts ⊢
    rw [EveryChat, hupdated]
    cases hview : viewUpdate stored e.activity with
    | error err =>
      have hraises : (emitToAll digest s e (c :: cs)).1 = .error err := by
        rw [emitToAll, emitTo, TelegramCardCoordinator.apply, TelegramCardCoordinator.applyState,
          hupdated, hview]
        rfl
      simp [hraises]
    | ok change =>
      cases change with
      | none =>
        obtain ⟨s', hemit, hfollow, -⟩ := emitToAll_unchanged h hview (c :: cs)
        rw [hview] at htexts
        rw [hemit, ← ih hrest hfollow htexts]
        simp
      | some updated =>
        simp only [hview] at htexts
        dsimp only
        by_cases hkind : e.activity.kind ∈ immediateKinds
        · rw [if_pos hkind] at htexts ⊢
          rw [List.forall_mem_cons]
          by_cases hrender : ∃ render,
              renderCard digest updated MAX_TELEGRAM_CARD_CHARS = .ok render
          · obtain ⟨render, hok⟩ := hrender
            have htext : render.text ∈ texts :=
              htexts ⟨updated, List.mem_cons_self, render, hok, rfl⟩
            have htexts' : cardTexts digest (immediateViews (some updated)
                (emissions.map Emission.activity)) ⊆ texts := by
              rintro text ⟨view, hmem, hview'⟩
              exact htexts ⟨view, List.mem_cons_of_mem _ hmem, hview'⟩
            obtain ⟨s', hemit, hfollow, hcard⟩ :=
              emitToAll_shown h hinj hview hkind hok htext cs
            rw [hemit, ← ih hrest hfollow htexts']
            constructor
            · rintro ⟨hcards, htail⟩
              obtain ⟨render', -, hall⟩ := hcards updated rfl hkind
              refine ⟨⟨?_, render, hok⟩, htail rfl⟩
              cases cs with
              | nil => rfl
              | cons c₂ cs =>
                have hne : c₂.chatId ≠ c.chatId := by
                  intro hsame
                  rw [List.map_cons, List.map_cons, hsame] at hdistinct
                  exact (List.nodup_cons.mp hdistinct).1 List.mem_cons_self
                exact absurd (hall c₂ (List.mem_cons_of_mem _ List.mem_cons_self))
                  (not_hasCard_of_ne hfollow.cards hne)
            · rintro ⟨⟨rfl, -⟩, htail⟩
              refine ⟨fun u hu _ => ?_, fun _ => htail⟩
              cases hu
              refine ⟨render, hok, fun c' hc' => ?_⟩
              rw [List.mem_singleton.mp hc']
              exact hcard
          · refine iff_of_false ?_ (fun hall => hrender hall.1.2)
            rintro ⟨hcards, -⟩
            obtain ⟨render, hok, -⟩ := hcards updated rfl hkind
            exact hrender ⟨render, hok⟩
        · rw [if_neg hkind] at htexts ⊢
          obtain ⟨s', hemit, hfollow⟩ := emitToAll_quiet h hview hkind cs
          rw [hemit, ← ih hrest hfollow htexts]
          simp [hkind]

/-- Every chat gets the card of every view exactly when there is one chat, or no view to show, and
each view renders. -/
theorem everyChat_iff {coordinators : List TelegramCardCoordinator} {emissions : List Emission}
    (hnonempty : coordinators ≠ [])
    (hdistinct : (coordinators.map TelegramCardCoordinator.chatId).Nodup)
    (hevent : s.get eventId ≠ none) (hfresh : s.FreshIds)
    (hcards : ∀ i ∈ s.intents, i.eventId = eventId → i.isCard = false)
    (hreceipts : ∀ r ∈ s.cardReceipts.rows, r.eventId ≠ eventId)
    (hstate : s.telegramCardState eventId = none)
    (hemissions : ∀ e ∈ emissions, e.activity.eventId = eventId)
    (hinj : Set.InjOn digest
      (cardTexts digest (immediateViews none (emissions.map Emission.activity)))) :
    EveryChat digest coordinators s emissions ↔
      ∀ view ∈ immediateViews none (emissions.map Emission.activity),
        coordinators.length = 1 ∧
          ∃ render, renderCard digest view MAX_TELEGRAM_CARD_CHARS = .ok render := by
  cases coordinators with
  | nil => exact absurd rfl hnonempty
  | cons c cs =>
    have hfollow : s.Following eventId c.chatId digest
        (cardTexts digest (immediateViews none (emissions.map Emission.activity))) none := by
      refine ⟨hevent, hfresh, ⟨fun i hi hi' hcard => ?_, fun r hr hr' => ?_⟩, hstate⟩
      · rw [hcards i hi hi'] at hcard
        cases hcard
      · exact absurd hr' (hreceipts r hr)
    rw [everyChat_iff_of_following hdistinct hinj hemissions hfollow subset_rfl]
    simp only [List.length_cons, Nat.add_eq_right, List.length_eq_zero_iff]

end runs

def startedActivity : InvestigationActivity where
  activityId := "a1"
  incidentId := "INC-1"
  eventId := "e"
  sequence := 0
  kind := .started
  status := .running
  sequence_nonneg := InvestigationActivity.first_nonneg
  duration_nonneg := InvestigationActivity.untimed
  summary_short := InvestigationActivity.unsummarised

def startedView : InvestigationView where
  incidentId := "INC-1"
  eventId := "e"
  status := .running
  lastSequence := 0
  appliedActivityIds := {"a1"}

/-- The sha256 of the card of `startedView`. -/
def startedDigest : String → String :=
  fun _ => "2dc5120ff573bb0f0a2400218d0181ba3b8ca1e3c8ab6c103f94c2e57b13e6e9"

def startedEmission : Emission where
  activity := startedActivity
  owner := "event-agent"
  applied := fun _ => ⟨1000000, 0⟩
  card := fun _ => ⟨⟨1000000, 0⟩, none⟩
  reply := fun _ => ⟨⟨1000000, 0⟩, none⟩

lemma injOn_startedView (digest : String → String) :
    Set.InjOn digest (cardTexts digest [startedView]) := by
  rintro _ ⟨v, hv, r, hr, rfl⟩ _ ⟨v', hv', r', hr', rfl⟩ _
  rw [List.mem_singleton] at hv hv'
  rw [hv] at hr
  rw [hv', hr] at hr'
  cases hr'
  rfl

def chat (chatId : String) : TelegramCardCoordinator := { chatId }

lemma freshIds_oneEvent : oneEvent.FreshIds := by
  intro i hi
  cases hi

theorem everyChat_iff_startedActivity :
    EveryChat startedDigest [chat "1"] oneEvent [startedEmission] ↔
      ∀ view ∈ immediateViews none [startedActivity], [chat "1"].length = 1 ∧
        ∃ render, renderCard startedDigest view MAX_TELEGRAM_CARD_CHARS = .ok render :=
  have hemissions : ∀ e ∈ [startedEmission], e.activity.eventId = "e" := by decide
  everyChat_iff (List.cons_ne_nil _ _) (List.nodup_singleton _) (by decide) freshIds_oneEvent
    (by decide) (by decide) (by decide) hemissions (injOn_startedView startedDigest)

/-- The second chat gets no card: the first coordinator's write has made the activity old. -/
theorem everyChat_fails_second :
    ¬EveryChat startedDigest [chat "1", chat "2"] oneEvent [startedEmission] := by
  intro h
  obtain ⟨render, -, hcards⟩ := h.1 startedView (by rfl) (by decide)
  set s := (emitToAll startedDigest oneEvent startedEmission [chat "1", chat "2"]).2 with hs
  have hrows : s.outbox.rows.all (fun row => row.destination ≠ telegramDestination "2") = true := by
    rw [hs]
    decide +kernel
  have hreceipts : s.cardReceipts.rows = [] := by
    rw [hs]
    decide +kernel
  rcases hcards (chat "2") (by simp) with ⟨row, hrow, -, hdestination, -⟩ | ⟨receipt, hget, -⟩
  · have hne := List.all_eq_true.mp hrows row hrow
    rw [decide_eq_true_eq] at hne
    exact hne hdestination
  · have hmem := KeyedTable.mem_of_get? hget
    rw [hreceipts] at hmem
    cases hmem

end NetTools
