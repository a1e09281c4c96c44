import Mathlib.Logic.Function.Basic
import NetTools.Telegram.DeliveryFrame

/-!
# Workers on the cards of one chat

Coordinators hand renders to the outbox while any number of workers deliver its rows. A
delivery takes its writes and its provider call one at a time, so that another call may come
between any two of them, and a worker may stop between any two for good.
-/

namespace NetTools

inductive Phase where
  | claimed
  | looked (receipt : Option TelegramCardReceipt)
  | accepted (messageId : Int)
  | recorded
  | rejected (error : NotifierError)

structure Delivery where
  owner : String
  claimed : OutboxRecord
  phase : Phase

namespace Delivery

def look (s : EventStore) (row : OutboxRecord) : Phase :=
  if pyStartsWith row.kind "card:" then
    match cardFields row.payload with
    | none => .rejected ⟨"invalid Telegram card payload", none⟩
    | some (chatId, _, _) => .looked (s.telegramCardReceipt row.eventId chatId)
  else if pyStartsWith row.kind "activity:" then
    match EventStore.textField row.payload "chat_id", EventStore.textField row.payload "text" with
    | some chatId, some _ =>
      match s.telegramCardReceipt row.eventId chatId with
      | none => .rejected ⟨"card root receipt is unavailable", none⟩
      | some receipt => .looked (some receipt)
    | _, _ => .rejected ⟨"invalid Telegram activity payload", none⟩
  else .rejected ⟨"unsupported notification kind " ++ pyRepr row.kind, none⟩

def answered (row : OutboxRecord) : Except NotifierError Int → Phase
  | .error e => .rejected e
  | .ok messageId => if pyStartsWith row.kind "card:" then .accepted messageId else .recorded

/-- The receipt of an accepted card, `none` where the store refuses it. -/
def record (s : EventStore) (row : OutboxRecord) (messageId : Int) (now : Datetime) :
    Option EventStore :=
  match cardFields row.payload with
  | none => none
  | some (chatId, _, renderHash) =>
    match s.recordTelegramCard row.eventId chatId messageId renderHash now with
    | .error _ => none
    | .ok (_, s') => some s'

def advance (d : Delivery) (s : EventStore) (answer : Except NotifierError Int) (now : Datetime) :
    EventStore × Option Delivery :=
  match d.phase with
  | .claimed => (s, some { d with phase := look s d.claimed })
  | .looked _ => (s, some { d with phase := answered d.claimed answer })
  | .accepted messageId =>
    match record s d.claimed messageId now with
    | none => (s, none)
    | some s' => (s', some { d with phase := .recorded })
  | .recorded => ((s.returning (s.finishDelivery d.claimed d.owner true none none now)).2, none)
  | .rejected e =>
    ((s.returning (s.finishDelivery d.claimed d.owner false (some e.message) e.retryAfterSeconds
      now)).2, none)

end Delivery

/-- The store with the deliveries under way, and what has become of the cards of one chat: the row
and the text that the chat shows, the rows whose receipts were recorded, how many renders were
handed to the outbox, the last of them that each row stands for, and the text of the last one. -/
structure CardWorld where
  store : EventStore
  inFlight : List Delivery := []
  shown : Option (Nat × String) := none
  recorded : List Nat := []
  handed : Nat := 0
  produced : Nat → Nat := fun _ => 0
  lastText : Option String := none

inductive CardStep where
  | apply (coordinator : TelegramCardCoordinator) (activity : InvestigationActivity)
      (now : Datetime)
  | flush (coordinator : TelegramCardCoordinator) (eventId : String) (now : Datetime)
  | reply (chatId : String) (activity : InvestigationActivity) (now : Datetime)
  | claim (outboxId : Nat) (owner : String) (leaseSeconds : ℚ) (now : Datetime)
  | advance (k : Nat) (answer : Except NotifierError Int) (now : Datetime)
  | crash (k : Nat)

def Intent.Tracks (eventId chatId : String) (i : Intent) : Prop :=
  i.eventId = eventId ∧ i.destination = telegramDestination chatId ∧ i.isCard = true

instance (eventId chatId : String) (i : Intent) : Decidable (i.Tracks eventId chatId) :=
  inferInstanceAs (Decidable (_ ∧ _ ∧ _))

namespace CardWorld

variable (digest : String → String) (eventId chatId : String)

def handedRender (c : TelegramCardCoordinator)
    (found : Except CardError (Option InvestigationView)) : Option TelegramRender :=
  match found with
  | .ok (some view) =>
    match renderCard digest view MAX_TELEGRAM_CARD_CHARS with
    | .ok render => if view.eventId = eventId ∧ c.chatId = chatId then some render else none
    | .error _ => none
  | _ => none

def rowOf (s : EventStore) (render : TelegramRender) : Option OutboxRecord :=
  s.findNotification eventId (telegramDestination chatId) (cardKind render.renderHash)

def handOver (w : CardWorld) (s : EventStore) (render : Option TelegramRender) : CardWorld :=
  match render with
  | none => { w with store := s }
  | some render =>
    match rowOf eventId chatId s render with
    | none => { w with store := s }
    | some row =>
      { w with
        store := s
        handed := w.handed + 1
        produced := Function.update w.produced row.outboxId (w.handed + 1)
        lastText := some render.text }

def accepts (d : Delivery) (answer : Except NotifierError Int) : Option (Nat × String) :=
  match d.phase, answer with
  | .looked _, .ok _ =>
    if d.claimed.intent.Tracks eventId chatId then
      (EventStore.textField d.claimed.payload "text").map (fun text => (d.claimed.outboxId, text))
    else none
  | _, _ => none

def records (d : Delivery) (next : Option Delivery) : List Nat :=
  match d.phase, next with
  | .accepted _, some _ =>
    if d.claimed.intent.Tracks eventId chatId then [d.claimed.outboxId] else []
  | _, _ => []

/-- The deliveries under way, once the one at `k` has taken a step. -/
def replaceAt (ds : List Delivery) (k : Nat) : Option Delivery → List Delivery
  | none => ds.eraseIdx k
  | some d => ds.set k d

def step (w : CardWorld) : CardStep → CardWorld
  | .apply c activity now =>
    let found := TelegramCardCoordinator.applyState w.store activity now
    handOver eventId chatId w (c.enqueueFound digest now found).2
      (handedRender digest eventId chatId c found.1)
  | .flush c flushed now =>
    let found := c.flushState w.store flushed now
    handOver eventId chatId w (c.enqueueFound digest now found).2
      (handedRender digest eventId chatId c found.1)
  | .reply chat activity now =>
    { w with store := (w.store.returning (w.store.enqueueActivity chat activity now)).2 }
  | .claim outboxId owner leaseSeconds now =>
    match w.store.claimNotification outboxId owner leaseSeconds now with
    | .error _ => w
    | .ok (row, s) => { w with store := s, inFlight := w.inFlight ++ [⟨owner, row, .claimed⟩] }
  | .advance k answer now =>
    match w.inFlight[k]? with
    | none => w
    | some d =>
      let (s, next) := d.advance w.store answer now
      { w with
        store := s
        inFlight := replaceAt w.inFlight k next
        shown := (accepts eventId chatId d answer).or w.shown
        recorded := records eventId chatId d next ++ w.recorded }
  | .crash k => { w with inFlight := w.inFlight.eraseIdx k }

/-! ### A drain is a run -/

end CardWorld

namespace Delivery

def complete (answer : Except NotifierError Int) (now : Datetime) :
    Nat → EventStore → Delivery → EventStore × Option Delivery
  | 0, s, d => (s, some d)
  | n + 1, s, d =>
    match d.advance s answer now with
    | (s', none) => (s', none)
    | (s', some d') => complete answer now n s' d'

variable {s s₁ : EventStore} {notifier : Notifier} {owner : String} {now : Datetime}
  {claimed : OutboxRecord}

def answerOf (s : EventStore) (notifier : Notifier) (row : OutboxRecord) :
    Except NotifierError Int :=
  match EventStore.textField row.payload "chat_id", EventStore.textField row.payload "text" with
  | some chatId, some text =>
    if pyStartsWith row.kind "card:" then s.sendCard notifier row chatId text
    else
      match s.telegramCardReceipt row.eventId chatId with
      | none => .error ⟨"", none⟩
      | some receipt => notifier.sendReplyText row.outboxId chatId receipt.messageId text
  | _, _ => .error ⟨"", none⟩

lemma nonemptyText_eq_some {payload : Dict} {key text : String}
    (h : nonemptyText payload key = some text) :
    EventStore.textField payload key = some text := by
  rw [nonemptyText] at h
  rw [EventStore.textField]
  split at h
  · split at h
    · cases h
    · exact h
  · cases h

lemma cardFields_eq_some {payload : Dict} {chatId text renderHash : String}
    (h : cardFields payload = some (chatId, text, renderHash)) :
    EventStore.textField payload "chat_id" = some chatId ∧
      EventStore.textField payload "text" = some text := by
  rw [cardFields] at h
  split at h
  · rename_i hchat htext _
    cases h
    exact ⟨nonemptyText_eq_some hchat, nonemptyText_eq_some htext⟩
  · cases h

lemma complete_card (hkind : pyStartsWith claimed.kind "card:" = true) :
    complete (answerOf s₁ notifier claimed) now 4 s₁ ⟨owner, claimed, .claimed⟩ =
      ((match cardFields claimed.payload with
        | none => s₁.returning (s₁.finishDelivery claimed owner false
            (some "invalid Telegram card payload") none now)
        | some (chatId, text, renderHash) =>
          match s₁.sendCard notifier claimed chatId text with
          | .error e => s₁.returning (s₁.finishDelivery claimed owner false (some e.message)
              e.retryAfterSeconds now)
          | .ok messageId =>
            match s₁.recordTelegramCard claimed.eventId chatId messageId renderHash now with
            | .error e => (.error e, s₁)
            | .ok (_, s₂) => s₂.returning (s₂.finishDelivery claimed owner true none none now)).2,
        none) := by
  cases hfields : cardFields claimed.payload with
  | none => simp only [complete, advance, look, hkind, if_true, hfields]
  | some fields =>
    obtain ⟨chatId, text, renderHash⟩ := fields
    obtain ⟨hchat, htext⟩ := cardFields_eq_some hfields
    have hanswer : answerOf s₁ notifier claimed = s₁.sendCard notifier claimed chatId text := by
      simp only [answerOf, hchat, htext, hkind, if_true]
    rw [hanswer]
    cases hsend : s₁.sendCard notifier claimed chatId text with
    | error e => simp only [complete, advance, look, answered, hkind, if_true, hfields, hsend]
    | ok messageId =>
      cases hrecord : s₁.recordTelegramCard claimed.eventId chatId messageId renderHash now with
      | error e =>
        simp only [complete, advance, look, answered, record, hkind, if_true, hfields, hsend, hrecord]
      | ok result =>
        simp only [complete, advance, look, answered, record, hkind, if_true, hfields, hsend, hrecord]

lemma complete_activity (hcard : pyStartsWith claimed.kind "card:" = false)
    (hkind : pyStartsWith claimed.kind "activity:" = true) :
    complete (answerOf s₁ notifier claimed) now 4 s₁ ⟨owner, claimed, .claimed⟩ =
      ((match EventStore.textField claimed.payload "chat_id",
          EventStore.textField claimed.payload "text" with
        | some chatId, some text =>
          match s₁.telegramCardReceipt claimed.eventId chatId with
          | none => s₁.returning (s₁.finishDelivery claimed owner false
              (some "card root receipt is unavailable") none now)
          | some receipt =>
            match notifier.sendReplyText claimed.outboxId chatId receipt.messageId text with
            | .ok _ => s₁.returning (s₁.finishDelivery claimed owner true none none now)
            | .error e => s₁.returning (s₁.finishDelivery claimed owner false (some e.message)
                e.retryAfterSeconds now)
        | _, _ => s₁.returning (s₁.finishDelivery claimed owner false
            (some "invalid Telegram activity payload") none now)).2, none) := by
  cases hchat : EventStore.textField claimed.payload "chat_id" with
  | none => simp only [complete, advance, look, hcard, hkind, hchat, if_true, Bool.false_eq_true, if_false]
  | some chatId =>
    cases htext : EventStore.textField claimed.payload "text" with
    | none =>
      simp only [complete, advance, look, hcard, hkind, hchat, htext, if_true,
        Bool.false_eq_true, if_false]
    | some text =>
      cases hreceipt : s₁.telegramCardReceipt claimed.eventId chatId with
      | none =>
        simp only [complete, advance, look, hcard, hkind, hchat, htext, hreceipt, if_true,
          Bool.false_eq_true, if_false]
      | some receipt =>
        have hanswer : answerOf s₁ notifier claimed =
            notifier.sendReplyText claimed.outboxId chatId receipt.messageId text := by
          simp only [answerOf, hchat, htext, hcard, hreceipt, Bool.false_eq_true, if_false]
        rw [hanswer]
        cases hsend : notifier.sendReplyText claimed.outboxId chatId receipt.messageId text with
        | error e =>
          simp only [complete, advance, look, answered, hcard, hkind, hchat, htext, hreceipt, hsend,
            if_true, Bool.false_eq_true, if_false]
        | ok messageId =>
          simp only [complete, advance, look, answered, hcard, hkind, hchat, htext, hreceipt, hsend,
            if_true, Bool.false_eq_true, if_false]

theorem deliverRow_eq_complete (notifier : Notifier) {record : OutboxRecord}
    (hclaim : s.claimNotification record.outboxId owner 30 now = .ok (claimed, s₁))
    (hkind : claimed.kind = record.kind) :
    complete (answerOf s₁ notifier claimed) now 4 s₁ ⟨owner, claimed, .claimed⟩ =
      ((s.deliverRow notifier owner now record).2, none) := by
  rw [EventStore.deliverRow, ← hkind]
  by_cases hcard : pyStartsWith claimed.kind "card:" = true
  · rw [if_pos hcard, EventStore.deliverCard, hclaim]
    exact complete_card hcard
  rw [if_neg hcard]
  rw [Bool.not_eq_true] at hcard
  by_cases hactivity : pyStartsWith claimed.kind "activity:" = true
  · rw [if_pos hactivity, EventStore.deliverActivity, hclaim]
    exact complete_activity hcard hactivity
  · rw [if_neg hactivity, hclaim]
    rw [Bool.not_eq_true] at hactivity
    simp only [complete, advance, look, hcard, hactivity, Bool.false_eq_true, if_false]

end Delivery

namespace CardWorld

variable {digest : String → String} {eventId chatId : String} {w : CardWorld}

def Leads (digest : String → String) (eventId chatId : String) (w w' : CardWorld) : Prop :=
  ∃ steps, Runs.final (step digest eventId chatId) w steps = w'

lemma Leads.refl (w : CardWorld) : Leads digest eventId chatId w w := ⟨[], rfl⟩

lemma Leads.trans {w₁ w₂ w₃ : CardWorld} (h : Leads digest eventId chatId w₁ w₂)
    (h' : Leads digest eventId chatId w₂ w₃) : Leads digest eventId chatId w₁ w₃ := by
  obtain ⟨steps, hsteps⟩ := h
  obtain ⟨steps', hsteps'⟩ := h'
  refine ⟨steps ++ steps', ?_⟩
  rw [Runs.final, List.foldl_append, ← Runs.final, ← Runs.final, hsteps, hsteps']

lemma Leads.step (w : CardWorld) (c : CardStep) :
    Leads digest eventId chatId w (w.step digest eventId chatId c) := ⟨[c], rfl⟩

lemma replaceAt_last (ds : List Delivery) (d : Delivery) (next : Option Delivery) :
    replaceAt (ds ++ [d]) ds.length next = ds ++ next.toList := by
  cases next with
  | none =>
    rw [replaceAt, List.eraseIdx_append_of_length_le le_rfl, Nat.sub_self]
    rfl
  | some d' =>
    rw [replaceAt, List.set_append_right _ _ le_rfl, Nat.sub_self]
    rfl

lemma leads_complete {answer : Except NotifierError Int} {now : Datetime} {n : Nat}
    {ds : List Delivery} {d : Delivery} {s : EventStore} (hflying : w.inFlight = ds ++ [d])
    (h : d.complete answer now n w.store = (s, none)) :
    ∃ w', Leads digest eventId chatId w w' ∧ w'.store = s ∧ w'.inFlight = ds := by
  induction n generalizing w d with
  | zero => cases h
  | succ n ih =>
    have hget : w.inFlight[ds.length]? = some d := by
      rw [hflying, List.getElem?_concat_length]
    set next := w.step digest eventId chatId (.advance ds.length answer now) with hnext
    have hstep : Leads digest eventId chatId w next := .step w _
    have hstore : next.store = (d.advance w.store answer now).1 := by
      rw [hnext]
      simp only [step, hget]
    have hflying' : next.inFlight = ds ++ (d.advance w.store answer now).2.toList := by
      rw [hnext]
      simp only [step, hget]
      rw [hflying, replaceAt_last]
    rw [Delivery.complete] at h
    cases hadvance : d.advance w.store answer now with
    | mk s' left =>
      rw [hadvance] at h hstore hflying'
      dsimp only at h hstore hflying'
      cases left with
      | none =>
        cases h
        exact ⟨next, hstep, hstore, hflying'.trans (List.append_nil _)⟩
      | some d' =>
        dsimp only at h
        rw [← hstore] at h
        obtain ⟨w', hleads, hw'⟩ := ih hflying' h
        exact ⟨w', hstep.trans hleads, hw'⟩

variable {notifier : Notifier} {owner : String} {now : Datetime}

lemma leads_deliverRow {record : OutboxRecord}
    (hrecord : ∀ row, w.store.outbox.get? record.outboxId = some row → row.kind = record.kind) :
    ∃ w', Leads digest eventId chatId w w' ∧
      w'.store = (w.store.deliverRow notifier owner now record).2 ∧ w'.inFlight = w.inFlight := by
  cases hclaim : w.store.claimNotification record.outboxId owner 30 now with
  | error e =>
    refine ⟨w, .refl w, ?_, rfl⟩
    rw [EventStore.deliverRow]
    split
    · rw [EventStore.deliverCard, hclaim]
    · split
      · rw [EventStore.deliverActivity, hclaim]
      · rw [hclaim]
  | ok result =>
    obtain ⟨claimed, s₁⟩ := result
    obtain ⟨-, -, row, hrow, -, hclaimed, -⟩ := EventStore.claimNotification_eq_ok_iff.mp hclaim
    have hkind : claimed.kind = record.kind := by
      rw [hclaimed]
      exact hrecord row hrow
    set next := w.step digest eventId chatId (.claim record.outboxId owner 30 now) with hnext
    have hstep : Leads digest eventId chatId w next := .step w _
    have hstore : next.store = s₁ := by
      rw [hnext]
      simp only [step, hclaim]
    have hflying : next.inFlight = w.inFlight ++ [⟨owner, claimed, .claimed⟩] := by
      rw [hnext]
      simp only [step, hclaim]
    have hcomplete := Delivery.deliverRow_eq_complete notifier hclaim hkind
    rw [← hstore] at hcomplete
    obtain ⟨w', hleads, hw'⟩ := leads_complete hflying hcomplete
    exact ⟨w', hstep.trans hleads, hw'⟩

lemma leads_deliverRows {s : EventStore} {records : List OutboxRecord}
    (hsame : w.store.intents = s.intents) (hrecords : ∀ record ∈ records, record ∈ s.outbox.rows) :
    ∃ w', Leads digest eventId chatId w w' ∧
      w'.store = (EventStore.deliverRows notifier owner now w.store records).2 ∧
      w'.inFlight = w.inFlight := by
  induction records generalizing w with
  | nil => exact ⟨w, .refl w, rfl, rfl⟩
  | cons record records ih =>
    have hkind (row : OutboxRecord) (hrow : w.store.outbox.get? record.outboxId = some row) :
        row.kind = record.kind :=
      EventStore.kind_of_same hsame (hrecords record List.mem_cons_self) hrow
    have hfirst : ∃ w', Leads digest eventId chatId w w' ∧
        w'.store = (w.store.deliverRow notifier owner now record).2 ∧ w'.inFlight = w.inFlight :=
      leads_deliverRow hkind
    obtain ⟨w₁, hleads, hstore, hflying⟩ := hfirst
    have hdelivered : EventStore.Delivered w.store w₁.store := by
      rw [hstore]
      exact EventStore.deliverRow_delivered hkind
    obtain ⟨w₂, hleads', hstore', hflying'⟩ := ih (hdelivered.same.intents.trans hsame)
      (fun r hr => hrecords r (List.mem_cons_of_mem _ hr))
    refine ⟨w₂, hleads.trans hleads', ?_, hflying'.trans hflying⟩
    rw [hstore', hstore]
    rfl

theorem leads_drain {limit : Int} : ∃ w', Leads digest eventId chatId w w' ∧
    w'.store = (w.store.drainNotifications notifier owner now limit).2 ∧
    w'.inFlight = w.inFlight := by
  unfold EventStore.drainNotifications
  cases hlist : w.store.eligibleNotifications now limit with
  | error e => exact ⟨w, .refl w, rfl, rfl⟩
  | ok records => exact leads_deliverRows rfl (EventStore.mem_of_eligible hlist)

end CardWorld

end NetTools
