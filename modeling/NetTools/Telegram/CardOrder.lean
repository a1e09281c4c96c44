import NetTools.Telegram.CardWorld
import NetTools.Telegram.EveryChat

/-!
# Card revisions of one chat

A chat never goes back to an earlier revision, and settles on the last one, in every run in which
no delivery starts while another revision is on its way or a later one has arrived, no render
returns to a revision that has been replaced, and the last revision is not given up.
-/

namespace NetTools

namespace CardWorld

variable (digest : String → String) (eventId chatId : String)

/-- A row that has the hash of a render has its text, and is the last one handed over or has no
recorded receipt yet. -/
def RowFits (w : CardWorld) (render : TelegramRender) (row : OutboxRecord) : Prop :=
  row.intent.Tracks eventId chatId → row.kind = cardKind render.renderHash →
    EventStore.textField row.payload "text" = some render.text ∧
      (w.produced row.outboxId = w.handed ∨
        (row.outboxId ∉ w.recorded ∧ row.state ≠ .deadLetter))

/-- A render does not return to a card that has been delivered and replaced, or given up. -/
def RenderFits (w : CardWorld) (render : Option TelegramRender) : Prop :=
  ∀ r ∈ render, ∀ row ∈ w.store.outbox.rows, RowFits eventId chatId w r row

/-- A card is claimed while no other card of the chat is on its way, and no later one has been
recorded. -/
def ClaimFits (w : CardWorld) (outboxId : Nat) : Prop :=
  ∀ row ∈ w.store.outbox.rows, row.outboxId = outboxId → row.intent.Tracks eventId chatId →
    (∀ d ∈ w.inFlight, d.claimed.intent.Tracks eventId chatId → d.claimed.outboxId = outboxId) ∧
      ∀ r ∈ w.recorded, w.produced r ≤ w.produced outboxId

def RetryFits (w : CardWorld) (d : Delivery) : Prop :=
  match d.phase with
  | .rejected _ => ∀ row ∈ w.store.outbox.rows, row.outboxId = d.claimed.outboxId →
      row.intent.Tracks eventId chatId → w.produced row.outboxId = w.handed →
        (row.attempts : Int) < 5
  | _ => True

def Fits (w : CardWorld) : CardStep → Prop
  | .apply c activity now =>
    RenderFits eventId chatId w (handedRender digest eventId chatId c
      (TelegramCardCoordinator.applyState w.store activity now).1)
  | .flush c flushed now =>
    RenderFits eventId chatId w (handedRender digest eventId chatId c
      (c.flushState w.store flushed now).1)
  | .claim outboxId _ _ _ => ClaimFits eventId chatId w outboxId
  | .advance k _ _ => ∀ d ∈ w.inFlight[k]?, RetryFits eventId chatId w d
  | .reply .. => True
  | .crash _ => True

/-! ### What a run must show -/

/-- The provider accepts no revision that is earlier than one recorded. -/
def NoOverwrite (w : CardWorld) : CardStep → Prop
  | .advance k answer _ => ∀ d ∈ w.inFlight[k]?, ∀ s ∈ accepts eventId chatId d answer,
      ∀ r ∈ w.recorded, w.produced r ≤ w.produced s.1
  | _ => True

def Settled (w : CardWorld) : Prop :=
  ∀ row ∈ w.store.outbox.rows, row.intent.Tracks eventId chatId →
    row.state ≠ .pending ∧ row.state ≠ .sending

/-- Once settled, the chat shows the last render that it was handed. -/
def ShowsLast (w : CardWorld) : Prop :=
  Settled eventId chatId w → w.shown.map Prod.snd = w.lastText

structure Start (w : CardWorld) : Prop where
  fresh : w.store.FreshIds
  cards : ∀ i ∈ w.store.intents, i.eventId = eventId → i.isCard = false
  receipts : ∀ r ∈ w.store.cardReceipts.rows, r.eventId ≠ eventId
  inFlight : w.inFlight = []
  shown : w.shown = none
  recorded : w.recorded = []
  handed : w.handed = 0
  lastText : w.lastText = none

instance (w : CardWorld) (render : TelegramRender) (row : OutboxRecord) :
    Decidable (RowFits eventId chatId w render row) :=
  inferInstanceAs (Decidable (_ → _ → _ ∧ (_ ∨ (_ ∧ _))))

instance (w : CardWorld) (render : Option TelegramRender) :
    Decidable (RenderFits eventId chatId w render) :=
  inferInstanceAs (Decidable (∀ r ∈ render, ∀ row ∈ w.store.outbox.rows, RowFits ..))

instance (w : CardWorld) (outboxId : Nat) : Decidable (ClaimFits eventId chatId w outboxId) :=
  inferInstanceAs (Decidable (∀ row ∈ w.store.outbox.rows, _ → _ → _))

instance (w : CardWorld) (d : Delivery) : Decidable (RetryFits eventId chatId w d) :=
  match h : d.phase with
  | .rejected _ => decidable_of_iff (∀ row ∈ w.store.outbox.rows,
      row.outboxId = d.claimed.outboxId → row.intent.Tracks eventId chatId →
        w.produced row.outboxId = w.handed → (row.attempts : Int) < 5) (by rw [RetryFits, h])
  | .claimed | .looked _ | .accepted _ | .recorded => .isTrue (by rw [RetryFits, h]; trivial)

instance (w : CardWorld) (s : CardStep) : Decidable (Fits digest eventId chatId w s) :=
  match s with
  | .apply .. => inferInstanceAs (Decidable (RenderFits ..))
  | .flush .. => inferInstanceAs (Decidable (RenderFits ..))
  | .claim .. => inferInstanceAs (Decidable (ClaimFits ..))
  | .advance .. => inferInstanceAs (Decidable (∀ d ∈ _, RetryFits ..))
  | .reply .. => .isTrue trivial
  | .crash _ => .isTrue trivial

instance (w : CardWorld) (s : CardStep) : Decidable (NoOverwrite eventId chatId w s) :=
  match s with
  | .advance .. => inferInstanceAs (Decidable (∀ d ∈ _, ∀ s ∈ _, ∀ r ∈ w.recorded, _))
  | .apply .. | .flush .. | .reply .. | .claim .. | .crash _ => .isTrue trivial

instance (w : CardWorld) : Decidable (Settled eventId chatId w) :=
  inferInstanceAs (Decidable (∀ row ∈ w.store.outbox.rows, _ → _ ∧ _))

instance (w : CardWorld) : Decidable (ShowsLast eventId chatId w) :=
  inferInstanceAs (Decidable (_ → _))

def OnCard (d : Delivery) : Prop := d.claimed.intent.Tracks eventId chatId

def IsAccepted : Phase → Prop
  | .accepted _ => True
  | .recorded => True
  | _ => False

/-- What `enqueue_card` writes. -/
def IsCardRow (i : Intent) : Prop :=
  ∃ chat render, i.destination = telegramDestination chat ∧ i.payload = cardPayload chat render ∧
    i.kind = cardKind render.renderHash

/-- The order of the cards of a chat by the last render that each stands for: what has been
recorded is not later than what is shown or on its way, and all that is on its way is one row. -/
structure Ordered (w : CardWorld) : Prop where
  fresh : w.store.FreshIds
  shape : ∀ i ∈ w.store.intents, i.eventId = eventId → i.isCard = true → IsCardRow i
  receipts : ∀ r ∈ w.store.cardReceipts.rows, r.eventId = eventId → r.chatId = chatId →
    ∃ i ∈ w.store.intents, i.Tracks eventId chatId ∧ i.kind = cardKind r.renderHash ∧
      i.outboxId ∈ w.recorded
  flying : ∀ d ∈ w.inFlight, d.claimed.intent ∈ w.store.intents
  kinds : ∀ d ∈ w.inFlight, ∀ m, d.phase = .accepted m → d.claimed.intent.isCard = true
  single : ∀ d ∈ w.inFlight, ∀ d' ∈ w.inFlight, OnCard eventId chatId d →
    OnCard eventId chatId d' → d.claimed.outboxId = d'.claimed.outboxId
  order : ∀ r ∈ w.recorded, ∀ d ∈ w.inFlight, OnCard eventId chatId d →
    w.produced r ≤ w.produced d.claimed.outboxId
  accepted : ∀ d ∈ w.inFlight, OnCard eventId chatId d → IsAccepted d.phase →
    ∃ s ∈ w.shown, s.1 = d.claimed.outboxId
  done : ∀ d ∈ w.inFlight, OnCard eventId chatId d → d.phase = .recorded →
    d.claimed.outboxId ∈ w.recorded
  recordedRow : ∀ r ∈ w.recorded, ∃ i ∈ w.store.intents, i.Tracks eventId chatId ∧ i.outboxId = r
  shownRow : ∀ s ∈ w.shown, ∃ i ∈ w.store.intents, i.Tracks eventId chatId ∧ i.outboxId = s.1 ∧
    EventStore.textField i.payload "text" = some s.2
  shownLast : ∀ r ∈ w.recorded, ∃ s ∈ w.shown, w.produced r ≤ w.produced s.1
  sent : ∀ row ∈ w.store.outbox.rows, row.intent.Tracks eventId chatId → row.state = .sent →
    row.outboxId ∈ w.recorded
  alive : ∀ row ∈ w.store.outbox.rows, row.intent.Tracks eventId chatId →
    w.produced row.outboxId = w.handed → row.state ≠ .deadLetter
  bounds : ∀ i ∈ w.store.intents, i.Tracks eventId chatId → w.produced i.outboxId ≤ w.handed
  distinct : ∀ i ∈ w.store.intents, ∀ j ∈ w.store.intents, i.Tracks eventId chatId →
    j.Tracks eventId chatId → w.produced i.outboxId = w.produced j.outboxId →
      i.outboxId = j.outboxId
  last : ∀ text ∈ w.lastText, ∃ i ∈ w.store.intents, i.Tracks eventId chatId ∧
    w.produced i.outboxId = w.handed ∧ EventStore.textField i.payload "text" = some text
  untouched : w.lastText = none → ∀ i ∈ w.store.intents, ¬ i.Tracks eventId chatId

variable {digest : String → String} {eventId chatId : String} {w : CardWorld}

lemma ordered_of_start (h : Start eventId w) : Ordered eventId chatId w := by
  have htracks (i : Intent) (hi : i ∈ w.store.intents) : ¬ i.Tracks eventId chatId := by
    rintro ⟨hevent, -, hcard⟩
    rw [h.cards i hi hevent] at hcard
    cases hcard
  have hrow (row : OutboxRecord) (hmem : row ∈ w.store.outbox.rows) :
      ¬ row.intent.Tracks eventId chatId :=
    htracks row.intent (List.mem_map_of_mem hmem)
  refine ⟨h.fresh, ?_, ?_, ?_, ?_, ?_, ?_, ?_, ?_, ?_, ?_, ?_, ?_, ?_, ?_, ?_, ?_, ?_⟩
  · intro i hi hevent hcard
    rw [h.cards i hi hevent] at hcard
    cases hcard
  · exact fun r hr hevent => absurd hevent (h.receipts r hr)
  · rw [h.inFlight]
    exact fun d hd => absurd hd List.not_mem_nil
  · rw [h.inFlight]
    exact fun d hd => absurd hd List.not_mem_nil
  · rw [h.inFlight]
    exact fun d hd => absurd hd List.not_mem_nil
  · rw [h.recorded]
    exact fun r hr => absurd hr List.not_mem_nil
  · rw [h.inFlight]
    exact fun d hd => absurd hd List.not_mem_nil
  · rw [h.inFlight]
    exact fun d hd => absurd hd List.not_mem_nil
  · rw [h.recorded]
    exact fun r hr => absurd hr List.not_mem_nil
  · rw [h.shown]
    exact fun s hs => nomatch hs
  · rw [h.recorded]
    exact fun r hr => absurd hr List.not_mem_nil
  · exact fun row hmem htracked => absurd htracked (hrow row hmem)
  · exact fun row hmem htracked => absurd htracked (hrow row hmem)
  · exact fun i hi htracked => absurd htracked (htracks i hi)
  · exact fun i hi _ _ htracked => absurd htracked (htracks i hi)
  · rw [h.lastText]
    exact fun text htext => nomatch htext
  · exact fun _ => htracks

theorem Ordered.showsLast (h : Ordered eventId chatId w) : ShowsLast eventId chatId w := by
  intro hsettled
  cases htext : w.lastText with
  | none =>
    cases hshown : w.shown with
    | none => rfl
    | some s =>
      obtain ⟨i, hi, htracked, -⟩ := h.shownRow s hshown
      exact absurd htracked (h.untouched htext i hi)
  | some text =>
    obtain ⟨i, hi, htracked, hlast, hfield⟩ := h.last text htext
    obtain ⟨row, hrow, hintent⟩ := List.mem_map.mp hi
    have hid : row.outboxId = i.outboxId := congrArg Intent.outboxId hintent
    have hrowTracks : row.intent.Tracks eventId chatId := by rw [hintent]; exact htracked
    have hstate : row.state = .sent := by
      obtain ⟨hpending, hsending⟩ := hsettled row hrow hrowTracks
      have hdead := h.alive row hrow hrowTracks (by rw [hid]; exact hlast)
      cases hstate : row.state with
      | pending => exact absurd hstate hpending
      | sending => exact absurd hstate hsending
      | sent => rfl
      | deadLetter => exact absurd hstate hdead
    obtain ⟨s, hs, hle⟩ := h.shownLast row.outboxId (h.sent row hrow hrowTracks hstate)
    obtain ⟨j, hj, hjTracks, hjId, hjText⟩ := h.shownRow s hs
    have hbound := h.bounds j hj hjTracks
    have hsame : i.outboxId = j.outboxId := by
      apply h.distinct i hi j hj htracked hjTracks
      rw [hid] at hle
      rw [hjId] at hbound ⊢
      omega
    have hij : i = j := by
      obtain ⟨row', hrow', hintent'⟩ := List.mem_map.mp hj
      rw [← hintent, ← hintent']
      rw [KeyedTable.eq_of_key_eq hrow hrow' (hid.trans (hsame.trans
        (congrArg Intent.outboxId hintent').symm))]
    rw [hij, hjText] at hfield
    rw [hs, Option.map_some, hfield]

lemma Ordered.settle (h : Ordered eventId chatId w) {ds : List Delivery}
    (hds : ∀ d' ∈ ds, ∃ d ∈ w.inFlight, d'.claimed = d.claimed ∧
      (∀ m, d'.phase = .accepted m → d.claimed.intent.isCard = true) ∧
      (OnCard eventId chatId d → (IsAccepted d'.phase → IsAccepted d.phase) ∧
        (d'.phase = .recorded → d.phase = .recorded))) :
    Ordered eventId chatId { w with inFlight := ds } where
  fresh := h.fresh
  shape := h.shape
  receipts := h.receipts
  flying := by
    intro d' hd'
    obtain ⟨d, hd, hclaimed, -⟩ := hds d' hd'
    rw [hclaimed]
    exact h.flying d hd
  kinds := by
    intro d' hd' m hphase
    obtain ⟨d, hd, hclaimed, hkind, -⟩ := hds d' hd'
    rw [hclaimed]
    exact hkind m hphase
  single := by
    intro d₁ hd₁ d₂ hd₂ htracks₁ htracks₂
    obtain ⟨e₁, he₁, hclaimed₁, -⟩ := hds d₁ hd₁
    obtain ⟨e₂, he₂, hclaimed₂, -⟩ := hds d₂ hd₂
    rw [OnCard, hclaimed₁] at htracks₁
    rw [OnCard, hclaimed₂] at htracks₂
    rw [hclaimed₁, hclaimed₂]
    exact h.single e₁ he₁ e₂ he₂ htracks₁ htracks₂
  order := by
    intro r hr d' hd' htracks
    obtain ⟨d, hd, hclaimed, -⟩ := hds d' hd'
    rw [OnCard, hclaimed] at htracks
    rw [hclaimed]
    exact h.order r hr d hd htracks
  accepted := by
    intro d' hd' htracks haccepted
    obtain ⟨d, hd, hclaimed, -, hphase⟩ := hds d' hd'
    rw [OnCard, hclaimed] at htracks
    rw [hclaimed]
    exact h.accepted d hd htracks ((hphase htracks).1 haccepted)
  done := by
    intro d' hd' htracks hdone
    obtain ⟨d, hd, hclaimed, -, hphase⟩ := hds d' hd'
    rw [OnCard, hclaimed] at htracks
    rw [hclaimed]
    exact h.done d hd htracks ((hphase htracks).2 hdone)
  recordedRow := h.recordedRow
  shownRow := h.shownRow
  shownLast := h.shownLast
  sent := h.sent
  alive := h.alive
  bounds := h.bounds
  distinct := h.distinct
  last := h.last
  untouched := h.untouched

lemma Ordered.progress (h : Ordered eventId chatId w) {s : EventStore}
    (hsame : EventStore.SameIntents w.store s) (hreceipts : s.cardReceipts = w.store.cardReceipts)
    (hsent : ∀ row ∈ s.outbox.rows, row.intent.Tracks eventId chatId → row.state = .sent →
      row.outboxId ∈ w.recorded)
    (halive : ∀ row ∈ s.outbox.rows, row.intent.Tracks eventId chatId →
      w.produced row.outboxId = w.handed → row.state ≠ .deadLetter) :
    Ordered eventId chatId { w with store := s } := by
  have hfresh : s.FreshIds := hsame.fresh h.fresh
  refine ⟨hfresh, ?_, ?_, ?_, h.kinds, h.single, h.order, h.accepted, h.done, ?_, ?_, h.shownLast,
    hsent, halive, ?_, ?_, ?_, ?_⟩
  · rw [hsame.intents]
    exact h.shape
  · dsimp only
    rw [hreceipts, hsame.intents]
    exact h.receipts
  · rw [hsame.intents]
    exact h.flying
  · rw [hsame.intents]
    exact h.recordedRow
  · rw [hsame.intents]
    exact h.shownRow
  · rw [hsame.intents]
    exact h.bounds
  · rw [hsame.intents]
    exact h.distinct
  · rw [hsame.intents]
    exact h.last
  · rw [hsame.intents]
    exact h.untouched

lemma Ordered.claim (h : Ordered eventId chatId w) {outboxId : Nat} {owner : String}
    {leaseSeconds : ℚ} {now : Datetime} {row : OutboxRecord} {s : EventStore}
    (hfits : ClaimFits eventId chatId w outboxId)
    (hclaim : w.store.claimNotification outboxId owner leaseSeconds now = .ok (row, s)) :
    Ordered eventId chatId
      { w with store := s, inFlight := w.inFlight ++ [⟨owner, row, .claimed⟩] } := by
  obtain ⟨hstep, hmem⟩ := EventStore.claim_delivery hclaim
  obtain ⟨-, -, old, hold, -, hrow, hstore⟩ := EventStore.claimNotification_eq_ok_iff.mp hclaim
  have hkey : old.outboxId = outboxId := KeyedTable.key_of_get? hold
  have hid : row.outboxId = outboxId := by
    rw [hrow]
    exact hkey
  have hreceipts : s.cardReceipts = w.store.cardReceipts := by rw [hstore]
  have hrows (r : OutboxRecord) (hr : r ∈ s.outbox.rows) :
      r = old.claimed owner leaseSeconds now ∨ r ∈ w.store.outbox.rows := by
    rw [hstore] at hr
    dsimp only at hr
    rw [KeyedTable.mem_modify hold] at hr
    rcases hr with heq | ⟨hin, -⟩
    · exact .inl heq
    · exact .inr hin
  have hprogress : Ordered eventId chatId { w with store := s } := by
    apply h.progress hstep.same hreceipts
    · intro r hr htracks hstate
      rcases hrows r hr with heq | hin
      · rw [heq] at hstate
        cases hstate
      · exact h.sent r hin htracks hstate
    · intro r hr htracks hlast
      rcases hrows r hr with heq | hin
      · rw [heq]
        exact fun hdead => nomatch hdead
      · exact h.alive r hin htracks hlast
  have hfree (htracks : row.intent.Tracks eventId chatId) :
      (∀ d ∈ w.inFlight, OnCard eventId chatId d → d.claimed.outboxId = row.outboxId) ∧
        ∀ r ∈ w.recorded, w.produced r ≤ w.produced row.outboxId := by
    rw [hrow] at htracks
    rw [hid]
    exact hfits old (KeyedTable.mem_of_get? hold) hkey htracks
  refine ⟨hprogress.fresh, hprogress.shape, hprogress.receipts, ?_, ?_, ?_, ?_, ?_, ?_,
    hprogress.recordedRow, hprogress.shownRow, hprogress.shownLast, hprogress.sent,
    hprogress.alive, hprogress.bounds, hprogress.distinct, hprogress.last, hprogress.untouched⟩
  · intro d hd
    rcases List.mem_append.mp hd with hd | hd
    · exact hprogress.flying d hd
    · rw [List.mem_singleton.mp hd]
      dsimp only
      rw [hstep.same.intents]
      exact hmem
  · intro d hd m hphase
    rcases List.mem_append.mp hd with hd | hd
    · exact hprogress.kinds d hd m hphase
    · rw [List.mem_singleton.mp hd] at hphase
      cases hphase
  · intro d hd d' hd' htracks htracks'
    rcases List.mem_append.mp hd with hd | hd
    · rcases List.mem_append.mp hd' with hd' | hd'
      · exact hprogress.single d hd d' hd' htracks htracks'
      · rw [List.mem_singleton.mp hd'] at htracks' ⊢
        exact (hfree htracks').1 d hd htracks
    · rw [List.mem_singleton.mp hd] at htracks ⊢
      rcases List.mem_append.mp hd' with hd' | hd'
      · exact ((hfree htracks).1 d' hd' htracks').symm
      · rw [List.mem_singleton.mp hd']
  · intro r hr d hd htracks
    rcases List.mem_append.mp hd with hd | hd
    · exact hprogress.order r hr d hd htracks
    · rw [List.mem_singleton.mp hd] at htracks ⊢
      exact (hfree htracks).2 r hr
  · intro d hd htracks haccepted
    rcases List.mem_append.mp hd with hd | hd
    · exact hprogress.accepted d hd htracks haccepted
    · rw [List.mem_singleton.mp hd] at haccepted
      exact absurd haccepted id
  · intro d hd htracks hdone
    rcases List.mem_append.mp hd with hd | hd
    · exact hprogress.done d hd htracks hdone
    · rw [List.mem_singleton.mp hd] at hdone
      cases hdone

lemma Ordered.accept (h : Ordered eventId chatId w) {d : Delivery} {k : Nat} {text : String}
    {messageId : Int} (hd : d ∈ w.inFlight) (htracks : OnCard eventId chatId d)
    (htext : EventStore.textField d.claimed.payload "text" = some text) :
    Ordered eventId chatId
      { w with
        shown := some (d.claimed.outboxId, text)
        inFlight := w.inFlight.set k { d with phase := .accepted messageId } } := by
  have hclaimed (d' : Delivery)
      (hd' : d' ∈ w.inFlight.set k { d with phase := .accepted messageId }) :
      ∃ e ∈ w.inFlight, d'.claimed = e.claimed ∧
        (d' = e ∨ d' = { d with phase := .accepted messageId }) := by
    rcases List.mem_or_eq_of_mem_set hd' with hold | heq
    · exact ⟨d', hold, rfl, .inl rfl⟩
    · exact ⟨d, hd, by rw [heq], .inr heq⟩
  refine ⟨h.fresh, h.shape, h.receipts, ?_, ?_, ?_, ?_, ?_, ?_, h.recordedRow, ?_, ?_, h.sent,
    h.alive, h.bounds, h.distinct, h.last, h.untouched⟩
  · intro d' hd'
    obtain ⟨e, he, hsame, -⟩ := hclaimed d' hd'
    rw [hsame]
    exact h.flying e he
  · intro d' hd' m hphase
    obtain ⟨e, he, hsame, heq | heq⟩ := hclaimed d' hd'
    · exact h.kinds d' (heq ▸ he) m hphase
    · rw [heq]
      exact htracks.2.2
  · intro d₁ hd₁ d₂ hd₂ htracks₁ htracks₂
    obtain ⟨e₁, he₁, hsame₁, -⟩ := hclaimed d₁ hd₁
    obtain ⟨e₂, he₂, hsame₂, -⟩ := hclaimed d₂ hd₂
    rw [OnCard, hsame₁] at htracks₁
    rw [OnCard, hsame₂] at htracks₂
    rw [hsame₁, hsame₂]
    exact h.single e₁ he₁ e₂ he₂ htracks₁ htracks₂
  · intro r hr d' hd' htracks'
    obtain ⟨e, he, hsame, -⟩ := hclaimed d' hd'
    rw [OnCard, hsame] at htracks'
    rw [hsame]
    exact h.order r hr e he htracks'
  · intro d' hd' htracks' _
    obtain ⟨e, he, hsame, -⟩ := hclaimed d' hd'
    rw [OnCard, hsame] at htracks'
    rw [hsame]
    exact ⟨_, rfl, h.single d hd e he htracks htracks'⟩
  · intro d' hd' htracks' hdone
    obtain ⟨e, he, hsame, heq | heq⟩ := hclaimed d' hd'
    · exact h.done d' (heq ▸ he) htracks' hdone
    · rw [heq] at hdone
      cases hdone
  · intro s hs
    cases hs
    exact ⟨d.claimed.intent, h.flying d hd, htracks, rfl, htext⟩
  · intro r hr
    exact ⟨_, rfl, h.order r hr d hd htracks⟩

lemma cardFields_of_isCardRow {i : Intent} {chat text renderHash : String} (hrow : IsCardRow i)
    (hfields : cardFields i.payload = some (chat, text, renderHash)) :
    i.destination = telegramDestination chat ∧ i.kind = cardKind renderHash := by
  obtain ⟨given, render, hdestination, hpayload, hkind⟩ := hrow
  rw [hpayload] at hfields
  have hsame := EventStore.cardFields_cardPayload hfields
  cases hsame
  exact ⟨hdestination, hkind⟩

lemma Ordered.record_tracks (h : Ordered eventId chatId w) {d : Delivery} {chat text renderHash : String}
    (hd : d ∈ w.inFlight) (hcard : d.claimed.intent.isCard = true)
    (hfields : cardFields d.claimed.payload = some (chat, text, renderHash))
    (hevent : d.claimed.eventId = eventId) (hchat : chat = chatId) :
    OnCard eventId chatId d ∧ d.claimed.intent.kind = cardKind renderHash := by
  have hrow := h.shape d.claimed.intent (h.flying d hd) hevent hcard
  obtain ⟨hdestination, hkind⟩ := cardFields_of_isCardRow hrow hfields
  rw [hchat] at hdestination
  exact ⟨⟨hevent, hdestination, hcard⟩, hkind⟩

def withRecorded (eventId chatId : String) (w : CardWorld) (d : Delivery) : List Nat :=
  (if d.claimed.intent.Tracks eventId chatId then [d.claimed.outboxId] else []) ++ w.recorded

lemma Ordered.record (h : Ordered eventId chatId w) {d : Delivery} {k : Nat} {messageId : Int}
    {now : Datetime} {s : EventStore} (hd : d ∈ w.inFlight) (hphase : d.phase = .accepted messageId)
    (hrecord : Delivery.record w.store d.claimed messageId now = some s) :
    Ordered eventId chatId
      { w with
        store := s
        inFlight := w.inFlight.set k { d with phase := .recorded }
        recorded := withRecorded eventId chatId w d } := by
  have hcard := h.kinds d hd messageId hphase
  unfold Delivery.record at hrecord
  split at hrecord
  · cases hrecord
  rename_i chat text renderHash hfields
  split at hrecord
  · cases hrecord
  rename_i receipt s' hok
  cases hrecord
  have hstore := EventStore.recordTelegramCard_cases hok
  have hintents : s.intents = w.store.intents := by rw [hstore]; rfl
  have hclaimed (d' : Delivery) (hd' : d' ∈ w.inFlight.set k { d with phase := .recorded }) :
      ∃ e ∈ w.inFlight, d'.claimed = e.claimed ∧ (d' = e ∨ d' = { d with phase := .recorded }) := by
    rcases List.mem_or_eq_of_mem_set hd' with hold | heq
    · exact ⟨d', hold, rfl, .inl rfl⟩
    · exact ⟨d, hd, by rw [heq], .inr heq⟩
  have hmem (r : Nat) (hr : r ∈ w.recorded) : r ∈ withRecorded eventId chatId w d :=
    List.mem_append_right _ hr
  have hnew (r : Nat) (hr : r ∈ withRecorded eventId chatId w d) :
      r ∈ w.recorded ∨ (OnCard eventId chatId d ∧ r = d.claimed.outboxId) := by
    rcases List.mem_append.mp hr with hr | hr
    · split at hr
      · rename_i htracks
        exact .inr ⟨htracks, List.mem_singleton.mp hr⟩
      · cases hr
    · exact .inl hr
  have hself (htracks : OnCard eventId chatId d) :
      d.claimed.outboxId ∈ withRecorded eventId chatId w d := by
    have hcond : d.claimed.intent.Tracks eventId chatId := htracks
    rw [withRecorded, if_pos hcond]
    exact List.mem_cons_self
  refine ⟨?_, ?_, ?_, ?_, ?_, ?_, ?_, ?_, ?_, ?_, ?_, ?_, ?_, ?_, ?_, ?_, ?_, ?_⟩
  · rw [hstore]
    exact h.fresh
  · rw [hintents]
    exact h.shape
  · intro r hr hevent hchat
    dsimp only at hr ⊢
    rw [hintents]
    rw [hstore] at hr
    rcases KeyedTable.mem_of_mem_upsert hr with hold | heq | ⟨old, hold, hkey, heq⟩
    · obtain ⟨i, hi, htracks, hkind, hrecorded⟩ := h.receipts r hold hevent hchat
      exact ⟨i, hi, htracks, hkind, hmem _ hrecorded⟩
    · rw [heq] at hevent hchat ⊢
      obtain ⟨htracks, hkind⟩ := h.record_tracks hd hcard hfields hevent hchat
      exact ⟨d.claimed.intent, h.flying d hd, htracks, hkind, hself htracks⟩
    · rw [heq] at hevent hchat ⊢
      obtain ⟨hkeyEvent, hkeyChat⟩ := Prod.mk.inj hkey
      obtain ⟨htracks, hkind⟩ := h.record_tracks hd hcard hfields (hkeyEvent.symm.trans hevent)
        (hkeyChat.symm.trans hchat)
      exact ⟨d.claimed.intent, h.flying d hd, htracks, hkind, hself htracks⟩
  · intro d' hd'
    obtain ⟨e, he, hsame, -⟩ := hclaimed d' hd'
    rw [hsame, hintents]
    exact h.flying e he
  · intro d' hd' m hphase'
    obtain ⟨e, he, hsame, heq | heq⟩ := hclaimed d' hd'
    · exact h.kinds d' (heq ▸ he) m hphase'
    · rw [heq] at hphase'
      cases hphase'
  · intro d₁ hd₁ d₂ hd₂ htracks₁ htracks₂
    obtain ⟨e₁, he₁, hsame₁, -⟩ := hclaimed d₁ hd₁
    obtain ⟨e₂, he₂, hsame₂, -⟩ := hclaimed d₂ hd₂
    rw [OnCard, hsame₁] at htracks₁
    rw [OnCard, hsame₂] at htracks₂
    rw [hsame₁, hsame₂]
    exact h.single e₁ he₁ e₂ he₂ htracks₁ htracks₂
  · intro r hr d' hd' htracks'
    obtain ⟨e, he, hsame, -⟩ := hclaimed d' hd'
    rw [OnCard, hsame] at htracks'
    rw [hsame]
    rcases hnew r hr with hr | ⟨htracks, hr⟩
    · exact h.order r hr e he htracks'
    · rw [hr, h.single d hd e he htracks htracks']
  · intro d' hd' htracks' haccepted
    obtain ⟨e, he, hsame, heq | heq⟩ := hclaimed d' hd'
    · exact h.accepted d' (heq ▸ he) htracks' haccepted
    · rw [heq] at htracks' ⊢
      exact h.accepted d hd htracks' (by rw [hphase]; trivial)
  · intro d' hd' htracks' hdone
    obtain ⟨e, he, hsame, heq | heq⟩ := hclaimed d' hd'
    · exact hmem _ (h.done d' (heq ▸ he) htracks' hdone)
    · rw [heq] at htracks' ⊢
      exact hself htracks'
  · intro r hr
    rw [hintents]
    rcases hnew r hr with hr | ⟨htracks, hr⟩
    · exact h.recordedRow r hr
    · exact ⟨d.claimed.intent, h.flying d hd, htracks, hr.symm⟩
  · rw [hintents]
    exact h.shownRow
  · intro r hr
    rcases hnew r hr with hr | ⟨htracks, hr⟩
    · exact h.shownLast r hr
    · obtain ⟨shown, hshown, hid⟩ := h.accepted d hd htracks (by rw [hphase]; trivial)
      exact ⟨shown, hshown, by rw [hr, hid]⟩
  · intro row hrow htracks hstate
    rw [hstore] at hrow
    exact hmem _ (h.sent row hrow htracks hstate)
  · rw [hstore]
    exact h.alive
  · rw [hintents]
    exact h.bounds
  · rw [hintents]
    exact h.distinct
  · rw [hintents]
    exact h.last
  · rw [hintents]
    exact h.untouched

lemma Ordered.finish (h : Ordered eventId chatId w) {d : Delivery} (hd : d ∈ w.inFlight)
    (sent : Bool) {error : Option String} {retryAfterSeconds : Option ℚ} {now : Datetime}
    (hsent : sent = true → d.phase = .recorded)
    (hretry : sent = false → ∀ row ∈ w.store.outbox.rows, row.outboxId = d.claimed.outboxId →
      row.intent.Tracks eventId chatId → w.produced row.outboxId = w.handed →
        (row.attempts : Int) < 5) :
    Ordered eventId chatId
      { w with store := (w.store.returning (w.store.finishDelivery d.claimed d.owner sent error
          retryAfterSeconds now)).2 } := by
  cases hfinish : w.store.finishDelivery d.claimed d.owner sent error retryAfterSeconds now with
  | error e => exact h
  | ok result =>
    obtain ⟨finished, s⟩ := result
    have hstep := EventStore.finish_delivery hfinish
    obtain ⟨old, hold, -, -, -, state, retryAt, houtcome, -, hstore⟩ :=
      EventStore.finishNotification_cases hfinish
    have hkey : old.outboxId = d.claimed.outboxId := KeyedTable.key_of_get? hold
    have hin := KeyedTable.mem_of_get? hold
    have hrows (r : OutboxRecord) (hr : r ∈ s.outbox.rows) :
        r = old.finished state retryAt error now ∨ r ∈ w.store.outbox.rows := by
      rw [hstore] at hr
      dsimp only at hr
      rw [KeyedTable.mem_modify hold] at hr
      rcases hr with heq | ⟨hmem, -⟩
      · exact .inl heq
      · exact .inr hmem
    have hsame : old.intent = d.claimed.intent := by
      obtain ⟨other, hother, hintent⟩ := List.mem_map.mp (h.flying d hd)
      have hid : other.outboxId = old.outboxId :=
        (congrArg Intent.outboxId hintent).trans hkey.symm
      rw [← hintent, KeyedTable.eq_of_key_eq hother hin hid]
    apply h.progress hstep.same
    · show s.cardReceipts = w.store.cardReceipts
      rw [hstore]
    · intro r hr htracks hstate
      rcases hrows r hr with heq | hmem
      · rw [heq] at hstate htracks ⊢
        have htracks' : OnCard eventId chatId d := by
          rw [OnCard, ← hsame]
          exact htracks
        rcases EventStore.deliveryOutcome_cases houtcome with ⟨-, -, hyes⟩ | ⟨hdead, -⟩ | ⟨hpending, -⟩
        · have hdone := h.done d hd htracks' (hsent hyes)
          rw [← hkey] at hdone
          exact hdone
        · rw [hdead] at hstate
          cases hstate
        · rw [hpending] at hstate
          cases hstate
      · exact h.sent r hmem htracks hstate
    · intro r hr htracks hlast
      rcases hrows r hr with heq | hmem
      · rw [heq] at htracks hlast ⊢
        rcases EventStore.deliveryOutcome_cases houtcome with ⟨hyes, -⟩ | ⟨-, -, hno, hmax⟩ | ⟨hpending, -⟩
        · rw [hyes]
          exact fun hdead => nomatch hdead
        · have hbelow := hretry hno old hin hkey htracks hlast
          omega
        · rw [hpending]
          exact fun hdead => nomatch hdead
      · exact h.alive r hmem htracks hlast

lemma look_not_accepted (s : EventStore) (row : OutboxRecord) :
    ¬ IsAccepted (Delivery.look s row) := by
  rw [Delivery.look]
  split
  · split <;> exact id
  · split
    · split
      · split <;> exact id
      · exact id
    · exact id

lemma Ordered.erase (h : Ordered eventId chatId w) (k : Nat) :
    Ordered eventId chatId { w with inFlight := w.inFlight.eraseIdx k } := by
  apply h.settle
  intro d hd
  have hmem := List.mem_of_mem_eraseIdx hd
  exact ⟨d, hmem, rfl, h.kinds d hmem, fun _ => ⟨id, id⟩⟩

lemma Ordered.rephase (h : Ordered eventId chatId w) {d : Delivery} {k : Nat} {phase : Phase}
    (hd : d ∈ w.inFlight) (hkind : ∀ m, phase = .accepted m → d.claimed.intent.isCard = true)
    (hphase : OnCard eventId chatId d → ¬ IsAccepted phase) :
    Ordered eventId chatId { w with inFlight := w.inFlight.set k { d with phase := phase } } := by
  apply h.settle
  intro d' hd'
  rcases List.mem_or_eq_of_mem_set hd' with hold | heq
  · exact ⟨d', hold, rfl, h.kinds d' hold, fun _ => ⟨id, id⟩⟩
  · refine ⟨d, hd, by rw [heq], fun m hm => hkind m (by rw [heq] at hm; exact hm),
      fun htracks => ⟨fun haccepted => ?_, fun hrecorded => ?_⟩⟩
    · rw [heq] at haccepted
      exact absurd haccepted (hphase htracks)
    · rw [heq] at hrecorded
      have hphase' : phase = .recorded := hrecorded
      exact absurd (by rw [hphase']; trivial) (hphase htracks)

lemma Ordered.answer (h : Ordered eventId chatId w) {d : Delivery} {k : Nat}
    {answer : Except NotifierError Int} {receipt : Option TelegramCardReceipt} (hd : d ∈ w.inFlight)
    (hphase : d.phase = .looked receipt) :
    Ordered eventId chatId { w with
      inFlight := w.inFlight.set k { d with phase := Delivery.answered d.claimed answer }
      shown := (accepts eventId chatId d answer).or w.shown } := by
  cases answer with
  | error e =>
    have hnone : accepts eventId chatId d (.error e) = none := by
      simp only [accepts, hphase]
    rw [hnone]
    exact h.rephase hd (fun m hm => nomatch hm) (fun _ => id)
  | ok messageId =>
    by_cases htracks : d.claimed.intent.Tracks eventId chatId
    · obtain ⟨chat, render, -, hpayload, -⟩ :=
        h.shape d.claimed.intent (h.flying d hd) htracks.1 htracks.2.2
      have htext : EventStore.textField d.claimed.payload "text" = some render.text := by
        have hclaimed : d.claimed.payload = cardPayload chat render := hpayload
        rw [hclaimed]
        rfl
      have hsome : accepts eventId chatId d (.ok messageId) =
          some (d.claimed.outboxId, render.text) := by
        simp only [accepts, hphase, if_pos htracks, htext, Option.map_some]
      have hanswered : Delivery.answered d.claimed (.ok messageId) = .accepted messageId := by
        rw [Delivery.answered]
        exact if_pos htracks.2.2
      rw [hsome, hanswered]
      exact h.accept hd htracks htext
    · have hnone : accepts eventId chatId d (.ok messageId) = none := by
        simp only [accepts, hphase, if_neg htracks]
      rw [hnone]
      refine h.rephase hd (fun m hm => ?_) (fun htracks' => absurd htracks' htracks)
      rw [Delivery.answered] at hm
      split at hm
      · rename_i hcard
        exact hcard
      · cases hm

lemma Ordered.advance (h : Ordered eventId chatId w) {k : Nat} {answer : Except NotifierError Int}
    {now : Datetime} (hfits : ∀ d ∈ w.inFlight[k]?, RetryFits eventId chatId w d) :
    Ordered eventId chatId (w.step digest eventId chatId (.advance k answer now)) := by
  cases hget : w.inFlight[k]? with
  | none =>
    simp only [step, hget]
    exact h
  | some d =>
    have hd : d ∈ w.inFlight := List.mem_of_getElem? hget
    have hretry := hfits d hget
    simp only [step, hget]
    cases hphase : d.phase with
    | claimed =>
      simp only [Delivery.advance, accepts, records, hphase]
      refine h.rephase hd (fun m hm => ?_) (fun _ => look_not_accepted w.store d.claimed)
      exact absurd (by rw [hm]; trivial) (look_not_accepted w.store d.claimed)
    | looked receipt =>
      simp only [Delivery.advance, records, hphase]
      exact h.answer hd hphase
    | accepted messageId =>
      cases hrecord : Delivery.record w.store d.claimed messageId now with
      | none =>
        simp only [Delivery.advance, accepts, records, hphase, hrecord]
        exact h.erase k
      | some s =>
        simp only [Delivery.advance, accepts, records, hphase, hrecord]
        exact h.record hd hphase hrecord
    | recorded =>
      simp only [Delivery.advance, accepts, records, hphase]
      exact (h.finish hd true (fun _ => hphase) (fun hno => by cases hno)).erase k
    | rejected e =>
      simp only [Delivery.advance, accepts, records, hphase]
      rw [RetryFits, hphase] at hretry
      exact (h.finish hd false (fun hyes => by cases hyes) (fun _ => hretry)).erase k

/-! ### Renders -/

lemma Ordered.grow (h : Ordered eventId chatId w) {s : EventStore} (hfresh : s.FreshIds)
    (hreceipts : s.cardReceipts = w.store.cardReceipts)
    (hkept : ∀ i ∈ w.store.intents, i ∈ s.intents)
    (hshape : ∀ i ∈ s.intents, i.eventId = eventId → i.isCard = true → IsCardRow i)
    (hrows : ∀ row ∈ s.outbox.rows, row.intent.Tracks eventId chatId →
      row ∈ w.store.outbox.rows) :
    Ordered eventId chatId { w with store := s } := by
  have hintents (i : Intent) (hi : i ∈ s.intents) (htracks : i.Tracks eventId chatId) :
      i ∈ w.store.intents := by
    obtain ⟨row, hrow, hintent⟩ := List.mem_map.mp hi
    rw [← hintent] at htracks ⊢
    exact List.mem_map_of_mem (hrows row hrow htracks)
  refine ⟨hfresh, hshape, ?_, ?_, h.kinds, h.single, h.order, h.accepted, h.done, ?_, ?_,
    h.shownLast, ?_, ?_, ?_, ?_, ?_, ?_⟩
  · intro r hr hevent hchat
    dsimp only at hr
    rw [hreceipts] at hr
    obtain ⟨i, hi, hrest⟩ := h.receipts r hr hevent hchat
    exact ⟨i, hkept i hi, hrest⟩
  · exact fun d hd => hkept _ (h.flying d hd)
  · intro r hr
    obtain ⟨i, hi, hrest⟩ := h.recordedRow r hr
    exact ⟨i, hkept i hi, hrest⟩
  · intro shown hshown
    obtain ⟨i, hi, hrest⟩ := h.shownRow shown hshown
    exact ⟨i, hkept i hi, hrest⟩
  · exact fun row hrow htracks hstate => h.sent row (hrows row hrow htracks) htracks hstate
  · exact fun row hrow htracks hlast => h.alive row (hrows row hrow htracks) htracks hlast
  · exact fun i hi htracks => h.bounds i (hintents i hi htracks) htracks
  · exact fun i hi j hj htracks htracks' =>
      h.distinct i (hintents i hi htracks) j (hintents j hj htracks') htracks htracks'
  · intro text htext
    obtain ⟨i, hi, hrest⟩ := h.last text htext
    exact ⟨i, hkept i hi, hrest⟩
  · exact fun hnone i hi htracks => h.untouched hnone i (hintents i hi htracks) htracks

lemma Ordered.hand (h : Ordered eventId chatId w) {s : EventStore} {row : OutboxRecord}
    {text : String} (hfresh : s.FreshIds) (hreceipts : s.cardReceipts = w.store.cardReceipts)
    (hkept : ∀ i ∈ w.store.intents, i ∈ s.intents)
    (hshape : ∀ i ∈ s.intents, i.eventId = eventId → i.isCard = true → IsCardRow i)
    (hrows : ∀ r ∈ s.outbox.rows, r = row ∨ r ∈ w.store.outbox.rows)
    (hrow : row ∈ s.outbox.rows) (htracks : row.intent.Tracks eventId chatId)
    (htext : EventStore.textField row.payload "text" = some text)
    (hdead : row.state ≠ .deadLetter)
    (hsent : row.state = .sent → row.outboxId ∈ w.recorded)
    (hlast : row.outboxId ∈ w.recorded → w.produced row.outboxId = w.handed) :
    Ordered eventId chatId
      { w with
        store := s
        handed := w.handed + 1
        produced := Function.update w.produced row.outboxId (w.handed + 1)
        lastText := some text } := by
  have hself : Function.update w.produced row.outboxId (w.handed + 1) row.outboxId = w.handed + 1 :=
    Function.update_self _ _ _
  have hother (n : Nat) (hn : n ≠ row.outboxId) :
      Function.update w.produced row.outboxId (w.handed + 1) n = w.produced n :=
    Function.update_of_ne hn _ _
  have hintents (i : Intent) (hi : i ∈ s.intents) (hne : i.outboxId ≠ row.outboxId) :
      i ∈ w.store.intents := by
    obtain ⟨r, hr, hintent⟩ := List.mem_map.mp hi
    rcases hrows r hr with heq | hold
    · rw [heq] at hintent
      exact absurd (congrArg Intent.outboxId hintent).symm hne
    · rw [← hintent]
      exact List.mem_map_of_mem hold
  have hmem : row.intent ∈ s.intents := List.mem_map_of_mem hrow
  have hbound (i : Intent) (hi : i ∈ s.intents) (hi' : i.Tracks eventId chatId) :
      Function.update w.produced row.outboxId (w.handed + 1) i.outboxId ≤ w.handed + 1 := by
    by_cases hid : i.outboxId = row.outboxId
    · rw [hid, hself]
    · rw [hother _ hid]
      have := h.bounds i (hintents i hi hid) hi'
      omega
  -- a recorded card that is handed over again is the last one, and nothing else is as late
  have hreplaced {i : Intent} (hi : i ∈ w.store.intents) (hi' : i.Tracks eventId chatId)
      (hle : w.produced row.outboxId ≤ w.produced i.outboxId)
      (hrecorded : row.outboxId ∈ w.recorded) : i.outboxId = row.outboxId := by
    obtain ⟨j, hj, hj', hid⟩ := h.recordedRow row.outboxId hrecorded
    have hbelow := h.bounds i hi hi'
    have hhanded := hlast hrecorded
    rw [← hid]
    apply h.distinct i hi j hj hi' hj'
    rw [hid]
    omega
  refine ⟨hfresh, hshape, ?_, ?_, h.kinds, h.single, ?_, h.accepted, h.done, ?_, ?_, ?_, ?_, ?_,
    hbound, ?_, ?_, ?_⟩
  · intro r hr hevent hchat
    dsimp only at hr
    rw [hreceipts] at hr
    obtain ⟨i, hi, hrest⟩ := h.receipts r hr hevent hchat
    exact ⟨i, hkept i hi, hrest⟩
  · exact fun d hd => hkept _ (h.flying d hd)
  · intro r hr d hd htracks'
    dsimp only
    by_cases hid : d.claimed.outboxId = row.outboxId
    · rw [hid, hself]
      obtain ⟨i, hi, hi', hir⟩ := h.recordedRow r hr
      rw [← hir]
      exact hbound i (hkept i hi) hi'
    · rw [hother _ hid]
      have hle := h.order r hr d hd htracks'
      by_cases hr' : r = row.outboxId
      · rw [hr'] at hle hr
        exact absurd (hreplaced (h.flying d hd) htracks' hle hr) hid
      · rw [hother _ hr']
        exact hle
  · intro r hr
    obtain ⟨i, hi, hrest⟩ := h.recordedRow r hr
    exact ⟨i, hkept i hi, hrest⟩
  · intro shown hshown
    obtain ⟨i, hi, hrest⟩ := h.shownRow shown hshown
    exact ⟨i, hkept i hi, hrest⟩
  · intro r hr
    obtain ⟨shown, hshown, hle⟩ := h.shownLast r hr
    refine ⟨shown, hshown, ?_⟩
    dsimp only
    by_cases hid : shown.1 = row.outboxId
    · rw [hid, hself]
      obtain ⟨i, hi, hi', hir⟩ := h.recordedRow r hr
      rw [← hir]
      exact hbound i (hkept i hi) hi'
    · rw [hother _ hid]
      by_cases hr' : r = row.outboxId
      · obtain ⟨i, hi, hi', his, -⟩ := h.shownRow shown hshown
        rw [hr', ← his] at hle
        rw [hr'] at hr
        exact absurd (his.symm.trans (hreplaced hi hi' hle hr)) hid
      · rw [hother _ hr']
        exact hle
  · intro r hr htracks' hstate
    rcases hrows r hr with heq | hold
    · rw [heq] at hstate ⊢
      exact hsent hstate
    · exact h.sent r hold htracks' hstate
  · intro r hr htracks' hlate
    dsimp only at hlate
    by_cases hid : r.outboxId = row.outboxId
    · rw [KeyedTable.eq_of_key_eq hr hrow hid]
      exact hdead
    · rw [hother _ hid] at hlate
      have hbelow := h.bounds r.intent (hintents r.intent (List.mem_map_of_mem hr) hid) htracks'
      have hbelow' : w.produced r.outboxId ≤ w.handed := hbelow
      omega
  · intro i hi j hj hi' hj' hsame
    dsimp only at hsame
    by_cases hid : i.outboxId = row.outboxId
    · by_cases hjd : j.outboxId = row.outboxId
      · rw [hid, hjd]
      · rw [hid, hself, hother _ hjd] at hsame
        have := h.bounds j (hintents j hj hjd) hj'
        omega
    · by_cases hjd : j.outboxId = row.outboxId
      · rw [hjd, hself, hother _ hid] at hsame
        have := h.bounds i (hintents i hi hid) hi'
        omega
      · rw [hother _ hid, hother _ hjd] at hsame
        exact h.distinct i (hintents i hi hid) j (hintents j hj hjd) hi' hj' hsame
  · intro given hgiven
    cases hgiven
    exact ⟨row.intent, hmem, htracks, hself, htext⟩
  · exact fun hnone => nomatch hnone

inductive Grows (s s' : EventStore) : Option OutboxRecord → Prop where
  | same (outbox : s'.outbox = s.outbox) (next : s'.nextOutboxId = s.nextOutboxId)
      (receipts : s'.cardReceipts = s.cardReceipts) : Grows s s' none
  | row (row : OutboxRecord) (outbox : s'.outbox = s.outbox.insert row)
      (id : row.outboxId = s.nextOutboxId) (next : s'.nextOutboxId = s.nextOutboxId + 1)
      (receipts : s'.cardReceipts = s.cardReceipts) (state : row.state = .pending) :
      Grows s s' (some row)

def Asks (s : EventStore) (asked destination kind : String) (payload : Dict)
    (row : OutboxRecord) : Prop :=
  row.eventId = asked ∧ row.destination = destination ∧ row.kind = kind ∧ row.payload = payload ∧
    s.findNotification asked destination kind = none

lemma grows_enqueue {s s' : EventStore} {asked destination kind : String} {payload : Dict}
    {now : Datetime} {row : OutboxRecord} {created : Bool}
    (h : s.enqueueNotification asked destination kind payload now = .ok ((row, created), s')) :
    ∃ new, Grows s s' new ∧ ∀ r ∈ new, Asks s asked destination kind payload r := by
  rcases EventStore.enqueueNotification_cases h with ⟨-, -, hs⟩ | ⟨hfind, -, hrow, hs⟩
  · rw [hs]
    exact ⟨none, .same rfl rfl rfl, fun r hr => nomatch hr⟩
  · refine ⟨some row, ?_, fun r hr => ?_⟩
    · rw [hs]
      exact .row row rfl (by rw [hrow]; rfl) rfl rfl (by rw [hrow]; rfl)
    · cases hr
      rw [hrow]
      exact ⟨rfl, rfl, rfl, rfl, hfind⟩

lemma grows_enqueueCard {s s' : EventStore} {asked chat : String} {render : TelegramRender}
    {now : Datetime} {record : Option OutboxRecord}
    (h : s.enqueueCard asked chat render now = .ok (record, s')) :
    ∃ new, Grows s s' new ∧ ∀ row ∈ new, Asks s asked (telegramDestination chat)
      (cardKind render.renderHash) (cardPayload chat render) row := by
  rw [EventStore.enqueueCard] at h
  split at h
  · cases h
    exact ⟨none, .same rfl rfl rfl, fun r hr => nomatch hr⟩
  split at h
  · cases h
  · rename_i henqueue
    cases h
    exact grows_enqueue henqueue

structure SameCards (s s' : EventStore) : Prop where
  outbox : s'.outbox = s.outbox
  next : s'.nextOutboxId = s.nextOutboxId
  receipts : s'.cardReceipts = s.cardReceipts

lemma sameCards_save {s s' : EventStore} {saved : String} {payload : Dict}
    {dirtyAt : Option Datetime} {now : Datetime} {state : TelegramCardState}
    (h : s.saveTelegramCardState saved payload dirtyAt now = .ok (state, s')) : SameCards s s' := by
  unfold EventStore.saveTelegramCardState at h
  split at h
  · cases h
  · cases h
    exact ⟨rfl, rfl, rfl⟩

lemma sameCards_applyState (s : EventStore) (activity : InvestigationActivity) (now : Datetime) :
    SameCards s (TelegramCardCoordinator.applyState s activity now).2 := by
  rw [TelegramCardCoordinator.applyState]
  split
  · exact ⟨rfl, rfl, rfl⟩
  · exact ⟨rfl, rfl, rfl⟩
  · dsimp only
    split
    · exact ⟨rfl, rfl, rfl⟩
    · rename_i hsave
      exact sameCards_save hsave

lemma sameCards_flushState (c : TelegramCardCoordinator) (s : EventStore) (flushed : String)
    (now : Datetime) : SameCards s (c.flushState s flushed now).2 := by
  rw [TelegramCardCoordinator.flushState]
  split
  · exact ⟨rfl, rfl, rfl⟩
  split
  · exact ⟨rfl, rfl, rfl⟩
  split
  · exact ⟨rfl, rfl, rfl⟩
  split
  · exact ⟨rfl, rfl, rfl⟩
  split
  · exact ⟨rfl, rfl, rfl⟩
  · rename_i hsave
    exact sameCards_save hsave

lemma grows_enqueueFound (digest : String → String) (c : TelegramCardCoordinator) (now : Datetime)
    {s : EventStore}
    {found : Except CardError (Option InvestigationView) × EventStore} (hsame : SameCards s found.2) :
    ∃ new, Grows s (c.enqueueFound digest now found).2 new ∧ ∀ row ∈ new, ∃ view render,
      found.1 = .ok (some view) ∧ renderCard digest view MAX_TELEGRAM_CARD_CHARS = .ok render ∧
        Asks s view.eventId (telegramDestination c.chatId) (cardKind render.renderHash)
          (cardPayload c.chatId render) row := by
  have hquiet : Grows s found.2 none := .same hsame.outbox hsame.next hsame.receipts
  obtain ⟨result, s₁⟩ := found
  cases result with
  | error e => exact ⟨none, hquiet, fun r hr => nomatch hr⟩
  | ok given =>
    cases given with
    | none => exact ⟨none, hquiet, fun r hr => nomatch hr⟩
    | some view =>
      rw [TelegramCardCoordinator.enqueueFound, TelegramCardCoordinator.enqueue]
      cases hrender : renderCard digest view MAX_TELEGRAM_CARD_CHARS with
      | error e => exact ⟨none, hquiet, fun r hr => nomatch hr⟩
      | ok render =>
        dsimp only
        cases hcard : s₁.enqueueCard view.eventId c.chatId render now with
        | error e => exact ⟨none, hquiet, fun r hr => nomatch hr⟩
        | ok result =>
          obtain ⟨record, s₂⟩ := result
          obtain ⟨new, hgrows, hasks⟩ := grows_enqueueCard hcard
          refine ⟨new, ?_, fun r hr => ⟨view, render, rfl, hrender, ?_⟩⟩
          · cases hgrows with
            | same outbox next receipts =>
              exact .same (outbox.trans hsame.outbox) (next.trans hsame.next)
                (receipts.trans hsame.receipts)
            | row row outbox id next receipts state =>
              rw [hsame.outbox] at outbox
              rw [hsame.next] at id next
              exact .row row outbox id next (receipts.trans hsame.receipts) state
          · obtain ⟨hevent, hdestination, hkind, hpayload, hfind⟩ := hasks r hr
            refine ⟨hevent, hdestination, hkind, hpayload, ?_⟩
            rw [EventStore.findNotification] at hfind ⊢
            rw [← hsame.outbox]
            exact hfind

lemma isCardRow_of_asks {s : EventStore} {asked chat : String} {render : TelegramRender}
    {row : OutboxRecord} (h : Asks s asked (telegramDestination chat) (cardKind render.renderHash)
      (cardPayload chat render) row) : IsCardRow row.intent :=
  ⟨chat, render, h.2.1, h.2.2.2.1, h.2.2.1⟩

section

variable {s : EventStore} {row : OutboxRecord}

lemma intents_of_same (houtbox : s.outbox = w.store.outbox) : s.intents = w.store.intents := by
  rw [EventStore.intents, houtbox, EventStore.intents]

lemma fresh_of_same (h : w.store.FreshIds) (houtbox : s.outbox = w.store.outbox)
    (hnext : s.nextOutboxId = w.store.nextOutboxId) : s.FreshIds := by
  intro i hi
  rw [intents_of_same houtbox] at hi
  rw [hnext]
  exact h i hi

lemma rows_of_insert (h : w.store.FreshIds) (houtbox : s.outbox = w.store.outbox.insert row)
    (hid : row.outboxId = w.store.nextOutboxId) : s.outbox.rows = w.store.outbox.rows ++ [row] := by
  rw [houtbox]
  apply KeyedTable.rows_insert_of_none
  rw [hid]
  exact h.get?_next

lemma intents_of_insert (hrows : s.outbox.rows = w.store.outbox.rows ++ [row]) :
    s.intents = w.store.intents ++ [row.intent] := by
  rw [EventStore.intents, hrows, List.map_append, List.map_singleton, EventStore.intents]

lemma fresh_of_insert (h : w.store.FreshIds) (hintents : s.intents = w.store.intents ++ [row.intent])
    (hid : row.outboxId = w.store.nextOutboxId)
    (hnext : s.nextOutboxId = w.store.nextOutboxId + 1) : s.FreshIds := by
  intro i hi
  rw [hintents] at hi
  rw [hnext]
  rcases List.mem_append.mp hi with hold | hnew
  · exact (h i hold).trans (Nat.lt_succ_self _)
  · rw [List.mem_singleton.mp hnew]
    have hid' : row.intent.outboxId = w.store.nextOutboxId := hid
    rw [hid']
    exact Nat.lt_succ_self _

lemma Ordered.grows (h : Ordered eventId chatId w) {new : Option OutboxRecord}
    (hgrows : Grows w.store s new)
    (hnew : ∀ row ∈ new, ¬ row.intent.Tracks eventId chatId ∧
      (row.intent.eventId = eventId → row.intent.isCard = true → IsCardRow row.intent)) :
    Ordered eventId chatId { w with store := s } := by
  cases hgrows with
  | same outbox next receipts =>
    have hintents := intents_of_same outbox
    refine h.grow (fresh_of_same h.fresh outbox next) receipts ?_ ?_ ?_
    · exact fun i hi => hintents ▸ hi
    · rw [hintents]
      exact h.shape
    · rw [outbox]
      exact fun r hr _ => hr
  | row row outbox id next receipts state =>
    have hrows := rows_of_insert h.fresh outbox id
    have hintents := intents_of_insert hrows
    obtain ⟨huntracked, hshape⟩ := hnew row rfl
    refine h.grow (fresh_of_insert h.fresh hintents id next) receipts ?_ ?_ ?_
    · rw [hintents]
      exact fun i hi => List.mem_append_left _ hi
    · rw [hintents]
      intro i hi hevent hcard
      rcases List.mem_append.mp hi with hold | hlast
      · exact h.shape i hold hevent hcard
      · rw [List.mem_singleton.mp hlast] at hevent hcard ⊢
        exact hshape hevent hcard
    · rw [hrows]
      intro r hr htracks
      rcases List.mem_append.mp hr with hold | hlast
      · exact hold
      · rw [List.mem_singleton.mp hlast] at htracks
        exact absurd htracks huntracked

lemma Ordered.handAgain (h : Ordered eventId chatId w) {render : TelegramRender}
    (houtbox : s.outbox = w.store.outbox) (hnext : s.nextOutboxId = w.store.nextOutboxId)
    (hreceipts : s.cardReceipts = w.store.cardReceipts) (hrow : row ∈ s.outbox.rows)
    (htracks : row.intent.Tracks eventId chatId) (hkind : row.kind = cardKind render.renderHash)
    (hfits : RowFits eventId chatId w render row) :
    Ordered eventId chatId
      { w with
        store := s
        handed := w.handed + 1
        produced := Function.update w.produced row.outboxId (w.handed + 1)
        lastText := some render.text } := by
  have hintents := intents_of_same houtbox
  have hold : row ∈ w.store.outbox.rows := houtbox ▸ hrow
  obtain ⟨htext, hlast⟩ := hfits htracks hkind
  refine h.hand (fresh_of_same h.fresh houtbox hnext) hreceipts ?_ ?_ ?_ hrow htracks htext ?_ ?_ ?_
  · exact fun i hi => hintents ▸ hi
  · rw [hintents]
    exact h.shape
  · rw [houtbox]
    exact fun r hr => .inr hr
  · rcases hlast with hlate | ⟨-, hdead⟩
    · exact h.alive row hold htracks hlate
    · exact hdead
  · exact fun hstate => h.sent row hold htracks hstate
  · intro hrecorded
    rcases hlast with hlate | ⟨hnot, -⟩
    · exact hlate
    · exact absurd hrecorded hnot

lemma Ordered.handNew (h : Ordered eventId chatId w) {render : TelegramRender}
    (houtbox : s.outbox = w.store.outbox.insert row) (hid : row.outboxId = w.store.nextOutboxId)
    (hnext : s.nextOutboxId = w.store.nextOutboxId + 1)
    (hreceipts : s.cardReceipts = w.store.cardReceipts) (hstate : row.state = .pending)
    (hasks : Asks w.store eventId (telegramDestination chatId) (cardKind render.renderHash)
      (cardPayload chatId render) row) :
    Ordered eventId chatId
      { w with
        store := s
        handed := w.handed + 1
        produced := Function.update w.produced row.outboxId (w.handed + 1)
        lastText := some render.text } := by
  have hrows := rows_of_insert h.fresh houtbox hid
  have hintents := intents_of_insert hrows
  have hcard := isCardRow_of_asks hasks
  obtain ⟨hevent, hdestination, hkind, hpayload, -⟩ := hasks
  have htracks : row.intent.Tracks eventId chatId := by
    refine ⟨hevent, hdestination, ?_⟩
    have hcardKind : row.intent.kind = cardKind render.renderHash := hkind
    rw [Intent.isCard, hcardKind]
    exact isCard_cardKind render.renderHash
  refine h.hand (fresh_of_insert h.fresh hintents hid hnext) hreceipts ?_ ?_ ?_ ?_ htracks ?_ ?_ ?_ ?_
  · rw [hintents]
    exact fun i hi => List.mem_append_left _ hi
  · rw [hintents]
    intro i hi hevent' hcard'
    rcases List.mem_append.mp hi with hold | hlast
    · exact h.shape i hold hevent' hcard'
    · rw [List.mem_singleton.mp hlast]
      exact hcard
  · rw [hrows]
    intro r hr
    rcases List.mem_append.mp hr with hold | hlast
    · exact .inr hold
    · exact .inl (List.mem_singleton.mp hlast)
  · rw [hrows]
    exact List.mem_append_right _ List.mem_cons_self
  · rw [hpayload]
    rfl
  · rw [hstate]
    intro hdead
    cases hdead
  · rw [hstate]
    intro hsent
    cases hsent
  · intro hrecorded
    obtain ⟨i, hi, -, hi'⟩ := h.recordedRow row.outboxId hrecorded
    have hbelow := h.fresh i hi
    rw [hi', hid] at hbelow
    exact absurd hbelow (lt_irrefl _)

end

lemma handedRender_eq_some {c : TelegramCardCoordinator}
    {found : Except CardError (Option InvestigationView)} {render : TelegramRender}
    (h : handedRender digest eventId chatId c found = some render) :
    ∃ view, found = .ok (some view) ∧ renderCard digest view MAX_TELEGRAM_CARD_CHARS = .ok render ∧
      view.eventId = eventId ∧ c.chatId = chatId := by
  unfold handedRender at h
  split at h
  · rename_i view
    split at h
    · rename_i given hgiven
      split at h
      · rename_i hsame
        cases h
        exact ⟨view, rfl, hgiven, hsame.1, hsame.2⟩
      · cases h
    · cases h
  · cases h

lemma asks_tracks {c : TelegramCardCoordinator} {found : Except CardError (Option InvestigationView)}
    {view : InvestigationView} {render : TelegramRender} {row : OutboxRecord}
    (hfound : found = .ok (some view))
    (hrender : renderCard digest view MAX_TELEGRAM_CARD_CHARS = .ok render)
    (hasks : Asks w.store view.eventId (telegramDestination c.chatId) (cardKind render.renderHash)
      (cardPayload c.chatId render) row)
    (htracks : row.intent.Tracks eventId chatId) :
    handedRender digest eventId chatId c found = some render := by
  obtain ⟨hevent, hdestination, -⟩ := htracks
  have hview : view.eventId = eventId := hasks.1.symm.trans hevent
  have hchat : c.chatId = chatId :=
    EventStore.telegramDestination_inj (hasks.2.1.symm.trans hdestination)
  simp only [handedRender, hfound, hrender, hview, hchat, and_self, if_true]

lemma Ordered.handOver (h : Ordered eventId chatId w) (c : TelegramCardCoordinator) (now : Datetime)
    {found : Except CardError (Option InvestigationView) × EventStore}
    (hsame : SameCards w.store found.2)
    (hfits : RenderFits eventId chatId w (handedRender digest eventId chatId c found.1)) :
    Ordered eventId chatId (CardWorld.handOver eventId chatId w (c.enqueueFound digest now found).2
      (handedRender digest eventId chatId c found.1)) := by
  obtain ⟨new, hgrows, hasks⟩ := grows_enqueueFound digest c now hsame
  generalize (c.enqueueFound digest now found).2 = s at hgrows ⊢
  cases hrender : handedRender digest eventId chatId c found.1 with
  | none =>
    apply h.grows hgrows
    intro row hrow
    obtain ⟨view, render, hfound, hok, hasked⟩ := hasks row hrow
    refine ⟨fun htracks => ?_, fun _ _ => isCardRow_of_asks hasked⟩
    rw [asks_tracks hfound hok hasked htracks] at hrender
    cases hrender
  | some render =>
    rw [hrender] at hfits
    obtain ⟨view, hfound, hok, hview, hchat⟩ := handedRender_eq_some hrender
    have hasked (row : OutboxRecord) (hrow : row ∈ new) :
        Asks w.store eventId (telegramDestination chatId) (cardKind render.renderHash)
          (cardPayload chatId render) row := by
      obtain ⟨view', render', hfound', hok', hasked⟩ := hasks row hrow
      rw [hfound] at hfound'
      cases hfound'
      rw [hok] at hok'
      cases hok'
      rw [hview, hchat] at hasked
      exact hasked
    rw [CardWorld.handOver]
    cases hrow : rowOf eventId chatId s render with
    | none =>
      apply h.grows hgrows
      intro row hnew
      obtain ⟨hevent, hdestination, hkind, -⟩ := hasked row hnew
      cases hgrows with
      | same => cases hnew
      | row new outbox id next receipts state =>
        cases hnew
        have hmem : row ∈ s.outbox.rows := by
          rw [rows_of_insert h.fresh outbox id]
          exact List.mem_append_right _ List.mem_cons_self
        exact absurd ⟨hevent, hdestination, hkind⟩
          (EventStore.findNotification_eq_none_iff.mp hrow row hmem)
    | some row =>
      dsimp only
      obtain ⟨hin, hevent, hdestination, hkind⟩ := EventStore.findNotification_eq_some hrow
      cases hgrows with
      | same outbox next receipts =>
        have htracks : row.intent.Tracks eventId chatId := by
          refine ⟨hevent, hdestination, ?_⟩
          have hcardKind : row.intent.kind = cardKind render.renderHash := hkind
          rw [Intent.isCard, hcardKind]
          exact isCard_cardKind render.renderHash
        have hold : row ∈ w.store.outbox.rows := outbox ▸ hin
        exact h.handAgain outbox next receipts hin htracks hkind (hfits render rfl row hold)
      | row new outbox id next receipts state =>
        have hnew := hasked new rfl
        have hsame' : row = new := by
          rw [rows_of_insert h.fresh outbox id] at hin
          rcases List.mem_append.mp hin with hold | hlast
          · exact absurd ⟨hevent, hdestination, hkind⟩
              (EventStore.findNotification_eq_none_iff.mp hnew.2.2.2.2 row hold)
          · exact List.mem_singleton.mp hlast
        rw [hsame']
        exact h.handNew outbox id next receipts state hnew

lemma Ordered.reply (h : Ordered eventId chatId w) (chat : String)
    (activity : InvestigationActivity) (now : Datetime) :
    Ordered eventId chatId
      { w with store := (w.store.returning (w.store.enqueueActivity chat activity now)).2 } := by
  cases hreply : w.store.enqueueActivity chat activity now with
  | error e => exact h
  | ok result =>
    obtain ⟨record, s⟩ := result
    unfold EventStore.enqueueActivity at hreply
    split at hreply
    · cases hreply
      exact h
    split at hreply
    · cases hreply
    · rename_i henqueue
      cases hreply
      obtain ⟨new, hgrows, hasks⟩ := grows_enqueue henqueue
      apply h.grows hgrows
      intro row hrow
      obtain ⟨-, -, hkind, -⟩ := hasks row hrow
      have hcard : row.intent.isCard = false := by
        have hintent : row.intent.kind = activityKindOf activity.activityId := hkind
        rw [Intent.isCard, hintent]
        exact not_isCard_activityKind activity.activityId
      refine ⟨fun htracks => ?_, fun _ hcard' => ?_⟩
      · rw [htracks.2.2] at hcard
        cases hcard
      · rw [hcard'] at hcard
        cases hcard

theorem Ordered.step (h : Ordered eventId chatId w) {c : CardStep}
    (hfits : Fits digest eventId chatId w c) :
    Ordered eventId chatId (w.step digest eventId chatId c) := by
  cases c with
  | apply c activity now => exact h.handOver c now (sameCards_applyState _ _ _) hfits
  | flush c flushed now => exact h.handOver c now (sameCards_flushState _ _ _ _) hfits
  | reply chat activity now => exact h.reply chat activity now
  | claim outboxId owner leaseSeconds now =>
    rw [CardWorld.step]
    split
    · exact h
    · rename_i hclaim
      exact h.claim hfits hclaim
  | advance k answer now => exact h.advance hfits
  | crash k => exact h.erase k

theorem Ordered.noOverwrite (h : Ordered eventId chatId w) (c : CardStep) :
    NoOverwrite eventId chatId w c := by
  cases c with
  | advance k answer now =>
    intro d hd s hs r hr
    unfold accepts at hs
    split at hs
    · split at hs
      · rename_i htracks
        obtain ⟨text, -, heq⟩ := Option.map_eq_some_iff.mp hs
        rw [← heq]
        exact h.order r hr d (List.mem_of_getElem? hd) htracks
      · cases hs
    · cases hs
  | _ => trivial

/-- In every run whose steps meet the condition no revision is overwritten by an earlier one, and
the chat shows the last render whenever it has settled. -/
theorem card_order {steps : List CardStep} (hstart : Start eventId w)
    (hfits : Runs.AllSteps (CardWorld.step digest eventId chatId) (Fits digest eventId chatId) w
      steps) :
    Runs.AllSteps (CardWorld.step digest eventId chatId) (fun w c => NoOverwrite eventId chatId w c ∧
      ShowsLast eventId chatId (w.step digest eventId chatId c)) w steps := by
  have hstep (w : CardWorld) (c : CardStep) (h : Ordered eventId chatId w)
      (hc : Fits digest eventId chatId w c) :
      Ordered eventId chatId (w.step digest eventId chatId c) := h.step hc
  have hshows (w : CardWorld) (c : CardStep) (h : Ordered eventId chatId w)
      (hc : Fits digest eventId chatId w c) :
      NoOverwrite eventId chatId w c ∧
        ShowsLast eventId chatId (w.step digest eventId chatId c) :=
    ⟨h.noOverwrite c, (h.step hc).showsLast⟩
  exact Runs.allSteps_of_guard hstep hshows (ordered_of_start hstart) hfits

def beforeCards : CardWorld := { store := oneEvent }

lemma start_beforeCards : Start "e" beforeCards where
  fresh := freshIds_oneEvent
  cards := by
    intro i hi
    cases hi
  receipts := by
    intro r hr
    cases hr
  inFlight := rfl
  shown := rfl
  recorded := rfl
  handed := rfl
  lastText := rfl

def completedActivity : InvestigationActivity where
  activityId := "a2"
  incidentId := "INC-1"
  eventId := "e"
  sequence := 1
  kind := .completed
  status := .completed
  classification := some "resolved"
  duration_nonneg := InvestigationActivity.untimed
  summary_short := InvestigationActivity.unsummarised

def cardDigest (text : String) : String := toString text.length

def deliverySteps (answer : Except NotifierError Int) (now : Datetime) : List CardStep :=
  List.replicate 4 (.advance 0 answer now)

def lateRetry : List CardStep :=
  [.apply (chat "1") startedActivity ⟨0, 0⟩, .claim 1 "A" 30 ⟨0, 0⟩] ++
    List.replicate 3 (.advance 0 (.error ⟨"provider is down", none⟩) ⟨0, 0⟩) ++
    [.apply (chat "1") completedActivity ⟨1000000, 0⟩, .claim 2 "A" 30 ⟨1000000, 0⟩] ++
    deliverySteps (.ok 7) ⟨1000000, 0⟩ ++
    [.claim 1 "A" 30 ⟨60000000, 0⟩] ++ deliverySteps (.ok 7) ⟨60000000, 0⟩

/-- Both cards are delivered, the older one first. -/
theorem card_order_deliverySteps :
    Runs.AllSteps (CardWorld.step cardDigest "e" "1") (fun w c => NoOverwrite "e" "1" w c ∧
      ShowsLast "e" "1" (w.step cardDigest "e" "1" c)) beforeCards
      ([.apply (chat "1") startedActivity ⟨0, 0⟩, .claim 1 "A" 30 ⟨0, 0⟩] ++
        deliverySteps (.ok 7) ⟨0, 0⟩ ++
        [.apply (chat "1") completedActivity ⟨1000000, 0⟩, .claim 2 "A" 30 ⟨1000000, 0⟩] ++
        deliverySteps (.ok 7) ⟨1000000, 0⟩) :=
  card_order start_beforeCards (by decide +kernel)

/-- The chat settles on the first card. -/
theorem card_order_fails_lateRetry :
    ¬Runs.AllSteps (CardWorld.step cardDigest "e" "1") (fun w c => NoOverwrite "e" "1" w c ∧
      ShowsLast "e" "1" (w.step cardDigest "e" "1" c)) beforeCards lateRetry := by
  decide +kernel

end CardWorld

end NetTools
