import NetTools.EventStore.Records
import NetTools.Telegram.View

/-!
# Rendering and delivery of investigation cards

`telegram_renderer.py`, `telegram_chat_renderer.py` and `telegram_delivery.py`. The sha256 of a
text is the parameter `digest`. A call that fails part of the way keeps what it had written,
so that it returns the next store beside its result.
-/

namespace NetTools

namespace ActivityStatus

/-- `_STATUS_MARKERS`. -/
def marker : ActivityStatus → String
  | queued => "⏳"
  | running => "🔎"
  | healthy => "✓"
  | anomaly => "⚠"
  | refused => "✗"
  | retrying => "↻"
  | inconclusive => "?"
  | completed => "🏁"
  | failed => "✗"

/-- `status.value.replace("_", " ").upper()`; no value has an underscore. -/
def upper (status : ActivityStatus) : String :=
  String.ofList (status.value.toList.map Char.toUpper)

end ActivityStatus

def MAX_TELEGRAM_CARD_CHARS : Nat := 4096

structure TelegramRender where
  text : String
  renderHash : String
  terminal : Bool
deriving DecidableEq, Repr

def optionalLine (label : String) (value : Option String) : List String :=
  match value with
  | some text => if text = "" then [] else [label ++ text]
  | none => []

def stageLine (stage : InvestigationStage) : String :=
  let detail :=
    if hasText stage.rung then " · " ++ stage.rung.getD ""
    else if hasText stage.finding then " · " ++ stage.finding.getD ""
    else ""
  let place := if hasText stage.device then " @ " ++ stage.device.getD "" else ""
  stage.status.marker ++ " " ++ stage.name ++ detail ++ place

def progressLine (view : InvestigationView) : String :=
  "Progress: " ++ toString view.completedChecks ++ " complete · " ++
    toString view.runningChecks ++ " active"

def fullText (view : InvestigationView) : String :=
  let stages := if view.stages.isEmpty then [] else "Stages" :: view.stages.map stageLine
  "\n".intercalate
    (["🚨 NETWORK INVESTIGATION\n" ++ view.incidentId ++ "\nStatus: " ++ view.status.upper] ++
      stages ++ [progressLine view] ++ optionalLine "Finding: " view.finding ++
      optionalLine "Classification: " view.classification ++
      optionalLine "Limitation: " view.limitation)

def essentialText (view : InvestigationView) : String :=
  "\n".intercalate
    (["🚨 " ++ view.incidentId ++ "\nStatus: " ++ view.status.upper] ++
      optionalLine "Classification: " view.classification ++
      optionalLine "Finding: " view.finding ++ optionalLine "Limitation: " view.limitation ++
      [progressLine view])

def renderCard (digest : String → String) (view : InvestigationView) (maxChars : Nat) :
    Except String TelegramRender :=
  if maxChars < 160 then .error "max_chars must preserve the incident header and final state"
  else
    let rendered := fun text : String => (⟨text, digest text, view.terminal⟩ : TelegramRender)
    if (fullText view).length ≤ maxChars then .ok (rendered (fullText view))
    else if maxChars < (essentialText view).length then
      .error "max_chars cannot preserve the terminal card contract"
    else .ok (rendered (essentialText view))

def renderActivityMessage (activity : InvestigationActivity) : Option String :=
  let device := orText activity.device (some "the target")
  let tool := activity.tool.getD "None"
  match activity.kind with
  | .visibleReasoningTail =>
    some ("🧠 Reasoning summary (non-authoritative)\n" ++
      " ".intercalate activity.visibleSummary)
  | .toolSelected =>
    some ("🔎 Selecting " ++ tool ++ " for " ++
      (orText activity.stage (some "the investigation")).getD "" ++ ".")
  | .commandPreview =>
    some ("🔧 Running approved check on " ++ device.getD "" ++ ": " ++
      activity.commandLabel.getD "None" ++ ".")
  | .toolResultSummary =>
    let marker := if activity.status = .healthy then "✓" else "⚠"
    let duration := match activity.durationMs with
      | some ms => " (" ++ toString ms ++ " ms)"
      | none => ""
    let evidence := if activity.evidenceKeys.isEmpty then ""
      else " Evidence: " ++ ", ".intercalate activity.evidenceKeys ++ "."
    let finding := if hasText activity.finding then " Finding: " ++ activity.finding.getD "" ++ "."
      else ""
    some (marker ++ " " ++ tool ++ " completed" ++ duration ++ "." ++ finding ++ evidence)
  | .toolRefused =>
    some ("✗ Approved tool request refused: " ++
      (orText activity.limitation (some "policy or bounds prevented the check.")).getD "")
  | .retrying =>
    some ("↻ Retrying " ++ (orText activity.tool (some "the approved check")).getD "" ++ ": " ++
      (orText activity.limitation (some "transient failure.")).getD "")
  | _ => none

/-! ### The outbox side -/

structure NotifierError where
  message : String
  retryAfterSeconds : Option ℚ := none
deriving DecidableEq, Repr

/-- The answers of the provider. Each call names the outbox row it is made for, so that the
answers of one drain may differ from row to row. -/
structure Notifier where
  sendTextTo : (outboxId : Nat) → (chatId text : String) → Except NotifierError Int
  editText : (outboxId : Nat) → (chatId : String) → (messageId : Int) → (text : String) →
    Except NotifierError Int
  sendReplyText : (outboxId : Nat) → (chatId : String) → (replyToMessageId : Int) →
    (text : String) → Except NotifierError Int

def telegramDestination (chatId : String) : String := "telegram:" ++ chatId

def cardKind (renderHash : String) : String := "card:" ++ renderHash

def activityKindOf (activityId : String) : String := "activity:" ++ activityId

def cardPayload (chatId : String) (render : TelegramRender) : Dict :=
  [("chat_id", .str chatId), ("text", .str render.text), ("render_hash", .str render.renderHash)]

/-- `payload.get(key)` when it is a non-empty string. -/
def nonemptyText (payload : Dict) (key : String) : Option String :=
  match payload.get? key with
  | some (.str text) => if text = "" then none else some text
  | _ => none

def cardFields (payload : Dict) : Option (String × String × String) :=
  match nonemptyText payload "chat_id", nonemptyText payload "text",
      nonemptyText payload "render_hash" with
  | some chatId, some text, some renderHash => some (chatId, text, renderHash)
  | _, _, _ => none

namespace EventStore

def enqueueCard (s : EventStore) (eventId chatId : String) (render : TelegramRender)
    (now : Datetime) : Except StoreError (Option OutboxRecord × EventStore) :=
  if (s.telegramCardReceipt eventId chatId).any (fun r => r.renderHash = render.renderHash) then
    .ok (none, s)
  else
    match s.enqueueNotification eventId (telegramDestination chatId)
        (cardKind render.renderHash) (cardPayload chatId render) now with
    | .error e => .error e
    | .ok ((record, _), s') => .ok (some record, s')

def enqueueActivity (s : EventStore) (chatId : String) (activity : InvestigationActivity)
    (now : Datetime) : Except StoreError (Option OutboxRecord × EventStore) :=
  match renderActivityMessage activity with
  | none => .ok (none, s)
  | some text =>
    match s.enqueueNotification activity.eventId (telegramDestination chatId)
        (activityKindOf activity.activityId)
        [("chat_id", .str chatId), ("text", .str text), ("activity_id", .str activity.activityId)]
        now with
    | .error e => .error e
    | .ok ((record, _), s') => .ok (some record, s')

def returning {α : Type} (s : EventStore) (result : Except StoreError (α × EventStore)) :
    Except StoreError α × EventStore :=
  match result with
  | .ok (a, s') => (.ok a, s')
  | .error e => (.error e, s)

/-- A delivery's call of `finish_notification`, with its default retry policy. -/
def finishDelivery (s : EventStore) (claimed : OutboxRecord) (owner : String) (sent : Bool)
    (error : Option String) (retryAfterSeconds : Option ℚ) (now : Datetime) :
    Except StoreError (OutboxRecord × EventStore) :=
  s.finishNotification claimed.outboxId sent error now retryAfterSeconds 5 5 (some owner)
    (some claimed.leaseEpoch)

def sendCard (s : EventStore) (notifier : Notifier) (claimed : OutboxRecord)
    (chatId text : String) : Except NotifierError Int :=
  match s.telegramCardReceipt claimed.eventId chatId with
  | none => notifier.sendTextTo claimed.outboxId chatId text
  | some receipt => notifier.editText claimed.outboxId chatId receipt.messageId text

def deliverCard (s : EventStore) (outboxId : Nat) (notifier : Notifier) (owner : String)
    (leaseSeconds : ℚ) (now : Datetime) : Except StoreError OutboxRecord × EventStore :=
  match s.claimNotification outboxId owner leaseSeconds now with
  | .error e => (.error e, s)
  | .ok (claimed, s₁) =>
    match cardFields claimed.payload with
    | none =>
      s₁.returning (s₁.finishDelivery claimed owner false
        (some "invalid Telegram card payload") none now)
    | some (chatId, text, renderHash) =>
      match s₁.sendCard notifier claimed chatId text with
      | .error e =>
        s₁.returning (s₁.finishDelivery claimed owner false (some e.message)
          e.retryAfterSeconds now)
      | .ok messageId =>
        match s₁.recordTelegramCard claimed.eventId chatId messageId renderHash now with
        | .error e => (.error e, s₁)
        | .ok (_, s₂) => s₂.returning (s₂.finishDelivery claimed owner true none none now)

/-- `isinstance(payload.get(key), str)`. -/
def textField (payload : Dict) (key : String) : Option String :=
  match payload.get? key with
  | some (.str text) => some text
  | _ => none

def deliverActivity (s : EventStore) (outboxId : Nat) (notifier : Notifier) (owner : String)
    (now : Datetime) : Except StoreError OutboxRecord × EventStore :=
  match s.claimNotification outboxId owner 30 now with
  | .error e => (.error e, s)
  | .ok (claimed, s₁) =>
    match textField claimed.payload "chat_id", textField claimed.payload "text" with
    | some chatId, some text =>
      match s₁.telegramCardReceipt claimed.eventId chatId with
      | none =>
        s₁.returning (s₁.finishDelivery claimed owner false
          (some "card root receipt is unavailable") none now)
      | some receipt =>
        match notifier.sendReplyText claimed.outboxId chatId receipt.messageId text with
        | .ok _ => s₁.returning (s₁.finishDelivery claimed owner true none none now)
        | .error e =>
          s₁.returning (s₁.finishDelivery claimed owner false (some e.message)
            e.retryAfterSeconds now)
    | _, _ =>
      s₁.returning (s₁.finishDelivery claimed owner false
        (some "invalid Telegram activity payload") none now)

def deliverRow (s : EventStore) (notifier : Notifier) (owner : String) (now : Datetime)
    (record : OutboxRecord) : Except StoreError OutboxRecord × EventStore :=
  if pyStartsWith record.kind "card:" then s.deliverCard record.outboxId notifier owner 30 now
  else if pyStartsWith record.kind "activity:" then
    s.deliverActivity record.outboxId notifier owner now
  else
    match s.claimNotification record.outboxId owner 30 now with
    | .error e => (.error e, s)
    | .ok (claimed, s₁) =>
      s₁.returning (s₁.finishDelivery claimed owner false
        (some ("unsupported notification kind " ++ pyRepr record.kind)) none now)

def deliverRows (notifier : Notifier) (owner : String) (now : Datetime) :
    EventStore → List OutboxRecord → List OutboxRecord × EventStore
  | s, [] => ([], s)
  | s, record :: records =>
    let (result, s') := s.deliverRow notifier owner now record
    let (outcomes, s'') := deliverRows notifier owner now s' records
    (match result with
      | .ok outcome => outcome :: outcomes
      | .error _ => outcomes, s'')

def drainNotifications (s : EventStore) (notifier : Notifier) (owner : String) (now : Datetime)
    (limit : Int) : Except StoreError (List OutboxRecord) × EventStore :=
  match s.eligibleNotifications now limit with
  | .error e => (.error e, s)
  | .ok records =>
    let (outcomes, s') := deliverRows notifier owner now s records
    (.ok outcomes, s')

end EventStore

end NetTools
