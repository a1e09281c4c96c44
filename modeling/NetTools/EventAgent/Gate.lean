import NetTools.Python.Digits
import NetTools.Python.Double

/-!
# The gate before a run

Routing decisions, the durable envelope made from one, and the checks of `event_agent.py`
that come before any tool or model: the age of the event, and the context that it pins.
-/

namespace NetTools

structure RoutingDecision where
  routable : Bool
  flow : Option String := none
  device : Option String := none
  subject : Option String := none
  reason : String := ""
  sourceKind : String := "unknown"
  matched : Option String := none
  transition : Option String := none
  rawEvent : Option String := none
  ingestTimestampNs : Option String := none

def Value.ofOption (s : Option String) : Value := (s.map Value.str).getD .none

/-- `EventEnvelopeV2.from_routing_decision(decision).payload()`, with the identity of the
decision and the time at which it was observed. -/
def RoutingDecision.envelopePayload (d : RoutingDecision) (eventId : String)
    (receivedAt : Datetime) : Dict :=
  [("schema_version", .int 2),
    ("event_id", .str eventId),
    ("source_kind", .str d.sourceKind),
    ("received_at", .str receivedAt.isoformat),
    ("device", .ofOption d.device),
    ("object_type", .ofOption d.flow),
    ("subject", .ofOption d.subject),
    ("matched", .ofOption d.matched),
    ("transition", .ofOption d.transition),
    ("raw_trigger", .ofOption d.rawEvent),
    ("device_time", .none),
    ("source_timestamp_ns", .ofOption d.ingestTimestampNs),
    ("routing_reason", .str d.reason),
    ("routable", .bool d.routable)]

/-- `DEFAULT_MAX_EVENT_AGE_SECONDS`. -/
def defaultMaxEventAge : ℚ := 300

/-- A number with one decimal, as `format(x, ".1f")` prints it. -/
def formatFixed1 (q : ℚ) : String :=
  let tenths := roundHalfEven (q * 10)
  (if tenths < 0 then "-" else "") ++ toString (tenths.natAbs / 10) ++ "." ++
    toString (tenths.natAbs % 10)

/-- `_event_age_refusal`. The configured maximum comes with its `:g` text, which only the message
shows. Seconds that no double holds raise an `OverflowError`, which nothing catches. -/
def eventAgeRefusal (digits : DigitTable) (d : RoutingDecision) (configured : ℚ)
    (limitText : ℚ → String) (time : ℚ) : Except String (Option String) :=
  match d.ingestTimestampNs with
  | none => .ok none
  | some ns =>
    match digits.int ns with
    | none =>
      .ok (some "Loki event ingest timestamp is unusable; refusing before model activity")
    | some n =>
      let ingestSeconds := Double.round ((n : ℚ) / 1000000000)
      if 2 ^ 1024 ≤ |ingestSeconds| then .error "integer division result too large for a float"
      else
        let maxAge := if configured < 0 then defaultMaxEventAge else configured
        let age := Double.sub time ingestSeconds
        if maxAge < age then
          .ok (some (s!"Loki event is stale ({formatFixed1 age}s old; maximum " ++
            s!"{limitText maxAge}s); refusing before model activity"))
        else .ok none

/-- The `trigger` block of a mnemonic. -/
structure Trigger where
  fires : Bool
  reason : Option String := none

/-- An entry of `mnemonics.yaml`. -/
structure TriggerEntry where
  mnemonic : String
  trigger : Option Trigger := none
  investigateWith : Option String := none

/-- The mnemonics of `MNEMONIC_FLOW_TABLE`. -/
def routableMnemonics : List String :=
  ["ROUTING-BGP-5-ADJCHANGE", "PKT_INFRA-LINK-3-UPDOWN", "PKT_INFRA-LINEPROTO-5-UPDOWN"]

/-- `build_trigger_index(table).get(mnemonic)`: a later entry overrides an earlier one. -/
def triggerFor (table : List TriggerEntry) (mnemonic : String) : Option Trigger :=
  ((table.filter (fun e => e.mnemonic = mnemonic && e.trigger.isSome)).getLast?).bind
    TriggerEntry.trigger

/-- The complaint of `validate_trigger_table` about one entry. -/
def TriggerEntry.inconsistency (e : TriggerEntry) : Option String :=
  if e.trigger.all (fun t => !t.fires) then none
  else if e.investigateWith.all (· = "") then
    some (s!"{pyRepr e.mnemonic}: trigger.fires is true but investigate_with is " ++
      "null -- there is no flow to route to")
  else if e.mnemonic ∉ routableMnemonics then
    some (s!"{pyRepr e.mnemonic}: trigger.fires is true but it has no " ++
      "event_routing.MNEMONIC_FLOW_TABLE entry -- there is no " ++
      "subject extractor, so this mnemonic cannot actually be routed")
  else none

def validateTriggerTable (table : List TriggerEntry) : Option String :=
  table.findSome? TriggerEntry.inconsistency

structure PinnedContext where
  device : String
  subject : Option String
  flow : Option String
  deviceNonblank : isBlank device = false
  subjectNonempty : subject ≠ some ""
  flowNonempty : flow ≠ some ""

/-- `PinnedContext(...)`, with the text of the `ValueError` it raises. -/
def pinContext (device subject flow : Option String) : Except String PinnedContext :=
  match device with
  | none =>
    .error ("PinnedContext.device must be a non-empty string " ++
      "(inventory-checked upstream by event_routing._validated_device)")
  | some name =>
    if hd : isBlank name = false then
      if hs : subject ≠ some "" then
        if hf : flow ≠ some "" then .ok ⟨name, subject, flow, hd, hs, hf⟩
        else .error ("PinnedContext.flow must be None (no flow determined) or a " ++
          "non-empty string")
      else .error ("PinnedContext.subject must be None (no subject) or a " ++
        "non-empty string -- an empty string is refused, not treated as 'no subject'")
    else .error ("PinnedContext.device must be a non-empty string " ++
      "(inventory-checked upstream by event_routing._validated_device)")

/-- How `_resolve_context` ends. An inconsistent trigger table is raised, not returned. -/
inductive GateResult where
  | raised (message : String)
  | refused (reason : String)
  | cleared (reason : String) (context : PinnedContext)

def resolveContext (table : List TriggerEntry) (d : RoutingDecision) : GateResult :=
  if !d.routable then .refused s!"routing decision is not routable: {d.reason}"
  else
    match d.matched with
    | none | some "" =>
      .refused ("routing decision names no mnemonic (matched=None); nothing to " ++
        "check against mnemonics.yaml's trigger table")
    | some mnemonic =>
      match validateTriggerTable table with
      | some message => .raised message
      | none =>
        match triggerFor table mnemonic with
        | none =>
          .refused (s!"mnemonic {pyRepr mnemonic} has no trigger entry in mnemonics.yaml -- " ++
            "unclassified, not cleared to fire")
        | some trigger =>
          if !trigger.fires then
            .refused ((trigger.reason.filter (· ≠ "")).getD
              s!"mnemonics.yaml trigger.fires is false for {pyRepr mnemonic}")
          else
            match pinContext d.device d.subject d.flow with
            | .error e => .refused s!"could not pin an event context: {e}"
            | .ok context =>
              .cleared s!"{mnemonic} is cleared to fire by mnemonics.yaml (trigger.fires: true)"
                context

end NetTools
