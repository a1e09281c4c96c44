import NetTools.EventAgent.Gate
import NetTools.EventStore.EventIdentity
import NetTools.Routing.Syslog

/-!
# Event routing

`event_routing.py`: from an Alertmanager payload, a syslog line or a Loki record to routing
decisions. The inventory is the list of its device names, empty when it cannot be read.
-/

namespace NetTools

/-- The fields of `EventEnvelope` that routing reads. -/
structure EventEnvelope where
  sourceKind : String
  rawEvent : String
  mnemonic : Option String
  text : Option String

/-- `value if isinstance(value, str) else None`. -/
def textOnly : Option Value → Option String
  | some (.str s) => some s
  | _ => none

def transitionExtractors : List (String × (String → String)) :=
  [("ROUTING-BGP-5-ADJCHANGE", bgpTransition),
    ("PKT_INFRA-LINK-3-UPDOWN", interfaceTransition),
    ("PKT_INFRA-LINEPROTO-5-UPDOWN", interfaceTransition)]

def transitionFor (mnemonic text : String) : Option String :=
  (transitionExtractors.lookup mnemonic).map (fun extractor => extractor text)

def mnemonicFlowTable : List (String × String × (String → Option String)) :=
  [("ROUTING-BGP-5-ADJCHANGE", "bgp_session", ipv4Subject),
    ("PKT_INFRA-LINK-3-UPDOWN", "interface", interfaceSubject),
    ("PKT_INFRA-LINEPROTO-5-UPDOWN", "interface", interfaceSubject)]

def alertnameFlowTable : List (String × String) :=
  [("BgpSessionDown", "bgp_session"), ("InterfaceDown", "interface")]

def validatedSubject : Option Value → Option String
  | some (.str given) =>
    let text := pyStrip given
    match Ipaddress.IPv4Address.ofText text with
    | some address => some address.text
    | none => if isInterfaceShape text.toList then some text else none
  | _ => none

def validatedDevice (inventory : List String) (name : Option Value) : Except String String :=
  match name with
  | some (.str device) =>
    if device = "" then
      .error ("no usable device in the event's metadata; the device never comes " ++
        "from message text (see the module docstring), so this event is unroutable")
    else if device ∉ inventory then
      .error ("device " ++ pyRepr device ++ " is not in the inventory")
    else .ok device
  | _ =>
    .error ("no usable device in the event's metadata; the device never comes " ++
      "from message text (see the module docstring), so this event is unroutable")

variable (inventory : List String)

def routeIosxrEnvelope (envelope : EventEnvelope) (device : Option String) : RoutingDecision :=
  let sourceKind := envelope.sourceKind
  let rawEvent := some envelope.rawEvent
  match envelope.mnemonic, envelope.text with
  | some mnemonic, some text =>
    let matched := some mnemonic
    match mnemonicFlowTable.lookup mnemonic with
    | none =>
      { routable := false, sourceKind, matched, rawEvent
        reason := "mnemonic " ++ pyRepr mnemonic ++ " is not in MNEMONIC_FLOW_TABLE — " ++
          "deliberately unrouted, not unrecognised" }
    | some (flow, extract) =>
      let transition := transitionFor mnemonic text
      match validatedDevice inventory (device.map Value.str) with
      | .error problem =>
        { routable := false, sourceKind, matched, flow := some flow, reason := problem
          transition, rawEvent }
      | .ok resolved =>
        match extract text with
        | none =>
          { routable := false, sourceKind, matched, flow := some flow, device := some resolved
            transition, rawEvent
            reason := "no valid subject could be extracted from the message text " ++
              "(a subject that does not parse is not a subject)" }
        | some subject =>
          if transition = some "up" then
            { routable := false, sourceKind, matched, flow := some flow, device := some resolved
              subject := some subject, transition, rawEvent
              reason := mnemonic ++ " is a recovery (transition=up), not a fault — " ++
                "deliberately not routed for investigation (B-711: " ++
                "investigating a recovery spends the window on nothing)" }
          else if transition = some "unknown" then
            { routable := false, sourceKind, matched, flow := some flow, device := some resolved
              subject := some subject, transition, rawEvent
              reason := mnemonic ++ " has a direction concept but it could not be " ++
                "determined from this message text — refusing rather " ++
                "than guessing whether this is a fault or a recovery" }
          else
            { routable := true, sourceKind, matched, flow := some flow, device := some resolved
              subject := some subject, transition, rawEvent
              reason := mnemonic ++ " routes to the " ++ flow ++ " flow" }
  | _, _ =>
    { routable := false, sourceKind, rawEvent
      reason := "not an IOS-XR log line this fabric's parser recognises" }

def lokiEnvelope (record : Dict) : EventEnvelope where
  sourceKind := "loki"
  rawEvent := (textOnly (record.get? "raw_event")).getD ""
  mnemonic := textOnly (record.get? "mnemonic")
  text := textOnly (record.get? "text")

def routeLokiRecord (record : Dict) (device : Option String) : RoutingDecision :=
  { routeIosxrEnvelope inventory (lokiEnvelope record) device with
    ingestTimestampNs := textOnly (record.get? "ingest_timestamp_ns") }

def syslogEnvelope (u : CharClasses) (line : String) : EventEnvelope where
  sourceKind := "syslog"
  rawEvent := line
  mnemonic := (matchIosxrSyslogLine u (pyStrip line)).map SyslogLine.mnemonic
  text := (matchIosxrSyslogLine u (pyStrip line)).map SyslogLine.text

def routeSyslogLine (u : CharClasses) (line : String) (device : Option String) : RoutingDecision :=
  routeIosxrEnvelope inventory (syslogEnvelope u line) device

variable (repr : Value → String)

/-- `labels.get("device") or labels.get("instance")`. -/
def alertDevice (labels : Dict) : Option Value :=
  match labels.get? "device" with
  | some name => if name.truthy then some name else labels.get? "instance"
  | none => labels.get? "instance"

/-- `alert.get("labels")` where that is a dict, and no labels otherwise. -/
def alertLabels (alert : Dict) : Dict :=
  match alert.get? "labels" with
  | some (.dict labels) => labels
  | _ => []

/-- The loop body of `route_alertmanager`. An `alertname` that is not a text is told in the reason
only. -/
def routeAlert (alert : Value) : RoutingDecision :=
  match alert with
  | .dict alert =>
    let labels := alertLabels alert
    let alertname := labels.get? "alertname"
    let matched := textOnly alertname
    if Dict.hasText alert "status" "resolved" then
      { routable := false, sourceKind := "alertmanager", matched
        reason := "resolution event — a resolved alert must not trigger " ++
          "an investigation" }
    else
      match matched.bind (fun name => alertnameFlowTable.lookup name) with
      | none =>
        { routable := false, sourceKind := "alertmanager", matched
          reason := "alertname " ++ repr (alertname.getD .none) ++
            " is not in ALERTNAME_FLOW_TABLE" }
      | some flow =>
        match validatedDevice inventory (alertDevice labels) with
        | .error problem =>
          { routable := false, sourceKind := "alertmanager", matched, flow := some flow
            reason := problem ++ " — T-005: the alert rules must carry a " ++
              "device label; see examples/README.md" }
        | .ok device =>
          match validatedSubject (labels.get? "subject") with
          | none =>
            let raw := (labels.get? "subject").getD .none
            { routable := false, sourceKind := "alertmanager", matched, flow := some flow
              device := some device
              reason := if !raw.truthy then
                  "no subject label on the alert — rule-authoring gap, " ++
                    "same as the device label (T-005)"
                else "subject label " ++ repr raw ++ " is not a valid IPv4 or interface " ++
                  "name; refusing to route an unvalidated subject" }
          | some subject =>
            { routable := true, flow := some flow, device := some device, subject := some subject
              sourceKind := "alertmanager", matched
              reason := matched.getD "" ++ " routes to the " ++ flow ++ " flow" }
  | _ =>
    { routable := false, sourceKind := "alertmanager", reason := "alert entry is not an object" }

def routeAlertmanager (payload : Dict) : List RoutingDecision :=
  match payload.get? "alerts" with
  | some (.list (alert :: alerts)) => (alert :: alerts).map (routeAlert inventory repr)
  | _ =>
    [{ routable := false, sourceKind := "alertmanager", reason := "no alerts[] in the payload" }]

def routeEvent (u : CharClasses) (loads : String → Option Value) (raw : String)
    (device : Option String) : List RoutingDecision :=
  let text := pyStrip raw
  if text.toList.head? = some '\x7b' then
    match loads text with
    | none => [{ routable := false, reason := "unparseable JSON" }]
    | some payload =>
      match payload with
      | .dict payload =>
        if (Dict.get? payload "alerts").isSome then routeAlertmanager inventory repr payload
        else
          [{ routable := false, sourceKind := "unknown"
             reason := "JSON without an alerts[] key — not an Alertmanager webhook" }]
      | _ =>
        [{ routable := false, sourceKind := "unknown"
           reason := "JSON without an alerts[] key — not an Alertmanager webhook" }]
  else if text = "" then [{ routable := false, reason := "empty input" }]
  else [routeSyslogLine inventory u text device]

end NetTools
