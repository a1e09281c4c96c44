import NetTools.Library.Gathering
import NetTools.Logs.Loki
import NetTools.Routing.Routers

/-!
# The event watcher

`event_watch.py`: the records of one device's window are collapsed by mnemonic and subject, and a
routing decision is made for each group.
-/

namespace NetTools

open LogsLoki

def LogsLoki.LokiRecord.dict (record : LokiRecord) : Dict :=
  [("raw_event", .str record.rawEvent),
    ("host", record.host.getD .none),
    ("source_ip", record.sourceIp.getD .none),
    ("loki_severity_label", record.lokiSeverityLabel.getD .none),
    ("ingest_timestamp_ns", .str record.ingestTimestampNs),
    ("timestamp", .str record.timestamp),
    ("process", .ofOption record.process),
    ("pid", .ofOption record.pid),
    ("mnemonic", .str record.mnemonic),
    ("facility", .ofOption record.facility),
    ("severity", .ofOption record.severity),
    ("code", .ofOption record.code),
    ("text", .str record.text)]

namespace EventWatch

def extractorFor (mnemonic : String) : Option (String → Option String) :=
  (mnemonicFlowTable.lookup mnemonic).map Prod.snd

abbrev GroupKey := String × Option String

/-- The group of a record, `none` where its line was not parsed. -/
def groupKey (record : LokiRecord) : Option GroupKey :=
  if record.mnemonic = "" then none
  else some (record.mnemonic,
    (extractorFor record.mnemonic).bind (fun extract => extract record.text))

def groupRecords (records : List LokiRecord) : List (GroupKey × List LokiRecord) :=
  Gathering.gather
    (records.filterMap (fun record => (groupKey record).map (fun key => (key, record))))

def applyTriggerPolicy (table : List TriggerEntry) (decision : RoutingDecision) :
    RoutingDecision :=
  match decision.matched with
  | none => decision
  | some mnemonic =>
    match triggerFor table mnemonic with
    | none =>
      { routable := false, sourceKind := "loki", matched := some mnemonic
        device := decision.device
        reason := "mnemonic " ++ pyRepr mnemonic ++ " has no trigger entry in " ++
          "mnemonics.yaml — unclassified, not cleared to trigger"
        transition := decision.transition, rawEvent := decision.rawEvent }
    | some trigger =>
      if !trigger.fires then
        { routable := false, sourceKind := "loki", matched := some mnemonic
          device := decision.device
          reason := (trigger.reason.filter (· ≠ "")).getD
            "excluded by mnemonics.yaml's trigger table"
          transition := decision.transition, rawEvent := decision.rawEvent }
      else if !decision.routable then decision
      else
        { routable := true, flow := decision.flow, device := decision.device
          subject := decision.subject, sourceKind := "loki", matched := some mnemonic
          transition := decision.transition
          reason := mnemonic ++ " routes to the " ++ decision.flow.getD "None" ++ " flow " ++
            "(cleared to trigger by mnemonics.yaml, observed via Loki)"
          rawEvent := decision.rawEvent }

variable (names : List String) (table : List TriggerEntry) (device : String)

def routeRecord (record : LokiRecord) : RoutingDecision :=
  routeLokiRecord names record.dict (some device)

def isRecovery (record : LokiRecord) : Bool :=
  decide ((routeRecord names device record).transition = some "up")

def decisionForGroup (first : LokiRecord) (others : List LokiRecord) : RoutingDecision :=
  let decisions := (first :: others).map (routeRecord names device)
  let selected := (decisions.find? (fun decision => decision.transition ≠ some "up")).getD
    (routeRecord names device first)
  applyTriggerPolicy table selected

structure LokiObservation where
  decision : RoutingDecision
  occurrenceCount : Nat
  lastSeen : Option String
  firstSeen : Option String

/-- `text or None`. -/
def textOrNone (text : String) : Option String := if text = "" then none else some text

def observe : List LokiRecord → Option LokiObservation
  | [] => none
  | first :: others => some
    { decision := decisionForGroup names table device first others
      occurrenceCount := (first :: others).length
      lastSeen := textOrNone first.timestamp
      firstSeen := textOrNone ((first :: others).getLast (List.cons_ne_nil _ _)).timestamp }

structure WatchReport where
  device : String
  status : String
  coverage : Option Coverage
  observations : List LokiObservation := []
  unparsedLines : Nat := 0
  errors : List String := []

/-- What `watch_device` raises. -/
inductive WatchFailure where
  | triggerTableInconsistency (message : String)
  | escaping (raised : Failure)

def deviceNames : Inventory → List String
  | .ok devices => devices.map Prod.fst
  | .error _ => []

def watchDevice (u : CharClasses) (str : Value → String) (now stamp : Datetime)
    (inventory : Inventory) (table : List TriggerEntry)
    (fetcher : Option (Except Failure Value)) (delivery : LogsLoki.Delivery) (device : String)
    (sinceSeconds limit : Int) : Except WatchFailure WatchReport :=
  match validateTriggerTable table with
  | some message => .error (.triggerTableInconsistency message)
  | none =>
    match (runNamedQuery u str now stamp inventory fetcher delivery "logs_for_device"
        [("device", .str device), ("since_seconds", .int sinceSeconds),
          ("limit", .int limit)]).outcome with
    | .error raised => .error (.escaping raised)
    | .ok envelope =>
      if envelope.status ≠ "success" then
        .ok { device, status := "error", coverage := none, errors := envelope.errors }
      else
        let parsed := envelope.data.parsed
        .ok
          { device
            status := "success"
            coverage := some (coverageFromLoki parsed device)
            observations := (groupRecords parsed.records).filterMap
              (fun group => observe (deviceNames inventory) table device group.2)
            unparsedLines := parsed.meta.unparsedLines.getD 0 }

end EventWatch

end NetTools
