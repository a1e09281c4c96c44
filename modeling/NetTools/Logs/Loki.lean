import NetTools.Investigation.Payload
import NetTools.Routing.Syslog

/-!
# Log queries against Loki

`logs_loki.py`: the table of named queries, the transport, and the records made of a response. The
inventory maps the names of the devices to their management addresses.
-/

namespace NetTools

namespace LogsLoki

inductive Failure where
  | lokiQueryError (message : String)
  | lokiTransportError (message : String)
  | escaping (kind message : String)
deriving DecidableEq, Repr

/-- The loaded inventory, or the text of its `InventoryError`. -/
abbrev Inventory := Except String (List (String × String))

/-! ### Named queries -/

inductive Slot where
  | device
  | boundedInt (minimum maximum : Int)
  | mnemonic

def MNEMONIC_FILTERS : List String := ["ROUTING-BGP-5-ADJCHANGE"]

/-- `_DeviceSlot.parse`. -/
def parseDevice (inventory : Inventory) (name : String) : Value → Except Failure Value
  | .str value =>
    if value = "" then .error (.lokiQueryError (name ++ ": must not be empty"))
    else
      match inventory with
      | .error message => .error (.escaping "InventoryError" message)
      | .ok devices =>
        match devices.lookup value with
        | none => .error (.lokiQueryError
            (name ++ ": " ++ pyRepr value ++ " is not in the lab inventory"))
        | some mgmtIp =>
          match Ipaddress.IPv4Address.ofText mgmtIp with
          | some address => .ok (.str address.text)
          | none => .error (.lokiQueryError (name ++ ": inventory mgmt_ip for " ++ pyRepr value ++
              " is not a valid IPv4 address"))
  | value =>
    .error (.lokiQueryError (name ++ ": expected a string, got " ++ value.typeName))

/-- `_BoundedIntSlot.parse`. -/
def parseBoundedInt (minimum maximum : Int) (name : String) : Value → Except Failure Value
  | .int value =>
    if minimum ≤ value ∧ value ≤ maximum then .ok (.int value)
    else .error (.lokiQueryError (name ++ ": must be between " ++ toString minimum ++ " and " ++
      toString maximum ++ ", got " ++ toString value))
  | value =>
    .error (.lokiQueryError (name ++ ": expected an integer, got " ++ value.typeName))

/-- `_MnemonicSlot.parse`. -/
def parseMnemonic (name : String) : Value → Except Failure Value
  | .str value =>
    if value ∈ MNEMONIC_FILTERS then .ok (.str value)
    else .error (.lokiQueryError (name ++ ": is not in the declared mnemonic filter set"))
  | value =>
    .error (.lokiQueryError (name ++ ": expected a string, got " ++ value.typeName))

def Slot.parse (inventory : Inventory) : Slot → String → Value → Except Failure Value
  | .device => parseDevice inventory
  | .boundedInt minimum maximum => parseBoundedInt minimum maximum
  | .mnemonic => parseMnemonic

structure LokiQuery where
  name : String
  params : List (String × Slot)
  buildSelector : Dict → String
  selectorShape : List Char → Bool

def textAt (resolved : Dict) (name : String) : String :=
  match resolved.get? name with
  | some (.str text) => text
  | _ => ""

def intAt (resolved : Dict) (name : String) : Int :=
  match resolved.get? name with
  | some (.int value) => value
  | _ => 0

def buildLogsForDeviceSelector (resolved : Dict) : String :=
  "\x7bsource_ip=\"" ++ textAt resolved "device" ++ "\"\x7d"

def buildLogsForDeviceMnemonicSelector (resolved : Dict) : String :=
  buildLogsForDeviceSelector resolved ++ " |= \"%" ++ textAt resolved "mnemonic" ++ " :\""

/-- `[0-9]{1,3}`, before a character that is no digit. -/
def skipOctet (cs : List Char) : Option (List Char) :=
  (takeSome Char.isDigit cs).bind
    (fun parts => if parts.1.length ≤ 3 then some parts.2 else none)

def skipSelector (cs : List Char) : Option (List Char) := do
  let cs ← skipText "\x7bsource_ip=\"".toList cs
  let cs ← skipOctet cs
  let cs ← skipText ['.'] cs
  let cs ← skipOctet cs
  let cs ← skipText ['.'] cs
  let cs ← skipOctet cs
  let cs ← skipText ['.'] cs
  let cs ← skipOctet cs
  skipText "\"\x7d".toList cs

/-- `_SELECTOR_SHAPE.fullmatch`. -/
def SELECTOR_SHAPE (selector : List Char) : Bool := decide (skipSelector selector = some [])

/-- `_MNEMONIC_QUERY_SHAPE.fullmatch`. -/
def MNEMONIC_QUERY_SHAPE (selector : List Char) : Bool :=
  decide (skipSelector selector = some " |= \"%ROUTING-BGP-5-ADJCHANGE :\"".toList)

def logsForDevice : LokiQuery where
  name := "logs_for_device"
  params := [("device", .device), ("since_seconds", .boundedInt 1 (7 * 24 * 3600)),
    ("limit", .boundedInt 1 1000)]
  buildSelector := buildLogsForDeviceSelector
  selectorShape := SELECTOR_SHAPE

def logsForDeviceMnemonic : LokiQuery where
  name := "logs_for_device_mnemonic"
  params := [("device", .device), ("mnemonic", .mnemonic),
    ("since_seconds", .boundedInt 1 (7 * 24 * 3600)), ("limit", .boundedInt 1 1000)]
  buildSelector := buildLogsForDeviceMnemonicSelector
  selectorShape := MNEMONIC_QUERY_SHAPE

def LOKI_QUERIES : List LokiQuery := [logsForDevice, logsForDeviceMnemonic]

def knownLokiQueries : List String := sortedNames (LOKI_QUERIES.map LokiQuery.name)

/-- What `json.loads` makes of a body. -/
inductive Body where
  | json (value : Value)
  | notJson
  | tooDeep

/-- What the HTTP exchange comes to: `Request` refuses the url, `urlopen` or `read` raises an error
that is caught or one that is not, or the body of a response is read. -/
inductive Delivery where
  | notRequested (message : String)
  | failed (message : String)
  | broken (kind message : String)
  | answered (status : Int) (body : Body)

def readBody : Body → Except Failure Value
  | .notJson => .error (.lokiTransportError "loki response was not valid json")
  | .tooDeep => .error (.escaping "RecursionError" "maximum recursion depth exceeded")
  | .json (.dict parsed) =>
    match Dict.get? parsed "status" with
    | some (.str "success") => .ok (.dict parsed)
    | _ => .error (.lokiTransportError "loki query did not return a success status")
  | .json _ => .error (.lokiTransportError "loki query did not return a success status")

def httpFetcher : Delivery → Except Failure Value
  | .notRequested message => .error (.escaping "ValueError" message)
  | .failed message => .error (.lokiTransportError ("loki request failed: " ++ message))
  | .broken kind message => .error (.escaping kind message)
  | .answered status body =>
    if 200 ≤ status ∧ status < 300 then readBody body
    else .error (.lokiTransportError ("loki returned http status " ++ toString status))

structure LokiRecord where
  rawEvent : String
  host : Option Value
  sourceIp : Option Value
  lokiSeverityLabel : Option Value
  ingestTimestampNs : String
  timestamp : String
  process : Option String
  pid : Option String
  mnemonic : String
  facility : Option String
  severity : Option String
  code : Option String
  text : String

/-- `mnemonic.rsplit("-", 2)`, where it has three parts and the middle one is a number. -/
def mnemonicParts (mnemonic : String) : Option (String × String × String) :=
  match (mnemonic.toList.splitOn '-').reverse with
  | code :: severity :: rest =>
    if rest ≠ [] ∧ severity ≠ [] ∧ severity.all Char.isDigit then
      some (String.ofList (['-'].intercalate rest.reverse), String.ofList severity,
        String.ofList code)
    else none
  | _ => none

variable (u : CharClasses)

def hostedLine (line : String) : Option SyslogLine :=
  (matchIosxrSyslogLine u line).filter (fun found => found.host.isSome)

def recordFromLine (labels : Dict) (ingestNs line : String) : LokiRecord :=
  match hostedLine u line with
  | none =>
    { rawEvent := line
      host := labels.get? "host"
      sourceIp := labels.get? "source_ip"
      lokiSeverityLabel := labels.get? "severity"
      ingestTimestampNs := ingestNs
      timestamp := ""
      process := none
      pid := none
      mnemonic := ""
      facility := none
      severity := none
      code := none
      text := line }
  | some found =>
    { rawEvent := line
      host := labels.get? "host"
      sourceIp := labels.get? "source_ip"
      lokiSeverityLabel := labels.get? "severity"
      ingestTimestampNs := ingestNs
      timestamp := found.timestamp
      process := some found.process
      pid := some found.pid
      mnemonic := found.mnemonic
      facility := (mnemonicParts found.mnemonic).map (fun parts => parts.1)
      severity := (mnemonicParts found.mnemonic).map (fun parts => parts.2.1)
      code := (mnemonicParts found.mnemonic).map (fun parts => parts.2.2)
      text := found.text }

/-- `d.get(key)` where it is a dict, or an empty one. -/
def dictAt (d : Dict) (key : String) : Dict :=
  match d.get? key with
  | some (.dict entries) => entries
  | _ => []

/-- `d.get(key)` where it is a list, or an empty one. -/
def listAt (d : Dict) (key : String) : List Value :=
  match d.get? key with
  | some (.list items) => items
  | _ => []

variable (str : Value → String)

abbrev Extracted := List LokiRecord × Nat

def extractEntry (labels : Dict) (done : Extracted) (entry : Value) : Extracted :=
  match entry with
  | .list [tsNs, .str line] =>
    let record := recordFromLine u labels (str tsNs) line
    (done.1 ++ [record], if record.mnemonic = "" then done.2 + 1 else done.2)
  | _ => done

def extractStream (done : Extracted) (stream : Value) : Extracted :=
  match stream with
  | .dict stream =>
    (listAt stream "values").foldl (extractEntry u str (dictAt stream "stream")) done
  | _ => done

/-- The `result` of a response, where it has the streams shape. -/
def streamsOf (raw : Value) : Option (List Value) :=
  match raw with
  | .dict raw =>
    match Dict.get? raw "data" with
    | some (.dict data) =>
      match Dict.get? data "result" with
      | some (.list result) => some result
      | _ => none
    | _ => none
  | _ => none

def extractRecords (raw : Value) : Except Failure Extracted :=
  match streamsOf raw with
  | none => .error (.lokiTransportError "loki response was not the expected streams shape")
  | some result => .ok (result.foldl (extractStream u str) ([], 0))

/-- The fields that `log_window.dedupe` tells records apart by. -/
def LokiRecord.key (record : LokiRecord) : String × String × String :=
  (record.timestamp, record.mnemonic, record.text)

def dedupeStep (done : List (String × String × String) × List LokiRecord) (record : LokiRecord) :
    List (String × String × String) × List LokiRecord :=
  if record.key ∈ done.1 then done else (record.key :: done.1, done.2 ++ [record])

def dedupe (records : List LokiRecord) : List LokiRecord := (records.foldl dedupeStep ([], [])).2

/-! ### Envelopes -/

/-- `parsed.meta`, with `none` for a key that is not there. -/
structure Meta where
  lines : String
  queryWindowStart : Option String := none
  queryWindowEnd : Option String := none
  sinceSeconds : Option Int := none
  limit : Option Int := none
  recordsBeforeDedup : Option Nat := none
  duplicatesRemoved : Option Int := none
  unparsedLines : Option Nat := none
  queryComplete : Bool

structure Parsed where
  records : List LokiRecord
  «meta» : Meta

structure QueryData where
  intent : String
  queryName : String
  logql : Option String := none
  parseStatus : String
  parsed : Parsed

structure Envelope where
  tool : String := "run_named_query"
  device : Option String
  status : String
  timestamp : String
  source : String := "loki"
  data : QueryData
  errors : List String

variable (now stamp : Datetime)

def errorEnvelope (queryName : String) (device : Option String) (message : String)
    (window : Meta) : Envelope where
  device := device
  status := "error"
  timestamp := stamp.isoformat
  data :=
    { intent := queryName, queryName, parseStatus := "failed"
      parsed := { records := [], «meta» := window } }
  errors := [message]

/-- The `meta` of a refusal. -/
def Meta.refused : Meta where
  lines := "0"
  queryComplete := false

def toNs (t : Datetime) : Int :=
  t.micros.tdiv 1000000 * 1000000000 + t.micros % 1000000 * 1000

/-- `request_params`. -/
structure Request where
  query : String
  start : String
  stop : String
  limit : String
  direction : String
deriving DecidableEq, Repr

def requestFor (selector : String) (resolved : Dict) : Request where
  query := selector
  start := toString (toNs (now.addSeconds (-(intAt resolved "since_seconds"))))
  stop := toString (toNs now)
  limit := toString (intAt resolved "limit")
  direction := "backward"

/-- `query.params[name].parse(name, value)` of every parameter, in the order they were given. -/
def resolve (inventory : Inventory) (query : LokiQuery) : Dict → Except Failure Dict
  | [] => .ok []
  | (name, value) :: params =>
    match query.params.lookup name with
    | none => .error (.escaping "KeyError" (pyRepr name))
    | some slot => do
      let parsed ← slot.parse inventory name value
      let resolved ← resolve inventory query params
      pure ((name, parsed) :: resolved)

def nameDifference (names others : List String) : List String :=
  sortedNames (names.filter (fun name => name ∉ others))

/-- What a call sends, and the envelope it returns or what it raises. -/
structure Run where
  sent : Option Request
  outcome : Except Failure Envelope

def successEnvelope (queryName : String) (device : Option String) (selector : String)
    (resolved : Dict) (extracted : Extracted) : Envelope where
  device := device
  status := "success"
  timestamp := stamp.isoformat
  data :=
    { intent := queryName, queryName, logql := some selector, parseStatus := "ok"
      parsed :=
        { records := dedupe extracted.1
          «meta» :=
            { lines := toString (dedupe extracted.1).length
              queryWindowStart :=
                some (now.addSeconds (-(intAt resolved "since_seconds"))).isoformat
              queryWindowEnd := some now.isoformat
              sinceSeconds := some (intAt resolved "since_seconds")
              limit := some (intAt resolved "limit")
              recordsBeforeDedup := some extracted.1.length
              duplicatesRemoved := some (extracted.1.length - (dedupe extracted.1).length)
              unparsedLines := some extracted.2
              queryComplete := true } } }
  errors := []

/-- The `meta` of a request that failed. -/
def Meta.failed (resolved : Dict) : Meta where
  lines := "0"
  queryWindowStart := some (now.addSeconds (-(intAt resolved "since_seconds"))).isoformat
  queryWindowEnd := some now.isoformat
  sinceSeconds := some (intAt resolved "since_seconds")
  limit := some (intAt resolved "limit")
  queryComplete := false

/-- The fetch and what is made of it, once the slots are resolved. `fetched` is what the fetcher
gives for the request. -/
def fetchRecords (queryName : String) (device : Option String) (selector : String)
    (resolved : Dict) (fetched : Except Failure Value) : Except Failure Envelope :=
  match fetched.bind (extractRecords u str) with
  | .ok extracted => .ok (successEnvelope now stamp queryName device selector resolved extracted)
  | .error (.lokiTransportError message) =>
    .ok (errorEnvelope stamp queryName device message (Meta.failed now resolved))
  | .error raised => .error raised

/-- `params.get("device")` where it is a text. -/
def deviceName (params : Dict) : Option String :=
  match params.get? "device" with
  | some (.str name) => some name
  | _ => none

def runNamedQuery (inventory : Inventory) (fetcher : Option (Except Failure Value))
    (delivery : Delivery) (queryName : String) (params : Dict) : Run :=
  let refuse (message : String) : Run :=
    ⟨none, .ok (errorEnvelope stamp queryName (deviceName params) message Meta.refused)⟩
  match LOKI_QUERIES.find? (fun query => query.name = queryName) with
  | none =>
    refuse ("unknown loki query " ++ pyRepr queryName ++ "; valid: " ++
      ", ".intercalate knownLokiQueries)
  | some query =>
    let declared := query.params.map Prod.fst
    let missing := nameDifference declared params.keys
    let extra := nameDifference params.keys declared
    if missing ≠ [] ∨ extra ≠ [] then
      refuse (queryName ++ ": parameter mismatch (missing=" ++ pyReprStrings missing ++
        ", unexpected=" ++ pyReprStrings extra ++ ")")
    else
      match resolve inventory query params with
      | .error (.lokiQueryError message) => refuse message
      | .error raised => ⟨none, .error raised⟩
      | .ok resolved =>
        let selector := query.buildSelector resolved
        if !query.selectorShape selector.toList then
          refuse (queryName ++ ": built selector failed the post-build shape check: " ++
            pyRepr selector)
        else
          ⟨some (requestFor now selector resolved),
            fetchRecords u str now stamp queryName (deviceName params) selector resolved
              (fetcher.getD (httpFetcher delivery))⟩

def MEASURED_SEVERITY_AVAILABLE : List Int := [2, 3, 4, 5]

def limitNote (limit : Int) : String :=
  "the query returned exactly its requested limit (" ++ toString limit ++ "); more " ++
    "matching records may exist in this window and were not retrieved"

def coverageFromLoki (parsed : Parsed) (device : String) : Coverage where
  device := device
  source := "loki"
  queryComplete := parsed.meta.queryComplete
  windowStart := parsed.meta.queryWindowStart
  windowEnd := parsed.meta.queryWindowEnd
  severityAvailable := MEASURED_SEVERITY_AVAILABLE
  recordsAvailable := none
  recordsReturned := parsed.records.length
  recordsDroppedAtSource := 0
  notes :=
    match parsed.meta.limit, parsed.meta.recordsBeforeDedup with
    | some limit, some beforeDedup =>
      if 0 < limit ∧ limit ≤ beforeDedup then [limitNote limit] else []
    | _, _ => []

end LogsLoki

end NetTools
