import NetTools.Egress.Quoting
import NetTools.Python.Text

/-!
# The projection of evidence for a model

`model_egress.py`: what a model is shown of an envelope. Raw output is withheld, errors are rebuilt
from their command and a declared kind, and the declared free text is quoted within a budget.
-/

namespace NetTools

def withheldOutput (note : String) : Value → Value
  | .str output =>
    .dict [("withheld", .str note), ("chars", .int output.length),
      ("lines", .int (splitLines output).length)]
  | _ => .dict [("withheld", .str note), ("chars", .int 0), ("lines", .int 0)]

def withheldOutputs (note : String) (commands : Dict) : Value :=
  .dict (commands.map (fun entry => (entry.1, withheldOutput note entry.2)))

def kindOf (kinds : List (String × String)) (lowered : String) : Option (String × String) :=
  kinds.find? (fun kind => pyContains lowered kind.1)

def classifyText (kinds : List (String × String)) (lower : String → String) (text : String) :
    String :=
  let kind := ((kindOf kinds (lower text)).map Prod.snd).getD
    ("an unclassified error; its detail is withheld because a transport exception can embed " ++
      "device output")
  match pyPartition text ": " with
  | some (command, detail) =>
    if detail = "" ∨ command = "" then kind else command ++ ": " ++ kind
  | none => kind

/-- `str` of a value, with the `repr` of what is not a text. -/
def Value.pyStr (repr : Value → String) : Value → String
  | .str text => text
  | v => repr v

def classifyErrors (kinds : List (String × String)) (repr : Value → String)
    (lower : String → String) (errors : List Value) : Value :=
  .list (errors.map (fun error => .str (classifyText kinds lower (error.pyStr repr))))

def withheldEntryOf (rawTextKeys : List String) (withheldCommands : Dict → Value)
    (rebuild : List Value → Value) (key : String) : Value → Option (String × Value)
  | .dict entries =>
    if key = "commands" then some ("commands_withheld", withheldCommands entries)
    else if key ∈ rawTextKeys then some (key ++ "_withheld", .int 1)
    else none
  | .list items =>
    if key ∈ rawTextKeys then some (key ++ "_withheld", .int items.length)
    else if key = "errors" then some (key, rebuild items)
    else none
  | _ => if key ∈ rawTextKeys then some (key ++ "_withheld", .int 1) else none

/-! ### The walk over a payload -/

/-- What a walk does: the entries that it withholds, the fields whose texts it marks, and how it
marks a text within a budget. -/
structure Walker where
  withheld : String → Value → Option (String × Value)
  isFree : String → Bool
  mark : String → Int → Value × Int

namespace Walker

variable (W : Walker)

mutual

def walk : Value → Int → Value × Int
  | .dict entries, budget =>
    let (clean, left) := walkEntries entries [] budget
    (.dict clean, left)
  | .list items, budget =>
    let (clean, left) := walkItems items budget
    (.list clean, left)
  | v, budget => (v, budget)

def walkItems : List Value → Int → List Value × Int
  | [], budget => ([], budget)
  | item :: items, budget =>
    let (clean, left) := walk item budget
    let (rest, left') := walkItems items left
    (clean :: rest, left')

def walkEntries : List (String × Value) → Dict → Int → Dict × Int
  | [], clean, budget => (clean, budget)
  | (key, value) :: entries, clean, budget =>
    match W.withheld key value with
    | some (name, record) => walkEntries entries (clean.set name record) budget
    | none =>
      match value with
      | .str text =>
        if W.isFree key then
          let (marked, left) := W.mark text budget
          walkEntries entries (clean.set key marked) left
        else walkEntries entries (clean.set key (.str text)) budget
      | value =>
        let (walked, left) := walk value budget
        walkEntries entries (clean.set key walked) left

end

end Walker

namespace ModelEgress

def RAW_TEXT_KEYS : List String := ["commands", "unaccounted_lines"]

def FREE_TEXT_FIELDS : List (String × String) :=
  [("logging", "text"), ("logging", "code"), ("bgp_neighbor", "last_reset_reason"),
    ("interface", "description"), ("config_interface", "description"),
    ("logs_for_device", "text"), ("logs_for_device", "code"), ("logs_for_device", "raw_event"),
    ("sr_policy_detail", "last_error"), ("sr", "last_error")]

def DEFAULT_FREE_TEXT_BUDGET : Int := 8000

def ACTIVE_PROBES_DISABLED_PHRASE : String :=
  "active probes are disabled by configuration; set NETTOOLS_ALLOW_ACTIVE_PROBES=true to " ++
  "enable them for every caller (it already defaults on), or " ++
  "NETTOOLS_MCP_ALLOW_ACTIVE_PROBES=true to enable them for an MCP client specifically " ++
  "without changing the CLI default"

def EXTERNAL_SOURCES_DISABLED_PHRASE : String :=
  "external evidence sources are disabled by configuration (Loki/Prometheus); set " ++
  "NETTOOLS_MCP_ALLOW_EXTERNAL_SOURCES=true (or 1) -- the default -- to allow an MCP " ++
  "client to query them for historical evidence, or explicitly to false/0/no/off to keep " ++
  "this disabled"

def ERROR_KINDS : List (String × String) :=
  [("authentication", "authentication failed"),
    ("connection refused", "the device refused the connection"),
    ("timed out", "the read timed out"),
    ("read timeout", "the read timed out"),
    ("pattern not detected", "the device's prompt was not recognised before the timeout"),
    ("unable to successfully split output", "the response could not be split on the prompt"),
    ("no route to host", "the device was unreachable"),
    ("name or service not known", "the device's name did not resolve"),
    ("refusing unapproved", "the command was refused by the allowlist"),
    ("refusing unsafe rendered", "the rendered command was refused"),
    ("active probes (ping/traceroute) are disabled", ACTIVE_PROBES_DISABLED_PHRASE),
    ("active probes are disabled", ACTIVE_PROBES_DISABLED_PHRASE),
    ("no such template", "no such template for this platform"),
    ("required environment variable", "a credential is not configured"),
    ("is not in the lab inventory", "the device is not in the inventory"),
    ("tcp connection to device failed",
      "the device did not answer a TCP connection (unreachable, filtered, or wrong port)"),
    ("ssh negotiation", "the SSH negotiation failed before login"),
    ("connection reset", "the device reset the connection"),
    ("unable to connect", "the connection could not be opened"),
    ("host key", "the device's SSH host key was rejected"),
    ("must not be empty", "the parameter was refused: it must not be empty"),
    ("exceeds the maximum length", "the parameter was refused: too long"),
    ("non-ascii characters are not allowed", "the parameter was refused: non-ASCII characters"),
    ("whitespace is not allowed", "the parameter was refused: whitespace is not allowed"),
    ("contains a control character", "the parameter was refused: control characters"),
    ("contains a forbidden character", "the parameter was refused: a forbidden character"),
    ("not a valid ipv4 address", "the parameter was refused: not a valid IPv4 address"),
    ("not a valid ipv4 prefix", "the parameter was refused: not a valid IPv4 prefix"),
    ("not a valid interface name", "the parameter was refused: not a valid interface name"),
    ("not a valid policy id",
      "the parameter was refused: not a valid policy id (expected colour:endpoint)"),
    ("must be between", "the parameter was refused: out of range"),
    ("expected a string", "the parameter was refused: wrong type"),
    ("unknown intent",
      "the intent was not recognised; valid: facts, interfaces, bgp, lldp, isis, sr"),
    ("unknown kind",
      "the kind was not recognised; valid: route, bgp_neighbor, interface, logging " ++
      "(probe_lab: ping, traceroute)"),
    ("unknown mode", "the mode was not recognised; valid: latest_diff, golden_diff, flaps"),
    ("unknown object type",
      "the flow was not recognised; implemented: bgp_session, interface, isis_adjacency, " ++
      "ldp_session"),
    ("unknown check",
      "the check was not recognised; valid: facts, interfaces, bgp, lldp, isis, sr"),
    ("unknown loki query", "the query name was not recognised; valid: logs_for_device"),
    ("expected an integer", "the parameter was refused: wrong type (expected an integer)"),
    ("loki returned http status", "the log store returned a non-success HTTP status"),
    ("loki response was not valid json", "the log store's response could not be parsed as JSON"),
    ("loki query did not return a success status",
      "the log store rejected the query or reported an internal error"),
    ("loki response was not the expected",
      "the log store's response was not in the expected shape"),
    ("built selector failed the post-build shape check",
      "an internal query-building check failed; refusing to query the metrics/log store"),
    ("parameter mismatch", "the parameter set was refused: missing or unexpected parameters"),
    ("unknown prometheus query",
      "the query name was not recognised; valid: device_uptime_history, " ++
      "interface_rate_history, isis_adjacency_history, ldp_session_history"),
    ("is not an allowlisted counter", "the parameter was refused: not an allowlisted counter"),
    ("would return approximately",
      "the parameter was refused: the requested window/step would exceed the sample budget"),
    ("prometheus returned http status", "the metrics store returned a non-success HTTP status"),
    ("prometheus response was not valid json",
      "the metrics store's response could not be parsed as JSON"),
    ("prometheus query did not return a success status",
      "the metrics store rejected the query or reported an internal error"),
    ("prometheus response was not the expected",
      "the metrics store's response was not in the expected shape"),
    ("unknown netbox query",
      "the query name was not recognised; valid: cable_topology, device_inventory"),
    ("netbox returned http status", "the inventory store returned a non-success HTTP status"),
    ("netbox response was not valid json",
      "the inventory store's response could not be parsed as JSON"),
    ("netbox response was not the expected",
      "the inventory store's response was not in the expected shape"),
    ("netbox request failed", "the inventory store could not be reached"),
    ("unknown neo4j query", "the query name was not recognised; valid: topology"),
    ("neo4j authentication failed", "the graph store rejected the credentials"),
    ("neo4j service unavailable", "the graph store could not be reached"),
    ("neo4j request failed", "the graph store read failed"),
    ("external evidence sources are disabled", EXTERNAL_SOURCES_DISABLED_PHRASE)]

def withheldCommands (commands : Dict) : Value :=
  withheldOutputs "raw device text is not sent to a model (invariant 4, B-467/B-470)" commands

variable (repr : Value → String) (lower : String → String)

/-- `_classify_errors`. -/
def rebuildErrors (errors : List Value) : Value := classifyErrors ERROR_KINDS repr lower errors

def withheldEntry (key : String) (value : Value) : Option (String × Value) :=
  withheldEntryOf RAW_TEXT_KEYS withheldCommands (rebuildErrors repr lower) key value

def quoteOrWithhold (text : String) (budget : Int) : Value × Int :=
  if budget ≤ 0 then
    (.dict [("withheld", .str "free-text budget exhausted"), ("chars", .int text.length)], budget)
  else (.str (quoteDeviceText text), budget - text.length)

/-- `(context, key) in FREE_TEXT_FIELDS`, for a context that is known. -/
def isFreeText (context : Option String) (key : String) : Bool :=
  context.any (fun c => (c, key) ∈ FREE_TEXT_FIELDS)

def walker (context : Option String) : Walker :=
  ⟨withheldEntry repr lower, isFreeText context, quoteOrWithhold⟩

def project (context : Option String) (value : Value) (budget : Int) : Value × Int :=
  (walker repr lower context).walk value budget

def envelopeContext : Value → Option String
  | .dict envelope =>
    match Dict.get? envelope "data" with
    | some (.dict data) =>
      match Dict.get? data "intent" with
      | some (.str intent) => some intent
      | some .none | none =>
        match Dict.get? data "template" with
        | some (.str template) => some template
        | _ => none
      | _ => none
    | _ => none
  | _ => none

def projectEnvelope (envelope : Value) (freeTextBudget : Option Int) : Value :=
  (project repr lower (envelopeContext envelope) envelope
    (freeTextBudget.getD DEFAULT_FREE_TEXT_BUDGET)).1

def projectEvidence (evidence : Dict) (freeTextBudget : Option Int) : Dict :=
  evidence.map fun entry =>
    match entry.2 with
    | .dict envelope => (entry.1, projectEnvelope repr lower (.dict envelope) freeTextBudget)
    | value => (entry.1, value)

end ModelEgress

end NetTools
