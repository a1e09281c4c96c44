import NetTools.Egress.Projector

/-!
# The boundary of the tool server

`boundary.py`: every result of a tool is rebuilt before it leaves. The boundary has its own table of
error kinds, and knows free text by the name of its field alone.
-/

namespace NetTools

namespace Boundary

def RAW_TEXT_KEYS : List String := ["commands", "unaccounted_lines"]

def FREE_TEXT_FIELD_NAMES : List String := ModelEgress.FREE_TEXT_FIELDS.map Prod.snd

def ACTIVE_PROBES_DISABLED_PHRASE : String :=
  "active probes are disabled by configuration; set NETTOOLS_ALLOW_ACTIVE_PROBES=true to " ++
  "enable them for every caller (it already defaults on), or " ++
  "NETTOOLS_MCP_ALLOW_ACTIVE_PROBES=true to enable them for an MCP client specifically " ++
  "without changing the CLI default"

def EXTERNAL_SOURCES_DISABLED_PHRASE : String :=
  "external evidence sources are disabled by configuration (Loki/Prometheus); set " ++
  "NETTOOLS_MCP_ALLOW_EXTERNAL_SOURCES=true (or 1) -- the default -- to allow an MCP " ++
  "client to query them for historical evidence, or explicitly to false/0/no/off to keep " ++
  "this disabled"

def ERROR_KINDS : List (String × String) :=
  [("authentication", "authentication failed"),
    ("connection refused", "the device refused the connection"),
    ("timed out", "the read timed out"),
    ("read timeout", "the read timed out"),
    ("pattern not detected", "the device's prompt was not recognised before the timeout"),
    ("unable to successfully split output", "the response could not be split on the prompt"),
    ("no route to host", "the device was unreachable"),
    ("name or service not known", "the device's name did not resolve"),
    ("refusing unapproved", "the command was refused by the allowlist"),
    ("refusing unsafe rendered", "the rendered command was refused"),
    ("active probes (ping/traceroute) are disabled", ACTIVE_PROBES_DISABLED_PHRASE),
    ("active probes are disabled", ACTIVE_PROBES_DISABLED_PHRASE),
    ("no such template", "no such template for this platform"),
    ("required environment variable", "a credential is not configured"),
    ("is not in the lab inventory", "the device is not in the inventory"),
    ("tcp connection to device failed",
      "the device did not answer a TCP connection (unreachable, filtered, or wrong port)"),
    ("ssh negotiation", "the SSH negotiation failed before login"),
    ("connection reset", "the device reset the connection"),
    ("unable to connect", "the connection could not be opened"),
    ("host key", "the device's SSH host key was rejected"),
    ("must not be empty", "the parameter was refused: it must not be empty"),
    ("exceeds the maximum length", "the parameter was refused: too long"),
    ("non-ascii characters are not allowed", "the parameter was refused: non-ASCII characters"),
    ("whitespace is not allowed", "the parameter was refused: whitespace is not allowed"),
    ("contains a control character", "the parameter was refused: control characters"),
    ("contains a forbidden character", "the parameter was refused: a forbidden character"),
    ("not a valid ipv4 address", "the parameter was refused: not a valid IPv4 address"),
    ("not a valid ipv4 prefix", "the parameter was refused: not a valid IPv4 prefix"),
    ("not a valid interface name", "the parameter was refused: not a valid interface name"),
    ("not a valid policy id",
      "the parameter was refused: not a valid policy id (expected colour:endpoint)"),
    ("must be between", "the parameter was refused: out of range"),
    ("expected a string", "the parameter was refused: wrong type"),
    ("unknown intent",
      "the intent was not recognised; valid: facts, interfaces, bgp, lldp, isis, sr"),
    ("unknown kind",
      "the kind was not recognised; valid: route, bgp_neighbor, interface, logging " ++
      "(probe_lab: ping, traceroute)"),
    ("unknown mode", "the mode was not recognised; valid: latest_diff, golden_diff, flaps"),
    ("unknown object type",
      "the flow was not recognised; implemented: bgp_session, interface, isis_adjacency, " ++
      "ldp_session"),
    ("unknown check",
      "the check was not recognised; valid: facts, interfaces, bgp, lldp, isis, sr"),
    ("unknown loki query", "the query name was not recognised; valid: logs_for_device"),
    ("expected an integer", "the parameter was refused: wrong type (expected an integer)"),
    ("loki returned http status", "the log store returned a non-success HTTP status"),
    ("loki response was not valid json", "the log store's response could not be parsed as JSON"),
    ("loki query did not return a success status",
      "the log store rejected the query or reported an internal error"),
    ("loki response was not the expected",
      "the log store's response was not in the expected shape"),
    ("built selector failed the post-build shape check",
      "an internal query-building check failed; refusing to query the metrics/log store"),
    ("parameter mismatch", "the parameter set was refused: missing or unexpected parameters"),
    ("unknown prometheus query",
      "the query name was not recognised; valid: device_uptime_history, " ++
      "interface_rate_history, isis_adjacency_history, ldp_session_history"),
    ("is not an allowlisted counter", "the parameter was refused: not an allowlisted counter"),
    ("would return approximately",
      "the parameter was refused: the requested window/step would exceed the sample budget"),
    ("prometheus returned http status", "the metrics store returned a non-success HTTP status"),
    ("prometheus response was not valid json",
      "the metrics store's response could not be parsed as JSON"),
    ("prometheus query did not return a success status",
      "the metrics store rejected the query or reported an internal error"),
    ("prometheus response was not the expected",
      "the metrics store's response was not in the expected shape"),
    ("unknown netbox query",
      "the query name was not recognised; valid: cable_topology, device_inventory"),
    ("netbox returned http status", "the inventory store returned a non-success HTTP status"),
    ("netbox response was not valid json",
      "the inventory store's response could not be parsed as JSON"),
    ("netbox response was not the expected",
      "the inventory store's response was not in the expected shape"),
    ("netbox request failed", "the inventory store could not be reached"),
    ("unknown neo4j query", "the query name was not recognised; valid: topology"),
    ("neo4j authentication failed", "the graph store rejected the credentials"),
    ("neo4j service unavailable", "the graph store could not be reached"),
    ("neo4j request failed", "the graph store read failed"),
    ("external evidence sources are disabled", EXTERNAL_SOURCES_DISABLED_PHRASE)]

def withheldCommands (commands : Dict) : Value :=
  withheldOutputs "raw device text is not sent to a model (invariant 4)" commands

variable (repr : Value → String) (lower : String → String)

/-- `_classify_errors`. -/
def rebuildErrors (errors : List Value) : Value := classifyErrors ERROR_KINDS repr lower errors

def withheldEntry (key : String) (value : Value) : Option (String × Value) :=
  withheldEntryOf RAW_TEXT_KEYS withheldCommands (rebuildErrors repr lower) key value

def isFreeTextName (key : String) : Bool := decide (key ∈ FREE_TEXT_FIELD_NAMES)

def walker : Walker :=
  ⟨withheldEntry repr lower, isFreeTextName, fun text budget => (.str (quoteDeviceText text), budget)⟩

def sanitize (payload : Value) : Value := ((walker repr lower).walk payload 0).1

theorem errorKinds_eq : ERROR_KINDS = ModelEgress.ERROR_KINDS := rfl

end Boundary

end NetTools
