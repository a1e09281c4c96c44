import NetTools.Grounding.Results
import NetTools.Parsing.Accounting

/-!
# Tables and facts

The parsers of `parsers.py` for the device facts and for the outputs that hold a table: interfaces,
BGP, LLDP and IS-IS. Every parser hands its claims to the line accounting.
-/

namespace NetTools

namespace Parsing

open Pattern SegmentRouting

/-- How Python reads numbers: `none` where `int` raises, and `int` of a match of `\d+`. -/
structure Numbers where
  int? : String → Option Int
  ofDigits : String → Int
  /-- `str.isdigit`. -/
  isDigits : String → Bool

def Numbers.int (numbers : Numbers) (text : String) : Except ParseFailure Int :=
  match numbers.int? text with
  | some n => .ok n
  | none => .error .valueError

/-- `text.rsplit(" ", 1)[1]`, of a text with a space. -/
def afterLastSpace (text : String) : String :=
  String.ofList (text.toList.reverse.takeWhile (· ≠ ' ')).reverse

/-- `next(iter(outputs.values()), "")`. -/
def firstOutput (outputs : List String) : String := outputs.headD ""

def setDefault (d : Dict) (key : String) (value : Value) : Dict :=
  if (d.get? key).isSome then d else d.set key value

def isDashes (stripped : String) : Bool := decide (stripped ≠ "") && stripped.toList.all (· = '-')

def dropDashes : List String → List String
  | [] => []
  | line :: lines => if isDashes (pyStrip line) then lines else line :: lines

def afterHeader (isHeader : String → Bool) : List String → List String
  | [] => []
  | line :: lines => if isHeader line then dropDashes lines else afterHeader isHeader lines

def belowHeader (lines : List String) (readings : List Reading) : List Reading :=
  List.replicate (lines.length - readings.length) .passed ++ readings

variable (u : CharClasses) (numbers : Numbers)

/-! ### Patterns -/

/-- `.+`. -/
def anything : Part := .run (· ≠ '\n') 1 none

def number : Part := digits u 1 none

def titles (names : List String) : List Part := (names.map litPart).intersperse spaces ++ [.stop]

def buildField (name : String) (value : Part) : List Part :=
  [litPart name, spaces, litPart ":", spaces, value, .stop]

def XR_VERSION : List Part :=
  [litPart "Cisco IOS XR Software, Version ", .group "version" [words],
    .opt [litPart " ", .group "flavor" [words]]]

def XR_UPTIME : List Part :=
  [.group "host" [words], litPart " uptime is ", .group "uptime" [anything], .stop]

def XR_HOSTNAME : List Part := [litPart "hostname ", .group "hostname" [words]]

def FACTS_IGNORES : List IgnoreRule :=
  [{ pattern := [litPart "Copyright (c) ", digits u 4 (some 4), litPart "-", digits u 4 (some 4),
      litPart " by Cisco Systems, Inc.", .stop] },
    { pattern := fixedLine "Build Information:" },
    { pattern := buildField "Built By" words },
    { pattern := buildField "Built On" anything },
    { pattern := buildField "Build Host" words },
    { pattern := buildField "Workspace" words },
    { pattern := buildField "Version" words },
    { pattern := buildField "Label" words },
    { pattern := fixedLine "cisco XRd Control Plane" },
    { pattern := fixedLine "XRd Control Plane Container" }]

def INTERFACES_IGNORES : List IgnoreRule :=
  [{ pattern := titles ["Intf", "Intf", "LineP", "Encap", "MTU", "BW"] },
    { pattern := titles ["Name", "State", "State", "Type", "(byte)", "(Kbps)"] },
    { pattern := [.run (· = '-') 1 none, .stop] }]

def XR_BGP_META : List Part :=
  [litPart "BGP router identifier ", .group "router_id" [words], litPart ", local AS number ",
    .group "local_as" [number u]]

def XR_BGP_INACTIVE : List Part :=
  [litPart "% BGP instance '", .group "instance" [.run (· ≠ '\'') 0 none],
    litPart "' not active"]

def XR_BGP_TABLE_STATE : List Part :=
  [litPart "BGP table state: ", .group "table_state" [words], .stop]

def bgpIgnores (tableId : List Part) : List IgnoreRule :=
  [{ pattern := [litPart "BGP generic scan interval ", number u, litPart " secs", .stop] },
    { pattern := fixedLine "Non-stop routing is enabled" },
    { pattern := tableId },
    { pattern := fixedLine "BGP table nexthop route policy:" },
    { pattern := valueLine "BGP main routing table version " (number u) },
    { pattern := [litPart "BGP NSR Initial initsync version ", number u, litPart " (", words,
      litPart ")", .stop] },
    { pattern := valueLine "BGP NSR/ISSU Sync-Group versions " words },
    { pattern := [litPart "BGP scan interval ", number u, litPart " secs", .stop] },
    { pattern := [litPart "BGP is operating in ", words, litPart " mode.", .stop] },
    { pattern := titles ["Process", "RcvTblVer", "bRIB/RIB", "LabelVer", "ImportVer", "SendTblVer",
      "StandbyVer"] },
    { pattern := litPart "Speaker" :: (List.replicate 6 [spaces, number u]).flatten ++ [.stop] },
    { pattern := titles ["Neighbor", "Spk", "AS", "MsgRcvd", "MsgSent", "TblVer", "InQ", "OutQ",
      "Up/Down", "St/PfxRcd"] }]

def BGP_IGNORES : List IgnoreRule :=
  bgpIgnores u
    [litPart "Table ID: ", words, spaces, litPart "RD version: ", number u, .stop]

def BGP_VPNV4_IGNORES : List IgnoreRule := bgpIgnores u (valueLine "Table ID: " words)

def LLDP_IGNORES : List IgnoreRule :=
  [{ pattern := fixedLine "Capability codes:" },
    { pattern :=
        fixedLine "(R) Router, (B) Bridge, (T) Telephone, (C) DOCSIS Cable Device" },
    { pattern := fixedLine "(W) WLAN Access Point, (P) Repeater, (S) Station, (O) Other" },
    { pattern := titles ["Device", "ID", "Local", "Intf", "Hold-time", "Capability", "Port",
      "ID"] }]

def XR_ISIS_INSTANCE : List Part :=
  [litPart "IS-IS ", .group "instance" [words], litPart " neighbors:"]

def XR_ISIS_TOTAL : List Part :=
  [litPart "Total neighbor count: ", .group "count" [number u]]

def ISIS_IGNORES : List IgnoreRule :=
  [{ pattern := titles ["System", "Id", "Interface", "SNPA", "State", "Holdtime", "Type",
    "IETF-NSF"] }]

def factsStep (fields : Dict) (line : String) : Except ParseFailure (Step Dict) :=
  let stripped := pyStrip line
  match matchStart XR_HOSTNAME stripped with
  | some found =>
    .ok { reading := .value, state := fields.set "hostname" (.str (found.text "hostname")) }
  | none =>
    match matchStart XR_VERSION stripped with
    | some found =>
      let fields := fields.set "version" (.str (found.text "version"))
      .ok { reading := .value
            state := match found.text? "flavor" with
              | some flavor => fields.set "flavor" (.str flavor)
              | none => fields }
    | none =>
      match matchStart XR_UPTIME stripped with
      | some found =>
        .ok { reading := .value
              state := (setDefault fields "hostname" (.str (found.text "host"))).set "uptime"
                (.str (found.text "uptime")) }
      | none =>
        if pyStartsWith stripped "cisco " && pyContains stripped "processor" then
          .ok { reading := .value, state := fields.set "hardware" (.str stripped) }
        else .ok { reading := .passed, state := fields }

def parseXrFacts (outputs : List String) : Except ParseFailure Extracted := do
  let (readings, fields) ← walk factsStep [] (outputs.flatMap nonblankLines)
  if fields = [] then throw (.parseError "no hostname, version, or uptime found")
  return { raw := "\n".intercalate outputs, fields, walks := [readings] }

structure Rows where
  records : List Dict := []
  unparsedRows : Nat := 0

def rowStep (width : Nat) (record : List String → Except ParseFailure Dict) (rows : Rows)
    (line : String) : Except ParseFailure (Step Rows) := do
  let fields := Grounding.words (pyStrip line)
  if fields.length ≠ width then
    return { reading := .value, state := { rows with unparsedRows := rows.unparsedRows + 1 } }
  else
    let row ← record fields
    return { reading := .value, state := { rows with records := rows.records ++ [row] } }

def columns (names : List String) (fields : List String) : Dict := names.zip (fields.map .str)

/-- `set(line.strip()) == {"-"}`. -/
def isInterfacesHeader (line : String) : Bool := isDashes (pyStrip line)

def interfacesStep : Rows → String → Except ParseFailure (Step Rows) :=
  rowStep 6 (fun fields => .ok (columns
    ["interface", "admin_state", "line_protocol", "encapsulation", "mtu", "bandwidth_kbps"] fields))

def parseXrInterfaces (outputs : List String) : Except ParseFailure Extracted := do
  let text := firstOutput outputs
  let lines := nonblankLines text
  let (readings, rows) ← walk interfacesStep {} (afterHeader isInterfacesHeader lines)
  if rows.records = [] then throw (.parseError "no interface rows found")
  return { raw := text
           fields := [("interface_count", .int rows.records.length)]
           records := rows.records
           walks := [belowHeader lines readings]
           unparsedRows := rows.unparsedRows }

/-! ### BGP -/

def bgpMetaStep (fields : Dict) (line : String) : Except ParseFailure (Step Dict) :=
  let stripped := pyStrip line
  match matchStart (XR_BGP_META u) stripped with
  | some found =>
    .ok { reading := .value
          state := (fields.set "router_id" (.str (found.text "router_id"))).set "local_as"
            (.str (found.text "local_as")) }
  | none =>
    match matchStart XR_BGP_TABLE_STATE stripped with
    | some found =>
      .ok { reading := .value
            state := fields.set "table_state" (.str (found.text "table_state")) }
    | none =>
      match matchStart XR_BGP_INACTIVE stripped with
      | some found =>
        .ok { reading := .value
              state := (fields.set "active" (.bool false)).set "instance"
                (.str (found.text "instance"))
              stop := true }
      | none => .ok { reading := .passed, state := fields }

def splitStatePfxRcd (text : String) : Except ParseFailure Dict := do
  let text := pyStrip text
  if numbers.isDigits text then
    let received ← numbers.int text
    return [("session_state", .str "Established"), ("prefixes_received", .int received)]
  else return [("session_state", .str text)]

def bgpRecord (afiSafi : String) (fields : List String) : Except ParseFailure Dict := do
  let split ← splitStatePfxRcd numbers (fields.getD 9 "")
  return columns ["neighbor", "spk", "remote_as", "msg_rcvd", "msg_sent", "table_version", "in_q",
    "out_q", "up_down"] (fields.take 9) ++ [("afi_safi", .str afiSafi)] ++ split

def isBgpHeader (line : String) : Bool := pyStartsWith (pyStrip line) "Neighbor "

def parseBgpSummary (afiSafi : String) (outputs : List String) : Except ParseFailure Extracted := do
  let text := firstOutput outputs
  let lines := nonblankLines text
  let (metaReadings, fields) ← walk (bgpMetaStep u) [] lines
  let (readings, rows) ← walk (rowStep 10 (bgpRecord numbers afiSafi)) {}
    (afterHeader isBgpHeader lines)
  if fields = [] ∧ rows.records = [] then
    throw (.parseError "no BGP router identifier and no neighbour rows found")
  return { raw := text
           fields := (fields.set "neighbor_count" (.int rows.records.length)).set "afi_safi"
             (.str afiSafi)
           records := rows.records
           walks := [metaReadings, belowHeader lines readings]
           unparsedRows := rows.unparsedRows }

def AFI_SAFI_IPV4_UNICAST : String := "ipv4 unicast"

def AFI_SAFI_VPNV4_UNICAST : String := "vpnv4 unicast"

def parseXrBgp : List String → Except ParseFailure Extracted :=
  parseBgpSummary u numbers AFI_SAFI_IPV4_UNICAST

def parseXrBgpVpnv4 : List String → Except ParseFailure Extracted :=
  parseBgpSummary u numbers AFI_SAFI_VPNV4_UNICAST

def isLldpHeader (line : String) : Bool := pyStartsWith (pyStrip line) "Device ID"

def lldpRecord (fields : List String) : Except ParseFailure Dict :=
  .ok (columns ["local_interface", "neighbor", "hold_time", "capability", "neighbor_interface"]
    [fields.getD 1 "", fields.getD 0 "", fields.getD 2 "", fields.getD 3 "", fields.getD 4 ""])

def lldpStep (state : Rows × Option Int) (line : String) :
    Except ParseFailure (Step (Rows × Option Int)) := do
  let stripped := pyStrip line
  if pyStartsWith stripped "Total entries" then
    let reported ← numbers.int (afterLastSpace stripped)
    return { reading := .value, state := (state.1, some reported), stop := true }
  else
    let next ← rowStep 5 lldpRecord state.1 line
    return { reading := next.reading, state := (next.state, state.2) }

def parseXrLldp (outputs : List String) : Except ParseFailure Extracted := do
  let text := firstOutput outputs
  let lines := nonblankLines text
  if !lines.any isLldpHeader then throw (.parseError "no LLDP neighbor table header found")
  let (readings, rows, reported) ← walk (lldpStep numbers) ({}, none)
    (afterHeader isLldpHeader lines)
  return { raw := text
           fields := [("neighbor_count", .int rows.records.length),
             ("reported_neighbor_count", (reported.map Value.int).getD .none)]
           records := rows.records
           walks := [belowHeader lines readings]
           unparsedRows := rows.unparsedRows }

def isisMetaStep (fields : Dict) (line : String) : Except ParseFailure (Step Dict) :=
  let stripped := pyStrip line
  match matchStart XR_ISIS_INSTANCE stripped with
  | some found =>
    .ok { reading := .value, state := fields.set "instance" (.str (found.text "instance")) }
  | none =>
    match matchStart (XR_ISIS_TOTAL u) stripped with
    | some found =>
      .ok { reading := .value
            state := fields.set "reported_neighbor_count" (.str (found.text "count")) }
    | none => .ok { reading := .passed, state := fields }

def isIsisHeader (line : String) : Bool := pyStartsWith (pyStrip line) "System Id"

def isIsisTotal (line : String) : Bool := pyStartsWith (pyStrip line) "Total neighbor count"

def isisStep (rows : Rows) (line : String) : Except ParseFailure (Step Rows) :=
  if isIsisTotal line then .ok { reading := .passed, state := rows, stop := true }
  else
    rowStep 7 (fun fields => .ok (columns
      ["system_id", "interface", "snpa", "state", "holdtime", "type", "ietf_nsf"] fields)) rows line

def parseXrIsis (outputs : List String) : Except ParseFailure Extracted := do
  let text := firstOutput outputs
  let lines := nonblankLines text
  let (metaReadings, fields) ← walk (isisMetaStep u) [] lines
  if !lines.any isIsisHeader then throw (.parseError "no IS-IS neighbor table header found")
  let (readings, rows) ← walk isisStep {} (afterHeader isIsisHeader lines)
  return { raw := text
           fields := fields.set "neighbor_count" (.int rows.records.length)
           records := rows.records
           walks := [metaReadings, belowHeader lines readings]
           unparsedRows := rows.unparsedRows }

end Parsing

end NetTools
