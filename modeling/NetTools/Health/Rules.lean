import NetTools.Descent.Checks
import NetTools.Snapshots.Records

/-!
# Health of a device

The rules of `checks.py` that judge one device against its role and its baseline, and the verdict
they add up to.
-/

namespace NetTools

namespace Health

inductive Severity where
  | ok
  | info
  | warning
  | unreachable
  | critical
  deriving DecidableEq, Repr

/-- `SEVERITY_ORDER.index`. -/
def severityRank : Severity → Nat
  | .ok => 0
  | .info => 1
  | .warning => 2
  | .unreachable => 3
  | .critical => 4

def maxSeverity (a b : Severity) : Severity := if severityRank b ≤ severityRank a then a else b

lemma severityRank_maxSeverity (a b : Severity) :
    severityRank (maxSeverity a b) = max (severityRank a) (severityRank b) := by
  rw [maxSeverity]
  split
  · omega
  · omega

inductive Role where
  | core
  | edge
  | routeReflector
  deriving DecidableEq, Repr

def Role.text : Role → String
  | .core => "core"
  | .edge => "edge"
  | .routeReflector => "route-reflector"

structure Expected where
  isisAdjacencies : Option Nat := none
  bgpPeers : Option Nat := none
  deriving DecidableEq, Repr

structure Device where
  name : String
  role : Role
  platform : Option String := none
  expected : Option Expected := none
  deriving DecidableEq, Repr

def DEFAULT_PLATFORM : String := "cisco_xr"

inductive UnevalReason where
  | unsupported
  | collectionFailed
  | parseFailed
  deriving DecidableEq, Repr

def intentRecords (evidence : Evidence) (intent : String) : Option (List Record × Meta) :=
  match evidence.get intent with
  | none => none
  | some sec =>
    if sec.parseStatus = some PARSE_OK then some (sec.parsedRecords, sec.parsedMeta) else none

def unevalReason (evidence : Evidence) (intent : String) : Option UnevalReason :=
  match evidence.get intent with
  | none => some .collectionFailed
  | some sec =>
    if sec.status = some Snapshots.STATUS_UNSUPPORTED then some .unsupported
    else if sec.status = some Snapshots.STATUS_ERROR then some .collectionFailed
    else if sec.parseStatus = some PARSE_OK then none
    else if sec.parseStatus = some PARSE_UNAVAILABLE then some .unsupported
    else some .parseFailed

structure RuleContext where
  device : Device
  isisOk : Bool
  isisRecords : List Record
  bgpOk : Bool
  bgpRecords : List Record
  bgpMeta : Meta
  interfacesOk : Bool
  interfaceRecords : List Record
  srOk : Bool
  srRecords : List Record

def recordsOf (evidence : Evidence) (intent : String) : List Record :=
  ((intentRecords evidence intent).map Prod.fst).getD []

def buildContext (evidence : Evidence) (device : Device) : RuleContext where
  device := device
  isisOk := (intentRecords evidence "isis").isSome
  isisRecords := recordsOf evidence "isis"
  bgpOk := (intentRecords evidence "bgp").isSome
  bgpRecords := recordsOf evidence "bgp"
  bgpMeta := ((intentRecords evidence "bgp").map Prod.snd).getD {}
  interfacesOk := (intentRecords evidence "interfaces").isSome
  interfaceRecords := recordsOf evidence "interfaces"
  srOk := (intentRecords evidence "sr").isSome
  srRecords := recordsOf evidence "sr"

/-! ### Findings -/

structure Finding where
  rule : String
  severity : Severity
  intent : Option String
  message : String
  expected : Value
  actual : Value
  subject : Option String

/-- What a rule says of one finding; its severity where it is not that of the rule. -/
structure Fragment where
  intent : Option String
  message : String
  expected : Value
  actual : Value
  subject : Option String := none
  severity : Option Severity := none

/-- `record.get(name)` as a value. -/
def optionalText : Option String → Value
  | none => .none
  | some text => .str text

def isisIsolated (ctx : RuleContext) : List Fragment :=
  if !ctx.isisOk || !ctx.isisRecords.isEmpty then []
  else [{ intent := some "isis"
          message := "No IS-IS adjacencies; device is isolated at the IGP layer."
          expected := .str ">=1"
          actual := .int 0 }]

def isisAdjacencyNotUp (ctx : RuleContext) : List Fragment :=
  if !ctx.isisOk then []
  else (ctx.isisRecords.filter (fun record => record.state != some "Up")).map (fun record =>
    { intent := some "isis"
      message := "IS-IS adjacency to " ++ pyStrOption record.systemId ++ " is " ++
        pyStrOption record.state ++ ", not Up."
      expected := .str "Up"
      actual := optionalText record.state
      subject := record.systemId })

def bgpSessionDown (ctx : RuleContext) : List Fragment :=
  if !ctx.bgpOk then []
  else (ctx.bgpRecords.filter (fun record => record.sessionState.getD "" != "Established")).map
    (fun record =>
      { intent := some "bgp"
        message := "BGP session to " ++ pyStrOption record.neighbor ++
          " is not Established (state: " ++ record.sessionState.getD "" ++ ")."
        expected := .str "Established"
        actual := .str (record.sessionState.getD "")
        subject := record.neighbor })

def bgpProcessAbsent (ctx : RuleContext) : List Fragment :=
  if !ctx.bgpOk || ctx.device.role == .core then []
  else if ctx.bgpMeta.active = some false then
    [{ intent := some "bgp"
       message := "No active BGP process; role " ++ pyRepr ctx.device.role.text ++
         " requires one."
       expected := .str "active"
       actual := .str "inactive" }]
  else []

def bgpNoPrefixes (ctx : RuleContext) : List Fragment :=
  if !ctx.bgpOk then []
  else (ctx.bgpRecords.filter (fun record => record.prefixesReceived == some 0)).map (fun record =>
    { intent := some "bgp"
      message := "BGP peer " ++ pyStrOption record.neighbor ++
        " is Established with 0 prefixes received."
      expected := .str ">0"
      actual := .int 0
      subject := record.neighbor })

def interfaceAdminUpLineDown (ctx : RuleContext) : List Fragment :=
  if !ctx.interfacesOk then []
  else (ctx.interfaceRecords.filter (fun record =>
      record.adminState == some "up" && record.lineProtocol != some "up")).map (fun record =>
    { intent := some "interfaces"
      message := "Interface " ++ pyStrOption record.interface ++
        " is admin up but line protocol is " ++ pyStrOption record.lineProtocol ++ "."
      expected := .str "up"
      actual := optionalText record.lineProtocol
      subject := record.interface })

def srPolicyDown (ctx : RuleContext) : List Fragment :=
  if !ctx.srOk then []
  else (ctx.srRecords.filter (fun record => record.operationalState != some "up")).map
    (fun record =>
      { intent := some "sr"
        message := "SR-TE policy " ++ pyStrOption record.policy ++
          " is not operationally up (state: " ++ pyStrOption record.operationalState ++ ")."
        expected := .str "up"
        actual := optionalText record.operationalState
        subject := record.policy })

def isisAdjacencyCountDrift (ctx : RuleContext) : List Fragment :=
  match ctx.device.expected.bind Expected.isisAdjacencies with
  | none => []
  | some expected =>
    let actual := ctx.isisRecords.length
    if !ctx.isisOk || actual == expected then []
    else if expected < actual then
      -- More adjacencies than the baseline is news, not a fault.
      [{ intent := some "isis"
         message := "IS-IS adjacency count " ++ toString actual ++
           " is above the recorded baseline " ++ toString expected ++
           ". More adjacencies than expected is not a fault; the baseline is likely stale. " ++
           "Re-run `nettools learn-topology` against the current fabric."
         expected := .int expected
         actual := .int actual
         severity := some .info }]
    else
      [{ intent := some "isis"
         message := "IS-IS adjacency count " ++ toString actual ++
           " is below the recorded baseline " ++ toString expected ++ "."
         expected := .int expected
         actual := .int actual }]

def bgpPeerCountDrift (ctx : RuleContext) : List Fragment :=
  match ctx.device.expected.bind Expected.bgpPeers with
  | none => []
  | some expected =>
    let actual := ctx.bgpRecords.length
    if !ctx.bgpOk || actual == expected then []
    else
      [{ intent := some "bgp"
         message := "BGP peer count " ++ toString actual ++
           " differs from the recorded baseline " ++ toString expected ++ "."
         expected := .int expected
         actual := .int actual }]

def roleMinIsisAdjacencies : Role → Nat
  | .core => 2
  | .edge => 2
  | .routeReflector => 2

def suspiciousBaseline (ctx : RuleContext) : List Fragment :=
  match ctx.device.expected.bind Expected.isisAdjacencies with
  | none => []
  | some actual =>
    let role := ctx.device.role
    let floor := roleMinIsisAdjacencies role
    if floor ≤ actual then []
    else
      [{ intent := none
         message := "Recorded baseline for " ++ ctx.device.name ++ " (role " ++
           pyRepr role.text ++ ") encodes isis_adjacencies=" ++ toString actual ++
           ", below the minimum of " ++ toString floor ++
           " this fabric's design requires for that role -- a broken state captured at " ++
           "learn-topology time, not a healthy target."
         expected := .str (">=" ++ toString floor ++ " (role " ++ pyRepr role.text ++
           " invariant)")
         actual := .int actual }]

structure Rule where
  name : String
  severity : Severity
  fn : RuleContext → List Fragment

def allRules : List Rule :=
  [⟨"isis_isolated", .critical, isisIsolated⟩,
    ⟨"isis_adjacency_not_up", .critical, isisAdjacencyNotUp⟩,
    ⟨"bgp_session_down", .critical, bgpSessionDown⟩,
    ⟨"bgp_process_absent", .warning, bgpProcessAbsent⟩,
    ⟨"bgp_no_prefixes", .info, bgpNoPrefixes⟩,
    ⟨"interface_admin_up_line_down", .warning, interfaceAdminUpLineDown⟩,
    ⟨"sr_policy_down", .warning, srPolicyDown⟩,
    ⟨"isis_adjacency_count_drift", .warning, isisAdjacencyCountDrift⟩,
    ⟨"bgp_peer_count_drift", .warning, bgpPeerCountDrift⟩,
    ⟨"suspicious_baseline", .warning, suspiciousBaseline⟩]

def healthIntents : List String := ["isis", "bgp", "interfaces", "sr"]

structure Verdict where
  device : String
  role : Role
  platform : String
  severity : Severity
  findings : List Finding
  counts : List (Severity × Nat)
  unevaluated : List String
  unsupported : List String

def Rule.findings (rule : Rule) (ctx : RuleContext) : List Finding :=
  (rule.fn ctx).map (fun raw =>
    { rule := rule.name
      severity := raw.severity.getD rule.severity
      intent := raw.intent
      message := raw.message
      expected := raw.expected
      actual := raw.actual
      subject := raw.subject })

def intentsWith (evidence : Evidence) (reason : UnevalReason) : List String :=
  (healthIntents.filter (fun intent => unevalReason evidence intent == some reason)).insertionSort
    (· ≤ ·)

def deviceUnreachable : Finding where
  rule := "device_unreachable"
  severity := .unreachable
  intent := none
  message := "no intent could be collected; the device is unreachable or every command failed, " ++
    "so its health is unknown -- not ok"
  expected := .str "at least one intent collected"
  actual := .str ("all " ++ toString healthIntents.length ++ " health intents failed")
  subject := none

def intentCollectionFailed (intent : String) : Finding where
  rule := "intent_collection_failed"
  severity := .warning
  intent := some intent
  message := intent ++ " could not be collected, so it was not assessed"
  expected := .str "collected"
  actual := .str "error"
  subject := none

def intentUnparsed (intent : String) : Finding where
  rule := "intent_unparsed"
  severity := .warning
  intent := some intent
  message := intent ++ " returned output that could not be parsed, so it was not assessed"
  expected := .str "parseable output"
  actual := .str "parse failed"
  subject := none

def unassessed (evidence : Evidence) : List Finding :=
  let failed := intentsWith evidence .collectionFailed
  (if failed ≠ [] ∧ ∀ intent ∈ healthIntents, unevalReason evidence intent ≠ none then
      [deviceUnreachable]
    else failed.map intentCollectionFailed) ++
    (intentsWith evidence .parseFailed).map intentUnparsed

def findingsOf (evidence : Evidence) (device : Device) : List Finding :=
  allRules.flatMap (fun rule => rule.findings (buildContext evidence device)) ++
    unassessed evidence

def evaluateDevice (evidence : Evidence) (device : Device) (platform : Option String := none) :
    Verdict :=
  let findings := findingsOf evidence device
  { device := device.name
    role := device.role
    platform := (orNone platform).getD ((orNone device.platform).getD DEFAULT_PLATFORM)
    severity := findings.foldl (fun severity finding => maxSeverity severity finding.severity) .ok
    findings
    counts := [Severity.critical, .unreachable, .warning, .info].map (fun severity =>
      (severity, findings.countP (fun finding => finding.severity == severity)))
    unevaluated := (intentsWith evidence .collectionFailed ++
      intentsWith evidence .parseFailed).insertionSort (· ≤ ·)
    unsupported := intentsWith evidence .unsupported }

end Health

end NetTools
