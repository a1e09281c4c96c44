import NetTools.Library.FirstSeen
import NetTools.Library.Gathering
import NetTools.Topology.Links

/-!
# The fabric audit

`audit.py`: the fabric judged against its own consistency, by rules that each return findings and
the devices that they could not evaluate.
-/

namespace NetTools

namespace Audit

/-- An LLDP record; `none` for a field that it lacks. -/
structure AdjacencyRecord where
  neighbor : Option String
  localInterface : Option String
  neighborInterface : Option String

structure InterfaceRecord where
  interface : Option String
  mtu : Option String

structure BgpSection where
  routerId : Option String
  localAs : Option String
  sessionStates : List (Option String)

/-- What the rules read of a device's evidence; `none` for a section that did not parse. -/
structure DeviceSections where
  lldp : Option (List AdjacencyRecord)
  interfaces : Option (List InterfaceRecord)
  bgp : Option BgpSection
  hostname : Option String

/-- `evidence_by_device`. -/
structure Fabric where
  entries : List (String × DeviceSections)
  nodup : (entries.map Prod.fst).Nodup
  named : ∀ entry ∈ entries, entry.1 ≠ ""

namespace Fabric

variable (fabric : Fabric)

def get (device : String) : Option DeviceSections := fabric.entries.lookup device

def devices : List String := fabric.entries.map Prod.fst

def facts : Collection where
  entries := fabric.entries.map (fun entry => (entry.1, ⟨none, none, entry.2.hostname⟩))
  nodup := by
    rw [List.map_map]
    exact fabric.nodup
  named := by
    intro entry hentry
    obtain ⟨old, hold, rfl⟩ := List.mem_map.mp hentry
    exact fabric.named old hold

end Fabric

def splitOk {σ : Type} (fabric : Fabric) (section_ : DeviceSections → Option σ) :
    List (String × σ) × List String :=
  (fabric.entries.filterMap (fun entry => (section_ entry.2).map (fun parsed => (entry.1, parsed))),
    (fabric.entries.filter (fun entry => (section_ entry.2).isNone)).map Prod.fst)

inductive Severity where
  | ok
  | info
  | warning
  | critical
  deriving DecidableEq, Repr

def Severity.index : Severity → Nat
  | .ok => 0
  | .info => 1
  | .warning => 2
  | .critical => 3

inductive Category where
  | device
  | protocol
  | fabric
  deriving DecidableEq, Repr

inductive Message where
  | duplicateRouterId (rid : String) (names : List String)
  | mtuMismatch (device interface mtu neighbor neighborInterface neighborMtu : String)
  | isolated (name rid : String) (sessions : Nat)
  | hostnameDrift (name hostname : String)
  | localAsMix (owners : List (String × List String))
  deriving DecidableEq, Repr

def Message.text : Message → String
  | .duplicateRouterId rid names =>
    "router-ID " ++ rid ++ " is claimed by " ++ toString names.length ++ " devices: " ++
      ", ".intercalate names
  | .mtuMismatch device interface mtu neighbor neighborInterface neighborMtu =>
    "MTU mismatch on " ++ device ++ ":" ++ interface ++ " (" ++ mtu ++ ") <-> " ++ neighbor ++
      ":" ++ neighborInterface ++ " (" ++ neighborMtu ++ ")"
  | .isolated name rid sessions =>
    name ++ " has an active BGP process (" ++ rid ++ ") but " ++
      (if sessions = 0 then "no configured sessions at all"
        else toString sessions ++ " configured session(s), none Established")
  | .hostnameDrift name hostname =>
    name ++ " is configured as " ++ pyRepr hostname ++
      " — LLDP peers will report that name (B-435 resolves it, humans may not)"
  | .localAsMix owners =>
    "multiple local AS numbers observed — " ++
      "; ".intercalate (owners.map (fun owner => "AS " ++ owner.1 ++ ": " ++
        ", ".intercalate owner.2))

structure RuleFinding where
  message : Message
  devices : List String
  evidence : String
  deriving DecidableEq, Repr

inductive AuditError where
  | typeError
  | keyError (field : String)
  deriving DecidableEq, Repr

abbrev RuleResult : Type := List RuleFinding × List String

def sortedList (names : List String) : List String := names.insertionSort (· ≤ ·)

def present (value : Option String) : Option String := value.filter (· != "")

/-! ### Rules -/

/-- `owners.setdefault(key, []).append(name)`, by what the BGP sections say. -/
def ownersBy (field : BgpSection → Option String) (parsed : List (String × BgpSection)) :
    List (String × List String) :=
  Gathering.gather (parsed.filterMap (fun entry =>
    (present (field entry.2)).map (fun key => (key, entry.1))))

def duplicateRouterId (fabric : Fabric) : RuleResult :=
  let (parsed, unevaluated) := splitOk fabric DeviceSections.bgp
  (((ownersBy BgpSection.routerId parsed).filter (fun owner => 1 < owner.2.length)).map
    (fun owner =>
      { message := .duplicateRouterId owner.1 (sortedList owner.2)
        devices := sortedList owner.2
        evidence := "bgp:meta.router_id" }), unevaluated)

def mtuOf (fabric : Fabric) (device interface : String) : Option String :=
  ((((fabric.get device).bind DeviceSections.interfaces).getD []).find?
    (fun record => canonical (record.interface.getD "") == canonical interface)).bind
      InterfaceRecord.mtu

abbrev LinkEnd : Type := String × Option String

/-- A record whose neighbour is a device, both with a parsed interface section. -/
structure Sighting where
  device : String
  interface : Option String
  neighbor : String
  neighborInterface : Option String
  deriving DecidableEq, Repr

def Sighting.near (sighting : Sighting) : LinkEnd := (sighting.device, sighting.interface)

def Sighting.far (sighting : Sighting) : LinkEnd := (sighting.neighbor, sighting.neighborInterface)

/-- `left < right` on tuples. -/
def LinkEnd.lt (left right : LinkEnd) : Except AuditError Bool :=
  if left.1 = right.1 then
    match left.2, right.2 with
    | some interface, some interface' => pure (interface < interface')
    | none, none => pure false
    | _, _ => throw .typeError
  else pure (left.1 < right.1)

/-- `tuple(sorted([left, right]))`. -/
def linkKey (left right : LinkEnd) : Except AuditError (LinkEnd × LinkEnd) := do
  let swap ← LinkEnd.lt right left
  pure (if swap then (right, left) else (left, right))

def hasInterfaces (fabric : Fabric) (device : String) : Bool :=
  ((fabric.get device).bind DeviceSections.interfaces).isSome

def sightingOf (casefold : String → String) (fabric : Fabric) (mapping : List (String × String))
    (device : String) (record : AdjacencyRecord) : Option Sighting :=
  match resolveDevice casefold mapping (record.neighbor.getD "") with
  | none => none
  | some neighbor =>
    if hasInterfaces fabric neighbor && hasInterfaces fabric device then
      some ⟨device, record.localInterface, neighbor, record.neighborInterface⟩
    else none

def sightings (casefold : String → String) (fabric : Fabric) : List Sighting :=
  (splitOk fabric DeviceSections.lldp).1.flatMap (fun entry =>
    entry.2.filterMap
      (sightingOf casefold fabric (hostnameMap casefold fabric.facts) entry.1))

def compareMtu (fabric : Fabric) (sighting : Sighting) : Except AuditError (Option RuleFinding) :=
  let localMtu := mtuOf fabric sighting.device (sighting.interface.getD "")
  let remoteMtu := mtuOf fabric sighting.neighbor (sighting.neighborInterface.getD "")
  match present localMtu, present remoteMtu with
  | some mtu, some neighborMtu =>
    if mtu = neighborMtu then pure none
    else
      match sighting.interface, sighting.neighborInterface with
      | none, _ => throw (.keyError "local_interface")
      | _, none => throw (.keyError "neighbor_interface")
      | some interface, some neighborInterface =>
        pure (some
          { message := .mtuMismatch sighting.device interface mtu sighting.neighbor
              neighborInterface neighborMtu
            devices := sortedList [sighting.device, sighting.neighbor]
            evidence := "lldp + interfaces:mtu" })
  | _, _ => pure none

def compareLinks (fabric : Fabric) :
    List (LinkEnd × LinkEnd) → List Sighting → Except AuditError (List RuleFinding)
  | _, [] => pure []
  | seen, sighting :: rest => do
    let key ← linkKey sighting.near sighting.far
    if key ∈ seen then compareLinks fabric seen rest
    else
      let finding ← compareMtu fabric sighting
      let findings ← compareLinks fabric (key :: seen) rest
      pure (finding.toList ++ findings)

def mtuMismatchOnAdjacency (casefold : String → String) (fabric : Fabric) :
    Except AuditError RuleResult := do
  let unLldp := (splitOk fabric DeviceSections.lldp).2
  let unIntf := (splitOk fabric DeviceSections.interfaces).2
  let findings ← compareLinks fabric [] (sightings casefold fabric)
  pure (findings, sortedNames (unLldp ++ unIntf))

def hostnameInventoryDrift (casefold : String → String) (fabric : Fabric) : RuleResult :=
  let hostname (entry : String × DeviceSections) : Option String :=
    configuredHostname ⟨none, none, entry.2.hostname⟩
  (fabric.entries.filterMap (fun entry =>
    match hostname entry with
    | none => none
    | some name =>
      if casefold name = casefold entry.1 then none
      else some
        { message := .hostnameDrift entry.1 name
          devices := [entry.1]
          evidence := "facts:meta.hostname" }),
    (fabric.entries.filter (fun entry => (hostname entry).isNone)).map Prod.fst)

def isolatedButConfigured (fabric : Fabric) : RuleResult :=
  let (parsed, unevaluated) := splitOk fabric DeviceSections.bgp
  (parsed.filterMap (fun entry =>
    match present entry.2.routerId with
    | none => none
    | some rid =>
      if entry.2.sessionStates.any (· == some "Established") then none
      else some
        { message := .isolated entry.1 rid entry.2.sessionStates.length
          devices := [entry.1]
          evidence := "bgp:records.session_state" }), unevaluated)

def localAsMix (fabric : Fabric) : RuleResult :=
  let (parsed, unevaluated) := splitOk fabric DeviceSections.bgp
  let byAs := ownersBy BgpSection.localAs parsed
  (if 1 < byAs.length then
    [{ message := .localAsMix ((byAs.insertionSort (fun owner other => owner.1 ≤ other.1)).map
          (fun owner => (owner.1, sortedList owner.2)))
       devices := sortedList (byAs.flatMap Prod.snd)
       evidence := "bgp:meta.local_as" }]
  else [], unevaluated)

inductive RuleName where
  | duplicateRouterId
  | mtuMismatchOnAdjacency
  | isolatedButConfigured
  | hostnameInventoryDrift
  | localAsMix
  deriving DecidableEq, Repr

def RuleName.severity : RuleName → Severity
  | .duplicateRouterId => .critical
  | .mtuMismatchOnAdjacency => .warning
  | .isolatedButConfigured => .warning
  | .hostnameInventoryDrift => .info
  | .localAsMix => .info

def RuleName.category : RuleName → Category
  | .duplicateRouterId => .fabric
  | .mtuMismatchOnAdjacency => .protocol
  | .isolatedButConfigured => .device
  | .hostnameInventoryDrift => .device
  | .localAsMix => .fabric

def auditRules : List RuleName :=
  [.duplicateRouterId, .mtuMismatchOnAdjacency, .isolatedButConfigured, .hostnameInventoryDrift,
    .localAsMix]

def runRule (casefold : String → String) (fabric : Fabric) : RuleName → Except AuditError RuleResult
  | .duplicateRouterId => pure (duplicateRouterId fabric)
  | .mtuMismatchOnAdjacency => mtuMismatchOnAdjacency casefold fabric
  | .isolatedButConfigured => pure (isolatedButConfigured fabric)
  | .hostnameInventoryDrift => pure (hostnameInventoryDrift casefold fabric)
  | .localAsMix => pure (localAsMix fabric)

structure Finding where
  rule : RuleName
  severity : Severity
  category : Category
  finding : RuleFinding
  deriving DecidableEq, Repr

structure Report where
  devicesExamined : List String
  severity : Severity
  findings : List Finding
  categories : List (Category × List Finding)
  unevaluated : List (RuleName × List String)
  deriving DecidableEq, Repr

def raiseSeverity (severity : Severity) (finding : Finding) : Severity :=
  if severity.index < finding.severity.index then finding.severity else severity

def ruleFindings (rule : RuleName) (result : RuleResult) : List Finding :=
  result.1.map (fun finding => ⟨rule, rule.severity, rule.category, finding⟩)

/-- What `run_audit` returns, from the results of the rules. -/
def assembleReport (fabric : Fabric) (results : List (RuleName × RuleResult)) : Report :=
  let findings := results.flatMap (fun entry => ruleFindings entry.1 entry.2)
  { devicesExamined := sortedList fabric.devices
    severity := findings.foldl raiseSeverity .ok
    findings := findings
    categories := [Category.device, .protocol, .fabric].map (fun category =>
      (category, findings.filter (fun finding => finding.category == category)))
    unevaluated := (results.filter (fun entry => !entry.2.2.isEmpty)).map
      (fun entry => (entry.1, sortedList entry.2.2)) }

def runAudit (casefold : String → String) (fabric : Fabric) : Except AuditError Report := do
  let results ← auditRules.mapM (fun rule => do
    let result ← runRule casefold fabric rule
    pure (rule, result))
  pure (assembleReport fabric results)

end Audit

end NetTools
