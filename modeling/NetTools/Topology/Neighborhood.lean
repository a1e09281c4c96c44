import NetTools.Descent.InterfaceKind
import NetTools.Library.LastRow
import NetTools.Python.Ipaddress

/-!
# The evidence neighbourhood

`evidence_neighborhood` of `topology.py`: hop by hop from the device of a subject, over the
neighbours that IS-IS and LLDP name on the interfaces of a device.
-/

namespace NetTools

structure IsisRecord where
  systemId : String
  interface : String
  fields : Dict := []

structure LldpRecord where
  neighbor : String
  localInterface : String
  neighborInterface : String

/-- What the topology reads of a device's evidence; `none` for a section that did not parse. -/
structure DeviceEvidence where
  isis : Option (List IsisRecord)
  lldp : Option (List LldpRecord)
  hostname : Option String := none

/-- `evidence_by_device`: a dict whose keys are device names. -/
structure Collection where
  entries : List (String × DeviceEvidence)
  nodup : (entries.map Prod.fst).Nodup
  named : ∀ entry ∈ entries, entry.1 ≠ ""

namespace Collection

def get (evidence : Collection) (device : String) : Option DeviceEvidence :=
  evidence.entries.lookup device

end Collection

def lldpRecords (evidence : DeviceEvidence) : List LldpRecord := evidence.lldp.getD []

def configuredHostname (evidence : DeviceEvidence) : Option String :=
  evidence.hostname.filter (fun hostname => !isBlank hostname)

variable (casefold : String → String)

def setDefault (mapping : List (String × String)) (key name : String) : List (String × String) :=
  if (mapping.lookup key).isSome then mapping else LastRow.assign mapping key name

/-- One turn of the loop of `hostname_map`. -/
def addNames (mapping : List (String × String)) (entry : String × DeviceEvidence) :
    List (String × String) :=
  let mapping := LastRow.assign mapping (casefold entry.1) entry.1
  match configuredHostname entry.2 with
  | none => mapping
  | some hostname => setDefault mapping (casefold hostname) entry.1

def hostnameMap (evidence : Collection) : List (String × String) :=
  evidence.entries.foldl (addNames casefold) []

def resolveDevice (mapping : List (String × String)) (name : String) : Option String :=
  mapping.lookup (casefold (pyStrip name))

structure LldpDisagreement where
  device : String
  localInterface : String
  claimsNeighbor : String
  claimsNeighborAsReported : String
  claimsNeighborInterface : String
  neighborActuallyReports : List (String × String)

def lldpDisagreement (evidence : Collection) (mapping : List (String × String)) (device : String)
    (record : LldpRecord) : Option LldpDisagreement :=
  match resolveDevice casefold mapping record.neighbor with
  | none => none
  | some neighbor =>
    let others := ((evidence.get neighbor).map lldpRecords).getD []
    if others.any (fun other => resolveDevice casefold mapping other.neighbor == some device &&
        other.localInterface == record.neighborInterface) then none
    else
      some
        { device := device
          localInterface := record.localInterface
          claimsNeighbor := neighbor
          claimsNeighborAsReported := record.neighbor
          claimsNeighborInterface := record.neighborInterface
          neighborActuallyReports :=
            (others.filter (fun other => other.localInterface == record.neighborInterface)).map
              (fun other => (other.neighbor, other.localInterface)) }

def findLldpDisagreements (evidence : Collection) : List LldpDisagreement :=
  evidence.entries.flatMap (fun entry =>
    (lldpRecords entry.2).filterMap
      (lldpDisagreement casefold evidence (hostnameMap casefold evidence) entry.1))

inductive NeighborhoodStatus where
  | resolved
  | subjectUnresolved
  | topologyUnavailable
  deriving DecidableEq, Repr

inductive Disagreement where
  | isisLldpMismatch (device interface : String) (isisNeighbor lldpNeighbor : Option String)
  | lldpSelfDisagreement (entry : LldpDisagreement)

structure Neighborhood where
  anchorDevice : String
  subject : String
  subjectDevice : Option String
  depth : Int
  status : NeighborhoodStatus
  devices : List String := []
  interfaces : List String := []
  adjacencyRecords : List IsisRecord := []
  widened : Bool := false
  disagreements : List Disagreement := []

abbrev RouterIds : Type := List (String × Option String)

/-- The device of a subject and whether the whole device is meant, `none` for an address that no
device owns. -/
def subjectShapeDevice (inventory : RouterIds) (device subject : String) :
    Option (String × Bool) :=
  if (Ipaddress.IPv4Address.ofText subject).isNone then some (device, false)
  else (inventory.find? (fun entry => entry.2 == some subject)).map (fun entry => (entry.1, true))

def addInterface (interfaces : List String) (interface : String) : List String :=
  if interface != "" && !interfaces.any (sameInterface interface) then interfaces ++ [interface]
  else interfaces

def sessionInterfaces (evidence : DeviceEvidence) (deviceWide : Bool) (subject : String) :
    Option (List String × List IsisRecord) :=
  evidence.isis.map fun records =>
    let records := if deviceWide then records
      else records.filter (fun record => sameInterface record.interface subject)
    ((records.map IsisRecord.interface).foldl addInterface [], records)

def widenScopeInterfaces (evidence : DeviceEvidence) (deviceWide : Bool) (subject : String)
    (isisInterfaces : List String) : List String :=
  if deviceWide then
    ((lldpRecords evidence).map LldpRecord.localInterface).foldl addInterface isisInterfaces
  else if subject = "" then [] else [subject]

def firstNeighbors (evidence : DeviceEvidence) (mapping : List (String × String))
    (interface : String) : Option String × Option String :=
  let isisMatch := (evidence.isis.getD []).find? (fun r => sameInterface r.interface interface)
  let lldpMatch := (lldpRecords evidence).find? (fun r => sameInterface r.localInterface interface)
  (isisMatch.bind (fun r => resolveDevice casefold mapping r.systemId),
    lldpMatch.bind (fun r => resolveDevice casefold mapping r.neighbor))

def relevantDisagreements (device : String) (scope : List String)
    (fabricDisagreements : List LldpDisagreement) : List LldpDisagreement :=
  fabricDisagreements.filter (fun entry =>
    entry.device == device && scope.any (sameInterface entry.localInterface))

def widenedNeighbors (evidence : DeviceEvidence) (mapping : List (String × String))
    (fromDevice : String) (scope : List String) (fabricDisagreements : List LldpDisagreement) :
    List String × List Disagreement :=
  let relevant := relevantDisagreements fromDevice scope fabricDisagreements
  let candidates := scope.flatMap fun interface =>
    let (isisNeighbor, lldpNeighbor) := firstNeighbors casefold evidence mapping interface
    (isisNeighbor.toList ++ lldpNeighbor.toList).filter (· != "")
  let mismatches := scope.filterMap fun interface =>
    let (isisNeighbor, lldpNeighbor) := firstNeighbors casefold evidence mapping interface
    if isisNeighbor != lldpNeighbor &&
        (isisNeighbor.any (· != "") || lldpNeighbor.any (· != "")) then
      some (Disagreement.isisLldpMismatch fromDevice interface isisNeighbor lldpNeighbor)
    else none
  (candidates ++ relevant.flatMap (fun entry =>
      entry.claimsNeighbor :: (entry.neighborActuallyReports.filterMap
        (fun other => resolveDevice casefold mapping other.1)).filter (· != "")),
    mismatches ++ relevant.map Disagreement.lldpSelfDisagreement)

structure FrontierEntry where
  device : String
  deviceWide : Bool
  subject : String
  interfaces : List String

structure NeighborSearch where
  devices : List String
  frontier : List FrontierEntry := []
  disagreements : List Disagreement := []

def addCandidate (evidence : Collection) (search : NeighborSearch) (candidate : String) :
    NeighborSearch :=
  if candidate ∈ search.devices then search
  else
    let search := { search with devices := search.devices ++ [candidate] }
    match (evidence.get candidate).bind (fun e => sessionInterfaces e true "") with
    | none => search
    | some (interfaces, _) =>
      -- A device without an IS-IS interface is not expanded.
      if interfaces = [] then search
      else { search with frontier := search.frontier ++ [⟨candidate, true, "", interfaces⟩] }

def expandEntry (evidence : Collection) (search : NeighborSearch) (entry : FrontierEntry) :
    NeighborSearch :=
  match evidence.get entry.device with
  | none => search
  | some found =>
    let scope := widenScopeInterfaces found entry.deviceWide entry.subject entry.interfaces
    let (candidates, disagreements) := widenedNeighbors casefold found
      (hostnameMap casefold evidence) entry.device scope (findLldpDisagreements casefold evidence)
    candidates.foldl (addCandidate evidence)
      { search with disagreements := search.disagreements ++ disagreements }

def nextHop (evidence : Collection) (search : NeighborSearch) : NeighborSearch :=
  search.frontier.foldl (expandEntry casefold evidence) { search with frontier := [] }

/-- `while hop < depth and frontier`. -/
def searchHops (evidence : Collection) : Nat → NeighborSearch → NeighborSearch
  | 0, search => search
  | hops + 1, search =>
    if search.frontier = [] then search
    else searchHops evidence hops (nextHop casefold evidence search)

/-- The texts of the `ValueError`s. -/
def evidenceNeighborhood (inventory : RouterIds) (evidence : Collection) (device subject : String)
    (depth : Int) : Except String Neighborhood :=
  if depth < 0 then
    throw ("depth must be a non-negative integer, got " ++ toString depth)
  else if (evidence.get device).isNone then
    throw (pyRepr device ++ " has no evidence in this collection; refusing to resolve a " ++
      "neighbourhood with nothing to resolve it from")
  else
    let answer : Neighborhood :=
      { anchorDevice := device, subject := subject, subjectDevice := none, depth := depth,
        status := .subjectUnresolved }
    match subjectShapeDevice inventory device subject with
    | none => pure answer
    | some (subjectDevice, deviceWide) =>
      let answer := { answer with subjectDevice := some subjectDevice, devices := [subjectDevice] }
      match evidence.get subjectDevice with
      | none => pure { answer with status := .topologyUnavailable }
      | some found =>
        if depth = 0 then pure { answer with status := .resolved }
        else
          match sessionInterfaces found deviceWide subject with
          | none => pure { answer with status := .topologyUnavailable }
          | some (interfaces, records) =>
            let answer := { answer with
              status := .resolved, interfaces := interfaces, adjacencyRecords := records }
            if depth = 1 then pure answer
            else
              let search := searchHops casefold evidence (depth.toNat - 1)
                { devices := [subjectDevice]
                  frontier := [⟨subjectDevice, deviceWide, subject, interfaces⟩] }
              pure { answer with
                devices := search.devices
                widened := !search.disagreements.isEmpty
                disagreements := search.disagreements }

end NetTools
