import NetTools.Library.GraphSearch
import NetTools.Library.Sorting
import NetTools.Python.Datetime
import NetTools.Topology.Links

/-!
# The derived graph

`build_graph` of `graph.py`, the snapshots and the path query of `graph_snapshot.py` and the impact
query of `impact.py`.
-/

namespace NetTools

inductive GraphProtocol where
  | lldp
  | isis
  deriving DecidableEq, Repr

def GraphProtocol.name : GraphProtocol → String
  | .lldp => "lldp"
  | .isis => "isis"

structure GraphNode where
  name : String
  platform : Value
  configuredHostname : Option String

structure GraphEdge where
  protocol : GraphProtocol
  deviceA : String
  deviceB : String
  interfaceA : Option String
  interfaceB : Option String
  state : Value
  observedBy : List String

def GraphEdge.key (edge : GraphEdge) : String ×ₗ String ×ₗ String :=
  toLex (edge.protocol.name, toLex (edge.deviceA, edge.deviceB))

structure Graph where
  nodes : List GraphNode
  edges : List GraphEdge
  nodup : (nodes.map GraphNode.name).Nodup
  ends : ∀ edge ∈ edges, edge.deviceA ∈ nodes.map GraphNode.name ∧
    edge.deviceB ∈ nodes.map GraphNode.name

structure LinkReport where
  neighbor : String
  interface : String
  state : Value := .none

def isisReport (record : IsisRecord) : LinkReport :=
  ⟨record.systemId, record.interface, (Dict.get? record.fields "state").getD .none⟩

def lldpReport (record : LldpRecord) : LinkReport :=
  ⟨record.neighbor, record.localInterface, .none⟩

def cleanRecords (evidence : DeviceEvidence) : GraphProtocol → List LinkReport
  | .lldp => (lldpRecords evidence).map lldpReport
  | .isis => (evidence.isis.getD []).map isisReport

/-- `tuple(sorted((left, right)))`. -/
def sortedPair (left right : String) : String × String :=
  if right < left then (right, left) else (left, right)

/-- `left or right`. -/
def Value.pyOr (left right : Value) : Value := if left.truthy then left else right

def Value.isUp : Value → Bool
  | .str text => text == "Up"
  | _ => false

section

variable (casefold : String → String) (evidence : Collection)

def reportsOf (protocol : GraphProtocol) (device : String) : List LinkReport :=
  ((evidence.get device).map (cleanRecords · protocol)).getD []

def ownReport (mapping : List (String × String)) (protocol : GraphProtocol)
    (device neighbor : String) : Option LinkReport :=
  (reportsOf evidence protocol device).find?
    (fun report => resolveDevice casefold mapping report.neighbor == some neighbor)

def ownInterfaceAndState (mapping : List (String × String)) (protocol : GraphProtocol)
    (device neighbor : String) : Option String × Value :=
  match ownReport casefold evidence mapping protocol device neighbor with
  | some report => (some report.interface, report.state)
  | none => (none, .none)

def reportedPair (mapping : List (String × String)) (device : String) (report : LinkReport) :
    Option (String × String) :=
  match resolveDevice casefold mapping report.neighbor with
  | none => none
  | some neighbor => if neighbor = device then none else some (sortedPair device neighbor)

def reportedPairs (mapping : List (String × String)) (protocol : GraphProtocol) :
    List (String × String) :=
  (evidence.entries.flatMap (fun entry => (cleanRecords entry.2 protocol).filterMap
    (reportedPair casefold mapping entry.1))).dedup

def pairEdge (mapping : List (String × String)) (protocol : GraphProtocol)
    (pair : String × String) : GraphEdge :=
  let (interfaceA, stateA) := ownInterfaceAndState casefold evidence mapping protocol pair.1 pair.2
  let (interfaceB, stateB) := ownInterfaceAndState casefold evidence mapping protocol pair.2 pair.1
  { protocol := protocol
    deviceA := pair.1
    deviceB := pair.2
    interfaceA := interfaceA
    interfaceB := interfaceB
    state := stateA.pyOr stateB
    observedBy := (if interfaceA.isSome then [pair.1] else []) ++
      (if interfaceB.isSome then [pair.2] else []) }

def protocolEdges (mapping : List (String × String)) (protocol : GraphProtocol) :
    List GraphEdge :=
  (reportedPairs casefold evidence mapping protocol).map
    (pairEdge casefold evidence mapping protocol)

/-- `sorted(evidence_by_device.items())`. -/
def sortedEntries : List (String × DeviceEvidence) :=
  evidence.entries.insertionSort (fun entry other => entry.1 ≤ other.1)

def graphEdges : List GraphEdge :=
  let mapping := hostnameMap casefold evidence
  (protocolEdges casefold evidence mapping .lldp ++
    protocolEdges casefold evidence mapping .isis).insertionSort
      (fun edge other => edge.key ≤ other.key)

def graphNodes (platform : String → Value) : List GraphNode :=
  (sortedEntries evidence).map (fun entry =>
    ⟨entry.1, platform entry.1, configuredHostname entry.2⟩)

end

section

variable {casefold : String → String} {evidence : Collection}

lemma map_name_graphNodes (platform : String → Value) :
    (graphNodes evidence platform).map GraphNode.name = (sortedEntries evidence).map Prod.fst := by
  unfold graphNodes
  rw [List.map_map]
  rfl

lemma mem_names_iff (platform : String → Value) (device : String) :
    device ∈ (graphNodes evidence platform).map GraphNode.name ↔
      (evidence.get device).isSome := by
  rw [map_name_graphNodes]
  have hperm := List.perm_insertionSort
    (fun entry other : String × DeviceEvidence => entry.1 ≤ other.1) evidence.entries
  rw [sortedEntries, (hperm.map Prod.fst).mem_iff, Option.isSome_iff_exists]
  constructor
  · intro h
    obtain ⟨entry, hentry, rfl⟩ := List.mem_map.mp h
    exact ⟨entry.2, get_eq_some_iff.mpr hentry⟩
  · rintro ⟨found, hfound⟩
    exact List.mem_map.mpr ⟨(device, found), get_eq_some_iff.mp hfound, rfl⟩

lemma sortedPair_of_lt {left right : String} (h : left < right) :
    sortedPair left right = (left, right) := if_neg (lt_asymm h)

lemma sortedPair_comm (left right : String) : sortedPair left right = sortedPair right left := by
  unfold sortedPair
  rcases lt_trichotomy left right with h | rfl | h
  · rw [if_neg (lt_asymm h), if_pos h]
  · rfl
  · rw [if_pos h, if_neg (lt_asymm h)]

lemma ownReport_isSome_iff {protocol : GraphProtocol} {mapping : List (String × String)}
    {device neighbor : String} :
    (ownReport casefold evidence mapping protocol device neighbor).isSome ↔
      ∃ report ∈ reportsOf evidence protocol device,
        resolveDevice casefold mapping report.neighbor = some neighbor := by
  unfold ownReport
  rw [List.find?_isSome]
  simp only [beq_iff_eq]

lemma mem_reportedPairs_iff {mapping : List (String × String)} {protocol : GraphProtocol}
    {pair : String × String} : pair ∈ reportedPairs casefold evidence mapping protocol ↔
      ∃ device neighbor, neighbor ≠ device ∧ pair = sortedPair device neighbor ∧
        (ownReport casefold evidence mapping protocol device neighbor).isSome := by
  unfold reportedPairs
  rw [List.mem_dedup, List.mem_flatMap]
  constructor
  · rintro ⟨⟨device, found⟩, hentry, hpair⟩
    obtain ⟨report, hreport, hsome⟩ := List.mem_filterMap.mp hpair
    unfold reportedPair at hsome
    cases hresolve : resolveDevice casefold mapping report.neighbor with
    | none =>
      rw [hresolve] at hsome
      cases hsome
    | some neighbor =>
      rw [hresolve] at hsome
      simp only [Option.ite_none_left_eq_some, Option.some.injEq] at hsome
      refine ⟨device, neighbor, hsome.1, hsome.2.symm, ownReport_isSome_iff.mpr ?_⟩
      refine ⟨report, ?_, hresolve⟩
      rw [reportsOf, get_eq_some_iff.mpr hentry]
      exact hreport
  · rintro ⟨device, neighbor, hne, rfl, hsome⟩
    obtain ⟨report, hreport, hresolve⟩ := ownReport_isSome_iff.mp hsome
    unfold reportsOf at hreport
    cases hget : evidence.get device with
    | none =>
      rw [hget] at hreport
      cases hreport
    | some found =>
      rw [hget] at hreport
      have hentry := get_eq_some_iff.mp hget
      refine ⟨(device, found), hentry, List.mem_filterMap.mpr ⟨report, hreport, ?_⟩⟩
      simp only [reportedPair, hresolve, if_neg hne]

def Linked (casefold : String → String) (evidence : Collection)
    (mapping : List (String × String)) (protocol : GraphProtocol) (left right : String) : Prop :=
  (ownReport casefold evidence mapping protocol left right).isSome ∨
    (ownReport casefold evidence mapping protocol right left).isSome

lemma mem_reportedPairs_iff_linked {mapping : List (String × String)} {protocol : GraphProtocol}
    {pair : String × String} : pair ∈ reportedPairs casefold evidence mapping protocol ↔
      pair.1 < pair.2 ∧ Linked casefold evidence mapping protocol pair.1 pair.2 := by
  rw [mem_reportedPairs_iff]
  constructor
  · rintro ⟨device, neighbor, hne, rfl, hsome⟩
    rcases lt_or_gt_of_ne hne with hlt | hlt
    · rw [sortedPair_comm, sortedPair_of_lt hlt]
      exact ⟨hlt, .inr hsome⟩
    · rw [sortedPair_of_lt hlt]
      exact ⟨hlt, .inl hsome⟩
  · rintro ⟨hlt, hleft | hright⟩
    · exact ⟨pair.1, pair.2, (ne_of_lt hlt).symm, (sortedPair_of_lt hlt).symm, hleft⟩
    · refine ⟨pair.2, pair.1, ne_of_lt hlt, ?_, hright⟩
      rw [sortedPair_comm, sortedPair_of_lt hlt]

lemma isSome_get_of_ownReport {mapping : List (String × String)} {protocol : GraphProtocol}
    {device neighbor : String}
    (h : (ownReport casefold evidence mapping protocol device neighbor).isSome) :
    (evidence.get device).isSome := by
  obtain ⟨report, hreport, -⟩ := ownReport_isSome_iff.mp h
  unfold reportsOf at hreport
  cases hget : evidence.get device with
  | none =>
    rw [hget] at hreport
    cases hreport
  | some found => rfl

lemma isSome_get_of_resolveDevice {name device : String}
    (h : resolveDevice casefold (hostnameMap casefold evidence) name = some device) :
    (evidence.get device).isSome := (names_of_resolveDevice h).1

lemma Linked.isSome {protocol : GraphProtocol} {left right : String}
    (h : Linked casefold evidence (hostnameMap casefold evidence) protocol left right) :
    (evidence.get left).isSome ∧ (evidence.get right).isSome := by
  rcases h with h | h
  · obtain ⟨report, -, hresolve⟩ := ownReport_isSome_iff.mp h
    exact ⟨isSome_get_of_ownReport h, isSome_get_of_resolveDevice hresolve⟩
  · obtain ⟨report, -, hresolve⟩ := ownReport_isSome_iff.mp h
    exact ⟨isSome_get_of_resolveDevice hresolve, isSome_get_of_ownReport h⟩

@[simp]
lemma pairEdge_key (mapping : List (String × String)) (protocol : GraphProtocol)
    (pair : String × String) : (pairEdge casefold evidence mapping protocol pair).key =
      toLex (protocol.name, toLex pair) := rfl

lemma mem_graphEdges_iff {edge : GraphEdge} : edge ∈ graphEdges casefold evidence ↔
    ∃ protocol left right, left < right ∧
      Linked casefold evidence (hostnameMap casefold evidence) protocol left right ∧
        edge = pairEdge casefold evidence (hostnameMap casefold evidence) protocol
          (left, right) := by
  unfold graphEdges
  rw [List.mem_insertionSort, List.mem_append]
  unfold protocolEdges
  simp only [List.mem_map, mem_reportedPairs_iff_linked]
  constructor
  · rintro (⟨pair, ⟨hlt, hlinked⟩, rfl⟩ | ⟨pair, ⟨hlt, hlinked⟩, rfl⟩)
    · exact ⟨.lldp, pair.1, pair.2, hlt, hlinked, rfl⟩
    · exact ⟨.isis, pair.1, pair.2, hlt, hlinked, rfl⟩
  · rintro ⟨protocol, left, right, hlt, hlinked, rfl⟩
    cases protocol with
    | lldp => exact .inl ⟨(left, right), ⟨hlt, hlinked⟩, rfl⟩
    | isis => exact .inr ⟨(left, right), ⟨hlt, hlinked⟩, rfl⟩

end

def buildGraph (casefold : String → String) (platform : String → Value) (evidence : Collection) :
    Graph where
  nodes := graphNodes evidence platform
  edges := graphEdges casefold evidence
  nodup := by
    rw [map_name_graphNodes]
    have hperm := List.perm_insertionSort
      (fun entry other : String × DeviceEvidence => entry.1 ≤ other.1) evidence.entries
    exact (hperm.map Prod.fst).nodup_iff.mpr evidence.nodup
  ends := by
    intro edge hedge
    obtain ⟨protocol, left, right, -, hlinked, rfl⟩ := mem_graphEdges_iff.mp hedge
    have hsome := hlinked.isSome
    exact ⟨(mem_names_iff platform left).mpr hsome.1, (mem_names_iff platform right).mpr hsome.2⟩

end NetTools
