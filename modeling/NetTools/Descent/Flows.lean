import NetTools.Descent.Checks

/-!
# Flows

The ladders of `flows.py`: what a rung collects, on which device and about which objects its
check runs, and the registry of the flows.
-/

namespace NetTools

inductive DeviceScope where
  | localDevice
  | subjectDevice
  | path
  deriving DecidableEq, Repr

def DeviceScope.value : DeviceScope → String
  | .localDevice => "local_device"
  | .subjectDevice => "subject_device"
  | .path => "path"

inductive SubjectRule where
  | asIs
  | hostPrefix
  | deviceWide
  | eachPathInterface
  | eachPhysicalInterface
  deriving DecidableEq, Repr

def SubjectRule.isFanout (rule : SubjectRule) : Bool :=
  rule == .eachPhysicalInterface || rule == .eachPathInterface

inductive Aggregation where
  | allHealthy
  | anyHealthy
  deriving DecidableEq, Repr

/-- One piece of evidence a rung needs: an intent, a template or a static source. -/
structure CollectStep where
  name : String
  parameter : Option String := none
  isTemplate : Bool := false
  isStatic : Bool := false
  fill : Option String := none
  deriving DecidableEq, Repr

/-- One layer of a descent. A rung declares an aggregation exactly when it evaluates a set. -/
structure Rung where
  name : String
  collect : List CollectStep
  check : Evidence → Option String → CheckResult
  finding : String
  deviceScope : DeviceScope := .localDevice
  subjectRule : SubjectRule := .asIs
  aggregation : Option Aggregation := none
  declared : (deviceScope == .path || subjectRule.isFanout) = aggregation.isSome := by rfl

/-- A check about a named object, as a rung whose subject is never `None` runs it. -/
def onName (check : Evidence → String → CheckResult) (evidence : Evidence)
    (subject : Option String) : CheckResult :=
  check evidence (subject.getD "")

def ALL_LAYERS_HEALTHY : String := "all_layers_healthy"

def UNDETERMINED : String := "undetermined"

def CAUSE_NOT_LOCALISED : String := "cause_not_localised"

def SUBJECT_NOT_FOUND : String := "subject_not_found"

def NO_FAULT_ON_PATH : String := "no_fault_on_path"

def TEMPORALLY_INCOHERENT : String := "temporally_incoherent"

def universalFindings : List String :=
  [ALL_LAYERS_HEALTHY, UNDETERMINED, CAUSE_NOT_LOCALISED, NO_FAULT_ON_PATH,
    TEMPORALLY_INCOHERENT, SUBJECT_NOT_FOUND]

/-- An investigation of one object type. The findings of its rungs are declared. -/
structure Flow where
  objectType : String
  descent : List Rung
  findings : List String
  declared : ∀ rung ∈ descent, rung.finding ∈ findings

def interfaceCheck (evidence : Evidence) (name : String) : CheckResult :=
  interfaceState evidence name none

def interfaceSteps : List CollectStep :=
  [{ name := "interfaces" },
    { name := "interface", parameter := some "interface", isTemplate := true }]

def interfaceRung : Rung :=
  { name := "interface"
    collect := interfaceSteps
    check := onName interfaceCheck
    finding := "interface_line_down" }

def interfaceFlow : Flow :=
  { objectType := "interface"
    descent := [interfaceRung]
    findings := "interface_line_down" :: universalFindings
    declared := by decide }

def bgpSessionRung : Rung :=
  { name := "bgp_session"
    collect := [{ name := "bgp" }]
    check := onName bgpSessionState
    finding := "peer_not_established" }

def transportRung : Rung :=
  { name := "transport"
    collect := [{ name := "bgp_neighbor", parameter := some "address", isTemplate := true }]
    check := onName bgpTransport
    finding := "transport_blocked" }

def routeToPeerRung : Rung :=
  { name := "route_to_peer"
    collect := [{ name := "route", parameter := some "prefix", isTemplate := true }]
    check := onName routePresent
    finding := "peer_unreachable_no_route"
    subjectRule := .hostPrefix }

def igpAdjacencyRung : Rung :=
  { name := "igp_adjacency"
    collect := [{ name := "isis" }]
    check := isisAdjacency
    finding := "igp_isolated"
    deviceScope := .subjectDevice
    subjectRule := .deviceWide }

def pathInterfaceRung : Rung :=
  { name := "interface"
    collect :=
      [{ name := "interfaces" },
        { name := "route", parameter := some "prefix", isTemplate := true,
          fill := some "origin" },
        { name := "interface", parameter := some "interface", isTemplate := true }]
    check := onName interfaceCheck
    finding := "interface_line_down"
    deviceScope := .subjectDevice
    subjectRule := .eachPathInterface
    aggregation := some .anyHealthy }

def bgpSessionFlow : Flow :=
  { objectType := "bgp_session"
    descent := [bgpSessionRung, transportRung, routeToPeerRung, igpAdjacencyRung,
      pathInterfaceRung]
    findings := ["peer_not_established", "transport_blocked", "peer_unreachable_no_route",
      "igp_isolated", "interface_line_down"] ++ universalFindings
    declared := by decide }

def isisAdjacencyRung : Rung :=
  { name := "isis_adjacency"
    collect := [{ name := "isis" }, { name := "lldp" }, { name := "interfaces" }]
    check := onName isisNeighborUp
    finding := "adjacency_not_up" }

def isisAdjacencyFlow : Flow :=
  { objectType := "isis_adjacency"
    descent := [isisAdjacencyRung, interfaceRung]
    findings := ["adjacency_not_up", "interface_line_down"] ++ universalFindings
    declared := by decide }

def ldpSessionRung : Rung :=
  { name := "ldp_session"
    collect :=
      [{ name := "ldp" }, { name := "ldp_discovery" }, { name := "interfaces" },
        { name := "config_ldp", isTemplate := true }, { name := "ldp_intent", isStatic := true }]
    check := onName ldpSessionUp
    finding := "session_not_up" }

def ldpSessionFlow : Flow :=
  { objectType := "ldp_session"
    descent := [ldpSessionRung, interfaceRung]
    findings := ["session_not_up", "interface_line_down"] ++ universalFindings
    declared := by decide }

def flows : List Flow := [bgpSessionFlow, interfaceFlow, isisAdjacencyFlow, ldpSessionFlow]

lemma flows_cases {P : Flow → Prop} (bgp : P bgpSessionFlow) (interface : P interfaceFlow)
    (isis : P isisAdjacencyFlow) (ldp : P ldpSessionFlow) : ∀ flow ∈ flows, P flow := by
  intro flow hflow
  simp only [flows, List.mem_cons, List.not_mem_nil, or_false] at hflow
  rcases hflow with rfl | rfl | rfl | rfl
  · exact bgp
  · exact interface
  · exact isis
  · exact ldp

lemma flows_rungs {P : Rung → Prop} (session : P bgpSessionRung) (transport : P transportRung)
    (route : P routeToPeerRung) (igp : P igpAdjacencyRung) (path : P pathInterfaceRung)
    (interface : P interfaceRung) (isis : P isisAdjacencyRung) (ldp : P ldpSessionRung) :
    ∀ flow ∈ flows, ∀ rung ∈ flow.descent, P rung := by
  apply flows_cases
  · simp [bgpSessionFlow, session, transport, route, igp, path]
  · simp [interfaceFlow, interface]
  · simp [isisAdjacencyFlow, isis, interface]
  · simp [ldpSessionFlow, ldp, interface]

lemma flows_names_nodup : ∀ flow ∈ flows, (flow.descent.map Rung.name).Nodup :=
  flows_cases (by decide) (by decide) (by decide) (by decide)

lemma flows_names_ne_empty : ∀ flow ∈ flows, "" ∉ flow.descent.map Rung.name :=
  flows_cases (by decide) (by decide) (by decide) (by decide)

lemma flows_descent_ne_nil : ∀ flow ∈ flows, flow.descent ≠ [] :=
  flows_cases (List.cons_ne_nil _ _) (List.cons_ne_nil _ _) (List.cons_ne_nil _ _)
    (List.cons_ne_nil _ _)

lemma flows_universalFindings_subset : ∀ flow ∈ flows, universalFindings ⊆ flow.findings :=
  flows_cases (by decide) (by decide) (by decide) (by decide)

lemma flows_rung_finding_not_universal :
    ∀ flow ∈ flows, ∀ rung ∈ flow.descent, rung.finding ∉ universalFindings :=
  flows_cases (by decide) (by decide) (by decide) (by decide)

end NetTools
