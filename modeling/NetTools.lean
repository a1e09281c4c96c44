import NetTools.EventAgent.Stranding
import NetTools.Descent.StillFabric
import NetTools.Admission.Windows
import NetTools.Routing.Redelivery
import NetTools.Telegram.CardOrder
import NetTools.Snapshots.Diff
import NetTools.Snapshots.Flaps
import NetTools.Egress.Sealing
import NetTools.Egress.DeclaredText
import NetTools.Grounding.Correlations
import NetTools.Grounding.Acceptance
import NetTools.Health.Agreement
import NetTools.Descent.ReadValues
import NetTools.Budget.Fabric
import NetTools.Collection.BatchAgreement
import NetTools.Logs.Chronology
import NetTools.Topology.Connectivity
import NetTools.Audit.Exactness
import NetTools.Operator.Honesty
import NetTools.Metrics.Adoption
import NetTools.AgentLoop.Contract
import NetTools.AgentLoop.TemplateParams
import NetTools.Tickets.Containment
import NetTools.Procedures.Approvals
import NetTools.Relay.Suppression
import NetTools.Config.Reconciliation
import NetTools.Grounding.Vocabulary
import NetTools.Investigation.Attribution
import NetTools.Snapshots.Interchange
import NetTools.Descent.EpochCounted
import NetTools.Health.Silences
import NetTools.Logs.BusyMinutes
import NetTools.Logs.GroupFaults
import NetTools.Logs.MissingYear
import NetTools.Parsing.CountedOnce
import NetTools.EventAgent.Recovery
import NetTools.Telegram.Story
import NetTools.EventStore.IncidentCases
