import NetTools.Egress.Projector
import NetTools.Investigation.Payload
import NetTools.Library.Pattern
import NetTools.Routing.Syslog

/-!
# The authoritative correlation

`render.py`: the correlation, and the next check of a report, that code writes from the typed
fields of a descent.
-/

namespace NetTools

namespace Render

open Pattern

def COMMIT_MNEMONICS : List String :=
  ["CONFIG-6-DB_COMMIT", "MGBL-CONFIG-6-DB_COMMIT", "CONFIG-3-DB_COMMIT"]

def NEXT_CHECK : List (String × String) :=
  [("peer_not_established",
      "Read the peer's own view of the session: the far end may be refusing, or configured with " ++
      "a different AS or authentication."),
    ("transport_blocked",
      "The TCP socket to port 179 is not established. Check for an ACL, a control-plane policy, " ++
      "or an administratively shut neighbour."),
    ("peer_unreachable_no_route",
      "There is no route to the peer's loopback. Check the IGP on the path before looking at " ++
      "BGP again."),
    ("igp_isolated",
      "The subject device has no IS-IS adjacencies. Check its interfaces and IS-IS " ++
      "configuration on the device itself."),
    ("interface_line_down",
      "A physical interface on the path is down. Check the port, the optic and the far end " ++
      "before anything above it."),
    ("adjacency_not_up",
      "The IS-IS adjacency on this interface has not formed, though the interface itself is " ++
      "healthy. Check IS-IS configuration on both ends -- area, authentication, network type, " ++
      "or whether IS-IS is enabled on this interface at all."),
    ("session_not_up",
      "No LDP session is Oper on this interface, though the interface itself is healthy. Check " ++
      "LDP configuration on both ends -- whether LDP is enabled on this interface at all, " ++
      "discovery hello parameters, and whether the peer's transport address (usually its " ++
      "loopback) is reachable."),
    (CAUSE_NOT_LOCALISED,
      "Every layer beneath the symptom is healthy, so the cause is not in this ladder. Check " ++
      "configuration and policy on both ends."),
    (ALL_LAYERS_HEALTHY,
      "No fault on this dependency path. If a problem is being reported, it is about something " ++
      "this flow does not cover."),
    (NO_FAULT_ON_PATH,
      "The session is healthy. The broken rungs below are real and are not on the path between " ++
      "these two endpoints -- check them on their own terms."),
    (UNDETERMINED,
      "A rung could not be read, so nothing below it was evaluated. Fix the collection failure " ++
      "and run again."),
    (SUBJECT_NOT_FOUND,
      "This device has no such object. Check the name or address against the device's own " ++
      "inventory of them -- the reason lists what it does have. Nothing was investigated, so " ++
      "nothing here is a statement about the network."),
    (TEMPORALLY_INCOHERENT,
      "The fabric changed while it was being read, so these observations do not describe one " ++
      "state. Run again once it has settled.")]

variable (repr : Value → String)

def nextCheckFor (finding : String) : String :=
  (NEXT_CHECK.lookup finding).getD
    ("No specific guidance is registered for " ++ repr (.str finding) ++ ". Read the rung table " ++
      "below and treat the lowest broken rung as the starting point.")

variable (u : CharClasses)

def identifierWays (cs : List Char) : List (List Char) :=
  let digits := Part.run u.isDigit 1 (some 3)
  let interface := waysOf [.run Char.isAlpha 2 none,
    .run (fun c => u.isDigit c || c == '/' || c == '.' || c == '-') 1 none,
    .run u.isDigit 1 (some 1)] cs
  let address := waysOf [digits, .lit ['.'], digits, .lit ['.'], digits, .lit ['.'], digits] cs
  (interface ++ address).map Prod.snd

def subjectsOf (descent : DescentResult) : List String :=
  match descent.cause with
  | none => []
  | some cause =>
    let haystack := " ".intercalate
      ((orNone cause.result.reason).getD "" :: cause.result.evidenceKeys)
    sortedNames ((findAll u.isWord (identifierWays u) 0 none haystack.toList).map String.ofList)

def recordField (record : Dict) (key : String) : Value := (Dict.get? record key).getD (.str "")

def mentions (subjects : List String) (record : Dict) : Bool :=
  let text := (recordField record "text").pyStr repr ++ " " ++
    (recordField record "mnemonic").pyStr repr
  subjects.any (fun subject => pyContains text subject)

def isCommit (record : Dict) : Bool :=
  match recordField record "mnemonic" with
  | .str mnemonic => decide (mnemonic ∈ COMMIT_MNEMONICS)
  | _ => false

def distinctCount : List Value → Nat
  | [] => 0
  | value :: values =>
    (if values.any (fun other => Value.pyEq value other) then 0 else 1) + distinctCount values

def commitBefore (subjects : List String) (records : List Dict) : Bool :=
  let earlier := records.takeWhile (fun record => !mentions repr subjects record)
  (earlier ++ (records.drop earlier.length).take 1).any isCommit

def renderCorrelation (descent : DescentResult) (window : ShapedWindow) : Dict :=
  let subjects := subjectsOf u descent
  let matched := window.records.filter (mentions repr subjects)
  let mnemonics := distinctCount (matched.map (fun record => recordField record "mnemonic"))
  let found := !matched.isEmpty
  let device := (descent.cause.map RungOutcome.device).getD ""
  let summary :=
    if found then
      toString matched.length ++ " log event(s) on " ++ device ++ " mention " ++
        ", ".intercalate subjects ++ ", across " ++ toString mnemonics ++ " distinct mnemonic(s)."
    else
      "No log event in the retained window mentions " ++
        (if subjects = [] then "the cause" else ", ".intercalate subjects) ++ "."
  let recurrence :=
    if found then
      toString matched.length ++ " matching event(s), " ++ toString mnemonics ++
        " distinct mnemonic(s), within the " ++ toString window.records.length ++
        " retained records"
    else "none in the retained window"
  [("authoritative", .bool true), ("generated_by", .str "code"),
    ("matched_identifiers", strings subjects),
    ("timeline", .list (matched.map (fun record => .dict
      [("at", recordField record "timestamp"), ("event", recordField record "text"),
        ("mnemonic", recordField record "mnemonic")]))),
    ("correlation", .dict [("found", .bool found), ("summary", .str summary),
      ("followed_a_commit", .bool (commitBefore repr subjects window.records && found)),
      ("recurrence", .str recurrence)])]

end Render

end NetTools
