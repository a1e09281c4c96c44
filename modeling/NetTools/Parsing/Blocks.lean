import NetTools.Parsing.Tables

/-!
# Blocks of lines

The parsers of `parsers.py` for the outputs that hold a block of lines per peer, interface or
policy: LDP sessions, LDP discovery and segment routing.
-/

namespace NetTools

namespace Parsing

open Pattern SegmentRouting

variable (u : CharClasses) (numbers : Numbers)

/-- `strip_preamble(text, platform="cisco_xr").strip()`. -/
def body (text : String) : String :=
  pyStrip ("\n".intercalate (dropPreamble u (splitLines text)))

/-! ### LDP sessions -/

def LDP_PEER : List Part :=
  [litPart "Peer LDP Identifier: ", .group "peer" [words], litPart ":0", .stop]

def LDP_TCP : List Part :=
  [litPart "TCP connection: ", .group "left" [words], litPart " - ", .group "right" [words], .stop]

def LDP_GR : List Part := [litPart "Graceful Restart: ", .group "gr" [words], .stop]

def LDP_HOLDTIME : List Part :=
  [litPart "Session Holdtime: ", .group "ht" [number u], litPart " sec", .stop]

def LDP_STATE : List Part :=
  [litPart "State: ", .group "state" [.run (· ≠ ';') 1 none], litPart "; Msgs sent/rcvd: ",
    .group "sent" [number u], litPart "/", .group "rcvd" [number u], litPart "; ",
    .group "mode" [anything], .stop]

def LDP_UPTIME : List Part := [litPart "Up time: ", .group "up" [anything], .stop]

def LDP_IPV4_COUNT : List Part := [litPart "IPv4: (", .group "n" [number u], litPart ")", .stop]

def LDP_IPV6_COUNT : List Part := [litPart "IPv6: (", .group "n" [number u], litPart ")", .stop]

def IPV4_TOKEN : List Part :=
  digits u 1 (some 3) :: (List.replicate 3 [litPart ".", digits u 1 (some 3)]).flatten ++ [.stop]

/-- What the tests of the loop make of a stripped line, in their order. -/
inductive LdpLine where
  | peer (id : String)
  | tcp (left right : String)
  | gracefulRestart (gr : String)
  | holdtime (ht : String)
  | state (state sent rcvd mode : String)
  | upTime (up : String)
  | discoverySources
  | boundAddresses
  | ipv4Count (n : Int)
  | ipv6Count
  | other

def ldpLine (line : String) : LdpLine :=
  match matchStart LDP_PEER line with
  | some found => .peer (found.text "peer")
  | none =>
    match matchStart LDP_TCP line with
    | some found => .tcp (found.text "left") (found.text "right")
    | none =>
      match matchStart LDP_GR line with
      | some found => .gracefulRestart (found.text "gr")
      | none =>
        match matchStart (LDP_HOLDTIME u) line with
        | some found => .holdtime (found.text "ht")
        | none =>
          match matchStart (LDP_STATE u) line with
          | some found =>
            .state (found.text "state") (found.text "sent") (found.text "rcvd") (found.text "mode")
          | none =>
            match matchStart LDP_UPTIME line with
            | some found => .upTime (found.text "up")
            | none =>
              if line = "LDP Discovery Sources:" then .discoverySources
              else if line = "Addresses bound to this peer:" then .boundAddresses
              else
                match matchStart (LDP_IPV4_COUNT u) line with
                | some found => .ipv4Count (numbers.ofDigits (found.text "n"))
                | none => if (matchStart (LDP_IPV6_COUNT u) line).isSome then .ipv6Count else .other

def LdpLine.isHeading : LdpLine → Bool
  | .discoverySources | .boundAddresses | .ipv4Count _ | .ipv6Count => true
  | _ => false

inductive LdpSection where
  | discovery
  | addresses
deriving DecidableEq

structure LdpPeer where
  peerId : String
  fields : Dict := []
  discoveryInterfaces : List String := []
  boundAddresses : List String := []

namespace LdpPeer

def set (peer : LdpPeer) (key text : String) : LdpPeer :=
  { peer with fields := peer.fields.set key (.str text) }

def toRecord (peer : LdpPeer) : Dict :=
  [("peer_id", .str peer.peerId),
      ("discovery_interfaces", .list (peer.discoveryInterfaces.map .str)),
      ("bound_addresses", .list (peer.boundAddresses.map .str))] ++ peer.fields ++
    [("discovery_interface_count", .int peer.discoveryInterfaces.length),
      ("bound_address_count", .int peer.boundAddresses.length)]

end LdpPeer

structure LdpWalk where
  done : List LdpPeer := []
  current : Option LdpPeer := none
  part : Option LdpSection := none
  remaining : Int := 0

def LdpWalk.peers (state : LdpWalk) : List LdpPeer := state.done ++ state.current.toList

def listedLine (state : LdpWalk) (peer : LdpPeer) (line : String) : Step LdpWalk :=
  if state.part = some .discovery ∧ 0 < state.remaining then
    { reading := .value
      state := { state with
        current := some { peer with discoveryInterfaces := peer.discoveryInterfaces ++ [line] }
        remaining := state.remaining - 1 } }
  else
    let tokens := Grounding.words line
    if state.part = some .addresses ∧ tokens ≠ [] ∧
        tokens.all (fun token => (matchStart (IPV4_TOKEN u) token).isSome) = true then
      { reading := .value
        state := { state with
          current := some { peer with boundAddresses := peer.boundAddresses ++ tokens } } }
    else { reading := .passed, state }

def peerLine (state : LdpWalk) (peer : LdpPeer) (line : String) : LdpLine → Step LdpWalk
  | .peer id =>
    { reading := .value, state := { done := state.peers, current := some { peerId := id } } }
  | .tcp left right =>
    { reading := .value
      state := { state with
        current := some (if left.toList.takeWhile (· ≠ ':') = peer.peerId.toList then
            (peer.set "peer_tcp" left).set "local_tcp" right
          else (peer.set "peer_tcp" right).set "local_tcp" left) } }
  | .gracefulRestart gr =>
    { reading := .value, state := { state with current := some (peer.set "graceful_restart" gr) } }
  | .holdtime ht =>
    { reading := .value, state := { state with current := some (peer.set "session_holdtime" ht) } }
  | .state fsm sent rcvd mode =>
    { reading := .value
      state := { state with
        current := some ((((peer.set "state" (pyStrip fsm)).set "msgs_sent" sent).set "msgs_rcvd"
          rcvd).set "label_distribution" (pyStrip mode)) } }
  | .upTime up =>
    { reading := .value, state := { state with current := some (peer.set "up_time" (pyStrip up)) } }
  | .discoverySources => { reading := .heading, state := { state with part := some .discovery } }
  | .boundAddresses => { reading := .heading, state := { state with part := some .addresses } }
  | .ipv4Count n => { reading := .heading, state := { state with remaining := n } }
  | .ipv6Count => { reading := .heading, state := { state with remaining := 0 } }
  | .other => listedLine u state peer line

def ldpStep (state : LdpWalk) (line : String) : Except ParseFailure (Step LdpWalk) :=
  let stripped := pyStrip line
  match state.current with
  | some peer => .ok (peerLine u state peer stripped (ldpLine u numbers stripped))
  | none =>
    match ldpLine u numbers stripped with
    | .peer id => .ok { reading := .value, state := { current := some { peerId := id } } }
    | _ => .ok { reading := .passed, state }

def parseXrLdpNeighbor (outputs : List String) : Except ParseFailure Extracted := do
  let text := firstOutput outputs
  let (readings, state) ← walk (ldpStep u numbers) {} (nonblankLines text)
  let records := state.peers.map LdpPeer.toRecord
  if records = [] ∧ body u text ≠ "" then
    throw (.parseError "no LDP peer blocks found in non-empty output")
  return { raw := text
           fields := [("peer_count", .int records.length)]
           records
           walks := [readings] }

/-! ### LDP discovery -/

def LDP_LOCAL_ID : List Part :=
  [litPart "Local LDP Identifier: ", .group "id" [words], litPart ":0", .stop]

def LDP_IFACE : List Part :=
  [.group "interface" [words], litPart " : ", .group "direction" [words], .stop]

/-- `[0-9a-fA-F]`. -/
def isHexadecimal (c : Char) : Bool :=
  decide ('0' ≤ c ∧ c ≤ '9') || decide ('a' ≤ c ∧ c ≤ 'f') || decide ('A' ≤ c ∧ c ≤ 'F')

def LDP_VRF : List Part :=
  [litPart "VRF: '", .group "vrf" [.run (· ≠ '\'') 1 none], litPart "' (",
    .group "vrf_id" [litPart "0x", .run isHexadecimal 1 none], litPart ")", .stop]

def LDP_PEER_ID : List Part :=
  [litPart "LDP Id: ", .group "peer" [words], litPart ":0, Transport address: ",
    .group "transport" [words], .stop]

def LDP_HOLD : List Part :=
  [litPart "Hold time: ", .group "hold" [number u], litPart " sec (local:",
    .group "local" [number u], litPart " sec, peer:", .group "peer_hold" [number u],
    litPart " sec)", .stop]

def LDP_ESTABLISHED : List Part :=
  [litPart "Established: ", .group "ts" [anything], litPart " (", .group "ago" [anything],
    litPart " ago)", .stop]

inductive DiscoveryLine where
  | localId (id : String)
  | heading
  | interface (interface direction : String)
  | vrf (vrf : String)
  | peer (peer transport : String)
  | hold (hold ownHold peerHold : String)
  | established (ts ago : String)
  | other

def isDiscoveryHeading (line : String) : Bool :=
  decide (line = "Discovery Sources:" ∨ line = "Interfaces:")

def discoveryLine (line : String) : DiscoveryLine :=
  match matchStart LDP_LOCAL_ID line with
  | some found => .localId (found.text "id")
  | none =>
    if isDiscoveryHeading line then .heading
    else
      match matchStart LDP_IFACE line with
      | some found => .interface (found.text "interface") (found.text "direction")
      | none =>
        match matchStart LDP_VRF line with
        | some found => .vrf (found.text "vrf")
        | none =>
          match matchStart LDP_PEER_ID line with
          | some found => .peer (found.text "peer") (found.text "transport")
          | none =>
            match matchStart (LDP_HOLD u) line with
            | some found =>
              .hold (found.text "hold") (found.text "local") (found.text "peer_hold")
            | none =>
              match matchStart LDP_ESTABLISHED line with
              | some found => .established (found.text "ts") (found.text "ago")
              | none => .other

structure DiscoveredInterface where
  interface : String
  direction : String
  peerId : Option String := none
  transportAddress : Option String := none
  fields : Dict := []

namespace DiscoveredInterface

def set (found : DiscoveredInterface) (key text : String) : DiscoveredInterface :=
  { found with fields := found.fields.set key (.str text) }

def toRecord (found : DiscoveredInterface) : Dict :=
  [("interface", .str found.interface), ("direction", .str found.direction),
    ("peer_id", (found.peerId.map Value.str).getD .none),
    ("transport_address", (found.transportAddress.map Value.str).getD .none)] ++ found.fields

end DiscoveredInterface

structure DiscoveryWalk where
  fields : Dict := []
  done : List DiscoveredInterface := []
  current : Option DiscoveredInterface := none

def DiscoveryWalk.interfaces (state : DiscoveryWalk) : List DiscoveredInterface :=
  state.done ++ state.current.toList

def interfaceLine (found : DiscoveredInterface) : DiscoveryLine → Option DiscoveredInterface
  | .vrf vrf => some (found.set "vrf" vrf)
  | .peer peer transport =>
    some { found with peerId := some peer, transportAddress := some transport }
  | .hold hold ownHold peerHold =>
    some (((found.set "hold_time" hold).set "hold_time_local" ownHold).set "hold_time_peer"
      peerHold)
  | .established ts ago => some ((found.set "established" ts).set "established_ago" ago)
  | _ => none

def discoveryStep (state : DiscoveryWalk) (line : String) :
    Except ParseFailure (Step DiscoveryWalk) :=
  match discoveryLine u (pyStrip line) with
  | .localId id =>
    .ok { reading := .value
          state := { state with fields := state.fields.set "local_ldp_identifier" (.str id) } }
  | .heading => .ok { reading := .heading, state }
  | .interface interface direction =>
    .ok { reading := .value
          state := { state with
            done := state.interfaces, current := some { interface, direction } } }
  | known =>
    match state.current.bind (fun found => interfaceLine found known) with
    | some found => .ok { reading := .value, state := { state with current := some found } }
    | none => .ok { reading := .passed, state }

def parseXrLdpDiscovery (outputs : List String) : Except ParseFailure Extracted := do
  let text := firstOutput outputs
  let (readings, state) ← walk (discoveryStep u) {} (nonblankLines text)
  if (state.fields.get? "local_ldp_identifier").isNone ∧ body u text ≠ "" then
    throw (.parseError "no 'Local LDP Identifier' line found in non-empty output")
  let discovered := state.interfaces.filter (fun found => found.peerId.any (· ≠ ""))
  return { raw := text
           fields := (state.fields.set "interface_count" (.int state.interfaces.length)).set
             "discovered_peer_count" (.int discovered.length)
           records := state.interfaces.map DiscoveredInterface.toRecord
           walks := [readings] }

def SR_IGNORES : List IgnoreRule :=
  (SegmentRouting.SR_IGNORES u).map (fun pattern => { pattern })

def srReading (state : SegmentRouting.Reading) (line : String) : Reading :=
  if (matchStart (XR_SR_HEADER u) line).isSome then .value
  else
    match state.current with
    | none => .passed
    | some current =>
      if (policyLine u numbers.ofDigits line current).isNone then .passed
      else if pyStartsWith line "Name: " && current.name.isSome ||
          pyStartsWith line "Binding SID: " && current.bindingSid.isSome then .dropped
      else .value

def srStep (state : SegmentRouting.Reading) (line : String) :
    Except ParseFailure (Step SegmentRouting.Reading) :=
  let stripped := pyStrip line
  .ok { reading := srReading u numbers state stripped
        state := readLine u numbers.ofDigits state stripped }

def recordOf : Value → Dict
  | .dict fields => fields
  | _ => []

def parseXrSr (outputs : List String) : Except ParseFailure Extracted := do
  let text := firstOutput outputs
  let (readings, state) ← walk (srStep u numbers) {} (nonblankLines text)
  let policies := state.policies
  if policies = [] ∧ body u text ≠ "" ∧ !pyContains (body u text) "SR-TE policy database" then
    throw (.parseError "no SR-TE policy database header and no policies found")
  return { raw := text
           fields := [("policy_count", .int policies.length)]
           records := policies.map (fun policy => recordOf policy.toValue)
           walks := [readings] }

end Parsing

end NetTools
