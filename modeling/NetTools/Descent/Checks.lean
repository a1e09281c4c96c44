import NetTools.Descent.Evidence
import NetTools.Descent.InterfaceKind

/-!
# Checks

The predicates of `checks.py` that the rungs of the flows run. Every check gives one verdict
about one object and reads nothing but parsed evidence.
-/

namespace NetTools

def pyStrOption : Option String → String
  | none => "None"
  | some text => text

/-- `value or None` of an optional string. -/
def orNone (value : Option String) : Option String := value.filter (fun text => text != "")

def fromKeys (keys : List String) : List String := keys.eraseDups

lemma fromKeys_cons_ne_nil (key : String) (keys : List String) : fromKeys (key :: keys) ≠ [] := by
  simp [fromKeys, List.eraseDups_cons]

namespace Record

/-- The row is about the interface `name`. -/
def onInterface (name : String) (record : Record) : Bool :=
  sameInterface (record.interface.getD "") name

def onLocalInterface (name : String) (record : Record) : Bool :=
  sameInterface (record.localInterface.getD "") name

def discovers (name : String) (record : Record) : Bool :=
  record.discoveryInterfaces.any (fun discovered => sameInterface discovered name)

def isUp (record : Record) : Bool :=
  record.adminState == some "up" && record.lineProtocol == some "up"

end Record

def bgpSessionState (evidence : Evidence) (peer : String) : CheckResult :=
  match requireParsed evidence "bgp" (some peer) with
  | .error bail => bail
  | .ok sec =>
    let key := evidenceKey evidence.device "bgp" (some peer)
    match sec.parsedRecords.find? (fun record => record.neighbor == some peer) with
    | none => unevaluated (some peer) ("no record of BGP peer " ++ peer ++ " in 'bgp'")
    | some record =>
      let state := record.sessionState.getD ""
      if state = "Established" then
        healthy (some peer) [key] ("BGP session to " ++ peer ++ " is Established (" ++
          pyStrOption (record.prefixesReceived.map toString) ++ " prefixes received)")
      else
        broken (some peer) [key] ("BGP session to " ++ peer ++ " is not Established (state: " ++
          state ++ ")")

def tcpUpStates : List String := ["OpenSent", "OpenConfirm", "Established"]

def stateNote (fields : Meta) : String × Option String :=
  match orNone fields.stateReason with
  | none => ("", none)
  | some reason => ("; the device reports the session state as " ++ pyRepr reason, some reason)

def lastResetNote (fields : Meta) : String × Option String :=
  match orNone fields.lastResetReason with
  | none => ("", none)
  | some reason =>
    let when_ := match orNone fields.lastResetAgo with
      | none => ""
      | some ago => " " ++ ago ++ " ago"
    ("; the device last recorded a reset" ++ when_ ++ " with reason " ++ pyRepr reason ++
      " (history, not current state)", some reason)

def bgpTransport (evidence : Evidence) (peer : String) : CheckResult :=
  let keyName := "bgp_neighbor:" ++ peer
  match requireParsed evidence keyName (some peer) with
  | .error bail => bail
  | .ok sec =>
    let key := evidenceKey evidence.device keyName
    let fields := sec.parsedMeta
    if !fields.found then
      unevaluated (some peer) ("no record of BGP peer " ++ peer ++ " (" ++
        (orNone fields.reason).getD "not found" ++ ")")
    else
      let fsm := (orNone fields.connectionState).or fields.state
      let (resetSuffix, resetFragment) := lastResetNote fields
      match fields.socketArmedRead with
      | some armed =>
        let (stateSuffix, stateFragment) := stateNote fields
        if armed && fsm.any (fun state => tcpUpStates.contains state) then
          healthy (some peer) [key] ("TCP transport to " ++ peer ++
            " is up (the socket is armed for read, session state " ++ pyStrOption fsm ++ ")" ++
            stateSuffix) (quoted [stateFragment])
        else if armed then
          -- Armed while the session is still being attempted: neither up nor down.
          unevaluated (some peer) ("cannot judge TCP transport to " ++ peer ++
            ": the socket is armed for read but the session is in " ++
            (orNone fsm).getD "an unreported state" ++
            ", which does not imply an established TCP connection (B-497)" ++ stateSuffix ++
            resetSuffix) [key] (quoted [stateFragment, resetFragment])
        else
          broken (some peer) [key] ("no TCP transport to " ++ peer ++
            " (the socket is not armed for read)" ++ stateSuffix ++ resetSuffix)
            (quoted [stateFragment, resetFragment])
      | none =>
        if fields.connectionState = some "Established" then
          healthy (some peer) [key] ("BGP transport session to " ++ peer ++
            " is Established (no socket state reported; read from the session state)")
        else
          broken (some peer) [key] ("BGP transport session to " ++ peer ++
            " is not Established (connection_state: " ++ pyStrOption fields.connectionState ++
            "; no socket state reported)" ++ resetSuffix) (quoted [resetFragment])

def routeNotInTable : String := "% Network not in table"

def routePresent (evidence : Evidence) (route : String) : CheckResult :=
  let keyName := "route:" ++ route
  match requireParsed evidence keyName (some route) with
  | .error bail => bail
  | .ok sec =>
    let key := evidenceKey evidence.device keyName
    if sec.parsedMeta.found then
      healthy (some route) [key] ("route to " ++ route ++ " is present (" ++
        sec.parsedMeta.pathCount.getD "0" ++ " path(s))")
    else
      broken (some route) [key] ("no route to " ++ route ++ " (device reports " ++
        pyRepr routeNotInTable ++ ")") (quoted [some routeNotInTable])

def isisAdjacency (evidence : Evidence) (interface : Option String) : CheckResult :=
  match requireParsed evidence "isis" interface with
  | .error bail => bail
  | .ok sec =>
    let key := evidenceKey evidence.device "isis" interface
    let records := sec.parsedRecords
    match interface with
    | none =>
      let notUp := records.filter (fun record => record.state != some "Up")
      if records = [] then
        broken none [key] "no IS-IS adjacencies; device is isolated at the IGP layer"
      else if notUp = [] then
        healthy none [key] (toString records.length ++ " IS-IS adjacency(ies), all Up")
      else
        broken none [key] ("IS-IS adjacency not Up: " ++ String.intercalate ", "
          (notUp.map (fun record =>
            pyStrOption record.systemId ++ " (" ++ pyStrOption record.state ++ ")")))
    | some name =>
      match records.find? (fun record => record.interface == some name) with
      | none =>
        unevaluated (some name) ("no IS-IS adjacency record for interface " ++ pyRepr name)
      | some record =>
        if record.state = some "Up" then
          healthy (some name) [key] ("IS-IS adjacency on " ++ name ++ " to " ++
            pyStrOption record.systemId ++ " is Up")
        else
          broken (some name) [key] ("IS-IS adjacency on " ++ name ++ " is " ++
            pyStrOption record.state ++ ", not Up")

def linkStates (record : Record) : String :=
  "(admin_state=" ++ pyReprOption record.adminState ++ ", line_state=" ++
    pyReprOption record.lineProtocol ++ ")"

def isisNeighborUp (evidence : Evidence) (interface : String) : CheckResult :=
  match requireParsed evidence "isis" (some interface) with
  | .error bail => bail
  | .ok isis =>
    let isisKey := evidenceKey evidence.device "isis" (some interface)
    let missing := "no IS-IS adjacency record for interface " ++ pyRepr interface
    match isis.parsedRecords.find? (Record.onInterface interface) with
    | some record =>
      if record.state = some "Up" then
        healthy (some interface) [isisKey] ("IS-IS adjacency on " ++ interface ++ " to " ++
          pyStrOption record.systemId ++ " is Up")
      else
        broken (some interface) [isisKey] ("IS-IS adjacency on " ++ interface ++ " is " ++
          pyStrOption record.state ++ ", not Up")
    | none =>
      -- Silence of IS-IS is corroborated: by LLDP first, by the interface itself second.
      match requireParsed evidence "lldp" (some interface) with
      | .error bail =>
        unevaluated (some interface) (missing ++ ", and LLDP could not be read to confirm " ++
          "whether a neighbor is cabled there (" ++ pyStrOption bail.reason ++ ")")
      | .ok lldp =>
        match lldp.parsedRecords.find? (Record.onLocalInterface interface) with
        | some record =>
          broken (some interface)
            [isisKey, evidenceKey evidence.device "lldp" (some interface)]
            ("no IS-IS adjacency on " ++ interface ++ ", despite LLDP showing " ++
              pyStrOption record.neighbor ++ " cabled there on " ++
              pyStrOption record.neighborInterface ++ " -- a real, physically-connected " ++
              "neighbor with no IS-IS adjacency formed")
        | none =>
          match requireParsed evidence "interfaces" (some interface) with
          | .error bail =>
            unevaluated (some interface) (missing ++ ", no LLDP neighbor there, and the " ++
              "interface's own state could not be read either (" ++ pyStrOption bail.reason ++
              ")")
          | .ok interfaces =>
            match (interfaces.parsedRecords.find? (Record.onInterface interface)).filter
                (fun record => !record.isUp) with
            | some record =>
              broken (some interface)
                [isisKey, evidenceKey evidence.device "interfaces" (some interface)]
                ("no IS-IS adjacency on " ++ interface ++ ", and no LLDP neighbor either -- " ++
                  "the interface itself is not up " ++ linkStates record ++
                  ", which explains both")
            | none =>
              unevaluated (some interface) (missing ++ ", no LLDP neighbor there, and the " ++
                "interface itself reads up -- it may simply not be an IS-IS-enabled link")

def ldpSessionUp (evidence : Evidence) (interface : String) : CheckResult :=
  let subject := some interface
  match requireParsed evidence "ldp" subject with
  | .error bail => bail
  | .ok ldp =>
    let ldpKey := evidenceKey evidence.device "ldp" subject
    let discoveryKey := evidenceKey evidence.device "ldp_discovery" subject
    let interfacesKey := evidenceKey evidence.device "interfaces" subject
    let configKey := evidenceKey evidence.device "config_ldp"
    let intentKey := evidenceKey evidence.device "ldp_intent"
    let missing := "no LDP session record for interface " ++ pyRepr interface
    match ldp.parsedRecords.find? (Record.discovers interface) with
    | some record =>
      if record.state = some "Oper" then
        healthy subject [ldpKey] ("LDP session with peer " ++ pyStrOption record.peerId ++
          " on " ++ interface ++ " is Oper")
      else
        broken subject [ldpKey] ("LDP session with peer " ++ pyStrOption record.peerId ++
          " on " ++ interface ++ " is " ++ pyStrOption record.state ++ ", not Oper")
    | none =>
      match requireParsed evidence "ldp_discovery" subject with
      | .error bail =>
        unevaluated subject (missing ++ ", and LDP discovery could not be read to confirm " ++
          "whether Hello has formed there (" ++ pyStrOption bail.reason ++ ")")
      | .ok discovery =>
        match discovery.parsedRecords.find? (Record.onInterface interface) with
        | some record =>
          match orNone record.peerId with
          | some peerId =>
            broken subject [ldpKey, discoveryKey] ("LDP Hello established with peer " ++
              peerId ++ " on " ++ interface ++ ", but no LDP session record for it -- " ++
              "session not Oper despite a completed discovery")
          | none =>
            broken subject [ldpKey, discoveryKey] ("LDP Hello is configured on " ++ interface ++
              " but no peer has been discovered there (sending only, not receiving a reply) " ++
              "-- no LDP session can form")
        | none =>
          match requireParsed evidence "interfaces" subject with
          | .error bail =>
            unevaluated subject (missing ++ ", no LDP discovery source there, and the " ++
              "interface's own state could not be read either (" ++ pyStrOption bail.reason ++
              ")")
          | .ok interfaces =>
            match (interfaces.parsedRecords.find? (Record.onInterface interface)).filter
                (fun record => !record.isUp) with
            | some record =>
              broken subject [ldpKey, interfacesKey] ("no LDP session or discovery on " ++
                interface ++ " -- the interface itself is not up " ++ linkStates record ++
                ", which explains both")
            | none =>
              match requireParsed evidence "config_ldp" subject with
              | .error bail =>
                unevaluated subject ("no LDP session record or discovery source on " ++
                  interface ++ ", and the bounded LDP configuration could not be read to " ++
                  "establish whether LDP is enabled there (" ++ pyStrOption bail.reason ++ ")")
              | .ok config =>
                if config.parsedRecords.any (Record.onInterface interface) then
                  broken subject [ldpKey, discoveryKey, interfacesKey, configKey]
                    ("LDP is configured on " ++ interface ++ ", but it has no LDP discovery " ++
                      "source or session record while the interface is up")
                else
                  match requireParsed evidence "ldp_intent" subject with
                  | .error bail =>
                    unevaluated subject ("no LDP session record or discovery source on " ++
                      interface ++ ", and the declared LDP intent could not be read (" ++
                      pyStrOption bail.reason ++ ")")
                  | .ok intent =>
                    if intent.parsedRecords.any (Record.onInterface interface) then
                      broken subject
                        [ldpKey, discoveryKey, interfacesKey, configKey, intentKey]
                        ("inventory declares LDP is required on " ++ interface ++ ", but the " ++
                          "current configuration, discovery, and session state are all absent")
                    else
                      unevaluated subject (missing ++ ", no LDP discovery source there, and " ++
                        "the interface itself reads up -- LDP is not configured on this link")

def errorCounterNames : List String :=
  ["input_errors", "crc", "frame", "overrun", "abort", "output_errors", "underruns",
    "carrier_transitions"]

/-- The error counters of a section, the later row of a counter first; `none` when no row
carries one. -/
def extractErrorCounters (sec : Section) : Option (List (String × Int)) :=
  let counters := sec.parsedRecords.filterMap (fun record => do
    let name ← record.counter
    let value ← record.value.bind pyInt
    if errorCounterNames.contains name then some (name, value) else none)
  if counters = [] then none else some counters.reverse

/-- The admin and the line state of one interface, and its error counters if any. -/
structure InterfaceObservation where
  adminState : Option String
  lineState : Option String
  counters : Option (List (String × Int))
  key : String

def readBulkObservation (evidence : Evidence) (name : String) (templateBail : Option CheckResult) :
    Except CheckResult InterfaceObservation :=
  match requireParsed evidence "interfaces" (some name) with
  | .ok bulk =>
    match bulk.parsedRecords.find? (Record.onInterface name) with
    | some record =>
      .ok ⟨record.adminState, record.lineProtocol, none,
        evidenceKey evidence.device "interfaces" (some name)⟩
    | none =>
      .error (unevaluated (some name)
        ("no record of interface " ++ pyRepr name ++ " in 'interfaces'"))
  | .error bulkBail =>
    let reasons := [templateBail.bind CheckResult.reason, bulkBail.reason].filterMap orNone
    .error (unevaluated (some name)
      (if reasons = [] then "no evidence for interface " ++ pyRepr name
        else String.intercalate "; " reasons))

def readInterfaceObservation (evidence : Evidence) (name : String) :
    Except CheckResult InterfaceObservation :=
  let templateKey := "interface:" ++ name
  match requireParsed evidence templateKey (some name) with
  | .ok sec =>
    match sec.parsedMeta.adminState, sec.parsedMeta.lineState with
    | some adminState, some lineState =>
      .ok ⟨some adminState, some lineState, extractErrorCounters sec,
        evidenceKey evidence.device templateKey⟩
    | _, _ => readBulkObservation evidence name none
  | .error bail => readBulkObservation evidence name (some bail)

def counterDeltaStatus (current previous : Option (List (String × Int))) (hasPrevious : Bool) :
    Status × String :=
  if !hasPrevious then (.unevaluated, "single observation")
  else match current, previous with
    | some now, some before =>
      let rising := errorCounterNames.filterMap (fun counter => do
        let was ← before.lookup counter
        let value ← now.lookup counter
        if was < value then some (counter, was, value) else none)
      if rising = [] then (.healthy, "error-counter rate flat across two observations")
      else (.broken, "error-counter rate rising: " ++ String.intercalate "; "
        (rising.map (fun (counter, was, value) =>
          counter ++ " " ++ toString was ++ "->" ++ toString value)))
    | _, _ => (.unevaluated, "error counters absent from at least one observation")

def interfaceState (evidence : Evidence) (name : String) (previous : Option Evidence) :
    CheckResult :=
  match readInterfaceObservation evidence name with
  | .error bail => bail
  | .ok obs =>
    if obs.adminState ≠ some "up" ∨ obs.lineState ≠ some "up" then
      broken (some name) [obs.key] ("interface " ++ name ++ " is not up (admin_state=" ++
        pyReprOption obs.adminState ++ ", line_state=" ++ pyReprOption obs.lineState ++ ")")
    else
      let before := previous.bind (fun earlier => (readInterfaceObservation earlier name).toOption)
      let keys := fromKeys (obs.key :: (before.map InterfaceObservation.key).toList)
      let (status, detail) := counterDeltaStatus obs.counters
        (before.bind InterfaceObservation.counters) previous.isSome
      match status with
      | .broken =>
        broken (some name) keys ("line protocol up; " ++ detail) none
          (fromKeys_cons_ne_nil _ _)
      | .unevaluated =>
        healthy (some name) [obs.key]
          ("line protocol up; error-counter rate not evaluated (" ++ detail ++ ")")
      | .healthy =>
        healthy (some name) keys ("line protocol up; " ++ detail) none
          (fromKeys_cons_ne_nil _ _)

end NetTools
