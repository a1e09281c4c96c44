import NetTools.Descent.Checks

/-!
# Configured intent against observed state

The field comparisons of `config_diff.py`: what the configuration of one interface says beside what
the device shows of it.
-/

namespace NetTools

namespace ConfigDiff

inductive Outcome where
  | agrees
  | disagrees
  | cannotCompare
  deriving DecidableEq, Repr

/-- One field of one subject. What could not be compared says why. -/
structure FieldDiff where
  field : String
  outcome : Outcome
  intent : Value := .none
  observed : Value := .none
  reason : Option String := none
  intentEvidenceKey : Option String := none
  observedEvidenceKey : Option String := none
  explained : outcome = .cannotCompare → reason.getD "" ≠ ""

structure ReconciliationResult where
  device : String
  subject : String
  fields : List FieldDiff

def findByInterface (records : List Record) (interface : String) : Option Record :=
  records.find? (Record.onInterface interface)

/-- `value` of an optional text, as the record holds it. -/
def textValue : Option String → Value
  | none => .none
  | some text => .str text

def unread (side key : String) (bail : CheckResult) : String :=
  side ++ " (" ++ key ++ "): " ++ pyStrOption bail.reason

lemma append_ne_empty {start : String} (h : start ≠ "") (rest : String) : start ++ rest ≠ "" := by
  intro heq
  exact h (String.append_eq_empty_iff.mp heq).1

lemma unread_ne_empty {side : String} (h : side ≠ "") (key : String) (bail : CheckResult) :
    unread side key bail ≠ "" := by
  rw [unread, String.append_assoc, String.append_assoc, String.append_assoc]
  exact append_ne_empty h _

def bothRead (intentKey observedKey : String) (intent observed : Except CheckResult Section) :
    Except { reason : String // reason ≠ "" } (Section × Section) :=
  match intent, observed with
  | .ok intent, .ok observed => .ok (intent, observed)
  | .error bail, .ok _ =>
    .error ⟨unread "intent" intentKey bail, unread_ne_empty (by decide) intentKey bail⟩
  | .ok _, .error bail =>
    .error ⟨unread "observed" observedKey bail, unread_ne_empty (by decide) observedKey bail⟩
  | .error bail, .error bail' =>
    .error ⟨unread "intent" intentKey bail ++ ("; " ++ unread "observed" observedKey bail'),
      append_ne_empty (unread_ne_empty (by decide) intentKey bail) _⟩

/-- Whether the interface is configured under IS-IS, against an adjacency that is `Up` on it. -/
def diffIsisAdjacency (evidence : Evidence) (device interface : String) : FieldDiff :=
  let intentKey := evidenceKey device "config_isis"
  let observedKey := evidenceKey device "isis" (some interface)
  match bothRead intentKey observedKey (requireParsed evidence "config_isis" (some interface))
      (requireParsed evidence "isis" (some interface)) with
  | .error reason =>
    { field := "isis_adjacency", outcome := .cannotCompare, reason := some reason.1
      intentEvidenceKey := some intentKey, observedEvidenceKey := some observedKey
      explained := fun _ => reason.2 }
  | .ok (config, isis) =>
    let intentEnabled := (findByInterface config.parsedRecords interface).isSome
    let observedUp := (findByInterface isis.parsedRecords interface).any
      (fun record => record.state == some "Up")
    if intentEnabled = observedUp then
      { field := "isis_adjacency", outcome := .agrees
        intent := .bool intentEnabled, observed := .bool observedUp
        intentEvidenceKey := some intentKey, observedEvidenceKey := some observedKey
        explained := fun h => by cases h }
    else
      { field := "isis_adjacency", outcome := .disagrees
        intent := .bool intentEnabled, observed := .bool observedUp
        reason := some
          (if intentEnabled && !observedUp then
            device ++ ":" ++ interface ++ " is enabled under the configured IS-IS process " ++
              "('router isis' carries an interface stanza for it) but shows no Up adjacency in " ++
              "'show isis neighbors'"
          else
            device ++ ":" ++ interface ++ " shows an Up IS-IS adjacency in 'show isis " ++
              "neighbors' but has no interface stanza under the configured IS-IS process")
        intentEvidenceKey := some intentKey, observedEvidenceKey := some observedKey
        explained := fun h => by cases h }

def diffInterfaceAdminState (evidence : Evidence) (device interface : String) : FieldDiff :=
  let intentKey := evidenceKey device "config_interface" (some interface)
  let observedKey := evidenceKey device "interfaces" (some interface)
  match bothRead intentKey observedKey
      (requireParsed evidence ("config_interface:" ++ interface) (some interface))
      (requireParsed evidence "interfaces" (some interface)) with
  | .error reason =>
    { field := "interface_admin_state", outcome := .cannotCompare, reason := some reason.1
      intentEvidenceKey := some intentKey, observedEvidenceKey := some observedKey
      explained := fun _ => reason.2 }
  | .ok (config, interfaces) =>
    let intentShutdown := config.parsedMeta.shutdown.getD false
    match findByInterface interfaces.parsedRecords interface with
    | none =>
      { field := "interface_admin_state", outcome := .cannotCompare
        intent := .bool intentShutdown
        reason := some ("observed (" ++ observedKey ++ "): 'interfaces' parsed, but has no " ++
          "record for " ++ pyRepr interface ++ " -- present in config but never reported by " ++
          "'show interfaces brief'")
        intentEvidenceKey := some intentKey, observedEvidenceKey := some observedKey
        explained := fun _ => append_ne_empty (by simp) _ }
    | some record =>
      let observedUp := record.adminState == some "up"
      let expectedUp := !intentShutdown
      if expectedUp = observedUp then
        { field := "interface_admin_state", outcome := .agrees
          intent := .bool intentShutdown, observed := textValue record.adminState
          intentEvidenceKey := some intentKey, observedEvidenceKey := some observedKey
          explained := fun h => by cases h }
      else
        { field := "interface_admin_state", outcome := .disagrees
          intent := .bool intentShutdown, observed := textValue record.adminState
          reason := some
            (if intentShutdown then
              device ++ ":" ++ interface ++ " carries a 'shutdown' line in its configuration " ++
                "but 'show interfaces brief' reports admin_state=" ++
                pyReprOption record.adminState ++ ", not administratively down"
            else
              device ++ ":" ++ interface ++ " carries no 'shutdown' line in its configuration " ++
                "but 'show interfaces brief' reports admin_state=" ++
                pyReprOption record.adminState ++ ", not up")
          intentEvidenceKey := some intentKey, observedEvidenceKey := some observedKey
          explained := fun h => by cases h }

def diffInterfaceIpv4Address (evidence : Evidence) (device interface : String) : FieldDiff :=
  let intentKey := evidenceKey device "config_interface" (some interface)
  match requireParsed evidence ("config_interface:" ++ interface) (some interface) with
  | .error bail =>
    { field := "ipv4_address", outcome := .cannotCompare
      reason := some (unread "intent" intentKey bail)
      intentEvidenceKey := some intentKey
      explained := fun _ => unread_ne_empty (by decide) intentKey bail }
  | .ok config =>
    { field := "ipv4_address", outcome := .cannotCompare
      intent := textValue config.parsedMeta.ipv4Address
      reason := some ("no observed intent in this build reports a per-interface IPv4 address -- " ++
        "'interfaces' ('show interfaces brief') carries admin/line state, encapsulation, MTU " ++
        "and bandwidth only (parsers.parse_xr_interfaces); there is nothing on the operational " ++
        "axis to compare this field against")
      intentEvidenceKey := some intentKey
      explained := fun _ => append_ne_empty (by decide) _ }

def reconcileInterface (evidence : Evidence) (device interface : String) :
    ReconciliationResult where
  device := device
  subject := interface
  fields := [diffIsisAdjacency evidence device interface,
    diffInterfaceAdminState evidence device interface,
    diffInterfaceIpv4Address evidence device interface]

end ConfigDiff

end NetTools
