import NetTools.Parsing.Tables

/-!
# Sections of a configuration

`config_section.py`: the IS-IS process, which two loops go over, an interface, and LDP.
-/

namespace NetTools

namespace Parsing

open Pattern SegmentRouting

variable (numbers : Numbers)

def indent (line : String) : Nat := (line.toList.takeWhile (· = ' ')).length

/-- `stripped[len(start):].strip()`. -/
def argument (start stripped : String) : String := pyStrip (afterStart start stripped)

/-- The rule of a bare `!`. -/
def blockEnd : IgnoreRule := { pattern := fixedLine "!" }

structure InterfaceSupplemental where
  minimumInterval : Option Int := none
  multiplier : Option Int := none
  helloPaddingDisabled : Bool := false
  addressFamilies : List (String × Dict) := []
  prefixSidIndex : Option Int := none
  prefixSidAlgorithms : List (Int × Int) := []

def optionalInt (n : Option Int) : Value := (n.map Value.int).getD .none

def InterfaceSupplemental.toDict (data : InterfaceSupplemental) : Dict :=
  [("bfd", .dict [("minimum_interval", optionalInt data.minimumInterval),
      ("multiplier", optionalInt data.multiplier)]),
    ("hello_padding_disabled", .bool data.helloPaddingDisabled),
    ("address_families",
      .dict (data.addressFamilies.map (fun family => (family.1, .dict family.2)))),
    ("prefix_sid", .dict [("index", optionalInt data.prefixSidIndex),
      ("algorithms", .list (data.prefixSidAlgorithms.map (fun sid =>
        .dict [("algorithm", .int sid.1), ("index", .int sid.2)])))])]

/-- The dict that `current_scope` is. -/
inductive Scope where
  | family (index : Nat)
  | flexAlgorithm (index : Nat)
  | interfaceFamily (interface family : String)

structure Supplemental where
  logAdjacencyChanges : Bool := false
  lspGenIntervalMaximumWait : Option Int := none
  addressFamilies : List Dict := []
  flexAlgorithms : List Dict := []
  interfaces : List (String × InterfaceSupplemental) := []
  currentInterface : Option String := none
  /-- `current_scope` and `scope_depth`. -/
  scope : Option (Scope × Nat) := none

def changeAt {α : Type} (key : String) (f : α → α) (entries : List (String × α)) :
    List (String × α) :=
  entries.map (fun entry => if entry.1 = key then (entry.1, f entry.2) else entry)

/-- `setdefault`, of entries that are no values. -/
def putDefault {α : Type} (key : String) (a : α) (entries : List (String × α)) :
    List (String × α) :=
  if (entries.lookup key).isSome then entries else entries ++ [(key, a)]

namespace Supplemental

def change (s : Supplemental) (name : String) (f : InterfaceSupplemental → InterfaceSupplemental) :
    Supplemental :=
  { s with interfaces := changeAt name f s.interfaces }

/-- `current_scope[key] = value`. -/
def setInScope (s : Supplemental) (key : String) (value : Value) : Supplemental :=
  match s.scope with
  | none => s
  | some (.family i, _) =>
    { s with addressFamilies := s.addressFamilies.modify i (fun scope => scope.set key value) }
  | some (.flexAlgorithm i, _) =>
    { s with flexAlgorithms := s.flexAlgorithms.modify i (fun scope => scope.set key value) }
  | some (.interfaceFamily name family, _) =>
    s.change name (fun data => { data with
      addressFamilies := changeAt family (fun scope => scope.set key value) data.addressFamilies })

def toDict (s : Supplemental) : Dict :=
  [("log_adjacency_changes", .bool s.logAdjacencyChanges),
    ("lsp_gen_interval_maximum_wait", optionalInt s.lspGenIntervalMaximumWait),
    ("address_families", .list (s.addressFamilies.map .dict)),
    ("flex_algorithms", .list (s.flexAlgorithms.map .dict))]

end Supplemental

/-- `stripped.split()[1]`. -/
def secondWord (stripped : String) : String := (Grounding.words stripped).getD 1 ""

def globalLine (s : Supplemental) (stripped : String) :
    Except ParseFailure (Step Supplemental) := do
  if stripped = "log adjacency changes" then
    return { reading := .value, state := { s with logAdjacencyChanges := true } }
  else if pyStartsWith stripped "lsp-gen-interval maximum-wait " then
    let wait ← numbers.int (afterLastSpace stripped)
    return { reading := .value, state := { s with lspGenIntervalMaximumWait := some wait } }
  else if pyStartsWith stripped "address-family " then
    let family : Dict := [("family", .str (secondWord stripped)), ("metric_style", .none),
      ("traffic_eng_level_2_only", .bool false), ("segment_routing_mpls", .bool false)]
    return { reading := .value
             state := { s with
               addressFamilies := s.addressFamilies ++ [family]
               scope := some (.family s.addressFamilies.length, 1) } }
  else if pyStartsWith stripped "flex-algo " then
    let algorithm ← numbers.int (secondWord stripped)
    let flexAlgorithm : Dict := [("algorithm", .int algorithm), ("metric_type", .none),
      ("advertise_definition", .bool false)]
    return { reading := .value
             state := { s with
               flexAlgorithms := s.flexAlgorithms ++ [flexAlgorithm]
               scope := some (.flexAlgorithm s.flexAlgorithms.length, 1) } }
  else return { reading := .passed, state := s }

def stanzaLine (s : Supplemental) (name stripped : String) :
    Except ParseFailure (Step Supplemental) := do
  if pyStartsWith stripped "bfd minimum-interval " then
    let interval ← numbers.int (afterLastSpace stripped)
    return { reading := .value
             state := s.change name (fun data => { data with minimumInterval := some interval }) }
  else if pyStartsWith stripped "bfd multiplier " then
    let multiplier ← numbers.int (afterLastSpace stripped)
    return { reading := .value
             state := s.change name (fun data => { data with multiplier := some multiplier }) }
  else if stripped = "hello-padding disable" then
    return { reading := .value
             state := s.change name (fun data => { data with helloPaddingDisabled := true }) }
  else if pyStartsWith stripped "address-family " then
    let family := secondWord stripped
    let options : Dict := [("fast_reroute_per_prefix", .bool false), ("ti_lfa", .bool false)]
    return { reading := .value
             state := { s.change name (fun data => { data with
                 addressFamilies := putDefault family options data.addressFamilies }) with
               scope := some (.interfaceFamily name family, 2) } }
  else return { reading := .passed, state := s }

def scopeLine (s : Supplemental) (stripped : String) : Except ParseFailure (Step Supplemental) :=
  match s.currentInterface with
  | none => do
    if pyStartsWith stripped "metric-style wide level " then
      let level ← numbers.int (afterLastSpace stripped)
      return { reading := .value
               state := s.setInScope "metric_style"
                 (.dict [("style", .str "wide"), ("level", .int level)]) }
    else if stripped = "mpls traffic-eng level-2-only" then
      return { reading := .value, state := s.setInScope "traffic_eng_level_2_only" (.bool true) }
    else if stripped = "segment-routing mpls" then
      return { reading := .value, state := s.setInScope "segment_routing_mpls" (.bool true) }
    else if stripped = "metric-type delay" then
      return { reading := .value, state := s.setInScope "metric_type" (.str "delay") }
    else if stripped = "advertise-definition" then
      return { reading := .value, state := s.setInScope "advertise_definition" (.bool true) }
    else return { reading := .passed, state := s }
  | some name => do
    if stripped = "fast-reroute per-prefix" then
      return { reading := .value, state := s.setInScope "fast_reroute_per_prefix" (.bool true) }
    else if stripped = "fast-reroute per-prefix ti-lfa" then
      return { reading := .value, state := s.setInScope "ti_lfa" (.bool true) }
    else if pyStartsWith stripped "prefix-sid algorithm " then
      match Grounding.words stripped with
      | [_, _, algorithm, _, index] =>
        let algorithm ← numbers.int algorithm
        let index ← numbers.int index
        return { reading := .value
                 state := s.change name (fun data => { data with
                   prefixSidAlgorithms := data.prefixSidAlgorithms ++ [(algorithm, index)] }) }
      | _ => throw .valueError
    else if pyStartsWith stripped "prefix-sid index " then
      let index ← numbers.int (afterLastSpace stripped)
      return { reading := .value
               state := s.change name (fun data => { data with prefixSidIndex := some index }) }
    else return { reading := .passed, state := s }

/-- One turn of `_config_isis_supplemental`. -/
def supplementalStep (s : Supplemental) (line : String) :
    Except ParseFailure (Step Supplemental) :=
  let stripped := pyStrip line
  let depth := indent line
  if stripped = "!" then .ok { reading := .passed, state := { s with scope := none } }
  else if depth = 1 ∧ pyStartsWith stripped "interface " then
    let name := argument "interface " stripped
    .ok { reading := .passed
          state := { s with
            currentInterface := some name
            interfaces := putDefault name {} s.interfaces
            scope := none } }
  else if depth = 1 then globalLine numbers { s with currentInterface := none } stripped
  else if s.currentInterface.isSome ∧ depth = 2 then
    stanzaLine numbers s (s.currentInterface.getD "") stripped
  else if s.scope.all (fun scope => decide (depth ≤ scope.2)) then
    .ok { reading := .passed, state := s }
  else scopeLine numbers s stripped

/-! ### IS-IS -/

def CONFIG_ISIS_IGNORES : List IgnoreRule := [blockEnd]

structure IsisInterface where
  interface : String
  passive : Bool := false
  pointToPoint : Bool := false
  authenticationConfigured : Bool := false
  addressFamilies : List String := []

structure IsisWalk where
  process : Option String := none
  isType : Option String := none
  net : Option String := none
  authenticationConfigured : Bool := false
  records : List IsisInterface := []
  /-- `current` and `interface_depth`. -/
  current : Option (IsisInterface × Nat) := none

namespace IsisWalk

def close (s : IsisWalk) : IsisWalk :=
  { s with records := s.records ++ (s.current.map Prod.fst).toList, current := none }

def closeAt (s : IsisWalk) (depth : Nat) : IsisWalk :=
  if s.current.any (fun current => decide (depth ≤ current.2)) then s.close else s

end IsisWalk

def childLine (s : IsisWalk) (current : IsisInterface) (depth : Nat) (stripped : String) :
    Step IsisWalk :=
  if stripped = "passive" then
    { reading := .value
      state := { s with current := some ({ current with passive := true }, depth) } }
  else if stripped = "point-to-point" then
    { reading := .value
      state := { s with current := some ({ current with pointToPoint := true }, depth) } }
  else if pyStartsWith stripped "authentication" then
    { reading := .value
      state := { s with
        current := some ({ current with authenticationConfigured := true }, depth) } }
  else if pyStartsWith stripped "address-family " then
    let af := secondWord stripped
    { reading := .value
      state := { s with
        current := some ({ current with
          addressFamilies :=
            if af ∈ current.addressFamilies then current.addressFamilies
            else current.addressFamilies ++ [af] }, depth) } }
  else { reading := .passed, state := s }

def processLine (s : IsisWalk) (stripped : String) : Step IsisWalk :=
  if pyStartsWith stripped "interface " then
    { reading := .value
      state := { s with current := some ({ interface := argument "interface " stripped }, 1) } }
  else if pyStartsWith stripped "is-type " then
    { reading := .value, state := { s with isType := some (argument "is-type " stripped) } }
  else if pyStartsWith stripped "net " then
    { reading := .value, state := { s with net := some (argument "net " stripped) } }
  else if pyStartsWith stripped "authentication" then
    { reading := .value, state := { s with authenticationConfigured := true } }
  else { reading := .passed, state := s }

/-- One turn of the loop of `parse_xr_config_isis`. -/
def configIsisStep (s : IsisWalk) (line : String) : Except ParseFailure (Step IsisWalk) :=
  let stripped := pyStrip line
  let depth := indent line
  let s := s.closeAt depth
  if pyStartsWith stripped "router isis " then
    .ok { reading := .value
          state := { s with process := some (argument "router isis " stripped) } }
  else
    match s.current with
    | some (current, own) =>
      if depth = own + 1 then .ok (childLine s current own stripped)
      else .ok { reading := .passed, state := s }
    | none =>
      if depth = 1 then .ok (processLine s stripped) else .ok { reading := .passed, state := s }

def IsisInterface.toRecord (found : IsisInterface)
    (interfaces : List (String × InterfaceSupplemental)) : Dict :=
  [("interface", .str found.interface), ("passive", .bool found.passive),
    ("point_to_point", .bool found.pointToPoint),
    ("authentication_configured", .bool found.authenticationConfigured),
    ("address_families", .list (found.addressFamilies.map .str)),
    ("supplemental", .dict ((interfaces.lookup found.interface).getD {}).toDict)]

def optionalText (text : Option String) : Value := (text.map Value.str).getD .none

def parseXrConfigIsis (output : String) : Except ParseFailure Extracted := do
  let lines := nonblankLines output
  let (supplementalReadings, supplemental) ← walk (supplementalStep numbers) {} lines
  let (readings, state) ← walk configIsisStep {} lines
  if state.process = none then throw (.parseError "no 'router isis <tag>' header line found")
  return { raw := output
           fields := [("instance", optionalText state.process),
             ("is_type", optionalText state.isType), ("net", optionalText state.net),
             ("authentication_configured", .bool state.authenticationConfigured),
             ("supplemental", .dict supplemental.toDict)]
           records := state.close.records.map (fun found => found.toRecord supplemental.interfaces)
           walks := [supplementalReadings, readings] }

def CONFIG_INTERFACE_IGNORES : List IgnoreRule := [blockEnd]

structure ConfigInterface where
  interface : Option String := none
  description : Option String := none
  shutdown : Bool := false
  vrf : Option String := none
  ipv4Address : Option String := none
  ipv4Netmask : Option String := none
  ipv6Addresses : List String := []

def configInterfaceStep (fields : ConfigInterface) (line : String) :
    Except ParseFailure (Step ConfigInterface) :=
  let stripped := pyStrip line
  if pyStartsWith stripped "interface " then
    .ok { reading := .value
          state := { fields with interface := some (argument "interface " stripped) } }
  else if pyStartsWith stripped "description " then
    .ok { reading := .value
          state := { fields with description := some (argument "description " stripped) } }
  else if stripped = "shutdown" then
    .ok { reading := .value, state := { fields with shutdown := true } }
  else if pyStartsWith stripped "vrf " then
    .ok { reading := .value, state := { fields with vrf := some (argument "vrf " stripped) } }
  else if pyStartsWith stripped "ipv4 address " then
    -- an address that is not followed by a mask alone is claimed, but no field gets it
    match Grounding.words (afterStart "ipv4 address " stripped) with
    | [address, netmask] =>
      .ok { reading := .value
            state := { fields with ipv4Address := some address, ipv4Netmask := some netmask } }
    | _ => .ok { reading := .dropped, state := fields }
  else if pyStartsWith stripped "ipv6 address " then
    .ok { reading := .value
          state := { fields with
            ipv6Addresses := fields.ipv6Addresses ++ [argument "ipv6 address " stripped] } }
  else .ok { reading := .passed, state := fields }

def ConfigInterface.toDict (fields : ConfigInterface) : Dict :=
  [("interface", optionalText fields.interface), ("description", optionalText fields.description),
    ("shutdown", .bool fields.shutdown), ("vrf", optionalText fields.vrf),
    ("ipv4_address", optionalText fields.ipv4Address),
    ("ipv4_netmask", optionalText fields.ipv4Netmask),
    ("ipv6_addresses", .list (fields.ipv6Addresses.map .str))]

def parseXrConfigInterface (output : String) : Except ParseFailure Extracted := do
  let (readings, fields) ← walk configInterfaceStep {} (nonblankLines output)
  if fields.interface = none then
    throw (.parseError "no 'interface <name>' header line found")
  return { raw := output, fields := fields.toDict, walks := [readings] }

def CONFIG_LDP_IGNORES : List IgnoreRule :=
  [{ pattern := [litPart "address-family ", .oneOf ["ipv4".toList, "ipv6".toList], .stop]
     kind := .notNeededYet },
    blockEnd]

structure ConfigLdp where
  foundHeader : Bool := false
  records : List Dict := []

def configLdpStep (state : ConfigLdp) (line : String) : Except ParseFailure (Step ConfigLdp) :=
  let stripped := pyStrip line
  if stripped = "mpls ldp" then
    .ok { reading := .heading, state := { state with foundHeader := true } }
  else if state.foundHeader ∧ pyStartsWith stripped "interface " then
    .ok { reading := .value
          state := { state with
            records := state.records ++ [[("interface", .str (argument "interface " stripped))]] } }
  else .ok { reading := .passed, state }

def parseXrConfigLdp (output : String) : Except ParseFailure Extracted := do
  let (readings, state) ← walk configLdpStep {} (nonblankLines output)
  if !state.foundHeader then throw (.parseError "no 'mpls ldp' header line found")
  return { raw := output, records := state.records, walks := [readings] }

end Parsing

end NetTools
