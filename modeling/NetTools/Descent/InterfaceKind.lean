import NetTools.Python.Value

/-!
# Interface names

The taxonomy of `interface_kind.py` and the spelling under which two names of one device are
compared.
-/

namespace NetTools

inductive InterfaceKind where
  | physical
  | subinterface
  | aggregate
  | virtual
  | management
  | unknown
  deriving DecidableEq, Repr

def physicalPrefixes : List String :=
  ["GigabitEthernet", "TenGigE", "TwentyFiveGigE", "FortyGigE", "HundredGigE", "FourHundredGigE",
    "Ethernet", "Gi", "Te", "Twe", "Fo", "Hu", "FH"]

def aggregatePrefixes : List String := ["Bundle-Ether", "BE"]

def virtualPrefixes : List String :=
  ["Loopback", "Null", "BVI", "tunnel-te", "tunnel-ip", "tunnel-mte", "srte_c_", "Lo", "Nu", "BV"]

def managementPrefixes : List String := ["MgmtEth", "Mg"]

/-- The order in which `classify` tries the prefix tables. -/
def kindTables : List (List String × InterfaceKind) :=
  [(managementPrefixes, .management), (aggregatePrefixes, .aggregate),
    (virtualPrefixes, .virtual), (physicalPrefixes, .physical)]

def classify (name : String) : InterfaceKind :=
  let name := pyStrip name
  if name = "" then .unknown
  -- A dot makes a subinterface of what would otherwise be a port.
  else if name.toList.contains '.' then .subinterface
  else match kindTables.find? (fun table => table.1.any (fun start => pyStartsWith name start)) with
    | some table => table.2
    | none => .unknown

def isPhysicalMember (name : String) : Bool := classify name == .physical

def physicalMembers (names : List String) : List String × List String :=
  (names.filter isPhysicalMember, names.filter (fun name => classify name == .unknown))

def interfaceExpansions : List (String × String) :=
  [("GigabitEthernet", "GigabitEthernet"), ("TenGigE", "TenGigE"),
    ("TwentyFiveGigE", "TwentyFiveGigE"), ("FortyGigE", "FortyGigE"),
    ("HundredGigE", "HundredGigE"), ("FourHundredGigE", "FourHundredGigE"),
    ("Gi", "GigabitEthernet"), ("Te", "TenGigE"), ("Twe", "TwentyFiveGigE"), ("Fo", "FortyGigE"),
    ("Hu", "HundredGigE"), ("FH", "FourHundredGigE"), ("BE", "Bundle-Ether"),
    ("Bundle-Ether", "Bundle-Ether"), ("Lo", "Loopback"), ("Loopback", "Loopback"),
    ("Mg", "MgmtEth"), ("MgmtEth", "MgmtEth"), ("Mgmt", "MgmtEth"), ("Null", "Null"),
    ("Nu", "Null"), ("BVI", "BVI"), ("BV", "BVI"), ("tunnel-ip", "tunnel-ip"),
    ("ti", "tunnel-ip"), ("tunnel-te", "tunnel-te"), ("tt", "tunnel-te")]

/-- What follows `short` in a name that starts with it. -/
def afterShort (short name : String) : List Char := name.toList.drop short.length

def abbreviates (short name : String) : Bool :=
  pyStartsWith name short && ((afterShort short name).head?.all (fun c => !c.isAlpha))

def canonical (name : String) : String :=
  let name := pyStrip name
  if name = "" then ""
  else match interfaceExpansions.find? (fun entry => abbreviates entry.1 name) with
    | some (short, long) => long ++ String.ofList (afterShort short name)
    | none => name

def sameInterface (left right : String) : Bool := left != "" && canonical left == canonical right

lemma sameInterface_iff {left right : String} :
    sameInterface left right = true ↔ left ≠ "" ∧ canonical left = canonical right := by
  simp [sameInterface]

example : canonical "Gi0/0/0/0" = "GigabitEthernet0/0/0/0" := by decide

end NetTools
