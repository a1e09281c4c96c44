import NetTools.Templates.Render

/-!
# The allowlist by platform

`platforms.py`: the commands of each intent on each platform, and the templates that generate
traffic.
-/

namespace NetTools

namespace Platforms

def INTENT_ORDER : List String :=
  ["facts", "interfaces", "bgp", "bgp_vpnv4", "lldp", "isis", "ldp", "ldp_discovery", "sr"]

def PLATFORM_INTENTS : List (String × List (String × List String)) :=
  [("cisco_xr",
      [("facts", ["show running-config hostname", "show version"]),
        ("interfaces", ["show interfaces brief"]), ("bgp", ["show bgp summary"]),
        ("bgp_vpnv4", ["show bgp vpnv4 unicast summary"]), ("lldp", ["show lldp neighbors"]),
        ("isis", ["show isis neighbors"]), ("ldp", ["show mpls ldp neighbor"]),
        ("ldp_discovery", ["show mpls ldp discovery"]),
        ("sr", ["show segment-routing traffic-eng policy"])]),
    ("cisco_iosxe",
      [("facts", ["show version"]), ("interfaces", ["show ip interface brief"]),
        ("bgp", ["show ip bgp summary"]), ("lldp", ["show lldp neighbors"]),
        ("isis", ["show isis neighbors"])]),
    ("juniper_junos",
      [("facts", ["show version"]), ("interfaces", ["show interfaces terse"]),
        ("bgp", ["show bgp summary"]), ("lldp", ["show lldp neighbors"]),
        ("isis", ["show isis adjacency"])])]

def platformIntents (platform : String) : List (String × List String) :=
  (PLATFORM_INTENTS.lookup platform).getD []

def approvedCommands (platform : String) : List String :=
  (platformIntents platform).flatMap Prod.snd

def knownPlatforms : List String := PLATFORM_INTENTS.map Prod.fst

def allIntents : List String :=
  let seen := PLATFORM_INTENTS.flatMap (fun platform => platform.2.map Prod.fst)
  INTENT_ORDER.filter (· ∈ seen) ++ sortedNames (seen.filter (· ∉ INTENT_ORDER))

/-- `supports`. -/
def supportsIntent (platform intent : String) : Bool :=
  ((platformIntents platform).lookup intent).isSome

def intentsFor (platform : String) : List String := allIntents.filter (supportsIntent platform)

def commandsFor (platform intent : String) : List String :=
  ((platformIntents platform).lookup intent).getD []

def isApproved (platform command : String) : Bool := command ∈ approvedCommands platform

def supportsTemplate (platform templateName : String) : Bool :=
  (((platformTemplates.lookup platform).getD []).lookup templateName).isSome

def activeProbe (platform templateName : String) : Bool :=
  platform = "cisco_xr" ∧ (templateName = "ping" ∨ templateName = "traceroute")

def readTimeout (platform templateName : String) : Nat :=
  if platform = "cisco_xr" ∧ templateName = "ping" then 30
  else if platform = "cisco_xr" ∧ templateName = "traceroute" then 60
  else 10

end Platforms

end NetTools
