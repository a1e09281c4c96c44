import NetTools.Parsing.CountedSections

/-!
# Which parsers count every line once

The parsers of the fixed commands and of the configuration sections, and for each the outputs whose
lines it counts once.
-/

namespace NetTools

namespace Parsing

open Pattern

inductive Parser where
  | facts
  | interfaces
  | bgp
  | bgpVpnv4
  | lldp
  | isis
  | ldp
  | ldpDiscovery
  | sr
  | configIsis
  | configInterface
  | configLdp
deriving DecidableEq, Repr

namespace Parser

variable (u : CharClasses) (numbers : Numbers)

def ignores : Parser → List IgnoreRule
  | .facts => FACTS_IGNORES u
  | .interfaces => INTERFACES_IGNORES
  | .bgp => BGP_IGNORES u
  | .bgpVpnv4 => BGP_VPNV4_IGNORES u
  | .lldp => LLDP_IGNORES
  | .isis => ISIS_IGNORES
  | .ldp => []
  | .ldpDiscovery => []
  | .sr => SR_IGNORES u
  | .configIsis => CONFIG_ISIS_IGNORES
  | .configInterface => CONFIG_INTERFACE_IGNORES
  | .configLdp => CONFIG_LDP_IGNORES

/-- What a parser makes of the outputs. It returns `Extracted.finalize` of this, with its own rules.
A configuration section is one output. -/
def extract : Parser → List String → Except ParseFailure Extracted
  | .facts, outputs => parseXrFacts outputs
  | .interfaces, outputs => parseXrInterfaces outputs
  | .bgp, outputs => parseXrBgp u numbers outputs
  | .bgpVpnv4, outputs => parseXrBgpVpnv4 u numbers outputs
  | .lldp, outputs => parseXrLldp numbers outputs
  | .isis, outputs => parseXrIsis u outputs
  | .ldp, outputs => parseXrLdpNeighbor u numbers outputs
  | .ldpDiscovery, outputs => parseXrLdpDiscovery u outputs
  | .sr, outputs => parseXrSr u numbers outputs
  | .configIsis, outputs => parseXrConfigIsis numbers (firstOutput outputs)
  | .configInterface, outputs => parseXrConfigInterface (firstOutput outputs)
  | .configLdp, outputs => parseXrConfigLdp (firstOutput outputs)

/-- The lines of the output that a parser claims are the lines that it reads, each by one loop.
`headings` says whether a line that only opens a block counts as read. -/
def ReadsWhatItClaims (headings : Bool) : Parser → List String → Prop
  | .facts, _ => True
  | .interfaces, _ => True
  | .bgp, lines => BgpLinesApart u lines
  | .bgpVpnv4, lines => BgpLinesApart u lines
  | .lldp, _ => True
  | .isis, lines => IsisLinesApart lines
  | .ldp, lines => headings = true ∨ NoLdpHeading u numbers lines
  | .ldpDiscovery, lines => headings = true ∨ NoDiscoveryHeading lines
  | .sr, lines => SrNamesOnce u lines
  | .configIsis, lines => NoStanzaFamily lines
  | .configInterface, lines => AddressesWithMask lines
  | .configLdp, lines => headings = true ∨ ∀ line ∈ lines, isLdpSection line = false

variable {u numbers} {headings : Bool} {p : Parser} {outputs : List String} {x : Extracted}

/-- A parser counts every line once exactly when it reads what it claims. -/
theorem countsLinesOnce_iff (h : p.extract u numbers outputs = .ok x) :
    CountsLinesOnce u headings (p.ignores u) x ↔
      p.ReadsWhatItClaims u numbers headings (nonblankLines (firstOutput outputs)) := by
  cases p with
  | facts => exact iff_of_true (facts_once h) trivial
  | interfaces => exact iff_of_true (interfaces_once h) trivial
  | bgp => exact bgp_once_iff h
  | bgpVpnv4 => exact bgpVpnv4_once_iff h
  | lldp => exact iff_of_true (lldp_once h) trivial
  | isis => exact isis_once_iff h
  | ldp => exact ldp_once_iff h
  | ldpDiscovery => exact ldpDiscovery_once_iff h
  | sr => exact sr_once_iff h
  | configIsis => exact configIsis_once_iff h
  | configInterface => exact configInterface_once_iff h
  | configLdp => exact configLdp_once_iff h

def decimalNumbers : Numbers where
  int? := String.toInt?
  ofDigits := fun text => (text.toNat?.getD 0 : Nat)
  isDigits := String.isNat

def familyInStanza : String :=
  "router isis 1\n interface Gi0\n  address-family ipv4 unicast\n  !\n !\n"

theorem countsLinesOnce_iff_familyInStanza : ∃ x,
    Parser.configIsis.extract CharClasses.ascii decimalNumbers [familyInStanza] = .ok x ∧
      (CountsLinesOnce CharClasses.ascii true (Parser.configIsis.ignores CharClasses.ascii) x ↔
        Parser.configIsis.ReadsWhatItClaims CharClasses.ascii decimalNumbers true
          (nonblankLines (firstOutput [familyInStanza]))) := by
  have hrun : ∃ x,
      Parser.configIsis.extract CharClasses.ascii decimalNumbers [familyInStanza] = .ok x :=
    ⟨_, by with_unfolding_all rfl⟩
  obtain ⟨x, hx⟩ := hrun
  exact ⟨x, hx, countsLinesOnce_iff hx⟩

theorem not_countsLinesOnce :
    ¬ ∀ (headings : Bool) (p : Parser) (outputs : List String) (x : Extracted),
      p.extract CharClasses.ascii decimalNumbers outputs = .ok x →
        CountsLinesOnce CharClasses.ascii headings (p.ignores CharClasses.ascii) x := by
  intro h
  obtain ⟨x, hx, hcount⟩ : ∃ x,
      Parser.configIsis.extract CharClasses.ascii decimalNumbers [familyInStanza] = .ok x ∧
        ¬ x.consumed.count "address-family ipv4 unicast" ≤
          ((nonblankLines x.raw).map pyStrip).count "address-family ipv4 unicast" :=
    ⟨_, by with_unfolding_all rfl, by decide +kernel⟩
  exact hcount ((h true .configIsis [familyInStanza] x hx).claimed _)

end Parser

end Parsing

end NetTools
