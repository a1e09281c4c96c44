import NetTools.Topology.Neighborhood

/-!
# What the records of a collection name

The devices that a record names, the hops that the records of a device allow, and the hops that the
code takes: those of the first record of each protocol on an interface.
-/

namespace NetTools

namespace Collection

variable (evidence : Collection)

def isisOf (device : String) : List IsisRecord :=
  ((evidence.get device).bind DeviceEvidence.isis).getD []

def lldpOf (device : String) : List LldpRecord :=
  ((evidence.get device).map lldpRecords).getD []

def hostnameOf (device : String) : Option String :=
  (evidence.get device).bind configuredHostname

end Collection

inductive HopScope where
  | interface (name : String)
  | wholeDevice

section

variable (casefold : String → String) (evidence : Collection)

/-- A reported name is the label of a device, or the hostname of one when it is no label. -/
def Names (name device : String) : Prop :=
  (evidence.get device).isSome ∧
    (casefold device = casefold (pyStrip name) ∨
      (∀ other, (evidence.get other).isSome → casefold other ≠ casefold (pyStrip name)) ∧
        (evidence.hostnameOf device).map casefold = some (casefold (pyStrip name)))

def IsisNames (device interface neighbor : String) : Prop :=
  ∃ record ∈ evidence.isisOf device, sameInterface record.interface interface = true ∧
    Names casefold evidence record.systemId neighbor

def LldpNames (device interface neighbor : String) : Prop :=
  ∃ record ∈ evidence.lldpOf device, sameInterface record.localInterface interface = true ∧
    Names casefold evidence record.neighbor neighbor

/-- The far end does not report the device, and no other, on the port of the record. -/
def Disagrees (device : String) (record : LldpRecord) (neighbor : String) : Prop :=
  Names casefold evidence record.neighbor neighbor ∧
    ¬ ∃ other ∈ evidence.lldpOf neighbor, other.localInterface = record.neighborInterface ∧
      ∀ back, Names casefold evidence other.neighbor back ↔ back = device

def Disputed (device interface : String) : Prop :=
  ∃ record ∈ evidence.lldpOf device, sameInterface record.localInterface interface = true ∧
    ∃ neighbor, Disagrees casefold evidence device record neighbor

def FarEndNames (device interface neighbor : String) : Prop :=
  ∃ record ∈ evidence.lldpOf device, sameInterface record.localInterface interface = true ∧
    ∃ far, Disagrees casefold evidence device record far ∧
      ∃ other ∈ evidence.lldpOf far, other.localInterface = record.neighborInterface ∧
        Names casefold evidence other.neighbor neighbor

/-- The interfaces of a scope: that of the subject, or all that the records of the device name. -/
def Uses (device : String) (scope : HopScope) (interface : String) : Prop :=
  interface ≠ "" ∧
    match scope with
    | .interface name => interface = name
    | .wholeDevice => (∃ record ∈ evidence.isisOf device, record.interface = interface) ∨
        ∃ record ∈ evidence.lldpOf device, record.localInterface = interface

def LeadsOn (device interface neighbor : String) : Prop :=
  IsisNames casefold evidence device interface neighbor ∨
    LldpNames casefold evidence device interface neighbor ∨
      FarEndNames casefold evidence device interface neighbor

def Leads (device : String) (scope : HopScope) (neighbor : String) : Prop :=
  ∃ interface, Uses evidence device scope interface ∧
    LeadsOn casefold evidence device interface neighbor

/-- IS-IS and LLDP name different devices on an interface of the scope, or LLDP disagrees. -/
def Trouble (device : String) (scope : HopScope) : Prop :=
  ∃ interface, Uses evidence device scope interface ∧
    ((∃ neighbor, ¬(IsisNames casefold evidence device interface neighbor ↔
      LldpNames casefold evidence device interface neighbor)) ∨
        Disputed casefold evidence device interface)

/-- A walk whose first hop uses the interfaces of the session, every later one all interfaces. -/
inductive LinkWalk (start : String) (scope : HopScope) : Nat → String → Prop
  | start : LinkWalk start scope 0 start
  | first {device : String} : Leads casefold evidence start scope device →
      LinkWalk start scope 1 device
  | later {n : Nat} {device neighbor : String} : LinkWalk start scope (n + 1) device →
      Leads casefold evidence device .wholeDevice neighbor → LinkWalk start scope (n + 2) neighbor

/-- Reachable in at most `n` hops. -/
def ReachedWithin (start : String) (scope : HopScope) (n : Nat) (device : String) : Prop :=
  ∃ m ≤ n, LinkWalk casefold evidence start scope m device

/-- Trouble on an interface that a walk of at most `n` hops comes to. -/
def TroubleWithin (start : String) (scope : HopScope) (n : Nat) : Prop :=
  Trouble casefold evidence start scope ∨
    ∃ m, 1 ≤ m ∧ m ≤ n ∧ ∃ device, LinkWalk casefold evidence start scope m device ∧
      Trouble casefold evidence device .wholeDevice

def Noticed (device interface neighbor : String) : Prop :=
  (∃ found, evidence.get device = some found ∧
    ((firstNeighbors casefold found (hostnameMap casefold evidence) interface).1 = some neighbor ∨
      (firstNeighbors casefold found (hostnameMap casefold evidence) interface).2 =
        some neighbor)) ∨
    ∃ entry ∈ findLldpDisagreements casefold evidence, entry.device = device ∧
      sameInterface entry.localInterface interface = true ∧
        (entry.claimsNeighbor = neighbor ∨ ∃ other ∈ entry.neighborActuallyReports,
          resolveDevice casefold (hostnameMap casefold evidence) other.1 = some neighbor)

def Alarmed (device interface : String) : Prop :=
  (∃ found, evidence.get device = some found ∧
    (firstNeighbors casefold found (hostnameMap casefold evidence) interface).1 ≠
      (firstNeighbors casefold found (hostnameMap casefold evidence) interface).2) ∨
    ∃ entry ∈ findLldpDisagreements casefold evidence, entry.device = device ∧
      sameInterface entry.localInterface interface = true

def scopeAt (start : String) (scope : HopScope) (device : String) : HopScope :=
  if device = start then scope else .wholeDevice

/-- The device of the subject is expanded, and every device with an IS-IS interface. -/
def Expanded (start device : String) : Prop :=
  (evidence.get device).isSome ∧
    (device = start ∨ ∃ record ∈ evidence.isisOf device, record.interface ≠ "")

def TakesHop (start : String) (scope : HopScope) (device neighbor : String) : Prop :=
  Expanded evidence start device ∧ ∃ interface,
    Uses evidence device (scopeAt start scope device) interface ∧
      Noticed casefold evidence device interface neighbor

def RaisesAlarm (start : String) (scope : HopScope) (device : String) : Prop :=
  Expanded evidence start device ∧ ∃ interface,
    Uses evidence device (scopeAt start scope device) interface ∧
      Alarmed casefold evidence device interface

end

section

variable {casefold : String → String} {evidence : Collection}

lemma lookup_setDefault (mapping : List (String × String)) (key name k : String) :
    (setDefault mapping key name).lookup k =
      if k = key ∧ mapping.lookup key = none then some name else mapping.lookup k := by
  unfold setDefault
  cases hkey : mapping.lookup key with
  | none =>
    rw [Option.isSome_none, if_neg Bool.false_ne_true, LastRow.lookup_assign]
    by_cases hk : k = key
    · rw [if_pos hk, if_pos ⟨hk, rfl⟩]
    · rw [if_neg hk, if_neg (fun h => hk h.1)]
  | some old =>
    rw [Option.isSome_some, if_pos rfl, if_neg]
    rintro ⟨-, h⟩
    cases h

/-- What the map reads once the entries are in: a label before a hostname. -/
structure ReadsNames (casefold : String → String) (entries : List (String × DeviceEvidence))
    (mapping : List (String × String)) : Prop where
  sound : ∀ key device, mapping.lookup key = some device → ∃ entry ∈ entries, entry.1 = device ∧
    (casefold device = key ∨ (configuredHostname entry.2).map casefold = some key)
  label : ∀ entry ∈ entries, ∃ device, mapping.lookup (casefold entry.1) = some device ∧
    casefold device = casefold entry.1
  host : ∀ entry ∈ entries, ∀ hostname, configuredHostname entry.2 = some hostname →
    (mapping.lookup (casefold hostname)).isSome

lemma readsNames_addNames {entries : List (String × DeviceEvidence)}
    {mapping : List (String × String)} (h : ReadsNames casefold entries mapping)
    (entry : String × DeviceEvidence) :
    ReadsNames casefold (entries ++ [entry]) (addNames casefold mapping entry) := by
  have hlookup : ∀ k, (addNames casefold mapping entry).lookup k =
      if k = casefold entry.1 then some entry.1
      else if (configuredHostname entry.2).map casefold = some k ∧ mapping.lookup k = none then
        some entry.1
      else mapping.lookup k := by
    intro k
    unfold addNames
    cases hhost : configuredHostname entry.2 with
    | none =>
      rw [LastRow.lookup_assign, Option.map_none]
      simp
    | some hostname =>
      simp only [Option.map_some, Option.some.injEq]
      rw [lookup_setDefault, LastRow.lookup_assign, LastRow.lookup_assign]
      by_cases hk : k = casefold entry.1
      · rw [if_pos hk, if_pos hk, ite_self]
      · rw [if_neg hk, if_neg hk]
        by_cases hkey : k = casefold hostname
        · subst hkey
          rw [if_neg hk]
        · rw [if_neg (fun hboth => hkey hboth.1), if_neg (fun hboth => hkey hboth.1.symm)]
  refine ⟨?_, ?_, ?_⟩
  · intro key device hread
    rw [hlookup] at hread
    by_cases hk : key = casefold entry.1
    · rw [if_pos hk, Option.some.injEq] at hread
      refine ⟨entry, List.mem_append_right _ (List.mem_singleton_self _), hread, .inl ?_⟩
      rw [← hread, hk]
    · rw [if_neg hk] at hread
      split at hread
      · rename_i hhost
        rw [Option.some.injEq] at hread
        exact ⟨entry, List.mem_append_right _ (List.mem_singleton_self _), hread, .inr hhost.1⟩
      · obtain ⟨entry', hentry', hrest⟩ := h.sound key device hread
        exact ⟨entry', List.mem_append_left _ hentry', hrest⟩
  · intro entry' hentry'
    rw [hlookup]
    by_cases hk : casefold entry'.1 = casefold entry.1
    · rw [if_pos hk]
      exact ⟨entry.1, rfl, hk.symm⟩
    · rw [if_neg hk]
      rcases List.mem_append.mp hentry' with hold | hlast
      · obtain ⟨device, hdevice, hsame⟩ := h.label entry' hold
        rw [if_neg]
        · exact ⟨device, hdevice, hsame⟩
        · rintro ⟨-, hnone⟩
          rw [hdevice] at hnone
          cases hnone
      · rw [List.mem_singleton.mp hlast] at hk
        exact absurd rfl hk
  · intro entry' hentry' hostname hhost
    rw [hlookup]
    by_cases hk : casefold hostname = casefold entry.1
    · rw [if_pos hk]
      rfl
    · rw [if_neg hk]
      split
      · rfl
      · rename_i hread
        rcases List.mem_append.mp hentry' with hold | hlast
        · exact h.host entry' hold hostname hhost
        · rw [List.mem_singleton.mp hlast] at hhost
          rw [hhost, Option.map_some] at hread
          exact Option.isSome_iff_ne_none.mpr (fun hnone => hread ⟨rfl, hnone⟩)

lemma readsNames_hostnameMap (casefold : String → String) (evidence : Collection) :
    ReadsNames casefold evidence.entries (hostnameMap casefold evidence) := by
  unfold hostnameMap
  induction evidence.entries using List.reverseRecOn with
  | nil =>
    refine ⟨?_, ?_, ?_⟩
    · intro key device h
      cases h
    · intro entry hentry
      cases hentry
    · intro entry hentry
      cases hentry
  | append_singleton entries entry ih =>
    rw [List.foldl_append]
    exact readsNames_addNames ih entry

lemma get_eq_some_iff {device : String} {found : DeviceEvidence} :
    evidence.get device = some found ↔ (device, found) ∈ evidence.entries :=
  LastRow.lookup_eq_some_iff_mem evidence.nodup

lemma ne_empty_of_get {device : String} (h : (evidence.get device).isSome) : device ≠ "" := by
  obtain ⟨found, hfound⟩ := Option.isSome_iff_exists.mp h
  exact evidence.named _ (get_eq_some_iff.mp hfound)

theorem names_of_resolveDevice {name device : String}
    (h : resolveDevice casefold (hostnameMap casefold evidence) name = some device) :
    Names casefold evidence name device := by
  have hreads := readsNames_hostnameMap casefold evidence
  obtain ⟨entry, hentry, hdevice, hkey⟩ := hreads.sound _ _ h
  obtain ⟨label, found⟩ := entry
  have hget : evidence.get device = some found := get_eq_some_iff.mpr (hdevice ▸ hentry)
  refine ⟨by rw [hget]; rfl, ?_⟩
  by_cases hlabel : casefold device = casefold (pyStrip name)
  · exact .inl hlabel
  · refine .inr ⟨?_, ?_⟩
    · intro other hother hsame
      obtain ⟨found', hfound'⟩ := Option.isSome_iff_exists.mp hother
      obtain ⟨read, hread, hcase⟩ := hreads.label _ (get_eq_some_iff.mp hfound')
      rw [resolveDevice, ← hsame, hread, Option.some.injEq] at h
      exact hlabel (h ▸ hcase.trans hsame)
    · rw [Collection.hostnameOf, hget]
      exact hkey.resolve_left hlabel

lemma resolveDevice_isSome {name device : String} (h : Names casefold evidence name device) :
    (resolveDevice casefold (hostnameMap casefold evidence) name).isSome := by
  have hreads := readsNames_hostnameMap casefold evidence
  obtain ⟨hdevice, hname⟩ := h
  obtain ⟨found, hfound⟩ := Option.isSome_iff_exists.mp hdevice
  have hentry := get_eq_some_iff.mp hfound
  unfold resolveDevice
  rcases hname with hlabel | ⟨-, hhost⟩
  · obtain ⟨read, hread, -⟩ := hreads.label _ hentry
    rw [← hlabel, hread]
    rfl
  · rw [Collection.hostnameOf, hfound, Option.bind_some] at hhost
    obtain ⟨hostname, hconfigured, hkey⟩ := Option.map_eq_some_iff.mp hhost
    rw [← hkey]
    exact hreads.host _ hentry hostname hconfigured

lemma of_mem_findLldpDisagreements {entry : LldpDisagreement}
    (h : entry ∈ findLldpDisagreements casefold evidence) :
    ∃ record ∈ evidence.lldpOf entry.device, entry.localInterface = record.localInterface ∧
      Disagrees casefold evidence entry.device record entry.claimsNeighbor ∧
        ∀ report ∈ entry.neighborActuallyReports, ∃ other ∈ evidence.lldpOf entry.claimsNeighbor,
          other.localInterface = record.neighborInterface ∧ report.1 = other.neighbor := by
  obtain ⟨⟨device, found⟩, hmem, hentry⟩ := List.mem_flatMap.mp h
  obtain ⟨record, hrecord, hsome⟩ := List.mem_filterMap.mp hentry
  have hget : evidence.get device = some found := get_eq_some_iff.mpr hmem
  unfold lldpDisagreement at hsome
  cases hresolve : resolveDevice casefold (hostnameMap casefold evidence) record.neighbor with
  | none =>
    rw [hresolve] at hsome
    cases hsome
  | some neighbor =>
    rw [hresolve] at hsome
    simp only [Option.ite_none_left_eq_some, Option.some.injEq] at hsome
    obtain ⟨hmirror, rfl⟩ := hsome
    have hlldp : evidence.lldpOf device = lldpRecords found := by
      rw [Collection.lldpOf, hget]
      rfl
    refine ⟨record, hlldp ▸ hrecord, rfl, ⟨names_of_resolveDevice hresolve, ?_⟩, ?_⟩
    · rintro ⟨other, hother, hport, honly⟩
      apply hmirror
      rw [List.any_eq_true]
      refine ⟨other, hother, ?_⟩
      obtain ⟨back, hback⟩ := Option.isSome_iff_exists.mp
        (resolveDevice_isSome ((honly device).mpr rfl))
      have hsame := (honly back).mp (names_of_resolveDevice hback)
      rw [hback, hsame, hport]
      simp
    · intro report hreport
      obtain ⟨other, hother, rfl⟩ := List.mem_map.mp hreport
      rw [List.mem_filter, beq_iff_eq] at hother
      exact ⟨other, hother.1, hother.2, rfl⟩

lemma leadsOn_of_noticed {device interface neighbor : String}
    (h : Noticed casefold evidence device interface neighbor) :
    LeadsOn casefold evidence device interface neighbor := by
  rcases h with ⟨found, hget, hfirst⟩ | ⟨entry, hentry, rfl, hsame, hnamed⟩
  · have hisis : evidence.isisOf device = found.isis.getD [] := by
      rw [Collection.isisOf, hget, Option.bind_some]
    have hlldp : evidence.lldpOf device = lldpRecords found := by
      rw [Collection.lldpOf, hget]
      rfl
    rcases hfirst with hfirst | hfirst
    · obtain ⟨record, hfind, hresolve⟩ := Option.bind_eq_some_iff.mp hfirst
      have hport := List.find?_some hfind
      exact .inl ⟨record, hisis ▸ List.mem_of_find?_eq_some hfind, hport,
        names_of_resolveDevice hresolve⟩
    · obtain ⟨record, hfind, hresolve⟩ := Option.bind_eq_some_iff.mp hfirst
      have hport := List.find?_some hfind
      exact .inr (.inl ⟨record, hlldp ▸ List.mem_of_find?_eq_some hfind, hport,
        names_of_resolveDevice hresolve⟩)
  · obtain ⟨record, hrecord, hport, hdisagrees, hreports⟩ := of_mem_findLldpDisagreements hentry
    rw [hport] at hsame
    rcases hnamed with rfl | ⟨report, hreport, hresolve⟩
    · exact .inr (.inl ⟨record, hrecord, hsame, hdisagrees.1⟩)
    · obtain ⟨other, hother, hback, hname⟩ := hreports report hreport
      rw [hname] at hresolve
      exact .inr (.inr ⟨record, hrecord, hsame, _, hdisagrees, other, hother, hback,
        names_of_resolveDevice hresolve⟩)

lemma leads_of_takesHop {start device neighbor : String} {scope : HopScope}
    (h : TakesHop casefold evidence start scope device neighbor) :
    Leads casefold evidence device (scopeAt start scope device) neighbor := by
  obtain ⟨-, interface, huses, hnoticed⟩ := h
  exact ⟨interface, huses, leadsOn_of_noticed hnoticed⟩

end

end NetTools
