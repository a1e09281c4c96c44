import Mathlib.Data.List.Find
import NetTools.Audit.Links

/-!
# Exactness of the audit

The audit finds exactly the links whose ends differ in MTU, each once, in any order of the fabric,
and names every device that it could not judge, exactly when the records spell each such link in one
way and every reported port has a row to read.
-/

namespace NetTools

namespace Audit

section

variable (casefold : String → String) (fabric : Fabric)

def SectionMissing (found : DeviceSections) : RuleName → Prop
  | .mtuMismatchOnAdjacency => found.lldp = none ∨ found.interfaces = none
  | .hostnameInventoryDrift => found.hostname = none
  | _ => found.bgp = none

/-- The report names the device among those that a rule could not evaluate. -/
def Listed (report : Report) (rule : RuleName) (device : String) : Prop :=
  ∃ devices, (rule, devices) ∈ report.unevaluated ∧ device ∈ devices

def ReadOrListed (report : Report) (port : Port) : Prop :=
  (∃ mtu, KnownMtu fabric port mtu) ∨ Listed report .mtuMismatchOnAdjacency port.1

/-- What the audit of a fabric promises, for every order of the fabric. -/
structure AuditIsExact : Prop where
  runs : ∀ fabric', Rearranged fabric fabric' → ∃ report, runAudit casefold fabric' = .ok report
  severity : ∀ fabric', Rearranged fabric fabric' → ∀ report,
    runAudit casefold fabric' = .ok report →
      (∀ finding ∈ report.findings, finding.severity.index ≤ report.severity.index) ∧
        (report.severity = .ok ∨ ∃ finding ∈ report.findings, report.severity = finding.severity)
  unchanged : ∀ fabric', Rearranged fabric fabric' → ∀ report report',
    runAudit casefold fabric = .ok report → runAudit casefold fabric' = .ok report' →
      report.findings.Perm report'.findings ∧ report.unevaluated = report'.unevaluated
  once : ∀ fabric', Rearranged fabric fabric' → ∀ report,
    runAudit casefold fabric' = .ok report → (mtuLinks report).Nodup
  exact : ∀ fabric', Rearranged fabric fabric' → ∀ report,
    runAudit casefold fabric' = .ok report →
      ∀ link, link ∈ mtuLinks report ↔ Reported casefold fabric link ∧ DifferInMtu fabric link
  listed : ∀ fabric', Rearranged fabric fabric' → ∀ report,
    runAudit casefold fabric' = .ok report → ∀ rule device found,
      fabric.get device = some found → SectionMissing found rule → Listed report rule device
  unread : ∀ fabric', Rearranged fabric fabric' → ∀ report,
    runAudit casefold fabric' = .ok report → ∀ device record neighbor,
      Reports casefold fabric device record neighbor →
        ReadOrListed fabric report (LinkEnd.port (device, record.localInterface)) ∧
          ReadOrListed fabric report (LinkEnd.port (neighbor, record.neighborInterface))

def FirstOfLink (sighting : Sighting) : Prop :=
  (sightings casefold fabric).find? (fun other => decide (other.link = sighting.link)) =
    some sighting

def BothParsed (device : String) : Prop :=
  ∃ found, fabric.get device = some found ∧ found.lldp.isSome ∧ found.interfaces.isSome

def Readable (port : Port) : Prop :=
  (∃ mtu, KnownMtu fabric port mtu) ∨ ¬BothParsed fabric port.1

/-- What the records and rows must be like, in every order of the fabric. -/
structure ClearLinks : Prop where
  /-- A record of a device that names the device itself has both interfaces or none. -/
  sortable : ∀ fabric', Rearranged fabric fabric' →
    ∀ sighting ∈ sightings casefold fabric', Sortable sighting
  /-- Rows without an interface name do not make a mismatch. -/
  named : ∀ fabric', Rearranged fabric fabric' → ∀ sighting ∈ sightings casefold fabric',
    sighting.near.port ≠ sighting.far.port → ∀ mtu mtu', some mtu ∈ fabric.mtus sighting.near.port →
      some mtu' ∈ fabric.mtus sighting.far.port → mtu ≠ mtu' →
        sighting.near.port.2 ≠ "" ∧ sighting.far.port.2 ≠ ""
  /-- The rows of a port of a mismatched link all give one MTU. -/
  rows : ∀ fabric', Rearranged fabric fabric' → ∀ sighting ∈ sightings casefold fabric',
    DifferInMtu fabric sighting.link → ∃ mtu mtu', mtu ≠ mtu' ∧
      (∀ row ∈ fabric.mtus sighting.near.port, row = some mtu) ∧
        ∀ row ∈ fabric.mtus sighting.far.port, row = some mtu'
  /-- A mismatched link is resolved from one of its records. -/
  seen : ∀ link, Reported casefold fabric link → DifferInMtu fabric link →
    ∀ fabric', Rearranged fabric fabric' → ∃ sighting ∈ sightings casefold fabric',
      sighting.link = link
  /-- The records of a mismatched link spell its ends in one way. -/
  spelled : ∀ fabric', Rearranged fabric fabric' → ∀ sighting ∈ sightings casefold fabric',
    ∀ sighting' ∈ sightings casefold fabric', sighting.link = sighting'.link →
      DifferInMtu fabric sighting.link → sighting.spelling = sighting'.spelling
  /-- The record of a mismatched link that comes first does so from the same end. -/
  first : ∀ fabric' fabric'', Rearranged fabric fabric' → Rearranged fabric fabric'' →
    ∀ sighting sighting', FirstOfLink casefold fabric' sighting →
      FirstOfLink casefold fabric'' sighting' → sighting.link = sighting'.link →
        DifferInMtu fabric sighting.link → sighting = sighting'
  /-- Every reported port has an MTU to read, where its device has both sections. -/
  readable : ∀ device record neighbor, Reports casefold fabric device record neighbor →
    Readable fabric (LinkEnd.port (device, record.localInterface)) ∧
      Readable fabric (LinkEnd.port (neighbor, record.neighborInterface))

end

variable {casefold : String → String} {fabric fabric' : Fabric}

lemma mem_getD_iff_of_rel {α : Type} {l l' : Option (List α)} (h : Option.Rel List.Perm l l')
    (a : α) : a ∈ l.getD [] ↔ a ∈ l'.getD [] := by
  cases h with
  | none => rfl
  | some hperm => exact hperm.mem_iff

lemma Rearranged.sections (h : Rearranged fabric fabric') (device : String) :
    (∀ record, record ∈ fabric.lldpOf device ↔ record ∈ fabric'.lldpOf device) ∧
      (∀ row, row ∈ fabric.interfacesOf device ↔ row ∈ fabric'.interfacesOf device) := by
  have hdevice := h device
  unfold Fabric.lldpOf Fabric.interfacesOf
  generalize fabric.get device = found at hdevice
  generalize fabric'.get device = found' at hdevice
  cases hdevice with
  | none => exact ⟨fun _ => Iff.rfl, fun _ => Iff.rfl⟩
  | some hsame => exact ⟨mem_getD_iff_of_rel hsame.lldp, mem_getD_iff_of_rel hsame.interfaces⟩

lemma Rearranged.mem_mtus_iff (h : Rearranged fabric fabric') (port : Port)
    (row : Option String) : row ∈ fabric.mtus port ↔ row ∈ fabric'.mtus port := by
  unfold Fabric.mtus
  simp only [List.mem_map, List.mem_filter, (h.sections port.1).2]

lemma facts_get (device : String) : fabric.facts.get device =
    (fabric.get device).map (fun found => ⟨none, none, found.hostname⟩) := by
  cases hget : fabric.get device with
  | some found =>
    exact NetTools.get_eq_some_iff.mpr (List.mem_map.mpr ⟨_, get_eq_some_iff.mp hget, rfl⟩)
  | none =>
    rw [Option.map_none, Option.eq_none_iff_forall_ne_some]
    intro found' hfound'
    obtain ⟨entry, hentry, heq⟩ := List.mem_map.mp (NetTools.get_eq_some_iff.mp hfound')
    rw [Prod.mk.injEq] at heq
    have hsome := get_eq_some_iff.mpr (heq.1 ▸ hentry : (device, entry.2) ∈ fabric.entries)
    rw [hget] at hsome
    cases hsome

lemma Rearranged.reordered_facts (h : Rearranged fabric fabric') :
    Reordered fabric.facts fabric'.facts := by
  intro device
  rw [facts_get, facts_get]
  have hdevice := h device
  generalize fabric.get device = found at hdevice
  generalize fabric'.get device = found' at hdevice
  cases hdevice with
  | none => exact .none
  | some hsame => exact .some ⟨.none, .none, hsame.hostname⟩

lemma Rearranged.reports_iff (h : Rearranged fabric fabric') (device : String)
    (record : AdjacencyRecord) (neighbor : String) :
    Reports casefold fabric device record neighbor ↔
      Reports casefold fabric' device record neighbor := by
  unfold Reports
  rw [(h.sections device).1, names_congr h.reordered_facts.sameLinks]

lemma Rearranged.reported_iff (h : Rearranged fabric fabric') (link : PhysicalLink) :
    Reported casefold fabric link ↔ Reported casefold fabric' link := by
  unfold Reported
  simp only [h.reports_iff]

lemma exists_record_of_sighting {sighting : Sighting} (h : sighting ∈ sightings casefold fabric) :
    ∃ record, Reports casefold fabric sighting.device record sighting.neighbor ∧
      record.localInterface = sighting.interface ∧
        record.neighborInterface = sighting.neighborInterface := by
  unfold sightings at h
  obtain ⟨⟨device, records⟩, hentry, hsighting⟩ := List.mem_flatMap.mp h
  obtain ⟨record, hrecord, hsome⟩ := List.mem_filterMap.mp hsighting
  obtain ⟨⟨device', found⟩, hfound, hparsed⟩ := List.mem_filterMap.mp hentry
  obtain ⟨records', hrecords, heq⟩ := Option.map_eq_some_iff.mp hparsed
  rw [Prod.mk.injEq] at heq
  obtain ⟨rfl, rfl⟩ := heq
  have hlldp : fabric.lldpOf device' = records' := by
    unfold Fabric.lldpOf
    rw [get_eq_some_iff.mpr hfound, Option.bind_some, hrecords]
    rfl
  unfold sightingOf at hsome
  cases hresolve : resolveDevice casefold (hostnameMap casefold fabric.facts)
      (record.neighbor.getD "") with
  | none =>
    simp only [hresolve] at hsome
    cases hsome
  | some neighbor =>
    simp only [hresolve, Option.ite_none_right_eq_some, Option.some.injEq] at hsome
    obtain ⟨-, rfl⟩ := hsome
    exact ⟨record, ⟨hlldp ▸ hrecord, names_of_resolveDevice hresolve⟩, rfl, rfl⟩

lemma reported_of_sighting {sighting : Sighting} (h : sighting ∈ sightings casefold fabric) :
    Reported casefold fabric sighting.link := by
  obtain ⟨record, hreports, hnear, hfar⟩ := exists_record_of_sighting h
  refine ⟨sighting.device, record, sighting.neighbor, hreports, ?_⟩
  rw [hnear, hfar]
  rfl

def linkFound (fabric : Fabric) (sighting : Sighting) : Option PhysicalLink :=
  (foundFor fabric sighting).map (fun _ => sighting.link)

lemma linkFound_eq_some_iff {sighting : Sighting} {link : PhysicalLink} :
    linkFound fabric sighting = some link ↔ Mismatch fabric sighting ∧ sighting.link = link := by
  unfold linkFound
  rw [Option.map_eq_some_iff, exists_and_right, ← foundFor_isSome_iff, Option.isSome_iff_exists]

lemma filterMap_link_eq_nil {findings : List RuleFinding}
    (h : ∀ finding ∈ findings, finding.message.link = none) :
    findings.filterMap (fun finding => finding.message.link) = [] :=
  List.filterMap_eq_nil_iff.mpr h

lemma mtuLinks_reportOf : mtuLinks (reportOf casefold fabric) =
    (compared casefold fabric).filterMap (linkFound fabric) := by
  have hrule : ∀ rule result, (ruleFindings rule result).filterMap
      (fun finding => finding.finding.message.link) =
        result.1.filterMap (fun finding => finding.message.link) := by
    intro rule result
    unfold ruleFindings
    rw [List.filterMap_map]
    rfl
  have hmtu : (mtuFindings casefold fabric).filterMap (fun finding => finding.message.link) =
      (compared casefold fabric).filterMap (linkFound fabric) := by
    unfold mtuFindings
    rw [List.filterMap_filterMap]
    apply List.filterMap_congr
    intro sighting _
    unfold linkFound
    cases hfound : foundFor fabric sighting with
    | none => rfl
    | some finding => exact link_of_foundFor hfound
  have hduplicate : (duplicateRouterId fabric).1.filterMap
      (fun finding => finding.message.link) = [] := by
    apply filterMap_link_eq_nil
    intro finding hfinding
    obtain ⟨owner, -, rfl⟩ := List.mem_map.mp hfinding
    rfl
  have hisolated : (isolatedButConfigured fabric).1.filterMap
      (fun finding => finding.message.link) = [] := by
    apply filterMap_link_eq_nil
    intro finding hfinding
    obtain ⟨entry, -, hsome⟩ := List.mem_filterMap.mp hfinding
    split at hsome
    · cases hsome
    · simp only [Option.ite_none_left_eq_some, Option.some.injEq] at hsome
      rw [← hsome.2]
      rfl
  have hdrift : (hostnameInventoryDrift casefold fabric).1.filterMap
      (fun finding => finding.message.link) = [] := by
    apply filterMap_link_eq_nil
    intro finding hfinding
    obtain ⟨entry, -, hsome⟩ := List.mem_filterMap.mp hfinding
    split at hsome
    · cases hsome
    · simp only [Option.ite_none_left_eq_some, Option.some.injEq] at hsome
      rw [← hsome.2]
      rfl
  have hmix : (localAsMix fabric).1.filterMap (fun finding => finding.message.link) = [] := by
    apply filterMap_link_eq_nil
    intro finding hfinding
    unfold localAsMix at hfinding
    simp only [List.mem_ite_nil_right, List.mem_singleton] at hfinding
    rw [hfinding.2]
    rfl
  unfold mtuLinks reportOf assembleReport auditRules
  simp only [List.map_cons, List.map_nil, List.flatMap_cons, List.flatMap_nil,
    List.filterMap_append, hrule, resultOf, hduplicate, hmtu, hisolated, hdrift, hmix,
    List.append_nil, List.nil_append]

lemma mem_mtuLinks_iff {link : PhysicalLink} : link ∈ mtuLinks (reportOf casefold fabric) ↔
    ∃ sighting ∈ sightings casefold fabric, Mismatch fabric sighting ∧ sighting.link = link := by
  rw [mtuLinks_reportOf, List.mem_filterMap]
  simp only [linkFound_eq_some_iff]
  constructor
  · rintro ⟨sighting, hsighting, hrest⟩
    exact ⟨sighting, FirstSeen.mem_of_mem_firsts hsighting, hrest⟩
  · rintro ⟨sighting, hsighting, hmismatch, rfl⟩
    obtain ⟨first, hfirst, hkey⟩ := exists_compared hsighting
    have hlink := link_eq_of_spelling_eq (spelling_eq_of_keyOf_eq hkey)
    exact ⟨first, hfirst, hmismatch.of_link_eq hlink.symm, hlink⟩

lemma eq_of_compared {sighting sighting' : Sighting} (h : sighting ∈ compared casefold fabric)
    (h' : sighting' ∈ compared casefold fabric) (hkey : keyOf sighting = keyOf sighting') :
    sighting = sighting' :=
  List.inj_on_of_nodup_map (FirstSeen.nodup_map_key_firsts _ _ _) h h' hkey

lemma nodup_mtuLinks_iff (hsort : ∀ sighting ∈ sightings casefold fabric, Sortable sighting) :
    (mtuLinks (reportOf casefold fabric)).Nodup ↔
      ∀ sighting ∈ sightings casefold fabric, ∀ sighting' ∈ sightings casefold fabric,
        Mismatch fabric sighting → sighting.link = sighting'.link →
          sighting.spelling = sighting'.spelling := by
  have hdistinct : (compared casefold fabric).Nodup :=
    List.Nodup.of_map keyOf (FirstSeen.nodup_map_key_firsts _ _ _)
  rw [mtuLinks_reportOf]
  unfold List.Nodup
  rw [List.pairwise_filterMap]
  constructor
  · intro h sighting hsighting sighting' hsighting' hmismatch hlink
    obtain ⟨first, hfirst, hkey⟩ := exists_compared hsighting
    obtain ⟨first', hfirst', hkey'⟩ := exists_compared hsighting'
    have hspelling := spelling_eq_of_keyOf_eq hkey
    have hspelling' := spelling_eq_of_keyOf_eq hkey'
    have hfound : linkFound fabric first = some sighting.link := by
      have hsame := link_eq_of_spelling_eq hspelling
      exact linkFound_eq_some_iff.mpr ⟨hmismatch.of_link_eq hsame.symm, hsame⟩
    have hfound' : linkFound fabric first' = some sighting.link := by
      have hsame := link_eq_of_spelling_eq hspelling'
      exact linkFound_eq_some_iff.mpr
        ⟨hmismatch.of_link_eq (hlink.trans hsame.symm), hsame.trans hlink.symm⟩
    have hsame : first = first' := by
      by_contra hne
      have hsymm : Std.Symm (fun a a' => ∀ b, linkFound fabric a = some b →
          ∀ b', linkFound fabric a' = some b' → b ≠ b') :=
        ⟨fun a a' hab b hb b' hb' heq => hab b' hb' b hb heq.symm⟩
      exact h.forall hfirst hfirst' hne _ hfound _ hfound' rfl
    rw [← hspelling, ← hspelling', hsame]
  · intro h
    apply List.Pairwise.imp_of_mem _ hdistinct
    intro sighting sighting' hmem hmem' hne link hlink link' hlink' heq
    rw [linkFound_eq_some_iff] at hlink hlink'
    have hsighting := FirstSeen.mem_of_mem_firsts hmem
    have hspelling := h sighting hsighting sighting' (FirstSeen.mem_of_mem_firsts hmem') hlink.1
      (hlink.2.trans (heq.trans hlink'.2.symm))
    exact hne (eq_of_compared hmem hmem'
      (keyOf_eq_of_spelling_eq (hsort sighting hsighting) hspelling))

/-! ### Rows -/

lemma mem_mtus_of_firstMtu {port : Port} {mtu : String} (h : firstMtu fabric port = some mtu) :
    some mtu ∈ fabric.mtus port :=
  List.mem_of_mem_head? (Option.join_eq_some_iff.mp h)

lemma firstMtu_eq {port : Port} {mtu : String} (hall : ∀ row ∈ fabric.mtus port, row = some mtu)
    {row : Option String} (hrow : row ∈ fabric.mtus port) : firstMtu fabric port = some mtu := by
  obtain ⟨first, hfirst⟩ := Option.isSome_iff_exists.mp
    (List.isSome_head?.mpr (List.ne_nil_of_mem hrow))
  unfold firstMtu
  rw [hfirst, hall first (List.mem_of_mem_head? hfirst)]
  rfl

def RowOf (name : String) (record : InterfaceRecord) : Bool :=
  canonical (record.interface.getD "") == name

def firstRow (name : String) (records : List InterfaceRecord) : Option InterfaceRecord :=
  records.find? (RowOf name)

lemma firstMtu_eq_firstRow (port : Port) : firstMtu fabric port =
    (firstRow port.2 (fabric.interfacesOf port.1)).bind (fun record => present record.mtu) := by
  unfold firstMtu Fabric.mtus firstRow
  rw [List.head?_map, List.head?_filter]
  change (((fabric.interfacesOf port.1).find? (RowOf port.2)).map _).join = _
  cases (fabric.interfacesOf port.1).find? (RowOf port.2) with
  | none => rfl
  | some record => rfl

lemma exists_firstRow {records : List InterfaceRecord} {record : InterfaceRecord} {name : String}
    (hmem : record ∈ records) (hname : RowOf name record = true) :
    ∃ records', records.Perm records' ∧ firstRow name records' = some record :=
  ListSearch.exists_perm_find hmem hname

lemma exists_firstRow_pair {records : List InterfaceRecord} {record record' : InterfaceRecord}
    {name name' : String} (hne : name ≠ name') (hmem : record ∈ records)
    (hname : RowOf name record = true) (hmem' : record' ∈ records)
    (hname' : RowOf name' record' = true) : ∃ records', records.Perm records' ∧
      firstRow name records' = some record ∧ firstRow name' records' = some record' := by
  apply ListSearch.exists_perm_find_pair hmem hname hmem' hname'
  rintro row ⟨hrow, hrow'⟩
  exact hne ((beq_iff_eq.mp hrow).symm.trans (beq_iff_eq.mp hrow'))

lemma exists_record_of_mem_mtus {port : Port} {row : Option String}
    (h : row ∈ fabric.mtus port) : ∃ record ∈ fabric.interfacesOf port.1,
      RowOf port.2 record = true ∧ present record.mtu = row := by
  obtain ⟨record, hrecord, hmtu⟩ := List.mem_map.mp h
  rw [List.mem_filter] at hrecord
  exact ⟨record, hrecord.1, hrecord.2, hmtu⟩

lemma interfacesOf_eq {device : String} {records : List InterfaceRecord}
    (h : (fabric.get device).bind DeviceSections.interfaces = some records) :
    fabric.interfacesOf device = records := by
  unfold Fabric.interfacesOf
  rw [h]
  rfl

lemma exists_first_rows (casefold : String → String) {port port' : Port} (hne : port ≠ port')
    {row row' : Option String} (hrow : row ∈ fabric.mtus port)
    (hrow' : row' ∈ fabric.mtus port') : ∃ fabric', Rearranged fabric fabric' ∧
      sightings casefold fabric' = sightings casefold fabric ∧
        firstMtu fabric' port = row ∧ firstMtu fabric' port' = row' := by
  obtain ⟨record, hrecord, hname, hmtu⟩ := exists_record_of_mem_mtus hrow
  obtain ⟨record', hrecord', hname', hmtu'⟩ := exists_record_of_mem_mtus hrow'
  have hchoose : ∀ device records,
      (fabric.get device).bind DeviceSections.interfaces = some records →
        ∃ records', records.Perm records' ∧
          ((device = port.1 → firstRow port.2 records' = some record) ∧
            (device = port'.1 → firstRow port'.2 records' = some record')) := by
    intro device records hrecords
    have hrows := interfacesOf_eq hrecords
    by_cases hdevice : device = port.1
    · rw [← hdevice, hrows] at hrecord
      by_cases hdevice' : device = port'.1
      · rw [← hdevice', hrows] at hrecord'
        have hother : port.2 ≠ port'.2 :=
          fun h => hne (Prod.ext (hdevice.symm.trans hdevice') h)
        obtain ⟨records', hperm, hfirst, hfirst'⟩ :=
          exists_firstRow_pair hother hrecord hname hrecord' hname'
        exact ⟨records', hperm, fun _ => hfirst, fun _ => hfirst'⟩
      · obtain ⟨records', hperm, hfirst⟩ := exists_firstRow hrecord hname
        exact ⟨records', hperm, fun _ => hfirst, fun h => absurd h hdevice'⟩
    · by_cases hdevice' : device = port'.1
      · rw [← hdevice', hrows] at hrecord'
        obtain ⟨records', hperm, hfirst⟩ := exists_firstRow hrecord' hname'
        exact ⟨records', hperm, fun h => absurd h hdevice, fun _ => hfirst⟩
      · exact ⟨records, List.Perm.refl _, fun h => absurd h hdevice, fun h => absurd h hdevice'⟩
  obtain ⟨fabric', hrearranged, hsightings, hfirst⟩ := exists_rearranged casefold fabric hchoose
  have hread : ∀ (p : Port) (r : InterfaceRecord), r ∈ fabric.interfacesOf p.1 →
      (∀ records', (fabric'.get p.1).bind DeviceSections.interfaces = some records' →
        firstRow p.2 records' = some r) → firstMtu fabric' p = present r.mtu := by
    intro p r hr hsome
    have hr' := ((hrearranged.sections p.1).2 r).mp hr
    rw [firstMtu_eq_firstRow]
    cases hget : (fabric'.get p.1).bind DeviceSections.interfaces with
    | none =>
      unfold Fabric.interfacesOf at hr'
      rw [hget] at hr'
      cases hr'
    | some records' =>
      rw [interfacesOf_eq hget, hsome records' hget]
      rfl
  refine ⟨fabric', hrearranged, hsightings, ?_, ?_⟩
  · rw [← hmtu]
    exact hread port record hrecord (fun records' hrecords' =>
      (hfirst port.1 records' hrecords').1 rfl)
  · rw [← hmtu']
    exact hread port' record' hrecord' (fun records' hrecords' =>
      (hfirst port'.1 records' hrecords').2 rfl)

lemma differInMtu_link_iff {sighting : Sighting} : DifferInMtu fabric sighting.link ↔
    ∃ mtu mtu', KnownMtu fabric sighting.near.port mtu ∧
      KnownMtu fabric sighting.far.port mtu' ∧ mtu ≠ mtu' := by
  constructor
  · rintro ⟨port, port', mtu, mtu', hlink, hknown, hknown', hne⟩
    unfold Sighting.link at hlink
    rw [Sym2.eq_iff] at hlink
    rcases hlink with ⟨hnear, hfar⟩ | ⟨hnear, hfar⟩
    · exact ⟨mtu, mtu', hnear ▸ hknown, hfar ▸ hknown', hne⟩
    · exact ⟨mtu', mtu, hnear ▸ hknown', hfar ▸ hknown, hne.symm⟩
  · rintro ⟨mtu, mtu', hknown, hknown', hne⟩
    exact ⟨_, _, mtu, mtu', rfl, hknown, hknown', hne⟩

lemma mem_splitOk_iff {σ : Type} (part : DeviceSections → Option σ) (device : String) :
    device ∈ (splitOk fabric part).2 ↔
      ∃ found, fabric.get device = some found ∧ part found = none := by
  unfold splitOk
  rw [List.mem_map]
  constructor
  · rintro ⟨entry, hentry, rfl⟩
    rw [List.mem_filter, Option.isNone_iff_eq_none] at hentry
    exact ⟨entry.2, get_eq_some_iff.mpr hentry.1, hentry.2⟩
  · rintro ⟨found, hget, hnone⟩
    refine ⟨(device, found), List.mem_filter.mpr ⟨get_eq_some_iff.mp hget, ?_⟩, rfl⟩
    rw [hnone]
    rfl

lemma listed_reportOf_iff {rule : RuleName} {device : String} :
    Listed (reportOf casefold fabric) rule device ↔
      device ∈ (resultOf casefold fabric rule).2 := by
  have hrule : rule ∈ auditRules := by
    cases rule <;> decide
  unfold Listed reportOf assembleReport
  simp only [List.filter_map, List.map_map, List.mem_map, List.mem_filter, Function.comp_apply,
    Prod.mk.injEq]
  constructor
  · rintro ⟨devices, ⟨rule', -, rfl, rfl⟩, hdevice⟩
    exact (List.mem_insertionSort _).mp hdevice
  · intro hdevice
    refine ⟨_, ⟨rule, ⟨hrule, ?_⟩, rfl, rfl⟩, (List.mem_insertionSort _).mpr hdevice⟩
    rw [Bool.not_eq_true', List.isEmpty_eq_false_iff]
    exact List.ne_nil_of_mem hdevice

lemma mem_resultOf {rule : RuleName} {device : String} {found : DeviceSections}
    (hget : fabric.get device = some found) (hmissing : SectionMissing found rule) :
    device ∈ (resultOf casefold fabric rule).2 := by
  cases rule with
  | duplicateRouterId => exact (mem_splitOk_iff _ _).mpr ⟨found, hget, hmissing⟩
  | isolatedButConfigured => exact (mem_splitOk_iff _ _).mpr ⟨found, hget, hmissing⟩
  | localAsMix => exact (mem_splitOk_iff _ _).mpr ⟨found, hget, hmissing⟩
  | mtuMismatchOnAdjacency =>
    unfold resultOf sortedNames
    rw [List.mem_insertionSort, List.mem_dedup, List.mem_append, mem_splitOk_iff, mem_splitOk_iff]
    rcases hmissing with h | h
    · exact .inl ⟨found, hget, h⟩
    · exact .inr ⟨found, hget, h⟩
  | hostnameInventoryDrift =>
    refine List.mem_map.mpr ⟨(device, found), List.mem_filter.mpr ⟨get_eq_some_iff.mp hget, ?_⟩,
      rfl⟩
    have hnone : found.hostname = none := hmissing
    simp only [hnone]
    rfl

lemma listed_mtu_iff {device : String} (hsome : (fabric.get device).isSome) :
    Listed (reportOf casefold fabric) .mtuMismatchOnAdjacency device ↔
      ¬BothParsed fabric device := by
  obtain ⟨found, hget⟩ := Option.isSome_iff_exists.mp hsome
  rw [listed_reportOf_iff]
  unfold resultOf sortedNames BothParsed
  rw [List.mem_insertionSort, List.mem_dedup, List.mem_append, mem_splitOk_iff, mem_splitOk_iff,
    hget]
  simp only [Option.some.injEq, exists_eq_left', Option.isSome_iff_ne_none]
  tauto

lemma Rearranged.perm_unevaluated (h : Rearranged fabric fabric') (rule : RuleName) :
    (resultOf casefold fabric rule).2.Perm (resultOf casefold fabric' rule).2 := by
  have hbgp := h.unevaluated DeviceSections.bgp (fun _ _ hsame => hsame.bgp)
  cases rule with
  | duplicateRouterId => exact hbgp
  | isolatedButConfigured => exact hbgp
  | localAsMix => exact hbgp
  | mtuMismatchOnAdjacency =>
    have hlldp := h.unevaluated DeviceSections.lldp (fun _ _ hsame => hsame.lldp)
    have hinterfaces := h.unevaluated DeviceSections.interfaces (fun _ _ hsame => hsame.interfaces)
    have hperm := (hlldp.append hinterfaces).dedup
    exact (List.perm_insertionSort _ _).trans (hperm.trans (List.perm_insertionSort _ _).symm)
  | hostnameInventoryDrift =>
    apply h.perm_filter
    intro device found found' hsame
    simp only [hsame.hostname]

lemma Rearranged.unevaluated_reportOf (h : Rearranged fabric fabric') :
    (reportOf casefold fabric).unevaluated = (reportOf casefold fabric').unevaluated := by
  have hempty : ∀ rule, (resultOf casefold fabric rule).2.isEmpty =
      (resultOf casefold fabric' rule).2.isEmpty :=
    fun rule => (h.perm_unevaluated rule).isEmpty_eq
  have hsorted : ∀ rule, sortedList (resultOf casefold fabric rule).2 =
      sortedList (resultOf casefold fabric' rule).2 :=
    fun rule => sortedList_eq (h.perm_unevaluated rule)
  unfold reportOf assembleReport
  simp only [List.filter_map, List.map_map, Function.comp_def, hempty, hsorted]

lemma Rearranged.perm_findings (h : Rearranged fabric fabric')
    (hmtu : (mtuFindings casefold fabric).Perm (mtuFindings casefold fabric')) :
    (reportOf casefold fabric).findings.Perm (reportOf casefold fabric').findings := by
  have hrule : ∀ rule, (resultOf casefold fabric rule).1.Perm
      (resultOf casefold fabric' rule).1 := by
    intro rule
    cases rule with
    | duplicateRouterId => exact h.duplicateRouterId
    | isolatedButConfigured => exact h.isolatedButConfigured
    | localAsMix => exact List.Perm.of_eq h.localAsMix
    | mtuMismatchOnAdjacency => exact hmtu
    | hostnameInventoryDrift => exact h.hostnameInventoryDrift
  unfold reportOf assembleReport
  simp only [List.flatMap_map]
  apply List.Perm.flatMap_left
  intro rule _
  exact (hrule rule).map _

lemma ClearLinks.differInMtu (h : ClearLinks casefold fabric)
    (hrearranged : Rearranged fabric fabric') {sighting : Sighting}
    (hsighting : sighting ∈ sightings casefold fabric')
    (hmismatch : Mismatch fabric' sighting) : DifferInMtu fabric sighting.link := by
  obtain ⟨mtu, mtu', hnear, hfar, hne⟩ := hmismatch
  have hports : sighting.near.port ≠ sighting.far.port := by
    intro heq
    rw [heq, hfar, Option.some.injEq] at hnear
    exact hne hnear.symm
  have hrow := (hrearranged.mem_mtus_iff _ _).mpr (mem_mtus_of_firstMtu hnear)
  have hrow' := (hrearranged.mem_mtus_iff _ _).mpr (mem_mtus_of_firstMtu hfar)
  obtain ⟨hname, hname'⟩ :=
    h.named fabric' hrearranged sighting hsighting hports mtu mtu' hrow hrow' hne
  exact differInMtu_link_iff.mpr ⟨mtu, mtu', ⟨hname, hrow⟩, ⟨hname', hrow'⟩, hne⟩

lemma ClearLinks.exists_firstMtu (h : ClearLinks casefold fabric)
    (hrearranged : Rearranged fabric fabric') {sighting : Sighting}
    (hsighting : sighting ∈ sightings casefold fabric')
    (hdiffer : DifferInMtu fabric sighting.link) : ∃ mtu mtu', mtu ≠ mtu' ∧
      ∀ fabric'', Rearranged fabric fabric'' →
        firstMtu fabric'' sighting.near.port = some mtu ∧
          firstMtu fabric'' sighting.far.port = some mtu' := by
  obtain ⟨mtu, mtu', hne, hnear, hfar⟩ := h.rows fabric' hrearranged sighting hsighting hdiffer
  obtain ⟨known, known', hknown, hknown', -⟩ := differInMtu_link_iff.mp hdiffer
  refine ⟨mtu, mtu', hne, ?_⟩
  intro fabric'' hother
  constructor
  · exact firstMtu_eq (fun row hrow => hnear row ((hother.mem_mtus_iff _ _).mpr hrow))
      ((hother.mem_mtus_iff _ _).mp hknown.2)
  · exact firstMtu_eq (fun row hrow => hfar row ((hother.mem_mtus_iff _ _).mpr hrow))
      ((hother.mem_mtus_iff _ _).mp hknown'.2)

lemma canonical_empty : canonical "" = "" := by decide

lemma isSome_of_port_ne {linkEnd : LinkEnd} (h : linkEnd.port.2 ≠ "") : linkEnd.2.isSome := by
  rw [Option.isSome_iff_ne_none]
  intro hnone
  apply h
  unfold LinkEnd.port
  rw [hnone, Option.getD_none]
  exact canonical_empty

lemma ClearLinks.comparable (h : ClearLinks casefold fabric)
    (hrearranged : Rearranged fabric fabric') : Comparable casefold fabric' := by
  refine ⟨h.sortable fabric' hrearranged, ?_⟩
  intro sighting hsighting hmismatch
  obtain ⟨mtu, mtu', hknown, hknown', -⟩ :=
    differInMtu_link_iff.mp (h.differInMtu hrearranged hsighting hmismatch)
  have hnear := isSome_of_port_ne hknown.1
  have hfar := isSome_of_port_ne hknown'.1
  exact ⟨hnear, hfar⟩

lemma mem_compared_iff {sighting : Sighting}
    (hsort : ∀ other ∈ sightings casefold fabric, Sortable other)
    (hspelled : ∀ other ∈ sightings casefold fabric, other.link = sighting.link →
      other.spelling = sighting.spelling) :
    sighting ∈ compared casefold fabric ↔ FirstOfLink casefold fabric sighting := by
  unfold compared FirstOfLink
  rw [FirstSeen.mem_firsts_iff, and_iff_right List.not_mem_nil]
  have hsame : (sightings casefold fabric).find?
      (fun other => decide (keyOf other = keyOf sighting)) =
        (sightings casefold fabric).find? (fun other => decide (other.link = sighting.link)) := by
    apply List.find?_congr
    intro other hother
    rw [decide_eq_decide]
    constructor
    · exact fun hkey => link_eq_of_spelling_eq (spelling_eq_of_keyOf_eq hkey)
    · exact fun hlink => keyOf_eq_of_spelling_eq (hsort other hother) (hspelled other hother hlink)
  rw [hsame]

lemma ClearLinks.mem_compared_iff (h : ClearLinks casefold fabric)
    (hrearranged : Rearranged fabric fabric') {sighting : Sighting}
    (hsighting : sighting ∈ sightings casefold fabric')
    (hdiffer : DifferInMtu fabric sighting.link) :
    sighting ∈ compared casefold fabric' ↔ FirstOfLink casefold fabric' sighting := by
  apply Audit.mem_compared_iff (h.sortable fabric' hrearranged)
  intro other hother hlink
  exact h.spelled fabric' hrearranged other hother sighting hsighting hlink (hlink ▸ hdiffer)

lemma ClearLinks.mtuFindings_subset (h : ClearLinks casefold fabric) {first second : Fabric}
    (hfirst : Rearranged fabric first) (hsecond : Rearranged fabric second) :
    mtuFindings casefold first ⊆ mtuFindings casefold second := by
  intro finding hfinding
  obtain ⟨sighting, hcompared, hfound⟩ := List.mem_filterMap.mp hfinding
  have hsighting := FirstSeen.mem_of_mem_firsts hcompared
  have hmismatch := foundFor_isSome_iff.mp (hfound ▸ Option.isSome_some)
  have hdiffer := h.differInMtu hfirst hsighting hmismatch
  have hfirstOf := (h.mem_compared_iff hfirst hsighting hdiffer).mp hcompared
  have hreported := (hfirst.reported_iff _).mpr (reported_of_sighting hsighting)
  obtain ⟨other, hother, hlink⟩ := h.seen sighting.link hreported hdiffer second hsecond
  have hsome : ((sightings casefold second).find?
      (fun sighting' => decide (sighting'.link = sighting.link))).isSome := by
    rw [List.find?_isSome]
    exact ⟨other, hother, decide_eq_true hlink⟩
  obtain ⟨sighting', hfind⟩ := Option.isSome_iff_exists.mp hsome
  have hlink' : sighting'.link = sighting.link := by simpa using List.find?_some hfind
  have hfirstOf' : FirstOfLink casefold second sighting' := by
    unfold FirstOfLink
    rw [hlink']
    exact hfind
  have hsame := h.first first second hfirst hsecond sighting sighting' hfirstOf hfirstOf'
    hlink'.symm hdiffer
  subst hsame
  have hsighting' := List.mem_of_find?_eq_some hfind
  refine List.mem_filterMap.mpr
    ⟨sighting, (h.mem_compared_iff hsecond hsighting' hdiffer).mpr hfirstOf', ?_⟩
  obtain ⟨mtu, mtu', -, hread⟩ := h.exists_firstMtu hfirst hsighting hdiffer
  rw [← hfound]
  unfold foundFor
  rw [(hread first hfirst).1, (hread first hfirst).2, (hread second hsecond).1,
    (hread second hsecond).2]

lemma ClearLinks.nodup_mtuLinks (h : ClearLinks casefold fabric)
    (hrearranged : Rearranged fabric fabric') : (mtuLinks (reportOf casefold fabric')).Nodup := by
  rw [nodup_mtuLinks_iff (h.sortable fabric' hrearranged)]
  intro sighting hsighting sighting' hsighting' hmismatch hlink
  exact h.spelled fabric' hrearranged sighting hsighting sighting' hsighting' hlink
    (h.differInMtu hrearranged hsighting hmismatch)

lemma nodup_mtuFindings (h : (mtuLinks (reportOf casefold fabric)).Nodup) :
    (mtuFindings casefold fabric).Nodup := by
  rw [mtuLinks_reportOf] at h
  unfold mtuFindings
  unfold List.Nodup at h ⊢
  rw [List.pairwise_filterMap] at h ⊢
  apply h.imp
  intro sighting sighting' hne finding hfound finding' hfound' heq
  have hlink : linkFound fabric sighting = some sighting.link :=
    linkFound_eq_some_iff.mpr ⟨foundFor_isSome_iff.mp (hfound ▸ Option.isSome_some), rfl⟩
  have hlink' : linkFound fabric sighting' = some sighting'.link :=
    linkFound_eq_some_iff.mpr ⟨foundFor_isSome_iff.mp (hfound' ▸ Option.isSome_some), rfl⟩
  apply hne _ hlink _ hlink'
  have hmessage := link_of_foundFor hfound
  rw [heq, link_of_foundFor hfound', Option.some.injEq] at hmessage
  exact hmessage.symm

lemma ClearLinks.mem_mtuLinks_iff (h : ClearLinks casefold fabric)
    (hrearranged : Rearranged fabric fabric') (link : PhysicalLink) :
    link ∈ mtuLinks (reportOf casefold fabric') ↔
      Reported casefold fabric link ∧ DifferInMtu fabric link := by
  rw [Audit.mem_mtuLinks_iff]
  constructor
  · rintro ⟨sighting, hsighting, hmismatch, rfl⟩
    exact ⟨(hrearranged.reported_iff _).mpr (reported_of_sighting hsighting),
      h.differInMtu hrearranged hsighting hmismatch⟩
  · rintro ⟨hreported, hdiffer⟩
    obtain ⟨sighting, hsighting, rfl⟩ := h.seen link hreported hdiffer fabric' hrearranged
    obtain ⟨mtu, mtu', hne, hread⟩ := h.exists_firstMtu hrearranged hsighting hdiffer
    obtain ⟨hnear, hfar⟩ := hread fabric' hrearranged
    exact ⟨sighting, hsighting, ⟨mtu, mtu', hnear, hfar, hne⟩, rfl⟩

lemma isSome_of_reports {device : String} {record : AdjacencyRecord} {neighbor : String}
    (h : Reports casefold fabric device record neighbor) :
    (fabric.get device).isSome ∧ (fabric.get neighbor).isSome := by
  obtain ⟨hrecord, hnames⟩ := h
  constructor
  · unfold Fabric.lldpOf at hrecord
    cases hget : fabric.get device with
    | none =>
      rw [hget] at hrecord
      cases hrecord
    | some found => rfl
  · have hsome := hnames.1
    rw [facts_get, Option.isSome_map] at hsome
    exact hsome

lemma Rearranged.listed_iff (h : Rearranged fabric fabric') (rule : RuleName) (device : String) :
    Listed (reportOf casefold fabric) rule device ↔
      Listed (reportOf casefold fabric') rule device := by
  rw [listed_reportOf_iff, listed_reportOf_iff, (h.perm_unevaluated rule).mem_iff]

lemma Rearranged.readOrListed_iff (h : Rearranged fabric fabric') {port : Port}
    (hsome : (fabric.get port.1).isSome) :
    ReadOrListed fabric (reportOf casefold fabric') port ↔ Readable fabric port := by
  unfold ReadOrListed Readable
  rw [← h.listed_iff, listed_mtu_iff hsome]

namespace AuditIsExact

lemma comparable (h : AuditIsExact casefold fabric) (hrearranged : Rearranged fabric fabric') :
    runAudit casefold fabric' = .ok (reportOf casefold fabric') ∧ Comparable casefold fabric' := by
  obtain ⟨report, hreport⟩ := h.runs fabric' hrearranged
  have hcomparable := (runAudit_eq_ok_iff.mp hreport).2
  exact ⟨runAudit_eq_ok_iff.mpr ⟨rfl, hcomparable⟩, hcomparable⟩

lemma mismatch (h : AuditIsExact casefold fabric) (hrearranged : Rearranged fabric fabric')
    {sighting : Sighting} (hsighting : sighting ∈ sightings casefold fabric')
    (hdiffer : DifferInMtu fabric sighting.link) : Mismatch fabric' sighting := by
  have hreported := (hrearranged.reported_iff _).mpr (reported_of_sighting hsighting)
  have hmem := (h.exact fabric' hrearranged _ (h.comparable hrearranged).1 _).mpr
    ⟨hreported, hdiffer⟩
  obtain ⟨other, -, hmismatch, hlink⟩ := mem_mtuLinks_iff.mp hmem
  exact hmismatch.of_link_eq hlink

lemma mem_findings {sighting : Sighting} {finding : RuleFinding}
    (hcompared : sighting ∈ compared casefold fabric')
    (hfound : foundFor fabric' sighting = some finding) :
    ⟨.mtuMismatchOnAdjacency, .warning, .protocol, finding⟩ ∈
      (reportOf casefold fabric').findings := by
  unfold reportOf assembleReport
  simp only [List.flatMap_map]
  refine List.mem_flatMap.mpr ⟨.mtuMismatchOnAdjacency, by decide, ?_⟩
  exact List.mem_map.mpr ⟨finding, List.mem_filterMap.mpr ⟨sighting, hcompared, hfound⟩, rfl⟩

lemma agree (h : AuditIsExact casefold fabric) {first second : Fabric}
    (hfirst : Rearranged fabric first) (hsecond : Rearranged fabric second)
    {sighting sighting' : Sighting} {finding finding' : RuleFinding}
    (hcompared : sighting ∈ compared casefold first)
    (hfound : foundFor first sighting = some finding)
    (hcompared' : sighting' ∈ compared casefold second)
    (hfound' : foundFor second sighting' = some finding')
    (hlink : sighting.link = sighting'.link) : finding = finding' := by
  have hself := h.comparable (Rearranged.refl fabric)
  have hperm := h.unchanged first hfirst _ _ hself.1 (h.comparable hfirst).1
  have hperm' := h.unchanged second hsecond _ _ hself.1 (h.comparable hsecond).1
  have hmem := hperm.1.mem_iff.mpr (mem_findings hcompared hfound)
  have hmem' := hperm'.1.mem_iff.mpr (mem_findings hcompared' hfound')
  have honce := h.once fabric (Rearranged.refl fabric) _ hself.1
  by_contra hne
  unfold mtuLinks List.Nodup at honce
  rw [List.pairwise_filterMap] at honce
  have hsymm : Std.Symm (fun a a' : Finding => ∀ b, a.finding.message.link = some b →
      ∀ b', a'.finding.message.link = some b' → b ≠ b') :=
    ⟨fun a a' hab b hb b' hb' heq => hab b' hb' b hb heq.symm⟩
  exact honce.forall hmem hmem' (fun heq => hne (congrArg Finding.finding heq)) _
    (link_of_foundFor hfound) _ (link_of_foundFor hfound') hlink

lemma firstMtu_eq (h : AuditIsExact casefold fabric) {first second : Fabric}
    (hfirst : Rearranged fabric first) (hsecond : Rearranged fabric second) {sighting : Sighting}
    (hsighting : sighting ∈ sightings casefold first)
    (hsighting' : sighting ∈ sightings casefold second)
    (hdiffer : DifferInMtu fabric sighting.link) :
    firstMtu first sighting.near.port = firstMtu second sighting.near.port ∧
      firstMtu first sighting.far.port = firstMtu second sighting.far.port := by
  obtain ⟨one, hone, hkey⟩ := exists_compared hsighting
  obtain ⟨two, htwo, hkey'⟩ := exists_compared hsighting'
  have hlink := link_eq_of_spelling_eq (spelling_eq_of_keyOf_eq hkey)
  have hlink' := link_eq_of_spelling_eq (spelling_eq_of_keyOf_eq hkey')
  have hmismatch := h.mismatch hfirst (FirstSeen.mem_of_mem_firsts hone) (hlink ▸ hdiffer)
  have hmismatch' := h.mismatch hsecond (FirstSeen.mem_of_mem_firsts htwo) (hlink' ▸ hdiffer)
  obtain ⟨finding, hfound⟩ := Option.isSome_iff_exists.mp (foundFor_isSome_iff.mpr hmismatch)
  obtain ⟨finding', hfound'⟩ := Option.isSome_iff_exists.mp (foundFor_isSome_iff.mpr hmismatch')
  have hsame := h.agree hfirst hsecond hone hfound htwo hfound' (hlink.trans hlink'.symm)
  obtain ⟨mtu, mtu', hnear, hfar, -, hmessage⟩ := of_foundFor hfound
  obtain ⟨known, known', hnear', hfar', -, hmessage'⟩ := of_foundFor hfound'
  rw [hsame, hmessage', Message.mtuMismatch.injEq] at hmessage
  obtain ⟨hdevice, hinterface, rfl, hneighbor, hother, rfl⟩ := hmessage
  have hports : one.near.port = two.near.port ∧ one.far.port = two.far.port := by
    unfold Sighting.near Sighting.far LinkEnd.port
    rw [hdevice, hinterface, hneighbor, hother]
    exact ⟨rfl, rfl⟩
  have hread : firstMtu first one.near.port = firstMtu second one.near.port ∧
      firstMtu first one.far.port = firstMtu second one.far.port := by
    rw [hnear, hfar, hports.1, hports.2, hnear', hfar']
    exact ⟨rfl, rfl⟩
  unfold Sighting.link at hlink
  rw [Sym2.eq_iff] at hlink
  rcases hlink with ⟨hn, hf⟩ | ⟨hn, hf⟩
  · rw [← hn, ← hf]
    exact hread
  · rw [← hn, ← hf]
    exact hread.symm

end AuditIsExact

lemma port_ne_of_mismatch {sighting : Sighting} (h : Mismatch fabric sighting) :
    sighting.near.port ≠ sighting.far.port := by
  obtain ⟨mtu, mtu', hnear, hfar, hne⟩ := h
  intro heq
  rw [heq, hfar, Option.some.injEq] at hnear
  exact hne hnear.symm

namespace AuditIsExact

lemma rows (h : AuditIsExact casefold fabric) (hrearranged : Rearranged fabric fabric')
    {sighting : Sighting} (hsighting : sighting ∈ sightings casefold fabric')
    (hdiffer : DifferInMtu fabric sighting.link) : ∃ mtu mtu', mtu ≠ mtu' ∧
      (∀ row ∈ fabric.mtus sighting.near.port, row = some mtu) ∧
        ∀ row ∈ fabric.mtus sighting.far.port, row = some mtu' := by
  have hports := port_ne_of_mismatch (h.mismatch hrearranged hsighting hdiffer)
  obtain ⟨mtu, mtu', hknown, hknown', hne⟩ := differInMtu_link_iff.mp hdiffer
  -- Any two rows can come first, and what the loop finds depends on the first rows only.
  have hpick : ∀ row ∈ fabric.mtus sighting.near.port, ∀ row' ∈ fabric.mtus sighting.far.port,
      row = some mtu ∧ row' = some mtu' := by
    intro row hrow row' hrow'
    have hmem := (hrearranged.mem_mtus_iff _ _).mp hrow
    have hmem' := (hrearranged.mem_mtus_iff _ _).mp hrow'
    obtain ⟨first, hfirst, hsightings, hnear, hfar⟩ :=
      exists_first_rows casefold hports hmem hmem'
    obtain ⟨second, hsecond, hsightings', hnear', hfar'⟩ := exists_first_rows casefold hports
      ((hrearranged.mem_mtus_iff _ _).mp hknown.2) ((hrearranged.mem_mtus_iff _ _).mp hknown'.2)
    have hsame := h.firstMtu_eq (hrearranged.trans hfirst) (hrearranged.trans hsecond)
      (hsightings ▸ hsighting) (hsightings' ▸ hsighting) hdiffer
    rw [hnear, hfar, hnear', hfar'] at hsame
    exact hsame
  exact ⟨mtu, mtu', hne, fun row hrow => (hpick row hrow _ hknown'.2).1,
    fun row' hrow' => (hpick _ hknown.2 row' hrow').2⟩

lemma named (h : AuditIsExact casefold fabric) (hrearranged : Rearranged fabric fabric')
    {sighting : Sighting} (hsighting : sighting ∈ sightings casefold fabric')
    (hports : sighting.near.port ≠ sighting.far.port) {mtu mtu' : String}
    (hrow : some mtu ∈ fabric.mtus sighting.near.port)
    (hrow' : some mtu' ∈ fabric.mtus sighting.far.port) (hne : mtu ≠ mtu') :
    sighting.near.port.2 ≠ "" ∧ sighting.far.port.2 ≠ "" := by
  obtain ⟨first, hfirst, hsightings, hnear, hfar⟩ := exists_first_rows casefold hports
    ((hrearranged.mem_mtus_iff _ _).mp hrow) ((hrearranged.mem_mtus_iff _ _).mp hrow')
  have horder := hrearranged.trans hfirst
  have hmem : sighting.link ∈ mtuLinks (reportOf casefold first) :=
    mem_mtuLinks_iff.mpr
      ⟨sighting, hsightings ▸ hsighting, ⟨mtu, mtu', hnear, hfar, hne⟩, rfl⟩
  have hdiffer := ((h.exact first horder _ (h.comparable horder).1 _).mp hmem).2
  obtain ⟨known, known', hknown, hknown', -⟩ := differInMtu_link_iff.mp hdiffer
  exact ⟨hknown.1, hknown'.1⟩

lemma spelled (h : AuditIsExact casefold fabric) (hrearranged : Rearranged fabric fabric')
    {sighting sighting' : Sighting} (hsighting : sighting ∈ sightings casefold fabric')
    (hsighting' : sighting' ∈ sightings casefold fabric')
    (hlink : sighting.link = sighting'.link) (hdiffer : DifferInMtu fabric sighting.link) :
    sighting.spelling = sighting'.spelling := by
  obtain ⟨hok, hcomparable⟩ := h.comparable hrearranged
  have honce := h.once fabric' hrearranged _ hok
  rw [nodup_mtuLinks_iff hcomparable.1] at honce
  exact honce sighting hsighting sighting' hsighting'
    (h.mismatch hrearranged hsighting hdiffer) hlink

lemma exists_found (h : AuditIsExact casefold fabric) (hrearranged : Rearranged fabric fabric')
    {sighting : Sighting} (hfirst : FirstOfLink casefold fabric' sighting)
    (hdiffer : DifferInMtu fabric sighting.link) : sighting ∈ compared casefold fabric' ∧
      Written sighting ∧ ∃ finding, foundFor fabric' sighting = some finding := by
  have hsighting : sighting ∈ sightings casefold fabric' := List.mem_of_find?_eq_some hfirst
  have hcomparable := (h.comparable hrearranged).2
  have hmismatch := h.mismatch hrearranged hsighting hdiffer
  refine ⟨?_, hcomparable.2 sighting hsighting hmismatch,
    Option.isSome_iff_exists.mp (foundFor_isSome_iff.mpr hmismatch)⟩
  apply (mem_compared_iff hcomparable.1 _).mpr hfirst
  intro other hother hlink
  exact h.spelled hrearranged hother hsighting hlink (hlink ▸ hdiffer)

lemma first (h : AuditIsExact casefold fabric) {one two : Fabric}
    (hone : Rearranged fabric one) (htwo : Rearranged fabric two) {sighting sighting' : Sighting}
    (hfirst : FirstOfLink casefold one sighting) (hfirst' : FirstOfLink casefold two sighting')
    (hlink : sighting.link = sighting'.link) (hdiffer : DifferInMtu fabric sighting.link) :
    sighting = sighting' := by
  obtain ⟨hcompared, hwritten, finding, hfound⟩ := h.exists_found hone hfirst hdiffer
  obtain ⟨hcompared', hwritten', finding', hfound'⟩ :=
    h.exists_found htwo hfirst' (hlink ▸ hdiffer)
  have hsame := h.agree hone htwo hcompared hfound hcompared' hfound' hlink
  obtain ⟨mtu, mtu', -, -, -, hmessage⟩ := of_foundFor hfound
  obtain ⟨known, known', -, -, -, hmessage'⟩ := of_foundFor hfound'
  rw [hsame, hmessage', Message.mtuMismatch.injEq] at hmessage
  obtain ⟨hdevice, hinterface, -, hneighbor, hother, -⟩ := hmessage
  obtain ⟨device, interface, neighbor, neighborInterface⟩ := sighting
  obtain ⟨device', interface', neighbor', neighborInterface'⟩ := sighting'
  obtain ⟨name, rfl⟩ := Option.isSome_iff_exists.mp hwritten.1
  obtain ⟨far, rfl⟩ := Option.isSome_iff_exists.mp hwritten.2
  obtain ⟨name', rfl⟩ := Option.isSome_iff_exists.mp hwritten'.1
  obtain ⟨far', rfl⟩ := Option.isSome_iff_exists.mp hwritten'.2
  simp only [Option.getD_some] at hdevice hinterface hneighbor hother
  rw [hdevice, hinterface, hneighbor, hother]

end AuditIsExact

/-- The audit of a fabric is exact, in every order, exactly when its links are clear. -/
theorem auditIsExact_iff (casefold : String → String) (fabric : Fabric) :
    AuditIsExact casefold fabric ↔ ClearLinks casefold fabric := by
  constructor
  · intro h
    refine ⟨?_, ?_, ?_, ?_, ?_, ?_, ?_⟩
    · exact fun fabric' hrearranged => (h.comparable hrearranged).2.1
    · exact fun fabric' hrearranged sighting hsighting hports mtu mtu' hrow hrow' hne =>
        h.named hrearranged hsighting hports hrow hrow' hne
    · exact fun fabric' hrearranged sighting hsighting hdiffer =>
        h.rows hrearranged hsighting hdiffer
    · intro link hreported hdiffer fabric' hrearranged
      have hmem := (h.exact fabric' hrearranged _ (h.comparable hrearranged).1 link).mpr
        ⟨hreported, hdiffer⟩
      obtain ⟨sighting, hsighting, -, hlink⟩ := mem_mtuLinks_iff.mp hmem
      exact ⟨sighting, hsighting, hlink⟩
    · exact fun fabric' hrearranged sighting hsighting sighting' hsighting' hlink hdiffer =>
        h.spelled hrearranged hsighting hsighting' hlink hdiffer
    · exact fun one two hone htwo sighting sighting' hfirst hfirst' hlink hdiffer =>
        h.first hone htwo hfirst hfirst' hlink hdiffer
    · intro device record neighbor hreports
      have hself := Rearranged.refl fabric
      have hsome := isSome_of_reports hreports
      have hunread := h.unread fabric hself _ (h.comparable hself).1 device record neighbor hreports
      rw [hself.readOrListed_iff hsome.1, hself.readOrListed_iff hsome.2] at hunread
      exact hunread
  · intro h
    have hreport : ∀ fabric', Rearranged fabric fabric' → ∀ report,
        runAudit casefold fabric' = .ok report → report = reportOf casefold fabric' :=
      fun fabric' _ report hok => (runAudit_eq_ok_iff.mp hok).1
    have hself := Rearranged.refl fabric
    refine ⟨?_, ?_, ?_, ?_, ?_, ?_, ?_⟩
    · exact fun fabric' hrearranged =>
        ⟨_, runAudit_eq_ok_iff.mpr ⟨rfl, h.comparable hrearranged⟩⟩
    · intro fabric' hrearranged report hok
      rw [hreport fabric' hrearranged report hok]
      obtain ⟨hall, -, hsome⟩ := foldl_raiseSeverity (reportOf casefold fabric').findings .ok
      exact ⟨hall, hsome⟩
    · intro fabric' hrearranged report report' hok hok'
      rw [hreport fabric hself report hok, hreport fabric' hrearranged report' hok']
      refine ⟨hrearranged.perm_findings ?_, hrearranged.unevaluated_reportOf⟩
      rw [List.perm_ext_iff_of_nodup (nodup_mtuFindings (h.nodup_mtuLinks hself))
        (nodup_mtuFindings (h.nodup_mtuLinks hrearranged))]
      exact fun finding => ⟨fun hmem => h.mtuFindings_subset hself hrearranged hmem,
        fun hmem => h.mtuFindings_subset hrearranged hself hmem⟩
    · intro fabric' hrearranged report hok
      rw [hreport fabric' hrearranged report hok]
      exact h.nodup_mtuLinks hrearranged
    · intro fabric' hrearranged report hok link
      rw [hreport fabric' hrearranged report hok]
      exact h.mem_mtuLinks_iff hrearranged link
    · intro fabric' hrearranged report hok rule device found hget hmissing
      rw [hreport fabric' hrearranged report hok, ← hrearranged.listed_iff, listed_reportOf_iff]
      exact mem_resultOf hget hmissing
    · intro fabric' hrearranged report hok device record neighbor hreports
      have hsome := isSome_of_reports hreports
      rw [hreport fabric' hrearranged report hok, hrearranged.readOrListed_iff hsome.1,
        hrearranged.readOrListed_iff hsome.2]
      exact h.readable device record neighbor hreports

def missingRow : Fabric where
  entries :=
    [("P1", ⟨some [⟨some "P2", some "Gi0/0/0/0", some "Gi0/0/0/0"⟩],
        some [⟨some "Gi0/0/0/0", some "1514"⟩], some ⟨none, none, []⟩, some "P1"⟩),
      ("P2", ⟨some [], some [⟨some "Gi0/0/0/1", some "1514"⟩], some ⟨none, none, []⟩, some "P2"⟩)]
  nodup := by decide
  named := by decide

/-- The link is taken for consistent, and nothing says that the far end was not read. -/
theorem not_auditIsExact_missingRow : ¬ AuditIsExact asciiFold missingRow := by
  intro h
  have hself := Rearranged.refl missingRow
  obtain ⟨report, hok⟩ := h.runs _ hself
  have hreports : Reports asciiFold missingRow "P1"
      ⟨some "P2", some "Gi0/0/0/0", some "Gi0/0/0/0"⟩ "P2" :=
    ⟨List.mem_cons_self, by decide, .inl (by decide)⟩
  have hread : (runAudit asciiFold missingRow).toOption.map Report.unevaluated = some [] := by
    decide +kernel
  rw [hok] at hread
  have hnone : report.unevaluated = [] := Option.some.inj hread
  rcases (h.unread _ hself report hok _ _ _ hreports).2 with ⟨mtu, -, hrow⟩ | ⟨devices, hlisted, -⟩
  · have hrows : missingRow.mtus (LinkEnd.port ("P2", some "Gi0/0/0/0")) = [] := by decide +kernel
    rw [hrows] at hrow
    cases hrow
  · rw [hnone] at hlisted
    cases hlisted

end Audit

end NetTools
