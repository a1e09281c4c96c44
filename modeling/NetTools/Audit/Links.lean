import Mathlib.Data.Sym.Sym2
import NetTools.Audit.Orders
import NetTools.Library.Validation

/-!
# Links

The physical links that the LLDP records of a fabric report, and what the loop over the records
finds: one mismatch for each pair of spelled ends, where the first rows of the two interfaces have
different MTUs.
-/

namespace NetTools

namespace Audit

abbrev Port : Type := String × String

def LinkEnd.port (linkEnd : LinkEnd) : Port := (linkEnd.1, canonical (linkEnd.2.getD ""))

abbrev PhysicalLink : Type := Sym2 Port

def Sighting.link (sighting : Sighting) : PhysicalLink := s(sighting.near.port, sighting.far.port)

def Sighting.spelling (sighting : Sighting) : Sym2 LinkEnd := s(sighting.near, sighting.far)

def Message.link : Message → Option PhysicalLink
  | .mtuMismatch device interface _ neighbor neighborInterface _ =>
    some s((device, canonical interface), (neighbor, canonical neighborInterface))
  | _ => none

namespace Fabric

variable (fabric : Fabric)

def lldpOf (device : String) : List AdjacencyRecord :=
  ((fabric.get device).bind DeviceSections.lldp).getD []

def interfacesOf (device : String) : List InterfaceRecord :=
  ((fabric.get device).bind DeviceSections.interfaces).getD []

def mtus (port : Port) : List (Option String) :=
  ((fabric.interfacesOf port.1).filter
    (fun record => canonical (record.interface.getD "") == port.2)).map
      (fun record => present record.mtu)

end Fabric

def KnownMtu (fabric : Fabric) (port : Port) (mtu : String) : Prop :=
  port.2 ≠ "" ∧ some mtu ∈ fabric.mtus port

def DifferInMtu (fabric : Fabric) (link : PhysicalLink) : Prop :=
  ∃ port port' mtu mtu', link = s(port, port') ∧ KnownMtu fabric port mtu ∧
    KnownMtu fabric port' mtu' ∧ mtu ≠ mtu'

def Reports (casefold : String → String) (fabric : Fabric) (device : String)
    (record : AdjacencyRecord) (neighbor : String) : Prop :=
  record ∈ fabric.lldpOf device ∧ Names casefold fabric.facts (record.neighbor.getD "") neighbor

def Reported (casefold : String → String) (fabric : Fabric) (link : PhysicalLink) : Prop :=
  ∃ device record neighbor, Reports casefold fabric device record neighbor ∧
    link = s(LinkEnd.port (device, record.localInterface),
      LinkEnd.port (neighbor, record.neighborInterface))

/-! ### What the loop finds -/

def firstMtu (fabric : Fabric) (port : Port) : Option String := (fabric.mtus port).head?.join

lemma present_mtuOf (fabric : Fabric) (linkEnd : LinkEnd) :
    present (mtuOf fabric linkEnd.1 (linkEnd.2.getD "")) = firstMtu fabric linkEnd.port := by
  unfold mtuOf firstMtu Fabric.mtus Fabric.interfacesOf LinkEnd.port
  rw [List.head?_map, List.head?_filter]
  cases List.find? _ (((fabric.get linkEnd.1).bind DeviceSections.interfaces).getD []) with
  | none => rfl
  | some record => rfl

def Mismatch (fabric : Fabric) (sighting : Sighting) : Prop :=
  ∃ mtu mtu', firstMtu fabric sighting.near.port = some mtu ∧
    firstMtu fabric sighting.far.port = some mtu' ∧ mtu ≠ mtu'

lemma Mismatch.of_link_eq {fabric : Fabric} {sighting sighting' : Sighting}
    (h : Mismatch fabric sighting) (hlink : sighting.link = sighting'.link) :
    Mismatch fabric sighting' := by
  obtain ⟨mtu, mtu', hnear, hfar, hne⟩ := h
  unfold Sighting.link at hlink
  rw [Sym2.eq_iff] at hlink
  rcases hlink with ⟨hn, hf⟩ | ⟨hn, hf⟩
  · exact ⟨mtu, mtu', hn ▸ hnear, hf ▸ hfar, hne⟩
  · exact ⟨mtu', mtu, hf ▸ hfar, hn ▸ hnear, hne.symm⟩

lemma link_eq_of_spelling_eq {sighting sighting' : Sighting}
    (h : sighting.spelling = sighting'.spelling) : sighting.link = sighting'.link := by
  have hmap := congrArg (Sym2.map LinkEnd.port) h
  exact hmap

def Sortable (sighting : Sighting) : Prop :=
  sighting.device = sighting.neighbor →
    sighting.interface.isSome = sighting.neighborInterface.isSome

def keyOf (sighting : Sighting) : LinkEnd × LinkEnd :=
  match linkKey sighting.near sighting.far with
  | .ok key => key
  | .error _ => (sighting.near, sighting.far)

lemma linkKey_eq_ok_iff (sighting : Sighting) :
    linkKey sighting.near sighting.far = .ok (keyOf sighting) ↔ Sortable sighting := by
  obtain ⟨device, interface, neighbor, neighborInterface⟩ := sighting
  unfold keyOf linkKey LinkEnd.lt Sortable Sighting.near Sighting.far
  by_cases hsame : neighbor = device
  · subst hsame
    cases interface <;> cases neighborInterface <;> simp [bind, Except.bind, pure, Except.pure,
      throw, throwThe, MonadExceptOf.throw]
  · have hne : device ≠ neighbor := fun h => hsame h.symm
    simp [hsame, hne, bind, Except.bind, pure, Except.pure]

lemma keyOf_eq_or (sighting : Sighting) : keyOf sighting = (sighting.near, sighting.far) ∨
    keyOf sighting = (sighting.far, sighting.near) := by
  unfold keyOf linkKey
  cases LinkEnd.lt sighting.far sighting.near with
  | error _ => exact .inl rfl
  | ok swap =>
    cases swap with
    | false => exact .inl rfl
    | true => exact .inr rfl

lemma spelling_eq_of_keyOf_eq {sighting sighting' : Sighting}
    (h : keyOf sighting = keyOf sighting') : sighting.spelling = sighting'.spelling := by
  have hread : ∀ t : Sighting, t.spelling = s((keyOf t).1, (keyOf t).2) := by
    intro t
    rcases keyOf_eq_or t with hkey | hkey
    · rw [hkey]
      rfl
    · rw [hkey]
      exact Sym2.eq_swap
  rw [hread, hread, h]

lemma lt_total {left right : LinkEnd} (hne : left ≠ right)
    (hsort : left.1 = right.1 → left.2.isSome = right.2.isSome) :
    LinkEnd.lt left right = .ok true ∧ LinkEnd.lt right left = .ok false ∨
      LinkEnd.lt left right = .ok false ∧ LinkEnd.lt right left = .ok true := by
  obtain ⟨device, interface⟩ := left
  obtain ⟨device', interface'⟩ := right
  unfold LinkEnd.lt
  by_cases hdevice : device = device'
  · subst hdevice
    have hsome := hsort rfl
    cases interface with
    | none =>
      cases interface' with
      | none => exact absurd rfl hne
      | some _ => cases hsome
    | some interface =>
      cases interface' with
      | none => cases hsome
      | some interface' =>
        have hother : interface ≠ interface' := by
          rintro rfl
          exact hne rfl
        simp only [if_true]
        rcases lt_or_gt_of_ne hother with hlt | hgt
        · exact .inl ⟨by rw [decide_eq_true hlt]; rfl, by rw [decide_eq_false hlt.asymm]; rfl⟩
        · exact .inr ⟨by rw [decide_eq_false hgt.asymm]; rfl, by rw [decide_eq_true hgt]; rfl⟩
  · simp only [if_neg hdevice, if_neg (Ne.symm hdevice)]
    rcases lt_or_gt_of_ne hdevice with hlt | hgt
    · exact .inl ⟨by rw [decide_eq_true hlt]; rfl, by rw [decide_eq_false hlt.asymm]; rfl⟩
    · exact .inr ⟨by rw [decide_eq_false hgt.asymm]; rfl, by rw [decide_eq_true hgt]; rfl⟩

lemma keyOf_eq_of_spelling_eq {sighting sighting' : Sighting} (hsort : Sortable sighting)
    (h : sighting.spelling = sighting'.spelling) : keyOf sighting = keyOf sighting' := by
  unfold Sighting.spelling at h
  rw [Sym2.eq_iff] at h
  unfold keyOf linkKey
  rcases h with ⟨hnear, hfar⟩ | ⟨hnear, hfar⟩
  · rw [hnear, hfar]
  · rw [← hnear, ← hfar]
    by_cases hne : sighting.near = sighting.far
    · rw [hne]
    · rcases lt_total hne hsort with ⟨hlt, hlt'⟩ | ⟨hlt, hlt'⟩
      · rw [hlt, hlt']
        rfl
      · rw [hlt, hlt']
        rfl

def Written (sighting : Sighting) : Prop :=
  sighting.interface.isSome ∧ sighting.neighborInterface.isSome

def foundFor (fabric : Fabric) (sighting : Sighting) : Option RuleFinding :=
  match firstMtu fabric sighting.near.port, firstMtu fabric sighting.far.port with
  | some mtu, some neighborMtu =>
    if mtu = neighborMtu then none
    else some
      { message := .mtuMismatch sighting.device (sighting.interface.getD "") mtu sighting.neighbor
          (sighting.neighborInterface.getD "") neighborMtu
        devices := sortedList [sighting.device, sighting.neighbor]
        evidence := "lldp + interfaces:mtu" }
  | _, _ => none

variable {fabric : Fabric} {sighting : Sighting}

lemma foundFor_isSome_iff : (foundFor fabric sighting).isSome ↔ Mismatch fabric sighting := by
  unfold foundFor Mismatch
  cases firstMtu fabric sighting.near.port with
  | none => simp
  | some mtu =>
    cases firstMtu fabric sighting.far.port with
    | none => simp
    | some mtu' =>
      by_cases h : mtu = mtu'
      · simp [h]
      · simp [h]

lemma of_foundFor {finding : RuleFinding} (h : foundFor fabric sighting = some finding) :
    ∃ mtu mtu', firstMtu fabric sighting.near.port = some mtu ∧
      firstMtu fabric sighting.far.port = some mtu' ∧ mtu ≠ mtu' ∧
        finding.message = .mtuMismatch sighting.device (sighting.interface.getD "") mtu
          sighting.neighbor (sighting.neighborInterface.getD "") mtu' := by
  obtain ⟨mtu, mtu', hnear, hfar, hne⟩ := foundFor_isSome_iff.mp (h ▸ Option.isSome_some)
  refine ⟨mtu, mtu', hnear, hfar, hne, ?_⟩
  unfold foundFor at h
  rw [hnear, hfar] at h
  simp only [if_neg hne, Option.some.injEq] at h
  rw [← h]

lemma link_of_foundFor {finding : RuleFinding} (h : foundFor fabric sighting = some finding) :
    finding.message.link = some sighting.link := by
  obtain ⟨mtu, mtu', -, -, -, hmessage⟩ := of_foundFor h
  rw [hmessage]
  rfl

lemma compareMtu_eq_ok_iff {finding : Option RuleFinding} :
    compareMtu fabric sighting = .ok finding ↔
      finding = foundFor fabric sighting ∧ (Mismatch fabric sighting → Written sighting) := by
  have hnear := present_mtuOf fabric sighting.near
  have hfar := present_mtuOf fabric sighting.far
  unfold compareMtu foundFor Mismatch Written
  change present (mtuOf fabric sighting.device (sighting.interface.getD "")) = _ at hnear
  change present (mtuOf fabric sighting.neighbor (sighting.neighborInterface.getD "")) = _ at hfar
  simp only [hnear, hfar]
  have hpure : ∀ r : Option RuleFinding, (pure r : Except AuditError _) = .ok finding ↔
      finding = r := by
    intro r
    rw [eq_comm (a := finding)]
    exact Except.ok.injEq r finding |>.to_iff
  cases firstMtu fabric sighting.near.port with
  | none => simp [hpure]
  | some mtu =>
    cases firstMtu fabric sighting.far.port with
    | none => simp [hpure]
    | some mtu' =>
      by_cases h : mtu = mtu'
      · simp [h, hpure]
      · cases sighting.interface <;> cases sighting.neighborInterface <;>
          simp [h, hpure, throw, throwThe, MonadExceptOf.throw]

theorem compareLinks_eq_ok_iff {seen : List (LinkEnd × LinkEnd)} {sightings : List Sighting}
    {findings : List RuleFinding} : compareLinks fabric seen sightings = .ok findings ↔
      findings = (FirstSeen.firsts keyOf seen sightings).filterMap (foundFor fabric) ∧
        (∀ sighting ∈ sightings, Sortable sighting) ∧
          ∀ sighting ∈ FirstSeen.firsts keyOf seen sightings,
            Mismatch fabric sighting → Written sighting := by
  induction sightings generalizing seen findings with
  | nil =>
    rw [compareLinks, FirstSeen.firsts]
    constructor
    · intro h
      cases h
      exact ⟨rfl, nofun, nofun⟩
    · rintro ⟨rfl, -, -⟩
      rfl
  | cons sighting rest ih =>
    rw [compareLinks, FirstSeen.firsts, List.forall_mem_cons, Validation.bind_eq_ok_iff]
    have hkey : ∀ key, linkKey sighting.near sighting.far = .ok key ↔
        key = keyOf sighting ∧ Sortable sighting := by
      intro key
      rw [← linkKey_eq_ok_iff]
      constructor
      · intro h
        have hread : keyOf sighting = key := by
          unfold keyOf
          rw [h]
        exact ⟨hread.symm, hread.symm ▸ h⟩
      · rintro ⟨rfl, h⟩
        exact h
    simp only [hkey, and_assoc, exists_eq_left]
    by_cases hseen : keyOf sighting ∈ seen
    · rw [if_pos hseen, if_pos hseen, ih]
      tauto
    · have hcons : ∀ tail : List Sighting, (sighting :: tail).filterMap (foundFor fabric) =
          (foundFor fabric sighting).toList ++ tail.filterMap (foundFor fabric) := by
        intro tail
        rw [List.filterMap_cons]
        cases foundFor fabric sighting with
        | none => rfl
        | some finding => rfl
      have hpure : ∀ list : List RuleFinding, (pure list : Except AuditError _) = .ok findings ↔
          findings = list := by
        intro list
        rw [eq_comm (a := findings)]
        exact Except.ok.injEq list findings |>.to_iff
      rw [if_neg hseen, if_neg hseen, List.forall_mem_cons, hcons, Validation.bind_eq_ok_iff]
      simp only [compareMtu_eq_ok_iff, Validation.bind_eq_ok_iff, ih, and_assoc, exists_eq_left,
        hpure]
      tauto

variable {casefold : String → String}

def mtuLinks (report : Report) : List PhysicalLink :=
  report.findings.filterMap (fun finding => finding.finding.message.link)

def compared (casefold : String → String) (fabric : Fabric) : List Sighting :=
  FirstSeen.firsts keyOf [] (sightings casefold fabric)

def mtuFindings (casefold : String → String) (fabric : Fabric) : List RuleFinding :=
  (compared casefold fabric).filterMap (foundFor fabric)

def Comparable (casefold : String → String) (fabric : Fabric) : Prop :=
  (∀ sighting ∈ sightings casefold fabric, Sortable sighting) ∧
    ∀ sighting ∈ sightings casefold fabric, Mismatch fabric sighting → Written sighting

def resultOf (casefold : String → String) (fabric : Fabric) : RuleName → RuleResult
  | .duplicateRouterId => duplicateRouterId fabric
  | .mtuMismatchOnAdjacency => (mtuFindings casefold fabric,
      sortedNames ((splitOk fabric DeviceSections.lldp).2 ++
        (splitOk fabric DeviceSections.interfaces).2))
  | .isolatedButConfigured => isolatedButConfigured fabric
  | .hostnameInventoryDrift => hostnameInventoryDrift casefold fabric
  | .localAsMix => localAsMix fabric

def reportOf (casefold : String → String) (fabric : Fabric) : Report :=
  assembleReport fabric (auditRules.map (fun rule => (rule, resultOf casefold fabric rule)))

lemma written_of_spelling_eq {sighting sighting' : Sighting} (h : Written sighting)
    (hspelling : sighting.spelling = sighting'.spelling) : Written sighting' := by
  unfold Sighting.spelling at hspelling
  rw [Sym2.eq_iff] at hspelling
  unfold Written at h ⊢
  rcases hspelling with ⟨hnear, hfar⟩ | ⟨hnear, hfar⟩
  · have hinterface : sighting.interface = sighting'.interface := congrArg Prod.snd hnear
    have hother : sighting.neighborInterface = sighting'.neighborInterface :=
      congrArg Prod.snd hfar
    exact ⟨hinterface ▸ h.1, hother ▸ h.2⟩
  · have hinterface : sighting.interface = sighting'.neighborInterface := congrArg Prod.snd hnear
    have hother : sighting.neighborInterface = sighting'.interface := congrArg Prod.snd hfar
    exact ⟨hother ▸ h.2, hinterface ▸ h.1⟩

lemma exists_compared {sighting : Sighting} (h : sighting ∈ sightings casefold fabric) :
    ∃ first ∈ compared casefold fabric, keyOf first = keyOf sighting := by
  have hsome : ((sightings casefold fabric).find?
      (fun other => decide (keyOf other = keyOf sighting))).isSome := by
    rw [List.find?_isSome]
    exact ⟨sighting, h, decide_eq_true rfl⟩
  obtain ⟨first, hfirst⟩ := Option.isSome_iff_exists.mp hsome
  have hkey : keyOf first = keyOf sighting := by simpa using List.find?_some hfirst
  refine ⟨first, FirstSeen.mem_firsts_iff.mpr ⟨List.not_mem_nil, ?_⟩, hkey⟩
  rw [hkey]
  exact hfirst

lemma compareLinks_sightings_iff {findings : List RuleFinding} :
    compareLinks fabric [] (sightings casefold fabric) = .ok findings ↔
      findings = mtuFindings casefold fabric ∧ Comparable casefold fabric := by
  rw [compareLinks_eq_ok_iff]
  apply and_congr_right
  intro _
  apply and_congr_right
  intro _
  constructor
  · intro h sighting hsighting hmismatch
    obtain ⟨first, hfirst, hkey⟩ := exists_compared hsighting
    have hspelling := spelling_eq_of_keyOf_eq hkey
    have hmismatch' := hmismatch.of_link_eq (link_eq_of_spelling_eq hspelling).symm
    exact written_of_spelling_eq (h first hfirst hmismatch') hspelling
  · exact fun h sighting hsighting => h sighting (FirstSeen.mem_of_mem_firsts hsighting)

theorem runAudit_eq_ok_iff {report : Report} : runAudit casefold fabric = .ok report ↔
    report = reportOf casefold fabric ∧ Comparable casefold fabric := by
  have hrule : ∀ result, mtuMismatchOnAdjacency casefold fabric = .ok result ↔
      result = resultOf casefold fabric .mtuMismatchOnAdjacency ∧ Comparable casefold fabric := by
    intro result
    unfold mtuMismatchOnAdjacency
    rw [Validation.bind_eq_ok_iff]
    simp only [compareLinks_sightings_iff, and_assoc, exists_eq_left]
    rw [and_comm, eq_comm (a := result)]
    exact and_congr_left' (Except.ok.injEq _ result |>.to_iff)
  unfold runAudit auditRules
  simp only [List.mapM_cons, List.mapM_nil, runRule, pure_bind, bind_assoc]
  rw [Validation.bind_eq_ok_iff]
  simp only [hrule, and_assoc, exists_eq_left]
  rw [and_comm, eq_comm (a := report)]
  exact and_congr_left' (Except.ok.injEq _ report |>.to_iff)

lemma exists_rearranged (casefold : String → String) (fabric : Fabric)
    {P : String → List InterfaceRecord → Prop} (h : ∀ device records,
      (fabric.get device).bind DeviceSections.interfaces = some records →
        ∃ records', records.Perm records' ∧ P device records') :
    ∃ fabric', Rearranged fabric fabric' ∧
      sightings casefold fabric' = sightings casefold fabric ∧
        ∀ device records', (fabric'.get device).bind DeviceSections.interfaces = some records' →
          P device records' := by
  choose! order hperm horder using h
  let turn (device : String) (found : DeviceSections) : DeviceSections :=
    { found with interfaces := found.interfaces.map (order device) }
  let entries := fabric.entries.map (fun entry => (entry.1, turn entry.1 entry.2))
  have hkeys : entries.map Prod.fst = fabric.entries.map Prod.fst := by
    rw [List.map_map]
    rfl
  have hnamed : ∀ entry ∈ entries, entry.1 ≠ "" := by
    intro entry hentry
    obtain ⟨old, hold, rfl⟩ := List.mem_map.mp hentry
    exact fabric.named old hold
  let fabric' : Fabric := ⟨entries, hkeys ▸ fabric.nodup, hnamed⟩
  have hget : ∀ device, fabric'.get device = (fabric.get device).map (turn device) := by
    intro device
    cases hold : fabric.get device with
    | some found =>
      exact get_eq_some_iff.mpr (List.mem_map.mpr ⟨_, get_eq_some_iff.mp hold, rfl⟩)
    | none =>
      rw [Option.map_none, Option.eq_none_iff_forall_ne_some]
      intro found' hfound'
      obtain ⟨entry, hentry, heq⟩ := List.mem_map.mp (get_eq_some_iff.mp hfound')
      rw [Prod.mk.injEq] at heq
      have hsome := get_eq_some_iff.mpr (heq.1 ▸ hentry : (device, entry.2) ∈ fabric.entries)
      rw [hold] at hsome
      cases hsome
  have hinterfaces : ∀ device, (fabric'.get device).bind DeviceSections.interfaces =
      ((fabric.get device).bind DeviceSections.interfaces).map (order device) := by
    intro device
    rw [hget]
    cases fabric.get device with
    | none => rfl
    | some found => rfl
  refine ⟨fabric', ?_, ?_, ?_⟩
  · intro device
    rw [hget]
    cases hold : fabric.get device with
    | none => exact .none
    | some found =>
      have hsame := SameSections.refl found
      refine .some ⟨hsame.lldp, ?_, hsame.bgp, hsame.hostname⟩
      change Option.Rel List.Perm found.interfaces (found.interfaces.map (order device))
      cases hrows : found.interfaces with
      | none => exact .none
      | some records =>
        apply Option.Rel.some
        apply hperm
        rw [hold, Option.bind_some, hrows]
  · have hhas : hasInterfaces fabric' = hasInterfaces fabric := by
      funext device
      unfold hasInterfaces
      rw [hinterfaces, Option.isSome_map]
    have hmap : hostnameMap casefold fabric'.facts = hostnameMap casefold fabric.facts := by
      have hentries : fabric'.facts.entries = fabric.facts.entries := by
        change (fabric.entries.map _).map _ = fabric.entries.map _
        rw [List.map_map]
        rfl
      unfold hostnameMap
      rw [hentries]
    have hlldp : (splitOk fabric' DeviceSections.lldp).1 =
        (splitOk fabric DeviceSections.lldp).1 := by
      change (fabric.entries.map _).filterMap _ = fabric.entries.filterMap _
      rw [List.filterMap_map]
      rfl
    unfold sightings sightingOf
    rw [hhas, hmap, hlldp]
  · intro device records' hrecords'
    rw [hinterfaces] at hrecords'
    obtain ⟨records, hrecords, rfl⟩ := Option.map_eq_some_iff.mp hrecords'
    exact horder device records hrecords

end Audit

end NetTools
