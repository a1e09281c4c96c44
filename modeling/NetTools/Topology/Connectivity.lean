import NetTools.Topology.Closure
import NetTools.Topology.GraphQueries

/-!
# Connectivity

What the queries say of a collection is the connectivity of its adjacencies in state `Up`, in any
order of the collection, exactly when no choice of a first record makes a difference.
-/

namespace NetTools

/-- What a list may give for the first report of a kind, in some order of it. -/
def MayComeFirst (reports : List LinkReport) (kind : LinkReport → Bool) :
    Option LinkReport → Prop
  | none => ∀ report ∈ reports, kind report = false
  | some report => report ∈ reports ∧ kind report = true

section

variable (casefold : String → String) (platform : String → Value) (evidence : Collection)

/-- An IS-IS record of the device, in state `Up`, names the neighbour. -/
def ReportsUp (device neighbor : String) : Prop :=
  ∃ record ∈ evidence.isisOf device, (isisReport record).state.isUp = true ∧
    Names casefold evidence record.systemId neighbor

/-- The pairs of devices of which an end reports an adjacency in state `Up`. -/
def upLinks : SimpleGraph String := SimpleGraph.fromRel (ReportsUp casefold evidence)

def AllParsed : Prop :=
  ∀ device found, evidence.get device = some found → ∀ intent, sectionParsed found intent = true

/-- The queries answer by the adjacencies in state `Up` and by nothing else, whatever the order of
the collection, and with a section missing they rule nothing out. -/
structure GraphIsConnectivity : Prop where
  builds : AllParsed evidence → evidence.entries ≠ [] → ∀ observedAt validity, 0 ≤ validity →
    ∃ snapshot, buildGraphSnapshot casefold platform evidence observedAt validity = .ok snapshot
  exact : AllParsed evidence → ∀ evidence', Reordered evidence evidence' →
    ∀ observedAt validity snapshot,
      buildGraphSnapshot casefold platform evidence' observedAt validity = .ok snapshot →
        ∀ source destination,
          (destination ∈ (connectivityImpact (.ofSnapshot snapshot) source).connected ↔
            (evidence.get source).isSome ∧
              (upLinks casefold evidence).Reachable source destination) ∧
          ((pathBetween snapshot source destination).status = .found ↔
            destination ∈ (connectivityImpact (.ofSnapshot snapshot) source).connected) ∧
          ((pathBetween snapshot source destination).status = .found →
            ∃ walk : (upLinks casefold evidence).Walk source destination, walk.IsPath ∧
              walk.length = (upLinks casefold evidence).dist source destination ∧
                (pathBetween snapshot source destination).path = walk.support)
  unchanged : AllParsed evidence → ∀ evidence', Reordered evidence evidence' →
    buildGraph casefold platform evidence' = buildGraph casefold platform evidence ∧
      ∀ observedAt validity source destination,
        (buildGraphSnapshot casefold platform evidence' observedAt validity).map
            (fun snapshot => connectivityImpact (.ofSnapshot snapshot) source) =
          (buildGraphSnapshot casefold platform evidence observedAt validity).map
            (fun snapshot => connectivityImpact (.ofSnapshot snapshot) source) ∧
        (buildGraphSnapshot casefold platform evidence' observedAt validity).map
            (fun snapshot => pathBetween snapshot source destination) =
          (buildGraphSnapshot casefold platform evidence observedAt validity).map
            (fun snapshot => pathBetween snapshot source destination)
  cautious : ¬AllParsed evidence → ∀ observedAt validity snapshot,
    buildGraphSnapshot casefold platform evidence observedAt validity = .ok snapshot →
      ∀ source destination,
        (connectivityImpact (.ofSnapshot snapshot) source).disconnected = [] ∧
          (pathBetween snapshot source destination).status ≠ .notFound

/-- What a device may report first of a neighbour, in some order of its records. -/
def EndReport (protocol : GraphProtocol) (device neighbor : String) :
    Option LinkReport → Prop :=
  MayComeFirst (reportsOf evidence protocol device)
    (fun report => resolveDevice casefold (hostnameMap casefold evidence) report.neighbor ==
      some neighbor)

def mergedState (left right : Option LinkReport) : Value :=
  ((left.map LinkReport.state).getD .none).pyOr ((right.map LinkReport.state).getD .none)

/-- Whatever the order of the devices and of the records: what one end may report of the other is
on one interface, what the two ends may report merges to one state, and that state is `Up` as soon
as one record of the pair is. -/
structure OneAdjacency : Prop where
  interface : ∀ first second, Reordered evidence first → Reordered evidence second →
    ∀ protocol device neighbor report report', device ≠ neighbor →
      EndReport casefold first protocol device neighbor report →
        EndReport casefold second protocol device neighbor report' →
          report.map LinkReport.interface = report'.map LinkReport.interface
  state : ∀ first second, Reordered evidence first → Reordered evidence second →
    ∀ protocol left right e e' f f', left < right →
      EndReport casefold first protocol left right e →
        EndReport casefold first protocol right left f →
          EndReport casefold second protocol left right e' →
            EndReport casefold second protocol right left f' →
              mergedState e f = mergedState e' f'
  up : ∀ evidence', Reordered evidence evidence' → ∀ left right e f, left < right →
    EndReport casefold evidence' .isis left right e →
      EndReport casefold evidence' .isis right left f →
        (upLinks casefold evidence).Adj left right → (mergedState e f).isUp = true

end

variable {casefold : String → String} {platform : String → Value} {evidence evidence' : Collection}

/-! ### Orders -/

lemma rel_perm_trans {α : Type} {first second third : Option (List α)}
    (h : Option.Rel List.Perm first second) (h' : Option.Rel List.Perm second third) :
    Option.Rel List.Perm first third := by
  cases h with
  | none =>
    cases h'
    exact .none
  | some hperm =>
    cases h' with
    | some hperm' => exact .some (hperm.trans hperm')

lemma rel_perm_refl {α : Type} (l : Option (List α)) : Option.Rel List.Perm l l := by
  cases l with
  | none => exact .none
  | some l => exact .some (List.Perm.refl l)

lemma Reordered.trans {first second third : Collection} (h : Reordered first second)
    (h' : Reordered second third) : Reordered first third := by
  intro device
  have hfirst := h device
  have hsecond := h' device
  generalize first.get device = found at hfirst
  generalize second.get device = found' at hfirst hsecond
  generalize third.get device = found'' at hsecond
  cases hfirst with
  | none =>
    cases hsecond
    exact .none
  | some hsame =>
    cases hsecond with
    | some hsame' =>
      exact .some ⟨rel_perm_trans hsame.isis hsame'.isis, rel_perm_trans hsame.lldp hsame'.lldp,
        hsame.hostname.trans hsame'.hostname⟩

lemma Reordered.exists_get (h : Reordered evidence evidence') {device : String}
    {found : DeviceEvidence} (hget : evidence.get device = some found) :
    ∃ found', evidence'.get device = some found' ∧ SameRecords found found' := by
  have hdevice := h device
  rw [hget] at hdevice
  generalize evidence'.get device = found' at hdevice
  cases hdevice with
  | some hsame => exact ⟨_, rfl, hsame⟩

lemma isSome_of_rel_perm {α : Type} {l l' : Option (List α)} (h : Option.Rel List.Perm l l') :
    l.isSome = l'.isSome := by
  cases h with
  | none => rfl
  | some _ => rfl

lemma SameRecords.sectionParsed {found found' : DeviceEvidence} (h : SameRecords found found') :
    sectionParsed found = sectionParsed found' := by
  funext intent
  cases intent with
  | lldp => exact isSome_of_rel_perm h.lldp
  | isis => exact isSome_of_rel_perm h.isis

lemma SameRecords.configuredHostname {found found' : DeviceEvidence}
    (h : SameRecords found found') : configuredHostname found = configuredHostname found' := by
  unfold NetTools.configuredHostname
  rw [h.hostname]

def entryView (entry : String × DeviceEvidence) :
    String × (GraphProtocol → Bool) × Option String :=
  (entry.1, sectionParsed entry.2, configuredHostname entry.2)

lemma entryView_subset (h : Reordered evidence evidence') :
    evidence.entries.map entryView ⊆ evidence'.entries.map entryView := by
  intro view hview
  obtain ⟨⟨device, found⟩, hentry, rfl⟩ := List.mem_map.mp hview
  obtain ⟨found', hget, hsame⟩ := h.exists_get (get_eq_some_iff.mpr hentry)
  refine List.mem_map.mpr ⟨(device, found'), get_eq_some_iff.mp hget, ?_⟩
  unfold entryView
  rw [hsame.sectionParsed, hsame.configuredHostname]

lemma nodup_entryView (evidence : Collection) : (evidence.entries.map entryView).Nodup := by
  apply List.Nodup.of_map Prod.fst
  rw [List.map_map]
  exact evidence.nodup

lemma rel_perm_symm {α : Type} {l l' : Option (List α)} (h : Option.Rel List.Perm l l') :
    Option.Rel List.Perm l' l := by
  cases h with
  | none => exact .none
  | some hperm => exact .some hperm.symm

lemma SameRecords.symm {found found' : DeviceEvidence} (h : SameRecords found found') :
    SameRecords found' found :=
  ⟨rel_perm_symm h.isis, rel_perm_symm h.lldp, h.hostname.symm⟩

lemma Reordered.symm (h : Reordered evidence evidence') : Reordered evidence' evidence := by
  intro device
  have hdevice := h device
  generalize evidence.get device = found at hdevice
  generalize evidence'.get device = found' at hdevice
  cases hdevice with
  | none => exact .none
  | some hsame => exact .some hsame.symm

lemma map_entryView_sortedEntries (evidence : Collection) :
    (sortedEntries evidence).map entryView =
      (evidence.entries.map entryView).insertionSort (fun view other => view.1 ≤ other.1) := by
  unfold sortedEntries
  exact List.map_insertionSort _ _ _ _ (fun entry _ other _ => Iff.rfl)

lemma Reordered.sortedEntries (h : Reordered evidence evidence') :
    (sortedEntries evidence).map entryView = (sortedEntries evidence').map entryView := by
  rw [map_entryView_sortedEntries, map_entryView_sortedEntries]
  apply Sorting.insertionSort_key_eq_of_perm Prod.fst
  · rw [List.perm_ext_iff_of_nodup (nodup_entryView _) (nodup_entryView _)]
    exact fun view => ⟨fun hview => entryView_subset h hview,
      fun hview => entryView_subset h.symm hview⟩
  · intro view hview other hother hkey
    obtain ⟨entry, hentry, rfl⟩ := List.mem_map.mp hview
    obtain ⟨entry', hentry', rfl⟩ := List.mem_map.mp hother
    have hsame : entry = entry' := List.inj_on_of_nodup_map evidence.nodup hentry hentry' hkey
    rw [hsame]

lemma Reordered.graphNodes (h : Reordered evidence evidence') :
    graphNodes evidence platform = graphNodes evidence' platform := by
  have hviews : ∀ E : Collection, NetTools.graphNodes E platform =
      ((NetTools.sortedEntries E).map entryView).map
        (fun view => ⟨view.1, platform view.1, view.2.2⟩) := by
    intro E
    rw [List.map_map]
    rfl
  rw [hviews, hviews, h.sortedEntries]

lemma Reordered.evidenceSections (h : Reordered evidence evidence') (parsed : Bool) :
    evidenceSections evidence parsed = evidenceSections evidence' parsed := by
  have hviews : ∀ E : Collection, NetTools.evidenceSections E parsed =
      ((NetTools.sortedEntries E).map entryView).flatMap (fun view =>
        (snapshotIntents.filter (fun intent => view.2.1 intent == parsed)).map
          (fun intent => (view.1, intent))) := by
    intro E
    rw [List.flatMap_map]
    rfl
  rw [hviews, hviews, h.sortedEntries]

lemma Reordered.allParsed (h : Reordered evidence evidence') (hparsed : AllParsed evidence) :
    AllParsed evidence' := by
  intro device found' hget' intent
  obtain ⟨found, hget, hsame⟩ := h.symm.exists_get hget'
  rw [hsame.sectionParsed]
  exact hparsed device found hget intent

lemma SameLinks.upLinks (h : SameLinks evidence evidence') :
    upLinks casefold evidence = upLinks casefold evidence' := by
  unfold NetTools.upLinks ReportsUp
  simp only [h.isis, names_congr h]

def firstReport (casefold : String → String) (evidence : Collection) (protocol : GraphProtocol)
    (device neighbor : String) : Option LinkReport :=
  ownReport casefold evidence (hostnameMap casefold evidence) protocol device neighbor

def edgeOf (casefold : String → String) (evidence : Collection) (protocol : GraphProtocol)
    (left right : String) : GraphEdge :=
  pairEdge casefold evidence (hostnameMap casefold evidence) protocol (left, right)

lemma ownInterfaceAndState_eq (protocol : GraphProtocol) (device neighbor : String) :
    ownInterfaceAndState casefold evidence (hostnameMap casefold evidence) protocol device
        neighbor =
      ((firstReport casefold evidence protocol device neighbor).map LinkReport.interface,
        ((firstReport casefold evidence protocol device neighbor).map LinkReport.state).getD
          .none) := by
  unfold ownInterfaceAndState firstReport
  split
  · rename_i report hreport
    rw [hreport]
    rfl
  · rename_i hnone
    rw [hnone]
    rfl

lemma edgeOf_eq (protocol : GraphProtocol) (left right : String) :
    edgeOf casefold evidence protocol left right =
      { protocol := protocol
        deviceA := left
        deviceB := right
        interfaceA := (firstReport casefold evidence protocol left right).map LinkReport.interface
        interfaceB := (firstReport casefold evidence protocol right left).map LinkReport.interface
        state := mergedState (firstReport casefold evidence protocol left right)
          (firstReport casefold evidence protocol right left)
        observedBy :=
          (if ((firstReport casefold evidence protocol left right).map
            LinkReport.interface).isSome then [left] else []) ++
          (if ((firstReport casefold evidence protocol right left).map
            LinkReport.interface).isSome then [right] else []) } := by
  unfold edgeOf pairEdge
  rw [ownInterfaceAndState_eq, ownInterfaceAndState_eq]
  rfl

lemma linked_iff_edgeOf (protocol : GraphProtocol) (left right : String) :
    Linked casefold evidence (hostnameMap casefold evidence) protocol left right ↔
      (edgeOf casefold evidence protocol left right).observedBy ≠ [] := by
  rw [edgeOf_eq]
  unfold Linked
  change (firstReport casefold evidence protocol left right).isSome ∨
    (firstReport casefold evidence protocol right left).isSome ↔ _
  cases firstReport casefold evidence protocol left right <;>
    cases firstReport casefold evidence protocol right left <;> simp

lemma protocol_name_injective : Function.Injective GraphProtocol.name := by
  intro protocol other h
  cases protocol <;> cases other <;> first | rfl | exact absurd h (by decide)

lemma protocolEdges_perm (h : ∀ protocol left right, left < right →
      edgeOf casefold evidence protocol left right =
        edgeOf casefold evidence' protocol left right) (protocol : GraphProtocol) :
    (protocolEdges casefold evidence (hostnameMap casefold evidence) protocol).Perm
      (protocolEdges casefold evidence' (hostnameMap casefold evidence') protocol) := by
  have hnodup : ∀ E, (reportedPairs casefold E (hostnameMap casefold E) protocol).Nodup :=
    fun E => List.nodup_dedup _
  have hpairs : (reportedPairs casefold evidence (hostnameMap casefold evidence) protocol).Perm
      (reportedPairs casefold evidence' (hostnameMap casefold evidence') protocol) := by
    rw [List.perm_ext_iff_of_nodup (hnodup evidence) (hnodup evidence')]
    intro pair
    rw [mem_reportedPairs_iff_linked, mem_reportedPairs_iff_linked]
    apply and_congr_right
    intro hlt
    rw [linked_iff_edgeOf, linked_iff_edgeOf, h protocol _ _ hlt]
  unfold protocolEdges
  have hedges : ∀ pair ∈ reportedPairs casefold evidence (hostnameMap casefold evidence) protocol,
      pairEdge casefold evidence (hostnameMap casefold evidence) protocol pair =
        pairEdge casefold evidence' (hostnameMap casefold evidence') protocol pair :=
    fun pair hpair => h protocol _ _ (mem_reportedPairs_iff_linked.mp hpair).1
  rw [List.map_congr_left hedges]
  exact hpairs.map _

theorem graphEdges_eq_iff : graphEdges casefold evidence = graphEdges casefold evidence' ↔
    ∀ protocol left right, left < right → edgeOf casefold evidence protocol left right =
      edgeOf casefold evidence' protocol left right := by
  constructor
  · intro h protocol left right hlt
    have hmem : ∀ E E' : Collection, graphEdges casefold E = graphEdges casefold E' →
        Linked casefold E (hostnameMap casefold E) protocol left right →
          edgeOf casefold E protocol left right = edgeOf casefold E' protocol left right := by
      intro E E' hE hlinked
      have hedge : edgeOf casefold E protocol left right ∈ graphEdges casefold E :=
        mem_graphEdges_iff.mpr ⟨protocol, left, right, hlt, hlinked, rfl⟩
      rw [hE] at hedge
      obtain ⟨protocol', left', right', -, -, heq⟩ := mem_graphEdges_iff.mp hedge
      have hprotocol : protocol = protocol' := congrArg GraphEdge.protocol heq
      have hleft : left = left' := congrArg GraphEdge.deviceA heq
      have hright : right = right' := congrArg GraphEdge.deviceB heq
      rw [heq, ← hprotocol, ← hleft, ← hright]
      rfl
    by_cases hlinked : Linked casefold evidence (hostnameMap casefold evidence) protocol left right
    · exact hmem evidence evidence' h hlinked
    · by_cases hlinked' :
          Linked casefold evidence' (hostnameMap casefold evidence') protocol left right
      · exact (hmem evidence' evidence h.symm hlinked').symm
      · have hnone : ∀ E : Collection,
            ¬Linked casefold E (hostnameMap casefold E) protocol left right →
              firstReport casefold E protocol left right = none ∧
                firstReport casefold E protocol right left = none := by
          intro E hnot
          unfold Linked at hnot
          rw [not_or, Option.not_isSome_iff_eq_none, Option.not_isSome_iff_eq_none] at hnot
          exact hnot
        rw [edgeOf_eq, edgeOf_eq, (hnone _ hlinked).1, (hnone _ hlinked).2, (hnone _ hlinked').1,
          (hnone _ hlinked').2]
  · intro h
    unfold graphEdges
    apply Sorting.insertionSort_key_eq_of_perm GraphEdge.key
    · exact (protocolEdges_perm h .lldp).append (protocolEdges_perm h .isis)
    · intro edge hedge other hother hkey
      rw [← List.mem_insertionSort (fun edge other => edge.key ≤ other.key)] at hedge hother
      obtain ⟨protocol, left, right, -, -, rfl⟩ := mem_graphEdges_iff.mp hedge
      obtain ⟨protocol', left', right', -, -, rfl⟩ := mem_graphEdges_iff.mp hother
      rw [pairEdge_key, pairEdge_key, toLex_inj, Prod.mk.injEq, toLex_inj] at hkey
      rw [protocol_name_injective hkey.1, hkey.2]

lemma mayComeFirst_find? (reports : List LinkReport) (kind : LinkReport → Bool) :
    MayComeFirst reports kind (reports.find? kind) := by
  cases hfind : reports.find? kind with
  | none =>
    intro report hreport
    exact Bool.eq_false_of_not_eq_true (List.find?_eq_none.mp hfind report hreport)
  | some report => exact ⟨List.mem_of_find?_eq_some hfind, List.find?_some hfind⟩

lemma endReport_firstReport (protocol : GraphProtocol) (device neighbor : String) :
    EndReport casefold evidence protocol device neighbor
      (firstReport casefold evidence protocol device neighbor) := mayComeFirst_find? _ _

lemma exists_reordered (evidence : Collection) {P : String → DeviceEvidence → Prop}
    (h : ∀ entry ∈ evidence.entries, ∃ found', SameRecords entry.2 found' ∧ P entry.1 found') :
    ∃ evidence', Reordered evidence evidence' ∧
      hostnameMap casefold evidence' = hostnameMap casefold evidence ∧
        ∀ device found', evidence'.get device = some found' → P device found' := by
  have : Inhabited DeviceEvidence := ⟨⟨none, none, none⟩⟩
  choose! order hsame horder using h
  let entries := evidence.entries.map (fun entry => (entry.1, order entry))
  have hkeys : entries.map Prod.fst = evidence.entries.map Prod.fst := by
    rw [List.map_map]
    rfl
  have hnamed : ∀ entry ∈ entries, entry.1 ≠ "" := by
    intro entry hentry
    obtain ⟨old, hold, rfl⟩ := List.mem_map.mp hentry
    exact evidence.named old hold
  let evidence' : Collection := ⟨entries, hkeys ▸ evidence.nodup, hnamed⟩
  refine ⟨evidence', ?_, ?_, ?_⟩
  · intro device
    cases hget : evidence.get device with
    | some found =>
      have hentry := get_eq_some_iff.mp hget
      have hget' : evidence'.get device = some (order (device, found)) :=
        get_eq_some_iff.mpr (List.mem_map.mpr ⟨(device, found), hentry, rfl⟩)
      rw [hget']
      exact .some (hsame _ hentry)
    | none =>
      have hget' : evidence'.get device = none := by
        rw [Option.eq_none_iff_forall_ne_some]
        intro found' hfound'
        obtain ⟨old, hold, heq⟩ := List.mem_map.mp (get_eq_some_iff.mp hfound')
        rw [Prod.mk.injEq] at heq
        have hsome := get_eq_some_iff.mpr (heq.1 ▸ hold : (device, old.2) ∈ evidence.entries)
        rw [hget] at hsome
        cases hsome
      rw [hget']
      exact .none
  · unfold hostnameMap
    change entries.foldl (addNames casefold) [] = _
    rw [List.foldl_map]
    apply List.foldl_ext
    intro mapping entry hentry
    unfold addNames
    rw [(hsame entry hentry).configuredHostname]
  · intro device found' hget'
    obtain ⟨old, hold, heq⟩ := List.mem_map.mp (get_eq_some_iff.mp hget')
    rw [Prod.mk.injEq] at heq
    obtain ⟨rfl, rfl⟩ := heq
    exact horder old hold

lemma exists_first {found : DeviceEvidence} {protocol : GraphProtocol} {names : LinkReport → Bool}
    {report : Option LinkReport}
    (hreport : MayComeFirst (cleanRecords found protocol) names report) :
    ∃ found', SameRecords found found' ∧ (cleanRecords found' protocol).find? names = report := by
  cases report with
  | none =>
    refine ⟨found, ⟨rel_perm_refl _, rel_perm_refl _, rfl⟩, ?_⟩
    rw [List.find?_eq_none]
    intro other hother
    rw [hreport other hother]
    exact Bool.false_ne_true
  | some report =>
    obtain ⟨hmem, hnames⟩ := hreport
    cases protocol with
    | lldp =>
      obtain ⟨record, hrecord, rfl⟩ := List.mem_map.mp hmem
      obtain ⟨records, hperm, hfind⟩ :=
        @ListSearch.exists_perm_find _ (names ∘ lldpReport) _ _ hrecord hnames
      refine ⟨{ found with lldp := some records }, ⟨rel_perm_refl _, ?_, rfl⟩, ?_⟩
      · unfold lldpRecords at hrecord hperm
        generalize found.lldp = lldp at hrecord hperm
        cases lldp with
        | none => cases hrecord
        | some _ => exact .some hperm
      · change (records.map lldpReport).find? names = _
        rw [List.find?_map, hfind]
        rfl
    | isis =>
      obtain ⟨record, hrecord, rfl⟩ := List.mem_map.mp hmem
      obtain ⟨records, hperm, hfind⟩ :=
        @ListSearch.exists_perm_find _ (names ∘ isisReport) _ _ hrecord hnames
      refine ⟨{ found with isis := some records }, ⟨?_, rel_perm_refl _, rfl⟩, ?_⟩
      · generalize found.isis = isis at hrecord hperm
        cases isis with
        | none => cases hrecord
        | some _ => exact .some hperm
      · change (records.map isisReport).find? names = _
        rw [List.find?_map, hfind]
        rfl

lemma reportsOf_eq {device : String} {found : DeviceEvidence}
    (hget : evidence.get device = some found) (protocol : GraphProtocol) :
    reportsOf evidence protocol device = cleanRecords found protocol := by
  unfold reportsOf
  rw [hget]
  rfl

lemma reportsOf_eq_nil {device : String} (hget : evidence.get device = none)
    (protocol : GraphProtocol) : reportsOf evidence protocol device = [] := by
  unfold reportsOf
  rw [hget]
  rfl

theorem exists_firstReports {protocol : GraphProtocol} {left right : String}
    {e f : Option LinkReport} (hne : left ≠ right)
    (he : EndReport casefold evidence protocol left right e)
    (hf : EndReport casefold evidence protocol right left f) :
    ∃ evidence', Reordered evidence evidence' ∧
      firstReport casefold evidence' protocol left right = e ∧
        firstReport casefold evidence' protocol right left = f := by
  let names : String → LinkReport → Bool := fun neighbor report =>
    resolveDevice casefold (hostnameMap casefold evidence) report.neighbor == some neighbor
  have hchoose : ∀ entry ∈ evidence.entries, ∃ found', SameRecords entry.2 found' ∧
      ((entry.1 = left → (cleanRecords found' protocol).find? (names right) = e) ∧
        (entry.1 = right → (cleanRecords found' protocol).find? (names left) = f)) := by
    rintro ⟨device, found⟩ hentry
    have hget := get_eq_some_iff.mpr hentry
    by_cases hleft : device = left
    · subst hleft
      unfold EndReport at he
      rw [reportsOf_eq hget] at he
      obtain ⟨found', hsame, hfind⟩ := exists_first he
      exact ⟨found', hsame, fun _ => hfind, fun h => absurd h hne⟩
    · by_cases hright : device = right
      · subst hright
        unfold EndReport at hf
        rw [reportsOf_eq hget] at hf
        obtain ⟨found', hsame, hfind⟩ := exists_first hf
        exact ⟨found', hsame, fun h => absurd h hleft, fun _ => hfind⟩
      · exact ⟨found, ⟨rel_perm_refl _, rel_perm_refl _, rfl⟩, fun h => absurd h hleft,
          fun h => absurd h hright⟩
  obtain ⟨evidence', hreordered, hmap, hfirst⟩ := @exists_reordered casefold evidence
    (fun device found' =>
      (device = left → (cleanRecords found' protocol).find? (names right) = e) ∧
        (device = right → (cleanRecords found' protocol).find? (names left) = f)) hchoose
  have hread : ∀ device neighbor report, EndReport casefold evidence protocol device neighbor
      report → (∀ found', evidence'.get device = some found' →
        (cleanRecords found' protocol).find? (names neighbor) = report) →
          firstReport casefold evidence' protocol device neighbor = report := by
    intro device neighbor report hreport hfound
    unfold firstReport ownReport reportsOf
    rw [hmap]
    cases hget : evidence'.get device with
    | some found' => exact hfound found' hget
    | none =>
      have hgone : evidence.get device = none := by
        rw [← Option.not_isSome_iff_eq_none, hreordered.sameLinks.isSome, hget]
        exact Bool.false_ne_true
      unfold EndReport at hreport
      rw [reportsOf_eq_nil hgone] at hreport
      cases report with
      | none => rfl
      | some report => cases hreport.1
  refine ⟨evidence', hreordered, hread left right e he ?_, hread right left f hf ?_⟩
  · exact fun found' hget => (hfirst left found' hget).1 rfl
  · exact fun found' hget => (hfirst right found' hget).2 rfl

lemma upGraph_buildGraph_adj_iff {left right : String} (hlt : left < right) :
    (buildGraph casefold platform evidence).upGraph.Adj left right ↔
      (mergedState (firstReport casefold evidence .isis left right)
        (firstReport casefold evidence .isis right left)).isUp = true := by
  have hstate : (edgeOf casefold evidence .isis left right).state =
      mergedState (firstReport casefold evidence .isis left right)
        (firstReport casefold evidence .isis right left) := by
    rw [edgeOf_eq]
  unfold Graph.upGraph
  rw [SimpleGraph.fromRel_adj]
  constructor
  · rintro ⟨-, ⟨edge, hedge, hup, ha, hb⟩ | ⟨edge, hedge, hup, ha, hb⟩⟩
    · obtain ⟨protocol, left', right', -, -, rfl⟩ := mem_graphEdges_iff.mp hedge
      have hleft : left' = left := ha
      have hright : right' = right := hb
      subst hleft hright
      have hup' : (protocol == .isis && (edgeOf casefold evidence protocol left' right').state.isUp)
          = true := hup
      rw [Bool.and_eq_true, beq_iff_eq] at hup'
      obtain ⟨rfl, hup'⟩ := hup'
      rw [hstate] at hup'
      exact hup'
    · obtain ⟨protocol, left', right', hlt', -, rfl⟩ := mem_graphEdges_iff.mp hedge
      have hleft : left' = right := ha
      have hright : right' = left := hb
      subst hleft hright
      exact absurd hlt' (lt_asymm hlt)
  · intro hup
    refine ⟨ne_of_lt hlt, .inl ⟨edgeOf casefold evidence .isis left right, ?_, ?_, rfl, rfl⟩⟩
    · refine mem_graphEdges_iff.mpr ⟨.isis, left, right, hlt, ?_, rfl⟩
      by_contra hnot
      unfold Linked at hnot
      rw [not_or, Option.not_isSome_iff_eq_none, Option.not_isSome_iff_eq_none] at hnot
      unfold firstReport at hup
      rw [hnot.1, hnot.2] at hup
      cases hup
    · change ((GraphProtocol.isis == .isis) &&
        (edgeOf casefold evidence .isis left right).state.isUp) = true
      rw [hstate, hup]
      rfl

lemma isUp_pyOr {left right : Value} (h : (left.pyOr right).isUp = true) :
    left.isUp = true ∨ right.isUp = true := by
  unfold Value.pyOr at h
  split at h
  · exact .inl h
  · exact .inr h

lemma reportsUp_of_endReport {device neighbor : String} {report : Option LinkReport}
    (h : EndReport casefold evidence .isis device neighbor report)
    (hup : ((report.map LinkReport.state).getD .none).isUp = true) :
    ReportsUp casefold evidence device neighbor := by
  cases report with
  | none => cases hup
  | some report =>
    obtain ⟨hmem, hresolve⟩ := h
    cases hget : evidence.get device with
    | none =>
      rw [reportsOf_eq_nil hget] at hmem
      cases hmem
    | some found =>
      rw [reportsOf_eq hget] at hmem
      obtain ⟨record, hrecord, rfl⟩ := List.mem_map.mp hmem
      refine ⟨record, ?_, hup, names_of_resolveDevice (beq_iff_eq.mp hresolve)⟩
      unfold Collection.isisOf
      rw [hget]
      exact hrecord

lemma upLinks_adj_of_mergedState {left right : String} (hne : left ≠ right)
    {e f : Option LinkReport} (he : EndReport casefold evidence .isis left right e)
    (hf : EndReport casefold evidence .isis right left f)
    (hup : (mergedState e f).isUp = true) : (upLinks casefold evidence).Adj left right := by
  unfold upLinks
  rw [SimpleGraph.fromRel_adj]
  refine ⟨hne, ?_⟩
  rcases isUp_pyOr hup with hleft | hright
  · exact .inl (reportsUp_of_endReport he hleft)
  · exact .inr (reportsUp_of_endReport hf hright)

lemma le_addSeconds (t : Datetime) {seconds : Int} (h : 0 ≤ seconds) :
    t.le (t.addSeconds seconds) = true := by
  have hround : timedelta seconds = seconds * 1000000 := by
    unfold timedelta roundHalfEven
    have hcast : ((seconds : ℚ) * 1000000) = ((seconds * 1000000 : Int) : ℚ) := by push_cast; rfl
    rw [hcast, Int.floor_intCast]
    simp
  unfold Datetime.le Datetime.addSeconds
  simp only [hround, decide_eq_true_eq]
  omega

lemma evidenceSections_eq_nil_iff (parsed : Bool) : evidenceSections evidence parsed = [] ↔
    ∀ entry ∈ evidence.entries, ∀ intent, sectionParsed entry.2 intent ≠ parsed := by
  unfold evidenceSections
  rw [List.flatMap_eq_nil_iff]
  have hmem : ∀ entry, entry ∈ sortedEntries evidence ↔ entry ∈ evidence.entries := by
    intro entry
    exact List.mem_insertionSort _
  constructor
  · intro h entry hentry intent hparsed
    have hnil := h entry ((hmem entry).mpr hentry)
    rw [List.map_eq_nil_iff, List.filter_eq_nil_iff] at hnil
    have hintent : intent ∈ snapshotIntents := by
      cases intent with
      | lldp => exact List.mem_cons_of_mem _ List.mem_cons_self
      | isis => exact List.mem_cons_self
    exact hnil intent hintent (beq_iff_eq.mpr hparsed)
  · intro h entry hentry
    rw [List.map_eq_nil_iff, List.filter_eq_nil_iff]
    intro intent _ hparsed
    exact h entry ((hmem entry).mp hentry) intent (beq_iff_eq.mp hparsed)

lemma snapshotLimitations_eq_nil_iff : snapshotLimitations evidence = [] ↔ AllParsed evidence := by
  unfold snapshotLimitations
  rw [List.map_eq_nil_iff, evidenceSections_eq_nil_iff]
  constructor
  · intro h device found hget intent
    exact Bool.eq_true_of_not_eq_false (h _ (get_eq_some_iff.mp hget) intent)
  · intro h entry hentry intent
    rw [h entry.1 entry.2 (get_eq_some_iff.mpr hentry) intent]
    exact Bool.true_eq_false_eq_False

lemma exists_snapshot (hparsed : AllParsed evidence) (hentries : evidence.entries ≠ [])
    (observedAt : Datetime) {validity : Int} (hvalidity : 0 ≤ validity) :
    ∃ snapshot, buildGraphSnapshot casefold platform evidence observedAt validity =
      .ok snapshot := by
  have hkeys : sourceKeys evidence ≠ [] := by
    unfold sourceKeys
    rw [ne_eq, List.map_eq_nil_iff, evidenceSections_eq_nil_iff]
    intro h
    obtain ⟨entry, hentry⟩ := List.exists_mem_of_ne_nil _ hentries
    exact h entry hentry .isis (hparsed entry.1 entry.2 (get_eq_some_iff.mpr hentry) .isis)
  unfold buildGraphSnapshot GraphSnapshot.make
  rw [if_neg (not_lt.mpr hvalidity)]
  simp only [dif_pos (le_addSeconds observedAt hvalidity), dif_pos hkeys]
  exact ⟨_, rfl⟩

lemma of_buildGraphSnapshot {observedAt : Datetime} {validity : Int} {snapshot : GraphSnapshot}
    (h : buildGraphSnapshot casefold platform evidence observedAt validity = .ok snapshot) :
    snapshot.graph = buildGraph casefold platform evidence ∧
      (snapshot.coverage = .complete ↔ AllParsed evidence) := by
  unfold buildGraphSnapshot GraphSnapshot.make at h
  rw [← snapshotLimitations_eq_nil_iff]
  split at h
  · cases h
  · simp only at h
    split at h
    · split at h
      · split at h
        · cases h
          refine ⟨rfl, ?_⟩
          by_cases hlimits : snapshotLimitations evidence = []
          · simp [hlimits]
          · simp [hlimits]
        · cases h
      · cases h
    · cases h

lemma isSome_of_reportsUp {device neighbor : String}
    (h : ReportsUp casefold evidence device neighbor) :
    (evidence.get device).isSome ∧ (evidence.get neighbor).isSome := by
  obtain ⟨record, hrecord, -, hnames⟩ := h
  refine ⟨?_, hnames.1⟩
  unfold Collection.isisOf at hrecord
  cases hget : evidence.get device with
  | none =>
    rw [hget] at hrecord
    cases hrecord
  | some found => rfl

lemma isSome_of_upLinks_adj {left right : String}
    (h : (upLinks casefold evidence).Adj left right) : (evidence.get left).isSome := by
  rcases h.2 with hleft | hright
  · exact (isSome_of_reportsUp hleft).1
  · exact (isSome_of_reportsUp hright).2

lemma upGraph_eq_upLinks (h : OneAdjacency casefold evidence)
    (hreordered : Reordered evidence evidence') :
    (buildGraph casefold platform evidence').upGraph = upLinks casefold evidence := by
  have hlt : ∀ left right, left < right →
      ((buildGraph casefold platform evidence').upGraph.Adj left right ↔
        (upLinks casefold evidence).Adj left right) := by
    intro left right hlt
    rw [upGraph_buildGraph_adj_iff hlt]
    constructor
    · intro hup
      rw [hreordered.sameLinks.upLinks]
      exact upLinks_adj_of_mergedState (ne_of_lt hlt) (endReport_firstReport _ _ _)
        (endReport_firstReport _ _ _) hup
    · exact h.up evidence' hreordered left right _ _ hlt (endReport_firstReport _ _ _)
        (endReport_firstReport _ _ _)
  ext left right
  rcases lt_trichotomy left right with hless | rfl | hmore
  · exact hlt left right hless
  · exact ⟨fun hadj => absurd rfl hadj.ne, fun hadj => absurd rfl hadj.ne⟩
  · rw [SimpleGraph.adj_comm, hlt right left hmore, SimpleGraph.adj_comm]

lemma edgeOf_eq_of_oneAdjacency (h : OneAdjacency casefold evidence)
    (hreordered : Reordered evidence evidence') (protocol : GraphProtocol) {left right : String}
    (hlt : left < right) : edgeOf casefold evidence' protocol left right =
      edgeOf casefold evidence protocol left right := by
  have hself := Reordered.refl evidence
  rw [edgeOf_eq, edgeOf_eq,
    h.interface evidence' evidence hreordered hself protocol left right _ _ (ne_of_lt hlt)
      (endReport_firstReport _ _ _) (endReport_firstReport _ _ _),
    h.interface evidence' evidence hreordered hself protocol right left _ _ (ne_of_lt hlt).symm
      (endReport_firstReport _ _ _) (endReport_firstReport _ _ _),
    h.state evidence' evidence hreordered hself protocol left right _ _ _ _ hlt
      (endReport_firstReport _ _ _) (endReport_firstReport _ _ _)
      (endReport_firstReport _ _ _) (endReport_firstReport _ _ _)]

lemma buildGraph_eq_iff (hreordered : Reordered evidence evidence') :
    buildGraph casefold platform evidence' = buildGraph casefold platform evidence ↔
      ∀ protocol left right, left < right → edgeOf casefold evidence' protocol left right =
        edgeOf casefold evidence protocol left right := by
  rw [← graphEdges_eq_iff]
  constructor
  · exact fun h => congrArg Graph.edges h
  · intro h
    unfold buildGraph
    simp only [hreordered.graphNodes, h]

lemma buildGraphSnapshot_congr (hreordered : Reordered evidence evidence')
    (h : buildGraph casefold platform evidence' = buildGraph casefold platform evidence)
    (observedAt : Datetime) (validity : Int) :
    buildGraphSnapshot casefold platform evidence' observedAt validity =
      buildGraphSnapshot casefold platform evidence observedAt validity := by
  unfold buildGraphSnapshot sourceKeys snapshotLimitations
  rw [h, hreordered.evidenceSections, hreordered.evidenceSections]

/-- The queries answer by the connectivity of the adjacencies in state `Up`, in any order of the
collection, exactly when a section is missing or no choice of a first record makes a difference. -/
theorem graphIsConnectivity_iff (casefold : String → String) (platform : String → Value)
    (evidence : Collection) : GraphIsConnectivity casefold platform evidence ↔
      (AllParsed evidence → OneAdjacency casefold evidence) := by
  constructor
  · intro h hparsed
    have hedges : ∀ E, Reordered evidence E → ∀ protocol left right, left < right →
        edgeOf casefold E protocol left right = edgeOf casefold evidence protocol left right :=
      fun E hE => (buildGraph_eq_iff hE).mp (h.unchanged hparsed E hE).1
    have hfirst : ∀ first second, Reordered evidence first → Reordered evidence second →
        ∀ protocol left right, left < right → edgeOf casefold first protocol left right =
          edgeOf casefold second protocol left right := by
      intro first second hE hE' protocol left right hlt
      rw [hedges first hE protocol left right hlt, hedges second hE' protocol left right hlt]
    refine ⟨?_, ?_, ?_⟩
    · intro first second hE hE' protocol device neighbor report report' hne hreport hreport'
      obtain ⟨E, hmoved, hleft, -⟩ :=
        exists_firstReports hne hreport (endReport_firstReport protocol neighbor device)
      obtain ⟨E', hmoved', hleft', -⟩ :=
        exists_firstReports hne hreport' (endReport_firstReport protocol neighbor device)
      have hsame := hfirst E E' (hE.trans hmoved) (hE'.trans hmoved') protocol
      rw [← hleft, ← hleft']
      rcases lt_or_gt_of_ne hne with hlt | hgt
      · have hedge := hsame device neighbor hlt
        rw [edgeOf_eq, edgeOf_eq] at hedge
        exact congrArg GraphEdge.interfaceA hedge
      · have hedge := hsame neighbor device hgt
        rw [edgeOf_eq, edgeOf_eq] at hedge
        exact congrArg GraphEdge.interfaceB hedge
    · intro first second hE hE' protocol left right e e' f f' hlt he hf he' hf'
      obtain ⟨E, hmoved, hleft, hright⟩ := exists_firstReports (ne_of_lt hlt) he hf
      obtain ⟨E', hmoved', hleft', hright'⟩ := exists_firstReports (ne_of_lt hlt) he' hf'
      have hedge := hfirst E E' (hE.trans hmoved) (hE'.trans hmoved') protocol left right hlt
      rw [edgeOf_eq, edgeOf_eq] at hedge
      have hstate := congrArg GraphEdge.state hedge
      simp only [hleft, hright, hleft', hright'] at hstate
      exact hstate
    · intro first hE left right e f hlt he hf hadj
      obtain ⟨E, hmoved, hleft, hright⟩ := exists_firstReports (ne_of_lt hlt) he hf
      have hreordered := hE.trans hmoved
      have hsome := isSome_of_upLinks_adj hadj
      have hentries : E.entries ≠ [] := by
        obtain ⟨found, hget⟩ :=
          Option.isSome_iff_exists.mp ((hreordered.sameLinks.isSome left).mp hsome)
        exact List.ne_nil_of_mem (get_eq_some_iff.mp hget)
      obtain ⟨snapshot, hsnapshot⟩ := @exists_snapshot casefold platform E
        (hreordered.allParsed hparsed) hentries ⟨0, 0⟩ 0 (le_refl 0)
      obtain ⟨hconnected, hfound, hwalk⟩ :=
        h.exact hparsed E hreordered _ _ snapshot hsnapshot left right
      have hstatus := hfound.mpr (hconnected.mpr ⟨hsome, hadj.reachable⟩)
      obtain ⟨walk, -, hlength, hpath⟩ := hwalk hstatus
      obtain ⟨taken, -, -, htaken⟩ := (pathBetween_found snapshot left right).2 hstatus
      have hone : taken.length = 1 := by
        have hsupport := congrArg List.length (htaken.symm.trans hpath)
        rw [SimpleGraph.Walk.length_support, SimpleGraph.Walk.length_support, hlength,
          SimpleGraph.dist_eq_one_iff_adj.mpr hadj] at hsupport
        omega
      have hedge := SimpleGraph.Walk.adj_of_length_eq_one hone
      rw [(of_buildGraphSnapshot hsnapshot).1, upGraph_buildGraph_adj_iff hlt, hleft,
        hright] at hedge
      exact hedge
  · intro h
    refine ⟨?_, ?_, ?_, ?_⟩
    · exact fun hparsed hentries observedAt validity hvalidity =>
        exists_snapshot hparsed hentries observedAt hvalidity
    · intro hparsed evidence' hreordered observedAt validity snapshot hsnapshot source destination
      have hgraph := (of_buildGraphSnapshot hsnapshot).1
      have hup : snapshot.graph.upGraph = upLinks casefold evidence := by
        rw [hgraph]
        exact upGraph_eq_upLinks (h hparsed) hreordered
      have hnames : source ∈ snapshot.graph.names ↔ (evidence.get source).isSome := by
        rw [hgraph, hreordered.sameLinks.isSome]
        exact mem_names_iff platform source
      have hconnected := mem_connected_iff (.ofSnapshot snapshot) source destination
      have hpath := pathBetween_found snapshot source destination
      change _ ↔ source ∈ snapshot.graph.names ∧ snapshot.graph.upGraph.Reachable _ _ at hconnected
      rw [hup, hnames] at hconnected hpath
      exact ⟨hconnected, hpath.1.trans hconnected.symm, hpath.2⟩
    · intro hparsed evidence' hreordered
      have hgraph : buildGraph casefold platform evidence' =
          buildGraph casefold platform evidence :=
        (buildGraph_eq_iff hreordered).mpr
          (fun protocol left right hlt => edgeOf_eq_of_oneAdjacency (h hparsed) hreordered _ hlt)
      refine ⟨hgraph, ?_⟩
      intro observedAt validity source destination
      rw [buildGraphSnapshot_congr hreordered hgraph]
      exact ⟨rfl, rfl⟩
    · intro hnot observedAt validity snapshot hsnapshot source destination
      have hcoverage : snapshot.coverage ≠ .complete :=
        fun hcomplete => hnot ((of_buildGraphSnapshot hsnapshot).2.mp hcomplete)
      exact ⟨disconnected_eq_nil hcoverage, pathBetween_ne_notFound hcoverage source destination⟩

def twoLinks (neighbor : String) : DeviceEvidence where
  isis := some [⟨neighbor, "Gi0/0/0/0", [("state", .str "Init")]⟩,
    ⟨neighbor, "Gi0/0/0/1", [("state", .str "Up")]⟩]
  lldp := some []

def parallelPair : Collection where
  entries := [("PE1", twoLinks "P1"), ("P1", twoLinks "PE1")]
  nodup := by decide
  named := by decide

/-- Two devices whose second link is up, and of which the path query says that no path leads from
one to the other. -/
theorem not_graphIsConnectivity_parallelPair :
    ¬ GraphIsConnectivity asciiFold (fun _ => .none) parallelPair := by
  intro h
  have hparsed : AllParsed parallelPair := by
    intro device found hget intent
    have hall : ∀ entry ∈ parallelPair.entries, entry.2.isis.isSome = true ∧
        entry.2.lldp.isSome = true := by decide
    have hentry := hall _ (get_eq_some_iff.mp hget)
    cases intent with
    | lldp => exact hentry.2
    | isis => exact hentry.1
  obtain ⟨snapshot, hsnapshot⟩ := @exists_snapshot asciiFold (fun _ => .none) parallelPair hparsed
    (List.cons_ne_nil _ _) ⟨0, 0⟩ 0 (le_refl 0)
  have hexact := h.exact hparsed parallelPair (Reordered.refl _) _ _ snapshot hsnapshot "PE1" "P1"
  have hadj : (upLinks asciiFold parallelPair).Adj "PE1" "P1" := by
    unfold upLinks
    rw [SimpleGraph.fromRel_adj]
    refine ⟨by decide, .inl ⟨⟨"P1", "Gi0/0/0/1", [("state", .str "Up")]⟩, ?_, by decide, ?_⟩⟩
    · exact List.mem_cons_of_mem _ List.mem_cons_self
    · exact ⟨by decide, .inl (by decide)⟩
  have hfound := hexact.2.1.mpr (hexact.1.mpr ⟨by decide, hadj.reachable⟩)
  have hread : (buildGraphSnapshot asciiFold (fun _ => .none) parallelPair ⟨0, 0⟩ 0).toOption.map
      (fun snapshot => (pathBetween snapshot "PE1" "P1").status) = some .notFound := by
    decide +kernel
  rw [hsnapshot] at hread
  have hstatus : (pathBetween snapshot "PE1" "P1").status = .notFound := Option.some.inj hread
  rw [hfound] at hstatus
  cases hstatus

end NetTools
