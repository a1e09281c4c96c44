import NetTools.Audit.Rules
import NetTools.Library.Sorting
import NetTools.Topology.Closure

/-!
# Orders of a fabric

What the rules say of a fabric in another order: every rule that looks at one device at a time, or
groups devices by a value, says the same.
-/

namespace NetTools

namespace Audit

structure SameBgp (bgp bgp' : BgpSection) : Prop where
  routerId : bgp.routerId = bgp'.routerId
  localAs : bgp.localAs = bgp'.localAs
  sessionStates : bgp.sessionStates.Perm bgp'.sessionStates

structure SameSections (found found' : DeviceSections) : Prop where
  lldp : Option.Rel List.Perm found.lldp found'.lldp
  interfaces : Option.Rel List.Perm found.interfaces found'.interfaces
  bgp : Option.Rel SameBgp found.bgp found'.bgp
  hostname : found.hostname = found'.hostname

def Rearranged (fabric fabric' : Fabric) : Prop :=
  ∀ device, Option.Rel SameSections (fabric.get device) (fabric'.get device)

variable {casefold : String → String} {fabric fabric' : Fabric}

lemma get_eq_some_iff {device : String} {found : DeviceSections} :
    fabric.get device = some found ↔ (device, found) ∈ fabric.entries :=
  LastRow.lookup_eq_some_iff_mem fabric.nodup

lemma rel_refl {α : Type} {R : α → α → Prop} (hrefl : ∀ a, R a a) (a : Option α) :
    Option.Rel R a a := by
  cases a with
  | none => exact .none
  | some a => exact .some (hrefl a)

lemma SameSections.refl (found : DeviceSections) : SameSections found found :=
  ⟨rel_refl List.Perm.refl _, rel_refl List.Perm.refl _,
    rel_refl (fun bgp => ⟨rfl, rfl, List.Perm.refl bgp.sessionStates⟩) _, rfl⟩

lemma Rearranged.refl (fabric : Fabric) : Rearranged fabric fabric :=
  fun device => rel_refl SameSections.refl (fabric.get device)

lemma rel_trans {α : Type} {R : α → α → Prop} (htrans : ∀ a b c, R a b → R b c → R a c)
    {a b c : Option α} (h : Option.Rel R a b) (h' : Option.Rel R b c) : Option.Rel R a c := by
  cases h with
  | none =>
    cases h'
    exact .none
  | some hab =>
    cases h' with
    | some hbc => exact .some (htrans _ _ _ hab hbc)

lemma SameSections.trans {first second third : DeviceSections} (h : SameSections first second)
    (h' : SameSections second third) : SameSections first third :=
  ⟨rel_trans (fun _ _ _ hab hbc => hab.trans hbc) h.lldp h'.lldp,
    rel_trans (fun _ _ _ hab hbc => hab.trans hbc) h.interfaces h'.interfaces,
    rel_trans (fun _ _ _ hab hbc => ⟨hab.routerId.trans hbc.routerId,
      hab.localAs.trans hbc.localAs, hab.sessionStates.trans hbc.sessionStates⟩) h.bgp h'.bgp,
    h.hostname.trans h'.hostname⟩

lemma Rearranged.trans {first second third : Fabric} (h : Rearranged first second)
    (h' : Rearranged second third) : Rearranged first third :=
  fun device => rel_trans (fun _ _ _ hab hbc => hab.trans hbc) (h device) (h' device)

lemma Rearranged.perm_map {W : Type} (h : Rearranged fabric fabric')
    (view : String × DeviceSections → W) (hview : ∀ device found found',
      SameSections found found' → view (device, found) = view (device, found')) :
    (fabric.entries.map view).Perm (fabric'.entries.map view) := by
  apply LastRow.perm_map_of_lookup fabric.nodup fabric'.nodup
  intro device
  have hdevice := h device
  unfold Fabric.get at hdevice
  generalize fabric.entries.lookup device = found at hdevice
  generalize fabric'.entries.lookup device = found' at hdevice
  cases hdevice with
  | none => rfl
  | some hsame => rw [Option.map_some, Option.map_some, hview device _ _ hsame]

lemma Rearranged.perm_filterMap {W : Type} (h : Rearranged fabric fabric')
    (view : String × DeviceSections → Option W) (hview : ∀ device found found',
      SameSections found found' → view (device, found) = view (device, found')) :
    (fabric.entries.filterMap view).Perm (fabric'.entries.filterMap view) := by
  have hid : ∀ l : List (String × DeviceSections),
      l.filterMap view = (l.map view).filterMap id := by
    intro l
    rw [List.filterMap_map]
    rfl
  rw [hid, hid]
  exact (h.perm_map view hview).filterMap id

lemma Rearranged.perm_filter (h : Rearranged fabric fabric')
    (keep : String × DeviceSections → Bool) (hkeep : ∀ device found found',
      SameSections found found' → keep (device, found) = keep (device, found')) :
    ((fabric.entries.filter keep).map Prod.fst).Perm
      ((fabric'.entries.filter keep).map Prod.fst) := by
  have hview : ∀ l : List (String × DeviceSections), (l.filter keep).map Prod.fst =
      l.filterMap (fun entry => if keep entry then some entry.1 else none) := by
    intro l
    induction l with
    | nil => rfl
    | cons entry l ih =>
      rw [List.filter_cons, List.filterMap_cons]
      cases keep entry with
      | false => exact ih
      | true => exact congrArg (entry.1 :: ·) ih
  rw [hview, hview]
  apply h.perm_filterMap
  intro device found found' hsame
  rw [hkeep device found found' hsame]

lemma isNone_of_rel {α : Type} {R : α → α → Prop} {a b : Option α} (h : Option.Rel R a b) :
    a.isNone = b.isNone := by
  cases h with
  | none => rfl
  | some _ => rfl

lemma sortedList_eq {names names' : List String} (h : names.Perm names') :
    sortedList names = sortedList names' :=
  Sorting.insertionSort_key_eq_of_perm (fun name => name) h (fun _ _ _ _ heq => heq)

lemma Rearranged.unevaluated {σ : Type} {R : σ → σ → Prop} (h : Rearranged fabric fabric')
    (part : DeviceSections → Option σ) (hpart : ∀ found found',
      SameSections found found' → Option.Rel R (part found) (part found')) :
    (splitOk fabric part).2.Perm (splitOk fabric' part).2 := by
  apply h.perm_filter (fun entry => (part entry.2).isNone)
  intro device found found' hsame
  exact isNone_of_rel (hpart found found' hsame)

lemma ownersBy_eq (field : BgpSection → Option String) :
    ownersBy field (splitOk fabric DeviceSections.bgp).1 =
      Gathering.gather (fabric.entries.filterMap (fun entry =>
        entry.2.bgp.bind (fun bgp => (present (field bgp)).map (fun key => (key, entry.1))))) := by
  unfold ownersBy splitOk
  rw [List.filterMap_filterMap]
  congr 1
  congr 1
  funext entry
  rw [Option.bind_map]
  rfl

lemma Rearranged.owners (h : Rearranged fabric fabric') (field : BgpSection → Option String)
    (hfield : ∀ bgp bgp', SameBgp bgp bgp' → field bgp = field bgp') :
    (fabric.entries.filterMap (fun entry => entry.2.bgp.bind (fun bgp =>
        (present (field bgp)).map (fun key => (key, entry.1))))).Perm
      (fabric'.entries.filterMap (fun entry => entry.2.bgp.bind (fun bgp =>
        (present (field bgp)).map (fun key => (key, entry.1))))) := by
  apply h.perm_filterMap
  intro device found found' hsame
  have hbgp := hsame.bgp
  simp only
  generalize found.bgp = bgp at hbgp
  generalize found'.bgp = bgp' at hbgp
  cases hbgp with
  | none => rfl
  | some hsame => rw [Option.bind_some, Option.bind_some, hfield _ _ hsame]

lemma Rearranged.ownersBy (h : Rearranged fabric fabric') (field : BgpSection → Option String)
    (hfield : ∀ bgp bgp', SameBgp bgp bgp' → field bgp = field bgp') :
    ((ownersBy field (splitOk fabric DeviceSections.bgp).1).map
        (fun owner => (owner.1, sortedList owner.2))).Perm
      ((ownersBy field (splitOk fabric' DeviceSections.bgp).1).map
        (fun owner => (owner.1, sortedList owner.2))) := by
  rw [ownersBy_eq, ownersBy_eq]
  apply Gathering.gather_perm (h.owners field hfield)
  intro key names names' hperm
  rw [sortedList_eq hperm]

lemma length_sortedList (names : List String) : (sortedList names).length = names.length :=
  List.length_insertionSort _ _

lemma Rearranged.duplicateRouterId (h : Rearranged fabric fabric') :
    (duplicateRouterId fabric).1.Perm (duplicateRouterId fabric').1 := by
  have howners := h.ownersBy BgpSection.routerId (fun _ _ hsame => hsame.routerId)
  have hview : ∀ F : Fabric, (Audit.duplicateRouterId F).1 =
      (((Audit.ownersBy BgpSection.routerId (splitOk F DeviceSections.bgp).1).map
        (fun owner => (owner.1, sortedList owner.2))).filter (fun owner => 1 < owner.2.length)).map
          (fun owner =>
            { message := .duplicateRouterId owner.1 owner.2
              devices := owner.2
              evidence := "bgp:meta.router_id" }) := by
    intro F
    unfold Audit.duplicateRouterId
    simp only
    rw [List.filter_map, List.map_map]
    congr 1
    apply List.filter_congr
    intro owner _
    simp only [Function.comp_apply, length_sortedList]
  rw [hview, hview]
  exact (howners.filter _).map _

lemma Rearranged.localAsMix (h : Rearranged fabric fabric') :
    (localAsMix fabric).1 = (localAsMix fabric').1 := by
  have howners := h.ownersBy BgpSection.localAs (fun _ _ hsame => hsame.localAs)
  have hsorted : ∀ F : Fabric,
      ((Audit.ownersBy BgpSection.localAs (splitOk F DeviceSections.bgp).1).insertionSort
        (fun owner other => owner.1 ≤ other.1)).map
          (fun owner => (owner.1, sortedList owner.2)) =
      ((Audit.ownersBy BgpSection.localAs (splitOk F DeviceSections.bgp).1).map
        (fun owner => (owner.1, sortedList owner.2))).insertionSort
          (fun owner other => owner.1 ≤ other.1) :=
    fun F => List.map_insertionSort _ _ _ _ (fun owner _ other _ => Iff.rfl)
  have hkeys : ∀ x ∈ (Audit.ownersBy BgpSection.localAs (splitOk fabric DeviceSections.bgp).1).map
      (fun owner => (owner.1, sortedList owner.2)),
      ∀ y ∈ (Audit.ownersBy BgpSection.localAs (splitOk fabric DeviceSections.bgp).1).map
        (fun owner => (owner.1, sortedList owner.2)), x.1 = y.1 → x = y := by
    intro x hx y hy hkey
    obtain ⟨owner, howner, rfl⟩ := List.mem_map.mp hx
    obtain ⟨owner', howner', rfl⟩ := List.mem_map.mp hy
    rw [List.inj_on_of_nodup_map (Gathering.nodup_gather _) howner howner' hkey]
  have hnames : ∀ F : Fabric, ((Audit.ownersBy BgpSection.localAs
      (splitOk F DeviceSections.bgp).1).flatMap Prod.snd).Perm
        ((F.entries.filterMap (fun entry => entry.2.bgp.bind (fun bgp =>
          (present bgp.localAs).map (fun key => (key, entry.1))))).map Prod.snd) := by
    intro F
    rw [ownersBy_eq]
    exact Gathering.flatMap_gather_perm _
  have hlength := howners.length_eq
  rw [List.length_map, List.length_map] at hlength
  have hdevices := ((hnames fabric).trans ((h.owners BgpSection.localAs
    (fun _ _ hsame => hsame.localAs)).map Prod.snd)).trans (hnames fabric').symm
  unfold Audit.localAsMix
  simp only
  rw [hlength, hsorted, hsorted, Sorting.insertionSort_key_eq_of_perm Prod.fst howners hkeys,
    sortedList_eq hdevices]

lemma Rearranged.isolatedButConfigured (h : Rearranged fabric fabric') :
    (isolatedButConfigured fabric).1.Perm (isolatedButConfigured fabric').1 := by
  unfold Audit.isolatedButConfigured splitOk
  simp only
  rw [List.filterMap_filterMap, List.filterMap_filterMap]
  apply h.perm_filterMap
  intro device found found' hsame
  have hbgp := hsame.bgp
  simp only
  generalize found.bgp = bgp at hbgp
  generalize found'.bgp = bgp' at hbgp
  cases hbgp with
  | none => rfl
  | some hsame =>
    simp only [Option.map_some, Option.bind_some, hsame.routerId, hsame.sessionStates.length_eq,
      hsame.sessionStates.any_eq]

lemma Rearranged.hostnameInventoryDrift (h : Rearranged fabric fabric') :
    (hostnameInventoryDrift casefold fabric).1.Perm
      (hostnameInventoryDrift casefold fabric').1 := by
  unfold Audit.hostnameInventoryDrift
  apply h.perm_filterMap
  intro device found found' hsame
  simp only [hsame.hostname]

lemma index_raiseSeverity (severity : Severity) (finding : Finding) :
    (raiseSeverity severity finding).index = max severity.index finding.severity.index := by
  unfold raiseSeverity
  split
  · omega
  · omega

theorem foldl_raiseSeverity (findings : List Finding) (severity : Severity) :
    (∀ finding ∈ findings,
        finding.severity.index ≤ (findings.foldl raiseSeverity severity).index) ∧
      severity.index ≤ (findings.foldl raiseSeverity severity).index ∧
      (findings.foldl raiseSeverity severity = severity ∨
        ∃ finding ∈ findings, findings.foldl raiseSeverity severity = finding.severity) := by
  induction findings generalizing severity with
  | nil => exact ⟨fun _ h => absurd h List.not_mem_nil, le_refl _, .inl rfl⟩
  | cons finding findings ih =>
    obtain ⟨hall, hstart, hsome⟩ := ih (raiseSeverity severity finding)
    rw [index_raiseSeverity] at hstart
    rw [List.foldl_cons]
    refine ⟨?_, by omega, ?_⟩
    · intro other hother
      rcases List.mem_cons.mp hother with rfl | hrest
      · omega
      · exact hall other hrest
    · rcases hsome with hsame | ⟨other, hother, hsame⟩
      · rw [hsame]
        unfold raiseSeverity
        split
        · exact .inr ⟨finding, List.mem_cons_self, rfl⟩
        · exact .inl rfl
      · exact .inr ⟨other, List.mem_cons_of_mem _ hother, hsame⟩

end Audit

end NetTools
