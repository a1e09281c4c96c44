import NetTools.Library.Hops
import NetTools.Topology.Links

/-!
# The search by rounds

Each round of `evidence_neighborhood` follows exactly the hops that the code takes out of the
devices of its frontier.
-/

namespace NetTools

lemma sameInterface_congr {i j : String} (h : canonical i = canonical j) (left : String) :
    sameInterface left i = sameInterface left j := by
  rw [sameInterface, sameInterface, h]

lemma mem_addInterface {interfaces : List String} {interface i : String}
    (h : i ∈ addInterface interfaces interface) :
    i ∈ interfaces ∨ i = interface ∧ interface ≠ "" := by
  unfold addInterface at h
  split at h
  · rename_i hnew
    rw [Bool.and_eq_true, bne_iff_ne] at hnew
    rcases List.mem_append.mp h with hold | hlast
    · exact .inl hold
    · exact .inr ⟨List.mem_singleton.mp hlast, hnew.1⟩
  · exact .inl h

lemma subset_addInterface {interfaces : List String} {interface i : String} (h : i ∈ interfaces) :
    i ∈ addInterface interfaces interface := by
  unfold addInterface
  split
  · exact List.mem_append_left _ h
  · exact h

lemma exists_addInterface (interfaces : List String) {interface : String}
    (h : interface ≠ "") : ∃ i ∈ addInterface interfaces interface,
      canonical interface = canonical i := by
  by_cases hseen : interfaces.any (sameInterface interface) = true
  · obtain ⟨i, hi, hsame⟩ := List.any_eq_true.mp hseen
    exact ⟨i, subset_addInterface hi, (sameInterface_iff.mp hsame).2⟩
  · refine ⟨interface, ?_, rfl⟩
    rw [Bool.not_eq_true] at hseen
    rw [addInterface, hseen, if_pos (by simpa using h)]
    exact List.mem_append_right _ (List.mem_singleton_self _)

lemma mem_foldl_addInterface {names interfaces : List String} {i : String}
    (h : i ∈ names.foldl addInterface interfaces) : i ∈ interfaces ∨ i ∈ names ∧ i ≠ "" := by
  induction names generalizing interfaces with
  | nil => exact .inl h
  | cons name names ih =>
    rcases ih h with hstep | hrest
    · rcases mem_addInterface hstep with hold | ⟨rfl, hne⟩
      · exact .inl hold
      · exact .inr ⟨List.mem_cons_self, hne⟩
    · exact .inr ⟨List.mem_cons_of_mem _ hrest.1, hrest.2⟩

lemma subset_foldl_addInterface (names : List String) {interfaces : List String} {i : String}
    (h : i ∈ interfaces) : i ∈ names.foldl addInterface interfaces := by
  induction names generalizing interfaces with
  | nil => exact h
  | cons name names ih => exact ih (subset_addInterface h)

lemma exists_foldl_addInterface {names : List String} (interfaces : List String) {name : String}
    (h : name ∈ names) (hne : name ≠ "") :
    ∃ i ∈ names.foldl addInterface interfaces, canonical name = canonical i := by
  induction names generalizing interfaces with
  | nil => cases h
  | cons first names ih =>
    rcases List.mem_cons.mp h with rfl | hrest
    · obtain ⟨i, hi, hsame⟩ := exists_addInterface interfaces hne
      exact ⟨i, subset_foldl_addInterface names hi, hsame⟩
    · exact ih (addInterface interfaces first) hrest

def sessionScope (deviceWide : Bool) (subject : String) : HopScope :=
  if deviceWide then .wholeDevice else .interface subject

lemma exists_mem_scope_iff {evidence : Collection} {device : String} {found : DeviceEvidence}
    (hget : evidence.get device = some found) {deviceWide : Bool} {subject : String}
    {interfaces : List String} {records : List IsisRecord}
    (hsession : sessionInterfaces found deviceWide subject = some (interfaces, records))
    {P : String → Prop} (hP : ∀ i j, canonical i = canonical j → P i → P j) :
    (∃ i ∈ widenScopeInterfaces found deviceWide subject interfaces, P i) ↔
      ∃ i, Uses evidence device (sessionScope deviceWide subject) i ∧ P i := by
  have hlldp : evidence.lldpOf device = lldpRecords found := by
    rw [Collection.lldpOf, hget]
    rfl
  unfold widenScopeInterfaces sessionScope
  cases deviceWide
  · rw [if_neg Bool.false_ne_true, if_neg Bool.false_ne_true]
    by_cases hempty : subject = ""
    · rw [if_pos hempty]
      constructor
      · rintro ⟨i, hi, -⟩
        cases hi
      · rintro ⟨i, ⟨hne, rfl⟩, -⟩
        exact absurd hempty hne
    · rw [if_neg hempty]
      constructor
      · rintro ⟨i, hi, hp⟩
        rw [List.mem_singleton] at hi
        exact ⟨i, ⟨hi ▸ hempty, hi⟩, hp⟩
      · rintro ⟨i, ⟨-, hi⟩, hp⟩
        exact ⟨i, List.mem_singleton.mpr hi, hp⟩
  · rw [if_pos rfl, if_pos rfl]
    obtain ⟨isis, hisis, hread⟩ := Option.map_eq_some_iff.mp hsession
    rw [if_pos rfl, Prod.mk.injEq] at hread
    have hrecords : evidence.isisOf device = isis := by
      rw [Collection.isisOf, hget, Option.bind_some, hisis]
      rfl
    unfold Uses
    rw [hrecords, hlldp]
    constructor
    · rintro ⟨i, hi, hp⟩
      refine ⟨i, ?_, hp⟩
      rcases mem_foldl_addInterface hi with hold | ⟨hname, hne⟩
      · rw [← hread.1] at hold
        rcases mem_foldl_addInterface hold with hnone | ⟨hname, hne⟩
        · cases hnone
        · exact ⟨hne, .inl (List.mem_map.mp hname)⟩
      · exact ⟨hne, .inr (List.mem_map.mp hname)⟩
    · rintro ⟨i, ⟨hne, ⟨record, hrecord, rfl⟩ | ⟨record, hrecord, rfl⟩⟩, hp⟩
      · obtain ⟨j, hj, hsame⟩ := exists_foldl_addInterface [] (List.mem_map_of_mem hrecord) hne
        rw [hread.1] at hj
        exact ⟨j, subset_foldl_addInterface _ hj, hP _ j hsame hp⟩
      · obtain ⟨j, hj, hsame⟩ := exists_foldl_addInterface interfaces
          (List.mem_map_of_mem (f := LldpRecord.localInterface) hrecord) hne
        exact ⟨j, hj, hP _ j hsame hp⟩

variable {casefold : String → String} {evidence : Collection}

lemma firstNeighbors_congr {i j : String} (h : canonical i = canonical j) (found : DeviceEvidence)
    (mapping : List (String × String)) :
    firstNeighbors casefold found mapping i = firstNeighbors casefold found mapping j := by
  unfold firstNeighbors
  simp only [sameInterface_congr h]

lemma noticed_congr {i j : String} (h : canonical i = canonical j) {device neighbor : String}
    (hi : Noticed casefold evidence device i neighbor) :
    Noticed casefold evidence device j neighbor := by
  unfold Noticed at hi ⊢
  simp only [sameInterface_congr h, firstNeighbors_congr h] at hi
  exact hi

lemma alarmed_congr {i j : String} (h : canonical i = canonical j) {device : String}
    (hi : Alarmed casefold evidence device i) : Alarmed casefold evidence device j := by
  unfold Alarmed at hi ⊢
  simp only [sameInterface_congr h, firstNeighbors_congr h] at hi
  exact hi

lemma resolveDevice_ne_empty {name device : String}
    (h : resolveDevice casefold (hostnameMap casefold evidence) name = some device) :
    device ≠ "" := ne_empty_of_get (names_of_resolveDevice h).1

lemma firstNeighbors_ne_empty {found : DeviceEvidence} {interface neighbor : String}
    (h : (firstNeighbors casefold found (hostnameMap casefold evidence) interface).1 =
        some neighbor ∨
      (firstNeighbors casefold found (hostnameMap casefold evidence) interface).2 =
        some neighbor) : neighbor ≠ "" := by
  rcases h with h | h
  · obtain ⟨record, -, hresolve⟩ := Option.bind_eq_some_iff.mp h
    exact resolveDevice_ne_empty hresolve
  · obtain ⟨record, -, hresolve⟩ := Option.bind_eq_some_iff.mp h
    exact resolveDevice_ne_empty hresolve

lemma mem_relevantDisagreements {device : String} {scope : List String}
    {entries : List LldpDisagreement} {entry : LldpDisagreement} :
    entry ∈ relevantDisagreements device scope entries ↔ entry ∈ entries ∧
      entry.device = device ∧ ∃ i ∈ scope, sameInterface entry.localInterface i = true := by
  rw [relevantDisagreements, List.mem_filter, Bool.and_eq_true, beq_iff_eq, List.any_eq_true]

lemma mem_widenedNeighbors {device : String} {found : DeviceEvidence}
    (hget : evidence.get device = some found) (scope : List String) (neighbor : String) :
    neighbor ∈ (widenedNeighbors casefold found (hostnameMap casefold evidence) device scope
      (findLldpDisagreements casefold evidence)).1 ↔
        ∃ i ∈ scope, Noticed casefold evidence device i neighbor := by
  unfold widenedNeighbors Noticed
  simp only [List.mem_append, List.mem_flatMap, List.mem_filter, Option.mem_toList, List.mem_cons,
    List.mem_filterMap, mem_relevantDisagreements, bne_iff_ne, hget, Option.some.injEq,
    exists_eq_left']
  constructor
  · rintro (⟨i, hi, hfirst, -⟩ | ⟨entry, ⟨hentry, hdevice, i, hi, hsame⟩, hnamed⟩)
    · exact ⟨i, hi, .inl hfirst⟩
    · refine ⟨i, hi, .inr ⟨entry, hentry, hdevice, hsame, ?_⟩⟩
      rcases hnamed with hclaims | ⟨hother, -⟩
      · exact .inl hclaims.symm
      · exact .inr hother
  · rintro ⟨i, hi, hfirst | ⟨entry, hentry, hdevice, hsame, hnamed⟩⟩
    · exact .inl ⟨i, hi, hfirst, firstNeighbors_ne_empty hfirst⟩
    · refine .inr ⟨entry, ⟨hentry, hdevice, i, hi, hsame⟩, ?_⟩
      rcases hnamed with hclaims | ⟨other, hother, hresolve⟩
      · exact .inl hclaims.symm
      · exact .inr ⟨⟨other, hother, hresolve⟩, resolveDevice_ne_empty hresolve⟩

lemma widenedNeighbors_alarm_iff {device : String} {found : DeviceEvidence}
    (hget : evidence.get device = some found) (scope : List String) :
    (widenedNeighbors casefold found (hostnameMap casefold evidence) device scope
      (findLldpDisagreements casefold evidence)).2 ≠ [] ↔
        ∃ i ∈ scope, Alarmed casefold evidence device i := by
  have hmismatch : ∀ i : String,
      ((firstNeighbors casefold found (hostnameMap casefold evidence) i).1 !=
          (firstNeighbors casefold found (hostnameMap casefold evidence) i).2 &&
        ((firstNeighbors casefold found (hostnameMap casefold evidence) i).1.any (· != "") ||
          (firstNeighbors casefold found (hostnameMap casefold evidence) i).2.any (· != ""))) =
            true ↔
        (firstNeighbors casefold found (hostnameMap casefold evidence) i).1 ≠
          (firstNeighbors casefold found (hostnameMap casefold evidence) i).2 := by
    intro i
    have hne := @firstNeighbors_ne_empty casefold evidence found i
    generalize firstNeighbors casefold found (hostnameMap casefold evidence) i = pair at hne ⊢
    obtain ⟨left, right⟩ := pair
    rw [Bool.and_eq_true, bne_iff_ne, and_iff_left_iff_imp]
    intro hdiffer
    rw [Bool.or_eq_true]
    cases left with
    | some neighbor => exact .inl (by simpa using hne (.inl rfl))
    | none =>
      cases right with
      | some neighbor => exact .inr (by simpa using hne (.inr rfl))
      | none => exact absurd rfl hdiffer
  unfold widenedNeighbors Alarmed
  simp only [hget, Option.some.injEq, exists_eq_left']
  constructor
  · intro hne
    obtain ⟨alarm, halarm⟩ := List.exists_mem_of_ne_nil _ hne
    rcases List.mem_append.mp halarm with hfirst | hentries
    · obtain ⟨i, hi, hsome⟩ := List.mem_filterMap.mp hfirst
      rw [Option.ite_none_right_eq_some, hmismatch] at hsome
      exact ⟨i, hi, .inl hsome.1⟩
    · obtain ⟨entry, hrelevant, -⟩ := List.mem_map.mp hentries
      obtain ⟨hentry, hdevice, i, hi, hsame⟩ := mem_relevantDisagreements.mp hrelevant
      exact ⟨i, hi, .inr ⟨entry, hentry, hdevice, hsame⟩⟩
  · rintro ⟨i, hi, hdiffer | ⟨entry, hentry, hdevice, hsame⟩⟩
    · apply List.append_ne_nil_of_left_ne_nil
      apply List.ne_nil_of_mem
      rw [List.mem_filterMap]
      exact ⟨i, hi, if_pos ((hmismatch i).mpr hdiffer)⟩
    · apply List.append_ne_nil_of_right_ne_nil
      apply List.ne_nil_of_mem
      exact List.mem_map_of_mem (mem_relevantDisagreements.mpr ⟨hentry, hdevice, i, hi, hsame⟩)

/-! ### The rounds -/

lemma sessionInterfaces_wide {device : String} {found : DeviceEvidence}
    (hget : evidence.get device = some found) {interfaces : List String}
    {records : List IsisRecord}
    (hsession : sessionInterfaces found true "" = some (interfaces, records)) :
    interfaces ≠ [] ↔ ∃ record ∈ evidence.isisOf device, record.interface ≠ "" := by
  obtain ⟨isis, hisis, hread⟩ := Option.map_eq_some_iff.mp hsession
  rw [if_pos rfl, Prod.mk.injEq] at hread
  have hrecords : evidence.isisOf device = isis := by
    rw [Collection.isisOf, hget, Option.bind_some, hisis]
    rfl
  rw [hrecords, ← hread.1]
  constructor
  · intro hne
    obtain ⟨i, hi⟩ := List.exists_mem_of_ne_nil _ hne
    rcases mem_foldl_addInterface hi with hnone | ⟨hname, hi⟩
    · cases hnone
    · obtain ⟨record, hrecord, rfl⟩ := List.mem_map.mp hname
      exact ⟨record, hrecord, hi⟩
  · rintro ⟨record, hrecord, hne⟩
    obtain ⟨i, hi, -⟩ := exists_foldl_addInterface []
      (List.mem_map_of_mem (f := IsisRecord.interface) hrecord) hne
    exact List.ne_nil_of_mem hi

/-- An entry of the frontier has the scope in which the code expands its device. -/
structure WellScoped (casefold : String → String) (evidence : Collection) (start : String)
    (scope : HopScope) (entry : FrontierEntry) : Prop where
  expanded : Expanded evidence start entry.device
  scope_iff : ∀ found, evidence.get entry.device = some found → ∀ P : String → Prop,
    (∀ i j, canonical i = canonical j → P i → P j) →
      ((∃ i ∈ widenScopeInterfaces found entry.deviceWide entry.subject entry.interfaces, P i) ↔
        ∃ i, Uses evidence entry.device (scopeAt start scope entry.device) i ∧ P i)

structure TakesIn (casefold : String → String) (evidence : Collection) (start : String)
    (scope : HopScope) (candidates : List String) (before after : NeighborSearch) : Prop where
  devices_iff : ∀ y, y ∈ after.devices ↔ y ∈ before.devices ∨ y ∈ candidates
  frontier_new : ∀ entry ∈ after.frontier, entry ∈ before.frontier ∨
    entry.device ∈ candidates ∧ WellScoped casefold evidence start scope entry
  frontier_old : ∀ entry ∈ before.frontier, entry ∈ after.frontier
  expanded : ∀ y ∈ after.devices, y ∈ before.devices ∨
    (∃ entry ∈ after.frontier, entry.device = y) ∨ ¬Expanded evidence start y
  disagreements : after.disagreements = before.disagreements

variable {start : String} {scope : HopScope}

lemma TakesIn.refl (search : NeighborSearch) :
    TakesIn casefold evidence start scope [] search search where
  devices_iff y := by simp
  frontier_new entry hentry := .inl hentry
  frontier_old entry hentry := hentry
  expanded y hy := .inl hy
  disagreements := rfl

lemma takesIn_addCandidate {search : NeighborSearch} (hstart : start ∈ search.devices)
    (hparsed : ∀ device found, evidence.get device = some found → found.isis.isSome)
    (candidate : String) :
    TakesIn casefold evidence start scope [candidate] search
      (addCandidate evidence search candidate) := by
  unfold addCandidate
  by_cases hseen : candidate ∈ search.devices
  · rw [if_pos hseen]
    refine ⟨?_, fun entry h => .inl h, fun entry h => h, fun y h => .inl h, rfl⟩
    intro y
    rw [List.mem_singleton, or_iff_left_of_imp]
    rintro rfl
    exact hseen
  · rw [if_neg hseen]
    have hother : candidate ≠ start := fun h => hseen (h ▸ hstart)
    have hdevices : ∀ y, y ∈ search.devices ++ [candidate] ↔
        y ∈ search.devices ∨ y ∈ [candidate] := fun y => List.mem_append
    have hlast : ∀ y ∈ search.devices ++ [candidate], y ∈ search.devices ∨ y = candidate := by
      intro y hy
      rcases (hdevices y).mp hy with hold | hnew
      · exact .inl hold
      · exact .inr (List.mem_singleton.mp hnew)
    cases hget : evidence.get candidate with
    | none =>
      refine ⟨hdevices, fun entry h => .inl h, fun entry h => h, ?_, rfl⟩
      intro y hy
      rcases hlast y hy with hold | rfl
      · exact .inl hold
      · refine .inr (.inr fun hexpanded => ?_)
        have hsome := hexpanded.1
        rw [hget] at hsome
        cases hsome
    | some found =>
      obtain ⟨isis, hisis⟩ := Option.isSome_iff_exists.mp (hparsed candidate found hget)
      have hsession : ∃ pair, sessionInterfaces found true "" = some pair := by
        rw [sessionInterfaces, hisis]
        exact ⟨_, rfl⟩
      obtain ⟨⟨interfaces, records⟩, hsession⟩ := hsession
      have hwide := sessionInterfaces_wide hget hsession
      rw [Option.bind_some, hsession]
      simp only
      by_cases hempty : interfaces = []
      · rw [if_pos hempty]
        refine ⟨hdevices, fun entry h => .inl h, fun entry h => h, ?_, rfl⟩
        intro y hy
        rcases hlast y hy with hold | rfl
        · exact .inl hold
        · refine .inr (.inr fun hexpanded => ?_)
          exact hwide.mpr (hexpanded.2.resolve_left hother) hempty
      · rw [if_neg hempty]
        refine ⟨hdevices, ?_, fun entry h => List.mem_append_left _ h, ?_, rfl⟩
        · intro entry hentry
          rcases List.mem_append.mp hentry with hold | hnew
          · exact .inl hold
          · rw [List.mem_singleton] at hnew
            subst hnew
            refine .inr ⟨List.mem_singleton_self _, ⟨by rw [hget]; rfl, .inr (hwide.mp hempty)⟩, ?_⟩
            intro found' hget' P hP
            rw [hget, Option.some.injEq] at hget'
            rw [← hget', scopeAt, if_neg hother]
            exact exists_mem_scope_iff hget hsession hP
        · intro y hy
          rcases hlast y hy with hold | rfl
          · exact .inl hold
          · exact .inr (.inl ⟨_, List.mem_append_right _ (List.mem_singleton_self _), rfl⟩)

lemma TakesIn.trans {candidates candidates' : List String} {first second third : NeighborSearch}
    (h : TakesIn casefold evidence start scope candidates first second)
    (h' : TakesIn casefold evidence start scope candidates' second third) :
    TakesIn casefold evidence start scope (candidates ++ candidates') first third where
  devices_iff y := by
    rw [h'.devices_iff, h.devices_iff, List.mem_append, or_assoc]
  frontier_new entry hentry := by
    rcases h'.frontier_new entry hentry with hold | ⟨hmem, hscoped⟩
    · rcases h.frontier_new entry hold with hold | ⟨hmem, hscoped⟩
      · exact .inl hold
      · exact .inr ⟨List.mem_append_left _ hmem, hscoped⟩
    · exact .inr ⟨List.mem_append_right _ hmem, hscoped⟩
  frontier_old entry hentry := h'.frontier_old entry (h.frontier_old entry hentry)
  expanded y hy := by
    rcases h'.expanded y hy with hold | hrest
    · rcases h.expanded y hold with hold | ⟨entry, hentry, hdevice⟩ | hnot
      · exact .inl hold
      · exact .inr (.inl ⟨entry, h'.frontier_old entry hentry, hdevice⟩)
      · exact .inr (.inr hnot)
    · exact .inr hrest
  disagreements := h'.disagreements.trans h.disagreements

lemma takesIn_foldl
    (hparsed : ∀ device found, evidence.get device = some found → found.isis.isSome)
    (candidates : List String) {search : NeighborSearch} (hstart : start ∈ search.devices) :
    TakesIn casefold evidence start scope candidates search
      (candidates.foldl (addCandidate evidence) search) := by
  induction candidates generalizing search with
  | nil => exact TakesIn.refl search
  | cons candidate candidates ih =>
    have hfirst : TakesIn casefold evidence start scope [candidate] search _ :=
      takesIn_addCandidate hstart hparsed candidate
    have hrest := ih ((hfirst.devices_iff start).mpr (.inl hstart))
    exact hfirst.trans hrest

structure Expands (casefold : String → String) (evidence : Collection) (start : String)
    (scope : HopScope) (entries : List FrontierEntry) (before after : NeighborSearch) : Prop where
  devices_iff : ∀ y, y ∈ after.devices ↔ y ∈ before.devices ∨
    ∃ entry ∈ entries, TakesHop casefold evidence start scope entry.device y
  frontier_new : ∀ entry ∈ after.frontier, entry ∈ before.frontier ∨
    entry.device ∈ after.devices ∧ WellScoped casefold evidence start scope entry
  frontier_old : ∀ entry ∈ before.frontier, entry ∈ after.frontier
  expanded : ∀ y ∈ after.devices, y ∈ before.devices ∨
    (∃ entry ∈ after.frontier, entry.device = y) ∨ ¬Expanded evidence start y
  alarm_iff : after.disagreements ≠ [] ↔ before.disagreements ≠ [] ∨
    ∃ entry ∈ entries, RaisesAlarm casefold evidence start scope entry.device

lemma expands_expandEntry
    (hparsed : ∀ device found, evidence.get device = some found → found.isis.isSome)
    {search : NeighborSearch} (hstart : start ∈ search.devices) {entry : FrontierEntry}
    (hentry : WellScoped casefold evidence start scope entry) :
    Expands casefold evidence start scope [entry] search
      (expandEntry casefold evidence search entry) := by
  obtain ⟨found, hget⟩ := Option.isSome_iff_exists.mp hentry.expanded.1
  have hscope := hentry.scope_iff found hget
  unfold expandEntry
  rw [hget]
  simp only
  have htakes : TakesIn casefold evidence start scope
      (widenedNeighbors casefold found (hostnameMap casefold evidence) entry.device
        (widenScopeInterfaces found entry.deviceWide entry.subject entry.interfaces)
        (findLldpDisagreements casefold evidence)).1
      { search with disagreements := search.disagreements ++
        (widenedNeighbors casefold found (hostnameMap casefold evidence) entry.device
          (widenScopeInterfaces found entry.deviceWide entry.subject entry.interfaces)
          (findLldpDisagreements casefold evidence)).2 } _ := takesIn_foldl hparsed _ hstart
  have hhop : ∀ y, y ∈ (widenedNeighbors casefold found (hostnameMap casefold evidence)
      entry.device (widenScopeInterfaces found entry.deviceWide entry.subject entry.interfaces)
      (findLldpDisagreements casefold evidence)).1 ↔
        TakesHop casefold evidence start scope entry.device y := by
    intro y
    rw [mem_widenedNeighbors hget, hscope _ (fun i j h => noticed_congr h)]
    exact ⟨fun h => ⟨hentry.expanded, h⟩, fun h => h.2⟩
  have halarm := @widenedNeighbors_alarm_iff casefold _ _ _ hget
    (widenScopeInterfaces found entry.deviceWide entry.subject entry.interfaces)
  rw [hscope _ (fun i j h => alarmed_congr h)] at halarm
  refine ⟨?_, ?_, htakes.frontier_old, htakes.expanded, ?_⟩
  · intro y
    rw [htakes.devices_iff, hhop]
    simp
  · intro entry' hentry'
    rcases htakes.frontier_new entry' hentry' with hold | ⟨hmem, hscoped⟩
    · exact .inl hold
    · exact .inr ⟨(htakes.devices_iff _).mpr (.inr hmem), hscoped⟩
  · have hraises : RaisesAlarm casefold evidence start scope entry.device ↔
        ∃ i, Uses evidence entry.device (scopeAt start scope entry.device) i ∧
          Alarmed casefold evidence entry.device i :=
      ⟨fun h => h.2, fun h => ⟨hentry.expanded, h⟩⟩
    rw [htakes.disagreements, ne_eq, List.append_eq_nil_iff, not_and_or, ← ne_eq, ← ne_eq, halarm,
      ← hraises]
    simp

lemma Expands.trans {entries entries' : List FrontierEntry} {first second third : NeighborSearch}
    (h : Expands casefold evidence start scope entries first second)
    (h' : Expands casefold evidence start scope entries' second third) :
    Expands casefold evidence start scope (entries ++ entries') first third where
  devices_iff y := by
    rw [h'.devices_iff, h.devices_iff]
    simp only [List.mem_append, or_and_right, exists_or, or_assoc]
  frontier_new entry hentry := by
    rcases h'.frontier_new entry hentry with hold | hnew
    · rcases h.frontier_new entry hold with hold | ⟨hmem, hscoped⟩
      · exact .inl hold
      · exact .inr ⟨(h'.devices_iff _).mpr (.inl hmem), hscoped⟩
    · exact .inr hnew
  frontier_old entry hentry := h'.frontier_old entry (h.frontier_old entry hentry)
  expanded y hy := by
    rcases h'.expanded y hy with hold | hrest
    · rcases h.expanded y hold with hold | ⟨entry, hentry, hdevice⟩ | hnot
      · exact .inl hold
      · exact .inr (.inl ⟨entry, h'.frontier_old entry hentry, hdevice⟩)
      · exact .inr (.inr hnot)
    · exact .inr hrest
  alarm_iff := by
    rw [h'.alarm_iff, h.alarm_iff]
    simp only [List.mem_append, or_and_right, exists_or, or_assoc]

lemma expands_foldl
    (hparsed : ∀ device found, evidence.get device = some found → found.isis.isSome)
    {entries : List FrontierEntry}
    (hentries : ∀ entry ∈ entries, WellScoped casefold evidence start scope entry)
    {search : NeighborSearch} (hstart : start ∈ search.devices) :
    Expands casefold evidence start scope entries search
      (entries.foldl (expandEntry casefold evidence) search) := by
  induction entries generalizing search with
  | nil =>
    refine ⟨?_, fun entry h => .inl h, fun entry h => h, fun y h => .inl h, ?_⟩
    · intro y
      simp
    · simp
  | cons entry entries ih =>
    have hfirst := expands_expandEntry hparsed hstart (hentries entry List.mem_cons_self)
    have hrest := ih (fun e he => hentries e (List.mem_cons_of_mem _ he))
      ((hfirst.devices_iff start).mpr (.inl hstart))
    exact hfirst.trans hrest

/-- What the search knows after `n` rounds. -/
def Searched (casefold : String → String) (evidence : Collection) (start : String)
    (scope : HopScope) (n : Nat) (search : NeighborSearch) : Prop :=
  Hops.Explored (TakesHop casefold evidence start scope) start
      (RaisesAlarm casefold evidence start scope) n search.devices
      (search.frontier.map FrontierEntry.device) (search.disagreements ≠ []) ∧
    ∀ entry ∈ search.frontier, WellScoped casefold evidence start scope entry

lemma alarm_entries_iff {P : String → Prop} {entries : List FrontierEntry} :
    (∃ entry ∈ entries, P entry.device) ↔ ∃ x ∈ entries.map FrontierEntry.device, P x := by
  simp

theorem searched_nextHop
    (hparsed : ∀ device found, evidence.get device = some found → found.isis.isSome) {n : Nat}
    {search : NeighborSearch} (h : Searched casefold evidence start scope n search) :
    Searched casefold evidence start scope (n + 1) (nextHop casefold evidence search) ∧
      ((nextHop casefold evidence search).disagreements ≠ [] ↔
        ∃ x, Hops.Within (TakesHop casefold evidence start scope) start n x ∧
          RaisesAlarm casefold evidence start scope x) := by
  obtain ⟨hexplored, hscoped⟩ := h
  have hstart : start ∈ search.devices := (hexplored.seen_iff start).mpr (Hops.within_start n)
  have hround : Expands casefold evidence start scope search.frontier
      { search with frontier := [] } (nextHop casefold evidence search) :=
    expands_foldl hparsed hscoped hstart
  have hflag := hround.alarm_iff
  rw [alarm_entries_iff] at hflag
  refine ⟨⟨hexplored.round ?_ ?_ ?_ hflag, ?_⟩, hexplored.flag_iff hflag⟩
  · intro y
    rw [← alarm_entries_iff]
    exact hround.devices_iff y
  · intro x hx
    obtain ⟨entry, hentry, rfl⟩ := List.mem_map.mp hx
    rcases hround.frontier_new entry hentry with hnone | hnew
    · cases hnone
    · exact hnew.1
  · intro x hx
    rcases hround.expanded x hx with hold | ⟨entry, hentry, rfl⟩ | hnot
    · exact .inl hold
    · exact .inr (.inl (List.mem_map_of_mem hentry))
    · exact .inr (.inr ⟨fun y htakes => hnot htakes.1, fun halarm => hnot halarm.1⟩)
  · intro entry hentry
    rcases hround.frontier_new entry hentry with hnone | hnew
    · cases hnone
    · exact hnew.2

lemma nextHop_of_frontier_nil {search : NeighborSearch} (h : search.frontier = []) :
    nextHop casefold evidence search = search := by
  unfold nextHop
  rw [h]
  cases search
  simp only at h
  rw [h]
  rfl

lemma searchHops_eq_iterate (n : Nat) (search : NeighborSearch) :
    searchHops casefold evidence n search = (nextHop casefold evidence)^[n] search := by
  induction n generalizing search with
  | zero => rfl
  | succ n ih =>
    rw [searchHops]
    by_cases h : search.frontier = []
    · rw [if_pos h, Function.iterate_fixed (nextHop_of_frontier_nil h)]
    · rw [if_neg h, ih, Function.iterate_succ_apply]

theorem searched_searchHops
    (hparsed : ∀ device found, evidence.get device = some found → found.isis.isSome)
    {search : NeighborSearch} (h : Searched casefold evidence start scope 0 search) (n : Nat) :
    Searched casefold evidence start scope (n + 1) (searchHops casefold evidence (n + 1) search) ∧
      ((searchHops casefold evidence (n + 1) search).disagreements ≠ [] ↔
        ∃ x, Hops.Within (TakesHop casefold evidence start scope) start n x ∧
          RaisesAlarm casefold evidence start scope x) := by
  have hsearched : ∀ n, Searched casefold evidence start scope n
      ((nextHop casefold evidence)^[n] search) := by
    intro n
    induction n with
    | zero => exact h
    | succ n ih =>
      rw [Function.iterate_succ_apply']
      exact (searched_nextHop hparsed ih).1
  rw [searchHops_eq_iterate, Function.iterate_succ_apply']
  exact searched_nextHop hparsed (hsearched n)

end NetTools
