import NetTools.Topology.Search

/-!
# The bounded closure

The neighbourhood is the set of devices that walks along the records reach, in any order of the
records, exactly when the hops that the code leaves out lead nowhere new and the differences that
it leaves out are not the first ones.
-/

namespace NetTools

section

variable (casefold : String → String)

structure SameRecords (found found' : DeviceEvidence) : Prop where
  isis : Option.Rel List.Perm found.isis found'.isis
  lldp : Option.Rel List.Perm found.lldp found'.lldp
  hostname : found.hostname = found'.hostname

def Reordered (evidence evidence' : Collection) : Prop :=
  ∀ device, Option.Rel SameRecords (evidence.get device) (evidence'.get device)

/-- For every order of the collection and every depth from 2 on, the devices are those within reach
and the neighbourhood is widened exactly when there is trouble on an interface on the way. -/
structure NeighborhoodIsClosure (inventory : RouterIds) (evidence : Collection)
    (device subject start : String) (scope : HopScope) : Prop where
  exact : ∀ evidence', Reordered evidence evidence' → ∀ depth : Nat, 2 ≤ depth →
    ∃ answer, evidenceNeighborhood casefold inventory evidence' device subject depth = .ok answer ∧
      (∀ y, y ∈ answer.devices ↔ ReachedWithin casefold evidence start scope (depth - 1) y) ∧
        (answer.widened = true ↔ TroubleWithin casefold evidence start scope (depth - 2))
  grows : ∀ depth : Nat, 2 ≤ depth → ∀ answer answer',
    evidenceNeighborhood casefold inventory evidence device subject depth = .ok answer →
      evidenceNeighborhood casefold inventory evidence device subject (depth + 1 : Nat) =
        .ok answer' → answer.devices ⊆ answer'.devices

variable (evidence : Collection) (start : String) (scope : HopScope)

/-- At most `n` hops away, taking the hops that the code takes. -/
def TakenWithin (n : Nat) (device : String) : Prop :=
  Hops.Within (TakesHop casefold evidence start scope) start n device

/-- Trouble at a device at most `n` taken hops away, the device of the subject among them when a
hop leads back to it. -/
def TroubleShows (n : Nat) : Prop :=
  (∃ x, TakenWithin casefold evidence start scope n x ∧
    Trouble casefold evidence x (scopeAt start scope x)) ∨
      ∃ m < n, ∃ x, TakenWithin casefold evidence start scope m x ∧
        Leads casefold evidence x (scopeAt start scope x) start ∧
          Trouble casefold evidence start .wholeDevice

structure NothingLost : Prop where
  hops : ∀ n x y, TakenWithin casefold evidence start scope n x →
    Leads casefold evidence x (scopeAt start scope x) y →
      TakenWithin casefold evidence start scope (n + 1) y
  back : ∀ n x y, TakenWithin casefold evidence start scope n x →
    Leads casefold evidence x (scopeAt start scope x) start →
      Leads casefold evidence start .wholeDevice y →
        TakenWithin casefold evidence start scope (n + 2) y
  alarms : ∀ n, TroubleShows casefold evidence start scope n ↔
    ∃ x, TakenWithin casefold evidence start scope n x ∧
      RaisesAlarm casefold evidence start scope x

end

variable {casefold : String → String} {evidence evidence' : Collection} {start : String}
  {scope : HopScope}

/-! ### Orders -/

structure SameLinks (evidence evidence' : Collection) : Prop where
  isSome : ∀ device, (evidence.get device).isSome ↔ (evidence'.get device).isSome
  isis : ∀ device record, record ∈ evidence.isisOf device ↔ record ∈ evidence'.isisOf device
  lldp : ∀ device record, record ∈ evidence.lldpOf device ↔ record ∈ evidence'.lldpOf device
  hostname : ∀ device, evidence.hostnameOf device = evidence'.hostnameOf device

lemma mem_getD_of_rel {α : Type} {l l' : Option (List α)} (h : Option.Rel List.Perm l l') (a : α) :
    a ∈ l.getD [] ↔ a ∈ l'.getD [] := by
  cases h with
  | none => rfl
  | some hperm => exact hperm.mem_iff

lemma Reordered.sameLinks (h : Reordered evidence evidence') : SameLinks evidence evidence' := by
  have hall : ∀ device, ((evidence.get device).isSome ↔ (evidence'.get device).isSome) ∧
      (∀ record, record ∈ evidence.isisOf device ↔ record ∈ evidence'.isisOf device) ∧
        (∀ record, record ∈ evidence.lldpOf device ↔ record ∈ evidence'.lldpOf device) ∧
          evidence.hostnameOf device = evidence'.hostnameOf device := by
    intro device
    have hdevice := h device
    unfold Collection.isisOf Collection.lldpOf Collection.hostnameOf
    generalize evidence.get device = found at hdevice
    generalize evidence'.get device = found' at hdevice
    cases hdevice with
    | none => exact ⟨Iff.rfl, fun _ => Iff.rfl, fun _ => Iff.rfl, rfl⟩
    | some hsame =>
      have hlldp := mem_getD_of_rel hsame.lldp
      refine ⟨Iff.rfl, mem_getD_of_rel hsame.isis, hlldp, ?_⟩
      simp only [Option.bind_some, configuredHostname, hsame.hostname]
  exact ⟨fun device => (hall device).1, fun device => (hall device).2.1,
    fun device => (hall device).2.2.1, fun device => (hall device).2.2.2⟩

lemma names_congr (h : SameLinks evidence evidence') (name device : String) :
    Names casefold evidence name device ↔ Names casefold evidence' name device := by
  unfold Names
  simp only [h.isSome, h.hostname]

lemma disagrees_congr (h : SameLinks evidence evidence') (device : String) (record : LldpRecord)
    (neighbor : String) : Disagrees casefold evidence device record neighbor ↔
      Disagrees casefold evidence' device record neighbor := by
  unfold Disagrees
  simp only [h.lldp, names_congr h]

lemma isisNames_congr (h : SameLinks evidence evidence') (device interface neighbor : String) :
    IsisNames casefold evidence device interface neighbor ↔
      IsisNames casefold evidence' device interface neighbor := by
  unfold IsisNames
  simp only [h.isis, names_congr h]

lemma lldpNames_congr (h : SameLinks evidence evidence') (device interface neighbor : String) :
    LldpNames casefold evidence device interface neighbor ↔
      LldpNames casefold evidence' device interface neighbor := by
  unfold LldpNames
  simp only [h.lldp, names_congr h]

lemma uses_congr (h : SameLinks evidence evidence') (device : String) (scope : HopScope)
    (interface : String) :
    Uses evidence device scope interface ↔ Uses evidence' device scope interface := by
  unfold Uses
  cases scope with
  | interface name => exact Iff.rfl
  | wholeDevice => simp only [h.isis, h.lldp]

lemma leads_congr (h : SameLinks evidence evidence') (device : String) (scope : HopScope)
    (neighbor : String) : Leads casefold evidence device scope neighbor ↔
      Leads casefold evidence' device scope neighbor := by
  unfold Leads LeadsOn FarEndNames
  simp only [uses_congr h, isisNames_congr h, lldpNames_congr h, h.lldp, disagrees_congr h,
    names_congr h]

lemma trouble_congr (h : SameLinks evidence evidence') (device : String) (scope : HopScope) :
    Trouble casefold evidence device scope ↔ Trouble casefold evidence' device scope := by
  unfold Trouble Disputed
  simp only [uses_congr h, isisNames_congr h, lldpNames_congr h, h.lldp, disagrees_congr h]

lemma LinkWalk.congr (h : SameLinks evidence evidence') {n : Nat} {device : String}
    (hwalk : LinkWalk casefold evidence start scope n device) :
    LinkWalk casefold evidence' start scope n device := by
  induction hwalk with
  | start => exact .start
  | first hleads => exact .first ((leads_congr h _ _ _).mp hleads)
  | later _ hleads ih => exact .later ih ((leads_congr h _ _ _).mp hleads)

lemma SameLinks.symm (h : SameLinks evidence evidence') : SameLinks evidence' evidence where
  isSome device := (h.isSome device).symm
  isis device record := (h.isis device record).symm
  lldp device record := (h.lldp device record).symm
  hostname device := (h.hostname device).symm

lemma walk_congr (h : SameLinks evidence evidence') (n : Nat) (device : String) :
    LinkWalk casefold evidence start scope n device ↔
      LinkWalk casefold evidence' start scope n device :=
  ⟨LinkWalk.congr h, LinkWalk.congr h.symm⟩

lemma reachedWithin_congr (h : SameLinks evidence evidence') (n : Nat) (device : String) :
    ReachedWithin casefold evidence start scope n device ↔
      ReachedWithin casefold evidence' start scope n device := by
  unfold ReachedWithin
  simp only [walk_congr h]

lemma troubleWithin_congr (h : SameLinks evidence evidence') (n : Nat) :
    TroubleWithin casefold evidence start scope n ↔
      TroubleWithin casefold evidence' start scope n := by
  unfold TroubleWithin
  simp only [trouble_congr h, walk_congr h]

lemma LinkWalk.hop {n : Nat} {device neighbor : String}
    (h : LinkWalk casefold evidence start scope n device)
    (hleads : Leads casefold evidence device (scopeAt start scope device) neighbor) :
    ∃ m, 1 ≤ m ∧ m ≤ n + 1 ∧ LinkWalk casefold evidence start scope m neighbor := by
  unfold scopeAt at hleads
  by_cases hdevice : device = start
  · rw [if_pos hdevice, hdevice] at hleads
    exact ⟨1, le_refl 1, Nat.le_add_left 1 n, .first hleads⟩
  · rw [if_neg hdevice] at hleads
    cases n with
    | zero =>
      cases h
      exact absurd rfl hdevice
    | succ n => exact ⟨n + 2, Nat.le_add_left 1 _, le_refl _, .later h hleads⟩

lemma reachedWithin_of_takenWithin {n : Nat} {device : String}
    (h : TakenWithin casefold evidence start scope n device) :
    ReachedWithin casefold evidence start scope n device := by
  induction n generalizing device with
  | zero =>
    have hdevice : device = start := h
    exact ⟨0, le_refl 0, hdevice ▸ .start⟩
  | succ n ih =>
    rcases h with hold | ⟨x, hx, htakes⟩
    · obtain ⟨m, hm, hwalk⟩ := ih hold
      exact ⟨m, Nat.le_succ_of_le hm, hwalk⟩
    · obtain ⟨m, hm, hwalk⟩ := ih hx
      obtain ⟨k, -, hk, hwalk'⟩ := hwalk.hop (leads_of_takesHop htakes)
      exact ⟨k, by omega, hwalk'⟩

lemma exists_hop_back {k : Nat} (ih : ∀ j ≤ k, ∀ x, LinkWalk casefold evidence start scope j x →
    TakenWithin casefold evidence start scope j x)
    (h : LinkWalk casefold evidence start scope (k + 1) start) :
    ∃ j ≤ k, ∃ x, TakenWithin casefold evidence start scope j x ∧
      Leads casefold evidence x (scopeAt start scope x) start := by
  induction k with
  | zero =>
    cases h with
    | first hleads =>
      refine ⟨0, le_refl 0, start, rfl, ?_⟩
      rw [scopeAt, if_pos rfl]
      exact hleads
  | succ k ihk =>
    cases h with
    | later hwalk hleads =>
      rename_i x
      by_cases hx : x = start
      · subst hx
        obtain ⟨j, hj, y, hy, hback⟩ := ihk (fun j hj => ih j (Nat.le_succ_of_le hj)) hwalk
        exact ⟨j, Nat.le_succ_of_le hj, y, hy, hback⟩
      · refine ⟨k + 1, le_refl _, x, ih (k + 1) (le_refl _) x hwalk, ?_⟩
        rw [scopeAt, if_neg hx]
        exact hleads

variable
    (hhops : ∀ n x y, TakenWithin casefold evidence start scope n x →
      Leads casefold evidence x (scopeAt start scope x) y →
        TakenWithin casefold evidence start scope (n + 1) y)
    (hback : ∀ n x y, TakenWithin casefold evidence start scope n x →
      Leads casefold evidence x (scopeAt start scope x) start →
        Leads casefold evidence start .wholeDevice y →
          TakenWithin casefold evidence start scope (n + 2) y)

include hhops hback in
lemma takenWithin_of_walk (n : Nat) :
    ∀ device, LinkWalk casefold evidence start scope n device →
      TakenWithin casefold evidence start scope n device := by
  induction n using Nat.strong_induction_on with
  | _ n ih =>
    intro device hwalk
    cases hwalk with
    | start => exact Hops.within_start 0
    | first hleads =>
      apply hhops 0 start device (Hops.within_start 0)
      rw [scopeAt, if_pos rfl]
      exact hleads
    | later hwalk hleads =>
      rename_i k x
      by_cases hx : x = start
      · subst hx
        obtain ⟨j, hj, y, hy, hleads'⟩ := exists_hop_back
          (fun j hj => ih j (Nat.lt_of_le_of_lt hj (by omega))) hwalk
        exact (hback j y device hy hleads' hleads).mono (by omega)
      · apply hhops (k + 1) x device (ih (k + 1) (by omega) x hwalk)
        rw [scopeAt, if_neg hx]
        exact hleads

lemma reached_iff_hops :
    (∀ n device, TakenWithin casefold evidence start scope (n + 1) device ↔
        ReachedWithin casefold evidence start scope (n + 1) device) ↔
      (∀ n x y, TakenWithin casefold evidence start scope n x →
        Leads casefold evidence x (scopeAt start scope x) y →
          TakenWithin casefold evidence start scope (n + 1) y) ∧
        ∀ n x y, TakenWithin casefold evidence start scope n x →
          Leads casefold evidence x (scopeAt start scope x) start →
            Leads casefold evidence start .wholeDevice y →
              TakenWithin casefold evidence start scope (n + 2) y := by
  constructor
  · intro h
    refine ⟨?_, ?_⟩
    · intro n x y hx hleads
      obtain ⟨m, hm, hwalk⟩ := reachedWithin_of_takenWithin hx
      obtain ⟨k, -, hk, hwalk'⟩ := hwalk.hop hleads
      exact (h n y).mpr ⟨k, by omega, hwalk'⟩
    · intro n x y hx hleads hout
      obtain ⟨m, hm, hwalk⟩ := reachedWithin_of_takenWithin hx
      obtain ⟨k, hk, hkn, hwalk'⟩ := hwalk.hop hleads
      obtain ⟨j, rfl⟩ := Nat.exists_eq_add_of_le' hk
      exact (h (n + 1) y).mpr ⟨j + 2, by omega, .later hwalk' hout⟩
  · rintro ⟨hhops, hback⟩ n device
    constructor
    · exact reachedWithin_of_takenWithin
    · rintro ⟨m, hm, hwalk⟩
      exact (takenWithin_of_walk hhops hback m device hwalk).mono hm

include hhops hback in
lemma troubleWithin_iff (n : Nat) :
    TroubleWithin casefold evidence start scope n ↔
      TroubleShows casefold evidence start scope n := by
  have hwalks := takenWithin_of_walk hhops hback
  constructor
  · rintro (htrouble | ⟨m, hm, hmn, x, hwalk, htrouble⟩)
    · refine .inl ⟨start, Hops.within_start n, ?_⟩
      rw [scopeAt, if_pos rfl]
      exact htrouble
    · by_cases hx : x = start
      · subst hx
        obtain ⟨k, rfl⟩ := Nat.exists_eq_add_of_le' hm
        obtain ⟨j, hj, y, hy, hleads⟩ := exists_hop_back (fun j _ => hwalks j) hwalk
        exact .inr ⟨j, by omega, y, hy, hleads, htrouble⟩
      · refine .inl ⟨x, (hwalks m x hwalk).mono hmn, ?_⟩
        rw [scopeAt, if_neg hx]
        exact htrouble
  · rintro (⟨x, hx, htrouble⟩ | ⟨m, hm, x, hx, hleads, htrouble⟩)
    · unfold scopeAt at htrouble
      by_cases hstart : x = start
      · rw [if_pos hstart, hstart] at htrouble
        exact .inl htrouble
      · rw [if_neg hstart] at htrouble
        obtain ⟨m, hm, hwalk⟩ := reachedWithin_of_takenWithin hx
        have hpos : 1 ≤ m := by
          cases m with
          | zero =>
            cases hwalk
            exact absurd rfl hstart
          | succ m => exact Nat.le_add_left 1 m
        exact .inr ⟨m, hpos, hm, x, hwalk, htrouble⟩
    · obtain ⟨k, hk, hwalk⟩ := reachedWithin_of_takenWithin hx
      obtain ⟨j, hj, hjk, hwalk'⟩ := hwalk.hop hleads
      exact .inr ⟨j, hj, by omega, start, hwalk', htrouble⟩

theorem evidenceNeighborhood_eq {inventory : RouterIds} {device subject : String}
    {deviceWide : Bool}
    (hparsed : ∀ device found, evidence.get device = some found → found.isis.isSome)
    (hdevice : (evidence.get device).isSome)
    (hsubject : subjectShapeDevice inventory device subject = some (start, deviceWide))
    (hstart : (evidence.get start).isSome) (n : Nat) :
    ∃ answer, evidenceNeighborhood casefold inventory evidence device subject (n + 2 : Nat) =
        .ok answer ∧
      (∀ y, y ∈ answer.devices ↔
        TakenWithin casefold evidence start (sessionScope deviceWide subject) (n + 1) y) ∧
        (answer.widened = true ↔
          ∃ x, TakenWithin casefold evidence start (sessionScope deviceWide subject) n x ∧
            RaisesAlarm casefold evidence start (sessionScope deviceWide subject) x) := by
  obtain ⟨found, hget⟩ := Option.isSome_iff_exists.mp hstart
  obtain ⟨isis, hisis⟩ := Option.isSome_iff_exists.mp (hparsed start found hget)
  have hsession : ∃ pair, sessionInterfaces found deviceWide subject = some pair := by
    rw [sessionInterfaces, hisis]
    exact ⟨_, rfl⟩
  obtain ⟨⟨interfaces, records⟩, hsession⟩ := hsession
  have hscoped : WellScoped casefold evidence start (sessionScope deviceWide subject)
      ⟨start, deviceWide, subject, interfaces⟩ := by
    refine ⟨⟨hstart, .inl rfl⟩, ?_⟩
    intro found' hget' P hP
    rw [hget, Option.some.injEq] at hget'
    rw [← hget', scopeAt, if_pos rfl]
    exact exists_mem_scope_iff hget hsession hP
  have hinit : Searched casefold evidence start (sessionScope deviceWide subject) 0
      { devices := [start], frontier := [⟨start, deviceWide, subject, interfaces⟩] } := by
    refine ⟨Hops.Explored.init (fun h => h rfl), ?_⟩
    intro entry hentry
    rw [List.mem_singleton.mp hentry]
    exact hscoped
  obtain ⟨⟨hexplored, -⟩, halarm⟩ := searched_searchHops hparsed hinit n
  have hnone : (evidence.get device).isNone = false := by
    rw [Option.isNone_eq_false_iff]
    exact hdevice
  let search := searchHops casefold evidence (n + 1)
    { devices := [start], frontier := [⟨start, deviceWide, subject, interfaces⟩] }
  have hanswer : evidenceNeighborhood casefold inventory evidence device subject (n + 2 : Nat) =
      .ok
        { anchorDevice := device, subject := subject, subjectDevice := some start,
          depth := (n + 2 : Nat), status := .resolved, devices := search.devices,
          interfaces := interfaces, adjacencyRecords := records,
          widened := !search.disagreements.isEmpty, disagreements := search.disagreements } := by
    unfold evidenceNeighborhood
    have hneg : ¬ ((n + 2 : Nat) : Int) < 0 := by omega
    have hzero : ¬ ((n + 2 : Nat) : Int) = 0 := by omega
    have hone : ¬ ((n + 2 : Nat) : Int) = 1 := by omega
    have hrounds : ((n + 2 : Nat) : Int).toNat - 1 = n + 1 := by omega
    rw [if_neg hneg, hnone, if_neg Bool.false_ne_true]
    simp only [hsubject, hget, if_neg hzero, hsession, if_neg hone, hrounds]
    rfl
  refine ⟨_, hanswer, hexplored.seen_iff, Iff.trans ?_ halarm⟩
  change (!search.disagreements.isEmpty) = true ↔ search.disagreements ≠ []
  rw [Bool.not_eq_true', List.isEmpty_eq_false_iff]

lemma Reordered.isis_isSome (h : Reordered evidence evidence')
    (hparsed : ∀ device found, evidence.get device = some found → found.isis.isSome) :
    ∀ device found, evidence'.get device = some found → found.isis.isSome := by
  intro device found' hget'
  have hdevice := h device
  rw [hget'] at hdevice
  cases hget : evidence.get device with
  | none =>
    rw [hget] at hdevice
    cases hdevice
  | some found =>
    rw [hget] at hdevice
    cases hdevice with
    | some hsame =>
      have hsome := hparsed device found hget
      have hisis := hsame.isis
      generalize found.isis = records at hsome hisis
      generalize found'.isis = records' at hisis ⊢
      cases hisis with
      | none => exact hsome
      | some _ => rfl

lemma Reordered.refl (evidence : Collection) : Reordered evidence evidence := by
  intro device
  cases evidence.get device with
  | none => exact .none
  | some found =>
    refine .some ⟨?_, ?_, rfl⟩
    · cases found.isis with
      | none => exact .none
      | some _ => exact .some (List.Perm.refl _)
    · cases found.lldp with
      | none => exact .none
      | some _ => exact .some (List.Perm.refl _)

/-- The neighbourhood of a subject is the bounded closure exactly when, in no order of the
collection, what the code leaves out is of consequence. -/
theorem neighborhoodIsClosure_iff (casefold : String → String) (inventory : RouterIds)
    (evidence : Collection) (device subject start : String) (deviceWide : Bool)
    (hparsed : ∀ device found, evidence.get device = some found → found.isis.isSome)
    (hdevice : (evidence.get device).isSome)
    (hsubject : subjectShapeDevice inventory device subject = some (start, deviceWide))
    (hstart : (evidence.get start).isSome) :
    NeighborhoodIsClosure casefold inventory evidence device subject start
        (sessionScope deviceWide subject) ↔
      ∀ evidence', Reordered evidence evidence' →
        NothingLost casefold evidence' start (sessionScope deviceWide subject) := by
  have hanswers : ∀ evidence', Reordered evidence evidence' → ∀ n : Nat, ∃ answer,
      evidenceNeighborhood casefold inventory evidence' device subject (n + 2 : Nat) =
          .ok answer ∧
        (∀ y, y ∈ answer.devices ↔
          TakenWithin casefold evidence' start (sessionScope deviceWide subject) (n + 1) y) ∧
          (answer.widened = true ↔
            ∃ x, TakenWithin casefold evidence' start (sessionScope deviceWide subject) n x ∧
              RaisesAlarm casefold evidence' start (sessionScope deviceWide subject) x) := by
    intro evidence' hreordered n
    have hlinks := hreordered.sameLinks
    exact evidenceNeighborhood_eq (hreordered.isis_isSome hparsed)
      ((hlinks.isSome device).mp hdevice) hsubject ((hlinks.isSome start).mp hstart) n
  constructor
  · intro h evidence' hreordered
    have hlinks := hreordered.sameLinks
    have hread : ∀ n : Nat,
        (∀ y, TakenWithin casefold evidence' start (sessionScope deviceWide subject) (n + 1) y ↔
          ReachedWithin casefold evidence' start (sessionScope deviceWide subject) (n + 1) y) ∧
        ((∃ x, TakenWithin casefold evidence' start (sessionScope deviceWide subject) n x ∧
            RaisesAlarm casefold evidence' start (sessionScope deviceWide subject) x) ↔
          TroubleWithin casefold evidence' start (sessionScope deviceWide subject) n) := by
      intro n
      obtain ⟨answer, hok, hdevices, hwidened⟩ := hanswers evidence' hreordered n
      obtain ⟨answer', hok', hdevices', hwidened'⟩ :=
        h.exact evidence' hreordered (n + 2) (by omega)
      rw [hok, Except.ok.injEq] at hok'
      subst hok'
      refine ⟨fun y => ?_, ?_⟩
      · rw [← hdevices, hdevices', reachedWithin_congr hlinks]
        rfl
      · rw [← hwidened, hwidened', troubleWithin_congr hlinks]
        rfl
    obtain ⟨hhops, hback⟩ := reached_iff_hops.mp (fun n => (hread n).1)
    refine ⟨hhops, hback, fun n => ?_⟩
    rw [(hread n).2, troubleWithin_iff hhops hback]
  · intro h
    have hsets : ∀ evidence', Reordered evidence evidence' → ∀ n y,
        TakenWithin casefold evidence' start (sessionScope deviceWide subject) (n + 1) y ↔
          ReachedWithin casefold evidence start (sessionScope deviceWide subject) (n + 1) y := by
      intro evidence' hreordered n y
      have hnothing := h evidence' hreordered
      rw [reachedWithin_congr hreordered.sameLinks]
      exact reached_iff_hops.mpr ⟨hnothing.hops, hnothing.back⟩ n y
    refine ⟨?_, ?_⟩
    · intro evidence' hreordered depth hdepth
      obtain ⟨n, rfl⟩ := Nat.exists_eq_add_of_le' hdepth
      have hnothing := h evidence' hreordered
      obtain ⟨answer, hok, hdevices, hwidened⟩ := hanswers evidence' hreordered n
      refine ⟨answer, hok, fun y => ?_, ?_⟩
      · rw [hdevices]
        exact hsets evidence' hreordered n y
      · rw [hwidened, ← hnothing.alarms, ← troubleWithin_iff hnothing.hops hnothing.back,
          ← troubleWithin_congr hreordered.sameLinks]
        rfl
    · intro depth hdepth answer answer' hok hok' y hy
      obtain ⟨n, rfl⟩ := Nat.exists_eq_add_of_le' hdepth
      obtain ⟨first, hfirst, hdevices, -⟩ := hanswers evidence (Reordered.refl evidence) n
      obtain ⟨second, hsecond, hdevices', -⟩ := hanswers evidence (Reordered.refl evidence) (n + 1)
      rw [hok, Except.ok.injEq] at hfirst
      rw [hok', Except.ok.injEq] at hsecond
      subst hfirst hsecond
      rw [hdevices']
      rw [hdevices] at hy
      exact Hops.Within.succ hy

def asciiFold (text : String) : String := String.ofList (text.toList.map Char.toLower)

def port (n : Nat) : String := "GigabitEthernet0/0/0/" ++ toString n

def onlyLldp (records : List LldpRecord) : DeviceEvidence := ⟨some [], some records, none⟩

def rowOfThree : Collection where
  entries :=
    [("PE1", onlyLldp [⟨"P1", port 0, port 0⟩]),
      ("P1", onlyLldp [⟨"PE1", port 0, port 0⟩, ⟨"P2", port 1, port 0⟩]),
      ("P2", onlyLldp [⟨"P1", port 0, port 1⟩])]
  nodup := by decide
  named := by decide

def adjacentTo (neighbor : String) (n : Nat) : IsisRecord :=
  { systemId := neighbor, interface := "Gi0/0/0/" ++ toString n }

def adjacentRow : Collection where
  entries :=
    [("PE1", ⟨some [adjacentTo "P1" 0], some [⟨"P1", port 0, port 0⟩], none⟩),
      ("P1", ⟨some [adjacentTo "PE1" 0, adjacentTo "P2" 1],
        some [⟨"PE1", port 0, port 0⟩, ⟨"P2", port 1, port 0⟩], none⟩),
      ("P2", ⟨some [adjacentTo "P1" 0], some [⟨"P1", port 0, port 1⟩], none⟩)]
  nodup := by decide
  named := by decide

/-- The question for a row with adjacencies. -/
theorem neighborhoodIsClosure_iff_adjacentRow :
    NeighborhoodIsClosure asciiFold [] adjacentRow "PE1" "Gi0/0/0/0" "PE1"
        (sessionScope false "Gi0/0/0/0") ↔
      ∀ evidence', Reordered adjacentRow evidence' →
        NothingLost asciiFold evidence' "PE1" (sessionScope false "Gi0/0/0/0") := by
  apply neighborhoodIsClosure_iff
  · intro device found hget
    have hmem := get_eq_some_iff.mp hget
    have hall : ∀ entry ∈ adjacentRow.entries, entry.2.isis.isSome = true := by decide
    exact hall _ hmem
  · decide
  · decide +kernel
  · decide

/-- A device without an IS-IS adjacency is not expanded, and what lies behind it is not found. -/
theorem not_neighborhoodIsClosure_rowOfThree :
    ¬ ∀ (casefold : String → String) (inventory : RouterIds) (evidence : Collection)
      (device subject start : String) (deviceWide : Bool),
      (∀ device found, evidence.get device = some found → found.isis.isSome) →
        (evidence.get device).isSome →
          subjectShapeDevice inventory device subject = some (start, deviceWide) →
            (evidence.get start).isSome →
              NeighborhoodIsClosure casefold inventory evidence device subject start
                (sessionScope deviceWide subject) := by
  intro h
  have hparsed : ∀ device found, rowOfThree.get device = some found → found.isis.isSome := by
    intro device found hget
    have hmem := get_eq_some_iff.mp hget
    have hall : ∀ entry ∈ rowOfThree.entries, entry.2.isis.isSome = true := by decide
    exact hall _ hmem
  have hclosure := h asciiFold [] rowOfThree "PE1" (port 0) "PE1" false hparsed (by decide)
    (by decide +kernel) (by decide)
  obtain ⟨answer, hok, hdevices, -⟩ := hclosure.exact rowOfThree (Reordered.refl _) 3 (by decide)
  have hreached :
      ReachedWithin asciiFold rowOfThree "PE1" (sessionScope false (port 0)) 2 "P2" := by
    refine ⟨2, le_refl 2, @LinkWalk.later _ _ _ _ 0 "P1" _ (.first ?_) ?_⟩
    · exact ⟨port 0, ⟨by decide, rfl⟩, .inr (.inl ⟨⟨"P1", port 0, port 0⟩, List.mem_cons_self,
        by decide, by decide, .inl rfl⟩)⟩
    · have hrecord : ⟨"P2", port 1, port 0⟩ ∈ rowOfThree.lldpOf "P1" :=
        List.mem_cons_of_mem _ List.mem_cons_self
      exact ⟨port 1, ⟨by decide, .inr ⟨_, hrecord, rfl⟩⟩,
        .inr (.inl ⟨_, hrecord, by decide, by decide, .inl rfl⟩)⟩
  have hin := (hdevices "P2").mpr hreached
  have hread : (evidenceNeighborhood asciiFold [] rowOfThree "PE1" (port 0) 3).toOption.map
      Neighborhood.devices = some ["PE1", "P1"] := by decide +kernel
  have hok' : evidenceNeighborhood asciiFold [] rowOfThree "PE1" (port 0) 3 = .ok answer := hok
  rw [hok'] at hread
  have hlist : answer.devices = ["PE1", "P1"] := Option.some.inj hread
  rw [hlist] at hin
  exact absurd hin (by decide)

end NetTools
