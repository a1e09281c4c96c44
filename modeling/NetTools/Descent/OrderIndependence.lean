import NetTools.Descent.RowOrder

/-!
# Order of devices, members and rows

When the verdict of a rung does not depend on the order in which its devices are visited or the
rows of a table are listed. The rule of the last device of a path rung is imposed on all of them.
-/

namespace NetTools

open ListSearch Verdicts

section Rungs

variable {rung : Rung} {subject : String} {evidenceFor evidenceFor' : String → Evidence}
  {originPrefix : Option String}

def memberStatuses (rung : Rung) (subject : String) (evidence : Evidence)
    (originPrefix : Option String) : List Status :=
  let objects := (rungSubjects rung subject evidence originPrefix).1
  if objects = [] then [.unevaluated]
  else objects.map (fun object => (rung.check evidence object).status)

lemma memberStatuses_path (subject : String) (evidence : Evidence)
    (originPrefix : Option String) :
    memberStatuses pathInterfaceRung subject evidence originPrefix =
      interfaceStatuses evidence originPrefix := by
  unfold memberStatuses interfaceStatuses
  rw [rungSubjects_path rfl]
  by_cases hnil : judgedInterfaces evidence originPrefix = []
  · rw [hnil]
    rfl
  · dsimp only
    rw [if_neg (fun h => hnil (List.map_eq_nil_iff.mp h)), if_neg hnil, List.map_map]
    rfl

lemma memberStatuses_single {evidence evidence' : Evidence} (object : Option String)
    (hobject : ∀ evidence, (rungSubjects rung subject evidence originPrefix).1 = [object])
    (hstatus : (rung.check evidence object).status = (rung.check evidence' object).status) :
    memberStatuses rung subject evidence originPrefix =
      memberStatuses rung subject evidence' originPrefix := by
  unfold memberStatuses
  rw [hobject, hobject]
  exact congrArg (fun status => [status]) hstatus

lemma deviceResults_status (target : String) :
    (deviceResults rung subject evidenceFor originPrefix target).map CheckResult.status =
      memberStatuses rung subject (evidenceFor target) originPrefix := by
  unfold deviceResults memberStatuses
  dsimp only
  split
  · rfl
  · rw [List.map_map]
    rfl

def pooledStatuses (rung : Rung) (devices : List String) (subject : String)
    (evidenceFor : String → Evidence) (originPrefix : Option String) : List Status :=
  devices.flatMap (fun target => memberStatuses rung subject (evidenceFor target) originPrefix)

lemma evaluateRung_pooled (devices : List String) :
    (evaluateRung rung devices subject evidenceFor originPrefix).status =
      combine (inForce rung (imposedAggregation rung subject evidenceFor originPrefix devices))
        (pooledStatuses rung devices subject evidenceFor originPrefix) := by
  rw [evaluateRung_status, List.map_flatMap]
  simp only [deviceResults_status]
  rfl

/-- What a rung of the registry can say of the members of a device over the orders of the rows.
The rungs that no name stands for here read no first row. -/
def slots (rung : Rung) (subject : String) (evidence : Evidence) (originPrefix : Option String) :
    List (List Status) :=
  if rung.subjectRule = .eachPathInterface then pathSlots evidence originPrefix
  else if rung.name = "bgp_session" then [sessionSlot evidence subject]
  else if rung.name = "isis_adjacency" then [neighborSlot evidence subject]
  else if rung.name = "ldp_session" then [ldpSlot evidence subject]
  else if rung.name = "interface" then [portSlot evidence subject]
  else [memberStatuses rung subject evidence originPrefix]

/-- For some reading of the rows, the members of a rung are drawn from its slots, and the best by
that reading where the rows are in the order for it. -/
def Offers (rung : Rung) : Prop :=
  ∀ (subject : String) (originPrefix : Option String) (evidence : Evidence), ∃ reading,
    ∀ (q : Status → Bool) (evidence' : Evidence), Favours q reading evidence evidence' →
      Draws q (slots rung subject evidence originPrefix)
        (memberStatuses rung subject evidence' originPrefix)

lemma flows_offers : ∀ flow ∈ flows, ∀ rung ∈ flow.descent, Offers rung := by
  apply flows_rungs
  · exact fun subject _ _ => ⟨_, fun _ _ h => draws_singleton (best_session h subject)⟩
  · intro subject _ evidence
    refine ⟨fun _ _ => .unevaluated, fun _ evidence' h => ?_⟩
    exact draws_singleton (best_of_eq (bgpTransport_reordered h.reordered subject))
  · intro subject _ evidence
    refine ⟨fun _ _ => .unevaluated, fun _ evidence' h => ?_⟩
    exact draws_singleton (best_of_eq (routePresent_reordered h.reordered (subject ++ "/32")))
  · intro subject _ evidence
    refine ⟨fun _ _ => .unevaluated, fun _ evidence' h => ?_⟩
    exact draws_singleton (best_of_eq (isisAdjacency_reordered h.reordered))
  · intro subject originPrefix evidence
    refine ⟨pathReading evidence originPrefix, fun q evidence' h => ?_⟩
    rw [memberStatuses_path]
    exact draws_path h
  · exact fun subject _ _ => ⟨_, fun _ _ h => draws_singleton (best_port h subject)⟩
  · exact fun subject _ _ => ⟨_, fun _ _ h => draws_singleton (best_neighbor h subject)⟩
  · exact fun subject _ _ => ⟨_, fun _ _ h => draws_singleton (best_ldp h)⟩

lemma rungSubjects_imposed_none (h : rung.subjectRule ≠ .eachPathInterface) (evidence : Evidence) :
    (rungSubjects rung subject evidence originPrefix).2 = none := by
  unfold rungSubjects
  cases hrule : rung.subjectRule with
  | asIs => rfl
  | hostPrefix => rfl
  | deviceWide => rfl
  | eachPhysicalInterface => rfl
  | eachPathInterface => exact absurd hrule h

lemma evaluateRung_status_congr (hrule : rung.subjectRule ≠ .eachPathInterface)
    {devices : List String}
    (h : ∀ target ∈ devices, memberStatuses rung subject (evidenceFor target) originPrefix =
      memberStatuses rung subject (evidenceFor' target) originPrefix) :
    (evaluateRung rung devices subject evidenceFor originPrefix).status =
      (evaluateRung rung devices subject evidenceFor' originPrefix).status := by
  have himposed : imposedAggregation rung subject evidenceFor originPrefix devices =
      imposedAggregation rung subject evidenceFor' originPrefix devices := by
    unfold imposedAggregation
    simp only [rungSubjects_imposed_none hrule]
  rw [evaluateRung_pooled, evaluateRung_pooled, himposed, pooledStatuses, pooledStatuses,
    List.flatMap_congr h]

lemma imposed_reordered {evidence evidence' : Evidence} (h : evidence.Reordered evidence') :
    (rungSubjects rung subject evidence originPrefix).2 =
      (rungSubjects rung subject evidence' originPrefix).2 := by
  by_cases hrule : rung.subjectRule = .eachPathInterface
  · have hnil : (pathInterfaces evidence originPrefix).1 = [] ↔
        (pathInterfaces evidence' originPrefix).1 = [] := pathInterfaces_nil_reordered h
    rw [rungSubjects_path hrule, rungSubjects_path hrule]
    simp only [pathAggregation, ne_eq, hnil]
  · rw [rungSubjects_imposed_none hrule, rungSubjects_imposed_none hrule]

/-- Whatever is drawn from the slots, they combine to one status. -/
def SettledUnder : Aggregation → List (List Status) → Prop
  | .anyHealthy => Settled .unevaluated .healthy .broken
  | .allHealthy => Settled .unevaluated .broken .healthy

lemma combine_of_settled {aggregation : Aggregation} {slots : List (List Status)}
    (h : SettledUnder aggregation slots) :
    ∃ verdict, ∀ q drawn, Draws q slots drawn → combine aggregation drawn = verdict := by
  cases aggregation with
  | anyHealthy => exact dominant_of_settled h
  | allHealthy => exact dominant_of_settled h

lemma settledUnder_of_constant {aggregation : Aggregation} {slots : List (List Status)}
    {verdict : Status}
    (h : ∀ q, ∃ drawn, Draws q slots drawn ∧ combine aggregation drawn = verdict) :
    SettledUnder aggregation slots := by
  cases aggregation with
  | anyHealthy =>
    refine settled_of_constant (by decide) (by decide) (by decide) ?_ h
    intro status
    cases status <;> simp
  | allHealthy =>
    refine settled_of_constant (by decide) (by decide) (by decide) ?_ h
    intro status
    cases status <;> simp

theorem evaluateRung_reordered_iff (hoffers : Offers rung) (devices : List String) :
    (∀ evidenceFor' : String → Evidence,
        (∀ target ∈ devices, (evidenceFor target).Reordered (evidenceFor' target)) →
        (evaluateRung rung devices subject evidenceFor' originPrefix).status =
          (evaluateRung rung devices subject evidenceFor originPrefix).status) ↔
      SettledUnder
        (inForce rung (imposedAggregation rung subject evidenceFor originPrefix devices))
        (devices.flatMap (fun target => slots rung subject (evidenceFor target) originPrefix)) := by
  have himposed : ∀ evidenceFor' : String → Evidence,
      (∀ target ∈ devices, (evidenceFor target).Reordered (evidenceFor' target)) →
      imposedAggregation rung subject evidenceFor' originPrefix devices =
        imposedAggregation rung subject evidenceFor originPrefix devices := by
    intro evidenceFor' h
    unfold imposedAggregation
    rw [List.filterMap_congr (fun target htarget => (imposed_reordered (h target htarget)).symm)]
  choose reading hdraws using fun target => hoffers subject originPrefix (evidenceFor target)
  constructor
  · intro hconstant
    apply settledUnder_of_constant
    intro q
    let best : String → Evidence := fun target =>
      (evidenceFor target).preferring (fun key row => q (reading target key row))
    have hbest : ∀ target, Favours q (reading target) (evidenceFor target) (best target) :=
      fun target => favours_preferring q (reading target) (evidenceFor target)
    have hstatus := hconstant best (fun target _ => (hbest target).reordered)
    rw [evaluateRung_pooled, himposed best (fun target _ => (hbest target).reordered)] at hstatus
    exact ⟨_, draws_flatMap (fun target _ => hdraws target q (best target) (hbest target)), hstatus⟩
  · intro hsettled evidenceFor' h
    obtain ⟨verdict, hverdict⟩ := combine_of_settled hsettled
    have hpooled : ∀ evidenceFor' : String → Evidence,
        (∀ target ∈ devices, (evidenceFor target).Reordered (evidenceFor' target)) →
        (evaluateRung rung devices subject evidenceFor' originPrefix).status = verdict := by
      intro evidenceFor' h
      rw [evaluateRung_pooled, himposed evidenceFor' h]
      exact hverdict _ _ (draws_flatMap (fun target htarget =>
        hdraws target _ _ ((h target htarget).favours (reading target))))
    rw [hpooled evidenceFor' h,
      hpooled evidenceFor (fun target _ => Evidence.Reordered.refl (evidenceFor target))]

lemma imposedAggregation_of_agree {devices : List String} {aggregation : Option Aggregation}
    (hdevices : devices ≠ [])
    (h : ∀ target ∈ devices,
      (rungSubjects rung subject (evidenceFor target) originPrefix).2 = aggregation) :
    imposedAggregation rung subject evidenceFor originPrefix devices = aggregation := by
  unfold imposedAggregation
  rw [List.filterMap_congr h]
  cases aggregation with
  | none => simp
  | some aggregation =>
    have hmap : devices.filterMap (fun _ => some aggregation) =
        devices.map (fun _ => aggregation) := by
      rw [List.filterMap_eq_map_iff_forall_eq_some]
      exact fun _ _ => rfl
    rw [hmap, List.getLast?_map, List.getLast?_eq_some_getLast hdevices]
    rfl

lemma evaluateRung_status_perm {devices devices' : List String} (hperm : devices.Perm devices')
    (h : ∀ target ∈ devices, ∀ target' ∈ devices,
      (rungSubjects rung subject (evidenceFor target) originPrefix).2 =
        (rungSubjects rung subject (evidenceFor target') originPrefix).2) :
    (evaluateRung rung devices subject evidenceFor originPrefix).status =
      (evaluateRung rung devices' subject evidenceFor originPrefix).status := by
  cases devices with
  | nil => rw [hperm.nil_eq]
  | cons first rest =>
    have hne : devices' ≠ [] := by
      intro hnil
      rw [hnil] at hperm
      exact absurd hperm.eq_nil (List.cons_ne_nil _ _)
    have hall : ∀ target ∈ first :: rest,
        (rungSubjects rung subject (evidenceFor target) originPrefix).2 =
          (rungSubjects rung subject (evidenceFor first) originPrefix).2 :=
      fun target htarget => h target htarget first List.mem_cons_self
    have hall' : ∀ target ∈ devices',
        (rungSubjects rung subject (evidenceFor target) originPrefix).2 =
          (rungSubjects rung subject (evidenceFor first) originPrefix).2 :=
      fun target htarget => hall target (hperm.mem_iff.mpr htarget)
    rw [evaluateRung_status, evaluateRung_status,
      imposedAggregation_of_agree (List.cons_ne_nil _ _) hall,
      imposedAggregation_of_agree hne hall']
    exact combine_congr (fun status => ((hperm.flatMap_right _).map _).mem_iff)

/-- One rule for all the devices of a rung, or members that both rules combine alike. -/
def OneRule (rung : Rung) (devices : List String) (subject : String)
    (evidenceFor : String → Evidence) (originPrefix : Option String) : Prop :=
  rung.subjectRule ≠ .eachPathInterface ∨
    (∀ target ∈ devices, ∀ target' ∈ devices,
      ((pathInterfaces (evidenceFor target) originPrefix).1 = [] ↔
        (pathInterfaces (evidenceFor target') originPrefix).1 = [])) ∨
    .unevaluated ∈ pooledStatuses rung devices subject evidenceFor originPrefix ∨
    ¬(.healthy ∈ pooledStatuses rung devices subject evidenceFor originPrefix ∧
      .broken ∈ pooledStatuses rung devices subject evidenceFor originPrefix)

lemma combine_rules {statuses : List Status}
    (h : .unevaluated ∈ statuses ∨ ¬(.healthy ∈ statuses ∧ .broken ∈ statuses))
    (rule rule' : Aggregation) : combine rule statuses = combine rule' statuses := by
  by_cases hu : statuses = [] ∨ .unevaluated ∈ statuses
  · rw [(combine_eq_unevaluated_iff rule statuses).mpr hu,
      (combine_eq_unevaluated_iff rule' statuses).mpr hu]
  obtain ⟨hne, hu⟩ := not_or.mp hu
  obtain ⟨first, rest, rfl⟩ := List.exists_cons_of_ne_nil hne
  have hone := h.resolve_left hu
  have hsame : combine .anyHealthy (first :: rest) = combine .allHealthy (first :: rest) := by
    rw [combine, combine, dominant_of_known hne hu, dominant_of_known hne hu]
    cases hfirst : first with
    | healthy =>
      rw [hfirst] at hone
      rw [if_pos List.mem_cons_self, if_neg (fun h' => hone ⟨List.mem_cons_self, h'⟩)]
    | broken =>
      rw [hfirst] at hone
      rw [if_neg (fun h' => hone ⟨h', List.mem_cons_self⟩), if_pos List.mem_cons_self]
    | unevaluated => exact absurd (hfirst ▸ List.mem_cons_self) hu
  cases rule <;> cases rule' <;> simp [hsame]

lemma evaluateRung_last {devices : List String} (hrule : rung.subjectRule = .eachPathInterface)
    (target : String) :
    (evaluateRung rung (devices ++ [target]) subject evidenceFor originPrefix).status =
      combine (pathAggregation (evidenceFor target) originPrefix)
        (pooledStatuses rung (devices ++ [target]) subject evidenceFor originPrefix) := by
  rw [evaluateRung_pooled]
  have himposed : imposedAggregation rung subject evidenceFor originPrefix (devices ++ [target]) =
      some (pathAggregation (evidenceFor target) originPrefix) := by
    unfold imposedAggregation
    rw [List.filterMap_append, List.filterMap_cons, List.filterMap_nil, rungSubjects_path hrule]
    exact List.getLast?_concat
  rw [himposed, inForce, Option.some_or]
  cases pathAggregation (evidenceFor target) originPrefix <;> rfl

theorem evaluateRung_perm_iff (rung : Rung) (devices : List String) (subject : String)
    (originPrefix : Option String) (evidenceFor : String → Evidence) :
    (∀ devices', devices.Perm devices' →
        (evaluateRung rung devices' subject evidenceFor originPrefix).status =
          (evaluateRung rung devices subject evidenceFor originPrefix).status) ↔
      OneRule rung devices subject evidenceFor originPrefix := by
  constructor
  · intro hconstant
    by_contra hmixed
    simp only [OneRule, not_or, not_not, not_forall] at hmixed
    obtain ⟨hrule, ⟨target, htarget, target', htarget', hpaths⟩, hu, hhealthy, hbroken⟩ := hmixed
    -- Whichever device comes last imposes its rule, and the two rules disagree.
    have hlast : ∀ last ∈ devices,
        combine (pathAggregation (evidenceFor last) originPrefix)
            (pooledStatuses rung devices subject evidenceFor originPrefix) =
          (evaluateRung rung devices subject evidenceFor originPrefix).status := by
      intro last hmem
      have hperm : devices.Perm (devices.erase last ++ [last]) :=
        (List.perm_cons_erase hmem).trans (List.perm_append_singleton last _).symm
      rw [← hconstant _ hperm, evaluateRung_last hrule]
      exact combine_congr (fun status => (hperm.flatMap_right _).mem_iff)
    have hsame := (hlast target htarget).trans (hlast target' htarget').symm
    have hany : combine .anyHealthy (pooledStatuses rung devices subject evidenceFor
        originPrefix) = .healthy := by
      rw [combine, dominant_of_known (List.ne_nil_of_mem hhealthy) hu, if_pos hhealthy]
    have hall : combine .allHealthy (pooledStatuses rung devices subject evidenceFor
        originPrefix) = .broken := by
      rw [combine, dominant_of_known (List.ne_nil_of_mem hhealthy) hu, if_pos hbroken]
    by_cases hnil : (pathInterfaces (evidenceFor target) originPrefix).1 = []
    · have hne : (pathInterfaces (evidenceFor target') originPrefix).1 ≠ [] :=
        fun h => hpaths ⟨fun _ => h, fun _ => hnil⟩
      rw [pathAggregation, pathAggregation, if_neg (not_not.mpr hnil), if_pos hne, hany,
        hall] at hsame
      cases hsame
    · have hnil' : (pathInterfaces (evidenceFor target') originPrefix).1 = [] := by
        by_contra h
        exact hpaths ⟨fun h' => absurd h' hnil, fun h' => absurd h' h⟩
      rw [pathAggregation, pathAggregation, if_pos hnil, if_neg (not_not.mpr hnil'), hany,
        hall] at hsame
      cases hsame
  · intro hone devices' hperm
    rcases hone with hrule | hpaths | hsame
    · refine (evaluateRung_status_perm hperm (fun target _ target' _ => ?_)).symm
      rw [rungSubjects_imposed_none hrule, rungSubjects_imposed_none hrule]
    · refine (evaluateRung_status_perm hperm (fun target htarget target' htarget' => ?_)).symm
      by_cases hrule : rung.subjectRule = .eachPathInterface
      · rw [rungSubjects_path hrule, rungSubjects_path hrule]
        simp only [pathAggregation, ne_eq, hpaths target htarget target' htarget']
      · rw [rungSubjects_imposed_none hrule, rungSubjects_imposed_none hrule]
    · have hpooled : ∀ status, status ∈ pooledStatuses rung devices' subject evidenceFor
          originPrefix ↔ status ∈ pooledStatuses rung devices subject evidenceFor originPrefix :=
        fun status => (hperm.flatMap_right _).symm.mem_iff
      rw [evaluateRung_pooled, evaluateRung_pooled, combine_congr hpooled]
      exact combine_rules hsame _ _

lemma aggregate_raise (rung : Rung) (aggregation : Option Aggregation)
    {before after : List CheckResult} {low high : CheckResult} (hlow : low.status = .broken)
    (hhigh : high.status = .healthy)
    (h : (aggregate rung (before ++ low :: after) aggregation).status = .healthy) :
    (aggregate rung (before ++ high :: after) aggregation).status = .healthy := by
  rw [aggregate_status, List.map_append, List.map_cons] at h ⊢
  rw [hlow] at h
  rw [hhigh]
  cases hrule : inForce rung aggregation with
  | anyHealthy =>
    rw [hrule] at h
    exact Verdicts.dominant_raise (by decide) (by decide) h
  | allHealthy =>
    -- With all required, a broken member leaves nothing to keep.
    rw [hrule, combine, Verdicts.dominant_eq_weak_iff (by decide) (by decide)] at h
    exact absurd (by simp) h.2.2

end Rungs

/-- The devices of a rung may be visited in any order exactly when there is one rule; the rows of
its tables may be listed in any order exactly when the slots of its members are settled; an unread
member leaves a rung unevaluated; and a member that recovers breaks no rung. -/
theorem rung_verdict_order_iff (rung : Rung) (devices : List String) (subject : String)
    (originPrefix : Option String) (evidenceFor : String → Evidence) :
    ((∀ devices', devices.Perm devices' →
        (evaluateRung rung devices' subject evidenceFor originPrefix).status =
          (evaluateRung rung devices subject evidenceFor originPrefix).status) ↔
      OneRule rung devices subject evidenceFor originPrefix) ∧
    (∀ flow ∈ flows, rung ∈ flow.descent →
      ((∀ evidenceFor' : String → Evidence,
          (∀ target ∈ devices, (evidenceFor target).Reordered (evidenceFor' target)) →
          (evaluateRung rung devices subject evidenceFor' originPrefix).status =
            (evaluateRung rung devices subject evidenceFor originPrefix).status) ↔
        SettledUnder
          (inForce rung (imposedAggregation rung subject evidenceFor originPrefix devices))
          (devices.flatMap (fun target => slots rung subject (evidenceFor target) originPrefix)))) ∧
    (∀ target ∈ devices, ∀ object ∈ (rungSubjects rung subject (evidenceFor target) originPrefix).1,
      (rung.check (evidenceFor target) object).status = .unevaluated →
      (evaluateRung rung devices subject evidenceFor originPrefix).status = .unevaluated) ∧
    ∀ (aggregation : Option Aggregation) (before after : List CheckResult) (low high : CheckResult),
      low.status = .broken → high.status = .healthy →
      (aggregate rung (before ++ low :: after) aggregation).status = .healthy →
      (aggregate rung (before ++ high :: after) aggregation).status = .healthy := by
  refine ⟨?_, ?_, ?_, ?_⟩
  · exact evaluateRung_perm_iff rung devices subject originPrefix evidenceFor
  · intro flow hflow hrung
    exact evaluateRung_reordered_iff (flows_offers flow hflow rung hrung) devices
  · intro target htarget object hobject hstatus
    rw [evaluateRung_unevaluated_iff rung subject evidenceFor originPrefix
      (List.ne_nil_of_mem htarget)]
    exact ⟨target, htarget, Or.inr ⟨object, hobject, hstatus⟩⟩
  · intro aggregation before after low high hlow hhigh h
    exact aggregate_raise rung aggregation hlow hhigh h

def twoAdjacencies (first second : Record) : Evidence :=
  sectionsOf "PE3" [("isis", parsedSection {} [first, second])]

def adjacency (name state : String) : Record := { interface := some name, state := some state }

lemma twoAdjacencies_reordered (first second : Record) :
    (twoAdjacencies first second).Reordered (twoAdjacencies second first) := by
  intro key
  unfold twoAdjacencies sectionsOf
  by_cases hkey : key = "isis"
  · subst hkey
    exact Option.Rel.some ⟨rfl, rfl, List.Perm.swap _ _ _⟩
  · have hne : (key == "isis") = false := beq_eq_false_iff_ne.mpr hkey
    simp only [List.lookup, hne]
    exact Option.Rel.none

/-- `PE1` has a path back to the origin that is up, `PE2` has none and a port that is down. -/
def mixedPaths (target : String) : Evidence :=
  if target = "PE1" then
    sectionsOf "PE1"
      [("interfaces", parsedSection {} [upInterface "Gi0/0/0/0"]),
      ("route:10.255.0.31/32",
        parsedSection { found := true } [{ interface := some "GigabitEthernet0/0/0/0" }])]
  else
    sectionsOf "PE2"
      [("interfaces", parsedSection {}
        [{ interface := some "Gi0/0/0/1", adminState := some "up",
            lineProtocol := some "down" }])]

/-- Rows that disagree about one interface, and devices that are asked different questions, are
seen in their order. -/
theorem rung_verdict_sees_order :
    (evaluateRung isisAdjacencyRung ["PE3"] "Gi0/0/0/0" (fun _ => twoAdjacencies
        (adjacency "Gi0/0/0/0" "Up") (adjacency "Gi0/0/0/0" "Init")) none).status = .healthy ∧
      (evaluateRung isisAdjacencyRung ["PE3"] "Gi0/0/0/0" (fun _ => twoAdjacencies
        (adjacency "Gi0/0/0/0" "Init") (adjacency "Gi0/0/0/0" "Up")) none).status = .broken ∧
      (evaluateRung pathInterfaceRung ["PE2", "PE1"] "10.255.0.12" mixedPaths
        (some "10.255.0.31/32")).status = .healthy ∧
      (evaluateRung pathInterfaceRung ["PE1", "PE2"] "10.255.0.12" mixedPaths
        (some "10.255.0.31/32")).status = .broken := by
  decide +kernel

/-- Two devices without a path, two rows of two interfaces, an unread device, a member that
recovers. -/
theorem rung_verdict_order_pe3 :
    (evaluateRung pathInterfaceRung ["PE2", "PE4"] "10.255.0.12" mixedPaths
          (some "10.255.0.31/32")).status =
        (evaluateRung pathInterfaceRung ["PE4", "PE2"] "10.255.0.12" mixedPaths
          (some "10.255.0.31/32")).status ∧
      (evaluateRung isisAdjacencyRung ["PE3"] "Gi0/0/0/0" (fun _ => twoAdjacencies
          (adjacency "Gi0/0/0/1" "Init") (adjacency "Gi0/0/0/0" "Up")) none).status =
        (evaluateRung isisAdjacencyRung ["PE3"] "Gi0/0/0/0" (fun _ => twoAdjacencies
          (adjacency "Gi0/0/0/0" "Up") (adjacency "Gi0/0/0/1" "Init")) none).status ∧
      (evaluateRung igpAdjacencyRung ["PE1"] "10.255.0.12" mixedPaths none).status =
        .unevaluated ∧
      (aggregate pathInterfaceRung
        ([healthy none ["PE1:interfaces"] "up"] ++ healthy none ["PE1:interfaces"] "up" :: [])
        none).status = .healthy := by
  refine ⟨?_, ?_, ?_, ?_⟩
  · exact (rung_verdict_order_iff pathInterfaceRung ["PE4", "PE2"] "10.255.0.12"
      (some "10.255.0.31/32") mixedPaths).1.mpr (.inr (.inl (by decide +kernel))) ["PE2", "PE4"]
      (List.Perm.swap _ _ _)
  · have hrows := (rung_verdict_order_iff isisAdjacencyRung ["PE3"] "Gi0/0/0/0" none
      (fun _ => twoAdjacencies (adjacency "Gi0/0/0/0" "Up") (adjacency "Gi0/0/0/1" "Init"))).2.1
      isisAdjacencyFlow (by simp [flows]) List.mem_cons_self
    refine hrows.mpr ?_ _ (fun _ _ => twoAdjacencies_reordered _ _)
    have hslots : (["PE3"].flatMap (fun _ => slots isisAdjacencyRung "Gi0/0/0/0" (twoAdjacencies
        (adjacency "Gi0/0/0/0" "Up") (adjacency "Gi0/0/0/1" "Init")) none)) = [[.healthy]] := by
      decide +kernel
    rw [hslots]
    exact .inr (by decide)
  · exact (rung_verdict_order_iff igpAdjacencyRung ["PE1"] "10.255.0.12" none mixedPaths).2.2.1
      "PE1" List.mem_cons_self none List.mem_cons_self rfl
  · exact (rung_verdict_order_iff pathInterfaceRung [] "10.255.0.12" none mixedPaths).2.2.2 none
      [healthy none ["PE1:interfaces"] "up"] []
      (broken none ["PE1:interfaces"] "down") (healthy none ["PE1:interfaces"] "up") rfl rfl
      (by decide)

end NetTools
