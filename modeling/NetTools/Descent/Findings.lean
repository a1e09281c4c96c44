import NetTools.Descent.Walk

/-!
# What a descent means

The outcomes of `run_descent` are the verdicts of the ladder down to the first unread rung,
and its finding is a classification of them.
-/

namespace NetTools

open ListSearch

def isUnread (outcome : RungOutcome) : Bool := outcome.status == .unevaluated

lemma isUnread_iff {outcome : RungOutcome} :
    isUnread outcome = true ↔ outcome.status = .unevaluated := beq_iff_eq

section Walk

variable (collector : Collector) (resolver : Option Resolver) (originPrefix : Option String)
  (device subject : String)

lemma rungOutcome_rung (rung : Rung) :
    (rungOutcome collector resolver originPrefix device subject rung).rung = rung.name := by
  unfold rungOutcome
  split <;> rfl

theorem walkRungs_outcomes (rungs : List Rung) (walk : Walk) :
    (walkRungs collector resolver originPrefix device subject rungs walk).outcomes =
      walk.outcomes ++ takeThrough isUnread
        (rungs.map (rungOutcome collector resolver originPrefix device subject)) := by
  induction rungs generalizing walk with
  | nil => exact (List.append_nil _).symm
  | cons rung rungs ih =>
    rw [List.map_cons, walkRungs]
    cases hdevices : resolveDevices rung device subject resolver with
    | error message =>
      have hunread : isUnread (rungOutcome collector resolver originPrefix device subject rung) :=
        by simp [rungOutcome, hdevices, isUnread, RungOutcome.status]
      rw [takeThrough_cons_of_pos hunread, rungOutcome, hdevices]
    | ok devices =>
      have houtcome : rungOutcome collector resolver originPrefix device subject rung =
          ⟨rung.name, String.intercalate ", " devices, evaluateRung rung devices subject
            (fun target => collector target rung subject) originPrefix⟩ := by
        rw [rungOutcome, hdevices]
      dsimp only
      by_cases hu : (evaluateRung rung devices subject
          (fun target => collector target rung subject) originPrefix).status = .unevaluated
      · have hunread : isUnread (rungOutcome collector resolver originPrefix device subject rung) :=
          by rw [houtcome, isUnread_iff]; exact hu
        rw [if_pos hu, takeThrough_cons_of_pos hunread, houtcome]
      · have hread : isUnread (rungOutcome collector resolver originPrefix device subject rung) =
            false := by
          rw [Bool.eq_false_iff, ne_eq, isUnread_iff, houtcome]
          exact hu
        rw [if_neg hu, ih, takeThrough_cons_of_neg hread, houtcome, List.append_assoc]
        rfl

theorem runDescent_outcomes (flow : Flow) (coherence : Option (List RungOutcome → Coherence)) :
    (runDescent collector resolver originPrefix device subject flow coherence).outcomes =
      takeThrough isUnread
        (flow.descent.map (rungOutcome collector resolver originPrefix device subject)) :=
  walkRungs_outcomes collector resolver originPrefix device subject flow.descent {}

lemma runDescent_rungs_initial (flow : Flow) (coherence : Option (List RungOutcome → Coherence)) :
    (runDescent collector resolver originPrefix device subject flow coherence).outcomes.map
      RungOutcome.rung <+: flow.descent.map Rung.name := by
  rw [runDescent_outcomes]
  have h := (takeThrough_initial isUnread
    (flow.descent.map (rungOutcome collector resolver originPrefix device subject))).map
    RungOutcome.rung
  simpa [Function.comp_def, rungOutcome_rung] using h

lemma runDescent_length_of_read (flow : Flow)
    (coherence : Option (List RungOutcome → Coherence))
    (hread : ∀ outcome ∈ (runDescent collector resolver originPrefix device subject flow
      coherence).outcomes, outcome.status ≠ .unevaluated) :
    (runDescent collector resolver originPrefix device subject flow coherence).outcomes.length =
      flow.descent.length := by
  rw [runDescent_outcomes] at hread ⊢
  rw [takeThrough_eq_self]
  · exact List.length_map _
  · intro outcome houtcome
    rw [Bool.eq_false_iff, ne_eq, isUnread_iff]
    exact hread outcome houtcome

end Walk

section Lowest

lemma mem_brokenOutcomes {outcomes : List RungOutcome} {outcome : RungOutcome} :
    outcome ∈ brokenOutcomes outcomes ↔ outcome ∈ outcomes ∧ outcome.status = .broken := by
  simp [brokenOutcomes]

lemma exists_split_of_lowest {outcomes : List RungOutcome} {lowest : RungOutcome}
    (h : (brokenOutcomes outcomes).getLast? = some lowest) :
    ∃ above below, outcomes = above ++ lowest :: below ∧ lowest.status = .broken ∧
      ∀ outcome ∈ below, outcome.status ≠ .broken := by
  obtain ⟨above, below, hsplit, hlowest, hbelow⟩ := exists_split_of_getLast?_filter h
  refine ⟨above, below, hsplit, beq_iff_eq.mp hlowest, ?_⟩
  intro outcome houtcome hbroken
  have := hbelow outcome houtcome
  rw [hbroken] at this
  cases this

variable {above below : List RungOutcome} {lowest : RungOutcome}

lemma brokenOutcomes_split (hlowest : lowest.status = .broken)
    (hbelow : ∀ outcome ∈ below, outcome.status ≠ .broken) :
    brokenOutcomes (above ++ lowest :: below) = brokenOutcomes above ++ [lowest] := by
  have hnil : brokenOutcomes below = [] := by
    rw [List.eq_nil_iff_forall_not_mem]
    intro outcome hmem
    rw [mem_brokenOutcomes] at hmem
    exact hbelow outcome hmem.1 hmem.2
  unfold brokenOutcomes at hnil ⊢
  rw [List.filter_append, List.filter_cons_of_pos (by simp [hlowest]), hnil]

lemma cause_and_chain_of_split {result : DescentResult}
    (hsplit : result.outcomes = above ++ lowest :: below) (hlowest : lowest.status = .broken)
    (hbelow : ∀ outcome ∈ below, outcome.status ≠ .broken) :
    result.cause = some lowest ∧ result.causalChain = brokenOutcomes above := by
  have hbroken : brokenOutcomes result.outcomes = brokenOutcomes above ++ [lowest] := by
    rw [hsplit, brokenOutcomes_split hlowest hbelow]
  refine ⟨?_, ?_⟩
  · rw [DescentResult.cause, hbroken, List.getLast?_concat]
  · unfold DescentResult.causalChain
    rw [hbroken]
    by_cases hnil : brokenOutcomes above = []
    · simp [hnil]
    · have : 1 < (brokenOutcomes above ++ [lowest]).length := by
        rw [List.length_append, List.length_singleton]
        have := List.length_pos_of_ne_nil hnil
        omega
      dsimp only
      rw [if_pos this, List.dropLast_concat]

lemma idxOf_of_split (hnames : ((above ++ lowest :: below).map RungOutcome.rung).Nodup) :
    (above ++ lowest :: below).idxOf lowest = above.length := by
  have hnotmem : lowest ∉ above := by
    intro hmem
    rw [List.map_append, List.map_cons, List.nodup_append] at hnames
    exact hnames.2.2 lowest.rung (List.mem_map_of_mem hmem) lowest.rung List.mem_cons_self rfl
  rw [List.idxOf_append_of_notMem hnotmem, List.idxOf_cons_self, Nat.add_zero]

end Lowest

def OnlyTopBroken : List Status → Prop
  | [] => False
  | top :: rest => top = .broken ∧ .broken ∉ rest

instance : DecidablePred OnlyTopBroken
  | [] => .isFalse id
  | top :: rest => inferInstanceAs (Decidable (top = .broken ∧ .broken ∉ rest))

def universalFinding (flow : Flow) (refused : Bool) (statuses : List Status) : Option String :=
  if .unevaluated ∈ statuses then some UNDETERMINED
  else if refused then some TEMPORALLY_INCOHERENT
  else if .broken ∉ statuses then some ALL_LAYERS_HEALTHY
  else if statuses.head? = some .healthy then some NO_FAULT_ON_PATH
  else if OnlyTopBroken statuses ∧ 1 < flow.descent.length then some CAUSE_NOT_LOCALISED
  else none

def lowestBrokenIndex (statuses : List Status) : Nat :=
  statuses.length - 1 - statuses.reverse.idxOf .broken

def findingOf (flow : Flow) (refused : Bool) (statuses : List Status) : String :=
  match universalFinding flow refused statuses with
  | some finding => finding
  | none =>
    match flow.descent[lowestBrokenIndex statuses]? with
    | some rung => rung.finding
    | none => ""

section FindingOf

variable {flow : Flow} {refused : Bool} {statuses : List Status}

lemma universalFinding_mem {finding : String}
    (h : universalFinding flow refused statuses = some finding) :
    finding ∈ universalFindings := by
  unfold universalFinding at h
  repeat' split at h
  all_goals cases h
  all_goals decide

lemma conditions_of_none (h : universalFinding flow refused statuses = none) :
    .unevaluated ∉ statuses ∧ refused = false ∧ .broken ∈ statuses ∧
      statuses.head? ≠ some .healthy ∧
      ¬(OnlyTopBroken statuses ∧ 1 < flow.descent.length) := by
  unfold universalFinding at h
  by_cases hu : .unevaluated ∈ statuses
  · rw [if_pos hu] at h
    cases h
  rw [if_neg hu] at h
  by_cases hr : refused = true
  · rw [if_pos hr] at h
    cases h
  rw [if_neg hr] at h
  by_cases hb : .broken ∉ statuses
  · rw [if_pos hb] at h
    cases h
  rw [if_neg hb] at h
  by_cases ht : statuses.head? = some .healthy
  · rw [if_pos ht] at h
    cases h
  rw [if_neg ht] at h
  by_cases hc : OnlyTopBroken statuses ∧ 1 < flow.descent.length
  · rw [if_pos hc] at h
    cases h
  exact ⟨hu, Bool.eq_false_iff.mpr hr, not_not.mp hb, ht, hc⟩

lemma findingOf_of_universal {finding : String}
    (h : universalFinding flow refused statuses = some finding) :
    findingOf flow refused statuses = finding := by
  unfold findingOf
  rw [h]

lemma findingOf_of_localised {rung : Rung}
    (h : universalFinding flow refused statuses = none)
    (hrung : flow.descent[lowestBrokenIndex statuses]? = some rung) :
    findingOf flow refused statuses = rung.finding := by
  unfold findingOf
  rw [h]
  dsimp only
  rw [hrung]

lemma lowestBrokenIndex_of_split {above below : List Status} (hbelow : .broken ∉ below) :
    lowestBrokenIndex (above ++ .broken :: below) = above.length := by
  have hnot : .broken ∉ below.reverse := fun h => hbelow (List.mem_reverse.mp h)
  unfold lowestBrokenIndex
  rw [List.reverse_append, List.reverse_cons, List.append_assoc,
    List.idxOf_append_of_notMem hnot, List.singleton_append, List.idxOf_cons_self,
    List.length_append, List.length_cons, List.length_reverse]
  omega

lemma onlyTopBroken_of_split {above below : List Status} (hbelow : .broken ∉ below) :
    OnlyTopBroken (above ++ .broken :: below) ↔ above.length = 0 := by
  cases above with
  | nil => exact ⟨fun _ => rfl, fun _ => ⟨rfl, hbelow⟩⟩
  | cons top above =>
    constructor
    · rintro ⟨-, hrest⟩
      exact absurd (by simp) hrest
    · intro h
      cases h

lemma findingOf_eq_iff (hrungs : ∀ rung ∈ flow.descent, rung.finding ∉ universalFindings)
    {finding : String} (hmem : finding ∈ universalFindings) :
    findingOf flow refused statuses = finding ↔
      universalFinding flow refused statuses = some finding := by
  constructor
  · intro heq
    cases huni : universalFinding flow refused statuses with
    | some finding' => rw [← findingOf_of_universal huni, heq]
    | none =>
      unfold findingOf at heq
      rw [huni] at heq
      dsimp only at heq
      cases hrung : flow.descent[lowestBrokenIndex statuses]? with
      | none =>
        rw [hrung] at heq
        rw [← heq] at hmem
        exact absurd hmem (by decide)
      | some rung =>
        rw [hrung] at heq
        rw [← heq] at hmem
        exact absurd hmem (hrungs rung (List.mem_of_getElem? hrung))
  · exact findingOf_of_universal

section Universal

variable (hrungs : ∀ rung ∈ flow.descent, rung.finding ∉ universalFindings)
include hrungs

lemma findingOf_eq_undetermined_iff :
    findingOf flow refused statuses = UNDETERMINED ↔ .unevaluated ∈ statuses := by
  rw [findingOf_eq_iff hrungs (by decide)]
  unfold universalFinding
  by_cases hu : .unevaluated ∈ statuses
  · simp [hu]
  · rw [if_neg hu]
    repeat' split
    all_goals simp [hu, UNDETERMINED, TEMPORALLY_INCOHERENT, ALL_LAYERS_HEALTHY,
      NO_FAULT_ON_PATH, CAUSE_NOT_LOCALISED]

lemma findingOf_eq_incoherent_iff :
    findingOf flow refused statuses = TEMPORALLY_INCOHERENT ↔
      .unevaluated ∉ statuses ∧ refused = true := by
  rw [findingOf_eq_iff hrungs (by decide)]
  unfold universalFinding
  by_cases hu : .unevaluated ∈ statuses
  · simp [hu, UNDETERMINED, TEMPORALLY_INCOHERENT]
  · rw [if_neg hu]
    by_cases hr : refused = true
    · simp [hu, hr]
    · rw [if_neg hr]
      repeat' split
      all_goals simp [hr, TEMPORALLY_INCOHERENT, ALL_LAYERS_HEALTHY, NO_FAULT_ON_PATH,
        CAUSE_NOT_LOCALISED]

end Universal

lemma findingOf_of_all_healthy (hu : .unevaluated ∉ statuses) (hb : .broken ∉ statuses) :
    findingOf flow false statuses = ALL_LAYERS_HEALTHY := by
  apply findingOf_of_universal
  unfold universalFinding
  rw [if_neg hu, if_neg Bool.false_ne_true, if_pos hb]

lemma findingOf_of_healthy_top (hu : .unevaluated ∉ statuses) (hb : .broken ∈ statuses)
    (ht : statuses.head? = some .healthy) :
    findingOf flow false statuses = NO_FAULT_ON_PATH := by
  apply findingOf_of_universal
  unfold universalFinding
  rw [if_neg hu, if_neg Bool.false_ne_true, if_neg (not_not.mpr hb), if_pos ht]

lemma exists_split_of_broken (hb : .broken ∈ statuses) :
    ∃ above below, statuses = above ++ .broken :: below ∧ .broken ∉ below := by
  obtain ⟨front, back, hsplit, hfront⟩ :=
    List.eq_append_cons_of_mem (List.mem_reverse.mpr hb)
  refine ⟨back.reverse, front.reverse, ?_, fun h => hfront (List.mem_reverse.mp h)⟩
  have := congrArg List.reverse hsplit
  simpa using this

end FindingOf

section FindingFor

variable {flow : Flow} {outcomes : List RungOutcome} {coherence : Option Coherence}

lemma statuses_of_split {above below : List RungOutcome} {lowest : RungOutcome}
    (hlowest : lowest.status = .broken) :
    (above ++ lowest :: below).map RungOutcome.status =
      above.map RungOutcome.status ++ .broken :: below.map RungOutcome.status := by
  rw [List.map_append, List.map_cons, hlowest]

lemma broken_notMem_map {below : List RungOutcome}
    (hbelow : ∀ outcome ∈ below, outcome.status ≠ .broken) :
    .broken ∉ below.map RungOutcome.status := by
  intro h
  obtain ⟨outcome, hmem, hs⟩ := List.mem_map.mp h
  exact hbelow outcome hmem hs

theorem findingFor_eq (hdistinct : (outcomes.map RungOutcome.rung).Nodup)
    (hlength : (∀ outcome ∈ outcomes, outcome.status ≠ .unevaluated) →
      outcomes.length = flow.descent.length) :
    findingFor flow outcomes coherence =
      findingOf flow (coherence.any Coherence.refuses) (outcomes.map RungOutcome.status) := by
  have hany : outcomes.any (fun outcome => outcome.status == .unevaluated) = true ↔
      .unevaluated ∈ outcomes.map RungOutcome.status := by
    simp
  have hhead : outcomes.head?.any (fun outcome => outcome.status == .healthy) = true ↔
      (outcomes.map RungOutcome.status).head? = some .healthy := by
    cases outcomes <;> simp
  unfold findingFor findingOf universalFinding
  by_cases hu : .unevaluated ∈ outcomes.map RungOutcome.status
  · rw [if_pos hu, if_pos (hany.mpr hu)]
  rw [if_neg hu, if_neg (fun h => hu (hany.mp h))]
  by_cases hr : coherence.any Coherence.refuses = true
  · rw [if_pos hr, if_pos hr]
  rw [if_neg hr, if_neg hr]
  cases hlow : (brokenOutcomes outcomes).getLast? with
  | none =>
    have hb : .broken ∉ outcomes.map RungOutcome.status := by
      intro h
      obtain ⟨outcome, hmem, hs⟩ := List.mem_map.mp h
      rw [List.getLast?_eq_none_iff] at hlow
      exact List.ne_nil_of_mem (mem_brokenOutcomes.mpr ⟨hmem, hs⟩) hlow
    rw [if_pos hb]
  | some lowest =>
    obtain ⟨above, below, hsplit, hlowest, hbelow⟩ := exists_split_of_lowest hlow
    have hstatuses : outcomes.map RungOutcome.status =
        above.map RungOutcome.status ++ .broken :: below.map RungOutcome.status := by
      rw [hsplit, statuses_of_split hlowest]
    have hb : ¬.broken ∉ outcomes.map RungOutcome.status := by
      rw [hstatuses, not_not]
      simp
    have hindex : outcomes.idxOf lowest = above.length := by
      rw [hsplit] at hdistinct ⊢
      exact idxOf_of_split hdistinct
    have htop : OnlyTopBroken (outcomes.map RungOutcome.status) ↔ above.length = 0 := by
      rw [hstatuses, onlyTopBroken_of_split (broken_notMem_map hbelow), List.length_map]
    have hread : outcomes.length = flow.descent.length :=
      hlength (fun outcome hmem hs => hu (List.mem_map.mpr ⟨outcome, hmem, hs⟩))
    have hlowestIndex : lowestBrokenIndex (outcomes.map RungOutcome.status) = above.length := by
      rw [hstatuses, lowestBrokenIndex_of_split (broken_notMem_map hbelow), List.length_map]
    rw [if_neg hb]
    dsimp only
    by_cases ht : (outcomes.map RungOutcome.status).head? = some .healthy
    · rw [if_pos ht, if_pos (hhead.mpr ht)]
    rw [if_neg ht, if_neg (fun h => ht (hhead.mp h)), hindex, hread]
    simp only [htop]
    by_cases hc : above.length = 0 ∧ 1 < flow.descent.length
    · rw [if_pos hc, if_pos hc]
    · rw [if_neg hc, if_neg hc]
      dsimp only
      cases hrung : flow.descent[above.length]? with
      | none => simp only [hlowestIndex, hrung]
      | some rung => simp only [hlowestIndex, hrung]

end FindingFor

def refusedBy (coherence : Option (List RungOutcome → Coherence)) (outcomes : List RungOutcome) :
    Bool :=
  (coherence.map (fun reread => reread outcomes)).any Coherence.refuses

/-- The finding is the one that the lowest broken rung declares, that rung is the cause, and
the other broken rungs are the chain that leads to it from the broken top. -/
structure LowestBroken (flow : Flow) (result : DescentResult) : Prop where
  lowest : ∃ above cause below rung, result.outcomes = above ++ cause :: below ∧
    flow.descent[above.length]? = some rung ∧ cause.rung = rung.name ∧
    cause.status = .broken ∧ (∀ outcome ∈ below, outcome.status = .healthy) ∧
    result.finding = rung.finding ∧ result.cause = some cause ∧
    result.causalChain = brokenOutcomes above
  top : result.outcomes.head?.map RungOutcome.status = some .broken

/-- The meaning of a descent of `flow` whose rungs, each on its own, give `verdicts`. -/
structure DescentMeaning (flow : Flow) (verdicts : List RungOutcome)
    (coherence : Option (List RungOutcome → Coherence)) (result : DescentResult) : Prop where
  outcomes : result.outcomes = takeThrough isUnread verdicts
  answered : result.coherence = coherence.map (fun reread => reread result.outcomes)
  universal : ∀ finding,
    universalFinding flow (refusedBy coherence result.outcomes)
      (result.outcomes.map RungOutcome.status) = some finding → result.finding = finding
  localised : universalFinding flow (refusedBy coherence result.outcomes)
    (result.outcomes.map RungOutcome.status) = none → LowestBroken flow result
  classified : (∀ rung ∈ flow.descent, rung.finding ∉ universalFindings) →
    ∀ finding ∈ universalFindings, (result.finding = finding ↔
      universalFinding flow (refusedBy coherence result.outcomes)
        (result.outcomes.map RungOutcome.status) = some finding)
  rungFinding : result.finding ∉ universalFindings →
    result.outcomes.head?.map RungOutcome.status = some .broken ∧
      ∀ outcome ∈ result.outcomes, outcome.status ≠ .unevaluated
  declared : flow ∈ flows → result.finding ∈ flow.findings

section RunDescent

variable (collector : Collector) (resolver : Option Resolver) (originPrefix : Option String)
  (device subject : String) {flow : Flow} (hnames : (flow.descent.map Rung.name).Nodup)
  (coherence : Option (List RungOutcome → Coherence))
include hnames

theorem runDescent_finding :
    (runDescent collector resolver originPrefix device subject flow coherence).finding =
      findingOf flow
        (refusedBy coherence
          (runDescent collector resolver originPrefix device subject flow coherence).outcomes)
        ((runDescent collector resolver originPrefix device subject flow coherence).outcomes.map
          RungOutcome.status) :=
  findingFor_eq
    (hnames.sublist (runDescent_rungs_initial collector resolver originPrefix device subject flow
      coherence).sublist)
    (runDescent_length_of_read collector resolver originPrefix device subject flow coherence)

theorem runDescent_of_unread
    (h : .unevaluated ∈ (flow.descent.map
      (rungOutcome collector resolver originPrefix device subject)).map RungOutcome.status) :
    (runDescent collector resolver originPrefix device subject flow coherence).finding =
      UNDETERMINED := by
  obtain ⟨outcome, hmem, hs⟩ := List.mem_map.mp h
  obtain ⟨stop, hstop, hunread⟩ := exists_mem_takeThrough hmem (isUnread_iff.mpr hs)
  rw [runDescent_finding collector resolver originPrefix device subject hnames coherence,
    runDescent_outcomes]
  apply findingOf_of_universal
  rw [universalFinding, if_pos]
  exact List.mem_map.mpr ⟨stop, hstop, isUnread_iff.mp hunread⟩

theorem runDescent_of_localised
    (h : universalFinding flow
      (refusedBy coherence
        (runDescent collector resolver originPrefix device subject flow coherence).outcomes)
      ((runDescent collector resolver originPrefix device subject flow coherence).outcomes.map
        RungOutcome.status) = none) :
    LowestBroken flow
      (runDescent collector resolver originPrefix device subject flow coherence) := by
  have hfinding := runDescent_finding collector resolver originPrefix device subject hnames
    coherence
  have hprefix := runDescent_rungs_initial collector resolver originPrefix device subject flow
    coherence
  have hlength := runDescent_length_of_read collector resolver originPrefix device subject flow
    coherence
  set result := runDescent collector resolver originPrefix device subject flow coherence
  obtain ⟨hu, -, hb, ht, -⟩ := conditions_of_none h
  have hread : ∀ outcome ∈ result.outcomes, outcome.status ≠ .unevaluated :=
    fun outcome hmem hs => hu (List.mem_map.mpr ⟨outcome, hmem, hs⟩)
  obtain ⟨lowest, hlow⟩ : ∃ lowest, (brokenOutcomes result.outcomes).getLast? = some lowest := by
    obtain ⟨outcome, hmem, hs⟩ := List.mem_map.mp hb
    exact Option.isSome_iff_exists.mp (List.getLast?_isSome.mpr
      (List.ne_nil_of_mem (mem_brokenOutcomes.mpr ⟨hmem, hs⟩)))
  obtain ⟨above, below, hsplit, hlowest, hbelow⟩ := exists_split_of_lowest hlow
  have hlt : above.length < flow.descent.length := by
    rw [← hlength hread, hsplit, List.length_append, List.length_cons]
    omega
  have hrung : flow.descent[above.length]? = some flow.descent[above.length] :=
    List.getElem?_eq_getElem hlt
  obtain ⟨hcause, hchain⟩ := cause_and_chain_of_split hsplit hlowest hbelow
  refine ⟨⟨above, lowest, below, flow.descent[above.length], hsplit, hrung, ?_, hlowest, ?_, ?_,
    hcause, hchain⟩, ?_⟩
  · -- The outcomes carry the names of the ladder, position by position.
    have hin : above.length < (result.outcomes.map RungOutcome.rung).length := by
      rw [List.length_map, hlength hread]
      exact hlt
    have hname := hprefix.getElem hin
    rw [List.getElem_map, List.getElem_map] at hname
    rw [← hname]
    simp [hsplit]
  · intro outcome hmem
    refine Status.eq_healthy_of_ne (hread outcome ?_) (hbelow outcome hmem)
    rw [hsplit]
    exact List.mem_append_right _ (List.mem_cons_of_mem _ hmem)
  · rw [hfinding]
    refine findingOf_of_localised h ?_
    rw [hsplit, statuses_of_split hlowest, lowestBrokenIndex_of_split (broken_notMem_map hbelow),
      List.length_map]
    exact hrung
  · -- Something is broken, so there is a top, and it is neither unread nor healthy.
    cases htop : result.outcomes with
    | nil =>
      rw [htop] at hb
      cases hb
    | cons top rest =>
      rw [htop] at ht
      have hne : top.status ≠ .unevaluated := hread top (by rw [htop]; exact List.mem_cons_self)
      cases hs : top.status with
      | healthy => exact absurd (by simp [hs]) ht
      | broken => simp [hs]
      | unevaluated => exact absurd hs hne

end RunDescent

/-- `run_descent` means what `DescentMeaning` says. -/
theorem runDescent_meaning (flow : Flow) (hnames : (flow.descent.map Rung.name).Nodup)
    (collector : Collector) (resolver : Option Resolver) (originPrefix : Option String)
    (device subject : String) (coherence : Option (List RungOutcome → Coherence)) :
    DescentMeaning flow
      (flow.descent.map (rungOutcome collector resolver originPrefix device subject)) coherence
      (runDescent collector resolver originPrefix device subject flow coherence) := by
  have hfinding := runDescent_finding collector resolver originPrefix device subject hnames
    coherence
  have hlocalised := runDescent_of_localised collector resolver originPrefix device subject hnames
    coherence
  have houtcomes := runDescent_outcomes collector resolver originPrefix device subject flow
    coherence
  set result := runDescent collector resolver originPrefix device subject flow coherence with hrun
  refine ⟨houtcomes, rfl, ?_, hlocalised, ?_, ?_, ?_⟩
  · intro finding h
    rw [hfinding]
    exact findingOf_of_universal h
  · intro hrungs finding hmem
    rw [hfinding]
    exact findingOf_eq_iff hrungs hmem
  · intro hnot
    cases huni : universalFinding flow (refusedBy coherence result.outcomes)
        (result.outcomes.map RungOutcome.status) with
    | some finding =>
      rw [hfinding, findingOf_of_universal huni] at hnot
      exact absurd (universalFinding_mem huni) hnot
    | none =>
      refine ⟨(hlocalised huni).top, ?_⟩
      intro outcome hmem hs
      exact (conditions_of_none huni).1 (List.mem_map.mpr ⟨outcome, hmem, hs⟩)
  · intro hflow
    cases huni : universalFinding flow (refusedBy coherence result.outcomes)
        (result.outcomes.map RungOutcome.status) with
    | some finding =>
      rw [hfinding, findingOf_of_universal huni]
      exact flows_universalFindings_subset flow hflow (universalFinding_mem huni)
    | none =>
      obtain ⟨above, cause, below, rung, -, hrung, -, -, -, hdeclared, -⟩ :=
        (hlocalised huni).lowest
      rw [hdeclared]
      exact flow.declared rung (List.mem_of_getElem? hrung)

def sectionsOf (device : String) (sections : List (String × Section)) : Evidence :=
  ⟨device, fun key => sections.lookup key⟩

def parsedSection (fields : Meta) (records : List Record) : Section :=
  { parsed := some { fields, records }, parseStatus := some PARSE_OK }

def upInterface (name : String) : Record :=
  { interface := some name, adminState := some "up", lineProtocol := some "up" }

/-- A session that is down between `RR1` and `PE2`, whose path back is up while another port of
`PE2` is shut. -/
def shutSpareCollector : Collector := fun target _ _ =>
  if target = "RR1" then
    sectionsOf "RR1"
      [("bgp", parsedSection {}
        [{ neighbor := some "10.255.0.12", sessionState := some "Idle" }]),
      ("bgp_neighbor:10.255.0.12",
        parsedSection { found := true, socketArmedRead := some false } []),
      ("route:10.255.0.12/32", parsedSection { found := true } [])]
  else
    sectionsOf "PE2"
      [("isis", parsedSection {} [{ interface := some "Gi0/0/0/0", state := some "Up" }]),
      ("interfaces", parsedSection {} [upInterface "Gi0/0/0/0",
        { interface := some "Gi0/0/0/1", adminState := some "admin-down",
          lineProtocol := some "admin-down" }]),
      ("route:10.255.0.31/32",
        parsedSection { found := true } [{ interface := some "GigabitEthernet0/0/0/0" }])]

/-- The descent from `RR1` over that fabric. -/
def shutSpareDescent (collector : Collector) : DescentResult :=
  runDescent collector (some (fun _ => .ok (.inl "PE2"))) (some "10.255.0.31/32") "RR1"
    "10.255.0.12" bgpSessionFlow none

/-- The session and its transport are broken, and what lies below them is healthy. -/
theorem runDescent_meaning_shutSpare :
    (shutSpareDescent shutSpareCollector).outcomes.map RungOutcome.status =
        [.broken, .broken, .healthy, .healthy, .healthy] ∧
      LowestBroken bgpSessionFlow (shutSpareDescent shutSpareCollector) ∧
      (shutSpareDescent shutSpareCollector).finding = "transport_blocked" := by
  have hmeaning := runDescent_meaning bgpSessionFlow
    (flows_names_nodup bgpSessionFlow List.mem_cons_self) shutSpareCollector
    (some (fun _ => .ok (.inl "PE2"))) (some "10.255.0.31/32") "RR1" "10.255.0.12" none
  exact ⟨by decide +kernel, hmeaning.localised (by decide +kernel), by decide +kernel⟩

def undeterminedFlow : Flow :=
  { objectType := "interface"
    descent := [{ interfaceRung with finding := UNDETERMINED }]
    findings := universalFindings
    declared := by decide }

/-- There every rung is read, and the finding is that of an unread rung. -/
theorem runDescent_undetermined_read :
    let result := runDescent (fun _ _ _ => sectionsOf "PE1" [("interfaces", parsedSection {}
      [{ interface := some "Gi0/0/0/0", adminState := some "up",
          lineProtocol := some "down" }])]) none none "PE1" "Gi0/0/0/0" undeterminedFlow none
    (undeterminedFlow.descent.map Rung.name).Nodup ∧ result.finding = UNDETERMINED ∧
      result.outcomes.map RungOutcome.status = [.broken] := by
  decide +kernel

end NetTools
