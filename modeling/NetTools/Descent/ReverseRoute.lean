import NetTools.Descent.CheckVerdicts
import NetTools.Descent.Findings

/-!
# The reverse route of a path rung

What becomes of the interface rung of a BGP session when the route back toward the origin
was not read.
-/

namespace NetTools

open ListSearch

/-- The route back toward the origin is missing from the evidence, or did not parse. -/
def RouteUnread (evidence : Evidence) (origin : String) : Prop :=
  ∀ sec, evidence.get ("route:" ++ origin) = some sec → sec.parseStatus ≠ some PARSE_OK

def judgedInterfaces (evidence : Evidence) (originPrefix : Option String) : List String :=
  if (pathInterfaces evidence originPrefix).1 ≠ [] then (pathInterfaces evidence originPrefix).1
  else physicalInterfaces evidence

def pathAggregation (evidence : Evidence) (originPrefix : Option String) : Aggregation :=
  if (pathInterfaces evidence originPrefix).1 ≠ [] then .anyHealthy else .allHealthy

lemma rungSubjects_path {rung : Rung} (hrule : rung.subjectRule = .eachPathInterface)
    (subject : String) (evidence : Evidence) (originPrefix : Option String) :
    rungSubjects rung subject evidence originPrefix =
      ((judgedInterfaces evidence originPrefix).map some,
        some (pathAggregation evidence originPrefix)) := by
  unfold rungSubjects judgedInterfaces pathAggregation
  rw [hrule]
  dsimp only
  split <;> rfl

def interfaceStatuses (evidence : Evidence) (originPrefix : Option String) : List Status :=
  if judgedInterfaces evidence originPrefix = [] then [.unevaluated]
  else (judgedInterfaces evidence originPrefix).map
    (fun name => (interfaceCheck evidence name).status)

/-- The verdict of the interface rung of a BGP session, from the statuses of the interfaces
it judges. -/
def interfaceRungVerdict (evidenceFor : String → Evidence) (originPrefix : Option String)
    (targets : List String) : Status :=
  combine
    (match targets.getLast? with
      | some target => pathAggregation (evidenceFor target) originPrefix
      | none => .anyHealthy)
    (targets.flatMap (fun target => interfaceStatuses (evidenceFor target) originPrefix))

theorem pathInterfaceRung_status (targets : List String) (subject : String)
    (evidenceFor : String → Evidence) (originPrefix : Option String) :
    (evaluateRung pathInterfaceRung targets subject evidenceFor originPrefix).status =
      interfaceRungVerdict evidenceFor originPrefix targets := by
  have hresults : ∀ target,
      (deviceResults pathInterfaceRung subject evidenceFor originPrefix target).map
        CheckResult.status = interfaceStatuses (evidenceFor target) originPrefix := by
    intro target
    unfold deviceResults interfaceStatuses
    rw [rungSubjects_path rfl]
    by_cases hnil : judgedInterfaces (evidenceFor target) originPrefix = []
    · simp [hnil]
    · simp [hnil, pathInterfaceRung, onName]
  have himposed : imposedAggregation pathInterfaceRung subject evidenceFor originPrefix targets =
      targets.getLast?.map (fun target => pathAggregation (evidenceFor target) originPrefix) := by
    unfold imposedAggregation
    rw [← List.getLast?_map]
    congr 1
    rw [List.filterMap_eq_map_iff_forall_eq_some]
    intro target _
    rw [rungSubjects_path rfl]
  rw [evaluateRung_status, interfaceRungVerdict, himposed, List.map_flatMap]
  simp only [hresults]
  cases targets.getLast? with
  | none => rfl
  | some target =>
    dsimp only [Option.map_some]
    congr 1
    unfold inForce pathAggregation
    split <;> rfl

section Ladder

variable (collector : Collector) (originPrefix : Option String) (device subject : String)
  (targets : List String)

/-- The statuses of the rungs of a BGP session whose subject is on the devices `targets`. -/
def bgpLadder : List Status :=
  [(bgpSessionState (collector device bgpSessionRung subject) subject).status,
    (bgpTransport (collector device transportRung subject) subject).status,
    (routePresent (collector device routeToPeerRung subject) (subject ++ "/32")).status,
    combine .allHealthy (targets.map (fun target =>
      (isisAdjacency (collector target igpAdjacencyRung subject) none).status)),
    interfaceRungVerdict (fun target => collector target pathInterfaceRung subject) originPrefix
      targets]

lemma igpAdjacencyRung_status (evidenceFor : String → Evidence) :
    (evaluateRung igpAdjacencyRung targets subject evidenceFor originPrefix).status =
      combine .allHealthy (targets.map (fun target =>
        (isisAdjacency (evidenceFor target) none).status)) := by
  have himposed : imposedAggregation igpAdjacencyRung subject evidenceFor originPrefix targets =
      none := by
    unfold imposedAggregation
    rw [List.getLast?_eq_none_iff, List.filterMap_eq_nil_iff]
    intro target _
    rfl
  have hresults : targets.flatMap (deviceResults igpAdjacencyRung subject evidenceFor
      originPrefix) = targets.map (fun target => isisAdjacency (evidenceFor target) none) := by
    rw [List.map_eq_flatMap]
    rfl
  rw [evaluateRung_status, himposed, hresults, List.map_map]
  rfl

theorem bgpSessionFlow_statuses {resolver : Option Resolver}
    (hresolve : resolveDevices pathInterfaceRung device subject resolver = .ok targets) :
    (bgpSessionFlow.descent.map
      (rungOutcome collector resolver originPrefix device subject)).map RungOutcome.status =
      bgpLadder collector originPrefix device subject targets := by
  have higp : resolveDevices igpAdjacencyRung device subject resolver = .ok targets := by
    cases resolver with
    | none => cases hresolve
    | some resolve => exact hresolve
  have h4 : (rungOutcome collector resolver originPrefix device subject
      igpAdjacencyRung).status = combine .allHealthy (targets.map (fun target =>
        (isisAdjacency (collector target igpAdjacencyRung subject) none).status)) := by
    rw [rungOutcome, higp]
    exact igpAdjacencyRung_status originPrefix subject targets _
  have h5 : (rungOutcome collector resolver originPrefix device subject
      pathInterfaceRung).status = interfaceRungVerdict
        (fun target => collector target pathInterfaceRung subject) originPrefix targets := by
    rw [rungOutcome, hresolve]
    exact pathInterfaceRung_status targets subject _ originPrefix
  unfold bgpSessionFlow bgpLadder
  rw [← h4, ← h5]
  rfl

end Ladder

section BottomRung

variable {four : List Status} {status status' : Status}

lemma findingOf_bottom_broken (hlength : four.length = 4)
    (hread : .unevaluated ∉ four ++ [.broken]) (htop : four.head? = some .broken) :
    findingOf bgpSessionFlow false (four ++ [.broken]) = "interface_line_down" := by
  have hhead : (four ++ [Status.broken]).head? = some .broken := by
    rw [List.head?_append, htop]
    rfl
  have htwo : ¬OnlyTopBroken (four ++ [.broken]) := by
    rw [onlyTopBroken_of_split (List.not_mem_nil), hlength]
    decide
  have huni : universalFinding bgpSessionFlow false (four ++ [.broken]) = none := by
    unfold universalFinding
    rw [if_neg hread, if_neg Bool.false_ne_true, if_neg (by simp), hhead, if_neg (by simp),
      if_neg (fun h => htwo h.1)]
  have hindex : lowestBrokenIndex (four ++ [.broken]) = 4 := by
    rw [lowestBrokenIndex_of_split (List.not_mem_nil), hlength]
  have hrung : bgpSessionFlow.descent[lowestBrokenIndex (four ++ [.broken])]? =
      some pathInterfaceRung := by
    rw [hindex]
    rfl
  exact findingOf_of_localised huni hrung

lemma findingOf_bottom_healthy (hlength : four.length = 4) :
    findingOf bgpSessionFlow false (four ++ [.healthy]) ≠ "interface_line_down" := by
  cases huni : universalFinding bgpSessionFlow false (four ++ [.healthy]) with
  | some finding =>
    rw [findingOf_of_universal huni]
    intro heq
    have := universalFinding_mem huni
    rw [heq] at this
    exact absurd this (by decide)
  | none =>
    obtain ⟨-, -, hb, -, -⟩ := conditions_of_none huni
    have hb' : .broken ∈ four := by
      rcases List.mem_append.mp hb with hb | hb
      · exact hb
      · cases List.mem_singleton.mp hb
    obtain ⟨above, below, hsplit, hbelow⟩ := exists_split_of_broken hb'
    have hindex : lowestBrokenIndex (four ++ [.healthy]) = above.length := by
      rw [hsplit, List.append_assoc, List.cons_append]
      apply lowestBrokenIndex_of_split
      intro h
      rcases List.mem_append.mp h with h | h
      · exact hbelow h
      · cases List.mem_singleton.mp h
    have hlt : above.length < 4 := by
      rw [← hlength, hsplit, List.length_append, List.length_cons]
      omega
    have hfour : ∀ index < 4, ∃ rung, bgpSessionFlow.descent[index]? = some rung ∧
        rung.finding ≠ "interface_line_down" := by
      intro index hindex
      match index, hindex with
      | 0, _ => exact ⟨bgpSessionRung, rfl, by decide⟩
      | 1, _ => exact ⟨transportRung, rfl, by decide⟩
      | 2, _ => exact ⟨routeToPeerRung, rfl, by decide⟩
      | 3, _ => exact ⟨igpAdjacencyRung, rfl, by decide⟩
    obtain ⟨rung, hrung, hne⟩ := hfour above.length hlt
    rw [findingOf_of_localised huni (by rw [hindex]; exact hrung)]
    exact hne

lemma findingOf_bottom_iff (hlength : four.length = 4) (hread : .unevaluated ∉ four ++ [status])
    (hread' : .unevaluated ∉ four ++ [status']) :
    findingOf bgpSessionFlow false (four ++ [status']) =
        findingOf bgpSessionFlow false (four ++ [status]) ↔
      status = status' ∨ four.head? = some .healthy ∧ .broken ∈ four := by
  have hne : ∀ {last : Status}, .unevaluated ∉ four ++ [last] → last ≠ .unevaluated := by
    intro last h heq
    exact h (List.mem_append_right _ (by simp [heq]))
  have hbroken : ∀ {last : Status}, .unevaluated ∉ four ++ [last] →
      four.head? = some .healthy → .broken ∈ four →
        findingOf bgpSessionFlow false (four ++ [last]) = NO_FAULT_ON_PATH := by
    intro last hread htop hmem
    apply findingOf_of_healthy_top hread (List.mem_append_left _ hmem)
    rw [List.head?_append, htop]
    rfl
  -- One bottom rung is broken, the other healthy, and the top does not hide the difference.
  have hdiffer : .unevaluated ∉ four ++ [.broken] → .unevaluated ∉ four ++ [.healthy] →
      ¬(four.head? = some .healthy ∧ .broken ∈ four) →
        findingOf bgpSessionFlow false (four ++ [.broken]) ≠
          findingOf bgpSessionFlow false (four ++ [.healthy]) := by
    intro hreadb hreadh htop
    cases hfour : four with
    | nil =>
      rw [hfour] at hlength
      cases hlength
    | cons top rest =>
      have hmem : top ∈ four := by
        rw [hfour]
        exact List.mem_cons_self
      rw [← hfour]
      cases htopstatus : top with
      | unevaluated =>
        rw [htopstatus] at hmem
        exact absurd (List.mem_append_left _ hmem) hreadb
      | broken =>
        rw [findingOf_bottom_broken hlength hreadb (by rw [hfour, htopstatus]; rfl)]
        exact (findingOf_bottom_healthy hlength).symm
      | healthy =>
        have hhead : four.head? = some .healthy := by
          rw [hfour, htopstatus]
          rfl
        have hnone : .broken ∉ four := fun h => htop ⟨hhead, h⟩
        have hhealthy : .broken ∉ four ++ [.healthy] := by
          simpa using hnone
        rw [findingOf_of_healthy_top hreadb (by simp) (by rw [List.head?_append, hhead]; rfl),
          findingOf_of_all_healthy hreadh hhealthy]
        decide
  constructor
  · intro heq
    by_contra hnot
    push Not at hnot
    obtain ⟨hstatus, htop⟩ := hnot
    have htop' : ¬(four.head? = some .healthy ∧ .broken ∈ four) := fun h => htop h.1 h.2
    cases status with
    | unevaluated => exact hne hread rfl
    | broken =>
      have hs' : status' = .healthy := Status.eq_healthy_of_ne (hne hread') hstatus.symm
      subst hs'
      exact hdiffer hread hread' htop' heq.symm
    | healthy =>
      cases status' with
      | unevaluated => exact hne hread' rfl
      | broken => exact hdiffer hread' hread htop' heq
      | healthy => exact hstatus rfl
  · rintro (rfl | ⟨htop, hmem⟩)
    · rfl
    · rw [hbroken hread htop hmem, hbroken hread' htop hmem]

end BottomRung

/-- The same evidence, with another section in the place of the reverse route of `targets`. -/
def withRoute (collector : Collector) (origin : String) (targets : List String)
    (route : Option Section) : Collector := fun target rung subject =>
  let evidence := collector target rung subject
  if target ∈ targets then
    { evidence with get := Function.update evidence.get ("route:" ++ origin) route }
  else evidence

section WithRoute

variable (collector : Collector) (origin : String) (targets : List String)
  (route : Option Section)

lemma route_key_ne {key : String} (h : key.toList.head? ≠ some 'r') (origin : String) :
    key ≠ "route:" ++ origin := by
  rintro rfl
  simp at h

lemma withRoute_read {key : String} (h : key.toList.head? ≠ some 'r') (target : String)
    (rung : Rung) (subject : String) :
    (withRoute collector origin targets route target rung subject).read key =
      (collector target rung subject).read key := by
  unfold withRoute Evidence.read
  dsimp only
  split
  · dsimp only
    rw [Function.update_of_ne (route_key_ne h origin)]
  · rfl

lemma withRoute_routePresent (hroute : ∀ sec, route = some sec → sec.parseStatus ≠ some PARSE_OK)
    (target peer : String) (rung : Rung) (subject : String) :
    (routePresent (withRoute collector origin targets route target rung subject) peer).status =
        (routePresent (collector target rung subject) peer).status ∨
      (routePresent (withRoute collector origin targets route target rung subject) peer).status =
        .unevaluated := by
  rw [routePresent_status, routePresent_status]
  unfold withRoute Evidence.read
  dsimp only
  by_cases ht : target ∈ targets
  · rw [if_pos ht]
    dsimp only
    by_cases hkey : "route:" ++ peer = "route:" ++ origin
    · right
      rw [hkey, Function.update_self]
      cases route with
      | none => rfl
      | some sec =>
        have := hroute sec rfl
        rw [Option.filter_some_neg (by simpa using this)]
        rfl
    · left
      rw [Function.update_of_ne hkey]
  · left
    rw [if_neg ht]

lemma bgpLadder_withRoute (originPrefix : Option String) (device subject : String)
    (subjects : List String)
    (hroute : ∀ sec, route = some sec → sec.parseStatus ≠ some PARSE_OK)
    (hread : .unevaluated ∉ bgpLadder (withRoute collector origin targets route) originPrefix
      device subject subjects) :
    (bgpLadder (withRoute collector origin targets route) originPrefix device subject
        subjects).take 4 =
      (bgpLadder collector originPrefix device subject subjects).take 4 := by
  have hsession : (bgpSessionState (withRoute collector origin targets route device bgpSessionRung
      subject) subject).status =
        (bgpSessionState (collector device bgpSessionRung subject) subject).status := by
    rw [bgpSessionState_status, bgpSessionState_status, withRoute_read]
    decide
  have htransport : (bgpTransport (withRoute collector origin targets route device transportRung
      subject) subject).status =
        (bgpTransport (collector device transportRung subject) subject).status := by
    rw [bgpTransport_status, bgpTransport_status, withRoute_read]
    simp
  have higp : ∀ target, (isisAdjacency (withRoute collector origin targets route target
      igpAdjacencyRung subject) none).status =
        (isisAdjacency (collector target igpAdjacencyRung subject) none).status := by
    intro target
    rw [isisAdjacency_status, isisAdjacency_status, withRoute_read]
    decide
  have hpeer := (withRoute_routePresent collector origin targets route hroute device
    (subject ++ "/32") routeToPeerRung subject).resolve_right (fun h => hread (by
      simp [bgpLadder, h]))
  simp only [bgpLadder, List.take_succ_cons, List.take_zero, hsession, htransport, hpeer, higp]

end WithRoute

/-- When another reverse route leaves the finding as it was or undetermined: some rung is unread
with it, or every rung was read without it and either the coherence check refuses both walks,
or it refuses neither and the interface rung keeps its verdict or a healthy top rung takes it
off the path together with a broken rung above. -/
def RouteImmaterial (refused refused' : Bool) (ladder ladder' : List Status) : Prop :=
  .unevaluated ∈ ladder' ∨
    .unevaluated ∉ ladder ∧
      (refused = true ∧ refused' = true ∨
        refused = false ∧ refused' = false ∧
          (ladder.getLast? = ladder'.getLast? ∨
            ladder.head? = some .healthy ∧ .broken ∈ ladder.take 4))

instance (refused refused' : Bool) (ladder ladder' : List Status) :
    Decidable (RouteImmaterial refused refused' ladder ladder') :=
  inferInstanceAs (Decidable (_ ∨ _))

lemma findingOf_routeImmaterial_iff {refused refused' : Bool} {four four' : List Status}
    {status status' : Status} (hlength : four.length = 4)
    (hfour : .unevaluated ∉ four' ++ [status'] → four' = four) :
    (findingOf bgpSessionFlow refused' (four' ++ [status']) =
        findingOf bgpSessionFlow refused (four ++ [status]) ∨
      findingOf bgpSessionFlow refused' (four' ++ [status']) = UNDETERMINED) ↔
      RouteImmaterial refused refused' (four ++ [status]) (four' ++ [status']) := by
  have hrungs := flows_rung_finding_not_universal bgpSessionFlow List.mem_cons_self
  have htake : (four ++ [status]).take 4 = four := by
    rw [← hlength, List.take_left]
  have hhead : (four ++ [status]).head? = four.head? := by
    cases four with
    | nil => cases hlength
    | cons top rest => rfl
  rw [findingOf_eq_undetermined_iff hrungs]
  unfold RouteImmaterial
  by_cases hu' : .unevaluated ∈ four' ++ [status']
  · exact ⟨fun _ => Or.inl hu', fun _ => Or.inr hu'⟩
  obtain rfl := hfour hu'
  rw [or_iff_left hu', or_iff_right hu', htake, hhead, List.getLast?_concat, List.getLast?_concat]
  by_cases hu : .unevaluated ∈ four' ++ [status]
  · have h := (@findingOf_eq_undetermined_iff _ refused _ hrungs).mpr hu
    rw [h, findingOf_eq_undetermined_iff hrungs]
    exact ⟨fun h' => absurd h' hu', fun h' => absurd hu h'.1⟩
  rw [and_iff_right hu]
  cases refused with
  | true =>
    have h := (findingOf_eq_incoherent_iff hrungs).mpr ⟨hu, rfl⟩
    rw [h, findingOf_eq_incoherent_iff hrungs]
    simp [hu']
  | false =>
    cases refused' with
    | true =>
      have h := (findingOf_eq_incoherent_iff hrungs).mpr ⟨hu', rfl⟩
      rw [h, eq_comm, findingOf_eq_incoherent_iff hrungs]
      simp
    | false =>
      rw [findingOf_bottom_iff hlength hu hu']
      simp

lemma bgpSession_finding (collector : Collector) {resolver : Option Resolver}
    (originPrefix : Option String) {device subject : String} {targets : List String}
    (hresolve : resolveDevices pathInterfaceRung device subject resolver = .ok targets)
    (coherence : Option (List RungOutcome → Coherence)) :
    (runDescent collector resolver originPrefix device subject bgpSessionFlow coherence).finding =
      findingOf bgpSessionFlow
        (refusedBy coherence (bgpSessionFlow.descent.map
          (rungOutcome collector resolver originPrefix device subject)))
        (bgpLadder collector originPrefix device subject targets) := by
  set verdicts := bgpSessionFlow.descent.map
    (rungOutcome collector resolver originPrefix device subject) with hverdicts
  have hstatuses : verdicts.map RungOutcome.status =
      bgpLadder collector originPrefix device subject targets :=
    bgpSessionFlow_statuses collector originPrefix device subject targets hresolve
  have hrungs := flows_rung_finding_not_universal bgpSessionFlow List.mem_cons_self
  have hnames := flows_names_nodup bgpSessionFlow List.mem_cons_self
  by_cases hu : .unevaluated ∈ verdicts.map RungOutcome.status
  · rw [← hstatuses, (findingOf_eq_undetermined_iff hrungs).mpr hu,
      runDescent_of_unread collector resolver originPrefix device subject hnames coherence hu]
  · rw [runDescent_finding collector resolver originPrefix device subject hnames coherence,
      runDescent_outcomes, ← hverdicts, ← hstatuses, takeThrough_eq_self]
    intro outcome hmem
    rw [Bool.eq_false_iff, ne_eq, isUnread_iff]
    intro hs
    exact hu (List.mem_map.mpr ⟨outcome, (takeThrough_initial _ _).subset hmem, hs⟩)

/-- An unread reverse route leaves a path rung unevaluated exactly when a device has no
interface to judge instead, or one that could not be read; and it leaves the finding of a BGP
session alone, or undetermined, exactly when `RouteImmaterial` holds of the two ladders. Where
the subject's devices are not resolved, every finding is undetermined. -/
theorem reverse_route_unread_iff (origin : String) :
    (∀ (rung : Rung) (devices : List String) (subject : String)
      (evidenceFor : String → Evidence), rung.subjectRule = .eachPathInterface → origin ≠ "" →
      (∃ target ∈ devices, RouteUnread (evidenceFor target) origin) →
      ((evaluateRung rung devices subject evidenceFor (some origin)).status = .unevaluated ↔
        ∃ target ∈ devices, judgedInterfaces (evidenceFor target) (some origin) = [] ∨
          ∃ name ∈ judgedInterfaces (evidenceFor target) (some origin),
            (rung.check (evidenceFor target) (some name)).status = .unevaluated)) ∧
    (∀ (collector : Collector) (resolver : Option Resolver) (device subject : String)
      (targets : List String) (route : Option Section)
      (coherence : Option (List RungOutcome → Coherence)), origin ≠ "" →
      resolveDevices pathInterfaceRung device subject resolver = .ok targets →
      (∀ sec, route = some sec → sec.parseStatus ≠ some PARSE_OK) →
      let degraded := withRoute collector origin targets route
      let descent := fun (collector : Collector) =>
        runDescent collector resolver (some origin) device subject bgpSessionFlow coherence
      let refused := fun (collector : Collector) => refusedBy coherence
        (bgpSessionFlow.descent.map
          (rungOutcome collector resolver (some origin) device subject))
      let ladder := fun (collector : Collector) =>
        bgpLadder collector (some origin) device subject targets
      ((descent degraded).finding = (descent collector).finding ∨
          (descent degraded).finding = UNDETERMINED ↔
        RouteImmaterial (refused collector) (refused degraded) (ladder collector)
          (ladder degraded))) ∧
    ∀ (collector : Collector) (resolver : Option Resolver) (device subject message : String)
      (coherence : Option (List RungOutcome → Coherence)),
      resolveDevices pathInterfaceRung device subject resolver = .error message →
      (runDescent collector resolver (some origin) device subject bgpSessionFlow
        coherence).finding = UNDETERMINED := by
  refine ⟨?_, ?_, ?_⟩
  · intro rung devices subject evidenceFor hrule _ hunread
    obtain ⟨target, htarget, -⟩ := hunread
    rw [evaluateRung_unevaluated_iff rung subject evidenceFor (some origin)
      (List.ne_nil_of_mem htarget)]
    simp only [rungSubjects_path hrule, List.map_eq_nil_iff, List.mem_map,
      exists_exists_and_eq_and]
  · intro collector resolver device subject targets route coherence _ hresolve hroute
    dsimp only
    rw [bgpSession_finding (withRoute collector origin targets route) (some origin) hresolve,
      bgpSession_finding collector (some origin) hresolve]
    have htake := bgpLadder_withRoute collector origin targets route (some origin) device subject
      targets hroute
    exact @findingOf_routeImmaterial_iff _ _
      ((bgpLadder collector (some origin) device subject targets).take 4)
      ((bgpLadder (withRoute collector origin targets route) (some origin) device subject
        targets).take 4) _ _ rfl htake
  · intro collector resolver device subject message coherence hresolve
    apply runDescent_of_unread _ _ _ _ _ (flows_names_nodup bgpSessionFlow List.mem_cons_self)
    refine List.mem_map.mpr ⟨_, List.mem_map.mpr ⟨pathInterfaceRung, ?_, rfl⟩, ?_⟩
    · simp [bgpSessionFlow]
    · rw [rungOutcome, hresolve]
      rfl

/-- Losing the route back turns the finding into another fault. -/
theorem reverse_route_unread_decides :
    (withRoute shutSpareCollector "10.255.0.31/32" ["PE2"] none "PE2" pathInterfaceRung
        "10.255.0.12").get "route:10.255.0.31/32" = none ∧
      (evaluateRung pathInterfaceRung ["PE2"] "10.255.0.12"
        (fun target => withRoute shutSpareCollector "10.255.0.31/32" ["PE2"] none target
          pathInterfaceRung "10.255.0.12") (some "10.255.0.31/32")).status = .broken ∧
      (shutSpareDescent shutSpareCollector).finding = "transport_blocked" ∧
      (shutSpareDescent (withRoute shutSpareCollector "10.255.0.31/32" ["PE2"] none)).finding =
        "interface_line_down" := by
  decide +kernel

/-- There the descent that lost the route back is one that the route decides. -/
theorem reverse_route_unread_iff_shutSpare :
    ((evaluateRung pathInterfaceRung ["PE2"] "10.255.0.12"
        (fun target => withRoute shutSpareCollector "10.255.0.31/32" ["PE2"] none target
          pathInterfaceRung "10.255.0.12") (some "10.255.0.31/32")).status = .unevaluated →
      ∃ target ∈ ["PE2"], judgedInterfaces (withRoute shutSpareCollector "10.255.0.31/32" ["PE2"]
          none target pathInterfaceRung "10.255.0.12") (some "10.255.0.31/32") = [] ∨
        ∃ name ∈ judgedInterfaces (withRoute shutSpareCollector "10.255.0.31/32" ["PE2"] none
            target pathInterfaceRung "10.255.0.12") (some "10.255.0.31/32"),
          (pathInterfaceRung.check (withRoute shutSpareCollector "10.255.0.31/32" ["PE2"] none
            target pathInterfaceRung "10.255.0.12") (some name)).status = .unevaluated) ∧
    ¬RouteImmaterial false false
      (bgpLadder shutSpareCollector (some "10.255.0.31/32") "RR1" "10.255.0.12" ["PE2"])
      (bgpLadder (withRoute shutSpareCollector "10.255.0.31/32" ["PE2"] none)
        (some "10.255.0.31/32") "RR1" "10.255.0.12" ["PE2"]) ∧
    (runDescent shutSpareCollector none (some "10.255.0.31/32") "RR1" "10.255.0.12"
      bgpSessionFlow none).finding = UNDETERMINED := by
  have hunread : RouteUnread (withRoute shutSpareCollector "10.255.0.31/32" ["PE2"] none "PE2"
      pathInterfaceRung "10.255.0.12") "10.255.0.31/32" := by
    intro sec hsec
    cases hsec
  obtain ⟨hrung, hdescent, hunresolved⟩ := reverse_route_unread_iff "10.255.0.31/32"
  refine ⟨?_, ?_, ?_⟩
  · exact (hrung pathInterfaceRung ["PE2"] "10.255.0.12"
      (fun target => withRoute shutSpareCollector "10.255.0.31/32" ["PE2"] none target
        pathInterfaceRung "10.255.0.12") rfl (by decide) ⟨"PE2", List.mem_cons_self, hunread⟩).mp
  · intro himmaterial
    have h := (hdescent shutSpareCollector (some (fun _ => .ok (.inl "PE2"))) "RR1"
      "10.255.0.12" ["PE2"] none none (by decide) rfl (by simp)).mpr himmaterial
    exact absurd h (by decide +kernel)
  · exact hunresolved shutSpareCollector none "RR1" "10.255.0.12" _ none rfl

end NetTools
