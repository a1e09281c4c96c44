import Mathlib.Data.List.Nodup
import NetTools.Descent.EpochReads
import NetTools.Descent.OrderIndependence

/-!
# The re-read of a still fabric

What the coherence check of a walk says when every device answers the re-read as it answered
the collection.
-/

namespace NetTools

open ListSearch

lemma read_congr {evidence evidence' : Evidence} {key : String}
    (h : evidence.get key = evidence'.get key) : evidence.read key = evidence'.read key := by
  unfold Evidence.read
  rw [h]

theorem flows_statuses_of_steps :
    ∀ flow ∈ flows, ∀ rung ∈ flow.descent, rung.subjectRule ≠ .eachPathInterface →
      ∀ (subject : String) (originPrefix : Option String)
        (evidenceFor evidenceFor' : String → Evidence) (target : String),
        (∀ step ∈ rung.collect, (evidenceFor target).get (step.key subject) =
          (evidenceFor' target).get (step.key subject)) →
        memberStatuses rung subject (evidenceFor target) originPrefix =
          memberStatuses rung subject (evidenceFor' target) originPrefix := by
  apply flows_rungs
  case session =>
    intro _ subject _ evidenceFor evidenceFor' target h
    apply memberStatuses_single (some subject) (fun _ => rfl)
    have hbgp := read_congr (h { name := "bgp" } (by decide))
    change (bgpSessionState _ _).status = (bgpSessionState _ _).status
    rw [bgpSessionState_status, bgpSessionState_status]
    exact congrArg (fun bgp => sessionVerdict bgp _) hbgp
  case transport =>
    intro _ subject _ evidenceFor evidenceFor' target h
    apply memberStatuses_single (some subject) (fun _ => rfl)
    have hneighbor := read_congr (h _ List.mem_cons_self)
    change (bgpTransport _ _).status = (bgpTransport _ _).status
    rw [bgpTransport_status, bgpTransport_status]
    exact congrArg transportVerdict hneighbor
  case route =>
    intro _ subject _ evidenceFor evidenceFor' target h
    apply memberStatuses_single (some (subject ++ "/32")) (fun _ => rfl)
    have hroute := read_congr (h _ List.mem_cons_self)
    change (routePresent _ _).status = (routePresent _ _).status
    rw [routePresent_status, routePresent_status]
    exact congrArg routeVerdict hroute
  case igp =>
    intro _ subject _ evidenceFor evidenceFor' target h
    apply memberStatuses_single none (fun _ => rfl)
    have hisis := read_congr (h _ List.mem_cons_self)
    change (isisAdjacency _ _).status = (isisAdjacency _ _).status
    rw [isisAdjacency_status, isisAdjacency_status]
    exact congrArg adjacencyVerdict hisis
  case path =>
    intro h
    exact absurd rfl h
  case interface =>
    intro _ subject _ evidenceFor evidenceFor' target h
    apply memberStatuses_single (some subject) (fun _ => rfl)
    have hbulk := read_congr (h { name := "interfaces" } (by decide))
    have hcapture := read_congr (h interfaceStep (by decide))
    change (interfaceState _ _ none).status = (interfaceState _ _ none).status
    rw [interfaceCheck_status, interfaceCheck_status]
    exact congrArg₂ (fun capture bulk => interfaceVerdict capture bulk subject) hcapture hbulk
  case isis =>
    intro _ subject _ evidenceFor evidenceFor' target h
    apply memberStatuses_single (some subject) (fun _ => rfl)
    have hisis := read_congr (h { name := "isis" } (by decide))
    have hlldp := read_congr (h { name := "lldp" } (by decide))
    have hinterfaces := read_congr (h { name := "interfaces" } (by decide))
    change (isisNeighborUp _ _).status = (isisNeighborUp _ _).status
    rw [isisNeighborUp_status, isisNeighborUp_status]
    change neighborVerdict _ _ _ subject = neighborVerdict _ _ _ subject
    rw [show (evidenceFor target).read "isis" = _ from hisis,
      show (evidenceFor target).read "lldp" = _ from hlldp,
      show (evidenceFor target).read "interfaces" = _ from hinterfaces]
    rfl
  case ldp =>
    intro _ subject _ evidenceFor evidenceFor' target h
    apply memberStatuses_single (some subject) (fun _ => rfl)
    have hldp := read_congr (h { name := "ldp" } (by decide))
    have hdiscovery := read_congr (h { name := "ldp_discovery" } (by decide))
    have hinterfaces := read_congr (h { name := "interfaces" } (by decide))
    have hconfig := read_congr (h { name := "config_ldp", isTemplate := true } (by decide))
    have hintent := read_congr (h { name := "ldp_intent", isStatic := true } (by decide))
    change (ldpSessionUp _ _).status = (ldpSessionUp _ _).status
    rw [ldpSessionUp_status, ldpSessionUp_status,
      show (evidenceFor target).read "ldp" = _ from hldp,
      show (evidenceFor target).read "ldp_discovery" = _ from hdiscovery,
      show (evidenceFor target).read "interfaces" = _ from hinterfaces,
      show (evidenceFor target).read "config_ldp" = _ from hconfig,
      show (evidenceFor target).read "ldp_intent" = _ from hintent]
    rfl

section Plain

variable {fabric : Fabric} {subject : String} {originPrefix : Option String} {flow : Flow}
  {device : String} {resolver : Option Resolver} {boundSeconds : ℚ} {clock : Nat → ℚ}
  {epoch : EvidenceEpoch} {rung : Rung} {targets : List String}

lemma evaluateRung_origin (hrule : rung.subjectRule ≠ .eachPathInterface)
    (devices : List String) (evidenceFor : String → Evidence) :
    evaluateRung rung devices subject evidenceFor originPrefix =
      evaluateRung rung devices subject evidenceFor none := by
  have hsubjects : ∀ evidence, rungSubjects rung subject evidence originPrefix =
      rungSubjects rung subject evidence none := by
    intro evidence
    unfold rungSubjects
    cases h : rung.subjectRule with
    | eachPathInterface => exact absurd h hrule
    | asIs => rfl
    | hostPrefix => rfl
    | deviceWide => rfl
    | eachPhysicalInterface => rfl
  have hdevice : evaluateDevice rung subject evidenceFor originPrefix =
      evaluateDevice rung subject evidenceFor none := by
    funext pool target
    unfold evaluateDevice deviceResults
    rw [hsubjects]
  unfold evaluateRung
  rw [hdevice]

lemma flows_fanout : ∀ flow ∈ flows, ∀ rung ∈ flow.descent,
    rung.subjectRule ≠ .eachPathInterface → ∀ step ∈ rung.collect, step.fansOut = true →
      step = interfaceStep ∧ flow.objectType ≠ "bgp_session" ∧ rung.deviceScope = .localDevice ∧
        rung.collect = interfaceSteps :=
  flows_cases (by decide) (by decide) (by decide) (by decide)

theorem reread_plain (hflow : flow ∈ flows)
    (hepoch : collectEpoch fabric subject originPrefix flow device resolver boundSeconds clock =
      .ok epoch)
    (hrung : rung ∈ flow.descent) (hrule : rung.subjectRule ≠ .eachPathInterface)
    (hresolve : resolveDevices rung device subject resolver = .ok targets) :
    (evaluateRung rung targets subject (collectOneRung fabric subject rung) none).status =
      (evaluateRung rung targets subject epoch.forDevice originPrefix).status := by
  obtain ⟨planned, hplan, hget⟩ := collectEpoch_get hepoch
  rw [evaluateRung_origin hrule targets epoch.forDevice]
  apply evaluateRung_status_congr hrule
  intro target htarget
  apply flows_statuses_of_steps flow hflow rung hrung hrule subject none
  intro step hstep
  have hplain := flows_steps_plain flow hflow rung hrung hrule step hstep
  cases hfan : step.fansOut with
  | false =>
    have hheld := @held_of_step fabric subject originPrefix flow device resolver planned rung
      targets target step hplan hrung hresolve htarget hstep hplain hfan
    rw [collectOneRung_get_step hstep hplain hfan, (hget target _).1 hheld]
  | true =>
    obtain ⟨rfl, hlocal, hscope, hcollect⟩ := flows_fanout flow hflow rung hrung hrule step hstep
      hfan
    have hdevice : target = device := by
      unfold resolveDevices at hresolve
      rw [if_pos hscope] at hresolve
      cases hresolve
      exact List.mem_singleton.mp htarget
    rw [hdevice]
    have hreread := @collectOneRung_get_interface fabric subject device subject rung
      (rereadKeys_interfaceSteps hcollect)
    have hheld := @held_interface fabric subject originPrefix flow device resolver planned subject
      hflow hlocal hplan
    change (collectOneRung fabric subject rung device).get ("interface:" ++ subject) =
      (epoch.forDevice device).get ("interface:" ++ subject)
    by_cases hname : subject ∈ physicalInterfaces (fabricEvidence fabric device)
    · rw [hreread.2.1 hname, (hget device _).1 (hheld.mpr hname)]
    · rw [hreread.2.2 hname, (hget device _).2 (fun h => hname (hheld.mp h))]

end Plain

section PathRung

/-- The way back to the origin is up: some interface that the rung judges is, or all of them
where the route names none on the last device. -/
def PathSurvives (fabric : Fabric) (originPrefix : Option String) (targets : List String) :
    Prop :=
  ∃ last, targets.getLast? = some last ∧
    ((pathInterfaces (fabricEvidence fabric last) originPrefix).1 ≠ [] ∧
        (∃ target ∈ targets, ∃ name ∈ judgedInterfaces (fabricEvidence fabric target) originPrefix,
          (interfaceCheck (fabricEvidence fabric target) name).status = .healthy) ∨
      (pathInterfaces (fabricEvidence fabric last) originPrefix).1 = [] ∧
        ∀ target ∈ targets, ∀ name ∈ judgedInterfaces (fabricEvidence fabric target) originPrefix,
          (interfaceCheck (fabricEvidence fabric target) name).status = .healthy)

/-- Every device has physical ports and the state of each can be read. -/
def PhysicalRead (fabric : Fabric) (targets : List String) : Prop :=
  ∀ target ∈ targets, physicalInterfaces (fabricEvidence fabric target) ≠ [] ∧
    ∀ name ∈ physicalInterfaces (fabricEvidence fabric target),
      (interfaceCheck (fabricEvidence fabric target) name).status ≠ .unevaluated

def PhysicalUp (fabric : Fabric) (targets : List String) : Prop :=
  ∀ target ∈ targets, ∀ name ∈ physicalInterfaces (fabricEvidence fabric target),
    (interfaceCheck (fabricEvidence fabric target) name).status = .healthy

variable {fabric : Fabric} {originPrefix : Option String} {targets : List String}
  {evidenceFor evidenceFor' : String → Evidence}

lemma judgedInterfaces_none (evidence : Evidence) :
    judgedInterfaces evidence none = physicalInterfaces evidence := by
  have hpath : (pathInterfaces evidence none).1 = [] := rfl
  unfold judgedInterfaces
  rw [hpath]
  rfl

lemma mem_interfaceStatuses {evidence : Evidence} {status : Status} :
    status ∈ interfaceStatuses evidence originPrefix ↔
      judgedInterfaces evidence originPrefix = [] ∧ status = .unevaluated ∨
        ∃ name ∈ judgedInterfaces evidence originPrefix,
          (interfaceCheck evidence name).status = status := by
  unfold interfaceStatuses
  by_cases hnil : judgedInterfaces evidence originPrefix = []
  · simp [hnil]
  · simp [hnil]

lemma combine_anyHealthy_iff {statuses : List Status} (hread : .unevaluated ∉ statuses) :
    combine .anyHealthy statuses = .healthy ↔ .healthy ∈ statuses := by
  rw [combine, Verdicts.dominant_eq_strong_iff (by decide) (by decide), and_iff_right hread]

lemma combine_allHealthy_iff {statuses : List Status} :
    combine .allHealthy statuses = .healthy ↔
      statuses ≠ [] ∧ ∀ status ∈ statuses, status = .healthy := by
  rw [combine, Verdicts.dominant_eq_weak_iff (by decide) (by decide)]
  apply and_congr_right
  intro _
  constructor
  · rintro ⟨hu, hb⟩ status hstatus
    exact Status.eq_healthy_of_ne (fun h => hu (h ▸ hstatus)) (fun h => hb (h ▸ hstatus))
  · intro h
    constructor
    · intro hu
      cases h _ hu
    · intro hb
      cases h _ hb

lemma interfaceStatuses_ne_nil (evidence : Evidence) :
    interfaceStatuses evidence originPrefix ≠ [] := by
  unfold interfaceStatuses
  by_cases hnil : judgedInterfaces evidence originPrefix = []
  · rw [if_pos hnil]
    exact List.cons_ne_nil _ _
  · rw [if_neg hnil]
    exact fun h => hnil (List.map_eq_nil_iff.mp h)

lemma flatMap_interfaceStatuses_ne_nil (htargets : targets ≠ []) :
    targets.flatMap (fun target => interfaceStatuses (evidenceFor target) originPrefix) ≠ [] := by
  obtain ⟨target, htarget⟩ := List.exists_mem_of_ne_nil _ htargets
  obtain ⟨status, hstatus⟩ := List.exists_mem_of_ne_nil _
    (@interfaceStatuses_ne_nil originPrefix (evidenceFor target))
  exact List.ne_nil_of_mem (List.mem_flatMap.mpr ⟨target, htarget, hstatus⟩)

theorem interfaceRungVerdict_healthy_iff
    (hread : interfaceRungVerdict (fabricEvidence fabric) originPrefix targets ≠ .unevaluated) :
    interfaceRungVerdict (fabricEvidence fabric) originPrefix targets = .healthy ↔
      PathSurvives fabric originPrefix targets := by
  unfold interfaceRungVerdict at hread ⊢
  unfold PathSurvives
  set statuses := targets.flatMap
    (fun target => interfaceStatuses (fabricEvidence fabric target) originPrefix) with hstatuses
  rw [ne_eq, combine_eq_unevaluated_iff, not_or] at hread
  obtain ⟨hne, hknown⟩ := hread
  have hmem : ∀ status, status ≠ .unevaluated → (status ∈ statuses ↔ ∃ target ∈ targets,
      ∃ name ∈ judgedInterfaces (fabricEvidence fabric target) originPrefix,
        (interfaceCheck (fabricEvidence fabric target) name).status = status) := by
    intro status hstatus
    rw [hstatuses, List.mem_flatMap]
    simp only [mem_interfaceStatuses, hstatus, and_false, false_or]
  cases hlast : targets.getLast? with
  | none =>
    rw [List.getLast?_eq_none_iff] at hlast
    rw [hstatuses, hlast] at hne
    exact absurd rfl hne
  | some last =>
    simp only [Option.some.injEq, exists_eq_left']
    unfold pathAggregation
    by_cases hpath : (pathInterfaces (fabricEvidence fabric last) originPrefix).1 = []
    · rw [if_neg (not_not.mpr hpath), combine_allHealthy_iff, and_iff_right hne]
      simp only [hpath, ne_eq, not_true_eq_false, false_and, true_and, false_or]
      constructor
      · intro h target htarget name hname
        apply h
        rw [hstatuses, List.mem_flatMap]
        exact ⟨target, htarget, mem_interfaceStatuses.mpr (Or.inr ⟨name, hname, rfl⟩)⟩
      · intro h status hstatus
        have hu : status ≠ .unevaluated := fun heq => hknown (heq ▸ hstatus)
        obtain ⟨target, htarget, name, hname, rfl⟩ := (hmem status hu).mp hstatus
        exact h target htarget name hname
    · rw [if_pos hpath, combine_anyHealthy_iff hknown, hmem _ (by decide)]
      simp only [hpath, ne_eq, not_false_eq_true, true_and, false_and, or_false]

theorem interfaceRungVerdict_reread (htargets : targets ≠ []) :
    (interfaceRungVerdict (fabricEvidence fabric) none targets = .healthy ↔
        PhysicalRead fabric targets ∧ PhysicalUp fabric targets) ∧
      (interfaceRungVerdict (fabricEvidence fabric) none targets = .unevaluated ↔
        ¬PhysicalRead fabric targets) := by
  have hne := @flatMap_interfaceStatuses_ne_nil none targets (fabricEvidence fabric) htargets
  have hrule : interfaceRungVerdict (fabricEvidence fabric) none targets =
      combine .allHealthy (targets.flatMap
        (fun target => interfaceStatuses (fabricEvidence fabric target) none)) := by
    unfold interfaceRungVerdict
    cases hlast : targets.getLast? with
    | none => exact absurd (List.getLast?_eq_none_iff.mp hlast) htargets
    | some last => rfl
  have hunread : .unevaluated ∈ targets.flatMap
      (fun target => interfaceStatuses (fabricEvidence fabric target) none) ↔
        ¬PhysicalRead fabric targets := by
    unfold PhysicalRead
    rw [List.mem_flatMap]
    push Not
    apply exists_congr
    intro target
    apply and_congr_right
    intro _
    rw [mem_interfaceStatuses, judgedInterfaces_none]
    by_cases hnil : physicalInterfaces (fabricEvidence fabric target) = []
    · simp [hnil]
    · simp [hnil]
  rw [hrule]
  constructor
  · rw [combine_allHealthy_iff, and_iff_right hne]
    constructor
    · intro h
      constructor
      · by_contra hphysical
        cases h _ (hunread.mpr hphysical)
      · intro target htarget name hname
        apply h
        rw [List.mem_flatMap]
        refine ⟨target, htarget, mem_interfaceStatuses.mpr (Or.inr ⟨name, ?_, rfl⟩)⟩
        rw [judgedInterfaces_none]
        exact hname
    · rintro ⟨hphysical, hup⟩ status hstatus
      obtain ⟨target, htarget, hin⟩ := List.mem_flatMap.mp hstatus
      rw [mem_interfaceStatuses, judgedInterfaces_none] at hin
      rcases hin with ⟨hnil, -⟩ | ⟨name, hname, rfl⟩
      · exact absurd hnil (hphysical target htarget).1
      · exact hup target htarget name hname
  · rw [combine_eq_unevaluated_iff, or_iff_right hne, hunread]

lemma interfaceRungVerdict_congr
    (h : ∀ target ∈ targets, SamePath originPrefix (evidenceFor target) (evidenceFor' target) ∧
      ∀ name ∈ judgedInterfaces (evidenceFor target) originPrefix,
        (evidenceFor target).get ("interface:" ++ name) =
          (evidenceFor' target).get ("interface:" ++ name)) :
    interfaceRungVerdict evidenceFor originPrefix targets =
      interfaceRungVerdict evidenceFor' originPrefix targets := by
  have hpath : ∀ target ∈ targets, pathInterfaces (evidenceFor target) originPrefix =
      pathInterfaces (evidenceFor' target) originPrefix :=
    fun target htarget => pathInterfaces_congr (h target htarget).1
  have hjudged : ∀ target ∈ targets, judgedInterfaces (evidenceFor target) originPrefix =
      judgedInterfaces (evidenceFor' target) originPrefix := by
    intro target htarget
    unfold judgedInterfaces
    rw [hpath target htarget, physicalInterfaces_congr (h target htarget).1.1]
  have hstatuses : ∀ target ∈ targets, interfaceStatuses (evidenceFor target) originPrefix =
      interfaceStatuses (evidenceFor' target) originPrefix := by
    intro target htarget
    unfold interfaceStatuses
    rw [← hjudged target htarget]
    congr 1
    apply List.map_congr_left
    intro name hname
    unfold interfaceCheck
    rw [interfaceCheck_status, interfaceCheck_status, read_congr (h target htarget).1.1,
      read_congr ((h target htarget).2 name hname)]
  unfold interfaceRungVerdict
  rw [List.flatMap_congr hstatuses]
  cases hlast : targets.getLast? with
  | none => rfl
  | some last =>
    dsimp only
    unfold pathAggregation
    rw [hpath last (List.mem_of_getLast? hlast)]

end PathRung

lemma Coherence.settled_iff (coherence : Coherence) :
    coherence.status = .coherent ∨ coherence.status = .windowLimited ↔
      coherence.rereads ≠ [] ∧ ∀ reread ∈ coherence.rereads, reread.agrees = true := by
  rw [← List.all_eq_true]
  unfold Coherence.status
  by_cases hnil : coherence.rereads = []
  · simp [hnil]
  · rw [if_neg hnil]
    cases hall : coherence.rereads.all Reread.agrees with
    | false => simp
    | true =>
      cases coherence.withinBound <;> simp [hnil]

section Reread

variable {fabric : Fabric} {subject : String} {originPrefix : Option String} {flow : Flow}
  {device : String} {resolver : Option Resolver} {boundSeconds : ℚ} {clock : Nat → ℚ}
  {epoch : EvidenceEpoch} {rung : Rung} {targets : List String}

lemma walk_path
    (hepoch : collectEpoch fabric subject originPrefix flow device resolver boundSeconds clock =
      .ok epoch)
    (hrung : pathInterfaceRung ∈ flow.descent)
    (hresolve : resolveDevices pathInterfaceRung device subject resolver = .ok targets) :
    interfaceRungVerdict epoch.forDevice originPrefix targets =
      interfaceRungVerdict (fabricEvidence fabric) originPrefix targets := by
  obtain ⟨planned, hplan, hget⟩ := collectEpoch_get hepoch
  symm
  apply interfaceRungVerdict_congr
  intro target htarget
  obtain ⟨steps, hin, hsub⟩ := plan_covers hplan hrung hresolve htarget
  have hroute : routeStep ∈ steps := hsub (by decide)
  have hcapture : interfaceStep ∈ steps := hsub (by decide)
  have hcall : ∀ step ∈ steps, ∀ key ∈ (templateCalls step subject (fabricEvidence fabric target)
      originPrefix).map Prod.fst,
      (fabricEvidence fabric target).get key = (epoch.forDevice target).get key := by
    intro step hstep key hkey
    have hheld := mem_deviceKeys_of_step hstep
      (fun _ _ _ => ⟨routeStep, hroute, rfl, rfl⟩) hkey
    exact ((hget target key).1 (Or.inr ⟨steps, hin, hheld⟩)).symm
  refine ⟨⟨?_, ?_⟩, ?_⟩
  · have hheld := @mem_deviceKeys_of_intent fabric subject originPrefix target steps "interfaces"
      (by decide)
    exact ((hget target _).1 (Or.inr ⟨steps, hin, hheld⟩)).symm
  · intro origin horigin
    apply hcall routeStep hroute
    have hfill : routeStep.fill = some "origin" := rfl
    unfold templateCalls
    rw [if_pos hfill, horigin]
    exact List.mem_singleton_self _
  · intro name hname
    apply hcall interfaceStep hcapture
    rw [mem_interfaceCalls]
    unfold judgedInterfaces at hname
    split at hname
    · exact Or.inl hname
    · exact Or.inr hname

lemma reread_path (fabric : Fabric) (subject : String) (targets : List String) :
    interfaceRungVerdict (collectOneRung fabric subject pathInterfaceRung) none targets =
      interfaceRungVerdict (fabricEvidence fabric) none targets := by
  symm
  apply interfaceRungVerdict_congr
  intro target _
  have hget : ∀ name, _ := fun name => @collectOneRung_get_interface fabric subject target name
    pathInterfaceRung rereadKeys_pathInterfaceRung
  refine ⟨⟨(hget "").1.symm, ?_⟩, ?_⟩
  · intro origin horigin
    cases horigin
  · intro name hname
    rw [judgedInterfaces_none] at hname
    exact ((hget name).2.1 hname).symm

lemma rungNamed_eq (hnames : (flow.descent.map Rung.name).Nodup) (hrung : rung ∈ flow.descent) :
    rungNamed flow rung.name = some rung := by
  have hagree : ∀ a ∈ flow.descent, ∀ b ∈ flow.descent, (a.name == rung.name) = true →
      (b.name == rung.name) = true → id a = id b := by
    intro a ha b hb hname hname'
    rw [beq_iff_eq] at hname hname'
    exact List.inj_on_of_nodup_map hnames ha hb (hname.trans hname'.symm)
  have hfind := find?_map_eq_some hagree hrung (beq_iff_eq.mpr rfl)
  rw [Option.map_id] at hfind
  exact hfind

lemma rereadOutcome_agrees_iff {collector : Collector}
    (hnames : (flow.descent.map Rung.name).Nodup) (hrung : rung ∈ flow.descent)
    (hresolve : resolveDevices rung device subject resolver = .ok targets) :
    ∃ reread, rereadOutcome fabric flow subject device resolver
        (rungOutcome collector resolver originPrefix device subject rung) = some reread ∧
      (reread.agrees = true ↔
        (evaluateRung rung targets subject (collectOneRung fabric subject rung) none).status =
          (rungOutcome collector resolver originPrefix device subject rung).status) := by
  unfold rereadOutcome
  rw [rungOutcome_rung, rungNamed_eq hnames hrung, Option.map_some, hresolve]
  refine ⟨_, rfl, ?_⟩
  unfold Reread.agrees
  rw [beq_iff_eq]
  exact RereadStatus.verdict.injEq _ _ ▸ Iff.rfl

end Reread

section Main

variable {fabric : Fabric} {subject : String} {originPrefix : Option String} {flow : Flow}
  {device : String} {resolver : Option Resolver} {boundSeconds : ℚ} {clock : Nat → ℚ}
  {epoch : EvidenceEpoch} {rung : Rung} {targets : List String}

lemma runDescent_outcomes_of_read {collector : Collector}
    {coherence : Option (List RungOutcome → Coherence)}
    (hread : ∀ outcome ∈ (runDescent collector resolver originPrefix device subject flow
      coherence).outcomes, outcome.status ≠ .unevaluated) :
    (runDescent collector resolver originPrefix device subject flow coherence).outcomes =
      flow.descent.map (rungOutcome collector resolver originPrefix device subject) := by
  rw [runDescent_outcomes] at hread ⊢
  apply takeThrough_eq_self
  intro outcome hmem
  rw [Bool.eq_false_iff, ne_eq, isUnread_iff]
  exact hread outcome hmem

lemma resolve_of_read {collector : Collector}
    (hread : (rungOutcome collector resolver originPrefix device subject rung).status ≠
      .unevaluated) :
    ∃ targets, resolveDevices rung device subject resolver = .ok targets ∧
      (rungOutcome collector resolver originPrefix device subject rung).status =
        (evaluateRung rung targets subject (fun target => collector target rung subject)
          originPrefix).status := by
  unfold rungOutcome at hread ⊢
  cases hresolve : resolveDevices rung device subject resolver with
  | error message =>
    rw [hresolve] at hread
    exact absurd rfl hread
  | ok targets => exact ⟨targets, rfl, rfl⟩

lemma resolveDevices_ne_nil (h : resolveDevices rung device subject resolver = .ok targets) :
    targets ≠ [] := by
  unfold resolveDevices at h
  split at h
  · cases h
    exact List.cons_ne_nil _ _
  · cases resolver with
    | none => cases h
    | some resolve =>
      dsimp only at h
      cases hresolve : resolve subject with
      | error message =>
        rw [hresolve] at h
        cases h
      | ok devices =>
        rw [hresolve] at h
        cases devices with
        | inl device =>
          cases h
          exact List.cons_ne_nil _ _
        | inr devices =>
          dsimp only at h
          split at h
          · cases h
          · rename_i hne
            cases h
            exact hne

lemma flows_path : ∀ flow ∈ flows, ∀ rung ∈ flow.descent, rung.subjectRule = .eachPathInterface →
    rung = pathInterfaceRung ∧ flow = bgpSessionFlow := by
  have hrung : ∀ flow ∈ flows, ∀ rung ∈ flow.descent, rung.subjectRule = .eachPathInterface →
      rung = pathInterfaceRung := by
    apply flows_rungs
    case path => exact fun _ => rfl
    all_goals
      intro h
      cases h
  have hflow : ∀ flow ∈ flows, ∀ rung ∈ flow.descent, rung.subjectRule = .eachPathInterface →
      flow = bgpSessionFlow := by
    have hnone : ∀ flow ∈ [interfaceFlow, isisAdjacencyFlow, ldpSessionFlow],
        ∀ rung ∈ flow.descent, rung.subjectRule ≠ .eachPathInterface := by decide
    intro flow hin rung hrung hrule
    rcases List.mem_cons.mp hin with rfl | hlocal
    · rfl
    · exact absurd hrule (hnone flow hlocal rung hrung)
  exact fun flow hin rung hmem hrule =>
    ⟨hrung flow hin rung hmem hrule, hflow flow hin rung hmem hrule⟩

lemma path_statuses
    (hepoch : collectEpoch fabric subject originPrefix flow device resolver boundSeconds clock =
      .ok epoch)
    (hrung : pathInterfaceRung ∈ flow.descent)
    (hresolve : resolveDevices pathInterfaceRung device subject resolver = .ok targets)
    (hread : (evaluateRung pathInterfaceRung targets subject epoch.forDevice
      originPrefix).status ≠ .unevaluated) :
    ((evaluateRung pathInterfaceRung targets subject epoch.forDevice originPrefix).status =
          .healthy ↔ PathSurvives fabric originPrefix targets) ∧
      ((evaluateRung pathInterfaceRung targets subject
          (collectOneRung fabric subject pathInterfaceRung) none).status = .healthy ↔
        PhysicalRead fabric targets ∧ PhysicalUp fabric targets) ∧
      ((evaluateRung pathInterfaceRung targets subject
          (collectOneRung fabric subject pathInterfaceRung) none).status = .unevaluated ↔
        ¬PhysicalRead fabric targets) := by
  have htargets := resolveDevices_ne_nil hresolve
  rw [pathInterfaceRung_status, walk_path hepoch hrung hresolve] at hread ⊢
  rw [pathInterfaceRung_status, reread_path]
  exact ⟨interfaceRungVerdict_healthy_iff hread, interfaceRungVerdict_reread htargets⟩

theorem reread_status_iff (hflow : flow ∈ flows)
    (hepoch : collectEpoch fabric subject originPrefix flow device resolver boundSeconds clock =
      .ok epoch)
    (hrung : rung ∈ flow.descent)
    (hresolve : resolveDevices rung device subject resolver = .ok targets)
    (hread : (evaluateRung rung targets subject epoch.forDevice originPrefix).status ≠
      .unevaluated) :
    (evaluateRung rung targets subject (collectOneRung fabric subject rung) none).status =
        (evaluateRung rung targets subject epoch.forDevice originPrefix).status ↔
      (rung.subjectRule = .eachPathInterface → PhysicalRead fabric targets ∧
        (PathSurvives fabric originPrefix targets ↔ PhysicalUp fabric targets)) := by
  by_cases hrule : rung.subjectRule = .eachPathInterface
  · obtain ⟨rfl, -⟩ := flows_path flow hflow rung hrung hrule
    obtain ⟨hwalk, hup, hunread⟩ := path_statuses hepoch hrung hresolve hread
    set walk := (evaluateRung pathInterfaceRung targets subject epoch.forDevice
      originPrefix).status
    set reread := (evaluateRung pathInterfaceRung targets subject
      (collectOneRung fabric subject pathInterfaceRung) none).status
    rw [← hwalk]
    by_cases hphysical : PhysicalRead fabric targets
    · rw [and_iff_right hphysical] at hup
      have hknown : reread ≠ .unevaluated := fun h => hunread.mp h hphysical
      rw [and_iff_right hphysical, ← hup, forall_prop_of_true hrule]
      constructor
      · intro h
        rw [h]
      · intro h
        by_cases hhealthy : walk = .healthy
        · rw [hhealthy, h.mp hhealthy]
        · have hbroken : ∀ status : Status, status ≠ .unevaluated → status ≠ .healthy →
              status = .broken := by
            intro status hu hh
            by_contra hb
            exact hh (Status.eq_healthy_of_ne hu hb)
          rw [hbroken walk hread hhealthy, hbroken reread hknown (fun h' => hhealthy (h.mpr h'))]
    · constructor
      · intro h
        rw [hunread.mpr hphysical] at h
        exact absurd h.symm hread
      · intro h
        exact absurd (h hrule).1 hphysical
  · rw [reread_plain hflow hepoch hrung hrule hresolve]
    exact ⟨fun _ h => absurd h hrule, fun _ => rfl⟩

lemma mem_rereadTargets {outcomes : List RungOutcome} {outcome : RungOutcome}
    (h : outcome ∈ rereadTargets outcomes) :
    outcome ∈ outcomes ∧ (outcomes.head? = some outcome ∨ outcome.status = .broken) := by
  unfold rereadTargets at h
  cases outcomes with
  | nil => cases h
  | cons symptom rest =>
    have hsymptom : symptom ∈ symptom :: rest ∧
        ((symptom :: rest).head? = some symptom ∨ symptom.status = .broken) :=
      ⟨List.mem_cons_self, Or.inl rfl⟩
    dsimp only at h
    cases hlast : (brokenOutcomes (symptom :: rest)).getLast? with
    | none =>
      rw [hlast] at h
      cases List.mem_singleton.mp h
      exact hsymptom
    | some cause =>
      have hcause := mem_brokenOutcomes.mp (List.mem_of_getLast? hlast)
      rw [hlast] at h
      dsimp only at h
      split at h
      · rcases List.mem_cons.mp h with rfl | h
        · exact hsymptom
        · cases List.mem_singleton.mp h
          exact ⟨hcause.1, Or.inr hcause.2⟩
      · cases List.mem_singleton.mp h
        exact hsymptom

lemma last_mem_rereadTargets {symptom last : RungOutcome} {between : List RungOutcome}
    (hbroken : last.status = .broken) (hname : last.rung ≠ symptom.rung) :
    last ∈ rereadTargets (symptom :: between ++ [last]) := by
  have hlast : (brokenOutcomes (symptom :: between ++ [last])).getLast? = some last := by
    unfold brokenOutcomes
    rw [List.filter_append, List.filter_singleton, hbroken]
    exact List.getLast?_concat
  unfold rereadTargets
  rw [List.cons_append] at hlast ⊢
  dsimp only
  rw [hlast]
  dsimp only
  rw [if_pos hname]
  exact List.mem_cons_of_mem _ (List.mem_singleton_self last)

lemma head_mem_rereadTargets (symptom : RungOutcome) (rest : List RungOutcome) :
    symptom ∈ rereadTargets (symptom :: rest) := by
  unfold rereadTargets
  dsimp only
  split
  · split
    · exact List.mem_cons_self
    · exact List.mem_cons_self
  · exact List.mem_cons_self

lemma flows_bgp : ∀ flow ∈ flows, flow.objectType = "bgp_session" → flow = bgpSessionFlow := by
  apply flows_cases
  · exact fun _ => rfl
  · exact fun h => absurd h (by decide)
  · exact fun h => absurd h (by decide)
  · exact fun h => absurd h (by decide)

/-- On a still fabric the coherence check of an evaluated walk agrees with it, and the re-read
of each rung has its verdict, except for the path of a BGP session: the re-read of its rung is
not told the origin, so it judges every physical port where the walk judged the way back. -/
theorem still_fabric_iff (hflow : flow ∈ flows)
    (hepoch : collectEpoch fabric subject originPrefix flow device resolver boundSeconds clock =
      .ok epoch)
    (coherence : Option (List RungOutcome → Coherence))
    (hread : ∀ outcome ∈ (runDescent (fun target _ _ => epoch.forDevice target) resolver
      originPrefix device subject flow coherence).outcomes, outcome.status ≠ .unevaluated) :
    let again := checkCoherence fabric flow (runDescent (fun target _ _ => epoch.forDevice target)
      resolver originPrefix device subject flow coherence).outcomes epoch subject device resolver
    ((∀ reread ∈ again.rereads, reread.agrees = true) ∧
          (again.status = .coherent ∨ again.status = .windowLimited) ↔
        (flow.objectType = "bgp_session" → ∀ targets,
          resolveDevices pathInterfaceRung device subject resolver = .ok targets →
          PathSurvives fabric originPrefix targets ∨
            PhysicalRead fabric targets ∧ ¬PhysicalUp fabric targets)) ∧
      ∀ rung ∈ flow.descent, ∀ targets,
        resolveDevices rung device subject resolver = .ok targets →
        ((evaluateRung rung targets subject (collectOneRung fabric subject rung) none).status =
            (evaluateRung rung targets subject epoch.forDevice originPrefix).status ↔
          (rung.subjectRule = .eachPathInterface → PhysicalRead fabric targets ∧
            (PathSurvives fabric originPrefix targets ↔ PhysicalUp fabric targets))) := by
  set verdict := rungOutcome (fun target _ _ => epoch.forDevice target) resolver originPrefix
    device subject with hverdict
  have houtcomes := runDescent_outcomes_of_read hread
  have hnames := flows_names_nodup flow hflow
  have hknown : ∀ rung ∈ flow.descent, (verdict rung).status ≠ .unevaluated := by
    intro rung hrung
    apply hread
    rw [houtcomes]
    exact List.mem_map_of_mem hrung
  have hstatus : ∀ rung ∈ flow.descent, ∀ targets,
      resolveDevices rung device subject resolver = .ok targets →
      (verdict rung).status =
        (evaluateRung rung targets subject epoch.forDevice originPrefix).status := by
    intro rung hrung targets hresolve
    obtain ⟨targets', hresolve', h⟩ := resolve_of_read (hknown rung hrung)
    rw [hresolve] at hresolve'
    cases hresolve'
    exact h
  have hrungs : ∀ rung ∈ flow.descent, ∀ targets,
      resolveDevices rung device subject resolver = .ok targets →
      ((evaluateRung rung targets subject (collectOneRung fabric subject rung) none).status =
          (evaluateRung rung targets subject epoch.forDevice originPrefix).status ↔
        (rung.subjectRule = .eachPathInterface → PhysicalRead fabric targets ∧
          (PathSurvives fabric originPrefix targets ↔ PhysicalUp fabric targets))) := by
    intro rung hrung targets hresolve
    apply reread_status_iff hflow hepoch hrung hresolve
    rw [← hstatus rung hrung targets hresolve]
    exact hknown rung hrung
  -- Each rung that is read again agrees when its two verdicts are the same.
  have hagrees : ∀ rung ∈ flow.descent, ∃ targets reread,
      resolveDevices rung device subject resolver = .ok targets ∧
      rereadOutcome fabric flow subject device resolver (verdict rung) = some reread ∧
      (reread.agrees = true ↔ (rung.subjectRule = .eachPathInterface →
        PhysicalRead fabric targets ∧
          (PathSurvives fabric originPrefix targets ↔ PhysicalUp fabric targets))) := by
    intro rung hrung
    obtain ⟨targets, hresolve, -⟩ := resolve_of_read (hknown rung hrung)
    obtain ⟨reread, hreread, hiff⟩ := @rereadOutcome_agrees_iff fabric subject originPrefix flow
      device resolver rung targets (fun target _ _ => epoch.forDevice target) hnames hrung hresolve
    rw [hstatus rung hrung targets hresolve, hrungs rung hrung targets hresolve] at hiff
    exact ⟨targets, reread, hresolve, hreread, hiff⟩
  refine ⟨?_, hrungs⟩
  rw [houtcomes]
  have hmem : ∀ reread, reread ∈ (checkCoherence fabric flow (flow.descent.map verdict) epoch
      subject device resolver).rereads ↔ ∃ outcome ∈ rereadTargets (flow.descent.map verdict),
        rereadOutcome fabric flow subject device resolver outcome = some reread := by
    intro reread
    exact List.mem_filterMap
  have hsome : (checkCoherence fabric flow (flow.descent.map verdict) epoch subject device
      resolver).rereads ≠ [] := by
    cases hdescent : flow.descent with
    | nil => exact absurd hdescent (flows_descent_ne_nil flow hflow)
    | cons top rest =>
      have htop : top ∈ flow.descent := by
        rw [hdescent]
        exact List.mem_cons_self
      obtain ⟨targets, reread, -, hreread, -⟩ := hagrees top htop
      rw [← hdescent]
      apply List.ne_nil_of_mem ((hmem reread).mpr ⟨verdict top, ?_, hreread⟩)
      rw [hdescent]
      exact head_mem_rereadTargets _ _
  rw [Coherence.settled_iff, and_iff_right hsome, and_self]
  constructor
  · -- A path that does not survive is the lowest broken rung, and is read again.
    intro hall hbgp targets hresolve
    obtain rfl := flows_bgp flow hflow hbgp
    have hpath : pathInterfaceRung ∈ bgpSessionFlow.descent := by simp [bgpSessionFlow]
    obtain ⟨hwalk, -, -⟩ := path_statuses hepoch hpath hresolve
      (hstatus _ hpath targets hresolve ▸ hknown _ hpath)
    by_cases hsurvives : PathSurvives fabric originPrefix targets
    · exact Or.inl hsurvives
    · right
      have hbroken : (verdict pathInterfaceRung).status = .broken := by
        have hne := hknown _ hpath
        rw [hstatus _ hpath targets hresolve] at hne ⊢
        by_contra hb
        exact hsurvives (hwalk.mp (Status.eq_healthy_of_ne hne hb))
      obtain ⟨targets', reread, hresolve', hreread, hiff⟩ := hagrees _ hpath
      rw [hresolve] at hresolve'
      cases hresolve'
      have hin : verdict pathInterfaceRung ∈
          rereadTargets (bgpSessionFlow.descent.map verdict) := by
        apply @last_mem_rereadTargets (verdict bgpSessionRung) (verdict pathInterfaceRung)
          [verdict transportRung, verdict routeToPeerRung, verdict igpAdjacencyRung] hbroken
        rw [hverdict, rungOutcome_rung, rungOutcome_rung]
        decide
      have hagree := hiff.mp (hall reread ((hmem reread).mpr ⟨_, hin, hreread⟩)) rfl
      exact ⟨hagree.1, fun hup => hsurvives (hagree.2.mpr hup)⟩
  · intro hcondition reread hreread
    obtain ⟨outcome, hin, hreread⟩ := (hmem reread).mp hreread
    obtain ⟨hoccurs, hwhy⟩ := mem_rereadTargets hin
    obtain ⟨rung, hrung, rfl⟩ := List.mem_map.mp hoccurs
    obtain ⟨targets, reread', hresolve, hreread', hiff⟩ := hagrees rung hrung
    rw [hreread] at hreread'
    cases hreread'
    rw [hiff]
    intro hrule
    obtain ⟨rfl, rfl⟩ := flows_path flow hflow rung hrung hrule
    have hbroken : (verdict pathInterfaceRung).status = .broken := by
      rcases hwhy with hhead | hbroken
      · have hname := congrArg (Option.map RungOutcome.rung) hhead
        rw [List.head?_map, Option.map_map] at hname
        have hrungs : bgpSessionFlow.descent.head? = some bgpSessionRung := rfl
        rw [hrungs, Option.map_some, Option.map_some, Function.comp_apply, hverdict,
          rungOutcome_rung, rungOutcome_rung] at hname
        exact absurd hname (by decide)
      · exact hbroken
    obtain ⟨hwalk, -, -⟩ := path_statuses hepoch hrung hresolve
      (hstatus _ hrung targets hresolve ▸ hknown _ hrung)
    rw [hstatus _ hrung targets hresolve] at hbroken
    have hdown : ¬PathSurvives fabric originPrefix targets := by
      rw [← hwalk, hbroken]
      decide
    obtain hsurvives | ⟨hphysical, hnotup⟩ := hcondition rfl targets hresolve
    · exact absurd hsurvives hdown
    · exact ⟨hphysical, fun h => absurd h hdown, fun h => absurd h hnotup⟩

end Main

section Bundle

/-- A session that is down between `RR1` and `PE2`, whose way back is a bundle that is down over
a port that is up. -/
def bundleFabric : Fabric := fun device key =>
  let sections :=
    if device = "RR1" then
      [("bgp", parsedSection {}
        [{ neighbor := some "10.255.0.12", sessionState := some "Idle" }]),
      ("bgp_neighbor:10.255.0.12",
        parsedSection { found := true, socketArmedRead := some false } []),
      ("route:10.255.0.12/32", parsedSection { found := true } [])]
    else
      [("isis", parsedSection {} [{ interface := some "Gi0/0/0/0", state := some "Up" }]),
      ("interfaces", parsedSection {} [upInterface "Gi0/0/0/0",
        { interface := some "BE1", adminState := some "up", lineProtocol := some "down" }]),
      ("route:10.255.0.31/32", parsedSection { found := true }
        [{ interface := some "Bundle-Ether1" }])]
  (sections.lookup key).getD {}

/-- The epoch of a descent from `RR1` to `10.255.0.12` over that fabric. -/
def bundleEpoch : Except String EvidenceEpoch :=
  collectEpoch bundleFabric "10.255.0.12" (some "10.255.0.31/32") bgpSessionFlow "RR1"
    (some (fun _ => .ok (.inl "PE2"))) 30 (fun _ => 0)

def bundleOutcomes (epoch : EvidenceEpoch) : List RungOutcome :=
  (runDescent (fun target _ _ => epoch.forDevice target) (some (fun _ => .ok (.inl "PE2")))
    (some "10.255.0.31/32") "RR1" "10.255.0.12" bgpSessionFlow none).outcomes

def bundleCoherence (epoch : EvidenceEpoch) : Coherence :=
  checkCoherence bundleFabric bgpSessionFlow (bundleOutcomes epoch) epoch "10.255.0.12" "RR1"
    (some (fun _ => .ok (.inl "PE2")))

/-- Nothing changed between the collection and the re-read, and still the fabric has moved. -/
theorem still_fabric_moves : ∃ epoch, bundleEpoch = .ok epoch ∧
    (∀ outcome ∈ bundleOutcomes epoch, outcome.status ≠ .unevaluated) ∧
      (bundleCoherence epoch).status = .fabricMoved ∧ (bundleCoherence epoch).refuses = true := by
  have h : bundleEpoch.toOption.any (fun epoch =>
      decide ((∀ outcome ∈ bundleOutcomes epoch, outcome.status ≠ .unevaluated) ∧
        (bundleCoherence epoch).status = .fabricMoved ∧
          (bundleCoherence epoch).refuses = true)) = true := by decide +kernel
  cases hepoch : bundleEpoch with
  | error message =>
    rw [hepoch] at h
    cases h
  | ok epoch =>
    rw [hepoch] at h
    exact ⟨epoch, rfl, of_decide_eq_true h⟩

/-- There the way back is down while every port is up. -/
theorem still_fabric_iff_bundle : ∃ epoch, bundleEpoch = .ok epoch ∧
    ¬(PathSurvives bundleFabric (some "10.255.0.31/32") ["PE2"] ∨
      PhysicalRead bundleFabric ["PE2"] ∧ ¬PhysicalUp bundleFabric ["PE2"]) := by
  have h : bundleEpoch.toOption.any (fun epoch =>
      decide ((∀ outcome ∈ bundleOutcomes epoch, outcome.status ≠ .unevaluated) ∧
        (bundleCoherence epoch).status = .fabricMoved)) = true := by decide +kernel
  cases hepoch : bundleEpoch with
  | error message =>
    rw [hepoch] at h
    cases h
  | ok epoch =>
    rw [hepoch] at h
    obtain ⟨hread, hmoved⟩ := of_decide_eq_true h
    refine ⟨epoch, rfl, ?_⟩
    intro hcondition
    have hsettled := (still_fabric_iff List.mem_cons_self hepoch none hread).1.mpr (by
      intro _ targets hresolve
      cases hresolve
      exact hcondition)
    change _ ∧ ((bundleCoherence epoch).status = _ ∨ (bundleCoherence epoch).status = _)
      at hsettled
    rw [hmoved] at hsettled
    rcases hsettled.2 with hcontra | hcontra
    · cases hcontra
    · cases hcontra

end Bundle

end NetTools
