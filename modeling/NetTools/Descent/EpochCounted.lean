import Mathlib.Algebra.BigOperators.Group.List.Basic
import NetTools.Descent.EpochAccounts

/-!
# When every read counts once

The entries of a device have keys of their own unless the reverse route is read before a fan-out:
its answers are merged into the evidence and listed once more. Sessions and time come out right in
either case. The sections of such an epoch are those of an epoch on devices that change.
-/

namespace NetTools

namespace Accounts

section Keys

variable {replies : Replies} {subject : String} {originPrefix : Option String} {flow : Flow}
  {device : String} {resolver : Option Resolver} {planned : Plan} {target : String}
  {steps : List CollectStep} {calls : List String}

def Quiet (subject : String) (originPrefix : Option String) (steps : List CollectStep) : Prop :=
  ∀ step ∈ steps, step.fill = some "origin" → ∀ evidence,
    templateCalls step subject evidence originPrefix = []

def bundleKeys : List String := ["device", "platform", "timestamp"] ++ allIntents

lemma keys_zip (manifest : List (String × Call)) (answer : String × Call → Envelope) :
    ((manifest.map Prod.fst).zip (manifest.map answer)).map Prod.fst = manifest.map Prod.fst := by
  apply List.map_fst_zip
  rw [List.length_map, List.length_map]

lemma manifestFor_quiet (h : Quiet subject originPrefix steps) (evidence : Evidence) :
    manifestFor subject originPrefix (steps.filter (fun step => step.fill == some "origin"))
      evidence = [] := by
  rw [manifestFor, List.flatMap_eq_nil_iff]
  intro step hstep
  obtain ⟨hmem, hfill⟩ := List.mem_filter.mp hstep
  rw [h step hmem (beq_iff_eq.mp hfill) evidence]
  rfl

variable (replies) in
lemma keys_readDevice (h : Quiet subject originPrefix steps) (target : String)
    (calls : List String) :
    ∃ kept evidence, kept.Sublist steps ∧
      (readDevice replies subject originPrefix target steps calls).1.map Prod.fst =
        bundleKeys ++ (manifestFor subject originPrefix kept evidence).map Prod.fst := by
  rw [readDevice]
  by_cases hfan : steps.any CollectStep.fansOut = true
  · rw [if_pos hfan, manifestFor_quiet h]
    refine ⟨steps.filter (fun step => step.fill != some "origin"),
      sectionsOf target (collectEvidenceAndTemplates replies target [] calls).1,
      List.filter_sublist, ?_⟩
    rw [List.map_append]
    exact congrArg₂ (· ++ ·) rfl (keys_zip _ _)
  · rw [if_neg hfan]
    refine ⟨steps, evidenceOf "" [], List.Sublist.refl steps, ?_⟩
    rw [List.map_append]
    exact congrArg₂ (· ++ ·) rfl (keys_zip _ _)

lemma mem_keys_foldl_assign {entries d : List (String × Envelope)} {key : String} :
    key ∈ (entries.foldl (fun d entry => LastRow.assign d entry.1 entry.2) d).map Prod.fst ↔
      key ∈ d.map Prod.fst ∨ key ∈ entries.map Prod.fst := by
  induction entries generalizing d with
  | nil => simp
  | cons entry entries ih =>
    rw [List.foldl_cons, ih, LastRow.mem_keys_assign, List.map_cons, List.mem_cons]
    tauto

variable (replies subject originPrefix) in
lemma keys_readDevice_fansOut (hfan : steps.any CollectStep.fansOut = true) (target : String)
    (calls : List String) :
    let okeys := (manifestFor subject originPrefix
      (steps.filter (fun step => step.fill == some "origin")) (evidenceOf "" [])).map Prod.fst
    ∃ mergedKeys restKeys, (∀ key, key ∈ mergedKeys ↔ key ∈ bundleKeys ∨ key ∈ okeys) ∧
      (readDevice replies subject originPrefix target steps calls).1.map Prod.fst =
        mergedKeys ++ (okeys ++ restKeys) := by
  let omanifest := manifestFor subject originPrefix
    (steps.filter (fun step => step.fill == some "origin")) (evidenceOf "" [])
  let bundle := collectEvidenceAndTemplates replies target omanifest calls
  let merged := ((omanifest.map Prod.fst).zip bundle.2.1).foldl
    (fun d entry => LastRow.assign d entry.1 entry.2) bundle.1
  let manifest := manifestFor subject originPrefix
    (steps.filter (fun step => step.fill != some "origin")) (sectionsOf target merged)
  have hlength : (omanifest.map Prod.fst).length = bundle.2.1.length := by
    rw [List.length_map]
    exact (List.length_map _).symm
  refine ⟨merged.map Prod.fst, manifest.map Prod.fst, ?_, ?_⟩
  · intro key
    rw [mem_keys_foldl_assign, List.map_fst_zip hlength.le]
    rfl
  · have hboth : (omanifest.map Prod.fst ++ manifest.map Prod.fst).length ≤
        (bundle.2.1 ++ (runTemplatesSplit replies target manifest bundle.2.2).1).length := by
      rw [List.length_append, List.length_append, hlength, List.length_map]
      exact (congrArg (bundle.2.1.length + ·) (List.length_map _).symm).le
    rw [readDevice, if_pos hfan, ← List.map_fst_zip hboth, ← List.map_append]

lemma nodup_eraseDups {α : Type} [BEq α] [LawfulBEq α] (l : List α) : l.eraseDups.Nodup := by
  induction hn : l.length using Nat.strong_induction_on generalizing l with
  | _ n ih =>
    cases l with
    | nil => exact List.nodup_nil
    | cons a l =>
      have hshort : (l.filter (fun b => !b == a)).length < n := by
        rw [← hn, List.length_cons]
        exact Nat.lt_succ_of_le (List.length_filter_le _ _)
      rw [List.eraseDups_cons, List.nodup_cons, List.mem_eraseDups, List.mem_filter]
      refine ⟨?_, ih _ hshort _ rfl⟩
      rintro ⟨-, hne⟩
      simp at hne

lemma nodup_templateCalls (step : CollectStep) (evidence : Evidence) :
    ((templateCalls step subject evidence originPrefix).map Prod.fst).Nodup := by
  unfold templateCalls
  split
  · split
    · exact List.nodup_nil
    · exact List.nodup_singleton _
  · split
    · exact List.nodup_singleton _
    · split
      · exact List.nodup_singleton _
      · split
        · rw [List.map_map]
          apply List.Nodup.map
          · intro name name' heq
            exact (String.append_right_inj _).mp heq
          · exact nodup_eraseDups _
        · split
          · exact List.nodup_singleton _
          · exact List.nodup_nil

lemma keyName_manifestFor (h : ∀ step ∈ steps, step.Registered) {evidence : Evidence}
    {call : String × Call} (hcall : call ∈ manifestFor subject originPrefix steps evidence) :
    ∃ step ∈ steps, keyName call.1 = step.name.toList := by
  rw [manifestFor, List.mem_flatMap] at hcall
  obtain ⟨step, hstep, hcall⟩ := hcall
  obtain ⟨made, hmade, rfl⟩ := List.mem_map.mp hcall
  refine ⟨step, hstep, ?_⟩
  rw [← key_templateCalls hmade]
  exact ((h step hstep).known_templateCalls hmade).keyName_key

/-- Steps that are not the same have different names, unless they are about the origin. -/
def DistinctNames (steps : List CollectStep) : Prop :=
  steps.Pairwise (fun step other => step.fill ≠ some "origin" → other.fill ≠ some "origin" →
    step.name ≠ other.name)

lemma nodup_manifestFor (h : ∀ step ∈ steps, step.Registered)
    (hquiet : Quiet subject originPrefix steps) (hnames : DistinctNames steps)
    (evidence : Evidence) :
    ((manifestFor subject originPrefix steps evidence).map Prod.fst).Nodup := by
  rw [keys_manifestFor, manifestKeys, List.map_flatMap, List.nodup_flatMap]
  refine ⟨fun step _ => nodup_templateCalls step evidence, ?_⟩
  apply hnames.imp_of_mem
  intro step other hstep hother hne key hkey hkey'
  obtain ⟨made, hmade, rfl⟩ := List.mem_map.mp hkey
  obtain ⟨made', hmade', heq⟩ := List.mem_map.mp hkey'
  have hfill : step.fill ≠ some "origin" := by
    intro hfill
    rw [hquiet step hstep hfill] at hmade
    cases hmade
  have hfill' : other.fill ≠ some "origin" := by
    intro hfill
    rw [hquiet other hother hfill] at hmade'
    cases hmade'
  have hname := ((h step hstep).known_templateCalls hmade).keyName_key
  have hname' := ((h other hother).known_templateCalls hmade').keyName_key
  rw [key_templateCalls hmade] at hname
  rw [key_templateCalls hmade', heq, hname] at hname'
  exact hne hfill hfill' (String.toList_inj.mp hname')

lemma not_mem_bundleKeys (h : ∀ step ∈ steps, step.Registered) {evidence : Evidence}
    {key : String}
    (hkey : key ∈ (manifestFor subject originPrefix steps evidence).map Prod.fst) :
    key ∉ bundleKeys ∧ key ≠ "ldp_intent" := by
  have hbundle : ∀ key ∈ "ldp_intent" :: bundleKeys, ∀ entry ∈ templateParams,
      keyName key ≠ entry.1.toList := by decide
  obtain ⟨call, hcall, rfl⟩ := List.mem_map.mp hkey
  obtain ⟨step, hstep, hname⟩ := keyName_manifestFor h hcall
  have hknown := (h step hstep).known
  constructor
  · intro hin
    exact hbundle _ (List.mem_cons_of_mem _ hin) _ hknown hname
  · intro heq
    exact hbundle _ (heq ▸ List.mem_cons_self) _ hknown hname

lemma nodup_readDevice (h : ∀ step ∈ steps, step.Registered)
    (hquiet : Quiet subject originPrefix steps) (hnames : DistinctNames steps) (target : String)
    (calls : List String) :
    let keys := (readDevice replies subject originPrefix target steps calls).1.map Prod.fst
    keys.Nodup ∧ "ldp_intent" ∉ keys := by
  obtain ⟨kept, evidence, hsub, hkeys⟩ := keys_readDevice replies hquiet target calls
  have hregistered : ∀ step ∈ kept, step.Registered := fun step hstep => h step (hsub.subset hstep)
  have hnodup := nodup_manifestFor hregistered
    (fun step hstep => hquiet step (hsub.subset hstep)) (List.Pairwise.sublist hsub hnames) evidence
  have hbundle : bundleKeys.Nodup := by decide
  have hintent : "ldp_intent" ∉ bundleKeys := by decide
  dsimp only
  rw [hkeys]
  constructor
  · apply List.Nodup.append hbundle hnodup
    intro key hkey hkey'
    exact (not_mem_bundleKeys hregistered hkey').1 hkey
  · rw [List.mem_append, not_or]
    exact ⟨hintent, fun hin => (not_mem_bundleKeys hregistered hin).2 rfl⟩

end Keys

section Plan

variable {subject : String} {originPrefix : Option String} {flow : Flow} {device : String}
  {resolver : Option Resolver} {planned : Plan} {steps : List CollectStep}

lemma nodup_extendSteps (rung : Rung) (h : steps.Nodup) : (extendSteps rung steps).Nodup := by
  unfold extendSteps
  induction rung.collect generalizing steps with
  | nil => exact h
  | cons step rest ih =>
    rw [List.foldl_cons]
    apply ih
    split
    · rename_i hnew
      exact List.Nodup.append h (List.nodup_singleton step) (List.disjoint_singleton.mpr hnew.2)
    · exact h

lemma plan_nodup_steps (h : plan flow device subject resolver = .ok planned) :
    ∀ entry ∈ planned, entry.2.Nodup := by
  apply plan_induction (P := fun planned => ∀ entry ∈ planned, entry.2.Nodup) _ _ h
  · exact fun entry hentry => absurd hentry List.not_mem_nil
  · intro rung _ targets _ target _ planned hplanned
    induction planned with
    | nil =>
      rw [planDevice, List.forall_mem_singleton]
      exact nodup_extendSteps rung List.nodup_nil
    | cons entry rest ih =>
      obtain ⟨other, steps⟩ := entry
      rw [List.forall_mem_cons] at hplanned
      rw [planDevice]
      split
      · rw [List.forall_mem_cons]
        exact ⟨nodup_extendSteps rung hplanned.1, hplanned.2⟩
      · rw [List.forall_mem_cons]
        exact ⟨hplanned.1, ih hplanned.2⟩

def subjectSteps (flow : Flow) : List CollectStep :=
  (flow.descent.flatMap Rung.collect).filter
    (fun step => step.isTemplate && step.fill != some "origin")

lemma flows_steps_named : ∀ flow ∈ flows, ∀ step ∈ subjectSteps flow, ∀ other ∈ subjectSteps flow,
    step.name = other.name → step = other :=
  flows_cases (by decide) (by decide) (by decide) (by decide)

lemma flows_steps_origin : ∀ flow ∈ flows, flow.objectType ≠ "bgp_session" →
    ∀ rung ∈ flow.descent, ∀ step ∈ rung.collect, step.fill ≠ some "origin" :=
  flows_cases (by decide) (by decide) (by decide) (by decide)

lemma distinctNames_of_plan (hflow : flow ∈ flows)
    (h : plan flow device subject resolver = .ok planned) :
    ∀ entry ∈ planned, DistinctNames entry.2 := by
  intro entry hentry
  apply List.Pairwise.imp_of_mem ?_ (plan_nodup_steps h entry hentry)
  have hsteps : ∀ step ∈ entry.2, step.fill ≠ some "origin" → step ∈ subjectSteps flow := by
    intro step hstep hfill
    obtain ⟨rung, hrung, hcollect, htemplate, -⟩ := plan_declared h entry hentry step hstep
    rw [subjectSteps, List.mem_filter, Bool.and_eq_true, bne_iff_ne]
    exact ⟨List.mem_flatMap.mpr ⟨rung, hrung, hcollect⟩, htemplate, hfill⟩
  intro step other hstep hother hne hfill hfill' hname
  exact hne (flows_steps_named flow hflow step (hsteps step hstep hfill) other
    (hsteps other hother hfill') hname)

lemma quiet_of_plan (hflow : flow ∈ flows) (h : plan flow device subject resolver = .ok planned)
    (hquiet : flow.objectType ≠ "bgp_session" ∨ orNone originPrefix = none) :
    ∀ entry ∈ planned, Quiet subject originPrefix entry.2 := by
  intro entry hentry step hstep hfill evidence
  rcases hquiet with hother | hnone
  · obtain ⟨rung, hrung, hcollect, -⟩ := plan_declared h entry hentry step hstep
    exact absurd hfill (flows_steps_origin flow hflow hother rung hrung step hcollect)
  · rw [templateCalls, if_pos hfill, hnone]

lemma resolves_of_plan {rung : Rung} (h : plan flow device subject resolver = .ok planned)
    (hrung : rung ∈ flow.descent) :
    ∃ targets target, resolveDevices rung device subject resolver = .ok targets ∧
      target ∈ targets := by
  obtain ⟨resolved, hresolved, -⟩ := plan_cases h
  obtain ⟨targets, htargets⟩ : ∃ targets, resolveDevices rung device subject resolver =
      .ok targets := ⟨_, hresolved rung hrung⟩
  have hne : targets ≠ [] := by
    unfold resolveDevices at htargets
    split at htargets
    · cases htargets
      exact List.cons_ne_nil _ _
    · split at htargets
      · cases htargets
      · split at htargets
        · cases htargets
        · cases htargets
          exact List.cons_ne_nil _ _
        · split at htargets
          · cases htargets
          · rename_i hne
            cases htargets
            exact hne
  obtain ⟨target, htarget⟩ := List.exists_mem_of_ne_nil _ hne
  exact ⟨targets, target, htargets, htarget⟩

lemma planned_of_static {entry : String × String}
    (h : plan flow device subject resolver = .ok planned)
    (hentry : entry ∈ staticKeys subject flow device resolver) :
    entry.1 ∈ planned.map Prod.fst := by
  obtain ⟨rung, hrung, targets, hresolve, htarget, -⟩ := mem_staticKeys.mp hentry
  obtain ⟨steps, hsteps, -⟩ := plan_covers h hrung hresolve htarget
  exact List.mem_map.mpr ⟨_, hsteps, rfl⟩

end Plan

lemma sum_map_eq_of_nodup {α : Type} [DecidableEq α] {l : List α} (hl : l.Nodup) {x : α}
    (hx : x ∈ l) {f : α → ℚ} (hf : ∀ y ∈ l, y ≠ x → f y = 0) : (l.map f).sum = f x := by
  have hrest : ((l.erase x).map f).sum = 0 := by
    apply List.sum_eq_zero
    intro q hq
    obtain ⟨y, hy, rfl⟩ := List.mem_map.mp hq
    obtain ⟨hne, hmem⟩ := (List.Nodup.mem_erase_iff hl).mp hy
    exact hf y hmem hne
  rw [((List.perm_cons_erase hx).map f).sum_eq, List.map_cons, List.sum_cons, hrest, add_zero]

section Run

variable {replies : Replies} {subject : String} {originPrefix : Option String} {flow : Flow}
  {device : String} {resolver : Option Resolver} {boundSeconds : ℚ} {clock : Nat → ℚ} {run : Run}

structure Follows (replies : Replies) (subject : String) (originPrefix : Option String)
    (flow : Flow) (device : String) (resolver : Option Resolver) (clock : Nat → ℚ) (run : Run)
    (planned : Plan) : Prop where
  plan : NetTools.plan flow device subject resolver = .ok planned
  reads : run.reads = (readPlanned replies subject originPrefix clock planned 1 []).1
  calls : run.calls = (readPlanned replies subject originPrefix clock planned 1 []).2
  observations : run.epoch.observations =
    (staticKeys subject flow device resolver).map (fun entry =>
      { key := entry.2, device := entry.1, started := clock 0, completed := clock 0
        envelope := .reply { content := replies.inventory entry.1 entry.2 } }) ++
      run.reads.flatMap DeviceRead.observations
  sessions : run.epoch.sessionCounts = run.reads.map (fun read => (read.device, read.sessions))

lemma follows_of_collectEpoch
    (h : collectEpoch replies subject originPrefix flow device resolver boundSeconds clock =
      .ok run) :
    ∃ planned, Follows replies subject originPrefix flow device resolver clock run planned := by
  unfold collectEpoch at h
  obtain ⟨-, -, h⟩ := Validation.bind_eq_ok_iff.mp h
  obtain ⟨planned, hplan, h⟩ := Validation.bind_eq_ok_iff.mp h
  cases h
  exact ⟨planned, hplan, rfl, rfl, rfl, rfl⟩

namespace Follows

variable {planned : Plan}
  (h : Follows replies subject originPrefix flow device resolver clock run planned)

include h

lemma devices : run.reads.map DeviceRead.device = planned.map Prod.fst := by
  rw [h.reads]
  exact readPlanned_devices _ _ _

lemma nodup_devices : (run.reads.map DeviceRead.device).Nodup := by
  rw [h.devices]
  exact plan_nodup h.plan

lemma steps_of_read {read : DeviceRead} (hread : read ∈ run.reads) :
    ∃ steps calls, (read.device, steps) ∈ planned ∧
      read.entries = (readDevice replies subject originPrefix read.device steps calls).1 := by
  rw [h.reads] at hread
  exact Accounts.steps_of_read hread

lemma keys_observations : run.epoch.observations.map (fun o => (o.device, o.key)) =
    staticKeys subject flow device resolver ++
      run.reads.flatMap (fun read => read.entries.map (fun entry => (read.device, entry.1))) := by
  rw [h.observations, List.map_append, List.map_map, List.map_flatMap]
  congr 1
  · exact List.map_id _
  · congr 1
    funext read
    rw [DeviceRead.observations, List.map_map]
    rfl

lemma sections (hflow : flow ∈ flows)
    (hentries : ∀ read ∈ run.reads,
      (read.entries.map Prod.fst).Nodup ∧ "ldp_intent" ∉ read.entries.map Prod.fst) :
    (run.epoch.observations.map (fun o => (o.device, o.key))).Nodup := by
  rw [h.keys_observations]
  apply List.Nodup.append
  · exact nodup_eraseDups _
  · rw [List.nodup_flatMap]
    constructor
    · intro read hread
      have hkeys := (hentries read hread).1
      have hpairs : read.entries.map (fun entry => (read.device, entry.1)) =
          (read.entries.map Prod.fst).map (fun key => (read.device, key)) := by
        rw [List.map_map]
        rfl
      rw [hpairs]
      exact hkeys.map fun key key' heq => (Prod.mk.inj heq).2
    · have hdevices := List.pairwise_map.mp h.nodup_devices
      apply hdevices.imp
      intro read other hne pair hpair hpair'
      obtain ⟨entry, -, rfl⟩ := List.mem_map.mp hpair
      obtain ⟨entry', -, heq⟩ := List.mem_map.mp hpair'
      exact hne (Prod.mk.inj heq).1.symm
  · intro pair hstatic hpair
    obtain ⟨read, hread, hpair⟩ := List.mem_flatMap.mp hpair
    obtain ⟨entry, hentry, rfl⟩ := List.mem_map.mp hpair
    apply (hentries read hread).2
    rw [← name_of_staticKeys hflow hstatic]
    exact List.mem_map_of_mem hentry

lemma sessions_eq (target : String) :
    (run.epoch.sessionCounts.lookup target).getD 0 = run.calls.count target := by
  have hcalls : (readPlanned replies subject originPrefix clock planned 1 []).2.count target =
      List.count target [] + (((readPlanned replies subject originPrefix clock planned 1 []).1.map
        (fun read => (read.device, read.sessions))).lookup target).getD 0 :=
    readPlanned_calls (plan_nodup h.plan) 1 [] target
  rw [h.sessions, h.reads, h.calls, hcalls, List.count_nil, Nat.zero_add]

lemma entries_ne_nil {read : DeviceRead} (hread : read ∈ run.reads) : read.entries ≠ [] := by
  obtain ⟨steps, calls, -, hentries⟩ := h.steps_of_read hread
  have hkeys : read.entries.map Prod.fst ≠ [] := by
    rw [hentries]
    by_cases hfan : steps.any CollectStep.fansOut = true
    · obtain ⟨mergedKeys, restKeys, hmerged, hkeys⟩ :=
        keys_readDevice_fansOut replies subject originPrefix hfan read.device calls
      have hdevice : "device" ∈ mergedKeys := (hmerged "device").mpr (.inl (by decide))
      rw [hkeys]
      exact List.append_ne_nil_of_left_ne_nil (List.ne_nil_of_mem hdevice) _
    · rw [readDevice, if_neg hfan]
      exact List.cons_ne_nil _ _
  intro hnil
  rw [hnil] at hkeys
  exact hkeys rfl

lemma valuesAt_spans (target : String) {span : ℚ × ℚ} :
    span ∈ Gathering.valuesAt target
      (run.epoch.observations.map (fun o => (o.device, (o.started, o.completed)))) ↔
      (target ∈ (staticKeys subject flow device resolver).map Prod.fst ∧
        span = (clock 0, clock 0)) ∨
      ∃ read ∈ run.reads, read.device = target ∧ span = (read.started, read.completed) := by
  have hmem : span ∈ Gathering.valuesAt target
      (run.epoch.observations.map (fun o => (o.device, (o.started, o.completed)))) ↔
        ∃ o ∈ run.epoch.observations, o.device = target ∧ (o.started, o.completed) = span := by
    rw [Gathering.valuesAt, List.filterMap_map, List.mem_filterMap]
    simp only [Function.comp_apply, Option.ite_none_right_eq_some, Option.some.injEq]
  rw [hmem, h.observations]
  constructor
  · rintro ⟨o, ho, rfl, rfl⟩
    rcases List.mem_append.mp ho with ho | ho
    · obtain ⟨entry, hentry, rfl⟩ := List.mem_map.mp ho
      exact .inl ⟨List.mem_map_of_mem hentry, rfl⟩
    · obtain ⟨read, hread, ho⟩ := List.mem_flatMap.mp ho
      obtain ⟨entry, -, rfl⟩ := List.mem_map.mp ho
      exact .inr ⟨read, hread, rfl, rfl⟩
  · rintro (⟨hstatic, rfl⟩ | ⟨read, hread, rfl, rfl⟩)
    · obtain ⟨entry, hentry, rfl⟩ := List.mem_map.mp hstatic
      exact ⟨_, List.mem_append_left _ (List.mem_map_of_mem hentry), rfl, rfl⟩
    · obtain ⟨entry, hentry⟩ := List.exists_mem_of_ne_nil _ (h.entries_ne_nil hread)
      exact ⟨_, List.mem_append_right _
        (List.mem_flatMap.mpr ⟨read, hread, List.mem_map_of_mem hentry⟩), rfl, rfl⟩

lemma sum_spans {read : DeviceRead} (hread : read ∈ run.reads) :
    (((Gathering.valuesAt read.device (run.epoch.observations.map
      (fun o => (o.device, (o.started, o.completed))))).dedup.map
        EvidenceEpoch.milliseconds).sum) =
      EvidenceEpoch.milliseconds (read.started, read.completed) := by
  apply sum_map_eq_of_nodup (List.nodup_dedup _)
  · rw [List.mem_dedup]
    exact (h.valuesAt_spans read.device).mpr (.inr ⟨read, hread, rfl, rfl⟩)
  · intro span hspan hne
    rw [List.mem_dedup, h.valuesAt_spans] at hspan
    rcases hspan with ⟨-, rfl⟩ | ⟨other, hother, hdevice, rfl⟩
    · rw [EvidenceEpoch.milliseconds, sub_self, zero_mul]
    · have hsame : other = read := List.inj_on_of_nodup_map h.nodup_devices hother hread hdevice
      exact absurd (by rw [hsame]) hne

lemma latency (round3 : ℚ → ℚ) : run.epoch.latencyTotal round3 =
    round3 ((run.reads.map (fun read =>
      round3 (EvidenceEpoch.milliseconds (read.started, read.completed)))).sum) := by
  let spans := run.epoch.observations.map (fun o => (o.device, (o.started, o.completed)))
  let own := run.reads.map (fun read => (read.device, [(read.started, read.completed)]))
  let view : String × List (ℚ × ℚ) → ℚ := fun entry =>
    round3 (entry.2.dedup.map EvidenceEpoch.milliseconds).sum
  have hone : ∀ k span, view (k, [span]) = round3 (EvidenceEpoch.milliseconds span) := by
    intro k span
    simp [view]
  have hkeys : own.map Prod.fst = run.reads.map DeviceRead.device := by
    rw [List.map_map]
    rfl
  have hnodup : (own.map Prod.fst).Nodup := by
    rw [hkeys]
    exact h.nodup_devices
  have hview : ∀ k, ((Gathering.gather spans).lookup k).map (fun values => view (k, values)) =
      (own.lookup k).map (fun values => view (k, values)) := by
    intro k
    rw [Gathering.lookup_gather]
    by_cases hk : k ∈ run.reads.map DeviceRead.device
    · obtain ⟨read, hread, rfl⟩ := List.mem_map.mp hk
      have hown : own.lookup read.device = some [(read.started, read.completed)] :=
        (LastRow.lookup_eq_some_iff_mem hnodup).mpr (List.mem_map.mpr ⟨read, hread, rfl⟩)
      have hspan := (h.valuesAt_spans read.device).mpr (.inr ⟨read, hread, rfl, rfl⟩)
      rw [if_neg (List.ne_nil_of_mem hspan), hown, Option.map_some, Option.map_some]
      have hsum := h.sum_spans hread
      rw [hone, ← hsum]
    · have hnone : Gathering.valuesAt k spans = [] := by
        rw [List.eq_nil_iff_forall_not_mem]
        intro span hspan
        apply hk
        rcases (h.valuesAt_spans k).mp hspan with ⟨hstatic, -⟩ | ⟨read, hread, rfl, -⟩
        · obtain ⟨entry, hentry, rfl⟩ := List.mem_map.mp hstatic
          rw [h.devices]
          exact planned_of_static h.plan hentry
        · exact List.mem_map_of_mem hread
      have hown : own.lookup k = none := by
        rw [← Option.not_isSome_iff_eq_none, ← LastRow.mem_keys_iff, hkeys]
        exact hk
      rw [if_pos hnone, hown]
  have hperm := LastRow.perm_map_of_lookup (Gathering.nodup_gather spans) hnodup view hview
  have hsum := hperm.sum_eq
  have howns : own.map view = run.reads.map (fun read =>
      round3 (EvidenceEpoch.milliseconds (read.started, read.completed))) := by
    rw [List.map_map]
    exact List.map_congr_left (fun read _ => hone read.device (read.started, read.completed))
  rw [howns] at hsum
  rw [EvidenceEpoch.latencyTotal, EvidenceEpoch.latencyMs, EvidenceEpoch.windows, List.map_map,
    List.map_map, ← hsum]
  rfl

lemma not_sections (hflow : flow ∈ flows) (hbgp : flow.objectType = "bgp_session")
    {origin : String} (horigin : orNone originPrefix = some origin) :
    ¬(run.epoch.observations.map (fun o => (o.device, o.key))).Nodup := by
  have hpath : ∀ flow ∈ flows, flow.objectType = "bgp_session" →
      ∃ rung ∈ flow.descent, rung = pathInterfaceRung := by
    apply flows_cases
    · exact fun _ => ⟨pathInterfaceRung, by simp [bgpSessionFlow], rfl⟩
    all_goals
      intro hbgp
      exact absurd hbgp (by decide)
  obtain ⟨rung, hrung, rfl⟩ := hpath flow hflow hbgp
  obtain ⟨targets, target, htargets, htarget⟩ := resolves_of_plan h.plan hrung
  obtain ⟨steps, hsteps, hcovers⟩ := plan_covers h.plan hrung htargets htarget
  have hroute : routeStep ∈ steps := hcovers (by decide)
  have hfan : steps.any CollectStep.fansOut = true :=
    List.any_eq_true.mpr ⟨interfaceStep, hcovers (by decide), by decide⟩
  have hread : ∃ read ∈ (readPlanned replies subject originPrefix clock planned 1 []).1,
      read.device = target ∧ ∃ calls,
        read.entries = (readDevice replies subject originPrefix target steps calls).1 :=
    read_of_steps hsteps 1 []
  rw [← h.reads] at hread
  obtain ⟨read, hread, hdevice, calls, hentries⟩ := hread
  obtain ⟨mergedKeys, restKeys, hmerged, hkeys⟩ :=
    keys_readDevice_fansOut replies subject originPrefix hfan target calls
  have hkey : "route:" ++ origin ∈ (manifestFor subject originPrefix
      (steps.filter (fun step => step.fill == some "origin")) (evidenceOf "" [])).map
        Prod.fst := by
    rw [keys_manifestFor, manifestKeys, List.mem_map]
    refine ⟨("route:" ++ origin, [("prefix", origin)]), List.mem_flatMap.mpr
      ⟨routeStep, List.mem_filter.mpr ⟨hroute, rfl⟩, ?_⟩, rfl⟩
    have hfill : routeStep.fill = some "origin" := rfl
    rw [templateCalls, if_pos hfill, horigin]
    exact List.mem_singleton.mpr rfl
  intro hnodup
  rw [h.keys_observations, List.nodup_append] at hnodup
  have hown := (List.nodup_flatMap.mp hnodup.2.1).1 read hread
  have hentryKeys : (read.entries.map Prod.fst).Nodup := by
    have hpairs : read.entries.map (fun entry => (read.device, entry.1)) =
        (read.entries.map Prod.fst).map (fun key => (read.device, key)) := by
      rw [List.map_map]
      rfl
    rw [hpairs] at hown
    exact hown.of_map _
  rw [hentries, hkeys, List.nodup_append] at hentryKeys
  exact hentryKeys.2.2 _ ((hmerged _).mpr (.inr hkey)) _ (List.mem_append_left _ hkey) rfl

end Follows

/-- The accounts of an epoch are right exactly when no route toward the origin is read in it. -/
theorem countsOnce_iff (round3 : ℚ → ℚ) (hflow : flow ∈ flows)
    (h : collectEpoch replies subject originPrefix flow device resolver boundSeconds clock =
      .ok run) :
    CountsOnce round3 run ↔
      flow.objectType ≠ "bgp_session" ∨ orNone originPrefix = none := by
  obtain ⟨planned, hfollows⟩ := follows_of_collectEpoch h
  constructor
  · intro hcounts
    by_contra hnot
    rw [not_or, not_not] at hnot
    obtain ⟨origin, horigin⟩ := Option.ne_none_iff_exists'.mp hnot.2
    exact hfollows.not_sections hflow hnot.1 horigin hcounts.sections
  · intro hquiet
    have hentries : ∀ read ∈ run.reads,
        (read.entries.map Prod.fst).Nodup ∧ "ldp_intent" ∉ read.entries.map Prod.fst := by
      intro read hread
      obtain ⟨steps, calls, hsteps, hentries⟩ := hfollows.steps_of_read hread
      rw [hentries]
      exact nodup_readDevice (registered_of_plan hflow hfollows.plan _ hsteps)
        (quiet_of_plan hflow hfollows.plan hquiet _ hsteps)
        (distinctNames_of_plan hflow hfollows.plan _ hsteps) read.device calls
    have hsections := hfollows.sections hflow hentries
    exact ⟨hsections, EvidenceEpoch.commandsRun_eq hsections, hfollows.sessions_eq,
      hfollows.latency round3⟩

end Run

/-! ### The sections of an epoch -/

section Sections

def Replies.devices (replies : Replies) : Devices := fun n target call =>
  match call with
  | .static name => replies.inventory target name
  | call => (replies.reply (n % 2) target call).content

def contents (entries : List (String × Envelope)) : List (String × Section) :=
  entries.filterMap (fun entry => entry.2.content?.map (fun content => (entry.1, content)))

def Observation.section? (o : Observation) : Option NetTools.Observation :=
  o.envelope.content?.map (fun content =>
    { key := o.key, device := o.device, started := o.started, completed := o.completed
      envelope := content })

def EvidenceEpoch.sections (epoch : EvidenceEpoch) : NetTools.EvidenceEpoch where
  observations := epoch.observations.filterMap Observation.section?
  openedAt := epoch.openedAt
  closedAt := epoch.closedAt
  boundSeconds := epoch.boundSeconds
  sessionCounts := epoch.sessionCounts

variable {replies : Replies} {subject : String} {originPrefix : Option String} {flow : Flow}
  {device : String} {resolver : Option Resolver} {planned : Plan} {target : String}
  {steps : List CollectStep} {calls : List String}

lemma contents_append (entries entries' : List (String × Envelope)) :
    contents (entries ++ entries') = contents entries ++ contents entries' :=
  List.filterMap_append

lemma contents_manifest {m n : Nat} (hm : m % 2 = n) (evidence : Evidence) :
    contents (((manifestFor subject originPrefix steps evidence).map Prod.fst).zip
        ((manifestFor subject originPrefix steps evidence).map
          (fun call => Envelope.reply (replies.reply n target call.2)))) =
      session replies.devices m target (manifestFor subject originPrefix steps evidence) := by
  rw [List.zip_map', contents, List.filterMap_map, session, ← List.filterMap_eq_map]
  apply List.filterMap_congr
  intro call hcall
  rw [manifestFor, List.mem_flatMap] at hcall
  obtain ⟨step, -, hcall⟩ := hcall
  obtain ⟨made, -, rfl⟩ := List.mem_map.mp hcall
  subst hm
  rfl

lemma sectionsOf_eq {entries : List (String × Envelope)} (h : (entries.map Prod.fst).Nodup)
    (target : String) : sectionsOf target entries = evidenceOf target (contents entries) := by
  have hget : ∀ key, (entries.lookup key).bind Envelope.content? =
      ((contents entries).filter (fun entry => entry.1 == key)).getLast?.map Prod.snd := by
    intro key
    induction entries with
    | nil => rfl
    | cons entry entries ih =>
      obtain ⟨name, envelope⟩ := entry
      rw [List.map_cons, List.nodup_cons] at h
      have hcons : contents ((name, envelope) :: entries) =
          (envelope.content?.map (fun content => (name, content))).toList ++ contents entries := by
        rw [contents, List.filterMap_cons]
        cases envelope.content? <;> rfl
      rw [hcons, List.filter_append, List.lookup_cons]
      by_cases hkey : key = name
      · subst hkey
        have hrest : (contents entries).filter (fun entry => entry.1 == key) = [] := by
          rw [List.filter_eq_nil_iff]
          intro entry hentry hname
          obtain ⟨⟨name, made⟩, hmem, hsome⟩ := List.mem_filterMap.mp hentry
          obtain ⟨content, -, rfl⟩ := Option.map_eq_some_iff.mp hsome
          cases beq_iff_eq.mp hname
          exact h.1 (List.mem_map.mpr ⟨_, hmem, rfl⟩)
        rw [hrest, List.append_nil, beq_self_eq_true, Option.bind_some]
        cases envelope.content? <;> simp
      · have hfront : (envelope.content?.map (fun content => (name, content))).toList.filter
            (fun entry => entry.1 == key) = [] := by
          cases envelope.content? <;> simp [Ne.symm hkey]
        rw [hfront, List.nil_append, beq_false_of_ne hkey]
        exact ih h.2
  rw [sectionsOf, evidenceOf]
  congr 1
  exact funext hget

lemma flows_origin_route : ∀ flow ∈ flows, ∀ rung ∈ flow.descent, ∀ step ∈ rung.collect,
    step.fill = some "origin" → step = routeStep :=
  flows_cases (by decide) (by decide) (by decide) (by decide)

lemma nodup_origin (hsteps : steps.Nodup)
    (hroute : ∀ step ∈ steps, step.fill = some "origin" → step = routeStep)
    (evidence : Evidence) :
    ((manifestFor subject originPrefix (steps.filter (fun step => step.fill == some "origin"))
      evidence).map Prod.fst).Nodup := by
  have hall : ∀ step ∈ steps.filter (fun step => step.fill == some "origin"),
      step = routeStep := by
    intro step hstep
    obtain ⟨hmem, hfill⟩ := List.mem_filter.mp hstep
    exact hroute step hmem (beq_iff_eq.mp hfill)
  rw [keys_manifestFor, manifestKeys, List.map_flatMap, List.nodup_flatMap]
  refine ⟨fun step _ => nodup_templateCalls step evidence, ?_⟩
  apply (hsteps.filter _).imp_of_mem
  intro step other hstep hother hne
  exact absurd ((hall step hstep).trans (hall other hother).symm) hne

lemma contents_bundle {m : Nat} (hm : m % 2 = calls.count target)
    (manifest : List (String × Call)) :
    contents (collectEvidenceAndTemplates replies target manifest calls).1 =
      session replies.devices m target intentCalls := by
  change contents (_ ++ allIntents.map _) = _
  rw [contents_append]
  have htexts : contents [("device", .text target), ("platform", .text (replies.platform target)),
      ("timestamp", .text (replies.timestamp (calls.count target) target))] = [] := rfl
  rw [htexts, List.nil_append, session, intentCalls, contents, List.filterMap_map, List.map_map,
    ← List.filterMap_eq_map, ← hm]
  rfl

lemma contents_readDevice (hregistered : ∀ step ∈ steps, step.Registered) (hsteps : steps.Nodup)
    (hroute : ∀ step ∈ steps, step.fill = some "origin" → step = routeStep)
    (hcalls : calls.count target = 0) (i : Nat) :
    contents (readDevice replies subject originPrefix target steps calls).1 =
      deviceReads replies.devices subject originPrefix (2 * i) target steps := by
  have hfirst : 2 * i % 2 = calls.count target := by omega
  have hsecond : (2 * i + 1) % 2 = (calls ++ [target]).count target := by
    rw [List.count_append, List.count_singleton_self]
    omega
  rw [readDevice, deviceReads, secondCalls, firstCalls]
  by_cases hfan : steps.any CollectStep.fansOut = true
  · simp only [if_pos hfan]
    let omanifest := manifestFor subject originPrefix
      (steps.filter (fun step => step.fill == some "origin")) (evidenceOf "" [])
    let bundle := (collectEvidenceAndTemplates replies target omanifest calls).1
    let answers := omanifest.map
      (fun call => Envelope.reply (replies.reply (calls.count target) target call.2))
    have hkeys : ((omanifest.map Prod.fst).zip answers).map Prod.fst = omanifest.map Prod.fst :=
      keys_zip omanifest _
    have hnodup : ((bundle ++ (omanifest.map Prod.fst).zip answers).map Prod.fst).Nodup := by
      rw [List.map_append, hkeys]
      apply List.Nodup.append
      · exact (by decide : bundleKeys.Nodup)
      · exact nodup_origin hsteps hroute _
      · intro key hkey hkey'
        exact (not_mem_bundleKeys (fun step hstep => hregistered step
          (List.mem_filter.mp hstep).1) hkey').1 hkey
    let merged := ((omanifest.map Prod.fst).zip answers).foldl
      (fun d entry => LastRow.assign d entry.1 entry.2) bundle
    have hmerged : merged = bundle ++ (omanifest.map Prod.fst).zip answers :=
      LastRow.foldl_assign_eq hnodup
    have hcontents : contents merged =
        session replies.devices (2 * i) target (intentCalls ++ omanifest) := by
      rw [hmerged, contents_append, contents_bundle hfirst, contents_manifest hfirst, session,
        session, session, List.map_append]
    have hsections : sectionsOf target merged =
        evidenceOf target (session replies.devices (2 * i) target (intentCalls ++ omanifest)) := by
      rw [← hcontents, sectionsOf_eq (hmerged ▸ hnodup)]
    let manifest := manifestFor subject originPrefix
      (steps.filter (fun step => step.fill != some "origin")) (sectionsOf target merged)
    change contents (merged ++ (omanifest.map Prod.fst ++ manifest.map Prod.fst).zip
      (answers ++ manifest.map (fun call =>
        Envelope.reply (replies.reply ((calls ++ [target]).count target) target call.2)))) = _
    rw [List.zip_append (by rw [List.length_map, List.length_map]), contents_append,
      contents_append, hcontents, contents_manifest hfirst, contents_manifest hsecond,
      hsections, ← List.append_assoc]
  · simp only [if_neg hfan]
    rw [contents_append, contents_bundle hfirst]
    refine (congrArg (_ ++ ·) (contents_manifest hfirst _)).trans ?_
    rw [session, session, session, session, List.map_append, List.map_nil, List.append_nil,
      List.append_nil]

lemma readPlanned_sessions {clock : Nat → ℚ} (planned : Plan) (tick : Nat) (calls : List String) :
    (readPlanned replies subject originPrefix clock planned tick calls).1.map
        (fun read => (read.device, read.sessions)) =
      planned.map (fun (target, steps) =>
        (target, if steps.any CollectStep.fansOut then 2 else 1)) := by
  induction planned generalizing tick calls with
  | nil => rfl
  | cons entry rest ih => rw [readPlanned_cons, List.map_cons, List.map_cons, ih]

lemma sections_readPlanned {clock : Nat → ℚ} (hnodup : (planned.map Prod.fst).Nodup)
    (hregistered : ∀ entry ∈ planned, ∀ step ∈ entry.2, step.Registered)
    (hsteps : ∀ entry ∈ planned, entry.2.Nodup)
    (hroute : ∀ entry ∈ planned, ∀ step ∈ entry.2, step.fill = some "origin" → step = routeStep)
    (i : Nat) (calls : List String) (hcalls : ∀ entry ∈ planned, calls.count entry.1 = 0) :
    ((readPlanned replies subject originPrefix clock planned (1 + 2 * i) calls).1.flatMap
        DeviceRead.observations).filterMap Observation.section? =
      (planned.zipIdx i).flatMap (fun ((target, steps), index) =>
        (deviceReads replies.devices subject originPrefix (2 * index) target steps).map
          (fun entry =>
            { key := entry.1, device := target, started := clock (1 + 2 * index)
              completed := clock (2 + 2 * index), envelope := entry.2 })) := by
  induction planned generalizing i calls with
  | nil => rfl
  | cons entry rest ih =>
    obtain ⟨target, steps⟩ := entry
    rw [List.map_cons, List.nodup_cons] at hnodup
    rw [List.forall_mem_cons] at hregistered hsteps hroute hcalls
    have hlater : ∀ entry ∈ rest, (readDevice replies subject originPrefix target steps
        calls).2.count entry.1 = 0 := by
      intro entry hentry
      have hne : target ≠ entry.1 := by
        rintro rfl
        exact hnodup.1 (List.mem_map.mpr ⟨entry, hentry, rfl⟩)
      rw [readDevice_calls, List.count_append, hcalls.2 entry hentry, List.count_replicate,
        if_neg (by simpa using hne)]
    have hrest := ih hnodup.2 hregistered.2 hsteps.2 hroute.2 (i + 1) _ hlater
    have htick : 1 + 2 * i + 2 = 1 + 2 * (i + 1) := by omega
    have hread : ∀ entries : List (String × Envelope), (DeviceRead.observations
        { device := target, started := clock (1 + 2 * i), completed := clock (1 + 2 * i + 1)
          entries, sessions := if steps.any CollectStep.fansOut then 2 else 1 }).filterMap
            Observation.section? = (contents entries).map (fun entry =>
              { key := entry.1, device := target, started := clock (1 + 2 * i)
                completed := clock (2 + 2 * i), envelope := entry.2 }) := by
      intro entries
      have hclock : 1 + 2 * i + 1 = 2 + 2 * i := by omega
      rw [DeviceRead.observations, contents, List.filterMap_map, List.map_filterMap, hclock]
      apply List.filterMap_congr
      intro entry _
      rw [Option.map_map]
      rfl
    rw [readPlanned_cons, List.zipIdx_cons, List.flatMap_cons, List.flatMap_cons,
      List.filterMap_append, htick, hrest]
    dsimp only
    rw [hread, contents_readDevice hregistered.1 hsteps.1 hroute.1 hcalls.1]

theorem sections_collectEpoch (replies : Replies) (subject : String) (originPrefix : Option String)
    (hflow : flow ∈ flows) (device : String) (resolver : Option Resolver) (boundSeconds : ℚ)
    (clock : Nat → ℚ) :
    (collectEpoch replies subject originPrefix flow device resolver boundSeconds clock).map
        (fun run => run.epoch.sections) =
      collectEpochOver replies.devices subject originPrefix flow device resolver boundSeconds
        clock := by
  rw [collectEpoch, collectEpochOver]
  cases hvalid : validatePrewalkCollection flow with
  | error message => rfl
  | ok valid =>
    cases hplan : plan flow device subject resolver with
    | error message => rfl
    | ok planned =>
      have hroute : ∀ entry ∈ planned, ∀ step ∈ entry.2, step.fill = some "origin" →
          step = routeStep := by
        intro entry hentry step hstep
        obtain ⟨rung, hrung, hcollect, -⟩ := plan_declared hplan entry hentry step hstep
        exact flows_origin_route flow hflow rung hrung step hcollect
      have hobservations : (((staticKeys subject flow device resolver).map (fun entry =>
          ({ key := entry.2, device := entry.1, started := clock 0, completed := clock 0
             envelope := .reply { content := replies.inventory entry.1 entry.2 } } :
            Observation)) ++
          (readPlanned replies subject originPrefix clock planned 1 []).1.flatMap
            DeviceRead.observations).filterMap Observation.section?) =
          (staticKeys subject flow device resolver).map (fun entry =>
            ({ key := entry.2, device := entry.1, started := clock 0, completed := clock 0
               envelope := replies.devices 0 entry.1 (.static entry.2) } :
              NetTools.Observation)) ++
          planned.zipIdx.flatMap (fun ((target, steps), index) =>
            (deviceReads replies.devices subject originPrefix (2 * index) target steps).map
              (fun entry =>
                { key := entry.1, device := target, started := clock (1 + 2 * index)
                  completed := clock (2 + 2 * index), envelope := entry.2 })) := by
        rw [List.filterMap_append, sections_readPlanned (plan_nodup hplan)
          (registered_of_plan hflow hplan) (plan_nodup_steps hplan) hroute 0 []
          (fun entry _ => List.count_nil), List.filterMap_map, ← List.filterMap_eq_map]
        rfl
      have hsessions : (readPlanned replies subject originPrefix clock planned 1 []).1.map
          (fun read => (read.device, read.sessions)) = planned.map (fun (target, steps) =>
            (target, if steps.any CollectStep.fansOut then 2 else 1)) :=
        readPlanned_sessions planned 1 []
      change Except.ok (NetTools.EvidenceEpoch.mk _ _ _ _ _) =
        Except.ok (NetTools.EvidenceEpoch.mk _ _ _ _ _)
      rw [hobservations, hsessions]

end Sections

def talkative : Replies where
  platform _ := "cisco_xr"
  timestamp _ _ := "2026-09-01T08:00:00+00:00"
  inventory _ _ := {}
  reply _ _ call := { content := {}, commands := some [("show " ++ call.key, "!")] }

def talkativeRun (flow : Flow) (originPrefix : Option String) : Except String Run :=
  collectEpoch talkative "10.0.0.2" originPrefix flow "RR1" (some (fun _ => .ok (.inl "PE2"))) 30
    (fun n => n)

theorem countsOnce_talkative : ∃ run, talkativeRun bgpSessionFlow none = .ok run ∧
    (CountsOnce id run ↔
      bgpSessionFlow.objectType ≠ "bgp_session" ∨ orNone none = none) := by
  obtain ⟨run, hrun⟩ : ∃ run, talkativeRun bgpSessionFlow none = .ok run :=
    ⟨_, by with_unfolding_all rfl⟩
  exact ⟨run, hrun, countsOnce_iff id (by simp [flows]) hrun⟩

/-- PE2 answers ten commands, and eleven are counted: the reverse route's twice. -/
theorem not_countsOnce_reverseRoute :
    ∃ run, talkativeRun bgpSessionFlow (some "10.0.0.1/32") = .ok run ∧
      run.epoch.commandsRun.lookup "PE2" = some 11 ∧
      ((run.epoch.forDevice "PE2").map
        (fun entry => (entry.2.commands?.map List.length).getD 0)).sum = 10 ∧
      ¬CountsOnce id run := by
  obtain ⟨run, hrun⟩ : ∃ run, talkativeRun bgpSessionFlow (some "10.0.0.1/32") = .ok run :=
    ⟨_, by with_unfolding_all rfl⟩
  have hcounts : (talkativeRun bgpSessionFlow (some "10.0.0.1/32")).map
      (fun run => (run.epoch.commandsRun.lookup "PE2", ((run.epoch.forDevice "PE2").map
        (fun entry => (entry.2.commands?.map List.length).getD 0)).sum)) = .ok (some 11, 10) := by
    decide +kernel
  rw [hrun, Except.map, Except.ok.injEq, Prod.mk.injEq] at hcounts
  refine ⟨run, hrun, hcounts.1, hcounts.2, ?_⟩
  intro honce
  have hcommands := honce.commands "PE2"
  rw [hcounts.1, hcounts.2, Option.getD_some] at hcommands
  cases hcommands

end Accounts

end NetTools
