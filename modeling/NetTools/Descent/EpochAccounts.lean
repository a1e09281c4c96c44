import NetTools.Descent.EpochCovers
import NetTools.Library.Gathering

/-!
# What an epoch accounts for

`collect_epoch` with every entry of the evidence and every call of a collector, and the counts that
an epoch reports: commands answered, sessions and time spent on each device.
-/

namespace NetTools

namespace Accounts

/-- The envelope of one section: what its parser made of it, and `data.commands`. -/
structure Reply where
  content : Section
  commands : Option (List (String × String)) := none

/-- An entry of an evidence dict: `device`, `platform` and `timestamp` are texts. -/
inductive Envelope where
  | text (s : String)
  | reply (reply : Reply)

namespace Envelope

def content? : Envelope → Option Section
  | .text _ => none
  | .reply answer => some answer.content

def commands? : Envelope → Option (List (String × String))
  | .text _ => none
  | .reply answer => answer.commands

end Envelope

/-- What the devices do: the answers of the `n`-th collection from each. -/
structure Replies where
  platform : String → String
  timestamp : Nat → String → String
  inventory : String → String → Section
  reply : Nat → String → Call → Reply

structure Observation where
  key : String
  device : String
  started : ℚ
  completed : ℚ
  envelope : Envelope

structure EvidenceEpoch where
  observations : List Observation := []
  openedAt : ℚ := 0
  closedAt : ℚ := 0
  boundSeconds : ℚ := 30
  sessionCounts : List (String × Nat) := []

namespace EvidenceEpoch

/-- A `dict`: the later observation of a key in the place of an earlier. -/
def forDevice (epoch : EvidenceEpoch) (device : String) : List (String × Envelope) :=
  (epoch.observations.filter (fun o => o.device = device)).foldl
    (fun d o => LastRow.assign d o.key o.envelope) []

def commandsRun (epoch : EvidenceEpoch) : List (String × Nat) :=
  epoch.observations.foldl (fun counts o =>
    match o.envelope.commands? with
    | some commands =>
      LastRow.assign counts o.device ((counts.lookup o.device).getD 0 + commands.length)
    | none => counts) []

def windows (epoch : EvidenceEpoch) : List (String × List (ℚ × ℚ)) :=
  (Gathering.gather (epoch.observations.map (fun o => (o.device, (o.started, o.completed))))).map
    (fun entry => (entry.1, entry.2.dedup))

def milliseconds (span : ℚ × ℚ) : ℚ := (span.2 - span.1) * 1000

/-- Rounded to three digits by `round3`. -/
def latencyMs (round3 : ℚ → ℚ) (epoch : EvidenceEpoch) : List (String × ℚ) :=
  epoch.windows.map (fun entry => (entry.1, round3 (entry.2.map milliseconds).sum))

def latencyTotal (round3 : ℚ → ℚ) (epoch : EvidenceEpoch) : ℚ :=
  round3 ((epoch.latencyMs round3).map Prod.snd).sum

end EvidenceEpoch

section Collect

variable (replies : Replies) (subject : String) (originPrefix : Option String)

/-- The collectors append the device they are called on to `calls`. -/
def collectEvidenceAndTemplates (target : String) (manifest : List (String × Call))
    (calls : List String) : List (String × Envelope) × List Envelope × List String :=
  let n := calls.count target
  ([("device", .text target), ("platform", .text (replies.platform target)),
      ("timestamp", .text (replies.timestamp n target))] ++
      allIntents.map (fun name => (name, .reply (replies.reply n target (.intent name)))),
    manifest.map (fun call => .reply (replies.reply n target call.2)),
    calls ++ [target])

def runTemplatesSplit (target : String) (manifest : List (String × Call)) (calls : List String) :
    List Envelope × List String :=
  (manifest.map (fun call => .reply (replies.reply (calls.count target) target call.2)),
    calls ++ [target])

def sectionsOf (target : String) (entries : List (String × Envelope)) : Evidence :=
  { device := target
    get := fun key => (entries.lookup key).bind Envelope.content? }

def readDevice (target : String) (steps : List CollectStep) (calls : List String) :
    List (String × Envelope) × List String :=
  if steps.any CollectStep.fansOut then
    let omanifest := manifestFor subject originPrefix
      (steps.filter (fun step => step.fill == some "origin")) (evidenceOf "" [])
    let (evidence, oenvelopes, calls) :=
      collectEvidenceAndTemplates replies target omanifest calls
    let okeys := omanifest.map Prod.fst
    let merged := (okeys.zip oenvelopes).foldl
      (fun d entry => LastRow.assign d entry.1 entry.2) evidence
    let manifest := manifestFor subject originPrefix
      (steps.filter (fun step => step.fill != some "origin")) (sectionsOf target merged)
    let (envelopes, calls) := runTemplatesSplit replies target manifest calls
    (merged ++ (okeys ++ manifest.map Prod.fst).zip (oenvelopes ++ envelopes), calls)
  else
    let manifest := manifestFor subject originPrefix steps (evidenceOf "" [])
    let (evidence, envelopes, calls) :=
      collectEvidenceAndTemplates replies target manifest calls
    (evidence ++ (manifest.map Prod.fst).zip envelopes, calls)

/-- One device of the plan: its window, its entries and the sessions counted for it. -/
structure DeviceRead where
  device : String
  started : ℚ
  completed : ℚ
  entries : List (String × Envelope)
  sessions : Nat

def DeviceRead.observations (read : DeviceRead) : List Observation :=
  read.entries.map (fun entry =>
    { key := entry.1, device := read.device, started := read.started
      completed := read.completed, envelope := entry.2 })

/-- The loop over the plan. `clock` gives its readings in turn. -/
def readPlanned (clock : Nat → ℚ) : Plan → Nat → List String → List DeviceRead × List String
  | [], _, calls => ([], calls)
  | (target, steps) :: rest, tick, calls =>
    let (entries, calls) := readDevice replies subject originPrefix target steps calls
    let (reads, calls) := readPlanned clock rest (tick + 2) calls
    ({ device := target, started := clock tick, completed := clock (tick + 1), entries
       sessions := if steps.any CollectStep.fansOut then 2 else 1 } :: reads, calls)

/-- An epoch, with the reads of the devices and the calls of the collectors that led to it. -/
structure Run where
  epoch : EvidenceEpoch
  reads : List DeviceRead
  calls : List String

def collectEpoch (flow : Flow) (device : String) (resolver : Option Resolver)
    (boundSeconds : ℚ) (clock : Nat → ℚ) : Except String Run := do
  validatePrewalkCollection flow
  let planned ← plan flow device subject resolver
  let static := (staticKeys subject flow device resolver).map (fun (target, name) =>
    { key := name, device := target, started := clock 0, completed := clock 0
      envelope := .reply { content := replies.inventory target name } : Observation })
  let (reads, calls) := readPlanned replies subject originPrefix clock planned 1 []
  pure
    { epoch :=
        { observations := static ++ reads.flatMap DeviceRead.observations
          openedAt := clock 0
          closedAt := clock (1 + 2 * planned.length)
          boundSeconds
          sessionCounts := reads.map (fun read => (read.device, read.sessions)) }
      reads
      calls }

end Collect

/-- The accounts of a run are right: a section is observed once, the commands of each section
count once, the sessions are the calls made, and the time is that of the devices' windows. -/
structure CountsOnce (round3 : ℚ → ℚ) (run : Run) : Prop where
  sections : (run.epoch.observations.map (fun o => (o.device, o.key))).Nodup
  commands : ∀ device, (run.epoch.commandsRun.lookup device).getD 0 =
    ((run.epoch.forDevice device).map
      (fun entry => (entry.2.commands?.map List.length).getD 0)).sum
  sessions : ∀ device,
    (run.epoch.sessionCounts.lookup device).getD 0 = run.calls.count device
  latency : run.epoch.latencyTotal round3 = round3 ((run.reads.map (fun read =>
    round3 (EvidenceEpoch.milliseconds (read.started, read.completed)))).sum)

namespace EvidenceEpoch

variable {epoch : EvidenceEpoch} {device : String}

lemma answered_commandsRun (observations : List Observation) (device : String) :
    (({ observations } : EvidenceEpoch).commandsRun.lookup device).getD 0 =
      ((observations.filter (fun o => o.device = device)).map
        (fun o => (o.envelope.commands?.map List.length).getD 0)).sum := by
  induction observations using List.reverseRecOn with
  | nil => rfl
  | append_singleton observations o ih =>
    rw [commandsRun] at ih ⊢
    rw [List.foldl_append, List.foldl_cons, List.foldl_nil, List.filter_append, List.map_append,
      List.sum_append, ← ih]
    cases hcommands : o.envelope.commands? with
    | none =>
      by_cases hdevice : o.device = device
      · simp [hdevice, hcommands]
      · simp [hdevice]
    | some commands =>
      dsimp only
      rw [LastRow.lookup_assign]
      by_cases hdevice : o.device = device
      · simp [hdevice, hcommands]
      · simp [hdevice, Ne.symm hdevice]

lemma forDevice_eq
    (h : ((epoch.observations.filter (fun o => o.device = device)).map Observation.key).Nodup) :
    epoch.forDevice device = (epoch.observations.filter (fun o => o.device = device)).map
      (fun o => (o.key, o.envelope)) := by
  have hkeys : ((epoch.observations.filter (fun o => o.device = device)).map
      (fun o => (o.key, o.envelope))).map Prod.fst =
        (epoch.observations.filter (fun o => o.device = device)).map Observation.key := by
    rw [List.map_map]
    rfl
  rw [← hkeys] at h
  have hfold := LastRow.foldl_assign_nil h
  rwa [List.foldl_map] at hfold

lemma commandsRun_eq (h : (epoch.observations.map (fun o => (o.device, o.key))).Nodup)
    (device : String) :
    (epoch.commandsRun.lookup device).getD 0 = ((epoch.forDevice device).map
      (fun entry => (entry.2.commands?.map List.length).getD 0)).sum := by
  have hkeys : ((epoch.observations.filter (fun o => o.device = device)).map
      Observation.key).Nodup := by
    have hsub : ((epoch.observations.filter (fun o => o.device = device)).map
        (fun o => (o.device, o.key))).Nodup := h.sublist (List.filter_sublist.map _)
    rw [List.nodup_map_iff_inj_on (h.of_map _ |>.sublist List.filter_sublist)] at hsub ⊢
    intro o ho o' ho' hkey
    have hdevice := of_decide_eq_true (List.mem_filter.mp ho).2
    have hdevice' := of_decide_eq_true (List.mem_filter.mp ho').2
    exact hsub o ho o' ho' (by rw [hdevice, hdevice', hkey])
  have hrun := answered_commandsRun epoch.observations device
  rw [forDevice_eq hkeys, List.map_map]
  exact hrun

end EvidenceEpoch

section Reads

variable {replies : Replies} {subject : String} {originPrefix : Option String}
  {clock : Nat → ℚ} {planned : Plan} {target : String} {steps : List CollectStep} {tick : Nat}
  {calls : List String}

lemma readDevice_calls (target : String) (steps : List CollectStep) (calls : List String) :
    (readDevice replies subject originPrefix target steps calls).2 =
      calls ++ List.replicate (if steps.any CollectStep.fansOut then 2 else 1) target := by
  rw [readDevice]
  by_cases hfan : steps.any CollectStep.fansOut = true
  · rw [if_pos hfan, if_pos hfan]
    exact List.append_assoc calls [target] [target]
  · rw [if_neg hfan, if_neg hfan]
    rfl

lemma readPlanned_cons (rest : Plan) :
    readPlanned replies subject originPrefix clock ((target, steps) :: rest) tick calls =
      let made := readDevice replies subject originPrefix target steps calls
      let later := readPlanned replies subject originPrefix clock rest (tick + 2) made.2
      ({ device := target, started := clock tick, completed := clock (tick + 1)
         entries := made.1, sessions := if steps.any CollectStep.fansOut then 2 else 1 } :: later.1,
        later.2) := rfl

lemma readPlanned_devices (planned : Plan) (tick : Nat) (calls : List String) :
    (readPlanned replies subject originPrefix clock planned tick calls).1.map DeviceRead.device =
      planned.map Prod.fst := by
  induction planned generalizing tick calls with
  | nil => rfl
  | cons entry rest ih =>
    rw [readPlanned_cons, List.map_cons, List.map_cons, ih]

lemma steps_of_read {read : DeviceRead}
    (h : read ∈ (readPlanned replies subject originPrefix clock planned tick calls).1) :
    ∃ steps calls', (read.device, steps) ∈ planned ∧
      read.entries = (readDevice replies subject originPrefix read.device steps calls').1 := by
  induction planned generalizing tick calls with
  | nil => cases h
  | cons entry rest ih =>
    rw [readPlanned_cons, List.mem_cons] at h
    rcases h with rfl | h
    · exact ⟨entry.2, calls, List.mem_cons_self, rfl⟩
    · obtain ⟨steps, calls', hmem, hentries⟩ := ih h
      exact ⟨steps, calls', List.mem_cons_of_mem _ hmem, hentries⟩

lemma read_of_steps (h : (target, steps) ∈ planned) (tick : Nat) (calls : List String) :
    ∃ read ∈ (readPlanned replies subject originPrefix clock planned tick calls).1,
      read.device = target ∧ ∃ calls',
        read.entries = (readDevice replies subject originPrefix target steps calls').1 := by
  induction planned generalizing tick calls with
  | nil => cases h
  | cons entry rest ih =>
    rw [readPlanned_cons]
    rcases List.mem_cons.mp h with rfl | h
    · exact ⟨_, List.mem_cons_self, rfl, calls, rfl⟩
    · obtain ⟨read, hread, hdevice, hentries⟩ := ih h (tick + 2)
        (readDevice replies subject originPrefix entry.1 entry.2 calls).2
      exact ⟨read, List.mem_cons_of_mem _ hread, hdevice, hentries⟩

lemma readPlanned_calls (hnodup : (planned.map Prod.fst).Nodup) (tick : Nat)
    (calls : List String) (device : String) :
    let run := readPlanned replies subject originPrefix clock planned tick calls
    run.2.count device = calls.count device +
      ((run.1.map (fun read => (read.device, read.sessions))).lookup device).getD 0 := by
  induction planned generalizing tick calls with
  | nil => rfl
  | cons entry rest ih =>
    obtain ⟨target, steps⟩ := entry
    rw [List.map_cons, List.nodup_cons] at hnodup
    have hlater := ih hnodup.2 (tick + 2)
      (readDevice replies subject originPrefix target steps calls).2
    dsimp only at hlater ⊢
    rw [readPlanned_cons]
    dsimp only
    rw [hlater, readDevice_calls, List.count_append, List.count_replicate, List.map_cons,
      List.lookup_cons]
    by_cases hdevice : device = target
    · subst hdevice
      have hnone : ((readPlanned replies subject originPrefix clock rest (tick + 2)
          (calls ++ List.replicate (if steps.any CollectStep.fansOut then 2 else 1) device)).1.map
          (fun read => (read.device, read.sessions))).lookup device = none := by
        rw [← Option.not_isSome_iff_eq_none, ← LastRow.mem_keys_iff, List.map_map]
        have hdevices : (readPlanned replies subject originPrefix clock rest (tick + 2)
            (calls ++ List.replicate (if steps.any CollectStep.fansOut then 2 else 1)
              device)).1.map DeviceRead.device = rest.map Prod.fst := readPlanned_devices _ _ _
        intro hin
        apply hnodup.1
        rw [← hdevices]
        exact hin
      rw [hnone, if_pos (beq_self_eq_true _), beq_self_eq_true]
      rfl
    · rw [if_neg (by simpa using Ne.symm hdevice), beq_false_of_ne hdevice]
      rfl

end Reads

end Accounts

end NetTools
