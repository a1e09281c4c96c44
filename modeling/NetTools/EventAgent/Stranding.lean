import NetTools.EventAgent.RunEvent

/-!
# When a run strands its event

A run that takes its event up moves the row to `running` without a lease, where recovery does
not look. Every exit after admission settles the row again. The exits before it do not.
-/

namespace NetTools

namespace EventRecord

/-- A running row that no lease names: no query for recovery lists it. -/
def Unleased (row : EventRecord) : Prop :=
  row.state = .running ∧ row.leaseOwner = none ∧ row.leaseExpiresAt = none

/-- The row is done, given up, or waits for a retry with a deadline. -/
def Finished (row : EventRecord) : Prop :=
  row.state = .completed ∨ row.state = .deadLetter ∨
    (row.state = .retryableFailed ∧ ∃ t, row.retryAt = some t)

end EventRecord

namespace EventStore

def Stranded (s : EventStore) (eventId : String) : Prop :=
  ∃ row, s.get eventId = some row ∧ row.Unleased

/-- The event is finished, given up, or listed for recovery from its deadline on. -/
def Tracked (s : EventStore) (eventId : String) : Prop :=
  ∃ row, s.get eventId = some row ∧
    (row.state = .completed ∨ row.state = .deadLetter ∨
      (row.state = .retryableFailed ∧ ∃ t, row.retryAt = some t ∧
        ∀ now : Datetime, now.offset = t.offset → t.micros ≤ now.micros →
          row ∈ s.recoverableEvents now))

/-- The event is running and its row shows no owner to a fenced call. -/
def Ownerless (s : EventStore) (eventId : String) : Prop :=
  ∃ row, s.get eventId = some row ∧ row.state = .running ∧ row.leaseOwner = none

variable {s t : EventStore} {eventId : String}

lemma tracked_iff : s.Tracked eventId ↔ ∃ row, s.get eventId = some row ∧ row.Finished := by
  constructor
  · rintro ⟨row, hrow, hdone | hdead | ⟨hretry, at', hat, -⟩⟩
    · exact ⟨row, hrow, .inl hdone⟩
    · exact ⟨row, hrow, .inr (.inl hdead)⟩
    · exact ⟨row, hrow, .inr (.inr ⟨hretry, at', hat⟩)⟩
  · rintro ⟨row, hrow, hdone | hdead | ⟨hretry, at', hat⟩⟩
    · exact ⟨row, hrow, .inl hdone⟩
    · exact ⟨row, hrow, .inr (.inl hdead)⟩
    · refine ⟨row, hrow, .inr (.inr ⟨hretry, at', hat, ?_⟩)⟩
      intro now hzone hdue
      rw [recoverableEvents, List.mem_insertionSort, List.mem_filter]
      refine ⟨KeyedTable.mem_of_get? hrow, ?_⟩
      have htext : at'.isoLe now = true :=
        (Datetime.isoLe_iff_of_offset_eq hzone.symm).mpr hdue
      simp [recoverable, hretry, hat, htext]

lemma Tracked.not_stranded (h : s.Tracked eventId) : ¬s.Stranded eventId := by
  rintro ⟨row, hrow, hrunning, -⟩
  obtain ⟨row', hrow', hfinished⟩ := tracked_iff.mp h
  rw [hrow, Option.some.injEq] at hrow'
  subst hrow'
  rcases hfinished with hstate | hstate | ⟨hstate, -⟩ <;> rw [hrunning] at hstate <;> cases hstate

lemma Ownerless.sameEvents (h : s.Ownerless eventId) (hst : SameEvents s t) :
    t.Ownerless eventId := by
  obtain ⟨row, hrow, hfacts⟩ := h
  exact ⟨row, (hst.get eventId).trans hrow, hfacts⟩

end EventStore

namespace RunInputs

open EventStore

variable {i : RunInputs} {s s' : EventStore}

lemma settle_tracked (h : s.Ownerless i.eventId) (run : EventRun) (now : Datetime) :
    (i.settle none s run now).Tracked i.eventId := by
  obtain ⟨row, hrow, hrunning, hfree⟩ := h
  have hfence : ∀ owner epoch, validateLeaseFence row owner epoch now = .ok () :=
    fun owner epoch => validateLeaseFence_eq_ok_iff.mpr (.inl hfree)
  rw [tracked_iff]
  simp only [settle, hrow, Option.bind_none, Option.map_none]
  by_cases hcomplete : run.complete = true
  · rw [if_pos hcomplete, transition_eq_ok hrow (by simp [hrunning, EventState.allowedTransitions])
      (hfence none none)]
    exact ⟨_, get_writeEvent_self hrow, .inl rfl⟩
  · rw [if_neg hcomplete, if_pos (.inr hrunning)]
    have hex : ∃ result, s.scheduleRetry i.eventId run.stoppedBecause run.ticketRunId 5 3 none none
        now = .ok result :=
      exists_scheduleRetry_eq_ok (by norm_num) (by norm_num) hrow
        (by simp [hrunning, EventState.workable]) (hfence none none)
    obtain ⟨⟨record, s₁⟩, hok⟩ := hex
    rw [hok]
    obtain ⟨-, -, row', hrow', -, -, target, retryAt, htarget, -, -, rfl⟩ := scheduleRetry_cases hok
    refine ⟨_, get_writeEvent_self hrow', ?_⟩
    rcases htarget with ⟨rfl, rfl⟩ | ⟨rfl, rfl, -⟩
    · exact .inr (.inl rfl)
    · exact .inr (.inr ⟨rfl, _, rfl⟩)

lemma settle_of_tracked (h : s.Tracked i.eventId) {run : EventRun} (hrun : run.complete = false)
    (now : Datetime) : i.settle none s run now = s := by
  obtain ⟨row, hrow, hfinished⟩ := tracked_iff.mp h
  have hidle : ¬(row.state = .admitted ∨ row.state = .running) := by
    rcases hfinished with hstate | hstate | ⟨hstate, -⟩ <;> simp [hstate]
  simp [settle, hrow, hrun, hidle]

lemma mcpFailed_tracked (h : s.Ownerless i.eventId ∨ s.Tracked i.eventId) {message : String}
    {run : EventRun} (hret : i.mcpFailed none s message = (.returned run, s')) :
    s'.Tracked i.eventId := by
  simp only [mcpFailed] at hret
  split at hret
  · cases hret
  · cases hret
    rcases h with howner | htracked
    · exact settle_tracked howner _ _
    · rw [settle_of_tracked htracked rfl]
      exact htracked

lemma dispatchPhase_tracked (h : s.Ownerless i.eventId) {context : PinnedContext} {run : EventRun}
    (hret : i.dispatchPhase none s context = (.returned run, s')) : s'.Tracked i.eventId := by
  have hafter : ∀ calls, (Runs.final sideStep s calls).Ownerless i.eventId :=
    fun calls => h.sameEvents (s.sideRun_sameEvents calls)
  unfold dispatchPhase at hret
  split at hret
  · simp only [dispatchFixtures] at hret
    split at hret
    · cases hret
    · split at hret
      · cases hret
      · cases hret
        exact settle_tracked (hafter _) _ _
  · simp only [dispatchLive] at hret
    split at hret
    · exact mcpFailed_tracked (.inl h) hret
    · split at hret
      · exact mcpFailed_tracked (.inl (hafter _)) hret
      · split at hret
        · exact mcpFailed_tracked (.inl (hafter _)) hret
        · split at hret
          · exact mcpFailed_tracked (.inr (settle_tracked (hafter _) _ _)) hret
          · cases hret
            exact settle_tracked (hafter _) _ _

lemma refuseAdmission_tracked (h : s.Ownerless i.eventId) (scope reason : String) :
    (i.refuseAdmission s scope reason).Tracked i.eventId := by
  obtain ⟨row, hrow, hrunning, hfree⟩ := h
  simp only [refuseAdmission, recordAdmissionShadow, hrow]
  set s₁ : EventStore := { s with admissionShadow := _ } with hs₁
  have hrow₁ : s₁.get i.eventId = some row := hrow
  have hex : ∃ result, s₁.scheduleRetry i.eventId s!"legacy admission refused: {scope}" none 5 3
      none none i.clock.retryAt = .ok result :=
    exists_scheduleRetry_eq_ok (by norm_num) (by norm_num) hrow₁
      (by simp [hrunning, EventState.workable]) (validateLeaseFence_eq_ok_iff.mpr (.inl hfree))
  obtain ⟨⟨record, s₂⟩, hok⟩ := hex
  rw [hok]
  obtain ⟨-, -, row', hrow', -, -, target, retryAt, htarget, -, -, rfl⟩ := scheduleRetry_cases hok
  refine tracked_iff.mpr ⟨_, get_writeEvent_self hrow', ?_⟩
  rcases htarget with ⟨rfl, rfl⟩ | ⟨rfl, rfl, -⟩
  · exact .inr (.inl rfl)
  · exact .inr (.inr ⟨rfl, _, rfl⟩)

lemma admitPhase_tracked (h : s.Ownerless i.eventId) {context : PinnedContext} {run : EventRun}
    (hret : i.admitPhase none s context = (.returned run, s')) : s'.Tracked i.eventId := by
  unfold admitPhase at hret
  split at hret
  · split at hret
    · cases hret
    · cases hret
      exact refuseAdmission_tracked h _ _
    · refine dispatchPhase_tracked (h.sameEvents ?_) hret
      exact s.sideStep_sameEvents (.admissionShadow i.eventId true none i.clock.shadowAt)
  · exact dispatchPhase_tracked h hret

/-- The run takes the event up: it is new, or it is the same event (device and immutable
payload) waiting for work with no lease owner on its row. -/
def TakesUp (i : RunInputs) (s : EventStore) : Prop :=
  ∀ row, s.get i.eventId = some row →
    row.device = i.device ∧
      (knownKind row.payload = true → validatePayloadUpdate row.payload i.payload = .ok ()) ∧
      (row.state = .received ∨ row.state = .admitted ∨ row.state = .retryableFailed) ∧
      row.leaseOwner = none

/-- The run is refused before admission: the event is stale, or else the gate refuses it or
there is no model caller. An age check or a gate that raises refuses nothing. -/
def RefusesEarly (i : RunInputs) : Prop :=
  (∃ reason, i.ageRefusal = .ok (some reason)) ∨
    i.ageRefusal = .ok none ∧
      ((∃ reason, resolveContext i.triggerTable i.decision = .refused reason) ∨
        (∃ reason context,
          resolveContext i.triggerTable i.decision = .cleared reason context) ∧
          i.callerGiven = false)

lemma unfenced {row : EventRecord} (hfree : row.leaseOwner = none) (now : Datetime) :
    validateLeaseFence row none none now = .ok () :=
  validateLeaseFence_eq_ok_iff.mpr (.inl hfree)

lemma running_of_admitted {row : EventRecord} (hrow : s.get i.eventId = some row)
    (hstate : row.state = .admitted) (hfree : row.leaseOwner = none) :
    ∃ updated s', s.transition i.eventId .running none none none none i.clock.runningAt =
      .ok (updated, s') ∧ s'.Stranded i.eventId := by
  have hallowed : EventState.running ∈ row.state.allowedTransitions := by
    simp [hstate, EventState.allowedTransitions]
  obtain ⟨s', hok, hrow'⟩ :=
    exists_transition_eq_ok .running none none hrow hallowed (unfenced hfree i.clock.runningAt)
  exact ⟨_, s', hok, _, hrow', rfl, rfl, rfl⟩

lemma running_of_waiting {row : EventRecord} (hrow : s.get i.eventId = some row)
    (hstate : row.state = .received ∨ row.state = .admitted ∨ row.state = .retryableFailed)
    (hfree : row.leaseOwner = none) :
    ∃ s₁ updated s', i.readmission none s row = .ok s₁ ∧
      s₁.transition i.eventId .running none none none none i.clock.runningAt =
        .ok (updated, s') ∧ s'.Stranded i.eventId := by
  by_cases hadmitted : row.state = .admitted
  · obtain ⟨updated, s', hok, hstranded⟩ := running_of_admitted hrow hadmitted hfree
    exact ⟨s, updated, s', by simp [readmission, hadmitted], hok, hstranded⟩
  · have hwaiting : row.state = .retryableFailed ∨ row.state = .received := by tauto
    have hallowed : EventState.admitted ∈ row.state.allowedTransitions := by
      rcases hwaiting with h | h <;> simp [h, EventState.allowedTransitions]
    obtain ⟨s₁, hok₁, hrow₁⟩ :=
      exists_transition_eq_ok .admitted none none hrow hallowed (unfenced hfree i.clock.admittedAt)
    obtain ⟨updated, s', hok, hstranded⟩ := running_of_admitted hrow₁ rfl rfl
    exact ⟨s₁, updated, s', by simp [readmission, hwaiting, hok₁, Except.map], hok, hstranded⟩

lemma enterStore_of_takesUp (h : i.TakesUp s) :
    ∃ s₁, i.enterStore none s = (.ok none, s₁) ∧ s₁.Stranded i.eventId := by
  cases hrow : s.get i.eventId with
  | none =>
    have hnew : (s.insertReceived i.eventId i.device i.payload i.clock.createdAt).get i.eventId =
        some (newEvent i.eventId i.device i.payload i.clock.createdAt) :=
      get_insertReceived_self hrow
    obtain ⟨s₁, updated, s', hreadmission, hok, hstranded⟩ :=
      running_of_waiting hnew (.inl rfl) rfl
    refine ⟨s', ?_, hstranded⟩
    have hcreate : s.createOrGet i.eventId i.device i.payload false i.clock.createdAt =
        .ok ((newEvent i.eventId i.device i.payload i.clock.createdAt, true),
          s.insertReceived i.eventId i.device i.payload i.clock.createdAt) := by
      simp [createOrGet, hrow]
    have hidle : (newEvent i.eventId i.device i.payload i.clock.createdAt).state ≠ .running := by
      simp [newEvent]
    simp [enterStore, hcreate, checkLease, hidle, hreadmission, hok]
  | some row =>
    obtain ⟨hdevice, hidentity, hstate, hfree⟩ := h row hrow
    obtain ⟨s₁, updated, s', hreadmission, hok, hstranded⟩ := running_of_waiting hrow hstate hfree
    refine ⟨s', ?_, hstranded⟩
    have hidle : row.state ≠ .running ∧ row.state ≠ .completed := by
      rcases hstate with h | h | h <;> simp [h]
    simp [enterStore, createOrGet_eq_ok hrow hdevice hidentity, checkLease, hidle, hreadmission, hok]

lemma enterStore_of_not_takesUp (h : ¬i.TakesUp s) :
    (i.enterStore none s).2.get i.eventId = s.get i.eventId ∧
      ((i.enterStore none s).1 = .ok none → s.Ownerless i.eventId) := by
  simp only [TakesUp, not_forall] at h
  obtain ⟨row, hrow, hnot⟩ := h
  unfold enterStore
  cases hcreate : s.createOrGet i.eventId i.device i.payload false i.clock.createdAt with
  | error e => simp
  | ok result =>
    obtain ⟨⟨found, created⟩, s₁⟩ := result
    rcases createOrGet_cases hcreate with ⟨hfound, rfl, hdevice, hidentity, rfl⟩ | ⟨hnone, -, -⟩
    · rw [hfound, Option.some.injEq] at hrow
      subst hrow
      have hclosed : found.state = .received ∨ found.state = .admitted ∨
          found.state = .retryableFailed → found.leaseOwner ≠ none :=
        fun hstate hfree => hnot ⟨hdevice, hidentity, hstate, hfree⟩
      have refused : ∀ state now,
          ¬(state ∈ found.state.allowedTransitions ∧ found.leaseOwner = none) →
            ∃ e, s₁.transition i.eventId state none none none none now = .error e := by
        intro state now hclosed'
        cases ht : s₁.transition i.eventId state none none none none now with
        | error e => exact ⟨e, rfl⟩
        | ok pair =>
          obtain ⟨row, hrow', hallowed, hfence, -⟩ := transition_cases ht
          rw [hfound, Option.some.injEq] at hrow'
          subst hrow'
          rcases validateLeaseFence_eq_ok_iff.mp hfence with hnone | ⟨o, k, ho, -⟩
          · exact absurd ⟨hallowed, hnone⟩ hclosed'
          · cases ho
      cases hstate : found.state with
      | received =>
        obtain ⟨e, he⟩ := refused .admitted i.clock.admittedAt
          (fun h => hclosed (.inl hstate) h.2)
        simp [checkLease, readmission, hstate, he, Except.map]
      | admitted =>
        obtain ⟨e, he⟩ := refused .running i.clock.runningAt
          (fun h => hclosed (.inr (.inl hstate)) h.2)
        simp [checkLease, readmission, hstate, he]
      | running =>
        by_cases hfree : found.leaseOwner = none
        · simp only [checkLease, readmission, hstate, hfree, ne_eq, not_true_eq_false, and_false,
            if_false]
          exact ⟨rfl, fun _ => ⟨found, hfound, hstate, hfree⟩⟩
        · simp [checkLease, hstate, hfree]
      | completed => simp [checkLease, hstate]
      | retryableFailed =>
        obtain ⟨e, he⟩ := refused .admitted i.clock.admittedAt
          (fun h => hclosed (.inr (.inr hstate)) h.2)
        simp [checkLease, readmission, hstate, he, Except.map]
      | terminalFailed =>
        obtain ⟨e, he⟩ := refused .running i.clock.runningAt
          (by simp [hstate, EventState.allowedTransitions])
        simp [checkLease, readmission, hstate, he]
      | deadLetter =>
        obtain ⟨e, he⟩ := refused .running i.clock.runningAt
          (by simp [hstate, EventState.allowedTransitions])
        simp [checkLease, readmission, hstate, he]
    · rw [hrow] at hnone
      cases hnone

/-- What a returned run must leave: the row is as it was, or recovery can still account for
it, and no event has become stranded. -/
structure KeepsTrack (i : RunInputs) (s s' : EventStore) : Prop where
  row : s'.get i.eventId = s.get i.eventId ∨ s'.Tracked i.eventId
  stranded : s'.Stranded i.eventId → s.Stranded i.eventId

lemma keepsTrack_of_row (h : s'.get i.eventId = s.get i.eventId ∨ s'.Tracked i.eventId) :
    i.KeepsTrack s s' := by
  refine ⟨h, ?_⟩
  intro hstranded
  rcases h with hsame | htracked
  · obtain ⟨row, hrow, hunleased⟩ := hstranded
    exact ⟨row, hsame ▸ hrow, hunleased⟩
  · exact absurd hstranded htracked.not_stranded

lemma runEvent_of_refusesEarly (h : i.RefusesEarly) {s₁ : EventStore}
    (henter : i.enterStore none s = (.ok none, s₁)) :
    ∃ run, i.runEvent none s = (.returned run, s₁) := by
  unfold runEvent
  rw [henter]
  simp only [Option.isSome_none, Bool.false_eq_true, if_false]
  rcases h with ⟨reason, hage⟩ | ⟨hage, ⟨reason, hgate⟩ | ⟨⟨reason, context, hgate⟩, hcaller⟩⟩
  · rw [hage]
    exact ⟨_, rfl⟩
  · simp only [hage, hgate]
    exact ⟨_, rfl⟩
  · simp only [hage, hgate, hcaller]
    exact ⟨_, rfl⟩

lemma runEvent_tracked {s₁ : EventStore} (henter : i.enterStore none s = (.ok none, s₁))
    (howner : s₁.Ownerless i.eventId) (hgate : ¬i.RefusesEarly) {run : EventRun}
    (hret : i.runEvent none s = (.returned run, s')) : s'.Tracked i.eventId := by
  unfold runEvent at hret
  rw [henter] at hret
  simp only [Option.isSome_none, Bool.false_eq_true, if_false] at hret
  cases hage : i.ageRefusal with
  | error message =>
    rw [hage] at hret
    cases hret
  | ok refusal =>
    cases refusal with
    | some reason => exact absurd (.inl ⟨reason, hage⟩) hgate
    | none =>
      simp only [hage] at hret
      split at hret
      · cases hret
      · rename_i reason hrefused
        exact absurd (.inr ⟨hage, .inl ⟨reason, hrefused⟩⟩) hgate
      · rename_i reason context hcleared
        split at hret
        · rename_i hcaller
          have hnone : i.callerGiven = false := by simpa using hcaller
          exact absurd (.inr ⟨hage, .inr ⟨⟨reason, context, hcleared⟩, hnone⟩⟩) hgate
        · exact admitPhase_tracked howner hret

end RunInputs

/-- A run without a lease keeps track of its event in whatever way it returns, if and only if
it does not both take the event up and refuse it before admission. -/
theorem runEvent_keepsTrack_iff (i : RunInputs) (s : EventStore) :
    (∀ run s', i.runEvent none s = (.returned run, s') → i.KeepsTrack s s') ↔
      ¬(i.TakesUp s ∧ i.RefusesEarly) := by
  constructor
  · rintro hkeeps ⟨htakes, hrefuses⟩
    obtain ⟨s₁, henter, hstranded⟩ := RunInputs.enterStore_of_takesUp htakes
    obtain ⟨run, hret⟩ := RunInputs.runEvent_of_refusesEarly hrefuses henter
    obtain ⟨row, hrow, hrunning, -⟩ := (hkeeps run s₁ hret).stranded hstranded
    obtain ⟨-, -, hstate, -⟩ := htakes row hrow
    rw [hrunning] at hstate
    simp at hstate
  · intro hcond run s' hret
    apply RunInputs.keepsTrack_of_row
    by_cases htakes : i.TakesUp s
    · obtain ⟨s₁, henter, row, hrow, hrunning, hfree, -⟩ :=
        RunInputs.enterStore_of_takesUp htakes
      exact .inr (RunInputs.runEvent_tracked henter ⟨row, hrow, hrunning, hfree⟩
        (fun hrefuses => hcond ⟨htakes, hrefuses⟩) hret)
    · obtain ⟨hsame, howner⟩ := RunInputs.enterStore_of_not_takesUp htakes
      cases henter : i.enterStore none s with
      | mk entered s₁ =>
        rw [henter] at hsame howner
        match entered with
        | .error e =>
          simp only [RunInputs.runEvent, henter] at hret
          cases hret
          exact .inl hsame
        | .ok (some record) =>
          simp only [RunInputs.runEvent, henter] at hret
          cases hret
          exact .inl hsame
        | .ok none =>
          by_cases hrefuses : i.RefusesEarly
          · obtain ⟨run', hret'⟩ := RunInputs.runEvent_of_refusesEarly hrefuses henter
            rw [hret'] at hret
            cases hret
            exact .inl hsame
          · obtain ⟨row, hrow, hfacts⟩ := howner rfl
            exact .inr (RunInputs.runEvent_tracked henter ⟨row, hsame.trans hrow, hfacts⟩
              hrefuses hret)

def unroutedRun : RunInputs where
  decision := { routable := false, reason := "no route", device := some "r1" }
  eventId := "ab"
  clock := ⟨⟨0, 0⟩, ⟨0, 0⟩, ⟨0, 0⟩, ⟨0, 0⟩, ⟨0, 0⟩, ⟨0, 0⟩, ⟨0, 0⟩, ⟨0, 0⟩⟩
  digits := .ascii
  time := 0
  maxEventAge := 300
  limitText := fun _ => "300"
  triggerTable := []
  callerGiven := true
  toolsetGiven := true
  admits := true
  admission := .admitted
  dispatch := fun _ mode => ⟨[], .ok (RunInputs.stopped "done" mode "end_turn")⟩
  mcpStart := none
  mcpExit := none
  finish := fun _ => none
  finishAgain := fun _ => none

theorem runEvent_strands_unrouted :
    ¬∀ (i : RunInputs) (s : EventStore) run s',
      i.runEvent none s = (.returned run, s') → i.KeepsTrack s s' := by
  intro h
  have hret : unroutedRun.runEvent none .empty =
      (.returned (RunInputs.stopped "routing decision is not routable: no route" "plan" "not_run"),
        (unroutedRun.runEvent none .empty).2) := rfl
  have hrow : ((unroutedRun.runEvent none .empty).2.get "ab").map
      (fun row => (row.state, row.leaseOwner, row.leaseExpiresAt)) =
        some (.running, none, none) := by decide
  obtain ⟨row, hget, hfields⟩ := Option.map_eq_some_iff.mp hrow
  simp only [Prod.mk.injEq] at hfields
  obtain ⟨row', hempty, -⟩ := (h _ _ _ _ hret).stranded ⟨row, hget, hfields⟩
  cases hempty

end NetTools
