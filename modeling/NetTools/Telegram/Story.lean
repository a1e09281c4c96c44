import NetTools.EventAgent.Containment
import NetTools.Investigation.Acceptance
import NetTools.Telegram.Adapters
import NetTools.Telegram.CardReduction

/-!
# The story of an investigation

What the card of an event shows when a run has told all of its ticket.
-/

namespace NetTools

section stored

variable {digest : String → String} {s s' : EventStore} {eventId : String}
  {stored : Option InvestigationView} {activity : InvestigationActivity} {now : Datetime}

lemma EventStore.drainLive_cardStates (s : EventStore) (tick : Tick) (owner : String) :
    (s.drainLive tick owner).cardStates = s.cardStates :=
  (s.drainLive_delivered tick owner).same.states

lemma EventStore.enqueueNotification_cardStates {asked destination kind : String}
    {payload : Dict} {created : Bool} {row : OutboxRecord}
    (h : s.enqueueNotification asked destination kind payload now = .ok ((row, created), s')) :
    s'.cardStates = s.cardStates := by
  obtain ⟨-, -, rfl⟩ | ⟨-, -, -, rfl⟩ := EventStore.enqueueNotification_cases h
  · rfl
  · rfl

lemma EventStore.enqueueActivity_cardStates {chatId : String} {record : Option OutboxRecord}
    (h : s.enqueueActivity chatId activity now = .ok (record, s')) :
    s'.cardStates = s.cardStates := by
  unfold EventStore.enqueueActivity at h
  split at h
  · cases h
    rfl
  split at h
  · cases h
  · rename_i hrow
    cases h
    exact EventStore.enqueueNotification_cardStates hrow

lemma enqueueFound_cardStates (c : TelegramCardCoordinator) (now : Datetime)
    (found : Except CardError (Option InvestigationView) × EventStore) :
    (c.enqueueFound digest now found).2.cardStates = found.2.cardStates := by
  unfold TelegramCardCoordinator.enqueueFound
  split
  · rfl
  · rfl
  unfold TelegramCardCoordinator.enqueue
  split
  · rfl
  unfold EventStore.enqueueCard
  split
  · rename_i herror
    rfl
  · rename_i record s₁ hcard
    dsimp only
    split at hcard
    · cases hcard
      rfl
    split at hcard
    · cases hcard
    · rename_i hrow
      cases hcard
      exact EventStore.enqueueNotification_cardStates hrow

lemma applyState_stored {found : Option InvestigationView}
    (h : s.StoresView activity.eventId stored)
    (hok : TelegramCardCoordinator.applyState s activity now = (.ok found, s')) :
    ∃ change, viewUpdate stored activity = .ok change ∧
      s'.StoresView activity.eventId (storedAfter stored change) := by
  unfold TelegramCardCoordinator.applyState at hok
  rw [EventStore.updatedView_eq h] at hok
  cases hupdate : viewUpdate stored activity with
  | error e =>
    rw [hupdate] at hok
    cases hok
  | ok change =>
    refine ⟨change, rfl, ?_⟩
    rw [hupdate] at hok
    cases change with
    | none =>
      cases hok
      exact h
    | some updated =>
      dsimp only at hok
      split at hok
      · cases hok
      · rename_i state s₁ hsave
        cases hok
        have hevent : s.get activity.eventId ≠ none := by
          intro hnone
          unfold EventStore.saveTelegramCardState at hsave
          rw [if_pos hnone] at hsave
          cases hsave
        obtain ⟨_, _, hsaved, ⟨saved, hget, hpayload, -⟩, -⟩ :=
          EventStore.saveTelegramCardState_ok hevent (encodeView updated)
            (if activity.kind ∈ immediateKinds then none else some now) now
        rw [hsave] at hsaved
        cases hsaved
        refine ⟨saved, hget, ?_⟩
        rw [hpayload]
        exact decodeView_encodeView updated

lemma apply_stored {c : TelegramCardCoordinator} {record : Option OutboxRecord}
    (h : s.StoresView activity.eventId stored)
    (hok : c.apply digest s activity now = (.ok record, s')) :
    ∃ change, viewUpdate stored activity = .ok change ∧
      s'.StoresView activity.eventId (storedAfter stored change) := by
  have hstates : (c.apply digest s activity now).2.cardStates =
      (TelegramCardCoordinator.applyState s activity now).2.cardStates :=
    enqueueFound_cardStates c now _
  rw [hok] at hstates
  unfold TelegramCardCoordinator.apply at hok
  cases hfirst : TelegramCardCoordinator.applyState s activity now with
  | mk outcome s₁ =>
    rw [hfirst] at hok hstates
    cases outcome with
    | error e => cases hok
    | ok found =>
      obtain ⟨change, hchange, hstored⟩ := applyState_stored h hfirst
      exact ⟨change, hchange, hstored.of_states hstates⟩

lemma emitTo_stored {c : TelegramCardCoordinator} {e : Emission}
    (h : s.StoresView e.activity.eventId stored) (hok : emitTo digest c s e = (.ok (), s')) :
    ∃ change, viewUpdate stored e.activity = .ok change ∧
      s'.StoresView e.activity.eventId (storedAfter stored change) := by
  unfold emitTo at hok
  split at hok
  · cases hok
  · rename_i record s₁ happly
    obtain ⟨change, hchange, hstored⟩ := apply_stored h happly
    refine ⟨change, hchange, ?_⟩
    have hdrained := hstored.of_states (s₁.drainLive_cardStates (e.card c.chatId) e.owner)
    dsimp only at hok
    split at hok
    · cases hok
    · rename_i s₃ hreply
      cases hok
      exact hdrained.of_states (EventStore.enqueueActivity_cardStates hreply)
    · rename_i reply s₃ hreply
      cases hok
      exact (hdrained.of_states (EventStore.enqueueActivity_cardStates hreply)).of_states
        (s₃.drainLive_cardStates _ _)

lemma applyTo_stored {c : TelegramCardCoordinator} {e : Emission}
    (h : s.StoresView e.activity.eventId stored) (hok : applyTo digest c s e = (.ok (), s')) :
    ∃ change, viewUpdate stored e.activity = .ok change ∧
      s'.StoresView e.activity.eventId (storedAfter stored change) := by
  unfold applyTo at hok
  split at hok
  · cases hok
  · rename_i record s₁ happly
    cases hok
    obtain ⟨change, hchange, hstored⟩ := apply_stored h happly
    exact ⟨change, hchange, hstored.of_states (s₁.drainLive_cardStates _ _)⟩

section loop

variable {body : TelegramCardCoordinator → EventStore → Except CardError Unit × EventStore}
  {cs : List TelegramCardCoordinator}
  (hbody : ∀ c s s' stored, s.StoresView activity.eventId stored → body c s = (.ok (), s') →
    ∃ change, viewUpdate stored activity = .ok change ∧
      s'.StoresView activity.eventId (storedAfter stored change))

include hbody

lemma eachChat_unchanged
    (h : s.StoresView activity.eventId stored) (hsame : viewUpdate stored activity = .ok none)
    (hok : eachChat body s cs = (.ok (), s')) : s'.StoresView activity.eventId stored := by
  induction cs generalizing s with
  | nil =>
    cases hok
    exact h
  | cons c cs ih =>
    rw [eachChat] at hok
    split at hok
    · cases hok
    · rename_i s₁ hfirst
      obtain ⟨change, hchange, hstored⟩ := hbody c s s₁ stored h hfirst
      obtain rfl := Except.ok.inj (hsame.symm.trans hchange)
      exact ih hstored hok

lemma eachChat_stored (hcs : cs ≠ []) (h : s.StoresView activity.eventId stored)
    (hok : eachChat body s cs = (.ok (), s')) :
    ∃ change, viewUpdate stored activity = .ok change ∧
      s'.StoresView activity.eventId (storedAfter stored change) := by
  cases cs with
  | nil => exact absurd rfl hcs
  | cons c cs =>
    rw [eachChat] at hok
    split at hok
    · cases hok
    · rename_i s₁ hfirst
      obtain ⟨change, hchange, hstored⟩ := hbody c s s₁ stored h hfirst
      exact ⟨change, hchange, eachChat_unchanged hbody hstored (viewUpdate_again hchange) hok⟩

end loop

lemma emitToAll_eq (e : Emission) (cs : List TelegramCardCoordinator) (s : EventStore) :
    emitToAll digest s e cs = eachChat (fun c s => emitTo digest c s e) s cs := by
  induction cs generalizing s with
  | nil => rfl
  | cons c cs ih =>
    rw [emitToAll, eachChat]
    cases emitTo digest c s e with
    | mk outcome s₁ =>
      cases outcome with
      | error err => rfl
      | ok done => exact ih s₁

variable {handling : InvestigationActivity → Handling} {cs : List TelegramCardCoordinator}
  {replied : Bool}

theorem tellOne_stored (hcs : cs ≠ []) (h : s.StoresView activity.eventId stored)
    (hok : tellOne digest handling cs replied s activity = (.ok (), s')) :
    ∃ change, viewUpdate stored activity = .ok change ∧
      s'.StoresView activity.eventId (storedAfter stored change) := by
  unfold tellOne at hok
  split at hok
  · rw [emitToAll_eq] at hok
    exact eachChat_stored (fun c s s' stored h hfirst => emitTo_stored h hfirst) hcs h hok
  · exact eachChat_stored (fun c s s' stored h hfirst => applyTo_stored h hfirst) hcs h hok

end stored

def viewAfter (view : InvestigationView) (activities : List InvestigationActivity) :
    InvestigationView := Runs.final (GuardedFold.step Applies nextView) view activities

lemma viewAfter_cons (view : InvestigationView) (a : InvestigationActivity)
    (activities : List InvestigationActivity) :
    viewAfter view (a :: activities) =
      viewAfter (GuardedFold.step Applies nextView view a) activities := rfl

lemma viewAfter_append (view : InvestigationView) (first last : List InvestigationActivity) :
    viewAfter view (first ++ last) = viewAfter (viewAfter view first) last := List.foldl_append ..

lemma concerns_step {view : InvestigationView} (a b : InvestigationActivity) :
    Concerns (GuardedFold.step Applies nextView view a) b ↔ Concerns view b := by
  rw [GuardedFold.step]
  split
  · exact Iff.rfl
  · exact Iff.rfl

lemma viewAfter_identity (view : InvestigationView) (activities : List InvestigationActivity) :
    (viewAfter view activities).eventId = view.eventId ∧
      ∀ a, Concerns (viewAfter view activities) a ↔ Concerns view a := by
  induction activities generalizing view with
  | nil => exact ⟨rfl, fun a => Iff.rfl⟩
  | cons a activities ih =>
    have hsame : (GuardedFold.step Applies nextView view a).eventId = view.eventId := by
      rw [GuardedFold.step]
      split
      · rfl
      · rfl
    obtain ⟨hevent, hconcerns⟩ := ih (GuardedFold.step Applies nextView view a)
    rw [viewAfter_cons]
    exact ⟨hevent.trans hsame, fun b => (hconcerns b).trans (concerns_step a b)⟩

lemma viewUpdate_concerns {view : InvestigationView} {activity : InvestigationActivity}
    {change : Option InvestigationView} (hconcerns : Concerns view activity)
    (h : viewUpdate (some view) activity = .ok change) :
    storedAfter (some view) change = some (GuardedFold.step Applies nextView view activity) := by
  simp only [viewUpdate, viewBefore, reduceView_eq hconcerns] at h
  split at h
  · rename_i hsame
    cases h
    rw [hsame]
    rfl
  · cases h
    rfl

section run

variable {digest : String → String} {handling : InvestigationActivity → Handling}
  {cs : List TelegramCardCoordinator} {s s' : EventStore} {view : InvestigationView}

lemma tellEach_stored {replied : Bool} {activities : List InvestigationActivity} (hcs : cs ≠ [])
    (hconcerns : ∀ a ∈ activities, Concerns view a) (h : s.StoresView view.eventId (some view))
    (hok : tellEach digest handling cs replied s activities = (.ok (), s')) :
    s'.StoresView view.eventId (some (viewAfter view activities)) := by
  induction activities generalizing s view with
  | nil =>
    cases hok
    exact h
  | cons a rest ih =>
    have ha := hconcerns a List.mem_cons_self
    rw [tellEach] at hok
    split at hok
    · cases hok
    · rename_i s₁ hfirst
      rw [← ha.2] at h
      obtain ⟨change, hchange, hstored⟩ := tellOne_stored hcs h hfirst
      rw [viewUpdate_concerns ha hchange, ha.2] at hstored
      have hsame : (GuardedFold.step Applies nextView view a).eventId = view.eventId :=
        ((concerns_step a a).mpr ha).2.symm.trans ha.2
      rw [← hsame] at hstored ⊢
      exact ih (fun b hb => (concerns_step a b).mpr (hconcerns b (List.mem_cons_of_mem a hb)))
        hstored hok

def Built : List Batch → List InvestigationActivity → Prop
  | [], told => told = []
  | b :: rest, told => ∃ activities later, b.activities = .ok activities ∧ Built rest later ∧
    told = activities ++ later

lemma built_append {bs rest : List Batch} {told : List InvestigationActivity} :
    Built (bs ++ rest) told ↔
      ∃ first last, Built bs first ∧ Built rest last ∧ told = first ++ last := by
  induction bs generalizing told with
  | nil => simp [Built]
  | cons b bs ih =>
    simp only [List.cons_append, Built, ih]
    constructor
    · rintro ⟨activities, _, hb, ⟨first, last, hfirst, hlast, rfl⟩, rfl⟩
      exact ⟨_, last, ⟨activities, first, hb, hfirst, rfl⟩, hlast, (List.append_assoc ..).symm⟩
    · rintro ⟨_, last, ⟨activities, first, hb, hfirst, rfl⟩, hlast, rfl⟩
      exact ⟨activities, _, hb, ⟨first, last, hfirst, hlast, rfl⟩, List.append_assoc ..⟩

theorem tellBatches_stored {bs : List Batch} (hcs : cs ≠ [])
    (hconcerns : ∀ b ∈ bs, ∀ activities, b.activities = .ok activities →
      ∀ a ∈ activities, Concerns view a)
    (h : s.StoresView view.eventId (some view))
    (hok : tellBatches digest handling cs s bs = (.ok (), s')) :
    ∃ told, Built bs told ∧ s'.StoresView view.eventId (some (viewAfter view told)) := by
  induction bs generalizing s view with
  | nil =>
    cases hok
    exact ⟨[], rfl, h⟩
  | cons b rest ih =>
    rw [tellBatches] at hok
    cases hbuilt : b.activities with
    | error message =>
      rw [hbuilt] at hok
      cases hok
    | ok activities =>
      rw [hbuilt] at hok
      dsimp only at hok
      split at hok
      · cases hok
      · rename_i s₁ hfirst
        have hstored := tellEach_stored hcs
          (hconcerns b List.mem_cons_self activities hbuilt) h hfirst
        obtain ⟨hevent, hsame⟩ := viewAfter_identity view activities
        rw [← hevent] at hstored
        obtain ⟨told, htold, hlast⟩ := ih (fun b hb activities' hbuilt' a ha =>
          (hsame a).mpr (hconcerns b (List.mem_cons_of_mem _ hb) activities' hbuilt' a ha))
          hstored hok
        refine ⟨activities ++ told, ⟨activities, told, hbuilt, htold, rfl⟩, ?_⟩
        rw [hevent] at hlast
        rw [viewAfter_append]
        exact hlast

end run

lemma taggedId_ne_terminal (eventId tag text : String) :
    taggedId eventId tag text ≠ eventId ++ ":terminal" := by
  intro h
  have hlists := congrArg String.toList h
  simp only [taggedId, String.toList_append, List.append_assoc] at hlists
  have hrest : tag.toList ++ (":".toList ++ text.toList) = "terminal".toList :=
    (List.cons.inj (List.append_cancel_left hlists)).2
  have hcolon : ':' ∈ "terminal".toList := by
    rw [← hrest]
    exact List.mem_append_right _ (List.mem_append_left _ (List.mem_singleton_self ':'))
  exact absurd hcolon (by decide)

lemma started_ne_terminal (eventId : String) : eventId ++ ":started" ≠ eventId ++ ":terminal" := by
  intro h
  have hlists := congrArg String.toList h
  rw [String.toList_append, String.toList_append] at hlists
  exact absurd (List.append_cancel_left hlists) (by decide)

namespace Telling

/-- An activity of the run that gives no verdict, numbered at most so high. -/
structure OnTheWay (t : Telling) (sequence : Int) (a : InvestigationActivity) : Prop where
  incident : a.incidentId = t.incidentId
  event : a.eventId = t.eventId
  last : a.sequence ≤ sequence
  unended : a.activityId ≠ t.eventId ++ ":terminal"
  kind : a.kind ∉ terminalKinds
  unclassified : a.classification = none
  unlimited : a.limitation = none

/-- A view of the run without a verdict, after activities numbered at most so high. -/
structure Open (t : Telling) (sequence : Int) (view : InvestigationView) : Prop where
  incident : view.incidentId = t.incidentId
  event : view.eventId = t.eventId
  last : view.lastSequence ≤ sequence
  unended : t.eventId ++ ":terminal" ∉ view.appliedActivityIds
  running : view.terminal = false
  unclassified : view.classification = none
  unlimited : view.limitation = none

variable {t : Telling} {low high : Int} {view : InvestigationView}

lemma OnTheWay.mono {a : InvestigationActivity} (h : t.OnTheWay low a) (hle : low ≤ high) :
    t.OnTheWay high a := { h with last := h.last.trans hle }

lemma Open.mono (h : t.Open low view) (hle : low ≤ high) : t.Open high view :=
  { h with last := h.last.trans hle }

lemma Open.step {a : InvestigationActivity} (h : t.Open high view) (ha : t.OnTheWay high a) :
    t.Open high (GuardedFold.step Applies nextView view a) := by
  by_cases happlies : Applies view a
  · rw [GuardedFold.step_of_applies happlies]
    refine ⟨h.incident, h.event, ha.last, ?_, decide_eq_false ha.kind, ?_, ?_⟩
    · intro hmem
      rcases Finset.mem_insert.mp hmem with hid | hmem
      · exact ha.unended hid.symm
      · exact h.unended hmem
    · rw [← h.unclassified]
      exact congrArg (orText · view.classification) ha.unclassified
    · rw [← h.unlimited]
      exact congrArg (orText · view.limitation) ha.unlimited
  · rw [GuardedFold.step_of_not_applies happlies]
    exact h

lemma Open.viewAfter {activities : List InvestigationActivity} (h : t.Open high view)
    (hway : ∀ a ∈ activities, t.OnTheWay high a) : t.Open high (viewAfter view activities) := by
  induction activities generalizing view with
  | nil => exact h
  | cons a activities ih =>
    rw [viewAfter_cons]
    exact ih (h.step (hway a List.mem_cons_self))
      (fun b hb => hway b (List.mem_cons_of_mem a hb))

end Telling

lemma finding_viewAfter {view : InvestigationView} {activities : List InvestigationActivity}
    (h : view.finding = none) (hnone : ∀ a ∈ activities, a.finding = none) :
    (viewAfter view activities).finding = none := by
  induction activities generalizing view with
  | nil => exact h
  | cons a activities ih =>
    rw [viewAfter_cons]
    refine ih ?_ (fun b hb => hnone b (List.mem_cons_of_mem a hb))
    rw [GuardedFold.step]
    split
    · rw [← h]
      exact congrArg (orText · view.finding) (hnone a List.mem_cons_self)
    · exact h

lemma mem_setStage {stages : List InvestigationStage} {stage other : InvestigationStage}
    (h : other ∈ setStage stages stage) :
    other = stage ∨ other ∈ stages ∧ other.name ≠ stage.name := by
  unfold setStage at h
  split at h
  · obtain ⟨old, hold, rfl⟩ := List.mem_map.mp h
    split
    · exact .inl rfl
    · rename_i hname
      exact .inr ⟨hold, hname⟩
  · rename_i hnew
    rcases List.mem_append.mp h with hold | hlast
    · refine .inr ⟨hold, fun hname => hnew (List.any_eq_true.mpr ⟨other, hold, ?_⟩)⟩
      exact decide_eq_true hname
    · exact .inl (List.mem_singleton.mp hlast)

lemma mem_stagesByName {stages : List InvestigationStage} {other : InvestigationStage}
    (h : other ∈ stagesByName stages) : other ∈ stages := by
  have hfold : ∀ (stages kept : List InvestigationStage),
      other ∈ stages.foldl setStage kept → other ∈ stages ∨ other ∈ kept := by
    intro stages
    induction stages with
    | nil => exact fun _ h => .inr h
    | cons stage stages ih =>
      intro kept h
      rcases ih _ h with hlater | hset
      · exact .inl (List.mem_cons_of_mem _ hlater)
      · rcases mem_setStage hset with rfl | ⟨hkept, -⟩
        · exact .inl List.mem_cons_self
        · exact .inr hkept
  rcases hfold stages [] h with h | h
  · exact h
  · exact absurd h List.not_mem_nil

lemma mem_stages_nextView {view : InvestigationView} {a : InvestigationActivity}
    {other : InvestigationStage} (h : other ∈ (nextView view a).stages) :
    (∃ name, a.stage = some name ∧ other = a.stageOf name) ∨
      other ∈ view.stages ∧ ∀ name, a.stage = some name → name ≠ "" → other.name ≠ name := by
  have hmem := (List.perm_insertionSort _ _).mem_iff.mp h
  cases hstage : a.stage with
  | none =>
    rw [hstage] at hmem
    exact .inr ⟨mem_stagesByName hmem, fun name hname => by cases hname⟩
  | some name =>
    rw [hstage] at hmem
    dsimp only at hmem
    split at hmem
    · rename_i hempty
      refine .inr ⟨mem_stagesByName hmem, fun named hnamed hne => ?_⟩
      obtain rfl := Option.some.inj hnamed
      exact absurd hempty hne
    · rcases mem_setStage hmem with rfl | ⟨hold, hname⟩
      · exact .inl ⟨name, rfl, rfl⟩
      · refine .inr ⟨mem_stagesByName hold, fun named hnamed _ => ?_⟩
        obtain rfl := Option.some.inj hnamed
        exact hname

lemma stages_viewAfter {P : InvestigationStage → Prop} {view : InvestigationView}
    {activities : List InvestigationActivity} (h : ∀ stage ∈ view.stages, P stage)
    (hnew : ∀ a ∈ activities, ∀ name, a.stage = some name → P (a.stageOf name)) :
    ∀ stage ∈ (viewAfter view activities).stages, P stage := by
  induction activities generalizing view with
  | nil => exact h
  | cons a activities ih =>
    rw [viewAfter_cons]
    refine ih ?_ (fun b hb => hnew b (List.mem_cons_of_mem a hb))
    intro stage hstage
    rw [GuardedFold.step] at hstage
    split at hstage
    · rcases mem_stages_nextView hstage with ⟨name, hname, rfl⟩ | ⟨hold, -⟩
      · exact hnew a List.mem_cons_self name hname
      · exact h stage hold
    · exact h stage hstage

namespace Telling

open Adapters

variable {t : Telling} {sequence high : Int} {told : List InvestigationActivity}
  {receipt : InvestigationReceipt}

lemma onTheWay_of_args {a : ActivityArgs} {activity : InvestigationActivity}
    (h : a.activity = .ok activity) (hincident : a.incidentId = t.incidentId)
    (hevent : a.eventId = t.eventId) (hlast : a.sequence ≤ high)
    (hid : a.activityId ≠ t.eventId ++ ":terminal")
    (hkind : decide (a.kind ∈ terminalKinds) = false) (hclass : a.classification = none)
    (hlimit : a.limitation = none) : t.OnTheWay high activity := by
  obtain rfl := ActivityArgs.activity_args h
  exact ⟨hincident, hevent, hlast, hid, of_decide_eq_false hkind, hclass, hlimit⟩

lemma built_one {activity : Except String InvestigationActivity} {rest : List Batch} :
    Built (.one activity :: rest) told ↔
      ∃ a later, activity = .ok a ∧ Built rest later ∧ told = a :: later := by
  cases activity with
  | error message =>
    constructor
    · rintro ⟨activities, later, hbuilt, -⟩
      cases hbuilt
    · rintro ⟨a, later, hbuilt, -⟩
      cases hbuilt
  | ok a =>
    constructor
    · rintro ⟨activities, later, hbuilt, hrest, rfl⟩
      cases hbuilt
      exact ⟨a, later, rfl, hrest, rfl⟩
    · rintro ⟨a', later, hbuilt, hrest, rfl⟩
      cases hbuilt
      exact ⟨[a], later, rfl, hrest, rfl⟩

def OfCall (t : Telling) (high : Int) (a : InvestigationActivity) : Prop :=
  t.OnTheWay high a ∧ a.finding = none ∧ a.rung = none

lemma selected_ofCall {tool : String} {stage : Option String} {a : InvestigationActivity}
    (hle : sequence ≤ high)
    (h : toolSelectedActivity t.incidentId t.eventId sequence tool stage = .ok a) :
    t.OfCall high a := by
  have hargs := ActivityArgs.activity_args h
  exact ⟨onTheWay_of_args h rfl rfl hle (taggedId_ne_terminal _ _ _) rfl rfl rfl,
    congrArg ActivityArgs.finding hargs, congrArg ActivityArgs.rung hargs⟩

lemma preview_ofCall {tool device label : String} {a : InvestigationActivity}
    (hle : sequence ≤ high)
    (h : commandPreviewActivity t.incidentId t.eventId sequence tool device label = .ok a) :
    t.OfCall high a := by
  have hargs := ActivityArgs.activity_args h
  exact ⟨onTheWay_of_args h rfl rfl hle (taggedId_ne_terminal _ _ _) rfl rfl rfl,
    congrArg ActivityArgs.finding hargs, congrArg ActivityArgs.rung hargs⟩

lemma result_ofCall {tool device : String} {isError : Bool} {durationMs : Int}
    {a : InvestigationActivity} (hle : sequence ≤ high)
    (h : toolResultActivity t.incidentId t.eventId sequence tool device isError durationMs =
      .ok a) : t.OfCall high a := by
  have hargs := ActivityArgs.activity_args h
  exact ⟨onTheWay_of_args h rfl rfl hle (taggedId_ne_terminal _ _ _) rfl rfl rfl,
    congrArg ActivityArgs.finding hargs, congrArg ActivityArgs.rung hargs⟩

lemma section_ofCall {entry : TicketSection} (hnone : entry.answer? = none)
    (h : Built (t.sectionBatches sequence entry).1 told) :
    sequence ≤ (t.sectionBatches sequence entry).2 ∧
      ∀ a ∈ told, t.OfCall (t.sectionBatches sequence entry).2 a := by
  unfold sectionBatches at h ⊢
  split at h
  · obtain ⟨a, later, ha, rfl, rfl⟩ := built_one.mp h
    refine ⟨by dsimp only; omega, ?_⟩
    exact List.forall_mem_singleton.mpr (selected_ofCall le_rfl ha)
  · obtain ⟨a, later, ha, hrest, rfl⟩ := built_one.mp h
    obtain ⟨b, later', hb, hrest', rfl⟩ := built_one.mp hrest
    obtain ⟨c, later'', hc, rfl, rfl⟩ := built_one.mp hrest'
    refine ⟨by dsimp only; omega, ?_⟩
    refine List.forall_mem_cons.mpr ⟨selected_ofCall (by dsimp only; omega) ha, ?_⟩
    refine List.forall_mem_cons.mpr ⟨preview_ofCall (by dsimp only; omega) hb, ?_⟩
    exact List.forall_mem_singleton.mpr (result_ofCall le_rfl hc)
  · cases hnone
  · obtain rfl : told = [] := h
    exact ⟨le_rfl, fun a ha => absurd ha List.not_mem_nil⟩

def OfReceipt (t : Telling) (receipt : InvestigationReceipt) (high : Int)
    (a : InvestigationActivity) : Prop :=
  t.OnTheWay high a ∧ (a.rung = none ∨ a.stage = some receipt.flow)

lemma rungs_ofReceipt {rungs : List Dict}
    (h : rungActivities t.str receipt t.incidentId t.eventId sequence rungs = .ok told) :
    ∀ a ∈ told, t.OfReceipt receipt (sequence + rungs.length) a := by
  induction rungs generalizing sequence told with
  | nil =>
    cases h
    exact fun a ha => absurd ha List.not_mem_nil
  | cons rung rungs ih =>
    rw [rungActivities] at h
    obtain ⟨a, ha, h⟩ := Validation.bind_eq_ok_iff.mp h
    obtain ⟨later, hlater, h⟩ := Validation.bind_eq_ok_iff.mp h
    cases h
    have hlength : ((rung :: rungs).length : Int) = rungs.length + 1 := by
      rw [List.length_cons]
      push_cast
      rfl
    refine List.forall_mem_cons.mpr ⟨⟨?_, .inr ?_⟩, ?_⟩
    · refine onTheWay_of_args ha rfl rfl ?_ (taggedId_ne_terminal _ _ _) rfl rfl rfl
      dsimp only
      omega
    · exact congrArg ActivityArgs.stage (ActivityArgs.activity_args ha)
    · intro b hb
      obtain ⟨hway, hstage⟩ := ih hlater b hb
      exact ⟨hway.mono (by omega), hstage⟩

lemma tail_onTheWay {finding : String} {trustworthy : Bool} {coverage : Option Bool}
    {a : InvestigationActivity} (htail : t.reasoningTail = true)
    (h : visibleReasoningTailActivity t.incidentId t.eventId (sequence + 1) finding trustworthy
      coverage = .ok a) : t.OnTheWay (t.receiptStart sequence) a ∧ a.rung = none := by
  unfold visibleReasoningTailActivity at h
  split at h
  · cases h
  · refine ⟨?_, congrArg ActivityArgs.rung (ActivityArgs.activity_args h)⟩
    refine onTheWay_of_args h rfl rfl ?_ (taggedId_ne_terminal _ _ _) rfl rfl rfl
    rw [receiptStart, if_pos htail]

lemma tail_ofReceipt (h : Built (t.tailBatches sequence receipt) told) :
    ∀ a ∈ told, t.OfReceipt receipt (t.receiptStart sequence) a := by
  unfold tailBatches at h
  split at h
  · rename_i htail
    obtain ⟨a, later, ha, rfl, rfl⟩ := built_one.mp h
    obtain ⟨hway, hrung⟩ := tail_onTheWay htail ha
    exact List.forall_mem_singleton.mpr ⟨hway, .inl hrung⟩
  · obtain rfl : told = [] := h
    exact fun a ha => absurd ha List.not_mem_nil

lemma built_receipt (h : Built (t.receiptBatches sequence receipt) told) :
    ∃ before last, told = before ++ [last] ∧
      (∀ a ∈ before, t.OfReceipt receipt (t.receiptStart sequence + receipt.rungs.length) a) ∧
      terminalActivity receipt t.incidentId t.eventId
        (t.receiptStart sequence + receipt.rungs.length + 1) = .ok last := by
  obtain ⟨first, rest, hfirst, ⟨activities, later, hbuilt, rfl, rfl⟩, rfl⟩ := built_append.mp h
  obtain ⟨rungs, hrungs, hbuilt⟩ := Validation.bind_eq_ok_iff.mp hbuilt
  obtain ⟨last, hlast, hbuilt⟩ := Validation.bind_eq_ok_iff.mp hbuilt
  cases hbuilt
  refine ⟨first ++ rungs, last, ?_, ?_, hlast⟩
  · rw [List.append_nil, List.append_assoc]
  · intro a ha
    rcases List.mem_append.mp ha with ha | ha
    · obtain ⟨hway, hstage⟩ := tail_ofReceipt hfirst a ha
      exact ⟨hway.mono (by omega), hstage⟩
    · exact rungs_ofReceipt hrungs a ha

end Telling

/-! ### What the card shows -/

/-- The view shows the verdict of a run, if there is one, and no rung. -/
structure Shows (view : InvestigationView) (verdict : Option InvestigationReceipt) : Prop where
  terminal : view.terminal = verdict.isSome
  completed : verdict.isSome = true → view.status = .completed
  finding : view.finding = verdict.map InvestigationReceipt.finding
  classification : view.classification = verdict.map Adapters.classificationOf
  limitation : view.limitation = verdict.bind Adapters.limitationOf
  unrunged : ∀ stage ∈ view.stages, stage.rung = none

namespace Telling

open Adapters

variable {t : Telling} {sequence : Int} {view : InvestigationView}
  {told : List InvestigationActivity}

lemma classificationOf_ne_empty (receipt : InvestigationReceipt) :
    hasText (some (classificationOf receipt)) = true := by
  unfold classificationOf
  split_ifs <;> decide

lemma limitationOf_some (receipt : InvestigationReceipt) :
    orText (limitationOf receipt) none = limitationOf receipt := by
  unfold limitationOf
  split_ifs <;> decide

lemma shows_receipt {receipt : InvestigationReceipt} (hopen : t.Open sequence view)
    (hunrunged : ∀ stage ∈ view.stages, stage.rung = none) (hfinding : receipt.finding ≠ "")
    (hflow : receipt.flow ≠ "") (h : Built (t.receiptBatches sequence receipt) told) :
    Shows (viewAfter view told) (some receipt) := by
  obtain ⟨before, last, rfl, hbefore, hlast⟩ := built_receipt h
  have hstart : sequence ≤ t.receiptStart sequence + receipt.rungs.length := by
    unfold receiptStart
    split <;> omega
  have hway := (hopen.mono hstart).viewAfter (fun a ha => (hbefore a ha).1)
  have hstages : ∀ stage ∈ (viewAfter view before).stages,
      stage.rung = none ∨ stage.name = receipt.flow := by
    refine stages_viewAfter (fun stage hstage => .inl (hunrunged stage hstage)) ?_
    intro a ha name hname
    rcases (hbefore a ha).2 with hrung | hstage
    · exact .inl hrung
    · exact .inr (Option.some.inj (hname.symm.trans hstage))
  have hargs := ActivityArgs.activity_args hlast
  have hid : last.activityId = t.eventId ++ ":terminal" := congrArg ActivityArgs.activityId hargs
  have hnumber : last.sequence = t.receiptStart sequence + receipt.rungs.length + 1 :=
    congrArg ActivityArgs.sequence hargs
  have hkind : last.kind = .completed := congrArg ActivityArgs.kind hargs
  have hstage : last.stage = some receipt.flow := congrArg ActivityArgs.stage hargs
  have happlies : Applies (viewAfter view before) last := by
    refine ⟨hid ▸ hway.unended, ?_, hway.running⟩
    have := hway.last
    omega
  rw [viewAfter_append, viewAfter_cons, GuardedFold.step_of_applies happlies]
  change Shows (nextView (viewAfter view before) last) (some receipt)
  refine ⟨?_, fun _ => ?_, ?_, ?_, ?_, ?_⟩
  · exact decide_eq_true (by rw [hkind]; decide)
  · exact if_pos hkind
  · have hgiven : last.finding = some receipt.finding := congrArg ActivityArgs.finding hargs
    have htext : hasText (some receipt.finding) = true := decide_eq_true hfinding
    change orText last.finding _ = _
    rw [hgiven, orText, if_pos htext]
    rfl
  · have hgiven : last.classification = some (classificationOf receipt) :=
      congrArg ActivityArgs.classification hargs
    change orText last.classification _ = _
    rw [hgiven, orText, if_pos (classificationOf_ne_empty receipt)]
    rfl
  · have hgiven : last.limitation = limitationOf receipt := congrArg ActivityArgs.limitation hargs
    change orText last.limitation (viewAfter view before).limitation = _
    rw [hgiven, hway.unlimited, limitationOf_some]
    rfl
  · intro stage hmem
    rcases mem_stages_nextView hmem with ⟨name, -, rfl⟩ | ⟨hold, hother⟩
    · exact congrArg ActivityArgs.rung hargs
    · exact (hstages stage hold).resolve_right (hother receipt.flow hstage hflow)

theorem shows_ticket {ticket : List TicketSection} (hopen : t.Open sequence view)
    (hfinding : view.finding = none) (hunrunged : ∀ stage ∈ view.stages, stage.rung = none)
    (hanswers : ∀ answer ∈ ticket.filterMap TicketSection.answer?,
      answer.2.finding ≠ "" ∧ answer.2.flow ≠ "")
    (h : Built (t.ticketBatches sequence ticket) told) :
    Shows (viewAfter view told)
      ((ticket.filterMap TicketSection.answer?).head?.map Prod.snd) := by
  induction ticket generalizing sequence view told with
  | nil =>
    obtain rfl : told = [] := h
    exact ⟨hopen.running, fun hsome => absurd hsome Bool.false_ne_true, hfinding,
      hopen.unclassified, hopen.unlimited, hunrunged⟩
  | cons entry ticket ih =>
    obtain ⟨first, rest, hfirst, hrest, rfl⟩ := built_append.mp h
    rw [viewAfter_append]
    cases hanswer : entry.answer? with
    | none =>
      rw [List.filterMap_cons_none hanswer] at hanswers ⊢
      obtain ⟨hle, hcalls⟩ := section_ofCall hanswer hfirst
      refine ih ((hopen.mono hle).viewAfter (fun a ha => (hcalls a ha).1)) ?_ ?_ hanswers hrest
      · exact finding_viewAfter hfinding (fun a ha => (hcalls a ha).2.1)
      · exact stages_viewAfter hunrunged (fun a ha name _ => (hcalls a ha).2.2)
    | some answer =>
      rw [List.filterMap_cons_some hanswer] at hanswers ⊢
      obtain ⟨tool, receipt⟩ := answer
      cases entry with
      | answer tool' receipt' =>
        cases hanswer
        obtain ⟨htext, hflow⟩ := hanswers _ List.mem_cons_self
        have hshows := shows_receipt hopen hunrunged htext hflow hfirst
        have hclosed : viewAfter (viewAfter view first) rest = viewAfter view first :=
          GuardedFold.final_of_closed nextView (not_applies_of_terminal hshows.terminal) rest
        rw [hclosed]
        exact hshows
      | _ => cases hanswer

def Names (t : Telling) (b : Batch) : Prop :=
  ∀ activities, b.activities = .ok activities →
    ∀ a ∈ activities, a.incidentId = t.incidentId ∧ a.eventId = t.eventId

lemma names_one {activity : Except String InvestigationActivity}
    (h : ∀ a, activity = .ok a → t.OnTheWay high a) : t.Names (.one activity) := by
  intro activities hbuilt
  cases hactivity : activity with
  | error message =>
    rw [hactivity] at hbuilt
    cases hbuilt
  | ok a =>
    rw [hactivity] at hbuilt
    cases hbuilt
    have hway := h a hactivity
    exact List.forall_mem_singleton.mpr ⟨hway.incident, hway.event⟩

lemma names_section (sequence : Int) (entry : TicketSection) :
    ∀ b ∈ (t.sectionBatches sequence entry).1, t.Names b := by
  unfold sectionBatches
  split
  · exact List.forall_mem_singleton.mpr
      (names_one (fun a ha => (selected_ofCall le_rfl ha).1))
  · refine List.forall_mem_cons.mpr ⟨names_one (fun a ha => (selected_ofCall le_rfl ha).1), ?_⟩
    refine List.forall_mem_cons.mpr ⟨names_one (fun a ha => (preview_ofCall le_rfl ha).1), ?_⟩
    exact List.forall_mem_singleton.mpr (names_one (fun a ha => (result_ofCall le_rfl ha).1))
  · rename_i tool receipt
    intro b hb
    rcases List.mem_append.mp hb with htail | hlast
    · unfold tailBatches at htail
      split at htail
      · rename_i hasked
        rw [List.mem_singleton.mp htail]
        exact names_one (fun a ha => (tail_onTheWay hasked ha).1)
      · exact absurd htail List.not_mem_nil
    · rw [List.mem_singleton.mp hlast]
      intro activities hbuilt
      obtain ⟨rungs, hrungs, hbuilt⟩ := Validation.bind_eq_ok_iff.mp hbuilt
      obtain ⟨last, hlast, hbuilt⟩ := Validation.bind_eq_ok_iff.mp hbuilt
      cases hbuilt
      intro a ha
      rcases List.mem_append.mp ha with ha | ha
      · have hway := (rungs_ofReceipt hrungs a ha).1
        exact ⟨hway.incident, hway.event⟩
      · rw [List.mem_singleton.mp ha]
        have hargs := ActivityArgs.activity_args hlast
        exact ⟨congrArg ActivityArgs.incidentId hargs, congrArg ActivityArgs.eventId hargs⟩
  · exact fun b hb => absurd hb List.not_mem_nil

lemma names_ticket (sequence : Int) (ticket : List TicketSection) :
    ∀ b ∈ t.ticketBatches sequence ticket, t.Names b := by
  induction ticket generalizing sequence with
  | nil => exact fun b hb => absurd hb List.not_mem_nil
  | cons entry ticket ih =>
    intro b hb
    rcases List.mem_append.mp hb with hb | hb
    · exact names_section sequence entry b hb
    · exact ih _ b hb

def fresh (t : Telling) : InvestigationView := { incidentId := t.incidentId, eventId := t.eventId }

section start

variable {started : InvestigationActivity}
  (h : Adapters.startedActivity t.incidentId t.eventId t.flow 0 = .ok started)

include h

lemma started_onTheWay : t.OnTheWay 0 started :=
  onTheWay_of_args h rfl rfl le_rfl (started_ne_terminal _) rfl rfl rfl

lemma started_applies : Applies t.fresh started := by
  have hnumber : started.sequence = 0 :=
    congrArg ActivityArgs.sequence (ActivityArgs.activity_args h)
  refine ⟨Finset.notMem_empty _, ?_, rfl⟩
  rw [hnumber]
  exact neg_one_lt_zero

lemma viewBefore_started : viewBefore none started = .ok t.fresh := by
  have hway := started_onTheWay h
  obtain ⟨-, hincident, hevent⟩ := started.identified
  rw [hway.incident] at hincident
  rw [hway.event] at hevent
  rw [viewBefore, InvestigationView.new, hway.incident, hway.event, if_neg]
  · rfl
  · rintro (hblank | hblank)
    · exact hincident hblank
    · exact hevent hblank

lemma viewUpdate_started :
    viewUpdate none started = .ok (some (nextView t.fresh started)) := by
  have hway := started_onTheWay h
  have hconcerns : Concerns t.fresh started := ⟨hway.incident, hway.event⟩
  have hreduced := reduceView_eq hconcerns
  rw [GuardedFold.step_of_applies (started_applies h)] at hreduced
  rw [viewUpdate, viewBefore_started h]
  simp only [hreduced]
  rw [if_neg]
  exact fun hsame => (reduceView_eq_self_iff hreduced).mp hsame (started_applies h)

lemma open_started : t.Open 10 (nextView t.fresh started) ∧
    (nextView t.fresh started).finding = none ∧
      ∀ stage ∈ (nextView t.fresh started).stages, stage.rung = none := by
  have hargs := ActivityArgs.activity_args h
  have hfresh : t.Open 0 t.fresh :=
    ⟨rfl, rfl, neg_one_lt_zero.le, Finset.notMem_empty _, rfl, rfl, rfl⟩
  have hstep := hfresh.step (started_onTheWay h)
  rw [GuardedFold.step_of_applies (started_applies h)] at hstep
  refine ⟨hstep.mono (by decide), ?_, ?_⟩
  · change orText started.finding none = none
    rw [show started.finding = none from congrArg ActivityArgs.finding hargs]
    rfl
  · intro stage hstage
    rcases mem_stages_nextView hstage with ⟨name, -, rfl⟩ | ⟨hold, -⟩
    · exact congrArg ActivityArgs.rung hargs
    · exact absurd hold List.not_mem_nil

end start

end Telling

section verdict

variable {t : Telling} {digest : String → String} {handling : InvestigationActivity → Handling}
  {cs : List TelegramCardCoordinator} {s : EventStore}

theorem tell_shows {ticket : List TicketSection} (hcs : cs ≠ [])
    (hnew : s.telegramCardState t.eventId = none)
    (hanswers : ∀ answer ∈ ticket.filterMap TicketSection.answer?,
      answer.2.finding ≠ "" ∧ answer.2.flow ≠ "")
    (hok : (t.tell digest handling cs s ticket).1 = .ok ()) :
    ∃ view, (t.tell digest handling cs s ticket).2.StoresView t.eventId (some view) ∧
      view.incidentId = t.incidentId ∧
      Shows view ((ticket.filterMap TicketSection.answer?).head?.map Prod.snd) := by
  have hpair : t.tell digest handling cs s ticket =
      (.ok (), (t.tell digest handling cs s ticket).2) := Prod.ext hok rfl
  generalize (t.tell digest handling cs s ticket).2 = s' at hpair
  unfold Telling.tell Telling.batches at hpair
  rw [tellBatches] at hpair
  cases hstarted : Adapters.startedActivity t.incidentId t.eventId t.flow 0 with
  | error message =>
    rw [hstarted] at hpair
    cases hpair
  | ok started =>
    rw [hstarted] at hpair
    dsimp only [Except.map] at hpair
    split at hpair
    · cases hpair
    · rename_i s₁ hfirst
      rw [tellEach] at hfirst
      split at hfirst
      · cases hfirst
      · rename_i s₂ hone
        cases hfirst
        have hevent := (Telling.started_onTheWay hstarted).event
        have hnone : s.StoresView started.eventId none := by
          rw [hevent]
          exact hnew
        obtain ⟨change, hchange, hstored⟩ := tellOne_stored hcs hnone hone
        obtain rfl := Except.ok.inj ((Telling.viewUpdate_started hstarted).symm.trans hchange)
        rw [hevent] at hstored
        obtain ⟨hopen, hfinding, hunrunged⟩ := Telling.open_started hstarted
        have hnames : ∀ b ∈ t.ticketBatches 10 ticket, ∀ activities, b.activities = .ok activities →
            ∀ a ∈ activities, Concerns (nextView t.fresh started) a :=
          Telling.names_ticket 10 ticket
        obtain ⟨told, hbuilt, hlast⟩ := tellBatches_stored hcs hnames hstored hpair
        refine ⟨_, hlast, ?_, Telling.shows_ticket hopen hfinding hunrunged hanswers hbuilt⟩
        have hway := Telling.started_onTheWay hstarted
        have hsame := ((viewAfter_identity (nextView t.fresh started) told).2 started).mpr
          ⟨hway.incident, hway.event⟩
        exact hsame.1.symm.trans hway.incident

lemma head_answers {st : LoopState}
    (h : st.answers = st.finalReceipt.toList.map (fun receipt => ("investigate_lab", receipt))) :
    (st.ticket.filterMap TicketSection.answer?).head?.map Prod.snd = st.finalReceipt := by
  rw [← LoopState.answers, h]
  cases st.finalReceipt <;> rfl

lemma ne_empty_of_isBlank {text : String} (h : isBlank text = false) : text ≠ "" := by
  rintro rfl
  cases h

/-- The card of an event whose one run has told all of its ticket. It has ended exactly when the
loop of the run has read a receipt, shows the verdict of that receipt, and never a rung. -/
theorem card_shows_verdict (i : LoopInputs) (hcs : cs ≠ [])
    (hnew : s.telegramCardState t.eventId = none)
    (hok : (t.tell digest handling cs s i.dispatch.state.ticket).1 = .ok ()) :
    ∃ view, (t.tell digest handling cs s i.dispatch.state.ticket).2.StoresView t.eventId
        (some view) ∧
      view.incidentId = t.incidentId ∧ Shows view i.dispatch.state.finalReceipt := by
  have hbounded := LoopInputs.dispatch_bounded i
  rw [← head_answers hbounded.answers]
  refine tell_shows hcs hnew ?_ hok
  intro answer hanswer
  change answer ∈ i.dispatch.state.answers at hanswer
  rw [hbounded.answers] at hanswer
  obtain ⟨receipt, hreceipt, rfl⟩ := List.mem_map.mp hanswer
  obtain ⟨k, args, -, result, payload, -, -, -, hparse⟩ :=
    hbounded.read receipt (Option.mem_toList.mp hreceipt)
  have hvalid := parse_eq_ok_iff.mp hparse
  exact ⟨ne_empty_of_isBlank (requiredText_eq_ok_iff.mp hvalid.finding).2,
    ne_empty_of_isBlank (requiredText_eq_ok_iff.mp hvalid.flow).2⟩

end verdict

/-- What `investigate_lab` answers about an interface with nothing wrong on it. -/
def healthyPayload : Dict :=
  [("tool", .str "investigate"), ("device", .str "R1"), ("subject", .str "Gi0/0/0/0"),
    ("flow", .str "interface"), ("finding", .str "all_layers_healthy"),
    ("trustworthy", .bool true), ("rungs_examined", .int 1),
    ("rungs", .list [.dict [("position", .int 1), ("of", .int 1), ("rung", .str "interface"),
      ("device", .str "R1"), ("status", .str "healthy"), ("reason", .str "line is up"),
      ("evidence_keys", .list [])]]),
    ("causal_chain", .list []), ("operator_notes", .list []), ("off_path", .list [])]

lemma healthyDevice_named : isBlank "R1" = false := by decide

lemma healthySubject_named : some "Gi0/0/0/0" ≠ some "" := by decide

lemma healthyFlow_named : some "interface" ≠ some "" := by decide

def healthyRun : LoopInputs where
  context := ⟨"R1", some "Gi0/0/0/0", some "interface", healthyDevice_named,
    healthySubject_named, healthyFlow_named⟩
  bounds := {}
  manifest := .ok [⟨.str "investigate_lab", .str "Investigates.",
    .dict [("properties", .dict [("device_name", .dict []), ("subject", .dict []),
      ("flow", .dict [])])]⟩]
  start := 0
  clock := fun _ => 0
  caller := fun k => .turn (.dict (if k = 0 then
    [("tool_calls", .list [.dict [("id", .str "call-1"), ("name", .str "investigate_lab")]])]
    else [("text", .str "Nothing is wrong.")]))
  toolset := fun _ => .result ⟨"payload", false, .finite (1 / 4), none⟩
  loads := fun _ => some (.dict healthyPayload)
  repr := fun _ => ""
  str := fun _ => ""
  question := "Event on R1"

def healthyTelling (incidentId : String) : Telling :=
  ⟨"e", incidentId, some "interface", healthyRun.context, false, fun _ => "interface"⟩

def silentHandling (_ : InvestigationActivity) : Handling :=
  ⟨"event-agent", fun _ => ⟨1000000, 0⟩, fun _ => ⟨⟨1000000, 0⟩, none⟩,
    fun _ => ⟨⟨1000000, 0⟩, none⟩⟩

lemma healthyRun_told : ((healthyTelling "INC-1").tell startedDigest silentHandling [chat "1"]
    oneEvent healthyRun.dispatch.state.ticket).1 = .ok () := by
  decide +kernel

theorem card_shows_verdict_healthyRun : ∃ view,
    ((healthyTelling "INC-1").tell startedDigest silentHandling [chat "1"] oneEvent
      healthyRun.dispatch.state.ticket).2.StoresView (healthyTelling "INC-1").eventId (some view) ∧
    view.incidentId = (healthyTelling "INC-1").incidentId ∧
    Shows view healthyRun.dispatch.state.finalReceipt :=
  card_shows_verdict healthyRun (List.cons_ne_nil _ _) (by decide) healthyRun_told

end NetTools
