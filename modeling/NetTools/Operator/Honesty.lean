import Mathlib.Computability.Primrec.List
import NetTools.Operator.Deliveries

/-!
# Callbacks take effect once

What every step of a call keeps: a retry is spent once a result for it is on its way, and the
results that the store keeps agree with the transitions performed. Only the first result of a
callback can break the agreement, when another call for the same id has readmitted the event.
-/

namespace NetTools

namespace EventStore

def Readmitted (s : EventStore) (eventId : String) : Prop :=
  ∃ row, s.get eventId = some row ∧ row.state = .admitted

/-- What calls of `handle` do to a store: they readmit events that failed, and keep results. -/
structure HandledTo (s s' : EventStore) : Prop where
  events : ∀ eventId, s'.get eventId = s.get eventId ∨
    (∃ row, s.get eventId = some row ∧ row.state = .retryableFailed) ∧ s'.Readmitted eventId
  results : ∀ callbackId row, s.operatorCallbacks.get? callbackId = some row →
    s'.operatorCallbacks.get? callbackId = some row

variable {s s' : EventStore} {eventId : String}

lemma HandledTo.refl (s : EventStore) : s.HandledTo s := ⟨fun _ => .inl rfl, fun _ _ h => h⟩

lemma HandledTo.readmitted (h : s.HandledTo s') (hs : s.Readmitted eventId) :
    s'.Readmitted eventId := by
  rcases h.events eventId with hsame | ⟨-, hnext⟩
  · unfold Readmitted
    rwa [hsame]
  · exact hnext

lemma leaseOwner_of_fence {row : EventRecord} {now : Datetime}
    (h : validateLeaseFence row none none now = .ok ()) : row.leaseOwner = none := by
  unfold validateLeaseFence at h
  cases howner : row.leaseOwner with
  | none => rfl
  | some owner =>
    rw [howner] at h
    dsimp only at h
    split at h
    · cases h
    · simp at h

def keeping (s : EventStore) (row : OperatorCallbackResult) : EventStore :=
  { s with operatorCallbacks := s.operatorCallbacks.insert row }

lemma handledTo_of_transition {reason : Option String} {now : Datetime} {updated : EventRecord}
    (h : s.transition eventId .admitted reason none none none now = .ok (updated, s'))
    (hstate : ∃ row, s.get eventId = some row ∧
      (row.state = .retryableFailed ∨ row.state = .admitted)) :
    (∃ row, s.get eventId = some row ∧ row.state = .retryableFailed ∧ row.leaseOwner = none) ∧
      s'.Readmitted eventId ∧ (∀ other, other ≠ eventId → s'.get other = s.get other) ∧
        s'.operatorCallbacks = s.operatorCallbacks := by
  obtain ⟨row, hrow, hallowed, hfence, -, rfl⟩ := transition_cases h
  obtain ⟨row', hrow', hstate⟩ := hstate
  rw [hrow] at hrow'
  cases hrow'
  have hfailed : row.state = .retryableFailed := by
    rcases hstate with hfailed | hadmitted
    · exact hfailed
    · rw [hadmitted] at hallowed
      exact absurd hallowed (by decide)
  exact ⟨⟨row, hrow, hfailed, leaseOwner_of_fence hfence⟩, ⟨_, get_writeEvent_self hrow, rfl⟩,
    fun other hother => get_writeEvent_of_ne hother, rfl⟩

end EventStore

namespace OperatorWorkflow

def Spent (policies : List (Int × OperatorPolicy)) (s : EventStore) (callback : Callback) : Prop :=
  permits policies callback = true → callback.action = "retry" →
    ∀ row, s.get callback.eventId = some row →
      row.state ≠ .retryableFailed ∨ row.leaseOwner ≠ none

def Performed (readmissions : List (Nat × Callback)) (k : Nat) : Prop :=
  ∃ r ∈ readmissions, r.1 = k

structure Settled (policies : List (Int × OperatorPolicy)) (s : EventStore)
    (readmissions : List (Nat × Callback)) (k : Nat) (callback : Callback) (outcome : String) :
    Prop where
  spent : Spent policies s callback
  refused : permits policies callback = false → outcome = "refused"
  accepted : callback.action = "retry" ∧ outcome = "accepted" ↔ Performed readmissions k

def PhaseSound (policies : List (Int × OperatorPolicy)) (s : EventStore)
    (readmissions : List (Nat × Callback)) (k : Nat) (callback : Callback) : HandlePhase → Prop
  | .called => ¬Performed readmissions k
  | .permitted => permits policies callback = true ∧ ¬Performed readmissions k
  | .retrying event =>
    permits policies callback = true ∧ callback.action = "retry" ∧
      event.eventId = callback.eventId ∧ ¬Performed readmissions k ∧
        ∃ row, s.get callback.eventId = some row ∧
          (row.state = .retryableFailed ∨ row.state = .admitted)
  | .decided outcome _ => Settled policies s readmissions k callback outcome
  | .audited line => ∃ clock policy outcome detail,
      line = auditRecord clock callback policy outcome detail ∧
        Settled policies s readmissions k callback outcome
  | .returned result => ∃ row, s.operatorCallbacks.get? callback.callbackId = some row ∧
      row.result = result
  | .raised => True

section Frame

variable {policies : List (Int × OperatorPolicy)} {s s' : EventStore}
  {readmissions readmissions' : List (Nat × Callback)} {k : Nat} {callback : Callback}
  {outcome : String} {phase : HandlePhase}

lemma Spent.of_handledTo (h : Spent policies s callback) (hs : s.HandledTo s') :
    Spent policies s' callback := by
  intro hpermits hretry row hrow
  rcases hs.events callback.eventId with hsame | ⟨-, row', hrow', hstate⟩
  · rw [hsame] at hrow
    exact h hpermits hretry row hrow
  · rw [hrow'] at hrow
    cases hrow
    left
    rw [hstate]
    nofun

lemma Settled.of_handledTo (h : Settled policies s readmissions k callback outcome)
    (hs : s.HandledTo s') (hk : Performed readmissions' k ↔ Performed readmissions k) :
    Settled policies s' readmissions' k callback outcome :=
  ⟨h.spent.of_handledTo hs, h.refused, h.accepted.trans hk.symm⟩

lemma PhaseSound.of_handledTo (h : PhaseSound policies s readmissions k callback phase)
    (hs : s.HandledTo s') (hk : Performed readmissions' k ↔ Performed readmissions k) :
    PhaseSound policies s' readmissions' k callback phase := by
  cases phase with
  | called => exact fun hnext => h (hk.mp hnext)
  | permitted => exact ⟨h.1, fun hnext => h.2 (hk.mp hnext)⟩
  | retrying event =>
    obtain ⟨hpermits, hretry, hevent, hnot, row, hrow, hstate⟩ := h
    refine ⟨hpermits, hretry, hevent, fun hnext => hnot (hk.mp hnext), ?_⟩
    rcases hs.events callback.eventId with hsame | ⟨-, row', hrow', hstate'⟩
    · exact ⟨row, hsame.trans hrow, hstate⟩
    · exact ⟨row', hrow', .inr hstate'⟩
  | decided outcome detail => exact Settled.of_handledTo h hs hk
  | audited line =>
    obtain ⟨clock, policy, outcome, detail, hline, hsettled⟩ := h
    exact ⟨clock, policy, outcome, detail, hline, hsettled.of_handledTo hs hk⟩
  | returned result =>
    obtain ⟨row, hrow, hresult⟩ := h
    exact ⟨row, hs.results _ _ hrow, hresult⟩
  | raised => trivial

end Frame

end OperatorWorkflow

namespace OperatorWorld

open OperatorWorkflow

/-- A stored result comes from a call for its id and agrees with the transitions performed. -/
def StoredSound (policies : List (Int × OperatorPolicy)) (callbacks : List Callback)
    (s : EventStore) (readmissions : List (Nat × Callback)) (callbackId : String)
    (row : OperatorCallbackResult) : Prop :=
  (∃ c ∈ callbacks, c.callbackId = callbackId ∧ Spent policies s c ∧
    (permits policies c = false → row.result.get? "outcome" = some (.str "refused"))) ∧
  (AcceptedRetry row.result ↔ ∃ r ∈ readmissions, r.2.callbackId = callbackId)

structure HandlingInv (policies : List (Int × OperatorPolicy)) (store : EventStore)
    (w : OperatorWorld) : Prop where
  agree : ∀ c ∈ w.callbacks, ∀ d ∈ w.callbacks, c.callbackId = d.callbackId → c = d
  sound : ∀ k c, w.calls[k]? = some c →
    PhaseSound policies w.state.store w.readmissions k c.callback c.phase
  kept : ∀ callbackId row, w.stored callbackId = some row →
    StoredSound policies w.callbacks w.state.store w.readmissions callbackId row
  readmitted : ∀ r ∈ w.readmissions, w.callbacks[r.1]? = some r.2 ∧ r.2.action = "retry" ∧
    w.state.store.Readmitted r.2.eventId
  once : (w.readmissions.map (fun r => r.2.callbackId)).Nodup
  unchanged : ∀ eventId, w.state.store.get eventId ≠ store.get eventId →
    ∃ r ∈ w.readmissions, r.2.eventId = eventId

variable {policies : List (Int × OperatorPolicy)} {store : EventStore} {w : OperatorWorld}
  {k : Nat} {c : HandleCall} {phase : HandlePhase} {state : OperatorState}
  {readmissions : List (Nat × Callback)}

lemma callbacks_advanced (hc : w.calls[k]? = some c) :
    (w.advanced k c phase state readmissions).callbacks = w.callbacks := by
  apply List.ext_getElem?
  intro j
  simp only [callbacks, advanced, List.getElem?_map, List.getElem?_set]
  by_cases hj : k = j
  · subst hj
    rw [if_pos rfl, if_pos (List.getElem?_eq_some_iff.mp hc).choose, hc]
    rfl
  · rw [if_neg hj]

lemma mem_callbacks (hc : w.calls[k]? = some c) : c.callback ∈ w.callbacks :=
  List.mem_map_of_mem (List.mem_of_getElem? hc)

lemma HandlingInv.frame (h : HandlingInv policies store w) (hc : w.calls[k]? = some c)
    (hstate : w.state.store.HandledTo state.store)
    (hothers : ∀ j, j ≠ k → (Performed readmissions j ↔ Performed w.readmissions j))
    (hphase : PhaseSound policies state.store readmissions k c.callback phase) :
    ∀ j d, (w.advanced k c phase state readmissions).calls[j]? = some d →
      PhaseSound policies state.store readmissions j d.callback d.phase := by
  intro j d hd
  simp only [advanced, List.getElem?_set] at hd
  by_cases hj : k = j
  · subst hj
    rw [if_pos rfl, if_pos (List.getElem?_eq_some_iff.mp hc).choose] at hd
    cases hd
    exact hphase
  · rw [if_neg hj] at hd
    exact (h.sound j d hd).of_handledTo hstate (hothers j (Ne.symm hj))

lemma HandlingInv.quiet (h : HandlingInv policies store w) (hc : w.calls[k]? = some c)
    (hstate : state.store = w.state.store)
    (hphase : PhaseSound policies w.state.store w.readmissions k c.callback phase) :
    HandlingInv policies store (w.advanced k c phase state w.readmissions) := by
  have hframe := @frame _ _ _ _ _ phase state w.readmissions h hc
    (by rw [hstate]; exact .refl _) (fun _ _ => Iff.rfl) (by rw [hstate]; exact hphase)
  refine ⟨?_, hframe, ?_, ?_, h.once, ?_⟩
  · rw [callbacks_advanced hc]
    exact h.agree
  · intro callbackId row hrow
    rw [callbacks_advanced hc]
    simp only [stored, advanced, hstate] at hrow ⊢
    exact h.kept callbackId row hrow
  · rw [callbacks_advanced hc]
    simp only [advanced, hstate]
    exact h.readmitted
  · simp only [advanced, hstate]
    exact h.unchanged

lemma HandlingInv.readmit (h : HandlingInv policies store w) (hc : w.calls[k]? = some c)
    {event : EventRecord} (hevent : c.phase = .retrying event) {reason : Option String}
    {now : Datetime} {updated : EventRecord} {s' : EventStore} (detail : String)
    (hok : w.state.store.transition event.eventId .admitted reason none none none now =
      .ok (updated, s')) :
    HandlingInv policies store (w.advanced k c (.decided "accepted" detail)
      { w.state with store := s' } ((k, c.callback) :: w.readmissions)) := by
  have hsound := h.sound k c hc
  rw [hevent] at hsound
  obtain ⟨hpermits, hretry, hid, hnot, hrow⟩ := hsound
  rw [hid] at hok
  obtain ⟨⟨row, hrow, hfailed, hfree⟩, hnext, hothers, hresults⟩ :=
    EventStore.handledTo_of_transition hok hrow
  have hmem := mem_callbacks hc
  have hhandled : w.state.store.HandledTo s' := by
    refine ⟨?_, ?_⟩
    · intro eventId
      by_cases he : eventId = c.callback.eventId
      · subst he
        exact .inr ⟨⟨row, hrow, hfailed⟩, hnext⟩
      · exact .inl (hothers eventId he)
    · intro callbackId stored hstored
      rwa [hresults]
  -- a call that could still readmit the event has no result and no transition for its id
  have hunspent : ¬Spent policies w.state.store c.callback := by
    intro hspent
    rcases hspent hpermits hretry row hrow with hstate | howner
    · exact hstate hfailed
    · exact howner hfree
  have hfresh : ∀ r ∈ w.readmissions, r.2.callbackId ≠ c.callback.callbackId := by
    intro r hr hsame
    obtain ⟨hcall, -, row', hrow', hadmitted⟩ := h.readmitted r hr
    have heq := h.agree _ (List.mem_of_getElem? hcall) _ hmem hsame
    rw [heq, hrow] at hrow'
    cases hrow'
    rw [hfailed] at hadmitted
    cases hadmitted
  have hspent : Spent policies s' c.callback := by
    intro _ _ row' hrow'
    obtain ⟨row'', hrow'', hstate⟩ := hnext
    rw [hrow'] at hrow''
    cases hrow''
    left
    rw [hstate]
    nofun
  have hself : Performed ((k, c.callback) :: w.readmissions) k :=
    ⟨(k, c.callback), List.mem_cons_self, rfl⟩
  have hframe := @frame _ _ _ _ _ (.decided "accepted" detail) { w.state with store := s' }
    ((k, c.callback) :: w.readmissions) h hc hhandled
    (fun j hj => by simp [Performed, hj.symm])
    ⟨hspent, fun hrefused => absurd (hpermits.symm.trans hrefused) nofun,
      fun _ => hself, fun _ => ⟨hretry, rfl⟩⟩
  refine ⟨?_, hframe, ?_, ?_, ?_, ?_⟩
  · rw [callbacks_advanced hc]
    exact h.agree
  · intro callbackId stored hstored
    rw [callbacks_advanced hc]
    simp only [OperatorWorld.stored, advanced, hresults] at hstored
    obtain ⟨⟨d, hd, hdid, hdspent, hdrefused⟩, haccepted⟩ := h.kept callbackId stored hstored
    refine ⟨⟨d, hd, hdid, hdspent.of_handledTo hhandled, hdrefused⟩, haccepted.trans ?_⟩
    have hne : c.callback.callbackId ≠ callbackId := by
      intro hsame
      have heq := h.agree d hd _ hmem (hdid.trans hsame.symm)
      exact hunspent (heq ▸ hdspent)
    simp [advanced, hne]
  · rw [callbacks_advanced hc]
    intro r hr
    rcases List.mem_cons.mp hr with rfl | hr
    · refine ⟨?_, hretry, hnext⟩
      simp [callbacks, hc]
    · obtain ⟨hcall, haction, hevent⟩ := h.readmitted r hr
      exact ⟨hcall, haction, hhandled.readmitted hevent⟩
  · simp only [advanced, List.map_cons, List.nodup_cons, List.mem_map]
    refine ⟨?_, h.once⟩
    rintro ⟨r, hr, hsame⟩
    exact hfresh r hr hsame
  · intro eventId hchanged
    by_cases he : eventId = c.callback.eventId
    · exact ⟨(k, c.callback), List.mem_cons_self, he.symm⟩
    · have hold : w.state.store.get eventId ≠ store.get eventId := by
        rw [← hothers eventId he]
        exact hchanged
      obtain ⟨r, hr, hevent⟩ := h.unchanged eventId hold
      exact ⟨r, List.mem_cons_of_mem _ hr, hevent⟩

lemma HandlingInv.readmitted_callback (h : HandlingInv policies store w) {r : Nat × Callback}
    (hc : w.calls[r.1]? = some c) (hr : r ∈ w.readmissions) : c.callback = r.2 := by
  have hcall := (h.readmitted r hr).1
  rw [callbacks, List.getElem?_map, hc] at hcall
  exact Option.some.inj hcall

lemma acceptedRetry_auditRecord {clock : CallbackClock} {callback : Callback}
    {policy : Option OperatorPolicy} {outcome detail : String} :
    AcceptedRetry (auditRecord clock callback policy outcome detail) ↔
      callback.action = "retry" ∧ outcome = "accepted" := by
  simp [AcceptedRetry, auditRecord, Dict.get?, List.lookup]

lemma HandlingInv.record (h : HandlingInv policies store w) (hc : w.calls[k]? = some c)
    {line : Dict} (hline : c.phase = .audited line)
    (hnone : w.stored c.callback.callbackId = none) (row : OperatorCallbackResult)
    (hkey : row.callbackId = c.callback.callbackId) (hresult : row.result = line)
    (hown : ∀ r ∈ w.readmissions, r.2.callbackId = c.callback.callbackId → r.1 = k) :
    HandlingInv policies store (w.advanced k c (.returned line)
      { w.state with store := w.state.store.keeping row } w.readmissions) := by
  have hsound := h.sound k c hc
  rw [hline] at hsound
  obtain ⟨clock, policy, outcome, detail, hwritten, hsettled⟩ := hsound
  unfold stored at hnone
  rw [← hkey] at hnone
  have hself := KeyedTable.get?_insert_self hnone
  have hhandled : w.state.store.HandledTo (w.state.store.keeping row) := by
    refine ⟨fun _ => .inl rfl, ?_⟩
    intro callbackId kept hkept
    have hne : row.callbackId ≠ callbackId := by
      rintro rfl
      rw [hnone] at hkept
      cases hkept
    exact (KeyedTable.get?_insert_of_ne hne).trans hkept
  have hframe := @frame _ _ _ _ _ (.returned line)
    { w.state with store := w.state.store.keeping row } w.readmissions h hc hhandled
    (fun _ _ => Iff.rfl) ⟨row, hkey ▸ hself, hresult⟩
  refine ⟨?_, hframe, ?_, ?_, h.once, h.unchanged⟩
  · rw [callbacks_advanced hc]
    exact h.agree
  · intro callbackId kept hkept
    rw [callbacks_advanced hc]
    by_cases hid : row.callbackId = callbackId
    · subst hid
      have heq : row = kept := Option.some.inj (hself.symm.trans hkept)
      subst heq
      unfold StoredSound
      rw [hresult]
      refine ⟨⟨c.callback, mem_callbacks hc, hkey.symm, hsettled.spent, ?_⟩, ?_⟩
      · intro hrefused
        rw [hwritten, hsettled.refused hrefused]
        rfl
      · rw [hwritten, acceptedRetry_auditRecord, hsettled.accepted, hkey]
        constructor
        · rintro ⟨r, hr, rfl⟩
          exact ⟨r, hr, by rw [h.readmitted_callback hc hr]⟩
        · rintro ⟨r, hr, hid⟩
          exact ⟨r, hr, hown r hr hid⟩
    · have hold : w.stored callbackId = some kept := by
        rw [← hkept]
        exact (KeyedTable.get?_insert_of_ne hid).symm
      obtain ⟨⟨d, hd, hdid, hdspent, hdrefused⟩, haccepted⟩ := h.kept callbackId kept hold
      exact ⟨⟨d, hd, hdid, hdspent.of_handledTo hhandled, hdrefused⟩, haccepted⟩
  · rw [callbacks_advanced hc]
    exact h.readmitted

lemma spent_of_get_none {s : EventStore} {callback : Callback}
    (h : s.get callback.eventId = none) : Spent policies s callback := by
  intro _ _ row hrow
  rw [h] at hrow
  cases hrow

lemma spent_of_transition_error {s : EventStore} {callback : Callback} {reason : Option String}
    {now : Datetime} {e : StoreError}
    (h : s.transition callback.eventId .admitted reason none none none now = .error e) :
    Spent policies s callback := by
  intro _ _ row hrow
  rw [← not_and_or]
  rintro ⟨hfailed, hfree⟩
  have hallowed : EventState.admitted ∈ row.state.allowedTransitions := by
    rw [hfailed]
    decide
  have hfence : EventStore.validateLeaseFence row none none now = .ok () := by
    unfold EventStore.validateLeaseFence
    rw [hfree]
  rw [EventStore.transition_eq_ok hrow hallowed hfence] at h
  cases h

lemma HandlingInv.call (h : HandlingInv policies store w) {callback : Callback}
    (hsame : ∀ c ∈ w.callbacks, c.callbackId = callback.callbackId → c = callback) :
    HandlingInv policies store { w with calls := w.calls ++ [{ callback }] } := by
  have hcallbacks : ({ w with calls := w.calls ++ [{ callback }] } : OperatorWorld).callbacks =
      w.callbacks ++ [callback] := List.map_append
  have hmem : ∀ c, c ∈ w.callbacks ++ [callback] ↔ c ∈ w.callbacks ∨ c = callback := by
    intro c
    rw [List.mem_append, List.mem_singleton]
  refine ⟨?_, ?_, ?_, ?_, h.once, h.unchanged⟩
  · rw [hcallbacks]
    intro c hc d hd hid
    rcases (hmem c).mp hc with hold | rfl
    · rcases (hmem d).mp hd with hold' | rfl
      · exact h.agree c hold d hold' hid
      · exact hsame c hold hid
    · rcases (hmem d).mp hd with hold' | rfl
      · exact (hsame d hold' hid.symm).symm
      · rfl
  · intro j d hd
    simp only [List.getElem?_append] at hd
    split at hd
    · exact h.sound j d hd
    · rename_i hlength
      have hlast : j - w.calls.length = 0 := by
        by_contra hne
        rw [List.getElem?_eq_none (by simp; omega)] at hd
        cases hd
      rw [hlast] at hd
      cases hd
      rintro ⟨r, hr, rfl⟩
      have hcall := (List.getElem?_eq_some_iff.mp (h.readmitted r hr).1).choose
      rw [callbacks, List.length_map] at hcall
      exact hlength hcall
  · rw [hcallbacks]
    intro callbackId row hrow
    obtain ⟨⟨d, hd, hrest⟩, haccepted⟩ := h.kept callbackId row hrow
    exact ⟨⟨d, (hmem d).mpr (.inl hd), hrest⟩, haccepted⟩
  · rw [hcallbacks]
    intro r hr
    obtain ⟨hcall, hrest⟩ := h.readmitted r hr
    exact ⟨List.getElem?_append_left (List.getElem?_eq_some_iff.mp hcall).choose ▸ hcall, hrest⟩

section Advance

variable {clock : CallbackClock}

lemma settled_of_not_performed {s : EventStore} {callback : Callback} {outcome : String}
    (hspent : Spent policies s callback)
    (hrefused : permits policies callback = false → outcome = "refused")
    (hnot : ¬Performed readmissions k)
    (haccepted : ¬(callback.action = "retry" ∧ outcome = "accepted")) :
    Settled policies s readmissions k callback outcome :=
  ⟨hspent, hrefused, fun h => absurd h haccepted, fun h => absurd h hnot⟩

lemma not_accepted_refused {action : String} :
    ¬(action = "retry" ∧ "refused" = "accepted") := fun h => absurd h.2 (by decide)

lemma HandlingInv.advance_called (h : HandlingInv policies store w) (hc : w.calls[k]? = some c)
    (hphase : c.phase = .called) :
    HandlingInv policies store (w.step policies (.advance k clock)) := by
  have hsound := h.sound k c hc
  rw [hphase] at hsound
  simp only [OperatorWorld.step, hc, hphase, advance]
  cases hprior : w.state.store.operatorCallbacks.get? c.callback.callbackId with
  | some prior => exact h.quiet hc rfl ⟨prior, hprior, rfl⟩
  | none =>
    dsimp only
    by_cases hpermits : permits policies c.callback = true
    · rw [if_pos hpermits]
      exact h.quiet hc rfl ⟨hpermits, hsound⟩
    · rw [if_neg hpermits]
      apply h.quiet hc rfl
      exact settled_of_not_performed (fun hyes => absurd hyes hpermits) (fun _ => rfl) hsound
        not_accepted_refused

lemma HandlingInv.advance_permitted (h : HandlingInv policies store w)
    (hc : w.calls[k]? = some c) (hphase : c.phase = .permitted) :
    HandlingInv policies store (w.step policies (.advance k clock)) := by
  have hsound := h.sound k c hc
  rw [hphase] at hsound
  obtain ⟨hpermits, hnot⟩ := hsound
  simp only [OperatorWorld.step, hc, hphase, advance]
  cases hevent : w.state.store.get c.callback.eventId with
  | none =>
    apply h.quiet hc rfl
    exact settled_of_not_performed (spent_of_get_none hevent) (fun _ => rfl) hnot
      not_accepted_refused
  | some event =>
    dsimp only
    by_cases hretry : c.callback.action = "retry"
    · rw [if_pos hretry]
      by_cases hstate : event.state ≠ .retryableFailed
      · rw [if_pos hstate]
        apply h.quiet hc rfl
        refine settled_of_not_performed ?_ (fun _ => rfl) hnot not_accepted_refused
        intro _ _ row hrow
        rw [hevent] at hrow
        cases hrow
        exact .inl hstate
      · rw [if_neg hstate]
        exact h.quiet hc rfl ⟨hpermits, hretry, EventStore.key_of_get hevent, hnot, event,
          hevent, .inl (not_not.mp hstate)⟩
    · rw [if_neg hretry]
      have hsettled : ∀ outcome, Settled policies w.state.store w.readmissions k c.callback
          outcome := by
        intro outcome
        exact settled_of_not_performed (fun _ hyes => absurd hyes hretry)
          (fun hno => absurd (hno.symm.trans hpermits) Bool.false_ne_true) hnot (fun h => hretry h.1)
      apply h.quiet hc rfl
      unfold OperatorWorkflow.answer
      split_ifs <;> exact hsettled _

lemma HandlingInv.advance_retrying (h : HandlingInv policies store w)
    (hc : w.calls[k]? = some c) {event : EventRecord} (hphase : c.phase = .retrying event) :
    HandlingInv policies store (w.step policies (.advance k clock)) := by
  have hsound := h.sound k c hc
  rw [hphase] at hsound
  obtain ⟨hpermits, hretry, hid, hnot, -⟩ := hsound
  have htransition : (∃ e, w.state.store.transition event.eventId .admitted
        (some "operator retry requested") none none none clock.transitionAt = .error e) ∨
      ∃ moved, w.state.store.transition event.eventId .admitted
        (some "operator retry requested") none none none clock.transitionAt = .ok moved := by
    cases w.state.store.transition event.eventId .admitted (some "operator retry requested")
      none none none clock.transitionAt with
    | error e => exact .inl ⟨e, rfl⟩
    | ok moved => exact .inr ⟨moved, rfl⟩
  rcases htransition with ⟨e, htransition⟩ | ⟨moved, htransition⟩
  · simp only [OperatorWorld.step, hc, hphase, advance, readmits, htransition]
    rw [hid] at htransition
    apply h.quiet hc rfl
    exact settled_of_not_performed (spent_of_transition_error htransition) (fun _ => rfl) hnot
      not_accepted_refused
  · simp only [OperatorWorld.step, hc, hphase, advance, readmits, htransition]
    exact h.readmit hc hphase _ htransition

lemma HandlingInv.advance_audited (h : HandlingInv policies store w) (hc : w.calls[k]? = some c)
    {line : Dict} (hphase : c.phase = .audited line)
    (hown : c.callback.callbackId ≠ "" → w.stored c.callback.callbackId = none →
      ∀ r ∈ w.readmissions, r.2.callbackId = c.callback.callbackId → r.1 = k) :
    HandlingInv policies store (w.step policies (.advance k clock)) := by
  simp only [OperatorWorld.step, hc, hphase, advance]
  unfold EventStore.recordOperatorCallback
  by_cases hempty : c.callback.callbackId = ""
  · rw [if_pos hempty]
    exact h.quiet hc rfl trivial
  · rw [if_neg hempty]
    cases hstored : w.state.store.operatorCallbacks.get? c.callback.callbackId with
    | some row => exact h.quiet hc rfl ⟨row, hstored, rfl⟩
    | none => exact h.record hc hphase hstored _ rfl rfl (hown hempty hstored)

end Advance

theorem HandlingInv.step (h : HandlingInv policies store w) (i : OperatorStep)
    (hsame : w.SameCallback i) (hown : w.RecordsOwn i) :
    HandlingInv policies store (w.step policies i) := by
  cases i with
  | call callback => exact h.call hsame
  | advance k clock =>
    cases hc : w.calls[k]? with
    | none =>
      simp only [OperatorWorld.step, hc]
      exact h
    | some c =>
      obtain ⟨callback, phase⟩ := c
      have hsound := h.sound k _ hc
      cases phase with
      | called => exact h.advance_called hc rfl
      | permitted => exact h.advance_permitted hc rfl
      | retrying event => exact h.advance_retrying hc rfl
      | decided outcome detail =>
        simp only [OperatorWorld.step, hc, advance]
        exact h.quiet hc rfl ⟨clock, _, outcome, detail, rfl, hsound⟩
      | audited line =>
        simp only [RecordsOwn, hc] at hown
        exact h.advance_audited hc rfl hown
      | returned result =>
        simp only [OperatorWorld.step, hc, advance]
        exact h.quiet hc rfl hsound
      | raised =>
        simp only [OperatorWorld.step, hc, advance]
        exact h.quiet hc rfl trivial
  | fail k =>
    simp only [OperatorWorld.step]
    cases hc : w.calls[k]? with
    | none => exact h
    | some c =>
      have hsound := h.sound k c hc
      apply h.quiet hc rfl
      cases hphase : c.phase <;> rw [hphase] at hsound <;> first | exact hsound | trivial

lemma HandlingInv.init {state : OperatorState}
    (hfresh : state.store.operatorCallbacks = .empty) :
    HandlingInv policies state.store { state } := by
  refine ⟨nofun, ?_, ?_, nofun, List.nodup_nil, fun _ hchanged => (hchanged rfl).elim⟩
  · intro k c hc
    rw [List.getElem?_nil] at hc
    cases hc
  · intro callbackId row hrow
    rw [stored, hfresh, KeyedTable.get?_empty] at hrow
    cases hrow

theorem HandlingInv.honest (h : HandlingInv policies store w) :
    CallbacksHonest policies store w := by
  have hreturned : ∀ c ∈ w.calls, ∀ result, c.phase = .returned result →
      ∃ row, w.stored c.callback.callbackId = some row ∧ row.result = result := by
    intro c hc result hphase
    obtain ⟨k, hk⟩ := List.mem_iff_getElem?.mp hc
    have hsound := h.sound k c hk
    rw [hphase] at hsound
    exact hsound
  refine ⟨h.once, ?_, fun callbackId row hrow => (h.kept callbackId row hrow).2, ?_, ?_⟩
  · intro c hc d hd hid result result' hresult hresult'
    obtain ⟨row, hrow, rfl⟩ := hreturned c hc result hresult
    obtain ⟨row', hrow', rfl⟩ := hreturned d hd result' hresult'
    rw [hid, hrow'] at hrow
    cases hrow
    rfl
  · intro c hc hrefused result hresult
    obtain ⟨row, hrow, rfl⟩ := hreturned c hc result hresult
    obtain ⟨⟨d, hd, hid, -, hkept⟩, -⟩ := h.kept _ row hrow
    have heq := h.agree d hd c.callback (List.mem_map_of_mem hc) hid
    subst heq
    exact hkept hrefused
  · intro eventId hchanged
    obtain ⟨r, hr, hevent⟩ := h.unchanged eventId hchanged
    exact ⟨r, hr, hevent, (h.readmitted r hr).2.1,
      fun row hrow => (h.kept _ row hrow).2.mpr ⟨r, hr, rfl⟩⟩

theorem HandlingInv.recordsOwn_of_honest (h : HandlingInv policies store w) {i : OperatorStep}
    (hnext : CallbacksHonest policies store (w.step policies i)) : w.RecordsOwn i := by
  cases i with
  | call callback => trivial
  | fail k => trivial
  | advance k clock =>
    unfold RecordsOwn
    dsimp only
    split
    · rename_i callback line hc
      intro hempty hnone r hr hid
      obtain ⟨written, policy, outcome, detail, hline, hsettled⟩ := h.sound k _ hc
      dsimp only at hline hsettled
      subst hline
      have hkept : (w.step policies (.advance k clock)).stored callback.callbackId =
          some ⟨callback.callbackId, callback.eventId,
            auditRecord written callback policy outcome detail, clock.recordedAt⟩ := by
        unfold stored at hnone
        simp only [OperatorWorld.step, hc, advance]
        rw [EventStore.recordOperatorCallback, if_neg hempty, hnone]
        exact KeyedTable.get?_insert_self hnone
      have hreadmissions : (w.step policies (.advance k clock)).readmissions = w.readmissions := by
        simp only [OperatorWorld.step, hc]
        rfl
      have haccepted := hnext.accepted _ _ hkept
      rw [hreadmissions, acceptedRetry_auditRecord, hsettled.accepted] at haccepted
      obtain ⟨own, hownmem, rfl⟩ := haccepted.mpr ⟨r, hr, hid⟩
      have hcallback := h.readmitted_callback hc hownmem
      have hsame : r.2.callbackId = own.2.callbackId := by
        rw [hid, ← hcallback]
      rw [List.inj_on_of_nodup_map h.once hr hownmem hsame]
    · trivial

end OperatorWorld

/-- After every step the callbacks are honest exactly when no step stores the first result of a
callback whose event another delivery has readmitted. -/
theorem callbacksHonest_iff (policies : List (Int × OperatorPolicy)) (state : OperatorState)
    (hfresh : state.store.operatorCallbacks = .empty) (steps : List OperatorStep)
    (hsame : Runs.AllSteps (OperatorWorld.step policies) OperatorWorld.SameCallback { state }
      steps) :
    Runs.AllSteps (OperatorWorld.step policies)
        (fun w i => CallbacksHonest policies state.store (w.step policies i)) { state } steps ↔
      Runs.AllSteps (OperatorWorld.step policies) OperatorWorld.RecordsOwn { state } steps := by
  have hinit : OperatorWorld.HandlingInv policies state.store { state } := .init hfresh
  constructor
  · intro hhonest
    refine Runs.allSteps_of_guard ?_ ?_ hinit (Runs.allSteps_and.mpr ⟨hsame, hhonest⟩)
    · intro w i h hi
      exact h.step i hi.1 (h.recordsOwn_of_honest hi.2)
    · intro w i h hi
      exact h.recordsOwn_of_honest hi.2
  · intro hown
    refine Runs.allSteps_of_guard ?_ ?_ hinit (Runs.allSteps_and.mpr ⟨hsame, hown⟩)
    · intro w i h hi
      exact h.step i hi.1 hi.2
    · intro w i h hi
      exact (h.step i hi.1 hi.2).honest

def retryPolicies : List (Int × OperatorPolicy) := [(7, ⟨7, "incident_manager", true⟩)]

def failedState : OperatorState := ⟨{ events := ⟨[failedEvent], failedEvent_nodup⟩ }, []⟩

def readings : CallbackClock := ⟨⟨9, 0⟩, ⟨9, 0⟩, ⟨9, 0⟩⟩

/-- The first delivery has readmitted the event when the second one finds it admitted and
stores its refusal. -/
def overlappingSteps : List OperatorStep :=
  [.call retryCallback, .advance 0 readings, .advance 0 readings, .advance 0 readings,
    .call retryCallback, .advance 1 readings, .advance 1 readings, .advance 1 readings,
    .advance 1 readings]

theorem not_callbacksHonest_overlapping :
    ¬CallbacksHonest retryPolicies failedState.store
      (Runs.final (OperatorWorld.step retryPolicies) { state := failedState }
        overlappingSteps) := by
  intro h
  set w := Runs.final (OperatorWorld.step retryPolicies) { state := failedState }
    overlappingSteps with hw
  have hstored : w.stored "cb-1" = some ⟨"cb-1", "ab",
      OperatorWorkflow.auditRecord readings retryCallback
        (some ⟨7, "incident_manager", true⟩) "refused" "event is not retryable",
      readings.recordedAt⟩ := by
    rfl
  have hreadmissions : w.readmissions = [(0, retryCallback)] := by
    rfl
  have hmoved : ∃ r ∈ w.readmissions, r.2.callbackId = "cb-1" := by
    rw [hreadmissions]
    exact ⟨_, List.mem_singleton_self _, rfl⟩
  have haccepted := (h.accepted "cb-1" _ hstored).mpr hmoved
  rw [OperatorWorld.acceptedRetry_auditRecord] at haccepted
  exact absurd haccepted.2 (by decide)

def repeatedSteps : List OperatorStep :=
  [.call retryCallback, .advance 0 readings, .advance 0 readings, .advance 0 readings,
    .advance 0 readings, .advance 0 readings, .call retryCallback, .advance 1 readings]

theorem callbacksHonest_repeated :
    Runs.AllSteps (OperatorWorld.step retryPolicies)
      (fun w i => CallbacksHonest retryPolicies failedState.store (w.step retryPolicies i))
      { state := failedState } repeatedSteps := by
  apply (callbacksHonest_iff retryPolicies failedState rfl repeatedSteps (by decide)).mpr
  refine ⟨trivial, trivial, trivial, trivial, trivial, ?_, trivial, trivial, trivial⟩
  intro _ _ r hr _
  rw [List.mem_singleton.mp hr]

end NetTools
