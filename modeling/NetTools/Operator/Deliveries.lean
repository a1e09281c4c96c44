import NetTools.Operator

/-!
# Deliveries of operator callbacks

Workers handle callbacks side by side. A call of `handle` takes its store operations and its
audit append one at a time, so that another call may come between any two of them, and it may
raise or stop between any two for good.
-/

namespace NetTools

deriving instance DecidableEq for Callback

/-- How far a call of `handle` has come. -/
inductive HandlePhase where
  | called
  | permitted
  | retrying (event : EventRecord)
  | decided (outcome detail : String)
  | audited (line : Dict)
  | returned (result : Dict)
  | raised

namespace HandlePhase

def ofResult : Except StoreError Dict → HandlePhase
  | .ok result => .returned result
  | .error _ => .raised

def failed : HandlePhase → HandlePhase
  | .returned result => .returned result
  | _ => .raised

end HandlePhase

namespace OperatorWorkflow

variable (policies : List (Int × OperatorPolicy))

def permits (callback : Callback) : Bool :=
  (policies.lookup callback.userId).any (fun p => p.permits callback.action)

def answer (action : String) : HandlePhase :=
  if action = "silence" then .decided "input_required" "silence requires reason and expiry"
  else if action = "evidence" then .decided "accepted" "evidence view requested"
  else if action = "timeline" then .decided "accepted" "timeline view requested"
  else .decided "accepted" "incident acknowledged"

def advance (s : OperatorState) (callback : Callback) (clock : CallbackClock) :
    HandlePhase → OperatorState × HandlePhase
  | .called =>
    match s.store.operatorCallbacks.get? callback.callbackId with
    | some prior => (s, .returned prior.result)
    | none =>
      if permits policies callback then (s, .permitted)
      else (s, .decided "refused" "operator is not authorized")
  | .permitted =>
    match s.store.get callback.eventId with
    | none => (s, .decided "refused" "event does not exist")
    | some event =>
      if callback.action = "retry" then
        if event.state ≠ .retryableFailed then (s, .decided "refused" "event is not retryable")
        else (s, .retrying event)
      else (s, answer callback.action)
  | .retrying event =>
    match s.store.transition event.eventId .admitted (some "operator retry requested")
        none none none clock.transitionAt with
    | .error e => (s, .decided "refused" s!"retry refused: {e.typeName}")
    | .ok (_, store) => ({ s with store }, .decided "accepted" "event readmitted")
  | .decided outcome detail =>
    let line := auditRecord clock callback (policies.lookup callback.userId) outcome detail
    ({ s with audit := s.audit ++ [line] }, .audited line)
  | .audited line =>
    match s.store.recordOperatorCallback callback.callbackId callback.eventId line
        clock.recordedAt with
    | .error _ => (s, .raised)
    | .ok (row, store) => ({ s with store }, .returned row.result)
  | .returned result => (s, .returned result)
  | .raised => (s, .raised)

def readmits (s : OperatorState) (clock : CallbackClock) : HandlePhase → Bool
  | .retrying event =>
    (s.store.transition event.eventId .admitted (some "operator retry requested")
      none none none clock.transitionAt).isOk
  | _ => false

section Alone

variable {policies} {callback : Callback} {clock : CallbackClock}

def next (policies : List (Int × OperatorPolicy)) (callback : Callback) (clock : CallbackClock)
    (x : OperatorState × HandlePhase) : OperatorState × HandlePhase :=
  advance policies x.1 callback clock x.2

lemma next_ended (s : OperatorState) (result : Except StoreError Dict) (n : Nat) :
    (next policies callback clock)^[n] (s, .ofResult result) = (s, .ofResult result) := by
  apply Function.iterate_fixed
  cases result <;> rfl

lemma next_decided (s : OperatorState) (outcome detail : String) (n : Nat) :
    (next policies callback clock)^[n + 2] (s, .decided outcome detail) =
      ((record clock s callback (policies.lookup callback.userId) outcome detail).2,
        .ofResult
          (record clock s callback (policies.lookup callback.userId) outcome detail).1) := by
  rw [Function.iterate_add_apply, ← next_ended _ _ n]
  congr 1
  simp only [Function.iterate_succ_apply, Function.iterate_zero_apply, next, advance, record]
  cases s.store.recordOperatorCallback callback.callbackId callback.eventId
    (auditRecord clock callback (policies.lookup callback.userId) outcome detail)
    clock.recordedAt <;> rfl

theorem iterate_next_called (s : OperatorState) :
    (next policies callback clock)^[5] (s, .called) =
      ((handle policies clock s callback).2, .ofResult (handle policies clock s callback).1) := by
  have hpolicy : (policies.lookup callback.userId).all (fun p => !p.permits callback.action) =
      !permits policies callback := by
    unfold permits
    cases policies.lookup callback.userId <;> rfl
  rw [Function.iterate_succ_apply, handle, next, advance]
  simp only [hpolicy]
  cases s.store.operatorCallbacks.get? callback.callbackId with
  | some prior => exact next_ended s (.ok prior.result) 4
  | none =>
    cases permits policies callback with
    | false => exact next_decided s _ _ 2
    | true =>
      simp only [Bool.not_true, Bool.false_eq_true, if_false, if_true]
      rw [Function.iterate_succ_apply, next, advance]
      cases s.store.get callback.eventId with
      | none => exact next_decided s _ _ 1
      | some event =>
        dsimp only
        by_cases hretry : callback.action = "retry"
        · simp only [hretry, if_true]
          by_cases hstate : event.state ≠ .retryableFailed
          · rw [if_pos hstate, if_pos hstate]
            exact next_decided s _ _ 1
          · rw [if_neg hstate, if_neg hstate]
            rw [Function.iterate_succ_apply, next, advance]
            cases s.store.transition event.eventId .admitted (some "operator retry requested")
                none none none clock.transitionAt with
            | error e => exact next_decided s _ _ 0
            | ok moved => exact next_decided { s with store := moved.2 } _ _ 0
        · simp only [hretry, if_false, answer]
          split
          · exact next_decided s _ _ 1
          · split
            · exact next_decided s _ _ 1
            · split <;> exact next_decided s _ _ 1

end Alone

end OperatorWorkflow

structure HandleCall where
  callback : Callback
  phase : HandlePhase := .called

/-- The store and the audit file, all calls in the order in which they began, and the transitions
that calls have performed, each with the number of its call. -/
structure OperatorWorld where
  state : OperatorState
  calls : List HandleCall := []
  readmissions : List (Nat × Callback) := []

inductive OperatorStep where
  | call (callback : Callback)
  | advance (k : Nat) (clock : CallbackClock)
  | fail (k : Nat)

namespace OperatorWorld

variable (policies : List (Int × OperatorPolicy))

def callbacks (w : OperatorWorld) : List Callback := w.calls.map HandleCall.callback

def stored (w : OperatorWorld) (callbackId : String) : Option OperatorCallbackResult :=
  w.state.store.operatorCallbacks.get? callbackId

/-- The world once the call `c` with the number `k` has come to a phase. -/
def advanced (w : OperatorWorld) (k : Nat) (c : HandleCall) (phase : HandlePhase)
    (state : OperatorState) (readmissions : List (Nat × Callback)) : OperatorWorld :=
  { state, calls := w.calls.set k { c with phase }, readmissions }

def step (w : OperatorWorld) : OperatorStep → OperatorWorld
  | .call callback => { w with calls := w.calls ++ [{ callback }] }
  | .advance k clock =>
    match w.calls[k]? with
    | none => w
    | some c =>
      let (state, phase) := OperatorWorkflow.advance policies w.state c.callback clock c.phase
      w.advanced k c phase state
        (if OperatorWorkflow.readmits w.state clock c.phase then (k, c.callback) :: w.readmissions
          else w.readmissions)
  | .fail k =>
    match w.calls[k]? with
    | none => w
    | some c => w.advanced k c c.phase.failed w.state w.readmissions

/-- The step begins a call for a callback that earlier calls with its id also had. -/
def SameCallback (w : OperatorWorld) : OperatorStep → Prop
  | .call callback => ∀ c ∈ w.callbacks, c.callbackId = callback.callbackId → c = callback
  | _ => True

/-- The step does not store the first result of a callback after another call for its id has
readmitted the event. -/
def RecordsOwn (w : OperatorWorld) : OperatorStep → Prop
  | .advance k _ =>
    match w.calls[k]? with
    | some ⟨callback, .audited _⟩ =>
      callback.callbackId ≠ "" → w.stored callback.callbackId = none →
        ∀ r ∈ w.readmissions, r.2.callbackId = callback.callbackId → r.1 = k
    | _ => True
  | _ => True

instance (w : OperatorWorld) : ∀ i, Decidable (w.SameCallback i)
  | .call callback => inferInstanceAs
      (Decidable (∀ c ∈ w.callbacks, c.callbackId = callback.callbackId → c = callback))
  | .advance _ _ => .isTrue trivial
  | .fail _ => .isTrue trivial

end OperatorWorld

def AcceptedRetry (result : Dict) : Prop :=
  result.get? "action" = some (.str "retry") ∧ result.get? "outcome" = some (.str "accepted")

/-- Callbacks have taken effect once and were reported as they did, since the store was `store`. -/
structure CallbacksHonest (policies : List (Int × OperatorPolicy)) (store : EventStore)
    (w : OperatorWorld) : Prop where
  once : (w.readmissions.map (fun r => r.2.callbackId)).Nodup
  same : ∀ c ∈ w.calls, ∀ d ∈ w.calls, c.callback.callbackId = d.callback.callbackId →
    ∀ result result', c.phase = .returned result → d.phase = .returned result' → result = result'
  accepted : ∀ callbackId row, w.stored callbackId = some row →
    (AcceptedRetry row.result ↔ ∃ r ∈ w.readmissions, r.2.callbackId = callbackId)
  refused : ∀ c ∈ w.calls, OperatorWorkflow.permits policies c.callback = false →
    ∀ result, c.phase = .returned result → result.get? "outcome" = some (.str "refused")
  unchanged : ∀ eventId, w.state.store.get eventId ≠ store.get eventId →
    ∃ r ∈ w.readmissions, r.2.eventId = eventId ∧ r.2.action = "retry" ∧
      ∀ row, w.stored r.2.callbackId = some row → AcceptedRetry row.result

end NetTools
