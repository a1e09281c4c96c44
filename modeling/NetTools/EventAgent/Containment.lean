import Mathlib.Data.List.Nodup
import NetTools.EventAgent.DispatchBounds

/-!
# A model that cannot lead the loop astray

The contract of the loop: its bounds, the identity of every call, one answer at most, and one
result for each requested call. Only the last can fail, by an exception that nothing catches.
-/

namespace NetTools

def Justified (context : PinnedContext) : ParamRole → Value → Prop
  | .pinned attr _, value => ∃ text, context.attr attr = some text ∧ value = .str text
  | .enumerated choices _, value => ∃ text ∈ choices, value = .str text

/-- A call that has what its tool pins, and nothing else than its parameters may have. -/
def PinnedCall (context : PinnedContext) (name : String) (args : Dict) : Prop :=
  ∃ specs, pinTable.lookup name = some specs ∧
    (∀ spec ∈ specs, ∀ attr shapeCheck, spec.role = .pinned attr shapeCheck →
      ∃ text, context.attr attr = some text ∧ args.get? spec.name = some (.str text)) ∧
    ∀ entry ∈ args, ∃ spec ∈ specs, spec.name = entry.1 ∧ Justified context spec.role entry.2

def SamePins (name : String) (args args' : Dict) : Prop :=
  ∀ specs, pinTable.lookup name = some specs → ∀ spec ∈ specs, ∀ attr shapeCheck,
    spec.role = .pinned attr shapeCheck →
      ∃ text, args.get? spec.name = some (.str text) ∧ args'.get? spec.name = some (.str text)

namespace LoopInputs

def offers (i : LoopInputs) : List ToolOffer :=
  match i.manifest with
  | .error _ => []
  | .ok tools =>
    match buildOffers i.context offeredTools tools with
    | .error _ => []
    | .ok offers => offers

def points (i : LoopInputs) : List (LoopState × Dict) :=
  if i.offers.isEmpty then []
  else i.runPoints i.offers i.bounds.maxIterations.toNat i.firstState

structure Contained (i : LoopInputs) : Prop where
  turns : (i.dispatch.state.iteration : Int) ≤ i.bounds.maxIterations
  calls : (i.dispatch.state.dispatched.length : Int) ≤ i.bounds.maxToolCalls
  perTool : ∀ tool cap, i.bounds.maxCallsPerTool.lookup tool = some cap →
    (i.dispatch.state.dispatched.countP (fun call => call.1 = tool) : Int) ≤ cap
  offered : ∀ call ∈ i.dispatch.state.dispatched, call.1 ∈ i.offers.map ToolOffer.name
  pinned : ∀ call ∈ i.dispatch.state.dispatched, PinnedCall i.context call.1 call.2
  agrees : ∀ other : LoopInputs, other.context = i.context →
    ∀ call ∈ i.dispatch.state.dispatched, ∀ call' ∈ other.dispatch.state.dispatched,
      call'.1 = call.1 → SamePins call.1 call.2 call'.2
  answers : i.dispatch.state.answers.length ≤ 1
  investigated : ∀ answer ∈ i.dispatch.state.answers, ∃ k args,
    i.dispatch.state.dispatched[k]? = some ("investigate_lab", args) ∧ i.ReceiptAt k answer.2
  answered : Answered i.dispatch.state

variable {i : LoopInputs}

lemma dispatch_cases (i : LoopInputs) :
    (i.offers = [] ∧ i.dispatch.state = {}) ∨ (i.offers ≠ [] ∧
      i.dispatch = i.rounds i.offers i.bounds.maxIterations.toNat i.firstState) := by
  rw [dispatch, offers]
  cases i.manifest with
  | error message => exact .inl ⟨rfl, rfl⟩
  | ok tools =>
    dsimp only
    cases buildOffers i.context offeredTools tools with
    | error e => exact .inl ⟨rfl, rfl⟩
    | ok offers =>
      cases offers with
      | nil => exact .inl ⟨rfl, rfl⟩
      | cons offer offers => exact .inr ⟨List.cons_ne_nil _ _, rfl⟩

lemma offers_follow {offer : ToolOffer} (h : offer ∈ i.offers) : offer.Follows i.context := by
  rw [offers] at h
  split at h
  · cases h
  · split at h
    · cases h
    · rename_i hoffers
      exact buildOffers_follows hoffers offer h

lemma bounded_empty (i : LoopInputs) (offers : List ToolOffer) {st : LoopState}
    (hcalls : st.totalCalls = 0) (hper : st.callsPerTool = fun _ => 0) (hsent : st.dispatched = [])
    (hticket : st.ticket = []) (hfinal : st.finalReceipt = none) : Bounded i offers st where
  total := by rw [hcalls, hsent]; rfl
  counts := by rw [hper, hsent]; exact fun _ => rfl
  calls := by rw [hcalls]; exact le_max_right _ _
  caps := by rw [hper]; exact fun _ cap _ => le_max_right cap 0
  resolved := by rw [hsent]; exact fun call hcall => absurd hcall List.not_mem_nil
  answers := by rw [LoopState.answers, hticket, hfinal]; rfl
  read := by
    rw [hfinal]
    intro receipt h
    cases h

theorem dispatch_bounded (i : LoopInputs) : Bounded i i.offers i.dispatch.state := by
  rcases dispatch_cases i with ⟨-, hstate⟩ | ⟨-, hrounds⟩
  · rw [hstate]
    exact bounded_empty i i.offers rfl rfl rfl rfl rfl
  · rw [hrounds]
    refine rounds_bounded (fun offer hoffer hname => ?_) _ (bounded_empty i _ rfl rfl rfl rfl rfl)
    have hoffered := (offers_follow hoffer).offered
    rw [hname] at hoffered
    exact absurd hoffered (by decide)

end LoopInputs

end NetTools
