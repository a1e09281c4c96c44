import Mathlib.Algebra.BigOperators.Group.List.Basic
import Mathlib.Algebra.Order.Ring.Rat
import Mathlib.Data.Rat.Cast.Defs
import NetTools.Metrics.Counters

/-!
# What the counters count

Every event adds a fixed amount to each counter that it touches, whatever the state. A counter
after a list of events is the sum of their amounts in that order.
-/

namespace NetTools

namespace Metrics

inductive Counter where
  | success (device : String)
  | failure (device : String)
  | latencyTotal (device : String)
  | latencyCount (device : String)
  | retries (device : String)
  | verdict (severity : Severity)
  | paraphrase (outcome : ParaphraseOutcome)

def Counters.value (c : Counters) : Counter → PyFloat
  | .success device => (c.stats device).success
  | .failure device => (c.stats device).failure
  | .latencyTotal device => (c.stats device).latencyTotalS
  | .latencyCount device => (c.stats device).latencyCount
  | .retries device => (c.stats device).retriesTotal
  | .verdict severity => .finite (c.verdicts severity)
  | .paraphrase outcome => .finite (c.paraphrases outcome)

/-- What an event adds to a counter, `none` where it does not touch it. -/
def MetricEvent.amount : MetricEvent → Counter → Option ℚ
  | .collection device success _ _, .success d => if d = device ∧ success then some 1 else none
  | .collection device success _ _, .failure d => if d = device ∧ !success then some 1 else none
  | .collection device _ durationS _, .latencyTotal d => if d = device then some durationS else none
  | .collection device _ _ _, .latencyCount d => if d = device then some 1 else none
  | .collection device _ _ retries, .retries d => if d = device then some retries else none
  | .verdict severity, .verdict s => if s = severity then some 1 else none
  | .paraphrase outcome, .paraphrase o => if o = outcome then some 1 else none
  | _, _ => none

def Counter.exact : Counter → Bool
  | .verdict _ => true
  | .paraphrase _ => true
  | _ => false

variable (R : Numerals)

def Counter.plus (k : Counter) (x : PyFloat) (a : ℚ) : PyFloat :=
  if k.exact then
    match x with
    | .finite q => .finite (q + a)
    | x => x
  else addFloat R x (.finite a)

def Counter.total (k : Counter) (x : PyFloat) (amounts : List ℚ) : PyFloat :=
  amounts.foldl (k.plus R) x

lemma stats_apply_collection (c : Counters) (device : String) (success : Bool) (durationS : ℚ)
    (retries : Nat) (d : String) :
    (c.apply R (.collection device success durationS retries)).stats d =
      if d = device then (c.stats d).recorded R success durationS retries else c.stats d := by
  change ((LastRow.assign c.collections device _).lookup d).getD {} = _
  rw [LastRow.lookup_assign]
  by_cases hd : d = device
  · rw [if_pos hd, if_pos hd, hd]
    rfl
  · rw [if_neg hd, if_neg hd]
    rfl

theorem value_apply (c : Counters) (e : MetricEvent) (k : Counter) :
    (c.apply R e).value k = ((e.amount k).map (k.plus R (c.value k))).getD (c.value k) := by
  cases e with
  | collection device success durationS retries =>
    have hstats := stats_apply_collection R c device success durationS retries
    cases k with
    | success d | failure d =>
      simp only [Counters.value, hstats d]
      by_cases hd : d = device
      · cases success <;>
          simp [hd, MetricEvent.amount, DeviceStats.recorded, Counter.plus, Counter.exact]
      · simp [hd, MetricEvent.amount]
    | latencyTotal d | latencyCount d | retries d =>
      simp only [Counters.value, hstats d]
      by_cases hd : d = device
      · simp [hd, MetricEvent.amount, DeviceStats.recorded, Counter.plus, Counter.exact]
      · simp [hd, MetricEvent.amount]
    | verdict s | paraphrase o => rfl
  | verdict severity =>
    cases k with
    | verdict s =>
      by_cases hs : s = severity
      · subst hs
        simp [Counters.value, Counters.apply, MetricEvent.amount, Counter.plus, Counter.exact]
      · simp [Counters.value, Counters.apply, MetricEvent.amount, hs]
    | success d | failure d | latencyTotal d | latencyCount d | retries d | paraphrase o => rfl
  | paraphrase outcome =>
    cases k with
    | paraphrase o =>
      by_cases ho : o = outcome
      · subst ho
        simp [Counters.value, Counters.apply, MetricEvent.amount, Counter.plus, Counter.exact]
      · simp [Counters.value, Counters.apply, MetricEvent.amount, ho]
    | success d | failure d | latencyTotal d | latencyCount d | retries d | verdict s => rfl

theorem value_foldl_apply (c : Counters) (events : List MetricEvent) (k : Counter) :
    (events.foldl (Counters.apply R) c).value k =
      k.total R (c.value k) (events.filterMap (fun e => e.amount k)) := by
  induction events generalizing c with
  | nil => rfl
  | cons e rest ih =>
    rw [List.foldl_cons, ih, value_apply, List.filterMap_cons]
    cases e.amount k <;> rfl

/-- The sums that the additions of the amounts go through are doubles. -/
def Counter.Representable (k : Counter) (q : ℚ) (amounts : List ℚ) : Prop :=
  k.exact = false → ∀ done, done <+: amounts → R.round (q + done.sum) = .finite (q + done.sum)

lemma Counter.plus_of_round {k : Counter} {q a : ℚ}
    (h : k.exact = false → R.round (q + a) = .finite (q + a)) :
    k.plus R (.finite q) a = .finite (q + a) := by
  unfold Counter.plus
  by_cases hk : k.exact = true
  · rw [if_pos hk]
  · rw [if_neg hk]
    exact h (Bool.not_eq_true _ ▸ hk)

theorem Counter.total_of_representable {k : Counter} {q : ℚ} {amounts : List ℚ}
    (h : k.Representable R q amounts) :
    k.total R (.finite q) amounts = .finite (q + amounts.sum) := by
  induction amounts generalizing q with
  | nil => simp [Counter.total]
  | cons a rest ih =>
    have hfirst : k.plus R (.finite q) a = .finite (q + a) := by
      apply plus_of_round
      intro hk
      have hround := h hk [a] ⟨rest, rfl⟩
      simpa using hround
    have hrest : k.Representable R (q + a) rest := by
      intro hk done hdone
      have hround := h hk (a :: done) (List.cons_prefix_cons.mpr ⟨rfl, hdone⟩)
      rwa [List.sum_cons, ← add_assoc] at hround
    change (rest.foldl (k.plus R) (k.plus R (.finite q) a)) = _
    rw [hfirst, List.sum_cons, ← add_assoc]
    exact ih hrest

end Metrics

end NetTools
