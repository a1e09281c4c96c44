import Mathlib.Algebra.Order.Group.Defs
import Mathlib.Algebra.Order.Group.Unbundled.Basic
import Mathlib.Data.List.Perm.Subperm

/-!
# Sliding window budgets

A log holds entries with a time each, in the order in which they were admitted, which need not be
that of their times. A budget bounds the entries of every window of one width.
-/

namespace SlidingWindow

variable {α ε : Type} [AddCommGroup α] [LinearOrder α]

/-- The entries of the window that ends at `t`. -/
def inWindow (time : ε → α) (width t : α) (log : List ε) : List ε :=
  log.filter (fun e => decide (t - width ≤ time e) && decide (time e ≤ t))

/-- The entries that are not older than the window that ends at `now`. -/
def since (time : ε → α) (width now : α) (log : List ε) : List ε :=
  log.filter (fun e => decide (now - width ≤ time e))

/-- No window holds more than `limit` entries. -/
def Budget (time : ε → α) (width : α) (limit : Int) (log : List ε) : Prop :=
  ∀ t, ((inWindow time width t log).length : Int) ≤ limit

variable {time : ε → α} {width now : α} {limit : Int} {log log' : List ε}

lemma budget_nil (h : 0 ≤ limit) : Budget time width limit [] := fun _ => h

theorem Budget.subperm (h : Budget time width limit log) (hsub : log'.Subperm log) :
    Budget time width limit log' := by
  intro t
  have hle := (hsub.filter (fun e => decide (t - width ≤ time e) && decide (time e ≤ t))).length_le
  exact (Int.ofNat_le.mpr hle).trans (h t)

theorem Budget.append [IsOrderedAddMonoid α] (h : Budget time width limit log) {e : ε}
    (hroom : ((since time width (time e) log).length : Int) < limit) :
    Budget time width limit (log ++ [e]) := by
  intro t
  rw [inWindow, List.filter_append]
  by_cases hin : t - width ≤ time e ∧ time e ≤ t
  · -- every other entry of this window is one that the new entry has counted
    have hsub : (inWindow time width t log).Sublist (since time width (time e) log) := by
      apply List.monotone_filter_right
      intro x hx
      simp only [Bool.and_eq_true, decide_eq_true_eq] at hx ⊢
      exact (sub_le_sub_right hin.2 width).trans hx.1
    have hle := hsub.length_le
    rw [inWindow] at hle
    simp only [List.filter_cons, List.filter_nil, hin, decide_true, Bool.and_self, if_true,
      List.length_append, List.length_cons, List.length_nil]
    omega
  · have hout : (decide (t - width ≤ time e) && decide (time e ≤ t)) = false := by
      simpa using hin
    simp only [List.filter_cons, List.filter_nil, hout, Bool.false_eq_true, if_false,
      List.append_nil]
    exact h t

lemma since_length_le {times : List α} (h : (log.map time).Sublist times) (width now : α) :
    (since time width now log).length ≤ (since id width now times).length := by
  have hmap : (since time width now log).map time = since id width now (log.map time) := by
    rw [since, since, List.filter_map]
    rfl
  rw [← List.length_map (f := time), hmap]
  exact (h.filter _).length_le

lemma since_since [IsOrderedAddMonoid α] {earlier : α} (h : earlier ≤ now) (log : List ε) :
    since time width now (since time width earlier log) = since time width now log := by
  rw [since, since, since, List.filter_filter]
  apply List.filter_congr
  intro x _
  rw [Bool.and_eq_left_iff_imp]
  intro hx
  rw [decide_eq_true_eq] at hx ⊢
  exact (sub_le_sub_right h width).trans hx

end SlidingWindow
