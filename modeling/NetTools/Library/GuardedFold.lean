import NetTools.Library.Runs

/-!
# Folds that leave out what does not apply

An input that applies to a state advances it, and any other input leaves the state as it is. Where
an input never applies again once it did not, or once it did, a repeated input changes nothing.
-/

namespace GuardedFold

variable {σ ι : Type} (applies : σ → ι → Prop) [∀ s i, Decidable (applies s i)]
  (advance : σ → ι → σ)

def step (s : σ) (i : ι) : σ := if applies s i then advance s i else s

def applied : σ → List ι → List ι
  | _, [] => []
  | s, i :: is =>
    if applies s i then i :: applied (advance s i) is else applied s is

variable {applies advance} {s : σ} {i : ι} {is : List ι}

lemma step_of_applies (h : applies s i) : step applies advance s i = advance s i := if_pos h

lemma step_of_not_applies (h : ¬applies s i) : step applies advance s i = s := if_neg h

theorem final_applied (s : σ) (is : List ι) :
    Runs.final (step applies advance) s (applied applies advance s is) =
      Runs.final (step applies advance) s is := by
  induction is generalizing s with
  | nil => rfl
  | cons i is ih =>
    rw [applied, Runs.final_cons]
    by_cases h : applies s i
    · rw [if_pos h, Runs.final_cons, step_of_applies h, ih]
    · rw [if_neg h, step_of_not_applies h, ih]

lemma final_eq_foldl_applied (s : σ) (is : List ι) :
    Runs.final (step applies advance) s is = (applied applies advance s is).foldl advance s := by
  induction is generalizing s with
  | nil => rfl
  | cons i is ih =>
    rw [applied, Runs.final_cons, ih]
    by_cases h : applies s i
    · rw [if_pos h, step_of_applies h, List.foldl_cons]
    · rw [if_neg h, step_of_not_applies h]

theorem final_of_closed (advance : σ → ι → σ) (h : ∀ i, ¬applies s i) (is : List ι) :
    Runs.final (step applies advance) s is = s := by
  induction is with
  | nil => rfl
  | cons i is ih => rw [Runs.final_cons, step_of_not_applies (h i), ih]

section Stale

variable (hstale : ∀ s i j, applies s j → applies (advance s j) i → applies s i)
  (hdone : ∀ s i, applies s i → ¬applies (advance s i) i)

include hstale in
lemma not_applies_final (h : ¬applies s i) (is : List ι) :
    ¬applies (Runs.final (step applies advance) s is) i := by
  induction is generalizing s with
  | nil => exact h
  | cons j is ih =>
    rw [Runs.final_cons]
    by_cases hj : applies s j
    · rw [step_of_applies hj]
      exact ih (fun happlies => h (hstale s i j hj happlies))
    · rw [step_of_not_applies hj]
      exact ih h

include hstale hdone in
theorem not_applies_of_mem (h : i ∈ is) :
    ¬applies (Runs.final (step applies advance) s is) i := by
  induction is generalizing s with
  | nil => cases h
  | cons j is ih =>
    rw [Runs.final_cons]
    rcases List.mem_cons.mp h with rfl | h
    · by_cases hi : applies s i
      · rw [step_of_applies hi]
        exact not_applies_final hstale (hdone s i hi) is
      · rw [step_of_not_applies hi]
        exact not_applies_final hstale hi is
    · exact ih h

include hstale hdone in
theorem final_repeated {before after : List ι} (h : i ∈ before) :
    Runs.final (step applies advance) s (before ++ i :: after) =
      Runs.final (step applies advance) s (before ++ after) := by
  rw [Runs.final, Runs.final, List.foldl_append, List.foldl_append, List.foldl_cons]
  congr 1
  exact step_of_not_applies (not_applies_of_mem hstale hdone h)

end Stale

end GuardedFold
