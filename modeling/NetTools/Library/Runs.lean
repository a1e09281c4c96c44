import Mathlib.Data.List.Basic

/-!
# Properties of every step of a run

A run feeds a list of inputs to a step function. `AllSteps step P s is` says that `P` holds
of every state and input that the run from `s` goes through. The rules below turn facts
about one step into facts about runs.
-/

namespace Runs

variable {σ ι : Type}

def final (step : σ → ι → σ) (s : σ) (is : List ι) : σ := is.foldl step s

/-- A relation between the state before a step and its input holds throughout a run. -/
def AllSteps (step : σ → ι → σ) (P : σ → ι → Prop) : σ → List ι → Prop
  | _, [] => True
  | s, i :: is => P s i ∧ AllSteps step P (step s i) is

instance AllSteps.decidable (step : σ → ι → σ) (P : σ → ι → Prop) [∀ s i, Decidable (P s i)] :
    ∀ (s : σ) (is : List ι), Decidable (AllSteps step P s is)
  | _, [] => .isTrue trivial
  | s, i :: is =>
    have := AllSteps.decidable step P (step s i) is
    inferInstanceAs (Decidable (P s i ∧ AllSteps step P (step s i) is))

variable {step : σ → ι → σ} {Inv : σ → Prop} {P G : σ → ι → Prop}

@[simp] lemma allSteps_nil (s : σ) : AllSteps step P s [] := trivial

@[simp] lemma allSteps_cons (s : σ) (i : ι) (is : List ι) :
    AllSteps step P s (i :: is) ↔ P s i ∧ AllSteps step P (step s i) is := Iff.rfl

@[simp] lemma final_nil (s : σ) : final step s [] = s := rfl

@[simp] lemma final_cons (s : σ) (i : ι) (is : List ι) :
    final step s (i :: is) = final step (step s i) is := rfl

theorem final_of_step (hstep : ∀ s i, Inv s → Inv (step s i)) {s : σ} (hs : Inv s)
    (is : List ι) : Inv (final step s is) := by
  induction is generalizing s with
  | nil => exact hs
  | cons i is ih => exact ih (hstep s i hs)

lemma allSteps_and {s : σ} {is : List ι} :
    AllSteps step (fun s i => P s i ∧ G s i) s is ↔ AllSteps step P s is ∧ AllSteps step G s is := by
  induction is generalizing s with
  | nil => simp
  | cons i is ih =>
    rw [allSteps_cons, allSteps_cons, allSteps_cons, ih]
    exact and_and_and_comm

theorem allSteps_iff (hstep : ∀ s i, Inv s → Inv (step s i))
    (hiff : ∀ s i, Inv s → (P s i ↔ G s i)) {s : σ} (hs : Inv s) (is : List ι) :
    AllSteps step P s is ↔ AllSteps step G s is := by
  induction is generalizing s with
  | nil => exact Iff.rfl
  | cons i is ih => exact and_congr (hiff s i hs) (ih (hstep s i hs))

theorem allSteps_of_guard (hstep : ∀ s i, Inv s → G s i → Inv (step s i))
    (hP : ∀ s i, Inv s → G s i → P s i) {s : σ} (hs : Inv s) {is : List ι}
    (hG : AllSteps step G s is) : AllSteps step P s is := by
  induction is generalizing s with
  | nil => trivial
  | cons i is ih => exact ⟨hP s i hs hG.1, ih (hstep s i hs hG.1) hG.2⟩

theorem allSteps_next_iff (hiff : ∀ s i, Inv s → ((Inv (step s i) ∧ P s i) ↔ G s i)) {s : σ}
    (hs : Inv s) (is : List ι) :
    AllSteps step (fun s i => Inv (step s i) ∧ P s i) s is ↔ AllSteps step G s is := by
  induction is generalizing s with
  | nil => exact Iff.rfl
  | cons i is ih =>
    constructor
    · rintro ⟨hi, his⟩
      exact ⟨(hiff s i hs).mp hi, (ih hi.1).mp his⟩
    · rintro ⟨hi, his⟩
      have hnext := (hiff s i hs).mpr hi
      exact ⟨hnext, (ih hnext.1).mpr his⟩

theorem allSteps_of_invariant (hstep : ∀ s i, Inv s → Inv (step s i))
    (hP : ∀ s i, Inv s → P s i) {s : σ} (hs : Inv s) (is : List ι) : AllSteps step P s is := by
  induction is generalizing s with
  | nil => trivial
  | cons i is ih => exact ⟨hP s i hs, ih (hstep s i hs)⟩

end Runs
