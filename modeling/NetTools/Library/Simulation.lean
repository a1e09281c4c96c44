import NetTools.Library.Runs

/-!
# Simulations

A step function simulates a specification when, under an invariant that it keeps, each of its steps
is one that the specification allows between the abstract states. Its runs are then runs of the
specification, and what every allowed step relates holds between any two states of a run.
-/

namespace Runs

variable {σ ι α : Type}

inductive Allowed (spec : α → ι → α → Prop) : α → List ι → α → Prop where
  | nil (a : α) : Allowed spec a [] a
  | cons {a b c : α} {i : ι} {is : List ι} (first : spec a i b) (rest : Allowed spec b is c) :
      Allowed spec a (i :: is) c

/-- Each step under the guard is an allowed step of the specification. -/
structure Simulation (step : σ → ι → σ) (G : ι → Prop) (spec : α → ι → α → Prop) where
  abs : σ → α
  Inv : σ → Prop
  keeps : ∀ s i, Inv s → Inv (step s i)
  allows : ∀ s i, Inv s → G i → spec (abs s) i (abs (step s i))

variable {step : σ → ι → σ} {G : ι → Prop} {spec : α → ι → α → Prop} {s : σ} {is : List ι}

namespace Simulation

lemma inv_final (m : Simulation step G spec) (hs : m.Inv s) (is : List ι) :
    m.Inv (final step s is) := final_of_step m.keeps hs is

theorem allowed_final (m : Simulation step G spec) (hs : m.Inv s) (hG : ∀ i ∈ is, G i) :
    Allowed spec (m.abs s) is (m.abs (final step s is)) := by
  induction is generalizing s with
  | nil => exact .nil _
  | cons i is ih =>
    refine .cons (m.allows s i hs (hG i List.mem_cons_self)) ?_
    exact ih (m.keeps s i hs) (fun j hj => hG j (List.mem_cons_of_mem i hj))

end Simulation

theorem Allowed.related {Q : α → α → Prop} (hrefl : ∀ a, Q a a)
    (htrans : ∀ a b c, Q a b → Q b c → Q a c) (hstep : ∀ a i b, spec a i b → Q a b) {a b : α}
    (h : Allowed spec a is b) : Q a b := by
  induction h with
  | nil a => exact hrefl a
  | cons first rest ih => exact htrans _ _ _ (hstep _ _ _ first) ih

end Runs
