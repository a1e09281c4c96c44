import Mathlib.Data.List.Basic
import Mathlib.Data.List.Nodup

/-!
# Retention

What a rule on positions and elements keeps of a list, and that deleting the rest by a key leaves
just that.
-/

namespace Retention

variable {α β κ : Type} {p : Nat → α → Bool} {l : List α}

/-- The elements that `p` chooses, by their positions. -/
def chosen (p : Nat → α → Bool) (l : List α) : List α :=
  (l.zipIdx.filter (fun x => p x.2 x.1)).map Prod.fst

lemma chosen_sublist (p : Nat → α → Bool) (l : List α) : (chosen p l).Sublist l := by
  have h : (chosen p l).Sublist (l.zipIdx.map Prod.fst) :=
    (List.filter_sublist (l := l.zipIdx)).map Prod.fst
  rwa [List.zipIdx_map_fst] at h

theorem map_chosen (f : α → β) (p : Nat → Bool) (l : List α) :
    (chosen (fun i _ => p i) l).map f = chosen (fun i _ => p i) (l.map f) := by
  rw [chosen, chosen, List.zipIdx_map, List.filter_map, List.map_map, List.map_map]
  rfl

lemma filter_eq_map_zipIdx (q : α → Bool) (l : List α) :
    l.filter q = (l.zipIdx.filter (fun x => q x.1)).map Prod.fst := by
  have h : (l.zipIdx.map Prod.fst).filter q =
      (l.zipIdx.filter (fun x => q x.1)).map Prod.fst := List.filter_map
  rwa [List.zipIdx_map_fst] at h

theorem filter_eq_chosen [DecidableEq κ] {key : α → κ} (h : (l.map key).Nodup) :
    l.filter (fun a => !decide (key a ∈ (chosen (fun i a => !p i a) l).map key)) = chosen p l := by
  have hpairs : (l.zipIdx.map (fun x => key x.1)).Nodup := by
    rw [← List.zipIdx_map_fst 0 l, List.map_map] at h
    exact h
  have hkeep : ∀ x ∈ l.zipIdx,
      (!decide (key x.1 ∈ (chosen (fun i a => !p i a) l).map key)) = p x.2 x.1 := by
    intro x hx
    rw [chosen, List.map_map, Bool.eq_iff_iff, Bool.not_eq_true', decide_eq_false_iff_not]
    constructor
    · intro hnot
      by_contra hp
      apply hnot
      refine List.mem_map.mpr ⟨x, List.mem_filter.mpr ⟨hx, ?_⟩, rfl⟩
      rw [Bool.eq_false_iff.mpr hp]
      rfl
    · intro hp hmem
      obtain ⟨y, hy, hkey⟩ := List.mem_map.mp hmem
      obtain ⟨hyl, hyp⟩ := List.mem_filter.mp hy
      have hxy : y = x := List.inj_on_of_nodup_map hpairs hyl hx hkey
      rw [hxy, hp] at hyp
      cases hyp
  rw [filter_eq_map_zipIdx, List.filter_congr hkeep]
  rfl

end Retention
