import Mathlib.Data.List.TakeWhile

/-!
# Splitting lists

The pieces of a list between its separators, and what lies within one of them.
-/

namespace Splitting

variable {α : Type} {sep : α → Bool} {l s : List α}

lemma splitOnP_head (sep : α → Bool) (l : List α) :
    ∃ rest, l.splitOnP sep = l.takeWhile (fun a => !sep a) :: rest := by
  induction l with
  | nil => exact ⟨[], rfl⟩
  | cons a l ih =>
    obtain ⟨rest, hrest⟩ := ih
    rw [List.splitOnP_cons_eq_if_modifyHead, List.takeWhile_cons]
    cases hsep : sep a with
    | true => exact ⟨l.splitOnP sep, rfl⟩
    | false =>
      rw [if_neg Bool.false_ne_true, hrest]
      exact ⟨rest, rfl⟩

lemma infix_of_mem {piece : List α} (h : piece ∈ l.splitOnP sep) : piece <:+: l := by
  induction l generalizing piece with
  | nil =>
    rw [List.splitOnP_nil, List.mem_singleton] at h
    exact h ▸ List.nil_infix
  | cons a l ih =>
    obtain ⟨rest, hrest⟩ := splitOnP_head sep l
    rw [List.splitOnP_cons_eq_if_modifyHead] at h
    by_cases hsep : sep a = true
    · rw [if_pos hsep] at h
      rcases List.mem_cons.mp h with rfl | h
      · exact List.nil_infix
      · exact (ih h).trans (List.suffix_cons a l).isInfix
    · rw [if_neg hsep, hrest, List.modifyHead_cons] at h
      rcases List.mem_cons.mp h with rfl | h
      · exact ((List.prefix_cons_inj a).mpr (List.takeWhile_prefix _)).isInfix
      · have hmem : piece ∈ l.splitOnP sep := by
          rw [hrest]
          exact List.mem_cons_of_mem _ h
        exact (ih hmem).trans (List.suffix_cons a l).isInfix

lemma exists_mem_of_infix (hs : ∀ a ∈ s, sep a = false) (h : s <:+: l) :
    ∃ piece ∈ l.splitOnP sep, s <:+: piece := by
  induction l with
  | nil =>
    rw [List.infix_nil.mp h]
    exact ⟨[], List.mem_singleton_self [], List.nil_infix⟩
  | cons a l ih =>
    obtain ⟨rest, hrest⟩ := splitOnP_head sep (a :: l)
    rcases List.infix_cons_iff.mp h with hinitial | hlater
    · refine ⟨_, by rw [hrest]; exact List.mem_cons_self, ?_⟩
      obtain ⟨back, hback⟩ := hinitial
      rw [← hback, List.takeWhile_append_of_pos (fun b hb => by rw [hs b hb]; rfl)]
      exact (List.prefix_append s _).isInfix
    · obtain ⟨piece, hpiece, hin⟩ := ih hlater
      rw [List.splitOnP_cons_eq_if_modifyHead]
      by_cases hsep : sep a = true
      · rw [if_pos hsep]
        exact ⟨piece, List.mem_cons_of_mem _ hpiece, hin⟩
      · rw [if_neg hsep]
        obtain ⟨rest', hrest'⟩ := splitOnP_head sep l
        rw [hrest'] at hpiece ⊢
        rw [List.modifyHead_cons]
        rcases List.mem_cons.mp hpiece with rfl | hpiece
        · exact ⟨_, List.mem_cons_self, hin.trans (List.suffix_cons a _).isInfix⟩
        · exact ⟨piece, List.mem_cons_of_mem _ hpiece, hin⟩

theorem infix_iff (hs : ∀ a ∈ s, sep a = false) :
    s <:+: l ↔ ∃ piece ∈ l.splitOnP sep, s <:+: piece := by
  constructor
  · exact exists_mem_of_infix hs
  · rintro ⟨piece, hpiece, hin⟩
    exact hin.trans (infix_of_mem hpiece)

end Splitting
