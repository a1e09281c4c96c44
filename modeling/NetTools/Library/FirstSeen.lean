import Mathlib.Data.List.Dedup
import Mathlib.Data.List.Nodup

/-!
# First occurrences

What is left of a list when an element is dropped whose key has been seen before.
-/

namespace FirstSeen

variable {α κ : Type} [DecidableEq κ] (key : α → κ)

def firsts : List κ → List α → List α
  | _, [] => []
  | seen, x :: l => if key x ∈ seen then firsts seen l else x :: firsts (key x :: seen) l

variable {key} {seen : List κ} {l : List α} {x : α}

lemma firsts_nil : firsts key seen [] = [] := rfl

lemma firsts_cons : firsts key seen (x :: l) =
    if key x ∈ seen then firsts key seen l else x :: firsts key (key x :: seen) l := rfl

theorem mem_firsts_iff : x ∈ firsts key seen l ↔
    key x ∉ seen ∧ l.find? (fun y => decide (key y = key x)) = some x := by
  induction l generalizing seen with
  | nil => simp [firsts_nil]
  | cons y l ih =>
    rw [firsts_cons, List.find?_cons]
    by_cases hseen : key y ∈ seen
    · rw [if_pos hseen, ih]
      apply and_congr_right
      intro hnot
      have hne : key y ≠ key x := by
        intro h
        rw [h] at hseen
        exact hnot hseen
      rw [decide_eq_false hne]
    · rw [if_neg hseen, List.mem_cons, ih]
      by_cases hkey : key y = key x
      · rw [decide_eq_true hkey, hkey]
        simp only [Option.some.injEq, List.mem_cons, true_or, not_true_eq_false, false_and, or_false]
        exact ⟨fun h => ⟨hkey ▸ hseen, h.symm⟩, fun h => h.2.symm⟩
      · rw [decide_eq_false hkey]
        have hne : x ≠ y := fun h => hkey (h ▸ rfl)
        have hne' : key x ≠ key y := fun h => hkey h.symm
        simp only [hne, false_or, List.mem_cons, hne']

lemma nodup_map_key_firsts (key : α → κ) (seen : List κ) (l : List α) :
    ((firsts key seen l).map key).Nodup := by
  induction l generalizing seen with
  | nil => exact List.nodup_nil
  | cons y l ih =>
    rw [firsts_cons]
    split
    · exact ih seen
    · rw [List.map_cons, List.nodup_cons]
      refine ⟨?_, ih _⟩
      intro hmem
      obtain ⟨x, hx, hkey⟩ := List.mem_map.mp hmem
      exact (mem_firsts_iff.mp hx).1 (hkey ▸ List.mem_cons_self)

lemma firsts_sublist (key : α → κ) (seen : List κ) (l : List α) :
    (firsts key seen l).Sublist l := by
  induction l generalizing seen with
  | nil => exact List.Sublist.slnil
  | cons y l ih =>
    rw [firsts_cons]
    split
    · exact (ih seen).cons y
    · exact (ih _).cons_cons y

lemma firsts_congr {seen seen' : List κ} (h : ∀ k, k ∈ seen ↔ k ∈ seen') (l : List α) :
    firsts key seen l = firsts key seen' l := by
  induction l generalizing seen seen' with
  | nil => rfl
  | cons y l ih =>
    have hcons : ∀ k, k ∈ key y :: seen ↔ k ∈ key y :: seen' := by
      intro k
      rw [List.mem_cons, List.mem_cons, h k]
    rw [firsts_cons, firsts_cons, ih h, ih hcons]
    by_cases hy : key y ∈ seen
    · rw [if_pos hy, if_pos ((h _).mp hy)]
    · rw [if_neg hy, if_neg (fun hy' => hy ((h _).mpr hy'))]

lemma firsts_cons_seen {k : κ} (h : ∀ x ∈ l, key x ≠ k) :
    firsts key (k :: seen) l = firsts key seen l := by
  induction l generalizing seen with
  | nil => rfl
  | cons y l ih =>
    have hy := h y List.mem_cons_self
    have hrest : ∀ x ∈ l, key x ≠ k := fun x hx => h x (List.mem_cons_of_mem y hx)
    rw [firsts_cons, firsts_cons]
    by_cases hseen : key y ∈ seen
    · rw [if_pos hseen, if_pos (List.mem_cons_of_mem k hseen), ih hrest]
    · have hnot : key y ∉ k :: seen := by
        rw [List.mem_cons, not_or]
        exact ⟨hy, hseen⟩
      have hswap : firsts key (key y :: k :: seen) l = firsts key (k :: key y :: seen) l := by
        apply firsts_congr
        intro k'
        rw [List.mem_cons, List.mem_cons, List.mem_cons, List.mem_cons, or_left_comm]
      rw [if_neg hseen, if_neg hnot, hswap, ih hrest]

theorem filter_firsts {p : α → Bool} (hp : ∀ x y, key x = key y → p x = p y) (seen : List κ)
    (l : List α) : (firsts key seen l).filter p = firsts key seen (l.filter p) := by
  induction l generalizing seen with
  | nil => rfl
  | cons y l ih =>
    rw [firsts_cons, List.filter_cons]
    by_cases hpy : p y = true
    · rw [if_pos hpy, firsts_cons]
      split
      · exact ih seen
      · rw [List.filter_cons, if_pos hpy, ih]
    · rw [if_neg hpy]
      split
      · exact ih seen
      · rw [List.filter_cons, if_neg hpy, ih]
        apply firsts_cons_seen
        intro x hx hkey
        rw [List.mem_filter, hp x y hkey] at hx
        exact hpy hx.2

lemma mem_of_mem_firsts (h : x ∈ firsts key seen l) : x ∈ l :=
  List.mem_of_find?_eq_some (mem_firsts_iff.mp h).2

lemma firsts_of_seen (h : ∀ y ∈ l, key y ∈ seen) : firsts key seen l = [] := by
  induction l with
  | nil => rfl
  | cons y l ih =>
    rw [firsts_cons, if_pos (h y List.mem_cons_self)]
    exact ih (fun x hx => h x (List.mem_cons_of_mem y hx))

lemma firsts_append_of_seen {l' : List α} (h : ∀ y ∈ l', key y ∈ seen ∨ key y ∈ l.map key) :
    firsts key seen (l ++ l') = firsts key seen l := by
  induction l generalizing seen with
  | nil =>
    have hseen : ∀ y ∈ l', key y ∈ seen := by
      intro y hy
      exact (h y hy).resolve_right List.not_mem_nil
    rw [List.nil_append, firsts_of_seen hseen, firsts_nil]
  | cons x l ih =>
    rw [List.cons_append, firsts_cons, firsts_cons]
    split
    · rename_i hx
      apply ih
      intro y hy
      rcases h y hy with hy | hy
      · exact .inl hy
      · rcases List.mem_cons.mp hy with heq | hy
        · exact .inl (heq ▸ hx)
        · exact .inr hy
    · rw [ih]
      intro y hy
      rcases h y hy with hy | hy
      · exact .inl (List.mem_cons_of_mem _ hy)
      · rcases List.mem_cons.mp hy with heq | hy
        · exact .inl (heq ▸ List.mem_cons_self)
        · exact .inr hy

lemma mem_map_key_firsts {k : κ} (h : k ∈ l.map key) : k ∈ (firsts key [] l).map key := by
  obtain ⟨y, hy, rfl⟩ := List.mem_map.mp h
  have hsome : (l.find? (fun x => decide (key x = key y))).isSome := by
    rw [List.find?_isSome]
    exact ⟨y, hy, decide_eq_true rfl⟩
  obtain ⟨x, hx⟩ := Option.isSome_iff_exists.mp hsome
  have hkey : key x = key y := by simpa using List.find?_some hx
  refine List.mem_map.mpr ⟨x, mem_firsts_iff.mpr ⟨List.not_mem_nil, ?_⟩, hkey⟩
  rw [hkey]
  exact hx

theorem firsts_flatMap_of_copies {σ : Type} {f : σ → List α} {sources : List σ}
    (h : sources.Pairwise (fun s s' => f s = [] ∨ f s' = [] ∨
      (firsts key [] (f s)).map key = (firsts key [] (f s')).map key)) :
    sources.flatMap f = [] ∨ ∃ s ∈ sources, f s ≠ [] ∧
      firsts key [] (sources.flatMap f) = firsts key [] (f s) := by
  induction sources with
  | nil => exact .inl rfl
  | cons s sources ih =>
    rw [List.pairwise_cons] at h
    rw [List.flatMap_cons]
    by_cases hs : f s = []
    · rw [hs, List.nil_append]
      rcases ih h.2 with hnone | ⟨s', hs', hne, hfirsts⟩
      · exact .inl hnone
      · exact .inr ⟨s', List.mem_cons_of_mem s hs', hne, hfirsts⟩
    · refine .inr ⟨s, List.mem_cons_self, hs, firsts_append_of_seen ?_⟩
      intro y hy
      obtain ⟨s', hs', hy⟩ := List.mem_flatMap.mp hy
      rcases h.1 s' hs' with hnone | hnone | hsame
      · exact absurd hnone hs
      · rw [hnone] at hy
        cases hy
      · have hkey := mem_map_key_firsts (List.mem_map_of_mem (f := key) hy)
        rw [← hsame] at hkey
        obtain ⟨x, hx, heq⟩ := List.mem_map.mp hkey
        exact .inr (heq ▸ List.mem_map_of_mem (mem_of_mem_firsts hx))

end FirstSeen
