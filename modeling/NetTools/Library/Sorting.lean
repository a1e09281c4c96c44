import Mathlib.Data.List.Sort

/-!
# Sorted lists

`ORDER BY … LIMIT n` as a prefix of the sorted list: what is certain to be read. A list that is
sorted by a key comes out the same from every order, when no two of its elements share a key.
-/

namespace Sorting

variable {α : Type} {r : α → α → Prop} [DecidableRel r] [Std.Total r] [IsTrans α r]

theorem mem_take_insertionSort {l : List α} {x : α} (hx : x ∈ l) (before : α → Bool)
    (hbefore : ∀ y ∈ l, r y x → y = x ∨ before y = true) {n : ℕ}
    (hn : (l.filter before).length < n) : x ∈ (l.insertionSort r).take n := by
  have hperm : (l.insertionSort r).Perm l := List.perm_insertionSort r l
  have hmem : x ∈ l.insertionSort r := (List.mem_insertionSort r).mpr hx
  obtain ⟨pre, post, hsplit, hnotin⟩ := List.eq_append_cons_of_mem hmem
  have hsorted := List.pairwise_insertionSort r l
  rw [hsplit, List.pairwise_append] at hsorted
  have hpre : ∀ y ∈ pre, before y = true := by
    intro y hy
    have hyl : y ∈ l := (List.mem_insertionSort r).mp (hsplit ▸ List.mem_append_left _ hy)
    rcases hbefore y hyl (hsorted.2.2 y hy x (by simp)) with rfl | hb
    · exact absurd hy hnotin
    · exact hb
  have hlength : pre.length ≤ (l.filter before).length := by
    have hcount := (hperm.filter before).length_eq
    rw [hsplit, List.filter_append, List.filter_eq_self.mpr hpre, List.length_append] at hcount
    omega
  rw [hsplit, List.take_append]
  refine List.mem_append_right _ ?_
  obtain ⟨k, hk⟩ := Nat.exists_eq_add_of_lt (hlength.trans_lt hn)
  rw [hk, show pre.length + k + 1 - pre.length = k + 1 by omega]
  simp

theorem pairwise_insertionSort_key {β κ : Type} [LinearOrder κ] (key : β → κ) (l : List β) :
    (l.insertionSort (key · ≤ key ·)).Pairwise (key · ≤ key ·) := by
  have : Std.Total (fun x y : β => key x ≤ key y) := ⟨fun x y => le_total (key x) (key y)⟩
  have : IsTrans β (fun x y => key x ≤ key y) := ⟨fun x y z => le_trans⟩
  exact List.pairwise_insertionSort _ l

theorem insertionSort_key_eq_of_perm {β κ : Type} [LinearOrder κ] (key : β → κ) {l l' : List β}
    (hperm : l.Perm l') (hkey : ∀ x ∈ l, ∀ y ∈ l, key x = key y → x = y) :
    l.insertionSort (key · ≤ key ·) = l'.insertionSort (key · ≤ key ·) := by
  have hsorted := List.perm_insertionSort (key · ≤ key ·) l
  have hsorted' := List.perm_insertionSort (key · ≤ key ·) l'
  have : Std.Total (fun x y : β => key x ≤ key y) := ⟨fun x y => le_total (key x) (key y)⟩
  have : IsTrans β (fun x y => key x ≤ key y) := ⟨fun x y z => le_trans⟩
  apply List.Perm.eq_of_pairwise ?_ (List.pairwise_insertionSort _ l)
    (List.pairwise_insertionSort _ l') ((hsorted.trans hperm).trans hsorted'.symm)
  intro x y hx hy hxy hyx
  exact hkey x (hsorted.mem_iff.mp hx) y (hperm.mem_iff.mpr (hsorted'.mem_iff.mp hy))
    (le_antisymm hxy hyx)

theorem insertionSort_desc_of_pairwise {β κ : Type} [LinearOrder κ] (key : β → κ) {l : List β}
    (h : l.Pairwise (key · < key ·)) :
    l.insertionSort (fun x y => key y ≤ key x) = l.reverse := by
  have hdesc : l.reverse.Pairwise (fun x y => key y ≤ key x) :=
    List.pairwise_reverse.mpr (h.imp fun hlt => hlt.le)
  have hperm := List.perm_insertionSort (fun x y : β => key y ≤ key x) l
  have : Std.Total (fun x y : β => key y ≤ key x) := ⟨fun x y => le_total (key y) (key x)⟩
  have : IsTrans β (fun x y => key y ≤ key x) := ⟨fun x y z hxy hyz => hyz.trans hxy⟩
  apply List.Perm.eq_of_pairwise ?_ (List.pairwise_insertionSort _ l) hdesc
    (hperm.trans (List.reverse_perm l).symm)
  intro x y hx hy hyx hxy
  have hnodup : (l.map key).Nodup := List.pairwise_map.mpr (h.imp fun hlt => ne_of_lt hlt)
  exact List.inj_on_of_nodup_map hnodup (hperm.mem_iff.mp hx) (List.mem_reverse.mp hy)
    (le_antisymm hxy hyx)

section Lookup

variable {κ β : Type} [BEq κ] [LawfulBEq κ] [Preorder κ] [DecidableLE κ]

lemma lookup_orderedInsert (entry : κ × β) (entries : List (κ × β)) (k : κ) :
    (entries.orderedInsert (fun a b => a.1 ≤ b.1) entry).lookup k =
      (entry :: entries).lookup k := by
  induction entries with
  | nil => rfl
  | cons head rest ih =>
    rw [List.orderedInsert]
    by_cases hle : entry.1 ≤ head.1
    · rw [if_pos hle]
    · rw [if_neg hle, List.lookup_cons, ih, List.lookup_cons, List.lookup_cons, List.lookup_cons]
      by_cases hhead : k = head.1
      · -- the entry went behind a head that it does not share the key with
        have hentry : k ≠ entry.1 := fun h => hle (h ▸ hhead ▸ le_rfl)
        rw [beq_false_of_ne hentry]
      · rw [beq_false_of_ne hhead]

theorem lookup_insertionSort (entries : List (κ × β)) (k : κ) :
    (entries.insertionSort (fun a b => a.1 ≤ b.1)).lookup k = entries.lookup k := by
  induction entries with
  | nil => rfl
  | cons entry rest ih =>
    rw [List.insertionSort_cons, lookup_orderedInsert, List.lookup_cons, ih, List.lookup_cons]

end Lookup

end Sorting
