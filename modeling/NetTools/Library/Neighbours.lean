import Mathlib.Data.List.SplitBy

/-!
# Neighbours in a list

What a list is cut into where neighbours are not related, and what is read off each two
neighbours. Both depend on the neighbours only.
-/

namespace Neighbours

variable {α β γ : Type} {r r' : α → α → Bool} {l : List α}

/-- `f` of each two neighbours. -/
def read (f : α → α → β) : List α → List β
  | a :: b :: l => f a b :: read f (b :: l)
  | _ => []

lemma read_concat (f : α → α → β) (l : List α) (a b : α) :
    read f (l ++ [a] ++ [b]) = read f (l ++ [a]) ++ [f a b] := by
  induction l with
  | nil => rfl
  | cons c l ih =>
    cases l with
    | nil => rfl
    | cons d l =>
      have hcut : ∀ rest, read f (c :: d :: rest) = f c d :: read f (d :: rest) := fun _ => rfl
      have hleft := hcut (l ++ [a] ++ [b])
      have hright := hcut (l ++ [a])
      exact hleft.trans ((congrArg _ ih).trans (congrArg (· ++ [f a b]) hright.symm))

lemma read_map (f : β → β → γ) (g : α → β) (l : List α) :
    read f (l.map g) = read (fun a b => f (g a) (g b)) l := by
  induction l with
  | nil => rfl
  | cons a l ih =>
    cases l with
    | nil => rfl
    | cons b l => exact congrArg _ ih

lemma map_read (f : α → α → β) (g : β → γ) (l : List α) :
    (read f l).map g = read (fun a b => g (f a b)) l := by
  induction l with
  | nil => rfl
  | cons a l ih =>
    cases l with
    | nil => rfl
    | cons b l => exact congrArg _ ih

lemma read_congr {f g : α → α → β} (h : l.IsChain (fun a b => f a b = g a b)) :
    read f l = read g l := by
  induction l with
  | nil => rfl
  | cons a l ih =>
    cases l with
    | nil => rfl
    | cons b l =>
      rw [List.isChain_cons_cons] at h
      rw [read, read, h.1, ih h.2]

theorem splitBy_cons_cons (r : α → α → Bool) (a b : α) (l : List α) :
    (a :: b :: l).splitBy r =
      if r a b = true then ((b :: l).splitBy r).modifyHead (a :: ·)
      else [a] :: (b :: l).splitBy r := by
  by_cases h : r a b = true
  · rw [if_pos h, List.splitBy_eq_iff]
    obtain ⟨hflat, hnil, hchain, hcut⟩ := List.splitBy_eq_iff.mp (rfl : (b :: l).splitBy r = _)
    generalize (b :: l).splitBy r = pieces at hflat hnil hchain hcut
    cases pieces with
    | nil => cases hflat
    | cons piece pieces =>
      cases piece with
      | nil => exact absurd List.mem_cons_self hnil
      | cons c piece =>
        obtain ⟨rfl, hrest⟩ := List.cons_eq_cons.mp hflat
        rw [List.modifyHead_cons]
        refine ⟨?_, ?_, ?_, ?_⟩
        · rw [hrest]
          rfl
        · rw [List.mem_cons, not_or]
          exact ⟨List.cons_ne_nil _ _ |>.symm, fun hmem => hnil (List.mem_cons_of_mem _ hmem)⟩
        · intro m hm
          rcases List.mem_cons.mp hm with rfl | hm
          · exact List.isChain_cons_cons.mpr ⟨h, hchain _ List.mem_cons_self⟩
          · exact hchain m (List.mem_cons_of_mem _ hm)
        · rw [List.isChain_cons] at hcut ⊢
          refine ⟨?_, hcut.2⟩
          intro next hnext
          obtain ⟨hleft, hright, hfalse⟩ := hcut.1 next hnext
          refine ⟨List.cons_ne_nil _ _, hright, ?_⟩
          rw [List.getLast_cons hleft]
          exact hfalse
  · rw [if_neg h]
    have hcut := List.splitBy_append_cons (r := r) (l := [a]) (a := b) l (by simpa using h)
    exact hcut

theorem isChain_of_splitBy_eq (h : l.splitBy r = l.splitBy r') :
    l.IsChain (fun a b => r a b = r' a b) := by
  induction l with
  | nil => exact List.IsChain.nil
  | cons a l ih =>
    cases l with
    | nil => exact List.IsChain.singleton a
    | cons b l =>
      have hfirst : ∀ r : α → α → Bool, ∃ piece pieces, (b :: l).splitBy r = piece :: pieces ∧
          piece ≠ [] := by
        intro r
        obtain ⟨piece, pieces, hpieces⟩ := List.exists_cons_of_ne_nil
          (List.splitBy_ne_nil.mpr (List.cons_ne_nil b l) : (b :: l).splitBy r ≠ [])
        refine ⟨piece, pieces, hpieces, ?_⟩
        apply List.ne_nil_of_mem_splitBy (r := r) (l := b :: l)
        rw [hpieces]
        exact List.mem_cons_self
      obtain ⟨piece, pieces, hpieces, hpiece⟩ := hfirst r
      obtain ⟨piece', pieces', hpieces', hpiece'⟩ := hfirst r'
      rw [splitBy_cons_cons, splitBy_cons_cons, hpieces, hpieces'] at h
      rw [hpieces, hpieces'] at ih
      rw [List.isChain_cons_cons]
      by_cases hr : r a b = true
      · by_cases hr' : r' a b = true
        · rw [if_pos hr, if_pos hr', List.modifyHead_cons, List.modifyHead_cons] at h
          injection h with hhead htail
          injection hhead with _ hhead
          exact ⟨hr.trans hr'.symm, ih (by rw [hhead, htail])⟩
        · rw [if_pos hr, if_neg hr', List.modifyHead_cons] at h
          injection h with hhead
          injection hhead with _ hhead
          exact absurd hhead hpiece
      · by_cases hr' : r' a b = true
        · rw [if_neg hr, if_pos hr', List.modifyHead_cons] at h
          injection h with hhead
          injection hhead with _ hhead
          exact absurd hhead.symm hpiece'
        · rw [if_neg hr, if_neg hr'] at h
          injection h with _ htail
          rw [Bool.not_eq_true] at hr hr'
          exact ⟨hr.trans hr'.symm, ih htail⟩

theorem splitBy_congr (h : l.IsChain (fun a b => r a b = r' a b)) :
    l.splitBy r = l.splitBy r' := by
  induction l with
  | nil => rfl
  | cons a l ih =>
    cases l with
    | nil => rfl
    | cons b l =>
      rw [List.isChain_cons_cons] at h
      rw [splitBy_cons_cons, splitBy_cons_cons, h.1, ih h.2]

lemma splitBy_map (r : β → β → Bool) (f : α → β) (l : List α) :
    (l.map f).splitBy r = (l.splitBy (fun a b => r (f a) (f b))).map (List.map f) := by
  induction l with
  | nil => rfl
  | cons a l ih =>
    cases l with
    | nil => rfl
    | cons b l =>
      rw [List.map_cons] at ih
      rw [List.map_cons, List.map_cons, splitBy_cons_cons, splitBy_cons_cons, ih]
      by_cases h : r (f a) (f b) = true
      · rw [if_pos h, if_pos h]
        cases (b :: l).splitBy (fun a b => r (f a) (f b)) with
        | nil => rfl
        | cons piece pieces => rfl
      · rw [if_neg h, if_neg h]
        rfl

lemma isChain_of_mem_splitBy {P : α → α → Prop} (h : l.IsChain P) {piece : List α}
    (hpiece : piece ∈ l.splitBy r) : piece.IsChain P := by
  rw [← List.flatten_splitBy r l, List.isChain_flatten (List.nil_notMem_splitBy r l)] at h
  exact h.1 piece hpiece

lemma isChain_and {P Q : α → α → Prop} (hP : l.IsChain P) (hQ : l.IsChain Q) :
    l.IsChain (fun a b => P a b ∧ Q a b) := by
  rw [List.isChain_iff_forall_rel_of_append_cons_cons] at hP hQ ⊢
  intro a b front back h
  exact ⟨hP h, hQ h⟩

lemma eq_of_map_eq {f : α → β} {l l' : List α}
    (hinjective : ∀ a ∈ l, ∀ b ∈ l', f a = f b → a = b) (h : l.map f = l'.map f) : l = l' := by
  induction l generalizing l' with
  | nil =>
    rw [List.map_nil] at h
    exact (List.map_eq_nil_iff.mp h.symm).symm
  | cons a l ih =>
    obtain ⟨b, l', rfl, hhead, htail⟩ := List.map_eq_cons_iff.mp h.symm
    rw [hinjective a List.mem_cons_self b List.mem_cons_self hhead.symm,
      ih (fun a ha b hb => hinjective a (List.mem_cons_of_mem _ ha) b (List.mem_cons_of_mem _ hb))
        htail.symm]

/-- Whether each element begins a piece of two and more, `inside` for a first element that one
has begun before. -/
def begins (r : α → α → Bool) : Bool → List α → List Bool
  | inside, a :: b :: l => (r a b && !inside) :: begins r (r a b) (b :: l)
  | _, _ => []

lemma length_begins (r : α → α → Bool) (inside : Bool) (l : List α) :
    (begins r inside l).length = l.length - 1 := by
  induction l generalizing inside with
  | nil => rfl
  | cons a l ih =>
    cases l with
    | nil => rfl
    | cons b l =>
      rw [begins, List.length_cons, ih]
      rfl

lemma count_begins_cons (r : α → α → Bool) (a : α) (l : List α) :
    (begins r true (a :: l)).count true =
        ((a :: l).splitBy r).tail.countP (fun piece => 2 ≤ piece.length) ∧
      (begins r false (a :: l)).count true =
        ((a :: l).splitBy r).countP (fun piece => 2 ≤ piece.length) := by
  induction l generalizing a with
  | nil => exact ⟨rfl, rfl⟩
  | cons b l ih =>
    obtain ⟨hinside, houtside⟩ := ih b
    obtain ⟨piece, pieces, hpieces⟩ := List.exists_cons_of_ne_nil
      (List.splitBy_ne_nil.mpr (List.cons_ne_nil b l) : (b :: l).splitBy r ≠ [])
    have hpiece : piece ≠ [] := by
      apply List.ne_nil_of_mem_splitBy (r := r) (l := b :: l)
      rw [hpieces]
      exact List.mem_cons_self
    rw [hpieces, List.tail_cons] at hinside
    rw [hpieces] at houtside
    rw [begins, begins, splitBy_cons_cons, hpieces]
    by_cases hr : r a b = true
    · have hlong : 2 ≤ (a :: piece).length := by
        have hpos := List.length_pos_iff.mpr hpiece
        rw [List.length_cons]
        omega
      rw [if_pos hr, hr, List.modifyHead_cons, List.tail_cons, List.count_cons, List.count_cons,
        List.countP_cons, hinside, decide_eq_true hlong]
      exact ⟨rfl, rfl⟩
    · rw [Bool.not_eq_true] at hr
      have hshort : List.countP (fun piece : List α => decide (2 ≤ piece.length))
          ([a] :: piece :: pieces) = (piece :: pieces).countP (fun piece => 2 ≤ piece.length) :=
        List.countP_cons_of_neg (by simp)
      rw [hr, if_neg Bool.false_ne_true, List.tail_cons, List.count_cons, List.count_cons,
        hshort, houtside]
      exact ⟨rfl, rfl⟩

theorem count_begins (r : α → α → Bool) (l : List α) :
    (begins r false l).count true = (l.splitBy r).countP (fun piece => 2 ≤ piece.length) := by
  cases l with
  | nil => rfl
  | cons a l => exact (count_begins_cons r a l).2

lemma begins_map (r : β → β → Bool) (f : α → β) (inside : Bool) (l : List α) :
    begins r inside (l.map f) = begins (fun a b => r (f a) (f b)) inside l := by
  induction l generalizing inside with
  | nil => rfl
  | cons a l ih =>
    cases l with
    | nil => rfl
    | cons b l => exact congrArg _ (ih _)

lemma begins_congr {inside : Bool} (h : l.IsChain (fun a b => r a b = r' a b)) :
    begins r inside l = begins r' inside l := by
  induction l generalizing inside with
  | nil => rfl
  | cons a l ih =>
    cases l with
    | nil => rfl
    | cons b l =>
      rw [List.isChain_cons_cons] at h
      rw [begins, begins, h.1, ih h.2]

lemma count_true_eq_iff {answers answers' : List Bool} (h : answers.length = answers'.length) :
    answers.count true = answers'.count true ↔
      (answers.zip answers').count (true, false) = (answers.zip answers').count (false, true) := by
  have hsum : answers.count true + (answers.zip answers').count (false, true) =
      answers'.count true + (answers.zip answers').count (true, false) := by
    induction answers generalizing answers' with
    | nil =>
      rw [List.length_nil, eq_comm, List.length_eq_zero_iff] at h
      rw [h]
      rfl
    | cons x answers ih =>
      cases answers' with
      | nil => cases h
      | cons y answers' =>
        have hrest := ih (Nat.succ_injective h)
        rw [List.zip_cons_cons, List.count_cons, List.count_cons, List.count_cons, List.count_cons]
        cases x <;> cases y <;> simp <;> omega
  omega

end Neighbours
