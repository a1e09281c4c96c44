import Mathlib.Data.List.TakeWhile
import Mathlib.Order.Lattice
import Mathlib.Order.Nat

/-!
# The longest window of a sorted list

Two pointers go along a sorted list, the left one past everything that is too far from the right
one. What they find is the largest choice of elements no two of which are too far apart.
-/

namespace Busiest

variable {α : Type} (far : α → α → Bool) (l : List α)

/-- The variables of the scan: the longest window so far, and where the present one begins. -/
structure Pointers where
  best : Nat := 0
  left : Nat := 0

def Pointers.step (s : Pointers) (item : α × Nat) : Pointers :=
  let left := s.left + ((l.drop s.left).takeWhile (fun a => far a item.1)).length
  { best := max s.best (item.2 + 1 - left), left := left }

def scan : Nat := (l.zipIdx.foldl (Pointers.step far l) {}).best

def Near (choice : List α) : Prop := choice.Pairwise (fun a b => far a b = false)

variable [Preorder α]

/-- What is farther apart than something too far is too far, and nothing is far from itself. -/
structure Widening : Prop where
  self : ∀ a, far a a = false
  mono : ∀ {a' a b b'}, a' ≤ a → a ≤ b → b ≤ b' → far a b = true → far a' b' = true

/-- What the pointers know of the elements that they have passed. -/
structure Scanned (passed : List α) (s : Pointers) : Prop where
  left_le : s.left ≤ passed.length
  dropped : ∀ a ∈ passed.take s.left, ∀ b, (∀ e ∈ passed, e ≤ b) → far a b = true
  near : Near far (passed.drop s.left)
  upper : ∀ choice, choice.Sublist passed → Near far choice → choice.length ≤ s.best
  attained : ∃ choice, choice.Sublist passed ∧ Near far choice ∧ choice.length = s.best

variable {far l}

lemma Widening.dropWhile_eq_filter (h : Widening far) {window : List α}
    (hsorted : window.Pairwise (· ≤ ·)) {x : α} (hx : ∀ a ∈ window, a ≤ x) :
    window.dropWhile (fun a => far a x) = window.filter (fun a => !far a x) := by
  induction window with
  | nil => rfl
  | cons a window ih =>
    rw [List.pairwise_cons] at hsorted
    have hrest := ih hsorted.2 (fun b hb => hx b (List.mem_cons_of_mem a hb))
    cases hfar : far a x with
    | true => rw [List.dropWhile_cons, List.filter_cons, hfar, if_pos rfl, hrest]; rfl
    | false =>
      have hself : (a :: window).filter (fun b => !far b x) = a :: window := by
        rw [List.filter_eq_self]
        intro b hb
        rw [Bool.not_eq_true']
        rcases List.mem_cons.mp hb with rfl | hb
        · exact hfar
        · by_contra hb'
          have hmono := h.mono (hsorted.1 b hb) (hx b (List.mem_cons_of_mem a hb)) (le_refl x)
            (Bool.of_not_eq_false hb')
          rw [hfar] at hmono
          cases hmono
      rw [hself, List.dropWhile_cons, hfar]
      rfl

lemma scanned_nil : Scanned far ([] : List α) {} where
  left_le := le_refl 0
  dropped := by
    intro a ha
    cases ha
  near := List.Pairwise.nil
  upper := by
    intro choice hsub _
    rw [List.sublist_nil.mp hsub]
    exact le_refl 0
  attained := ⟨[], List.Sublist.refl _, List.Pairwise.nil, rfl⟩

lemma Scanned.step (h : Widening far) {passed rest : List α} {x : α} {s : Pointers}
    (hs : Scanned far passed s) (hl : l = passed ++ x :: rest)
    (hsorted : (passed ++ [x]).Pairwise (· ≤ ·)) :
    Scanned far (passed ++ [x]) (s.step far l (x, passed.length)) := by
  rw [List.pairwise_append] at hsorted
  have hx : ∀ a ∈ passed, a ≤ x := fun a ha => hsorted.2.2 a ha x (List.mem_singleton_self x)
  have hdropsorted : (passed.drop s.left).Pairwise (· ≤ ·) :=
    hsorted.1.sublist (List.drop_sublist _ _)
  have hdropx : ∀ a ∈ passed.drop s.left, a ≤ x := fun a ha => hx a (List.mem_of_mem_drop ha)
  -- the left pointer stops at the right one at the latest
  have hstop : (l.drop s.left).takeWhile (fun a => far a x) =
      (passed.drop s.left).takeWhile (fun a => far a x) := by
    rw [hl, List.drop_append_of_le_length hs.left_le, List.takeWhile_append]
    split
    · rename_i hall
      rw [List.takeWhile_cons, h.self x]
      simpa using ((List.takeWhile_prefix _).eq_of_length hall).symm
    · rfl
  obtain ⟨k, hk⟩ : ∃ k, ((passed.drop s.left).takeWhile (fun a => far a x)).length = k := ⟨_, rfl⟩
  have hstep : s.step far l (x, passed.length) =
      { best := max s.best (passed.length + 1 - (s.left + k)), left := s.left + k } := by
    rw [Pointers.step, hstop, hk]
  have hkle : s.left + k ≤ passed.length := by
    have hle := (List.takeWhile_sublist (l := passed.drop s.left) (fun a => far a x)).length_le
    rw [hk, List.length_drop] at hle
    have := hs.left_le
    omega
  have hcut := List.takeWhile_append_dropWhile (p := fun a => far a x) (l := passed.drop s.left)
  have hdrop : (passed ++ [x]).drop (s.left + k) =
      (passed.drop s.left).filter (fun a => !far a x) ++ [x] := by
    have hwhile : (passed.drop s.left).drop k =
        (passed.drop s.left).dropWhile (fun a => far a x) := by
      conv_lhs => rw [← hcut]
      exact List.drop_left' hk
    rw [List.drop_append_of_le_length hkle, ← h.dropWhile_eq_filter hdropsorted hdropx, ← hwhile,
      List.drop_drop]
  have hnear : Near far ((passed ++ [x]).drop (s.left + k)) := by
    rw [hdrop]
    apply List.pairwise_append.mpr
    refine ⟨hs.near.sublist List.filter_sublist, List.pairwise_singleton _ _, ?_⟩
    intro a ha b hb
    rw [List.mem_singleton.mp hb]
    simpa using (List.mem_filter.mp ha).2
  have hlength : ((passed ++ [x]).drop (s.left + k)).length =
      passed.length + 1 - (s.left + k) := by
    rw [List.length_drop, List.length_append, List.length_singleton]
  rw [hstep]
  refine ⟨?_, ?_, hnear, ?_, ?_⟩
  · rw [List.length_append]
    exact hkle.trans (Nat.le_add_right _ _)
  · intro a ha b hb
    have hb' : ∀ e ∈ passed, e ≤ b := fun e he => hb e (List.mem_append_left _ he)
    have hxb : x ≤ b := hb x (List.mem_append_right _ (List.mem_singleton_self x))
    rw [List.take_append_of_le_length hkle, List.take_add, List.mem_append] at ha
    rcases ha with ha | ha
    · exact hs.dropped a ha b hb'
    · have hwhile : (passed.drop s.left).take k =
          (passed.drop s.left).takeWhile (fun a => far a x) := by
        conv_lhs => rw [← hcut]
        exact List.take_left' hk
      have hax : a ≤ x := hdropx a (List.mem_of_mem_take ha)
      rw [hwhile] at ha
      exact h.mono (le_refl a) hax hxb (List.mem_takeWhile_imp (p := fun a => far a x) ha)
  · intro choice hsub hchoice
    obtain ⟨front, last, rfl, hfront, hlast⟩ := List.sublist_append_iff.mp hsub
    rw [Near, List.pairwise_append] at hchoice
    rcases List.sublist_cons_iff.mp hlast with hnone | ⟨tail, rfl, htail⟩
    · rw [List.sublist_nil] at hnone
      subst hnone
      rw [List.append_nil]
      exact (hs.upper front hfront hchoice.1).trans (le_max_left _ _)
    · rw [List.sublist_nil] at htail
      subst htail
      -- nothing that the left pointer has passed is near to the last element
      have hself : front.filter (fun a => !far a x) = front := by
        rw [List.filter_eq_self]
        intro a ha
        rw [hchoice.2.2 a ha x (List.mem_singleton_self x)]
        rfl
      have hpassed : passed.filter (fun a => !far a x) =
          (passed.drop s.left).filter (fun a => !far a x) := by
        conv_lhs => rw [← List.take_append_drop s.left passed, List.filter_append]
        rw [List.append_left_eq_self, List.filter_eq_nil_iff]
        intro a ha
        rw [hs.dropped a ha x hx]
        exact Bool.false_ne_true
      have hle := (hfront.filter (fun a => !far a x)).length_le
      rw [hself, hpassed] at hle
      have hwindow := congrArg List.length hdrop
      rw [hlength, List.length_append, List.length_singleton] at hwindow
      rw [List.length_append, List.length_singleton]
      have hbest : front.length + 1 ≤ passed.length + 1 - (s.left + k) := by omega
      exact hbest.trans (le_max_right _ _)
  · rcases le_total s.best (passed.length + 1 - (s.left + k)) with hle | hle
    · exact ⟨_, List.drop_sublist _ _, hnear, hlength.trans (max_eq_right hle).symm⟩
    · obtain ⟨choice, hsub, hchoice, hbest⟩ := hs.attained
      exact ⟨choice, hsub.trans (List.sublist_append_left _ _), hchoice,
        hbest.trans (max_eq_left hle).symm⟩

lemma scanned_foldl (h : Widening far) (passed rest : List α) (hsorted : l.Pairwise (· ≤ ·))
    (hl : l = passed ++ rest) {s : Pointers} (hs : Scanned far passed s) :
    Scanned far l ((rest.zipIdx passed.length).foldl (Pointers.step far l) s) := by
  induction rest generalizing passed s with
  | nil =>
    rw [List.append_nil] at hl
    rw [List.zipIdx_nil, List.foldl_nil, hl]
    exact hs
  | cons x rest ih =>
    rw [List.zipIdx_cons, List.foldl_cons]
    have hl' : l = (passed ++ [x]) ++ rest := by rw [hl, List.append_assoc]; rfl
    have hsorted' : (passed ++ [x]).Pairwise (· ≤ ·) := by
      rw [hl'] at hsorted
      exact (List.pairwise_append.mp hsorted).1
    have hnext := ih (passed ++ [x]) hl' (hs.step h hl hsorted')
    rw [List.length_append, List.length_singleton] at hnext
    exact hnext

lemma scanned_scan (h : Widening far) (hsorted : l.Pairwise (· ≤ ·)) :
    Scanned far l (l.zipIdx.foldl (Pointers.step far l) {}) :=
  scanned_foldl h [] l hsorted rfl scanned_nil

theorem length_le_scan (h : Widening far) (hsorted : l.Pairwise (· ≤ ·)) {choice : List α}
    (hsub : choice.Sublist l) (hnear : Near far choice) : choice.length ≤ scan far l :=
  (scanned_scan h hsorted).upper choice hsub hnear

theorem exists_length_eq_scan (h : Widening far) (hsorted : l.Pairwise (· ≤ ·)) :
    ∃ choice, choice.Sublist l ∧ Near far choice ∧ choice.length = scan far l :=
  (scanned_scan h hsorted).attained

end Busiest
