import Mathlib.Data.List.Forall2

/-!
# Validation

Checks that fail with an error, one after the other: what it takes for all of them to pass.
-/

namespace Validation

variable {ε α β : Type}

def require (condition : Bool) (error : ε) : Except ε Unit :=
  if condition then .ok () else .error error

/-- The checks of a list, with the position of each element from `position` on. -/
def forEach (check : Nat → α → Except ε Unit) : Nat → List α → Except ε Unit
  | _, [] => .ok ()
  | position, a :: as => do
    check position a
    forEach check (position + 1) as

lemma bind_eq_ok_iff {x : Except ε α} {f : α → Except ε β} {b : β} :
    (x >>= f) = .ok b ↔ ∃ a, x = .ok a ∧ f a = .ok b := by
  cases x with
  | error e =>
    constructor
    · intro h
      cases h
    · rintro ⟨a, h, -⟩
      cases h
  | ok a =>
    constructor
    · intro h
      exact ⟨a, rfl, h⟩
    · rintro ⟨a', h, hf⟩
      cases h
      exact hf

@[simp] lemma require_eq_ok_iff {condition : Bool} {error : ε} {u : Unit} :
    require condition error = .ok u ↔ condition = true := by
  unfold require
  cases condition <;> simp

theorem forEach_eq_ok_iff {check : Nat → α → Except ε Unit} {position : Nat} {l : List α}
    {u : Unit} :
    forEach check position l = .ok u ↔
      ∀ index a, l[index]? = some a → check (position + index) a = .ok () := by
  induction l generalizing position with
  | nil => simp [forEach]
  | cons a as ih =>
    rw [forEach, bind_eq_ok_iff]
    constructor
    · rintro ⟨passed, ha, has⟩ index b hb
      cases index with
      | zero =>
        cases hb
        exact ha
      | succ index =>
        have h := ih.mp has index b hb
        rw [Nat.add_right_comm] at h
        exact h
    · intro h
      refine ⟨(), h 0 a rfl, ih.mpr ?_⟩
      intro index b hb
      have h' := h (index + 1) b hb
      rw [← Nat.add_assoc, Nat.add_right_comm] at h'
      exact h'

theorem mapM_eq_ok_iff {f : α → Except ε β} {l : List α} {answers : List β} :
    l.mapM f = .ok answers ↔ List.Forall₂ (fun a b => f a = .ok b) l answers := by
  induction l generalizing answers with
  | nil =>
    rw [List.mapM_nil, List.forall₂_nil_left_iff]
    constructor
    · intro h
      cases h
      rfl
    · rintro rfl
      rfl
  | cons a as ih =>
    rw [List.mapM_cons, bind_eq_ok_iff, List.forall₂_cons_left_iff]
    constructor
    · rintro ⟨b, hb, hrest⟩
      obtain ⟨bs, hbs, hanswers⟩ := bind_eq_ok_iff.mp hrest
      cases hanswers
      exact ⟨b, bs, hb, ih.mp hbs, rfl⟩
    · rintro ⟨b, bs, hb, hbs, rfl⟩
      exact ⟨b, hb, bind_eq_ok_iff.mpr ⟨bs, ih.mpr hbs, rfl⟩⟩

lemma exists_mapM_eq_ok_iff {f : α → Except ε β} {l : List α} :
    (∃ answers, l.mapM f = .ok answers) ↔ ∀ a ∈ l, ∃ b, f a = .ok b := by
  simp only [mapM_eq_ok_iff]
  induction l with
  | nil => simp
  | cons a as ih =>
    rw [List.forall_mem_cons, ← ih]
    constructor
    · rintro ⟨answers, hanswers⟩
      obtain ⟨b, bs, hb, hbs, -⟩ := List.forall₂_cons_left_iff.mp hanswers
      exact ⟨⟨b, hb⟩, bs, hbs⟩
    · rintro ⟨⟨b, hb⟩, bs, hbs⟩
      exact ⟨b :: bs, List.Forall₂.cons hb hbs⟩

end Validation
