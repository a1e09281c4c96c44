import Mathlib.Data.List.DropRight
import Mathlib.Data.List.TakeWhile

/-!
# Trimming lists

A list without the elements at its two ends that satisfy a predicate.
-/

namespace Trimming

variable {α : Type} {p : α → Bool} {l s : List α}

def trim (p : α → Bool) (l : List α) : List α := (l.dropWhile p).rdropWhile p

def Trimmed (p : α → Bool) (l : List α) : Prop :=
  (∀ a ∈ l.head?, p a = false) ∧ ∀ a ∈ l.getLast?, p a = false

lemma dropWhile_eq_self (h : ∀ a ∈ l.head?, p a = false) : l.dropWhile p = l := by
  cases l with
  | nil => rfl
  | cons a as =>
    have ha := h a rfl
    rw [List.dropWhile_cons, ha]
    rfl

lemma rdropWhile_eq_self (h : ∀ a ∈ l.getLast?, p a = false) : l.rdropWhile p = l := by
  rw [List.rdropWhile_eq_self_iff]
  intro hne hp
  rw [h (l.getLast hne) (List.getLast?_eq_getLast_of_ne_nil hne)] at hp
  cases hp

lemma head_dropWhile (l : List α) : ∀ a ∈ (l.dropWhile p).head?, p a = false := by
  intro a ha
  have h := List.head?_dropWhile_not p l
  rw [Option.mem_def.mp ha] at h
  exact h

lemma getLast_rdropWhile (l : List α) : ∀ a ∈ (l.rdropWhile p).getLast?, p a = false := by
  intro a ha
  rw [List.rdropWhile, List.getLast?_reverse] at ha
  exact head_dropWhile l.reverse a ha

lemma head?_rdropWhile (h : l.rdropWhile p ≠ []) : (l.rdropWhile p).head? = l.head? := by
  obtain ⟨back, hl⟩ := List.rdropWhile_prefix p l
  cases hr : l.rdropWhile p with
  | nil => exact absurd hr h
  | cons a as =>
    rw [hr] at hl
    rw [← hl]
    rfl

theorem trimmed_trim (l : List α) : Trimmed p (trim p l) := by
  constructor
  · intro a ha
    rw [trim] at ha
    by_cases hne : (l.dropWhile p).rdropWhile p = []
    · rw [hne] at ha
      cases ha
    · rw [head?_rdropWhile hne] at ha
      exact head_dropWhile l a ha
  · exact getLast_rdropWhile _

theorem trim_eq_self (h : Trimmed p l) : trim p l = l := by
  rw [trim, dropWhile_eq_self h.1, rdropWhile_eq_self h.2]

lemma trim_infix (l : List α) : trim p l <:+: l :=
  (List.rdropWhile_prefix p _).isInfix.trans (List.dropWhile_suffix p).isInfix

theorem trim_trim (l : List α) : trim p (trim p l) = trim p l := trim_eq_self (trimmed_trim l)

lemma rdropWhile_append (h : ∀ a ∈ s.getLast?, p a = false) (l : List α) :
    (s ++ l).rdropWhile p = s ++ l.rdropWhile p := by
  have hs : s.reverse.dropWhile p = s.reverse := by
    apply dropWhile_eq_self
    rw [List.head?_reverse]
    exact h
  rw [List.rdropWhile, List.reverse_append, List.dropWhile_append]
  by_cases hl : (l.reverse.dropWhile p).isEmpty = true
  · rw [if_pos hl, hs, List.reverse_reverse, List.rdropWhile, List.isEmpty_iff.mp hl,
      List.reverse_nil, List.append_nil]
  · rw [if_neg hl, List.reverse_append, List.reverse_reverse, List.rdropWhile]

theorem trim_append (hne : s ≠ []) (h : Trimmed p s) (l : List α) :
    trim p (s ++ l) = s ++ l.rdropWhile p := by
  have hstart : (s ++ l).dropWhile p = s ++ l := by
    apply dropWhile_eq_self
    rw [List.head?_append_of_ne_nil s hne]
    exact h.1
  rw [trim, hstart, rdropWhile_append h.2]

end Trimming
