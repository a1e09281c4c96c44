import Mathlib.Data.List.Basic

/-!
# Bounded search

What is reached from a start in at most so many hops, and what a search by rounds keeps: the
elements seen so far, the frontier that is still to be explored, and whether a mark was met.
-/

namespace Hops

variable {α : Type} (R : α → α → Prop) (start : α)

/-- Reached in at most `n` hops. -/
def Within : ℕ → α → Prop
  | 0, y => y = start
  | n + 1, y => Within n y ∨ ∃ x, Within n x ∧ R x y

variable {R start} {n m : ℕ} {x y : α}

lemma Within.succ (h : Within R start n y) : Within R start (n + 1) y := .inl h

lemma Within.hop (h : Within R start n x) (hxy : R x y) : Within R start (n + 1) y :=
  .inr ⟨x, h, hxy⟩

lemma Within.mono (h : Within R start n y) (hle : n ≤ m) : Within R start m y := by
  obtain ⟨k, rfl⟩ := Nat.exists_eq_add_of_le hle
  induction k with
  | zero => exact h
  | succ k ih => exact (ih (Nat.le_add_right n k)).succ

lemma within_start (n : ℕ) : Within R start n start :=
  Within.mono (n := 0) rfl (Nat.zero_le n)

/-- What a search knows after `n` rounds. -/
structure Explored (R : α → α → Prop) (start : α) (marked : α → Prop) (n : ℕ)
    (seen frontier : List α) (flag : Prop) : Prop where
  seen_iff : ∀ y, y ∈ seen ↔ Within R start n y
  frontier_seen : ∀ x ∈ frontier, x ∈ seen
  done : ∀ x ∈ seen, x ∈ frontier ∨ (∀ y, R x y → y ∈ seen) ∧ (marked x → flag)
  flag_marked : flag → ∃ x, Within R start n x ∧ marked x

namespace Explored

variable {marked : α → Prop} {seen frontier seen' frontier' : List α} {flag flag' : Prop}

lemma init (hflag : ¬flag) : Explored R start marked 0 [start] [start] flag where
  seen_iff _ := List.mem_singleton
  frontier_seen _ hx := hx
  done _ hx := .inl hx
  flag_marked h := absurd h hflag

theorem round (h : Explored R start marked n seen frontier flag)
    (hseen : ∀ y, y ∈ seen' ↔ y ∈ seen ∨ ∃ x ∈ frontier, R x y)
    (hfrontier : ∀ x ∈ frontier', x ∈ seen')
    (hnew : ∀ x ∈ seen', x ∈ seen ∨ x ∈ frontier' ∨ (∀ y, ¬R x y) ∧ ¬marked x)
    (hflag : flag' ↔ flag ∨ ∃ x ∈ frontier, marked x) :
    Explored R start marked (n + 1) seen' frontier' flag' where
  seen_iff y := by
    rw [hseen, h.seen_iff]
    constructor
    · rintro (hy | ⟨x, hx, hxy⟩)
      · exact hy.succ
      · exact Within.hop ((h.seen_iff x).mp (h.frontier_seen x hx)) hxy
    · rintro (hy | ⟨x, hx, hxy⟩)
      · exact .inl hy
      · rcases h.done x ((h.seen_iff x).mpr hx) with hfront | ⟨hclosed, -⟩
        · exact .inr ⟨x, hfront, hxy⟩
        · exact .inl ((h.seen_iff y).mp (hclosed y hxy))
  frontier_seen := hfrontier
  done x hx := by
    rcases hnew x hx with hold | hfront | ⟨hnone, hmark⟩
    · rcases h.done x hold with hfront | ⟨hclosed, hmark⟩
      · exact .inr ⟨fun y hxy => (hseen y).mpr (.inr ⟨x, hfront, hxy⟩),
          fun hx => hflag.mpr (.inr ⟨x, hfront, hx⟩)⟩
      · exact .inr ⟨fun y hxy => (hseen y).mpr (.inl (hclosed y hxy)),
          fun hx => hflag.mpr (.inl (hmark hx))⟩
    · exact .inl hfront
    · exact .inr ⟨fun y hxy => absurd hxy (hnone y), fun hx => absurd hx hmark⟩
  flag_marked hf := by
    rcases hflag.mp hf with hold | ⟨x, hx, hmark⟩
    · obtain ⟨x, hx, hmark⟩ := h.flag_marked hold
      exact ⟨x, hx.succ, hmark⟩
    · exact ⟨x, ((h.seen_iff x).mp (h.frontier_seen x hx)).succ, hmark⟩

theorem flag_iff (h : Explored R start marked n seen frontier flag)
    (hflag : flag' ↔ flag ∨ ∃ x ∈ frontier, marked x) :
    flag' ↔ ∃ x, Within R start n x ∧ marked x := by
  rw [hflag]
  constructor
  · rintro (hold | ⟨x, hx, hmark⟩)
    · exact h.flag_marked hold
    · exact ⟨x, (h.seen_iff x).mp (h.frontier_seen x hx), hmark⟩
  · rintro ⟨x, hx, hmark⟩
    rcases h.done x ((h.seen_iff x).mpr hx) with hfront | ⟨-, hold⟩
    · exact .inr ⟨x, hfront, hmark⟩
    · exact .inl (hold hmark)

end Explored

end Hops
