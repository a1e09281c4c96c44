import Mathlib.Data.List.Basic
import Mathlib.Algebra.Order.Ring.Int

/-!
# Fencing tokens

Each resource carries an epoch that never decreases. A grant raises the epoch and hands out
a token with the new value, so that a token is superseded exactly when its epoch has been
passed. `Bounded` is the invariant that ties the tokens handed out to the current epochs.
-/

namespace Fencing

variable {κ ω : Type}

structure Token (κ ω : Type) where
  resource : κ
  owner : ω
  epoch : Int
deriving DecidableEq, Repr

def Bounded (epoch : κ → Int) (issued : List (Token κ ω)) : Prop :=
  ∀ t ∈ issued, t.epoch ≤ epoch t.resource

def Superseded (issued : List (Token κ ω)) (t : Token κ ω) : Prop :=
  ∃ later ∈ issued, later.resource = t.resource ∧ t.epoch < later.epoch

variable {epoch epoch' : κ → Int} {issued : List (Token κ ω)} {t : Token κ ω}

lemma bounded_nil : Bounded epoch ([] : List (Token κ ω)) := by
  intro t ht
  cases ht

lemma Bounded.mono (h : Bounded epoch issued) (hle : ∀ k, epoch k ≤ epoch' k) :
    Bounded epoch' issued := by
  intro t ht
  exact (h t ht).trans (hle t.resource)

lemma Bounded.issue (h : Bounded epoch issued) (hle : ∀ k, epoch k ≤ epoch' k)
    (ht : t.epoch ≤ epoch' t.resource) : Bounded epoch' (t :: issued) := by
  intro t' ht'
  rcases List.mem_cons.mp ht' with rfl | hold
  · exact ht
  · exact h.mono hle t' hold

theorem Superseded.epoch_lt (h : Superseded issued t) (hb : Bounded epoch issued) :
    t.epoch < epoch t.resource := by
  obtain ⟨later, hmem, hsame, hlt⟩ := h
  have hle := hb later hmem
  rw [hsame] at hle
  exact hlt.trans_le hle

end Fencing
