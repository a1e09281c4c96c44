import Mathlib.Data.List.Perm.Basic

/-!
# Combining verdicts

A set of verdicts is combined into one: an unknown verdict dominates everything, a strong
one dominates the weak ones, and nothing is known of an empty set. With `strong` the
negative verdict this is "all must hold", with `strong` the positive one "any suffices". Where
each verdict is one of a slot of possible ones, the whole may be settled whichever are drawn.
-/

namespace Verdicts

variable {α : Type} [DecidableEq α] {unknown strong weak : α} {l l' : List α}

def dominant (unknown strong weak : α) (l : List α) : α :=
  if l = [] ∨ unknown ∈ l then unknown else if strong ∈ l then strong else weak

lemma dominant_of_known (hl : l ≠ []) (h : unknown ∉ l) :
    dominant unknown strong weak l = if strong ∈ l then strong else weak := by
  rw [dominant, if_neg]
  rintro (h' | h')
  · exact hl h'
  · exact h h'

theorem dominant_eq_unknown_iff (hs : strong ≠ unknown) (hw : weak ≠ unknown) :
    dominant unknown strong weak l = unknown ↔ l = [] ∨ unknown ∈ l := by
  constructor
  · intro h
    by_contra hne
    rw [dominant, if_neg hne] at h
    split at h
    · exact hs h
    · exact hw h
  · intro h
    rw [dominant, if_pos h]

theorem dominant_eq_strong_iff (hs : strong ≠ unknown) (hw : weak ≠ strong) :
    dominant unknown strong weak l = strong ↔ unknown ∉ l ∧ strong ∈ l := by
  constructor
  · intro h
    by_cases hu : l = [] ∨ unknown ∈ l
    · rw [dominant, if_pos hu] at h
      exact absurd h.symm hs
    · rw [dominant, if_neg hu] at h
      by_cases hm : strong ∈ l
      · exact ⟨fun hmem => hu (Or.inr hmem), hm⟩
      · rw [if_neg hm] at h
        exact absurd h hw
  · rintro ⟨hu, hm⟩
    rw [dominant_of_known (List.ne_nil_of_mem hm) hu, if_pos hm]

theorem dominant_eq_weak_iff (hw : weak ≠ unknown) (hsw : strong ≠ weak) :
    dominant unknown strong weak l = weak ↔ l ≠ [] ∧ unknown ∉ l ∧ strong ∉ l := by
  constructor
  · intro h
    by_cases hu : l = [] ∨ unknown ∈ l
    · rw [dominant, if_pos hu] at h
      exact absurd h.symm hw
    · rw [dominant, if_neg hu] at h
      push Not at hu
      by_cases hm : strong ∈ l
      · rw [if_pos hm] at h
        exact absurd h hsw
      · exact ⟨hu.1, hu.2, hm⟩
  · rintro ⟨hl, hu, hs⟩
    rw [dominant_of_known hl hu, if_neg hs]

omit [DecidableEq α] in
lemma eq_nil_iff_of_mem_iff (h : ∀ a, a ∈ l ↔ a ∈ l') : l = [] ↔ l' = [] := by
  rw [List.eq_nil_iff_forall_not_mem, List.eq_nil_iff_forall_not_mem]
  exact forall_congr' (fun a => not_congr (h a))

theorem dominant_congr (h : ∀ a, a ∈ l ↔ a ∈ l') :
    dominant unknown strong weak l = dominant unknown strong weak l' := by
  simp only [dominant, h, eq_nil_iff_of_mem_iff h]

theorem dominant_raise (hs : strong ≠ unknown) (hw : weak ≠ strong) {before after : List α}
    (h : dominant unknown strong weak (before ++ weak :: after) = strong) :
    dominant unknown strong weak (before ++ strong :: after) = strong := by
  rw [dominant_eq_strong_iff hs hw] at h ⊢
  obtain ⟨hu, -⟩ := h
  refine ⟨?_, by simp⟩
  intro hmem
  rcases List.mem_append.mp hmem with hmem | hmem
  · exact hu (List.mem_append_left _ hmem)
  · rcases List.mem_cons.mp hmem with heq | hmem
    · exact hs heq.symm
    · exact hu (List.mem_append_right _ (List.mem_cons_of_mem _ hmem))

/-- A verdict of a slot, one that `q` prefers if there is any. -/
def Best (q : α → Bool) (slot : List α) (a : α) : Prop :=
  a ∈ slot ∧ (q a = true ∨ ∀ b ∈ slot, q b = false)

structure Draws (q : α → Bool) (slots : List (List α)) (drawn : List α) : Prop where
  each : ∀ slot ∈ slots, ∃ a ∈ drawn, Best q slot a
  only : ∀ a ∈ drawn, ∃ slot ∈ slots, Best q slot a

/-- The combination is the same whatever is drawn from the slots. -/
def Settled (unknown strong weak : α) (slots : List (List α)) : Prop :=
  (∃ slot ∈ slots, ∀ a ∈ slot, a = unknown) ∨
    (∀ slot ∈ slots, unknown ∉ slot) ∧
      ((∃ slot ∈ slots, ∀ a ∈ slot, a = strong) ∨ ∀ slot ∈ slots, ∀ a ∈ slot, a = weak)

omit [DecidableEq α] in
lemma Best.holds {q : α → Bool} {slot : List α} {a b : α} (h : Best q slot a) (hb : b ∈ slot)
    (hq : q b = true) : q a = true := by
  rcases h.2 with ha | hnone
  · exact ha
  · rw [hnone b hb] at hq
    cases hq

variable {q : α → Bool} {slots : List (List α)} {drawn : List α}

omit [DecidableEq α] in
lemma draws_singleton {slot : List α} {a : α} (h : Best q slot a) : Draws q [slot] [a] := by
  refine ⟨?_, ?_⟩
  · intro slot' hslot
    rw [List.mem_singleton.mp hslot]
    exact ⟨a, List.mem_cons_self, h⟩
  · intro a' ha
    rw [List.mem_singleton.mp ha]
    exact ⟨slot, List.mem_cons_self, h⟩

omit [DecidableEq α] in
lemma draws_flatMap {ι : Type} {items : List ι} {slots : ι → List (List α)} {drawn : ι → List α}
    (h : ∀ i ∈ items, Draws q (slots i) (drawn i)) :
    Draws q (items.flatMap slots) (items.flatMap drawn) := by
  refine ⟨?_, ?_⟩
  · intro slot hslot
    obtain ⟨i, hi, hslot⟩ := List.mem_flatMap.mp hslot
    obtain ⟨a, ha, hbest⟩ := (h i hi).each slot hslot
    exact ⟨a, List.mem_flatMap.mpr ⟨i, hi, ha⟩, hbest⟩
  · intro a ha
    obtain ⟨i, hi, ha⟩ := List.mem_flatMap.mp ha
    obtain ⟨slot, hslot, hbest⟩ := (h i hi).only a ha
    exact ⟨slot, List.mem_flatMap.mpr ⟨i, hi, hslot⟩, hbest⟩

omit [DecidableEq α] in
lemma Draws.ne_nil (h : Draws q slots drawn) {slot : List α} (hslot : slot ∈ slots) :
    drawn ≠ [] := by
  obtain ⟨a, ha, -⟩ := h.each slot hslot
  exact List.ne_nil_of_mem ha

omit [DecidableEq α] in
lemma Draws.notMem (h : Draws q slots drawn) {a : α} (hslots : ∀ slot ∈ slots, a ∉ slot) :
    a ∉ drawn := by
  intro ha
  obtain ⟨slot, hslot, hbest⟩ := h.only a ha
  exact hslots slot hslot hbest.1

omit [DecidableEq α] in
lemma Draws.rejected (h : Draws q slots drawn)
    (hslots : ∀ slot ∈ slots, ∃ a ∈ slot, q a = true) {a : α} (ha : q a = false) : a ∉ drawn := by
  intro hmem
  obtain ⟨slot, hslot, hbest⟩ := h.only a hmem
  obtain ⟨b, hb, hq⟩ := hslots slot hslot
  rw [hbest.holds hb hq] at ha
  cases ha

omit [DecidableEq α] in
lemma Draws.mem (h : Draws q slots drawn) {slot : List α} {a : α} (hslot : slot ∈ slots)
    (ha : a ∈ slot) (hq : ∀ b, q b = true ↔ b = a) : a ∈ drawn := by
  obtain ⟨b, hb, hbest⟩ := h.each slot hslot
  rwa [← (hq b).mp (hbest.holds ha ((hq a).mpr rfl))]

theorem dominant_of_settled (h : Settled unknown strong weak slots) :
    ∃ verdict, ∀ q drawn, Draws q slots drawn → dominant unknown strong weak drawn = verdict := by
  rcases h with ⟨slot, hslot, hunknown⟩ | ⟨hknown, ⟨slot, hslot, hstrong⟩ | hweak⟩
  · refine ⟨unknown, ?_⟩
    intro q drawn hd
    obtain ⟨a, ha, hbest⟩ := hd.each slot hslot
    rw [hunknown a hbest.1] at ha
    rw [dominant, if_pos (.inr ha)]
  · refine ⟨strong, ?_⟩
    intro q drawn hd
    obtain ⟨a, ha, hbest⟩ := hd.each slot hslot
    rw [hstrong a hbest.1] at ha
    rw [dominant_of_known (hd.ne_nil hslot) (hd.notMem hknown), if_pos ha]
  · refine ⟨if slots = [] then unknown else weak, ?_⟩
    intro q drawn hd
    cases slots with
    | nil =>
      have hnil : drawn = [] := by
        rw [List.eq_nil_iff_forall_not_mem]
        intro a ha
        obtain ⟨slot, hslot, -⟩ := hd.only a ha
        cases hslot
      rw [hnil, dominant, if_pos (.inl rfl), if_pos rfl]
    | cons slot rest =>
      have hne := hd.ne_nil List.mem_cons_self
      rw [dominant_of_known hne (hd.notMem hknown), if_neg (List.cons_ne_nil _ _)]
      split
      · rename_i hmem
        obtain ⟨slot', hslot', hbest⟩ := hd.only strong hmem
        exact hweak slot' hslot' strong hbest.1
      · rfl

theorem settled_of_constant (hs : strong ≠ unknown) (hw : weak ≠ unknown) (hsw : strong ≠ weak)
    (hall : ∀ a, a = unknown ∨ a = strong ∨ a = weak) {verdict : α}
    (h : ∀ q, ∃ drawn, Draws q slots drawn ∧ dominant unknown strong weak drawn = verdict) :
    Settled unknown strong weak slots := by
  by_contra hnot
  rw [Settled, not_or] at hnot
  obtain ⟨hread, hrest⟩ := hnot
  push Not at hread
  obtain ⟨known, hknown, hknownIs⟩ := h (fun a => decide (a ≠ unknown))
  have hnone : unknown ∉ known := hknown.rejected
    (fun slot hslot => (hread slot hslot).imp (fun a ha => ⟨ha.1, decide_eq_true ha.2⟩))
    (decide_eq_false (not_not.mpr rfl))
  by_cases hfree : ∀ slot ∈ slots, unknown ∉ slot
  · obtain ⟨hlow, hhigh⟩ := not_or.mp (fun h' => hrest ⟨hfree, h'⟩)
    push Not at hlow hhigh
    obtain ⟨slot, hslot, a, ha, hne⟩ := hhigh
    have hstrong : a = strong := by
      rcases hall a with rfl | rfl | rfl
      · exact absurd ha (hfree slot hslot)
      · rfl
      · exact absurd rfl hne
    rw [hstrong] at ha
    obtain ⟨high, hdrawn, hhighIs⟩ := h (fun a => decide (a = strong))
    have hmem := hdrawn.mem hslot ha (fun b => decide_eq_true_iff)
    rw [dominant_of_known (List.ne_nil_of_mem hmem) (hdrawn.notMem hfree), if_pos hmem] at hhighIs
    obtain ⟨low, hdrawn, hlowIs⟩ := h (fun a => decide (a ≠ strong))
    have hnotMem : strong ∉ low := hdrawn.rejected
      (fun slot hslot => (hlow slot hslot).imp (fun a ha => ⟨ha.1, decide_eq_true ha.2⟩))
      (decide_eq_false (not_not.mpr rfl))
    rw [dominant_of_known (hdrawn.ne_nil hslot) (hdrawn.notMem hfree), if_neg hnotMem] at hlowIs
    exact hsw (hhighIs.trans hlowIs.symm)
  · push Not at hfree
    obtain ⟨slot, hslot, hunknown⟩ := hfree
    obtain ⟨unread, hdrawn, hunreadIs⟩ := h (fun a => decide (a = unknown))
    have hmem := hdrawn.mem hslot hunknown (fun b => decide_eq_true_iff)
    rw [(dominant_eq_unknown_iff hs hw).mpr (.inr hmem)] at hunreadIs
    rw [← hunreadIs, dominant_eq_unknown_iff hs hw] at hknownIs
    exact hknownIs.elim (hknown.ne_nil hslot) hnone

end Verdicts
