import Mathlib.Data.List.Infix

/-!
# Deleting every occurrence of a marker

A scan from the left deletes each occurrence of a marker that it meets. What is left may contain
a word that was not there before: exactly when the text contains the word with markers inserted
between its letters, as long as no two of the words involved can overlap.
-/

namespace Deletion

variable {α : Type} [DecidableEq α]

def deleteFrom (m : List α) : Nat → List α → List α
  | _, [] => []
  | k + 1, _ :: t => deleteFrom m k t
  | 0, c :: t => if m <+: c :: t then deleteFrom m (m.length - 1) t else c :: deleteFrom m 0 t

/-- `t.replace(m, "")`, for a marker that is not empty. -/
def deleteAll (m t : List α) : List α := deleteFrom m 0 t

variable {m d : List α}

@[simp] lemma deleteAll_nil (m : List α) : deleteAll m [] = [] := rfl

lemma deleteFrom_eq_deleteAll_drop (m : List α) (k : Nat) (t : List α) :
    deleteFrom m k t = deleteAll m (t.drop k) := by
  induction t generalizing k with
  | nil =>
    rw [List.drop_nil]
    cases k with
    | zero => rfl
    | succ k => rfl
  | cons c t ih =>
    cases k with
    | zero => rfl
    | succ k => exact ih k

lemma deleteAll_mark (hm : m ≠ []) (t : List α) : deleteAll m (m ++ t) = deleteAll m t := by
  obtain ⟨c, rest, rfl⟩ := List.exists_cons_of_ne_nil hm
  rw [List.cons_append, deleteAll, deleteFrom, if_pos, List.length_cons, Nat.add_sub_cancel,
    deleteFrom_eq_deleteAll_drop, List.drop_left]
  exact (List.prefix_append (c :: rest) t)

lemma deleteAll_cons {c : α} {t : List α} (h : ¬m <+: c :: t) :
    deleteAll m (c :: t) = c :: deleteAll m t := by
  rw [deleteAll, deleteFrom, if_neg h]
  rfl

lemma length_deleteAll (hm : m ≠ []) (t : List α) :
    ∃ marks, t.length = (deleteAll m t).length + marks * m.length := by
  induction hlength : t.length using Nat.strong_induction_on generalizing t with
  | _ n ih =>
    by_cases hstart : m <+: t
    · obtain ⟨rest, rfl⟩ := hstart
      have hpos := List.length_pos_of_ne_nil hm
      rw [List.length_append] at hlength
      obtain ⟨marks, hmarks⟩ := ih rest.length (by omega) rest rfl
      refine ⟨marks + 1, ?_⟩
      rw [deleteAll_mark hm, Nat.succ_mul]
      omega
    · cases t with
      | nil => exact ⟨0, by rw [deleteAll_nil, Nat.zero_mul]; exact hlength.symm⟩
      | cons c t =>
        rw [List.length_cons] at hlength
        obtain ⟨marks, hmarks⟩ := ih t.length (by omega) t rfl
        refine ⟨marks, ?_⟩
        rw [deleteAll_cons hstart, List.length_cons]
        omega

def Comparable (p q : List α) : Prop := p <+: q ∨ q <+: p

instance (p q : List α) : Decidable (Comparable p q) := inferInstanceAs (Decidable (_ ∨ _))

/-- No occurrence of `m` reaches into an occurrence of `d` that starts after it. -/
def Clear (m d : List α) : Prop := ∀ k < m.length, 0 < k → ¬Comparable (m.drop k) d

instance (m d : List α) : Decidable (Clear m d) :=
  inferInstanceAs (Decidable (∀ k < m.length, 0 < k → _))

/-- No occurrences of the two words overlap, unless they are the same occurrence. -/
structure Separate (m d : List α) : Prop where
  self : Clear m m
  left : Clear m d
  right : Clear d m
  start : Comparable m d → m = d

omit [DecidableEq α] in
lemma comparable_of_starts {p q x : List α} (hp : p <+: x) (hq : q <+: x) : Comparable p q :=
  List.prefix_or_prefix_of_prefix hp hq

omit [DecidableEq α] in
lemma Comparable.symm {p q : List α} (h : Comparable p q) : Comparable q p := h.elim .inr .inl

/-- No occurrence of the marker starts in the first text and ends in the second. -/
def NoCross (m a b : List α) : Prop :=
  ∀ k < m.length, 0 < k → ¬(m.take k <:+ a ∧ m.drop k <+: b)

omit [DecidableEq α] in
lemma NoCross.of_suffix {a a' b : List α} (h : NoCross m a b) (ha : a' <:+ a) : NoCross m a' b :=
  fun k hk hpos hcross => h k hk hpos ⟨hcross.1.trans ha, hcross.2⟩

lemma deleteAll_append (hm : m ≠ []) {a b : List α} (h : NoCross m a b) :
    deleteAll m (a ++ b) = deleteAll m a ++ deleteAll m b := by
  induction hlength : a.length using Nat.strong_induction_on generalizing a with
  | _ n ih =>
    cases a with
    | nil => rfl
    | cons c a =>
      by_cases hmark : m <+: c :: a
      · obtain ⟨rest, hrest⟩ := hmark
        have hshort : rest.length < n := by
          have hlen := congrArg List.length hrest
          have hpos := List.length_pos_of_ne_nil hm
          rw [List.length_append] at hlen
          omega
        have hcross : NoCross m rest b := h.of_suffix (hrest ▸ List.suffix_append m rest)
        rw [← hrest, List.append_assoc, deleteAll_mark hm, deleteAll_mark hm,
          ih rest.length hshort hcross rfl]
      · have hmark' : ¬m <+: c :: (a ++ b) := by
          intro hcross
          rw [← List.cons_append] at hcross
          rcases comparable_of_starts hcross (List.prefix_append (c :: a) b) with hin | hover
          · exact hmark hin
          · obtain ⟨q, hq⟩ := hover
            have hqb : q <+: b := by
              rw [← hq] at hcross
              exact (List.prefix_append_right_inj (c :: a)).mp hcross
            have hlen := congrArg List.length hq
            rw [List.length_append, List.length_cons] at hlen
            by_cases hempty : q = []
            · rw [hempty, List.append_nil] at hq
              exact hmark (hq ▸ List.prefix_rfl)
            · have hpos := List.length_pos_of_ne_nil hempty
              refine h (c :: a).length (by rw [List.length_cons]; omega) (Nat.succ_pos _) ⟨?_, ?_⟩
              · rw [← hq, List.take_left]
              · rw [← hq, List.drop_left]
                exact hqb
        have hshort : a.length < n := by
          rw [← hlength, List.length_cons]
          exact Nat.lt_succ_self _
        rw [List.cons_append, deleteAll_cons hmark', deleteAll_cons hmark, List.cons_append,
          ih a.length hshort (h.of_suffix (List.suffix_cons c a)) rfl]

/-- The second word is the first with copies of the marker inserted between its letters. -/
inductive Inserted (m : List α) : List α → List α → Prop where
  | last (c : α) : Inserted m [c] [c]
  | cons (c : α) (n : Nat) {d w : List α} (h : Inserted m d w) :
    Inserted m (c :: d) (c :: ((List.replicate n m).flatten ++ w))

omit [DecidableEq α] in
lemma Inserted.ne_nil {d w : List α} (h : Inserted m d w) : d ≠ [] ∧ w ≠ [] := by
  cases h with
  | last c => exact ⟨List.cons_ne_nil _ _, List.cons_ne_nil _ _⟩
  | cons c n h => exact ⟨List.cons_ne_nil _ _, List.cons_ne_nil _ _⟩

omit [DecidableEq α] in
lemma Inserted.read {d w p rest : List α} (h : Inserted m d w) (hp : p <+: w ++ rest) :
    (p <+: d ∧ p ≠ d) ∨ (d <+: p ∧ w = d) ∨
      ∃ k < p.length, 0 < k ∧ Comparable (p.drop k) m := by
  induction h generalizing p with
  | last c =>
    cases p with
    | nil => exact .inl ⟨List.nil_prefix, (List.cons_ne_nil _ _).symm⟩
    | cons c' p =>
      rw [List.singleton_append, List.cons_prefix_cons] at hp
      rw [hp.1]
      exact .inr (.inl ⟨List.prefix_append [c] p, rfl⟩)
  | cons c n h ih =>
    rename_i d w
    cases p with
    | nil => exact .inl ⟨List.nil_prefix, (List.cons_ne_nil _ _).symm⟩
    | cons c' p =>
      rw [List.cons_append, List.cons_prefix_cons, List.append_assoc] at hp
      obtain ⟨rfl, hp⟩ := hp
      cases n with
      | zero =>
        rw [List.replicate_zero, List.flatten_nil, List.nil_append] at hp ⊢
        rcases ih hp with ⟨hin, hne⟩ | ⟨hout, hw⟩ | ⟨k, hk, hpos, hmark⟩
        · exact .inl ⟨List.cons_prefix_cons.mpr ⟨rfl, hin⟩, fun heq => hne (List.cons.inj heq).2⟩
        · exact .inr (.inl ⟨List.cons_prefix_cons.mpr ⟨rfl, hout⟩, by rw [hw]⟩)
        · exact .inr (.inr ⟨k + 1, Nat.succ_lt_succ hk, Nat.succ_pos k, hmark⟩)
      | succ n =>
        cases p with
        | nil =>
          refine .inl ⟨List.cons_prefix_cons.mpr ⟨rfl, List.nil_prefix⟩, fun heq => ?_⟩
          exact h.ne_nil.1 (List.cons.inj heq).2.symm
        | cons c' p =>
          rw [List.replicate_succ, List.flatten_cons, List.append_assoc] at hp
          refine .inr (.inr ⟨1, by simp, Nat.one_pos, ?_⟩)
          exact comparable_of_starts hp (List.prefix_append m _)

lemma deleteAll_marks (hm : m ≠ []) (n : Nat) (t : List α) :
    deleteAll m ((List.replicate n m).flatten ++ t) = deleteAll m t := by
  induction n with
  | zero => rfl
  | succ n ih => rw [List.replicate_succ, List.flatten_cons, List.append_assoc, deleteAll_mark hm, ih]

lemma Inserted.deleteAll_eq {w rest : List α} (hm : m ≠ []) (h : Inserted m d w)
    (hself : Clear m m) (hstart : ¬m <+: w ++ rest)
    (hright : ∀ k < d.length, 0 < k → ¬Comparable m (d.drop k)) :
    deleteAll m (w ++ rest) = d ++ deleteAll m rest := by
  induction h with
  | last c => exact deleteAll_cons hstart
  | cons c n h ih =>
    rename_i d w
    have hstart' : ¬m <+: w ++ rest := by
      intro hmark
      have hnone := hright 1 (by
        have hpos := List.length_pos_of_ne_nil h.ne_nil.1
        rw [List.length_cons]
        omega) Nat.one_pos
      rw [List.drop_one, List.tail_cons] at hnone
      rcases h.read hmark with ⟨hin, -⟩ | ⟨hout, -⟩ | ⟨k, hk, hpos, hcross⟩
      · exact hnone (.inl hin)
      · exact hnone (.inr hout)
      · exact hself k hk hpos hcross
    rw [List.cons_append] at hstart ⊢
    rw [deleteAll_cons hstart, List.append_assoc, deleteAll_marks hm,
      ih hstart' (fun k hk _ => hright (k + 1) (Nat.succ_lt_succ hk) (Nat.succ_pos k)),
      List.cons_append]

omit [DecidableEq α] in
lemma noCross_inserted {w : List α} (hsep : Separate m d) (h : Inserted m d w) (a rest : List α) :
    NoCross m a (w ++ rest) := by
  rintro k hk hpos ⟨-, hcross⟩
  rcases h.read hcross with ⟨hin, -⟩ | ⟨hout, -⟩ | ⟨j, hj, hpos', hmark⟩
  · exact hsep.left k hk hpos (.inl hin)
  · exact hsep.left k hk hpos (.inr hout)
  · rw [List.drop_drop] at hmark
    rw [List.length_drop] at hj
    exact hsep.self (k + j) (by omega) (by omega) hmark

lemma exists_marks (hm : m ≠ []) (t : List α) :
    ∃ n rest, t = (List.replicate n m).flatten ++ rest ∧ ¬m <+: rest := by
  induction hlength : t.length using Nat.strong_induction_on generalizing t with
  | _ l ih =>
    by_cases hmark : m <+: t
    · obtain ⟨rest, rfl⟩ := hmark
      have hpos := List.length_pos_of_ne_nil hm
      rw [List.length_append] at hlength
      obtain ⟨n, rest', hrest, hnot⟩ := ih rest.length (by omega) rest rfl
      refine ⟨n + 1, rest', ?_, hnot⟩
      rw [List.replicate_succ, List.flatten_cons, List.append_assoc, ← hrest]
    · exact ⟨0, t, rfl, hmark⟩

lemma exists_inserted (hm : m ≠ []) {t rest : List α} (hd : d ≠ [])
    (h : deleteAll m t = d ++ rest) (hstart : ¬m <+: t) :
    ∃ w t', t = w ++ t' ∧ Inserted m d w := by
  induction d generalizing t with
  | nil => exact absurd rfl hd
  | cons c d ih =>
    cases t with
    | nil => cases h
    | cons c' t =>
      rw [deleteAll_cons hstart, List.cons_append] at h
      obtain ⟨hc, htail⟩ := List.cons.inj h
      rw [hc]
      cases d with
      | nil => exact ⟨[c], t, rfl, .last c⟩
      | cons c'' d =>
        obtain ⟨n, t', ht, hstart'⟩ := exists_marks hm t
        rw [ht, deleteAll_marks hm] at htail
        obtain ⟨w, t'', ht', hw⟩ := ih (List.cons_ne_nil _ _) htail hstart'
        refine ⟨c :: ((List.replicate n m).flatten ++ w), t'', ?_, .cons c n hw⟩
        rw [ht, ht', List.cons_append, List.append_assoc]

lemma exists_split (hm : m ≠ []) {t u v : List α} (h : deleteAll m t = u ++ v) :
    ∃ a b, t = a ++ b ∧ deleteAll m b = v ∧ ¬m <+: b := by
  induction hlength : t.length using Nat.strong_induction_on generalizing t u with
  | _ l ih =>
    by_cases hmark : m <+: t
    · obtain ⟨rest, rfl⟩ := hmark
      have hpos := List.length_pos_of_ne_nil hm
      rw [List.length_append] at hlength
      rw [deleteAll_mark hm] at h
      obtain ⟨a, b, rfl, hb, hstart⟩ := ih rest.length (by omega) h rfl
      exact ⟨m ++ a, b, (List.append_assoc m a b).symm, hb, hstart⟩
    · cases u with
      | nil => exact ⟨[], t, rfl, h, hmark⟩
      | cons c u =>
        cases t with
        | nil => cases h
        | cons c' t =>
          rw [deleteAll_cons hmark, List.cons_append] at h
          rw [List.length_cons] at hlength
          obtain ⟨a, b, rfl, hb, hstart⟩ := ih t.length (by omega) (List.cons.inj h).2 rfl
          exact ⟨c' :: a, b, rfl, hb, hstart⟩

theorem infix_deleteAll_iff (hm : m ≠ []) (hd : d ≠ []) (hsep : Separate m d) {t : List α} :
    d <:+: deleteAll m t ↔ ∃ w, w <:+: t ∧ Inserted m d w ∧ w ≠ m := by
  constructor
  · rintro ⟨u, v, huv⟩
    rw [List.append_assoc] at huv
    obtain ⟨a, b, rfl, hb, hstart⟩ := exists_split hm huv.symm
    obtain ⟨w, b', rfl, hw⟩ := exists_inserted hm hd hb hstart
    refine ⟨w, ⟨a, b', List.append_assoc a w b'⟩, hw, fun heq => hstart ?_⟩
    rw [heq]
    exact List.prefix_append m b'
  · rintro ⟨w, ⟨a, b, rfl⟩, hw, hne⟩
    have hstart : ¬m <+: w ++ b := by
      intro hmark
      rcases hw.read hmark with ⟨hin, hne'⟩ | ⟨hout, hsame⟩ | ⟨k, hk, hpos, hcross⟩
      · exact hne' (hsep.start (.inl hin))
      · exact hne (hsame.trans (hsep.start (.inr hout)).symm)
      · exact hsep.self k hk hpos hcross
    have hright : ∀ k < d.length, 0 < k → ¬Comparable m (d.drop k) :=
      fun k hk hpos hcomp => hsep.right k hk hpos hcomp.symm
    rw [List.append_assoc, deleteAll_append hm (noCross_inserted hsep hw a b),
      hw.deleteAll_eq hm hsep.self hstart hright]
    exact ⟨deleteAll m a, deleteAll m b, List.append_assoc _ _ _⟩

variable {c v : List α}

omit [DecidableEq α] in
lemma drop_marks (n k : Nat) (w : List α) :
    (∃ j < c.length, c.drop j <+: ((List.replicate n c).flatten ++ w).drop k) ∨
      ∃ k', ((List.replicate n c).flatten ++ w).drop k = w.drop k' := by
  induction n generalizing k with
  | zero => exact .inr ⟨k, rfl⟩
  | succ n ih =>
    rw [List.replicate_succ, List.flatten_cons, List.append_assoc, List.drop_append]
    by_cases hk : k < c.length
    · exact .inl ⟨k, hk, List.prefix_append _ _⟩
    · rw [List.drop_eq_nil_of_le (not_lt.mp hk), List.nil_append]
      exact ih (k - c.length)

omit [DecidableEq α] in
lemma Inserted.drop {k : Nat} (h : Inserted c d v) (hk : k < v.length) (hpos : 0 < k) :
    (∃ j < c.length, c.drop j <+: v.drop k) ∨
      ∃ i < d.length, 0 < i ∧ Inserted c (d.drop i) (v.drop k) := by
  induction h generalizing k with
  | last a =>
    rw [List.length_singleton] at hk
    omega
  | cons a n h ih =>
    rename_i d w
    obtain ⟨k, rfl⟩ := Nat.exists_eq_add_one_of_ne_zero hpos.ne'
    rw [List.drop_succ_cons]
    rcases drop_marks (c := c) n k w with hmark | ⟨k', hk'⟩
    · exact .inl hmark
    · rw [hk']
      have hlength : k' < w.length := by
        have hlen := congrArg List.length hk'
        rw [List.length_drop, List.length_drop] at hlen
        rw [List.length_cons] at hk
        omega
      by_cases hzero : k' = 0
      · have hd := List.length_pos_of_ne_nil h.ne_nil.1
        refine .inr ⟨1, by rw [List.length_cons]; omega, Nat.one_pos, ?_⟩
        rw [hzero, List.drop_zero, List.drop_succ_cons, List.drop_zero]
        exact h
      · rcases ih hlength (Nat.pos_of_ne_zero hzero) with hmark | ⟨i, hi, -, hrest⟩
        · exact .inl hmark
        · exact .inr ⟨i + 1, by rw [List.length_cons]; omega, Nat.succ_pos i, hrest⟩

omit [DecidableEq α] in
lemma Comparable.exists_rest {p q : List α} (h : Comparable p q) : ∃ rest, p <+: q ++ rest := by
  rcases h with h | ⟨rest, rfl⟩
  · exact ⟨[], by rw [List.append_nil]; exact h⟩
  · exact ⟨rest, List.prefix_rfl⟩

omit [DecidableEq α] in
theorem Separate.of_inserted (hd : Separate m d) (hc : Separate m c) (hne : m ≠ c)
    (h : Inserted c d v) : Separate m v where
  self := hd.self
  left := by
    intro k hk hpos hcomp
    obtain ⟨rest, hread⟩ := hcomp.exists_rest
    rcases h.read hread with ⟨hin, -⟩ | ⟨hout, -⟩ | ⟨j, hj, hpos', hmark⟩
    · exact hd.left k hk hpos (.inl hin)
    · exact hd.left k hk hpos (.inr hout)
    · rw [List.drop_drop] at hmark
      rw [List.length_drop] at hj
      exact hc.left (k + j) (by omega) (by omega) hmark
  right := by
    intro k hk hpos hcomp
    rcases h.drop hk hpos with ⟨j, hj, hmark⟩ | ⟨i, hi, hpos', hrest⟩
    · have hcomp' : Comparable (c.drop j) m := by
        rcases hcomp with hin | hout
        · exact .inl (hmark.trans hin)
        · exact comparable_of_starts hmark hout
      by_cases hzero : j = 0
      · rw [hzero, List.drop_zero] at hcomp'
        exact hne (hc.start hcomp'.symm)
      · exact hc.right j hj (Nat.pos_of_ne_zero hzero) hcomp'
    · obtain ⟨rest, hread⟩ := hcomp.symm.exists_rest
      rcases hrest.read hread with ⟨hin, -⟩ | ⟨hout, -⟩ | ⟨j, hj, hpos'', hmark⟩
      · exact hd.right i hi hpos' (.inr hin)
      · exact hd.right i hi hpos' (.inl hout)
      · exact hc.left j hj hpos'' hmark
  start := by
    intro hcomp
    obtain ⟨rest, hread⟩ := hcomp.exists_rest
    rcases h.read hread with ⟨hin, hne'⟩ | ⟨hout, hsame⟩ | ⟨k, hk, hpos, hmark⟩
    · exact absurd (hd.start (.inl hin)) hne'
    · exact (hd.start (.inr hout)).trans hsame.symm
    · exact absurd hmark (hc.left k hk hpos)

theorem infix_deleteAll_deleteAll_iff (hm : m ≠ []) (hc : c ≠ []) (hd : d ≠ [])
    (hmd : Separate m d) (hmc : Separate m c) (hcd : Separate c d) (hne : m ≠ c) {t : List α} :
    d <:+: deleteAll c (deleteAll m t) ↔
      ∃ v w, w <:+: t ∧ Inserted c d v ∧ v ≠ c ∧ Inserted m v w ∧ w ≠ m := by
  rw [infix_deleteAll_iff hc hd hcd]
  constructor
  · rintro ⟨v, hv, hinserted, hv'⟩
    have hsep := hmd.of_inserted hmc hne hinserted
    obtain ⟨w, hw, hinserted', hw'⟩ := (infix_deleteAll_iff hm hinserted.ne_nil.2 hsep).mp hv
    exact ⟨v, w, hw, hinserted, hv', hinserted', hw'⟩
  · rintro ⟨v, w, hw, hinserted, hv', hinserted', hw'⟩
    have hsep := hmd.of_inserted hmc hne hinserted
    exact ⟨v, (infix_deleteAll_iff hm hinserted.ne_nil.2 hsep).mpr ⟨w, hw, hinserted', hw'⟩,
      hinserted, hv'⟩

end Deletion
