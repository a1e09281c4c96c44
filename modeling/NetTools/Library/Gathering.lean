import Mathlib.Data.List.Basic
import Mathlib.Tactic.Ring
import NetTools.Library.LastRow

/-!
# Values gathered by key

Values are appended to the list of their key, and the changes between neighbours in a list are
counted. A list that is repeated changes within each copy and where one copy meets the next.
-/

namespace Gathering

variable {κ β : Type} [DecidableEq κ]

/-- `d.setdefault(k, []).append(v)` for every entry in turn. -/
def gather (entries : List (κ × β)) : List (κ × List β) :=
  entries.foldl (fun d entry =>
    LastRow.assign d entry.1 ((d.lookup entry.1).getD [] ++ [entry.2])) []

def valuesAt (k : κ) (entries : List (κ × β)) : List β :=
  entries.filterMap (fun entry => if entry.1 = k then some entry.2 else none)

lemma valuesAt_append (k : κ) (entries entries' : List (κ × β)) :
    valuesAt k (entries ++ entries') = valuesAt k entries ++ valuesAt k entries' :=
  List.filterMap_append

lemma valuesAt_flatMap {σ : Type} (k : κ) (l : List σ) (f : σ → List (κ × β)) :
    valuesAt k (l.flatMap f) = l.flatMap (fun s => valuesAt k (f s)) := by
  induction l with
  | nil => rfl
  | cons s l ih => rw [List.flatMap_cons, List.flatMap_cons, valuesAt_append, ih]

lemma lookup_gather (entries : List (κ × β)) (k : κ) :
    (gather entries).lookup k =
      if valuesAt k entries = [] then none else some (valuesAt k entries) := by
  induction entries using List.reverseRecOn with
  | nil => rfl
  | append_singleton entries entry ih =>
    rw [gather, List.foldl_append, List.foldl_cons, List.foldl_nil, ← gather,
      LastRow.lookup_assign, valuesAt_append]
    by_cases h : k = entry.1
    · have hlast : valuesAt k [entry] = [entry.2] := by
        rw [valuesAt, List.filterMap_cons, if_pos h.symm, List.filterMap_nil]
      have hnonempty : valuesAt k entries ++ [entry.2] ≠ [] := List.append_ne_nil_of_right_ne_nil _
        (List.cons_ne_nil _ _)
      rw [if_pos h, hlast, if_neg hnonempty, ← h, ih]
      by_cases hempty : valuesAt k entries = []
      · rw [if_pos hempty, hempty, Option.getD_none]
      · rw [if_neg hempty, Option.getD_some]
    · have hlast : valuesAt k [entry] = [] := by
        rw [valuesAt, List.filterMap_cons, if_neg (Ne.symm h), List.filterMap_nil]
      rw [if_neg h, hlast, List.append_nil, ih]

lemma nodup_gather (entries : List (κ × β)) : ((gather entries).map Prod.fst).Nodup := by
  induction entries using List.reverseRecOn with
  | nil => exact List.nodup_nil
  | append_singleton entries entry ih =>
    rw [gather, List.foldl_append, List.foldl_cons, List.foldl_nil, ← gather]
    exact LastRow.nodup_assign ih _ _

lemma keys_gather (entries : List (κ × β)) :
    (gather entries).map Prod.fst = (entries.map Prod.fst).eraseDups := by
  induction entries using List.reverseRecOn with
  | nil => rfl
  | append_singleton entries entry ih =>
    have hmem : entry.1 ∈ (gather entries).map Prod.fst ↔ entry.1 ∈ entries.map Prod.fst := by
      rw [ih, List.mem_eraseDups]
    rw [gather, List.foldl_append, List.foldl_cons, List.foldl_nil, ← gather, List.map_append,
      List.eraseDups_append, ← ih]
    by_cases h : entry.1 ∈ entries.map Prod.fst
    · have hold : ([entry].map Prod.fst).removeAll (entries.map Prod.fst) = [] := by
        simpa [List.removeAll] using h
      rw [LastRow.keys_assign_of_mem (hmem.mpr h), hold, List.eraseDups_nil, List.append_nil]
    · have hnew : ([entry].map Prod.fst).removeAll (entries.map Prod.fst) = [entry.1] := by
        simpa [List.removeAll] using h
      rw [LastRow.assign_of_notMem (fun hin => h (hmem.mp hin)), hnew, List.map_append]
      rfl

theorem mem_gather_iff {entries : List (κ × β)} {k : κ} {values : List β} :
    (k, values) ∈ gather entries ↔ values = valuesAt k entries ∧ values ≠ [] := by
  rw [← LastRow.lookup_eq_some_iff_mem (nodup_gather entries), lookup_gather]
  split
  · rename_i hempty
    constructor
    · intro h
      cases h
    · rintro ⟨hvalues, hne⟩
      exact absurd (hvalues.trans hempty) hne
  · rename_i hne
    constructor
    · intro h
      rw [← Option.some.inj h]
      exact ⟨rfl, hne⟩
    · rintro ⟨hvalues, -⟩
      rw [hvalues]

lemma valuesAt_perm {entries entries' : List (κ × β)} (h : entries.Perm entries') (k : κ) :
    (valuesAt k entries).Perm (valuesAt k entries') := h.filterMap _

theorem gather_perm {W : Type} {entries entries' : List (κ × β)} (h : entries.Perm entries')
    (view : κ × List β → W) (hview : ∀ k values values', values.Perm values' →
      view (k, values) = view (k, values')) :
    ((gather entries).map view).Perm ((gather entries').map view) := by
  apply LastRow.perm_map_of_lookup (nodup_gather entries) (nodup_gather entries')
  intro k
  have hvalues := valuesAt_perm h k
  rw [lookup_gather, lookup_gather]
  by_cases hempty : valuesAt k entries = []
  · have hempty' : valuesAt k entries' = [] := by
      rw [hempty] at hvalues
      exact List.Perm.nil_eq hvalues |>.symm
    rw [if_pos hempty, if_pos hempty']
  · have hne : valuesAt k entries' ≠ [] := by
      intro hempty'
      rw [hempty'] at hvalues
      exact hempty hvalues.eq_nil
    rw [if_neg hempty, if_neg hne, Option.map_some, Option.map_some, hview k _ _ hvalues]

lemma flatMap_assign_perm (d : List (κ × List β)) (k : κ) (b : β) :
    ((LastRow.assign d k ((d.lookup k).getD [] ++ [b])).flatMap Prod.snd).Perm
      (d.flatMap Prod.snd ++ [b]) := by
  induction d with
  | nil => rfl
  | cons entry d ih =>
    obtain ⟨k', values⟩ := entry
    rw [LastRow.assign]
    by_cases hk : k = k'
    · rw [if_pos hk, hk, List.lookup_cons_self, Option.getD_some, List.flatMap_cons,
        List.flatMap_cons, List.append_assoc, List.append_assoc]
      exact (List.perm_append_comm).append_left values
    · rw [if_neg hk, List.lookup_cons, beq_false_of_ne hk, List.flatMap_cons, List.flatMap_cons,
        List.append_assoc]
      exact ih.append_left values

theorem flatMap_gather_perm (entries : List (κ × β)) :
    ((gather entries).flatMap Prod.snd).Perm (entries.map Prod.snd) := by
  induction entries using List.reverseRecOn with
  | nil => rfl
  | append_singleton entries entry ih =>
    rw [gather, List.foldl_append, List.foldl_cons, List.foldl_nil, ← gather, List.map_append]
    exact (flatMap_assign_perm _ _ _).trans (ih.append_right _)

variable {α : Type} [DecidableEq α]

def transitions (values : List α) : Nat :=
  (values.zip values.tail).countP (fun pair => pair.1 ≠ pair.2)

def change : Option α → Option α → Nat
  | some a, some b => if a = b then 0 else 1
  | _, _ => 0

@[simp] lemma transitions_nil : transitions ([] : List α) = 0 := rfl

@[simp] lemma transitions_singleton (a : α) : transitions [a] = 0 := rfl

lemma transitions_cons (a : α) (l : List α) :
    transitions (a :: l) = change (some a) l.head? + transitions l := by
  cases l with
  | nil => rfl
  | cons b l =>
    rw [transitions, List.tail_cons, List.zip_cons_cons, List.countP_cons, List.head?_cons, change,
      transitions, List.tail_cons, Nat.add_comm]
    by_cases h : a = b
    · simp [h]
    · simp [h]

@[simp] lemma change_none_left (b : Option α) : change none b = 0 := rfl

@[simp] lemma change_none_right (a : Option α) : change a none = 0 := by
  cases a with
  | none => rfl
  | some a => rfl

lemma transitions_append (l l' : List α) :
    transitions (l ++ l') = transitions l + change l.getLast? l'.head? + transitions l' := by
  induction l with
  | nil => simp
  | cons a l ih =>
    rw [List.cons_append, transitions_cons, transitions_cons, ih]
    cases l with
    | nil => simp
    | cons b l =>
      rw [List.cons_append, List.head?_cons, List.head?_cons, List.getLast?_cons_cons]
      omega

theorem transitions_replicate (n : Nat) (l : List α) :
    transitions (List.replicate (n + 1) l).flatten =
      (n + 1) * transitions l + n * change l.getLast? l.head? := by
  induction n with
  | zero => simp
  | succ n ih =>
    have hhead : (List.replicate (n + 1) l).flatten.head? = l.head? := by
      rw [List.replicate_succ, List.flatten_cons, List.head?_append]
      cases l with
      | nil => simp
      | cons a l => rfl
    rw [List.replicate_succ, List.flatten_cons, transitions_append, ih, hhead]
    ring

end Gathering
