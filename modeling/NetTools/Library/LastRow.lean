import Mathlib.Data.List.Perm.Lattice
import Mathlib.Data.List.Induction
import Mathlib.Data.List.Nodup
import NetTools.Library.ListSearch

/-!
# Rows matched by a key

A table is turned into a dictionary by a key that its rows need not have and may share, and of
the rows that share a key the last one stays. Two tables whose last rows agree are the same up
to order exactly when the rows that did not stay are.
-/

namespace LastRow

variable {ρ κ W : Type} [DecidableEq κ]

/-- `d[k] = r`. -/
def assign (d : List (κ × ρ)) (k : κ) (r : ρ) : List (κ × ρ) :=
  match d with
  | [] => [(k, r)]
  | (k', r') :: d => if k = k' then (k, r) :: d else (k', r') :: assign d k r

lemma lookup_assign (d : List (κ × ρ)) (k : κ) (r : ρ) (k' : κ) :
    (assign d k r).lookup k' = if k' = k then some r else d.lookup k' := by
  induction d with
  | nil =>
    rw [assign]
    by_cases h : k' = k
    · rw [if_pos h, h, List.lookup_cons_self]
    · rw [if_neg h, List.lookup_cons, beq_eq_false_iff_ne.mpr h]
  | cons entry d ih =>
    obtain ⟨k₀, r₀⟩ := entry
    rw [assign]
    by_cases hk : k = k₀
    · rw [if_pos hk]
      by_cases h : k' = k
      · rw [if_pos h, h, List.lookup_cons_self]
      · rw [if_neg h, List.lookup_cons, beq_eq_false_iff_ne.mpr h, List.lookup_cons,
          beq_eq_false_iff_ne.mpr (hk ▸ h)]
    · rw [if_neg hk, List.lookup_cons, List.lookup_cons, ih]
      by_cases h : k' = k₀
      · rw [h, beq_self_eq_true]
        exact (if_neg (fun heq : k₀ = k => hk heq.symm)).symm
      · rw [beq_eq_false_iff_ne.mpr h]

lemma mem_keys_assign {d : List (κ × ρ)} {k k' : κ} {r : ρ} :
    k' ∈ (assign d k r).map Prod.fst ↔ k' = k ∨ k' ∈ d.map Prod.fst := by
  induction d with
  | nil =>
    rw [assign]
    simp
  | cons entry d ih =>
    rw [assign]
    split
    · rename_i h
      rw [List.map_cons, List.map_cons, List.mem_cons, List.mem_cons, ← h, or_self_left]
    · rw [List.map_cons, List.map_cons, List.mem_cons, List.mem_cons, ih, or_left_comm]

lemma assign_of_notMem {d : List (κ × ρ)} {k : κ} (h : k ∉ d.map Prod.fst) (r : ρ) :
    assign d k r = d ++ [(k, r)] := by
  induction d with
  | nil => rfl
  | cons entry d ih =>
    rw [List.map_cons, List.mem_cons, not_or] at h
    rw [assign, if_neg h.1, ih h.2]
    rfl

lemma keys_assign_of_mem {d : List (κ × ρ)} {k : κ} (h : k ∈ d.map Prod.fst) (r : ρ) :
    (assign d k r).map Prod.fst = d.map Prod.fst := by
  induction d with
  | nil => cases h
  | cons entry d ih =>
    rw [assign]
    split
    · rename_i hk
      rw [List.map_cons, List.map_cons, hk]
    · rename_i hk
      rw [List.map_cons, List.mem_cons] at h
      rw [List.map_cons, List.map_cons, ih (h.resolve_left hk)]

lemma foldl_assign_eq {entries d : List (κ × ρ)} (h : ((d ++ entries).map Prod.fst).Nodup) :
    entries.foldl (fun d entry => assign d entry.1 entry.2) d = d ++ entries := by
  induction entries generalizing d with
  | nil => exact (List.append_nil d).symm
  | cons entry entries ih =>
    have hsplit : d ++ entry :: entries = d ++ [entry] ++ entries := by simp
    have hnew : entry.1 ∉ d.map Prod.fst := by
      rw [List.map_append, List.nodup_append] at h
      intro hmem
      exact h.2.2 _ hmem _ (List.mem_map_of_mem List.mem_cons_self) rfl
    rw [hsplit] at h ⊢
    rw [List.foldl_cons, assign_of_notMem hnew, ih h]

lemma foldl_assign_nil {entries : List (κ × ρ)} (h : (entries.map Prod.fst).Nodup) :
    entries.foldl (fun d entry => assign d entry.1 entry.2) [] = entries :=
  foldl_assign_eq (d := []) h

lemma nodup_assign {d : List (κ × ρ)} (h : (d.map Prod.fst).Nodup) (k : κ) (r : ρ) :
    ((assign d k r).map Prod.fst).Nodup := by
  induction d with
  | nil => exact List.nodup_singleton k
  | cons entry d ih =>
    rw [List.map_cons, List.nodup_cons] at h
    rw [assign]
    split
    · rename_i hk
      rw [List.map_cons, List.nodup_cons, hk]
      exact h
    · rename_i hk
      rw [List.map_cons, List.nodup_cons, mem_keys_assign, not_or]
      exact ⟨⟨Ne.symm hk, h.1⟩, ih h.2⟩

lemma lookup_eq_some_iff_mem {d : List (κ × ρ)} (h : (d.map Prod.fst).Nodup) {k : κ} {r : ρ} :
    d.lookup k = some r ↔ (k, r) ∈ d := by
  constructor
  · exact ListSearch.mem_of_lookup
  · intro hmem
    refine ListSearch.lookup_of_mem hmem (fun r' hmem' => ?_)
    have hentry := List.inj_on_of_nodup_map h hmem' hmem rfl
    exact congrArg Prod.snd hentry

lemma mem_keys_iff {d : List (κ × ρ)} {k : κ} : k ∈ d.map Prod.fst ↔ (d.lookup k).isSome := by
  constructor
  · intro h
    rw [← Option.ne_none_iff_isSome]
    intro hnone
    obtain ⟨entry, hentry, rfl⟩ := List.mem_map.mp h
    exact bne_iff_ne.mp (List.lookup_eq_none_iff.mp hnone entry hentry) rfl
  · intro h
    obtain ⟨r, hr⟩ := Option.isSome_iff_exists.mp h
    exact List.mem_map_of_mem (ListSearch.mem_of_lookup hr)

theorem perm_map_of_lookup {d d' : List (κ × ρ)} (h : (d.map Prod.fst).Nodup)
    (h' : (d'.map Prod.fst).Nodup) (view : κ × ρ → W)
    (hview : ∀ k, (d.lookup k).map (fun r => view (k, r)) =
      (d'.lookup k).map (fun r => view (k, r))) : (d.map view).Perm (d'.map view) := by
  have hread : ∀ e : List (κ × ρ), (e.map Prod.fst).Nodup → (e.map view).map some =
      (e.map Prod.fst).map (fun k => (e.lookup k).map (fun r => view (k, r))) := by
    intro e he
    rw [List.map_map, List.map_map]
    apply List.map_congr_left
    intro entry hentry
    have hlookup := (lookup_eq_some_iff_mem he).mpr hentry
    simp only [Function.comp_apply, hlookup, Option.map_some]
  have hkeys : (d.map Prod.fst).Perm (d'.map Prod.fst) := by
    rw [List.perm_ext_iff_of_nodup h h']
    intro k
    have hsome := congrArg Option.isSome (hview k)
    rw [Option.isSome_map, Option.isSome_map] at hsome
    rw [mem_keys_iff, mem_keys_iff, hsome]
  rw [← List.map_perm_map_iff (fun _ _ heq => Option.some.inj heq), hread d h, hread d' h', funext hview]
  exact hkeys.map _

variable (key : ρ → Option κ)

/-- `{key(r): r for r in rows}`, over the rows that have a key. -/
def index (rows : List ρ) : List (κ × ρ) :=
  rows.foldl (fun d r => match key r with
    | none => d
    | some k => assign d k r) []

def last? (rows : List ρ) (k : κ) : Option ρ := rows.reverse.find? (fun r => key r = some k)

variable {key}

lemma last?_append_singleton (rows : List ρ) (r : ρ) (k : κ) :
    last? key (rows ++ [r]) k = if key r = some k then some r else last? key rows k := by
  rw [last?, List.reverse_append, List.reverse_singleton, List.singleton_append, List.find?_cons]
  by_cases h : key r = some k
  · rw [decide_eq_true h, if_pos h]
  · rw [decide_eq_false h, if_neg h]
    rfl

theorem lookup_index (rows : List ρ) (k : κ) : (index key rows).lookup k = last? key rows k := by
  induction rows using List.reverseRecOn with
  | nil => rfl
  | append_singleton rows r ih =>
    rw [last?_append_singleton, index, List.foldl_append, List.foldl_cons, List.foldl_nil, ← index]
    cases hkey : key r with
    | none => rw [if_neg (Option.some_ne_none k).symm, ih]
    | some k₀ =>
      dsimp only
      rw [lookup_assign, ih]
      by_cases h : k = k₀
      · rw [if_pos h, if_pos (congrArg some h.symm)]
      · rw [if_neg h, if_neg (fun h' => h (Option.some.inj h').symm)]

lemma last?_eq_some {rows : List ρ} {k : κ} {r : ρ} (h : last? key rows k = some r) :
    r ∈ rows ∧ key r = some k := by
  have hmem := List.mem_of_find?_eq_some h
  have hkey := List.find?_some h
  exact ⟨List.mem_reverse.mp hmem, of_decide_eq_true hkey⟩

lemma last?_eq_none_iff {rows : List ρ} {k : κ} :
    last? key rows k = none ↔ ∀ r ∈ rows, key r ≠ some k := by
  rw [last?, List.find?_eq_none]
  constructor
  · intro h r hr hkey
    exact h r (List.mem_reverse.mpr hr) (decide_eq_true hkey)
  · intro h r hr hkey
    exact h r (List.mem_reverse.mp hr) (of_decide_eq_true hkey)

lemma last?_cons (r : ρ) (rows : List ρ) (k : κ) :
    last? key (r :: rows) k = (last? key rows k).or (if key r = some k then some r else none) := by
  rw [last?, List.reverse_cons, List.find?_append, ← last?]
  congr 1
  rw [List.find?_singleton]
  by_cases h : key r = some k
  · rw [decide_eq_true h, if_pos h, if_pos rfl]
  · rw [decide_eq_false h, if_neg h, if_neg Bool.false_ne_true]

def Stays (key : ρ → Option κ) (r : ρ) (later : List ρ) : Prop :=
  (key r).isSome ∧ ∀ r' ∈ later, key r' ≠ key r

instance (r : ρ) (later : List ρ) : Decidable (Stays key r later) :=
  inferInstanceAs (Decidable (_ ∧ ∀ r' ∈ later, _))

def shown (key : ρ → Option κ) : List ρ → List ρ
  | [] => []
  | r :: rows => if Stays key r rows then r :: shown key rows else shown key rows

def hidden (key : ρ → Option κ) : List ρ → List ρ
  | [] => []
  | r :: rows => if Stays key r rows then hidden key rows else r :: hidden key rows

lemma perm_shown_hidden (rows : List ρ) : (shown key rows ++ hidden key rows).Perm rows := by
  induction rows with
  | nil => exact List.Perm.refl []
  | cons r rows ih =>
    rw [shown, hidden]
    split
    · exact ih.cons r
    · exact List.perm_middle.trans (ih.cons r)

lemma mem_shown_iff {rows : List ρ} {r : ρ} :
    r ∈ shown key rows ↔ ∃ k, last? key rows k = some r := by
  induction rows with
  | nil =>
    constructor
    · intro h
      cases h
    · rintro ⟨k, h⟩
      cases h
  | cons r₀ rows ih =>
    rw [shown]
    split
    · rename_i hstays
      obtain ⟨hsome, hlater⟩ := hstays
      obtain ⟨k₀, hkey⟩ := Option.isSome_iff_exists.mp hsome
      have hnone : last? key rows k₀ = none :=
        last?_eq_none_iff.mpr (fun r' hr' => hkey ▸ hlater r' hr')
      rw [List.mem_cons, ih]
      constructor
      · rintro (rfl | ⟨k, h⟩)
        · exact ⟨k₀, by rw [last?_cons, hnone, if_pos hkey, Option.none_or]⟩
        · exact ⟨k, by rw [last?_cons, h, Option.some_or]⟩
      · rintro ⟨k, h⟩
        rw [last?_cons] at h
        cases hrest : last? key rows k with
        | some r' =>
          rw [hrest, Option.some_or] at h
          exact .inr ⟨k, by rw [hrest, h]⟩
        | none =>
          rw [hrest, Option.none_or] at h
          split at h
          · exact .inl (Option.some.inj h).symm
          · cases h
    · rename_i hstays
      rw [ih]
      constructor
      · rintro ⟨k, h⟩
        exact ⟨k, by rw [last?_cons, h, Option.some_or]⟩
      · rintro ⟨k, h⟩
        rw [last?_cons] at h
        cases hrest : last? key rows k with
        | some r' =>
          rw [hrest, Option.some_or] at h
          exact ⟨k, by rw [hrest, h]⟩
        | none =>
          rw [hrest, Option.none_or] at h
          split at h
          · rename_i hkey
            have hlater := last?_eq_none_iff.mp hrest
            exact absurd ⟨by rw [hkey]; rfl, fun r' hr' => hkey ▸ hlater r' hr'⟩ hstays
          · cases h

variable {keyOf : W → Option κ}

lemma nodup_shown_map (view : ρ → W) (hview : ∀ r, keyOf (view r) = key r)
    (rows : List ρ) : ((shown key rows).map view).Nodup := by
  induction rows with
  | nil => exact List.nodup_nil
  | cons r rows ih =>
    rw [shown]
    split
    · rename_i hstays
      rw [List.map_cons, List.nodup_cons]
      refine ⟨fun hmem => ?_, ih⟩
      obtain ⟨r', hr', hsame⟩ := List.mem_map.mp hmem
      obtain ⟨k, hlast⟩ := mem_shown_iff.mp hr'
      exact hstays.2 r' (last?_eq_some hlast).1 (by rw [← hview r', ← hview r, hsame])
    · exact ih

lemma perm_shown (view : ρ → W) (hview : ∀ r, keyOf (view r) = key r)
    {old new : List ρ}
    (h : ∀ k, (last? key old k).map view = (last? key new k).map view) :
    ((shown key old).map view).Perm ((shown key new).map view) := by
  rw [List.perm_ext_iff_of_nodup (nodup_shown_map view hview old) (nodup_shown_map view hview new)]
  have hmem (rows : List ρ) (w : W) :
      w ∈ (shown key rows).map view ↔ ∃ k, (last? key rows k).map view = some w := by
    rw [List.mem_map]
    constructor
    · rintro ⟨r, hr, hw⟩
      obtain ⟨k, hlast⟩ := mem_shown_iff.mp hr
      exact ⟨k, by rw [hlast, Option.map_some, hw]⟩
    · rintro ⟨k, hk⟩
      obtain ⟨r, hlast, hw⟩ := Option.map_eq_some_iff.mp hk
      exact ⟨r, mem_shown_iff.mpr ⟨k, hlast⟩, hw⟩
  intro w
  rw [hmem old, hmem new]
  simp only [h]

theorem perm_iff_hidden (view : ρ → W) (hview : ∀ r, keyOf (view r) = key r)
    {old new : List ρ}
    (h : ∀ k, (last? key old k).map view = (last? key new k).map view) :
    (old.map view).Perm (new.map view) ↔
      ((hidden key old).map view).Perm ((hidden key new).map view) := by
  have hsplit (rows : List ρ) :
      (rows.map view).Perm ((shown key rows).map view ++ (hidden key rows).map view) := by
    rw [← List.map_append]
    exact ((perm_shown_hidden rows).map view).symm
  have hshown := perm_shown view hview h
  constructor
  · intro hperm
    have happend := (hsplit old).symm.trans (hperm.trans (hsplit new))
    have hleft := (hshown.append_right ((hidden key old).map view)).symm.trans happend
    exact (List.perm_append_left_iff _).mp hleft
  · intro hperm
    exact (hsplit old).trans ((hshown.append hperm).trans (hsplit new).symm)

end LastRow
