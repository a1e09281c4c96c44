import Mathlib.Data.List.Nodup

/-!
# Tables with a primary key

A table is a list of rows no two of which have the same key. Insertion of a key that is
already there leaves the table alone, as a database refuses it, and an update of one row
may change every column but the key.
-/

/-- The rows of a table in insertion order, at most one for each key. -/
@[ext] structure KeyedTable {ρ κ : Type} (key : ρ → κ) where
  rows : List ρ
  nodup : (rows.map key).Nodup

namespace KeyedTable

variable {ρ κ : Type} [DecidableEq κ] {key : ρ → κ}

def empty : KeyedTable key := ⟨[], by simp⟩

def get? (t : KeyedTable key) (k : κ) : Option ρ := t.rows.find? (fun r => decide (key r = k))

lemma mem_of_get? {t : KeyedTable key} {k : κ} {r : ρ} (h : t.get? k = some r) : r ∈ t.rows :=
  List.mem_of_find?_eq_some h

lemma key_of_get? {t : KeyedTable key} {k : κ} {r : ρ} (h : t.get? k = some r) : key r = k := by
  simpa using List.find?_some h

lemma get?_eq_none_iff {t : KeyedTable key} {k : κ} :
    t.get? k = none ↔ ∀ r ∈ t.rows, key r ≠ k := by
  simp [get?, List.find?_eq_none]

lemma get?_of_mem {t : KeyedTable key} {r : ρ} (h : r ∈ t.rows) : t.get? (key r) = some r := by
  cases hg : t.get? (key r) with
  | none => exact absurd rfl (get?_eq_none_iff.mp hg r h)
  | some r' => rw [List.inj_on_of_nodup_map t.nodup (mem_of_get? hg) h (key_of_get? hg)]

lemma eq_of_key_eq {t : KeyedTable key} {r r' : ρ} (hr : r ∈ t.rows) (hr' : r' ∈ t.rows)
    (h : key r = key r') : r = r' := by
  have hget := get?_of_mem hr
  rw [h, get?_of_mem hr'] at hget
  exact (Option.some.inj hget).symm

@[simp] lemma get?_empty (k : κ) : (empty : KeyedTable key).get? k = none := rfl

def insert (t : KeyedTable key) (r : ρ) : KeyedTable key :=
  if h : t.get? (key r) = none then
    ⟨t.rows ++ [r], by
      rw [List.map_append, List.map_singleton, List.nodup_append]
      refine ⟨t.nodup, by simp, ?_⟩
      rintro _ ha _ hb rfl
      obtain ⟨a, hmem, hkey⟩ := List.mem_map.mp ha
      exact get?_eq_none_iff.mp h a hmem (hkey.trans (List.mem_singleton.mp hb))⟩
  else t

def modify (t : KeyedTable key) (k : κ) (f : ρ → ρ) (hf : ∀ r, key (f r) = key r) :
    KeyedTable key :=
  ⟨t.rows.map (fun r => if key r = k then f r else r), by
    have hkeys : (t.rows.map (fun r => if key r = k then f r else r)).map key = t.rows.map key := by
      rw [List.map_map]
      refine List.map_congr_left (fun r _ => ?_)
      simp only [Function.comp_apply]
      split
      · exact hf r
      · rfl
    rw [hkeys]
    exact t.nodup⟩

def upsert (t : KeyedTable key) (r : ρ) (f : ρ → ρ) (hf : ∀ r, key (f r) = key r) :
    KeyedTable key :=
  if t.get? (key r) = none then t.insert r else t.modify (key r) f hf

def filter (t : KeyedTable key) (p : ρ → Bool) : KeyedTable key :=
  ⟨t.rows.filter p, (List.filter_sublist.map key).nodup t.nodup⟩

lemma rows_insert_of_none {t : KeyedTable key} {r : ρ} (h : t.get? (key r) = none) :
    (t.insert r).rows = t.rows ++ [r] := by
  rw [insert, dif_pos h]

lemma insert_of_some {t : KeyedTable key} {r r' : ρ} (h : t.get? (key r) = some r') :
    t.insert r = t := by
  rw [insert, dif_neg (by simp [h])]

lemma get?_insert_self {t : KeyedTable key} {r : ρ} (h : t.get? (key r) = none) :
    (t.insert r).get? (key r) = some r := by
  rw [get?, rows_insert_of_none h, List.find?_append]
  rw [get?] at h
  simp [h]

lemma get?_insert_of_ne {t : KeyedTable key} {r : ρ} {k : κ} (h : key r ≠ k) :
    (t.insert r).get? k = t.get? k := by
  cases hr : t.get? (key r) with
  | some r' => rw [insert_of_some hr]
  | none =>
    rw [get?, rows_insert_of_none hr, List.find?_append]
    simp [get?, h]

@[simp] lemma rows_modify (t : KeyedTable key) (k : κ) (f : ρ → ρ)
    (hf : ∀ r, key (f r) = key r) :
    (t.modify k f hf).rows = t.rows.map (fun r => if key r = k then f r else r) := rfl

lemma get?_modify (t : KeyedTable key) (k : κ) (f : ρ → ρ) (hf : ∀ r, key (f r) = key r)
    (k' : κ) :
    (t.modify k f hf).get? k' = (t.get? k').map (fun r => if key r = k then f r else r) := by
  have htest : (fun r => decide (key r = k')) ∘ (fun r => if key r = k then f r else r) =
      fun r => decide (key r = k') := by
    funext r
    simp only [Function.comp_apply]
    split
    · rw [hf r]
    · rfl
  rw [get?, get?, rows_modify, List.find?_map, htest]

lemma get?_modify_self {t : KeyedTable key} {k : κ} {f : ρ → ρ} (hf : ∀ r, key (f r) = key r)
    {r : ρ} (h : t.get? k = some r) : (t.modify k f hf).get? k = some (f r) := by
  simp [get?_modify, h, key_of_get? h]

lemma get?_modify_of_ne {t : KeyedTable key} {k k' : κ} {f : ρ → ρ}
    (hf : ∀ r, key (f r) = key r) (h : k' ≠ k) : (t.modify k f hf).get? k' = t.get? k' := by
  rw [get?_modify]
  cases hg : t.get? k' with
  | none => rfl
  | some r =>
    have hne : key r ≠ k := fun he => h ((key_of_get? hg).symm.trans he)
    simp [hne]

lemma get?_filter (t : KeyedTable key) (p : ρ → Bool) (k : κ) :
    (t.filter p).get? k = (t.get? k).filter p := by
  cases hg : t.get? k with
  | none =>
    have hrows := get?_eq_none_iff.mp hg
    rw [Option.filter_none, get?_eq_none_iff]
    intro r hr
    exact hrows r (List.mem_of_mem_filter hr)
  | some r =>
    by_cases hp : p r = true
    · have hmem : r ∈ (t.filter p).rows := List.mem_filter.mpr ⟨mem_of_get? hg, hp⟩
      rw [Option.filter_some_pos hp, ← key_of_get? hg, get?_of_mem hmem]
    · rw [Option.filter_some_neg (by simpa using hp), get?_eq_none_iff]
      intro r' hr' hkey
      obtain ⟨hmem, hp'⟩ := List.mem_filter.mp hr'
      have hsame := get?_of_mem hmem
      rw [hkey, hg] at hsame
      exact hp (Option.some.inj hsame ▸ hp')

lemma mem_modify {t : KeyedTable key} {k : κ} {f : ρ → ρ} {hf : ∀ r, key (f r) = key r}
    {row r : ρ} (hrow : t.get? k = some row) :
    r ∈ (t.modify k f hf).rows ↔ r = f row ∨ (r ∈ t.rows ∧ key r ≠ k) := by
  rw [rows_modify, List.mem_map]
  constructor
  · rintro ⟨r', hmem, rfl⟩
    by_cases hkey : key r' = k
    · have hsame : r' = row := by
        rw [← hkey, get?_of_mem hmem] at hrow
        exact Option.some.inj hrow
      exact .inl (by rw [if_pos hkey, hsame])
    · rw [if_neg hkey]
      exact .inr ⟨hmem, hkey⟩
  · rintro (rfl | ⟨hmem, hkey⟩)
    · exact ⟨row, mem_of_get? hrow, if_pos (key_of_get? hrow)⟩
    · exact ⟨r, hmem, if_neg hkey⟩

lemma mem_insert {t : KeyedTable key} {row r : ρ} (h : t.get? (key row) = none) :
    r ∈ (t.insert row).rows ↔ r ∈ t.rows ∨ r = row := by
  rw [rows_insert_of_none h, List.mem_append, List.mem_singleton]

lemma mem_of_mem_insert {t : KeyedTable key} {row r : ρ} (h : r ∈ (t.insert row).rows) :
    r ∈ t.rows ∨ r = row := by
  cases hg : t.get? (key row) with
  | none => exact (mem_insert hg).mp h
  | some row' =>
    rw [insert_of_some hg] at h
    exact .inl h

lemma mem_insert_of_mem {t : KeyedTable key} {row r : ρ} (h : r ∈ t.rows) :
    r ∈ (t.insert row).rows := by
  cases hg : t.get? (key row) with
  | none => exact (mem_insert hg).mpr (.inl h)
  | some row' =>
    rw [insert_of_some hg]
    exact h

lemma exists_key_insert (t : KeyedTable key) (row : ρ) :
    ∃ r ∈ (t.insert row).rows, key r = key row ∧ (r = row ∨ t.get? (key row) = some r) := by
  cases hg : t.get? (key row) with
  | none => exact ⟨row, (mem_insert hg).mpr (.inr rfl), rfl, .inl rfl⟩
  | some r =>
    rw [insert_of_some hg]
    exact ⟨r, mem_of_get? hg, key_of_get? hg, .inr rfl⟩

lemma mem_of_mem_upsert {t : KeyedTable key} {row r : ρ} {f : ρ → ρ}
    {hf : ∀ r, key (f r) = key r} (h : r ∈ (t.upsert row f hf).rows) :
    r ∈ t.rows ∨ r = row ∨ ∃ old ∈ t.rows, key old = key row ∧ r = f old := by
  unfold upsert at h
  split at h
  · rcases mem_of_mem_insert h with hold | rfl
    · exact .inl hold
    · exact .inr (.inl rfl)
  · rw [rows_modify, List.mem_map] at h
    obtain ⟨old, hold, rfl⟩ := h
    split
    · rename_i hkey
      exact .inr (.inr ⟨old, hold, hkey, rfl⟩)
    · exact .inl hold

lemma get?_upsert_of_ne {t : KeyedTable key} {r : ρ} {f : ρ → ρ}
    (hf : ∀ r, key (f r) = key r) {k : κ} (h : k ≠ key r) :
    (t.upsert r f hf).get? k = t.get? k := by
  unfold upsert
  split
  · exact get?_insert_of_ne h.symm
  · exact get?_modify_of_ne hf h

lemma get?_upsert_self {t : KeyedTable key} {r : ρ} {f : ρ → ρ}
    (hf : ∀ r, key (f r) = key r) :
    (t.upsert r f hf).get? (key r) = some (((t.get? (key r)).map f).getD r) := by
  unfold upsert
  cases hg : t.get? (key r) with
  | none => simpa using get?_insert_self hg
  | some r' => simpa using get?_modify_self hf hg

end KeyedTable
