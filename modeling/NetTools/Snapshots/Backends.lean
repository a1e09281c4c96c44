import NetTools.Library.Runs
import NetTools.Library.Sorting
import NetTools.Snapshots.Stores

/-!
# The two backends

Both stores are read as one archive: what was saved of each device in the order of the saves, and
what is pinned. Files keep that order by their names. Rows keep it as long as no snapshot states an
earlier time than one stored before it.
-/

namespace NetTools

namespace Backends

@[ext] structure Archive where
  history : String → List Dict
  golden : String → Option Dict

namespace Archive

def save (a : Archive) (device : String) (evidence : Dict) : Archive :=
  { a with
    history := fun other =>
      if other = device then a.history other ++ [evidence] else a.history other }

def pin (a : Archive) (device : String) (evidence : Dict) : Archive :=
  { a with golden := fun other => if other = device then some evidence else a.golden other }

/-- The rule of `retained` when only a number of snapshots is given. -/
def keeps (keepCount : Option Int) (length index : Nat) : Bool :=
  retained none keepCount 0 (fun _ : Unit => none) length index ()

def keepNewest (a : Archive) (keepCount : Option Int) (device : String) : Archive :=
  { a with
    history := fun other =>
      if other = device then
        Retention.chosen (fun index _ => keeps keepCount (a.history other).length index)
          (a.history other)
      else a.history other }

def expendable (a : Archive) (keepCount : Option Int) (device : String) : Nat :=
  (Retention.chosen (fun index _ => !keeps keepCount (a.history device).length index)
    (a.history device)).length

end Archive

open Archive

lemma retained_none {α : Type} (keepCount : Option Int) (now : ℚ) (ageOf : α → Option ℚ)
    (length index : Nat) (item : α) :
    retained none keepCount now ageOf length index item = keeps keepCount length index := by
  cases keepCount with
  | none => rfl
  | some count => rfl

lemma sortedNames_congr {names others : List String} (h : ∀ name, name ∈ names ↔ name ∈ others) :
    sortedNames names = sortedNames others := by
  have hperm : names.dedup.Perm others.dedup := by
    rw [List.perm_ext_iff_of_nodup names.nodup_dedup others.nodup_dedup]
    intro name
    rw [List.mem_dedup, List.mem_dedup]
    exact h name
  exact Sorting.insertionSort_key_eq_of_perm id hperm (fun _ _ _ _ h => h)

section Loop

variable {σ τ : Type} {delete : σ → String → σ × Nat} {delete' : τ → String → τ × Nat}

lemma pruneEach_cons (store : σ) (device : String) (devices : List String)
    (removed : List (String × Nat)) :
    pruneEach delete store (device :: devices) removed =
      pruneEach delete (delete store device).1 devices
        (if (delete store device).2 = 0 then removed
          else LastRow.assign removed device (delete store device).2) := rfl

lemma pruneEach_rel {R : σ → τ → Prop}
    (h : ∀ store store' device, R store store' →
      R (delete store device).1 (delete' store' device).1 ∧
        (delete store device).2 = (delete' store' device).2) (devices : List String) {store : σ}
    {store' : τ} (hR : R store store') (removed : List (String × Nat)) :
    let pruned := pruneEach delete store devices removed
    let pruned' := pruneEach delete' store' devices removed
    R pruned.1 pruned'.1 ∧ pruned.2 = pruned'.2 := by
  induction devices generalizing store store' removed with
  | nil => exact ⟨hR, rfl⟩
  | cons device devices ih =>
    obtain ⟨hnext, hcount⟩ := h store store' device hR
    rw [pruneEach_cons, pruneEach_cons, hcount]
    exact ih hnext _

end Loop

/-! ### Files -/

lemma fileName_lt {t u : UtcTime} (h : t.key < u.key) : fileName t < fileName u := by
  rw [fileName, fileName, UtcTime.map_written, UtcTime.map_written, String.lt_iff_toList_lt,
    String.toList_append, String.toList_append]
  simp only [String.toList_ofList]
  exact UtcTime.written_lt h '-' _

namespace FileStore

variable {repr : Value → String} {store : FileStore}

def archive (store : FileStore) : Archive where
  history device :=
    (store.snapshots.filter (fun file => file.device = device)).map SnapshotFile.evidence
  golden device := store.golden.lookup device

/-- The files of a device are stored in the order of their names. -/
def Ordered (store : FileStore) : Prop :=
  store.snapshots.Pairwise (fun file later => file.device = later.device → file.name < later.name)

lemma pathsIn_pairwise (h : store.Ordered) (device : String) :
    (store.snapshots.filter (fun file => file.device = device)).Pairwise
      (fun file later => file.name < later.name) := by
  have hsub := List.Pairwise.sublist (List.filter_sublist (p := fun file : SnapshotFile =>
    decide (file.device = device))) h
  apply hsub.imp_of_mem
  intro file later hfile hlater hlt
  have hdevice := of_decide_eq_true (List.mem_filter.mp hfile).2
  have hdevice' := of_decide_eq_true (List.mem_filter.mp hlater).2
  exact hlt (hdevice.trans hdevice'.symm)

lemma pathsIn_eq (h : store.Ordered) (device : String) :
    store.pathsIn device = store.snapshots.filter (fun file => file.device = device) :=
  List.Pairwise.insertionSort_eq ((pathsIn_pairwise h device).imp fun hlt => hlt.le)

lemma map_pathsIn (h : store.Ordered) (device : String) :
    (store.pathsIn device).map SnapshotFile.evidence = store.archive.history device := by
  rw [pathsIn_eq h, archive]

lemma listHistory_eq (h : store.Ordered) {device : String} (hvalid : validDeviceName device) :
    store.listHistory repr device = .ok (store.archive.history device) := by
  rw [listHistory, timestampedPaths, if_pos hvalid, ← map_pathsIn h]
  rfl

lemma loadLatestSnapshot_eq (h : store.Ordered) {device : String}
    (hvalid : validDeviceName device) :
    store.loadLatestSnapshot repr device = .ok (store.archive.history device).getLast? := by
  rw [loadLatestSnapshot, timestampedPaths, if_pos hvalid, ← map_pathsIn h, List.getLast?_map]
  rfl

lemma loadGoldenSnapshot_eq {device : String} (hvalid : validDeviceName device) :
    store.loadGoldenSnapshot repr device = .ok (store.archive.golden device) := by
  rw [loadGoldenSnapshot, if_pos hvalid, archive]

lemma mem_devices_iff (h : store.Ordered) (device : String) :
    device ∈ (store.snapshots.map SnapshotFile.device ++ store.golden.map Prod.fst).filter
      (fun device => !(store.pathsIn device).isEmpty) ↔ store.archive.history device ≠ [] := by
  rw [List.mem_filter, Bool.not_eq_true', List.isEmpty_eq_false_iff, ← map_pathsIn h]
  simp only [ne_eq, List.map_eq_nil_iff, and_iff_right_iff_imp]
  intro hne
  obtain ⟨file, hfile⟩ := List.exists_mem_of_ne_nil _ hne
  rw [pathsIn_eq h] at hfile
  obtain ⟨hmem, hdevice⟩ := List.mem_filter.mp hfile
  rw [List.mem_append]
  exact .inl (List.mem_map.mpr ⟨file, hmem, of_decide_eq_true hdevice⟩)

/-- The name of the new file is later than those of the files stored. -/
def Before (store : FileStore) (now : UtcTime) : Prop :=
  ∀ file ∈ store.snapshots, file.name < fileName now

lemma saveSnapshot_spec (h : store.Ordered) {now : UtcTime} (hbefore : store.Before now)
    {evidence : Dict} (hvalid : validDeviceName (deviceOf repr evidence)) (mtime : ℚ) :
    ∃ path store', store.saveSnapshot repr evidence now mtime = .ok (path, store') ∧
      store'.snapshots =
        store.snapshots ++ [⟨deviceOf repr evidence, fileName now, mtime, evidence⟩] ∧
      store'.Ordered ∧ store'.archive = store.archive.save (deviceOf repr evidence) evidence := by
  have hkept : store.snapshots.filter (fun file =>
      !decide (file.device = deviceOf repr evidence ∧ file.name = fileName now)) =
        store.snapshots := by
    rw [List.filter_eq_self]
    intro file hfile
    rw [Bool.not_eq_true', decide_eq_false_iff_not]
    rintro ⟨-, hname⟩
    exact absurd hname (hbefore file hfile).ne
  refine ⟨_, _, if_pos hvalid, ?_, ?_, ?_⟩
  · rw [hkept]
  · rw [Ordered, hkept, List.pairwise_append]
    refine ⟨h, List.pairwise_singleton _ _, ?_⟩
    intro file hfile later hlater _
    rw [List.mem_singleton.mp hlater]
    exact hbefore file hfile
  · apply Archive.ext
    · funext device
      simp only [archive, hkept, save]
      by_cases hdevice : device = deviceOf repr evidence
      · simp [hdevice]
      · simp [hdevice, Ne.symm hdevice]
    · rfl

lemma saveGoldenSnapshot_archive (evidence : Dict) (device : String) (store : FileStore) :
    ({ store with golden := LastRow.assign store.golden device evidence } : FileStore).archive =
      store.archive.pin device evidence := by
  apply Archive.ext
  · rfl
  · funext other
    simp only [archive, pin, LastRow.lookup_assign]

def expiredNames (store : FileStore) (keepCount : Option Int) (device : String) : List String :=
  (Retention.chosen (fun index _ => !keeps keepCount (store.pathsIn device).length index)
    (store.pathsIn device)).map SnapshotFile.name

lemma deleteExpired_eq (keepCount : Option Int) (now : ℚ) (store : FileStore) (device : String) :
    deleteExpired none keepCount now store device =
      ({ store with
          snapshots := store.snapshots.filter (fun file =>
            !decide (file.device = device ∧ file.name ∈ store.expiredNames keepCount device)) },
        (store.expiredNames keepCount device).length) := by
  simp only [deleteExpired, retained_none, expiredNames, List.length_map]
  rfl

lemma filter_expiredNames (h : store.Ordered) (keepCount : Option Int) (device : String) :
    (store.pathsIn device).filter (fun file =>
        !decide (file.name ∈ store.expiredNames keepCount device)) =
      Retention.chosen (fun index _ => keeps keepCount (store.pathsIn device).length index)
        (store.pathsIn device) := by
  have hnodup : ((store.pathsIn device).map SnapshotFile.name).Nodup := by
    rw [pathsIn_eq h]
    exact List.pairwise_map.mpr ((pathsIn_pairwise h device).imp fun hlt => hlt.ne)
  exact Retention.filter_eq_chosen hnodup

lemma deleteExpired_ordered (h : store.Ordered) (keepCount : Option Int) (now : ℚ)
    (device : String) : (deleteExpired none keepCount now store device).1.Ordered := by
  rw [deleteExpired_eq]
  exact List.Pairwise.sublist List.filter_sublist h

lemma deleteExpired_archive (h : store.Ordered) (keepCount : Option Int) (now : ℚ)
    (device : String) :
    (deleteExpired none keepCount now store device).1.archive =
      store.archive.keepNewest keepCount device := by
  rw [deleteExpired_eq]
  apply Archive.ext
  · funext other
    simp only [archive, keepNewest, List.filter_filter]
    by_cases hdevice : other = device
    · subst hdevice
      rw [if_pos rfl, List.length_map, ← Retention.map_chosen, ← pathsIn_eq h,
        ← filter_expiredNames h, pathsIn_eq h, List.filter_filter]
      congr 1
      apply List.filter_congr
      intro file _
      by_cases hfile : file.device = other
      · simp [hfile]
      · simp [hfile]
    · rw [if_neg hdevice]
      congr 1
      apply List.filter_congr
      intro file _
      by_cases hfile : file.device = other
      · simp [hfile, hdevice]
      · simp [hfile]
  · rfl

lemma deleteExpired_count (h : store.Ordered) (keepCount : Option Int) (now : ℚ)
    (device : String) :
    (deleteExpired none keepCount now store device).2 =
      store.archive.expendable keepCount device := by
  rw [deleteExpired_eq, expendable, ← map_pathsIn h, ← Retention.map_chosen, expiredNames,
    List.length_map, List.length_map, List.length_map]

end FileStore

/-! ### Rows -/

namespace SqliteStore

variable {repr : Value → String} {store : SqliteStore}

def archive (store : SqliteStore) : Archive where
  history device := (store.rowsOf device .snapshot).map Row.evidence
  golden device := (store.rowsOf device .golden).getLast?.map Row.evidence

/-- The snapshots of a device are stored in the order of the times they state. -/
structure Ordered (store : SqliteStore) : Prop where
  ids : store.rows.Pairwise (fun row later => row.id < later.id)
  ids_le : ∀ row ∈ store.rows, row.id ≤ store.lastId
  times : store.rows.Pairwise (fun row later => row.device = later.device →
    row.kind = .snapshot → later.kind = .snapshot → row.timestamp ≤ later.timestamp)

lemma mem_rowsOf {device : String} {kind : Kind} {row : Row} :
    row ∈ store.rowsOf device kind ↔
      row ∈ store.rows ∧ row.device = device ∧ row.kind = kind := by
  rw [rowsOf, List.mem_filter, decide_eq_true_eq]

lemma rowsOf_pairwise (h : store.Ordered) (device : String) :
    (store.rowsOf device .snapshot).Pairwise (fun row later => orderKey row < orderKey later) := by
  have hboth := List.Pairwise.and h.ids h.times
  have hsub := List.Pairwise.sublist (List.filter_sublist (p := fun row : Row =>
    decide (row.device = device ∧ row.kind = .snapshot))) hboth
  apply hsub.imp_of_mem
  intro row later hrow hlater hlt
  obtain ⟨-, hdevice, hkind⟩ := mem_rowsOf.mp hrow
  obtain ⟨-, hdevice', hkind'⟩ := mem_rowsOf.mp hlater
  have htime := hlt.2 (hdevice.trans hdevice'.symm) hkind hkind'
  rw [orderKey, orderKey, Prod.Lex.toLex_lt_toLex]
  rcases htime.lt_or_eq with hearlier | hsame
  · exact .inl hearlier
  · exact .inr ⟨hsame, hlt.1⟩

lemma snapshotRows_eq (h : store.Ordered) (device : String) :
    store.snapshotRows device = store.rowsOf device .snapshot :=
  List.Pairwise.insertionSort_eq ((rowsOf_pairwise h device).imp fun hlt => hlt.le)

lemma map_snapshotRows (h : store.Ordered) (device : String) :
    (store.snapshotRows device).map Row.evidence = store.archive.history device := by
  rw [snapshotRows_eq h, archive]

lemma listHistory_eq (h : store.Ordered) (device : String) :
    store.listHistory device = store.archive.history device := map_snapshotRows h device

lemma loadLatestSnapshot_eq (h : store.Ordered) (device : String) :
    store.loadLatestSnapshot device = (store.archive.history device).getLast? := by
  rw [loadLatestSnapshot, Sorting.insertionSort_desc_of_pairwise orderKey
    (rowsOf_pairwise h device), List.head?_reverse, archive, List.getLast?_map]

lemma loadGoldenSnapshot_eq (h : store.Ordered) (device : String) :
    store.loadGoldenSnapshot device = store.archive.golden device := by
  have hids : (store.rowsOf device .golden).Pairwise (fun row later => row.id < later.id) :=
    List.Pairwise.sublist List.filter_sublist h.ids
  rw [loadGoldenSnapshot, Sorting.insertionSort_desc_of_pairwise Row.id hids, List.head?_reverse,
    archive]

lemma mem_devices_iff (device : String) :
    device ∈ (store.rows.filter (fun row => row.kind = .snapshot)).map Row.device ↔
      store.archive.history device ≠ [] := by
  rw [archive, List.mem_map]
  simp only [ne_eq, List.map_eq_nil_iff]
  constructor
  · rintro ⟨row, hrow, rfl⟩ hnil
    obtain ⟨hmem, hkind⟩ := List.mem_filter.mp hrow
    have hmem' : row ∈ store.rowsOf row.device .snapshot :=
      mem_rowsOf.mpr ⟨hmem, rfl, of_decide_eq_true hkind⟩
    rw [hnil] at hmem'
    cases hmem'
  · intro hne
    obtain ⟨row, hrow⟩ := List.exists_mem_of_ne_nil _ hne
    obtain ⟨hmem, hdevice, hkind⟩ := mem_rowsOf.mp hrow
    exact ⟨row, List.mem_filter.mpr ⟨hmem, decide_eq_true hkind⟩, hdevice⟩

lemma ordered_of_sublist (h : store.Ordered) {rows : List Row} (hsub : rows.Sublist store.rows) :
    ({ store with rows := rows } : SqliteStore).Ordered where
  ids := List.Pairwise.sublist hsub h.ids
  ids_le row hrow := h.ids_le row (hsub.subset hrow)
  times := List.Pairwise.sublist hsub h.times

lemma insertRow_ordered (h : store.Ordered) {device timestamp : String} {kind : Kind}
    (htime : kind = .snapshot → ∀ row ∈ store.rowsOf device .snapshot, row.timestamp ≤ timestamp)
    (evidence : Dict) : (store.insertRow device timestamp kind evidence).Ordered where
  ids := by
    refine List.pairwise_append.mpr ⟨h.ids, List.pairwise_singleton _ _, ?_⟩
    intro row hrow later hlater
    rw [List.mem_singleton.mp hlater]
    exact Nat.lt_succ_of_le (h.ids_le row hrow)
  ids_le := by
    intro row hrow
    rcases List.mem_append.mp hrow with hold | hnew
    · exact Nat.le_succ_of_le (h.ids_le row hold)
    · rw [List.mem_singleton.mp hnew]
      exact le_rfl
  times := by
    refine List.pairwise_append.mpr ⟨h.times, List.pairwise_singleton _ _, ?_⟩
    intro row hrow later hlater
    rw [List.mem_singleton.mp hlater]
    intro hdevice hkind hkind'
    exact htime hkind' row (mem_rowsOf.mpr ⟨hrow, hdevice, hkind⟩)

lemma rowsOf_insertRow (store : SqliteStore) (device timestamp : String) (kind : Kind)
    (evidence : Dict) (other : String) (kind' : Kind) :
    (store.insertRow device timestamp kind evidence).rowsOf other kind' =
      store.rowsOf other kind' ++ if device = other ∧ kind = kind' then
        [⟨store.lastId + 1, device, timestamp, kind, evidence⟩] else [] := by
  rw [rowsOf, insertRow, List.filter_append, List.filter_singleton, rowsOf]
  by_cases hsame : device = other ∧ kind = kind'
  · simp [hsame]
  · simp [hsame]

lemma insertRow_snapshot_archive (store : SqliteStore) (device timestamp : String)
    (evidence : Dict) :
    (store.insertRow device timestamp .snapshot evidence).archive =
      store.archive.save device evidence := by
  apply Archive.ext
  · funext other
    simp only [archive, save, rowsOf_insertRow]
    by_cases hdevice : other = device
    · simp [hdevice]
    · simp [hdevice, Ne.symm hdevice]
  · funext other
    simp [archive, save, rowsOf_insertRow]

def unpinned (store : SqliteStore) (device : String) : SqliteStore :=
  { store with
    rows := store.rows.filter (fun row =>
      !decide (row.device = device ∧ row.kind = Kind.golden)) }

lemma unpinned_archive (store : SqliteStore) (device timestamp : String) (evidence : Dict) :
    ((store.unpinned device).insertRow device timestamp .golden evidence).archive =
      store.archive.pin device evidence := by
  have hrows : ∀ other kind, ¬(other = device ∧ kind = Kind.golden) →
      (store.unpinned device).rowsOf other kind = store.rowsOf other kind := by
    intro other kind hne
    rw [rowsOf, unpinned, List.filter_filter, rowsOf]
    apply List.filter_congr
    intro row _
    rw [Bool.and_eq_left_iff_imp, decide_eq_true_eq, Bool.not_eq_true', decide_eq_false_iff_not]
    rintro ⟨hdevice, hkind⟩ ⟨hdevice', hkind'⟩
    exact hne ⟨hdevice.symm.trans hdevice', hkind.symm.trans hkind'⟩
  apply Archive.ext
  · funext other
    simp only [archive, pin, rowsOf_insertRow]
    rw [hrows other .snapshot (by simp)]
    simp
  · funext other
    simp only [archive, pin, rowsOf_insertRow]
    by_cases hdevice : other = device
    · simp [hdevice]
    · rw [hrows other .golden (fun h => hdevice h.1)]
      simp [hdevice, Ne.symm hdevice]

variable {rowEpochSeconds : String → Option ℚ}

def expiredIds (store : SqliteStore) (keepCount : Option Int) (device : String) : List Nat :=
  (Retention.chosen (fun index _ => !keeps keepCount (store.snapshotRows device).length index)
    (store.snapshotRows device)).map Row.id

lemma deleteExpired_eq (keepCount : Option Int) (now : ℚ) (store : SqliteStore)
    (device : String) :
    deleteExpired rowEpochSeconds none keepCount now store device =
      ({ store with
          rows := store.rows.filter (fun row =>
            !decide (row.id ∈ store.expiredIds keepCount device)) },
        (store.expiredIds keepCount device).length) := by
  simp only [deleteExpired, retained_none, expiredIds, List.length_map]
  rfl

lemma filter_expiredIds (h : store.Ordered) (keepCount : Option Int) (device : String) :
    (store.snapshotRows device).filter (fun row =>
        !decide (row.id ∈ store.expiredIds keepCount device)) =
      Retention.chosen (fun index _ => keeps keepCount (store.snapshotRows device).length index)
        (store.snapshotRows device) := by
  have hnodup : ((store.snapshotRows device).map Row.id).Nodup := by
    rw [snapshotRows_eq h]
    have hids := List.Pairwise.sublist (List.filter_sublist (p := fun row : Row =>
      decide (row.device = device ∧ row.kind = .snapshot))) h.ids
    exact List.pairwise_map.mpr (hids.imp fun hlt => hlt.ne)
  exact Retention.filter_eq_chosen hnodup

lemma not_mem_expiredIds (h : store.Ordered) (keepCount : Option Int) {device : String} {row : Row}
    (hrow : row ∈ store.rows) (hother : ¬(row.device = device ∧ row.kind = .snapshot)) :
    row.id ∉ store.expiredIds keepCount device := by
  intro hid
  obtain ⟨expired, hexpired, hsame⟩ := List.mem_map.mp hid
  have hmem := (Retention.chosen_sublist _ _).subset hexpired
  rw [snapshotRows_eq h] at hmem
  obtain ⟨hstored, hdevice, hkind⟩ := mem_rowsOf.mp hmem
  have hnodup : (store.rows.map Row.id).Nodup :=
    List.pairwise_map.mpr (h.ids.imp fun hlt => hlt.ne)
  have heq : expired = row := List.inj_on_of_nodup_map hnodup hstored hrow hsame
  exact hother ⟨heq ▸ hdevice, heq ▸ hkind⟩

lemma deleteExpired_ordered (h : store.Ordered) (keepCount : Option Int) (now : ℚ)
    (device : String) :
    (deleteExpired rowEpochSeconds none keepCount now store device).1.Ordered := by
  rw [deleteExpired_eq]
  exact ordered_of_sublist h List.filter_sublist

lemma deleteExpired_archive (h : store.Ordered) (keepCount : Option Int) (now : ℚ)
    (device : String) :
    (deleteExpired rowEpochSeconds none keepCount now store device).1.archive =
      store.archive.keepNewest keepCount device := by
  have hrows : ∀ other kind, ¬(other = device ∧ kind = Kind.snapshot) →
      (store.rows.filter (fun row => !decide (row.id ∈ store.expiredIds keepCount device))).filter
        (fun row => row.device = other ∧ row.kind = kind) = store.rowsOf other kind := by
    intro other kind hne
    rw [List.filter_filter, rowsOf]
    apply List.filter_congr
    intro row hrow
    rw [Bool.and_eq_left_iff_imp, decide_eq_true_eq, Bool.not_eq_true', decide_eq_false_iff_not]
    rintro ⟨hdevice, hkind⟩
    apply not_mem_expiredIds h keepCount hrow
    rintro ⟨hdevice', hkind'⟩
    exact hne ⟨hdevice.symm.trans hdevice', hkind.symm.trans hkind'⟩
  rw [deleteExpired_eq]
  apply Archive.ext
  · funext other
    simp only [archive, keepNewest]
    by_cases hdevice : other = device
    · subst hdevice
      rw [if_pos rfl, List.length_map, ← Retention.map_chosen, ← snapshotRows_eq h,
        ← filter_expiredIds h, snapshotRows_eq h, rowsOf, rowsOf, List.filter_comm]
    · rw [if_neg hdevice, rowsOf, hrows other .snapshot (fun hboth => hdevice hboth.1)]
  · funext other
    simp only [archive, keepNewest]
    rw [rowsOf, hrows other .golden (by simp)]

lemma deleteExpired_count (h : store.Ordered) (keepCount : Option Int) (now : ℚ)
    (device : String) :
    (deleteExpired rowEpochSeconds none keepCount now store device).2 =
      store.archive.expendable keepCount device := by
  rw [deleteExpired_eq, expendable, ← map_snapshotRows h, ← Retention.map_chosen, expiredIds,
    List.length_map, List.length_map, List.length_map]

end SqliteStore

end Backends

end NetTools
