import NetTools.Snapshots.Backends

/-!
# Interchangeable backends

The same calls reach a store of files and a database. As long as no saved snapshot states an
earlier time than one of its device that the database still holds, nobody can tell the two apart.
-/

namespace NetTools

namespace Backends

open Runs

inductive Op where
  | saveSnapshot (evidence : Dict) (now : UtcTime) (mtime : ℚ)
  | saveGoldenSnapshot (evidence : Dict) (now : UtcTime)
  | prune (deviceName : Option String) (keepCount : Option Int) (now : ℚ)

structure World where
  files : FileStore
  sqlite : SqliteStore
  lastSave : Option UtcTime := none

namespace World

def empty (root path : String) : World := ⟨{ root := root }, { path := path }, none⟩

def after {σ α : Type} (store : σ) : Except String (α × σ) → σ
  | .ok (_, store') => store'
  | .error _ => store

variable (repr : Value → String) (rowEpochSeconds : String → Option ℚ)

def step (w : World) : Op → World
  | .saveSnapshot evidence now mtime =>
    ⟨after w.files (w.files.saveSnapshot repr evidence now mtime),
      after w.sqlite (w.sqlite.saveSnapshot repr evidence now), some now⟩
  | .saveGoldenSnapshot evidence now =>
    ⟨after w.files (w.files.saveGoldenSnapshot repr evidence),
      after w.sqlite (w.sqlite.saveGoldenSnapshot repr evidence now), w.lastSave⟩
  | .prune deviceName keepCount now =>
    ⟨after w.files (w.files.prune repr deviceName none keepCount now),
      after w.sqlite (w.sqlite.prune repr rowEpochSeconds deviceName none keepCount now),
      w.lastSave⟩

def SavedLater (w : World) : Op → Prop
  | .saveSnapshot _ now _ => ∀ saved ∈ w.lastSave, saved.key < now.key
  | _ => True

/-- A snapshot states no earlier time than those stored of its device. -/
def StatedInOrder (w : World) : Op → Prop
  | .saveSnapshot evidence now _ =>
    ∀ row ∈ w.sqlite.rowsOf (deviceOf repr evidence) .snapshot,
      row.timestamp ≤ timestampOf repr evidence now
  | _ => True

instance (w : World) : DecidablePred w.SavedLater
  | .saveSnapshot _ now _ =>
    inferInstanceAs (Decidable (∀ saved ∈ w.lastSave, saved.key < now.key))
  | .saveGoldenSnapshot _ _ => .isTrue trivial
  | .prune _ _ _ => .isTrue trivial

instance (w : World) : DecidablePred (w.StatedInOrder repr)
  | .saveSnapshot evidence now _ =>
    inferInstanceAs (Decidable (∀ row ∈ w.sqlite.rowsOf (deviceOf repr evidence) .snapshot,
      row.timestamp ≤ timestampOf repr evidence now))
  | .saveGoldenSnapshot _ _ => .isTrue trivial
  | .prune _ _ _ => .isTrue trivial

/-- What is read of the two stores is the same, and the latest snapshot is the last of the
history. -/
structure ReadsAlike (w : World) : Prop where
  latest : ∀ device, validDeviceName device →
    w.files.loadLatestSnapshot repr device = .ok (w.sqlite.loadLatestSnapshot device)
  golden : ∀ device, validDeviceName device →
    w.files.loadGoldenSnapshot repr device = .ok (w.sqlite.loadGoldenSnapshot device)
  history : ∀ device, validDeviceName device →
    w.files.listHistory repr device = .ok (w.sqlite.listHistory device)
  devices : w.files.listDevices = w.sqlite.listDevices
  latest_files : ∀ device,
    w.files.loadLatestSnapshot repr device = (w.files.listHistory repr device).map List.getLast?
  latest_sqlite : ∀ device,
    w.sqlite.loadLatestSnapshot device = (w.sqlite.listHistory device).getLast?

structure Matched (w : World) : Prop where
  files : w.files.Ordered
  sqlite : w.sqlite.Ordered
  archive : w.files.archive = w.sqlite.archive
  stamped : ∀ file ∈ w.files.snapshots, ∃ saved ∈ w.lastSave, ∃ t : UtcTime,
    t.key ≤ saved.key ∧ file.name = fileName t

variable {w : World}

lemma Matched.before (h : w.Matched) {evidence : Dict} {now : UtcTime} {mtime : ℚ}
    (hlater : w.SavedLater (.saveSnapshot evidence now mtime)) : w.files.Before now := by
  intro file hfile
  obtain ⟨saved, hsaved, t, hle, hname⟩ := h.stamped file hfile
  rw [hname]
  exact fileName_lt (hle.trans_lt (hlater saved hsaved))

lemma Matched.readsAlike (h : w.Matched) : w.ReadsAlike repr where
  latest device hvalid := by
    rw [FileStore.loadLatestSnapshot_eq h.files hvalid, h.archive,
      SqliteStore.loadLatestSnapshot_eq h.sqlite]
  golden device hvalid := by
    rw [FileStore.loadGoldenSnapshot_eq hvalid, h.archive,
      SqliteStore.loadGoldenSnapshot_eq h.sqlite]
  history device hvalid := by
    rw [FileStore.listHistory_eq h.files hvalid, h.archive, SqliteStore.listHistory_eq h.sqlite]
  devices := by
    apply sortedNames_congr
    intro device
    rw [FileStore.mem_devices_iff h.files, h.archive, SqliteStore.mem_devices_iff]
  latest_files device := by
    rw [FileStore.loadLatestSnapshot, FileStore.listHistory]
    cases w.files.timestampedPaths repr device with
    | error reason => rfl
    | ok paths => exact congrArg Except.ok (List.getLast?_map ..).symm
  latest_sqlite device := by
    rw [SqliteStore.loadLatestSnapshot_eq h.sqlite, SqliteStore.listHistory_eq h.sqlite]

lemma Matched.saveSnapshot (h : w.Matched) {evidence : Dict} {now : UtcTime} {mtime : ℚ}
    (hlater : w.SavedLater (.saveSnapshot evidence now mtime))
    (hstated : w.StatedInOrder repr (.saveSnapshot evidence now mtime)) :
    (w.step repr rowEpochSeconds (.saveSnapshot evidence now mtime)).Matched := by
  have hkept : ∀ file ∈ w.files.snapshots, ∃ saved ∈ some now, ∃ t : UtcTime,
      t.key ≤ saved.key ∧ file.name = fileName t := by
    intro file hfile
    obtain ⟨saved, hsaved, t, hle, hname⟩ := h.stamped file hfile
    exact ⟨now, rfl, t, hle.trans (hlater saved hsaved).le, hname⟩
  by_cases hvalid : validDeviceName (deviceOf repr evidence) = true
  · obtain ⟨path, store', hsave, hsnapshots, hordered, harchive⟩ :=
      FileStore.saveSnapshot_spec h.files (h.before hlater) hvalid mtime
    have hrow : w.sqlite.saveSnapshot repr evidence now =
        .ok (_, w.sqlite.insertRow (deviceOf repr evidence) (timestampOf repr evidence now)
          .snapshot evidence) := if_pos hvalid
    simp only [step, hsave, hrow, after]
    refine ⟨hordered, SqliteStore.insertRow_ordered h.sqlite (fun _ => hstated) evidence, ?_, ?_⟩
    · rw [harchive, SqliteStore.insertRow_snapshot_archive, h.archive]
    · intro file hfile
      rw [hsnapshots, List.mem_append, List.mem_singleton] at hfile
      rcases hfile with hold | rfl
      · exact hkept file hold
      · exact ⟨now, rfl, now, le_rfl, rfl⟩
  · have hfiles : w.files.saveSnapshot repr evidence now mtime = .error _ := if_neg hvalid
    have hrow : w.sqlite.saveSnapshot repr evidence now = .error _ := if_neg hvalid
    simp only [step, hfiles, hrow, after]
    exact ⟨h.files, h.sqlite, h.archive, hkept⟩

lemma Matched.saveGoldenSnapshot (h : w.Matched) (evidence : Dict) (now : UtcTime) :
    let w' := w.step repr rowEpochSeconds (.saveGoldenSnapshot evidence now)
    w'.Matched ∧ w'.files.snapshots = w.files.snapshots := by
  by_cases hvalid : validDeviceName (deviceOf repr evidence) = true
  · have hfiles : w.files.saveGoldenSnapshot repr evidence = .ok (_, { w.files with
        golden := LastRow.assign w.files.golden (deviceOf repr evidence) evidence }) :=
      if_pos hvalid
    have hrow : w.sqlite.saveGoldenSnapshot repr evidence now =
        .ok (_, (w.sqlite.unpinned (deviceOf repr evidence)).insertRow (deviceOf repr evidence)
          (timestampOf repr evidence now) .golden evidence) := if_pos hvalid
    simp only [step, hfiles, hrow, after]
    refine ⟨⟨h.files, ?_, ?_, h.stamped⟩, trivial⟩
    · apply SqliteStore.insertRow_ordered
      · exact SqliteStore.ordered_of_sublist h.sqlite List.filter_sublist
      · exact fun hkind => nomatch hkind
    · rw [FileStore.saveGoldenSnapshot_archive, SqliteStore.unpinned_archive, h.archive]
  · have hfiles : w.files.saveGoldenSnapshot repr evidence = .error _ := if_neg hvalid
    have hrow : w.sqlite.saveGoldenSnapshot repr evidence now = .error _ := if_neg hvalid
    simp only [step, hfiles, hrow, after]
    exact ⟨⟨h.files, h.sqlite, h.archive, h.stamped⟩, trivial⟩

/-- The two stores while devices of `w` are pruned one after the other. -/
structure Pruning (w : World) (files : FileStore) (sqlite : SqliteStore) : Prop where
  ordered : files.Ordered
  ordered' : sqlite.Ordered
  archive : files.archive = sqlite.archive
  fewer : files.snapshots.Sublist w.files.snapshots
  golden : files.golden = w.files.golden

lemma Pruning.deleteExpired {files : FileStore} {sqlite : SqliteStore}
    (h : Pruning w files sqlite) (keepCount : Option Int) (now : ℚ) (device : String) :
    let files' := FileStore.deleteExpired none keepCount now files device
    let sqlite' := SqliteStore.deleteExpired rowEpochSeconds none keepCount now sqlite device
    Pruning w files'.1 sqlite'.1 ∧ files'.2 = sqlite'.2 := by
  refine ⟨⟨?_, ?_, ?_, ?_, ?_⟩, ?_⟩
  · exact FileStore.deleteExpired_ordered h.ordered keepCount now device
  · exact SqliteStore.deleteExpired_ordered h.ordered' keepCount now device
  · rw [FileStore.deleteExpired_archive h.ordered, SqliteStore.deleteExpired_archive h.ordered',
      h.archive]
  · exact List.filter_sublist.trans h.fewer
  · exact h.golden
  · rw [FileStore.deleteExpired_count h.ordered, SqliteStore.deleteExpired_count h.ordered',
      h.archive]

lemma Matched.pruneEach (h : w.Matched) (keepCount : Option Int) (now : ℚ)
    (devices : List String) :
    let files' :=
      Backends.pruneEach (FileStore.deleteExpired none keepCount now) w.files devices []
    let sqlite' := Backends.pruneEach
      (SqliteStore.deleteExpired rowEpochSeconds none keepCount now) w.sqlite devices []
    Pruning w files'.1 sqlite'.1 ∧ files'.2 = sqlite'.2 :=
  pruneEach_rel
    (fun _ _ device hpruning => hpruning.deleteExpired rowEpochSeconds keepCount now device) devices
    ⟨h.files, h.sqlite, h.archive, List.Sublist.refl _, rfl⟩ []

lemma Matched.prune (h : w.Matched) (deviceName : Option String) (keepCount : Option Int)
    (now : ℚ) :
    let w' := w.step repr rowEpochSeconds (.prune deviceName keepCount now)
    Pruning w w'.files w'.sqlite ∧
      (w.files.prune repr deviceName none keepCount now).map Prod.fst =
        (w.sqlite.prune repr rowEpochSeconds deviceName none keepCount now).map Prod.fst := by
  have hsame : Pruning w w.files w.sqlite :=
    ⟨h.files, h.sqlite, h.archive, List.Sublist.refl _, rfl⟩
  cases deviceName with
  | none =>
    have hdevices := (h.readsAlike repr).devices
    obtain ⟨hpruning, hremoved⟩ := h.pruneEach rowEpochSeconds keepCount now w.sqlite.listDevices
    simp only [step, FileStore.prune, SqliteStore.prune, after, hdevices]
    exact ⟨hpruning, congrArg (fun removed => Except.ok (pruneReport removed)) hremoved⟩
  | some device =>
    obtain ⟨hpruning, hremoved⟩ := h.pruneEach rowEpochSeconds keepCount now [device]
    simp only [step, FileStore.prune, SqliteStore.prune]
    by_cases hvalid : validDeviceName device = true
    · simp only [if_pos hvalid, after]
      exact ⟨hpruning, congrArg (fun removed => Except.ok (pruneReport removed)) hremoved⟩
    · simp only [if_neg hvalid, after]
      exact ⟨hsame, rfl⟩

lemma Matched.step_prune (h : w.Matched) (deviceName : Option String) (keepCount : Option Int)
    (now : ℚ) : (w.step repr rowEpochSeconds (.prune deviceName keepCount now)).Matched := by
  obtain ⟨hpruning, -⟩ := h.prune repr rowEpochSeconds deviceName keepCount now
  exact ⟨hpruning.ordered, hpruning.ordered', hpruning.archive,
    fun file hfile => h.stamped file (hpruning.fewer.subset hfile)⟩

lemma Matched.step (h : w.Matched) {op : Op} (hlater : w.SavedLater op)
    (hstated : w.StatedInOrder repr op) : (w.step repr rowEpochSeconds op).Matched := by
  cases op with
  | saveSnapshot evidence now mtime => exact h.saveSnapshot repr rowEpochSeconds hlater hstated
  | saveGoldenSnapshot evidence now =>
    exact (h.saveGoldenSnapshot repr rowEpochSeconds evidence now).1
  | prune deviceName keepCount now =>
    exact h.step_prune repr rowEpochSeconds deviceName keepCount now

def collected (timestamp : String) : Dict :=
  [("device", .str "PE1"), ("timestamp", .str timestamp)]

end World

end Backends

end NetTools
