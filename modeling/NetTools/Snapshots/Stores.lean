import Mathlib.Algebra.GroupWithZero.Nat
import NetTools.Egress.Projector
import NetTools.Library.Retention
import NetTools.Python.UtcTime

/-!
# The evidence stores

Snapshots of devices in files named after the time of the save, or in rows of a database that are
ordered by the time the evidence states.
-/

namespace NetTools

namespace Backends

variable (repr : Value → String)

/-- `[A-Za-z0-9_.-]{1,64}`, and neither "." nor "..". -/
def validDeviceName (device : String) : Bool :=
  decide (device ≠ "." ∧ device ≠ ".." ∧ device ≠ "") && decide (device.toList.length ≤ 64) &&
    device.toList.all (fun c => c.isAlphanum || c = '_' || c = '.' || c = '-')

/-- What `_validate_device_name` raises. -/
def invalidDeviceName (device : String) : String :=
  "invalid device name for evidence storage: " ++ repr (.str device)

def deviceOf (evidence : Dict) : String :=
  ((evidence.get? "device").getD (.str "unknown")).pyStr repr

def timestampOf (evidence : Dict) (now : UtcTime) : String :=
  match (evidence.get? "timestamp").filter Value.truthy with
  | some stated => stated.pyStr repr
  | none => now.isoformat

/-- Whether the item at a place of the oldest-first list survives. An age of `none` is infinite. -/
def retained {α : Type} (keepDays : Option ℚ) (keepCount : Option Int) (now : ℚ)
    (ageOf : α → Option ℚ) (length : Nat) (index : Nat) (item : α) : Bool :=
  if keepDays = none ∧ keepCount = none then true
  else
    (match keepCount with
      | some count => decide (0 < count) && decide (max 0 ((length : Int) - count) ≤ index)
      | none => false) ||
    (match keepDays with
      | some days =>
        match ageOf item with
        | some age => decide (now - days * 86400 ≤ age)
        | none => true
      | none => false)

structure PruneReport where
  removed : Nat
  devices : List (String × Nat)
  deriving DecidableEq

/-- The loop over the devices: `delete` removes what is expendable of one and counts it. -/
def pruneEach {σ : Type} (delete : σ → String → σ × Nat) :
    σ → List String → List (String × Nat) → σ × List (String × Nat)
  | store, [], removedByDevice => (store, removedByDevice)
  | store, device :: devices, removedByDevice =>
    let (store', count) := delete store device
    pruneEach delete store' devices
      (if count = 0 then removedByDevice else LastRow.assign removedByDevice device count)

def pruneReport (removedByDevice : List (String × Nat)) : PruneReport :=
  ⟨(removedByDevice.map Prod.snd).sum, removedByDevice⟩

structure SnapshotFile where
  device : String
  name : String
  mtime : ℚ
  evidence : Dict

/-- A device's directory holds its snapshots and its `golden.json`. -/
structure FileStore where
  root : String
  snapshots : List SnapshotFile := []
  golden : List (String × Dict) := []

/-- `f"{stamp}.json"`, with ":" replaced by "-" in the stamp. -/
def fileName (now : UtcTime) : String :=
  String.ofList ((now.written ':').map (fun c => if c = ':' then '-' else c)) ++ ".json"

namespace FileStore

def pathsIn (store : FileStore) (device : String) : List SnapshotFile :=
  (store.snapshots.filter (fun file => file.device = device)).insertionSort
    (fun file other => file.name ≤ other.name)

def timestampedPaths (store : FileStore) (device : String) : Except String (List SnapshotFile) :=
  if validDeviceName device then .ok (store.pathsIn device)
  else .error (invalidDeviceName repr device)

def saveSnapshot (store : FileStore) (evidence : Dict) (now : UtcTime) (mtime : ℚ) :
    Except String (String × FileStore) :=
  let device := deviceOf repr evidence
  if validDeviceName device then
    let name := fileName now
    .ok (store.root ++ "/" ++ device ++ "/" ++ name,
      { store with
        snapshots :=
          store.snapshots.filter (fun file => !decide (file.device = device ∧ file.name = name)) ++
            [⟨device, name, mtime, evidence⟩] })
  else .error (invalidDeviceName repr device)

def loadLatestSnapshot (store : FileStore) (device : String) : Except String (Option Dict) := do
  let paths ← store.timestampedPaths repr device
  return paths.getLast?.map SnapshotFile.evidence

def saveGoldenSnapshot (store : FileStore) (evidence : Dict) :
    Except String (String × FileStore) :=
  let device := deviceOf repr evidence
  if validDeviceName device then
    .ok (store.root ++ "/" ++ device ++ "/golden.json",
      { store with golden := LastRow.assign store.golden device evidence })
  else .error (invalidDeviceName repr device)

def loadGoldenSnapshot (store : FileStore) (device : String) : Except String (Option Dict) :=
  if validDeviceName device then .ok (store.golden.lookup device)
  else .error (invalidDeviceName repr device)

def listHistory (store : FileStore) (device : String) : Except String (List Dict) := do
  let paths ← store.timestampedPaths repr device
  return paths.map SnapshotFile.evidence

def listDevices (store : FileStore) : List String :=
  sortedNames ((store.snapshots.map SnapshotFile.device ++ store.golden.map Prod.fst).filter
    (fun device => !(store.pathsIn device).isEmpty))

/-- `path.unlink` for each of a device's paths that is not retained. -/
def deleteExpired (keepDays : Option ℚ) (keepCount : Option Int) (now : ℚ) (store : FileStore)
    (device : String) : FileStore × Nat :=
  let paths := store.pathsIn device
  let toDelete := Retention.chosen (fun index file =>
    !retained keepDays keepCount now (fun file => some (SnapshotFile.mtime file)) paths.length
      index file) paths
  ({ store with
      snapshots := store.snapshots.filter (fun file =>
        !decide (file.device = device ∧ file.name ∈ toDelete.map SnapshotFile.name)) },
    toDelete.length)

def prune (store : FileStore) (deviceName : Option String) (keepDays : Option ℚ)
    (keepCount : Option Int) (now : ℚ) : Except String (PruneReport × FileStore) :=
  match deviceName with
  | some device =>
    if validDeviceName device then
      let (store', removed) := pruneEach (deleteExpired keepDays keepCount now) store [device] []
      .ok (pruneReport removed, store')
    else .error (invalidDeviceName repr device)
  | none =>
    let (store', removed) :=
      pruneEach (deleteExpired keepDays keepCount now) store store.listDevices []
    .ok (pruneReport removed, store')

end FileStore

/-! ### The database -/

inductive Kind where
  | snapshot
  | golden
  deriving DecidableEq

structure Row where
  id : Nat
  device : String
  timestamp : String
  kind : Kind
  evidence : Dict

/-- `AUTOINCREMENT` hands out no id twice: `lastId` is the highest there ever was. -/
structure SqliteStore where
  path : String
  rows : List Row := []
  lastId : Nat := 0

namespace SqliteStore

/-- `WHERE device = ? AND kind = ?` -/
def rowsOf (store : SqliteStore) (device : String) (kind : Kind) : List Row :=
  store.rows.filter (fun row => row.device = device ∧ row.kind = kind)

def orderKey (row : Row) : String ×ₗ Nat := toLex (row.timestamp, row.id)

/-- `ORDER BY timestamp ASC, id ASC` -/
def snapshotRows (store : SqliteStore) (device : String) : List Row :=
  (store.rowsOf device .snapshot).insertionSort (fun row other => orderKey row ≤ orderKey other)

def identifier (store : SqliteStore) (id : Nat) : String :=
  "sqlite:" ++ store.path ++ "#" ++ toString id

/-- `INSERT INTO snapshots` -/
def insertRow (store : SqliteStore) (device timestamp : String) (kind : Kind) (evidence : Dict) :
    SqliteStore :=
  { store with
    rows := store.rows ++ [⟨store.lastId + 1, device, timestamp, kind, evidence⟩]
    lastId := store.lastId + 1 }

def saveSnapshot (store : SqliteStore) (evidence : Dict) (now : UtcTime) :
    Except String (String × SqliteStore) :=
  let device := deviceOf repr evidence
  if validDeviceName device then
    let store' := store.insertRow device (timestampOf repr evidence now) .snapshot evidence
    .ok (store.identifier store'.lastId, store')
  else .error (invalidDeviceName repr device)

/-- `DELETE FROM snapshots WHERE device = ? AND kind = 'golden'`, then the insertion. -/
def saveGoldenSnapshot (store : SqliteStore) (evidence : Dict) (now : UtcTime) :
    Except String (String × SqliteStore) :=
  let device := deviceOf repr evidence
  if validDeviceName device then
    let unpinned := { store with
      rows := store.rows.filter (fun row =>
        !decide (row.device = device ∧ row.kind = Kind.golden)) }
    let store' := unpinned.insertRow device (timestampOf repr evidence now) .golden evidence
    .ok (store.identifier store'.lastId, store')
  else .error (invalidDeviceName repr device)

/-- `ORDER BY timestamp DESC, id DESC LIMIT 1` -/
def loadLatestSnapshot (store : SqliteStore) (device : String) : Option Dict :=
  ((store.rowsOf device .snapshot).insertionSort
    (fun row other => orderKey other ≤ orderKey row)).head?.map Row.evidence

/-- `ORDER BY id DESC LIMIT 1` -/
def loadGoldenSnapshot (store : SqliteStore) (device : String) : Option Dict :=
  ((store.rowsOf device .golden).insertionSort (fun row other => other.id ≤ row.id)).head?.map
    Row.evidence

def listHistory (store : SqliteStore) (device : String) : List Dict :=
  (store.snapshotRows device).map Row.evidence

/-- `SELECT DISTINCT device … WHERE kind = 'snapshot' ORDER BY device` -/
def listDevices (store : SqliteStore) : List String :=
  sortedNames ((store.rows.filter (fun row => row.kind = .snapshot)).map Row.device)

/-- `DELETE FROM snapshots WHERE id IN (…)`. The age of a row is read from its timestamp. -/
def deleteExpired (rowEpochSeconds : String → Option ℚ) (keepDays : Option ℚ)
    (keepCount : Option Int) (now : ℚ) (store : SqliteStore) (device : String) :
    SqliteStore × Nat :=
  let rows := store.snapshotRows device
  let toDelete := Retention.chosen (fun index row =>
    !retained keepDays keepCount now (fun row => rowEpochSeconds (Row.timestamp row)) rows.length
      index row) rows
  ({ store with rows := store.rows.filter (fun row => !decide (row.id ∈ toDelete.map Row.id)) },
    toDelete.length)

def prune (rowEpochSeconds : String → Option ℚ) (store : SqliteStore) (deviceName : Option String)
    (keepDays : Option ℚ) (keepCount : Option Int) (now : ℚ) :
    Except String (PruneReport × SqliteStore) :=
  let delete := deleteExpired rowEpochSeconds keepDays keepCount now
  match deviceName with
  | some device =>
    if validDeviceName device then
      let (store', removed) := pruneEach delete store [device] []
      .ok (pruneReport removed, store')
    else .error (invalidDeviceName repr device)
  | none =>
    let (store', removed) := pruneEach delete store store.listDevices []
    .ok (pruneReport removed, store')

end SqliteStore

end Backends

end NetTools
