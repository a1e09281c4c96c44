import NetTools.Library.ListSearch
import NetTools.Python.Value

/-!
# Evidence snapshots

What one collection of a device's evidence keeps of each intent, as the comparison of two
collections and the search for flaps read it. A field holds `None`, a text, or a value that is
only ever compared, so that values are a type with decidable equality.
-/

namespace NetTools

namespace Snapshots

inductive Cell (V : Type) where
  | none
  | text (s : String)
  | other (v : V)
  deriving DecidableEq

/-- The `meta` of an intent, or one row of its table. -/
structure Fields (V : Type) where
  entries : List (String × Cell V)
  distinct : (entries.map Prod.fst).Nodup

structure ParseResult (V : Type) where
  «meta» : Fields V
  records : List (Fields V)

/-- A section's `data`. A missing key reads as its empty value. -/
structure SectionData (V : Type) where
  commands : List (String × String) := []
  parsed : Option (ParseResult V) := Option.none
  parseStatus : Option String := Option.none

structure Section (V : Type) where
  status : Option String
  data : SectionData V

/-- One collection. `sections` are its entries that are dicts: any other entry is read exactly as
a missing one. -/
structure Evidence (V : Type) where
  device : Option String := Option.none
  platform : Option String := Option.none
  timestamp : Option String := Option.none
  sections : List (String × Section V)
  distinct : (sections.map Prod.fst).Nodup

def STATUS_ERROR : String := "error"

def STATUS_UNSUPPORTED : String := "unsupported"

def PARSE_OK : String := "ok"

def DEFAULT_PLATFORM : String := "cisco_xr"

/-- `VOLATILE_FIELDS`: fields that change without anything happening. -/
def VOLATILE_FIELDS : List ((String × String) × List String) :=
  [(("cisco_xr", "facts"), ["uptime"]),
    (("cisco_xr", "bgp"), ["msg_rcvd", "msg_sent", "up_down"]),
    (("cisco_xr", "bgp_vpnv4"), ["msg_rcvd", "msg_sent", "up_down"]),
    (("cisco_xr", "isis"), ["holdtime"]),
    (("cisco_xr", "sr"), ["operational_duration"]),
    (("cisco_xr", "interfaces"), []),
    (("cisco_xr", "lldp"), []),
    (("cisco_xr", "ldp"), ["msgs_sent", "msgs_rcvd", "up_time"]),
    (("cisco_xr", "ldp_discovery"), ["established_ago"])]

/-- `RECORD_KEYS`: the field that identifies a record, `none` for an intent without a table. -/
def RECORD_KEYS : List ((String × String) × Option String) :=
  [(("cisco_xr", "facts"), none),
    (("cisco_xr", "interfaces"), some "interface"),
    (("cisco_xr", "bgp"), some "neighbor"),
    (("cisco_xr", "bgp_vpnv4"), some "neighbor"),
    (("cisco_xr", "lldp"), some "local_interface"),
    (("cisco_xr", "isis"), some "system_id"),
    (("cisco_xr", "sr"), some "policy"),
    (("cisco_xr", "ldp"), some "peer_id"),
    (("cisco_xr", "ldp_discovery"), some "interface")]

def volatileFields (platform intent : String) : List String :=
  (VOLATILE_FIELDS.lookup (platform, intent)).getD []

def recordKey (platform intent : String) : Option String :=
  (RECORD_KEYS.lookup (platform, intent)).join

variable {V : Type}

/-- `d.get(field)`, with `none` for a missing field. -/
def Fields.get? (d : Fields V) (field : String) : Option (Cell V) := d.entries.lookup field

def keyCell (keyField : Option String) (r : Fields V) : Option (Cell V) :=
  keyField.bind r.get?

def Evidence.resolvedPlatform (e : Evidence V) : String :=
  match e.platform with
  | some platform => if platform = "" then DEFAULT_PLATFORM else platform
  | none => DEFAULT_PLATFORM

def Evidence.section? (e : Evidence V) (intent : String) : Option (Section V) :=
  e.sections.lookup intent

def Section.parsed? (sec : Section V) : Option (ParseResult V) :=
  if sec.data.parseStatus = some PARSE_OK then
    some (sec.data.parsed.getD ⟨⟨[], List.nodup_nil⟩, []⟩)
  else none

def stable (volatile : List String) (d : Fields V) : String → Option (Cell V) :=
  fun field => if field ∈ volatile then none else d.get? field

lemma stable_of_mem {volatile : List String} {field : String} (h : field ∈ volatile)
    (d : Fields V) : stable volatile d field = none := if_pos h

lemma stable_of_notMem {volatile : List String} {field : String} (h : field ∉ volatile)
    (d : Fields V) : stable volatile d field = d.get? field := if_neg h

lemma recordKey_notMem_volatileFields {platform intent keyField : String}
    (h : recordKey platform intent = some keyField) :
    keyField ∉ volatileFields platform intent := by
  have htable : ∀ entry ∈ RECORD_KEYS, ∀ field ∈ entry.2,
      field ∉ volatileFields entry.1.1 entry.1.2 := by decide
  rw [recordKey, Option.join_eq_some_iff] at h
  exact htable ((platform, intent), some keyField) (ListSearch.mem_of_lookup h) keyField rfl

lemma stable_recordKey (platform intent : String) (r : Fields V) :
    (recordKey platform intent).bind (stable (volatileFields platform intent) r) =
      keyCell (recordKey platform intent) r := by
  cases h : recordKey platform intent with
  | none => rfl
  | some keyField => exact stable_of_notMem (recordKey_notMem_volatileFields h) r

end Snapshots

end NetTools
