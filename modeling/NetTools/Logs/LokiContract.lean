import NetTools.Library.FirstSeen
import NetTools.Library.LastRow
import NetTools.Logs.Loki

/-!
# What a Loki query accounts for

A response is a list of streams, and what counts of it are the pairs of a stamp and a line. The
envelope of a query is compared with these pairs, for whatever the transport comes to.
-/

namespace NetTools

namespace LogsLoki

open FirstSeen

variable (u : CharClasses) (str : Value → String)

/-! ### The pairs of a response -/

/-- A line with the labels of its stream and the stamp Loki gave it. -/
structure Received where
  labels : Dict
  tsNs : Value
  line : String

/-- A well-formed `[timestamp, line]` pair. -/
def pairOfEntry (labels : Dict) : Value → Option Received
  | .list [tsNs, .str line] => some ⟨labels, tsNs, line⟩
  | _ => none

def pairsOfStream : Value → List Received
  | .dict stream => (listAt stream "values").filterMap (pairOfEntry (dictAt stream "stream"))
  | _ => []

def pairsOf (streams : List Value) : List Received := streams.flatMap pairsOfStream

def Received.record (pair : Received) : LokiRecord :=
  recordFromLine u pair.labels (str pair.tsNs) pair.line

def Received.unparsed (pair : Received) : Bool := (hostedLine u pair.line).isNone

variable {u} {str}

lemma mnemonic_ne_empty {line : String} {found : SyslogLine}
    (h : matchIosxrSyslogLine u line = some found) : found.mnemonic ≠ "" := by
  have hbody : ∀ {host : Option String} {cs : List Char} {found : SyslogLine},
      matchBody u host cs = some found → found.mnemonic ≠ "" := by
    intro host cs found h
    simp only [matchBody, bind, Option.bind_eq_some_iff] at h
    obtain ⟨_, -, _, -, _, -, _, -, _, -, _, -, _, -, _, -, ⟨token, rest⟩, htoken, _, -, _, -,
      hfound⟩ := h
    cases hfound
    rw [takeSome] at htoken
    split at htoken
    · cases htoken
    · rename_i hne
      cases htoken
      intro hempty
      apply hne
      simpa using congrArg String.toList hempty
  rw [matchIosxrSyslogLine, Option.or_eq_some_iff] at h
  rcases h with h | ⟨-, h⟩
  · simp only [matchHosted, bind, Option.bind_eq_some_iff] at h
    obtain ⟨_, -, _, -, h⟩ := h
    exact hbody h
  · exact hbody h

lemma record_mnemonic_eq_empty_iff (pair : Received) :
    (pair.record u str).mnemonic = "" ↔ pair.unparsed u = true := by
  rw [Received.record, Received.unparsed, recordFromLine]
  cases hline : hostedLine u pair.line with
  | none => simp
  | some found =>
    rw [hostedLine, Option.filter_eq_some_iff] at hline
    simp [mnemonic_ne_empty hline.1]

def Extracted.add (u : CharClasses) (str : Value → String) (done : Extracted)
    (pairs : List Received) : Extracted :=
  (done.1 ++ pairs.map (Received.record u str), done.2 + pairs.countP (Received.unparsed u))

lemma add_append (done : Extracted) (pairs pairs' : List Received) :
    Extracted.add u str done (pairs ++ pairs') =
      Extracted.add u str (Extracted.add u str done pairs) pairs' := by
  simp only [Extracted.add, List.map_append, List.countP_append, List.append_assoc, Nat.add_assoc]

lemma extractEntry_eq (labels : Dict) (done : Extracted) (entry : Value) :
    extractEntry u str labels done entry =
      Extracted.add u str done (pairOfEntry labels entry).toList := by
  unfold extractEntry pairOfEntry
  split
  · rename_i tsNs line
    have hrecord := @record_mnemonic_eq_empty_iff u str ⟨labels, tsNs, line⟩
    simp only [Received.record] at hrecord
    simp only [Extracted.add, Received.record, Option.toList_some, List.map_cons, List.map_nil,
      List.countP_singleton, hrecord]
    split <;> rfl
  · simp [Extracted.add]

lemma extractEntry_foldl (labels : Dict) (values : List Value) (done : Extracted) :
    values.foldl (extractEntry u str labels) done =
      Extracted.add u str done (values.filterMap (pairOfEntry labels)) := by
  induction values generalizing done with
  | nil => simp [Extracted.add]
  | cons entry values ih =>
    rw [List.foldl_cons, ih, extractEntry_eq, ← add_append, List.filterMap_cons]
    cases pairOfEntry labels entry <;> rfl

lemma extractStream_eq (done : Extracted) (stream : Value) :
    extractStream u str done stream = Extracted.add u str done (pairsOfStream stream) := by
  unfold extractStream pairsOfStream
  split
  · exact extractEntry_foldl _ _ _
  · simp [Extracted.add]

lemma extractStream_foldl (streams : List Value) (done : Extracted) :
    streams.foldl (extractStream u str) done = Extracted.add u str done (pairsOf streams) := by
  induction streams generalizing done with
  | nil => simp [Extracted.add, pairsOf]
  | cons stream streams ih =>
    rw [List.foldl_cons, ih, extractStream_eq, ← add_append]
    rfl

theorem extractRecords_of_streams {raw : Value} {streams : List Value}
    (h : streamsOf raw = some streams) :
    extractRecords u str raw =
      .ok ((pairsOf streams).map (Received.record u str),
        (pairsOf streams).countP (Received.unparsed u)) := by
  rw [extractRecords, h]
  have hfold := @extractStream_foldl u str streams ([], 0)
  simp only [Extracted.add, List.nil_append, Nat.zero_add] at hfold
  dsimp only
  rw [hfold]

theorem dedupe_eq_firsts (records : List LokiRecord) :
    dedupe records = firsts LokiRecord.key [] records := by
  have hfold : ∀ (seen : List (String × String × String)) (kept : List LokiRecord),
      (records.foldl dedupeStep (seen, kept)).2 = kept ++ firsts LokiRecord.key seen records := by
    induction records with
    | nil => simp [firsts]
    | cons record records ih =>
      intro seen kept
      rw [List.foldl_cons, dedupeStep, firsts]
      split
      · rw [ih]
      · rw [ih, List.append_assoc]
        rfl
  rw [dedupe, hfold]
  rfl

def SlotOk (inventory : Inventory) : Slot → Value → Prop
  | .device, .str name =>
    name ≠ "" ∧ ∃ devices mgmtIp address, inventory = .ok devices ∧
      devices.lookup name = some mgmtIp ∧ Ipaddress.IPv4Address.ofText mgmtIp = some address
  | .boundedInt minimum maximum, .int value => minimum ≤ value ∧ value ≤ maximum
  | .mnemonic, .str value => value ∈ MNEMONIC_FILTERS
  | _, _ => False

/-- Every parameter is declared and its value is taken by the slot of its name. -/
def SlotsOk (inventory : Inventory) (query : LokiQuery) (params : Dict) : Prop :=
  ∀ param ∈ params, ∃ slot, query.params.lookup param.1 = some slot ∧ SlotOk inventory slot param.2

def Declared (queryName : String) (params : Dict) (query : LokiQuery) : Prop :=
  query ∈ LOKI_QUERIES ∧ query.name = queryName ∧
    ∀ name, name ∈ query.params.map Prod.fst ↔ name ∈ params.keys

def Asked (inventory : Inventory) (queryName : String) (params : Dict) : Prop :=
  ∃ query, Declared queryName params query ∧ SlotsOk inventory query params

/-- A call that looks a device up: the values before its name are taken. -/
def LooksUp (inventory : Inventory) (queryName : String) (params : Dict) : Prop :=
  ∃ query, Declared queryName params query ∧
    ∃ start name rest, params = start ++ ("device", .str name) :: rest ∧ name ≠ "" ∧
      SlotsOk inventory query start

/-- The response of the transport is a success of the streams shape. -/
def Streams : Option (Except Failure Value) → Delivery → List Value → Prop
  | some (.ok raw), _, streams => streamsOf raw = some streams
  | none, .answered status (.json raw), streams =>
    200 ≤ status ∧ status < 300 ∧ streamsOf raw = some streams ∧
      ∃ fields, raw = .dict fields ∧ Dict.get? fields "status" = some (.str "success")
  | _, _, _ => False

/-- What the transport comes to is a response, or an error that the query catches. -/
def Caught : Option (Except Failure Value) → Delivery → Prop
  | some (.ok _), _ => True
  | some (.error (.lokiTransportError _)), _ => True
  | some (.error _), _ => False
  | none, .notRequested _ => False
  | none, .broken _ _ => False
  | none, .answered status .tooDeep => ¬ (200 ≤ status ∧ status < 300)
  | none, _ => True

/-- The query returns an envelope, and the envelope accounts for all that was received. -/
structure Accounts (u : CharClasses) (str : Value → String) (inventory : Inventory)
    (fetcher : Option (Except Failure Value)) (delivery : Delivery) (queryName : String)
    (params : Dict) (outcome : Except Failure Envelope) : Prop where
  returns : ∃ envelope, outcome = .ok envelope
  success : ∀ envelope, outcome = .ok envelope → (envelope.status = "success" ↔
    Asked inventory queryName params ∧ ∃ streams, Streams fetcher delivery streams)
  records : ∀ envelope streams, outcome = .ok envelope → Asked inventory queryName params →
    Streams fetcher delivery streams →
      envelope.data.parsed.records =
        firsts LokiRecord.key [] ((pairsOf streams).map (Received.record u str))
  counts : ∀ envelope streams, outcome = .ok envelope → Asked inventory queryName params →
    Streams fetcher delivery streams →
      envelope.data.parsed.meta.recordsBeforeDedup = some (pairsOf streams).length ∧
      envelope.data.parsed.meta.duplicatesRemoved =
        some (((pairsOf streams).length : Int) - envelope.data.parsed.records.length) ∧
      envelope.data.parsed.meta.unparsedLines =
        some ((pairsOf streams).countP (Received.unparsed u))
  truncation : ∀ envelope streams limit device, outcome = .ok envelope →
    Asked inventory queryName params → Streams fetcher delivery streams →
      params.get? "limit" = some (.int limit) → limit ≤ (pairsOf streams).length →
        limitNote limit ∈ (coverageFromLoki envelope.data.parsed device).notes

variable {inventory : Inventory} {query : LokiQuery} {params resolved : Dict}

lemma slotOk_of_parse {slot : Slot} {name : String} {value parsed : Value}
    (h : slot.parse inventory name value = .ok parsed) : SlotOk inventory slot value := by
  cases slot with
  | device =>
    cases value with
    | str text =>
      simp only [Slot.parse, parseDevice] at h
      split at h
      · cases h
      · rename_i hne
        split at h
        · cases h
        · rename_i devices
          split at h
          · cases h
          · rename_i mgmtIp hlookup
            split at h
            · rename_i address haddress
              exact ⟨hne, devices, mgmtIp, address, rfl, hlookup, haddress⟩
            · cases h
    | _ => cases h
  | boundedInt minimum maximum =>
    cases value with
    | int i =>
      simp only [Slot.parse, parseBoundedInt] at h
      split at h
      · assumption
      · cases h
    | _ => cases h
  | mnemonic =>
    cases value with
    | str text =>
      simp only [Slot.parse, parseMnemonic] at h
      split at h
      · assumption
      · cases h
    | _ => cases h

lemma parse_of_slotOk {slot : Slot} {value : Value} (name : String)
    (h : SlotOk inventory slot value) :
    ∃ parsed, slot.parse inventory name value = .ok parsed := by
  cases slot with
  | device =>
    cases value with
    | str text =>
      obtain ⟨hne, devices, mgmtIp, address, rfl, hlookup, haddress⟩ := h
      refine ⟨.str address.text, ?_⟩
      simp only [Slot.parse, parseDevice, if_neg hne, hlookup, haddress]
    | _ => cases h
  | boundedInt minimum maximum =>
    cases value with
    | int i => exact ⟨.int i, if_pos h⟩
    | _ => cases h
  | mnemonic =>
    cases value with
    | str text => exact ⟨.str text, if_pos h⟩
    | _ => cases h

lemma parse_error {slot : Slot} {name : String} {value : Value} {raised : Failure}
    (h : slot.parse inventory name value = .error raised) :
    (∃ message, raised = .lokiQueryError message) ∨
      slot = .device ∧ ∃ text message, value = .str text ∧ text ≠ "" ∧
        inventory = .error message ∧ raised = .escaping "InventoryError" message := by
  cases slot with
  | device =>
    cases value with
    | str text =>
      simp only [Slot.parse, parseDevice] at h
      split at h
      · cases h
        exact .inl ⟨_, rfl⟩
      · rename_i hne
        split at h
        · rename_i message
          cases h
          exact .inr ⟨rfl, text, message, rfl, hne, rfl, rfl⟩
        · left
          split at h
          · cases h
            exact ⟨_, rfl⟩
          · split at h
            · cases h
            · cases h
              exact ⟨_, rfl⟩
    | _ =>
      cases h
      exact .inl ⟨_, rfl⟩
  | boundedInt minimum maximum =>
    left
    cases value with
    | int i =>
      simp only [Slot.parse, parseBoundedInt] at h
      split at h
      · cases h
      · cases h
        exact ⟨_, rfl⟩
    | _ =>
      cases h
      exact ⟨_, rfl⟩
  | mnemonic =>
    left
    cases value with
    | str text =>
      simp only [Slot.parse, parseMnemonic] at h
      split at h
      · cases h
      · cases h
        exact ⟨_, rfl⟩
    | _ =>
      cases h
      exact ⟨_, rfl⟩

lemma resolve_cons {name : String} {value : Value} {slot : Slot}
    (h : query.params.lookup name = some slot) :
    resolve inventory query ((name, value) :: params) =
      (slot.parse inventory name value).bind (fun parsed =>
        (resolve inventory query params).map (fun resolved => (name, parsed) :: resolved)) := by
  rw [resolve, h]
  dsimp only
  cases slot.parse inventory name value with
  | error raised => rfl
  | ok parsed =>
    cases resolve inventory query params <;> rfl

lemma resolve_of_slotsOk (h : SlotsOk inventory query params) :
    ∃ resolved, resolve inventory query params = .ok resolved := by
  induction params with
  | nil => exact ⟨[], rfl⟩
  | cons param params ih =>
    obtain ⟨slot, hslot, hok⟩ := h param List.mem_cons_self
    obtain ⟨parsed, hparsed⟩ := parse_of_slotOk param.1 hok
    obtain ⟨resolved, hresolved⟩ := ih (fun p hp => h p (List.mem_cons_of_mem _ hp))
    refine ⟨(param.1, parsed) :: resolved, ?_⟩
    rw [resolve_cons hslot, hparsed, hresolved]
    rfl

lemma resolve_cons_eq_ok {key : String} {value : Value}
    (h : resolve inventory query ((key, value) :: params) = .ok resolved) :
    ∃ slot parsed rest, query.params.lookup key = some slot ∧
      slot.parse inventory key value = .ok parsed ∧ resolve inventory query params = .ok rest ∧
        resolved = (key, parsed) :: rest := by
  cases hslot : query.params.lookup key with
  | none =>
    rw [resolve, hslot] at h
    cases h
  | some slot =>
    rw [resolve_cons hslot] at h
    cases hparsed : slot.parse inventory key value with
    | error raised =>
      rw [hparsed] at h
      cases h
    | ok parsed =>
      cases hrest : resolve inventory query params with
      | error raised =>
        rw [hparsed, hrest] at h
        cases h
      | ok rest =>
        rw [hparsed, hrest] at h
        cases h
        exact ⟨slot, parsed, rest, rfl, hparsed, rfl, rfl⟩

lemma lookup_of_resolve (h : resolve inventory query params = .ok resolved) (name : String) :
    match params.lookup name with
    | none => resolved.lookup name = none
    | some value => ∃ slot parsed, query.params.lookup name = some slot ∧
        slot.parse inventory name value = .ok parsed ∧ resolved.lookup name = some parsed := by
  induction params generalizing resolved with
  | nil =>
    cases h
    rfl
  | cons param params ih =>
    obtain ⟨key, value⟩ := param
    obtain ⟨slot, parsed, rest, hslot, hparsed, hrest, rfl⟩ := resolve_cons_eq_ok h
    rw [List.lookup_cons, List.lookup_cons]
    by_cases hname : name = key
    · subst hname
      simp only [beq_self_eq_true]
      exact ⟨slot, parsed, hslot, hparsed, rfl⟩
    · rw [beq_false_of_ne hname]
      exact ih hrest

lemma slotsOk_of_resolve (h : resolve inventory query params = .ok resolved) :
    SlotsOk inventory query params := by
  induction params generalizing resolved with
  | nil =>
    intro param hparam
    cases hparam
  | cons param params ih =>
    obtain ⟨key, value⟩ := param
    obtain ⟨slot, parsed, rest, hslot, hparsed, hrest, rfl⟩ := resolve_cons_eq_ok h
    intro param hparam
    rcases List.mem_cons.mp hparam with rfl | hparam
    · exact ⟨slot, hslot, slotOk_of_parse hparsed⟩
    · exact ih hrest param hparam

lemma resolve_error {raised : Failure}
    (hdeclared : ∀ param ∈ params, ∃ slot, query.params.lookup param.1 = some slot)
    (h : resolve inventory query params = .error raised) :
    (∃ message, raised = .lokiQueryError message) ∨
      ∃ start key text rest message, params = start ++ (key, .str text) :: rest ∧
        SlotsOk inventory query start ∧ query.params.lookup key = some .device ∧ text ≠ "" ∧
        inventory = .error message ∧ raised = .escaping "InventoryError" message := by
  induction params with
  | nil => cases h
  | cons param params ih =>
    obtain ⟨key, value⟩ := param
    obtain ⟨slot, hslot⟩ := hdeclared _ List.mem_cons_self
    rw [resolve_cons hslot] at h
    cases hparsed : slot.parse inventory key value with
    | error raised' =>
      rw [hparsed] at h
      cases h
      rcases parse_error hparsed with hquery | ⟨rfl, text, message, rfl, hne, hinventory, hraised⟩
      · exact .inl hquery
      · exact .inr ⟨[], key, text, params, message, rfl, fun _ h => (by cases h), hslot, hne,
          hinventory, hraised⟩
    | ok parsed =>
      cases hrest : resolve inventory query params with
      | ok rest =>
        rw [hparsed, hrest] at h
        cases h
      | error raised' =>
        rw [hparsed, hrest] at h
        cases h
        rcases ih (fun p hp => hdeclared p (List.mem_cons_of_mem _ hp)) hrest with hquery |
          ⟨start, key', text, rest, message, rfl, hstart, hdevice, hne, hinventory, hraised⟩
        · exact .inl hquery
        · refine .inr ⟨(key, value) :: start, key', text, rest, message, rfl, ?_, hdevice, hne,
            hinventory, hraised⟩
          intro param hparam
          rcases List.mem_cons.mp hparam with rfl | hparam
          · exact ⟨slot, hslot, slotOk_of_parse hparsed⟩
          · exact hstart param hparam

lemma resolve_of_lookup {start rest : Dict} {key text message : String}
    (hstart : SlotsOk inventory query start) (hdevice : query.params.lookup key = some .device)
    (hne : text ≠ "") (hinventory : inventory = .error message) :
    resolve inventory query (start ++ (key, .str text) :: rest) =
      .error (.escaping "InventoryError" message) := by
  induction start with
  | nil =>
    have hparse : Slot.device.parse inventory key (.str text) =
        .error (.escaping "InventoryError" message) := by
      rw [hinventory]
      simp only [Slot.parse, parseDevice, if_neg hne]
    rw [List.nil_append, resolve_cons hdevice, hparse]
    rfl
  | cons param start ih =>
    obtain ⟨slot, hslot, hok⟩ := hstart param List.mem_cons_self
    obtain ⟨parsed, hparsed⟩ := parse_of_slotOk param.1 hok
    rw [List.cons_append, resolve_cons hslot, hparsed,
      ih (fun p hp => hstart p (List.mem_cons_of_mem _ hp))]
    rfl

/-! ### Selectors -/

lemma skipOctet_toDigits {n : Nat} (h : n < 256) {rest : List Char}
    (hrest : ∀ c, rest.head? = some c → c.isDigit = false) :
    skipOctet (Nat.toDigits 10 n ++ rest) = some rest := by
  have hdigits : ∀ k : Fin 256, (Nat.toDigits 10 k).all Char.isDigit = true ∧
      (Nat.toDigits 10 k).length ≤ 3 ∧ Nat.toDigits 10 k ≠ [] := by decide +kernel
  obtain ⟨hall, hlength, hne⟩ := hdigits ⟨n, h⟩
  have hstop : rest.takeWhile Char.isDigit = [] ∧ rest.dropWhile Char.isDigit = rest := by
    cases rest with
    | nil => exact ⟨rfl, rfl⟩
    | cons c rest =>
      have hc := hrest c rfl
      exact ⟨by rw [List.takeWhile_cons_of_neg (by rw [hc]; decide)],
        by rw [List.dropWhile_cons_of_neg (by rw [hc]; decide)]⟩
  have htake : (Nat.toDigits 10 n ++ rest).takeWhile Char.isDigit = Nat.toDigits 10 n := by
    rw [List.takeWhile_append_of_pos (List.all_eq_true.mp hall), hstop.1, List.append_nil]
  have hdrop : (Nat.toDigits 10 n ++ rest).dropWhile Char.isDigit = rest := by
    rw [List.dropWhile_append_of_pos (List.all_eq_true.mp hall), hstop.2]
  rw [skipOctet, takeSome, htake, hdrop, if_neg hne, Option.bind_some, if_pos hlength]

lemma skipText_append (text rest : List Char) : skipText text (text ++ rest) = some rest := by
  induction text with
  | nil => rfl
  | cons c text ih => rw [List.cons_append, skipText, if_pos rfl, ih]

lemma skipSelector_text (address : Ipaddress.IPv4Address) (rest : List Char) :
    skipSelector ("\x7bsource_ip=\"".toList ++ (address.text.toList ++ ("\"\x7d".toList ++ rest))) =
      some rest := by
  have hbyte : ∀ n : Nat, n % 256 < 256 := fun n => Nat.mod_lt n (by decide)
  have htext : address.text.toList = Ipaddress.dotted address.ip := String.toList_ofList
  rw [htext, skipSelector, skipText_append]
  simp only [Ipaddress.dotted, Ipaddress.octets, List.map_cons, List.map_nil,
    List.intercalate_cons_cons, List.intercalate_singleton, List.append_assoc, bind,
    Option.bind_some]
  rw [skipOctet_toDigits (hbyte _) (by rintro c ⟨⟩; rfl), Option.bind_some, skipText_append,
    Option.bind_some, skipOctet_toDigits (hbyte _) (by rintro c ⟨⟩; rfl), Option.bind_some,
    skipText_append, Option.bind_some, skipOctet_toDigits (hbyte _) (by rintro c ⟨⟩; rfl),
    Option.bind_some, skipText_append, Option.bind_some,
    skipOctet_toDigits (hbyte _) (by rintro c ⟨⟩; rfl), Option.bind_some, skipText_append]

lemma declared_slots (h : query ∈ LOKI_QUERIES) :
    query.params.lookup "device" = some .device ∧
      query.params.lookup "limit" = some (.boundedInt 1 1000) ∧
      ∀ key, query.params.lookup key = some .device → key = "device" := by
  rcases List.mem_cons.mp h with rfl | h
  · refine ⟨rfl, rfl, ?_⟩
    intro key hkey
    simp only [logsForDevice, List.lookup_cons] at hkey
    by_contra hne
    rw [beq_false_of_ne hne] at hkey
    dsimp only at hkey
    split at hkey
    · cases hkey
    · split at hkey
      · cases hkey
      · cases hkey
  · cases List.mem_singleton.mp h
    refine ⟨rfl, rfl, ?_⟩
    intro key hkey
    simp only [logsForDeviceMnemonic, List.lookup_cons] at hkey
    by_contra hne
    rw [beq_false_of_ne hne] at hkey
    dsimp only at hkey
    split at hkey
    · cases hkey
    · split at hkey
      · cases hkey
      · split at hkey
        · cases hkey
        · cases hkey

lemma parseDevice_ok {name : String} {value parsed : Value}
    (h : parseDevice inventory name value = .ok parsed) :
    ∃ address : Ipaddress.IPv4Address, parsed = .str address.text := by
  have hok : SlotOk inventory .device value := @slotOk_of_parse inventory .device name _ _ h
  cases value with
  | str text =>
    obtain ⟨hne, devices, mgmtIp, address, rfl, hlookup, haddress⟩ := hok
    simp only [parseDevice, if_neg hne, hlookup, haddress] at h
    cases h
    exact ⟨address, rfl⟩
  | _ => cases hok

lemma parseMnemonic_ok {name : String} {value parsed : Value}
    (h : parseMnemonic name value = .ok parsed) : parsed = .str "ROUTING-BGP-5-ADJCHANGE" := by
  cases value with
  | str text =>
    rw [parseMnemonic] at h
    split at h
    · rename_i hmem
      cases h
      rw [List.mem_singleton.mp hmem]
    · cases h
  | _ => cases h

lemma parseBoundedInt_ok {minimum maximum : Int} {name : String} {value parsed : Value}
    (h : parseBoundedInt minimum maximum name value = .ok parsed) :
    parsed = value ∧ ∃ i, value = .int i ∧ minimum ≤ i ∧ i ≤ maximum := by
  cases value with
  | int i =>
    rw [parseBoundedInt] at h
    split at h
    · rename_i hbounds
      cases h
      exact ⟨rfl, i, rfl, hbounds⟩
    · cases h
  | _ => cases h

variable {queryName : String}

lemma resolved_of_declared {name : String} {slot : Slot}
    (hdeclared : Declared queryName params query) (hslot : query.params.lookup name = some slot)
    (h : resolve inventory query params = .ok resolved) :
    ∃ value parsed, params.lookup name = some value ∧
      slot.parse inventory name value = .ok parsed ∧ resolved.lookup name = some parsed := by
  have hkey : name ∈ params.map Prod.fst := by
    rw [← Dict.keys, ← hdeclared.2.2, LastRow.mem_keys_iff, hslot]
    rfl
  rw [LastRow.mem_keys_iff, Option.isSome_iff_exists] at hkey
  obtain ⟨value, hvalue⟩ := hkey
  have hresolved := lookup_of_resolve h name
  rw [hvalue] at hresolved
  obtain ⟨slot', parsed, hslot', hparsed, hlookup⟩ := hresolved
  rw [hslot] at hslot'
  cases hslot'
  exact ⟨value, parsed, hvalue, hparsed, hlookup⟩

theorem selectorShape_of_resolve (hdeclared : Declared queryName params query)
    (h : resolve inventory query params = .ok resolved) :
    query.selectorShape (query.buildSelector resolved).toList = true := by
  obtain ⟨_, parsed, -, hparsed, hdevice⟩ :=
    resolved_of_declared hdeclared (declared_slots hdeclared.1).1 h
  obtain ⟨address, rfl⟩ := parseDevice_ok hparsed
  have htext : textAt resolved "device" = address.text := by rw [textAt, Dict.get?, hdevice]
  have hquery := hdeclared.1
  rcases List.mem_cons.mp hquery with rfl | hquery
  · have hselector := skipSelector_text address []
    simp only [logsForDevice, SELECTOR_SHAPE, decide_eq_true_eq, buildLogsForDeviceSelector, htext,
      String.toList_append, List.append_assoc]
    rw [List.append_nil] at hselector
    exact hselector
  · cases List.mem_singleton.mp hquery
    have hslot : logsForDeviceMnemonic.params.lookup "mnemonic" = some .mnemonic := rfl
    obtain ⟨_, parsed, -, hparsed, hmnemonic⟩ := resolved_of_declared hdeclared hslot h
    rw [parseMnemonic_ok hparsed] at hmnemonic
    have hfilter : textAt resolved "mnemonic" = "ROUTING-BGP-5-ADJCHANGE" := by
      rw [textAt, Dict.get?, hmnemonic]
    have hselector := skipSelector_text address " |= \"%ROUTING-BGP-5-ADJCHANGE :\"".toList
    simp only [logsForDeviceMnemonic, MNEMONIC_QUERY_SHAPE, decide_eq_true_eq,
      buildLogsForDeviceMnemonicSelector, buildLogsForDeviceSelector, htext, hfilter,
      String.toList_append, List.append_assoc]
    exact hselector

example : (resolve (.ok [("PE2", "10.255.0.12")]) logsForDevice
    [("device", .str "PE2")]).toOption.map buildLogsForDeviceSelector =
      some "\x7bsource_ip=\"10.255.0.12\"\x7d" := by decide +kernel

lemma nameDifference_eq_nil {names others : List String} :
    nameDifference names others = [] ↔ ∀ name ∈ names, name ∈ others := by
  rw [nameDifference, sortedNames, ← List.length_eq_zero_iff, List.length_insertionSort,
    List.length_eq_zero_iff, List.dedup_eq_nil, List.filter_eq_nil_iff]
  simp

variable {now stamp : Datetime} {fetcher : Option (Except Failure Value)} {delivery : Delivery}

lemma outcome_of_declared (hdeclared : Declared queryName params query) :
    (runNamedQuery u str now stamp inventory fetcher delivery queryName params).outcome =
      match resolve inventory query params with
      | .error (.lokiQueryError message) =>
        .ok (errorEnvelope stamp queryName (deviceName params) message Meta.refused)
      | .error raised => .error raised
      | .ok resolved =>
        fetchRecords u str now stamp queryName (deviceName params) (query.buildSelector resolved)
          resolved (fetcher.getD (httpFetcher delivery)) := by
  have hfind : LOKI_QUERIES.find? (fun query => query.name = queryName) = some query := by
    obtain ⟨hquery, rfl, -⟩ := hdeclared
    rcases List.mem_cons.mp hquery with rfl | hquery
    · rfl
    · cases List.mem_singleton.mp hquery
      rfl
  have hmissing : nameDifference (query.params.map Prod.fst) params.keys = [] :=
    nameDifference_eq_nil.mpr (fun name hname => (hdeclared.2.2 name).mp hname)
  have hextra : nameDifference params.keys (query.params.map Prod.fst) = [] :=
    nameDifference_eq_nil.mpr (fun name hname => (hdeclared.2.2 name).mpr hname)
  rw [runNamedQuery, hfind]
  dsimp only
  rw [hmissing, hextra, if_neg (by simp)]
  cases hresolve : resolve inventory query params with
  | error raised => cases raised <;> rfl
  | ok resolved =>
    dsimp only
    rw [selectorShape_of_resolve hdeclared hresolve]
    rfl

lemma outcome_of_not_declared (h : ∀ query, ¬ Declared queryName params query) :
    ∃ message, (runNamedQuery u str now stamp inventory fetcher delivery queryName params).outcome =
      .ok (errorEnvelope stamp queryName (deviceName params) message Meta.refused) := by
  rw [runNamedQuery]
  split
  · exact ⟨_, rfl⟩
  · rename_i query hfind
    dsimp only
    rw [if_pos]
    · exact ⟨_, rfl⟩
    · by_contra hboth
      rw [not_or, not_not, not_not, nameDifference_eq_nil, nameDifference_eq_nil] at hboth
      apply h query
      refine ⟨List.mem_of_find?_eq_some hfind, ?_, ?_⟩
      · simpa using List.find?_some hfind
      · exact fun name => ⟨hboth.1 name, hboth.2 name⟩

lemma streams_iff {streams : List Value} : Streams fetcher delivery streams ↔
    ∃ raw, fetcher.getD (httpFetcher delivery) = .ok raw ∧ streamsOf raw = some streams := by
  cases fetcher with
  | some fetched =>
    cases fetched with
    | ok raw => simp [Streams]
    | error raised => simp [Streams]
  | none =>
    rw [Option.getD_none]
    cases delivery with
    | notRequested message => simp [Streams, httpFetcher]
    | failed message => simp [Streams, httpFetcher]
    | broken kind message => simp [Streams, httpFetcher]
    | answered status body =>
      rw [httpFetcher]
      by_cases hstatus : 200 ≤ status ∧ status < 300
      · rw [if_pos hstatus]
        cases body with
        | notJson => simp [Streams, readBody]
        | tooDeep => simp [Streams, readBody]
        | json value =>
          cases value with
          | dict fields =>
            simp only [readBody]
            split
            · rename_i hsuccess
              simp [Streams, hstatus, hsuccess]
            · rename_i hsuccess
              simp only [Streams, reduceCtorEq, false_and, exists_false, iff_false]
              rintro ⟨-, -, -, fields', hfields, hsuccess'⟩
              cases hfields
              exact hsuccess hsuccess'
          | _ => simp [Streams, readBody]
      · rw [if_neg hstatus]
        cases body with
        | json value =>
          simp only [Streams, reduceCtorEq, false_and, exists_false, iff_false]
          rintro ⟨hlow, hhigh, -⟩
          exact hstatus ⟨hlow, hhigh⟩
        | _ => simp [Streams]

lemma caught_iff : Caught fetcher delivery ↔ ∀ raised,
    fetcher.getD (httpFetcher delivery) = .error raised →
      ∃ message, raised = .lokiTransportError message := by
  cases fetcher with
  | some fetched =>
    cases fetched with
    | ok raw => simp [Caught]
    | error raised => cases raised <;> simp [Caught]
  | none =>
    rw [Option.getD_none]
    cases delivery with
    | notRequested message => simp [Caught, httpFetcher]
    | failed message => simp [Caught, httpFetcher]
    | broken kind message => simp [Caught, httpFetcher]
    | answered status body =>
      rw [httpFetcher]
      by_cases hstatus : 200 ≤ status ∧ status < 300
      · rw [if_pos hstatus]
        cases body with
        | notJson => simp [Caught, readBody]
        | tooDeep => simp [Caught, readBody, hstatus]
        | json value =>
          cases value with
          | dict fields =>
            simp only [readBody]
            split <;> simp [Caught]
          | _ => simp [Caught, readBody]
      · rw [if_neg hstatus]
        cases body with
        | tooDeep => simpa [Caught] using hstatus
        | _ => simp [Caught]

variable {device : Option String} {selector : String} {fetched : Except Failure Value}

lemma fetchRecords_of_streams {streams : List Value} (h : Streams fetcher delivery streams) :
    fetchRecords u str now stamp queryName device selector resolved
        (fetcher.getD (httpFetcher delivery)) =
      .ok (successEnvelope now stamp queryName device selector resolved
        ((pairsOf streams).map (Received.record u str),
          (pairsOf streams).countP (Received.unparsed u))) := by
  obtain ⟨raw, hraw, hstreams⟩ := streams_iff.mp h
  have hextract := @extractRecords_of_streams u str _ _ hstreams
  rw [fetchRecords, hraw, Except.bind, hextract]

lemma fetchRecords_of_caught (hcaught : Caught fetcher delivery)
    (hnone : ∀ streams, ¬ Streams fetcher delivery streams) :
    ∃ message, fetchRecords u str now stamp queryName device selector resolved
        (fetcher.getD (httpFetcher delivery)) =
      .ok (errorEnvelope stamp queryName device message (Meta.failed now resolved)) := by
  cases hfetched : fetcher.getD (httpFetcher delivery) with
  | error raised =>
    obtain ⟨message, rfl⟩ := caught_iff.mp hcaught raised hfetched
    exact ⟨message, rfl⟩
  | ok raw =>
    have hshape : streamsOf raw = none := by
      cases hstreams : streamsOf raw with
      | none => rfl
      | some streams => exact absurd (streams_iff.mpr ⟨raw, hfetched, hstreams⟩) (hnone streams)
    refine ⟨"loki response was not the expected streams shape", ?_⟩
    rw [fetchRecords, Except.bind, extractRecords, hshape]

lemma fetchRecords_of_not_caught (h : ¬ Caught fetcher delivery) :
    ∃ raised, fetchRecords u str now stamp queryName device selector resolved
      (fetcher.getD (httpFetcher delivery)) = .error raised := by
  rw [caught_iff] at h
  push Not at h
  obtain ⟨raised, hraised, hother⟩ := h
  refine ⟨raised, ?_⟩
  rw [fetchRecords, hraised, Except.bind]
  cases raised with
  | lokiTransportError message => exact absurd rfl (hother message)
  | _ => rfl

lemma asked_resolves (h : Asked inventory queryName params) :
    ∃ query resolved, Declared queryName params query ∧
      resolve inventory query params = .ok resolved ∧
      (runNamedQuery u str now stamp inventory fetcher delivery queryName params).outcome =
        fetchRecords u str now stamp queryName (deviceName params) (query.buildSelector resolved)
          resolved (fetcher.getD (httpFetcher delivery)) := by
  obtain ⟨query, hdeclared, hslots⟩ := h
  obtain ⟨resolved, hresolved⟩ := resolve_of_slotsOk hslots
  refine ⟨query, resolved, hdeclared, hresolved, ?_⟩
  rw [outcome_of_declared hdeclared, hresolved]

lemma not_asked_refused (h : ¬ Asked inventory queryName params) :
    (∃ message,
      (runNamedQuery u str now stamp inventory fetcher delivery queryName params).outcome =
        .ok (errorEnvelope stamp queryName (deviceName params) message Meta.refused)) ∨
      LooksUp inventory queryName params ∧ ∃ message, inventory = .error message := by
  by_cases hdeclared : ∃ query, Declared queryName params query
  · obtain ⟨query, hdeclared⟩ := hdeclared
    have houtcome := @outcome_of_declared u str inventory query params queryName now stamp fetcher
      delivery hdeclared
    cases hresolve : resolve inventory query params with
    | ok resolved => exact absurd ⟨query, hdeclared, slotsOk_of_resolve hresolve⟩ h
    | error raised =>
      have hslots : ∀ param ∈ params, ∃ slot, query.params.lookup param.1 = some slot := by
        intro param hparam
        have hkey := (hdeclared.2.2 param.1).mpr (List.mem_map_of_mem hparam)
        rw [LastRow.mem_keys_iff, Option.isSome_iff_exists] at hkey
        exact hkey
      rcases resolve_error hslots hresolve with ⟨message, rfl⟩ |
        ⟨start, key, text, rest, message, rfl, hstart, hdevice, hne, hinventory, -⟩
      · left
        rw [houtcome, hresolve]
        exact ⟨message, rfl⟩
      · right
        cases (declared_slots hdeclared.1).2.2 key hdevice
        exact ⟨⟨query, hdeclared, start, text, rest, rfl, hne, hstart⟩, message, hinventory⟩
  · exact .inl (outcome_of_not_declared (not_exists.mp hdeclared))

lemma looksUp_raises {message : String} (h : LooksUp inventory queryName params)
    (hinventory : inventory = .error message) :
    (runNamedQuery u str now stamp inventory fetcher delivery queryName params).outcome =
      .error (.escaping "InventoryError" message) := by
  obtain ⟨query, hdeclared, start, text, rest, rfl, hne, hstart⟩ := h
  rw [outcome_of_declared hdeclared,
    resolve_of_lookup hstart (declared_slots hdeclared.1).1 hne hinventory]

lemma accounts_of_error {message : String} {window : Meta}
    (h : ¬ (Asked inventory queryName params ∧ ∃ streams, Streams fetcher delivery streams)) :
    Accounts u str inventory fetcher delivery queryName params
      (.ok (errorEnvelope stamp queryName device message window)) := by
  constructor
  · exact ⟨_, rfl⟩
  · rintro envelope ⟨⟩
    constructor
    · intro hstatus
      change "error" = "success" at hstatus
      exact absurd hstatus (by decide)
    · intro hanswered
      exact absurd hanswered h
  · rintro envelope streams - hasked hstreams
    exact absurd ⟨hasked, streams, hstreams⟩ h
  · rintro envelope streams - hasked hstreams
    exact absurd ⟨hasked, streams, hstreams⟩ h
  · rintro envelope streams limit device - hasked hstreams
    exact absurd ⟨hasked, streams, hstreams⟩ h

/-- A query accounts for what it received exactly when the inventory can be loaded, where a device
is looked up, and the transport comes to a response or to an error that is caught. -/
theorem runNamedQuery_accounts_iff (u : CharClasses) (str : Value → String) (now stamp : Datetime)
    (inventory : Inventory) (fetcher : Option (Except Failure Value)) (delivery : Delivery)
    (queryName : String) (params : Dict) :
    Accounts u str inventory fetcher delivery queryName params
        (runNamedQuery u str now stamp inventory fetcher delivery queryName params).outcome ↔
      (LooksUp inventory queryName params → ∃ devices, inventory = .ok devices) ∧
        (Asked inventory queryName params → Caught fetcher delivery) := by
  constructor
  · intro h
    obtain ⟨envelope, houtcome⟩ := h.returns
    constructor
    · intro hlooks
      cases hinventory : inventory with
      | ok devices => exact ⟨devices, rfl⟩
      | error message =>
        rw [looksUp_raises hlooks hinventory] at houtcome
        cases houtcome
    · intro hasked
      by_contra hcaught
      obtain ⟨query, resolved, -, -, hrun⟩ := @asked_resolves u str inventory params queryName now
        stamp fetcher delivery hasked
      rw [hrun] at houtcome
      obtain ⟨raised, hraised⟩ := fetchRecords_of_not_caught hcaught
      rw [hraised] at houtcome
      cases houtcome
  · rintro ⟨hinventory, hcaught⟩
    by_cases hasked : Asked inventory queryName params
    · obtain ⟨query, resolved, hdeclared, hresolved, hrun⟩ := @asked_resolves u str inventory
        params queryName now stamp fetcher delivery hasked
      rw [hrun]
      by_cases hstreams : ∃ streams, Streams fetcher delivery streams
      · obtain ⟨streams, hstreams⟩ := hstreams
        rw [fetchRecords_of_streams hstreams]
        have hunique : ∀ {streams'}, Streams fetcher delivery streams' → streams' = streams := by
          intro streams' hstreams'
          obtain ⟨raw, hraw, hshape⟩ := streams_iff.mp hstreams
          obtain ⟨raw', hraw', hshape'⟩ := streams_iff.mp hstreams'
          rw [hraw] at hraw'
          cases hraw'
          rw [hshape] at hshape'
          cases hshape'
          rfl
        constructor
        · exact ⟨_, rfl⟩
        · rintro envelope ⟨⟩
          exact ⟨fun _ => ⟨hasked, streams, hstreams⟩, fun _ => rfl⟩
        · rintro envelope streams' ⟨⟩ - hstreams'
          cases hunique hstreams'
          exact dedupe_eq_firsts _
        · rintro envelope streams' ⟨⟩ - hstreams'
          cases hunique hstreams'
          simp [successEnvelope]
        · rintro envelope streams' limit device ⟨⟩ - hstreams' hlimit hreached
          cases hunique hstreams'
          obtain ⟨value, parsed, hvalue, hparsed, hlookup⟩ :=
            resolved_of_declared hdeclared (declared_slots hdeclared.1).2.1 hresolved
          rw [Dict.get?, hvalue] at hlimit
          cases hlimit
          have hread : parseBoundedInt 1 1000 "limit" (.int limit) = .ok parsed := hparsed
          obtain ⟨rfl, i, hi, hbounds⟩ := parseBoundedInt_ok hread
          cases hi
          have hresolvedLimit : intAt resolved "limit" = limit := by
            rw [intAt, Dict.get?, hlookup]
          have hpositive : 0 < limit := by omega
          simp only [coverageFromLoki, successEnvelope, hresolvedLimit, List.length_map,
            if_pos (And.intro hpositive hreached), List.mem_singleton]
      · obtain ⟨message, hfetch⟩ :=
          fetchRecords_of_caught (hcaught hasked) (not_exists.mp hstreams)
        rw [hfetch]
        exact accounts_of_error (fun h => hstreams h.2)
    · rcases @not_asked_refused u str inventory params queryName now stamp fetcher delivery
        hasked with ⟨message, hrefused⟩ |
        ⟨hlooks, message, herror⟩
      · rw [hrefused]
        exact accounts_of_error (fun h => hasked h.1)
      · obtain ⟨devices, hdevices⟩ := hinventory hlooks
        rw [herror] at hdevices
        cases hdevices

def incompleteRead : Delivery :=
  .broken "IncompleteRead" "IncompleteRead(512 bytes read, 1024 more expected)"

/-- The error of a truncated body leaves the query. -/
theorem not_accounts_incompleteRead :
    ¬ Accounts CharClasses.ascii Value.typeName (.ok [("PE2", "10.255.0.12")]) none incompleteRead
      "logs_for_device" [("device", .str "PE2"), ("since_seconds", .int 3600), ("limit", .int 200)]
      (runNamedQuery CharClasses.ascii Value.typeName ⟨0, 0⟩ ⟨0, 0⟩ (.ok [("PE2", "10.255.0.12")])
        none incompleteRead "logs_for_device"
        [("device", .str "PE2"), ("since_seconds", .int 3600), ("limit", .int 200)]).outcome := by
  intro h
  obtain ⟨envelope, houtcome⟩ := h.returns
  have hraised : (runNamedQuery CharClasses.ascii Value.typeName ⟨0, 0⟩ ⟨0, 0⟩
      (.ok [("PE2", "10.255.0.12")]) none incompleteRead "logs_for_device"
      [("device", .str "PE2"), ("since_seconds", .int 3600), ("limit", .int 200)]).outcome =
      .error (.escaping "IncompleteRead" "IncompleteRead(512 bytes read, 1024 more expected)") := by
    with_unfolding_all rfl
  rw [hraised] at houtcome
  cases houtcome

end LogsLoki

end NetTools
