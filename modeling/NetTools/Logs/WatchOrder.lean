import NetTools.Logs.EventWatch
import NetTools.Logs.LokiContract

/-!
# The newest and the oldest of a group

Each stream of a response is newest first. The records of a group are too, as long as the
streams that hold the group hold copies of the same records, and then the order of the streams
makes no difference.
-/

namespace NetTools

namespace EventWatch

open LogsLoki FirstSeen

def ingestNs (record : LokiRecord) : Option Int := pyInt record.ingestTimestampNs

def NotAfter (r r' : LokiRecord) : Prop :=
  ∃ n n', ingestNs r = some n ∧ ingestNs r' = some n' ∧ n ≤ n'

/-- Every record has an ingest time, and none comes before one that was taken in later. -/
def NewestFirst (records : List LokiRecord) : Prop :=
  (∀ r ∈ records, NotAfter r r) ∧ records.Pairwise (fun r r' => NotAfter r' r)

variable {records : List LokiRecord} {first : LokiRecord}

lemma NewestFirst.sublist {records' : List LokiRecord} (h : NewestFirst records)
    (hsub : records'.Sublist records) : NewestFirst records' :=
  ⟨fun r hr => h.1 r (hsub.subset hr), h.2.sublist hsub⟩

lemma NewestFirst.head (h : NewestFirst (first :: records)) :
    ∀ r ∈ first :: records, NotAfter r first := by
  intro r hr
  rcases List.mem_cons.mp hr with rfl | hrest
  · exact h.1 r List.mem_cons_self
  · exact (List.pairwise_cons.mp h.2).1 r hrest

lemma NewestFirst.last (h : NewestFirst records) (hne : records ≠ []) :
    ∀ r ∈ records, NotAfter (records.getLast hne) r := by
  induction records with
  | nil => exact absurd rfl hne
  | cons r records ih =>
    have hrest : NewestFirst records := h.sublist (List.sublist_cons_self r records)
    cases records with
    | nil =>
      intro r' hr'
      rw [List.mem_singleton.mp hr']
      exact h.1 r List.mem_cons_self
    | cons r₂ records =>
      have hlast := ih hrest (List.cons_ne_nil _ _)
      rw [List.getLast_cons_cons]
      intro r' hr'
      rcases List.mem_cons.mp hr' with rfl | hr'
      · exact (List.pairwise_cons.mp h.2).1 _ (List.getLast_mem _)
      · exact hlast r' hr'

lemma NewestFirst.find {p : LokiRecord → Bool} {found : LokiRecord} (h : NewestFirst records)
    (hfound : records.find? p = some found) : ∀ r ∈ records, p r = true → NotAfter r found := by
  induction records with
  | nil => cases hfound
  | cons r records ih =>
    rw [List.find?_cons] at hfound
    split at hfound
    · cases hfound
      intro r' hr' _
      exact h.head r' hr'
    · rename_i hr
      intro r' hr' hp
      rcases List.mem_cons.mp hr' with rfl | hr'
      · rw [hr] at hp
        cases hp
      · exact ih (h.sublist (List.sublist_cons_self r records)) hfound r' hr' hp

variable (u : CharClasses) (str : Value → String)

def recordsOf (stream : Value) : List LokiRecord :=
  (pairsOfStream stream).map (Received.record u str)

def distinctRecords (streams : List Value) : List LokiRecord :=
  firsts LokiRecord.key [] ((pairsOf streams).map (Received.record u str))

def groupOf (streams : List Value) (key : GroupKey) : List LokiRecord :=
  (distinctRecords u str streams).filter (fun record => groupKey record = some key)

variable (names : List String) (table : List TriggerEntry) (device : String)

structure Reported (records : List LokiRecord) (o : LokiObservation) : Prop where
  count : o.occurrenceCount = records.length
  last : ∃ newest ∈ records, (∀ r ∈ records, NotAfter r newest) ∧
    o.lastSeen = textOrNone newest.timestamp
  first : ∃ oldest ∈ records, (∀ r ∈ records, NotAfter oldest r) ∧
    o.firstSeen = textOrNone oldest.timestamp
  decision : ∃ chosen ∈ records,
    o.decision = applyTriggerPolicy table (routeRecord names device chosen) ∧
      if ∀ r ∈ records, isRecovery names device r = true then ∀ r ∈ records, NotAfter r chosen
      else isRecovery names device chosen = false ∧
        ∀ r ∈ records, isRecovery names device r = false → NotAfter r chosen

variable {u} {str} {names} {table} {device}

lemma decisionForGroup_of_find {first chosen : LokiRecord} {others : List LokiRecord}
    (h : (first :: others).find? (fun r => !isRecovery names device r) = some chosen) :
    decisionForGroup names table device first others =
      applyTriggerPolicy table (routeRecord names device chosen) := by
  have hfind : ((first :: others).map (routeRecord names device)).find?
      (fun decision => decision.transition ≠ some "up") =
        some (routeRecord names device chosen) := by
    rw [List.find?_map]
    have hsame : ((fun decision : RoutingDecision =>
        decide (decision.transition ≠ some "up")) ∘ routeRecord names device) =
          fun r => !isRecovery names device r := by
      funext r
      simp [isRecovery]
    rw [hsame, h]
    rfl
  rw [decisionForGroup]
  rw [hfind, Option.getD_some]

theorem reported_observe {o : LokiObservation} (h : NewestFirst records)
    (hobserve : observe names table device records = some o) :
    Reported names table device records o := by
  cases records with
  | nil => cases hobserve
  | cons first others =>
    cases hobserve
    constructor
    · rfl
    · exact ⟨first, List.mem_cons_self, h.head, rfl⟩
    · exact ⟨_, List.getLast_mem _, h.last (List.cons_ne_nil _ _), rfl⟩
    · cases hfound : (first :: others).find? (fun r => !isRecovery names device r) with
      | some chosen =>
        have hmem := List.mem_of_find?_eq_some hfound
        have hnot : isRecovery names device chosen = false := by
          simpa using List.find?_some hfound
        refine ⟨chosen, hmem, decisionForGroup_of_find hfound, ?_⟩
        rw [if_neg]
        · refine ⟨hnot, ?_⟩
          intro r hr hrecovery
          exact h.find hfound r hr (by rw [hrecovery]; rfl)
        · intro hall
          rw [hall chosen hmem] at hnot
          cases hnot
      | none =>
        have hall : ∀ r ∈ first :: others, isRecovery names device r = true := by
          intro r hr
          simpa using List.find?_eq_none.mp hfound r hr
        refine ⟨first, List.mem_cons_self, ?_, ?_⟩
        · have hnone : ((first :: others).map (routeRecord names device)).find?
              (fun decision => decision.transition ≠ some "up") = none := by
            rw [List.find?_eq_none]
            intro decision hdecision
            obtain ⟨r, hr, rfl⟩ := List.mem_map.mp hdecision
            simpa [isRecovery] using hall r hr
          show decisionForGroup names table device first others = _
          rw [decisionForGroup]
          rw [hnone, Option.getD_none]
        · rw [if_pos hall]
          exact h.head

variable {key : GroupKey} {streams streams' : List Value}

lemma valuesAt_groupKey (records : List LokiRecord) (key : GroupKey) :
    Gathering.valuesAt key
        (records.filterMap (fun record => (groupKey record).map (fun k => (k, record)))) =
      records.filter (fun record => groupKey record = some key) := by
  rw [Gathering.valuesAt, List.filterMap_filterMap, ← List.filterMap_eq_filter]
  apply List.filterMap_congr
  intro record _
  rw [Option.guard]
  cases hkey : groupKey record with
  | none => simp
  | some k =>
    by_cases hk : k = key
    · simp [hk]
    · simp [hk]

lemma mem_groupRecords_iff {records group : List LokiRecord} :
    (key, group) ∈ groupRecords records ↔
      group = records.filter (fun record => groupKey record = some key) ∧ group ≠ [] := by
  rw [groupRecords, Gathering.mem_gather_iff, valuesAt_groupKey]

lemma groupKey_congr {r r' : LokiRecord} (h : r.key = r'.key) : groupKey r = groupKey r' := by
  simp only [LokiRecord.key, Prod.mk.injEq] at h
  rw [groupKey, groupKey, h.2.1, h.2.2]

def heldOf (u : CharClasses) (str : Value → String) (key : GroupKey) (stream : Value) :
    List LokiRecord :=
  (recordsOf u str stream).filter (fun record => groupKey record = some key)

lemma groupOf_eq (u : CharClasses) (str : Value → String) (streams : List Value)
    (key : GroupKey) : groupOf u str streams key =
      firsts LokiRecord.key [] (streams.flatMap (heldOf u str key)) := by
  rw [groupOf, distinctRecords, filter_firsts]
  · rw [pairsOf, List.map_flatMap, List.filter_flatMap]
    rfl
  · intro r r' h
    rw [groupKey_congr h]

def readOf (record : LokiRecord) : (String × String × String) × String × String :=
  (record.key, record.rawEvent, record.ingestTimestampNs)

/-- Of a group, one of two streams holds no record, or the two hold copies of the same. -/
def Copies (u : CharClasses) (str : Value → String) (key : GroupKey) (stream stream' : Value) :
    Prop :=
  heldOf u str key stream = [] ∨ heldOf u str key stream' = [] ∨
    (firsts LokiRecord.key [] (heldOf u str key stream)).map readOf =
      (firsts LokiRecord.key [] (heldOf u str key stream')).map readOf

lemma Copies.symm {stream stream' : Value} (h : Copies u str key stream stream') :
    Copies u str key stream' stream := by
  rcases h with hnone | hnone | hsame
  · exact .inr (.inl hnone)
  · exact .inl hnone
  · exact .inr (.inr hsame.symm)

def Unshared (u : CharClasses) (str : Value → String) (streams : List Value) : Prop :=
  ∀ key, streams.Pairwise (Copies u str key)

lemma map_eq_of_readOf {β : Type} {f : LokiRecord → β}
    (hf : ∀ r r', readOf r = readOf r' → f r = f r') {records records' : List LokiRecord}
    (h : records.map readOf = records'.map readOf) : records.map f = records'.map f := by
  induction records generalizing records' with
  | nil =>
    rw [List.map_eq_nil_iff.mp h.symm]
  | cons r records ih =>
    obtain ⟨r', rest, rfl, hr, hrest⟩ := List.map_eq_cons_iff.mp h.symm
    rw [List.map_cons, List.map_cons, hf r r' hr.symm, ih hrest.symm]

lemma Unshared.groupOf_eq_heldOf (h : Unshared u str streams) (key : GroupKey) :
    streams.flatMap (heldOf u str key) = [] ∨ ∃ stream ∈ streams, heldOf u str key stream ≠ [] ∧
      groupOf u str streams key = firsts LokiRecord.key [] (heldOf u str key stream) := by
  rw [groupOf_eq]
  apply firsts_flatMap_of_copies
  apply (h key).imp
  intro stream stream' hcopies
  refine hcopies.imp_right (Or.imp_right (map_eq_of_readOf ?_))
  intro r r' hread
  exact congrArg Prod.fst hread

lemma groupOf_perm (h : Unshared u str streams) (hperm : streams.Perm streams')
    (key : GroupKey) :
    (groupOf u str streams' key).map readOf = (groupOf u str streams key).map readOf := by
  have h' : Unshared u str streams' := by
    intro k
    exact (hperm.pairwise_iff Copies.symm).mp (h k)
  rcases h.groupOf_eq_heldOf key with hnone | ⟨stream, hstream, hne, hgroup⟩
  · have hnone' : streams'.flatMap (heldOf u str key) = [] := by
      rw [List.flatMap_eq_nil_iff] at hnone ⊢
      exact fun stream hstream => hnone stream (hperm.mem_iff.mpr hstream)
    rw [groupOf_eq, groupOf_eq, hnone, hnone']
  · rcases h'.groupOf_eq_heldOf key with hnone' | ⟨stream', hstream', hne', hgroup'⟩
    · rw [List.flatMap_eq_nil_iff] at hnone'
      exact absurd (hnone' stream (hperm.mem_iff.mp hstream)) hne
    · have hcopies : Copies u str key stream' stream :=
        List.Pairwise.forall_of_forall_of_flip (fun stream _ => .inr (.inr rfl)) (h key)
          ((h key).imp Copies.symm) (hperm.mem_iff.mpr hstream') hstream
      rw [hgroup, hgroup']
      exact (hcopies.resolve_left hne').resolve_left hne

lemma newestFirst_groupOf (h : Unshared u str streams)
    (hnewest : ∀ stream ∈ streams, NewestFirst (recordsOf u str stream)) (key : GroupKey) :
    NewestFirst (groupOf u str streams key) := by
  rcases h.groupOf_eq_heldOf key with hnone | ⟨stream, hstream, -, hgroup⟩
  · rw [groupOf_eq, hnone]
    exact ⟨fun r hr => (by cases hr), List.Pairwise.nil⟩
  · rw [hgroup]
    exact (hnewest stream hstream).sublist ((firsts_sublist _ _ _).trans List.filter_sublist)

lemma routeRecord_congr {r r' : LokiRecord} (h : readOf r = readOf r') :
    routeRecord names device r = routeRecord names device r' := by
  simp only [readOf, LokiRecord.key, Prod.mk.injEq] at h
  obtain ⟨⟨-, hmnemonic, htext⟩, hraw, hingest⟩ := h
  have henvelope : lokiEnvelope r.dict = lokiEnvelope r'.dict := by
    change (⟨"loki", r.rawEvent, some r.mnemonic, some r.text⟩ : EventEnvelope) =
      ⟨"loki", r'.rawEvent, some r'.mnemonic, some r'.text⟩
    rw [hraw, hmnemonic, htext]
  have hstamp : r.dict.get? "ingest_timestamp_ns" = r'.dict.get? "ingest_timestamp_ns" := by
    change some (Value.str r.ingestTimestampNs) = some (Value.str r'.ingestTimestampNs)
    rw [hingest]
  rw [routeRecord, routeRecord, routeLokiRecord, routeLokiRecord, henvelope, hstamp]

lemma observe_congr {records' : List LokiRecord}
    (h : records.map readOf = records'.map readOf) :
    observe names table device records = observe names table device records' := by
  have hroutes : records.map (routeRecord names device) = records'.map (routeRecord names device) :=
    map_eq_of_readOf (fun r r' => routeRecord_congr) h
  have htimes : records.map LokiRecord.timestamp = records'.map LokiRecord.timestamp :=
    map_eq_of_readOf (fun r r' hread => congrArg (fun read => read.1.1) hread) h
  cases records with
  | nil => rw [List.map_eq_nil_iff.mp h.symm]
  | cons first others =>
    cases records' with
    | nil => cases h
    | cons first' others' =>
      have hlast : ((first :: others).getLast (List.cons_ne_nil _ _)).timestamp =
          ((first' :: others').getLast (List.cons_ne_nil _ _)).timestamp := by
        have hends := congrArg List.getLast? htimes
        rw [List.getLast?_map, List.getLast?_map, List.getLast?_eq_some_getLast (List.cons_ne_nil _ _),
          List.getLast?_eq_some_getLast (List.cons_ne_nil _ _)] at hends
        exact Option.some.inj hends
      have hfirst := hroutes
      rw [List.map_cons, List.map_cons, List.cons.injEq] at hfirst
      have htime := htimes
      rw [List.map_cons, List.map_cons, List.cons.injEq] at htime
      have hlength : (first :: others).length = (first' :: others').length := by
        rw [← List.length_map readOf, h, List.length_map]
      rw [observe, observe, decisionForGroup, decisionForGroup, hroutes, hfirst.1, hlast,
        htime.1, hlength]

def observationsOf (names : List String) (table : List TriggerEntry) (device : String)
    (records : List LokiRecord) : List LokiObservation :=
  (groupRecords records).filterMap (fun group => observe names table device group.2)

lemma mem_observationsOf_iff {o : LokiObservation} :
    o ∈ observationsOf names table device records ↔ ∃ key : GroupKey,
      observe names table device
        (records.filter (fun record => groupKey record = some key)) = some o := by
  rw [observationsOf, List.mem_filterMap]
  constructor
  · rintro ⟨⟨key, group⟩, hmem, hobserve⟩
    rw [mem_groupRecords_iff] at hmem
    rw [hmem.1] at hobserve
    exact ⟨key, hobserve⟩
  · rintro ⟨key, hobserve⟩
    refine ⟨(key, _), mem_groupRecords_iff.mpr ⟨rfl, ?_⟩, hobserve⟩
    intro hempty
    rw [hempty] at hobserve
    cases hobserve

lemma forall₂_observationsOf {R : GroupKey → LokiObservation → Prop}
    (h : ∀ key o, observe names table device
      (records.filter (fun record => groupKey record = some key)) = some o → R key o) :
    List.Forall₂ R ((groupRecords records).map Prod.fst)
      (observationsOf names table device records) := by
  have hall : ∀ groups : List (GroupKey × List LokiRecord),
      (∀ group ∈ groups, group.2 = records.filter (fun r => groupKey r = some group.1) ∧
        group.2 ≠ []) →
      List.Forall₂ R (groups.map Prod.fst)
        (groups.filterMap (fun group => observe names table device group.2)) := by
    intro groups hgroups
    induction groups with
    | nil => exact List.Forall₂.nil
    | cons group groups ih =>
      obtain ⟨heq, hne⟩ := hgroups group List.mem_cons_self
      have hrest := ih (fun g hg => hgroups g (List.mem_cons_of_mem group hg))
      cases hobserve : observe names table device group.2 with
      | none =>
        cases hrecords : group.2 with
        | nil => exact absurd hrecords hne
        | cons first others =>
          rw [hrecords] at hobserve
          cases hobserve
      | some o =>
        rw [List.filterMap_cons, hobserve]
        apply List.Forall₂.cons _ hrest
        apply h
        rw [← heq]
        exact hobserve
  exact hall _ (fun group hgroup => mem_groupRecords_iff.mp hgroup)

/-- A watch of one device: what the call is given, apart from the response. -/
structure Watch where
  u : CharClasses
  str : Value → String
  inventory : Inventory
  table : List TriggerEntry
  device : String
  sinceSeconds : Int
  limit : Int

namespace Watch

def params (w : Watch) : Dict :=
  [("device", .str w.device), ("since_seconds", .int w.sinceSeconds), ("limit", .int w.limit)]

def report (w : Watch) (now stamp : Datetime) (fetcher : Option (Except Failure Value))
    (delivery : LogsLoki.Delivery) : Except WatchFailure WatchReport :=
  watchDevice w.u w.str now stamp w.inventory w.table fetcher delivery w.device w.sinceSeconds
    w.limit

/-- The observations of a report tell of the groups of a response, from the newest record to the
oldest, and are the same for every order of the streams. -/
structure NewestToOldest (w : Watch) (streams : List Value) (report : WatchReport) : Prop where
  groups : ∃ keys : List GroupKey, keys.Nodup ∧
    (∀ key, key ∈ keys ↔ groupOf w.u w.str streams key ≠ []) ∧
    List.Forall₂ (fun key o => Reported (deviceNames w.inventory) w.table w.device
      (groupOf w.u w.str streams key) o) keys report.observations
  anyOrder : ∀ now stamp fetcher delivery streams' report', Streams fetcher delivery streams' →
    streams.Perm streams' → w.report now stamp fetcher delivery = .ok report' →
      ∀ o, o ∈ report'.observations ↔ o ∈ report.observations

variable {w : Watch}

lemma report_of_streams {now stamp : Datetime} {fetcher : Option (Except Failure Value)}
    {delivery : LogsLoki.Delivery} (hconsistent : validateTriggerTable w.table = none)
    (hasked : Asked w.inventory "logs_for_device" w.params)
    (hstreams : Streams fetcher delivery streams) :
    ∃ report, w.report now stamp fetcher delivery = .ok report ∧ report.status = "success" ∧
      report.observations = observationsOf (deviceNames w.inventory) w.table w.device
        (distinctRecords w.u w.str streams) := by
  obtain ⟨query, resolved, -, -, hrun⟩ := @asked_resolves w.u w.str w.inventory w.params
    "logs_for_device" now stamp fetcher delivery hasked
  rw [fetchRecords_of_streams hstreams] at hrun
  rw [report, watchDevice, hconsistent]
  rw [params] at hrun
  dsimp only
  rw [hrun]
  refine ⟨_, rfl, rfl, ?_⟩
  rw [distinctRecords, ← dedupe_eq_firsts]
  rfl

/-- Groups that are not spread over several streams, copies apart, are reported from the newest
record to the oldest. -/
theorem report_newestToOldest {now stamp : Datetime}
    {fetcher : Option (Except Failure Value)} {delivery : LogsLoki.Delivery}
    (hconsistent : validateTriggerTable w.table = none)
    (hasked : Asked w.inventory "logs_for_device" w.params)
    (hstreams : Streams fetcher delivery streams)
    (hnewest : ∀ stream ∈ streams, NewestFirst (recordsOf w.u w.str stream))
    (hunshared : Unshared w.u w.str streams) :
    ∃ report, w.report now stamp fetcher delivery = .ok report ∧
      w.NewestToOldest streams report := by
  obtain ⟨report, hreport, -, hobservations⟩ :=
    @report_of_streams streams w now stamp fetcher delivery hconsistent hasked hstreams
  refine ⟨report, hreport, ?_⟩
  constructor
  · refine ⟨(groupRecords (distinctRecords w.u w.str streams)).map Prod.fst,
      Gathering.nodup_gather _, ?_, ?_⟩
    · intro key
      rw [List.mem_map]
      constructor
      · rintro ⟨⟨key, group⟩, hmem, rfl⟩
        rw [mem_groupRecords_iff] at hmem
        rw [groupOf, ← hmem.1]
        exact hmem.2
      · intro hne
        exact ⟨(key, _), mem_groupRecords_iff.mpr ⟨rfl, hne⟩, rfl⟩
    · rw [hobservations]
      apply forall₂_observationsOf
      intro key o hobserve
      exact reported_observe (newestFirst_groupOf hunshared hnewest key) hobserve
  · intro now' stamp' fetcher' delivery' streams' report' hstreams' hperm hreport' o
    obtain ⟨report'', hreport'', -, hobservations'⟩ :=
      @report_of_streams streams' w now' stamp' fetcher' delivery' hconsistent hasked hstreams'
    rw [hreport'] at hreport''
    cases hreport''
    rw [hobservations, hobservations', mem_observationsOf_iff, mem_observationsOf_iff]
    apply exists_congr
    intro key
    have hsame := groupOf_perm hunshared hperm key
    rw [groupOf, groupOf] at hsame
    rw [observe_congr hsame]

lemma NewestToOldest.exists_reported {report : WatchReport} (h : w.NewestToOldest streams report)
    {key : GroupKey} (hkey : groupOf w.u w.str streams key ≠ []) :
    ∃ o ∈ report.observations, Reported (deviceNames w.inventory) w.table w.device
      (groupOf w.u w.str streams key) o := by
  obtain ⟨keys, -, hmem, hall⟩ := h.groups
  have hfind := (hmem key).mpr hkey
  clear hmem
  generalize report.observations = observations at hall ⊢
  induction hall with
  | nil => cases hfind
  | cons hhead _ ih =>
    rcases List.mem_cons.mp hfind with rfl | hrest
    · exact ⟨_, List.mem_cons_self, hhead⟩
    · obtain ⟨o, ho, hreported⟩ := ih hrest
      exact ⟨o, List.mem_cons_of_mem _ ho, hreported⟩

def downLine (minute peer : String) : String :=
  "PE2 RP/0/RP0/CPU0:Aug 19 03:" ++ minute ++ ":30.065 UTC: bgp[1080]: " ++
    "%ROUTING-BGP-5-ADJCHANGE : neighbor " ++ peer ++ " Down - Interface flap"

def streamOf (host tsNs line : String) : Value :=
  .dict [("stream", .dict [("host", .str host), ("source_ip", .str "10.255.0.12")]),
    ("values", .list [.list [.str tsNs, .str line]])]

def responseOf (streams : List Value) : LogsLoki.Delivery :=
  .answered 200 (.json (.dict [("status", .str "success"),
    ("data", .dict [("resultType", .str "streams"), ("result", .list streams)])]))

def watchPE2 : Watch where
  u := CharClasses.ascii
  str := fun
    | .str text => text
    | value => value.typeName
  inventory := .ok [("PE2", "10.255.0.12")]
  table := [{ mnemonic := "ROUTING-BGP-5-ADJCHANGE", trigger := some { fires := true }
              investigateWith := some "bgp_session" }]
  device := "PE2"
  sinceSeconds := 900
  limit := 500

def twoStreams : List Value :=
  [streamOf "PE2" "1000" (downLine "40" "10.0.0.9"),
    streamOf "PE2.sota-xrd" "2000" (downLine "50" "10.0.0.9")]

lemma asked_watchPE2 : Asked watchPE2.inventory "logs_for_device" watchPE2.params := by
  refine ⟨logsForDevice, ⟨List.mem_cons_self, rfl, ?_⟩, ?_⟩
  · intro name
    exact Iff.rfl
  · intro param hparam
    simp only [params, watchPE2, List.mem_cons, List.not_mem_nil, or_false] at hparam
    rcases hparam with rfl | rfl | rfl
    · exact ⟨.device, rfl, by decide, [("PE2", "10.255.0.12")], "10.255.0.12",
        ⟨184483852, by decide⟩, rfl, rfl, by with_unfolding_all rfl⟩
    · exact ⟨.boundedInt 1 (7 * 24 * 3600), rfl, by decide, by decide⟩
    · exact ⟨.boundedInt 1 1000, rfl, by decide, by decide⟩

def twoPeers : List Value :=
  [streamOf "PE2" "1000" (downLine "40" "10.0.0.9"),
    streamOf "PE2.sota-xrd" "2000" (downLine "50" "10.0.0.7"),
    streamOf "PE2.local" "1000" (downLine "40" "10.0.0.9")]

lemma heldOf_streamOf (key : GroupKey) (host tsNs line : String) :
    (heldOf watchPE2.u watchPE2.str key (streamOf host tsNs line) = [] ∨
      ∀ r ∈ recordsOf watchPE2.u watchPE2.str (streamOf host tsNs line),
        groupKey r = some key) := by
  rw [or_iff_not_imp_left]
  intro hne
  obtain ⟨r, hr⟩ := List.exists_mem_of_ne_nil _ hne
  rw [heldOf, List.mem_filter, decide_eq_true_eq] at hr
  intro r' hr'
  rw [List.mem_singleton.mp hr', ← List.mem_singleton.mp hr.1]
  exact hr.2

lemma copies_of_groups {host host' tsNs tsNs' line line' : String}
    (h : ∀ r ∈ recordsOf watchPE2.u watchPE2.str (streamOf host tsNs line),
      ∀ r' ∈ recordsOf watchPE2.u watchPE2.str (streamOf host' tsNs' line'),
        groupKey r ≠ groupKey r') (key : GroupKey) :
    Copies watchPE2.u watchPE2.str key (streamOf host tsNs line) (streamOf host' tsNs' line') := by
  rcases heldOf_streamOf key host tsNs line with hnone | hkey
  · exact .inl hnone
  · rcases heldOf_streamOf key host' tsNs' line' with hnone | hkey'
    · exact .inr (.inl hnone)
    · exact absurd ((hkey _ List.mem_cons_self).trans (hkey' _ List.mem_cons_self).symm)
        (h _ List.mem_cons_self _ List.mem_cons_self)

/-- The report of two peers. -/
theorem report_newestToOldest_twoPeers :
    ∃ report, watchPE2.report ⟨0, 0⟩ ⟨0, 0⟩ none (responseOf twoPeers) = .ok report ∧
      watchPE2.NewestToOldest twoPeers report := by
  have hsingle : ∀ host minute peer, ∀ n : Int, ∀ tsNs,
      pyInt (watchPE2.str (.str tsNs)) = some n →
      NewestFirst
        (recordsOf watchPE2.u watchPE2.str (streamOf host tsNs (downLine minute peer))) := by
    intro host minute peer n tsNs hn
    refine ⟨?_, List.pairwise_singleton _ _⟩
    intro r hr
    have hingest : ingestNs r = some n := by
      rw [List.mem_singleton.mp hr, ingestNs, Received.record, recordFromLine]
      split <;> exact hn
    exact ⟨n, n, hingest, hingest, le_refl n⟩
  apply Watch.report_newestToOldest
  · decide
  · exact asked_watchPE2
  · exact ⟨by decide, by decide, rfl, _, rfl, rfl⟩
  · intro stream hstream
    simp only [twoPeers, List.mem_cons, List.not_mem_nil, or_false] at hstream
    rcases hstream with rfl | rfl | rfl
    · exact hsingle _ _ _ 1000 _ (by with_unfolding_all rfl)
    · exact hsingle _ _ _ 2000 _ (by with_unfolding_all rfl)
    · exact hsingle _ _ _ 1000 _ (by with_unfolding_all rfl)
  · intro key
    rw [twoPeers, List.pairwise_cons, List.pairwise_pair]
    refine ⟨?_, ?_⟩
    · intro stream hstream
      rw [List.mem_pair] at hstream
      rcases hstream with rfl | rfl
      · exact copies_of_groups (by decide +kernel) key
      · rcases heldOf_streamOf key "PE2" "1000" (downLine "40" "10.0.0.9") with hnone | hkey
        · exact .inl hnone
        rcases heldOf_streamOf key "PE2.local" "1000" (downLine "40" "10.0.0.9") with
          hnone | hkey'
        · exact .inr (.inl hnone)
        right; right
        rw [heldOf, heldOf, List.filter_eq_self.mpr (fun r hr => decide_eq_true (hkey r hr)),
          List.filter_eq_self.mpr (fun r hr => decide_eq_true (hkey' r hr))]
        decide +kernel
    · exact copies_of_groups (by decide +kernel) key

/-- The report of two streams that hold one group, with the older record first, is wrong. -/
theorem not_newestToOldest_twoStreams :
    ¬ ∃ report, watchPE2.report ⟨0, 0⟩ ⟨0, 0⟩ none (responseOf twoStreams) = .ok report ∧
      watchPE2.NewestToOldest twoStreams report := by
  rintro ⟨report, hreport, h⟩
  have hobserved : (watchPE2.report ⟨0, 0⟩ ⟨0, 0⟩ none (responseOf twoStreams)).toOption.map
      (fun report => report.observations.map LokiObservation.lastSeen) =
        some [some "Aug 19 03:40:30.065 UTC"] := by decide +kernel
  have hgroup : (groupOf watchPE2.u watchPE2.str twoStreams
      ("ROUTING-BGP-5-ADJCHANGE", some "10.0.0.9")).map (fun r => (ingestNs r, r.timestamp)) =
        [(some 1000, "Aug 19 03:40:30.065 UTC"), (some 2000, "Aug 19 03:50:30.065 UTC")] := by
    decide +kernel
  rw [hreport] at hobserved
  have hlast : report.observations.map LokiObservation.lastSeen =
      [some "Aug 19 03:40:30.065 UTC"] := Option.some.inj hobserved
  obtain ⟨o, ho, hreported⟩ := @NewestToOldest.exists_reported _ _ _ h
    ("ROUTING-BGP-5-ADJCHANGE", some "10.0.0.9") (by
      intro hempty
      rw [hempty] at hgroup
      cases hgroup)
  obtain ⟨newest, hnewest, hall, hseen⟩ := hreported.last
  have hmem := List.mem_map_of_mem (f := LokiObservation.lastSeen) ho
  rw [hlast, List.mem_singleton, hseen] at hmem
  have hpair := List.mem_map_of_mem (f := fun r => (ingestNs r, r.timestamp)) hnewest
  have hlater : (some (2000 : Int), "Aug 19 03:50:30.065 UTC") ∈
      (groupOf watchPE2.u watchPE2.str twoStreams
        ("ROUTING-BGP-5-ADJCHANGE", some "10.0.0.9")).map (fun r => (ingestNs r, r.timestamp)) := by
    rw [hgroup]
    exact List.mem_cons_of_mem _ List.mem_cons_self
  obtain ⟨later, hmemLater, heq⟩ := List.mem_map.mp hlater
  obtain ⟨n, n', hn, hn', hle⟩ := hall later hmemLater
  rw [hgroup] at hpair
  simp only [List.mem_cons, Prod.mk.injEq, List.not_mem_nil, or_false] at hpair
  simp only [Prod.mk.injEq] at heq
  rcases hpair with ⟨hingest, -⟩ | ⟨-, htimestamp⟩
  · rw [heq.1] at hn
    rw [hingest] at hn'
    cases hn
    cases hn'
    omega
  · rw [htimestamp] at hmem
    revert hmem
    decide

end Watch

end EventWatch

end NetTools
