import NetTools.Descent.CheckVerdicts
import NetTools.Health.Rules

/-!
# Rungs and rules

The checks of the rungs go by the first row about an object, the rules of health by every row. They
say the same of a table as far as its rows about one object do.
-/

namespace NetTools

namespace Health

section Rules

variable (evidence : Evidence) (device : Device)

def Reports (rule : String) (about : Option String → Prop) : Prop :=
  ∃ finding ∈ (evaluateDevice evidence device).findings, finding.rule = rule ∧
    about finding.subject

lemma allRules_names_nodup : (allRules.map Rule.name).Nodup := by decide

variable {evidence device}

lemma rule_of_mem_unassessed {finding : Finding} (h : finding ∈ unassessed evidence) :
    finding.rule ∉ allRules.map Rule.name := by
  have hnames : finding.rule = "device_unreachable" ∨
      finding.rule = "intent_collection_failed" ∨ finding.rule = "intent_unparsed" := by
    rw [unassessed, List.mem_append] at h
    rcases h with h | h
    · split at h
      · rw [List.mem_singleton.mp h]
        exact .inl rfl
      · obtain ⟨intent, -, rfl⟩ := List.mem_map.mp h
        exact .inr (.inl rfl)
    · obtain ⟨intent, -, rfl⟩ := List.mem_map.mp h
      exact .inr (.inr rfl)
  rcases hnames with hname | hname | hname <;> rw [hname] <;> decide

lemma reports_iff {rule : Rule} (hrule : rule ∈ allRules) {about : Option String → Prop} :
    Reports evidence device rule.name about ↔
      ∃ raw ∈ rule.fn (buildContext evidence device), about raw.subject := by
  constructor
  · rintro ⟨finding, hmem, hname, habout⟩
    rcases List.mem_append.mp hmem with hmem | hmem
    · obtain ⟨other, hother, hfinding⟩ := List.mem_flatMap.mp hmem
      obtain ⟨raw, hraw, rfl⟩ := List.mem_map.mp hfinding
      have hsame : other = rule :=
        List.inj_on_of_nodup_map allRules_names_nodup hother hrule hname
      rw [hsame] at hraw
      exact ⟨raw, hraw, habout⟩
    · have hnot := rule_of_mem_unassessed hmem
      rw [hname] at hnot
      exact absurd (List.mem_map_of_mem hrule) hnot
  · rintro ⟨raw, hraw, habout⟩
    refine ⟨⟨rule.name, raw.severity.getD rule.severity, raw.intent, raw.message, raw.expected,
      raw.actual, raw.subject⟩, ?_, rfl, habout⟩
    refine List.mem_append_left _ (List.mem_flatMap.mpr ⟨rule, hrule, ?_⟩)
    exact List.mem_map.mpr ⟨raw, hraw, rfl⟩

lemma intentRecords_eq (intent : String) :
    intentRecords evidence intent =
      (evidence.read intent).map (fun sec => (sec.parsedRecords, sec.parsedMeta)) := by
  rw [intentRecords, Evidence.read]
  cases evidence.get intent with
  | none => rfl
  | some sec =>
    dsimp only
    by_cases hok : sec.parseStatus = some PARSE_OK
    · rw [if_pos hok, Option.filter_some, if_pos (beq_iff_eq.mpr hok)]
      rfl
    · rw [if_neg hok, Option.filter_some, if_neg (fun h => hok (beq_iff_eq.mp h))]
      rfl

lemma recordsOf_eq (intent : String) :
    recordsOf evidence intent = ((evidence.read intent).map Section.parsedRecords).getD [] := by
  rw [recordsOf, intentRecords_eq, Option.map_map]
  rfl

lemma mem_recordsOf {intent : String} {record : Record}
    (h : record ∈ recordsOf evidence intent) : (intentRecords evidence intent).isSome = true := by
  rw [intentRecords_eq, Option.isSome_map]
  rw [recordsOf_eq] at h
  cases hread : evidence.read intent with
  | none =>
    rw [hread] at h
    cases h
  | some sec => rfl

lemma reports_isolated_iff :
    Reports evidence device "isis_isolated" (fun _ => True) ↔
      ∃ sec, evidence.read "isis" = some sec ∧ sec.parsedRecords = [] := by
  have hrule : (⟨"isis_isolated", .critical, isisIsolated⟩ : Rule) ∈ allRules :=
    List.mem_cons_self
  rw [show "isis_isolated" = Rule.name ⟨"isis_isolated", .critical, isisIsolated⟩ from rfl,
    reports_iff hrule]
  dsimp only
  rw [isisIsolated, buildContext]
  dsimp only
  rw [recordsOf_eq, intentRecords_eq]
  cases evidence.read "isis" with
  | none => simp
  | some sec =>
    cases hrows : sec.parsedRecords with
    | nil => simp [hrows]
    | cons record rows => simp [hrows]

lemma exists_reported (intent : String) (wrong : Record → Bool) (make : Record → Fragment)
    (about : Option String → Prop) :
    (∃ raw ∈ (if !(intentRecords evidence intent).isSome then []
        else ((recordsOf evidence intent).filter wrong).map make), about raw.subject) ↔
      ∃ record ∈ recordsOf evidence intent, wrong record = true ∧ about (make record).subject := by
  constructor
  · rintro ⟨raw, hraw, habout⟩
    split at hraw
    · cases hraw
    · obtain ⟨record, hrecord, rfl⟩ := List.mem_map.mp hraw
      obtain ⟨hmem, hwrong⟩ := List.mem_filter.mp hrecord
      exact ⟨record, hmem, hwrong, habout⟩
  · rintro ⟨record, hmem, hwrong, habout⟩
    rw [mem_recordsOf hmem, if_neg (by decide)]
    exact ⟨make record, List.mem_map_of_mem (List.mem_filter.mpr ⟨hmem, hwrong⟩), habout⟩

lemma reports_notUp_iff :
    Reports evidence device "isis_adjacency_not_up" (fun _ => True) ↔
      ∃ record ∈ recordsOf evidence "isis", record.state ≠ some "Up" := by
  have hrule : (⟨"isis_adjacency_not_up", .critical, isisAdjacencyNotUp⟩ : Rule) ∈ allRules := by
    simp [allRules]
  rw [show "isis_adjacency_not_up" =
    Rule.name ⟨"isis_adjacency_not_up", .critical, isisAdjacencyNotUp⟩ from rfl,
    reports_iff hrule]
  refine (exists_reported "isis" _ _ (fun _ => True)).trans ?_
  simp

lemma reports_sessionDown_iff {peer : String} :
    Reports evidence device "bgp_session_down" (fun subject => subject = some peer) ↔
      ∃ record ∈ recordsOf evidence "bgp", record.isEstablished = false ∧
        record.neighbor = some peer := by
  have hrule : (⟨"bgp_session_down", .critical, bgpSessionDown⟩ : Rule) ∈ allRules := by
    simp [allRules]
  rw [show "bgp_session_down" = Rule.name ⟨"bgp_session_down", .critical, bgpSessionDown⟩ from rfl,
    reports_iff hrule]
  refine (exists_reported "bgp" _ _ (fun subject => subject = some peer)).trans ?_
  simp [Record.isEstablished]

def Denotes (name : String) (subject : Option String) : Prop :=
  sameInterface (subject.getD "") name = true

lemma reports_lineDown_iff {name : String} :
    Reports evidence device "interface_admin_up_line_down" (Denotes name) ↔
      ∃ record ∈ recordsOf evidence "interfaces", (record.adminState = some "up" ∧
        record.lineProtocol ≠ some "up") ∧ record.onInterface name = true := by
  have hrule : (⟨"interface_admin_up_line_down", .warning, interfaceAdminUpLineDown⟩ : Rule) ∈
      allRules := by
    simp [allRules]
  rw [show "interface_admin_up_line_down" =
    Rule.name ⟨"interface_admin_up_line_down", .warning, interfaceAdminUpLineDown⟩ from rfl,
    reports_iff hrule]
  refine (exists_reported "interfaces" _ _ (Denotes name)).trans ?_
  simp [Denotes, Record.onInterface]

end Rules

section Agreement

variable (evidence : Evidence) (device : Device)

/-- An interface of the bulk table that has no capture of its own. -/
def Listed (name : String) : Prop :=
  (∃ record ∈ recordsOf evidence "interfaces", record.interface = some name) ∧
    evidence.get ("interface:" ++ name) = none

structure Agrees : Prop where
  isis_healthy : (isisAdjacency evidence none).status = .healthy →
    ¬Reports evidence device "isis_isolated" (fun _ => True) ∧
      ¬Reports evidence device "isis_adjacency_not_up" (fun _ => True)
  isis_broken : (isisAdjacency evidence none).status = .broken →
    Reports evidence device "isis_isolated" (fun _ => True) ∨
      Reports evidence device "isis_adjacency_not_up" (fun _ => True)
  session_healthy : ∀ peer, (bgpSessionState evidence peer).status = .healthy →
    ¬Reports evidence device "bgp_session_down" (fun subject => subject = some peer)
  session_broken : ∀ peer, (bgpSessionState evidence peer).status = .broken →
    Reports evidence device "bgp_session_down" (fun subject => subject = some peer)
  interface_healthy : ∀ name, Listed evidence name →
    (interfaceState evidence name none).status = .healthy →
      ¬Reports evidence device "interface_admin_up_line_down" (Denotes name)
  interface_broken : ∀ name, Listed evidence name →
    (interfaceState evidence name none).status = .broken →
      Reports evidence device "interface_admin_up_line_down" (Denotes name) ∨
        ∃ record ∈ recordsOf evidence "interfaces", record.onInterface name = true ∧
          record.adminState ≠ some "up"

/-- What the first row about an object says, the later rows about it do not deny. -/
structure RowsAgree : Prop where
  sessions : ∀ peer first, (recordsOf evidence "bgp").find? (Record.ofNeighbor peer) = some first →
    first.sessionState = some "Established" →
      ∀ record ∈ recordsOf evidence "bgp", record.neighbor = some peer →
        record.sessionState = some "Established"
  interfaces : ∀ name, Listed evidence name → ∀ first,
    (recordsOf evidence "interfaces").find? (Record.onInterface name) = some first →
      first.adminState = some "up" → first.lineProtocol = some "up" →
        ∀ record ∈ recordsOf evidence "interfaces", record.onInterface name = true →
          record.adminState = some "up" → record.lineProtocol = some "up"

variable {evidence device}

lemma bind_firstAnswer_eq_some_iff {intent : String} {matching reading : Record → Bool}
    {reply : Bool} :
    (evidence.read intent).bind (firstAnswer matching reading) = some reply ↔
      ∃ first, (recordsOf evidence intent).find? matching = some first ∧ reading first = reply := by
  rw [recordsOf_eq]
  cases evidence.read intent with
  | none => simp
  | some sec =>
    rw [Option.bind_some, firstAnswer, Option.map_eq_some_iff, Option.map_some, Option.getD_some]

lemma isEstablished_iff {record : Record} :
    record.isEstablished = true ↔ record.sessionState = some "Established" := by
  rw [Record.isEstablished, beq_iff_eq]
  cases record.sessionState with
  | none => simp
  | some state => simp

lemma recordIsUp_iff {record : Record} :
    record.isUp = true ↔ record.adminState = some "up" ∧ record.lineProtocol = some "up" := by
  rw [Record.isUp, Bool.and_eq_true, beq_iff_eq, beq_iff_eq]

lemma interfaceState_of_listed {name : String} (h : Listed evidence name) :
    (interfaceState evidence name none).status =
      answer ((evidence.read "interfaces").bind
        (firstAnswer (Record.onInterface name) Record.isUp)) := by
  have hnone : evidence.read ("interface:" ++ name) = none := by
    rw [Evidence.read, h.2]
    rfl
  rw [interfaceCheck_status, interfaceVerdict, hnone]
  rfl

lemma isis_healthy_iff :
    (isisAdjacency evidence none).status = .healthy ↔
      ∃ sec, evidence.read "isis" = some sec ∧ sec.parsedRecords ≠ [] ∧
        ∀ record ∈ sec.parsedRecords, record.state = some "Up" := by
  rw [isisAdjacency_status, adjacencyVerdict, answer_eq_healthy_iff, Option.map_eq_some_iff]
  simp [Record.adjacencyUp]

lemma isis_broken_iff :
    (isisAdjacency evidence none).status = .broken ↔
      ∃ sec, evidence.read "isis" = some sec ∧
        (sec.parsedRecords = [] ∨ ∃ record ∈ sec.parsedRecords, record.state ≠ some "Up") := by
  rw [isisAdjacency_status, adjacencyVerdict, answer_eq_broken_iff, Option.map_eq_some_iff]
  refine exists_congr (fun sec => and_congr_right (fun _ => ?_))
  rw [Bool.and_eq_false_iff, Bool.not_eq_false', List.isEmpty_iff, List.all_eq_false]
  simp [Record.adjacencyUp]

/-- Exactly when the rungs and the rules agree: about the adjacencies of a device always, about a
session or an interface when the first row does not hide a worse one. -/
theorem agrees_iff_rowsAgree (evidence : Evidence) (device : Device) :
    Agrees evidence device ↔ RowsAgree evidence := by
  constructor
  · intro h
    constructor
    · intro peer first hfirst hestablished record hmem hneighbor
      have hhealthy : (bgpSessionState evidence peer).status = .healthy := by
        rw [bgpSessionState_status, sessionVerdict, answer_eq_healthy_iff,
          bind_firstAnswer_eq_some_iff]
        exact ⟨first, hfirst, isEstablished_iff.mpr hestablished⟩
      have hnone := h.session_healthy peer hhealthy
      rw [reports_sessionDown_iff] at hnone
      by_contra hdown
      refine hnone ⟨record, hmem, ?_, hneighbor⟩
      rw [Bool.eq_false_iff]
      exact fun hup => hdown (isEstablished_iff.mp hup)
    · intro name hlisted first hfirst hadmin hline record hmem hmatch hup
      have hhealthy : (interfaceState evidence name none).status = .healthy := by
        rw [interfaceState_of_listed hlisted, answer_eq_healthy_iff, bind_firstAnswer_eq_some_iff]
        exact ⟨first, hfirst, recordIsUp_iff.mpr ⟨hadmin, hline⟩⟩
      have hnone := h.interface_healthy name hlisted hhealthy
      rw [reports_lineDown_iff] at hnone
      by_contra hdown
      exact hnone ⟨record, hmem, ⟨hup, hdown⟩, hmatch⟩
  · intro h
    constructor
    · intro hhealthy
      obtain ⟨sec, hread, hne, hup⟩ := isis_healthy_iff.mp hhealthy
      rw [reports_isolated_iff, reports_notUp_iff, recordsOf_eq, hread]
      constructor
      · rintro ⟨sec', hread', hnil⟩
        cases hread'
        exact hne hnil
      · rintro ⟨record, hmem, hdown⟩
        exact hdown (hup record hmem)
    · intro hbroken
      obtain ⟨sec, hread, hrows⟩ := isis_broken_iff.mp hbroken
      rw [reports_isolated_iff, reports_notUp_iff, recordsOf_eq, hread]
      rcases hrows with hnil | hdown
      · exact .inl ⟨sec, rfl, hnil⟩
      · exact .inr hdown
    · intro peer hhealthy
      rw [bgpSessionState_status, sessionVerdict, answer_eq_healthy_iff,
        bind_firstAnswer_eq_some_iff] at hhealthy
      obtain ⟨first, hfirst, hestablished⟩ := hhealthy
      rw [reports_sessionDown_iff]
      rintro ⟨record, hmem, hdown, hneighbor⟩
      have hup := h.sessions peer first hfirst (isEstablished_iff.mp hestablished) record hmem
        hneighbor
      rw [isEstablished_iff.mpr hup] at hdown
      cases hdown
    · intro peer hbroken
      rw [bgpSessionState_status, sessionVerdict, answer_eq_broken_iff,
        bind_firstAnswer_eq_some_iff] at hbroken
      obtain ⟨first, hfirst, hdown⟩ := hbroken
      rw [reports_sessionDown_iff]
      have hneighbor := List.find?_some hfirst
      exact ⟨first, List.mem_of_find?_eq_some hfirst, hdown, beq_iff_eq.mp hneighbor⟩
    · intro name hlisted hhealthy
      rw [interfaceState_of_listed hlisted, answer_eq_healthy_iff, bind_firstAnswer_eq_some_iff]
        at hhealthy
      obtain ⟨first, hfirst, hup⟩ := hhealthy
      obtain ⟨hadmin, hline⟩ := recordIsUp_iff.mp hup
      rw [reports_lineDown_iff]
      rintro ⟨record, hmem, ⟨hadmin', hdown⟩, hmatch⟩
      exact hdown (h.interfaces name hlisted first hfirst hadmin hline record hmem hmatch hadmin')
    · intro name hlisted hbroken
      rw [interfaceState_of_listed hlisted, answer_eq_broken_iff, bind_firstAnswer_eq_some_iff]
        at hbroken
      obtain ⟨first, hfirst, hdown⟩ := hbroken
      have hmem := List.mem_of_find?_eq_some hfirst
      have hmatch := List.find?_some hfirst
      rw [reports_lineDown_iff]
      by_cases hadmin : first.adminState = some "up"
      · left
        refine ⟨first, hmem, ⟨hadmin, ?_⟩, hmatch⟩
        intro hline
        rw [recordIsUp_iff.mpr ⟨hadmin, hline⟩] at hdown
        cases hdown
      · exact .inr ⟨first, hmem, hmatch, hadmin⟩

def neighborTwice : Evidence where
  device := "PE1"
  get key :=
    if key = "bgp" then
      some
        { parsed := some
            { records :=
                [{ neighbor := some "10.255.0.12", sessionState := some "Established" },
                  { neighbor := some "10.255.0.12", sessionState := some "Idle" }] }
          parseStatus := some PARSE_OK
          status := some "success" }
    else none

theorem not_agrees_neighborTwice :
    ¬Agrees neighborTwice { name := "PE1", role := .edge } := by
  intro h
  have hhealthy : (bgpSessionState neighborTwice "10.255.0.12").status = .healthy := by
    decide +kernel
  refine h.session_healthy "10.255.0.12" hhealthy ?_
  rw [reports_sessionDown_iff]
  exact ⟨{ neighbor := some "10.255.0.12", sessionState := some "Idle" }, by decide, by decide,
    rfl⟩

end Agreement

end Health

end NetTools
