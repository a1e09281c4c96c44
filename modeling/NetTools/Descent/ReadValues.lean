import NetTools.Descent.CheckVerdicts
import NetTools.Descent.NeighborBlocks

/-!
# What a check concludes from

A check is to conclude from values that it read. A field that is not there is compared like one that
is: the verdict is then drawn from an absence.
-/

namespace NetTools

def Meta.ReportsState (fields : Meta) (state : String) : Prop :=
  state ≠ "" ∧ (fields.connectionState = some state ∨ fields.state = some state)

section Transport

variable (evidence : Evidence) (peer : String)

def NeighborRead (sec : Section) : Prop := evidence.read ("bgp_neighbor:" ++ peer) = some sec

structure TransportFromRead : Prop where
  healthy : (bgpTransport evidence peer).status = .healthy →
    ∃ sec, NeighborRead evidence peer sec ∧ ∃ state ∈ tcpUpStates, sec.parsedMeta.ReportsState state
  broken : (bgpTransport evidence peer).status = .broken →
    ∃ sec, NeighborRead evidence peer sec ∧ (sec.parsedMeta.socketArmedRead = some false ∨
      ∃ state, state ∉ tcpUpStates ∧ sec.parsedMeta.ReportsState state)
  silent : ∀ sec, NeighborRead evidence peer sec → sec.parsedMeta.socketArmedRead = none →
    (∀ state, ¬sec.parsedMeta.ReportsState state) →
      (bgpTransport evidence peer).status = .unevaluated

/-- A block without a socket line reports the session established, or in a state that tells against
the transport. -/
def TransportTells : Prop :=
  ∀ sec, NeighborRead evidence peer sec → sec.parsedMeta.found = true →
    sec.parsedMeta.socketArmedRead = none →
      sec.parsedMeta.connectionState ≠ some "Established" →
        ∃ state, state ∉ tcpUpStates ∧ sec.parsedMeta.ReportsState state

variable {evidence peer}

lemma transport_status_iff {status : Status} (hstatus : status ≠ .unevaluated) :
    (bgpTransport evidence peer).status = status ↔
      ∃ sec, NeighborRead evidence peer sec ∧ answer (transportAnswer sec.parsedMeta) = status := by
  rw [bgpTransport_status, transportVerdict]
  cases hread : evidence.read ("bgp_neighbor:" ++ peer) with
  | none =>
    constructor
    · intro h
      exact absurd h.symm hstatus
    · rintro ⟨sec, hsec, -⟩
      rw [NeighborRead, hread] at hsec
      cases hsec
  | some sec =>
    constructor
    · intro h
      exact ⟨sec, hread, h⟩
    · rintro ⟨sec', hsec, h⟩
      rw [NeighborRead, hread] at hsec
      cases hsec
      exact h

lemma reportsState_of_fsm {fields : Meta} {state : String}
    (h : (orNone fields.connectionState).or fields.state = some state) (hne : state ≠ "") :
    fields.ReportsState state := by
  refine ⟨hne, ?_⟩
  cases hconnection : orNone fields.connectionState with
  | none =>
    rw [hconnection, Option.none_or] at h
    exact .inr h
  | some connection =>
    rw [hconnection, Option.some_or] at h
    rw [orNone, Option.filter_eq_some_iff] at hconnection
    rw [← Option.some.inj h]
    exact .inl hconnection.1

lemma transportAnswer_true {fields : Meta} (h : transportAnswer fields = some true) :
    ∃ state ∈ tcpUpStates, fields.ReportsState state := by
  have hnamed : ∀ state ∈ tcpUpStates, state ≠ "" := by decide
  rw [transportAnswer] at h
  split at h
  · cases h
  · split at h
    · split at h
      · rename_i hany
        rw [Option.any_eq_true] at hany
        obtain ⟨state, hstate, hmem⟩ := hany
        have hup : state ∈ tcpUpStates := List.contains_iff_mem.mp hmem
        exact ⟨state, hup, reportsState_of_fsm hstate (hnamed state hup)⟩
      · cases h
    · cases h
    · rw [Option.some.injEq, beq_iff_eq] at h
      exact ⟨"Established", by decide, by decide, .inl h⟩

lemma transportAnswer_false_iff {fields : Meta} :
    transportAnswer fields = some false ↔
      fields.found = true ∧ (fields.socketArmedRead = some false ∨
        fields.socketArmedRead = none ∧ fields.connectionState ≠ some "Established") := by
  rw [transportAnswer]
  cases hfound : fields.found with
  | false => simp
  | true =>
    cases hsocket : fields.socketArmedRead with
    | none => simp
    | some armed =>
      cases armed with
      | false => simp
      | true =>
        dsimp only
        rw [if_neg (by decide)]
        split <;> simp

theorem transportFromRead_iff :
    TransportFromRead evidence peer ↔ TransportTells evidence peer := by
  constructor
  · intro h sec hsec hfound hsocket hconnection
    have hbroken : (bgpTransport evidence peer).status = .broken := by
      rw [transport_status_iff (by decide)]
      refine ⟨sec, hsec, ?_⟩
      rw [transportAnswer_false_iff.mpr ⟨hfound, .inr ⟨hsocket, hconnection⟩⟩]
      rfl
    obtain ⟨sec', hsec', hreported⟩ := h.broken hbroken
    rw [NeighborRead] at hsec hsec'
    rw [hsec] at hsec'
    cases hsec'
    rcases hreported with hfalse | hstate
    · rw [hsocket] at hfalse
      cases hfalse
    · exact hstate
  · intro h
    constructor
    · intro hhealthy
      obtain ⟨sec, hsec, hanswer⟩ := (transport_status_iff (by decide)).mp hhealthy
      exact ⟨sec, hsec, transportAnswer_true (answer_eq_healthy_iff.mp hanswer)⟩
    · intro hbroken
      obtain ⟨sec, hsec, hanswer⟩ := (transport_status_iff (by decide)).mp hbroken
      refine ⟨sec, hsec, ?_⟩
      obtain ⟨hfound, hsocket | ⟨hsocket, hconnection⟩⟩ :=
        transportAnswer_false_iff.mp (answer_eq_broken_iff.mp hanswer)
      · exact .inl hsocket
      · exact .inr (h sec hsec hfound hsocket hconnection)
    · intro sec hsec hsocket hnone
      rw [bgpTransport_status, transportVerdict]
      rw [NeighborRead] at hsec
      rw [hsec, Option.bind_some, answer_eq_unevaluated_iff, transportAnswer, hsocket]
      cases hfound : sec.parsedMeta.found with
      | false => rfl
      | true =>
        -- what is left is a block that tells nothing
        by_cases hconnection : sec.parsedMeta.connectionState = some "Established"
        · exact absurd ⟨by decide, .inl hconnection⟩ (hnone "Established")
        · obtain ⟨state, -, hstate⟩ := h sec hsec hfound hsocket hconnection
          exact absurd hstate (hnone state)

end Transport

section Blocks

open NeighborBlocks Pattern

/-- An output with the block of a neighbour and without a socket line gives a state that settles
the transport. -/
def BlockTells (output : String) : Prop :=
  (∀ line ∈ blockLines output, NeighborBlocks.refusal line = none) →
    (∃ line ∈ blockLines output, namesNeighbor line = true) →
      (∀ line ∈ blockLines output, socketOf line = none) →
        ∃ state, ((blockLines output).filterMap stateOf).getLast? = some state ∧
          state ∉ ["OpenSent", "OpenConfirm"]

lemma not_isBlank_of_namesNeighbor {output line : String} (h : line ∈ blockLines output)
    (hnames : namesNeighbor line = true) : isBlank output = false := by
  obtain ⟨raw, hraw, rfl⟩ := List.mem_map.mp (List.mem_filter.mp h).1
  have hstart := starts_of_matchStart hnames
  have hmem : 'B' ∈ output.toList :=
    subset_splitLines hraw (subset_pyStrip raw (hstart.subset (by decide)))
  rw [isBlank, List.all_eq_false]
  exact ⟨'B', hmem, by decide⟩

lemma parseXrBgpNeighbor_found {output : String} {fields : Meta}
    (h : parseXrBgpNeighbor output = some fields) (hfound : fields.found = true) :
    (∀ line ∈ blockLines output, NeighborBlocks.refusal line = none) ∧
      (∃ line ∈ blockLines output, namesNeighbor line = true) ∧
      fields.state = ((blockLines output).filterMap stateOf).getLast? ∧
      fields.connectionState = ((blockLines output).filterMap stateOf).getLast? ∧
      fields.socketArmedRead = ((blockLines output).filterMap socketOf).getLast? := by
  rw [parseXrBgpNeighbor] at h
  cases hrefused : (blockLines output).findSome? NeighborBlocks.refusal with
  | some reason =>
    rw [hrefused] at h
    cases h
    cases hfound
  | none =>
    rw [hrefused] at h
    dsimp only at h
    split at h
    · rename_i hnames
      cases h
      obtain ⟨hany, hstate, hconnection, hsocket⟩ := readBlock_eq (blockLines output)
      rw [hany, List.any_eq_true] at hnames
      exact ⟨List.findSome?_eq_none_iff.mp hrefused, hnames, hstate, hconnection, hsocket⟩
    · cases h

lemma parseXrBgpNeighbor_of_block {output : String}
    (hrefused : ∀ line ∈ blockLines output, NeighborBlocks.refusal line = none)
    (hnames : ∃ line ∈ blockLines output, namesNeighbor line = true) :
    ∃ fields, parseXrBgpNeighbor output = some fields ∧ fields.found = true := by
  refine ⟨{ (readBlock (blockLines output)).2 with found := true }, ?_, rfl⟩
  have hany := (readBlock_eq (blockLines output)).1
  rw [List.any_eq_true.mpr hnames] at hany
  rw [parseXrBgpNeighbor, List.findSome?_eq_none_iff.mpr hrefused]
  dsimp only
  rw [if_pos hany]

lemma neighborSection_read {evidence : Evidence} {peer output : String} {sec : Section}
    (h : evidence.get ("bgp_neighbor:" ++ peer) = some (neighborSection output)) :
    NeighborRead evidence peer sec ↔
      isBlank output = false ∧ ∃ fields, parseXrBgpNeighbor output = some fields ∧
        sec = { parsed := some { fields }, parseStatus := some PARSE_OK } := by
  rw [NeighborRead, Evidence.read, h, neighborSection]
  cases isBlank output with
  | true => simp [Option.filter, PARSE_OK, PARSE_FAILED]
  | false =>
    cases parseXrBgpNeighbor output with
    | none => simp [Option.filter, PARSE_OK, PARSE_FAILED]
    | some fields => simp [Option.filter, eq_comm]

theorem transportTells_iff_blockTells {evidence : Evidence} {peer output : String}
    (h : evidence.get ("bgp_neighbor:" ++ peer) = some (neighborSection output)) :
    TransportTells evidence peer ↔ BlockTells output := by
  constructor
  · intro htells hrefused hnames hsockets
    obtain ⟨fields, hfields, hfound⟩ := parseXrBgpNeighbor_of_block hrefused hnames
    obtain ⟨-, -, hstate, hconnection, hsocket⟩ := parseXrBgpNeighbor_found hfields hfound
    obtain ⟨line, hline, hnamed⟩ := hnames
    have hread := (neighborSection_read h).mpr
      ⟨not_isBlank_of_namesNeighbor hline hnamed, fields, hfields, rfl⟩
    have hnone : fields.socketArmedRead = none := by
      rw [hsocket, List.filterMap_eq_nil_iff.mpr hsockets]
      rfl
    by_cases hup : fields.connectionState = some "Established"
    · rw [hconnection] at hup
      exact ⟨"Established", hup, by decide⟩
    · obtain ⟨state, hdown, -, hreported⟩ := htells _ hread hfound hnone hup
      refine ⟨state, ?_, fun hmem => hdown (List.mem_append_left _ hmem)⟩
      rcases hreported with hreported | hreported
      · exact hconnection ▸ hreported
      · exact hstate ▸ hreported
  · intro hblock sec hread hfound hsocket hconnection
    obtain ⟨-, fields, hfields, rfl⟩ := (neighborSection_read h).mp hread
    obtain ⟨hrefused, hnames, hstate, hconnection', hsocket'⟩ :=
      parseXrBgpNeighbor_found hfields hfound
    have hnone : (blockLines output).filterMap socketOf = [] := by
      rw [← List.getLast?_eq_none_iff, ← hsocket']
      exact hsocket
    obtain ⟨state, hlast, hsettles⟩ :=
      hblock hrefused hnames (List.filterMap_eq_nil_iff.mp hnone)
    have hreported : fields.connectionState = some state := by
      rw [hconnection', hlast]
    obtain ⟨line, -, hline⟩ := List.mem_filterMap.mp (List.mem_of_getLast? hlast)
    refine ⟨state, ?_, stateOf_ne_empty hline, .inl hreported⟩
    intro hmem
    have hcases : state = "OpenSent" ∨ state = "OpenConfirm" ∨ state = "Established" := by
      simpa [tcpUpStates] using hmem
    rcases hcases with rfl | rfl | rfl
    · exact hsettles (by decide)
    · exact hsettles (by decide)
    · exact hconnection hreported

end Blocks

section Rows

variable (evidence : Evidence)

def firstRow (key : String) (matching : Record → Bool) : Option Record :=
  (evidence.read key).bind (fun sec => sec.parsedRecords.find? matching)

def NoRow (key : String) (matching : Record → Bool) : Prop :=
  ∃ sec, evidence.read key = some sec ∧ sec.parsedRecords.find? matching = none

def StateNotUp (admin line : Option String) : Prop :=
  ∃ state, (admin = some state ∨ line = some state) ∧ state ≠ "up"

def Record.TellsLink (record : Record) : Prop :=
  record.isUp = true ∨ StateNotUp record.adminState record.lineProtocol

variable {evidence}

lemma firstRow_eq_some_iff {key : String} {matching : Record → Bool} {row : Record} :
    firstRow evidence key matching = some row ↔
      ∃ sec, evidence.read key = some sec ∧ sec.parsedRecords.find? matching = some row :=
  Option.bind_eq_some_iff

lemma bind_firstAnswer_eq {key : String} {matching reading : Record → Bool} :
    (evidence.read key).bind (firstAnswer matching reading) =
      (firstRow evidence key matching).map reading := by
  rw [firstRow, Option.map_bind]
  rfl

lemma session_broken_iff {peer : String} :
    (bgpSessionState evidence peer).status = .broken ↔
      ∃ row, firstRow evidence "bgp" (Record.ofNeighbor peer) = some row ∧
        row.isEstablished = false := by
  rw [bgpSessionState_status, sessionVerdict, answer_eq_broken_iff, bind_firstAnswer_eq,
    Option.map_eq_some_iff]

lemma neighbor_status_of_row {name : String} {row : Record}
    (h : firstRow evidence "isis" (Record.onInterface name) = some row) :
    (isisNeighborUp evidence name).status = answer (some row.adjacencyUp) := by
  obtain ⟨sec, hread, hfind⟩ := firstRow_eq_some_iff.mp h
  rw [isisNeighborUp_status]
  unfold neighborVerdict
  rw [hread]
  dsimp only
  rw [firstAnswer, hfind]
  rfl

lemma ldp_status_of_row {name : String} {row : Record}
    (h : firstRow evidence "ldp" (Record.discovers name) = some row) :
    (ldpSessionUp evidence name).status = answer (some row.isOper) := by
  obtain ⟨sec, hread, hfind⟩ := firstRow_eq_some_iff.mp h
  rw [ldpSessionUp_status]
  unfold ldpVerdict
  rw [hread]
  dsimp only
  rw [firstAnswer, hfind]
  rfl

lemma explained_iff {name : String} :
    (∃ sec, evidence.read "interfaces" = some sec ∧ explainedByInterface name sec = true) ↔
      ∃ row, firstRow evidence "interfaces" (Record.onInterface name) = some row ∧
        row.isUp = false := by
  constructor
  · rintro ⟨sec, hread, hexplained⟩
    rw [explainedByInterface, beq_iff_eq, firstAnswer, Option.map_eq_some_iff] at hexplained
    obtain ⟨row, hfind, hdown⟩ := hexplained
    exact ⟨row, firstRow_eq_some_iff.mpr ⟨sec, hread, hfind⟩, hdown⟩
  · rintro ⟨row, hrow, hdown⟩
    obtain ⟨sec, hread, hfind⟩ := firstRow_eq_some_iff.mp hrow
    refine ⟨sec, hread, ?_⟩
    rw [explainedByInterface, firstAnswer, hfind, Option.map_some, hdown]
    rfl

lemma neighbor_broken_iff_of_silent {name : String}
    (hisis : NoRow evidence "isis" (Record.onInterface name))
    (hlldp : NoRow evidence "lldp" (Record.onLocalInterface name)) :
    (isisNeighborUp evidence name).status = .broken ↔
      ∃ row, firstRow evidence "interfaces" (Record.onInterface name) = some row ∧
        row.isUp = false := by
  obtain ⟨isis, hread, hfind⟩ := hisis
  obtain ⟨lldp, hread', hfind'⟩ := hlldp
  rw [← explained_iff, isisNeighborUp_status]
  unfold neighborVerdict
  rw [hread]
  dsimp only
  rw [firstAnswer, hfind, Option.map_none]
  dsimp only
  rw [hread']
  dsimp only
  rw [← List.isSome_find?, hfind', Option.isSome_none, if_neg Bool.false_ne_true]
  cases evidence.read "interfaces" with
  | none => simp
  | some sec => simp

lemma ldp_broken_of_silent {name : String} {row : Record}
    (hldp : NoRow evidence "ldp" (Record.discovers name))
    (hdiscovery : NoRow evidence "ldp_discovery" (Record.onInterface name))
    (hrow : firstRow evidence "interfaces" (Record.onInterface name) = some row)
    (hdown : row.isUp = false) : (ldpSessionUp evidence name).status = .broken := by
  obtain ⟨ldp, hread, hfind⟩ := hldp
  obtain ⟨discovery, hread', hfind'⟩ := hdiscovery
  obtain ⟨sec, hsec, hexplained⟩ := explained_iff.mpr ⟨row, hrow, hdown⟩
  rw [ldpSessionUp_status]
  unfold ldpVerdict
  rw [hread]
  dsimp only
  rw [firstAnswer, hfind, Option.map_none]
  dsimp only
  rw [hread']
  dsimp only
  rw [← List.isSome_find?, hfind', Option.isSome_none, if_neg Bool.false_ne_true, hsec]
  dsimp only
  rw [if_pos hexplained]

lemma isEstablished_of_none {row : Record} (h : row.sessionState = none) :
    row.isEstablished = false := by
  rw [Record.isEstablished, h]
  decide

end Rows

section Interfaces

variable {evidence : Evidence} {name : String}

def Captured (evidence : Evidence) (name : String) (sec : Section) (admin line : String) : Prop :=
  evidence.read ("interface:" ++ name) = some sec ∧ sec.parsedMeta.adminState = some admin ∧
    sec.parsedMeta.lineState = some line

def NotCaptured (evidence : Evidence) (name : String) : Prop :=
  ∀ sec admin line, ¬Captured evidence name sec admin line

lemma requireParsed_of_read {key : String} {sec : Section} (subject : Option String)
    (h : evidence.read key = some sec) : requireParsed evidence key subject = .ok sec := by
  rcases read_cases evidence key subject with ⟨sec', hread, hreq⟩ | ⟨bail, hread, -, -⟩
  · rw [h] at hread
    cases hread
    exact hreq
  · rw [h] at hread
    cases hread

lemma readInterfaceObservation_of_captured {sec : Section} {admin line : String}
    (h : Captured evidence name sec admin line) :
    readInterfaceObservation evidence name =
      .ok ⟨some admin, some line, extractErrorCounters sec,
        evidenceKey evidence.device ("interface:" ++ name)⟩ := by
  obtain ⟨hread, hadmin, hline⟩ := h
  rw [readInterfaceObservation]
  rw [requireParsed_of_read (some name) hread]
  dsimp only
  rw [hadmin, hline]

lemma readBulkObservation_of_row {row : Record} (bail : Option CheckResult)
    (h : firstRow evidence "interfaces" (Record.onInterface name) = some row) :
    readBulkObservation evidence name bail =
      .ok ⟨row.adminState, row.lineProtocol, none,
        evidenceKey evidence.device "interfaces" (some name)⟩ := by
  obtain ⟨sec, hread, hfind⟩ := firstRow_eq_some_iff.mp h
  rw [readBulkObservation, requireParsed_of_read (some name) hread]
  dsimp only
  rw [hfind]

lemma row_of_readBulkObservation {bail : Option CheckResult} {obs : InterfaceObservation}
    (h : readBulkObservation evidence name bail = .ok obs) :
    ∃ row, firstRow evidence "interfaces" (Record.onInterface name) = some row := by
  rw [readBulkObservation] at h
  rcases read_cases evidence "interfaces" (some name) with
    ⟨sec, hread, hreq⟩ | ⟨bail, hread, hreq, -⟩
  · rw [hreq] at h
    dsimp only at h
    cases hfind : sec.parsedRecords.find? (Record.onInterface name) with
    | none =>
      rw [hfind] at h
      cases h
    | some row => exact ⟨row, firstRow_eq_some_iff.mpr ⟨sec, hread, hfind⟩⟩
  · rw [hreq] at h
    cases h

lemma readInterfaceObservation_of_notCaptured (h : NotCaptured evidence name) :
    ∃ bail, readInterfaceObservation evidence name = readBulkObservation evidence name bail := by
  rw [readInterfaceObservation]
  rcases read_cases evidence ("interface:" ++ name) (some name) with
    ⟨sec, hread, hreq⟩ | ⟨bail, hread, hreq, -⟩
  · rw [hreq]
    dsimp only
    cases hadmin : sec.parsedMeta.adminState with
    | none => exact ⟨none, rfl⟩
    | some admin =>
      cases hline : sec.parsedMeta.lineState with
      | none => exact ⟨none, rfl⟩
      | some line => exact absurd ⟨hread, hadmin, hline⟩ (h sec admin line)
  · rw [hreq]
    exact ⟨some bail, rfl⟩

lemma readInterfaceObservation_cases {obs : InterfaceObservation}
    (h : readInterfaceObservation evidence name = .ok obs) :
    (∃ sec admin line, Captured evidence name sec admin line ∧ obs.adminState = some admin ∧
      obs.lineState = some line ∧ obs.counters = extractErrorCounters sec) ∨
    (NotCaptured evidence name ∧ ∃ row,
      firstRow evidence "interfaces" (Record.onInterface name) = some row ∧
        obs.adminState = row.adminState ∧ obs.lineState = row.lineProtocol ∧
        obs.counters = none) := by
  by_cases hcaptured : ∃ sec admin line, Captured evidence name sec admin line
  · obtain ⟨sec, admin, line, hcaptured⟩ := hcaptured
    rw [readInterfaceObservation_of_captured hcaptured] at h
    cases h
    exact .inl ⟨sec, admin, line, hcaptured, rfl, rfl, rfl⟩
  · push Not at hcaptured
    obtain ⟨bail, hbulk⟩ := readInterfaceObservation_of_notCaptured hcaptured
    rw [hbulk] at h
    obtain ⟨row, hrow⟩ := row_of_readBulkObservation h
    rw [readBulkObservation_of_row bail hrow] at h
    cases h
    exact .inr ⟨hcaptured, row, hrow, rfl, rfl, rfl⟩

lemma interface_broken_iff :
    (interfaceState evidence name none).status = .broken ↔
      ∃ obs, readInterfaceObservation evidence name = .ok obs ∧ obs.isUp = false := by
  rw [interfaceCheck_status, interfaceVerdict, ← (readInterfaceObservation_answer evidence name).1,
    answer_eq_broken_iff, Option.map_eq_some_iff]
  cases readInterfaceObservation evidence name with
  | error bail => simp [Except.toOption]
  | ok obs => simp [Except.toOption]

lemma stateNotUp_of_both {admin line : String}
    (h : (some admin == some "up" && some line == some "up") = false) :
    StateNotUp (some admin) (some line) := by
  rw [Bool.and_eq_false_iff, beq_eq_false_iff_ne, beq_eq_false_iff_ne] at h
  rcases h with h | h
  · exact ⟨admin, .inl rfl, fun heq => h (congrArg some heq)⟩
  · exact ⟨line, .inr rfl, fun heq => h (congrArg some heq)⟩

lemma interface_fromRead_iff :
    ((interfaceState evidence name none).status = .broken →
        ∃ obs, readInterfaceObservation evidence name = .ok obs ∧
          StateNotUp obs.adminState obs.lineState) ↔
      (NotCaptured evidence name → ∀ row,
        firstRow evidence "interfaces" (Record.onInterface name) = some row → row.TellsLink) := by
  constructor
  · intro h hnone row hrow
    cases hup : row.isUp with
    | true => exact .inl hup
    | false =>
      obtain ⟨bail, hbulk⟩ := readInterfaceObservation_of_notCaptured hnone
      rw [readBulkObservation_of_row bail hrow] at hbulk
      obtain ⟨obs, hobs, hstate⟩ := h (interface_broken_iff.mpr ⟨_, hbulk, hup⟩)
      rw [hbulk] at hobs
      cases hobs
      exact .inr hstate
  · intro h hbroken
    obtain ⟨obs, hobs, hdown⟩ := interface_broken_iff.mp hbroken
    refine ⟨obs, hobs, ?_⟩
    rcases readInterfaceObservation_cases hobs with
      ⟨sec, admin, line, -, hadmin, hline, -⟩ | ⟨hnone, row, hrow, hadmin, hline, -⟩
    · rw [InterfaceObservation.isUp, hadmin, hline] at hdown
      rw [hadmin, hline]
      exact stateNotUp_of_both hdown
    · rw [InterfaceObservation.isUp, hadmin, hline] at hdown
      rw [hadmin, hline]
      rcases h hnone row hrow with hup | hstate
      · rw [Record.isUp, hdown] at hup
        cases hup
      · exact hstate

end Interfaces

/-! ### Error counters -/

section Counters

variable {evidence earlier : Evidence} {name : String}

def CountsErrors (sec : Section) (counter : String) : Prop :=
  counter ∈ errorCounterNames ∧ ∃ row ∈ sec.parsedRecords, row.counter = some counter ∧
    (row.value.bind pyInt).isSome = true

def ReportsFlat (result : CheckResult) : Prop :=
  result.status = .healthy ∧
    result.reason = some "line protocol up; error-counter rate flat across two observations"

lemma mem_counters_iff {sec : Section} {counter : String} :
    counter ∈ (sec.parsedRecords.filterMap (fun record => do
        let name ← record.counter
        let value ← record.value.bind pyInt
        if errorCounterNames.contains name then some (name, value) else none)).map Prod.fst ↔
      CountsErrors sec counter := by
  rw [List.mem_map]
  constructor
  · rintro ⟨entry, hentry, rfl⟩
    obtain ⟨row, hrow, hvalue⟩ := List.mem_filterMap.mp hentry
    obtain ⟨counter, hcounter, hvalue⟩ := Option.bind_eq_some_iff.mp hvalue
    obtain ⟨value, hint, hvalue⟩ := Option.bind_eq_some_iff.mp hvalue
    split at hvalue
    · rename_i hknown
      cases hvalue
      refine ⟨List.contains_iff_mem.mp hknown, row, hrow, hcounter, ?_⟩
      rw [hint]
      rfl
    · cases hvalue
  · rintro ⟨hknown, row, hrow, hcounter, hvalue⟩
    obtain ⟨value, hint⟩ := Option.isSome_iff_exists.mp hvalue
    refine ⟨(counter, value), List.mem_filterMap.mpr ⟨row, hrow, ?_⟩, rfl⟩
    rw [hcounter, Option.bind_eq_bind, Option.bind_some, hint]
    exact if_pos (List.contains_iff_mem.mpr hknown)

lemma lookup_isSome_iff {α : Type} {l : List (String × α)} {key : String} :
    (l.lookup key).isSome = true ↔ key ∈ l.map Prod.fst := by
  rw [Option.isSome_iff_ne_none, ne_eq, List.lookup_eq_none_iff]
  simp

lemma lookup_extracted_isSome_iff {sec : Section} {counters : List (String × Int)}
    (h : extractErrorCounters sec = some counters) {counter : String} :
    (counters.lookup counter).isSome = true ↔ CountsErrors sec counter := by
  rw [extractErrorCounters] at h
  split at h
  · cases h
  · cases h
    rw [lookup_isSome_iff, List.map_reverse, List.mem_reverse, mem_counters_iff]

lemma extracted_isSome_iff {sec : Section} :
    (extractErrorCounters sec).isSome = true ↔ ∃ counter, CountsErrors sec counter := by
  rw [extractErrorCounters]
  constructor
  · intro h
    split at h
    · cases h
    · rename_i hne
      obtain ⟨entry, hentry⟩ := List.exists_mem_of_ne_nil _ hne
      exact ⟨entry.1, mem_counters_iff.mp (List.mem_map_of_mem hentry)⟩
  · rintro ⟨counter, hcounter⟩
    obtain ⟨entry, hentry, -⟩ := List.mem_map.mp (mem_counters_iff.mpr hcounter)
    rw [if_neg (List.ne_nil_of_mem hentry)]
    rfl

def rising (now before : List (String × Int)) : List (String × Int × Int) :=
  errorCounterNames.filterMap (fun counter => do
    let was ← before.lookup counter
    let value ← now.lookup counter
    if was < value then some (counter, was, value) else none)

lemma rising_eq_nil_iff {now before : List (String × Int)} :
    rising now before = [] ↔ ∀ counter ∈ errorCounterNames, ∀ was value,
      before.lookup counter = some was → now.lookup counter = some value → value ≤ was := by
  rw [rising, List.filterMap_eq_nil_iff]
  refine forall₂_congr (fun counter _ => ?_)
  cases before.lookup counter with
  | none => simp
  | some was =>
    cases now.lookup counter with
    | none => simp
    | some value => simp

lemma counterDeltaStatus_both (now before : List (String × Int)) :
    counterDeltaStatus (some now) (some before) true =
      if rising now before = [] then (.healthy, "error-counter rate flat across two observations")
      else (.broken, "error-counter rate rising: " ++ String.intercalate "; "
        ((rising now before).map (fun (counter, was, value) =>
          counter ++ " " ++ toString was ++ "->" ++ toString value))) :=
  rfl

lemma counterDeltaStatus_healthy_iff {current previous : Option (List (String × Int))} :
    (counterDeltaStatus current previous true).1 = .healthy ↔
      ∃ now before, current = some now ∧ previous = some before ∧ rising now before = [] := by
  cases current with
  | none => simp [counterDeltaStatus]
  | some now =>
    cases previous with
    | none => simp [counterDeltaStatus]
    | some before =>
      rw [counterDeltaStatus_both]
      by_cases hnone : rising now before = []
      · rw [if_pos hnone]
        exact ⟨fun _ => ⟨now, before, rfl, rfl, hnone⟩, fun _ => rfl⟩
      · rw [if_neg hnone]
        constructor
        · intro h
          cases h
        · rintro ⟨now', before', hnow, hbefore, hflat⟩
          cases hnow
          cases hbefore
          exact absurd hflat hnone

lemma rising_of_counterDeltaStatus_broken {current previous : Option (List (String × Int))}
    (h : (counterDeltaStatus current previous true).1 = .broken) :
    ∃ now before, current = some now ∧ previous = some before ∧ rising now before ≠ [] := by
  cases current with
  | none => simp [counterDeltaStatus] at h
  | some now =>
    cases previous with
    | none => simp [counterDeltaStatus] at h
    | some before =>
      refine ⟨now, before, rfl, rfl, fun hnone => ?_⟩
      rw [counterDeltaStatus_both, if_pos hnone] at h
      cases h

lemma counterDeltaStatus_text {current previous : Option (List (String × Int))}
    (h : (counterDeltaStatus current previous true).1 = .healthy) :
    (counterDeltaStatus current previous true).2 =
      "error-counter rate flat across two observations" := by
  obtain ⟨now, before, rfl, rfl, hnone⟩ := counterDeltaStatus_healthy_iff.mp h
  rw [counterDeltaStatus_both, if_pos hnone]

lemma notEvaluated_ne_flat (detail : String) :
    "line protocol up; error-counter rate not evaluated (" ++ detail ++ ")" ≠
      "line protocol up; error-counter rate flat across two observations" := by
  intro h
  have hletter := congrArg (fun text => text.toList[37]?) h
  rw [String.toList_append, String.toList_append, List.append_assoc,
    List.getElem?_append_left (by decide)] at hletter
  exact absurd hletter (by decide)

lemma reportsFlat_iff :
    ReportsFlat (interfaceState evidence name (some earlier)) ↔
      ∃ obs, readInterfaceObservation evidence name = .ok obs ∧ obs.isUp = true ∧
        (counterDeltaStatus obs.counters ((readInterfaceObservation earlier name).toOption.bind
          InterfaceObservation.counters) true).1 = .healthy := by
  rw [ReportsFlat, interfaceState]
  cases hobs : readInterfaceObservation evidence name with
  | error bail =>
    have hstatus := (readInterfaceObservation_answer evidence name).2 bail hobs
    constructor
    · rintro ⟨hhealthy, -⟩
      dsimp only at hhealthy
      rw [hstatus] at hhealthy
      cases hhealthy
    · rintro ⟨obs, h, -⟩
      cases h
  | ok obs =>
    dsimp only
    cases hup : obs.isUp with
    | false =>
      have hdown : obs.adminState ≠ some "up" ∨ obs.lineState ≠ some "up" := by
        rw [InterfaceObservation.isUp, Bool.and_eq_false_iff, beq_eq_false_iff_ne,
          beq_eq_false_iff_ne] at hup
        exact hup
      rw [if_pos hdown]
      constructor
      · rintro ⟨h, -⟩
        cases h
      · rintro ⟨obs', h, hup', -⟩
        cases h
        rw [hup] at hup'
        cases hup'
    | true =>
      have hboth : ¬(obs.adminState ≠ some "up" ∨ obs.lineState ≠ some "up") := by
        rw [InterfaceObservation.isUp, Bool.and_eq_true, beq_iff_eq, beq_iff_eq] at hup
        rw [hup.1, hup.2]
        simp
      rw [if_neg hboth]
      dsimp only [Option.bind_some, Option.isSome_some]
      have hexists : (∃ obs', (Except.ok obs : Except CheckResult InterfaceObservation) = .ok obs' ∧
          obs'.isUp = true ∧ (counterDeltaStatus obs'.counters
            ((readInterfaceObservation earlier name).toOption.bind
              InterfaceObservation.counters) true).1 = .healthy) ↔
          (counterDeltaStatus obs.counters ((readInterfaceObservation earlier name).toOption.bind
            InterfaceObservation.counters) true).1 = .healthy := by
        constructor
        · rintro ⟨obs', h, -, hhealthy⟩
          cases h
          exact hhealthy
        · exact fun h => ⟨obs, rfl, hup, h⟩
      rw [hexists]
      cases hrate : (counterDeltaStatus obs.counters
          ((readInterfaceObservation earlier name).toOption.bind
            InterfaceObservation.counters) true).1 with
      | broken => simp
      | unevaluated => simp [healthy, notEvaluated_ne_flat]
      | healthy =>
        rw [counterDeltaStatus_text hrate]
        exact ⟨fun _ => rfl, fun _ => ⟨rfl, rfl⟩⟩

/-- Two captures of an interface that is up, each with error counters, have one in common. -/
def SharesCounter (evidence earlier : Evidence) (name : String) : Prop :=
  ∀ sec sec' admin line, Captured evidence name sec "up" "up" →
    Captured earlier name sec' admin line → (∃ counter, CountsErrors sec counter) →
      (∃ counter, CountsErrors sec' counter) →
        ∃ counter, CountsErrors sec counter ∧ CountsErrors sec' counter

def CounterInBoth (evidence earlier : Evidence) (name : String) : Prop :=
  ∃ sec sec' admin line admin' line', Captured evidence name sec admin line ∧
    Captured earlier name sec' admin' line' ∧
      ∃ counter, CountsErrors sec counter ∧ CountsErrors sec' counter

lemma captured_unique {sec sec' : Section} {admin line admin' line' : String}
    (h : Captured evidence name sec admin line) (h' : Captured evidence name sec' admin' line') :
    sec = sec' := by
  have hread := h.1
  rw [h'.1] at hread
  exact (Option.some.inj hread).symm

lemma counters_some_iff {counters : List (String × Int)} :
    ((readInterfaceObservation evidence name).toOption.bind InterfaceObservation.counters) =
        some counters ↔
      ∃ sec admin line, Captured evidence name sec admin line ∧
        extractErrorCounters sec = some counters := by
  constructor
  · intro h
    obtain ⟨obs, hobs, hcounters⟩ := Option.bind_eq_some_iff.mp h
    have hread : readInterfaceObservation evidence name = .ok obs := by
      cases hread : readInterfaceObservation evidence name with
      | error bail =>
        rw [hread] at hobs
        cases hobs
      | ok obs' =>
        rw [hread] at hobs
        cases hobs
        rfl
    rcases readInterfaceObservation_cases hread with
      ⟨sec, admin, line, hcaptured, -, -, heq⟩ | ⟨-, row, -, -, -, heq⟩
    · exact ⟨sec, admin, line, hcaptured, heq ▸ hcounters⟩
    · rw [heq] at hcounters
      cases hcounters
  · rintro ⟨sec, admin, line, hcaptured, hcounters⟩
    rw [readInterfaceObservation_of_captured hcaptured]
    exact hcounters

lemma exists_shared_of_rising {now before : List (String × Int)} (h : rising now before ≠ []) :
    ∃ counter, (now.lookup counter).isSome = true ∧ (before.lookup counter).isSome = true := by
  rw [ne_eq, rising_eq_nil_iff] at h
  push Not at h
  obtain ⟨counter, -, was, value, hwas, hvalue, -⟩ := h
  refine ⟨counter, ?_, ?_⟩
  · rw [hvalue]
    rfl
  · rw [hwas]
    rfl

lemma flat_fromRead_iff :
    (ReportsFlat (interfaceState evidence name (some earlier)) →
        CounterInBoth evidence earlier name) ↔ SharesCounter evidence earlier name := by
  constructor
  · intro h sec sec' admin line hsec hsec' hnow hbefore
    obtain ⟨now, hnow⟩ := Option.isSome_iff_exists.mp (extracted_isSome_iff.mpr hnow)
    obtain ⟨before, hbefore⟩ := Option.isSome_iff_exists.mp (extracted_isSome_iff.mpr hbefore)
    by_cases hrising : rising now before = []
    · have hread := readInterfaceObservation_of_captured hsec
      have hearlier := counters_some_iff.mpr ⟨sec', admin, line, hsec', hbefore⟩
      obtain ⟨one, other, _, _, _, _, hone, hother, counter, hcounter, hcounter'⟩ :=
        h (reportsFlat_iff.mpr ⟨_, hread, rfl,
          counterDeltaStatus_healthy_iff.mpr ⟨now, before, hnow, hearlier, hrising⟩⟩)
      rw [captured_unique hone hsec] at hcounter
      rw [captured_unique hother hsec'] at hcounter'
      exact ⟨counter, hcounter, hcounter'⟩
    · obtain ⟨counter, hin, hin'⟩ := exists_shared_of_rising hrising
      exact ⟨counter, (lookup_extracted_isSome_iff hnow).mp hin,
        (lookup_extracted_isSome_iff hbefore).mp hin'⟩
  · intro h hflat
    obtain ⟨obs, hobs, hup, hhealthy⟩ := reportsFlat_iff.mp hflat
    obtain ⟨now, before, hnow, hbefore, -⟩ := counterDeltaStatus_healthy_iff.mp hhealthy
    obtain ⟨sec', admin', line', hsec', hbefore⟩ := counters_some_iff.mp hbefore
    rcases readInterfaceObservation_cases hobs with
      ⟨sec, admin, line, hsec, hadmin, hline, heq⟩ | ⟨-, row, -, -, -, heq⟩
    · rw [InterfaceObservation.isUp, hadmin, hline, Bool.and_eq_true, beq_iff_eq, beq_iff_eq] at hup
      obtain ⟨hadmin, hline⟩ := hup
      cases hadmin
      cases hline
      rw [heq] at hnow
      have hcounts := extracted_isSome_iff.mp (Option.isSome_iff_exists.mpr ⟨now, hnow⟩)
      have hcounts' := extracted_isSome_iff.mp (Option.isSome_iff_exists.mpr ⟨before, hbefore⟩)
      exact ⟨sec, sec', _, _, _, _, hsec, hsec', h sec sec' _ _ hsec hsec' hcounts hcounts'⟩
    · rw [heq] at hnow
      cases hnow

lemma interface_broken_earlier
    (h : (interfaceState evidence name (some earlier)).status = .broken) :
    (interfaceState evidence name none).status = .broken ∨
      CounterInBoth evidence earlier name := by
  cases hobs : readInterfaceObservation evidence name with
  | error bail =>
    have hstatus := (readInterfaceObservation_answer evidence name).2 bail hobs
    rw [interfaceState, hobs] at h
    dsimp only at h
    rw [hstatus] at h
    cases h
  | ok obs =>
    cases hup : obs.isUp with
    | false => exact .inl (interface_broken_iff.mpr ⟨obs, hobs, hup⟩)
    | true =>
      refine .inr ?_
      have hboth : ¬(obs.adminState ≠ some "up" ∨ obs.lineState ≠ some "up") := by
        rw [InterfaceObservation.isUp, Bool.and_eq_true, beq_iff_eq, beq_iff_eq] at hup
        rw [hup.1, hup.2]
        simp
      rw [interfaceState, hobs] at h
      dsimp only at h
      rw [if_neg hboth] at h
      dsimp only [Option.bind_some, Option.isSome_some] at h
      cases hrate : (counterDeltaStatus obs.counters
          ((readInterfaceObservation earlier name).toOption.bind
            InterfaceObservation.counters) true).1 with
      | healthy =>
        rw [hrate] at h
        cases h
      | unevaluated =>
        rw [hrate] at h
        cases h
      | broken =>
        obtain ⟨now, before, hnow, hbefore, hrising⟩ := rising_of_counterDeltaStatus_broken hrate
        obtain ⟨counter, hin, hin'⟩ := exists_shared_of_rising hrising
        have hread : (readInterfaceObservation evidence name).toOption = some obs := by
          rw [hobs]
          rfl
        rw [← Option.bind_some obs InterfaceObservation.counters, ← hread] at hnow
        obtain ⟨sec, admin, line, hsec, hnow⟩ := counters_some_iff.mp hnow
        obtain ⟨sec', admin', line', hsec', hbefore⟩ := counters_some_iff.mp hbefore
        exact ⟨sec, sec', _, _, _, _, hsec, hsec', counter,
          (lookup_extracted_isSome_iff hnow).mp hin, (lookup_extracted_isSome_iff hbefore).mp hin'⟩

end Counters

section Checks

open NeighborBlocks

variable (evidence earlier : Evidence) (subject : String)

def ReadNotUp : Prop :=
  ∃ obs, readInterfaceObservation evidence subject = .ok obs ∧
    StateNotUp obs.adminState obs.lineState

structure ConcludesFromRead : Prop where
  transport : TransportFromRead evidence subject
  session : (bgpSessionState evidence subject).status = .broken →
    ∀ row, firstRow evidence "bgp" (Record.ofNeighbor subject) = some row →
      row.sessionState.isSome = true
  neighbor : (isisNeighborUp evidence subject).status = .broken →
    ∀ row, firstRow evidence "isis" (Record.onInterface subject) = some row →
      row.state.isSome = true
  neighborFallback : (isisNeighborUp evidence subject).status = .broken →
    NoRow evidence "isis" (Record.onInterface subject) →
      NoRow evidence "lldp" (Record.onLocalInterface subject) →
        ∃ row, firstRow evidence "interfaces" (Record.onInterface subject) = some row ∧
          StateNotUp row.adminState row.lineProtocol
  ldp : (ldpSessionUp evidence subject).status = .broken →
    ∀ row, firstRow evidence "ldp" (Record.discovers subject) = some row → row.state.isSome = true
  ldpFallback : (ldpSessionUp evidence subject).status = .broken →
    NoRow evidence "ldp" (Record.discovers subject) →
      NoRow evidence "ldp_discovery" (Record.onInterface subject) →
        ∀ row, firstRow evidence "interfaces" (Record.onInterface subject) = some row →
          row.isUp = false → StateNotUp row.adminState row.lineProtocol
  interface : (interfaceState evidence subject none).status = .broken → ReadNotUp evidence subject
  interfaceEarlier : (interfaceState evidence subject (some earlier)).status = .broken →
    ReadNotUp evidence subject ∨ CounterInBoth evidence earlier subject
  flat : ReportsFlat (interfaceState evidence subject (some earlier)) →
    CounterInBoth evidence earlier subject

/-- The rows and the captures about the subject carry what the checks look at. -/
structure SubjectTells : Prop where
  transport : TransportTells evidence subject
  session : ∀ row, firstRow evidence "bgp" (Record.ofNeighbor subject) = some row →
    row.sessionState.isSome = true
  neighbor : ∀ row, firstRow evidence "isis" (Record.onInterface subject) = some row →
    row.state.isSome = true
  neighborLink : NoRow evidence "isis" (Record.onInterface subject) →
    NoRow evidence "lldp" (Record.onLocalInterface subject) →
      ∀ row, firstRow evidence "interfaces" (Record.onInterface subject) = some row → row.TellsLink
  ldp : ∀ row, firstRow evidence "ldp" (Record.discovers subject) = some row →
    row.state.isSome = true
  ldpLink : NoRow evidence "ldp" (Record.discovers subject) →
    NoRow evidence "ldp_discovery" (Record.onInterface subject) →
      ∀ row, firstRow evidence "interfaces" (Record.onInterface subject) = some row → row.TellsLink
  interface : NotCaptured evidence subject →
    ∀ row, firstRow evidence "interfaces" (Record.onInterface subject) = some row → row.TellsLink
  counters : SharesCounter evidence earlier subject

variable {evidence earlier subject}

lemma tellsLink_iff {row : Record} :
    row.TellsLink ↔ (row.isUp = false → StateNotUp row.adminState row.lineProtocol) := by
  rw [Record.TellsLink]
  cases row.isUp with
  | true => simp
  | false => simp

lemma session_fromRead_iff :
    ((bgpSessionState evidence subject).status = .broken →
        ∀ row, firstRow evidence "bgp" (Record.ofNeighbor subject) = some row →
          row.sessionState.isSome = true) ↔
      ∀ row, firstRow evidence "bgp" (Record.ofNeighbor subject) = some row →
        row.sessionState.isSome = true := by
  constructor
  · intro h row hrow
    cases hstate : row.sessionState with
    | some state => rfl
    | none =>
      have hbroken := session_broken_iff.mpr ⟨row, hrow, isEstablished_of_none hstate⟩
      have hsome := h hbroken row hrow
      rw [hstate] at hsome
      exact hsome
  · intro h _
    exact h

lemma row_fromRead_iff {row : Option Record} {status : Status} {reading : Record → Bool}
    (hreading : ∀ record, record.state = none → reading record = false)
    (hstatus : ∀ record, row = some record → status = answer (some (reading record))) :
    (status = .broken → ∀ record, row = some record → record.state.isSome = true) ↔
      ∀ record, row = some record → record.state.isSome = true := by
  constructor
  · intro h record hrow
    cases hstate : record.state with
    | some state => rfl
    | none =>
      have hbroken : status = .broken := by
        rw [hstatus record hrow, hreading record hstate]
        rfl
      have hsome := h hbroken record hrow
      rw [hstate] at hsome
      exact hsome
  · intro h _
    exact h

lemma neighbor_fromRead_iff :
    ((isisNeighborUp evidence subject).status = .broken →
        ∀ row, firstRow evidence "isis" (Record.onInterface subject) = some row →
          row.state.isSome = true) ↔
      ∀ row, firstRow evidence "isis" (Record.onInterface subject) = some row →
        row.state.isSome = true := by
  have hreading : ∀ record : Record, record.state = none → record.adjacencyUp = false := by
    intro record hstate
    rw [Record.adjacencyUp, hstate]
    rfl
  exact row_fromRead_iff hreading (fun record hrow => neighbor_status_of_row hrow)

lemma ldp_fromRead_iff :
    ((ldpSessionUp evidence subject).status = .broken →
        ∀ row, firstRow evidence "ldp" (Record.discovers subject) = some row →
          row.state.isSome = true) ↔
      ∀ row, firstRow evidence "ldp" (Record.discovers subject) = some row →
        row.state.isSome = true := by
  have hreading : ∀ record : Record, record.state = none → record.isOper = false := by
    intro record hstate
    rw [Record.isOper, hstate]
    rfl
  exact row_fromRead_iff hreading (fun record hrow => ldp_status_of_row hrow)

lemma neighborFallback_iff :
    ((isisNeighborUp evidence subject).status = .broken →
        NoRow evidence "isis" (Record.onInterface subject) →
          NoRow evidence "lldp" (Record.onLocalInterface subject) →
            ∃ row, firstRow evidence "interfaces" (Record.onInterface subject) = some row ∧
              StateNotUp row.adminState row.lineProtocol) ↔
      (NoRow evidence "isis" (Record.onInterface subject) →
        NoRow evidence "lldp" (Record.onLocalInterface subject) →
          ∀ row, firstRow evidence "interfaces" (Record.onInterface subject) = some row →
            row.TellsLink) := by
  constructor
  · intro h hisis hlldp row hrow
    rw [tellsLink_iff]
    intro hdown
    obtain ⟨row', hrow', hstate⟩ :=
      h ((neighbor_broken_iff_of_silent hisis hlldp).mpr ⟨row, hrow, hdown⟩) hisis hlldp
    rw [hrow] at hrow'
    cases hrow'
    exact hstate
  · intro h hbroken hisis hlldp
    obtain ⟨row, hrow, hdown⟩ := (neighbor_broken_iff_of_silent hisis hlldp).mp hbroken
    exact ⟨row, hrow, tellsLink_iff.mp (h hisis hlldp row hrow) hdown⟩

lemma ldpFallback_iff :
    ((ldpSessionUp evidence subject).status = .broken →
        NoRow evidence "ldp" (Record.discovers subject) →
          NoRow evidence "ldp_discovery" (Record.onInterface subject) →
            ∀ row, firstRow evidence "interfaces" (Record.onInterface subject) = some row →
              row.isUp = false → StateNotUp row.adminState row.lineProtocol) ↔
      (NoRow evidence "ldp" (Record.discovers subject) →
        NoRow evidence "ldp_discovery" (Record.onInterface subject) →
          ∀ row, firstRow evidence "interfaces" (Record.onInterface subject) = some row →
            row.TellsLink) := by
  constructor
  · intro h hldp hdiscovery row hrow
    rw [tellsLink_iff]
    intro hdown
    exact h (ldp_broken_of_silent hldp hdiscovery hrow hdown) hldp hdiscovery row hrow hdown
  · intro h _ hldp hdiscovery row hrow hdown
    exact tellsLink_iff.mp (h hldp hdiscovery row hrow) hdown

/-- The checks conclude from what was read exactly when the rows about their subject carry the
compared state, a block without a socket line gives a state that settles the transport, and two
captures with counters share one. -/
theorem concludesFromRead_iff (evidence earlier : Evidence) (subject : String) :
    (ConcludesFromRead evidence earlier subject ↔ SubjectTells evidence earlier subject) ∧
      ∀ output, evidence.get ("bgp_neighbor:" ++ subject) = some (neighborSection output) →
        (TransportFromRead evidence subject ↔ BlockTells output) := by
  constructor
  · constructor
    · intro h
      exact
        { transport := transportFromRead_iff.mp h.transport
          session := session_fromRead_iff.mp h.session
          neighbor := neighbor_fromRead_iff.mp h.neighbor
          neighborLink := neighborFallback_iff.mp h.neighborFallback
          ldp := ldp_fromRead_iff.mp h.ldp
          ldpLink := ldpFallback_iff.mp h.ldpFallback
          interface := interface_fromRead_iff.mp h.interface
          counters := flat_fromRead_iff.mp h.flat }
    · intro h
      exact
        { transport := transportFromRead_iff.mpr h.transport
          session := session_fromRead_iff.mpr h.session
          neighbor := neighbor_fromRead_iff.mpr h.neighbor
          neighborFallback := neighborFallback_iff.mpr h.neighborLink
          ldp := ldp_fromRead_iff.mpr h.ldp
          ldpFallback := ldpFallback_iff.mpr h.ldpLink
          interface := interface_fromRead_iff.mpr h.interface
          interfaceEarlier := fun hbroken =>
            (interface_broken_earlier hbroken).imp_left (interface_fromRead_iff.mpr h.interface)
          flat := flat_fromRead_iff.mpr h.counters }
  · intro output hsection
    rw [transportFromRead_iff]
    exact transportTells_iff_blockTells hsection

def silentBlock : Evidence :=
  ⟨"PE1", fun key =>
    if key = "bgp_neighbor:10.0.0.1" then some (neighborSection "BGP neighbor is 10.0.0.1")
    else none⟩

/-- The transport is called broken from it. -/
theorem not_concludesFromRead_silentBlock :
    ¬ConcludesFromRead silentBlock silentBlock "10.0.0.1" := by
  have hblock : ¬BlockTells "BGP neighbor is 10.0.0.1" := by
    intro h
    have hnone : ((blockLines "BGP neighbor is 10.0.0.1").filterMap stateOf).getLast? = none := by
      decide +kernel
    obtain ⟨state, hstate, -⟩ := h (by decide +kernel) (by decide +kernel) (by decide +kernel)
    rw [hnone] at hstate
    cases hstate
  intro h
  have htells := transportFromRead_iff.mp h.transport
  exact hblock ((transportTells_iff_blockTells rfl).mp htells)

end Checks

end NetTools
