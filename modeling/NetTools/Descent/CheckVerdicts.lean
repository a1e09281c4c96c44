import NetTools.Descent.Checks

/-!
# What the checks decide

The status of every check as a function of the parsed sections it reads. The texts and the
citations of a verdict play no part in it.
-/

namespace NetTools

def Evidence.read (evidence : Evidence) (key : String) : Option Section :=
  (evidence.get key).filter (fun sec => sec.parseStatus == some PARSE_OK)

lemma read_cases (evidence : Evidence) (key : String) (subject : Option String) :
    (∃ sec, evidence.read key = some sec ∧ requireParsed evidence key subject = .ok sec) ∨
      ∃ bail, evidence.read key = none ∧ requireParsed evidence key subject = .error bail ∧
        bail.status = .unevaluated := by
  cases hreq : requireParsed evidence key subject with
  | ok sec =>
    obtain ⟨hget, hok⟩ := requireParsed_eq_ok_iff.mp hreq
    exact Or.inl ⟨sec, by simp [Evidence.read, hget, hok], rfl⟩
  | error bail =>
    refine Or.inr ⟨bail, ?_, rfl, requireParsed_error_status hreq⟩
    cases hread : evidence.read key with
    | none => rfl
    | some sec =>
      rw [Evidence.read, Option.filter_eq_some_iff, beq_iff_eq] at hread
      rw [requireParsed_eq_ok_iff.mpr hread] at hreq
      cases hreq

def answer : Option Bool → Status
  | none => .unevaluated
  | some true => .healthy
  | some false => .broken

lemma answer_eq_unevaluated_iff {reply : Option Bool} :
    answer reply = .unevaluated ↔ reply = none := by
  rcases reply with _ | _ | _ <;> simp [answer]

lemma answer_eq_healthy_iff {reply : Option Bool} :
    answer reply = .healthy ↔ reply = some true := by
  rcases reply with _ | _ | _ <;> simp [answer]

lemma answer_eq_broken_iff {reply : Option Bool} :
    answer reply = .broken ↔ reply = some false := by
  rcases reply with _ | _ | _ <;> simp [answer]

lemma answer_beq {α : Type} [BEq α] [LawfulBEq α] [DecidableEq α] (left right : α) :
    answer (some (left == right)) = if left = right then .healthy else .broken := by
  by_cases h : left = right
  · rw [if_pos h, beq_iff_eq.mpr h]
    rfl
  · rw [if_neg h, beq_eq_false_iff_ne.mpr h]
    rfl

def firstAnswer (matching reading : Record → Bool) (sec : Section) : Option Bool :=
  (sec.parsedRecords.find? matching).map reading

def Record.ofNeighbor (peer : String) (record : Record) : Bool := record.neighbor == some peer

def Record.isEstablished (record : Record) : Bool :=
  record.sessionState.getD "" == "Established"

def Record.adjacencyUp (record : Record) : Bool := record.state == some "Up"

def Record.isOper (record : Record) : Bool := record.state == some "Oper"

def sessionVerdict (bgp : Option Section) (peer : String) : Status :=
  answer (bgp.bind (firstAnswer (Record.ofNeighbor peer) Record.isEstablished))

theorem bgpSessionState_status (evidence : Evidence) (peer : String) :
    (bgpSessionState evidence peer).status = sessionVerdict (evidence.read "bgp") peer := by
  unfold bgpSessionState sessionVerdict
  rcases read_cases evidence "bgp" (some peer) with ⟨sec, hread, hreq⟩ | ⟨bail, hread, hreq, hs⟩
  · rw [hreq, hread, Option.bind_some, firstAnswer]
    change _ = answer ((sec.parsedRecords.find? (fun record => record.neighbor == some peer)).map _)
    dsimp only
    cases sec.parsedRecords.find? (fun record => record.neighbor == some peer) with
    | none => rfl
    | some record =>
      dsimp only [Option.map_some, Record.isEstablished]
      rw [answer_beq]
      by_cases h : record.sessionState.getD "" = "Established"
      · rw [if_pos h, if_pos h, healthy_status]
      · rw [if_neg h, if_neg h, broken_status]
  · rw [hreq, hread]
    exact hs

def transportAnswer (fields : Meta) : Option Bool :=
  if !fields.found then none
  else match fields.socketArmedRead with
    | some true =>
      if ((orNone fields.connectionState).or fields.state).any
          (fun state => tcpUpStates.contains state) then some true
      else none
    | some false => some false
    | none => some (fields.connectionState == some "Established")

def transportVerdict (neighbor : Option Section) : Status :=
  answer (neighbor.bind (fun sec => transportAnswer sec.parsedMeta))

theorem bgpTransport_status (evidence : Evidence) (peer : String) :
    (bgpTransport evidence peer).status =
      transportVerdict (evidence.read ("bgp_neighbor:" ++ peer)) := by
  unfold bgpTransport transportVerdict
  rcases read_cases evidence ("bgp_neighbor:" ++ peer) (some peer) with
    ⟨sec, hread, hreq⟩ | ⟨bail, hread, hreq, hs⟩
  · rw [hread, Option.bind_some, transportAnswer]
    dsimp only
    rw [hreq]
    dsimp only
    by_cases hfound : sec.parsedMeta.found = true
    · rw [hfound]
      rcases harmed : sec.parsedMeta.socketArmedRead with _ | _ | _
      · change _ = answer (some (sec.parsedMeta.connectionState == some "Established"))
        rw [answer_beq]
        by_cases h : sec.parsedMeta.connectionState = some "Established"
        · simp [h]
        · simp [h]
      · simp [answer]
      · by_cases h : ((orNone sec.parsedMeta.connectionState).or sec.parsedMeta.state).any
            (fun state => tcpUpStates.contains state) = true
        · simp only [h]
          rfl
        · simp only [Bool.not_eq_true] at h
          simp only [h]
          rfl
    · rw [Bool.not_eq_true] at hfound
      rw [hfound]
      rfl
  · dsimp only
    rw [hreq, hread]
    exact hs

def routeVerdict (route : Option Section) : Status :=
  answer (route.map (fun sec => sec.parsedMeta.found))

theorem routePresent_status (evidence : Evidence) (route : String) :
    (routePresent evidence route).status = routeVerdict (evidence.read ("route:" ++ route)) := by
  unfold routePresent routeVerdict
  rcases read_cases evidence ("route:" ++ route) (some route) with
    ⟨sec, hread, hreq⟩ | ⟨bail, hread, hreq, hs⟩
  · rw [hread]
    dsimp only
    rw [hreq]
    dsimp only [Option.map_some]
    cases sec.parsedMeta.found <;> rfl
  · dsimp only
    rw [hreq, hread]
    exact hs

def adjacencyVerdict (isis : Option Section) : Status :=
  answer (isis.map (fun sec =>
    !sec.parsedRecords.isEmpty && sec.parsedRecords.all Record.adjacencyUp))

theorem isisAdjacency_status (evidence : Evidence) :
    (isisAdjacency evidence none).status = adjacencyVerdict (evidence.read "isis") := by
  unfold isisAdjacency adjacencyVerdict
  rcases read_cases evidence "isis" none with ⟨sec, hread, hreq⟩ | ⟨bail, hread, hreq, hs⟩
  · rw [hread, hreq]
    dsimp only [Option.map_some]
    by_cases hnil : sec.parsedRecords = []
    · simp [hnil, answer]
    · rw [if_neg hnil]
      have hne : sec.parsedRecords.isEmpty = false := by simpa using hnil
      have hup : sec.parsedRecords.filter (fun record => record.state != some "Up") = [] ↔
          sec.parsedRecords.all Record.adjacencyUp = true := by
        simp [Record.adjacencyUp]
      by_cases hall : sec.parsedRecords.all Record.adjacencyUp = true
      · rw [if_pos (hup.mpr hall), hne, hall]
        rfl
      · rw [if_neg (fun h => hall (hup.mp h)), hne, Bool.eq_false_iff.mpr hall]
        rfl
  · rw [hreq, hread]
    exact hs

def explainedByInterface (name : String) (interfaces : Section) : Bool :=
  firstAnswer (Record.onInterface name) Record.isUp interfaces == some false

lemma explainedByInterface_eq (name : String) (interfaces : Section) :
    explainedByInterface name interfaces =
      ((interfaces.parsedRecords.find? (Record.onInterface name)).filter
        (fun record => !record.isUp)).isSome := by
  unfold explainedByInterface firstAnswer
  cases interfaces.parsedRecords.find? (Record.onInterface name) with
  | none => simp
  | some record => cases h : record.isUp <;> simp [h, Option.filter]

def neighborVerdict (isis lldp interfaces : Option Section) (name : String) : Status :=
  match isis with
  | none => .unevaluated
  | some isis =>
    match firstAnswer (Record.onInterface name) Record.adjacencyUp isis with
    | some up => answer (some up)
    | none =>
      match lldp with
      | none => .unevaluated
      | some lldp =>
        if lldp.parsedRecords.any (Record.onLocalInterface name) then .broken
        else if interfaces.any (explainedByInterface name) then .broken
        else .unevaluated

theorem isisNeighborUp_status (evidence : Evidence) (name : String) :
    (isisNeighborUp evidence name).status =
      neighborVerdict (evidence.read "isis") (evidence.read "lldp") (evidence.read "interfaces")
        name := by
  unfold isisNeighborUp neighborVerdict
  rcases read_cases evidence "isis" (some name) with ⟨isis, hread, hreq⟩ | ⟨bail, hread, hreq, hs⟩
  swap
  · rw [hreq, hread]
    exact hs
  rw [hreq, hread]
  dsimp only
  rw [firstAnswer]
  cases isis.parsedRecords.find? (Record.onInterface name) with
  | some record =>
    dsimp only [Option.map_some, Record.adjacencyUp]
    rw [answer_beq]
    by_cases h : record.state = some "Up"
    · rw [if_pos h, if_pos h, healthy_status]
    · rw [if_neg h, if_neg h, broken_status]
  | none =>
    dsimp only [Option.map_none]
    rcases read_cases evidence "lldp" (some name) with
      ⟨lldp, hread, hreq⟩ | ⟨bail, hread, hreq, hs⟩
    swap
    · rw [hreq, hread]
      rfl
    rw [hreq, hread]
    dsimp only
    rw [← List.isSome_find?]
    cases lldp.parsedRecords.find? (Record.onLocalInterface name) with
    | some record => rfl
    | none =>
      rw [Option.isSome_none, if_neg Bool.false_ne_true]
      rcases read_cases evidence "interfaces" (some name) with
        ⟨interfaces, hread, hreq⟩ | ⟨bail, hread, hreq, hs⟩
      swap
      · rw [hreq, hread]
        rfl
      rw [hreq, hread]
      rw [Option.any_some, explainedByInterface_eq]
      dsimp only
      cases (interfaces.parsedRecords.find? (Record.onInterface name)).filter
          (fun record => !record.isUp) with
      | some record => rfl
      | none => rfl

def expectedVerdict (config intent : Option Section) (name : String) : Status :=
  match config with
  | none => .unevaluated
  | some config =>
    if config.parsedRecords.any (Record.onInterface name) then .broken
    else if intent.any (fun sec => sec.parsedRecords.any (Record.onInterface name)) then .broken
    else .unevaluated

def ldpVerdict (ldp discovery interfaces config intent : Option Section) (name : String) :
    Status :=
  match ldp with
  | none => .unevaluated
  | some ldp =>
    match firstAnswer (Record.discovers name) Record.isOper ldp with
    | some oper => answer (some oper)
    | none =>
      match discovery with
      | none => .unevaluated
      | some discovery =>
        if discovery.parsedRecords.any (Record.onInterface name) then .broken
        else match interfaces with
          | none => .unevaluated
          | some interfaces =>
            if explainedByInterface name interfaces then .broken
            else expectedVerdict config intent name

theorem ldpSessionUp_status (evidence : Evidence) (name : String) :
    (ldpSessionUp evidence name).status =
      ldpVerdict (evidence.read "ldp") (evidence.read "ldp_discovery")
        (evidence.read "interfaces") (evidence.read "config_ldp") (evidence.read "ldp_intent")
        name := by
  unfold ldpSessionUp ldpVerdict
  dsimp only
  rcases read_cases evidence "ldp" (some name) with ⟨ldp, hread, hreq⟩ | ⟨bail, hread, hreq, hs⟩
  swap
  · rw [hreq, hread]
    exact hs
  rw [hreq, hread]
  dsimp only
  rw [firstAnswer]
  cases ldp.parsedRecords.find? (Record.discovers name) with
  | some record =>
    dsimp only [Option.map_some, Record.isOper]
    rw [answer_beq]
    by_cases h : record.state = some "Oper"
    · rw [if_pos h, if_pos h, healthy_status]
    · rw [if_neg h, if_neg h, broken_status]
  | none =>
    dsimp only [Option.map_none]
    rcases read_cases evidence "ldp_discovery" (some name) with
      ⟨discovery, hread, hreq⟩ | ⟨bail, hread, hreq, hs⟩
    swap
    · rw [hreq, hread]
      rfl
    rw [hreq, hread]
    dsimp only
    rw [← List.isSome_find?]
    cases discovery.parsedRecords.find? (Record.onInterface name) with
    | some record =>
      rw [Option.isSome_some, if_pos rfl]
      dsimp only
      cases orNone record.peerId <;> rfl
    | none =>
      rw [Option.isSome_none, if_neg Bool.false_ne_true]
      rcases read_cases evidence "interfaces" (some name) with
        ⟨interfaces, hread, hreq⟩ | ⟨bail, hread, hreq, hs⟩
      swap
      · rw [hreq, hread]
        rfl
      rw [hreq, hread]
      dsimp only
      rw [explainedByInterface_eq]
      cases (interfaces.parsedRecords.find? (Record.onInterface name)).filter
          (fun record => !record.isUp) with
      | some record => rfl
      | none =>
        rw [Option.isSome_none, if_neg Bool.false_ne_true]
        unfold expectedVerdict
        rcases read_cases evidence "config_ldp" (some name) with
          ⟨config, hread, hreq⟩ | ⟨bail, hread, hreq, hs⟩
        swap
        · rw [hreq, hread]
          rfl
        rw [hreq, hread]
        dsimp only
        by_cases hconfig : config.parsedRecords.any (Record.onInterface name) = true
        · rw [if_pos hconfig, if_pos hconfig]
          rfl
        · rw [if_neg hconfig, if_neg hconfig]
          rcases read_cases evidence "ldp_intent" (some name) with
            ⟨intent, hread, hreq⟩ | ⟨bail, hread, hreq, hs⟩
          swap
          · rw [hreq, hread]
            rfl
          rw [hreq, hread]
          dsimp only [Option.any_some]
          by_cases hintent : intent.parsedRecords.any (Record.onInterface name) = true
          · rw [if_pos hintent, if_pos hintent]
            rfl
          · rw [if_neg hintent, if_neg hintent]
            rfl

def captureAnswer (capture : Section) : Option Bool :=
  match capture.parsedMeta.adminState, capture.parsedMeta.lineState with
  | some admin, some line => some (admin == "up" && line == "up")
  | _, _ => none

def interfaceVerdict (capture bulk : Option Section) (name : String) : Status :=
  answer ((capture.bind captureAnswer).or
    (bulk.bind (firstAnswer (Record.onInterface name) Record.isUp)))

def InterfaceObservation.isUp (obs : InterfaceObservation) : Bool :=
  obs.adminState == some "up" && obs.lineState == some "up"

lemma readBulkObservation_answer (evidence : Evidence) (name : String)
    (templateBail : Option CheckResult) :
    ((readBulkObservation evidence name templateBail).toOption.map InterfaceObservation.isUp =
      (evidence.read "interfaces").bind (firstAnswer (Record.onInterface name) Record.isUp)) ∧
      ∀ bail, readBulkObservation evidence name templateBail = .error bail →
        bail.status = .unevaluated := by
  unfold readBulkObservation
  rcases read_cases evidence "interfaces" (some name) with
    ⟨bulk, hread, hreq⟩ | ⟨bail, hread, hreq, hs⟩
  · rw [hreq, hread, Option.bind_some, firstAnswer]
    dsimp only
    cases bulk.parsedRecords.find? (Record.onInterface name) with
    | none =>
      refine ⟨rfl, ?_⟩
      intro bail h
      cases h
      rfl
    | some record =>
      refine ⟨rfl, ?_⟩
      intro bail h
      cases h
  · rw [hreq, hread]
    refine ⟨rfl, ?_⟩
    intro bail h
    cases h
    rfl

lemma readInterfaceObservation_answer (evidence : Evidence) (name : String) :
    ((readInterfaceObservation evidence name).toOption.map InterfaceObservation.isUp =
      ((evidence.read ("interface:" ++ name)).bind captureAnswer).or
        ((evidence.read "interfaces").bind
          (firstAnswer (Record.onInterface name) Record.isUp))) ∧
      ∀ bail, readInterfaceObservation evidence name = .error bail →
        bail.status = .unevaluated := by
  unfold readInterfaceObservation
  dsimp only
  rcases read_cases evidence ("interface:" ++ name) (some name) with
    ⟨capture, hread, hreq⟩ | ⟨bail, hread, hreq, hs⟩
  · rw [hreq, hread, Option.bind_some, captureAnswer]
    dsimp only
    cases capture.parsedMeta.adminState with
    | none => exact readBulkObservation_answer evidence name none
    | some admin =>
      cases capture.parsedMeta.lineState with
      | none => exact readBulkObservation_answer evidence name none
      | some line =>
        refine ⟨by simp [Except.toOption, InterfaceObservation.isUp], ?_⟩
        intro bail h
        cases h
  · rw [hreq, hread]
    exact readBulkObservation_answer evidence name (some bail)

theorem interfaceCheck_status (evidence : Evidence) (name : String) :
    (interfaceState evidence name none).status =
      interfaceVerdict (evidence.read ("interface:" ++ name)) (evidence.read "interfaces")
        name := by
  obtain ⟨hanswer, hbail⟩ := readInterfaceObservation_answer evidence name
  unfold interfaceState interfaceVerdict
  rw [← hanswer]
  cases hobs : readInterfaceObservation evidence name with
  | error bail => exact hbail bail hobs
  | ok obs =>
    dsimp only [Except.toOption, Option.map_some]
    by_cases hup : obs.isUp = true
    · have hstates := hup
      unfold InterfaceObservation.isUp at hstates
      rw [Bool.and_eq_true, beq_iff_eq, beq_iff_eq] at hstates
      rw [if_neg (by simp [hstates]), hup]
      rfl
    · have hstates : obs.adminState ≠ some "up" ∨ obs.lineState ≠ some "up" := by
        by_contra hboth
        push Not at hboth
        exact hup (by simp [InterfaceObservation.isUp, hboth])
      rw [if_pos hstates, Bool.eq_false_iff.mpr hup]
      rfl

end NetTools
