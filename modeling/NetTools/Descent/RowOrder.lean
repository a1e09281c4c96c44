import Mathlib.Computability.Primrec.List
import NetTools.Descent.ReverseRoute

/-!
# The order of the rows

A check about one object reads the first row that denotes it. What each check can say of its object
over all the orders of the rows, and what a path rung can say of the members of a device.
-/

namespace NetTools

open ListSearch Verdicts

section Rows

structure Section.Reordered (sec sec' : Section) : Prop where
  parseStatus : sec.parseStatus = sec'.parseStatus
  fields : sec.parsedMeta = sec'.parsedMeta
  rows : sec.parsedRecords.Perm sec'.parsedRecords

/-- The same evidence with the rows of its sections in another order. -/
def Evidence.Reordered (evidence evidence' : Evidence) : Prop :=
  ∀ key, Option.Rel Section.Reordered (evidence.get key) (evidence'.get key)

variable {evidence evidence' : Evidence}

lemma Evidence.Reordered.refl (evidence : Evidence) : evidence.Reordered evidence := by
  intro key
  cases evidence.get key with
  | none => exact Option.Rel.none
  | some sec => exact Option.Rel.some ⟨rfl, rfl, List.Perm.refl _⟩

lemma rowsUnder_perm (h : evidence.Reordered evidence') (key : String) :
    (rowsUnder evidence key).Perm (rowsUnder evidence' key) := by
  have hkey := h key
  unfold rowsUnder
  cases hget : evidence.get key with
  | none =>
    rw [hget] at hkey
    cases hget' : evidence'.get key with
    | none => exact List.Perm.refl _
    | some sec' =>
      rw [hget'] at hkey
      cases hkey
  | some sec =>
    rw [hget] at hkey
    cases hget' : evidence'.get key with
    | none =>
      rw [hget'] at hkey
      cases hkey
    | some sec' =>
      rw [hget'] at hkey
      cases hkey with
      | some hsec => exact hsec.rows

lemma read_reordered (h : evidence.Reordered evidence') (key : String) :
    (evidence.read key = none ∧ evidence'.read key = none) ∨
      ∃ sec sec', evidence.read key = some sec ∧ evidence'.read key = some sec' ∧
        sec.Reordered sec' ∧ rowsUnder evidence key = sec.parsedRecords ∧
        rowsUnder evidence' key = sec'.parsedRecords := by
  have hkey := h key
  unfold Evidence.read rowsUnder
  cases hget : evidence.get key with
  | none =>
    rw [hget] at hkey
    cases hget' : evidence'.get key with
    | none => exact Or.inl ⟨rfl, rfl⟩
    | some sec' =>
      rw [hget'] at hkey
      cases hkey
  | some sec =>
    rw [hget] at hkey
    cases hget' : evidence'.get key with
    | none =>
      rw [hget'] at hkey
      cases hkey
    | some sec' =>
      rw [hget'] at hkey
      cases hkey with
      | some hsec =>
        by_cases hok : sec.parseStatus = some PARSE_OK
        · have hok' : sec'.parseStatus = some PARSE_OK := by rw [← hsec.parseStatus, hok]
          exact Or.inr ⟨sec, sec', by simp [Option.filter, hok], by simp [Option.filter, hok'],
            hsec, rfl, rfl⟩
        · have hok' : sec'.parseStatus ≠ some PARSE_OK := by rwa [← hsec.parseStatus]
          exact Or.inl ⟨by simp [Option.filter, hok], by simp [Option.filter, hok']⟩

/-- The rows that `q` prefers stand in front. -/
def Section.preferring (q : Record → Bool) (sec : Section) : Section :=
  { sec with parsed := sec.parsed.map (fun parsed =>
      { parsed with records := inFront q parsed.records }) }

lemma Section.parsedRecords_preferring (q : Record → Bool) (sec : Section) :
    (sec.preferring q).parsedRecords = inFront q sec.parsedRecords := by
  rw [Section.parsedRecords, Section.parsedRecords, Section.preferring]
  cases sec.parsed <;> rfl

lemma Section.preferring_reordered (q : Record → Bool) (sec : Section) :
    sec.Reordered (sec.preferring q) := by
  refine ⟨rfl, ?_, ?_⟩
  · rw [Section.parsedMeta, Section.parsedMeta, Section.preferring]
    cases sec.parsed <;> rfl
  · rw [Section.parsedRecords_preferring]
    exact (inFront_perm _ _).symm

def Evidence.preferring (q : String → Record → Bool) (evidence : Evidence) : Evidence :=
  { evidence with get := fun key => (evidence.get key).map (Section.preferring (q key)) }

lemma get_preferring (q : String → Record → Bool) (evidence : Evidence) (key : String) :
    (evidence.preferring q).get key = (evidence.get key).map (Section.preferring (q key)) := rfl

lemma rowsUnder_preferring (q : String → Record → Bool) (evidence : Evidence) (key : String) :
    rowsUnder (evidence.preferring q) key = inFront (q key) (rowsUnder evidence key) := by
  rw [rowsUnder, rowsUnder, get_preferring]
  cases evidence.get key with
  | none => rfl
  | some sec => exact sec.parsedRecords_preferring (q key)

lemma preferring_reordered (q : String → Record → Bool) (evidence : Evidence) :
    evidence.Reordered (evidence.preferring q) := by
  intro key
  rw [get_preferring]
  cases evidence.get key with
  | none => exact Option.Rel.none
  | some sec => exact Option.Rel.some (sec.preferring_reordered (q key))

/-- Another order of the rows in which the first matching row of each table gives the best
`reading` that any matching row gives. -/
structure Favours (q : Status → Bool) (reading : String → Record → Status)
    (evidence evidence' : Evidence) : Prop where
  reordered : evidence.Reordered evidence'
  first : ∀ (key : String) (matching : Record → Bool) (otherwise : Status),
    Best q (readings matching (reading key) otherwise (rowsUnder evidence key))
      (firstReading matching (reading key) otherwise (rowsUnder evidence' key))

lemma Evidence.Reordered.favours (h : evidence.Reordered evidence')
    (reading : String → Record → Status) : Favours (fun _ => true) reading evidence evidence' :=
  ⟨h, fun key _ _ => ⟨firstReading_mem_readings (rowsUnder_perm h key), .inl rfl⟩⟩

lemma favours_preferring (q : Status → Bool) (reading : String → Record → Status)
    (evidence : Evidence) :
    Favours q reading evidence
      (evidence.preferring (fun key row => q (reading key row))) := by
  have h := preferring_reordered (fun key row => q (reading key row)) evidence
  refine ⟨h, fun key matching otherwise => ⟨firstReading_mem_readings (rowsUnder_perm h key), ?_⟩⟩
  rw [rowsUnder_preferring]
  exact firstReading_inFront q

end Rows

/-! ### What each check can say -/

section Slots

variable {q : Status → Bool} {evidence evidence' : Evidence}

lemma best_singleton (status : Status) : Best q [status] status := by
  refine ⟨List.mem_cons_self, ?_⟩
  cases hq : q status with
  | true => exact .inl rfl
  | false => exact .inr (List.forall_mem_singleton.mpr hq)

lemma best_of_eq {status status' : Status} (h : status = status') : Best q [status] status' := by
  rw [h]
  exact best_singleton status'

lemma answer_firstAnswer (matching reading : Record → Bool) (sec : Section) :
    answer (firstAnswer matching reading sec) =
      firstReading matching (fun row => answer (some (reading row))) .unevaluated
        sec.parsedRecords := by
  rw [firstAnswer, firstReading]
  cases sec.parsedRecords.find? matching <;> rfl

def sessionSlot (evidence : Evidence) (peer : String) : List Status :=
  match evidence.read "bgp" with
  | none => [.unevaluated]
  | some bgp =>
    readings (Record.ofNeighbor peer) (fun row => answer (some row.isEstablished)) .unevaluated
      bgp.parsedRecords

lemma best_session (h : Favours q (fun _ row => answer (some row.isEstablished)) evidence evidence')
    (peer : String) : Best q (sessionSlot evidence peer) (bgpSessionState evidence' peer).status := by
  rw [bgpSessionState_status, sessionSlot]
  rcases read_reordered h.reordered "bgp" with ⟨hr, hr'⟩ | ⟨sec, sec', hr, hr', -, hrows, hrows'⟩
  · rw [hr, hr']
    exact best_singleton _
  · rw [hr, hr', sessionVerdict, Option.bind_some, answer_firstAnswer]
    dsimp only
    rw [← hrows, ← hrows']
    exact h.first "bgp" _ _

def explanation (otherwise : Status) (row : Record) : Status :=
  if row.isUp then otherwise else .broken

lemma explained_eq (name : String) (otherwise : Status) (bulk : Section) :
    (if explainedByInterface name bulk then .broken else otherwise) =
      firstReading (Record.onInterface name) (explanation otherwise) otherwise
        bulk.parsedRecords := by
  rw [explainedByInterface, firstAnswer, firstReading]
  cases bulk.parsedRecords.find? (Record.onInterface name) with
  | none => rfl
  | some row =>
    rw [Option.map_some, Option.map_some, Option.getD_some, explanation]
    cases row.isUp <;> rfl

lemma any_reordered {sec sec' : Section} (h : sec.Reordered sec') (p : Record → Bool) :
    sec.parsedRecords.any p = sec'.parsedRecords.any p := h.rows.any_eq

lemma firstAnswer_eq_none_iff {matching reading : Record → Bool} {sec : Section} :
    firstAnswer matching reading sec = none ↔ sec.parsedRecords.any matching = false := by
  rw [firstAnswer, Option.map_eq_none_iff, List.find?_eq_none, List.any_eq_false]

def neighborSlot (evidence : Evidence) (name : String) : List Status :=
  match evidence.read "isis" with
  | none => [.unevaluated]
  | some isis =>
    if isis.parsedRecords.any (Record.onInterface name) then
      readings (Record.onInterface name) (fun row => answer (some row.adjacencyUp)) .unevaluated
        isis.parsedRecords
    else match evidence.read "lldp" with
      | none => [.unevaluated]
      | some lldp =>
        if lldp.parsedRecords.any (Record.onLocalInterface name) then [.broken]
        else match evidence.read "interfaces" with
          | none => [.unevaluated]
          | some bulk =>
            readings (Record.onInterface name) (explanation .unevaluated) .unevaluated
              bulk.parsedRecords

def neighborReading (key : String) (row : Record) : Status :=
  if key = "isis" then answer (some row.adjacencyUp) else explanation .unevaluated row

lemma best_neighbor (h : Favours q neighborReading evidence evidence') (name : String) :
    Best q (neighborSlot evidence name) (isisNeighborUp evidence' name).status := by
  rw [isisNeighborUp_status]
  unfold neighborSlot neighborVerdict
  rcases read_reordered h.reordered "isis" with
    ⟨hr, hr'⟩ | ⟨isis, isis', hr, hr', hisis, hrows, hrows'⟩
  · rw [hr, hr']
    exact best_singleton _
  rw [hr, hr']
  dsimp only
  have hany := any_reordered hisis (Record.onInterface name)
  cases hfirst : firstAnswer (Record.onInterface name) Record.adjacencyUp isis' with
  | some up =>
    dsimp only
    rw [if_pos, ← hfirst, answer_firstAnswer, ← hrows, ← hrows']
    · exact h.first "isis" _ _
    · rw [hany]
      by_contra hnone
      rw [firstAnswer_eq_none_iff.mpr (Bool.eq_false_iff.mpr hnone)] at hfirst
      cases hfirst
  | none =>
    rw [if_neg (Bool.eq_false_iff.mp (hany.trans (firstAnswer_eq_none_iff.mp hfirst)))]
    dsimp only
    rcases read_reordered h.reordered "lldp" with ⟨hr, hr'⟩ | ⟨lldp, lldp', hr, hr', hlldp, -, -⟩
    · rw [hr, hr']
      exact best_singleton _
    rw [hr, hr']
    dsimp only
    rw [any_reordered hlldp]
    split
    · exact best_singleton _
    rcases read_reordered h.reordered "interfaces" with
      ⟨hr, hr'⟩ | ⟨bulk, bulk', hr, hr', -, hrows, hrows'⟩
    · rw [hr, hr']
      exact best_singleton _
    rw [hr, hr', Option.any_some]
    dsimp only
    rw [explained_eq, ← hrows, ← hrows']
    exact h.first "interfaces" _ _

lemma expectedVerdict_reordered (h : evidence.Reordered evidence') (name : String) :
    expectedVerdict (evidence.read "config_ldp") (evidence.read "ldp_intent") name =
      expectedVerdict (evidence'.read "config_ldp") (evidence'.read "ldp_intent") name := by
  unfold expectedVerdict
  rcases read_reordered h "config_ldp" with ⟨hr, hr'⟩ | ⟨config, config', hr, hr', hconfig, -, -⟩
  · rw [hr, hr']
  rw [hr, hr']
  dsimp only
  rw [any_reordered hconfig]
  rcases read_reordered h "ldp_intent" with ⟨hr, hr'⟩ | ⟨intent, intent', hr, hr', hintent, -, -⟩
  · rw [hr, hr']
  rw [hr, hr', Option.any_some, Option.any_some, any_reordered hintent]

def expectedLdp (evidence : Evidence) (name : String) : Status :=
  expectedVerdict (evidence.read "config_ldp") (evidence.read "ldp_intent") name

def ldpSlot (evidence : Evidence) (name : String) : List Status :=
  match evidence.read "ldp" with
  | none => [.unevaluated]
  | some ldp =>
    if ldp.parsedRecords.any (Record.discovers name) then
      readings (Record.discovers name) (fun row => answer (some row.isOper)) .unevaluated
        ldp.parsedRecords
    else match evidence.read "ldp_discovery" with
      | none => [.unevaluated]
      | some discovery =>
        if discovery.parsedRecords.any (Record.onInterface name) then [.broken]
        else match evidence.read "interfaces" with
          | none => [.unevaluated]
          | some bulk =>
            readings (Record.onInterface name) (explanation (expectedLdp evidence name))
              (expectedLdp evidence name) bulk.parsedRecords

def ldpReading (expected : Status) (key : String) (row : Record) : Status :=
  if key = "ldp" then answer (some row.isOper) else explanation expected row

lemma best_ldp {name : String}
    (h : Favours q (ldpReading (expectedLdp evidence name)) evidence evidence') :
    Best q (ldpSlot evidence name) (ldpSessionUp evidence' name).status := by
  rw [ldpSessionUp_status]
  unfold ldpSlot ldpVerdict
  rcases read_reordered h.reordered "ldp" with
    ⟨hr, hr'⟩ | ⟨ldp, ldp', hr, hr', hldp, hrows, hrows'⟩
  · rw [hr, hr']
    exact best_singleton _
  rw [hr, hr']
  dsimp only
  have hany := any_reordered hldp (Record.discovers name)
  cases hfirst : firstAnswer (Record.discovers name) Record.isOper ldp' with
  | some oper =>
    dsimp only
    rw [if_pos, ← hfirst, answer_firstAnswer, ← hrows, ← hrows']
    · exact h.first "ldp" _ _
    · rw [hany]
      by_contra hnone
      rw [firstAnswer_eq_none_iff.mpr (Bool.eq_false_iff.mpr hnone)] at hfirst
      cases hfirst
  | none =>
    rw [if_neg (Bool.eq_false_iff.mp (hany.trans (firstAnswer_eq_none_iff.mp hfirst)))]
    dsimp only
    rcases read_reordered h.reordered "ldp_discovery" with
      ⟨hr, hr'⟩ | ⟨discovery, discovery', hr, hr', hdiscovery, -, -⟩
    · rw [hr, hr']
      exact best_singleton _
    rw [hr, hr']
    dsimp only
    rw [any_reordered hdiscovery]
    split
    · exact best_singleton _
    rcases read_reordered h.reordered "interfaces" with
      ⟨hr, hr'⟩ | ⟨bulk, bulk', hr, hr', -, hrows, hrows'⟩
    · rw [hr, hr']
      exact best_singleton _
    rw [hr, hr']
    dsimp only
    rw [← expectedVerdict_reordered h.reordered name, ← expectedLdp, explained_eq, ← hrows,
      ← hrows']
    exact h.first "interfaces" _ _

lemma capture_reordered (h : evidence.Reordered evidence') (name : String) :
    (evidence.read ("interface:" ++ name)).bind captureAnswer =
      (evidence'.read ("interface:" ++ name)).bind captureAnswer := by
  rcases read_reordered h ("interface:" ++ name) with
    ⟨hr, hr'⟩ | ⟨sec, sec', hr, hr', hsec, -, -⟩
  · rw [hr, hr']
  · rw [hr, hr', Option.bind_some, Option.bind_some, captureAnswer, captureAnswer, hsec.fields]

lemma bgpTransport_reordered (h : evidence.Reordered evidence') (peer : String) :
    (bgpTransport evidence peer).status = (bgpTransport evidence' peer).status := by
  rw [bgpTransport_status, bgpTransport_status]
  rcases read_reordered h ("bgp_neighbor:" ++ peer) with
    ⟨hr, hr'⟩ | ⟨sec, sec', hr, hr', hsec, -, -⟩
  · rw [hr, hr']
  · rw [hr, hr']
    unfold transportVerdict
    rw [Option.bind_some, Option.bind_some, hsec.fields]

lemma routePresent_reordered (h : evidence.Reordered evidence') (route : String) :
    (routePresent evidence route).status = (routePresent evidence' route).status := by
  rw [routePresent_status, routePresent_status]
  rcases read_reordered h ("route:" ++ route) with ⟨hr, hr'⟩ | ⟨sec, sec', hr, hr', hsec, -, -⟩
  · rw [hr, hr']
  · rw [hr, hr']
    unfold routeVerdict
    rw [Option.map_some, Option.map_some, hsec.fields]

lemma isisAdjacency_reordered (h : evidence.Reordered evidence') :
    (isisAdjacency evidence none).status = (isisAdjacency evidence' none).status := by
  rw [isisAdjacency_status, isisAdjacency_status]
  rcases read_reordered h "isis" with ⟨hr, hr'⟩ | ⟨sec, sec', hr, hr', hsec, -, -⟩
  · rw [hr, hr']
  · rw [hr, hr']
    unfold adjacencyVerdict
    rw [Option.map_some, Option.map_some, hsec.rows.isEmpty_eq, hsec.rows.all_eq]

def portSlot (evidence : Evidence) (name : String) : List Status :=
  match (evidence.read ("interface:" ++ name)).bind captureAnswer with
  | some up => [answer (some up)]
  | none =>
    match evidence.read "interfaces" with
    | none => [.unevaluated]
    | some bulk =>
      readings (Record.onInterface name) (fun row => answer (some row.isUp)) .unevaluated
        bulk.parsedRecords

lemma best_port (h : Favours q (fun _ row => answer (some row.isUp)) evidence evidence')
    (name : String) : Best q (portSlot evidence name) (interfaceCheck evidence' name).status := by
  rw [interfaceCheck, interfaceCheck_status, interfaceVerdict, ← capture_reordered h.reordered,
    portSlot]
  cases (evidence.read ("interface:" ++ name)).bind captureAnswer with
  | some up => exact best_singleton _
  | none =>
    rw [Option.none_or]
    dsimp only
    rcases read_reordered h.reordered "interfaces" with
      ⟨hr, hr'⟩ | ⟨bulk, bulk', hr, hr', -, hrows, hrows'⟩
    · rw [hr, hr']
      exact best_singleton _
    · rw [hr, hr', Option.bind_some, answer_firstAnswer]
      dsimp only
      rw [← hrows, ← hrows']
      exact h.first "interfaces" _ _

end Slots

section Members

variable {q : Status → Bool} {evidence evidence' : Evidence}

lemma physicalInterfaces_perm (h : evidence.Reordered evidence') :
    (physicalInterfaces evidence).Perm (physicalInterfaces evidence') :=
  ((rowsUnder_perm h "interfaces").map _).filter _

lemma mem_joinRouteName_foldl {own named : List String} {acc : List String × List String}
    {name : String} :
    name ∈ (named.foldl (joinRouteName own) acc).1 ↔
      name ∈ acc.1 ∨ ∃ routeName ∈ named,
        own.find? (fun candidate => sameInterface candidate routeName) = some name := by
  induction named generalizing acc with
  | nil => simp
  | cons routeName named ih =>
    have hstep : name ∈ (joinRouteName own acc routeName).1 ↔ name ∈ acc.1 ∨
        own.find? (fun candidate => sameInterface candidate routeName) = some name := by
      unfold joinRouteName
      cases own.find? (fun candidate => sameInterface candidate routeName) with
      | none => simp
      | some found =>
        dsimp only
        by_cases hmem : found ∈ acc.1
        · rw [if_pos hmem]
          constructor
          · exact Or.inl
          · rintro (h | h)
            · exact h
            · cases h
              exact hmem
        · rw [if_neg hmem]
          simp [eq_comm]
    rw [List.foldl_cons, ih, hstep, or_assoc]
    simp

def routeNames (evidence : Evidence) (originPrefix : Option String) : List String :=
  match orNone originPrefix with
  | none => []
  | some origin =>
    match evidence.get ("route:" ++ origin) with
    | none => []
    | some sec => if sec.parsedMeta.found then namedInterfaces sec.parsedRecords else []

lemma find?_namedInterfaces (rows : List Record) (routeName : String) :
    (namedInterfaces rows).find? (fun candidate => sameInterface candidate routeName) =
      (rows.find? (Record.onInterface routeName)).bind Record.interface := by
  induction rows with
  | nil => rfl
  | cons row rows ih =>
    rw [namedInterfaces] at ih ⊢
    cases hname : row.interface with
    | none =>
      have hoff : Record.onInterface routeName row = false := by
        rw [Record.onInterface, hname]
        rfl
      rw [List.filterMap_cons, List.find?_cons, hoff, hname, orNone, Option.filter_none]
      exact ih
    | some name =>
      rw [List.filterMap_cons, List.find?_cons, hname, orNone, Record.onInterface, hname,
        Option.getD_some]
      by_cases hempty : name = ""
      · rw [hempty]
        exact ih
      · rw [Option.filter_some, if_pos (by simpa using hempty)]
        dsimp only
        rw [List.find?_cons]
        cases sameInterface name routeName with
        | true => exact hname.symm
        | false => exact ih

lemma mem_pathInterfaces {originPrefix : Option String} {name : String} :
    name ∈ (pathInterfaces evidence originPrefix).1 ↔
      ∃ routeName ∈ routeNames evidence originPrefix,
        ((rowsUnder evidence "interfaces").find? (Record.onInterface routeName)).bind
          Record.interface = some name := by
  unfold pathInterfaces routeNames
  cases orNone originPrefix with
  | none => simp
  | some origin =>
    dsimp only
    cases evidence.get ("route:" ++ origin) with
    | none => simp
    | some sec =>
      dsimp only
      cases sec.parsedMeta.found with
      | false => simp
      | true => simp [mem_joinRouteName_foldl, find?_namedInterfaces]

lemma mem_routeNames_reordered (h : evidence.Reordered evidence') {originPrefix : Option String}
    {routeName : String} : routeName ∈ routeNames evidence originPrefix ↔
      routeName ∈ routeNames evidence' originPrefix := by
  unfold routeNames
  cases orNone originPrefix with
  | none => exact Iff.rfl
  | some origin =>
    have hroute := h ("route:" ++ origin)
    dsimp only
    cases hget : evidence.get ("route:" ++ origin) with
    | none =>
      rw [hget] at hroute
      cases hget' : evidence'.get ("route:" ++ origin) with
      | none => exact Iff.rfl
      | some sec' =>
        rw [hget'] at hroute
        cases hroute
    | some sec =>
      rw [hget] at hroute
      cases hget' : evidence'.get ("route:" ++ origin) with
      | none =>
        rw [hget'] at hroute
        cases hroute
      | some sec' =>
        rw [hget'] at hroute
        cases hroute with
        | some hsec =>
          dsimp only
          rw [hsec.fields]
          split
          · exact (hsec.rows.filterMap _).mem_iff
          · exact Iff.rfl

def rowStatus (evidence : Evidence) (row : Record) : Status :=
  answer (((evidence.read ("interface:" ++ row.interface.getD "")).bind captureAnswer).or
    ((evidence.read "interfaces").map (fun _ => row.isUp)))

lemma status_of_first (h : evidence.Reordered evidence') {routeName : String} {row : Record}
    (hrow : (rowsUnder evidence' "interfaces").find? (Record.onInterface routeName) = some row) :
    ∃ name, row.interface = some name ∧
      (interfaceCheck evidence' name).status = rowStatus evidence row := by
  have hon := List.find?_some hrow
  rw [Record.onInterface, sameInterface_iff] at hon
  obtain ⟨hne, hcanonical⟩ := hon
  cases hname : row.interface with
  | none =>
    rw [hname] at hne
    exact absurd rfl hne
  | some name =>
    rw [hname, Option.getD_some] at hcanonical
    have hsame : Record.onInterface name = Record.onInterface routeName := by
      funext other
      rw [Record.onInterface, Record.onInterface, sameInterface, sameInterface, hcanonical]
    refine ⟨name, rfl, ?_⟩
    rw [interfaceCheck, interfaceCheck_status, interfaceVerdict, rowStatus, hname,
      Option.getD_some, ← capture_reordered h]
    congr 2
    rcases read_reordered h "interfaces" with ⟨hr, hr'⟩ | ⟨bulk, bulk', hr, hr', -, -, hrows'⟩
    · rw [hr, hr']
      rfl
    · rw [hr, hr', Option.bind_some, firstAnswer, hsame, ← hrows', hrow]
      rfl

def pathSlot (evidence : Evidence) (routeName : String) : List Status :=
  ((rowsUnder evidence "interfaces").filter (Record.onInterface routeName)).map
    (rowStatus evidence)

def pathSlots (evidence : Evidence) (originPrefix : Option String) : List (List Status) :=
  if (pathInterfaces evidence originPrefix).1 ≠ [] then
    ((routeNames evidence originPrefix).map (pathSlot evidence)).filter (fun slot => slot != [])
  else if physicalInterfaces evidence = [] then [[.unevaluated]]
  else (physicalInterfaces evidence).map (portSlot evidence)

lemma pathInterfaces_eq_nil_iff {originPrefix : Option String} :
    (pathInterfaces evidence originPrefix).1 = [] ↔
      ∀ routeName ∈ routeNames evidence originPrefix,
        (rowsUnder evidence "interfaces").filter (Record.onInterface routeName) = [] := by
  rw [List.eq_nil_iff_forall_not_mem]
  simp only [mem_pathInterfaces, not_exists, not_and]
  constructor
  · intro hnone routeName hroute
    rw [List.filter_eq_nil_iff, ← List.find?_eq_none]
    cases hrow : (rowsUnder evidence "interfaces").find? (Record.onInterface routeName) with
    | none => rfl
    | some row =>
      obtain ⟨name, hname, -⟩ := status_of_first (Evidence.Reordered.refl evidence) hrow
      refine absurd ?_ (hnone name routeName hroute)
      rw [hrow, Option.bind_some, hname]
  · intro hnil name routeName hroute
    rw [List.find?_eq_none.mpr (List.filter_eq_nil_iff.mp (hnil routeName hroute)),
      Option.bind_none]
    exact Option.some_ne_none name ∘ Eq.symm

lemma pathInterfaces_nil_reordered (h : evidence.Reordered evidence')
    {originPrefix : Option String} : (pathInterfaces evidence originPrefix).1 = [] ↔
      (pathInterfaces evidence' originPrefix).1 = [] := by
  rw [pathInterfaces_eq_nil_iff, pathInterfaces_eq_nil_iff]
  refine forall_congr' (fun routeName => ?_)
  rw [mem_routeNames_reordered h]
  refine imp_congr_right (fun _ => ?_)
  have hperm := (rowsUnder_perm h "interfaces").filter (Record.onInterface routeName)
  constructor
  · intro hnil
    rw [hnil] at hperm
    exact hperm.symm.eq_nil
  · intro hnil
    rw [hnil] at hperm
    exact hperm.eq_nil

def pathReading (evidence : Evidence) (originPrefix : Option String) (_ : String)
    (row : Record) : Status :=
  if (pathInterfaces evidence originPrefix).1 ≠ [] then rowStatus evidence row
  else answer (some row.isUp)

lemma best_named (h : Favours q (fun _ => rowStatus evidence) evidence evidence')
    {routeName : String} {row : Record}
    (hrow : (rowsUnder evidence' "interfaces").find? (Record.onInterface routeName) = some row) :
    pathSlot evidence routeName ≠ [] ∧
      Best q (pathSlot evidence routeName) (rowStatus evidence row) := by
  have hmem : row ∈ (rowsUnder evidence "interfaces").filter (Record.onInterface routeName) :=
    List.mem_filter.mpr ⟨(rowsUnder_perm h.reordered "interfaces").mem_iff.mpr
      (List.mem_of_find?_eq_some hrow), List.find?_some hrow⟩
  have hbest := h.first "interfaces" (Record.onInterface routeName) .unevaluated
  rw [firstReading, hrow, readings, if_neg (List.ne_nil_of_mem hmem)] at hbest
  exact ⟨List.ne_nil_of_mem (List.mem_map_of_mem hmem), hbest⟩

lemma draws_path {originPrefix : Option String}
    (h : Favours q (pathReading evidence originPrefix) evidence evidence') :
    Draws q (pathSlots evidence originPrefix) (interfaceStatuses evidence' originPrefix) := by
  have hnil : (pathInterfaces evidence originPrefix).1 = [] ↔
      (pathInterfaces evidence' originPrefix).1 = [] := pathInterfaces_nil_reordered h.reordered
  unfold pathSlots interfaceStatuses judgedInterfaces
  by_cases hpath : (pathInterfaces evidence originPrefix).1 = []
  · have hreading : pathReading evidence originPrefix = fun _ row => answer (some row.isUp) := by
      funext _ row
      rw [pathReading, if_neg (not_not.mpr hpath)]
    rw [hreading] at h
    rw [if_neg (not_not.mpr hpath), if_neg (not_not.mpr (hnil.mp hpath))]
    have hperm := physicalInterfaces_perm h.reordered
    by_cases hempty : physicalInterfaces evidence = []
    · rw [hempty] at hperm
      rw [if_pos hempty, if_pos hperm.symm.eq_nil]
      exact draws_singleton (best_singleton _)
    · have hempty' : physicalInterfaces evidence' ≠ [] := by
        intro hnone
        rw [hnone] at hperm
        exact hempty hperm.eq_nil
      rw [if_neg hempty, if_neg hempty']
      refine ⟨?_, ?_⟩
      · intro slot hslot
        obtain ⟨name, hname, rfl⟩ := List.mem_map.mp hslot
        exact ⟨_, List.mem_map_of_mem (hperm.mem_iff.mp hname), best_port h name⟩
      · intro status hstatus
        obtain ⟨name, hname, rfl⟩ := List.mem_map.mp hstatus
        exact ⟨_, List.mem_map_of_mem (hperm.mem_iff.mpr hname), best_port h name⟩
  · have hpath' : (pathInterfaces evidence' originPrefix).1 ≠ [] := fun h' => hpath (hnil.mpr h')
    have hreading : pathReading evidence originPrefix = fun _ => rowStatus evidence := by
      funext _ row
      rw [pathReading, if_pos hpath]
    rw [hreading] at h
    rw [if_pos hpath, if_pos hpath', if_neg hpath']
    refine ⟨?_, ?_⟩
    · intro slot hslot
      obtain ⟨hslot, hne⟩ := List.mem_filter.mp hslot
      obtain ⟨routeName, hroute, rfl⟩ := List.mem_map.mp hslot
      cases hrow : (rowsUnder evidence' "interfaces").find? (Record.onInterface routeName) with
      | none =>
        have hfilter := (rowsUnder_perm h.reordered "interfaces").filter
          (Record.onInterface routeName)
        rw [List.filter_eq_nil_iff.mpr (List.find?_eq_none.mp hrow)] at hfilter
        rw [pathSlot, hfilter.eq_nil] at hne
        cases hne
      | some row =>
        obtain ⟨name, hname, hstatus⟩ := status_of_first h.reordered hrow
        refine ⟨rowStatus evidence row, List.mem_map.mpr ⟨name, ?_, hstatus⟩,
          (best_named h hrow).2⟩
        refine mem_pathInterfaces.mpr ⟨routeName, (mem_routeNames_reordered h.reordered).mp hroute,
          ?_⟩
        rw [hrow, Option.bind_some, hname]
    · intro status hstatus
      obtain ⟨name, hmem, rfl⟩ := List.mem_map.mp hstatus
      obtain ⟨routeName, hroute, hfirst⟩ := mem_pathInterfaces.mp hmem
      obtain ⟨row, hrow, hname⟩ := Option.bind_eq_some_iff.mp hfirst
      obtain ⟨name', hname', hstatus⟩ := status_of_first h.reordered hrow
      rw [hname, Option.some.injEq] at hname'
      rw [hname', hstatus]
      obtain ⟨hne, hbest⟩ := best_named h hrow
      refine ⟨pathSlot evidence routeName, List.mem_filter.mpr ⟨List.mem_map_of_mem
        ((mem_routeNames_reordered h.reordered).mpr hroute), ?_⟩, hbest⟩
      simpa using hne

end Members

end NetTools
