import NetTools.Config.Diff
import NetTools.Library.ListSearch

/-!
# What a reconciliation compares

A reconciliation has three fields. A field is compared exactly when both of its sides were read, and
whether it speaks for all the records about the interface, in any order, depends on whether these
records agree.
-/

namespace NetTools

namespace ConfigDiff

inductive Axis where
  | isisAdjacency
  | adminState
  | ipv4Address

def Axis.all : List Axis := [.isisAdjacency, .adminState, .ipv4Address]

def Axis.diff (evidence : Evidence) (device interface : String) : Axis → FieldDiff
  | .isisAdjacency => diffIsisAdjacency evidence device interface
  | .adminState => diffInterfaceAdminState evidence device interface
  | .ipv4Address => diffInterfaceIpv4Address evidence device interface

/-- The section under a key reached the comparison parsed, as `sec`. -/
def ReadAs (evidence : Evidence) (key : String) (sec : Section) : Prop :=
  evidence.get key = some sec ∧ sec.parseStatus = some PARSE_OK

def Axis.IntentRead (evidence : Evidence) (interface : String) : Axis → Prop
  | .isisAdjacency => evidence.Read "config_isis"
  | .adminState => evidence.Read ("config_interface:" ++ interface)
  | .ipv4Address => evidence.Read ("config_interface:" ++ interface)

/-- No section of what a device shows holds an address of an interface. -/
def Axis.ObservedRead (evidence : Evidence) (interface : String) : Axis → Prop
  | .isisAdjacency => evidence.Read "isis"
  | .adminState => ∃ sec, ReadAs evidence "interfaces" sec ∧
      ∃ record ∈ sec.parsedRecords, record.onInterface interface = true
  | .ipv4Address => False

structure SectionPermuted (sec sec' : Section) : Prop where
  status : sec'.parseStatus = sec.parseStatus
  fields : sec'.parsedMeta = sec.parsedMeta
  records : sec.parsedRecords.Perm sec'.parsedRecords

/-- The same evidence with the records of its sections in another order. -/
def Permuted (evidence evidence' : Evidence) : Prop :=
  ∀ key, Option.Rel SectionPermuted (evidence.get key) (evidence'.get key)

structure Reconciled (evidence : Evidence) (device interface : String) : Prop where
  three : (reconcileInterface evidence device interface).fields =
    Axis.all.map (Axis.diff evidence device interface)
  compared : ∀ axis : Axis, (axis.diff evidence device interface).outcome = .cannotCompare ↔
    ¬(axis.IntentRead evidence interface ∧ axis.ObservedRead evidence interface)
  quantified : ∀ config isis, ReadAs evidence "config_isis" config → ReadAs evidence "isis" isis →
    let diff := diffIsisAdjacency evidence device interface
    (diff.intent = .bool true ↔
      ∃ record ∈ config.parsedRecords, record.onInterface interface = true) ∧
    (diff.observed = .bool true ↔
      ∃ record ∈ isis.parsedRecords, record.onInterface interface = true ∧
        record.state = some "Up") ∧
    (diff.outcome = .agrees ↔ (diff.intent = .bool true ↔ diff.observed = .bool true))
  stable : ∀ evidence', Permuted evidence evidence' → ∀ axis : Axis,
    (axis.diff evidence' device interface).outcome = (axis.diff evidence device interface).outcome

/-- The records of a section about the interface are alike in whether they satisfy `p`. -/
def Alike (sec : Section) (interface : String) (p : Record → Bool) : Prop :=
  ∀ record ∈ sec.parsedRecords, ∀ other ∈ sec.parsedRecords,
    record.onInterface interface → other.onInterface interface → p record = p other

def hasUpState (record : Record) : Bool := record.state == some "Up"

def isAdminUp (record : Record) : Bool := record.adminState == some "up"

/-- Where a field is compared, all the records about the interface give the same answer. -/
structure Undivided (evidence : Evidence) (interface : String) : Prop where
  isis : ∀ sec, evidence.Read "config_isis" → ReadAs evidence "isis" sec →
    Alike sec interface hasUpState
  interfaces : ∀ sec, evidence.Read ("config_interface:" ++ interface) →
    ReadAs evidence "interfaces" sec → Alike sec interface isAdminUp

/-! ### What the fields say -/

section Fields

variable {evidence : Evidence} {device interface : String}

lemma requireParsed_of_readAs {key : String} {sec : Section} (h : ReadAs evidence key sec)
    (subject : Option String) : requireParsed evidence key subject = .ok sec :=
  requireParsed_eq_ok_iff.mpr h

lemma read_iff {key : String} (subject : Option String) :
    evidence.Read key ↔ ∃ sec, requireParsed evidence key subject = .ok sec := by
  simp only [Evidence.Read, requireParsed_eq_ok_iff]

lemma bothRead_error (intentKey observedKey : String) {intent observed : Except CheckResult Section}
    (h : ¬((∃ sec, intent = .ok sec) ∧ ∃ sec, observed = .ok sec)) :
    ∃ reason, bothRead intentKey observedKey intent observed = .error reason := by
  cases intent with
  | error bail => cases observed <;> exact ⟨_, rfl⟩
  | ok config =>
    cases observed with
    | error bail => exact ⟨_, rfl⟩
    | ok sec => exact absurd ⟨⟨config, rfl⟩, ⟨sec, rfl⟩⟩ h

def outcomeOf (intent observed : Bool) : Outcome :=
  if intent = observed then .agrees else .disagrees

lemma outcomeOf_ne_cannotCompare (intent observed : Bool) :
    outcomeOf intent observed ≠ .cannotCompare := by
  rw [outcomeOf]
  split <;> exact fun h => by cases h

lemma outcomeOf_right_inj {intent observed observed' : Bool} :
    outcomeOf intent observed = outcomeOf intent observed' ↔ observed = observed' := by
  cases intent <;> cases observed <;> cases observed' <;> decide

def adminOutcome (shutdown : Bool) : Option Record → Outcome
  | none => .cannotCompare
  | some record => outcomeOf (!shutdown) (isAdminUp record)

lemma diffIsisAdjacency_of_read {config isis : Section} (hc : ReadAs evidence "config_isis" config)
    (hi : ReadAs evidence "isis" isis) :
    let diff := diffIsisAdjacency evidence device interface
    let enabled := (findByInterface config.parsedRecords interface).isSome
    let up := (findByInterface isis.parsedRecords interface).any hasUpState
    diff.intent = .bool enabled ∧ diff.observed = .bool up ∧
      diff.outcome = outcomeOf enabled up := by
  by_cases h : (findByInterface config.parsedRecords interface).isSome =
      (findByInterface isis.parsedRecords interface).any (fun record => record.state == some "Up")
  · simp only [diffIsisAdjacency, requireParsed_of_readAs hc, requireParsed_of_readAs hi, bothRead,
      if_pos h]
    exact ⟨trivial, rfl, (if_pos h).symm⟩
  · simp only [diffIsisAdjacency, requireParsed_of_readAs hc, requireParsed_of_readAs hi, bothRead,
      if_neg h]
    exact ⟨trivial, rfl, (if_neg h).symm⟩

lemma diffIsisAdjacency_unread
    (h : ¬(evidence.Read "config_isis" ∧ evidence.Read "isis")) :
    (diffIsisAdjacency evidence device interface).outcome = .cannotCompare := by
  rw [read_iff (some interface), read_iff (some interface)] at h
  obtain ⟨reason, hreason⟩ := bothRead_error (evidenceKey device "config_isis")
    (evidenceKey device "isis" (some interface)) h
  simp only [diffIsisAdjacency, hreason]

lemma diffInterfaceAdminState_of_read {config interfaces : Section}
    (hc : ReadAs evidence ("config_interface:" ++ interface) config)
    (hi : ReadAs evidence "interfaces" interfaces) :
    (diffInterfaceAdminState evidence device interface).outcome =
      adminOutcome (config.parsedMeta.shutdown.getD false)
        (findByInterface interfaces.parsedRecords interface) := by
  simp only [diffInterfaceAdminState, requireParsed_of_readAs hc, requireParsed_of_readAs hi,
    bothRead]
  cases hfound : findByInterface interfaces.parsedRecords interface with
  | none => rfl
  | some record =>
    dsimp only
    by_cases h : (!config.parsedMeta.shutdown.getD false) = (record.adminState == some "up")
    · rw [if_pos h]
      exact (if_pos h).symm
    · rw [if_neg h]
      exact (if_neg h).symm

lemma diffInterfaceAdminState_unread
    (h : ¬(evidence.Read ("config_interface:" ++ interface) ∧ evidence.Read "interfaces")) :
    (diffInterfaceAdminState evidence device interface).outcome = .cannotCompare := by
  rw [read_iff (some interface), read_iff (some interface)] at h
  obtain ⟨reason, hreason⟩ := bothRead_error
    (evidenceKey device "config_interface" (some interface))
    (evidenceKey device "interfaces" (some interface)) h
  simp only [diffInterfaceAdminState, hreason]

lemma diffInterfaceIpv4Address_outcome :
    (diffInterfaceIpv4Address evidence device interface).outcome = .cannotCompare := by
  unfold diffInterfaceIpv4Address
  cases requireParsed evidence ("config_interface:" ++ interface) (some interface) <;> rfl

lemma findByInterface_eq_none_iff {records : List Record} :
    findByInterface records interface = none ↔
      ¬∃ record ∈ records, record.onInterface interface = true := by
  rw [findByInterface, List.find?_eq_none]
  push Not
  rfl

lemma read_of_readAs {key : String} {sec : Section} (h : ReadAs evidence key sec) :
    evidence.Read key := ⟨sec, h⟩

lemma readAs_unique {key : String} {sec sec' : Section} (h : ReadAs evidence key sec)
    (h' : ReadAs evidence key sec') : sec' = sec :=
  Option.some.inj (h'.1.symm.trans h.1)

theorem Axis.cannotCompare_iff (axis : Axis) :
    (axis.diff evidence device interface).outcome = .cannotCompare ↔
      ¬(axis.IntentRead evidence interface ∧ axis.ObservedRead evidence interface) := by
  cases axis with
  | isisAdjacency =>
    refine ⟨?_, diffIsisAdjacency_unread⟩
    rintro h ⟨⟨config, hc⟩, ⟨isis, hi⟩⟩
    have houtcome := (@diffIsisAdjacency_of_read evidence device interface _ _ hc hi).2.2
    rw [Axis.diff, houtcome] at h
    exact outcomeOf_ne_cannotCompare _ _ h
  | adminState =>
    by_cases hread : evidence.Read ("config_interface:" ++ interface) ∧ evidence.Read "interfaces"
    · obtain ⟨⟨config, hc⟩, ⟨interfaces, hi⟩⟩ := hread
      have hobserved : Axis.adminState.ObservedRead evidence interface ↔
          ∃ record ∈ interfaces.parsedRecords, record.onInterface interface = true := by
        constructor
        · rintro ⟨sec, hsec, hrecord⟩
          rwa [readAs_unique hi hsec] at hrecord
        · exact fun hrecord => ⟨interfaces, hi, hrecord⟩
      have hintent : Axis.adminState.IntentRead evidence interface := read_of_readAs hc
      rw [Axis.diff, diffInterfaceAdminState_of_read hc hi, hobserved]
      rw [and_iff_right hintent, ← findByInterface_eq_none_iff]
      cases findByInterface interfaces.parsedRecords interface with
      | none => exact ⟨fun _ => rfl, fun _ => rfl⟩
      | some record =>
        exact ⟨fun h => absurd h (outcomeOf_ne_cannotCompare _ _), fun h => by cases h⟩
    · refine ⟨fun _ h => hread ⟨h.1, ?_⟩, fun _ => diffInterfaceAdminState_unread hread⟩
      obtain ⟨sec, hsec, -⟩ := h.2
      exact read_of_readAs hsec
  | ipv4Address => exact ⟨fun _ h => h.2, fun _ => diffInterfaceIpv4Address_outcome⟩

/-! ### Records in another order -/

lemma sectionPermuted_refl (sec : Section) : SectionPermuted sec sec :=
  ⟨rfl, rfl, List.Perm.refl _⟩

lemma Permuted.readAs {evidence' : Evidence} (h : Permuted evidence evidence') {key : String}
    {sec : Section} (hread : ReadAs evidence key sec) :
    ∃ sec', ReadAs evidence' key sec' ∧ SectionPermuted sec sec' := by
  have hkey := h key
  rw [hread.1] at hkey
  cases hget : evidence'.get key with
  | none =>
    rw [hget] at hkey
    cases hkey
  | some sec' =>
    rw [hget] at hkey
    cases hkey with
    | some hperm => exact ⟨sec', ⟨hget, hperm.status.trans hread.2⟩, hperm⟩

lemma Permuted.read_of_read {evidence' : Evidence} (h : Permuted evidence evidence') {key : String}
    (hread : evidence'.Read key) : evidence.Read key := by
  obtain ⟨sec', hget', hok'⟩ := hread
  have hkey := h key
  rw [hget'] at hkey
  cases hget : evidence.get key with
  | none =>
    rw [hget] at hkey
    cases hkey
  | some sec =>
    rw [hget] at hkey
    cases hkey with
    | some hperm => exact ⟨sec, hget, hperm.status.symm.trans hok'⟩

lemma Permuted.not_read {evidence' : Evidence} (h : Permuted evidence evidence') {key key' : String}
    (hread : ¬(evidence.Read key ∧ evidence.Read key')) :
    ¬(evidence'.Read key ∧ evidence'.Read key') :=
  fun hread' => hread ⟨h.read_of_read hread'.1, h.read_of_read hread'.2⟩

/-- The evidence with the records of one section in the order of `records`. -/
def reordered (evidence : Evidence) (key : String) (sec : Section) (records : List Record) :
    Evidence :=
  { evidence with
    get := Function.update evidence.get key
      (some { sec with parsed := some ⟨sec.parsedMeta, records⟩ }) }

lemma reordered_readAs_self {key : String} {sec : Section} (h : ReadAs evidence key sec)
    (records : List Record) :
    ReadAs (reordered evidence key sec records) key
      { sec with parsed := some ⟨sec.parsedMeta, records⟩ } :=
  ⟨Function.update_self .., h.2⟩

lemma reordered_readAs_of_ne {key key' : String} {sec sec' : Section}
    (h : ReadAs evidence key' sec') (hne : key' ≠ key) (records : List Record) :
    ReadAs (reordered evidence key sec records) key' sec' :=
  ⟨(Function.update_of_ne hne ..).trans h.1, h.2⟩

lemma permuted_reordered {key : String} {sec : Section} (h : ReadAs evidence key sec)
    {records : List Record} (hperm : sec.parsedRecords.Perm records) :
    Permuted evidence (reordered evidence key sec records) := by
  intro key'
  by_cases hkey : key' = key
  · rw [hkey, h.1, (reordered_readAs_self h records).1]
    exact Option.Rel.some ⟨rfl, rfl, hperm⟩
  · have hget : (reordered evidence key sec records).get key' = evidence.get key' :=
      Function.update_of_ne hkey ..
    rw [hget]
    cases evidence.get key' with
    | none => exact Option.Rel.none
    | some other => exact Option.Rel.some (sectionPermuted_refl other)

lemma alike_iff_isis {sec : Section} (enabled : Bool) :
    (∀ records, sec.parsedRecords.Perm records →
      outcomeOf enabled ((findByInterface records interface).any hasUpState) =
        outcomeOf enabled ((findByInterface sec.parsedRecords interface).any hasUpState)) ↔
      Alike sec interface hasUpState := by
  have h := ListSearch.find?_stable_iff (p := Record.onInterface interface)
    (l := sec.parsedRecords) (g := fun found => outcomeOf enabled (found.any hasUpState))
  simp only [Option.any_some, outcomeOf_right_inj] at h
  simp only [findByInterface, Alike, outcomeOf_right_inj]
  exact h

lemma alike_iff_admin {sec : Section} (shutdown : Bool) :
    (∀ records, sec.parsedRecords.Perm records →
      adminOutcome shutdown (findByInterface records interface) =
        adminOutcome shutdown (findByInterface sec.parsedRecords interface)) ↔
      Alike sec interface isAdminUp := by
  have h := ListSearch.find?_stable_iff (p := Record.onInterface interface)
    (l := sec.parsedRecords) (g := adminOutcome shutdown)
  simp only [adminOutcome, outcomeOf_right_inj] at h
  exact h

lemma isSome_findByInterface_perm {records records' : List Record} (h : records.Perm records') :
    (findByInterface records' interface).isSome = (findByInterface records interface).isSome := by
  rw [Bool.eq_iff_iff, findByInterface, findByInterface, List.find?_isSome, List.find?_isSome]
  simp only [h.mem_iff]

lemma findByInterface_isSome_iff {records : List Record} :
    (findByInterface records interface).isSome = true ↔
      ∃ record ∈ records, record.onInterface interface = true := by
  rw [findByInterface, List.find?_isSome]

lemma findByInterface_any_iff {sec : Section} {p : Record → Bool} (h : Alike sec interface p) :
    (findByInterface sec.parsedRecords interface).any p = true ↔
      ∃ record ∈ sec.parsedRecords, record.onInterface interface = true ∧ p record = true := by
  rw [Option.any_eq_true]
  constructor
  · rintro ⟨record, hfound, hp⟩
    exact ⟨record, List.mem_of_find?_eq_some hfound, List.find?_some hfound, hp⟩
  · rintro ⟨record, hmem, hon, hp⟩
    have hsome := findByInterface_isSome_iff.mpr ⟨record, hmem, hon⟩
    obtain ⟨first, hfirst⟩ := Option.isSome_iff_exists.mp hsome
    have halike := h first (List.mem_of_find?_eq_some hfirst) record hmem
      (List.find?_some hfirst) hon
    exact ⟨first, hfirst, halike.trans hp⟩

lemma outcomeOf_eq_agrees_iff {intent observed : Bool} :
    outcomeOf intent observed = .agrees ↔ (intent = true ↔ observed = true) := by
  cases intent <;> cases observed <;> decide

lemma config_key_ne_interfaces : "config_interface:" ++ interface ≠ "interfaces" := by
  intro h
  have hhead := congrArg (fun text => text.toList.head?) h
  simp at hhead

lemma stable_isis {evidence' : Evidence} (h : Undivided evidence interface)
    (hperm : Permuted evidence evidence') :
    (diffIsisAdjacency evidence' device interface).outcome =
      (diffIsisAdjacency evidence device interface).outcome := by
  by_cases hread : evidence.Read "config_isis" ∧ evidence.Read "isis"
  · obtain ⟨⟨config, hc⟩, ⟨isis, hi⟩⟩ := hread
    obtain ⟨config', hc', hconfig⟩ := hperm.readAs hc
    obtain ⟨isis', hi', hisis⟩ := hperm.readAs hi
    have halike := h.isis isis (read_of_readAs hc) hi
    rw [(diffIsisAdjacency_of_read hc hi).2.2, (diffIsisAdjacency_of_read hc' hi').2.2,
      isSome_findByInterface_perm hconfig.records]
    exact (alike_iff_isis _).mpr halike _ hisis.records
  · rw [diffIsisAdjacency_unread hread, diffIsisAdjacency_unread (hperm.not_read hread)]

lemma stable_admin {evidence' : Evidence} (h : Undivided evidence interface)
    (hperm : Permuted evidence evidence') :
    (diffInterfaceAdminState evidence' device interface).outcome =
      (diffInterfaceAdminState evidence device interface).outcome := by
  by_cases hread : evidence.Read ("config_interface:" ++ interface) ∧ evidence.Read "interfaces"
  · obtain ⟨⟨config, hc⟩, ⟨interfaces, hi⟩⟩ := hread
    obtain ⟨config', hc', hconfig⟩ := hperm.readAs hc
    obtain ⟨interfaces', hi', hinterfaces⟩ := hperm.readAs hi
    have halike := h.interfaces interfaces (read_of_readAs hc) hi
    rw [diffInterfaceAdminState_of_read hc hi, diffInterfaceAdminState_of_read hc' hi',
      hconfig.fields]
    exact (alike_iff_admin _).mpr halike _ hinterfaces.records
  · rw [diffInterfaceAdminState_unread hread,
      diffInterfaceAdminState_unread (hperm.not_read hread)]

lemma undivided_of_stable
    (h : ∀ evidence', Permuted evidence evidence' → ∀ axis : Axis,
      (axis.diff evidence' device interface).outcome =
        (axis.diff evidence device interface).outcome) :
    Undivided evidence interface where
  isis := by
    intro isis hconfig hi
    obtain ⟨config, hc⟩ := hconfig
    rw [← alike_iff_isis (findByInterface config.parsedRecords interface).isSome]
    intro records hperm
    have hstable := h _ (permuted_reordered hi hperm) .isisAdjacency
    have hc' := @reordered_readAs_of_ne evidence "isis" _ isis _ hc (by decide) records
    have hi' := reordered_readAs_self hi records
    simp only [Axis.diff] at hstable
    rw [(diffIsisAdjacency_of_read hc hi).2.2, (diffIsisAdjacency_of_read hc' hi').2.2] at hstable
    exact hstable
  interfaces := by
    intro interfaces hconfig hi
    obtain ⟨config, hc⟩ := hconfig
    rw [← alike_iff_admin (config.parsedMeta.shutdown.getD false)]
    intro records hperm
    have hstable := h _ (permuted_reordered hi hperm) .adminState
    have hc' := @reordered_readAs_of_ne evidence "interfaces" _ interfaces _ hc
      config_key_ne_interfaces records
    have hi' := reordered_readAs_self hi records
    simp only [Axis.diff] at hstable
    rw [diffInterfaceAdminState_of_read hc hi, diffInterfaceAdminState_of_read hc' hi'] at hstable
    exact hstable

end Fields

/-- A reconciliation reads all the records about an interface, in any order, exactly where these
records agree. -/
theorem reconciled_iff_undivided (evidence : Evidence) (device interface : String) :
    Reconciled evidence device interface ↔ Undivided evidence interface := by
  constructor
  · intro h
    exact undivided_of_stable h.stable
  · intro h
    refine ⟨rfl, fun axis => axis.cannotCompare_iff, ?_, ?_⟩
    · intro config isis hc hi
      obtain ⟨hintent, hobserved, houtcome⟩ :=
        @diffIsisAdjacency_of_read evidence device interface _ _ hc hi
      have halike := h.isis isis (read_of_readAs hc) hi
      dsimp only
      rw [hintent, hobserved, houtcome, outcomeOf_eq_agrees_iff]
      simp only [Value.bool.injEq]
      refine ⟨findByInterface_isSome_iff, ?_, trivial⟩
      rw [findByInterface_any_iff halike]
      simp only [hasUpState, beq_iff_eq]
    · intro evidence' hperm axis
      cases axis with
      | isisAdjacency => exact stable_isis h hperm
      | adminState => exact stable_admin h hperm
      | ipv4Address =>
        exact diffInterfaceIpv4Address_outcome.trans diffInterfaceIpv4Address_outcome.symm

def twoAdjacencies : Evidence where
  device := "PE3"
  get key :=
    if key = "config_isis" then
      some { parsed := some ⟨{}, [{ interface := some "GigabitEthernet0/0/0/0" }]⟩
             parseStatus := some PARSE_OK }
    else if key = "isis" then
      some { parsed := some ⟨{}, [{ interface := some "Gi0/0/0/0", state := some "Init" },
               { interface := some "Gi0/0/0/0", state := some "Up" }]⟩
             parseStatus := some PARSE_OK }
    else none

theorem not_reconciled_twoAdjacencies : ¬Reconciled twoAdjacencies "PE3" "Gi0/0/0/0" := by
  intro h
  have hobserved := (h.quantified _ _ ⟨rfl, rfl⟩ ⟨rfl, rfl⟩).2.1.mpr
    ⟨{ interface := some "Gi0/0/0/0", state := some "Up" }, by decide, by decide, rfl⟩
  have hread : (diffIsisAdjacency twoAdjacencies "PE3" "Gi0/0/0/0").observed = .bool false := by
    rw [(@diffIsisAdjacency_of_read twoAdjacencies _ _ _ _ ⟨rfl, rfl⟩ ⟨rfl, rfl⟩).2.1]
    exact congrArg Value.bool (by decide +kernel)
  rw [hread] at hobserved
  cases hobserved

end ConfigDiff

end NetTools
