import Mathlib.Computability.Primrec.List
import NetTools.Logs.WatchOrder
import NetTools.Routing.Clauses

/-!
# The fault of a group

The decision of a group should be that of its newest record that can be routed on its own, with the
age of that record. A newer record whose direction cannot be read hides the fault, and the trigger
policy drops the time of every decision that it lets through.
-/

namespace NetTools

open LogsLoki

/-- Two decisions are about the same event, whatever reason they give. -/
structure RoutingDecision.SameEvent (d e : RoutingDecision) : Prop where
  routable : d.routable = e.routable
  flow : d.flow = e.flow
  device : d.device = e.device
  subject : d.subject = e.subject
  sourceKind : d.sourceKind = e.sourceKind
  matched : d.matched = e.matched
  transition : d.transition = e.transition
  rawEvent : d.rawEvent = e.rawEvent

/-- The two decisions are refused for their age at the same times, under any limit. -/
def RoutingDecision.SameAge (d e : RoutingDecision) : Prop :=
  ∀ digits configured limitText time,
    (eventAgeRefusal digits d configured limitText time).map Option.isSome =
      (eventAgeRefusal digits e configured limitText time).map Option.isSome

namespace EventWatch

variable {names : List String} {table : List TriggerEntry} {device : String}
  {first record newest : LokiRecord} {others records before after : List LokiRecord}
  {key : GroupKey} {trigger : Trigger}

def IsNewestFault (names : List String) (device : String) (records before : List LokiRecord)
    (newest : LokiRecord) (after : List LokiRecord) : Prop :=
  records = before ++ newest :: after ∧ (routeRecord names device newest).routable = true ∧
    ∀ r ∈ before, (routeRecord names device r).routable = false

/-- The decision of a group is that of its newest fault, and as old as that. -/
def KeepsFault (names : List String) (device : String) (records : List LokiRecord)
    (decision : RoutingDecision) : Prop :=
  ∀ before newest after, IsNewestFault names device records before newest after →
    decision.SameEvent (routeRecord names device newest) ∧
      decision.ingestTimestampNs = (routeRecord names device newest).ingestTimestampNs ∧
      decision.SameAge (routeRecord names device newest)

lemma exists_newestFault (h : ∃ r ∈ records, (routeRecord names device r).routable = true) :
    ∃ before newest after, IsNewestFault names device records before newest after := by
  have hfound : ∃ newest, records.find? (fun r => (routeRecord names device r).routable) =
      some newest := by
    rw [← Option.isSome_iff_exists, List.find?_isSome]
    exact h
  obtain ⟨newest, hnewest⟩ := hfound
  obtain ⟨hroutable, before, after, hsplit, hbefore⟩ := List.find?_eq_some_iff_append.mp hnewest
  exact ⟨before, newest, after, hsplit, hroutable, fun r hr => by simpa using hbefore r hr⟩

lemma ingest_routeRecord (record : LokiRecord) :
    (routeRecord names device record).ingestTimestampNs = some record.ingestTimestampNs := rfl

lemma routeRecord_eq (record : LokiRecord) :
    routeRecord names device record =
      { routeIosxrEnvelope names
          ⟨"loki", record.rawEvent, some record.mnemonic, some record.text⟩ (some device) with
        ingestTimestampNs := some record.ingestTimestampNs } := rfl

lemma routable_of_group (hkey : groupKey record = groupKey newest)
    (hnewest : (routeRecord names device newest).routable = true) :
    (routeRecord names device record).routable = true ↔
      (routeRecord names device record).transition ≠ some "up" ∧
        (routeRecord names device record).transition ≠ some "unknown" := by
  obtain ⟨mnemonic, text, flow, extract, name, subject, hmnemonic, htext, hlookup, hknown,
    hsubject, -⟩ := @routeIosxrEnvelope_routable names
      ⟨"loki", newest.rawEvent, some newest.mnemonic, some newest.text⟩ (some device) hnewest
  obtain rfl : newest.mnemonic = mnemonic := Option.some.inj hmnemonic
  obtain rfl : newest.text = text := Option.some.inj htext
  have hne : newest.mnemonic ≠ "" := by
    intro hempty
    rw [hempty] at hlookup
    revert hlookup
    simp [mnemonicFlowTable, List.lookup]
  have hnewestKey : groupKey newest = some (newest.mnemonic, some subject) := by
    rw [groupKey, if_neg hne, extractorFor, hlookup]
    simp [hsubject]
  rw [hnewestKey, groupKey] at hkey
  split at hkey
  · cases hkey
  · obtain ⟨hsame, hextract⟩ := Prod.mk.inj (Option.some.inj hkey)
    rw [hsame, extractorFor, hlookup] at hextract
    have hrecord : extract record.text = some subject := hextract
    have hlisted := route_listed names "loki" record.rawEvent record.text (some device)
      (hsame ▸ hlookup)
    have hs := (hlisted.1 subject).mpr ⟨⟨name, hknown⟩, hrecord⟩
    rw [routeRecord_eq]
    dsimp only
    rw [hlisted.2.1]
    exact hlisted.2.2 subject hs

lemma matched_routeRecord (record : LokiRecord) :
    (routeRecord names device record).matched = some record.mnemonic ∧
      (routeRecord names device record).sourceKind = "loki" := by
  rw [routeRecord_eq, routeIosxrEnvelope]
  dsimp only
  split
  · exact ⟨rfl, rfl⟩
  · split
    · exact ⟨rfl, rfl⟩
    · split
      · exact ⟨rfl, rfl⟩
      · split
        · exact ⟨rfl, rfl⟩
        · split <;> exact ⟨rfl, rfl⟩

lemma applyTriggerPolicy_refused {d : RoutingDecision} {mnemonic : String}
    (hmatched : d.matched = some mnemonic) (htrigger : triggerFor table mnemonic = some trigger)
    (hfires : trigger.fires = true) (h : d.routable = false) : applyTriggerPolicy table d = d := by
  rw [applyTriggerPolicy, hmatched]
  dsimp only
  rw [htrigger]
  dsimp only
  rw [hfires, h]
  rfl

lemma applyTriggerPolicy_routable {d : RoutingDecision} {mnemonic : String}
    (hmatched : d.matched = some mnemonic) (hkind : d.sourceKind = "loki")
    (htrigger : triggerFor table mnemonic = some trigger) (hfires : trigger.fires = true)
    (h : d.routable = true) :
    (applyTriggerPolicy table d).SameEvent d ∧
      (applyTriggerPolicy table d).ingestTimestampNs = none := by
  rw [applyTriggerPolicy, hmatched]
  dsimp only
  rw [htrigger]
  dsimp only
  rw [hfires, h]
  exact ⟨⟨h.symm, rfl, rfl, rfl, hkind.symm, hmatched.symm, rfl, rfl⟩, rfl⟩

lemma find_newestFault (hfault : IsNewestFault names device records before newest after)
    (hup : ∀ r ∈ before, (routeRecord names device r).transition = some "up") :
    records.find? (fun r => !isRecovery names device r) = some newest := by
  obtain ⟨rfl, hroutable, -⟩ := hfault
  have hnewest := ((routable_of_group rfl hroutable).mp hroutable).1
  rw [List.find?_append, List.find?_eq_none.mpr, List.find?_cons_of_pos]
  · rfl
  · simpa [isRecovery] using hnewest
  · intro r hr
    simp [isRecovery, hup r hr]

variable (hgroup : ∀ r ∈ first :: others, groupKey r = some key)
  (htrigger : triggerFor table key.1 = some trigger) (hfires : trigger.fires = true)

lemma mnemonic_of_groupKey (h : groupKey record = some key) : record.mnemonic = key.1 := by
  rw [groupKey] at h
  split at h
  · cases h
  · rw [← Option.some.inj h]

include hgroup htrigger hfires in
lemma sameEvent_iff
    (hfault : IsNewestFault names device (first :: others) before newest after) :
    ((decisionForGroup names table device first others).SameEvent
        (routeRecord names device newest) ↔
      ∀ r ∈ before, (routeRecord names device r).transition ≠ some "unknown") ∧
    ((decisionForGroup names table device first others).routable = true →
      (decisionForGroup names table device first others).ingestTimestampNs = none) := by
  have hsplit := hfault.1
  have hmem : ∀ r, r ∈ before ∨ r = newest → r ∈ first :: others := by
    intro r hr
    rw [hsplit]
    rcases hr with hr | rfl
    · exact List.mem_append_left _ hr
    · exact List.mem_append_right _ List.mem_cons_self
  have hnewest := hgroup newest (hmem newest (.inr rfl))
  have hbefore : ∀ r ∈ before, (routeRecord names device r).transition = some "up" ∨
      (routeRecord names device r).transition = some "unknown" := by
    intro r hr
    have hkey : groupKey r = groupKey newest := by rw [hgroup r (hmem r (.inl hr)), hnewest]
    have hrefused := (routable_of_group hkey hfault.2.1).not.mp
      (by rw [hfault.2.2 r hr]; exact Bool.false_ne_true)
    by_contra hneither
    rw [not_or] at hneither
    exact hrefused hneither
  have hmatched : ∀ r ∈ first :: others,
      (routeRecord names device r).matched = some key.1 := by
    intro r hr
    rw [(matched_routeRecord r).1, mnemonic_of_groupKey (hgroup r hr)]
  by_cases hup : ∀ r ∈ before, (routeRecord names device r).transition = some "up"
  · have hpolicy := applyTriggerPolicy_routable (hmatched newest (hmem newest (.inr rfl)))
      (matched_routeRecord newest).2 htrigger hfires hfault.2.1
    rw [decisionForGroup_of_find (find_newestFault hfault hup)]
    refine ⟨iff_of_true hpolicy.1 ?_, fun _ => hpolicy.2⟩
    intro r hr
    rw [hup r hr]
    decide
  · push Not at hup
    obtain ⟨r, hr, hrup⟩ := hup
    have hfound : ∃ chosen, before.find? (fun r => !isRecovery names device r) = some chosen := by
      rw [← Option.isSome_iff_exists, List.find?_isSome]
      exact ⟨r, hr, by simpa [isRecovery] using hrup⟩
    obtain ⟨chosen, hchosen⟩ := hfound
    have hin := List.mem_of_find?_eq_some hchosen
    have hrefused := hfault.2.2 chosen hin
    have hall : (first :: others).find? (fun r => !isRecovery names device r) = some chosen := by
      rw [hsplit, List.find?_append, hchosen]
      rfl
    have hpolicy := applyTriggerPolicy_refused (hmatched chosen (hmem chosen (.inl hin))) htrigger
      hfires hrefused
    rw [decisionForGroup_of_find hall, hpolicy, hrefused]
    refine ⟨iff_of_false ?_ ?_, fun h => by cases h⟩
    · intro hsame
      have hroutable := hsame.routable
      rw [hrefused, hfault.2.1] at hroutable
      cases hroutable
    · intro hnone
      exact hnone r hr ((hbefore r hr).resolve_left hrup)

/-- A group keeps its fault only where it has none. Its decision is about its newest fault exactly
when no newer record is undetermined, and then it is never refused for its age. -/
theorem keepsFault_iff (names : List String) (table : List TriggerEntry) (device : String)
    (first : LokiRecord) (others : List LokiRecord) (key : GroupKey) (trigger : Trigger)
    (hgroup : ∀ r ∈ first :: others, groupKey r = some key)
    (htrigger : triggerFor table key.1 = some trigger) (hfires : trigger.fires = true) :
    (KeepsFault names device (first :: others) (decisionForGroup names table device first others) ↔
      ∀ r ∈ first :: others, (routeRecord names device r).routable = false) ∧
    ∀ before newest after, IsNewestFault names device (first :: others) before newest after →
      ((decisionForGroup names table device first others).SameEvent
          (routeRecord names device newest) ↔
        ∀ r ∈ before, (routeRecord names device r).transition ≠ some "unknown") ∧
      ((decisionForGroup names table device first others).SameEvent
          (routeRecord names device newest) → ∀ digits configured limitText time,
        eventAgeRefusal digits (decisionForGroup names table device first others) configured
          limitText time = .ok none) := by
  have hpart : ∀ before newest after,
      IsNewestFault names device (first :: others) before newest after → _ :=
    fun _ _ _ hfault => sameEvent_iff hgroup htrigger hfires hfault
  constructor
  · constructor
    · intro h
      by_contra hsome
      push Not at hsome
      have hroutable : ∃ r ∈ first :: others, (routeRecord names device r).routable = true := by
        obtain ⟨r, hr, hne⟩ := hsome
        exact ⟨r, hr, by simpa using hne⟩
      obtain ⟨before, newest, after, hfault⟩ := exists_newestFault hroutable
      obtain ⟨hsame, hingest, -⟩ := h before newest after hfault
      have hnone := (hpart before newest after hfault).2 (hsame.routable.trans hfault.2.1)
      rw [hnone, ingest_routeRecord] at hingest
      cases hingest
    · rintro h before newest after ⟨hsplit, hroutable, -⟩
      have hmem : newest ∈ first :: others := by
        rw [hsplit]
        exact List.mem_append_right _ List.mem_cons_self
      rw [h newest hmem] at hroutable
      cases hroutable
  · intro before newest after hfault
    refine ⟨(hpart before newest after hfault).1, ?_⟩
    intro hsame digits configured limitText time
    rw [eventAgeRefusal, (hpart before newest after hfault).2 (hsame.routable.trans hfault.2.1)]

def downRecord : LokiRecord where
  rawEvent := "%PKT_INFRA-LINK-3-UPDOWN : Interface GigabitEthernet0/0/0/0, changed state to Down"
  host := none
  sourceIp := none
  lokiSeverityLabel := none
  ingestTimestampNs := "1787111010065000000"
  timestamp := "Aug 19 03:43:30.065 UTC"
  process := none
  pid := none
  mnemonic := "PKT_INFRA-LINK-3-UPDOWN"
  facility := none
  severity := none
  code := none
  text := "Interface GigabitEthernet0/0/0/0, changed state to Down"

def upRecord : LokiRecord :=
  { downRecord with
    rawEvent := "%PKT_INFRA-LINK-3-UPDOWN : Interface GigabitEthernet0/0/0/0, changed state to Up"
    ingestTimestampNs := "1787111070065000000"
    timestamp := "Aug 19 03:44:30.065 UTC"
    text := "Interface GigabitEthernet0/0/0/0, changed state to Up" }

def downTable : List TriggerEntry :=
  [{ mnemonic := "PKT_INFRA-LINK-3-UPDOWN", trigger := some { fires := true } }]

lemma newestFault_upRecord :
    IsNewestFault ["PE1"] "PE1" [upRecord, downRecord] [upRecord] downRecord [] := by
  refine ⟨rfl, by decide +kernel, ?_⟩
  intro r hr
  rw [List.mem_singleton.mp hr]
  decide +kernel

theorem keepsFault_iff_downRecord :
    (KeepsFault ["PE1"] "PE1" [upRecord, downRecord]
        (decisionForGroup ["PE1"] downTable "PE1" upRecord [downRecord]) ↔
      ∀ r ∈ [upRecord, downRecord], (routeRecord ["PE1"] "PE1" r).routable = false) ∧
    (decisionForGroup ["PE1"] downTable "PE1" upRecord [downRecord]).SameEvent
      (routeRecord ["PE1"] "PE1" downRecord) := by
  have hgroup : ∀ r ∈ [upRecord, downRecord],
      groupKey r = some ("PKT_INFRA-LINK-3-UPDOWN", some "GigabitEthernet0/0/0/0") := by
    rw [List.forall_mem_cons, List.forall_mem_singleton]
    exact ⟨by decide +kernel, by decide +kernel⟩
  have hkeeps := keepsFault_iff ["PE1"] downTable "PE1" upRecord [downRecord]
    ("PKT_INFRA-LINK-3-UPDOWN", some "GigabitEthernet0/0/0/0") { fires := true } hgroup
    (by with_unfolding_all rfl) rfl
  refine ⟨hkeeps.1, (hkeeps.2 [upRecord] downRecord [] newestFault_upRecord).1.mpr ?_⟩
  intro r hr
  rw [List.mem_singleton.mp hr]
  decide +kernel

theorem not_keepsFault_downRecord :
    ¬KeepsFault ["PE1"] "PE1" [downRecord]
      (decisionForGroup ["PE1"] downTable "PE1" downRecord []) := by
  intro h
  have hroutable : (routeRecord ["PE1"] "PE1" downRecord).routable = true := by decide +kernel
  have hingest := (h [] downRecord [] ⟨rfl, hroutable, nofun⟩).2.1
  revert hingest
  decide +kernel

end EventWatch

end NetTools
