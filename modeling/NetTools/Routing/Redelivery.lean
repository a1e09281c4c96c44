import NetTools.EventStore.Events
import NetTools.Library.ListSearch
import NetTools.Routing.Routers

/-!
# Redelivery

The identity of a routing decision leaves the framing of its line out, the payload that is stored
under that identity does not. A second delivery is the same event to the store exactly when it
carries the same decision.
-/

namespace NetTools

/-- What `event_id` keeps of a raw event: the fields of an IOS-XR line, or the whole text. -/
def identityText (u : CharClasses) (rawEvent : String) : String :=
  match matchIosxrSyslogLine u (pyStrip rawEvent) with
  | some parsed =>
    "\x1e".intercalate [parsed.node, parsed.timestamp, parsed.process, parsed.pid,
      parsed.mnemonic, parsed.text]
  | none => rawEvent

/-- The text that `event_id` is the digest of. -/
def RoutingDecision.identityMaterial (u : CharClasses) (d : RoutingDecision) : String :=
  "\x1f".intercalate [d.device.getD "", d.matched.getD "", d.transition.getD "",
    d.subject.getD "", identityText u (d.rawEvent.getD "")]

def RoutingDecision.eventId (u : CharClasses) (digest : String → String) (d : RoutingDecision) :
    String := digest (d.identityMaterial u)

/-- One delivery: the decision on the event, when it was received, and the clock of the store. -/
structure EventDelivery where
  decision : RoutingDecision
  receivedAt : Datetime
  now : Datetime

/-- `envelope.device or "unknown"`. -/
def RoutingDecision.storedDevice (d : RoutingDecision) : String :=
  match d.device with
  | some device => if device = "" then "unknown" else device
  | none => "unknown"

variable (u : CharClasses) (digest : String → String)

/-- The envelope of the decision, and `create_or_get` on its payload. -/
def EventStore.receive (s : EventStore) (x : EventDelivery) :
    Except StoreError ((EventRecord × Bool) × EventStore) :=
  let eventId := x.decision.eventId u digest
  s.createOrGet eventId x.decision.storedDevice (x.decision.envelopePayload eventId x.receivedAt)
    false x.now

def EventStore.receiveAll (s : EventStore) :
    List EventDelivery → Except StoreError (List (EventRecord × Bool) × EventStore)
  | [] => .ok ([], s)
  | x :: xs => do
    let (result, s) ← s.receive u digest x
    let (results, s) ← s.receiveAll xs
    pure (result :: results, s)

/-- After a first delivery of one of the two, every further delivery of either gives the row that
is there and leaves the store as it is. -/
def Idempotent (d₁ d₂ : RoutingDecision) : Prop :=
  ∀ (s s' : EventStore) (first : EventDelivery) (row : EventRecord) (created : Bool),
    first.decision ∈ [d₁, d₂] → s.receive u digest first = .ok ((row, created), s') →
      ∀ later : List EventDelivery, (∀ x ∈ later, x.decision ∈ [d₁, d₂]) →
        s'.receiveAll u digest later = .ok (later.map (fun _ => (row, false)), s')

variable {u digest}

lemma get?_envelopePayload {d : RoutingDecision} {eventId key : String} (t t' : Datetime)
    (h : key ≠ "received_at") :
    (d.envelopePayload eventId t).get? key = (d.envelopePayload eventId t').get? key := by
  have hkey : (key == "received_at") = false := beq_eq_false_iff_ne.mpr h
  simp only [Dict.get?, RoutingDecision.envelopePayload, List.lookup_cons, hkey]

def envelopeKeys : List String :=
  ["schema_version", "event_id", "source_kind", "received_at", "device", "object_type", "subject",
    "matched", "transition", "raw_trigger", "device_time", "source_timestamp_ns",
    "routing_reason", "routable"]

lemma keys_envelopePayload {d : RoutingDecision} {eventId : String} {t : Datetime} :
    (d.envelopePayload eventId t).keys = envelopeKeys := by
  simp only [Dict.keys, RoutingDecision.envelopePayload, List.map_cons, List.map_nil, envelopeKeys]

structure CarriesDecision (payload : Dict) (d : RoutingDecision) : Prop where
  sourceKind : payload.get? "source_kind" = some (.str d.sourceKind)
  device : payload.get? "device" = some (.ofOption d.device)
  flow : payload.get? "object_type" = some (.ofOption d.flow)
  subject : payload.get? "subject" = some (.ofOption d.subject)
  matched : payload.get? "matched" = some (.ofOption d.matched)
  transition : payload.get? "transition" = some (.ofOption d.transition)
  rawEvent : payload.get? "raw_trigger" = some (.ofOption d.rawEvent)
  ingest : payload.get? "source_timestamp_ns" = some (.ofOption d.ingestTimestampNs)
  reason : payload.get? "routing_reason" = some (.str d.reason)
  routable : payload.get? "routable" = some (.bool d.routable)

lemma carriesDecision_envelopePayload (d : RoutingDecision) (eventId : String) (t : Datetime) :
    CarriesDecision (d.envelopePayload eventId t) d := by
  constructor <;> simp [Dict.get?, RoutingDecision.envelopePayload, List.lookup_cons]

lemma isSyslog_envelopePayload {d : RoutingDecision} {eventId : String} {t : Datetime} :
    isSyslog (d.envelopePayload eventId t) = true := by
  have hversion : (d.envelopePayload eventId t).get? "schema_version" = some (.int 2) := by
    simp [Dict.get?, RoutingDecision.envelopePayload]
  have hsource := (carriesDecision_envelopePayload d eventId t).sourceKind
  have htwo : Value.pyEq (.int 2) (.int 2) = true := by simp [Value.pyEq, Value.number?]
  rw [isSyslog, hversion, hsource, Option.any_some, Option.any_some, htwo, Value.isStr]
  rfl

lemma isCampaignPhase_envelopePayload {d : RoutingDecision} {eventId : String} {t : Datetime} :
    isCampaignPhase (d.envelopePayload eventId t) = false := rfl

lemma validateKeys_eq_ok_iff {existing proposed : Dict} {mutableKeys : List String} :
    validateKeys existing proposed mutableKeys = .ok () ↔
      (∀ key ∈ existing.keys, key ∈ proposed.keys) ∧ (∀ key ∈ proposed.keys, key ∈ existing.keys) ∧
        ∀ key ∈ existing.keys, key ∉ mutableKeys → existing.differs proposed key = false := by
  rw [validateKeys]
  constructor
  · intro h
    split at h
    · cases h
    rename_i hkeys
    split at h
    · cases h
    rename_i hdiffer
    rw [Bool.not_eq_true', Bool.not_eq_false, Bool.and_eq_true, List.all_eq_true,
      List.all_eq_true] at hkeys
    refine ⟨fun key hkey => by simpa using hkeys.1 key hkey,
      fun key hkey => by simpa using hkeys.2 key hkey, fun key hkey hfixed => ?_⟩
    rw [List.any_eq_true, not_exists] at hdiffer
    rw [Bool.eq_false_iff]
    intro hdiff
    exact hdiffer key ⟨List.mem_filter.mpr ⟨hkey, by simpa using hfixed⟩, hdiff⟩
  · rintro ⟨hexisting, hproposed, hsame⟩
    have hkeys : (existing.keys.all (· ∈ proposed.keys) &&
        proposed.keys.all (· ∈ existing.keys)) = true := by
      rw [Bool.and_eq_true, List.all_eq_true, List.all_eq_true]
      exact ⟨fun key hkey => by simpa using hexisting key hkey,
        fun key hkey => by simpa using hproposed key hkey⟩
    have hdiffer : ¬ (existing.keys.filter (· ∉ mutableKeys)).any (existing.differs proposed) =
        true := by
      rw [List.any_eq_true]
      rintro ⟨key, hkey, hdiff⟩
      obtain ⟨hmem, hfixed⟩ := List.mem_filter.mp hkey
      rw [hsame key hmem (by simpa using hfixed)] at hdiff
      cases hdiff
    rw [hkeys, if_neg hdiffer]
    rfl

lemma exists_of_pyEqEntries {xs ys : Dict} {key : String} {v : Value}
    (h : Value.pyEqEntries xs ys = true) (hkey : xs.get? key = some v) :
    ∃ w, ys.get? key = some w := by
  induction xs with
  | nil => cases hkey
  | cons entry xs ih =>
    obtain ⟨k, x⟩ := entry
    rw [Value.pyEqEntries, Bool.and_eq_true] at h
    rw [Dict.get?, List.lookup_cons] at hkey
    split at hkey
    · rename_i hsame
      rw [beq_iff_eq] at hsame
      rw [hsame, Dict.get?]
      cases hlookup : ys.lookup k with
      | none =>
        rw [hlookup] at h
        exact absurd h.1 Bool.false_ne_true
      | some w => exact ⟨w, rfl⟩
    · exact ih h.2 hkey

lemma validatePayloadUpdate_later {existing : Dict} {d : RoutingDecision} {eventId : String}
    {t : Datetime} (t' : Datetime) (hkind : EventStore.knownKind existing = true)
    (h : validatePayloadUpdate existing (d.envelopePayload eventId t) = .ok ()) :
    validatePayloadUpdate existing (d.envelopePayload eventId t') = .ok () := by
  rw [validatePayloadUpdate, isSyslog_envelopePayload, isCampaignPhase_envelopePayload,
    Bool.and_true, Bool.and_false] at h ⊢
  cases hsyslog : isSyslog existing with
  | true =>
    rw [hsyslog, if_pos rfl, validateKeys_eq_ok_iff, keys_envelopePayload] at h
    rw [if_pos rfl, validateKeys_eq_ok_iff, keys_envelopePayload]
    obtain ⟨hexisting, hproposed, hsame⟩ := h
    refine ⟨hexisting, hproposed, fun key hkey hfixed => ?_⟩
    have hne : key ≠ "received_at" := by
      rintro rfl
      exact hfixed List.mem_cons_self
    rw [← hsame key hkey hfixed, Dict.differs, Dict.differs, get?_envelopePayload t t' hne]
  | false =>
    rw [EventStore.knownKind, hsyslog, Bool.false_or, isCampaignPhase, Dict.hasText] at hkind
    rw [hsyslog] at h
    simp only [Bool.false_eq_true, if_false] at h
    split at h
    · cases h
    rename_i heq
    rw [Bool.not_eq_true', Bool.not_eq_false, Value.pyEq, Bool.and_eq_true] at heq
    cases hphase : existing.get? "kind" with
    | none =>
      rw [hphase] at hkind
      cases hkind
    | some v =>
      obtain ⟨w, hw⟩ := exists_of_pyEqEntries heq.2 hphase
      have hmissing : (d.envelopePayload eventId t).get? "kind" = none := by
        simp [Dict.get?, RoutingDecision.envelopePayload, List.lookup_cons]
      rw [hmissing] at hw
      cases hw

lemma eq_of_ofOption_pyEq {a b : Option String} (h : (Value.ofOption a).pyEq (Value.ofOption b)) :
    a = b := by
  cases a with
  | none =>
    cases b with
    | none => rfl
    | some b => simp [Value.ofOption, Value.pyEq] at h
  | some a =>
    cases b with
    | none => simp [Value.ofOption, Value.pyEq] at h
    | some b => simpa [Value.ofOption, Value.pyEq] using h

lemma eq_of_validatePayloadUpdate {d₁ d₂ : RoutingDecision} {e₁ e₂ : String} {t₁ t₂ : Datetime}
    (h : validatePayloadUpdate (d₁.envelopePayload e₁ t₁) (d₂.envelopePayload e₂ t₂) = .ok ()) :
    d₁ = d₂ := by
  rw [validatePayloadUpdate, isSyslog_envelopePayload, isSyslog_envelopePayload, Bool.and_self,
    if_pos rfl, validateKeys_eq_ok_iff, keys_envelopePayload] at h
  have hfield : ∀ key ∈ envelopeKeys, key ∉ syslogMutable → ∀ {v w},
      (d₁.envelopePayload e₁ t₁).get? key = some v →
      (d₂.envelopePayload e₂ t₂).get? key = some w → v.pyEq w = true := by
    intro key hkey hfixed v w hv hw
    have hsame := h.2.2 key hkey hfixed
    rw [Dict.differs, hv, hw] at hsame
    simpa using hsame
  have htext : ∀ {a b : String}, (Value.str a).pyEq (.str b) = true → a = b := by
    intro a b hab
    simpa [Value.pyEq] using hab
  have hbool : ∀ {a b : Bool}, (Value.bool a).pyEq (.bool b) = true → a = b := by
    intro a b hab
    cases a <;> cases b <;> simp [Value.pyEq, Value.number?] at hab ⊢
  have h₁ := carriesDecision_envelopePayload d₁ e₁ t₁
  have h₂ := carriesDecision_envelopePayload d₂ e₂ t₂
  have hsource := htext (hfield _ (by decide) (by decide) h₁.sourceKind h₂.sourceKind)
  have hdevice := eq_of_ofOption_pyEq (hfield _ (by decide) (by decide) h₁.device h₂.device)
  have hflow := eq_of_ofOption_pyEq (hfield _ (by decide) (by decide) h₁.flow h₂.flow)
  have hsubject := eq_of_ofOption_pyEq (hfield _ (by decide) (by decide) h₁.subject h₂.subject)
  have hmatched := eq_of_ofOption_pyEq (hfield _ (by decide) (by decide) h₁.matched h₂.matched)
  have htransition :=
    eq_of_ofOption_pyEq (hfield _ (by decide) (by decide) h₁.transition h₂.transition)
  have hraw := eq_of_ofOption_pyEq (hfield _ (by decide) (by decide) h₁.rawEvent h₂.rawEvent)
  have hingest := eq_of_ofOption_pyEq (hfield _ (by decide) (by decide) h₁.ingest h₂.ingest)
  have hreason := htext (hfield _ (by decide) (by decide) h₁.reason h₂.reason)
  have hroutable := hbool (hfield _ (by decide) (by decide) h₁.routable h₂.routable)
  cases d₁
  cases d₂
  simp only at hsource hdevice hflow hsubject hmatched htransition hraw hingest hreason hroutable
  rw [hsource, hdevice, hflow, hsubject, hmatched, htransition, hraw, hingest, hreason, hroutable]

lemma knownKind_envelopePayload {d : RoutingDecision} {eventId : String} {t : Datetime} :
    EventStore.knownKind (d.envelopePayload eventId t) = true := by
  rw [EventStore.knownKind, isSyslog_envelopePayload, Bool.true_or]

lemma pyEq_ofOption_self (a : Option String) : (Value.ofOption a).pyEq (Value.ofOption a) = true := by
  cases a <;> simp [Value.ofOption, Value.pyEq]

lemma pyEq_of_mem_envelopePayload {d : RoutingDecision} {eventId : String} {t : Datetime}
    {entry : String × Value} (h : entry ∈ d.envelopePayload eventId t) :
    entry.2.pyEq entry.2 = true := by
  have hall : (d.envelopePayload eventId t).all (fun entry => entry.2.pyEq entry.2) = true := by
    simp only [RoutingDecision.envelopePayload, List.all_cons, List.all_nil, pyEq_ofOption_self,
      Bool.and_true, Bool.true_and]
    simp [Value.pyEq, Value.number?]
  exact List.all_eq_true.mp hall entry h

lemma validatePayloadUpdate_self {d : RoutingDecision} {eventId : String} (t t' : Datetime) :
    validatePayloadUpdate (d.envelopePayload eventId t) (d.envelopePayload eventId t') = .ok () := by
  have hsame : validatePayloadUpdate (d.envelopePayload eventId t)
      (d.envelopePayload eventId t) = .ok () := by
    rw [validatePayloadUpdate, isSyslog_envelopePayload, Bool.and_self, if_pos rfl,
      validateKeys_eq_ok_iff]
    refine ⟨fun _ h => h, fun _ h => h, fun key _ _ => ?_⟩
    rw [Dict.differs]
    cases hkey : (d.envelopePayload eventId t).get? key with
    | none => rfl
    | some v =>
      have heq := pyEq_of_mem_envelopePayload (ListSearch.mem_of_lookup hkey)
      dsimp only at heq ⊢
      rw [heq]
      rfl
  exact validatePayloadUpdate_later t' knownKind_envelopePayload hsame

lemma receive_again {s s' : EventStore} {x y : EventDelivery} {row : EventRecord} {created : Bool}
    (h : s.receive u digest x = .ok ((row, created), s')) (hsame : y.decision = x.decision) :
    s'.receive u digest y = .ok ((row, false), s') := by
  rw [EventStore.receive, hsame]
  rcases EventStore.createOrGet_cases h with
    ⟨hrow, -, hdevice, hidentity, rfl⟩ | ⟨hnone, hresult, rfl⟩
  · exact EventStore.createOrGet_eq_ok hrow hdevice (fun hkind =>
      validatePayloadUpdate_later y.receivedAt hkind (hidentity hkind))
  · obtain ⟨rfl, -⟩ := Prod.mk.injEq .. ▸ hresult
    exact EventStore.createOrGet_eq_ok (EventStore.get_insertReceived_self hnone) rfl
      (fun _ => validatePayloadUpdate_self x.receivedAt y.receivedAt)

lemma receiveAll_again {s : EventStore} {row : EventRecord} {later : List EventDelivery}
    (h : ∀ x ∈ later, s.receive u digest x = .ok ((row, false), s)) :
    s.receiveAll u digest later = .ok (later.map (fun _ => (row, false)), s) := by
  induction later with
  | nil => rfl
  | cons x xs ih =>
    obtain ⟨hx, hxs⟩ := List.forall_mem_cons.mp h
    have hrest := ih hxs
    simp only [EventStore.receiveAll, hx, hrest, bind, Except.bind, List.map_cons]
    rfl

theorem idempotent_self (d : RoutingDecision) : Idempotent u digest d d := by
  intro s s' first row created hfirst hreceive later hlater
  have hd : first.decision = d := by simpa using hfirst
  apply receiveAll_again
  intro x hx
  have hx : x.decision = d := by simpa using hlater x hx
  exact receive_again hreceive (hx.trans hd.symm)

theorem eq_of_idempotent {d₁ d₂ : RoutingDecision} (hid : d₁.eventId u digest = d₂.eventId u digest)
    (h : Idempotent u digest d₁ d₂) : d₁ = d₂ := by
  let first : EventDelivery := ⟨d₁, ⟨0, 0⟩, ⟨0, 0⟩⟩
  let second : EventDelivery := ⟨d₂, ⟨0, 0⟩, ⟨0, 0⟩⟩
  have hcreated : EventStore.empty.receive u digest first =
      .ok ((EventStore.newEvent (d₁.eventId u digest) d₁.storedDevice
          (d₁.envelopePayload (d₁.eventId u digest) ⟨0, 0⟩) ⟨0, 0⟩, true),
        EventStore.empty.insertReceived (d₁.eventId u digest) d₁.storedDevice
          (d₁.envelopePayload (d₁.eventId u digest) ⟨0, 0⟩) ⟨0, 0⟩) := rfl
  have hagain := h _ _ first _ _ (by simp [first]) hcreated [second] (by simp [second])
  simp only [EventStore.receiveAll, bind, Except.bind] at hagain
  split at hagain
  · cases hagain
  rename_i result hreceive
  obtain ⟨⟨row, created⟩, s'⟩ := result
  rcases EventStore.createOrGet_cases hreceive with
    ⟨hrow, -, -, hidentity, -⟩ | ⟨hnone, -, -⟩
  · rw [← hid, EventStore.get_insertReceived_self rfl] at hrow
    cases hrow
    exact eq_of_validatePayloadUpdate (hidentity knownKind_envelopePayload)
  · rw [← hid, EventStore.get_insertReceived_self rfl] at hnone
    cases hnone

variable {inventory : List String} {device : Option String}

lemma routeIosxrEnvelope_origin (envelope : EventEnvelope) (device : Option String) :
    (routeIosxrEnvelope inventory envelope device).sourceKind = envelope.sourceKind ∧
      (routeIosxrEnvelope inventory envelope device).rawEvent = some envelope.rawEvent := by
  unfold routeIosxrEnvelope
  dsimp only
  repeat' split
  all_goals exact ⟨rfl, rfl⟩

lemma routeIosxrEnvelope_withRaw (envelope : EventEnvelope) (device : Option String)
    (kind raw : String) :
    routeIosxrEnvelope inventory { envelope with sourceKind := kind, rawEvent := raw } device =
      { routeIosxrEnvelope inventory envelope device with
        sourceKind := kind, rawEvent := some raw } := by
  unfold routeIosxrEnvelope
  dsimp only
  repeat' split
  all_goals rfl

theorem eventId_of_sameFields {e e' : EventEnvelope} (hmnemonic : e'.mnemonic = e.mnemonic)
    (htext : e'.text = e.text)
    (hidentity : identityText u e'.rawEvent = identityText u e.rawEvent) :
    (routeIosxrEnvelope inventory e' device).eventId u digest =
      (routeIosxrEnvelope inventory e device).eventId u digest := by
  have he' : e' = { e with sourceKind := e'.sourceKind, rawEvent := e'.rawEvent } := by
    rw [← hmnemonic, ← htext]
  have hraw : (routeIosxrEnvelope inventory e device).rawEvent = some e.rawEvent :=
    (routeIosxrEnvelope_origin e device).2
  rw [he', routeIosxrEnvelope_withRaw, RoutingDecision.eventId, RoutingDecision.eventId,
    RoutingDecision.identityMaterial, RoutingDecision.identityMaterial, hraw]
  simp only [Option.getD_some, hidentity]

theorem eventId_of_sameLine {line line' : String} {parsed : SyslogLine} {host : Option String}
    (h : matchIosxrSyslogLine u (pyStrip line) = some parsed)
    (h' : matchIosxrSyslogLine u (pyStrip line') = some { parsed with host }) :
    (routeSyslogLine inventory u line' device).eventId u digest =
      (routeSyslogLine inventory u line device).eventId u digest := by
  apply eventId_of_sameFields
  · simp only [syslogEnvelope, h, h', Option.map_some]
  · simp only [syslogEnvelope, h, h', Option.map_some]
  · rw [syslogEnvelope, syslogEnvelope, identityText, identityText, h, h']

theorem syslog_idempotent_iff {line line' : String}
    (hid : (routeSyslogLine inventory u line device).eventId u digest =
      (routeSyslogLine inventory u line' device).eventId u digest) :
    Idempotent u digest (routeSyslogLine inventory u line device)
      (routeSyslogLine inventory u line' device) ↔ line = line' := by
  constructor
  · intro h
    have hraw := congrArg RoutingDecision.rawEvent (eq_of_idempotent hid h)
    rw [routeSyslogLine, routeSyslogLine, (routeIosxrEnvelope_origin _ device).2,
      (routeIosxrEnvelope_origin _ device).2] at hraw
    exact Option.some.inj hraw
  · rintro rfl
    exact idempotent_self _

theorem not_idempotent_syslog_loki {line : String} {record : Dict}
    (hid : (routeSyslogLine inventory u line device).eventId u digest =
      (routeLokiRecord inventory record device).eventId u digest) :
    ¬ Idempotent u digest (routeSyslogLine inventory u line device)
      (routeLokiRecord inventory record device) := by
  intro h
  have hsource := congrArg RoutingDecision.sourceKind (eq_of_idempotent hid h)
  have hloki : (routeLokiRecord inventory record device).sourceKind = "loki" :=
    (routeIosxrEnvelope_origin (lokiEnvelope record) device).1
  have hline : (routeSyslogLine inventory u line device).sourceKind = "syslog" :=
    (routeIosxrEnvelope_origin (syslogEnvelope u line) device).1
  rw [hline, hloki] at hsource
  exact absurd hsource (by decide)

/-- Redelivery under one identity is idempotent exactly when the two events have the same routing
decision: the same transport, raw text, source timestamp and verdict. -/
theorem redelivery_idempotent_iff {d₁ d₂ : RoutingDecision}
    (hid : d₁.eventId u digest = d₂.eventId u digest) :
    Idempotent u digest d₁ d₂ ↔ d₁ = d₂ := by
  constructor
  · exact eq_of_idempotent hid
  · rintro rfl
    exact idempotent_self d₁

def bufferLine : String :=
  "RP/0/RP0/CPU0:Aug 16 07:44:06.366 UTC: bgp[1084]: %ROUTING-BGP-5-ADJCHANGE : " ++
    "neighbor 10.255.0.12 Down"

def relayedLine : String := "RR1.sota-xrd " ++ bufferLine

def lineDecision (line : String) : RoutingDecision :=
  routeSyslogLine ["RR1"] .ascii line (some "RR1")

def parsedLine : SyslogLine :=
  ⟨none, "RP/0/RP0/CPU0", "Aug 16 07:44:06.366 UTC", "bgp", "1084", "ROUTING-BGP-5-ADJCHANGE",
    "neighbor 10.255.0.12 Down"⟩

lemma relayedLine_eventId :
    (lineDecision relayedLine).eventId .ascii id = (lineDecision bufferLine).eventId .ascii id := by
  have hbuffer : matchIosxrSyslogLine .ascii (pyStrip bufferLine) = some parsedLine := by
    decide +kernel
  have hrelayed : matchIosxrSyslogLine .ascii (pyStrip relayedLine) =
      some { parsedLine with host := some "RR1.sota-xrd" } := by
    decide +kernel
  exact eventId_of_sameLine hbuffer hrelayed

theorem redelivery_idempotent_iff_relayed :
    Idempotent .ascii id (lineDecision relayedLine) (lineDecision bufferLine) ↔
      lineDecision relayedLine = lineDecision bufferLine :=
  redelivery_idempotent_iff relayedLine_eventId

theorem redelivery_fails_relayed :
    (lineDecision relayedLine).eventId .ascii id = (lineDecision bufferLine).eventId .ascii id ∧
      ¬ Idempotent .ascii id (lineDecision relayedLine) (lineDecision bufferLine) := by
  refine ⟨relayedLine_eventId, fun h => ?_⟩
  have hsame : relayedLine = bufferLine := (syslog_idempotent_iff relayedLine_eventId).mp h
  exact absurd hsame (by decide)

end NetTools
