import NetTools.Descent.Flows
import NetTools.Library.ListSearch
import NetTools.Routing.Routers

/-!
# Decisions that can be run

A routable decision names a device of the inventory, a flow, and a fault. Its subject is of the
kind that its flow takes exactly when the message or the alert keeps to that kind.
-/

namespace NetTools

open Ipaddress

structure SubjectOfFlow (flow subject : Option String) : Prop where
  bgpSession : flow = some "bgp_session" →
    ∃ address : IPv4Address, subject = some address.text
  interface : flow = some "interface" →
    ∃ name, subject = some name ∧ ∀ label, parseInterfaceName label (.str name) = .ok name

structure Runnable (inventory : List String) (d : RoutingDecision) : Prop where
  device : ∃ device ∈ inventory, d.device = some device
  flow : ∃ flow ∈ flows, d.flow = some flow.objectType
  transition : d.transition = some "down" ∨ d.transition = none
  subject : SubjectOfFlow d.flow d.subject

/-- Every routable decision among `ds` can be run. -/
def AllRunnable (inventory : List String) (ds : List RoutingDecision) : Prop :=
  ∀ d ∈ ds, d.routable = true → Runnable inventory d

variable {inventory : List String} {repr : Value → String} {u : CharClasses}

/-- A name that `_validated_device` lets through. -/
def KnownDevice (inventory : List String) (name : Option Value) (device : String) : Prop :=
  name = some (.str device) ∧ device ≠ "" ∧ device ∈ inventory

lemma validatedDevice_ok_iff {name : Option Value} {device : String} :
    validatedDevice inventory name = .ok device ↔ KnownDevice inventory name device := by
  rw [KnownDevice]
  unfold validatedDevice
  split
  · rename_i given
    constructor
    · intro h
      split at h
      · cases h
      rename_i hne
      split at h
      · cases h
      rename_i hmem
      cases h
      exact ⟨rfl, hne, not_not.mp hmem⟩
    · rintro ⟨hname, hne, hmem⟩
      cases hname
      rw [if_neg hne, if_neg (not_not.mpr hmem)]
  · rename_i hother
    constructor
    · intro h
      cases h
    · rintro ⟨hname, -, -⟩
      exact absurd hname (hother device)

lemma flow_bgpSession : ∃ flow ∈ flows, some "bgp_session" = some flow.objectType :=
  ⟨bgpSessionFlow, by simp [flows], rfl⟩

lemma flow_interface : ∃ flow ∈ flows, some "interface" = some flow.objectType :=
  ⟨interfaceFlow, by simp [flows], rfl⟩

/-- The mnemonics of the `interface` flow. -/
def interfaceMnemonics : List String := ["PKT_INFRA-LINK-3-UPDOWN", "PKT_INFRA-LINEPROTO-5-UPDOWN"]

/-- An interface that goes down on a known device is not named with two points in a row. -/
def MessageFits (inventory : List String) (envelope : EventEnvelope) (device : Option String) :
    Prop :=
  ∀ mnemonic ∈ interfaceMnemonics, ∀ text name subject, envelope.mnemonic = some mnemonic →
    envelope.text = some text → KnownDevice inventory (device.map Value.str) name →
      interfaceTransition text = "down" → interfaceSubject text = some subject →
        hasDoubleDot subject.toList = false

lemma mnemonicFlowTable_cases {mnemonic flow : String} {extract : String → Option String}
    (h : mnemonicFlowTable.lookup mnemonic = some (flow, extract)) :
    (flow = "bgp_session" ∧ extract = ipv4Subject ∧
        ∀ text, transitionFor mnemonic text = some (bgpTransition text)) ∨
      (flow = "interface" ∧ extract = interfaceSubject ∧ mnemonic ∈ interfaceMnemonics ∧
        ∀ text, transitionFor mnemonic text = some (interfaceTransition text)) := by
  have hmem := ListSearch.mem_of_lookup h
  simp only [mnemonicFlowTable, List.mem_cons, Prod.mk.injEq, List.not_mem_nil, or_false] at hmem
  rcases hmem with ⟨rfl, rfl, rfl⟩ | ⟨rfl, rfl, rfl⟩ | ⟨rfl, rfl, rfl⟩
  · exact .inl ⟨rfl, rfl, fun _ => rfl⟩
  · exact .inr ⟨rfl, rfl, by decide, fun _ => rfl⟩
  · exact .inr ⟨rfl, rfl, by decide, fun _ => rfl⟩

lemma lookup_interfaceMnemonics {mnemonic : String} (h : mnemonic ∈ interfaceMnemonics) :
    mnemonicFlowTable.lookup mnemonic = some ("interface", interfaceSubject) ∧
      ∀ text, transitionFor mnemonic text = some (interfaceTransition text) := by
  simp only [interfaceMnemonics, List.mem_cons, List.not_mem_nil, or_false] at h
  rcases h with rfl | rfl
  · exact ⟨rfl, fun _ => rfl⟩
  · exact ⟨rfl, fun _ => rfl⟩

lemma routeIosxrEnvelope_routable {envelope : EventEnvelope} {device : Option String}
    (h : (routeIosxrEnvelope inventory envelope device).routable = true) :
    ∃ mnemonic text flow extract name subject, envelope.mnemonic = some mnemonic ∧
      envelope.text = some text ∧ mnemonicFlowTable.lookup mnemonic = some (flow, extract) ∧
      KnownDevice inventory (device.map Value.str) name ∧ extract text = some subject ∧
      transitionFor mnemonic text ≠ some "up" ∧ transitionFor mnemonic text ≠ some "unknown" ∧
      (routeIosxrEnvelope inventory envelope device).flow = some flow ∧
      (routeIosxrEnvelope inventory envelope device).device = some name ∧
      (routeIosxrEnvelope inventory envelope device).subject = some subject ∧
      (routeIosxrEnvelope inventory envelope device).transition = transitionFor mnemonic text := by
  rw [routeIosxrEnvelope] at h ⊢
  cases hmnemonic : envelope.mnemonic with
  | none => simp [hmnemonic] at h
  | some mnemonic =>
    cases htext : envelope.text with
    | none => simp [hmnemonic, htext] at h
    | some text =>
      simp only [hmnemonic, htext] at h ⊢
      cases hentry : mnemonicFlowTable.lookup mnemonic with
      | none => simp [hentry] at h
      | some entry =>
        obtain ⟨flow, extract⟩ := entry
        simp only [hentry] at h ⊢
        cases hdevice : validatedDevice inventory (device.map Value.str) with
        | error problem => simp [hdevice] at h
        | ok name =>
          simp only [hdevice] at h ⊢
          cases hsubject : extract text with
          | none => simp [hsubject] at h
          | some subject =>
            simp only [hsubject] at h ⊢
            by_cases hup : transitionFor mnemonic text = some "up"
            · simp [hup] at h
            · by_cases hunknown : transitionFor mnemonic text = some "unknown"
              · simp [hunknown] at h
              · simp only [if_neg hup, if_neg hunknown]
                exact ⟨mnemonic, text, flow, extract, name, subject, rfl, rfl, hentry,
                  validatedDevice_ok_iff.mp hdevice, hsubject, hup, hunknown, rfl, rfl, rfl, rfl⟩

lemma routeIosxrEnvelope_interface {envelope : EventEnvelope} {device : Option String}
    {mnemonic text name subject : String} (hinterface : mnemonic ∈ interfaceMnemonics)
    (hmnemonic : envelope.mnemonic = some mnemonic) (htext : envelope.text = some text)
    (hdevice : KnownDevice inventory (device.map Value.str) name)
    (hdown : interfaceTransition text = "down") (hsubject : interfaceSubject text = some subject) :
    (routeIosxrEnvelope inventory envelope device).routable = true ∧
      (routeIosxrEnvelope inventory envelope device).flow = some "interface" ∧
      (routeIosxrEnvelope inventory envelope device).subject = some subject := by
  obtain ⟨hentry, htransition⟩ := lookup_interfaceMnemonics hinterface
  have hvalid := validatedDevice_ok_iff.mpr hdevice
  have hnotUp : ¬ (some "down" : Option String) = some "up" := by decide
  have hnotUnknown : ¬ (some "down" : Option String) = some "unknown" := by decide
  rw [routeIosxrEnvelope]
  simp only [hmnemonic, htext, hentry, hvalid, hsubject, htransition, hdown, if_neg hnotUp,
    if_neg hnotUnknown, and_self]

theorem runnable_iosxr_iff {envelope : EventEnvelope} {device : Option String} :
    ((routeIosxrEnvelope inventory envelope device).routable = true →
        Runnable inventory (routeIosxrEnvelope inventory envelope device)) ↔
      MessageFits inventory envelope device := by
  constructor
  · intro h mnemonic hinterface text name subject hmnemonic htext hdevice hdown hsubject
    obtain ⟨hroutable, hflow, hcarried⟩ := routeIosxrEnvelope_interface hinterface hmnemonic htext
      hdevice hdown hsubject
    obtain ⟨given, hgiven, hparse⟩ := (h hroutable).subject.interface hflow
    rw [hcarried, Option.some.injEq] at hgiven
    rw [hgiven]
    exact (parseInterfaceName_ok_iff.mp (hparse "")).2
  · intro hfits hroutable
    obtain ⟨mnemonic, text, flow, extract, name, subject, hmnemonic, htext, hentry, hdevice,
      hsubject, hup, hunknown, hflow, hname, hcarried, htransition⟩ :=
      routeIosxrEnvelope_routable hroutable
    have hknown : ∃ device' ∈ inventory,
        (routeIosxrEnvelope inventory envelope device).device = some device' :=
      ⟨name, hdevice.2.2, hname⟩
    rcases mnemonicFlowTable_cases hentry with
      ⟨rfl, rfl, hdirection⟩ | ⟨rfl, rfl, hinterface, hdirection⟩
    · rw [hdirection text] at hup hunknown htransition
      have hdown : bgpTransition text = "down" := by
        rcases bgpTransition_cases text with h | h | h
        · exact h
        · exact absurd (congrArg some h) hup
        · exact absurd (congrArg some h) hunknown
      obtain ⟨address, haddress⟩ := ipv4Subject_canonical hsubject
      refine ⟨hknown, hflow ▸ flow_bgpSession, .inl (hdown ▸ htransition), ?_, ?_⟩
      · intro _
        exact ⟨address, haddress ▸ hcarried⟩
      · intro hother
        rw [hflow] at hother
        exact absurd hother (by decide)
    · rw [hdirection text] at hup hunknown htransition
      have hdown : interfaceTransition text = "down" := by
        rcases interfaceTransition_cases text with h | h | h
        · exact h
        · exact absurd (congrArg some h) hup
        · exact absurd (congrArg some h) hunknown
      have hdots := hfits mnemonic hinterface text name subject hmnemonic htext hdevice hdown
        hsubject
      refine ⟨hknown, hflow ▸ flow_interface, .inl (hdown ▸ htransition), ?_, ?_⟩
      · intro hother
        rw [hflow] at hother
        exact absurd hother (by decide)
      · intro _
        exact ⟨subject, hcarried, fun label =>
          parseInterfaceName_ok_iff.mpr ⟨interfaceSubject_shape hsubject, hdots⟩⟩

/-- An alert that fires for a known device, with its name and the subject label it carries. -/
def Fires (inventory : List String) (alert : Value) (alertname given : String) : Prop :=
  ∃ fields, alert = .dict fields ∧ Dict.hasText fields "status" "resolved" = false ∧
    (alertLabels fields).get? "alertname" = some (.str alertname) ∧
    (∃ device, KnownDevice inventory (alertDevice (alertLabels fields)) device) ∧
    (alertLabels fields).get? "subject" = some (.str given)

/-- A session alert does not carry an interface name, and an interface alert carries neither an
address nor a name with two points in a row. -/
def AlertFits (inventory : List String) (alert : Value) : Prop :=
  ∀ given,
    (Fires inventory alert "BgpSessionDown" given →
      isInterfaceShape (pyStrip given).toList = false) ∧
    (Fires inventory alert "InterfaceDown" given →
      IPv4Address.ofText (pyStrip given) = none ∧
        (isInterfaceShape (pyStrip given).toList = true →
          hasDoubleDot (pyStrip given).toList = false))

lemma isInterfaceShape_of_ofText {text : String} {address : IPv4Address}
    (h : IPv4Address.ofText text = some address) : isInterfaceShape text.toList = false := by
  obtain ⟨c, cs, htext, hdigit⟩ := IPv4Address.head_of_ofText h
  have halpha : c.isAlpha = false := by
    rw [Bool.eq_false_iff]
    intro hc
    simp only [Char.isDigit, isAlpha_eq, Bool.or_eq_true, Bool.and_eq_true, decide_eq_true_eq,
      ge_iff_le, UInt32.le_iff_toNat_le] at hdigit hc
    have hnine : '9'.val.toNat = 57 := rfl
    have hupper : 'A'.val.toNat = 65 := rfl
    have hlower : 'a'.val.toNat = 97 := rfl
    omega
  rw [htext, isInterfaceShape, halpha, Bool.false_and, Bool.false_and]

lemma routeAlert_routable {alert : Value} (h : (routeAlert inventory repr alert).routable = true) :
    ∃ alertname flow given subject device, Fires inventory alert alertname given ∧
      alertnameFlowTable.lookup alertname = some flow ∧ device ∈ inventory ∧
      validatedSubject (some (.str given)) = some subject ∧
      (routeAlert inventory repr alert).flow = some flow ∧
      (routeAlert inventory repr alert).device = some device ∧
      (routeAlert inventory repr alert).subject = some subject ∧
      (routeAlert inventory repr alert).transition = none := by
  unfold routeAlert at h ⊢
  split at h
  · rename_i fields
    dsimp only at h ⊢
    split at h
    · cases h
    rename_i hfiring
    rw [if_neg hfiring]
    split at h
    · cases h
    rename_i flow hflow
    split at h
    · cases h
    rename_i device hdevice
    split at h
    · cases h
    rename_i subject hsubject
    obtain ⟨alertname, hmatched, hlookup⟩ := Option.bind_eq_some_iff.mp hflow
    have hname : (alertLabels fields).get? "alertname" = some (.str alertname) := by
      unfold textOnly at hmatched
      split at hmatched
      · rename_i hlabel
        cases hmatched
        exact hlabel
      · cases hmatched
    have hknown := validatedDevice_ok_iff.mp hdevice
    have hgiven : ∃ given, (alertLabels fields).get? "subject" = some (.str given) := by
      unfold validatedSubject at hsubject
      split at hsubject
      · rename_i given hlabel
        exact ⟨given, hlabel⟩
      · cases hsubject
    obtain ⟨given, hgiven⟩ := hgiven
    have hresolved : Dict.hasText fields "status" "resolved" = false :=
      Bool.eq_false_iff.mpr hfiring
    rw [hgiven] at hsubject
    exact ⟨alertname, flow, given, subject, device,
      ⟨fields, rfl, hresolved, hname, ⟨device, hknown⟩, hgiven⟩, hlookup, hknown.2.2, hsubject,
      rfl, rfl, rfl, rfl⟩
  · cases h

lemma routeAlert_fires (repr : Value → String) {alert : Value} {alertname given flow subject : String}
    (h : Fires inventory alert alertname given)
    (hflow : alertnameFlowTable.lookup alertname = some flow)
    (hsubject : validatedSubject (some (.str given)) = some subject) :
    (routeAlert inventory repr alert).routable = true ∧
      (routeAlert inventory repr alert).flow = some flow ∧
      (routeAlert inventory repr alert).subject = some subject := by
  obtain ⟨fields, rfl, hresolved, hname, ⟨device, hdevice⟩, hgiven⟩ := h
  have hvalid := validatedDevice_ok_iff.mpr hdevice
  have hmatched : textOnly ((alertLabels fields).get? "alertname") = some alertname := by
    rw [hname]
    rfl
  rw [routeAlert]
  simp only [hresolved, Bool.false_eq_true, if_false, hmatched, Option.bind_some, hflow, hvalid,
    hgiven, hsubject, and_self]

lemma validatedSubject_address {given : String} {address : IPv4Address}
    (h : IPv4Address.ofText (pyStrip given) = some address) :
    validatedSubject (some (.str given)) = some address.text := by
  simp only [validatedSubject, h]

lemma validatedSubject_name {given : String} (h : IPv4Address.ofText (pyStrip given) = none)
    (hshape : isInterfaceShape (pyStrip given).toList = true) :
    validatedSubject (some (.str given)) = some (pyStrip given) := by
  simp only [validatedSubject, h, hshape, if_true]

lemma validatedSubject_cases {given subject : String}
    (h : validatedSubject (some (.str given)) = some subject) :
    (∃ address, IPv4Address.ofText (pyStrip given) = some address ∧ subject = address.text) ∨
      (IPv4Address.ofText (pyStrip given) = none ∧
        isInterfaceShape (pyStrip given).toList = true ∧ subject = pyStrip given) := by
  simp only [validatedSubject] at h
  split at h
  · rename_i address haddress
    cases h
    exact .inl ⟨address, haddress, rfl⟩
  · rename_i hnone
    split at h
    · rename_i hshape
      cases h
      exact .inr ⟨hnone, hshape, rfl⟩
    · cases h

theorem runnable_alert_iff {alert : Value} :
    ((routeAlert inventory repr alert).routable = true →
        Runnable inventory (routeAlert inventory repr alert)) ↔ AlertFits inventory alert := by
  constructor
  · intro h given
    constructor
    · intro hfires
      rw [Bool.eq_false_iff]
      intro hshape
      have hnone : IPv4Address.ofText (pyStrip given) = none := by
        rw [Option.eq_none_iff_forall_ne_some]
        intro address haddress
        rw [isInterfaceShape_of_ofText haddress] at hshape
        cases hshape
      obtain ⟨hroutable, hflow, hsubject⟩ := routeAlert_fires repr hfires rfl
        (validatedSubject_name hnone hshape)
      obtain ⟨address, haddress⟩ := (h hroutable).subject.bgpSession hflow
      rw [hsubject, Option.some.injEq] at haddress
      rw [haddress, address.ofText_text] at hnone
      cases hnone
    · intro hfires
      have hname : ∀ subject, validatedSubject (some (.str given)) = some subject →
          isInterfaceShape subject.toList = true ∧ hasDoubleDot subject.toList = false := by
        intro subject hvalid
        obtain ⟨hroutable, hflow, hsubject⟩ := routeAlert_fires repr hfires rfl hvalid
        obtain ⟨name, hcarried, hparse⟩ := (h hroutable).subject.interface hflow
        rw [hsubject, Option.some.injEq] at hcarried
        rw [hcarried]
        exact parseInterfaceName_ok_iff.mp (hparse "")
      cases hnone : IPv4Address.ofText (pyStrip given) with
      | none => exact ⟨rfl, fun hshape => (hname _ (validatedSubject_name hnone hshape)).2⟩
      | some address =>
        have hshape := (hname _ (validatedSubject_address hnone)).1
        rw [isInterfaceShape_of_ofText address.ofText_text] at hshape
        cases hshape
  · intro hfits hroutable
    obtain ⟨alertname, flow, given, subject, device, hfires, hlookup, hmem, hvalid, hflow, hdevice,
      hsubject, htransition⟩ := routeAlert_routable hroutable
    have hentry := ListSearch.mem_of_lookup hlookup
    simp only [alertnameFlowTable, List.mem_cons, Prod.mk.injEq, List.not_mem_nil,
      or_false] at hentry
    have hcases := validatedSubject_cases hvalid
    rcases hentry with ⟨rfl, rfl⟩ | ⟨rfl, rfl⟩
    · refine ⟨⟨device, hmem, hdevice⟩, hflow ▸ flow_bgpSession, .inr htransition, ?_, ?_⟩
      · intro _
        rcases hcases with ⟨address, -, rfl⟩ | ⟨-, hshape, -⟩
        · exact ⟨address, hsubject⟩
        · rw [(hfits given).1 hfires] at hshape
          cases hshape
      · intro hother
        rw [hflow] at hother
        exact absurd hother (by decide)
    · obtain ⟨hnone, hdots⟩ := (hfits given).2 hfires
      refine ⟨⟨device, hmem, hdevice⟩, hflow ▸ flow_interface, .inr htransition, ?_, ?_⟩
      · intro hother
        rw [hflow] at hother
        exact absurd hother (by decide)
      · intro _
        rcases hcases with ⟨address, haddress, -⟩ | ⟨-, hshape, rfl⟩
        · rw [hnone] at haddress
          cases haddress
        · exact ⟨pyStrip given, hsubject, fun label =>
            parseInterfaceName_ok_iff.mpr ⟨hshape, hdots hshape⟩⟩

/-- What reaches a router: the raw text of `route_event`, or a Loki record, with the device that
the receiver supplies. -/
inductive RouterInput where
  | event (raw : String) (device : Option String)
  | loki (record : Dict) (device : Option String)

def RouterInput.decisions (inventory : List String) (repr : Value → String) (u : CharClasses)
    (loads : String → Option Value) : RouterInput → List RoutingDecision
  | event raw device => routeEvent inventory repr u loads raw device
  | loki record device => [routeLokiRecord inventory record device]

def RouterInput.Fits (inventory : List String) (u : CharClasses) (loads : String → Option Value) :
    RouterInput → Prop
  | event raw device =>
    if (pyStrip raw).toList.head? = some '\x7b' then
      ∀ payload alerts, loads (pyStrip raw) = some (.dict payload) →
        Dict.get? payload "alerts" = some (.list alerts) → ∀ alert ∈ alerts, AlertFits inventory alert
    else MessageFits inventory (syslogEnvelope u (pyStrip raw)) device
  | loki record device => MessageFits inventory (lokiEnvelope record) device

lemma allRunnable_singleton {d : RoutingDecision} :
    AllRunnable inventory [d] ↔ (d.routable = true → Runnable inventory d) := by
  rw [AllRunnable, List.forall_mem_singleton]

lemma allRunnable_of_not_routable {d : RoutingDecision} (h : d.routable = false) :
    AllRunnable inventory [d] := by
  rw [allRunnable_singleton, h]
  intro hroutable
  cases hroutable

lemma allRunnable_alertmanager_iff {payload : Dict} :
    AllRunnable inventory (routeAlertmanager inventory repr payload) ↔
      ∀ alerts, payload.get? "alerts" = some (.list alerts) →
        ∀ alert ∈ alerts, AlertFits inventory alert := by
  unfold routeAlertmanager
  split
  · rename_i first rest halerts
    rw [AllRunnable, List.forall_mem_map, halerts]
    constructor
    · intro h alerts heq
      cases heq
      exact fun alert hmem => runnable_alert_iff.mp (h alert hmem)
    · intro h alert hmem
      exact runnable_alert_iff.mpr (h _ rfl alert hmem)
  · rename_i hother
    refine iff_of_true (allRunnable_of_not_routable rfl) ?_
    intro alerts halerts alert hmem
    cases alerts with
    | nil => cases hmem
    | cons first rest => exact absurd halerts (hother first rest)

lemma allRunnable_event_iff {loads : String → Option Value} {raw : String}
    {device : Option String} :
    AllRunnable inventory (routeEvent inventory repr u loads raw device) ↔
      (RouterInput.event raw device).Fits inventory u loads := by
  rw [RouterInput.Fits]
  unfold routeEvent
  dsimp only
  split
  · cases hloads : loads (pyStrip raw) with
    | none =>
      refine iff_of_true (allRunnable_of_not_routable rfl) ?_
      intro payload alerts hpayload
      cases hpayload
    | some payload =>
      cases payload with
      | dict fields =>
        dsimp only
        split
        · rw [allRunnable_alertmanager_iff]
          constructor
          · intro h payload alerts hpayload
            cases hpayload
            exact h alerts
          · exact fun h alerts => h fields alerts rfl
        · rename_i hmissing
          refine iff_of_true (allRunnable_of_not_routable rfl) ?_
          intro payload alerts hpayload halerts
          cases hpayload
          rw [halerts] at hmissing
          exact absurd rfl hmissing
      | none | bool | int | float | str | list =>
        refine iff_of_true (allRunnable_of_not_routable rfl) ?_
        intro payload alerts hpayload
        cases hpayload
  · split
    · rename_i hempty
      refine iff_of_true (allRunnable_of_not_routable rfl) ?_
      intro mnemonic _ text name subject hmnemonic
      rw [hempty] at hmnemonic
      cases hmnemonic
    · rw [allRunnable_singleton]
      exact runnable_iosxr_iff

/-- Every routable decision on an input can be run exactly when the input keeps to the kind of
subject of its flow. -/
theorem routable_runnable_iff (inventory : List String) (repr : Value → String) (u : CharClasses)
    (loads : String → Option Value) (input : RouterInput) :
    AllRunnable inventory (input.decisions inventory repr u loads) ↔
      input.Fits inventory u loads := by
  cases input with
  | event raw device =>
    rw [RouterInput.decisions]
    exact allRunnable_event_iff
  | loki record device =>
    rw [RouterInput.decisions, allRunnable_singleton]
    have hsame : ∀ d : RoutingDecision, ∀ ns,
        Runnable inventory { d with ingestTimestampNs := ns } ↔ Runnable inventory d :=
      fun d ns => ⟨fun h => ⟨h.device, h.flow, h.transition, h.subject⟩,
        fun h => ⟨h.device, h.flow, h.transition, h.subject⟩⟩
    have hroute : ((routeLokiRecord inventory record device).routable = true →
        Runnable inventory (routeLokiRecord inventory record device)) ↔
        ((routeIosxrEnvelope inventory (lokiEnvelope record) device).routable = true →
          Runnable inventory (routeIosxrEnvelope inventory (lokiEnvelope record) device)) := by
      rw [routeLokiRecord, hsame]
    rw [hroute]
    exact runnable_iosxr_iff

def interfaceAlert : Value :=
  .dict [("status", .str "firing"),
    ("labels", .dict [("alertname", .str "BgpSessionDown"), ("device", .str "PE2"),
      ("subject", .str "Loopback0")])]

def dottedLine : String :=
  "RP/0/RP0/CPU0:Aug 24 12:00:00.000 UTC: ifmgr[227]: %PKT_INFRA-LINK-3-UPDOWN : " ++
    "Interface Gi0/0/0/0..1, changed state to Down"

def alertText : String :=
  "\x7b\"alerts\": [\x7b\"status\": \"firing\", \"labels\": \x7b\"alertname\": " ++
    "\"BgpSessionDown\", \"device\": \"PE2\", \"subject\": \"Loopback0\"\x7d\x7d]\x7d"

def alertDecisions : List RoutingDecision :=
  (RouterInput.event alertText none).decisions ["PE2"] (fun _ => "") .ascii
    (fun text => if text = alertText then some (.dict [("alerts", .list [interfaceAlert])]) else none)

def lineDecisions : List RoutingDecision :=
  (RouterInput.event dottedLine (some "PE2")).decisions ["PE2"] (fun _ => "") .ascii (fun _ => none)

theorem routable_not_runnable :
    ¬ AllRunnable ["PE2"] alertDecisions ∧ ¬ AllRunnable ["PE2"] lineDecisions := by
  have halert : ∃ d ∈ alertDecisions, d.routable = true ∧ d.flow = some "bgp_session" ∧
      d.subject = some "Loopback0" := by
    decide +kernel
  have hline : ∃ d ∈ lineDecisions, d.routable = true ∧ d.flow = some "interface" ∧
      d.subject = some "Gi0/0/0/0..1" := by
    decide +kernel
  constructor
  · intro h
    obtain ⟨d, hd, hroutable, hflow, hsubject⟩ := halert
    obtain ⟨address, haddress⟩ := (h d hd hroutable).subject.bgpSession hflow
    rw [hsubject, Option.some.injEq] at haddress
    have hread := address.ofText_text
    rw [← haddress] at hread
    have hnone : IPv4Address.ofText "Loopback0" = none := by rfl
    rw [hnone] at hread
    cases hread
  · intro h
    obtain ⟨d, hd, hroutable, hflow, hsubject⟩ := hline
    obtain ⟨name, hname, hparse⟩ := (h d hd hroutable).subject.interface hflow
    rw [hsubject, Option.some.injEq] at hname
    have hdots := (parseInterfaceName_ok_iff.mp (hparse "")).2
    rw [← hname] at hdots
    revert hdots
    decide

end NetTools
