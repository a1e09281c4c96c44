import NetTools.Python.Value

/-!
# Evidence

Parsed evidence as the checks of `checks.py` read it, and the verdicts they give.
-/

namespace NetTools

structure Record where
  neighbor : Option String := none
  sessionState : Option String := none
  prefixesReceived : Option Int := none
  interface : Option String := none
  localInterface : Option String := none
  neighborInterface : Option String := none
  systemId : Option String := none
  peerId : Option String := none
  state : Option String := none
  adminState : Option String := none
  lineProtocol : Option String := none
  discoveryInterfaces : List String := []
  counter : Option String := none
  value : Option String := none
  policy : Option String := none
  operationalState : Option String := none
  deriving DecidableEq, Repr

/-- The scalars of a parsed section that some check or comparison reads. -/
structure Meta where
  found : Bool := false
  reason : Option String := none
  connectionState : Option String := none
  state : Option String := none
  stateReason : Option String := none
  socketArmedRead : Option Bool := none
  lastResetReason : Option String := none
  lastResetAgo : Option String := none
  pathCount : Option String := none
  adminState : Option String := none
  lineState : Option String := none
  active : Option Bool := none
  shutdown : Option Bool := none
  ipv4Address : Option String := none
  deriving DecidableEq, Repr

structure Parsed where
  fields : Meta := {}
  records : List Record := []
  deriving DecidableEq, Repr

def PARSE_OK : String := "ok"

def PARSE_UNAVAILABLE : String := "unavailable"

def PARSE_FAILED : String := "failed"

/-- The `data` of one section: what its parser made of the output, and whether it was collected. -/
structure Section where
  parsed : Option Parsed := none
  parseStatus : Option String := none
  status : Option String := none
  deriving DecidableEq, Repr

structure Evidence where
  device : String := "unknown"
  get : String → Option Section

namespace Section

def parsedRecords (sec : Section) : List Record :=
  match sec.parsed with
  | some parsed => parsed.records
  | none => []

def parsedMeta (sec : Section) : Meta :=
  match sec.parsed with
  | some parsed => parsed.fields
  | none => {}

end Section

inductive Status where
  | healthy
  | broken
  | unevaluated
  deriving DecidableEq, Repr

def Status.text : Status → String
  | .healthy => "healthy"
  | .broken => "broken"
  | .unevaluated => "unevaluated"

abbrev DeviceText := { fragments : List String // fragments ≠ [] ∧ "" ∉ fragments }

/-- One verdict about one object. Only an unevaluated verdict may cite no evidence. -/
structure CheckResult where
  status : Status
  reason : Option String := none
  subject : Option String := none
  evidenceKeys : List String := []
  deviceText : Option DeviceText := none
  cites : status ≠ .unevaluated → evidenceKeys ≠ []
  deriving DecidableEq

def quoted (fragments : List (Option String)) : Option DeviceText :=
  let kept := fragments.reduceOption.filter (fun fragment => fragment != "")
  if h : kept = [] then none else some ⟨kept, h, by simp [kept]⟩

def healthy (subject : Option String) (evidenceKeys : List String) (reason : String)
    (deviceText : Option DeviceText := none) (cites : evidenceKeys ≠ [] := by simp) :
    CheckResult :=
  { status := .healthy, reason := some reason, subject, evidenceKeys, deviceText,
    cites := fun _ => cites }

def broken (subject : Option String) (evidenceKeys : List String) (reason : String)
    (deviceText : Option DeviceText := none) (cites : evidenceKeys ≠ [] := by simp) :
    CheckResult :=
  { status := .broken, reason := some reason, subject, evidenceKeys, deviceText,
    cites := fun _ => cites }

def unevaluated (subject : Option String) (reason : String) (evidenceKeys : List String := [])
    (deviceText : Option DeviceText := none) : CheckResult :=
  { status := .unevaluated, reason := some reason, subject, evidenceKeys, deviceText,
    cites := fun h => absurd rfl h }

section Status

variable (subject : Option String) (keys : List String) (reason : String)
  (text : Option DeviceText) (h : keys ≠ [])

@[simp] lemma healthy_status : (healthy subject keys reason text h).status = .healthy := rfl

@[simp] lemma broken_status : (broken subject keys reason text h).status = .broken := rfl

@[simp] lemma unevaluated_status :
    (unevaluated subject reason keys text).status = .unevaluated := rfl

end Status

def evidenceKey (device key : String) (subject : Option String := none) : String :=
  device ++ ":" ++ key ++
    match subject with
    | some text => if text = "" then "" else ":" ++ text
    | none => ""

def requireParsed (evidence : Evidence) (key : String) (subject : Option String) :
    Except CheckResult Section :=
  match evidence.get key with
  | none => .error (unevaluated subject ("no " ++ pyRepr key ++ " section in the evidence"))
  | some sec =>
    if sec.parseStatus = some PARSE_OK then .ok sec
    else if sec.parseStatus = some PARSE_UNAVAILABLE then
      .error (unevaluated subject (pyRepr key ++ " is not available on this platform"))
    else if sec.parseStatus = some PARSE_FAILED then
      .error (unevaluated subject (pyRepr key ++ " did not parse"))
    else
      .error (unevaluated subject
        (pyRepr key ++ " has no parse status (" ++ pyReprOption sec.parseStatus ++ ")"))

def Evidence.Read (evidence : Evidence) (key : String) : Prop :=
  ∃ sec, evidence.get key = some sec ∧ sec.parseStatus = some PARSE_OK

lemma requireParsed_eq_ok_iff {evidence : Evidence} {key : String} {subject : Option String}
    {sec : Section} :
    requireParsed evidence key subject = .ok sec ↔
      evidence.get key = some sec ∧ sec.parseStatus = some PARSE_OK := by
  unfold requireParsed
  cases hget : evidence.get key with
  | none => simp
  | some sec' =>
    dsimp only
    by_cases hok : sec'.parseStatus = some PARSE_OK
    · rw [if_pos hok]
      constructor
      · intro h
        cases h
        exact ⟨rfl, hok⟩
      · rintro ⟨h, -⟩
        cases h
        rfl
    · rw [if_neg hok]
      constructor
      · intro h
        split at h
        · cases h
        · split at h <;> cases h
      · rintro ⟨h, hok'⟩
        cases h
        exact absurd hok' hok

lemma requireParsed_error_status {evidence : Evidence} {key : String} {subject : Option String}
    {bail : CheckResult} (h : requireParsed evidence key subject = .error bail) :
    bail.status = .unevaluated := by
  unfold requireParsed at h
  split at h
  · cases h
    rfl
  · split at h
    · cases h
    · split at h
      · cases h
        rfl
      · split at h
        · cases h
          rfl
        · cases h
          rfl

end NetTools
