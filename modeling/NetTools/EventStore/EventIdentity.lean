import NetTools.Python.Value

/-!
# Identity of an event payload

`event_identity.py`: which fields of a stored payload may differ in a redelivery.
-/

namespace NetTools

def syslogMutable : List String := ["received_at"]

def campaignMutable : List String :=
  ["phase", "outcome", "rollback_deadline", "ticket_id", "incident_id", "event_id"]

/-- `payload.get(key) == text`. -/
def Dict.hasText (d : Dict) (key text : String) : Bool :=
  match d.get? key with
  | some (.str s) => s == text
  | _ => false

def isSyslog (payload : Dict) : Bool :=
  ((payload.get? "schema_version").any (fun v => v.pyEq (.int 2))) &&
    ((payload.get? "source_kind").any Value.isStr)

def isCampaignPhase (payload : Dict) : Bool := payload.hasText "kind" "campaign_phase"

/-- `existing[key] != proposed[key]` for keys that both have. -/
def Dict.differs (existing proposed : Dict) (key : String) : Bool :=
  match existing.get? key, proposed.get? key with
  | some v, some w => !v.pyEq w
  | _, _ => false

def validateKeys (existing proposed : Dict) (mutableKeys : List String) : Except String Unit :=
  if !(existing.keys.all (· ∈ proposed.keys) && proposed.keys.all (· ∈ existing.keys)) then
    .error "event payload keys differ"
  else if (existing.keys.filter (· ∉ mutableKeys)).any (existing.differs proposed) then
    .error "event payload immutable identity differs"
  else .ok ()

def validatePayloadUpdate (existing proposed : Dict) : Except String Unit :=
  if isSyslog existing && isSyslog proposed then
    validateKeys existing proposed syslogMutable
  else if isCampaignPhase existing && isCampaignPhase proposed then
    validateKeys existing proposed campaignMutable
  else if !(Value.dict existing).pyEq (.dict proposed) then
    .error "event payload identity differs for an unknown or incompatible kind"
  else .ok ()

end NetTools
