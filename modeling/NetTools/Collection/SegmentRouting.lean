import NetTools.Collection.Commands
import NetTools.Library.Pattern
import NetTools.Routing.Syslog

/-!
# The policies of segment routing

`parse_xr_sr`: a block of lines per policy, with a block per candidate path in it. Every line is
accounted for, as `finalize` wants it.
-/

namespace NetTools

namespace SegmentRouting

open Pattern

variable (u : CharClasses)

/-! ### The patterns -/

def litPart (text : String) : Part := .lit text.toList

/-- `\S+`. -/
def words : Part := .run (fun c => !isSpaceChar c) 1 none

/-- `\s+`. -/
def spaces : Part := .run isSpaceChar 1 none

/-- `\d{least,most}`. -/
def digits (least : Nat) (most : Option Nat) : Part := .run u.isDigit least most

def XR_SR_HEADER : List Part :=
  [litPart "Color: ", .group "color" [digits u 1 none], litPart ", End-point: ",
    .group "endpoint" [words]]

def XR_SR_STATUS : List Part :=
  [litPart "Admin: ", .group "admin" [words], spaces, litPart "Operational: ",
    .group "operational" [words], .opt [litPart " for ", .group "duration" [words]],
    .opt [litPart " (since ", .group "since" [.run (· ≠ ')') 1 none], litPart ")"]]

def SR_PREFERENCE : List Part :=
  [litPart "Preference: ", .group "preference" [digits u 1 none],
    litPart " (configuration) (",
    .group "state" [.oneOf ["active".toList, "inactive".toList]], litPart ")", .stop]

def SR_EXPLICIT : List Part :=
  [litPart "Explicit: segment-list ", .group "segment_list" [words], litPart " (",
    .group "state" [.oneOf ["valid".toList, "invalid".toList]], litPart ")", .stop]

def SR_SID : List Part :=
  [litPart "SID[", .group "index" [digits u 1 none], litPart "]: ",
    .group "sid" [digits u 1 none], .stop]

def fixedLine (text : String) : List Part := [litPart text, .stop]

def valueLine (text : String) (value : Part) : List Part := [litPart text, value, .stop]

def SR_IGNORES : List (List Part) :=
  [fixedLine "SR-TE policy database", [.run (· = '-') 1 none, .stop], fixedLine "Status:",
    fixedLine "Candidate-paths:", valueLine "Requested BSID: " words, fixedLine "Constraints:",
    valueLine "Protection Type: " words, valueLine "Maximum SID Depth: " (digits u 1 none),
    [litPart "Weight: ", digits u 1 none, litPart ", Metric Type: ", words, .stop],
    [litPart "Metric Type: ", words, litPart ",", spaces, litPart "Path Accumulated Metric: ",
      digits u 1 none, .stop],
    fixedLine "Attributes:", valueLine "Forward Class: " (.run (· ≠ '\n') 1 none),
    valueLine "Steering labeled-services disabled: " words,
    valueLine "Steering BGP disabled: " words, valueLine "IPv6 caps enable: " words,
    valueLine "Invalidation drop enabled: " words,
    valueLine "Max Install Standby Candidate Paths: " (digits u 1 none)]

def XR_COMMON_IGNORES : List (List Part) :=
  [[.run isSpaceChar 0 none, .stop],
    [.run u.isWord 3 (some 3), litPart " ", .run u.isWord 3 (some 3), spaces, digits u 1 none,
      litPart " ", digits u 2 (some 2), litPart ":", digits u 2 (some 2), litPart ":",
      digits u 2 (some 2), litPart ".", digits u 1 none, litPart " ", .run u.isWord 1 none, .stop]]

/-- `PREAMBLE_PATTERNS["cisco_xr"]`. -/
def XR_PREAMBLE : List Part :=
  let upper := fun least most => Part.run (fun c => 'A' ≤ c ∧ c ≤ 'Z') least most
  let lower := Part.run (fun c => 'a' ≤ c ∧ c ≤ 'z') 2 (some 2)
  [upper 1 (some 1), lower, litPart " ", upper 1 (some 1), lower, spaces, digits u 1 (some 2),
    litPart " ", digits u 2 (some 2), litPart ":", digits u 2 (some 2), litPart ":",
    digits u 2 (some 2), litPart ".", digits u 1 (some 6), litPart " ", upper 2 (some 5), .stop]

/-- `consumed_counts[stripped] -= 1`, `none` when the count is zero. -/
def takeConsumed (consumed : List String) (line : String) : Option (List String) :=
  if line ∈ consumed then some (consumed.erase line) else none

def isIgnored (rules : List (List Part)) (line : String) : Bool :=
  rules.any (fun rule =>
    (matchStart rule line).isSome || (matchStart rule (pyStrip line)).isSome)

inductive Fate where
  | structured
  | presentation
  | unknown
deriving DecidableEq

def fates (rules : List (List Part)) : List String → List String → List (String × Fate)
  | _, [] => []
  | consumed, line :: lines =>
    let stripped := pyStrip line
    if stripped = "" then fates rules consumed lines
    else
      match takeConsumed consumed stripped with
      | some rest => (stripped, .structured) :: fates rules rest lines
      | none =>
        (stripped, if isIgnored rules line then .presentation else .unknown) ::
          fates rules consumed lines

def countOf (fate : Fate) (lines : List (String × Fate)) : Value :=
  .int (lines.filter (fun line => line.2 = fate)).length

def finalize (raw : String) (fields : Dict) (records : List Value) (consumed : List String)
    (ignores : List (List Part)) : Value :=
  let lines := fates (XR_COMMON_IGNORES u ++ ignores) (consumed.map pyStrip) (splitLines raw)
  .dict [("meta", .dict (fields ++
      [("unaccounted_lines", .list ((lines.filter (fun line => line.2 = .unknown)).map
          (fun line => .str line.1))),
        ("unparsed_rows", .int 0),
        ("evidence_accounting", .dict
          [("source_nonblank_lines", .int lines.length),
            ("structured_lines", countOf .structured lines), ("deferred_lines", .int 0),
            ("presentation_lines", countOf .presentation lines),
            ("unknown_lines", countOf .unknown lines), ("malformed_rows", .int 0)])])),
    ("records", .list records)]

/-! ### Policies -/

structure CandidatePath where
  preference : Int
  state : String
  explicit : Option (String × String) := none
  dynamicInactive : Bool := false
  lastError : Option String := none
  sidStack : List (Int × Int) := []

def CandidatePath.toValue (path : CandidatePath) : Value :=
  .dict [("preference", .int path.preference), ("state", .str path.state),
    ("explicit", match path.explicit with
      | some (segmentList, state) =>
        .dict [("segment_list", .str segmentList), ("state", .str state)]
      | none => .none),
    ("dynamic_inactive", .bool path.dynamicInactive),
    ("last_error", (path.lastError.map Value.str).getD .none),
    ("sid_stack", .list (path.sidStack.map
      (fun sid => .dict [("index", .int sid.1), ("sid", .int sid.2)])))]

/-- A policy that is being read, with the paths before the candidate. -/
structure Policy where
  color : String
  endpoint : String
  earlier : List CandidatePath := []
  candidate : Option CandidatePath := none
  name : Option String := none
  adminState : Option String := none
  operationalState : Option String := none
  operationalDuration : Option String := none
  operationalSince : Option String := none
  bindingSid : Option String := none

def Policy.candidatePaths (policy : Policy) : List CandidatePath :=
  policy.earlier ++ policy.candidate.toList

def Policy.optionalFields (policy : Policy) : List (String × Option String) :=
  [("name", policy.name), ("admin_state", policy.adminState),
    ("operational_state", policy.operationalState),
    ("operational_duration", policy.operationalDuration),
    ("operational_since", policy.operationalSince), ("binding_sid", policy.bindingSid)]

def Policy.toValue (policy : Policy) : Value :=
  .dict ([("policy", .str (policy.color ++ ":" ++ policy.endpoint)), ("color", .str policy.color),
      ("endpoint", .str policy.endpoint),
      ("supplemental", .dict
        [("candidate_paths", .list (policy.candidatePaths.map CandidatePath.toValue))])] ++
    policy.optionalFields.filterMap (fun field => field.2.map (fun text => (field.1, .str text))))

/-- The policies read so far, the one that is open, and the lines that were used. -/
structure Reading where
  done : List Policy := []
  current : Option Policy := none
  consumed : List String := []

def Reading.policies (reading : Reading) : List Policy := reading.done ++ reading.current.toList

variable (intOf : String → Int)

/-- `line[len(start):]`. -/
def afterStart (start line : String) : String := String.ofList (line.toList.drop start.length)

def candidateLine (line : String) (path : CandidatePath) : Option CandidatePath :=
  match matchStart SR_EXPLICIT line with
  | some found => some { path with explicit := some (found.text "segment_list", found.text "state") }
  | none =>
    match matchStart (SR_SID u) line with
    | some found => some { path with
        sidStack := path.sidStack ++ [(intOf (found.text "index"), intOf (found.text "sid"))] }
    | none =>
      if line = "Dynamic (inactive)" then some { path with dynamicInactive := true }
      else if pyStartsWith line "Last error: " then
        some { path with lastError := some (afterStart "Last error: " line) }
      else none

def policyLine (line : String) (current : Policy) : Option Policy :=
  if pyStartsWith line "Name: " then
    some { current with name := some (current.name.getD (afterStart "Name: " line)) }
  else
    match matchStart XR_SR_STATUS line with
    | some found => some { current with
        adminState := some (found.text "admin")
        operationalState := some (found.text "operational")
        operationalDuration := (found.text? "duration").or current.operationalDuration
        operationalSince := (found.text? "since").or current.operationalSince }
    | none =>
      if pyStartsWith line "Binding SID: " then
        some { current with
          bindingSid := some (current.bindingSid.getD (afterStart "Binding SID: " line)) }
      else
        match matchStart (SR_PREFERENCE u) line with
        | some found => some { current with
            earlier := current.candidatePaths
            candidate := some
              { preference := intOf (found.text "preference"), state := found.text "state" } }
        | none =>
          match current.candidate with
          | some path =>
            (candidateLine u intOf line path).map
              (fun path => { current with candidate := some path })
          | none => none

def readLine (reading : Reading) (line : String) : Reading :=
  match matchStart (XR_SR_HEADER u) line with
  | some found =>
    { done := reading.policies
      current := some { color := found.text "color", endpoint := found.text "endpoint" }
      consumed := reading.consumed ++ [line] }
  | none =>
    match reading.current with
    | none => reading
    | some current =>
      match policyLine u intOf line current with
      | some policy => { reading with
          current := some policy
          consumed := reading.consumed ++ [line] }
      | none => reading

def readLines (text : String) : Reading :=
  ((splitLines text).map pyStrip).foldl (readLine u intOf) {}

/-- `strip_preamble` of the lines, for IOS-XR. -/
def dropPreamble : List String → List String
  | [] => []
  | line :: lines =>
    let stripped := pyStrip line
    if stripped = "" ∨ (matchStart (XR_PREAMBLE u) stripped).isSome then dropPreamble lines
    else line :: lines

def firstText (outputs : Dict) : String :=
  match outputs with
  | (_, .str text) :: _ => text
  | _ => ""

/-- `none` is a `ParseError`. -/
def parseXrSr (outputs : Dict) : Option Value :=
  let text := firstText outputs
  let reading := readLines u intOf text
  let body := pyStrip ("\n".intercalate (dropPreamble u (splitLines text)))
  if reading.policies = [] ∧ body ≠ "" ∧ !pyContains body "SR-TE policy database" then none
  else some (finalize u text [("policy_count", .int reading.policies.length)]
    (reading.policies.map Policy.toValue) reading.consumed (SR_IGNORES u))

def otherIntents : List String :=
  ["facts", "interfaces", "bgp", "bgp_vpnv4", "lldp", "isis", "ldp", "ldp_discovery"]

variable (others : String → Dict → Option Value)

/-- `PARSERS.get((platform, intent))`; a parser without a result has raised. -/
def parserFor (platform intent : String) : Option (Dict → Option Value) :=
  if platform ≠ "cisco_xr" then none
  else if intent = "sr" then some (parseXrSr u intOf)
  else if intent ∈ otherIntents then some (others intent)
  else none

/-- `parsed.get(key)` has something in it. -/
def holdsSomething (parsed : Value) (key : String) : Bool :=
  match parsed with
  | .dict entries => ((Dict.get? entries key).map Value.truthy).getD false
  | _ => false

def parseIntent (platform intent : String) (outputs : Dict) : Option Value × String :=
  match parserFor u intOf others platform intent with
  | none => (none, "unavailable")
  | some parser =>
    if outputs.all (fun output =>
        match output.2 with
        | .str text => isBlank text
        | _ => true) then
      (none, "failed")
    else
      match parser outputs with
      | none => (none, "failed")
      | some parsed =>
        if holdsSomething parsed "records" || holdsSomething parsed "meta" then (some parsed, "ok")
        else (none, "failed")

end SegmentRouting

end NetTools
