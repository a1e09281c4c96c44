import NetTools.Metrics.Counters

/-!
# The relay policy

`relay_policy.py`: de-duplication of notifications by a file that remembers what was sent. Silences,
owners and deliveries are what the other modules answer, and the file is what reading it and
`json.loads` make of it.
-/

namespace NetTools

namespace Relay

open Metrics (Json)

abbrev JsonObject := List (String × Json)

/-- The bytes of the state file, by what `read_text` and `json.loads` make of them. -/
inductive Content where
  | missing
  /-- The path cannot be looked up, for its length or a directory that may not be searched. -/
  | unsearchable (kind : String)
  | unreadable
  | notUtf8
  | blank
  | malformed
  | unloadable (kind : String)
  | notObject
  | object (state : JsonObject)

abbrev Raised := String

/-- `_load_state`. Its guard around `json.loads` names `JSONDecodeError`, the one around `read_text`
names `OSError`, and `path.exists()` has none. -/
def loadState : Content → Except Raised (JsonObject × Bool)
  | .missing => .ok ([], true)
  | .unsearchable kind => .error kind
  | .unreadable => .ok ([], false)
  | .notUtf8 => .error "UnicodeDecodeError"
  | .blank => .ok ([], true)
  | .malformed => .ok ([], false)
  | .unloadable kind => .error kind
  | .notObject => .ok ([], false)
  | .object state => .ok (state, true)

/-- The functions of the runtime that the module calls; `fromisoformat` gives `none` where it
raises, and for a naive timestamp. The `RecursionError` of a value that nests too deeply is told
apart, for `str` and `repr` and for the indented `json.dumps`. -/
structure Runtime where
  numerals : Metrics.Numerals
  str : Json → String
  repr : Json → String
  tooDeep : Json → Option Raised
  tooDeepToDump : JsonObject → Option Raised
  wholeSeconds : PyFloat → String
  fromisoformat : String → Option Datetime
  str_str : ∀ text, str (.str text) = text
  str_shallow : ∀ text, tooDeep (.str text) = none

def dedupKey (device subject : String) : String := device ++ "\x1f" ++ subject

/-- `[finding, (cause or {}).get("rung")]`. -/
def signatureOf (finding : String) (rung : Option String) : Json :=
  .list [.str finding, (rung.map Json.str).getD .null]

/-- `prior.get("signature") == signature`: the signature is a list of a text and a text or null. -/
def sameSignature (finding : String) (rung : Option String) : Json → Bool
  | .list [.str finding', .null] => finding' == finding && rung.isNone
  | .list [.str finding', .str rung'] => finding' == finding && rung == some rung'
  | _ => false

/-- `prior.get(key)`. -/
def fieldOf (prior : JsonObject) (key : String) : Json := (prior.lookup key).getD .null

/-! ### De-duplication -/

structure Dedup where
  evaluated : Bool
  suppressed : Bool
  stateReadable : Option Bool
  key : String
  signature : Option Json
  windowSeconds : Option PyFloat
  reason : String

/-- `age < window`. -/
def isInside (age : ℚ) : PyFloat → Bool
  | .finite window => age < window
  | .inf negative => !negative
  | .nan => false

variable (R : Runtime)

def evaluateDedup (device subject finding : String) (rung : Option String)
    (content : Option Content) (windowSeconds : PyFloat) (now : Datetime) : Except Raised Dedup :=
  let key := dedupKey device subject
  match content with
  | none => .ok
    { evaluated := false, suppressed := false, stateReadable := none, key
      signature := none, windowSeconds := none
      reason := "NETTOOLS_RELAY_STATE_FILE not set; de-duplication is off" }
  | some content =>
    match loadState content with
    | .error raised => .error raised
    | .ok (state, readable) =>
      let signature := signatureOf finding rung
      let result (suppressed readable : Bool) (reason : String) : Dedup :=
        { evaluated := true, suppressed, stateReadable := some readable, key
          signature := some signature, windowSeconds := some windowSeconds, reason }
      match state.lookup key with
      | some (.dict prior) =>
        if !sameSignature finding rung (fieldOf prior "signature") then
          match R.tooDeep (fieldOf prior "signature") with
          | some raised => .error raised
          | none =>
            .ok (result false readable ("signature changed (" ++
              R.repr (fieldOf prior "signature") ++ " -> " ++ R.repr signature ++
              "); an update is never suppressed regardless of the window"))
        else
          match R.tooDeep (fieldOf prior "last_notified_at") with
          | some raised => .error raised
          | none =>
            match R.fromisoformat (R.str (fieldOf prior "last_notified_at")) with
            | none => .ok (result false false
                "prior record has no usable timestamp; treated as unknown, not as recent")
            | some last =>
              let age := Double.round (now.secondsSince last)
              if isInside age windowSeconds then
                .ok (result true readable ("same signature notified " ++
                  R.wholeSeconds (.finite age) ++ "s ago, inside the " ++
                  R.wholeSeconds windowSeconds ++ "s window"))
              else
                .ok (result false readable ("same signature but " ++
                  R.wholeSeconds (.finite age) ++ "s >= " ++ R.wholeSeconds windowSeconds ++
                  "s window; re-notified as a reminder that this is still open"))
      | _ => .ok (result false readable
          "no prior notification recorded for this device/subject")

def recordOf (device subject finding : String) (rung : Option String) (now : Datetime)
    (count : Int) : JsonObject :=
  [("signature", signatureOf finding rung), ("last_notified_at", .str now.isoformat),
    ("notify_count", .int count), ("device", .str device), ("subject", .str subject)]

/-- `state.get(key)` where it is a dict, or an empty one. -/
def priorOf (state : JsonObject) (key : String) : JsonObject :=
  match state.lookup key with
  | some (.dict prior) => prior
  | _ => []

/-- The `notify_count` of the record before this one, `int(prior.get("notify_count", 0))`. -/
def priorCount (prior : JsonObject) : Except Raised Int :=
  match prior.lookup "notify_count" with
  | none => .ok 0
  | some count =>
    match Metrics.pyInt R.numerals count with
    | .ok n => .ok n
    | .error .value => .error "ValueError"
    | .error .type => .error "TypeError"
    | .error .overflow => .error "OverflowError"

inductive Disk where
  /-- An `OSError` before the text of the state is made. -/
  | noDirectory
  | notWritten
  | written
  /-- Any other exception for the path. -/
  | refused (kind : String)

/-- What `json.dumps` raises for a state: a `ValueError` for an integer that is too long, a
`RecursionError` for values that nest too deeply. -/
def dumpsRaises (state : JsonObject) : Option Raised :=
  if (Json.dict state).fits then R.tooDeepToDump state else some "ValueError"

def saveState (state : JsonObject) : Disk → Except Raised Bool
  | .noDirectory => .ok false
  | .refused kind => .error kind
  | .notWritten => (dumpsRaises R state).elim (.ok false) .error
  | .written => (dumpsRaises R state).elim (.ok true) .error

def recorded (state : JsonObject) (device subject finding : String) (rung : Option String)
    (now : Datetime) (count : Int) : JsonObject :=
  LastRow.assign state (dedupKey device subject)
    (.dict (recordOf device subject finding rung now count))

def recordNotification (device subject finding : String) (rung : Option String)
    (content : Content) (disk : Disk) (now : Datetime) : Except Raised (Content × Bool) :=
  match loadState content with
  | .error raised => .error raised
  | .ok (state, _) =>
    match priorCount R (priorOf state (dedupKey device subject)) with
    | .error raised => .error raised
    | .ok count =>
      let state := recorded state device subject finding rung now (count + 1)
      match saveState R state disk with
      | .error raised => .error raised
      | .ok saved => .ok (if saved then .object state else content, saved)

/-- A record of `notify_owner`. -/
structure Delivery where
  attempted : Bool
  ok : Bool

inductive Decision where
  | silenced
  | suppressed
  | sent
  | noProvider
  | failed
deriving DecidableEq, Repr

def summarize (deliveries : List Delivery) : Decision :=
  if deliveries.any (fun d => d.attempted && d.ok) then .sent
  else if deliveries.all (fun d => d.ok && !d.attempted) then .noProvider
  else .failed

/-- A call of `relay`, with what the silences, the owners' channels and the disk answer. -/
structure RelayCall where
  device : String
  subject : String
  finding : String
  rung : Option String
  now : Datetime
  windowSeconds : PyFloat
  windowSeconds_double : ∀ q, windowSeconds = .finite q → Double.round q = q
  silenced : Bool
  dedupEnabled : Bool
  deliveries : List Delivery
  disk : Disk

structure Relayed where
  outcome : Except Raised (Decision × Option Dedup)
  delivered : Bool

def relay (content : Content) (call : RelayCall) : Content × Relayed :=
  if call.silenced then (content, ⟨.ok (.silenced, none), false⟩)
  else
    match evaluateDedup R call.device call.subject call.finding call.rung
        (if call.dedupEnabled then some content else none) call.windowSeconds call.now with
    | .error raised => (content, ⟨.error raised, false⟩)
    | .ok dedup =>
      if dedup.suppressed then (content, ⟨.ok (.suppressed, some dedup), false⟩)
      else
        let decision := summarize call.deliveries
        if decision = .sent ∧ call.dedupEnabled then
          match recordNotification R call.device call.subject call.finding call.rung content
              call.disk call.now with
          | .error raised => (content, ⟨.error raised, true⟩)
          | .ok (content, _) => (content, ⟨.ok (decision, some dedup), true⟩)
        else (content, ⟨.ok (decision, some dedup), decision = .sent⟩)

end Relay

end NetTools
