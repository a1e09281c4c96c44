import NetTools.Descent.Walk
import NetTools.Egress.Projector

/-!
# Raw log lines for one evidence key

`evidence_expand.py`: the first and the last raw line of a mnemonic and their neighbours, for a key
that the investigation has touched and the window has disclosed. The payload is assembled in plain
text and quoted once.
-/

namespace NetTools

namespace Expansion

def LOG_EVIDENCE_KEY_PREFIX : String := "logs"

def MAX_NEIGHBOR_LIMIT : Int := 5

def EXPANSION_OK : String := "ok"

def EXPANSION_UNREACHABLE : String := "unreachable"

def EXPANSION_NOT_FOUND_IN_SOURCE : String := "not_found_in_source"

def isStorageKeyChar (c : Char) : Bool := c.isAlphanum || c == '_' || c == '.' || c == '-'

def isValidStorageKey (value : String) : Bool :=
  !(["." , ".."].contains value) && (1 ≤ value.length && value.length ≤ 64) &&
    value.toList.all isStorageKeyChar

def parseLogEvidenceKey (evidenceKey : String) : Except String (String × String) :=
  match (evidenceKey.toList.splitOn ':').map String.ofList with
  | [start, device, mnemonic] =>
    if start ≠ LOG_EVIDENCE_KEY_PREFIX then
      .error ("not a log evidence key (expected 'logs:<device>:<mnemonic>'): " ++
        pyRepr evidenceKey)
    else if isValidStorageKey device && isValidStorageKey mnemonic then .ok (device, mnemonic)
    else .error ("not a valid log evidence key: " ++ pyRepr evidenceKey)
  | _ =>
    .error ("not a log evidence key (expected 'logs:<device>:<mnemonic>'): " ++
      pyRepr evidenceKey)

structure MnemonicAggregate where
  mnemonic : String
  count : Nat

structure DisclosedLogWindow where
  device : String
  aggregates : List MnemonicAggregate

def DisclosedLogWindow.aggregateFor (disclosed : DisclosedLogWindow) (mnemonic : String) :
    Option MnemonicAggregate :=
  disclosed.aggregates.find? (fun agg => agg.mnemonic == mnemonic)

def isMnemonicChar (c : Char) : Bool := c.isAlphanum || c == '_' || c == '-'

/-- `_MNEMONIC_MARKER.search`: the mnemonic of the leftmost marker. -/
def mnemonicMarker : List Char → Option String
  | [] => none
  | c :: cs =>
    let rest := (c :: cs).drop 4
    let name := rest.takeWhile isMnemonicChar
    if "]: %".toList <+: c :: cs ∧ name ≠ [] ∧ " : ".toList <+: rest.drop name.length then
      some (String.ofList name)
    else mnemonicMarker cs

def rawLines (rawLogText : String) : List String :=
  ((splitLines rawLogText).map pyStrip).filter (· ≠ "")

def indicesForMnemonic (lines : List String) (mnemonic : String) : List Nat :=
  (List.range lines.length).filter
    (fun index => mnemonicMarker (lines.getD index "").toList == some mnemonic)

def neighborIndices (total anchor limit : Nat) : List Nat × List Nat :=
  (List.range' (anchor - limit) (anchor - (anchor - limit)),
    List.range' (anchor + 1) (min total (anchor + limit + 1) - (anchor + 1)))

def occurrence (lines : List String) (index : Nat) : Value :=
  .dict [("position", .int index), ("line", .str (lines.getD index ""))]

def occurrences (lines : List String) (indices : List Nat) : Value :=
  .list (indices.map (occurrence lines))

def RAW_TEXT_FIELDS : List String := ["line"]

def isRawText (key : String) : Bool := decide (key ∈ RAW_TEXT_FIELDS)

def walker : Walker :=
  ⟨fun _ _ => none, isRawText, fun text budget => (.str (quoteDeviceText text), budget)⟩

def quoteRawFields (payload : Value) : Value := (walker.walk payload 0).1

def touchedDevices (result : DescentResult) : List String :=
  sortedNames (result.device :: result.outcomes.map RungOutcome.device)

def unreachable (reason : String) : Dict :=
  [("status", .str EXPANSION_UNREACHABLE), ("reason", .str reason)]

def expandLines (lines : List String) (mnemonic : String) (count limit : Nat) : Dict :=
  match indicesForMnemonic lines mnemonic with
  | [] =>
    [("status", .str EXPANSION_NOT_FOUND_IN_SOURCE), ("tier2_count", .int count),
      ("reason", .str ("tier 1/2 disclosed this mnemonic, but no matching raw line was found in " ++
        "the raw source given to this call -- the raw text does not correspond to the window " ++
        "that was disclosed"))]
  | firstIndex :: rest =>
    let lastIndex := (firstIndex :: rest).getLast (List.cons_ne_nil _ _)
    let isSingleton := firstIndex == lastIndex
    let aroundFirst := neighborIndices lines.length firstIndex limit
    let aroundLast :=
      if isSingleton then ([], []) else neighborIndices lines.length lastIndex limit
    [("status", .str EXPANSION_OK), ("tier2_count", .int count),
      ("raw_occurrences_found", .int (firstIndex :: rest).length),
      ("first_occurrence", occurrence lines firstIndex),
      ("last_occurrence", occurrence lines lastIndex),
      ("first_and_last_are_the_same_occurrence", .bool isSingleton),
      ("neighbors_before_first", occurrences lines aroundFirst.1),
      ("neighbors_after_first", occurrences lines aroundFirst.2),
      ("neighbors_before_last", occurrences lines aroundLast.1),
      ("neighbors_after_last", occurrences lines aroundLast.2),
      ("raw_lines_total", .int lines.length)]

/-- An error is the text of a `ValueError`. -/
def expandEvidence (evidenceKey : String) (result : DescentResult) (disclosed : DisclosedLogWindow)
    (rawLogText : String) (storagePointer : Option String) (neighborLimit : Int) :
    Except String Value :=
  if ¬(0 < neighborLimit ∧ neighborLimit ≤ MAX_NEIGHBOR_LIMIT) then
    .error ("neighbor_limit must be between 1 and " ++ toString MAX_NEIGHBOR_LIMIT ++ ", got " ++
      toString neighborLimit)
  else do
    let (device, mnemonic) ← parseLogEvidenceKey evidenceKey
    let base : Dict :=
      [("evidence_key", .str evidenceKey), ("device", .str device), ("mnemonic", .str mnemonic),
        ("finding", .str result.finding), ("neighbor_limit", .int neighborLimit),
        ("storage_pointer", (storagePointer.map Value.str).getD .none),
        ("storage_pointer_available", .bool storagePointer.isSome)]
    let rest :=
      if device ∉ touchedDevices result then
        unreachable ("device " ++ pyRepr device ++ " was never part of this descent (tier 0) " ++
          "-- the investigated devices were " ++ pyReprStrings (touchedDevices result))
      else if device ≠ disclosed.device then
        unreachable ("the disclosed tier-1/2 window is for device " ++ pyRepr disclosed.device ++
          ", not " ++ pyRepr device ++ " -- an evidence key cannot be expanded against a " ++
          "different device's window")
      else
        match disclosed.aggregateFor mnemonic with
        | none =>
          unreachable ("this evidence key was never disclosed at tier 1/2 for this window -- " ++
            "filtered as noise, deduplicated, narrowed by subject, or never collected at all. " ++
            "expand_evidence only drills into evidence already shown; it does not go looking " ++
            "for new evidence")
        | some agg => expandLines (rawLines rawLogText) mnemonic agg.count neighborLimit.toNat
    return quoteRawFields (.dict (base ++ rest))

end Expansion

end NetTools
