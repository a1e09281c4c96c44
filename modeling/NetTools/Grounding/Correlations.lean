import NetTools.Grounding.Results
import NetTools.Investigation.Payload

/-!
# The gate of a correlation

`ground_correlation`: a claim of absence needs a coverage without gaps, and every entry of a
timeline cites a record of the window.
-/

namespace NetTools

namespace Grounding

variable (repr : Value → String)

def absenceVerdict (coverage : Option Coverage) : GroundingResult :=
  match coverage with
  | none =>
    { refused "unbacked_absence_claim" "correlation.found"
        ("claims no correlating events with no coverage record behind it; absence is only a " ++
          "finding when the completeness of the source is known") with
      absenceClaimsChecked := 1 }
  | some coverage =>
    if coverage.gaps = [] then { absenceClaimsChecked := 1 }
    else
      { refused "absence_claim_exceeds_coverage"
          ("correlation.found via " ++ locus repr (.str coverage.source))
          ("claims no correlating events over incomplete coverage -- " ++
            "; ".intercalate coverage.gaps ++ ". The supportable statement is 'not in the " ++
            "available coverage', which is an unevaluated, not a negative") with
        absenceClaimsChecked := 1 }

def checkAbsenceCoverage (claim : Value) (coverage : Option Coverage) : GroundingResult :=
  match claim with
  | .dict entries =>
    match Dict.get? entries "correlation" with
    | some (.dict correlation) =>
      -- Only the boolean is a claim of absence; a field that is missing or malformed is none.
      match Dict.get? correlation "found" with
      | some (.bool false) => absenceVerdict repr coverage
      | _ => {}
    | _ => {}
  | _ => refused "malformed_report" "correlation" "the correlation result is not a JSON object"

def stampedRecords (records : List Dict) : List (String × String) :=
  records.filterMap fun record =>
    match Dict.get? record "timestamp" with
    | some (.str stamp) =>
      some (stamp, ((Dict.get? record "mnemonic").getD (.str "")).pyStr repr)
    | _ => none

/-- `by_timestamp[stamp]`. -/
def mnemonicsAt (records : List Dict) (stamp : String) : List String :=
  ((stampedRecords repr records).filter (fun record => record.1 = stamp)).map Prod.snd

def checkMnemonic (records : List Dict) (place : String) (stamp mnemonic : Value) :
    Except HashError (List GroundingFailure) := do
  let there := mnemonicsAt repr records (stamp.pyStr repr)
  let stands ← if mnemonic.isStr && mnemonic.truthy then isMember there mnemonic else pure true
  return if stands then [] else
    [⟨"mnemonic_mismatch", place, "cites " ++ reprLocus repr mnemonic ++ " at " ++
      locus repr stamp ++ ", where the window records " ++ ", ".intercalate (sortedNames there)⟩]

def checkTimelineEntry (records : List Dict) (place : String) (entry : Value) :
    Except HashError (List GroundingFailure) :=
  match entry with
  | .dict fields => do
    let stamp := (Dict.get? fields "at").getD .none
    let known ← if stamp.isStr then isMember ((stampedRecords repr records).map Prod.fst) stamp
      else pure false
    if known then
      checkMnemonic repr records place stamp ((Dict.get? fields "mnemonic").getD .none)
    else
      return [⟨"invented_timestamp", place, "cites " ++ reprLocus repr stamp ++
        ", which is not a device timestamp in this window; timestamps are quoted verbatim, " ++
        "never adjusted"⟩]
  | _ => .ok [⟨"malformed_timeline_entry", place, "not a JSON object"⟩]

def checkTimelineEntries (records : List Dict) :
    Nat → List Value → Except HashError (List GroundingFailure)
  | _, [] => .ok []
  | index, entry :: entries => do
    let failures ← checkTimelineEntry repr records ("timeline[" ++ toString index ++ "]") entry
    let rest ← checkTimelineEntries records (index + 1) entries
    return failures ++ rest

def checkTimelineCitations (claim : Value) (window : Option ShapedWindow) :
    Except HashError GroundingResult :=
  match claim with
  | .dict entries =>
    match (Dict.get? entries "timeline").getD .none with
    | .none => .ok {}
    | .list [] => .ok {}
    | .list timeline =>
      match window with
      | none => .ok { refused "uncited_timeline" "timeline" (toString timeline.length ++
          " timeline entries with no window to cite against; a timeline is only a claim about " ++
          "evidence somebody holds") with timelineEntriesChecked := timeline.length }
      | some window => do
        let failures ← checkTimelineEntries repr window.records 1 timeline
        return { failures := failures, timelineEntriesChecked := timeline.length }
    | _ => .ok (refused "malformed_report" "timeline" "'timeline' must be a list")
  | _ => .ok (refused "malformed_report" "correlation"
      "the correlation result is not a JSON object")

def groundCorrelation (claim : Value) (coverage : Option Coverage) (window : Option ShapedWindow) :
    Except HashError GroundingResult := do
  let citations ← checkTimelineCitations repr claim window
  return refuseUnmeasured repr ((checkAbsenceCoverage repr claim coverage).merge citations) claim
    "correlation"

/-! ### What a correlation that passes has behind it -/

/-- `correlation.found` is the boolean `False`. -/
def ClaimsAbsence (entries : Dict) : Prop :=
  ∃ correlation, Dict.get? entries "correlation" = some (.dict correlation) ∧
    Dict.get? correlation "found" = some (.bool false)

/-- A record of the window has the timestamp of the entry, and, where the entry has a mnemonic, one
with that timestamp has the mnemonic too. -/
def Cites (records : List Dict) (entry : Value) : Prop :=
  ∃ fields stamp, entry = .dict fields ∧ Dict.get? fields "at" = some (.str stamp) ∧
    (∃ record ∈ records, Dict.get? record "timestamp" = some (.str stamp)) ∧
    ∀ mnemonic, Dict.get? fields "mnemonic" = some (.str mnemonic) → mnemonic ≠ "" →
      ∃ record ∈ records, Dict.get? record "timestamp" = some (.str stamp) ∧
        ((Dict.get? record "mnemonic").getD (.str "")).pyStr repr = mnemonic

/-- The timeline is missing, or a list whose entries cite the window. -/
inductive TimelineCited (entries : Dict) (window : Option ShapedWindow) : Prop
  | missing (h : (Dict.get? entries "timeline").getD .none = .none)
  | empty (h : Dict.get? entries "timeline" = some (.list []))
  | cited {timeline : List Value} {shaped : ShapedWindow}
      (h : Dict.get? entries "timeline" = some (.list timeline)) (hwindow : window = some shaped)
      (hcites : ∀ entry ∈ timeline, Cites repr shaped.records entry)

lemma checkAbsenceCoverage_ok_iff (entries : Dict) (coverage : Option Coverage) :
    (checkAbsenceCoverage repr (.dict entries) coverage).ok = true ↔
      (ClaimsAbsence entries → ∃ record, coverage = some record ∧ record.gaps = []) := by
  by_cases habsence : ClaimsAbsence entries
  · obtain ⟨correlation, hcorrelation, hfound⟩ := habsence
    have hclaims : ClaimsAbsence entries := ⟨correlation, hcorrelation, hfound⟩
    simp only [checkAbsenceCoverage, hcorrelation, hfound, hclaims, true_imp_iff]
    cases coverage with
    | none =>
      refine ⟨fun h => ?_, fun h => ?_⟩
      · cases h
      · obtain ⟨record, hnone, -⟩ := h
        cases hnone
    | some record =>
      rw [absenceVerdict]
      by_cases hgaps : record.gaps = []
      · rw [if_pos hgaps]
        exact ⟨fun _ => ⟨record, rfl, hgaps⟩, fun _ => rfl⟩
      · rw [if_neg hgaps]
        refine ⟨fun h => ?_, fun h => ?_⟩
        · cases h
        · obtain ⟨record', hsome, hnone⟩ := h
          cases hsome
          exact absurd hnone hgaps
  · have hok : (checkAbsenceCoverage repr (.dict entries) coverage).ok = true := by
      rw [checkAbsenceCoverage]
      split
      · rename_i correlation hcorrelation
        split
        · rename_i hfound
          exact absurd ⟨correlation, hcorrelation, hfound⟩ habsence
        · rfl
      · rfl
    exact ⟨fun _ h => absurd h habsence, fun _ => hok⟩

lemma mem_stampedRecords {records : List Dict} {stamp mnemonic : String} :
    (stamp, mnemonic) ∈ stampedRecords repr records ↔
      ∃ record ∈ records, Dict.get? record "timestamp" = some (.str stamp) ∧
        ((Dict.get? record "mnemonic").getD (.str "")).pyStr repr = mnemonic := by
  rw [stampedRecords, List.mem_filterMap]
  constructor
  · rintro ⟨record, hrecord, hstamped⟩
    split at hstamped
    · rename_i found hfound
      cases hstamped
      exact ⟨record, hrecord, hfound, rfl⟩
    · cases hstamped
  · rintro ⟨record, hrecord, hfound, rfl⟩
    refine ⟨record, hrecord, ?_⟩
    rw [hfound]

lemma mem_stamps {records : List Dict} {stamp : String} :
    stamp ∈ (stampedRecords repr records).map Prod.fst ↔
      ∃ record ∈ records, Dict.get? record "timestamp" = some (.str stamp) := by
  rw [List.mem_map]
  constructor
  · rintro ⟨⟨stamp', mnemonic⟩, hmem, rfl⟩
    obtain ⟨record, hrecord, hfound, -⟩ := (mem_stampedRecords repr).mp hmem
    exact ⟨record, hrecord, hfound⟩
  · rintro ⟨record, hrecord, hfound⟩
    exact ⟨_, (mem_stampedRecords repr).mpr ⟨record, hrecord, hfound, rfl⟩, rfl⟩

lemma mem_mnemonicsAt {records : List Dict} {stamp mnemonic : String} :
    mnemonic ∈ mnemonicsAt repr records stamp ↔
      ∃ record ∈ records, Dict.get? record "timestamp" = some (.str stamp) ∧
        ((Dict.get? record "mnemonic").getD (.str "")).pyStr repr = mnemonic := by
  rw [← mem_stampedRecords, mnemonicsAt, List.mem_map]
  constructor
  · rintro ⟨⟨stamp', mnemonic'⟩, hmem, rfl⟩
    rw [List.mem_filter, decide_eq_true_eq] at hmem
    obtain ⟨hmem, rfl⟩ := hmem
    exact hmem
  · intro hmem
    exact ⟨(stamp, mnemonic), List.mem_filter.mpr ⟨hmem, decide_eq_true rfl⟩, rfl⟩

lemma isMember_str (names : List String) (text : String) :
    isMember names (.str text) = .ok (decide (text ∈ names)) := rfl

lemma checkMnemonic_spec (records : List Dict) (place stamp : String) (mnemonic : Value) :
    ∃ failures, checkMnemonic repr records place (.str stamp) mnemonic = .ok failures ∧
      (failures = [] ↔ ∀ text, mnemonic = .str text → text ≠ "" →
        text ∈ mnemonicsAt repr records stamp) := by
  rw [checkMnemonic]
  cases mnemonic with
  | str text =>
    by_cases hempty : text = ""
    · rw [hempty]
      exact ⟨[], rfl, by simp⟩
    · have htruthy : ((Value.str text).isStr && (Value.str text).truthy) = true := by
        simp [Value.isStr, Value.truthy, hempty]
      rw [if_pos htruthy, isMember_str]
      by_cases hthere : text ∈ mnemonicsAt repr records stamp
      · refine ⟨[], ?_, by simp [hthere]⟩
        change Except.ok (if decide (text ∈ mnemonicsAt repr records stamp) = true then _ else _) = _
        rw [if_pos (decide_eq_true hthere)]
      · refine ⟨_, rfl, ?_⟩
        change (if decide (text ∈ mnemonicsAt repr records stamp) = true then _ else _) = [] ↔ _
        rw [decide_eq_false hthere]
        simp [hthere, hempty]
  | _ => exact ⟨[], rfl, by simp⟩

lemma getD_eq_str_iff {entries : Dict} {key text : String} :
    (Dict.get? entries key).getD .none = .str text ↔ Dict.get? entries key = some (.str text) := by
  cases Dict.get? entries key <;> simp

lemma cites_iff {records : List Dict} {fields : Dict} :
    Cites repr records (.dict fields) ↔
      ∃ stamp, (Dict.get? fields "at").getD .none = .str stamp ∧
        stamp ∈ (stampedRecords repr records).map Prod.fst ∧
        ∀ text, (Dict.get? fields "mnemonic").getD .none = .str text → text ≠ "" →
          text ∈ mnemonicsAt repr records stamp := by
  constructor
  · rintro ⟨fields', stamp, hfields, hstamp, hrecord, hnamed⟩
    cases hfields
    refine ⟨stamp, getD_eq_str_iff.mpr hstamp, (mem_stamps repr).mpr hrecord, ?_⟩
    intro text htext hne
    exact (mem_mnemonicsAt repr).mpr (hnamed text (getD_eq_str_iff.mp htext) hne)
  · rintro ⟨stamp, hstamp, hrecord, hnamed⟩
    refine ⟨fields, stamp, rfl, getD_eq_str_iff.mp hstamp, (mem_stamps repr).mp hrecord, ?_⟩
    intro text htext hne
    exact (mem_mnemonicsAt repr).mp (hnamed text (getD_eq_str_iff.mpr htext) hne)

lemma checkTimelineEntry_spec (records : List Dict) (place : String) (entry : Value) :
    ∃ failures, checkTimelineEntry repr records place entry = .ok failures ∧
      (failures = [] ↔ Cites repr records entry) := by
  cases entry with
  | dict fields =>
    rw [checkTimelineEntry, cites_iff]
    dsimp only
    cases hstamp : (Dict.get? fields "at").getD .none with
    | str stamp =>
      have hisStr : (Value.str stamp).isStr = true := rfl
      rw [if_pos hisStr, isMember_str]
      by_cases hknown : stamp ∈ (stampedRecords repr records).map Prod.fst
      · obtain ⟨failures, hfailures, hnamed⟩ := checkMnemonic_spec repr records place stamp
          ((Dict.get? fields "mnemonic").getD .none)
        rw [decide_eq_true hknown]
        refine ⟨failures, hfailures, hnamed.trans ?_⟩
        constructor
        · exact fun h => ⟨stamp, rfl, hknown, h⟩
        · rintro ⟨stamp', hsame, -, h⟩
          cases hsame
          exact h
      · rw [decide_eq_false hknown]
        refine ⟨_, rfl, ?_⟩
        constructor
        · exact fun h => absurd h (List.cons_ne_nil _ _)
        · rintro ⟨stamp', hsame, hrecord, -⟩
          cases hsame
          exact absurd hrecord hknown
    | _ => exact ⟨_, rfl, by simp⟩
  | _ =>
    refine ⟨_, rfl, ?_⟩
    constructor
    · exact fun h => absurd h (List.cons_ne_nil _ _)
    · rintro ⟨fields, stamp, hfields, -⟩
      cases hfields

lemma checkTimelineEntries_spec (records : List Dict) (index : Nat) (entries : List Value) :
    ∃ failures, checkTimelineEntries repr records index entries = .ok failures ∧
      (failures = [] ↔ ∀ entry ∈ entries, Cites repr records entry) := by
  induction entries generalizing index with
  | nil => exact ⟨[], rfl, by simp⟩
  | cons entry entries ih =>
    obtain ⟨failures, hfailures, hcites⟩ := checkTimelineEntry_spec repr records
      ("timeline[" ++ toString index ++ "]") entry
    obtain ⟨rest, hrest, hall⟩ := ih (index + 1)
    refine ⟨failures ++ rest, ?_, ?_⟩
    · rw [checkTimelineEntries, hfailures, hrest]
      rfl
    · rw [List.append_eq_nil_iff, hcites, hall, List.forall_mem_cons]

lemma checkTimelineCitations_spec (entries : Dict) (window : Option ShapedWindow) :
    ∃ result, checkTimelineCitations repr (.dict entries) window = .ok result ∧
      (result.ok = true ↔ TimelineCited repr entries window) := by
  rw [checkTimelineCitations]
  dsimp only
  have hlist : ∀ {items : List Value}, (Dict.get? entries "timeline").getD .none = .list items →
      Dict.get? entries "timeline" = some (.list items) := by
    intro items h
    cases hget : Dict.get? entries "timeline" with
    | none =>
      rw [hget] at h
      cases h
    | some value =>
      rw [hget] at h
      exact congrArg some h
  cases htimeline : (Dict.get? entries "timeline").getD .none with
  | none => exact ⟨_, rfl, fun _ => .missing htimeline, fun _ => rfl⟩
  | list items =>
    have hitems := hlist htimeline
    cases items with
    | nil => exact ⟨_, rfl, fun _ => .empty hitems, fun _ => rfl⟩
    | cons item items =>
      cases window with
      | none =>
        refine ⟨_, rfl, fun h => ?_, fun h => ?_⟩
        · cases h
        · cases h with
          | missing h =>
            rw [htimeline] at h
            cases h
          | empty h =>
            rw [hitems] at h
            cases h
          | cited h hwindow => cases hwindow
      | some window =>
        obtain ⟨failures, hfailures, hcites⟩ :=
          checkTimelineEntries_spec repr window.records 1 (item :: items)
        refine ⟨_, by simp only [hfailures]; rfl, ?_⟩
        rw [GroundingResult.ok_iff, hcites]
        constructor
        · exact fun h => .cited hitems rfl h
        · intro h
          cases h with
          | missing h =>
            rw [htimeline] at h
            cases h
          | empty h =>
            rw [hitems] at h
            cases h
          | cited h hwindow hall =>
            rw [hitems] at h
            cases h
            cases hwindow
            exact hall
  | _ =>
    refine ⟨_, rfl, fun h => ?_, fun h => ?_⟩
    · cases h
    · cases h with
      | missing h =>
        rw [htimeline] at h
        cases h
      | empty h =>
        rw [h] at htimeline
        cases htimeline
      | cited h =>
        rw [h] at htimeline
        cases htimeline

/-- What a correlation that passes has behind it: a coverage without gaps for a claim of absence,
and a record of the window for each entry of its timeline. -/
structure Backed (entries : Dict) (coverage : Option Coverage) (window : Option ShapedWindow) :
    Prop where
  absence : ClaimsAbsence entries → ∃ record, coverage = some record ∧ record.gaps = []
  timeline : TimelineCited repr entries window

/-- A correlation is always judged, and passes exactly when it is backed and, where it asserts
something, something was examined. -/
theorem groundCorrelation_ok_iff (repr : Value → String) (claim : Value)
    (coverage : Option Coverage) (window : Option ShapedWindow) :
    ∃ result, groundCorrelation repr claim coverage window = .ok result ∧
      (result.ok = true ↔ ∃ entries, claim = .dict entries ∧
        Backed repr entries coverage window ∧
        (claimsPresent repr claim ≠ [] → result.Examined)) := by
  rw [groundCorrelation]
  cases claim with
  | dict entries =>
    obtain ⟨citations, hcitations, hcited⟩ := checkTimelineCitations_spec repr entries window
    rw [hcitations]
    refine ⟨_, rfl, ?_⟩
    have hmerged : ((checkAbsenceCoverage repr (.dict entries) coverage).merge citations).ok =
        true ↔ Backed repr entries coverage window := by
      rw [GroundingResult.ok_merge, Bool.and_eq_true, checkAbsenceCoverage_ok_iff, hcited]
      exact ⟨fun h => ⟨h.1, h.2⟩, fun h => ⟨h.absence, h.timeline⟩⟩
    constructor
    · intro hok
      have hkept := refuseUnmeasured_of_ok repr hok
      rw [ok_refuseUnmeasured_iff, hmerged] at hok
      rw [hkept]
      exact ⟨entries, rfl, hok.1, hok.2⟩
    · rintro ⟨entries', hsame, hbacked, hexamined⟩
      cases hsame
      have hok := hmerged.mpr hbacked
      rw [ok_refuseUnmeasured_iff]
      refine ⟨hok, ?_⟩
      intro hclaims
      have hresult := hexamined hclaims
      rw [refuseUnmeasured] at hresult
      split at hresult
      · exact hresult
      · simp only [GroundingResult.Examined] at hresult ⊢
        tauto
  | _ =>
    refine ⟨_, rfl, ?_⟩
    simp [ok_refuseUnmeasured_iff, checkAbsenceCoverage, not_ok_refused]

def adjacencyWindow : ShapedWindow where
  records := [[("timestamp", .str "Aug 16 07:41:54.688 UTC"),
    ("mnemonic", .str "ROUTING-ISIS-5-ADJCHANGE"), ("text", .str "Adjacency to PE2 down")]]
  totalIn := 1

def unnamedEvent : Dict :=
  [("timeline", .list [.dict [("at", .str "Aug 16 07:41:54.688 UTC")]]),
    ("correlation", .dict [("found", .str "false")])]

/-- A correlation passes that asserts nothing, and so does one whose entry has no mnemonic. -/
theorem groundCorrelation_ok_unbacked :
    (¬∀ claim coverage window result,
      groundCorrelation (fun _ => "") claim coverage window = .ok result → result.ok = true →
      (∃ entries correlation, claim = .dict entries ∧
        Dict.get? entries "correlation" = some (.dict correlation) ∧
        Dict.get? correlation "found" = some (.bool true)) ∨
      ∃ record, coverage = some record ∧ record.gaps = []) ∧
    ¬∀ entries shaped timeline result,
      groundCorrelation (fun _ => "") (.dict entries) none (some shaped) = .ok result →
      result.ok = true → Dict.get? entries "timeline" = some (.list timeline) →
      ∀ fields, .dict fields ∈ timeline → ∃ record ∈ shaped.records,
        Dict.get? record "timestamp" = Dict.get? fields "at" ∧
        Dict.get? record "mnemonic" = Dict.get? fields "mnemonic" := by
  constructor
  · intro h
    rcases h (.dict []) none none _ rfl rfl with ⟨entries, correlation, hentries, hget, -⟩ |
      ⟨record, hrecord, -⟩
    · cases hentries
      cases hget
    · cases hrecord
  · intro h
    obtain ⟨record, hrecord, -, hmnemonic⟩ := h unnamedEvent adjacencyWindow _ _ rfl
      (by decide +kernel) rfl _ (List.mem_singleton_self _)
    rw [adjacencyWindow, List.mem_singleton] at hrecord
    rw [hrecord] at hmnemonic
    cases hmnemonic

end Grounding

end NetTools
