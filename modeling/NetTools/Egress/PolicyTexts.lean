import NetTools.Collection.LastErrors
import NetTools.Egress.PlainValues

/-!
# The texts of the policies of segment routing

The declared texts of what is parsed of the policies are the last errors. A policy passes the
projection as it is where no context is known.
-/

namespace NetTools

namespace ModelEgress

lemma isFreeText_sr (key : String) : isFreeText (some "sr") key = decide (key = "last_error") := by
  simp [isFreeText, FREE_TEXT_FIELDS]

end ModelEgress

lemma ne_quoteDeviceText {s : String} (h : '\n' ∉ s.toList) (text : String) :
    s ≠ quoteDeviceText text := by
  rintro rfl
  rw [toList_quoteDeviceText] at h
  exact h (List.mem_append_right _ (List.mem_cons_self ..))

namespace SegmentRouting

open ModelEgress

lemma plain_candidatePath (path : CandidatePath) : Plain path.toValue := by
  have hsids : PlainItems (path.sidStack.map
      (fun sid => .dict [("index", .int sid.1), ("sid", .int sid.2)])) := by
    rw [plainItems_iff]
    intro item hitem
    obtain ⟨sid, -, rfl⟩ := List.mem_map.mp hitem
    simp [Plain, PlainEntries]
  have herror : Plain ((path.lastError.map Value.str).getD .none) := by
    cases path.lastError <;> trivial
  rw [CandidatePath.toValue]
  cases path.explicit <;> simp [Plain, PlainEntries, hsids, herror]

def textEntries (fields : List (String × Option String)) : Dict :=
  fields.filterMap (fun field => field.2.map (fun text => (field.1, .str text)))

lemma keys_textEntries (fields : List (String × Option String)) :
    ((textEntries fields).map Prod.fst).Sublist (fields.map Prod.fst) := by
  rw [textEntries]
  induction fields with
  | nil => exact List.Sublist.refl _
  | cons field fields ih =>
    cases htext : field.2 with
    | none =>
      rw [List.filterMap_cons_none (by rw [htext]; rfl)]
      exact ih.cons _
    | some text =>
      rw [List.filterMap_cons_some (by rw [htext]; rfl)]
      exact ih.cons_cons _

lemma isText_textEntries {fields : List (String × Option String)} {entry : String × Value}
    (h : entry ∈ textEntries fields) : ∃ text, entry.2 = .str text := by
  obtain ⟨field, -, hentry⟩ := List.mem_filterMap.mp h
  obtain ⟨text, -, rfl⟩ := Option.map_eq_some_iff.mp hentry
  exact ⟨text, rfl⟩

lemma key_optionalEntries {policy : Policy} {entry : String × Value}
    (h : entry ∈ textEntries policy.optionalFields) :
    entry.1 ∈ ["name", "admin_state", "operational_state", "operational_duration",
      "operational_since", "binding_sid"] :=
  (keys_textEntries policy.optionalFields).subset (List.mem_map_of_mem h)

lemma plain_policy (policy : Policy) : Plain policy.toValue := by
  have hpaths : PlainItems (policy.candidatePaths.map CandidatePath.toValue) := by
    rw [plainItems_iff]
    intro item hitem
    obtain ⟨path, -, rfl⟩ := List.mem_map.mp hitem
    exact plain_candidatePath path
  have hoptional : PlainEntries (textEntries policy.optionalFields) := by
    rw [plainEntries_iff]
    intro entry hentry
    obtain ⟨text, htext⟩ := isText_textEntries hentry
    have hkeys : ∀ key ∈ ["name", "admin_state", "operational_state", "operational_duration",
        "operational_since", "binding_sid"],
        key ∉ ["commands", "unaccounted_lines", "errors"] := by decide
    refine ⟨hkeys _ (key_optionalEntries hentry), ?_⟩
    rw [htext]
    trivial
  rw [Policy.toValue, Plain]
  constructor
  · have hall : (["policy", "color", "endpoint", "supplemental"] ++
        policy.optionalFields.map Prod.fst).Nodup := by
      change (["policy", "color", "endpoint", "supplemental", "name", "admin_state",
        "operational_state", "operational_duration", "operational_since",
        "binding_sid"] : List String).Nodup
      decide
    rw [List.map_append]
    exact hall.sublist (List.Sublist.append_left (keys_textEntries policy.optionalFields) _)
  · rw [plainEntries_iff]
    intro entry hentry
    rw [List.mem_append] at hentry
    rcases hentry with hentry | hentry
    · have hfirst : PlainEntries [("policy", .str (policy.color ++ ":" ++ policy.endpoint)),
          ("color", .str policy.color), ("endpoint", .str policy.endpoint),
          ("supplemental", .dict
            [("candidate_paths", .list (policy.candidatePaths.map CandidatePath.toValue))])] := by
        simp [PlainEntries, Plain, hpaths]
      exact plainEntries_iff.mp hfirst entry hentry
    · exact plainEntries_iff.mp hoptional entry hentry

lemma blocks_candidatePath (path : CandidatePath) :
    blocks (isFreeText (some "sr")) path.toValue = path.lastError.toList := by
  have hsids : blocksItems (isFreeText (some "sr")) (path.sidStack.map
      (fun sid => .dict [("index", .int sid.1), ("sid", .int sid.2)])) = [] := by
    induction path.sidStack with
    | nil => rfl
    | cons sid sids ih =>
      rw [List.map_cons, blocksItems, ih]
      simp [blocks, blocksEntries]
  rw [CandidatePath.toValue]
  cases path.explicit <;> cases path.lastError <;>
    simp [blocks, blocksEntries, hsids, isFreeText_sr]

lemma blocks_policy (policy : Policy) :
    blocks (isFreeText (some "sr")) policy.toValue = policy.errors := by
  have hpaths : blocksItems (isFreeText (some "sr"))
      (policy.candidatePaths.map CandidatePath.toValue) = policy.errors := by
    rw [Policy.errors]
    induction policy.candidatePaths with
    | nil => rfl
    | cons path paths ih =>
      rw [List.map_cons, blocksItems, ih, blocks_candidatePath]
      cases h : path.lastError <;> simp [h]
  have hoptional : blocksEntries (isFreeText (some "sr")) (textEntries policy.optionalFields) =
      [] := by
    apply List.eq_nil_of_subset_nil
    apply blocksEntries_subset
    intro entry hentry
    obtain ⟨text, htext⟩ := isText_textEntries hentry
    have hkeys : ∀ key ∈ ["name", "admin_state", "operational_state", "operational_duration",
        "operational_since", "binding_sid"], isFreeText (some "sr") key = false := by decide
    have hentry' : entry = (entry.1, .str text) := by rw [← htext]
    rw [hentry', blocksEntries_singleton_str (hkeys _ (key_optionalEntries hentry))]
    exact List.nil_subset _
  rw [Policy.toValue, blocks, blocksEntries_append]
  change _ ++ blocksEntries _ (textEntries policy.optionalFields) = _
  rw [hoptional]
  simp [blocks, blocksEntries, isFreeText_sr, hpaths]

lemma blocks_policies (policies : List Policy) :
    blocksItems (isFreeText (some "sr")) (policies.map Policy.toValue) =
      policies.flatMap Policy.errors := by
  induction policies with
  | nil => rfl
  | cons policy policies ih =>
    rw [List.map_cons, blocksItems, ih, blocks_policy, List.flatMap_cons]

lemma plain_policies (policies : List Policy) : PlainItems (policies.map Policy.toValue) := by
  rw [plainItems_iff]
  intro item hitem
  obtain ⟨policy, -, rfl⟩ := List.mem_map.mp hitem
  exact plain_policy policy

variable (u : CharClasses)

lemma blocks_finalize (raw : String) (count : Int) (records : List Value)
    (consumed : List String) (ignores : List (List Pattern.Part)) :
    blocks (isFreeText (some "sr"))
        (finalize u raw [("policy_count", .int count)] records consumed ignores) =
      blocksItems (isFreeText (some "sr")) records := by
  have hlines : ∀ lines : List (String × Fate), blocksItems (isFreeText (some "sr"))
      (lines.map (fun line => Value.str line.1)) = [] := by
    intro lines
    induction lines with
    | nil => rfl
    | cons line lines ih => rw [List.map_cons, blocksItems, ih, List.append_nil, blocks] <;> simp
  simp [finalize, blocks, blocksEntries, countOf, hlines]

lemma blocks_project_finalize (repr : Value → String) (lower : String → String) (raw : String)
    (count : Int) {records : List Value} (hplain : PlainItems records) (consumed : List String)
    (ignores : List (List Pattern.Part)) (budget : Int) :
    blocks (isFreeText (some "sr")) (project repr lower none
        (finalize u raw [("policy_count", .int count)] records consumed ignores) budget).1 =
      blocksItems (isFreeText (some "sr")) records := by
  have hitems := walkItems_of_plain repr lower records hplain
  rw [walker] at hitems
  simp [finalize, project, walker, Walker.walk, Walker.walkEntries, withheldEntry, withheldEntryOf,
    RAW_TEXT_KEYS, hitems, countOf, Dict.set, LastRow.assign, blocks, blocksEntries]

/-- The lines that `parse_xr_sr` reads. -/
def readableLines (outputs : Dict) : List String := (splitLines (firstText outputs)).map pyStrip

def LastErrorShown (platform intent : String) (outputs : Dict) : Prop :=
  platform = "cisco_xr" ∧ intent = "sr" ∧ ShowsLastError u (readableLines outputs)

variable {u} (intOf : String → Int)

lemma notMem_errors {text s : String} (h : s ∈ (readLines u intOf text).errors) :
    '\n' ∉ s.toList := by
  have hreads := reads_foldl (u := u) intOf ((splitLines text).map pyStrip)
  obtain ⟨line, hline, rfl⟩ := hreads.written s h
  obtain ⟨whole, hwhole, rfl⟩ := List.mem_map.mp hline
  intro hbreak
  rw [afterStart, String.toList_ofList] at hbreak
  exact notMem_splitLines hwhole (subset_pyStrip whole (List.mem_of_mem_drop hbreak))

lemma errors_ne_nil_iff (outputs : Dict) :
    (readLines u intOf (firstText outputs)).errors ≠ [] ↔
      ShowsLastError u (readableLines outputs) :=
  (reads_foldl (u := u) intOf (readableLines outputs)).errors

lemma not_isBlank_of_shows {outputs : Dict} (h : ShowsLastError u (readableLines outputs)) :
    isBlank (firstText outputs) = false := by
  obtain ⟨before, error, after, hlines, -, herror⟩ := h
  have hmem : error ∈ readableLines outputs := by
    rw [hlines]
    exact List.mem_append_right _ (List.mem_cons_self ..)
  obtain ⟨line, hline, rfl⟩ := List.mem_map.mp hmem
  have hletter : 'L' ∈ (firstText outputs).toList := by
    apply subset_splitLines hline
    apply subset_pyStrip
    exact List.mem_of_mem_head? (head_of_isLastError herror)
  rw [isBlank, List.all_eq_false]
  exact ⟨'L', hletter, by decide⟩

lemma blank_firstText {outputs : Dict}
    (h : outputs.all (fun output =>
      match output.2 with
      | .str text => isBlank text
      | _ => true) = true) : isBlank (firstText outputs) = true := by
  unfold firstText
  split
  · rw [List.all_cons, Bool.and_eq_true] at h
    exact h.1
  · rfl

variable (others : String → Dict → Option Value)

lemma parseIntent_sr (outputs : Dict) :
    (∃ consumed, (parseIntent u intOf others "cisco_xr" "sr" outputs).1 =
      some (finalize u (firstText outputs)
        [("policy_count", .int (readLines u intOf (firstText outputs)).policies.length)]
        ((readLines u intOf (firstText outputs)).policies.map Policy.toValue) consumed
        (SR_IGNORES u))) ∨
      ((parseIntent u intOf others "cisco_xr" "sr" outputs).1 = none ∧
        ¬ShowsLastError u (readableLines outputs)) := by
  have hparser : parserFor u intOf others "cisco_xr" "sr" = some (parseXrSr u intOf) := rfl
  simp only [parseIntent, hparser]
  split
  · rename_i hblank
    right
    refine ⟨rfl, ?_⟩
    intro hshown
    have hblank' := not_isBlank_of_shows hshown
    rw [blank_firstText hblank] at hblank'
    cases hblank'
  · cases hparsed : parseXrSr u intOf outputs with
    | none =>
      right
      refine ⟨rfl, ?_⟩
      rw [← errors_ne_nil_iff intOf, not_not]
      rw [parseXrSr] at hparsed
      split at hparsed
      · rename_i hempty
        rw [Reading.errors, hempty.1]
        rfl
      · cases hparsed
    | some parsed =>
      left
      rw [parseXrSr] at hparsed
      split at hparsed
      · cases hparsed
      · cases hparsed
        refine ⟨(readLines u intOf (firstText outputs)).consumed, ?_⟩
        have hmeta : ∀ count records consumed, holdsSomething (finalize u (firstText outputs)
            [("policy_count", .int count)] records consumed (SR_IGNORES u)) "meta" = true := by
          intro count records consumed
          simp [holdsSomething, finalize, Dict.get?, Value.truthy]
        simp only [hmeta, Bool.or_true]
        rfl

lemma quotes_errors_iff (text : String) :
    Quotes (readLines u intOf text).errors (readLines u intOf text).errors ↔
      (readLines u intOf text).errors = [] := by
  constructor
  · intro h
    rw [List.eq_nil_iff_forall_not_mem]
    intro s hs
    obtain ⟨t, -, heq⟩ := h s hs
    exact ne_quoteDeviceText (notMem_errors intOf hs) t heq
  · intro h
    rw [h]
    exact Quotes.nil _

lemma known_of_parsed {platform intent : String} {outputs : Dict} {parsed : Value}
    (h : (parseIntent u intOf others platform intent outputs).1 = some parsed) :
    platform = "cisco_xr" ∧ (intent = "sr" ∨ intent ∈ otherIntents) := by
  have hparser : parserFor u intOf others platform intent ≠ none := by
    intro hnone
    simp only [parseIntent, hnone] at h
    cases h
  rw [parserFor] at hparser
  split at hparser
  · exact absurd rfl hparser
  · rename_i hplatform
    refine ⟨not_not.mp hplatform, ?_⟩
    split at hparser
    · rename_i hsr
      exact .inl hsr
    · split at hparser
      · rename_i hother
        exact .inr hother
      · exact absurd rfl hparser

lemma isFreeText_otherIntents {intent : String} (h : intent ∈ otherIntents) (key : String) :
    isFreeText (some intent) key = false := by
  have hcontexts : ∀ other ∈ otherIntents, ∀ field ∈ FREE_TEXT_FIELDS, field.1 ≠ other := by
    decide
  rw [isFreeText, Option.any_some, decide_eq_false_iff_not]
  intro hmem
  exact hcontexts intent h _ hmem rfl

lemma not_lastErrorShown_nil {platform intent : String} :
    ¬LastErrorShown u platform intent [] := by
  rintro ⟨-, -, before, error, after, hlines, -⟩
  have hnil : readableLines [] = [] := rfl
  rw [hnil] at hlines
  simp at hlines

end SegmentRouting

end NetTools
