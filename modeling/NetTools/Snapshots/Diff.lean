import NetTools.Library.LastRow
import NetTools.Snapshots.Records

/-!
# The comparison of two snapshots

`diff_evidence` matches the rows of a table by one field. Rows that share it are reduced to the
last of them, so that what the comparison calls unchanged has to be told from what is.
-/

namespace NetTools

namespace Snapshots

variable {V : Type} [DecidableEq V]

/-- A field that differs, with `None` where it is missing. -/
structure Change (V : Type) where
  field : String
  old : Cell V
  new : Cell V

def diffFields (oldFields newFields : Fields V) (exclude : List String) : List (Change V) :=
  let names := (oldFields.entries.map Prod.fst ++ newFields.entries.map Prod.fst).dedup
  (names.filter (fun field => field ∉ exclude)).filterMap fun field =>
    if oldFields.get? field = newFields.get? field then none
    else some ⟨field, (oldFields.get? field).getD .none, (newFields.get? field).getD .none⟩

def cellLe : Cell V → Cell V → Bool
  | .text a, .text b => a ≤ b
  | _, _ => true

def sortKeys (keys : List (Cell V)) : List (Cell V) := keys.insertionSort (fun a b => cellLe a b = true)

structure CompareEntry (V : Type) where
  addedRecords : List (Fields V) := []
  removedRecords : List (Fields V) := []
  changedRecords : List (Cell V × List (Change V)) := []
  changedMeta : List (Change V) := []
  comparedVia : String

def compareParsed (intent : String) (oldParsed newParsed : ParseResult V) (platform : String) :
    CompareEntry V :=
  let volatile := volatileFields platform intent
  let changedMeta := diffFields oldParsed.meta newParsed.meta volatile
  match recordKey platform intent with
  | none => { changedMeta := changedMeta, comparedVia := "parsed" }
  | some keyField =>
    let oldRecords := LastRow.index (fun r : Fields V => r.get? keyField) oldParsed.records
    let newRecords := LastRow.index (fun r : Fields V => r.get? keyField) newParsed.records
    let oldKeys := oldRecords.map Prod.fst
    let newKeys := newRecords.map Prod.fst
    { addedRecords := (sortKeys (newKeys.filter (fun k => k ∉ oldKeys))).filterMap (newRecords.lookup ·)
      removedRecords := (sortKeys (oldKeys.filter (fun k => k ∉ newKeys))).filterMap (oldRecords.lookup ·)
      changedRecords := (sortKeys (newKeys.filter (fun k => k ∈ oldKeys))).filterMap fun k =>
        match oldRecords.lookup k, newRecords.lookup k with
        | some o, some n =>
          let rowChanges := diffFields o n volatile
          if rowChanges.isEmpty then none else some (k, rowChanges)
        | _, _ => none
      changedMeta := changedMeta
      comparedVia := "parsed" }

def CompareEntry.listsChange (entry : CompareEntry V) : Bool :=
  !(entry.addedRecords.isEmpty && entry.removedRecords.isEmpty && entry.changedRecords.isEmpty &&
    entry.changedMeta.isEmpty)

inductive IntentState where
  | absent
  | unsupported
  | error
  | available
  deriving DecidableEq

def intentState : Option (Section V) → IntentState
  | none => .absent
  | some sec =>
    if sec.status = some STATUS_UNSUPPORTED then .unsupported
    else if sec.status = some STATUS_ERROR then .error
    else .available

variable (normalizeOutput : String → String → String → String)

def normalizedIntentText (intent : String) (data : SectionData V) (platform : String) : String :=
  "\n".intercalate ((data.commands.insertionSort (fun a b => a.1 ≤ b.1)).map
    fun command => normalizeOutput command.2 platform intent)

def compareIntent (intent : String) (oldSection newSection : Section V)
    (oldPlatform newPlatform : String) : CompareEntry V × Bool :=
  match oldSection.parsed?, newSection.parsed? with
  | some oldParsed, some newParsed =>
    let entry := compareParsed intent oldParsed newParsed newPlatform
    (entry, entry.listsChange)
  | _, _ =>
    let oldText := normalizedIntentText normalizeOutput intent oldSection.data oldPlatform
    let newText := normalizedIntentText normalizeOutput intent newSection.data newPlatform
    ({ comparedVia := "normalized_text" }, decide (oldText ≠ newText))

structure EvidenceDiff (V : Type) where
  device : Option String := none
  platform : Option String := none
  platformChanged : Bool := false
  oldTimestamp : Option String := none
  newTimestamp : Option String := none
  changed : List String := []
  unchanged : List String := []
  added : List String := []
  removed : List String := []
  failed : List String := []
  recovered : List String := []
  unsupported : List String := []
  details : List (String × CompareEntry V) := []

def intents (old new : Evidence V) : List String :=
  sortedNames (old.sections.map Prod.fst ++ new.sections.map Prod.fst)

/-- The body of the loop of `diff_evidence`. -/
def place (old new : Evidence V) (d : EvidenceDiff V) (intent : String) : EvidenceDiff V :=
  let oldSection := old.section? intent
  let newSection := new.section? intent
  match intentState newSection with
  | .unsupported => { d with unsupported := d.unsupported ++ [intent] }
  | .error => { d with failed := d.failed ++ [intent] }
  | .absent =>
    if intentState oldSection = .available then { d with removed := d.removed ++ [intent] } else d
  | .available =>
    match intentState oldSection with
    | .error => { d with recovered := d.recovered ++ [intent] }
    | .absent => { d with added := d.added ++ [intent] }
    | .unsupported => { d with added := d.added ++ [intent] }
    | .available =>
      match oldSection, newSection with
      | some o, some n =>
        let (entry, isChanged) :=
          compareIntent normalizeOutput intent o n old.resolvedPlatform new.resolvedPlatform
        if isChanged then
          { d with details := d.details ++ [(intent, entry)], changed := d.changed ++ [intent] }
        else
          { d with details := d.details ++ [(intent, entry)], unchanged := d.unchanged ++ [intent] }
      -- A section that is available is there.
      | _, _ => d

def diffEvidence (old new : Evidence V) : EvidenceDiff V :=
  let d := (intents old new).foldl (place normalizeOutput old new) {}
  let given (platform : Option String) : Bool := platform != none && platform != some ""
  { d with
    device := new.device.or old.device
    platform := if given new.platform then new.platform else old.platform
    platformChanged := given old.platform && given new.platform && old.platform != new.platform
    oldTimestamp := old.timestamp
    newTimestamp := new.timestamp
    changed := d.changed.insertionSort (· ≤ ·)
    unchanged := d.unchanged.insertionSort (· ≤ ·)
    added := d.added.insertionSort (· ≤ ·)
    removed := d.removed.insertionSort (· ≤ ·)
    failed := d.failed.insertionSort (· ≤ ·)
    recovered := d.recovered.insertionSort (· ≤ ·)
    unsupported := d.unsupported.insertionSort (· ≤ ·) }

inductive Bucket where
  | changed
  | unchanged
  | added
  | removed
  | failed
  | recovered
  | unsupported
  deriving DecidableEq

def EvidenceDiff.bucket (d : EvidenceDiff V) : Bucket → List String
  | .changed => d.changed
  | .unchanged => d.unchanged
  | .added => d.added
  | .removed => d.removed
  | .failed => d.failed
  | .recovered => d.recovered
  | .unsupported => d.unsupported

def bucketOf (old new : Evidence V) (intent : String) : Option Bucket :=
  match intentState (new.section? intent), intentState (old.section? intent) with
  | .unsupported, _ => some .unsupported
  | .error, _ => some .failed
  | .absent, .available => some .removed
  | .absent, _ => none
  | .available, .error => some .recovered
  | .available, .absent => some .added
  | .available, .unsupported => some .added
  | .available, .available =>
    match old.section? intent, new.section? intent with
    | some o, some n =>
      if (compareIntent normalizeOutput intent o n old.resolvedPlatform new.resolvedPlatform).2 then
        some .changed
      else some .unchanged
    | _, _ => none

variable {normalizeOutput : String → String → String → String} {old new : Evidence V}

lemma mem_place (d : EvidenceDiff V) (intent i : String) (b : Bucket) :
    i ∈ (place normalizeOutput old new d intent).bucket b ↔
      i ∈ d.bucket b ∨ i = intent ∧ bucketOf normalizeOutput old new intent = some b := by
  have hkeep : i ∈ d.bucket b ↔ i ∈ d.bucket b ∨ i = intent ∧ (none : Option Bucket) = some b := by
    simp
  unfold place bucketOf
  dsimp only
  split
  · rename_i hnew
    rw [hnew]
    cases b <;> simp [EvidenceDiff.bucket]
  · rename_i hnew
    rw [hnew]
    cases b <;> simp [EvidenceDiff.bucket]
  · rename_i hnew
    rw [hnew]
    split
    · rename_i hold
      rw [hold]
      cases b <;> simp [EvidenceDiff.bucket]
    · rename_i hold
      cases hstate : intentState (old.section? intent) with
      | available => exact absurd hstate hold
      | _ => exact hkeep
  · rename_i hnew
    rw [hnew]
    split
    · rename_i hold
      rw [hold]
      cases b <;> simp [EvidenceDiff.bucket]
    · rename_i hold
      rw [hold]
      cases b <;> simp [EvidenceDiff.bucket]
    · rename_i hold
      rw [hold]
      cases b <;> simp [EvidenceDiff.bucket]
    · rename_i hold
      rw [hold]
      dsimp only
      split
      · split
        · cases b <;> simp [EvidenceDiff.bucket]
        · cases b <;> simp [EvidenceDiff.bucket]
      · exact hkeep

lemma mem_bucket_foldl (b : Bucket) (i : String) (is : List String) (d : EvidenceDiff V) :
    i ∈ (is.foldl (place normalizeOutput old new) d).bucket b ↔
      i ∈ d.bucket b ∨ i ∈ is ∧ bucketOf normalizeOutput old new i = some b := by
  induction is generalizing d with
  | nil => simp
  | cons j is ih =>
    rw [List.foldl_cons, ih, mem_place, List.mem_cons]
    constructor
    · rintro ((h | ⟨rfl, h⟩) | ⟨h, h'⟩)
      · exact .inl h
      · exact .inr ⟨.inl rfl, h⟩
      · exact .inr ⟨.inr h, h'⟩
    · rintro (h | ⟨rfl | h, h'⟩)
      · exact .inl (.inl h)
      · exact .inl (.inr ⟨rfl, h'⟩)
      · exact .inr ⟨h, h'⟩

theorem mem_diffEvidence_iff (b : Bucket) (i : String) :
    i ∈ (diffEvidence normalizeOutput old new).bucket b ↔
      i ∈ intents old new ∧ bucketOf normalizeOutput old new i = some b := by
  have hfold : i ∈ ((intents old new).foldl (place normalizeOutput old new) {}).bucket b ↔
      i ∈ ({} : EvidenceDiff V).bucket b ∨
        i ∈ intents old new ∧ bucketOf normalizeOutput old new i = some b :=
    mem_bucket_foldl b i (intents old new) {}
  have hempty : i ∉ ({} : EvidenceDiff V).bucket b := by
    cases b <;> exact List.not_mem_nil
  rw [or_iff_right hempty] at hfold
  rw [← hfold]
  cases b <;> exact List.mem_insertionSort _

/-! ### Parsed content -/

lemma diffFields_eq_nil_iff {oldFields newFields : Fields V} {exclude : List String} :
    diffFields oldFields newFields exclude = [] ↔
      stable exclude oldFields = stable exclude newFields := by
  have hmissing (d : Fields V) (field : String) (h : field ∉ d.entries.map Prod.fst) :
      d.get? field = none := by
    rw [Fields.get?, List.lookup_eq_none_iff]
    intro entry hentry
    exact bne_iff_ne.mpr (fun heq => h (heq ▸ List.mem_map_of_mem hentry))
  rw [diffFields, List.filterMap_eq_nil_iff]
  constructor
  · intro h
    funext field
    by_cases hexclude : field ∈ exclude
    · rw [stable_of_mem hexclude, stable_of_mem hexclude]
    rw [stable_of_notMem hexclude, stable_of_notMem hexclude]
    by_cases hfield : field ∈ oldFields.entries.map Prod.fst ++ newFields.entries.map Prod.fst
    · have hsame := h field (List.mem_filter.mpr
        ⟨List.mem_dedup.mpr hfield, decide_eq_true hexclude⟩)
      by_contra hne
      rw [if_neg hne] at hsame
      cases hsame
    · rw [List.mem_append, not_or] at hfield
      rw [hmissing oldFields field hfield.1, hmissing newFields field hfield.2]
  · intro h field hfield
    have hexclude : field ∉ exclude := of_decide_eq_true (List.mem_filter.mp hfield).2
    have hsame := congrFun h field
    rw [stable_of_notMem hexclude, stable_of_notMem hexclude] at hsame
    exact if_pos hsame

omit [DecidableEq V] in
lemma filterMap_sortKeys_eq_nil_iff {β : Type} {keys : List (Cell V)} {p : Cell V → Bool}
    {f : Cell V → Option β} :
    (sortKeys (keys.filter p)).filterMap f = [] ↔ ∀ k ∈ keys, p k = true → f k = none := by
  rw [List.filterMap_eq_nil_iff]
  constructor
  · intro h k hk hp
    exact h k ((List.mem_insertionSort _).mpr (List.mem_filter.mpr ⟨hk, hp⟩))
  · intro h k hk
    obtain ⟨hmem, hp⟩ := List.mem_filter.mp ((List.mem_insertionSort _).mp hk)
    exact h k hmem hp

lemma mem_keys_iff {ρ : Type} {d : List (Cell V × ρ)} {k : Cell V} :
    k ∈ d.map Prod.fst ↔ d.lookup k ≠ none := by
  rw [ne_eq, List.lookup_eq_none_iff, List.mem_map]
  constructor
  · rintro ⟨entry, hentry, rfl⟩ h
    exact bne_iff_ne.mp (h entry hentry) rfl
  · intro h
    by_contra hnone
    apply h
    intro entry hentry
    exact bne_iff_ne.mpr (fun heq => hnone ⟨entry, hentry, heq.symm⟩)

/-- The `meta` of both sides agree outside the volatile fields. -/
def MetaAgree (platform intent : String) (o n : ParseResult V) : Prop :=
  stable (volatileFields platform intent) o.meta = stable (volatileFields platform intent) n.meta

/-- The rows are the same up to order, outside the volatile fields. -/
def RowsAgree (platform intent : String) (rows rows' : List (Fields V)) : Prop :=
  (rows.map (stable (volatileFields platform intent))).Perm
    (rows'.map (stable (volatileFields platform intent)))

def LastRowsAgree (platform intent : String) (rows rows' : List (Fields V)) : Prop :=
  ∀ k, (LastRow.last? (keyCell (recordKey platform intent)) rows k).map
      (stable (volatileFields platform intent)) =
    (LastRow.last? (keyCell (recordKey platform intent)) rows' k).map
      (stable (volatileFields platform intent))

def hiddenRows (platform intent : String) (rows : List (Fields V)) : List (Fields V) :=
  LastRow.hidden (keyCell (recordKey platform intent)) rows

lemma lastRowsAgree_of_none {platform intent : String} (h : recordKey platform intent = none)
    (rows rows' : List (Fields V)) : LastRowsAgree platform intent rows rows' := by
  intro k
  rw [h]
  have hnone (rows : List (Fields V)) : LastRow.last? (keyCell none) rows k = none :=
    LastRow.last?_eq_none_iff.mpr (fun r _ hkey => nomatch hkey)
  rw [hnone rows, hnone rows']

theorem listsChange_eq_false_iff {platform intent : String} {o n : ParseResult V} :
    (compareParsed intent o n platform).listsChange = false ↔
      MetaAgree platform intent o n ∧ LastRowsAgree platform intent o.records n.records := by
  rw [CompareEntry.listsChange, Bool.not_eq_false', Bool.and_eq_true, Bool.and_eq_true,
    Bool.and_eq_true, List.isEmpty_iff, List.isEmpty_iff, List.isEmpty_iff, List.isEmpty_iff,
    compareParsed]
  cases hkey : recordKey platform intent with
  | none =>
    dsimp only
    rw [diffFields_eq_nil_iff, MetaAgree]
    have hrows := lastRowsAgree_of_none hkey o.records n.records
    simp only [true_and, hrows, and_true]
  | some keyField =>
    dsimp only
    rw [diffFields_eq_nil_iff, ← MetaAgree, and_comm, and_congr_right_iff]
    intro _
    rw [filterMap_sortKeys_eq_nil_iff, filterMap_sortKeys_eq_nil_iff, filterMap_sortKeys_eq_nil_iff]
    simp only [decide_eq_true_eq, mem_keys_iff, LastRow.lookup_index, LastRowsAgree, hkey]
    have hcell : keyCell (some keyField) = fun r : Fields V => r.get? keyField := rfl
    rw [hcell]
    generalize (fun r : Fields V => r.get? keyField) = key
    constructor
    · rintro ⟨⟨hadded, hremoved⟩, hchanged⟩ k
      cases ho : LastRow.last? key o.records k with
      | none =>
        cases hn : LastRow.last? key n.records k with
        | none => rfl
        | some r =>
          have hnew := hadded k (by simp [hn]) (by simp [ho])
          rw [hn] at hnew
          cases hnew
      | some r =>
        cases hn : LastRow.last? key n.records k with
        | none =>
          have hold := hremoved k (by simp [ho]) (by simp [hn])
          rw [ho] at hold
          cases hold
        | some r' =>
          have hrow := hchanged k (by simp [hn]) (by simp [ho])
          rw [ho, hn] at hrow
          dsimp only at hrow
          split at hrow
          · rename_i hempty
            rw [List.isEmpty_iff, diffFields_eq_nil_iff] at hempty
            rw [Option.map_some, Option.map_some, hempty]
          · cases hrow
    · intro h
      refine ⟨⟨fun k hn ho => ?_, fun k ho hn => ?_⟩, fun k hn ho => ?_⟩
      · have hk := h k
        rw [not_ne_iff.mp ho, Option.map_none] at hk
        exact Option.map_eq_none_iff.mp hk.symm
      · have hk := h k
        rw [not_ne_iff.mp hn, Option.map_none] at hk
        exact Option.map_eq_none_iff.mp hk
      · obtain ⟨r, hr⟩ := Option.ne_none_iff_exists'.mp ho
        obtain ⟨r', hr'⟩ := Option.ne_none_iff_exists'.mp hn
        have hk := h k
        rw [hr, hr', Option.map_some, Option.map_some] at hk
        have hempty := diffFields_eq_nil_iff.mpr (Option.some.inj hk)
        rw [hr, hr']
        dsimp only
        rw [hempty]
        rfl

lemma rowsAgree_iff_hidden {platform intent : String} {rows rows' : List (Fields V)}
    (h : LastRowsAgree platform intent rows rows') :
    RowsAgree platform intent rows rows' ↔
      RowsAgree platform intent (hiddenRows platform intent rows)
        (hiddenRows platform intent rows') :=
  LastRow.perm_iff_hidden _ (stable_recordKey platform intent) h

omit [DecidableEq V] in
lemma intentState_eq_absent_iff {sec : Option (Section V)} :
    intentState sec = .absent ↔ sec = none := by
  constructor
  · intro h
    cases sec with
    | none => rfl
    | some sec =>
      rw [intentState] at h
      split at h
      · cases h
      · split at h
        · cases h
        · cases h
  · intro h
    rw [h]
    rfl

omit [DecidableEq V] in
lemma mem_intents_iff {i : String} :
    i ∈ intents old new ↔ old.section? i ≠ none ∨ new.section? i ≠ none := by
  have hmem (e : Evidence V) : i ∈ e.sections.map Prod.fst ↔ e.section? i ≠ none := by
    rw [Evidence.section?, ne_eq, List.lookup_eq_none_iff, List.mem_map]
    constructor
    · rintro ⟨entry, hentry, rfl⟩ h
      exact bne_iff_ne.mp (h entry hentry) rfl
    · intro h
      by_contra hnone
      apply h
      intro entry hentry
      exact bne_iff_ne.mpr (fun heq => hnone ⟨entry, hentry, heq.symm⟩)
  rw [intents, sortedNames, List.mem_insertionSort, List.mem_dedup, List.mem_append, hmem old,
    hmem new]

lemma bucketOf_eq_none_iff {intent : String} :
    bucketOf normalizeOutput old new intent = none ↔
      intentState (new.section? intent) = .absent ∧
        intentState (old.section? intent) ≠ .available := by
  unfold bucketOf
  split
  · rename_i hnew
    simp [hnew]
  · rename_i hnew
    simp [hnew]
  · rename_i hnew hold
    simp [hold]
  · rename_i hnew hold
    simp only [hnew, true_and, true_iff]
    exact hold
  · rename_i hnew hold
    simp [hnew]
  · rename_i hnew hold
    simp [hnew]
  · rename_i hnew hold
    simp [hnew]
  · rename_i hnew hold
    simp only [hnew, reduceCtorEq, false_and, iff_false]
    split
    · split
      · exact Option.some_ne_none _
      · exact Option.some_ne_none _
    · rename_i hnone
      intro _
      cases ho : old.section? intent with
      | none => rw [intentState_eq_absent_iff.mpr ho] at hold; cases hold
      | some o =>
        cases hn : new.section? intent with
        | none => rw [intentState_eq_absent_iff.mpr hn] at hnew; cases hnew
        | some n => exact hnone o n ho hn

lemma mem_unchanged_iff {intent : String} {oldSection newSection : Section V}
    {o n : ParseResult V} (hold : old.section? intent = some oldSection)
    (hnew : new.section? intent = some newSection) (ho : oldSection.parsed? = some o)
    (hn : newSection.parsed? = some n) :
    intent ∈ (diffEvidence normalizeOutput old new).unchanged ↔
      intentState (some oldSection) = .available ∧ intentState (some newSection) = .available ∧
        MetaAgree new.resolvedPlatform intent o n ∧
          LastRowsAgree new.resolvedPlatform intent o.records n.records := by
  have hlisted : intent ∈ intents old new :=
    mem_intents_iff.mpr (.inl (hold ▸ Option.some_ne_none oldSection))
  have hbucket : intent ∈ (diffEvidence normalizeOutput old new).unchanged ↔
      intent ∈ intents old new ∧ bucketOf normalizeOutput old new intent = some .unchanged :=
    mem_diffEvidence_iff .unchanged intent
  rw [and_iff_right hlisted] at hbucket
  rw [← listsChange_eq_false_iff]
  refine hbucket.trans ?_
  rw [bucketOf, hold, hnew]
  cases hstate : intentState (some newSection) with
  | available =>
    cases hstate' : intentState (some oldSection) with
    | available =>
      simp only [compareIntent, ho, hn, true_and]
      cases (compareParsed intent o n new.resolvedPlatform).listsChange with
      | true => simp
      | false => simp
    | _ => simp
  | absent =>
    cases intentState (some oldSection) with
    | _ => simp
  | _ => simp

/-- Every intent has one bucket unless it is absent and was not available, a section that failed
is never reported as a change, and `unchanged` is right about parsed content exactly when no row
changes out of sight and no reordering brings another row of a key to the end. -/
theorem diff_unchanged_iff (normalizeOutput : String → String → String → String)
    (old new : Evidence V) (intent : String) :
    (intent ∈ intents old new →
        ((∃! b, intent ∈ (diffEvidence normalizeOutput old new).bucket b) ↔
          ¬(intentState (new.section? intent) = .absent ∧
            intentState (old.section? intent) ≠ .available))) ∧
      (intentState (new.section? intent) = .error ∨
          intentState (new.section? intent) = .unsupported →
        ∀ b ∈ [Bucket.added, .removed, .changed],
          intent ∉ (diffEvidence normalizeOutput old new).bucket b) ∧
      ∀ oldSection newSection o n, old.section? intent = some oldSection →
        new.section? intent = some newSection → oldSection.parsed? = some o →
        newSection.parsed? = some n →
        ((intent ∈ (diffEvidence normalizeOutput old new).unchanged ↔
            intentState (some oldSection) = .available ∧
              intentState (some newSection) = .available ∧
                MetaAgree new.resolvedPlatform intent o n ∧
                  RowsAgree new.resolvedPlatform intent o.records n.records) ↔
          (intentState (some oldSection) = .available →
            intentState (some newSection) = .available →
              MetaAgree new.resolvedPlatform intent o n →
                (LastRowsAgree new.resolvedPlatform intent o.records n.records →
                  RowsAgree new.resolvedPlatform intent
                    (hiddenRows new.resolvedPlatform intent o.records)
                    (hiddenRows new.resolvedPlatform intent n.records)) ∧
                (RowsAgree new.resolvedPlatform intent o.records n.records →
                  LastRowsAgree new.resolvedPlatform intent o.records n.records))) := by
  refine ⟨fun hlisted => ?_, fun hstate b hb hmem => ?_, ?_⟩
  · have hmem (b : Bucket) : intent ∈ (diffEvidence normalizeOutput old new).bucket b ↔
        bucketOf normalizeOutput old new intent = some b := by
      rw [mem_diffEvidence_iff, and_iff_right hlisted]
    have hnone : bucketOf normalizeOutput old new intent = none ↔
        intentState (new.section? intent) = .absent ∧
          intentState (old.section? intent) ≠ .available := bucketOf_eq_none_iff
    simp only [hmem, ← hnone]
    cases bucketOf normalizeOutput old new intent with
    | none => simp
    | some b =>
      simp only [Option.some.injEq, reduceCtorEq, not_false_eq_true, iff_true]
      exact ⟨b, rfl, fun b' hb' => hb'.symm⟩
  · have hbucket := (mem_diffEvidence_iff b intent).mp hmem
    rw [bucketOf] at hbucket
    rcases hstate with hstate | hstate
    · rw [hstate] at hbucket
      cases hbucket.2
      simp at hb
    · rw [hstate] at hbucket
      cases hbucket.2
      simp at hb
  · intro oldSection newSection o n hold hnew ho hn
    rw [mem_unchanged_iff hold hnew ho hn]
    constructor
    · intro h hold' hnew' hmeta
      rw [and_iff_right hold', and_iff_right hnew', and_iff_right hmeta, and_iff_right hold',
        and_iff_right hnew', and_iff_right hmeta] at h
      exact ⟨fun hlast => (rowsAgree_iff_hidden hlast).mp (h.mp hlast), h.mpr⟩
    · intro h
      constructor
      · rintro ⟨hold', hnew', hmeta, hlast⟩
        exact ⟨hold', hnew', hmeta, (rowsAgree_iff_hidden hlast).mpr ((h hold' hnew' hmeta).1 hlast)⟩
      · rintro ⟨hold', hnew', hmeta, hrows⟩
        exact ⟨hold', hnew', hmeta, (h hold' hnew' hmeta).2 hrows⟩

/-- One of two adjacencies to `P1`. -/
def adjacency (interface state : String) : Fields Empty :=
  ⟨[("system_id", .text "P1"), ("interface", .text interface), ("state", .text state)], by simp⟩

/-- A snapshot of two parallel adjacencies to `P1`. -/
def parallelAdjacencies (first second : String) : Evidence Empty where
  platform := some "cisco_xr"
  sections := [("isis", {
    status := some "success"
    data := {
      parsed := some ⟨⟨[("neighbor_count", .text "2")], by decide⟩,
        [adjacency "Gi0/0/0/0" first, adjacency "Gi0/0/0/1" second]⟩
      parseStatus := some PARSE_OK } })]
  distinct := by simp

/-- The first adjacency goes down and the snapshots count as unchanged. -/
theorem diff_unchanged_fails_parallelAdjacencies :
    "isis" ∈ (diffEvidence (fun text _ _ => text) (parallelAdjacencies "Up" "Up")
        (parallelAdjacencies "Down" "Up")).unchanged ∧
      ¬RowsAgree "cisco_xr" "isis" [adjacency "Gi0/0/0/0" "Up", adjacency "Gi0/0/0/1" "Up"]
        [adjacency "Gi0/0/0/0" "Down", adjacency "Gi0/0/0/1" "Up"] := by
  refine ⟨by decide +kernel, fun h => ?_⟩
  have hstates := h.map (fun content => content "state")
  revert hstates
  decide +kernel

end Snapshots

end NetTools
