import NetTools.Library.Gathering
import NetTools.Snapshots.Records

/-!
# Flaps in a device's history

`detect_flaps` lines up the values of a field over the snapshots and counts its changes. The rows
that share a record key share a list, so that a difference between two rows of one snapshot is
counted with the changes over time.
-/

namespace NetTools

namespace Snapshots

variable {V : Type} [DecidableEq V]

/-- An intent, the row's subject or `none` for the `meta`, and a field. -/
abbrev FlapKey (V : Type) := String × Option (Cell V) × String

def tracked (volatile : List String) (d : Fields V) : List (String × Cell V) :=
  d.entries.filter (fun entry => entry.1 ∉ volatile)

def recordEntries (intent keyField : String) (volatile : List String) (record : Fields V) :
    List (FlapKey V × Cell V) :=
  match record.get? keyField with
  | none => []
  | some .none => []
  | some subject =>
    ((tracked volatile record).filter (fun entry => entry.1 ≠ keyField)).map
      fun entry => ((intent, some subject, entry.1), entry.2)

def sectionEntries (platform intent : String) (parsed : ParseResult V) :
    List (FlapKey V × Cell V) :=
  let volatile := volatileFields platform intent
  (tracked volatile parsed.meta).map (fun entry => ((intent, none, entry.1), entry.2)) ++
    match recordKey platform intent with
    | none => []
    | some keyField => parsed.records.flatMap (recordEntries intent keyField volatile)

def snapshotEntries (snapshot : Evidence V) : List (FlapKey V × Cell V) :=
  snapshot.sections.flatMap fun entry =>
    match entry.2.parsed? with
    | none => []
    | some parsed => sectionEntries snapshot.resolvedPlatform entry.1 parsed

def flapSequences (snapshots : List (Evidence V)) : List (FlapKey V × List (Cell V)) :=
  Gathering.gather (snapshots.flatMap snapshotEntries)

structure Flap (V : Type) where
  intent : String
  subject : Option (Cell V)
  field : String
  transitions : Nat
  values : List (Cell V)

/-- `str` of a subject. -/
def subjectText (str : V → String) : Option (Cell V) → String
  | none => "None"
  | some .none => "None"
  | some (.text s) => s
  | some (.other v) => str v

def flapLe (str : V → String) (a b : Flap V) : Bool :=
  if a.transitions ≠ b.transitions then b.transitions ≤ a.transitions
  else if a.intent ≠ b.intent then a.intent ≤ b.intent
  else if subjectText str a.subject ≠ subjectText str b.subject then
    subjectText str a.subject ≤ subjectText str b.subject
  else a.field ≤ b.field

structure FlapReport (V : Type) where
  device : String
  snapshotsExamined : Nat
  snapshotsSkipped : Nat
  flapping : List (Flap V)

def detectFlaps (str : V → String) (deviceName : String) (snapshots : List (Evidence V))
    (snapshotsSkipped minTransitions : Nat) : FlapReport V where
  device := deviceName
  snapshotsExamined := snapshots.length
  snapshotsSkipped := snapshotsSkipped
  flapping :=
    ((flapSequences snapshots).filterMap fun sequence =>
      let transitions := Gathering.transitions sequence.2
      if minTransitions ≤ transitions then
        some ⟨sequence.1.1, sequence.1.2.1, sequence.1.2.2, transitions, sequence.2⟩
      else none).insertionSort (fun a b => flapLe str a b = true)

def Evidence.parsed? (snapshot : Evidence V) (intent : String) : Option (ParseResult V) :=
  (snapshot.section? intent).bind Section.parsed?

def rowValues (platform intent : String) (parsed : ParseResult V) (subject : Cell V)
    (field : String) : List (Cell V) :=
  if subject = .none ∨ recordKey platform intent = some field then []
  else
    (parsed.records.filter (fun r => keyCell (recordKey platform intent) r = some subject)).filterMap
      (fun r => stable (volatileFields platform intent) r field)

/-- The values of a field in one snapshot: one for the `meta`, one for each row of the subject. -/
def valuesIn (snapshot : Evidence V) (k : FlapKey V) : List (Cell V) :=
  match snapshot.parsed? k.1 with
  | none => []
  | some parsed =>
    match k.2.1 with
    | none => (stable (volatileFields snapshot.resolvedPlatform k.1) parsed.meta k.2.2).toList
    | some subject => rowValues snapshot.resolvedPlatform k.1 parsed subject k.2.2

omit [DecidableEq V] in
lemma distinct_tracked (volatile : List String) (d : Fields V) :
    ((tracked volatile d).map Prod.fst).Nodup :=
  List.Nodup.sublist (List.filter_sublist.map Prod.fst) d.distinct

omit [DecidableEq V] in
lemma lookup_tracked (volatile : List String) (d : Fields V) (field : String) :
    (tracked volatile d).lookup field = stable volatile d field := by
  rw [tracked, ListSearch.lookup_filter_key (fun name => decide (name ∉ volatile)), stable,
    Fields.get?]
  by_cases h : field ∈ volatile
  · rw [if_pos h, if_neg (by simpa using h)]
  · rw [if_neg h, if_pos (decide_eq_true h)]

lemma valuesAt_map_fields (k : FlapKey V) (intent : String) (subject : Option (Cell V))
    {fields : List (String × Cell V)} (hdistinct : (fields.map Prod.fst).Nodup) :
    Gathering.valuesAt k (fields.map (fun entry => ((intent, subject, entry.1), entry.2))) =
      if k.1 = intent ∧ k.2.1 = subject then (fields.lookup k.2.2).toList else [] := by
  obtain ⟨kIntent, kSubject, field⟩ := k
  rw [Gathering.valuesAt, List.filterMap_map]
  by_cases h : kIntent = intent ∧ kSubject = subject
  · obtain ⟨rfl, rfl⟩ := h
    rw [if_pos ⟨rfl, rfl⟩, List.filterMap_eq_flatMap_toList,
      ListSearch.flatMap_eq_of_lookup hdistinct field]
    · cases fields.lookup field with
      | none => rfl
      | some value => simp
    · intro entry _ hne
      simp [hne]
  · rw [if_neg h, List.filterMap_eq_nil_iff]
    intro entry _
    refine if_neg (fun hkey => h ?_)
    have hkey' := Prod.mk.inj hkey
    exact ⟨hkey'.1.symm, (Prod.mk.inj hkey'.2).1.symm⟩

lemma valuesAt_recordEntries (k : FlapKey V) (platform intent keyField : String)
    (record : Fields V) :
    Gathering.valuesAt k
        (recordEntries intent keyField (volatileFields platform intent) record) =
      if k.1 = intent ∧ record.get? keyField = k.2.1 ∧ k.2.1 ≠ some .none ∧ k.2.1 ≠ none ∧
          keyField ≠ k.2.2 then
        (stable (volatileFields platform intent) record k.2.2).toList
      else [] := by
  have hsubject (subject : Cell V) (hne : subject ≠ .none)
      (hget : record.get? keyField = some subject) :
      Gathering.valuesAt k (((tracked (volatileFields platform intent) record).filter
          (fun entry => entry.1 ≠ keyField)).map
            fun entry => ((intent, some subject, entry.1), entry.2)) =
        if k.1 = intent ∧ record.get? keyField = k.2.1 ∧ k.2.1 ≠ some .none ∧ k.2.1 ≠ none ∧
            keyField ≠ k.2.2 then
          (stable (volatileFields platform intent) record k.2.2).toList
        else [] := by
    rw [valuesAt_map_fields k intent (some subject) (List.Nodup.sublist
        (List.filter_sublist.map Prod.fst) (distinct_tracked _ record)),
      ListSearch.lookup_filter_key (fun name => decide (name ≠ keyField)), lookup_tracked, hget]
    by_cases hmatch : k.1 = intent ∧ k.2.1 = some subject
    · rw [if_pos hmatch]
      obtain ⟨hintent, hsubject⟩ := hmatch
      by_cases hfield : k.2.2 = keyField
      · rw [if_neg (by simpa using hfield), if_neg]
        · rfl
        · exact fun h => h.2.2.2.2 hfield.symm
      · rw [if_pos (decide_eq_true hfield), if_pos]
        exact ⟨hintent, hsubject.symm, fun h => hne (Option.some.inj (hsubject.symm.trans h)),
          fun h => Option.some_ne_none _ (hsubject.symm.trans h), Ne.symm hfield⟩
    · rw [if_neg hmatch, if_neg]
      exact fun h => hmatch ⟨h.1, h.2.1.symm⟩
  rw [recordEntries]
  cases hget : record.get? keyField with
  | none =>
    rw [if_neg (fun h => h.2.2.2.1 h.2.1.symm)]
    rfl
  | some subject =>
    cases subject with
    | none =>
      rw [if_neg (fun h => h.2.2.1 h.2.1.symm)]
      rfl
    | text s =>
      have h := hsubject (.text s) (fun h => nomatch h) hget
      rw [hget] at h
      exact h
    | other v =>
      have h := hsubject (.other v) (fun h => nomatch h) hget
      rw [hget] at h
      exact h

omit [DecidableEq V] in
lemma filterMap_filter_eq_flatMap {α β : Type} (p : α → Bool) (f : α → Option β) (l : List α) :
    (l.filter p).filterMap f = l.flatMap (fun a => if p a = true then (f a).toList else []) := by
  rw [List.filterMap_filter, List.filterMap_eq_flatMap_toList]
  apply List.flatMap_congr
  intro a _
  split
  · rfl
  · rfl

lemma valuesAt_sectionEntries (k : FlapKey V) (platform intent : String)
    (parsed : ParseResult V) :
    Gathering.valuesAt k (sectionEntries platform intent parsed) =
      if k.1 = intent then
        match k.2.1 with
        | none => (stable (volatileFields platform intent) parsed.meta k.2.2).toList
        | some subject => rowValues platform intent parsed subject k.2.2
      else [] := by
  obtain ⟨kIntent, kSubject, field⟩ := k
  rw [sectionEntries, Gathering.valuesAt_append,
    valuesAt_map_fields _ intent none (distinct_tracked _ parsed.meta), lookup_tracked]
  dsimp only
  have hrows : Gathering.valuesAt (kIntent, kSubject, field)
      (match recordKey platform intent with
        | none => []
        | some keyField =>
          parsed.records.flatMap (recordEntries intent keyField (volatileFields platform intent))) =
        match kSubject with
        | none => []
        | some subject =>
          if kIntent = intent then rowValues platform intent parsed subject field else [] := by
    cases hkey : recordKey platform intent with
    | none =>
      cases kSubject with
      | none => rfl
      | some subject =>
        have hnone : rowValues platform intent parsed subject field = [] := by
          rw [rowValues, hkey]
          split
          · rfl
          · rw [List.filter_eq_nil_iff.mpr (fun r _ h => nomatch of_decide_eq_true h)]
            rfl
        dsimp only
        rw [hnone, ite_self]
        rfl
    | some keyField =>
      dsimp only
      rw [Gathering.valuesAt_flatMap]
      simp only [valuesAt_recordEntries _ platform]
      cases kSubject with
      | none => simp
      | some subject =>
        dsimp only
        rw [rowValues, hkey, filterMap_filter_eq_flatMap]
        by_cases hintent : kIntent = intent
        · by_cases hskip : subject = .none ∨ some keyField = some field
          · rw [if_pos hintent, if_pos hskip, List.flatMap_eq_nil_iff]
            intro r _
            refine if_neg (fun h => ?_)
            rcases hskip with hnone | hfield
            · exact h.2.2.1 (congrArg some hnone)
            · exact h.2.2.2.2 (Option.some.inj hfield)
          · rw [if_pos hintent, if_neg hskip]
            rw [not_or] at hskip
            apply List.flatMap_congr
            intro r _
            have hcell : keyCell (some keyField) r = r.get? keyField := rfl
            by_cases hget : r.get? keyField = some subject
            · rw [if_pos, if_pos]
              · rw [hcell]
                exact decide_eq_true hget
              · exact ⟨hintent, hget, fun h => hskip.1 (Option.some.inj h), Option.some_ne_none _,
                  fun h => hskip.2 (congrArg some h)⟩
            · rw [if_neg, if_neg]
              · rw [hcell, decide_eq_true_eq]
                exact hget
              · exact fun h => hget h.2.1
        · rw [if_neg hintent, List.flatMap_eq_nil_iff]
          exact fun r _ => if_neg (fun h => hintent h.1)
  rw [hrows]
  cases kSubject with
  | none => simp
  | some subject => simp

theorem valuesAt_snapshotEntries (k : FlapKey V) (snapshot : Evidence V) :
    Gathering.valuesAt k (snapshotEntries snapshot) = valuesIn snapshot k := by
  rw [snapshotEntries, Gathering.valuesAt_flatMap,
    ListSearch.flatMap_eq_of_lookup snapshot.distinct k.1]
  · rw [valuesIn, Evidence.parsed?, Evidence.section?]
    cases snapshot.sections.lookup k.1 with
    | none => rfl
    | some sec =>
      rw [Option.map_some, Option.getD_some, Option.bind_some]
      cases sec.parsed? with
      | none => rfl
      | some parsed =>
        dsimp only
        rw [valuesAt_sectionEntries, if_pos rfl]
  · intro entry _ hne
    cases entry.2.parsed? with
    | none => rfl
    | some parsed =>
      dsimp only
      rw [valuesAt_sectionEntries, if_neg (Ne.symm hne)]

theorem mem_flapping_iff {str : V → String} {deviceName : String} {history : List (Evidence V)}
    {skipped minTransitions : Nat} (hmin : 1 ≤ minTransitions) {flap : Flap V} :
    flap ∈ (detectFlaps str deviceName history skipped minTransitions).flapping ↔
      flap.values = history.flatMap (fun s => valuesIn s (flap.intent, flap.subject, flap.field)) ∧
        flap.transitions = Gathering.transitions flap.values ∧
          minTransitions ≤ flap.transitions := by
  have hvalues (k : FlapKey V) : Gathering.valuesAt k (history.flatMap snapshotEntries) =
      history.flatMap (fun s => valuesIn s k) := by
    rw [Gathering.valuesAt_flatMap]
    simp only [valuesAt_snapshotEntries]
  rw [detectFlaps]
  dsimp only
  rw [List.mem_insertionSort, List.mem_filterMap, flapSequences]
  constructor
  · rintro ⟨⟨k, values⟩, hmem, hflap⟩
    dsimp only at hflap
    split at hflap
    · rename_i henough
      cases hflap
      exact ⟨(Gathering.mem_gather_iff.mp hmem).1.trans (hvalues k), rfl, henough⟩
    · cases hflap
  · rintro ⟨hflap, htransitions, henough⟩
    refine ⟨((flap.intent, flap.subject, flap.field), flap.values), ?_, ?_⟩
    · refine Gathering.mem_gather_iff.mpr ⟨hflap.trans (hvalues _).symm, fun hempty => ?_⟩
      rw [hempty, Gathering.transitions_nil] at htransitions
      omega
    · dsimp only
      rw [← htransitions, if_pos henough]

/-- Two snapshots carry the same parsed content outside the volatile fields. -/
structure SameContent (s s' : Evidence V) : Prop where
  platform : s.resolvedPlatform = s'.resolvedPlatform
  content : ∀ intent, Option.Rel (fun p p' : ParseResult V =>
    stable (volatileFields s.resolvedPlatform intent) p.meta =
        stable (volatileFields s.resolvedPlatform intent) p'.meta ∧
      p.records.map (stable (volatileFields s.resolvedPlatform intent)) =
        p'.records.map (stable (volatileFields s.resolvedPlatform intent)))
    (s.parsed? intent) (s'.parsed? intent)

lemma rowValues_eq (platform intent : String) (parsed : ParseResult V) (subject : Cell V)
    (field : String) :
    rowValues platform intent parsed subject field =
      if subject = .none ∨ recordKey platform intent = some field then []
      else
        ((parsed.records.map (stable (volatileFields platform intent))).filter
          (fun content => (recordKey platform intent).bind content = some subject)).filterMap
            (fun content => content field) := by
  rw [rowValues, List.filter_map, List.filterMap_map]
  simp only [Function.comp_def, stable_recordKey]

lemma SameContent.valuesIn_eq {s s' : Evidence V} (h : SameContent s s') (k : FlapKey V) :
    valuesIn s k = valuesIn s' k := by
  have hcontent := h.content k.1
  rw [valuesIn, valuesIn, ← h.platform]
  cases hs : s.parsed? k.1 with
  | none =>
    cases hs' : s'.parsed? k.1 with
    | none => rfl
    | some p' =>
      rw [hs, hs'] at hcontent
      cases hcontent
  | some p =>
    cases hs' : s'.parsed? k.1 with
    | none =>
      rw [hs, hs'] at hcontent
      cases hcontent
    | some p' =>
      rw [hs, hs'] at hcontent
      obtain ⟨hmeta, hrecords⟩ := Option.rel_some_some.mp hcontent
      cases k.2.1 with
      | none =>
        dsimp only
        rw [hmeta]
      | some subject =>
        dsimp only
        rw [rowValues_eq, rowValues_eq, hrecords]

/-- The changes of the values of one snapshot over `n` copies of it. -/
def repeatedChanges (n : Nat) (values : List (Cell V)) : Nat :=
  n * Gathering.transitions values + (n - 1) * Gathering.change values.getLast? values.head?

def OneRow (k : FlapKey V) (s : Evidence V) : Prop := (valuesIn s k).length ≤ 1

omit [DecidableEq V] in
lemma flatMap_eq_replicate {s : Evidence V} {history : List (Evidence V)}
    {f : Evidence V → List (Cell V)} (h : ∀ s' ∈ history, f s' = f s) :
    history.flatMap f = (List.replicate history.length (f s)).flatten := by
  induction history with
  | nil => rfl
  | cons s' history ih =>
    rw [List.flatMap_cons, List.length_cons, List.replicate_succ, List.flatten_cons,
      h s' List.mem_cons_self, ih (fun s'' hs'' => h s'' (List.mem_cons_of_mem s' hs''))]

omit [DecidableEq V] in
lemma flatMap_eq_filterMap_head {history : List (Evidence V)} {f : Evidence V → List (Cell V)}
    (h : ∀ s ∈ history, (f s).length ≤ 1) :
    history.flatMap f = history.filterMap (fun s => (f s).head?) := by
  rw [List.filterMap_eq_flatMap_toList]
  apply List.flatMap_congr
  intro s hs
  have hlength := h s hs
  match hvalues : f s with
  | [] => rfl
  | [value] => rfl
  | _ :: _ :: _ =>
    rw [hvalues, List.length_cons, List.length_cons] at hlength
    omega

/-- In a history of one content nothing flaps exactly when no subject has rows that differ in a
field often enough, and where a subject has one row its count is that of the changes over time. -/
theorem detectFlaps_iff (str : V → String) (deviceName : String) (history : List (Evidence V))
    (skipped : Nat) {minTransitions : Nat} (hmin : 1 ≤ minTransitions) :
    ((∀ s ∈ history, ∀ s' ∈ history, SameContent s s') →
        ((detectFlaps str deviceName history skipped minTransitions).flapping = [] ↔
          ∀ s ∈ history, ∀ k, repeatedChanges history.length (valuesIn s k) < minTransitions)) ∧
      ∀ k, (∀ s ∈ history, OneRow k s) → ∀ n,
        ((∃ flap ∈ (detectFlaps str deviceName history skipped minTransitions).flapping,
            (flap.intent, flap.subject, flap.field) = k ∧ flap.transitions = n) ↔
          n = Gathering.transitions (history.filterMap (fun s => (valuesIn s k).head?)) ∧
            minTransitions ≤ n) := by
  constructor
  · intro hsame
    have hchanges (s : Evidence V) (hs : s ∈ history) (k : FlapKey V) :
        Gathering.transitions (history.flatMap (fun s => valuesIn s k)) =
          repeatedChanges history.length (valuesIn s k) := by
      rw [flatMap_eq_replicate (fun s' hs' => (hsame s' hs' s hs).valuesIn_eq k), repeatedChanges]
      obtain ⟨n, hn⟩ := Nat.exists_eq_add_one_of_ne_zero (List.length_pos_of_mem hs).ne'
      rw [hn, Gathering.transitions_replicate, Nat.add_sub_cancel]
    rw [List.eq_nil_iff_forall_not_mem]
    constructor
    · intro hnone s hs k
      by_contra hge
      rw [not_lt, ← hchanges s hs k] at hge
      exact hnone ⟨k.1, k.2.1, k.2.2, _, _⟩ ((mem_flapping_iff hmin).mpr ⟨rfl, rfl, hge⟩)
    · intro hlt flap hflap
      obtain ⟨hvalues, htransitions, henough⟩ := (mem_flapping_iff hmin).mp hflap
      cases history with
      | nil =>
        rw [htransitions, hvalues, List.flatMap_nil, Gathering.transitions_nil] at henough
        omega
      | cons s history =>
        have hs : s ∈ s :: history := List.mem_cons_self
        have hfew := hlt s hs (flap.intent, flap.subject, flap.field)
        rw [← hchanges s hs, ← hvalues, ← htransitions] at hfew
        omega
  · intro k hone n
    rw [← flatMap_eq_filterMap_head hone]
    constructor
    · rintro ⟨flap, hflap, hkey, hcount⟩
      obtain ⟨hvalues, htransitions, henough⟩ := (mem_flapping_iff hmin).mp hflap
      rw [hkey] at hvalues
      rw [hcount] at htransitions henough
      exact ⟨by rw [htransitions, hvalues], henough⟩
    · rintro ⟨hcount, henough⟩
      refine ⟨⟨k.1, k.2.1, k.2.2, n, history.flatMap (fun s => valuesIn s k)⟩,
        (mem_flapping_iff hmin).mpr ⟨rfl, hcount, henough⟩, rfl, rfl⟩

def lldpRow (neighbor : String) : Fields Empty :=
  ⟨[("local_interface", .text "Gi0/0/0/0"), ("neighbor", .text neighbor)], by simp⟩

def twoNeighbors (first second : String) : Evidence Empty where
  platform := some "cisco_xr"
  sections := [("lldp", {
    status := some "success"
    data := {
      parsed := some ⟨⟨[], List.nodup_nil⟩, [lldpRow first, lldpRow second]⟩
      parseStatus := some PARSE_OK } })]
  distinct := by simp

omit [DecidableEq V] in
lemma sameContent_refl (s : Evidence V) : SameContent s s := by
  refine ⟨rfl, fun intent => ?_⟩
  cases s.parsed? intent with
  | none => exact .none
  | some p => exact .some ⟨rfl, rfl⟩

theorem detectFlaps_iff_twoNeighbors :
    (detectFlaps Empty.elim "P1" (List.replicate 2 (twoNeighbors "PE1" "PE2")) 0 4).flapping = [] ↔
      ∀ s ∈ List.replicate 2 (twoNeighbors "PE1" "PE2"), ∀ k,
        repeatedChanges 2 (valuesIn s k) < 4 := by
  apply (detectFlaps_iff Empty.elim "P1" (List.replicate 2 (twoNeighbors "PE1" "PE2")) 0
    (by decide : 1 ≤ 4)).1
  intro s hs s' hs'
  rw [List.eq_of_mem_replicate hs, List.eq_of_mem_replicate hs']
  exact sameContent_refl _

/-- Two snapshots of the same two neighbours count three transitions. -/
theorem detectFlaps_fails_twoNeighbors :
    (∀ s ∈ List.replicate 2 (twoNeighbors "PE1" "PE2"),
        ∀ s' ∈ List.replicate 2 (twoNeighbors "PE1" "PE2"), SameContent s s') ∧
      (detectFlaps Empty.elim "P1" (List.replicate 2 (twoNeighbors "PE1" "PE2")) 0 3).flapping.map
        Flap.transitions = [3] := by
  constructor
  · intro s hs s' hs'
    rw [List.eq_of_mem_replicate hs, List.eq_of_mem_replicate hs']
    exact sameContent_refl _
  · decide +kernel

end Snapshots

end NetTools
