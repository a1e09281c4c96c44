import NetTools.Grounding.Reports

/-!
# Which reports pass

A report makes the argument of a descent when its citations hold and each link of the chain is cited
by an interpretation. The gate looks for one observation of each link only, the one that it leads
with.
-/

namespace NetTools

namespace Grounding

section Citations

variable (repr : Value → String)

def Names (labels : List String) (reference : Value) : Prop :=
  ∃ label ∈ labels, reference = .str label

def Observes (evidenceKeys : List String) (observation : Value) : Prop :=
  ∃ item, observation = .dict item ∧ hasClaim item = true ∧
    ∃ key ∈ evidenceKeys, evidenceKeyOf observation = some key

def Stated (observation : Value) : Prop :=
  ∀ key, evidenceKeyOf observation = some key → isBlank key = false

def Infers (labels : List String) (interpretation : Value) : Prop :=
  ∃ item, interpretation = .dict item ∧ hasClaim item = true ∧ basedOn item ≠ [] ∧
    ∀ reference ∈ basedOn item, Names labels reference

lemma claimFailure_eq_nil_iff {item : Dict} {label detail : String} :
    claimFailure item label detail = [] ↔ hasClaim item = true := by
  rw [claimFailure]
  split <;> simp_all

lemma citedKey_eq_some_iff {item : Dict} {key : String} :
    citedKey item = some key ↔ evidenceKeyOf (.dict item) = some key ∧ isBlank key = false := by
  rw [citedKey, evidenceKeyOf]
  constructor
  · intro h
    split at h
    · split at h
      · cases h
      · cases h
        rename_i hblank
        exact ⟨rfl, Bool.eq_false_iff.mpr hblank⟩
    · cases h
  · rintro ⟨h, hblank⟩
    split at h
    · cases h
      rw [if_neg (Bool.eq_false_iff.mp hblank)]
    · cases h

lemma checkObservation_iff {evidenceKeys : List String} (label : String) {observation : Value} :
    (checkObservation repr evidenceKeys label observation).1 = [] ↔
      Observes evidenceKeys observation ∧ Stated observation := by
  cases observation with
  | dict item =>
    rw [checkObservation]
    cases hcited : citedKey item with
    | none =>
      constructor
      · intro h
        simp at h
      · rintro ⟨⟨item', hitem, -, key, -, hkey⟩, hstated⟩
        rw [citedKey_eq_some_iff.mpr ⟨hkey, hstated key hkey⟩] at hcited
        cases hcited
    | some key =>
      obtain ⟨hkey, hblank⟩ := citedKey_eq_some_iff.mp hcited
      rw [List.append_eq_nil_iff, claimFailure_eq_nil_iff]
      constructor
      · rintro ⟨hclaim, hknown⟩
        by_cases hmem : key ∈ evidenceKeys
        · refine ⟨⟨item, rfl, hclaim, key, hmem, hkey⟩, ?_⟩
          intro key' hkey'
          rw [hkey] at hkey'
          cases hkey'
          exact hblank
        · rw [if_neg hmem] at hknown
          cases hknown
      · rintro ⟨⟨item', hitem, hclaim, key', hmem, hkey'⟩, -⟩
        cases hitem
        rw [hkey] at hkey'
        cases hkey'
        exact ⟨hclaim, if_pos hmem⟩
  | _ =>
    constructor
    · intro h
      cases h
    · rintro ⟨⟨item, hitem, -⟩, -⟩
      cases hitem

lemma isMember_eq_true_iff {labels : List String} {reference : Value} :
    isMember labels reference = .ok true ↔ Names labels reference := by
  cases reference with
  | str text => simp [isMember, Names]
  | _ => simp [isMember, Names]

lemma checkReferences_iff {labels : List String} (place : String) {references : List Value} :
    checkReferences repr labels place references = .ok [] ↔
      ∀ reference ∈ references, Names labels reference := by
  induction references with
  | nil => simp [checkReferences]
  | cons reference references ih =>
    rw [List.forall_mem_cons, ← ih, ← isMember_eq_true_iff, checkReferences]
    cases hmember : isMember labels reference with
    | error error =>
      constructor
      · intro h
        cases h
      · rintro ⟨h, -⟩
        cases h
    | ok there =>
      cases hrest : checkReferences repr labels place references with
      | error error =>
        constructor
        · intro h
          cases h
        · rintro ⟨-, h⟩
          cases h
      | ok rest =>
        change Except.ok ((if there then _ else _) ++ rest) = Except.ok [] ↔ _
        cases there <;> simp

def Passes (checked : Except HashError (List GroundingFailure × Nat)) : Prop :=
  ∃ count, checked = .ok ([], count)

lemma checkInterpretation_iff {labels : List String} (place : String) {interpretation : Value} :
    Passes (checkInterpretation repr labels place interpretation) ↔
      Infers labels interpretation := by
  cases interpretation with
  | dict item =>
    rw [checkInterpretation]
    by_cases hnone : (basedOn item).isEmpty = true
    · rw [if_pos hnone]
      constructor
      · rintro ⟨count, h⟩
        have hfailures := congrArg Prod.fst (Except.ok.inj h)
        simp at hfailures
      · rintro ⟨item', hitem, -, hne, -⟩
        cases hitem
        exact absurd (List.isEmpty_iff.mp hnone) hne
    · rw [if_neg hnone]
      have hne : basedOn item ≠ [] := fun h => hnone (List.isEmpty_iff.mpr h)
      cases hrefs : checkReferences repr labels place (basedOn item) with
      | error error =>
        constructor
        · rintro ⟨count, h⟩
          cases h
        · rintro ⟨item', hitem, -, -, hnames⟩
          cases hitem
          rw [← checkReferences_iff repr place, hrefs] at hnames
          cases hnames
      | ok dangling =>
        constructor
        · rintro ⟨count, h⟩
          have hfailures := congrArg Prod.fst (Except.ok.inj h)
          dsimp only at hfailures
          rw [List.append_eq_nil_iff, claimFailure_eq_nil_iff] at hfailures
          refine ⟨item, rfl, hfailures.1, hne, ?_⟩
          rw [← checkReferences_iff repr place, hrefs, hfailures.2]
        · rintro ⟨item', hitem, hclaim, -, hnames⟩
          cases hitem
          rw [← checkReferences_iff repr place, hrefs] at hnames
          cases hnames
          refine ⟨(basedOn item).length, ?_⟩
          change Except.ok (claimFailure item place _ ++ [], _) = _
          rw [claimFailure_eq_nil_iff.mpr hclaim]
          rfl
  | _ =>
    constructor
    · rintro ⟨count, h⟩
      cases h
    · rintro ⟨item, hitem, -⟩
      cases hitem

lemma checkInterpretations_iff {labels : List String} (index : Nat)
    {interpretations : List Value} :
    Passes (checkInterpretations repr labels index interpretations) ↔
      ∀ interpretation ∈ interpretations, Infers labels interpretation := by
  induction interpretations generalizing index with
  | nil => simp [checkInterpretations, Passes]
  | cons interpretation interpretations ih =>
    rw [List.forall_mem_cons, ← ih (index + 1),
      ← checkInterpretation_iff repr ("interp-" ++ toString index), checkInterpretations]
    cases hfirst : checkInterpretation repr labels ("interp-" ++ toString index)
        interpretation with
    | error error => simp [Passes, bind, Except.bind]
    | ok first =>
      cases hrest : checkInterpretations repr labels (index + 1) interpretations with
      | error error => simp [Passes, bind, Except.bind]
      | ok rest =>
        change Passes (.ok (first.1 ++ rest.1, first.2 + rest.2)) ↔ _
        constructor
        · rintro ⟨count, h⟩
          have hfailures := congrArg Prod.fst (Except.ok.inj h)
          rw [List.append_eq_nil_iff] at hfailures
          exact ⟨⟨first.2, congrArg Except.ok (Prod.ext hfailures.1 rfl)⟩,
            ⟨rest.2, congrArg Except.ok (Prod.ext hfailures.2 rfl)⟩⟩
        · rintro ⟨⟨count, hcount⟩, ⟨count', hcount'⟩⟩
          cases hcount
          cases hcount'
          exact ⟨count + count', rfl⟩

end Citations

section Chain

variable {observations : List Value} {outcome : RungOutcome}

def labelAt (index : Nat) : String := "obs-" ++ toString (index + 1)

def CitesKey (observations : List Value) (index : Nat) (key : String) : Prop :=
  observations[index]?.bind evidenceKeyOf = some key

/-- The observation at a place is the one that the gate looks for: it is the first that cites a key
of the rung, and no observation cites an earlier key of it. -/
def Leads (observations : List Value) (outcome : RungOutcome) (index : Nat) : Prop :=
  ∃ before key after, outcome.result.evidenceKeys = before ++ key :: after ∧
    (∀ earlier ∈ before, ∀ other, ¬CitesKey observations other earlier) ∧
    CitesKey observations index key ∧ ∀ other < index, ¬CitesKey observations other key

lemma lookup_filterMap_pair {κ ρ W : Type} [BEq κ] [LawfulBEq κ] (f : ρ → Option κ) (key : κ)
    (l : List (W × ρ)) :
    (l.filterMap (fun entry => (f entry.2).map (fun k => (k, entry.1)))).lookup key =
      (l.find? (fun entry => f entry.2 == some key)).map Prod.fst := by
  induction l with
  | nil => rfl
  | cons entry l ih =>
    rw [List.filterMap_cons, List.find?_cons]
    cases hkey : f entry.2 with
    | none =>
      rw [show ((none : Option κ) == some key) = false from rfl]
      exact ih
    | some k =>
      change ((k, entry.1) :: _).lookup key = _
      rw [List.lookup_cons, Option.some_beq_some]
      by_cases heq : k = key
      · rw [heq, beq_self_eq_true]
        rfl
      · rw [beq_eq_false_iff_ne.mpr heq, beq_eq_false_iff_ne.mpr (Ne.symm heq)]
        exact ih

lemma getElem?_zip_labels (index : Nat) :
    ((observationLabels observations.length).zip observations)[index]? =
      observations[index]?.map (fun observation => (labelAt index, observation)) := by
  by_cases hindex : index < observations.length
  · simp [observationLabels, labelAt, hindex]
  · simp [observationLabels, hindex]

lemma lookup_keyToLabel_eq_some_iff {key label : String} :
    (keyToLabel observations).lookup key = some label ↔
      ∃ index, CitesKey observations index key ∧
        (∀ other < index, ¬CitesKey observations other key) ∧ label = labelAt index := by
  have hcites : ∀ index entry,
      ((observationLabels observations.length).zip observations)[index]? = some entry →
        ((evidenceKeyOf entry.2 == some key) = true ↔ CitesKey observations index key) ∧
          entry.1 = labelAt index := by
    intro index entry hentry
    rw [getElem?_zip_labels, Option.map_eq_some_iff] at hentry
    obtain ⟨observation, hobservation, rfl⟩ := hentry
    rw [beq_iff_eq, CitesKey, hobservation]
    exact ⟨Iff.rfl, rfl⟩
  have hinside : ∀ index, CitesKey observations index key →
      ∃ entry, ((observationLabels observations.length).zip observations)[index]? = some entry := by
    intro index hkey
    obtain ⟨observation, hobservation, -⟩ := Option.bind_eq_some_iff.mp hkey
    rw [getElem?_zip_labels, hobservation]
    exact ⟨_, rfl⟩
  rw [keyToLabel, lookup_filterMap_pair, Option.map_eq_some_iff]
  constructor
  · rintro ⟨entry, hfind, rfl⟩
    obtain ⟨hkey, index, hlt, hentry, hbefore⟩ := List.find?_eq_some_iff_getElem.mp hfind
    have hat := hcites index entry (List.getElem?_eq_some_iff.mpr ⟨hlt, hentry⟩)
    refine ⟨index, hat.1.mp hkey, ?_, hat.2⟩
    intro other hother hcited
    obtain ⟨entry', hentry'⟩ := hinside other hcited
    obtain ⟨hlt', hget⟩ := List.getElem?_eq_some_iff.mp hentry'
    have hnot := hbefore other hother
    rw [hget, (hcites other entry' hentry').1.mpr hcited] at hnot
    cases hnot
  · rintro ⟨index, hcited, hbefore, rfl⟩
    obtain ⟨entry, hentry⟩ := hinside index hcited
    obtain ⟨hlt, hget⟩ := List.getElem?_eq_some_iff.mp hentry
    have hat := hcites index entry hentry
    refine ⟨entry, List.find?_eq_some_iff_getElem.mpr ⟨hat.1.mpr hcited, index, hlt, hget, ?_⟩,
      hat.2⟩
    intro other hother
    rw [Bool.not_eq_true', Bool.eq_false_iff]
    intro hkey
    have hget' := List.getElem?_eq_getElem (hother.trans hlt)
    exact hbefore other hother ((hcites other _ hget').1.mp hkey)

lemma lookup_keyToLabel_eq_none_iff {key : String} :
    (keyToLabel observations).lookup key = none ↔ ∀ index, ¬CitesKey observations index key := by
  constructor
  · intro hnone index hcited
    -- the first observation that cites the key has the label
    obtain ⟨first, hfirst, hbefore⟩ : ∃ first, CitesKey observations first key ∧
        ∀ other < first, ¬CitesKey observations other key := by
      classical
      have hsome : ∃ first, CitesKey observations first key := ⟨index, hcited⟩
      exact ⟨Nat.find hsome, Nat.find_spec hsome, fun other hother => Nat.find_min hsome hother⟩
    have hsome := lookup_keyToLabel_eq_some_iff.mpr ⟨first, hfirst, hbefore, rfl⟩
    rw [hnone] at hsome
    cases hsome
  · intro hnever
    rw [Option.eq_none_iff_forall_ne_some]
    intro label hsome
    obtain ⟨index, hcited, -⟩ := lookup_keyToLabel_eq_some_iff.mp hsome
    exact hnever index hcited

lemma rungLabel_eq_some_iff {label : String} :
    rungLabel (keyToLabel observations) outcome = some label ↔
      ∃ index, Leads observations outcome index ∧ label = labelAt index := by
  rw [rungLabel, List.findSome?_eq_some_iff]
  constructor
  · rintro ⟨before, key, after, hkeys, hlabel, hbefore⟩
    obtain ⟨index, hcited, hfirst, hat⟩ := lookup_keyToLabel_eq_some_iff.mp hlabel
    refine ⟨index, ⟨before, key, after, hkeys, ?_, hcited, hfirst⟩, hat⟩
    exact fun earlier hearlier => lookup_keyToLabel_eq_none_iff.mp (hbefore earlier hearlier)
  · rintro ⟨index, ⟨before, key, after, hkeys, hbefore, hcited, hfirst⟩, hat⟩
    refine ⟨before, key, after, hkeys,
      lookup_keyToLabel_eq_some_iff.mpr ⟨index, hcited, hfirst, hat⟩, ?_⟩
    exact fun earlier hearlier => lookup_keyToLabel_eq_none_iff.mpr (hbefore earlier hearlier)

lemma rungLabel_isSome_iff :
    (rungLabel (keyToLabel observations) outcome).isSome = true ↔
      ∃ index, ∃ key ∈ outcome.result.evidenceKeys, CitesKey observations index key := by
  rw [rungLabel, List.findSome?_isSome_iff]
  constructor
  · rintro ⟨key, hkey, hlabel⟩
    obtain ⟨label, hsome⟩ := Option.isSome_iff_exists.mp hlabel
    obtain ⟨index, hcited, -⟩ := lookup_keyToLabel_eq_some_iff.mp hsome
    exact ⟨index, key, hkey, hcited⟩
  · rintro ⟨index, key, hkey, hcited⟩
    refine ⟨key, hkey, ?_⟩
    rw [Option.isSome_iff_ne_none]
    intro hnone
    exact lookup_keyToLabel_eq_none_iff.mp hnone index hcited

lemma lookup_rungLabels {labels : List (String × String)} {outcomes : List RungOutcome}
    (hdistinct : (outcomes.map RungOutcome.rung).Nodup) (name : String) :
    (rungLabels labels outcomes).lookup name =
      (outcomes.find? (fun outcome => outcome.rung == name)).bind (rungLabel labels) := by
  induction outcomes using List.reverseRecOn with
  | nil => rfl
  | append_singleton outcomes last ih =>
    rw [List.map_append, List.nodup_append'] at hdistinct
    obtain ⟨hinit, -, hapart⟩ := hdistinct
    have hfresh : ∀ outcome ∈ outcomes, outcome.rung ≠ last.rung := by
      intro outcome hmem heq
      refine hapart (List.mem_map_of_mem hmem) ?_
      rw [heq]
      exact List.mem_singleton_self _
    have hinitial := ih hinit
    rw [rungLabels, List.foldl_append, List.foldl_cons, List.foldl_nil, ← rungLabels,
      List.find?_append, List.find?_singleton]
    by_cases hname : last.rung = name
    · have hnone : outcomes.find? (fun outcome => outcome.rung == name) = none := by
        rw [List.find?_eq_none]
        intro outcome hmem
        rw [beq_iff_eq, ← hname]
        exact hfresh outcome hmem
      rw [hnone, Option.bind_none] at hinitial
      rw [hnone, Option.none_or, if_pos (beq_iff_eq.mpr hname), Option.bind_some]
      cases hlabel : rungLabel labels last with
      | none => exact hinitial
      | some label => rw [LastRow.lookup_assign, if_pos hname.symm]
    · rw [if_neg (fun h => hname (beq_iff_eq.mp h)), Option.or_none]
      cases hlabel : rungLabel labels last with
      | none => exact hinitial
      | some label =>
        dsimp only
        rw [LastRow.lookup_assign, if_neg (Ne.symm hname)]
        exact hinitial

lemma argument_eq (descent : DescentResult) :
    argument descent = brokenOutcomes descent.outcomes := by
  have hchain : descent.causalChain = (brokenOutcomes descent.outcomes).dropLast := by
    rw [DescentResult.causalChain]
    by_cases hmany : 1 < (brokenOutcomes descent.outcomes).length
    · exact if_pos hmany
    · refine (if_neg hmany).trans (List.eq_nil_of_length_eq_zero ?_).symm
      rw [List.length_dropLast]
      omega
  rw [argument, hchain, DescentResult.cause]
  cases hlast : (brokenOutcomes descent.outcomes).getLast? with
  | none =>
    rw [List.getLast?_eq_none_iff.mp hlast]
    rfl
  | some cause => exact List.dropLast_append_getLast? cause hlast

/-- Each rung that read something is cited by an observation of its own. -/
def Covered (outcomes : List RungOutcome) (observations : List Value) : Prop :=
  ∀ outcome ∈ outcomes, outcome.result.evidenceKeys ≠ [] →
    ∃ index, ∃ key ∈ outcome.result.evidenceKeys, CitesKey observations index key

/-- The observation that each link of the chain leads with is among what is cited. -/
def LeadsCited (descent : DescentResult) (observations interpretations : List Value) : Prop :=
  ∀ outcome ∈ argument descent, ∀ index, Leads observations outcome index →
    labelAt index ∈ citedLabels interpretations

lemma lookup_required {descent : DescentResult} {labels : List (String × String)}
    (hdistinct : (descent.outcomes.map RungOutcome.rung).Nodup) {outcome : RungOutcome}
    (hmem : outcome ∈ argument descent) :
    (rungLabels labels (descent.outcomes.filter
      (fun outcome => outcome.result.evidenceKeys ≠ []))).lookup outcome.rung =
        rungLabel labels outcome := by
  have hall : outcome ∈ descent.outcomes := by
    rw [argument_eq] at hmem
    exact (List.mem_filter.mp hmem).1
  have hsublist : (descent.outcomes.filter
      (fun outcome => outcome.result.evidenceKeys ≠ [])).Sublist descent.outcomes :=
    List.filter_sublist
  rw [lookup_rungLabels (hdistinct.sublist (hsublist.map _))]
  by_cases hkeys : outcome.result.evidenceKeys = []
  · have hlabel : rungLabel labels outcome = none := by
      rw [rungLabel, hkeys]
      rfl
    rw [hlabel, Option.bind_eq_none_iff]
    intro other hother
    have hfound := List.find?_some hother
    have hmem' := List.mem_filter.mp (List.mem_of_find?_eq_some hother)
    have hsame := List.inj_on_of_nodup_map hdistinct hmem'.1 hall (beq_iff_eq.mp hfound)
    rw [hsame] at hmem'
    simp [hkeys] at hmem'
  · have hmem' : outcome ∈ descent.outcomes.filter
        (fun outcome => outcome.result.evidenceKeys ≠ []) := by
      rw [List.mem_filter]
      exact ⟨hall, by simpa using hkeys⟩
    cases hfind : (descent.outcomes.filter
        (fun outcome => outcome.result.evidenceKeys ≠ [])).find?
        (fun other => other.rung == outcome.rung) with
    | none =>
      have hnot := List.find?_eq_none.mp hfind outcome hmem'
      exact absurd (beq_iff_eq.mpr rfl) hnot
    | some other =>
      have hfound := List.find?_some hfind
      have hsame := List.inj_on_of_nodup_map hdistinct
        (List.mem_filter.mp (List.mem_of_find?_eq_some hfind)).1 hall (beq_iff_eq.mp hfound)
      rw [hsame, Option.bind_some]

theorem ok_checkChainCoverage_iff {report : Value} {descent : DescentResult}
    {interpretations : List Value} (hdistinct : (descent.outcomes.map RungOutcome.rung).Nodup)
    (hobservations : sequence report "observations" = .ok observations)
    (hinterpretations : sequence report "interpretations" = .ok interpretations) :
    (checkChainCoverage report descent).ok = true ↔
      Covered descent.outcomes observations ∧ LeadsCited descent observations interpretations := by
  rw [GroundingResult.ok_iff, checkChainCoverage, hobservations, hinterpretations]
  dsimp only
  rw [List.append_eq_nil_iff, List.map_eq_nil_iff, List.filter_eq_nil_iff,
    List.filterMap_eq_nil_iff]
  refine and_congr ?_ (forall₂_congr ?_)
  · constructor
    · intro hcovered outcome hmem hkeys
      have hnot := hcovered outcome (List.mem_filter.mpr ⟨hmem, by simpa using hkeys⟩)
      rw [Bool.not_eq_true, Option.isNone_eq_false_iff] at hnot
      exact rungLabel_isSome_iff.mp hnot
    · intro hcovered outcome hmem
      obtain ⟨hall, hkeys⟩ := List.mem_filter.mp hmem
      rw [Bool.not_eq_true, Option.isNone_eq_false_iff, rungLabel_isSome_iff]
      exact hcovered outcome hall (by simpa using hkeys)
  · intro outcome hmem
    rw [lookup_required hdistinct hmem]
    constructor
    · intro hcited index hleads
      rw [rungLabel_eq_some_iff.mpr ⟨index, hleads, rfl⟩] at hcited
      by_contra hnot
      dsimp only at hcited
      rw [if_neg hnot] at hcited
      cases hcited
    · intro hcited
      cases hlabel : rungLabel (keyToLabel observations) outcome with
      | none => rfl
      | some label =>
        obtain ⟨index, hleads, rfl⟩ := rungLabel_eq_some_iff.mp hlabel
        exact if_pos (hcited index hleads)

end Chain

/-! ### The reports that pass -/

section Reports

variable (repr : Value → String) (lower : String → String) (u : CharClasses)

/-- The citations of a report hold, and its interpretations argue the chain of the descent. -/
structure Argues (descent : DescentResult) (observations interpretations : List Value) : Prop where
  observed : ∀ observation ∈ observations, Observes (descentEvidenceKeys descent) observation
  inferred : ∀ interpretation ∈ interpretations,
    Infers (observationLabels observations.length) interpretation
  covered : Covered descent.outcomes observations
  argued : ∀ outcome ∈ argument descent, outcome.result.evidenceKeys ≠ [] →
    ∃ index, ∃ key ∈ outcome.result.evidenceKeys,
      CitesKey observations index key ∧ labelAt index ∈ citedLabels interpretations

def Holds (report : Value) (P : List Value → List Value → Prop) : Prop :=
  ∃ observations interpretations, sequence report "observations" = .ok observations ∧
    sequence report "interpretations" = .ok interpretations ∧ P observations interpretations

def MakesArgument (report : Value) (descent : DescentResult) : Prop :=
  Holds report (Argues descent)

/-- The report cites the observations that the links lead with, and no blank key. -/
def CitesLeading (report : Value) (descent : DescentResult) : Prop :=
  Holds report (fun observations interpretations =>
    LeadsCited descent observations interpretations ∧
      ∀ observation ∈ observations, Stated observation)

def Accepted (report : Value) (descent : DescentResult) : Prop :=
  ∃ result, groundReport repr lower u report descent = .ok result ∧ result.ok = true

/-- A report with the descent's own recommendation, whose prose names nothing else than the descent
does. -/
structure Closed (report : Dict) (descent : DescentResult) : Prop where
  contained : (checkIdentifierContainment repr lower u (.dict report) descent).ok = true
  uninvented : (checkNoInventedCause repr lower (.dict report) descent).ok = true
  recommended : ∃ recommendation, Dict.get? report "recommendation" = some (.dict recommendation) ∧
    Dict.get? recommendation "requires_human" = some (.bool true) ∧
    Dict.get? recommendation "next_check" = some (.str (Render.nextCheckFor repr descent.finding))

variable {report : Dict} {descent : DescentResult}

lemma flatMap_checkObservation_eq_nil_iff {evidenceKeys : List String}
    {observations : List Value} :
    (((observationLabels observations.length).zip observations).map
        (fun observation => checkObservation repr evidenceKeys observation.1 observation.2)).flatMap
          Prod.fst = [] ↔
      ∀ observation ∈ observations, Observes evidenceKeys observation ∧ Stated observation := by
  have hlength : observations.length ≤ (observationLabels observations.length).length := by
    rw [observationLabels, List.length_map, List.length_range]
  rw [List.flatMap_eq_nil_iff, List.forall_mem_map]
  constructor
  · intro hnone observation hmem
    rw [← List.map_snd_zip hlength] at hmem
    obtain ⟨entry, hentry, rfl⟩ := List.mem_map.mp hmem
    exact (checkObservation_iff repr entry.1).mp (hnone entry hentry)
  · intro hall entry hentry
    have hmem : entry.2 ∈ observations := by
      rw [← List.map_snd_zip hlength]
      exact List.mem_map_of_mem hentry
    exact (checkObservation_iff repr entry.1).mpr (hall entry.2 hmem)

lemma isBlank_ofList_cons {c : Char} (h : isSpaceChar c = false) (cs : List Char) :
    isBlank (String.ofList (c :: cs)) = false := by
  rw [isBlank, String.toList_ofList, List.all_cons, h, Bool.false_and]

lemma isBlank_nextCheckFor (finding : String) :
    isBlank (Render.nextCheckFor repr finding) = false := by
  have htexts : ∀ entry ∈ Render.NEXT_CHECK, isBlank entry.2 = false := by
    simp only [Render.NEXT_CHECK, List.forall_mem_cons]
    refine ⟨isBlank_append (isBlank_ofList_cons (by decide) _) _,
      isBlank_append (isBlank_ofList_cons (by decide) _) _,
      isBlank_append (isBlank_ofList_cons (by decide) _) _,
      isBlank_append (isBlank_ofList_cons (by decide) _) _,
      isBlank_append (isBlank_ofList_cons (by decide) _) _,
      isBlank_append (isBlank_append (isBlank_ofList_cons (by decide) _) _) _,
      isBlank_append (isBlank_append (isBlank_append
        (isBlank_ofList_cons (by decide) _) _) _) _,
      isBlank_append (isBlank_ofList_cons (by decide) _) _,
      isBlank_append (isBlank_ofList_cons (by decide) _) _,
      isBlank_append (isBlank_ofList_cons (by decide) _) _,
      isBlank_append (isBlank_ofList_cons (by decide) _) _,
      isBlank_append (isBlank_append (isBlank_ofList_cons (by decide) _) _) _,
      isBlank_append (isBlank_ofList_cons (by decide) _) _,
      List.forall_mem_nil _⟩
  rw [Render.nextCheckFor]
  cases hfound : Render.NEXT_CHECK.lookup finding with
  | none =>
    rw [Option.getD_none]
    have hstart : isBlank "No specific guidance is registered for " = false := by decide
    exact isBlank_append (isBlank_append (isBlank_append hstart _) _) _
  | some text =>
    obtain ⟨before, after, hlist, -⟩ := List.lookup_eq_some_iff.mp hfound
    refine htexts (finding, text) ?_
    rw [hlist]
    exact List.mem_append_right _ List.mem_cons_self

lemma checkRecommendationClosed_of_closed (h : Closed repr lower u report descent) :
    checkRecommendationClosed repr (.dict report) descent = { recommendationsChecked := 1 } := by
  obtain ⟨recommendation, hthere, -, hnext⟩ := h.recommended
  rw [checkRecommendationClosed]
  dsimp only
  rw [hthere]
  dsimp only
  rw [hnext]
  dsimp only
  rw [isBlank_nextCheckFor, if_neg Bool.false_ne_true, if_pos rfl]

lemma checkRecommendation_of_closed (h : Closed repr lower u report descent) :
    checkRecommendation report = [] := by
  obtain ⟨recommendation, hthere, hflag, -⟩ := h.recommended
  rw [checkRecommendation, hthere, Option.getD_some]
  dsimp only
  rw [hflag]

lemma accepted_iff (h : Closed repr lower u report descent) :
    Accepted repr lower u (.dict report) descent ↔
      (∃ citations, checkGrounding repr (.dict report) (descentEvidenceKeys descent) =
        .ok citations ∧ citations.ok = true) ∧
      (checkChainCoverage (.dict report) descent).ok = true := by
  rw [Accepted, groundReport]
  cases hcitations : checkGrounding repr (.dict report) (descentEvidenceKeys descent) with
  | error error =>
    constructor
    · rintro ⟨result, hresult, -⟩
      cases hresult
    · rintro ⟨⟨citations, hok, -⟩, -⟩
      cases hok
  | ok citations =>
    have hclosed := checkRecommendationClosed_of_closed repr lower u h
    have hgate := ok_refuseUnmeasured_iff repr ((((citations.merge
      (checkChainCoverage (.dict report) descent)).merge
      (checkIdentifierContainment repr lower u (.dict report) descent)).merge
      (checkRecommendationClosed repr (.dict report) descent)).merge
      (checkNoInventedCause repr lower (.dict report) descent)) (.dict report) "report"
    have hexamined : ((((citations.merge (checkChainCoverage (.dict report) descent)).merge
        (checkIdentifierContainment repr lower u (.dict report) descent)).merge
        (checkRecommendationClosed repr (.dict report) descent)).merge
        (checkNoInventedCause repr lower (.dict report) descent)).Examined := by
      rw [hclosed]
      right; right; right; right; right; right; left
      simp only [GroundingResult.merge]
      omega
    rw [GroundingResult.ok_merge, GroundingResult.ok_merge, GroundingResult.ok_merge,
      GroundingResult.ok_merge, h.contained, h.uninvented, Bool.and_true, Bool.and_true,
      hclosed, show ({ recommendationsChecked := 1 } : GroundingResult).ok = true from rfl,
      Bool.and_true, Bool.and_eq_true] at hgate
    rw [hclosed] at hexamined
    constructor
    · rintro ⟨result, hresult, hok⟩
      cases hresult
      rw [hclosed] at hok
      have hboth := (hgate.mp hok).1
      exact ⟨⟨citations, rfl, hboth.1⟩, hboth.2⟩
    · rintro ⟨⟨citations', hcitations', hok⟩, hcoverage⟩
      cases hcitations'
      refine ⟨_, rfl, ?_⟩
      rw [hclosed]
      exact hgate.mpr ⟨⟨hok, hcoverage⟩, fun _ => hexamined⟩

lemma checkGrounding_iff (h : checkRecommendation report = []) {observations : List Value}
    {interpretations : List Value} {evidenceKeys : List String}
    (hobservations : sequence (.dict report) "observations" = .ok observations)
    (hinterpretations : sequence (.dict report) "interpretations" = .ok interpretations) :
    (∃ citations, checkGrounding repr (.dict report) evidenceKeys = .ok citations ∧
      citations.ok = true) ↔
      (∀ observation ∈ observations, Observes evidenceKeys observation ∧ Stated observation) ∧
        ∀ interpretation ∈ interpretations,
          Infers (observationLabels observations.length) interpretation := by
  rw [← flatMap_checkObservation_eq_nil_iff repr, ← checkInterpretations_iff repr 1, Passes,
    checkGrounding, hobservations, hinterpretations]
  dsimp only
  rw [h]
  cases hinterpreted : checkInterpretations repr (observationLabels observations.length) 1
      interpretations with
  | error error =>
    constructor
    · rintro ⟨citations, hok, -⟩
      cases hok
    · rintro ⟨-, count, hok⟩
      cases hok
  | ok interpreted =>
    constructor
    · rintro ⟨citations, hcitations, hok⟩
      cases hcitations
      rw [GroundingResult.ok_iff] at hok
      dsimp only at hok
      rw [List.append_nil, List.append_eq_nil_iff] at hok
      exact ⟨hok.1, interpreted.2, congrArg Except.ok (Prod.ext hok.2 rfl)⟩
    · rintro ⟨hobserved, count, hok⟩
      cases hok
      refine ⟨_, rfl, ?_⟩
      rw [GroundingResult.ok_iff]
      dsimp only
      rw [hobserved]
      rfl

lemma holds_of_accepted (h : Closed repr lower u report descent)
    (haccepted : Accepted repr lower u (.dict report) descent) :
    Holds (.dict report) (fun _ _ => True) := by
  obtain ⟨⟨citations, hcitations, hok⟩, -⟩ := (accepted_iff repr lower u h).mp haccepted
  rw [checkGrounding] at hcitations
  cases hobservations : sequence (.dict report) "observations" with
  | error failure =>
    rw [hobservations] at hcitations
    cases hcitations
    cases hok
  | ok observations =>
    cases hinterpretations : sequence (.dict report) "interpretations" with
    | error failure =>
      rw [hobservations, hinterpretations] at hcitations
      cases hcitations
      cases hok
    | ok interpretations =>
      exact ⟨observations, interpretations, hobservations, hinterpretations, trivial⟩

lemma argued_of_leadsCited {observations interpretations : List Value}
    (hcovered : Covered descent.outcomes observations)
    (hcited : LeadsCited descent observations interpretations) :
    ∀ outcome ∈ argument descent, outcome.result.evidenceKeys ≠ [] →
      ∃ index, ∃ key ∈ outcome.result.evidenceKeys,
        CitesKey observations index key ∧ labelAt index ∈ citedLabels interpretations := by
  intro outcome hmem hkeys
  have hall : outcome ∈ descent.outcomes := by
    rw [argument_eq] at hmem
    exact (List.mem_filter.mp hmem).1
  have hsome := rungLabel_isSome_iff.mpr (hcovered outcome hall hkeys)
  obtain ⟨label, hlabel⟩ := Option.isSome_iff_exists.mp hsome
  obtain ⟨index, hleads, -⟩ := rungLabel_eq_some_iff.mp hlabel
  obtain ⟨before, key, after, hsplit, -, hkey, -⟩ := id hleads
  refine ⟨index, key, ?_, hkey, hcited outcome hmem index hleads⟩
  rw [hsplit]
  exact List.mem_append_right _ List.mem_cons_self

theorem accepted_iff_leading (hdistinct : (descent.outcomes.map RungOutcome.rung).Nodup)
    (h : Closed repr lower u report descent) :
    Accepted repr lower u (.dict report) descent ↔
      MakesArgument (.dict report) descent ∧ CitesLeading (.dict report) descent := by
  have hadvice := checkRecommendation_of_closed repr lower u h
  constructor
  · intro haccepted
    obtain ⟨observations, interpretations, hobservations, hinterpretations, -⟩ :=
      holds_of_accepted repr lower u h haccepted
    rw [accepted_iff repr lower u h,
      checkGrounding_iff repr hadvice hobservations hinterpretations,
      ok_checkChainCoverage_iff hdistinct hobservations hinterpretations] at haccepted
    obtain ⟨⟨hobserved, hinferred⟩, hcovered, hcited⟩ := haccepted
    refine ⟨⟨observations, interpretations, hobservations, hinterpretations, ?_⟩,
      ⟨observations, interpretations, hobservations, hinterpretations, hcited,
        fun observation hmem => (hobserved observation hmem).2⟩⟩
    exact ⟨fun observation hmem => (hobserved observation hmem).1, hinferred, hcovered,
      argued_of_leadsCited hcovered hcited⟩
  · rintro ⟨⟨observations, interpretations, hobservations, hinterpretations, hargues⟩,
      ⟨observations', interpretations', hobservations', hinterpretations', hcited, hstated⟩⟩
    rw [hobservations] at hobservations'
    cases hobservations'
    rw [hinterpretations] at hinterpretations'
    cases hinterpretations'
    rw [accepted_iff repr lower u h,
      checkGrounding_iff repr hadvice hobservations hinterpretations,
      ok_checkChainCoverage_iff hdistinct hobservations hinterpretations]
    exact ⟨⟨fun observation hmem => ⟨hargues.observed observation hmem, hstated observation hmem⟩,
      hargues.inferred⟩, hargues.covered, hcited⟩

/-- The gate tells the reports that make the argument from the others, except those that make it
without the observations that the links lead with. -/
theorem accepted_iff_makesArgument_iff
    (hdistinct : (descent.outcomes.map RungOutcome.rung).Nodup)
    (h : Closed repr lower u report descent) :
    (Accepted repr lower u (.dict report) descent ↔ MakesArgument (.dict report) descent) ↔
      (MakesArgument (.dict report) descent → CitesLeading (.dict report) descent) := by
  rw [accepted_iff_leading repr lower u hdistinct h]
  exact ⟨fun hsame hargument => (hsame.mpr hargument).2,
    fun hleading => ⟨And.left, fun hargument => ⟨hargument, hleading hargument⟩⟩⟩

/-- `repr` of a text. -/
def reprPlain : Value → String
  | .str text => pyRepr text
  | _ => ""

/-- `str.lower` of ASCII text. -/
def lowerPlain (text : String) : String := String.ofList (text.toList.map Char.toLower)

def sessionDown : DescentResult where
  flow := "bgp_session"
  device := "PE1"
  subject := "10.255.0.12"
  finding := "peer_not_established"
  outcomes :=
    [{ rung := "bgp_session"
       device := "PE1"
       result :=
         { status := .broken
           evidenceKeys := ["PE1:bgp:10.255.0.12"]
           cites := fun _ => List.cons_ne_nil _ _ } }]

def sessionClaim (claim : String) : Value :=
  .dict [("claim", .str claim), ("evidence_key", .str "PE1:bgp:10.255.0.12")]

def observedTwice : List Value :=
  [sessionClaim "The session is down.", sessionClaim "It is not established."]

def reportedTwice (basedOn : List Value) : Dict :=
  [("observations", .list observedTwice),
    ("interpretations", .list
      [.dict [("claim", .str "The peer does not answer."), ("based_on", .list basedOn)]]),
    ("recommendation", .dict
      [("requires_human", .bool true),
        ("next_check", .str (Render.nextCheckFor reprPlain "peer_not_established"))])]

lemma closed_reportedTwice {label : String} (h : label ∈ ["obs-1", "obs-2"]) :
    Closed reprPlain lowerPlain CharClasses.ascii (reportedTwice [.str label]) sessionDown where
  contained := by
    rw [List.mem_pair] at h
    rcases h with rfl | rfl
    · decide +kernel
    · decide +kernel
  uninvented := rfl
  recommended := ⟨_, rfl, rfl, rfl⟩

lemma argues_reportedTwice {label : String} (h : label ∈ ["obs-1", "obs-2"]) :
    MakesArgument (.dict (reportedTwice [.str label])) sessionDown := by
  have hboth : ∀ index < 2, CitesKey observedTwice index "PE1:bgp:10.255.0.12" := by
    intro index hindex
    have hcases : index = 0 ∨ index = 1 := by omega
    rcases hcases with rfl | rfl
    · rfl
    · rfl
  obtain ⟨index, hindex, rfl⟩ : ∃ index < 2, labelAt index = label := by
    rw [List.mem_pair] at h
    rcases h with rfl | rfl
    · exact ⟨0, by decide, by decide⟩
    · exact ⟨1, by decide, by decide⟩
  refine ⟨_, _, rfl, rfl, ⟨?_, ?_, ?_, ?_⟩⟩
  · intro observation hmem
    rw [observedTwice, List.mem_pair] at hmem
    rcases hmem with rfl | rfl
    · exact ⟨_, rfl, by decide, "PE1:bgp:10.255.0.12", by decide, rfl⟩
    · exact ⟨_, rfl, by decide, "PE1:bgp:10.255.0.12", by decide, rfl⟩
  · intro interpretation hmem
    rw [List.mem_singleton] at hmem
    subst hmem
    refine ⟨_, rfl, rfl, List.cons_ne_nil _ _, ?_⟩
    intro reference href
    rw [show reference = .str (labelAt index) from List.mem_singleton.mp href]
    refine ⟨labelAt index, ?_, rfl⟩
    exact List.mem_map_of_mem (List.mem_range.mpr hindex)
  · intro outcome hmem hkeys
    rw [show outcome = _ from List.mem_singleton.mp hmem]
    exact ⟨index, "PE1:bgp:10.255.0.12", List.mem_singleton_self _, hboth index hindex⟩
  · intro outcome hmem hkeys
    rw [show outcome = _ from List.mem_singleton.mp hmem]
    exact ⟨index, "PE1:bgp:10.255.0.12", List.mem_singleton_self _, hboth index hindex,
      List.mem_singleton_self _⟩

theorem accepted_iff_makesArgument_iff_twice :
    Accepted reprPlain lowerPlain CharClasses.ascii (.dict (reportedTwice [.str "obs-1"]))
      sessionDown ↔ MakesArgument (.dict (reportedTwice [.str "obs-1"])) sessionDown := by
  refine (accepted_iff_makesArgument_iff reprPlain lowerPlain CharClasses.ascii (by decide)
    (closed_reportedTwice (by decide))).mpr ?_
  intro _
  refine ⟨_, _, rfl, rfl, ?_, ?_⟩
  · intro outcome hmem index hleads
    have hleading : ∀ outcome ∈ argument sessionDown,
        rungLabel (keyToLabel observedTwice) outcome = some "obs-1" := by decide +kernel
    have hlabel := rungLabel_eq_some_iff.mpr ⟨index, hleads, rfl⟩
    rw [hleading outcome hmem] at hlabel
    rw [← Option.some.inj hlabel]
    exact List.mem_singleton_self _
  · intro observation hmem key hkey
    rw [observedTwice, List.mem_pair] at hmem
    rcases hmem with rfl | rfl
    · rw [← Option.some.inj hkey]
      decide
    · rw [← Option.some.inj hkey]
      decide

theorem makesArgument_not_accepted :
    (sessionDown.outcomes.map RungOutcome.rung).Nodup ∧
      Closed reprPlain lowerPlain CharClasses.ascii (reportedTwice [.str "obs-2"]) sessionDown ∧
      MakesArgument (.dict (reportedTwice [.str "obs-2"])) sessionDown ∧
      ¬Accepted reprPlain lowerPlain CharClasses.ascii (.dict (reportedTwice [.str "obs-2"]))
        sessionDown := by
  refine ⟨by decide, closed_reportedTwice (by decide), argues_reportedTwice (by decide), ?_⟩
  intro haccepted
  have hcovered := ((accepted_iff reprPlain lowerPlain CharClasses.ascii
    (closed_reportedTwice (by decide))).mp haccepted).2
  have hrejected : (checkChainCoverage (.dict (reportedTwice [.str "obs-2"])) sessionDown).ok =
      false := by decide +kernel
  rw [hrejected] at hcovered
  cases hcovered

end Reports

end Grounding

end NetTools
