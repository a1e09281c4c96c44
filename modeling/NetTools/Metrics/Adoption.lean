import NetTools.Metrics.Sharing

/-!
# What a reload adopts

The loader converts the parts of the document one after the other. A call is unbroken by the file
exactly when all numbers of the parts convert, the counters that it touches take its amounts
without rounding and its counts are not too long to print.
-/

namespace NetTools

namespace Metrics

inductive MetricCall where
  | recordCollection (device : String) (success : Bool) (durationS : ℚ) (retries : Nat)
  | recordVerdict (severity : String)
  | recordParaphrase (outcome : String)
  | snapshot
  deriving DecidableEq

namespace MetricCall

def event? : MetricCall → Option MetricEvent
  | .recordCollection device success durationS retries =>
    some (.collection device success durationS retries)
  | .recordVerdict severity => (SEVERITIES.find? (fun s => s.text = severity)).map .verdict
  | .recordParaphrase outcome =>
    (PARAPHRASE_OUTCOMES.find? (fun o => o.text = outcome)).map .paraphrase
  | .snapshot => none

def amount (call : MetricCall) (k : Counter) : Option ℚ := call.event?.bind (fun e => e.amount k)

def reloads : MetricCall → Bool
  | .snapshot => true
  | call => call.event?.isSome

end MetricCall

variable (R : Numerals)

def Counters.call (c : Counters) (file : FileContent) (call : MetricCall) :
    Except ReloadError Unit × Counters :=
  match call with
  | .snapshot => ((c.snapshot R file).1.map (fun _ => ()), (c.snapshot R file).2)
  | call =>
    match call.event? with
    | none => (.ok (), c)
    | some e => ((c.mutate R file e).1, (c.mutate R file e).2.1)

section Parts

variable {κ : Type} (text : κ → String) (names : List κ)

def countsPart : Option Json → Option (κ → ℤ)
  | some (.dict counts) =>
    if ∀ k ∈ names, (readCount R counts (text k)).isOk then
      some (fun k => (readCount R counts (text k)).toOption.getD 0)
    else none
  | _ => none

end Parts

def collectionsPart : Option Json → Option (List (String × DeviceStats))
  | some (.dict entries) => (readCollections R entries).toOption
  | _ => none

/-- The state that the document stands for: a part that does not read as numbers is ignored as a
whole. -/
def Counters.adopted (c : Counters) : FileContent → Counters
  | .document raw => {
      collections := (collectionsPart R (raw.get? "collections")).getD c.collections
      verdicts :=
        (countsPart R Severity.text SEVERITIES (raw.get? "verdicts")).getD c.verdicts
      paraphrases :=
        (countsPart R ParaphraseOutcome.text PARAPHRASE_OUTCOMES (raw.get? "paraphrases")).getD
          c.paraphrases }
  | _ => c

def Counters.basis (c : Counters) (file : FileContent) (call : MetricCall) : Counters :=
  if call.reloads then c.adopted R file else c

/-- `y` is `x` grown by exactly the amount. -/
def GrownBy : Option ℚ → PyFloat → PyFloat → Prop
  | none, x, y => y = x
  | some a, x, y => ∃ q, x = .finite q ∧ y = .finite (q + a)

structure Unbroken (c : Counters) (file : FileContent) (call : MetricCall) : Prop where
  returns : (c.call R file call).1 = .ok ()
  grown : ∀ k, GrownBy (call.amount k) ((c.basis R file call).value k)
    ((c.call R file call).2.value k)

def STAT_FIELDS : List (String × Json) :=
  [("success", .int 0), ("failure", .int 0), ("latency_total_s", .float (.finite 0)),
    ("latency_count", .int 0), ("retries_total", .int 0)]

def Readable : FileContent → Prop
  | .document raw =>
    (∀ entries, raw.get? "collections" = some (.dict entries) →
      ∀ name stats, (name, Json.dict stats) ∈ entries →
        ∀ field ∈ STAT_FIELDS, (readStat R stats field.1 field.2).isOk) ∧
    (∀ counts, raw.get? "verdicts" = some (.dict counts) →
      ∀ s : Severity, (readCount R counts s.text).isOk) ∧
    (∀ counts, raw.get? "paraphrases" = some (.dict counts) →
      ∀ o : ParaphraseOutcome, (readCount R counts o.text).isOk)
  | .tooDeep => False
  | _ => True

def Counters.Showable (c : Counters) : Prop :=
  ∀ entry ∈ c.collections, entry.2.success.IsFinite ∧ entry.2.failure.IsFinite ∧
    entry.2.retriesTotal.IsFinite ∧ entry.2.latencyCount.IsFinite

/-- The counters of the call are finite and take its amounts without rounding. -/
def Counters.Takes (c : Counters) (call : MetricCall) : Prop :=
  ∀ k a, call.amount k = some a →
    ∃ q, c.value k = .finite q ∧ k.plus R (.finite q) a = .finite (q + a)

/-- No count of verdicts or paraphrases is too long for `json.dumps`. -/
structure Counters.Printable (c : Counters) : Prop where
  verdicts : ∀ severity, intFits (c.verdicts severity) = true
  paraphrases : ∀ outcome, intFits (c.paraphrases outcome) = true

structure Harmless (c : Counters) (file : FileContent) (call : MetricCall) : Prop where
  readable : call.reloads = true → Readable R file
  takes : (c.basis R file call).Takes R call
  printable : ∀ e, call.event? = some e → ((c.basis R file call).apply R e).Printable
  showable : call = .snapshot → (c.basis R file call).Showable

section Reload

variable {R}

lemma isOk_iff {ε α : Type} {x : Except ε α} : x.isOk = true ↔ ∃ a, x = .ok a := by
  cases x with
  | error e => simp [Except.isOk, Except.toBool]
  | ok a => simp [Except.isOk, Except.toBool]

lemma readStats_isOk_iff {stats : List (String × Json)} :
    (∃ s, readStats R stats = .ok s) ↔
      ∀ field ∈ STAT_FIELDS, (readStat R stats field.1 field.2).isOk := by
  unfold readStats STAT_FIELDS
  simp only [Validation.bind_eq_ok_iff, List.forall_mem_cons, isOk_iff]
  constructor
  · rintro ⟨s, success, h₁, failure, h₂, total, h₃, count, h₄, retries, h₅, -⟩
    exact ⟨⟨_, h₁⟩, ⟨_, h₂⟩, ⟨_, h₃⟩, ⟨_, h₄⟩, ⟨_, h₅⟩, nofun⟩
  · rintro ⟨⟨_, h₁⟩, ⟨_, h₂⟩, ⟨_, h₃⟩, ⟨_, h₄⟩, ⟨_, h₅⟩, -⟩
    exact ⟨_, _, h₁, _, h₂, _, h₃, _, h₄, _, h₅, rfl⟩

lemma readCollections_isOk_iff {entries : List (String × Json)} :
    (∃ collections, readCollections R entries = .ok collections) ↔
      ∀ name stats, (name, Json.dict stats) ∈ entries →
        ∀ field ∈ STAT_FIELDS, (readStat R stats field.1 field.2).isOk := by
  induction entries with
  | nil => exact ⟨fun _ _ _ h => (List.not_mem_nil h).elim, fun _ => ⟨[], rfl⟩⟩
  | cons entry rest ih =>
    obtain ⟨name, value⟩ := entry
    have hskip : (∀ stats, value ≠ .dict stats) →
        ((∃ collections, readCollections R ((name, value) :: rest) = .ok collections) ↔
          ∀ name' stats, (name', Json.dict stats) ∈ (name, value) :: rest →
            ∀ field ∈ STAT_FIELDS, (readStat R stats field.1 field.2).isOk) := by
      intro hvalue
      have hread : readCollections R ((name, value) :: rest) = readCollections R rest := by
        cases value with
        | dict stats => exact absurd rfl (hvalue stats)
        | null | bool b | int i | float f | str s | list items => rfl
      rw [hread, ih]
      constructor
      · intro h name' stats hmem
        rcases List.mem_cons.mp hmem with heq | hmem
        · exact absurd (congrArg Prod.snd heq).symm (hvalue stats)
        · exact h name' stats hmem
      · intro h name' stats hmem
        exact h name' stats (List.mem_cons_of_mem _ hmem)
    cases value with
    | null | bool b | int i | float f | str s | list items => exact hskip (by nofun)
    | dict stats =>
      unfold readCollections
      simp only [Validation.bind_eq_ok_iff]
      constructor
      · rintro ⟨collections, read, hread, others, hothers, -⟩ name' stats' hmem
        rcases List.mem_cons.mp hmem with heq | hmem
        · cases heq
          exact readStats_isOk_iff.mp ⟨read, hread⟩
        · exact ih.mp ⟨others, hothers⟩ name' stats' hmem
      · intro h
        obtain ⟨read, hread⟩ := readStats_isOk_iff.mpr (h name stats List.mem_cons_self)
        obtain ⟨others, hothers⟩ :=
          ih.mpr (fun name' stats' hmem => h name' stats' (List.mem_cons_of_mem _ hmem))
        exact ⟨_, read, hread, others, hothers, rfl⟩

section Counts

variable {κ : Type} [DecidableEq κ] {text : κ → String} {names : List κ} {memory : κ → ℤ}

lemma assignCounts_error {counts : List (String × Json)} {k : κ} (hk : k ∈ names)
    (hbad : (readCount R counts (text k)).isOk = false) :
    ∃ e, (assignCounts R text counts names memory).1 = .error e := by
  induction names generalizing memory with
  | nil => cases hk
  | cons k' rest ih =>
    rw [assignCounts]
    cases hread : readCount R counts (text k') with
    | error e => exact ⟨e, rfl⟩
    | ok i =>
      apply ih
      apply (List.mem_cons.mp hk).resolve_left
      rintro rfl
      rw [hread] at hbad
      cases hbad

lemma applyCounts_of_ok (hnames : ∀ k, k ∈ names) {part : Option Json}
    (hpart : ∀ counts, part = some (.dict counts) → ∀ k, (readCount R counts (text k)).isOk) :
    applyCounts R text names part memory =
      (.ok (), (countsPart R text names part).getD memory) := by
  by_cases hdict : ∃ counts, part = some (.dict counts)
  · obtain ⟨counts, rfl⟩ := hdict
    have hcounts := hpart counts rfl
    have hall : ∀ k ∈ names, (readCount R counts (text k)).isOk := fun k _ => hcounts k
    simp only [applyCounts, countsPart, if_pos hall, Option.getD_some]
    apply assignCounts_eq R hnames
    intro k
    obtain ⟨i, hi⟩ := isOk_iff.mp (hcounts k)
    rw [hi]
    rfl
  · have hother : ∀ counts, part ≠ some (.dict counts) := fun counts h => hdict ⟨counts, h⟩
    have hkept : applyCounts R text names part memory = (.ok (), memory) := by
      unfold applyCounts
      split
      · exact absurd rfl (hother _)
      · rfl
    have hnone : countsPart R text names part = none := by
      unfold countsPart
      split
      · exact absurd rfl (hother _)
      · rfl
    rw [hkept, hnone]
    rfl

lemma applyCounts_error (hnames : ∀ k, k ∈ names) {part : Option Json}
    (hpart : ¬∀ counts, part = some (.dict counts) →
      ∀ k, (readCount R counts (text k)).isOk) :
    ∃ e, (applyCounts R text names part memory).1 = .error e := by
  push Not at hpart
  obtain ⟨counts, rfl, k, hk⟩ := hpart
  exact assignCounts_error (hnames k) (Bool.eq_false_iff.mpr hk)

end Counts

lemma applyCollections_of_ok {part : Option Json} {memory : List (String × DeviceStats)}
    (hpart : ∀ entries, part = some (.dict entries) →
      ∃ collections, readCollections R entries = .ok collections) :
    applyCollections R part memory = .ok ((collectionsPart R part).getD memory) := by
  by_cases hdict : ∃ entries, part = some (.dict entries)
  · obtain ⟨entries, rfl⟩ := hdict
    obtain ⟨collections, hread⟩ := hpart entries rfl
    simp [applyCollections, collectionsPart, hread, Except.toOption]
  · have hother : ∀ entries, part ≠ some (.dict entries) := fun entries h => hdict ⟨entries, h⟩
    have hkept : applyCollections R part memory = .ok memory := by
      unfold applyCollections
      split
      · exact absurd rfl (hother _)
      · rfl
    have hnone : collectionsPart R part = none := by
      unfold collectionsPart
      split
      · exact absurd rfl (hother _)
      · rfl
    rw [hkept, hnone]
    rfl

variable {c : Counters} {file : FileContent}

theorem reload_of_readable (h : Readable R file) :
    c.reload R file = (.ok (), c.adopted R file) := by
  cases file with
  | missing | notJson => rfl
  | tooDeep => exact h.elim
  | document raw =>
    obtain ⟨hcollections, hverdicts, hparaphrases⟩ := h
    have hcollections' : applyCollections R (raw.get? "collections") c.collections =
        .ok ((collectionsPart R (raw.get? "collections")).getD c.collections) :=
      applyCollections_of_ok
        (fun entries hentries => readCollections_isOk_iff.mpr (hcollections entries hentries))
    have hraw : c.applyRawDocument R raw = (.ok (), c.adopted R (.document raw)) := by
      unfold Counters.applyRawDocument Counters.adopted
      simp only [hcollections', applyCounts_of_ok mem_severities hverdicts,
        applyCounts_of_ok mem_paraphraseOutcomes hparaphrases]
    rw [Counters.reload, hraw]
    rfl

theorem reload_of_not_readable (h : ¬Readable R file) :
    ∃ e, (c.reload R file).1 = .error e := by
  cases file with
  | missing | notJson => exact absurd trivial h
  | tooDeep => exact ⟨_, rfl⟩
  | document raw =>
    have hraw : ∃ e, (c.applyRawDocument R raw).1 = .error e := by
      unfold Counters.applyRawDocument
      cases hcollections : applyCollections R (raw.get? "collections") c.collections with
      | error e => exact ⟨e, rfl⟩
      | ok collections =>
        dsimp only
        by_cases hverdicts : ∀ counts, raw.get? "verdicts" = some (.dict counts) →
            ∀ s : Severity, (readCount R counts s.text).isOk
        · rw [applyCounts_of_ok mem_severities hverdicts]
          apply applyCounts_error mem_paraphraseOutcomes
          intro hparaphrases
          refine h ⟨?_, hverdicts, hparaphrases⟩
          intro entries hentries
          rw [hentries] at hcollections
          exact readCollections_isOk_iff.mp ⟨collections, hcollections⟩
        · obtain ⟨e, he⟩ := @applyCounts_error R _ _ _ _ c.verdicts mem_severities _ hverdicts
          rw [he]
          exact ⟨e, rfl⟩
    obtain ⟨e, he⟩ := hraw
    refine ⟨.conversion e, ?_⟩
    rw [Counters.reload, he]
    rfl

end Reload

section Rendering

variable {R}

lemma pyInt_float_isOk_iff {x : PyFloat} :
    (∃ i, pyInt R (.float x) = .ok i) ↔ x.IsFinite := by
  cases x with
  | finite q => exact ⟨fun _ => ⟨q, rfl⟩, fun _ => ⟨_, rfl⟩⟩
  | inf s =>
    constructor
    · rintro ⟨i, h⟩
      cases h
    · rintro ⟨q, h⟩
      cases h
  | nan =>
    constructor
    · rintro ⟨i, h⟩
      cases h
    · rintro ⟨q, h⟩
      cases h

lemma snapshot_isOk_iff {s : DeviceStats} :
    (∃ d, s.snapshot R = .ok d) ↔ s.success.IsFinite ∧ s.failure.IsFinite ∧
      s.retriesTotal.IsFinite ∧ s.latencyCount.IsFinite := by
  unfold DeviceStats.snapshot
  simp only [Validation.bind_eq_ok_iff, ← pyInt_float_isOk_iff (R := R)]
  constructor
  · rintro ⟨d, success, h₁, failure, h₂, retries, h₃, count, h₄, -⟩
    exact ⟨⟨_, h₁⟩, ⟨_, h₂⟩, ⟨_, h₃⟩, ⟨_, h₄⟩⟩
  · rintro ⟨⟨_, h₁⟩, ⟨_, h₂⟩, ⟨_, h₃⟩, ⟨_, h₄⟩⟩
    exact ⟨_, _, h₁, _, h₂, _, h₃, _, h₄, rfl⟩

lemma snapshotDevices_isOk_iff {collections : List (String × DeviceStats)} :
    (∃ devices, snapshotDevices R collections = .ok devices) ↔
      ∀ entry ∈ collections, ∃ d, entry.2.snapshot R = .ok d := by
  induction collections with
  | nil => exact ⟨fun _ _ h => (List.not_mem_nil h).elim, fun _ => ⟨[], rfl⟩⟩
  | cons entry rest ih =>
    obtain ⟨name, stats⟩ := entry
    rw [List.forall_mem_cons, ← ih]
    simp only [snapshotDevices, Validation.bind_eq_ok_iff]
    constructor
    · rintro ⟨devices, d, hd, others, hothers, -⟩
      exact ⟨⟨d, hd⟩, others, hothers⟩
    · rintro ⟨⟨d, hd⟩, others, hothers⟩
      exact ⟨_, d, hd, others, hothers, rfl⟩

theorem render_isOk_iff {c : Counters} : (∃ s, c.render R = .ok s) ↔ c.Showable := by
  have hdevices := @snapshotDevices_isOk_iff R
    (c.collections.insertionSort (fun a b => a.1 ≤ b.1))
  unfold Counters.render Counters.Showable
  simp only [Validation.bind_eq_ok_iff]
  simp only [List.mem_insertionSort, snapshot_isOk_iff] at hdevices
  rw [← hdevices]
  constructor
  · rintro ⟨s, devices, h, -⟩
    exact ⟨devices, h⟩
  · rintro ⟨devices, h⟩
    exact ⟨_, devices, h, rfl⟩

end Rendering

lemma grownBy_value_apply_iff {c : Counters} {e : MetricEvent} {k : Counter} :
    GrownBy (e.amount k) (c.value k) ((c.apply R e).value k) ↔
      ∀ a, e.amount k = some a →
        ∃ q, c.value k = .finite q ∧ k.plus R (.finite q) a = .finite (q + a) := by
  rw [value_apply]
  cases e.amount k with
  | none => exact ⟨fun _ _ h => (Option.some_ne_none _ h.symm).elim, fun _ => rfl⟩
  | some a =>
    constructor
    · rintro ⟨q, hq, hnext⟩ a' ha'
      cases ha'
      refine ⟨q, hq, ?_⟩
      rw [hq] at hnext
      exact hnext
    · intro h
      obtain ⟨q, hq, hplus⟩ := h a rfl
      refine ⟨q, hq, ?_⟩
      rw [hq]
      exact hplus

section Call

variable {R} {c : Counters} {file : FileContent} {call : MetricCall}

lemma reloads_of_ne (h : call ≠ .snapshot) : call.reloads = call.event?.isSome := by
  cases call with
  | snapshot => exact absurd rfl h
  | recordCollection device success durationS retries => rfl
  | recordVerdict severity => rfl
  | recordParaphrase outcome => rfl

lemma call_of_ne (h : call ≠ .snapshot) : c.call R file call =
    match call.event? with
    | none => (.ok (), c)
    | some e => ((c.mutate R file e).1, (c.mutate R file e).2.1) := by
  cases call with
  | snapshot => exact absurd rfl h
  | recordCollection device success durationS retries => rfl
  | recordVerdict severity => rfl
  | recordParaphrase outcome => rfl

lemma entriesFit_map {κ : Type} (text : κ → String) (value : κ → Json) (names : List κ) :
    Json.entriesFit (names.map (fun k => (text k, value k))) = true ↔
      ∀ k ∈ names, (value k).fits = true := by
  induction names with
  | nil => simp [Json.entriesFit]
  | cons k rest ih => simp [Json.entriesFit, ih]

theorem fits_document_iff : c.document.fits = true ↔ c.Printable := by
  have hdevices : Json.entriesFit
      (c.collections.map (fun entry => (entry.1, entry.2.document))) = true :=
    (entriesFit_map Prod.fst (fun entry : String × DeviceStats => entry.2.document) _).mpr
      (fun _ _ => rfl)
  simp only [Counters.document, Json.fits, Json.entriesFit, hdevices, Bool.and_true,
    Bool.true_and, Bool.and_eq_true, entriesFit_map]
  constructor
  · rintro ⟨hverdicts, hparaphrases⟩
    exact ⟨fun s => hverdicts s (mem_severities s),
      fun o => hparaphrases o (mem_paraphraseOutcomes o)⟩
  · intro h
    exact ⟨fun s _ => h.verdicts s, fun o _ => h.paraphrases o⟩

lemma unbroken_of_event {e : MetricEvent} (hne : call ≠ .snapshot) (he : call.event? = some e) :
    Unbroken R c file call ↔ Harmless R c file call := by
  have hreloads : call.reloads = true := by
    rw [reloads_of_ne hne, he]
    rfl
  have hcall : c.call R file call = ((c.mutate R file e).1, (c.mutate R file e).2.1) := by
    rw [call_of_ne hne, he]
  have hbasis : c.basis R file call = c.adopted R file := by
    rw [Counters.basis, if_pos hreloads]
  have hamount : ∀ k, call.amount k = e.amount k := by
    intro k
    rw [MetricCall.amount, he]
    rfl
  by_cases hreadable : Readable R file
  · have hmutate : c.mutate R file e =
        if ((c.adopted R file).apply R e).document.fits then
          (.ok (), (c.adopted R file).apply R e,
            .document ((c.adopted R file).apply R e).document)
        else (.error .tooLong, (c.adopted R file).apply R e, file) := by
      rw [Counters.mutate, reload_of_readable hreadable]
    constructor
    · intro h
      have hfits : ((c.adopted R file).apply R e).document.fits = true := by
        by_contra hlong
        have hreturns := h.returns
        rw [hcall, hmutate, if_neg hlong] at hreturns
        cases hreturns
      rw [if_pos hfits] at hmutate
      refine ⟨fun _ => hreadable, ?_, ?_, fun heq => absurd heq hne⟩
      · intro k a ha
        have hgrown := h.grown k
        rw [hamount, hbasis, hcall, hmutate, grownBy_value_apply_iff] at hgrown
        rw [hbasis]
        exact hgrown a (hamount k ▸ ha)
      · intro e' he'
        rw [he] at he'
        cases he'
        rw [hbasis]
        exact fits_document_iff.mp hfits
    · intro h
      have hfits : ((c.adopted R file).apply R e).document.fits = true :=
        fits_document_iff.mpr (hbasis ▸ h.printable e he)
      rw [if_pos hfits] at hmutate
      refine ⟨?_, ?_⟩
      · rw [hcall, hmutate]
      · intro k
        rw [hamount, hbasis, hcall, hmutate, grownBy_value_apply_iff]
        intro a ha
        rw [← hbasis]
        exact h.takes k a ((hamount k).trans ha)
  · obtain ⟨error, herror⟩ := reload_of_not_readable (c := c) hreadable
    constructor
    · intro h
      have hreturns := h.returns
      rw [hcall, Counters.mutate] at hreturns
      split at hreturns
      · cases hreturns
      · rename_i heq
        rw [heq] at herror
        cases herror
    · intro h
      exact absurd (h.readable hreloads) hreadable

lemma unbroken_of_ignored (hne : call ≠ .snapshot) (he : call.event? = none) :
    Unbroken R c file call ↔ Harmless R c file call := by
  have hreloads : call.reloads = false := by
    rw [reloads_of_ne hne, he]
    rfl
  have hcall : c.call R file call = (.ok (), c) := by
    rw [call_of_ne hne, he]
  have hamount : ∀ k, call.amount k = none := by
    intro k
    rw [MetricCall.amount, he]
    rfl
  have hbasis : c.basis R file call = c := by
    rw [Counters.basis, hreloads]
    rfl
  refine ⟨fun _ => ⟨?_, ?_, ?_, fun heq => absurd heq hne⟩, fun _ => ⟨?_, ?_⟩⟩
  · intro h
    rw [hreloads] at h
    cases h
  · intro k a ha
    rw [hamount] at ha
    cases ha
  · intro e he'
    rw [he] at he'
    cases he'
  · rw [hcall]
  · intro k
    rw [hamount, hbasis, hcall]
    rfl

lemma unbroken_snapshot : Unbroken R c file .snapshot ↔ Harmless R c file .snapshot := by
  have hbasis : c.basis R file .snapshot = c.adopted R file := rfl
  by_cases hreadable : Readable R file
  · have hreload := reload_of_readable (c := c) hreadable
    have hcall : c.call R file .snapshot =
        (((c.adopted R file).render R).mapError .conversion |>.map (fun _ => ()),
          c.adopted R file) := by
      simp only [Counters.call, Counters.snapshot, hreload]
    have hreturns : (c.call R file .snapshot).1 = .ok () ↔ (c.adopted R file).Showable := by
      rw [hcall, ← render_isOk_iff (R := R)]
      cases (c.adopted R file).render R with
      | error e =>
        constructor
        · intro h
          cases h
        · rintro ⟨s, h⟩
          cases h
      | ok s => exact ⟨fun _ => ⟨s, rfl⟩, fun _ => rfl⟩
    constructor
    · intro h
      refine ⟨fun _ => hreadable, ?_, ?_, fun _ => hreturns.mp h.returns⟩
      · intro k a ha
        cases ha
      · intro e he
        cases he
    · intro h
      refine ⟨hreturns.mpr (h.showable rfl), ?_⟩
      intro k
      rw [hcall, hbasis]
      rfl
  · obtain ⟨error, herror⟩ := reload_of_not_readable (c := c) hreadable
    constructor
    · intro h
      have hreturns := h.returns
      simp only [Counters.call, Counters.snapshot] at hreturns
      split at hreturns
      · cases hreturns
      · rename_i heq
        rw [heq] at herror
        cases herror
    · intro h
      exact absurd (h.readable rfl) hreadable

end Call

/-- A call returns, with every counter grown by exactly what it records, if and only if the file
is harmless to it. -/
theorem unbroken_iff (c : Counters) (file : FileContent) (call : MetricCall) :
    Unbroken R c file call ↔ Harmless R c file call := by
  by_cases hsnapshot : call = .snapshot
  · subst hsnapshot
    exact unbroken_snapshot
  · cases he : call.event? with
    | none => exact unbroken_of_ignored hsnapshot he
    | some e => exact unbroken_of_event hsnapshot he

/-- A document in which one count of one device is `null`. -/
def nullCount : FileContent :=
  .document (.dict [("collections", .dict [("PE1", .dict [("success", .null)])])])

theorem not_unbroken_nullCount :
    ¬Unbroken exactNumerals {} nullCount (.recordVerdict "critical") := by
  intro h
  have hraises : (({} : Counters).call exactNumerals nullCount (.recordVerdict "critical")).1 =
      .error (.conversion .type) := rfl
  rw [h.returns] at hraises
  cases hraises

end Metrics

end NetTools
