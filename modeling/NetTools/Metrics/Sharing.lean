import NetTools.Library.LockedFile
import NetTools.Library.Sorting
import NetTools.Library.Validation
import NetTools.Metrics.Totals

/-!
# Collectors that share a file

Every process has a collector of its own. A mutation reloads, applies its change and persists in
one section of the cross-process lock, and a snapshot reloads in one.
-/

namespace NetTools

namespace Metrics

variable (R : Numerals)

lemma readStats_document (s : DeviceStats) {stats : List (String × Json)}
    (h : s.document = .dict stats) : readStats R stats = .ok s := by
  cases h
  rfl

lemma readCollections_document (collections : List (String × DeviceStats)) :
    readCollections R (collections.map (fun entry => (entry.1, entry.2.document))) =
      .ok collections := by
  induction collections with
  | nil => rfl
  | cons entry rest ih =>
    rw [List.map_cons]
    change (readStats R _ >>= _) = _
    rw [readStats_document R entry.2 rfl, ih]
    rfl

lemma readCount_document {κ : Type} {text : κ → String} {names : List κ} {value : κ → ℤ}
    (htext : Function.Injective text) (hnames : ∀ k, k ∈ names) (k : κ) :
    readCount R (names.map (fun k => (text k, Json.int (value k)))) (text k) = .ok (value k) := by
  rw [readCount, ListSearch.lookup_map_of_injective htext _ (hnames k)]
  rfl

section Counts

variable {κ : Type} [DecidableEq κ] {text : κ → String} {counts : List (String × Json)}
  {names : List κ} {memory value : κ → ℤ}

lemma assignCounts_of_ok (h : ∀ k ∈ names, readCount R counts (text k) = .ok (value k)) :
    assignCounts R text counts names memory =
      (.ok (), fun k => if k ∈ names then value k else memory k) := by
  induction names generalizing memory with
  | nil => rfl
  | cons k rest ih =>
    rw [assignCounts, h k List.mem_cons_self]
    dsimp only
    rw [ih (fun k hk => h k (List.mem_cons_of_mem _ hk))]
    congr 1
    funext k'
    by_cases hk' : k' ∈ rest
    · rw [if_pos hk', if_pos (List.mem_cons_of_mem _ hk')]
    · rw [if_neg hk']
      by_cases hk : k' = k
      · subst hk
        rw [Function.update_self, if_pos List.mem_cons_self]
      · rw [Function.update_of_ne hk, if_neg (by simp [hk, hk'])]

lemma assignCounts_eq (hnames : ∀ k, k ∈ names)
    (h : ∀ k, readCount R counts (text k) = .ok (value k)) :
    assignCounts R text counts names memory = (.ok (), value) := by
  rw [assignCounts_of_ok R (fun k _ => h k)]
  congr 1
  funext k
  rw [if_pos (hnames k)]

end Counts

theorem reload_document (c memory : Counters) :
    memory.reload R (.document c.document) = (.ok (), c) := by
  have hverdicts := @assignCounts_eq R _ _ Severity.text _ SEVERITIES memory.verdicts c.verdicts
    mem_severities (readCount_document R Severity.text_injective mem_severities)
  have hparaphrases := @assignCounts_eq R _ _ ParaphraseOutcome.text _ PARAPHRASE_OUTCOMES
    memory.paraphrases c.paraphrases mem_paraphraseOutcomes
    (readCount_document R ParaphraseOutcome.text_injective mem_paraphraseOutcomes)
  have hraw : memory.applyRawDocument R c.document = (.ok (), c) := by
    have hcollections : c.document.get? "collections" = some
        (.dict (c.collections.map (fun entry => (entry.1, entry.2.document)))) := rfl
    have hverdictsPart : c.document.get? "verdicts" = some
        (.dict (SEVERITIES.map (fun s => (s.text, .int (c.verdicts s))))) := rfl
    have hparaphrasesPart : c.document.get? "paraphrases" = some
        (.dict (PARAPHRASE_OUTCOMES.map (fun o => (o.text, .int (c.paraphrases o))))) := rfl
    unfold Counters.applyRawDocument
    rw [hcollections, hverdictsPart, hparaphrasesPart]
    simp only [applyCollections, readCollections_document, applyCounts, hverdicts, hparaphrases]
  rw [Counters.reload, hraw]
  rfl

def access : LockedFile.Access FileContent Counters MetricEvent where
  missing := .missing
  load file c := ((c.reload R file).1.isOk, (c.reload R file).2)
  save c := .document c.document
  apply := Counters.apply R
  load_missing _ := rfl
  load_save c memory := by rw [reload_document]; rfl

theorem final_section_eq_mutate (w : LockedFile.World FileContent Counters MetricEvent) (p : Nat)
    (event : MetricEvent) (hfree : w.holder = none)
    (hfits : (((w.memory p).reload R w.file).2.apply R event).document.fits = true) :
    let w' := Runs.final (LockedFile.step (access R)) w
      [.lock p (some event), .advance, .advance, .advance, .advance]
    (w'.memory p, w'.file) = ((w.memory p).mutate R w.file event).2 := by
  have hlocked : LockedFile.step (access R) w (.lock p (some event)) =
      { w with holder := some (p, .locked (some event)) } := by
    rw [LockedFile.step, hfree]
  rw [Runs.final_cons, hlocked, Counters.mutate]
  cases hreload : (w.memory p).reload R w.file with
  | mk result c =>
    rw [hreload] at hfits
    cases result with
    | error e =>
      simp [Runs.final, LockedFile.step, access, hreload, Except.isOk, Except.toBool]
    | ok done =>
      simp [Runs.final, LockedFile.step, access, hreload, hfits, Except.isOk, Except.toBool]

def DeviceSnapshot.zero : DeviceSnapshot := ⟨0, 0, 0, .finite 0, 0, none⟩

/-- The snapshot shows the counters: counts as they are, the statistics of a device as integers. -/
structure Snapshot.Shows (s : Snapshot) (value : Counter → PyFloat) : Prop where
  verdicts : ∀ severity, value (.verdict severity) = .finite (s.verdicts severity)
  paraphrases : ∀ outcome, value (.paraphrase outcome) = .finite (s.paraphrases outcome)
  devices : ∀ device d, d = (s.collections.lookup device).getD .zero →
    pyInt R (.float (value (.success device))) = .ok d.success ∧
    pyInt R (.float (value (.failure device))) = .ok d.failure ∧
    pyInt R (.float (value (.retries device))) = .ok d.retriesTotal ∧
    pyInt R (.float (value (.latencyCount device))) = .ok d.latencyCount

lemma lookup_snapshotDevices {collections : List (String × DeviceStats)}
    {devices : List (String × DeviceSnapshot)} (h : snapshotDevices R collections = .ok devices)
    (name : String) :
    (collections.lookup name = none ∧ devices.lookup name = none) ∨
      ∃ stats d, collections.lookup name = some stats ∧ devices.lookup name = some d ∧
        stats.snapshot R = .ok d := by
  induction collections generalizing devices with
  | nil =>
    cases h
    exact .inl ⟨rfl, rfl⟩
  | cons entry rest ih =>
    obtain ⟨d, hd, others, hothers, hlisted⟩ : ∃ d, entry.2.snapshot R = .ok d ∧ ∃ others,
        snapshotDevices R rest = .ok others ∧ (entry.1, d) :: others = devices := by
      simpa only [snapshotDevices, Validation.bind_eq_ok_iff, pure, Except.pure,
        Except.ok.injEq] using h
    subst hlisted
    rw [List.lookup_cons, List.lookup_cons]
    by_cases hname : name = entry.1
    · rw [hname, beq_self_eq_true]
      exact .inr ⟨entry.2, d, rfl, rfl, hd⟩
    · rw [beq_false_of_ne hname]
      exact ih hothers

theorem Counters.shows_of_render {c : Counters} {s : Snapshot} (h : c.render R = .ok s) :
    s.Shows R c.value := by
  obtain ⟨devices, hdevices, hs⟩ : ∃ devices,
      snapshotDevices R (c.collections.insertionSort (fun a b => a.1 ≤ b.1)) = .ok devices ∧
        _ = s := by
    simpa only [Counters.render, Validation.bind_eq_ok_iff, pure, Except.pure,
      Except.ok.injEq] using h
  subst hs
  refine ⟨fun _ => rfl, fun _ => rfl, ?_⟩
  rintro device d rfl
  have hlookup := lookup_snapshotDevices R hdevices device
  rw [Sorting.lookup_insertionSort] at hlookup
  simp only [Counters.value, Counters.stats]
  rcases hlookup with ⟨hnone, hunlisted⟩ | ⟨stats, d, hstats, hlisted, hd⟩
  · rw [hnone, hunlisted]
    exact ⟨rfl, rfl, rfl, rfl⟩
  · rw [hstats, hlisted]
    unfold DeviceStats.snapshot at hd
    simp only [Validation.bind_eq_ok_iff] at hd
    obtain ⟨success, h₁, failure, h₂, retries, h₃, count, h₄, hd⟩ := hd
    cases hd
    exact ⟨h₁, h₂, h₃, h₄⟩

def amounts (done : List (Nat × MetricEvent)) (k : Counter) : List ℚ :=
  (done.map Prod.snd).filterMap (fun e => e.amount k)

lemma value_counted (initial : Nat → Counters) (done : List (Nat × MetricEvent)) (p : Nat)
    (k : Counter) :
    (LockedFile.counted (access R) initial done p).value k =
      k.total R ((initial (LockedFile.base done p)).value k) (amounts done k) :=
  value_foldl_apply R _ _ k

/-- No update is lost. Whenever no section is under way, the file holds, for each counter, what
the process of the first mutation had in memory and the amounts of all mutations, and every
snapshot shows the mutations whose sections were completed before it. The additions are those of
doubles, in the order of the sections, and exact where no sum has to be rounded. -/
theorem metrics_not_lost (initial : Nat → Counters) (steps : List (LockedFile.Step MetricEvent)) :
    let w := Runs.final (LockedFile.step (access R)) { file := .missing, memory := initial } steps
    (w.holder = none → (w.completed = [] → w.file = .missing) ∧
      ∀ p e rest, w.completed = (p, e) :: rest → ∃ c : Counters, w.file = .document c.document ∧
        ∀ k, c.value k = k.total R ((initial p).value k) (amounts w.completed k) ∧
          ∀ q, (initial p).value k = .finite q → k.Representable R q (amounts w.completed k) →
            c.value k = .finite (q + (amounts w.completed k).sum)) ∧
    ∀ r ∈ w.readings, r.after <+: w.completed ∧
      (∀ k, r.seen.value k =
        k.total R ((initial (LockedFile.base r.after r.process)).value k) (amounts r.after k)) ∧
      ∀ s, r.seen.render R = .ok s → s.Shows R (fun k => k.total R
        ((initial (LockedFile.base r.after r.process)).value k) (amounts r.after k)) := by
  intro w
  have hinv := LockedFile.Inv.run (access R) initial steps
  refine ⟨?_, ?_⟩
  · intro hfree
    have hfile := hinv.file
    have hwritten : LockedFile.written w = w.completed := by
      rw [LockedFile.written, hfree]
    change LockedFile.FileIs (access R) initial w.file (LockedFile.written w) at hfile
    rw [hwritten] at hfile
    refine ⟨hfile.1, ?_⟩
    intro p e rest hdone
    have hvalue : ∀ k, (LockedFile.counted (access R) initial w.completed p).value k =
        k.total R ((initial p).value k) (amounts w.completed k) := by
      intro k
      rw [value_counted, hdone]
      rfl
    refine ⟨_, hfile.2 p (by rw [hdone]; exact List.cons_ne_nil _ _), ?_⟩
    intro k
    refine ⟨hvalue k, ?_⟩
    intro q hq hround
    rw [hvalue, hq]
    exact Counter.total_of_representable R hround
  · intro r hr
    obtain ⟨hinitial, hseen⟩ := hinv.readings r hr
    have hvalue : ∀ k, r.seen.value k = k.total R
        ((initial (LockedFile.base r.after r.process)).value k) (amounts r.after k) := by
      intro k
      rw [hseen]
      exact value_counted R initial r.after r.process k
    refine ⟨hinitial, hvalue, ?_⟩
    intro s hs
    rw [← funext hvalue]
    exact Counters.shows_of_render R hs

def exactNumerals : Numerals := ⟨.finite, fun _ => none, fun _ => none, fun x _ => x, id⟩

def countedBefore : Nat → Counters := fun _ => { verdicts := Function.update (fun _ => 0) .ok 5 }

def firstVerdict : List (LockedFile.Step MetricEvent) :=
  [.lock 0 (some (.verdict .critical)), .advance, .advance, .advance, .advance]

/-- The file counts five verdicts that nobody recorded in it. -/
theorem not_counts_events_only :
    let w := Runs.final (LockedFile.step (access exactNumerals))
      { file := .missing, memory := countedBefore } firstVerdict
    ¬∀ c : Counters, w.file = .document c.document →
      ∀ k, c.value k = k.total exactNumerals (.finite 0) (amounts w.completed k) := by
  intro w hcounts
  have hfive := hcounts ((countedBefore 0).apply exactNumerals (.verdict .critical)) rfl
    (.verdict .ok)
  have hvalue : ((countedBefore 0).apply exactNumerals (.verdict .critical)).value (.verdict .ok) =
      .finite 5 := rfl
  have htotal : (Counter.verdict .ok).total exactNumerals (.finite 0)
      (amounts w.completed (.verdict .ok)) = .finite 0 := rfl
  rw [hvalue, htotal] at hfive
  exact absurd hfive (by decide)

end Metrics

end NetTools
