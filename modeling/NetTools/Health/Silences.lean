import NetTools.Health.Rules
import NetTools.Python.Datetime

/-!
# Silences

`health.py`: the declared maintenance windows, and the verdict of a device with its findings tagged
by them.
-/

namespace NetTools

namespace Health

/-- A declared maintenance window. A field that is absent matches anything. -/
structure Silence where
  id : String
  reason : String
  createdBy : String
  expiresAt : Datetime
  device : Option String := none
  rule : Option String := none
  subject : Option String := none
  startsAt : Option Datetime := none
deriving DecidableEq, Repr

/-- `Silence.as_dict`. -/
structure SilenceRecord where
  id : String
  reason : String
  createdBy : String
  expiresAt : String
deriving DecidableEq, Repr

namespace Silence

/-- `Silence.matches`. -/
def isMatch (s : Silence) (device : String) (rule subject : Option String) (now : Datetime) :
    Bool :=
  if s.expiresAt.micros ≤ now.micros then false
  else if s.startsAt.any (fun startsAt => now.micros < startsAt.micros) then false
  else if s.device ≠ none ∧ s.device ≠ some device then false
  else if s.rule ≠ none ∧ s.rule ≠ rule then false
  else if s.subject ≠ none ∧ s.subject ≠ subject then false
  else true

def asDict (s : Silence) : SilenceRecord where
  id := s.id
  reason := s.reason
  createdBy := s.createdBy
  expiresAt := s.expiresAt.isoformat

def specificity (s : Silence) : Nat := [s.device, s.rule, s.subject].countP Option.isSome

end Silence

def findSilence (silences : List Silence) (device : String) (rule subject : Option String)
    (now : Datetime) : Option Silence :=
  (silences.filter (fun s => s.isMatch device rule subject now)).argmax Silence.specificity

structure TaggedFinding where
  finding : Finding
  silenced : Bool
  silence : Option SilenceRecord := none

structure Counts where
  critical : Nat := 0
  unreachable : Nat := 0
  warning : Nat := 0
  info : Nat := 0
  silenced : Nat := 0
deriving DecidableEq, Repr

/-- `if fseverity in counts: counts[fseverity] += 1`. -/
def Counts.add (counts : Counts) : Severity → Counts
  | .critical => { counts with critical := counts.critical + 1 }
  | .unreachable => { counts with unreachable := counts.unreachable + 1 }
  | .warning => { counts with warning := counts.warning + 1 }
  | .info => { counts with info := counts.info + 1 }
  | .ok => counts

/-- `counts[severity]`, zero for a severity without a count. -/
def Counts.get (counts : Counts) : Severity → Nat
  | .critical => counts.critical
  | .unreachable => counts.unreachable
  | .warning => counts.warning
  | .info => counts.info
  | .ok => 0

def Counts.total (counts : Counts) : Nat :=
  counts.critical + counts.unreachable + counts.warning + counts.info + counts.silenced

/-- What the loop of `apply_silences` keeps. -/
structure Tagging where
  findings : List TaggedFinding := []
  counts : Counts := {}
  severity : Severity := .ok

def Tagging.step (silences : List Silence) (device : String) (now : Datetime) (t : Tagging)
    (finding : Finding) : Tagging :=
  match findSilence silences device (some finding.rule) finding.subject now with
  | some silence =>
    { t with
      findings := t.findings ++ [{ finding, silenced := true, silence := some silence.asDict }]
      counts := { t.counts with silenced := t.counts.silenced + 1 } }
  | none =>
    { findings := t.findings ++ [{ finding, silenced := false }]
      counts := t.counts.add finding.severity
      severity := maxSeverity t.severity finding.severity }

/-- The verdict that `apply_silences` returns. -/
structure SilencedVerdict where
  device : String
  role : Role
  platform : String
  severity : Severity
  rawSeverity : Severity
  findings : List TaggedFinding
  counts : Counts
  silencesApplied : Bool
  unevaluated : List String
  unsupported : List String

def applySilences (verdict : Verdict) (silences : List Silence) (now : Datetime) :
    SilencedVerdict :=
  let t := verdict.findings.foldl (Tagging.step silences verdict.device now) {}
  { device := verdict.device
    role := verdict.role
    platform := verdict.platform
    severity := t.severity
    rawSeverity := verdict.severity
    findings := t.findings
    counts := t.counts
    silencesApplied := decide (0 < t.counts.silenced)
    unevaluated := verdict.unevaluated
    unsupported := verdict.unsupported }

def Covers (device : String) (now : Datetime) (finding : Finding) (s : Silence) : Prop :=
  s.isMatch device (some finding.rule) finding.subject now = true

def MostSpecific (silences : List Silence) (device : String) (now : Datetime) (finding : Finding)
    (s : Silence) : Prop :=
  s ∈ silences ∧ Covers device now finding s ∧
    ∀ other ∈ silences, Covers device now finding other → other.specificity ≤ s.specificity

/-- What holds of a tagged verdict, whatever the order of the silences. -/
structure SilencingLaws (verdict : Verdict) (silences : List Silence) (now : Datetime) : Prop where
  /-- Every finding is kept, in order. -/
  kept : (applySilences verdict silences now).findings.map TaggedFinding.finding =
    verdict.findings
  tagged : ∀ f ∈ (applySilences verdict silences now).findings,
    f.silenced = true ↔ ∃ s ∈ silences, Covers verdict.device now f.finding s
  attributed : ∀ f ∈ (applySilences verdict silences now).findings, ∀ r, f.silence = some r →
    ∃ s, MostSpecific silences verdict.device now f.finding s ∧ r = s.asDict
  /-- The severity is the greatest of those that are not silenced. -/
  greatest : ∀ f ∈ (applySilences verdict silences now).findings, f.silenced = false →
    severityRank f.finding.severity ≤ severityRank (applySilences verdict silences now).severity
  reached : (applySilences verdict silences now).severity = .ok ∨
    ∃ f ∈ (applySilences verdict silences now).findings, f.silenced = false ∧
      f.finding.severity = (applySilences verdict silences now).severity
  raw : (applySilences verdict silences now).rawSeverity = verdict.severity
  lowered : severityRank (applySilences verdict silences now).severity ≤
    severityRank (applySilences verdict silences now).rawSeverity
  untouched : (∀ f ∈ verdict.findings, ∀ s ∈ silences, ¬Covers verdict.device now f s) →
    (applySilences verdict silences now).severity =
      (applySilences verdict silences now).rawSeverity
  counted : (applySilences verdict silences now).counts.total = verdict.findings.length
  buckets : ∀ severity ≠ Severity.ok, (applySilences verdict silences now).counts.get severity =
    (applySilences verdict silences now).findings.countP
      (fun f => !f.silenced && f.finding.severity == severity)
  silenced : (applySilences verdict silences now).counts.silenced =
    (applySilences verdict silences now).findings.countP TaggedFinding.silenced
  monotone : ∀ more, silences ⊆ more →
    severityRank (applySilences verdict more now).severity ≤
      severityRank (applySilences verdict silences now).severity
  unordered : ∀ others : List Silence, others.Perm silences →
    applySilences verdict others now = applySilences verdict silences now

/-- The most specific silences of a finding all leave the same record. -/
def TiesAgree (verdict : Verdict) (silences : List Silence) (now : Datetime) : Prop :=
  ∀ finding ∈ verdict.findings, ∀ s s', MostSpecific silences verdict.device now finding s →
    MostSpecific silences verdict.device now finding s' → s.asDict = s'.asDict

def tag (silences : List Silence) (device : String) (now : Datetime) (finding : Finding) :
    TaggedFinding :=
  let silence := findSilence silences device (some finding.rule) finding.subject now
  { finding, silenced := silence.isSome, silence := silence.map Silence.asDict }

def Tagging.add (t : Tagging) (f : TaggedFinding) : Tagging where
  findings := t.findings ++ [f]
  counts :=
    if f.silenced then { t.counts with silenced := t.counts.silenced + 1 }
    else t.counts.add f.finding.severity
  severity := if f.silenced then t.severity else maxSeverity t.severity f.finding.severity

variable {silences : List Silence} {device : String} {now : Datetime} {finding : Finding}
  {findings : List Finding} {s s' : Silence} {verdict : Verdict}

lemma step_eq (t : Tagging) (finding : Finding) :
    t.step silences device now finding = t.add (tag silences device now finding) := by
  rw [Tagging.step, Tagging.add, tag]
  cases findSilence silences device (some finding.rule) finding.subject now with
  | none => rfl
  | some silence => rfl

lemma mostSpecific_iff :
    MostSpecific silences device now finding s ↔
      s ∈ silences.filter (fun s => s.isMatch device (some finding.rule) finding.subject now) ∧
      ∀ other ∈ silences.filter
        (fun s => s.isMatch device (some finding.rule) finding.subject now),
          other.specificity ≤ s.specificity := by
  simp only [MostSpecific, Covers, List.mem_filter, and_imp, and_assoc]

lemma findSilence_isSome_iff :
    (findSilence silences device (some finding.rule) finding.subject now).isSome = true ↔
      ∃ s ∈ silences, Covers device now finding s := by
  rw [Option.isSome_iff_ne_none, findSilence, ne_eq, List.argmax_eq_none, List.filter_eq_nil_iff]
  push Not
  exact Iff.rfl

lemma mostSpecific_of_findSilence
    (h : findSilence silences device (some finding.rule) finding.subject now = some s) :
    MostSpecific silences device now finding s :=
  mostSpecific_iff.mpr ⟨List.argmax_mem h, fun _ hother => List.le_of_mem_argmax hother h⟩

lemma tag_of_first (h : MostSpecific silences device now finding s) :
    tag (s :: silences.erase s) device now finding =
      { finding, silenced := true, silence := some s.asDict } := by
  obtain ⟨-, hcovers, hmax⟩ := h
  have hfind : findSilence (s :: silences.erase s) device (some finding.rule) finding.subject now =
      some s := by
    rw [findSilence, List.filter_cons_of_pos (by exact hcovers), ListSearch.argmax_cons_of_le]
    intro other hother
    obtain ⟨hmem, hmatch⟩ := List.mem_filter.mp hother
    exact hmax other (List.mem_of_mem_erase hmem) hmatch
  rw [tag, hfind]
  rfl

lemma tag_of_perm {others : List Silence} (hperm : others.Perm silences)
    (h : ∀ s s', MostSpecific silences device now finding s →
      MostSpecific silences device now finding s' → s.asDict = s'.asDict) :
    tag others device now finding = tag silences device now finding := by
  have hfound : (findSilence others device (some finding.rule) finding.subject now).map
      Silence.asDict = (findSilence silences device (some finding.rule) finding.subject now).map
        Silence.asDict := by
    apply ListSearch.argmax_map_of_perm (hperm.filter _)
    intro s hs s' hs' hmax hmax'
    exact h s s' (mostSpecific_iff.mpr ⟨hs, hmax⟩) (mostSpecific_iff.mpr ⟨hs', hmax'⟩)
  have hsome := congrArg Option.isSome hfound
  rw [Option.isSome_map, Option.isSome_map] at hsome
  rw [tag, tag, hfound, hsome]

def worst (findings : List Finding) : Severity :=
  findings.foldl (fun severity finding => maxSeverity severity finding.severity) .ok

lemma severityRank_foldl_le_iff {severity : Severity} {n : Nat} :
    severityRank (findings.foldl (fun severity finding => maxSeverity severity finding.severity)
        severity) ≤ n ↔
      severityRank severity ≤ n ∧ ∀ f ∈ findings, severityRank f.severity ≤ n := by
  induction findings generalizing severity with
  | nil => exact ⟨fun h => ⟨h, nofun⟩, And.left⟩
  | cons f findings ih =>
    rw [List.foldl_cons, ih, severityRank_maxSeverity, Nat.max_le, List.forall_mem_cons, and_assoc]

lemma severityRank_worst_le_iff {n : Nat} :
    severityRank (worst findings) ≤ n ↔ ∀ f ∈ findings, severityRank f.severity ≤ n := by
  rw [worst, severityRank_foldl_le_iff]
  exact and_iff_right (Nat.zero_le n)

lemma worst_reached (findings : List Finding) :
    worst findings = .ok ∨ ∃ f ∈ findings, f.severity = worst findings := by
  have hfold : ∀ severity : Severity,
      findings.foldl (fun severity finding => maxSeverity severity finding.severity) severity =
        severity ∨ ∃ f ∈ findings, f.severity = findings.foldl
          (fun severity finding => maxSeverity severity finding.severity) severity := by
    induction findings with
    | nil => exact fun _ => .inl rfl
    | cons f findings ih =>
      intro severity
      rw [List.foldl_cons]
      rcases ih (maxSeverity severity f.severity) with h | ⟨g, hg, h⟩
      · rw [h]
        rw [maxSeverity]
        split
        · exact .inl rfl
        · exact .inr ⟨f, List.mem_cons_self, rfl⟩
      · exact .inr ⟨g, List.mem_cons_of_mem f hg, h⟩
  exact hfold .ok

def openFindings (silences : List Silence) (device : String) (now : Datetime)
    (findings : List Finding) : List Finding :=
  findings.filter (fun f => !(tag silences device now f).silenced)

lemma mem_openFindings {f : Finding} :
    f ∈ openFindings silences device now findings ↔
      f ∈ findings ∧ ∀ s ∈ silences, ¬Covers device now f s := by
  have hsilenced : (tag silences device now f).silenced = true ↔
      ∃ s ∈ silences, Covers device now f s := findSilence_isSome_iff
  rw [openFindings, List.mem_filter, Bool.not_eq_true', Bool.eq_false_iff, ne_eq, hsilenced]
  push Not
  exact Iff.rfl

lemma foldl_step_eq (t : Tagging) (findings : List Finding) :
    findings.foldl (Tagging.step silences device now) t =
      (findings.map (tag silences device now)).foldl Tagging.add t := by
  rw [List.foldl_map]
  congr 1
  funext t f
  exact step_eq t f

lemma findings_foldl_add (t : Tagging) (tagged : List TaggedFinding) :
    (tagged.foldl Tagging.add t).findings = t.findings ++ tagged := by
  induction tagged generalizing t with
  | nil => exact (List.append_nil _).symm
  | cons f tagged ih =>
    rw [List.foldl_cons, ih, Tagging.add, List.append_assoc]
    rfl

lemma severity_foldl_add (t : Tagging) (findings : List Finding) :
    ((findings.map (tag silences device now)).foldl Tagging.add t).severity =
      (openFindings silences device now findings).foldl
        (fun severity finding => maxSeverity severity finding.severity) t.severity := by
  induction findings generalizing t with
  | nil => rfl
  | cons f findings ih =>
    rw [List.map_cons, List.foldl_cons, ih, openFindings, openFindings, List.filter_cons,
      Tagging.add]
    cases (tag silences device now f).silenced with
    | true => rfl
    | false => rfl

lemma counts_foldl_add (t : Tagging) (tagged : List TaggedFinding) :
    (tagged.foldl Tagging.add t).counts.silenced =
        t.counts.silenced + tagged.countP TaggedFinding.silenced ∧
      ∀ severity ≠ Severity.ok, (tagged.foldl Tagging.add t).counts.get severity =
        t.counts.get severity +
          tagged.countP (fun f => !f.silenced && f.finding.severity == severity) := by
  induction tagged generalizing t with
  | nil => exact ⟨rfl, fun _ _ => rfl⟩
  | cons f tagged ih =>
    rw [List.foldl_cons]
    obtain ⟨hsilenced, hget⟩ := ih (t.add f)
    constructor
    · rw [hsilenced, List.countP_cons, Tagging.add]
      cases f.silenced with
      | true => simp only [if_true]; omega
      | false => cases hf : f.finding.severity <;> simp [Counts.add]
    · intro severity hne
      rw [hget severity hne, List.countP_cons, Tagging.add]
      cases f.silenced with
      | true => cases severity <;> simp [Counts.get]
      | false =>
        cases hf : f.finding.severity <;> cases severity <;>
          simp_all [Counts.get, Counts.add] <;> omega

lemma findings_applySilences (verdict : Verdict) (silences : List Silence) (now : Datetime) :
    (applySilences verdict silences now).findings =
      verdict.findings.map (tag silences verdict.device now) := by
  rw [applySilences]
  dsimp only
  rw [foldl_step_eq, findings_foldl_add]
  rfl

lemma severity_applySilences (verdict : Verdict) (silences : List Silence) (now : Datetime) :
    (applySilences verdict silences now).severity =
      worst (openFindings silences verdict.device now verdict.findings) := by
  rw [applySilences]
  dsimp only
  rw [foldl_step_eq, severity_foldl_add]
  rfl

lemma counts_applySilences (verdict : Verdict) (silences : List Silence) (now : Datetime) :
    (applySilences verdict silences now).counts.silenced =
        (applySilences verdict silences now).findings.countP TaggedFinding.silenced ∧
      ∀ severity ≠ Severity.ok, (applySilences verdict silences now).counts.get severity =
        (applySilences verdict silences now).findings.countP
          (fun f => !f.silenced && f.finding.severity == severity) := by
  have hcounts := counts_foldl_add {} (verdict.findings.map (tag silences verdict.device now))
  rw [findings_applySilences, applySilences]
  dsimp only
  rw [foldl_step_eq, hcounts.1]
  refine ⟨Nat.zero_add _, ?_⟩
  intro severity hne
  rw [hcounts.2 severity hne]
  cases severity <;> exact Nat.zero_add _

lemma countP_buckets {tagged : List TaggedFinding} (h : ∀ f ∈ tagged, f.finding.severity ≠ .ok) :
    tagged.countP (fun f => !f.silenced && f.finding.severity == .critical) +
        tagged.countP (fun f => !f.silenced && f.finding.severity == .unreachable) +
        tagged.countP (fun f => !f.silenced && f.finding.severity == .warning) +
        tagged.countP (fun f => !f.silenced && f.finding.severity == .info) +
        tagged.countP TaggedFinding.silenced = tagged.length := by
  induction tagged with
  | nil => rfl
  | cons f tagged ih =>
    obtain ⟨hf, hrest⟩ := List.forall_mem_cons.mp h
    have hih := ih hrest
    simp only [List.countP_cons, List.length_cons]
    cases f.silenced with
    | true =>
      simp only [Bool.not_true, Bool.false_and, Bool.false_eq_true, if_false, if_true]
      omega
    | false =>
      cases hseverity : f.finding.severity with
      | ok => exact absurd hseverity hf
      | _ => simp; omega

lemma severity_ne_ok {evidence : Evidence} {d : Device} :
    ∀ f ∈ findingsOf evidence d, f.severity ≠ .ok := by
  have hrules : ∀ rule ∈ allRules, rule.severity ≠ .ok ∧
      ∀ ctx, ∀ raw ∈ rule.fn ctx, raw.severity ≠ some .ok := by
    intro rule hrule
    simp only [allRules, List.mem_cons, List.not_mem_nil, or_false] at hrule
    rcases hrule with rfl | rfl | rfl | rfl | rfl | rfl | rfl | rfl | rfl | rfl <;>
      refine ⟨by decide, ?_⟩ <;> intro ctx raw hraw hok
    · grind [isisIsolated]
    · grind [isisAdjacencyNotUp]
    · grind [bgpSessionDown]
    · grind [bgpProcessAbsent]
    · grind [bgpNoPrefixes]
    · grind [interfaceAdminUpLineDown]
    · grind [srPolicyDown]
    · grind [isisAdjacencyCountDrift]
    · grind [bgpPeerCountDrift]
    · grind [suspiciousBaseline]
  intro f hf
  rcases List.mem_append.mp hf with hf | hf
  · obtain ⟨rule, hrule, hf⟩ := List.mem_flatMap.mp hf
    obtain ⟨raw, hraw, rfl⟩ := List.mem_map.mp hf
    obtain ⟨hseverity, hfragments⟩ := hrules rule hrule
    dsimp only
    cases hraw' : raw.severity with
    | none => exact hseverity
    | some severity =>
      intro hok
      rw [Option.getD_some] at hok
      rw [hok] at hraw'
      exact hfragments _ raw hraw hraw'
  · rw [unassessed] at hf
    rcases List.mem_append.mp hf with hf | hf
    · split at hf
      · rw [List.mem_singleton.mp hf]
        decide
      · obtain ⟨intent, -, rfl⟩ := List.mem_map.mp hf
        exact Severity.noConfusion
    · obtain ⟨intent, -, rfl⟩ := List.mem_map.mp hf
      exact Severity.noConfusion

lemma severity_evaluateDevice (evidence : Evidence) (d : Device) (platform : Option String) :
    (evaluateDevice evidence d platform).severity =
      worst (evaluateDevice evidence d platform).findings := rfl

lemma unordered_iff :
    (∀ others : List Silence, others.Perm silences →
        applySilences verdict others now = applySilences verdict silences now) ↔
      TiesAgree verdict silences now := by
  constructor
  · intro h finding hfinding s s' hs hs'
    have htag : ∀ s, MostSpecific silences verdict.device now finding s →
        (tag silences verdict.device now finding).silence = some s.asDict := by
      intro s hs
      have hsame := h (s :: silences.erase s) (List.perm_cons_erase hs.1).symm
      have hfindings := congrArg SilencedVerdict.findings hsame
      rw [findings_applySilences, findings_applySilences] at hfindings
      have htags := List.map_inj_left.mp hfindings finding hfinding
      rw [tag_of_first hs] at htags
      rw [← htags]
    have hrecord := htag s hs
    rw [htag s' hs'] at hrecord
    exact (Option.some.inj hrecord).symm
  · intro h others hperm
    have htags : verdict.findings.map (tag others verdict.device now) =
        verdict.findings.map (tag silences verdict.device now) := by
      apply List.map_congr_left
      intro finding hfinding
      exact tag_of_perm hperm (h finding hfinding)
    rw [applySilences, applySilences, foldl_step_eq, foldl_step_eq, htags]

/-- Silencing a verdict obeys its laws exactly when the most specific silences of each finding leave
the same record; only the order of the silences is at stake. -/
theorem silencingLaws_iff (evidence : Evidence) (d : Device) (platform : Option String)
    (silences : List Silence) (now : Datetime) :
    SilencingLaws (evaluateDevice evidence d platform) silences now ↔
      TiesAgree (evaluateDevice evidence d platform) silences now := by
  rw [← unordered_iff]
  constructor
  · exact fun h => h.unordered
  · intro hunordered
    generalize hverdict : evaluateDevice evidence d platform = verdict at hunordered ⊢
    have hworst : verdict.severity = worst verdict.findings := by
      rw [← hverdict, severity_evaluateDevice]
    have hcounted : ∀ f ∈ verdict.findings, f.severity ≠ .ok := by
      rw [← hverdict]
      exact severity_ne_ok
    have hopen : ∀ silences, (openFindings silences verdict.device now verdict.findings) ⊆
        verdict.findings := fun _ _ hf => (mem_openFindings.mp hf).1
    have hfindings := findings_applySilences verdict silences now
    have hseverity := severity_applySilences verdict silences now
    have hraw : (applySilences verdict silences now).rawSeverity = verdict.severity := rfl
    have htagged : ∀ f ∈ verdict.findings, (tag silences verdict.device now f).silenced = false →
        f ∈ openFindings silences verdict.device now verdict.findings := by
      intro f hf hsilenced
      rw [openFindings, List.mem_filter, hsilenced]
      exact ⟨hf, rfl⟩
    constructor
    · rw [hfindings, List.map_map]
      exact List.map_id' verdict.findings
    · intro f hf
      rw [hfindings] at hf
      obtain ⟨finding, -, rfl⟩ := List.mem_map.mp hf
      exact findSilence_isSome_iff
    · intro f hf r hr
      rw [hfindings] at hf
      obtain ⟨finding, -, rfl⟩ := List.mem_map.mp hf
      obtain ⟨s, hs, rfl⟩ := Option.map_eq_some_iff.mp hr
      exact ⟨s, mostSpecific_of_findSilence hs, rfl⟩
    · intro f hf hsilenced
      rw [hfindings] at hf
      obtain ⟨finding, hfinding, rfl⟩ := List.mem_map.mp hf
      rw [hseverity]
      exact severityRank_worst_le_iff.mp (Nat.le_refl _) finding
        (htagged finding hfinding hsilenced)
    · rw [hseverity, hfindings]
      rcases worst_reached (openFindings silences verdict.device now verdict.findings)
        with h | ⟨f, hf, h⟩
      · exact .inl h
      · refine .inr ⟨tag silences verdict.device now f, List.mem_map_of_mem (hopen _ hf), ?_, h⟩
        simpa using (List.mem_filter.mp hf).2
    · exact hraw
    · rw [hraw, hseverity, hworst, severityRank_worst_le_iff]
      intro f hf
      exact severityRank_worst_le_iff.mp (Nat.le_refl _) f (hopen _ hf)
    · intro hnone
      have hall : openFindings silences verdict.device now verdict.findings = verdict.findings := by
        rw [openFindings, List.filter_eq_self]
        intro f hf
        exact (List.mem_filter.mp (mem_openFindings.mpr ⟨hf, hnone f hf⟩)).2
      rw [hraw, hseverity, hall, hworst]
    · obtain ⟨hsilenced, hget⟩ := counts_applySilences verdict silences now
      have hnotOk : ∀ f ∈ (applySilences verdict silences now).findings,
          f.finding.severity ≠ .ok := by
        intro f hf
        rw [hfindings] at hf
        obtain ⟨finding, hfinding, rfl⟩ := List.mem_map.mp hf
        exact hcounted finding hfinding
      have hbuckets := countP_buckets hnotOk
      rw [← hget _ (by decide), ← hget _ (by decide), ← hget _ (by decide), ← hget _ (by decide),
        ← hsilenced, hfindings, List.length_map] at hbuckets
      exact hbuckets
    · exact (counts_applySilences verdict silences now).2
    · exact (counts_applySilences verdict silences now).1
    · intro more hmore
      rw [hseverity, severity_applySilences, severityRank_worst_le_iff]
      intro f hf
      obtain ⟨hmem, hnone⟩ := mem_openFindings.mp hf
      have hstill := mem_openFindings.mpr ⟨hmem, fun s hs => hnone s (hmore hs)⟩
      exact severityRank_worst_le_iff.mp (Nat.le_refl _) f hstill
    · exact hunordered

def windowOfDevice : Silence where
  id := "maintenance-PE1"
  reason := "line card swap"
  createdBy := "ops"
  expiresAt := ⟨1787184000000000, 0⟩
  device := some "PE1"

def windowOfRule : Silence where
  id := "unreachable-everywhere"
  reason := "management network moves"
  createdBy := "ops"
  expiresAt := ⟨1787184000000000, 0⟩
  rule := some "device_unreachable"

/-- A device of which nothing could be collected, under two windows that pin as much. -/
theorem not_silencingLaws_twoWindows :
    ¬SilencingLaws (evaluateDevice { get := fun _ => none } { name := "PE1", role := .edge })
      [windowOfDevice, windowOfRule] ⟨1787100000000000, 0⟩ := by
  intro h
  have hsame := h.unordered [windowOfRule, windowOfDevice] (List.Perm.swap _ _ _)
  have hrecords := congrArg (fun v => v.findings.map TaggedFinding.silence) hsame
  revert hrecords
  decide +kernel

end Health

end NetTools
