import NetTools.Collection.Answers
import NetTools.Egress.PolicyTexts

/-!
# Declared free text in collected evidence

Evidence is projected section by section, under the intent that a section names. A section of an
intent that the platform has does not name it, so the last errors of segment routing pass as they
are.
-/

namespace NetTools

namespace ModelEgress

/-- `envelope["data"]["parsed"]`. -/
def parsedOf : Value → Value
  | .dict envelope =>
    match Dict.get? envelope "data" with
    | some (.dict data) => (Dict.get? data "parsed").getD .none
    | _ => .none
  | _ => .none

section Answers

variable (parseIntent : ParseIntent) (platform intent : String)

lemma parsedOf_attachParsed {answer : Envelope} (h : Answered answer) :
    parsedOf (.dict (attachParsed parseIntent platform intent answer).toDict) =
      (parseAnswer parseIntent platform intent answer).1.getD .none := by
  have hparsed : "parsed" ∉ answer.data.map Prod.fst := h.notMem (by decide)
  have hlookup : answer.data.lookup "parsed" = none := by
    rw [List.lookup_eq_none_iff]
    intro entry hentry
    rw [bne_iff_ne]
    intro heq
    exact hparsed (List.mem_map.mpr ⟨entry, hentry, heq.symm⟩)
  have hdata : Dict.get? (attachParsed parseIntent platform intent answer).toDict "data" =
      some (.dict (attachParsed parseIntent platform intent answer).data) := rfl
  simp only [parsedOf, hdata]
  rw [data_attachParsed parseIntent platform intent h, Dict.get?, List.lookup_append, hlookup]
  rfl

lemma envelopeContext_attachParsed {answer : Envelope} (h : Answered answer)
    (hran : answer.status ≠ STATUS_UNSUPPORTED) :
    envelopeContext (.dict (attachParsed parseIntent platform intent answer).toDict) = none := by
  have hdata : Dict.get? (attachParsed parseIntent platform intent answer).toDict "data" =
      some (.dict (attachParsed parseIntent platform intent answer).data) := rfl
  have hnone : ∀ key ∈ ["intent", "template"],
      Dict.get? (attachParsed parseIntent platform intent answer).data key = none := by
    intro key hkey
    rw [data_attachParsed parseIntent platform intent h, Dict.get?, List.lookup_eq_none_iff]
    intro entry hentry
    rw [bne_iff_ne]
    rintro rfl
    rw [List.mem_append] at hentry
    rcases hentry with hentry | hentry
    · cases h with
      | ran hstatus hdata =>
        have hname := hdata entry hentry
        simp only [List.mem_cons, List.not_mem_nil, or_false] at hname hkey
        rcases hname with hname | hname <;> rw [hname] at hkey <;> revert hkey <;> decide
      | unsupported hstatus => exact hran hstatus
    · simp only [List.mem_cons, List.not_mem_nil, or_false] at hentry hkey
      rcases hentry with rfl | rfl
      · simp at hkey
      · simp at hkey
  simp only [envelopeContext, hdata, hnone "intent" (by decide), hnone "template" (by decide)]

lemma isFreeText_walked (context : Option String) {key : String} (h : key ∈ ["data", "parsed"]) :
    isFreeText context key = false := by
  have hnames : ∀ name ∈ ["data", "parsed"], ∀ field ∈ FREE_TEXT_FIELDS, field.2 ≠ name := by
    decide
  cases context with
  | none => rfl
  | some c =>
    rw [isFreeText, Option.any_some, decide_eq_false_iff_not]
    intro hmem
    exact hnames key h _ hmem rfl

variable (repr : Value → String) (lower : String → String)

lemma parsedOf_projectEnvelope {answer : Envelope} (h : Answered answer)
    (freeTextBudget : Option Int) :
    ∃ left, parsedOf (projectEnvelope repr lower
        (.dict (attachParsed parseIntent platform intent answer).toDict) freeTextBudget) =
      (project repr lower
        (envelopeContext (.dict (attachParsed parseIntent platform intent answer).toDict))
        ((parseAnswer parseIntent platform intent answer).1.getD .none) left).1 := by
  rw [projectEnvelope]
  generalize henvelope : attachParsed parseIntent platform intent answer = envelope
  generalize envelopeContext (.dict envelope.toDict) = context
  have hafter : "data" ∉ (("errors", Value.list (envelope.errors.map .str)) ::
      (envelope.admission.map
        (fun refusal => ("admission", refusal.toValue))).toList).map Prod.fst := by
    cases envelope.admission <;> simp
  have hdata : ∀ budget, ∃ left, Dict.get?
      ((walker repr lower context).walkEntries envelope.toDict [] budget).1 "data" =
        some (project repr lower context (.dict envelope.data) left).1 :=
    get?_walkEntries repr lower [("tool", .str envelope.tool), ("device", .str envelope.device),
      ("status", .str envelope.status), ("timestamp", .str envelope.timestamp),
      ("source", .str envelope.source)] (.dict envelope.data) hafter (by decide)
      (isFreeText_walked context (by decide)) []
  have hparsed : ∀ budget, ∃ left, Dict.get?
      ((walker repr lower context).walkEntries envelope.data [] budget).1 "parsed" =
        some (project repr lower context
          ((parseAnswer parseIntent platform intent answer).1.getD .none) left).1 := by
    rw [← henvelope, data_attachParsed parseIntent platform intent h]
    exact get?_walkEntries repr lower answer.data _ (by simp) (by decide)
      (isFreeText_walked context (by decide)) []
  obtain ⟨between, hbetween⟩ := hdata (freeTextBudget.getD DEFAULT_FREE_TEXT_BUDGET)
  obtain ⟨left, hleft⟩ := hparsed between
  refine ⟨left, ?_⟩
  rw [project, Walker.walk]
  simp only [parsedOf, hbetween, project, Walker.walk] at hleft ⊢
  rw [hleft, Option.getD_some]

end Answers

/-- In what is shown of an envelope, each text that was parsed under a declared field of the intent
is a quotation. -/
def Marked (intent : String) (envelope shown : Value) : Prop :=
  Quotes (blocks (isFreeText (some intent)) (parsedOf shown))
    (blocks (isFreeText (some intent)) (parsedOf envelope))

variable (u : CharClasses) (intOf : String → Int) (others : String → Dict → Option Value)
variable (repr : Value → String) (lower : String → String) (freeTextBudget : Option Int)

open SegmentRouting

theorem marked_attachParsed_iff (platform intent : String) {answer : Envelope}
    (h : Answered answer) :
    Marked intent
      (.dict (attachParsed (parseIntent u intOf others) platform intent answer).toDict)
      (projectEnvelope repr lower
        (.dict (attachParsed (parseIntent u intOf others) platform intent answer).toDict)
        freeTextBudget) ↔
    ¬LastErrorShown u platform intent answer.outputs := by
  obtain ⟨left, hshown⟩ := parsedOf_projectEnvelope (parseIntent u intOf others) platform intent
    repr lower h freeTextBudget
  rw [Marked, hshown, parsedOf_attachParsed (parseIntent u intOf others) platform intent h]
  by_cases hsr : platform = "cisco_xr" ∧ intent = "sr"
  · obtain ⟨rfl, rfl⟩ := hsr
    by_cases hran : answer.status = STATUS_UNSUPPORTED
    · have houtputs : answer.outputs = [] := by
        cases h with
        | ran hstatus => exact absurd hran hstatus
        | unsupported hstatus hdata houtputs => exact houtputs
      rw [parseAnswer, if_pos hran, houtputs]
      exact ⟨fun _ => not_lastErrorShown_nil, fun _ => Quotes.nil _⟩
    · rw [parseAnswer, if_neg hran, envelopeContext_attachParsed _ _ _ h hran]
      rcases parseIntent_sr (u := u) intOf others answer.outputs with
        ⟨consumed, hparsed⟩ | ⟨hparsed, hnot⟩
      · rw [hparsed, Option.getD_some,
          blocks_project_finalize u repr lower _ _ (plain_policies _), blocks_finalize,
          blocks_policies]
        change Quotes (readLines u intOf (firstText answer.outputs)).errors
          (readLines u intOf (firstText answer.outputs)).errors ↔ _
        rw [quotes_errors_iff, LastErrorShown, ← errors_ne_nil_iff intOf]
        simp
      · rw [hparsed]
        exact ⟨fun _ hshown => hnot hshown.2.2, fun _ => Quotes.nil _⟩
  · have hnot : ¬LastErrorShown u platform intent answer.outputs := fun h => hsr ⟨h.1, h.2.1⟩
    simp only [hnot, not_false_eq_true, iff_true]
    cases hparsed : (parseAnswer (parseIntent u intOf others) platform intent answer).1 with
    | none => exact Quotes.nil _
    | some parsed =>
      rw [parseAnswer] at hparsed
      split at hparsed
      · cases hparsed
      · obtain ⟨hplatform, hintent⟩ := known_of_parsed intOf others hparsed
        have hother := hintent.resolve_left (fun hintent => hsr ⟨hplatform, hintent⟩)
        rw [blocks_eq_nil (isFreeText_otherIntents hother)]
        exact Quotes.nil _

section Evidence

variable (repr : Value → String) (lower : String → String)

/-- In evidence that is shown, each text that was parsed under a declared field of the intent is a
quotation. -/
def MarkedIn (freeTextBudget : Option Int) (evidence : Dict) (key intent : String) : Prop :=
  Marked intent ((Dict.get? evidence key).getD .none)
    ((Dict.get? (projectEvidence repr lower evidence freeTextBudget) key).getD .none)

lemma get?_projectEvidence {evidence envelope : Dict} {key : String}
    (h : Dict.get? evidence key = some (.dict envelope)) (freeTextBudget : Option Int) :
    Dict.get? (projectEvidence repr lower evidence freeTextBudget) key =
      some (projectEnvelope repr lower (.dict envelope) freeTextBudget) := by
  rw [Dict.get?] at h ⊢
  rw [projectEvidence]
  induction evidence with
  | nil => cases h
  | cons entry evidence ih =>
    obtain ⟨name, value⟩ := entry
    rw [List.lookup_cons] at h
    rw [List.map_cons]
    by_cases hkey : (key == name) = true
    · rw [hkey] at h
      cases h
      dsimp only
      rw [List.lookup_cons, hkey]
    · rw [Bool.not_eq_true] at hkey
      rw [hkey] at h
      have hname : ∀ shown : String × Value, shown.1 = name → (key == shown.1) = false := by
        rintro shown rfl
        exact hkey
      rw [List.lookup_cons, hname _ (by cases value <;> rfl)]
      exact ih h

end Evidence

lemma get?_toDict {evidence : CollectedEvidence}
    (hnames : evidence.sections.map Prod.fst = Platforms.allIntents) {entry : String × Envelope}
    (hentry : entry ∈ evidence.sections) :
    Dict.get? evidence.toDict entry.1 = some (.dict entry.2.toDict) := by
  have hkeys : (evidence.toDict.map Prod.fst).Nodup := by
    have hall : (["device", "platform", "timestamp"] ++ Platforms.allIntents).Nodup := by decide
    rw [← hnames] at hall
    rw [CollectedEvidence.toDict, List.map_append, List.map_map]
    exact hall
  rw [Dict.get?, LastRow.lookup_eq_some_iff_mem hkeys, CollectedEvidence.toDict, List.mem_append]
  exact .inr (List.mem_map.mpr ⟨entry, hentry, rfl⟩)

/-- A declared text of collected evidence is shown unquoted exactly where an IOS-XR device answers
the policies with a last error. -/
theorem declared_text_marked_iff (u : CharClasses) :
    (∀ intOf others repr lower freeTextBudget world device intent credentials t envelope
      evidence key,
      (runIntent world (parseIntent u intOf others) device intent credentials t).1 = .ok envelope →
      Dict.get? evidence key = some (.dict envelope.toDict) →
      (MarkedIn repr lower freeTextBudget evidence key intent ↔
        ¬LastErrorShown u (world.platformFor device) intent envelope.outputs)) ∧
    ∀ intOf others repr lower freeTextBudget world device t evidence,
      (collectEvidence world (parseIntent u intOf others) device t).1 = .ok evidence →
      evidence.sections.map Prod.fst = Platforms.allIntents ∧
      ∀ entry ∈ evidence.sections,
        (MarkedIn repr lower freeTextBudget evidence.toDict entry.1 entry.1 ↔
          ¬LastErrorShown u (world.platformFor device) entry.1 entry.2.outputs) := by
  constructor
  · intro intOf others repr lower freeTextBudget world device intent credentials t envelope
      evidence key hrun hevidence
    obtain ⟨answer, hanswer, rfl⟩ :=
      yields_runIntent world (parseIntent u intOf others) device intent credentials t envelope hrun
    rw [MarkedIn, hevidence, get?_projectEvidence repr lower hevidence, Option.getD_some,
      Option.getD_some, outputs_attachParsed _ _ _ hanswer]
    exact marked_attachParsed_iff u intOf others repr lower freeTextBudget _ intent hanswer
  · intro intOf others repr lower freeTextBudget world device t evidence hrun
    obtain ⟨hnames, hparsed⟩ :=
      yields_collectEvidence world (parseIntent u intOf others) device t evidence hrun
    refine ⟨hnames, ?_⟩
    intro entry hentry
    obtain ⟨answer, hanswer, heq⟩ := hparsed entry hentry
    have hevidence : Dict.get? evidence.toDict entry.1 = some (.dict entry.2.toDict) :=
      get?_toDict hnames hentry
    rw [MarkedIn, hevidence, get?_projectEvidence repr lower hevidence, Option.getD_some,
      Option.getD_some, heq, outputs_attachParsed _ _ _ hanswer]
    exact marked_attachParsed_iff u intOf others repr lower freeTextBudget _ entry.1 hanswer

def pathOutput : String :=
  "Color: 10, End-point: 1.1.1.1\n  Preference: 100 (configuration) (active)\n" ++
  "    Last error: No path found"

def quietOutput : String :=
  "Color: 10, End-point: 1.1.1.1\n  Preference: 100 (configuration) (active)"

def policyWorld (output : String) : World where
  platformFor _ := "cisco_xr"
  timestamp := "2026-01-01T00:00:00+00:00"
  probesAllowed := true
  probeBudget _ := none
  getDevice _ := .ok []
  session _ commands := .ok { outputs := commands.map (fun command => (command,
    if command = "show segment-routing traffic-eng policy" then output else "")) }
  sender := none

def pathWorld : World := policyWorld pathOutput

def digitsOf (text : String) : Int := (pyInt text).getD 0

def evidenceOfWorld (world : World) : Except Raised CollectedEvidence :=
  (collectEvidence world (parseIntent .ascii digitsOf (fun _ _ => none)) "pe1" []).1

def pathEvidence : Except Raised CollectedEvidence := evidenceOfWorld pathWorld

def pathIntent : Except Raised Envelope :=
  (runIntent pathWorld (parseIntent .ascii digitsOf (fun _ _ => none)) "pe1" "sr" none []).1

theorem declared_text_marked_iff_path :
    (∃ envelope, pathIntent = .ok envelope ∧
      (MarkedIn (fun _ => "") id none [("sr", .dict envelope.toDict)] "sr" "sr" ↔
        ¬LastErrorShown .ascii "cisco_xr" "sr" envelope.outputs)) ∧
    (∃ evidence, pathEvidence = .ok evidence ∧ ∀ entry ∈ evidence.sections,
      (MarkedIn (fun _ => "") id none evidence.toDict entry.1 entry.1 ↔
        ¬LastErrorShown .ascii "cisco_xr" entry.1 entry.2.outputs)) ∧
    ∃ evidence, evidenceOfWorld (policyWorld quietOutput) = .ok evidence ∧
      ∀ entry ∈ evidence.sections,
        MarkedIn (fun _ => "") id none evidence.toDict entry.1 entry.1 := by
  refine ⟨?_, ?_, ?_⟩
  · cases h : pathIntent with
    | error raised =>
      have hok : pathIntent.isOk = true := by decide +kernel
      rw [h] at hok
      cases hok
    | ok envelope =>
      exact ⟨envelope, rfl, (declared_text_marked_iff .ascii).1 digitsOf (fun _ _ => none)
        (fun _ => "") id none pathWorld "pe1" "sr" none [] envelope _ "sr" h rfl⟩
  · cases h : pathEvidence with
    | error raised =>
      have hok : pathEvidence.isOk = true := by decide +kernel
      rw [h] at hok
      cases hok
    | ok evidence =>
      exact ⟨evidence, rfl, ((declared_text_marked_iff .ascii).2 digitsOf (fun _ _ => none)
        (fun _ => "") id none pathWorld "pe1" [] evidence h).2⟩
  · have hquiet : (evidenceOfWorld (policyWorld quietOutput)).toOption.map (fun evidence =>
        evidence.sections.all (fun entry =>
          (readLines .ascii digitsOf (firstText entry.2.outputs)).errors.isEmpty)) =
        some true := by decide +kernel
    cases h : evidenceOfWorld (policyWorld quietOutput) with
    | error raised =>
      rw [h] at hquiet
      cases hquiet
    | ok evidence =>
      rw [h, Except.toOption, Option.map_some, Option.some.injEq, List.all_eq_true] at hquiet
      refine ⟨evidence, rfl, ?_⟩
      intro entry hentry
      have hmarked := ((declared_text_marked_iff .ascii).2 digitsOf (fun _ _ => none)
        (fun _ => "") id none (policyWorld quietOutput) "pe1" [] evidence h).2 entry hentry
      rw [hmarked]
      rintro ⟨-, -, hshown⟩
      exact (errors_ne_nil_iff digitsOf entry.2.outputs).mpr hshown
        (List.isEmpty_iff.mp (hquiet entry hentry))

/-- The last error of the path is shown as the device wrote it, whether the intent was run alone or
with the others. -/
theorem declared_text_marked_fails_path :
    (∃ envelope, pathIntent = .ok envelope ∧
      ¬MarkedIn (fun _ => "") id none [("sr", .dict envelope.toDict)] "sr" "sr") ∧
    ∃ evidence, pathEvidence = .ok evidence ∧
      ¬MarkedIn (fun _ => "") id none evidence.toDict "sr" "sr" := by
  have hnot : ∀ envelope shown, blocks (isFreeText (some "sr")) (parsedOf shown) =
      ["No path found"] → ¬Marked "sr" envelope shown := by
    intro envelope shown hshown hmarked
    rw [Marked, hshown] at hmarked
    obtain ⟨text, -, htext⟩ := hmarked "No path found" (List.mem_singleton_self _)
    exact ne_quoteDeviceText (by decide) text htext
  constructor
  · have hblocks : (match pathIntent with
        | .ok envelope => blocks (isFreeText (some "sr")) (parsedOf ((Dict.get? (projectEvidence
            (fun _ => "") id [("sr", .dict envelope.toDict)] none) "sr").getD .none))
        | .error _ => []) = ["No path found"] := by decide +kernel
    cases h : pathIntent with
    | error raised =>
      rw [h] at hblocks
      cases hblocks
    | ok envelope =>
      rw [h] at hblocks
      exact ⟨envelope, rfl, hnot _ _ hblocks⟩
  · have hblocks : (match pathEvidence with
        | .ok evidence => blocks (isFreeText (some "sr")) (parsedOf ((Dict.get? (projectEvidence
            (fun _ => "") id evidence.toDict none) "sr").getD .none))
        | .error _ => []) = ["No path found"] := by decide +kernel
    cases h : pathEvidence with
    | error raised =>
      rw [h] at hblocks
      cases hblocks
    | ok evidence =>
      rw [h] at hblocks
      exact ⟨evidence, rfl, hnot _ _ hblocks⟩

end ModelEgress

end NetTools
