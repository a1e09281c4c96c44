import NetTools.Collection.Commands

/-!
# What a collection answers

Every envelope of an intent, and every section of a collection, is an answer with what was parsed of
it added.
-/

namespace NetTools

/-- What an answer holds before it is parsed: the outputs of an intent that was run, or none of one
that the platform does not have. -/
inductive Answered (answer : Envelope) : Prop
  | ran (hstatus : answer.status ≠ STATUS_UNSUPPORTED)
      (hdata : ∀ entry ∈ answer.data, entry.1 ∈ ["commands", "retries"])
  | unsupported (hstatus : answer.status = STATUS_UNSUPPORTED)
      (hdata : ∀ entry ∈ answer.data, entry.1 ∈ ["intent", "platform", "commands"])
      (houtputs : answer.outputs = [])

lemma Answered.notMem {answer : Envelope} (h : Answered answer) {key : String}
    (hkey : key ∉ ["commands", "retries", "intent", "platform"]) :
    key ∉ answer.data.map Prod.fst := by
  simp only [List.mem_cons, List.not_mem_nil, or_false, not_or] at hkey
  intro hmem
  obtain ⟨entry, hentry, rfl⟩ := List.mem_map.mp hmem
  cases h with
  | ran hstatus hdata =>
    have hname := hdata entry hentry
    simp only [List.mem_cons, List.not_mem_nil, or_false] at hname
    tauto
  | unsupported hstatus hdata houtputs =>
    have hname := hdata entry hentry
    simp only [List.mem_cons, List.not_mem_nil, or_false] at hname
    tauto

section Answers

variable (parseIntent : ParseIntent) (platform intent : String)

def parseAnswer (answer : Envelope) : Option Value × String :=
  if answer.status = STATUS_UNSUPPORTED then (none, "unavailable")
  else parseIntent platform intent answer.outputs

lemma data_attachParsed {answer : Envelope} (h : Answered answer) :
    (attachParsed parseIntent platform intent answer).data = answer.data ++
      [("parsed", (parseAnswer parseIntent platform intent answer).1.getD .none),
        ("parse_status", .str (parseAnswer parseIntent platform intent answer).2)] := by
  have hparsed : "parsed" ∉ answer.data.map Prod.fst := h.notMem (by decide)
  have hstatus : "parse_status" ∉ answer.data.map Prod.fst := h.notMem (by decide)
  change Dict.set (Dict.set answer.data "parsed" _) "parse_status" _ = _
  rw [set_of_notMem hparsed, set_of_notMem, List.append_assoc]
  · rfl
  · rw [List.map_append, List.mem_append, not_or]
    exact ⟨hstatus, by simp⟩

lemma outputs_attachParsed {answer : Envelope} (h : Answered answer) :
    (attachParsed parseIntent platform intent answer).outputs = answer.outputs := by
  have hlookup : (attachParsed parseIntent platform intent answer).data.lookup "commands" =
      answer.data.lookup "commands" := by
    rw [data_attachParsed parseIntent platform intent h, List.lookup_append]
    cases answer.data.lookup "commands" <;> rfl
  rw [Envelope.outputs, Envelope.outputs, hlookup]

end Answers

open Traces Traces.Traced

section Collections

variable (world : World)

lemma answered_safeError (tool device message source : String) :
    Answered (safeError world tool device message source) :=
  .ran (show STATUS_ERROR ≠ STATUS_UNSUPPORTED by decide) (fun _ h => absurd h List.not_mem_nil)

lemma answered_unsupported (tool device intent platform source : String) :
    Answered (unsupportedResult world tool device intent platform source) :=
  .unsupported rfl (by simp [unsupportedResult]) rfl

lemma answered_finishSession {result : Envelope} (hstatus : result.status = STATUS_SUCCESS)
    (hdata : result.data = [("commands", .dict [])]) (answer : Except Refusal Session) :
    Answered (finishSession result answer) := by
  have hcommands : ∀ entry ∈ result.data, entry.1 ∈ ["commands", "retries"] := by
    rw [hdata]
    simp
  cases answer with
  | error refusal =>
    refine .ran (show STATUS_ERROR ≠ STATUS_UNSUPPORTED by decide) ?_
    have hpresent : (result.data.lookup "commands").isSome = true := by
      rw [hdata]
      rfl
    have hsame : (finishSession result (.error refusal)).data = result.data := if_pos hpresent
    rw [hsame]
    exact hcommands
  | ok session =>
    refine .ran ?_ ?_
    · change (if session.errors = [] then result.status else STATUS_ERROR) ≠ STATUS_UNSUPPORTED
      rw [hstatus]
      split <;> decide
    · intro entry hentry
      rw [finishSession, List.mem_append] at hentry
      rcases hentry with hentry | hentry
      · exact keys_set_subset (by decide) hcommands entry hentry
      · rw [retriesEntry] at hentry
        split at hentry
        · cases hentry
        · rw [List.mem_singleton] at hentry
          rw [hentry]
          exact List.mem_cons_of_mem _ (List.mem_singleton_self _)

lemma yields_sendAll (sender : Sender) {result : Envelope} (labelled : List (String × String))
    (hstatus : result.status = STATUS_SUCCESS) (hdata : result.data = [("commands", .dict [])]) :
    Yields (sendAll sender result labelled) Answered := by
  rw [sendAll]
  refine yields_bind (yields_any (forEach (fun command => askSender sender command.2) labelled)) ?_
  rintro answers -
  refine yields_pure ?_
  refine .ran ?_ ?_
  · dsimp only
    rw [hstatus]
    split <;> decide
  · apply keys_set_subset (by decide)
    rw [hdata]
    simp

lemma yields_runApprovedCommands (device : String) (commands : List String) (platform : String)
    (credentials : Option Dict) :
    Yields (runApprovedCommands world device commands platform credentials) Answered := by
  rw [runApprovedCommands]
  refine yields_bind (yields_any (forEach (checkCommand platform) commands)) ?_
  intro checked hchecked
  dsimp only
  split
  · exact yields_pure (answered_safeError world _ _ _ _)
  · split
    · exact yields_sendAll _ _ rfl rfl
    · refine yields_bind (yields_any (askSession world commands none)) ?_
      rintro answer -
      exact yields_pure (answered_finishSession rfl rfl answer)
    · refine yields_bind (yields_any (askDevice world)) ?_
      rintro (message | -) -
      · exact yields_pure (answered_safeError world _ _ _ _)
      · refine yields_bind (yields_any (askSession world commands none)) ?_
        rintro answer -
        exact yields_pure (answered_finishSession rfl rfl answer)

variable (parseIntent : ParseIntent)

def ParsedAnswer (platform intent : String) (envelope : Envelope) : Prop :=
  ∃ answer, Answered answer ∧ envelope = attachParsed parseIntent platform intent answer

theorem yields_runIntent (device intent : String) (credentials : Option Dict) :
    Yields (runIntent world parseIntent device intent credentials)
      (ParsedAnswer parseIntent (world.platformFor device) intent) := by
  rw [runIntent]
  dsimp only
  split
  · exact yields_pure ⟨_, answered_safeError world _ _ _ _, rfl⟩
  · split
    · exact yields_pure ⟨_, answered_unsupported world _ _ _ _ _, rfl⟩
    · refine yields_bind (yields_runApprovedCommands world _ _ _ _) ?_
      intro answer hanswer
      exact yields_pure ⟨answer, hanswer, rfl⟩

lemma answered_sectionFromCombined (device : String) (commands : List String)
    (combined : Envelope) : Answered (sectionFromCombined world device commands combined) := by
  refine .ran ?_ ?_
  · change (if _ then STATUS_SUCCESS else STATUS_ERROR) ≠ STATUS_UNSUPPORTED
    split <;> decide
  · intro entry hentry
    rw [sectionFromCombined, List.mem_singleton] at hentry
    rw [hentry]
    exact List.mem_cons_self ..

structure Sections (platform : String) (evidence : CollectedEvidence) : Prop where
  names : evidence.sections.map Prod.fst = Platforms.allIntents
  parsed : ∀ entry ∈ evidence.sections, ParsedAnswer parseIntent platform entry.1 entry.2

theorem yields_collectEvidence (device : String) :
    Yields (collectEvidence world parseIntent device)
      (Sections parseIntent (world.platformFor device)) := by
  rw [collectEvidence]
  split
  · apply yields_pure
    constructor
    · rw [unknownEvidence, List.map_map]
      exact List.map_id _
    · intro entry hentry
      obtain ⟨intent, -, rfl⟩ := List.mem_map.mp hentry
      exact ⟨_, answered_safeError world _ _ _ _, rfl⟩
  · refine yields_bind (yields_any (runApprovedCommands world device _ _ none)) ?_
    rintro combined -
    refine yields_pure ?_
    constructor
    · rw [List.map_map]
      exact List.map_id _
    · intro entry hentry
      obtain ⟨intent, -, rfl⟩ := List.mem_map.mp hentry
      refine ⟨_, ?_, rfl⟩
      split
      · exact answered_sectionFromCombined world _ _ _
      · exact answered_unsupported world _ _ _ _ _

end Collections

end NetTools
