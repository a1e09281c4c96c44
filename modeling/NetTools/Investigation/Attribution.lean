import NetTools.Grounding.Spellings
import NetTools.Investigation.CauseNames
import NetTools.Library.Splitting

/-!
# Which records a timeline names

The timeline of a cause should hold the records that mention one of its objects as a whole token. It
holds the records in which one of the extracted identifiers lies, wherever it lies.
-/

namespace NetTools

namespace Attribution

open Grounding ListSearch

variable (repr : Value → String) (T : NameTables)

def isJoint (c : Char) : Bool := c ∈ ['/', '.', '-']

def isNameChar (u : CharClasses) (c : Char) : Bool := c.isAlpha || u.isWord c || isJoint c

def runsOf (u : CharClasses) (text : String) : List (List Char) :=
  text.toList.splitOnP (fun c => !isNameChar u c)

def tokensOf (u : CharClasses) (text : String) : List (List Char) :=
  (runsOf u text).map (Trimming.trim isJoint)

def isAddress (u : CharClasses) (token : List Char) : Bool :=
  let groups := token.splitOnP (fun c => c == '.')
  groups.length == 4 && groups.all (fun group =>
    1 ≤ group.length && group.length ≤ 3 && group.all u.isDigit)

def interfaceForms : List String := kindTables.flatMap Prod.fst ++ interfaceExpansions.map Prod.fst

def isInterfaceName (u : CharClasses) (token : List Char) : Bool :=
  interfaceForms.any (fun form =>
    form.toList.isPrefixOf token && (token.drop form.toList.length).head?.any u.isDigit)

def denotes (token identifier : List Char) : Bool :=
  (isInterfaceName T.classes identifier &&
      sameInterfaceOver T.isAlpha (String.ofList token) (String.ofList identifier)) ||
    (isAddress T.classes identifier && token == identifier)

def causeText (descent : DescentResult) : String :=
  match descent.cause with
  | none => ""
  | some cause =>
    " ".intercalate ((orNone cause.result.reason).getD "" :: cause.result.evidenceKeys)

def recordText (record : Dict) : String :=
  (Render.recordField record "text").pyStr repr ++ " " ++
    (Render.recordField record "mnemonic").pyStr repr

def mentionsCause (descent : DescentResult) (record : Dict) : Bool :=
  (tokensOf T.classes (causeText descent)).any (fun identifier =>
    (tokensOf T.classes (recordText repr record)).any (fun token => denotes T token identifier))

/-! ### What a correlation holds -/

def timelineEntry (record : Dict) : Value :=
  .dict [("at", Render.recordField record "timestamp"), ("event", Render.recordField record "text"),
    ("mnemonic", Render.recordField record "mnemonic")]

def timelineOf (correlation : Dict) : Option (List Value) :=
  match Dict.get? correlation "timeline" with
  | some (.list entries) => some entries
  | _ => none

def followedACommit (correlation : Dict) : Bool :=
  match Dict.get? correlation "correlation" with
  | some (.dict fields) =>
    match Dict.get? fields "followed_a_commit" with
    | some (.bool followed) => followed
    | _ => false
  | _ => false

/-- The timeline holds the records that mention the cause, and a commit is said to come before where
one stands before the first of them. -/
structure Attributed (descent : DescentResult) (window : ShapedWindow) : Prop where
  timeline : timelineOf (Render.renderCorrelation repr T.classes descent window) =
    some ((window.records.filter (mentionsCause repr T descent)).map timelineEntry)
  followed : followedACommit (Render.renderCorrelation repr T.classes descent window) = true ↔
    ∃ before record, FirstAt (mentionsCause repr T descent) window.records before record ∧
      ∃ earlier ∈ before, Render.isCommit earlier = true

/-- A name is written in the cause: read from the left, it is a port or an address. -/
def Written (descent : DescentResult) (name : List Char) : Prop :=
  Pattern.Found (Render.NameAt T.classes) name none (causeText descent).toList

/-- A whole token of the cause that is an interface or an address. -/
def IsObject (descent : DescentResult) (identifier : List Char) : Prop :=
  identifier ∈ tokensOf T.classes (causeText descent) ∧
    (isInterfaceName T.classes identifier = true ∨ isAddress T.classes identifier = true)

def Has (record : Dict) (name : List Char) : Prop :=
  ∃ run ∈ runsOf T.classes (recordText repr record), name <:+: run

def HasWritten (descent : DescentResult) (record : Dict) : Prop :=
  ∃ name, Written T descent name ∧ Has repr T record name

/-- No record of the window is mistaken for one about the cause, or missed. A record that mentions
the cause besides is not mistaken, and one that has a written name besides is not missed. -/
structure Unmistaken (descent : DescentResult) (window : ShapedWindow) : Prop where
  /-- no longer name has an object of the cause within it -/
  longer : ∀ record ∈ window.records, ∀ name, IsObject T descent name → Written T descent name →
    ∀ run ∈ runsOf T.classes (recordText repr record), name <:+: run →
      Trimming.trim isJoint run ≠ name → mentionsCause repr T descent record = true
  /-- no name is written in the cause that is no object of it -/
  misread : ∀ record ∈ window.records, ∀ name, Written T descent name → ¬IsObject T descent name →
    Has repr T record name → mentionsCause repr T descent record = true
  /-- no object stands in another spelling -/
  respelled : ∀ record ∈ window.records, ∀ identifier, IsObject T descent identifier →
    ∀ token ∈ tokensOf T.classes (recordText repr record), denotes T token identifier = true →
      token ≠ identifier → HasWritten repr T descent record
  /-- no object is such that it is not written as a name -/
  unwritten : ∀ record ∈ window.records, ∀ identifier, IsObject T descent identifier →
    ¬Written T descent identifier → identifier ∈ tokensOf T.classes (recordText repr record) →
      HasWritten repr T descent record
  /-- a commit that mentions the cause comes after another commit or another mention -/
  commit : ∀ before record after, window.records = before ++ record :: after →
    Render.isCommit record = true → mentionsCause repr T descent record = true →
      ∃ earlier ∈ before, Render.isCommit earlier = true ∨
        mentionsCause repr T descent earlier = true

section Subjects

variable {repr T} {descent : DescentResult} {window : ShapedWindow} {record : Dict}

lemma nameChar_of_mem_subjectsOf {subject : String}
    (h : subject ∈ Render.subjectsOf T.classes descent) :
    ∀ c ∈ subject.toList, isNameChar T.classes c = true := by
  have hletter : ∀ c : Char, c.isAlpha = true → isNameChar T.classes c = true := by
    intro c hc
    rw [isNameChar, hc]
    rfl
  have hdigit : ∀ c, T.classes.isDigit c = true → isNameChar T.classes c = true := by
    intro c hc
    rw [isNameChar, T.classes.word_of_digit c hc, Bool.or_true]
    rfl
  have hjoint : ∀ c, isJoint c = true → isNameChar T.classes c = true := by
    intro c hc
    rw [isNameChar, hc, Bool.or_true]
  have hnumber : ∀ c, (T.classes.isDigit c || c == '/' || c == '.' || c == '-') = true →
      isNameChar T.classes c = true := by
    intro c hc
    rw [Bool.or_assoc, Bool.or_assoc, Bool.or_eq_true] at hc
    rcases hc with hc | hc
    · exact hdigit c hc
    · apply hjoint
      simpa [isJoint] using hc
  have hdot : ∀ c ∈ ['.'], isNameChar T.classes c = true := by
    intro c hc
    rw [List.mem_singleton] at hc
    rw [hc]
    exact hjoint '.' (by decide)
  have hways : ∀ cs, ∀ rest ∈ Render.identifierWays T.classes cs,
      Pattern.Consumed (fun c => isNameChar T.classes c = true) cs rest := by
    intro cs rest hrest
    obtain ⟨way, hway, rfl⟩ := List.mem_map.mp hrest
    rcases List.mem_append.mp hway with hway | hway
    · refine Pattern.consumed_waysOf _ ?_ cs way hway
      simp only [Pattern.Within, Pattern.Part.Within]
      exact ⟨hletter, hnumber, hdigit, trivial⟩
    · refine Pattern.consumed_waysOf _ ?_ cs way hway
      simp only [Pattern.Within, Pattern.Part.Within]
      exact ⟨hdigit, hdot, hdigit, hdot, hdigit, hdot, hdigit, trivial⟩
  unfold Render.subjectsOf at h
  cases hcause : descent.cause with
  | none =>
    rw [hcause] at h
    cases h
  | some cause =>
    rw [hcause] at h
    dsimp only at h
    rw [sortedNames, List.mem_insertionSort, List.mem_dedup, List.mem_map] at h
    obtain ⟨found, hfound, rfl⟩ := h
    rw [String.toList_ofList]
    exact Pattern.forall_mem_findAll hways _ 0 none found hfound

lemma mem_subjectsOf_iff (hdot : T.classes.isDigit '.' = false) {subject : String} :
    subject ∈ Render.subjectsOf T.classes descent ↔ Written T descent subject.toList := by
  have hletter : ∀ c : Char, c.isAlpha = true → T.classes.isDigit c = false := by
    intro c hc
    rw [Bool.eq_false_iff]
    intro hdigit
    have hname := T.digit_not_name c hdigit
    rw [isNameLetter, hc] at hname
    cases hname
  have hfound : ∀ (name cs : List Char),
      name ∈ Pattern.findAll T.classes.isWord (Render.identifierWays T.classes) 0 none cs ↔
        Pattern.Found (Render.NameAt T.classes) name none cs :=
    fun name cs => Pattern.mem_findAll_iff (Render.wordMatch_iff hletter hdot)
      (fun _ _ _ h => Render.NameAt.ne_nil h) none cs
  unfold Render.subjectsOf Written causeText
  cases descent.cause with
  | none =>
    rw [← hfound]
    simp [Pattern.findAll]
  | some cause =>
    dsimp only
    rw [← hfound, sortedNames, List.mem_insertionSort, List.mem_dedup, List.mem_map]
    constructor
    · rintro ⟨found, hmem, rfl⟩
      rwa [String.toList_ofList]
    · intro hmem
      exact ⟨subject.toList, hmem, String.ofList_toList⟩

lemma hasWritten_iff (hdot : T.classes.isDigit '.' = false) : HasWritten repr T descent record ↔
    Render.mentions repr (Render.subjectsOf T.classes descent) record = true := by
  have hsubject : ∀ subject ∈ Render.subjectsOf T.classes descent,
      (Has repr T record subject.toList ↔ pyContains (recordText repr record) subject = true) := by
    intro subject hsubject
    simp only [pyContains, decide_eq_true_eq]
    refine (Splitting.infix_iff ?_).symm
    intro c hc
    rw [nameChar_of_mem_subjectsOf hsubject c hc]
    rfl
  unfold Render.mentions
  rw [List.any_eq_true]
  constructor
  · rintro ⟨name, hwritten, hhas⟩
    have hmem : String.ofList name ∈ Render.subjectsOf T.classes descent := by
      rw [mem_subjectsOf_iff hdot, String.toList_ofList]
      exact hwritten
    refine ⟨_, hmem, (hsubject _ hmem).mp ?_⟩
    rwa [String.toList_ofList]
  · rintro ⟨subject, hmem, hcontains⟩
    exact ⟨subject.toList, (mem_subjectsOf_iff hdot).mp hmem, (hsubject subject hmem).mpr hcontains⟩

lemma isObject_of_denotes {token identifier : List Char}
    (hmem : identifier ∈ tokensOf T.classes (causeText descent))
    (h : denotes T token identifier = true) : IsObject T descent identifier := by
  rw [denotes, Bool.or_eq_true, Bool.and_eq_true, Bool.and_eq_true] at h
  exact ⟨hmem, h.imp And.left And.left⟩

lemma denotes_self {identifier : List Char} (h : IsObject T descent identifier) :
    denotes T identifier identifier = true := by
  rw [denotes]
  rcases h.2 with hname | haddress
  · have hne : String.ofList identifier ≠ "" := by
      intro hempty
      have hnil : identifier = [] := by
        rw [← String.toList_ofList (l := identifier), hempty]
        rfl
      rw [hnil] at hname
      revert hname
      simp [isInterfaceName]
    rw [hname, sameInterfaceOver, beq_self_eq_true, Bool.and_true, bne_iff_ne.mpr hne]
    rfl
  · rw [haddress, beq_self_eq_true, Bool.and_true, Bool.or_true]

lemma mentionsCause_of_denotes {identifier token : List Char} (h : IsObject T descent identifier)
    (htoken : token ∈ tokensOf T.classes (recordText repr record))
    (hdenotes : denotes T token identifier = true) :
    mentionsCause repr T descent record = true := by
  rw [mentionsCause, List.any_eq_true]
  exact ⟨identifier, h.1, List.any_eq_true.mpr ⟨token, htoken, hdenotes⟩⟩

lemma exists_object_of_mentionsCause (h : mentionsCause repr T descent record = true) :
    ∃ identifier, IsObject T descent identifier ∧
      ∃ token ∈ tokensOf T.classes (recordText repr record), denotes T token identifier = true := by
  rw [mentionsCause, List.any_eq_true] at h
  obtain ⟨identifier, hmem, h⟩ := h
  obtain ⟨token, htoken, hdenotes⟩ := List.any_eq_true.mp h
  exact ⟨identifier, isObject_of_denotes hmem hdenotes, token, htoken, hdenotes⟩

lemma has_of_mem_tokensOf {token : List Char}
    (h : token ∈ tokensOf T.classes (recordText repr record)) : Has repr T record token := by
  obtain ⟨run, hrun, rfl⟩ := List.mem_map.mp h
  exact ⟨run, hrun, Trimming.trim_infix run⟩

/-! ### What the correlation says -/

lemma timelineOf_eq : timelineOf (Render.renderCorrelation repr T.classes descent window) =
    some ((window.records.filter
      (Render.mentions repr (Render.subjectsOf T.classes descent))).map timelineEntry) := rfl

lemma followedACommit_eq :
    followedACommit (Render.renderCorrelation repr T.classes descent window) =
    (Render.commitBefore repr (Render.subjectsOf T.classes descent) window.records &&
      !(window.records.filter
        (Render.mentions repr (Render.subjectsOf T.classes descent))).isEmpty) := rfl

lemma recordText_congr {other : Dict} (h : timelineEntry record = timelineEntry other) :
    recordText repr record = recordText repr other := by
  simp only [timelineEntry, Value.dict.injEq, List.cons.injEq, Prod.mk.injEq, true_and,
    and_true] at h
  rw [recordText, recordText, h.2.1, h.2.2]

lemma mentions_congr {subjects : List String} {other : Dict}
    (h : timelineEntry record = timelineEntry other) :
    Render.mentions repr subjects record = Render.mentions repr subjects other := by
  have htext := @recordText_congr repr record other h
  unfold recordText at htext
  unfold Render.mentions
  dsimp only
  rw [htext]

lemma mentionsCause_congr {other : Dict} (h : timelineEntry record = timelineEntry other) :
    mentionsCause repr T descent record = mentionsCause repr T descent other := by
  rw [mentionsCause, mentionsCause, recordText_congr h]

lemma followedACommit_iff :
    followedACommit (Render.renderCorrelation repr T.classes descent window) = true ↔
      ∃ before record, FirstAt (Render.mentions repr (Render.subjectsOf T.classes descent))
          window.records before record ∧
        (Render.isCommit record = true ∨ ∃ earlier ∈ before, Render.isCommit earlier = true) := by
  rw [followedACommit_eq, Bool.and_eq_true, Bool.not_eq_true', List.isEmpty_eq_false_iff]
  constructor
  · rintro ⟨hcommit, hne⟩
    obtain ⟨match₀, hmatch⟩ := List.exists_mem_of_ne_nil _ hne
    obtain ⟨hmem, hmentions⟩ := List.mem_filter.mp hmatch
    obtain ⟨before, record, hfirst⟩ := exists_firstAt hmem hmentions
    obtain ⟨after, hrecords⟩ := hfirst.split
    refine ⟨before, record, hfirst, ?_⟩
    unfold Render.commitBefore at hcommit
    dsimp only at hcommit
    rw [hfirst.takeWhile_eq, hrecords, List.drop_left, List.take_succ_cons, List.take_zero,
      List.any_append, Bool.or_eq_true, List.any_eq_true, List.any_cons, List.any_nil,
      Bool.or_false] at hcommit
    exact hcommit.symm
  · rintro ⟨before, record, hfirst, hcommit⟩
    obtain ⟨after, hrecords⟩ := hfirst.split
    constructor
    · unfold Render.commitBefore
      dsimp only
      rw [hfirst.takeWhile_eq, hrecords, List.drop_left, List.take_succ_cons, List.take_zero,
        List.any_append, Bool.or_eq_true, List.any_eq_true, List.any_cons, List.any_nil,
        Bool.or_false]
      exact hcommit.symm
    · apply List.ne_nil_of_mem
      rw [List.mem_filter, hrecords]
      exact ⟨List.mem_append_right _ List.mem_cons_self, hfirst.holds⟩

lemma timeline_iff :
    timelineOf (Render.renderCorrelation repr T.classes descent window) =
        some ((window.records.filter (mentionsCause repr T descent)).map timelineEntry) ↔
      ∀ record ∈ window.records,
        Render.mentions repr (Render.subjectsOf T.classes descent) record =
          mentionsCause repr T descent record := by
  rw [timelineOf_eq, Option.some_inj]
  exact map_filter_eq_iff (fun _ _ => mentions_congr) (fun _ _ => mentionsCause_congr)

lemma commit_iff : (∀ before record after, window.records = before ++ record :: after →
    Render.isCommit record = true → mentionsCause repr T descent record = true →
      ∃ earlier ∈ before, Render.isCommit earlier = true ∨
        mentionsCause repr T descent earlier = true) ↔
    ∀ before record, FirstAt (mentionsCause repr T descent) window.records before record →
      Render.isCommit record = true → ∃ earlier ∈ before, Render.isCommit earlier = true := by
  constructor
  · intro h before record hfirst hcommit
    obtain ⟨after, hrecords⟩ := hfirst.split
    obtain ⟨earlier, hmem, hearlier⟩ := h before record after hrecords hcommit hfirst.holds
    refine ⟨earlier, hmem, hearlier.resolve_right ?_⟩
    rw [hfirst.none_before earlier hmem]
    exact Bool.false_ne_true
  · intro h before record after hrecords hcommit hmentions
    by_cases hearlier : ∃ earlier ∈ before, mentionsCause repr T descent earlier = true
    · obtain ⟨earlier, hmem, hearlier⟩ := hearlier
      exact ⟨earlier, hmem, .inr hearlier⟩
    · have hfirst : FirstAt (mentionsCause repr T descent) window.records before record := by
        refine ⟨⟨after, hrecords⟩, hmentions, ?_⟩
        intro earlier hmem
        rw [Bool.eq_false_iff]
        exact fun hmention => hearlier ⟨earlier, hmem, hmention⟩
      obtain ⟨earlier, hmem, hearlier⟩ := h before record hfirst hcommit
      exact ⟨earlier, hmem, .inl hearlier⟩

lemma unmistaken_of_attributed (hdot : T.classes.isDigit '.' = false)
    (h : Attributed repr T descent window) : Unmistaken repr T descent window := by
  have hagree := timeline_iff.mp h.timeline
  have hhas : ∀ record ∈ window.records,
      (HasWritten repr T descent record ↔ mentionsCause repr T descent record = true) := by
    intro record hrecord
    rw [hasWritten_iff hdot, hagree record hrecord]
  refine ⟨?_, ?_, ?_, ?_, commit_iff.mpr ?_⟩
  · intro record hrecord name _ hwritten run hrun hin _
    exact (hhas record hrecord).mp ⟨name, hwritten, run, hrun, hin⟩
  · intro record hrecord name hwritten _ hname
    exact (hhas record hrecord).mp ⟨name, hwritten, hname⟩
  · intro record hrecord identifier hobject token htoken hdenotes _
    exact (hhas record hrecord).mpr (mentionsCause_of_denotes hobject htoken hdenotes)
  · intro record hrecord identifier hobject _ htoken
    exact (hhas record hrecord).mpr
      (mentionsCause_of_denotes hobject htoken (denotes_self hobject))
  · intro before record hfirst hcommit
    have hfollowed := followedACommit_iff.mpr
      ⟨before, record, hfirst.congr (fun r hr => (hagree r hr).symm), .inl hcommit⟩
    obtain ⟨before', record', hfirst', hearlier⟩ := h.followed.mp hfollowed
    rw [(hfirst.unique hfirst').1]
    exact hearlier

lemma Unmistaken.hasWritten_iff_mentionsCause (h : Unmistaken repr T descent window)
    (hrecord : record ∈ window.records) :
    HasWritten repr T descent record ↔ mentionsCause repr T descent record = true := by
  constructor
  · rintro ⟨name, hwritten, run, hrun, hin⟩
    by_cases hobject : IsObject T descent name
    · by_cases htoken : Trimming.trim isJoint run = name
      · have hmem : name ∈ tokensOf T.classes (recordText repr record) :=
          List.mem_map.mpr ⟨run, hrun, htoken⟩
        exact mentionsCause_of_denotes hobject hmem (denotes_self hobject)
      · exact h.longer record hrecord name hobject hwritten run hrun hin htoken
    · exact h.misread record hrecord name hwritten hobject ⟨run, hrun, hin⟩
  · intro hmentions
    obtain ⟨identifier, hobject, token, htoken, hdenotes⟩ :=
      exists_object_of_mentionsCause hmentions
    by_cases hsame : token = identifier
    · subst hsame
      by_cases hwritten : Written T descent token
      · exact ⟨token, hwritten, has_of_mem_tokensOf htoken⟩
      · exact h.unwritten record hrecord token hobject hwritten htoken
    · exact h.respelled record hrecord identifier hobject token htoken hdenotes hsame

lemma attributed_of_unmistaken (hdot : T.classes.isDigit '.' = false)
    (h : Unmistaken repr T descent window) : Attributed repr T descent window := by
  have hagree : ∀ record ∈ window.records,
      Render.mentions repr (Render.subjectsOf T.classes descent) record =
        mentionsCause repr T descent record := by
    intro record hrecord
    rw [Bool.eq_iff_iff, ← hasWritten_iff hdot]
    exact h.hasWritten_iff_mentionsCause hrecord
  refine ⟨timeline_iff.mpr hagree, ?_⟩
  rw [followedACommit_iff]
  constructor
  · rintro ⟨before, record, hfirst, hcommit⟩
    have hfirst' := hfirst.congr hagree
    refine ⟨before, record, hfirst', ?_⟩
    rcases hcommit with hcommit | hearlier
    · exact commit_iff.mp h.commit before record hfirst' hcommit
    · exact hearlier
  · rintro ⟨before, record, hfirst, hearlier⟩
    exact ⟨before, record, hfirst.congr (fun r hr => (hagree r hr).symm), .inr hearlier⟩

end Subjects

/-- A correlation is right exactly where no record has an object of the cause within a longer name,
a misread name, or an object in another form, and no commit is the first to mention the cause. -/
theorem attributed_iff_unmistaken (repr : Value → String) (T : NameTables)
    (hdot : T.classes.isDigit '.' = false) (descent : DescentResult) (window : ShapedWindow) :
    Attributed repr T descent window ↔ Unmistaken repr T descent window :=
  ⟨unmistaken_of_attributed hdot, attributed_of_unmistaken hdot⟩

def portDown : DescentResult where
  flow := "interface_line"
  device := "PE2"
  subject := "Gi0/0/0/1"
  finding := "interface_line_down"
  outcomes :=
    [{ rung := "interface"
       device := "PE2"
       result :=
         { status := .broken
           reason := some "interface Gi0/0/0/1 is down"
           evidenceKeys := ["PE2:interfaces:Gi0/0/0/1"]
           cites := fun _ => List.cons_ne_nil _ _ } }]

def otherPort : ShapedWindow where
  records := [[("text", .str "Interface Gi0/0/0/10, changed state to Down"),
    ("mnemonic", .str "PKT_INFRA-LINK-3-UPDOWN")]]

def ownPort : ShapedWindow where
  records :=
    [[("text", .str "Configuration committed by user"), ("mnemonic", .str "CONFIG-6-DB_COMMIT")],
      [("text", .str "Interface Gi0/0/0/1, changed state to Down"),
        ("mnemonic", .str "PKT_INFRA-LINK-3-UPDOWN")]]

lemma not_attributed_longer : ¬Attributed (fun _ => "") NameTables.ascii portDown otherPort := by
  intro h
  have hagree := timeline_iff.mp h.timeline _ List.mem_cons_self
  revert hagree
  decide +kernel

lemma attributed_ownPort : Attributed (fun _ => "") NameTables.ascii portDown ownPort := by
  refine ⟨timeline_iff.mpr (by decide +kernel), iff_of_true (by decide +kernel) ?_⟩
  exact ⟨[ownPort.records[0]], ownPort.records[1], ⟨⟨[], rfl⟩, by decide +kernel, by decide +kernel⟩,
    _, List.mem_singleton_self _, by decide +kernel⟩

theorem attributed_iff_unmistaken_portDown :
    Unmistaken (fun _ => "") NameTables.ascii portDown ownPort ∧
      ¬Unmistaken (fun _ => "") NameTables.ascii portDown otherPort := by
  constructor
  · exact (attributed_iff_unmistaken _ _ (by decide) _ _).mp attributed_ownPort
  · intro h
    exact not_attributed_longer ((attributed_iff_unmistaken _ _ (by decide) _ _).mpr h)

theorem not_attributed_otherPort :
    ¬Attributed (fun _ => "") NameTables.ascii portDown otherPort := not_attributed_longer

end Attribution

end NetTools
