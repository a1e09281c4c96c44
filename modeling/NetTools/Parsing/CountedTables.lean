import NetTools.Parsing.LineCounts

/-!
# The lines of facts and tables

What the loops claim that read facts and tables, and the outputs on which no line is claimed twice.
-/

namespace NetTools

namespace Parsing

open Pattern SegmentRouting

variable {u : CharClasses} {numbers : Numbers} {headings : Bool} {ignores : List IgnoreRule}
  {x : Extracted}

lemma splitLinesFrom_cons {line cs : List Char} {c : Char}
    (h : ∀ cs', c = '\r' → cs = '\n' :: cs' → False) :
    splitLinesFrom line (c :: cs) =
      if isLineBreak c then line.reverse :: splitLinesFrom [] cs
      else splitLinesFrom (c :: line) cs := by
  rw [splitLinesFrom]
  exact h

lemma filter_splitLinesFrom_append {line a b : List Char} (p : List Char → Bool)
    (hempty : p [] = false) :
    (splitLinesFrom line (a ++ '\n' :: b)).filter p =
      (splitLinesFrom line a).filter p ++ (splitLinesFrom [] b).filter p := by
  induction line, a using splitLinesFrom.induct with
  | case1 =>
    rw [List.nil_append, splitLinesFrom.eq_def [] ('\n' :: b)]
    simp [splitLinesFrom, isLineBreak, hempty]
  | case2 line hline =>
    rw [List.nil_append, splitLinesFrom.eq_def line ('\n' :: b)]
    simp [splitLinesFrom, isLineBreak, hline, List.filter_cons]
    split <;> rfl
  | case3 line cs ih =>
    rw [List.cons_append, List.cons_append, splitLinesFrom, splitLinesFrom, List.filter_cons,
      List.filter_cons, ih]
    split <;> rfl
  | case4 line c cs hreturn hbreak ih =>
    rw [splitLinesFrom_cons hreturn, if_pos hbreak]
    by_cases hlast : c = '\r' ∧ cs = []
    · -- the line break that joins the texts is part of the last one
      obtain ⟨rfl, rfl⟩ := hlast
      have hone : splitLinesFrom line ('\r' :: '\n' :: b) =
          [line.reverse] ++ splitLinesFrom [] b := by
        rw [splitLinesFrom]
        rfl
      have hnone : splitLinesFrom [] [] = [] := by
        simp [splitLinesFrom]
      rw [List.cons_append, List.nil_append, hone, hnone, List.filter_append]
    · have hreturn' : ∀ cs', c = '\r' → cs ++ '\n' :: b = '\n' :: cs' → False := by
        intro cs' hc hcs
        cases cs with
        | nil => exact hlast ⟨hc, rfl⟩
        | cons d ds =>
          rw [List.cons_append, List.cons.injEq] at hcs
          exact hreturn ds hc (by rw [hcs.1])
      rw [List.cons_append, splitLinesFrom_cons hreturn', if_pos hbreak, List.filter_cons,
        List.filter_cons, ih]
      split <;> rfl
  | case5 line c cs hreturn hbreak ih =>
    have hreturn' : ∀ cs', c = '\r' → cs ++ '\n' :: b = '\n' :: cs' → False := by
      rintro cs' rfl -
      exact hbreak (by decide)
    rw [splitLinesFrom_cons hreturn, if_neg hbreak, List.cons_append,
      splitLinesFrom_cons hreturn', if_neg hbreak, ih]

theorem nonblankLines_join (outputs : List String) :
    nonblankLines ("\n".intercalate outputs) = outputs.flatMap nonblankLines := by
  have hlines : ∀ text, nonblankLines text =
      ((splitLinesFrom [] text.toList).filter (fun cs => !cs.all isSpaceChar)).map String.ofList := by
    intro text
    rw [nonblankLines, splitLines, List.filter_map]
    congr 2
    funext cs
    rw [Function.comp_apply, isBlank, String.toList_ofList]
  rw [hlines, String.toList_intercalate]
  induction outputs with
  | nil => rfl
  | cons output outputs ih =>
    rw [List.flatMap_cons, hlines, ← ih]
    cases outputs with
    | nil => simp [splitLinesFrom]
    | cons output' outputs =>
      have hjoin : "\n".toList.intercalate ((output :: output' :: outputs).map String.toList) =
          output.toList ++ '\n' :: "\n".toList.intercalate
            ((output' :: outputs).map String.toList) := by
        simp [List.intercalate_cons_cons]
      rw [hjoin, filter_splitLinesFrom_append _ (by rfl), List.map_append]

lemma settled_except {rule₀ : IgnoreRule} (hbounded : ∀ rule ∈ ignores, rule ≠ rule₀ → rule.Bounded)
    {start : List Char} (hstart : start <+: leadingText rule₀.pattern)
    (hfirst : ∃ c ∈ start.head?, NonSpace c) (hlast : ∃ c ∈ start.getLast?, NonSpace c)
    {text : String} (htext : ¬start <+: text.toList) : Settled ignores text := by
  intro rule hrule line hline hsame
  by_cases hrule₀ : rule = rule₀
  · have hnot : rule.accepts line = false := by
      rw [Bool.eq_false_iff]
      intro haccepts
      rw [hrule₀] at haccepts
      apply htext
      rw [← hsame]
      exact initial_pyStrip hfirst hlast (hstart.trans (leadingText_of_matchStart haccepts))
    rw [IgnoreRule.applies, hnot, Bool.false_or, hsame]
  · rw [(hbounded rule hrule hrule₀).applies_eq hline.noBreak, hsame]

theorem once_of_plain {readings : List Reading} (hwalks : x.walks = [readings])
    (hlength : readings.length = (nonblankLines x.raw).length)
    (hplain : ∀ y ∈ (nonblankLines x.raw).zip readings, y.2.Plain ∧
      (y.2.isClaimed = true → Settled ignores (pyStrip y.1))) :
    CountsLinesOnce u headings ignores x := by
  rw [once_of_one hwalks hlength (fun y hy => (hplain y hy).2)]
  · intro r hr hclaimed
    obtain ⟨y, hy, rfl⟩ : ∃ y ∈ (nonblankLines x.raw).zip readings, y.2 = r := by
      rw [← List.mem_map, List.map_snd_zip (Nat.le_of_eq hlength)]
      exact hr
    rw [(hplain y hy).1.isRead_eq]
    exact hclaimed
  · intro y hy hclaimed hread
    rw [(hplain y hy).1.isRead_eq, hclaimed] at hread
    cases hread

lemma plain_passed : Reading.Plain .passed := .inl rfl

lemma plain_value : Reading.Plain .value := .inr rfl

lemma uptime_not_built {text : String} (h : (matchStart XR_UPTIME text).isSome = true) :
    ¬"Built On".toList <+: text.toList := by
  rintro ⟨back, hback⟩
  obtain ⟨way, hway⟩ := exists_way_of_matchStart h
  obtain ⟨host, hhost, rest, hrest, -⟩ := mem_of_waysOf_cons hway
  obtain ⟨inner, hinner, heq⟩ := mem_ways_group hhost
  obtain ⟨front, hcs, hfront, -⟩ := mem_ways_run hinner
  obtain ⟨uptime, huptime, -⟩ := mem_of_waysOf_cons hrest
  have htail := mem_ways_lit huptime
  rw [← heq] at hcs
  -- the host is what stands before the first white space
  have htext : text.toList = front ++ ' ' :: ("uptime is ".toList ++ uptime.2) := by
    rw [hcs, htail]
    rfl
  have htext' : text.toList = "Built".toList ++ ' ' :: ("On".toList ++ back) := by
    rw [← hback]
    rfl
  have hcut : ∀ (cs ds : List Char), (∀ c ∈ cs, (fun c => !isSpaceChar c) c = true) →
      (cs ++ ' ' :: ds).takeWhile (fun c => !isSpaceChar c) = cs := by
    intro cs ds hcs
    rw [List.takeWhile_append_of_pos hcs, List.takeWhile_cons, if_neg (by decide), List.append_nil]
  have hhost : front = "Built".toList := by
    rw [← hcut front _ hfront, ← htext, htext', hcut _ _ (List.all_eq_true.mp (by decide))]
  rw [htext, hhost, List.append_cancel_left_eq, List.cons.injEq] at htext'
  have hu : some 'u' = some 'O' := congrArg List.head? htext'.2
  exact absurd hu (by decide)

lemma factsStep_ok {fields : Dict} {line : String} {next : Step Dict}
    (h : factsStep fields line = .ok next) :
    next.reading.Plain ∧
      (next.reading.isClaimed = true → ¬"Built On".toList <+: (pyStrip line).toList) := by
  unfold factsStep at h
  dsimp only at h
  cases hhostname : matchStart XR_HOSTNAME (pyStrip line) with
  | some found =>
    rw [hhostname] at h
    cases h
    have hstart := leadingText_of_matchStart (Option.isSome_of_eq_some hhostname)
    exact ⟨plain_value, fun _ hbuilt => Apart.not_both (by decide) hstart hbuilt⟩
  | none =>
    rw [hhostname] at h
    cases hversion : matchStart XR_VERSION (pyStrip line) with
    | some found =>
      rw [hversion] at h
      cases h
      have hstart := leadingText_of_matchStart (Option.isSome_of_eq_some hversion)
      exact ⟨plain_value, fun _ hbuilt => Apart.not_both (by decide) hstart hbuilt⟩
    | none =>
      rw [hversion] at h
      cases huptime : matchStart XR_UPTIME (pyStrip line) with
      | some found =>
        rw [huptime] at h
        cases h
        exact ⟨plain_value, fun _ => uptime_not_built (Option.isSome_of_eq_some huptime)⟩
      | none =>
        rw [huptime] at h
        dsimp only at h
        by_cases hhardware : (pyStartsWith (pyStrip line) "cisco " &&
            pyContains (pyStrip line) "processor") = true
        · rw [if_pos hhardware] at h
          cases h
          rw [Bool.and_eq_true] at hhardware
          have hstart := List.isPrefixOf_iff_prefix.mp hhardware.1
          exact ⟨plain_value, fun _ hbuilt => Apart.not_both (by decide) hstart hbuilt⟩
        · rw [if_neg hhardware] at h
          cases h
          exact ⟨plain_passed, fun hclaimed => by cases hclaimed⟩

theorem facts_once {outputs : List String} (h : parseXrFacts outputs = .ok x) :
    CountsLinesOnce u headings (FACTS_IGNORES u) x := by
  rw [parseXrFacts] at h
  obtain ⟨⟨readings, fields⟩, hwalk, h⟩ := Validation.bind_eq_ok_iff.mp h
  dsimp only at h
  by_cases hfields : fields = []
  · rw [if_pos hfields] at h
    cases h
  · rw [if_neg hfields] at h
    cases h
    rw [← nonblankLines_join] at hwalk
    have hlength := length_walk hwalk
    refine once_of_plain (by rfl) (by exact hlength) ?_
    have hall := forall_walk (Q := fun line r => r.Plain ∧
      (r.isClaimed = true → ¬"Built On".toList <+: (pyStrip line).toList))
      (fun _ => ⟨plain_passed, fun hclaimed => by cases hclaimed⟩)
      (fun _ _ _ => factsStep_ok) hwalk
    intro y hy
    refine ⟨(hall y hy).1, fun hclaimed => ?_⟩
    exact settled_except (fun rule hrule hne => bounded_facts hrule hne) (by decide)
      ⟨'B', rfl, by decide⟩ ⟨'n', rfl, by decide⟩ ((hall y hy).2 hclaimed)

lemma rowStep_ok {width : Nat} {record : List String → Except ParseFailure Dict} {rows : Rows}
    {line : String} {next : Step Rows} (h : rowStep width record rows line = .ok next) :
    next.reading = .value ∧ next.stop = false := by
  rw [rowStep] at h
  by_cases hwidth : (Grounding.words (pyStrip line)).length ≠ width
  · rw [if_pos hwidth] at h
    cases h
    exact ⟨rfl, rfl⟩
  · rw [if_neg hwidth] at h
    obtain ⟨row, -, h⟩ := Validation.bind_eq_ok_iff.mp h
    cases h
    exact ⟨rfl, rfl⟩

lemma dropDashes_suffix (lines : List String) : dropDashes lines <:+ lines := by
  cases lines with
  | nil => exact List.suffix_refl _
  | cons line lines =>
    rw [dropDashes]
    split
    · exact List.suffix_cons line lines
    · exact List.suffix_refl _

lemma afterHeader_suffix (isHeader : String → Bool) (lines : List String) :
    afterHeader isHeader lines <:+ lines := by
  induction lines with
  | nil => exact List.suffix_refl _
  | cons line lines ih =>
    rw [afterHeader]
    split
    · exact (dropDashes_suffix lines).trans (List.suffix_cons line lines)
    · exact ih.trans (List.suffix_cons line lines)

lemma length_belowHeader {lines : List String} {readings : List Reading}
    (h : readings.length ≤ lines.length) :
    (belowHeader lines readings).length = lines.length := by
  rw [belowHeader, List.length_append, List.length_replicate]
  omega

lemma length_rows {σ : Type} {step : σ → String → Except ParseFailure (Step σ)} {start last : σ}
    {isHeader : String → Bool} {lines : List String} {readings : List Reading}
    (h : walk step start (afterHeader isHeader lines) = .ok (readings, last)) :
    readings.length ≤ lines.length := by
  rw [length_walk h]
  exact (afterHeader_suffix isHeader lines).length_le

lemma plain_belowHeader {lines : List String} {readings : List Reading}
    (h : ∀ r ∈ readings, r.Plain) : ∀ r ∈ belowHeader lines readings, r.Plain := by
  intro r hr
  rcases List.mem_append.mp hr with hr | hr
  · rw [List.eq_of_mem_replicate hr]
    exact plain_passed
  · exact h r hr

lemma plain_walk {σ : Type} {step : σ → String → Except ParseFailure (Step σ)} {start last : σ}
    {lines : List String} {readings : List Reading}
    (hstep : ∀ state line next, step state line = .ok next → next.reading.Plain)
    (h : walk step start lines = .ok (readings, last)) : ∀ r ∈ readings, r.Plain := by
  have hall := forall_walk (Q := fun _ r => r.Plain) (fun _ => plain_passed) hstep h
  intro r hr
  obtain ⟨y, hy, rfl⟩ : ∃ y ∈ lines.zip readings, y.2 = r := by
    rw [← List.mem_map, List.map_snd_zip (Nat.le_of_eq (length_walk h))]
    exact hr
  exact hall y hy

lemma once_of_rows {σ : Type} {step : σ → String → Except ParseFailure (Step σ)} {start last : σ}
    {isHeader : String → Bool} {readings : List Reading}
    (hbounded : ∀ rule ∈ ignores, rule.Bounded)
    (hstep : ∀ state line next, step state line = .ok next → next.reading.Plain)
    (hwalk : walk step start (afterHeader isHeader (nonblankLines x.raw)) = .ok (readings, last))
    (hwalks : x.walks = [belowHeader (nonblankLines x.raw) readings]) :
    CountsLinesOnce u headings ignores x := by
  apply once_of_plain hwalks (length_belowHeader (length_rows hwalk))
  intro y hy
  exact ⟨plain_belowHeader (plain_walk hstep hwalk) y.2 (List.of_mem_zip hy).2,
    fun _ => settled_of_bounded hbounded _⟩

theorem interfaces_once {outputs : List String} (h : parseXrInterfaces outputs = .ok x) :
    CountsLinesOnce u headings INTERFACES_IGNORES x := by
  rw [parseXrInterfaces] at h
  obtain ⟨⟨readings, rows⟩, hwalk, h⟩ := Validation.bind_eq_ok_iff.mp h
  dsimp only at h
  by_cases hrows : rows.records = []
  · rw [if_pos hrows] at h
    cases h
  · rw [if_neg hrows] at h
    cases h
    have hstep : ∀ state line next, interfacesStep state line = .ok next → next.reading.Plain := by
      intro state line next hnext
      exact .inr (rowStep_ok hnext).1
    exact once_of_rows (fun rule hrule => bounded_interfaces hrule) hstep hwalk rfl

lemma lldpStep_plain {state : Rows × Option Int} {line : String}
    {next : Step (Rows × Option Int)} (h : lldpStep numbers state line = .ok next) :
    next.reading.Plain := by
  rw [lldpStep] at h
  by_cases htotal : pyStartsWith (pyStrip line) "Total entries" = true
  · rw [if_pos htotal] at h
    obtain ⟨reported, -, h⟩ := Validation.bind_eq_ok_iff.mp h
    cases h
    exact plain_value
  · rw [if_neg htotal] at h
    obtain ⟨row, hrow, h⟩ := Validation.bind_eq_ok_iff.mp h
    cases h
    exact .inr (rowStep_ok hrow).1

theorem lldp_once {outputs : List String} (h : parseXrLldp numbers outputs = .ok x) :
    CountsLinesOnce u headings LLDP_IGNORES x := by
  rw [parseXrLldp] at h
  dsimp only at h
  by_cases hheader : (!(nonblankLines (firstOutput outputs)).any isLldpHeader) = true
  · rw [if_pos hheader] at h
    cases h
  · rw [if_neg hheader] at h
    obtain ⟨⟨readings, rows, reported⟩, hwalk, h⟩ := Validation.bind_eq_ok_iff.mp h
    cases h
    exact once_of_rows (fun rule hrule => bounded_lldp hrule) (fun _ _ _ => lldpStep_plain) hwalk
      rfl

lemma mem_zip_fst {α β γ : Type} {as : List α} {bs : List β} {cs : List γ} {y : α × β × γ}
    (h : y ∈ as.zip (bs.zip cs)) : (y.1, y.2.1) ∈ as.zip bs := by
  induction as generalizing bs cs with
  | nil => cases h
  | cons a as ih =>
    cases bs with
    | nil => cases h
    | cons b bs =>
      cases cs with
      | nil => cases h
      | cons c cs =>
        rw [List.zip_cons_cons, List.zip_cons_cons, List.mem_cons] at h
        rcases h with rfl | h
        · exact List.mem_cons_self
        · exact List.mem_cons_of_mem _ (ih h)

lemma forall_lines_zip_iff {lines : List String} {readings readings' : List Reading}
    (hlength : readings.length = lines.length) (hlength' : readings'.length = lines.length) :
    (∀ y ∈ lines.zip (readings.zip readings'),
        ¬(y.2.1.isClaimed = true ∧ y.2.2.isClaimed = true)) ↔
      ∀ y ∈ readings.zip readings', ¬(y.1.isClaimed = true ∧ y.2.isClaimed = true) := by
  have hzip : (readings.zip readings').length = lines.length := by
    rw [List.length_zip, hlength, hlength', Nat.min_self]
  conv_rhs => rw [← List.map_snd_zip (Nat.le_of_eq hzip)]
  rw [List.forall_mem_map]

lemma forall_zip_belowHeader_iff {lines : List String} {readings rows : List Reading}
    (hlength : readings.length = lines.length) (hrows : rows.length ≤ lines.length) :
    (∀ y ∈ lines.zip (readings.zip (belowHeader lines rows)),
        ¬(y.2.1.isClaimed = true ∧ y.2.2.isClaimed = true)) ↔
      ∀ y ∈ (readings.drop (lines.length - rows.length)).zip rows,
        ¬(y.1.isClaimed = true ∧ y.2.isClaimed = true) := by
  have hall := forall_lines_zip_iff hlength (length_belowHeader hrows)
  have hcut : readings.zip (belowHeader lines rows) =
      (readings.take (lines.length - rows.length)).zip
          (List.replicate (lines.length - rows.length) .passed) ++
        (readings.drop (lines.length - rows.length)).zip rows := by
    conv_lhs => rw [← List.take_append_drop (lines.length - rows.length) readings, belowHeader]
    apply List.zip_append
    rw [List.length_take, List.length_replicate, hlength]
    omega
  rw [hall, hcut, List.forall_mem_append]
  apply and_iff_right
  intro y hy hboth
  rw [List.eq_of_mem_replicate (List.of_mem_zip hy).2] at hboth
  cases hboth.2

variable (u) in
def isBgpMetaLine (line : String) : Bool :=
  (matchStart (XR_BGP_META u) (pyStrip line)).isSome ||
    (matchStart XR_BGP_TABLE_STATE (pyStrip line)).isSome ||
    (matchStart XR_BGP_INACTIVE (pyStrip line)).isSome

def isBgpInactive (line : String) : Bool := (matchStart XR_BGP_INACTIVE (pyStrip line)).isSome

variable (u) in
/-- No line below the header of the neighbours, up to the one that says there is no process, is
about the process. -/
def BgpLinesApart (lines : List String) : Prop :=
  ∀ line ∈ (ListSearch.takeThrough isBgpInactive lines).drop
    (lines.length - (afterHeader isBgpHeader lines).length), isBgpMetaLine u line = false

lemma bgpMetaStep_ok {fields : Dict} {line : String} {next : Step Dict}
    (h : bgpMetaStep u fields line = .ok next) :
    next.reading = (if isBgpMetaLine u line then .value else .passed) ∧
      next.stop = isBgpInactive line := by
  have hapart : ∀ parts, Apart (leadingText parts) (leadingText XR_BGP_INACTIVE) →
      (matchStart parts (pyStrip line)).isSome = true →
      (matchStart XR_BGP_INACTIVE (pyStrip line)).isSome = false := by
    intro parts happart hmatch
    rw [Bool.eq_false_iff]
    intro hinactive
    exact happart.not_both (leadingText_of_matchStart hmatch)
      (leadingText_of_matchStart hinactive)
  unfold bgpMetaStep at h
  dsimp only at h
  rw [isBgpMetaLine, isBgpInactive]
  cases hmeta : matchStart (XR_BGP_META u) (pyStrip line) with
  | some found =>
    rw [hmeta] at h
    cases h
    have hstarts : Apart "BGP router identifier ".toList "% BGP instance '".toList := by decide
    exact ⟨rfl, (hapart (XR_BGP_META u) hstarts (Option.isSome_of_eq_some hmeta)).symm⟩
  | none =>
    rw [hmeta] at h
    cases htable : matchStart XR_BGP_TABLE_STATE (pyStrip line) with
    | some found =>
      rw [htable] at h
      cases h
      exact ⟨rfl, (hapart XR_BGP_TABLE_STATE (by decide) (Option.isSome_of_eq_some htable)).symm⟩
    | none =>
      rw [htable] at h
      cases hinactive : matchStart XR_BGP_INACTIVE (pyStrip line) with
      | some found =>
        rw [hinactive] at h
        cases h
        exact ⟨rfl, rfl⟩
      | none =>
        rw [hinactive] at h
        cases h
        exact ⟨rfl, rfl⟩

lemma not_ignored_of_bgpMeta {tableId : List Part}
    (hclear : ∀ start ∈ ["BGP router identifier ", "BGP table state: ", "% BGP instance '"],
      clearOf start.toList (bgpIgnores u tableId) = true)
    {line : String} (hline : IsLine line) (h : isBgpMetaLine u line = true) :
    isIgnoredBy u (bgpIgnores u tableId) line = false := by
  rw [isBgpMetaLine, Bool.or_eq_true, Bool.or_eq_true] at h
  rcases h with (h | h) | h
  · exact not_ignored (hclear "BGP router identifier " (by simp)) (by decide) hline
      (leadingText_of_matchStart h)
  · exact not_ignored (hclear "BGP table state: " (by simp)) (by decide) hline
      (leadingText_of_matchStart h)
  · exact not_ignored (hclear "% BGP instance '" (by simp)) (by decide) hline
      (leadingText_of_matchStart h)

lemma parseBgpSummary_ok {afiSafi : String} {outputs : List String}
    (h : parseBgpSummary u numbers afiSafi outputs = .ok x) :
    x.raw = firstOutput outputs ∧ ∃ metaReadings fields readings rows,
      walk (bgpMetaStep u) [] (nonblankLines x.raw) = .ok (metaReadings, fields) ∧
      walk (rowStep 10 (bgpRecord numbers afiSafi)) {}
        (afterHeader isBgpHeader (nonblankLines x.raw)) = .ok (readings, rows) ∧
      x.walks = [metaReadings, belowHeader (nonblankLines x.raw) readings] := by
  rw [parseBgpSummary] at h
  obtain ⟨⟨metaReadings, fields⟩, hmeta, h⟩ := Validation.bind_eq_ok_iff.mp h
  obtain ⟨⟨readings, rows⟩, hwalk, h⟩ := Validation.bind_eq_ok_iff.mp h
  dsimp only at h
  by_cases hnone : fields = [] ∧ rows.records = []
  · rw [if_pos hnone] at h
    cases h
  · rw [if_neg hnone] at h
    cases h
    exact ⟨rfl, metaReadings, fields, readings, rows, hmeta, hwalk, rfl⟩

theorem bgpSummary_once_iff {tableId : List Part} {afiSafi : String} {outputs : List String}
    (htable : ({ pattern := tableId } : IgnoreRule).Bounded)
    (hclear : ∀ start ∈ ["BGP router identifier ", "BGP table state: ", "% BGP instance '"],
      clearOf start.toList (bgpIgnores u tableId) = true)
    (h : parseBgpSummary u numbers afiSafi outputs = .ok x) :
    CountsLinesOnce u headings (bgpIgnores u tableId) x ↔
      BgpLinesApart u (nonblankLines (firstOutput outputs)) := by
  obtain ⟨hraw, metaReadings, fields, readings, rows, hmeta, hwalk, hwalks⟩ := parseBgpSummary_ok h
  have hvalues := walk_eq_map (f := fun _ => .value) (fun _ _ _ hnext => rowStep_ok hnext) hwalk
  have hmetas := walk_eq (fun _ _ _ hnext => bgpMetaStep_ok hnext) hmeta
  have hplain : ∀ r ∈ metaReadings, r.Plain := by
    apply plain_walk _ hmeta
    intro state line next hnext
    rw [(bgpMetaStep_ok hnext).1]
    split
    · exact plain_value
    · exact plain_passed
  have hrows : ∀ r ∈ readings, r.Plain := by
    rw [hvalues]
    intro r hr
    obtain ⟨-, -, rfl⟩ := List.mem_map.mp hr
    exact plain_value
  have hbounded : ∀ rule ∈ bgpIgnores u tableId, rule.Bounded :=
    fun rule hrule => bounded_bgp htable hrule
  have hclaimed : ∀ y ∈ (nonblankLines x.raw).zip metaReadings, y.2.isClaimed = true →
      isBgpMetaLine u y.1 = true := by
    apply forall_walk (Q := fun line r => r.isClaimed = true → isBgpMetaLine u line = true) _ _ hmeta
    · intro line hpassed
      cases hpassed
    · intro state line next hnext hread
      rw [(bgpMetaStep_ok hnext).1] at hread
      by_contra hnot
      rw [if_neg hnot] at hread
      cases hread
  rw [once_of_two hwalks (length_walk hmeta) (length_belowHeader (length_rows hwalk)) hplain
      (plain_belowHeader hrows) (settled_of_bounded hbounded) ?_,
    forall_zip_belowHeader_iff (length_walk hmeta) (length_rows hwalk), BgpLinesApart,
    ← hraw, length_walk hwalk]
  · have hlength : (metaReadings.drop ((nonblankLines x.raw).length -
        (afterHeader isBgpHeader (nonblankLines x.raw)).length)).length = readings.length := by
      have hle := (afterHeader_suffix isBgpHeader (nonblankLines x.raw)).length_le
      rw [List.length_drop, length_walk hmeta, length_walk hwalk]
      omega
    generalize hk : (nonblankLines x.raw).length -
      (afterHeader isBgpHeader (nonblankLines x.raw)).length = k at hlength ⊢
    -- every row is claimed, so the first loop may claim none
    have hfirst : (∀ y ∈ (metaReadings.drop k).zip readings,
        ¬(y.1.isClaimed = true ∧ y.2.isClaimed = true)) ↔
        ∀ r ∈ metaReadings.drop k, r.isClaimed = false := by
      conv_rhs => rw [← List.map_fst_zip (Nat.le_of_eq hlength)]
      rw [List.forall_mem_map]
      apply forall₂_congr
      intro y hy
      have hy' := (List.of_mem_zip hy).2
      rw [hvalues] at hy'
      obtain ⟨-, -, hvalue⟩ := List.mem_map.mp hy'
      rw [← hvalue]
      simp [Reading.isClaimed]
    rw [hfirst, hmetas, List.drop_append, List.forall_mem_append, ← List.map_drop,
      List.forall_mem_map]
    constructor
    · rintro ⟨hall, -⟩ line hline
      have h := hall line hline
      by_contra hnot
      rw [if_pos (Bool.of_not_eq_false hnot)] at h
      cases h
    · intro hall
      refine ⟨?_, ?_⟩
      · intro line hline
        rw [hall line hline]
        rfl
      · intro r hr
        rw [List.eq_of_mem_replicate (List.mem_of_mem_drop hr)]
        rfl
  · intro y hy hfirst _
    have hmetaLine : isBgpMetaLine u y.1 = true := hclaimed (y.1, y.2.1) (mem_zip_fst hy) hfirst
    have hline : IsLine y.1 := isLine_of_mem (List.of_mem_zip hy).1
    exact not_ignored_of_bgpMeta hclear hline hmetaLine

theorem bgp_once_iff {outputs : List String} (h : parseXrBgp u numbers outputs = .ok x) :
    CountsLinesOnce u headings (BGP_IGNORES u) x ↔
      BgpLinesApart u (nonblankLines (firstOutput outputs)) := by
  apply bgpSummary_once_iff _ _ h
  · exact ⟨⟨_, rfl, by decide⟩, trails_number⟩
  · intro start hstart
    simp only [List.mem_cons, List.not_mem_nil, or_false] at hstart
    rcases hstart with rfl | rfl | rfl
    · rfl
    · rfl
    · rfl

theorem bgpVpnv4_once_iff {outputs : List String} (h : parseXrBgpVpnv4 u numbers outputs = .ok x) :
    CountsLinesOnce u headings (BGP_VPNV4_IGNORES u) x ↔
      BgpLinesApart u (nonblankLines (firstOutput outputs)) := by
  apply bgpSummary_once_iff _ _ h
  · exact ⟨⟨_, rfl, by decide⟩, trails_words⟩
  · intro start hstart
    simp only [List.mem_cons, List.not_mem_nil, or_false] at hstart
    rcases hstart with rfl | rfl | rfl
    · rfl
    · rfl
    · rfl

def isIsisInstance (line : String) : Bool := (matchStart XR_ISIS_INSTANCE (pyStrip line)).isSome

/-- No row, up to the count of the neighbours, names the instance. -/
def IsisLinesApart (lines : List String) : Prop :=
  ∀ line ∈ ListSearch.takeThrough isIsisTotal (afterHeader isIsisHeader lines),
    isIsisInstance line = false

variable (u) in
def isIsisMetaLine (line : String) : Bool :=
  isIsisInstance line || (matchStart (XR_ISIS_TOTAL u) (pyStrip line)).isSome

lemma isisMetaStep_ok {fields : Dict} {line : String} {next : Step Dict}
    (h : isisMetaStep u fields line = .ok next) :
    next.reading = (if isIsisMetaLine u line then .value else .passed) ∧ next.stop = false := by
  unfold isisMetaStep at h
  dsimp only at h
  rw [isIsisMetaLine, isIsisInstance]
  cases hinstance : matchStart XR_ISIS_INSTANCE (pyStrip line) with
  | some found =>
    rw [hinstance] at h
    cases h
    exact ⟨rfl, rfl⟩
  | none =>
    rw [hinstance] at h
    cases htotal : matchStart (XR_ISIS_TOTAL u) (pyStrip line) with
    | some found =>
      rw [htotal] at h
      cases h
      exact ⟨rfl, rfl⟩
    | none =>
      rw [htotal] at h
      cases h
      exact ⟨rfl, rfl⟩

lemma isisStep_ok {rows : Rows} {line : String} {next : Step Rows}
    (h : isisStep rows line = .ok next) :
    next.reading = (if isIsisTotal line then .passed else .value) ∧
      next.stop = isIsisTotal line := by
  rw [isisStep] at h
  by_cases htotal : isIsisTotal line = true
  · rw [if_pos htotal] at h
    cases h
    rw [htotal]
    exact ⟨rfl, rfl⟩
  · rw [if_neg htotal] at h
    rw [Bool.eq_false_iff.mpr htotal]
    exact rowStep_ok h

lemma isisMeta_apart {line : String} (htotal : isIsisTotal line = true) :
    isIsisInstance line = false := by
  rw [isIsisInstance, Bool.eq_false_iff]
  rw [isIsisTotal, pyStartsWith] at htotal
  intro hinstance
  have hstart : "Total neighbor count".toList <+: (pyStrip line).toList :=
    List.isPrefixOf_iff_prefix.mp htotal
  have happart : Apart "IS-IS ".toList "Total neighbor count".toList := by decide
  exact happart.not_both (leadingText_of_matchStart hinstance) hstart

lemma total_of_match {line : String}
    (h : (matchStart (XR_ISIS_TOTAL u) (pyStrip line)).isSome = true) : isIsisTotal line = true := by
  have hstart : "Total neighbor count: ".toList <+: (pyStrip line).toList :=
    leadingText_of_matchStart h
  have hshort : "Total neighbor count".toList <+: "Total neighbor count: ".toList := by decide
  exact List.isPrefixOf_iff_prefix.mpr (hshort.trans hstart)

lemma parseXrIsis_ok {outputs : List String} (h : parseXrIsis u outputs = .ok x) :
    x.raw = firstOutput outputs ∧ ∃ metaReadings fields readings rows,
      walk (isisMetaStep u) [] (nonblankLines x.raw) = .ok (metaReadings, fields) ∧
      walk isisStep {} (afterHeader isIsisHeader (nonblankLines x.raw)) = .ok (readings, rows) ∧
      x.walks = [metaReadings, belowHeader (nonblankLines x.raw) readings] := by
  rw [parseXrIsis] at h
  obtain ⟨⟨metaReadings, fields⟩, hmeta, h⟩ := Validation.bind_eq_ok_iff.mp h
  dsimp only at h
  by_cases hheader : (!(nonblankLines (firstOutput outputs)).any isIsisHeader) = true
  · rw [if_pos hheader] at h
    cases h
  · rw [if_neg hheader] at h
    obtain ⟨⟨readings, rows⟩, hwalk, h⟩ := Validation.bind_eq_ok_iff.mp h
    cases h
    exact ⟨rfl, metaReadings, fields, readings, rows, hmeta, hwalk, rfl⟩

lemma isisRows_iff (rows : List String) :
    (∀ y ∈ (rows.map (fun line => if isIsisMetaLine u line then Reading.value else .passed)).zip
        ((ListSearch.takeThrough isIsisTotal rows).map
            (fun line => if isIsisTotal line then Reading.passed else .value) ++
          List.replicate (rows.length - (ListSearch.takeThrough isIsisTotal rows).length) .passed),
        ¬(y.1.isClaimed = true ∧ y.2.isClaimed = true)) ↔
      ∀ line ∈ ListSearch.takeThrough isIsisTotal rows, isIsisInstance line = false := by
  obtain ⟨rest, hrest⟩ := ListSearch.takeThrough_initial isIsisTotal rows
  generalize ListSearch.takeThrough isIsisTotal rows = through at hrest ⊢
  have hlength : rows.length - through.length = rest.length := by
    rw [← hrest, List.length_append, Nat.add_sub_cancel_left]
  rw [hlength, ← hrest, List.map_append, List.zip_append (by rw [List.length_map, List.length_map]),
    List.forall_mem_append, List.zip_map', List.forall_mem_map]
  have hpad : ∀ y ∈ (rest.map (fun line => if isIsisMetaLine u line then Reading.value else
      .passed)).zip (List.replicate rest.length Reading.passed),
      ¬(y.1.isClaimed = true ∧ y.2.isClaimed = true) := by
    intro y hy hboth
    rw [List.eq_of_mem_replicate (List.of_mem_zip hy).2] at hboth
    cases hboth.2
  rw [and_iff_left hpad]
  apply forall₂_congr
  intro line _
  rw [isIsisMetaLine]
  cases htotal : isIsisTotal line with
  | true => simp [isisMeta_apart htotal, Reading.isClaimed]
  | false =>
    have hnone : (matchStart (XR_ISIS_TOTAL u) (pyStrip line)).isSome = false := by
      rw [Bool.eq_false_iff]
      intro hmatch
      rw [total_of_match hmatch] at htotal
      cases htotal
    cases hinstance : isIsisInstance line <;> simp [hnone, Reading.isClaimed]

theorem isis_once_iff {outputs : List String} (h : parseXrIsis u outputs = .ok x) :
    CountsLinesOnce u headings ISIS_IGNORES x ↔
      IsisLinesApart (nonblankLines (firstOutput outputs)) := by
  obtain ⟨hraw, metaReadings, fields, readings, rows, hmeta, hwalk, hwalks⟩ := parseXrIsis_ok h
  have hmetas := walk_eq_map (fun _ _ _ hnext => isisMetaStep_ok hnext) hmeta
  have hrows := walk_eq (fun _ _ _ hnext => isisStep_ok hnext) hwalk
  have hplain : ∀ r ∈ metaReadings, r.Plain := by
    apply plain_walk _ hmeta
    intro state line next hnext
    rw [(isisMetaStep_ok hnext).1]
    split
    · exact plain_value
    · exact plain_passed
  have hplain' : ∀ r ∈ readings, r.Plain := by
    apply plain_walk _ hwalk
    intro state line next hnext
    rw [(isisStep_ok hnext).1]
    split
    · exact plain_passed
    · exact plain_value
  have hbounded : ∀ rule ∈ ISIS_IGNORES, rule.Bounded := fun rule hrule => bounded_isis hrule
  have hclaimed : ∀ y ∈ (nonblankLines x.raw).zip metaReadings, y.2.isClaimed = true →
      isIsisMetaLine u y.1 = true := by
    apply forall_walk (Q := fun line r => r.isClaimed = true → isIsisMetaLine u line = true) _ _
      hmeta
    · intro line hpassed
      cases hpassed
    · intro state line next hnext hread
      rw [(isisMetaStep_ok hnext).1] at hread
      by_contra hnot
      rw [if_neg hnot] at hread
      cases hread
  rw [once_of_two hwalks (length_walk hmeta) (length_belowHeader (length_rows hwalk)) hplain
      (plain_belowHeader hplain') (settled_of_bounded hbounded) ?_,
    forall_zip_belowHeader_iff (length_walk hmeta) (length_rows hwalk), IsisLinesApart, ← hraw,
    length_walk hwalk, hmetas, hrows, ← List.map_drop]
  · have hsuffix := afterHeader_suffix isIsisHeader (nonblankLines x.raw)
    rw [← List.suffix_iff_eq_drop.mp hsuffix]
    exact isisRows_iff _
  · intro y hy hfirst _
    have hmetaLine : isIsisMetaLine u y.1 = true := hclaimed (y.1, y.2.1) (mem_zip_fst hy) hfirst
    have hline : IsLine y.1 := isLine_of_mem (List.of_mem_zip hy).1
    rw [isIsisMetaLine, Bool.or_eq_true] at hmetaLine
    rcases hmetaLine with hinstance | htotal
    · have hstart : "IS-IS ".toList <+: (pyStrip y.1).toList := leadingText_of_matchStart hinstance
      exact not_ignored (by decide) (by decide) hline hstart
    · have hstart : "Total neighbor count: ".toList <+: (pyStrip y.1).toList :=
        leadingText_of_matchStart htotal
      exact not_ignored (by decide) (by decide) hline hstart

end Parsing

end NetTools
