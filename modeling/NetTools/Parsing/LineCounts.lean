import NetTools.Library.Validation
import NetTools.Parsing.IgnoredLines
import NetTools.Parsing.Walks

/-!
# Every line is counted once

The claims of a parser contain each text no more often than the output does, and a line that was
not read and that no rule ignores is unaccounted, exactly when each line is claimed by as many loops
as read it, and by one at most.
-/

namespace NetTools

namespace Parsing

open Pattern SegmentRouting

variable (u : CharClasses) (headings : Bool)

/-- The line was read into a field, or counted as a row. A heading has no field of its own, and
`headings` says whether it counts as read. -/
def Reading.isRead : Reading → Bool
  | .value => true
  | .heading => headings
  | _ => false

def Extracted.marks (x : Extracted) : List (Claims.Mark String) :=
  Claims.marks Reading.isClaimed (Reading.isRead headings) (nonblankLines x.raw) x.walks

def isIgnoredBy (ignores : List IgnoreRule) (line : String) : Bool :=
  (XR_COMMON_IGNORES u ++ ignores).any (fun rule => rule.applies line)

structure CountsLinesOnce (ignores : List IgnoreRule) (x : Extracted) : Prop where
  claimed : ∀ text, x.consumed.count text ≤ ((nonblankLines x.raw).map pyStrip).count text
  balanced : (x.finalize u ignores).evidenceAccounting.Balanced
  unknown : (x.finalize u ignores).evidenceAccounting.unknownLines =
    (x.finalize u ignores).unaccountedLines.length
  /-- The lines of a text that were not read and are not ignored are all listed. -/
  listed : ∀ text, (x.marks headings).countP
      (fun m => decide (pyStrip m.item = text) && !isIgnoredBy u ignores m.item && !m.read) ≤
    (x.finalize u ignores).unaccountedLines.count text

variable {u headings} {ignores : List IgnoreRule} {x : Extracted}

def Settled (ignores : List IgnoreRule) (text : String) : Prop :=
  ∀ rule ∈ ignores, ∀ line, IsLine line → pyStrip line = text →
    rule.applies line = rule.accepts text

lemma settled_of_bounded (h : ∀ rule ∈ ignores, rule.Bounded) (text : String) :
    Settled ignores text := by
  intro rule hrule line hline htext
  rw [(h rule hrule).applies_eq hline.noBreak, htext]

lemma isIgnoredBy_congr {line line' : String} (hline : IsLine line) (hline' : IsLine line')
    (hsame : pyStrip line' = pyStrip line) (h : Settled ignores (pyStrip line)) :
    isIgnoredBy u ignores line' = isIgnoredBy u ignores line := by
  rw [isIgnoredBy, isIgnoredBy, Bool.eq_iff_iff, List.any_eq_true, List.any_eq_true]
  apply exists_congr
  intro rule
  apply and_congr_right
  intro hrule
  rw [← Bool.eq_iff_iff]
  rcases List.mem_append.mp hrule with hcommon | hrule
  · rw [applies_common hline hcommon, applies_common hline' hcommon, hsame]
  · rw [h rule hrule line hline rfl, h rule hrule line' hline' hsame]

lemma Reading.isClaimed_of_isRead {r : Reading} (h : r.isRead headings = true) :
    r.isClaimed = true := by
  cases r with
  | passed => cases h
  | dropped => rfl
  | heading => rfl
  | value => rfl

lemma consumed_map_pyStrip : x.consumed.map pyStrip = x.consumed := by
  have hstripped : ∀ text ∈ x.consumed, pyStrip text = text := by
    intro text htext
    obtain ⟨made, -, hmem⟩ := List.mem_flatMap.mp htext
    clear htext
    generalize nonblankLines x.raw = lines at hmem
    induction lines generalizing made with
    | nil => cases made <;> cases hmem
    | cons line lines ih =>
      cases made with
      | nil => cases hmem
      | cons r made =>
        rw [Claims.claimed] at hmem
        split at hmem
        · rcases List.mem_cons.mp hmem with rfl | hmem
          · exact pyStrip_pyStrip line
          · exact ih made hmem
        · exact ih made hmem
  conv_rhs => rw [← List.map_id x.consumed]
  exact List.map_congr_left hstripped

theorem countsLinesOnce_iff_marks
    (hread : ∀ m ∈ x.marks headings, m.read = true → 0 < m.claims)
    (hsettled : ∀ m ∈ x.marks headings, 0 < m.claims → Settled ignores (pyStrip m.item))
    (hkept : ∀ m ∈ x.marks headings, m.claims ≠ (if m.read then 1 else 0) →
      isIgnoredBy u ignores m.item = false) :
    CountsLinesOnce u headings ignores x ↔
      ∀ m ∈ x.marks headings, m.claims = if m.read then 1 else 0 := by
  have hitems : (x.marks headings).map Claims.Mark.item = nonblankLines x.raw :=
    Claims.map_item_marks _ _ _ _
  have hline : ∀ m ∈ x.marks headings, IsLine m.item := by
    intro m hm
    apply isLine_of_mem
    rw [← hitems]
    exact List.mem_map_of_mem hm
  have hcounts : ∀ k, x.consumed.count k =
      (((x.marks headings).filter (fun m => pyStrip m.item = k)).map Claims.Mark.claims).sum :=
    fun k => Claims.count_claimed Reading.isClaimed (Reading.isRead headings) k
      (nonblankLines x.raw) x.walks
  have hfair := Claims.fair_iff pyStrip (fun line => !isIgnoredBy u ignores line) hcounts hread
    ?_ ?_
  · rw [← hfair]
    have hkeys : (x.marks headings).map (fun m => pyStrip m.item) =
        (nonblankLines x.raw).map pyStrip := by
      rw [← hitems, List.map_map]
      rfl
    have hleft : (x.finalize u ignores).unaccountedLines =
        Claims.leftover pyStrip (fun line => !isIgnoredBy u ignores line) x.consumed
          ((x.marks headings).map Claims.Mark.item) := by
      have h := unaccounted_eq_leftover (XR_COMMON_IGNORES u ++ ignores) (x.consumed.map pyStrip)
        (splitLines x.raw)
      rw [hitems]
      rw [consumed_map_pyStrip] at h
      rw [Extracted.finalize, Parsing.finalize, accountLines, consumed_map_pyStrip]
      exact h
    rw [hkeys, ← hleft]
    constructor
    · intro h
      exact ⟨h.claimed, h.listed⟩
    · rintro ⟨hclaimed, hlisted⟩
      exact ⟨hclaimed, balanced_accountingSummary u _ _ _ _,
        unknownLines_accountingSummary u _ _ _ _, hlisted⟩
  · intro m hm hpos m' hm' hsame
    rw [isIgnoredBy_congr (hline m hm) (hline m' hm') hsame (hsettled m hm hpos)]
  · intro m hm hbad
    rw [hkept m hm hbad]
    rfl

theorem once_of_one {readings : List Reading} (hwalks : x.walks = [readings])
    (hlength : readings.length = (nonblankLines x.raw).length)
    (hsettled : ∀ y ∈ (nonblankLines x.raw).zip readings, y.2.isClaimed = true →
      Settled ignores (pyStrip y.1))
    (hkept : ∀ y ∈ (nonblankLines x.raw).zip readings, y.2.isClaimed = true →
      y.2.isRead headings = false → isIgnoredBy u ignores y.1 = false) :
    CountsLinesOnce u headings ignores x ↔
      ∀ r ∈ readings, r.isClaimed = true → r.isRead headings = true := by
  have hmarks : ∀ P : String → Nat → Bool → Prop,
      (∀ m ∈ x.marks headings, P m.item m.claims m.read) ↔
        ∀ y ∈ (nonblankLines x.raw).zip readings,
          P y.1 (if y.2.isClaimed then 1 else 0) (y.2.isRead headings) := by
    intro P
    rw [Extracted.marks, hwalks]
    exact Claims.forall_marks_one_iff _ _ hlength
  rw [countsLinesOnce_iff_marks]
  · have hall := hmarks (fun _ claims read => claims = if read then 1 else 0)
    rw [hall]
    constructor
    · intro h r hr hclaimed
      obtain ⟨y, hy, rfl⟩ : ∃ y ∈ (nonblankLines x.raw).zip readings, y.2 = r := by
        rw [← List.mem_map, List.map_snd_zip (Nat.le_of_eq hlength)]
        exact hr
      have hy' := h y hy
      by_contra hread
      rw [if_pos hclaimed, if_neg hread] at hy'
      cases hy'
    · intro h y hy
      have hr := h y.2 (List.of_mem_zip hy).2
      by_cases hclaimed : y.2.isClaimed = true
      · rw [if_pos hclaimed, if_pos (hr hclaimed)]
      · rw [if_neg hclaimed, if_neg (fun hread => hclaimed (Reading.isClaimed_of_isRead hread))]
  · refine (hmarks (fun _ claims read => read = true → 0 < claims)).mpr ?_
    intro y _ hread
    rw [if_pos (Reading.isClaimed_of_isRead hread)]
    exact Nat.one_pos
  · refine (hmarks (fun line claims _ => 0 < claims → Settled ignores (pyStrip line))).mpr ?_
    intro y hy hpos
    apply hsettled y hy
    by_contra hclaimed
    rw [if_neg hclaimed] at hpos
    exact absurd hpos (Nat.lt_irrefl 0)
  · refine (hmarks (fun line claims read => claims ≠ (if read then 1 else 0) →
      isIgnoredBy u ignores line = false)).mpr ?_
    intro y hy hbad
    by_cases hclaimed : y.2.isClaimed = true
    · apply hkept y hy hclaimed
      by_contra hread
      rw [if_pos hclaimed, if_pos (by simpa using hread)] at hbad
      exact hbad rfl
    · rw [if_neg hclaimed,
        if_neg (fun hread => hclaimed (Reading.isClaimed_of_isRead hread))] at hbad
      exact absurd rfl hbad

def Reading.Plain (r : Reading) : Prop := r = .passed ∨ r = .value

lemma Reading.Plain.isRead_eq {r : Reading} (h : r.Plain) : r.isRead headings = r.isClaimed := by
  rcases h with rfl | rfl
  · rfl
  · rfl

theorem once_of_two {readings readings' : List Reading} (hwalks : x.walks = [readings, readings'])
    (hlength : readings.length = (nonblankLines x.raw).length)
    (hlength' : readings'.length = (nonblankLines x.raw).length)
    (hplain : ∀ r ∈ readings, r.Plain) (hplain' : ∀ r ∈ readings', r.Plain)
    (hsettled : ∀ text, Settled ignores text)
    (hkept : ∀ y ∈ (nonblankLines x.raw).zip (readings.zip readings'), y.2.1.isClaimed = true →
      y.2.2.isClaimed = true → isIgnoredBy u ignores y.1 = false) :
    CountsLinesOnce u headings ignores x ↔
      ∀ y ∈ (nonblankLines x.raw).zip (readings.zip readings'),
        ¬(y.2.1.isClaimed = true ∧ y.2.2.isClaimed = true) := by
  have hmarks : ∀ P : String → Nat → Bool → Prop,
      (∀ m ∈ x.marks headings, P m.item m.claims m.read) ↔
        ∀ y ∈ (nonblankLines x.raw).zip (readings.zip readings'),
          P y.1 ((if y.2.1.isClaimed then 1 else 0) + if y.2.2.isClaimed then 1 else 0)
            (y.2.1.isRead headings || y.2.2.isRead headings) := by
    intro P
    rw [Extracted.marks, hwalks]
    exact Claims.forall_marks_two_iff _ _ hlength hlength'
  have hread : ∀ y ∈ (nonblankLines x.raw).zip (readings.zip readings'),
      y.2.1.isRead headings = y.2.1.isClaimed ∧ y.2.2.isRead headings = y.2.2.isClaimed := by
    intro y hy
    have hmem := List.of_mem_zip (List.of_mem_zip hy).2
    exact ⟨(hplain _ hmem.1).isRead_eq, (hplain' _ hmem.2).isRead_eq⟩
  have hcount : ∀ y ∈ (nonblankLines x.raw).zip (readings.zip readings'),
      ((if y.2.1.isClaimed then 1 else 0) + if y.2.2.isClaimed then 1 else 0) =
          (if y.2.1.isRead headings || y.2.2.isRead headings then 1 else 0) ↔
        ¬(y.2.1.isClaimed = true ∧ y.2.2.isClaimed = true) := by
    intro y hy
    rw [(hread y hy).1, (hread y hy).2]
    cases y.2.1.isClaimed <;> cases y.2.2.isClaimed <;> simp
  rw [countsLinesOnce_iff_marks]
  · have hall := hmarks (fun _ claims read => claims = if read then 1 else 0)
    rw [hall]
    apply forall₂_congr
    intro y hy
    exact hcount y hy
  · refine (hmarks (fun _ claims read => read = true → 0 < claims)).mpr ?_
    intro y hy
    rw [(hread y hy).1, (hread y hy).2]
    cases y.2.1.isClaimed <;> cases y.2.2.isClaimed <;> simp
  · intro m _ _
    exact hsettled _
  · refine (hmarks (fun line claims read => claims ≠ (if read then 1 else 0) →
      isIgnoredBy u ignores line = false)).mpr ?_
    intro y hy hbad
    have hboth := not_not.mp (fun h => hbad ((hcount y hy).mpr h))
    exact hkept y hy hboth.1 hboth.2

end Parsing

end NetTools
