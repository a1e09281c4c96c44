import NetTools.Collection.SegmentRouting
import NetTools.Library.Claims

/-!
# Line accounting

`account_lines`, `accounting_summary` and `finalize`: each line of an output that is not blank was
claimed by the parser, or is ignored by a rule, or is left unaccounted. The claims are counted by
the stripped text.
-/

namespace NetTools

namespace Parsing

open Pattern SegmentRouting

inductive IgnoreKind where
  | noExtractableField
  | notNeededYet
deriving DecidableEq

structure IgnoreRule where
  pattern : List Part
  kind : IgnoreKind := .noExtractableField

namespace IgnoreRule

/-- `matches` of a rule. -/
def accepts (rule : IgnoreRule) (line : String) : Bool := (matchStart rule.pattern line).isSome

def applies (rule : IgnoreRule) (line : String) : Bool :=
  rule.accepts line || rule.accepts (pyStrip line)

end IgnoreRule

variable (u : CharClasses)

def XR_COMMON_IGNORES : List IgnoreRule :=
  (SegmentRouting.XR_COMMON_IGNORES u).map (fun pattern => { pattern })

def unaccounted (rules : List IgnoreRule) : List String → List String → List String
  | _, [] => []
  | consumedCounts, line :: lines =>
    let stripped := pyStrip line
    if stripped = "" then unaccounted rules consumedCounts lines
    else
      match takeConsumed consumedCounts stripped with
      | some rest => unaccounted rules rest lines
      | none =>
        if rules.any (fun rule => rule.applies line) then unaccounted rules consumedCounts lines
        else stripped :: unaccounted rules consumedCounts lines

def accountLines (raw : String) (consumed : List String) (ignores : List IgnoreRule) :
    List String :=
  unaccounted (XR_COMMON_IGNORES u ++ ignores) (consumed.map pyStrip) (splitLines raw)

structure EvidenceAccounting where
  sourceNonblankLines : Nat := 0
  structuredLines : Nat := 0
  deferredLines : Nat := 0
  presentationLines : Nat := 0
  unknownLines : Nat := 0
  malformedRows : Nat := 0
deriving DecidableEq

namespace EvidenceAccounting

def add (counts : EvidenceAccounting) : Option IgnoreRule → EvidenceAccounting
  | none => { counts with unknownLines := counts.unknownLines + 1 }
  | some rule =>
    match rule.kind with
    | .notNeededYet => { counts with deferredLines := counts.deferredLines + 1 }
    | .noExtractableField => { counts with presentationLines := counts.presentationLines + 1 }

end EvidenceAccounting

def countLines (rules : List IgnoreRule) :
    EvidenceAccounting → List String → List String → EvidenceAccounting
  | counts, _, [] => counts
  | counts, consumedCounts, line :: lines =>
    let stripped := pyStrip line
    if stripped = "" then countLines rules counts consumedCounts lines
    else
      let counts := { counts with sourceNonblankLines := counts.sourceNonblankLines + 1 }
      match takeConsumed consumedCounts stripped with
      | some rest =>
        countLines rules { counts with structuredLines := counts.structuredLines + 1 } rest lines
      | none =>
        countLines rules (counts.add (rules.find? (fun rule => rule.applies line)))
          consumedCounts lines

def accountingSummary (raw : String) (consumed : List String) (ignores : List IgnoreRule)
    (unparsedRows : Nat) : EvidenceAccounting :=
  { countLines (XR_COMMON_IGNORES u ++ ignores) {} (consumed.map pyStrip) (splitLines raw) with
    malformedRows := unparsedRows }

/-- The result of a parser; `fields` is what the parser itself has put in `meta`. -/
structure ParseResult where
  fields : Dict
  unaccountedLines : List String
  unparsedRows : Nat
  evidenceAccounting : EvidenceAccounting
  records : List Dict

def finalize (raw : String) (fields : Dict) (records : List Dict) (consumed : List String)
    (ignores : List IgnoreRule) (unparsedRows : Nat) : ParseResult :=
  { fields
    unaccountedLines := accountLines u raw consumed ignores
    unparsedRows
    evidenceAccounting := accountingSummary u raw consumed ignores unparsedRows
    records }

inductive Reading where
  /-- It leaves the line to the rules. -/
  | passed
  /-- It claims the line and keeps nothing of it. -/
  | dropped
  /-- It claims the line, which tells it where it is in the output. -/
  | heading
  /-- It claims the line, and a field holds what the line has to say, or a row is counted. -/
  | value
deriving DecidableEq

/-- `consumed.append(stripped)`. -/
def Reading.isClaimed : Reading → Bool
  | .passed => false
  | _ => true

inductive ParseFailure where
  | parseError (message : String)
  | valueError
deriving DecidableEq

structure Step (σ : Type) where
  reading : Reading
  state : σ
  /-- `break`. -/
  stop : Bool := false

variable {σ : Type}

def walk (step : σ → String → Except ParseFailure (Step σ)) :
    σ → List String → Except ParseFailure (List Reading × σ)
  | state, [] => .ok ([], state)
  | state, line :: lines => do
    let next ← step state line
    if next.stop then return (next.reading :: lines.map (fun _ => .passed), next.state)
    else
      let (readings, last) ← walk step next.state lines
      return (next.reading :: readings, last)

/-- What a parser hands to `finalize`. It has gone over the lines once or twice. -/
structure Extracted where
  raw : String
  fields : Dict := []
  records : List Dict := []
  walks : List (List Reading)
  unparsedRows : Nat := 0

def nonblankLines (text : String) : List String :=
  (splitLines text).filter (fun line => !isBlank line)

def Extracted.consumed (extracted : Extracted) : List String :=
  extracted.walks.flatMap
    (Claims.claimed Reading.isClaimed pyStrip (nonblankLines extracted.raw))

def Extracted.finalize (extracted : Extracted) (ignores : List IgnoreRule) : ParseResult :=
  Parsing.finalize u extracted.raw extracted.fields extracted.records extracted.consumed ignores
    extracted.unparsedRows

lemma pyStrip_eq_empty_iff (line : String) : pyStrip line = "" ↔ isBlank line = true :=
  (isBlank_iff_strip line).symm

theorem unaccounted_eq_leftover (rules : List IgnoreRule) (consumedCounts lines : List String) :
    unaccounted rules consumedCounts lines =
      Claims.leftover pyStrip (fun line => !rules.any (fun rule => rule.applies line))
        consumedCounts (lines.filter (fun line => !isBlank line)) := by
  induction lines generalizing consumedCounts with
  | nil => rfl
  | cons line lines ih =>
    unfold unaccounted
    dsimp only
    by_cases hblank : isBlank line = true
    · rw [if_pos ((pyStrip_eq_empty_iff line).mpr hblank),
        List.filter_cons_of_neg (by simp [hblank]), ih]
    · have hne : pyStrip line ≠ "" := fun h => hblank ((pyStrip_eq_empty_iff line).mp h)
      rw [if_neg hne, List.filter_cons_of_pos (by simp [hblank]), Claims.leftover, takeConsumed]
      by_cases hmem : pyStrip line ∈ consumedCounts
      · rw [if_pos hmem, if_pos hmem]
        exact ih _
      · rw [if_neg hmem, if_neg hmem]
        dsimp only
        cases h : rules.any (fun rule => rule.applies line) with
        | true => simpa using ih _
        | false => simpa using ih _

namespace EvidenceAccounting

def Balanced (counts : EvidenceAccounting) : Prop :=
  counts.structuredLines + counts.deferredLines + counts.presentationLines + counts.unknownLines =
    counts.sourceNonblankLines

lemma balanced_add {counts : EvidenceAccounting} (h : counts.Balanced) (rule : Option IgnoreRule) :
    (({ counts with sourceNonblankLines := counts.sourceNonblankLines + 1 } :
      EvidenceAccounting).add rule).Balanced := by
  unfold Balanced at h ⊢
  cases rule with
  | none =>
    simp only [add]
    omega
  | some rule =>
    cases hkind : rule.kind with
    | noExtractableField =>
      simp only [add, hkind]
      omega
    | notNeededYet =>
      simp only [add, hkind]
      omega

lemma unknownLines_add (counts : EvidenceAccounting) (rule : Option IgnoreRule) :
    (counts.add rule).unknownLines = counts.unknownLines + if rule.isNone then 1 else 0 := by
  cases rule with
  | none => rfl
  | some rule => cases hkind : rule.kind <;> simp [add, hkind]

end EvidenceAccounting

lemma balanced_countLines (rules : List IgnoreRule) {counts : EvidenceAccounting}
    (h : counts.Balanced) (consumedCounts lines : List String) :
    (countLines rules counts consumedCounts lines).Balanced := by
  induction lines generalizing counts consumedCounts with
  | nil => exact h
  | cons line lines ih =>
    unfold countLines
    dsimp only
    by_cases hempty : pyStrip line = ""
    · rw [if_pos hempty]
      exact ih h _
    · rw [if_neg hempty]
      cases takeConsumed consumedCounts (pyStrip line) with
      | some rest =>
        apply ih
        unfold EvidenceAccounting.Balanced at h ⊢
        dsimp only
        omega
      | none =>
        apply ih
        exact EvidenceAccounting.balanced_add h _

lemma unknownLines_countLines (rules : List IgnoreRule) (counts : EvidenceAccounting)
    (consumedCounts lines : List String) :
    (countLines rules counts consumedCounts lines).unknownLines =
      counts.unknownLines + (unaccounted rules consumedCounts lines).length := by
  induction lines generalizing counts consumedCounts with
  | nil => rfl
  | cons line lines ih =>
    unfold countLines unaccounted
    dsimp only
    by_cases hempty : pyStrip line = ""
    · rw [if_pos hempty, if_pos hempty, ih]
    · rw [if_neg hempty, if_neg hempty]
      cases takeConsumed consumedCounts (pyStrip line) with
      | some rest => rw [ih]
      | none =>
        dsimp only
        rw [ih, EvidenceAccounting.unknownLines_add]
        cases hfind : rules.find? (fun rule => rule.applies line) with
        | none =>
          have hany : rules.any (fun rule => rule.applies line) = false := by
            rw [List.any_eq_false]
            intro rule hrule
            have h := List.find?_eq_none.mp hfind rule hrule
            exact h
          simp only [hany, Bool.false_eq_true, if_false, List.length_cons, Option.isNone_none,
            if_true]
          omega
        | some rule =>
          have happlies : rule.applies line = true := by
            have h := List.find?_some hfind
            exact h
          have hany : rules.any (fun rule => rule.applies line) = true :=
            List.any_eq_true.mpr ⟨rule, List.mem_of_find?_eq_some hfind, happlies⟩
          simp only [hany, if_true, Option.isNone_some, Bool.false_eq_true, if_false]
          omega

theorem balanced_accountingSummary (raw : String) (consumed : List String)
    (ignores : List IgnoreRule) (unparsedRows : Nat) :
    (accountingSummary u raw consumed ignores unparsedRows).Balanced :=
  balanced_countLines _ (by rfl) _ _

theorem unknownLines_accountingSummary (raw : String) (consumed : List String)
    (ignores : List IgnoreRule) (unparsedRows : Nat) :
    (accountingSummary u raw consumed ignores unparsedRows).unknownLines =
      (accountLines u raw consumed ignores).length := by
  have h := unknownLines_countLines (XR_COMMON_IGNORES u ++ ignores) {} (consumed.map pyStrip)
    (splitLines raw)
  rw [Nat.zero_add] at h
  exact h

end Parsing

end NetTools
