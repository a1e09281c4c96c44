import NetTools.Collection.SegmentRouting

/-!
# Which outputs show a last error

A last error is recorded exactly when its line comes after a preference, within a policy, and no
other policy begins in between.
-/

namespace NetTools

namespace SegmentRouting

open Pattern

variable (u : CharClasses)

abbrev IsHeader (line : String) : Prop := (matchStart (XR_SR_HEADER u) line).isSome = true

abbrev IsPreference (line : String) : Prop := (matchStart (SR_PREFERENCE u) line).isSome = true

abbrev IsLastError (line : String) : Prop := pyStartsWith line "Last error: " = true

def Opens (lines : List String) : Prop :=
  ∃ before preference between, lines = before ++ preference :: between ∧
    (∃ line ∈ before, IsHeader u line) ∧ IsPreference u preference ∧
      ∀ line ∈ between, ¬IsHeader u line

def ShowsLastError (lines : List String) : Prop :=
  ∃ before error after, lines = before ++ error :: after ∧ Opens u before ∧ IsLastError error

variable {u}

lemma head_of_starts {start line : String} {c : Char} (hstart : start.toList.head? = some c)
    (h : start.toList <+: line.toList) : line.toList.head? = some c := by
  obtain ⟨rest, hrest⟩ := h
  rw [← hrest, List.head?_append, hstart]
  rfl

lemma head_of_pyStartsWith {start line : String} {c : Char} (hstart : start.toList.head? = some c)
    (h : pyStartsWith line start = true) : line.toList.head? = some c :=
  head_of_starts hstart (List.isPrefixOf_iff_prefix.mp h)

lemma head_of_matchStart {start line : String} {parts : List Part} {c : Char}
    (hstart : start.toList.head? = some c)
    (h : (matchStart (litPart start :: parts) line).isSome = true) :
    line.toList.head? = some c :=
  head_of_starts hstart (starts_of_matchStart h)

def BeginsOtherwise (start : String) (c : Char) : Prop := start.toList.head?.any (· ≠ c) = true

instance (start : String) (c : Char) : Decidable (BeginsOtherwise start c) :=
  inferInstanceAs (Decidable (_ = true))

lemma not_starts_of_head {start line : String} {c : Char} (hstart : BeginsOtherwise start c)
    (hline : line.toList.head? = some c) : ¬start.toList <+: line.toList := by
  intro h
  cases hhead : start.toList.head? with
  | none =>
    rw [BeginsOtherwise, hhead] at hstart
    cases hstart
  | some first =>
    rw [head_of_starts hhead h] at hline
    rw [BeginsOtherwise, hhead, Option.any_some, decide_eq_true_eq] at hstart
    exact hstart (Option.some.inj hline)

lemma matchStart_eq_none_of_head {start line : String} {parts : List Part} {c : Char}
    (hline : line.toList.head? = some c) (hstart : BeginsOtherwise start c) :
    matchStart (litPart start :: parts) line = none :=
  matchStart_eq_none parts (not_starts_of_head hstart hline)

lemma head_of_isHeader {line : String} (h : IsHeader u line) : line.toList.head? = some 'C' :=
  head_of_matchStart (by decide) h

lemma head_of_isPreference {line : String} (h : IsPreference u line) :
    line.toList.head? = some 'P' :=
  head_of_matchStart (by decide) h

lemma head_of_isLastError {line : String} (h : IsLastError line) : line.toList.head? = some 'L' :=
  head_of_pyStartsWith (by decide) h

lemma opens_append_singleton (lines : List String) (line : String) :
    Opens u (lines ++ [line]) ↔
      ¬IsHeader u line ∧ (Opens u lines ∨ IsPreference u line ∧ ∃ l ∈ lines, IsHeader u l) := by
  constructor
  · rintro ⟨before, preference, between, heq, hheader, hpreference, hbetween⟩
    rcases List.eq_nil_or_concat between with rfl | ⟨between, last, rfl⟩
    · obtain ⟨rfl, hline⟩ := List.append_inj' heq rfl
      cases hline
      refine ⟨?_, .inr ⟨hpreference, hheader⟩⟩
      intro h
      have hhead := head_of_isHeader h
      rw [head_of_isPreference hpreference] at hhead
      exact absurd hhead (by decide)
    · rw [List.concat_eq_append, ← List.cons_append, ← List.append_assoc] at heq
      obtain ⟨rfl, hline⟩ := List.append_inj' heq rfl
      cases hline
      rw [List.concat_eq_append] at hbetween
      refine ⟨hbetween line (by simp), .inl ⟨before, preference, between, rfl, hheader,
        hpreference, ?_⟩⟩
      exact fun l hl => hbetween l (List.mem_append_left _ hl)
  · rintro ⟨hline, ⟨before, preference, between, rfl, hheader, hpreference, hbetween⟩ |
      ⟨hpreference, hheader⟩⟩
    · refine ⟨before, preference, between ++ [line], by simp, hheader, hpreference, ?_⟩
      intro l hl
      rw [List.mem_append, List.mem_singleton] at hl
      rcases hl with hl | rfl
      · exact hbetween l hl
      · exact hline
    · exact ⟨lines, line, [], rfl, hheader, hpreference, by simp⟩

lemma showsLastError_append_singleton (lines : List String) (line : String) :
    ShowsLastError u (lines ++ [line]) ↔
      ShowsLastError u lines ∨ Opens u lines ∧ IsLastError line := by
  constructor
  · rintro ⟨before, error, after, heq, hopen, herror⟩
    rcases List.eq_nil_or_concat after with rfl | ⟨after, last, rfl⟩
    · obtain ⟨rfl, hline⟩ := List.append_inj' heq rfl
      cases hline
      exact .inr ⟨hopen, herror⟩
    · rw [List.concat_eq_append, ← List.cons_append, ← List.append_assoc] at heq
      obtain ⟨rfl, -⟩ := List.append_inj' heq rfl
      exact .inl ⟨before, error, after, rfl, hopen, herror⟩
  · rintro (⟨before, error, after, rfl, hopen, herror⟩ | ⟨hopen, herror⟩)
    · exact ⟨before, error, after ++ [line], by simp, hopen, herror⟩
    · exact ⟨lines, line, [], rfl, hopen, herror⟩

def Policy.errors (policy : Policy) : List String :=
  policy.candidatePaths.filterMap CandidatePath.lastError

def Reading.errors (reading : Reading) : List String := reading.policies.flatMap Policy.errors

variable (intOf : String → Int)

lemma candidateLine_cases {line : String} {path path' : CandidatePath}
    (h : candidateLine u intOf line path = some path') :
    (¬IsLastError line ∧ path'.lastError = path.lastError) ∨
      (IsLastError line ∧ path'.lastError = some (afterStart "Last error: " line)) := by
  rw [candidateLine] at h
  by_cases herror : IsLastError line
  · right
    have hhead := head_of_isLastError herror
    have hexplicit : matchStart SR_EXPLICIT line = none :=
      matchStart_eq_none_of_head hhead (by decide)
    have hsid : matchStart (SR_SID u) line = none :=
      matchStart_eq_none_of_head hhead (by decide)
    have hdynamic : line ≠ "Dynamic (inactive)" := by
      rintro rfl
      exact absurd hhead (by decide)
    rw [hexplicit, hsid] at h
    dsimp only at h
    rw [if_neg hdynamic, if_pos herror] at h
    cases h
    exact ⟨herror, rfl⟩
  · left
    refine ⟨herror, ?_⟩
    split at h
    · cases h
      rfl
    · split at h
      · cases h
        rfl
      · split at h
        · cases h
          rfl
        · cases h

lemma candidateLine_isLastError {line : String} (path : CandidatePath) (h : IsLastError line) :
    (candidateLine u intOf line path).isSome = true := by
  rw [candidateLine]
  split
  · rfl
  · split
    · rfl
    · split
      · rfl
      · rfl

inductive PolicyStep (line : String) (current : Policy) : Policy → Prop
  | kept {policy : Policy} (hpreference : ¬IsPreference u line)
      (herror : ¬(IsLastError line ∧ current.candidate.isSome = true))
      (herrors : policy.errors = current.errors)
      (hcandidate : policy.candidate.isSome = current.candidate.isSome) :
      PolicyStep line current policy
  | opened {policy : Policy} (hpreference : IsPreference u line) (herror : ¬IsLastError line)
      (herrors : policy.errors = current.errors) (hcandidate : policy.candidate.isSome = true) :
      PolicyStep line current policy
  | failed {policy : Policy} (hpreference : ¬IsPreference u line) (herror : IsLastError line)
      (hbefore : current.candidate.isSome = true) (hcandidate : policy.candidate.isSome = true)
      (hnew : afterStart "Last error: " line ∈ policy.errors)
      (herrors : ∀ s ∈ policy.errors, s ∈ current.errors ∨ s = afterStart "Last error: " line) :
      PolicyStep line current policy

lemma other_of_head {line : String} {c : Char} (hline : line.toList.head? = some c) (hL : c ≠ 'L')
    (hP : c ≠ 'P') : ¬IsLastError line ∧ ¬IsPreference u line := by
  refine ⟨fun herror => ?_, fun hpreference => ?_⟩
  · rw [head_of_isLastError herror] at hline
    exact hL (Option.some.inj hline).symm
  · rw [head_of_isPreference hpreference] at hline
    exact hP (Option.some.inj hline).symm

lemma policyStep_policyLine (line : String) (current : Policy) :
    PolicyStep (u := u) line current ((policyLine u intOf line current).getD current) := by
  rw [policyLine]
  split
  · rename_i hname
    obtain ⟨herror, hpreference⟩ := other_of_head (u := u)
      (@head_of_pyStartsWith "Name: " line 'N' (by decide) hname) (by decide) (by decide)
    exact .kept hpreference (fun h => herror h.1) rfl rfl
  · split
    · rename_i found hstatus
      obtain ⟨herror, hpreference⟩ := other_of_head (u := u)
        (@head_of_matchStart "Admin: " line _ 'A' (by decide) (Option.isSome_of_eq_some hstatus))
        (by decide) (by decide)
      exact .kept hpreference (fun h => herror h.1) rfl rfl
    · split
      · rename_i hbinding
        obtain ⟨herror, hpreference⟩ := other_of_head (u := u)
          (@head_of_pyStartsWith "Binding SID: " line 'B' (by decide) hbinding) (by decide)
          (by decide)
        exact .kept hpreference (fun h => herror h.1) rfl rfl
      · split
        · rename_i found hfound
          have hpreference : IsPreference u line := Option.isSome_of_eq_some hfound
          have herror : ¬IsLastError line := by
            intro h
            have hhead := head_of_isLastError h
            rw [head_of_isPreference hpreference] at hhead
            exact absurd hhead (by decide)
          refine .opened hpreference herror ?_ rfl
          rw [Policy.errors, Policy.errors, Policy.candidatePaths, Option.getD_some]
          simp
        · rename_i hfound
          have hpreference : ¬IsPreference u line := by
            rw [IsPreference, hfound]
            exact Bool.false_ne_true
          cases hcandidate : current.candidate with
          | none => exact .kept hpreference (by simp [hcandidate]) rfl rfl
          | some path =>
            dsimp only
            cases hline : candidateLine u intOf line path with
            | none =>
              refine .kept hpreference ?_ rfl rfl
              rintro ⟨herror, -⟩
              have hsome := candidateLine_isLastError (u := u) intOf path herror
              rw [hline] at hsome
              cases hsome
            | some path' =>
              have hnow : current.errors =
                  current.earlier.filterMap CandidatePath.lastError ++ path.lastError.toList := by
                rw [Policy.errors, Policy.candidatePaths, hcandidate, List.filterMap_append]
                cases h : path.lastError <;> simp [h]
              have hnext : ({ current with candidate := some path' } : Policy).errors =
                  current.earlier.filterMap CandidatePath.lastError ++ path'.lastError.toList := by
                rw [Policy.errors, Policy.candidatePaths, List.filterMap_append]
                cases h : path'.lastError <;> simp [h]
              rcases candidateLine_cases intOf hline with ⟨herror, hsame⟩ | ⟨herror, hnew⟩
              · refine .kept hpreference (fun h => herror h.1) ?_ ?_
                · rw [hnow, ← hsame]
                  exact hnext
                · rw [hcandidate]
                  rfl
              · refine .failed hpreference herror (by rw [hcandidate]; rfl) rfl ?_ ?_
                · rw [Option.map_some, Option.getD_some, hnext, hnew]
                  simp
                · intro s hs
                  rw [Option.map_some, Option.getD_some, hnext, hnew, List.mem_append,
                    Option.mem_toList] at hs
                  rcases hs with hs | hs
                  · left
                    rw [hnow]
                    exact List.mem_append_left _ hs
                  · exact .inr (Option.some.inj hs).symm

structure Reads (lines : List String) (reading : Reading) : Prop where
  current : reading.current.isSome = true ↔ ∃ line ∈ lines, IsHeader u line
  candidate : (∃ policy, reading.current = some policy ∧ policy.candidate.isSome = true) ↔
    Opens u lines
  errors : reading.errors ≠ [] ↔ ShowsLastError u lines
  written : ∀ s ∈ reading.errors, ∃ line ∈ lines, s = afterStart "Last error: " line

lemma not_opens_nil : ¬Opens u [] := by
  rintro ⟨before, preference, between, heq, -⟩
  simp at heq

lemma reads_nil : Reads (u := u) [] {} := by
  have hnone : ¬ShowsLastError u [] := by
    rintro ⟨before, error, after, heq, -⟩
    simp at heq
  refine ⟨by simp, ?_, ?_, ?_⟩
  · simp [not_opens_nil]
  · simp [hnone, Reading.errors, Reading.policies]
  · simp [Reading.errors, Reading.policies]

lemma errors_of_current {reading : Reading} {policy : Policy}
    (h : reading.current = some policy) :
    reading.errors = reading.done.flatMap Policy.errors ++ policy.errors := by
  rw [Reading.errors, Reading.policies, h]
  simp

lemma reads_header {lines : List String} {reading : Reading} (h : Reads (u := u) lines reading)
    {line : String} (hheader : IsHeader u line) :
    Reads (u := u) (lines ++ [line]) (readLine u intOf reading line) := by
  obtain ⟨found, hfound⟩ := Option.isSome_iff_exists.mp hheader
  have herror := (other_of_head (u := u) (head_of_isHeader hheader) (by decide) (by decide)).1
  have hread : readLine u intOf reading line =
      { done := reading.policies
        current := some { color := found.text "color", endpoint := found.text "endpoint" }
        consumed := reading.consumed ++ [line] } := by
    rw [readLine, hfound]
  have herrors : (readLine u intOf reading line).errors = reading.errors := by
    rw [hread, Reading.errors, Reading.policies]
    simp [Policy.errors, Policy.candidatePaths, Reading.errors]
  constructor
  · rw [hread]
    simp only [Option.isSome_some, true_iff]
    exact ⟨line, List.mem_append_right _ (List.mem_singleton_self line), hheader⟩
  · rw [opens_append_singleton, hread]
    simp [hheader]
  · rw [herrors, h.errors, showsLastError_append_singleton]
    simp [herror]
  · rw [herrors]
    intro s hs
    obtain ⟨l, hl, heq⟩ := h.written s hs
    exact ⟨l, List.mem_append_left _ hl, heq⟩

lemma reads_policyLine {lines : List String} {reading : Reading} (h : Reads (u := u) lines reading)
    {line : String} (hheader : ¬IsHeader u line) {current policy : Policy}
    (hcurrent : reading.current = some current)
    (hstep : PolicyStep (u := u) line current policy) (consumed : List String) :
    Reads (u := u) (lines ++ [line]) ⟨reading.done, some policy, consumed⟩ := by
  have hbefore := errors_of_current hcurrent
  have hafter := @errors_of_current ⟨reading.done, some policy, consumed⟩ policy rfl
  have hheaders : ∃ l ∈ lines, IsHeader u l := h.current.mp (by rw [hcurrent]; rfl)
  have hopen : current.candidate.isSome = true ↔ Opens u lines := by
    rw [← h.candidate, hcurrent]
    simp
  have hwritten : ∀ s ∈ reading.errors, ∃ l ∈ lines ++ [line], s = afterStart "Last error: " l := by
    intro s hs
    obtain ⟨l, hl, heq⟩ := h.written s hs
    exact ⟨l, List.mem_append_left _ hl, heq⟩
  have hexists : ∃ l ∈ lines ++ [line], IsHeader u l := by
    obtain ⟨l, hl, hlheader⟩ := hheaders
    exact ⟨l, List.mem_append_left _ hl, hlheader⟩
  cases hstep with
  | kept hpreference herror herrors hcandidate =>
    have hsame : Reading.errors ⟨reading.done, some policy, consumed⟩ = reading.errors := by
      rw [hafter, hbefore, herrors]
    constructor
    · simpa using hexists
    · rw [opens_append_singleton]
      simp [hheader, hpreference, hcandidate, hopen]
    · rw [hsame, h.errors, showsLastError_append_singleton]
      have hno : ¬(Opens u lines ∧ IsLastError line) := by
        rintro ⟨hopened, hlast⟩
        exact herror ⟨hlast, hopen.mpr hopened⟩
      simp [hno]
    · rw [hsame]
      exact hwritten
  | opened hpreference herror herrors hcandidate =>
    have hsame : Reading.errors ⟨reading.done, some policy, consumed⟩ = reading.errors := by
      rw [hafter, hbefore, herrors]
    constructor
    · simpa using hexists
    · rw [opens_append_singleton]
      simp only [hheader, hcandidate, Option.some.injEq, exists_eq_left', not_false_eq_true,
        true_and, true_iff]
      exact .inr ⟨hpreference, hheaders⟩
    · rw [hsame, h.errors, showsLastError_append_singleton]
      simp [herror]
    · rw [hsame]
      exact hwritten
  | failed hpreference herror hbefore' hcandidate hnew herrors =>
    have hopened := hopen.mp hbefore'
    constructor
    · simpa using hexists
    · rw [opens_append_singleton]
      simp [hheader, hcandidate, hopened]
    · rw [showsLastError_append_singleton]
      have hne : Reading.errors ⟨reading.done, some policy, consumed⟩ ≠ [] := by
        apply List.ne_nil_of_mem
        rw [hafter]
        exact List.mem_append_right _ hnew
      simp only [ne_eq, hne, not_false_eq_true, true_iff]
      exact .inr ⟨hopened, herror⟩
    · intro s hs
      rw [hafter, List.mem_append] at hs
      rcases hs with hs | hs
      · apply hwritten
        rw [hbefore]
        exact List.mem_append_left _ hs
      · rcases herrors s hs with hs | rfl
        · apply hwritten
          rw [hbefore]
          exact List.mem_append_right _ hs
        · exact ⟨line, List.mem_append_right _ (List.mem_singleton_self line), rfl⟩

theorem reads_readLine {lines : List String} {reading : Reading} (h : Reads (u := u) lines reading)
    (line : String) : Reads (u := u) (lines ++ [line]) (readLine u intOf reading line) := by
  by_cases hheader : IsHeader u line
  · exact reads_header intOf h hheader
  · have hnone : matchStart (XR_SR_HEADER u) line = none := by
      rw [IsHeader, Bool.not_eq_true, Option.isSome_eq_false_iff, Option.isNone_iff_eq_none]
        at hheader
      exact hheader
    rw [readLine, hnone]
    dsimp only
    cases hcurrent : reading.current with
    | none =>
      have hclosed : ¬Opens u lines := by
        rw [← h.candidate, hcurrent]
        simp
      have hheaders : ¬∃ l ∈ lines, IsHeader u l := by
        rw [← h.current, hcurrent]
        simp
      constructor
      · rw [hcurrent]
        simpa [hheader] using hheaders
      · rw [opens_append_singleton, hcurrent]
        simp only [reduceCtorEq, false_and, exists_false, false_iff]
        rintro ⟨-, hopened | ⟨-, hexists⟩⟩
        · exact hclosed hopened
        · exact hheaders hexists
      · rw [h.errors, showsLastError_append_singleton]
        simp [hclosed]
      · intro s hs
        obtain ⟨l, hl, heq⟩ := h.written s hs
        exact ⟨l, List.mem_append_left _ hl, heq⟩
    | some current =>
      have hstep := policyStep_policyLine (u := u) intOf line current
      dsimp only
      cases hline : policyLine u intOf line current with
      | none =>
        rw [hline] at hstep
        have hread := reads_policyLine h hheader hcurrent hstep reading.consumed
        rw [Option.getD_none, ← hcurrent] at hread
        exact hread
      | some policy =>
        rw [hline] at hstep
        exact reads_policyLine h hheader hcurrent hstep _

theorem reads_foldl (lines : List String) :
    Reads (u := u) lines (lines.foldl (readLine u intOf) {}) := by
  induction lines using List.reverseRecOn with
  | nil => exact reads_nil
  | append_singleton lines line ih =>
    rw [List.foldl_append]
    exact reads_readLine intOf ih line

end SegmentRouting

end NetTools
