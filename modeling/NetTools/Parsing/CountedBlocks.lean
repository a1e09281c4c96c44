import NetTools.Parsing.CountedTables

/-!
# The lines of blocks and sections

What the loops claim that read blocks of lines and sections of a configuration. A heading has no
field; a second name of a policy and an address without a mask are claimed for nothing; and an
address family of an IS-IS interface is claimed by both loops.
-/

namespace NetTools

namespace Parsing

open Pattern SegmentRouting

variable {u : CharClasses} {numbers : Numbers} {headings : Bool} {ignores : List IgnoreRule}
  {x : Extracted}

lemma initial_of_eq {text start : String} (h : text = start) : start.toList <+: text.toList := by
  rw [h]

lemma initial_of_startsWith {text start : String} (h : pyStartsWith text start = true) :
    start.toList <+: text.toList := List.isPrefixOf_iff_prefix.mp h

/-! ### LDP sessions -/

def isLdpPeer (line : String) : Bool := (matchStart LDP_PEER (pyStrip line)).isSome

variable (u numbers) in
def isLdpHeading (line : String) : Bool := (ldpLine u numbers (pyStrip line)).isHeading

variable (u numbers) in
def NoLdpHeading (lines : List String) : Prop :=
  ∀ before line after, lines = before ++ line :: after → before.any isLdpPeer = true →
    isLdpHeading u numbers line = false

def LdpOpen (before : List String) (state : LdpWalk) : Prop :=
  state.current.isSome = before.any isLdpPeer

lemma listedLine_ok (state : LdpWalk) (peer : LdpPeer) (line : String) :
    (listedLine u state peer line).stop = false ∧ (listedLine u state peer line).reading.Plain ∧
      (state.current.isSome = true →
        (listedLine u state peer line).state.current.isSome = true) := by
  unfold listedLine
  dsimp only
  split
  · exact ⟨rfl, plain_value, fun _ => rfl⟩
  · split
    · exact ⟨rfl, plain_value, fun _ => rfl⟩
    · exact ⟨rfl, plain_passed, id⟩

lemma peerLine_ok {state : LdpWalk} (hopen : state.current.isSome = true) (peer : LdpPeer)
    (line : String) (known : LdpLine) :
    (peerLine u state peer line known).stop = false ∧
      (peerLine u state peer line known).state.current.isSome = true ∧
      if known.isHeading = true then (peerLine u state peer line known).reading = .heading
      else (peerLine u state peer line known).reading.Plain := by
  cases known with
  | other =>
    obtain ⟨hstop, hplain, hstill⟩ := listedLine_ok (u := u) state peer line
    exact ⟨hstop, hstill hopen, hplain⟩
  | peer id => exact ⟨rfl, rfl, plain_value⟩
  | tcp left right => exact ⟨rfl, rfl, plain_value⟩
  | gracefulRestart gr => exact ⟨rfl, rfl, plain_value⟩
  | holdtime ht => exact ⟨rfl, rfl, plain_value⟩
  | state fsm sent rcvd mode => exact ⟨rfl, rfl, plain_value⟩
  | upTime up => exact ⟨rfl, rfl, plain_value⟩
  | discoverySources => exact ⟨rfl, hopen, rfl⟩
  | boundAddresses => exact ⟨rfl, hopen, rfl⟩
  | ipv4Count n => exact ⟨rfl, hopen, rfl⟩
  | ipv6Count => exact ⟨rfl, hopen, rfl⟩

lemma ldpLine_peer_iff (line : String) :
    (∃ id, ldpLine u numbers (pyStrip line) = .peer id) ↔ isLdpPeer line = true := by
  rw [isLdpPeer, ldpLine]
  cases hpeer : matchStart LDP_PEER (pyStrip line) with
  | some found => simp
  | none =>
    simp only [Option.isSome_none, Bool.false_eq_true, iff_false, not_exists]
    intro id
    repeat' split
    all_goals exact nofun

lemma ldpStep_ok {state : LdpWalk} {line : String} {next : Step LdpWalk}
    (h : ldpStep u numbers state line = .ok next) :
    next.stop = false ∧
      next.state.current.isSome = (state.current.isSome || isLdpPeer line) ∧
      if state.current.isSome && isLdpHeading u numbers line then next.reading = .heading
      else next.reading.Plain := by
  have hpeer : (∃ id, ldpLine u numbers (pyStrip line) = .peer id) ↔ isLdpPeer line = true :=
    ldpLine_peer_iff line
  unfold ldpStep at h
  dsimp only at h
  rw [isLdpHeading]
  generalize ldpLine u numbers (pyStrip line) = known at h hpeer ⊢
  cases hcurrent : state.current with
  | some peer =>
    rw [hcurrent] at h
    obtain rfl := Except.ok.inj h
    have hopen : state.current.isSome = true := by rw [hcurrent, Option.isSome_some]
    rw [Option.isSome_some, Bool.true_or, Bool.true_and]
    exact peerLine_ok hopen peer (pyStrip line) known
  | none =>
    rw [hcurrent] at h
    have hother : (∀ id, known ≠ .peer id) → isLdpPeer line = false := by
      intro hne
      rw [Bool.eq_false_iff]
      intro h
      obtain ⟨id, hid⟩ := hpeer.mpr h
      exact hne id hid
    cases known
    case peer id =>
      have hfirst : isLdpPeer line = true := hpeer.mp ⟨id, rfl⟩
      dsimp only at h
      obtain rfl := Except.ok.inj h
      rw [hfirst]
      exact ⟨rfl, rfl, plain_value⟩
    all_goals
      dsimp only at h
      obtain rfl := Except.ok.inj h
      rw [hother nofun]
      exact ⟨rfl, congrArg Option.isSome hcurrent, plain_passed⟩

lemma keeps_ldpOpen : Keeps (ldpStep u numbers) LdpOpen where
  goesOn _ _ _ _ _ h := (ldpStep_ok h).1
  next before state line next hopen h := by
    rw [LdpOpen] at hopen ⊢
    rw [(ldpStep_ok h).2.1, hopen, List.any_append, List.any_cons, List.any_nil, Bool.or_false]

def LDP_HEADINGS : List String :=
  ["LDP Discovery Sources:", "Addresses bound to this peer:", "IPv4: (", "IPv6: ("]

lemma exists_ldpHeading {line : String} (h : isLdpHeading u numbers line = true) :
    ∃ start ∈ LDP_HEADINGS, start.toList <+: (pyStrip line).toList := by
  rw [isLdpHeading, ldpLine] at h
  repeat' split at h
  all_goals try cases h
  · rename_i hsources
    exact ⟨"LDP Discovery Sources:", by simp [LDP_HEADINGS], initial_of_eq hsources⟩
  · rename_i hbound
    exact ⟨"Addresses bound to this peer:", by simp [LDP_HEADINGS], initial_of_eq hbound⟩
  · rename_i hfour
    have hinitial := leadingText_of_matchStart (Option.isSome_of_eq_some hfour)
    exact ⟨"IPv4: (", by simp [LDP_HEADINGS], hinitial⟩
  · rename_i hsix
    exact ⟨"IPv6: (", by simp [LDP_HEADINGS], leadingText_of_matchStart hsix⟩

lemma parseXrLdpNeighbor_ok {outputs : List String}
    (h : parseXrLdpNeighbor u numbers outputs = .ok x) :
    x.raw = firstOutput outputs ∧ ∃ readings state,
      walk (ldpStep u numbers) {} (nonblankLines x.raw) = .ok (readings, state) ∧
      x.walks = [readings] := by
  rw [parseXrLdpNeighbor] at h
  obtain ⟨⟨readings, state⟩, hwalk, h⟩ := Validation.bind_eq_ok_iff.mp h
  dsimp only at h
  by_cases hnone : state.peers.map LdpPeer.toRecord = [] ∧ body u (firstOutput outputs) ≠ ""
  · rw [if_pos hnone] at h
    cases h
  · rw [if_neg hnone] at h
    cases h
    exact ⟨rfl, readings, state, hwalk, rfl⟩

theorem ldp_once_iff {outputs : List String} (h : parseXrLdpNeighbor u numbers outputs = .ok x) :
    CountsLinesOnce u headings [] x ↔
      headings = true ∨ NoLdpHeading u numbers (nonblankLines (firstOutput outputs)) := by
  obtain ⟨hraw, readings, state, hwalk, hwalks⟩ := parseXrLdpNeighbor_ok h
  have hkinds : ∀ y ∈ (nonblankLines x.raw).zip readings,
      y.2.Plain ∨ (y.2 = .heading ∧ isLdpHeading u numbers y.1 = true) := by
    apply forall_walk (Q := fun line r =>
      r.Plain ∨ (r = .heading ∧ isLdpHeading u numbers line = true)) _ _ hwalk
    · exact fun _ => .inl plain_passed
    · intro state line next hnext
      have hreading := (ldpStep_ok hnext).2.2
      split at hreading
      · rename_i hboth
        rw [Bool.and_eq_true] at hboth
        exact .inr ⟨hreading, hboth.2⟩
      · exact .inl hreading
  have hstart : LdpOpen [] {} := rfl
  rw [once_of_one hwalks (length_walk hwalk)]
  · rw [keeps_ldpOpen.forall_iff hstart (C := fun before line => headings = true ∨
      (before.any isLdpPeer = true → isLdpHeading u numbers line = false)) _ hwalk, ← hraw]
    · cases headings with
      | true => simp
      | false => simp [NoLdpHeading]
    · intro before state line next hopen hnext
      have hreading := (ldpStep_ok hnext).2.2
      rw [LdpOpen] at hopen
      rw [← hopen]
      split at hreading
      · rename_i hboth
        rw [Bool.and_eq_true] at hboth
        rw [hreading, hboth.1, hboth.2]
        simp [Reading.isClaimed, Reading.isRead]
      · rename_i hnot
        rw [hreading.isRead_eq]
        refine ⟨fun _ => .inr fun hcurrent => ?_, fun _ => id⟩
        rw [hcurrent, Bool.true_and] at hnot
        exact Bool.eq_false_iff.mpr hnot
  · intro y _ _ rule hrule
    cases hrule
  · intro y hy hclaimed hread
    rcases hkinds y hy with hplain | ⟨-, hheading⟩
    · rw [hplain.isRead_eq, hclaimed] at hread
      cases hread
    · obtain ⟨start, hstart, hinitial⟩ := exists_ldpHeading hheading
      have hbanner : ∀ start ∈ LDP_HEADINGS, noBanner start.toList = true := by decide
      exact not_ignored (by rfl) (hbanner start hstart) (isLine_of_mem (List.of_mem_zip hy).1)
        hinitial

def NoDiscoveryHeading (lines : List String) : Prop :=
  ∀ line ∈ lines, isDiscoveryHeading (pyStrip line) = false

lemma discoveryLine_heading_iff (line : String) :
    discoveryLine u (pyStrip line) = .heading ↔ isDiscoveryHeading (pyStrip line) = true := by
  rw [discoveryLine]
  cases hlocal : matchStart LDP_LOCAL_ID (pyStrip line) with
  | some found =>
    have hstart : "Local LDP Identifier: ".toList <+: (pyStrip line).toList :=
      leadingText_of_matchStart (Option.isSome_of_eq_some hlocal)
    refine ⟨nofun, fun h => ?_⟩
    rw [isDiscoveryHeading, decide_eq_true_eq] at h
    rcases h with h | h
    · rw [h] at hstart
      exact absurd hstart (by decide)
    · rw [h] at hstart
      exact absurd hstart (by decide)
  | none =>
    dsimp only
    by_cases hheading : isDiscoveryHeading (pyStrip line) = true
    · rw [if_pos hheading]
      exact ⟨fun _ => hheading, fun _ => rfl⟩
    · rw [if_neg hheading]
      refine ⟨?_, fun h => absurd h hheading⟩
      repeat' split
      all_goals exact nofun

lemma discoveryStep_ok {state : DiscoveryWalk} {line : String} {next : Step DiscoveryWalk}
    (h : discoveryStep u state line = .ok next) :
    next.stop = false ∧
      if isDiscoveryHeading (pyStrip line) = true then next.reading = .heading
      else next.reading.Plain := by
  rw [discoveryStep] at h
  have hheading := discoveryLine_heading_iff (u := u) line
  cases hknown : discoveryLine u (pyStrip line) <;> rw [hknown] at h hheading
  case heading =>
    cases h
    rw [if_pos (hheading.mp rfl)]
    exact ⟨rfl, rfl⟩
  all_goals
    rw [if_neg (fun h => nomatch hheading.mpr h)]
    dsimp only at h
    first
    | cases h
      exact ⟨rfl, plain_value⟩
    | split at h
      · cases h
        exact ⟨rfl, plain_value⟩
      · cases h
        exact ⟨rfl, plain_passed⟩

lemma parseXrLdpDiscovery_ok {outputs : List String} (h : parseXrLdpDiscovery u outputs = .ok x) :
    x.raw = firstOutput outputs ∧ ∃ readings state,
      walk (discoveryStep u) {} (nonblankLines x.raw) = .ok (readings, state) ∧
      x.walks = [readings] := by
  rw [parseXrLdpDiscovery] at h
  obtain ⟨⟨readings, state⟩, hwalk, h⟩ := Validation.bind_eq_ok_iff.mp h
  dsimp only at h
  by_cases hnone : (state.fields.get? "local_ldp_identifier").isNone ∧
      body u (firstOutput outputs) ≠ ""
  · rw [if_pos hnone] at h
    cases h
  · rw [if_neg hnone] at h
    cases h
    exact ⟨rfl, readings, state, hwalk, rfl⟩

lemma once_of_headings {σ : Type} {step : σ → String → Except ParseFailure (Step σ)}
    {start last : σ} {readings : List Reading} {isHeading : String → Bool}
    (hstep : ∀ state line next, step state line = .ok next → next.stop = false ∧
      if isHeading line = true then next.reading = .heading else next.reading.Plain)
    (hwalk : walk step start (nonblankLines x.raw) = .ok (readings, last))
    (hwalks : x.walks = [readings]) (hbounded : ∀ rule ∈ ignores, rule.Bounded)
    (hkept : ∀ line, IsLine line → isHeading line = true → isIgnoredBy u ignores line = false) :
    CountsLinesOnce u headings ignores x ↔
      headings = true ∨ ∀ line ∈ nonblankLines x.raw, isHeading line = false := by
  have hkinds : ∀ y ∈ (nonblankLines x.raw).zip readings,
      y.2.Plain ∨ (y.2 = .heading ∧ isHeading y.1 = true) := by
    apply forall_walk (Q := fun line r => r.Plain ∨ (r = .heading ∧ isHeading line = true)) _ _
      hwalk
    · exact fun _ => .inl plain_passed
    · intro state line next hnext
      have hreading := (hstep state line next hnext).2
      split at hreading
      · exact .inr ⟨hreading, ‹_›⟩
      · exact .inl hreading
  have hkeeps := keeps_true (fun state line next hnext => (hstep state line next hnext).1)
  rw [once_of_one hwalks (length_walk hwalk) (fun _ _ _ => settled_of_bounded hbounded _)]
  · rw [hkeeps.forall_iff trivial (C := fun _ line => headings = true ∨ isHeading line = false) _
      hwalk]
    · constructor
      · intro hall
        by_cases hheadings : headings = true
        · exact .inl hheadings
        · refine .inr fun line hline => ?_
          obtain ⟨before, after, hlines⟩ := List.append_of_mem hline
          exact (hall before line after hlines).resolve_left hheadings
      · rintro (hheadings | hall) before line after hlines
        · exact .inl hheadings
        · refine .inr (hall line ?_)
          rw [hlines]
          exact List.mem_append_right _ List.mem_cons_self
    · intro before state line next _ hnext
      have hreading := (hstep state line next hnext).2
      split at hreading
      · rename_i hheading
        rw [hreading, hheading]
        simp [Reading.isClaimed, Reading.isRead]
      · rename_i hheading
        rw [hreading.isRead_eq, Bool.eq_false_iff.mpr hheading]
        simp
  · intro y hy hclaimed hread
    rcases hkinds y hy with hplain | ⟨-, hheading⟩
    · rw [hplain.isRead_eq, hclaimed] at hread
      cases hread
    · exact hkept y.1 (isLine_of_mem (List.of_mem_zip hy).1) hheading

theorem ldpDiscovery_once_iff {outputs : List String} (h : parseXrLdpDiscovery u outputs = .ok x) :
    CountsLinesOnce u headings [] x ↔
      headings = true ∨ NoDiscoveryHeading (nonblankLines (firstOutput outputs)) := by
  obtain ⟨hraw, readings, state, hwalk, hwalks⟩ := parseXrLdpDiscovery_ok h
  rw [NoDiscoveryHeading, ← hraw]
  apply once_of_headings (fun _ _ _ hnext => discoveryStep_ok hnext) hwalk hwalks
  · intro rule hrule
    cases hrule
  · intro line hline hheading
    rw [isDiscoveryHeading, decide_eq_true_eq] at hheading
    rcases hheading with hheading | hheading
    · exact not_ignored (by rfl) (by decide) hline (initial_of_eq hheading)
    · exact not_ignored (by rfl) (by decide) hline (initial_of_eq hheading)

/-! ### Segment routing -/

variable (u) in
def isSrHeader (line : String) : Bool := (matchStart (XR_SR_HEADER u) (pyStrip line)).isSome

def isSrName (line : String) : Bool := pyStartsWith (pyStrip line) "Name: "

def isSrSid (line : String) : Bool := pyStartsWith (pyStrip line) "Binding SID: "

variable (u) in
def openPolicy (lines : List String) : Option (List String) :=
  lines.foldl (fun block line =>
    if isSrHeader u line then some [] else block.map (fun block => block ++ [line])) none

variable (u) in
def SrNamesOnce (lines : List String) : Prop :=
  ∀ before line after, lines = before ++ line :: after → ∀ block ∈ openPolicy u before,
    (isSrName line = true → block.any isSrName = false) ∧
      (isSrSid line = true → block.any isSrSid = false)

variable (u) in
/-- The open policy has a name, and a binding SID, when a line of it has one. -/
def SrOpen (before : List String) (state : SegmentRouting.Reading) : Prop :=
  state.current.map (fun policy => (policy.name.isSome, policy.bindingSid.isSome)) =
    (openPolicy u before).map (fun block => (block.any isSrName, block.any isSrSid))

lemma openPolicy_append (before : List String) (line : String) :
    openPolicy u (before ++ [line]) =
      if isSrHeader u line then some []
      else (openPolicy u before).map (fun block => block ++ [line]) := by
  rw [openPolicy, List.foldl_append, List.foldl_cons, List.foldl_nil, ← openPolicy]

lemma policyLine_fields {line : String} {current policy : Policy} {intOf : String → Int}
    (h : policyLine u intOf line current = some policy) :
    policy.name.isSome = (current.name.isSome || pyStartsWith line "Name: ") ∧
      policy.bindingSid.isSome =
        (current.bindingSid.isSome || pyStartsWith line "Binding SID: ") := by
  have happart : Apart "Name: ".toList "Binding SID: ".toList := by decide
  have hstatus : Apart "Admin: ".toList "Binding SID: ".toList := by decide
  unfold policyLine at h
  by_cases hname : pyStartsWith line "Name: " = true
  · have hsid : pyStartsWith line "Binding SID: " = false := by
      rw [Bool.eq_false_iff]
      intro hsid
      exact happart.not_both (initial_of_startsWith hname) (initial_of_startsWith hsid)
    rw [if_pos hname] at h
    obtain rfl := Option.some.inj h
    rw [hname, hsid]
    simp
  · rw [if_neg hname] at h
    rw [Bool.eq_false_iff.mpr hname, Bool.or_false]
    cases hmatch : matchStart XR_SR_STATUS line with
    | some found =>
      have hsid : pyStartsWith line "Binding SID: " = false := by
        rw [Bool.eq_false_iff]
        intro hsid
        exact hstatus.not_both (leadingText_of_matchStart (Option.isSome_of_eq_some hmatch))
          (initial_of_startsWith hsid)
      rw [hmatch] at h
      obtain rfl := Option.some.inj h
      rw [hsid, Bool.or_false]
      exact ⟨rfl, rfl⟩
    | none =>
      rw [hmatch] at h
      dsimp only at h
      by_cases hsid : pyStartsWith line "Binding SID: " = true
      · rw [if_pos hsid] at h
        obtain rfl := Option.some.inj h
        rw [hsid]
        simp
      · rw [if_neg hsid] at h
        rw [Bool.eq_false_iff.mpr hsid, Bool.or_false]
        cases hpreference : matchStart (SR_PREFERENCE u) line with
        | some found =>
          rw [hpreference] at h
          obtain rfl := Option.some.inj h
          exact ⟨rfl, rfl⟩
        | none =>
          rw [hpreference] at h
          dsimp only at h
          cases hcandidate : current.candidate with
          | none =>
            rw [hcandidate] at h
            cases h
          | some path =>
            rw [hcandidate] at h
            obtain ⟨path', -, rfl⟩ := Option.map_eq_some_iff.mp h
            exact ⟨rfl, rfl⟩

lemma policyLine_none {line : String} {current : Policy} {intOf : String → Int}
    (h : policyLine u intOf line current = none) :
    pyStartsWith line "Name: " = false ∧ pyStartsWith line "Binding SID: " = false := by
  unfold policyLine at h
  by_cases hname : pyStartsWith line "Name: " = true
  · rw [if_pos hname] at h
    cases h
  · rw [if_neg hname] at h
    refine ⟨Bool.eq_false_iff.mpr hname, Bool.eq_false_iff.mpr fun hsid => ?_⟩
    cases hmatch : matchStart XR_SR_STATUS line with
    | some found =>
      rw [hmatch] at h
      cases h
    | none =>
      rw [hmatch] at h
      dsimp only at h
      rw [if_pos hsid] at h
      cases h

lemma srStep_next {before : List String} {state : SegmentRouting.Reading} {line : String}
    {next : Step SegmentRouting.Reading} (hopen : SrOpen u before state)
    (h : srStep u numbers state line = .ok next) : SrOpen u (before ++ [line]) next.state := by
  obtain rfl := Except.ok.inj h
  rw [SrOpen, openPolicy_append, isSrHeader]
  rw [SrOpen] at hopen
  dsimp only
  unfold readLine
  cases hheader : matchStart (XR_SR_HEADER u) (pyStrip line) with
  | some found => rfl
  | none =>
    rw [Option.isSome_none, if_neg (by decide), Option.map_map]
    dsimp only
    cases hcurrent : state.current with
    | none =>
      rw [hcurrent, Option.map_none] at hopen
      rw [Option.map_eq_none_iff.mp hopen.symm]
      simp [hcurrent]
    | some current =>
      rw [hcurrent, Option.map_some] at hopen
      obtain ⟨block, hblock, hfields⟩ := Option.map_eq_some_iff.mp hopen.symm
      rw [Prod.mk.injEq] at hfields
      rw [hblock, Option.map_some, Function.comp_apply]
      cases hpolicy : policyLine u numbers.ofDigits (pyStrip line) current with
      | some policy =>
        obtain ⟨hname, hsid⟩ := policyLine_fields hpolicy
        simp only [hpolicy]
        rw [Option.map_some, hname, hsid, ← hfields.1, ← hfields.2]
        simp [isSrName, isSrSid]
      | none =>
        obtain ⟨hname, hsid⟩ := policyLine_none hpolicy
        simp only [hpolicy]
        rw [hcurrent, Option.map_some, ← hfields.1, ← hfields.2]
        simp [isSrName, isSrSid, hname, hsid]

lemma keeps_srOpen : Keeps (srStep u numbers) (SrOpen u) where
  goesOn _ _ _ _ _ h := by
    obtain rfl := Except.ok.inj h
    rfl
  next _ _ _ _ := srStep_next

lemma keptOnce_iff : ∀ headings name named sid sided : Bool,
    ((if name && named || sid && sided then Reading.dropped else .value).isClaimed = true →
        (if name && named || sid && sided then Reading.dropped else .value).isRead headings = true) ↔
      (name = true → named = false) ∧ (sid = true → sided = false) := by
  decide

lemma srReading_ok {before : List String} {state : SegmentRouting.Reading} {line : String}
    {next : Step SegmentRouting.Reading} (hopen : SrOpen u before state)
    (h : srStep u numbers state line = .ok next) :
    (next.reading.isClaimed = true → next.reading.isRead headings = true) ↔
      ∀ block ∈ openPolicy u before, (isSrName line = true → block.any isSrName = false) ∧
        (isSrSid line = true → block.any isSrSid = false) := by
  have hname : Apart "Color: ".toList "Name: ".toList := by decide
  have hsid : Apart "Color: ".toList "Binding SID: ".toList := by decide
  obtain rfl := Except.ok.inj h
  rw [SrOpen] at hopen
  dsimp only
  rw [srReading]
  by_cases hheader : (matchStart (XR_SR_HEADER u) (pyStrip line)).isSome = true
  · rw [if_pos hheader]
    have hstart : "Color: ".toList <+: (pyStrip line).toList := leadingText_of_matchStart hheader
    refine ⟨fun _ block _ => ⟨fun hline => ?_, fun hline => ?_⟩, fun _ _ => rfl⟩
    · exact (hname.not_both hstart (initial_of_startsWith hline)).elim
    · exact (hsid.not_both hstart (initial_of_startsWith hline)).elim
  · rw [if_neg hheader]
    cases hcurrent : state.current with
    | none =>
      rw [hcurrent, Option.map_none] at hopen
      rw [Option.map_eq_none_iff.mp hopen.symm]
      simp [Reading.isClaimed]
    | some current =>
      rw [hcurrent, Option.map_some] at hopen
      obtain ⟨block, hblock, hfields⟩ := Option.map_eq_some_iff.mp hopen.symm
      rw [Prod.mk.injEq] at hfields
      have hone : (∀ b ∈ openPolicy u before, (isSrName line = true → b.any isSrName = false) ∧
          (isSrSid line = true → b.any isSrSid = false)) ↔
          (isSrName line = true → current.name.isSome = false) ∧
            (isSrSid line = true → current.bindingSid.isSome = false) := by
        rw [hblock, ← hfields.1, ← hfields.2]
        simp
      rw [hone]
      cases hpolicy : policyLine u numbers.ofDigits (pyStrip line) current with
      | none =>
        obtain ⟨hnone, hnone'⟩ := policyLine_none hpolicy
        rw [isSrName, isSrSid, hnone, hnone']
        simp [hpolicy, Reading.isClaimed]
      | some policy =>
        simp only [hpolicy, Option.isNone_some, Bool.false_eq_true, if_false]
        exact keptOnce_iff headings _ _ _ _

def SR_STARTS : List String :=
  ["Color: ", "Name: ", "Admin: ", "Binding SID: ", "Preference: ", "Explicit: segment-list ",
    "SID[", "Dynamic (inactive)", "Last error: "]

lemma candidateLine_start {line : String} {path path' : CandidatePath} {intOf : String → Int}
    (h : candidateLine u intOf line path = some path') :
    ∃ start ∈ SR_STARTS, start.toList <+: line.toList := by
  unfold candidateLine at h
  cases hexplicit : matchStart SR_EXPLICIT line with
  | some found =>
    have hinitial := leadingText_of_matchStart (Option.isSome_of_eq_some hexplicit)
    exact ⟨"Explicit: segment-list ", by simp [SR_STARTS], hinitial⟩
  | none =>
    rw [hexplicit] at h
    dsimp only at h
    cases hsid : matchStart (SR_SID u) line with
    | some found =>
      have hinitial := leadingText_of_matchStart (Option.isSome_of_eq_some hsid)
      exact ⟨"SID[", by simp [SR_STARTS], hinitial⟩
    | none =>
      rw [hsid] at h
      dsimp only at h
      by_cases hdynamic : line = "Dynamic (inactive)"
      · exact ⟨"Dynamic (inactive)", by simp [SR_STARTS], initial_of_eq hdynamic⟩
      · rw [if_neg hdynamic] at h
        by_cases herror : pyStartsWith line "Last error: " = true
        · exact ⟨"Last error: ", by simp [SR_STARTS], initial_of_startsWith herror⟩
        · rw [if_neg herror] at h
          cases h

lemma policyLine_start {line : String} {current policy : Policy} {intOf : String → Int}
    (h : policyLine u intOf line current = some policy) :
    ∃ start ∈ SR_STARTS, start.toList <+: line.toList := by
  unfold policyLine at h
  by_cases hname : pyStartsWith line "Name: " = true
  · exact ⟨"Name: ", by simp [SR_STARTS], initial_of_startsWith hname⟩
  · rw [if_neg hname] at h
    cases hstatus : matchStart XR_SR_STATUS line with
    | some found =>
      have hinitial := leadingText_of_matchStart (Option.isSome_of_eq_some hstatus)
      exact ⟨"Admin: ", by simp [SR_STARTS], hinitial⟩
    | none =>
      rw [hstatus] at h
      dsimp only at h
      by_cases hsid : pyStartsWith line "Binding SID: " = true
      · exact ⟨"Binding SID: ", by simp [SR_STARTS], initial_of_startsWith hsid⟩
      · rw [if_neg hsid] at h
        cases hpreference : matchStart (SR_PREFERENCE u) line with
        | some found =>
          have hinitial := leadingText_of_matchStart (Option.isSome_of_eq_some hpreference)
          exact ⟨"Preference: ", by simp [SR_STARTS], hinitial⟩
        | none =>
          rw [hpreference] at h
          dsimp only at h
          cases hcandidate : current.candidate with
          | none =>
            rw [hcandidate] at h
            cases h
          | some path =>
            rw [hcandidate] at h
            obtain ⟨path', hpath, -⟩ := Option.map_eq_some_iff.mp h
            exact candidateLine_start hpath

lemma srReading_start {state : SegmentRouting.Reading} {line : String}
    {next : Step SegmentRouting.Reading} (h : srStep u numbers state line = .ok next) :
    (next.reading.isClaimed = true →
        ∃ start ∈ SR_STARTS, start.toList <+: (pyStrip line).toList) ∧
      (next.reading.isClaimed = true → next.reading.isRead headings = false →
        isSrName line = true ∨ isSrSid line = true) := by
  obtain rfl := Except.ok.inj h
  dsimp only
  rw [srReading]
  by_cases hheader : (matchStart (XR_SR_HEADER u) (pyStrip line)).isSome = true
  · rw [if_pos hheader]
    have hinitial := leadingText_of_matchStart hheader
    exact ⟨fun _ => ⟨"Color: ", by simp [SR_STARTS], hinitial⟩, fun _ hread => nomatch hread⟩
  · rw [if_neg hheader]
    cases state.current with
    | none => exact ⟨nofun, nofun⟩
    | some current =>
      dsimp only
      cases hpolicy : policyLine u numbers.ofDigits (pyStrip line) current with
      | none => exact ⟨nofun, nofun⟩
      | some policy =>
        refine ⟨fun _ => policyLine_start hpolicy, fun _ hread => ?_⟩
        rw [Option.isNone_some, if_neg (by decide)] at hread
        split at hread
        · rename_i hdropped
          rw [Bool.or_eq_true, Bool.and_eq_true, Bool.and_eq_true] at hdropped
          rcases hdropped with ⟨hname, -⟩ | ⟨hsid, -⟩
          · exact .inl hname
          · exact .inr hsid
        · cases hread

lemma parseXrSr_ok {outputs : List String} (h : parseXrSr u numbers outputs = .ok x) :
    x.raw = firstOutput outputs ∧ ∃ readings state,
      walk (srStep u numbers) {} (nonblankLines x.raw) = .ok (readings, state) ∧
      x.walks = [readings] := by
  rw [parseXrSr] at h
  obtain ⟨⟨readings, state⟩, hwalk, h⟩ := Validation.bind_eq_ok_iff.mp h
  dsimp only at h
  by_cases hnone : state.policies = [] ∧ body u (firstOutput outputs) ≠ "" ∧
      !pyContains (body u (firstOutput outputs)) "SR-TE policy database"
  · rw [if_pos hnone] at h
    cases h
  · rw [if_neg hnone] at h
    cases h
    exact ⟨rfl, readings, state, hwalk, rfl⟩

def dashes : IgnoreRule := { pattern := [.run (· = '-') 1 none, .stop] }

lemma mem_srIgnores {rule : IgnoreRule} (h : rule ∈ SR_IGNORES u) :
    rule = dashes ∨ rule ∈ (SR_IGNORES u).eraseIdx 1 := by
  rcases List.mem_cons.mp h with rfl | h
  · exact .inr List.mem_cons_self
  · rcases List.mem_cons.mp h with rfl | h
    · exact .inl rfl
    · exact .inr (List.mem_cons_of_mem _ h)

lemma sr_not_ignored {c : Char} {start : List Char} (hc : c ≠ '-')
    (hclear : clearOf (c :: start) ((SR_IGNORES u).eraseIdx 1) = true)
    (hbanner : noBanner (c :: start) = true) {line : String} (hline : IsLine line)
    (hstart : c :: start <+: (pyStrip line).toList) :
    isIgnoredBy u (SR_IGNORES u) line = false := by
  apply not_ignored_of _ hbanner hline hstart
  intro rule hrule
  rcases mem_srIgnores hrule with rfl | hrule
  · rw [dashes, bounded_dashes.applies_eq hline.noBreak, Bool.eq_false_iff]
    intro haccepts
    have hstarts : Starts (fun c => c = '-') [.run (· = '-') 1 none, .stop] :=
      ⟨by decide, fun c hc => of_decide_eq_true hc⟩
    obtain ⟨d, hd, hdash⟩ := head_of_starts hstarts haccepts
    obtain ⟨back, hback⟩ := hstart
    rw [← hback, List.cons_append, List.head?_cons, Option.mem_some] at hd
    exact hc (hd.trans hdash)
  · apply not_applies_of_clear _ hstart
    have hone := List.all_eq_true.mp hclear rule hrule
    rw [clearOf, List.all_cons, List.all_nil, Bool.and_true]
    exact hone

theorem sr_once_iff {outputs : List String} (h : parseXrSr u numbers outputs = .ok x) :
    CountsLinesOnce u headings (SR_IGNORES u) x ↔
      SrNamesOnce u (nonblankLines (firstOutput outputs)) := by
  obtain ⟨hraw, readings, state, hwalk, hwalks⟩ := parseXrSr_ok h
  have hstarts : ∀ y ∈ (nonblankLines x.raw).zip readings,
      (y.2.isClaimed = true → ∃ start ∈ SR_STARTS, start.toList <+: (pyStrip y.1).toList) ∧
        (y.2.isClaimed = true → y.2.isRead headings = false →
          isSrName y.1 = true ∨ isSrSid y.1 = true) := by
    apply forall_walk (Q := fun line r =>
      (r.isClaimed = true → ∃ start ∈ SR_STARTS, start.toList <+: (pyStrip line).toList) ∧
        (r.isClaimed = true → r.isRead headings = false →
          isSrName line = true ∨ isSrSid line = true)) _ _ hwalk
    · exact fun _ => ⟨nofun, nofun⟩
    · exact fun _ _ _ => srReading_start
  have hopen : SrOpen u [] {} := rfl
  rw [once_of_one hwalks (length_walk hwalk), keeps_srOpen.forall_iff hopen
    (fun _ _ _ _ hopen hnext => srReading_ok hopen hnext) hwalk, SrNamesOnce, ← hraw]
  · intro y hy hclaimed
    obtain ⟨start, hstart, hinitial⟩ := (hstarts y hy).1 hclaimed
    have hne : ∀ start ∈ SR_STARTS, Apart start.toList "Forward Class:".toList := by decide
    exact settled_except (fun rule hrule hne => bounded_sr hrule hne)
      (by decide : "Forward Class:".toList <+: "Forward Class: ".toList)
      ⟨'F', rfl, by decide⟩ ⟨':', rfl, by decide⟩
      (fun hforward => (hne start hstart).not_both hinitial hforward)
  · intro y hy hclaimed hread
    have hline : IsLine y.1 := isLine_of_mem (List.of_mem_zip hy).1
    rcases (hstarts y hy).2 hclaimed hread with hname | hsid
    · have hinitial : "Name: ".toList <+: (pyStrip y.1).toList := initial_of_startsWith hname
      exact sr_not_ignored (c := 'N') (by decide) (by rfl) (by decide) hline hinitial
    · have hinitial : "Binding SID: ".toList <+: (pyStrip y.1).toList :=
        initial_of_startsWith hsid
      exact sr_not_ignored (c := 'B') (by decide) (by rfl) (by decide) hline hinitial

end Parsing

end NetTools
