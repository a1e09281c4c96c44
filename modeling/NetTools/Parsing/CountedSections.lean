import NetTools.Parsing.CountedBlocks

/-!
# The lines of a configuration

What the loops claim that read a section of a configuration. An address without a mask is claimed
for nothing, and an address family of an IS-IS interface is claimed by both loops.
-/

namespace NetTools

namespace Parsing

open Pattern SegmentRouting

variable {numbers : Numbers} {u : CharClasses} {headings : Bool} {x : Extracted}

lemma bounded_configInterface : ∀ rule ∈ CONFIG_INTERFACE_IGNORES, rule.Bounded := by
  intro rule hrule
  rw [List.mem_singleton.mp hrule]
  exact bounded_blockEnd

def AddressesWithMask (lines : List String) : Prop :=
  ∀ line ∈ lines, pyStartsWith (pyStrip line) "ipv4 address " = true →
    (Grounding.words (afterStart "ipv4 address " (pyStrip line))).length = 2

lemma starts_apart {text a b : String} (h : pyStartsWith text a = true)
    (happart : Apart a.toList b.toList) : pyStartsWith text b = false := by
  rw [Bool.eq_false_iff]
  intro hb
  exact happart.not_both (initial_of_startsWith h) (initial_of_startsWith hb)

lemma configInterfaceStep_ok {fields : ConfigInterface} {line : String}
    {next : Step ConfigInterface} (h : configInterfaceStep fields line = .ok next) :
    next.stop = false ∧
      if pyStartsWith (pyStrip line) "ipv4 address " = true ∧
          (Grounding.words (afterStart "ipv4 address " (pyStrip line))).length ≠ 2 then
        next.reading = .dropped
      else next.reading.Plain := by
  have hnot : ∀ start : String, Apart start.toList "ipv4 address ".toList →
      pyStartsWith (pyStrip line) start = true →
      ¬(pyStartsWith (pyStrip line) "ipv4 address " = true ∧
        (Grounding.words (afterStart "ipv4 address " (pyStrip line))).length ≠ 2) := by
    rintro start happart hstart ⟨haddress, -⟩
    rw [starts_apart hstart happart] at haddress
    cases haddress
  unfold configInterfaceStep at h
  dsimp only at h
  by_cases hinterface : pyStartsWith (pyStrip line) "interface " = true
  · rw [if_pos hinterface] at h
    obtain rfl := Except.ok.inj h
    rw [if_neg (hnot _ (by decide) hinterface)]
    exact ⟨rfl, plain_value⟩
  rw [if_neg hinterface] at h
  by_cases hdescription : pyStartsWith (pyStrip line) "description " = true
  · rw [if_pos hdescription] at h
    obtain rfl := Except.ok.inj h
    rw [if_neg (hnot _ (by decide) hdescription)]
    exact ⟨rfl, plain_value⟩
  rw [if_neg hdescription] at h
  by_cases hshutdown : pyStrip line = "shutdown"
  · rw [if_pos hshutdown] at h
    obtain rfl := Except.ok.inj h
    rw [if_neg (hnot "shutdown" (by decide) (by rw [hshutdown]; decide))]
    exact ⟨rfl, plain_value⟩
  rw [if_neg hshutdown] at h
  by_cases hvrf : pyStartsWith (pyStrip line) "vrf " = true
  · rw [if_pos hvrf] at h
    obtain rfl := Except.ok.inj h
    rw [if_neg (hnot _ (by decide) hvrf)]
    exact ⟨rfl, plain_value⟩
  rw [if_neg hvrf] at h
  by_cases haddress : pyStartsWith (pyStrip line) "ipv4 address " = true
  · rw [if_pos haddress] at h
    split at h
    · rename_i address netmask hwords
      obtain rfl := Except.ok.inj h
      rw [hwords, if_neg (by simp)]
      exact ⟨rfl, plain_value⟩
    · rename_i hwords
      obtain rfl := Except.ok.inj h
      have hlength : (Grounding.words (afterStart "ipv4 address " (pyStrip line))).length ≠ 2 := by
        intro hlength
        obtain ⟨address, netmask, htwo⟩ := List.length_eq_two.mp hlength
        exact hwords address netmask htwo
      rw [if_pos ⟨haddress, hlength⟩]
      exact ⟨rfl, rfl⟩
  rw [if_neg haddress] at h
  rw [if_neg (fun hboth => haddress hboth.1)]
  by_cases hsix : pyStartsWith (pyStrip line) "ipv6 address " = true
  · rw [if_pos hsix] at h
    obtain rfl := Except.ok.inj h
    exact ⟨rfl, plain_value⟩
  · rw [if_neg hsix] at h
    obtain rfl := Except.ok.inj h
    exact ⟨rfl, plain_passed⟩

lemma parseXrConfigInterface_ok {output : String} (h : parseXrConfigInterface output = .ok x) :
    x.raw = output ∧ ∃ readings fields,
      walk configInterfaceStep {} (nonblankLines x.raw) = .ok (readings, fields) ∧
      x.walks = [readings] := by
  rw [parseXrConfigInterface] at h
  obtain ⟨⟨readings, fields⟩, hwalk, h⟩ := Validation.bind_eq_ok_iff.mp h
  dsimp only at h
  by_cases hnone : fields.interface = none
  · rw [if_pos hnone] at h
    cases h
  · rw [if_neg hnone] at h
    cases h
    exact ⟨rfl, readings, fields, hwalk, rfl⟩

theorem configInterface_once_iff {output : String} (h : parseXrConfigInterface output = .ok x) :
    CountsLinesOnce u headings CONFIG_INTERFACE_IGNORES x ↔
      AddressesWithMask (nonblankLines output) := by
  obtain ⟨hraw, readings, fields, hwalk, hwalks⟩ := parseXrConfigInterface_ok h
  have hkinds : ∀ y ∈ (nonblankLines x.raw).zip readings,
      y.2.Plain ∨ pyStartsWith (pyStrip y.1) "ipv4 address " = true := by
    apply forall_walk (Q := fun line r =>
      r.Plain ∨ pyStartsWith (pyStrip line) "ipv4 address " = true) _ _ hwalk
    · exact fun _ => .inl plain_passed
    · intro state line next hnext
      obtain ⟨-, hreading⟩ := configInterfaceStep_ok hnext
      split at hreading
      · rename_i hboth
        exact .inr hboth.1
      · exact .inl hreading
  have hgoesOn : ∀ state line next, configInterfaceStep state line = .ok next →
      next.stop = false := fun _ _ _ hnext => (configInterfaceStep_ok hnext).1
  have hkeeps := keeps_true hgoesOn
  rw [once_of_one hwalks (length_walk hwalk) (fun _ _ _ => settled_of_bounded bounded_configInterface _),
    hkeeps.forall_iff trivial (C := fun _ line =>
      pyStartsWith (pyStrip line) "ipv4 address " = true →
        (Grounding.words (afterStart "ipv4 address " (pyStrip line))).length = 2) _ hwalk,
    AddressesWithMask, ← hraw]
  · constructor
    · intro hall line hline
      obtain ⟨before, after, hlines⟩ := List.append_of_mem hline
      exact hall before line after hlines
    · intro hall before line after hlines
      apply hall line
      rw [hlines]
      exact List.mem_append_right _ List.mem_cons_self
  · intro before state line next _ hnext
    obtain ⟨-, hreading⟩ := configInterfaceStep_ok hnext
    split at hreading
    · rename_i hboth
      rw [hreading]
      simp [Reading.isClaimed, Reading.isRead, hboth.1, hboth.2]
    · rename_i hnot
      rw [hreading.isRead_eq]
      refine ⟨fun _ haddress => ?_, fun _ => id⟩
      by_contra hlength
      exact hnot ⟨haddress, hlength⟩
  · intro y hy hclaimed hread
    rcases hkinds y hy with hplain | haddress
    · rw [hplain.isRead_eq, hclaimed] at hread
      cases hread
    · have hinitial := initial_of_startsWith haddress
      exact not_ignored (by decide) (by decide) (isLine_of_mem (List.of_mem_zip hy).1) hinitial

def isLdpSection (line : String) : Bool := decide (pyStrip line = "mpls ldp")

lemma configLdpStep_ok {state : ConfigLdp} {line : String} {next : Step ConfigLdp}
    (h : configLdpStep state line = .ok next) :
    next.stop = false ∧
      if isLdpSection line = true then next.reading = .heading else next.reading.Plain := by
  unfold configLdpStep at h
  dsimp only at h
  by_cases hsection : pyStrip line = "mpls ldp"
  · rw [if_pos hsection] at h
    obtain rfl := Except.ok.inj h
    rw [isLdpSection, if_pos (decide_eq_true hsection)]
    exact ⟨rfl, rfl⟩
  · rw [if_neg hsection] at h
    rw [isLdpSection, decide_eq_false hsection, if_neg (by decide)]
    split at h
    · obtain rfl := Except.ok.inj h
      exact ⟨rfl, plain_value⟩
    · obtain rfl := Except.ok.inj h
      exact ⟨rfl, plain_passed⟩

lemma parseXrConfigLdp_ok {output : String} (h : parseXrConfigLdp output = .ok x) :
    x.raw = output ∧ ∃ readings state,
      walk configLdpStep {} (nonblankLines x.raw) = .ok (readings, state) ∧
      x.walks = [readings] := by
  rw [parseXrConfigLdp] at h
  obtain ⟨⟨readings, state⟩, hwalk, h⟩ := Validation.bind_eq_ok_iff.mp h
  dsimp only at h
  by_cases hnone : (!state.foundHeader) = true
  · rw [if_pos hnone] at h
    cases h
  · rw [if_neg hnone] at h
    cases h
    exact ⟨rfl, readings, state, hwalk, rfl⟩

theorem configLdp_once_iff {output : String} (h : parseXrConfigLdp output = .ok x) :
    CountsLinesOnce u headings CONFIG_LDP_IGNORES x ↔
      headings = true ∨ ∀ line ∈ nonblankLines output, isLdpSection line = false := by
  obtain ⟨hraw, readings, state, hwalk, hwalks⟩ := parseXrConfigLdp_ok h
  rw [← hraw]
  apply once_of_headings (fun _ _ _ hnext => configLdpStep_ok hnext) hwalk hwalks
  · exact fun rule hrule => bounded_configLdp hrule
  · intro line hline hheading
    rw [isLdpSection, decide_eq_true_eq] at hheading
    exact not_ignored (by decide) (by decide) hline (initial_of_eq hheading)

/-! ### IS-IS -/

def SUPPLEMENTAL_STARTS : List String :=
  ["log adjacency changes", "lsp-gen-interval maximum-wait ", "address-family ", "flex-algo ",
    "bfd minimum-interval ", "bfd multiplier ", "hello-padding disable",
    "metric-style wide level ", "mpls traffic-eng level-2-only", "segment-routing mpls",
    "metric-type delay", "advertise-definition", "fast-reroute per-prefix",
    "prefix-sid algorithm ", "prefix-sid index "]

def ISIS_STARTS : List String :=
  ["router isis ", "passive", "point-to-point", "authentication", "interface ", "is-type ", "net "]

def Begins (starts : List String) (text : String) : Prop :=
  ∃ start ∈ starts, start.toList <+: text.toList

/-- What every turn of the loop for the supplemental data is like. -/
structure SupplementalTurn (s : Supplemental) (stripped : String) (next : Step Supplemental) :
    Prop where
  goesOn : next.stop = false
  plain : next.reading.Plain
  begins : next.reading.isClaimed = true → Begins SUPPLEMENTAL_STARTS stripped
  interface : next.state.currentInterface = s.currentInterface

/-- Whatever comes of `value`, it is a turn of the loop on the line. -/
def Turns (s : Supplemental) (stripped : String)
    (value : Except ParseFailure (Step Supplemental)) : Prop :=
  ∀ next, value = .ok next → SupplementalTurn s stripped next

variable {s s' : Supplemental} {stripped start : String}

lemma turns_passed : Turns s stripped (.ok { reading := .passed, state := s }) := by
  rintro _ ⟨⟩
  exact ⟨rfl, plain_passed, nofun, rfl⟩

lemma turns_value (hbegins : Begins SUPPLEMENTAL_STARTS stripped)
    (hinterface : s'.currentInterface = s.currentInterface) :
    Turns s stripped (.ok { reading := .value, state := s' }) := by
  rintro _ ⟨⟩
  exact ⟨rfl, plain_value, fun _ => hbegins, hinterface⟩

section branch

variable {value rest : Except ParseFailure (Step Supplemental)}

lemma turns_bind {α : Type} {a : Except ParseFailure α}
    {f : α → Except ParseFailure (Step Supplemental)} (h : ∀ a, Turns s stripped (f a)) :
    Turns s stripped (a >>= f) := by
  intro next hnext
  obtain ⟨a, -, hnext⟩ := Validation.bind_eq_ok_iff.mp hnext
  exact h a next hnext

lemma turns_starts (hmem : start ∈ SUPPLEMENTAL_STARTS)
    (hvalue : Begins SUPPLEMENTAL_STARTS stripped → Turns s stripped value)
    (hrest : Turns s stripped rest) :
    Turns s stripped (if pyStartsWith stripped start = true then value else rest) := by
  split
  · rename_i hline
    exact hvalue ⟨start, hmem, initial_of_startsWith hline⟩
  · exact hrest

/-- A line that is read as a whole and begins with `start`. -/
lemma turns_eq {text : String} (hmem : start ∈ SUPPLEMENTAL_STARTS)
    (hbegins : start.toList <+: text.toList)
    (hinterface : s'.currentInterface = s.currentInterface) (hrest : Turns s stripped rest) :
    Turns s stripped
      (if stripped = text then .ok { reading := .value, state := s' } else rest) := by
  split
  · rename_i hline
    exact turns_value ⟨start, hmem, hline ▸ hbegins⟩ hinterface
  · exact hrest

end branch

@[simp] lemma change_currentInterface (s : Supplemental) (name : String)
    (f : InterfaceSupplemental → InterfaceSupplemental) :
    (s.change name f).currentInterface = s.currentInterface := rfl

@[simp] lemma setInScope_currentInterface (s : Supplemental) (key : String) (value : Value) :
    (s.setInScope key value).currentInterface = s.currentInterface := by
  unfold Supplemental.setInScope
  split
  · rfl
  · rfl
  · rfl
  · rfl

lemma globalLine_turn : Turns s stripped (globalLine numbers s stripped) := by
  unfold globalLine
  refine turns_eq (by decide) (List.prefix_refl _) rfl ?_
  refine turns_starts (by decide) (fun hline => turns_bind fun _ => turns_value hline rfl) ?_
  refine turns_starts (by decide) (fun hline => turns_value hline rfl) ?_
  refine turns_starts (by decide) (fun hline => turns_bind fun _ => turns_value hline rfl) ?_
  exact turns_passed

lemma stanzaLine_turn {name : String} : Turns s stripped (stanzaLine numbers s name stripped) := by
  unfold stanzaLine
  refine turns_starts (by decide) (fun hline => turns_bind fun _ => turns_value hline rfl) ?_
  refine turns_starts (by decide) (fun hline => turns_bind fun _ => turns_value hline rfl) ?_
  refine turns_eq (by decide) (List.prefix_refl _) rfl ?_
  refine turns_starts (by decide) (fun hline => turns_value hline rfl) ?_
  exact turns_passed

lemma scopeLine_turn : Turns s stripped (scopeLine numbers s stripped) := by
  unfold scopeLine
  split
  · refine turns_starts (by decide)
      (fun hline => turns_bind fun _ => turns_value hline (by simp)) ?_
    refine turns_eq (by decide) (List.prefix_refl _) (by simp) ?_
    refine turns_eq (by decide) (List.prefix_refl _) (by simp) ?_
    refine turns_eq (by decide) (List.prefix_refl _) (by simp) ?_
    refine turns_eq (by decide) (List.prefix_refl _) (by simp) ?_
    exact turns_passed
  · refine turns_eq (by decide) (List.prefix_refl _) (by simp) ?_
    refine turns_eq (by decide : "fast-reroute per-prefix" ∈ SUPPLEMENTAL_STARTS) (by decide)
      (by simp) ?_
    refine turns_starts (by decide) (fun hline => ?_) ?_
    · split
      · exact turns_bind fun _ => turns_bind fun _ => turns_value hline rfl
      · intro next hnext
        cases hnext
    refine turns_starts (by decide) (fun hline => turns_bind fun _ => turns_value hline rfl) ?_
    exact turns_passed

def opensStanza (line : String) : Bool :=
  decide (indent line = 1) && pyStartsWith (pyStrip line) "interface "

def inStanza (before : List String) : Bool :=
  (before.filter (fun line => decide (indent line ≤ 1))).getLast?.any opensStanza

lemma inStanza_append (before : List String) (line : String) :
    inStanza (before ++ [line]) =
      if indent line ≤ 1 then opensStanza line else inStanza before := by
  rw [inStanza, List.filter_append]
  by_cases hdepth : indent line ≤ 1
  · have hline : [line].filter (fun line => decide (indent line ≤ 1)) = [line] := by
      simp [hdepth]
    rw [if_pos hdepth, hline, List.getLast?_append]
    rfl
  · have hline : [line].filter (fun line => decide (indent line ≤ 1)) = [] := by
      simp [hdepth]
    rw [if_neg hdepth, hline, List.append_nil, inStanza]

def isStanzaFamily (line : String) : Bool :=
  decide (indent line = 2) && pyStartsWith (pyStrip line) "address-family "

def SupplementalOpen (before : List String) (s : Supplemental) : Prop :=
  inStanza before = true → s.currentInterface.isSome = true

lemma supplementalStep_turn {s : Supplemental} {line : String} {next : Step Supplemental}
    (h : supplementalStep numbers s line = .ok next) :
    next.stop = false ∧ next.reading.Plain ∧
      (next.reading.isClaimed = true → Begins SUPPLEMENTAL_STARTS (pyStrip line)) := by
  unfold supplementalStep at h
  dsimp only at h
  split at h
  · obtain rfl := Except.ok.inj h
    exact ⟨rfl, plain_passed, nofun⟩
  split at h
  · obtain rfl := Except.ok.inj h
    exact ⟨rfl, plain_passed, nofun⟩
  split at h
  · have hturn := globalLine_turn next h
    exact ⟨hturn.goesOn, hturn.plain, hturn.begins⟩
  split at h
  · have hturn := stanzaLine_turn next h
    exact ⟨hturn.goesOn, hturn.plain, hturn.begins⟩
  split at h
  · obtain rfl := Except.ok.inj h
    exact ⟨rfl, plain_passed, nofun⟩
  · have hturn := scopeLine_turn next h
    exact ⟨hturn.goesOn, hturn.plain, hturn.begins⟩

lemma supplementalStep_next {before : List String} {s : Supplemental} {line : String}
    {next : Step Supplemental} (hopen : SupplementalOpen before s)
    (h : supplementalStep numbers s line = .ok next) :
    SupplementalOpen (before ++ [line]) next.state := by
  rw [SupplementalOpen, inStanza_append]
  have hdeeper : indent line ≠ 1 → next.state.currentInterface = s.currentInterface →
      (if indent line ≤ 1 then opensStanza line else inStanza before) = true →
      next.state.currentInterface.isSome = true := by
    intro hne hsame hstanza
    rw [hsame]
    apply hopen
    by_cases hdepth : indent line ≤ 1
    · rw [if_pos hdepth, opensStanza, decide_eq_false hne] at hstanza
      cases hstanza
    · rw [if_neg hdepth] at hstanza
      exact hstanza
  unfold supplementalStep at h
  dsimp only at h
  split at h
  · rename_i hend
    obtain rfl := Except.ok.inj h
    intro hstanza
    by_cases hdepth : indent line ≤ 1
    · rw [if_pos hdepth, opensStanza, hend, Bool.and_eq_true] at hstanza
      exact absurd hstanza.2 (by decide)
    · rw [if_neg hdepth] at hstanza
      exact hopen hstanza
  split at h
  · obtain rfl := Except.ok.inj h
    exact fun _ => rfl
  split at h
  · rename_i hinterface hdepth
    intro hstanza
    rw [if_pos (Nat.le_of_eq hdepth), opensStanza, Bool.and_eq_true] at hstanza
    exact absurd ⟨hdepth, hstanza.2⟩ hinterface
  rename_i hdepth
  split at h
  · exact hdeeper hdepth (stanzaLine_turn next h).interface
  split at h
  · obtain rfl := Except.ok.inj h
    exact hdeeper hdepth rfl
  · exact hdeeper hdepth (scopeLine_turn next h).interface

lemma keeps_supplemental : Keeps (supplementalStep numbers) SupplementalOpen where
  goesOn _ _ _ _ _ h := (supplementalStep_turn h).1
  next _ _ _ _ := supplementalStep_next

lemma supplementalStep_family {s : Supplemental} {line : String} {next : Step Supplemental}
    (hfamily : isStanzaFamily line = true) (hinterface : s.currentInterface.isSome = true)
    (h : supplementalStep numbers s line = .ok next) : next.reading = .value := by
  rw [isStanzaFamily, Bool.and_eq_true, decide_eq_true_eq] at hfamily
  obtain ⟨hdepth, hstart⟩ := hfamily
  have hne : indent line ≠ 1 := by
    rw [hdepth]
    decide
  have hinitial := initial_of_startsWith hstart
  have hend : pyStrip line ≠ "!" := by
    intro hend
    rw [hend] at hstart
    exact absurd hstart (by decide)
  have hpadding : pyStrip line ≠ "hello-padding disable" := by
    intro hpadding
    rw [hpadding] at hstart
    exact absurd hstart (by decide)
  have hinterval : pyStartsWith (pyStrip line) "bfd minimum-interval " = false :=
    starts_apart hstart (by decide)
  have hmultiplier : pyStartsWith (pyStrip line) "bfd multiplier " = false :=
    starts_apart hstart (by decide)
  unfold supplementalStep at h
  dsimp only at h
  rw [if_neg hend, if_neg (fun hboth => hne hboth.1), if_neg hne, if_pos ⟨hinterface, hdepth⟩,
    stanzaLine, hinterval, hmultiplier, if_neg (by decide), if_neg (by decide), if_neg hpadding,
    if_pos hstart] at h
  obtain rfl := Except.ok.inj h
  rfl

def IsisOpen (before : List String) (s : IsisWalk) : Prop :=
  s.current.isSome = inStanza before ∧ ∀ current ∈ s.current, current.2 = 1

lemma closeAt_current {before : List String} {s : IsisWalk} (hopen : IsisOpen before s)
    (depth : Nat) :
    (s.closeAt depth).current = if depth ≤ 1 then none else s.current := by
  rw [IsisWalk.closeAt]
  cases hcurrent : s.current with
  | none =>
    rw [Option.any_none, if_neg (by decide), hcurrent, ite_self]
  | some current =>
    have hown : current.2 = 1 := hopen.2 current hcurrent
    rw [Option.any_some, hown]
    by_cases hdepth : depth ≤ 1
    · rw [if_pos (decide_eq_true hdepth), if_pos hdepth]
      rfl
    · rw [if_neg (by simpa using hdepth), if_neg hdepth, hcurrent]

structure IsisTurn (before : List String) (line : String) (next : Step IsisWalk) : Prop where
  goesOn : next.stop = false
  plain : next.reading.Plain
  isOpen : IsisOpen (before ++ [line]) next.state
  begins : next.reading.isClaimed = true →
    Begins ISIS_STARTS (pyStrip line) ∨ (isStanzaFamily line = true ∧ inStanza before = true)
  family : isStanzaFamily line = true → inStanza before = true → next.reading = .value

lemma isisOpen_deeper {before : List String} {line : String} {s s' : IsisWalk}
    (hopen : IsisOpen before s) (hdepth : ¬indent line ≤ 1)
    (hsome : s'.current.isSome = s.current.isSome) (hown : ∀ current ∈ s'.current, current.2 = 1) :
    IsisOpen (before ++ [line]) s' := by
  rw [IsisOpen, inStanza_append, if_neg hdepth, hsome]
  exact ⟨hopen.1, hown⟩

lemma isisOpen_closed {before : List String} {line : String} {s : IsisWalk}
    (hdepth : indent line ≤ 1) (hopens : opensStanza line = false) (hnone : s.current = none) :
    IsisOpen (before ++ [line]) s := by
  rw [IsisOpen, inStanza_append, if_pos hdepth, hopens, hnone]
  exact ⟨rfl, nofun⟩

lemma childLine_turn {before : List String} {s : IsisWalk} {current : IsisInterface}
    {line : String} (hopen : IsisOpen before s) (hcurrent : s.current = some (current, 1))
    (hdepth : indent line = 2) : IsisTurn before line (childLine s current 1 (pyStrip line)) := by
  have hdeeper : ¬indent line ≤ 1 := by
    rw [hdepth]
    decide
  have hkept : ∀ changed : IsisInterface,
      IsisOpen (before ++ [line]) { s with current := some (changed, 1) } := by
    intro changed
    apply isisOpen_deeper hopen hdeeper
    · rw [hcurrent]
      rfl
    · intro current' hcurrent'
      rw [← Option.some.inj hcurrent']
  have hinside : inStanza before = true := by
    rw [← hopen.1, hcurrent, Option.isSome_some]
  have hvalue : ∀ (start : String) (changed : IsisInterface), start ∈ ISIS_STARTS →
      start.toList <+: (pyStrip line).toList →
      IsisTurn before line
        { reading := .value, state := { s with current := some (changed, 1) } } := by
    intro start changed hmem hstart
    exact ⟨rfl, plain_value, hkept changed, fun _ => .inl ⟨start, hmem, hstart⟩, fun _ _ => rfl⟩
  unfold childLine
  by_cases hpassive : pyStrip line = "passive"
  · rw [if_pos hpassive]
    exact hvalue "passive" _ (by decide) (initial_of_eq hpassive)
  rw [if_neg hpassive]
  by_cases hpoint : pyStrip line = "point-to-point"
  · rw [if_pos hpoint]
    exact hvalue "point-to-point" _ (by decide) (initial_of_eq hpoint)
  rw [if_neg hpoint]
  by_cases hauthentication : pyStartsWith (pyStrip line) "authentication" = true
  · rw [if_pos hauthentication]
    exact hvalue "authentication" _ (by decide) (initial_of_startsWith hauthentication)
  rw [if_neg hauthentication]
  by_cases hfamily : pyStartsWith (pyStrip line) "address-family " = true
  · rw [if_pos hfamily]
    have hstanza : isStanzaFamily line = true := by
      rw [isStanzaFamily, decide_eq_true hdepth, hfamily]
      rfl
    exact ⟨rfl, plain_value, hkept _, fun _ => .inr ⟨hstanza, hinside⟩, fun _ _ => rfl⟩
  · rw [if_neg hfamily]
    refine ⟨rfl, plain_passed, ?_, nofun, fun hstanza => ?_⟩
    · apply isisOpen_deeper hopen hdeeper rfl hopen.2
    · rw [isStanzaFamily, Bool.and_eq_true] at hstanza
      exact absurd hstanza.2 hfamily

lemma processLine_turn {before : List String} {s : IsisWalk} {line : String}
    (hnone : s.current = none) (hdepth : indent line = 1) :
    IsisTurn before line (processLine s (pyStrip line)) := by
  have hle : indent line ≤ 1 := Nat.le_of_eq hdepth
  have hnofamily : isStanzaFamily line = false := by
    rw [isStanzaFamily, hdepth]
    rfl
  unfold processLine
  by_cases hinterface : pyStartsWith (pyStrip line) "interface " = true
  · rw [if_pos hinterface]
    refine ⟨rfl, plain_value, ?_, fun _ => .inl ?_, fun _ _ => rfl⟩
    · rw [IsisOpen, inStanza_append, if_pos hle, opensStanza, decide_eq_true hdepth, hinterface]
      refine ⟨rfl, ?_⟩
      intro current hcurrent
      rw [← Option.some.inj hcurrent]
    · exact ⟨"interface ", by decide, initial_of_startsWith hinterface⟩
  rw [if_neg hinterface]
  have hopens : opensStanza line = false := by
    rw [opensStanza, Bool.eq_false_iff.mpr hinterface, Bool.and_false]
  have hvalue : ∀ (start : String) (s' : IsisWalk), start ∈ ISIS_STARTS →
      pyStartsWith (pyStrip line) start = true → s'.current = none →
      IsisTurn before line { reading := .value, state := s' } := by
    intro start s' hmem hstart hnone'
    exact ⟨rfl, plain_value, isisOpen_closed hle hopens hnone',
      fun _ => .inl ⟨start, hmem, initial_of_startsWith hstart⟩, fun _ _ => rfl⟩
  by_cases hlevel : pyStartsWith (pyStrip line) "is-type " = true
  · rw [if_pos hlevel]
    exact hvalue "is-type " _ (by decide) hlevel hnone
  rw [if_neg hlevel]
  by_cases hnet : pyStartsWith (pyStrip line) "net " = true
  · rw [if_pos hnet]
    exact hvalue "net " _ (by decide) hnet hnone
  rw [if_neg hnet]
  by_cases hauthentication : pyStartsWith (pyStrip line) "authentication" = true
  · rw [if_pos hauthentication]
    exact hvalue "authentication" _ (by decide) hauthentication hnone
  · rw [if_neg hauthentication]
    refine ⟨rfl, plain_passed, isisOpen_closed hle hopens hnone, nofun, fun hstanza => ?_⟩
    rw [hnofamily] at hstanza
    cases hstanza

lemma configIsisStep_turn {before : List String} {s : IsisWalk} {line : String}
    {next : Step IsisWalk} (hopen : IsisOpen before s) (h : configIsisStep s line = .ok next) :
    IsisTurn before line next := by
  have hcurrent := closeAt_current hopen (indent line)
  unfold configIsisStep at h
  dsimp only at h
  by_cases hdepth : indent line ≤ 1
  · rw [if_pos hdepth] at hcurrent
    by_cases hrouter : pyStartsWith (pyStrip line) "router isis " = true
    · rw [if_pos hrouter] at h
      obtain rfl := Except.ok.inj h
      have hopens : opensStanza line = false := by
        rw [opensStanza, starts_apart hrouter (by decide), Bool.and_false]
      exact ⟨rfl, plain_value, isisOpen_closed hdepth hopens hcurrent,
        fun _ => .inl ⟨"router isis ", by decide, initial_of_startsWith hrouter⟩, fun _ _ => rfl⟩
    · rw [if_neg hrouter, hcurrent] at h
      dsimp only at h
      by_cases hone : indent line = 1
      · rw [if_pos hone] at h
        obtain rfl := Except.ok.inj h
        exact processLine_turn hcurrent hone
      · rw [if_neg hone] at h
        obtain rfl := Except.ok.inj h
        have hopens : opensStanza line = false := by
          rw [opensStanza, decide_eq_false hone, Bool.false_and]
        refine ⟨rfl, plain_passed, isisOpen_closed hdepth hopens hcurrent, nofun, fun hstanza => ?_⟩
        rw [isStanzaFamily, Bool.and_eq_true, decide_eq_true_eq] at hstanza
        rw [hstanza.1] at hdepth
        exact absurd hdepth (by decide)
  · rw [if_neg hdepth] at hcurrent
    have hsame : IsisOpen before (s.closeAt (indent line)) := by
      rw [IsisOpen, hcurrent]
      exact hopen
    have hkept : IsisOpen (before ++ [line]) (s.closeAt (indent line)) :=
      isisOpen_deeper hsame hdepth rfl hsame.2
    by_cases hrouter : pyStartsWith (pyStrip line) "router isis " = true
    · rw [if_pos hrouter] at h
      obtain rfl := Except.ok.inj h
      exact ⟨rfl, plain_value, hkept,
        fun _ => .inl ⟨"router isis ", by decide, initial_of_startsWith hrouter⟩, fun _ _ => rfl⟩
    · rw [if_neg hrouter, hcurrent] at h
      cases hs : s.current with
      | none =>
        rw [hs] at h
        dsimp only at h
        rw [if_neg (fun hone => hdepth (Nat.le_of_eq hone))] at h
        obtain rfl := Except.ok.inj h
        refine ⟨rfl, plain_passed, hkept, nofun, fun _ hinside => ?_⟩
        rw [← hopen.1, hs] at hinside
        cases hinside
      | some pair =>
        obtain ⟨current, own⟩ := pair
        obtain rfl : own = 1 := hopen.2 (current, own) hs
        rw [hs] at h
        dsimp only at h
        by_cases htwo : indent line = 1 + 1
        · rw [if_pos htwo] at h
          obtain rfl := Except.ok.inj h
          exact childLine_turn hsame (hcurrent.trans hs) htwo
        · rw [if_neg htwo] at h
          obtain rfl := Except.ok.inj h
          refine ⟨rfl, plain_passed, hkept, nofun, fun hstanza _ => ?_⟩
          rw [isStanzaFamily, Bool.and_eq_true, decide_eq_true_eq] at hstanza
          exact absurd hstanza.1 htwo

lemma keeps_isis : Keeps configIsisStep IsisOpen where
  goesOn _ _ _ _ hopen h := (configIsisStep_turn hopen h).goesOn
  next _ _ _ _ hopen h := (configIsisStep_turn hopen h).isOpen

lemma not_begins_both {starts starts' : List String} {text : String}
    (happart : ∀ a ∈ starts, ∀ b ∈ starts', Apart a.toList b.toList) (h : Begins starts text)
    (h' : Begins starts' text) : False := by
  obtain ⟨a, ha, hstart⟩ := h
  obtain ⟨b, hb, hstart'⟩ := h'
  exact (happart a ha b hb).not_both hstart hstart'

lemma both_claim_iff {before : List String} {s : Supplemental} {s' : IsisWalk} {line : String}
    {next : Step Supplemental} {next' : Step IsisWalk} (hopen : SupplementalOpen before s)
    (hopen' : IsisOpen before s') (h : supplementalStep numbers s line = .ok next)
    (h' : configIsisStep s' line = .ok next') :
    (next.reading.isClaimed = true ∧ next'.reading.isClaimed = true) ↔
      isStanzaFamily line = true ∧ inStanza before = true := by
  have hturn := configIsisStep_turn hopen' h'
  constructor
  · rintro ⟨hclaimed, hclaimed'⟩
    rcases hturn.begins hclaimed' with hbegins | hfamily
    · exact (not_begins_both (by decide) ((supplementalStep_turn h).2.2 hclaimed) hbegins).elim
    · exact hfamily
  · rintro ⟨hfamily, hinside⟩
    rw [supplementalStep_family hfamily (hopen hinside) h, hturn.family hfamily hinside]
    exact ⟨rfl, rfl⟩

def NoStanzaFamily (lines : List String) : Prop :=
  ∀ before line after, lines = before ++ line :: after → isStanzaFamily line = true →
    inStanza before = false

lemma parseXrConfigIsis_ok {output : String} (h : parseXrConfigIsis numbers output = .ok x) :
    x.raw = output ∧ ∃ readings supplemental readings' state,
      walk (supplementalStep numbers) {} (nonblankLines x.raw) = .ok (readings, supplemental) ∧
      walk configIsisStep {} (nonblankLines x.raw) = .ok (readings', state) ∧
      x.walks = [readings, readings'] := by
  rw [parseXrConfigIsis] at h
  obtain ⟨⟨readings, supplemental⟩, hwalk, h⟩ := Validation.bind_eq_ok_iff.mp h
  obtain ⟨⟨readings', state⟩, hwalk', h⟩ := Validation.bind_eq_ok_iff.mp h
  dsimp only at h
  by_cases hnone : state.process = none
  · rw [if_pos hnone] at h
    cases h
  · rw [if_neg hnone] at h
    cases h
    exact ⟨rfl, readings, supplemental, readings', state, hwalk, hwalk', rfl⟩

lemma bounded_configIsis : ∀ rule ∈ CONFIG_ISIS_IGNORES, rule.Bounded := bounded_configInterface

theorem configIsis_once_iff {output : String} (h : parseXrConfigIsis numbers output = .ok x) :
    CountsLinesOnce u headings CONFIG_ISIS_IGNORES x ↔ NoStanzaFamily (nonblankLines output) := by
  obtain ⟨hraw, readings, supplemental, readings', state, hwalk, hwalk', hwalks⟩ :=
    parseXrConfigIsis_ok h
  have hopen : SupplementalOpen [] {} := nofun
  have hopen' : IsisOpen [] {} := ⟨rfl, nofun⟩
  have hplain : ∀ r ∈ readings, r.Plain :=
    plain_walk (fun _ _ _ hnext => (supplementalStep_turn hnext).2.1) hwalk
  have hplain' : ∀ r ∈ readings', r.Plain := by
    rw [keeps_isis.forall_iff hopen' (C := fun _ _ => True) _ hwalk']
    · exact fun _ _ _ _ => trivial
    · intro before state line next hopen hnext
      exact iff_of_true (configIsisStep_turn hopen hnext).plain trivial
  have hbegins : ∀ y ∈ (nonblankLines x.raw).zip readings, y.2.isClaimed = true →
      Begins SUPPLEMENTAL_STARTS (pyStrip y.1) := by
    apply forall_walk (Q := fun line r =>
      r.isClaimed = true → Begins SUPPLEMENTAL_STARTS (pyStrip line)) _ _ hwalk
    · exact fun _ => nofun
    · exact fun _ _ _ hnext => (supplementalStep_turn hnext).2.2
  rw [once_of_two hwalks (length_walk hwalk) (length_walk hwalk') hplain hplain'
      (settled_of_bounded bounded_configIsis) ?_,
    forall_lines_zip_iff (length_walk hwalk) (length_walk hwalk'), NoStanzaFamily, ← hraw]
  · apply keeps_supplemental.forall_zip_iff keeps_isis hopen hopen' _ hwalk hwalk'
    intro before s s' line next next' hopen hopen' hnext hnext'
    rw [both_claim_iff hopen hopen' hnext hnext', not_and, Bool.not_eq_true]
  · intro y hy hclaimed _
    obtain ⟨start, hmem, hstart⟩ := hbegins (y.1, y.2.1) (mem_zip_fst hy) hclaimed
    have hclear : ∀ start ∈ SUPPLEMENTAL_STARTS,
        clearOf start.toList CONFIG_ISIS_IGNORES = true ∧ noBanner start.toList = true := by
      decide
    exact not_ignored (hclear start hmem).1 (hclear start hmem).2
      (isLine_of_mem (List.of_mem_zip hy).1) hstart

end Parsing

end NetTools
