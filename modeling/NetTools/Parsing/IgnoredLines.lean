import NetTools.Library.PatternEnds
import NetTools.Library.Trimming
import NetTools.Parsing.Blocks
import NetTools.Parsing.ConfigSections

/-!
# Which lines the rules ignore

A rule whose matches begin and end with letters asks about the stripped line only. A line that
begins with a text no rule begins with is not ignored.
-/

namespace NetTools

namespace Parsing

open Pattern SegmentRouting

variable {u : CharClasses}

def NonSpace (c : Char) : Prop := isSpaceChar c = false

instance (c : Char) : Decidable (NonSpace c) := inferInstanceAs (Decidable (_ = _))

lemma toList_pyStrip (line : String) :
    (pyStrip line).toList = Trimming.trim isSpaceChar line.toList := by
  rw [pyStrip, String.toList_ofList, Trimming.trim, List.rdropWhile]

lemma pyStrip_pyStrip (line : String) : pyStrip (pyStrip line) = pyStrip line := by
  apply String.toList_injective
  rw [toList_pyStrip, toList_pyStrip, Trimming.trim_trim]

lemma pyStrip_eq_self {line : String} (hfirst : ∃ c ∈ line.toList.head?, NonSpace c)
    (hlast : ∃ c ∈ line.toList.getLast?, NonSpace c) : pyStrip line = line := by
  apply String.toList_injective
  rw [toList_pyStrip]
  obtain ⟨c, hc, hfirst⟩ := hfirst
  obtain ⟨d, hd, hlast⟩ := hlast
  apply Trimming.trim_eq_self
  constructor
  · intro a ha
    rw [Option.mem_def, Option.mem_def.mp hc] at ha
    cases ha
    exact hfirst
  · intro a ha
    rw [Option.mem_def, Option.mem_def.mp hd] at ha
    cases ha
    exact hlast

lemma initial_pyStrip {start : List Char} {line : String} (hfirst : ∃ c ∈ start.head?, NonSpace c)
    (hlast : ∃ c ∈ start.getLast?, NonSpace c) (h : start <+: line.toList) :
    start <+: (pyStrip line).toList := by
  obtain ⟨back, hback⟩ := h
  obtain ⟨c, hc, hfirst⟩ := hfirst
  obtain ⟨d, hd, hlast⟩ := hlast
  have hne : start ≠ [] := by
    rintro rfl
    cases hc
  have htrimmed : Trimming.Trimmed isSpaceChar start := by
    constructor
    · intro a ha
      rw [Option.mem_def, Option.mem_def.mp hc] at ha
      cases ha
      exact hfirst
    · intro a ha
      rw [Option.mem_def, Option.mem_def.mp hd] at ha
      cases ha
      exact hlast
  rw [toList_pyStrip, ← hback, Trimming.trim_append hne htrimmed]
  exact List.prefix_append ..

lemma pyStrip_initial {line : String} (hfirst : ∃ c ∈ line.toList.head?, NonSpace c) :
    (pyStrip line).toList <+: line.toList := by
  obtain ⟨c, hc, hfirst⟩ := hfirst
  rw [toList_pyStrip, Trimming.trim, Trimming.dropWhile_eq_self]
  · exact List.rdropWhile_prefix ..
  · intro a ha
    rw [Option.mem_def, Option.mem_def.mp hc] at ha
    cases ha
    exact hfirst

structure IgnoreRule.Bounded (rule : IgnoreRule) : Prop where
  starts : Starts NonSpace rule.pattern
  ends : Ends NonSpace rule.pattern

lemma IgnoreRule.Bounded.applies_eq {rule : IgnoreRule} (h : rule.Bounded) {line : String}
    (hbreak : '\n' ∉ line.toList) : rule.applies line = rule.accepts (pyStrip line) := by
  rw [IgnoreRule.applies]
  by_cases haccepts : rule.accepts line = true
  · rw [pyStrip_eq_self (head_of_starts h.starts haccepts)
      (getLast_of_ends h.ends hbreak haccepts), Bool.or_self]
  · rw [Bool.eq_false_iff.mpr haccepts, Bool.false_or]

structure IsLine (line : String) : Prop where
  noBreak : '\n' ∉ line.toList
  notBlank : isBlank line = false

lemma isLine_of_mem {text line : String} (h : line ∈ nonblankLines text) : IsLine line := by
  rw [nonblankLines, List.mem_filter] at h
  exact ⟨notMem_splitLines h.1, by simpa using h.2⟩

def blankRule : List Part := [.run isSpaceChar 0 none, .stop]

lemma blankRule_none {line : String} (hline : IsLine line) :
    (matchStart blankRule line).isSome = false := by
  rw [Bool.eq_false_iff]
  intro h
  obtain ⟨way, hway⟩ := exists_way_of_matchStart h
  obtain ⟨first, hfirst, rest, hrest, -⟩ := mem_of_waysOf_cons hway
  obtain ⟨front, hcs, hfront, -⟩ := mem_ways_run hfirst
  obtain ⟨stop, hstop, -⟩ := mem_of_waysOf_cons hrest
  have hnil : first.2 = [] := by
    rw [Part.ways] at hstop
    by_cases hend : first.2 = [] ∨ first.2 = ['\n']
    · rcases hend with hnil | hbreak
      · exact hnil
      · refine absurd ?_ hline.noBreak
        rw [hcs, hbreak]
        exact List.mem_append_right _ (List.mem_singleton_self _)
    · rw [if_neg hend] at hstop
      cases hstop
  have hblank : isBlank line = true := by
    rw [isBlank, hcs, hnil, List.append_nil, List.all_eq_true]
    exact hfront
  rw [hline.notBlank] at hblank
  cases hblank

def banner (u : CharClasses) : List Part :=
  [.run u.isWord 3 (some 3), litPart " ", .run u.isWord 3 (some 3), spaces, digits u 1 none,
    litPart " ", digits u 2 (some 2), litPart ":", digits u 2 (some 2), litPart ":",
    digits u 2 (some 2), litPart ".", digits u 1 none, litPart " ", .run u.isWord 1 none, .stop]

lemma common_eq : XR_COMMON_IGNORES u = [{ pattern := blankRule }, { pattern := banner u }] := rfl

lemma nonSpace_of_word {c : Char} (h : u.isWord c = true) : NonSpace c := by
  by_contra hspace
  rw [NonSpace, Bool.not_eq_false] at hspace
  rw [u.word_not_space c hspace] at h
  cases h

lemma nonSpace_of_digit {c : Char} (h : u.isDigit c = true) : NonSpace c :=
  nonSpace_of_word (u.word_of_digit c h)

lemma bounded_banner : ({ pattern := banner u } : IgnoreRule).Bounded where
  starts := ⟨by decide, fun _ => nonSpace_of_word⟩
  ends := by
    have hlast : (Part.run u.isWord 1 none).Trails NonSpace :=
      ⟨by decide, fun _ => nonSpace_of_word⟩
    simpa [Ends, banner] using hlast

lemma applies_common {line : String} (hline : IsLine line) {rule : IgnoreRule}
    (hrule : rule ∈ XR_COMMON_IGNORES u) : rule.applies line = rule.accepts (pyStrip line) := by
  rw [common_eq, List.mem_cons, List.mem_singleton] at hrule
  rcases hrule with rfl | rfl
  · rw [IgnoreRule.applies, IgnoreRule.accepts, blankRule_none hline, Bool.false_or]
  · exact bounded_banner.applies_eq hline.noBreak

lemma trails_words : words.Trails NonSpace := by
  refine ⟨by decide, ?_⟩
  intro c hc
  simpa [NonSpace] using hc

lemma trails_number : (number u).Trails NonSpace := ⟨by decide, fun _ => nonSpace_of_digit⟩

lemma bounded_blockEnd : blockEnd.Bounded := ⟨⟨_, rfl, by decide⟩, ⟨_, rfl, by decide⟩⟩

lemma bounded_dashes : ({ pattern := [.run (· = '-') 1 none, .stop] } : IgnoreRule).Bounded := by
  have hdash : ∀ c : Char, decide (c = '-') = true → NonSpace c := by
    intro c hc
    rw [of_decide_eq_true hc]
    decide
  exact ⟨⟨by decide, hdash⟩, ⟨by decide, hdash⟩⟩

def builtOn : IgnoreRule := { pattern := buildField "Built On" anything }

lemma bounded_facts {rule : IgnoreRule} (hrule : rule ∈ FACTS_IGNORES u) (hne : rule ≠ builtOn) :
    rule.Bounded := by
  simp only [FACTS_IGNORES, List.mem_cons, List.not_mem_nil, or_false] at hrule
  rcases hrule with rfl | rfl | rfl | rfl | rfl | rfl | rfl | rfl | rfl | rfl
  · exact ⟨⟨_, rfl, by decide⟩, ⟨_, rfl, by decide⟩⟩
  · exact ⟨⟨_, rfl, by decide⟩, ⟨_, rfl, by decide⟩⟩
  · exact ⟨⟨_, rfl, by decide⟩, trails_words⟩
  · exact absurd rfl hne
  · exact ⟨⟨_, rfl, by decide⟩, trails_words⟩
  · exact ⟨⟨_, rfl, by decide⟩, trails_words⟩
  · exact ⟨⟨_, rfl, by decide⟩, trails_words⟩
  · exact ⟨⟨_, rfl, by decide⟩, trails_words⟩
  · exact ⟨⟨_, rfl, by decide⟩, ⟨_, rfl, by decide⟩⟩
  · exact ⟨⟨_, rfl, by decide⟩, ⟨_, rfl, by decide⟩⟩

lemma bounded_interfaces {rule : IgnoreRule} (hrule : rule ∈ INTERFACES_IGNORES) :
    rule.Bounded := by
  simp only [INTERFACES_IGNORES, List.mem_cons, List.not_mem_nil, or_false] at hrule
  rcases hrule with rfl | rfl | rfl
  · exact ⟨⟨_, rfl, by decide⟩, ⟨_, rfl, by decide⟩⟩
  · exact ⟨⟨_, rfl, by decide⟩, ⟨_, rfl, by decide⟩⟩
  · exact bounded_dashes

lemma bounded_bgp {tableId : List Part} (htable : ({ pattern := tableId } : IgnoreRule).Bounded)
    {rule : IgnoreRule} (hrule : rule ∈ bgpIgnores u tableId) : rule.Bounded := by
  simp only [bgpIgnores, List.mem_cons, List.not_mem_nil, or_false] at hrule
  rcases hrule with rfl | rfl | rfl | rfl | rfl | rfl | rfl | rfl | rfl | rfl | rfl | rfl
  · exact ⟨⟨_, rfl, by decide⟩, ⟨_, rfl, by decide⟩⟩
  · exact ⟨⟨_, rfl, by decide⟩, ⟨_, rfl, by decide⟩⟩
  · exact htable
  · exact ⟨⟨_, rfl, by decide⟩, ⟨_, rfl, by decide⟩⟩
  · exact ⟨⟨_, rfl, by decide⟩, trails_number⟩
  · exact ⟨⟨_, rfl, by decide⟩, ⟨_, rfl, by decide⟩⟩
  · exact ⟨⟨_, rfl, by decide⟩, trails_words⟩
  · exact ⟨⟨_, rfl, by decide⟩, ⟨_, rfl, by decide⟩⟩
  · exact ⟨⟨_, rfl, by decide⟩, ⟨_, rfl, by decide⟩⟩
  · exact ⟨⟨_, rfl, by decide⟩, ⟨_, rfl, by decide⟩⟩
  · exact ⟨⟨_, rfl, by decide⟩, trails_number⟩
  · exact ⟨⟨_, rfl, by decide⟩, ⟨_, rfl, by decide⟩⟩

lemma bounded_lldp {rule : IgnoreRule} (hrule : rule ∈ LLDP_IGNORES) : rule.Bounded := by
  simp only [LLDP_IGNORES, List.mem_cons, List.not_mem_nil, or_false] at hrule
  rcases hrule with rfl | rfl | rfl | rfl
  · exact ⟨⟨_, rfl, by decide⟩, ⟨_, rfl, by decide⟩⟩
  · exact ⟨⟨_, rfl, by decide⟩, ⟨_, rfl, by decide⟩⟩
  · exact ⟨⟨_, rfl, by decide⟩, ⟨_, rfl, by decide⟩⟩
  · exact ⟨⟨_, rfl, by decide⟩, ⟨_, rfl, by decide⟩⟩

lemma bounded_isis {rule : IgnoreRule} (hrule : rule ∈ ISIS_IGNORES) : rule.Bounded := by
  rw [ISIS_IGNORES, List.mem_singleton] at hrule
  rw [hrule]
  exact ⟨⟨_, rfl, by decide⟩, ⟨_, rfl, by decide⟩⟩

def forwardClass : IgnoreRule := { pattern := valueLine "Forward Class: " anything }

lemma bounded_sr {rule : IgnoreRule} (hrule : rule ∈ SR_IGNORES u) (hne : rule ≠ forwardClass) :
    rule.Bounded := by
  simp only [SR_IGNORES, SegmentRouting.SR_IGNORES, List.map_cons, List.map_nil, List.mem_cons,
    List.not_mem_nil, or_false] at hrule
  rcases hrule with rfl | rfl | rfl | rfl | rfl | rfl | rfl | rfl | rfl | rfl | rfl | rfl | rfl |
    rfl | rfl | rfl | rfl
  · exact ⟨⟨_, rfl, by decide⟩, ⟨_, rfl, by decide⟩⟩
  · exact bounded_dashes
  · exact ⟨⟨_, rfl, by decide⟩, ⟨_, rfl, by decide⟩⟩
  · exact ⟨⟨_, rfl, by decide⟩, ⟨_, rfl, by decide⟩⟩
  · exact ⟨⟨_, rfl, by decide⟩, trails_words⟩
  · exact ⟨⟨_, rfl, by decide⟩, ⟨_, rfl, by decide⟩⟩
  · exact ⟨⟨_, rfl, by decide⟩, trails_words⟩
  · exact ⟨⟨_, rfl, by decide⟩, trails_number⟩
  · exact ⟨⟨_, rfl, by decide⟩, trails_words⟩
  · exact ⟨⟨_, rfl, by decide⟩, trails_number⟩
  · exact ⟨⟨_, rfl, by decide⟩, ⟨_, rfl, by decide⟩⟩
  · exact absurd rfl hne
  · exact ⟨⟨_, rfl, by decide⟩, trails_words⟩
  · exact ⟨⟨_, rfl, by decide⟩, trails_words⟩
  · exact ⟨⟨_, rfl, by decide⟩, trails_words⟩
  · exact ⟨⟨_, rfl, by decide⟩, trails_words⟩
  · exact ⟨⟨_, rfl, by decide⟩, trails_number⟩

lemma bounded_configLdp {rule : IgnoreRule} (hrule : rule ∈ CONFIG_LDP_IGNORES) :
    rule.Bounded := by
  simp only [CONFIG_LDP_IGNORES, List.mem_cons, List.not_mem_nil, or_false] at hrule
  rcases hrule with rfl | rfl
  · refine ⟨⟨_, rfl, by decide⟩, ?_⟩
    have hfamily : (Part.oneOf ["ipv4".toList, "ipv6".toList]).Trails NonSpace := by
      intro choice hchoice
      rw [List.mem_cons, List.mem_singleton] at hchoice
      rcases hchoice with rfl | rfl
      · exact ⟨_, rfl, by decide⟩
      · exact ⟨_, rfl, by decide⟩
    exact hfamily
  · exact bounded_blockEnd

lemma three_of_run {cs : List Char} {way : Captures × List Char} {cls : Char → Bool}
    (h : way ∈ (Part.run cls 3 (some 3)).ways cs) : ∃ a b c, cs = a :: b :: c :: way.2 := by
  obtain ⟨front, hcs, -, hleast, hmost⟩ := mem_ways_run h
  have hlength : front.length = 3 := Nat.le_antisymm (hmost 3 rfl) hleast
  obtain ⟨a, b, c, rfl⟩ := List.length_eq_three.mp hlength
  exact ⟨a, b, c, hcs⟩

lemma spaces_of_banner {text : String} (h : (matchStart (banner u) text).isSome = true) :
    text.toList[3]? = some ' ' ∧ ∃ c, text.toList[7]? = some c ∧ isSpaceChar c = true := by
  obtain ⟨way, hway⟩ := exists_way_of_matchStart h
  obtain ⟨day, hday, rest, hrest, -⟩ := mem_of_waysOf_cons hway
  obtain ⟨gap, hgap, rest, hrest, -⟩ := mem_of_waysOf_cons hrest
  obtain ⟨month, hmonth, rest, hrest, -⟩ := mem_of_waysOf_cons hrest
  obtain ⟨white, hwhite, -⟩ := mem_of_waysOf_cons hrest
  obtain ⟨a, b, c, hcs⟩ := three_of_run hday
  have hspace := mem_ways_lit hgap
  obtain ⟨d, e, f, hcs'⟩ := three_of_run hmonth
  obtain ⟨front, hfront, hall, hleast, -⟩ := mem_ways_run hwhite
  have htext : text.toList = [a, b, c, ' ', d, e, f] ++ (front ++ white.2) := by
    rw [hcs, hspace, hcs', hfront]
    rfl
  cases front with
  | nil => exact absurd hleast (by decide)
  | cons s front =>
    rw [htext]
    exact ⟨rfl, s, rfl, hall s List.mem_cons_self⟩

def noBanner (start : List Char) : Bool :=
  start[3]?.any (· ≠ ' ') || start[7]?.any (fun c => !isSpaceChar c)

def clearOf (start : List Char) (rules : List IgnoreRule) : Bool :=
  rules.all (fun rule =>
    (leadingText rule.pattern).head?.any (fun c => !isSpaceChar c) &&
      decide (Apart (leadingText rule.pattern) start))

lemma banner_none {start : List Char} (hbanner : noBanner start = true) {text : String}
    (hstart : start <+: text.toList) : (matchStart (banner u) text).isSome = false := by
  rw [Bool.eq_false_iff]
  intro h
  obtain ⟨hthird, c, hseventh, hspace⟩ := spaces_of_banner h
  obtain ⟨back, hback⟩ := hstart
  have hget : ∀ (i : Nat) (d : Char), start[i]? = some d → text.toList[i]? = some d := by
    intro i d hi
    have hlt : i < start.length := (List.getElem?_eq_some_iff.mp hi).1
    rw [← hback, List.getElem?_append_left hlt]
    exact hi
  rw [noBanner, Bool.or_eq_true, Option.any_eq_true, Option.any_eq_true] at hbanner
  rcases hbanner with ⟨d, hd, hne⟩ | ⟨d, hd, hne⟩
  · rw [hget 3 d hd, Option.some_inj] at hthird
    rw [hthird] at hne
    exact absurd hne (by decide)
  · rw [hget 7 d hd, Option.some_inj] at hseventh
    rw [hseventh, hspace] at hne
    cases hne

theorem not_ignored_of {start : List Char} {rules : List IgnoreRule} {line : String}
    (hrules : ∀ rule ∈ rules, rule.applies line = false) (hbanner : noBanner start = true)
    (hline : IsLine line) (hstart : start <+: (pyStrip line).toList) :
    (XR_COMMON_IGNORES u ++ rules).any (fun rule => rule.applies line) = false := by
  rw [List.any_eq_false]
  intro rule hrule
  rw [Bool.not_eq_true]
  rcases List.mem_append.mp hrule with hcommon | hrule
  · rw [applies_common hline hcommon]
    rw [common_eq, List.mem_cons, List.mem_singleton] at hcommon
    rcases hcommon with rfl | rfl
    · apply blankRule_none
      refine ⟨fun hmem => hline.noBreak (subset_pyStrip line hmem), ?_⟩
      rw [Bool.eq_false_iff, Ne, isBlank_iff_strip, pyStrip_pyStrip, ← isBlank_iff_strip,
        hline.notBlank]
      decide
    · exact banner_none hbanner hstart
  · exact hrules rule hrule

lemma not_applies_of_clear {start : List Char} {rule : IgnoreRule}
    (hclear : clearOf start [rule] = true) {line : String}
    (hstart : start <+: (pyStrip line).toList) : rule.applies line = false := by
  rw [clearOf, List.all_cons, List.all_nil, Bool.and_true, Bool.and_eq_true, decide_eq_true_eq,
    Option.any_eq_true] at hclear
  obtain ⟨⟨c, hc, hletter⟩, hapart⟩ := hclear
  have hletter : NonSpace c := by simpa [NonSpace] using hletter
  rw [IgnoreRule.applies, Bool.or_eq_false_iff]
  constructor
  · rw [Bool.eq_false_iff]
    intro haccepts
    have hlead := leadingText_of_matchStart haccepts
    have hfirst : ∃ c ∈ line.toList.head?, NonSpace c := by
      obtain ⟨back, hback⟩ := hlead
      refine ⟨c, ?_, hletter⟩
      rw [← hback, Option.mem_def, List.head?_append, Option.mem_def.mp hc]
      rfl
    exact hapart.not_both hlead (hstart.trans (pyStrip_initial hfirst))
  · rw [Bool.eq_false_iff]
    intro haccepts
    exact hapart.not_both (leadingText_of_matchStart haccepts) hstart

theorem not_ignored {start : List Char} {rules : List IgnoreRule}
    (hclear : clearOf start rules = true) (hbanner : noBanner start = true) {line : String}
    (hline : IsLine line) (hstart : start <+: (pyStrip line).toList) :
    (XR_COMMON_IGNORES u ++ rules).any (fun rule => rule.applies line) = false := by
  apply not_ignored_of _ hbanner hline hstart
  intro rule hrule
  apply not_applies_of_clear _ hstart
  have hone := List.all_eq_true.mp hclear rule hrule
  rw [clearOf, List.all_cons, List.all_nil, Bool.and_true]
  exact hone

end Parsing

end NetTools
