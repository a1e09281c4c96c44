import NetTools.Library.Pattern

/-!
# Where a match begins and ends

What the first and the last letter of a text are that a pattern matches to its end. Two patterns
that begin with different texts match no text both.
-/

namespace Pattern

variable {P : Char → Prop}

/-- A part reads a letter, and the first one satisfies `P`. -/
def Part.Leads (P : Char → Prop) : Part → Prop
  | .lit text => ∃ c ∈ text.head?, P c
  | .run cls least _ => 0 < least ∧ ∀ c, cls c = true → P c
  | _ => False

/-- A part reads a letter, and the last one satisfies `P`. -/
def Part.Trails (P : Char → Prop) : Part → Prop
  | .lit text => ∃ c ∈ text.getLast?, P c
  | .run cls least _ => 0 < least ∧ ∀ c, cls c = true → P c
  | .oneOf choices => ∀ choice ∈ choices, ∃ c ∈ choice.getLast?, P c
  | _ => False

def Starts (P : Char → Prop) : List Part → Prop
  | [] => False
  | part :: _ => part.Leads P

/-- The pattern goes to the end of the text, and the part before the end trails. -/
def Ends (P : Char → Prop) : List Part → Prop
  | [] => False
  | part :: parts =>
    match parts with
    | [.stop] => part.Trails P
    | _ => Ends P parts

/-! ### What a part leaves -/

mutual

lemma Part.within_true : ∀ part : Part, part.Within (fun _ => True)
  | .lit _ => fun _ _ => trivial
  | .run _ _ _ => fun _ _ => trivial
  | .oneOf _ => fun _ _ _ _ => trivial
  | .group _ parts => within_true parts
  | .opt parts => within_true parts
  | .stop => trivial

lemma within_true : ∀ parts : List Part, Within (fun _ => True) parts
  | [] => trivial
  | part :: parts => ⟨part.within_true, within_true parts⟩

end

lemma Part.exists_front {part : Part} {cs : List Char} {way : Captures × List Char}
    (h : way ∈ part.ways cs) : ∃ front, cs = front ++ way.2 := by
  obtain ⟨front, hfront, -⟩ := Part.consumed part part.within_true cs way h
  exact ⟨front, hfront⟩

lemma mem_of_waysOf_cons {part : Part} {parts : List Part} {cs : List Char}
    {way : Captures × List Char} (h : way ∈ waysOf (part :: parts) cs) :
    ∃ first ∈ part.ways cs, ∃ rest ∈ waysOf parts first.2, way.2 = rest.2 := by
  rw [waysOf, List.mem_flatMap] at h
  obtain ⟨first, hfirst, h⟩ := h
  obtain ⟨rest, hrest, rfl⟩ := List.mem_map.mp h
  exact ⟨first, hfirst, rest, hrest, rfl⟩

lemma mem_ways_lit {text cs : List Char} {way : Captures × List Char}
    (h : way ∈ (Part.lit text).ways cs) : cs = text ++ way.2 := by
  rw [Part.ways] at h
  by_cases hinitial : text <+: cs
  · rw [if_pos hinitial, List.mem_singleton] at h
    obtain ⟨back, rfl⟩ := hinitial
    rw [h, List.drop_left]
  · rw [if_neg hinitial] at h
    cases h

lemma mem_ways_run {cls : Char → Bool} {least : Nat} {most : Option Nat} {cs : List Char}
    {way : Captures × List Char} (h : way ∈ (Part.run cls least most).ways cs) :
    ∃ front, cs = front ++ way.2 ∧ (∀ c ∈ front, cls c = true) ∧ least ≤ front.length ∧
      ∀ n ∈ most, front.length ≤ n := by
  rw [Part.ways, List.mem_map] at h
  obtain ⟨n, hn, rfl⟩ := h
  rw [List.mem_filter, List.mem_reverse, List.mem_range, decide_eq_true_eq] at hn
  have hreach : n ≤ reach cls most cs := Nat.le_of_lt_succ hn.1
  have htake : n ≤ (cs.takeWhile cls).length := by
    refine hreach.trans ?_
    cases most with
    | none => exact Nat.le_refl _
    | some most => exact Nat.min_le_right _ _
  have hlength : (cs.take n).length = n :=
    List.length_take_of_le (htake.trans (List.takeWhile_sublist cls).length_le)
  refine ⟨cs.take n, (List.take_append_drop n cs).symm, ?_, hlength.symm ▸ hn.2, ?_⟩
  · intro c hc
    have hcut : cs.take n = (cs.takeWhile cls).take n := by
      conv_lhs => rw [← List.takeWhile_append_dropWhile (p := cls) (l := cs)]
      exact List.take_append_of_le_length htake
    rw [hcut] at hc
    exact List.mem_takeWhile_imp (List.mem_of_mem_take hc)
  · intro k hk
    rw [Option.mem_def] at hk
    rw [hlength]
    rw [hk] at hreach
    exact hreach.trans (Nat.min_le_left _ _)

lemma mem_ways_oneOf {choices : List (List Char)} {cs : List Char} {way : Captures × List Char}
    (h : way ∈ (Part.oneOf choices).ways cs) : ∃ choice ∈ choices, cs = choice ++ way.2 := by
  rw [Part.ways, List.mem_map] at h
  obtain ⟨choice, hchoice, rfl⟩ := h
  rw [List.mem_filter, decide_eq_true_eq] at hchoice
  obtain ⟨back, rfl⟩ := hchoice.2
  exact ⟨choice, hchoice.1, by rw [List.drop_left]⟩

lemma mem_ways_group {name : String} {part : Part} {cs : List Char} {way : Captures × List Char}
    (h : way ∈ (Part.group name [part]).ways cs) : ∃ way' ∈ part.ways cs, way.2 = way'.2 := by
  rw [Part.ways, List.mem_map] at h
  obtain ⟨inner, hinner, rfl⟩ := h
  obtain ⟨first, hfirst, rest, hrest, heq⟩ := mem_of_waysOf_cons hinner
  rw [waysOf, List.mem_singleton] at hrest
  rw [hrest] at heq
  exact ⟨first, hfirst, heq⟩

lemma Part.head_of_leads {part : Part} (hpart : part.Leads P) {cs : List Char}
    {way : Captures × List Char} (h : way ∈ part.ways cs) : ∃ c ∈ cs.head?, P c := by
  cases part with
  | lit text =>
    obtain ⟨c, hc, hP⟩ := hpart
    have hcs := mem_ways_lit h
    cases text with
    | nil => cases hc
    | cons a as =>
      rw [hcs]
      exact ⟨c, hc, hP⟩
  | run cls least most =>
    obtain ⟨front, hcs, hfront, hleast, -⟩ := mem_ways_run h
    cases front with
    | nil => exact absurd hpart.1 (Nat.not_lt.mpr hleast)
    | cons a as =>
      rw [hcs]
      exact ⟨a, rfl, hpart.2 a (hfront a List.mem_cons_self)⟩
  | oneOf choices => exact hpart.elim
  | group name parts => exact hpart.elim
  | opt parts => exact hpart.elim
  | stop => exact hpart.elim

lemma Part.last_of_trails {part : Part} (hpart : part.Trails P) {cs : List Char}
    {way : Captures × List Char} (h : way ∈ part.ways cs) :
    ∃ front, cs = front ++ way.2 ∧ ∃ c ∈ front.getLast?, P c := by
  cases part with
  | lit text => exact ⟨text, mem_ways_lit h, hpart⟩
  | run cls least most =>
    obtain ⟨front, hcs, hfront, hleast, -⟩ := mem_ways_run h
    have hne : front ≠ [] := by
      rintro rfl
      exact absurd hpart.1 (Nat.not_lt.mpr hleast)
    refine ⟨front, hcs, front.getLast hne, List.getLast?_eq_getLast_of_ne_nil hne, ?_⟩
    exact hpart.2 _ (hfront _ (List.getLast_mem hne))
  | oneOf choices =>
    obtain ⟨choice, hchoice, hcs⟩ := mem_ways_oneOf h
    exact ⟨choice, hcs, hpart choice hchoice⟩
  | group name parts => exact hpart.elim
  | opt parts => exact hpart.elim
  | stop => exact hpart.elim

lemma exists_way_of_matchStart {parts : List Part} {text : String}
    (h : (matchStart parts text).isSome = true) : ∃ way, way ∈ waysOf parts text.toList := by
  rw [matchStart, Option.isSome_map, List.isSome_head?] at h
  exact List.exists_mem_of_ne_nil _ (by simpa using h)

theorem head_of_starts {parts : List Part} (hparts : Starts P parts) {text : String}
    (h : (matchStart parts text).isSome = true) : ∃ c ∈ text.toList.head?, P c := by
  obtain ⟨way, hway⟩ := exists_way_of_matchStart h
  cases parts with
  | nil => exact hparts.elim
  | cons part parts =>
    obtain ⟨first, hfirst, -⟩ := mem_of_waysOf_cons hway
    exact Part.head_of_leads hparts hfirst

lemma getLast_of_ends_ways {parts : List Part} (hparts : Ends P parts) {cs : List Char}
    (hbreak : '\n' ∉ cs) {way : Captures × List Char} (h : way ∈ waysOf parts cs) :
    ∃ c ∈ cs.getLast?, P c := by
  induction parts generalizing cs way with
  | nil => exact hparts.elim
  | cons part parts ih =>
    obtain ⟨first, hfirst, rest, hrest, -⟩ := mem_of_waysOf_cons h
    unfold Ends at hparts
    split at hparts
    · -- nothing follows the last part
      obtain ⟨front, hcs, c, hc, hP⟩ := Part.last_of_trails hparts hfirst
      obtain ⟨stop, hstop, -⟩ := mem_of_waysOf_cons hrest
      have hnil : first.2 = [] := by
        rw [Part.ways] at hstop
        by_cases hend : first.2 = [] ∨ first.2 = ['\n']
        · rcases hend with hnil | hbreak'
          · exact hnil
          · rw [hcs, hbreak', List.mem_append] at hbreak
            exact absurd (.inr (List.mem_singleton_self _)) hbreak
        · rw [if_neg hend] at hstop
          cases hstop
      rw [hcs, hnil, List.append_nil]
      exact ⟨c, hc, hP⟩
    · obtain ⟨front, hcs⟩ := Part.exists_front hfirst
      have hbreak' : '\n' ∉ first.2 := by
        intro hmem
        apply hbreak
        rw [hcs]
        exact List.mem_append_right _ hmem
      obtain ⟨c, hc, hP⟩ := ih hparts hbreak' hrest
      refine ⟨c, ?_, hP⟩
      rw [hcs, Option.mem_def, List.getLast?_append, Option.mem_def.mp hc]
      rfl

theorem getLast_of_ends {parts : List Part} (hparts : Ends P parts) {text : String}
    (hbreak : '\n' ∉ text.toList) (h : (matchStart parts text).isSome = true) :
    ∃ c ∈ text.toList.getLast?, P c := by
  obtain ⟨way, hway⟩ := exists_way_of_matchStart h
  exact getLast_of_ends_ways hparts hbreak hway

def leadingText : List Part → List Char
  | .lit text :: _ => text
  | _ => []

def Apart (a b : List Char) : Prop := ¬a <+: b ∧ ¬b <+: a

instance (a b : List Char) : Decidable (Apart a b) := inferInstanceAs (Decidable (_ ∧ _))

lemma Apart.not_both {a b l : List Char} (h : Apart a b) (ha : a <+: l) (hb : b <+: l) : False := by
  rcases List.prefix_or_prefix_of_prefix ha hb with hab | hba
  · exact h.1 hab
  · exact h.2 hba

lemma leadingText_of_matchStart {parts : List Part} {text : String}
    (h : (matchStart parts text).isSome = true) : leadingText parts <+: text.toList := by
  cases parts with
  | nil => exact List.nil_prefix
  | cons part parts =>
    cases part with
    | lit start => exact starts_of_matchStart h
    | run cls least most => exact List.nil_prefix
    | oneOf choices => exact List.nil_prefix
    | group name parts => exact List.nil_prefix
    | opt parts => exact List.nil_prefix
    | stop => exact List.nil_prefix

def rests (parts : List Part) (cs : List Char) : List (List Char) := (waysOf parts cs).map Prod.snd

lemma mem_rests_nil {cs rest : List Char} : rest ∈ rests [] cs ↔ rest = cs := by
  rw [rests, waysOf, List.map_singleton, List.mem_singleton]

lemma rests_cons (part : Part) (parts : List Part) (cs : List Char) :
    rests (part :: parts) cs = (part.ways cs).flatMap (fun way => rests parts way.2) := by
  rw [rests, waysOf, List.map_flatMap]
  simp only [List.map_map, Function.comp_def, rests]

lemma way_of_run {cls : Char → Bool} {least : Nat} {most : Option Nat} {front mid : List Char}
    (hfront : ∀ c ∈ front, cls c = true) (hleast : least ≤ front.length)
    (hmost : ∀ n ∈ most, front.length ≤ n) :
    ([], mid) ∈ (Part.run cls least most).ways (front ++ mid) := by
  rw [Part.ways, List.mem_map]
  refine ⟨front.length, ?_, by rw [List.drop_left]⟩
  rw [List.mem_filter, List.mem_reverse, List.mem_range, decide_eq_true_eq]
  refine ⟨Nat.lt_succ_of_le ?_, hleast⟩
  have hlength : front.length ≤ ((front ++ mid).takeWhile cls).length := by
    rw [List.takeWhile_append_of_pos hfront, List.length_append]
    exact Nat.le_add_right _ _
  cases most with
  | none => exact hlength
  | some n => exact Nat.le_min.mpr ⟨hmost n rfl, hlength⟩

lemma mem_rests_run {cls : Char → Bool} {least : Nat} {most : Option Nat} {parts : List Part}
    {cs rest : List Char} : rest ∈ rests (.run cls least most :: parts) cs ↔
      ∃ front mid, cs = front ++ mid ∧ (∀ c ∈ front, cls c = true) ∧ least ≤ front.length ∧
        (∀ n ∈ most, front.length ≤ n) ∧ rest ∈ rests parts mid := by
  rw [rests_cons, List.mem_flatMap]
  constructor
  · rintro ⟨way, hway, hrest⟩
    obtain ⟨front, hcs, hfront, hleast, hmost⟩ := mem_ways_run hway
    exact ⟨front, way.2, hcs, hfront, hleast, hmost, hrest⟩
  · rintro ⟨front, mid, rfl, hfront, hleast, hmost, hrest⟩
    exact ⟨_, way_of_run hfront hleast hmost, hrest⟩

lemma mem_rests_lit {text : List Char} {parts : List Part} {cs rest : List Char} :
    rest ∈ rests (.lit text :: parts) cs ↔ ∃ mid, cs = text ++ mid ∧ rest ∈ rests parts mid := by
  rw [rests_cons, List.mem_flatMap]
  constructor
  · rintro ⟨way, hway, hrest⟩
    exact ⟨way.2, mem_ways_lit hway, hrest⟩
  · rintro ⟨mid, rfl, hrest⟩
    refine ⟨([], mid), ?_, hrest⟩
    rw [Part.ways, if_pos (List.prefix_append text mid), List.drop_left, List.mem_singleton]

lemma pairwise_ways_run (cls : Char → Bool) (least : Nat) (most : Option Nat) (cs : List Char) :
    ((Part.run cls least most).ways cs).Pairwise (fun way way' => way.2.length < way'.2.length) := by
  have hreach : reach cls most cs ≤ cs.length := by
    have htake := (List.takeWhile_sublist (l := cs) cls).length_le
    cases most with
    | none => exact htake
    | some n => exact (Nat.min_le_right _ _).trans htake
  rw [Part.ways, List.pairwise_map]
  apply List.Pairwise.filter
  rw [List.pairwise_reverse]
  refine List.Pairwise.imp_of_mem ?_ (List.pairwise_lt_range (n := reach cls most cs + 1))
  intro n n' hn hn' hlt
  rw [List.mem_range] at hn hn'
  rw [List.length_drop, List.length_drop]
  omega

/-- A name is found in a text that is read from the left: where one begins, the reading goes on after
it. -/
inductive Found (Begins : Option Char → List Char → List Char → Prop) (name : List Char) :
    Option Char → List Char → Prop
  | here {before : Option Char} {after : List Char} (hname : Begins before name after) :
      Found Begins name before (name ++ after)
  | past {before : Option Char} {other after : List Char} (hother : Begins before other after)
      (hrest : Found Begins name other.getLast? after) : Found Begins name before (other ++ after)
  | skip {before : Option Char} {c : Char} {cs : List Char}
      (hnone : ∀ other after, c :: cs = other ++ after → ¬Begins before other after)
      (hrest : Found Begins name (some c) cs) : Found Begins name before (c :: cs)

section Finds

variable {isWord : Char → Bool} {ways : List Char → List (List Char)}
  {Begins : Option Char → List Char → List Char → Prop} {name : List Char}

lemma findAll_skip (n : Nat) (before : Option Char) (cs : List Char) :
    findAll isWord ways n before cs =
      findAll isWord ways 0 ((cs.take n).getLast?.or before) (cs.drop n) := by
  induction n generalizing before cs with
  | zero => rfl
  | succ n ih =>
    cases cs with
    | nil => rfl
    | cons c cs =>
      rw [findAll, ih, List.take_succ_cons, List.drop_succ_cons, List.getLast?_cons]
      cases (cs.take n).getLast? <;> rfl

lemma found_iff {before : Option Char} {cs : List Char} : Found Begins name before cs ↔
    (∃ after, cs = name ++ after ∧ Begins before name after) ∨
      (∃ other after, cs = other ++ after ∧ Begins before other after ∧
        Found Begins name other.getLast? after) ∨
      ∃ c rest, cs = c :: rest ∧ (∀ other after, cs = other ++ after → ¬Begins before other after) ∧
        Found Begins name (some c) rest := by
  constructor
  · intro h
    cases h with
    | here hname => exact .inl ⟨_, rfl, hname⟩
    | past hother hrest => exact .inr (.inl ⟨_, _, rfl, hother, hrest⟩)
    | skip hnone hrest => exact .inr (.inr ⟨_, _, rfl, hnone, hrest⟩)
  · rintro (⟨after, rfl, hname⟩ | ⟨other, after, rfl, hother, hrest⟩ | ⟨c, rest, rfl, hnone, hrest⟩)
    · exact .here hname
    · exact .past hother hrest
    · exact .skip hnone hrest

lemma wordMatch_cases (hmatch : ∀ before name after,
      wordMatch isWord ways before (name ++ after) = some name.length ↔ Begins before name after)
    (hne : ∀ before name after, Begins before name after → name ≠ [])
    (before : Option Char) (c : Char) (cs : List Char) :
    (∃ other after, c :: cs = other ++ after ∧ Begins before other after ∧
        findAll isWord ways 0 before (c :: cs) =
          other :: findAll isWord ways 0 other.getLast? after) ∨
      (∀ other after, c :: cs = other ++ after → ¬Begins before other after) ∧
        findAll isWord ways 0 before (c :: cs) = findAll isWord ways 0 (some c) cs := by
  have hbegins : ∀ other after, c :: cs = other ++ after → Begins before other after →
      wordMatch isWord ways before (c :: cs) = some other.length := by
    intro other after hcs hother
    rw [hcs]
    exact (hmatch before other after).mpr hother
  cases h : wordMatch isWord ways before (c :: cs) with
  | none =>
    right
    refine ⟨?_, by rw [findAll, h]⟩
    intro other after hcs hother
    rw [hbegins other after hcs hother] at h
    cases h
  | some n =>
    have hlength : n ≤ (c :: cs).length := by
      unfold wordMatch at h
      split at h
      · obtain ⟨rest, -, hn⟩ := Option.map_eq_some_iff.mp h
        omega
      · cases h
    have hother : Begins before ((c :: cs).take n) ((c :: cs).drop n) := by
      rw [← hmatch, List.take_append_drop, h, List.length_take_of_le hlength]
    cases n with
    | zero => exact absurd rfl (hne _ _ _ hother)
    | succ n =>
      left
      refine ⟨_, _, (List.take_append_drop (n + 1) (c :: cs)).symm, hother, ?_⟩
      rw [findAll, h]
      dsimp only
      rw [findAll_skip, List.take_succ_cons, List.drop_succ_cons, List.getLast?_cons]
      cases (cs.take n).getLast? <;> rfl

theorem mem_findAll_iff (hmatch : ∀ before name after,
      wordMatch isWord ways before (name ++ after) = some name.length ↔ Begins before name after)
    (hne : ∀ before name after, Begins before name after → name ≠ [])
    (before : Option Char) (cs : List Char) :
    name ∈ findAll isWord ways 0 before cs ↔ Found Begins name before cs := by
  induction hn : cs.length using Nat.strong_induction_on generalizing before cs with
  | _ n ih =>
    cases cs with
    | nil =>
      rw [findAll, found_iff]
      constructor
      · intro h
        cases h
      · rintro (⟨after, hcs, hname⟩ | ⟨other, after, hcs, hother, -⟩ | ⟨c, rest, hcs, -⟩)
        · exact absurd (List.append_eq_nil_iff.mp hcs.symm).1 (hne _ _ _ hname)
        · exact absurd (List.append_eq_nil_iff.mp hcs.symm).1 (hne _ _ _ hother)
        · cases hcs
    | cons c cs =>
      rw [List.length_cons] at hn
      rw [found_iff]
      rcases wordMatch_cases hmatch hne before c cs with
        ⟨other, after, hcs, hother, hfind⟩ | ⟨hnone, hfind⟩
      · have hshort : after.length < n := by
          have hlength := congrArg List.length hcs
          rw [List.length_cons, List.length_append] at hlength
          have hpos := List.length_pos_iff.mpr (hne _ _ _ hother)
          omega
        have hsame : ∀ name after', c :: cs = name ++ after' → Begins before name after' →
            name = other ∧ after' = after := by
          intro name after' hcs' hname
          have hlength := (hmatch before name after').mpr hname
          rw [← hcs', hcs, (hmatch before other after).mpr hother, Option.some_inj] at hlength
          exact List.append_inj (hcs'.symm.trans hcs) hlength.symm
        rw [hfind, List.mem_cons, ih after.length hshort _ after rfl]
        constructor
        · rintro (rfl | hrest)
          · exact .inl ⟨after, hcs, hother⟩
          · exact .inr (.inl ⟨other, after, hcs, hother, hrest⟩)
        · rintro (⟨after', hcs', hname⟩ | ⟨other', after', hcs', hother', hrest⟩ |
            ⟨c', rest, -, hnone, -⟩)
          · exact .inl (hsame name after' hcs' hname).1
          · obtain ⟨rfl, rfl⟩ := hsame other' after' hcs' hother'
            exact .inr hrest
          · exact absurd hother (hnone other after hcs)
      · rw [hfind, ih cs.length (by omega) _ cs rfl]
        constructor
        · intro hrest
          exact .inr (.inr ⟨c, cs, rfl, hnone, hrest⟩)
        · rintro (⟨after, hcs, hname⟩ | ⟨other, after, hcs, hother, -⟩ | ⟨c', rest, hcs, -, hrest⟩)
          · exact absurd hname (hnone _ _ hcs)
          · exact absurd hother (hnone _ _ hcs)
          · cases hcs
            exact hrest

end Finds

end Pattern
