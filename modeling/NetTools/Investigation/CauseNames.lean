import NetTools.Investigation.Render
import NetTools.Library.PatternEnds

/-!
# The names in a cause

What the identifier pattern finds in the text of a cause, said of the text alone: it is read from
the left, a port goes as far as it can, and an address is four groups of digits.
-/

namespace NetTools

namespace Render

open Pattern

variable (u : CharClasses)

def isNumberChar (c : Char) : Bool := u.isDigit c || c == '/' || c == '.' || c == '-'

/-- Two letters or more, and a number of two characters or more that ends with a digit. -/
def PortShape (name : List Char) : Prop :=
  ∃ letters number digit, name = letters ++ (number ++ [digit]) ∧
    (2 ≤ letters.length ∧ ∀ c ∈ letters, c.isAlpha = true) ∧
    (number ≠ [] ∧ ∀ c ∈ number, isNumberChar u c = true) ∧ u.isDigit digit = true

def Group (group : List Char) : Prop :=
  (1 ≤ group.length ∧ group.length ≤ 3) ∧ ∀ c ∈ group, u.isDigit c = true

def AddressShape (name : List Char) : Prop :=
  ∃ a b c d, name = a ++ '.' :: (b ++ '.' :: (c ++ '.' :: d)) ∧
    Group u a ∧ Group u b ∧ Group u c ∧ Group u d

def Stands (before : Option Char) (name after : List Char) : Prop :=
  isBoundary u.isWord before name.head? = true ∧
    isBoundary u.isWord name.getLast? after.head? = true

def NameAt (before : Option Char) (name after : List Char) : Prop :=
  Stands u before name after ∧
    ((PortShape u name ∧ ∀ more rest, after = more ++ rest → more ≠ [] →
        PortShape u (name ++ more) → ¬Stands u before (name ++ more) rest) ∨
      AddressShape u name)

variable {u}

lemma PortShape.ne_nil {name : List Char} (h : PortShape u name) : name ≠ [] := by
  obtain ⟨letters, number, digit, rfl, -⟩ := h
  simp

lemma AddressShape.ne_nil {name : List Char} (h : AddressShape u name) : name ≠ [] := by
  obtain ⟨a, b, c, d, rfl, -⟩ := h
  simp

lemma NameAt.ne_nil {before : Option Char} {name after : List Char}
    (h : NameAt u before name after) : name ≠ [] := by
  rcases h.2 with ⟨hport, -⟩ | haddress
  · exact hport.ne_nil
  · exact haddress.ne_nil

variable (u) in
def portParts : List Part :=
  [.run Char.isAlpha 2 none, .run (isNumberChar u) 1 none, .run u.isDigit 1 (some 1)]

lemma mem_rests_digit {cs rest : List Char} : rest ∈ rests [.run u.isDigit 1 (some 1)] cs ↔
    ∃ digit, cs = digit :: rest ∧ u.isDigit digit = true := by
  rw [mem_rests_run]
  constructor
  · rintro ⟨front, mid, rfl, hfront, hleast, hmost, hrest⟩
    obtain rfl := mem_rests_nil.mp hrest
    obtain ⟨digit, rfl⟩ := List.length_eq_one_iff.mp (Nat.le_antisymm (hmost 1 rfl) hleast)
    exact ⟨digit, rfl, hfront digit (List.mem_singleton_self digit)⟩
  · rintro ⟨digit, rfl, hdigit⟩
    refine ⟨[digit], rest, rfl, ?_, le_refl 1, ?_, mem_rests_nil.mpr rfl⟩
    · intro c hc
      rwa [List.mem_singleton.mp hc]
    · rintro n ⟨⟩
      exact le_refl 1

lemma mem_rests_port {cs rest : List Char} :
    rest ∈ rests (portParts u) cs ↔ ∃ name, cs = name ++ rest ∧ PortShape u name := by
  rw [portParts, mem_rests_run]
  constructor
  · rintro ⟨letters, mid, rfl, hletters, htwo, -, hrest⟩
    obtain ⟨number, last, rfl, hnumber, hone, -, hrest⟩ := mem_rests_run.mp hrest
    obtain ⟨digit, rfl, hdigit⟩ := mem_rests_digit.mp hrest
    refine ⟨letters ++ (number ++ [digit]), by simp, letters, number, digit, rfl,
      ⟨htwo, hletters⟩, ⟨?_, hnumber⟩, hdigit⟩
    rw [← List.length_pos_iff]
    exact hone
  · rintro ⟨name, rfl, letters, number, digit, rfl, ⟨htwo, hletters⟩, ⟨hone, hnumber⟩, hdigit⟩
    refine ⟨letters, number ++ digit :: rest, by simp, hletters, htwo, fun _ h => (by cases h), ?_⟩
    rw [mem_rests_run]
    exact ⟨number, digit :: rest, rfl, hnumber, List.length_pos_iff.mpr hone,
      fun _ h => (by cases h), mem_rests_digit.mpr ⟨digit, rfl, hdigit⟩⟩

lemma pairwise_rests_port (hletter : ∀ c : Char, c.isAlpha = true → u.isDigit c = false)
    (cs : List Char) :
    (rests (portParts u) cs).Pairwise (fun rest rest' => rest.length < rest'.length) := by
  have hdigits : ∀ cs : List Char, (rests [.run u.isDigit 1 (some 1)] cs).Pairwise
      (fun rest rest' => rest.length < rest'.length) := by
    intro cs
    rw [rests_cons, List.pairwise_flatMap]
    constructor
    · intro way _
      rw [rests, waysOf, List.map_singleton]
      exact List.pairwise_singleton _ _
    · refine (pairwise_ways_run _ _ _ _).imp ?_
      intro way way' hlt rest hrest rest' hrest'
      rwa [mem_rests_nil.mp hrest, mem_rests_nil.mp hrest']
  have hnumbers : ∀ cs : List Char,
      (rests [.run (isNumberChar u) 1 none, .run u.isDigit 1 (some 1)] cs).Pairwise
        (fun rest rest' => rest.length < rest'.length) := by
    intro cs
    rw [rests_cons, List.pairwise_flatMap]
    refine ⟨fun way _ => hdigits way.2, (pairwise_ways_run _ _ _ _).imp ?_⟩
    intro way way' hlt rest hrest rest' hrest'
    obtain ⟨digit, hway, -⟩ := mem_rests_digit.mp hrest
    obtain ⟨digit', hway', -⟩ := mem_rests_digit.mp hrest'
    rw [hway, hway', List.length_cons, List.length_cons] at hlt
    omega
  rw [portParts, rests_cons, List.pairwise_flatMap]
  refine ⟨fun way _ => hnumbers way.2, List.Pairwise.imp_of_mem ?_ (pairwise_ways_run _ _ _ _)⟩
  intro way way' hway hway' hlt rest _ rest' hrest'
  obtain ⟨letters, hcs, hletters, -⟩ := mem_ways_run hway
  obtain ⟨letters', hcs', -⟩ := mem_ways_run hway'
  obtain ⟨number, mid, hnumber, hchars, hone, -⟩ := mem_rests_run.mp hrest'
  -- a shorter reading of the letters leaves a letter where the number begins
  exfalso
  cases number with
  | nil => exact absurd hone (by decide)
  | cons c number =>
    have hmem : c ∈ letters := by
      rw [hcs'] at hcs
      have hlength := congrArg List.length hcs
      rw [List.length_append, List.length_append] at hlength
      obtain ⟨more, rfl⟩ : letters' <+: letters :=
        List.prefix_of_prefix_length_le ⟨way'.2, rfl⟩ ⟨way.2, hcs.symm⟩ (by omega)
      rw [hnumber, List.append_assoc, List.append_cancel_left_eq] at hcs
      cases more with
      | nil =>
        rw [List.append_nil] at hlength
        omega
      | cons d more =>
        rw [List.cons_append, List.cons_append, List.cons.injEq] at hcs
        rw [hcs.1]
        exact List.mem_append_right _ List.mem_cons_self
    have halpha := hletters c hmem
    have hchar := hchars c List.mem_cons_self
    rw [isNumberChar, hletter c halpha, Bool.false_or, Bool.or_eq_true, Bool.or_eq_true,
      beq_iff_eq, beq_iff_eq, beq_iff_eq] at hchar
    rcases hchar with (rfl | rfl) | rfl <;> exact absurd halpha (by decide)

variable (u) in
def addressParts : List Part :=
  let digits := Part.run u.isDigit 1 (some 3)
  [digits, .lit ['.'], digits, .lit ['.'], digits, .lit ['.'], digits]

lemma mem_rests_group {parts : List Part} {cs rest : List Char} :
    rest ∈ rests (.run u.isDigit 1 (some 3) :: parts) cs ↔
      ∃ group mid, cs = group ++ mid ∧ Group u group ∧ rest ∈ rests parts mid := by
  rw [mem_rests_run]
  constructor
  · rintro ⟨group, mid, hcs, hdigits, hone, hthree, hrest⟩
    exact ⟨group, mid, hcs, ⟨⟨hone, hthree 3 rfl⟩, hdigits⟩, hrest⟩
  · rintro ⟨group, mid, hcs, ⟨⟨hone, hthree⟩, hdigits⟩, hrest⟩
    refine ⟨group, mid, hcs, hdigits, hone, ?_, hrest⟩
    rintro n ⟨⟩
    exact hthree

lemma mem_rests_address {cs rest : List Char} :
    rest ∈ rests (addressParts u) cs ↔ ∃ name, cs = name ++ rest ∧ AddressShape u name := by
  rw [addressParts]
  simp only [mem_rests_group, mem_rests_lit, mem_rests_nil]
  constructor
  · rintro ⟨a, _, rfl, ha, _, rfl, b, _, rfl, hb, _, rfl, c, _, rfl, hc, _, rfl, d, _, rfl, hd, rfl⟩
    exact ⟨_, by simp, a, b, c, d, rfl, ha, hb, hc, hd⟩
  · rintro ⟨name, rfl, a, b, c, d, rfl, ha, hb, hc, hd⟩
    exact ⟨a, _, by simp, ha, _, rfl, b, _, rfl, hb, _, rfl, c, _, rfl, hc, _, rfl, d, _, rfl, hd, rfl⟩

lemma group_unique {group group' mid mid' : List Char} (hgroup : Group u group)
    (hgroup' : Group u group') (h : group ++ mid = group' ++ mid')
    (hmid : ∀ c ∈ mid.head?, u.isDigit c = false) (hmid' : ∀ c ∈ mid'.head?, u.isDigit c = false) :
    group = group' ∧ mid = mid' := by
  have htake : ∀ {front rest : List Char}, (∀ c ∈ front, u.isDigit c = true) →
      (∀ c ∈ rest.head?, u.isDigit c = false) → (front ++ rest).takeWhile u.isDigit = front := by
    intro front rest hfront hrest
    rw [List.takeWhile_append_of_pos hfront]
    cases rest with
    | nil => rw [List.takeWhile_nil, List.append_nil]
    | cons c rest =>
      rw [List.takeWhile_cons_of_neg (by rw [hrest c rfl]; exact Bool.false_ne_true),
        List.append_nil]
  have hsame : group = group' := by
    rw [← htake hgroup.2 hmid, h, htake hgroup'.2 hmid']
  rw [hsame, List.append_cancel_left_eq] at h
  exact ⟨hsame, h⟩

lemma address_unique (hdot : u.isDigit '.' = false) {before : Option Char}
    {name name' after after' : List Char} (hname : AddressShape u name)
    (hname' : AddressShape u name') (h : name ++ after = name' ++ after')
    (hstands : Stands u before name after) (hstands' : Stands u before name' after') :
    name = name' := by
  have hpoint : ∀ (cs : List Char), ∀ c ∈ ('.' :: cs).head?, u.isDigit c = false := by
    rintro cs c ⟨⟩
    exact hdot
  have hend : ∀ {front group after : List Char}, Group u group →
      Stands u before (front ++ group) after → ∀ c ∈ after.head?, u.isDigit c = false := by
    intro front group after hgroup hstands c hc
    have hne : group ≠ [] := List.length_pos_iff.mp hgroup.1.1
    have hlast := hstands.2
    rw [List.getLast?_append, List.getLast?_eq_getLast_of_ne_nil hne, Option.some_or, isBoundary,
      Option.any_some, u.word_of_digit _ (hgroup.2 _ (List.getLast_mem hne)),
      Option.mem_def.mp hc, Option.any_some, bne_iff_ne, ne_eq, eq_comm, Bool.not_eq_true] at hlast
    rw [Bool.eq_false_iff]
    intro hdigit
    rw [u.word_of_digit c hdigit] at hlast
    cases hlast
  obtain ⟨a, b, c, d, rfl, ha, hb, hc, hd⟩ := hname
  obtain ⟨a', b', c', d', rfl, ha', hb', hc', hd'⟩ := hname'
  have hafter := @hend (a ++ '.' :: (b ++ '.' :: (c ++ ['.']))) d after hd (by simpa using hstands)
  have hafter' := @hend (a' ++ '.' :: (b' ++ '.' :: (c' ++ ['.']))) d' after' hd'
    (by simpa using hstands')
  simp only [List.append_assoc, List.cons_append] at h
  obtain ⟨rfl, hb₁⟩ := group_unique ha ha' h (hpoint _) (hpoint _)
  obtain ⟨rfl, hc₁⟩ := group_unique hb hb' (List.cons.inj hb₁).2 (hpoint _) (hpoint _)
  obtain ⟨rfl, hd₁⟩ := group_unique hc hc' (List.cons.inj hc₁).2 (hpoint _) (hpoint _)
  obtain ⟨rfl, -⟩ := group_unique hd hd' (List.cons.inj hd₁).2 hafter hafter'
  rfl

lemma identifierWays_eq (cs : List Char) :
    identifierWays u cs = rests (portParts u) cs ++ rests (addressParts u) cs := by
  rw [identifierWays, List.map_append]
  rfl

lemma mem_identifierWays {cs rest : List Char} : rest ∈ identifierWays u cs ↔
    ∃ name, cs = name ++ rest ∧ (PortShape u name ∨ AddressShape u name) := by
  rw [identifierWays_eq, List.mem_append, mem_rests_port, mem_rests_address]
  simp only [and_or_left, exists_or]

lemma find?_first {α : Type} {R : α → α → Prop} {l : List α} (hl : l.Pairwise R) {p : α → Bool}
    {a b : α} (h : l.find? p = some a) (hb : b ∈ l) (hp : p b = true) : a = b ∨ R a b := by
  obtain ⟨-, front, back, rfl, hfront⟩ := List.find?_eq_some_iff_append.mp h
  rcases List.mem_append.mp hb with hb | hb
  · have hnot := hfront b hb
    rw [hp] at hnot
    cases hnot
  · rcases List.mem_cons.mp hb with rfl | hb
    · exact .inl rfl
    · exact .inr ((List.pairwise_cons.mp (List.pairwise_append.mp hl).2.1).1 b hb)

lemma wordMatch_isSome {ways : List Char → List (List Char)} {before : Option Char}
    {cs : List Char} {n : Nat} (h : wordMatch u.isWord ways before cs = some n) :
    isBoundary u.isWord before cs.head? = true ∧ ∃ rest, (ways cs).find? (fun rest =>
      isBoundary u.isWord ((cs.take (cs.length - rest.length)).getLast?.or before) rest.head?) =
        some rest ∧ cs.length - rest.length = n := by
  unfold wordMatch at h
  split at h
  · exact ⟨‹_›, Option.map_eq_some_iff.mp h⟩
  · cases h

lemma ends_iff {before : Option Char} {name after : List Char} (hne : name ≠ []) :
    isBoundary u.isWord
        (((name ++ after).take ((name ++ after).length - after.length)).getLast?.or before)
        after.head? = isBoundary u.isWord name.getLast? after.head? := by
  rw [List.length_append, Nat.add_sub_cancel, List.take_left,
    List.getLast?_eq_getLast_of_ne_nil hne, Option.some_or]

lemma head_ne (hletter : ∀ c : Char, c.isAlpha = true → u.isDigit c = false)
    {port address : List Char} (hport : PortShape u port) (haddress : AddressShape u address)
    (rest after : List Char) : (port ++ rest).head? ≠ (address ++ after).head? := by
  obtain ⟨letters, number, digit, rfl, ⟨htwo, hletters⟩, -⟩ := hport
  obtain ⟨a, b, c, d, rfl, ⟨⟨hone, -⟩, hdigits⟩, -⟩ := haddress
  cases letters with
  | nil => exact absurd htwo (by decide)
  | cons l letters =>
    cases a with
    | nil => exact absurd hone (by decide)
    | cons n a =>
      intro heq
      have hsame : l = n := Option.some.inj heq
      have hdigit := hletter l (hletters l List.mem_cons_self)
      rw [hsame, hdigits n List.mem_cons_self] at hdigit
      cases hdigit

/-- Where a port ends that passes, a port is found, and no shorter one. -/
lemma find?_port (hletter : ∀ c : Char, c.isAlpha = true → u.isDigit c = false)
    {p : List Char → Bool} {cs first rest : List Char}
    (hfind : (identifierWays u cs).find? p = some first) (hmem : rest ∈ rests (portParts u) cs)
    (hok : p rest = true) :
    first ∈ rests (portParts u) cs ∧ (first = rest ∨ first.length < rest.length) := by
  rw [identifierWays_eq, List.find?_append] at hfind
  cases hport : (rests (portParts u) cs).find? p with
  | none => exact absurd hok (List.find?_eq_none.mp hport rest hmem)
  | some port =>
    rw [hport, Option.some_or, Option.some_inj] at hfind
    rw [hfind] at hport
    exact ⟨List.mem_of_find?_eq_some hport,
      find?_first (pairwise_rests_port hletter _) hport hmem hok⟩

lemma nameAt_of_wordMatch (hletter : ∀ c : Char, c.isAlpha = true → u.isDigit c = false)
    {before : Option Char} {name after : List Char}
    (h : wordMatch u.isWord (identifierWays u) before (name ++ after) = some name.length) :
    NameAt u before name after := by
  obtain ⟨hstart, rest, hfind, hlength⟩ := wordMatch_isSome h
  obtain ⟨front, hcs, hshape⟩ := mem_identifierWays.mp (List.mem_of_find?_eq_some hfind)
  have hfront : name.length = front.length := by
    rw [← hlength, hcs, List.length_append, Nat.add_sub_cancel]
  obtain ⟨rfl, rfl⟩ := List.append_inj hcs hfront
  have hne : name ≠ [] := hshape.elim PortShape.ne_nil AddressShape.ne_nil
  have hends := List.find?_some hfind
  rw [ends_iff hne] at hends
  rw [List.head?_append_of_ne_nil _ hne] at hstart
  refine ⟨⟨hstart, hends⟩, ?_⟩
  rcases hshape with hport | haddress
  · left
    refine ⟨hport, ?_⟩
    rintro more rest rfl hmore hlonger hstands
    -- the longer port would have been found first
    have hmem : rest ∈ rests (portParts u) (name ++ (more ++ rest)) :=
      mem_rests_port.mpr ⟨name ++ more, by rw [List.append_assoc], hlonger⟩
    have hok := hstands.2
    rw [← @ends_iff u before _ _ hlonger.ne_nil, List.append_assoc] at hok
    rcases (find?_port hletter hfind hmem hok).2 with heq | hlt
    · exact hmore (List.append_left_eq_self.mp heq)
    · rw [List.length_append] at hlt
      omega
  · exact .inr haddress

lemma wordMatch_of_nameAt (hletter : ∀ c : Char, c.isAlpha = true → u.isDigit c = false)
    (hdot : u.isDigit '.' = false) {before : Option Char} {name after : List Char}
    (h : NameAt u before name after) :
    wordMatch u.isWord (identifierWays u) before (name ++ after) = some name.length := by
  obtain ⟨hstands, hshape⟩ := h
  have hne : name ≠ [] := hshape.elim (fun h => h.1.ne_nil) AddressShape.ne_nil
  have hmem : after ∈ identifierWays u (name ++ after) :=
    mem_identifierWays.mpr ⟨name, rfl, hshape.imp_left And.left⟩
  have hok := hstands.2
  rw [← @ends_iff u before _ _ hne] at hok
  rw [wordMatch, List.head?_append_of_ne_nil _ hne, if_pos hstands.1]
  cases hfind : (identifierWays u (name ++ after)).find? (fun rest => isBoundary u.isWord
      (((name ++ after).take ((name ++ after).length - rest.length)).getLast?.or before)
      rest.head?) with
  | none => exact absurd hok (List.find?_eq_none.mp hfind after hmem)
  | some rest =>
    rw [Option.map_some, Option.some_inj]
    suffices hsame : rest = after by rw [hsame, List.length_append, Nat.add_sub_cancel]
    obtain ⟨other, hcs, hother⟩ := mem_identifierWays.mp (List.mem_of_find?_eq_some hfind)
    have hne' : other ≠ [] := hother.elim PortShape.ne_nil AddressShape.ne_nil
    have hends := List.find?_some hfind
    rw [hcs, ends_iff hne'] at hends
    have hstands' : Stands u before other rest := by
      refine ⟨?_, hends⟩
      rw [← List.head?_append_of_ne_nil _ hne', ← hcs, List.head?_append_of_ne_nil _ hne]
      exact hstands.1
    rcases hshape with ⟨hport, hlongest⟩ | haddress
    · obtain ⟨hfirst, hlt⟩ :=
        find?_port hletter hfind (mem_rests_port.mpr ⟨name, rfl, hport⟩) hok
      refine hlt.resolve_right (fun hlt => ?_)
      -- a port that is found earlier goes further
      obtain ⟨longer, hlonger, hportLonger⟩ := mem_rests_port.mp hfirst
      obtain rfl : longer = other := List.append_cancel_right (hlonger.symm.trans hcs)
      have hlength := congrArg List.length hcs
      rw [List.length_append, List.length_append] at hlength
      obtain ⟨more, rfl⟩ : name <+: longer :=
        List.prefix_of_prefix_length_le ⟨after, rfl⟩ ⟨rest, hcs.symm⟩ (by omega)
      rw [List.append_assoc, List.append_cancel_left_eq] at hcs
      refine hlongest more rest hcs ?_ hportLonger hstands'
      rintro rfl
      rw [List.append_nil] at hlength
      omega
    · rcases hother with hport | hother
      · exact absurd (hcs ▸ rfl) (head_ne hletter hport haddress rest after)
      · obtain rfl := address_unique hdot haddress hother hcs hstands hstands'
        exact (List.append_cancel_left hcs).symm

theorem wordMatch_iff (hletter : ∀ c : Char, c.isAlpha = true → u.isDigit c = false)
    (hdot : u.isDigit '.' = false) (before : Option Char) (name after : List Char) :
    wordMatch u.isWord (identifierWays u) before (name ++ after) = some name.length ↔
      NameAt u before name after :=
  ⟨nameAt_of_wordMatch hletter, wordMatch_of_nameAt hletter hdot⟩

end Render

end NetTools
