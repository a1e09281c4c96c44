import Mathlib.Data.List.Basic
import Mathlib.Data.List.TakeWhile

/-!
# Patterns

A pattern is tried at the start of a text. The ways in which it matches come in the order in which a
backtracking matcher finds them, the longest repetition first.
-/

namespace Pattern

inductive Part where
  | lit (text : List Char)
  | run (cls : Char → Bool) (least : Nat) (most : Option Nat)
  | oneOf (choices : List (List Char))
  | group (name : String) (parts : List Part)
  | opt (parts : List Part)
  | stop

abbrev Captures : Type := List (String × List Char)

def reach (cls : Char → Bool) (most : Option Nat) (cs : List Char) : Nat :=
  match most with
  | none => (cs.takeWhile cls).length
  | some most => min most (cs.takeWhile cls).length

mutual

def Part.ways : Part → List Char → List (Captures × List Char)
  | .lit text, cs => if text <+: cs then [([], cs.drop text.length)] else []
  | .run cls least most, cs =>
    ((List.range (reach cls most cs + 1)).reverse.filter (least ≤ ·)).map
      (fun n => ([], cs.drop n))
  | .oneOf choices, cs =>
    (choices.filter (· <+: cs)).map (fun choice => ([], cs.drop choice.length))
  | .group name parts, cs =>
    (waysOf parts cs).map (fun way => ((name, cs.take (cs.length - way.2.length)) :: way.1, way.2))
  | .opt parts, cs => waysOf parts cs ++ [([], cs)]
  | .stop, cs => if cs = [] ∨ cs = ['\n'] then [([], cs)] else []

def waysOf : List Part → List Char → List (Captures × List Char)
  | [], cs => [([], cs)]
  | part :: parts, cs =>
    (part.ways cs).flatMap fun way =>
      (waysOf parts way.2).map (fun rest => (way.1 ++ rest.1, rest.2))

end

/-- `re.match`: the groups of the first way. -/
def matchStart (parts : List Part) (text : String) : Option Captures :=
  (waysOf parts text.toList).head?.map Prod.fst

/-- The text of a group, `none` when the group took no part. -/
def Captures.text? (captures : Captures) (name : String) : Option String :=
  (captures.lookup name).map String.ofList

def Captures.text (captures : Captures) (name : String) : String := (captures.text? name).getD ""

lemma starts_of_matchStart {start : List Char} {parts : List Part} {text : String}
    (h : (matchStart (.lit start :: parts) text).isSome = true) : start <+: text.toList := by
  by_contra hstart
  rw [matchStart, waysOf, Part.ways, if_neg hstart] at h
  cases h

lemma matchStart_eq_none {start : List Char} (parts : List Part) {text : String}
    (h : ¬start <+: text.toList) : matchStart (.lit start :: parts) text = none := by
  rw [matchStart, waysOf, Part.ways, if_neg h]
  rfl

mutual

/-- A part reads nothing but letters that satisfy `P`. -/
def Part.Within (P : Char → Prop) : Part → Prop
  | .lit text => ∀ c ∈ text, P c
  | .run cls _ _ => ∀ c, cls c = true → P c
  | .oneOf choices => ∀ choice ∈ choices, ∀ c ∈ choice, P c
  | .group _ parts => Within P parts
  | .opt parts => Within P parts
  | .stop => True

def Within (P : Char → Prop) : List Part → Prop
  | [] => True
  | part :: parts => part.Within P ∧ Within P parts

end

/-- The text is some letters that satisfy `P`, and `rest`. -/
def Consumed (P : Char → Prop) (cs rest : List Char) : Prop :=
  ∃ front, cs = front ++ rest ∧ ∀ c ∈ front, P c

lemma consumed_refl (P : Char → Prop) (cs : List Char) : Consumed P cs cs :=
  ⟨[], rfl, fun _ h => by cases h⟩

lemma Consumed.trans {P : Char → Prop} {cs ds es : List Char} (h : Consumed P cs ds)
    (h' : Consumed P ds es) : Consumed P cs es := by
  obtain ⟨front, rfl, hfront⟩ := h
  obtain ⟨front', rfl, hfront'⟩ := h'
  refine ⟨front ++ front', (List.append_assoc ..).symm, ?_⟩
  intro c hc
  rcases List.mem_append.mp hc with hc | hc
  · exact hfront c hc
  · exact hfront' c hc

lemma consumed_of_initial {P : Char → Prop} {text cs : List Char} (h : text <+: cs)
    (htext : ∀ c ∈ text, P c) : Consumed P cs (cs.drop text.length) := by
  obtain ⟨back, rfl⟩ := h
  refine ⟨text, ?_, htext⟩
  rw [List.drop_left]

lemma consumed_of_run {P : Char → Prop} {cls : Char → Bool} {most : Option Nat} {cs : List Char}
    {n : Nat} (h : n ≤ reach cls most cs) (hcls : ∀ c, cls c = true → P c) :
    Consumed P cs (cs.drop n) := by
  have hn : n ≤ (cs.takeWhile cls).length := by
    refine Nat.le_trans h ?_
    cases most with
    | none => exact Nat.le_refl _
    | some most => exact Nat.min_le_right ..
  refine ⟨cs.take n, (List.take_append_drop n cs).symm, ?_⟩
  intro c hc
  have htake : cs.take n = (cs.takeWhile cls).take n := by
    conv_lhs => rw [← List.takeWhile_append_dropWhile (p := cls) (l := cs)]
    exact List.take_append_of_le_length hn
  rw [htake] at hc
  exact hcls c (List.mem_takeWhile_imp (List.mem_of_mem_take hc))

mutual

theorem Part.consumed {P : Char → Prop} : ∀ (part : Part), part.Within P → ∀ (cs : List Char),
    ∀ way ∈ part.ways cs, Consumed P cs way.2
  | .lit text, hp, cs, way, h => by
    rw [Part.ways] at h
    by_cases hinitial : text <+: cs
    · rw [if_pos hinitial, List.mem_singleton] at h
      rw [h]
      exact consumed_of_initial hinitial hp
    · rw [if_neg hinitial] at h
      cases h
  | .run cls least most, hp, cs, way, h => by
    rw [Part.ways, List.mem_map] at h
    obtain ⟨n, hn, rfl⟩ := h
    rw [List.mem_filter, List.mem_reverse, List.mem_range] at hn
    exact consumed_of_run (Nat.le_of_lt_succ hn.1) hp
  | .oneOf choices, hp, cs, way, h => by
    rw [Part.ways, List.mem_map] at h
    obtain ⟨choice, hchoice, rfl⟩ := h
    rw [List.mem_filter, decide_eq_true_eq] at hchoice
    exact consumed_of_initial hchoice.2 (hp choice hchoice.1)
  | .group name parts, hp, cs, way, h => by
    rw [Part.ways, List.mem_map] at h
    obtain ⟨way', hway, rfl⟩ := h
    exact consumed_waysOf parts hp cs way' hway
  | .opt parts, hp, cs, way, h => by
    rw [Part.ways, List.mem_append, List.mem_singleton] at h
    rcases h with h | rfl
    · exact consumed_waysOf parts hp cs way h
    · exact consumed_refl P cs
  | .stop, _, cs, way, h => by
    rw [Part.ways] at h
    by_cases hend : cs = [] ∨ cs = ['\n']
    · rw [if_pos hend, List.mem_singleton] at h
      rw [h]
      exact consumed_refl P cs
    · rw [if_neg hend] at h
      cases h

theorem consumed_waysOf {P : Char → Prop} : ∀ (parts : List Part), Within P parts →
    ∀ (cs : List Char), ∀ way ∈ waysOf parts cs, Consumed P cs way.2
  | [], _, cs, way, h => by
    rw [waysOf, List.mem_singleton] at h
    rw [h]
    exact consumed_refl P cs
  | part :: parts, hp, cs, way, h => by
    rw [waysOf, List.mem_flatMap] at h
    obtain ⟨first, hfirst, h⟩ := h
    obtain ⟨rest, hrest, rfl⟩ := List.mem_map.mp h
    exact (Part.consumed part hp.1 cs first hfirst).trans
      (consumed_waysOf parts hp.2 first.2 rest hrest)

end

def isBoundary (isWord : Char → Bool) (before after : Option Char) : Bool :=
  before.any isWord != after.any isWord

def wordMatch (isWord : Char → Bool) (ways : List Char → List (List Char)) (before : Option Char)
    (cs : List Char) : Option Nat :=
  if isBoundary isWord before cs.head? then
    ((ways cs).find? (fun rest =>
      isBoundary isWord ((cs.take (cs.length - rest.length)).getLast?.or before) rest.head?)).map
      (fun rest => cs.length - rest.length)
  else none

def findAll (isWord : Char → Bool) (ways : List Char → List (List Char)) :
    Nat → Option Char → List Char → List (List Char)
  | _, _, [] => []
  | skip + 1, _, c :: cs => findAll isWord ways skip (some c) cs
  | 0, before, c :: cs =>
    match wordMatch isWord ways before (c :: cs) with
    | some (n + 1) => (c :: cs).take (n + 1) :: findAll isWord ways n (some c) cs
    | _ => findAll isWord ways 0 (some c) cs

theorem forall_mem_findAll {isWord : Char → Bool} {ways : List Char → List (List Char)}
    {P : Char → Prop} (hways : ∀ cs, ∀ rest ∈ ways cs, Consumed P cs rest) :
    ∀ (cs : List Char) (skip : Nat) (before : Option Char),
      ∀ found ∈ findAll isWord ways skip before cs, ∀ c ∈ found, P c := by
  intro cs
  induction cs with
  | nil =>
    intro skip before found h
    rw [findAll] at h
    cases h
  | cons c cs ih =>
    intro skip before found h
    cases skip with
    | succ skip =>
      rw [findAll] at h
      exact ih skip (some c) found h
    | zero =>
      rw [findAll] at h
      cases hmatch : wordMatch isWord ways before (c :: cs) with
      | none =>
        rw [hmatch] at h
        exact ih 0 (some c) found h
      | some n =>
        rw [hmatch] at h
        cases n with
        | zero => exact ih 0 (some c) found h
        | succ n =>
          rcases List.mem_cons.mp h with rfl | h
          · have hread : ∃ rest ∈ ways (c :: cs), (c :: cs).length - rest.length = n + 1 := by
              unfold wordMatch at hmatch
              split at hmatch
              · obtain ⟨rest, hrest, hlength⟩ := Option.map_eq_some_iff.mp hmatch
                exact ⟨rest, List.mem_of_find?_eq_some hrest, hlength⟩
              · cases hmatch
            obtain ⟨rest, hrest, hlength⟩ := hread
            obtain ⟨front, hfront, hP⟩ := hways _ rest hrest
            have htake : (c :: cs).take (n + 1) = front := by
              rw [← hlength, hfront, List.length_append, Nat.add_sub_cancel, List.take_left]
            rw [htake]
            exact hP
          · exact ih n (some c) found h

end Pattern
