import Mathlib.Data.List.Infix
import NetTools.Routing.Runnable

/-!
# Clauses of a message

A message may hold several clauses. The subject of an interface event is read from the leftmost
`Interface <name>,` and its direction from the leftmost whole clause, which need not name that
interface. A neighbour clause is read as a whole.
-/

namespace NetTools

/-- `a` is what `P` finds at the leftmost place of the text. -/
def Leftmost {α : Type} (P : α → List Char → Prop) (a : α) (text : List Char) : Prop :=
  ∃ rest, rest <:+ text ∧ P a rest ∧
    ∀ rest' b, rest' <:+ text → P b rest' → rest'.length ≤ rest.length

/-- `P` holds somewhere in the text. -/
def Occurs (P : List Char → Prop) (text : List Char) : Prop := ∃ rest, rest <:+ text ∧ P rest

lemma searchText_eq_some_iff {α : Type} {f : List Char → Option α} {P : α → List Char → Prop}
    (h : ∀ a cs, f cs = some a ↔ P a cs) {a : α} {cs : List Char} :
    searchText f cs = some a ↔ Leftmost P a cs := by
  induction cs with
  | nil =>
    rw [searchText, h]
    constructor
    · intro ha
      exact ⟨[], List.suffix_refl [], ha, fun _ _ hrest' _ => hrest'.length_le⟩
    · rintro ⟨rest, hrest, ha, -⟩
      rw [List.suffix_nil.mp hrest] at ha
      exact ha
  | cons c cs ih =>
    rw [searchText, Option.or_eq_some_iff, ih]
    constructor
    · rintro (ha | ⟨hnone, rest, hrest, ha, hfirst⟩)
      · exact ⟨c :: cs, List.suffix_refl _, (h a _).mp ha, fun _ _ hrest' _ => hrest'.length_le⟩
      · refine ⟨rest, hrest.trans (List.suffix_cons c cs), ha, ?_⟩
        intro rest' b hrest' hb
        rcases List.suffix_cons_iff.mp hrest' with rfl | hrest'
        · rw [(h b _).mpr hb] at hnone
          cases hnone
        · exact hfirst rest' b hrest' hb
    · rintro ⟨rest, hrest, ha, hfirst⟩
      rcases List.suffix_cons_iff.mp hrest with rfl | hrest
      · exact .inl ((h a _).mpr ha)
      · refine .inr ⟨?_, rest, hrest, ha, ?_⟩
        · rw [Option.eq_none_iff_forall_ne_some]
          intro b hb
          have hle := hfirst (c :: cs) b (List.suffix_refl _) ((h b _).mp hb)
          have hlength := hrest.length_le
          rw [List.length_cons] at hle
          omega
        · intro rest' b hrest' hb
          exact hfirst rest' b (hrest'.trans (List.suffix_cons c cs)) hb

def Spells (word written : List Char) : Prop :=
  List.Forall₂ (fun p c => sameLetter p c = true) word written

def IsGap (gap : List Char) : Prop := gap ≠ [] ∧ ∀ c ∈ gap, isSpaceChar c = true

def NoSpaceNext (cs : List Char) : Prop := ∀ c ∈ cs.head?, isSpaceChar c = false

lemma skipLetters_eq_some_iff {word cs rest : List Char} :
    skipLetters word cs = some rest ↔ ∃ written, cs = written ++ rest ∧ Spells word written := by
  induction word generalizing cs with
  | nil =>
    rw [skipLetters, Option.some.injEq]
    constructor
    · rintro rfl
      exact ⟨[], rfl, List.Forall₂.nil⟩
    · rintro ⟨written, rfl, hspells⟩
      cases hspells
      rfl
  | cons p ps ih =>
    cases cs with
    | nil =>
      refine iff_of_false (by rw [skipLetters]; nofun) ?_
      rintro ⟨written, hnil, hspells⟩
      cases hspells
      cases hnil
    | cons c cs =>
      rw [skipLetters]
      constructor
      · intro h
        split at h
        · rename_i hsame
          obtain ⟨written, rfl, hspells⟩ := ih.mp h
          exact ⟨c :: written, rfl, List.Forall₂.cons hsame hspells⟩
        · cases h
      · rintro ⟨written, hcs, hspells⟩
        cases hspells with
        | cons hsame hspells =>
          obtain ⟨rfl, rfl⟩ := List.cons.inj hcs
          rw [if_pos hsame]
          exact ih.mpr ⟨_, rfl, hspells⟩

lemma skipText_eq_some_iff {word cs rest : List Char} :
    skipText word cs = some rest ↔ cs = word ++ rest := by
  induction word generalizing cs with
  | nil =>
    rw [skipText, Option.some.injEq]
    rfl
  | cons p ps ih =>
    cases cs with
    | nil => exact iff_of_false (by rw [skipText]; nofun) nofun
    | cons c cs =>
      rw [skipText, List.cons_append, List.cons.injEq]
      by_cases h : p = c
      · rw [if_pos h, ih]
        exact ⟨fun hcs => ⟨h.symm, hcs⟩, And.right⟩
      · rw [if_neg h]
        exact iff_of_false nofun (fun hcs => h hcs.1.symm)

lemma takeSome_eq_some_iff {p : Char → Bool} {cs token rest : List Char} :
    takeSome p cs = some (token, rest) ↔ cs = token ++ rest ∧ token ≠ [] ∧
      (∀ c ∈ token, p c = true) ∧ ∀ c ∈ rest.head?, p c = false := by
  rw [takeSome]
  constructor
  · intro h
    split at h
    · cases h
    · rename_i hne
      cases h
      refine ⟨(List.takeWhile_append_dropWhile).symm, hne, fun c hc => List.mem_takeWhile_imp hc,
        ?_⟩
      intro c hc
      have hhead := List.head?_dropWhile_not p cs
      rw [Option.mem_def.mp hc] at hhead
      simpa using hhead
  · rintro ⟨rfl, hne, hall, hrest⟩
    have htake : rest.takeWhile p = [] ∧ rest.dropWhile p = rest := by
      cases rest with
      | nil => exact ⟨rfl, rfl⟩
      | cons c rest =>
        have hc := hrest c rfl
        rw [List.takeWhile_cons, List.dropWhile_cons, hc]
        exact ⟨rfl, rfl⟩
    rw [List.takeWhile_append_of_pos hall, List.dropWhile_append_of_pos hall, htake.1, htake.2,
      List.append_nil, if_neg hne]

lemma skipSpace_eq_some_iff {cs rest : List Char} :
    skipSome isSpaceChar cs = some rest ↔ ∃ gap, cs = gap ++ rest ∧ IsGap gap ∧
      NoSpaceNext rest := by
  rw [skipSome, Option.map_eq_some_iff]
  constructor
  · rintro ⟨⟨gap, rest⟩, h, rfl⟩
    obtain ⟨hcs, hne, hall, hrest⟩ := takeSome_eq_some_iff.mp h
    exact ⟨gap, hcs, ⟨hne, hall⟩, hrest⟩
  · rintro ⟨gap, hcs, hgap, hrest⟩
    exact ⟨(gap, rest), takeSome_eq_some_iff.mpr ⟨hcs, hgap.1, hgap.2, hrest⟩, rfl⟩

lemma toLower_of_isSpaceChar {c : Char} (h : isSpaceChar c = true) : c.toLower = c := by
  delta Char.toLower
  split
  · rename_i hupper
    simp only [isSpaceChar, Bool.or_eq_true, Bool.and_eq_true, decide_eq_true_eq,
      beq_iff_eq] at h
    have hval : c.val.toNat = c.toNat := rfl
    simp only [ge_iff_le, UInt32.le_iff_toNat_le, hval] at hupper
    have hrange : 65 ≤ c.toNat ∧ c.toNat ≤ 90 := by simpa using hupper
    omega
  · rfl

lemma not_space_of_sameLetter {p c : Char} (hp : isSpaceChar p.toLower = false)
    (h : sameLetter p c = true) : isSpaceChar c = false := by
  rw [Bool.eq_false_iff]
  intro hspace
  have hfold : c.toNat ≠ 0x130 ∧ c.toNat ≠ 0x131 ∧ c.toNat ≠ 0x17F ∧ c.toNat ≠ 0x212A := by
    simp only [isSpaceChar, Bool.or_eq_true, Bool.and_eq_true, decide_eq_true_eq,
      beq_iff_eq] at hspace
    omega
  simp only [sameLetter, Bool.or_eq_true, Bool.and_eq_true, beq_iff_eq, hfold.1, hfold.2.1,
    hfold.2.2.1, hfold.2.2.2, or_self, and_false, or_false] at h
  rw [toLower_of_isSpaceChar hspace] at h
  rw [h, hspace] at hp
  cases hp

lemma noSpaceNext_of_spells {word written rest : List Char}
    (hword : word.head?.any (fun p => !isSpaceChar p.toLower) = true) (h : Spells word written) :
    NoSpaceNext (written ++ rest) := by
  cases h with
  | nil => cases hword
  | cons hsame _ =>
    intro c hc
    rw [← Option.some.inj hc]
    exact not_space_of_sameLetter ((Bool.not_eq_true' _).mp hword) hsame

def directionWords : List (String × String) := [("down", "Down"), ("up", "Up")]

lemma directionWords_spelled : ∀ entry ∈ directionWords,
    entry.2.toList.head?.any (fun p => !isSpaceChar p.toLower) = true := by
  decide

lemma directionAt_eq_some_iff {cs : List Char} {direction : String} :
    directionAt cs = some direction ↔ ∃ word written rest,
      (direction, word) ∈ directionWords ∧ cs = written ++ rest ∧ Spells word.toList written := by
  have hword : ∀ word : String, (skipLetters word.toList cs).isSome = true ↔
      ∃ written rest, cs = written ++ rest ∧ Spells word.toList written := by
    intro word
    rw [Option.isSome_iff_exists]
    constructor
    · rintro ⟨rest, hrest⟩
      obtain ⟨written, hcs, hspells⟩ := skipLetters_eq_some_iff.mp hrest
      exact ⟨written, rest, hcs, hspells⟩
    · rintro ⟨written, rest, hcs, hspells⟩
      exact ⟨rest, skipLetters_eq_some_iff.mpr ⟨written, hcs, hspells⟩⟩
  -- no text starts with both words
  have hone : (skipLetters "Up".toList cs).isSome = true →
      (skipLetters "Down".toList cs).isSome = false := by
    intro hup
    rw [Bool.eq_false_iff]
    intro hdown
    obtain ⟨written, rest, rfl, hspells⟩ := (hword "Up").mp hup
    obtain ⟨written', rest', hcs, hspells'⟩ := (hword "Down").mp hdown
    obtain ⟨c, cs, hc, -, rfl⟩ := List.forall₂_cons_left_iff.mp hspells
    obtain ⟨c', cs', hc', -, rfl⟩ := List.forall₂_cons_left_iff.mp hspells'
    obtain rfl := (List.cons.inj hcs).1
    have hu : c.toLower = 'u' := by
      have hsame : sameLetter 'U' c = true := hc
      have hlower : 'U'.toLower = 'u' := rfl
      have hletter : 'u' = c.toLower := by simpa [sameLetter, hlower] using hsame
      exact hletter.symm
    have hd : c.toLower = 'd' := by
      have hsame : sameLetter 'D' c = true := hc'
      have hlower : 'D'.toLower = 'd' := rfl
      have hletter : 'd' = c.toLower := by simpa [sameLetter, hlower] using hsame
      exact hletter.symm
    rw [hu] at hd
    exact absurd hd (by decide)
  rw [directionAt]
  constructor
  · intro h
    split at h
    · rename_i hdown
      obtain rfl := Option.some.inj h
      obtain ⟨written, rest, hcs, hspells⟩ := (hword "Down").mp hdown
      exact ⟨"Down", written, rest, by simp [directionWords], hcs, hspells⟩
    · split at h
      · rename_i hup
        obtain rfl := Option.some.inj h
        obtain ⟨written, rest, hcs, hspells⟩ := (hword "Up").mp hup
        exact ⟨"Up", written, rest, by simp [directionWords], hcs, hspells⟩
      · cases h
  · rintro ⟨word, written, rest, hmem, hcs, hspells⟩
    simp only [directionWords, List.mem_cons, Prod.mk.injEq, List.not_mem_nil, or_false] at hmem
    rcases hmem with ⟨rfl, rfl⟩ | ⟨rfl, rfl⟩
    · rw [if_pos ((hword "Down").mpr ⟨written, rest, hcs, hspells⟩)]
    · have hup := (hword "Up").mpr ⟨written, rest, hcs, hspells⟩
      rw [if_neg (by rw [hone hup]; exact Bool.false_ne_true), if_pos hup]

/-! ### Clauses of an interface -/

def isNameChar (c : Char) : Bool := isInterfaceChar c || isFoldedLetter c

def isClauseName (name : List Char) : Bool :=
  decide (name.length ≤ 63) && (name.head?).any (fun c => c.isAlpha || isFoldedLetter c) &&
    name.all isNameChar

/-- `Interface <name>, changed state to <direction>` at the start of the text. -/
def ClauseAt (found : List Char × String) (cs : List Char) : Prop :=
  isClauseName found.1 = true ∧ ∃ word start gap gap' phrase gap'' letters rest,
    (found.2, word) ∈ directionWords ∧
    cs = start ++ (gap ++ (found.1 ++ ',' :: (gap' ++ (phrase ++ (gap'' ++ (letters ++ rest)))))) ∧
    Spells "Interface".toList start ∧ IsGap gap ∧ (∀ c ∈ gap', isSpaceChar c = true) ∧
    Spells "changed state to".toList phrase ∧ IsGap gap'' ∧ Spells word.toList letters

/-- What `_INTERFACE_TRANSITION` reads, with the name that it passes over. -/
def clauseAt (cs : List Char) : Option (List Char × String) := do
  let cs ← skipLetters "Interface".toList cs
  let cs ← skipSome isSpaceChar cs
  let name := cs.takeWhile isNameChar
  if name.length ≤ 63 ∧ (name.head?).any (fun c => c.isAlpha || isFoldedLetter c) then
    let cs ← skipText [','] (cs.dropWhile isNameChar)
    let cs ← skipLetters "changed state to".toList (cs.dropWhile isSpaceChar)
    let cs ← skipSome isSpaceChar cs
    let direction ← directionAt cs
    some (name, direction)
  else none

lemma interfaceTransitionAt_eq (cs : List Char) :
    interfaceTransitionAt cs = (clauseAt cs).map Prod.snd := by
  have hchar : (fun c => isInterfaceChar c || isFoldedLetter c) = isNameChar := rfl
  rw [interfaceTransitionAt, clauseAt]
  cases skipLetters "Interface".toList cs with
  | none => rfl
  | some cs =>
    simp only [Option.bind_eq_bind, Option.bind_some]
    cases skipSome isSpaceChar cs with
    | none => rfl
    | some cs =>
      simp only [Option.bind_some, hchar]
      split
      · cases skipText [','] (cs.dropWhile isNameChar) with
        | none => rfl
        | some cs =>
          simp only [Option.bind_some]
          cases skipLetters "changed state to".toList (cs.dropWhile isSpaceChar) with
          | none => rfl
          | some cs =>
            simp only [Option.bind_some]
            cases skipSome isSpaceChar cs with
            | none => rfl
            | some cs =>
              simp only [Option.bind_some]
              cases directionAt cs <;> rfl
      · rfl

lemma isNameChar_not_space {c : Char} (h : isNameChar c = true) : isSpaceChar c = false := by
  have hword := CharClasses.ascii.word_not_space c
  rw [Bool.eq_false_iff]
  intro hspace
  have hnot : c.isAlphanum = false ∧ (c == '_') = false := by
    have hc : (c.isAlphanum || c == '_') = false := hword hspace
    simpa using hc
  have hothers : c ≠ '.' ∧ c ≠ '/' ∧ c ≠ '-' := by
    refine ⟨?_, ?_, ?_⟩ <;> (rintro rfl; revert hspace; decide)
  have hfold : isFoldedLetter c = false := by
    rw [Bool.eq_false_iff]
    intro hfold
    simp only [isFoldedLetter, isSpaceChar, Bool.or_eq_true, Bool.and_eq_true, decide_eq_true_eq,
      beq_iff_eq] at hfold hspace
    omega
  simp [isNameChar, isInterfaceChar, hnot, hothers, hfold] at h

lemma clauseAt_eq_some_iff {found : List Char × String} {cs : List Char} :
    clauseAt cs = some found ↔ ClauseAt found cs := by
  obtain ⟨name, direction⟩ := found
  rw [clauseAt]
  constructor
  · intro h
    obtain ⟨cs₁, hstart, h⟩ := Option.bind_eq_some_iff.mp h
    obtain ⟨cs₂, hgap, h⟩ := Option.bind_eq_some_iff.mp h
    dsimp only at h
    split at h
    · rename_i hname
      obtain ⟨cs₃, hcomma, h⟩ := Option.bind_eq_some_iff.mp h
      obtain ⟨cs₄, hphrase, h⟩ := Option.bind_eq_some_iff.mp h
      obtain ⟨cs₅, hgap'', h⟩ := Option.bind_eq_some_iff.mp h
      obtain ⟨direction', hdirection, h⟩ := Option.bind_eq_some_iff.mp h
      cases h
      obtain ⟨start, hcs, hstart⟩ := skipLetters_eq_some_iff.mp hstart
      obtain ⟨gap, hcs₁, hgap, -⟩ := skipSpace_eq_some_iff.mp hgap
      have hcomma := skipText_eq_some_iff.mp hcomma
      obtain ⟨phrase, hcs₃, hphrase⟩ := skipLetters_eq_some_iff.mp hphrase
      obtain ⟨gap'', hcs₄, hgap'', -⟩ := skipSpace_eq_some_iff.mp hgap''
      obtain ⟨word, letters, rest, hmem, hcs₅, hletters⟩ := directionAt_eq_some_iff.mp hdirection
      have hcs₂ : cs₂ = cs₂.takeWhile isNameChar ++ cs₂.dropWhile isNameChar :=
        (List.takeWhile_append_dropWhile).symm
      have hcs₃' : cs₃ = cs₃.takeWhile isSpaceChar ++ cs₃.dropWhile isSpaceChar :=
        (List.takeWhile_append_dropWhile).symm
      refine ⟨?_, word, start, gap, cs₃.takeWhile isSpaceChar, phrase, gap'', letters, rest, hmem,
        ?_, hstart, hgap, fun c hc => List.mem_takeWhile_imp hc, hphrase, hgap'', hletters⟩
      · simp only [isClauseName, Bool.and_eq_true, decide_eq_true_eq, List.all_eq_true]
        exact ⟨hname, fun c hc => List.mem_takeWhile_imp hc⟩
      · rw [hcs₅] at hcs₄
        rw [hcs₄] at hcs₃
        rw [hcs₃] at hcs₃'
        rw [hcomma, hcs₃'] at hcs₂
        rw [hcs₂] at hcs₁
        rw [hcs₁] at hcs
        exact hcs
    · cases h
  · rintro ⟨hname, word, start, gap, gap', phrase, gap'', letters, rest, hmem, rfl, hstart, hgap,
      hgap', hphrase, hgap'', hletters⟩
    simp only [isClauseName, Bool.and_eq_true, decide_eq_true_eq, List.all_eq_true] at hname
    have hnoSpace :
        NoSpaceNext (name ++ ',' :: (gap' ++ (phrase ++ (gap'' ++ (letters ++ rest))))) := by
      intro c hc
      cases name with
      | nil => simp at hname
      | cons d name =>
        rw [← Option.some.inj hc]
        exact isNameChar_not_space (hname.2 d List.mem_cons_self)
    have hcomma : isNameChar ',' = false := by decide
    have htake : (name ++ ',' :: (gap' ++ (phrase ++ (gap'' ++ (letters ++ rest))))).takeWhile
        isNameChar = name := by
      rw [List.takeWhile_append_of_pos hname.2, List.takeWhile_cons, hcomma]
      exact List.append_nil name
    have hdrop : (name ++ ',' :: (gap' ++ (phrase ++ (gap'' ++ (letters ++ rest))))).dropWhile
        isNameChar = ',' :: (gap' ++ (phrase ++ (gap'' ++ (letters ++ rest)))) := by
      rw [List.dropWhile_append_of_pos hname.2, List.dropWhile_cons, hcomma]
      rfl
    have hphrase' : NoSpaceNext (phrase ++ (gap'' ++ (letters ++ rest))) :=
      noSpaceNext_of_spells (by decide) hphrase
    have hdrop' : (gap' ++ (phrase ++ (gap'' ++ (letters ++ rest)))).dropWhile isSpaceChar =
        phrase ++ (gap'' ++ (letters ++ rest)) := by
      rw [List.dropWhile_append_of_pos hgap']
      cases hcs : phrase ++ (gap'' ++ (letters ++ rest)) with
      | nil => rfl
      | cons c cs =>
        rw [hcs] at hphrase'
        rw [List.dropWhile_cons, hphrase' c rfl]
        rfl
    rw [skipLetters_eq_some_iff.mpr ⟨start, rfl, hstart⟩]
    simp only [Option.bind_eq_bind, Option.bind_some]
    rw [skipSpace_eq_some_iff.mpr ⟨gap, rfl, hgap, hnoSpace⟩]
    simp only [Option.bind_some]
    have hskip : ∀ cs, skipText [','] (',' :: cs) = some cs :=
      fun cs => skipText_eq_some_iff.mpr rfl
    rw [htake, hdrop, if_pos hname.1, hskip]
    simp only [Option.bind_some]
    rw [hdrop', skipLetters_eq_some_iff.mpr ⟨phrase, rfl, hphrase⟩]
    simp only [Option.bind_some]
    rw [skipSpace_eq_some_iff.mpr ⟨gap'', rfl, hgap'',
      noSpaceNext_of_spells (directionWords_spelled _ hmem) hletters⟩]
    simp only [Option.bind_some]
    rw [directionAt_eq_some_iff.mpr ⟨word, letters, rest, hmem, rfl, hletters⟩]
    rfl

/-- `Interface <name>,` at the start of the text. -/
def NameAt (name cs : List Char) : Prop :=
  isInterfaceShape name = true ∧ ∃ gap rest,
    cs = "Interface".toList ++ (gap ++ (name ++ ',' :: rest)) ∧ IsGap gap

lemma chars_of_shape {name : List Char} (h : isInterfaceShape name = true) :
    name ≠ [] ∧ ∀ c ∈ name, isInterfaceChar c = true := by
  cases name with
  | nil => cases h
  | cons c cs =>
    rw [isInterfaceShape, Bool.and_eq_true, Bool.and_eq_true, List.all_eq_true] at h
    refine ⟨List.cons_ne_nil c cs, ?_⟩
    intro d hd
    rcases List.mem_cons.mp hd with rfl | hd
    · rw [isInterfaceChar, Char.isAlphanum, h.1.1]
      rfl
    · exact h.2 d hd

lemma noSpaceNext_name {name : List Char} (h : isInterfaceShape name = true) (rest : List Char) :
    NoSpaceNext (name ++ rest) := by
  obtain ⟨hne, hchars⟩ := chars_of_shape h
  intro c hc
  cases name with
  | nil => exact absurd rfl hne
  | cons d name =>
    rw [← Option.some.inj hc]
    apply isNameChar_not_space
    rw [isNameChar, hchars d List.mem_cons_self]
    rfl

lemma interfaceAt_eq_some_iff (name cs : List Char) :
    interfaceAt cs = some name ↔ NameAt name cs := by
  rw [interfaceAt]
  constructor
  · intro h
    obtain ⟨cs₁, hstart, h⟩ := Option.bind_eq_some_iff.mp h
    obtain ⟨cs₂, hgap, h⟩ := Option.bind_eq_some_iff.mp h
    obtain ⟨cs₃, hcomma, h⟩ := Option.bind_eq_some_iff.mp h
    split at h
    · rename_i hshape
      cases h
      have hcs := skipText_eq_some_iff.mp hstart
      obtain ⟨gap, hcs₁, hgap, -⟩ := skipSpace_eq_some_iff.mp hgap
      have hcomma := skipText_eq_some_iff.mp hcomma
      refine ⟨hshape, gap, cs₃, ?_, hgap⟩
      have hcs₂ : cs₂ = cs₂.takeWhile isInterfaceChar ++ cs₂.dropWhile isInterfaceChar :=
        (List.takeWhile_append_dropWhile).symm
      rw [hcomma] at hcs₂
      rw [hcs₂] at hcs₁
      rw [hcs₁] at hcs
      exact hcs
    · cases h
  · rintro ⟨hshape, gap, rest, rfl, hgap⟩
    have hchars := (chars_of_shape hshape).2
    have hcomma : isInterfaceChar ',' = false := by decide
    have htake : (name ++ ',' :: rest).takeWhile isInterfaceChar = name := by
      rw [List.takeWhile_append_of_pos hchars, List.takeWhile_cons, hcomma]
      exact List.append_nil name
    have hdrop : (name ++ ',' :: rest).dropWhile isInterfaceChar = ',' :: rest := by
      rw [List.dropWhile_append_of_pos hchars, List.dropWhile_cons, hcomma]
      rfl
    have hskip : skipText [','] (',' :: rest) = some rest := skipText_eq_some_iff.mpr rfl
    rw [skipText_eq_some_iff.mpr rfl]
    simp only [Option.bind_eq_bind, Option.bind_some]
    rw [skipSpace_eq_some_iff.mpr ⟨gap, rfl, hgap, noSpaceNext_name hshape _⟩]
    simp only [Option.bind_some]
    rw [htake, hdrop, hskip, if_pos hshape]
    rfl

/-- The leftmost clause of the text has the direction, whatever it names. -/
def FirstDirection (direction : String) (text : String) : Prop :=
  ∃ name, Leftmost ClauseAt (name, direction) text.toList

/-- A clause of the text says that the interface has changed to the direction. -/
def HasClause (text name direction : String) : Prop :=
  Occurs (fun cs => ∃ written, Spells name.toList written ∧ ClauseAt (written, direction) cs)
    text.toList

lemma interfaceSubject_eq_some_iff {text name : String} :
    interfaceSubject text = some name ↔ Leftmost NameAt name.toList text.toList := by
  rw [interfaceSubject, ← searchText_eq_some_iff interfaceAt_eq_some_iff, Option.map_eq_some_iff]
  constructor
  · rintro ⟨found, hfound, rfl⟩
    rw [String.toList_ofList]
    exact hfound
  · intro h
    exact ⟨name.toList, h, String.ofList_toList⟩

lemma searchText_map {α β : Type} (f : List Char → Option α) (g : α → β) (cs : List Char) :
    searchText (fun cs => (f cs).map g) cs = (searchText f cs).map g := by
  induction cs with
  | nil => rfl
  | cons c cs ih =>
    rw [searchText, searchText, ih, Option.map_or]

lemma interfaceTransition_eq {text direction : String} (h : direction ≠ "unknown") :
    interfaceTransition text = direction ↔ FirstDirection direction text := by
  have hsearch : searchText interfaceTransitionAt text.toList =
      (searchText clauseAt text.toList).map Prod.snd := by
    rw [← searchText_map]
    congr 1
    funext cs
    exact interfaceTransitionAt_eq cs
  rw [interfaceTransition, hsearch, FirstDirection]
  constructor
  · intro hdirection
    cases hfound : searchText clauseAt text.toList with
    | none =>
      rw [hfound] at hdirection
      exact absurd hdirection.symm h
    | some found =>
      rw [hfound] at hdirection
      obtain rfl : found.2 = direction := hdirection
      exact ⟨found.1, (searchText_eq_some_iff (fun _ _ => clauseAt_eq_some_iff)).mp hfound⟩
  · rintro ⟨name, hleftmost⟩
    rw [(searchText_eq_some_iff (fun _ _ => clauseAt_eq_some_iff)).mpr hleftmost]
    rfl

/-- `neighbor <peer> <direction>` at the start of the text. -/
def NeighborAt (found : List Char × String) (cs : List Char) : Prop :=
  ∃ word start gap gap' letters rest, (found.2, word) ∈ directionWords ∧
    cs = start ++ (gap ++ (found.1 ++ (gap' ++ (letters ++ rest)))) ∧
    Spells "neighbor".toList start ∧ IsGap gap ∧ found.1 ≠ [] ∧
    (∀ c ∈ found.1, isSpaceChar c = false) ∧ IsGap gap' ∧ Spells word.toList letters

lemma neighborAt_eq_some_iff (found : List Char × String) (cs : List Char) :
    neighborAt cs = some found ↔ NeighborAt found cs := by
  obtain ⟨peer, direction⟩ := found
  rw [neighborAt]
  constructor
  · intro h
    obtain ⟨cs₁, hstart, h⟩ := Option.bind_eq_some_iff.mp h
    obtain ⟨cs₂, hgap, h⟩ := Option.bind_eq_some_iff.mp h
    obtain ⟨⟨peer', cs₃⟩, hpeer, h⟩ := Option.bind_eq_some_iff.mp h
    obtain ⟨cs₄, hgap', h⟩ := Option.bind_eq_some_iff.mp h
    obtain ⟨direction', hdirection, h⟩ := Option.bind_eq_some_iff.mp h
    cases h
    obtain ⟨start, hcs, hstart⟩ := skipLetters_eq_some_iff.mp hstart
    obtain ⟨gap, hcs₁, hgap, -⟩ := skipSpace_eq_some_iff.mp hgap
    obtain ⟨hcs₂, hne, hall, -⟩ := takeSome_eq_some_iff.mp hpeer
    obtain ⟨gap', hcs₃, hgap', -⟩ := skipSpace_eq_some_iff.mp hgap'
    obtain ⟨word, letters, rest, hmem, hcs₄, hletters⟩ := directionAt_eq_some_iff.mp hdirection
    refine ⟨word, start, gap, gap', letters, rest, hmem, ?_, hstart, hgap, hne, ?_, hgap',
      hletters⟩
    · rw [hcs, hcs₁, hcs₂, hcs₃, hcs₄]
    · intro c hc
      simpa using hall c hc
  · rintro ⟨word, start, gap, gap', letters, rest, hmem, rfl, hstart, hgap, hne, hall, hgap',
      hletters⟩
    have hpeer : NoSpaceNext (peer ++ (gap' ++ (letters ++ rest))) := by
      intro c hc
      cases peer with
      | nil => exact absurd rfl hne
      | cons d peer =>
        rw [← Option.some.inj hc]
        exact hall d List.mem_cons_self
    have htake : takeSome (fun c => !isSpaceChar c) (peer ++ (gap' ++ (letters ++ rest))) =
        some (peer, gap' ++ (letters ++ rest)) := by
      refine takeSome_eq_some_iff.mpr ⟨rfl, hne, ?_, ?_⟩
      · intro c hc
        rw [hall c hc]
        rfl
      · intro c hc
        cases gap' with
        | nil => exact absurd rfl hgap'.1
        | cons d gap' =>
          rw [← Option.some.inj hc, hgap'.2 d List.mem_cons_self]
          rfl
    rw [skipLetters_eq_some_iff.mpr ⟨start, rfl, hstart⟩]
    simp only [Option.bind_eq_bind, Option.bind_some]
    rw [skipSpace_eq_some_iff.mpr ⟨gap, rfl, hgap, hpeer⟩]
    simp only [Option.bind_some]
    rw [htake]
    simp only [Option.bind_some]
    rw [skipSpace_eq_some_iff.mpr ⟨gap', rfl, hgap',
      noSpaceNext_of_spells (directionWords_spelled _ hmem) hletters⟩]
    simp only [Option.bind_some]
    rw [directionAt_eq_some_iff.mpr ⟨word, letters, rest, hmem, rfl, hletters⟩]
    rfl

/-- The leftmost neighbour clause of the text names the address and has the direction. -/
def FirstNeighbor (text subject direction : String) : Prop :=
  ∃ peer address, Leftmost NeighborAt (peer, direction) text.toList ∧
    Ipaddress.IPv4Address.ofText (String.ofList peer) = some address ∧ subject = address.text

lemma firstNeighbor_of_subject {text subject : String} (h : ipv4Subject text = some subject) :
    FirstNeighbor text subject (bgpTransition text) := by
  rw [ipv4Subject] at h
  obtain ⟨⟨peer, direction⟩, hfound, h⟩ := Option.bind_eq_some_iff.mp h
  obtain ⟨address, haddress, h⟩ := Option.bind_eq_some_iff.mp h
  refine ⟨peer, address, ?_, haddress, (Option.some.inj h).symm⟩
  rw [bgpTransition, hfound]
  exact (searchText_eq_some_iff neighborAt_eq_some_iff).mp hfound

variable {inventory : List String} {sourceKind rawEvent mnemonic text flow : String}
  {extract : String → Option String} {device : Option String}

lemma route_listed (inventory : List String) (sourceKind rawEvent text : String)
    (device : Option String) (h : mnemonicFlowTable.lookup mnemonic = some (flow, extract)) :
    (∀ s, (routeIosxrEnvelope inventory ⟨sourceKind, rawEvent, some mnemonic, some text⟩
        device).subject = some s ↔
      (∃ name, KnownDevice inventory (device.map Value.str) name) ∧ extract text = some s) ∧
    (routeIosxrEnvelope inventory ⟨sourceKind, rawEvent, some mnemonic, some text⟩
        device).transition = transitionFor mnemonic text ∧
    ∀ s, (routeIosxrEnvelope inventory ⟨sourceKind, rawEvent, some mnemonic, some text⟩
        device).subject = some s →
      ((routeIosxrEnvelope inventory ⟨sourceKind, rawEvent, some mnemonic, some text⟩
        device).routable = true ↔
        transitionFor mnemonic text ≠ some "up" ∧
          transitionFor mnemonic text ≠ some "unknown") := by
  rw [routeIosxrEnvelope]
  simp only [h]
  cases hdevice : validatedDevice inventory (device.map Value.str) with
  | error problem =>
    have hunknown : ¬∃ name, KnownDevice inventory (device.map Value.str) name := by
      rintro ⟨name, hname⟩
      rw [validatedDevice_ok_iff.mpr hname] at hdevice
      cases hdevice
    exact ⟨fun s => iff_of_false (fun h => by cases h) (fun hs => hunknown hs.1), rfl,
      fun s h => by cases h⟩
  | ok name =>
    have hknown : ∃ name, KnownDevice inventory (device.map Value.str) name :=
      ⟨name, validatedDevice_ok_iff.mp hdevice⟩
    cases hsubject : extract text with
    | none =>
      exact ⟨fun s => iff_of_false (fun h => by cases h) (fun hs => by cases hs.2), rfl,
        fun s h => by cases h⟩
    | some subject =>
      dsimp only
      by_cases hup : transitionFor mnemonic text = some "up"
      · rw [if_pos hup]
        exact ⟨fun s => (and_iff_right hknown).symm, rfl,
          fun s _ => iff_of_false Bool.false_ne_true (fun hs => hs.1 hup)⟩
      · rw [if_neg hup]
        by_cases hunknown : transitionFor mnemonic text = some "unknown"
        · rw [if_pos hunknown]
          exact ⟨fun s => (and_iff_right hknown).symm, rfl,
            fun s _ => iff_of_false Bool.false_ne_true (fun hs => hs.2 hunknown)⟩
        · rw [if_neg hunknown]
          exact ⟨fun s => (and_iff_right hknown).symm, rfl,
            fun s _ => iff_of_true rfl ⟨hup, hunknown⟩⟩

/-- The subject of a decision and its direction come from one clause of the message. -/
structure SameClause (mnemonic text : String) (d : RoutingDecision) : Prop where
  interfaceFault : mnemonic ∈ interfaceMnemonics → d.routable = true →
    ∀ s, d.subject = some s → HasClause text s "down"
  interfaceRecovery : mnemonic ∈ interfaceMnemonics → d.routable = false →
    d.transition = some "up" → ∀ s, d.subject = some s → HasClause text s "up"
  neighborFault : mnemonic = "ROUTING-BGP-5-ADJCHANGE" → d.routable = true →
    ∀ s, d.subject = some s → FirstNeighbor text s "down"
  neighborRecovery : mnemonic = "ROUTING-BGP-5-ADJCHANGE" → d.routable = false →
    d.transition = some "up" → ∀ s, d.subject = some s → FirstNeighbor text s "up"

/-- The interface that the text names first has a clause of the direction of the first clause. -/
def FirstNameHasClause (text : String) : Prop :=
  ∀ name direction, Leftmost NameAt name.toList text.toList → FirstDirection direction text →
    HasClause text name direction

lemma direction_of_firstDirection {direction : String} (h : FirstDirection direction text) :
    direction = "down" ∨ direction = "up" := by
  obtain ⟨_, _, -, ⟨-, word, _, _, _, _, _, _, _, hmem, -⟩, -⟩ := h
  simp only [directionWords, List.mem_cons, Prod.mk.injEq, List.not_mem_nil, or_false] at hmem
  exact hmem.imp And.left And.left

/-- The subject and the direction come from one clause exactly when the interface named first has
a clause of the first direction. -/
theorem sameClause_iff (inventory : List String) (sourceKind rawEvent mnemonic text : String)
    (device : Option String) :
    SameClause mnemonic text
        (routeIosxrEnvelope inventory ⟨sourceKind, rawEvent, some mnemonic, some text⟩ device) ↔
      (mnemonic ∈ interfaceMnemonics → (∃ name, KnownDevice inventory (device.map Value.str) name) →
        FirstNameHasClause text) := by
  constructor
  · intro h hmnemonic hknown name direction hname hdirection
    obtain ⟨hlookup, htransition⟩ := lookup_interfaceMnemonics hmnemonic
    obtain ⟨hsubject, hd, hroutable⟩ :=
      route_listed inventory sourceKind rawEvent text device hlookup
    rw [htransition] at hd hroutable
    have hs := (hsubject name).mpr ⟨hknown, interfaceSubject_eq_some_iff.mpr hname⟩
    rcases direction_of_firstDirection hdirection with rfl | rfl
    · have hdown : interfaceTransition text = "down" :=
        (interfaceTransition_eq (by decide)).mpr hdirection
      rw [hdown] at hroutable
      exact h.interfaceFault hmnemonic ((hroutable name hs).mpr (by decide)) name hs
    · have hup : interfaceTransition text = "up" :=
        (interfaceTransition_eq (by decide)).mpr hdirection
      rw [hup] at hd hroutable
      have hrefused := (hroutable name hs).not.mpr (by decide)
      exact h.interfaceRecovery hmnemonic (Bool.eq_false_iff.mpr hrefused) hd name hs
  · intro h
    have hinterface : mnemonic ∈ interfaceMnemonics → ∀ direction s, direction ≠ "unknown" →
        (routeIosxrEnvelope inventory ⟨sourceKind, rawEvent, some mnemonic, some text⟩
          device).subject = some s →
        interfaceTransition text = direction → HasClause text s direction := by
      intro hmnemonic direction s hne hs hdirection
      obtain ⟨hlookup, -⟩ := lookup_interfaceMnemonics hmnemonic
      obtain ⟨hknown, hname⟩ := ((route_listed _ _ _ _ _ hlookup).1 s).mp hs
      exact h hmnemonic hknown s direction (interfaceSubject_eq_some_iff.mp hname)
        ((interfaceTransition_eq hne).mp hdirection)
    have hlookup : mnemonicFlowTable.lookup "ROUTING-BGP-5-ADJCHANGE" =
      some ("bgp_session", ipv4Subject) := rfl
    have htransition : transitionFor "ROUTING-BGP-5-ADJCHANGE" text = some (bgpTransition text) :=
      rfl
    refine ⟨?_, ?_, ?_, ?_⟩
    · intro hmnemonic hroutable s hs
      apply hinterface hmnemonic "down" s (by decide) hs
      obtain ⟨hlisted, htext⟩ := lookup_interfaceMnemonics hmnemonic
      have hfault := ((route_listed _ _ _ _ _ hlisted).2.2 s hs).mp hroutable
      rw [htext] at hfault
      rcases interfaceTransition_cases text with hdown | hup | hunknown
      · exact hdown
      · exact absurd (congrArg some hup) hfault.1
      · exact absurd (congrArg some hunknown) hfault.2
    · intro hmnemonic _ hup s hs
      apply hinterface hmnemonic "up" s (by decide) hs
      obtain ⟨hlisted, htext⟩ := lookup_interfaceMnemonics hmnemonic
      rw [(route_listed _ _ _ _ _ hlisted).2.1, htext] at hup
      exact Option.some.inj hup
    · rintro rfl hroutable s hs
      have hfound := firstNeighbor_of_subject (((route_listed _ _ _ _ _ hlookup).1 s).mp hs).2
      have hfault := ((route_listed _ _ _ _ _ hlookup).2.2 s hs).mp hroutable
      rw [htransition] at hfault
      rcases bgpTransition_cases text with hdown | hup | hunknown
      · rwa [hdown] at hfound
      · exact absurd (congrArg some hup) hfault.1
      · exact absurd (congrArg some hunknown) hfault.2
    · rintro rfl - hup s hs
      have hfound := firstNeighbor_of_subject (((route_listed _ _ _ _ _ hlookup).1 s).mp hs).2
      rw [(route_listed _ _ _ _ _ hlookup).2.1, htransition] at hup
      rwa [Option.some.inj hup] at hfound

def twoInterfaces : String :=
  "Interface GigabitEthernet0/0/0/0, line errors; Interface GigabitEthernet0/0/0/1, " ++
    "changed state to Down"

theorem not_sameClause_twoInterfaces :
    ¬SameClause "PKT_INFRA-LINK-3-UPDOWN" twoInterfaces
      (routeIosxrEnvelope ["PE1"] ⟨"syslog", "", some "PKT_INFRA-LINK-3-UPDOWN", some twoInterfaces⟩
        (some "PE1")) := by
  intro h
  have hdecision : (routeIosxrEnvelope ["PE1"]
      ⟨"syslog", "", some "PKT_INFRA-LINK-3-UPDOWN", some twoInterfaces⟩ (some "PE1")).routable =
        true ∧
      (routeIosxrEnvelope ["PE1"]
        ⟨"syslog", "", some "PKT_INFRA-LINK-3-UPDOWN", some twoInterfaces⟩ (some "PE1")).subject =
          some "GigabitEthernet0/0/0/0" := by
    decide +kernel
  obtain ⟨cs, hsuffix, written, hspells, hclause⟩ :=
    h.interfaceFault (by decide) hdecision.1 _ hdecision.2
  have hnone : ∀ cs ∈ twoInterfaces.toList.tails, ∀ found ∈ clauseAt cs,
      found.1 = "GigabitEthernet0/0/0/1".toList := by
    decide +kernel
  have hname := hnone cs ((List.mem_tails cs _).mpr hsuffix) _ (clauseAt_eq_some_iff.mpr hclause)
  dsimp only at hname
  rw [hname] at hspells
  have hread := skipLetters_eq_some_iff.mpr ⟨_, (List.append_nil _).symm, hspells⟩
  revert hread
  decide

end NetTools
