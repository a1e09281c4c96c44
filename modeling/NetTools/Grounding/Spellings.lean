import Mathlib.Data.List.Find
import NetTools.Grounding.Identifiers
import NetTools.Library.Trimming

/-!
# The spellings of an interface name

A name is a declared form with something after it that no letter starts. What `canonical`,
`classify` and `canonical_identifier` make of a name is said here by that form and that rest.
-/

namespace NetTools

namespace Grounding

/-- The tables of `str` and `re` that the names are read with: `str.isalpha`, `\d`, and `str.lower`,
which leaves what follows a letter in a way that does not depend on the letter. -/
structure NameTables where
  classes : CharClasses
  isAlpha : Char → Bool
  lower : String → String
  after : List Char → List Char
  alpha_of_letter : ∀ c, c.isAlpha = true → isAlpha c = true
  digit_not_name : ∀ c, classes.isDigit c = true → isNameLetter c = false
  lower_name : ∀ head, (∀ c ∈ head, isNameLetter c = true) →
    lower (String.ofList head) = String.ofList (head.map Char.toLower)
  lower_append : ∀ head rest, (∀ c ∈ head, isNameLetter c = true) →
    head.getLast?.any Char.isAlpha = true →
      lower (String.ofList (head ++ rest)) = String.ofList (head.map Char.toLower ++ after rest)

def NameTables.ascii : NameTables where
  classes := CharClasses.ascii
  isAlpha := Char.isAlpha
  lower text := String.ofList (text.toList.map Char.toLower)
  after := List.map Char.toLower
  alpha_of_letter := fun _ h => h
  digit_not_name := by
    intro c h
    rw [Bool.eq_false_iff]
    intro hname
    have hval : c.val.toNat = c.toNat := rfl
    have hdigit : 48 ≤ c.toNat ∧ c.toNat ≤ 57 := by
      simp only [CharClasses.ascii, Char.isDigit, Bool.and_eq_true, decide_eq_true_eq, ge_iff_le,
        UInt32.le_iff_toNat_le] at h
      exact h
    simp only [isNameLetter, isAlpha_eq, Bool.or_eq_true, Bool.and_eq_true, decide_eq_true_eq,
      beq_iff_eq, ge_iff_le, UInt32.le_iff_toNat_le] at hname
    rcases hname with (⟨h₁, h₂⟩ | ⟨h₁, h₂⟩) | rfl
    · exact absurd (le_trans h₁ hdigit.2) (by decide)
    · exact absurd (le_trans h₁ hdigit.2) (by decide)
    · exact absurd hdigit.1 (by decide)
  lower_name := by
    intro head _
    rw [String.toList_ofList]
  lower_append := by
    intro head rest _ _
    rw [String.toList_ofList, List.map_append]

/-- `canonical` over any table of letters. -/
def abbreviatesOver (isAlpha : Char → Bool) (short name : String) : Bool :=
  pyStartsWith name short && ((afterShort short name).head?.all (fun c => !isAlpha c))

def canonicalOver (isAlpha : Char → Bool) (name : String) : String :=
  let name := pyStrip name
  if name = "" then ""
  else match interfaceExpansions.find? (fun entry => abbreviatesOver isAlpha entry.1 name) with
    | some (short, long) => long ++ String.ofList (afterShort short name)
    | none => name

def sameInterfaceOver (isAlpha : Char → Bool) (left right : String) : Bool :=
  left != "" && canonicalOver isAlpha left == canonicalOver isAlpha right

/-- The name is the form with `rest` after it, which no letter starts. -/
structure Spells (T : NameTables) (name form : String) (rest : List Char) : Prop where
  text : (pyStrip name).toList = form.toList ++ rest
  stops : ∀ c ∈ rest.head?, T.isAlpha c = false

lemma toList_pyStrip (s : String) : (pyStrip s).toList = Trimming.trim isSpaceChar s.toList :=
  String.toList_ofList

lemma stripSpaces_eq (cs : List Char) : stripSpaces cs = Trimming.trim isSpaceChar cs := rfl

lemma pyStrip_eq_self {s : String} (h : Trimming.Trimmed isSpaceChar s.toList) : pyStrip s = s := by
  apply String.toList_inj.mp
  rw [toList_pyStrip, Trimming.trim_eq_self h]

lemma pyStrip_pyStrip (s : String) : pyStrip (pyStrip s) = pyStrip s := by
  apply String.toList_inj.mp
  rw [toList_pyStrip, toList_pyStrip, Trimming.trim_trim]

lemma trimmed_pyStrip (s : String) : Trimming.Trimmed isSpaceChar (pyStrip s).toList := by
  rw [toList_pyStrip]
  exact Trimming.trimmed_trim _

/-! ### The table of forms -/

lemma forms_apart : ∀ entry ∈ interfaceExpansions, ∀ other ∈ interfaceExpansions,
    entry.1.toList <+: other.1.toList →
      entry = other ∨
        (other.1.toList.drop entry.1.toList.length).head?.any Char.isAlpha = true := by
  decide +kernel

lemma forms_read : ∀ entry ∈ interfaceExpansions,
    ((entry.2, entry.2) ∈ interfaceExpansions ∧
      entry.2.toList ≠ [] ∧ entry.2.toList.all (fun c => !isSpaceChar c) = true) ∧
    (pyStrip entry.1 = entry.1 ∧ entry.1 ≠ "" ∧ '.' ∉ entry.1.toList) ∧
    entry.1.toList.all isNameLetter = true ∧ entry.1.toList.length ≤ 21 ∧
      entry.1.toList.head?.any Char.isAlpha = true ∧
      entry.1.toList.getLast?.any Char.isAlpha = true := by
  decide +kernel

lemma long_mem (entry : String × String) (he : entry ∈ interfaceExpansions) :
    (entry.2, entry.2) ∈ interfaceExpansions :=
  (forms_read entry he).1.1

lemma long_trimmed (entry : String × String) (he : entry ∈ interfaceExpansions) :
    entry.2.toList ≠ [] ∧ ∀ c ∈ entry.2.toList, isSpaceChar c = false := by
  obtain ⟨-, hne, hall⟩ := (forms_read entry he).1
  refine ⟨hne, fun c hc => ?_⟩
  exact (Bool.not_eq_true' _).mp (List.all_eq_true.mp hall c hc)

section Spelled

variable {T : NameTables} {name form : String} {rest : List Char}

lemma abbreviatesOver_iff {isAlpha : Char → Bool} {short name : String} :
    abbreviatesOver isAlpha short name = true ↔
      short.toList <+: name.toList ∧
        ∀ c ∈ (afterShort short name).head?, isAlpha c = false := by
  simp [abbreviatesOver, pyStartsWith, Option.all_eq_true, List.isPrefixOf_iff_prefix]

lemma Spells.afterShort_eq (h : Spells T name form rest) :
    afterShort form (pyStrip name) = rest := by
  rw [afterShort, h.text, ← String.length_toList, List.drop_left]

lemma Spells.abbreviates (h : Spells T name form rest) :
    abbreviatesOver T.isAlpha form (pyStrip name) = true := by
  rw [abbreviatesOver_iff, h.afterShort_eq]
  exact ⟨⟨rest, h.text.symm⟩, h.stops⟩

lemma spells_of_abbreviates {name form : String}
    (h : abbreviatesOver T.isAlpha form (pyStrip name) = true) :
    Spells T name form (afterShort form (pyStrip name)) := by
  rw [abbreviatesOver_iff] at h
  obtain ⟨⟨back, hback⟩, hstops⟩ := h
  refine ⟨?_, hstops⟩
  rw [afterShort, ← hback, ← String.length_toList, List.drop_left]

lemma entry_eq_of_initial {entry other : String × String} (he : entry ∈ interfaceExpansions)
    (ho : other ∈ interfaceExpansions) {front back : List Char}
    (h : entry.1.toList ++ front = other.1.toList ++ back)
    (hstops : ∀ c ∈ front.head?, T.isAlpha c = false)
    (hshort : entry.1.toList <+: other.1.toList) : entry = other := by
  rcases forms_apart entry he other ho hshort with heq | hletter
  · exact heq
  · obtain ⟨q, hq⟩ := hshort
    rw [← hq, List.drop_left] at hletter
    rw [← hq, List.append_assoc, List.append_cancel_left_eq] at h
    cases q with
    | nil => cases hletter
    | cons c q =>
      have hstop := hstops c (by rw [h]; rfl)
      rw [T.alpha_of_letter c hletter] at hstop
      cases hstop

lemma spells_unique {name' : String} {entry other : String × String} {rest rest' : List Char}
    (he : entry ∈ interfaceExpansions) (ho : other ∈ interfaceExpansions)
    (h : Spells T name entry.1 rest) (h' : Spells T name' other.1 rest')
    (hname : pyStrip name = pyStrip name') : entry = other ∧ rest = rest' := by
  have htext : entry.1.toList ++ rest = other.1.toList ++ rest' := by
    rw [← h.text, ← h'.text, hname]
  have hentry : entry = other := by
    rcases List.prefix_or_prefix_of_prefix ⟨rest, rfl⟩ ⟨rest', htext.symm⟩ with hle | hle
    · exact entry_eq_of_initial he ho htext h.stops hle
    · exact (entry_eq_of_initial ho he htext.symm h'.stops hle).symm
  refine ⟨hentry, ?_⟩
  rw [hentry, List.append_cancel_left_eq] at htext
  exact htext

lemma canonicalOver_of_spells {entry : String × String} (he : entry ∈ interfaceExpansions)
    (h : Spells T name entry.1 rest) :
    canonicalOver T.isAlpha name = entry.2 ++ String.ofList rest := by
  have hne : pyStrip name ≠ "" := by
    intro hempty
    have htext := h.text
    rw [hempty] at htext
    have hform := (List.append_eq_nil_iff.mp htext.symm).1
    have hnil : ∀ entry ∈ interfaceExpansions, entry.1.toList ≠ [] := by decide
    exact hnil entry he hform
  have hfound : interfaceExpansions.find?
      (fun other => abbreviatesOver T.isAlpha other.1 (pyStrip name)) = some entry := by
    have hsome : (interfaceExpansions.find?
        (fun other => abbreviatesOver T.isAlpha other.1 (pyStrip name))).isSome = true :=
      List.find?_isSome.mpr ⟨entry, he, h.abbreviates⟩
    obtain ⟨other, hother⟩ := Option.isSome_iff_exists.mp hsome
    have habbreviates : abbreviatesOver T.isAlpha other.1 (pyStrip name) = true := by
      have h := List.find?_some hother
      exact h
    have hspells := spells_of_abbreviates habbreviates
    rw [hother, (spells_unique he (List.mem_of_find?_eq_some hother) h hspells rfl).1]
  unfold canonicalOver
  rw [if_neg hne, hfound]
  dsimp only
  rw [h.afterShort_eq]

lemma canonicalOver_of_not_spelled
    (h : ∀ entry ∈ interfaceExpansions, ∀ rest, ¬Spells T name entry.1 rest) :
    canonicalOver T.isAlpha name = pyStrip name := by
  have hnone : interfaceExpansions.find?
      (fun other => abbreviatesOver T.isAlpha other.1 (pyStrip name)) = none := by
    rw [List.find?_eq_none]
    intro entry he habbreviates
    exact h entry he _ (spells_of_abbreviates habbreviates)
  unfold canonicalOver
  dsimp only
  rw [hnone]
  by_cases hempty : pyStrip name = ""
  · rw [if_pos hempty, hempty]
  · rw [if_neg hempty]

lemma Spells.long {entry : String × String} (he : entry ∈ interfaceExpansions)
    (h : Spells T name entry.1 rest) :
    pyStrip (entry.2 ++ String.ofList rest) = entry.2 ++ String.ofList rest ∧
      Spells T (entry.2 ++ String.ofList rest) entry.2 rest := by
  have htrimmed := trimmed_pyStrip name
  rw [h.text] at htrimmed
  obtain ⟨hne, hlong⟩ := long_trimmed entry he
  have hstrip : pyStrip (entry.2 ++ String.ofList rest) = entry.2 ++ String.ofList rest := by
    apply pyStrip_eq_self
    rw [String.toList_append, String.toList_ofList]
    constructor
    · rw [List.head?_append_of_ne_nil _ hne]
      exact fun c hc => hlong c (List.mem_of_mem_head? hc)
    · cases hrest : rest with
      | nil =>
        rw [List.append_nil]
        exact fun c hc => hlong c (List.mem_of_mem_getLast? hc)
      | cons c cs =>
        have hlast := htrimmed.2
        rw [List.getLast?_append_of_ne_nil _ (by simp [hrest]), hrest] at hlast
        rw [List.getLast?_append_of_ne_nil _ (by simp)]
        exact hlast
  refine ⟨hstrip, ?_, h.stops⟩
  rw [hstrip, String.toList_append, String.toList_ofList]

theorem canonicalOver_idempotent (T : NameTables) (name : String) :
    canonicalOver T.isAlpha (canonicalOver T.isAlpha name) = canonicalOver T.isAlpha name := by
  by_cases h : ∃ entry ∈ interfaceExpansions, ∃ rest, Spells T name entry.1 rest
  · obtain ⟨entry, he, rest, h⟩ := h
    rw [canonicalOver_of_spells he h]
    exact @canonicalOver_of_spells T _ _ (entry.2, entry.2) (long_mem entry he) (h.long he).2
  · push Not at h
    have hstripped : ∀ entry ∈ interfaceExpansions, ∀ rest,
        ¬Spells T (pyStrip name) entry.1 rest := by
      rintro entry he rest ⟨htext, hstops⟩
      rw [pyStrip_pyStrip] at htext
      exact h entry he rest ⟨htext, hstops⟩
    rw [canonicalOver_of_not_spelled h, canonicalOver_of_not_spelled hstripped, pyStrip_pyStrip]

lemma canonicalOver_eq_empty_iff :
    canonicalOver T.isAlpha name = "" ↔ isBlank name = true := by
  rw [isBlank_iff_strip]
  by_cases h : ∃ entry ∈ interfaceExpansions, ∃ rest, Spells T name entry.1 rest
  · obtain ⟨entry, he, rest, h⟩ := h
    rw [canonicalOver_of_spells he h, String.append_eq_empty_iff]
    have hnil : ∀ entry ∈ interfaceExpansions, entry.1.toList ≠ [] ∧ entry.2 ≠ "" := by decide
    constructor
    · exact fun hempty => absurd hempty.1 (hnil entry he).2
    · intro hempty
      have htext := h.text
      rw [hempty] at htext
      exact absurd (List.append_eq_nil_iff.mp htext.symm).1 (hnil entry he).1
  · push Not at h
    rw [canonicalOver_of_not_spelled h]

theorem canonicalOver_eq_iff {left right : String} :
    canonicalOver T.isAlpha left = canonicalOver T.isAlpha right ↔
      pyStrip left = pyStrip right ∨
        ∃ entry ∈ interfaceExpansions, ∃ other ∈ interfaceExpansions, entry.2 = other.2 ∧
          ∃ rest, Spells T left entry.1 rest ∧ Spells T right other.1 rest := by
  constructor
  · intro heq
    by_cases hl : ∃ entry ∈ interfaceExpansions, ∃ rest, Spells T left entry.1 rest
    · obtain ⟨entry, he, rest, hl⟩ := hl
      rw [canonicalOver_of_spells he hl] at heq
      obtain ⟨hstrip, hlong⟩ := hl.long he
      by_cases hr : ∃ other ∈ interfaceExpansions, ∃ rest, Spells T right other.1 rest
      · obtain ⟨other, ho, rest', hr⟩ := hr
        rw [canonicalOver_of_spells ho hr] at heq
        obtain ⟨hsame, hrest⟩ := spells_unique (long_mem entry he) (long_mem other ho) hlong
          (hr.long ho).2 (by rw [heq])
        rw [← hrest] at hr
        exact .inr ⟨entry, he, other, ho, (Prod.mk.inj hsame).1, rest, hl, hr⟩
      · push Not at hr
        rw [canonicalOver_of_not_spelled hr] at heq
        rw [heq] at hlong
        exact absurd ⟨pyStrip_pyStrip right ▸ hlong.text, hlong.stops⟩
          (hr _ (long_mem entry he) rest)
    · push Not at hl
      rw [canonicalOver_of_not_spelled hl] at heq
      by_cases hr : ∃ other ∈ interfaceExpansions, ∃ rest, Spells T right other.1 rest
      · obtain ⟨other, ho, rest, hr⟩ := hr
        rw [canonicalOver_of_spells ho hr] at heq
        have hlong := (hr.long ho).2
        rw [← heq] at hlong
        exact absurd ⟨pyStrip_pyStrip left ▸ hlong.text, hlong.stops⟩
          (hl _ (long_mem other ho) rest)
      · push Not at hr
        rw [canonicalOver_of_not_spelled hr] at heq
        exact .inl heq
  · rintro (heq | ⟨entry, he, other, ho, hlong, rest, hl, hr⟩)
    · unfold canonicalOver
      rw [heq]
    · rw [canonicalOver_of_spells he hl, canonicalOver_of_spells ho hr, hlong]

example : sameInterface "Gi0/0/0/1" "GigabitEthernet0/0/0/1" = true ∧
    sameInterface "Gi0/0/0/1" "Gi0/0/0/10" = false := by decide +kernel

lemma starts_apart : ∀ entry ∈ interfaceExpansions, ∀ start ∈ kindTables.flatMap Prod.fst,
    entry.1.toList <+: start.toList → start.toList <+: entry.1.toList ∨
      (start.toList.drop entry.1.toList.length).head?.any Char.isAlpha = true := by
  decide +kernel

lemma pyStartsWith_of_spells {entry : String × String} (he : entry ∈ interfaceExpansions)
    (h : Spells T name entry.1 rest) {start : String}
    (hstart : start ∈ kindTables.flatMap Prod.fst) :
    pyStartsWith (pyStrip name) start = pyStartsWith entry.1 start := by
  rw [Bool.eq_iff_iff, pyStartsWith, pyStartsWith, List.isPrefixOf_iff_prefix,
    List.isPrefixOf_iff_prefix, h.text]
  constructor
  · intro hle
    rcases List.prefix_or_prefix_of_prefix hle ⟨rest, rfl⟩ with hform | hform
    · exact hform
    · rcases starts_apart entry he start hstart hform with hshort | hletter
      · exact hshort
      · obtain ⟨q, hq⟩ := hform
        rw [← hq, List.drop_left] at hletter
        rw [← hq, List.prefix_append_right_inj] at hle
        obtain ⟨back, hback⟩ := hle
        cases q with
        | nil => cases hletter
        | cons c q =>
          have hstop := h.stops c (by rw [← hback]; rfl)
          rw [T.alpha_of_letter c hletter] at hstop
          cases hstop
  · exact fun hle => hle.trans ⟨rest, rfl⟩

lemma form_plain (entry : String × String) (he : entry ∈ interfaceExpansions) :
    pyStrip entry.1 = entry.1 ∧ entry.1 ≠ "" ∧ '.' ∉ entry.1.toList :=
  (forms_read entry he).2.1

theorem classify_of_spells {entry : String × String} (he : entry ∈ interfaceExpansions)
    (h : Spells T name entry.1 rest) :
    classify name = if '.' ∈ rest then .subinterface else classify entry.1 := by
  obtain ⟨hstrip, hne, hdot⟩ := form_plain entry he
  have hname : pyStrip name ≠ "" := by
    intro hempty
    have htext := h.text
    rw [hempty] at htext
    exact hne (String.toList_inj.mp (List.append_eq_nil_iff.mp htext.symm).1)
  have hcontains : (pyStrip name).toList.contains '.' = true ↔ '.' ∈ rest := by
    rw [List.contains_iff_mem, h.text, List.mem_append, or_iff_right hdot]
  by_cases hrest : '.' ∈ rest
  · rw [if_pos hrest]
    unfold classify
    rw [if_neg hname, if_pos (hcontains.mpr hrest)]
  · have hform : ¬entry.1.toList.contains '.' = true := by
      rw [List.contains_iff_mem]
      exact hdot
    have htables : ∀ table ∈ kindTables,
        table.1.any (fun start => pyStartsWith (pyStrip name) start) =
          table.1.any (fun start => pyStartsWith entry.1 start) := by
      intro table htable
      rw [Bool.eq_iff_iff, List.any_eq_true, List.any_eq_true]
      refine exists_congr fun start => and_congr_right fun hstart => ?_
      rw [pyStartsWith_of_spells he h (List.mem_flatMap.mpr ⟨table, htable, hstart⟩)]
    rw [if_neg hrest]
    unfold classify
    dsimp only
    rw [hstrip, if_neg hname, if_neg (mt hcontains.mp hrest), if_neg hne, if_neg hform,
      List.find?_congr htables]

/-- The short forms of tunnels, which no table of `classify` has. -/
def shortTunnels : List String := ["ti", "tt"]

lemma classify_forms : ∀ entry ∈ interfaceExpansions, ∀ other ∈ interfaceExpansions,
    entry.2 = other.2 → (classify entry.1 = classify other.1 ↔
      entry.1 ≠ other.1 → entry.1 ∉ shortTunnels ∧ other.1 ∉ shortTunnels) := by
  decide +kernel

/-! ### `canonical_identifier` -/

lemma form_named (entry : String × String) (he : entry ∈ interfaceExpansions) :
    (∀ c ∈ entry.1.toList, isNameLetter c = true) ∧ entry.1.toList.length ≤ 21 ∧
      entry.1.toList.head?.any Char.isAlpha = true ∧
      entry.1.toList.getLast?.any Char.isAlpha = true := by
  obtain ⟨hall, hrest⟩ := (forms_read entry he).2.2
  exact ⟨List.all_eq_true.mp hall, hrest⟩

lemma name_bounds {c : Char} (h : isNameLetter c = true) : 45 ≤ c.toNat ∧ c.toNat ≤ 122 := by
  simp only [isNameLetter, isAlpha_eq, Bool.or_eq_true, Bool.and_eq_true, decide_eq_true_eq,
    beq_iff_eq, ge_iff_le, UInt32.le_iff_toNat_le] at h
  have hval : c.val.toNat = c.toNat := rfl
  rcases h with (⟨h₁, h₂⟩ | ⟨h₁, h₂⟩) | rfl
  · exact ⟨le_trans (by decide) h₁, le_trans h₂ (by decide)⟩
  · exact ⟨le_trans (by decide) h₁, le_trans h₂ (by decide)⟩
  · decide

lemma name_plain {c : Char} (h : isNameLetter c = true) :
    isSpaceChar c = false ∧ isPunctuation c = false ∧ c ≠ '\'' ∧ c ≠ '’' ∧ c ≠ '(' ∧ c ≠ '[' := by
  have hother : ∀ d, isNameLetter d = false → c ≠ d := by
    rintro d hd rfl
    rw [h] at hd
    cases hd
  refine ⟨?_, ?_, hother _ (by decide), hother _ (by decide), hother _ (by decide),
    hother _ (by decide)⟩
  · obtain ⟨hlow, hhigh⟩ := name_bounds h
    rw [Bool.eq_false_iff]
    intro hspace
    simp only [isSpaceChar, Bool.or_eq_true, Bool.and_eq_true, decide_eq_true_eq,
      beq_iff_eq] at hspace
    omega
  · rw [Bool.eq_false_iff]
    intro hpunct
    simp only [isPunctuation, decide_eq_true_eq, List.mem_cons, List.not_mem_nil,
      or_false] at hpunct
    rcases hpunct with rfl | rfl | rfl | rfl | rfl | rfl | rfl | rfl <;> cases h

lemma isTail_of_name {c : Char} (h : isNameLetter c = true) (cs : List Char) :
    isTail (c :: cs) = false := by
  obtain ⟨-, hpunct, hquote, hmark, -, -⟩ := name_plain h
  have hquote' : (c == '\'' || c == '’') = false := by
    rw [Bool.or_eq_false_iff, beq_eq_false_iff_ne, beq_eq_false_iff_ne]
    exact ⟨hquote, hmark⟩
  rw [isTail, List.all_cons, hpunct, hquote']
  rfl

lemma trimTail_append {head : List Char} (h : ∀ c ∈ head, isNameLetter c = true)
    (cs : List Char) : trimTail (head ++ cs) = head ++ trimTail cs := by
  induction head with
  | nil => rfl
  | cons c head ih =>
    rw [List.cons_append, trimTail, isTail_of_name (h c List.mem_cons_self),
      ih (fun d hd => h d (List.mem_cons_of_mem _ hd))]
    rfl

/-- What `clean_token` leaves of the text after a form. -/
def portOf (rest : List Char) : List Char := (trimTail rest).rdropWhile isSpaceChar

lemma head?_trimTail {cs : List Char} (h : trimTail cs ≠ []) : (trimTail cs).head? = cs.head? := by
  cases cs with
  | nil => rfl
  | cons c cs =>
    rw [trimTail] at h ⊢
    by_cases htail : isTail (c :: cs) = true
    · rw [if_pos htail] at h
      exact absurd rfl h
    · rw [if_neg htail]
      rfl

lemma head?_portOf (h : portOf rest ≠ []) : (portOf rest).head? = rest.head? := by
  have htrim : trimTail rest ≠ [] := by
    intro hnil
    apply h
    rw [portOf, hnil]
    rfl
  rw [portOf, Trimming.head?_rdropWhile h, head?_trimTail htrim]

lemma cleanToken_of_spells {entry : String × String} (he : entry ∈ interfaceExpansions)
    (h : Spells T name entry.1 rest) :
    cleanToken name.toList = entry.1.toList ++ portOf rest := by
  obtain ⟨hnamed, -, hhead, hlast⟩ := form_named entry he
  have hne : entry.1.toList ≠ [] := by
    intro hnil
    rw [hnil] at hhead
    cases hhead
  have hplain : Trimming.Trimmed isSpaceChar entry.1.toList :=
    ⟨fun c hc => (name_plain (hnamed c (List.mem_of_mem_head? hc))).1,
      fun c hc => (name_plain (hnamed c (List.mem_of_mem_getLast? hc))).1⟩
  have htext : stripSpaces name.toList = entry.1.toList ++ rest := by
    rw [stripSpaces_eq, ← toList_pyStrip, h.text]
  have hopen : (entry.1.toList ++ rest).dropWhile (fun c => c == '(' || c == '[') =
      entry.1.toList ++ rest := by
    apply Trimming.dropWhile_eq_self
    rw [List.head?_append_of_ne_nil _ hne]
    intro c hc
    obtain ⟨-, -, -, -, hround, hsquare⟩ := name_plain (hnamed c (List.mem_of_mem_head? hc))
    rw [Bool.or_eq_false_iff, beq_eq_false_iff_ne, beq_eq_false_iff_ne]
    exact ⟨hround, hsquare⟩
  rw [cleanToken, htext, hopen, trimTail_append hnamed, stripSpaces_eq,
    Trimming.trim_append hne hplain, portOf]

lemma exists_digit_of_isPort {u : CharClasses} {port : List Char} (h : isPort u port = true) :
    ∃ c cs, port = c :: cs ∧ u.isDigit c = true := by
  cases port with
  | nil => cases h
  | cons c cs =>
    refine ⟨c, cs, rfl, ?_⟩
    rw [isPort, List.splitOnP_cons_eq_if_modifyHead] at h
    by_cases hsep : (c == '/' || c == '.') = true
    · rw [if_pos hsep] at h
      cases h
    · rw [if_neg hsep] at h
      cases hcs : cs.splitOnP (fun c => c == '/' || c == '.') with
      | nil => exact absurd hcs (List.splitOnP_ne_nil _ _)
      | cons part parts =>
        rw [hcs, List.modifyHead_cons, List.all_cons, Bool.and_eq_true, Bool.and_eq_true,
          List.all_cons, Bool.and_eq_true] at h
        exact h.1.2.1

def lowerText (text : String) : String := String.ofList (text.toList.map Char.toLower)

lemma lower_form {entry : String × String} (he : entry ∈ interfaceExpansions) :
    T.lower (String.ofList entry.1.toList) = lowerText entry.1 :=
  T.lower_name _ (form_named entry he).1

lemma lower_read : ∀ entry ∈ interfaceExpansions,
    (expansionsLower.find? (fun other => lowerText entry.1 = other.1 ||
      other.2 = lowerText entry.1)).map Prod.snd = some (lowerText entry.2) ∧
    (∀ other ∈ interfaceExpansions, lowerText entry.1 = lowerText other.1 → entry = other) ∧
    ∀ other ∈ expansionsLower, ¬(lowerText entry.1).toList ++ ['-'] <+: other.1.toList ∧
      ¬(lowerText entry.1).toList ++ ['-'] <+: other.2.toList := by
  decide +kernel

lemma expansionsLower_find (entry : String × String) (he : entry ∈ interfaceExpansions) :
    (expansionsLower.find? (fun other => lowerText entry.1 = other.1 ||
      other.2 = lowerText entry.1)).map Prod.snd = some (lowerText entry.2) :=
  (lower_read entry he).1

lemma lowerText_inj (entry : String × String) (he : entry ∈ interfaceExpansions) :
    ∀ other ∈ interfaceExpansions, lowerText entry.1 = lowerText other.1 → entry = other :=
  (lower_read entry he).2.1

lemma expansionsLower_apart (entry : String × String) (he : entry ∈ interfaceExpansions) :
    ∀ other ∈ expansionsLower, ¬(lowerText entry.1).toList ++ ['-'] <+: other.1.toList ∧
      ¬(lowerText entry.1).toList ++ ['-'] <+: other.2.toList :=
  (lower_read entry he).2.2

lemma canonicalIdentifier_of_port {entry : String × String} (he : entry ∈ interfaceExpansions)
    (h : Spells T name entry.1 rest) (hport : isPort T.classes (portOf rest) = true) :
    canonicalIdentifier T.lower T.classes name.toList =
      lowerText entry.2 ++ String.ofList (portOf rest) := by
  obtain ⟨hnamed, hlength, hhead, -⟩ := form_named entry he
  obtain ⟨c, cs, hcs, hdigit⟩ := exists_digit_of_isPort hport
  have hc := T.digit_not_name c hdigit
  have htake : (entry.1.toList ++ portOf rest).takeWhile isNameLetter = entry.1.toList := by
    rw [List.takeWhile_append_of_pos hnamed, hcs, List.takeWhile_cons, hc]
    exact List.append_nil _
  have hdrop : (entry.1.toList ++ portOf rest).dropWhile isNameLetter = portOf rest := by
    rw [List.dropWhile_append_of_pos hnamed, hcs, List.dropWhile_cons, hc]
    rfl
  have hmatch : interfaceMatch T.classes (entry.1.toList ++ portOf rest) =
      some (entry.1.toList, portOf rest) := by
    unfold interfaceMatch
    dsimp only
    rw [htake, hdrop, hhead, hport, decide_eq_true hlength]
    rfl
  obtain ⟨other, hfound, hlong⟩ := Option.map_eq_some_iff.mp (expansionsLower_find entry he)
  unfold canonicalIdentifier
  dsimp only
  rw [cleanToken_of_spells he h, hmatch]
  dsimp only
  rw [lower_form he, hfound]
  exact congrArg (fun text => text ++ String.ofList (portOf rest)) hlong

lemma canonicalIdentifier_of_not_port {entry : String × String} (he : entry ∈ interfaceExpansions)
    (h : Spells T name entry.1 rest) (hport : isPort T.classes (portOf rest) = false) :
    canonicalIdentifier T.lower T.classes name.toList =
      String.ofList ((lowerText entry.1).toList ++ T.after (portOf rest)) := by
  obtain ⟨hnamed, -, -, hlast⟩ := form_named entry he
  have hlower : T.lower (String.ofList (entry.1.toList ++ portOf rest)) =
      String.ofList ((lowerText entry.1).toList ++ T.after (portOf rest)) := by
    rw [T.lower_append _ _ hnamed hlast, lowerText, String.toList_ofList]
  unfold canonicalIdentifier
  dsimp only
  rw [cleanToken_of_spells he h]
  cases hmatch : interfaceMatch T.classes (entry.1.toList ++ portOf rest) with
  | none => exact hlower
  | some pair =>
    obtain ⟨head, port⟩ := pair
    -- A port behind a longer head: the head goes on with a hyphen, and is no form.
    have hpieces : head = entry.1.toList ++ (portOf rest).takeWhile isNameLetter ∧
        isPort T.classes ((portOf rest).dropWhile isNameLetter) = true := by
      unfold interfaceMatch at hmatch
      dsimp only at hmatch
      rw [List.takeWhile_append_of_pos hnamed, List.dropWhile_append_of_pos hnamed] at hmatch
      split at hmatch
      · rename_i hcond
        cases hmatch
        rw [Bool.and_eq_true] at hcond
        exact ⟨rfl, hcond.2⟩
      · cases hmatch
    obtain ⟨hhead, hdropped⟩ := hpieces
    cases hcs : portOf rest with
    | nil =>
      rw [hcs] at hdropped
      cases hdropped
    | cons c cs =>
      have hname : isNameLetter c = true := by
        by_contra hc
        rw [hcs, List.dropWhile_cons, if_neg hc, ← hcs, hport] at hdropped
        cases hdropped
      have hhyphen : c = '-' := by
        have hrest : rest.head? = some c := by
          rw [← head?_portOf (by simp [hcs]), hcs]
          rfl
        have hstop := h.stops c hrest
        rw [isNameLetter, Bool.or_eq_true, beq_iff_eq] at hname
        rcases hname with halpha | heq
        · rw [T.alpha_of_letter c halpha] at hstop
          cases hstop
        · exact heq
      have hallnamed : ∀ d ∈ head, isNameLetter d = true := by
        rw [hhead]
        intro d hd
        rcases List.mem_append.mp hd with hd | hd
        · exact hnamed d hd
        · exact List.mem_takeWhile_imp hd
      have hlong : (lowerText entry.1).toList ++ ['-'] <+:
          (T.lower (String.ofList head)).toList := by
        rw [T.lower_name head hallnamed, hhead, hcs, List.takeWhile_cons, if_pos hname, hhyphen,
          lowerText, String.toList_ofList, String.toList_ofList, List.map_append, List.map_cons]
        exact ⟨(cs.takeWhile isNameLetter).map Char.toLower, by
          rw [List.append_assoc]
          rfl⟩
      have hnone : expansionsLower.find? (fun other => T.lower (String.ofList head) = other.1 ||
          other.2 = T.lower (String.ofList head)) = none := by
        rw [List.find?_eq_none]
        intro other ho hsame
        have hapart := expansionsLower_apart entry he other ho
        rw [Bool.or_eq_true, decide_eq_true_eq, decide_eq_true_eq] at hsame
        rcases hsame with hsame | hsame
        · exact hapart.1 (hsame ▸ hlong)
        · exact hapart.2 (hsame ▸ hlong)
      dsimp only
      rw [hnone, ← hcs]
      exact hlower

theorem canonicalIdentifier_eq_iff {left right : String} {entry other : String × String}
    (he : entry ∈ interfaceExpansions) (ho : other ∈ interfaceExpansions)
    (hlong : entry.2 = other.2) (hne : entry.1 ≠ other.1) (hl : Spells T left entry.1 rest)
    (hr : Spells T right other.1 rest) :
    canonicalIdentifier T.lower T.classes left.toList =
        canonicalIdentifier T.lower T.classes right.toList ↔
      isPort T.classes (portOf rest) = true := by
  by_cases hport : isPort T.classes (portOf rest) = true
  · rw [canonicalIdentifier_of_port he hl hport, canonicalIdentifier_of_port ho hr hport, hlong]
    exact ⟨fun _ => hport, fun _ => rfl⟩
  · have hport' := Bool.eq_false_iff.mpr hport
    rw [canonicalIdentifier_of_not_port he hl hport', canonicalIdentifier_of_not_port ho hr hport']
    constructor
    · intro heq
      rw [String.ofList_inj, List.append_cancel_right_eq, String.toList_inj] at heq
      exact absurd (congrArg Prod.fst (lowerText_inj entry he other ho heq)) hne
    · exact fun h => absurd h hport

end Spelled

end Grounding

end NetTools
