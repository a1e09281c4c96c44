import NetTools.Grounding.Spellings

/-!
# One vocabulary of interface names

Two names that denote one interface are classified alike and are one identifier of a report. The
exceptions are the short forms of tunnels, and names whose text after the form is no port.
-/

namespace NetTools

namespace Grounding

/-- What makes the interface names one vocabulary, for two names. -/
structure Vocabulary (T : NameTables) (left right : String) : Prop where
  idempotent : canonicalOver T.isAlpha (canonicalOver T.isAlpha left) =
    canonicalOver T.isAlpha left
  symmetric : sameInterfaceOver T.isAlpha left right = sameInterfaceOver T.isAlpha right left
  transitive : ∀ third, sameInterfaceOver T.isAlpha left right = true →
    sameInterfaceOver T.isAlpha right third = true → sameInterfaceOver T.isAlpha left third = true
  reflexive : isBlank left = false → sameInterfaceOver T.isAlpha left left = true
  blank : isBlank left = true ∨ isBlank right = true →
    sameInterfaceOver T.isAlpha left right = false
  classified : sameInterfaceOver T.isAlpha left right = true → classify left = classify right
  identified : sameInterfaceOver T.isAlpha left right = true →
    canonicalIdentifier T.lower T.classes left.toList =
      canonicalIdentifier T.lower T.classes right.toList

/-- No two blank names but the empty one, and two forms of one kind only before a port, where a
short form of a tunnel stands beside the long one only with a dot in the port. -/
structure Regular (T : NameTables) (left right : String) : Prop where
  blank : isBlank left = true → isBlank right = true → left = "" ∧ right = ""
  respelled : ∀ entry ∈ interfaceExpansions, ∀ other ∈ interfaceExpansions, entry.2 = other.2 →
    entry.1 ≠ other.1 → ∀ rest, Spells T left entry.1 rest → Spells T right other.1 rest →
      isPort T.classes (portOf rest) = true ∧
        ('.' ∈ rest ∨ entry.1 ∉ shortTunnels ∧ other.1 ∉ shortTunnels)

section Names

variable {T : NameTables} {left right third : String}

lemma sameInterfaceOver_iff {isAlpha : Char → Bool} :
    sameInterfaceOver isAlpha left right = true ↔
      left ≠ "" ∧ canonicalOver isAlpha left = canonicalOver isAlpha right := by
  rw [sameInterfaceOver, Bool.and_eq_true, bne_iff_ne, beq_iff_eq]

lemma ne_empty_of_isBlank_false {name : String} (h : isBlank name = false) : name ≠ "" := by
  rintro rfl
  cases h

lemma isBlank_congr (h : canonicalOver T.isAlpha left = canonicalOver T.isAlpha right) :
    isBlank left = isBlank right := by
  rw [Bool.eq_iff_iff, ← @canonicalOver_eq_empty_iff T left, ← @canonicalOver_eq_empty_iff T right,
    h]

lemma isBlank_of_spells {entry : String × String} (he : entry ∈ interfaceExpansions)
    {rest : List Char} (h : Spells T left entry.1 rest) : isBlank left = false := by
  rw [Bool.eq_false_iff, ne_eq, ← @canonicalOver_eq_empty_iff T left, canonicalOver_of_spells he h,
    String.append_eq_empty_iff]
  have hlong : ∀ entry ∈ interfaceExpansions, entry.2 ≠ "" := by decide
  exact fun hempty => hlong entry he hempty.1

lemma classify_congr (h : pyStrip left = pyStrip right) : classify left = classify right := by
  unfold classify
  rw [h]

lemma canonicalIdentifier_congr (lower : String → String) (u : CharClasses)
    (h : pyStrip left = pyStrip right) :
    canonicalIdentifier lower u left.toList = canonicalIdentifier lower u right.toList := by
  have hstrip : stripSpaces left.toList = stripSpaces right.toList := by
    rw [stripSpaces_eq, stripSpaces_eq, ← toList_pyStrip, ← toList_pyStrip, h]
  have hclean : cleanToken left.toList = cleanToken right.toList := by
    rw [cleanToken, cleanToken, hstrip]
  unfold canonicalIdentifier
  rw [hclean]

lemma classify_eq_iff {entry other : String × String} {rest : List Char}
    (he : entry ∈ interfaceExpansions) (ho : other ∈ interfaceExpansions)
    (hlong : entry.2 = other.2) (hne : entry.1 ≠ other.1) (hl : Spells T left entry.1 rest)
    (hr : Spells T right other.1 rest) :
    classify left = classify right ↔
      '.' ∈ rest ∨ entry.1 ∉ shortTunnels ∧ other.1 ∉ shortTunnels := by
  rw [classify_of_spells he hl, classify_of_spells ho hr]
  by_cases hdot : '.' ∈ rest
  · rw [if_pos hdot, if_pos hdot]
    exact ⟨fun _ => .inl hdot, fun _ => rfl⟩
  · rw [if_neg hdot, if_neg hdot, classify_forms entry he other ho hlong, or_iff_right hdot]
    exact ⟨fun h => h hne, fun h _ => h⟩

lemma spelled_alike (h : sameInterfaceOver T.isAlpha left right = true)
    {P : Prop} (hsame : pyStrip left = pyStrip right → P)
    (hforms : ∀ entry ∈ interfaceExpansions, ∀ other ∈ interfaceExpansions, entry.2 = other.2 →
      entry.1 ≠ other.1 → ∀ rest, Spells T left entry.1 rest → Spells T right other.1 rest → P) :
    P := by
  rcases canonicalOver_eq_iff.mp (sameInterfaceOver_iff.mp h).2 with heq |
    ⟨entry, he, other, ho, hlong, rest, hl, hr⟩
  · exact hsame heq
  · by_cases hne : entry.1 = other.1
    · apply hsame
      apply String.toList_inj.mp
      rw [hl.text, hr.text, hne]
    · exact hforms entry he other ho hlong hne rest hl hr

lemma regular_of_vocabulary (h : Vocabulary T left right) : Regular T left right where
  blank := by
    intro hl hr
    have hcanonical : canonicalOver T.isAlpha left = canonicalOver T.isAlpha right := by
      rw [canonicalOver_eq_empty_iff.mpr hl, canonicalOver_eq_empty_iff.mpr hr]
    have hsame := h.blank (.inl hl)
    have hsame' := h.symmetric.symm.trans hsame
    rw [Bool.eq_false_iff, ne_eq, sameInterfaceOver_iff] at hsame hsame'
    constructor
    · by_contra hne
      exact hsame ⟨hne, hcanonical⟩
    · by_contra hne
      exact hsame' ⟨hne, hcanonical.symm⟩
  respelled := by
    intro entry he other ho hlong hne rest hl hr
    have hsame : sameInterfaceOver T.isAlpha left right = true := by
      rw [sameInterfaceOver_iff, canonicalOver_of_spells he hl, canonicalOver_of_spells ho hr,
        hlong]
      exact ⟨ne_empty_of_isBlank_false (isBlank_of_spells he hl), rfl⟩
    constructor
    · exact (canonicalIdentifier_eq_iff he ho hlong hne hl hr).mp (h.identified hsame)
    · exact (classify_eq_iff he ho hlong hne hl hr).mp (h.classified hsame)

lemma sameInterfaceOver_comm (h : Regular T left right) :
    sameInterfaceOver T.isAlpha left right = true →
      sameInterfaceOver T.isAlpha right left = true := by
  intro hsame
  obtain ⟨hne, hcanonical⟩ := sameInterfaceOver_iff.mp hsame
  refine sameInterfaceOver_iff.mpr ⟨?_, hcanonical.symm⟩
  rintro rfl
  exact hne (h.blank ((isBlank_congr hcanonical).trans rfl) rfl).1

lemma Regular.symm (h : Regular T left right) : Regular T right left where
  blank := fun hr hl => (h.blank hl hr).symm
  respelled := by
    intro entry he other ho hlong hne rest hr hl
    obtain ⟨hport, hdot⟩ := h.respelled other ho entry he hlong.symm hne.symm rest hl hr
    exact ⟨hport, hdot.imp id And.symm⟩

lemma vocabulary_of_regular (h : Regular T left right) : Vocabulary T left right where
  idempotent := canonicalOver_idempotent T left
  symmetric := by
    rw [Bool.eq_iff_iff]
    exact ⟨sameInterfaceOver_comm h, sameInterfaceOver_comm h.symm⟩
  transitive := by
    intro third hlr hrt
    rw [sameInterfaceOver_iff] at hlr hrt ⊢
    exact ⟨hlr.1, hlr.2.trans hrt.2⟩
  reflexive := by
    intro hblank
    exact sameInterfaceOver_iff.mpr ⟨ne_empty_of_isBlank_false hblank, rfl⟩
  blank := by
    intro hblank
    rw [Bool.eq_false_iff, ne_eq, sameInterfaceOver_iff]
    rintro ⟨hne, hcanonical⟩
    have hcongr := isBlank_congr hcanonical
    have hboth : isBlank left = true ∧ isBlank right = true := by
      rcases hblank with hl | hr
      · exact ⟨hl, hcongr ▸ hl⟩
      · exact ⟨hcongr.trans hr, hr⟩
    exact hne (h.blank hboth.1 hboth.2).1
  classified := by
    intro hsame
    refine spelled_alike hsame classify_congr ?_
    intro entry he other ho hlong hne rest hl hr
    exact (classify_eq_iff he ho hlong hne hl hr).mpr
      (h.respelled entry he other ho hlong hne rest hl hr).2
  identified := by
    intro hsame
    refine spelled_alike hsame (canonicalIdentifier_congr T.lower T.classes) ?_
    intro entry he other ho hlong hne rest hl hr
    exact (canonicalIdentifier_eq_iff he ho hlong hne hl hr).mpr
      (h.respelled entry he other ho hlong hne rest hl hr).1

end Names

/-- Interface names are one vocabulary exactly where two spellings of one interface are regular. -/
theorem vocabulary_iff_regular (T : NameTables) (left right : String) :
    Vocabulary T left right ↔ Regular T left right :=
  ⟨regular_of_vocabulary, vocabulary_of_regular⟩

theorem not_vocabulary_management :
    ¬Vocabulary NameTables.ascii "Mg0/RP0/CPU0/0" "MgmtEth0/RP0/CPU0/0" := by
  intro h
  have hidentified := h.identified (by decide +kernel)
  revert hidentified
  decide +kernel

end Grounding

end NetTools
