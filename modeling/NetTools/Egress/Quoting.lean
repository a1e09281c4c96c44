import Mathlib.Data.String.Basic
import NetTools.Library.Deletion

/-!
# Quoted device text

`quote_device_text` deletes the two delimiters from a text, one after the other, and wraps what is
left. A delimiter that was broken up by other delimiters comes together again when they go.
-/

namespace NetTools

def DEVICE_TEXT_OPEN : String := "<<<DEVICE-TEXT untrusted>>>"

def DEVICE_TEXT_CLOSE : String := "<<<END-DEVICE-TEXT>>>"

/-- `text.replace(marker, "")`. -/
def removeAll (text marker : String) : String :=
  String.ofList (Deletion.deleteAll marker.toList text.toList)

def quoteDeviceText (text : String) : String :=
  let stripped := removeAll (removeAll text DEVICE_TEXT_OPEN) DEVICE_TEXT_CLOSE
  DEVICE_TEXT_OPEN ++ "\n" ++ stripped ++ "\n" ++ DEVICE_TEXT_CLOSE

/-- A block that the tool has opened is closed by the tool: the only close delimiter ends it. -/
structure Contained (s : String) : Prop where
  opens : DEVICE_TEXT_OPEN.toList <+: s.toList
  closes : ∀ i, DEVICE_TEXT_CLOSE.toList <+: s.toList.drop i ↔
    i + DEVICE_TEXT_CLOSE.toList.length = s.toList.length

/-- Each delimiter occurs once: the open one at the start and the close one at the end. -/
structure Sealed (s : String) : Prop extends Contained s where
  opensOnce : ∀ i, DEVICE_TEXT_OPEN.toList <+: s.toList.drop i ↔ i = 0

/-- The text holds the delimiter broken up by close delimiters, and the result broken up by open
delimiters. -/
def Hides (delimiter text : String) : Prop :=
  ∃ v w, w <:+: text.toList ∧
    Deletion.Inserted DEVICE_TEXT_CLOSE.toList delimiter.toList v ∧
      v ≠ DEVICE_TEXT_CLOSE.toList ∧
        Deletion.Inserted DEVICE_TEXT_OPEN.toList v w ∧ w ≠ DEVICE_TEXT_OPEN.toList

lemma starts_drop_separator {α : Type} {m a b : List α} {sep : α} (hm : m ≠ []) (hsep : sep ∉ m)
    {i : Nat} (h : m <+: (a ++ sep :: b).drop i) :
    (i + m.length ≤ a.length ∧ m <+: a.drop i) ∨
      (a.length < i ∧ m <+: b.drop (i - a.length - 1)) := by
  rw [List.drop_append] at h
  have hpos := List.length_pos_of_ne_nil hm
  by_cases hi : i ≤ a.length
  · left
    rw [Nat.sub_eq_zero_of_le hi, List.drop_zero] at h
    by_cases hfits : i + m.length ≤ a.length
    · refine ⟨hfits, ?_⟩
      apply List.prefix_of_prefix_length_le h (List.prefix_append _ _)
      rw [List.length_drop]
      omega
    · exfalso
      apply hsep
      have hlong : a.drop i ++ [sep] <+: m := by
        apply List.prefix_of_prefix_length_le _ h
        · rw [List.length_append, List.length_drop, List.length_singleton]
          omega
        · rw [List.prefix_append_right_inj]
          exact List.prefix_append [sep] b
      exact hlong.subset (List.mem_append_right _ (List.mem_singleton_self sep))
  · right
    rw [not_le] at hi
    rw [List.drop_eq_nil_of_le hi.le, List.nil_append] at h
    obtain ⟨k, hk⟩ := Nat.exists_eq_add_one_of_ne_zero (Nat.sub_pos_of_lt hi).ne'
    rw [hk, List.drop_succ_cons] at h
    rw [hk, Nat.add_sub_cancel]
    exact ⟨hi, h⟩

lemma starts_at_zero {α : Type} {m a : List α} {i : Nat} (hm : m ≠ []) (h : m <+: a.drop i)
    (hlength : a.length ≤ m.length) : i = 0 := by
  have hle := h.length_le
  have hpos := List.length_pos_of_ne_nil hm
  rw [List.length_drop] at hle
  omega

lemma starts_quoted {o s c m : List Char} {i : Nat} (hm : m ≠ []) (hline : '\n' ∉ m)
    (h : m <+: (o ++ '\n' :: (s ++ '\n' :: c)).drop i) :
    m <+: o.drop i ∨ m <:+: s ∨
      (o.length + s.length + 2 ≤ i ∧ m <+: c.drop (i - (o.length + s.length + 2))) := by
  rcases starts_drop_separator hm hline h with ⟨-, hleft⟩ | ⟨hi, hright⟩
  · exact .inl hleft
  · rcases starts_drop_separator hm hline hright with ⟨-, hmiddle⟩ | ⟨hi', hlast⟩
    · exact .inr (.inl (hmiddle.isInfix.trans (List.drop_suffix _ s).isInfix))
    · refine .inr (.inr ⟨by omega, ?_⟩)
      have hindex : i - o.length - 1 - s.length - 1 = i - (o.length + s.length + 2) := by omega
      rw [hindex] at hlast
      exact hlast

/-! ### The delimiters -/

abbrev openMarks : List Char := DEVICE_TEXT_OPEN.toList

abbrev closeMarks : List Char := DEVICE_TEXT_CLOSE.toList

instance {α : Type} [DecidableEq α] (m d : List α) : Decidable (Deletion.Separate m d) :=
  decidable_of_iff (Deletion.Clear m m ∧ Deletion.Clear m d ∧ Deletion.Clear d m ∧
      (Deletion.Comparable m d → m = d))
    ⟨fun h => ⟨h.1, h.2.1, h.2.2.1, h.2.2.2⟩, fun h => ⟨h.self, h.left, h.right, h.start⟩⟩

lemma separate_marks : ∀ m ∈ [openMarks, closeMarks], ∀ d ∈ [openMarks, closeMarks],
    Deletion.Separate m d := by
  decide +kernel

lemma separate_open_open : Deletion.Separate openMarks openMarks :=
  separate_marks _ List.mem_cons_self _ List.mem_cons_self

lemma separate_open_close : Deletion.Separate openMarks closeMarks :=
  separate_marks _ List.mem_cons_self _ (List.mem_cons_of_mem _ List.mem_cons_self)

lemma separate_close_open : Deletion.Separate closeMarks openMarks :=
  separate_marks _ (List.mem_cons_of_mem _ List.mem_cons_self) _ List.mem_cons_self

lemma separate_close_close : Deletion.Separate closeMarks closeMarks :=
  separate_marks _ (List.mem_cons_of_mem _ List.mem_cons_self) _
    (List.mem_cons_of_mem _ List.mem_cons_self)

/-- What `quote_device_text` wraps. -/
def strippedMarks (text : String) : List Char :=
  Deletion.deleteAll closeMarks (Deletion.deleteAll openMarks text.toList)

lemma toList_quoteDeviceText (text : String) :
    (quoteDeviceText text).toList =
      openMarks ++ '\n' :: (strippedMarks text ++ '\n' :: closeMarks) := by
  rw [quoteDeviceText, removeAll, removeAll, String.toList_ofList]
  simp [strippedMarks]

lemma infix_strippedMarks_iff {delimiter text : String}
    (h : delimiter = DEVICE_TEXT_OPEN ∨ delimiter = DEVICE_TEXT_CLOSE) :
    delimiter.toList <:+: strippedMarks text ↔ Hides delimiter text := by
  have hopen : openMarks ≠ [] := by decide
  have hclose : closeMarks ≠ [] := by decide
  have hne : openMarks ≠ closeMarks := by decide
  rw [strippedMarks, Hides]
  rcases h with rfl | rfl
  · exact Deletion.infix_deleteAll_deleteAll_iff hopen hclose hopen separate_open_open
      separate_open_close separate_close_open hne
  · exact Deletion.infix_deleteAll_deleteAll_iff hopen hclose hclose separate_open_close
      separate_open_close separate_close_close hne

lemma exists_drop_of_infix {α : Type} {m s : List α} (h : m <:+: s) : ∃ i, m <+: s.drop i := by
  obtain ⟨a, b, rfl⟩ := h
  refine ⟨a.length, ?_⟩
  rw [List.append_assoc, List.drop_left]
  exact List.prefix_append m b

lemma drop_quoted {o s c : List Char} (i : Nat) :
    (s ++ '\n' :: c).drop i = (o ++ '\n' :: (s ++ '\n' :: c)).drop (o.length + 1 + i) := by
  have hlength : o.length + 1 = (o ++ ['\n']).length := by simp
  rw [List.append_cons o, hlength, ← List.drop_drop, List.drop_left]

lemma not_close_starts_open : ∀ i < openMarks.length, ¬closeMarks <+: openMarks.drop i := by
  decide +kernel

lemma closes_quoted {s : List Char} (h : ¬closeMarks <:+: s) (i : Nat) :
    closeMarks <+: (openMarks ++ '\n' :: (s ++ '\n' :: closeMarks)).drop i ↔
      i + closeMarks.length = (openMarks ++ '\n' :: (s ++ '\n' :: closeMarks)).length := by
  have hlength : (openMarks ++ '\n' :: (s ++ '\n' :: closeMarks)).length =
      openMarks.length + s.length + 2 + closeMarks.length := by
    simp only [List.length_append, List.length_cons]
    omega
  rw [hlength]
  constructor
  · intro hstart
    rcases starts_quoted (by decide) (by decide) hstart with hopen | hmiddle | ⟨hi, hlast⟩
    · exfalso
      have hbound : i < openMarks.length := by
        have hle := hopen.length_le
        have hpos : 0 < closeMarks.length := by decide
        rw [List.length_drop] at hle
        omega
      exact not_close_starts_open i hbound hopen
    · exact absurd hmiddle h
    · have hzero := starts_at_zero (by decide) hlast le_rfl
      omega
  · intro hi
    have hindex : i = (openMarks ++ '\n' :: (s ++ ['\n'])).length := by
      simp only [List.length_append, List.length_cons, List.length_nil]
      omega
    have hsplit : openMarks ++ '\n' :: (s ++ '\n' :: closeMarks) =
        (openMarks ++ '\n' :: (s ++ ['\n'])) ++ closeMarks := by simp
    rw [hsplit, hindex, List.drop_left]

lemma opens_quoted {s : List Char} (h : ¬openMarks <:+: s) (i : Nat) :
    openMarks <+: (openMarks ++ '\n' :: (s ++ '\n' :: closeMarks)).drop i ↔ i = 0 := by
  constructor
  · intro hstart
    rcases starts_quoted (by decide) (by decide) hstart with hopen | hmiddle | ⟨hi, hlast⟩
    · exact starts_at_zero (by decide) hopen le_rfl
    · exact absurd hmiddle h
    · exfalso
      have hle := hlast.length_le
      rw [List.length_drop] at hle
      have hlong : closeMarks.length < openMarks.length := by decide
      omega
  · intro hi
    rw [hi, List.drop_zero]
    exact List.prefix_append openMarks _

lemma not_infix_of_starts_once {m s : List Char} (hm : m ≠ [])
    (h : ∀ i, m <+: (openMarks ++ '\n' :: (s ++ '\n' :: closeMarks)).drop i →
      i = 0 ∨ i = openMarks.length + s.length + 2) : ¬m <:+: s := by
  intro hinfix
  obtain ⟨i, hi⟩ := exists_drop_of_infix hinfix
  have hle := hi.length_le
  have hpos := List.length_pos_of_ne_nil hm
  rw [List.length_drop] at hle
  have hinside : m <+: (s ++ '\n' :: closeMarks).drop i := by
    rw [List.drop_append_of_le_length (by omega)]
    exact hi.trans (List.prefix_append _ _)
  have hindex := h (openMarks.length + 1 + i) (drop_quoted i ▸ hinside)
  omega

theorem contained_quoteDeviceText_iff (text : String) :
    Contained (quoteDeviceText text) ↔ ¬Hides DEVICE_TEXT_CLOSE text := by
  rw [← infix_strippedMarks_iff (.inr rfl)]
  constructor
  · intro h
    have hcloses := h.closes
    rw [toList_quoteDeviceText] at hcloses
    apply not_infix_of_starts_once (by decide)
    intro i hi
    have hlength : i + closeMarks.length = _ := (hcloses i).mp hi
    simp only [List.length_append, List.length_cons] at hlength
    right
    omega
  · intro h
    constructor
    · rw [toList_quoteDeviceText]
      exact List.prefix_append openMarks _
    · rw [toList_quoteDeviceText]
      exact closes_quoted h

theorem sealed_quoteDeviceText_iff (text : String) :
    Sealed (quoteDeviceText text) ↔
      ¬Hides DEVICE_TEXT_OPEN text ∧ ¬Hides DEVICE_TEXT_CLOSE text := by
  rw [← contained_quoteDeviceText_iff, ← infix_strippedMarks_iff (.inl rfl)]
  constructor
  · intro h
    refine ⟨?_, h.toContained⟩
    have hopens := h.opensOnce
    rw [toList_quoteDeviceText] at hopens
    exact not_infix_of_starts_once (by decide) (fun i hi => .inl ((hopens i).mp hi))
  · rintro ⟨hopen, hcontained⟩
    refine ⟨hcontained, ?_⟩
    rw [toList_quoteDeviceText]
    exact opens_quoted hopen

end NetTools
