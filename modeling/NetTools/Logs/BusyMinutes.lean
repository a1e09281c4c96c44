import Mathlib.Data.Real.Basic
import Mathlib.Order.Bounds.Basic
import NetTools.Logs.Aggregates

/-!
# The busiest minute and the bursts of a mnemonic

In one year of the calendar, an aggregate tells the busiest minute and the bursts of a mnemonic
exactly when some busiest minute is read as one, and misread gaps begin as many bursts as they
hide. A gap is misread over the end of a February of 28 days, and may be when it is a minute long.
-/

namespace NetTools

namespace LogAggregates

open Calendar

variable (digits : DigitTable) (year : Int)

/-! ### What the aggregates should tell -/

def secondsAt (p : Occurrence) : ℚ := (p.1.instant year : ℚ) / 1000

/-- The occurrences of the minute that begins at `t`. -/
noncomputable def inMinute (t : ℝ) (l : List Occurrence) : List Occurrence :=
  l.filter (fun p => t ≤ (secondsAt year p : ℝ) ∧ (secondsAt year p : ℝ) ≤ t + 60)

def inOrder (l : List Occurrence) : List Occurrence :=
  l.insertionSort (fun p q => p.1.instant year ≤ q.1.instant year)

def follows (p q : Occurrence) : Bool := secondsAt year q - secondsAt year p < 60

structure MnemonicAggregate.Defined (a : MnemonicAggregate) (l : List Occurrence) : Prop where
  unmeasured : l = [] → a.firstSeen = "" ∧ a.lastSeen = "" ∧ a.maxRate1m = none ∧ a.bursts = none
  firstSeen : l ≠ [] → ∃ p ∈ l, (∀ q ∈ l, secondsAt year p ≤ secondsAt year q) ∧
    a.firstSeen = p.2.timestamp.getD ""
  lastSeen : l ≠ [] → ∃ p ∈ l, (∀ q ∈ l, secondsAt year q ≤ secondsAt year p) ∧
    a.lastSeen = p.2.timestamp.getD ""
  maxRate1m : l ≠ [] → ∃ m, a.maxRate1m = some m ∧
    IsGreatest (Set.range fun t => (inMinute year t l).length) m
  bursts : l ≠ [] → a.bursts =
    some (((inOrder year l).splitBy (follows year)).countP (fun run => 2 ≤ run.length))

def MnemonicAggregate.numbers (a : MnemonicAggregate) :
    String × Nat × (Option ℚ × Option ℚ × Option Nat × Option Nat) × Nat :=
  (a.mnemonic, a.count, (a.windowSeconds, a.ratePerHour, a.maxRate1m, a.bursts), a.untimed)

def recordsOf (records : List MnemonicRecord) (name : String) : List MnemonicRecord :=
  records.filter (fun record => record.name = name)

def AggregatesAreDefined (records : List MnemonicRecord) : Prop :=
  ∃ aggregates, aggregateByMnemonic digits records = some aggregates ∧
    aggregates.map (·.mnemonic) = (records.map MnemonicRecord.name).eraseDups ∧
    (aggregates.map (·.count)).sum = records.length ∧
    (∀ a ∈ aggregates,
      a.Defined year (occurrences digits (recordsOf records a.mnemonic))) ∧
    ∀ records', records.Perm records' →
      ∃ aggregates', aggregateByMnemonic digits records' = some aggregates' ∧
        (aggregates.map (·.numbers)).Perm (aggregates'.map (·.numbers))

def DatesOfYear (records : List MnemonicRecord) : Prop :=
  ∀ record ∈ records, ∀ stamp, record.stamp digits = some stamp →
    stamp.onCalendar (isLeap year) = true

def readSeconds (anchor p q : Occurrence) : ℚ :=
  Double.sub (offset anchor.1 q.1) (offset anchor.1 p.1)

def readFollows (anchor p q : Occurrence) : Bool := readSeconds anchor p q < 60

/-- Some busiest minute is read as one, and misread gaps begin as many bursts as they hide. -/
structure ReadsMinutes (l : List Occurrence) : Prop where
  busiest : ∃ t, (∀ t', (inMinute year t' l).length ≤ (inMinute year t l).length) ∧
    ∀ anchor ∈ (inOrder year l).head?, ∀ p ∈ inMinute year t l, ∀ q ∈ inMinute year t l,
      readSeconds anchor p q ≤ 60
  bursts : ∀ anchor ∈ (inOrder year l).head?,
    ((Neighbours.begins (readFollows anchor) false (inOrder year l)).zip
        (Neighbours.begins (follows year) false (inOrder year l))).count (true, false) =
      ((Neighbours.begins (readFollows anchor) false (inOrder year l)).zip
        (Neighbours.begins (follows year) false (inOrder year l))).count (false, true)

variable {digits year} {l : List Occurrence}

lemma inOrder_perm (year : Int) (l : List Occurrence) : (inOrder year l).Perm l := List.perm_insertionSort _ _

lemma pairwise_inOrder (year : Int) (l : List Occurrence) :
    (inOrder year l).Pairwise (fun p q => p.1.instant year ≤ q.1.instant year) :=
  Sorting.pairwise_insertionSort_key (fun p : Occurrence => p.1.instant year) l

lemma sortedOccurrences_eq {group : List MnemonicRecord}
    (h : ∀ p ∈ occurrences digits group, p.1.onCalendar (isLeap year) = true) :
    sortedOccurrences digits group = inOrder year (occurrences digits group) := by
  have hmap := List.map_insertionSort (fun p q : Occurrence => p.1.key ≤ q.1.key)
    (fun p q : Occurrence => p.1.instant year ≤ q.1.instant year) id (occurrences digits group)
    (fun p hp q hq => (Stamp.instant_le_iff (h p hp) (h q hq)).symm)
  rw [List.map_id, List.map_id] at hmap
  exact hmap

lemma secondsAt_le_iff {p q : Occurrence} :
    secondsAt year p ≤ secondsAt year q ↔ p.1.instant year ≤ q.1.instant year := by
  unfold secondsAt
  rw [div_le_div_iff_of_pos_right (by norm_num), Int.cast_le]

def WithinMinute (year : Int) (l : List Occurrence) : Prop :=
  l.Pairwise (fun p q => secondsAt year q - secondsAt year p ≤ 60)

lemma inMinute_sublist (year : Int) (t : ℝ) (l : List Occurrence) : (inMinute year t l).Sublist l :=
  List.filter_sublist

lemma mem_inMinute {t : ℝ} {p : Occurrence} : p ∈ inMinute year t l ↔
    p ∈ l ∧ t ≤ (secondsAt year p : ℝ) ∧ (secondsAt year p : ℝ) ≤ t + 60 := by
  unfold inMinute
  rw [List.mem_filter, decide_eq_true_eq]

lemma length_inMinute_inOrder (t : ℝ) (l : List Occurrence) :
    (inMinute year t (inOrder year l)).length = (inMinute year t l).length :=
  ((inOrder_perm year l).filter _).length_eq

lemma sublist_inMinute {choice : List Occurrence} {p : Occurrence}
    (hsub : (p :: choice).Sublist (inOrder year l)) (hminute : WithinMinute year (p :: choice)) :
    (p :: choice).Sublist (inMinute year (secondsAt year p) (inOrder year l)) := by
  have hself : inMinute year (secondsAt year p) (p :: choice) = p :: choice := by
    unfold inMinute
    rw [List.filter_eq_self]
    intro q hq
    rw [decide_eq_true_eq]
    have horder := (List.pairwise_cons.mp ((pairwise_inOrder year l).sublist hsub)).1
    rcases List.mem_cons.mp hq with rfl | hq
    · exact ⟨le_refl _, by linarith⟩
    · have hle := secondsAt_le_iff.mpr (horder q hq)
      have hgap := (List.pairwise_cons.mp hminute).1 q hq
      constructor
      · exact_mod_cast hle
      · have hgap' : secondsAt year q ≤ secondsAt year p + 60 := by linarith
        exact_mod_cast hgap'
  rw [← hself]
  exact hsub.filter _

def leapMillis (a b : Stamp) : Int := b.sinceNewYear true - a.sinceNewYear true

lemma offset_eq {a b : Stamp} (ha : a.onCalendar true = true) (hb : b.onCalendar true = true)
    (h : a.key ≤ b.key) : offset a b = Double.round ((leapMillis a b : ℚ) / 1000) := by
  unfold offset elapsed
  rw [secondsBetween_of_key_le ha hb h]
  rfl

lemma leapMillis_nonneg {a b : Stamp} (ha : a.onCalendar true = true)
    (hb : b.onCalendar true = true) (h : a.key ≤ b.key) : 0 ≤ leapMillis a b :=
  Int.sub_nonneg_of_le ((Stamp.sinceNewYear_le_iff ha hb).mpr h)

lemma leapMillis_lt {a b : Stamp} (ha : a.onCalendar true = true) (hb : b.onCalendar true = true) :
    leapMillis a b < 366 * Calendar.day := by
  have hstart := Stamp.sinceNewYear_nonneg ha
  have hend := Stamp.sinceNewYear_lt hb
  unfold leapMillis
  rw [if_pos rfl] at hend
  omega

lemma offset_mono {a b c : Stamp} (ha : a.onCalendar true = true) (hb : b.onCalendar true = true)
    (hc : c.onCalendar true = true) (hab : a.key ≤ b.key) (hbc : b.key ≤ c.key) :
    offset a b ≤ offset a c := by
  have horder := leapMillis_nonneg hb hc hbc
  have hmillis : leapMillis a b ≤ leapMillis a c := by
    unfold leapMillis at horder ⊢
    omega
  rw [offset_eq ha hb hab, offset_eq ha hc (hab.trans hbc)]
  apply Double.round_mono
  · exact div_nonneg (by exact_mod_cast leapMillis_nonneg ha hb hab) (by norm_num)
  · exact div_le_div_of_nonneg_right (by exact_mod_cast hmillis) (by norm_num)

lemma abs_offset_sub_le {a b : Stamp} (ha : a.onCalendar true = true)
    (hb : b.onCalendar true = true) (h : a.key ≤ b.key) :
    |offset a b - (leapMillis a b : ℚ) / 1000| ≤ 1 / 100000 := by
  have hnonneg : (0 : ℚ) ≤ leapMillis a b := by exact_mod_cast leapMillis_nonneg ha hb h
  have hlt : (leapMillis a b : ℚ) < 366 * 86400000 := by
    have hlt := leapMillis_lt ha hb
    unfold Calendar.day at hlt
    exact_mod_cast hlt
  have hround := Double.abs_round_sub_le ((leapMillis a b : ℚ) / 1000)
  rw [abs_of_nonneg (div_nonneg hnonneg (by norm_num))] at hround
  rw [offset_eq ha hb h]
  refine hround.trans ?_
  rw [div_div, div_le_div_iff₀ (by norm_num) (by norm_num)]
  linarith

lemma readSeconds_of_leapMillis {anchor p q : Occurrence} (ha : anchor.1.onCalendar true = true)
    (hp : p.1.onCalendar true = true) (hq : q.1.onCalendar true = true)
    (hap : anchor.1.key ≤ p.1.key) (hpq : p.1.key ≤ q.1.key) :
    (60000 < leapMillis p.1 q.1 → 60 < readSeconds anchor p q) ∧
      (leapMillis p.1 q.1 < 60000 → readSeconds anchor p q < 60) := by
  have hleft := abs_le.mp (abs_offset_sub_le ha hp hap)
  have hright := abs_le.mp (abs_offset_sub_le ha hq (hap.trans hpq))
  have horder := offset_mono ha hp hq hap hpq
  have hsplit : (leapMillis anchor.1 q.1 : ℚ) = leapMillis anchor.1 p.1 + leapMillis p.1 q.1 := by
    unfold leapMillis
    push_cast
    ring
  have hnonneg : 0 ≤ offset anchor.1 q.1 - offset anchor.1 p.1 := sub_nonneg.mpr horder
  rw [hsplit] at hright
  unfold readSeconds Double.sub
  constructor
  · intro hfar
    have hfar' : (60001 : ℚ) ≤ leapMillis p.1 q.1 := by exact_mod_cast hfar
    -- the error of the difference is far below that of the offsets
    have hgap : 60.0005 ≤ offset anchor.1 q.1 - offset anchor.1 p.1 := by
      norm_num
      linarith
    have hmono := Double.round_mono (by norm_num) hgap
    refine lt_of_lt_of_le ?_ hmono
    decide +kernel
  · intro hclose
    have hclose' : (leapMillis p.1 q.1 : ℚ) ≤ 59999 := by exact_mod_cast (by omega)
    have hgap : offset anchor.1 q.1 - offset anchor.1 p.1 ≤ 59.9995 := by
      norm_num
      linarith
    refine (Double.round_mono hnonneg hgap).trans_lt ?_
    decide +kernel

/-- A gap of a minute may be read as a shorter one or as a longer one. -/
example : Double.sub (Double.round 100.1) (Double.round 40.1) < 60 ∧
    60 < Double.sub (Double.round 64.001) (Double.round 4.001) := by decide +kernel

def overFebruary (year : Int) (p q : Occurrence) : Prop :=
  isLeap year = false ∧ p.1.month ≤ 2 ∧ 2 < q.1.month

instance (p q : Occurrence) : Decidable (overFebruary year p q) :=
  inferInstanceAs (Decidable (_ ∧ _ ∧ _))

section

variable (hdates : ∀ p ∈ l, p.1.onCalendar (isLeap year) = true)

include hdates

lemma leapMillis_eq {p q : Occurrence} (hp : p ∈ l) (hq : q ∈ l) (hpq : p.1.key ≤ q.1.key) :
    leapMillis p.1 q.1 = q.1.instant year - p.1.instant year +
      (if overFebruary year p q then Calendar.day else 0) := by
  have hmonth : p.1.month ≤ q.1.month := by
    by_contra hmonth
    exact absurd hpq (not_le.mpr (Stamp.key_lt_iff.mpr (.inl (not_le.mp hmonth))))
  exact Stamp.sinceNewYear_sub (hdates p hp) (hdates q hq) hmonth

lemma key_le_iff {p q : Occurrence} (hp : p ∈ l) (hq : q ∈ l) :
    p.1.key ≤ q.1.key ↔ p.1.instant year ≤ q.1.instant year :=
  (Stamp.instant_le_iff (hdates p hp) (hdates q hq)).symm

lemma secondsAt_of_readSeconds_le {anchor p q : Occurrence} (ha : anchor ∈ l) (hp : p ∈ l)
    (hq : q ∈ l) (hap : anchor.1.instant year ≤ p.1.instant year)
    (hpq : p.1.instant year ≤ q.1.instant year) (h : readSeconds anchor p q ≤ 60) :
    secondsAt year q - secondsAt year p ≤ 60 := by
  have hleap := leapMillis_eq hdates hp hq ((key_le_iff hdates hp hq).mpr hpq)
  have hread := (readSeconds_of_leapMillis (Stamp.onCalendar_true (hdates anchor ha))
    (Stamp.onCalendar_true (hdates p hp)) (Stamp.onCalendar_true (hdates q hq))
    ((key_le_iff hdates ha hp).mpr hap) ((key_le_iff hdates hp hq).mpr hpq)).1
  have hmillis : leapMillis p.1 q.1 ≤ 60000 := by
    by_contra hfar
    exact absurd (hread (not_le.mp hfar)) (not_lt.mpr h)
  have hgap : q.1.instant year - p.1.instant year ≤ 60000 := by
    unfold Calendar.day at hleap
    split at hleap <;> omega
  have hgap' : (q.1.instant year : ℚ) - p.1.instant year ≤ 60000 := by exact_mod_cast hgap
  unfold secondsAt
  rw [← sub_div, div_le_iff₀ (by norm_num)]
  linarith

lemma readSeconds_of_plain {anchor p q : Occurrence} (ha : anchor ∈ l) (hp : p ∈ l)
    (hq : q ∈ l) (hap : anchor.1.instant year ≤ p.1.instant year)
    (hpq : p.1.instant year ≤ q.1.instant year) (hfebruary : ¬ overFebruary year p q)
    (hminute : secondsAt year q - secondsAt year p ≠ 60) :
    (readSeconds anchor p q ≤ 60 ↔ secondsAt year q - secondsAt year p ≤ 60) ∧
      (readSeconds anchor p q < 60 ↔ secondsAt year q - secondsAt year p < 60) := by
  have hleap := leapMillis_eq hdates hp hq ((key_le_iff hdates hp hq).mpr hpq)
  rw [if_neg hfebruary, add_zero] at hleap
  obtain ⟨hfar, hclose⟩ := readSeconds_of_leapMillis (Stamp.onCalendar_true (hdates anchor ha))
    (Stamp.onCalendar_true (hdates p hp)) (Stamp.onCalendar_true (hdates q hq))
    ((key_le_iff hdates ha hp).mpr hap) ((key_le_iff hdates hp hq).mpr hpq)
  have hgap : secondsAt year q - secondsAt year p = (leapMillis p.1 q.1 : ℚ) / 1000 := by
    rw [hleap]
    unfold secondsAt
    push_cast
    ring
  rw [hgap] at hminute ⊢
  have hne : leapMillis p.1 q.1 ≠ 60000 := by
    intro h
    rw [h] at hminute
    norm_num at hminute
  rcases lt_or_gt_of_ne hne with hlt | hgt
  · have hlt' : (leapMillis p.1 q.1 : ℚ) / 1000 < 60 := by
      rw [div_lt_iff₀ (by norm_num)]
      have : (leapMillis p.1 q.1 : ℚ) < 60000 := by exact_mod_cast hlt
      linarith
    exact ⟨iff_of_true (hclose hlt).le hlt'.le, iff_of_true (hclose hlt) hlt'⟩
  · have hgt' : 60 < (leapMillis p.1 q.1 : ℚ) / 1000 := by
      rw [lt_div_iff₀ (by norm_num)]
      have : (60000 : ℚ) < leapMillis p.1 q.1 := by exact_mod_cast hgt
      linarith
    exact ⟨iff_of_false (not_le.mpr (hfar hgt)) (not_le.mpr hgt'),
      iff_of_false (not_lt.mpr (hfar hgt).le) (not_lt.mpr hgt'.le)⟩

end

def ReadWithinMinute (anchor : Occurrence) (l : List Occurrence) : Prop :=
  l.Pairwise (fun p q => readSeconds anchor p q ≤ 60)

lemma tooFar_eq_false_iff {anchor p q : Occurrence} :
    tooFar (offset anchor.1 p.1) (offset anchor.1 q.1) = false ↔ readSeconds anchor p q ≤ 60 := by
  unfold tooFar readSeconds rateWindowSeconds
  rw [decide_eq_false_iff_not, not_lt]

lemma readSeconds_self (anchor p : Occurrence) : readSeconds anchor p p = 0 := by
  rw [readSeconds, Double.sub, sub_self, Double.round_zero]

section

variable {first : Occurrence} {rest : List Occurrence} (horder : inOrder year l = first :: rest)
  (hdates : ∀ p ∈ l, p.1.onCalendar (isLeap year) = true)

include horder in
lemma mem_of_inOrder {p : Occurrence} : p ∈ first :: rest ↔ p ∈ l := by
  rw [← horder]
  exact (inOrder_perm year l).mem_iff

include horder in
lemma first_le {p : Occurrence} (hp : p ∈ l) : first.1.instant year ≤ p.1.instant year := by
  have hsorted := pairwise_inOrder year l
  rw [horder] at hsorted
  rcases List.mem_cons.mp ((mem_of_inOrder horder).mpr hp) with rfl | hp
  · exact le_refl _
  · exact (List.pairwise_cons.mp hsorted).1 p hp

include horder hdates

lemma offset_le_of_instant_le {p q : Occurrence} (hp : p ∈ l) (hq : q ∈ l)
    (h : p.1.instant year ≤ q.1.instant year) : offset first.1 p.1 ≤ offset first.1 q.1 := by
  have hfirst : first ∈ l := (mem_of_inOrder horder).mp List.mem_cons_self
  exact offset_mono (Stamp.onCalendar_true (hdates first hfirst))
    (Stamp.onCalendar_true (hdates p hp)) (Stamp.onCalendar_true (hdates q hq))
    ((key_le_iff hdates hfirst hp).mpr (first_le horder hp)) ((key_le_iff hdates hp hq).mpr h)

lemma pairwise_offsets :
    ((first :: rest).map (fun p => offset first.1 p.1)).Pairwise (· ≤ ·) := by
  have hsorted := pairwise_inOrder year l
  rw [horder] at hsorted
  rw [List.pairwise_map]
  apply hsorted.imp_of_mem
  intro p q hp hq hle
  exact offset_le_of_instant_le horder hdates ((mem_of_inOrder horder).mp hp)
    ((mem_of_inOrder horder).mp hq) hle

lemma length_le_maxRate1m {choice : List Occurrence} (hsub : choice.Sublist (first :: rest))
    (hread : ReadWithinMinute first choice) :
    choice.length ≤ maxRate1m ((first :: rest).map (fun p => offset first.1 p.1)) := by
  have hnear : Busiest.Near tooFar (choice.map (fun p => offset first.1 p.1)) := by
    rw [Busiest.Near, List.pairwise_map]
    exact hread.imp (fun h => tooFar_eq_false_iff.mpr h)
  have hle := Busiest.length_le_scan widening_tooFar (pairwise_offsets horder hdates)
    (hsub.map _) hnear
  rw [List.length_map] at hle
  exact hle

lemma exists_length_eq_maxRate1m : ∃ choice, choice.Sublist (first :: rest) ∧
    ReadWithinMinute first choice ∧
      choice.length = maxRate1m ((first :: rest).map (fun p => offset first.1 p.1)) := by
  obtain ⟨offsets, hsub, hnear, hlength⟩ :=
    Busiest.exists_length_eq_scan widening_tooFar (pairwise_offsets horder hdates)
  obtain ⟨choice, hchoice, rfl⟩ := List.sublist_map_iff.mp hsub
  rw [Busiest.Near, List.pairwise_map] at hnear
  rw [List.length_map] at hlength
  exact ⟨choice, hchoice, hnear.imp (fun h => tooFar_eq_false_iff.mp h), hlength⟩

lemma withinMinute_of_read {choice : List Occurrence} (hsub : choice.Sublist (first :: rest))
    (hread : ReadWithinMinute first choice) : WithinMinute year choice := by
  have hsorted : choice.Pairwise (fun p q => p.1.instant year ≤ q.1.instant year) := by
    have hsorted := pairwise_inOrder year l
    rw [horder] at hsorted
    exact hsorted.sublist hsub
  have hboth := List.pairwise_and_iff.mpr ⟨hsorted, hread⟩
  apply hboth.imp_of_mem
  rintro p q hp hq ⟨hle, hclose⟩
  have hp' : p ∈ l := (mem_of_inOrder horder).mp (hsub.subset hp)
  have hq' : q ∈ l := (mem_of_inOrder horder).mp (hsub.subset hq)
  exact secondsAt_of_readSeconds_le hdates ((mem_of_inOrder horder).mp List.mem_cons_self) hp' hq'
    (first_le horder hp') hle hclose

lemma readSeconds_le_of_pairwise {choice : List Occurrence} (hsub : choice.Sublist (first :: rest))
    (hread : ReadWithinMinute first choice) {p q : Occurrence} (hp : p ∈ choice)
    (hq : q ∈ choice) : readSeconds first p q ≤ 60 := by
  have hoffsets := pairwise_offsets horder hdates
  rw [List.pairwise_map] at hoffsets
  have hsorted := hoffsets.sublist hsub
  have hself : ∀ p ∈ choice, readSeconds first p p ≤ 60 := by
    intro p _
    rw [readSeconds_self]
    norm_num
  -- backwards the reading is not positive
  have hback : choice.Pairwise (flip (fun p q => readSeconds first p q ≤ 60)) := by
    apply hsorted.imp
    intro p q hle
    exact (Double.round_nonpos (sub_nonpos.mpr hle)).trans (by norm_num)
  exact List.Pairwise.forall_of_forall_of_flip hself hread hback hp hq

theorem isGreatest_maxRate1m_iff :
    IsGreatest (Set.range fun t => (inMinute year t l).length)
        (maxRate1m ((first :: rest).map (fun p => offset first.1 p.1))) ↔
      ∃ t, (∀ t', (inMinute year t' l).length ≤ (inMinute year t l).length) ∧
        ∀ p ∈ inMinute year t l, ∀ q ∈ inMinute year t l, readSeconds first p q ≤ 60 := by
  obtain ⟨choice, hsub, hread, hlength⟩ := exists_length_eq_maxRate1m horder hdates
  have hminute := withinMinute_of_read horder hdates hsub hread
  constructor
  · rintro ⟨-, hupper⟩
    -- the first occurrence alone makes for a minute that is not empty
    have hpos : choice ≠ [] := by
      rintro rfl
      have hfirst : first ∈ inMinute year (secondsAt year first) l := mem_inMinute.mpr
        ⟨(mem_of_inOrder horder).mp List.mem_cons_self, le_refl _, by linarith⟩
      have hle := hupper ⟨secondsAt year first, rfl⟩
      rw [← hlength, List.length_nil] at hle
      have hnil := List.length_eq_zero_iff.mp (Nat.le_zero.mp hle)
      rw [hnil] at hfirst
      cases hfirst
    obtain ⟨p, choice, rfl⟩ := List.exists_cons_of_ne_nil hpos
    have hin := sublist_inMinute (horder ▸ hsub) hminute
    have hbest := hupper ⟨secondsAt year p, rfl⟩
    -- the choice is all of its minute
    have hall : inMinute year (secondsAt year p) (inOrder year l) = p :: choice := by
      refine (hin.eq_of_length_le ?_).symm
      rw [length_inMinute_inOrder, hlength]
      exact hbest
    refine ⟨secondsAt year p, ?_, ?_⟩
    · intro t'
      rw [← length_inMinute_inOrder (secondsAt year p : ℝ), hall, hlength]
      exact hupper ⟨t', rfl⟩
    · intro q hq r hr
      have hmem : ∀ q, q ∈ inMinute year (secondsAt year p) l → q ∈ p :: choice := by
        intro q hq
        rw [← hall, mem_inMinute, (inOrder_perm year l).mem_iff, ← mem_inMinute]
        exact hq
      exact readSeconds_le_of_pairwise horder hdates hsub hread (hmem q hq) (hmem r hr)
  · rintro ⟨t, hbusiest, hclose⟩
    have hle : (inMinute year t l).length ≤
        maxRate1m ((first :: rest).map (fun p => offset first.1 p.1)) := by
      rw [← length_inMinute_inOrder]
      apply length_le_maxRate1m horder hdates (horder ▸ inMinute_sublist year t (inOrder year l))
      apply List.pairwise_of_forall_mem_list
      intro p hp q hq
      rw [mem_inMinute, (inOrder_perm year l).mem_iff, ← mem_inMinute] at hp hq
      exact hclose p hp q hq
    have hge : maxRate1m ((first :: rest).map (fun p => offset first.1 p.1)) ≤
        (inMinute year t l).length := by
      rw [← hlength]
      cases choice with
      | nil => exact Nat.zero_le _
      | cons p choice =>
        have hin := (sublist_inMinute (horder ▸ hsub) hminute).length_le
        rw [length_inMinute_inOrder] at hin
        exact hin.trans (hbusiest _)
    rw [le_antisymm hge hle]
    refine ⟨⟨t, rfl⟩, ?_⟩
    rintro _ ⟨t', rfl⟩
    exact hbusiest t'

end

theorem countBursts_iff {first : Occurrence} {rest : List Occurrence} :
    countBursts ((first :: rest).map (fun p => offset first.1 p.1)) =
        ((first :: rest).splitBy (follows year)).countP (fun run => 2 ≤ run.length) ↔
      ((Neighbours.begins (readFollows first) false (first :: rest)).zip
          (Neighbours.begins (follows year) false (first :: rest))).count (true, false) =
        ((Neighbours.begins (readFollows first) false (first :: rest)).zip
          (Neighbours.begins (follows year) false (first :: rest))).count (false, true) := by
  have hread : Neighbours.begins closeGap false
      ((first :: rest).map (fun p => offset first.1 p.1)) =
        Neighbours.begins (readFollows first) false (first :: rest) :=
    Neighbours.begins_map _ _ _ _
  rw [countBursts_eq, hread, ← Neighbours.count_begins]
  apply Neighbours.count_true_eq_iff
  rw [Neighbours.length_begins, Neighbours.length_begins]

theorem readsMinutes_of_plain (hdates : ∀ p ∈ l, p.1.onCalendar (isLeap year) = true)
    (hplain : ∀ p ∈ l, ∀ q ∈ l, p.1.instant year ≤ q.1.instant year →
      secondsAt year q - secondsAt year p ≠ 60 ∧
        (overFebruary year p q → 60 < secondsAt year q - secondsAt year p)) :
    ReadsMinutes year l := by
  have hread : ∀ anchor ∈ (inOrder year l).head?, ∀ p ∈ l, ∀ q ∈ l,
      p.1.instant year ≤ q.1.instant year →
        (secondsAt year q - secondsAt year p ≤ 60 → readSeconds anchor p q ≤ 60) ∧
          readFollows anchor p q = follows year p q := by
    intro anchor hanchor p hp q hq hpq
    obtain ⟨rest, horder⟩ := List.head?_eq_some_iff.mp hanchor
    have ha : anchor ∈ l := (mem_of_inOrder horder).mp List.mem_cons_self
    have hap := first_le horder hp
    obtain ⟨hminute, hover⟩ := hplain p hp q hq hpq
    by_cases hfebruary : overFebruary year p q
    · -- such a gap is long, and is read as longer
      have hlong := hover hfebruary
      have hfar : ¬ readSeconds anchor p q ≤ 60 := fun hle => absurd
        (secondsAt_of_readSeconds_le hdates ha hp hq hap hpq hle) (not_le.mpr hlong)
      refine ⟨fun hle => absurd hle (not_le.mpr hlong), ?_⟩
      unfold readFollows follows
      rw [decide_eq_false (fun hlt => hfar (le_of_lt hlt)), decide_eq_false (not_lt.mpr hlong.le)]
    · obtain ⟨hle, hlt⟩ := readSeconds_of_plain hdates ha hp hq hap hpq hfebruary hminute
      exact ⟨hle.mpr, decide_eq_decide.mpr hlt⟩
  constructor
  · -- the sizes of the minutes are bounded
    let missing : ℝ → ℕ := fun t => l.length - (inMinute year t l).length
    obtain ⟨t, ht⟩ : ∃ t, ∀ t', missing t ≤ missing t' :=
      ⟨Function.argmin missing, fun t' => Function.argmin_le missing t'⟩
    refine ⟨t, ?_, ?_⟩
    · intro t'
      have hsub := (inMinute_sublist year t' l).length_le
      have hmissing := ht t'
      unfold missing at hmissing
      omega
    · intro anchor hanchor p hp q hq
      obtain ⟨hp, hpt, -⟩ := mem_inMinute.mp hp
      obtain ⟨hq, -, hqt⟩ := mem_inMinute.mp hq
      rcases le_total (p.1.instant year) (q.1.instant year) with hle | hle
      · apply (hread anchor hanchor p hp q hq hle).1
        have hgap : (secondsAt year q : ℝ) - secondsAt year p ≤ 60 := by linarith
        exact_mod_cast hgap
      · obtain ⟨rest, horder⟩ := List.head?_eq_some_iff.mp hanchor
        have hoffsets := offset_le_of_instant_le horder hdates hq hp hle
        exact (Double.round_nonpos (sub_nonpos.mpr hoffsets)).trans (by norm_num)
  · intro anchor hanchor
    have hsame : Neighbours.begins (readFollows anchor) false (inOrder year l) =
        Neighbours.begins (follows year) false (inOrder year l) := by
      apply Neighbours.begins_congr
      apply List.Pairwise.isChain
      apply (pairwise_inOrder year l).imp_of_mem
      intro p q hp hq hle
      exact (hread anchor hanchor p ((inOrder_perm year l).mem_iff.mp hp) q
        ((inOrder_perm year l).mem_iff.mp hq) hle).2
    rw [hsame]
    exact (Neighbours.count_true_eq_iff rfl).mp rfl

section

variable {group : List MnemonicRecord} {mnemonic : String} {a : MnemonicAggregate}
  (hdates : ∀ p ∈ occurrences digits group, p.1.onCalendar (isLeap year) = true)
  (htold : Told digits mnemonic group a)

include hdates htold

theorem defined_iff :
    a.Defined year (occurrences digits group) ↔ ReadsMinutes year (occurrences digits group) := by
  have hperm := inOrder_perm year (occurrences digits group)
  have hsorted := pairwise_inOrder year (occurrences digits group)
  obtain ⟨-, -, -, hfirstSeen, hlastSeen, hnumbers⟩ := htold
  rw [sortedOccurrences_eq hdates] at hfirstSeen hlastSeen hnumbers
  cases horder : inOrder year (occurrences digits group) with
  | nil =>
    rw [horder] at hperm hfirstSeen hlastSeen hnumbers
    have hnil := hperm.nil_eq.symm
    obtain ⟨-, -, hmax, hbursts⟩ : a.windowSeconds = none ∧ a.ratePerHour = none ∧
        a.maxRate1m = none ∧ a.bursts = none := by
      simpa [numbersOf, Prod.ext_iff] using hnumbers
    rw [hnil]
    constructor
    · intro _
      refine ⟨⟨0, fun _ => le_refl _, ?_⟩, ?_⟩
      · intro anchor hanchor
        cases hanchor
      · intro anchor hanchor
        cases hanchor
    · intro _
      exact ⟨fun _ => ⟨hfirstSeen, hlastSeen, hmax, hbursts⟩, fun h => absurd rfl h,
        fun h => absurd rfl h, fun h => absurd rfl h, fun h => absurd rfl h⟩
  | cons first rest =>
    rw [horder] at hperm hsorted hfirstSeen hlastSeen hnumbers
    have hne : occurrences digits group ≠ [] := by
      intro hnil
      rw [hnil] at hperm
      cases hperm.eq_nil
    have hoffsets : ((first :: rest).map Prod.fst).map (offset first.1) =
        (first :: rest).map (fun p => offset first.1 p.1) := by
      rw [List.map_map]
      rfl
    have hmax : a.maxRate1m =
        some (maxRate1m (((first :: rest).map Prod.fst).map (offset first.1))) :=
      congrArg (fun numbers => numbers.2.2.1) hnumbers
    have hbursts : a.bursts =
        some (countBursts (((first :: rest).map Prod.fst).map (offset first.1))) :=
      congrArg (fun numbers => numbers.2.2.2) hnumbers
    rw [hoffsets] at hmax hbursts
    have hbusiest := isGreatest_maxRate1m_iff horder hdates
    constructor
    · intro h
      obtain ⟨m, hm, hgreatest⟩ := h.maxRate1m hne
      have hruns := h.bursts hne
      rw [hmax, Option.some.injEq] at hm
      rw [← hm, hbusiest] at hgreatest
      rw [hbursts, horder, Option.some.injEq, countBursts_iff] at hruns
      obtain ⟨t, ht, hclose⟩ := hgreatest
      refine ⟨⟨t, ht, ?_⟩, ?_⟩
      · intro anchor hanchor
        rw [horder, List.head?_cons, Option.mem_some] at hanchor
        exact hanchor ▸ hclose
      · intro anchor hanchor
        rw [horder, List.head?_cons, Option.mem_some] at hanchor
        rw [← hanchor, horder]
        exact hruns
    · intro h
      have hhead : first ∈ (inOrder year (occurrences digits group)).head? := by
        rw [horder]
        rfl
      refine ⟨fun hnil => absurd hnil hne, fun _ => ?_, fun _ => ?_, fun _ => ?_, fun _ => ?_⟩
      · refine ⟨first, hperm.mem_iff.mp List.mem_cons_self, ?_, hfirstSeen⟩
        intro q hq
        exact secondsAt_le_iff.mpr (first_le horder hq)
      · obtain ⟨before, last, hlast⟩ := List.eq_nil_or_concat' (first :: rest) |>.resolve_left
          (List.cons_ne_nil _ _)
        rw [hlast] at hperm hsorted hlastSeen
        rw [List.getLast?_concat] at hlastSeen
        refine ⟨last, hperm.mem_iff.mp (List.mem_append_right _ (List.mem_singleton_self last)), ?_,
          hlastSeen⟩
        intro q hq
        rcases List.mem_append.mp (hperm.mem_iff.mpr hq) with hq | hq
        · exact secondsAt_le_iff.mpr
            ((List.pairwise_append.mp hsorted).2.2 q hq last (List.mem_singleton_self last))
        · rw [List.mem_singleton.mp hq]
      · obtain ⟨t, ht, hclose⟩ := h.busiest
        exact ⟨_, hmax, hbusiest.mpr ⟨t, ht, hclose first hhead⟩⟩
      · have hruns := h.bursts first hhead
        rw [horder, ← countBursts_iff] at hruns
        rw [hbursts, horder, hruns]

end

lemma valuesAt_records (records : List MnemonicRecord) (name : String) :
    Gathering.valuesAt name (records.map (fun record => (record.name, record))) =
      recordsOf records name := by
  unfold Gathering.valuesAt recordsOf
  rw [List.filterMap_map, ← List.filterMap_eq_filter]
  apply List.filterMap_congr
  intro record _
  by_cases h : record.name = name
  · simp [h, Option.guard]
  · simp [h, Option.guard]

lemma mem_groupByMnemonic {records : List MnemonicRecord} {name : String}
    {group : List MnemonicRecord} : (name, group) ∈ groupByMnemonic records ↔
      group = recordsOf records name ∧ group ≠ [] := by
  rw [groupByMnemonic, Gathering.mem_gather_iff, valuesAt_records]

lemma dates_of_recordsOf {records : List MnemonicRecord} (h : DatesOfYear digits year records)
    (name : String) : ∀ p ∈ occurrences digits (recordsOf records name),
      p.1.onCalendar (isLeap year) = true := by
  intro p hp
  obtain ⟨hrecord, hstamp⟩ := mem_occurrences.mp hp
  exact h p.2 (List.mem_filter.mp hrecord).1 p.1 hstamp

lemma aggregateByMnemonic_told {records : List MnemonicRecord}
    (h : DatesOfYear digits year records) :
    ∃ told : String × List MnemonicRecord → MnemonicAggregate,
      aggregateByMnemonic digits records = some ((groupByMnemonic records).map told) ∧
        ∀ entry ∈ groupByMnemonic records, Told digits entry.1 entry.2 (told entry) := by
  have hgroups : ∀ entry ∈ groupByMnemonic records, ∃ a,
      aggregateGroup digits entry.1 entry.2 = some a ∧
        Told digits entry.1 entry.2 a := by
    rintro ⟨name, group⟩ hentry
    apply aggregateGroup_told
    intro p hp
    rw [(mem_groupByMnemonic.mp hentry).1] at hp
    exact Stamp.onCalendar_true (dates_of_recordsOf h name p hp)
  choose! told htold using hgroups
  exact ⟨told, ListSearch.mapM_eq_some_map (fun entry hentry => (htold entry hentry).1),
    fun entry hentry => (htold entry hentry).2⟩

def numbersOfGroup (digits : DigitTable) (entry : String × List MnemonicRecord) :
    String × Nat × (Option ℚ × Option ℚ × Option Nat × Option Nat) × Nat :=
  (entry.1, entry.2.length, numbersOf ((sortedOccurrences digits entry.2).map Prod.fst),
    entry.2.countP (fun record => (record.stamp digits).isNone))

lemma numbers_of_told {entry : String × List MnemonicRecord} {a : MnemonicAggregate}
    (h : Told digits entry.1 entry.2 a) : a.numbers = numbersOfGroup digits entry := by
  unfold MnemonicAggregate.numbers numbersOfGroup
  rw [h.mnemonic_eq, h.count_eq, h.numbers, h.untimed_eq]

lemma numbers_perm {records records' : List MnemonicRecord} (h : records.Perm records') :
    ((groupByMnemonic records).map (numbersOfGroup digits)).Perm
      ((groupByMnemonic records').map (numbersOfGroup digits)) := by
  apply Gathering.gather_perm (h.map _)
  intro name group group' hgroup
  unfold numbersOfGroup
  rw [hgroup.length_eq, sortedStamps_perm hgroup, hgroup.countP_eq]

theorem aggregatesAreDefined_iff {records : List MnemonicRecord}
    (h : DatesOfYear digits year records) :
    AggregatesAreDefined digits year records ↔
      ∀ record ∈ records,
        ReadsMinutes year (occurrences digits (recordsOf records record.name)) := by
  obtain ⟨told, haggregates, htold⟩ := aggregateByMnemonic_told h
  have hdefined : ∀ entry ∈ groupByMnemonic records,
      ((told entry).Defined year (occurrences digits (recordsOf records entry.1)) ↔
        ReadsMinutes year (occurrences digits (recordsOf records entry.1))) := by
    rintro ⟨name, group⟩ hentry
    obtain ⟨rfl, -⟩ := mem_groupByMnemonic.mp hentry
    exact defined_iff (dates_of_recordsOf h name) (htold _ hentry)
  constructor
  · rintro ⟨aggregates, hsome, -, -, hall, -⟩ record hrecord
    rw [haggregates, Option.some.injEq] at hsome
    have hentry : (record.name, recordsOf records record.name) ∈ groupByMnemonic records :=
      mem_groupByMnemonic.mpr ⟨rfl, List.ne_nil_of_mem (List.mem_filter.mpr ⟨hrecord, by simp⟩)⟩
    have hright := hall _ (hsome ▸ List.mem_map_of_mem hentry)
    rw [(htold _ hentry).mnemonic_eq] at hright
    exact (hdefined _ hentry).mp hright
  · intro hreads
    refine ⟨_, haggregates, ?_, ?_, ?_, ?_⟩
    · have hnames : ((groupByMnemonic records).map told).map (·.mnemonic) =
          (groupByMnemonic records).map Prod.fst := by
        rw [List.map_map]
        exact List.map_congr_left (fun entry hentry => (htold entry hentry).mnemonic_eq)
      rw [hnames, groupByMnemonic, Gathering.keys_gather, List.map_map]
      rfl
    · have hcounts : ((groupByMnemonic records).map told).map (·.count) =
          (groupByMnemonic records).map (fun entry => entry.2.length) := by
        rw [List.map_map]
        exact List.map_congr_left (fun entry hentry => (htold entry hentry).count_eq)
      have hvalues := (Gathering.flatMap_gather_perm
        (records.map (fun record => (record.name, record)))).length_eq
      rw [List.length_flatMap, List.length_map, List.length_map] at hvalues
      rw [hcounts]
      exact hvalues
    · intro a ha
      obtain ⟨⟨name, group⟩, hentry, rfl⟩ := List.mem_map.mp ha
      obtain ⟨hgroup, hne⟩ := mem_groupByMnemonic.mp hentry
      obtain ⟨record, hrecord⟩ := List.exists_mem_of_ne_nil _ hne
      rw [hgroup, recordsOf, List.mem_filter, decide_eq_true_eq] at hrecord
      rw [(htold _ hentry).mnemonic_eq, hdefined _ hentry, ← hrecord.2]
      exact hreads record hrecord.1
    · intro records' hperm
      have h' : DatesOfYear digits year records' :=
        fun record hrecord => h record (hperm.mem_iff.mpr hrecord)
      obtain ⟨told', haggregates', htold'⟩ := aggregateByMnemonic_told h'
      refine ⟨_, haggregates', ?_⟩
      have hnumbers : ∀ (r : List MnemonicRecord) (t : String × List MnemonicRecord →
          MnemonicAggregate), (∀ entry ∈ groupByMnemonic r,
            Told digits entry.1 entry.2 (t entry)) →
          ((groupByMnemonic r).map t).map (·.numbers) =
            (groupByMnemonic r).map (numbersOfGroup digits) := by
        intro r t ht
        rw [List.map_map]
        exact List.map_congr_left (fun entry hentry => numbers_of_told (ht entry hentry))
      rw [hnumbers _ _ htold, hnumbers _ _ htold']
      exact numbers_perm hperm

def februaryRecords : List MnemonicRecord :=
  [{ timestamp := some "Feb 28 23:59:40.000 UTC", mnemonic := some "ROUTING-BGP-5-ADJCHANGE" },
    { timestamp := some "Mar  1 00:00:10.000 UTC", mnemonic := some "ROUTING-BGP-5-ADJCHANGE" }]

lemma datesOfYear_februaryRecords : DatesOfYear DigitTable.ascii 2026 februaryRecords := by
  have hall : ∀ record ∈ februaryRecords,
      (record.stamp DigitTable.ascii).all (fun stamp => stamp.onCalendar (isLeap 2026)) = true := by
    decide +kernel
  intro record hrecord stamp hstamp
  have hrecord' := hall record hrecord
  rw [hstamp] at hrecord'
  exact hrecord'

theorem aggregatesAreDefined_iff_february :
    AggregatesAreDefined DigitTable.ascii 2026 februaryRecords ↔
      ∀ record ∈ februaryRecords,
        ReadsMinutes 2026
          (occurrences DigitTable.ascii (recordsOf februaryRecords record.name)) :=
  aggregatesAreDefined_iff datesOfYear_februaryRecords

theorem not_aggregatesAreDefined_february :
    DatesOfYear DigitTable.ascii 2026 februaryRecords ∧
      ¬ AggregatesAreDefined DigitTable.ascii 2026 februaryRecords := by
  refine ⟨datesOfYear_februaryRecords, ?_⟩
  rintro ⟨aggregates, hsome, -, -, hall, -⟩
  have htold : (aggregateByMnemonic DigitTable.ascii februaryRecords).map
      (List.map (fun a => (a.mnemonic, a.bursts))) =
        some [("ROUTING-BGP-5-ADJCHANGE", some 0)] := by decide +kernel
  rw [hsome, Option.map_some, Option.some.injEq] at htold
  obtain ⟨a, rest, rfl, ha, -⟩ := List.map_eq_cons_iff.mp htold
  obtain ⟨hname, hbursts⟩ := Prod.mk.injEq _ _ _ _ ▸ ha
  have hruns := (hall a List.mem_cons_self).bursts
  rw [hname, hbursts] at hruns
  -- both records are there, and they follow one another within a minute
  have hne : occurrences DigitTable.ascii
      (recordsOf februaryRecords "ROUTING-BGP-5-ADJCHANGE") ≠ [] := by
    intro hnil
    have hlength := congrArg List.length hnil
    revert hlength
    decide +kernel
  have hcount : ((inOrder 2026 (occurrences DigitTable.ascii
      (recordsOf februaryRecords "ROUTING-BGP-5-ADJCHANGE"))).splitBy (follows 2026)).countP
        (fun run => 2 ≤ run.length) = 1 := by decide +kernel
  rw [hcount] at hruns
  cases hruns hne

end LogAggregates

end NetTools
