import NetTools.Library.Busiest
import NetTools.Library.Gathering
import NetTools.Logs.Episodes
import NetTools.Python.Double

/-!
# The temporal shape of each mnemonic

The records of a window are grouped by mnemonic. The occurrences of one mnemonic that have a
timestamp are sorted, and the seconds since the first of them are scanned for the busiest minute
and for bursts.
-/

namespace NetTools

namespace LogAggregates

open Calendar

/-- What `aggregate_by_mnemonic` reads of a record. -/
structure MnemonicRecord extends LogRecord where
  mnemonic : Option String := none

structure MnemonicAggregate where
  mnemonic : String
  count : Nat
  firstSeen : String
  lastSeen : String
  sample : String
  windowSeconds : Option ℚ
  ratePerHour : Option ℚ
  maxRate1m : Option Nat
  bursts : Option Nat
  untimed : Nat := 0
deriving DecidableEq, Inhabited

def rateWindowSeconds : ℚ := 60

/-- The condition of the inner loop of `_max_rate_1m`. -/
def tooFar (offset value : ℚ) : Bool := rateWindowSeconds < Double.sub value offset

def maxRate1m (offsets : List ℚ) : Nat := Busiest.scan tooFar offsets

def closeGap (previous offset : ℚ) : Bool := Double.sub offset previous < rateWindowSeconds

/-- The variables of the loop of `_bursts`. -/
structure BurstScan where
  runs : Nat := 0
  inRun : Bool := false

def BurstScan.step (s : BurstScan) (close : Bool) : BurstScan :=
  if close then
    if !s.inRun then { runs := s.runs + 1, inRun := true } else s
  else { s with inRun := false }

/-- `_bursts`. -/
def countBursts (offsets : List ℚ) : Nat :=
  if offsets.length < 2 then 0
  else ((Neighbours.read closeGap offsets).foldl BurstScan.step {}).runs

/-- `seconds_between` returns the double closest to the interval. -/
def elapsed (earlier later : Stamp) : Option ℚ := (secondsBetween earlier later).map Double.round

abbrev Occurrence : Type := Stamp × MnemonicRecord

variable (digits : DigitTable)

def occurrences (group : List MnemonicRecord) : List Occurrence :=
  group.filterMap (fun record => (record.stamp digits).map (fun stamp => (stamp, record)))

/-- `timed.sort(key=…)`. -/
def sortedOccurrences (group : List MnemonicRecord) : List Occurrence :=
  (occurrences digits group).insertionSort (fun p q => p.1.key ≤ q.1.key)

def aggregateGroup (mnemonic : String) (group : List MnemonicRecord) : Option MnemonicAggregate :=
  let timed := sortedOccurrences digits group
  let untimed := group.countP (fun record => (record.stamp digits).isNone)
  match timed with
  | [] => some
      { mnemonic := mnemonic
        count := group.length
        firstSeen := ""
        lastSeen := ""
        sample := (group.getLast?.bind (·.text)).getD ""
        windowSeconds := none
        ratePerHour := none
        maxRate1m := none
        bursts := none
        untimed := untimed }
  | first :: rest => do
    let offsets ← (first :: rest).mapM (fun pair => elapsed first.1 pair.1)
    let last := (first :: rest).getLast (List.cons_ne_nil first rest)
    let windowSeconds :=
      if 1 < offsets.length then
        some (Double.sub (offsets.getLast?.getD 0) (offsets.head?.getD 0))
      else none
    let ratePerHour := windowSeconds.bind (fun seconds =>
      if 0 < seconds then some (Double.div timed.length (Double.div seconds 3600)) else none)
    pure
      { mnemonic := mnemonic
        count := group.length
        firstSeen := first.2.timestamp.getD ""
        lastSeen := last.2.timestamp.getD ""
        sample := last.2.text.getD ""
        windowSeconds := windowSeconds
        ratePerHour := ratePerHour
        maxRate1m := some (maxRate1m offsets)
        bursts := some (countBursts offsets)
        untimed := untimed }

/-- `record.get("mnemonic", "")`. -/
def MnemonicRecord.name (record : MnemonicRecord) : String := record.mnemonic.getD ""

def groupByMnemonic (records : List MnemonicRecord) : List (String × List MnemonicRecord) :=
  Gathering.gather (records.map (fun record => (record.name, record)))

/-- `none` for a `ValueError` of `seconds_between`. -/
def aggregateByMnemonic (records : List MnemonicRecord) : Option (List MnemonicAggregate) :=
  (groupByMnemonic records).mapM (fun group => aggregateGroup digits group.1 group.2)

lemma BurstScan.foldl_runs (l : List ℚ) (s : BurstScan) :
    ((Neighbours.read closeGap l).foldl BurstScan.step s).runs =
      s.runs + (Neighbours.begins closeGap s.inRun l).count true := by
  induction l generalizing s with
  | nil => rfl
  | cons a l ih =>
    cases l with
    | nil => rfl
    | cons b l =>
      have hstep : s.step (closeGap a b) =
          ⟨s.runs + (if (closeGap a b && !s.inRun) = true then 1 else 0), closeGap a b⟩ := by
        obtain ⟨runs, inRun⟩ := s
        cases closeGap a b <;> cases inRun <;> rfl
      rw [Neighbours.read, List.foldl_cons, ih, hstep, Neighbours.begins, List.count_cons]
      cases (closeGap a b && !s.inRun)
      · simp
      · simp only [if_true, beq_self_eq_true]
        omega

theorem countBursts_eq (offsets : List ℚ) :
    countBursts offsets = (Neighbours.begins closeGap false offsets).count true := by
  unfold countBursts
  split
  · rename_i hshort
    match offsets with
    | [] => rfl
    | [a] => rfl
    | a :: b :: l => exact absurd hshort (by simp)
  · rw [BurstScan.foldl_runs]
    exact Nat.zero_add _

lemma sub_mono {a' a b b' : ℚ} (ha : a' ≤ a) (hab : a ≤ b) (hb : b ≤ b') :
    Double.sub b a ≤ Double.sub b' a' := by
  apply Double.round_mono
  · exact sub_nonneg.mpr hab
  · exact sub_le_sub hb ha

lemma widening_tooFar : Busiest.Widening tooFar where
  self := by
    intro a
    have hzero : Double.sub a a = 0 := by rw [Double.sub, sub_self, Double.round_zero]
    rw [tooFar, hzero]
    rfl
  mono := by
    intro a' a b b' ha hab hb hfar
    rw [tooFar, decide_eq_true_eq] at hfar ⊢
    exact hfar.trans_le (sub_mono ha hab hb)

variable {digits} {group group' : List MnemonicRecord}

lemma mem_occurrences {p : Occurrence} :
    p ∈ occurrences digits group ↔ p.2 ∈ group ∧ p.2.stamp digits = some p.1 := by
  unfold occurrences
  rw [List.mem_filterMap]
  constructor
  · rintro ⟨record, hrecord, h⟩
    obtain ⟨stamp, hstamp, rfl⟩ := Option.map_eq_some_iff.mp h
    exact ⟨hrecord, hstamp⟩
  · rintro ⟨hrecord, hstamp⟩
    exact ⟨p.2, hrecord, by rw [hstamp]; rfl⟩

lemma sortedOccurrences_perm (group : List MnemonicRecord) :
    (sortedOccurrences digits group).Perm (occurrences digits group) :=
  List.perm_insertionSort _ _

lemma pairwise_sortedOccurrences (digits : DigitTable) (group : List MnemonicRecord) :
    (sortedOccurrences digits group).Pairwise (fun p q => p.1.key ≤ q.1.key) :=
  Sorting.pairwise_insertionSort_key (fun p : Occurrence => p.1.key) _

lemma sortedStamps_perm (h : group.Perm group') :
    (sortedOccurrences digits group).map Prod.fst =
      (sortedOccurrences digits group').map Prod.fst := by
  have hsorted : ∀ g : List MnemonicRecord, (sortedOccurrences digits g).map Prod.fst =
      ((occurrences digits g).map Prod.fst).insertionSort (fun s t => s.key ≤ t.key) := by
    intro g
    exact List.map_insertionSort _ _ Prod.fst _ (fun _ _ _ _ => Iff.rfl)
  rw [hsorted, hsorted]
  apply Sorting.insertionSort_key_eq_of_perm Stamp.key
  · exact (h.filterMap _).map _
  · intro s _ t _ hkey
    exact Stamp.key_injective hkey

def offset (anchor later : Stamp) : ℚ := (elapsed anchor later).getD 0

lemma elapsed_eq_some {a b : Stamp} (ha : a.onCalendar true = true) (hb : b.onCalendar true = true)
    (h : a.key ≤ b.key) : elapsed a b = some (offset a b) := by
  unfold offset elapsed
  rw [secondsBetween_of_key_le ha hb h]
  rfl

def numbersOf (stamps : List Stamp) : Option ℚ × Option ℚ × Option Nat × Option Nat :=
  match stamps with
  | [] => (none, none, none, none)
  | anchor :: rest =>
    let offsets := (anchor :: rest).map (offset anchor)
    let windowSeconds :=
      if 1 < offsets.length then
        some (Double.sub (offsets.getLast?.getD 0) (offsets.head?.getD 0))
      else none
    (windowSeconds,
      windowSeconds.bind (fun seconds =>
        if 0 < seconds then some (Double.div offsets.length (Double.div seconds 3600)) else none),
      some (maxRate1m offsets), some (countBursts offsets))

structure Told (digits : DigitTable) (mnemonic : String) (group : List MnemonicRecord)
    (a : MnemonicAggregate) : Prop where
  mnemonic_eq : a.mnemonic = mnemonic
  count_eq : a.count = group.length
  untimed_eq : a.untimed = group.countP (fun record => (record.stamp digits).isNone)
  firstSeen_eq :
    a.firstSeen = ((sortedOccurrences digits group).head?.bind (·.2.timestamp)).getD ""
  lastSeen_eq :
    a.lastSeen = ((sortedOccurrences digits group).getLast?.bind (·.2.timestamp)).getD ""
  numbers : (a.windowSeconds, a.ratePerHour, a.maxRate1m, a.bursts) =
    numbersOf ((sortedOccurrences digits group).map Prod.fst)

theorem aggregateGroup_told (mnemonic : String)
    (h : ∀ p ∈ occurrences digits group, p.1.onCalendar true = true) :
    ∃ a, aggregateGroup digits mnemonic group = some a ∧
      Told digits mnemonic group a := by
  have hcalendar : ∀ p ∈ sortedOccurrences digits group, p.1.onCalendar true = true :=
    fun p hp => h p ((sortedOccurrences_perm group).mem_iff.mp hp)
  have hsorted := pairwise_sortedOccurrences digits group
  cases htimed : sortedOccurrences digits group with
  | nil =>
    refine ⟨_, by rw [aggregateGroup, htimed], ⟨rfl, rfl, rfl, ?_, ?_, ?_⟩⟩
    · rw [htimed]; rfl
    · rw [htimed]; rfl
    · rw [htimed]; rfl
  | cons first rest =>
    rw [htimed] at hcalendar hsorted
    have hoffsets : (first :: rest).mapM (fun pair => elapsed first.1 pair.1) =
        some ((first :: rest).map (fun pair => offset first.1 pair.1)) := by
      apply ListSearch.mapM_eq_some_map
      intro pair hpair
      apply elapsed_eq_some (hcalendar first List.mem_cons_self) (hcalendar pair hpair)
      rcases List.mem_cons.mp hpair with rfl | hpair
      · exact le_refl _
      · exact (List.pairwise_cons.mp hsorted).1 pair hpair
    have hstamps : (first :: rest).map (fun pair => offset first.1 pair.1) =
        ((first :: rest).map Prod.fst).map (offset first.1) := by
      rw [List.map_map]
      rfl
    have hlast : (first :: rest).getLast? = some ((first :: rest).getLast (List.cons_ne_nil _ _)) :=
      List.getLast?_eq_some_getLast _
    refine ⟨_, by rw [aggregateGroup, htimed]; simp only [hoffsets, Option.bind_eq_bind,
      Option.bind_some]; rfl, ⟨rfl, rfl, rfl, ?_, ?_, ?_⟩⟩
    · rw [htimed]
      rfl
    · rw [htimed, hlast]
      rfl
    · rw [htimed, hstamps, List.map_cons, numbersOf]
      simp only [List.length_map, List.length_cons, List.map_cons]

end LogAggregates

end NetTools
