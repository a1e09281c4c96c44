import Mathlib.Data.List.ReduceOption
import NetTools.Library.Validation
import NetTools.Logs.ClockSkew
import NetTools.Logs.DeviceText

/-!
# The missing year

A date without a year that is read near a reference less than half a year away is given its year
back, and the offset of the two is true up to the precision of a double. Whether an assessment
returns depends on the records: a timestamp that is no text, or a number of nanoseconds outside of
the years of a `datetime`, raises.
-/

namespace NetTools

namespace ClockSkew

open Calendar

variable {digits : DigitTable}

section

variable {parsed : Stamp} {reference : Int}

lemma isSome_foldl_nearer (years : List Int) (best : Option (Int × ℚ)) :
    (years.foldl (nearer parsed reference) best).isSome = true ↔
      best.isSome = true ∨ ∃ year ∈ years, (candidateIn parsed year).isSome = true := by
  induction years generalizing best with
  | nil => simp
  | cons year years ih =>
    have hstep : (nearer parsed reference best year).isSome = true ↔
        best.isSome = true ∨ (candidateIn parsed year).isSome = true := by
      unfold nearer
      cases candidateIn parsed year with
      | none => simp
      | some candidate =>
        cases best with
        | none => simp
        | some entry =>
          dsimp only
          split <;> simp
    rw [List.foldl_cons, ih, hstep, or_assoc]
    simp only [List.exists_mem_cons_iff]

lemma foldl_nearer_eq {year₀ c₀ : Int} (hcandidate : candidateIn parsed year₀ = some c₀)
    {years : List Int} (hothers : ∀ year ∈ years, ∀ c, candidateIn parsed year = some c →
      year = year₀ ∨ |totalSeconds (c₀ - reference)| < |totalSeconds (c - reference)|)
    (best : Option (Int × ℚ))
    (hbest : best = some (c₀, |totalSeconds (c₀ - reference)|) ∨
      year₀ ∈ years ∧ ∀ entry ∈ best, |totalSeconds (c₀ - reference)| < entry.2) :
    years.foldl (nearer parsed reference) best =
      some (c₀, |totalSeconds (c₀ - reference)|) := by
  induction years generalizing best with
  | nil =>
    rcases hbest with hbest | ⟨hmem, -⟩
    · exact hbest
    · cases hmem
  | cons year years ih =>
    rw [List.foldl_cons]
    apply ih (fun y hy => hothers y (List.mem_cons_of_mem year hy))
    have hhead := hothers year List.mem_cons_self
    unfold nearer
    cases hyear : candidateIn parsed year with
    | none =>
      rcases hbest with hbest | ⟨hmem, hfar⟩
      · exact .inl hbest
      · rcases List.mem_cons.mp hmem with rfl | hmem
        · rw [hcandidate] at hyear
          cases hyear
        · exact .inr ⟨hmem, hfar⟩
    | some c =>
      rcases hhead c hyear with rfl | hlt
      · rw [hcandidate, Option.some.injEq] at hyear
        subst hyear
        left
        rcases hbest with rfl | ⟨-, hfar⟩
        · exact if_neg (lt_irrefl _)
        · cases best with
          | none => rfl
          | some entry => exact if_pos (hfar entry rfl)
      · rcases hbest with rfl | ⟨hmem, hfar⟩
        · exact .inl (if_neg (not_lt.mpr hlt.le))
        · have hmem' : year₀ ∈ years := by
            rcases List.mem_cons.mp hmem with rfl | hmem
            · rw [hcandidate, Option.some.injEq] at hyear
              rw [hyear] at hlt
              exact absurd hlt (lt_irrefl _)
            · exact hmem
          refine .inr ⟨hmem', ?_⟩
          cases best with
          | none =>
            intro entry hentry
            rw [← Option.some.inj hentry]
            exact hlt
          | some entry =>
            dsimp only
            split
            · intro entry' hentry
              rw [← Option.some.inj hentry]
              exact hlt
            · exact hfar

end

/-! ### The reference -/

lemma abs_sub_whole_le (q : ℚ) : |q - (q.num.tdiv q.den : Int)| ≤ 1 := by
  have hden : (0 : ℚ) < q.den := by exact_mod_cast q.den_pos
  have hsplit : (q.num : ℚ) = q.den * (q.num.tdiv q.den : Int) + (q.num.tmod q.den : Int) := by
    exact_mod_cast (Int.mul_tdiv_add_tmod q.num q.den).symm
  have hsub : q - (q.num.tdiv q.den : Int) = ((q.num.tmod q.den : Int) : ℚ) / q.den := by
    have hq : q * q.den = q.num := Rat.mul_den_eq_num q
    rw [eq_div_iff hden.ne', sub_mul, hq, hsplit]
    ring
  have hmod : |((q.num.tmod q.den : Int) : ℚ)| ≤ q.den := by
    rw [← Int.cast_abs]
    have hlt := Int.natAbs_tmod q.num q.den
    have hle : (q.num.natAbs % q.den : Nat) < q.den := Nat.mod_lt _ q.den_pos
    have habs : |q.num.tmod q.den| < q.den := by
      rw [Int.abs_eq_natAbs, hlt, Int.natAbs_natCast]
      exact_mod_cast hle
    exact_mod_cast habs.le
  rw [hsub, abs_div, abs_of_pos hden, div_le_one₀ hden]
  exact hmod

lemma abs_microsOf_sub_le (seconds : ℚ) :
    |(microsOf seconds : ℚ) - seconds * 1000000| ≤ 51 / 100 := by
  have hwhole := abs_sub_whole_le seconds
  unfold microsOf
  dsimp only
  generalize seconds.num.tdiv seconds.den = whole at hwhole ⊢
  have hround := abs_roundHalfEven_sub_le (Double.round ((seconds - whole) * 1000000))
  have hfraction := Double.abs_round_sub_le ((seconds - whole) * 1000000)
  have hsize : |(seconds - whole) * 1000000| ≤ 1000000 := by
    rw [abs_mul, abs_of_pos (by norm_num : (0 : ℚ) < 1000000)]
    linarith
  have htwo : (2 : ℚ) ^ 53 = 9007199254740992 := by norm_num
  rw [htwo, le_div_iff₀ (by norm_num)] at hfraction
  generalize Double.round ((seconds - whole) * 1000000) = fraction at hround hfraction ⊢
  have hclose : |fraction - (seconds - whole) * 1000000| ≤ 1 / 100 := by linarith
  push_cast
  rw [abs_le] at hround hclose ⊢
  constructor <;> linarith

lemma microsOf_neg (seconds : ℚ) : microsOf (-seconds) = -microsOf seconds := by
  unfold microsOf
  dsimp only
  rw [Rat.neg_num, Rat.neg_den, Int.neg_tdiv]
  have hfraction : (-seconds - ((-(seconds.num.tdiv seconds.den) : Int) : ℚ)) * 1000000 =
      -((seconds - (seconds.num.tdiv seconds.den : Int)) * 1000000) := by
    push_cast
    ring
  rw [hfraction, Double.round_neg, roundHalfEven_neg]
  ring

lemma whole_eq_floor {seconds : ℚ} (h : 0 ≤ seconds) :
    seconds.num.tdiv seconds.den = ⌊seconds⌋ := by
  change _ = seconds.floor
  rw [Rat.floor_def, Int.tdiv_eq_ediv_of_nonneg (Rat.num_nonneg.mpr h)]

lemma rounds_whole : roundHalfEven (Double.round 1000000) = 1000000 ∧
    roundHalfEven (Double.round 0) = 0 ∧ microsOf 0 = 0 := by
  decide +kernel

lemma microsOf_mono_of_nonneg {s r : ℚ} (hs : 0 ≤ s) (h : s ≤ r) : microsOf s ≤ microsOf r := by
  have hr : 0 ≤ r := hs.trans h
  have hfloor : ⌊s⌋ ≤ ⌊r⌋ := Int.floor_le_floor h
  have hsfloor := Int.floor_le s
  have hsnext := Int.lt_floor_add_one s
  have hrfloor := Int.floor_le r
  unfold microsOf
  dsimp only
  rw [whole_eq_floor hs, whole_eq_floor hr]
  rcases hfloor.lt_or_eq with hlt | heq
  · -- the fraction is less than a second, rounded or not
    have hupper : roundHalfEven (Double.round ((s - ⌊s⌋) * 1000000)) ≤ 1000000 := by
      have hround : Double.round ((s - ⌊s⌋) * 1000000) ≤ Double.round 1000000 :=
        Double.round_monotone (by linarith)
      rw [← rounds_whole.1]
      exact roundHalfEven_mono hround
    have hlower : 0 ≤ roundHalfEven (Double.round ((r - ⌊r⌋) * 1000000)) := by
      have hround : Double.round 0 ≤ Double.round ((r - ⌊r⌋) * 1000000) :=
        Double.round_monotone (by linarith)
      rw [← rounds_whole.2.1]
      exact roundHalfEven_mono hround
    omega
  · rw [heq]
    have hround : Double.round ((s - ⌊r⌋) * 1000000) ≤ Double.round ((r - ⌊r⌋) * 1000000) :=
      Double.round_monotone (by linarith)
    have hmono := roundHalfEven_mono hround
    omega

theorem microsOf_mono {s r : ℚ} (h : s ≤ r) : microsOf s ≤ microsOf r := by
  have hzero : microsOf 0 = 0 := rounds_whole.2.2
  rcases le_total 0 s with hs | hs
  · exact microsOf_mono_of_nonneg hs h
  · have hneg := microsOf_mono_of_nonneg (le_refl 0) (neg_nonneg.mpr hs)
    rw [hzero, microsOf_neg] at hneg
    rcases le_total 0 r with hr | hr
    · have hpos := microsOf_mono_of_nonneg (le_refl 0) hr
      omega
    · have hflip := microsOf_mono_of_nonneg (neg_nonneg.mpr hr) (neg_le_neg h)
      rw [microsOf_neg, microsOf_neg] at hflip
      omega

def microsOfNanos (ns : Int) : Int := microsOf (Double.round ((ns : ℚ) / 1000000000))

lemma microsOfNanos_mono {ns ns' : Int} (h : ns ≤ ns') : microsOfNanos ns ≤ microsOfNanos ns' := by
  have hcast : (ns : ℚ) ≤ ns' := by exact_mod_cast h
  exact microsOf_mono (Double.round_monotone (div_le_div_of_nonneg_right hcast (by norm_num)))

lemma microsOfNanos_ends : epochMicros + microsOfNanos (-62135596800000003815) < 0 ∧
    0 ≤ epochMicros + microsOfNanos (-62135596800000003814) ∧
    epochMicros + microsOfNanos 253402300799999984741 < daysBeforeYear 10000 * dayMicros ∧
    daysBeforeYear 10000 * dayMicros ≤ epochMicros + microsOfNanos 253402300799999984742 := by
  decide +kernel

lemma abs_round_nanos_lt {ns : Int} (h : InRange ns) :
    |Double.round ((ns : ℚ) / 1000000000)| < 2 ^ 1024 := by
  have hsize : |(ns : ℚ)| ≤ 253402300799999984741 := by
    have habs : |ns| ≤ 253402300799999984741 := by
      rw [abs_le]
      exact ⟨by linarith only [h.1], h.2⟩
    exact_mod_cast habs
  have herror := Double.abs_round_sub_le ((ns : ℚ) / 1000000000)
  have hsub := abs_sub_abs_le_abs_sub (Double.round ((ns : ℚ) / 1000000000))
    ((ns : ℚ) / 1000000000)
  rw [abs_div (ns : ℚ), abs_of_pos (by norm_num : (0 : ℚ) < 1000000000)] at hsub herror
  have hratio : |(ns : ℚ)| / 1000000000 / 2 ^ 53 ≤ |(ns : ℚ)| / 1000000000 :=
    div_le_self (by positivity) (by norm_num)
  have hseconds : |(ns : ℚ)| / 1000000000 ≤ 10 ^ 20 := by
    rw [div_le_iff₀ (by norm_num)]
    linarith
  have hbig : (10 : ℚ) ^ 30 ≤ 2 ^ 1024 := by
    have hpow : (2 : ℚ) ^ 100 ≤ 2 ^ 1024 := pow_le_pow_right₀ (by norm_num) (by norm_num)
    exact le_trans (by norm_num) hpow
  refine lt_of_lt_of_le ?_ hbig
  linarith only [hsub, herror, hratio, hseconds]

lemma ingestDatetime_eq (ns : Int) : ingestDatetime ns =
    if 2 ^ 1024 ≤ |Double.round ((ns : ℚ) / 1000000000)| then .error .range
    else (if 0 ≤ epochMicros + microsOfNanos ns ∧
        epochMicros + microsOfNanos ns < daysBeforeYear 10000 * dayMicros
      then some (epochMicros + microsOfNanos ns) else none).elim (.error .range) .ok := by
  have hmicros : microsOf (Double.round ((ns : ℚ) / 1000000000)) = microsOfNanos ns := rfl
  unfold ingestDatetime fromTimestamp
  dsimp only
  rw [hmicros]
  congr 1
  by_cases hwithin : 0 ≤ epochMicros + microsOfNanos ns ∧
      epochMicros + microsOfNanos ns < daysBeforeYear 10000 * dayMicros
  · rw [if_pos hwithin]
    rfl
  · rw [if_neg hwithin]
    rfl

theorem ingestDatetime_eq_ok_iff {ns micros : Int} : ingestDatetime ns = .ok micros ↔
    InRange ns ∧ micros = epochMicros + microsOfNanos ns := by
  obtain ⟨hbefore, hfirst, hlast, hafter⟩ := microsOfNanos_ends
  have hcheck : InRange ns ↔ 0 ≤ epochMicros + microsOfNanos ns ∧
      epochMicros + microsOfNanos ns < daysBeforeYear 10000 * dayMicros := by
    constructor
    · intro h
      have hlow := microsOfNanos_mono h.1
      have hhigh := microsOfNanos_mono h.2
      omega
    · intro h
      constructor
      · by_contra hlt
        have hlow := microsOfNanos_mono (show ns ≤ -62135596800000003815 by omega)
        omega
      · by_contra hgt
        have hhigh := microsOfNanos_mono (show 253402300799999984742 ≤ ns by omega)
        omega
  rw [ingestDatetime_eq]
  by_cases hrange : InRange ns
  · rw [if_neg (not_le.mpr (abs_round_nanos_lt hrange)), if_pos (hcheck.mp hrange)]
    constructor
    · intro h
      cases h
      exact ⟨hrange, rfl⟩
    · rintro ⟨-, rfl⟩
      rfl
  · rw [if_neg (fun h => hrange (hcheck.mpr h))]
    constructor
    · intro h
      split at h <;> cases h
    · rintro ⟨h, -⟩
      exact absurd h hrange

/-- The last nanosecond that has an instant, and the next one. -/
example : (ingestDatetime 253402300799999984741).isOk = true ∧
    (ingestDatetime 253402300799999984742).isOk = false := by decide +kernel

lemma isSome_candidateIn {parsed : Stamp} {year : Int} :
    (candidateIn parsed year).isSome = true ↔
      1 ≤ year ∧ year ≤ 9999 ∧ parsed.onCalendar (isLeap year) = true := by
  unfold candidateIn datetime
  by_cases hyear : 1 ≤ year ∧ year ≤ 9999
  · rw [if_pos hyear]
    by_cases hcalendar : parsed.onCalendar (isLeap year) = true
    · rw [if_pos hcalendar]
      exact iff_of_true rfl ⟨hyear.1, hyear.2, hcalendar⟩
    · rw [if_neg hcalendar]
      exact iff_of_false Bool.false_ne_true (fun h => hcalendar h.2.2)
  · rw [if_neg hyear]
    exact iff_of_false Bool.false_ne_true (fun h => hyear ⟨h.1, h.2.1⟩)

lemma isSome_deviceDatetimeNear {parsed : Stamp} {reference : Int} :
    (deviceDatetimeNear parsed reference).isSome = true ↔
      ∃ year, |year - yearOfMicros reference| ≤ 1 ∧ 1 ≤ year ∧ year ≤ 9999 ∧
        parsed.onCalendar (isLeap year) = true := by
  unfold deviceDatetimeNear
  rw [Option.isSome_map, isSome_foldl_nearer]
  simp only [Option.isSome_none, Bool.false_eq_true, false_or, isSome_candidateIn]
  apply exists_congr
  intro year
  apply and_congr_left
  intro _
  rw [List.mem_cons, List.mem_cons, List.mem_singleton, abs_le]
  omega

lemma recordOffset_error {record : Dict} (h : ¬ Readable digits record) :
    ∀ answer, recordOffset digits record ≠ .ok answer := by
  intro answer hanswer
  apply h
  unfold recordOffset at hanswer
  cases htimestamp : (record.get? "timestamp").getD (.str "") with
  | str text =>
    refine ⟨text, htimestamp, ?_⟩
    intro hparsed ns hns
    obtain ⟨parsed, hparsed⟩ := Option.isSome_iff_exists.mp hparsed
    rw [htimestamp] at hanswer
    unfold deviceOffsetSeconds at hanswer
    simp only [hparsed, hns] at hanswer
    obtain ⟨micros, hmicros, -⟩ := Validation.bind_eq_ok_iff.mp hanswer
    exact (ingestDatetime_eq_ok_iff.mp hmicros).1
  | none => rw [htimestamp] at hanswer; cases hanswer
  | bool b => rw [htimestamp] at hanswer; cases hanswer
  | int i => rw [htimestamp] at hanswer; cases hanswer
  | float q => rw [htimestamp] at hanswer; cases hanswer
  | list items => rw [htimestamp] at hanswer; cases hanswer
  | dict entries => rw [htimestamp] at hanswer; cases hanswer

lemma recordOffset_ok {record : Dict} (h : Readable digits record) :
    ∃ answer, recordOffset digits record = .ok answer ∧
      (answer.isSome = true ↔ DenoteInstants digits record) := by
  obtain ⟨text, htimestamp, hrange⟩ := h
  have htext : ∀ text', (record.get? "timestamp").getD (.str "") = .str text' → text' = text := by
    intro text' htimestamp'
    rw [htimestamp] at htimestamp'
    injection htimestamp' with heq
    exact heq.symm
  unfold recordOffset
  rw [htimestamp]
  unfold deviceOffsetSeconds
  cases hparsed : parseDeviceTimestamp digits text with
  | none =>
    refine ⟨none, by simp only [hparsed], iff_of_false Bool.false_ne_true ?_⟩
    rintro ⟨text', parsed, ns, micros, year, htimestamp', hparsed', -⟩
    rw [htext text' htimestamp', hparsed] at hparsed'
    cases hparsed'
  | some parsed =>
    cases hns : parseIngestNs digits ((record.get? "ingest_timestamp_ns").getD .none) with
    | none =>
      refine ⟨none, by simp only [hparsed], iff_of_false Bool.false_ne_true ?_⟩
      rintro ⟨text', parsed', ns, micros, year, -, -, hns', -⟩
      rw [hns] at hns'
      cases hns'
    | some ns =>
      have hin := hrange (Option.isSome_iff_exists.mpr ⟨parsed, hparsed⟩) ns hns
      obtain ⟨micros, hmicros⟩ : ∃ micros, ingestDatetime ns = .ok micros :=
        ⟨_, ingestDatetime_eq_ok_iff.mpr ⟨hin, rfl⟩⟩
      refine ⟨_, by simp only [hparsed, hmicros]; rfl, ?_⟩
      rw [Option.isSome_map, isSome_deviceDatetimeNear]
      constructor
      · rintro ⟨year, hyear⟩
        exact ⟨text, parsed, ns, micros, year, htimestamp, hparsed, hns, hmicros, hyear⟩
      · rintro ⟨text', parsed', ns', micros', year, htimestamp', hparsed', hns', hmicros', hyear⟩
        rw [htext text' htimestamp', hparsed, Option.some.injEq] at hparsed'
        rw [hns, Option.some.injEq] at hns'
        rw [← hns', hmicros] at hmicros'
        cases hmicros'
        rw [← hparsed'] at hyear
        exact ⟨year, hyear⟩

open Classical in
noncomputable def countComparable (digits : DigitTable) (records : List Dict) : Nat :=
  records.countP (fun record => decide (DenoteInstants digits record))

/-- An assessment returns, and counts the records that can be compared. -/
def CountsComparable (digits : DigitTable) (parseFloat : String → Option ℚ) (env : Option String)
    (recordsByDevice : List (String × List Dict)) (bound : Option ℚ) : Prop :=
  ∃ finding, assessClockSkew digits parseFloat env recordsByDevice bound = .ok finding ∧
    finding.perDevice.map (fun d => (d.device, d.comparableRecords)) =
      recordsByDevice.map (fun entry => (entry.1, countComparable digits entry.2))

open Classical in
lemma length_reduceOption_answers {records : List Dict} {answers : List (Option ℚ)}
    (h : ∀ record ∈ records, Readable digits record)
    (hanswers : List.Forall₂ (fun record answer => recordOffset digits record = .ok answer)
      records answers) :
    answers.reduceOption.length = countComparable digits records := by
  induction hanswers with
  | nil => rfl
  | @cons record answer records answers hanswer _ ih =>
    obtain ⟨answer', hanswer', hsome⟩ := recordOffset_ok (h record List.mem_cons_self)
    rw [hanswer] at hanswer'
    cases hanswer'
    have hrest := ih (fun record hrecord => h record (List.mem_cons_of_mem _ hrecord))
    unfold countComparable at hrest ⊢
    rw [List.countP_cons, ← hrest]
    cases answer with
    | none =>
      rw [List.reduceOption_cons_of_none, decide_eq_false (fun hd => by cases hsome.mpr hd)]
      rfl
    | some offset =>
      rw [List.reduceOption_cons_of_some, List.length_cons, decide_eq_true (hsome.mp rfl)]
      rfl

lemma summarize_eq_ok {device : String} {records : List Dict} {d : DeviceClockOffset} :
    summarizeDeviceOffsets digits device records = .ok d →
      (∀ record ∈ records, Readable digits record) ∧ d.device = device ∧
        d.comparableRecords = countComparable digits records := by
  intro h
  obtain ⟨answers, hanswers, hd⟩ := Validation.bind_eq_ok_iff.mp h
  have hreadable : ∀ record ∈ records, Readable digits record := by
    intro record hrecord
    obtain ⟨answer, hanswer⟩ := Validation.exists_mapM_eq_ok_iff.mp ⟨answers, hanswers⟩ record
      hrecord
    by_contra hnot
    exact recordOffset_error hnot answer hanswer
  have hlength := length_reduceOption_answers hreadable (Validation.mapM_eq_ok_iff.mp hanswers)
  cases hoffsets : answers.reduceOption with
  | nil =>
    rw [hoffsets] at hd hlength
    cases hd
    exact ⟨hreadable, rfl, hlength⟩
  | cons offset offsets =>
    rw [hoffsets] at hd hlength
    cases hd
    exact ⟨hreadable, rfl, hlength⟩

lemma exists_summarize (device : String) {records : List Dict}
    (h : ∀ record ∈ records, Readable digits record) :
    ∃ d, summarizeDeviceOffsets digits device records = .ok d := by
  obtain ⟨answers, hanswers⟩ := Validation.exists_mapM_eq_ok_iff.mpr (fun record hrecord =>
    ⟨_, (recordOffset_ok (h record hrecord)).choose_spec.1⟩)
  unfold summarizeDeviceOffsets
  rw [hanswers]
  simp only [bind, Except.bind]
  cases answers.reduceOption with
  | nil => exact ⟨_, rfl⟩
  | cons offset offsets => exact ⟨_, rfl⟩

theorem countsComparable_iff (parseFloat : String → Option ℚ) (env : Option String)
    (recordsByDevice : List (String × List Dict)) (bound : Option ℚ) :
    CountsComparable digits parseFloat env recordsByDevice bound ↔
      ∀ entry ∈ recordsByDevice, ∀ record ∈ entry.2, Readable digits record := by
  constructor
  · rintro ⟨finding, hfinding, -⟩ entry hentry
    obtain ⟨perDevice, hper, -⟩ := Validation.bind_eq_ok_iff.mp hfinding
    obtain ⟨d, hd⟩ := Validation.exists_mapM_eq_ok_iff.mp ⟨perDevice, hper⟩ entry hentry
    exact (summarize_eq_ok hd).1
  · intro h
    obtain ⟨perDevice, hper⟩ := Validation.exists_mapM_eq_ok_iff.mpr
      (fun entry hentry => exists_summarize entry.1 (h entry hentry))
    refine ⟨⟨perDevice, (resolveBound parseFloat env bound).1,
      (resolveBound parseFloat env bound).2⟩, ?_, ?_⟩
    · unfold assessClockSkew
      rw [hper]
      rfl
    · have hcounts := Validation.mapM_eq_ok_iff.mp hper
      clear h hper
      induction hcounts with
      | nil => rfl
      | cons hd _ ih =>
        obtain ⟨-, hdevice, hcount⟩ := summarize_eq_ok hd
        exact congrArg₂ List.cons (Prod.ext hdevice hcount) ih

/-! ### The year of a date -/

def nanosAt (year : Int) (t : Stamp) : Int := (t.instant year * 1000 - epochMicros) * 1000

def yearOfNanos (ns : Int) : Int := yearOfMicros (epochMicros + ns / 1000)

/-- Less than 180 days from the true instant the year is found, and the offset is the true one, up
to a microsecond and to the precision of the double that holds the reference. -/
def RecoversYear (digits : DigitTable) : Prop :=
  ∀ (aligned : Bool) (year : Int) (t : Stamp) (value : Value) (ns : Int),
    2 ≤ year → year ≤ 9998 → t.onCalendar (isLeap year) = true →
    parseIngestNs digits value = some ns → 2 ≤ yearOfNanos ns → yearOfNanos ns ≤ 9998 →
    |nanosAt year t - ns| < 180 * 86400 * 1000000000 →
    ∃ offset, deviceOffsetSeconds digits (.str (deviceText aligned t)) value = .ok (some offset) ∧
      |offset - ((nanosAt year t - ns : Int) : ℚ) / 1000000000| ≤
        1 / 1000000 + |(ns : ℚ)| / 1000000000 / 2 ^ 53

lemma le_yearOfMicros_iff {year micros : Int} :
    year ≤ yearOfMicros micros ↔ daysBeforeYear year * dayMicros ≤ micros := by
  unfold yearOfMicros dayMicros
  rw [le_yearOf_iff]
  omega

lemma instant_bounds {year : Int} {t : Stamp} (h : t.onCalendar (isLeap year) = true) :
    daysBeforeYear year * dayMicros ≤ t.instant year * 1000 ∧
      t.instant year * 1000 < daysBeforeYear (year + 1) * dayMicros := by
  have hstart := Stamp.sinceNewYear_nonneg h
  have hend := Stamp.sinceNewYear_lt h
  have hnext := daysBeforeYear_succ year
  unfold Stamp.instant dayMicros
  unfold Calendar.day at hend ⊢
  cases hleap : isLeap year with
  | true =>
    rw [hleap, if_pos rfl] at hend hnext
    rw [hleap] at hstart
    omega
  | false =>
    rw [hleap, if_neg Bool.false_ne_true] at hend hnext
    rw [hleap] at hstart
    omega

section

variable {year : Int} {t : Stamp} {reference : Int} (h : t.onCalendar (isLeap year) = true)
  (hnear : |t.instant year * 1000 - reference| ≤ 181 * dayMicros)

include h hnear

lemma abs_year_sub_le : |year - yearOfMicros reference| ≤ 1 := by
  obtain ⟨hstart, hend⟩ := instant_bounds h
  have hyear := le_yearOfMicros_iff.mp (le_refl (yearOfMicros reference))
  have hnext : reference < daysBeforeYear (yearOfMicros reference + 1) * dayMicros := by
    by_contra hle
    have hle' := le_yearOfMicros_iff.mpr (not_lt.mp hle)
    omega
  rw [abs_le] at hnear ⊢
  unfold dayMicros at *
  constructor
  · by_contra hfar
    have hadd := daysBeforeYear_add_le (show year + 1 < yearOfMicros reference by omega)
    split at hadd <;> omega
  · by_contra hfar
    have hadd := daysBeforeYear_add_le (show yearOfMicros reference + 1 < year by omega)
    split at hadd <;> omega

lemma totalSeconds_lt_of_ne {year' : Int} (h' : t.onCalendar (isLeap year') = true)
    (hne : year' ≠ year) : |totalSeconds (t.instant year * 1000 - reference)| <
      |totalSeconds (t.instant year' * 1000 - reference)| := by
  have hfar : 184 * dayMicros ≤ |t.instant year' * 1000 - reference| := by
    rw [abs_le] at hnear
    rw [le_abs']
    unfold dayMicros at *
    rcases lt_or_gt_of_ne hne with hlt | hgt
    · have hsub := Stamp.year_le_instant_sub h' hlt
      unfold Calendar.day at hsub
      omega
    · have hsub := Stamp.year_le_instant_sub h hgt
      unfold Calendar.day at hsub
      omega
  -- the rounding is far smaller than the days between the two
  have herror := Double.abs_round_sub_le (((t.instant year * 1000 - reference : Int) : ℚ) / 1000000)
  have herror' :=
    Double.abs_round_sub_le (((t.instant year' * 1000 - reference : Int) : ℚ) / 1000000)
  have hsize : |((t.instant year * 1000 - reference : Int) : ℚ) / 1000000| ≤ 181 * 86400 := by
    rw [abs_div, abs_of_pos (by norm_num : (0 : ℚ) < 1000000), div_le_iff₀ (by norm_num),
      ← Int.cast_abs]
    unfold dayMicros at hnear
    exact_mod_cast hnear.trans (by norm_num)
  have hsize' : 184 * 86400 ≤ |((t.instant year' * 1000 - reference : Int) : ℚ) / 1000000| := by
    rw [abs_div, abs_of_pos (by norm_num : (0 : ℚ) < 1000000), le_div_iff₀ (by norm_num),
      ← Int.cast_abs]
    unfold dayMicros at hfar
    have hcast : ((184 * 86400000000 : Int) : ℚ) ≤
        ((|t.instant year' * 1000 - reference| : Int) : ℚ) := by exact_mod_cast hfar
    refine le_trans (le_of_eq ?_) hcast
    norm_num
  have hupper := abs_sub_abs_le_abs_sub (totalSeconds (t.instant year * 1000 - reference))
    (((t.instant year * 1000 - reference : Int) : ℚ) / 1000000)
  have hlower := abs_sub_abs_le_abs_sub (((t.instant year' * 1000 - reference : Int) : ℚ) / 1000000)
    (totalSeconds (t.instant year' * 1000 - reference))
  rw [abs_sub_comm (((t.instant year' * 1000 - reference : Int) : ℚ) / 1000000)] at hlower
  unfold totalSeconds at hupper hlower ⊢
  have htwo : (2 : ℚ) ^ 53 = 9007199254740992 := by norm_num
  rw [htwo] at herror herror'
  have hfirst := hupper.trans herror
  have hsecond := hlower.trans herror'
  rw [le_div_iff₀ (by norm_num)] at hfirst hsecond
  nlinarith

lemma deviceDatetimeNear_eq (hyear : 1 ≤ year) (hyear' : year ≤ 9999) :
    deviceDatetimeNear t reference = some (t.instant year * 1000) := by
  have hcandidate : ∀ {year' c : Int}, candidateIn t year' = some c →
      t.onCalendar (isLeap year') = true ∧ c = t.instant year' * 1000 := by
    intro year' c hc
    unfold candidateIn datetime at hc
    split at hc
    · split at hc
      · cases hc
        exact ⟨‹_›, rfl⟩
      · cases hc
    · cases hc
  have htrue : candidateIn t year = some (t.instant year * 1000) := by
    unfold candidateIn datetime
    rw [if_pos ⟨hyear, hyear'⟩, if_pos h]
    rfl
  have hmem : year ∈ [yearOfMicros reference - 1, yearOfMicros reference,
      yearOfMicros reference + 1] := by
    have hclose := abs_le.mp (abs_year_sub_le h hnear)
    rw [List.mem_cons, List.mem_cons, List.mem_singleton]
    omega
  unfold deviceDatetimeNear
  dsimp only
  rw [foldl_nearer_eq htrue]
  · rfl
  · intro year' _ c hc
    obtain ⟨hvalid, rfl⟩ := hcandidate hc
    by_cases hne : year' = year
    · exact .inl hne
    · exact .inr (totalSeconds_lt_of_ne h hnear hvalid hne)
  · exact .inr ⟨hmem, fun entry hentry => by cases hentry⟩

end

/-- A record of the last of December that is read in the next year. -/
example : (deviceDatetimeNear ⟨12, 31, 23, 59, 59, 0⟩
    (Stamp.instant 2026 ⟨1, 1, 0, 0, 1, 0⟩ * 1000)).map yearOfMicros = some 2025 := by
  decide +kernel

lemma nanos_bounds {ns : Int} (h : 2 ≤ yearOfNanos ns) (h' : yearOfNanos ns ≤ 9998) :
    daysBeforeYear 2 * dayMicros ≤ epochMicros + ns / 1000 ∧
      epochMicros + ns / 1000 < daysBeforeYear 9999 * dayMicros := by
  refine ⟨le_yearOfMicros_iff.mp h, ?_⟩
  by_contra hfar
  have hle := le_yearOfMicros_iff.mpr (not_lt.mp hfar)
  unfold yearOfNanos at h'
  omega

lemma abs_microsOfNanos_sub_le (ns : Int) :
    |(microsOfNanos ns : ℚ) - (ns : ℚ) / 1000| ≤ 51 / 100 + |(ns : ℚ)| / 1000 / 2 ^ 53 := by
  have hmicros := abs_microsOf_sub_le (Double.round ((ns : ℚ) / 1000000000))
  have herror := Double.abs_round_sub_le ((ns : ℚ) / 1000000000)
  rw [abs_div, abs_of_pos (by norm_num : (0 : ℚ) < 1000000000)] at herror
  have hscaled : |Double.round ((ns : ℚ) / 1000000000) * 1000000 - (ns : ℚ) / 1000| ≤
      |(ns : ℚ)| / 1000 / 2 ^ 53 := by
    have hfactor : Double.round ((ns : ℚ) / 1000000000) * 1000000 - (ns : ℚ) / 1000 =
        (Double.round ((ns : ℚ) / 1000000000) - (ns : ℚ) / 1000000000) * 1000000 := by ring
    rw [hfactor, abs_mul, abs_of_pos (by norm_num : (0 : ℚ) < 1000000)]
    calc |Double.round ((ns : ℚ) / 1000000000) - (ns : ℚ) / 1000000000| * 1000000
        ≤ |(ns : ℚ)| / 1000000000 / 2 ^ 53 * 1000000 :=
          mul_le_mul_of_nonneg_right herror (by norm_num)
      _ = |(ns : ℚ)| / 1000 / 2 ^ 53 := by ring
  have htriangle := abs_sub_le (microsOfNanos ns : ℚ)
    (Double.round ((ns : ℚ) / 1000000000) * 1000000) ((ns : ℚ) / 1000)
  unfold microsOfNanos at htriangle ⊢
  linarith

lemma exists_ingestDatetime {ns : Int} (h : 2 ≤ yearOfNanos ns) (h' : yearOfNanos ns ≤ 9998) :
    ∃ micros, ingestDatetime ns = .ok micros ∧
      |(micros : ℚ) - epochMicros - (ns : ℚ) / 1000| ≤ 51 / 100 + |(ns : ℚ)| / 1000 / 2 ^ 53 ∧
      |(micros : ℚ) - epochMicros - (ns : ℚ) / 1000| ≤ 31 := by
  obtain ⟨hstart, hend⟩ := nanos_bounds h h'
  have hnumbers : daysBeforeYear 2 * dayMicros = 31536000000000 ∧
      daysBeforeYear 9999 * dayMicros = 315506361600000000 ∧
      epochMicros = 62135596800000000 := by decide
  obtain ⟨hfirst, hlast, hepoch⟩ := hnumbers
  rw [hfirst, hepoch] at hstart
  rw [hlast, hepoch] at hend
  have hrange : InRange ns := by
    unfold InRange
    omega
  have hsize : |(ns : ℚ)| ≤ 253400000000000000000 := by
    have habs : |ns| ≤ 253400000000000000000 := by
      rw [abs_le]
      omega
    exact_mod_cast habs
  have hclose := abs_microsOfNanos_sub_le ns
  have hcoarse : |(microsOfNanos ns : ℚ) - (ns : ℚ) / 1000| ≤ 31 := by
    have htwo : (2 : ℚ) ^ 53 = 9007199254740992 := by norm_num
    have hdouble : |(ns : ℚ)| / 1000 / 2 ^ 53 ≤ 30 := by
      rw [htwo, div_div, div_le_iff₀ (by norm_num)]
      linarith
    linarith
  refine ⟨_, ingestDatetime_eq_ok_iff.mpr ⟨hrange, rfl⟩, ?_, ?_⟩
  · push_cast
    rw [add_sub_cancel_left]
    exact hclose
  · push_cast
    rw [add_sub_cancel_left]
    exact hcoarse

theorem recoversYear (hascii : digits.ReadsAscii) : RecoversYear digits := by
  intro aligned year t value ns hyear hyear' ht hvalue hns hns' hnear
  obtain ⟨micros, hmicros, hclose, hcoarse⟩ := exists_ingestDatetime hns hns'
  -- the date is near the reference as it is near the true instant
  have hdistance : |t.instant year * 1000 - micros| ≤ 181 * dayMicros := by
    have hnear' : |((nanosAt year t - ns : Int) : ℚ)| ≤ 180 * 86400 * 1000000000 := by
      exact_mod_cast hnear.le
    unfold nanosAt at hnear'
    push_cast at hnear'
    have hday : (181 * dayMicros : ℚ) = 181 * 86400000000 := by
      unfold dayMicros
      norm_num
    have hcast : |((t.instant year : ℚ) * 1000 - micros)| ≤ 181 * dayMicros := by
      rw [hday]
      rw [abs_le] at hnear' hcoarse ⊢
      constructor <;> linarith
    exact_mod_cast hcast
  have hdevice := deviceDatetimeNear_eq ht hdistance (by omega) (by omega)
  refine ⟨totalSeconds (t.instant year * 1000 - micros), ?_, ?_⟩
  · unfold deviceOffsetSeconds
    simp only [parseDeviceTimestamp_deviceText hascii aligned ht, hvalue, hmicros]
    change Except.ok ((deviceDatetimeNear t micros).map _) = _
    rw [hdevice]
    rfl
  · have herror := Double.abs_round_sub_le
      (((t.instant year * 1000 - micros : Int) : ℚ) / 1000000)
    have hsize : |((t.instant year * 1000 - micros : Int) : ℚ) / 1000000| ≤ 181 * 86400 := by
      rw [abs_div, abs_of_pos (by norm_num : (0 : ℚ) < 1000000), div_le_iff₀ (by norm_num),
        ← Int.cast_abs]
      unfold dayMicros at hdistance
      exact_mod_cast hdistance.trans (by norm_num)
    have hrounded : |totalSeconds (t.instant year * 1000 - micros) -
        ((t.instant year * 1000 - micros : Int) : ℚ) / 1000000| ≤ 1 / 100000000 := by
      have htwo : (2 : ℚ) ^ 53 = 9007199254740992 := by norm_num
      rw [htwo, le_div_iff₀ (by norm_num)] at herror
      unfold totalSeconds
      linarith
    have hexact : |((t.instant year * 1000 - micros : Int) : ℚ) / 1000000 -
        ((nanosAt year t - ns : Int) : ℚ) / 1000000000| ≤
          51 / 100000000 + |(ns : ℚ)| / 1000000000 / 2 ^ 53 := by
      have hsub : ((t.instant year * 1000 - micros : Int) : ℚ) / 1000000 -
          ((nanosAt year t - ns : Int) : ℚ) / 1000000000 =
            -((micros : ℚ) - epochMicros - (ns : ℚ) / 1000) / 1000000 := by
        unfold nanosAt
        push_cast
        ring
      rw [hsub, abs_div, abs_neg, abs_of_pos (by norm_num : (0 : ℚ) < 1000000),
        div_le_iff₀ (by norm_num)]
      refine hclose.trans (le_of_eq ?_)
      ring
    have htriangle := abs_sub_le (totalSeconds (t.instant year * 1000 - micros))
      (((t.instant year * 1000 - micros : Int) : ℚ) / 1000000)
      (((nanosAt year t - ns : Int) : ℚ) / 1000000000)
    linarith

/-- The year of a date is always found; an assessment returns, and counts the comparable records,
exactly when every record can be read. -/
theorem clockSkew_iff (hascii : digits.ReadsAscii) :
    RecoversYear digits ∧
      ∀ (parseFloat : String → Option ℚ) (env : Option String)
        (recordsByDevice : List (String × List Dict)) (bound : Option ℚ),
        CountsComparable digits parseFloat env recordsByDevice bound ↔
          ∀ entry ∈ recordsByDevice, ∀ record ∈ entry.2, Readable digits record :=
  ⟨recoversYear hascii, countsComparable_iff⟩

/-- A record whose nanoseconds are far outside of the years of a `datetime`. -/
def farRecord : Dict :=
  [("timestamp", .str "Aug 16 07:41:54.688 UTC"),
    ("ingest_timestamp_ns", .str "1000000000000000000000000000000")]

theorem clockSkew_iff_farRecord :
    RecoversYear DigitTable.ascii ∧
      ∀ (parseFloat : String → Option ℚ) (env : Option String)
        (recordsByDevice : List (String × List Dict)) (bound : Option ℚ),
        CountsComparable DigitTable.ascii parseFloat env recordsByDevice bound ↔
          ∀ entry ∈ recordsByDevice, ∀ record ∈ entry.2, Readable DigitTable.ascii record :=
  clockSkew_iff readsAscii_ascii

theorem not_countsComparable_farRecord :
    ¬ CountsComparable DigitTable.ascii (fun _ => none) none [("PE1", [farRecord])] none := by
  rintro ⟨finding, hfinding, -⟩
  have hraises : (assessClockSkew DigitTable.ascii (fun _ => none) none
      [("PE1", [farRecord])] none).isOk = false := by decide +kernel
  rw [hfinding] at hraises
  cases hraises

end ClockSkew

end NetTools
