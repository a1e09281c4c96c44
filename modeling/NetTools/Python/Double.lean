import Mathlib.Data.Int.Log
import NetTools.Python.Datetime

/-!
# Doubles

A `float` holds 53 significant bits, and an operation returns the double closest to its exact
result, the even one of two. The bounds of the exponent are left out: what is computed here is
neither tiny nor huge.
-/

namespace NetTools

/-! ### Rounding to an integer -/

lemma roundHalfEven_bounds (q : ℚ) :
    (⌊q⌋ : ℚ) ≤ roundHalfEven q ∧ (roundHalfEven q : ℚ) ≤ ⌊q⌋ + 1 := by
  unfold roundHalfEven
  dsimp only
  split
  · exact ⟨le_refl _, by linarith⟩
  · split
    · push_cast
      exact ⟨by linarith, le_refl _⟩
    · split
      · exact ⟨le_refl _, by linarith⟩
      · push_cast
        exact ⟨by linarith, le_refl _⟩

lemma abs_roundHalfEven_sub_le (q : ℚ) : |(roundHalfEven q : ℚ) - q| ≤ 1 / 2 := by
  have hfloor := Int.floor_le q
  have hlt := Int.lt_floor_add_one q
  unfold roundHalfEven
  dsimp only
  rw [abs_le]
  split
  · rename_i hlow
    constructor <;> linarith
  · split
    · rename_i hhigh
      push_cast
      constructor <;> linarith
    · split
      · constructor <;> linarith
      · push_cast
        constructor <;> linarith

@[simp] lemma roundHalfEven_intCast (n : Int) : roundHalfEven (n : ℚ) = n := by
  unfold roundHalfEven
  simp

theorem roundHalfEven_mono {q r : ℚ} (h : q ≤ r) : roundHalfEven q ≤ roundHalfEven r := by
  have hfloor : ⌊q⌋ ≤ ⌊r⌋ := Int.floor_le_floor h
  rcases hfloor.lt_or_eq with hlt | heq
  · -- between the two lies an integer
    have hq := (roundHalfEven_bounds q).2
    have hr := (roundHalfEven_bounds r).1
    have hstep : (⌊q⌋ : ℚ) + 1 ≤ ⌊r⌋ := by exact_mod_cast hlt
    exact_mod_cast (hq.trans hstep).trans hr
  · unfold roundHalfEven
    dsimp only
    rw [heq]
    split
    · split
      · exact le_refl _
      · split
        · omega
        · split <;> omega
    · rename_i hq
      have hr : ¬ r - ⌊r⌋ < 1 / 2 := by linarith
      rw [if_neg hr]
      split
      · rename_i hhigh
        have hr' : 1 / 2 < r - ⌊r⌋ := by linarith
        rw [if_pos hr']
      · split
        · split
          · omega
          · exact le_refl _
        · split <;> exact le_refl _

lemma roundHalfEven_neg (q : ℚ) : roundHalfEven (-q) = -roundHalfEven q := by
  by_cases hint : q = ⌊q⌋
  · have hneg : -q = ((-⌊q⌋ : Int) : ℚ) := by
      rw [Int.cast_neg, ← hint]
    rw [hneg, roundHalfEven_intCast]
    conv_rhs => rw [hint, roundHalfEven_intCast]
  · have hlt := Int.lt_floor_add_one q
    have hle : (⌊q⌋ : ℚ) < q := lt_of_le_of_ne (Int.floor_le q) (Ne.symm hint)
    have hfloor : ⌊-q⌋ = -⌊q⌋ - 1 := by
      rw [Int.floor_eq_iff]
      push_cast
      constructor <;> linarith
    unfold roundHalfEven
    dsimp only
    rw [hfloor]
    push_cast
    rcases lt_trichotomy (q - ⌊q⌋) (1 / 2) with hlow | hhalf | hhigh
    · rw [if_pos hlow, if_neg (by linarith), if_pos (by linarith)]
      omega
    · have hhalf' : -q - (-(⌊q⌋ : ℚ) - 1) = 1 / 2 := by linarith
      rw [hhalf, hhalf']
      simp only [lt_irrefl, if_false]
      split <;> split <;> omega
    · rw [if_neg (not_lt.mpr hhigh.le), if_pos hhigh, if_pos (by linarith)]
      omega

/-- A Python `float`. -/
inductive PyFloat where
  | finite (q : ℚ)
  | inf (negative : Bool)
  | nan
  deriving DecidableEq

def PyFloat.IsFinite (x : PyFloat) : Prop := ∃ q, x = .finite q

namespace Double

def ulp (q : ℚ) : ℚ := 2 ^ (Int.log 2 |q| - 52)

def round (q : ℚ) : ℚ := roundHalfEven (q / ulp q) * ulp q

/-- `a - b` of two doubles. -/
def sub (a b : ℚ) : ℚ := round (a - b)

/-- `a + b` of two doubles. -/
def add (a b : ℚ) : ℚ := round (a + b)

/-- `a / b` of two doubles. -/
def div (a b : ℚ) : ℚ := round (a / b)

lemma ulp_pos (q : ℚ) : 0 < ulp q := zpow_pos (by norm_num) _

@[simp] lemma round_zero : round 0 = 0 := by
  have hzero : roundHalfEven 0 = 0 := roundHalfEven_intCast 0
  rw [round, zero_div, hzero, Int.cast_zero, zero_mul]

variable {q r : ℚ}

lemma round_nonneg (h : 0 ≤ q) : 0 ≤ round q := by
  have hquot : ((0 : Int) : ℚ) ≤ q / ulp q := by
    rw [Int.cast_zero]
    exact div_nonneg h (ulp_pos q).le
  have hround := roundHalfEven_mono hquot
  rw [roundHalfEven_intCast] at hround
  exact mul_nonneg (by exact_mod_cast hround) (ulp_pos q).le

lemma round_nonpos (h : q ≤ 0) : round q ≤ 0 := by
  have hquot : q / ulp q ≤ ((0 : Int) : ℚ) := by
    rw [Int.cast_zero]
    exact div_nonpos_of_nonpos_of_nonneg h (ulp_pos q).le
  have hround := roundHalfEven_mono hquot
  rw [roundHalfEven_intCast] at hround
  exact mul_nonpos_of_nonpos_of_nonneg (by exact_mod_cast hround) (ulp_pos q).le

lemma zpow_log_le_round (h : 0 < q) : (2 : ℚ) ^ Int.log 2 q ≤ round q := by
  have hlog : (2 : ℚ) ^ Int.log 2 q ≤ q := by
    exact_mod_cast Int.zpow_log_le_self (by norm_num : 1 < 2) h
  have hulp : ((2 ^ 52 : Int) : ℚ) * ulp q = (2 : ℚ) ^ Int.log 2 q := by
    rw [ulp, abs_of_pos h, zpow_sub₀ (by norm_num)]
    push_cast
    field_simp
  have hquot : ((2 ^ 52 : Int) : ℚ) ≤ q / ulp q := by
    rw [le_div_iff₀ (ulp_pos q), hulp]
    exact hlog
  have hround := roundHalfEven_mono hquot
  rw [roundHalfEven_intCast] at hround
  rw [← hulp]
  exact mul_le_mul_of_nonneg_right (by exact_mod_cast hround) (ulp_pos q).le

lemma round_le_zpow_log (h : 0 < q) : round q ≤ (2 : ℚ) ^ (Int.log 2 q + 1) := by
  have hlog : q < (2 : ℚ) ^ (Int.log 2 q + 1) := by
    exact_mod_cast Int.lt_zpow_succ_log_self (by norm_num : 1 < 2) q
  have hulp : ((2 ^ 53 : Int) : ℚ) * ulp q = (2 : ℚ) ^ (Int.log 2 q + 1) := by
    rw [ulp, abs_of_pos h, zpow_sub₀ (by norm_num), zpow_add₀ (by norm_num)]
    push_cast
    field_simp
    norm_num
  have hquot : q / ulp q ≤ ((2 ^ 53 : Int) : ℚ) := by
    rw [div_le_iff₀ (ulp_pos q), hulp]
    exact hlog.le
  have hround := roundHalfEven_mono hquot
  rw [roundHalfEven_intCast] at hround
  rw [← hulp]
  exact mul_le_mul_of_nonneg_right (by exact_mod_cast hround) (ulp_pos q).le

theorem round_mono (hq : 0 ≤ q) (h : q ≤ r) : round q ≤ round r := by
  rcases hq.lt_or_eq with hpos | hzero
  · have hr : 0 < r := hpos.trans_le h
    have hlog : Int.log 2 q ≤ Int.log 2 r := Int.log_mono_right hpos h
    rcases hlog.lt_or_eq with hlt | heq
    · have hpow : (2 : ℚ) ^ (Int.log 2 q + 1) ≤ 2 ^ Int.log 2 r :=
        zpow_le_zpow_right₀ (by norm_num) hlt
      exact (round_le_zpow_log hpos).trans (hpow.trans (zpow_log_le_round hr))
    · have hulp : ulp q = ulp r := by
        unfold ulp
        rw [abs_of_pos hpos, abs_of_pos hr, heq]
      have hquot : q / ulp r ≤ r / ulp r := div_le_div_of_nonneg_right h (ulp_pos r).le
      unfold round
      rw [hulp]
      exact mul_le_mul_of_nonneg_right (by exact_mod_cast roundHalfEven_mono hquot) (ulp_pos r).le
  · rw [← hzero, round_zero]
    exact round_nonneg (hzero.le.trans h)

lemma round_neg (q : ℚ) : round (-q) = -round q := by
  have hulp : ulp (-q) = ulp q := by
    unfold ulp
    rw [abs_neg]
  unfold round
  rw [hulp, neg_div, roundHalfEven_neg, Int.cast_neg, neg_mul]

theorem round_monotone (h : q ≤ r) : round q ≤ round r := by
  rcases le_total 0 q with hq | hq
  · exact round_mono hq h
  · rcases le_total 0 r with hr | hr
    · exact (round_nonpos hq).trans (round_nonneg hr)
    · have hneg := round_mono (neg_nonneg.mpr hr) (neg_le_neg h)
      rw [round_neg, round_neg] at hneg
      linarith

theorem abs_round_sub_le (q : ℚ) : |round q - q| ≤ |q| / 2 ^ 53 := by
  rcases (abs_nonneg q).lt_or_eq with hpos | hzero
  · have hulp := ulp_pos q
    have herror := abs_roundHalfEven_sub_le (q / ulp q)
    have hsub : round q - q = (roundHalfEven (q / ulp q) - q / ulp q) * ulp q := by
      rw [sub_mul, div_mul_cancel₀ _ hulp.ne', round]
    have hlog : (2 : ℚ) ^ Int.log 2 |q| ≤ |q| := by
      exact_mod_cast Int.zpow_log_le_self (by norm_num : 1 < 2) hpos
    have hbound : ulp q ≤ |q| / 2 ^ 52 := by
      rw [ulp, zpow_sub₀ (by norm_num)]
      exact div_le_div_of_nonneg_right hlog (by norm_num)
    rw [hsub, abs_mul, abs_of_pos hulp]
    calc |(roundHalfEven (q / ulp q) : ℚ) - q / ulp q| * ulp q
        ≤ 1 / 2 * (|q| / 2 ^ 52) := mul_le_mul herror hbound hulp.le (by norm_num)
      _ = |q| / 2 ^ 53 := by ring
  · have hq : q = 0 := abs_eq_zero.mp hzero.symm
    rw [hq, round_zero, sub_zero, abs_zero, zero_div]

end Double

end NetTools
