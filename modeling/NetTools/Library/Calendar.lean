import Mathlib.Data.Prod.Lex
import Mathlib.Tactic.IntervalCases

/-!
# Dates without a year

A date and a time of day become an instant in a year of the Gregorian calendar. Within a year
instants are ordered as the dates are written; over the years they are not.
-/

namespace Calendar

def day : Int := 86400000

def halfYear : Int := 15768000000

def isLeap (year : Int) : Bool :=
  year % 4 == 0 && (year % 100 != 0 || year % 400 == 0)

def daysInMonth (leap : Bool) (month : Nat) : Nat :=
  if month = 2 then (if leap then 29 else 28)
  else if month = 4 ∨ month = 6 ∨ month = 9 ∨ month = 11 then 30
  else 31

def daysBeforeMonth (leap : Bool) : Nat → Nat
  | 0 => 0
  | 1 => 0
  | month + 2 => daysBeforeMonth leap (month + 1) + daysInMonth leap (month + 1)

def daysBeforeYear (year : Int) : Int :=
  (year - 1) * 365 + (year - 1) / 4 - (year - 1) / 100 + (year - 1) / 400

/-- The year of a day, counted from the first of January of the year 1: whole centuries and leap
cycles are taken off, and the last day of a cycle belongs to the year before the next one. -/
def yearOf (days : Int) : Int :=
  let cycle := days % 146097
  let century := cycle / 36524
  let rest := cycle % 36524
  let quarter := rest / 1461
  let single := rest % 1461 / 365
  days / 146097 * 400 + century * 100 + quarter * 4 + single +
    (if century = 4 ∨ single = 4 then 0 else 1)

structure Stamp where
  month : Nat
  day : Nat
  hour : Nat
  minute : Nat
  second : Nat
  milli : Nat
deriving DecidableEq, Repr

namespace Stamp

def key (t : Stamp) : Nat ×ₗ Nat ×ₗ Nat ×ₗ Nat ×ₗ Nat ×ₗ Nat :=
  toLex (t.month, toLex (t.day, toLex (t.hour, toLex (t.minute, toLex (t.second, t.milli)))))

def onCalendar (leap : Bool) (t : Stamp) : Bool :=
  1 ≤ t.month && t.month ≤ 12 && 1 ≤ t.day && t.day ≤ daysInMonth leap t.month &&
    t.hour < 24 && t.minute < 60 && t.second < 60 && t.milli < 1000

def clock (t : Stamp) : Int :=
  ((t.hour * 60 + t.minute) * 60 + t.second) * 1000 + t.milli

def sinceNewYear (leap : Bool) (t : Stamp) : Int :=
  (daysBeforeMonth leap t.month + t.day - 1) * Calendar.day + t.clock

def instant (year : Int) (t : Stamp) : Int :=
  daysBeforeYear year * Calendar.day + t.sinceNewYear (isLeap year)

end Stamp

lemma daysBeforeMonth_add_le (leap : Bool) {m m' : Nat} (hm : 1 ≤ m) (h : m < m') :
    daysBeforeMonth leap m + daysInMonth leap m ≤ daysBeforeMonth leap m' := by
  obtain ⟨m, rfl⟩ : ∃ n, m = n + 1 := ⟨m - 1, by omega⟩
  induction m', h using Nat.le_induction with
  | base => exact le_refl _
  | succ m' hle ih =>
    obtain ⟨m', rfl⟩ : ∃ n, m' = n + 1 := ⟨m' - 1, by omega⟩
    exact ih.trans (Nat.le_add_right _ _)

lemma daysBeforeMonth_leap {m : Nat} (hm : m ≤ 12) :
    daysBeforeMonth true m = daysBeforeMonth false m + (if 2 < m then 1 else 0) := by
  interval_cases m <;> rfl

lemma daysInMonth_le_of_leap (m : Nat) : daysInMonth false m ≤ daysInMonth true m := by
  unfold daysInMonth
  split
  · decide
  · exact le_refl _

lemma daysBeforeMonth_thirteen (leap : Bool) :
    daysBeforeMonth leap 13 = 365 + (if leap then 1 else 0) := by
  cases leap <;> rfl

namespace Stamp

variable {leap : Bool} {a b t : Stamp}

lemma onCalendar_iff : t.onCalendar leap = true ↔
    1 ≤ t.month ∧ t.month ≤ 12 ∧ 1 ≤ t.day ∧ t.day ≤ daysInMonth leap t.month ∧
      t.hour < 24 ∧ t.minute < 60 ∧ t.second < 60 ∧ t.milli < 1000 := by
  simp only [onCalendar, Bool.and_eq_true, decide_eq_true_eq, and_assoc]

lemma onCalendar_true (h : t.onCalendar leap = true) : t.onCalendar true = true := by
  cases leap
  · rw [onCalendar_iff] at h ⊢
    have hdays := daysInMonth_le_of_leap t.month
    exact ⟨h.1, h.2.1, h.2.2.1, h.2.2.2.1.trans hdays, h.2.2.2.2⟩
  · exact h

lemma clock_nonneg (t : Stamp) : 0 ≤ t.clock := by
  unfold clock
  omega

lemma clock_lt (h : t.onCalendar leap = true) : t.clock < Calendar.day := by
  obtain ⟨-, -, -, -, hhour, hminute, hsecond, hmilli⟩ := onCalendar_iff.mp h
  unfold clock Calendar.day
  omega

lemma key_lt_iff : a.key < b.key ↔ a.month < b.month ∨ a.month = b.month ∧ (a.day < b.day ∨
    a.day = b.day ∧ (a.hour < b.hour ∨ a.hour = b.hour ∧ (a.minute < b.minute ∨
      a.minute = b.minute ∧ (a.second < b.second ∨ a.second = b.second ∧ a.milli < b.milli)))) := by
  simp only [key, Prod.Lex.lt_iff, ofLex_toLex]

lemma key_injective : Function.Injective key := by
  intro a b h
  have ha := lt_irrefl a.key
  have hb : ¬ b.key < a.key := h ▸ ha
  have hab : ¬ a.key < b.key := h ▸ ha
  rw [key_lt_iff] at hab hb
  have hfields : a.month = b.month ∧ a.day = b.day ∧ a.hour = b.hour ∧ a.minute = b.minute ∧
      a.second = b.second ∧ a.milli = b.milli := by omega
  obtain ⟨hmonth, hday, hhour, hminute, hsecond, hmilli⟩ := hfields
  cases a
  cases b
  simp_all only

lemma sinceNewYear_nonneg (h : t.onCalendar leap = true) : 0 ≤ t.sinceNewYear leap := by
  obtain ⟨-, -, hday, -⟩ := onCalendar_iff.mp h
  have hclock := clock_nonneg t
  unfold sinceNewYear Calendar.day
  omega

lemma sinceNewYear_lt (h : t.onCalendar leap = true) :
    t.sinceNewYear leap < (365 + (if leap then 1 else 0)) * Calendar.day := by
  obtain ⟨hmonth, hmonth', -, hday', -⟩ := onCalendar_iff.mp h
  have hclock := clock_lt h
  have hbefore := daysBeforeMonth_add_le leap hmonth (show t.month < 13 by omega)
  rw [daysBeforeMonth_thirteen] at hbefore
  unfold sinceNewYear
  unfold Calendar.day at hclock ⊢
  cases leap
  · simp only [Bool.false_eq_true, if_false] at hbefore ⊢
    omega
  · simp only [if_true] at hbefore ⊢
    omega

theorem sinceNewYear_lt_of_key_lt (ha : a.onCalendar leap = true) (hb : b.onCalendar leap = true)
    (h : a.key < b.key) : a.sinceNewYear leap < b.sinceNewYear leap := by
  obtain ⟨hmonth, -, -, hday', -⟩ := onCalendar_iff.mp ha
  obtain ⟨-, -, hday, -⟩ := onCalendar_iff.mp hb
  have hclock := clock_lt ha
  have hclock' := clock_nonneg b
  rw [key_lt_iff] at h
  unfold sinceNewYear
  unfold Calendar.day at hclock ⊢
  rcases h with hlater | ⟨hsame, hlater | ⟨hsame', htime⟩⟩
  · have hbefore := daysBeforeMonth_add_le leap hmonth hlater
    omega
  · rw [hsame]
    omega
  · rw [hsame, hsame']
    obtain ⟨-, -, -, -, hhour, hminute, hsecond, hmilli⟩ := onCalendar_iff.mp ha
    obtain ⟨-, -, -, -, hhour', hminute', hsecond', hmilli'⟩ := onCalendar_iff.mp hb
    unfold clock
    omega

theorem sinceNewYear_le_iff (ha : a.onCalendar leap = true) (hb : b.onCalendar leap = true) :
    a.sinceNewYear leap ≤ b.sinceNewYear leap ↔ a.key ≤ b.key := by
  constructor
  · intro hle
    by_contra hkey
    have hlt := sinceNewYear_lt_of_key_lt hb ha (not_le.mp hkey)
    omega
  · intro hkey
    rcases hkey.lt_or_eq with hlt | heq
    · exact (sinceNewYear_lt_of_key_lt ha hb hlt).le
    · rw [key_injective heq]

lemma sinceNewYear_leap (h : t.onCalendar leap = true) : t.sinceNewYear true =
    t.sinceNewYear false + (if 2 < t.month then Calendar.day else 0) := by
  have hbefore := daysBeforeMonth_leap (onCalendar_iff.mp h).2.1
  unfold sinceNewYear
  rw [hbefore]
  unfold Calendar.day
  split <;> omega

end Stamp

lemma daysBeforeYear_succ (year : Int) :
    daysBeforeYear (year + 1) = daysBeforeYear year + 365 + (if isLeap year then 1 else 0) := by
  unfold daysBeforeYear isLeap
  simp only [Bool.and_eq_true, Bool.or_eq_true, beq_iff_eq, bne_iff_ne]
  split
  · omega
  · omega

lemma daysBeforeYear_add_le {year year' : Int} (h : year < year') :
    daysBeforeYear year + 365 + (if isLeap year then 1 else 0) ≤ daysBeforeYear year' := by
  induction year', (show year + 1 ≤ year' from h) using Int.leInduction with
  | base => exact (daysBeforeYear_succ year).ge
  | succ year' hle ih =>
    have hstep := daysBeforeYear_succ year'
    have hrest := ih hle
    split at hstep <;> omega

lemma daysBeforeYear_cycles {a c q s : Int} (hc : 0 ≤ c) (hc' : c ≤ 3) (hq : 0 ≤ q) (hq' : q ≤ 24)
    (hs : 0 ≤ s) (hs' : s ≤ 3) : daysBeforeYear (400 * a + 100 * c + 4 * q + s + 1) =
      146097 * a + 36524 * c + 1461 * q + 365 * s := by
  have hquarters : (400 * a + 100 * c + 4 * q + s) / 4 = 100 * a + 25 * c + q := by omega
  have hcenturies : (400 * a + 100 * c + 4 * q + s) / 100 = 4 * a + c := by omega
  have hcycles : (400 * a + 100 * c + 4 * q + s) / 400 = a := by omega
  unfold daysBeforeYear
  rw [add_sub_cancel_right, hquarters, hcenturies, hcycles]
  omega

theorem yearOf_spec (days : Int) :
    daysBeforeYear (yearOf days) ≤ days ∧ days < daysBeforeYear (yearOf days + 1) := by
  obtain ⟨a, ha⟩ : ∃ a, days / 146097 = a := ⟨_, rfl⟩
  obtain ⟨c, hc⟩ : ∃ c, days % 146097 / 36524 = c := ⟨_, rfl⟩
  obtain ⟨q, hq⟩ : ∃ q, days % 146097 % 36524 / 1461 = q := ⟨_, rfl⟩
  obtain ⟨s, hs⟩ : ∃ s, days % 146097 % 36524 % 1461 / 365 = s := ⟨_, rfl⟩
  have hyear : yearOf days = 400 * a + 100 * c + 4 * q + s + (if c = 4 ∨ s = 4 then 0 else 1) := by
    unfold yearOf
    dsimp only
    rw [ha, hc, hq, hs]
    omega
  rw [hyear]
  by_cases hlast : c = 4 ∨ s = 4
  · -- the last day of a leap year
    obtain ⟨y, hy, hdays⟩ : ∃ y, 400 * a + 100 * c + 4 * q + s = y ∧
        daysBeforeYear (y + 1) = days + 1 := by
      refine ⟨_, rfl, ?_⟩
      rcases hlast with rfl | rfl
      · have hcycle := daysBeforeYear_cycles (a := a + 1) (c := 0) (q := 0) (s := 0) (by norm_num)
          (by norm_num) (by norm_num) (by norm_num) (by norm_num) (by norm_num)
        have hnext : 400 * a + 100 * 4 + 4 * q + s + 1 =
            400 * (a + 1) + 100 * 0 + 4 * 0 + 0 + 1 := by omega
        rw [hnext, hcycle]
        omega
      · have hcycle := daysBeforeYear_cycles (a := a) (c := c) (q := q + 1) (s := 0) (by omega)
          (by omega) (by omega) (by omega) (by norm_num) (by norm_num)
        have hnext : 400 * a + 100 * c + 4 * q + 4 + 1 =
            400 * a + 100 * c + 4 * (q + 1) + 0 + 1 := by omega
        rw [hnext, hcycle]
        omega
    have hsucc := daysBeforeYear_succ y
    rw [if_pos hlast, hy, add_zero]
    split at hsucc <;> omega
  · rw [not_or] at hlast
    have hcycle := daysBeforeYear_cycles (a := a) (c := c) (q := q) (s := s) (by omega) (by omega)
      (by omega) (by omega) (by omega) (by omega)
    have hsucc := daysBeforeYear_succ (400 * a + 100 * c + 4 * q + s + 1)
    rw [if_neg (not_or.mpr hlast)]
    split at hsucc <;> omega

lemma daysBeforeYear_mono {year year' : Int} (h : year ≤ year') :
    daysBeforeYear year ≤ daysBeforeYear year' := by
  rcases h.lt_or_eq with hlt | rfl
  · have hadd := daysBeforeYear_add_le hlt
    split at hadd <;> omega
  · exact le_refl _

lemma le_yearOf_iff {year days : Int} : year ≤ yearOf days ↔ daysBeforeYear year ≤ days := by
  obtain ⟨hle, hlt⟩ := yearOf_spec days
  constructor
  · intro h
    exact (daysBeforeYear_mono h).trans hle
  · intro h
    by_contra hyear
    have hnext := daysBeforeYear_mono (show yearOf days + 1 ≤ year by omega)
    omega

namespace Stamp

variable {year year' : Int} {a b t : Stamp}

theorem instant_le_iff (ha : a.onCalendar (isLeap year) = true)
    (hb : b.onCalendar (isLeap year) = true) :
    a.instant year ≤ b.instant year ↔ a.key ≤ b.key := by
  rw [← sinceNewYear_le_iff ha hb]
  unfold instant
  omega

theorem instant_lt_of_year_lt (ha : a.onCalendar (isLeap year) = true)
    (hb : b.onCalendar (isLeap year') = true) (h : year < year') :
    a.instant year < b.instant year' := by
  have hyears := daysBeforeYear_add_le h
  have hend := sinceNewYear_lt ha
  have hstart := sinceNewYear_nonneg hb
  unfold instant
  unfold Calendar.day at hend ⊢
  omega

lemma sinceNewYear_le_leap (h : t.onCalendar leap = true) (leap' : Bool) :
    t.sinceNewYear leap' ≤ t.sinceNewYear true ∧
      t.sinceNewYear true ≤ t.sinceNewYear leap' + Calendar.day := by
  have hleap := sinceNewYear_leap h
  unfold Calendar.day at hleap ⊢
  cases leap'
  · split at hleap <;> omega
  · omega

theorem halfYear_lt_of_key_le (ha : a.onCalendar (isLeap year) = true)
    (hb : b.onCalendar (isLeap year') = true) (h : year < year') (hkey : a.key ≤ b.key) :
    halfYear < b.instant year' - a.instant year := by
  have hyears := daysBeforeYear_add_le h
  have horder := (sinceNewYear_le_iff (onCalendar_true ha) (onCalendar_true hb)).mpr hkey
  have hleft := sinceNewYear_le_leap ha (isLeap year)
  have hright := sinceNewYear_le_leap hb (isLeap year')
  unfold instant halfYear
  unfold Calendar.day at hleft hright ⊢
  split at hyears <;> omega

theorem year_le_instant_sub (h : t.onCalendar (isLeap year) = true) (hlt : year < year') :
    365 * Calendar.day ≤ t.instant year' - t.instant year := by
  have hyears := daysBeforeYear_add_le hlt
  have hleap := sinceNewYear_leap h
  unfold instant
  unfold Calendar.day at hleap ⊢
  cases hl : isLeap year <;> cases hl' : isLeap year'
  · omega
  · split at hleap <;> omega
  · rw [hl, if_pos rfl] at hyears
    split at hleap <;> omega
  · omega

theorem sinceNewYear_sub (ha : a.onCalendar (isLeap year) = true)
    (hb : b.onCalendar (isLeap year) = true) (hmonth : a.month ≤ b.month) :
    b.sinceNewYear true - a.sinceNewYear true = b.instant year - a.instant year +
      (if isLeap year = false ∧ a.month ≤ 2 ∧ 2 < b.month then Calendar.day else 0) := by
  have hleft := sinceNewYear_leap ha
  have hright := sinceNewYear_leap hb
  unfold instant
  cases isLeap year
  · rw [hleft, hright]
    by_cases hma : 2 < a.month
    · rw [if_pos hma, if_pos (hma.trans_le hmonth), if_neg (by omega)]
      omega
    · by_cases hmb : 2 < b.month
      · rw [if_neg hma, if_pos hmb, if_pos ⟨rfl, by omega, hmb⟩]
        omega
      · rw [if_neg hma, if_neg hmb, if_neg (by omega)]
        omega
  · rw [if_neg (by simp)]
    omega

end Stamp

end Calendar
