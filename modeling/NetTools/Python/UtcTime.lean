import Mathlib.Data.List.Lex
import Mathlib.Data.Prod.Lex
import Mathlib.Data.String.Basic

/-!
# Times in UTC

A `datetime` in UTC by its fields, and the texts in which they are written. Later times have later
texts, also as names of files.
-/

namespace NetTools

/-- The last `width` decimal digits. -/
def padded : Nat → Nat → List Char
  | 0, _ => []
  | width + 1, n => padded width (n / 10) ++ [Nat.digitChar (n % 10)]

lemma length_padded (width n : Nat) : (padded width n).length = width := by
  induction width generalizing n with
  | zero => rfl
  | succ width ih => rw [padded, List.length_append, ih, List.length_singleton]

lemma lt_append_of_length_eq {l m : List Char} (h : l < m) (hlength : l.length = m.length)
    (s t : List Char) : l ++ s < m ++ t := by
  induction l generalizing m with
  | nil =>
    rw [List.length_nil] at hlength
    rw [List.eq_nil_of_length_eq_zero hlength.symm] at h
    exact absurd h (lt_irrefl _)
  | cons a l ih =>
    cases m with
    | nil => cases hlength
    | cons b m =>
      rw [List.cons_append, List.cons_append, List.cons_lt_cons_iff]
      rcases List.cons_lt_cons_iff.mp h with hab | ⟨hab, hlm⟩
      · exact .inl hab
      · exact .inr ⟨hab, ih hlm (Nat.succ.inj hlength)⟩

lemma digitChar_lt : ∀ i < 10, ∀ j < 10, i < j → Nat.digitChar i < Nat.digitChar j := by
  decide

lemma padded_lt {width a b : Nat} (h : a < b) (hb : b < 10 ^ width) :
    padded width a < padded width b := by
  induction width generalizing a b with
  | zero =>
    rw [pow_zero] at hb
    omega
  | succ width ih =>
    rw [pow_succ] at hb
    rw [padded, padded]
    by_cases hfront : a / 10 < b / 10
    · have hlt := ih hfront (by omega)
      exact lt_append_of_length_eq hlt (by rw [length_padded, length_padded]) _ _
    · have hsame : a / 10 = b / 10 := by omega
      have hlast : a % 10 < b % 10 := by omega
      rw [hsame]
      apply List.append_left_lt
      rw [List.cons_lt_cons_iff]
      exact .inl (digitChar_lt _ (by omega) _ (by omega) hlast)

lemma padded_append_lt {width a b : Nat} (h : a < b) (hb : b < 10 ^ width) (s t : List Char) :
    padded width a ++ s < padded width b ++ t :=
  lt_append_of_length_eq (padded_lt h hb) (by rw [length_padded, length_padded]) s t

lemma isDigit_of_mem_padded {width n : Nat} {c : Char} (h : c ∈ padded width n) :
    c.isDigit = true := by
  induction width generalizing n with
  | zero => cases h
  | succ width ih =>
    rw [padded, List.mem_append, List.mem_singleton] at h
    rcases h with h | rfl
    · exact ih h
    · have hdigit : ∀ i < 10, (Nat.digitChar i).isDigit = true := by decide
      exact hdigit _ (Nat.mod_lt _ (by decide))

structure UtcTime where
  year : Nat
  month : Nat
  day : Nat
  hour : Nat
  minute : Nat
  second : Nat
  microsecond : Nat
  year_lt : year < 10000 := by decide
  month_le : month ≤ 12 := by decide
  day_le : day ≤ 31 := by decide
  hour_lt : hour < 24 := by decide
  minute_lt : minute < 60 := by decide
  second_lt : second < 60 := by decide
  microsecond_lt : microsecond < 1000000 := by decide
  deriving DecidableEq, Repr

namespace UtcTime

def key (t : UtcTime) : Nat ×ₗ Nat ×ₗ Nat ×ₗ Nat ×ₗ Nat ×ₗ Nat ×ₗ Nat :=
  toLex (t.year, toLex (t.month, toLex (t.day, toLex (t.hour, toLex (t.minute,
    toLex (t.second, t.microsecond))))))

def fraction (t : UtcTime) : List Char :=
  if t.microsecond = 0 then [] else '.' :: padded 6 t.microsecond

/-- The fields with `sep` between those of the clock and of the zone. -/
def written (sep : Char) (t : UtcTime) : List Char :=
  padded 4 t.year ++ '-' :: (padded 2 t.month ++ '-' :: (padded 2 t.day ++ 'T' ::
    (padded 2 t.hour ++ sep :: (padded 2 t.minute ++ sep :: (padded 2 t.second ++
      (t.fraction ++ ['+', '0', '0', sep, '0', '0']))))))

def isoformat (t : UtcTime) : String := String.ofList (t.written ':')

lemma fraction_append_lt {t u : UtcTime} (h : t.microsecond < u.microsecond) (s : List Char) :
    t.fraction ++ '+' :: s < u.fraction ++ '+' :: s := by
  have hu : u.microsecond ≠ 0 := by omega
  rw [fraction, fraction, if_neg hu]
  by_cases ht : t.microsecond = 0
  · rw [if_pos ht, List.nil_append, List.cons_append, List.cons_lt_cons_iff]
    exact .inl (by decide)
  · rw [if_neg ht, List.cons_append, List.cons_append, List.cons_lt_cons_iff]
    exact .inr ⟨rfl, padded_append_lt h u.microsecond_lt _ _⟩

lemma next_lt {width a b : Nat} {s t : List Char} (sep : Char)
    (h : a < b ∨ a = b ∧ s < t) (hb : b < 10 ^ width) :
    padded width a ++ sep :: s < padded width b ++ sep :: t := by
  rcases h with h | ⟨rfl, h⟩
  · exact padded_append_lt h hb _ _
  · apply List.append_left_lt
    rw [List.cons_lt_cons_iff]
    exact .inr ⟨rfl, h⟩

theorem written_lt {t u : UtcTime} (h : t.key < u.key) (sep : Char) (s : List Char) :
    t.written sep ++ s < u.written sep ++ s := by
  simp only [key, Prod.Lex.lt_iff, ofLex_toLex] at h
  simp only [written, List.append_assoc, List.cons_append, List.nil_append]
  refine next_lt '-' (h.imp id (And.imp_right fun h => ?_)) u.year_lt
  refine next_lt '-' (h.imp id (And.imp_right fun h => ?_)) (u.month_le.trans_lt (by decide))
  refine next_lt 'T' (h.imp id (And.imp_right fun h => ?_)) (u.day_le.trans_lt (by decide))
  refine next_lt sep (h.imp id (And.imp_right fun h => ?_)) (u.hour_lt.trans (by decide))
  refine next_lt sep (h.imp id (And.imp_right fun h => ?_)) (u.minute_lt.trans (by decide))
  rcases h with h | ⟨heq, h⟩
  · exact padded_append_lt h (u.second_lt.trans (by decide)) _ _
  · rw [heq]
    apply List.append_left_lt
    exact fraction_append_lt h _

lemma map_written (t : UtcTime) :
    (t.written ':').map (fun c => if c = ':' then '-' else c) = t.written '-' := by
  have hdigits : ∀ width n : Nat, (padded width n).map (fun c => if c = ':' then '-' else c) =
      padded width n := by
    intro width n
    conv_rhs => rw [← List.map_id (padded width n)]
    apply List.map_congr_left
    intro c hc
    rw [if_neg]
    · rfl
    · rintro rfl
      have hdigit := isDigit_of_mem_padded hc
      cases hdigit
  have hfraction : t.fraction.map (fun c => if c = ':' then '-' else c) = t.fraction := by
    rw [fraction]
    by_cases h : t.microsecond = 0
    · rw [if_pos h]
      rfl
    · rw [if_neg h, List.map_cons, hdigits]
      rfl
  simp only [written, List.map_append, List.map_cons, List.map_nil, hdigits, hfraction]
  rfl

end UtcTime

end NetTools
