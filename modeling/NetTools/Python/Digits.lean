import NetTools.Python.Value

/-!
# Integers read from text

`int(text)` of Python, over the table of its decimal digits.
-/

namespace NetTools

structure DigitTable where
  value : Char → Option Nat
  value_lt : ∀ c n, value c = some n → n < 10

namespace DigitTable

def ascii : DigitTable where
  value c := if c.isDigit then some (c.toNat - 48) else none
  value_lt := by
    intro c n h
    by_cases hdigit : c.isDigit = true
    · rw [if_pos hdigit, Option.some.injEq] at h
      have hrange : c.toNat ≤ 57 := by
        rw [Char.isDigit, Bool.and_eq_true, decide_eq_true_eq, decide_eq_true_eq] at hdigit
        exact UInt32.le_iff_toNat_le.mp hdigit.2
      omega
    · rw [if_neg hdigit] at h
      cases h

end DigitTable

/-- `sys.get_int_max_str_digits()`. -/
def intMaxStrDigits : Nat := 4300

/-- `str(i)` is not refused for its length. -/
def intFits (i : Int) : Bool := decide (i.natAbs < 10 ^ intMaxStrDigits)

lemma intFits_of_le {i : Int} (h : i.natAbs ≤ 9) : intFits i = true :=
  decide_eq_true (lt_of_lt_of_le (Nat.lt_succ_of_le h)
    (Nat.le_self_pow (by decide : intMaxStrDigits ≠ 0) 10))

namespace DigitTable

variable (digits : DigitTable)

def run : List Char → Nat → Nat → Bool → Option (Nat × Nat)
  | [], count, n, afterDigit => if afterDigit then some (count, n) else none
  | c :: cs, count, n, afterDigit =>
    match digits.value c with
    | some d => run cs (count + 1) (10 * n + d) true
    | none => if c = '_' && afterDigit then run cs count n false else none

/-- `int(text)` of digits after a sign, `none` for a `ValueError`. -/
def natural (cs : List Char) : Option Nat :=
  match digits.run cs 0 0 false with
  | some (count, n) => if count ≤ intMaxStrDigits then some n else none
  | none => none

/-- `int(text)` of a stripped text. -/
def integer (text : String) : Option Int :=
  match text.toList with
  | '-' :: cs => (digits.natural cs).map (fun n => -(n : Int))
  | '+' :: cs => (digits.natural cs).map (fun n => (n : Int))
  | cs => (digits.natural cs).map (fun n => (n : Int))

/-- The white space that `int` drops: of the separators of ASCII it knows none. -/
def isIntSpace (c : Char) : Bool := isSpaceChar c && !(28 ≤ c.toNat && c.toNat ≤ 31)

def int (text : String) : Option Int :=
  digits.integer (String.ofList
    (((text.toList.dropWhile isIntSpace).reverse.dropWhile isIntSpace).reverse))

end DigitTable

end NetTools
