import Mathlib.Data.List.Dedup
import Mathlib.Data.List.Sort
import Mathlib.Data.List.TakeWhile
import Mathlib.Data.Rat.Defs
import Mathlib.Data.String.Basic

/-!
# Python values that reach the stores

JSON-shaped values with Python's equality, and the string operations whose results decide a
branch somewhere in the program.
-/

namespace NetTools

/-- A JSON-shaped Python value. A float is the rational it denotes. -/
inductive Value where
  | none
  | bool (b : Bool)
  | int (i : Int)
  | float (q : ℚ)
  | str (s : String)
  | list (items : List Value)
  | dict (entries : List (String × Value))

abbrev Dict := List (String × Value)

/-- `d.get(key)`, with `none` for a missing key. -/
def Dict.get? (d : Dict) (key : String) : Option Value := d.lookup key

/-- `set(d)`, as a list of the keys. -/
def Dict.keys (d : Dict) : List String := d.map Prod.fst

namespace Value

/-- The number a numeric value stands for: Python compares `True`, `1` and `1.0` as equal. -/
def number? : Value → Option ℚ
  | .bool b => some (if b then 1 else 0)
  | .int i => some i
  | .float q => some q
  | _ => Option.none

mutual

/-- Python's `==`. -/
def pyEq : Value → Value → Bool
  | .none, .none => true
  | .str a, .str b => a == b
  | .list xs, .list ys => pyEqItems xs ys
  | .dict xs, .dict ys => xs.length == ys.length && pyEqEntries xs ys
  | .bool a, w => w.number? == some (if a then 1 else 0)
  | .int a, w => w.number? == some (a : ℚ)
  | .float a, w => w.number? == some a
  | _, _ => false

def pyEqItems : List Value → List Value → Bool
  | [], [] => true
  | x :: xs, y :: ys => pyEq x y && pyEqItems xs ys
  | _, _ => false

def pyEqEntries : List (String × Value) → List (String × Value) → Bool
  | [], _ => true
  | (k, v) :: xs, ys =>
    (match ys.lookup k with
      | some w => pyEq v w
      | Option.none => false) && pyEqEntries xs ys

end

/-- `isinstance(v, str)`. -/
def isStr : Value → Bool
  | .str _ => true
  | _ => false

/-- `type(v).__name__`. -/
def typeName : Value → String
  | .none => "NoneType"
  | .bool _ => "bool"
  | .int _ => "int"
  | .float _ => "float"
  | .str _ => "str"
  | .list _ => "list"
  | .dict _ => "dict"

/-- Python's truth value of `v`. -/
def truthy : Value → Bool
  | .none => false
  | .bool b => b
  | .int i => i != 0
  | .float q => q != 0
  | .str s => s != ""
  | .list xs => !xs.isEmpty
  | .dict xs => !xs.isEmpty

end Value

/-- `str.isspace` of one character. -/
def isSpaceChar (c : Char) : Bool :=
  let n := c.toNat
  (9 ≤ n && n ≤ 13) || (28 ≤ n && n ≤ 32) || n == 0x85 || n == 0xA0 || n == 0x1680 ||
    (0x2000 ≤ n && n ≤ 0x200A) || n == 0x2028 || n == 0x2029 || n == 0x202F || n == 0x205F ||
    n == 0x3000

lemma isAlpha_eq (c : Char) : c.isAlpha =
    (decide (c.val ≥ 'A'.val ∧ c.val ≤ 'Z'.val) ||
      (decide (c.val ≥ 'a'.val) && decide (c.val ≤ 'z'.val))) :=
  rfl

/-- `str.strip()`. -/
def pyStrip (s : String) : String :=
  String.ofList (((s.toList.dropWhile isSpaceChar).reverse.dropWhile isSpaceChar).reverse)

/-- `not s.strip()`: nothing is left of the string once its white space is gone. -/
def isBlank (s : String) : Bool := s.toList.all isSpaceChar

lemma isBlank_append {start : String} (h : isBlank start = false) (rest : String) :
    isBlank (start ++ rest) = false := by
  rw [isBlank] at h
  rw [isBlank, String.toList_append, List.all_append, h, Bool.false_and]

/-- `s.startswith(prefix)`. -/
def pyStartsWith (s start : String) : Bool := start.toList.isPrefixOf s.toList

/-- `repr` of a string of printable or ASCII characters, with Python's choice of quotes. -/
def pyRepr (s : String) : String :=
  let quote := if s.toList.contains '\'' && !s.toList.contains '"' then '"' else '\''
  let escape (c : Char) : List Char :=
    if c == '\\' || c == quote then ['\\', c]
    else if c == '\n' then ['\\', 'n']
    else if c == '\r' then ['\\', 'r']
    else if c == '\t' then ['\\', 't']
    else if c.toNat < 0x20 || c.toNat == 0x7F then
      ['\\', 'x', Nat.digitChar (c.toNat / 16), Nat.digitChar (c.toNat % 16)]
    else [c]
  String.ofList (quote :: (s.toList.flatMap escape ++ [quote]))

/-- `repr` of an optional string. -/
def pyReprOption : Option String → String
  | none => "None"
  | some s => pyRepr s

/-- `repr` of a list of strings. -/
def pyReprStrings (items : List String) : String :=
  "[" ++ ", ".intercalate (items.map pyRepr) ++ "]"

/-- `sorted(set(items))`. -/
def sortedNames (items : List String) : List String := items.dedup.insertionSort (· ≤ ·)

def parseDigits : List Char → Nat → Bool → Option Nat
  | [], acc, afterDigit => if afterDigit then some acc else none
  | c :: cs, acc, afterDigit =>
    if c.isDigit then parseDigits cs (acc * 10 + (c.toNat - 48)) true
    else if c = '_' && afterDigit then parseDigits cs acc false
    else none

/-- `int(s)` of a string of ASCII characters, `none` where Python raises `ValueError`. -/
def pyInt (s : String) : Option Int :=
  match (pyStrip s).toList with
  | '-' :: cs => (parseDigits cs 0 false).map (fun n => -(n : Int))
  | '+' :: cs => (parseDigits cs 0 false).map (fun n => (n : Int))
  | cs => (parseDigits cs 0 false).map (fun n => (n : Int))

lemma dropWhile_reverse_eq_nil_iff (p : Char → Bool) (l : List Char) :
    (l.dropWhile p).reverse.dropWhile p = [] ↔ ∀ c ∈ l, p c = true := by
  rw [List.dropWhile_eq_nil_iff]
  constructor
  · intro h
    rw [← List.dropWhile_eq_nil_iff]
    cases hcase : l.dropWhile p with
    | nil => rfl
    | cons c cs =>
      have hhead := List.head?_dropWhile_not p l
      have hc := h c (by simp [hcase])
      simp [hcase, hc] at hhead
  · intro h c hc
    rw [List.dropWhile_eq_nil_iff.mpr h] at hc
    cases hc

theorem isBlank_iff_strip (s : String) : isBlank s = true ↔ pyStrip s = "" := by
  rw [isBlank, List.all_eq_true, ← dropWhile_reverse_eq_nil_iff, pyStrip]
  constructor
  · intro h
    rw [h]
    rfl
  · intro h
    simpa using congrArg String.toList h

end NetTools
