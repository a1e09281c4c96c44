import Mathlib.Data.List.Sort
import Mathlib.Data.String.Basic
import NetTools.Library.LastRow

/-!
# JSON texts

Values as `json.dumps(…, sort_keys=True)` writes them and `json.loads` reads them back: every
character beyond printable ASCII is escaped, a character beyond the basic plane as two surrogates.
Numbers with a fraction or an exponent are left out, so reading refuses them. A value with distinct
keys is read back as it was, up to the order of its keys.
-/

namespace JsonText

inductive Json where
  | null
  | bool (b : Bool)
  | int (i : Int)
  | str (s : String)
  | arr (items : List Json)
  | obj (entries : List (String × Json))

/-- `\uXXXX`. -/
def unicodeEscape (n : Nat) : List Char :=
  ['\\', 'u', (n / 4096 % 16).digitChar, (n / 256 % 16).digitChar, (n / 16 % 16).digitChar,
    (n % 16).digitChar]

def shortEscapes : List (Char × Char) :=
  [('"', '"'), ('\\', '\\'), ('\n', 'n'), ('\r', 'r'), ('\t', 't'), (Char.ofNat 8, 'b'),
    (Char.ofNat 12, 'f')]

def escape (c : Char) : List Char :=
  match shortEscapes.lookup c with
  | some letter => ['\\', letter]
  | none =>
    if 0x20 ≤ c.toNat ∧ c.toNat ≤ 0x7e then [c]
    else if c.toNat < 0x10000 then unicodeEscape c.toNat
    else unicodeEscape (0xd800 + (c.toNat - 0x10000) / 0x400) ++
      unicodeEscape (0xdc00 + (c.toNat - 0x10000) % 0x400)

def quoted (s : String) : List Char := '"' :: (s.toList.flatMap escape ++ ['"'])

def intText (i : Int) : List Char :=
  if i < 0 then '-' :: Nat.toDigits 10 i.natAbs else Nat.toDigits 10 i.natAbs

mutual

def dump : Json → List Char
  | .null => ['n', 'u', 'l', 'l']
  | .bool true => ['t', 'r', 'u', 'e']
  | .bool false => ['f', 'a', 'l', 's', 'e']
  | .int i => intText i
  | .str s => quoted s
  | .arr [] => ['[', ']']
  | .arr (x :: xs) => '[' :: (dump x ++ dumpItems xs)
  | .obj [] => ['\x7b', '\x7d']
  | .obj ((k, v) :: entries) =>
    '\x7b' :: (quoted k ++ ':' :: ' ' :: (dump v ++ dumpEntries entries))

def dumpItems : List Json → List Char
  | [] => [']']
  | x :: xs => ',' :: ' ' :: (dump x ++ dumpItems xs)

def dumpEntries : List (String × Json) → List Char
  | [] => ['\x7d']
  | (k, v) :: entries => ',' :: ' ' :: (quoted k ++ ':' :: ' ' :: (dump v ++ dumpEntries entries))

end

mutual

def sortKeys : Json → Json
  | .arr items => .arr (sortItems items)
  | .obj entries => .obj ((sortEntries entries).insertionSort (fun a b => a.1 ≤ b.1))
  | v => v

def sortItems : List Json → List Json
  | [] => []
  | x :: xs => sortKeys x :: sortItems xs

def sortEntries : List (String × Json) → List (String × Json)
  | [] => []
  | (k, v) :: entries => (k, sortKeys v) :: sortEntries entries

end

def dumps (v : Json) : String := String.ofList (dump (sortKeys v))

/-! ### Reading -/

def isSpace (c : Char) : Bool := c = ' ' || c = '\t' || c = '\n' || c = '\r'

def skip (text : List Char) : List Char := text.dropWhile isSpace

def hexValue (c : Char) : Option Nat :=
  if 48 ≤ c.toNat ∧ c.toNat ≤ 57 then some (c.toNat - 48)
  else if 97 ≤ c.toNat ∧ c.toNat ≤ 102 then some (c.toNat - 87)
  else if 65 ≤ c.toNat ∧ c.toNat ≤ 70 then some (c.toNat - 55)
  else none

def readHex : List Char → Option (Nat × List Char)
  | a :: b :: c :: d :: rest => do
    let a ← hexValue a
    let b ← hexValue b
    let c ← hexValue c
    let d ← hexValue d
    some (4096 * a + 256 * b + 16 * c + d, rest)
  | _ => none

/-- What stands for `\uXXXX` and the text after it. A surrogate without its partner is no
character. -/
def readUnicode (text : List Char) : Option (Char × List Char) := do
  let (n, rest) ← readHex text
  if 0xd800 ≤ n ∧ n < 0xdc00 then
    match rest with
    | '\\' :: 'u' :: rest =>
      let (m, rest) ← readHex rest
      if 0xdc00 ≤ m ∧ m < 0xe000 then
        some (Char.ofNat (0x10000 + 0x400 * (n - 0xd800) + (m - 0xdc00)), rest)
      else none
    | _ => none
  else if 0xdc00 ≤ n ∧ n < 0xe000 then none
  else some (Char.ofNat n, rest)

def shortLetters : List (Char × Char) :=
  ('/', '/') :: shortEscapes.map Prod.swap

def readEscape : List Char → Option (Char × List Char)
  | [] => none
  | letter :: rest =>
    if letter = 'u' then readUnicode rest
    else (shortLetters.lookup letter).map (fun c => (c, rest))

def readChars : Nat → List Char → Option (List Char × List Char)
  | 0, _ => none
  | _ + 1, [] => none
  | n + 1, c :: rest =>
    if c = '"' then some ([], rest)
    else if c = '\\' then do
      let (c, rest) ← readEscape rest
      let (cs, rest) ← readChars n rest
      some (c :: cs, rest)
    else if c.toNat < 0x20 then none
    else do
      let (cs, rest) ← readChars n rest
      some (c :: cs, rest)

def readString : List Char → Option (String × List Char)
  | [] => none
  | c :: rest =>
    if c = '"' then (readChars rest.length rest).map (fun p => (String.ofList p.1, p.2)) else none

def readNat : List Char → Option (Nat × List Char)
  | [] => none
  | c :: rest =>
    if c = '0' then some (0, rest)
    else if c.isDigit then
      some (Nat.ofDigitChars 10 (c :: rest.takeWhile Char.isDigit) 0, rest.dropWhile Char.isDigit)
    else none

def readInt : List Char → Option (Int × List Char)
  | [] => none
  | c :: rest =>
    if c = '-' then (readNat rest).map (fun p => (-(p.1 : Int), p.2))
    else (readNat (c :: rest)).map (fun p => ((p.1 : Int), p.2))

def readWord (word : List Char) (v : Json) (text : List Char) : Option (Json × List Char) :=
  if word.isPrefixOf text then some (v, text.drop word.length) else none

/-- `dict(entries)`. -/
def dictOf (entries : List (String × Json)) : List (String × Json) :=
  entries.foldl (fun d entry => LastRow.assign d entry.1 entry.2) []

mutual

def readValue : Nat → List Char → Option (Json × List Char)
  | 0, _ => none
  | _ + 1, [] => none
  | n + 1, c :: rest =>
    if c = 'n' then readWord ['u', 'l', 'l'] .null rest
    else if c = 't' then readWord ['r', 'u', 'e'] (.bool true) rest
    else if c = 'f' then readWord ['a', 'l', 's', 'e'] (.bool false) rest
    else if c = '"' then (readString (c :: rest)).map (fun p => (.str p.1, p.2))
    else if c = '[' then
      match skip rest with
      | ']' :: rest => some (.arr [], rest)
      | rest => (readItems n rest).map (fun p => (.arr p.1, p.2))
    else if c = '\x7b' then
      match skip rest with
      | '\x7d' :: rest => some (.obj [], rest)
      | rest => (readEntries n rest).map (fun p => (.obj (dictOf p.1), p.2))
    else (readInt (c :: rest)).map (fun p => (.int p.1, p.2))

def readItems : Nat → List Char → Option (List Json × List Char)
  | 0, _ => none
  | n + 1, text => do
    let (x, rest) ← readValue n text
    match skip rest with
    | ']' :: rest => some ([x], rest)
    | ',' :: rest =>
      let (xs, rest) ← readItems n (skip rest)
      some (x :: xs, rest)
    | _ => none

def readEntries : Nat → List Char → Option (List (String × Json) × List Char)
  | 0, _ => none
  | n + 1, text => do
    let (k, rest) ← readString text
    match skip rest with
    | ':' :: rest =>
      let (v, rest) ← readValue n (skip rest)
      match skip rest with
      | '\x7d' :: rest => some ([(k, v)], rest)
      | ',' :: rest =>
        let (entries, rest) ← readEntries n (skip rest)
        some ((k, v) :: entries, rest)
      | _ => none
    | _ => none

end

def loads (text : String) : Option Json := do
  let (v, rest) ← readValue text.toList.length (skip text.toList)
  if skip rest = [] then some v else none

lemma hexValue_digitChar {d : Nat} (h : d < 16) : hexValue d.digitChar = some d := by
  have hall : ∀ d < 16, hexValue d.digitChar = some d := by decide
  exact hall d h

lemma readHex_unicodeEscape {n : Nat} (h : n < 0x10000) (rest : List Char) :
    readHex ((unicodeEscape n).drop 2 ++ rest) = some (n, rest) := by
  have hdigit : ∀ m : Nat, hexValue (m % 16).digitChar = some (m % 16) :=
    fun m => hexValue_digitChar (Nat.mod_lt m (by decide))
  have hsum : 4096 * (n / 4096 % 16) + 256 * (n / 256 % 16) + 16 * (n / 16 % 16) + n % 16 = n := by
    omega
  simp only [unicodeEscape, List.drop_succ_cons, List.drop_zero, List.cons_append,
    List.nil_append, readHex, hdigit, Option.bind_eq_bind, Option.bind_some, hsum]

lemma unicodeEscape_append (n : Nat) (rest : List Char) :
    unicodeEscape n ++ rest = '\\' :: 'u' :: ((unicodeEscape n).drop 2 ++ rest) := rfl

lemma readUnicode_plane {n : Nat} (h : n < 0xd800 ∨ 0xe000 ≤ n ∧ n < 0x10000)
    (rest : List Char) :
    readUnicode ((unicodeEscape n).drop 2 ++ rest) = some (Char.ofNat n, rest) := by
  rw [readUnicode, readHex_unicodeEscape (by omega)]
  simp only [Option.bind_eq_bind, Option.bind_some]
  rw [if_neg (by omega), if_neg (by omega)]

lemma readUnicode_surrogates {n m : Nat} (hn : n < 0x400) (hm : m < 0x400) (rest : List Char) :
    readUnicode ((unicodeEscape (0xd800 + n)).drop 2 ++
        (unicodeEscape (0xdc00 + m) ++ rest)) =
      some (Char.ofNat (0x10000 + 0x400 * n + m), rest) := by
  rw [readUnicode, readHex_unicodeEscape (by omega), unicodeEscape_append]
  simp only [Option.bind_eq_bind, Option.bind_some]
  rw [if_pos (by omega), readHex_unicodeEscape (by omega)]
  simp only [Option.bind_some]
  rw [if_pos (by omega), Nat.add_sub_cancel_left, Nat.add_sub_cancel_left]

lemma shortLetters_of_shortEscapes {c letter : Char} (h : shortEscapes.lookup c = some letter) :
    letter ≠ 'u' ∧ shortLetters.lookup letter = some c := by
  have hall : ∀ entry ∈ shortEscapes,
      entry.2 ≠ 'u' ∧ shortLetters.lookup entry.2 = some entry.1 := by
    decide
  exact hall (c, letter) (ListSearch.mem_of_lookup h)

lemma readChars_escape (c : Char) (n : Nat) (rest : List Char) :
    readChars (n + 1) (escape c ++ rest) = (readChars n rest).map (fun p => (c :: p.1, p.2)) := by
  have hslash : ∀ text, readChars (n + 1) ('\\' :: text) =
      (readEscape text).bind (fun p => (readChars n p.2).map (fun q => (p.1 :: q.1, q.2))) := by
    intro text
    rw [readChars, if_neg (by decide), if_pos rfl]
    cases readEscape text with
    | none => rfl
    | some p => cases hrest : readChars n p.2 <;> simp [hrest]
  have hvalid := c.valid
  rw [UInt32.isValidChar, Nat.isValidChar] at hvalid
  have hnat : c.val.toNat = c.toNat := rfl
  rw [hnat] at hvalid
  rw [escape]
  split
  · rename_i letter hletter
    obtain ⟨hne, hback⟩ := shortLetters_of_shortEscapes hletter
    rw [List.cons_append, List.cons_append, List.nil_append, hslash, readEscape, if_neg hne, hback]
    rfl
  · rename_i hnone
    split
    · rename_i hplain
      have hquote : c ≠ '"' := by
        rintro rfl
        cases hnone
      have hback : c ≠ '\\' := by
        rintro rfl
        cases hnone
      rw [List.cons_append, List.nil_append, readChars, if_neg hquote, if_neg hback,
        if_neg (by omega)]
      cases readChars n rest <;> rfl
    · split
      · rw [unicodeEscape_append, hslash, readEscape, if_pos rfl, readUnicode_plane (by omega),
          Char.ofNat_toNat]
        rfl
      · have hpoint : 0x10000 + 0x400 * ((c.toNat - 0x10000) / 0x400) +
            (c.toNat - 0x10000) % 0x400 = c.toNat := by
          omega
        rw [List.append_assoc, unicodeEscape_append, hslash, readEscape, if_pos rfl,
          readUnicode_surrogates (by omega) (by omega), hpoint, Char.ofNat_toNat]
        rfl

lemma length_le_flatMap_escape (cs : List Char) : cs.length ≤ (cs.flatMap escape).length := by
  have hpos : ∀ c, 1 ≤ (escape c).length := by
    intro c
    rw [escape]
    split
    · exact Nat.le_add_left 1 1
    · split
      · exact Nat.le_refl 1
      · split <;> simp [unicodeEscape]
  induction cs with
  | nil => exact Nat.zero_le _
  | cons c cs ih =>
    rw [List.flatMap_cons, List.length_append, List.length_cons]
    have hc := hpos c
    omega

lemma readChars_flatMap (cs : List Char) {n : Nat} (hn : cs.length < n) (rest : List Char) :
    readChars n (cs.flatMap escape ++ '"' :: rest) = some (cs, rest) := by
  induction cs generalizing n with
  | nil =>
    obtain ⟨n, rfl⟩ := Nat.exists_eq_add_one.mpr hn
    rw [List.flatMap_nil, List.nil_append, readChars, if_pos rfl]
  | cons c cs ih =>
    obtain ⟨n, rfl⟩ := Nat.exists_eq_add_one.mpr (Nat.zero_lt_of_lt hn)
    rw [List.flatMap_cons, List.append_assoc, readChars_escape,
      ih (Nat.lt_of_succ_lt_succ (by simpa using hn))]
    rfl

theorem readString_quoted (s : String) (rest : List Char) :
    readString (quoted s ++ rest) = some (s, rest) := by
  have hlength := length_le_flatMap_escape s.toList
  rw [quoted, List.cons_append, List.append_assoc, List.singleton_append, readString, if_pos rfl,
    readChars_flatMap]
  · rw [Option.map_some, String.ofList_toList]
  · rw [List.length_append, List.length_cons]
    omega

def Ends (rest : List Char) : Prop := ∀ c ∈ rest.head?, c.isDigit = false

lemma ends_nil : Ends [] := nofun

lemma ends_cons {c : Char} {rest : List Char} (h : c.isDigit = false) : Ends (c :: rest) := by
  intro c' hc'
  rw [← Option.some.inj hc']
  exact h

lemma toDigits_eq_cons {k : Nat} (h : 0 < k) :
    ∃ c ds, Nat.toDigits 10 k = c :: ds ∧ c ≠ '0' := by
  induction k using Nat.strongRecOn with
  | ind k ih =>
    rcases Nat.lt_or_ge k 10 with hsmall | hbig
    · have hzero : ∀ d < 10, 0 < d → Nat.digitChar d ≠ '0' := by decide
      exact ⟨k.digitChar, [], Nat.toDigits_of_lt_base hsmall, hzero k hsmall h⟩
    · obtain ⟨c, ds, hdigits, hc⟩ := ih (k / 10) (by omega) (by omega)
      rw [Nat.toDigits_of_base_le (by decide) hbig, hdigits]
      exact ⟨c, _, rfl, hc⟩

lemma isDigit_of_mem_toDigits {k : Nat} {c : Char} (h : c ∈ Nat.toDigits 10 k) :
    c.isDigit = true :=
  Nat.isDigit_of_mem_toDigits (by decide) (by decide) h

lemma readNat_toDigits (k : Nat) {rest : List Char} (h : Ends rest) :
    readNat (Nat.toDigits 10 k ++ rest) = some (k, rest) := by
  have hrest : rest.takeWhile Char.isDigit = [] ∧ rest.dropWhile Char.isDigit = rest := by
    cases rest with
    | nil => exact ⟨rfl, rfl⟩
    | cons c rest =>
      have hc := h c rfl
      rw [List.takeWhile_cons, List.dropWhile_cons, hc]
      exact ⟨rfl, rfl⟩
  rcases Nat.eq_zero_or_pos k with rfl | hpos
  · rw [Nat.toDigits_zero, List.singleton_append, readNat, if_pos rfl]
  · obtain ⟨c, ds, hdigits, hzero⟩ := toDigits_eq_cons hpos
    have hall : ∀ d ∈ c :: ds, d.isDigit = true := by
      rw [← hdigits]
      exact fun d hd => isDigit_of_mem_toDigits hd
    have hds : ∀ d ∈ ds, d.isDigit = true := fun d hd => hall d (List.mem_cons_of_mem c hd)
    rw [hdigits, List.cons_append, readNat, if_neg hzero, if_pos (hall c List.mem_cons_self),
      List.takeWhile_append_of_pos hds, List.dropWhile_append_of_pos hds, hrest.1, hrest.2,
      List.append_nil, ← hdigits, Nat.ofDigitChars_ten_toDigits]

lemma readInt_intText (i : Int) {rest : List Char} (h : Ends rest) :
    readInt (intText i ++ rest) = some (i, rest) := by
  rw [intText]
  split
  · rw [List.cons_append, readInt, if_pos rfl, readNat_toDigits _ h, Option.map_some]
    congr 2
    omega
  · obtain ⟨c, ds, hdigits⟩ := List.exists_cons_of_ne_nil (Nat.toDigits_ne_nil (n := i.natAbs)
      (b := 10))
    have hc : c ≠ '-' := by
      rintro rfl
      have hdigit := isDigit_of_mem_toDigits (k := i.natAbs) (c := '-')
        (by rw [hdigits]; exact List.mem_cons_self)
      cases hdigit
    have hread := readNat_toDigits i.natAbs h
    rw [hdigits, List.cons_append] at hread
    rw [hdigits, List.cons_append, readInt, if_neg hc, hread, Option.map_some]
    congr 2
    omega

lemma intText_eq_cons (i : Int) : ∃ c ds, intText i = c :: ds ∧ (c = '-' ∨ c.isDigit = true) := by
  rw [intText]
  split
  · exact ⟨'-', _, rfl, .inl rfl⟩
  · obtain ⟨c, ds, hdigits⟩ := List.exists_cons_of_ne_nil (Nat.toDigits_ne_nil (n := i.natAbs)
      (b := 10))
    refine ⟨c, ds, hdigits, .inr (isDigit_of_mem_toDigits (k := i.natAbs) ?_)⟩
    rw [hdigits]
    exact List.mem_cons_self

/-! ### Values are read back -/

mutual

def Keyed : Json → Prop
  | .arr items => KeyedItems items
  | .obj entries => (entries.map Prod.fst).Nodup ∧ KeyedEntries entries
  | _ => True

def KeyedItems : List Json → Prop
  | [] => True
  | x :: xs => Keyed x ∧ KeyedItems xs

def KeyedEntries : List (String × Json) → Prop
  | [] => True
  | (_, v) :: entries => Keyed v ∧ KeyedEntries entries

end

lemma dictOf_eq {entries : List (String × Json)} (h : (entries.map Prod.fst).Nodup) :
    dictOf entries = entries := LastRow.foldl_assign_nil h

lemma dump_eq_cons (v : Json) :
    ∃ c text, dump v = c :: text ∧ isSpace c = false ∧ c ≠ ']' := by
  cases v with
  | null => exact ⟨_, _, rfl, by decide, by decide⟩
  | bool b => cases b <;> exact ⟨_, _, rfl, by decide, by decide⟩
  | int i =>
    obtain ⟨c, ds, htext, hc⟩ := intText_eq_cons i
    refine ⟨c, ds, htext, ?_⟩
    rcases hc with rfl | hc
    · exact ⟨by decide, by decide⟩
    · rw [isSpace]
      refine ⟨?_, ?_⟩
      · simp only [Bool.or_eq_false_iff, decide_eq_false_iff_not]
        refine ⟨⟨⟨?_, ?_⟩, ?_⟩, ?_⟩ <;> (rintro rfl; cases hc)
      · rintro rfl
        cases hc
  | str s => exact ⟨_, _, rfl, by decide, by decide⟩
  | arr items => cases items <;> exact ⟨_, _, rfl, by decide, by decide⟩
  | obj entries => cases entries <;> exact ⟨_, _, rfl, by decide, by decide⟩

lemma skip_cons {c : Char} {text : List Char} (h : isSpace c = false) :
    skip (c :: text) = c :: text := by
  rw [skip, List.dropWhile_cons, h]
  rfl

lemma skip_dump (v : Json) (rest : List Char) : skip (dump v ++ rest) = dump v ++ rest := by
  obtain ⟨c, text, hdump, hspace, -⟩ := dump_eq_cons v
  rw [hdump, List.cons_append, skip_cons hspace]

lemma ends_dumpItems (items : List Json) (rest : List Char) : Ends (dumpItems items ++ rest) := by
  cases items with
  | nil => exact ends_cons (by decide)
  | cons x xs => exact ends_cons (by decide)

lemma ends_dumpEntries (entries : List (String × Json)) (rest : List Char) :
    Ends (dumpEntries entries ++ rest) := by
  cases entries with
  | nil => exact ends_cons (by decide)
  | cons entry entries => exact ends_cons (by decide)

lemma readValue_number {c : Char} {rest : List Char} (h : c = '-' ∨ c.isDigit = true) (n : Nat) :
    readValue (n + 1) (c :: rest) = (readInt (c :: rest)).map (fun p => (.int p.1, p.2)) := by
  have hother : ∀ d ∈ ['n', 't', 'f', '"', '[', '\x7b'], ¬(d = '-' ∨ d.isDigit = true) := by
    simp
  have hne : ∀ d ∈ ['n', 't', 'f', '"', '[', '\x7b'], c ≠ d := by
    rintro d hd rfl
    exact hother c hd h
  rw [readValue, if_neg (hne _ (by decide)), if_neg (hne _ (by decide)),
    if_neg (hne _ (by decide)), if_neg (hne _ (by decide)), if_neg (hne _ (by decide)),
    if_neg (hne _ (by decide))]

def Reads (v : Json) : Prop :=
  ∀ n rest, (dump v).length ≤ n → Ends rest → readValue n (dump v ++ rest) = some (v, rest)

lemma length_dump_pos (v : Json) : 1 ≤ (dump v).length := by
  obtain ⟨c, text, hdump, -⟩ := dump_eq_cons v
  rw [hdump, List.length_cons]
  exact Nat.le_add_left 1 _

lemma reads_arr {x : Json} {xs : List Json}
    (h : ∀ n rest, (dump x ++ dumpItems xs).length ≤ n →
      readItems n (dump x ++ (dumpItems xs ++ rest)) = some (x :: xs, rest)) :
    Reads (.arr (x :: xs)) := by
  intro n rest hn _
  rw [dump, List.length_cons] at hn
  obtain ⟨n, rfl⟩ := Nat.exists_eq_add_one.mpr (Nat.zero_lt_of_lt hn)
  have hitems := h n rest (Nat.le_of_succ_le_succ hn)
  obtain ⟨c, text, hdump, hspace, hc⟩ := dump_eq_cons x
  rw [hdump, List.cons_append] at hitems
  rw [dump, List.cons_append, List.append_assoc, hdump, List.cons_append, readValue,
    if_neg (by decide), if_neg (by decide), if_neg (by decide), if_neg (by decide), if_pos rfl,
    skip_cons hspace]
  split
  · rename_i hclose
    exact absurd (List.cons.inj hclose).1 hc
  · rw [hitems]
    rfl

lemma reads_obj {k : String} {v : Json} {entries : List (String × Json)}
    (hkeys : (((k, v) :: entries).map Prod.fst).Nodup)
    (h : ∀ n rest, (quoted k ++ ':' :: ' ' :: (dump v ++ dumpEntries entries)).length ≤ n →
      readEntries n (quoted k ++ ':' :: ' ' :: (dump v ++ (dumpEntries entries ++ rest))) =
        some ((k, v) :: entries, rest)) :
    Reads (.obj ((k, v) :: entries)) := by
  intro n rest hn _
  rw [dump, List.length_cons] at hn
  obtain ⟨n, rfl⟩ := Nat.exists_eq_add_one.mpr (Nat.zero_lt_of_lt hn)
  have hentries := h n rest (Nat.le_of_succ_le_succ hn)
  have hquote : quoted k = '"' :: (k.toList.flatMap escape ++ ['"']) := rfl
  rw [hquote, List.cons_append] at hentries
  rw [dump, List.cons_append, List.append_assoc, List.cons_append, List.cons_append,
    List.append_assoc, hquote, List.cons_append, readValue, if_neg (by decide),
    if_neg (by decide), if_neg (by decide), if_neg (by decide), if_neg (by decide), if_pos rfl,
    skip_cons (by decide)]
  change (readEntries n _).map _ = _
  rw [hentries, Option.map_some, dictOf_eq hkeys]

lemma readItems_dumpItems {x : Json} {xs : List Json} (hx : Reads x)
    (hxs : ∀ y ys, xs = y :: ys → ∀ n rest, (dump y ++ dumpItems ys).length ≤ n →
      readItems n (dump y ++ (dumpItems ys ++ rest)) = some (y :: ys, rest))
    (n : Nat) (rest : List Char) (hn : (dump x ++ dumpItems xs).length ≤ n) :
    readItems n (dump x ++ (dumpItems xs ++ rest)) = some (x :: xs, rest) := by
  have hpos := length_dump_pos x
  rw [List.length_append] at hn
  obtain ⟨n, rfl⟩ := Nat.exists_eq_add_one.mpr (show 0 < n by omega)
  have htail : 1 ≤ (dumpItems xs).length := by
    cases xs <;> exact Nat.le_add_left 1 _
  rw [readItems, hx n _ (by omega) (ends_dumpItems xs rest)]
  simp only [Option.bind_eq_bind, Option.bind_some]
  cases xs with
  | nil =>
    rw [dumpItems, List.singleton_append, skip_cons (by decide)]
    rfl
  | cons y ys =>
    rw [dumpItems, List.length_cons, List.length_cons] at hn
    rw [dumpItems, List.cons_append, List.cons_append, List.append_assoc, skip_cons (by decide)]
    change (readItems n (skip _)).bind _ = _
    have hspace : skip (' ' :: (dump y ++ (dumpItems ys ++ rest))) =
        dump y ++ (dumpItems ys ++ rest) := skip_dump y _
    rw [hspace, hxs y ys rfl n rest (by omega)]
    rfl

lemma readEntries_dumpEntries {k : String} {v : Json} {entries : List (String × Json)}
    (hv : Reads v)
    (hentries : ∀ k' w rest', entries = (k', w) :: rest' → ∀ n rest,
      (quoted k' ++ ':' :: ' ' :: (dump w ++ dumpEntries rest')).length ≤ n →
      readEntries n (quoted k' ++ ':' :: ' ' :: (dump w ++ (dumpEntries rest' ++ rest))) =
        some ((k', w) :: rest', rest))
    (n : Nat) (rest : List Char)
    (hn : (quoted k ++ ':' :: ' ' :: (dump v ++ dumpEntries entries)).length ≤ n) :
    readEntries n (quoted k ++ ':' :: ' ' :: (dump v ++ (dumpEntries entries ++ rest))) =
      some ((k, v) :: entries, rest) := by
  rw [List.length_append, List.length_cons, List.length_cons, List.length_append] at hn
  obtain ⟨n, rfl⟩ := Nat.exists_eq_add_one.mpr (show 0 < n by omega)
  have htail : 1 ≤ (dumpEntries entries).length := by
    cases entries <;> exact Nat.le_add_left 1 _
  have hspace : skip (' ' :: (dump v ++ (dumpEntries entries ++ rest))) =
      dump v ++ (dumpEntries entries ++ rest) := skip_dump v _
  rw [readEntries, readString_quoted]
  simp only [Option.bind_eq_bind, Option.bind_some]
  rw [skip_cons (by decide)]
  change (readValue n (skip _)).bind _ = _
  rw [hspace, hv n _ (by omega) (ends_dumpEntries entries rest)]
  simp only [Option.bind_some]
  cases entries with
  | nil =>
    rw [dumpEntries, List.singleton_append, skip_cons (by decide)]
    rfl
  | cons entry entries =>
    obtain ⟨k', w⟩ := entry
    rw [dumpEntries, List.length_cons, List.length_cons] at hn
    rw [dumpEntries, List.cons_append, List.cons_append, List.append_assoc, skip_cons (by decide)]
    change (readEntries n (skip _)).bind _ = _
    have hquote : skip (' ' :: (quoted k' ++ (':' :: ' ' :: (dump w ++ dumpEntries entries) ++
        rest))) = quoted k' ++ ':' :: ' ' :: (dump w ++ (dumpEntries entries ++ rest)) := by
      rw [List.cons_append, List.cons_append, List.append_assoc]
      rfl
    rw [hquote, hentries k' w entries rfl n rest (by omega)]
    rfl

mutual

theorem reads_of_keyed : ∀ v, Keyed v → Reads v
  | .null, _ => by
    intro n rest hn _
    obtain ⟨n, rfl⟩ := Nat.exists_eq_add_one.mpr (Nat.lt_of_lt_of_le (by decide) hn)
    rfl
  | .bool b, _ => by
    intro n rest hn _
    obtain ⟨n, rfl⟩ := Nat.exists_eq_add_one.mpr
      (Nat.lt_of_lt_of_le (length_dump_pos (.bool b)) hn)
    cases b <;> rfl
  | .int i, _ => by
    intro n rest hn hrest
    obtain ⟨n, rfl⟩ := Nat.exists_eq_add_one.mpr
      (Nat.lt_of_lt_of_le (length_dump_pos (.int i)) hn)
    obtain ⟨c, ds, htext, hc⟩ := intText_eq_cons i
    have hread := readInt_intText i hrest
    rw [htext, List.cons_append] at hread
    rw [dump, htext, List.cons_append, readValue_number hc, hread, Option.map_some]
  | .str s, _ => by
    intro n rest hn _
    obtain ⟨n, rfl⟩ := Nat.exists_eq_add_one.mpr
      (Nat.lt_of_lt_of_le (length_dump_pos (.str s)) hn)
    have hread := readString_quoted s rest
    rw [dump, quoted, List.cons_append] at *
    rw [readValue, if_neg (by decide), if_neg (by decide), if_neg (by decide), if_pos rfl, hread,
      Option.map_some]
  | .arr [], _ => by
    intro n rest hn _
    obtain ⟨n, rfl⟩ := Nat.exists_eq_add_one.mpr (Nat.lt_of_lt_of_le (by decide) hn)
    rfl
  | .arr (x :: xs), h => reads_arr (readItems_of_keyed xs x (reads_of_keyed x h.1) h.2)
  | .obj [], _ => by
    intro n rest hn _
    obtain ⟨n, rfl⟩ := Nat.exists_eq_add_one.mpr (Nat.lt_of_lt_of_le (by decide) hn)
    rfl
  | .obj ((k, v) :: entries), h =>
    reads_obj h.1 (readEntries_of_keyed entries k v (reads_of_keyed v h.2.1) h.2.2)

theorem readItems_of_keyed : ∀ (xs : List Json) (x : Json), Reads x → KeyedItems xs →
    ∀ n rest, (dump x ++ dumpItems xs).length ≤ n →
      readItems n (dump x ++ (dumpItems xs ++ rest)) = some (x :: xs, rest)
  | [], _, hx, _ => readItems_dumpItems hx nofun
  | y :: ys, _, hx, h => by
    apply readItems_dumpItems hx
    rintro y' ys' ⟨⟩
    exact readItems_of_keyed ys y (reads_of_keyed y h.1) h.2

theorem readEntries_of_keyed : ∀ (entries : List (String × Json)) (k : String) (v : Json),
    Reads v → KeyedEntries entries →
    ∀ n rest, (quoted k ++ ':' :: ' ' :: (dump v ++ dumpEntries entries)).length ≤ n →
      readEntries n (quoted k ++ ':' :: ' ' :: (dump v ++ (dumpEntries entries ++ rest))) =
        some ((k, v) :: entries, rest)
  | [], _, _, hv, _ => readEntries_dumpEntries hv nofun
  | (k', w) :: entries, _, _, hv, h => by
    apply readEntries_dumpEntries hv
    rintro k'' w' rest' ⟨⟩
    exact readEntries_of_keyed entries k' w (reads_of_keyed w h.1) h.2

end

lemma keyedEntries_iff {entries : List (String × Json)} :
    KeyedEntries entries ↔ ∀ entry ∈ entries, Keyed entry.2 := by
  induction entries with
  | nil => exact iff_of_true trivial nofun
  | cons entry entries ih => rw [KeyedEntries, ih, List.forall_mem_cons]

lemma keys_sortEntries (entries : List (String × Json)) :
    (sortEntries entries).map Prod.fst = entries.map Prod.fst := by
  induction entries with
  | nil => rfl
  | cons entry entries ih => rw [sortEntries, List.map_cons, List.map_cons, ih]

mutual

lemma keyed_sortKeys : ∀ v, Keyed v → Keyed (sortKeys v)
  | .null, _ => trivial
  | .bool _, _ => trivial
  | .int _, _ => trivial
  | .str _, _ => trivial
  | .arr items, h => keyedItems_sortItems items h
  | .obj entries, h => by
    have hperm := List.perm_insertionSort (fun a b : String × Json => a.1 ≤ b.1)
      (sortEntries entries)
    constructor
    · rw [(hperm.map Prod.fst).nodup_iff, keys_sortEntries]
      exact h.1
    · rw [keyedEntries_iff]
      intro entry hentry
      exact keyedEntries_iff.mp (keyedEntries_sortEntries entries h.2) entry
        (hperm.mem_iff.mp hentry)

lemma keyedItems_sortItems : ∀ items, KeyedItems items → KeyedItems (sortItems items)
  | [], _ => trivial
  | x :: xs, h => ⟨keyed_sortKeys x h.1, keyedItems_sortItems xs h.2⟩

lemma keyedEntries_sortEntries : ∀ entries, KeyedEntries entries →
    KeyedEntries (sortEntries entries)
  | [], _ => trivial
  | (_, v) :: entries, h => ⟨keyed_sortKeys v h.1, keyedEntries_sortEntries entries h.2⟩

end

theorem loads_dumps {v : Json} (h : Keyed v) : loads (dumps v) = some (sortKeys v) := by
  have hread := reads_of_keyed (sortKeys v) (keyed_sortKeys v h) _ [] (Nat.le_refl _) ends_nil
  have hskip := skip_dump (sortKeys v) []
  rw [List.append_nil] at hread hskip
  rw [loads, dumps, String.toList_ofList, hskip, hread]
  rfl

lemma lookup_sortEntries (entries : List (String × Json)) (k : String) :
    (sortEntries entries).lookup k = (entries.lookup k).map sortKeys := by
  induction entries with
  | nil => rfl
  | cons entry entries ih =>
    rw [sortEntries, List.lookup_cons, List.lookup_cons, ih]
    cases k == entry.1 <;> rfl

end JsonText
