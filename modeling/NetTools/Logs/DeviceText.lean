import NetTools.Library.Trimming
import NetTools.Logs.Timestamps
import NetTools.Python.UtcTime

/-!
# The text of a date without a year

What a device prints for a date is read back as that date.
-/

namespace NetTools

open Calendar

def dayText (aligned : Bool) (day : Nat) : List Char :=
  if day < 10 then (if aligned then [' '] else []) ++ padded 1 day else padded 2 day

def clockText (t : Stamp) : List Char :=
  padded 2 t.hour ++ ':' :: (padded 2 t.minute ++ ':' :: (padded 2 t.second ++ '.' ::
    (padded 3 t.milli ++ [' ', 'U', 'T', 'C'])))

/-- `Aug 16 07:41:54.688 UTC`. -/
def deviceText (aligned : Bool) (t : Stamp) : String :=
  String.ofList ((monthNames.getD (t.month - 1) "").toList ++ ' ' ::
    (dayText aligned t.day ++ ' ' :: clockText t))

def DigitTable.ReadsAscii (digits : DigitTable) : Prop :=
  ∀ c : Char, c.toNat < 128 → digits.value c = DigitTable.ascii.value c

lemma readsAscii_ascii : DigitTable.ascii.ReadsAscii := fun _ _ => rfl

section

variable {digits : DigitTable} (hascii : digits.ReadsAscii)

include hascii

lemma value_digitChar {n : Nat} (h : n < 10) : digits.value (Nat.digitChar n) = some n := by
  have hall : ∀ n < 10, (Nat.digitChar n).toNat < 128 ∧
      DigitTable.ascii.value (Nat.digitChar n) = some n := by decide
  rw [hascii _ (hall n h).1, (hall n h).2]

lemma value_of_mem_padded {width n : Nat} {c : Char} (h : c ∈ padded width n) :
    (digits.value c).isSome = true := by
  induction width generalizing n with
  | zero => cases h
  | succ width ih =>
    rw [padded, List.mem_append, List.mem_singleton] at h
    rcases h with h | rfl
    · exact ih h
    · rw [value_digitChar hascii (Nat.mod_lt _ (by decide))]
      rfl

lemma foldl_padded {width n : Nat} (h : n < 10 ^ width) :
    (padded width n).foldl (fun n c => 10 * n + (digits.value c).getD 0) 0 = n := by
  induction width generalizing n with
  | zero =>
    rw [pow_zero, Nat.lt_one_iff] at h
    rw [h]
    rfl
  | succ width ih =>
    rw [pow_succ] at h
    rw [padded, List.foldl_append, ih (by omega), List.foldl_cons, List.foldl_nil,
      value_digitChar hascii (Nat.mod_lt _ (by decide)), Option.getD_some]
    omega

lemma read_padded {least most width n : Nat} {rest : List Char} (hleast : least ≤ width)
    (hmost : width ≤ most) (hn : n < 10 ^ width)
    (hrest : width = most ∨ ∃ c, rest.head? = some c ∧ digits.value c = none) :
    digits.read least most (padded width n ++ rest) = some (n, rest) := by
  have hall : ∀ c ∈ padded width n, (digits.value c).isSome = true :=
    fun c hc => value_of_mem_padded hascii hc
  have htoken : ((padded width n ++ rest).take most).takeWhile
      (fun c => (digits.value c).isSome) = padded width n := by
    have hwhole : (padded width n).take most = padded width n :=
      List.take_of_length_le ((length_padded width n).trans_le hmost)
    rw [List.take_append, length_padded, hwhole, List.takeWhile_append_of_pos hall]
    rcases hrest with hwidth | ⟨c, hc, hvalue⟩
    · rw [hwidth, Nat.sub_self, List.take_zero, List.takeWhile_nil, List.append_nil]
    · cases rest with
      | nil => cases hc
      | cons d rest =>
        cases hc
        cases most - width with
        | zero => rw [List.take_zero, List.takeWhile_nil, List.append_nil]
        | succ k =>
          rw [List.take_succ_cons, List.takeWhile_cons, hvalue]
          simp
  unfold DigitTable.read
  dsimp only
  rw [htoken, length_padded, if_neg (not_lt.mpr hleast), foldl_padded hascii hn,
    List.drop_left' (length_padded width n)]

lemma value_of_separator {c : Char} (h : c = ' ' ∨ c = ':' ∨ c = '.') : digits.value c = none := by
  have hall : ∀ c ∈ [' ', ':', '.'], c.toNat < 128 ∧ DigitTable.ascii.value c = none :=
    List.forall_iff_forall_mem.mp (by decide)
  obtain ⟨hlt, hnone⟩ := hall c (by simpa using h)
  rw [hascii c hlt, hnone]

end

lemma skipSome_blanks (blanks : List Char) {rest : List Char} (hne : blanks ≠ [])
    (hblanks : ∀ c ∈ blanks, isSpaceChar c = true) {d : Char} (hd : isSpaceChar d = false) :
    skipSome isSpaceChar (blanks ++ d :: rest) = some (d :: rest) := by
  have htoken : (blanks ++ d :: rest).takeWhile isSpaceChar = blanks := by
    rw [List.takeWhile_append_of_pos hblanks, List.takeWhile_cons, hd]
    simp
  have hrest : (blanks ++ d :: rest).dropWhile isSpaceChar = d :: rest := by
    rw [List.dropWhile_append_of_pos hblanks, List.dropWhile_cons, hd]
    simp
  unfold skipSome takeSome
  dsimp only
  rw [htoken, hrest, if_neg hne]
  rfl

lemma isSpaceChar_digitChar {n : Nat} (h : n < 10) : isSpaceChar (Nat.digitChar n) = false := by
  have hall : ∀ n < 10, isSpaceChar (Nat.digitChar n) = false := by decide
  exact hall n h

lemma monthNames_spec {m : Nat} (h : 1 ≤ m) (h' : m ≤ 12) :
    ∃ a b c, (monthNames.getD (m - 1) "").toList = [a, b, c] ∧ [a, b, c].all Char.isAlpha = true ∧
      monthNumber (String.ofList [a, b, c]) = some m ∧ isSpaceChar a = false := by
  have hall : ∀ k < 12, ∃ a b c, (monthNames.getD k "").toList = [a, b, c] ∧
      [a, b, c].all Char.isAlpha = true ∧ monthNumber (String.ofList [a, b, c]) = some (k + 1) ∧
        isSpaceChar a = false := by
    intro k hk
    interval_cases k <;> exact ⟨_, _, _, rfl, by decide, by decide, by decide⟩
  obtain ⟨a, b, c, hname, halpha, hnumber, hspace⟩ := hall (m - 1) (by omega)
  rw [Nat.sub_add_cancel h] at hnumber
  exact ⟨a, b, c, hname, halpha, hnumber, hspace⟩

section

variable {digits : DigitTable} (hascii : digits.ReadsAscii) {t : Stamp} {leap : Bool}

include hascii

lemma read_dayText (aligned : Bool) {day : Nat} (hlt : day < 100) (rest : List Char) :
    ∃ cs, skipSome isSpaceChar (' ' :: (dayText aligned day ++ ' ' :: rest)) = some cs ∧
      digits.read 1 2 cs = some (day, ' ' :: rest) := by
  have hblank : ∃ c, (' ' :: rest).head? = some c ∧ digits.value c = none :=
    ⟨' ', rfl, value_of_separator hascii (.inl rfl)⟩
  unfold dayText
  by_cases hday : day < 10
  · have hread : digits.read 1 2 (padded 1 day ++ ' ' :: rest) = some (day, ' ' :: rest) :=
      read_padded hascii (le_refl 1) (by norm_num) (by omega) (.inr hblank)
    refine ⟨padded 1 day ++ ' ' :: rest, ?_, hread⟩
    have hdigit : isSpaceChar (Nat.digitChar (day % 10)) = false :=
      isSpaceChar_digitChar (Nat.mod_lt _ (by decide))
    rw [if_pos hday]
    cases aligned with
    | true =>
      exact skipSome_blanks [' ', ' '] (List.cons_ne_nil _ _) (List.forall_iff_forall_mem.mp (by decide)) hdigit
    | false =>
      exact skipSome_blanks [' '] (List.cons_ne_nil _ _) (List.forall_iff_forall_mem.mp (by decide)) hdigit
  · have hread : digits.read 1 2 (padded 2 day ++ ' ' :: rest) = some (day, ' ' :: rest) :=
      read_padded hascii (by norm_num) (le_refl 2) (by omega) (.inl rfl)
    refine ⟨padded 2 day ++ ' ' :: rest, ?_, hread⟩
    have hdigit : isSpaceChar (Nat.digitChar (day / 10 % 10)) = false :=
      isSpaceChar_digitChar (Nat.mod_lt _ (by decide))
    rw [if_neg hday]
    exact skipSome_blanks [' '] (List.cons_ne_nil _ _) (List.forall_iff_forall_mem.mp (by decide)) hdigit

omit hascii in
lemma pyStrip_deviceText (aligned : Bool) (h : t.onCalendar leap = true) :
    pyStrip (deviceText aligned t) = deviceText aligned t := by
  obtain ⟨hmonth, hmonth', -⟩ := Stamp.onCalendar_iff.mp h
  obtain ⟨a, b, c, hname, -, -, hspace⟩ := monthNames_spec hmonth hmonth'
  obtain ⟨front, hfront⟩ : ∃ front, clockText t = front ++ ['C'] :=
    ⟨padded 2 t.hour ++ ':' :: (padded 2 t.minute ++ ':' :: (padded 2 t.second ++ '.' ::
      (padded 3 t.milli ++ [' ', 'U', 'T']))), by simp [clockText]⟩
  have htext : (deviceText aligned t).toList =
      (a :: b :: c :: ' ' :: (dayText aligned t.day ++ ' ' :: front)) ++ ['C'] := by
    unfold deviceText
    rw [hname, hfront, String.toList_ofList]
    simp
  have htrimmed : Trimming.Trimmed isSpaceChar (deviceText aligned t).toList := by
    rw [htext]
    constructor
    · intro d hd
      cases hd
      exact hspace
    · intro d hd
      rw [List.getLast?_concat] at hd
      cases hd
      decide
  have hstrip : (pyStrip (deviceText aligned t)).toList =
      Trimming.trim isSpaceChar (deviceText aligned t).toList := String.toList_ofList
  apply String.toList_inj.mp
  rw [hstrip, Trimming.trim_eq_self htrimmed]

lemma read_field {width n : Nat} (hn : n < 10 ^ width) (rest : List Char) :
    digits.read width width (padded width n ++ rest) = some (n, rest) :=
  read_padded hascii (le_refl width) (le_refl width) hn (.inl rfl)

theorem parseDeviceTimestamp_deviceText (aligned : Bool) (h : t.onCalendar leap = true) :
    parseDeviceTimestamp digits (deviceText aligned t) = some t := by
  obtain ⟨hmonth, hmonth', -, hday, hhour, hminute, hsecond, hmilli⟩ :=
    Stamp.onCalendar_iff.mp h
  have hday31 : t.day < 100 := by
    have hle : daysInMonth leap t.month ≤ 31 := by
      unfold daysInMonth
      split
      · split <;> norm_num
      · split <;> norm_num
    omega
  obtain ⟨a, b, c, hname, halpha, hnumber, -⟩ := monthNames_spec hmonth hmonth'
  obtain ⟨cs, hskip, hread⟩ := read_dayText hascii aligned hday31 (clockText t)
  have hclock : skipSome isSpaceChar (' ' :: clockText t) = some (clockText t) :=
    skipSome_blanks [' '] (List.cons_ne_nil _ _) (List.forall_iff_forall_mem.mp (by decide))
      (isSpaceChar_digitChar (Nat.mod_lt _ (by decide)))
  have hzone : skipSome isSpaceChar [' ', 'U', 'T', 'C'] = some ['U', 'T', 'C'] := by decide
  have hmatch : matchDeviceTimestamp digits (deviceText aligned t).toList =
      some (String.ofList [a, b, c], ⟨0, t.day, t.hour, t.minute, t.second, t.milli⟩) := by
    unfold deviceText
    rw [hname, String.toList_ofList]
    change matchDeviceTimestamp digits
      (a :: b :: c :: ' ' :: (dayText aligned t.day ++ ' ' :: clockText t)) = _
    unfold matchDeviceTimestamp
    rw [List.take_succ_cons, List.take_succ_cons, List.take_succ_cons, List.take_zero,
      List.drop_succ_cons, List.drop_succ_cons, List.drop_succ_cons, List.drop_zero]
    simp only [halpha, List.length_cons, List.length_nil, guard, and_self, if_true,
      Option.pure_def, Option.bind_eq_bind, Option.bind_some]
    rw [hskip, Option.bind_some, hread, Option.bind_some, hclock, Option.bind_some]
    unfold clockText
    simp only [read_field hascii (show t.hour < 10 ^ 2 by omega), Option.bind_some, skipText,
      if_true, read_field hascii (show t.minute < 10 ^ 2 by omega),
      read_field hascii (show t.second < 10 ^ 2 by omega),
      read_field hascii (show t.milli < 10 ^ 3 by omega), hzone]
    rfl
  unfold parseDeviceTimestamp
  rw [pyStrip_deviceText aligned h, hmatch]
  simp only [Option.bind_eq_bind, Option.bind_some, hnumber, Option.pure_def]

example : parseDeviceTimestamp DigitTable.ascii "Aug 16 07:41:54.688 UTC" =
    some ⟨8, 16, 7, 41, 54, 688⟩ := by decide +kernel

end

end NetTools
