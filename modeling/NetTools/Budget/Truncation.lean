import Mathlib.Data.List.Basic
import Mathlib.Data.Nat.Basic
import Mathlib.Data.String.Basic

/-!
# The truncation of one section

`_truncate_middle` and `_truncate_with_disclosure`: a text that is over its budget loses its middle,
and what replaces it says how much is gone. The omission is the least one that leaves room for its
own marker and its own disclosure.
-/

namespace NetTools

namespace EvidenceBudget

def MARKER_RESERVE : Nat := 48

def MIN_KEEP : Nat := 20

def budgetDisclosure (omittedChars : Nat) : String :=
  "\x7b\"budget_truncated_chars\":" ++ toString omittedChars ++ "\x7d"

def truncationMarker (omitted : Nat) : String :=
  "[TRUNCATED: " ++ toString omitted ++ " characters omitted]"

/-- `text[:head_len]`. -/
def headOf (text : String) (headLen : Nat) : String := String.ofList (text.toList.take headLen)

/-- `text[len(text) - tail_len:]`, and nothing for no tail. -/
def tailOf (text : String) (tailLen : Nat) : String :=
  if tailLen = 0 then "" else String.ofList (text.toList.drop (text.length - tailLen))

def framed (head marker tail : String) : String :=
  if tail = "" then head ++ "\n" ++ marker else head ++ "\n" ++ marker ++ "\n" ++ tail

def shrink (text : String) (budget headLen tailLen : Nat) : String × Nat :=
  let omitted := text.length - headLen - tailLen
  let result := framed (headOf text headLen) (truncationMarker omitted) (tailOf text tailLen)
  if result.length ≤ budget ∨ headLen = 0 ∧ tailLen = 0 then (result, omitted)
  else if 0 < tailLen then shrink text budget headLen (tailLen - 1)
  else shrink text budget (headLen - 1) tailLen
termination_by headLen + tailLen
decreasing_by all_goals omega

def keepOf (budget : Nat) : Nat := max (budget - MARKER_RESERVE) MIN_KEEP

/-- Called on texts that are longer than `MIN_KEEP` only. -/
def truncateMiddle (text : String) (budget : Nat) : String × Nat :=
  if budget = 0 ∨ text.length ≤ budget then (text, 0)
  else
    let keep := keepOf budget
    shrink text budget (keep - keep / 2) (keep / 2)

def settle (text : String) (budget : Nat) : Nat → String → Nat → String × Nat
  | 0, truncated, omitted => (truncated ++ "\n" ++ budgetDisclosure omitted, omitted)
  | rounds + 1, _, omitted =>
    let contentBudget := budget - (budgetDisclosure omitted).length - 1
    let (truncated, nextOmitted) := truncateMiddle text contentBudget
    if nextOmitted = omitted then (truncated ++ "\n" ++ budgetDisclosure omitted, omitted)
    else settle text budget rounds truncated nextOmitted

def truncateWithDisclosure (text : String) (budget : Nat) : String × Nat :=
  if budget = 0 ∨ text.length ≤ budget then (text, 0)
  else
    let fullOmission := budgetDisclosure text.length
    let minimumMarker := truncationMarker 0
    if budget < fullOmission.length + minimumMarker.length + MIN_KEEP + 2 then
      (fullOmission, text.length)
    else settle text budget 8 "" 0

def decimals (n : Nat) : Nat := (toString n).length

lemma decimals_eq (n : Nat) : decimals n = (Nat.toDigits 10 n).length := by
  rw [decimals, ← String.length_toList]
  exact congrArg List.length Nat.toList_repr

lemma decimals_pos (n : Nat) : 0 < decimals n := by
  rw [decimals_eq]
  exact Nat.length_toDigits_pos

lemma decimals_le_iff {n k : Nat} (h : 0 < k) : decimals n ≤ k ↔ n < 10 ^ k := by
  rw [decimals_eq]
  exact Nat.length_toDigits_le_iff (by decide) h

lemma lt_pow_decimals (n : Nat) : n < 10 ^ decimals n :=
  (decimals_le_iff (decimals_pos n)).mp le_rfl

lemma decimals_mono {m n : Nat} (h : m ≤ n) : decimals m ≤ decimals n :=
  (decimals_le_iff (decimals_pos n)).mpr (lt_of_le_of_lt h (lt_pow_decimals n))

lemma decimals_le_succ {m n : Nat} (h : m ≤ 10 * n) : decimals m ≤ decimals n + 1 := by
  rw [decimals_le_iff (Nat.succ_pos _), pow_succ]
  have hlt := lt_pow_decimals n
  omega

lemma length_budgetDisclosure (n : Nat) : (budgetDisclosure n).length = 27 + decimals n := by
  have hopen : "\x7b\"budget_truncated_chars\":".length = 26 := rfl
  have hclose : "\x7d".length = 1 := rfl
  unfold budgetDisclosure decimals
  rw [String.length_append, String.length_append, hopen, hclose]
  omega

lemma length_truncationMarker (n : Nat) : (truncationMarker n).length = 32 + decimals n := by
  have hopen : "[TRUNCATED: ".length = 12 := rfl
  have hclose : " characters omitted]".length = 20 := rfl
  unfold truncationMarker decimals
  rw [String.length_append, String.length_append, hopen, hclose]
  omega

lemma length_headOf {text : String} {headLen : Nat} (h : headLen ≤ text.length) :
    (headOf text headLen).length = headLen := by
  rw [headOf, String.length_ofList, List.length_take, String.length_toList]
  exact Nat.min_eq_left h

lemma length_tailOf {text : String} {tailLen : Nat} (h : tailLen ≤ text.length) :
    (tailOf text tailLen).length = tailLen := by
  rw [tailOf]
  by_cases hzero : tailLen = 0
  · rw [if_pos hzero, hzero]
    rfl
  · rw [if_neg hzero, String.length_ofList, List.length_drop, String.length_toList]
    omega

lemma tailOf_eq_empty_iff {text : String} {tailLen : Nat} (h : tailLen ≤ text.length) :
    tailOf text tailLen = "" ↔ tailLen = 0 := by
  constructor
  · intro hempty
    rw [← length_tailOf h, hempty]
    rfl
  · intro hzero
    rw [tailOf, if_pos hzero]

/-- The length of two ends of `n` characters, with the marker between them. -/
def framedLength (n headLen tailLen : Nat) : Nat :=
  headLen + tailLen + (if tailLen = 0 then 33 else 34) + decimals (n - headLen - tailLen)

lemma length_framed {text : String} {headLen tailLen : Nat} (h : headLen + tailLen ≤ text.length) :
    (framed (headOf text headLen) (truncationMarker (text.length - headLen - tailLen))
      (tailOf text tailLen)).length = framedLength text.length headLen tailLen := by
  have hhead := length_headOf (show headLen ≤ text.length by omega)
  have htail := length_tailOf (show tailLen ≤ text.length by omega)
  have hmarker := length_truncationMarker (text.length - headLen - tailLen)
  have hbreak : "\n".length = 1 := rfl
  rw [framed, framedLength]
  by_cases hzero : tailLen = 0
  · rw [if_pos ((tailOf_eq_empty_iff (by omega)).mpr hzero), if_pos hzero]
    rw [String.length_append, String.length_append, hhead, hbreak, hmarker]
    omega
  · rw [if_neg (fun hempty => hzero ((tailOf_eq_empty_iff (by omega)).mp hempty)), if_neg hzero]
    rw [String.length_append, String.length_append, String.length_append, String.length_append,
      hhead, hbreak, hmarker, htail]
    omega

def headCap (budget : Nat) : Nat := keepOf budget - keepOf budget / 2

/-- The text that keeps `kept` characters, and what it omits. -/
def keeping (text : String) (cap kept : Nat) : String × Nat :=
  (framed (headOf text (min kept cap)) (truncationMarker (text.length - kept))
    (tailOf text (kept - cap)), text.length - kept)

def keptLength (n cap kept : Nat) : Nat := framedLength n (min kept cap) (kept - cap)

lemma length_keeping {text : String} {cap kept : Nat} (h : kept ≤ text.length) :
    (keeping text cap kept).1.length = keptLength text.length cap kept := by
  have hsum : min kept cap + (kept - cap) = kept := by omega
  have hframed := length_framed (show min kept cap + (kept - cap) ≤ text.length by omega)
  rw [Nat.sub_sub, hsum] at hframed
  exact hframed

lemma keptLength_eq (n cap kept : Nat) :
    keptLength n cap kept = kept + (if kept ≤ cap then 33 else 34) + decimals (n - kept) := by
  have hsum : min kept cap + (kept - cap) = kept := by omega
  have hzero : (kept - cap = 0) = (kept ≤ cap) := by
    rw [eq_iff_iff]
    omega
  rw [keptLength, framedLength, Nat.sub_sub, hsum, if_congr (iff_of_eq hzero) rfl rfl]

lemma shrink_spec (text : String) (budget cap : Nat) :
    ∀ kept ≤ text.length, ∃ left ≤ kept,
      shrink text budget (min kept cap) (kept - cap) = keeping text cap left ∧
        (keptLength text.length cap left ≤ budget ∨ left = 0) ∧
          ∀ more, left < more → more ≤ kept → budget < keptLength text.length cap more := by
  intro kept
  induction kept with
  | zero =>
    intro _
    refine ⟨0, le_rfl, ?_, .inr rfl, fun more hmore hle => by omega⟩
    rw [shrink]
    simp [keeping]
  | succ kept ih =>
    intro hle
    have hstep : shrink text budget (min (kept + 1) cap) (kept + 1 - cap) =
        if (keeping text cap (kept + 1)).1.length ≤ budget then keeping text cap (kept + 1)
        else shrink text budget (min kept cap) (kept - cap) := by
      have hsum : min (kept + 1) cap + (kept + 1 - cap) = kept + 1 := by omega
      have hsome : ¬(min (kept + 1) cap = 0 ∧ kept + 1 - cap = 0) := by omega
      rw [shrink, Nat.sub_sub, hsum]
      by_cases hfits : (keeping text cap (kept + 1)).1.length ≤ budget
      · rw [if_pos hfits]
        exact if_pos (.inl hfits)
      · rw [if_neg hfits]
        have hstop : ¬((keeping text cap (kept + 1)).1.length ≤ budget ∨
            min (kept + 1) cap = 0 ∧ kept + 1 - cap = 0) := by
          rintro (h | h)
          · exact hfits h
          · exact hsome h
        refine Eq.trans (if_neg hstop) ?_
        by_cases htail : 0 < kept + 1 - cap
        · have hhead : min (kept + 1) cap = min kept cap := by omega
          have hless : kept + 1 - cap - 1 = kept - cap := by omega
          rw [if_pos htail, hhead, hless]
        · have hhead : min (kept + 1) cap - 1 = min kept cap := by omega
          have hless : kept + 1 - cap = kept - cap := by omega
          rw [if_neg htail, hhead, hless]
    rw [hstep, length_keeping hle]
    by_cases hfits : keptLength text.length cap (kept + 1) ≤ budget
    · rw [if_pos hfits]
      exact ⟨kept + 1, le_rfl, rfl, .inl hfits, fun more hmore hle => by omega⟩
    · rw [if_neg hfits]
      obtain ⟨left, hleft, hresult, hstopped, hlonger⟩ := ih (by omega)
      refine ⟨left, by omega, hresult, hstopped, fun more hmore hle => ?_⟩
      by_cases hlast : more = kept + 1
      · rw [hlast]
        exact Nat.lt_of_not_le hfits
      · exact hlonger more hmore (by omega)

def Room (n budget omitted : Nat) : Prop :=
  omitted ≤ n ∧ n - omitted ≤ keepOf budget ∧
    keptLength n (headCap budget) (n - omitted) ≤ budget

instance (n budget omitted : Nat) : Decidable (Room n budget omitted) :=
  inferInstanceAs (Decidable (_ ∧ _ ∧ _))

lemma keepOf_mono {budget more : Nat} (h : budget ≤ more) : keepOf budget ≤ keepOf more :=
  max_le_max_right _ (Nat.sub_le_sub_right h _)

lemma Room.mono {n budget more omitted : Nat} (h : Room n budget omitted)
    (hmore : budget ≤ more) : Room n more omitted := by
  obtain ⟨hle, hkeep, hlength⟩ := h
  have hkeepOf := keepOf_mono hmore
  refine ⟨hle, hkeep.trans hkeepOf, ?_⟩
  rw [keptLength_eq] at hlength ⊢
  have hcap : headCap budget ≤ headCap more := by
    rw [headCap, headCap]
    omega
  split at hlength
  · rw [if_pos (by omega)]
    omega
  · split
    · omega
    · omega

lemma truncateMiddle_spec {text : String} {budget : Nat} (hbudget : budget < text.length)
    (hkeep : keepOf budget ≤ text.length) (hpos : budget ≠ 0)
    (hroom : ∃ omitted, Room text.length budget omitted) :
    ∃ omitted, truncateMiddle text budget =
        keeping text (headCap budget) (text.length - omitted) ∧
      (truncateMiddle text budget).2 = omitted ∧ Room text.length budget omitted ∧
        ∀ other, Room text.length budget other → omitted ≤ other := by
  have hstart : min (keepOf budget) (headCap budget) = keepOf budget - keepOf budget / 2 := by
    rw [headCap]
    omega
  have hrest : keepOf budget - headCap budget = keepOf budget / 2 := by
    rw [headCap]
    omega
  obtain ⟨left, hleft, hresult, hstopped, hlonger⟩ :=
    shrink_spec text budget (headCap budget) (keepOf budget) hkeep
  rw [hstart, hrest] at hresult
  have hover : ¬(budget = 0 ∨ text.length ≤ budget) := by omega
  have hmiddle : truncateMiddle text budget = keeping text (headCap budget) left := by
    rw [truncateMiddle, if_neg hover]
    exact hresult
  have hback : text.length - (text.length - left) = left := by omega
  have hleast : ∀ other, Room text.length budget other → text.length - left ≤ other := by
    rintro other ⟨hle, hkept, hlength⟩
    by_contra hless
    have hover := hlonger (text.length - other) (by omega) hkept
    omega
  refine ⟨text.length - left, ?_, ?_, ?_, hleast⟩
  · rw [hback, hmiddle]
  · rw [hmiddle]
    rfl
  · refine ⟨Nat.sub_le _ _, by omega, ?_⟩
    rw [hback]
    rcases hstopped with hfits | hzero
    · exact hfits
    · obtain ⟨other, hother⟩ := hroom
      have hall := hleast other hother
      have heq : text.length - other = left := by omega
      rw [← heq]
      exact hother.2.2

/-! ### The disclosure -/

def besideDisclosure (budget omitted : Nat) : Nat := budget - (27 + decimals omitted) - 1

/-- An omission that leaves room for its marker and its disclosure. -/
def Fits (n budget omitted : Nat) : Prop := Room n (besideDisclosure budget omitted) omitted

instance (n budget omitted : Nat) : Decidable (Fits n budget omitted) :=
  inferInstanceAs (Decidable (Room _ _ _))

def LeastFit (n budget omitted : Nat) : Prop :=
  Fits n budget omitted ∧ ∀ other, Fits n budget other → omitted ≤ other

def disclosed (text : String) (budget omitted : Nat) : String :=
  (keeping text (headCap (besideDisclosure budget omitted)) (text.length - omitted)).1 ++ "\n" ++
    budgetDisclosure omitted

section Settle

variable {text : String} {budget : Nat}

structure Cuttable (text : String) (budget : Nat) : Prop where
  long : budget < text.length
  frame : 82 + decimals text.length ≤ budget
  size : decimals text.length ≤ 19

def ampleOmission (text : String) (budget : Nat) : Nat :=
  text.length - (budget - 82 - decimals text.length)

lemma fits_ampleOmission (h : Cuttable text budget) :
    Fits text.length budget (ampleOmission text budget) := by
  obtain ⟨hover, hframe, hsize⟩ := h
  have hle : ampleOmission text budget ≤ text.length := Nat.sub_le _ _
  have hmono := decimals_mono hle
  have hback : text.length - ampleOmission text budget = budget - 82 - decimals text.length := by
    rw [ampleOmission]
    omega
  refine ⟨hle, ?_, ?_⟩
  · rw [hback, keepOf, besideDisclosure, MARKER_RESERVE]
    omega
  · rw [keptLength_eq, hback]
    have hagain : text.length - (budget - 82 - decimals text.length) =
        ampleOmission text budget := rfl
    rw [hagain, besideDisclosure]
    split
    · omega
    · omega

def nextOmitted (text : String) (budget omitted : Nat) : Nat :=
  (truncateMiddle text (besideDisclosure budget omitted)).2

lemma round_spec (h : Cuttable text budget) {omitted : Nat}
    (hle : omitted ≤ ampleOmission text budget) :
    truncateMiddle text (besideDisclosure budget omitted) =
        keeping text (headCap (besideDisclosure budget omitted))
          (text.length - nextOmitted text budget omitted) ∧
      Room text.length (besideDisclosure budget omitted) (nextOmitted text budget omitted) ∧
        ∀ other, Room text.length (besideDisclosure budget omitted) other →
          nextOmitted text budget omitted ≤ other := by
  have hmono := decimals_mono hle
  have hfit := fits_ampleOmission h
  obtain ⟨hover, hframe, hsize⟩ := h
  have hmono' := decimals_mono (Nat.sub_le text.length (budget - 82 - decimals text.length))
  rw [← ampleOmission] at hmono'
  have hroom : Room text.length (besideDisclosure budget omitted) (ampleOmission text budget) := by
    refine hfit.mono ?_
    rw [besideDisclosure, besideDisclosure]
    omega
  have hbeside : besideDisclosure budget omitted + 28 + decimals omitted = budget := by
    rw [besideDisclosure]
    omega
  have hkeep : keepOf (besideDisclosure budget omitted) ≤ text.length := by
    rw [keepOf, MARKER_RESERVE, MIN_KEEP]
    omega
  obtain ⟨next, hmiddle, hnext, hroom, hleast⟩ :=
    truncateMiddle_spec (by omega) hkeep (by omega) ⟨_, hroom⟩
  rw [nextOmitted, hnext]
  exact ⟨hmiddle, hroom, hleast⟩

lemma nextOmitted_le (h : Cuttable text budget) {omitted other : Nat}
    (hfit : Fits text.length budget other) (hle : omitted ≤ other)
    (hample : omitted ≤ ampleOmission text budget) : nextOmitted text budget omitted ≤ other := by
  have hmono := decimals_mono hle
  refine (round_spec h hample).2.2 other (hfit.mono ?_)
  rw [besideDisclosure, besideDisclosure]
  omega

lemma nextOmitted_mono (h : Cuttable text budget) {omitted other : Nat} (hle : omitted ≤ other)
    (hample : other ≤ ampleOmission text budget) :
    nextOmitted text budget omitted ≤ nextOmitted text budget other := by
  have hmono := decimals_mono hle
  refine (round_spec h (hle.trans hample)).2.2 _ ((round_spec h hample).2.1.mono ?_)
  rw [besideDisclosure, besideDisclosure]
  omega

lemma settle_succ (rounds : Nat) (truncated : String) (omitted : Nat) :
    settle text budget (rounds + 1) truncated omitted =
      if nextOmitted text budget omitted = omitted then
        ((truncateMiddle text (besideDisclosure budget omitted)).1 ++ "\n" ++
          budgetDisclosure omitted, omitted)
      else settle text budget rounds (truncateMiddle text (besideDisclosure budget omitted)).1
        (nextOmitted text budget omitted) := by
  rw [settle, length_budgetDisclosure, ← besideDisclosure, nextOmitted]

lemma settle_of_fixed (h : Cuttable text budget) {omitted : Nat} (rounds : Nat)
    (truncated : String) (hample : omitted ≤ ampleOmission text budget)
    (hfixed : nextOmitted text budget omitted = omitted) :
    settle text budget (rounds + 1) truncated omitted = (disclosed text budget omitted, omitted) ∧
      Fits text.length budget omitted := by
  obtain ⟨hmiddle, hroom, -⟩ := round_spec h hample
  rw [hfixed] at hmiddle hroom
  constructor
  · rw [settle_succ, if_pos hfixed, hmiddle]
    rfl
  · exact hroom

lemma settle_round (h : Cuttable text budget) {omitted : Nat} (rounds : Nat) (truncated : String)
    (hnext : omitted ≤ nextOmitted text budget omitted)
    (hbelow : ∀ other, Fits text.length budget other → omitted ≤ other) :
    (∃ least, settle text budget (rounds + 2) truncated omitted =
        (disclosed text budget least, least) ∧ LeastFit text.length budget least) ∨
      decimals omitted < decimals (nextOmitted text budget omitted) ∧
        ∃ truncated', settle text budget (rounds + 2) truncated omitted =
          settle text budget (rounds + 1) truncated' (nextOmitted text budget omitted) := by
  have hample := hbelow _ (fits_ampleOmission h)
  by_cases hfixed : nextOmitted text budget omitted = omitted
  · obtain ⟨hsettled, hfits⟩ := settle_of_fixed h (rounds + 1) truncated hample hfixed
    exact .inl ⟨omitted, hsettled, hfits, hbelow⟩
  · have hgo : settle text budget (rounds + 2) truncated omitted = _ :=
      settle_succ (rounds + 1) truncated omitted
    rw [if_neg hfixed] at hgo
    by_cases hlength : decimals (nextOmitted text budget omitted) = decimals omitted
    · -- the next round has the same room, so it finds the same omission
      have hagain : nextOmitted text budget (nextOmitted text budget omitted) =
          nextOmitted text budget omitted := by
        rw [nextOmitted, besideDisclosure, hlength]
        rfl
      have hnextBelow : ∀ other, Fits text.length budget other →
          nextOmitted text budget omitted ≤ other := fun other hother =>
        nextOmitted_le h hother (hbelow other hother) hample
      obtain ⟨hsettled, hfits⟩ := settle_of_fixed h rounds
        (truncateMiddle text (besideDisclosure budget omitted)).1
        (hnextBelow _ (fits_ampleOmission h)) hagain
      rw [hsettled] at hgo
      exact .inl ⟨_, hgo, hfits, hnextBelow⟩
    · have hmono := decimals_mono hnext
      exact .inr ⟨by omega, _, hgo⟩

lemma settle_spec (h : Cuttable text budget) (growth : Nat) :
    ∀ rounds truncated omitted, growth + 2 ≤ rounds →
      decimals (ampleOmission text budget) ≤ decimals omitted + growth →
        omitted ≤ nextOmitted text budget omitted →
          (∀ other, Fits text.length budget other → omitted ≤ other) →
            ∃ least, settle text budget rounds truncated omitted =
                (disclosed text budget least, least) ∧ LeastFit text.length budget least := by
  induction growth with
  | zero =>
    intro rounds truncated omitted hrounds hdecimals hnext hbelow
    have hample := hbelow _ (fits_ampleOmission h)
    obtain ⟨left, rfl⟩ := Nat.exists_eq_add_of_le' hrounds
    rcases settle_round h left truncated hnext hbelow with hdone | ⟨hlonger, -⟩
    · exact hdone
    · have hmono := decimals_mono (nextOmitted_le h (fits_ampleOmission h) hample hample)
      omega
  | succ growth ih =>
    intro rounds truncated omitted hrounds hdecimals hnext hbelow
    have hample := hbelow _ (fits_ampleOmission h)
    obtain ⟨left, rfl⟩ : ∃ left, rounds = left + 2 := ⟨rounds - 2, by omega⟩
    rcases settle_round h left truncated hnext hbelow with hdone | ⟨hlonger, truncated', hgo⟩
    · exact hdone
    · have hnextBelow : ∀ other, Fits text.length budget other →
          nextOmitted text budget omitted ≤ other := fun other hother =>
        nextOmitted_le h hother (hbelow other hother) hample
      rw [hgo]
      refine ih (left + 1) truncated' _ (by omega) (by omega) ?_ hnextBelow
      exact nextOmitted_mono h hnext (hnextBelow _ (fits_ampleOmission h))

lemma decimals_ampleOmission_le (h : Cuttable text budget) :
    decimals (ampleOmission text budget) ≤ decimals (nextOmitted text budget 0) + 1 := by
  have hzero : decimals 0 = 1 := by
    rw [decimals_eq]
    rfl
  have hroom := (round_spec h (Nat.zero_le _)).2.1
  have htwo := decimals_pos text.length
  obtain ⟨hover, hframe, hsize⟩ := h
  obtain ⟨hle, hkeep, -⟩ := hroom
  rw [besideDisclosure, hzero, keepOf, MARKER_RESERVE, MIN_KEEP] at hkeep
  refine decimals_le_succ ?_
  rw [ampleOmission]
  omega

lemma settle_eq (h : Cuttable text budget) :
    ∃ least, settle text budget 8 "" 0 = (disclosed text budget least, least) ∧
      LeastFit text.length budget least := by
  rcases settle_round h 6 "" (Nat.zero_le _) (fun other _ => Nat.zero_le _) with
    hdone | ⟨-, truncated, hgo⟩
  · exact hdone
  · have hbelow : ∀ other, Fits text.length budget other → nextOmitted text budget 0 ≤ other :=
      fun other hother => nextOmitted_le h hother (Nat.zero_le _) (Nat.zero_le _)
    rw [hgo]
    refine settle_spec h 1 7 truncated _ (by decide) (decimals_ampleOmission_le h) ?_ hbelow
    exact nextOmitted_mono h (Nat.zero_le _) (hbelow _ (fits_ampleOmission h))

end Settle

lemma not_fits_zero {n budget : Nat} (hover : budget < n) (hframe : 82 + decimals n ≤ budget) :
    ¬Fits n budget 0 := by
  rintro ⟨-, hkeep, -⟩
  have hpos := decimals_pos n
  have hzero := decimals_pos 0
  rw [besideDisclosure, keepOf, MARKER_RESERVE, MIN_KEEP] at hkeep
  omega

def leastOmission (n budget : Nat) : Nat :=
  ((List.range (n + 1)).find? (fun omitted => decide (Fits n budget omitted))).getD n

lemma leastOmission_eq {n budget omitted : Nat} (h : LeastFit n budget omitted) :
    leastOmission n budget = omitted := by
  have hfind : (List.range (n + 1)).find? (fun omitted => decide (Fits n budget omitted)) =
      some omitted := by
    rw [List.find?_range_eq_some]
    refine ⟨by simpa using h.1, List.mem_range.mpr (Nat.lt_succ_of_le h.1.1), ?_⟩
    intro other hless
    have hnot : ¬Fits n budget other := fun hfits => absurd (h.2 other hfits) (by omega)
    simpa using hnot
  rw [leastOmission, hfind]
  rfl

/-- The length of a text of `n` characters under a budget. -/
def cutLength (n budget : Nat) : Nat :=
  if budget = 0 ∨ n ≤ budget then n
  else if budget < 82 + decimals n then 27 + decimals n
  else
    let omitted := leastOmission n budget
    keptLength n (headCap (besideDisclosure budget omitted)) (n - omitted) + 28 + decimals omitted

/-- What a text shows of its original, and how many characters of it are hidden. -/
inductive Shown (original : String) : String → Nat → Prop
  | whole : Shown original original 0
  | nothing (stated : Nat) : Shown original (budgetDisclosure stated) original.length
  | ends (head cut tail : List Char) (marked stated : Nat) :
      original.toList = head ++ cut ++ tail →
      Shown original (framed (String.ofList head) (truncationMarker marked) (String.ofList tail) ++
        "\n" ++ budgetDisclosure stated) cut.length

def States (text : String) (stated : Nat) : Prop :=
  text = budgetDisclosure stated ∨ ∃ front, text = front ++ "\n" ++ budgetDisclosure stated

structure CutOnce (original final : String) (omitted budget : Nat) : Prop where
  pos : 0 < omitted
  shown : Shown original final omitted
  states : States final omitted
  bounded : final.length ≤ max budget 46

lemma tailOf_eq (text : String) (tailLen : Nat) :
    tailOf text tailLen = String.ofList (text.toList.drop (text.length - tailLen)) := by
  rw [tailOf]
  by_cases hzero : tailLen = 0
  · rw [if_pos hzero, hzero, Nat.sub_zero, ← String.length_toList, List.drop_length]
  · rw [if_neg hzero]

lemma shown_disclosed {text : String} {budget omitted : Nat} (h : omitted ≤ text.length) :
    Shown text (disclosed text budget omitted) omitted := by
  have hcut : ∀ cap, ((text.toList.drop (min (text.length - omitted) cap)).take omitted).length =
      omitted := by
    intro cap
    rw [List.length_take, List.length_drop, String.length_toList]
    omega
  have hsplit : ∀ cap, text.toList = text.toList.take (min (text.length - omitted) cap) ++
      (text.toList.drop (min (text.length - omitted) cap)).take omitted ++
        text.toList.drop (text.length - (text.length - omitted - cap)) := by
    intro cap
    have hdrop : text.toList.drop (text.length - (text.length - omitted - cap)) =
        (text.toList.drop (min (text.length - omitted) cap)).drop omitted := by
      rw [List.drop_drop]
      congr 1
      omega
    rw [hdrop, List.append_assoc, List.take_append_drop, List.take_append_drop]
  have hends := Shown.ends _ _ _ (text.length - (text.length - omitted)) omitted
    (hsplit (headCap (besideDisclosure budget omitted)))
  rw [hcut, ← tailOf_eq, ← headOf] at hends
  exact hends

lemma states_disclosed (text : String) (budget omitted : Nat) :
    States (disclosed text budget omitted) omitted :=
  .inr ⟨_, rfl⟩

lemma length_disclosed (text : String) (budget omitted : Nat) :
    (disclosed text budget omitted).length =
      keptLength text.length (headCap (besideDisclosure budget omitted)) (text.length - omitted) +
        28 + decimals omitted := by
  have hbreak : "\n".length = 1 := rfl
  rw [disclosed, String.length_append, String.length_append, length_budgetDisclosure, hbreak,
    length_keeping (Nat.sub_le _ _)]
  omega

lemma truncateWithDisclosure_eq (text : String) (budget : Nat) :
    truncateWithDisclosure text budget =
      if budget = 0 ∨ text.length ≤ budget then (text, 0)
      else if budget < 82 + decimals text.length then (budgetDisclosure text.length, text.length)
      else settle text budget 8 "" 0 := by
  have hmarker : decimals 0 = 1 := by
    rw [decimals_eq]
    rfl
  have hfloor : (budgetDisclosure text.length).length + (truncationMarker 0).length + MIN_KEEP + 2 =
      82 + decimals text.length := by
    rw [length_budgetDisclosure, length_truncationMarker, hmarker, MIN_KEEP]
    omega
  rw [← hfloor]
  rfl

theorem truncateWithDisclosure_spec (text : String) (budget : Nat)
    (hsize : decimals text.length ≤ 19) :
    ((truncateWithDisclosure text budget).1.length = cutLength text.length budget) ∧
      ((budget = 0 ∨ text.length ≤ budget) ∧ truncateWithDisclosure text budget = (text, 0) ∨
        budget ≠ 0 ∧ budget < text.length ∧ ∃ final omitted,
          truncateWithDisclosure text budget = (final, omitted) ∧
            CutOnce text final omitted budget) := by
  rw [truncateWithDisclosure_eq, cutLength]
  by_cases hwhole : budget = 0 ∨ text.length ≤ budget
  · rw [if_pos hwhole, if_pos hwhole]
    exact ⟨rfl, .inl ⟨hwhole, rfl⟩⟩
  · rw [if_neg hwhole, if_neg hwhole]
    have hover : budget < text.length := by omega
    have hbudget : budget ≠ 0 := by omega
    by_cases hsmall : budget < 82 + decimals text.length
    · have hlength := length_budgetDisclosure text.length
      rw [if_pos hsmall, if_pos hsmall]
      refine ⟨hlength, .inr ⟨hbudget, hover, _, _, rfl, by omega, ?_, .inl rfl, by omega⟩⟩
      exact .nothing text.length
    · have hcuttable : Cuttable text budget := ⟨hover, by omega, hsize⟩
      obtain ⟨least, hsettled, hleast⟩ := settle_eq hcuttable
      have hle : least ≤ text.length := hleast.1.1
      have hlength := length_disclosed text budget least
      have hbound := hleast.1.2.2
      have hzero : least ≠ 0 := by
        rintro rfl
        exact not_fits_zero hover (by omega) hleast.1
      have hmono := decimals_mono hle
      rw [if_neg hsmall, if_neg hsmall, hsettled]
      dsimp only
      rw [leastOmission_eq hleast]
      refine ⟨hlength, .inr ⟨hbudget, hover, _, _, rfl, by omega, shown_disclosed hle,
        states_disclosed text budget least, ?_⟩⟩
      rw [hlength]
      rw [besideDisclosure] at hbound ⊢
      omega

def lastLine (chars : List Char) : List Char := (chars.reverse.takeWhile (· != '\n')).reverse

lemma lastLine_eq_self {chars : List Char} (h : '\n' ∉ chars) : lastLine chars = chars := by
  have hall : ∀ c ∈ chars.reverse, (c != '\n') = true := by
    intro c hc
    rw [bne_iff_ne]
    rintro rfl
    exact h (List.mem_reverse.mp hc)
  rw [lastLine, ← List.append_nil chars.reverse, List.takeWhile_append_of_pos hall,
    List.takeWhile_nil, List.append_nil, List.reverse_reverse]

lemma lastLine_append {front chars : List Char} (h : '\n' ∉ chars) :
    lastLine (front ++ '\n' :: chars) = chars := by
  have hall : ∀ c ∈ chars.reverse, (c != '\n') = true := by
    intro c hc
    rw [bne_iff_ne]
    rintro rfl
    exact h (List.mem_reverse.mp hc)
  rw [lastLine, List.reverse_append, List.reverse_cons, List.append_assoc,
    List.takeWhile_append_of_pos hall]
  simp

lemma toList_budgetDisclosure (n : Nat) : (budgetDisclosure n).toList =
    "\x7b\"budget_truncated_chars\":".toList ++ Nat.toDigits 10 n ++ "\x7d".toList := by
  unfold budgetDisclosure
  rw [String.toList_append, String.toList_append]
  congr 2
  exact Nat.toList_repr

lemma newline_notMem_budgetDisclosure (n : Nat) : '\n' ∉ (budgetDisclosure n).toList := by
  rw [toList_budgetDisclosure]
  intro h
  rcases List.mem_append.mp h with h | h
  · rcases List.mem_append.mp h with h | h
    · exact absurd h (by decide +kernel)
    · have hdigit := Nat.isDigit_of_mem_toDigits (by decide) (by decide) h
      exact absurd hdigit (by decide)
  · exact absurd h (by decide +kernel)

lemma budgetDisclosure_injective {m n : Nat} (h : budgetDisclosure m = budgetDisclosure n) :
    m = n := by
  have hchars := congrArg String.toList h
  rw [toList_budgetDisclosure, toList_budgetDisclosure] at hchars
  have hdigits := List.append_cancel_left (List.append_cancel_right hchars)
  rw [← Nat.ofDigitChars_ten_toDigits (n := m), hdigits, Nat.ofDigitChars_ten_toDigits]

lemma lastLine_of_states {text : String} {stated : Nat} (h : States text stated) :
    lastLine text.toList = (budgetDisclosure stated).toList := by
  rcases h with rfl | ⟨front, rfl⟩
  · exact lastLine_eq_self (newline_notMem_budgetDisclosure stated)
  · rw [String.toList_append, String.toList_append, List.append_assoc]
    exact lastLine_append (newline_notMem_budgetDisclosure stated)

theorem states_unique {text : String} {m n : Nat} (hm : States text m) (hn : States text n) :
    m = n := by
  have hlines := lastLine_of_states hm
  rw [lastLine_of_states hn] at hlines
  exact (budgetDisclosure_injective (String.toList_inj.mp hlines)).symm

end EvidenceBudget

end NetTools
