import NetTools.Python.Ipaddress
import NetTools.Python.Value

/-!
# Template parameters

The typed parsers of `templates.py`. A parser gives the canonical text of what it read, never the
text that it was given.
-/

namespace NetTools

open Ipaddress

/-- `TemplateValidationError`, `UnknownTemplateError` and `KeyError`. -/
inductive TemplateError where
  | validation (message : String)
  | unknownTemplate (message : String)
  | keyError (key : String)
deriving DecidableEq, Repr

def forbiddenCharacters : List Char :=
  ['|', ';', '&', '>', '<', '\x60', '$', '\x7b', '\x7d', '\n', '\r', '\t', '\x00']

def MAX_PARAM_LENGTH : Nat := 128

/-- The first complaint of the loop of `_reject_unsafe_text` about the characters of `value`. -/
def unsafeCharacter (name : String) (value : String) : List Char → Option String
  | [] => none
  | c :: cs =>
    if isSpaceChar c then some (name ++ ": whitespace is not allowed: " ++ pyRepr value)
    else if c.toNat < 0x20 || c.toNat == 0x7F then
      some (name ++ ": contains a control character: " ++ pyRepr value)
    else if c ∈ forbiddenCharacters then
      some (name ++ ": contains a forbidden character " ++ pyRepr (String.singleton c) ++ ": " ++
        pyRepr value)
    else unsafeCharacter name value cs

def rejectUnsafeText (name : String) (value : Value) : Except TemplateError String :=
  match value with
  | .str text =>
    if text = "" then .error (.validation (name ++ ": must not be empty"))
    else if MAX_PARAM_LENGTH < text.length then
      let limit := MAX_PARAM_LENGTH
      .error (.validation s!"{name}: exceeds the maximum length of {limit} characters")
    else if !text.toList.all (fun c => c.toNat < 128) then
      .error (.validation (name ++ ": non-ASCII characters are not allowed"))
    else match unsafeCharacter name text text.toList with
      | some message => .error (.validation message)
      | none => .ok text
  | other =>
    let kind := other.typeName
    .error (.validation s!"{name}: expected a string, got {kind}")

def parseIpv4Address (name : String) (value : Value) : Except TemplateError String := do
  let value ← rejectUnsafeText name value
  match IPv4Address.ofText value with
  | some parsed => .ok parsed.text
  | none => .error (.validation (name ++ ": not a valid IPv4 address: " ++ pyRepr value))

def parseIpv4Prefix (name : String) (value : Value) : Except TemplateError String := do
  let value ← rejectUnsafeText name value
  match IPv4Network.ofText value with
  | some parsed => .ok parsed.text
  | none => .error (.validation (name ++ ": not a valid IPv4 prefix: " ++ pyRepr value))

/-- A character that `_INTERFACE_NAME_RE` allows after the first. -/
def isInterfaceChar (c : Char) : Bool :=
  c.isAlphanum || c == '_' || c == '.' || c == '/' || c == '-'

/-- `_INTERFACE_NAME_RE.fullmatch`. -/
def isInterfaceShape : List Char → Bool
  | [] => false
  | c :: cs => c.isAlpha && cs.length ≤ 62 && cs.all isInterfaceChar

/-- `".." in value`. -/
def hasDoubleDot : List Char → Bool
  | '.' :: '.' :: _ => true
  | _ :: cs => hasDoubleDot cs
  | [] => false

def parseInterfaceName (name : String) (value : Value) : Except TemplateError String := do
  let value ← rejectUnsafeText name value
  if !isInterfaceShape value.toList then
    .error (.validation (name ++ ": not a valid interface name: " ++ pyRepr value))
  else if hasDoubleDot value.toList then
    .error (.validation (name ++ ": not a valid interface name: " ++ pyRepr value))
  else .ok value

/-- The number that `[0-9]+` stands for. -/
def plainDigits (text : List Char) : Option Nat :=
  if text.isEmpty || !text.all Char.isDigit then none else some (Nat.ofDigitChars 10 text 0)

/-- `int(text)` of a text that `_PLAIN_INTEGER_RE` matches, `none` for any other. -/
def plainInteger (text : List Char) : Option Int :=
  match text with
  | '-' :: ds => (plainDigits ds).map (fun n : Nat => -(n : Int))
  | ds => (plainDigits ds).map (fun n : Nat => (n : Int))

/-- `str(n)` of an integer. -/
def integerText (n : Int) : List Char :=
  if n < 0 then '-' :: Nat.toDigits 10 n.natAbs else Nat.toDigits 10 n.natAbs

def parseBoundedInt (minimum maximum : Int) (name : String) (value : Value) :
    Except TemplateError String := do
  let value ← rejectUnsafeText name value
  match plainInteger value.toList with
  | none => .error (.validation (name ++ ": not a plain integer: " ++ pyRepr value))
  | some parsed =>
    if minimum ≤ parsed ∧ parsed ≤ maximum then .ok (String.ofList (integerText parsed))
    else .error (.validation
      s!"{name}: must be between {minimum} and {maximum}, got {parsed}")

inductive ParamType where
  | ipv4Address
  | ipv4Prefix
  | interfaceName
  | boundedInt (minimum maximum : Int)
deriving DecidableEq, Repr

def ParamType.parse : ParamType → (name : String) → Value → Except TemplateError String
  | ipv4Address => parseIpv4Address
  | ipv4Prefix => parseIpv4Prefix
  | interfaceName => parseInterfaceName
  | boundedInt minimum maximum => parseBoundedInt minimum maximum

/-! ### What a parser gives -/

/-- A character that passes the filter of `_reject_unsafe_text`. -/
def isSafeChar (c : Char) : Bool :=
  c.toNat < 128 && !isSpaceChar c && !(c.toNat < 0x20 || c.toNat == 0x7F) &&
    !(c ∈ forbiddenCharacters)

lemma unsafeCharacter_eq_none_iff {name value : String} {cs : List Char} :
    unsafeCharacter name value cs = none ↔
      ∀ c ∈ cs, isSpaceChar c = false ∧ (c.toNat < 0x20 || c.toNat == 0x7F) = false ∧
        c ∉ forbiddenCharacters := by
  induction cs with
  | nil => simp [unsafeCharacter]
  | cons c cs ih =>
    rw [List.forall_mem_cons, ← ih, unsafeCharacter]
    cases hspace : isSpaceChar c with
    | true => simp
    | false =>
      cases hcontrol : (decide (c.toNat < 0x20) || c.toNat == 0x7F) with
      | true => simp
      | false =>
        by_cases hforbidden : c ∈ forbiddenCharacters
        · simp [hforbidden]
        · simp [hforbidden]

lemma isSafeChar_iff {c : Char} :
    isSafeChar c = true ↔ c.toNat < 128 ∧ isSpaceChar c = false ∧
      (c.toNat < 0x20 || c.toNat == 0x7F) = false ∧ c ∉ forbiddenCharacters := by
  rw [isSafeChar]
  simp only [Bool.and_eq_true, decide_eq_true_eq, Bool.not_eq_true', decide_eq_false_iff_not,
    and_assoc]

theorem rejectUnsafeText_ok_iff {name text : String} {value : Value} :
    rejectUnsafeText name value = .ok text ↔
      value = .str text ∧ text ≠ "" ∧ text.length ≤ MAX_PARAM_LENGTH ∧
        ∀ c ∈ text.toList, isSafeChar c = true := by
  cases value with
  | str given =>
    have hascii : given.toList.all (fun c => decide (c.toNat < 128)) = true ↔
        ∀ c ∈ given.toList, c.toNat < 128 := by
      simp only [List.all_eq_true, decide_eq_true_eq]
    constructor
    · intro h
      rw [rejectUnsafeText] at h
      split at h
      · cases h
      rename_i hne
      split at h
      · cases h
      rename_i hlength
      split at h
      · cases h
      rename_i hall
      rw [Bool.not_eq_true', Bool.not_eq_false, hascii] at hall
      split at h
      · cases h
      rename_i hnone
      cases h
      refine ⟨rfl, hne, not_lt.mp hlength, fun c hc => ?_⟩
      exact isSafeChar_iff.mpr ⟨hall c hc, unsafeCharacter_eq_none_iff.mp hnone c hc⟩
    · rintro ⟨hvalue, hne, hlength, hsafe⟩
      cases hvalue
      have hall : text.toList.all (fun c => decide (c.toNat < 128)) = true :=
        hascii.mpr (fun c hc => (isSafeChar_iff.mp (hsafe c hc)).1)
      have hnone : unsafeCharacter name text text.toList = none :=
        unsafeCharacter_eq_none_iff.mpr (fun c hc => (isSafeChar_iff.mp (hsafe c hc)).2)
      rw [rejectUnsafeText, if_neg hne, if_neg (not_lt.mpr hlength), hall]
      simp only [Bool.not_true, Bool.false_eq_true, if_false, hnone]
  | none => simp [rejectUnsafeText]
  | bool b => simp [rejectUnsafeText]
  | int i => simp [rejectUnsafeText]
  | float q => simp [rejectUnsafeText]
  | list items => simp [rejectUnsafeText]
  | dict entries => simp [rejectUnsafeText]

/-- What a parser gives can stand as one token of a command, and is what the parser makes of it
again. -/
structure Canonical (type : ParamType) (out : String) : Prop where
  nonempty : out ≠ ""
  short : out.length ≤ MAX_PARAM_LENGTH
  safe : ∀ c ∈ out.toList, isSafeChar c = true
  fixed : ∀ name, type.parse name (.str out) = .ok out

variable {type : ParamType} {name out : String} {value : Value}

lemma isSafeChar_of_isDigit {c : Char} (h : c.isDigit = true) : isSafeChar c = true := by
  have hrange : 48 ≤ c.toNat ∧ c.toNat ≤ 57 := by
    simpa [Char.isDigit, UInt32.le_iff_toNat_le] using h
  have hforbidden : ∀ f ∈ forbiddenCharacters, ¬(48 ≤ f.toNat ∧ f.toNat ≤ 57) :=
    List.forall_iff_forall_mem.mp (by decide)
  refine isSafeChar_iff.mpr ⟨by omega, ?_, ?_, fun hmem => hforbidden c hmem hrange⟩
  · simp only [isSpaceChar, Bool.or_eq_false_iff, Bool.and_eq_false_iff, decide_eq_false_iff_not,
      beq_eq_false_iff_ne]
    omega
  · simp only [Bool.or_eq_false_iff, decide_eq_false_iff_not, beq_eq_false_iff_ne]
    omega

lemma isSafeChar_of_mem_dotted {c : Char} {ip : Nat} (h : c ∈ dotted ip) : isSafeChar c = true := by
  rcases of_mem_dotted h with rfl | hdigit
  · decide
  · exact isSafeChar_of_isDigit hdigit

lemma dotted_length (ip : Nat) : (dotted ip).length ≤ 15 ∧ dotted ip ≠ [] := by
  have hoctet : ∀ n : Nat, (Nat.toDigits 10 (n % 256)).length ≤ 3 := by
    intro n
    rw [Nat.length_toDigits_le_iff (by decide) (by decide)]
    omega
  have h₁ := hoctet (ip / 16777216)
  have h₂ := hoctet (ip / 65536)
  have h₃ := hoctet (ip / 256)
  have h₄ := hoctet ip
  constructor
  · simp only [dotted, octets, List.map_cons, List.map_nil, List.intercalate_cons_cons,
      List.intercalate_singleton, List.length_append, List.length_cons, List.length_nil]
    omega
  · simp [dotted, octets]

lemma canonical_of_text {text : List Char} (hne : text ≠ []) (hlength : text.length ≤ 128)
    (hsafe : ∀ c ∈ text, isSafeChar c = true)
    (hfixed : ∀ name, rejectUnsafeText name (.str (String.ofList text)) =
      .ok (String.ofList text) → type.parse name (.str (String.ofList text)) =
        .ok (String.ofList text)) : Canonical type (String.ofList text) := by
  have hnonempty : String.ofList text ≠ "" := by simpa using hne
  have hshort : (String.ofList text).length ≤ MAX_PARAM_LENGTH := by
    rw [String.length_ofList]
    exact hlength
  have hall : ∀ c ∈ (String.ofList text).toList, isSafeChar c = true := by
    rw [String.toList_ofList]
    exact hsafe
  exact ⟨hnonempty, hshort, hall, fun name =>
    hfixed name (rejectUnsafeText_ok_iff.mpr ⟨rfl, hnonempty, hshort, hall⟩)⟩

lemma canonical_ipv4Address (h : parseIpv4Address name value = .ok out) :
    Canonical .ipv4Address out := by
  simp only [parseIpv4Address, bind, Except.bind] at h
  split at h
  · cases h
  split at h
  · rename_i parsed _
    cases h
    obtain ⟨hlength, hne⟩ := dotted_length parsed.ip
    refine canonical_of_text hne (by omega) (fun c => isSafeChar_of_mem_dotted) ?_
    intro name' hsafe
    have hread := parsed.ofText_text
    rw [IPv4Address.text] at hread
    simp only [ParamType.parse, parseIpv4Address, hsafe, bind, Except.bind, hread]
    rfl
  · cases h

lemma canonical_ipv4Prefix (h : parseIpv4Prefix name value = .ok out) :
    Canonical .ipv4Prefix out := by
  simp only [parseIpv4Prefix, bind, Except.bind] at h
  split at h
  · cases h
  split at h
  · rename_i parsed _
    cases h
    obtain ⟨hlength, hne⟩ := dotted_length parsed.address
    have hdigits : (Nat.toDigits 10 parsed.prefixlen).length ≤ 2 := by
      rw [Nat.length_toDigits_le_iff (by decide) (by decide)]
      have hle := parsed.prefixlen_le
      omega
    have htext : ['/'].intercalate [dotted parsed.address, Nat.toDigits 10 parsed.prefixlen] =
        dotted parsed.address ++ '/' :: Nat.toDigits 10 parsed.prefixlen := by
      simp [List.intercalate_cons_cons]
    rw [IPv4Network.text, htext]
    refine canonical_of_text (by simp) ?_ (fun c hc => ?_) ?_
    · rw [List.length_append, List.length_cons]
      omega
    · rw [List.mem_append, List.mem_cons] at hc
      rcases hc with hc | rfl | hc
      · exact isSafeChar_of_mem_dotted hc
      · decide
      · exact isSafeChar_of_isDigit (Nat.isDigit_of_mem_toDigits (by decide) (by decide) hc)
    · intro name' hsafe
      have hread := parsed.ofText_text
      rw [IPv4Network.text, htext] at hread
      simp only [ParamType.parse, parseIpv4Prefix, hsafe, bind, Except.bind, hread,
        IPv4Network.text, htext]
  · cases h

lemma canonical_interfaceName (h : parseInterfaceName name value = .ok out) :
    Canonical .interfaceName out := by
  have hparse := h
  simp only [parseInterfaceName, bind, Except.bind] at h
  split at h
  · cases h
  rename_i text htext
  obtain ⟨-, hne, hlength, hsafe⟩ := rejectUnsafeText_ok_iff.mp htext
  split at h
  · cases h
  rename_i hshape
  split at h
  · cases h
  rename_i hdots
  cases h
  refine ⟨hne, hlength, hsafe, fun name' => ?_⟩
  have hagain : rejectUnsafeText name' (.str out) = .ok out :=
    rejectUnsafeText_ok_iff.mpr ⟨rfl, hne, hlength, hsafe⟩
  simp only [ParamType.parse, parseInterfaceName, hagain, bind, Except.bind, if_neg hshape,
    if_neg hdots]

lemma isSafeChar_of_isInterfaceChar {c : Char} (h : isInterfaceChar c = true) :
    isSafeChar c = true := by
  have hforbidden : ∀ f ∈ forbiddenCharacters, isInterfaceChar f = false :=
    List.forall_iff_forall_mem.mp (by decide)
  have hrange : 45 ≤ c.toNat ∧ c.toNat ≤ 122 := by
    simp only [isInterfaceChar, Char.isAlphanum, isAlpha_eq, Char.isDigit, Bool.or_eq_true,
      Bool.and_eq_true, decide_eq_true_eq, beq_iff_eq, UInt32.le_iff_toNat_le, ge_iff_le] at h
    rcases h with ((((((⟨h₁, h₂⟩ | ⟨h₁, h₂⟩) | ⟨h₁, h₂⟩) | rfl) | rfl) | rfl) | rfl)
    · exact ⟨le_trans (by decide) h₁, le_trans h₂ (by decide)⟩
    · exact ⟨le_trans (by decide) h₁, le_trans h₂ (by decide)⟩
    · exact ⟨le_trans (by decide) h₁, le_trans h₂ (by decide)⟩
    · decide
    · decide
    · decide
    · decide
  refine isSafeChar_iff.mpr ⟨by omega, ?_, ?_, fun hmem => ?_⟩
  · simp only [isSpaceChar, Bool.or_eq_false_iff, Bool.and_eq_false_iff, decide_eq_false_iff_not,
      beq_eq_false_iff_ne]
    omega
  · simp only [Bool.or_eq_false_iff, decide_eq_false_iff_not, beq_eq_false_iff_ne]
    omega
  · rw [hforbidden c hmem] at h
    cases h

lemma rejectUnsafeText_interface {text : String} (hshape : isInterfaceShape text.toList = true) :
    rejectUnsafeText name (.str text) = .ok text := by
  cases htext : text.toList with
  | nil =>
    rw [htext] at hshape
    cases hshape
  | cons c cs =>
    rw [htext, isInterfaceShape, Bool.and_eq_true, Bool.and_eq_true, decide_eq_true_eq,
      List.all_eq_true] at hshape
    obtain ⟨⟨halpha, hlength⟩, hall⟩ := hshape
    have hfirst : isInterfaceChar c = true := by
      simp only [isInterfaceChar, Char.isAlphanum, halpha, Bool.true_or]
    have htotal : text.length = cs.length + 1 := by
      rw [← String.length_toList, htext, List.length_cons]
    refine rejectUnsafeText_ok_iff.mpr ⟨rfl, ?_, ?_, ?_⟩
    · rintro rfl
      cases htext
    · rw [htotal, MAX_PARAM_LENGTH]
      omega
    · rw [htext, List.forall_mem_cons]
      exact ⟨isSafeChar_of_isInterfaceChar hfirst,
        fun d hd => isSafeChar_of_isInterfaceChar (hall d hd)⟩

theorem parseInterfaceName_ok_iff {text : String} :
    parseInterfaceName name (.str text) = .ok text ↔
      isInterfaceShape text.toList = true ∧ hasDoubleDot text.toList = false := by
  constructor
  · intro h
    simp only [parseInterfaceName, bind, Except.bind] at h
    split at h
    · cases h
    rename_i given hgiven
    obtain ⟨hvalue, -⟩ := rejectUnsafeText_ok_iff.mp hgiven
    cases hvalue
    split at h
    · cases h
    rename_i hshape
    split at h
    · cases h
    rename_i hdots
    rw [Bool.not_eq_true', Bool.not_eq_false] at hshape
    exact ⟨hshape, Bool.not_eq_true _ ▸ hdots⟩
  · rintro ⟨hshape, hdots⟩
    simp only [parseInterfaceName, rejectUnsafeText_interface hshape, bind, Except.bind, hshape,
      hdots, Bool.not_true, Bool.false_eq_true, if_false]

lemma plainDigits_toDigits (n : Nat) : plainDigits (Nat.toDigits 10 n) = some n := by
  have hall : (Nat.toDigits 10 n).all Char.isDigit = true := by
    rw [List.all_eq_true]
    exact fun c hc => Nat.isDigit_of_mem_toDigits (by decide) (by decide) hc
  rw [plainDigits, hall, Nat.ofDigitChars_ten_toDigits]
  simp

lemma plainInteger_integerText (n : Int) : plainInteger (integerText n) = some n := by
  rw [integerText]
  split
  · rename_i hneg
    simp only [plainInteger, plainDigits_toDigits, Option.map_some, Option.some.injEq]
    omega
  · rename_i hpos
    unfold plainInteger
    split
    · rename_i ds htext
      have hminus : '-' ∈ Nat.toDigits 10 n.natAbs := by
        rw [htext]
        exact List.mem_cons_self
      exact absurd hminus (not_mem_toDigits (by decide) _)
    · simp only [plainDigits_toDigits, Option.map_some, Option.some.injEq]
      omega

lemma ofDigitChars_lt {ds : List Char} (h : ∀ c ∈ ds, c.isDigit = true) :
    Nat.ofDigitChars 10 ds 0 < 10 ^ ds.length := by
  induction ds with
  | nil => simp
  | cons c cs ih =>
    obtain ⟨hc, hcs⟩ := List.forall_mem_cons.mp h
    have hdigit : c.toNat ≤ 57 := by
      have hrange : 48 ≤ c.toNat ∧ c.toNat ≤ 57 := by
        simpa [Char.isDigit, UInt32.le_iff_toNat_le] using hc
      exact hrange.2
    have hrest := ih hcs
    rw [Nat.ofDigitChars_cons, Nat.ofDigitChars_eq_ofDigitChars_zero, List.length_cons, pow_succ]
    have hzero : '0'.toNat = 48 := rfl
    have hle : 10 * 0 + (c.toNat - '0'.toNat) ≤ 9 := by omega
    calc 10 ^ cs.length * (10 * 0 + (c.toNat - '0'.toNat)) + Nat.ofDigitChars 10 cs 0
        < 10 ^ cs.length * (10 * 0 + (c.toNat - '0'.toNat)) + 10 ^ cs.length :=
          Nat.add_lt_add_left hrest _
      _ = 10 ^ cs.length * (10 * 0 + (c.toNat - '0'.toNat) + 1) := (Nat.mul_succ _ _).symm
      _ ≤ 10 ^ cs.length * 10 := Nat.mul_le_mul_left _ (Nat.succ_le_succ hle)

lemma length_integerText_le {text : List Char} {n : Int} (h : plainInteger text = some n) :
    (integerText n).length ≤ text.length := by
  have hdigits : ∀ {ds : List Char} {k : Nat}, plainDigits ds = some k →
      (Nat.toDigits 10 k).length ≤ ds.length := by
    intro ds k hk
    rw [plainDigits] at hk
    split at hk
    · cases hk
    · rename_i hvalid
      cases hk
      rw [Bool.or_eq_true, not_or, Bool.not_eq_true', Bool.not_eq_false, List.isEmpty_iff,
        List.all_eq_true] at hvalid
      rw [Nat.length_toDigits_le_iff (by decide) (List.length_pos_iff.mpr hvalid.1)]
      exact ofDigitChars_lt hvalid.2
  unfold plainInteger at h
  split at h
  · obtain ⟨k, hk, rfl⟩ := Option.map_eq_some_iff.mp h
    have hle := hdigits hk
    rw [integerText, List.length_cons]
    split
    · rw [List.length_cons, Int.natAbs_neg, Int.natAbs_natCast]
      omega
    · rw [Int.natAbs_neg, Int.natAbs_natCast]
      omega
  · obtain ⟨k, hk, rfl⟩ := Option.map_eq_some_iff.mp h
    rw [integerText, if_neg (by omega), Int.natAbs_natCast]
    exact hdigits hk

lemma canonical_boundedInt {minimum maximum : Int}
    (h : parseBoundedInt minimum maximum name value = .ok out) :
    Canonical (.boundedInt minimum maximum) out := by
  simp only [parseBoundedInt, bind, Except.bind] at h
  split at h
  · cases h
  rename_i text htext
  obtain ⟨-, -, hshort, -⟩ := rejectUnsafeText_ok_iff.mp htext
  split at h
  · cases h
  rename_i parsed hparsed
  split at h
  · rename_i hrange
    cases h
    have hlength := length_integerText_le hparsed
    rw [String.length_toList] at hlength
    refine canonical_of_text ?_ (hlength.trans hshort) (fun c hc => ?_) ?_
    · rw [integerText]
      split <;> simp
    · rw [integerText] at hc
      split at hc
      · rcases List.mem_cons.mp hc with rfl | hc
        · decide
        · exact isSafeChar_of_isDigit (Nat.isDigit_of_mem_toDigits (by decide) (by decide) hc)
      · exact isSafeChar_of_isDigit (Nat.isDigit_of_mem_toDigits (by decide) (by decide) hc)
    · intro name' hsafe
      simp only [ParamType.parse, parseBoundedInt, hsafe, bind, Except.bind, String.toList_ofList,
        plainInteger_integerText, if_pos hrange]
  · cases h

theorem canonical_of_parse (h : type.parse name value = .ok out) : Canonical type out := by
  cases type with
  | ipv4Address => exact canonical_ipv4Address h
  | ipv4Prefix => exact canonical_ipv4Prefix h
  | interfaceName => exact canonical_interfaceName h
  | boundedInt minimum maximum => exact canonical_boundedInt h

end NetTools
