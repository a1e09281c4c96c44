import Mathlib.Data.Nat.Notation
import Mathlib.Tactic.NormNum

/-!
# IPv4 addresses and networks

The parts of Python's `ipaddress` that read an IPv4 address or network from text and print it
back. Only the dotted form with four plain decimal octets is an address; a network has a prefix
length, a netmask or a host mask after a slash.
-/

namespace Ipaddress

def parseOctet (text : List Char) : Option Nat :=
  if text.isEmpty then none
  else if !text.all Char.isDigit then none
  else if 3 < text.length then none
  else if text ≠ ['0'] ∧ text.head? = some '0' then none
  else if 255 < Nat.ofDigitChars 10 text 0 then none
  else some (Nat.ofDigitChars 10 text 0)

/-- `_ip_int_from_string`. -/
def ipInt (text : List Char) : Option Nat :=
  match text.splitOn '.' with
  | [a, b, c, d] => do
    let a ← parseOctet a
    let b ← parseOctet b
    let c ← parseOctet c
    let d ← parseOctet d
    pure (((a * 256 + b) * 256 + c) * 256 + d)
  | _ => none

def octets (ip : Nat) : List Nat :=
  [ip / 16777216 % 256, ip / 65536 % 256, ip / 256 % 256, ip % 256]

/-- `_string_from_ip_int`. -/
def dotted (ip : Nat) : List Char := ['.'].intercalate ((octets ip).map (Nat.toDigits 10))

lemma parseOctet_toDigits {n : Nat} (h : n < 256) : parseOctet (Nat.toDigits 10 n) = some n := by
  have hall : ∀ k : Fin 256, parseOctet (Nat.toDigits 10 k) = some k.val := by decide +kernel
  exact hall ⟨n, h⟩

lemma parseOctet_lt {text : List Char} {n : Nat} (h : parseOctet text = some n) : n < 256 := by
  unfold parseOctet at h
  repeat' split at h
  all_goals cases h
  omega

lemma not_mem_toDigits {c : Char} (hc : c.isDigit = false) (n : Nat) : c ∉ Nat.toDigits 10 n := by
  intro hmem
  rw [Nat.isDigit_of_mem_toDigits (by decide) (by decide) hmem] at hc
  cases hc

lemma of_mem_dotted {c : Char} {ip : Nat} (h : c ∈ dotted ip) : c = '.' ∨ c.isDigit = true := by
  have hdigit : ∀ n, c ∈ Nat.toDigits 10 n → c.isDigit = true :=
    fun n hc => Nat.isDigit_of_mem_toDigits (by decide) (by decide) hc
  simp only [dotted, octets, List.map_cons, List.map_nil, List.intercalate_cons_cons,
    List.intercalate_singleton, List.mem_append, List.mem_singleton] at h
  rcases h with (h | rfl) | (h | rfl) | (h | rfl) | h
  · exact .inr (hdigit _ h)
  · exact .inl rfl
  · exact .inr (hdigit _ h)
  · exact .inl rfl
  · exact .inr (hdigit _ h)
  · exact .inl rfl
  · exact .inr (hdigit _ h)

theorem ipInt_dotted {ip : Nat} (h : ip < 2 ^ 32) : ipInt (dotted ip) = some ip := by
  have hsplit : (dotted ip).splitOn '.' = (octets ip).map (Nat.toDigits 10) := by
    refine List.splitOn_intercalate '.' ?_ (by simp [octets])
    intro l hl
    obtain ⟨n, -, rfl⟩ := List.mem_map.mp hl
    exact not_mem_toDigits (by decide) n
  have hoctet : ∀ n : Nat, parseOctet (Nat.toDigits 10 (n % 256)) = some (n % 256) :=
    fun n => parseOctet_toDigits (Nat.mod_lt n (by decide))
  rw [ipInt, hsplit]
  simp only [octets, List.map_cons, List.map_nil, hoctet, Option.bind_eq_bind, Option.bind_some,
    Option.pure_def, Option.some.injEq]
  omega

lemma ipInt_lt {text : List Char} {ip : Nat} (h : ipInt text = some ip) : ip < 2 ^ 32 := by
  unfold ipInt at h
  split at h
  · simp only [Option.bind_eq_bind, Option.bind_eq_some_iff, Option.pure_def,
      Option.some.injEq] at h
    obtain ⟨a, ha, b, hb, c, hc, d, hd, rfl⟩ := h
    have := parseOctet_lt ha
    have := parseOctet_lt hb
    have := parseOctet_lt hc
    have := parseOctet_lt hd
    omega
  · cases h

lemma head_of_ipInt {text : List Char} {n : Nat} (h : ipInt text = some n) :
    ∃ c cs, text = c :: cs ∧ c.isDigit = true := by
  unfold ipInt at h
  split at h
  · rename_i a b c d hparts
    simp only [Option.bind_eq_bind, Option.bind_eq_some_iff] at h
    obtain ⟨first, ha, -⟩ := h
    have hjoin : ['.'].intercalate [a, b, c, d] = text := by
      rw [← hparts, List.intercalate_splitOn]
    cases a with
    | nil => cases ha
    | cons x xs =>
      have hdigit : x.isDigit = true := by
        unfold parseOctet at ha
        by_contra hx
        simp [hx] at ha
      rw [List.intercalate_cons_cons, List.cons_append] at hjoin
      exact ⟨x, _, hjoin.symm, hdigit⟩
  · cases h

structure IPv4Address where
  ip : Nat
  lt : ip < 2 ^ 32

namespace IPv4Address

/-- `IPv4Address(text)`, `none` where it raises `ValueError`. -/
def ofText (text : String) : Option IPv4Address :=
  match h : ipInt text.toList with
  | some ip => some ⟨ip, ipInt_lt h⟩
  | none => none

/-- `str(address)`. -/
def text (address : IPv4Address) : String := String.ofList (dotted address.ip)

lemma head_of_ofText {text : String} {address : IPv4Address} (h : ofText text = some address) :
    ∃ c cs, text.toList = c :: cs ∧ c.isDigit = true := by
  unfold ofText at h
  split at h
  · rename_i hip
    exact head_of_ipInt hip
  · cases h

theorem ofText_text (address : IPv4Address) : ofText address.text = some address := by
  have hread : ipInt address.text.toList = some address.ip := by
    rw [text, String.toList_ofList]
    exact ipInt_dotted address.lt
  unfold ofText
  split
  · rename_i ip hip
    rw [hread] at hip
    cases hip
    rfl
  · rename_i hip
    rw [hread] at hip
    cases hip

end IPv4Address

/-! ### Networks -/

/-- `_prefix_from_prefix_string`. -/
def prefixFromText (text : List Char) : Option Nat :=
  if text.isEmpty || !text.all Char.isDigit then none
  else if 32 < Nat.ofDigitChars 10 text 0 then none
  else some (Nat.ofDigitChars 10 text 0)

def countRighthandZeroBits (number bits : Nat) : Nat :=
  ((List.range bits).find? (fun k => number.testBit k)).getD bits

def prefixFromIpInt (ip : Nat) : Option Nat :=
  let trailingZeroes := countRighthandZeroBits ip 32
  let prefixlen := 32 - trailingZeroes
  if ip >>> trailingZeroes = 2 ^ prefixlen - 1 then some prefixlen else none

/-- `_prefix_from_ip_string`: a netmask, or else a host mask. -/
def prefixFromIpText (text : List Char) : Option Nat :=
  match ipInt text with
  | none => none
  | some ip =>
    match prefixFromIpInt ip with
    | some prefixlen => some prefixlen
    | none => prefixFromIpInt (ip ^^^ (2 ^ 32 - 1))

/-- The prefix length of `_make_netmask`. -/
def netmaskPrefix (text : List Char) : Option Nat :=
  match prefixFromText text with
  | some prefixlen => some prefixlen
  | none => prefixFromIpText text

/-- `IPv4Network`, whose host bits are clear. -/
structure IPv4Network where
  address : Nat
  prefixlen : Nat
  address_lt : address < 2 ^ 32
  prefixlen_le : prefixlen ≤ 32
  masked : address % 2 ^ (32 - prefixlen) = 0

/-- The address with its host bits cleared: `ip & netmask`. -/
def maskTo (ip prefixlen : Nat) : Nat := ip / 2 ^ (32 - prefixlen) * 2 ^ (32 - prefixlen)

lemma maskTo_le (ip prefixlen : Nat) : maskTo ip prefixlen ≤ ip := Nat.div_mul_le_self _ _

lemma maskTo_of_masked {ip prefixlen : Nat} (h : ip % 2 ^ (32 - prefixlen) = 0) :
    maskTo ip prefixlen = ip := Nat.div_mul_cancel (Nat.dvd_of_mod_eq_zero h)

lemma prefixFromText_le {text : List Char} {n : Nat} (h : prefixFromText text = some n) :
    n ≤ 32 := by
  unfold prefixFromText at h
  repeat' split at h
  all_goals cases h
  omega

lemma prefixFromIpInt_le {ip n : Nat} (h : prefixFromIpInt ip = some n) : n ≤ 32 := by
  unfold prefixFromIpInt at h
  dsimp only at h
  split at h
  · cases h
    omega
  · cases h

lemma netmaskPrefix_le {text : List Char} {n : Nat} (h : netmaskPrefix text = some n) :
    n ≤ 32 := by
  unfold netmaskPrefix at h
  split at h
  · rename_i hlen
    cases h
    exact prefixFromText_le hlen
  · unfold prefixFromIpText at h
    split at h
    · cases h
    · split at h
      · rename_i hlen
        cases h
        exact prefixFromIpInt_le hlen
      · exact prefixFromIpInt_le h

namespace IPv4Network

def parts (text : List Char) : Option (Nat × Nat) :=
  match text.splitOn '/' with
  | [addr] => (ipInt addr).map (fun ip => (ip, 32))
  | [addr, mask] =>
    match ipInt addr, netmaskPrefix mask with
    | some ip, some prefixlen => some (ip, prefixlen)
    | _, _ => none
  | _ => none

lemma parts_bounds {text : List Char} {ip prefixlen : Nat}
    (h : parts text = some (ip, prefixlen)) : ip < 2 ^ 32 ∧ prefixlen ≤ 32 := by
  unfold parts at h
  split at h
  · obtain ⟨ip', hip, heq⟩ := Option.map_eq_some_iff.mp h
    cases heq
    exact ⟨ipInt_lt hip, le_refl _⟩
  · split at h
    · rename_i hip hmask
      cases h
      exact ⟨ipInt_lt hip, netmaskPrefix_le hmask⟩
    · cases h
  · cases h

def around (ip prefixlen : Nat) (hip : ip < 2 ^ 32) (hlen : prefixlen ≤ 32) : IPv4Network :=
  ⟨maskTo ip prefixlen, prefixlen, (maskTo_le ip prefixlen).trans_lt hip, hlen,
    Nat.mul_mod_left _ _⟩

/-- `IPv4Network(text, strict=False)`, `none` where it raises `ValueError`. -/
def ofText (text : String) : Option IPv4Network :=
  match h : parts text.toList with
  | some (ip, prefixlen) =>
    some (around ip prefixlen (parts_bounds h).1 (parts_bounds h).2)
  | none => none

/-- `str(network)`. -/
def text (network : IPv4Network) : String :=
  String.ofList (['/'].intercalate [dotted network.address, Nat.toDigits 10 network.prefixlen])

lemma prefixFromText_toDigits {n : Nat} (h : n ≤ 32) :
    prefixFromText (Nat.toDigits 10 n) = some n := by
  have hall : ∀ k : Fin 33, prefixFromText (Nat.toDigits 10 k) = some k.val := by decide +kernel
  exact hall ⟨n, Nat.lt_succ_of_le h⟩

theorem parts_text (network : IPv4Network) :
    parts network.text.toList = some (network.address, network.prefixlen) := by
  have hsplit : network.text.toList.splitOn '/' =
      [dotted network.address, Nat.toDigits 10 network.prefixlen] := by
    rw [text, String.toList_ofList]
    refine List.splitOn_intercalate '/' ?_ (List.cons_ne_nil _ _)
    intro l hl
    simp only [List.mem_cons, List.not_mem_nil, or_false] at hl
    rcases hl with rfl | rfl
    · intro hmem
      rcases of_mem_dotted hmem with h | h <;> cases h
    · exact not_mem_toDigits (by decide) _
  rw [parts, hsplit]
  simp only [ipInt_dotted network.address_lt, netmaskPrefix,
    prefixFromText_toDigits network.prefixlen_le]

theorem ofText_text (network : IPv4Network) : ofText network.text = some network := by
  have hparts := parts_text network
  unfold ofText
  split
  · rename_i ip prefixlen h
    rw [hparts] at h
    cases h
    rw [Option.some.injEq, around]
    have hmask := maskTo_of_masked network.masked
    cases network
    simp_all
  · rename_i h
    rw [hparts] at h
    cases h

end IPv4Network

end Ipaddress
