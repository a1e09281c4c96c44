import NetTools.Templates.Parameters

/-!
# Syslog lines and message texts

The regular expressions of `iosxr_syslog.py` and `event_routing.py`. In each of them what may
follow a repeated class is outside that class, so a greedy reading from the left is the only one.
-/

namespace NetTools

/-- `\w` and `\d` of Python's Unicode tables. -/
structure CharClasses where
  isWord : Char → Bool
  isDigit : Char → Bool
  word_of_digit : ∀ c, isDigit c = true → isWord c = true
  word_not_space : ∀ c, isSpaceChar c = true → isWord c = false

def CharClasses.ascii : CharClasses where
  isWord c := c.isAlphanum || c == '_'
  isDigit := Char.isDigit
  word_of_digit := by
    intro c h
    rw [Char.isAlphanum, h, Bool.or_true, Bool.true_or]
  word_not_space := by
    intro c h
    have hword : ∀ c : Char, (c.isAlphanum || c == '_') = true → 48 ≤ c.toNat ∧ c.toNat ≤ 122 := by
      intro c hc
      simp only [Char.isAlphanum, isAlpha_eq, Char.isDigit, Bool.or_eq_true, Bool.and_eq_true,
        decide_eq_true_eq, beq_iff_eq, ge_iff_le, UInt32.le_iff_toNat_le] at hc
      have hval : c.val.toNat = c.toNat := rfl
      rcases hc with ((⟨h₁, h₂⟩ | ⟨h₁, h₂⟩) | ⟨h₁, h₂⟩) | rfl
      · exact ⟨le_trans (by decide) h₁, le_trans h₂ (by decide)⟩
      · exact ⟨le_trans (by decide) h₁, le_trans h₂ (by decide)⟩
      · exact ⟨le_trans (by decide) h₁, le_trans h₂ (by decide)⟩
      · decide
    rw [Bool.eq_false_iff]
    intro hw
    have hrange := hword c hw
    simp only [isSpaceChar, Bool.or_eq_true, Bool.and_eq_true, decide_eq_true_eq, beq_iff_eq] at h
    omega

def skipText : List Char → List Char → Option (List Char)
  | [], cs => some cs
  | _ :: _, [] => none
  | p :: ps, c :: cs => if p = c then skipText ps cs else none

/-- `p+`: what is read, and what is left. -/
def takeSome (p : Char → Bool) (cs : List Char) : Option (List Char × List Char) :=
  let token := cs.takeWhile p
  if token = [] then none else some (token, cs.dropWhile p)

def skipSome (p : Char → Bool) (cs : List Char) : Option (List Char) :=
  (takeSome p cs).map Prod.snd

/-- `p{n}`. -/
def skipExactly (p : Char → Bool) (n : Nat) (cs : List Char) : Option (List Char) :=
  if (cs.take n).length = n ∧ (cs.take n).all p then some (cs.drop n) else none

/-- `re.search`: the leftmost place at which `f` reads something. -/
def searchText {α : Type} (f : List Char → Option α) : List Char → Option α
  | [] => f []
  | c :: cs => (f (c :: cs)).or (searchText f cs)

/-- The groups of `IOSXR_SYSLOG_LINE`. -/
structure SyslogLine where
  host : Option String
  node : String
  timestamp : String
  process : String
  pid : String
  mnemonic : String
  text : String
deriving DecidableEq, Repr

variable (u : CharClasses)

/-- What is left after the group `timestamp`. -/
def skipTimestamp (cs : List Char) : Option (List Char) := do
  let cs ← skipExactly u.isWord 3 cs
  let cs ← skipSome isSpaceChar cs
  let cs ← skipSome u.isDigit cs
  let cs ← skipSome isSpaceChar cs
  let cs ← skipExactly u.isDigit 2 cs
  let cs ← skipText [':'] cs
  let cs ← skipExactly u.isDigit 2 cs
  let cs ← skipText [':'] cs
  let cs ← skipExactly u.isDigit 2 cs
  let cs ← skipText ['.'] cs
  let cs ← skipSome u.isDigit cs
  let cs ← skipSome isSpaceChar cs
  skipSome u.isWord cs

/-- `(?P<text>.*)$`: the rest of the line, and at most one line break after it. -/
def lineText (cs : List Char) : Option (List Char) :=
  let text := cs.takeWhile (· ≠ '\n')
  let rest := cs.dropWhile (· ≠ '\n')
  if rest = [] ∨ rest = ['\n'] then some text else none

def matchBody (host : Option String) (cs : List Char) : Option SyslogLine := do
  let node := "RP/0/RP0/CPU0"
  let start ← skipText node.toList cs
  let start ← skipText [':'] start
  let rest ← skipTimestamp u start
  let timestamp := start.take (start.length - rest.length)
  let cs ← skipText [':', ' '] rest
  let (process, cs) ← takeSome (fun c => c.isAlphanum || c == '_') cs
  let cs ← skipText ['['] cs
  let (pid, cs) ← takeSome u.isDigit cs
  let cs ← skipText "]: %".toList cs
  let (mnemonic, cs) ← takeSome (fun c => c.isAlphanum || c == '_' || c == '-') cs
  let cs ← skipText " : ".toList cs
  let text ← lineText cs
  pure ⟨host, node, String.ofList timestamp, String.ofList process, String.ofList pid,
    String.ofList mnemonic, String.ofList text⟩

def matchHosted (cs : List Char) : Option SyslogLine := do
  let (host, cs) ← takeSome (fun c => !isSpaceChar c) cs
  let cs ← skipSome isSpaceChar cs
  matchBody u (some (String.ofList host)) cs

def matchIosxrSyslogLine (line : String) : Option SyslogLine :=
  (matchHosted u line.toList).or (matchBody u none line.toList)

/-! ### Message texts -/

/-- The character `c` matches the letter `p` under `re.IGNORECASE`. -/
def sameLetter (p c : Char) : Bool :=
  p.toLower == c.toLower || (p.toLower == 'i' && (c.toNat == 0x130 || c.toNat == 0x131)) ||
    (p.toLower == 's' && c.toNat == 0x17F) || (p.toLower == 'k' && c.toNat == 0x212A)

/-- `skipText` under `re.IGNORECASE`. -/
def skipLetters : List Char → List Char → Option (List Char)
  | [], cs => some cs
  | _ :: _, [] => none
  | p :: ps, c :: cs => if sameLetter p c then skipLetters ps cs else none

/-- The lower-case text of `(Down|Up)`. -/
def directionAt (cs : List Char) : Option String :=
  if (skipLetters "Down".toList cs).isSome then some "down"
  else if (skipLetters "Up".toList cs).isSome then some "up"
  else none

/-- `_NEIGHBOR` at the start of a text: the peer and the direction. -/
def neighborAt (cs : List Char) : Option (List Char × String) := do
  let cs ← skipLetters "neighbor".toList cs
  let cs ← skipSome isSpaceChar cs
  let (peer, cs) ← takeSome (fun c => !isSpaceChar c) cs
  let cs ← skipSome isSpaceChar cs
  let direction ← directionAt cs
  pure (peer, direction)

/-- `_INTERFACE` at the start of a text: the name. -/
def interfaceAt (cs : List Char) : Option (List Char) := do
  let cs ← skipText "Interface".toList cs
  let cs ← skipSome isSpaceChar cs
  let name := cs.takeWhile isInterfaceChar
  let _ ← skipText [','] (cs.dropWhile isInterfaceChar)
  if isInterfaceShape name then some name else none

/-- The letters outside ASCII that `[A-Za-z]` matches under `re.IGNORECASE`. -/
def isFoldedLetter (c : Char) : Bool :=
  c.toNat == 0x130 || c.toNat == 0x131 || c.toNat == 0x17F || c.toNat == 0x212A

/-- `_INTERFACE_TRANSITION` at the start of a text. -/
def interfaceTransitionAt (cs : List Char) : Option String := do
  let isNameChar := fun c => isInterfaceChar c || isFoldedLetter c
  let cs ← skipLetters "Interface".toList cs
  let cs ← skipSome isSpaceChar cs
  let name := cs.takeWhile isNameChar
  if name.length ≤ 63 ∧ (name.head?).any (fun c => c.isAlpha || isFoldedLetter c) then
    let cs ← skipText [','] (cs.dropWhile isNameChar)
    let cs ← skipLetters "changed state to".toList (cs.dropWhile isSpaceChar)
    let cs ← skipSome isSpaceChar cs
    directionAt cs
  else none

def ipv4Subject (text : String) : Option String := do
  let (peer, _) ← searchText neighborAt text.toList
  let address ← Ipaddress.IPv4Address.ofText (String.ofList peer)
  pure address.text

def interfaceSubject (text : String) : Option String :=
  (searchText interfaceAt text.toList).map String.ofList

def bgpTransition (text : String) : String :=
  ((searchText neighborAt text.toList).map Prod.snd).getD "unknown"

def interfaceTransition (text : String) : String :=
  (searchText interfaceTransitionAt text.toList).getD "unknown"

lemma searchText_some {α : Type} {f : List Char → Option α} {cs : List Char} {a : α}
    (h : searchText f cs = some a) : ∃ rest, f rest = some a := by
  induction cs with
  | nil => exact ⟨[], h⟩
  | cons c cs ih =>
    rw [searchText, Option.or_eq_some_iff] at h
    rcases h with h | ⟨-, h⟩
    · exact ⟨c :: cs, h⟩
    · exact ih h

lemma directionAt_cases {cs : List Char} {direction : String}
    (h : directionAt cs = some direction) : direction = "down" ∨ direction = "up" := by
  rw [directionAt] at h
  split at h
  · cases h
    exact .inl rfl
  · split at h
    · cases h
      exact .inr rfl
    · cases h

lemma bgpTransition_cases (text : String) :
    bgpTransition text = "down" ∨ bgpTransition text = "up" ∨ bgpTransition text = "unknown" := by
  rw [bgpTransition]
  cases hsearch : searchText neighborAt text.toList with
  | none => exact .inr (.inr rfl)
  | some found =>
    obtain ⟨rest, hrest⟩ := searchText_some hsearch
    simp only [neighborAt, bind, Option.bind_eq_some_iff] at hrest
    obtain ⟨_, -, _, -, _, -, _, -, direction, hdirection, hfound⟩ := hrest
    cases hfound
    rcases directionAt_cases hdirection with hd | hd
    · exact .inl hd
    · exact .inr (.inl hd)

lemma interfaceTransition_cases (text : String) :
    interfaceTransition text = "down" ∨ interfaceTransition text = "up" ∨
      interfaceTransition text = "unknown" := by
  rw [interfaceTransition]
  cases hsearch : searchText interfaceTransitionAt text.toList with
  | none => exact .inr (.inr rfl)
  | some direction =>
    obtain ⟨rest, hrest⟩ := searchText_some hsearch
    simp only [interfaceTransitionAt, bind, Option.bind_eq_some_iff] at hrest
    obtain ⟨_, -, _, -, hrest⟩ := hrest
    split at hrest
    · simp only [Option.bind_eq_some_iff] at hrest
      obtain ⟨_, -, _, -, _, -, hdirection⟩ := hrest
      rcases directionAt_cases hdirection with hd | hd
      · exact .inl hd
      · exact .inr (.inl hd)
    · cases hrest

lemma ipv4Subject_canonical {text subject : String} (h : ipv4Subject text = some subject) :
    ∃ address : Ipaddress.IPv4Address, subject = address.text := by
  simp only [ipv4Subject, bind, Option.bind_eq_some_iff] at h
  obtain ⟨_, -, address, -, hsubject⟩ := h
  cases hsubject
  exact ⟨address, rfl⟩

lemma interfaceSubject_shape {text subject : String} (h : interfaceSubject text = some subject) :
    isInterfaceShape subject.toList = true := by
  obtain ⟨name, hname, rfl⟩ := Option.map_eq_some_iff.mp h
  obtain ⟨rest, hrest⟩ := searchText_some hname
  simp only [interfaceAt, bind, Option.bind_eq_some_iff] at hrest
  obtain ⟨_, -, _, -, _, -, hshape⟩ := hrest
  split at hshape
  · rename_i hshape'
    cases hshape
    rw [String.toList_ofList]
    exact hshape'
  · cases hshape

end NetTools
