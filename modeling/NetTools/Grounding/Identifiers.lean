import NetTools.Grounding.Results
import NetTools.Investigation.Render

/-!
# What the prose of a report may name

A report names only identifiers of its descent, gives the descent's own next check, and supplies no
cause where the descent found none.
-/

namespace NetTools

namespace Grounding

open Pattern

variable (repr : Value → String) (lower : String → String) (u : CharClasses)

def descentEvidenceKeys (descent : DescentResult) : List String :=
  descent.evidenceKeys ++ descent.outcomes.flatMap (fun outcome => outcome.result.evidenceKeys)

/-! ### Tokens -/

def ipv4Parts : List Part :=
  let octet := Part.run u.isDigit 1 (some 3)
  [octet, .lit ['.'], octet, .lit ['.'], octet, .lit ['.'], octet,
    .opt [.lit ['/'], .run u.isDigit 1 (some 2)]]

/-- `_IPV4.findall(text)`. -/
def addressesIn (text : String) : List String :=
  (findAll u.isWord (fun cs => (waysOf (ipv4Parts u) cs).map Prod.snd) 0 none text.toList).map
    String.ofList

/-- The pieces of a text between separators, as `re.split` on runs of them leaves them; the empty
ones at its ends are dropped, as every caller does. -/
def pieces (isSeparator : Char → Bool) (text : String) : List (List Char) :=
  (text.toList.splitOnP isSeparator).filter (· ≠ [])

/-- `[\s,()\[\]]`. -/
def separatesProse (c : Char) : Bool := isSpaceChar c || c ∈ [',', '(', ')', '[', ']']

/-- `[\s:,()\[\]]`. -/
def separatesEvidence (c : Char) : Bool := separatesProse c || c == ':'

def isPunctuation (c : Char) : Bool := c ∈ ['.', ',', ';', ':', '!', '?', ')', ']']

def isTail (cs : List Char) : Bool :=
  cs.all isPunctuation ||
    match cs with
    | c :: cs =>
      (c == '\'' || c == '’') &&
        (cs.all isPunctuation || cs.head? == some 's' && cs.tail.all isPunctuation)
    | [] => false

/-- `_TOKEN_TRIM.sub("", token)`. -/
def trimTail : List Char → List Char
  | [] => []
  | c :: cs => if isTail (c :: cs) then [] else c :: trimTail cs

def stripSpaces (cs : List Char) : List Char :=
  ((cs.dropWhile isSpaceChar).reverse.dropWhile isSpaceChar).reverse

def cleanToken (token : List Char) : List Char :=
  stripSpaces (trimTail ((stripSpaces token).dropWhile (fun c => c == '(' || c == '[')))

def isNameLetter (c : Char) : Bool := c.isAlpha || c == '-'

/-- `\d+(?:[/.]\d+)*`. -/
def isPort (cs : List Char) : Bool :=
  (cs.splitOnP (fun c => c == '/' || c == '.')).all
    (fun part => !part.isEmpty && part.all u.isDigit)

/-- `_IFACE.fullmatch(token)`, as the head and the port: no digit is a letter of a head. -/
def interfaceMatch (token : List Char) : Option (List Char × List Char) :=
  let head := token.takeWhile isNameLetter
  let port := token.dropWhile isNameLetter
  if head.head?.any Char.isAlpha && head.length ≤ 21 && isPort u port then some (head, port)
  else none

def expansionsLower : List (String × String) :=
  [("fourhundredgige", "fourhundredgige"), ("gigabitethernet", "gigabitethernet"),
    ("twentyfivegige", "twentyfivegige"), ("bundle-ether", "bundle-ether"),
    ("hundredgige", "hundredgige"), ("fortygige", "fortygige"), ("tunnel-ip", "tunnel-ip"),
    ("tunnel-te", "tunnel-te"), ("loopback", "loopback"), ("tengige", "tengige"),
    ("mgmteth", "mgmteth"), ("mgmt", "mgmteth"), ("null", "null"), ("twe", "twentyfivegige"),
    ("bvi", "bvi"), ("gi", "gigabitethernet"), ("te", "tengige"), ("fo", "fortygige"),
    ("hu", "hundredgige"), ("fh", "fourhundredgige"), ("be", "bundle-ether"), ("lo", "loopback"),
    ("mg", "mgmteth"), ("nu", "null"), ("bv", "bvi"), ("ti", "tunnel-ip"), ("tt", "tunnel-te")]

def canonicalIdentifier (token : List Char) : String :=
  let token := cleanToken token
  match interfaceMatch u token with
  | none => lower (String.ofList token)
  | some (head, port) =>
    let head := lower (String.ofList head)
    match expansionsLower.find? (fun entry => head = entry.1 || entry.2 = head) with
    | some (_, long) => long ++ String.ofList port
    | none => lower (String.ofList token)

/-- A letter that `re.IGNORECASE` takes for an ASCII letter. -/
def sameLetter (a c : Char) : Bool :=
  c.toLower == a.toLower ||
    (a.toLower, c) ∈ [('i', 'İ'), ('i', 'ı'), ('s', 'ſ'), ('k', 'K')]

def familyOf (name : String) : Option (List Char) :=
  let cs := (pyStrip name).toList
  let letters := cs.takeWhile Char.isAlpha
  let digits := cs.dropWhile Char.isAlpha
  if letters ≠ [] ∧ letters.length ≤ 6 ∧ digits ≠ [] ∧ digits.length ≤ 3 ∧
      digits.all u.isDigit = true then some letters
  else none

/-- `_device_name_families`. -/
def deviceFamilies (names : List String) : List (List Char) := names.filterMap (familyOf u)

def isFamilyName (families : List (List Char)) (token : List Char) : Bool :=
  families.any (fun letters =>
    let digits := token.drop letters.length
    (letters.zip token).all (fun pair => sameLetter pair.1 pair.2) &&
      letters.length < token.length && digits.length ≤ 3 && digits.all u.isDigit)

def descentTexts (descent : DescentResult) : List String :=
  [descent.device, descent.subject] ++ (orNone descent.reason).toList ++ descent.evidenceKeys ++
    descent.outcomes.flatMap (fun outcome =>
      outcome.device :: (orNone outcome.result.subject).toList ++
        (orNone outcome.result.reason).toList ++ outcome.result.evidenceKeys)

def identifiersIn (text : String) : List String :=
  (((pieces separatesEvidence text).map cleanToken).filter (· ≠ [])).map
      (canonicalIdentifier lower u) ++
    (addressesIn u text).map lower

def evidenceIdentifiers (descent : DescentResult) : List String :=
  (descentTexts descent).flatMap (identifiersIn lower u)

def claimText : Value → Option String
  | .dict item =>
    match Dict.get? item "claim" with
    | some (.str text) => some text
    | _ => none
  | _ => none

def listProse (report : Dict) (key label : String) : List (String × String) :=
  match Dict.get? report key with
  | some (.list items) => items.zipIdx.filterMap (fun item =>
      (claimText item.1).map (fun text => (label ++ toString (item.2 + 1), text)))
  | _ => []

def reportProse (report : Dict) : List (String × String) :=
  listProse report "observations" "obs-" ++ listProse report "interpretations" "interpretation-" ++
    ((Dict.get? report "recommendation").bind claimText).toList.map
      (fun text => ("recommendation", text))

def namedIn (families : List (List Char)) (text : String) : List (List Char) :=
  (addressesIn u text).map String.toList ++
    ((pieces separatesProse text).map cleanToken).filter
      (fun token => (interfaceMatch u token).isSome || isFamilyName u families token)

def descentFamilies (descent : DescentResult) : List (List Char) :=
  deviceFamilies u (descent.device :: descent.outcomes.map RungOutcome.device)

def isContained (known : List String) (token : List Char) : Bool :=
  canonicalIdentifier lower u token ∈ known || lower (String.ofList token) ∈ known

def checkIdentifierContainment (report : Value) (descent : DescentResult) : GroundingResult :=
  match report with
  | .dict report =>
    let known := evidenceIdentifiers lower u descent
    let named := (reportProse report).flatMap (fun claim =>
      (namedIn u (descentFamilies u descent) claim.2).map (fun token => (claim.1, token)))
    { failures := (named.filter (fun token => !isContained lower u known token.2)).map
        (fun token => ⟨"uncontained_identifier", token.1, "names " ++
          repr (.str (String.ofList token.2)) ++ ", which appears nowhere in the descent's " ++
          "evidence; the descent read " ++ descent.device ++ " -> " ++ descent.subject⟩)
      identifiersChecked := named.length }
  | _ => {}

def checkRecommendationClosed (report : Value) (descent : DescentResult) : GroundingResult :=
  match report with
  | .dict report =>
    match Dict.get? report "recommendation" with
    | some (.dict recommendation) =>
      match Dict.get? recommendation "next_check" with
      | some (.str nextCheck) =>
        let authoritative := Render.nextCheckFor repr descent.finding
        if isBlank nextCheck then {}
        else if locus repr (.str nextCheck) = locus repr (.str authoritative) then
          { recommendationsChecked := 1 }
        else
          { refused "recommendation_not_closed" "recommendation"
              ("next_check must equal the descent's own recommendation, verbatim: " ++
                reprLocus repr (.str authoritative) ++ ". It is a closed field; a paraphrase " ++
                "may not supply a different next step, cause, or diagnosis, however plausible " ++
                "it sounds") with
            recommendationsChecked := 1 }
      | _ => {}
    | _ => {}
  | _ => {}

def UNSUPPORTED_CAUSE_VOCABULARY : List String :=
  ["application", "service running", "service is down", "configuration problem", "misconfigur",
    "firewall", "access list", "acl ", "security polic", "software bug", "software issue",
    "hardware failure", "process crash", "memory leak", "cpu utilization",
    "authentication issue", "certificate expir"]

def unsupportedCause (text : String) : Option String :=
  UNSUPPORTED_CAUSE_VOCABULARY.find? (fun phrase => pyContains (lower text) phrase)

def checkNoInventedCause (report : Value) (descent : DescentResult) : GroundingResult :=
  match report with
  | .dict report =>
    if descent.cause.isSome then {}
    else
      { failures := (reportProse report).filterMap (fun claim =>
          (unsupportedCause lower claim.2).map (fun phrase =>
            ⟨"unsupported_cause", claim.1, "proposes " ++ repr (.str phrase) ++ " as an " ++
              "explanation, but the descent named no cause (" ++ repr (.str descent.finding) ++
              "); a plausible-sounding cause is not one the evidence supports, and it reads " ++
              "exactly like a finding"⟩))
        inventedCauseChecked := (reportProse report).length }
  | _ => {}

end Grounding

end NetTools
