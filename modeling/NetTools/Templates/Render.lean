import NetTools.Templates.Parameters

/-!
# Rendering a command

The template table of `templates.py` and `render_command`: every parameter is parsed before the
command is put together, and the command is checked again afterwards.
-/

namespace NetTools

structure Template where
  name : String
  formatString : String
  params : List (String × ParamType)

def verbAllowlist : List String := ["show", "ping", "traceroute"]

def ciscoXrTemplates : List (String × Template) :=
  [("route", ⟨"route", "show route \x7bprefix\x7d", [("prefix", .ipv4Prefix)]⟩),
    ("bgp_neighbor",
      ⟨"bgp_neighbor", "show bgp neighbor \x7baddress\x7d", [("address", .ipv4Address)]⟩),
    ("interface",
      ⟨"interface", "show interfaces \x7binterface\x7d", [("interface", .interfaceName)]⟩),
    ("logging", ⟨"logging", "show logging last \x7bcount\x7d", [("count", .boundedInt 1 500)]⟩),
    ("ping", ⟨"ping", "ping \x7baddress\x7d", [("address", .ipv4Address)]⟩),
    ("traceroute",
      ⟨"traceroute", "traceroute \x7baddress\x7d", [("address", .ipv4Address)]⟩),
    ("config_isis", ⟨"config_isis", "show running-config router isis", []⟩),
    ("config_interface",
      ⟨"config_interface", "show running-config interface \x7binterface\x7d",
        [("interface", .interfaceName)]⟩),
    ("config_ldp", ⟨"config_ldp", "show running-config mpls ldp", []⟩),
    ("sr_policy_detail",
      ⟨"sr_policy_detail",
        "show segment-routing traffic-eng policy color \x7bcolor\x7d " ++
          "endpoint ipv4 \x7bendpoint\x7d detail",
        [("color", .boundedInt 0 4294967295), ("endpoint", .ipv4Address)]⟩)]

def ciscoIosxeTemplates : List (String × Template) :=
  [("route", ⟨"route", "show ip route \x7bprefix\x7d", [("prefix", .ipv4Prefix)]⟩),
    ("bgp_neighbor",
      ⟨"bgp_neighbor", "show ip bgp neighbors \x7baddress\x7d", [("address", .ipv4Address)]⟩)]

def platformTemplates : List (String × List (String × Template)) :=
  [("cisco_xr", ciscoXrTemplates), ("cisco_iosxe", ciscoIosxeTemplates)]

def templateFor (platform templateName : String) : Except TemplateError Template :=
  let templates := (platformTemplates.lookup platform).getD []
  match templates.lookup templateName with
  | some template => .ok template
  | none =>
    let names := ", ".intercalate (templates.map Prod.fst)
    let known := if names = "" then "(none)" else names
    .error (.unknownTemplate s!"Platform {platform} has no template: {templateName}. Known: {known}.")

inductive Piece where
  | literal (c : Char)
  | field (name : List Char)
deriving DecidableEq, Repr

def isWordChar (c : Char) : Bool := c.isAlphanum || c == '_'

/-- `_PLACEHOLDER_RE.finditer`, inside a brace and the word after it or outside. On format strings
whose braces are those of placeholders, `str.format` reads the same pieces. -/
def scan : Option (List Char) → List Char → List Piece
  | none, [] => []
  | some word, [] => .literal '\x7b' :: word.map .literal
  | none, c :: cs => if c = '\x7b' then scan (some []) cs else .literal c :: scan none cs
  | some word, c :: cs =>
    if c = '\x7d' ∧ word ≠ [] then .field word :: scan none cs
    else if isWordChar c then scan (some (word ++ [c])) cs
    else if c = '\x7b' then .literal '\x7b' :: (word.map .literal ++ scan (some []) cs)
    else .literal '\x7b' :: (word.map .literal ++ .literal c :: scan none cs)

/-- The text of a piece, `none` for a placeholder without a value. -/
def Piece.text (values : List (String × String)) : Piece → Option (List Char)
  | literal c => some [c]
  | field name => (values.lookup (String.ofList name)).map String.toList

/-- `format_string.format(**values)`, `none` for a `KeyError`. -/
def formatWith (formatString : String) (values : List (String × String)) : Option String :=
  ((scan none formatString.toList).mapM (Piece.text values)).map
    (fun texts => String.ofList texts.flatten)

/-- `_shape_pattern(format_string).fullmatch`: a placeholder stands for any non-empty text within a
line. -/
def shapeMatches : List Piece → List Char → Bool
  | [], [] => true
  | [], _ :: _ => false
  | _ :: _, [] => false
  | .literal p :: ps, c :: cs => p == c && shapeMatches ps cs
  | .field name :: ps, c :: cs =>
    c != '\n' && (shapeMatches ps cs || shapeMatches (.field name :: ps) cs)

def isSafeRenderedCommand (command : String) : Bool :=
  command != "" && command.toList.all (fun c => c.toNat < 128) &&
    command.toList.all (fun c => !(c.toNat < 0x20 || c ∈ forbiddenCharacters)) &&
    (String.ofList (command.toList.takeWhile (· ≠ ' '))) ∈ verbAllowlist

def validateRenderedCommand (command : String) (template : Template) :
    Except TemplateError Unit :=
  if !isSafeRenderedCommand command then
    .error (.validation ("rendered command failed the post-render safety check: " ++
      pyRepr command))
  else if !shapeMatches (scan none template.formatString.toList) command.toList then
    .error (.validation ("rendered command does not match template " ++ pyRepr template.name ++
      "'s expected shape: " ++ pyRepr command))
  else .ok ()

def renderParams (template : Template) :
    List (String × Value) → Except TemplateError (List (String × String))
  | [] => .ok []
  | (name, value) :: params =>
    match template.params.lookup name with
    | none => .error (.keyError name)
    | some type => do
      let out ← type.parse name value
      let rest ← renderParams template params
      pure ((name, out) :: rest)

def renderCommand (platform templateName : String) (params : List (String × Value)) :
    Except TemplateError String := do
  let template ← templateFor platform templateName
  let declared := template.params.map Prod.fst
  let supplied := params.map Prod.fst
  let missing := sortedNames (declared.filter (fun name => !(name ∈ supplied)))
  let extra := sortedNames (supplied.filter (fun name => !(name ∈ declared)))
  if missing ≠ [] ∨ extra ≠ [] then
    .error (.validation (templateName ++ ": parameter mismatch (missing=" ++
      pyReprStrings missing ++ ", unexpected=" ++ pyReprStrings extra ++ ")"))
  else do
    let renderedParams ← renderParams template params
    match formatWith template.formatString renderedParams with
    | none => .error (.keyError template.formatString)
    | some command => do
      validateRenderedCommand command template
      pure command

end NetTools
