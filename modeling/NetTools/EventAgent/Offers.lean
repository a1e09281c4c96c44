import NetTools.EventAgent.Gate
import NetTools.Library.ListSearch
import NetTools.Python.Ipaddress

/-!
# What a model may call

`model_ingress.py`: the pin table, the offers built from a live manifest, and the arguments of a
call. A pinned argument comes from the context of the event, any other from a closed vocabulary.
-/

namespace NetTools

inductive Uncaught where
  | typeError
  | valueError
  | overflowError
  | recursionError
  | delivery
deriving DecidableEq, Repr

inductive ContextAttr where
  | device
  | subject
  | flow
deriving DecidableEq, Repr

/-- `getattr(context, attr)`. -/
def PinnedContext.attr (context : PinnedContext) : ContextAttr → Option String
  | .device => some context.device
  | .subject => context.subject
  | .flow => context.flow

/-- `ParamRole`, with the fields of `ParamSpec` that apply to the role. -/
inductive ParamRole where
  | pinned (attr : ContextAttr) (shapeCheck : String → Bool)
  | enumerated (choices : List String) (required : Bool)

structure ParamSpec where
  name : String
  role : ParamRole

def isIpv4Host (value : String) : Bool := (Ipaddress.IPv4Address.ofText value).isSome

def investigateLabFlows : List String := ["bgp_session", "interface", "isis_adjacency", "ldp_session"]

def isKnownInvestigateFlow (value : String) : Bool := value ∈ investigateLabFlows

/-- No `shape_check`. -/
def anyShape (_ : String) : Bool := true

def pinTable : List (String × List ParamSpec) :=
  [("explore_lab", [⟨"device_name", .pinned .device anyShape⟩]),
    ("check_lab",
      [⟨"scope", .pinned .device anyShape⟩,
        ⟨"intent", .enumerated ["facts", "interfaces", "bgp", "lldp", "isis", "sr"] false⟩]),
    ("investigate_lab",
      [⟨"device_name", .pinned .device anyShape⟩,
        ⟨"subject", .pinned .subject anyShape⟩,
        ⟨"flow", .pinned .flow isKnownInvestigateFlow⟩]),
    ("history_lab",
      [⟨"device_name", .pinned .device anyShape⟩,
        ⟨"mode", .enumerated ["latest_diff", "golden_diff", "flaps"] false⟩]),
    ("probe_lab",
      [⟨"device_name", .pinned .device anyShape⟩,
        ⟨"kind", .enumerated ["ping", "traceroute"] true⟩,
        ⟨"address", .pinned .subject isIpv4Host⟩])]

def structurallyExcludedTools : List String := ["expand_lab_evidence", "lookup_lab"]

def offeredTools : List String := ["explore_lab", "check_lab", "investigate_lab", "history_lab"]

structure LiveTool where
  name : Value
  description : Value
  inputSchema : Value

/-- The fields of an offered `input_schema` that differ from tool to tool. -/
structure OfferedSchema where
  properties : List (String × Dict)
  required : List String

structure ToolOffer where
  name : String
  description : String
  inputSchema : OfferedSchema
  pinned : List (String × String)
  enumerated : List (String × List String)

/-- One element of the argument of `dict(...)`. An entry whose key is not a text is left out. -/
def dictEntry : Value → Except Uncaught Dict
  | .list [.str key, value] => .ok [(key, value)]
  | .list [.list _, _] => .error .typeError
  | .list [.dict _, _] => .error .typeError
  | .list [_, _] => .ok []
  | .str text =>
    match text.toList with
    | [key, value] => .ok [(String.singleton key, .str (String.singleton value))]
    | _ => .error .valueError
  | .dict [(key, _), (value, _)] => .ok [(key, .str value)]
  | .list _ => .error .valueError
  | .dict _ => .error .valueError
  | _ => .error .typeError

/-- `dict(value)`. -/
def dictOf : Value → Except Uncaught Dict
  | .dict entries => .ok entries
  | .list items => (items.mapM dictEntry).map List.flatten
  | .str text => if text = "" then .ok [] else .error .valueError
  | _ => .error .typeError

/-- The loop of `_build_one_offer` over the parameters, `none` where it excludes the tool. -/
def collectSpecs (properties : Dict) (context : PinnedContext) :
    List ParamSpec → ToolOffer → Except Uncaught (Option ToolOffer)
  | [], offer => .ok (some offer)
  | spec :: specs, offer =>
    match properties.get? spec.name with
    | none => .ok none
    | some property =>
      match spec.role with
      | .pinned attr shapeCheck =>
        match context.attr attr with
        | none => .ok none
        | some value =>
          if shapeCheck value then
            collectSpecs properties context specs
              { offer with pinned := offer.pinned ++ [(spec.name, value)] }
          else .ok none
      | .enumerated choices required =>
        match dictOf property with
        | .error e => .error e
        | .ok copy =>
          let schema := offer.inputSchema
          collectSpecs properties context specs
            { offer with
              enumerated := offer.enumerated ++ [(spec.name, choices)]
              inputSchema :=
                { properties := schema.properties ++ [(spec.name, copy)]
                  required := if required then schema.required ++ [spec.name]
                    else schema.required } }

def buildOneOffer (tool : LiveTool) (specs : List ParamSpec) (context : PinnedContext) :
    Except Uncaught (Option ToolOffer) :=
  match tool.name, tool.description, tool.inputSchema with
  | .str name, .str description, .dict schema =>
    match Dict.get? schema "properties" with
    | some (.dict properties) =>
      if (Dict.keys properties).all (· ∈ specs.map ParamSpec.name) then
        collectSpecs properties context specs ⟨name, description, ⟨[], []⟩, [], []⟩
      else .ok none
    | _ => .ok none
  | _, _, _ => .ok none

def buildOffers (context : PinnedContext) (allowlist : List String) :
    List LiveTool → Except Uncaught (List ToolOffer)
  | [] => .ok []
  | tool :: tools =>
    match tool.name with
    | .list _ => .error .typeError
    | .dict _ => .error .typeError
    | .str name =>
      if name ∉ allowlist ∨ name ∈ structurallyExcludedTools then buildOffers context allowlist tools
      else
        match pinTable.lookup name with
        | none => buildOffers context allowlist tools
        | some specs => do
          let offer ← buildOneOffer tool specs context
          let offers ← buildOffers context allowlist tools
          pure (offer.toList ++ offers)
    | _ => buildOffers context allowlist tools

/-- `repr` of a tuple of strings. -/
def pyReprTuple (items : List String) : String :=
  match items with
  | [item] => "(" ++ pyRepr item ++ ",)"
  | _ => "(" ++ ", ".intercalate (items.map pyRepr) ++ ")"

/-- How `resolve_arguments` fails: with an `ArgumentRefusal`, or with what printing a value or
sorting the keys raises. -/
inductive ArgumentError where
  | refusal (message : String)
  | raised (e : Uncaught)

/-- How `repr` prints a value, and what it raises for one that it cannot print. -/
structure Printer where
  repr : Value → String
  raises : Value → Option Uncaught

def Printer.refusal (printer : Printer) (offer : ToolOffer) (key : String) (choices : List String)
    (value : Value) : ArgumentError :=
  match printer.raises value with
  | some e => .raised e
  | none => .refusal (offer.name ++ "." ++ key ++ ": " ++ printer.repr value ++ " is not one of " ++
      pyReprTuple choices ++ "; refused in full, never resolved to the nearest valid value")

/-- The last loop of `resolve_arguments`: the first value outside its vocabulary. -/
def outsideChoices (printer : Printer) (offer : ToolOffer) : Dict → Option ArgumentError
  | [] => none
  | (key, value) :: supplied =>
    let choices := (offer.enumerated.lookup key).getD []
    match value with
    | .str text =>
      if text ∈ choices then outsideChoices printer offer supplied
      else some (printer.refusal offer key choices value)
    | _ => some (printer.refusal offer key choices value)

def unknownArguments (offer : ToolOffer) (unknown : String) : ArgumentError :=
  .refusal (offer.name ++ ": unknown argument(s) " ++ unknown ++ "; only " ++
    pyReprStrings (sortedNames (offer.enumerated.map Prod.fst)) ++ " may be supplied")

/-- `resolve_arguments`. Where some keys are not texts, `others` is what sorting and printing the
unknown ones gives: a `TypeError` for keys that do not compare. -/
def resolveArguments (printer : Printer) (offer : ToolOffer) (modelSupplied : Value)
    (others : Option (Except Uncaught String)) : Except ArgumentError Dict :=
  match modelSupplied with
  | .dict supplied =>
    let keys := Dict.keys supplied
    let collisions := sortedNames (keys.filter (fun key => key ∈ offer.pinned.map Prod.fst))
    let unknown := sortedNames (keys.filter (fun key => !(key ∈ offer.enumerated.map Prod.fst)))
    if collisions ≠ [] then
      .error (.refusal (offer.name ++ ": the model supplied pinned argument(s) " ++
        pyReprStrings collisions ++ "; refusing rather than silently overwriting -- a validated " ++
        "value already came from context (B-459, MCP-EXPERIMENT.md S6.3), and a silent " ++
        "overwrite would hide the one measurement this design exists to produce: how often an " ++
        "unattended model tries to fabricate an identity argument"))
    else
      match others with
      | some (.error e) => .error (.raised e)
      | some (.ok names) => .error (unknownArguments offer names)
      | none =>
        if unknown ≠ [] then .error (unknownArguments offer (pyReprStrings unknown))
        else
          match offer.inputSchema.required.find? (fun key => !(key ∈ keys)) with
          | some key => .error (.refusal (offer.name ++ ": missing required argument " ++ pyRepr key))
          | none =>
            match outsideChoices printer offer supplied with
            | some e => .error e
            | none => .ok (offer.pinned.map (fun entry => (entry.1, .str entry.2)) ++ supplied)
  | other =>
    .error (.refusal (offer.name ++ ": arguments must be a JSON object, got " ++ other.typeName))

def pinnedBy (context : PinnedContext) (specs : List ParamSpec) : List (String × String) :=
  specs.filterMap (fun spec =>
    match spec.role with
    | .pinned attr _ => (context.attr attr).map (fun value => (spec.name, value))
    | .enumerated _ _ => none)

def enumeratedBy (specs : List ParamSpec) : List (String × List String) :=
  specs.filterMap (fun spec =>
    match spec.role with
    | .pinned _ _ => none
    | .enumerated choices _ => some (spec.name, choices))

/-- The context has every value that the parameters pin, in the shape that they ask for. -/
def PinsAll (context : PinnedContext) (specs : List ParamSpec) : Prop :=
  ∀ spec ∈ specs, ∀ attr shapeCheck, spec.role = .pinned attr shapeCheck →
    ∃ value, context.attr attr = some value ∧ shapeCheck value = true

/-- An offer pins what the table says, from the context, and leaves the rest of the table open. -/
structure ToolOffer.Follows (offer : ToolOffer) (context : PinnedContext) : Prop where
  offered : offer.name ∈ offeredTools
  table : ∃ specs, pinTable.lookup offer.name = some specs ∧ PinsAll context specs ∧
    offer.pinned = pinnedBy context specs ∧ offer.enumerated = enumeratedBy specs

variable {context : PinnedContext}

lemma collectSpecs_some {properties : Dict} {specs : List ParamSpec} {offer out : ToolOffer}
    (h : collectSpecs properties context specs offer = .ok (some out)) :
    out.name = offer.name ∧ PinsAll context specs ∧
      out.pinned = offer.pinned ++ pinnedBy context specs ∧
      out.enumerated = offer.enumerated ++ enumeratedBy specs := by
  induction specs generalizing offer with
  | nil =>
    cases h
    refine ⟨rfl, ?_, (List.append_nil _).symm, (List.append_nil _).symm⟩
    exact fun spec hspec => absurd hspec List.not_mem_nil
  | cons spec specs ih =>
    rw [collectSpecs] at h
    split at h
    · cases h
    split at h
    · rename_i attr shapeCheck hrole
      split at h
      · cases h
      rename_i value hvalue
      split at h
      · rename_i hshape
        obtain ⟨hname, hall, hpinned, henumerated⟩ := ih h
        refine ⟨hname, ?_, ?_, ?_⟩
        · refine List.forall_mem_cons.mpr ⟨fun a c hac => ?_, hall⟩
          rw [hrole] at hac
          cases hac
          exact ⟨value, hvalue, hshape⟩
        · rw [hpinned, pinnedBy, pinnedBy, List.filterMap_cons, hrole]
          simp only [hvalue, Option.map_some, List.append_assoc, List.singleton_append]
        · rw [henumerated, enumeratedBy, enumeratedBy, List.filterMap_cons, hrole]
      · cases h
    · rename_i choices required hrole
      split at h
      · cases h
      obtain ⟨hname, hall, hpinned, henumerated⟩ := ih h
      refine ⟨hname, ?_, ?_, ?_⟩
      · refine List.forall_mem_cons.mpr ⟨fun a c hac => ?_, hall⟩
        rw [hrole] at hac
        cases hac
      · rw [hpinned, pinnedBy, pinnedBy, List.filterMap_cons, hrole]
      · rw [henumerated, enumeratedBy, enumeratedBy, List.filterMap_cons, hrole]
        simp only [List.append_assoc, List.singleton_append]

lemma buildOneOffer_some {tool : LiveTool} {name : String} {specs : List ParamSpec}
    {offer : ToolOffer} (hname : tool.name = .str name)
    (h : buildOneOffer tool specs context = .ok (some offer)) :
    offer.name = name ∧ PinsAll context specs ∧ offer.pinned = pinnedBy context specs ∧
      offer.enumerated = enumeratedBy specs := by
  rw [buildOneOffer, hname] at h
  split at h
  · rename_i given description schema hgiven _ _
    cases hgiven
    split at h
    · split at h
      · exact collectSpecs_some h
      · cases h
    · cases h
  · cases h

theorem buildOffers_follows {tools : List LiveTool} {offers : List ToolOffer}
    (h : buildOffers context offeredTools tools = .ok offers) :
    ∀ offer ∈ offers, offer.Follows context := by
  induction tools generalizing offers with
  | nil =>
    cases h
    exact fun offer hoffer => absurd hoffer List.not_mem_nil
  | cons tool tools ih =>
    rw [buildOffers] at h
    split at h
    · cases h
    · cases h
    · rename_i name hname
      split at h
      · exact ih h
      rename_i hallowed
      split at h
      · exact ih h
      rename_i specs hspecs
      cases hoffer : buildOneOffer tool specs context with
      | error e =>
        rw [hoffer] at h
        cases h
      | ok built =>
        cases hrest : buildOffers context offeredTools tools with
        | error e =>
          rw [hoffer, hrest] at h
          cases h
        | ok rest =>
          rw [hoffer, hrest] at h
          cases h
          intro offer hmem
          rcases List.mem_append.mp hmem with hmem | hmem
          · rw [Option.mem_toList] at hmem
            rw [hmem] at hoffer
            obtain ⟨hsame, hall, hpinned, henumerated⟩ := buildOneOffer_some hname hoffer
            have hin : name ∈ offeredTools := by
              by_contra hout
              exact hallowed (.inl hout)
            exact ⟨hsame ▸ hin, specs, hsame ▸ hspecs, hall, hpinned, henumerated⟩
          · exact ih hrest offer hmem
    · exact ih h

end NetTools
