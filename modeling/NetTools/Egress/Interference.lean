import NetTools.Egress.Boundary
import NetTools.Egress.Outside

/-!
# What a model cannot tell apart

Two payloads that are alike but for their raw output, unread lines, error details and declared
texts lead to the same result outside of its blocks, on either side of the boundary.
-/

namespace NetTools

section Alike

variable (kinds : List (String × String)) (lower : String → String)

/-- Two errors of one command and one kind. The strict form also wants both details to be empty or
neither. -/
def SameError (strict : Bool) (text text' : String) : Prop :=
  text = text' ∨ ∃ command detail detail',
    pyPartition text ": " = some (command, detail) ∧
    pyPartition text' ": " = some (command, detail') ∧
    kindOf kinds (lower text) = kindOf kinds (lower text') ∧
    (strict = true → (detail = "" ↔ detail' = ""))

variable (strict : Bool) (differ : String → String → String → Prop)

mutual

/-- The payloads are the same outside of what is raw in them, and of the texts that may differ under
their key. -/
def Alike : Value → Value → Prop
  | .dict entries, .dict entries' => AlikeEntries entries entries'
  | .list items, .list items' => AlikeItems items items'
  | v, w => v = w

def AlikeItems : List Value → List Value → Prop
  | [], [] => True
  | item :: items, item' :: items' => Alike item item' ∧ AlikeItems items items'
  | _, _ => False

def AlikeEntries : List (String × Value) → List (String × Value) → Prop
  | [], [] => True
  | (key, value) :: entries, (key', value') :: entries' =>
    key = key' ∧ AlikeUnder key value value' ∧ AlikeEntries entries entries'
  | _, _ => False

def AlikeUnder (key : String) : Value → Value → Prop
  | .dict entries, .dict entries' =>
    if key = "commands" then AlikeOutputs entries entries' else AlikeEntries entries entries'
  | .list items, .list items' =>
    if key = "unaccounted_lines" then items.length = items'.length
    else if key = "errors" then AlikeErrors items items'
    else AlikeItems items items'
  | .str text, .str text' => text = text' ∨ differ key text text'
  | v, w => v = w

/-- Outputs of the same commands, of the same lengths and numbers of lines. -/
def AlikeOutputs : List (String × Value) → List (String × Value) → Prop
  | [], [] => True
  | (command, .str output) :: entries, (command', .str output') :: entries' =>
    command = command' ∧ output.length = output'.length ∧
      (splitLines output).length = (splitLines output').length ∧ AlikeOutputs entries entries'
  | (command, value) :: entries, (command', value') :: entries' =>
    command = command' ∧ AlikeUnder command value value' ∧ AlikeOutputs entries entries'
  | _, _ => False

/-- Errors that may differ in the details of the texts. The strict form wants the other errors to
be the same. -/
def AlikeErrors : List Value → List Value → Prop
  | [], [] => True
  | .str text :: errors, .str text' :: errors' =>
    SameError kinds lower strict text text' ∧ AlikeErrors errors errors'
  | error :: errors, error' :: errors' =>
    (if strict then error = error' else Alike error error') ∧ AlikeErrors errors errors'
  | _, _ => False

end

end Alike

section Lengths

variable {kinds : List (String × String)} {lower : String → String} {strict : Bool}
  {differ : String → String → String → Prop}

lemma alikeItems_length {items items' : List Value}
    (h : AlikeItems kinds lower strict differ items items') :
    items.length = items'.length := by
  induction items generalizing items' with
  | nil =>
    cases items' with
    | nil => rfl
    | cons item' items' => exact absurd h (by simp [AlikeItems])
  | cons item items ih =>
    cases items' with
    | nil => exact absurd h (by simp [AlikeItems])
    | cons item' items' =>
      rw [AlikeItems] at h
      rw [List.length_cons, List.length_cons, ih h.2]

lemma alikeErrors_length {errors errors' : List Value}
    (h : AlikeErrors kinds lower strict differ errors errors') : errors.length = errors'.length := by
  induction errors generalizing errors' with
  | nil =>
    cases errors' with
    | nil => rfl
    | cons error' errors' => exact absurd h (by simp [AlikeErrors])
  | cons error errors ih =>
    cases errors' with
    | nil => exact absurd h (by simp [AlikeErrors])
    | cons error' errors' =>
      unfold AlikeErrors at h
      split at h
      · cases ‹_ :: _ = []›
      · rename_i heq heq'
        cases heq
        cases heq'
        rw [List.length_cons, List.length_cons, ih h.2]
      · rename_i heq heq'
        cases heq
        cases heq'
        rw [List.length_cons, List.length_cons, ih h.2]
      · exact h.elim

end Lengths

section Withheld

variable {kinds : List (String × String)} {repr : Value → String} {lower : String → String}
  {differ : String → String → String → Prop}

lemma classifyText_eq {text text' : String} (h : SameError kinds lower true text text') :
    classifyText kinds lower text = classifyText kinds lower text' := by
  rcases h with rfl | ⟨command, detail, detail', hparts, hparts', hkind, hempty⟩
  · rfl
  · rw [classifyText, classifyText, hparts, hparts', hkind]
    simp only [hempty rfl]

lemma classifyErrors_eq {errors errors' : List Value}
    (h : AlikeErrors kinds lower true differ errors errors') :
    classifyErrors kinds repr lower errors = classifyErrors kinds repr lower errors' := by
  have hmap : errors.map (fun error => Value.str (classifyText kinds lower (error.pyStr repr))) =
      errors'.map (fun error => Value.str (classifyText kinds lower (error.pyStr repr))) := by
    induction errors generalizing errors' with
    | nil =>
      cases errors' with
      | nil => rfl
      | cons error' errors' => exact absurd h (by simp [AlikeErrors])
    | cons error errors ih =>
      cases errors' with
      | nil => exact absurd h (by simp [AlikeErrors])
      | cons error' errors' =>
        rw [List.map_cons, List.map_cons]
        unfold AlikeErrors at h
        split at h
        · cases ‹_ :: _ = []›
        · rename_i text errors₁ text' errors₁' heq heq'
          cases heq
          cases heq'
          rw [ih h.2]
          simp only [Value.pyStr, classifyText_eq h.1]
        · rename_i error₁ errors₁ error₁' errors₁' hnot heq heq'
          cases heq
          cases heq'
          rw [if_pos rfl] at h
          rw [ih h.2, h.1]
        · exact h.elim
  rw [classifyErrors, classifyErrors, hmap]

lemma withheldOutput_eq {command note : String} {value value' : Value}
    (h : AlikeUnder kinds lower true differ command value value')
    (hother : ∀ output output', value = .str output → value' = .str output' → False) :
    withheldOutput note value = withheldOutput note value' := by
  unfold AlikeUnder at h
  split at h
  · rfl
  · rfl
  · exact (hother _ _ rfl rfl).elim
  · rw [h]

lemma withheldOutputs_eq {note : String} {commands commands' : Dict}
    (h : AlikeOutputs kinds lower true differ commands commands') :
    withheldOutputs note commands = withheldOutputs note commands' := by
  have hmap : commands.map (fun entry => (entry.1, withheldOutput note entry.2)) =
      commands'.map (fun entry => (entry.1, withheldOutput note entry.2)) := by
    induction commands generalizing commands' with
    | nil =>
      cases commands' with
      | nil => rfl
      | cons entry' commands' => exact absurd h (by simp [AlikeOutputs])
    | cons entry commands ih =>
      cases commands' with
      | nil => exact absurd h (by simp [AlikeOutputs])
      | cons entry' commands' =>
        rw [List.map_cons, List.map_cons]
        unfold AlikeOutputs at h
        split at h
        · cases ‹_ :: _ = []›
        · rename_i heq heq'
          cases heq
          cases heq'
          obtain ⟨hcommand, hlength, hlines, hrest⟩ := h
          rw [ih hrest, hcommand]
          simp only [withheldOutput, hlength, hlines]
        · rename_i hother heq heq'
          cases heq
          cases heq'
          obtain ⟨hcommand, hvalue, hrest⟩ := h
          rw [ih hrest, hcommand, withheldOutput_eq hvalue hother]
        · exact h.elim
  rw [withheldOutputs, withheldOutputs, hmap]

variable {rawTextKeys : List String} {withheldCommands : Dict → Value}
  {rebuild : List Value → Value}

lemma withheldEntryOf_eq (hlines : "unaccounted_lines" ∈ rawTextKeys)
    (hcommands : ∀ entries entries', AlikeOutputs kinds lower true differ entries entries' →
      withheldCommands entries = withheldCommands entries')
    (hrebuild : ∀ errors errors', AlikeErrors kinds lower true differ errors errors' →
      rebuild errors = rebuild errors')
    {key : String} {value value' : Value} (h : AlikeUnder kinds lower true differ key value value') :
    withheldEntryOf rawTextKeys withheldCommands rebuild key value =
      withheldEntryOf rawTextKeys withheldCommands rebuild key value' := by
  unfold AlikeUnder at h
  split at h
  · rw [withheldEntryOf, withheldEntryOf]
    split at h
    · rename_i hkey
      rw [if_pos hkey, if_pos hkey, hcommands _ _ h]
    · rename_i hkey
      rw [if_neg hkey, if_neg hkey]
  · rw [withheldEntryOf, withheldEntryOf]
    split at h
    · rename_i hkey
      rw [if_pos (hkey ▸ hlines), if_pos (hkey ▸ hlines), h]
    · split at h
      · rename_i hkey
        rw [alikeErrors_length h, hrebuild _ _ h]
      · rename_i hkey
        rw [alikeItems_length h, if_neg hkey, if_neg hkey]
  · rfl
  · rw [h]

lemma alike_of_under (hlines : "unaccounted_lines" ∈ rawTextKeys) {key : String}
    {value value' : Value} (h : AlikeUnder kinds lower true differ key value value')
    (hstr : value.isStr = false)
    (hwalked : withheldEntryOf rawTextKeys withheldCommands rebuild key value = none) :
    Alike kinds lower true differ value value' := by
  unfold AlikeUnder at h
  split at h
  · split at h
    · rename_i hkey
      rw [withheldEntryOf, if_pos hkey] at hwalked
      cases hwalked
    · rw [Alike]
      exact h
  · rw [withheldEntryOf] at hwalked
    split at h
    · rename_i hkey
      rw [if_pos (hkey ▸ hlines)] at hwalked
      cases hwalked
    · split at h
      · rename_i hkey
        rw [if_pos hkey] at hwalked
        split at hwalked <;> cases hwalked
      · rw [Alike]
        exact h
  · cases hstr
  · rename_i hdict hlist _
    unfold Alike
    split
    · exact (hdict _ _ rfl rfl).elim
    · exact (hlist _ _ rfl rfl).elim
    · exact h

end Withheld

section Walks

variable {kinds : List (String × String)} {repr : Value → String} {lower : String → String}
  {differ : String → String → String → Prop}

lemma forall₂_of_alikeItems {items items' : List Value}
    (h : AlikeItems kinds lower true differ items items') :
    List.Forall₂ (Alike kinds lower true differ) items items' := by
  induction items generalizing items' with
  | nil =>
    cases items' with
    | nil => exact .nil
    | cons item' items' => exact absurd h (by simp [AlikeItems])
  | cons item items ih =>
    cases items' with
    | nil => exact absurd h (by simp [AlikeItems])
    | cons item' items' =>
      rw [AlikeItems] at h
      exact .cons h.1 (ih h.2)

lemma forall₂_of_alikeEntries {entries entries' : List (String × Value)}
    (h : AlikeEntries kinds lower true differ entries entries') :
    List.Forall₂ (fun e e' => e.1 = e'.1 ∧ AlikeUnder kinds lower true differ e.1 e.2 e'.2)
      entries entries' := by
  induction entries generalizing entries' with
  | nil =>
    cases entries' with
    | nil => exact .nil
    | cons entry' entries' => exact absurd h (by simp [AlikeEntries])
  | cons entry entries ih =>
    cases entries' with
    | nil => exact absurd h (by simp [AlikeEntries])
    | cons entry' entries' =>
      rw [AlikeEntries] at h
      exact .cons ⟨h.1, h.2.1⟩ (ih h.2.2)

theorem respects_alike {W : Walker} {hidden : String → Bool} {rawTextKeys : List String}
    {note : String} (hlines : "unaccounted_lines" ∈ rawTextKeys)
    (hwithheld : W.withheld =
      withheldEntryOf rawTextKeys (withheldOutputs note) (classifyErrors kinds repr lower))
    (hdiffer : ∀ key text text', differ key text text' → W.isFree key = true ∧
      ∀ budget, (W.mark text budget).2 = (W.mark text' budget).2 ∧
        outsideUnder hidden key (W.mark text budget).1 =
          outsideUnder hidden key (W.mark text' budget).1) :
    W.Respects hidden (Alike kinds lower true differ) (AlikeUnder kinds lower true differ) where
  dict entries w h := by
    cases w with
    | dict entries' =>
      rw [Alike] at h
      exact ⟨entries', rfl, forall₂_of_alikeEntries h⟩
    | _ => exact absurd h (by simp [Alike])
  list items w h := by
    cases w with
    | list items' =>
      rw [Alike] at h
      exact ⟨items', rfl, forall₂_of_alikeItems h⟩
    | _ => exact absurd h (by simp [Alike])
  atom v w h hdict hlist := by
    unfold Alike at h
    split at h
    · exact absurd rfl (hdict _)
    · exact absurd rfl (hlist _)
    · exact h
  withheld key v w h := by
    rw [hwithheld]
    exact withheldEntryOf_eq hlines (fun _ _ => withheldOutputs_eq) (fun _ _ => classifyErrors_eq) h
  walked key v w h hstr hwalked := by
    rw [hwithheld] at hwalked
    exact alike_of_under hlines h hstr hwalked
  text key text w h := by
    cases w with
    | str text' =>
      rw [AlikeUnder] at h
      exact ⟨text', rfl, h.imp_right (hdiffer key text text')⟩
    | _ => exact absurd h (by simp [AlikeUnder])

end Walks

namespace ModelEgress

variable {lower : String → String} {differ : String → String → String → Prop}

lemma alikeUnder_get? {entries entries' : List (String × Value)}
    (h : AlikeEntries ERROR_KINDS lower true differ entries entries') (key : String) :
    (Dict.get? entries key = none ∧ Dict.get? entries' key = none) ∨
      ∃ value value', Dict.get? entries key = some value ∧ Dict.get? entries' key = some value' ∧
        AlikeUnder ERROR_KINDS lower true differ key value value' := by
  induction entries generalizing entries' with
  | nil =>
    cases entries' with
    | nil => exact .inl ⟨rfl, rfl⟩
    | cons entry' entries' => exact absurd h (by simp [AlikeEntries])
  | cons entry entries ih =>
    cases entries' with
    | nil => exact absurd h (by simp [AlikeEntries])
    | cons entry' entries' =>
      obtain ⟨key₁, value⟩ := entry
      obtain ⟨key₁', value'⟩ := entry'
      rw [AlikeEntries] at h
      obtain ⟨rfl, hvalue, hrest⟩ := h
      rw [Dict.get?, Dict.get?, List.lookup_cons, List.lookup_cons]
      by_cases hkey : key = key₁
      · right
        rw [beq_iff_eq.mpr hkey, hkey]
        exact ⟨value, value', rfl, rfl, hvalue⟩
      · rw [beq_eq_false_iff_ne.mpr hkey]
        exact ih hrest

lemma get?_eq_or {entries entries' : List (String × Value)}
    (h : AlikeEntries ERROR_KINDS lower true differ entries entries') {key : String}
    (hkey : ∀ text text', ¬differ key text text') :
    Dict.get? entries key = Dict.get? entries' key ∨
      (∃ inner inner', Dict.get? entries key = some (.dict inner) ∧
        Dict.get? entries' key = some (.dict inner') ∧
          AlikeUnder ERROR_KINDS lower true differ key (.dict inner) (.dict inner')) ∨
      ∃ items items', Dict.get? entries key = some (.list items) ∧
        Dict.get? entries' key = some (.list items') := by
  rcases alikeUnder_get? h key with ⟨hvalue, hvalue'⟩ | ⟨value, value', hvalue, hvalue', hunder⟩
  · left
    rw [hvalue, hvalue']
  · have hcopy := hunder
    unfold AlikeUnder at hunder
    split at hunder
    · exact .inr (.inl ⟨_, _, hvalue, hvalue', hcopy⟩)
    · exact .inr (.inr ⟨_, _, hvalue, hvalue'⟩)
    · left
      rw [hvalue, hvalue', hunder.resolve_right (hkey _ _)]
    · left
      rw [hvalue, hvalue', hunder]

lemma envelopeContext_eq {v w : Value} (h : Alike ERROR_KINDS lower true differ v w)
    (hnames : ∀ key ∈ ["data", "intent", "template"], ∀ text text', ¬differ key text text') :
    envelopeContext v = envelopeContext w := by
  cases v with
  | dict entries =>
    cases w with
    | dict entries' =>
      rw [Alike] at h
      unfold envelopeContext
      dsimp only
      rcases get?_eq_or h (hnames "data" (by decide)) with heq | ⟨data, data', hdata, hdata', hunder⟩ |
        ⟨items, items', hdata, hdata'⟩
      · rw [heq]
      · rw [hdata, hdata']
        rw [AlikeUnder, if_neg (by decide)] at hunder
        dsimp only
        rcases get?_eq_or hunder (hnames "intent" (by decide)) with
          hintent | ⟨_, _, hvalue, hvalue', -⟩ | ⟨_, _, hvalue, hvalue'⟩
        · rcases get?_eq_or hunder (hnames "template" (by decide)) with
            htemplate | ⟨_, _, hvalue, hvalue', -⟩ | ⟨_, _, hvalue, hvalue'⟩
          · rw [hintent, htemplate]
          · rw [hintent, hvalue, hvalue']
          · rw [hintent, hvalue, hvalue']
        · rw [hvalue, hvalue']
        · rw [hvalue, hvalue']
      · rw [hdata, hdata']
    | _ => exact absurd h (by simp [Alike])
  | list items =>
    cases w with
    | list items' => rfl
    | _ => exact absurd h (by simp [Alike])
  | _ =>
    rw [Alike] at h
    · rw [h]
    · simp
    · simp

end ModelEgress

def noText (_ _ _ : String) : Prop := False

lemma respects_noText {W : Walker} {kinds : List (String × String)} {repr : Value → String}
    {lower : String → String} {rawTextKeys : List String} {note : String}
    (hlines : "unaccounted_lines" ∈ rawTextKeys) (hwithheld : W.withheld =
      withheldEntryOf rawTextKeys (withheldOutputs note) (classifyErrors kinds repr lower))
    {v w : Value} (h : Alike kinds lower true noText v w) (budget : Int) :
    (W.walk v budget).1 = (W.walk w budget).1 := by
  have hW : W.Respects (fun _ => false) (Alike kinds lower true noText)
      (AlikeUnder kinds lower true noText) :=
    respects_alike hlines hwithheld (fun _ _ _ hdiffer => hdiffer.elim)
  have hout := (Walker.walk_outside hW v h budget).1
  rwa [outside_eq_self (fun _ => rfl), outside_eq_self (fun _ => rfl)] at hout

/-- Alike payloads lead to the same result on either side, and both sides rebuild an error alike. -/
theorem raw_output_interferes_not :
    (∀ (repr : Value → String) (lower : String → String) (payload payload' : Value),
      Alike ModelEgress.ERROR_KINDS lower true noText payload payload' →
      Boundary.sanitize repr lower payload = Boundary.sanitize repr lower payload' ∧
        ∀ budget, ModelEgress.projectEnvelope repr lower payload budget =
          ModelEgress.projectEnvelope repr lower payload' budget) ∧
    ∀ repr lower errors,
      Boundary.rebuildErrors repr lower errors = ModelEgress.rebuildErrors repr lower errors := by
  constructor
  · intro repr lower payload payload' h
    constructor
    · rw [← Boundary.errorKinds_eq] at h
      exact respects_noText (by decide) rfl h 0
    · intro budget
      rw [ModelEgress.projectEnvelope, ModelEgress.projectEnvelope,
        ModelEgress.envelopeContext_eq h (fun _ _ _ _ hdiffer => hdiffer)]
      exact respects_noText (by decide) rfl h _
  · intro repr lower errors
    rw [Boundary.rebuildErrors, ModelEgress.rebuildErrors, Boundary.errorKinds_eq]

def bgpResult (output line detail : String) : Value :=
  .dict [("data", .dict [("intent", .str "bgp"), ("commands", .dict [("show bgp", .str output)]),
      ("parsed", .dict [("unaccounted_lines", .list [.str line])])]),
    ("errors", .list [.str ("show bgp: " ++ detail)])]

theorem raw_output_interferes_not_bgpResult :
    Boundary.sanitize (fun _ => "") id (bgpResult "up" "x" "authentication failed") =
      Boundary.sanitize (fun _ => "") id (bgpResult "no" "yz" "no authentication") := by
  refine (raw_output_interferes_not.1 (fun _ => "") id _ _ ?_).1
  have herror : SameError ModelEgress.ERROR_KINDS id true "show bgp: authentication failed"
      "show bgp: no authentication" :=
    .inr ⟨"show bgp", "authentication failed", "no authentication", by decide +kernel, by decide +kernel,
      by decide +kernel, by decide⟩
  simp only [bgpResult, Alike, AlikeEntries, AlikeUnder, AlikeOutputs, AlikeErrors,
    String.reduceEq, if_true, if_false, List.length_cons, List.length_nil, true_and, and_true,
    true_or]
  exact ⟨by decide +kernel, herror⟩

/-- `repr` of a dict with one entry that holds a text under a text. -/
def nestedRepr : Value → String
  | .dict [(key, .dict [(inner, .str text)])] =>
    "\x7b" ++ pyRepr key ++ ": \x7b" ++ pyRepr inner ++ ": " ++ pyRepr text ++ "\x7d\x7d"
  | _ => ""

def errorsOf (error : Value) : Value := .dict [("errors", .list [error])]

def outputError (output : String) : Value :=
  .dict [("commands", .dict [("show version", .str output)])]

lemma kindOf_login :
    kindOf ModelEgress.ERROR_KINDS "authentication: " =
        some ("authentication", "authentication failed") ∧
      kindOf ModelEgress.ERROR_KINDS "authentication: x" =
        some ("authentication", "authentication failed") := by
  decide +kernel

lemma kindOf_outputError :
    kindOf ModelEgress.ERROR_KINDS (nestedRepr (outputError "authentication")) =
        some ("authentication", "authentication failed") ∧
      kindOf ModelEgress.ERROR_KINDS (nestedRepr (outputError "has timed out.")) =
        some ("timed out", "the read timed out") := by
  decide +kernel

lemma sanitize_errorsOf_ne {error error' : Value}
    (h : classifyText ModelEgress.ERROR_KINDS id (error.pyStr nestedRepr) ≠
      classifyText ModelEgress.ERROR_KINDS id (error'.pyStr nestedRepr)) :
    Boundary.sanitize nestedRepr id (errorsOf error) ≠
      Boundary.sanitize nestedRepr id (errorsOf error') := by
  intro heq
  apply h
  have hclassified : ∀ e, Boundary.sanitize nestedRepr id (errorsOf e) =
      errorsOf (.str (classifyText ModelEgress.ERROR_KINDS id (e.pyStr nestedRepr))) := by
    intro e
    rw [← Boundary.errorKinds_eq]
    rfl
  rw [hclassified, hclassified] at heq
  simpa only [errorsOf, Value.dict.injEq, Value.list.injEq, Value.str.injEq, List.cons.injEq,
    Prod.mk.injEq, and_true, true_and] using heq

/-- A detail that is empty in one payload, and an error that is not a text, tell two payloads
apart. -/
theorem raw_output_interferes :
    (Alike ModelEgress.ERROR_KINDS id false noText (errorsOf (.str "authentication: "))
        (errorsOf (.str "authentication: x")) ∧
      Boundary.sanitize nestedRepr id (errorsOf (.str "authentication: ")) ≠
        Boundary.sanitize nestedRepr id (errorsOf (.str "authentication: x"))) ∧
    (Alike ModelEgress.ERROR_KINDS id false noText (errorsOf (outputError "authentication"))
        (errorsOf (outputError "has timed out.")) ∧
      Boundary.sanitize nestedRepr id (errorsOf (outputError "authentication")) ≠
        Boundary.sanitize nestedRepr id (errorsOf (outputError "has timed out."))) := by
  have hdetail : SameError ModelEgress.ERROR_KINDS id false "authentication: " "authentication: x" :=
    .inr ⟨"authentication", "", "x", by decide +kernel, by decide +kernel,
      kindOf_login.1.trans kindOf_login.2.symm, by decide⟩
  have hdetails : classifyText ModelEgress.ERROR_KINDS id "authentication: " ≠
      classifyText ModelEgress.ERROR_KINDS id "authentication: x" := by
    rw [classifyText, classifyText, id, id, kindOf_login.1, kindOf_login.2]
    decide +kernel
  have houtputs : classifyText ModelEgress.ERROR_KINDS id (nestedRepr (outputError "authentication")) ≠
      classifyText ModelEgress.ERROR_KINDS id (nestedRepr (outputError "has timed out.")) := by
    rw [classifyText, classifyText, id, id, kindOf_outputError.1, kindOf_outputError.2]
    decide +kernel
  refine ⟨⟨?_, sanitize_errorsOf_ne hdetails⟩, ?_, sanitize_errorsOf_ne houtputs⟩
  · simp only [errorsOf, Alike, AlikeEntries, AlikeUnder, AlikeErrors, String.reduceEq, if_true,
      if_false, true_and, and_true]
    exact hdetail
  · simp only [errorsOf, outputError, Alike, AlikeEntries, AlikeUnder, AlikeErrors, AlikeOutputs,
      String.reduceEq, if_true, if_false, true_and, and_true, Bool.false_eq_true]
    decide +kernel

end NetTools
