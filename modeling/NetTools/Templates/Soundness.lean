import NetTools.Library.ListSearch
import NetTools.Templates.Render

/-!
# Commands do not leave their template

A rendered command is its template's format string token by token, with one canonical value in
the place of each placeholder.
-/

namespace NetTools

/-- A token of a format string: a placeholder of its own, or plain text. -/
def Template.TokenWellFormed (template : Template) (token : List Char) : Prop :=
  (∃ param ∈ template.params, template.params.lookup param.1 = some param.2 ∧
      scan none token = [.field param.1.toList]) ∨
    (scan none token = token.map .literal ∧ ∀ c ∈ token, isSafeChar c = true)

/-- What `tests/test_safety.py` asks of a registration, and that no placeholder touches another
character. -/
structure Template.WellFormed (template : Template) : Prop where
  pieces : (scan none template.formatString.toList).splitOn (.literal ' ') =
    (template.formatString.toList.splitOn ' ').map (scan none)
  tokens : ∀ token ∈ template.formatString.toList.splitOn ' ', template.TokenWellFormed token
  verb : ∃ verb ∈ verbAllowlist,
    (template.formatString.toList.splitOn ' ').head? = some verb.toList ∧
      scan none verb.toList = verb.toList.map .literal

instance (template : Template) (token : List Char) :
    Decidable (template.TokenWellFormed token) :=
  letI : Decidable (∀ c ∈ token, isSafeChar c = true) := List.decidableBAll _ _
  inferInstanceAs (Decidable (_ ∨ _))

instance (template : Template) : Decidable template.WellFormed :=
  decidable_of_iff (_ ∧ _ ∧ _)
    ⟨fun h => ⟨h.1, h.2.1, h.2.2⟩, fun h => ⟨h.pieces, h.tokens, h.verb⟩⟩

lemma wellFormed_of_registered :
    ∀ entry ∈ platformTemplates, ∀ template ∈ entry.2, template.2.WellFormed := by
  decide +kernel

lemma registered_of_templateFor {platform templateName : String} {template : Template}
    (h : templateFor platform templateName = .ok template) :
    ∃ entry ∈ platformTemplates, ∃ registered ∈ entry.2, registered.2 = template := by
  rw [templateFor] at h
  split at h
  · rename_i found hfound
    cases h
    have hmem := ListSearch.mem_of_lookup hfound
    cases hplatform : platformTemplates.lookup platform with
    | none =>
      rw [hplatform] at hmem
      cases hmem
    | some templates =>
      rw [hplatform] at hmem
      exact ⟨_, ListSearch.mem_of_lookup hplatform, _, hmem, rfl⟩
  · cases h

theorem wellFormed_of_templateFor {platform templateName : String} {template : Template}
    (h : templateFor platform templateName = .ok template) : template.WellFormed := by
  obtain ⟨entry, hentry, registered, hregistered, rfl⟩ := registered_of_templateFor h
  exact wellFormed_of_registered entry hentry registered hregistered

/-- Each value is declared, and is what its own parser makes of it. -/
def Template.Declares (template : Template) (values : List (String × String)) : Prop :=
  ∀ entry ∈ values, ∃ type, template.params.lookup entry.1 = some type ∧ Canonical type entry.2

variable {template : Template} {params : List (String × Value)}
variable {values : List (String × String)} {command platform templateName : String}

lemma renderParams_ok (h : renderParams template params = .ok values) :
    values.map Prod.fst = params.map Prod.fst ∧ template.Declares values := by
  induction params generalizing values with
  | nil =>
    cases h
    exact ⟨rfl, fun entry hentry => absurd hentry List.not_mem_nil⟩
  | cons param params ih =>
    obtain ⟨name, value⟩ := param
    rw [renderParams] at h
    split at h
    · cases h
    rename_i type htype
    cases hout : type.parse name value with
    | error e =>
      rw [hout] at h
      cases h
    | ok out =>
      cases hrest : renderParams template params with
      | error e =>
        rw [hout, hrest] at h
        cases h
      | ok rest =>
        rw [hout, hrest] at h
        cases h
        obtain ⟨hnames, hdeclared⟩ := ih hrest
        refine ⟨by rw [List.map_cons, List.map_cons, hnames], ?_⟩
        rw [Template.Declares, List.forall_mem_cons]
        exact ⟨⟨type, htype, canonical_of_parse hout⟩, hdeclared⟩

def asParams (values : List (String × String)) : List (String × Value) :=
  values.map (fun entry => (entry.1, .str entry.2))

lemma renderParams_asParams (h : template.Declares values) :
    renderParams template (asParams values) = .ok values := by
  induction values with
  | nil => rfl
  | cons entry values ih =>
    rw [Template.Declares, List.forall_mem_cons] at h
    obtain ⟨⟨type, htype, hcanonical⟩, hrest⟩ := h
    have hagain := ih hrest
    rw [asParams] at hagain ⊢
    rw [List.map_cons, renderParams, htype]
    simp only [hcanonical.fixed, hagain]
    rfl

/-! ### Tokens -/

def Piece.shown (values : List (String × String)) (piece : Piece) : List Char :=
  (piece.text values).getD []

lemma flatten_of_mapM {f : Piece → Option (List Char)} {pieces : List Piece}
    {texts : List (List Char)} (h : pieces.mapM f = some texts) :
    texts.flatten = pieces.flatMap (fun piece => (f piece).getD []) := by
  induction pieces generalizing texts with
  | nil =>
    cases h
    rfl
  | cons piece pieces ih =>
    rw [List.mapM_cons] at h
    cases hfirst : f piece with
    | none =>
      rw [hfirst] at h
      cases h
    | some text =>
      cases hrest : pieces.mapM f with
      | none =>
        rw [hfirst, hrest] at h
        cases h
      | some rest =>
        rw [hfirst, hrest] at h
        cases h
        rw [List.flatten_cons, ih hrest, List.flatMap_cons, hfirst]
        rfl

lemma toList_of_formatWith {formatString : String} (h : formatWith formatString values = some command) :
    command.toList = (scan none formatString.toList).flatMap (Piece.shown values) := by
  obtain ⟨texts, htexts, rfl⟩ := Option.map_eq_some_iff.mp h
  rw [String.toList_ofList, flatten_of_mapM htexts]
  rfl

lemma flatMap_literal (token : List Char) :
    (token.map Piece.literal).flatMap (Piece.shown values) = token := by
  induction token with
  | nil => rfl
  | cons c cs ih =>
    rw [List.map_cons, List.flatMap_cons, ih]
    rfl

lemma space_not_mem_shown (h : template.Declares values) {piece : Piece}
    (hne : piece ≠ .literal ' ') : ' ' ∉ piece.shown values := by
  cases piece with
  | literal c =>
    intro hmem
    have heq : ' ' = c := List.mem_singleton.mp hmem
    exact hne (heq ▸ rfl)
  | field name =>
    rw [Piece.shown, Piece.text]
    cases hlookup : values.lookup (String.ofList name) with
    | none => exact List.not_mem_nil
    | some out =>
      obtain ⟨type, -, hcanonical⟩ := h _ (ListSearch.mem_of_lookup hlookup)
      intro hmem
      have hsafe := hcanonical.safe ' ' hmem
      exact absurd hsafe (by decide)

lemma splitOn_of_formatWith (hwell : template.WellFormed) (h : template.Declares values)
    (hformat : formatWith template.formatString values = some command) :
    command.toList.splitOn ' ' = (template.formatString.toList.splitOn ' ').map
      (fun token => (scan none token).flatMap (Piece.shown values)) := by
  have hsep : Piece.shown values (.literal ' ') = [' '] := rfl
  rw [toList_of_formatWith hformat,
    ListSearch.splitOn_flatMap hsep (fun piece _ => space_not_mem_shown h), hwell.pieces,
    List.map_map]
  rfl

/-- The token that a command has where its format string has `token`: the token itself, or for a
placeholder the value of the parameter, which is what the parser makes of it again. -/
def Template.Fills (template : Template) (values : List (String × String))
    (token filled : List Char) : Prop :=
  match scan none token with
  | [.field name] => ∃ type out, template.params.lookup (String.ofList name) = some type ∧
      values.lookup (String.ofList name) = some out ∧ filled = out.toList ∧
        ∀ label, type.parse label (.str out) = .ok out
  | _ => filled = token

structure Template.Renders (template : Template) (values : List (String × String))
    (command : String) : Prop where
  tokens : List.Forall₂ (template.Fills values) (template.formatString.toList.splitOn ' ')
    (command.toList.splitOn ' ')
  verb : ∃ verb ∈ verbAllowlist, (command.toList.splitOn ' ').head? = some verb.toList
  plain : ∀ c ∈ command.toList, 0x20 ≤ c.toNat ∧ c.toNat ≠ 0x7F ∧ c ∉ forbiddenCharacters
  safe : isSafeRenderedCommand command = true

lemma fills_of_wellFormed {token : List Char} (htoken : template.TokenWellFormed token)
    (h : template.Declares values)
    (hall : ∀ param ∈ template.params, param.1 ∈ values.map Prod.fst) :
    template.Fills values token ((scan none token).flatMap (Piece.shown values)) := by
  rcases htoken with ⟨param, hparam, hlookup, hscan⟩ | ⟨hscan, -⟩
  · have hsome : (values.lookup param.1).isSome = true := by
      obtain ⟨entry, hentry, hname⟩ := List.mem_map.mp (hall param hparam)
      rw [List.lookup_isSome_iff]
      exact ⟨entry, hentry, by simp [hname]⟩
    obtain ⟨out, hout⟩ := Option.isSome_iff_exists.mp hsome
    obtain ⟨type, htype, hcanonical⟩ := h _ (ListSearch.mem_of_lookup hout)
    have hname : String.ofList param.1.toList = param.1 := String.ofList_toList
    rw [Template.Fills, hscan]
    refine ⟨type, out, ?_, ?_, ?_, hcanonical.fixed⟩
    · rw [hname]
      exact htype
    · rw [hname]
      exact hout
    · simp only [List.flatMap_cons, List.flatMap_nil, List.append_nil, Piece.shown, Piece.text,
        hname, hout, Option.map_some, Option.getD_some]
  · have hfilled : (scan none token).flatMap (Piece.shown values) = token := by
      rw [hscan, flatMap_literal]
    rw [hfilled, Template.Fills, hscan]
    split
    · rename_i name heq
      cases token with
      | nil => cases heq
      | cons c cs => cases heq
    · rfl

lemma isSafeChar_of_filled {token : List Char} (htoken : template.TokenWellFormed token)
    (h : template.Declares values) {c : Char}
    (hc : c ∈ (scan none token).flatMap (Piece.shown values)) : isSafeChar c = true := by
  rcases htoken with ⟨param, -, -, hscan⟩ | ⟨hscan, hsafe⟩
  · rw [hscan, List.flatMap_cons, List.flatMap_nil, List.append_nil, Piece.shown, Piece.text] at hc
    cases hout : values.lookup (String.ofList param.1.toList) with
    | none =>
      rw [hout] at hc
      cases hc
    | some out =>
      rw [hout] at hc
      obtain ⟨type, -, hcanonical⟩ := h _ (ListSearch.mem_of_lookup hout)
      exact hcanonical.safe c hc
  · rw [hscan, flatMap_literal] at hc
    exact hsafe c hc

lemma renders_of_formatWith (hwell : template.WellFormed) (h : template.Declares values)
    (hall : ∀ param ∈ template.params, param.1 ∈ values.map Prod.fst)
    (hformat : formatWith template.formatString values = some command)
    (hsafe : isSafeRenderedCommand command = true) : template.Renders values command := by
  have hsplit := splitOn_of_formatWith hwell h hformat
  have htokens : List.Forall₂ (template.Fills values)
      (template.formatString.toList.splitOn ' ') (command.toList.splitOn ' ') := by
    rw [hsplit, List.forall₂_map_right_iff, List.forall₂_same]
    exact fun token htoken => fills_of_wellFormed (hwell.tokens token htoken) h hall
  have hverb : ∃ verb ∈ verbAllowlist,
      (command.toList.splitOn ' ').head? = some verb.toList := by
    obtain ⟨verb, hmem, hhead, hscan⟩ := hwell.verb
    refine ⟨verb, hmem, ?_⟩
    rw [hsplit, List.head?_map, hhead, Option.map_some, hscan, flatMap_literal]
  have hplain : ∀ c ∈ command.toList,
      0x20 ≤ c.toNat ∧ c.toNat ≠ 0x7F ∧ c ∉ forbiddenCharacters := by
    intro c hc
    have hpart : c = ' ' ∨ ∃ part ∈ command.toList.splitOn ' ', c ∈ part :=
      ListSearch.eq_or_mem_part hc
    rcases hpart with rfl | ⟨part, hpart, hin⟩
    · decide
    · rw [hsplit] at hpart
      obtain ⟨token, htoken, rfl⟩ := List.mem_map.mp hpart
      have hchar := isSafeChar_of_filled (hwell.tokens token htoken) h hin
      obtain ⟨-, -, hcontrol, hforbidden⟩ := isSafeChar_iff.mp hchar
      rw [Bool.or_eq_false_iff, decide_eq_false_iff_not, beq_eq_false_iff_ne] at hcontrol
      exact ⟨not_lt.mp hcontrol.1, hcontrol.2, hforbidden⟩
  exact ⟨htokens, hverb, hplain, hsafe⟩

lemma validateRenderedCommand_ok (h : validateRenderedCommand command template = .ok ()) :
    isSafeRenderedCommand command = true := by
  rw [validateRenderedCommand] at h
  split at h
  · cases h
  · rename_i hsafe
    rw [Bool.not_eq_true', Bool.not_eq_false] at hsafe
    exact hsafe

lemma all_of_sortedNames {names others : List String}
    (h : sortedNames (names.filter (fun name => !(name ∈ others))) = []) :
    ∀ name ∈ names, name ∈ others := by
  intro name hname
  by_contra hmissing
  have hmem : name ∈ sortedNames (names.filter (fun name => !(name ∈ others))) := by
    rw [sortedNames, List.mem_insertionSort, List.mem_dedup, List.mem_filter]
    exact ⟨hname, by simpa using hmissing⟩
  rw [h] at hmem
  cases hmem

lemma renderCommand_ok (h : renderCommand platform templateName params = .ok command) :
    ∃ template values, templateFor platform templateName = .ok template ∧
      (∀ name ∈ template.params.map Prod.fst, name ∈ params.map Prod.fst) ∧
      (∀ name ∈ params.map Prod.fst, name ∈ template.params.map Prod.fst) ∧
      renderParams template params = .ok values ∧
      formatWith template.formatString values = some command ∧
      validateRenderedCommand command template = .ok () := by
  simp only [renderCommand, bind, Except.bind] at h
  split at h
  · cases h
  rename_i template htemplate
  split at h
  · cases h
  rename_i hmatch
  rw [not_or, not_not, not_not] at hmatch
  split at h
  · cases h
  rename_i values hvalues
  split at h
  · cases h
  rename_i text hformat
  split at h
  · cases h
  rename_i hvalid
  cases h
  exact ⟨template, values, htemplate, all_of_sortedNames hmatch.1, all_of_sortedNames hmatch.2,
    hvalues, hformat, hvalid⟩

lemma renderCommand_of {template : Template}
    (htemplate : templateFor platform templateName = .ok template)
    (hmissing : ∀ name ∈ template.params.map Prod.fst, name ∈ params.map Prod.fst)
    (hextra : ∀ name ∈ params.map Prod.fst, name ∈ template.params.map Prod.fst)
    (hvalues : renderParams template params = .ok values)
    (hformat : formatWith template.formatString values = some command)
    (hvalid : validateRenderedCommand command template = .ok ()) :
    renderCommand platform templateName params = .ok command := by
  have hempty : ∀ {names others : List String}, (∀ name ∈ names, name ∈ others) →
      sortedNames (names.filter (fun name => !(name ∈ others))) = [] := by
    intro names others hall
    have hfilter : names.filter (fun name => !(name ∈ others)) = [] := by
      rw [List.filter_eq_nil_iff]
      intro name hname
      simpa using hall name hname
    rw [hfilter]
    rfl
  simp only [renderCommand, bind, Except.bind, htemplate, hempty hmissing, hempty hextra, hvalues,
    hformat, hvalid]
  rfl

/-- A rendered command is its template's format string with one canonical value in the place of
each placeholder, and rendering those values gives the command again. -/
theorem renderCommand_renders (h : renderCommand platform templateName params = .ok command) :
    ∃ template values, templateFor platform templateName = .ok template ∧
      renderParams template params = .ok values ∧ template.Renders values command ∧
      renderCommand platform templateName (asParams values) = .ok command := by
  obtain ⟨template, values, htemplate, hmissing, hextra, hvalues, hformat, hvalid⟩ :=
    renderCommand_ok h
  obtain ⟨hnames, hdeclared⟩ := renderParams_ok hvalues
  have hagain : (asParams values).map Prod.fst = params.map Prod.fst := by
    rw [← hnames, asParams, List.map_map]
    rfl
  have hall : ∀ param ∈ template.params, param.1 ∈ values.map Prod.fst := by
    intro param hparam
    rw [hnames]
    exact hmissing param.1 (List.mem_map_of_mem hparam)
  refine ⟨template, values, htemplate, hvalues, ?_, ?_⟩
  · exact renders_of_formatWith (wellFormed_of_templateFor htemplate) hdeclared hall hformat
      (validateRenderedCommand_ok hvalid)
  · rw [← hagain] at hmissing hextra
    exact renderCommand_of htemplate hmissing hextra (renderParams_asParams hdeclared) hformat
      hvalid

theorem renderCommand_renders_route :
    ∃ template values, templateFor "cisco_xr" "route" = .ok template ∧
      renderParams template [("prefix", .str "10.0.0.7/8")] = .ok values ∧
      template.Renders values "show route 10.0.0.0/8" ∧
      renderCommand "cisco_xr" "route" (asParams values) = .ok "show route 10.0.0.0/8" :=
  renderCommand_renders (by decide +kernel)

end NetTools
