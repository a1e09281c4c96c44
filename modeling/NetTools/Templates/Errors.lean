import NetTools.Templates.Soundness

/-!
# How rendering fails

On a registered template, whatever is wrong with the parameters is a `TemplateValidationError`. And
no rendered command holds a colon, so that an error that begins with a command names its command.
-/

namespace NetTools

open Ipaddress

variable {name label : String} {value : Value} {e : TemplateError}

/-- The error is a `TemplateValidationError`. -/
def TemplateError.IsValidation (error : TemplateError) : Prop :=
  ∃ message, error = .validation message

lemma rejectUnsafeText_error (h : rejectUnsafeText name value = .error e) : e.IsValidation := by
  cases value with
  | str text =>
    rw [rejectUnsafeText] at h
    split at h
    · cases h
      exact ⟨_, rfl⟩
    · split at h
      · cases h
        exact ⟨_, rfl⟩
      · split at h
        · cases h
          exact ⟨_, rfl⟩
        · split at h
          · cases h
            exact ⟨_, rfl⟩
          · cases h
  | none =>
    cases h
    exact ⟨_, rfl⟩
  | bool b =>
    cases h
    exact ⟨_, rfl⟩
  | int i =>
    cases h
    exact ⟨_, rfl⟩
  | float q =>
    cases h
    exact ⟨_, rfl⟩
  | list items =>
    cases h
    exact ⟨_, rfl⟩
  | dict entries =>
    cases h
    exact ⟨_, rfl⟩

lemma error_of_bind {f : String → Except TemplateError String}
    (hf : ∀ text error, f text = .error error → error.IsValidation)
    (h : (rejectUnsafeText name value >>= f) = .error e) : e.IsValidation := by
  cases htext : rejectUnsafeText name value with
  | error other =>
    rw [htext] at h
    cases h
    exact rejectUnsafeText_error htext
  | ok text =>
    rw [htext] at h
    exact hf text e h

lemma parse_error {type : ParamType} (h : type.parse name value = .error e) : e.IsValidation := by
  cases type with
  | ipv4Address =>
    refine error_of_bind (fun text error herror => ?_) h
    split at herror
    · cases herror
    · cases herror
      exact ⟨_, rfl⟩
  | ipv4Prefix =>
    refine error_of_bind (fun text error herror => ?_) h
    split at herror
    · cases herror
    · cases herror
      exact ⟨_, rfl⟩
  | interfaceName =>
    refine error_of_bind (fun text error herror => ?_) h
    split at herror
    · cases herror
      exact ⟨_, rfl⟩
    · split at herror
      · cases herror
        exact ⟨_, rfl⟩
      · cases herror
  | boundedInt minimum maximum =>
    refine error_of_bind (fun text error herror => ?_) h
    split at herror
    · cases herror
      exact ⟨_, rfl⟩
    · split at herror
      · cases herror
      · cases herror
        exact ⟨_, rfl⟩

variable {template : Template} {params : List (String × Value)}
variable {values : List (String × String)} {command platform templateName : String}

lemma renderParams_error (hdeclared : ∀ name ∈ params.map Prod.fst,
    name ∈ template.params.map Prod.fst) (h : renderParams template params = .error e) :
    e.IsValidation := by
  induction params with
  | nil => cases h
  | cons param params ih =>
    obtain ⟨name, value⟩ := param
    rw [List.map_cons, List.forall_mem_cons] at hdeclared
    obtain ⟨entry, hentry, hname⟩ := List.mem_map.mp hdeclared.1
    have hsome : (template.params.lookup name).isSome = true := by
      rw [List.lookup_isSome_iff]
      exact ⟨entry, hentry, by simp [hname]⟩
    obtain ⟨type, htype⟩ := Option.isSome_iff_exists.mp hsome
    rw [renderParams, htype] at h
    dsimp only at h
    cases hout : type.parse name value with
    | error other =>
      rw [hout] at h
      cases h
      exact parse_error hout
    | ok out =>
      rw [hout] at h
      cases hrest : renderParams template params with
      | error other =>
        rw [hrest] at h
        cases h
        exact ih hdeclared.2 hrest
      | ok rest =>
        rw [hrest] at h
        cases h

lemma formatWith_isSome (hwell : template.WellFormed)
    (hall : ∀ param ∈ template.params, param.1 ∈ values.map Prod.fst) :
    (formatWith template.formatString values).isSome = true := by
  have hpieces : ∀ piece ∈ scan none template.formatString.toList,
      (piece.text values).isSome = true := by
    intro piece hpiece
    have hpart : piece = .literal ' ' ∨
        ∃ part ∈ (scan none template.formatString.toList).splitOn (.literal ' '), piece ∈ part :=
      ListSearch.eq_or_mem_part hpiece
    rcases hpart with rfl | ⟨part, hpart, hin⟩
    · rfl
    · rw [hwell.pieces] at hpart
      obtain ⟨token, htoken, rfl⟩ := List.mem_map.mp hpart
      rcases hwell.tokens token htoken with ⟨param, hparam, -, hscan⟩ | ⟨hscan, -⟩
      · rw [hscan, List.mem_singleton] at hin
        obtain ⟨entry, hentry, hname⟩ := List.mem_map.mp (hall param hparam)
        rw [hin, Piece.text, Option.isSome_map, String.ofList_toList, List.lookup_isSome_iff]
        exact ⟨entry, hentry, by simp [hname]⟩
      · rw [hscan] at hin
        obtain ⟨c, -, rfl⟩ := List.mem_map.mp hin
        rfl
  have hmap : ∀ pieces : List Piece, (∀ piece ∈ pieces, (piece.text values).isSome = true) →
      (pieces.mapM (Piece.text values)).isSome = true := by
    intro pieces
    induction pieces with
    | nil => exact fun _ => rfl
    | cons piece pieces ih =>
      intro h
      rw [List.forall_mem_cons] at h
      obtain ⟨text, htext⟩ := Option.isSome_iff_exists.mp h.1
      obtain ⟨texts, htexts⟩ := Option.isSome_iff_exists.mp (ih h.2)
      rw [List.mapM_cons, htext, htexts]
      rfl
  rw [formatWith, Option.isSome_map]
  exact hmap _ hpieces

lemma validateRenderedCommand_error (h : validateRenderedCommand command template = .error e) :
    e.IsValidation := by
  rw [validateRenderedCommand] at h
  split at h
  · cases h
    exact ⟨_, rfl⟩
  · split at h
    · cases h
      exact ⟨_, rfl⟩
    · cases h

theorem renderCommand_error (htemplate : templateFor platform templateName = .ok template)
    (h : renderCommand platform templateName params = .error e) : e.IsValidation := by
  simp only [renderCommand, bind, Except.bind, htemplate] at h
  split at h
  · cases h
    exact ⟨_, rfl⟩
  rename_i hmatch
  rw [not_or, not_not, not_not] at hmatch
  have hdeclared := all_of_sortedNames hmatch.2
  split at h
  · rename_i other hother
    cases h
    exact renderParams_error hdeclared hother
  rename_i values hvalues
  have hnames := (renderParams_ok hvalues).1
  have hall : ∀ param ∈ template.params, param.1 ∈ values.map Prod.fst := by
    intro param hparam
    rw [hnames]
    exact all_of_sortedNames hmatch.1 param.1 (List.mem_map_of_mem hparam)
  obtain ⟨text, htext⟩ := Option.isSome_iff_exists.mp
    (formatWith_isSome (wellFormed_of_templateFor htemplate) hall)
  rw [htext] at h
  dsimp only at h
  split at h
  · rename_i other hother
    cases h
    exact validateRenderedCommand_error hother
  · cases h

lemma isInterfaceChar_of_isDigit {c : Char} (h : c.isDigit = true) : isInterfaceChar c = true := by
  have halphanum : c.isAlphanum = true := by
    rw [Char.isAlphanum, h, Bool.or_true]
  rw [isInterfaceChar, halphanum]
  rfl

lemma isInterfaceChar_of_mem_dotted {c : Char} {ip : Nat} (h : c ∈ dotted ip) :
    isInterfaceChar c = true := by
  rcases of_mem_dotted h with rfl | hdigit
  · decide
  · exact isInterfaceChar_of_isDigit hdigit

lemma isInterfaceChar_of_mem_toDigits {c : Char} {n : Nat} (h : c ∈ Nat.toDigits 10 n) :
    isInterfaceChar c = true :=
  isInterfaceChar_of_isDigit (Nat.isDigit_of_mem_toDigits (by decide) (by decide) h)

variable {out : String}

lemma isInterfaceChar_of_parse {type : ParamType} (h : type.parse name value = .ok out) :
    ∀ c ∈ out.toList, isInterfaceChar c = true := by
  intro c hc
  cases type with
  | ipv4Address =>
    simp only [ParamType.parse, parseIpv4Address, bind, Except.bind] at h
    split at h
    · cases h
    split at h
    · cases h
      rw [IPv4Address.text, String.toList_ofList] at hc
      exact isInterfaceChar_of_mem_dotted hc
    · cases h
  | ipv4Prefix =>
    simp only [ParamType.parse, parseIpv4Prefix, bind, Except.bind] at h
    split at h
    · cases h
    split at h
    · rename_i parsed _
      cases h
      have htext : ['/'].intercalate [dotted parsed.address, Nat.toDigits 10 parsed.prefixlen] =
          dotted parsed.address ++ '/' :: Nat.toDigits 10 parsed.prefixlen := by
        simp [List.intercalate_cons_cons]
      rw [IPv4Network.text, htext, String.toList_ofList, List.mem_append, List.mem_cons] at hc
      rcases hc with hc | rfl | hc
      · exact isInterfaceChar_of_mem_dotted hc
      · decide
      · exact isInterfaceChar_of_mem_toDigits hc
    · cases h
  | interfaceName =>
    simp only [ParamType.parse, parseInterfaceName, bind, Except.bind] at h
    split at h
    · cases h
    split at h
    · cases h
    rename_i hshape
    rw [Bool.not_eq_true', Bool.not_eq_false] at hshape
    split at h
    · cases h
    cases h
    cases htext : out.toList with
    | nil =>
      rw [htext] at hc
      cases hc
    | cons first rest =>
      rw [htext] at hc hshape
      rw [isInterfaceShape, Bool.and_eq_true, Bool.and_eq_true, List.all_eq_true] at hshape
      rcases List.mem_cons.mp hc with rfl | hc
      · rw [isInterfaceChar, Char.isAlphanum, hshape.1.1]
        rfl
      · exact hshape.2 c hc
  | boundedInt minimum maximum =>
    simp only [ParamType.parse, parseBoundedInt, bind, Except.bind] at h
    split at h
    · cases h
    split at h
    · cases h
    split at h
    · cases h
      rw [String.toList_ofList, integerText] at hc
      split at hc
      · rcases List.mem_cons.mp hc with rfl | hc
        · decide
        · exact isInterfaceChar_of_mem_toDigits hc
      · exact isInterfaceChar_of_mem_toDigits hc
    · cases h

lemma colon_not_mem_scan :
    ∀ entry ∈ platformTemplates, ∀ template ∈ entry.2,
      Piece.literal ':' ∉ scan none template.2.formatString.toList := by
  decide +kernel

theorem colon_not_mem_renderCommand
    (h : renderCommand platform templateName params = .ok command) : ':' ∉ command.toList := by
  obtain ⟨template, values, htemplate, -, -, hvalues, hformat, -⟩ := renderCommand_ok h
  obtain ⟨-, hdeclared⟩ := renderParams_ok hvalues
  intro hmem
  rw [toList_of_formatWith hformat, List.mem_flatMap] at hmem
  obtain ⟨piece, hpiece, hshown⟩ := hmem
  cases piece with
  | literal c =>
    have hcolon : ':' = c := List.mem_singleton.mp hshown
    rw [← hcolon] at hpiece
    obtain ⟨entry, hentry, registered, hregistered, hsame⟩ := registered_of_templateFor htemplate
    rw [← hsame] at hpiece
    exact colon_not_mem_scan entry hentry registered hregistered hpiece
  | field word =>
    rw [Piece.shown, Piece.text] at hshown
    cases hlookup : values.lookup (String.ofList word) with
    | none =>
      rw [hlookup] at hshown
      cases hshown
    | some text =>
      rw [hlookup] at hshown
      obtain ⟨type, -, hcanonical⟩ := hdeclared _ (ListSearch.mem_of_lookup hlookup)
      have hchar := isInterfaceChar_of_parse (hcanonical.fixed "") ':' hshown
      exact absurd hchar (by decide)

end NetTools
