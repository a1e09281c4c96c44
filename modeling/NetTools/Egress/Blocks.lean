import NetTools.Egress.Boundary

/-!
# The blocks of a result

The free text of a payload is what stands as a text under one of the declared fields, at any depth.
In what leaves, each such text is the quotation of a free text of the payload.
-/

namespace NetTools

section Blocks

variable (isFree : String → Bool)

mutual

def blocks : Value → List String
  | .dict entries => blocksEntries entries
  | .list items => blocksItems items
  | _ => []

def blocksItems : List Value → List String
  | [] => []
  | item :: items => blocks item ++ blocksItems items

def blocksEntries : List (String × Value) → List String
  | [] => []
  | (key, .str text) :: entries =>
    (if isFree key then [text] else []) ++ blocksEntries entries
  | (_, value) :: entries => blocks value ++ blocksEntries entries

end

def Quotes (quoted texts : List String) : Prop :=
  ∀ s ∈ quoted, ∃ t ∈ texts, s = quoteDeviceText t

variable {isFree}

lemma Quotes.mono {quoted texts texts' : List String} (h : Quotes quoted texts)
    (hsub : texts ⊆ texts') : Quotes quoted texts' := by
  intro s hs
  obtain ⟨t, ht, heq⟩ := h s hs
  exact ⟨t, hsub ht, heq⟩

lemma Quotes.append {q q' texts texts' : List String} (h : Quotes q texts)
    (h' : Quotes q' texts') : Quotes (q ++ q') (texts ++ texts') := by
  intro s hs
  rw [List.mem_append] at hs
  rcases hs with hs | hs
  · exact h.mono (List.subset_append_left _ _) s hs
  · exact h'.mono (List.subset_append_right _ _) s hs

lemma Quotes.nil (texts : List String) : Quotes [] texts := by
  intro s hs
  cases hs

lemma blocksEntries_cons (key : String) (value : Value) (entries : List (String × Value)) :
    blocksEntries isFree ((key, value) :: entries) =
      blocksEntries isFree [(key, value)] ++ blocksEntries isFree entries := by
  cases value <;> simp [blocksEntries]

lemma blocksEntries_append (es es' : List (String × Value)) :
    blocksEntries isFree (es ++ es') = blocksEntries isFree es ++ blocksEntries isFree es' := by
  induction es with
  | nil => rfl
  | cons entry es ih =>
    rw [List.cons_append, blocksEntries_cons, ih, blocksEntries_cons entry.1 entry.2 es,
      List.append_assoc]

lemma blocksEntries_subset {entries : List (String × Value)} {texts : List String}
    (h : ∀ entry ∈ entries, blocksEntries isFree [entry] ⊆ texts) :
    blocksEntries isFree entries ⊆ texts := by
  induction entries with
  | nil => exact List.nil_subset _
  | cons entry entries ih =>
    rw [List.forall_mem_cons] at h
    rw [blocksEntries_cons entry.1 entry.2, List.append_subset]
    exact ⟨h.1, ih h.2⟩

lemma blocksEntries_singleton (key : String) {value : Value} (h : value.isStr = false) :
    blocksEntries isFree [(key, value)] = blocks isFree value := by
  cases value <;> simp_all [blocksEntries, Value.isStr]

lemma blocksEntries_singleton_str {key text : String} (h : isFree key = false) :
    blocksEntries isFree [(key, .str text)] = [] := by
  simp [blocksEntries, h]

lemma blocksEntries_set (clean : Dict) (key : String) (value : Value) :
    blocksEntries isFree (clean.set key value) ⊆
      blocksEntries isFree clean ++ blocksEntries isFree [(key, value)] := by
  rw [Dict.set]
  induction clean with
  | nil =>
    rw [LastRow.assign]
    exact List.subset_append_right _ _
  | cons entry clean ih =>
    obtain ⟨key', value'⟩ := entry
    rw [LastRow.assign]
    split
    · rw [blocksEntries_cons key value, blocksEntries_cons key' value']
      intro s hs
      simp only [List.mem_append] at hs ⊢
      tauto
    · rw [blocksEntries_cons key' value', blocksEntries_cons key' value' clean]
      intro s hs
      have hih := @ih s
      simp only [List.mem_append] at hs hih ⊢
      tauto

lemma Quotes.set {clean : Dict} {key : String} {value : Value} {texts : List String}
    (hclean : Quotes (blocksEntries isFree clean) texts)
    (hvalue : Quotes (blocksEntries isFree [(key, value)]) texts) :
    Quotes (blocksEntries isFree (clean.set key value)) texts := by
  intro s hs
  have hmem := blocksEntries_set clean key value hs
  rw [List.mem_append] at hmem
  rcases hmem with hmem | hmem
  · exact hclean s hmem
  · exact hvalue s hmem

lemma blocksEntries_withheldOutputs (hnote : isFree "withheld" = false) (note key : String)
    (commands : Dict) : blocksEntries isFree [(key, withheldOutputs note commands)] = [] := by
  have houtput : ∀ command value,
      blocksEntries isFree [(command, withheldOutput note value)] = [] := by
    intro command value
    cases value <;> simp [withheldOutput, blocks, blocksEntries, hnote]
  rw [withheldOutputs, blocksEntries, blocksEntries, List.append_nil, blocks]
  · induction commands with
    | nil => rfl
    | cons entry commands ih =>
      rw [List.map_cons, blocksEntries_cons, houtput, ih, List.append_nil]
  · simp

lemma blocksEntries_classifyErrors (kinds : List (String × String)) (repr : Value → String)
    (lower : String → String) (key : String) (errors : List Value) :
    blocksEntries isFree [(key, classifyErrors kinds repr lower errors)] = [] := by
  rw [classifyErrors, blocksEntries, blocksEntries, List.append_nil, blocks]
  · induction errors with
    | nil => rfl
    | cons error errors ih => rw [List.map_cons, blocksItems, ih, List.append_nil, blocks] <;> simp
  · simp

lemma blocksEntries_withheldEntryOf {rawTextKeys : List String} {withheldCommands : Dict → Value}
    {rebuild : List Value → Value}
    (hcommands : ∀ key commands, blocksEntries isFree [(key, withheldCommands commands)] = [])
    (hrebuild : ∀ key errors, blocksEntries isFree [(key, rebuild errors)] = [])
    {key name : String} {value record : Value}
    (h : withheldEntryOf rawTextKeys withheldCommands rebuild key value = some (name, record)) :
    blocksEntries isFree [(name, record)] = [] := by
  have hcount : ∀ (key : String) (n : Int), blocksEntries isFree [(key, .int n)] = [] := by
    intro key n
    simp [blocksEntries, blocks]
  unfold withheldEntryOf at h
  split at h
  · split at h
    · cases h
      exact hcommands _ _
    · split at h
      · cases h
        exact hcount _ _
      · cases h
  · split at h
    · cases h
      exact hcount _ _
    · split at h
      · cases h
        exact hrebuild _ _
      · cases h
  · split at h
    · cases h
      exact hcount _ _
    · cases h

end Blocks

namespace Walker

/-- What a walker withholds holds no block, and what it marks it quotes or withholds. -/
structure Quoting (W : Walker) : Prop where
  withheld : ∀ key value name record, W.withheld key value = some (name, record) →
    blocksEntries W.isFree [(name, record)] = []
  mark : ∀ key text budget, W.isFree key = true →
    Quotes (blocksEntries W.isFree [(key, (W.mark text budget).1)]) [text]

variable {W : Walker}

mutual

theorem quotes_walk (hW : W.Quoting) (value : Value) (budget : Int) :
    Quotes (blocks W.isFree (W.walk value budget).1) (blocks W.isFree value) := by
  cases value with
  | dict entries =>
    rw [walk, blocks, blocks]
    exact quotes_walkEntries hW entries [] budget (Quotes.nil _) (List.Subset.refl _)
  | list items =>
    rw [walk, blocks, blocks]
    exact quotes_walkItems hW items budget
  | _ => exact Quotes.nil _
termination_by structural value

theorem quotes_walkItems (hW : W.Quoting) (items : List Value) (budget : Int) :
    Quotes (blocksItems W.isFree (W.walkItems items budget).1) (blocksItems W.isFree items) := by
  cases items with
  | nil => exact Quotes.nil _
  | cons item items =>
    rw [walkItems, blocksItems, blocksItems]
    exact (quotes_walk hW item budget).append (quotes_walkItems hW items _)
termination_by structural items

theorem quotes_walkEntries (hW : W.Quoting) (entries : List (String × Value)) (clean : Dict)
    (budget : Int) {texts : List String} (hclean : Quotes (blocksEntries W.isFree clean) texts)
    (hsub : blocksEntries W.isFree entries ⊆ texts) :
    Quotes (blocksEntries W.isFree (W.walkEntries entries clean budget).1) texts := by
  cases entries with
  | nil => exact hclean
  | cons entry entries =>
    obtain ⟨key, value⟩ := entry
    rw [blocksEntries_cons] at hsub
    have hvalue : blocksEntries W.isFree [(key, value)] ⊆ texts :=
      List.Subset.trans (List.subset_append_left _ _) hsub
    have hrest : blocksEntries W.isFree entries ⊆ texts :=
      List.Subset.trans (List.subset_append_right _ _) hsub
    unfold walkEntries
    cases hentry : W.withheld key value with
    | some withheld =>
      refine quotes_walkEntries hW entries _ _ (hclean.set ?_) hrest
      rw [hW.withheld key value withheld.1 withheld.2 hentry]
      exact Quotes.nil _
    | none =>
      cases value with
      | str text =>
        dsimp only
        by_cases hfree : W.isFree key = true
        · rw [if_pos hfree]
          rw [blocksEntries, if_pos hfree] at hvalue
          exact quotes_walkEntries hW entries _ _
            (hclean.set ((hW.mark key text budget hfree).mono hvalue)) hrest
        · rw [if_neg hfree]
          refine quotes_walkEntries hW entries _ _ (hclean.set ?_) hrest
          rw [blocksEntries_singleton_str (eq_false_of_ne_true hfree)]
          exact Quotes.nil _
      | dict inner =>
        have hwalk := quotes_walk hW (.dict inner) budget
        rw [← blocksEntries_singleton key rfl, ← blocksEntries_singleton key rfl] at hwalk
        exact quotes_walkEntries hW entries _ _ (hclean.set (hwalk.mono hvalue)) hrest
      | list inner =>
        have hwalk := quotes_walk hW (.list inner) budget
        rw [← blocksEntries_singleton key rfl, ← blocksEntries_singleton key rfl] at hwalk
        exact quotes_walkEntries hW entries _ _ (hclean.set (hwalk.mono hvalue)) hrest
      | _ => exact quotes_walkEntries hW entries _ _ (hclean.set (Quotes.nil _)) hrest
termination_by structural entries

end

end Walker

section Walkers

variable {isFree : String → Bool}

lemma quotes_singleton_quote (key text : String) :
    Quotes (blocksEntries isFree [(key, .str (quoteDeviceText text))]) [text] := by
  intro s hs
  rw [blocksEntries, blocksEntries, List.append_nil] at hs
  split at hs
  · exact ⟨text, List.mem_singleton_self text, List.mem_singleton.mp hs⟩
  · cases hs

lemma blocksEntries_withheldEntry (hnote : isFree "withheld" = false) {note : String}
    {rawTextKeys : List String} {kinds : List (String × String)} {repr : Value → String}
    {lower : String → String} {key name : String} {value record : Value}
    (h : withheldEntryOf rawTextKeys (withheldOutputs note) (classifyErrors kinds repr lower) key
      value = some (name, record)) : blocksEntries isFree [(name, record)] = [] :=
  blocksEntries_withheldEntryOf
    (fun key commands => blocksEntries_withheldOutputs hnote note key commands)
    (fun key errors => blocksEntries_classifyErrors kinds repr lower key errors) h

end Walkers

variable (repr : Value → String) (lower : String → String)

lemma Boundary.isFreeTextName_withheld : Boundary.isFreeTextName "withheld" = false := by decide

lemma Boundary.quoting_walker : (Boundary.walker repr lower).Quoting where
  withheld _ _ _ _ h := blocksEntries_withheldEntry Boundary.isFreeTextName_withheld h
  mark key text _ _ := quotes_singleton_quote key text

namespace ModelEgress

lemma isFreeText_withheld (context : Option String) : isFreeText context "withheld" = false := by
  have hnames : ∀ field ∈ FREE_TEXT_FIELDS, field.2 ≠ "withheld" := by decide
  cases context with
  | none => rfl
  | some c =>
    rw [isFreeText, Option.any_some, decide_eq_false_iff_not]
    intro hmem
    exact hnames _ hmem rfl

lemma quoting_walker (context : Option String) : (walker repr lower context).Quoting where
  withheld _ _ _ _ h := blocksEntries_withheldEntry (isFreeText_withheld context) h
  mark key text budget _ := by
    change Quotes (blocksEntries (isFreeText context) [(key, (quoteOrWithhold text budget).1)]) _
    rw [quoteOrWithhold]
    split
    · have hwithheld : blocksEntries (isFreeText context) [(key, .dict
          [("withheld", .str "free-text budget exhausted"), ("chars", .int text.length)])] = [] := by
        simp [blocksEntries, blocks, isFreeText_withheld context]
      dsimp only
      rw [hwithheld]
      exact Quotes.nil _
    · exact quotes_singleton_quote key text

end ModelEgress

end NetTools
