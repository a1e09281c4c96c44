import NetTools.Egress.Blocks

/-!
# What the projection leaves as it is

A plain value passes the projection as it is where no context is known. A field that comes once is
found in what is shown, with its value projected.
-/

namespace NetTools

/-! ### Plain values -/

mutual

/-- No dict names a field twice, or one that the projection replaces. -/
def Plain : Value → Prop
  | .dict entries => (entries.map Prod.fst).Nodup ∧ PlainEntries entries
  | .list items => PlainItems items
  | _ => True

def PlainItems : List Value → Prop
  | [] => True
  | item :: items => Plain item ∧ PlainItems items

def PlainEntries : List (String × Value) → Prop
  | [] => True
  | (key, value) :: entries =>
    key ∉ ["commands", "unaccounted_lines", "errors"] ∧ Plain value ∧ PlainEntries entries

end

lemma plainItems_iff {items : List Value} : PlainItems items ↔ ∀ item ∈ items, Plain item := by
  induction items with
  | nil => simp [PlainItems]
  | cons item items ih => rw [PlainItems, List.forall_mem_cons, ih]

lemma plainEntries_iff {entries : List (String × Value)} :
    PlainEntries entries ↔ ∀ entry ∈ entries,
      entry.1 ∉ ["commands", "unaccounted_lines", "errors"] ∧ Plain entry.2 := by
  induction entries with
  | nil => simp [PlainEntries]
  | cons entry entries ih => rw [PlainEntries, List.forall_mem_cons, ih, and_assoc]

section Undeclared

variable {isFree : String → Bool}

mutual

lemma blocks_eq_nil (hnone : ∀ key, isFree key = false) (value : Value) :
    blocks isFree value = [] := by
  cases value with
  | dict entries =>
    rw [blocks]
    exact blocksEntries_eq_nil hnone entries
  | list items =>
    rw [blocks]
    exact blocksItems_eq_nil hnone items
  | _ => rfl
termination_by structural value

lemma blocksItems_eq_nil (hnone : ∀ key, isFree key = false) (items : List Value) :
    blocksItems isFree items = [] := by
  cases items with
  | nil => rfl
  | cons item items =>
    rw [blocksItems, blocks_eq_nil hnone item, blocksItems_eq_nil hnone items, List.nil_append]
termination_by structural items

lemma blocksEntries_eq_nil (hnone : ∀ key, isFree key = false)
    (entries : List (String × Value)) : blocksEntries isFree entries = [] := by
  cases entries with
  | nil => rfl
  | cons entry entries =>
    obtain ⟨key, value⟩ := entry
    have hvalue : blocks isFree value = [] := blocks_eq_nil hnone value
    rw [blocksEntries_cons, blocksEntries_eq_nil hnone entries, List.append_nil]
    cases value with
    | str text => exact blocksEntries_singleton_str (hnone key)
    | _ =>
      rw [blocksEntries_singleton key rfl]
      exact hvalue
termination_by structural entries

end

end Undeclared

namespace ModelEgress

variable (repr : Value → String) (lower : String → String)

lemma withheldEntry_eq_none {key : String} {value : Value}
    (h : key ∉ ["commands", "unaccounted_lines", "errors"]) :
    withheldEntry repr lower key value = none := by
  simp only [List.mem_cons, List.not_mem_nil, or_false, not_or] at h
  obtain ⟨hcommands, hlines, herrors⟩ := h
  have hraw : key ∉ RAW_TEXT_KEYS := by simp [RAW_TEXT_KEYS, hcommands, hlines]
  cases value <;> simp [withheldEntry, withheldEntryOf, hcommands, hraw, herrors]

lemma walkEntries_cons {W : Walker} {key : String} {value : Value}
    {entries : List (String × Value)} {clean : Dict} {budget : Int}
    (hplain : value.isStr = false ∨ W.isFree key = false) (hentry : W.withheld key value = none) :
    W.walkEntries ((key, value) :: entries) clean budget =
      W.walkEntries entries (clean.set key (W.walk value budget).1) (W.walk value budget).2 := by
  conv_lhs => unfold Walker.walkEntries
  rw [hentry]
  cases value with
  | str text =>
    rcases hplain with hplain | hfree
    · cases hplain
    · dsimp only
      rw [hfree]
      rfl
  | _ => rfl

mutual

theorem walk_of_plain (value : Value) (h : Plain value) (budget : Int) :
    (walker repr lower none).walk value budget = (value, budget) := by
  cases value with
  | dict entries =>
    rw [Plain] at h
    rw [Walker.walk, walkEntries_of_plain entries h.2 [] (by simpa using h.1) budget]
    rfl
  | list items =>
    rw [Plain] at h
    rw [Walker.walk, walkItems_of_plain items h budget]
  | _ => rfl
termination_by structural value

theorem walkItems_of_plain (items : List Value) (h : PlainItems items) (budget : Int) :
    (walker repr lower none).walkItems items budget = (items, budget) := by
  cases items with
  | nil => rfl
  | cons item items =>
    rw [PlainItems] at h
    rw [Walker.walkItems, walk_of_plain item h.1 budget]
    dsimp only
    rw [walkItems_of_plain items h.2 budget]
termination_by structural items

theorem walkEntries_of_plain (entries : List (String × Value)) (h : PlainEntries entries)
    (clean : Dict) (hkeys : ((clean ++ entries).map Prod.fst).Nodup) (budget : Int) :
    (walker repr lower none).walkEntries entries clean budget = (clean ++ entries, budget) := by
  cases entries with
  | nil =>
    rw [List.append_nil]
    rfl
  | cons entry entries =>
    obtain ⟨key, value⟩ := entry
    rw [PlainEntries] at h
    have hentry : (walker repr lower none).withheld key value = none :=
      withheldEntry_eq_none repr lower h.1
    rw [walkEntries_cons (.inr rfl) hentry, walk_of_plain value h.2.1 budget]
    have hnew : key ∉ clean.map Prod.fst := by
      intro hmem
      rw [List.map_append, List.nodup_append'] at hkeys
      exact hkeys.2.2 hmem (List.mem_cons_self ..)
    rw [set_of_notMem hnew]
    rw [List.append_cons] at hkeys
    rw [walkEntries_of_plain entries h.2.2 (clean ++ [(key, value)]) hkeys budget,
      List.append_assoc]
    rfl
termination_by structural entries

end

lemma name_withheldEntry {key name : String} {value record : Value}
    (h : withheldEntry repr lower key value = some (name, record)) :
    name = key ∨ name ∈ ["commands_withheld", "unaccounted_lines_withheld"] := by
  have hraw : key ∈ RAW_TEXT_KEYS →
      key ++ "_withheld" ∈ ["commands_withheld", "unaccounted_lines_withheld"] := by
    intro hkey
    have hnames : ∀ k ∈ RAW_TEXT_KEYS,
        k ++ "_withheld" ∈ ["commands_withheld", "unaccounted_lines_withheld"] := by decide
    exact hnames key hkey
  unfold withheldEntry withheldEntryOf at h
  split at h
  · split at h
    · cases h
      exact .inr (by decide)
    · split at h
      · rename_i hkey
        cases h
        exact .inr (hraw hkey)
      · cases h
  · split at h
    · rename_i hkey
      cases h
      exact .inr (hraw hkey)
    · split at h
      · cases h
        exact .inl rfl
      · cases h
  · split at h
    · rename_i hkey
      cases h
      exact .inr (hraw hkey)
    · cases h

lemma exists_walkEntries_cons (context : Option String) (key : String) (value : Value)
    (budget : Int) :
    ∃ name record left, (name = key ∨ name ∈ ["commands_withheld", "unaccounted_lines_withheld"]) ∧
      ∀ entries clean,
        (walker repr lower context).walkEntries ((key, value) :: entries) clean budget =
          (walker repr lower context).walkEntries entries (clean.set name record) left := by
  cases hentry : (walker repr lower context).withheld key value with
  | some withheld =>
    obtain ⟨name, record⟩ := withheld
    refine ⟨name, record, budget, name_withheldEntry repr lower hentry, ?_⟩
    intro entries clean
    conv_lhs => unfold Walker.walkEntries
    rw [hentry]
  | none =>
    by_cases hquoted : value.isStr = true ∧ isFreeText context key = true
    · obtain ⟨htext, hfree⟩ := hquoted
      cases value with
      | str text =>
        refine ⟨key, (quoteOrWithhold text budget).1, (quoteOrWithhold text budget).2, .inl rfl, ?_⟩
        intro entries clean
        conv_lhs => unfold Walker.walkEntries
        rw [hentry]
        exact if_pos hfree
      | _ => cases htext
    · rw [not_and_or, Bool.not_eq_true, Bool.not_eq_true] at hquoted
      exact ⟨key, _, _, .inl rfl, fun entries clean => walkEntries_cons hquoted hentry⟩

lemma get?_walkEntries_of_notMem {context : Option String} {entries : List (String × Value)}
    {key : String} (hkey : key ∉ entries.map Prod.fst)
    (hname : key ∉ ["commands_withheld", "unaccounted_lines_withheld"]) (clean : Dict)
    (budget : Int) :
    Dict.get? ((walker repr lower context).walkEntries entries clean budget).1 key =
      Dict.get? clean key := by
  induction entries generalizing clean budget with
  | nil => rfl
  | cons entry entries ih =>
    rw [List.map_cons, List.mem_cons, not_or] at hkey
    obtain ⟨name, record, left, hwritten, hstep⟩ :=
      exists_walkEntries_cons repr lower context entry.1 entry.2 budget
    have hne : key ≠ name := by
      rintro rfl
      rcases hwritten with hsame | hwithheld
      · exact hkey.1 hsame
      · exact hname hwithheld
    rw [hstep, ih hkey.2, Dict.get?, Dict.set, LastRow.lookup_assign, if_neg hne]
    rfl

lemma get?_walkEntries {context : Option String} (before : List (String × Value))
    {after : List (String × Value)} {key : String} (value : Value) (hkey : key ∉ after.map Prod.fst)
    (hname : key ∉ ["commands_withheld", "unaccounted_lines_withheld", "commands",
      "unaccounted_lines", "errors"])
    (hfree : isFreeText context key = false) (clean : Dict) (budget : Int) :
    ∃ left, Dict.get? ((walker repr lower context).walkEntries
      (before ++ (key, value) :: after) clean budget).1 key =
        some (project repr lower context value left).1 := by
  induction before generalizing clean budget with
  | nil =>
    refine ⟨budget, ?_⟩
    have hwritten : key ∉ ["commands_withheld", "unaccounted_lines_withheld"] :=
      fun h => hname (List.mem_append_left ["commands", "unaccounted_lines", "errors"] h)
    have hwithheld : key ∉ ["commands", "unaccounted_lines", "errors"] :=
      fun h => hname (List.mem_append_right ["commands_withheld", "unaccounted_lines_withheld"] h)
    have hentry : (walker repr lower context).withheld key value = none :=
      withheldEntry_eq_none repr lower hwithheld
    rw [List.nil_append, walkEntries_cons (.inr hfree) hentry,
      get?_walkEntries_of_notMem repr lower hkey hwritten, Dict.get?, Dict.set,
      LastRow.lookup_assign, if_pos rfl]
    rfl
  | cons entry before ih =>
    obtain ⟨name, record, left, -, hstep⟩ :=
      exists_walkEntries_cons repr lower context entry.1 entry.2 budget
    rw [List.cons_append, hstep]
    exact ih _ _

end ModelEgress

end NetTools
