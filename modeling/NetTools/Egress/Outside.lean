import NetTools.Egress.Projector

/-!
# What stands outside of the blocks of a result

A walker leads related payloads to results that agree outside of the hidden texts, when it withholds
the same of them and the texts that differ are marked alike.
-/

namespace NetTools

section Outside

variable (hidden : String → Bool)

mutual

def outside : Value → Value
  | .dict entries => .dict (outsideEntries entries)
  | .list items => .list (outsideItems items)
  | v => v

def outsideItems : List Value → List Value
  | [] => []
  | item :: items => outside item :: outsideItems items

def outsideEntries : List (String × Value) → List (String × Value)
  | [] => []
  | (key, .str text) :: entries =>
    (key, .str (if hidden key then "" else text)) :: outsideEntries entries
  | (key, value) :: entries => (key, outside value) :: outsideEntries entries

end

def outsideUnder (key : String) : Value → Value
  | .str text => .str (if hidden key then "" else text)
  | value => outside hidden value

variable {hidden}

lemma outsideEntries_cons (key : String) (value : Value) (entries : List (String × Value)) :
    outsideEntries hidden ((key, value) :: entries) =
      (key, outsideUnder hidden key value) :: outsideEntries hidden entries := by
  cases value <;> simp only [outsideEntries, outsideUnder]

lemma outsideEntries_append (entries entries' : List (String × Value)) :
    outsideEntries hidden (entries ++ entries') =
      outsideEntries hidden entries ++ outsideEntries hidden entries' := by
  induction entries with
  | nil => rfl
  | cons entry entries ih =>
    rw [List.cons_append, outsideEntries_cons entry.1 entry.2, outsideEntries_cons entry.1 entry.2,
      ih, List.cons_append]

lemma outsideUnder_of_not_str (key : String) {value : Value} (h : value.isStr = false) :
    outsideUnder hidden key value = outside hidden value := by
  cases value with
  | str text => cases h
  | _ => rfl

lemma outsideEntries_set {clean clean' : Dict} {key : String} {value value' : Value}
    (hclean : outsideEntries hidden clean = outsideEntries hidden clean')
    (hvalue : outsideUnder hidden key value = outsideUnder hidden key value') :
    outsideEntries hidden (clean.set key value) =
      outsideEntries hidden (clean'.set key value') := by
  rw [Dict.set, Dict.set]
  induction clean generalizing clean' with
  | nil =>
    cases clean' with
    | nil =>
      rw [LastRow.assign, LastRow.assign, outsideEntries_cons, outsideEntries_cons, hvalue]
    | cons entry' clean' =>
      rw [outsideEntries_cons] at hclean
      cases hclean
  | cons entry clean ih =>
    obtain ⟨name, old⟩ := entry
    rw [outsideEntries_cons] at hclean
    cases clean' with
    | nil => cases hclean
    | cons entry' clean' =>
      obtain ⟨name', old'⟩ := entry'
      rw [outsideEntries_cons, List.cons.injEq, Prod.mk.injEq] at hclean
      obtain ⟨⟨rfl, hold⟩, hrest⟩ := hclean
      rw [LastRow.assign, LastRow.assign]
      split
      · rw [outsideEntries_cons, outsideEntries_cons, hvalue, hrest]
      · rw [outsideEntries_cons, outsideEntries_cons, hold, ih hrest]

mutual

lemma outside_eq_self (hnone : ∀ key, hidden key = false) (value : Value) :
    outside hidden value = value := by
  cases value with
  | dict entries => rw [outside, outsideEntries_eq_self hnone entries]
  | list items => rw [outside, outsideItems_eq_self hnone items]
  | _ => rfl
termination_by structural value

lemma outsideItems_eq_self (hnone : ∀ key, hidden key = false) (items : List Value) :
    outsideItems hidden items = items := by
  cases items with
  | nil => rfl
  | cons item items =>
    rw [outsideItems, outside_eq_self hnone item, outsideItems_eq_self hnone items]
termination_by structural items

lemma outsideEntries_eq_self (hnone : ∀ key, hidden key = false)
    (entries : List (String × Value)) : outsideEntries hidden entries = entries := by
  cases entries with
  | nil => rfl
  | cons entry entries =>
    obtain ⟨key, value⟩ := entry
    have hvalue : outside hidden value = value := outside_eq_self hnone value
    have hunder : outsideUnder hidden key value = value := by
      cases value with
      | str text =>
        rw [outsideUnder, hnone key]
        rfl
      | _ => exact hvalue
    rw [outsideEntries_cons, hunder, outsideEntries_eq_self hnone entries]
termination_by structural entries

end

end Outside

namespace Walker

/-- The walker tells related payloads apart in their hidden texts alone. -/
structure Respects (W : Walker) (hidden : String → Bool) (R : Value → Value → Prop)
    (U : String → Value → Value → Prop) : Prop where
  dict : ∀ entries w, R (.dict entries) w → ∃ entries', w = .dict entries' ∧
    List.Forall₂ (fun e e' => e.1 = e'.1 ∧ U e.1 e.2 e'.2) entries entries'
  list : ∀ items w, R (.list items) w → ∃ items', w = .list items' ∧ List.Forall₂ R items items'
  atom : ∀ v w, R v w → (∀ entries, v ≠ .dict entries) → (∀ items, v ≠ .list items) → v = w
  withheld : ∀ key v w, U key v w → W.withheld key v = W.withheld key w
  walked : ∀ key v w, U key v w → v.isStr = false → W.withheld key v = none → R v w
  text : ∀ key text w, U key (.str text) w → ∃ text', w = .str text' ∧ (text = text' ∨
    W.isFree key = true ∧ ∀ budget, (W.mark text budget).2 = (W.mark text' budget).2 ∧
      outsideUnder hidden key (W.mark text budget).1 =
        outsideUnder hidden key (W.mark text' budget).1)

variable {W : Walker} {hidden : String → Bool} {R : Value → Value → Prop}
  {U : String → Value → Value → Prop}

lemma walkEntries_cons_of_walked {key : String} {value : Value} (hvalue : value.isStr = false)
    (hwalked : W.withheld key value = none) (entries : List (String × Value)) (clean : Dict)
    (budget : Int) : W.walkEntries ((key, value) :: entries) clean budget =
      W.walkEntries entries (clean.set key (W.walk value budget).1) (W.walk value budget).2 := by
  conv_lhs => unfold walkEntries
  rw [hwalked]
  cases value with
  | str text => cases hvalue
  | _ => rfl

mutual

theorem walk_outside (hW : W.Respects hidden R U) (v : Value) {w : Value} (h : R v w)
    (budget : Int) : outside hidden (W.walk v budget).1 = outside hidden (W.walk w budget).1 ∧
      (W.walk v budget).2 = (W.walk w budget).2 := by
  cases v with
  | dict entries =>
    obtain ⟨entries', rfl, hall⟩ := hW.dict entries w h
    obtain ⟨hclean, hleft⟩ := walkEntries_outside hW entries hall rfl budget
    exact ⟨congrArg Value.dict hclean, hleft⟩
  | list items =>
    obtain ⟨items', rfl, hall⟩ := hW.list items w h
    obtain ⟨hclean, hleft⟩ := walkItems_outside hW items hall budget
    exact ⟨congrArg Value.list hclean, hleft⟩
  | _ =>
    rw [hW.atom _ w h (by simp) (by simp)]
    exact ⟨rfl, rfl⟩
termination_by structural v

theorem walkItems_outside (hW : W.Respects hidden R U) (items : List Value) {items' : List Value}
    (h : List.Forall₂ R items items') (budget : Int) :
    outsideItems hidden (W.walkItems items budget).1 =
        outsideItems hidden (W.walkItems items' budget).1 ∧
      (W.walkItems items budget).2 = (W.walkItems items' budget).2 := by
  cases items with
  | nil =>
    cases h
    exact ⟨rfl, rfl⟩
  | cons item items =>
    cases h with
    | cons hitem hrest =>
      obtain ⟨hclean, hleft⟩ := walk_outside hW item hitem budget
      rw [walkItems, walkItems]
      dsimp only
      rw [← hleft, outsideItems, outsideItems, hclean]
      obtain ⟨hothers, hlast⟩ := walkItems_outside hW items hrest (W.walk item budget).2
      rw [hothers]
      exact ⟨rfl, hlast⟩
termination_by structural items

theorem walkEntries_outside (hW : W.Respects hidden R U) (entries : List (String × Value))
    {entries' : List (String × Value)}
    (h : List.Forall₂ (fun e e' => e.1 = e'.1 ∧ U e.1 e.2 e'.2) entries entries')
    {clean clean' : Dict} (hclean : outsideEntries hidden clean = outsideEntries hidden clean')
    (budget : Int) :
    outsideEntries hidden (W.walkEntries entries clean budget).1 =
        outsideEntries hidden (W.walkEntries entries' clean' budget).1 ∧
      (W.walkEntries entries clean budget).2 = (W.walkEntries entries' clean' budget).2 := by
  cases entries with
  | nil =>
    cases h
    exact ⟨hclean, rfl⟩
  | cons entry entries =>
    obtain ⟨key, value⟩ := entry
    have hwalk : ∀ w, R value w → ∀ budget,
        outside hidden (W.walk value budget).1 = outside hidden (W.walk w budget).1 ∧
          (W.walk value budget).2 = (W.walk w budget).2 :=
      fun w hw => walk_outside hW value hw
    cases h with
    | @cons _ entry' _ rest' hentry hrest =>
      obtain ⟨key', value'⟩ := entry'
      obtain ⟨hkey, hvalue⟩ := hentry
      dsimp only at hkey hvalue
      subst hkey
      have hwithheld := hW.withheld key value value' hvalue
      cases hcase : W.withheld key value with
      | some withheld =>
        unfold walkEntries
        rw [← hwithheld, hcase]
        exact walkEntries_outside hW entries hrest (outsideEntries_set hclean rfl) budget
      | none =>
        cases hstr : value.isStr with
        | false =>
          have hrelated := hW.walked key value value' hvalue hstr hcase
          have hstr' : value'.isStr = false := by
            cases value with
            | dict inner =>
              obtain ⟨inner', rfl, -⟩ := hW.dict inner value' hrelated
              rfl
            | list inner =>
              obtain ⟨inner', rfl, -⟩ := hW.list inner value' hrelated
              rfl
            | _ =>
              rw [← hW.atom _ value' hrelated (by simp) (by simp)]
              exact hstr
          obtain ⟨hout, hleft⟩ := hwalk value' hrelated budget
          rw [walkEntries_cons_of_walked hstr hcase,
            walkEntries_cons_of_walked hstr' (hwithheld ▸ hcase), ← hleft]
          apply walkEntries_outside hW entries hrest
          apply outsideEntries_set hclean
          have hkept : ∀ v : Value, v.isStr = false → (W.walk v budget).1.isStr = false := by
            intro v hv
            cases v with
            | str text => cases hv
            | _ => rfl
          rw [outsideUnder_of_not_str key (hkept _ hstr), outsideUnder_of_not_str key
            (hkept _ hstr'), hout]
        | true =>
          cases value with
          | str text =>
            obtain ⟨text', rfl, hsame⟩ := hW.text key text value' hvalue
            unfold walkEntries
            rw [← hwithheld, hcase]
            dsimp only
            rcases hsame with rfl | ⟨hfree, hmark⟩
            · by_cases hfree : W.isFree key = true
              · rw [if_pos hfree, if_pos hfree]
                exact walkEntries_outside hW entries hrest (outsideEntries_set hclean rfl) _
              · rw [if_neg hfree, if_neg hfree]
                exact walkEntries_outside hW entries hrest (outsideEntries_set hclean rfl) _
            · rw [if_pos hfree, if_pos hfree]
              obtain ⟨hleft, hout⟩ := hmark budget
              rw [← hleft]
              exact walkEntries_outside hW entries hrest (outsideEntries_set hclean hout) _
          | _ => cases hstr
termination_by structural entries

end

end Walker

end NetTools
