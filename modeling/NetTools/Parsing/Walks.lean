import NetTools.Parsing.Accounting

/-!
# Loops over the lines

What a walk makes of a line is what its step makes of it in the state that the lines before have
led to.
-/

namespace NetTools

namespace Parsing

variable {σ τ : Type} {step : σ → String → Except ParseFailure (Step σ)}
  {step' : τ → String → Except ParseFailure (Step τ)}

lemma walk_cons_ok {state last : σ} {line : String} {lines : List String} {readings : List Reading}
    (h : walk step state (line :: lines) = .ok (readings, last)) :
    ∃ next, step state line = .ok next ∧
      ((next.stop = true ∧ readings = next.reading :: lines.map (fun _ => .passed)) ∨
        (next.stop = false ∧ ∃ rest, walk step next.state lines = .ok (rest, last) ∧
          readings = next.reading :: rest)) := by
  rw [walk] at h
  cases hnext : step state line with
  | error failure =>
    rw [hnext] at h
    cases h
  | ok next =>
    rw [hnext] at h
    refine ⟨next, rfl, ?_⟩
    cases hstop : next.stop with
    | true =>
      simp only [bind, Except.bind, hstop, if_true, pure, Except.pure] at h
      cases h
      exact .inl ⟨rfl, rfl⟩
    | false =>
      simp only [bind, Except.bind, hstop, Bool.false_eq_true, if_false] at h
      cases hrest : walk step next.state lines with
      | error failure =>
        rw [hrest] at h
        cases h
      | ok result =>
        rw [hrest] at h
        cases h
        exact .inr ⟨rfl, result.1, rfl, rfl⟩

theorem length_walk {state last : σ} {lines : List String} {readings : List Reading}
    (h : walk step state lines = .ok (readings, last)) : readings.length = lines.length := by
  induction lines generalizing state readings with
  | nil =>
    cases h
    rfl
  | cons line lines ih =>
    obtain ⟨next, -, ⟨-, rfl⟩ | ⟨-, rest, hrest, rfl⟩⟩ := walk_cons_ok h
    · rw [List.length_cons, List.length_map, List.length_cons]
    · rw [List.length_cons, List.length_cons, ih hrest]

theorem forall_walk {Q : String → Reading → Prop} (hpassed : ∀ line, Q line .passed)
    (hstep : ∀ state line next, step state line = .ok next → Q line next.reading)
    {state last : σ} {lines : List String} {readings : List Reading}
    (h : walk step state lines = .ok (readings, last)) : ∀ x ∈ lines.zip readings, Q x.1 x.2 := by
  induction lines generalizing state readings with
  | nil => simp
  | cons line lines ih =>
    obtain ⟨next, hnext, ⟨-, rfl⟩ | ⟨-, rest, hrest, rfl⟩⟩ := walk_cons_ok h
    · rw [List.zip_cons_cons, List.forall_mem_cons]
      refine ⟨hstep state line next hnext, ?_⟩
      intro x hx
      obtain ⟨line', r⟩ := x
      have hr := (List.of_mem_zip hx).2
      obtain ⟨-, -, rfl⟩ := List.mem_map.mp hr
      exact hpassed line'
    · rw [List.zip_cons_cons, List.forall_mem_cons]
      exact ⟨hstep state line next hnext, ih hrest⟩

theorem walk_eq {f : String → Reading} {g : String → Bool}
    (hstep : ∀ state line next, step state line = .ok next →
      next.reading = f line ∧ next.stop = g line)
    {state last : σ} {lines : List String} {readings : List Reading}
    (h : walk step state lines = .ok (readings, last)) :
    readings = (ListSearch.takeThrough g lines).map f ++
      List.replicate (lines.length - (ListSearch.takeThrough g lines).length) .passed := by
  induction lines generalizing state readings with
  | nil =>
    cases h
    rfl
  | cons line lines ih =>
    obtain ⟨next, hnext, ⟨hstop, rfl⟩ | ⟨hstop, rest, hrest, rfl⟩⟩ := walk_cons_ok h
    · obtain ⟨hreading, hg⟩ := hstep state line next hnext
      rw [hstop] at hg
      rw [ListSearch.takeThrough_cons_of_pos hg.symm, hreading, List.map_const']
      simp
    · obtain ⟨hreading, hg⟩ := hstep state line next hnext
      rw [hstop] at hg
      rw [ListSearch.takeThrough_cons_of_neg hg.symm, hreading, ih hrest]
      simp

theorem walk_eq_map {f : String → Reading}
    (hstep : ∀ state line next, step state line = .ok next →
      next.reading = f line ∧ next.stop = false)
    {state last : σ} {lines : List String} {readings : List Reading}
    (h : walk step state lines = .ok (readings, last)) : readings = lines.map f := by
  have heq := walk_eq (g := fun _ => false) hstep h
  rw [ListSearch.takeThrough_eq_self (fun _ _ => rfl), Nat.sub_self, List.replicate_zero,
    List.append_nil] at heq
  exact heq

/-- The loop keeps an invariant that knows the lines so far, and never breaks off. -/
structure Keeps (step : σ → String → Except ParseFailure (Step σ))
    (Inv : List String → σ → Prop) : Prop where
  goesOn : ∀ before state line next, Inv before state → step state line = .ok next →
    next.stop = false
  next : ∀ before state line next, Inv before state → step state line = .ok next →
    Inv (before ++ [line]) next.state

theorem Keeps.exists_turn {Inv : List String → σ → Prop} (hkeeps : Keeps step Inv)
    {earlier : List String} {state last : σ} (hstate : Inv earlier state)
    {before : List String} {line : String} {after : List String} {readings : List Reading}
    (h : walk step state (before ++ line :: after) = .ok (readings, last)) :
    ∃ turn next, Inv (earlier ++ before) turn ∧ step turn line = .ok next ∧
      readings[before.length]? = some next.reading := by
  induction before generalizing earlier state readings with
  | nil =>
    obtain ⟨next, hnext, ⟨hstop, -⟩ | ⟨-, rest, -, rfl⟩⟩ := walk_cons_ok h
    · rw [hkeeps.goesOn earlier state line next hstate hnext] at hstop
      cases hstop
    · rw [List.append_nil]
      exact ⟨state, next, hstate, hnext, rfl⟩
  | cons first before ih =>
    obtain ⟨next, hnext, ⟨hstop, -⟩ | ⟨-, rest, hrest, rfl⟩⟩ := walk_cons_ok h
    · rw [hkeeps.goesOn earlier state first next hstate hnext] at hstop
      cases hstop
    · obtain ⟨turn, next', hturn, hstep, hget⟩ :=
        ih (hkeeps.next earlier state first next hstate hnext) hrest
      rw [List.append_assoc] at hturn
      exact ⟨turn, next', hturn, hstep, hget⟩

lemma exists_split_of_lt {lines : List String} {i : Nat} (h : i < lines.length) :
    ∃ before line after, lines = before ++ line :: after ∧ before.length = i :=
  ⟨lines.take i, lines[i], lines.drop (i + 1), by simp,
    List.length_take_of_le (Nat.le_of_lt h)⟩

theorem Keeps.forall_iff {Inv : List String → σ → Prop} (hkeeps : Keeps step Inv) {start : σ}
    (hstart : Inv [] start) {P : Reading → Prop} {C : List String → String → Prop}
    (hiff : ∀ before state line next, Inv before state → step state line = .ok next →
      (P next.reading ↔ C before line))
    {last : σ} {lines : List String} {readings : List Reading}
    (h : walk step start lines = .ok (readings, last)) :
    (∀ r ∈ readings, P r) ↔
      ∀ before line after, lines = before ++ line :: after → C before line := by
  constructor
  · intro hall before line after hlines
    rw [hlines] at h
    obtain ⟨turn, next, hturn, hstep, hget⟩ := hkeeps.exists_turn hstart h
    exact (hiff before turn line next hturn hstep).mp (hall _ (List.mem_of_getElem? hget))
  · intro hall r hr
    obtain ⟨i, hi, hget⟩ := List.getElem_of_mem hr
    rw [length_walk h] at hi
    obtain ⟨before, line, after, hlines, rfl⟩ := exists_split_of_lt hi
    have hC := hall before line after hlines
    rw [hlines] at h
    obtain ⟨turn, next, hturn, hstep, hget'⟩ := hkeeps.exists_turn hstart h
    rw [List.getElem?_eq_getElem (by rw [length_walk h, ← hlines]; exact hi), hget,
      Option.some_inj] at hget'
    rw [hget']
    exact (hiff before turn line next hturn hstep).mpr hC

theorem Keeps.forall_zip_iff {Inv : List String → σ → Prop} {Inv' : List String → τ → Prop}
    (hkeeps : Keeps step Inv) (hkeeps' : Keeps step' Inv') {start : σ} {start' : τ}
    (hstart : Inv [] start) (hstart' : Inv' [] start') {P : Reading × Reading → Prop}
    {C : List String → String → Prop}
    (hiff : ∀ before state state' line next next', Inv before state → Inv' before state' →
      step state line = .ok next → step' state' line = .ok next' →
        (P (next.reading, next'.reading) ↔ C before line))
    {last : σ} {last' : τ} {lines : List String} {readings readings' : List Reading}
    (h : walk step start lines = .ok (readings, last))
    (h' : walk step' start' lines = .ok (readings', last')) :
    (∀ x ∈ readings.zip readings', P x) ↔
      ∀ before line after, lines = before ++ line :: after → C before line := by
  have hturns : ∀ before line after, lines = before ++ line :: after →
      ∃ x, (readings.zip readings')[before.length]? = some x ∧ (P x ↔ C before line) := by
    intro before line after hlines
    rw [hlines] at h h'
    obtain ⟨turn, next, hturn, hstep, hget⟩ := hkeeps.exists_turn hstart h
    obtain ⟨turn', next', hturn', hstep', hget'⟩ := hkeeps'.exists_turn hstart' h'
    refine ⟨(next.reading, next'.reading), ?_, hiff before turn turn' line next next' hturn hturn'
      hstep hstep'⟩
    rw [List.getElem?_zip_eq_some]
    exact ⟨hget, hget'⟩
  constructor
  · intro hall before line after hlines
    obtain ⟨x, hget, hiff⟩ := hturns before line after hlines
    exact hiff.mp (hall x (List.mem_of_getElem? hget))
  · intro hall x hx
    obtain ⟨i, hi, hget⟩ := List.getElem_of_mem hx
    have hlt : i < lines.length := by
      rw [List.length_zip, length_walk h, length_walk h', Nat.min_self] at hi
      exact hi
    obtain ⟨before, line, after, hlines, rfl⟩ := exists_split_of_lt hlt
    obtain ⟨y, hget', hiff⟩ := hturns before line after hlines
    rw [List.getElem?_eq_getElem hi, hget, Option.some_inj] at hget'
    rw [hget']
    exact hiff.mpr (hall before line after hlines)

lemma keeps_true (hgoesOn : ∀ state line next, step state line = .ok next → next.stop = false) :
    Keeps step (fun _ _ => True) :=
  ⟨fun _ state line next _ => hgoesOn state line next, fun _ _ _ _ _ _ => trivial⟩

end Parsing

end NetTools
