import Mathlib.Data.List.Basic

/-!
# Programs that leave a trace

A program records what it does, may ask what has been recorded, and may raise. What a program leaves
is told of the events that it adds, and the rules follow the way in which programs are put together.
-/

namespace Traces

variable {E ε α β : Type}

def Traced (E ε α : Type) : Type := List E → Except ε α × List E

namespace Traced

instance : Monad (Traced E ε) where
  pure a := fun t => (.ok a, t)
  bind m f := fun t =>
    match m t with
    | (.ok a, t') => f a t'
    | (.error e, t') => (.error e, t')

def emit (event : E) : Traced E ε Unit := fun t => (.ok (), t ++ [event])

def raise (e : ε) : Traced E ε α := fun t => (.error e, t)

def recorded : Traced E ε (List E) := fun t => (.ok t, t)

end Traced

open Traced

/-- From every trace, the events that the program adds meet `after` with its result, or `raised`
when it raises. -/
def Leaves (m : Traced E ε α) (after : α → List E → Prop) (raised : List E → Prop) : Prop :=
  ∀ t, ∃ events, (m t).2 = t ++ events ∧
    (∀ a, (m t).1 = .ok a → after a events) ∧ (∀ e, (m t).1 = .error e → raised events)

variable {after : α → List E → Prop} {raised : List E → Prop}

lemma Leaves.always {m : Traced E ε α} {P : List E → Prop} (h : Leaves m (fun _ => P) P) :
    P (m []).2 := by
  obtain ⟨events, htrace, hok, herror⟩ := h []
  rw [htrace, List.nil_append]
  cases hresult : (m []).1 with
  | ok a => exact hok a hresult
  | error e => exact herror e hresult

lemma leaves_pure {a : α} (h : after a []) : Leaves (pure a : Traced E ε α) after raised := by
  intro t
  refine ⟨[], (List.append_nil t).symm, ?_, ?_⟩
  · rintro b ⟨⟩
    exact h
  · rintro e ⟨⟩

lemma leaves_raise {e : ε} (h : raised []) : Leaves (raise e : Traced E ε α) after raised := by
  intro t
  refine ⟨[], (List.append_nil t).symm, ?_, ?_⟩
  · rintro b ⟨⟩
  · rintro e ⟨⟩
    exact h

lemma leaves_emit (event : E) :
    Leaves (emit event : Traced E ε Unit) (fun _ events => events = [event]) raised := by
  intro t
  refine ⟨[event], rfl, ?_, ?_⟩
  · rintro b ⟨⟩
    rfl
  · rintro e ⟨⟩

lemma leaves_recorded :
    Leaves (recorded : Traced E ε (List E)) (fun _ events => events = []) raised := by
  intro t
  refine ⟨[], (List.append_nil t).symm, ?_, ?_⟩
  · rintro b ⟨⟩
    rfl
  · rintro e ⟨⟩

lemma bind_ok {m : Traced E ε α} {f : α → Traced E ε β} {t t' : List E} {a : α}
    (h : m t = (.ok a, t')) : (m >>= f) t = f a t' := by
  change (match m t with
    | (.ok a, t') => f a t'
    | (.error e, t') => (.error e, t')) = f a t'
  rw [h]

lemma bind_error {m : Traced E ε α} {f : α → Traced E ε β} {t t' : List E} {e : ε}
    (h : m t = (.error e, t')) : (m >>= f) t = (.error e, t') := by
  change (match m t with
    | (.ok a, t') => f a t'
    | (.error e, t') => (.error e, t')) = (.error e, t')
  rw [h]

theorem leaves_bind {m : Traced E ε α} {f : α → Traced E ε β} {between : α → List E → Prop}
    {after : β → List E → Prop} (hm : Leaves m between raised)
    (hf : ∀ a events, between a events →
      Leaves (f a) (fun b rest => after b (events ++ rest)) (fun rest => raised (events ++ rest))) :
    Leaves (m >>= f) after raised := by
  intro t
  obtain ⟨events, htrace, hok, herror⟩ := hm t
  cases hrun : m t with
  | mk result t' =>
    rw [hrun] at htrace hok herror
    dsimp only at htrace hok herror
    cases result with
    | ok a =>
      obtain ⟨rest, htrace', hok', herror'⟩ := hf a events (hok a rfl) t'
      rw [bind_ok hrun, htrace', htrace, List.append_assoc]
      rw [htrace] at hok' herror'
      exact ⟨events ++ rest, rfl, hok', herror'⟩
    | error e =>
      rw [bind_error hrun]
      refine ⟨events, htrace, ?_, ?_⟩
      · rintro b ⟨⟩
      · intro e' he
        exact herror e rfl

lemma Leaves.weaken {m : Traced E ε α} {after' : α → List E → Prop} {raised' : List E → Prop}
    (h : Leaves m after raised) (hafter : ∀ a events, after a events → after' a events)
    (hraised : ∀ events, raised events → raised' events) : Leaves m after' raised' := by
  intro t
  obtain ⟨events, htrace, hok, herror⟩ := h t
  exact ⟨events, htrace, fun a ha => hafter a events (hok a ha),
    fun e he => hraised events (herror e he)⟩

def forEach (f : α → Traced E ε β) : List α → Traced E ε (List β)
  | [] => pure []
  | a :: as => f a >>= fun b => forEach f as >>= fun bs => pure (b :: bs)

theorem leaves_forEach {f : α → Traced E ε β} (raised : List E → Prop)
    (I : List α → List β → List E → Prop)
    (hf : ∀ done a bs events, I done bs events →
      Leaves (f a) (fun b new => I (done ++ [a]) (bs ++ [b]) (events ++ new))
        (fun new => raised (events ++ new)))
    (as done : List α) (bs : List β) (events : List E) (h : I done bs events) :
    Leaves (forEach f as) (fun bs' new => I (done ++ as) (bs ++ bs') (events ++ new))
      (fun new => raised (events ++ new)) := by
  induction as generalizing done bs events with
  | nil =>
    apply leaves_pure
    simp only [List.append_nil]
    exact h
  | cons a as ih =>
    apply leaves_bind (hf done a bs events h)
    intro b new hb
    have hrest : Leaves (forEach f as)
        (fun bs' rest => I (done ++ [a] ++ as) (bs ++ [b] ++ bs') (events ++ new ++ rest))
        (fun rest => raised (events ++ (new ++ rest))) := by
      apply (ih (done ++ [a]) (bs ++ [b]) (events ++ new) hb).weaken (fun _ _ h => h)
      intro rest hraised
      rw [List.append_assoc] at hraised
      exact hraised
    apply leaves_bind hrest
    intro bs' rest hbs
    apply leaves_pure
    simp only [List.append_assoc, List.singleton_append, List.append_nil] at hbs ⊢
    exact hbs

lemma leaves_forEach_map {f : α → Traced E ε β} {g : α → E}
    (hf : ∀ a, Leaves (f a) (fun _ events => events = [g a]) (fun _ => False)) (as : List α) :
    Leaves (forEach f as) (fun _ events => events = as.map g) raised := by
  have hstep : ∀ (done : List α) (a : α) (bs : List β) (events : List E), events = done.map g →
      Leaves (f a) (fun _ new => events ++ new = (done ++ [a]).map g) (fun _ => False) := by
    intro done a bs events hdone
    apply (hf a).weaken _ (fun _ h => h)
    rintro b new rfl
    rw [hdone, List.map_append]
    rfl
  have hloop := leaves_forEach (fun _ => False)
    (fun done (_ : List β) events => events = done.map g) hstep as [] [] [] rfl
  exact hloop.weaken (fun _ _ h => h) (fun _ h => h.elim)

/-- Whatever a program returns, from any trace, meets `P`. -/
def Yields (m : Traced E ε α) (P : α → Prop) : Prop := ∀ t a, (m t).1 = .ok a → P a

lemma yields_pure {a : α} {P : α → Prop} (h : P a) : Yields (pure a : Traced E ε α) P := by
  rintro t b ⟨⟩
  exact h

lemma yields_any (m : Traced E ε α) : Yields m (fun _ => True) := fun _ _ _ => trivial

theorem yields_bind {m : Traced E ε α} {f : α → Traced E ε β} {between : α → Prop}
    {P : β → Prop} (hm : Yields m between) (hf : ∀ a, between a → Yields (f a) P) :
    Yields (m >>= f) P := by
  intro t b hb
  cases hrun : m t with
  | mk result t' =>
    cases result with
    | ok a =>
      rw [bind_ok hrun] at hb
      exact hf a (hm t a (by rw [hrun])) t' b hb
    | error e =>
      rw [bind_error hrun] at hb
      cases hb

lemma of_bind_ok {m : Traced E ε α} {f : α → Traced E ε β} {t : List E} {b : β}
    (h : ((m >>= f) t).1 = .ok b) : ∃ a t', m t = (.ok a, t') ∧ (f a t').1 = .ok b := by
  cases hrun : m t with
  | mk result t' =>
    cases result with
    | ok a =>
      rw [bind_ok hrun] at h
      exact ⟨a, t', rfl, h⟩
    | error e =>
      rw [bind_error hrun] at h
      cases h

theorem of_forEach_ok {f : α → Traced E ε β} {as : List α} {bs : List β} {t : List E}
    (h : (forEach f as t).1 = .ok bs) :
    List.Forall₂ (fun a b => ∃ t, (f a t).1 = .ok b) as bs := by
  induction as generalizing bs t with
  | nil =>
    cases h
    exact .nil
  | cons a as ih =>
    rw [forEach] at h
    obtain ⟨b, t', hfirst, hrest⟩ := of_bind_ok h
    obtain ⟨rest, t'', hloop, hpure⟩ := of_bind_ok hrest
    cases hpure
    have hb : (f a t).1 = .ok b := by rw [hfirst]
    have hbs : (forEach f as t').1 = .ok rest := by rw [hloop]
    exact .cons ⟨t, hb⟩ (ih hbs)

/-- From every trace, a program ends with `result`. -/
def Gives (m : Traced E ε α) (result : Except ε α) : Prop := ∀ t, (m t).1 = result

lemma Gives.unique {m : Traced E ε α} {result result' : Except ε α} (h : Gives m result)
    (h' : Gives m result') : result = result' := (h []).symm.trans (h' [])

lemma gives_pure (a : α) : Gives (pure a : Traced E ε α) (.ok a) := fun _ => rfl

lemma gives_emit (event : E) : Gives (emit event : Traced E ε Unit) (.ok ()) := fun _ => rfl

theorem gives_bind {m : Traced E ε α} {f : α → Traced E ε β} {a : α} {result : Except ε β}
    (hm : Gives m (.ok a)) (hf : Gives (f a) result) : Gives (m >>= f) result := by
  intro t
  cases hrun : m t with
  | mk first t' =>
    have hfirst : first = .ok a := by
      rw [← hm t, hrun]
    rw [bind_ok (hfirst ▸ hrun)]
    exact hf t'

lemma exists_gives_bind {m : Traced E ε α} {f : α → Traced E ε β} {a : α} {P : β → Prop}
    (hm : Gives m (.ok a)) (hf : ∃ b, Gives (f a) (.ok b) ∧ P b) :
    ∃ b, Gives (m >>= f) (.ok b) ∧ P b := by
  obtain ⟨b, hb, hP⟩ := hf
  exact ⟨b, gives_bind hm hb, hP⟩

theorem gives_forEach {f : α → Traced E ε β} {g : α → β} {as : List α}
    (h : ∀ a ∈ as, Gives (f a) (.ok (g a))) : Gives (forEach f as) (.ok (as.map g)) := by
  induction as with
  | nil => exact gives_pure []
  | cons a as ih =>
    rw [List.forall_mem_cons] at h
    rw [forEach]
    apply gives_bind h.1
    apply gives_bind (ih h.2)
    exact gives_pure _

end Traces
