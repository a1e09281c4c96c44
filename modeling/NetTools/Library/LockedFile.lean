import Mathlib.Logic.Function.Basic
import NetTools.Library.Runs

/-!
# A file that processes update under a lock

Every process keeps a state of its own in memory. In a lock section it reads the file, changes
its state and writes it back, or only reads. Whatever the interleaving, the file is what one
process would have written that made all the changes in the order of the lock sections, and
every reading is what that process would have seen.
-/

namespace LockedFile

variable {φ σ ε : Type}

/-- How a state is read from the file and written to it. `load` tells whether it returned, and
the memory that it left. -/
structure Access (φ σ ε : Type) where
  missing : φ
  load : φ → σ → Bool × σ
  save : σ → φ
  apply : σ → ε → σ
  load_missing : ∀ s, load missing s = (true, s)
  load_save : ∀ s s', load (save s) s' = (true, s)

/-- How far a lock section has come. Without a change it only reads. -/
inductive Phase (ε : Type) where
  | locked (change : Option ε)
  | reloaded (change : Option ε)
  | applied (change : ε)
  | persisted (change : ε)

structure Reading (σ ε : Type) where
  process : Nat
  seen : σ
  after : List (Nat × ε)

structure World (φ σ ε : Type) where
  file : φ
  memory : Nat → σ
  holder : Option (Nat × Phase ε) := none
  completed : List (Nat × ε) := []
  readings : List (Reading σ ε) := []

inductive Step (ε : Type) where
  | lock (p : Nat) (change : Option ε)
  | advance

def step (A : Access φ σ ε) (w : World φ σ ε) : Step ε → World φ σ ε
  | .lock p change =>
    match w.holder with
    | none => { w with holder := some (p, .locked change) }
    | some _ => w
  | .advance =>
    match w.holder with
    | none => w
    | some (p, .locked change) =>
      let loaded := A.load w.file (w.memory p)
      { w with
        memory := Function.update w.memory p loaded.2
        holder := if loaded.1 then some (p, .reloaded change) else none }
    | some (p, .reloaded none) =>
      { w with holder := none, readings := ⟨p, w.memory p, w.completed⟩ :: w.readings }
    | some (p, .reloaded (some e)) =>
      { w with
        memory := Function.update w.memory p (A.apply (w.memory p) e)
        holder := some (p, .applied e) }
    | some (p, .applied e) =>
      { w with file := A.save (w.memory p), holder := some (p, .persisted e) }
    | some (p, .persisted e) => { w with holder := none, completed := w.completed ++ [(p, e)] }

section Counted

variable (A : Access φ σ ε) (initial : Nat → σ)

/-- The process whose memory the changes build on: the one that made the first of them, or the
reader where there are none. -/
def base (done : List (Nat × ε)) (p : Nat) : Nat := (done.head?.map Prod.fst).getD p

def counted (done : List (Nat × ε)) (p : Nat) : σ :=
  (done.map Prod.snd).foldl A.apply (initial (base done p))

@[simp] lemma counted_nil (p : Nat) : counted A initial [] p = initial p := rfl

lemma counted_concat (done : List (Nat × ε)) (p q : Nat) (e : ε) :
    counted A initial (done ++ [(p, e)]) q = A.apply (counted A initial done p) e := by
  unfold counted
  rw [List.map_append, List.foldl_append]
  cases done with
  | nil => rfl
  | cons head rest => rfl

def FileIs (file : φ) (done : List (Nat × ε)) : Prop :=
  (done = [] → file = A.missing) ∧ ∀ p, done ≠ [] → file = A.save (counted A initial done p)

lemma load_of_fileIs {file : φ} {done : List (Nat × ε)} {p : Nat} {s : σ}
    (hfile : FileIs A initial file done) (hs : done = [] → s = initial p) :
    A.load file s = (true, counted A initial done p) := by
  by_cases hdone : done = []
  · rw [hfile.1 hdone, A.load_missing, hs hdone, hdone]
    rfl
  · rw [hfile.2 p hdone, A.load_save]

/-- What is known of the memory of a process in its lock section. -/
def Knows (done : List (Nat × ε)) (p : Nat) (s : σ) : Phase ε → Prop
  | .locked _ => done = [] → s = initial p
  | .reloaded _ => s = counted A initial done p
  | .applied e => s = A.apply (counted A initial done p) e
  | .persisted e => s = A.apply (counted A initial done p) e

def written (w : World φ σ ε) : List (Nat × ε) :=
  match w.holder with
  | some (p, .persisted e) => w.completed ++ [(p, e)]
  | _ => w.completed

structure Inv (w : World φ σ ε) : Prop where
  file : FileIs A initial w.file (written w)
  waiting : ∀ p, (w.holder.map Prod.fst) ≠ some p → w.completed = [] → w.memory p = initial p
  holding : ∀ p phase, w.holder = some (p, phase) →
    Knows A initial w.completed p (w.memory p) phase
  readings : ∀ r ∈ w.readings, r.after <+: w.completed ∧
    r.seen = counted A initial r.after r.process

end Counted

variable {A : Access φ σ ε} {initial : Nat → σ} {w : World φ σ ε}

lemma Inv.init (A : Access φ σ ε) (initial : Nat → σ) :
    Inv A initial { file := A.missing, memory := initial } :=
  ⟨⟨fun _ => rfl, fun _ h => absurd rfl h⟩, fun _ _ _ => rfl, nofun, nofun⟩

lemma Inv.waiting_update (h : Inv A initial w) {p : Nat} {phase : Phase ε}
    (hholder : w.holder = some (p, phase)) (s : σ) {q : Nat} (hq : p ≠ q)
    (hnone : w.completed = []) : Function.update w.memory p s q = initial q := by
  rw [Function.update_of_ne hq.symm]
  apply h.waiting q _ hnone
  rw [hholder]
  intro heq
  exact hq (Option.some.inj heq)

lemma Inv.step_lock (h : Inv A initial w) (p : Nat) (change : Option ε) :
    Inv A initial (step A w (.lock p change)) := by
  cases hholder : w.holder with
  | some held => rwa [LockedFile.step, hholder]
  | none =>
    rw [LockedFile.step, hholder]
    have hfile := h.file
    unfold written at hfile
    rw [hholder] at hfile
    refine ⟨hfile, ?_, ?_, h.readings⟩
    · intro q _ hnone
      exact h.waiting q (by rw [hholder]; nofun) hnone
    · intro q phase hq
      cases hq
      intro hnone
      exact h.waiting p (by rw [hholder]; nofun) hnone

lemma Inv.load_eq (h : Inv A initial w) {p : Nat} {change : Option ε}
    (hholder : w.holder = some (p, .locked change)) :
    A.load w.file (w.memory p) = (true, counted A initial w.completed p) := by
  have hfile := h.file
  unfold written at hfile
  rw [hholder] at hfile
  exact load_of_fileIs A initial hfile (h.holding p _ hholder)

theorem Inv.step_advance (h : Inv A initial w) : Inv A initial (step A w .advance) := by
  cases hholder : w.holder with
  | none => rwa [LockedFile.step, hholder]
  | some held =>
    obtain ⟨p, phase⟩ := held
    have hknows := h.holding p phase hholder
    have hfile := h.file
    unfold written at hfile
    rw [hholder] at hfile
    cases phase with
    | locked change =>
      rw [LockedFile.step, hholder]
      simp only [h.load_eq hholder, if_true]
      refine ⟨hfile, ?_, ?_, h.readings⟩
      · intro q hq hnone
        exact h.waiting_update hholder _ (fun he => hq (congrArg some he)) hnone
      · intro q phase hq
        cases hq
        exact Function.update_self ..
    | reloaded change =>
      cases change with
      | none =>
        rw [LockedFile.step, hholder]
        refine ⟨hfile, ?_, nofun, ?_⟩
        · intro q _ hnone
          by_cases hq : p = q
          · subst hq
            have hmemory : w.memory p = counted A initial w.completed p := hknows
            rw [hmemory, hnone]
            rfl
          · exact h.waiting q (by rw [hholder]; simpa using hq) hnone
        · intro r hr
          rcases List.mem_cons.mp hr with rfl | hr
          · exact ⟨List.prefix_rfl, hknows⟩
          · exact h.readings r hr
      | some e =>
        rw [LockedFile.step, hholder]
        refine ⟨hfile, ?_, ?_, h.readings⟩
        · intro q hq hnone
          exact h.waiting_update hholder _ (fun he => hq (congrArg some he)) hnone
        · intro q phase hq
          cases hq
          have hmemory : w.memory p = counted A initial w.completed p := hknows
          change Function.update w.memory p (A.apply (w.memory p) e) p = _
          rw [Function.update_self, hmemory]
    | applied e =>
      rw [LockedFile.step, hholder]
      refine ⟨⟨?_, ?_⟩, ?_, ?_, h.readings⟩
      · intro hnone
        exact absurd hnone (by simp [written])
      · intro q _
        have hmemory : w.memory p = A.apply (counted A initial w.completed p) e := hknows
        change A.save (w.memory p) = A.save (counted A initial (w.completed ++ [(p, e)]) q)
        rw [counted_concat, hmemory]
      · intro q hq hnone
        exact h.waiting q (by rwa [hholder]) hnone
      · intro q phase hq
        cases hq
        exact hknows
    | persisted e =>
      rw [LockedFile.step, hholder]
      refine ⟨hfile, ?_, nofun, ?_⟩
      · intro q _ hnone
        exact absurd hnone (by simp)
      · intro r hr
        obtain ⟨hinitial, hseen⟩ := h.readings r hr
        exact ⟨hinitial.trans (List.prefix_append _ _), hseen⟩

theorem Inv.step (h : Inv A initial w) (i : Step ε) : Inv A initial (step A w i) := by
  cases i with
  | lock p change => exact h.step_lock p change
  | advance => exact h.step_advance

theorem Inv.run (A : Access φ σ ε) (initial : Nat → σ) (steps : List (Step ε)) :
    Inv A initial (Runs.final (LockedFile.step A) { file := A.missing, memory := initial } steps) :=
  Runs.final_of_step (fun _ i h => h.step i) (.init A initial) steps

end LockedFile
