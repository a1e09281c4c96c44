import Mathlib.Combinatorics.SimpleGraph.Metric

/-!
# Searching a graph

A search keeps the vertices seen so far and those still to be expanded. Whatever the order in which
it expands them, it sees what is reachable. With a queue and predecessors the search goes by
distance, and a chain of predecessors is a shortest path.
-/

namespace GraphSearch

variable {α : Type} {G : SimpleGraph α} {start : α}

/-- What a search knows: what is seen is reachable, and what is not pending is expanded. -/
structure Searched (G : SimpleGraph α) (start : α) (seen pending : List α) : Prop where
  start_seen : start ∈ seen
  reachable : ∀ x ∈ seen, G.Reachable start x
  pending_seen : ∀ x ∈ pending, x ∈ seen
  expanded : ∀ x ∈ seen, x ∈ pending ∨ ∀ y, G.Adj x y → y ∈ seen

namespace Searched

variable {seen pending seen' pending' fresh : List α} {current : α}

lemma init (G : SimpleGraph α) (start : α) : Searched G start [start] [start] where
  start_seen := List.mem_singleton_self start
  reachable x hx := by
    rw [List.mem_singleton.mp hx]
  pending_seen x hx := hx
  expanded x hx := .inl hx

theorem step (h : Searched G start seen (current :: pending))
    (hfresh : ∀ y, y ∈ fresh ↔ G.Adj current y ∧ y ∉ seen)
    (hseen : ∀ y, y ∈ seen' ↔ y ∈ seen ∨ y ∈ fresh)
    (hpending : ∀ y, y ∈ pending' ↔ y ∈ pending ∨ y ∈ fresh) :
    Searched G start seen' pending' where
  start_seen := (hseen start).mpr (.inl h.start_seen)
  reachable x hx := by
    rcases (hseen x).mp hx with hold | hnew
    · exact h.reachable x hold
    · have hcurrent := h.reachable current (h.pending_seen current List.mem_cons_self)
      exact hcurrent.trans ((hfresh x).mp hnew).1.reachable
  pending_seen x hx := by
    rw [hseen]
    rcases (hpending x).mp hx with hold | hnew
    · exact .inl (h.pending_seen x (List.mem_cons_of_mem _ hold))
    · exact .inr hnew
  expanded x hx := by
    rcases (hseen x).mp hx with hold | hnew
    · rcases h.expanded x hold with hpend | hdone
      · rcases List.mem_cons.mp hpend with rfl | hrest
        · refine .inr (fun y hadj => ?_)
          by_cases hy : y ∈ seen
          · exact (hseen y).mpr (.inl hy)
          · exact (hseen y).mpr (.inr ((hfresh y).mpr ⟨hadj, hy⟩))
        · exact .inl ((hpending x).mpr (.inl hrest))
      · exact .inr (fun y hadj => (hseen y).mpr (.inl (hdone y hadj)))
    · exact .inl ((hpending x).mpr (.inr hnew))

theorem seen_iff (h : Searched G start seen []) (x : α) : x ∈ seen ↔ G.Reachable start x := by
  constructor
  · exact h.reachable x
  · rintro ⟨walk⟩
    induction walk using SimpleGraph.Walk.concatRec with
    | Hnil => exact h.start_seen
    | Hconcat walk hadj ih =>
      rcases h.expanded _ (ih h) with hpend | hdone
      · cases hpend
      · exact hdone _ hadj

end Searched

section

variable [DecidableEq α] (vertices : List α)

def turnsLeft (seen pending : List α) : ℕ :=
  pending.length + (vertices.filter (· ∉ seen)).length

variable {vertices} {seen pending seen' fresh : List α}

lemma length_filter_unseen (hvertices : vertices.Nodup) (hnodup : fresh.Nodup)
    (hfresh : ∀ y ∈ fresh, y ∈ vertices ∧ y ∉ seen)
    (hseen : ∀ y, y ∈ seen' ↔ y ∈ seen ∨ y ∈ fresh) :
    (vertices.filter (· ∉ seen')).length + fresh.length =
      (vertices.filter (· ∉ seen)).length := by
  have hperm : (vertices.filter (· ∉ seen')  ++ fresh).Perm (vertices.filter (· ∉ seen)) := by
    rw [List.perm_ext_iff_of_nodup]
    · intro y
      rw [List.mem_append, List.mem_filter, List.mem_filter, decide_eq_true_eq, decide_eq_true_eq,
        hseen]
      constructor
      · rintro (⟨hy, hnot⟩ | hy)
        · exact ⟨hy, fun h => hnot (.inl h)⟩
        · exact hfresh y hy
      · rintro ⟨hy, hnot⟩
        by_cases hnew : y ∈ fresh
        · exact .inr hnew
        · exact .inl ⟨hy, fun h => h.elim hnot hnew⟩
    · rw [List.nodup_append']
      refine ⟨hvertices.filter _, hnodup, ?_⟩
      intro y hy hnew
      rw [List.mem_filter, decide_eq_true_eq, hseen] at hy
      exact hy.2 (.inr hnew)
    · exact hvertices.filter _
  rw [← List.length_append]
  exact hperm.length_eq

lemma turnsLeft_step {current : α} {pending' : List α} (hvertices : vertices.Nodup)
    (hnodup : fresh.Nodup) (hfresh : ∀ y ∈ fresh, y ∈ vertices ∧ y ∉ seen)
    (hseen : ∀ y, y ∈ seen' ↔ y ∈ seen ∨ y ∈ fresh)
    (hpending : pending'.length = pending.length + fresh.length) :
    turnsLeft vertices seen' pending' + 1 = turnsLeft vertices seen (current :: pending) := by
  have hcount := length_filter_unseen hvertices hnodup hfresh hseen
  unfold turnsLeft
  rw [List.length_cons]
  omega

lemma turnsLeft_init {start : α} (hvertices : vertices.Nodup) (hstart : start ∈ vertices) :
    turnsLeft vertices [start] [start] = vertices.length := by
  have hcount := @length_filter_unseen _ _ vertices [] [start] [start] hvertices
    (List.nodup_singleton start) (by simpa using hstart) (by simp)
  unfold turnsLeft
  rw [List.length_singleton] at hcount ⊢
  simp only [List.not_mem_nil, not_false_eq_true, decide_true, List.filter_true] at hcount
  omega

end

section

variable {β : Type} [DecidableEq α] {l : List (α × β)} {x : α}

lemma mem_of_lookup_eq_some {b : β} (h : l.lookup x = some b) : (x, b) ∈ l := by
  obtain ⟨before, after, rfl, -⟩ := List.lookup_eq_some_iff.mp h
  exact List.mem_append_right _ List.mem_cons_self

lemma exists_lookup_of_mem_keys (h : x ∈ l.map Prod.fst) : ∃ b, l.lookup x = some b := by
  rw [← Option.ne_none_iff_exists']
  intro hnone
  obtain ⟨pair, hpair, rfl⟩ := List.mem_map.mp h
  have hall := List.lookup_eq_none_iff.mp hnone pair hpair
  simp at hall

end

lemma dist_le_succ {u v : α} (hu : G.Reachable start u) (hadj : G.Adj u v) :
    G.dist start v ≤ G.dist start u + 1 := by
  obtain ⟨walk, hwalk⟩ := hu.exists_walk_length_eq_dist
  calc G.dist start v ≤ (walk.concat hadj).length := G.dist_le _
    _ = G.dist start u + 1 := by rw [SimpleGraph.Walk.length_concat, hwalk]

/-- A breadth-first search: the queue is in the order of the distances, which differ by one at
most, and a predecessor is one nearer. -/
structure Layered [DecidableEq α] (G : SimpleGraph α) (start : α)
    (predecessors : List (α × Option α)) (queue : List α) : Prop where
  searched : Searched G start (predecessors.map Prod.fst) queue
  ordered : queue.Pairwise (fun x y => G.dist start x ≤ G.dist start y)
  near : ∀ x ∈ queue.head?, ∀ y ∈ queue, G.dist start y ≤ G.dist start x + 1
  first : predecessors.lookup start = some none
  nearer : ∀ x, x ≠ start → ∀ before, predecessors.lookup x = some before →
    ∃ u, before = some u ∧ u ∈ predecessors.map Prod.fst ∧ G.Adj u x ∧
      G.dist start x = G.dist start u + 1

namespace Layered

variable [DecidableEq α] {predecessors : List (α × Option α)} {queue fresh : List α} {current : α}

lemma init (G : SimpleGraph α) (start : α) : Layered G start [(start, none)] [start] where
  searched := Searched.init G start
  ordered := List.pairwise_singleton _ _
  near x hx y hy := by
    rw [List.head?_cons, Option.mem_some_iff] at hx
    rw [List.mem_singleton.mp hy, hx]
    exact Nat.le_succ _
  first := by simp
  nearer x hx before hbefore := by
    rw [List.lookup_cons, beq_false_of_ne hx] at hbefore
    cases hbefore

lemma lt_dist_of_unseen (h : Layered G start predecessors (current :: queue)) {y : α}
    (hreach : G.Reachable start y) (hy : y ∉ predecessors.map Prod.fst) :
    G.dist start current < G.dist start y := by
  obtain ⟨walk, hwalk⟩ := hreach.exists_walk_length_eq_dist
  rw [← hwalk]
  clear hwalk hreach
  induction walk using SimpleGraph.Walk.concatRec with
  | Hnil => exact absurd h.searched.start_seen hy
  | Hconcat walk hadj ih =>
    rename_i u v w
    rw [SimpleGraph.Walk.length_concat]
    by_cases hseen : v ∈ predecessors.map Prod.fst
    · rcases h.searched.expanded v hseen with hpend | hdone
      · have hle : G.dist u current ≤ G.dist u v := by
          rcases List.mem_cons.mp hpend with rfl | hrest
          · exact le_refl _
          · exact (List.pairwise_cons.mp h.ordered).1 v hrest
        have hwalk := G.dist_le walk
        omega
      · exact absurd (hdone w hadj) hy
    · have hlt := ih h hseen
      omega

theorem step (h : Layered G start predecessors (current :: queue))
    (hfresh : ∀ y, y ∈ fresh ↔ G.Adj current y ∧ y ∉ predecessors.map Prod.fst) :
    Layered G start (predecessors ++ fresh.map (fun y => (y, some current)))
      (queue ++ fresh) := by
  have hcurrent : current ∈ predecessors.map Prod.fst :=
    h.searched.pending_seen current List.mem_cons_self
  have hreach := h.searched.reachable current hcurrent
  have hdist : ∀ y ∈ fresh, G.dist start y = G.dist start current + 1 := by
    intro y hy
    obtain ⟨hadj, hunseen⟩ := (hfresh y).mp hy
    have hle := dist_le_succ hreach hadj
    have hlt := h.lt_dist_of_unseen (hreach.trans hadj.reachable) hunseen
    omega
  have hqueue : ∀ y ∈ queue, G.dist start current ≤ G.dist start y ∧
      G.dist start y ≤ G.dist start current + 1 := by
    intro y hy
    exact ⟨(List.pairwise_cons.mp h.ordered).1 y hy,
      h.near current rfl y (List.mem_cons_of_mem _ hy)⟩
  have hkeys : ∀ y, y ∈ (predecessors ++ fresh.map (fun y => (y, some current))).map Prod.fst ↔
      y ∈ predecessors.map Prod.fst ∨ y ∈ fresh := by
    intro y
    simp
  refine ⟨h.searched.step hfresh hkeys (fun y => List.mem_append), ?_, ?_, ?_, ?_⟩
  · rw [List.pairwise_append]
    refine ⟨(List.pairwise_cons.mp h.ordered).2, ?_, ?_⟩
    · apply List.pairwise_of_forall_mem_list
      intro x hx y hy
      rw [hdist x hx, hdist y hy]
    · intro x hx y hy
      rw [hdist y hy]
      exact (hqueue x hx).2
  · have hall : ∀ y ∈ queue ++ fresh, G.dist start current ≤ G.dist start y ∧
        G.dist start y ≤ G.dist start current + 1 := by
      intro y hy
      rcases List.mem_append.mp hy with hold | hnew
      · exact hqueue y hold
      · rw [hdist y hnew]
        exact ⟨Nat.le_succ _, le_refl _⟩
    intro x hx y hy
    have hlow := (hall x (List.mem_of_mem_head? hx)).1
    have hhigh := (hall y hy).2
    omega
  · rw [List.lookup_append, h.first]
    rfl
  · intro x hx before hbefore
    rw [List.lookup_append] at hbefore
    cases hold : predecessors.lookup x with
    | some old =>
      rw [hold, Option.some_or, Option.some.injEq] at hbefore
      obtain ⟨u, hu, hmem, hrest⟩ := h.nearer x hx old hold
      exact ⟨u, hbefore ▸ hu, (hkeys u).mpr (.inl hmem), hrest⟩
    | none =>
      rw [hold, Option.none_or] at hbefore
      obtain ⟨y, hy, hpair⟩ := List.mem_map.mp (mem_of_lookup_eq_some hbefore)
      rw [Prod.mk.injEq] at hpair
      obtain ⟨rfl, rfl⟩ := hpair
      exact ⟨current, rfl, (hkeys current).mpr (.inl hcurrent), ((hfresh y).mp hy).1, hdist y hy⟩

end Layered

def chain [DecidableEq α] (predecessors : List (α × Option α)) : ℕ → Option α → List α
  | 0, _ => []
  | _ + 1, none => []
  | fuel + 1, some x => x :: chain predecessors fuel ((predecessors.lookup x).getD none)

theorem Layered.exists_chain [DecidableEq α] {predecessors : List (α × Option α)}
    {queue : List α} (h : Layered G start predecessors queue) (n : ℕ) {x : α}
    (hx : x ∈ predecessors.map Prod.fst) (hdist : G.dist start x = n) :
    ∃ walk : G.Walk start x, walk.length = n ∧
      (∀ y ∈ walk.support, y ∈ predecessors.map Prod.fst) ∧
        ∀ fuel, n < fuel → chain predecessors fuel (some x) = walk.support.reverse := by
  induction n generalizing x with
  | zero =>
    have hstart := (h.searched.reachable x hx).dist_eq_zero_iff.mp hdist
    subst hstart
    refine ⟨SimpleGraph.Walk.nil, rfl, ?_, ?_⟩
    · intro y hy
      rw [SimpleGraph.Walk.support_nil, List.mem_singleton] at hy
      exact hy ▸ hx
    · intro fuel hfuel
      obtain ⟨fuel, rfl⟩ := Nat.exists_eq_add_of_lt hfuel
      rw [Nat.zero_add, chain, h.first]
      cases fuel with
      | zero => rfl
      | succ fuel => rfl
  | succ n ih =>
    have hother : x ≠ start := by
      rintro rfl
      rw [SimpleGraph.dist_self] at hdist
      cases hdist
    obtain ⟨before, hbefore⟩ := exists_lookup_of_mem_keys hx
    obtain ⟨u, rfl, hu, hadj, hnear⟩ := h.nearer x hother before hbefore
    obtain ⟨walk, hlength, hsupport, hchain⟩ := ih hu (by omega)
    refine ⟨walk.concat hadj, ?_, ?_, ?_⟩
    · rw [SimpleGraph.Walk.length_concat, hlength]
    · intro y hy
      rw [SimpleGraph.Walk.support_concat, List.mem_append,
        List.mem_singleton] at hy
      rcases hy with hold | rfl
      · exact hsupport y hold
      · exact hx
    · intro fuel hfuel
      obtain ⟨fuel, rfl⟩ := Nat.exists_eq_succ_of_ne_zero (Nat.ne_zero_of_lt hfuel)
      rw [chain, hbefore, Option.getD_some, hchain fuel (by omega),
        SimpleGraph.Walk.support_concat, List.reverse_append]
      rfl

theorem Layered.isPath_chain [DecidableEq α] {predecessors : List (α × Option α)}
    {queue : List α} (h : Layered G start predecessors queue) {x : α}
    (hx : x ∈ predecessors.map Prod.fst) :
    ∃ walk : G.Walk start x, walk.IsPath ∧ walk.length = G.dist start x ∧
      (chain predecessors predecessors.length (some x)).reverse = walk.support := by
  obtain ⟨walk, hlength, hsupport, hchain⟩ := h.exists_chain _ hx rfl
  have hpath := walk.isPath_of_length_eq_dist hlength
  refine ⟨walk, hpath, hlength, ?_⟩
  have hle := (List.subperm_of_subset hpath.support_nodup hsupport).length_le
  rw [SimpleGraph.Walk.length_support, List.length_map, hlength] at hle
  rw [hchain predecessors.length hle, List.reverse_reverse]

end GraphSearch
