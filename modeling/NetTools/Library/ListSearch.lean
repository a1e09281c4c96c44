import Mathlib.Data.List.MinMax
import Mathlib.Data.List.Perm.Basic

/-!
# Searching and cutting lists

`takeThrough` cuts a list after the first element that stops a scan. The other rules say
when the answer of a first-match search does not depend on the order of the list.
-/

namespace ListSearch

variable {α β : Type} {p : α → Bool} {l l' : List α}

/-- The elements up to and including the first one that satisfies `p`. -/
def takeThrough (p : α → Bool) : List α → List α
  | [] => []
  | a :: as => if p a then [a] else a :: takeThrough p as

@[simp] lemma takeThrough_nil : takeThrough p [] = [] := rfl

lemma takeThrough_cons_of_pos {a : α} {as : List α} (h : p a = true) :
    takeThrough p (a :: as) = [a] := if_pos h

lemma takeThrough_cons_of_neg {a : α} {as : List α} (h : p a = false) :
    takeThrough p (a :: as) = a :: takeThrough p as := by
  rw [takeThrough, h]
  rfl

theorem takeThrough_initial (p : α → Bool) (l : List α) : takeThrough p l <+: l := by
  induction l with
  | nil => exact List.prefix_rfl
  | cons a as ih =>
    by_cases h : p a = true
    · rw [takeThrough_cons_of_pos h]
      exact (List.prefix_append [a] as)
    · rw [takeThrough_cons_of_neg (Bool.eq_false_iff.mpr h)]
      exact (List.prefix_cons_inj a).mpr ih

lemma exists_mem_takeThrough {a : α} (ha : a ∈ l) (h : p a = true) :
    ∃ b ∈ takeThrough p l, p b = true := by
  induction l with
  | nil => cases ha
  | cons b bs ih =>
    by_cases hb : p b = true
    · rw [takeThrough_cons_of_pos hb]
      exact ⟨b, List.mem_singleton_self b, hb⟩
    · rw [takeThrough_cons_of_neg (Bool.eq_false_iff.mpr hb)]
      rcases List.mem_cons.mp ha with rfl | ha
      · exact absurd h hb
      · obtain ⟨c, hc, hpc⟩ := ih ha
        exact ⟨c, List.mem_cons_of_mem b hc, hpc⟩

theorem takeThrough_eq_self (h : ∀ a ∈ takeThrough p l, p a = false) : takeThrough p l = l := by
  induction l with
  | nil => rfl
  | cons a as ih =>
    by_cases ha : p a = true
    · rw [takeThrough_cons_of_pos ha] at h
      have := h a (List.mem_singleton_self a)
      rw [ha] at this
      cases this
    · rw [takeThrough_cons_of_neg (Bool.eq_false_iff.mpr ha)] at h ⊢
      rw [ih (fun b hb => h b (List.mem_cons_of_mem a hb))]

lemma takeThrough_ne_nil (h : l ≠ []) : takeThrough p l ≠ [] := by
  cases l with
  | nil => exact absurd rfl h
  | cons a as =>
    rw [takeThrough]
    split <;> exact List.cons_ne_nil _ _

theorem exists_split_of_getLast?_filter {a : α} (h : (l.filter p).getLast? = some a) :
    ∃ above below, l = above ++ a :: below ∧ p a = true ∧ ∀ b ∈ below, p b = false := by
  rw [← List.head?_reverse, ← List.filter_reverse, List.head?_filter,
    List.find?_eq_some_iff_append] at h
  obtain ⟨ha, front, back, hsplit, hfront⟩ := h
  refine ⟨back.reverse, front.reverse, ?_, ha, ?_⟩
  · have := congrArg List.reverse hsplit
    simpa using this
  · intro b hb
    have := hfront b (List.mem_reverse.mp hb)
    simpa using this

theorem find?_map_eq_some {f : α → β} (hagree : ∀ a ∈ l, ∀ b ∈ l, p a → p b → f a = f b) {a : α}
    (ha : a ∈ l) (hp : p a) : (l.find? p).map f = some (f a) := by
  cases hfind : l.find? p with
  | none =>
    have := List.find?_eq_none.mp hfind a ha
    exact absurd hp this
  | some b =>
    have hb := List.mem_of_find?_eq_some hfind
    have hpb := List.find?_some hfind
    exact congrArg some (hagree b hb a ha hpb hp)

theorem find?_map_perm {f : α → β} (hperm : l.Perm l')
    (hagree : ∀ a ∈ l, ∀ b ∈ l, p a → p b → f a = f b) :
    (l.find? p).map f = (l'.find? p).map f := by
  cases hfind : l'.find? p with
  | none =>
    have hnone : l.find? p = none := by
      rw [List.find?_eq_none] at hfind ⊢
      exact fun a ha => hfind a (hperm.mem_iff.mp ha)
    rw [hnone]
  | some b =>
    have hb := hperm.mem_iff.mpr (List.mem_of_find?_eq_some hfind)
    exact find?_map_eq_some hagree hb (List.find?_some hfind)

theorem find?_stable_iff {g : Option α → β} :
    (∀ l', l.Perm l' → g (l'.find? p) = g (l.find? p)) ↔
      ∀ a ∈ l, ∀ b ∈ l, p a → p b → g (some a) = g (some b) := by
  constructor
  · intro hstable
    have hfirst : ∀ a ∈ l, p a → g (some a) = g (l.find? p) := by
      intro a ha hp
      obtain ⟨front, back, hl⟩ := List.append_of_mem ha
      have hperm : l.Perm (a :: (front ++ back)) := by
        rw [hl]
        exact List.perm_middle
      have h := hstable _ hperm
      rwa [List.find?_cons_of_pos hp] at h
    intro a ha b hb hpa hpb
    rw [hfirst a ha hpa, hfirst b hb hpb]
  · intro hagree l' hperm
    have h := find?_map_perm (f := fun a => g (some a)) hperm hagree
    cases hl : l.find? p with
    | none =>
      rw [hl] at h
      rw [Option.map_eq_none_iff.mp h.symm]
    | some a =>
      rw [hl] at h
      obtain ⟨b, hb, hgb⟩ := Option.map_eq_some_iff.mp h.symm
      rw [hb, hgb]

def firstReading (p : α → Bool) (reading : α → β) (otherwise : β) (l : List α) : β :=
  ((l.find? p).map reading).getD otherwise

def readings (p : α → Bool) (reading : α → β) (otherwise : β) (l : List α) : List β :=
  if l.filter p = [] then [otherwise] else (l.filter p).map reading

/-- The list with what satisfies `q` in front. -/
def inFront (q : α → Bool) (l : List α) : List α := l.filter q ++ l.filter (fun a => !q a)

lemma inFront_perm (q : α → Bool) (l : List α) : (inFront q l).Perm l := List.filter_append_perm q l

section Readings

variable {reading : α → β} {otherwise : β}

theorem firstReading_mem_readings (hperm : l.Perm l') :
    firstReading p reading otherwise l' ∈ readings p reading otherwise l := by
  rw [firstReading, readings]
  cases hfind : l'.find? p with
  | none =>
    have hnil : l.filter p = [] := by
      rw [List.filter_eq_nil_iff]
      exact fun a ha => List.find?_eq_none.mp hfind a (hperm.mem_iff.mp ha)
    rw [if_pos hnil]
    exact List.mem_cons_self
  | some a =>
    have ha : a ∈ l.filter p := List.mem_filter.mpr
      ⟨hperm.mem_iff.mpr (List.mem_of_find?_eq_some hfind), List.find?_some hfind⟩
    rw [if_neg (List.ne_nil_of_mem ha)]
    exact List.mem_map_of_mem ha

theorem firstReading_inFront (q : β → Bool) :
    q (firstReading p reading otherwise (inFront (fun a => q (reading a)) l)) = true ∨
      ∀ b ∈ readings p reading otherwise l, q b = false := by
  by_cases hsome : ∃ a ∈ l, p a = true ∧ q (reading a) = true
  · obtain ⟨a, ha, hpa, hqa⟩ := hsome
    have hisSome : ((l.filter (fun a => q (reading a))).find? p).isSome := by
      rw [List.find?_isSome]
      exact ⟨a, List.mem_filter.mpr ⟨ha, hqa⟩, hpa⟩
    obtain ⟨b, hb⟩ := Option.isSome_iff_exists.mp hisSome
    rw [firstReading, inFront, List.find?_append, hb]
    exact .inl (List.mem_filter.mp (List.mem_of_find?_eq_some hb)).2
  · push Not at hsome
    by_cases hnil : l.filter p = []
    · have hmade : firstReading p reading otherwise (inFront (fun a => q (reading a)) l) ∈
          readings p reading otherwise l :=
        firstReading_mem_readings (inFront_perm (fun a => q (reading a)) l).symm
      rw [readings, if_pos hnil, List.mem_singleton] at hmade
      rw [hmade, readings, if_pos hnil]
      cases hq : q otherwise with
      | true => exact .inl rfl
      | false => exact .inr (List.forall_mem_singleton.mpr hq)
    · right
      intro b hb
      rw [readings, if_neg hnil] at hb
      obtain ⟨a, ha, rfl⟩ := List.mem_map.mp hb
      obtain ⟨ha, hpa⟩ := List.mem_filter.mp ha
      exact Bool.eq_false_iff.mpr (hsome a ha hpa)

end Readings

/-- The first element that satisfies `p` stands after `before`. -/
structure FirstAt (p : α → Bool) (l before : List α) (a : α) : Prop where
  split : ∃ after, l = before ++ a :: after
  holds : p a = true
  none_before : ∀ b ∈ before, p b = false

lemma exists_firstAt {a : α} (ha : a ∈ l) (hp : p a = true) : ∃ before b, FirstAt p l before b := by
  have hsome := List.find?_isSome.mpr ⟨a, ha, hp⟩
  obtain ⟨b, hb⟩ := Option.isSome_iff_exists.mp hsome
  obtain ⟨hpb, before, after, hl, hbefore⟩ := List.find?_eq_some_iff_append.mp hb
  refine ⟨before, b, ⟨after, hl⟩, hpb, ?_⟩
  intro c hc
  simpa using hbefore c hc

lemma FirstAt.takeWhile_eq {before : List α} {a : α} (h : FirstAt p l before a) :
    l.takeWhile (fun b => !p b) = before := by
  obtain ⟨after, hl⟩ := h.split
  rw [hl, List.takeWhile_append_of_pos (fun b hb => by rw [h.none_before b hb]; rfl),
    List.takeWhile_cons, h.holds]
  exact List.append_nil before

lemma FirstAt.unique {before before' : List α} {a a' : α} (h : FirstAt p l before a)
    (h' : FirstAt p l before' a') : before = before' ∧ a = a' := by
  have hbefore : before = before' := h.takeWhile_eq.symm.trans h'.takeWhile_eq
  obtain ⟨after, hl⟩ := h.split
  obtain ⟨after', hl'⟩ := h'.split
  rw [hl, hbefore, List.append_cancel_left_eq] at hl'
  exact ⟨hbefore, (List.cons.inj hl').1⟩

lemma FirstAt.congr {q : α → Bool} {before : List α} {a : α} (h : FirstAt p l before a)
    (hpq : ∀ b ∈ l, p b = q b) : FirstAt q l before a := by
  obtain ⟨after, hl⟩ := h.split
  have hmem : ∀ b ∈ before, b ∈ l := by
    intro b hb
    rw [hl]
    exact List.mem_append_left _ hb
  have ha : a ∈ l := by
    rw [hl]
    exact List.mem_append_right _ List.mem_cons_self
  exact ⟨h.split, (hpq a ha).symm.trans h.holds,
    fun b hb => (hpq b (hmem b hb)).symm.trans (h.none_before b hb)⟩

theorem map_filter_eq_iff {q : α → Bool} {e : α → β} (hp : ∀ a b, e a = e b → p a = p b)
    (hq : ∀ a b, e a = e b → q a = q b) :
    (l.filter p).map e = (l.filter q).map e ↔ ∀ a ∈ l, p a = q a := by
  constructor
  · intro heq
    have hsub : ∀ {p q : α → Bool}, (∀ a b, e a = e b → q a = q b) →
        (l.filter p).map e = (l.filter q).map e → ∀ a ∈ l, p a = true → q a = true := by
      intro p q hq heq a ha hpa
      have hmem : e a ∈ (l.filter q).map e := by
        rw [← heq]
        exact List.mem_map_of_mem (List.mem_filter.mpr ⟨ha, hpa⟩)
      obtain ⟨b, hb, hba⟩ := List.mem_map.mp hmem
      rw [← hq b a hba]
      exact (List.mem_filter.mp hb).2
    intro a ha
    rw [Bool.eq_iff_iff]
    exact ⟨hsub hq heq a ha, hsub hp heq.symm a ha⟩
  · intro h
    rw [List.filter_congr h]

lemma mem_of_lookup [BEq α] [LawfulBEq α] {entries : List (α × β)} {a : α} {b : β}
    (h : entries.lookup a = some b) : (a, b) ∈ entries := by
  obtain ⟨front, back, hentries, -⟩ := List.lookup_eq_some_iff.mp h
  rw [hentries]
  exact List.mem_append_right front List.mem_cons_self

lemma lookup_of_mem [BEq α] [LawfulBEq α] {entries : List (α × β)} {a : α} {b : β}
    (h : (a, b) ∈ entries) (hagree : ∀ c, (a, c) ∈ entries → c = b) :
    entries.lookup a = some b := by
  cases hlookup : entries.lookup a with
  | none =>
    have hne := List.lookup_eq_none_iff.mp hlookup (a, b) h
    rw [bne_self_eq_false] at hne
    cases hne
  | some c => rw [hagree c (mem_of_lookup hlookup)]

lemma flatMap_eq_of_lookup [BEq α] [LawfulBEq α] {γ : Type} {entries : List (α × β)}
    (hdistinct : (entries.map Prod.fst).Nodup) (a : α) (f : α × β → List γ)
    (hother : ∀ entry ∈ entries, entry.1 ≠ a → f entry = []) :
    entries.flatMap f = ((entries.lookup a).map (fun b => f (a, b))).getD [] := by
  induction entries with
  | nil => rfl
  | cons entry entries ih =>
    obtain ⟨a', b⟩ := entry
    rw [List.map_cons, List.nodup_cons] at hdistinct
    have hrest := ih hdistinct.2 (fun e he => hother e (List.mem_cons_of_mem _ he))
    rw [List.flatMap_cons, hrest]
    by_cases h : a' = a
    · subst h
      have hnone : entries.lookup a' = none := by
        rw [List.lookup_eq_none_iff]
        intro e he
        rw [bne_iff_ne]
        exact fun heq => hdistinct.1 (List.mem_map.mpr ⟨e, he, heq.symm⟩)
      rw [hnone, List.lookup_cons_self]
      exact List.append_nil _
    · rw [hother (a', b) List.mem_cons_self h, List.lookup_cons,
        beq_eq_false_iff_ne.mpr (Ne.symm h)]
      rfl

lemma lookup_map_of_injective {κ : Type} [BEq β] [LawfulBEq β] {key : α → β}
    (hkey : Function.Injective key) (f : α → κ) {a : α} (ha : a ∈ l) :
    (l.map (fun x => (key x, f x))).lookup (key a) = some (f a) := by
  induction l with
  | nil => cases ha
  | cons x rest ih =>
    rw [List.map_cons]
    by_cases h : a = x
    · rw [h, List.lookup_cons_self]
    · rw [List.lookup_cons, beq_eq_false_iff_ne.mpr (hkey.ne h)]
      exact ih ((List.mem_cons.mp ha).resolve_left h)

lemma lookup_filter_key [BEq α] [LawfulBEq α] (p : α → Bool) (entries : List (α × β)) (a : α) :
    (entries.filter (fun entry => p entry.1)).lookup a =
      if p a = true then entries.lookup a else none := by
  induction entries with
  | nil => rw [List.filter_nil, List.lookup_nil, ite_self]
  | cons entry entries ih =>
    obtain ⟨a', b⟩ := entry
    rw [List.filter_cons]
    by_cases h : a = a'
    · subst h
      by_cases hp : p a = true
      · rw [if_pos hp, if_pos hp, List.lookup_cons_self, List.lookup_cons_self]
      · rw [if_neg hp, ih, if_neg hp, if_neg hp]
    · by_cases hp : p a' = true
      · rw [if_pos hp, List.lookup_cons, List.lookup_cons, beq_eq_false_iff_ne.mpr h]
        exact ih
      · rw [if_neg hp, List.lookup_cons, beq_eq_false_iff_ne.mpr h]
        exact ih

section

variable [DecidableEq α] [DecidableEq β]

lemma splitOn_append_of_not_mem {sep : α} {front : List α} (h : sep ∉ front) (l : List α) :
    (front ++ l).splitOn sep = (l.splitOn sep).modifyHead (front ++ ·) := by
  induction front with
  | nil =>
    have hid : (fun x : List α => [] ++ x) = id := rfl
    rw [hid, List.modifyHead_id]
    rfl
  | cons a as ih =>
    have hne : a ≠ sep := fun heq => h (heq ▸ List.mem_cons_self)
    have hrest := ih (fun hmem => h (List.mem_cons_of_mem a hmem))
    rw [List.cons_append, List.splitOn_cons_eq_if_modifyHead, if_neg (by simpa using hne), hrest,
      List.modifyHead_modifyHead]
    rfl

theorem splitOn_flatMap {f : α → List β} {sep : α} {out : β} (hsep : f sep = [out])
    (hother : ∀ a ∈ l, a ≠ sep → out ∉ f a) :
    (l.flatMap f).splitOn out = (l.splitOn sep).map (List.flatMap f) := by
  induction l with
  | nil => simp
  | cons a as ih =>
    have hrest := ih (fun b hb => hother b (List.mem_cons_of_mem a hb))
    rw [List.flatMap_cons]
    by_cases ha : a = sep
    · rw [ha, hsep, List.singleton_append, List.splitOn_cons_eq_if_modifyHead,
        List.splitOn_cons_eq_if_modifyHead, if_pos (beq_self_eq_true _),
        if_pos (beq_self_eq_true _), hrest]
      rfl
    · rw [splitOn_append_of_not_mem (hother a List.mem_cons_self ha), hrest,
        List.splitOn_cons_eq_if_modifyHead, if_neg (by simpa using ha)]
      cases as.splitOn sep with
      | nil => rfl
      | cons part parts => rfl

lemma eq_or_mem_part {a sep : α} (ha : a ∈ l) : a = sep ∨ ∃ part ∈ l.splitOn sep, a ∈ part := by
  induction l with
  | nil => cases ha
  | cons b bs ih =>
    rw [List.splitOn_cons_eq_if_modifyHead]
    have hrest : a ∈ bs → a = sep ∨ ∃ part ∈ bs.splitOn sep, a ∈ part := ih
    by_cases hb : b = sep
    · rw [if_pos (by simpa using hb)]
      rcases List.mem_cons.mp ha with rfl | hmem
      · exact .inl hb
      · rcases hrest hmem with heq | ⟨part, hpart, hin⟩
        · exact .inl heq
        · exact .inr ⟨part, List.mem_cons_of_mem _ hpart, hin⟩
    · rw [if_neg (by simpa using hb)]
      cases hparts : bs.splitOn sep with
      | nil => exact absurd hparts (List.splitOn_ne_nil sep bs)
      | cons part parts =>
        rw [hparts] at hrest
        rw [List.modifyHead_cons]
        rcases List.mem_cons.mp ha with rfl | hmem
        · exact .inr ⟨_, List.mem_cons_self, List.mem_cons_self⟩
        · rcases hrest hmem with heq | ⟨other, hother, hin⟩
          · exact .inl heq
          · rcases List.mem_cons.mp hother with rfl | hother
            · exact .inr ⟨_, List.mem_cons_self, List.mem_cons_of_mem _ hin⟩
            · exact .inr ⟨other, List.mem_cons_of_mem _ hother, hin⟩

end

lemma exists_perm_find {α : Type} {pred : α → Bool} {l : List α} {x : α} (hx : x ∈ l)
    (hpred : pred x = true) : ∃ l', l.Perm l' ∧ l'.find? pred = some x := by
  obtain ⟨before, after, rfl⟩ := List.append_of_mem hx
  exact ⟨x :: (before ++ after), List.perm_middle, List.find?_cons_of_pos hpred⟩

lemma exists_perm_find_pair {α : Type} {p q : α → Bool} {l : List α} {x y : α} (hx : x ∈ l)
    (hpx : p x = true) (hy : y ∈ l) (hqy : q y = true)
    (hdisjoint : ∀ z, ¬(p z = true ∧ q z = true)) :
    ∃ l', l.Perm l' ∧ l'.find? p = some x ∧ l'.find? q = some y := by
  obtain ⟨before, after, rfl⟩ := List.append_of_mem hx
  have hqx : q x = false := by
    by_contra h
    exact hdisjoint x ⟨hpx, Bool.of_not_eq_false h⟩
  have hrest : y ∈ before ++ after := by
    rcases List.mem_append.mp hy with hbefore | hcons
    · exact List.mem_append_left _ hbefore
    · rcases List.mem_cons.mp hcons with rfl | hafter
      · exact absurd ⟨hpx, hqy⟩ (hdisjoint y)
      · exact List.mem_append_right _ hafter
  obtain ⟨front, back, hsplit⟩ := List.append_of_mem hrest
  refine ⟨x :: y :: (front ++ back), ?_, ?_, ?_⟩
  · apply List.perm_middle.trans
    rw [hsplit]
    exact List.perm_middle.cons x
  · exact List.find?_cons_of_pos hpx
  · rw [List.find?_cons, hqx, List.find?_cons_of_pos hqy]

section Argmax

variable {κ γ : Type} [LinearOrder κ] {key : α → κ} {g : α → γ}

lemma argmax_cons_of_le {a : α} (h : ∀ b ∈ l, key b ≤ key a) : (a :: l).argmax key = some a := by
  rw [List.argmax_cons]
  cases hrest : l.argmax key with
  | none => rfl
  | some b => exact if_neg (not_lt.mpr (h b (List.argmax_mem hrest)))

theorem argmax_map_of_perm (hperm : l'.Perm l)
    (h : ∀ a ∈ l, ∀ b ∈ l, (∀ c ∈ l, key c ≤ key a) → (∀ c ∈ l, key c ≤ key b) → g a = g b) :
    (l'.argmax key).map g = (l.argmax key).map g := by
  cases hl : l.argmax key with
  | none =>
    rw [List.argmax_eq_none] at hl
    rw [hl] at hperm
    rw [List.perm_nil.mp hperm]
    rfl
  | some b =>
    cases hl' : l'.argmax key with
    | none =>
      rw [List.argmax_eq_none] at hl'
      rw [hl'] at hperm
      rw [List.nil_perm.mp hperm] at hl
      cases hl
    | some a =>
      have ha := hperm.mem_iff.mp (List.argmax_mem hl')
      have hmax : ∀ c ∈ l, key c ≤ key a :=
        fun c hc => List.le_of_mem_argmax (hperm.mem_iff.mpr hc) hl'
      exact congrArg some (h a ha b (List.argmax_mem hl) hmax
        (fun c hc => List.le_of_mem_argmax hc hl))

end Argmax

lemma mapM_eq_some_map {f : α → Option β} {g : α → β} (h : ∀ a ∈ l, f a = some (g a)) :
    l.mapM f = some (l.map g) := by
  induction l with
  | nil => rfl
  | cons a l ih =>
    have hrest := ih (fun b hb => h b (List.mem_cons_of_mem a hb))
    rw [List.mapM_cons, h a List.mem_cons_self, hrest]
    rfl

end ListSearch
