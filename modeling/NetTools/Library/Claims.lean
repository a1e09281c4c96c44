import Mathlib.Algebra.BigOperators.Group.List.Basic
import Mathlib.Algebra.GroupWithZero.Nat
import Mathlib.Data.List.Count

/-!
# Claims on the items of a list

Readers go over the items of a list and claim some of them. A claim names the key of the item, so it
is settled with the first item of that key. What is left over is compared with what was not read.
-/

namespace Claims

variable {ι κ ρ : Type} [DecidableEq κ]

def leftover (key : ι → κ) (keep : ι → Bool) : List κ → List ι → List κ
  | _, [] => []
  | claims, item :: items =>
    if key item ∈ claims then leftover key keep (claims.erase (key item)) items
    else if keep item then key item :: leftover key keep claims items
    else leftover key keep claims items

lemma leftover_nil (key : ι → κ) (keep : ι → Bool) (claims : List κ) :
    leftover key keep claims [] = [] := rfl

lemma leftover_cons (key : ι → κ) (keep : ι → Bool) (claims : List κ) (item : ι)
    (items : List ι) : leftover key keep claims (item :: items) =
      if key item ∈ claims then leftover key keep (claims.erase (key item)) items
      else if keep item then key item :: leftover key keep claims items
      else leftover key keep claims items := rfl

structure Mark (ι : Type) where
  item : ι
  claims : Nat
  read : Bool

section

variable (key : ι → κ) (keep : ι → Bool)

lemma count_leftover_cons_of_ne {k : κ} {item : ι} (hne : key item ≠ k) (claims : List κ)
    (items : List ι) :
    ∃ claims', claims'.count k = claims.count k ∧
      (leftover key keep claims (item :: items)).count k =
        (leftover key keep claims' items).count k := by
  by_cases hmem : key item ∈ claims
  · refine ⟨claims.erase (key item), List.count_erase_of_ne (Ne.symm hne), ?_⟩
    rw [leftover_cons, if_pos hmem]
  · refine ⟨claims, rfl, ?_⟩
    rw [leftover_cons, if_neg hmem]
    by_cases hkeep : keep item = true
    · rw [if_pos hkeep, List.count_cons_of_ne hne]
    · rw [if_neg hkeep]

lemma count_leftover_of_kept {k : κ} {items : List ι}
    (h : ∀ item ∈ items, key item = k → keep item = true) (claims : List κ) :
    (leftover key keep claims items).count k = (items.map key).count k - claims.count k := by
  induction items generalizing claims with
  | nil => rw [leftover_nil, List.map_nil, List.count_nil, Nat.zero_sub]
  | cons item items ih =>
    have hrest := ih (fun item' hitem => h item' (List.mem_cons_of_mem item hitem))
    rw [List.map_cons]
    by_cases hk : key item = k
    · have hkept := h item List.mem_cons_self hk
      rw [leftover_cons, hk, List.count_cons_self]
      by_cases hmem : k ∈ claims
      · have hpos : 0 < claims.count k := List.count_pos_iff.mpr hmem
        rw [if_pos hmem, hrest, List.count_erase_self]
        omega
      · have hzero : claims.count k = 0 := List.count_eq_zero.mpr hmem
        rw [if_neg hmem, if_pos hkept, List.count_cons_self, hrest, hzero]
        omega
    · obtain ⟨claims', hclaims, hcount⟩ := count_leftover_cons_of_ne key keep hk claims items
      rw [hcount, hrest, hclaims, List.count_cons_of_ne hk]

lemma count_leftover_of_notMem {k : κ} (items : List ι) {claims : List κ} (h : k ∉ claims) :
    (leftover key keep claims items).count k =
      items.countP (fun item => decide (key item = k) && keep item) := by
  induction items generalizing claims with
  | nil => rfl
  | cons item items ih =>
    rw [List.countP_cons]
    by_cases hk : key item = k
    · rw [leftover_cons, hk, if_neg h, decide_eq_true rfl, Bool.true_and]
      by_cases hkeep : keep item = true
      · rw [if_pos hkeep, if_pos hkeep, List.count_cons_self, ih h]
      · rw [if_neg hkeep, if_neg hkeep, ih h, Nat.add_zero]
    · obtain ⟨claims', hclaims, hcount⟩ := count_leftover_cons_of_ne key keep hk claims items
      have hnot : k ∉ claims' := by
        rw [← List.count_eq_zero, hclaims, List.count_eq_zero]
        exact h
      rw [hcount, ih hnot, decide_eq_false hk, Bool.false_and, if_neg (by decide), Nat.add_zero]

end

lemma countP_read_le_sum {marks : List (Mark ι)} (h : ∀ m ∈ marks, m.read = true → 0 < m.claims) :
    marks.countP Mark.read ≤ (marks.map Mark.claims).sum := by
  induction marks with
  | nil => exact Nat.le_refl 0
  | cons m marks ih =>
    have hm := h m List.mem_cons_self
    have hrest := ih (fun m' hm' => h m' (List.mem_cons_of_mem m hm'))
    rw [List.countP_cons, List.map_cons, List.sum_cons]
    by_cases hread : m.read = true
    · have hclaims := hm hread
      rw [if_pos hread]
      omega
    · rw [if_neg hread]
      omega

lemma sum_le_countP_read_iff {marks : List (Mark ι)}
    (h : ∀ m ∈ marks, m.read = true → 0 < m.claims) :
    (marks.map Mark.claims).sum ≤ marks.countP Mark.read ↔
      ∀ m ∈ marks, m.claims = if m.read then 1 else 0 := by
  induction marks with
  | nil => simp
  | cons m marks ih =>
    have hm := h m List.mem_cons_self
    have htail := fun m' hm' => h m' (List.mem_cons_of_mem m hm')
    have hle := countP_read_le_sum htail
    rw [List.forall_mem_cons, ← ih htail, List.countP_cons, List.map_cons, List.sum_cons]
    by_cases hread : m.read = true
    · have hclaims := hm hread
      simp only [hread, if_true]
      omega
    · simp only [hread, Bool.false_eq_true, if_false]
      omega

theorem fair_iff (key : ι → κ) (keep : ι → Bool) {marks : List (Mark ι)} {claims : List κ}
    (hclaims : ∀ k, claims.count k =
      ((marks.filter (fun m => key m.item = k)).map Mark.claims).sum)
    (hread : ∀ m ∈ marks, m.read = true → 0 < m.claims)
    (huniform : ∀ m ∈ marks, 0 < m.claims → ∀ m' ∈ marks, key m'.item = key m.item →
      keep m'.item = keep m.item)
    (hkept : ∀ m ∈ marks, m.claims ≠ (if m.read then 1 else 0) → keep m.item = true) :
    ((∀ k, claims.count k ≤ (marks.map (fun m => key m.item)).count k) ∧
        ∀ k, marks.countP (fun m => decide (key m.item = k) && keep m.item && !m.read) ≤
          (leftover key keep claims (marks.map Mark.item)).count k) ↔
      ∀ m ∈ marks, m.claims = if m.read then 1 else 0 := by
  have hread' : ∀ k, ∀ m ∈ marks.filter (fun m => key m.item = k), m.read = true → 0 < m.claims :=
    fun k m hm => hread m (List.mem_filter.mp hm).1
  have hlength : ∀ k, (marks.map (fun m => key m.item)).count k =
      (marks.filter (fun m => key m.item = k)).length := by
    intro k
    rw [List.count, List.countP_map, List.countP_eq_length_filter]
    rfl
  have hitems : ∀ k, ((marks.map Mark.item).map key).count k =
      (marks.filter (fun m => key m.item = k)).length := by
    intro k
    rw [List.map_map]
    exact hlength k
  have hsplit : ∀ k, (marks.filter (fun m => key m.item = k)).length =
      (marks.filter (fun m => key m.item = k)).countP Mark.read +
        (marks.filter (fun m => key m.item = k)).countP (fun m => !m.read) := by
    intro k
    rw [List.length_eq_countP_add_countP Mark.read]
    simp
  have hunread : ∀ k, (∀ m ∈ marks, key m.item = k → keep m.item = true) →
      marks.countP (fun m => decide (key m.item = k) && keep m.item && !m.read) =
        (marks.filter (fun m => key m.item = k)).countP (fun m => !m.read) := by
    intro k hkeep
    rw [List.countP_filter]
    apply List.countP_congr
    intro m hm
    by_cases hk : key m.item = k
    · simp [hk, hkeep m hm hk]
    · simp [hk]
  constructor
  · rintro ⟨hcount, hleft⟩ m hm
    by_contra hbad
    have hpos : 0 < m.claims := by
      by_cases hr : m.read = true
      · exact hread m hm hr
      · rw [if_neg hr] at hbad
        exact Nat.pos_of_ne_zero hbad
    have hkeep : ∀ m' ∈ marks, key m'.item = key m.item → keep m'.item = true :=
      fun m' hm' hk => (huniform m hm hpos m' hm' hk).trans (hkept m hm hbad)
    have hkeep' : ∀ item ∈ marks.map Mark.item, key item = key m.item → keep item = true := by
      intro item hitem hk
      obtain ⟨m', hm', rfl⟩ := List.mem_map.mp hitem
      exact hkeep m' hm' hk
    have h := hleft (key m.item)
    have hc := hcount (key m.item)
    rw [hunread _ hkeep, count_leftover_of_kept key keep hkeep' claims, hitems, hclaims] at h
    rw [hlength, hclaims] at hc
    have hs := hsplit (key m.item)
    have hle : ((marks.filter (fun m' => key m'.item = key m.item)).map Mark.claims).sum ≤
        (marks.filter (fun m' => key m'.item = key m.item)).countP Mark.read := by
      omega
    have hall := (sum_le_countP_read_iff (hread' (key m.item))).mp hle
    exact hbad (hall m (List.mem_filter.mpr ⟨hm, decide_eq_true rfl⟩))
  · intro hall
    have hsum : ∀ k, claims.count k =
        (marks.filter (fun m => key m.item = k)).countP Mark.read := by
      intro k
      have hle := (sum_le_countP_read_iff (hread' k)).mpr
        (fun m hm => hall m (List.mem_filter.mp hm).1)
      rw [hclaims]
      exact Nat.le_antisymm hle (countP_read_le_sum (hread' k))
    constructor
    · intro k
      rw [hlength, hsum]
      exact List.countP_le_length
    · intro k
      by_cases hmem : k ∈ claims
      · have hpos : 0 < (marks.filter (fun m => key m.item = k)).countP Mark.read := by
          rw [← hsum]
          exact List.count_pos_iff.mpr hmem
        obtain ⟨m, hm, hr⟩ := List.countP_pos_iff.mp hpos
        have hmem' := List.mem_filter.mp hm
        have hk : key m.item = k := of_decide_eq_true hmem'.2
        have hsame := huniform m hmem'.1 (hread m hmem'.1 hr)
        rw [hk] at hsame
        cases hkeep : keep m.item with
        | true =>
          rw [hkeep] at hsame
          have hkeep' : ∀ item ∈ marks.map Mark.item, key item = k → keep item = true := by
            intro item hitem hk'
            obtain ⟨m', hm', rfl⟩ := List.mem_map.mp hitem
            exact hsame m' hm' hk'
          rw [hunread k hsame, count_leftover_of_kept key keep hkeep' claims, hitems, hsum, hsplit]
          omega
        | false =>
          rw [hkeep] at hsame
          have hzero : marks.countP (fun m => decide (key m.item = k) && keep m.item && !m.read) =
              0 := by
            rw [List.countP_eq_zero]
            intro m' hm' hand
            rw [Bool.and_eq_true, Bool.and_eq_true, decide_eq_true_eq] at hand
            rw [hsame m' hm' hand.1.1] at hand
            exact absurd hand.1.2 (by decide)
          rw [hzero]
          exact Nat.zero_le _
      · rw [count_leftover_of_notMem key keep _ hmem, List.countP_map]
        apply List.countP_mono_left
        intro m _ hand
        rw [Bool.and_eq_true] at hand
        exact hand.1

section

variable (takes reads : ρ → Bool) {key : ι → κ}

def marks : List ι → List (List ρ) → List (Mark ι)
  | [], _ => []
  | item :: items, readers =>
    { item
      claims := readers.countP (fun made => made.head?.any takes)
      read := readers.any (fun made => made.head?.any reads) } ::
      marks items (readers.map List.tail)

def claimed (key : ι → κ) : List ι → List ρ → List κ
  | item :: items, made :: rest =>
    if takes made then key item :: claimed key items rest else claimed key items rest
  | _, _ => []

lemma map_item_marks (items : List ι) (readers : List (List ρ)) :
    (marks takes reads items readers).map Mark.item = items := by
  induction items generalizing readers with
  | nil => rfl
  | cons item items ih => rw [marks, List.map_cons, ih]

lemma count_claimed_cons (k : κ) (item : ι) (items : List ι) (made : List ρ) :
    (claimed takes key (item :: items) made).count k =
      (if key item = k ∧ made.head?.any takes = true then 1 else 0) +
        (claimed takes key items made.tail).count k := by
  cases made with
  | nil => cases items <;> simp [claimed]
  | cons r made =>
    rw [claimed]
    by_cases htakes : takes r = true
    · by_cases hk : key item = k
      · simp [htakes, hk, Nat.add_comm]
      · simp [htakes, hk]
    · simp [htakes]

theorem count_claimed (k : κ) (items : List ι) (readers : List (List ρ)) :
    (readers.flatMap (claimed takes key items)).count k =
      (((marks takes reads items readers).filter (fun m => key m.item = k)).map
        Mark.claims).sum := by
  induction items generalizing readers with
  | nil =>
    rw [List.count_flatMap]
    induction readers with
    | nil => rfl
    | cons made readers ih => simpa [claimed, marks] using ih
  | cons item items ih =>
    have hstep : (readers.flatMap (claimed takes key (item :: items))).count k =
        (if key item = k then readers.countP (fun made => made.head?.any takes) else 0) +
          ((readers.map List.tail).flatMap (claimed takes key items)).count k := by
      induction readers with
      | nil => simp
      | cons made readers ihr =>
        rw [List.flatMap_cons, List.count_append, ihr, count_claimed_cons, List.map_cons,
          List.flatMap_cons, List.count_append, List.countP_cons]
        by_cases hk : key item = k
        · simp only [hk, true_and, if_true]
          omega
        · simp only [hk, false_and, if_false]
          omega
    rw [hstep, ih, marks]
    by_cases hk : key item = k
    · simp [hk]
    · simp [hk]

lemma forall_marks_one_iff {P : ι → Nat → Bool → Prop} {items : List ι} {made : List ρ}
    (hlength : made.length = items.length) :
    (∀ m ∈ marks takes reads items [made], P m.item m.claims m.read) ↔
      ∀ x ∈ items.zip made, P x.1 (if takes x.2 then 1 else 0) (reads x.2) := by
  induction items generalizing made with
  | nil => simp [marks]
  | cons item items ih =>
    cases made with
    | nil => cases hlength
    | cons r made =>
      have hrest := ih (Nat.succ.inj hlength)
      have hclaims : [r :: made].countP (fun made => made.head?.any takes) =
          if takes r then 1 else 0 := by
        cases h : takes r <;> simp [h]
      rw [marks, List.forall_mem_cons, List.zip_cons_cons, List.forall_mem_cons, ← hrest, hclaims]
      simp

lemma forall_marks_two_iff {P : ι → Nat → Bool → Prop} {items : List ι} {made made' : List ρ}
    (hlength : made.length = items.length) (hlength' : made'.length = items.length) :
    (∀ m ∈ marks takes reads items [made, made'], P m.item m.claims m.read) ↔
      ∀ x ∈ items.zip (made.zip made'),
        P x.1 ((if takes x.2.1 then 1 else 0) + if takes x.2.2 then 1 else 0)
          (reads x.2.1 || reads x.2.2) := by
  induction items generalizing made made' with
  | nil => simp [marks]
  | cons item items ih =>
    cases made with
    | nil => cases hlength
    | cons r made =>
      cases made' with
      | nil => cases hlength'
      | cons r' made' =>
        have hrest := ih (Nat.succ.inj hlength) (Nat.succ.inj hlength')
        have hclaims : [r :: made, r' :: made'].countP (fun made => made.head?.any takes) =
            (if takes r then 1 else 0) + if takes r' then 1 else 0 := by
          cases h : takes r <;> cases h' : takes r' <;> simp [h, h']
        rw [marks, List.forall_mem_cons, List.zip_cons_cons, List.zip_cons_cons,
          List.forall_mem_cons, ← hrest, hclaims]
        simp

end

end Claims
