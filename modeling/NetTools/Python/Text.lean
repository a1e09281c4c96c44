import Mathlib.Data.List.Infix
import NetTools.Library.LastRow
import NetTools.Python.Value

/-!
# Texts and dicts taken apart

The string methods that cut a text in pieces, and the writes of a dict.
-/

namespace NetTools

/-- `d[key] = value`: a key that is there keeps its place. -/
def Dict.set (d : Dict) (key : String) (value : Value) : Dict := LastRow.assign d key value

lemma set_of_notMem {d : Dict} {key : String} (h : key ∉ d.map Prod.fst) (value : Value) :
    d.set key value = d ++ [(key, value)] := LastRow.assign_of_notMem h value

lemma keys_set_subset {d : Dict} {key : String} {value : Value} {names : List String}
    (hkey : key ∈ names) (h : ∀ entry ∈ d, entry.1 ∈ names) :
    ∀ entry ∈ d.set key value, entry.1 ∈ names := by
  intro entry hentry
  have hmem := LastRow.mem_keys_assign.mp (List.mem_map_of_mem (f := Prod.fst) hentry)
  rcases hmem with hsame | hold
  · rw [hsame]
    exact hkey
  · obtain ⟨entry', hentry', heq⟩ := List.mem_map.mp hold
    rw [← heq]
    exact h entry' hentry'

/-- `token in text`. -/
def pyContains (text token : String) : Bool := decide (token.toList <:+: text.toList)

def cutAt (sep : List Char) : List Char → Option (List Char × List Char)
  | [] => none
  | c :: cs =>
    if sep <+: c :: cs then some ([], (c :: cs).drop sep.length)
    else (cutAt sep cs).map (fun parts => (c :: parts.1, parts.2))

/-- `text.partition(sep)`, `none` when the separator does not occur. -/
def pyPartition (text sep : String) : Option (String × String) :=
  (cutAt sep.toList text.toList).map (fun parts => (String.ofList parts.1, String.ofList parts.2))

/-- A character that ends a line for `str.splitlines`. -/
def isLineBreak (c : Char) : Bool :=
  let n := c.toNat
  (10 ≤ n && n ≤ 13) || (28 ≤ n && n ≤ 30) || n == 0x85 || n == 0x2028 || n == 0x2029

def splitLinesFrom (line : List Char) : List Char → List (List Char)
  | [] => if line = [] then [] else [line.reverse]
  | '\r' :: '\n' :: cs => line.reverse :: splitLinesFrom [] cs
  | c :: cs =>
    if isLineBreak c then line.reverse :: splitLinesFrom [] cs else splitLinesFrom (c :: line) cs

def splitLines (text : String) : List String :=
  (splitLinesFrom [] text.toList).map String.ofList

lemma notMem_splitLinesFrom {line cs : List Char} (hline : '\n' ∉ line) :
    ∀ l ∈ splitLinesFrom line cs, '\n' ∉ l := by
  induction line, cs using splitLinesFrom.induct with
  | case1 => simp [splitLinesFrom]
  | case2 line hline' =>
    rw [splitLinesFrom, if_neg hline']
    intro l hl
    rw [List.mem_singleton] at hl
    rw [hl, List.mem_reverse]
    exact hline
  | case3 line cs ih =>
    rw [splitLinesFrom, List.forall_mem_cons, List.mem_reverse]
    exact ⟨hline, ih List.not_mem_nil⟩
  | case4 line c cs hreturn hbreak ih =>
    rw [splitLinesFrom, if_pos hbreak, List.forall_mem_cons, List.mem_reverse]
    · exact ⟨hline, ih List.not_mem_nil⟩
    · exact hreturn
  | case5 line c cs hreturn hbreak ih =>
    rw [splitLinesFrom, if_neg hbreak]
    · apply ih
      rw [List.mem_cons, not_or]
      refine ⟨?_, hline⟩
      rintro rfl
      exact hbreak (by decide)
    · exact hreturn

lemma mem_splitLinesFrom {line cs : List Char} {c : Char} :
    ∀ l ∈ splitLinesFrom line cs, c ∈ l → c ∈ line ∨ c ∈ cs := by
  induction line, cs using splitLinesFrom.induct with
  | case1 => simp [splitLinesFrom]
  | case2 line hline =>
    rw [splitLinesFrom, if_neg hline]
    intro l hl hc
    rw [List.mem_singleton] at hl
    rw [hl, List.mem_reverse] at hc
    exact .inl hc
  | case3 line cs ih =>
    rw [splitLinesFrom, List.forall_mem_cons, List.mem_reverse]
    refine ⟨.inl, ?_⟩
    intro l hl hc
    have hrest := (ih l hl hc).resolve_left List.not_mem_nil
    exact .inr (List.mem_cons_of_mem _ (List.mem_cons_of_mem _ hrest))
  | case4 line d cs hreturn hbreak ih =>
    rw [splitLinesFrom, if_pos hbreak, List.forall_mem_cons, List.mem_reverse]
    · refine ⟨.inl, ?_⟩
      intro l hl hc
      have hrest := (ih l hl hc).resolve_left List.not_mem_nil
      exact .inr (List.mem_cons_of_mem _ hrest)
    · exact hreturn
  | case5 line d cs hreturn hbreak ih =>
    rw [splitLinesFrom, if_neg hbreak]
    · intro l hl hc
      rcases ih l hl hc with hseen | hrest
      · rcases List.mem_cons.mp hseen with rfl | hseen
        · exact .inr (List.mem_cons_self ..)
        · exact .inl hseen
      · exact .inr (List.mem_cons_of_mem _ hrest)
    · exact hreturn

lemma notMem_splitLines {text line : String} (h : line ∈ splitLines text) : '\n' ∉ line.toList := by
  obtain ⟨cs, hcs, rfl⟩ := List.mem_map.mp h
  rw [String.toList_ofList]
  exact notMem_splitLinesFrom List.not_mem_nil cs hcs

lemma subset_splitLines {text line : String} (h : line ∈ splitLines text) :
    line.toList ⊆ text.toList := by
  obtain ⟨cs, hcs, rfl⟩ := List.mem_map.mp h
  rw [String.toList_ofList]
  intro c hc
  exact (mem_splitLinesFrom cs hcs hc).resolve_left List.not_mem_nil

lemma subset_pyStrip (s : String) : (pyStrip s).toList ⊆ s.toList := by
  intro c hc
  rw [pyStrip, String.toList_ofList, List.mem_reverse] at hc
  have hreverse := (List.dropWhile_sublist _).subset hc
  rw [List.mem_reverse] at hreverse
  exact (List.dropWhile_sublist _).subset hreverse

end NetTools
