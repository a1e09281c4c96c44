import NetTools.Library.JsonText
import NetTools.Library.Sorting
import NetTools.Python.Value

/-!
# Python values as JSON

`json.dumps` and `json.loads` of the values that reach the stores. The text of a float is left out.
-/

namespace NetTools

open JsonText

namespace Value

mutual

/-- The JSON value that is written, `none` for a value with a float. -/
def toJson : Value → Option Json
  | .none => some .null
  | .bool b => some (.bool b)
  | .int i => some (.int i)
  | .float _ => Option.none
  | .str s => some (.str s)
  | .list items => (itemsToJson items).map .arr
  | .dict entries => (entriesToJson entries).map .obj

def itemsToJson : List Value → Option (List Json)
  | [] => some []
  | v :: items => do
    let j ← toJson v
    let js ← itemsToJson items
    some (j :: js)

def entriesToJson : List (String × Value) → Option (List (String × Json))
  | [] => some []
  | (k, v) :: entries => do
    let j ← toJson v
    let js ← entriesToJson entries
    some ((k, j) :: js)

end

mutual

def ofJson : Json → Value
  | .null => .none
  | .bool b => .bool b
  | .int i => .int i
  | .str s => .str s
  | .arr items => .list (itemsOfJson items)
  | .obj entries => .dict (entriesOfJson entries)

def itemsOfJson : List Json → List Value
  | [] => []
  | j :: items => ofJson j :: itemsOfJson items

def entriesOfJson : List (String × Json) → List (String × Value)
  | [] => []
  | (k, j) :: entries => (k, ofJson j) :: entriesOfJson entries

end

def dumps (v : Value) : Option String := v.toJson.map JsonText.dumps

def loads (text : String) : Option Value := (JsonText.loads text).map ofJson

lemma lookup_entriesOfJson (entries : List (String × Json)) (k : String) :
    (entriesOfJson entries).lookup k = (entries.lookup k).map ofJson := by
  induction entries with
  | nil => rfl
  | cons entry entries ih =>
    rw [entriesOfJson, List.lookup_cons, List.lookup_cons, ih]
    cases k == entry.1 <;> rfl

lemma itemsOfJson_eq (items : List Json) : itemsOfJson items = items.map ofJson := by
  induction items with
  | nil => rfl
  | cons j items ih => rw [itemsOfJson, ih, List.map_cons]

def reread (j : Json) : Value := ofJson (sortKeys j)

theorem loads_of_dumps {v : Value} {j : Json} (hv : v.toJson = some j) (hj : Keyed j) :
    v.dumps.bind loads = some (reread j) := by
  rw [dumps, hv, Option.map_some, Option.bind_some, loads, loads_dumps hj, Option.map_some, reread]

theorem reread_obj (entries : List (String × Json)) :
    ∃ d : Dict, reread (.obj entries) = .dict d ∧
      ∀ k, d.get? k = (entries.lookup k).map reread := by
  refine ⟨_, rfl, ?_⟩
  intro k
  rw [Dict.get?, lookup_entriesOfJson, Sorting.lookup_insertionSort, lookup_sortEntries,
    Option.map_map]
  rfl

lemma reread_arr (items : List Json) : reread (.arr items) = .list (items.map reread) := by
  have hsort : ∀ items : List Json, sortItems items = items.map sortKeys := by
    intro items
    induction items with
    | nil => rfl
    | cons j items ih => rw [sortItems, ih, List.map_cons]
  rw [reread, sortKeys, ofJson, itemsOfJson_eq, hsort, List.map_map]
  rfl

end Value

end NetTools
