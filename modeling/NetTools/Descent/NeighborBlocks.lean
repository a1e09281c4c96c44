import NetTools.Descent.Evidence
import NetTools.Library.Pattern
import NetTools.Python.Text

/-!
# The block of a BGP neighbour

`parse_xr_bgp_neighbor`, as far as the checks read its fields: a line of the block sets the fields
that it names, and a later line replaces what an earlier one said.
-/

namespace NetTools

namespace NeighborBlocks

open Pattern

def litPart (text : String) : Part := .lit text.toList

/-- `\S+`. -/
def words : Part := .run (fun c => !isSpaceChar c) 1 none

/-- `.+`. -/
def anything : Part := .run (· ≠ '\n') 1 none

def BGP_NOT_ACTIVE : List Part :=
  [litPart "% BGP instance '", .run (· ≠ '\'') 0 none, litPart "' not active", .stop]

def NEIGHBOR_NOT_FOUND : List Part := [litPart "% Neighbor not found", .stop]

def NEIGHBOR_IS : List Part := [litPart "BGP neighbor is ", .group "neighbor" [words], .stop]

def STATE : List Part :=
  [litPart "BGP state = ", .group "state" [.run Char.isAlpha 1 none],
    .opt [litPart ", up for ", .group "up_for" [words]],
    .opt [litPart " (", .group "state_reason" [.run (· ≠ ')') 1 none], litPart ")"], .stop]

def LAST_RESET : List Part :=
  [litPart "Last reset ", .group "last_reset_ago" [words], litPart ",", .run isSpaceChar 0 none,
    litPart "due to", .run isSpaceChar 1 none, .group "last_reset_reason" [anything], .stop]

def LAST_RESET_FALLBACK : List Part :=
  [litPart "Last reset ", .group "last_reset_ago" [anything], .stop]

def armedOrNot : Part := .oneOf ["not armed".toList, "armed".toList]

def BGP_SOCKET : List Part :=
  [litPart "Socket ", .group "io" [armedOrNot], litPart " for io, ", .group "read" [armedOrNot],
    litPart " for read, ", .group "write" [armedOrNot], litPart " for write", .stop]

def blockLines (output : String) : List String :=
  ((splitLines output).map pyStrip).filter (fun line => line != "")

def refusal (line : String) : Option String :=
  if (matchStart BGP_NOT_ACTIVE line).isSome then some "bgp_not_active"
  else if (matchStart NEIGHBOR_NOT_FOUND line).isSome then some "neighbor_not_found"
  else none

def readLine (block : Bool × Meta) (line : String) : Bool × Meta :=
  if (matchStart NEIGHBOR_IS line).isSome then (true, block.2)
  else
    match matchStart STATE line with
    | some found => (block.1, { block.2 with
        state := some (found.text "state")
        connectionState := some (found.text "state")
        stateReason := found.text? "state_reason" })
    | none =>
      match matchStart BGP_SOCKET line with
      | some found =>
        (block.1, { block.2 with socketArmedRead := some (found.text "read" == "armed") })
      | none =>
        match matchStart LAST_RESET line with
        | some found => (block.1, { block.2 with
            lastResetReason := some (found.text "last_reset_reason")
            lastResetAgo := some (found.text "last_reset_ago") })
        | none =>
          match matchStart LAST_RESET_FALLBACK line with
          | some found =>
            (block.1, { block.2 with lastResetAgo := some (found.text "last_reset_ago") })
          | none => block

def readBlock (lines : List String) : Bool × Meta := lines.foldl readLine (false, {})

def parseXrBgpNeighbor (output : String) : Option Meta :=
  let lines := blockLines output
  match lines.findSome? refusal with
  | some reason => some { reason := some reason }
  | none =>
    let block := readBlock lines
    if block.1 then some { block.2 with found := true } else none

/-- The section of a neighbour, as `parse_template_output` gives it. -/
def neighborSection (output : String) : Section :=
  if isBlank output then { parseStatus := some PARSE_FAILED }
  else
    match parseXrBgpNeighbor output with
    | some fields => { parsed := some { fields }, parseStatus := some PARSE_OK }
    | none => { parseStatus := some PARSE_FAILED }

def stateOf (line : String) : Option String :=
  (matchStart STATE line).map (fun found => found.text "state")

def socketOf (line : String) : Option Bool :=
  (matchStart BGP_SOCKET line).map (fun found => found.text "read" == "armed")

def namesNeighbor (line : String) : Bool := (matchStart NEIGHBOR_IS line).isSome

lemma matchStart_eq_none_of_other {start other : List Char} {parts others : List Part}
    {line : String} (h : (matchStart (.lit other :: others) line).isSome = true)
    (hother : ¬start <+: other) (hstart : ¬other <+: start) :
    matchStart (.lit start :: parts) line = none := by
  apply matchStart_eq_none
  intro hbegins
  rcases List.prefix_or_prefix_of_prefix hbegins (starts_of_matchStart h) with hle | hle
  · exact hother hle
  · exact hstart hle

lemma stateOf_of_namesNeighbor {line : String} (h : namesNeighbor line = true) :
    stateOf line = none := by
  rw [stateOf, STATE, litPart, matchStart_eq_none_of_other h (by decide) (by decide)]
  rfl

lemma socketOf_of_namesNeighbor {line : String} (h : namesNeighbor line = true) :
    socketOf line = none := by
  rw [socketOf, BGP_SOCKET, litPart, matchStart_eq_none_of_other h (by decide) (by decide)]
  rfl

lemma socketOf_of_state {line : String} (h : (matchStart STATE line).isSome = true) :
    socketOf line = none := by
  rw [socketOf, BGP_SOCKET, litPart, matchStart_eq_none_of_other h (by decide) (by decide)]
  rfl

lemma readLine_eq (block : Bool × Meta) (line : String) :
    (readLine block line).1 = (block.1 || namesNeighbor line) ∧
      (readLine block line).2.state = (stateOf line).or block.2.state ∧
      (readLine block line).2.connectionState = (stateOf line).or block.2.connectionState ∧
      (readLine block line).2.socketArmedRead = (socketOf line).or block.2.socketArmedRead := by
  rw [readLine, ← namesNeighbor]
  by_cases hnames : namesNeighbor line = true
  · rw [if_pos hnames, hnames, stateOf_of_namesNeighbor hnames, socketOf_of_namesNeighbor hnames]
    exact ⟨(Bool.or_true _).symm, rfl, rfl, rfl⟩
  · rw [if_neg hnames, Bool.eq_false_iff.mpr hnames, Bool.or_false]
    cases hstate : matchStart STATE line with
    | some found =>
      have hsocket := socketOf_of_state (Option.isSome_iff_exists.mpr ⟨found, hstate⟩)
      rw [hsocket, stateOf, hstate]
      exact ⟨rfl, rfl, rfl, rfl⟩
    | none =>
      rw [stateOf, hstate, socketOf]
      dsimp only
      cases hsocket : matchStart BGP_SOCKET line with
      | some found => exact ⟨rfl, rfl, rfl, rfl⟩
      | none =>
        dsimp only
        split
        · exact ⟨rfl, rfl, rfl, rfl⟩
        · split
          · exact ⟨rfl, rfl, rfl, rfl⟩
          · exact ⟨rfl, rfl, rfl, rfl⟩

theorem readBlock_eq (lines : List String) :
    (readBlock lines).1 = lines.any namesNeighbor ∧
      (readBlock lines).2.state = (lines.filterMap stateOf).getLast? ∧
      (readBlock lines).2.connectionState = (lines.filterMap stateOf).getLast? ∧
      (readBlock lines).2.socketArmedRead = (lines.filterMap socketOf).getLast? := by
  induction lines using List.reverseRecOn with
  | nil => exact ⟨rfl, rfl, rfl, rfl⟩
  | append_singleton lines line ih =>
    obtain ⟨hnames, hstate, hconnection, hsocket⟩ := ih
    obtain ⟨hnames', hstate', hconnection', hsocket'⟩ := readLine_eq (readBlock lines) line
    have hlast : ∀ {α : Type} (f : String → Option α),
        ((lines ++ [line]).filterMap f).getLast? =
          (f line).or (lines.filterMap f).getLast? := by
      intro α f
      rw [List.filterMap_append, List.getLast?_append, List.filterMap_cons, List.filterMap_nil]
      cases f line with
      | none => rfl
      | some value => rfl
    have hstep : readBlock (lines ++ [line]) = readLine (readBlock lines) line := by
      rw [readBlock, List.foldl_append]
      rfl
    rw [hstep, hnames', hstate', hconnection', hsocket', hnames, hstate, hconnection, hsocket,
      hlast, hlast, List.any_append, List.any_cons, List.any_nil, Bool.or_false]
    exact ⟨rfl, rfl, rfl, rfl⟩

lemma lookup_of_mem_waysOf {start cs rest : List Char} {name : String} {cls : Char → Bool}
    {least : Nat} {parts : List Part} {captures : Captures}
    (h : (captures, rest) ∈ waysOf (.lit start :: .group name [.run cls least none] :: parts) cs) :
    ∃ taken, captures.lookup name = some taken ∧ least ≤ taken.length := by
  rw [waysOf, Part.ways] at h
  split at h
  · rw [List.flatMap_singleton] at h
    obtain ⟨after, hafter, hcaptures⟩ := List.mem_map.mp h
    rw [waysOf, List.mem_flatMap] at hafter
    obtain ⟨way, hway, hrest⟩ := hafter
    rw [Part.ways] at hway
    obtain ⟨inner, hinner, rfl⟩ := List.mem_map.mp hway
    obtain ⟨later, -, rfl⟩ := List.mem_map.mp hrest
    rw [waysOf, List.mem_flatMap] at hinner
    obtain ⟨repeated, hrepeated, hinner⟩ := hinner
    rw [waysOf, List.map_singleton, List.mem_singleton] at hinner
    subst hinner
    rw [Part.ways] at hrepeated
    obtain ⟨n, hn, rfl⟩ := List.mem_map.mp hrepeated
    obtain ⟨hreach, hleast⟩ := List.mem_filter.mp hn
    rw [List.mem_reverse, List.mem_range, reach] at hreach
    have hle : ((cs.drop start.length).takeWhile cls).length ≤ (cs.drop start.length).length :=
      (List.takeWhile_prefix cls).length_le
    cases hcaptures
    refine ⟨_, List.lookup_cons_self, ?_⟩
    have hat := of_decide_eq_true hleast
    dsimp only at hreach ⊢
    rw [List.length_drop] at hle
    rw [List.length_take, List.length_drop, List.length_drop, List.length_drop]
    omega
  · cases h

lemma stateOf_ne_empty {line state : String} (h : stateOf line = some state) : state ≠ "" := by
  rw [stateOf, Option.map_eq_some_iff] at h
  obtain ⟨found, hfound, rfl⟩ := h
  rw [matchStart, Option.map_eq_some_iff] at hfound
  obtain ⟨⟨captures, rest⟩, hhead, rfl⟩ := hfound
  obtain ⟨taken, htaken, hlength⟩ := lookup_of_mem_waysOf (List.mem_of_mem_head? hhead)
  rw [Captures.text, Captures.text?, htaken]
  intro hempty
  have hnil : taken = [] := by
    have heq := congrArg String.toList hempty
    rwa [Option.map_some, Option.getD_some, String.toList_ofList] at heq
  rw [hnil] at hlength
  exact absurd hlength (by decide)

end NeighborBlocks

end NetTools
