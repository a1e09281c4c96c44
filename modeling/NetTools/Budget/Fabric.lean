import Mathlib.Algebra.BigOperators.Group.List.Basic
import Mathlib.Algebra.GroupWithZero.Nat
import NetTools.Budget.Truncation
import NetTools.Egress.Projector

/-!
# The evidence of a fabric under its budget

`budget_fabric_evidence`: every section is cut to the budget of an intent, and all of them once more
where their sum is over the budget of the fabric. A section that is cut twice states the second
omission only, and the floors of the second cut do not add up to the budget.
-/

namespace NetTools

namespace EvidenceBudget

def PER_INTENT_CHAR_BUDGET_ENV : String := "NETTOOLS_EVIDENCE_PER_INTENT_CHARS"

def TOTAL_CHAR_BUDGET_ENV : String := "NETTOOLS_EVIDENCE_TOTAL_CHARS"

def DEFAULT_PER_INTENT_CHAR_BUDGET : Nat := 4000

def DEFAULT_TOTAL_CHAR_BUDGET : Nat := 40000

structure Omission where
  device : String
  intent : String
  omittedChars : Nat

structure Runtime where
  /-- `json.dumps` with sorted keys, without and with blanks. -/
  dumpsCompact : Value → String
  dumps : Value → String
  str : Value → String
  repr : Value → String
  lower : String → String
  getenv : String → Option String
  /-- `int(len(text) * (total_chars / total))`. -/
  scaled : Nat → Nat → Nat → Nat

section Sections

variable (run : Runtime)

def envInt (name : String) (default : Nat) : Nat :=
  match run.getenv name with
  | none | some "" => default
  | some raw =>
    match pyInt raw with
    | some value => if 0 < value then value.toNat else default
    | none => default

def budgetOr (given : Option Nat) (name : String) (default : Nat) : Nat :=
  match given with
  | some (chars + 1) => chars + 1
  | _ => envInt run name default

def dictOr : Option Value → Dict
  | some (.dict entries) => entries
  | _ => []

def isParsed (data : Dict) : Bool :=
  (match Dict.get? data "parse_status" with
    | some (.str status) => status == "ok"
    | _ => false) &&
  (match Dict.get? data "parsed" with
    | none | some .none => false
    | some _ => true)

def sectionText (envelope : Dict) : String :=
  let projected := dictOr
    (some (ModelEgress.projectEnvelope run.repr run.lower (.dict envelope) none))
  let projectedData := dictOr (Dict.get? projected "data")
  if isParsed (dictOr (Dict.get? envelope "data")) then
    run.dumpsCompact ((Dict.get? projectedData "parsed").getD .none)
  else
    let status := (Dict.get? projected "status").getD (.str "unknown")
    let errors := ((Dict.get? projected "errors").filter Value.truthy).getD (.list [])
    let withheld := (Dict.get? projectedData "commands_withheld").getD (.dict [])
    "status=" ++ run.str status ++ " errors=" ++ run.str errors ++ " commands_withheld=" ++
      run.dumps withheld

end Sections

abbrev Texts := List (String × List (String × String))

abbrev Cuts := List (String × String × Nat)

def textsOf (cuts : Cuts) : List (String × String) := cuts.map (fun cut => (cut.1, cut.2.1))

def omissionsOf (device : String) (cuts : Cuts) : List Omission :=
  cuts.filterMap (fun cut => if cut.2.2 = 0 then none else some ⟨device, cut.1, cut.2.2⟩)

/-- The texts of the sections of a device; `device`, `platform` and `timestamp` are no sections. -/
def sectionTexts (run : Runtime) (evidence : Dict) : List (String × String) :=
  evidence.filterMap (fun entry =>
    match entry.2 with
    | .dict envelope => some (entry.1, sectionText run envelope)
    | _ => none)

def budgetDeviceEvidence (run : Runtime) (deviceName : String) (evidence : Dict)
    (perIntentChars : Option Nat) : List (String × String) × List Omission :=
  let perIntentChars :=
    budgetOr run perIntentChars PER_INTENT_CHAR_BUDGET_ENV DEFAULT_PER_INTENT_CHAR_BUDGET
  let cuts := (sectionTexts run evidence).map (fun entry =>
    (entry.1, truncateWithDisclosure entry.2 perIntentChars))
  (textsOf cuts, omissionsOf deviceName cuts)

def shrinkSection (run : Runtime) (totalChars total : Nat) (text : String) : String × Nat :=
  let sectionBudget := max MIN_KEEP (run.scaled totalChars total text.length)
  if text.length ≤ sectionBudget then (text, 0) else truncateWithDisclosure text sectionBudget

def totalLength (perDevice : Texts) : Nat :=
  (perDevice.map (fun device => (device.2.map (fun entry => entry.2.length)).sum)).sum

def budgetFabricEvidence (run : Runtime) (evidenceByDevice : List (String × Dict))
    (perIntentChars totalChars : Option Nat) : Texts × List Omission :=
  let perIntentChars :=
    budgetOr run perIntentChars PER_INTENT_CHAR_BUDGET_ENV DEFAULT_PER_INTENT_CHAR_BUDGET
  let totalChars := budgetOr run totalChars TOTAL_CHAR_BUDGET_ENV DEFAULT_TOTAL_CHAR_BUDGET
  let budgeted := evidenceByDevice.map (fun device =>
    (device.1, budgetDeviceEvidence run device.1 device.2 (some perIntentChars)))
  let perDevice := budgeted.map (fun device => (device.1, device.2.1))
  let report := budgeted.flatMap (fun device => device.2.2)
  let total := totalLength perDevice
  if totalChars < total ∧ 0 < totalChars then
    let shrunk := perDevice.map (fun device =>
      (device.1, device.2.map (fun entry =>
        (entry.1, shrinkSection run totalChars total entry.2))))
    (shrunk.map (fun device => (device.1, textsOf device.2)),
      report ++ shrunk.flatMap (fun device => omissionsOf device.1 device.2))
  else (perDevice, report)

section Cells

variable {α β : Type}

def cells (perDevice : List (String × List (String × α))) : List ((String × String) × α) :=
  perDevice.flatMap (fun device => device.2.map (fun entry => ((device.1, entry.1), entry.2)))

lemma cells_map (perDevice : List (String × List (String × α))) (f : α → β) :
    cells (perDevice.map (fun device => (device.1, device.2.map (fun entry =>
        (entry.1, f entry.2))))) =
      (cells perDevice).map (fun cell => (cell.1, f cell.2)) := by
  rw [cells, cells, List.flatMap_map, List.map_flatMap]
  simp only [List.map_map]
  rfl

lemma nodup_cells {perDevice : List (String × List (String × α))}
    (hdevices : (perDevice.map Prod.fst).Nodup)
    (hintents : ∀ device ∈ perDevice, (device.2.map Prod.fst).Nodup) :
    ((cells perDevice).map Prod.fst).Nodup := by
  induction perDevice with
  | nil => exact List.nodup_nil
  | cons device devices ih =>
    rw [List.map_cons, List.nodup_cons] at hdevices
    have hrest := ih hdevices.2 (fun other hother => hintents other (List.mem_cons_of_mem _ hother))
    have hhead : (device.2.map (fun entry => (device.1, entry.1))).Nodup := by
      have hnodup := hintents device List.mem_cons_self
      have hmap := hnodup.map (fun left right h => (Prod.mk.inj h).2 :
        Function.Injective (fun intent : String => (device.1, intent)))
      rw [List.map_map] at hmap
      exact hmap
    rw [cells, List.flatMap_cons, List.map_append, List.map_map]
    refine List.nodup_append.mpr ⟨hhead, hrest, ?_⟩
    intro key hkey other hother heq
    obtain ⟨entry, -, rfl⟩ := List.mem_map.mp hkey
    obtain ⟨cell, hcell, rfl⟩ := List.mem_map.mp hother
    obtain ⟨later, hlater, hcell⟩ := List.mem_flatMap.mp hcell
    obtain ⟨_, -, rfl⟩ := List.mem_map.mp hcell
    have hname : device.1 = later.1 := congrArg (fun pair : String × String => pair.1) heq
    exact hdevices.1 (hname ▸ List.mem_map_of_mem hlater)

end Cells

lemma totalLength_eq (perDevice : Texts) :
    totalLength perDevice = ((cells perDevice).map (fun cell => cell.2.length)).sum := by
  rw [totalLength, cells]
  induction perDevice with
  | nil => rfl
  | cons device devices ih =>
    rw [List.map_cons, List.sum_cons, List.flatMap_cons, List.map_append, List.sum_append, ih,
      List.map_map]
    rfl

def entryOf (cell : (String × String) × String × Nat) : Option Omission :=
  if cell.2.2 = 0 then none else some ⟨cell.1.1, cell.1.2, cell.2.2⟩

lemma flatMap_omissionsOf (cuts : List (String × Cuts)) :
    cuts.flatMap (fun device => omissionsOf device.1 device.2) =
      (cells cuts).filterMap entryOf := by
  rw [cells, List.filterMap_flatMap]
  refine List.flatMap_congr (fun device _ => ?_)
  rw [List.filterMap_map]
  rfl

def reported (report : List Omission) (key : String × String) : Nat :=
  ((report.filter (fun omission => (omission.device, omission.intent) == key)).map
    Omission.omittedChars).sum

lemma reported_append (report report' : List Omission) (key : String × String) :
    reported (report ++ report') key = reported report key + reported report' key := by
  rw [reported, List.filter_append, List.map_append, List.sum_append]
  rfl

lemma reported_cons (cell : (String × String) × String × Nat)
    (rest : List ((String × String) × String × Nat)) (key : String × String) :
    reported ((cell :: rest).filterMap entryOf) key =
      (if cell.1 = key then cell.2.2 else 0) + reported (rest.filterMap entryOf) key := by
  rw [List.filterMap_cons]
  by_cases hzero : cell.2.2 = 0
  · rw [entryOf, if_pos hzero, hzero]
    simp
  · rw [entryOf, if_neg hzero]
    dsimp only
    rw [reported, List.filter_cons]
    by_cases hkey : cell.1 = key
    · rw [if_pos hkey, if_pos (beq_iff_eq.mpr hkey), List.map_cons, List.sum_cons]
      rfl
    · rw [if_neg hkey, if_neg (fun h => hkey (beq_iff_eq.mp h)), Nat.zero_add]
      rfl

lemma reported_of_notMem {rest : List ((String × String) × String × Nat)} {key : String × String}
    (h : key ∉ rest.map Prod.fst) : reported (rest.filterMap entryOf) key = 0 := by
  induction rest with
  | nil => rfl
  | cons cell rest ih =>
    rw [List.map_cons, List.mem_cons, not_or] at h
    rw [reported_cons, if_neg (fun heq => h.1 heq.symm), ih h.2]

lemma reported_of_mem {rest : List ((String × String) × String × Nat)} {key : String × String}
    {text : String} {omitted : Nat} (hnodup : (rest.map Prod.fst).Nodup)
    (h : (key, text, omitted) ∈ rest) : reported (rest.filterMap entryOf) key = omitted := by
  induction rest with
  | nil => cases h
  | cons cell rest ih =>
    rw [List.map_cons, List.nodup_cons] at hnodup
    rw [reported_cons]
    rcases List.mem_cons.mp h with rfl | hrest
    · rw [if_pos rfl, reported_of_notMem hnodup.1]
      rfl
    · have hmem : key ∈ rest.map Prod.fst := List.mem_map.mpr ⟨_, hrest, rfl⟩
      have hother : cell.1 ≠ key := fun heq => hnodup.1 (heq ▸ hmem)
      rw [if_neg hother, ih hnodup.2 hrest, Nat.zero_add]

/-! ### The budget of a fabric -/

/-- The evidence of a fabric: dictionaries, with texts that a machine can hold. -/
structure FabricEvidence (run : Runtime) where
  byDevice : List (String × Dict)
  devices : (byDevice.map Prod.fst).Nodup
  intents : ∀ device ∈ byDevice, (device.2.map Prod.fst).Nodup
  texts : ∀ device ∈ byDevice, ∀ entry ∈ sectionTexts run device.2, entry.2.length < 2 ^ 63

section Budget

variable {run : Runtime}

def FabricEvidence.originals (evidence : FabricEvidence run) :
    List ((String × String) × String) :=
  cells (evidence.byDevice.map (fun device => (device.1, sectionTexts run device.2)))

def shareOf (run : Runtime) (totalChars total length : Nat) : Nat :=
  max MIN_KEEP (run.scaled totalChars total length)

def firstTotal (lengths : List Nat) (perIntentChars : Nat) : Nat :=
  (lengths.map (fun length => cutLength length perIntentChars)).sum

/-- The condition on the lengths of the sections: the first cuts suffice, or no section is cut twice
and the second cuts, with their floors, add up to no more than the budget. -/
def WithinBudget (run : Runtime) (lengths : List Nat) (perIntentChars totalChars : Nat) : Prop :=
  let total := firstTotal lengths perIntentChars
  total ≤ totalChars ∨
    (∀ length ∈ lengths, length ≤ perIntentChars ∨ cutLength length perIntentChars ≤
      shareOf run totalChars total (cutLength length perIntentChars)) ∧
    (lengths.map (fun length => cutLength (cutLength length perIntentChars)
      (shareOf run totalChars total (cutLength length perIntentChars)))).sum ≤ totalChars

instance (lengths : List Nat) (perIntentChars totalChars : Nat) :
    Decidable (WithinBudget run lengths perIntentChars totalChars) :=
  inferInstanceAs (Decidable (_ ∨ _ ∧ _))

/-- What is reported of a section is what its text hides, and a text that was cut states it. -/
def Honest (original final : String) (reported : Nat) : Prop :=
  ∃ hidden, Shown original final hidden ∧ reported = hidden ∧
    (final ≠ original → States final hidden)

structure BudgetHolds (evidence : FabricEvidence run) (perIntentChars totalChars : Nat)
    (result : Texts × List Omission) : Prop where
  bounded : ∀ cell ∈ cells result.1, cell.2.length ≤ perIntentChars
  total : totalLength result.1 ≤ totalChars
  honest : ∀ key original, (key, original) ∈ evidence.originals →
    ∃ final, (key, final) ∈ cells result.1 ∧ Honest original final (reported result.2 key)

lemma budgetOr_of_pos {chars : Nat} (h : 0 < chars) (name : String) (default : Nat) :
    budgetOr run (some chars) name default = chars := by
  obtain ⟨less, rfl⟩ := Nat.exists_eq_succ_of_ne_zero (Nat.pos_iff_ne_zero.mp h)
  rfl

lemma nodup_originals (evidence : FabricEvidence run) :
    (evidence.originals.map Prod.fst).Nodup := by
  apply nodup_cells
  · rw [List.map_map]
    exact evidence.devices
  · intro device hdevice
    obtain ⟨entry, hentry, rfl⟩ := List.mem_map.mp hdevice
    have hsub : ((sectionTexts run entry.2).map Prod.fst).Sublist (entry.2.map Prod.fst) := by
      rw [sectionTexts]
      induction entry.2 with
      | nil => exact List.nil_sublist _
      | cons pair rest ih =>
        rw [List.filterMap_cons, List.map_cons]
        split
        · exact ih.cons _
        · rename_i kept hkept
          split at hkept
          · cases hkept
            exact ih.cons_cons _
          · cases hkept
    exact (evidence.intents entry hentry).sublist hsub

lemma length_originals (evidence : FabricEvidence run) {key : String × String} {text : String}
    (h : (key, text) ∈ evidence.originals) : decimals text.length ≤ 19 := by
  obtain ⟨device, hdevice, htext⟩ := List.mem_flatMap.mp h
  obtain ⟨entry, hentry, rfl⟩ := List.mem_map.mp hdevice
  obtain ⟨part, hpart, heq⟩ := List.mem_map.mp htext
  have hlength := evidence.texts entry hentry part hpart
  cases heq
  rw [decimals_le_iff (by decide)]
  omega

def firstCuts (run : Runtime) (byDevice : List (String × Dict)) (perIntentChars : Nat) :
    List (String × Cuts) :=
  byDevice.map (fun device => (device.1, (sectionTexts run device.2).map (fun entry =>
    (entry.1, truncateWithDisclosure entry.2 perIntentChars))))

def againCuts (run : Runtime) (byDevice : List (String × Dict)) (perIntentChars totalChars : Nat) :
    List (String × Cuts) :=
  let first := (firstCuts run byDevice perIntentChars).map (fun device =>
    (device.1, textsOf device.2))
  first.map (fun device => (device.1, device.2.map (fun entry =>
    (entry.1, shrinkSection run totalChars (totalLength first) entry.2))))

lemma cells_firstCuts (evidence : FabricEvidence run) (perIntentChars : Nat) :
    cells (firstCuts run evidence.byDevice perIntentChars) = evidence.originals.map (fun cell =>
      (cell.1, truncateWithDisclosure cell.2 perIntentChars)) := by
  have hcells := cells_map (evidence.byDevice.map (fun device =>
    (device.1, sectionTexts run device.2))) (fun text => truncateWithDisclosure text perIntentChars)
  rw [List.map_map] at hcells
  exact hcells

lemma cells_textsOf (cuts : List (String × Cuts)) :
    cells (cuts.map (fun device => (device.1, textsOf device.2))) =
      (cells cuts).map (fun cell => (cell.1, cell.2.1)) :=
  cells_map cuts Prod.fst

lemma totalLength_firstCuts (evidence : FabricEvidence run) (perIntentChars : Nat) :
    totalLength ((firstCuts run evidence.byDevice perIntentChars).map (fun device =>
        (device.1, textsOf device.2))) =
      firstTotal (evidence.originals.map (fun cell => cell.2.length)) perIntentChars := by
  rw [totalLength_eq, cells_textsOf, cells_firstCuts, List.map_map, List.map_map, firstTotal,
    List.map_map]
  refine congrArg List.sum (List.map_congr_left (fun cell hcell => ?_))
  exact (truncateWithDisclosure_spec cell.2 perIntentChars (length_originals evidence hcell)).1

lemma cells_againCuts (evidence : FabricEvidence run) (perIntentChars totalChars : Nat) :
    cells (againCuts run evidence.byDevice perIntentChars totalChars) =
      evidence.originals.map (fun cell => (cell.1, shrinkSection run totalChars
        (firstTotal (evidence.originals.map (fun cell => cell.2.length)) perIntentChars)
        (truncateWithDisclosure cell.2 perIntentChars).1)) := by
  have hcells := cells_map ((firstCuts run evidence.byDevice perIntentChars).map (fun device =>
    (device.1, textsOf device.2))) (fun text => shrinkSection run totalChars
      (firstTotal (evidence.originals.map (fun cell => cell.2.length)) perIntentChars) text)
  rw [cells_textsOf, cells_firstCuts] at hcells
  rw [againCuts, totalLength_firstCuts, hcells, List.map_map, List.map_map]
  rfl

lemma budgetFabricEvidence_eq (byDevice : List (String × Dict)) {perIntentChars totalChars : Nat}
    (hper : 0 < perIntentChars) (htotal : 0 < totalChars) :
    budgetFabricEvidence run byDevice (some perIntentChars) (some totalChars) =
      let first := firstCuts run byDevice perIntentChars
      let again := againCuts run byDevice perIntentChars totalChars
      let perDevice := first.map (fun device => (device.1, textsOf device.2))
      let report := first.flatMap (fun device => omissionsOf device.1 device.2)
      if totalChars < totalLength perDevice then
        (again.map (fun device => (device.1, textsOf device.2)),
          report ++ again.flatMap (fun device => omissionsOf device.1 device.2))
      else (perDevice, report) := by
  have hdevice : ∀ name evidence, budgetDeviceEvidence run name evidence (some perIntentChars) =
      (textsOf ((sectionTexts run evidence).map (fun entry =>
          (entry.1, truncateWithDisclosure entry.2 perIntentChars))),
        omissionsOf name ((sectionTexts run evidence).map (fun entry =>
          (entry.1, truncateWithDisclosure entry.2 perIntentChars)))) := by
    intro name evidence
    rw [budgetDeviceEvidence, budgetOr_of_pos hper]
  rw [budgetFabricEvidence, budgetOr_of_pos hper, budgetOr_of_pos htotal]
  simp only [hdevice, List.map_map, List.flatMap_map, firstCuts, againCuts, htotal, and_true]
  rfl

lemma CutOnce.honest {original final : String} {omitted budget : Nat}
    (h : CutOnce original final omitted budget) : Honest original final omitted :=
  ⟨omitted, h.shown, rfl, fun _ => h.states⟩

lemma honest_whole (original : String) : Honest original original 0 :=
  ⟨0, .whole, rfl, fun h => absurd rfl h⟩

lemma not_honest_of_twice {original between final : String} {omitted again budget share : Nat}
    (hfirst : CutOnce original between omitted budget) (hsecond : CutOnce between final again share)
    (hshorter : final.length < original.length) : ¬Honest original final (omitted + again) := by
  rintro ⟨hidden, -, hreported, hstates⟩
  have hchanged : final ≠ original := by
    rintro rfl
    exact lt_irrefl _ hshorter
  have hstated := states_unique hsecond.states (hstates hchanged)
  have hpos := hfirst.pos
  omega

lemma shrinkSection_eq (totalChars total : Nat) (text : String) :
    shrinkSection run totalChars total text =
      truncateWithDisclosure text (shareOf run totalChars total text.length) := by
  rw [shrinkSection, ← shareOf]
  by_cases hwhole : text.length ≤ shareOf run totalChars total text.length
  · exact (if_pos hwhole).trans (if_pos (.inr hwhole)).symm
  · exact if_neg hwhole

lemma decimals_first (text : String) (perIntentChars : Nat) (hsize : decimals text.length ≤ 19) :
    decimals (truncateWithDisclosure text perIntentChars).1.length ≤ 19 := by
  rcases (truncateWithDisclosure_spec text perIntentChars hsize).2 with
    ⟨-, hwhole⟩ | ⟨-, hover, final, omitted, hcut, honce⟩
  · rw [hwhole]
    exact hsize
  · rw [decimals_le_iff (by decide)] at hsize ⊢
    have hbounded := honce.bounded
    rw [hcut]
    dsimp only
    omega

lemma length_first_le (text : String) {perIntentChars : Nat} (hper : 100 ≤ perIntentChars)
    (hsize : decimals text.length ≤ 19) :
    (truncateWithDisclosure text perIntentChars).1.length ≤ perIntentChars := by
  rcases (truncateWithDisclosure_spec text perIntentChars hsize).2 with
    ⟨hle, hwhole⟩ | ⟨-, -, final, omitted, hcut, honce⟩
  · rw [hwhole]
    dsimp only
    omega
  · have hbounded := honce.bounded
    rw [hcut]
    dsimp only
    omega

lemma both_cuts (text : String) {perIntentChars : Nat} (share : Nat) (hper : 100 ≤ perIntentChars)
    (hshare : 0 < share) (hsize : decimals text.length ≤ 19) :
    let first := truncateWithDisclosure text perIntentChars
    let again := truncateWithDisclosure first.1 share
    again.1.length ≤ perIntentChars ∧
      (Honest text again.1 (first.2 + again.2) ↔
        text.length ≤ perIntentChars ∨ first.1.length ≤ share) := by
  have hshort := length_first_le text hper hsize
  have hsize' := decimals_first text perIntentChars hsize
  have hfirst := (truncateWithDisclosure_spec text perIntentChars hsize).2
  have hagain := (truncateWithDisclosure_spec _ share hsize').2
  dsimp only
  rcases hagain with ⟨hle, hwhole⟩ | ⟨-, hover, final, omitted, hcut, honce⟩
  · have hfits : (truncateWithDisclosure text perIntentChars).1.length ≤ share := by omega
    rw [hwhole]
    refine ⟨hshort, iff_of_true ?_ (.inr hfits)⟩
    rcases hfirst with ⟨-, hwhole⟩ | ⟨-, -, final, omitted, hcut, honce⟩
    · rw [hwhole]
      exact honest_whole text
    · rw [hcut]
      exact honce.honest
  · have hbounded := honce.bounded
    rw [hcut]
    refine ⟨by dsimp only; omega, ?_⟩
    rcases hfirst with ⟨hle, hwhole⟩ | ⟨-, hlong, between, omitted', hcut', honce'⟩
    · rw [hwhole] at honce ⊢
      refine iff_of_true ?_ (.inl (by omega))
      rw [Nat.zero_add]
      exact honce.honest
    · rw [hcut'] at honce hover hshort ⊢
      dsimp only at honce hover hshort ⊢
      refine iff_of_false (not_honest_of_twice honce' honce (by omega)) ?_
      rintro (h | h)
      · omega
      · omega

lemma mem_cells_iff (evidence : FabricEvidence run) (f : String → String) {key : String × String}
    {original final : String} (h : (key, original) ∈ evidence.originals) :
    (key, final) ∈ evidence.originals.map (fun cell => (cell.1, f cell.2)) ↔
      final = f original := by
  constructor
  · intro hmem
    obtain ⟨⟨key', original'⟩, hcell, heq⟩ := List.mem_map.mp hmem
    cases heq
    have hsame := List.inj_on_of_nodup_map (nodup_originals evidence) hcell h rfl
    cases hsame
    rfl
  · rintro rfl
    exact List.mem_map.mpr ⟨_, h, rfl⟩

lemma reported_cuts (evidence : FabricEvidence run) (cuts : List (String × Cuts))
    (f : String → String × Nat) (hcuts : cells cuts =
      evidence.originals.map (fun cell => (cell.1, f cell.2))) {key : String × String}
    {original : String} (h : (key, original) ∈ evidence.originals) :
    reported (cuts.flatMap (fun device => omissionsOf device.1 device.2)) key = (f original).2 := by
  rw [flatMap_omissionsOf, hcuts]
  have hnodup : ((evidence.originals.map (fun cell => (cell.1, f cell.2))).map Prod.fst).Nodup := by
    rw [List.map_map]
    exact nodup_originals evidence
  have hmem : (key, (f original).1, (f original).2) ∈
      evidence.originals.map (fun cell => (cell.1, f cell.2)) :=
    List.mem_map.mpr ⟨_, h, rfl⟩
  exact reported_of_mem hnodup hmem

lemma budgetHolds_first (evidence : FabricEvidence run) {perIntentChars totalChars : Nat}
    (hper : 100 ≤ perIntentChars)
    (htotal : firstTotal (evidence.originals.map (fun cell => cell.2.length)) perIntentChars ≤
      totalChars) :
    let first := firstCuts run evidence.byDevice perIntentChars
    BudgetHolds evidence perIntentChars totalChars
      (first.map (fun device => (device.1, textsOf device.2)),
        first.flatMap (fun device => omissionsOf device.1 device.2)) := by
  have hcells := cells_firstCuts evidence perIntentChars
  have htexts : cells ((firstCuts run evidence.byDevice perIntentChars).map (fun device =>
      (device.1, textsOf device.2))) = evidence.originals.map (fun cell =>
        (cell.1, (truncateWithDisclosure cell.2 perIntentChars).1)) := by
    rw [cells_textsOf, hcells, List.map_map]
    rfl
  constructor
  · intro cell hcell
    rw [htexts] at hcell
    obtain ⟨original, horiginal, rfl⟩ := List.mem_map.mp hcell
    exact length_first_le original.2 hper (length_originals evidence horiginal)
  · rw [totalLength_firstCuts]
    exact htotal
  · intro key original horiginal
    refine ⟨(truncateWithDisclosure original perIntentChars).1, ?_, ?_⟩
    · rw [htexts]
      exact (mem_cells_iff evidence (fun text => (truncateWithDisclosure text perIntentChars).1)
        horiginal).mpr rfl
    · dsimp only
      rw [reported_cuts evidence _ (fun text => truncateWithDisclosure text perIntentChars) hcells
        horiginal]
      have hsize := length_originals evidence horiginal
      rcases (truncateWithDisclosure_spec original perIntentChars hsize).2 with
        ⟨-, hwhole⟩ | ⟨-, -, final, omitted, hcut, honce⟩
      · rw [hwhole]
        exact honest_whole original
      · rw [hcut]
        exact honce.honest

lemma budgetHolds_again_iff (evidence : FabricEvidence run) {perIntentChars totalChars : Nat}
    (hper : 100 ≤ perIntentChars) :
    let lengths := evidence.originals.map (fun cell => cell.2.length)
    let total := firstTotal lengths perIntentChars
    let first := firstCuts run evidence.byDevice perIntentChars
    let again := againCuts run evidence.byDevice perIntentChars totalChars
    BudgetHolds evidence perIntentChars totalChars
        (again.map (fun device => (device.1, textsOf device.2)),
          first.flatMap (fun device => omissionsOf device.1 device.2) ++
            again.flatMap (fun device => omissionsOf device.1 device.2)) ↔
      (∀ length ∈ lengths, length ≤ perIntentChars ∨ cutLength length perIntentChars ≤
        shareOf run totalChars total (cutLength length perIntentChars)) ∧
      (lengths.map (fun length => cutLength (cutLength length perIntentChars)
        (shareOf run totalChars total (cutLength length perIntentChars)))).sum ≤ totalChars := by
  intro lengths total first again
  have hfirst := cells_firstCuts evidence perIntentChars
  have hagain : cells again = evidence.originals.map (fun cell => (cell.1,
      shrinkSection run totalChars total (truncateWithDisclosure cell.2 perIntentChars).1)) :=
    cells_againCuts evidence perIntentChars totalChars
  have htexts : cells (again.map (fun device => (device.1, textsOf device.2))) =
      evidence.originals.map (fun cell => (cell.1,
        (shrinkSection run totalChars total
          (truncateWithDisclosure cell.2 perIntentChars).1).1)) := by
    rw [cells_textsOf, hagain, List.map_map]
    rfl
  have hreported : ∀ key original, (key, original) ∈ evidence.originals →
      reported (first.flatMap (fun device => omissionsOf device.1 device.2) ++
        again.flatMap (fun device => omissionsOf device.1 device.2)) key =
      (truncateWithDisclosure original perIntentChars).2 + (shrinkSection run totalChars total
        (truncateWithDisclosure original perIntentChars).1).2 := by
    intro key original horiginal
    rw [reported_append, reported_cuts evidence first
      (fun text => truncateWithDisclosure text perIntentChars) hfirst horiginal,
      reported_cuts evidence again (fun text => shrinkSection run totalChars total
        (truncateWithDisclosure text perIntentChars).1) hagain horiginal]
  have hlength : ∀ cell ∈ evidence.originals,
      (truncateWithDisclosure cell.2 perIntentChars).1.length =
        cutLength cell.2.length perIntentChars := fun cell hcell =>
    (truncateWithDisclosure_spec cell.2 perIntentChars (length_originals evidence hcell)).1
  have hsum : totalLength (again.map (fun device => (device.1, textsOf device.2))) =
      (lengths.map (fun length => cutLength (cutLength length perIntentChars)
        (shareOf run totalChars total (cutLength length perIntentChars)))).sum := by
    rw [totalLength_eq, htexts, List.map_map, List.map_map]
    refine congrArg List.sum (List.map_congr_left (fun cell hcell => ?_))
    have hsize := decimals_first cell.2 perIntentChars (length_originals evidence hcell)
    dsimp only [Function.comp_apply]
    rw [shrinkSection_eq, (truncateWithDisclosure_spec _ _ hsize).1, hlength cell hcell]
  have hboth : ∀ cell ∈ evidence.originals, _ := fun cell hcell =>
    both_cuts cell.2 (shareOf run totalChars total
      (truncateWithDisclosure cell.2 perIntentChars).1.length) hper
      (lt_of_lt_of_le (by decide) (le_max_left MIN_KEEP _)) (length_originals evidence hcell)
  constructor
  · intro h
    refine ⟨fun length hmem => ?_, hsum ▸ h.total⟩
    obtain ⟨cell, hcell, rfl⟩ := List.mem_map.mp hmem
    obtain ⟨final, hfinal, hhonest⟩ := h.honest cell.1 cell.2 hcell
    rw [htexts, mem_cells_iff evidence (fun text => (shrinkSection run totalChars total
      (truncateWithDisclosure text perIntentChars).1).1) hcell] at hfinal
    rw [hreported cell.1 cell.2 hcell, hfinal, shrinkSection_eq] at hhonest
    rw [← hlength cell hcell]
    exact (hboth cell hcell).2.mp hhonest
  · rintro ⟨hcut, htotal⟩
    constructor
    · intro cell hcell
      rw [htexts] at hcell
      obtain ⟨original, horiginal, rfl⟩ := List.mem_map.mp hcell
      rw [shrinkSection_eq]
      exact (hboth original horiginal).1
    · rw [hsum]
      exact htotal
    · intro key original horiginal
      refine ⟨_, (htexts ▸ (mem_cells_iff evidence (fun text => (shrinkSection run totalChars total
        (truncateWithDisclosure text perIntentChars).1).1) horiginal).mpr rfl), ?_⟩
      dsimp only
      rw [hreported key original horiginal, shrinkSection_eq]
      refine (hboth (key, original) horiginal).2.mpr ?_
      have hlong := hcut original.length (List.mem_map.mpr ⟨_, horiginal, rfl⟩)
      rw [← hlength (key, original) horiginal] at hlong
      exact hlong

end Budget

/-- The budget holds and is honest exactly when the first cuts are within it, or no section is cut
twice and what the second cuts leave is within it. -/
theorem budgetHolds_iff (run : Runtime) (evidence : FabricEvidence run)
    {perIntentChars totalChars : Nat} (hper : 100 ≤ perIntentChars) (htotal : 100 ≤ totalChars) :
    BudgetHolds evidence perIntentChars totalChars (budgetFabricEvidence run evidence.byDevice
        (some perIntentChars) (some totalChars)) ↔
      WithinBudget run (evidence.originals.map (fun cell => cell.2.length)) perIntentChars
        totalChars := by
  rw [budgetFabricEvidence_eq evidence.byDevice (by omega) (by omega)]
  dsimp only
  rw [totalLength_firstCuts]
  by_cases hover : totalChars <
      firstTotal (evidence.originals.map (fun cell => cell.2.length)) perIntentChars
  · rw [if_pos hover, WithinBudget, or_iff_right (by omega)]
    exact budgetHolds_again_iff evidence hper
  · rw [if_neg hover]
    exact iff_of_true (budgetHolds_first evidence hper (by omega)) (.inl (by omega))

def plainRuntime : Runtime where
  dumpsCompact := fun _ => ""
  dumps := fun
    | .dict [] => "\x7b\x7d"
    | _ => ""
  str := fun
    | .str text => text
    | .list [] => "[]"
    | _ => ""
  repr := fun _ => ""
  lower := id
  getenv := fun _ => none
  scaled := fun totalChars total length => length * totalChars / total

def sixFailed : Dict :=
  ["isis", "bgp", "ldp", "lldp", "interfaces", "logging"].map (fun intent =>
    (intent, .dict [("status", .str "error"), ("errors", .list []), ("data", .dict [])]))

def sixFailedEvidence : FabricEvidence plainRuntime where
  byDevice := [("PE1", sixFailed)]
  devices := by decide
  intents := by decide +kernel
  texts := by decide +kernel

theorem budgetHolds_iff_sixFailed :
    BudgetHolds sixFailedEvidence 100 100 (budgetFabricEvidence plainRuntime
        sixFailedEvidence.byDevice (some 100) (some 100)) ↔
      WithinBudget plainRuntime (sixFailedEvidence.originals.map (fun cell => cell.2.length))
        100 100 :=
  budgetHolds_iff plainRuntime sixFailedEvidence le_rfl le_rfl

/-- Every section is replaced by a disclosure of 29 characters, six of which are over the budget. -/
theorem not_budgetHolds_sixFailed :
    ¬BudgetHolds sixFailedEvidence 100 100 (budgetFabricEvidence plainRuntime
      sixFailedEvidence.byDevice (some 100) (some 100)) := by
  have hover : 100 < totalLength (budgetFabricEvidence plainRuntime
      [("PE1", sixFailed)] (some 100) (some 100)).1 := by
    decide +kernel
  intro h
  exact absurd h.total (Nat.not_le.mpr hover)

end EvidenceBudget

end NetTools
