import NetTools.Library.GuardedFold
import NetTools.Library.Sorting
import NetTools.Python.JsonValue
import NetTools.Telegram.Coordinator

/-!
# The view of a stream of activities

Activities may come late, twice or after the end. The view is that of the activities that were
accepted, and what is stored of it is read back as it was.
-/

namespace NetTools

open JsonText

def stageNames (stages : List InvestigationStage) : List String :=
  stages.map InvestigationStage.name

def StagesSorted (view : InvestigationView) : Prop :=
  view.stages.Pairwise (fun a b => a.name < b.name)

lemma stageNames_setStage (stages : List InvestigationStage) (stage : InvestigationStage) :
    stageNames (setStage stages stage) =
      if stage.name ∈ stageNames stages then stageNames stages
      else stageNames stages ++ [stage.name] := by
  have hany : (stages.any (fun s => s.name = stage.name) = true) ↔
      stage.name ∈ stageNames stages := by
    rw [List.any_eq_true, stageNames, List.mem_map]
    simp only [decide_eq_true_eq]
  rw [setStage]
  by_cases h : stage.name ∈ stageNames stages
  · rw [if_pos (hany.mpr h), if_pos h, stageNames, List.map_map, stageNames]
    apply List.map_congr_left
    intro s _
    rw [Function.comp_apply]
    split
    · rename_i hname
      exact hname.symm
    · rfl
  · rw [if_neg (fun hfound => h (hany.mp hfound)), if_neg h, stageNames, List.map_append]
    rfl

lemma nodup_setStage {stages : List InvestigationStage} (h : (stageNames stages).Nodup)
    (stage : InvestigationStage) : (stageNames (setStage stages stage)).Nodup := by
  rw [stageNames_setStage]
  split
  · exact h
  · rename_i hnew
    rw [List.nodup_append]
    refine ⟨h, List.nodup_singleton _, ?_⟩
    rintro name hname _ hlast rfl
    exact hnew (List.mem_singleton.mp hlast ▸ hname)

lemma nodup_stagesByName (stages : List InvestigationStage) :
    (stageNames (stagesByName stages)).Nodup := by
  have hfold : ∀ (stages kept : List InvestigationStage), (stageNames kept).Nodup →
      (stageNames (stages.foldl setStage kept)).Nodup := by
    intro stages
    induction stages with
    | nil => exact fun _ h => h
    | cons stage stages ih => exact fun kept h => ih _ (nodup_setStage h stage)
  exact hfold stages [] List.nodup_nil

lemma pairwise_insertionSort_stages {stages : List InvestigationStage}
    (h : (stageNames stages).Nodup) :
    (stages.insertionSort (fun a b => a.name ≤ b.name)).Pairwise (fun a b => a.name < b.name) := by
  have hperm := List.perm_insertionSort (fun a b : InvestigationStage => a.name ≤ b.name) stages
  have hdistinct : (stages.insertionSort (fun a b => a.name ≤ b.name)).Pairwise
      (fun a b => a.name ≠ b.name) := by
    have hnodup := (hperm.map InvestigationStage.name).nodup_iff.mpr h
    exact List.pairwise_map.mp hnodup
  have hsorted : (stages.insertionSort (fun a b => a.name ≤ b.name)).Pairwise
      (fun a b => a.name ≤ b.name) :=
    Sorting.pairwise_insertionSort_key InvestigationStage.name stages
  exact (hsorted.and hdistinct).imp (fun hboth => lt_of_le_of_ne hboth.1 hboth.2)

def nextView (view : InvestigationView) (activity : InvestigationActivity) : InvestigationView :=
  let stages := stagesByName view.stages
  let stages := match activity.stage with
    | some name => if name = "" then stages else setStage stages (activity.stageOf name)
    | none => stages
  { view with
    status :=
      if activity.kind = .completed then .completed
      else if activity.kind = .failed then .failed
      else activity.status
    stages := stages.insertionSort (fun a b => a.name ≤ b.name)
    finding := orText activity.finding view.finding
    classification := orText activity.classification view.classification
    limitation := orText activity.limitation view.limitation
    lastSequence := activity.sequence
    appliedActivityIds := insert activity.activityId view.appliedActivityIds
    terminal := activity.kind ∈ terminalKinds }

def Concerns (view : InvestigationView) (activity : InvestigationActivity) : Prop :=
  activity.incidentId = view.incidentId ∧ activity.eventId = view.eventId

variable {view : InvestigationView} {activity : InvestigationActivity}
  {activities : List InvestigationActivity}

theorem reduceView_eq (h : Concerns view activity) :
    reduceView view activity = .ok (GuardedFold.step Applies nextView view activity) := by
  rw [reduceView, if_neg (by rw [h.1, h.2]; exact not_not_intro rfl), GuardedFold.step]
  by_cases hstale : activity.activityId ∈ view.appliedActivityIds ∨
      activity.sequence ≤ view.lastSequence
  · rw [if_pos hstale, if_neg]
    rintro ⟨hnew, hlater, -⟩
    rcases hstale with hmem | hle
    · exact hnew hmem
    · omega
  · rw [if_neg hstale]
    rw [not_or, not_le] at hstale
    cases hterminal : view.terminal with
    | true =>
      rw [if_pos rfl, if_neg]
      rintro ⟨-, -, hopen⟩
      rw [hterminal] at hopen
      cases hopen
    | false =>
      have happlies : Applies view activity := ⟨hstale.1, hstale.2, hterminal⟩
      rw [if_neg Bool.false_ne_true, if_pos happlies]
      exact congrArg Except.ok (nextView.eq_1 view activity).symm

lemma stagesSorted_nextView (view : InvestigationView) (activity : InvestigationActivity) :
    StagesSorted (nextView view activity) := by
  apply pairwise_insertionSort_stages
  split
  · split
    · exact nodup_stagesByName view.stages
    · exact nodup_setStage (nodup_stagesByName view.stages) _
  · exact nodup_stagesByName view.stages

lemma applies_of_applies_nextView (view : InvestigationView) (a b : InvestigationActivity)
    (hb : Applies view b) (h : Applies (nextView view b) a) : Applies view a := by
  obtain ⟨hnew, hlater, -⟩ := h
  refine ⟨fun hmem => hnew (Finset.mem_insert_of_mem hmem), ?_, hb.2.2⟩
  exact lt_trans hb.2.1 hlater

lemma not_applies_nextView (view : InvestigationView) (a : InvestigationActivity)
    (_ : Applies view a) : ¬Applies (nextView view a) a :=
  fun h => h.1 (Finset.mem_insert_self _ _)

lemma not_applies_of_terminal (h : view.terminal = true) (a : InvestigationActivity) :
    ¬Applies view a := by
  rintro ⟨-, -, hopen⟩
  rw [h] at hopen
  cases hopen

/-- `reduce_view` over a stream of activities. -/
def reduceAll (view : InvestigationView) (activities : List InvestigationActivity) :
    Except String InvestigationView := activities.foldlM reduceView view

/-- The activity has a new id and a sequence number above those of all accepted before it. -/
def Fresh (view : InvestigationView) (earlier : List InvestigationActivity)
    (activity : InvestigationActivity) : Prop :=
  activity.activityId ∉ view.appliedActivityIds ∧ view.lastSequence < activity.sequence ∧
    ∀ a ∈ earlier, a.activityId ≠ activity.activityId ∧ a.sequence < activity.sequence

instance (view : InvestigationView) (earlier : List InvestigationActivity)
    (activity : InvestigationActivity) : Decidable (Fresh view earlier activity) :=
  inferInstanceAs (Decidable (_ ∧ _ ∧ _))

def accepted (view : InvestigationView) (earlier : List InvestigationActivity) :
    List InvestigationActivity → List InvestigationActivity
  | [] => []
  | a :: rest =>
    if Fresh view earlier a then
      if a.kind ∈ terminalKinds then [a] else a :: accepted view (earlier ++ [a]) rest
    else accepted view earlier rest

lemma accepted_sublist (view : InvestigationView) (earlier activities) :
    (accepted view earlier activities).Sublist activities := by
  induction activities generalizing earlier with
  | nil => exact List.Sublist.refl []
  | cons a rest ih =>
    rw [accepted]
    split
    · split
      · exact (List.nil_sublist rest).cons_cons a
      · exact (ih _).cons_cons a
    · exact (ih _).cons a

theorem reduceAll_eq (h : ∀ a ∈ activities, Concerns view a) :
    reduceAll view activities =
      .ok (Runs.final (GuardedFold.step Applies nextView) view activities) := by
  induction activities generalizing view with
  | nil => rfl
  | cons a rest ih =>
    have hsame : ∀ b, Concerns (GuardedFold.step Applies nextView view a) b ↔
        Concerns view b := by
      intro b
      rw [GuardedFold.step]
      split <;> exact Iff.rfl
    rw [reduceAll, List.foldlM_cons, reduceView_eq (h a List.mem_cons_self), Runs.final_cons]
    exact ih (fun b hb => (hsame b).mpr (h b (List.mem_cons_of_mem a hb)))

lemma applied_eq_accepted (start : InvestigationView) (earlier : List InvestigationActivity)
    (h : ∀ a, Applies view a ↔ Fresh start earlier a) (activities : List InvestigationActivity) :
    GuardedFold.applied Applies nextView view activities = accepted start earlier activities := by
  induction activities generalizing view earlier with
  | nil => rfl
  | cons a rest ih =>
    rw [GuardedFold.applied, accepted]
    by_cases ha : Applies view a
    · rw [if_pos ha, if_pos ((h a).mp ha)]
      by_cases hends : a.kind ∈ terminalKinds
      · have hterminal : (nextView view a).terminal = true := decide_eq_true hends
        have hnone : ∀ rest, GuardedFold.applied Applies nextView (nextView view a) rest = [] := by
          intro rest
          induction rest with
          | nil => rfl
          | cons b rest ih =>
            rw [GuardedFold.applied, if_neg (not_applies_of_terminal hterminal b), ih]
        rw [if_pos hends, hnone]
      · rw [if_neg hends, ih (earlier ++ [a])]
        intro b
        have hopen : (nextView view a).terminal = false := decide_eq_false hends
        have hb := h b
        constructor
        · intro happlies
          obtain ⟨hnew, hlast, hearlier⟩ := hb.mp (applies_of_applies_nextView view b a ha happlies)
          refine ⟨hnew, hlast, ?_⟩
          intro c hc
          rcases List.mem_append.mp hc with hc | hc
          · exact hearlier c hc
          · obtain rfl := List.mem_singleton.mp hc
            refine ⟨fun hid => happlies.1 ?_, happlies.2.1⟩
            rw [← hid]
            exact Finset.mem_insert_self _ _
        · rintro ⟨hnew, hlast, hearlier⟩
          have hlatest := hearlier a (List.mem_append_right earlier (List.mem_singleton_self a))
          have hbefore := hb.mpr ⟨hnew, hlast,
            fun c hc => hearlier c (List.mem_append_left [a] hc)⟩
          refine ⟨?_, hlatest.2, hopen⟩
          intro hmem
          rcases Finset.mem_insert.mp hmem with hid | hmem
          · exact hlatest.1 hid.symm
          · exact hbefore.1 hmem
    · rw [if_neg ha, if_neg (fun hfresh => ha ((h a).mpr hfresh)), ih earlier h]

lemma final_accepted (view : InvestigationView) (activities : List InvestigationActivity) :
    Runs.final (GuardedFold.step Applies nextView) view (accepted view [] activities) =
      Runs.final (GuardedFold.step Applies nextView) view activities := by
  cases hterminal : view.terminal with
  | true =>
    have hclosed := not_applies_of_terminal hterminal
    rw [GuardedFold.final_of_closed _ hclosed, GuardedFold.final_of_closed _ hclosed]
  | false =>
    rw [← applied_eq_accepted view [] _ activities, GuardedFold.final_applied]
    intro a
    constructor
    · rintro ⟨hnew, hlater, -⟩
      exact ⟨hnew, hlater, fun b hb => absurd hb List.not_mem_nil⟩
    · rintro ⟨hnew, hlater, -⟩
      exact ⟨hnew, hlater, hterminal⟩

def textJson : Option String → Json
  | some text => .str text
  | none => .null

lemma toJson_ofText (text : Option String) : (Value.ofText text).toJson = some (textJson text) := by
  cases text <;> rfl

lemma reread_textJson (text : Option String) :
    Value.reread (textJson text) = Value.ofText text := by
  cases text <;> rfl

def stageEntries (stage : InvestigationStage) : List (String × Json) :=
  [("name", .str stage.name), ("status", .str stage.status.value),
    ("finding", textJson stage.finding), ("rung", textJson stage.rung),
    ("device", textJson stage.device)]

def viewEntries (view : InvestigationView) : List (String × Json) :=
  [("incident_id", .str view.incidentId), ("event_id", .str view.eventId),
    ("status", .str view.status.value),
    ("stages", .arr (view.stages.map (fun stage => .obj (stageEntries stage)))),
    ("finding", textJson view.finding), ("classification", textJson view.classification),
    ("limitation", textJson view.limitation), ("last_sequence", .int view.lastSequence),
    ("applied_activity_ids", .arr ((sortedIds view.appliedActivityIds).map .str)),
    ("terminal", .bool view.terminal)]

lemma toJson_encodeStage (stage : InvestigationStage) :
    (encodeStage stage).toJson = some (.obj (stageEntries stage)) := by
  simp [encodeStage, stageEntries, Value.toJson, Value.entriesToJson, toJson_ofText]

lemma itemsToJson_map {α : Type} {f : α → Value} {g : α → Json}
    (h : ∀ a, (f a).toJson = some (g a)) (items : List α) :
    Value.itemsToJson (items.map f) = some (items.map g) := by
  induction items with
  | nil => rfl
  | cons a items ih =>
    rw [List.map_cons, Value.itemsToJson, h, ih]
    rfl

lemma toJson_encodeView (view : InvestigationView) :
    (Value.dict (encodeView view)).toJson = some (.obj (viewEntries view)) := by
  have hstages := itemsToJson_map toJson_encodeStage view.stages
  have hids := itemsToJson_map (f := Value.str) (g := Json.str) (fun _ => rfl)
    (sortedIds view.appliedActivityIds)
  simp [encodeView, viewEntries, Value.toJson, Value.entriesToJson, toJson_ofText, hstages, hids]

lemma keyedItems_map {α : Type} {g : α → Json} (h : ∀ a, Keyed (g a)) (items : List α) :
    KeyedItems (items.map g) := by
  induction items with
  | nil => trivial
  | cons a items ih => exact ⟨h a, ih⟩

lemma keyed_textJson (text : Option String) : Keyed (textJson text) := by
  cases text <;> trivial

lemma keyed_stage (stage : InvestigationStage) : Keyed (.obj (stageEntries stage)) :=
  ⟨by simp [stageEntries], trivial, trivial, keyed_textJson _, keyed_textJson _, keyed_textJson _,
    trivial⟩

lemma keyed_view (view : InvestigationView) : Keyed (.obj (viewEntries view)) :=
  ⟨by simp [viewEntries], trivial, trivial, trivial, keyedItems_map keyed_stage _,
    keyed_textJson _, keyed_textJson _, keyed_textJson _, trivial,
    keyedItems_map (g := Json.str) (fun _ => trivial) _, trivial, trivial⟩

lemma decodeStage_reread (stage : InvestigationStage) :
    decodeStage (Value.reread (.obj (stageEntries stage))) = some stage := by
  obtain ⟨d, hd, hget⟩ := Value.reread_obj (stageEntries stage)
  have hstr : ∀ text, Value.reread (.str text) = .str text := fun _ => rfl
  rw [hd]
  simp [decodeStage, strAt, textAt, hget, stageEntries, List.lookup, hstr, Value.toStr,
    reread_textJson, Value.toText_ofText, ActivityStatus.ofValue_value]

/-- `_decode_view(json.loads(text))`. -/
def decodeText (text : String) : Option InvestigationView :=
  match Value.loads text with
  | some (.dict payload) => decodeView payload
  | _ => none

theorem decodeText_dumps (view : InvestigationView) :
    (Value.dict (encodeView view)).dumps.bind decodeText = some view := by
  have hloads := Value.loads_of_dumps (toJson_encodeView view) (keyed_view view)
  obtain ⟨d, hd, hget⟩ := Value.reread_obj (viewEntries view)
  obtain ⟨text, htext, hread⟩ := Option.bind_eq_some_iff.mp hloads
  rw [htext, Option.bind_some, decodeText, hread, hd]
  have hstr : ∀ text, Value.reread (.str text) = .str text := fun _ => rfl
  have hint : ∀ i, Value.reread (.int i) = .int i := fun _ => rfl
  have hbool : ∀ b, Value.reread (.bool b) = .bool b := fun _ => rfl
  have hstages : (view.stages.map (fun stage => Value.reread (.obj (stageEntries stage)))).mapM
      decodeStage = some view.stages := mapM_map_of_inverse decodeStage_reread _
  have hids : ((sortedIds view.appliedActivityIds).map Value.str).mapM Value.toStr =
      some (sortedIds view.appliedActivityIds) :=
    mapM_map_of_inverse (f := Value.str) (g := Value.toStr) (fun _ => rfl) _
  simp [decodeView, strAt, textAt, listAt, intAt, boolAt, hget, viewEntries, List.lookup, hstr,
    hint, hbool, Value.toStr, Value.reread_arr, Function.comp_def, reread_textJson,
    Value.toText_ofText, ActivityStatus.ofValue_value, hstages, hids, toFinset_sortedIds]

/-! ### What the accepted activities leave -/

def stageNamed (stages : List InvestigationStage) (name : String) : Option InvestigationStage :=
  stages.reverse.find? (fun stage => stage.name = name)

lemma stageNamed_name {stages : List InvestigationStage} {name : String}
    {stage : InvestigationStage} (h : stageNamed stages name = some stage) : stage.name = name := by
  have hfound := List.find?_some h
  exact of_decide_eq_true hfound

lemma stageNamed_append (first last : List InvestigationStage) (name : String) :
    stageNamed (first ++ last) name = (stageNamed last name).or (stageNamed first name) := by
  rw [stageNamed, List.reverse_append, List.find?_append]
  rfl

lemma stageNamed_setStage (stages : List InvestigationStage) (stage : InvestigationStage)
    (name : String) :
    stageNamed (setStage stages stage) name = stageNamed (stages ++ [stage]) name := by
  rw [setStage]
  split
  · rename_i hany
    have hmatch : ((fun s : InvestigationStage => decide (s.name = name)) ∘
        fun s => if s.name = stage.name then stage else s) = fun s => decide (s.name = name) := by
      funext s
      dsimp only [Function.comp_apply]
      split
      · rename_i hname
        rw [hname]
      · rfl
    rw [stageNamed, ← List.map_reverse, List.find?_map, hmatch, stageNamed_append]
    by_cases hname : stage.name = name
    · obtain ⟨old, hold, hsame⟩ := List.any_eq_true.mp hany
      have hfound : (stages.reverse.find? (fun s => decide (s.name = name))).isSome := by
        rw [List.find?_isSome]
        exact ⟨old, List.mem_reverse.mpr hold,
          decide_eq_true ((of_decide_eq_true hsame).trans hname)⟩
      obtain ⟨found, hfound⟩ := Option.isSome_iff_exists.mp hfound
      have hfoundName : found.name = name := stageNamed_name hfound
      rw [hfound, Option.map_some, if_pos (hfoundName.trans hname.symm)]
      simp [stageNamed, hname]
    · cases hfound : stages.reverse.find? (fun s => decide (s.name = name)) with
      | none => simp [stageNamed, hname, hfound]
      | some found =>
        have hfoundName : found.name = name := stageNamed_name hfound
        rw [Option.map_some, if_neg (fun h => hname (h.symm.trans hfoundName))]
        simp [stageNamed, hname, hfound]
  · rfl

lemma stageNamed_eq_some_iff {stages : List InvestigationStage} (h : (stageNames stages).Nodup)
    {name : String} {stage : InvestigationStage} :
    stageNamed stages name = some stage ↔ stage ∈ stages ∧ stage.name = name := by
  rw [stageNamed]
  constructor
  · intro hfound
    exact ⟨List.mem_reverse.mp (List.mem_of_find?_eq_some hfound), stageNamed_name hfound⟩
  · rintro ⟨hmem, rfl⟩
    have hsome : (stages.reverse.find? (fun s => decide (s.name = stage.name))).isSome := by
      rw [List.find?_isSome]
      exact ⟨stage, List.mem_reverse.mpr hmem, decide_eq_true rfl⟩
    obtain ⟨found, hfound⟩ := Option.isSome_iff_exists.mp hsome
    rw [hfound, List.inj_on_of_nodup_map h
      (List.mem_reverse.mp (List.mem_of_find?_eq_some hfound)) hmem (stageNamed_name hfound)]

lemma stageNamed_stagesByName (stages : List InvestigationStage) (name : String) :
    stageNamed (stagesByName stages) name = stageNamed stages name := by
  have hfold : ∀ stages kept : List InvestigationStage,
      stageNamed (stages.foldl setStage kept) name = stageNamed (kept ++ stages) name := by
    intro stages
    induction stages with
    | nil =>
      intro kept
      rw [List.foldl_nil, List.append_nil]
    | cons stage stages ih =>
      intro kept
      rw [List.foldl_cons, ih, stageNamed_append, stageNamed_setStage, ← stageNamed_append,
        List.append_assoc, List.singleton_append]
  exact hfold stages []

lemma stageNamed_insertionSort {stages : List InvestigationStage} (h : (stageNames stages).Nodup)
    (name : String) :
    stageNamed (stages.insertionSort (fun a b => a.name ≤ b.name)) name =
      stageNamed stages name := by
  have hperm := List.perm_insertionSort (fun a b : InvestigationStage => a.name ≤ b.name) stages
  have hnodup := (hperm.map InvestigationStage.name).nodup_iff.mpr h
  ext stage
  rw [stageNamed_eq_some_iff hnodup, stageNamed_eq_some_iff h, hperm.mem_iff]

def InvestigationActivity.reported (activity : InvestigationActivity) :
    Option InvestigationStage :=
  (activity.stage.filter (fun name => name ≠ "")).map activity.stageOf

lemma stageNamed_nextView (view : InvestigationView) (activity : InvestigationActivity)
    (name : String) : stageNamed (nextView view activity).stages name =
      stageNamed (view.stages ++ activity.reported.toList) name := by
  have hkept := nodup_stagesByName view.stages
  rw [nextView, InvestigationActivity.reported]
  cases activity.stage with
  | none =>
    dsimp only
    rw [stageNamed_insertionSort hkept, stageNamed_stagesByName, Option.filter_none,
      Option.map_none, Option.toList_none, List.append_nil]
  | some stage =>
    dsimp only
    by_cases hempty : stage = ""
    · rw [if_pos hempty, stageNamed_insertionSort hkept, stageNamed_stagesByName]
      simp [Option.filter, hempty]
    · rw [if_neg hempty, stageNamed_insertionSort (nodup_setStage hkept _), stageNamed_setStage,
        stageNamed_append, stageNamed_stagesByName, ← stageNamed_append]
      simp [Option.filter, hempty]

def InvestigationActivity.shownStatus (activity : InvestigationActivity) : ActivityStatus :=
  if activity.kind = .completed then .completed
  else if activity.kind = .failed then .failed
  else activity.status

def lastText (before : Option String) (texts : List (Option String)) : Option String :=
  (texts.filter hasText).getLast?.getD before

lemma orText_lastText (before text : Option String) (texts : List (Option String)) :
    orText text (lastText before texts) = lastText before (texts ++ [text]) := by
  rw [orText, lastText, lastText, List.filter_append]
  cases htext : hasText text with
  | true => simp [htext]
  | false => simp [htext]

/-- What accepted activities leave of a view: the last of them, all their names, and of each stage
and each text the last that was reported. -/
structure Remains (view : InvestigationView) (accepted : List InvestigationActivity)
    (result : InvestigationView) : Prop where
  identity : result.incidentId = view.incidentId ∧ result.eventId = view.eventId
  status : result.status = (accepted.getLast?.map (·.shownStatus)).getD view.status
  stages : ∀ name, stageNamed result.stages name =
    stageNamed (view.stages ++ accepted.filterMap (·.reported)) name
  finding : result.finding = lastText view.finding (accepted.map (·.finding))
  classification : result.classification =
    lastText view.classification (accepted.map (·.classification))
  limitation : result.limitation = lastText view.limitation (accepted.map (·.limitation))
  lastSequence : result.lastSequence = (accepted.getLast?.map (·.sequence)).getD view.lastSequence
  ids : result.appliedActivityIds =
    view.appliedActivityIds ∪ (accepted.map (·.activityId)).toFinset
  terminal : result.terminal =
    (accepted.getLast?.map (fun a => decide (a.kind ∈ terminalKinds))).getD view.terminal

theorem remains_foldl (view : InvestigationView) (accepted : List InvestigationActivity) :
    Remains view accepted (accepted.foldl nextView view) := by
  induction accepted using List.reverseRecOn with
  | nil =>
    refine ⟨⟨rfl, rfl⟩, rfl, fun name => ?_, rfl, rfl, rfl, rfl, ?_, rfl⟩
    · rw [List.filterMap_nil, List.append_nil]
      rfl
    · rw [List.map_nil, List.toFinset_nil, Finset.union_empty]
      rfl
  | append_singleton accepted a ih =>
    rw [List.foldl_append, List.foldl_cons, List.foldl_nil]
    refine ⟨ih.identity, ?_, fun name => ?_, ?_, ?_, ?_, ?_, ?_, ?_⟩
    · rw [List.getLast?_concat]
      rfl
    · rw [stageNamed_nextView, stageNamed_append, ih.stages, ← stageNamed_append,
        List.filterMap_append, List.append_assoc]
      cases hreported : a.reported with
      | none => simp [hreported]
      | some stage => simp [hreported]
    · rw [List.map_append, List.map_singleton, ← orText_lastText, ← ih.finding]
      rfl
    · rw [List.map_append, List.map_singleton, ← orText_lastText, ← ih.classification]
      rfl
    · rw [List.map_append, List.map_singleton, ← orText_lastText, ← ih.limitation]
      rfl
    · rw [List.getLast?_concat]
      rfl
    · rw [List.map_append, List.map_singleton, List.toFinset_append, ← Finset.union_assoc,
        ← ih.ids]
      exact Finset.insert_eq _ _ |>.trans (Finset.union_comm _ _)
    · rw [List.getLast?_concat]
      rfl

lemma final_eq_foldl_accepted (hopen : view.terminal = false)
    (activities : List InvestigationActivity) :
    Runs.final (GuardedFold.step Applies nextView) view activities =
      (accepted view [] activities).foldl nextView view := by
  rw [GuardedFold.final_eq_foldl_applied, applied_eq_accepted view []]
  intro a
  constructor
  · rintro ⟨hnew, hlater, -⟩
    exact ⟨hnew, hlater, fun b hb => absurd hb List.not_mem_nil⟩
  · rintro ⟨hnew, hlater, -⟩
    exact ⟨hnew, hlater, hopen⟩

lemma stagesSorted_foldl {activities : List InvestigationActivity}
    (h : StagesSorted view ∨ activities ≠ []) : StagesSorted (activities.foldl nextView view) := by
  cases activities using List.reverseRecOn with
  | nil => exact h.resolve_right (fun hne => hne rfl)
  | append_singleton activities a =>
    rw [List.foldl_append]
    exact stagesSorted_nextView _ a

/-- The view of a stream of activities is that of the accepted ones, and what they leave. No
repeated activity changes it, it stays as it is once it is terminal, its stages are sorted if
they were or an activity has been accepted, and its text is read back. -/
theorem reduceAll_stream (view : InvestigationView) (activities : List InvestigationActivity)
    (h : ∀ a ∈ activities, Concerns view a) :
    ∃ result, reduceAll view activities = .ok result ∧
      reduceAll view (accepted view [] activities) = .ok result ∧
      (view.terminal = false → Remains view (accepted view [] activities) result) ∧
      (∀ before a after, activities = before ++ after → a ∈ before →
        reduceAll view (before ++ a :: after) = .ok result) ∧
      (∀ before after reached, activities = before ++ after →
        reduceAll view before = .ok reached → reached.terminal = true → result = reached) ∧
      (StagesSorted view ∨ view.terminal = false ∧ accepted view [] activities ≠ [] →
        StagesSorted result) ∧
      (Value.dict (encodeView result)).dumps.bind decodeText = some result := by
  refine ⟨_, reduceAll_eq h, ?_, ?_, ?_, ?_, ?_, decodeText_dumps _⟩
  · have hsub := accepted_sublist view [] activities
    rw [reduceAll_eq (fun a ha => h a (hsub.subset ha)), final_accepted]
  · intro hopen
    rw [final_eq_foldl_accepted hopen]
    exact remains_foldl view _
  · rintro before a after rfl ha
    have hrepeated : ∀ b ∈ before ++ a :: after, Concerns view b := by
      intro b hb
      apply h b
      rcases List.mem_append.mp hb with hb | hb
      · exact List.mem_append_left after hb
      · rcases List.mem_cons.mp hb with rfl | hb
        · exact List.mem_append_left after ha
        · exact List.mem_append_right before hb
    rw [reduceAll_eq hrepeated,
      GuardedFold.final_repeated applies_of_applies_nextView not_applies_nextView ha]
  · rintro before after reached rfl hreached hterminal
    rw [reduceAll_eq (fun a ha => h a (List.mem_append_left after ha))] at hreached
    obtain rfl := Except.ok.inj hreached
    have hclosed := GuardedFold.final_of_closed nextView
      (not_applies_of_terminal hterminal) after
    rw [Runs.final, Runs.final] at hclosed
    rw [Runs.final, List.foldl_append, hclosed, Runs.final]
  · intro hsorted
    cases hopen : view.terminal with
    | true =>
      rw [GuardedFold.final_of_closed nextView (not_applies_of_terminal hopen)]
      exact hsorted.resolve_right (fun hnew => by rw [hopen] at hnew; cases hnew.1)
    | false =>
      rw [final_eq_foldl_accepted hopen]
      exact stagesSorted_foldl (hsorted.imp_right And.right)

def firstActivity : InvestigationActivity where
  activityId := "activity-1"
  incidentId := "incident-1"
  eventId := "event-1"
  sequence := 0
  kind := .stageStarted
  status := .running
  stage := some "isis"
  sequence_nonneg := InvestigationActivity.first_nonneg
  duration_nonneg := InvestigationActivity.untimed
  summary_short := InvestigationActivity.unsummarised

def secondActivity : InvestigationActivity where
  activityId := "activity-2"
  incidentId := "incident-1"
  eventId := "event-1"
  sequence := 1
  kind := .stageStarted
  status := .running
  stage := some "bgp"
  sequence_nonneg := Int.one_nonneg
  duration_nonneg := InvestigationActivity.untimed
  summary_short := InvestigationActivity.unsummarised

def unsortedView : InvestigationView where
  incidentId := "incident-1"
  eventId := "event-1"
  stages := [{ name := "ldp", status := .completed }, { name := "epoch", status := .completed }]

theorem reduceAll_stream_repeated : ∃ result,
    reduceAll unsortedView [firstActivity, secondActivity, firstActivity] = .ok result ∧
      stageNames result.stages = ["bgp", "epoch", "isis", "ldp"] ∧ StagesSorted result ∧
      stageNamed result.stages "isis" = firstActivity.reported ∧ result.lastSequence = 1 ∧
      (Value.dict (encodeView result)).dumps.bind decodeText = some result := by
  obtain ⟨result, hrun, -, hremains, -, -, hsorted, htext⟩ := reduceAll_stream unsortedView
    [firstActivity, secondActivity, firstActivity]
    (List.forall_mem_cons.mpr ⟨⟨rfl, rfl⟩, List.forall_mem_cons.mpr ⟨⟨rfl, rfl⟩,
      List.forall_mem_singleton.mpr ⟨rfl, rfl⟩⟩⟩)
  have haccepted : accepted unsortedView [] [firstActivity, secondActivity, firstActivity] =
      [firstActivity, secondActivity] := rfl
  rw [haccepted] at hremains hsorted
  have hremain := hremains rfl
  refine ⟨result, hrun, ?_, hsorted (.inr ⟨rfl, List.cons_ne_nil _ _⟩), ?_, hremain.lastSequence,
    htext⟩
  · have hnames : (reduceAll unsortedView [firstActivity, secondActivity, firstActivity]).map
        (fun view => stageNames view.stages) = .ok ["bgp", "epoch", "isis", "ldp"] := by decide
    rw [hrun] at hnames
    exact Except.ok.inj hnames
  · rw [hremain.stages]
    decide

/-- Without an accepted activity a view keeps the order of its stages. -/
theorem reduceAll_stream_unsorted :
    reduceAll unsortedView [] = .ok unsortedView ∧ ¬StagesSorted unsortedView := by
  refine ⟨rfl, ?_⟩
  rw [StagesSorted]
  decide

end NetTools
