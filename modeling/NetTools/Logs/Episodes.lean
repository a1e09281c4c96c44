import NetTools.Investigation.Payload
import NetTools.Library.Neighbours
import NetTools.Library.Sorting
import NetTools.Logs.Timestamps

/-!
# Episodes of a device's log

The records of one device are sorted by their own timestamps, and two neighbours are joined when
the time between them is within the hold timer of a protocol that one of them names.
-/

namespace NetTools

open Calendar

/-- What `build_episodes` reads of a record, and the fields that it passes on. -/
structure LogRecord where
  timestamp : Option String
  facility : Option String := none
  text : Option String := none
  fields : Dict := []

structure ProtocolTimer where
  protocol : String
  facility : String
  holdSeconds : Nat
  citation : String

def bgpTimer : ProtocolTimer where
  protocol := "bgp"
  facility := "ROUTING-BGP"
  holdSeconds := 180
  citation :=
    "BGP hold timer -- configured 180s on all 28 sessions measured " ++
    "fabric-wide (metrics_prometheus.py's peer_holdtime measurement, " ++
    "2026-08-19: 'the CONFIGURED hold timer (180s on every one of " ++
    "this fabric's 28 sessions, never varying)'). The 154s " ++
    "interface-to-BGP gap this timer exists to bridge " ++
    "(mnemonics.yaml's ROUTING-ISIS-5-ADJCHANGE severity_note: " ++
    "'On this fabric BGP follows within its hold timer when the " ++
    "route is lost -- measured 154s in round 1') is inside it with " ++
    "~26s to spare."

def isisTimer : ProtocolTimer where
  protocol := "isis"
  facility := "ROUTING-ISIS"
  holdSeconds := 30
  citation :=
    "IS-IS hold time -- three missed hellos at the default 10s " ++
    "hello interval (mnemonics.yaml's ROUTING-ISIS-5-ADJCHANGE " ++
    "entry: 'hold time expired (~30s of lost hellos)')."

def protocolHoldTimers : List ProtocolTimer := [bgpTimer, isisTimer]

def timerFor (record : LogRecord) : Option ProtocolTimer :=
  record.facility.bind (fun facility => protocolHoldTimers.find? (·.facility = facility))

/-- `min` of two timers by `hold_seconds`. -/
def ProtocolTimer.faster (t u : ProtocolTimer) : ProtocolTimer :=
  if u.holdSeconds < t.holdSeconds then u else t

/-- `max` of two timers by `hold_seconds`. -/
def ProtocolTimer.slower (t u : ProtocolTimer) : ProtocolTimer :=
  if t.holdSeconds < u.holdSeconds then u else t

def fallbackTimer : ProtocolTimer := [isisTimer].foldl ProtocolTimer.faster bgpTimer

def pairBound (prevRecord nextRecord : LogRecord) : Nat × String :=
  match [timerFor prevRecord, timerFor nextRecord].reduceOption with
  | [] =>
    (fallbackTimer.holdSeconds,
      "neither event named a protocol with a declared hold timer; used the smallest declared " ++
        "timer (" ++ fallbackTimer.protocol ++ ", " ++ toString fallbackTimer.holdSeconds ++
        "s) as a floor rather than an invented value")
  | t :: ts =>
    let chosen := ts.foldl ProtocolTimer.slower t
    (chosen.holdSeconds,
      toString chosen.holdSeconds ++ "s (" ++ chosen.protocol ++ " hold timer) -- " ++
        chosen.citation)

def interfaceMention : List Char → Option String :=
  searchText fun cs => do
    let cs ← skipText "Interface".toList cs
    let cs ← skipSome isSpaceChar cs
    let first ← cs.head?
    guard first.isAlpha
    let name := (cs.drop 1).takeWhile
      (fun c => c.isAlphanum || c == '_' || c == '.' || c == '/' || c == '-')
    guard (name.length ≤ 62 ∧ (cs.drop (1 + name.length)).head? = some ',')
    pure (String.ofList (first :: name))

def subjectHint (records : List LogRecord) : Option String :=
  records.findSome? (fun record => interfaceMention (record.text.getD "").toList)

structure EpisodeJoin where
  gapSeconds : ℚ
  boundSeconds : Nat
  reason : String

structure Episode where
  episodeId : String
  device : String
  subject : Option String
  start : String
  stop : String
  records : List LogRecord
  joins : List EpisodeJoin := []

structure EpisodeSet where
  episodes : List Episode
  device : String
  recordsConsidered : Nat
  recordsUnordered : Nat
  coverage : Option Coverage := none

abbrev Timed : Type := Stamp × LogRecord

def finishEpisode (members : List Timed) (joins : List EpisodeJoin) (device : String)
    (index : Nat) : Episode :=
  let records := members.map Prod.snd
  { episodeId := "EP-" ++ Datetime.zeroPad 4 index
    device := device
    subject := subjectHint records
    start := (records.head?.bind LogRecord.timestamp).getD ""
    stop := (records.getLast?.bind LogRecord.timestamp).getD ""
    records := records
    joins := joins }

/-- The variables of the loop: the episodes that are closed, and the one that is open. -/
structure Scan where
  episodes : List Episode := []
  current : List Timed := []
  joins : List EpisodeJoin := []

namespace Scan

/-- `episodes.append(_finish_episode(current, …))`. -/
def close (device : String) (s : Scan) : List Episode :=
  s.episodes ++ [finishEpisode s.current s.joins device (s.episodes.length + 1)]

/-- One turn of the loop; `none` for the `ValueError` of a comparison. -/
def step (device : String) (s : Scan) (item : Timed) : Option Scan :=
  match s.current.getLast? with
  | none => some { s with current := [item] }
  | some prev => do
    let gap ← secondsBetween prev.1 item.1
    let (bound, reason) := pairBound prev.2 item.2
    if gap ≤ bound then
      pure { s with current := s.current ++ [item], joins := s.joins ++ [⟨gap, bound, reason⟩] }
    else pure { episodes := s.close device, current := [item], joins := [] }

def finish (device : String) (s : Scan) : List Episode :=
  if s.current = [] then s.episodes else s.close device

end Scan

variable (digits : DigitTable)

/-- The timestamp of a record, `none` when it has none that parses. -/
def LogRecord.stamp (record : LogRecord) : Option Stamp :=
  parseDeviceTimestamp digits (record.timestamp.getD "")

def timedRecords (records : List LogRecord) : List Timed :=
  records.filterMap (fun record => (record.stamp digits).map (fun stamp => (stamp, record)))

def buildEpisodes (records : List LogRecord) (device : String) (coverage : Option Coverage) :
    Option EpisodeSet := do
  let timed := (timedRecords digits records).insertionSort (fun p q => p.1.key ≤ q.1.key)
  let scanned ← timed.foldlM (Scan.step device) {}
  pure
    { episodes := scanned.finish device
      device := device
      recordsConsidered := records.length
      recordsUnordered := records.countP (fun record => (record.stamp digits).isNone)
      coverage := coverage }

def leapGap (p q : Timed) : ℚ :=
  ((q.1.sinceNewYear true - p.1.sinceNewYear true : Int) : ℚ) / 1000

def near (p q : Timed) : Bool := leapGap p q ≤ (pairBound p.2 q.2).1

def joinOf (p q : Timed) : EpisodeJoin :=
  ⟨leapGap p q, (pairBound p.2 q.2).1, (pairBound p.2 q.2).2⟩

def episodesOf (device : String) (groups : List (List Timed)) : List Episode :=
  groups.mapIdx (fun i group =>
    finishEpisode group (Neighbours.read joinOf group) device (i + 1))

def Scan.ofGroups (device : String) (closed : List (List Timed)) (current : List Timed) : Scan :=
  ⟨episodesOf device closed, current, Neighbours.read joinOf current⟩

lemma episodesOf_concat (device : String) (closed : List (List Timed)) (group : List Timed) :
    episodesOf device (closed ++ [group]) = (Scan.ofGroups device closed group).close device := by
  unfold episodesOf Scan.close Scan.ofGroups
  rw [List.mapIdx_concat]
  simp only [episodesOf, List.length_mapIdx]

lemma map_episodesOf {γ : Type} (device : String) (f : Episode → γ) (g : List Timed → γ)
    (h : ∀ group index,
      f (finishEpisode group (Neighbours.read joinOf group) device index) = g group)
    (groups : List (List Timed)) : (episodesOf device groups).map f = groups.map g := by
  apply List.ext_getElem
  · rw [List.length_map, List.length_map, episodesOf, List.length_mapIdx]
  · intro i hi hi'
    rw [List.getElem_map, List.getElem_map]
    simp only [episodesOf, List.getElem_mapIdx]
    exact h _ _

lemma Scan.step_ofGroups (device : String) (closed : List (List Timed)) (group : List Timed)
    {p q : Timed} (h : secondsBetween p.1 q.1 = some (leapGap p q)) :
    (Scan.ofGroups device closed (group ++ [p])).step device q =
      some (if near p q = true then Scan.ofGroups device closed (group ++ [p] ++ [q])
        else Scan.ofGroups device (closed ++ [group ++ [p]]) [q]) := by
  have hlast : (Scan.ofGroups device closed (group ++ [p])).current.getLast? = some p :=
    List.getLast?_concat
  unfold Scan.step
  rw [hlast]
  simp only [h, Option.bind_eq_bind, Option.bind_some]
  by_cases hnear : near p q = true
  · have hgap : leapGap p q ≤ (pairBound p.2 q.2).1 := of_decide_eq_true hnear
    rw [if_pos hgap, if_pos hnear]
    unfold Scan.ofGroups
    rw [Neighbours.read_concat]
    rfl
  · have hgap : ¬ leapGap p q ≤ (pairBound p.2 q.2).1 := fun hle => hnear (decide_eq_true hle)
    rw [if_neg hgap, if_neg hnear, ← episodesOf_concat]
    rfl

lemma Scan.foldlM_ofGroups (device : String) {p : Timed} {l : List Timed}
    (h : (p :: l).IsChain (fun p q => secondsBetween p.1 q.1 = some (leapGap p q)))
    (closed : List (List Timed)) (group : List Timed) :
    ∃ s, l.foldlM (Scan.step device) (Scan.ofGroups device closed (group ++ [p])) = some s ∧
      s.finish device =
        episodesOf device (closed ++ ((p :: l).splitBy near).modifyHead (group ++ ·)) := by
  induction l generalizing p closed group with
  | nil =>
    refine ⟨_, rfl, ?_⟩
    have hcurrent : (Scan.ofGroups device closed (group ++ [p])).current ≠ [] := by
      exact List.append_ne_nil_of_right_ne_nil _ (List.cons_ne_nil _ _)
    rw [Scan.finish, if_neg hcurrent, ← episodesOf_concat]
    rfl
  | cons q l ih =>
    rw [List.isChain_cons_cons] at h
    rw [List.foldlM_cons, Scan.step_ofGroups device closed group h.1,
      Neighbours.splitBy_cons_cons]
    by_cases hnear : near p q = true
    · rw [if_pos hnear, if_pos hnear, List.modifyHead_modifyHead]
      obtain ⟨s, hs, hfinish⟩ := ih h.2 closed (group ++ [p])
      refine ⟨s, hs, ?_⟩
      rw [hfinish]
      have hfun : (fun piece => group ++ [p] ++ piece) =
          (fun piece : List Timed => group ++ piece) ∘ (fun piece => p :: piece) := by
        funext piece
        exact List.append_assoc _ _ _
      rw [hfun]
    · rw [if_neg hnear, if_neg hnear, List.modifyHead_cons]
      obtain ⟨s, hs, hfinish⟩ := ih h.2 (closed ++ [group ++ [p]]) []
      refine ⟨s, hs, ?_⟩
      have hfun : (fun piece : List Timed => [] ++ piece) = id := rfl
      rw [hfinish, hfun, List.modifyHead_id, List.append_assoc]
      rfl

def sortedRecords (records : List LogRecord) : List Timed :=
  (timedRecords digits records).insertionSort (fun p q => p.1.key ≤ q.1.key)

lemma mem_sortedRecords {records : List LogRecord} {p : Timed} :
    p ∈ sortedRecords digits records ↔ p ∈ timedRecords digits records :=
  List.mem_insertionSort _

lemma pairwise_sortedRecords (records : List LogRecord) :
    (sortedRecords digits records).Pairwise (fun p q => p.1.key ≤ q.1.key) :=
  Sorting.pairwise_insertionSort_key (fun p : Timed => p.1.key) _

theorem buildEpisodes_eq {records : List LogRecord} (device : String) (coverage : Option Coverage)
    (h : ∀ p ∈ timedRecords digits records, p.1.onCalendar true = true) :
    buildEpisodes digits records device coverage = some
      { episodes := episodesOf device ((sortedRecords digits records).splitBy near)
        device := device
        recordsConsidered := records.length
        recordsUnordered := records.countP (fun record => (record.stamp digits).isNone)
        coverage := coverage } := by
  have hchain : (sortedRecords digits records).IsChain
      (fun p q => secondsBetween p.1 q.1 = some (leapGap p q)) := by
    apply List.Pairwise.isChain
    apply (pairwise_sortedRecords digits records).imp_of_mem
    intro p q hp hq hkey
    exact secondsBetween_of_key_le (h p ((mem_sortedRecords digits).mp hp))
      (h q ((mem_sortedRecords digits).mp hq)) hkey
  unfold buildEpisodes
  change ((sortedRecords digits records).foldlM (Scan.step device) {} >>= _) = _
  cases hsorted : sortedRecords digits records with
  | nil => rfl
  | cons p l =>
    rw [hsorted] at hchain
    obtain ⟨s, hs, hfinish⟩ := Scan.foldlM_ofGroups device hchain [] []
    have hstart : Scan.step device {} p = some (Scan.ofGroups device [] ([] ++ [p])) := rfl
    rw [List.foldlM_cons, hstart]
    simp only [Option.bind_eq_bind, Option.bind_some]
    rw [hs]
    have hfun : (fun piece : List Timed => [] ++ piece) = id := rfl
    rw [hfun, List.modifyHead_id, List.nil_append, id_eq] at hfinish
    simp only [Option.bind_some, hfinish]
    rfl

lemma pairBound_le (p q : LogRecord) : (pairBound p q).1 ≤ 180 := by
  have htimer : ∀ record t, timerFor record = some t → t.holdSeconds ≤ 180 := by
    intro record t h
    obtain ⟨facility, -, hfind⟩ := Option.bind_eq_some_iff.mp h
    have hmem := List.mem_of_find?_eq_some hfind
    rw [protocolHoldTimers, List.mem_cons, List.mem_singleton] at hmem
    rcases hmem with rfl | rfl
    · exact le_refl _
    · decide
  have hslower : ∀ t u : ProtocolTimer, t.holdSeconds ≤ 180 → u.holdSeconds ≤ 180 →
      (t.slower u).holdSeconds ≤ 180 := by
    intro t u ht hu
    unfold ProtocolTimer.slower
    split
    · exact hu
    · exact ht
  unfold pairBound
  cases hp : timerFor p with
  | none =>
    cases hq : timerFor q with
    | none => decide
    | some u => exact htimer q u hq
  | some t =>
    cases hq : timerFor q with
    | none => exact htimer p t hp
    | some u => exact hslower t u (htimer p t hp) (htimer q u hq)

end NetTools
