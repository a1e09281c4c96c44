import NetTools.Logs.Episodes

/-!
# Episodes and the true chronology

Given the years in which the records were written, the episodes tell the true chronology exactly
when every timestamp has a date that some calendar has, the records do not cross a new year, and no
two that should be joined stand on either side of the end of a February of 28 days.
-/

namespace NetTools

open Calendar

/-- A record with a valid timestamp, in the year in which it was written. -/
structure Dated where
  record : LogRecord
  stamp : Stamp
  year : Int

namespace Dated

def instant (d : Dated) : Int := d.stamp.instant d.year

def gap (d e : Dated) : ℚ := ((e.instant - d.instant : Int) : ℚ) / 1000

end Dated

def holdBound (r s : LogRecord) : Nat :=
  match (timerFor r).map (·.holdSeconds), (timerFor s).map (·.holdSeconds) with
  | some m, some n => max m n
  | some m, none => m
  | none, some n => n
  | none, none => (protocolHoldTimers.map (·.holdSeconds)).min?.getD 0

def Dated.joined (d e : Dated) : Bool := d.gap e ≤ holdBound d.record e.record

variable (digits : DigitTable)

def LogRecord.validStamp (record : LogRecord) : Option Stamp :=
  (record.stamp digits).filter (·.onCalendar true)

def datedRecords (assigned : List (LogRecord × Int)) : List Dated :=
  assigned.filterMap (fun entry =>
    (entry.1.validStamp digits).map (fun stamp => ⟨entry.1, stamp, entry.2⟩))

/-- Each date is one of its year, and all of them lie within less than half a year. -/
structure WithinHalfYear (dated : List Dated) : Prop where
  onCalendar : ∀ d ∈ dated, d.stamp.onCalendar (isLeap d.year) = true
  close : ∀ d ∈ dated, ∀ e ∈ dated, e.instant - d.instant < halfYear

/-- The episodes hold the dated records in their true order, cut exactly where neighbours are too
far apart, with the true gap of each two neighbours; the other records are counted. -/
def TellsChronology (assigned : List (LogRecord × Int)) (set : EpisodeSet) : Prop :=
  ∃ chronology : List Dated, chronology.Perm (datedRecords digits assigned) ∧
    chronology.Pairwise (fun d e => d.instant ≤ e.instant) ∧
    set.episodes.map (fun e => (e.records, e.joins.map EpisodeJoin.gapSeconds)) =
      (chronology.splitBy Dated.joined).map
        (fun group => (group.map Dated.record, Neighbours.read Dated.gap group)) ∧
    set.recordsUnordered =
      assigned.countP (fun entry => (entry.1.validStamp digits).isNone)

/-- `build_episodes` returns, and what it returns is the chronology. -/
def EpisodesAreChronology (assigned : List (LogRecord × Int)) (device : String)
    (coverage : Option Coverage) : Prop :=
  ∃ set, buildEpisodes digits (assigned.map Prod.fst) device coverage = some set ∧
    TellsChronology digits assigned set

def chronologyOf (dated : List Dated) : List Dated :=
  dated.insertionSort (fun d e => d.instant ≤ e.instant)

def Dated.overFebruary (d e : Dated) : Bool :=
  !isLeap d.year && d.stamp.month ≤ 2 && 2 < e.stamp.month

/-- What has to hold of the records for the code to see their chronology. -/
structure SeenByCode (assigned : List (LogRecord × Int)) : Prop where
  possible : ∀ entry ∈ assigned, ∀ stamp, entry.1.stamp digits = some stamp →
    stamp.onCalendar true = true
  oneYear : ∀ d ∈ datedRecords digits assigned, ∀ e ∈ datedRecords digits assigned,
    d.year = e.year
  february : (chronologyOf (datedRecords digits assigned)).IsChain
    (fun d e => d.overFebruary e = true → d.joined e = false)

lemma pairBound_fst (r s : LogRecord) : (pairBound r s).1 = holdBound r s := by
  unfold pairBound holdBound
  cases timerFor r with
  | none =>
    cases timerFor s with
    | none => decide
    | some u => rfl
  | some t =>
    cases timerFor s with
    | none => rfl
    | some u =>
      change (t.slower u).holdSeconds = max t.holdSeconds u.holdSeconds
      unfold ProtocolTimer.slower
      split <;> omega

def Dated.timed (d : Dated) : Timed := (d.stamp, d.record)

lemma leapGap_timed {d e : Dated} (hd : d.stamp.onCalendar (isLeap d.year) = true)
    (he : e.stamp.onCalendar (isLeap e.year) = true) (hyear : d.year = e.year)
    (hkey : d.stamp.key ≤ e.stamp.key) :
    leapGap d.timed e.timed =
      d.gap e + (if d.overFebruary e = true then 86400 else 0) := by
  have hmonth : d.stamp.month ≤ e.stamp.month := by
    by_contra hmonth
    exact absurd hkey (not_le.mpr (Stamp.key_lt_iff.mpr (.inl (not_le.mp hmonth))))
  rw [← hyear] at he
  have hsub := Stamp.sinceNewYear_sub hd he hmonth
  have hover : d.overFebruary e = true ↔
      isLeap d.year = false ∧ d.stamp.month ≤ 2 ∧ 2 < e.stamp.month := by
    simp only [Dated.overFebruary, Bool.and_eq_true, Bool.not_eq_true', decide_eq_true_eq,
      and_assoc]
  unfold leapGap Dated.gap Dated.instant Dated.timed
  rw [hsub, ← hyear]
  by_cases h : d.overFebruary e = true
  · rw [if_pos h, if_pos (hover.mp h), Calendar.day]
    push_cast
    ring
  · rw [if_neg h, if_neg (fun hcond => h (hover.mpr hcond)), add_zero, add_zero]

lemma near_timed {d e : Dated} (hd : d.stamp.onCalendar (isLeap d.year) = true)
    (he : e.stamp.onCalendar (isLeap e.year) = true) (hyear : d.year = e.year)
    (hkey : d.stamp.key ≤ e.stamp.key) :
    near d.timed e.timed = (d.joined e && !d.overFebruary e) := by
  have hgap := leapGap_timed hd he hyear hkey
  unfold near
  rw [hgap, Dated.timed, Dated.timed, pairBound_fst]
  by_cases h : d.overFebruary e = true
  · have hbound : holdBound d.record e.record ≤ 180 := by
      rw [← pairBound_fst]
      exact pairBound_le _ _
    have hinstant : d.instant ≤ e.instant := by
      unfold Dated.instant
      rw [← hyear] at he ⊢
      exact (Stamp.instant_le_iff hd he).mpr hkey
    have hnonneg : 0 ≤ d.gap e := by
      unfold Dated.gap
      apply div_nonneg
      · exact_mod_cast Int.sub_nonneg_of_le hinstant
      · norm_num
    have hfar : ¬ d.gap e + 86400 ≤ (holdBound d.record e.record : ℚ) := by
      have hbound' : (holdBound d.record e.record : ℚ) ≤ 180 := by exact_mod_cast hbound
      intro hle
      linarith
    rw [if_pos h, h, decide_eq_false hfar]
    simp
  · rw [if_neg h, add_zero, Bool.eq_false_iff.mpr h]
    simp [Dated.joined]

variable {assigned : List (LogRecord × Int)}

lemma mem_datedRecords {d : Dated} : d ∈ datedRecords digits assigned ↔
    (d.record, d.year) ∈ assigned ∧ d.record.validStamp digits = some d.stamp := by
  unfold datedRecords
  rw [List.mem_filterMap]
  constructor
  · rintro ⟨entry, hentry, h⟩
    obtain ⟨stamp, hstamp, rfl⟩ := Option.map_eq_some_iff.mp h
    exact ⟨hentry, hstamp⟩
  · rintro ⟨hentry, hstamp⟩
    exact ⟨_, hentry, by rw [hstamp]; rfl⟩

lemma validStamp_eq {record : LogRecord} (h : ∀ stamp, record.stamp digits = some stamp →
    stamp.onCalendar true = true) : record.validStamp digits = record.stamp digits := by
  unfold LogRecord.validStamp
  cases hstamp : record.stamp digits with
  | none => rfl
  | some stamp => exact Option.filter_some_pos (h stamp hstamp)

lemma timedRecords_assigned (h : ∀ entry ∈ assigned, ∀ stamp,
    entry.1.stamp digits = some stamp → stamp.onCalendar true = true) :
    timedRecords digits (assigned.map Prod.fst) =
      (datedRecords digits assigned).map Dated.timed := by
  unfold timedRecords datedRecords
  rw [List.filterMap_map, List.map_filterMap]
  apply List.filterMap_congr
  intro entry hentry
  rw [validStamp_eq digits (h entry hentry)]
  simp only [Function.comp_apply]
  cases entry.1.stamp digits with
  | none => rfl
  | some stamp => rfl

lemma mem_chronologyOf {dated : List Dated} {d : Dated} : d ∈ chronologyOf dated ↔ d ∈ dated :=
  List.mem_insertionSort _

lemma pairwise_chronologyOf (dated : List Dated) :
    (chronologyOf dated).Pairwise (fun d e => d.instant ≤ e.instant) := by
  have htrans : IsTrans Dated (fun d e => d.instant ≤ e.instant) := ⟨fun _ _ _ => le_trans⟩
  have htotal : Std.Total (fun d e : Dated => d.instant ≤ e.instant) := ⟨fun d e => le_total _ _⟩
  exact List.pairwise_insertionSort _ _

lemma instant_le_iff_of_year_eq {d e : Dated} (hd : d.stamp.onCalendar (isLeap d.year) = true)
    (he : e.stamp.onCalendar (isLeap e.year) = true) (hyear : d.year = e.year) :
    d.instant ≤ e.instant ↔ d.stamp.key ≤ e.stamp.key := by
  unfold Dated.instant
  rw [← hyear] at he ⊢
  exact Stamp.instant_le_iff hd he

section

variable (hpossible : ∀ entry ∈ assigned, ∀ stamp, entry.1.stamp digits = some stamp →
    stamp.onCalendar true = true)
  (hyears : ∀ d ∈ datedRecords digits assigned, ∀ e ∈ datedRecords digits assigned,
    d.year = e.year)
  (hwindow : WithinHalfYear (datedRecords digits assigned))

include hyears hwindow

lemma isChain_chronologyOf : (chronologyOf (datedRecords digits assigned)).IsChain (fun d e =>
    near d.timed e.timed = (d.joined e && !d.overFebruary e) ∧
      leapGap d.timed e.timed = d.gap e + (if d.overFebruary e = true then 86400 else 0)) := by
  apply List.Pairwise.isChain
  apply (pairwise_chronologyOf _).imp_of_mem
  intro d e hd he hle
  rw [mem_chronologyOf] at hd he
  have hd' := hwindow.onCalendar d hd
  have he' := hwindow.onCalendar e he
  have hkey := (instant_le_iff_of_year_eq hd' he' (hyears d hd e he)).mp hle
  exact ⟨near_timed hd' he' (hyears d hd e he) hkey, leapGap_timed hd' he' (hyears d hd e he) hkey⟩

include hpossible

lemma sortedRecords_assigned : sortedRecords digits (assigned.map Prod.fst) =
    (chronologyOf (datedRecords digits assigned)).map Dated.timed := by
  unfold sortedRecords chronologyOf
  rw [timedRecords_assigned digits hpossible]
  refine (List.map_insertionSort _ _ Dated.timed _ ?_).symm
  intro d hd e he
  exact instant_le_iff_of_year_eq (hwindow.onCalendar d hd) (hwindow.onCalendar e he)
    (hyears d hd e he)

lemma buildEpisodes_assigned (device : String) (coverage : Option Coverage) :
    buildEpisodes digits (assigned.map Prod.fst) device coverage = some
      { episodes := episodesOf device (((chronologyOf (datedRecords digits assigned)).splitBy
          (fun d e => near d.timed e.timed)).map (List.map Dated.timed))
        device := device
        recordsConsidered := (assigned.map Prod.fst).length
        recordsUnordered := assigned.countP (fun entry => (entry.1.validStamp digits).isNone)
        coverage := coverage } := by
  have hcalendar : ∀ p ∈ timedRecords digits (assigned.map Prod.fst),
      p.1.onCalendar true = true := by
    rw [timedRecords_assigned digits hpossible]
    intro p hp
    obtain ⟨d, hd, rfl⟩ := List.mem_map.mp hp
    exact Stamp.onCalendar_true (hwindow.onCalendar d hd)
  have hcount : (assigned.map Prod.fst).countP (fun record => (record.stamp digits).isNone) =
      assigned.countP (fun entry => (entry.1.validStamp digits).isNone) := by
    rw [List.countP_map]
    apply List.countP_congr
    intro entry hentry
    rw [validStamp_eq digits (hpossible entry hentry), Function.comp_apply]
  rw [buildEpisodes_eq digits device coverage hcalendar, hcount,
    sortedRecords_assigned digits hpossible hyears hwindow, Neighbours.splitBy_map]

lemma tellsChronology_of_february (device : String) (coverage : Option Coverage)
    (hfebruary : (chronologyOf (datedRecords digits assigned)).IsChain
      (fun d e => d.overFebruary e = true → d.joined e = false)) :
    EpisodesAreChronology digits assigned device coverage := by
  refine ⟨_, buildEpisodes_assigned digits hpossible hyears hwindow device coverage,
    chronologyOf (datedRecords digits assigned), List.perm_insertionSort _ _,
    pairwise_chronologyOf _, ?_, rfl⟩
  have hneighbours := Neighbours.isChain_and (isChain_chronologyOf digits hyears hwindow) hfebruary
  have hcut : (chronologyOf (datedRecords digits assigned)).splitBy
      (fun d e => near d.timed e.timed) =
        (chronologyOf (datedRecords digits assigned)).splitBy Dated.joined := by
    apply Neighbours.splitBy_congr
    apply hneighbours.imp
    rintro d e ⟨⟨hnear, -⟩, hover⟩
    rw [hnear]
    by_cases h : d.overFebruary e = true
    · rw [hover h, Bool.false_and]
    · rw [Bool.eq_false_iff.mpr h]
      exact Bool.and_true _
  rw [hcut, map_episodesOf device _
    (fun group => (group.map Prod.snd, (Neighbours.read joinOf group).map EpisodeJoin.gapSeconds))
    (fun group index => rfl), List.map_map]
  apply List.map_congr_left
  intro group hgroup
  have hgaps : group.IsChain (fun d e => leapGap d.timed e.timed = d.gap e) := by
    have hjoined : group.IsChain (fun d e => d.joined e = true) :=
      List.isChain_of_mem_splitBy hgroup
    have hgroup' := Neighbours.isChain_of_mem_splitBy hneighbours hgroup
    apply (Neighbours.isChain_and hjoined hgroup').imp
    rintro d e ⟨hjoin, ⟨-, hgap⟩, hover⟩
    rw [hgap, if_neg, add_zero]
    intro h
    rw [hover h] at hjoin
    cases hjoin
  rw [Function.comp_apply, List.map_map, Neighbours.map_read, Neighbours.read_map]
  exact congrArg₂ Prod.mk rfl (Neighbours.read_congr hgaps)

end

lemma recordsUnordered_of_buildEpisodes {records : List LogRecord} {device : String}
    {coverage : Option Coverage} {set : EpisodeSet}
    (h : buildEpisodes digits records device coverage = some set) :
    set.recordsUnordered = records.countP (fun record => (record.stamp digits).isNone) := by
  unfold buildEpisodes at h
  simp only [Option.bind_eq_bind, Option.bind_eq_some_iff] at h
  obtain ⟨s, -, hset⟩ := h
  cases hset
  rfl

lemma possible_of_tellsChronology {device : String} {coverage : Option Coverage} {set : EpisodeSet}
    (hset : buildEpisodes digits (assigned.map Prod.fst) device coverage = some set)
    (hcount : set.recordsUnordered =
      assigned.countP (fun entry => (entry.1.validStamp digits).isNone)) :
    ∀ entry ∈ assigned, ∀ stamp, entry.1.stamp digits = some stamp →
      stamp.onCalendar true = true := by
  intro entry hentry stamp hstamp
  rw [recordsUnordered_of_buildEpisodes digits hset, List.countP_map] at hcount
  by_contra hcalendar
  obtain ⟨front, back, rfl⟩ := List.append_of_mem hentry
  have hless : ∀ l : List (LogRecord × Int),
      l.countP ((fun record => (record.stamp digits).isNone) ∘ Prod.fst) ≤
        l.countP (fun entry => (entry.1.validStamp digits).isNone) := by
    intro l
    apply List.countP_mono_left
    intro entry _ hnone
    rw [Function.comp_apply, Option.isNone_iff_eq_none] at hnone
    rw [LogRecord.validStamp, hnone]
    rfl
  have hfront := hless front
  have hback := hless back
  have hinvalid : entry.1.validStamp digits = none := by
    rw [LogRecord.validStamp, hstamp]
    exact Option.filter_some_neg (Bool.not_eq_true _ ▸ hcalendar)
  rw [List.countP_append, List.countP_append, List.countP_cons, List.countP_cons,
    Function.comp_apply, hstamp, hinvalid] at hcount
  simp only [Option.isNone_some, Option.isNone_none, Bool.false_eq_true, if_false, if_true]
    at hcount
  omega

lemma records_of_buildEpisodes (hpossible : ∀ entry ∈ assigned, ∀ stamp,
    entry.1.stamp digits = some stamp → stamp.onCalendar true = true)
    (hwindow : WithinHalfYear (datedRecords digits assigned)) {device : String}
    {coverage : Option Coverage} {set : EpisodeSet}
    (hset : buildEpisodes digits (assigned.map Prod.fst) device coverage = some set) :
    set.episodes.map Episode.records =
      ((sortedRecords digits (assigned.map Prod.fst)).splitBy near).map (List.map Prod.snd) := by
  have hcalendar : ∀ p ∈ timedRecords digits (assigned.map Prod.fst),
      p.1.onCalendar true = true := by
    rw [timedRecords_assigned digits hpossible]
    intro p hp
    obtain ⟨d, hd, rfl⟩ := List.mem_map.mp hp
    exact Stamp.onCalendar_true (hwindow.onCalendar d hd)
  rw [buildEpisodes_eq digits device coverage hcalendar] at hset
  cases hset
  exact map_episodesOf device _ _ (fun group index => rfl) _

lemma year_eq_of_pairwise {chronology : List Dated} (hwindow : WithinHalfYear chronology)
    (h : chronology.Pairwise (fun d e => d.instant ≤ e.instant ∧ d.stamp.key ≤ e.stamp.key)) :
    ∀ d ∈ chronology, ∀ e ∈ chronology, d.year = e.year := by
  have hnot : ∀ d ∈ chronology, ∀ e ∈ chronology, ¬ d.year < e.year := by
    intro d hd e he hyear
    have hd' := hwindow.onCalendar d hd
    have he' := hwindow.onCalendar e he
    obtain ⟨front, back, rfl⟩ := List.append_of_mem hd
    rw [List.pairwise_append, List.pairwise_cons] at h
    rcases List.mem_append.mp he with hfront | hback
    · have horder := (h.2.2 e hfront d List.mem_cons_self).1
      have hlater : d.instant < e.instant := Stamp.instant_lt_of_year_lt hd' he' hyear
      omega
    · rcases List.mem_cons.mp hback with rfl | hback
      · exact lt_irrefl _ hyear
      · have hkey := (h.2.1.1 e hback).2
        have hfar : halfYear < e.instant - d.instant :=
          Stamp.halfYear_lt_of_key_le hd' he' hyear hkey
        have hclose := hwindow.close d hd e he
        omega
  intro d hd e he
  have hleft := hnot d hd e he
  have hright := hnot e he d hd
  omega

lemma pairwise_key_of_records (hpossible : ∀ entry ∈ assigned, ∀ stamp,
    entry.1.stamp digits = some stamp → stamp.onCalendar true = true)
    {chronology : List Dated} (hperm : chronology.Perm (datedRecords digits assigned))
    (hrecords : chronology.map Dated.record =
      (sortedRecords digits (assigned.map Prod.fst)).map Prod.snd) :
    chronology.Pairwise (fun d e => d.stamp.key ≤ e.stamp.key) := by
  have hsorted := pairwise_sortedRecords digits (assigned.map Prod.fst)
  have hread : ((sortedRecords digits (assigned.map Prod.fst)).map Prod.snd).Pairwise
      (fun r s => ∀ a b, r.validStamp digits = some a → s.validStamp digits = some b →
        a.key ≤ b.key) := by
    rw [List.pairwise_map]
    apply hsorted.imp_of_mem
    intro p q hp hq hkey a b ha hb
    have hstamp : ∀ p ∈ sortedRecords digits (assigned.map Prod.fst),
        p.2.validStamp digits = some p.1 := by
      intro p hp
      rw [mem_sortedRecords, timedRecords_assigned digits hpossible] at hp
      obtain ⟨d, hd, rfl⟩ := List.mem_map.mp hp
      exact ((mem_datedRecords digits).mp hd).2
    rw [hstamp p hp, Option.some.injEq] at ha
    rw [hstamp q hq, Option.some.injEq] at hb
    rw [← ha, ← hb]
    exact hkey
  rw [← hrecords, List.pairwise_map] at hread
  apply hread.imp_of_mem
  intro d e hd he h
  exact h _ _ ((mem_datedRecords digits).mp (hperm.mem_iff.mp hd)).2
    ((mem_datedRecords digits).mp (hperm.mem_iff.mp he)).2

lemma eq_of_record_eq (hyears : ∀ d ∈ datedRecords digits assigned,
    ∀ e ∈ datedRecords digits assigned, d.year = e.year) {d e : Dated}
    (hd : d ∈ datedRecords digits assigned) (he : e ∈ datedRecords digits assigned)
    (hrecord : d.record = e.record) : d = e := by
  have hd' := ((mem_datedRecords digits).mp hd).2
  have he' := ((mem_datedRecords digits).mp he).2
  rw [hrecord, he', Option.some.injEq] at hd'
  have hyear := hyears d hd e he
  cases d
  cases e
  simp only at hrecord hd' hyear
  rw [hrecord, hd', hyear]

lemma splitBy_eq_of_records (hyears : ∀ d ∈ datedRecords digits assigned,
    ∀ e ∈ datedRecords digits assigned, d.year = e.year) {l : List Dated}
    (hl : ∀ d ∈ l, d ∈ datedRecords digits assigned) {r r' : Dated → Dated → Bool}
    (h : (l.splitBy r).map (List.map Dated.record) = (l.splitBy r').map (List.map Dated.record)) :
    l.splitBy r = l.splitBy r' := by
  have hin : ∀ (r : Dated → Dated → Bool), ∀ piece ∈ l.splitBy r, ∀ d ∈ piece,
      d ∈ datedRecords digits assigned := by
    intro r piece hpiece d hd
    apply hl
    rw [← List.flatten_splitBy r l]
    exact List.mem_flatten.mpr ⟨piece, hpiece, hd⟩
  apply Neighbours.eq_of_map_eq _ h
  intro piece hpiece piece' hpiece' heq
  apply Neighbours.eq_of_map_eq _ heq
  intro d hd e he hrecord
  exact eq_of_record_eq digits hyears (hin r piece hpiece d hd) (hin r' piece' hpiece' e he) hrecord

lemma pieces_of_episodes (hpossible : ∀ entry ∈ assigned, ∀ stamp,
    entry.1.stamp digits = some stamp → stamp.onCalendar true = true)
    (hwindow : WithinHalfYear (datedRecords digits assigned)) {device : String}
    {coverage : Option Coverage} {set : EpisodeSet} {chronology : List Dated}
    (hset : buildEpisodes digits (assigned.map Prod.fst) device coverage = some set)
    (hepisodes : set.episodes.map (fun e => (e.records, e.joins.map EpisodeJoin.gapSeconds)) =
      (chronology.splitBy Dated.joined).map
        (fun group => (group.map Dated.record, Neighbours.read Dated.gap group))) :
    ((sortedRecords digits (assigned.map Prod.fst)).splitBy near).map (List.map Prod.snd) =
      (chronology.splitBy Dated.joined).map (List.map Dated.record) := by
  have hfirst := congrArg (List.map Prod.fst) hepisodes
  rw [List.map_map, List.map_map] at hfirst
  rw [← records_of_buildEpisodes digits hpossible hwindow hset]
  exact hfirst

lemma records_of_pieces {chronology : List Dated} {sorted : List Timed}
    (h : (sorted.splitBy near).map (List.map Prod.snd) =
      (chronology.splitBy Dated.joined).map (List.map Dated.record)) :
    chronology.map Dated.record = sorted.map Prod.snd := by
  have hflat := congrArg List.flatten h
  rw [← List.map_flatten, ← List.map_flatten, List.flatten_splitBy, List.flatten_splitBy] at hflat
  exact hflat.symm

lemma oneYear_of_episodesAreChronology {device : String} {coverage : Option Coverage}
    (hwindow : WithinHalfYear (datedRecords digits assigned))
    (h : EpisodesAreChronology digits assigned device coverage) :
    ∀ d ∈ datedRecords digits assigned, ∀ e ∈ datedRecords digits assigned, d.year = e.year := by
  obtain ⟨set, hset, chronology, hperm, hordered, hepisodes, hcount⟩ := h
  have hpossible := possible_of_tellsChronology digits hset hcount
  have hrecords := records_of_pieces (pieces_of_episodes digits hpossible hwindow hset hepisodes)
  have hkeys := pairwise_key_of_records digits hpossible hperm hrecords
  have hmem : ∀ d ∈ chronology, d ∈ datedRecords digits assigned := fun d hd =>
    hperm.mem_iff.mp hd
  have hwindow' : WithinHalfYear chronology :=
    ⟨fun d hd => hwindow.onCalendar d (hmem d hd),
      fun d hd e he => hwindow.close d (hmem d hd) e (hmem e he)⟩
  have hyears := year_eq_of_pairwise hwindow' (hordered.and hkeys)
  intro d hd e he
  exact hyears d (hperm.mem_iff.mpr hd) e (hperm.mem_iff.mpr he)

/-- The episodes tell the true chronology exactly when every timestamp that is read is a date, the
records are of one year, and none that should be joined stand on both sides of the end of a
February of 28 days. -/
theorem episodesAreChronology_iff (assigned : List (LogRecord × Int)) (device : String)
    (coverage : Option Coverage) (hwindow : WithinHalfYear (datedRecords digits assigned)) :
    EpisodesAreChronology digits assigned device coverage ↔ SeenByCode digits assigned := by
  constructor
  · intro h
    have hyears := oneYear_of_episodesAreChronology digits hwindow h
    obtain ⟨set, hset, chronology, hperm, hordered, hepisodes, hcount⟩ := h
    have hpossible := possible_of_tellsChronology digits hset hcount
    have hpieces := pieces_of_episodes digits hpossible hwindow hset hepisodes
    have hrecords := records_of_pieces hpieces
    rw [sortedRecords_assigned digits hpossible hyears hwindow] at hpieces hrecords
    have hchronology : chronology = chronologyOf (datedRecords digits assigned) := by
      rw [List.map_map] at hrecords
      apply Neighbours.eq_of_map_eq _ hrecords
      intro d hd e he hrecord
      exact eq_of_record_eq digits hyears (hperm.mem_iff.mp hd) (mem_chronologyOf.mp he) hrecord
    refine ⟨hpossible, hyears, ?_⟩
    have hread : List.map Prod.snd ∘ List.map Dated.timed = List.map Dated.record := by
      funext piece
      exact List.map_map
    rw [hchronology, Neighbours.splitBy_map, List.map_map, hread] at hpieces
    have hcut := splitBy_eq_of_records digits hyears (fun d hd => mem_chronologyOf.mp hd) hpieces
    have hagree := Neighbours.isChain_of_splitBy_eq hcut
    apply (Neighbours.isChain_and hagree (isChain_chronologyOf digits hyears hwindow)).imp
    rintro d e ⟨hsame, hnear, -⟩ hover
    rw [hsame, hover, Bool.not_true, Bool.and_false] at hnear
    exact hnear
  · intro hseen
    exact tellsChronology_of_february digits hseen.possible hseen.oneYear hwindow device coverage
      hseen.february

def linkDown : LogRecord where
  timestamp := some "Aug 16 07:41:54.748 UTC"
  facility := some "PKT_INFRA-LINK"

def bgpDown : LogRecord where
  timestamp := some "Aug 16 07:44:28.097 UTC"
  facility := some "ROUTING-BGP"

lemma datedRecords_pair {r s : LogRecord} {a b : Stamp} (hr : r.validStamp digits = some a)
    (hs : s.validStamp digits = some b) (year year' : Int) :
    datedRecords digits [(r, year), (s, year')] = [⟨r, a, year⟩, ⟨s, b, year'⟩] := by
  rw [datedRecords, List.filterMap_cons, List.filterMap_cons, List.filterMap_nil, hr, hs]
  rfl

/-- The captured minutes between a link and its session are one episode. -/
theorem episodesAreChronology_broken :
    EpisodesAreChronology DigitTable.ascii [(linkDown, 2026), (bgpDown, 2026)] "PE2" none := by
  have hlink : linkDown.validStamp DigitTable.ascii = some ⟨8, 16, 7, 41, 54, 748⟩ := by
    decide +kernel
  have hbgp : bgpDown.validStamp DigitTable.ascii = some ⟨8, 16, 7, 44, 28, 97⟩ := by
    decide +kernel
  have hdated := datedRecords_pair DigitTable.ascii hlink hbgp 2026 2026
  have hall : ∀ d ∈ datedRecords DigitTable.ascii [(linkDown, 2026), (bgpDown, 2026)],
      d.stamp.onCalendar (isLeap d.year) = true ∧ d.year = 2026 ∧ d.stamp.month = 8 := by
    rw [hdated]
    simp only [List.forall_mem_cons, List.not_mem_nil, false_imp_iff, implies_true, and_true]
    decide +kernel
  rw [episodesAreChronology_iff]
  · refine ⟨?_, ?_, ?_⟩
    · simp only [List.forall_mem_cons, List.not_mem_nil, false_imp_iff, implies_true, and_true]
      have hread : ∀ r ∈ [linkDown, bgpDown],
          (r.stamp DigitTable.ascii).all (·.onCalendar true) = true := by
        simp only [List.forall_mem_cons, List.not_mem_nil, false_imp_iff, implies_true, and_true]
        decide +kernel
      refine ⟨fun stamp hstamp => ?_, fun stamp hstamp => ?_⟩
      · have h := hread linkDown (by simp)
        rw [hstamp] at h
        exact h
      · have h := hread bgpDown (by simp)
        rw [hstamp] at h
        exact h
    · intro d hd e he
      rw [(hall d hd).2.1, (hall e he).2.1]
    · apply List.Pairwise.isChain
      apply (pairwise_chronologyOf _).imp_of_mem
      intro d e hd _ _ hover
      have hmonth := (hall d (mem_chronologyOf.mp hd)).2.2
      rw [Dated.overFebruary, hmonth] at hover
      simp at hover
  · refine ⟨fun d hd => (hall d hd).1, ?_⟩
    rw [hdated]
    simp only [List.forall_mem_cons, List.not_mem_nil, false_imp_iff, implies_true, and_true]
    decide +kernel

def lastOfDecember : LogRecord where
  timestamp := some "Dec 31 23:59:59.000 UTC"

def firstOfJanuary : LogRecord where
  timestamp := some "Jan  1 00:00:01.000 UTC"

/-- Two seconds over the new year are told the wrong way round. -/
theorem not_episodesAreChronology_newYear :
    ¬ ∀ (digits : DigitTable) (assigned : List (LogRecord × Int)) (device : String)
      (coverage : Option Coverage), WithinHalfYear (datedRecords digits assigned) →
        EpisodesAreChronology digits assigned device coverage := by
  intro h
  have hdecember : lastOfDecember.validStamp DigitTable.ascii = some ⟨12, 31, 23, 59, 59, 0⟩ := by
    decide +kernel
  have hjanuary : firstOfJanuary.validStamp DigitTable.ascii = some ⟨1, 1, 0, 0, 1, 0⟩ := by
    decide +kernel
  have hdated := datedRecords_pair DigitTable.ascii hdecember hjanuary 2025 2026
  have hwindow : WithinHalfYear (datedRecords DigitTable.ascii
      [(lastOfDecember, 2025), (firstOfJanuary, 2026)]) := by
    rw [hdated]
    refine ⟨?_, ?_⟩
    · simp only [List.forall_mem_cons, List.not_mem_nil, false_imp_iff, implies_true, and_true]
      decide +kernel
    · simp only [List.forall_mem_cons, List.not_mem_nil, false_imp_iff, implies_true, and_true]
      decide +kernel
  have hyears := oneYear_of_episodesAreChronology DigitTable.ascii hwindow
    (h DigitTable.ascii _ "PE2" none hwindow)
  rw [hdated] at hyears
  have hsame := hyears _ List.mem_cons_self _ (List.mem_cons_of_mem _ List.mem_cons_self)
  exact absurd hsame (by decide)

end NetTools
