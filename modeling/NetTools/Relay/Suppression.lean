import NetTools.Library.Runs
import NetTools.Relay.Policy

/-!
# What is suppressed has been sent

The state file is compared with a log of what was really sent. As long as every send is recorded,
the file says no more than the log, and a call that it suppresses repeats the last send.
-/

namespace NetTools

namespace Relay

open Metrics (Json)

/-! ### Runs -/

structure Sent where
  device : String
  subject : String
  finding : String
  rung : Option String
  time : Datetime

structure World where
  content : Content
  log : List Sent

def RelayCall.send (call : RelayCall) : Sent :=
  ⟨call.device, call.subject, call.finding, call.rung, call.now⟩

def Sent.isAbout (s : Sent) (device subject : String) : Bool :=
  s.device == device && s.subject == subject

def Sent.SameAs (s : Sent) (call : RelayCall) : Prop :=
  s.finding = call.finding ∧ s.rung = call.rung

variable (R : Runtime)

def World.step (w : World) (call : RelayCall) : World where
  content := (relay R w.content call).1
  log := if (relay R w.content call).2.delivered then w.log ++ [call.send] else w.log

def World.outcome (w : World) (call : RelayCall) : Except Raised (Decision × Option Dedup) :=
  (relay R w.content call).2.outcome

def lastSend (log : List Sent) (device subject : String) : Option Sent :=
  (log.filter (fun s => s.isAbout device subject)).getLast?

def Usable (content : Content) (call : RelayCall) : Prop :=
  ∃ state prior time, content = .object state ∧
    state.lookup (dedupKey call.device call.subject) = some (.dict prior) ∧
    R.fromisoformat (R.str (fieldOf prior "last_notified_at")) = some time

structure Sound (w : World) (call : RelayCall) : Prop where
  returns : ∃ result, w.outcome R call = .ok result
  repeats : ∀ dedup, w.outcome R call = .ok (.suppressed, dedup) →
    ∃ before s after, w.log = before ++ s :: after ∧
      s.isAbout call.device call.subject = true ∧ s.SameAs call ∧
      s.time.micros ≤ call.now.micros ∧
      isInside (call.now.secondsSince s.time) call.windowSeconds = true ∧
      ∀ s' ∈ after, s'.isAbout call.device call.subject = true → s'.SameAs call
  changed : ∀ s dedup, lastSend w.log call.device call.subject = some s → ¬ s.SameAs call →
    w.outcome R call ≠ .ok (.suppressed, dedup)
  unusable : ∀ dedup, ¬ Usable R w.content call → w.outcome R call ≠ .ok (.suppressed, dedup)

/-- The name does not hold the character that separates a device from its subject. -/
def Plain (device : String) : Prop := '\x1f' ∉ device.toList

instance (device : String) : Decidable (Plain device) :=
  inferInstanceAs (Decidable ('\x1f' ∉ device.toList))

/-- The file can be loaded, its integers can be printed, its counts are numbers, and each record
that can be read is about the last send of its device and subject. -/
structure Remembers (content : Content) (log : List Sent) : Prop where
  loads : ∃ loaded, loadState content = .ok loaded
  fits : ∀ state, content = .object state → (Json.dict state).fits = true
  counts : ∀ state key prior, content = .object state → state.lookup key = some (.dict prior) →
    ∃ n, priorCount R prior = .ok n
  sends : ∀ state device subject prior finding rung time, content = .object state →
    Plain device → state.lookup (dedupKey device subject) = some (.dict prior) →
    sameSignature finding rung (fieldOf prior "signature") = true →
    R.fromisoformat (R.str (fieldOf prior "last_notified_at")) = some time →
    ∃ s, lastSend log device subject = some s ∧ s.finding = finding ∧ s.rung = rung ∧ s.time = time

/-- A call whose clock is not behind, and that leaves a record of what it sends: the count stays
short enough to be printed, and nothing nests too deeply. -/
structure Recorded (w : World) (call : RelayCall) : Prop where
  plain : Plain call.device
  clock : ∀ s ∈ w.log, s.time.micros ≤ call.now.micros
  reads : R.fromisoformat call.now.isoformat = some call.now
  recorded : summarize call.deliveries = .sent →
    call.dedupEnabled = true ∧ call.disk = .written
  count : ∀ state readable n, loadState w.content = .ok (state, readable) →
    priorCount R (priorOf state (dedupKey call.device call.subject)) = .ok n →
    intFits (n + 1) = true ∧ R.tooDeepToDump (Relay.recorded state call.device call.subject
      call.finding call.rung call.now (n + 1)) = none
  shallow : ∀ state prior, w.content = .object state →
    state.lookup (dedupKey call.device call.subject) = some (.dict prior) →
    R.tooDeep (fieldOf prior "signature") = none ∧
      R.tooDeep (fieldOf prior "last_notified_at") = none

variable {R} {w : World} {call : RelayCall} {content : Content} {log : List Sent}

lemma dedupKey_injective {device device' subject subject' : String} (h : Plain device)
    (h' : Plain device') (hkey : dedupKey device subject = dedupKey device' subject') :
    device = device' ∧ subject = subject' := by
  have htake : ∀ (d s : List Char), '\x1f' ∉ d →
      (d ++ '\x1f' :: s).takeWhile (· ≠ '\x1f') = d ∧
        (d ++ '\x1f' :: s).dropWhile (· ≠ '\x1f') = '\x1f' :: s := by
    intro d s hd
    have hall : ∀ c ∈ d, decide (c ≠ '\x1f') = true := by
      intro c hc
      rw [decide_eq_true_eq]
      rintro rfl
      exact hd hc
    rw [List.takeWhile_append_of_pos hall, List.dropWhile_append_of_pos hall]
    simp
  have hlists := congrArg String.toList hkey
  have hsep : "\x1f".toList = ['\x1f'] := rfl
  simp only [dedupKey, String.toList_append, hsep, List.append_assoc, List.singleton_append]
    at hlists
  have hleft := htake _ subject.toList h
  have hright := htake _ subject'.toList h'
  rw [hlists] at hleft
  have hdevice := hleft.1.symm.trans hright.1
  have hsubject := hleft.2.symm.trans hright.2
  rw [List.cons.injEq] at hsubject
  exact ⟨String.toList_injective hdevice, String.toList_injective hsubject.2⟩

lemma sameSignature_signatureOf {finding finding' : String} {rung rung' : Option String} :
    sameSignature finding rung (signatureOf finding' rung') = true ↔
      finding' = finding ∧ rung' = rung := by
  cases rung' with
  | none =>
    cases rung <;> simp [sameSignature, signatureOf]
  | some text =>
    simp only [sameSignature, signatureOf, Option.map_some, Option.getD_some, Bool.and_eq_true,
      beq_iff_eq]
    exact and_congr_right (fun _ => eq_comm)

/-- A window is a double, so that rounding an age does not bring it inside. -/
lemma isInside_of_round {age : ℚ} {window : PyFloat}
    (hdouble : ∀ q, window = .finite q → Double.round q = q)
    (h : isInside (Double.round age) window = true) : isInside age window = true := by
  cases window with
  | finite q =>
    rw [isInside, decide_eq_true_eq] at h ⊢
    by_contra hle
    have hround := Double.round_monotone (not_lt.mp hle)
    rw [hdouble q rfl] at hround
    exact absurd h (not_lt.mpr hround)
  | inf negative => exact h
  | nan => exact h

lemma evaluateDedup_spec {device subject finding : String} {rung : Option String}
    {windowSeconds : PyFloat} {now : Datetime} (hloads : ∃ loaded, loadState content = .ok loaded)
    (hdouble : ∀ q, windowSeconds = .finite q → Double.round q = q)
    (hshallow : ∀ state prior, content = .object state →
      state.lookup (dedupKey device subject) = some (.dict prior) →
      R.tooDeep (fieldOf prior "signature") = none ∧
        R.tooDeep (fieldOf prior "last_notified_at") = none) :
    ∃ dedup, evaluateDedup R device subject finding rung (some content) windowSeconds now =
        .ok dedup ∧
      (dedup.suppressed = true → ∃ state prior time, content = .object state ∧
        state.lookup (dedupKey device subject) = some (.dict prior) ∧
        sameSignature finding rung (fieldOf prior "signature") = true ∧
        R.fromisoformat (R.str (fieldOf prior "last_notified_at")) = some time ∧
        isInside (now.secondsSince time) windowSeconds = true) := by
  obtain ⟨⟨state, readable⟩, hload⟩ := hloads
  unfold evaluateDedup
  simp only [hload]
  split
  · rename_i prior hprior
    have hcontent : content = .object state := by
      cases content with
      | object state' =>
        cases hload
        rfl
      | missing | unsearchable | unreadable | notUtf8 | blank | malformed | unloadable |
          notObject =>
        cases hload
        try cases hprior
    obtain ⟨hsignature, hstamp⟩ := hshallow state prior hcontent hprior
    simp only [hsignature, hstamp]
    split
    · exact ⟨_, rfl, fun h => (by cases h)⟩
    · rename_i hsame
      rw [Bool.not_eq_true, Bool.not_eq_false'] at hsame
      split
      · exact ⟨_, rfl, fun h => (by cases h)⟩
      · rename_i time htime
        by_cases hage : isInside (Double.round (now.secondsSince time)) windowSeconds = true
        · rw [if_pos hage]
          exact ⟨_, rfl, fun _ => ⟨state, prior, time, hcontent, hprior, hsame, htime,
            isInside_of_round hdouble hage⟩⟩
        · rw [if_neg hage]
          exact ⟨_, rfl, fun h => (by cases h)⟩
  · exact ⟨_, rfl, fun h => (by cases h)⟩

lemma fits_assign {state : JsonObject} {key : String} {value : Json}
    (h : (Json.dict state).fits = true) (hvalue : value.fits = true) :
    (Json.dict (LastRow.assign state key value)).fits = true := by
  rw [Json.fits] at h ⊢
  induction state with
  | nil => rw [LastRow.assign, Json.entriesFit, hvalue, Json.entriesFit, Bool.and_true]
  | cons entry state ih =>
    obtain ⟨key', value'⟩ := entry
    rw [Json.entriesFit, Bool.and_eq_true] at h
    rw [LastRow.assign]
    split
    · rw [Json.entriesFit, hvalue, h.2, Bool.and_true]
    · rw [Json.entriesFit, h.1, ih h.2, Bool.and_true]

lemma fits_recordOf {device subject finding : String} {rung : Option String} {now : Datetime}
    {count : Int} (h : intFits count = true) :
    (Json.dict (recordOf device subject finding rung now count)).fits = true := by
  cases rung <;> simp [recordOf, signatureOf, Json.fits, Json.entriesFit, Json.itemsFit, h]

lemma recordNotification_spec (hmemory : Remembers R w.content w.log) (hcall : Recorded R w call) :
    ∃ state count, recordNotification R call.device call.subject call.finding call.rung w.content
        .written call.now =
        .ok (.object (recorded state call.device call.subject call.finding call.rung call.now
          count), true) ∧
      (state = [] ∨ w.content = .object state) ∧
      (Json.dict (recorded state call.device call.subject call.finding call.rung call.now
        count)).fits = true := by
  obtain ⟨⟨state, readable⟩, hload⟩ := hmemory.loads
  have hstate : state = [] ∨ w.content = .object state := by
    cases hcontent : w.content with
    | object state' =>
      rw [hcontent] at hload
      cases hload
      exact .inr rfl
    | missing | unsearchable | unreadable | notUtf8 | blank | malformed | unloadable | notObject =>
      rw [hcontent] at hload
      cases hload
      try exact .inl rfl
  have hcount : ∃ n, priorCount R (priorOf state (dedupKey call.device call.subject)) =
      .ok n := by
    unfold priorOf
    split
    · rename_i prior hprior
      rcases hstate with hnil | hobject
      · rw [hnil] at hprior
        cases hprior
      · exact hmemory.counts state _ prior hobject hprior
    · exact ⟨0, rfl⟩
  obtain ⟨n, hn⟩ := hcount
  obtain ⟨hfits, hdeep⟩ := hcall.count state readable n hload hn
  have hbefore : (Json.dict state).fits = true := by
    rcases hstate with hnil | hobject
    · rw [hnil, Json.fits]
      rfl
    · exact hmemory.fits state hobject
  have hafter : (Json.dict (recorded state call.device call.subject call.finding call.rung
      call.now (n + 1))).fits = true := fits_assign hbefore (fits_recordOf hfits)
  have hdumps : dumpsRaises R (recorded state call.device call.subject call.finding call.rung
      call.now (n + 1)) = none := by
    rw [dumpsRaises, if_pos hafter, hdeep]
  refine ⟨state, n + 1, ?_, hstate, hafter⟩
  unfold recordNotification
  simp only [hload, hn, saveState, hdumps, Option.elim_none, if_true]

lemma lastSend_append_self {s : Sent} {device subject : String}
    (h : s.isAbout device subject = true) : lastSend (log ++ [s]) device subject = some s := by
  simp [lastSend, h]

lemma lastSend_append_other {s : Sent} {device subject : String}
    (h : s.isAbout device subject = false) :
    lastSend (log ++ [s]) device subject = lastSend log device subject := by
  simp [lastSend, h]

lemma split_lastSend {s : Sent} {device subject : String}
    (h : lastSend log device subject = some s) :
    s.isAbout device subject = true ∧ ∃ before after, log = before ++ s :: after ∧
      ∀ s' ∈ after, s'.isAbout device subject = false := by
  induction log using List.reverseRecOn with
  | nil => cases h
  | append_singleton log last ih =>
    by_cases hlast : last.isAbout device subject = true
    · rw [lastSend_append_self hlast] at h
      cases h
      exact ⟨hlast, log, [], rfl, fun _ hs => (by cases hs)⟩
    · rw [Bool.not_eq_true] at hlast
      rw [lastSend_append_other hlast] at h
      obtain ⟨habout, before, after, rfl, hafter⟩ := ih h
      refine ⟨habout, before, after ++ [last], by simp, ?_⟩
      intro s' hs'
      rcases List.mem_append.mp hs' with hs' | hs'
      · exact hafter s' hs'
      · rw [List.mem_singleton.mp hs']
        exact hlast

lemma Remembers.send {state : JsonObject} {count : Int} (hmemory : Remembers R content log)
    (hstate : state = [] ∨ content = .object state) (hplain : Plain call.device)
    (hreads : R.fromisoformat call.now.isoformat = some call.now)
    (hfits : (Json.dict (recorded state call.device call.subject call.finding call.rung call.now
      count)).fits = true) :
    Remembers R (.object (recorded state call.device call.subject call.finding call.rung call.now
      count)) (log ++ [call.send]) := by
  constructor
  · exact ⟨_, rfl⟩
  · rintro _ ⟨⟩
    exact hfits
  · rintro _ key prior ⟨⟩ hprior
    rw [recorded, LastRow.lookup_assign] at hprior
    split at hprior
    · cases hprior
      exact ⟨count, rfl⟩
    · rcases hstate with hnil | hobject
      · rw [hnil] at hprior
        cases hprior
      · exact hmemory.counts state key prior hobject hprior
  · rintro _ device subject prior finding rung time ⟨⟩ hdevice hprior hsame htime
    rw [recorded, LastRow.lookup_assign] at hprior
    split at hprior
    · rename_i hkey
      obtain ⟨rfl, rfl⟩ := dedupKey_injective hdevice hplain hkey
      cases hprior
      have hsignature : fieldOf (recordOf call.device call.subject call.finding call.rung call.now
          count) "signature" = signatureOf call.finding call.rung := rfl
      have hstamp : fieldOf (recordOf call.device call.subject call.finding call.rung call.now
          count) "last_notified_at" = .str call.now.isoformat := rfl
      rw [hsignature, sameSignature_signatureOf] at hsame
      rw [hstamp, R.str_str, hreads] at htime
      cases htime
      refine ⟨call.send, lastSend_append_self ?_, hsame.1, hsame.2, rfl⟩
      simp [Sent.isAbout, RelayCall.send]
    · rename_i hkey
      have hother : call.send.isAbout device subject = false := by
        rw [Bool.eq_false_iff]
        intro habout
        simp only [Sent.isAbout, RelayCall.send, Bool.and_eq_true, beq_iff_eq] at habout
        rw [← habout.1, ← habout.2] at hkey
        exact hkey rfl
      rw [lastSend_append_other hother]
      rcases hstate with hnil | hobject
      · rw [hnil] at hprior
        cases hprior
      · exact hmemory.sends state device subject prior finding rung time hobject hdevice hprior
          hsame htime

lemma summarize_ne_suppressed (deliveries : List Delivery) :
    summarize deliveries ≠ .suppressed := by
  unfold summarize
  split
  · decide
  · split
    · decide
    · decide

lemma relay_cases (hmemory : Remembers R w.content w.log) (hcall : Recorded R w call) :
    ∃ decision dedup, w.outcome R call = .ok (decision, dedup) ∧
      (decision = .suppressed → ∃ state prior time, w.content = .object state ∧
        state.lookup (dedupKey call.device call.subject) = some (.dict prior) ∧
        sameSignature call.finding call.rung (fieldOf prior "signature") = true ∧
        R.fromisoformat (R.str (fieldOf prior "last_notified_at")) = some time ∧
        isInside (call.now.secondsSince time) call.windowSeconds = true) ∧
      Remembers R (w.step R call).content (w.step R call).log := by
  unfold World.outcome World.step relay
  by_cases hsilenced : call.silenced = true
  · simp only [if_pos hsilenced]
    exact ⟨.silenced, none, rfl, fun h => (by cases h), hmemory⟩
  · simp only [if_neg hsilenced]
    by_cases henabled : call.dedupEnabled = true
    · obtain ⟨dedup, hdedup, hsuppressed⟩ := @evaluateDedup_spec R w.content call.device
        call.subject call.finding call.rung call.windowSeconds call.now hmemory.loads
        call.windowSeconds_double hcall.shallow
      simp only [if_pos henabled, hdedup]
      by_cases hskip : dedup.suppressed = true
      · simp only [if_pos hskip]
        exact ⟨.suppressed, some dedup, rfl, fun _ => hsuppressed hskip, hmemory⟩
      · simp only [if_neg hskip]
        by_cases hsent : summarize call.deliveries = .sent
        · obtain ⟨state, count, hrecord, hstate, hfits⟩ := recordNotification_spec hmemory hcall
          have hwritten := (hcall.recorded hsent).2
          simp only [hsent, henabled, and_self, if_true, hwritten, hrecord]
          exact ⟨.sent, some dedup, rfl, fun h => (by cases h),
            hmemory.send hstate hcall.plain hcall.reads hfits⟩
        · simp only [hsent, false_and, if_false, decide_false]
          exact ⟨summarize call.deliveries, some dedup, rfl,
            fun h => absurd h (summarize_ne_suppressed _), hmemory⟩
    · have hnot : summarize call.deliveries ≠ .sent := fun h => henabled (hcall.recorded h).1
      simp only [if_neg henabled, evaluateDedup, Bool.false_eq_true, if_false, hnot, false_and,
        decide_false]
      exact ⟨summarize call.deliveries, _, rfl, fun h => absurd h (summarize_ne_suppressed _),
        hmemory⟩

theorem sound_of_remembers (hmemory : Remembers R w.content w.log) (hcall : Recorded R w call) :
    Sound R w call := by
  obtain ⟨decision, dedup, houtcome, hsuppressed, -⟩ := relay_cases hmemory hcall
  have hrecord : ∀ dedup', w.outcome R call = .ok (.suppressed, dedup') →
      ∃ state prior time, w.content = .object state ∧
        state.lookup (dedupKey call.device call.subject) = some (.dict prior) ∧
        R.fromisoformat (R.str (fieldOf prior "last_notified_at")) = some time ∧
        ∃ s, lastSend w.log call.device call.subject = some s ∧ s.SameAs call ∧ s.time = time ∧
          isInside (call.now.secondsSince s.time) call.windowSeconds = true := by
    intro dedup' h
    rw [houtcome] at h
    cases h
    obtain ⟨state, prior, time, hcontent, hprior, hsame, htime, hage⟩ := hsuppressed rfl
    obtain ⟨s, hs, hfinding, hrung, hstime⟩ := hmemory.sends state _ _ prior _ _ time hcontent
      hcall.plain hprior hsame htime
    rw [← hstime] at hage
    exact ⟨state, prior, time, hcontent, hprior, htime, s, hs, ⟨hfinding, hrung⟩, hstime, hage⟩
  constructor
  · exact ⟨_, houtcome⟩
  · intro dedup' h
    obtain ⟨-, -, -, -, -, -, s, hs, hsame, -, hage⟩ := hrecord dedup' h
    obtain ⟨habout, before, after, hlog, hafter⟩ := split_lastSend hs
    refine ⟨before, s, after, hlog, habout, hsame, ?_, hage, ?_⟩
    · apply hcall.clock
      rw [hlog]
      exact List.mem_append_right _ List.mem_cons_self
    · intro s' hs' habout'
      rw [hafter s' hs'] at habout'
      cases habout'
  · intro s dedup' hs hchanged h
    obtain ⟨-, -, -, -, -, -, s', hs', hsame, -⟩ := hrecord dedup' h
    rw [hs] at hs'
    cases hs'
    exact hchanged hsame
  · intro dedup' hunusable h
    obtain ⟨state, prior, time, hcontent, hprior, htime, -⟩ := hrecord dedup' h
    exact hunusable ⟨state, prior, time, hcontent, hprior, htime⟩

/-- In a run whose sends are all recorded, into a file that agrees with what was sent before, no
call raises and what is suppressed repeats the last send. -/
theorem relay_sound (R : Runtime) (content : Content) (history : List Sent)
    (calls : List RelayCall) (hstart : Remembers R content history)
    (hcalls : Runs.AllSteps (World.step R) (Recorded R) ⟨content, history⟩ calls) :
    Runs.AllSteps (World.step R) (Sound R) ⟨content, history⟩ calls := by
  have hstep : ∀ w call, Remembers R w.content w.log → Recorded R w call →
      Remembers R (w.step R call).content (w.step R call).log := by
    intro w call hmemory hcall
    obtain ⟨decision, dedup, -, -, hnext⟩ := relay_cases hmemory hcall
    exact hnext
  exact Runs.allSteps_of_guard hstep (fun _ _ hmemory hcall => sound_of_remembers hmemory hcall)
    hstart hcalls

def firstTime : Datetime := ⟨0, 0⟩

def secondTime : Datetime := ⟨600000000, 0⟩

def labRuntime : Runtime where
  numerals := ⟨.finite, fun _ => none, fun _ => none, fun x _ => x, id⟩
  str := fun
    | .str text => text
    | _ => "None"
  repr := fun _ => "None"
  tooDeep := fun _ => none
  tooDeepToDump := fun _ => none
  wholeSeconds := fun
    | .finite q => toString q.num
    | .inf _ => "inf"
    | .nan => "nan"
  fromisoformat := fun text =>
    if text = firstTime.isoformat then some firstTime
    else if text = secondTime.isoformat then some secondTime
    else none
  str_str := fun _ => rfl
  str_shallow := fun _ => rfl

lemma halfHour_double : ∀ q, PyFloat.finite 1800 = .finite q → Double.round q = q := by
  rintro _ ⟨⟩
  decide +kernel

def pageAt (now : Datetime) : RelayCall where
  device := "PE2"
  subject := "10.0.0.9"
  finding := "FAULT"
  rung := some "interface"
  now := now
  windowSeconds := .finite 1800
  windowSeconds_double := halfHour_double
  silenced := false
  dedupEnabled := true
  deliveries := [⟨true, true⟩]
  disk := .written

lemma step_firstPage : World.step labRuntime ⟨.missing, []⟩ (pageAt firstTime) =
    ⟨.object (recorded [] "PE2" "10.0.0.9" "FAULT" (some "interface") firstTime 1),
      [(pageAt firstTime).send]⟩ := by
  have hone : intFits 1 = true := intFits_of_le (by decide)
  have hfits : (Json.dict (recorded [] "PE2" "10.0.0.9" "FAULT" (some "interface") firstTime
      1)).fits = true := fits_assign (by rw [Json.fits, Json.entriesFit]) (fits_recordOf hone)
  have hdumps : dumpsRaises labRuntime (recorded [] "PE2" "10.0.0.9" "FAULT" (some "interface")
      firstTime 1) = none := by
    rw [dumpsRaises, if_pos hfits]
    rfl
  have hrecord : recordNotification labRuntime "PE2" "10.0.0.9" "FAULT" (some "interface") .missing
      .written firstTime = .ok (.object (recorded [] "PE2" "10.0.0.9" "FAULT" (some "interface")
        firstTime 1), true) := by
    have hcount : priorCount labRuntime (priorOf [] (dedupKey "PE2" "10.0.0.9")) = .ok 0 := rfl
    simp only [recordNotification, loadState, hcount, zero_add, saveState, hdumps,
      Option.elim_none, if_true]
  have hrelay : (relay labRuntime .missing (pageAt firstTime)).1 =
        .object (recorded [] "PE2" "10.0.0.9" "FAULT" (some "interface") firstTime 1) ∧
      (relay labRuntime .missing (pageAt firstTime)).2.delivered = true := by
    have hsent : summarize [⟨true, true⟩] = .sent := rfl
    simp [relay, pageAt, evaluateDedup, loadState, hsent, hrecord]
  rw [World.step, hrelay.1, if_pos hrelay.2]
  rfl

/-- A page, and the same page ten minutes later. -/
theorem relay_sound_twoPages :
    Runs.AllSteps (World.step labRuntime) (Sound labRuntime) ⟨.missing, []⟩
      [pageAt firstTime, pageAt secondTime] := by
  have htwo : intFits 2 = true := intFits_of_le (by decide)
  apply relay_sound
  · constructor
    · exact ⟨_, rfl⟩
    · rintro _ ⟨⟩
    · rintro _ _ _ ⟨⟩
    · rintro _ _ _ _ _ _ _ ⟨⟩
  · refine ⟨⟨by decide, ?_, rfl, fun _ => ⟨rfl, rfl⟩, ?_, ?_⟩, ?_, trivial⟩
    · intro s hs
      cases hs
    · rintro _ _ n ⟨⟩ ⟨⟩
      exact ⟨intFits_of_le (by decide), rfl⟩
    · rintro _ _ ⟨⟩
    · rw [step_firstPage]
      refine ⟨by decide, ?_, by decide +kernel, fun _ => ⟨rfl, rfl⟩, ?_, ?_⟩
      · intro s hs
        rw [List.mem_singleton.mp hs]
        decide
      · rintro _ _ n ⟨⟩ ⟨⟩
        exact ⟨htwo, rfl⟩
      · exact fun _ _ _ _ => ⟨rfl, rfl⟩

/-- A file that is no UTF-8 text makes the call raise. -/
theorem not_sound_notUtf8 : ¬ Sound labRuntime ⟨.notUtf8, []⟩ (pageAt firstTime) := by
  intro h
  obtain ⟨result, hresult⟩ := h.returns
  have hraised : World.outcome labRuntime ⟨.notUtf8, []⟩ (pageAt firstTime) =
      .error "UnicodeDecodeError" := rfl
  rw [hraised] at hresult
  cases hresult

end Relay

end NetTools
