import ArStack.Properties.UrcbReporting
import ArStack.Spec.BrcbLog
import ArStack.Spec.ReportSequence

/-!
# The client's verdict on the servers' reports

The servers number the reports of a control block in one octet, the tracker of the client
expects a wrap only behind 65000. So a stream is judged continuous as long as it has not
passed 255.

* `Judged` — the verdict on the reports of an enable period, for every tracker
* `judged_numbersFrom` — consecutive SqNums of one octet
* `report_continuity` — over every run of a BRCB and of a URCB table
-/

namespace ArStack.Mms

open ArStack.Lib ArStack.Wire MmsReportSequenceTracker MmsStaticReportConnection

/-! ## The verdict -/

/-- What the client decodes of the reports of a control block: their report identifier and,
if it is among the optional fields, their SqNum. -/
structure NumberedReports (reportId : Bytes) (selected : Bool) (sequence : List UInt8)
    (frames : List MmsReportFrame) : Prop where
  routed : ∀ frame ∈ frames, frame.routingKey = reportId
  numbered : List.Forall₂
    (fun number frame =>
      frame.header.sequenceNumber = if selected then some number.toUInt64 else none)
    sequence frames

/-- A tracker that is new to the stream judges its reports continuous exactly if it does not
take them, they have no SqNum or their SqNums do not pass 255. -/
def Judged (reportId : Bytes) (selected : Bool) (first : UInt8) (sequence : List UInt8) : Prop :=
  ∀ (tracker : MmsReportSequenceTracker) (frames : List MmsReportFrame),
    tracker.streams.lookup reportId = none → NumberedReports reportId selected sequence frames →
    ((∀ o ∈ tracker.observations frames, o.Continuous) ↔
      (tracker.Accepts reportId → selected = true → first.toNat + sequence.length ≤ 256))

theorem judged_numbersFrom (reportId : Bytes) (selected : Bool) (first : UInt8) (n : Nat) :
    Judged reportId selected first (numbersFrom first n) := by
  intro tracker frames hnew hreported
  rw [length_numbersFrom]
  by_cases haccepts : tracker.Accepts reportId
  swap
  · have hnone := exec_observeStep_of_not_accepts haccepts hreported.routed []
    refine ⟨fun _ h => absurd h haccepts, fun _ o hmem => ?_⟩
    rw [observations, hnone] at hmem
    cases hmem
  rw [observations_of_accepts haccepts hreported.routed, hnew]
  have hfresh : ((none : Option MmsReportStreamState).getD {}).losses = ⟨[], 0, 0, 0, 0, 0, none⟩ :=
    rfl
  cases selected with
  | false =>
    refine ⟨fun _ _ h => absurd h Bool.false_ne_true, fun _ => ?_⟩
    exact steady_unnumbered hfresh hreported.numbered
  | true =>
    refine ⟨fun h _ _ => ?_, fun h => ?_⟩
    · by_contra hlong
      have hcarries : List.Forall₂ Carries (numbersFrom first n) frames := hreported.numbered
      cases n with
      | zero =>
        have := first.toNat_lt
        omega
      | succ n =>
        obtain ⟨frame, frames', hframe, hrest, rfl⟩ := List.forall₂_cons_left_iff.mp hcarries
        have hlosses := losses_next reportId hfresh hframe fun hzero => absurd rfl hzero
        obtain ⟨o, hmem, ho⟩ := exists_not_continuous
          ((MmsReportObservation.losses_state (by rw [hlosses])).trans hlosses) (by decide)
          (Nat.le_add_left 1 _) hrest (by omega)
        exact ho (h o (List.mem_cons_of_mem _ hmem))
    · exact steady_numbered hfresh hreported.numbered (fun _ hzero => absurd rfl hzero)
        (h haccepts rfl)

/-! ## The BRCB -/

namespace MmsStaticBrcbRuntime

/-- The SqNum of the report an operation stores. -/
def stored (rt : MmsStaticBrcbRuntime) : Operation → Option UInt8
  | .capture plan reportTime encodeBufferSize workspaceSize reads =>
    if (rt.capture plan reportTime encodeBufferSize workspaceSize reads).1.status = .ok then
      some plan.sequenceNumber
    else none
  | _ => none

/-- An enable period: the SqNum of its first report and those of the reports so far. -/
structure Period where
  first : UInt8 := 0
  sequence : List UInt8 := []
  deriving DecidableEq

/-- The period after an operation on `rt`. -/
def Period.next (rt : MmsStaticBrcbRuntime) (period : Period) (op : Operation) : Period :=
  if (rt.step op).enabled && !rt.enabled then { first := nextSequenceNumber rt.sequenceNumber }
  else { period with sequence := period.sequence ++ (rt.stored op).toList }

/-- The machine with its current period. -/
def stepPeriod (s : MmsStaticBrcbRuntime × Period) (op : Operation) :
    MmsStaticBrcbRuntime × Period := (s.1.step op, s.2.next s.1 op)

variable {rt : MmsStaticBrcbRuntime}

theorem sequenceNumber_afterCapture (plan : MmsStaticBrcbCapturePlan) (reportTime : Bytes)
    (encoded : EncodeResult) (slot : MmsStaticBrcbSlot) :
    (rt.afterCapture plan reportTime encoded slot).sequenceNumber = plan.sequenceNumber := by
  have hadvance (slot : MmsStaticBrcbSlot) :
      (rt.advance plan slot).sequenceNumber = plan.sequenceNumber := by
    simp only [advance]
    repeat' split
    all_goals rfl
  rw [← hadvance (filledSlot slot plan reportTime encoded.bytes), afterCapture, bumpQueue, settle]
  cases plan.reason <;> rfl

/-- **A stored report has the next SqNum; nothing else changes it.** -/
theorem sequenceNumber_step (op : Operation) :
    (rt.stored op = none ∧ (rt.step op).sequenceNumber = rt.sequenceNumber) ∨
      rt.stored op = some (nextSequenceNumber rt.sequenceNumber) ∧ rt.enabled = true ∧
        (rt.step op).enabled = true ∧
        (rt.step op).sequenceNumber = nextSequenceNumber rt.sequenceNumber := by
  have hring {rt' : MmsStaticBrcbRuntime} (h : rt'.ring = rt.ring) :
      rt'.sequenceNumber = rt.sequenceNumber := congrArg Ring.sequenceNumber h
  cases op with
  | setEnabled enabled => exact .inl ⟨rfl, hring (ring_setEnabled enabled)⟩
  | setOptionalFields optionalFields => exact .inl ⟨rfl, hring (ring_configure rfl)⟩
  | setTriggerOptions triggerOptions => exact .inl ⟨rfl, hring (ring_configure rfl)⟩
  | setIntegrityPeriod integrityPeriodMs => exact .inl ⟨rfl, hring (ring_configure rfl)⟩
  | notify index reason nowMs => exact .inl ⟨rfl, hring (ring_notify index reason nowMs)⟩
  | requestGeneralInterrogation => exact .inl ⟨rfl, hring ring_requestGeneralInterrogation⟩
  | nextDue nowMs => exact .inl ⟨rfl, hring (ring_nextDue nowMs)⟩
  | capture plan reportTime encodeBufferSize workspaceSize reads =>
    rcases capture_cases rt plan reportTime encodeBufferSize workspaceSize reads with
      ⟨hne, heq⟩ | ⟨hok, dataSet, included, encoded, slot, hcap, heq⟩
    · exact .inl ⟨if_neg hne, congrArg sequenceNumber heq⟩
    · have hfresh := fresh_of_stale hcap.fresh
      refine .inr ⟨(if_pos hok).trans (congrArg some hfresh.sequenceNumber), hfresh.enabled, ?_, ?_⟩
      · rw [step, heq, enabled_afterCapture]
        exact hfresh.enabled
      · rw [step, heq, sequenceNumber_afterCapture]
        exact hfresh.sequenceNumber
  | commitDelivery entryId =>
    refine .inl ⟨rfl, ?_⟩
    rw [step]
    rcases commitDelivery_cases rt entryId with ⟨-, heq⟩ | ⟨-, -, -, heq⟩ <;> rw [heq]
    rfl
  | replayFrom entryId =>
    refine .inl ⟨rfl, ?_⟩
    rw [step, replayFrom]
    rcases moveCursor_cases rt entryId 0 with ⟨-, heq⟩ | ⟨-, _, -, heq⟩ <;> rw [heq]
    rfl
  | resumeAfter entryId =>
    refine .inl ⟨rfl, ?_⟩
    rw [step, resumeAfter]
    rcases moveCursor_cases rt entryId 1 with ⟨-, heq⟩ | ⟨-, _, -, heq⟩ <;> rw [heq]
    rfl
  | rewindToOldest =>
    refine .inl ⟨rfl, ?_⟩
    rw [step]
    rcases rewindToOldest_cases rt with ⟨-, heq⟩ | ⟨-, heq⟩ <;> rw [heq]
    rfl
  | purgeBuffer =>
    refine .inl ⟨rfl, ?_⟩
    rw [step]
    rcases purgeBuffer_cases rt with ⟨-, heq⟩ | ⟨-, heq⟩ <;> rw [heq]
    rfl

/-- The reports of the period have consecutive SqNums, and while it lasts the next one is due. -/
structure Counts (s : MmsStaticBrcbRuntime × Period) : Prop where
  numbered : s.2.sequence = numbersFrom s.2.first s.2.sequence.length
  next : s.1.enabled = true →
    nextSequenceNumber s.1.sequenceNumber = s.2.first + UInt8.ofNat s.2.sequence.length

theorem counts_step (s : MmsStaticBrcbRuntime × Period) (op : Operation) (h : Counts s) :
    Counts (stepPeriod s op) := by
  obtain ⟨rt, period⟩ := s
  obtain ⟨hnumbered, hnext⟩ := h
  dsimp only at hnumbered hnext
  rw [stepPeriod, Period.next]
  dsimp only
  by_cases hstarts : ((rt.step op).enabled && !rt.enabled) = true
  · rw [if_pos hstarts]
    obtain ⟨-, hdisabled⟩ := Bool.and_eq_true_iff.mp hstarts
    rcases sequenceNumber_step op with ⟨-, heq⟩ | ⟨-, henabled, -⟩
    · refine ⟨rfl, fun _ => ?_⟩
      dsimp only
      rw [heq]
      exact (UInt8.add_zero _).symm
    · rw [henabled] at hdisabled
      cases hdisabled
  · rw [if_neg hstarts]
    rcases sequenceNumber_step op with ⟨hnone, heq⟩ | ⟨hsome, henabled, -, heq⟩
    · rw [hnone, Option.toList_none, List.append_nil]
      refine ⟨hnumbered, fun henabled => ?_⟩
      dsimp only at henabled ⊢
      rw [heq]
      exact hnext (by simpa [henabled] using hstarts)
    · rw [hsome, Option.toList_some]
      refine ⟨?_, fun _ => ?_⟩
      · dsimp only
        rw [List.length_append, List.length_singleton, numbersFrom_concat, ← hnumbered,
          hnext henabled]
      · dsimp only
        rw [heq, hnext henabled, List.length_append, List.length_singleton, nextSequenceNumber,
          UInt8.ofNat_add, ← UInt8.add_assoc]
        rfl

theorem counts_start {rt rt' : MmsStaticBrcbRuntime} (h : rt.initializeRuntime = (true, rt')) :
    Counts (rt', {}) := by
  obtain ⟨-, -, -, -, rfl⟩ := initializeRuntime_eq h
  exact ⟨rfl, fun henabled => absurd henabled Bool.false_ne_true⟩

end MmsStaticBrcbRuntime

/-! ## The URCB table -/

/-- The reports of every period have the SqNums from 1 on, and the next one is due. -/
structure UrcbCounts (run : UrcbRun) : Prop where
  numbered : ∀ index, run.sequence index = numbersFrom 1 (run.sequence index).length
  current : ∀ index state, run.runtime.state index = some state → state.enabled = true →
    state.sequenceNumber = UInt8.ofNat (run.sequence index).length

namespace UrcbCounts

open MmsStaticUrcbRuntime

variable {run : UrcbRun} {index : Nat} {state state' : MmsStaticUrcbState}

/-- One block changes, and with it possibly the reports of its period. -/
theorem setState {run' : UrcbRun} (h : UrcbCounts run)
    (hstate : run.runtime.state index = some state)
    (hruntime : run'.runtime = run.runtime.setState index state')
    (hother : ∀ j, j ≠ index → run'.sequence j = run.sequence j)
    (hnumbered : run'.sequence index = numbersFrom 1 (run'.sequence index).length)
    (hcurrent : state'.enabled = true →
      state'.sequenceNumber = UInt8.ofNat (run'.sequence index).length) : UrcbCounts run' where
  numbered j := by
    by_cases hj : j = index
    · rw [hj]
      exact hnumbered
    · rw [hother j hj]
      exact h.numbered j
  current j other hget henabled := by
    rw [hruntime, state_setState hstate] at hget
    split at hget
    · rename_i hj
      subst hj
      obtain rfl := Option.some.inj hget
      exact hcurrent henabled
    · rename_i hj
      rw [hother j (Ne.symm hj)]
      exact h.current j other hget henabled

/-- The block keeps its SqNum and is enabled only if it was. -/
theorem keep {run' : UrcbRun} (h : UrcbCounts run)
    (hstate : run.runtime.state index = some state)
    (hruntime : run'.runtime = run.runtime.setState index state')
    (hsequence : run'.sequence = run.sequence) (henabled : state'.enabled = true → state.enabled = true)
    (hnumber : state'.sequenceNumber = state.sequenceNumber) : UrcbCounts run' := by
  refine h.setState hstate hruntime (fun j _ => congrFun hsequence j) ?_ fun hon => ?_
  · rw [hsequence]
    exact h.numbered index
  · rw [hsequence, hnumber]
    exact h.current index state hstate (henabled hon)

theorem unchanged {run' : UrcbRun} (h : UrcbCounts run) (hruntime : run'.runtime = run.runtime)
    (hsequence : run'.sequence = run.sequence) : UrcbCounts run' := by
  refine ⟨?_, ?_⟩
  · rw [hsequence]
    exact h.numbered
  · rw [hsequence, hruntime]
    exact h.current

/-- A committed report has the next SqNum. -/
theorem deliver (h : UrcbCounts run) {plan : MmsStaticUrcbEmissionPlan} {nowMs : UInt64}
    (hcommit : (run.runtime.commit plan nowMs).1 = .ok) (bytes : Bytes) :
    UrcbCounts ((run.after (run.runtime.commit plan nowMs).2).deliver plan bytes) := by
  rcases run.runtime.commit_cases plan nowMs with ⟨hstatus, -⟩ | ⟨state, hstate, hmatches, heq⟩
  · exact absurd hcommit hstatus
  obtain ⟨henabled, -, hsequence, -⟩ := matchesState_iff hmatches
  have hnumber : plan.sequenceNumber = 1 + UInt8.ofNat (run.sequence plan.index).length := by
    rw [hsequence, h.current plan.index state hstate henabled, nextSequenceNumber, UInt8.add_comm]
  have hself : ((run.after (run.runtime.commit plan nowMs).2).deliver plan bytes).sequence plan.index
      = run.sequence plan.index ++ [plan.sequenceNumber] := Function.update_self _ _ _
  refine h.setState hstate (congrArg Prod.snd heq) (fun j hj => Function.update_of_ne hj _ _) ?_
    fun _ => ?_
  · rw [hself, List.length_append, List.length_singleton, numbersFrom_concat,
      ← h.numbered plan.index, hnumber]
  · rw [hself, sequenceNumber_committed, hnumber, List.length_append, List.length_singleton,
      UInt8.ofNat_add, UInt8.add_comm]
    rfl

theorem restart (h : UrcbCounts run) : UrcbCounts (run.step .restart) where
  numbered := h.numbered
  current index state hstate henabled := by
    obtain ⟨definition, rfl⟩ := state_initializeRuntime hstate
    exact absurd henabled Bool.false_ne_true

theorem setEnabled (h : UrcbCounts run) (index : Nat) (enabled : Bool) (nowMs : UInt64) :
    UrcbCounts (run.step (.setEnabled index enabled nowMs)) := by
  rw [UrcbRun.step]
  rcases setEnabled_cases run.runtime index enabled nowMs with
    ⟨hrt, hrefused⟩ | ⟨state, hstate, hchanged, hset⟩
  · dsimp only
    rw [if_neg, hrt]
    · exact h.unchanged rfl rfl
    · rintro ⟨hok, hany⟩
      rcases hrefused with hstatus | hsame
      · exact hstatus hok
      · obtain ⟨state, hstate, hne⟩ := (Option.any_eq_true _ _).mp hany
        simp [hsame state hstate] at hne
  · have hany : (run.runtime.state index).any (fun state => state.enabled != enabled) = true := by
      rw [hstate]
      simpa using hchanged
    rw [hset]
    dsimp only
    rw [if_pos ⟨rfl, hany⟩]
    cases enabled with
    | true =>
      have hself : Function.update run.sequence index [] index = [] := Function.update_self _ _ _
      refine h.setState hstate rfl (fun j hj => Function.update_of_ne hj _ _) ?_ fun _ => ?_
      · show Function.update run.sequence index [] index =
          numbersFrom 1 (Function.update run.sequence index [] index).length
        rw [hself]
        rfl
      · show _ = UInt8.ofNat (Function.update run.sequence index [] index).length
        rw [hself]
        rfl
    | false => exact h.setState hstate rfl (fun _ _ => rfl) (h.numbered index) fun hon => by cases hon

theorem step (run : UrcbRun) (operation : UrcbOperation) (h : UrcbCounts run) :
    UrcbCounts (run.step operation) := by
  cases operation with
  | restart => exact h.restart
  | setEnabled index enabled nowMs => exact h.setEnabled index enabled nowMs
  | set index setting =>
    rw [UrcbRun.step]
    rcases applySetting_cases run.runtime index setting with
      heq | ⟨state, state', hstate, hquiet, heq⟩
    · exact h.unchanged heq rfl
    · exact h.keep hstate heq rfl (fun hon => hquiet.enabled ▸ hon) hquiet.sequenceNumber
  | notify index member reason nowMs =>
    rw [UrcbRun.step]
    rcases notify_cases run.runtime index member reason nowMs with
      ⟨hrt, -⟩ | ⟨state, dataSet, hmember, hstate, -, -, -, -, heq⟩
    · dsimp only
      split
      · exact h.unchanged hrt rfl
      · exact h.unchanged hrt rfl
    · rw [heq]
      dsimp only
      split
      · exact h.keep hstate rfl rfl id rfl
      · exact h.keep hstate rfl rfl id rfl
  | encode plan reportTime destinationSize workspaceSize reads =>
    rw [UrcbRun.step]
    split
    · exact h.unchanged rfl rfl
    · exact h.unchanged rfl rfl
  | commit encoding nowMs =>
    rw [UrcbRun.step]
    cases hget : run.encodings[encoding]? with
    | none => exact h
    | some e =>
      dsimp only
      split
      · rename_i hok
        exact h.deliver hok e.bytes
      · rename_i hfailed
        rcases run.runtime.commit_cases e.plan nowMs with ⟨-, hrt⟩ | ⟨state, -, -, heq⟩
        · exact h.unchanged hrt rfl
        · rw [heq] at hfailed
          exact absurd rfl hfailed
  | poll connection nowMs reportTime responseSize workspaceSize reads =>
    rw [UrcbRun.step]
    rcases poll_cases connection run.runtime nowMs reportTime responseSize workspaceSize reads with
      ⟨hstatus, hrt⟩ | ⟨hstatus, plan, hdue, hencode, hcommit, hrt⟩
    · rw [hrt]
      cases run.runtime.nextDue nowMs with
      | none => exact h.unchanged rfl rfl
      | some plan =>
        dsimp only
        rw [if_neg hstatus]
        exact h.unchanged rfl rfl
    · rw [hrt, hdue]
      dsimp only
      rw [if_pos hstatus]
      exact h.deliver hcommit _

theorem start (definitions : List MmsStaticUrcbDefinition) (states : List MmsStaticUrcbState)
    (objects : MmsStaticObjectTable) (dataSets : MmsStaticDataSetTable) :
    UrcbCounts (.start definitions states objects dataSets) :=
  ⟨fun _ => rfl, fun _ _ hstate => absurd (initialized_of_state hstate) Bool.false_ne_true⟩

end UrcbCounts

/-! ## Every run -/

/-- **The verdict on the reports of an enable period**, in every run of a BRCB, whose SqNum goes
on from the period before, and of a URCB table, where it starts with 1. -/
theorem report_continuity (reportId : Bytes) (selected : Bool) :
    (∀ (rt rt' : MmsStaticBrcbRuntime), rt.initializeRuntime = (true, rt') →
      ∀ ops : List MmsStaticBrcbRuntime.Operation,
        let period := (exec MmsStaticBrcbRuntime.stepPeriod (rt', {}) ops).2
        Judged reportId selected period.first period.sequence) ∧
    ∀ (definitions : List MmsStaticUrcbDefinition) (states : List MmsStaticUrcbState)
      (objects : MmsStaticObjectTable) (dataSets : MmsStaticDataSetTable)
      (operations : List UrcbOperation) (index : Nat),
      let run := exec UrcbRun.step (.start definitions states objects dataSets) operations
      Judged reportId selected 1 (run.sequence index) := by
  constructor
  · intro rt rt' hinit ops period
    have hcounts := exec_invariant MmsStaticBrcbRuntime.Counts MmsStaticBrcbRuntime.counts_step
      (MmsStaticBrcbRuntime.counts_start hinit) ops
    rw [show period.sequence = _ from hcounts.numbered]
    exact judged_numbersFrom _ _ _ _
  · intro definitions states objects dataSets operations index run
    have hcounts := exec_invariant UrcbCounts UrcbCounts.step
      (.start definitions states objects dataSets) operations
    rw [show run.sequence index = _ from hcounts.numbered index]
    exact judged_numbersFrom _ _ _ _

/-- The reports with these SqNums, as the client decodes them. -/
def numberedFrames (reportId : Bytes) (sequence : List UInt8) : List MmsReportFrame :=
  sequence.map fun number =>
    { header := { reportId, sequenceNumber := some number.toUInt64 } }

theorem numberedReports_numberedFrames (reportId : Bytes) (sequence : List UInt8) :
    NumberedReports reportId true sequence (numberedFrames reportId sequence) where
  routed := by
    intro frame hmem
    obtain ⟨number, -, rfl⟩ := List.mem_map.mp hmem
    rfl
  numbered := by
    rw [numberedFrames, List.forall₂_map_right_iff]
    exact List.forall₂_same.mpr fun _ _ => rfl

/-- One control block whose reports have a SqNum, over one object. -/
def sampleNumbered : UrcbRun :=
  .start [{ domain := [0x44], item := [0x41], reportId := [0x52], dataSetDomain := [0x44],
            dataSetItem := [0x53], optionalFields := #v[0x40, 0x00], bufferTimeMs := 0,
            triggerOptions := 0x7C, integrityPeriodMs := 0 }] [{}]
    ⟨[{ domain := [0x44], item := [0x49], typeSpecification := [0x83, 0x00] }]⟩
    ⟨[{ domain := [0x44], item := [0x53], members := [⟨[0x44], [0x49]⟩] }]⟩

/-- One enable period with so many general interrogations, each of which is polled. -/
def samplePolls (reports : Nat) : List UrcbOperation :=
  [.restart, .setEnabled 0 true 0] ++
    (List.replicate reports [.set 0 .generalInterrogation,
      .poll sampleUrcbConnection 0 [] 64 64 sampleReads]).flatten

/-- A report of the BRCB has the SqNum 1, two of the URCB have 1 and 2. -/
theorem report_continuity_sample :
    let brcb := (exec MmsStaticBrcbRuntime.stepPeriod
      ((MmsStaticBrcbRuntime.sampleRuntime [40]).initializeRuntime.2, {})
      (.setEnabled true :: MmsStaticBrcbRuntime.sampleCapture
        ((MmsStaticBrcbRuntime.sampleRuntime [40]).initializeRuntime.2.step (.setEnabled true))
        [0x83, 0x01, 0x01])).2
    let urcb := (exec UrcbRun.step sampleNumbered (samplePolls 2)).sequence 0
    (brcb = { first := 1, sequence := [1] } ∧ urcb = [1, 2]) ∧
      (∀ o ∈ ({} : MmsReportSequenceTracker).observations
        (numberedFrames [0x52] brcb.sequence), o.Continuous) ∧
      ∀ o ∈ ({} : MmsReportSequenceTracker).observations (numberedFrames [0x52] urcb),
        o.Continuous := by
  intro brcb urcb
  have hbrcb : brcb = { first := 1, sequence := [1] } := by decide
  have hurcb : urcb = [1, 2] := by decide
  refine ⟨⟨hbrcb, hurcb⟩, ?_, ?_⟩
  · refine ((report_continuity [0x52] true).1 (MmsStaticBrcbRuntime.sampleRuntime [40])
      (MmsStaticBrcbRuntime.sampleRuntime [40]).initializeRuntime.2
      (Prod.ext (by decide) rfl) _ {} _ rfl
      (numberedReports_numberedFrames [0x52] brcb.sequence)).mpr fun _ _ => ?_
    show brcb.first.toNat + brcb.sequence.length ≤ 256
    rw [hbrcb]
    decide
  · refine ((report_continuity [0x52] true).2 _ _ _ _ (samplePolls 2) 0 {} _ rfl
      (numberedReports_numberedFrames [0x52] urcb)).mpr fun _ _ => ?_
    show (1 : UInt8).toNat + urcb.length ≤ 256
    rw [hurcb]
    decide

/-- The sample's runtime after so many polls. -/
def polledRuntime (polls : Nat) : MmsStaticUrcbRuntime :=
  { sampleNumbered.runtime with
    states := [{ reportId := [0x52], dataSetDomain := [0x44], dataSetItem := [0x53],
                 optionalFields := #v[0x40, 0x00], triggerOptions := 0x7C, enabled := true,
                 revision := .ofNat (2 * polls + 2), sequenceNumber := .ofNat polls }]
    initialized := true }

/-- The next poll of the sample delivers a report. -/
def Delivers (polls : Nat) : Prop :=
  let rt := ((polledRuntime polls).applySetting 0 .generalInterrogation).2
  let polled := MmsStaticReportConnection.poll sampleUrcbConnection rt 0 [] 64 64 sampleReads
  (rt.nextDue 0).map (·.index) = some 0 ∧ polled.1.status = .responseReady ∧
    polled.2 = polledRuntime (polls + 1)

instance (polls : Nat) : Decidable (Delivers polls) := inferInstanceAs (Decidable (_ ∧ _ ∧ _))

theorem delivers_of_lt {polls : Nat} (h : polls < 256) : Delivers polls := by
  -- all SqNums, in ranges that the kernel evaluates one after the other
  have hsmall : ∀ k < 64, Delivers k := by decide +kernel
  have hmedium : ∀ k < 64, Delivers (64 + k) := by decide +kernel
  have hlarge : ∀ k < 64, Delivers (128 + k) := by decide +kernel
  have hlast : ∀ k < 64, Delivers (192 + k) := by decide +kernel
  rcases Nat.lt_or_ge polls 64 with hlt | hge
  · exact hsmall polls hlt
  obtain ⟨k, rfl⟩ := Nat.exists_eq_add_of_le hge
  rcases Nat.lt_or_ge k 64 with hlt | hge
  · exact hmedium k hlt
  obtain ⟨k, rfl⟩ := Nat.exists_eq_add_of_le hge
  rw [← Nat.add_assoc] at h ⊢
  rcases Nat.lt_or_ge k 64 with hlt | hge
  · exact hlarge k hlt
  obtain ⟨k, rfl⟩ := Nat.exists_eq_add_of_le hge
  rw [← Nat.add_assoc] at h ⊢
  exact hlast k (by omega)

theorem length_sequence_polls {run : UrcbRun} {polls : Nat} (hrun : run.runtime = polledRuntime polls)
    {n : Nat} (h : polls + n ≤ 256) :
    ((exec UrcbRun.step run (List.replicate n [.set 0 .generalInterrogation,
      .poll sampleUrcbConnection 0 [] 64 64 sampleReads]).flatten).sequence 0).length =
      (run.sequence 0).length + n := by
  induction n generalizing run polls with
  | zero => rfl
  | succ n ih =>
    obtain ⟨hdue, hready, hpolled⟩ := delivers_of_lt (show polls < 256 by omega)
    rw [List.replicate_succ, List.flatten_cons, exec_append]
    let run' := run.step (.set 0 .generalInterrogation)
    let run'' := run'.step (.poll sampleUrcbConnection 0 [] 64 64 sampleReads)
    show ((exec UrcbRun.step run'' _).sequence 0).length = _
    have hset : run'.runtime = ((polledRuntime polls).applySetting 0 .generalInterrogation).2 := by
      rw [← hrun]
      rfl
    obtain ⟨plan, hplan, hindex⟩ := Option.map_eq_some_iff.mp hdue
    rw [← hset] at hplan hready hpolled
    have hdelivered : run'' =
        (run'.after (MmsStaticReportConnection.poll sampleUrcbConnection run'.runtime 0 [] 64 64
          sampleReads).2).deliver plan (run'.runtime.encode plan [] 64 64 sampleReads).bytes := by
      show UrcbRun.step run' _ = _
      rw [UrcbRun.step]
      simp only [hplan, hready, if_true]
    have hruntime : run''.runtime = polledRuntime (polls + 1) := by
      rw [hdelivered]
      exact hpolled
    have hsequence : (run''.sequence 0).length = (run.sequence 0).length + 1 := by
      rw [hdelivered]
      show (Function.update run'.sequence plan.index _ 0).length = _
      rw [hindex, Function.update_self, List.length_append]
      rfl
    rw [ih hruntime (by omega), hsequence]
    omega

theorem length_sequence_samplePolls :
    ((exec UrcbRun.step sampleNumbered (samplePolls 256)).sequence 0).length = 256 := by
  rw [samplePolls, exec_append]
  exact (length_sequence_polls (by decide +kernel) (Nat.le_refl _)).trans (by decide +kernel)

/-- Behind the report with the SqNum 255 comes one with 0, which the tracker does not judge
continuous. -/
theorem wrapped_sequence_not_continuous :
    ¬∀ o ∈ ({} : MmsReportSequenceTracker).observations (numberedFrames [0x52]
        ((exec UrcbRun.step sampleNumbered (samplePolls 256)).sequence 0)), o.Continuous := by
  intro hcontinuous
  have hstart : UrcbCounts sampleNumbered := UrcbCounts.start _ _ _ _
  have hcounts := exec_invariant UrcbCounts UrcbCounts.step hstart (samplePolls 256)
  have hjudged := judged_numbersFrom [0x52] true 1 256 {} _ rfl
    (numberedReports_numberedFrames [0x52] (numbersFrom 1 256))
  rw [hcounts.numbered 0, length_sequence_samplePolls] at hcontinuous
  have hle := hjudged.mp hcontinuous ⟨by decide, .inr (by decide)⟩ rfl
  rw [length_numbersFrom] at hle
  exact absurd hle (by decide)

end ArStack.Mms
