import ArStack.Lib.Run
import ArStack.Mms.Reporting

/-!
# What the sequence tracker concludes

* `Losses` — what an observation says about lost, repeated and reset reports
* `losses_observation` — only the comparison of the SqNums contributes to it
* `observations_of_accepts` — the reports of one stream are judged by the state of the stream
* `steady_numbered` — consecutive SqNums are in order until 255 is passed
-/

namespace ArStack.Mms

open ArStack.Lib

/-- The events that say that a stream is not continuous. -/
def MmsReportContinuityEventKind.disrupts : MmsReportContinuityEventKind → Bool
  | .duplicate | .sequenceGap | .sequenceReset => true
  | _ => false

/-- What an observation says about the continuity of the SqNums. -/
structure Losses where
  events : List MmsReportContinuityEvent
  reportCount : UInt64
  duplicateCount : UInt64
  gapCount : UInt64
  missingSequenceCount : UInt64
  resetCount : UInt64
  lastSequenceNumber : Option UInt64
  deriving DecidableEq

/-- The losses after one more report. -/
def Losses.counted (losses : Losses) : Losses :=
  { losses with reportCount := losses.reportCount + 1 }

namespace MmsReportObservation

def losses (o : MmsReportObservation) : Losses where
  events := o.events.filter (·.kind.disrupts)
  reportCount := o.state.reportCount
  duplicateCount := o.state.duplicateCount
  gapCount := o.state.gapCount
  missingSequenceCount := o.state.missingSequenceCount
  resetCount := o.state.resetCount
  lastSequenceNumber := o.state.lastSequenceNumber

/-- No report is judged a duplicate, a gap or a reset, and nothing has been counted. -/
structure Continuous (o : MmsReportObservation) : Prop where
  events : ∀ event ∈ o.events, event.kind ≠ .sequenceGap ∧ event.kind ≠ .sequenceReset ∧
    event.kind ≠ .duplicate
  gapCount : o.state.gapCount = 0
  resetCount : o.state.resetCount = 0
  duplicateCount : o.state.duplicateCount = 0
  missingSequenceCount : o.state.missingSequenceCount = 0

variable {o : MmsReportObservation}

theorem continuous_iff :
    o.Continuous ↔ ∃ count last, o.losses = ⟨[], count, 0, 0, 0, 0, last⟩ := by
  constructor
  · rintro ⟨hevents, hgap, hreset, hduplicate, hmissing⟩
    refine ⟨o.state.reportCount, o.state.lastSequenceNumber, ?_⟩
    rw [losses, hgap, hreset, hduplicate, hmissing]
    congr 1
    refine List.filter_eq_nil_iff.mpr fun event hmem => ?_
    obtain ⟨hgap, hreset, hduplicate⟩ := hevents event hmem
    cases hkind : event.kind <;> simp_all [MmsReportContinuityEventKind.disrupts]
  · rintro ⟨count, last, h⟩
    obtain ⟨hevents, -, hduplicate, hgap, hmissing, hreset, -⟩ := Losses.mk.inj h
    refine ⟨fun event hmem => ?_, hgap, hreset, hduplicate, hmissing⟩
    have hkept := List.filter_eq_nil_iff.mp hevents event hmem
    refine ⟨?_, ?_, ?_⟩ <;> intro hkind <;> exact hkept (by rw [hkind]; rfl)

/-! ## The stages -/

theorem losses_addEvent (o : MmsReportObservation) (kind : MmsReportContinuityEventKind)
    (h : kind.disrupts = false) : (o.addEvent kind).losses = o.losses := by
  rw [losses, losses, addEvent]
  congr 1
  rw [List.filter_append, List.filter_cons_of_neg (by simp [h]), List.filter_nil, List.append_nil]

theorem losses_trackConfiguration (header : MmsReportHeader) :
    (o.trackConfiguration header).losses = o.losses := by
  rw [trackConfiguration]
  cases header.configurationRevision with
  | none => rfl
  | some revision =>
    cases hlast : o.state.lastConfigurationRevision with
    | none => rfl
    | some last =>
      dsimp only
      split
      · exact losses_addEvent _ .configurationRevisionChanged rfl
      · rfl

theorem losses_trackDataSet (header : MmsReportHeader) :
    (o.trackDataSet header).losses = o.losses := by
  rw [trackDataSet]
  split
  · rfl
  · dsimp only
    split
    · exact losses_addEvent _ .dataSetChanged rfl
    · rfl

theorem losses_trackOverflow (header : MmsReportHeader) :
    (o.trackOverflow header).losses = o.losses := by
  rw [trackOverflow]
  split
  · exact losses_addEvent _ .bufferOverflow rfl
  · rfl

theorem losses_segmentationGap : o.segmentationGap.losses = o.losses :=
  losses_addEvent _ .segmentationGap rfl

theorem losses_trackSegment (current : UInt64) (more : Bool) :
    (o.trackSegment current more).losses = o.losses := by
  rw [trackSegment]
  dsimp only
  split
  · cases more
    · exact losses_addEvent _ .segmentationCompleted rfl
    · exact losses_addEvent _ .segmentationStarted rfl
  · cases o.state.lastSubSequenceNumber with
    | none =>
      cases more
      · exact losses_addEvent _ .segmentationCompleted rfl
      · exact losses_addEvent _ .segmentationContinued rfl
    | some last =>
      have hchecked : (if current ≠ last + 1 then o.segmentationGap else o).losses = o.losses := by
        split
        · exact losses_segmentationGap
        · rfl
      cases more
      · exact (losses_addEvent _ .segmentationCompleted rfl).trans hchecked
      · exact (losses_addEvent _ .segmentationContinued rfl).trans hchecked

theorem losses_trackSegmentation (header : MmsReportHeader) :
    (o.trackSegmentation header).losses = o.losses := by
  rw [trackSegmentation]
  split
  · exact losses_trackSegment _ _
  · split
    · exact losses_addEvent _ .segmentationGap rfl
    · rfl

/-- The comparison of two successive SqNums, for what it says about losses. -/
theorem losses_compareSequence (o : MmsReportObservation) (previous current : UInt64) :
    (current = previous + 1 → (o.compareSequence previous current).losses = o.losses) ∧
    (current < previous → previous < 65000 →
      (o.compareSequence previous current).losses.events ≠ []) := by
  have hne : ∀ x : UInt64, x + 1 ≠ x := fun x heq => by
    have := congrArg UInt64.toBitVec heq
    simp at this
  refine ⟨fun hnext => ?_, fun hlt hsmall => ?_⟩
  · rw [compareSequence, if_neg (hnext ▸ hne previous), if_pos hnext]
    exact losses_addEvent _ .inOrder rfl
  · have hsucc : current ≠ previous + 1 := by
      rintro rfl
      rw [UInt64.lt_iff_toNat_lt] at hlt hsmall
      rw [UInt64.toNat_add] at hlt
      have h65000 : (65000 : UInt64).toNat = 65000 := rfl
      have hone : (1 : UInt64).toNat = 1 := rfl
      omega
    have hwrap : ¬(previous ≥ 65000 ∧ current < 1000) := fun hwrap =>
      absurd hsmall (UInt64.not_lt.mpr hwrap.1)
    rw [compareSequence, if_neg (UInt64.ne_of_lt hlt), if_neg hsucc, if_neg hwrap, if_pos hlt]
    refine List.ne_nil_of_mem (a := ⟨.sequenceReset, continuityMessage .sequenceReset⟩) ?_
    exact List.mem_filter.mpr ⟨List.mem_append_right _ List.mem_cons_self, rfl⟩

end MmsReportObservation

/-! ## One stream -/

/-- The losses a stream starts its next report with. -/
def MmsReportStreamState.losses (state : MmsReportStreamState) : Losses :=
  ({ state } : MmsReportObservation).losses

theorem MmsReportObservation.losses_state {o : MmsReportObservation} (h : o.losses.events = []) :
    o.state.losses = o.losses := by
  show ({ o.losses with events := [] } : Losses) = _
  rw [← h]

namespace MmsReportSequenceTracker

open MmsReportObservation

variable {key : Bytes} {state : MmsReportStreamState} {frame : MmsReportFrame}
  {count : UInt64} {last : Option UInt64}

/-- **What a report adds to the losses of its stream.** -/
theorem losses_observation (key : Bytes) (state : MmsReportStreamState) (frame : MmsReportFrame) :
    ∃ opened : MmsReportObservation, opened.losses = state.losses ∧
      (observation key state frame).losses =
        (opened.trackSequence (state.reportCount == 0) frame.header).losses.counted := by
  have hstages : ∀ opened : MmsReportObservation, ((((((opened.trackSequence
      (state.reportCount == 0) frame.header).trackConfiguration frame.header).trackDataSet
        frame.header).trackOverflow frame.header).trackSegmentation frame.header).finish
          frame).losses =
      (opened.trackSequence (state.reportCount == 0) frame.header).losses.counted := by
    intro opened
    show (losses (trackSegmentation _ frame.header)).counted = _
    rw [losses_trackSegmentation, losses_trackOverflow, losses_trackDataSet,
      losses_trackConfiguration]
  rw [observation]
  refine ⟨_, ?_, hstages _⟩
  split
  · exact losses_addEvent _ .firstReport rfl
  · rfl

/-- A report without SqNum. -/
theorem losses_unnumbered (key : Bytes)
    (hstate : state.losses = ⟨[], count, 0, 0, 0, 0, last⟩)
    (hframe : frame.header.sequenceNumber = none) :
    (observation key state frame).losses = ⟨[], count + 1, 0, 0, 0, 0, last⟩ := by
  obtain ⟨opened, hopened, hlosses⟩ := losses_observation key state frame
  rw [hlosses, trackSequence, hframe]
  dsimp only
  rw [hopened, hstate]
  rfl

/-- A report whose SqNum is the first one of its stream or the next one. -/
theorem losses_next (key : Bytes) {current : UInt64}
    (hstate : state.losses = ⟨[], count, 0, 0, 0, 0, last⟩)
    (hframe : frame.header.sequenceNumber = some current)
    (hnext : count ≠ 0 → ∀ previous, last = some previous → current = previous + 1) :
    (observation key state frame).losses = ⟨[], count + 1, 0, 0, 0, 0, some current⟩ := by
  have hcount : state.reportCount = count := congrArg Losses.reportCount hstate
  obtain ⟨opened, hopened, hlosses⟩ := losses_observation key state frame
  have hlast : opened.state.lastSequenceNumber = last :=
    (congrArg Losses.lastSequenceNumber hopened).trans (congrArg Losses.lastSequenceNumber hstate)
  have hsequence : (opened.trackSequence (state.reportCount == 0) frame.header).losses =
      ⟨[], count, 0, 0, 0, 0, some current⟩ := by
    rw [trackSequence, hframe, hlast, hcount]
    show ({ losses _ with lastSequenceNumber := some current } : Losses) = _
    by_cases hzero : count = 0
    · subst hzero
      show ({ opened.losses with lastSequenceNumber := some current } : Losses) = _
      rw [hopened, hstate]
    · rw [beq_false_of_ne hzero]
      cases hlast' : last with
      | none =>
        show ({ opened.losses with lastSequenceNumber := some current } : Losses) = _
        rw [hopened, hstate]
      | some previous =>
        show ({ (opened.compareSequence previous current).losses with
          lastSequenceNumber := some current } : Losses) = _
        rw [(losses_compareSequence opened previous current).1 (hnext hzero previous hlast'),
          hopened, hstate]
  rw [hlosses, hsequence]
  rfl

/-- A smaller SqNum. -/
theorem not_continuous_of_lt {previous current : UInt64}
    (hstate : state.losses = ⟨[], count, 0, 0, 0, 0, some previous⟩) (hcount : count ≠ 0)
    (hframe : frame.header.sequenceNumber = some current) (hlt : current < previous)
    (hsmall : previous < 65000) : ¬(observation key state frame).Continuous := by
  have hcount' : state.reportCount = count := congrArg Losses.reportCount hstate
  obtain ⟨opened, hopened, hlosses⟩ := losses_observation key state frame
  have hlast : opened.state.lastSequenceNumber = some previous :=
    (congrArg Losses.lastSequenceNumber hopened).trans (congrArg Losses.lastSequenceNumber hstate)
  intro hcontinuous
  obtain ⟨count', last', heq⟩ := continuous_iff.mp hcontinuous
  rw [hlosses, trackSequence, hframe, hlast, hcount', beq_false_of_ne hcount] at heq
  exact (losses_compareSequence opened previous current).2 hlt hsmall
    (congrArg Losses.events heq)

/-- The observations of the reports of one stream. -/
def streamObservations (key : Bytes) : MmsReportStreamState → List MmsReportFrame →
    List MmsReportObservation
  | _, [] => []
  | state, frame :: frames =>
    let observed := observation key state frame
    observed :: streamObservations key observed.state frames

/-- Reports without SqNum are continuous. -/
theorem steady_unnumbered {frames : List MmsReportFrame} {sequence : List UInt8}
    (hstate : state.losses = ⟨[], count, 0, 0, 0, 0, last⟩)
    (hframes : List.Forall₂ (fun _ frame => frame.header.sequenceNumber = none) sequence frames) :
    ∀ o ∈ streamObservations key state frames, o.Continuous := by
  induction hframes generalizing state count with
  | nil => exact fun _ hmem => absurd hmem List.not_mem_nil
  | cons hframe _ ih =>
    have hlosses := losses_unnumbered key hstate hframe
    intro o hmem
    rcases List.mem_cons.mp hmem with rfl | hmem
    · exact continuous_iff.mpr ⟨_, _, hlosses⟩
    · exact ih ((losses_state (by rw [hlosses])).trans hlosses) o hmem

/-- `count` SqNums from `first` on, of one octet. -/
def numbersFrom : UInt8 → Nat → List UInt8
  | _, 0 => []
  | first, count + 1 => first :: numbersFrom (first + 1) count

theorem length_numbersFrom (first : UInt8) (count : Nat) :
    (numbersFrom first count).length = count := by
  induction count generalizing first with
  | zero => rfl
  | succ count ih => rw [numbersFrom, List.length_cons, ih]

theorem numbersFrom_concat (first : UInt8) (count : Nat) :
    numbersFrom first (count + 1) = numbersFrom first count ++ [first + UInt8.ofNat count] := by
  induction count generalizing first with
  | zero =>
    rw [numbersFrom, numbersFrom, show UInt8.ofNat 0 = 0 from rfl, UInt8.add_zero]
    rfl
  | succ count ih =>
    rw [numbersFrom, ih, numbersFrom, UInt8.ofNat_add, UInt8.add_assoc, UInt8.add_comm 1]
    rfl

/-- The frame carries the SqNum. -/
def Carries (number : UInt8) (frame : MmsReportFrame) : Prop :=
  frame.header.sequenceNumber = some number.toUInt64

theorem toUInt64_succ {number : UInt8} (h : number ≠ 255) :
    (number + 1).toUInt64 = number.toUInt64 + 1 := by
  have hlt := number.toNat_lt
  have hne : number.toNat ≠ 255 := fun heq => h (UInt8.toNat_inj.mp heq)
  rw [← UInt64.toNat_inj]
  simp only [UInt8.toNat_toUInt64, UInt64.toNat_add, UInt8.toNat_add, UInt8.toNat_one,
    UInt64.toNat_one]
  omega

/-- **Consecutive SqNums below 256 are continuous.** -/
theorem steady_numbered {frames : List MmsReportFrame} {first : UInt8} {n : Nat}
    (hstate : state.losses = ⟨[], count, 0, 0, 0, 0, last⟩)
    (hframes : List.Forall₂ Carries (numbersFrom first n) frames)
    (hnext : 0 < n → count ≠ 0 → ∀ previous, last = some previous →
      first.toUInt64 = previous + 1) (hn : first.toNat + n ≤ 256) :
    ∀ o ∈ streamObservations key state frames, o.Continuous := by
  induction n generalizing state count last first frames with
  | zero =>
    cases hframes
    exact fun _ hmem => absurd hmem List.not_mem_nil
  | succ n ih =>
    obtain ⟨frame, frames', hframe, hrest, rfl⟩ := List.forall₂_cons_left_iff.mp hframes
    have hlosses := losses_next key hstate hframe (hnext (Nat.succ_pos n))
    intro o hmem
    rcases List.mem_cons.mp hmem with rfl | hmem
    · exact continuous_iff.mpr ⟨_, _, hlosses⟩
    · have hlast : 0 < n → first ≠ 255 := by
        rintro hpos rfl
        have : (255 : UInt8).toNat = 255 := rfl
        omega
      refine ih ((losses_state (by rw [hlosses])).trans hlosses) hrest
        (fun hpos _ previous hprevious => ?_) ?_ o hmem
      · obtain rfl := Option.some.inj hprevious
        exact toUInt64_succ (hlast hpos)
      · rw [UInt8.toNat_add]
        have : (1 : UInt8).toNat = 1 := rfl
        omega

/-- Behind 255 comes a reset. -/
theorem exists_not_continuous {frames : List MmsReportFrame} {number : UInt8} {n : Nat}
    (hstate : state.losses = ⟨[], count, 0, 0, 0, 0, some number.toUInt64⟩)
    (hcount : count ≠ 0) (hle : count.toNat ≤ number.toNat + 1)
    (hframes : List.Forall₂ Carries (numbersFrom (number + 1) n) frames)
    (hn : 256 ≤ number.toNat + n) :
    ∃ o ∈ streamObservations key state frames, ¬o.Continuous := by
  have hnumber := number.toNat_lt
  induction n generalizing state count number frames with
  | zero => omega
  | succ n ih =>
    obtain ⟨frame, frames', hframe, hrest, rfl⟩ := List.forall₂_cons_left_iff.mp hframes
    by_cases hlast : number = 255
    · subst hlast
      exact ⟨_, List.mem_cons_self,
        not_continuous_of_lt hstate hcount hframe (by decide) (by decide)⟩
    · have hlosses := losses_next key hstate hframe fun _ previous hprevious => by
        obtain rfl := Option.some.inj hprevious
        exact toUInt64_succ hlast
      have hsucc : (number + 1).toNat = number.toNat + 1 := by
        have hne : number.toNat ≠ 255 := fun heq => hlast (UInt8.toNat_inj.mp heq)
        rw [UInt8.toNat_add]
        have : (1 : UInt8).toNat = 1 := rfl
        omega
      have hcount' : (count + 1).toNat = count.toNat + 1 := by
        rw [UInt64.toNat_add]
        have : (1 : UInt64).toNat = 1 := rfl
        omega
      obtain ⟨o, hmem, ho⟩ := ih ((losses_state (by rw [hlosses])).trans hlosses)
        (fun hzero => by simp [hzero] at hcount') (by omega) hrest (by omega)
        (number + 1).toNat_lt
      exact ⟨o, List.mem_cons_of_mem _ hmem, ho⟩

/-! ## The tracker -/

/-- The tracker takes the reports of this stream. -/
def Accepts (tracker : MmsReportSequenceTracker) (key : Bytes) : Prop :=
  key ≠ [] ∧ ((tracker.streams.lookup key).isSome ∨ tracker.streams.keys.length < maximumStreams)

/-- Observe a report. What is thrown leaves the tracker as it is. -/
def observeStep (s : MmsReportSequenceTracker × List MmsReportObservation)
    (frame : MmsReportFrame) : MmsReportSequenceTracker × List MmsReportObservation :=
  match s.1.observe frame with
  | .ok (observed, tracker) => (tracker, s.2 ++ [observed])
  | .error _ => s

/-- The observations of the reports, oldest first. -/
def observations (tracker : MmsReportSequenceTracker) (frames : List MmsReportFrame) :
    List MmsReportObservation := (exec observeStep (tracker, []) frames).2

theorem exec_observeStep_of_not_accepts {tracker : MmsReportSequenceTracker} {key : Bytes}
    (h : ¬tracker.Accepts key) {frames : List MmsReportFrame}
    (hframes : ∀ frame ∈ frames, frame.routingKey = key) (seen : List MmsReportObservation) :
    exec observeStep (tracker, seen) frames = (tracker, seen) := by
  induction frames with
  | nil => rfl
  | cons frame frames ih =>
    have hkey := hframes frame List.mem_cons_self
    have hstep : observeStep (tracker, seen) frame = (tracker, seen) := by
      rw [observeStep, observe, hkey]
      by_cases hempty : key = []
      · rw [if_pos hempty]
      · rw [if_neg hempty, if_pos]
        rw [Accepts, not_and_or, not_or] at h
        obtain ⟨hnone, hfull⟩ := h.resolve_left (not_not.mpr hempty)
        exact ⟨by simpa using hnone, Nat.not_lt.mp hfull⟩
    rw [exec_cons, hstep]
    exact ih fun frame hmem => hframes frame (List.mem_cons_of_mem _ hmem)

theorem exec_observeStep {tracker : MmsReportSequenceTracker} {key : Bytes}
    (h : tracker.Accepts key) {frames : List MmsReportFrame}
    (hframes : ∀ frame ∈ frames, frame.routingKey = key) (seen : List MmsReportObservation) :
    (exec observeStep (tracker, seen) frames).2 =
      seen ++ streamObservations key ((tracker.streams.lookup key).getD {}) frames := by
  induction frames generalizing tracker seen with
  | nil => exact (List.append_nil seen).symm
  | cons frame frames ih =>
    have hkey := hframes frame List.mem_cons_self
    have hobserve : tracker.observe frame =
        .ok (observation key ((tracker.streams.lookup key).getD {}) frame,
          { streams := tracker.streams.insert key
              (observation key ((tracker.streams.lookup key).getD {}) frame).state }) := by
      rw [observe, hkey]
      dsimp only
      rw [if_neg h.1, if_neg]
      rintro ⟨hnone, hfull⟩
      rcases h.2 with hsome | hroom
      · rw [Option.isNone_iff_eq_none.mp hnone] at hsome
        exact absurd hsome Bool.false_ne_true
      · exact absurd hroom (Nat.not_lt.mpr hfull)
    rw [exec_cons, observeStep, hobserve]
    refine (ih ⟨h.1, Or.inl ?_⟩ (fun frame hmem => hframes frame (List.mem_cons_of_mem _ hmem))
      _).trans ?_
    · rw [AList.lookup_insert]
      rfl
    · rw [AList.lookup_insert, List.append_assoc]
      rfl

/-- **The reports of one stream are judged by the state of the stream.** -/
theorem observations_of_accepts {tracker : MmsReportSequenceTracker} {key : Bytes}
    (h : tracker.Accepts key) {frames : List MmsReportFrame}
    (hframes : ∀ frame ∈ frames, frame.routingKey = key) :
    tracker.observations frames =
      streamObservations key ((tracker.streams.lookup key).getD {}) frames :=
  (exec_observeStep h hframes []).trans (List.nil_append _)

end MmsReportSequenceTracker

end ArStack.Mms
