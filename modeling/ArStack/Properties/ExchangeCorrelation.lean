import ArStack.Lib.History
import ArStack.TimeSync.PtpTimeReceiver

/-!
# Offsets come from matching exchanges

* `Effect`, `step_effect` — what a call can do
* `OffsetEvidence`, `PathEvidence`, `PdelayExchange` — where a measurement comes from
* `Correlated` — the invariant
* `exchange_correlated` — every sequence of calls
* `sync_ignored` — a Sync that does not supersede the pending one
-/

namespace ArStack.TimeSync

open ArStack.Lib

namespace PtpTimeReceiver

/-! ## What a call can do -/

/-- Source and options stay, and the evidence of the source is not renewed when it is stale. -/
structure Keeps (r : PtpTimeReceiver) (now : Int) (r' : PtpTimeReceiver) : Prop where
  options : r'.options = r.options
  selected : r'.status.selectedSource = r.status.selectedSource
  seen : r'.selectedAnnounceLastSeen = r.selectedAnnounceLastSeen ∧
      r'.selectedSourceTimeout = r.selectedSourceTimeout ∨ r.selectedAnnounceStale now = false

theorem Keeps.refl (r : PtpTimeReceiver) (now : Int) : Keeps r now r := ⟨rfl, rfl, .inl ⟨rfl, rfl⟩⟩

/-- What a call may drop. -/
structure Drops (r : PtpTimeReceiver) (now : Int) (r' : PtpTimeReceiver) : Prop where
  keeps : Keeps r now r'
  sync : r'.pendingSync = none ∨
    r'.pendingSync = r.pendingSync ∧ r'.status.syncFrames = r.status.syncFrames
  pdelay : r'.pendingPdelay = none ∨ r'.pendingPdelay = r.pendingPdelay
  path : r'.status.meanPathDelayNs = none ∨
    r'.status.meanPathDelayNs = r.status.meanPathDelayNs ∧ r'.lastPathDelayAt = r.lastPathDelayAt

theorem Drops.refl (r : PtpTimeReceiver) (now : Int) : Drops r now r :=
  ⟨.refl r now, .inr ⟨rfl, rfl⟩, .inr rfl, .inr ⟨rfl, rfl⟩⟩

/-- The frame belongs to the pending Pdelay exchange. -/
structure Matches (r : PtpTimeReceiver) (messageType : PtpMessageType) (frame : PtpFrame) (now : Int)
    (pending : PendingPdelay) (timestamp : PtpTimestamp) : Prop where
  held : r.pendingPdelay = some pending
  type : frame.header.messageType = messageType
  body : parsePdelayBody frame = some (timestamp, r.options.localPortIdentity)
  sequence : frame.header.sequenceId = pending.sequenceId
  selected : r.status.selectedSource = some frame.header.sourcePortIdentity
  fresh : r.selectedAnnounceStale now = false

/-- The exchange of a pending request and its follow-up. -/
def exchangeOf (pending : PendingPdelay) (t3 : PtpTimestamp) (correction : Int64) :
    PtpPeerDelayExchange where
  t1RequestTx := pending.t1
  t2PeerRequestRx := pending.t2
  t3PeerResponseTx := t3
  t4ResponseRx := pending.t4
  responseCorrectionField := pending.responseCorrectionField
  responseFollowUpCorrectionField := correction

/-- The offset of a pending Sync. -/
structure Completes (r : PtpTimeReceiver) (pending : PendingSync) (origin : PtpTimestamp)
    (correction : Int64) (m : PtpOffsetMeasurement) (r' : PtpTimeReceiver) : Prop where
  path : r.status.meanPathDelayNs = some m.meanPathDelayNs
  offset : calculateOffsetFromMaster {
    masterOriginTimestamp := origin
    localReceiveTimestamp := pending.localRxTimestamp
    meanPathDelayNs := m.meanPathDelayNs
    syncCorrectionField := pending.syncCorrectionField
    followUpCorrectionField := correction } = some m.offsetFromMasterNs
  source : m.sourcePortIdentity = pending.source
  sequence : m.syncSequenceId = pending.sequenceId
  traceable : m.globallyTraceable = r.status.selectedSourceGloballyTraceable
  consumed : r'.pendingSync = none
  pdelay : r'.pendingPdelay = r.pendingPdelay
  kept : r'.status.meanPathDelayNs = r.status.meanPathDelayNs ∧
    r'.lastPathDelayAt = r.lastPathDelayAt

/-- What a call does. -/
inductive Effect (r : PtpTimeReceiver) (now : Int) :
    PtpReceiverCall → PtpReceiverAnswer → PtpTimeReceiver → Prop where
  | cleared {call : PtpReceiverCall} {answer : PtpReceiverAnswer} {r' : PtpTimeReceiver}
      (hanswer : answer = .none ∨ answer = .reselected) (hsync : r'.pendingSync = none)
      (hpdelay : r'.pendingPdelay = none) (hpath : r'.status.meanPathDelayNs = none) :
      Effect r now call answer r'
  | kept {call : PtpReceiverCall} {r' : PtpTimeReceiver} (hdrops : Drops r now r') :
      Effect r now call .none r'
  | requested {sequenceId : UInt16} {t1 : PtpTimestamp} :
      Effect r now (.notePdelayRequest sequenceId t1) .none (r.notePdelayRequest sequenceId t1 now)
  | responded {frame : PtpFrame} {t4 : PtpTimestamp} {pending : PendingPdelay} {t2 : PtpTimestamp}
      (hmatches : Matches r .pdelayResp frame now pending t2) :
      Effect r now (.observePdelayResponse frame t4) .none
        { r with
          status.pdelayResponses := r.status.pdelayResponses + 1
          pendingPdelay := some { pending with
            t2, t4
            responseCorrectionField := frame.header.correctionField
            responseReceived := true } }
  | followedUp {frame : PtpFrame} {pending : PendingPdelay} {t3 : PtpTimestamp}
      {measurement : PtpPeerDelayMeasurement}
      (hmatches : Matches r .pdelayRespFollowUp frame now pending t3)
      (hreceived : pending.responseReceived = true)
      (hdelay : calculatePeerDelay (exchangeOf pending t3 frame.header.correctionField) =
        some measurement) :
      Effect r now (.observePdelayResponseFollowUp frame) (.pathDelay measurement)
        { r with
          pendingPdelay := none
          status.meanPathDelayNs := some measurement.meanPathDelayNs
          status.completedPdelayExchanges := r.status.completedPdelayExchanges + 1
          lastPathDelayAt := some now }
  | synced {frame : PtpFrame} {rx : PtpTimestamp} {r' : PtpTimeReceiver}
      (htype : frame.header.messageType = .sync)
      (hselected : r.status.selectedSource = some frame.header.sourcePortIdentity)
      (hfresh : r.selectedAnnounceStale now = false) (htwo : frame.header.isTwoStep = true)
      (hkeeps : Keeps r now r') (hframes : r'.status.syncFrames = r.status.syncFrames + 1)
      (hsync : r'.pendingSync = some (pendingOf frame rx now))
      (hpdelay : r'.pendingPdelay = r.pendingPdelay)
      (hpath : r'.status.meanPathDelayNs = r.status.meanPathDelayNs ∧
        r'.lastPathDelayAt = r.lastPathDelayAt) : Effect r now (.observeSync frame rx) .none r'
  | oneStep {frame : PtpFrame} {rx : PtpTimestamp} {r' : PtpTimeReceiver} {origin : PtpTimestamp}
      {m : PtpOffsetMeasurement} (htype : frame.header.messageType = .sync)
      (hselected : r.status.selectedSource = some frame.header.sourcePortIdentity)
      (hfresh : r.selectedAnnounceStale now = false) (hstale : r.pathDelayStale now = false)
      (htwo : frame.header.isTwoStep = false) (horigin : frame.timestamp = some origin)
      (hkeeps : Keeps r now r') (hcompletes : Completes r (pendingOf frame rx now) origin 0 m r') :
      Effect r now (.observeSync frame rx) (.offset m) r'
  | twoStep {frame : PtpFrame} {r' : PtpTimeReceiver} {pending : PendingSync} {origin : PtpTimestamp}
      {m : PtpOffsetMeasurement} (htype : frame.header.messageType = .followUp)
      (hpending : r.pendingSync = some pending)
      (hselected : r.status.selectedSource = some frame.header.sourcePortIdentity)
      (hsource : frame.header.sourcePortIdentity = pending.source)
      (hsequence : frame.header.sequenceId = pending.sequenceId)
      (hfresh : r.selectedAnnounceStale now = false) (hstale : r.pathDelayStale now = false)
      (horigin : frame.timestamp = some origin) (hkeeps : Keeps r now r')
      (hcompletes : Completes r pending origin frame.header.correctionField m r') :
      Effect r now (.observeFollowUp frame) (.offset m) r'

/-- What a rejection leaves alone. -/
theorem recordSyncRejection_eq (r : PtpTimeReceiver) :
    ∃ rejectedExchanges, r.recordSyncRejection =
      { r with status.rejectedExchanges := rejectedExchanges } := by
  rw [recordSyncRejection]
  split
  · exact ⟨_, rfl⟩
  · exact ⟨_, rfl⟩

theorem beginSync_eq (r : PtpTimeReceiver) (pending : PendingSync) :
    ∃ rejectedExchanges, r.beginSync pending =
      { r with
        status.syncFrames := r.status.syncFrames + 1
        status.rejectedExchanges := rejectedExchanges
        pendingSync := some pending } := by
  obtain ⟨rejectedExchanges, hreject⟩ := recordSyncRejection_eq
    { r with status.syncFrames := r.status.syncFrames + 1 }
  rw [beginSync]
  dsimp only at hreject ⊢
  split
  · rw [hreject]
    exact ⟨_, rfl⟩
  · exact ⟨_, rfl⟩

theorem matches_of_matchPdelay {r : PtpTimeReceiver} {messageType : PtpMessageType}
    {frame : PtpFrame} {now : Int} {pending : PendingPdelay} {timestamp : PtpTimestamp}
    (h : r.matchPdelay messageType frame now = some (pending, timestamp)) :
    Matches r messageType frame now pending timestamp := by
  rw [matchPdelay] at h
  split at h
  · rename_i pending' timestamp' requester hpending hbody
    split at h
    · cases h
    · rename_i hcheck
      cases h
      simp only [Bool.or_eq_true, Bool.not_eq_true', decide_eq_true_eq, not_or, ne_eq, not_not,
        Bool.not_eq_true, Bool.not_eq_false, sourceMatchesSelected] at hcheck
      obtain ⟨⟨⟨⟨⟨-, htype⟩, hrequester⟩, hsequence⟩, hselected⟩, hfresh⟩ := hcheck
      exact ⟨hpending, htype, hrequester ▸ hbody, hsequence, hselected, hfresh⟩
  · cases h

theorem observeAnnounce_effect (r : PtpTimeReceiver) (frame : PtpFrame) (now : Int) :
    Effect r now (.observeAnnounce frame)
      (if (r.observeAnnounce frame now).1 then .reselected else .none)
      (r.observeAnnounce frame now).2 := by
  have hsame : Effect r now (.observeAnnounce frame) .none r := .kept (.refl r now)
  rw [observeAnnounce]
  split
  · exact hsame
  split
  · exact hsame
  dsimp only
  split
  · exact .kept ⟨⟨rfl, rfl, .inl ⟨rfl, rfl⟩⟩, .inr ⟨rfl, rfl⟩, .inr rfl, .inr ⟨rfl, rfl⟩⟩
  split
  · exact .cleared (.inr rfl) rfl rfl rfl
  · rename_i hchanged
    simp only [Bool.or_eq_true, Bool.not_eq_true', not_or, Bool.not_eq_false,
      Bool.not_eq_true] at hchanged
    refine .kept ⟨⟨rfl, ?_, .inr hchanged.2⟩, .inr ⟨rfl, rfl⟩, .inr rfl, .inr ⟨rfl, rfl⟩⟩
    exact (of_decide_eq_true hchanged.1).symm

theorem expirePathDelay_drops (r : PtpTimeReceiver) (now : Int) :
    Drops r now (r.expirePathDelay now) := by
  rw [expirePathDelay]
  split
  · exact ⟨⟨rfl, rfl, .inl ⟨rfl, rfl⟩⟩, .inl rfl, .inr rfl, .inl rfl⟩
  · exact .refl r now

theorem expireSync_drops {r r' : PtpTimeReceiver} {now : Int} (h : Drops r now r') :
    Drops r now (r'.expireSync now) := by
  obtain ⟨hkeeps, hsync, hpdelay, hpath⟩ := h
  rw [expireSync]
  split
  · split
    · obtain ⟨rejectedExchanges, hreject⟩ := recordSyncRejection_eq { r' with pendingSync := none }
      rw [hreject]
      exact ⟨⟨hkeeps.1, hkeeps.2, hkeeps.3⟩, .inl rfl, hpdelay, hpath⟩
    · exact ⟨hkeeps, hsync, hpdelay, hpath⟩
  · exact ⟨hkeeps, hsync, hpdelay, hpath⟩

theorem expirePdelay_drops {r r' : PtpTimeReceiver} {now : Int} (h : Drops r now r') :
    Drops r now (r'.expirePdelay now) := by
  obtain ⟨hkeeps, hsync, hpdelay, hpath⟩ := h
  rw [expirePdelay]
  split
  · split
    · exact ⟨⟨hkeeps.1, hkeeps.2, hkeeps.3⟩, hsync, .inl rfl, hpath⟩
    · exact ⟨hkeeps, hsync, hpdelay, hpath⟩
  · exact ⟨hkeeps, hsync, hpdelay, hpath⟩

theorem tick_effect (r : PtpTimeReceiver) (now : Int) :
    Effect r now .tick (if (r.tick now).1 then .reselected else .none) (r.tick now).2 := by
  rw [tick]
  split
  · exact .cleared (.inr rfl) rfl rfl rfl
  · exact .kept (expirePdelay_drops (expireSync_drops (expirePathDelay_drops r now)))

/-- A correlated pair gives an offset, or none. -/
theorem completeSync_cases {r : PtpTimeReceiver} {pending : PendingSync}
    (hpending : r.pendingSync = some pending) (origin : PtpTimestamp) (correction : Int64) :
    ∃ answer r', r.completeSync origin correction pending.sequenceId = (answer, r') ∧
      r'.options = r.options ∧ r'.status.selectedSource = r.status.selectedSource ∧
      r'.selectedAnnounceLastSeen = r.selectedAnnounceLastSeen ∧
      r'.selectedSourceTimeout = r.selectedSourceTimeout ∧ r'.pendingSync = none ∧
      r'.pendingPdelay = r.pendingPdelay ∧
      r'.status.meanPathDelayNs = r.status.meanPathDelayNs ∧
      r'.lastPathDelayAt = r.lastPathDelayAt ∧
      ∀ m, answer = some m → Completes r pending origin correction m r' := by
  rw [completeSync, hpending]
  dsimp only
  rw [if_neg (by simp)]
  obtain ⟨rejectedExchanges, hreject⟩ := recordSyncRejection_eq { r with pendingSync := none }
  rw [hreject]
  split
  · exact ⟨_, _, rfl, rfl, rfl, rfl, rfl, rfl, rfl, rfl, rfl, fun m h => (by cases h)⟩
  · rename_i meanPathDelayNs hpath
    split
    · exact ⟨_, _, rfl, rfl, rfl, rfl, rfl, rfl, rfl, rfl, rfl, fun m h => (by cases h)⟩
    · rename_i offset hoffset
      refine ⟨_, _, rfl, rfl, rfl, rfl, rfl, rfl, rfl, rfl, rfl, fun m h => ?_⟩
      cases h
      exact ⟨hpath, hoffset, rfl, rfl, rfl, rfl, rfl, rfl, rfl⟩

/-- The answer of a call that measures an offset. -/
def offsetAnswer (measurement : Option PtpOffsetMeasurement) : PtpReceiverAnswer :=
  measurement.elim .none .offset

theorem observeSync_effect (r : PtpTimeReceiver) (frame : PtpFrame) (rx : PtpTimestamp) (now : Int) :
    Effect r now (.observeSync frame rx) (offsetAnswer (r.observeSync frame rx now).1)
      (r.observeSync frame rx now).2 := by
  rw [observeSync]
  split
  · exact .kept (.refl r now)
  rename_i hcheck
  simp only [Bool.or_eq_true, Bool.not_eq_true', decide_eq_true_eq, not_or, ne_eq, not_not,
    Bool.not_eq_true, Bool.not_eq_false, sourceMatchesSelected] at hcheck
  obtain ⟨⟨⟨⟨-, htype⟩, hselected⟩, hfresh⟩, hstale⟩ := hcheck
  obtain ⟨rejectedExchanges, hbegin⟩ := beginSync_eq r (pendingOf frame rx now)
  dsimp only
  rw [hbegin]
  split
  · exact .synced htype hselected hfresh ‹_› ⟨rfl, rfl, .inl ⟨rfl, rfl⟩⟩ rfl rfl rfl ⟨rfl, rfl⟩
  rename_i htwo
  split
  · obtain ⟨rejectedExchanges', hreject⟩ :=
      recordSyncRejection_eq (r.beginSync (pendingOf frame rx now))
    rw [← hbegin, hreject, hbegin]
    exact .kept ⟨⟨rfl, rfl, .inl ⟨rfl, rfl⟩⟩, .inl rfl, .inr rfl, .inr ⟨rfl, rfl⟩⟩
  · rename_i origin horigin
    rw [← hbegin]
    obtain ⟨answer, r', heq, hoptions, hsource, hseen, htimeout, hsync, hpdelay, hmean, hlast,
      hcompletes⟩ := completeSync_cases (r := r.beginSync (pendingOf frame rx now))
        (by rw [hbegin]) origin 0
    change (r.beginSync (pendingOf frame rx now)).completeSync origin 0 frame.header.sequenceId =
      (answer, r') at heq
    rw [heq]
    rw [hbegin] at hoptions hsource hseen htimeout hpdelay hmean hlast
    have hkeeps : Keeps r now r' := ⟨hoptions, hsource, .inl ⟨hseen, htimeout⟩⟩
    cases answer with
    | none => exact .kept ⟨hkeeps, .inl hsync, .inr hpdelay, .inr ⟨hmean, hlast⟩⟩
    | some m =>
      have hm := hcompletes m rfl
      rw [hbegin] at hm
      exact .oneStep htype hselected hfresh hstale (by simpa using htwo) horigin hkeeps
        ⟨hm.path, hm.offset, hm.source, hm.sequence, hm.traceable, hm.consumed, hm.pdelay, hm.kept⟩

theorem observeFollowUp_effect (r : PtpTimeReceiver) (frame : PtpFrame) (now : Int) :
    Effect r now (.observeFollowUp frame) (offsetAnswer (r.observeFollowUp frame now).1)
      (r.observeFollowUp frame now).2 := by
  rw [observeFollowUp]
  split
  · exact .kept (.refl r now)
  rename_i origin horigin
  split
  · exact .kept (.refl r now)
  rename_i hcheck
  simp only [Bool.or_eq_true, Bool.not_eq_true', decide_eq_true_eq, not_or, ne_eq, not_not,
    Bool.not_eq_true, Bool.not_eq_false, sourceMatchesSelected] at hcheck
  obtain ⟨⟨⟨⟨-, htype⟩, hselected⟩, hfresh⟩, hstale⟩ := hcheck
  obtain ⟨rejectedExchanges, hreject⟩ := recordSyncRejection_eq
    { r with status.followUpFrames := r.status.followUpFrames + 1 }
  have hrejected : Effect r now (.observeFollowUp frame) .none
      { r with
        status.followUpFrames := r.status.followUpFrames + 1
        status.rejectedExchanges := rejectedExchanges } :=
    .kept ⟨⟨rfl, rfl, .inl ⟨rfl, rfl⟩⟩, .inr ⟨rfl, rfl⟩, .inr rfl, .inr ⟨rfl, rfl⟩⟩
  dsimp only at hreject ⊢
  rw [hreject]
  split
  · exact hrejected
  · rename_i pending hpending
    split
    · exact hrejected
    · rename_i hpair
      obtain ⟨hsource, hsequence⟩ := not_or.mp hpair
      rw [not_not] at hsource hsequence
      obtain ⟨answer, r', heq, hoptions, hsource', hseen, htimeout, hsync, hpdelay, hmean, hlast,
        hcompletes⟩ := completeSync_cases (r := { r with
          status.followUpFrames := r.status.followUpFrames + 1 }) hpending origin
          frame.header.correctionField
      rw [← hsequence, heq]
      have hkeeps : Keeps r now r' := ⟨hoptions, hsource', .inl ⟨hseen, htimeout⟩⟩
      cases answer with
      | none => exact .kept ⟨hkeeps, .inl hsync, .inr hpdelay, .inr ⟨hmean, hlast⟩⟩
      | some m =>
        obtain ⟨hpath, hoffset, hm, hid, htraceable, hconsumed, hpdelay, hkept⟩ := hcompletes m rfl
        exact .twoStep htype hpending hselected hsource.symm hsequence.symm hfresh hstale horigin
          hkeeps ⟨hpath, hoffset, hm, hid, htraceable, hconsumed, hpdelay, hkept⟩

theorem observePdelayResponse_effect (r : PtpTimeReceiver) (frame : PtpFrame) (t4 : PtpTimestamp)
    (now : Int) : Effect r now (.observePdelayResponse frame t4) .none
      (r.observePdelayResponse frame t4 now).2 := by
  rw [observePdelayResponse]
  split
  · exact .kept ⟨⟨rfl, rfl, .inl ⟨rfl, rfl⟩⟩, .inr ⟨rfl, rfl⟩, .inr rfl, .inr ⟨rfl, rfl⟩⟩
  · exact .responded (matches_of_matchPdelay ‹_›)

theorem observePdelayResponseFollowUp_effect (r : PtpTimeReceiver) (frame : PtpFrame) (now : Int) :
    Effect r now (.observePdelayResponseFollowUp frame)
      ((r.observePdelayResponseFollowUp frame now).1.elim .none .pathDelay)
      (r.observePdelayResponseFollowUp frame now).2 := by
  have hrejected : Effect r now (.observePdelayResponseFollowUp frame) .none r.reject :=
    .kept ⟨⟨rfl, rfl, .inl ⟨rfl, rfl⟩⟩, .inr ⟨rfl, rfl⟩, .inr rfl, .inr ⟨rfl, rfl⟩⟩
  rw [observePdelayResponseFollowUp]
  split
  · exact hrejected
  · rename_i pending t3 hmatch
    split
    · exact hrejected
    · rename_i hreceived
      dsimp only
      split
      · exact .kept ⟨⟨rfl, rfl, .inl ⟨rfl, rfl⟩⟩, .inr ⟨rfl, rfl⟩, .inl rfl, .inr ⟨rfl, rfl⟩⟩
      · exact .followedUp (matches_of_matchPdelay hmatch) (by simpa using hreceived) ‹_›

theorem step_effect (r : PtpTimeReceiver) (call : PtpReceiverCall) (now : Int) :
    Effect r now call (r.step (call, now)).1 (r.step (call, now)).2 := by
  cases call with
  | observeAnnounce frame => exact r.observeAnnounce_effect frame now
  | notePdelayRequest sequenceId t1 => exact .requested
  | observePdelayResponse frame t4 => exact r.observePdelayResponse_effect frame t4 now
  | observePdelayResponseFollowUp frame => exact r.observePdelayResponseFollowUp_effect frame now
  | observeSync frame rx => exact r.observeSync_effect frame rx now
  | observeFollowUp frame => exact r.observeFollowUp_effect frame now
  | tick => exact r.tick_effect now
  | reset => exact .cleared (.inl rfl) rfl rfl rfl
  | reconfigure options => exact .cleared (.inl rfl) rfl rfl rfl

/-! ## Where a measurement comes from -/

abbrev ReceiverStep := Step PtpTimeReceiver (PtpReceiverCall × Int) PtpReceiverAnswer

/-- The call counts a Sync frame of the selected source. -/
def AcceptedSync (t : ReceiverStep) : Prop :=
  (∃ frame rx, t.event.1 = .observeSync frame rx) ∧
    t.after.status.syncFrames ≠ t.before.status.syncFrames

/-- The selection stays, and its evidence is not stale. -/
structure Undisturbed (selected : Option PtpPortIdentity) (t : ReceiverStep) : Prop where
  before : t.before.status.selectedSource = selected
  after : t.after.status.selectedSource = selected
  fresh : t.before.selectedAnnounceStale t.event.2 = false
  kept : t.output ≠ .reselected

/-- Nothing disturbs the selection, and no path delay is measured. -/
def Calm (selected : Option PtpPortIdentity) (t : ReceiverStep) : Prop :=
  Undisturbed selected t ∧ ∀ measurement, t.output ≠ .pathDelay measurement

/-- The Pdelay response of an exchange. -/
structure Responded (response : ReceiverStep) (frame : PtpFrame) (p : PendingPdelay)
    (localPort : PtpPortIdentity) : Prop where
  event : response.event.1 = .observePdelayResponse frame p.t4
  type : frame.header.messageType = .pdelayResp
  body : parsePdelayBody frame = some (p.t2, localPort)
  port : response.before.options.localPortIdentity = localPort
  sequence : frame.header.sequenceId = p.sequenceId
  correction : p.responseCorrectionField = frame.header.correctionField

/-- The follow-up of an exchange. -/
structure FollowedUp (t : ReceiverStep) (frame : PtpFrame) (p : PendingPdelay)
    (localPort : PtpPortIdentity) (measurement : PtpPeerDelayMeasurement) : Prop where
  event : t.event.1 = .observePdelayResponseFollowUp frame
  type : frame.header.messageType = .pdelayRespFollowUp
  port : t.before.options.localPortIdentity = localPort
  sequence : frame.header.sequenceId = p.sequenceId
  delay : ∃ t3, parsePdelayBody frame = some (t3, localPort) ∧
    calculatePeerDelay (exchangeOf p t3 frame.header.correctionField) = some measurement

/-- The request of the pending exchange and, once it is there, its response. -/
def RequestEvidence (past : List ReceiverStep) (selected : Option PtpPortIdentity)
    (localPort : PtpPortIdentity) (p : PendingPdelay) : Prop :=
  ∃ earlier request since, past = earlier ++ request :: since ∧
    request.event.1 = .notePdelayRequest p.sequenceId p.t1 ∧
    request.after.status.selectedSource = selected ∧ (∀ u ∈ since, Calm selected u) ∧
    (p.responseReceived = true → ∃ between response rest frame,
      since = between ++ response :: rest ∧ selected = some frame.header.sourcePortIdentity ∧
      Responded response frame p localPort)

/-- A step completes a Pdelay exchange with the source: request, response and follow-up carry one
sequence id and name this port, and the source was selected before the request. -/
def PdelayExchange (past : List ReceiverStep) (t : ReceiverStep) (source : PtpPortIdentity)
    (measurement : PtpPeerDelayMeasurement) : Prop :=
  ∃ p localPort frame, p.responseReceived = true ∧
    RequestEvidence past (some source) localPort p ∧ FollowedUp t frame p localPort measurement ∧
    frame.header.sourcePortIdentity = source

/-- The path delay is the one of the latest completed exchange. -/
def PathEvidence (past : List ReceiverStep) (selected : Option PtpPortIdentity) (meanPathDelayNs : Int64)
    (completedAt : Int) : Prop :=
  ∃ earlier t since source measurement, past = earlier ++ t :: since ∧ selected = some source ∧
    t.output = .pathDelay measurement ∧ measurement.meanPathDelayNs = meanPathDelayNs ∧
    t.event.2 = completedAt ∧ t.after.status.selectedSource = selected ∧
    PdelayExchange earlier t source measurement ∧ ∀ u ∈ since, Calm selected u

/-- The pending Sync, and no other Sync and no offset since. -/
def SyncEvidence (past : List ReceiverStep) (p : PendingSync) : Prop :=
  ∃ earlier sync since frame rx, past = earlier ++ sync :: since ∧
    sync.event.1 = .observeSync frame rx ∧ frame.header.messageType = .sync ∧
    frame.header.isTwoStep = true ∧ sync.output = .none ∧
    sync.before.status.selectedSource = some p.source ∧
    sync.after.status.selectedSource = some p.source ∧
    sync.before.selectedAnnounceStale sync.event.2 = false ∧
    p = pendingOf frame rx sync.event.2 ∧
    ∀ u ∈ since, Undisturbed (some p.source) u ∧ ¬AcceptedSync u ∧ ∀ m, u.output ≠ .offset m

/-- The Sync of an offset, with the Follow_Up of a two-step one. -/
inductive FromSync (past : List ReceiverStep) (t : ReceiverStep) :
    PendingSync → PtpTimestamp → Int64 → Prop where
  | oneStep {frame : PtpFrame} {rx origin : PtpTimestamp}
      (hevent : t.event.1 = .observeSync frame rx) (htype : frame.header.messageType = .sync)
      (htwo : frame.header.isTwoStep = false) (horigin : frame.timestamp = some origin) :
      FromSync past t (pendingOf frame rx t.event.2) origin 0
  | twoStep {p : PendingSync} {frame : PtpFrame} {origin : PtpTimestamp}
      (hsync : SyncEvidence past p) (hevent : t.event.1 = .observeFollowUp frame)
      (htype : frame.header.messageType = .followUp)
      (hsource : frame.header.sourcePortIdentity = p.source)
      (hsequence : frame.header.sequenceId = p.sequenceId)
      (horigin : frame.timestamp = some origin) :
      FromSync past t p origin frame.header.correctionField

/-- Where an offset comes from. -/
structure OffsetEvidence (past : List ReceiverStep) (t : ReceiverStep) (m : PtpOffsetMeasurement) :
    Prop where
  selected : t.before.status.selectedSource = some m.sourcePortIdentity
  fresh : t.before.selectedAnnounceStale t.event.2 = false
  offset : ∃ p origin correction, FromSync past t p origin correction ∧
    m.sourcePortIdentity = p.source ∧ m.syncSequenceId = p.sequenceId ∧
    calculateOffsetFromMaster {
      masterOriginTimestamp := origin
      localReceiveTimestamp := p.localRxTimestamp
      meanPathDelayNs := m.meanPathDelayNs
      syncCorrectionField := p.syncCorrectionField
      followUpCorrectionField := correction } = some m.offsetFromMasterNs
  path : ∃ completedAt,
    PathEvidence past (some m.sourcePortIdentity) m.meanPathDelayNs completedAt ∧
    t.event.2 - completedAt ≤ max 0 (t.before.options.pathDelayTimeout * millisecond)

/-- What holds of a call, given the calls before it. -/
structure CorrelationSafe (past : List ReceiverStep) (t : ReceiverStep) : Prop where
  offset : ∀ m, t.output = .offset m → OffsetEvidence past t m
  pathDelay : ∀ measurement, t.output = .pathDelay measurement →
    ∃ source, t.before.status.selectedSource = some source ∧
      t.before.selectedAnnounceStale t.event.2 = false ∧
      PdelayExchange past t source measurement

/-! ## The invariant -/

/-- The evidence of the selected source was not stale at any call. -/
def Fresh (past : List ReceiverStep) (r : PtpTimeReceiver) : Prop :=
  ∀ u ∈ past, r.selectedAnnounceStale u.event.2 = false

/-- Where the pending Sync comes from. -/
def SyncInv (past : List ReceiverStep) (r : PtpTimeReceiver) : Prop :=
  ∀ p, r.pendingSync = some p →
    r.status.selectedSource = some p.source ∧ (Fresh past r → SyncEvidence past p)

/-- Where the pending Pdelay exchange comes from. -/
def PdelayInv (past : List ReceiverStep) (r : PtpTimeReceiver) : Prop :=
  ∀ p, r.pendingPdelay = some p → Fresh past r →
    RequestEvidence past r.status.selectedSource r.options.localPortIdentity p

/-- Where the path delay comes from. -/
def PathInv (past : List ReceiverStep) (r : PtpTimeReceiver) : Prop :=
  ∀ meanPathDelayNs, r.status.meanPathDelayNs = some meanPathDelayNs → Fresh past r →
    ∃ completedAt, r.lastPathDelayAt = some completedAt ∧
      PathEvidence past r.status.selectedSource meanPathDelayNs completedAt

structure Correlated (past : List ReceiverStep) (r : PtpTimeReceiver) : Prop where
  sync : SyncInv past r
  pdelay : PdelayInv past r
  path : PathInv past r

section

variable {past : List ReceiverStep} {r r' : PtpTimeReceiver} {call : PtpReceiverCall} {now : Int}
  {answer : PtpReceiverAnswer} {t : ReceiverStep}

theorem elapsed_mono {now now' since timeout : Int} (hle : now ≤ now')
    (h : elapsed now since timeout = true) : elapsed now' since timeout = true := by
  rw [elapsed, Bool.and_eq_true, decide_eq_true_eq, decide_eq_true_eq] at h ⊢
  omega

theorem stale_mono {now now' : Int} (hle : now ≤ now') (h : r.selectedAnnounceStale now' = false) :
    r.selectedAnnounceStale now = false := by
  rw [selectedAnnounceStale] at h ⊢
  split at h
  · rfl
  · exact Bool.eq_false_iff.mpr fun h' => Bool.eq_false_iff.mp h (elapsed_mono hle h')

theorem fresh_of_not_stale (htimes : ∀ u ∈ past, u.event.2 ≤ now)
    (h : r.selectedAnnounceStale now = false) : Fresh past r :=
  fun u hu => stale_mono (htimes u hu) h

theorem Keeps.fresh (h : Keeps r now r') (htimes : ∀ u ∈ past, u.event.2 ≤ now)
    (ht : t.event.2 = now) (hfresh : Fresh (past ++ [t]) r') :
    Fresh past r ∧ r.selectedAnnounceStale now = false := by
  have hnow : r.selectedAnnounceStale now = false := by
    rcases h.seen with ⟨hseen, htimeout⟩ | h
    · have hlast := hfresh t (List.mem_append_right _ List.mem_cons_self)
      rwa [ht, selectedAnnounceStale, hseen, htimeout] at hlast
    · exact h
  exact ⟨fresh_of_not_stale htimes hnow, hnow⟩

theorem forall_mem_concat {P : ReceiverStep → Prop} {since : List ReceiverStep}
    (h : ∀ u ∈ since, P u) (ht : P t) : ∀ u ∈ since ++ [t], P u := fun u hu => by
  rcases List.mem_append.mp hu with hu | hu
  · exact h u hu
  · rwa [List.mem_singleton.mp hu]

theorem RequestEvidence.concat {selected : Option PtpPortIdentity} {localPort : PtpPortIdentity}
    {p : PendingPdelay} (h : RequestEvidence past selected localPort p) (ht : Calm selected t) :
    RequestEvidence (past ++ [t]) selected localPort p := by
  obtain ⟨earlier, request, since, rfl, hevent, hselected, hsince, hresponse⟩ := h
  refine ⟨earlier, request, since ++ [t], by rw [List.append_assoc, List.cons_append], hevent,
    hselected, forall_mem_concat hsince ht, fun hreceived => ?_⟩
  obtain ⟨between, response, rest, frame, rfl, hsource, hresponded⟩ := hresponse hreceived
  exact ⟨between, response, rest ++ [t], frame, by rw [List.append_assoc, List.cons_append],
    hsource, hresponded⟩

theorem PathEvidence.concat {selected : Option PtpPortIdentity} {meanPathDelayNs : Int64}
    {completedAt : Int} (h : PathEvidence past selected meanPathDelayNs completedAt)
    (ht : Calm selected t) : PathEvidence (past ++ [t]) selected meanPathDelayNs completedAt := by
  obtain ⟨earlier, u, since, source, measurement, rfl, hselected, hout, hmean, hat, hafter, hexchange,
    hsince⟩ := h
  exact ⟨earlier, u, since ++ [t], source, measurement, by rw [List.append_assoc, List.cons_append],
    hselected, hout, hmean, hat, hafter, hexchange, forall_mem_concat hsince ht⟩

theorem SyncEvidence.concat {p : PendingSync} (h : SyncEvidence past p)
    (ht : Undisturbed (some p.source) t) (hsync : ¬AcceptedSync t)
    (hout : ∀ m, t.output ≠ .offset m) : SyncEvidence (past ++ [t]) p := by
  obtain ⟨earlier, sync, since, frame, rx, rfl, hevent, htype, htwo, hnone, hbefore, hafter, hfresh,
    hp, hsince⟩ := h
  exact ⟨earlier, sync, since ++ [t], frame, rx, by rw [List.append_assoc, List.cons_append], hevent,
    htype, htwo, hnone, hbefore, hafter, hfresh, hp,
    forall_mem_concat hsince ⟨ht, hsync, hout⟩⟩

theorem Keeps.undisturbed (h : Keeps r now r') (hfresh : r.selectedAnnounceStale now = false)
    (hanswer : answer ≠ .reselected) :
    Undisturbed r.status.selectedSource ⟨(call, now), r, answer, r'⟩ :=
  ⟨rfl, h.selected, hfresh, hanswer⟩

theorem Keeps.calm (h : Keeps r now r') (hfresh : r.selectedAnnounceStale now = false)
    (hanswer : answer ≠ .reselected ∧ ∀ measurement, answer ≠ .pathDelay measurement) :
    Calm r.status.selectedSource ⟨(call, now), r, answer, r'⟩ :=
  ⟨h.undisturbed hfresh hanswer.1, hanswer.2⟩

theorem SyncInv.keep (h : SyncInv past r) (hkeeps : Keeps r now r')
    (htimes : ∀ u ∈ past, u.event.2 ≤ now) (hsame : r'.pendingSync = r.pendingSync)
    (hsync : ¬AcceptedSync ⟨(call, now), r, answer, r'⟩)
    (hanswer : answer ≠ .reselected ∧ ∀ m, answer ≠ .offset m) :
    SyncInv (past ++ [⟨(call, now), r, answer, r'⟩]) r' := by
  intro p hp
  rw [hsame] at hp
  obtain ⟨hselected, hevidence⟩ := h p hp
  refine ⟨hkeeps.selected.trans hselected, fun hfresh => ?_⟩
  obtain ⟨hfresh, hnow⟩ := hkeeps.fresh htimes rfl hfresh
  refine (hevidence hfresh).concat ?_ hsync hanswer.2
  rw [← hselected]
  exact hkeeps.undisturbed hnow hanswer.1

theorem PdelayInv.keep (h : PdelayInv past r) (hkeeps : Keeps r now r')
    (htimes : ∀ u ∈ past, u.event.2 ≤ now) (hsame : r'.pendingPdelay = r.pendingPdelay)
    (hanswer : answer ≠ .reselected ∧ ∀ measurement, answer ≠ .pathDelay measurement) :
    PdelayInv (past ++ [⟨(call, now), r, answer, r'⟩]) r' := by
  intro p hp hfresh
  rw [hsame] at hp
  obtain ⟨hfresh, hnow⟩ := hkeeps.fresh htimes rfl hfresh
  rw [hkeeps.selected, hkeeps.options]
  exact (h p hp hfresh).concat (hkeeps.calm hnow hanswer)

theorem PathInv.keep (h : PathInv past r) (hkeeps : Keeps r now r')
    (htimes : ∀ u ∈ past, u.event.2 ≤ now)
    (hsame : r'.status.meanPathDelayNs = r.status.meanPathDelayNs ∧
      r'.lastPathDelayAt = r.lastPathDelayAt)
    (hanswer : answer ≠ .reselected ∧ ∀ measurement, answer ≠ .pathDelay measurement) :
    PathInv (past ++ [⟨(call, now), r, answer, r'⟩]) r' := by
  intro meanPathDelayNs hmean hfresh
  rw [hsame.1] at hmean
  obtain ⟨hfresh, hnow⟩ := hkeeps.fresh htimes rfl hfresh
  obtain ⟨completedAt, hlast, hevidence⟩ := h meanPathDelayNs hmean hfresh
  rw [hkeeps.selected]
  exact ⟨completedAt, hsame.2.trans hlast, hevidence.concat (hkeeps.calm hnow hanswer)⟩

theorem syncInv_of_none (hsync : r.pendingSync = none) : SyncInv past r :=
  fun p hp => (by rw [hsync] at hp; cases hp)

theorem pdelayInv_of_none (hpdelay : r.pendingPdelay = none) : PdelayInv past r :=
  fun p hp => (by rw [hpdelay] at hp; cases hp)

theorem pathInv_of_none (hpath : r.status.meanPathDelayNs = none) : PathInv past r :=
  fun d hd => (by rw [hpath] at hd; cases hd)

theorem notSync_of_frames (h : r'.status.syncFrames = r.status.syncFrames) :
    ¬AcceptedSync ⟨(call, now), r, answer, r'⟩ := fun hsync => hsync.2 h

theorem quiet_none : PtpReceiverAnswer.none ≠ .reselected ∧
    (∀ m, PtpReceiverAnswer.none ≠ .offset m) ∧
    ∀ measurement, PtpReceiverAnswer.none ≠ .pathDelay measurement :=
  ⟨fun h => (by cases h), fun _ h => (by cases h), fun _ h => (by cases h)⟩

theorem quiet_offset (m : PtpOffsetMeasurement) : PtpReceiverAnswer.offset m ≠ .reselected ∧
    ∀ measurement, PtpReceiverAnswer.offset m ≠ .pathDelay measurement :=
  ⟨fun h => (by cases h), fun _ h => (by cases h)⟩

/-- One call keeps the invariant. -/
theorem correlated_effect (h : Correlated past r) (htimes : ∀ u ∈ past, u.event.2 ≤ now)
    (heffect : Effect r now call answer r') :
    Correlated (past ++ [⟨(call, now), r, answer, r'⟩]) r' := by
  obtain ⟨hsync, hpdelay, hpath⟩ := h
  obtain ⟨hnone, hnone', hnone''⟩ := quiet_none
  cases heffect with
  | cleared _ hs hp hd =>
    exact ⟨syncInv_of_none hs, pdelayInv_of_none hp, pathInv_of_none hd⟩
  | kept hdrops =>
    obtain ⟨hkeeps, hs, hp, hd⟩ := hdrops
    refine ⟨?_, ?_, ?_⟩
    · rcases hs with hs | ⟨hs, hframes⟩
      · exact syncInv_of_none hs
      · exact hsync.keep hkeeps htimes hs (notSync_of_frames hframes) ⟨hnone, hnone'⟩
    · rcases hp with hp | hp
      · exact pdelayInv_of_none hp
      · exact hpdelay.keep hkeeps htimes hp ⟨hnone, hnone''⟩
    · rcases hd with hd | hd
      · exact pathInv_of_none hd
      · exact hpath.keep hkeeps htimes hd ⟨hnone, hnone''⟩
  | @requested sequenceId t1 =>
    have hkeeps : Keeps r now (r.notePdelayRequest sequenceId t1 now) := ⟨rfl, rfl, .inl ⟨rfl, rfl⟩⟩
    refine ⟨hsync.keep hkeeps htimes rfl (notSync_of_frames rfl) ⟨hnone, hnone'⟩, ?_,
      hpath.keep hkeeps htimes ⟨rfl, rfl⟩ ⟨hnone, hnone''⟩⟩
    intro p hp _
    cases hp
    exact ⟨past, _, [], rfl, rfl, rfl, fun u hu => absurd hu List.not_mem_nil, fun h => (by cases h)⟩
  | @responded frame t4 pending t2 hmatches =>
    refine ⟨hsync.keep ⟨rfl, rfl, .inl ⟨rfl, rfl⟩⟩ htimes rfl (notSync_of_frames rfl)
      ⟨hnone, hnone'⟩, ?_, hpath.keep ⟨rfl, rfl, .inl ⟨rfl, rfl⟩⟩ htimes ⟨rfl, rfl⟩ ⟨hnone, hnone''⟩⟩
    intro p hp hfresh
    cases hp
    have hkeeps : Keeps r now { r with
        status.pdelayResponses := r.status.pdelayResponses + 1
        pendingPdelay := some { pending with
          t2, t4
          responseCorrectionField := frame.header.correctionField
          responseReceived := true } } := ⟨rfl, rfl, .inl ⟨rfl, rfl⟩⟩
    obtain ⟨hfresh, hnow⟩ := hkeeps.fresh htimes rfl hfresh
    obtain ⟨earlier, request, since, rfl, hevent, hselected, hsince, -⟩ :=
      hpdelay pending hmatches.held hfresh
    refine ⟨earlier, request, since ++ [_], by rw [List.append_assoc, List.cons_append], hevent,
      hselected, forall_mem_concat hsince (hkeeps.calm hnow ⟨hnone, hnone''⟩), fun _ => ?_⟩
    exact ⟨since, _, [], frame, rfl, hmatches.selected,
      ⟨rfl, hmatches.type, hmatches.body, rfl, hmatches.sequence, rfl⟩⟩
  | @followedUp frame pending t3 measurement hmatches hreceived hdelay =>
    refine ⟨hsync.keep ⟨rfl, rfl, .inl ⟨rfl, rfl⟩⟩ htimes rfl (notSync_of_frames rfl)
      ⟨fun h => (by cases h), fun _ h => (by cases h)⟩, pdelayInv_of_none rfl, ?_⟩
    intro d hd _
    cases hd
    have hfresh := fresh_of_not_stale htimes hmatches.fresh
    have hrequest := hpdelay pending hmatches.held hfresh
    rw [hmatches.selected] at hrequest
    refine ⟨now, rfl, past, _, [], frame.header.sourcePortIdentity, measurement, rfl,
      hmatches.selected, rfl, rfl, rfl, rfl, ?_, fun u hu => absurd hu List.not_mem_nil⟩
    exact ⟨pending, r.options.localPortIdentity, frame, hreceived, hrequest,
      ⟨rfl, hmatches.type, rfl, hmatches.sequence, t3, hmatches.body, hdelay⟩, rfl⟩
  | @synced frame rx _ htype hselected hfresh htwo hkeeps _ hs hp hd =>
    refine ⟨?_, hpdelay.keep hkeeps htimes hp ⟨hnone, hnone''⟩,
      hpath.keep hkeeps htimes hd ⟨hnone, hnone''⟩⟩
    intro p hpending
    rw [hs] at hpending
    cases hpending
    refine ⟨hkeeps.selected.trans hselected, fun _ => ?_⟩
    exact ⟨past, _, [], frame, rx, rfl, rfl, htype, htwo, rfl, hselected,
      hkeeps.selected.trans hselected, hfresh, rfl, fun u hu => absurd hu List.not_mem_nil⟩
  | @oneStep _ _ _ _ m _ _ _ _ _ _ hkeeps hcompletes =>
    exact ⟨syncInv_of_none hcompletes.consumed,
      hpdelay.keep hkeeps htimes hcompletes.pdelay (quiet_offset m),
      hpath.keep hkeeps htimes hcompletes.kept (quiet_offset m)⟩
  | @twoStep _ _ _ _ m _ _ _ _ _ _ _ _ hkeeps hcompletes =>
    exact ⟨syncInv_of_none hcompletes.consumed,
      hpdelay.keep hkeeps htimes hcompletes.pdelay (quiet_offset m),
      hpath.keep hkeeps htimes hcompletes.kept (quiet_offset m)⟩

/-- The latest exchange is not older than the timeout. -/
theorem not_stale {d : Int64} {completedAt : Int} (hmean : r.status.meanPathDelayNs = some d)
    (hlast : r.lastPathDelayAt = some completedAt) (hstale : r.pathDelayStale now = false) :
    now - completedAt ≤ max 0 (r.options.pathDelayTimeout * millisecond) := by
  rw [pathDelayStale, hmean, hlast] at hstale
  dsimp only at hstale
  rw [elapsed, Bool.and_eq_false_iff, decide_eq_false_iff_not, decide_eq_false_iff_not] at hstale
  omega

theorem safe_effect (h : Correlated past r) (htimes : ∀ u ∈ past, u.event.2 ≤ now)
    (heffect : Effect r now call answer r') :
    CorrelationSafe past ⟨(call, now), r, answer, r'⟩ := by
  obtain ⟨hsync, hpdelay, hpath⟩ := h
  constructor
  case offset =>
    intro m houtput
    change answer = .offset m at houtput
    subst houtput
    -- the path delay, for either kind of Sync
    have hevidence {p : PendingSync} {origin : PtpTimestamp} {correction : Int64}
        (hselected : r.status.selectedSource = some p.source)
        (hfresh : r.selectedAnnounceStale now = false) (hstale : r.pathDelayStale now = false)
        (hcompletes : Completes r p origin correction m r')
        (hfrom : FromSync past ⟨(call, now), r, .offset m, r'⟩ p origin correction) :
        OffsetEvidence past ⟨(call, now), r, .offset m, r'⟩ m := by
      rw [← hcompletes.source] at hselected
      refine ⟨hselected, hfresh, ⟨p, origin, correction, hfrom, hcompletes.source,
        hcompletes.sequence, hcompletes.offset⟩, ?_⟩
      obtain ⟨completedAt, hlast, hevidence⟩ :=
        hpath m.meanPathDelayNs hcompletes.path (fresh_of_not_stale htimes hfresh)
      rw [hselected] at hevidence
      exact ⟨completedAt, hevidence, not_stale hcompletes.path hlast hstale⟩
    cases heffect with
    | cleared hanswer => rcases hanswer with h | h <;> cases h
    | oneStep htype hselected hfresh hstale htwo horigin _ hcompletes =>
      exact hevidence hselected hfresh hstale hcompletes (.oneStep rfl htype htwo horigin)
    | twoStep htype hpending _ hsource hsequence hfresh hstale horigin _ hcompletes =>
      obtain ⟨hselected, hsync⟩ := hsync _ hpending
      exact hevidence hselected hfresh hstale hcompletes
        (.twoStep (hsync (fresh_of_not_stale htimes hfresh)) rfl htype hsource hsequence horigin)
  case pathDelay =>
    intro measurement houtput
    change answer = .pathDelay measurement at houtput
    subst houtput
    cases heffect with
    | cleared hanswer => rcases hanswer with h | h <;> cases h
    | @followedUp frame pending t3 _ hmatches hreceived hdelay =>
      refine ⟨frame.header.sourcePortIdentity, hmatches.selected, hmatches.fresh, ?_⟩
      have hrequest := hpdelay pending hmatches.held (fresh_of_not_stale htimes hmatches.fresh)
      rw [hmatches.selected] at hrequest
      exact ⟨pending, r.options.localPortIdentity, frame, hreceived, hrequest,
        ⟨rfl, hmatches.type, rfl, hmatches.sequence, t3, hmatches.body, hdelay⟩, rfl⟩

/-- **Measurements come from matching exchanges**, for any calls at times that do not go back. -/
theorem exchange_correlated {options : PtpTimeReceiverOptions}
    {calls : List (PtpReceiverCall × Int)} (htimes : calls.Pairwise fun a b => a.2 ≤ b.2)
    {past future : List ReceiverStep} {t : ReceiverStep}
    (hrun : history step { options } calls = past ++ t :: future) : CorrelationSafe past t := by
  refine history_rule Correlated CorrelationSafe ?_ htimes ?_ hrun
  · rintro past r ⟨call, now⟩ h htimes
    have heffect := r.step_effect call now
    exact ⟨safe_effect h htimes heffect, correlated_effect h htimes heffect⟩
  · exact ⟨syncInv_of_none rfl, pdelayInv_of_none rfl, pathInv_of_none rfl⟩

end

/-! ## Examples -/

def sampleHeader (messageType : PtpMessageType) (sequenceId : UInt16) : PtpHeader where
  messageType
  sequenceId
  flags := 0x0200
  logMessageInterval := 3

/-- The body of a Pdelay message for this port, with the timestamp zero. -/
def sampleBody : Bytes := List.replicate 19 0 ++ [1]

def samplePdelay (sequenceId : UInt16) (ms : Int) : List (PtpReceiverCall × Int) :=
  [(.notePdelayRequest sequenceId {}, ms * millisecond),
    (.observePdelayResponse { header := sampleHeader .pdelayResp sequenceId, body := sampleBody }
      { nanoseconds := 100 }, ms * millisecond),
    (.observePdelayResponseFollowUp
      { header := sampleHeader .pdelayRespFollowUp sequenceId, body := sampleBody },
      ms * millisecond)]

def sampleSync (sequenceId : UInt16) (ms : Int) : PtpReceiverCall × Int :=
  (.observeSync { header := sampleHeader .sync sequenceId } { nanoseconds := 250 }, ms * millisecond)

def sampleFollowUp (sequenceId : UInt16) (ms : Int) : PtpReceiverCall × Int :=
  (.observeFollowUp { header := sampleHeader .followUp sequenceId, timestamp := some {} },
    ms * millisecond)

def sampleAnnounce : PtpReceiverCall × Int :=
  (.observeAnnounce { header := sampleHeader .announce 0, announce := some {} }, 0)

def sampleOffset : PtpOffsetMeasurement where
  syncSequenceId := 1
  offsetFromMasterNs := 200
  meanPathDelayNs := 50

theorem exchange_correlated_sample :
    let run := history step {}
      (sampleAnnounce :: samplePdelay 1 100 ++ [sampleSync 1 200, sampleFollowUp 1 300])
    run.getLast?.map (·.output) = some (.offset sampleOffset) ∧
      ∀ t ∈ run.getLast?, CorrelationSafe run.dropLast t := by
  refine ⟨by decide, fun t ht => ?_⟩
  exact exchange_correlated (by decide) (List.dropLast_append_getLast? t ht).symm

/-- The source and the sequence id of a Sync. -/
def syncOf (call : PtpReceiverCall × Int) : Option (PtpPortIdentity × UInt16) :=
  match call.1 with
  | .observeSync frame _ => some (frame.header.sourcePortIdentity, frame.header.sequenceId)
  | _ => none

/-- A second Sync arrives when the path delay is too old, and a new path delay before the Follow_Up
of the first. -/
def ignoredCalls : List (PtpReceiverCall × Int) :=
  sampleAnnounce :: samplePdelay 1 100 ++ [sampleSync 1 4000, sampleSync 2 4200] ++
    samplePdelay 2 4300 ++ [sampleFollowUp 1 4400]

/-- The offset comes from a Sync with another Sync of its source behind it. -/
theorem sync_ignored :
    (ignoredCalls.Pairwise fun a b => a.2 ≤ b.2) ∧
      (history step {} ignoredCalls).getLast?.map (·.output) = some (.offset sampleOffset) ∧
      ignoredCalls.filterMap syncOf =
        [(sampleOffset.sourcePortIdentity, 1), (sampleOffset.sourcePortIdentity, 2)] ∧
      ignoredCalls.getLast? = some (sampleFollowUp sampleOffset.syncSequenceId 4400) := by
  decide

end PtpTimeReceiver

end ArStack.TimeSync
