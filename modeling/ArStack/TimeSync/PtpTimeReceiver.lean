import ArStack.TimeSync.PtpDisciplineTypes

/-!
# The time receiver

`PtpTimeReceiver` selects a source by its Announce messages and correlates its Sync, Follow_Up and
Pdelay messages.

* `observeAnnounce`, `notePdelayRequest`, `observePdelayResponse`, `observePdelayResponseFollowUp`,
  `observeSync`, `observeFollowUp`, `tick`
* `step` — any of these calls
-/

namespace ArStack.TimeSync

open ArStack.Lib

/-! ## Parts of `receiver_detail` -/

/-- The timestamp and the requesting port. -/
def parsePdelayBody (frame : PtpFrame) : Option (PtpTimestamp × PtpPortIdentity) :=
  if frame.body.length < 20 then none
  else
    match PtpTimestamp.tryRead (frame.body.take 10) with
    | none => none
    | some timestamp =>
      some (timestamp, {
        clockIdentity := Vector.ofFn fun i => frame.body.getD (10 + i.val) 0
        portNumber := UInt16.ofNat (beValue (slice frame.body 18 2)) })

def announceSourceTimeout (logMessageInterval : Int8) (configuredFloor : Int) : Int :=
  if logMessageInterval ≤ 0 ∨ logMessageInterval > 7 then configuredFloor
  else max configuredFloor (((1000 <<< logMessageInterval.toInt.toNat : Nat) : Int) * 3)

/-! ## The receiver -/

structure PtpTimeReceiverOptions where
  domainNumber : UInt8 := 0
  transportSpecific : UInt8 := 0
  localPortIdentity : PtpPortIdentity := {}
  sourceTimeout : Int := 3000
  exchangeTimeout : Int := 2000
  pathDelayTimeout : Int := exchangeTimeout + exchangeTimeout
  deriving DecidableEq

structure PtpTimeReceiverStatus where
  selectedSource : Option PtpPortIdentity := none
  selectedGrandmaster : Option PtpClockIdentity := none
  meanPathDelayNs : Option Int64 := none
  selectedSourceGloballyTraceable : Bool := false
  announceFrames : UInt64 := 0
  syncFrames : UInt64 := 0
  followUpFrames : UInt64 := 0
  pdelayResponses : UInt64 := 0
  completedPdelayExchanges : UInt64 := 0
  completedSyncExchanges : UInt64 := 0
  rejectedExchanges : UInt64 := 0
  deriving DecidableEq

/-- Compared field by field. -/
structure AnnounceQuality where
  priority1 : UInt8
  clockClass : UInt8
  clockAccuracy : UInt8
  variance : UInt16
  priority2 : UInt8
  grandmasterIdentity : PtpClockIdentity
  stepsRemoved : UInt16
  deriving DecidableEq, Ord

def betterQuality (left right : AnnounceQuality) : Bool := (compare left right).isLT

structure PendingSync where
  source : PtpPortIdentity
  sequenceId : UInt16
  localRxTimestamp : PtpTimestamp
  syncCorrectionField : Int64
  observedAt : Int
  deriving DecidableEq

structure PendingPdelay where
  sequenceId : UInt16
  t1 : PtpTimestamp
  t2 : PtpTimestamp := {}
  t4 : PtpTimestamp := {}
  responseCorrectionField : Int64 := 0
  responseReceived : Bool := false
  startedAt : Int
  deriving DecidableEq

/-- A member with a flag `..._valid_` is an option. -/
structure PtpTimeReceiver where
  options : PtpTimeReceiverOptions := {}
  status : PtpTimeReceiverStatus := {}
  selectedQuality : Option AnnounceQuality := none
  selectedAnnounceLastSeen : Option Int := none
  selectedSourceTimeout : Int := options.sourceTimeout
  lastPathDelayAt : Option Int := none
  pendingSync : Option PendingSync := none
  pendingPdelay : Option PendingPdelay := none
  receiverCorrelationEnabled : Bool := false
  deriving DecidableEq

namespace PtpTimeReceiver

def reset (r : PtpTimeReceiver) : PtpTimeReceiver := { options := r.options }

def reconfigure (_r : PtpTimeReceiver) (options : PtpTimeReceiverOptions) : PtpTimeReceiver :=
  { options }

def profileMatches (r : PtpTimeReceiver) (frame : PtpFrame) : Bool :=
  frame.header.domainNumber = r.options.domainNumber &&
    frame.header.transportSpecific = r.options.transportSpecific

def sourceMatchesSelected (r : PtpTimeReceiver) (source : PtpPortIdentity) : Bool :=
  r.status.selectedSource = some source

/-- `now` is later than `since` by more than the interval. -/
def elapsed (now since timeout : Int) : Bool :=
  now > since && now - since > timeout * millisecond

def selectedAnnounceStale (r : PtpTimeReceiver) (now : Int) : Bool :=
  match r.selectedAnnounceLastSeen with
  | none => false
  | some lastSeen => elapsed now lastSeen r.selectedSourceTimeout

def pathDelayStale (r : PtpTimeReceiver) (now : Int) : Bool :=
  match r.status.meanPathDelayNs, r.lastPathDelayAt with
  | some _, some last => elapsed now last r.options.pathDelayTimeout
  | _, _ => false

def clearExchanges (r : PtpTimeReceiver) : PtpTimeReceiver :=
  { r with pendingSync := none, pendingPdelay := none }

def reject (r : PtpTimeReceiver) : PtpTimeReceiver :=
  { r with status.rejectedExchanges := r.status.rejectedExchanges + 1 }

def recordSyncRejection (r : PtpTimeReceiver) : PtpTimeReceiver :=
  if r.receiverCorrelationEnabled then r.reject else r

def observeAnnounce (r : PtpTimeReceiver) (frame : PtpFrame) (now : Int) :
    Bool × PtpTimeReceiver :=
  match frame.announce with
  | none => (false, r)
  | some announce =>
    if !r.profileMatches frame || frame.header.messageType ≠ .announce then (false, r)
    else
      let r := { r with status.announceFrames := r.status.announceFrames + 1 }
      let quality : AnnounceQuality := {
        priority1 := announce.priority1
        clockClass := announce.clockClass
        clockAccuracy := announce.clockAccuracy
        variance := announce.offsetScaledLogVariance
        priority2 := announce.priority2
        grandmasterIdentity := announce.grandmasterIdentity
        stepsRemoved := announce.stepsRemoved }
      let currentIsSame := r.sourceMatchesSelected frame.header.sourcePortIdentity
      let selectedIsStale := r.selectedAnnounceStale now
      let shouldSelect := r.status.selectedSource = none || selectedIsStale || currentIsSame ||
        r.selectedQuality.any (betterQuality quality)
      if !shouldSelect then (false, r)
      else
        let changed := !currentIsSame || selectedIsStale
        let r := { r with
          status.selectedSource := some frame.header.sourcePortIdentity
          status.selectedGrandmaster := some announce.grandmasterIdentity
          status.selectedSourceGloballyTraceable := ptpAnnounceIsGloballyTraceable frame
          selectedQuality := some quality
          selectedAnnounceLastSeen := some now
          selectedSourceTimeout :=
            announceSourceTimeout frame.header.logMessageInterval r.options.sourceTimeout }
        if changed then
          (true, clearExchanges { r with status.meanPathDelayNs := none, lastPathDelayAt := none })
        else (false, r)

def notePdelayRequest (r : PtpTimeReceiver) (sequenceId : UInt16)
    (requestTxTimestamp : PtpTimestamp) (now : Int) : PtpTimeReceiver :=
  { r with
    receiverCorrelationEnabled := true
    pendingPdelay := some { sequenceId, t1 := requestTxTimestamp, startedAt := now } }

/-- The exchange that a Pdelay message belongs to, and the timestamp in its body. -/
def matchPdelay (r : PtpTimeReceiver) (messageType : PtpMessageType) (frame : PtpFrame)
    (now : Int) : Option (PendingPdelay × PtpTimestamp) :=
  match r.pendingPdelay, parsePdelayBody frame with
  | some pending, some (timestamp, requester) =>
    if !r.profileMatches frame || frame.header.messageType ≠ messageType ||
        requester ≠ r.options.localPortIdentity ||
        frame.header.sequenceId ≠ pending.sequenceId ||
        !r.sourceMatchesSelected frame.header.sourcePortIdentity ||
        r.selectedAnnounceStale now then none
    else some (pending, timestamp)
  | _, _ => none

def observePdelayResponse (r : PtpTimeReceiver) (frame : PtpFrame) (localRxTimestamp : PtpTimestamp)
    (now : Int) : Bool × PtpTimeReceiver :=
  match r.matchPdelay .pdelayResp frame now with
  | none => (false, r.reject)
  | some (pending, peerRequestRx) =>
    (true,
      { r with
        status.pdelayResponses := r.status.pdelayResponses + 1
        pendingPdelay := some { pending with
          t2 := peerRequestRx
          t4 := localRxTimestamp
          responseCorrectionField := frame.header.correctionField
          responseReceived := true } })

def observePdelayResponseFollowUp (r : PtpTimeReceiver) (frame : PtpFrame) (now : Int) :
    Option PtpPeerDelayMeasurement × PtpTimeReceiver :=
  match r.matchPdelay .pdelayRespFollowUp frame now with
  | none => (none, r.reject)
  | some (pending, peerResponseTx) =>
    if !pending.responseReceived then (none, r.reject)
    else
      let exchange : PtpPeerDelayExchange := {
        t1RequestTx := pending.t1
        t2PeerRequestRx := pending.t2
        t3PeerResponseTx := peerResponseTx
        t4ResponseRx := pending.t4
        responseCorrectionField := pending.responseCorrectionField
        responseFollowUpCorrectionField := frame.header.correctionField }
      let r := { r with pendingPdelay := none }
      match calculatePeerDelay exchange with
      | none => (none, r.reject)
      | some measurement =>
        (some measurement,
          { r with
            status.meanPathDelayNs := some measurement.meanPathDelayNs
            status.completedPdelayExchanges := r.status.completedPdelayExchanges + 1
            lastPathDelayAt := some now })

def completeSync (r : PtpTimeReceiver) (origin : PtpTimestamp) (followUpCorrectionField : Int64)
    (sequenceId : UInt16) : Option PtpOffsetMeasurement × PtpTimeReceiver :=
  match r.pendingSync with
  | none => (none, r.recordSyncRejection)
  | some pending =>
    if pending.sequenceId ≠ sequenceId then (none, r.recordSyncRejection)
    else
      let r := { r with pendingSync := none }
      match r.status.meanPathDelayNs with
      | none => (none, r.recordSyncRejection)
      | some meanPathDelayNs =>
        let exchange : PtpSyncExchange := {
          masterOriginTimestamp := origin
          localReceiveTimestamp := pending.localRxTimestamp
          meanPathDelayNs
          syncCorrectionField := pending.syncCorrectionField
          followUpCorrectionField }
        match calculateOffsetFromMaster exchange with
        | none => (none, r.recordSyncRejection)
        | some offset =>
          (some {
              sourcePortIdentity := pending.source
              syncSequenceId := sequenceId
              offsetFromMasterNs := offset
              meanPathDelayNs
              globallyTraceable := r.status.selectedSourceGloballyTraceable },
            { r with status.completedSyncExchanges := r.status.completedSyncExchanges + 1 })

/-- The Sync that a frame makes the pending one. -/
def pendingOf (frame : PtpFrame) (localRxTimestamp : PtpTimestamp) (now : Int) : PendingSync where
  source := frame.header.sourcePortIdentity
  sequenceId := frame.header.sequenceId
  localRxTimestamp
  syncCorrectionField := frame.header.correctionField
  observedAt := now

/-- A new Sync supersedes the pending one. -/
def beginSync (r : PtpTimeReceiver) (pending : PendingSync) : PtpTimeReceiver :=
  let r := { r with status.syncFrames := r.status.syncFrames + 1 }
  let r := if r.pendingSync.isSome then r.recordSyncRejection else r
  { r with pendingSync := some pending }

def observeSync (r : PtpTimeReceiver) (frame : PtpFrame) (localRxTimestamp : PtpTimestamp)
    (now : Int) : Option PtpOffsetMeasurement × PtpTimeReceiver :=
  if !r.profileMatches frame || frame.header.messageType ≠ .sync ||
      !r.sourceMatchesSelected frame.header.sourcePortIdentity ||
      r.selectedAnnounceStale now || r.pathDelayStale now then (none, r)
  else
    let r := r.beginSync (pendingOf frame localRxTimestamp now)
    if frame.header.isTwoStep then (none, r)
    else
      match frame.timestamp with
      | none => (none, { r.recordSyncRejection with pendingSync := none })
      | some timestamp => r.completeSync timestamp 0 frame.header.sequenceId

def observeFollowUp (r : PtpTimeReceiver) (frame : PtpFrame) (now : Int) :
    Option PtpOffsetMeasurement × PtpTimeReceiver :=
  match frame.timestamp with
  | none => (none, r)
  | some timestamp =>
    if !r.profileMatches frame || frame.header.messageType ≠ .followUp ||
        !r.sourceMatchesSelected frame.header.sourcePortIdentity ||
        r.selectedAnnounceStale now || r.pathDelayStale now then (none, r)
    else
      let r := { r with status.followUpFrames := r.status.followUpFrames + 1 }
      match r.pendingSync with
      | none => (none, r.recordSyncRejection)
      | some pending =>
        if pending.source ≠ frame.header.sourcePortIdentity ∨
            pending.sequenceId ≠ frame.header.sequenceId then (none, r.recordSyncRejection)
        else r.completeSync timestamp frame.header.correctionField frame.header.sequenceId

/-- The first part of a tick: the path delay. -/
def expirePathDelay (r : PtpTimeReceiver) (now : Int) : PtpTimeReceiver :=
  if r.pathDelayStale now then
    { r with status.meanPathDelayNs := none, lastPathDelayAt := none, pendingSync := none }
  else r

/-- The second part of a tick: the pending Sync. -/
def expireSync (r : PtpTimeReceiver) (now : Int) : PtpTimeReceiver :=
  match r.pendingSync with
  | some pending =>
    if elapsed now pending.observedAt r.options.exchangeTimeout then
      recordSyncRejection { r with pendingSync := none }
    else r
  | none => r

/-- The third part of a tick: the pending Pdelay exchange. -/
def expirePdelay (r : PtpTimeReceiver) (now : Int) : PtpTimeReceiver :=
  match r.pendingPdelay with
  | some pending =>
    if elapsed now pending.startedAt r.options.exchangeTimeout then
      reject { r with pendingPdelay := none }
    else r
  | none => r

def tick (r : PtpTimeReceiver) (now : Int) : Bool × PtpTimeReceiver :=
  if r.selectedAnnounceStale now then
    (true, clearExchanges { r with
      status.selectedSource := none
      status.selectedGrandmaster := none
      status.meanPathDelayNs := none
      status.selectedSourceGloballyTraceable := false
      selectedQuality := none
      selectedAnnounceLastSeen := none
      selectedSourceTimeout := r.options.sourceTimeout
      lastPathDelayAt := none })
  else (false, ((r.expirePathDelay now).expireSync now).expirePdelay now)

end PtpTimeReceiver

inductive PtpReceiverCall where
  | observeAnnounce (frame : PtpFrame)
  | notePdelayRequest (sequenceId : UInt16) (requestTxTimestamp : PtpTimestamp)
  | observePdelayResponse (frame : PtpFrame) (localRxTimestamp : PtpTimestamp)
  | observePdelayResponseFollowUp (frame : PtpFrame)
  | observeSync (frame : PtpFrame) (localRxTimestamp : PtpTimestamp)
  | observeFollowUp (frame : PtpFrame)
  | tick
  | reset
  | reconfigure (options : PtpTimeReceiverOptions)
  deriving DecidableEq

inductive PtpReceiverAnswer where
  | none
  /-- The source has changed. -/
  | reselected
  | pathDelay (measurement : PtpPeerDelayMeasurement)
  | offset (measurement : PtpOffsetMeasurement)
  deriving DecidableEq

namespace PtpTimeReceiver

/-- A call at a time, and its answer. -/
def step (r : PtpTimeReceiver) (call : PtpReceiverCall × Int) :
    PtpReceiverAnswer × PtpTimeReceiver :=
  match call with
  | (.observeAnnounce frame, now) =>
    let (changed, r) := r.observeAnnounce frame now
    (if changed then .reselected else .none, r)
  | (.notePdelayRequest sequenceId requestTxTimestamp, now) =>
    (.none, r.notePdelayRequest sequenceId requestTxTimestamp now)
  | (.observePdelayResponse frame localRxTimestamp, now) =>
    (.none, (r.observePdelayResponse frame localRxTimestamp now).2)
  | (.observePdelayResponseFollowUp frame, now) =>
    let (measurement, r) := r.observePdelayResponseFollowUp frame now
    (measurement.elim .none .pathDelay, r)
  | (.observeSync frame localRxTimestamp, now) =>
    let (measurement, r) := r.observeSync frame localRxTimestamp now
    (measurement.elim .none .offset, r)
  | (.observeFollowUp frame, now) =>
    let (measurement, r) := r.observeFollowUp frame now
    (measurement.elim .none .offset, r)
  | (.tick, now) =>
    let (changed, r) := r.tick now
    (if changed then .reselected else .none, r)
  | (.reset, _) => (.none, r.reset)
  | (.reconfigure options, _) => (.none, r.reconfigure options)

end PtpTimeReceiver

end ArStack.TimeSync
