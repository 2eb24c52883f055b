import ArStack.Goose.FrameCodec

/-!
# GOOSE publishers

A `GoosePublisherSession` sends a state and repeats it with consecutive sequence numbers; a
`GoosePublisherRuntime` says when. What a call has changed before it throws stays changed.

* `publishInitial`, `publishStateChange`, `publishRetransmission`
* `start`, `stateChange`, `poll`, `stop`
-/

namespace ArStack.Goose

open ArStack.Mms

/-! ## Retransmission -/

/-- Times in milliseconds, which are positive numbers of 31 bits. -/
structure RetransmissionSchedule where
  minTimeMilliseconds : Nat
  maxTimeMilliseconds : Nat
  nextDelay : Nat
  deriving DecidableEq

namespace RetransmissionSchedule

def normalizeMinTime (value : UInt32) : Nat := if value = 0 then 4 else min value.toNat 2147483647

def normalizeMaxTime (value : UInt32) (minTimeMilliseconds : Nat) : Nat :=
  max minTimeMilliseconds (if value = 0 then 1000 else min value.toNat 2147483647)

def create (minTimeMilliseconds maxTimeMilliseconds : UInt32) : RetransmissionSchedule where
  minTimeMilliseconds := normalizeMinTime minTimeMilliseconds
  maxTimeMilliseconds := normalizeMaxTime maxTimeMilliseconds (normalizeMinTime minTimeMilliseconds)
  nextDelay := normalizeMinTime minTimeMilliseconds

def nextDelayMilliseconds (schedule : RetransmissionSchedule) : Nat × RetransmissionSchedule :=
  (schedule.nextDelay,
    { schedule with
      nextDelay :=
        if schedule.nextDelay ≥ schedule.maxTimeMilliseconds / 2 then schedule.maxTimeMilliseconds
        else min schedule.maxTimeMilliseconds (schedule.nextDelay * 2) })

def reset (schedule : RetransmissionSchedule) : RetransmissionSchedule :=
  { schedule with nextDelay := schedule.minTimeMilliseconds }

end RetransmissionSchedule

/-! ## The session -/

structure GoosePublication where
  frame : GooseFrame
  ethernetBytes : Bytes

structure GoosePublisherSession where
  frameTemplate : GooseFrame
  values : List MmsDataValue := []
  stateTimestamp : Iec61850UtcTime := {}
  stateNumber : UInt32 := 1
  sequenceNumber : UInt32 := 0
  test : Bool := false
  needsCommissioning : Bool := false
  hasState : Bool := false

namespace GoosePublisherSession

def create (frameTemplate : GooseFrame) (initialStateNumber : UInt32 := 1)
    (initialSequenceNumber : UInt32 := 0) : GoosePublisherSession where
  frameTemplate
  stateNumber := if initialStateNumber = 0 then 1 else initialStateNumber
  sequenceNumber := initialSequenceNumber

def incrementSequenceNumber (current : UInt32) : UInt32 :=
  if current = 4294967295 then 0 else current + 1

section

variable (session : GoosePublisherSession)

/-- The frame of the state. -/
def frame : GooseFrame :=
  { session.frameTemplate with
    pdu :=
      { session.frameTemplate.pdu with
        values := session.values
        timestamp := session.stateTimestamp
        stateNumber := session.stateNumber
        sequenceNumber := session.sequenceNumber
        test := session.test
        needsCommissioning := session.needsCommissioning } }

def emitPublication : Except String GoosePublication × GoosePublisherSession :=
  match GooseFrameCodec.encode session.frame with
  | .error what => (.error what, session)
  | .ok bytes =>
    (.ok { frame := session.frame, ethernetBytes := bytes },
      { session with sequenceNumber := incrementSequenceNumber session.sequenceNumber })

/-- The state before its frame is encoded. -/
def assign (values : List MmsDataValue) (timestamp : Iec61850UtcTime)
    (test needsCommissioning : Bool) : GoosePublisherSession :=
  { session with values, stateTimestamp := timestamp, test, needsCommissioning }

def publishInitial (values : List MmsDataValue) (timestamp : Iec61850UtcTime)
    (test : Bool := false) (needsCommissioning : Bool := false) :
    Except String GoosePublication × GoosePublisherSession :=
  if session.hasState then
    (.error "GOOSE publisher session has already been started.", session)
  else
    emitPublication
      { session.assign values timestamp test needsCommissioning with hasState := true }

def publishRetransmission : Except String GoosePublication × GoosePublisherSession :=
  if !session.hasState then
    (.error "GOOSE publisher session must be started before retransmission.", session)
  else session.emitPublication

def setTimeAllowedToLive (milliseconds : UInt32) : GoosePublisherSession :=
  { session with
    frameTemplate :=
      { session.frameTemplate with
        pdu := { session.frameTemplate.pdu with timeAllowedToLiveMilliseconds := milliseconds } } }

end

end GoosePublisherSession

/-! ## The runtime -/

/-- Times are in nanoseconds. -/
structure GoosePublisherRuntime where
  session : GoosePublisherSession
  schedule : RetransmissionSchedule
  nextDue : Option Int := none
  running : Bool := false

namespace GoosePublisherRuntime

def create (session : GoosePublisherSession) (minTimeMilliseconds maxTimeMilliseconds : UInt32) :
    GoosePublisherRuntime where
  session
  schedule := .create minTimeMilliseconds maxTimeMilliseconds

section

variable (runtime : GoosePublisherRuntime)

def prepareNextDelay : UInt32 × GoosePublisherRuntime :=
  let (next, schedule) := runtime.schedule.nextDelayMilliseconds
  let delay := UInt32.ofNat (max 1 next)
  let ttl := if delay > 4294967295 / 2 then 4294967295 else delay * 2
  (delay, { runtime with schedule, session := runtime.session.setTimeAllowedToLive (max 1 ttl) })

def scheduleNext (now : Int) (delayMilliseconds : UInt32) : GoosePublisherRuntime :=
  { runtime with nextDue := some (now + delayMilliseconds.toNat * 1000000) }

/-- What `start` and `state_change` do around the call of the session. -/
def publish (now : Int)
    (call : GoosePublisherSession → Except String GoosePublication × GoosePublisherSession) :
    Except String GoosePublication × GoosePublisherRuntime :=
  let (delay, runtime) :=
    prepareNextDelay { runtime with schedule := runtime.schedule.reset }
  match call runtime.session with
  | (.error what, session) => (.error what, { runtime with session })
  | (.ok publication, session) =>
    (.ok publication, scheduleNext { runtime with session, running := true } now delay)

def start (values : List MmsDataValue) (timestamp : Iec61850UtcTime) (now : Int)
    (test : Bool := false) (needsCommissioning : Bool := false) :
    Except String GoosePublication × GoosePublisherRuntime :=
  if runtime.running then (.error "GOOSE publisher runtime is already running.", runtime)
  else
    runtime.publish now fun session =>
      session.publishInitial values timestamp test needsCommissioning

def poll (now : Int) : Except String (Option GoosePublication) × GoosePublisherRuntime :=
  if !runtime.running ∨ runtime.nextDue.all fun due => now < due then (.ok none, runtime)
  else
    let (delay, runtime) := runtime.prepareNextDelay
    match runtime.session.publishRetransmission with
    | (.error what, session) => (.error what, { runtime with session })
    | (.ok publication, session) =>
      (.ok (some publication), scheduleNext { runtime with session } now delay)

def stop : GoosePublisherRuntime := { runtime with running := false, nextDue := none }

end

end GoosePublisherRuntime

end ArStack.Goose
