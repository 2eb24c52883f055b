import ArStack.Lib.History
import ArStack.TimeSync.PtpDisciplineTypes

/-!
# The clock lease of the receiver

The worker shows the authority what it observes of the clock; the authority answers with the
generation of the lease and whether the clock is usable.

* `PtpReceiverClockAuthority`, `PtpReceiverClockAuthority.observe`
-/

namespace ArStack.TimeSync

structure PtpReceiverClockObservation where
  runtimeReady : Bool := false
  sourceSelected : Bool := false
  sourceClockIdentity : PtpClockIdentity := Vector.replicate 8 0
  sourcePortNumber : UInt16 := 0
  disciplineLocked : Bool := false
  clockDiscontinuity : Bool := false
  deriving DecidableEq

namespace PtpReceiverClockObservation

def selected (input : PtpReceiverClockObservation) : Bool := input.runtimeReady && input.sourceSelected

def locked (input : PtpReceiverClockObservation) : Bool := input.selected && input.disciplineLocked

end PtpReceiverClockObservation

structure PtpReceiverClockDecision where
  generation : UInt32 := 0
  clockUsable : Bool := false
  deriving DecidableEq

structure PtpReceiverClockAuthority where
  generation : UInt32 := 0
  initialized : Bool := false
  priorRunning : Bool := false
  priorSelected : Bool := false
  priorLocked : Bool := false
  blocked : Bool := false
  priorIdentity : PtpClockIdentity := Vector.replicate 8 0
  priorPort : UInt16 := 0
  deriving DecidableEq

namespace PtpReceiverClockAuthority

def identityChanged (s : PtpReceiverClockAuthority) (input : PtpReceiverClockObservation) : Bool :=
  input.selected &&
    (!s.priorSelected || input.sourceClockIdentity != s.priorIdentity ||
      input.sourcePortNumber != s.priorPort)

def stateChanged (s : PtpReceiverClockAuthority) (input : PtpReceiverClockObservation) : Bool :=
  (if s.initialized then
      s.priorRunning != input.runtimeReady || s.priorSelected != input.selected ||
        s.priorLocked != input.locked
    else input.runtimeReady) ||
    s.identityChanged input

/-- `++generation_`, which leaves out zero. -/
def nextGeneration (generation : UInt32) : UInt32 :=
  if generation + 1 = 0 then generation + 1 + 1 else generation + 1

/-- The block of a locked clock, before and after the look at the lock. -/
def nextBlocked (s : PtpReceiverClockAuthority) (input : PtpReceiverClockObservation) : Bool :=
  let blocked := if s.identityChanged input || input.clockDiscontinuity then true else s.blocked
  if !input.locked && !input.clockDiscontinuity then false else blocked

def observe (s : PtpReceiverClockAuthority) (input : PtpReceiverClockObservation) :
    PtpReceiverClockDecision × PtpReceiverClockAuthority :=
  let generation :=
    if s.stateChanged input || input.clockDiscontinuity then nextGeneration s.generation
    else s.generation
  let blocked := s.nextBlocked input
  ({ generation, clockUsable := input.locked && !blocked },
    { generation
      initialized := true
      priorRunning := input.runtimeReady
      priorSelected := input.selected
      priorLocked := input.locked
      blocked
      priorIdentity := input.sourceClockIdentity
      priorPort := input.sourcePortNumber })

end PtpReceiverClockAuthority

end ArStack.TimeSync
