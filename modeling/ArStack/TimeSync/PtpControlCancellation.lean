import Mathlib.Logic.Function.Basic
import ArStack.Lib.History

/-!
# The PTP cancellation gate

Threads start an operation or ask for a STOP at the same time. Every atomic operation on the
word of the gate is one step, and so are the begin and the end of the STOP callback.

* `PtpControlCancellationGate`, `PtpControlCancellationGate.step`
-/

namespace ArStack.TimeSync

open ArStack.Lib

def kBusy : UInt8 := 1

def kStop : UInt8 := 2

/-- Where a thread is in the calls to the gate. -/
inductive GateThread where
  | idle
  /-- In `request_stop_and_try_acquire`, before the exchange. -/
  | requested
  /-- It has acquired the gate and has not called `finish`. -/
  | owner
  /-- In `finish`, before the load. -/
  | loading (cancelled : Bool)
  /-- In the STOP callback. -/
  | calling
  /-- In `finish`, before the exchange of a stopped word. -/
  | draining
  /-- In `finish`, before the exchange of a word without a stop. -/
  | releasing (cancelled : Bool)
  deriving DecidableEq

/-- The thread has acquired the gate and has not released it. -/
def GateThread.owns : GateThread → Bool
  | .idle => false
  | .requested => false
  | _ => true

structure PtpControlCancellationGate (Thread : Type) where
  state : UInt8 := 0
  threads : Thread → GateThread := fun _ => .idle

/-- What the threads do next. -/
inductive GateEvent (Thread : Type) where
  /-- An idle thread calls `try_acquire`. -/
  | tryAcquire (thread : Thread)
  /-- An idle thread calls `request_stop_and_try_acquire`. -/
  | requestStop (thread : Thread)
  /-- An owner calls `finish`. -/
  | finish (thread : Thread)
  /-- The next operation of the call that the thread is in. -/
  | next (thread : Thread)
  deriving DecidableEq

inductive GateAnswer (Thread : Type) where
  | none
  | acquired (thread : Thread)
  /-- `try_acquire` or the exchange of a stopper has failed. -/
  | refused (thread : Thread)
  | stopRequested (thread : Thread)
  /-- The STOP callback begins. -/
  | called (thread : Thread)
  /-- The STOP callback is over. -/
  | completed (thread : Thread)
  /-- `finish` has made the gate free and returns. -/
  | released (thread : Thread) (result : Bool)
  deriving DecidableEq

namespace GateAnswer

variable {Thread : Type}

def stops : GateAnswer Thread → Bool
  | .stopRequested _ => true
  | _ => false

def calls : GateAnswer Thread → Bool
  | .called _ => true
  | _ => false

def completes : GateAnswer Thread → Bool
  | .completed _ => true
  | _ => false

def releases : GateAnswer Thread → Bool
  | .released _ _ => true
  | _ => false

end GateAnswer

namespace PtpControlCancellationGate

variable {Thread : Type} [DecidableEq Thread]

/-- A word of the gate and the position of one thread. -/
def move (s : PtpControlCancellationGate Thread) (thread : Thread) (state : UInt8)
    (position : GateThread) : PtpControlCancellationGate Thread where
  state
  threads := Function.update s.threads thread position

@[simp] theorem move_threads_self (s : PtpControlCancellationGate Thread) (thread : Thread)
    (state : UInt8) (position : GateThread) :
    (s.move thread state position).threads thread = position := Function.update_self ..

theorem move_threads_of_ne (s : PtpControlCancellationGate Thread) {thread other : Thread}
    (state : UInt8) (position : GateThread) (h : other ≠ thread) :
    (s.move thread state position).threads other = s.threads other := Function.update_of_ne h ..

/-- `compare_exchange_strong` -/
def exchange (s : PtpControlCancellationGate Thread) (expected desired : UInt8) : Option UInt8 :=
  if s.state = expected then some desired else none

def tryAcquire (s : PtpControlCancellationGate Thread) (thread : Thread) :
    GateAnswer Thread × PtpControlCancellationGate Thread :=
  match s.exchange 0 kBusy with
  | some word => (.acquired thread, s.move thread word .owner)
  | none => (.refused thread, s)

/-- The `fetch_or` of a stopper. -/
def requestStop (s : PtpControlCancellationGate Thread) (thread : Thread) :
    GateAnswer Thread × PtpControlCancellationGate Thread :=
  if s.state &&& kBusy ≠ 0 then (.stopRequested thread, s.move thread (s.state ||| kStop) .idle)
  else (.stopRequested thread, s.move thread (s.state ||| kStop) .requested)

def next (s : PtpControlCancellationGate Thread) (thread : Thread) :
    GateAnswer Thread × PtpControlCancellationGate Thread :=
  match s.threads thread with
  | .requested =>
    match s.exchange kStop (kBusy ||| kStop) with
    | some word => (.acquired thread, s.move thread word .owner)
    | none => (.refused thread, s.move thread s.state .idle)
  | .loading cancelled =>
    if s.state &&& kStop ≠ 0 then
      if cancelled then (.none, s.move thread s.state .draining)
      else (.called thread, s.move thread s.state .calling)
    else (.none, s.move thread s.state (.releasing cancelled))
  | .calling => (.completed thread, s.move thread s.state .draining)
  | .draining =>
    match s.exchange (kBusy ||| kStop) 0 with
    | some word => (.released thread false, s.move thread word .idle)
    | none => (.none, s.move thread s.state (.loading true))
  | .releasing cancelled =>
    match s.exchange kBusy 0 with
    | some word => (.released thread (!cancelled), s.move thread word .idle)
    | none => (.none, s.move thread s.state (.loading cancelled))
  | .idle => (.none, s)
  | .owner => (.none, s)

/-- One step of any thread. What a thread cannot do next changes nothing. -/
def step (s : PtpControlCancellationGate Thread) :
    GateEvent Thread → GateAnswer Thread × PtpControlCancellationGate Thread
  | .tryAcquire thread => if s.threads thread = .idle then s.tryAcquire thread else (.none, s)
  | .requestStop thread => if s.threads thread = .idle then s.requestStop thread else (.none, s)
  | .finish thread =>
    if s.threads thread = .owner then (.none, s.move thread s.state (.loading false))
    else (.none, s)
  | .next thread => s.next thread

end PtpControlCancellationGate

end ArStack.TimeSync
