import ArStack.Lib.TextMatch
import ArStack.Wire

/-!
# Sample counters

A publisher counts its samples, modulo a number that may be agreed on or the 65536 values of the
field. `SampleCounterTracker` compares each counter that arrives with the one that was due.

* `SampleCounterPolicy.increment`
* `SampleCounterTracker.observe`
-/

namespace ArStack.SampledValues

open ArStack.Lib

namespace SampleCounterPolicy

/-- The number of values of a counter. -/
def modulus (wrap : Option UInt16) : Nat :=
  match wrap with
  | some wrap => if wrap > 1 then wrap.toNat else 65536
  | none => 65536

def increment (current : UInt16) (wrap : Option UInt16) (step : UInt32 := 1) : UInt16 :=
  if step = 0 then current else .ofNat ((current.toNat + step.toNat) % modulus wrap)

end SampleCounterPolicy

inductive SampleCounterTransitionKind where
  | initial
  | continuous
  | normalWrap
  | gap
  | duplicate
  | outOfOrder
  | restart
  deriving DecidableEq

structure SampleCounterTransition where
  kind : SampleCounterTransitionKind := .initial
  actual : UInt16 := 0
  previous : Option UInt16 := none
  expected : Option UInt16 := none
  wrap : Option UInt16 := none
  missingSamples : UInt32 := 0
  detail : Bytes := []
  deriving DecidableEq

namespace SampleCounterTransition

def isAnomaly (transition : SampleCounterTransition) : Bool :=
  transition.kind == .gap || transition.kind == .duplicate || transition.kind == .outOfOrder

end SampleCounterTransition

structure SampleCounterTracker where
  last : Option UInt16 := none
  expected : Option UInt16 := none
  deriving DecidableEq

namespace SampleCounterTracker

def next (value : UInt16) (wrap : Option UInt16) : UInt16 :=
  SampleCounterPolicy.increment value wrap

def distanceForward (start stop : UInt16) (modulus : Nat) : UInt32 :=
  let distance := ((stop.toNat : Int) - start.toNat).tmod modulus
  .ofNat (if distance < 0 then distance + modulus else distance).toNat

/-- The tracker after a counter that is not ignored. -/
def follow (actual : UInt16) (wrap : Option UInt16) : SampleCounterTracker :=
  { last := some actual, expected := some (next actual wrap) }

def observe (tracker : SampleCounterTracker) (actual : UInt16) (wrap : Option UInt16)
    (restartHint : Bool := false) : SampleCounterTransition × SampleCounterTracker :=
  match tracker.last with
  | none =>
    ({ kind := .initial, actual, wrap, detail := ascii "Initial sample counter observation." },
      follow actual wrap)
  | some previous =>
    if restartHint then
      ({ kind := .restart
         actual
         previous := some previous
         wrap
         detail := ascii
           "The counter state was reset by trusted restart/configuration evidence." },
        follow actual wrap)
    else if actual = previous then
      ({ kind := .duplicate
         actual
         previous := some previous
         expected := tracker.expected
         wrap
         detail := ascii ("Duplicate smpCnt " ++ toString actual.toNat ++ ".") },
        tracker)
    else
      let expected := tracker.expected.getD (next previous wrap)
      if actual = expected then
        let wrapped := decide (actual < previous)
        ({ kind := if wrapped then .normalWrap else .continuous
           actual
           previous := some previous
           expected := some expected
           wrap
           detail := ascii (if wrapped then "Normal smpCnt wrap."
             else "Continuous smpCnt transition.") },
          follow actual wrap)
      else
        let modulus := SampleCounterPolicy.modulus wrap
        let forward := distanceForward expected actual modulus
        let backward := distanceForward actual expected modulus
        if forward > 0 ∧ forward < backward then
          ({ kind := .gap
             actual
             previous := some previous
             expected := some expected
             wrap
             missingSamples := forward
             detail := ascii ("smpCnt advanced from expected " ++ toString expected.toNat ++
               " to " ++ toString actual.toNat ++ "; " ++ toString forward.toNat ++
               " sample(s) were not observed.") },
            follow actual wrap)
        else
          ({ kind := .outOfOrder
             actual
             previous := some previous
             expected := some expected
             wrap
             detail := ascii ("smpCnt " ++ toString actual.toNat ++ " is behind expected " ++
               toString expected.toNat ++ ".") },
            follow actual wrap)

end SampleCounterTracker

end ArStack.SampledValues
