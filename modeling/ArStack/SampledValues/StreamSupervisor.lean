import ArStack.SampledValues.PduCodec
import ArStack.SampledValues.SampleCounter

/-!
# The supervisor of a stream

`SampledValuesStreamSupervisor` follows the samples of one stream: whether they are from the
expected publisher, and what their counters tell of lost and repeated ones. The counts of
`StreamStatistics` are not bounded here.

* `observe`, `observePdu`
-/

namespace ArStack.SampledValues

open ArStack.Lib

structure StreamExpectation where
  svId : Option Bytes := none
  dataSetReference : Option Bytes := none
  configurationRevision : Option UInt32 := none
  sampleCounterWrap : Option UInt16 := none
  deriving DecidableEq

structure StreamObservation where
  counter : SampleCounterTransition := {}
  identityMatches : Bool := true
  configurationChanged : Bool := false
  diagnostics : List Bytes := []
  deriving DecidableEq

structure StreamStatistics where
  observations : Nat := 0
  continuous : Nat := 0
  normalWraps : Nat := 0
  gaps : Nat := 0
  duplicates : Nat := 0
  outOfOrder : Nat := 0
  restarts : Nat := 0
  missingSamples : Nat := 0
  identityMismatches : Nat := 0
  configurationChanges : Nat := 0
  deriving DecidableEq

namespace StreamStatistics

/-- Count a transition. -/
def count (statistics : StreamStatistics) (transition : SampleCounterTransition) :
    StreamStatistics :=
  match transition.kind with
  | .continuous => { statistics with continuous := statistics.continuous + 1 }
  | .normalWrap => { statistics with normalWraps := statistics.normalWraps + 1 }
  | .gap =>
    { statistics with
      gaps := statistics.gaps + 1
      missingSamples := statistics.missingSamples + transition.missingSamples.toNat }
  | .duplicate => { statistics with duplicates := statistics.duplicates + 1 }
  | .outOfOrder => { statistics with outOfOrder := statistics.outOfOrder + 1 }
  | .restart => { statistics with restarts := statistics.restarts + 1 }
  | .initial => statistics

end StreamStatistics

structure SampledValuesStreamSupervisor where
  expectation : StreamExpectation := {}
  counterTracker : SampleCounterTracker := {}
  statistics : StreamStatistics := {}
  lastConfigurationRevision : Option UInt32 := none
  deriving DecidableEq

namespace SampledValuesStreamSupervisor

/-- The diagnostics of the fields that differ from the expected ones. -/
def identityDiagnostics (expectation : StreamExpectation) (asdu : SampledValueAsdu) : List Bytes :=
  (match expectation.svId with
    | some svId =>
      if svId ≠ asdu.svId then
        [ascii "svID mismatch: expected '" ++ svId ++ ascii "', observed '" ++ asdu.svId ++
          ascii "'."]
      else []
    | none => []) ++
  (match expectation.dataSetReference with
    | some dataSetReference =>
      if dataSetReference ≠ asdu.dataSetReference then
        [ascii "datSet mismatch: expected '" ++ dataSetReference ++ ascii "', observed '" ++
          asdu.dataSetReference ++ ascii "'."]
      else []
    | none => []) ++
  (match expectation.configurationRevision with
    | some revision =>
      if revision ≠ asdu.configurationRevision then
        [ascii ("confRev mismatch: expected " ++ toString revision.toNat ++ ", observed " ++
          toString asdu.configurationRevision.toNat ++ ".")]
      else []
    | none => [])

def reset (supervisor : SampledValuesStreamSupervisor) : SampledValuesStreamSupervisor :=
  { expectation := supervisor.expectation }

def observe (supervisor : SampledValuesStreamSupervisor) (asdu : SampledValueAsdu)
    (restartHint : Bool := false) : StreamObservation × SampledValuesStreamSupervisor :=
  let diagnostics := identityDiagnostics supervisor.expectation asdu
  let configurationChanged := supervisor.lastConfigurationRevision.any
    (· != asdu.configurationRevision)
  let (counter, counterTracker) := supervisor.counterTracker.observe asdu.sampleCount
    supervisor.expectation.sampleCounterWrap (restartHint || configurationChanged)
  let statistics : StreamStatistics :=
    { supervisor.statistics with
      observations := supervisor.statistics.observations + 1
      identityMismatches :=
        supervisor.statistics.identityMismatches + (!diagnostics.isEmpty).toNat
      configurationChanges :=
        supervisor.statistics.configurationChanges + configurationChanged.toNat }
  ({ counter, identityMatches := diagnostics.isEmpty, configurationChanged, diagnostics },
    { supervisor with
      counterTracker
      statistics := statistics.count counter
      lastConfigurationRevision := some asdu.configurationRevision })

/-- The ASDUs one after the other; only the first one has the hint. -/
def observeAsdus (supervisor : SampledValuesStreamSupervisor) (restartHint : Bool) :
    List SampledValueAsdu → List StreamObservation × SampledValuesStreamSupervisor
  | [] => ([], supervisor)
  | asdu :: asdus =>
    let (observation, supervisor) := supervisor.observe asdu restartHint
    let (observations, supervisor) := supervisor.observeAsdus false asdus
    (observation :: observations, supervisor)

/-- `observe` of a PDU. -/
def observePdu (supervisor : SampledValuesStreamSupervisor) (pdu : SampledValuesPdu)
    (restartHint : Bool := false) : List StreamObservation × SampledValuesStreamSupervisor :=
  supervisor.observeAsdus restartHint pdu.asdus

end SampledValuesStreamSupervisor

end ArStack.SampledValues
