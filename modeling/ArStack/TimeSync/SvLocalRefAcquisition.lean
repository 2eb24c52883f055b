import Mathlib.Data.UInt

/-!
# The local reference

A publisher may call its samples locally synchronized only after enough epochs in a row. Epochs
before the transmission has started (preflight) shorten the wait afterwards.

* `SvLocalRefAcquisition.observePreflight`, `observeLive`, `reset`
-/

namespace ArStack.TimeSync

/-- What an observation says of its epoch. -/
structure SvEpochIdentity where
  session : UInt32 := 0
  faults : UInt32 := 0
  source : UInt32 := 0
  epoch : UInt32 := 0
  deriving DecidableEq

namespace SvEpochIdentity

/-- `same_epoch_identity`: the epoch directly after this one. -/
def Continues (before after : SvEpochIdentity) : Prop :=
  before.session = after.session ∧ before.faults = after.faults ∧ before.source = after.source ∧
    after.epoch - before.epoch = 1

instance (before after : SvEpochIdentity) : Decidable (before.Continues after) :=
  inferInstanceAs (Decidable (_ ∧ _))

/-- There is a session, a source and an epoch. -/
def Valid (identity : SvEpochIdentity) : Prop :=
  identity.session ≠ 0 ∧ identity.source ≠ 0 ∧ identity.epoch ≠ 0

instance (identity : SvEpochIdentity) : Decidable identity.Valid :=
  inferInstanceAs (Decidable (_ ∧ _))

end SvEpochIdentity

structure SvLocalRefAcquisition where
  count : UInt32 := 0
  preflightEpochs : UInt32 := 0
  liveAge : UInt32 := 0
  identity : SvEpochIdentity := {}
  hadMacEvidence : Bool := false
  deriving DecidableEq

namespace SvLocalRefAcquisition

def kRequiredCleanEpochs : UInt32 := 10

def kWarmRequiredLiveEpochs : UInt32 := 3

def kMaxWarmMacAcquisitionEpochs : UInt32 := 8

def reset : SvLocalRefAcquisition := {}

section

variable (acquisition : SvLocalRefAcquisition)

def observePreflight (phaseQualified : Bool) (identity : SvEpochIdentity) :
    SvLocalRefAcquisition :=
  if !phaseQualified ∨ identity.session = 0 ∨ identity.source = 0 ∨ identity.epoch = 0 then reset
  else
    let acquisition :=
      if acquisition.count ≠ 0 ∨
          (acquisition.preflightEpochs ≠ 0 ∧ ¬acquisition.identity.Continues identity) then reset
      else acquisition
    { acquisition with
      identity
      preflightEpochs :=
        if acquisition.preflightEpochs < kRequiredCleanEpochs then acquisition.preflightEpochs + 1
        else acquisition.preflightEpochs }

def observeLive (phaseQualified canonicalMacQualified : Bool) (identity : SvEpochIdentity) :
    Bool × SvLocalRefAcquisition :=
  if !phaseQualified ∨ identity.session = 0 ∨ identity.source = 0 ∨ identity.epoch = 0 then
    (false, reset)
  else
    let acquisition :=
      if (acquisition.count ≠ 0 ∨ acquisition.preflightEpochs ≠ 0 ∨ acquisition.liveAge ≠ 0) ∧
          ¬acquisition.identity.Continues identity then reset
      else acquisition
    let liveAge :=
      if acquisition.liveAge < kMaxWarmMacAcquisitionEpochs + 1 then acquisition.liveAge + 1
      else acquisition.liveAge
    let preflightEpochs :=
      if liveAge > kMaxWarmMacAcquisitionEpochs then 0 else acquisition.preflightEpochs
    let acquisition := { acquisition with identity, liveAge, preflightEpochs }
    if !canonicalMacQualified then
      (false, if acquisition.hadMacEvidence then reset else acquisition)
    else
      let count :=
        if acquisition.count < kRequiredCleanEpochs then acquisition.count + 1
        else acquisition.count
      (count == kRequiredCleanEpochs ||
          (preflightEpochs == kRequiredCleanEpochs &&
            decide (liveAge ≤ kMaxWarmMacAcquisitionEpochs) &&
            decide (count ≥ kWarmRequiredLiveEpochs)),
        { acquisition with hadMacEvidence := true, count })

/-- `observe`: the phase and the MAC evidence as one. -/
def observe (qualified : Bool) (identity : SvEpochIdentity) : Bool × SvLocalRefAcquisition :=
  acquisition.observeLive qualified qualified identity

end

end SvLocalRefAcquisition

/-! ## Runs -/

inductive SvLocalRefCall where
  | reset
  | preflight (phaseQualified : Bool) (identity : SvEpochIdentity)
  | live (phaseQualified canonicalMacQualified : Bool) (identity : SvEpochIdentity)
  deriving DecidableEq

namespace SvLocalRefAcquisition

/-- What a call returns, `false` where it returns nothing, and the state after it. -/
def call (acquisition : SvLocalRefAcquisition) : SvLocalRefCall → Bool × SvLocalRefAcquisition
  | .reset => (false, reset)
  | .preflight phaseQualified identity =>
    (false, acquisition.observePreflight phaseQualified identity)
  | .live phaseQualified canonicalMacQualified identity =>
    acquisition.observeLive phaseQualified canonicalMacQualified identity

end SvLocalRefAcquisition

end ArStack.TimeSync
