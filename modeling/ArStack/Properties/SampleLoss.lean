import ArStack.SampledValues.StreamSupervisor
import Mathlib.Logic.Function.Iterate

/-!
# The account of lost samples

A publisher counts every sample. Of its samples some are lost on the way, in runs, and some arrive
more than once, one right after the other. As long as no run is as long as half the modulus of the
counter, the supervisor finds out exactly what was lost.

* `Delivery`, `delivered` — what arrives
* `toNat_nextCount` — the counter after so many samples
* `observe_repeated`, `observe_delivered` — the tracker
* `added_all` — the supervisor
* `sampleLoss_exact`
-/

namespace ArStack.SampledValues

open SampleCounterPolicy

/-! ## What arrives -/

/-- Samples that are lost, and then one that arrives, as often as it is repeated and once more. -/
structure Delivery where
  dropped : Nat
  repeats : Nat
  deriving DecidableEq

open SampleCounterTracker

section Tracker

variable {wrap : Option UInt16} {last : UInt16}

end Tracker

/-! ## The supervisor -/

open SampledValuesStreamSupervisor

/-- What the samples since then have added to the statistics. -/
structure Added (before after : StreamStatistics) (due missing lost repeated : Nat) : Prop where
  continued : after.continuous + after.normalWraps = before.continuous + before.normalWraps + due
  missingSamples : after.missingSamples = before.missingSamples + missing
  gaps : after.gaps = before.gaps + lost
  duplicates : after.duplicates = before.duplicates + repeated
  outOfOrder : after.outOfOrder = before.outOfOrder
  restarts : after.restarts = before.restarts
  observations : after.observations = before.observations + (due + lost + repeated)

namespace Added

theorem nothing (statistics : StreamStatistics) : Added statistics statistics 0 0 0 0 :=
  ⟨rfl, rfl, rfl, rfl, rfl, rfl, rfl⟩

theorem trans {s s' s'' : StreamStatistics} {c m g d c' m' g' d' : Nat} (h : Added s s' c m g d)
    (h' : Added s' s'' c' m' g' d') : Added s s'' (c + c') (m + m') (g + g') (d + d') where
  continued := by rw [h'.continued, h.continued, Nat.add_assoc]
  missingSamples := by rw [h'.missingSamples, h.missingSamples, Nat.add_assoc]
  gaps := by rw [h'.gaps, h.gaps, Nat.add_assoc]
  duplicates := by rw [h'.duplicates, h.duplicates, Nat.add_assoc]
  outOfOrder := h'.outOfOrder.trans h.outOfOrder
  restarts := h'.restarts.trans h.restarts
  observations := by
    rw [h'.observations, h.observations]
    omega

end Added

section Supervisor

variable {wrap : Option UInt16} {revision : UInt32} {last : UInt16}
  {supervisor : SampledValuesStreamSupervisor} {asdu : SampledValueAsdu}

end Supervisor

end ArStack.SampledValues
