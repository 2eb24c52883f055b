import Mathlib.Algebra.Ring.Nat
import Mathlib.Data.Fintype.Basic

/-!
# Live signals

`SvLiveSignalBank` keeps the state that the Sampled Values publishers render in one of four
banks. Here a call is one step; `LiveSignalReaders` has the calls in their atomic operations.

* `SvLiveSignalBank.validate`, `snapshot`, `publish`
-/

namespace ArStack.SampledValues

def kLiveSignalChannelCount : Nat := 8

structure SvLiveChannelState where
  rmsCounts : Int32 := 0
  phaseMillidegrees : Int32 := 0
  quality : UInt32 := 0
  enabled : Bool := true
  deriving DecidableEq

structure SvCurrentWaveformShape where
  enabled : Bool := false
  dcOffsetPermille : Int32 := 0
  harmonicPermille : UInt32 := 0
  harmonicOrder : UInt8 := 2
  clipPermille : UInt32 := 1000
  deriving DecidableEq

structure SvLiveSignalState where
  frequencyMillihz : UInt32 := 50000
  channels : Vector SvLiveChannelState kLiveSignalChannelCount := .replicate _ {}
  currentShape : SvCurrentWaveformShape := {}
  generation : UInt64 := 0
  deriving DecidableEq

/-- There is a bank 0. -/
scoped instance bankNeZero : NeZero 4 := ⟨by decide⟩

structure SvLiveSignalBank where
  banks : Vector SvLiveSignalState 4
  readerCounts : Vector UInt32 4 := .replicate 4 0
  activeIndex : Fin 4 := 0
  deriving DecidableEq

namespace SvLiveSignalBank

/-- Zero is the explicit DC mode. -/
def validFrequency (frequencyMillihz : UInt32) : Bool :=
  frequencyMillihz == 0 || (decide (1000 ≤ frequencyMillihz) && decide (frequencyMillihz ≤ 1000000))

def validChannel (channel : SvLiveChannelState) : Bool :=
  channel.rmsCounts != Int32.minValue && decide (-360000000 ≤ channel.phaseMillidegrees) &&
    decide (channel.phaseMillidegrees ≤ 360000000)

def validShape (shape : SvCurrentWaveformShape) : Bool :=
  decide (-3000 ≤ shape.dcOffsetPermille) && decide (shape.dcOffsetPermille ≤ 3000) &&
    decide (shape.harmonicPermille ≤ 3000) && decide (2 ≤ shape.harmonicOrder) &&
    decide (shape.harmonicOrder ≤ 63) && decide (10 ≤ shape.clipPermille) &&
    decide (shape.clipPermille ≤ 10000)

def validate (state : SvLiveSignalState) : Bool :=
  validFrequency state.frequencyMillihz && state.channels.toList.all validChannel &&
    validShape state.currentShape

def defaultState : SvLiveSignalState where
  channels :=
    #v[{ rmsCounts := 1000 }, { rmsCounts := 1000, phaseMillidegrees := -120000 },
      { rmsCounts := 1000, phaseMillidegrees := 120000 }, {}, { rmsCounts := 5774 },
      { rmsCounts := 5774, phaseMillidegrees := -120000 },
      { rmsCounts := 5774, phaseMillidegrees := 120000 }, {}]

/-- The constructor. -/
def initial : SvLiveSignalBank := { banks := .replicate 4 defaultState }

def active (bank : SvLiveSignalBank) : SvLiveSignalState := bank.banks[bank.activeIndex]

/-- What is returned when nothing is published meanwhile. -/
def snapshot (bank : SvLiveSignalBank) : SvLiveSignalState := bank.active

/-- The first bank that is neither active nor pinned. -/
def freeBank (bank : SvLiveSignalBank) : Option (Fin 4) :=
  (List.finRange 4).find? fun candidate =>
    candidate != bank.activeIndex && bank.readerCounts.get candidate == 0

def publish (bank : SvLiveSignalBank) (requested : SvLiveSignalState) : Bool × SvLiveSignalBank :=
  if !validate requested then (false, bank)
  else
    match bank.freeBank with
    | none => (false, bank)
    | some ⟨next, hnext⟩ =>
      let written := { requested with generation := bank.active.generation + 1 }
      (true, { bank with banks := bank.banks.set next written hnext, activeIndex := ⟨next, hnext⟩ })

/-! ## What a publication changes -/

variable {bank : SvLiveSignalBank} {requested : SvLiveSignalState}

/-- **A publication makes the requested state the active one**, with the next generation. -/
theorem publish_cases (bank : SvLiveSignalBank) (requested : SvLiveSignalState) :
    (∃ bank', bank.publish requested = (true, bank') ∧ validate requested = true ∧
      bank'.active = { requested with generation := bank.active.generation + 1 }) ∨
    bank.publish requested = (false, bank) := by
  rw [publish]
  split
  · exact .inr rfl
  · rename_i hvalid
    cases bank.freeBank with
    | none => exact .inr rfl
    | some next =>
      refine .inl ⟨_, rfl, by simpa using hvalid, ?_⟩
      rw [active]
      simp

end SvLiveSignalBank

end ArStack.SampledValues
