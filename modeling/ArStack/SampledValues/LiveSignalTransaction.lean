import ArStack.SampledValues.LiveSignalState

/-!
# Scenario transactions

`SvScenarioTransaction` collects a complete scenario before it is published.

* `begin`, `mark`, `commit`, `confirmReadback`, `verifiedCurrentBank`, `canStart`
-/

namespace ArStack.SampledValues

/-- One step of the FNV-1a hash per octet of `item`, least significant first. -/
def hashWord (value : UInt64) (item : UInt32) : UInt64 :=
  ([0, 8, 16, 24] : List UInt32).foldl
    (fun value shift => (value ^^^ ((item >>> shift) &&& 0xFF).toUInt64) * 1099511628211) value

def boolWord (flag : Bool) : UInt32 := if flag then 1 else 0

def channelWords (channel : SvLiveChannelState) : List UInt32 :=
  [channel.rmsCounts.toUInt32, channel.phaseMillidegrees.toUInt32, channel.quality,
    boolWord channel.enabled]

def shapeWords (shape : SvCurrentWaveformShape) : List UInt32 :=
  [boolWord shape.enabled, shape.dcOffsetPermille.toUInt32, shape.harmonicPermille,
    shape.harmonicOrder.toUInt32, shape.clipPermille]

/-- Everything but the generation is hashed. -/
def svScenarioHash (state : SvLiveSignalState) : UInt64 :=
  (state.frequencyMillihz :: state.channels.toList.flatMap channelWords ++
    shapeWords state.currentShape).foldl hashWord 14695981039346656037

inductive SvScenarioResult where
  | accepted
  | inactive
  | wrongToken
  | expired
  | incomplete
  | invalid
  | checksum
  | publishFailed
  | staleGeneration
  deriving DecidableEq

structure SvScenarioTransaction where
  staged : SvLiveSignalState := {}
  token : UInt64 := 0
  checksum : UInt64 := 0
  generation : UInt64 := 0
  baselineGeneration : UInt64 := 0
  beganMs : UInt32 := 0
  mask : UInt32 := 0
  staging : Bool := false
  beganRunning : Bool := false
  committed : Bool := false
  rejected : Bool := false
  readbackSeen : Bool := false
  deriving DecidableEq

namespace SvScenarioTransaction

def kCompleteMask : UInt32 := ((1 : UInt32) <<< 18) - 1
def kTimeoutMs : UInt32 := 8000

/-- The staged state is kept, without meaning. -/
def reset (tx : SvScenarioTransaction) : SvScenarioTransaction := { staged := tx.staged }

def begin (tx : SvScenarioTransaction) (token : UInt64) (current : SvLiveSignalState)
    (now : UInt32) (running : Bool) : Bool × SvScenarioTransaction :=
  if token = 0 then (false, tx.reset)
  else
    (true,
      { tx.reset with
        token
        staged := current
        baselineGeneration := current.generation
        beganRunning := running
        beganMs := now
        staging := true })

/-- The caller edits the draft. -/
def edit (tx : SvScenarioTransaction) (change : SvLiveSignalState → SvLiveSignalState) :
    SvScenarioTransaction := { tx with staged := change tx.staged }

def markBit (tx : SvScenarioTransaction) (bit : Nat) : SvScenarioTransaction :=
  { tx with mask := tx.mask ||| 1 <<< UInt32.ofNat bit }

def markFrequency (tx : SvScenarioTransaction) : SvScenarioTransaction := tx.markBit 0

def markShape (tx : SvScenarioTransaction) : SvScenarioTransaction := tx.markBit 1

def reject (tx : SvScenarioTransaction) : SvScenarioTransaction := { tx with rejected := true }

def markSet (tx : SvScenarioTransaction) (index : Nat) : SvScenarioTransaction :=
  if index < 8 then tx.markBit (index + 2) else tx.reject

def markEnabled (tx : SvScenarioTransaction) (index : Nat) : SvScenarioTransaction :=
  if index < 8 then tx.markBit (index + 10) else tx.reject

def elapsed (tx : SvScenarioTransaction) (now : UInt32) : Bool :=
  decide (now - tx.beganMs > kTimeoutMs)

def commit (tx : SvScenarioTransaction) (bank : SvLiveSignalBank) (token expected : UInt64)
    (now : UInt32) : SvScenarioResult × SvScenarioTransaction × SvLiveSignalBank :=
  if !tx.staging then (.inactive, tx, bank)
  else if token ≠ tx.token then (.wrongToken, tx, bank)
  else if tx.elapsed now then (.expired, tx.reset, bank)
  else if tx.rejected || !SvLiveSignalBank.validate tx.staged then (.invalid, tx.reset, bank)
  else if tx.mask ≠ kCompleteMask then (.incomplete, tx, bank)
  else
    let actual := svScenarioHash tx.staged
    if expected ≠ actual then (.checksum, tx.reset, bank)
    else if bank.snapshot.generation ≠ tx.baselineGeneration then
      (.staleGeneration, tx.reset, bank)
    else
      match bank.publish tx.staged with
      | (false, bank) => (.publishFailed, tx.reset, bank)
      | (true, bank) =>
        (.accepted,
          { tx with
            staging := false
            committed := true
            checksum := actual
            generation := bank.snapshot.generation },
          bank)

def readbackMatches (tx : SvScenarioTransaction) (bank : SvLiveSignalBank) (token : UInt64)
    (now : UInt32) : Bool :=
  if !tx.committed || tx.token != token || tx.elapsed now then false
  else
    bank.snapshot.generation == tx.generation && svScenarioHash bank.snapshot == tx.checksum

def confirmReadback (tx : SvScenarioTransaction) (bank : SvLiveSignalBank) (token : UInt64)
    (now : UInt32) : Bool × SvScenarioTransaction :=
  (tx.readbackMatches bank token now,
    { tx with readbackSeen := tx.readbackMatches bank token now })

def verifiedCurrentBank (tx : SvScenarioTransaction) (bank : SvLiveSignalBank) : Bool :=
  if !tx.committed || !tx.readbackSeen || tx.beganRunning then false
  else
    bank.snapshot.generation != 0 && bank.snapshot.generation == tx.generation &&
      svScenarioHash bank.snapshot == tx.checksum

def canStart (tx : SvScenarioTransaction) (bank : SvLiveSignalBank) (token hash : UInt64)
    (now : UInt32) : Bool :=
  !tx.beganRunning && tx.readbackSeen && tx.checksum == hash && tx.readbackMatches bank token now

def consumeStart (tx : SvScenarioTransaction) : SvScenarioTransaction := tx.reset

/-! ## What a commit does -/

/-- The conditions of a commit. -/
structure Ready (tx : SvScenarioTransaction) (bank : SvLiveSignalBank) (token expected : UInt64)
    (now : UInt32) : Prop where
  staging : tx.staging = true
  token_eq : tx.token = token
  elapsed : now - tx.beganMs ≤ kTimeoutMs
  rejected : tx.rejected = false
  mask : tx.mask = kCompleteMask
  hash : svScenarioHash tx.staged = expected
  baseline : bank.active.generation = tx.baselineGeneration

/-- The transaction behind an accepted commit. -/
def accepted (tx : SvScenarioTransaction) (bank : SvLiveSignalBank) : SvScenarioTransaction :=
  { tx with
    staging := false
    committed := true
    checksum := svScenarioHash tx.staged
    generation := bank.active.generation }

/-- **A commit publishes the draft or leaves the bank as it is.** -/
theorem commit_cases (tx : SvScenarioTransaction) (bank : SvLiveSignalBank)
    (token expected : UInt64) (now : UInt32) :
    (∃ bank', tx.commit bank token expected now = (.accepted, tx.accepted bank', bank') ∧
      tx.Ready bank token expected now ∧
      bank'.active = { tx.staged with generation := bank.active.generation + 1 }) ∨
    ∃ result tx', tx.commit bank token expected now = (result, tx', bank) ∧ result ≠ .accepted ∧
      (tx' = tx ∨ tx' = tx.reset) := by
  rw [commit]
  split
  · exact .inr ⟨_, _, rfl, by decide, .inl rfl⟩
  rename_i hstaging
  split
  · exact .inr ⟨_, _, rfl, by decide, .inl rfl⟩
  rename_i htoken
  split
  · exact .inr ⟨_, _, rfl, by decide, .inr rfl⟩
  rename_i htime
  split
  · exact .inr ⟨_, _, rfl, by decide, .inr rfl⟩
  rename_i hvalid
  split
  · exact .inr ⟨_, _, rfl, by decide, .inl rfl⟩
  rename_i hmask
  dsimp only
  split
  · exact .inr ⟨_, _, rfl, by decide, .inr rfl⟩
  rename_i hhash
  split
  · exact .inr ⟨_, _, rfl, by decide, .inr rfl⟩
  rename_i hbaseline
  rcases bank.publish_cases tx.staged with ⟨bank', heq, -, hactive⟩ | heq
  · rw [heq]
    refine .inl ⟨bank', rfl, ⟨?_, (not_not.mp htoken).symm, ?_, ?_, not_not.mp hmask,
      (not_not.mp hhash).symm, not_not.mp hbaseline⟩, hactive⟩
    · simpa using hstaging
    · rw [SvScenarioTransaction.elapsed, decide_eq_true_eq] at htime
      exact UInt32.not_lt.mp htime
    · simp only [Bool.or_eq_true, not_or, Bool.not_eq_true] at hvalid
      exact hvalid.1
  · rw [heq]
    exact .inr ⟨_, _, rfl, by decide, .inr rfl⟩

end SvScenarioTransaction

end ArStack.SampledValues
