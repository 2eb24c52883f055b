import Mathlib
import ArStack.Properties.SboExclusivity

/-!
# The selection under interleaving

The associations run their operations concurrently, every access to the owner word and to the
deadline word being one step. Nothing ties the two words together: a store to the deadline word
can land on a selection that another association has made in the meantime, and an Oper can read
a deadline that is not its own.

* `selectionProtocol` — what an operation does to the two words, whatever they answer
* `stepOk` — the steps in which the words do not come apart
* `sbo_interleaved` — with such steps, the selection is sound under every interleaving
* `release_overwrites` — a release that takes the deadline of the next selection
-/

namespace ArStack.Mms

open ArStack.Lib ArStack.Wire

open MmsStaticDirectBooleanControlBinding

/-! ## The associations and their operations -/

/-- An operation of an association: a request, or the end of a termination that was owed. -/
inductive SboOperation where
  | serve (request : ControlRequest)
  | terminated
  deriving DecidableEq

/-- The operation asks for a selection. -/
def SboOperation.selects : SboOperation → Bool
  | .serve (.read _) | .serve (.sbow _ _) => true
  | _ => false

def SboOperation.operates : SboOperation → Bool
  | .serve (.oper _ _) => true
  | _ => false

/-- What an association has last read from the clock and from the deadline word. -/
structure Readings where
  nowMs : UInt64 := 0
  deadlineMs : UInt64 := 0
  deriving DecidableEq

/-- An accepted Oper: what it has read, and the deadline of its association's last selection. -/
structure AcceptedOper where
  association : UInt64
  readings : Readings
  grantedMs : UInt64
  deriving DecidableEq

/-- The shared state and the local ones; for the observer also the readings, the deadline that
the last selection of an association has stored, and the accepted Opers. -/
structure SboMemory where
  shared : MmsStaticDirectBooleanSharedState := {}
  states : UInt64 → MmsStaticDirectBooleanControlState := fun _ => {}
  readings : UInt64 → Readings := fun _ => {}
  grantedMs : UInt64 → UInt64 := fun _ => 0
  accepted : List AcceptedOper := []

/-- A selection stores its deadline; a release stores zero. -/
def SboMemory.noteGrant (memory : SboMemory) (association : UInt64) :
    ControlAction → UInt64 → UInt64
  | .storeDeadline deadline =>
    if deadline = 0 then memory.grantedMs
    else Function.update memory.grantedMs association deadline
  | _ => memory.grantedMs

def SboMemory.noteReading (memory : SboMemory) (association : UInt64) (input : ControlInput) :
    ControlAction → UInt64 → Readings
  | .now =>
    Function.update memory.readings association
      { memory.readings association with nowMs := input.nowMs }
  | .loadDeadline =>
    Function.update memory.readings association
      { memory.readings association with deadlineMs := memory.shared.selectionDeadlineMs }
  | _ => memory.readings

def SboMemory.act (association : UInt64) (input : ControlInput) (action : ControlAction)
    (memory : SboMemory) : action.Response × SboMemory :=
  ((performAction input action memory.shared).1,
    { memory with
      shared := (performAction input action memory.shared).2
      readings := memory.noteReading association input action
      grantedMs := memory.noteGrant association action })

/-- The end of an operation. -/
def SboMemory.finish (association : UInt64) (operation : SboOperation)
    (ended : ControlResult × MmsStaticDirectBooleanControlState) (memory : SboMemory) : SboMemory :=
  { memory with
    states := Function.update memory.states association ended.2
    accepted :=
      if operation.operates && ended.1.accepted then
        ⟨association, memory.readings association, memory.grantedMs association⟩ ::
          memory.accepted
      else memory.accepted }

/-- The program of an operation. -/
def SboOperation.program (binding : MmsStaticDirectBooleanControlBinding)
    (state : MmsStaticDirectBooleanControlState) :
    SboOperation → ControlProgram (ControlResult × MmsStaticDirectBooleanControlState)
  | .serve request => binding.serve state request
  | .terminated => pure (.closed, { state with pendingTermination := false })

abbrev SboPool := Pool UInt64 SboOperation SboMemory ControlAction ControlAction.Response
  (ControlResult × MmsStaticDirectBooleanControlState)

abbrev SboMove := Move UInt64 SboOperation ControlInput

section

variable (config : UInt64 → MmsStaticDirectBooleanControlBinding)

def sboMachine : Machine UInt64 SboOperation ControlInput SboMemory ControlAction
    ControlAction.Response (ControlResult × MmsStaticDirectBooleanControlState) where
  program association operation memory :=
    operation.program (bindingOf config association) (memory.states association)
  action := SboMemory.act
  finish := SboMemory.finish

def sboPoolStep (pool : SboPool) (move : SboMove) : SboPool := pool.step (sboMachine config) move

/-- The device with nobody in the middle of an operation. -/
def sboIdle (memory : SboMemory) : SboPool := { memory, threads := fun _ => none }

/-! ## What is to hold, and when it does -/

/-- The claim about the two words: an owner that nobody disturbs has the deadline of its own
selection, and every accepted Oper has read its own deadline before it had passed. -/
structure SelectionSound (pool : SboPool) : Prop where
  owned : pool.Quiescent → ∀ owner, pool.memory.shared.selectedAssociationId = owner → owner ≠ 0 →
    pool.memory.shared.selectionDeadlineMs ≠ 0 ∧
      pool.memory.shared.selectionDeadlineMs = pool.memory.grantedMs owner
  accepted : ∀ oper ∈ pool.memory.accepted,
    oper.readings.deadlineMs = oper.grantedMs ∧ oper.readings.nowMs < oper.readings.deadlineMs

/-- The action stores the deadline of a selection. -/
def settles : ControlAction → Bool
  | .storeDeadline deadline => deadline != 0
  | _ => false

/-- The next action of an association keeps the two words together: it does not store to the
deadline word of another association that has settled its selection, an Oper that loads the
deadline word is still the owner or too late, and the deadline of a selection does not wrap to
zero. -/
def actionOk (pool : SboPool) (association : UInt64) (input : ControlInput)
    (operation : SboOperation) : ControlAction → Bool
  | .storeDeadline _ =>
    let owner := pool.memory.shared.selectedAssociationId
    owner == 0 || owner == association || (pool.pending owner).any fun next => settles next.2
  | .loadDeadline =>
    !operation.operates || pool.memory.shared.selectedAssociationId == association ||
      deadlinePassed pool.memory.shared.selectionDeadlineMs
        (pool.memory.readings association).nowMs
  | .now => !operation.selects || input.nowMs + (config association).sboTimeoutMs != 0
  | _ => true

def stepOk (pool : SboPool) : SboMove → Bool
  | .start _ _ => true
  | .act association input =>
    (pool.pending association).all fun next =>
      actionOk config pool association input next.1 next.2

end

/-! ## The protocol of an operation -/

/-- What an operation has read so far, and the deadline that it has to store next. -/
structure SelectionPhase where
  nowMs : Option UInt64 := none
  deadlineMs : Option UInt64 := none
  owes : Option UInt64 := none

namespace SelectionPhase

/-- The association owns the word and owes the deadline. -/
def settle (binding : MmsStaticDirectBooleanControlBinding) (phase : SelectionPhase) :
    SelectionPhase :=
  { phase with owes := phase.nowMs.map fun now => now + binding.sboTimeoutMs }

/-- The operation has found a deadline that has not passed. -/
def Judged (phase : SelectionPhase) : Prop :=
  ∃ now deadline, phase.nowMs = some now ∧ phase.deadlineMs = some deadline ∧
    deadlinePassed deadline now = false

end SelectionPhase

/-- The accesses of an operation to the two words. Whoever takes or gives up the owner word
stores to the deadline word in its next action. -/
def selectionProtocol (binding : MmsStaticDirectBooleanControlBinding) (selects : Bool) :
    Protocol SelectionPhase ControlAction ControlAction.Response where
  Allowed phase
    | .storeDeadline deadline => phase.owes = some deadline ∧ (selects = false → deadline = 0)
    | .casOwner expected desired =>
      phase.owes = none ∧ binding.associationId ≠ 0 ∧
        (desired = 0 ∨ expected = 0 ∧ desired = binding.associationId ∧ selects = true ∧
          ∃ now, phase.nowMs = some now)
    | .loadDeadline =>
      phase.owes = none ∧ binding.associationId ≠ 0 ∧ ∃ now, phase.nowMs = some now
    | _ => phase.owes = none
  advance phase action :=
    match action with
    | .now => fun now : UInt64 => { nowMs := some now }
    | .loadOwner => fun owner : UInt64 =>
      if selects = true ∧ owner = binding.associationId then phase.settle binding else phase
    | .loadDeadline => fun deadline : UInt64 => { phase with deadlineMs := some deadline }
    | .casOwner _ desired => fun changed : Bool =>
      if changed then
        if desired = 0 then { phase with owes := some 0 } else phase.settle binding
      else phase
    | .storeDeadline _ => fun _ => { phase with owes := none }
    | .storeValue _ | .apply _ => fun _ => phase

section Programs

variable {binding : MmsStaticDirectBooleanControlBinding} {selects : Bool}
  {phase : SelectionPhase}

theorem follows_clearOwner (hid : binding.associationId ≠ 0) (howes : phase.owes = none)
    (owner : UInt64) :
    Follows (selectionProtocol binding selects) (fun _ after => after = phase)
      (clearOwner owner) phase := by
  have heta : ({ phase with owes := none } : SelectionPhase) = phase := by
    rw [← howes]
  refine Follows.bind (fun cleared after =>
    if cleared = true then after = { phase with owes := some 0 } else after = phase) ?_ ?_
  · refine Follows.perform ⟨howes, hid, Or.inl rfl⟩ fun cleared => ?_
    cases cleared with
    | false => exact rfl
    | true => exact rfl
  · intro cleared after hafter
    cases cleared with
    | false => exact Follows.pure hafter
    | true =>
      obtain rfl : after = { phase with owes := some 0 } := hafter
      exact Follows.perform ⟨rfl, fun _ => rfl⟩ fun _ => heta

theorem follows_releaseSelection (howes : phase.owes = none)
    (state : MmsStaticDirectBooleanControlState) :
    Follows (selectionProtocol binding selects) (fun _ after => after = phase)
      (binding.releaseSelection state) phase := by
  rw [releaseSelection]
  split
  · rename_i hid
    refine Follows.bind (fun _ after => after = phase) ?_ ?_
    · exact follows_clearOwner hid howes _
    · intro _ after hafter
      exact Follows.pure hafter
  · exact Follows.pure rfl

/-! ### Selecting -/

/-- The clock has been read and nothing is owed. -/
def Ready (now : UInt64) (phase : SelectionPhase) : Prop :=
  phase.owes = none ∧ phase.nowMs = some now

theorem follows_settleSelection {now : UInt64} (howes : phase.owes = some (now + binding.sboTimeoutMs)) :
    Follows (selectionProtocol binding true) (fun _ after => after.owes = none)
      (binding.settleSelection now) phase := by
  refine Follows.bind (fun _ after => after.owes = none) ?_ ?_
  · exact Follows.perform ⟨howes, nofun⟩ fun _ => rfl
  · intro _ after hafter
    exact Follows.pure hafter

theorem follows_acquireAttempts (hid : binding.associationId ≠ 0) {now : UInt64}
    (hready : Ready now phase) (attempts : Nat) :
    Follows (selectionProtocol binding true) (fun _ after => after.owes = none)
      (binding.acquireAttempts now attempts) phase := by
  induction attempts generalizing phase with
  | zero => exact Follows.pure hready.1
  | succ attempts ih =>
    obtain ⟨howes, hnow⟩ := hready
    have hsettle : (phase.settle binding).owes = some (now + binding.sboTimeoutMs) := by
      rw [SelectionPhase.settle, hnow, Option.map_some]
    refine Follows.bind (fun owner after =>
      after = if owner = binding.associationId then phase.settle binding else phase) ?_ ?_
    · refine Follows.perform howes fun (owner : UInt64) => ?_
      show (if true = true ∧ owner = binding.associationId then phase.settle binding else phase) = _
      exact if_congr (and_iff_right rfl) rfl rfl
    rintro owner _ rfl
    by_cases hown : owner = binding.associationId
    · rw [if_pos hown, if_pos hown]
      exact follows_settleSelection hsettle
    rw [if_neg hown, if_neg hown]
    by_cases hfree : owner = 0
    · rw [if_neg (not_not.mpr hfree)]
      -- a failed exchange leaves the phase as it is
      refine Follows.bind (fun claimed after =>
        after = if claimed = true then phase.settle binding else phase) ?_ ?_
      · refine Follows.perform ⟨howes, hid, Or.inr ⟨rfl, rfl, rfl, now, hnow⟩⟩ fun claimed => ?_
        cases claimed with
        | false => exact rfl
        | true => exact if_neg hid
      rintro claimed _ rfl
      cases claimed with
      | false => exact ih ⟨howes, hnow⟩
      | true => exact follows_settleSelection hsettle
    · rw [if_pos hfree]
      refine Follows.bind (fun _ after => Ready now after) ?_ ?_
      · refine Follows.bind (fun _ after => Ready now after) ?_ ?_
        · exact Follows.perform ⟨howes, hid, now, hnow⟩ fun _ => ⟨howes, hnow⟩
        · intro _ after hafter
          exact Follows.pure hafter
      · rintro expired after hafter
        cases expired with
        | false => exact Follows.pure hafter.1
        | true =>
          refine Follows.bind (fun _ after' => after' = after) ?_ ?_
          · exact follows_clearOwner hid hafter.1 owner
          · rintro _ _ rfl
            exact ih hafter

theorem follows_acquireSelection (howes : phase.owes = none) :
    Follows (selectionProtocol binding true) (fun _ after => after.owes = none)
      binding.acquireSelection phase := by
  rw [acquireSelection]
  split
  · exact Follows.pure howes
  · rename_i hready
    rw [not_or] at hready
    refine Follows.bind (fun now after => Ready now after) ?_ ?_
    · exact Follows.perform howes fun _ => ⟨rfl, rfl⟩
    · intro now after hafter
      exact follows_acquireAttempts hready.1 hafter 4

/-! ### The gate -/

theorem follows_ownsLiveSelection (howes : phase.owes = none)
    (state : MmsStaticDirectBooleanControlState) :
    Follows (selectionProtocol binding false)
      (fun gate after => after.owes = none ∧ (gate.1 = true → after.Judged))
      (binding.ownsLiveSelection state) phase := by
  rw [ownsLiveSelection]
  split
  · exact Follows.pure ⟨howes, fun h => absurd h Bool.false_ne_true⟩
  rename_i hid
  refine Follows.bind (fun _ after => after.owes = none) ?_ ?_
  · refine Follows.perform howes fun (owner : UInt64) => ?_
    show (if false = true ∧ owner = binding.associationId then phase.settle binding
      else phase).owes = none
    rw [if_neg (fun h => Bool.false_ne_true h.1)]
    exact howes
  intro owner after hafter
  split
  · exact Follows.pure ⟨hafter, fun h => absurd h Bool.false_ne_true⟩
  refine Follows.bind (fun now after => Ready now after) ?_ ?_
  · exact Follows.perform hafter fun _ => ⟨rfl, rfl⟩
  intro now after hready
  refine Follows.bind (fun expired after => after.owes = none ∧
    (expired = false → after.Judged)) ?_ ?_
  · refine Follows.bind (fun deadline after => after.owes = none ∧ after.nowMs = some now ∧
      after.deadlineMs = some deadline) ?_ ?_
    · exact Follows.perform ⟨hready.1, hid, now, hready.2⟩ fun _ => ⟨hready.1, hready.2, rfl⟩
    · rintro deadline after ⟨hnone, hnow, hdeadline⟩
      exact Follows.pure ⟨hnone, fun hlive => ⟨now, deadline, hnow, hdeadline, hlive⟩⟩
  · rintro expired after ⟨hnone, hjudged⟩
    cases expired with
    | false => exact Follows.pure ⟨hnone, fun _ => hjudged rfl⟩
    | true =>
      refine Follows.bind (fun _ after' => after' = after) ?_ ?_
      · exact follows_releaseSelection hnone state
      · rintro _ _ rfl
        exact Follows.pure ⟨hnone, fun h => absurd h Bool.false_ne_true⟩

/-! ### The operations -/

theorem follows_finishOperate (howes : phase.owes = none)
    (state : MmsStaticDirectBooleanControlState) (operate : MmsStaticDirectBooleanOperate) :
    Follows (selectionProtocol binding false) (fun _ after => after = phase)
      (binding.finishOperate state operate) phase := by
  rw [finishOperate]
  refine Follows.bind (fun _ after => after = phase) ?_ ?_
  · rw [applyCommand]
    split
    · exact Follows.perform howes fun _ => rfl
    · exact Follows.pure rfl
  rintro applied after rfl
  split
  · exact Follows.pure rfl
  refine Follows.bind (fun _ after' => after' = after) ?_ ?_
  · rw [storeCommand]
    split
    · exact Follows.perform howes fun _ => rfl
    · exact Follows.pure rfl
  rintro _ after rfl
  refine Follows.bind (fun _ after' => after' = after) ?_ ?_
  · rw [consumeSelection]
    split
    · exact follows_releaseSelection howes _
    · exact Follows.pure rfl
  · rintro _ _ rfl
    exact Follows.pure rfl

theorem follows_applyOperate (hsbo : binding.requiresSelection = true) (encodedData : Bytes)
    (state : MmsStaticDirectBooleanControlState) :
    Follows (selectionProtocol binding false)
      (fun result after => after.owes = none ∧ (result.1.success = true → after.Judged))
      (binding.applyOperate encodedData state) {} := by
  rw [applyOperate]
  split
  · exact Follows.pure ⟨rfl, fun h => absurd h Bool.false_ne_true⟩
  split
  · exact Follows.pure ⟨rfl, fun h => absurd h Bool.false_ne_true⟩
  rename_i operate _ _
  refine Follows.bind (fun gate after => after.owes = none ∧ (gate.1 = true → after.Judged)) ?_ ?_
  · rw [operateGate, if_pos hsbo]
    exact follows_ownsLiveSelection rfl state
  rintro ⟨live, state'⟩ after ⟨howes, hjudged⟩
  cases live with
  | false => exact Follows.pure ⟨howes, fun h => absurd h Bool.false_ne_true⟩
  | true =>
    dsimp only
    rw [if_neg (by decide)]
    split
    · exact Follows.pure ⟨howes, fun h => absurd h Bool.false_ne_true⟩
    split
    · exact Follows.pure ⟨howes, fun h => absurd h Bool.false_ne_true⟩
    · refine (follows_finishOperate howes state' operate).mono ?_
      rintro _ _ rfl
      exact ⟨howes, fun _ => hjudged rfl⟩

theorem follows_sbow (encodedData : Bytes) (access : MmsStaticRequestAccessContext)
    (state : MmsStaticDirectBooleanControlState) :
    Follows (selectionProtocol binding true) (fun _ after => after.owes = none)
      (binding.booleanWriteSbowContextual encodedData access state) {} := by
  rw [booleanWriteSbowContextual]
  split
  · exact Follows.pure rfl
  split
  · exact Follows.pure rfl
  split
  · exact Follows.pure rfl
  split
  · exact Follows.pure rfl
  refine Follows.bind (fun _ after => after.owes = none) ?_ ?_
  · exact follows_acquireSelection rfl
  · intro acquired after hafter
    cases acquired with
    | false => exact Follows.pure hafter
    | true => exact Follows.pure hafter

theorem follows_read (destinationSize : Nat) (state : MmsStaticDirectBooleanControlState) :
    Follows (selectionProtocol binding true) (fun _ after => after.owes = none)
      (binding.sboNormalRead destinationSize state) {} := by
  rw [sboNormalRead]
  split
  · exact Follows.pure rfl
  refine Follows.bind (fun _ after => after.owes = none) ?_ ?_
  · exact follows_acquireSelection rfl
  · intro acquired after hafter
    cases acquired with
    | false => exact Follows.pure hafter
    | true => exact Follows.pure hafter

theorem follows_cancel (encodedData : Bytes) (access : MmsStaticRequestAccessContext)
    (state : MmsStaticDirectBooleanControlState) :
    Follows (selectionProtocol binding false) (fun _ after => after.owes = none)
      (binding.booleanWriteCancelContextual encodedData access state) {} := by
  rw [booleanWriteCancelContextual]
  dsimp only
  split
  · exact Follows.pure rfl
  split
  · exact Follows.pure rfl
  split
  · exact Follows.pure rfl
  split
  · exact Follows.pure rfl
  refine Follows.bind (fun gate after => after.owes = none ∧ (gate.1 = true → after.Judged)) ?_ ?_
  · exact follows_ownsLiveSelection rfl state
  rintro ⟨live, state'⟩ after ⟨howes, -⟩
  cases live with
  | false => exact Follows.pure howes
  | true =>
    dsimp only
    rw [if_neg (by decide)]
    split
    · exact Follows.pure howes
    · refine Follows.bind (fun _ after' => after' = after) ?_ ?_
      · exact follows_releaseSelection howes state'
      · rintro _ _ rfl
        exact Follows.pure howes

theorem follows_close (state : MmsStaticDirectBooleanControlState) :
    Follows (selectionProtocol binding false) (fun _ after => after.owes = none)
      (binding.controlOnAssociationClosed state) {} := by
  refine Follows.bind (fun _ after => after = {}) ?_ ?_
  · exact follows_releaseSelection rfl state
  · rintro _ _ rfl
    exact Follows.pure rfl

/-- An operation ends owing nothing, and an accepted Oper has found a live deadline. -/
def EndsWell (operation : SboOperation)
    (ended : ControlResult × MmsStaticDirectBooleanControlState) (phase : SelectionPhase) : Prop :=
  phase.owes = none ∧
    (operation.operates = true → ended.1.accepted = true → phase.Judged)

/-- **Every operation follows the protocol.** -/
theorem follows_program (hsbo : binding.requiresSelection = true) (operation : SboOperation)
    (state : MmsStaticDirectBooleanControlState) :
    Follows (selectionProtocol binding operation.selects) (EndsWell operation)
      (operation.program binding state) {} := by
  have hwrite {operation : SboOperation} {selects : Bool}
      {program : ControlProgram (MmsStaticWriteResult × MmsStaticDirectBooleanControlState)}
      (hprogram : Follows (selectionProtocol binding selects)
        (fun result after => EndsWell operation (.write result.1, result.2) after) program {}) :
      Follows (selectionProtocol binding selects) (EndsWell operation)
        (program >>= fun ended => pure (ControlResult.write ended.1, ended.2)) {} := by
    refine Follows.bind _ hprogram ?_
    intro result after hafter
    exact Follows.pure hafter
  cases operation with
  | terminated => exact Follows.pure ⟨rfl, fun h => absurd h Bool.false_ne_true⟩
  | serve request =>
    cases request with
    | read destinationSize =>
      refine Follows.bind (fun _ after => after.owes = none) ?_ ?_
      · exact follows_read destinationSize state
      · intro result after hafter
        exact Follows.pure ⟨hafter, fun h => absurd h Bool.false_ne_true⟩
    | sbow encodedData access =>
      exact hwrite ((follows_sbow encodedData access state).mono fun _ _ hnone => ⟨hnone, fun h => absurd h Bool.false_ne_true⟩)
    | oper encodedData access =>
      cases access with
      | none =>
        exact hwrite ((follows_applyOperate hsbo encodedData state).mono fun _ _ hafter =>
          ⟨hafter.1, fun _ => hafter.2⟩)
      | some access =>
        refine hwrite ?_
        rw [booleanWriteOperContextual]
        split
        · rename_i hguard
          have hrefused : (binding.associationGuard access).success = false := by
            simpa using hguard
          exact Follows.pure ⟨rfl, fun _ haccepted => absurd (hrefused.symm.trans haccepted) Bool.false_ne_true⟩
        · exact (follows_applyOperate hsbo encodedData state).mono fun _ _ hafter =>
            ⟨hafter.1, fun _ => hafter.2⟩
    | cancel encodedData access =>
      exact hwrite ((follows_cancel encodedData access state).mono fun _ _ hnone => ⟨hnone, fun h => absurd h Bool.false_ne_true⟩)
    | close =>
      refine Follows.bind (fun _ after => after.owes = none) ?_ ?_
      · exact follows_close state
      · intro result after hafter
        exact Follows.pure ⟨hafter, fun h => absurd h Bool.false_ne_true⟩

end Programs

/-! ## The invariant -/

section Invariant

variable {config : UInt64 → MmsStaticDirectBooleanControlBinding}
  {phases : UInt64 → Option (SboOperation × SelectionPhase)} {memory : SboMemory}

/-- What an operation in the middle knows. -/
structure ThreadInv (config : UInt64 → MmsStaticDirectBooleanControlBinding) (memory : SboMemory)
    (a : UInt64) (operation : SboOperation) (phase : SelectionPhase) : Prop where
  released : phase.owes = some 0 → a ≠ 0 ∧ memory.shared.selectedAssociationId ≠ a
  term : operation.selects = true → ∀ now, phase.nowMs = some now →
    now + (config a).sboTimeoutMs ≠ 0
  judged : operation.operates = true → ∀ now deadline, phase.nowMs = some now →
    phase.deadlineMs = some deadline →
    deadlinePassed deadline now = true ∨ deadline = memory.grantedMs a ∧ deadline ≠ 0
  readNow : ∀ now, phase.nowMs = some now → (memory.readings a).nowMs = now
  readDeadline : ∀ deadline, phase.deadlineMs = some deadline →
    (memory.readings a).deadlineMs = deadline

/-- The owner's selection has its deadline in the word or is about to store it. -/
def Owned (phases : UInt64 → Option (SboOperation × SelectionPhase)) (memory : SboMemory) : Prop :=
  ∀ a, memory.shared.selectedAssociationId = a → a ≠ 0 →
    (∃ operation phase deadline, phases a = some (operation, phase) ∧
      phase.owes = some deadline ∧ deadline ≠ 0) ∨
    memory.shared.selectionDeadlineMs = memory.grantedMs a ∧
      memory.shared.selectionDeadlineMs ≠ 0

/-- An accepted Oper used its own selection in time. -/
def AcceptedOper.Timely (oper : AcceptedOper) : Prop :=
  oper.readings.deadlineMs = oper.grantedMs ∧ oper.readings.nowMs < oper.readings.deadlineMs

structure SelectionInv (config : UInt64 → MmsStaticDirectBooleanControlBinding)
    (phases : UInt64 → Option (SboOperation × SelectionPhase)) (memory : SboMemory) : Prop where
  owned : Owned phases memory
  threads : ∀ a operation phase, phases a = some (operation, phase) →
    ThreadInv config memory a operation phase
  accepted : ∀ oper ∈ memory.accepted, oper.Timely

/-- A step of another association leaves the thread its knowledge. -/
theorem ThreadInv.frame {memory' : SboMemory} {a x : UInt64} {operation : SboOperation}
    {phase : SelectionPhase} (h : ThreadInv config memory a operation phase) (hne : a ≠ x)
    (howner : memory'.shared.selectedAssociationId = memory.shared.selectedAssociationId ∨
      memory'.shared.selectedAssociationId = 0 ∨ memory'.shared.selectedAssociationId = x)
    (hgranted : memory'.grantedMs a = memory.grantedMs a)
    (hreadings : memory'.readings a = memory.readings a) :
    ThreadInv config memory' a operation phase := by
  refine ⟨fun howes => ?_, h.term, fun hoperates => ?_, ?_, ?_⟩
  · obtain ⟨hzero, hother⟩ := h.released howes
    refine ⟨hzero, fun heq => ?_⟩
    rcases howner with hsame | hfree | htaken
    · exact hother (hsame.symm.trans heq)
    · exact hzero (heq.symm.trans hfree)
    · exact hne (heq.symm.trans htaken)
  · rw [hgranted]
    exact h.judged hoperates
  · rw [hreadings]
    exact h.readNow
  · rw [hreadings]
    exact h.readDeadline

/-- A step that leaves the words and the grants alone, by an association that owes nothing. -/
theorem Owned.keep (h : Owned phases memory) {memory' : SboMemory} {x : UInt64}
    {next : Option (SboOperation × SelectionPhase)}
    (hphase : ∀ operation' phase', phases x = some (operation', phase') →
      phase'.owes = none)
    (howner : memory'.shared.selectedAssociationId = memory.shared.selectedAssociationId)
    (hdeadline : memory'.shared.selectionDeadlineMs = memory.shared.selectionDeadlineMs)
    (hgranted : memory'.grantedMs = memory.grantedMs) :
    Owned (Function.update phases x next) memory' := by
  intro a ha hne
  rw [howner] at ha
  rw [hdeadline, hgranted]
  rcases h a ha hne with ⟨operation, phase, deadline, hsome, howes, hzero⟩ | hsettled
  · by_cases hax : a = x
    · subst hax
      rw [hphase operation phase hsome] at howes
      cases howes
    · exact Or.inl ⟨operation, phase, deadline, by rwa [Function.update_of_ne hax], howes, hzero⟩
  · exact Or.inr hsettled

theorem noteGrant_of_ne {x a : UInt64} (hne : a ≠ x) (action : ControlAction) :
    memory.noteGrant x action a = memory.grantedMs a := by
  unfold SboMemory.noteGrant
  split
  · split
    · rfl
    · exact Function.update_of_ne hne _ _
  · rfl

theorem noteReading_of_ne {x a : UInt64} (hne : a ≠ x) (input : ControlInput)
    (action : ControlAction) : memory.noteReading x input action a = memory.readings a := by
  unfold SboMemory.noteReading
  split
  · exact Function.update_of_ne hne _ _
  · exact Function.update_of_ne hne _ _
  · rfl

/-- An action of `x` changes the owner word to nobody or to what it wants. -/
theorem act_owner {x : UInt64} {input : ControlInput} {action : ControlAction}
    (haction : ∀ expected desired, action = .casOwner expected desired → desired = 0 ∨ desired = x) :
    (memory.act x input action).2.shared.selectedAssociationId =
        memory.shared.selectedAssociationId ∨
      (memory.act x input action).2.shared.selectedAssociationId = 0 ∨
      (memory.act x input action).2.shared.selectedAssociationId = x := by
  cases action with
  | casOwner expected desired =>
    simp only [SboMemory.act, performAction]
    split
    · exact Or.inr (haction expected desired rfl)
    · exact Or.inl rfl
  | _ => exact Or.inl rfl

theorem act_casOwner {x expected desired : UInt64} {input : ControlInput}
    (h : memory.shared.selectedAssociationId = expected) :
    memory.act x input (.casOwner expected desired) =
      (true, { memory with
        shared := { memory.shared with selectedAssociationId := desired } }) := by
  simp only [SboMemory.act, performAction, if_pos h]
  rfl

theorem act_casOwner_of_ne {x expected desired : UInt64} {input : ControlInput}
    (h : memory.shared.selectedAssociationId ≠ expected) :
    memory.act x input (.casOwner expected desired) = (false, memory) := by
  simp only [SboMemory.act, performAction, if_neg h]
  rfl

/-- A step that changes what the operation owes, and not what it has read. -/
theorem readings_act_now (memory : SboMemory) (x : UInt64) (input : ControlInput) :
    (memory.act x input .now).2.readings x =
      { memory.readings x with nowMs := input.nowMs } := Function.update_self ..

theorem readings_act_loadDeadline (memory : SboMemory) (x : UInt64) (input : ControlInput) :
    (memory.act x input .loadDeadline).2.readings x =
      { memory.readings x with deadlineMs := memory.shared.selectionDeadlineMs } :=
  Function.update_self ..

theorem grantedMs_act_storeDeadline (memory : SboMemory) (x : UInt64) (input : ControlInput)
    (deadline : UInt64) :
    (memory.act x input (.storeDeadline deadline)).2.grantedMs =
      if deadline = 0 then memory.grantedMs
      else Function.update memory.grantedMs x deadline := rfl

theorem ThreadInv.owe {memory' : SboMemory} {x : UInt64} {operation : SboOperation}
    {phase : SelectionPhase} (h : ThreadInv config memory x operation phase)
    {owes : Option UInt64} (hreadings : memory'.readings x = memory.readings x)
    (hgranted : operation.operates = true → memory'.grantedMs x = memory.grantedMs x)
    (hreleased : owes = some 0 → x ≠ 0 ∧ memory'.shared.selectedAssociationId ≠ x) :
    ThreadInv config memory' x operation { phase with owes } := by
  refine ⟨hreleased, h.term, fun hoperates => ?_, ?_, ?_⟩
  · rw [hgranted hoperates]
    exact h.judged hoperates
  · rw [hreadings]
    exact h.readNow
  · rw [hreadings]
    exact h.readDeadline

theorem SboOperation.not_operates {operation : SboOperation} (h : operation.selects = true) :
    operation.operates = false := by
  cases operation with
  | terminated => rfl
  | serve request => cases request <;> first | rfl | cases h

/-- The deadline of a selection is not zero. -/
theorem ThreadInv.settle_ne {x : UInt64} {operation : SboOperation} {phase : SelectionPhase}
    (h : ThreadInv config memory x operation phase) (hselects : operation.selects = true)
    (hzero : (phase.settle (bindingOf config x)).owes = some 0) : False := by
  rw [SelectionPhase.settle, Option.map_eq_some_iff] at hzero
  obtain ⟨now, hnow, heq⟩ := hzero
  exact h.term hselects now hnow heq

/-- **The thread that acts.** -/
theorem ThreadInv.act {pool : SboPool} {x : UInt64} {input : ControlInput}
    {operation : SboOperation} {phase : SelectionPhase} {action : ControlAction}
    (h : ThreadInv config pool.memory x operation phase)
    (howned : pool.memory.shared.selectedAssociationId = x → x ≠ 0 → phase.owes = none →
      pool.memory.shared.selectionDeadlineMs = pool.memory.grantedMs x ∧
        pool.memory.shared.selectionDeadlineMs ≠ 0)
    (hallowed : (selectionProtocol (bindingOf config x) operation.selects).Allowed phase action)
    (hok : actionOk config pool x input operation action = true) :
    ThreadInv config (pool.memory.act x input action).2 x operation
      ((selectionProtocol (bindingOf config x) operation.selects).advance phase action
        (pool.memory.act x input action).1) := by
  cases action with
  | now =>
    change ThreadInv config _ x operation { nowMs := some input.nowMs }
    refine ⟨nofun, fun hselects now hnow => ?_, nofun, fun now hnow => ?_, nofun⟩
    · obtain rfl : input.nowMs = now := Option.some.inj hnow
      have hguard : (!operation.selects ||
          input.nowMs + (config x).sboTimeoutMs != 0) = true := hok
      simpa [hselects] using hguard
    · obtain rfl : input.nowMs = now := Option.some.inj hnow
      rw [readings_act_now]
  | loadOwner =>
    change ThreadInv config _ x operation
      (if operation.selects = true ∧ pool.memory.shared.selectedAssociationId = x then
        phase.settle (bindingOf config x) else phase)
    split
    · rename_i hsettle
      exact h.owe rfl (fun _ => rfl) fun hzero => (h.settle_ne hsettle.1 hzero).elim
    · exact h.owe rfl (fun _ => rfl) h.released
  | loadDeadline =>
    obtain ⟨howes, hid, -⟩ := hallowed
    refine ⟨fun hzero => absurd (howes.symm.trans hzero) nofun, h.term, ?_, fun now hnow => ?_, ?_⟩
    · intro hoperates now deadline hnow hdeadline
      obtain rfl : pool.memory.shared.selectionDeadlineMs = deadline := Option.some.inj hdeadline
      by_cases hown : pool.memory.shared.selectedAssociationId = x
      · exact Or.inr (howned hown hid howes)
      · have hguard : (!operation.operates || pool.memory.shared.selectedAssociationId == x ||
            deadlinePassed pool.memory.shared.selectionDeadlineMs
              (pool.memory.readings x).nowMs) = true := hok
        rw [hoperates, h.readNow now hnow, Bool.not_true, Bool.false_or, Bool.or_eq_true,
          beq_iff_eq] at hguard
        exact Or.inl (hguard.resolve_left hown)
    · rw [readings_act_loadDeadline]
      exact h.readNow now hnow
    · intro deadline hdeadline
      obtain rfl : pool.memory.shared.selectionDeadlineMs = deadline := Option.some.inj hdeadline
      rw [readings_act_loadDeadline]
  | casOwner expected desired =>
    obtain ⟨howes, hid, hdesired⟩ := hallowed
    by_cases howner : pool.memory.shared.selectedAssociationId = expected
    · rw [act_casOwner howner]
      change ThreadInv config _ x operation
        (if desired = 0 then { phase with owes := some 0 } else phase.settle (bindingOf config x))
      split
      · rename_i hfree
        exact h.owe rfl (fun _ => rfl) fun _ => ⟨hid, fun hx => hid (hx.symm.trans hfree)⟩
      · rename_i htake
        obtain ⟨-, -, hselects, -⟩ := hdesired.resolve_left htake
        exact h.owe rfl (fun _ => rfl) fun hzero => (h.settle_ne hselects hzero).elim
    · rw [act_casOwner_of_ne howner]
      exact h
  | storeDeadline deadline =>
    obtain ⟨howes, hselects⟩ := hallowed
    refine h.owe rfl (fun hoperates => ?_) nofun
    have hnot : operation.selects = false := by
      cases hs : operation.selects with
      | false => rfl
      | true => exact absurd (hoperates.symm.trans (SboOperation.not_operates hs)) nofun
    exact congrFun (if_pos (hselects hnot)) x
  | storeValue value => exact h.owe rfl (fun _ => rfl) h.released
  | apply value => exact h.owe rfl (fun _ => rfl) h.released

/-- **The words.** -/
theorem Owned.act {pool : SboPool} {x : UInt64} {input : ControlInput} {operation : SboOperation}
    {phase : SelectionPhase} {action : ControlAction} (h : Owned phases pool.memory)
    (hphase : phases x = some (operation, phase))
    (hthread : ThreadInv config pool.memory x operation phase)
    (hsettling : ∀ a, ((pool.pending a).any fun next => settles next.2) = true →
      ∃ operation' phase' deadline, phases a = some (operation', phase') ∧
        phase'.owes = some deadline ∧ deadline ≠ 0)
    (hallowed : (selectionProtocol (bindingOf config x) operation.selects).Allowed phase action)
    (hok : actionOk config pool x input operation action = true) :
    Owned (Function.update phases x (some (operation,
        (selectionProtocol (bindingOf config x) operation.selects).advance phase action
          (pool.memory.act x input action).1)))
      (pool.memory.act x input action).2 := by
  have hnone (howes : phase.owes = none) (operation' : SboOperation) (phase' : SelectionPhase)
      (hsome : phases x = some (operation', phase')) : phase'.owes = none := by
    obtain ⟨-, rfl⟩ := Prod.mk.inj (Option.some.inj (hphase.symm.trans hsome))
    exact howes
  cases action with
  | now => exact h.keep (hnone hallowed) rfl rfl rfl
  | loadOwner => exact h.keep (hnone hallowed) rfl rfl rfl
  | loadDeadline => exact h.keep (hnone hallowed.1) rfl rfl rfl
  | storeValue value => exact h.keep (hnone hallowed) rfl rfl rfl
  | apply value => exact h.keep (hnone hallowed) rfl rfl rfl
  | casOwner expected desired =>
    obtain ⟨howes, hid, hdesired⟩ := hallowed
    by_cases howner : pool.memory.shared.selectedAssociationId = expected
    · rw [act_casOwner howner]
      intro a ha hne
      obtain rfl : desired = a := ha
      obtain ⟨-, hx, hselects, now, hnow⟩ := hdesired.resolve_left hne
      obtain rfl : desired = x := hx
      refine Or.inl ⟨operation, phase.settle (bindingOf config desired),
        now + (config desired).sboTimeoutMs, ?_, ?_, hthread.term hselects now hnow⟩
      · rw [Function.update_self]
        exact congrArg (fun phase => some (operation, phase)) (if_neg hne)
      · rw [SelectionPhase.settle, hnow]
        rfl
    · rw [act_casOwner_of_ne howner]
      exact h.keep (hnone howes) rfl rfl rfl
  | storeDeadline deadline =>
    obtain ⟨howes, hselects⟩ := hallowed
    intro a ha hne
    by_cases hax : a = x
    · subst hax
      -- an association that owes zero has given the owner word up
      have hzero : deadline ≠ 0 := by
        rintro rfl
        exact (hthread.released howes).2 ha
      refine Or.inr ⟨?_, hzero⟩
      rw [grantedMs_act_storeDeadline, if_neg hzero, Function.update_self]
      rfl
    · have ha' : pool.memory.shared.selectedAssociationId = a := ha
      have hguard : (pool.memory.shared.selectedAssociationId == 0 ||
          pool.memory.shared.selectedAssociationId == x ||
          (pool.pending pool.memory.shared.selectedAssociationId).any
            fun next => settles next.2) = true := hok
      rw [ha', Bool.or_eq_true, Bool.or_eq_true, beq_iff_eq, beq_iff_eq] at hguard
      obtain ⟨operation', phase', deadline', hsome, howes', hne'⟩ :=
        hsettling a (hguard.resolve_left fun hor => hor.elim hne hax)
      exact Or.inl ⟨operation', phase', deadline', by rwa [Function.update_of_ne hax], howes', hne'⟩

/-- The invariant of a pool of operations. -/
abbrev SboPoolInv (config : UInt64 → MmsStaticDirectBooleanControlBinding) (pool : SboPool)
    (phases : UInt64 → Option (SboOperation × SelectionPhase)) : Prop :=
  pool.Inv (fun a operation => selectionProtocol (bindingOf config a) operation.selects)
    (fun _ operation => EndsWell operation) (SelectionInv config) phases

/-- An association whose next action settles owes a deadline. -/
theorem settling_owes {pool : SboPool} (h : SboPoolInv config pool phases) {a : UInt64}
    (hsettles : ((pool.pending a).any fun next => settles next.2) = true) :
    ∃ operation phase deadline, phases a = some (operation, phase) ∧
      phase.owes = some deadline ∧ deadline ≠ 0 := by
  obtain ⟨⟨operation, action⟩, hpending, hsettle⟩ := (Option.any_eq_true _ _).mp hsettles
  obtain ⟨next, hthread⟩ := Pool.pending_eq_some hpending
  obtain ⟨phase, hphase, hallowed, -⟩ := h.busy a operation _ hthread
  cases action with
  | storeDeadline deadline =>
    exact ⟨operation, phase, deadline, hphase, hallowed.1, by simpa [settles] using hsettle⟩
  | _ => cases hsettle

/-- The invariant at the start of an operation. -/
theorem SelectionInv.start (h : SelectionInv config phases memory) {x : UInt64}
    (hidle : phases x = none) (operation : SboOperation) :
    SelectionInv config (Function.update phases x (some (operation, {}))) memory := by
  refine ⟨h.owned.keep (fun _ _ hsome => ?_) rfl rfl rfl, fun a operation' phase hsome => ?_,
    h.accepted⟩
  · rw [hidle] at hsome
    cases hsome
  · by_cases hax : a = x
    · subst hax
      rw [Function.update_self] at hsome
      obtain ⟨rfl, rfl⟩ := Prod.mk.inj (Option.some.inj hsome)
      exact ⟨nofun, nofun, nofun, nofun, nofun⟩
    · rw [Function.update_of_ne hax] at hsome
      exact h.threads a operation' phase hsome

/-- A deadline that is set and has not passed is in the future. -/
theorem lt_of_not_passed {deadline now : UInt64} (hzero : deadline ≠ 0)
    (h : deadlinePassed deadline now = false) : now < deadline := by
  rw [deadlinePassed, Bool.and_eq_false_iff, bne_eq_false_iff_eq, decide_eq_false_iff_not] at h
  exact UInt64.not_le.mp (h.resolve_left hzero)

/-- The invariant at the end of an operation. -/
theorem SelectionInv.finish (h : SelectionInv config phases memory) {x : UInt64}
    {operation : SboOperation} {phase : SelectionPhase}
    {ended : ControlResult × MmsStaticDirectBooleanControlState}
    (hphase : phases x = some (operation, phase)) (hends : EndsWell operation ended phase) :
    SelectionInv config (Function.update phases x none) (memory.finish x operation ended) := by
  obtain ⟨howes, hjudged⟩ := hends
  have hthread := h.threads x operation phase hphase
  refine ⟨h.owned.keep (fun _ _ hsome => ?_) rfl rfl rfl, fun a operation' phase' hsome => ?_,
    fun oper hoper => ?_⟩
  · obtain ⟨-, rfl⟩ := Prod.mk.inj (Option.some.inj (hphase.symm.trans hsome))
    exact howes
  · by_cases hax : a = x
    · rw [hax, Function.update_self] at hsome
      cases hsome
    · rw [Function.update_of_ne hax] at hsome
      exact (h.threads a operation' phase' hsome).frame hax (Or.inl rfl) rfl rfl
  · rw [SboMemory.finish] at hoper
    dsimp only at hoper
    split at hoper
    · rename_i haccepted
      rw [Bool.and_eq_true] at haccepted
      rcases List.mem_cons.mp hoper with rfl | hold
      · obtain ⟨now, deadline, hnow, hdeadline, hlive⟩ := hjudged haccepted.1 haccepted.2
        obtain ⟨hgranted, hzero⟩ := (hthread.judged haccepted.1 now deadline hnow
          hdeadline).resolve_left fun hpassed => absurd (hpassed.symm.trans hlive) nofun
        refine ⟨(hthread.readDeadline deadline hdeadline).trans hgranted, ?_⟩
        rw [hthread.readDeadline deadline hdeadline, hthread.readNow now hnow]
        exact lt_of_not_passed hzero hlive
      · exact h.accepted oper hold
    · exact h.accepted oper hoper

/-- An action that the protocol allows and that keeps the words together. -/
theorem SelectionInv.act {pool : SboPool} (h : SboPoolInv config pool phases) {x : UInt64}
    {input : ControlInput} {operation : SboOperation} {phase : SelectionPhase}
    {action : ControlAction} (hphase : phases x = some (operation, phase))
    (hallowed : (selectionProtocol (bindingOf config x) operation.selects).Allowed phase action)
    (hok : actionOk config pool x input operation action = true) :
    SelectionInv config
      (Function.update phases x (some (operation,
        (selectionProtocol (bindingOf config x) operation.selects).advance phase action
          (pool.memory.act x input action).1)))
      (pool.memory.act x input action).2 := by
  obtain ⟨howned, hthreads, haccepted⟩ := h.holds
  have hthread := hthreads x operation phase hphase
  refine ⟨howned.act hphase hthread (fun _ => settling_owes h) hallowed hok,
    fun a operation' phase' hsome => ?_, haccepted⟩
  by_cases hax : a = x
  · subst hax
    rw [Function.update_self] at hsome
    obtain ⟨rfl, rfl⟩ := Prod.mk.inj (Option.some.inj hsome)
    refine hthread.act (fun hown hne howes => ?_) hallowed hok
    rcases howned a hown hne with ⟨operation', phase', deadline, hsome', howes', -⟩ | hsettled
    · obtain ⟨-, rfl⟩ := Prod.mk.inj (Option.some.inj (hphase.symm.trans hsome'))
      exact absurd (howes.symm.trans howes') nofun
    · exact hsettled
  · rw [Function.update_of_ne hax] at hsome
    refine (hthreads a operation' phase' hsome).frame hax (act_owner ?_)
      (noteGrant_of_ne hax action) (noteReading_of_ne hax input action)
    rintro expected desired rfl
    exact hallowed.2.2.imp id fun htake => htake.2.1

/-- **Step of the pool.** -/
theorem sboPoolInv_step (hsbo : ∀ a, (config a).requiresSelection = true) {pool : SboPool}
    {move : SboMove} (hok : stepOk config pool move = true)
    (h : ∃ phases, SboPoolInv config pool phases) :
    ∃ phases, SboPoolInv config (sboPoolStep config pool move) phases := by
  refine Pool.inv_step (fun pool move => stepOk config pool move = true) ?_ ?_ ?_ hok h
  · intro phases memory x operation hinv hidle
    have hrequires : (bindingOf config x).requiresSelection = true := hsbo x
    exact ⟨{}, follows_program hrequires operation (memory.states x), hinv.start hidle operation⟩
  · intro pool phases x input operation action phase hinv hstep hpending hphase hallowed
    have haction : actionOk config pool x input operation action = true := by
      simpa only [stepOk, hpending, Option.all_some] using hstep
    exact SelectionInv.act hinv hphase hallowed haction
  · intro phases memory x operation ended phase hinv hphase hends
    exact hinv.finish hphase hends

theorem SboPoolInv.sound {pool : SboPool} (h : SboPoolInv config pool phases) :
    SelectionSound pool := by
  refine ⟨fun hquiescent owner howner hne => ?_, h.holds.accepted⟩
  rcases h.holds.owned owner howner hne with ⟨operation, phase, deadline, hsome, -⟩ |
    ⟨hgranted, hzero⟩
  · rw [h.idle owner (hquiescent owner)] at hsome
    cases hsome
  · exact ⟨hzero, hgranted⟩

end Invariant

/-! ## Main theorem -/

section

variable (config : UInt64 → MmsStaticDirectBooleanControlBinding)

/-- **The selection is sound under every interleaving** in whose steps the words stay together,
of the operations of any number of associations at any times. -/
theorem sbo_interleaved (hsbo : ∀ a, (config a).requiresSelection = true) (memory : SboMemory)
    (hfree : memory.shared.selectedAssociationId = 0) (hnone : memory.accepted = [])
    (moves : List SboMove)
    (hmoves : Along (sboPoolStep config) (fun pool move => stepOk config pool move = true)
      (sboIdle memory) moves) (i : Nat) :
    SelectionSound (stateAt (sboPoolStep config) (sboIdle memory) moves i) := by
  have hinit : ∃ phases, SboPoolInv config (sboIdle memory) phases := by
    refine ⟨fun _ => none, fun _ _ => rfl, nofun, fun a ha hne => ?_, nofun, ?_⟩
    · exact absurd (ha.symm.trans hfree) hne
    · exact hnone ▸ nofun
  rw [← List.take_append_drop i moves] at hmoves
  obtain ⟨phases, hinv⟩ := exec_invariant_where (fun pool => ∃ phases, SboPoolInv config pool phases)
    (fun _ _ hok h => sboPoolInv_step hsbo hok h) hinit (along_append.mp hmoves).1
  exact hinv.sound

end

/-! ## Runs of two associations -/

/-- Two associations select the same normal control. -/
def sharedControl : UInt64 → MmsStaticDirectBooleanControlBinding :=
  fun _ => { model := .sboNormal, selectionReference := [0x41] }

/-- An association starts an operation and takes a number of its steps. -/
def moveBy (association : UInt64) (operation : SboOperation) (steps : Nat) (nowMs : UInt64) :
    List SboMove :=
  .start association operation :: List.replicate steps (.act association { nowMs })

/-- The first association selects and starts to close, the second selects, and then the close
goes on. -/
def overtaken : List SboMove :=
  moveBy 1 (.serve (.read 8)) 5 1000 ++ moveBy 1 (.serve .close) 1 2000 ++
    moveBy 2 (.serve (.read 8)) 5 3000 ++ List.replicate 2 (.act 1 { nowMs := 3000 })

/-- The second association owns the selection, and the close has taken its deadline. -/
theorem release_overwrites :
    ¬SelectionSound (exec (sboPoolStep sharedControl) (sboIdle {}) overtaken) := by
  intro h
  have hquiescent : (exec (sboPoolStep sharedControl) (sboIdle {}) overtaken).Quiescent := by
    intro a
    by_cases h1 : a = 1
    · subst h1
      exact Option.isNone_iff_eq_none.mp (by decide)
    by_cases h2 : a = 2
    · subst h2
      exact Option.isNone_iff_eq_none.mp (by decide)
    · refine Pool.threads_exec_of_ne (M := sboMachine sharedControl) fun move hmove => ?_
      have hthread : ∀ move ∈ overtaken, move.thread = 1 ∨ move.thread = 2 := by decide
      rintro rfl
      exact (hthread move hmove).elim h1 h2
  exact (h.owned hquiescent 2 (by decide) (by decide)).1 (by decide)

/-- The first association selects, and the second is refused. -/
theorem sbo_interleaved_sample :
    SelectionSound (stateAt (sboPoolStep sharedControl) (sboIdle {})
      (moveBy 1 (.serve (.read 8)) 5 1000 ++ moveBy 2 (.serve (.read 8)) 5 2000) 12) :=
  sbo_interleaved sharedControl (fun _ => rfl) {} rfl rfl _ (by decide) 12

end ArStack.Mms
