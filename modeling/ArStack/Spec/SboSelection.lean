import ArStack.Mms.StaticDirectControl

/-!
# The selection of a control, one operation at a time

What each operation does to the two words of the selection when it runs alone.

* `alone_acquireSelection`, `alone_releaseSelection`, `alone_ownsLiveSelection`
* `Served` — the ways a request can end
* `served_alone` — every request on a control with selection ends in one of them
-/

namespace ArStack.Mms

open ArStack.Lib ArStack.Wire

namespace MmsStaticDirectBooleanControlBinding

variable {binding : MmsStaticDirectBooleanControlBinding} {input : ControlInput}
  {shared : MmsStaticDirectBooleanSharedState} {state : MmsStaticDirectBooleanControlState}

/-- Run a program alone. -/
def alone {α : Type} (input : ControlInput) (program : ControlProgram α)
    (shared : MmsStaticDirectBooleanSharedState) : α × MmsStaticDirectBooleanSharedState :=
  program.run (performAction input) shared

/-- The shared state without a selection. -/
def noSelection (shared : MmsStaticDirectBooleanSharedState) : MmsStaticDirectBooleanSharedState :=
  { shared with selectedAssociationId := 0, selectionDeadlineMs := 0 }

theorem alone_bind {α β : Type} (program : ControlProgram α) (f : α → ControlProgram β) :
    alone input (program >>= f) shared =
      alone input (f (alone input program shared).1) (alone input program shared).2 :=
  Program.run_bind _ _ _ _

theorem alone_now : alone input ControlProgram.now shared = (input.nowMs, shared) := rfl

theorem alone_loadOwner :
    alone input ControlProgram.loadOwner shared = (shared.selectedAssociationId, shared) := rfl

theorem alone_selectionExpired (now : UInt64) :
    alone input (selectionExpired now) shared =
      (deadlinePassed shared.selectionDeadlineMs now, shared) := rfl

theorem alone_casOwner (expected desired : UInt64) :
    alone input (ControlProgram.casOwner expected desired) shared =
      if shared.selectedAssociationId = expected then
        (true, { shared with selectedAssociationId := desired })
      else (false, shared) := rfl

theorem alone_clearOwner (owner : UInt64) :
    alone input (clearOwner owner) shared =
      ((), if shared.selectedAssociationId = owner then noSelection shared else shared) := by
  rw [clearOwner, alone_bind, alone_casOwner]
  by_cases h : shared.selectedAssociationId = owner
  · rw [if_pos h, if_pos h]
    rfl
  · rw [if_neg h, if_neg h]
    rfl

theorem alone_releaseSelection :
    alone input (binding.releaseSelection state) shared =
      (clearLocalSelection state,
        if binding.associationId ≠ 0 ∧ shared.selectedAssociationId = binding.associationId then
          noSelection shared
        else shared) := by
  rw [releaseSelection]
  by_cases hid : binding.associationId = 0
  · simp only [hid, ne_eq, not_true_eq_false, if_false, false_and]
    rfl
  · simp only [hid, ne_eq, not_false_eq_true, if_true, true_and]
    rw [alone_bind, alone_clearOwner]
    rfl

theorem alone_settleSelection (now : UInt64) :
    alone input (binding.settleSelection now) shared =
      (true, { shared with selectionDeadlineMs := now + binding.sboTimeoutMs }) := rfl

/-- The selection can be taken: it is free, its own, or expired. -/
def CanAcquire (binding : MmsStaticDirectBooleanControlBinding)
    (shared : MmsStaticDirectBooleanSharedState) (now : UInt64) : Prop :=
  binding.associationId ≠ 0 ∧ binding.sboTimeoutMs ≠ 0 ∧
    (shared.selectedAssociationId = binding.associationId ∨ shared.selectedAssociationId = 0 ∨
      deadlinePassed shared.selectionDeadlineMs now = true)

/-- The shared state with a selection of the association made at `now`. -/
def selectedAt (binding : MmsStaticDirectBooleanControlBinding)
    (shared : MmsStaticDirectBooleanSharedState) (now : UInt64) :
    MmsStaticDirectBooleanSharedState :=
  { shared with
    selectedAssociationId := binding.associationId
    selectionDeadlineMs := now + binding.sboTimeoutMs }

/-- An attempt at a free selection succeeds. -/
theorem alone_acquireAttempts_free (hfree : shared.selectedAssociationId = 0)
    (hid : binding.associationId ≠ 0) (now : UInt64) (attempts : Nat) :
    alone input (binding.acquireAttempts now (attempts + 1)) shared =
      (true, binding.selectedAt shared now) := by
  rw [acquireAttempts, alone_bind, alone_loadOwner]
  dsimp only
  rw [hfree, if_neg (Ne.symm hid), if_neg (not_not.mpr rfl), alone_bind, alone_casOwner,
    if_pos hfree]
  dsimp only
  rw [if_pos rfl, alone_settleSelection]
  rfl

variable (binding input shared) in
/-- **Selecting.** -/
theorem alone_acquireSelection :
    (binding.CanAcquire shared input.nowMs ∧
      alone input binding.acquireSelection shared =
        (true, binding.selectedAt shared input.nowMs)) ∨
    ¬binding.CanAcquire shared input.nowMs ∧
      alone input binding.acquireSelection shared = (false, shared) := by
  rw [acquireSelection]
  by_cases hready : binding.associationId = 0 ∨ binding.sboTimeoutMs = 0
  · rw [if_pos hready]
    refine Or.inr ⟨fun h => ?_, rfl⟩
    exact hready.elim h.1 h.2.1
  rw [if_neg hready, alone_bind, alone_now]
  rw [not_or] at hready
  obtain ⟨hid, htimeout⟩ := hready
  by_cases hown : shared.selectedAssociationId = binding.associationId
  · refine Or.inl ⟨⟨hid, htimeout, Or.inl hown⟩, ?_⟩
    rw [acquireAttempts, alone_bind, alone_loadOwner, if_pos hown, alone_settleSelection,
      selectedAt, ← hown]
  by_cases hfree : shared.selectedAssociationId = 0
  · refine Or.inl ⟨⟨hid, htimeout, Or.inr (Or.inl hfree)⟩, ?_⟩
    exact alone_acquireAttempts_free hfree hid input.nowMs 3
  · rw [acquireAttempts, alone_bind, alone_loadOwner]
    dsimp only
    rw [if_neg hown, if_pos hfree, alone_bind, alone_selectionExpired]
    dsimp only
    cases hpassed : deadlinePassed shared.selectionDeadlineMs input.nowMs with
    | false =>
      refine Or.inr ⟨fun h => ?_, rfl⟩
      rcases h.2.2 with h | h | h
      · exact hown h
      · exact hfree h
      · exact absurd (hpassed.symm.trans h) nofun
    | true =>
      -- the expired selection is cleared, and the next attempt finds it free
      refine Or.inl ⟨⟨hid, htimeout, Or.inr (Or.inr hpassed)⟩, ?_⟩
      rw [if_neg nofun, alone_bind, alone_clearOwner, if_pos rfl]
      exact alone_acquireAttempts_free rfl hid input.nowMs 2

variable (binding input shared state) in
/-- **The gate of an Oper.** -/
theorem alone_ownsLiveSelection :
    (binding.associationId ≠ 0 ∧ shared.selectedAssociationId = binding.associationId ∧
      deadlinePassed shared.selectionDeadlineMs input.nowMs = false ∧
      alone input (binding.ownsLiveSelection state) shared = ((true, state), shared)) ∨
    (binding.associationId ≠ 0 ∧ shared.selectedAssociationId = binding.associationId ∧
      deadlinePassed shared.selectionDeadlineMs input.nowMs = true ∧
      alone input (binding.ownsLiveSelection state) shared =
        ((false, clearLocalSelection state), noSelection shared)) ∨
    alone input (binding.ownsLiveSelection state) shared = ((false, state), shared) := by
  rw [ownsLiveSelection]
  by_cases hid : binding.associationId = 0
  · rw [if_pos hid]
    exact Or.inr (Or.inr rfl)
  rw [if_neg hid, alone_bind, alone_loadOwner]
  dsimp only
  by_cases hown : shared.selectedAssociationId = binding.associationId
  · rw [if_neg (not_not.mpr hown), alone_bind, alone_now, alone_bind, alone_selectionExpired]
    dsimp only
    cases hpassed : deadlinePassed shared.selectionDeadlineMs input.nowMs with
    | false => exact Or.inl ⟨hid, hown, rfl, rfl⟩
    | true =>
      refine Or.inr (Or.inl ⟨hid, hown, rfl, ?_⟩)
      rw [if_neg nofun, alone_bind, alone_releaseSelection, if_pos ⟨hid, hown⟩]
      rfl
  · rw [if_pos hown]
    exact Or.inr (Or.inr rfl)

/-! ## Requests -/

/-- The owner word and the deadline word. -/
def words (shared : MmsStaticDirectBooleanSharedState) : UInt64 × UInt64 :=
  (shared.selectedAssociationId, shared.selectionDeadlineMs)

/-- What the association remembers of its selection. -/
def remembered (state : MmsStaticDirectBooleanControlState) :
    Bool × MmsStaticDirectBooleanOperate := (state.selectedWithValue, state.selectedCommand)

/-- The selection is the association's and has not expired. -/
structure Holds (binding : MmsStaticDirectBooleanControlBinding)
    (shared : MmsStaticDirectBooleanSharedState) (now : UInt64) : Prop where
  id_ne : binding.associationId ≠ 0
  owner : shared.selectedAssociationId = binding.associationId
  live : deadlinePassed shared.selectionDeadlineMs now = false

/-- On an enhanced control `command` belongs to the command of the selection. -/
def Matches (binding : MmsStaticDirectBooleanControlBinding)
    (state : MmsStaticDirectBooleanControlState) (command : MmsStaticDirectBooleanOperate)
    (compareCheck : Bool) : Prop :=
  binding.model = .sboEnhanced →
    state.selectedWithValue = true ∧
      sameSelectedSequence state.selectedCommand command compareCheck = true

/-- An Oper belongs to a selection when it is the selected command with another time stamp. -/
theorem sameSelectedSequence_oper {selected command : MmsStaticDirectBooleanOperate}
    (h : sameSelectedSequence selected command true = true) :
    { selected with timestamp := command.timestamp } = command := by
  obtain ⟨_, _, _, _, _, _, _, _⟩ := selected
  obtain ⟨_, _, _, _, _, _, _, _⟩ := command
  simp only [sameSelectedSequence, Bool.and_eq_true, Bool.not_true, Bool.false_or,
    beq_iff_eq] at h
  obtain ⟨⟨⟨⟨⟨rfl, rfl⟩, rfl⟩, rfl⟩, rfl⟩, rfl, rfl⟩ := h
  rfl

/-- A Cancel has no Check bits. -/
theorem sameSelectedSequence_cancel {selected command : MmsStaticDirectBooleanOperate}
    (h : sameSelectedSequence selected command false = true) :
    { selected with
      timestamp := command.timestamp
      synchroCheck := command.synchroCheck
      interlockCheck := command.interlockCheck } = command := by
  obtain ⟨_, _, _, _, _, _, _, _⟩ := selected
  obtain ⟨_, _, _, _, _, _, _, _⟩ := command
  simp only [sameSelectedSequence, Bool.and_eq_true, Bool.not_false, Bool.true_or, and_true,
    beq_iff_eq] at h
  obtain ⟨⟨⟨⟨rfl, rfl⟩, rfl⟩, rfl⟩, rfl⟩ := h
  rfl

/-- The ways a request can end, with what becomes of the words and of the local state. -/
inductive Served (binding : MmsStaticDirectBooleanControlBinding) (now : UInt64)
    (state : MmsStaticDirectBooleanControlState) (shared : MmsStaticDirectBooleanSharedState) :
    ControlRequest → ControlResult → MmsStaticDirectBooleanControlState →
      MmsStaticDirectBooleanSharedState → Prop
  | refused (request : ControlRequest) (result : ControlResult)
    (state' : MmsStaticDirectBooleanControlState) (shared' : MmsStaticDirectBooleanSharedState)
    (hresult : result.accepted = false) (hstate : remembered state' = remembered state)
    (hwords : words shared' = words shared) : Served binding now state shared request result state'
      shared'
  | lapsed (request : ControlRequest) (result : ControlResult)
    (state' : MmsStaticDirectBooleanControlState) (shared' : MmsStaticDirectBooleanSharedState)
    (hresult : result.accepted = false)
    (howner : shared.selectedAssociationId = binding.associationId)
    (hpassed : deadlinePassed shared.selectionDeadlineMs now = true)
    (hwords : words shared' = (0, 0)) : Served binding now state shared request result state' shared'
  | selected (destinationSize : Nat) (result : EncodeResult)
    (state' : MmsStaticDirectBooleanControlState) (hmodel : binding.model = .sboNormal)
    (hacquire : binding.CanAcquire shared now) :
    Served binding now state shared (.read destinationSize) (.read true result) state'
      (binding.selectedAt shared now)
  | selectedWithValue (encodedData : Bytes) (access : MmsStaticRequestAccessContext)
    (command : MmsStaticDirectBooleanOperate) (state' : MmsStaticDirectBooleanControlState)
    (hdecode : tryDecodeStaticDirectBooleanOperate encodedData = some command)
    (hstate : remembered state' = (true, command)) (hacquire : binding.CanAcquire shared now) :
    Served binding now state shared (.sbow encodedData access) (.write ⟨true, 0⟩) state'
      (binding.selectedAt shared now)
  | operated (encodedData : Bytes) (access : Option MmsStaticRequestAccessContext)
    (command : MmsStaticDirectBooleanOperate) (state' : MmsStaticDirectBooleanControlState)
    (shared' : MmsStaticDirectBooleanSharedState)
    (hdecode : tryDecodeStaticDirectBooleanOperate encodedData = some command)
    (hholds : binding.Holds shared now) (hmatches : binding.Matches state command true)
    (hwords : words shared' = (0, 0)) :
    Served binding now state shared (.oper encodedData access) (.write ⟨true, 0⟩) state' shared'
  | cancelled (encodedData : Bytes) (access : MmsStaticRequestAccessContext)
    (command : MmsStaticDirectBooleanOperate) (state' : MmsStaticDirectBooleanControlState)
    (hdecode : tryDecodeStaticBooleanCancel encodedData = some command)
    (hholds : binding.Holds shared now) (hmatches : binding.Matches state command false) :
    Served binding now state shared (.cancel encodedData access) (.write ⟨true, 0⟩) state'
      (noSelection shared)
  | closed (state' : MmsStaticDirectBooleanControlState)
    (shared' : MmsStaticDirectBooleanSharedState)
    (hshared : shared' =
      if binding.associationId ≠ 0 ∧ shared.selectedAssociationId = binding.associationId then
        noSelection shared
      else shared) :
    Served binding now state shared .close .closed state' shared'

/-- How a write ends is how its request ends. -/
theorem alone_write
    (program : ControlProgram (MmsStaticWriteResult × MmsStaticDirectBooleanControlState)) :
    alone input (do
        let (result, state) ← program
        pure (ControlResult.write result, state)) shared =
      ((.write (alone input program shared).1.1, (alone input program shared).1.2),
        (alone input program shared).2) := alone_bind _ _

/-- An Oper that passed the gate is accepted or rejected by the process. -/
theorem alone_finishOperate (hsbo : binding.requiresSelection = true)
    (hid : binding.associationId ≠ 0)
    (howner : shared.selectedAssociationId = binding.associationId)
    (operate : MmsStaticDirectBooleanOperate) :
    (alone input (binding.finishOperate state operate) shared =
      (reject state binding.policy.backendFailureCode, shared)) ∨
    (alone input (binding.finishOperate state operate) shared).1.1 = ⟨true, 0⟩ ∧
      words (alone input (binding.finishOperate state operate) shared).2 = (0, 0) := by
  have happly : (alone input (binding.applyCommand operate) shared).2 = shared := by
    rw [applyCommand]
    split <;> rfl
  rw [finishOperate, alone_bind, happly]
  generalize (alone input (binding.applyCommand operate) shared).1 = applied
  cases applied with
  | false => exact Or.inl rfl
  | true =>
    refine Or.inr ?_
    have hstore : (alone input (storeCommand operate) shared).2.selectedAssociationId =
        binding.associationId := by
      rw [storeCommand]
      split <;> exact howner
    rw [if_neg nofun, alone_bind, consumeSelection, if_pos hsbo, alone_bind,
      alone_releaseSelection, if_pos ⟨hid, hstore⟩]
    exact ⟨rfl, rfl⟩

/-- A command that is not rejected for the selection belongs to it. -/
theorem matches_of_not {command : MmsStaticDirectBooleanOperate} {compareCheck : Bool}
    (h : ¬(binding.model = .sboEnhanced ∧ (!state.selectedWithValue ||
      !sameSelectedSequence state.selectedCommand command compareCheck) = true)) :
    binding.Matches state command compareCheck := by
  intro hmodel
  have hnot : ¬(!state.selectedWithValue ||
      !sameSelectedSequence state.selectedCommand command compareCheck) = true :=
    fun hbad => h ⟨hmodel, hbad⟩
  rw [Bool.or_eq_true, Bool.not_eq_true', Bool.not_eq_true', not_or, Bool.not_eq_false,
    Bool.not_eq_false] at hnot
  exact hnot

/-- How an Oper ends. -/
theorem served_applyOperate (hsbo : binding.requiresSelection = true) (encodedData : Bytes)
    (access : Option MmsStaticRequestAccessContext) :
    binding.Served input.nowMs state shared (.oper encodedData access)
      (.write (alone input (binding.applyOperate encodedData state) shared).1.1)
      (alone input (binding.applyOperate encodedData state) shared).1.2
      (alone input (binding.applyOperate encodedData state) shared).2 := by
  rw [applyOperate]
  split
  · exact .refused _ _ _ _ rfl rfl rfl
  rename_i operate hdecode
  split
  · exact .refused _ _ _ _ rfl rfl rfl
  rw [operateGate, if_pos hsbo, alone_bind]
  rcases alone_ownsLiveSelection binding input shared state with
    ⟨hid, howner, hlive, heq⟩ | ⟨hid, howner, hpassed, heq⟩ | heq
  · rw [heq]
    dsimp only
    rw [if_neg nofun]
    by_cases hmismatch : binding.model = .sboEnhanced ∧ (!state.selectedWithValue ||
        !sameSelectedSequence state.selectedCommand operate true) = true
    · rw [if_pos hmismatch]
      exact .refused _ _ _ _ rfl rfl rfl
    rw [if_neg hmismatch]
    split
    · exact .refused _ _ _ _ rfl rfl rfl
    rcases alone_finishOperate hsbo hid howner operate with
      hrejected | ⟨haccepted, hwords⟩
    · rw [hrejected]
      exact .refused _ _ _ _ rfl rfl rfl
    · rw [haccepted]
      exact .operated _ _ operate _ _ hdecode ⟨hid, howner, hlive⟩ (matches_of_not hmismatch) hwords
  · rw [heq]
    exact .lapsed _ _ _ _ rfl howner hpassed rfl
  · rw [heq]
    exact .refused _ _ _ _ rfl rfl rfl

theorem served_sbow (encodedData : Bytes) (access : MmsStaticRequestAccessContext) :
    binding.Served input.nowMs state shared (.sbow encodedData access)
      (.write (alone input (binding.booleanWriteSbowContextual encodedData access state)
        shared).1.1)
      (alone input (binding.booleanWriteSbowContextual encodedData access state) shared).1.2
      (alone input (binding.booleanWriteSbowContextual encodedData access state) shared).2 := by
  rw [booleanWriteSbowContextual]
  split
  · rename_i hguard
    have hrefused : (binding.associationGuard access).success = false := by simpa using hguard
    exact .refused _ _ _ _ hrefused rfl rfl
  split
  · exact .refused _ _ _ _ rfl rfl rfl
  split
  · exact .refused _ _ _ _ rfl rfl rfl
  rename_i command hdecode
  split
  · exact .refused _ _ _ _ rfl rfl rfl
  rw [alone_bind]
  rcases alone_acquireSelection binding input shared with ⟨hacquire, heq⟩ | ⟨-, heq⟩
  · rw [heq]
    exact .selectedWithValue _ _ command _ hdecode rfl hacquire
  · rw [heq]
    exact .refused _ _ _ _ rfl rfl rfl

theorem served_read (destinationSize : Nat) :
    binding.Served input.nowMs state shared (.read destinationSize)
      (.read (alone input (binding.sboNormalRead destinationSize state) shared).1.1.1
        (alone input (binding.sboNormalRead destinationSize state) shared).1.1.2)
      (alone input (binding.sboNormalRead destinationSize state) shared).1.2
      (alone input (binding.sboNormalRead destinationSize state) shared).2 := by
  rw [sboNormalRead]
  split
  · exact .refused _ _ _ _ rfl rfl rfl
  rename_i hmodel
  rw [not_or, not_not] at hmodel
  rw [alone_bind]
  rcases alone_acquireSelection binding input shared with ⟨hacquire, heq⟩ | ⟨-, heq⟩
  · rw [heq]
    exact .selected _ _ _ hmodel.1 hacquire
  · rw [heq]
    exact .refused _ _ _ _ rfl rfl rfl

theorem served_cancel (encodedData : Bytes) (access : MmsStaticRequestAccessContext) :
    binding.Served input.nowMs state shared (.cancel encodedData access)
      (.write (alone input (binding.booleanWriteCancelContextual encodedData access state)
        shared).1.1)
      (alone input (binding.booleanWriteCancelContextual encodedData access state) shared).1.2
      (alone input (binding.booleanWriteCancelContextual encodedData access state) shared).2 := by
  rw [booleanWriteCancelContextual]
  dsimp only
  split
  · rename_i hguard
    have hrefused : (binding.associationGuard access).success = false := by simpa using hguard
    exact .refused _ _ _ _ hrefused rfl rfl
  split
  · exact .refused _ _ _ _ rfl rfl rfl
  split
  · exact .refused _ _ _ _ rfl rfl rfl
  rename_i command hdecode
  split
  · exact .refused _ _ _ _ rfl rfl rfl
  rw [alone_bind]
  rcases alone_ownsLiveSelection binding input shared state with
    ⟨hid, howner, hlive, heq⟩ | ⟨hid, howner, hpassed, heq⟩ | heq
  · rw [heq]
    dsimp only
    rw [if_neg nofun]
    split
    · exact .refused _ _ _ _ rfl rfl rfl
    rename_i hmismatch
    rw [alone_bind, alone_releaseSelection, if_pos ⟨hid, howner⟩]
    exact .cancelled _ _ command _ hdecode ⟨hid, howner, hlive⟩ (matches_of_not hmismatch)
  · rw [heq]
    exact .lapsed _ _ _ _ rfl howner hpassed rfl
  · rw [heq]
    exact .refused _ _ _ _ rfl rfl rfl

variable (binding input shared state) in
/-- **Every request ends in one of the ways.** -/
theorem served_alone (hsbo : binding.requiresSelection = true) (request : ControlRequest) :
    binding.Served input.nowMs state shared request
      (alone input (binding.serve state request) shared).1.1
      (alone input (binding.serve state request) shared).1.2
      (alone input (binding.serve state request) shared).2 := by
  cases request with
  | read destinationSize =>
    rw [serve, alone_bind]
    exact served_read destinationSize
  | sbow encodedData access =>
    rw [serve, alone_write]
    exact served_sbow encodedData access
  | oper encodedData access =>
    cases access with
    | none =>
      rw [serve, alone_write]
      exact served_applyOperate hsbo encodedData none
    | some access =>
      rw [serve, alone_write, booleanWriteOperContextual]
      dsimp only
      split
      · rename_i hguard
        have hrefused : (binding.associationGuard access).success = false := by
          simpa using hguard
        exact .refused _ _ _ _ hrefused rfl rfl
      · exact served_applyOperate hsbo encodedData (some access)
  | cancel encodedData access =>
    rw [serve, alone_write]
    exact served_cancel encodedData access
  | close =>
    rw [serve, alone_bind, controlOnAssociationClosed, alone_bind, alone_releaseSelection]
    exact .closed _ _ rfl

end MmsStaticDirectBooleanControlBinding

end ArStack.Mms
