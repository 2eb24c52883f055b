import ArStack.Control.ControlSession
import ArStack.Lib.Run

/-!
# Sessions and their planners

The planner goes on before an exchange and the session after it. When something is thrown in
between and no context is retained, the planner holds what no later call can release.

* `Agrees` — the planner holds something only if the session can release it
* `Abandoned` — the calls that leave the planner behind
* `session_agrees_iff` — every run
-/

namespace ArStack.Control

open ArStack.Lib
open ArStack.Mms (MmsDataCodec.encode)

variable {Context : Type}

/-- The planner has a selection or awaits a termination. -/
def GuardedControlState.Held (p : GuardedControlState) : Prop :=
  p.selected = true ∨ p.waitingForTermination = true

/-- **The session and its planner agree.** -/
def Agrees (s : ControlSessionState) : Prop := s.planner.Held → s.activeContext.isSome = true

/-- The callee throws. -/
def Throws {α : Type} (result : Except Thrown α) : Prop := ∃ thrown, result = .error thrown

namespace ControlObjectSession

variable (session : ControlObjectSession Context)

/-! ## Calls that leave the planner behind -/

/-- The planner lets the action through, unless it holds something. -/
def Admits (action : ControlAction) (policy : Context) (request : ControlRequest)
    (context : ActiveContext) (encoded : Bytes) : Prop :=
  session.client.valid = true ∧ (sequenceView request context encoded).valid = true ∧
    session.planner.authorized policy action session.client
      (sequenceView request context encoded) = true

/-- The Read of `SBO` throws. -/
def ReadThrows (answers : SelectAnswers Context) : Prop :=
  Throws (objectName session.descriptor.object (ascii "CO") (ascii "SBO") >>= answers.read)

/-- The exchange of `SBOw` throws: building it, discarding old reports, the Write or the wait. -/
def SbowThrows (answers : SelectAnswers Context) (specification : Mms.MmsTypeSpecification)
    (context : ActiveContext) : Prop :=
  match session.builder.buildSelectWithValue context.mms specification
      session.options.requireExactNamedControlFields with
  | .error _ => True
  | .ok value => ∃ content, value.built = some content ∧
      (Throws answers.clearInformationReports ∨
        Throws (objectName session.descriptor.object (ascii "CO") (ascii "SBOw") >>=
          fun name => answers.write name content) ∨
        Throws (session.waitForApplicationError answers.wait context))

/-- The exchange of `Oper` throws something that is not the cancellation of the Write. -/
def OperThrows (answers : OperateAnswers Context) (request : ControlRequest)
    (context : ActiveContext) : Prop :=
  match session.builder.buildOperate context.mms session.descriptor.operateSpecification
      session.options.requireExactNamedControlFields with
  | .error _ => True
  | .ok value => ∃ content, value.built = some content ∧
      (Throws answers.clearInformationReports ∨
        match objectName session.descriptor.object (ascii "CO") (ascii "Oper") >>=
            fun name => answers.write name content with
        | .error thrown => thrown ≠ .cancelled
        | .ok write =>
          if write.success then
            Throws (session.waitForTermination
              (session.effectiveOperateTimeout request answers.systemNowAtWait) answers.wait context)
          else Throws (session.waitForApplicationError answers.wait context))

def SelectAbandoned (s : ControlSessionState) (answers : SelectAnswers Context)
    (request : ControlRequest) : Prop :=
  session.descriptor.model = .selectBeforeOperateNormal ∧ answers.associated = true ∧
    s.activeContext = none ∧
    ∃ context s', session.createContext answers.created answers.systemNow request s =
        .ok context s' ∧
      session.Admits .select answers.policy request context context.encodedCtlValue ∧
      session.ReadThrows answers

def SelectWithValueAbandoned (s : ControlSessionState) (answers : SelectAnswers Context)
    (request : ControlRequest) : Prop :=
  session.descriptor.model = .selectBeforeOperateEnhanced ∧ answers.associated = true ∧
    s.activeContext = none ∧
    ∃ specification context s',
      session.descriptor.selectWithValueSpecification = some specification ∧
      session.createContext answers.created answers.systemNow request s = .ok context s' ∧
      session.Admits .selectWithValue answers.policy request context context.encodedCtlValue ∧
      session.SbowThrows answers specification context

/-- The operate of a model with direct control. -/
def DirectAbandoned (s : ControlSessionState) (answers : OperateAnswers Context)
    (request : ControlRequest) : Prop :=
  session.descriptor.model = .directEnhanced ∧ s.activeContext = none ∧
    ∃ context s' encoded, session.createContext answers.created answers.systemNow request s =
        .ok context s' ∧
      session.bindRequest request = .ok encoded ∧
      session.Admits .operate answers.policy request context encoded ∧
      session.OperThrows answers request context

/-- The select that an operate makes. -/
def AutoSelectAbandoned (s : ControlSessionState) (answers : OperateAnswers Context)
    (request : ControlRequest) : Prop :=
  session.descriptor.requiresSelect = true ∧ s.activeContext = none ∧
    (∀ expired, s.expiredContext = some expired → session.repeatsExpired request expired = false) ∧
    request.autoSelect = true ∧
    (session.SelectAbandoned { s with expiredContext := none } answers.selecting request ∨
      session.SelectWithValueAbandoned { s with expiredContext := none } answers.selecting request)

def OperateAbandoned (s : ControlSessionState) (answers : OperateAnswers Context)
    (request : ControlRequest) : Prop :=
  session.descriptor.operationallyReady = true ∧
    (request.operateAt.isSome && !session.descriptor.supportsTimeActivatedOperate) = false ∧
    answers.associated = true ∧
    (session.AutoSelectAbandoned s answers request ∨ session.DirectAbandoned s answers request)

/-- **The planner is left behind**: it accepts a select, or an operate under direct control with
enhanced security, no context is retained, and the exchange throws. -/
def Abandoned (s : ControlSessionState) : SessionCall Context → Prop
  | .select answers request => session.SelectAbandoned s answers request
  | .selectWithValue answers request => session.SelectWithValueAbandoned s answers request
  | .operate answers request => session.OperateAbandoned s answers request
  | .cancel _ => False
  | .onAssociationClosed => False

/-! ## The planner -/

/-- What the planner holds is held for the association of the session. -/
def Owned (p : GuardedControlState) : Prop :=
  p.Held → p.ownerAssociationId = session.associationId ∧ session.associationId ≠ 0

theorem not_held_clearActive (p : GuardedControlState) : ¬p.clearActive.Held := by
  simp [GuardedControlState.Held, GuardedControlState.clearActive]

variable {session}

theorem Owned.released {p : GuardedControlState} (h : session.Owned p) :
    ¬(GuardedControlPlanner.onAssociationClosed p session.associationId).Held := by
  rw [GuardedControlPlanner.onAssociationClosed]
  split
  · exact not_held_clearActive p
  · rename_i hkept
    exact fun hheld => hkept ⟨(h hheld).2, (h hheld).1⟩

theorem owned_of_not_held {p : GuardedControlState} (h : ¬p.Held) : session.Owned p :=
  fun hheld => absurd hheld h

theorem expired_zero_or (p : GuardedControlState) :
    p.expireSelection 0 = p ∨ ¬(p.expireSelection 0).Held := by
  rw [GuardedControlState.expireSelection]
  split
  · exact .inr (not_held_clearActive p)
  · exact .inl rfl

theorem ne_zero_of_client_valid (h : session.client.valid = true) : session.associationId ≠ 0 := by
  simpa [client, ControlClientIdentity.valid] using h

/-- **A select of the planner**: it is refused and what was held stays or is dropped, or it is
granted to the session. -/
theorem selectFor_cases (session : ControlObjectSession Context) (action : ControlAction)
    (model : ControlModel) (policy : Context) (p : GuardedControlState) (sequence : ControlSequenceView) :
    let result := session.planner.selectFor action model policy p session.client sequence 0
    (result.1.accepted = false ∧ (result.2 = p ∨ ¬result.2.Held)) ∨
      (result.1.accepted = true ∧ result.2.selected = true ∧
        result.2.ownerAssociationId = session.associationId ∧ session.associationId ≠ 0 ∧
        session.planner.model = model ∧ session.client.valid = true ∧ sequence.valid = true ∧
        session.planner.authorized policy action session.client sequence = true) := by
  intro result
  have hresult : result =
    session.planner.selectFor action model policy p session.client sequence 0 := rfl
  rw [GuardedControlPlanner.selectFor] at hresult
  split at hresult
  · exact .inl (by rw [hresult]; exact ⟨rfl, .inl rfl⟩)
  · rename_i hmodel
    split at hresult
    · exact .inl (by rw [hresult]; exact ⟨rfl, .inl rfl⟩)
    · rename_i hclient
      split at hresult
      · exact .inl (by rw [hresult]; exact ⟨rfl, .inl rfl⟩)
      · rename_i hsequence
        have hexpired := expired_zero_or p
        simp only at hresult
        split at hresult
        · exact .inl (by rw [hresult]; exact ⟨rfl, hexpired⟩)
        · split at hresult
          · split at hresult
            · exact .inl (by rw [hresult]; exact ⟨rfl, hexpired⟩)
            · exact .inl (by rw [hresult]; exact ⟨rfl, hexpired⟩)
          · split at hresult
            · exact .inl (by rw [hresult]; exact ⟨rfl, hexpired⟩)
            · rename_i hauthorized
              have hvalid : session.client.valid = true := by simpa using hclient
              rw [hresult]
              exact .inr ⟨rfl, rfl, rfl, ne_zero_of_client_valid hvalid, by simpa using hmodel,
                hvalid, by simpa using hsequence, by simpa using hauthorized⟩

/-- A select of an object that is not held is granted. -/
theorem selectFor_accepted {action : ControlAction} {model : ControlModel} {policy : Context}
    {p : GuardedControlState} {sequence : ControlSequenceView}
    (hmodel : session.planner.model = model) (hclient : session.client.valid = true)
    (hsequence : sequence.valid = true)
    (hauthorized : session.planner.authorized policy action session.client sequence = true)
    (hheld : ¬p.Held) :
    (session.planner.selectFor action model policy p session.client sequence 0).1.accepted =
      true := by
  have hexpired : ¬(p.expireSelection 0).Held := by
    rcases expired_zero_or p with h | h
    · rwa [h]
    · exact h
  have hwaiting : (p.expireSelection 0).waitingForTermination = false := by
    simpa using fun h => hexpired (.inr h)
  have hselected : (p.expireSelection 0).selected = false := by
    simpa using fun h => hexpired (.inl h)
  rw [GuardedControlPlanner.selectFor, if_neg (by simp [hmodel]), if_neg (by simp [hclient]),
    if_neg (by simp [hsequence])]
  simp only
  rw [if_neg (by simp [hwaiting]), if_neg (by simp [hselected]), if_neg (by simp [hauthorized])]
  rfl

/-- **An operate of the planner**: it is refused and what was held stays or is dropped, or it is
let through; then the planner holds nothing, or it awaits the termination of a command that uses a
selection or needs none. -/
theorem operate_cases (session : ControlObjectSession Context) (policy : Context)
    (p : GuardedControlState) (sequence : ControlSequenceView) :
    let result := session.planner.operate policy p session.client sequence 0
    (result.1.accepted = false ∧ (result.2 = p ∨ ¬result.2.Held)) ∨
      (result.1.accepted = true ∧ ¬result.2.Held) ∨
      (result.1.accepted = true ∧ result.2.waitingForTermination = true ∧
        result.2.ownerAssociationId = session.associationId ∧ session.associationId ≠ 0 ∧
        session.descriptor.enhanced = true ∧
        (p.Held ∨ session.descriptor.model = .directEnhanced) ∧ session.client.valid = true ∧
        sequence.valid = true ∧
        session.planner.authorized policy .operate session.client sequence = true) := by
  intro result
  have hresult : result = session.planner.operate policy p session.client sequence 0 := rfl
  rw [GuardedControlPlanner.operate] at hresult
  split at hresult
  · exact .inl (by rw [hresult]; exact ⟨rfl, .inl rfl⟩)
  · split at hresult
    · exact .inl (by rw [hresult]; exact ⟨rfl, .inl rfl⟩)
    · rename_i hclient
      have hvalid : session.client.valid = true := by simpa using hclient
      split at hresult
      · exact .inl (by rw [hresult]; exact ⟨rfl, .inl rfl⟩)
      · rename_i hsequence
        split at hresult
        · exact .inl (by rw [hresult]; exact ⟨rfl, .inl rfl⟩)
        · split at hresult
          · rw [GuardedControlPlanner.operateSelected] at hresult
            split at hresult
            · exact .inl (by rw [hresult]; exact ⟨rfl, .inr (not_held_clearActive p)⟩)
            · split at hresult
              · exact .inl (by rw [hresult]; exact ⟨rfl, .inl rfl⟩)
              · rename_i hselected
                split at hresult
                · exact .inl (by rw [hresult]; exact ⟨rfl, .inl rfl⟩)
                · rename_i howner
                  split at hresult
                  · exact .inl (by rw [hresult]; exact ⟨rfl, .inr (not_held_clearActive p)⟩)
                  · split at hresult
                    · exact .inl (by rw [hresult]; exact ⟨rfl, .inr (not_held_clearActive p)⟩)
                    · rename_i hauthorized
                      rw [GuardedControlPlanner.acceptOperate] at hresult
                      split at hresult
                      · rename_i henhanced
                        rw [hresult]
                        exact .inr (.inr ⟨rfl, rfl, by simpa [client] using howner,
                          ne_zero_of_client_valid hvalid, henhanced, .inl (.inl (by simpa using hselected)),
                          hvalid, by simpa using hsequence, by simpa using hauthorized⟩)
                      · rw [hresult]
                        exact .inr (.inl ⟨rfl, not_held_clearActive _⟩)
          · rename_i hrequires
            rw [GuardedControlPlanner.operateDirect] at hresult
            split at hresult
            · exact .inl (by rw [hresult]; exact ⟨rfl, .inl rfl⟩)
            · rename_i hauthorized
              rw [GuardedControlPlanner.acceptOperate] at hresult
              split at hresult
              · rename_i henhanced
                have hsession : session.descriptor.enhanced = true := henhanced
                have hdirect : session.descriptor.model = .directEnhanced := by
                  change modelIsEnhanced session.descriptor.model = true at henhanced
                  change ¬modelRequiresSelect session.descriptor.model = true at hrequires
                  revert henhanced hrequires
                  cases session.descriptor.model <;> simp [modelIsEnhanced, modelRequiresSelect]
                rw [hresult]
                exact .inr (.inr ⟨rfl, rfl, rfl, ne_zero_of_client_valid hvalid, hsession,
                  .inr hdirect, hvalid, by simpa using hsequence, by simpa using hauthorized⟩)
              · rw [hresult]
                exact .inr (.inl ⟨rfl, not_held_clearActive _⟩)

/-- An operate under direct control with enhanced security is let through and awaited. -/
theorem operate_accepted {policy : Context} {p : GuardedControlState}
    {sequence : ControlSequenceView} (hobject : session.descriptor.object.valid = true)
    (hmodel : session.descriptor.model = .directEnhanced)
    (hclient : session.client.valid = true) (hsequence : sequence.valid = true)
    (hauthorized : session.planner.authorized policy .operate session.client sequence = true)
    (hheld : ¬p.Held) :
    let result := session.planner.operate policy p session.client sequence 0
    result.1.accepted = true ∧ result.2.waitingForTermination = true := by
  have hplanner : session.planner.model = .directEnhanced := hmodel
  have hvalid : session.planner.valid = true := by
    have hobject : session.planner.object.valid = true := hobject
    rw [GuardedControlPlanner.valid, hobject, hplanner]
    rfl
  have hwaiting : p.waitingForTermination = false := by simpa using fun h => hheld (.inr h)
  rw [GuardedControlPlanner.operate, if_neg (by simp [hvalid, hplanner]), if_neg (by simp [hclient]),
    if_neg (by simp [hsequence]), if_neg (by simp [hwaiting]),
    if_neg (by simp [hplanner, modelRequiresSelect]), GuardedControlPlanner.operateDirect,
    if_neg (by simp [hauthorized]), GuardedControlPlanner.acceptOperate,
    if_pos (by simp [hplanner, modelIsEnhanced])]
  exact ⟨rfl, rfl⟩

/-- A cancel of the planner keeps what was held or drops it. -/
theorem cancel_cases (session : ControlObjectSession Context) (policy : Context)
    (p : GuardedControlState) :
    (session.planner.cancel policy p session.client 0).2 = p ∨
      ¬(session.planner.cancel policy p session.client 0).2.Held := by
  rw [GuardedControlPlanner.cancel]
  split
  · exact .inl rfl
  · split
    · exact .inl rfl
    · split
      · exact .inr (not_held_clearActive p)
      · split
        · exact .inl rfl
        · split
          · exact .inl rfl
          · split
            · exact .inl rfl
            · exact .inr (not_held_clearActive p)

/-! ## The exchanges -/

/-- How a call ends that has the planner left behind just when `abandoned`; `post` is what holds
when it returns. -/
def Concludes (session : ControlObjectSession Context) (abandoned : Prop)
    (post : ControlActionResult → ControlSessionState → Prop) :
    EStateM.Result Thrown ControlSessionState ControlActionResult → Prop
  | .ok result s => session.Owned s.planner ∧ Agrees s ∧ ¬abandoned ∧ post result s
  | .error _ s => session.Owned s.planner ∧ (Agrees s ↔ ¬abandoned)

/-- A select that succeeds retains its context. -/
def Retains (result : ControlActionResult) (s : ControlSessionState) : Prop :=
  result.success = true → s.activeContext.isSome = true

/-- Nothing is said about the result. -/
def AnyResult (_ : ControlActionResult) (_ : ControlSessionState) : Prop := True

theorem agrees_of_not_held {s : ControlSessionState} (h : ¬s.planner.Held) : Agrees s :=
  fun hheld => absurd hheld h

theorem agrees_iff {s : ControlSessionState} :
    Agrees s ↔ ¬(s.planner.Held ∧ s.activeContext = none) := by
  rw [Agrees, not_and, ← ne_eq, ← Option.isSome_iff_ne_none]

variable {s : ControlSessionState} {post : ControlActionResult → ControlSessionState → Prop}

theorem concludes_throw {abandoned : Prop} (howned : session.Owned s.planner)
    (h : abandoned ↔ s.planner.Held ∧ s.activeContext = none) (thrown : Thrown) :
    session.Concludes abandoned post (.error thrown s) :=
  ⟨howned, by rw [agrees_iff, h]⟩

/-- A result with the planner released. -/
theorem concludes_released {abandoned : Prop} (howned : session.Owned s.planner)
    (h : ¬abandoned) {result : ControlActionResult} {active : Option ActiveContext}
    {expired : Option ActiveContext}
    (hpost : ∀ s' : ControlSessionState, s'.activeContext = active → post result s') :
    session.Concludes abandoned post
      (.ok result
        { s with
          planner := GuardedControlPlanner.onAssociationClosed s.planner session.associationId
          activeContext := active
          expiredContext := expired }) :=
  ⟨owned_of_not_held howned.released, agrees_of_not_held howned.released, h, hpost _ rfl⟩

/-- **A callee that may throw**, inside a call. -/
theorem Concludes.answer {α : Type} {abandoned : Prop} {x : Except Thrown α}
    {f : α → SessionM ControlActionResult}
    (hthrow : ∀ thrown, x = .error thrown → session.Concludes abandoned post (.error thrown s))
    (hreturn : ∀ a, x = .ok a → session.Concludes abandoned post (f a s)) :
    session.Concludes abandoned post ((answer x >>= f) s) := by
  cases x with
  | error thrown => exact hthrow thrown rfl
  | ok a => exact hreturn a rfl

theorem not_throws_ok {α : Type} {a : α} : ¬Throws (.ok a : Except Thrown α) := by
  rintro ⟨thrown, h⟩
  cases h

theorem finishSelect_concludes (howned : session.Owned s.planner) (hheld : s.planner.Held)
    (answers : SelectAnswers Context) (context : ActiveContext) :
    session.Concludes (s.activeContext = none ∧ session.ReadThrows answers) Retains
      (session.finishSelect answers context s) := by
  rw [finishSelect, ReadThrows]
  refine Concludes.answer (fun thrown hread => ?_) fun selected hread => ?_
  · exact concludes_throw howned ⟨fun h => ⟨hheld, h.1⟩, fun h => ⟨h.2, thrown, hread⟩⟩ thrown
  · rw [hread]
    have hnot : ¬(s.activeContext = none ∧
        Throws (.ok selected : Except Thrown (Option Mms.MmsDataValue))) :=
      fun h => not_throws_ok h.2
    split
    · exact concludes_released howned hnot fun _ _ h => absurd h (by simp [rejected,
        ControlActionResult.success])
    · exact ⟨howned, fun _ => rfl, hnot, fun _ => rfl⟩

theorem concludeSelectWithValue_concludes {abandoned : Prop} (howned : session.Owned s.planner)
    (h : ¬abandoned) (context : ActiveContext) (write : ControlTransportWriteResult)
    (error : Option CommandTermination) :
    session.Concludes abandoned Retains
      (session.concludeSelectWithValue context write error s) := by
  rw [concludeSelectWithValue]
  split
  · refine concludes_released howned h fun _ _ hsuccess => absurd hsuccess ?_
    cases error <;> simp [writeFailure, ControlActionResult.success]
  · cases error.filter fun error => !error.positive with
    | some error =>
      exact concludes_released howned h fun _ _ hsuccess => absurd hsuccess (by
        simp [ControlActionResult.success])
    | none => exact ⟨howned, fun _ => rfl, h, fun _ => rfl⟩

theorem finishSelectWithValue_concludes (howned : session.Owned s.planner)
    (hheld : s.planner.Held) (answers : SelectAnswers Context)
    (specification : Mms.MmsTypeSpecification) (context : ActiveContext) :
    session.Concludes (s.activeContext = none ∧ session.SbowThrows answers specification context)
      Retains (session.finishSelectWithValue answers specification context s) := by
  have abandoned : session.SbowThrows answers specification context → ∀ thrown,
      session.Concludes (s.activeContext = none ∧ session.SbowThrows answers specification context)
        Retains (.error thrown s) := fun h =>
    concludes_throw howned ⟨fun h => ⟨hheld, h.1⟩, fun hnone => ⟨hnone.2, h⟩⟩
  rw [finishSelectWithValue]
  refine Concludes.answer (fun thrown hbuild => abandoned ?_ thrown) fun value hbuild => ?_
  · rw [SbowThrows, hbuild]
    trivial
  · cases hbuilt : value.built with
    | none =>
      refine concludes_released howned ?_ fun _ _ h => absurd h (by
        simp [rejected, ControlActionResult.success])
      rintro ⟨-, h⟩
      rw [SbowThrows, hbuild] at h
      obtain ⟨content, hcontent, -⟩ := h
      rw [hbuilt] at hcontent
      cases hcontent
    | some content =>
      have throws_iff : session.SbowThrows answers specification context ↔
          Throws answers.clearInformationReports ∨
            Throws (objectName session.descriptor.object (ascii "CO") (ascii "SBOw") >>=
              fun name => answers.write name content) ∨
            Throws (session.waitForApplicationError answers.wait context) := by
        rw [SbowThrows, hbuild]
        simp [hbuilt]
      refine Concludes.answer (fun thrown hclear =>
        abandoned (throws_iff.mpr (.inl ⟨thrown, hclear⟩)) thrown) fun _ hclear => ?_
      refine Concludes.answer (fun thrown hwrite =>
        abandoned (throws_iff.mpr (.inr (.inl ⟨thrown, hwrite⟩))) thrown) fun write hwrite => ?_
      refine Concludes.answer (fun thrown hwait =>
        abandoned (throws_iff.mpr (.inr (.inr ⟨thrown, hwait⟩))) thrown) fun error hwait => ?_
      refine concludeSelectWithValue_concludes howned ?_ context write error
      rw [throws_iff, hclear, hwrite, hwait]
      rintro ⟨-, h | h | h⟩
      · exact not_throws_ok h
      · exact not_throws_ok h
      · exact not_throws_ok h

theorem Owned.commandTermination {p : GuardedControlState} (h : session.Owned p)
    (error : ControlError) (addCause : AddCause) :
    session.Owned (GuardedControlPlanner.commandTermination p error addCause).2 := by
  rw [GuardedControlPlanner.commandTermination]
  split
  · exact h
  · exact owned_of_not_held (not_held_clearActive p)

theorem concludeOperate_concludes (howned : session.Owned s.planner)
    {answers : OperateAnswers Context} {request : ControlRequest} {context : ActiveContext}
    {write : ControlTransportWriteResult} {abandoned : Prop}
    (h : abandoned ↔ (s.planner.Held ∧ s.activeContext = none) ∧
      if write.success then Throws (session.waitForTermination
        (session.effectiveOperateTimeout request answers.systemNowAtWait) answers.wait context)
      else Throws (session.waitForApplicationError answers.wait context))
    (hheld : s.planner.Held → session.descriptor.enhanced = true) :
    session.Concludes abandoned AnyResult
      (session.concludeOperate answers request context write s) := by
  rw [concludeOperate]
  by_cases hsuccess : write.success = true
  · rw [if_pos hsuccess] at h
    rw [if_neg (by simp [hsuccess])]
    split
    · rename_i hnormal
      refine concludes_released howned (fun habandoned => ?_) fun _ _ => trivial
      simp [hheld (h.mp habandoned).1.1] at hnormal
    · refine Concludes.answer (fun thrown hwait => ?_) fun termination hwait => ?_
      · exact concludes_throw howned (h.trans (and_iff_left ⟨thrown, hwait⟩)) thrown
      · have hnot : ¬abandoned := fun habandoned => by
          have hthrows := (h.mp habandoned).2
          rw [hwait] at hthrows
          exact not_throws_ok hthrows
        cases termination with
        | none => exact concludes_released howned hnot fun _ _ => trivial
        | some termination =>
          exact concludes_released (s := { s with planner := (GuardedControlPlanner.commandTermination
              s.planner termination.controlError termination.addCause).2 })
            (howned.commandTermination _ _) hnot fun _ _ => trivial
  · rw [if_neg hsuccess] at h
    rw [if_pos (by simpa using hsuccess)]
    refine Concludes.answer (fun thrown hwait => ?_) fun error hwait => ?_
    · exact concludes_throw howned (h.trans (and_iff_left ⟨thrown, hwait⟩)) thrown
    · refine concludes_released howned (fun habandoned => ?_) fun _ _ => trivial
      have hthrows := (h.mp habandoned).2
      rw [hwait] at hthrows
      exact not_throws_ok hthrows

theorem finishOperate_concludes (howned : session.Owned s.planner)
    (hheld : s.planner.Held → session.descriptor.enhanced = true)
    (answers : OperateAnswers Context) (request : ControlRequest) (context : ActiveContext) :
    session.Concludes
      ((s.planner.Held ∧ s.activeContext = none) ∧ session.OperThrows answers request context)
      AnyResult (session.finishOperate answers request context s) := by
  have abandoned : session.OperThrows answers request context → ∀ thrown,
      session.Concludes
        ((s.planner.Held ∧ s.activeContext = none) ∧ session.OperThrows answers request context)
        AnyResult (.error thrown s) := fun h => concludes_throw howned (and_iff_left h)
  rw [finishOperate]
  refine Concludes.answer (fun thrown hbuild => abandoned ?_ thrown) fun value hbuild => ?_
  · rw [OperThrows, hbuild]
    trivial
  · cases hbuilt : value.built with
    | none =>
      refine concludes_released howned ?_ fun _ _ => trivial
      rintro ⟨-, h⟩
      rw [OperThrows, hbuild] at h
      obtain ⟨content, hcontent, -⟩ := h
      rw [hbuilt] at hcontent
      cases hcontent
    | some content =>
      have throws_iff : session.OperThrows answers request context ↔
          Throws answers.clearInformationReports ∨
            match objectName session.descriptor.object (ascii "CO") (ascii "Oper") >>=
                fun name => answers.write name content with
            | .error thrown => thrown ≠ .cancelled
            | .ok write =>
              if write.success then
                Throws (session.waitForTermination
                  (session.effectiveOperateTimeout request answers.systemNowAtWait) answers.wait
                  context)
              else Throws (session.waitForApplicationError answers.wait context) := by
        rw [OperThrows, hbuild]
        simp [hbuilt]
      refine Concludes.answer (fun thrown hclear =>
        abandoned (throws_iff.mpr (.inl ⟨thrown, hclear⟩)) thrown) fun _ hclear => ?_
      rw [hclear, or_iff_right not_throws_ok] at throws_iff
      cases hwrite : objectName session.descriptor.object (ascii "CO") (ascii "Oper") >>=
          fun name => answers.write name content with
      | error thrown =>
        rw [hwrite] at throws_iff
        cases thrown with
        | cancelled =>
          exact concludes_released howned (fun h => throws_iff.mp h.2 rfl) fun _ _ => trivial
        | other message => exact abandoned (throws_iff.mpr (by simp)) (.other message)
      | ok write =>
        rw [hwrite] at throws_iff
        exact concludeOperate_concludes howned (and_congr_right fun _ => throws_iff) hheld

/-! ## The calls -/

/-- What holds between the calls. -/
def Settled (session : ControlObjectSession Context) (s : ControlSessionState) : Prop :=
  session.Owned s.planner ∧ Agrees s

theorem Settled.not_held (hs : session.Settled s) (h : s.activeContext = none) :
    ¬s.planner.Held := fun hheld => by
  have hsome := hs.2 hheld
  rw [h] at hsome
  cases hsome

theorem Settled.pure (hs : session.Settled s) {abandoned : Prop} (h : ¬abandoned)
    {result : ControlActionResult} (hpost : post result s) :
    session.Concludes abandoned post ((Pure.pure result : SessionM ControlActionResult) s) :=
  ⟨hs.1, hs.2, h, hpost⟩

theorem Settled.throw (hs : session.Settled s) {abandoned : Prop} (h : ¬abandoned)
    (thrown : Thrown) : session.Concludes abandoned post (.error thrown s) :=
  ⟨hs.1, ⟨fun _ => h, fun _ => hs.2⟩⟩

/-- The same planner and the same context of a selection. -/
def Alike (s s' : ControlSessionState) : Prop :=
  s'.planner = s.planner ∧ s'.activeContext = s.activeContext

theorem Settled.alike (hs : session.Settled s) {s' : ControlSessionState} (h : Alike s s') :
    session.Settled s' := by
  rw [Settled, Agrees, h.1, h.2]
  exact hs

/-- The planner has refused, which may have dropped what it held. -/
theorem Settled.refused (hs : session.Settled s) {p : GuardedControlState}
    (hp : p = s.planner ∨ ¬p.Held) : session.Settled { s with planner := p } := by
  rcases hp with rfl | hp
  · exact hs
  · exact ⟨owned_of_not_held hp, agrees_of_not_held hp⟩

theorem Concludes.congr {abandoned abandoned' : Prop} (h : abandoned ↔ abandoned')
    {r : EStateM.Result Thrown ControlSessionState ControlActionResult}
    (hr : session.Concludes abandoned post r) : session.Concludes abandoned' post r := by
  rwa [propext h] at hr

/-- **The context of a request**, inside a call. -/
theorem Concludes.createContext {abandoned : Prop} {created : Int} {systemNow : Nat}
    {request : ControlRequest} {f : ActiveContext → SessionM ControlActionResult}
    (hthrow : ∀ thrown s', session.createContext created systemNow request s = .error thrown s' →
      Alike s s' → session.Concludes abandoned post (.error thrown s'))
    (hreturn : ∀ context s', session.createContext created systemNow request s = .ok context s' →
      Alike s s' → session.Concludes abandoned post (f context s')) :
    session.Concludes abandoned post ((session.createContext created systemNow request >>= f) s) := by
  have halike : match session.createContext created systemNow request s with
      | .ok _ s' => Alike s s'
      | .error _ s' => Alike s s' := by
    change match (Control.answer (session.bindRequest request) >>= _ : SessionM ActiveContext) s with
      | .ok _ s' => Alike s s'
      | .error _ s' => Alike s s'
    cases session.bindRequest request with
    | error thrown => exact ⟨rfl, rfl⟩
    | ok encoded =>
      change match Control.answer (session.fillContext created systemNow request encoded
          (request.controlNumber.getD (nextControlNumber s.nextControlNumber)))
          { s with nextControlNumber := nextControlNumber s.nextControlNumber } with
        | .ok _ s' => Alike s s'
        | .error _ s' => Alike s s'
      cases session.fillContext created systemNow request encoded
          (request.controlNumber.getD (nextControlNumber s.nextControlNumber)) with
      | error thrown => exact ⟨rfl, rfl⟩
      | ok context => exact ⟨rfl, rfl⟩
  cases hcontext : session.createContext created systemNow request s with
  | error thrown s' =>
    rw [hcontext] at halike
    rw [bind_of_error hcontext]
    exact hthrow thrown s' hcontext halike
  | ok context s' =>
    rw [hcontext] at halike
    rw [bind_of_ok hcontext]
    exact hreturn context s' hcontext halike

/-- **The first part of a select**: the context, then the planner. -/
theorem begin_concludes (hs : session.Settled s) {action : ControlAction} {model : ControlModel}
    (hmodel : session.descriptor.model = model) {created : Int} {systemNow : Nat}
    {policy : Context} {request : ControlRequest} {throws : ActiveContext → Prop}
    {finish : ActiveContext → SessionM ControlActionResult}
    (hfinish : ∀ (s' : ControlSessionState) context, session.Owned s'.planner → s'.planner.Held →
      session.Concludes (s'.activeContext = none ∧ throws context) Retains (finish context s')) :
    session.Concludes (s.activeContext = none ∧ ∃ context s',
        session.createContext created systemNow request s = .ok context s' ∧
        session.Admits action policy request context context.encodedCtlValue ∧ throws context)
      Retains
      ((do
        let context ← session.createContext created systemNow request
        let decision ← plan fun planner => session.planner.selectFor action model policy planner
          session.client (sequenceView request context context.encodedCtlValue) 0
        if !decision.accepted then Pure.pure (fromPlannerRejection decision)
        else finish context) s) := by
  refine Concludes.createContext (fun thrown s' hcontext halike => ?_)
    fun context s' hcontext halike => ?_
  · refine (hs.alike halike).throw ?_ thrown
    rintro ⟨-, context, s'', h, -⟩
    rw [hcontext] at h
    cases h
  · have hs' := hs.alike halike
    let result := session.planner.selectFor action model policy s'.planner session.client
      (sequenceView request context context.encodedCtlValue) 0
    change session.Concludes _ _ ((if !result.1.accepted then
      (Pure.pure (fromPlannerRejection result.1) : SessionM ControlActionResult)
      else finish context) { s' with planner := result.2 })
    rcases selectFor_cases session action model policy s'.planner
      (sequenceView request context context.encodedCtlValue) with
      ⟨haccepted, hplanner⟩ | ⟨haccepted, hselected, howner, hzero, -, hclient, hsequence, hauthorized⟩
    · rw [if_pos (by simp [result, haccepted])]
      refine (hs'.refused hplanner).pure ?_ fun h => absurd h (by
        simp [fromPlannerRejection, rejected, ControlActionResult.success])
      rintro ⟨hnone, context', s'', h, ⟨hclient, hsequence, hauthorized⟩, -⟩
      rw [hcontext] at h
      cases h
      have haccept := selectFor_accepted (p := s'.planner) hmodel hclient hsequence hauthorized
        (hs'.not_held (halike.2.trans hnone))
      rw [haccepted] at haccept
      cases haccept
    · rw [if_neg (by simp [result, haccepted])]
      refine (hfinish { s' with planner := result.2 } context (fun _ => ⟨howner, hzero⟩)
        (.inl hselected)).congr ?_
      change s'.activeContext = none ∧ throws context ↔ _
      rw [halike.2]
      refine and_congr_right fun _ => ⟨fun h => ⟨context, s', hcontext,
        ⟨hclient, hsequence, hauthorized⟩, h⟩, ?_⟩
      rintro ⟨context', s'', h, -, hthrows⟩
      rw [hcontext] at h
      cases h
      exact hthrows

theorem select_concludes (hs : session.Settled s) (answers : SelectAnswers Context)
    (request : ControlRequest) :
    session.Concludes (session.SelectAbandoned s answers request) Retains
      (session.select answers request s) := by
  rw [select]
  split
  · rename_i hmodel
    exact hs.pure (fun h => hmodel h.1) fun h => absurd h (by
      simp [unsupported, rejected, ControlActionResult.success])
  · rename_i hmodel
    have hmodel : session.descriptor.model = .selectBeforeOperateNormal := by simpa using hmodel
    split
    · rename_i hdown
      exact hs.pure (fun h => by simp [h.2.1] at hdown) fun h => absurd h (by
        simp [rejected, ControlActionResult.success])
    · rename_i hup
      have hup : answers.associated = true := by simpa using hup
      refine (begin_concludes hs hmodel fun s' context howned hheld =>
        finishSelect_concludes howned hheld answers context).congr ?_
      simp [SelectAbandoned, hmodel, hup]

theorem selectWithValue_concludes (hs : session.Settled s) (answers : SelectAnswers Context)
    (request : ControlRequest) :
    session.Concludes (session.SelectWithValueAbandoned s answers request) Retains
      (session.selectWithValue answers request s) := by
  rw [selectWithValue]
  cases hspecification : session.descriptor.selectWithValueSpecification with
  | none =>
    refine hs.pure ?_ fun h => absurd h (by
      simp [unsupported, rejected, ControlActionResult.success])
    rintro ⟨-, -, -, specification, context, s', h, -⟩
    rw [hspecification] at h
    cases h
  | some specification =>
    simp only
    split
    · rename_i hmodel
      exact hs.pure (fun h => hmodel h.1) fun h => absurd h (by
        simp [unsupported, rejected, ControlActionResult.success])
    · rename_i hmodel
      have hmodel : session.descriptor.model = .selectBeforeOperateEnhanced := by simpa using hmodel
      split
      · rename_i hdown
        exact hs.pure (fun h => by simp [h.2.1] at hdown) fun h => absurd h (by
          simp [rejected, ControlActionResult.success])
      · rename_i hup
        have hup : answers.associated = true := by simpa using hup
        refine (begin_concludes hs hmodel fun s' context howned hheld =>
          finishSelectWithValue_concludes howned hheld answers specification context).congr ?_
        simp [SelectWithValueAbandoned, hmodel, hup, hspecification]

theorem Settled.bestEffortCancel (hs : session.Settled s) {abandoned : Prop} (h : ¬abandoned)
    (result : ControlActionResult) :
    session.Concludes abandoned AnyResult
      ((do
        session.bestEffortCancel
        Pure.pure result) s) := by
  change session.Concludes abandoned AnyResult
    (((if s.activeContext.isSome then session.clearSelection else Pure.pure ⟨⟩ : SessionM PUnit) >>=
      fun _ => Pure.pure result) s)
  split
  · exact concludes_released hs.1 h fun _ _ => trivial
  · exact ⟨hs.1, hs.2, h, trivial⟩

theorem operateWith_concludes (hs : session.Settled s)
    (hobject : session.descriptor.object.valid = true) (answers : OperateAnswers Context)
    (request : ControlRequest) (context : ActiveContext) :
    session.Concludes
      (session.descriptor.model = .directEnhanced ∧ s.activeContext = none ∧
        ∃ encoded, session.bindRequest request = .ok encoded ∧
          session.Admits .operate answers.policy request context encoded ∧
          session.OperThrows answers request context)
      AnyResult (session.operateWith answers request context s) := by
  rw [operateWith]
  refine Concludes.answer (fun thrown hbind => hs.throw ?_ thrown) fun bound hbind => ?_
  · rintro ⟨-, -, encoded, h, -⟩
    rw [bindRequest, hbind] at h
    cases h
  cases hbuilt : bound.built with
  | none =>
    have hrequest : session.bindRequest request = .error (.other
        ("Control value does not match live ctlVal TypeSpecification at " ++ bound.path ++
          ".")) := by
      rw [bindRequest, hbind, except_ok_bind, hbuilt]
    refine hs.bestEffortCancel ?_ _
    rintro ⟨-, -, encoded, h, -⟩
    rw [hrequest] at h
    cases h
  | some value =>
    have hrequest : session.bindRequest request = (MmsDataCodec.encode value).mapError .other := by
      rw [bindRequest, hbind, except_ok_bind, hbuilt]
    refine Concludes.answer (fun thrown hencode => hs.throw ?_ thrown) fun encoded hencode => ?_
    · rintro ⟨-, -, encoded, h, -⟩
      rw [hrequest, hencode] at h
      cases h
    rw [hencode] at hrequest
    let result := session.planner.operate answers.policy s.planner session.client
      (sequenceView request context encoded) 0
    change session.Concludes _ _ ((if !result.1.accepted then
        (do
          session.bestEffortCancel
          Pure.pure (fromPlannerRejection result.1) : SessionM ControlActionResult)
      else session.finishOperate answers request context) { s with planner := result.2 })
    have haccept : s.activeContext = none → session.descriptor.model = .directEnhanced →
        session.Admits .operate answers.policy request context encoded →
        result.1.accepted = true ∧ result.2.Held := fun hnone hmodel hadmits =>
      have h := operate_accepted hobject hmodel hadmits.1 hadmits.2.1 hadmits.2.2
        (hs.not_held hnone)
      ⟨h.1, .inr h.2⟩
    rcases operate_cases session answers.policy s.planner (sequenceView request context encoded) with
      ⟨haccepted, hplanner⟩ | ⟨haccepted, hheld⟩ |
      ⟨haccepted, hwaiting, howner, hzero, henhanced, hdirect, hclient, hsequence, hauthorized⟩
    · rw [if_pos (by simp [result, haccepted])]
      refine (hs.refused hplanner).bestEffortCancel ?_ _
      rintro ⟨hmodel, hnone, encoded', h, hadmits, -⟩
      rw [hrequest] at h
      cases h
      have h := (haccept hnone hmodel hadmits).1
      rw [haccepted] at h
      cases h
    · rw [if_neg (by simp [result, haccepted])]
      refine (finishOperate_concludes (owned_of_not_held hheld) (fun h => absurd h hheld) answers
        request context).congr ?_
      constructor
      · exact fun h => absurd h.1.1 hheld
      · rintro ⟨hmodel, hnone, encoded', h, hadmits, -⟩
        rw [hrequest] at h
        cases h
        exact absurd (haccept hnone hmodel hadmits).2 hheld
    · rw [if_neg (by simp [result, haccepted])]
      refine (finishOperate_concludes (fun _ => ⟨howner, hzero⟩) (fun _ => henhanced) answers
        request context).congr ?_
      constructor
      · rintro ⟨⟨-, hnone⟩, hthrows⟩
        exact ⟨hdirect.resolve_left (hs.not_held hnone), hnone, encoded, hrequest,
          ⟨hclient, hsequence, hauthorized⟩, hthrows⟩
      · rintro ⟨-, hnone, encoded', -, -, hthrows⟩
        exact ⟨⟨.inr hwaiting, hnone⟩, hthrows⟩

theorem operateSelected_concludes (hs : session.Settled s)
    (hobject : session.descriptor.object.valid = true) (answers : OperateAnswers Context)
    (request : ControlRequest) :
    session.Concludes (session.DirectAbandoned s answers request) AnyResult
      (session.operateSelected answers request s) := by
  rw [operateSelected, get_bind]
  cases hactive : s.activeContext with
  | none =>
    refine Concludes.createContext (fun thrown s' hcontext halike => ?_)
      fun context s' hcontext halike => ?_
    · refine (hs.alike halike).throw ?_ thrown
      rintro ⟨-, -, context, s'', encoded, h, -⟩
      rw [hcontext] at h
      cases h
    · refine (operateWith_concludes (hs.alike halike) hobject answers request context).congr ?_
      rw [DirectAbandoned, halike.2]
      refine and_congr_right fun _ => and_congr_right fun _ => ?_
      constructor
      · rintro ⟨encoded, h⟩
        exact ⟨context, s', encoded, hcontext, h⟩
      · rintro ⟨context', s'', encoded, h, hrest⟩
        rw [hcontext] at h
        cases h
        exact ⟨encoded, hrest⟩
  | some context =>
    have hnot : ¬session.DirectAbandoned s answers request := by
      rintro ⟨-, h, -⟩
      rw [hactive] at h
      cases h
    simp only
    split
    · have hexpired : session.Settled { s with expiredContext := some context } :=
        hs.alike ⟨rfl, rfl⟩
      exact hexpired.bestEffortCancel hnot _
    · refine (operateWith_concludes hs hobject answers request context).congr
        (iff_of_false ?_ hnot)
      rintro ⟨-, h, -⟩
      rw [hactive] at h
      cases h

theorem bind_congr_run {α β : Type} {x y : SessionM α} {k : α → SessionM β}
    {s s' : ControlSessionState} (h : x s = y s') : (x >>= k) s = (y >>= k) s' := by
  change EStateM.bind x k s = EStateM.bind y k s'
  rw [EStateM.bind, EStateM.bind, h]

/-- What an operate does with the result of its select. -/
def afterSelect (session : ControlObjectSession Context) (answers : OperateAnswers Context)
    (request : ControlRequest) : Option ControlActionResult → SessionM ControlActionResult
  | some result => Pure.pure result
  | none => session.operateSelected answers request

/-- An operate goes on from a select that succeeds, which has retained a context. -/
theorem afterSelect_concludes {abandoned : Prop}
    (hobject : session.descriptor.object.valid = true) (answers : OperateAnswers Context)
    (request : ControlRequest) {select : SessionM ControlActionResult}
    (h : session.Concludes abandoned Retains (select s)) :
    session.Concludes abandoned AnyResult
      (((do
        let selected ← select
        Pure.pure (if selected.success then none else some selected)) >>=
          session.afterSelect answers request) s) := by
  cases hselect : select s with
  | error thrown s' =>
    rw [hselect] at h
    rw [bind_of_error (bind_of_error hselect)]
    exact h
  | ok selected s' =>
    rw [hselect] at h
    obtain ⟨howned, hagrees, hnot, hretains⟩ := h
    have hs' : session.Settled s' := ⟨howned, hagrees⟩
    have hfirst : (do
        let selected ← select
        Pure.pure (if selected.success then none else some selected) :
          SessionM (Option ControlActionResult)) s =
        .ok (if selected.success then none else some selected) s' := bind_of_ok hselect
    rw [bind_of_ok hfirst]
    by_cases hsuccess : selected.success = true
    · rw [if_pos hsuccess]
      refine (operateSelected_concludes hs' hobject answers request).congr
        (iff_of_false ?_ hnot)
      rintro ⟨-, hnone, -⟩
      have hsome := hretains hsuccess
      rw [hnone] at hsome
      cases hsome
    · rw [if_neg hsuccess]
      exact hs'.pure hnot trivial

/-- The select that an operate makes when nothing is selected. -/
theorem autoSelect_concludes (hs : session.Settled s)
    (hobject : session.descriptor.object.valid = true) (answers : OperateAnswers Context) (request : ControlRequest) :
    session.Concludes
      ((∀ expired, s.expiredContext = some expired →
          session.repeatsExpired request expired = false) ∧
        request.autoSelect = true ∧
        (session.SelectAbandoned { s with expiredContext := none } answers.selecting request ∨
          session.SelectWithValueAbandoned { s with expiredContext := none } answers.selecting
            request))
      AnyResult ((session.autoSelect answers request >>= session.afterSelect answers request) s) := by
  have hs' : session.Settled { s with expiredContext := none } := hs
  have hfirst : session.Concludes
      (request.autoSelect = true ∧
        (session.SelectAbandoned { s with expiredContext := none } answers.selecting request ∨
          session.SelectWithValueAbandoned { s with expiredContext := none } answers.selecting
            request))
      AnyResult
      ((autoSelect.selectFirst session answers request >>= session.afterSelect answers request)
        { s with expiredContext := none }) := by
    rw [autoSelect.selectFirst]
    split
    · rename_i hauto
      exact hs'.pure (fun h => by simp [h.1] at hauto) trivial
    · rename_i hauto
      have hauto : request.autoSelect = true := by simpa using hauto
      split
      · rename_i hmodel
        refine (afterSelect_concludes hobject answers request
          (selectWithValue_concludes hs' answers.selecting request)).congr ?_
        rw [and_iff_right hauto, or_iff_right]
        rintro ⟨h, -⟩
        rw [hmodel] at h
        cases h
      · rename_i hmodel
        refine (afterSelect_concludes hobject answers request
          (select_concludes hs' answers.selecting request)).congr ?_
        rw [and_iff_right hauto, or_iff_left]
        exact fun h => hmodel h.1
  cases hexpired : s.expiredContext with
  | none =>
    have hstate : { s with expiredContext := none } = s := by rw [← hexpired]
    have hrun : session.autoSelect answers request s =
        autoSelect.selectFirst session answers request s := by
      rw [autoSelect, get_bind, hexpired]
    rw [hstate] at hfirst
    rw [bind_congr_run hrun, hstate]
    exact hfirst.congr (by simp)
  | some expired =>
    have hrun : session.autoSelect answers request s =
        (if session.repeatsExpired request expired then
          Pure.pure (some
            { action := .operate
              completion := .timedOut
              controlNumber := expired.mms.controlNumber
              message := "SBO selection timeout expired before Operate." })
        else autoSelect.selectFirst session answers request :
          SessionM (Option ControlActionResult)) { s with expiredContext := none } := by
      rw [autoSelect, get_bind, hexpired]
      rfl
    rw [bind_congr_run hrun]
    by_cases hrepeats : session.repeatsExpired request expired = true
    · rw [if_pos hrepeats]
      exact hs'.pure (fun h => by simp [h.1 expired rfl] at hrepeats) trivial
    · rw [if_neg hrepeats]
      exact hfirst.congr (by simp [hrepeats])

theorem operate_concludes (hs : session.Settled s) (answers : OperateAnswers Context)
    (request : ControlRequest) :
    session.Concludes (session.OperateAbandoned s answers request) AnyResult
      (session.operate answers request s) := by
  rw [operate]
  split
  · rename_i hready
    exact hs.pure (fun h => by simp [h.1] at hready) trivial
  rename_i hready
  have hready : session.descriptor.operationallyReady = true := by simpa using hready
  have hobject : session.descriptor.object.valid = true := by
    simp only [ControlObjectDescriptor.operationallyReady, Bool.and_eq_true] at hready
    exact hready.1.1.1.1.1.1.1
  split
  · rename_i htimed
    exact hs.pure (fun h => by simp [h.2.1] at htimed) trivial
  rename_i htimed
  split
  · rename_i hdown
    exact hs.pure (fun h => by simp [h.2.2.1] at hdown) trivial
  rename_i hup
  have hup : answers.associated = true := by simpa using hup
  have habandoned : session.OperateAbandoned s answers request ↔
      session.AutoSelectAbandoned s answers request ∨ session.DirectAbandoned s answers request := by
    rw [OperateAbandoned, and_iff_right hready, and_iff_right (by simpa using htimed),
      and_iff_right hup]
  change session.Concludes _ _ ((if session.descriptor.requiresSelect && s.activeContext.isNone
    then session.autoSelect answers request >>= session.afterSelect answers request
    else session.operateSelected answers request) s)
  split
  · rename_i hselect
    obtain ⟨hrequires, hnone⟩ : session.descriptor.requiresSelect = true ∧
        s.activeContext = none := by simpa using hselect
    have hdirect : ¬session.DirectAbandoned s answers request := by
      rintro ⟨hmodel, -⟩
      rw [ControlObjectDescriptor.requiresSelect, hmodel] at hrequires
      cases hrequires
    refine (autoSelect_concludes hs hobject answers request).congr ?_
    rw [habandoned, or_iff_left hdirect, AutoSelectAbandoned, and_iff_right hrequires,
      and_iff_right hnone]
  · rename_i hselect
    refine (operateSelected_concludes hs hobject answers request).congr ?_
    rw [habandoned, or_iff_right]
    rintro ⟨hrequires, hnone, -⟩
    simp [hrequires, hnone] at hselect

theorem cancel_concludes (hs : session.Settled s) (answers : CancelAnswers Context) :
    session.Concludes False AnyResult (session.cancel answers s) := by
  rw [cancel, get_bind]
  cases hactive : s.activeContext with
  | none => exact hs.pure id trivial
  | some context =>
    cases hspecification : session.descriptor.cancelSpecification with
    | none => exact concludes_released hs.1 id fun _ _ => trivial
    | some specification =>
      let result := session.planner.cancel answers.policy s.planner session.client 0
      have hs' : session.Settled { s with planner := result.2 } :=
        hs.refused (cancel_cases session answers.policy s.planner)
      change session.Concludes _ _ ((if !result.1.accepted then
        Pure.pure (fromPlannerRejection result.1) else _ : SessionM ControlActionResult)
          { s with planner := result.2 })
      split
      · exact hs'.pure id trivial
      · refine Concludes.answer (fun thrown _ => hs'.throw id thrown) fun value _ => ?_
        cases value.built with
        | none => exact concludes_released hs'.1 id fun _ _ => trivial
        | some content =>
          refine Concludes.answer (fun thrown _ => hs'.throw id thrown) fun write _ => ?_
          change session.Concludes _ _ ((if !write.success then
            Pure.pure (writeFailure .cancel context write none) else _ : SessionM _)
              { s with
                planner := GuardedControlPlanner.onAssociationClosed result.2 session.associationId
                activeContext := none })
          split
          · exact concludes_released hs'.1 id fun _ _ => trivial
          · exact concludes_released hs'.1 id fun _ _ => trivial

/-! ## Runs -/

/-- The state that a call leaves. -/
theorem Concludes.left {abandoned : Prop} {m : SessionM ControlActionResult}
    (h : session.Concludes abandoned post (m s)) :
    let left := match (some <$> m : SessionM (Option ControlActionResult)) s with
      | .ok _ s' => s'
      | .error _ s' => s'
    session.Owned left.planner ∧ (Agrees left ↔ ¬abandoned) := by
  intro left
  have hleft : left = match m s with
      | .ok _ s' => s'
      | .error _ s' => s' := by
    change (match EStateM.map some m s with
      | .ok _ s' => s'
      | .error _ s' => s') = _
    rw [EStateM.map]
    cases m s with
    | ok result s' => rfl
    | error thrown s' => rfl
  rw [hleft]
  cases hrun : m s with
  | ok result s' =>
    rw [hrun] at h
    exact ⟨h.1, ⟨fun _ => h.2.2.1, fun _ => h.2.1⟩⟩
  | error thrown s' =>
    rw [hrun] at h
    exact h

/-- **One call**: the planner and the session agree after it, unless it is an abandoned one. -/
theorem step_agrees (hs : session.Settled s) (call : SessionCall Context) :
    session.Owned (session.step s call).planner ∧
      (Agrees (session.step s call) ↔ ¬session.Abandoned s call) := by
  cases call with
  | select answers request => exact (select_concludes hs answers request).left
  | selectWithValue answers request => exact (selectWithValue_concludes hs answers request).left
  | operate answers request => exact (operate_concludes hs answers request).left
  | cancel answers => exact (cancel_concludes hs answers).left
  | onAssociationClosed =>
    exact ⟨owned_of_not_held hs.1.released, ⟨fun _ => id, fun _ => agrees_of_not_held hs.1.released⟩⟩

/-- **A session never wedges as long as no call leaves the planner behind**: in every run, the
planner and the session agree after all calls if and only if none of them is abandoned. -/
theorem session_agrees_iff (session : ControlObjectSession Context)
    (calls : List (SessionCall Context)) :
    (∀ i ≤ calls.length, Agrees (stateAt session.step {} calls i)) ↔
      Along session.step (fun s call => ¬session.Abandoned s call) {} calls :=
  stateAt_iff_along (fun s => session.Owned s.planner) Agrees
    (fun _ call howned hagrees => step_agrees ⟨howned, hagrees⟩ call)
    (owned_of_not_held (by simp [GuardedControlState.Held]))
    (agrees_of_not_held (by simp [GuardedControlState.Held])) calls

/-! ## A selection that stays -/

/-- A switch with selection and normal security, and a policy that allows everything. Of the
builder, the run below only uses the value of a boolean. -/
def switchSession : ControlObjectSession Unit where
  descriptor :=
    { object :=
        { domain := ascii "LD0", logicalNode := ascii "CSWI1", dataObjectPath := ascii "Pos" }
      model := .selectBeforeOperateNormal
      ctlValSpecification := { kind := .boolean }
      operateSpecification :=
        { kind := .struct
          children := [{ kind := .boolean, name := ascii "ctlVal" },
            { kind := .utcTime, name := ascii "T" }] }
      cancelSpecification := some { kind := .struct } }
  options := { guardedPolicy := { authorize := some fun _ _ _ _ _ => true } }
  associationId := 1
  builder :=
    { bindControlValue := fun value specification =>
        match value, specification.kind with
        | .boolean value, .boolean => .ok { status := .ok, value := some (.boolean value) }
        | _, _ => .ok { status := .unsupportedControlValue, path := "ctlVal" }
      buildOperate := fun _ _ _ => .ok { path := "service" }
      buildSelectWithValue := fun _ _ _ => .ok { path := "service" }
      buildCancel := fun _ _ _ => .ok { path := "service" } }

/-- A select whose Read is answered so. -/
def selectAnswered (answer : Except Thrown (Option Mms.MmsDataValue)) : SessionCall Unit :=
  .select
    { associated := true
      created := 0
      systemNow := 0
      policy := ()
      read := fun _ => answer
      clearInformationReports := .ok ()
      write := fun _ _ => .ok {}
      wait := {} } {}

/-- The peer rejects the Read, which throws. -/
def rejectedRead : Except Thrown (Option Mms.MmsDataValue) :=
  .error (.other "MMS Read rejected for LD0/CSWI1$CO$Pos$SBO (PDU kind=5).")

/-- After a Read that throws, the object stays selected without a context, and the next select is
refused as object already selected, whatever the peer would answer. -/
theorem rejected_read_wedges :
    (¬∀ (session : ControlObjectSession Unit) (calls : List (SessionCall Unit)),
      ∀ i ≤ calls.length, Agrees (stateAt session.step {} calls i)) ∧
    ∃ s', switchSession.run (selectAnswered (.ok (some (.boolean true))))
        (switchSession.step {} (selectAnswered rejectedRead)) =
      .ok (some (fromPlannerRejection
        { status := .objectAlreadySelected
          action := .select
          controlNumber := 1
          addCause := .objectAlreadySelected })) s' := by
  refine ⟨fun h => ?_, _, rfl⟩
  have hagrees := h switchSession [selectAnswered rejectedRead] 1 (by simp)
  exact absurd (hagrees (.inl rfl)) (by decide)

end ControlObjectSession

end ArStack.Control
