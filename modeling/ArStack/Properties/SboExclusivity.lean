import ArStack.Lib.Run
import ArStack.Spec.SboSelection

/-!
# Exclusive and single-use selection

Any number of associations select, operate, cancel and close, one operation at a time and at
times that do not decrease. An observer who sees the requests and their results keeps the
selection that each association has been granted and has not used, cancelled or closed.

* `sboInv_step` — the selection in the shared words is the observer's only live one
* `sbo_exclusive` — what every accepted Oper and Cancel rests on
* `timestamp_differs` — an accepted Oper with another time stamp than its SBOw
-/

namespace ArStack.Mms

open ArStack.Lib ArStack.Wire

open MmsStaticDirectBooleanControlBinding

/-- A control with the bindings of its associations. -/
structure SboDevice where
  shared : MmsStaticDirectBooleanSharedState := {}
  states : UInt64 → MmsStaticDirectBooleanControlState := fun _ => {}

/-- A selection that was granted: when, until when, and for which command. -/
structure Grant where
  nowMs : UInt64
  deadlineMs : UInt64
  command : Option MmsStaticDirectBooleanOperate
  deriving DecidableEq

/-- An operation of an association, or the end of a termination that was owed to it. -/
inductive SboEvent where
  | serve (association : UInt64) (input : ControlInput) (request : ControlRequest)
  | terminated (association : UInt64)

/-- The device, the grants that the observer keeps, and the time of the last operation. -/
structure Observed where
  device : SboDevice
  grants : UInt64 → Option Grant := fun _ => none
  clockMs : UInt64 := 0

section

variable (config : UInt64 → MmsStaticDirectBooleanControlBinding)

/-- The binding of an association. -/
def bindingOf (association : UInt64) : MmsStaticDirectBooleanControlBinding :=
  { config association with associationId := association }

/-- The result of an operation and the device after it. -/
def SboDevice.serve (device : SboDevice) (association : UInt64) (input : ControlInput)
    (request : ControlRequest) : ControlResult × SboDevice :=
  let ((result, state), shared) := alone input
    ((bindingOf config association).serve (device.states association) request) device.shared
  (result, { shared, states := Function.update device.states association state })

/-- What the observer concludes from a request and its result. -/
def grantAfter (association nowMs : UInt64) (before : Option Grant) :
    ControlRequest → ControlResult → Option Grant
  | .read _, .read true _ =>
    some ⟨nowMs, nowMs + (config association).sboTimeoutMs, none⟩
  | .sbow encodedData _, .write ⟨true, _⟩ =>
    some ⟨nowMs, nowMs + (config association).sboTimeoutMs,
      tryDecodeStaticDirectBooleanOperate encodedData⟩
  | .oper _ _, .write ⟨true, _⟩ => none
  | .cancel _ _, .write ⟨true, _⟩ => none
  | .close, .closed => none
  | _, _ => before

/-- The result of an event. -/
def Observed.result (o : Observed) : SboEvent → Option ControlResult
  | .serve association input request => some (o.device.serve config association input request).1
  | .terminated _ => none

/-- The event is a request that is accepted. -/
def Observed.accepts (o : Observed) (event : SboEvent) : Bool :=
  (o.result config event).elim false ControlResult.accepted

def sboStep (o : Observed) : SboEvent → Observed
  | .serve association input request =>
    let (result, device) := o.device.serve config association input request
    { device
      grants := Function.update o.grants association
        (grantAfter config association input.nowMs (o.grants association) request result)
      clockMs := input.nowMs }
  | .terminated association =>
    { o with
      device := { o.device with
        states := Function.update o.device.states association
          { o.device.states association with pendingTermination := false } } }

/-- Time does not decrease. -/
def Forward (o : Observed) : SboEvent → Prop
  | .serve _ input _ => o.clockMs ≤ input.nowMs
  | .terminated _ => True

instance (o : Observed) (event : SboEvent) : Decidable (Forward o event) :=
  match event with
  | .serve _ _ _ => inferInstanceAs (Decidable (_ ≤ _))
  | .terminated _ => .isTrue trivial

/-- The association asks for a selection. -/
def SboEvent.Selects (association : UInt64) : SboEvent → Prop
  | .serve a _ (.read _) | .serve a _ (.sbow _ _) => a = association
  | _ => False

/-- The grant is in force. -/
def Grant.Live (grant : Grant) (nowMs : UInt64) : Prop :=
  deadlinePassed grant.deadlineMs nowMs = false

end

/-! ## The invariant -/

section Invariant

variable {config : UInt64 → MmsStaticDirectBooleanControlBinding}

/-- What the observer keeps is what the shared words and the local states hold: the owner's
grant has the deadline of the words, and every other grant has expired. -/
structure SboInv (config : UInt64 → MmsStaticDirectBooleanControlBinding) (o : Observed) :
    Prop where
  owner : ∀ a, o.device.shared.selectedAssociationId = a → a ≠ 0 → ∃ grant,
    o.grants a = some grant ∧ o.device.shared.selectionDeadlineMs = grant.deadlineMs ∧
      ((config a).model = .sboEnhanced → ∃ command, grant.command = some command ∧
        remembered (o.device.states a) = (true, command))
  others : ∀ a grant, o.grants a = some grant → a ≠ o.device.shared.selectedAssociationId →
    deadlinePassed grant.deadlineMs o.clockMs = true
  term : ∀ a grant, o.grants a = some grant → a ≠ 0 ∧ (config a).sboTimeoutMs ≠ 0 ∧
    grant.deadlineMs = grant.nowMs + (config a).sboTimeoutMs

theorem sboInv_start {device : SboDevice} (hfree : device.shared.selectedAssociationId = 0) :
    SboInv config { device } :=
  ⟨fun _ howner hne => absurd (howner.symm.trans hfree) hne, nofun, nofun⟩

/-- A deadline that has passed stays passed. -/
theorem deadlinePassed_mono {deadline t t' : UInt64} (hle : t ≤ t')
    (h : deadlinePassed deadline t = true) : deadlinePassed deadline t' = true := by
  rw [deadlinePassed, Bool.and_eq_true, decide_eq_true_eq] at h ⊢
  exact ⟨h.1, UInt64.le_trans h.2 hle⟩

/-- An operation that changes neither the words nor the owner's grant keeps the invariant. -/
theorem SboInv.unchanged {o : Observed} (h : SboInv config o) {a now : UInt64}
    {state : MmsStaticDirectBooleanControlState} {shared : MmsStaticDirectBooleanSharedState}
    {grants : UInt64 → Option Grant}
    (hgrants : ∀ b grant, grants b = some grant → o.grants b = some grant)
    (hkeep : ∀ b, o.device.shared.selectedAssociationId = b → b ≠ 0 → grants b = o.grants b)
    (hclock : o.clockMs ≤ now)
    (hstate : o.device.shared.selectedAssociationId = a → a ≠ 0 →
      remembered state = remembered (o.device.states a))
    (hwords : words shared = words o.device.shared) :
    SboInv config
      { device := { shared, states := Function.update o.device.states a state }
        grants := grants
        clockMs := now } := by
  obtain ⟨howner, hdeadline⟩ := Prod.mk.inj hwords
  refine ⟨fun b hb hne => ?_, fun b grant hgrant hne => ?_,
    fun b grant hgrant => h.term b grant (hgrants b grant hgrant)⟩
  · have hb' : o.device.shared.selectedAssociationId = b := howner.symm.trans hb
    obtain ⟨grant, hgrant, hwith, hcommand⟩ := h.owner b hb' hne
    refine ⟨grant, (hkeep b hb' hne).trans hgrant, hdeadline.trans hwith, fun hmodel => ?_⟩
    obtain ⟨command, hsome, hremembered⟩ := hcommand hmodel
    refine ⟨command, hsome, ?_⟩
    by_cases hba : b = a
    · subst hba
      dsimp only
      rw [Function.update_self, hstate hb' hne, hremembered]
    · dsimp only
      rw [Function.update_of_ne hba, hremembered]
  · dsimp only at hne
    rw [howner] at hne
    exact deadlinePassed_mono hclock (h.others b grant (hgrants b grant hgrant) hne)

/-- Clearing the words keeps the invariant when the owner's grant is gone or has expired. -/
theorem SboInv.cleared {o : Observed} (h : SboInv config o) {now : UInt64}
    {states : UInt64 → MmsStaticDirectBooleanControlState}
    {shared : MmsStaticDirectBooleanSharedState} {grants : UInt64 → Option Grant}
    (hclock : o.clockMs ≤ now) (hfree : shared.selectedAssociationId = 0)
    (hgrants : ∀ a grant, grants a = some grant → o.grants a = some grant)
    (howner : ∀ a grant, o.device.shared.selectedAssociationId = a → grants a = some grant →
      deadlinePassed grant.deadlineMs now = true) :
    SboInv config { device := { shared, states }, grants, clockMs := now } := by
  refine ⟨fun b hb hne => absurd (hb.symm.trans hfree) hne, fun b grant hgrant _ => ?_,
    fun b grant hgrant => h.term b grant (hgrants b grant hgrant)⟩
  by_cases hb : o.device.shared.selectedAssociationId = b
  · exact howner b grant hb hgrant
  · exact deadlinePassed_mono hclock (h.others b grant (hgrants b grant hgrant) (Ne.symm hb))

/-- A new selection keeps the invariant: every other grant has expired. -/
theorem SboInv.acquired {o : Observed} (h : SboInv config o) {a now : UInt64}
    {state : MmsStaticDirectBooleanControlState} {command : Option MmsStaticDirectBooleanOperate}
    (hclock : o.clockMs ≤ now) (hacquire : (bindingOf config a).CanAcquire o.device.shared now)
    (hcommand : (config a).model = .sboEnhanced → ∃ operate, command = some operate ∧
      remembered state = (true, operate)) :
    SboInv config
      { device :=
          { shared := (bindingOf config a).selectedAt o.device.shared now
            states := Function.update o.device.states a state }
        grants := Function.update o.grants a
          (some ⟨now, now + (config a).sboTimeoutMs, command⟩)
        clockMs := now } := by
  obtain ⟨hid, htimeout, hfree⟩ := hacquire
  refine ⟨fun b hb _ => ?_, fun b grant hgrant hne => ?_, fun b grant hgrant => ?_⟩
  · obtain rfl : a = b := hb
    refine ⟨_, Function.update_self .., rfl, fun hmodel => ?_⟩
    dsimp only
    rw [Function.update_self]
    exact hcommand hmodel
  · have hba : b ≠ a := hne
    dsimp only at hgrant
    rw [Function.update_of_ne hba] at hgrant
    by_cases hb : o.device.shared.selectedAssociationId = b
    · -- the previous owner had to be expired
      obtain ⟨hne0, -, -⟩ := h.term b grant hgrant
      obtain ⟨grant', hgrant', hdeadline, -⟩ := h.owner b hb hne0
      obtain rfl := Option.some.inj (hgrant.symm.trans hgrant')
      rcases hfree with hown | hzero | hpassed
      · exact absurd (hb.symm.trans hown) hba
      · exact absurd (hb.symm.trans hzero) hne0
      · rwa [hdeadline] at hpassed
    · exact deadlinePassed_mono hclock (h.others b grant hgrant (Ne.symm hb))
  · dsimp only at hgrant
    by_cases hba : b = a
    · subst hba
      rw [Function.update_self] at hgrant
      obtain rfl := Option.some.inj hgrant
      exact ⟨hid, htimeout, rfl⟩
    · rw [Function.update_of_ne hba] at hgrant
      exact h.term b grant hgrant

/-- A refusal tells the observer nothing. -/
theorem grantAfter_refused {a now : UInt64} {before : Option Grant} {request : ControlRequest}
    {result : ControlResult} (h : result.accepted = false) :
    grantAfter config a now before request result = before := by
  cases result with
  | closed => cases h
  | read acquired encoded =>
    obtain rfl : acquired = false := h
    cases request <;> rfl
  | write written =>
    obtain ⟨success, code⟩ := written
    obtain rfl : success = false := h
    cases request <;> rfl

/-- **Step of the selection.** -/
theorem sboInv_step (hsbo : ∀ a, (config a).requiresSelection = true) {o : Observed}
    {event : SboEvent} (hforward : Forward o event) (h : SboInv config o) :
    SboInv config (sboStep config o event) := by
  cases event with
  | terminated a =>
    exact h.unchanged (fun _ _ hgrant => hgrant) (fun _ _ _ => rfl) (UInt64.le_refl _)
      (fun _ _ => rfl) rfl
  | serve a input request =>
    have hserved := served_alone (bindingOf config a) input o.device.shared (o.device.states a)
      (hsbo a) request
    simp only [sboStep, SboDevice.serve]
    generalize alone input ((bindingOf config a).serve (o.device.states a) request)
      o.device.shared = served at hserved ⊢
    obtain ⟨⟨result, state⟩, shared⟩ := served
    have hsome (b : UInt64) (grant : Grant) (hgrant : Function.update o.grants a none b = some grant) :
        o.grants b = some grant := by
      by_cases hba : b = a
      · rw [hba, Function.update_self] at hgrant
        cases hgrant
      · rwa [Function.update_of_ne hba] at hgrant
    have hnone {grant : Grant} (b : UInt64) (hb : b = a) :
        Function.update o.grants a none b ≠ some grant := by
      rw [hb, Function.update_self]
      exact nofun
    cases hserved with
    | refused _ _ _ _ hresult hstate hwords =>
      rw [grantAfter_refused hresult, Function.update_eq_self]
      exact h.unchanged (fun _ _ hgrant => hgrant) (fun _ _ _ => rfl) hforward
        (fun _ _ => hstate) hwords
    | lapsed _ _ _ _ hresult howner hpassed hwords =>
      rw [grantAfter_refused hresult, Function.update_eq_self]
      refine h.cleared hforward (congrArg Prod.fst hwords) (fun _ _ hgrant => hgrant) ?_
      intro b grant hb hgrant
      obtain ⟨hne, -, -⟩ := h.term b grant hgrant
      obtain ⟨grant', hgrant', hdeadline, -⟩ := h.owner b hb hne
      obtain rfl := Option.some.inj (hgrant.symm.trans hgrant')
      rwa [hdeadline] at hpassed
    | selected destinationSize result _ hmodel hacquire =>
      exact h.acquired hforward hacquire fun henhanced => by
        have heq : (config a).model = .sboNormal := hmodel
        rw [henhanced] at heq
        cases heq
    | selectedWithValue encodedData access command _ hdecode hstate hacquire =>
      exact h.acquired hforward hacquire fun _ => ⟨command, hdecode, hstate⟩
    | operated encodedData access command _ _ hdecode hholds hmatches hwords =>
      refine h.cleared hforward (congrArg Prod.fst hwords) hsome fun b grant hb hgrant => ?_
      exact absurd hgrant (hnone b (hb.symm.trans hholds.owner))
    | cancelled encodedData access command _ hdecode hholds hmatches =>
      refine h.cleared hforward rfl hsome fun b grant hb hgrant => ?_
      exact absurd hgrant (hnone b (hb.symm.trans hholds.owner))
    | closed _ _ hshared =>
      split at hshared
      · rename_i hown
        rw [hshared]
        refine h.cleared hforward rfl hsome fun b grant hb hgrant => ?_
        exact absurd hgrant (hnone b (hb.symm.trans hown.2))
      · rename_i hother
        have hnotowner (hb : o.device.shared.selectedAssociationId = a) (hne : a ≠ 0) : False :=
          hother ⟨hne, hb⟩
        refine h.unchanged hsome (fun b hb hne => Function.update_of_ne (fun hba => ?_) _ _) hforward
          (fun hb hne => (hnotowner hb hne).elim) (by rw [hshared])
        subst hba
        exact hnotowner hb hne

/-! ## What an accepted command rests on -/

/-- A grant in force is younger than the timeout. -/
theorem lt_of_live {start timeout now : UInt64} (htimeout : timeout ≠ 0)
    (h : deadlinePassed (start + timeout) now = false) :
    now.toNat < start.toNat + timeout.toNat := by
  have hpos : timeout.toNat ≠ 0 := fun hzero => htimeout (UInt64.toNat_inj.mp hzero)
  have hnow := now.toNat_lt
  by_contra hle
  -- the sum does not wrap, because it is at most the present
  have hsum : (start + timeout).toNat = start.toNat + timeout.toNat := by
    rw [UInt64.toNat_add]
    exact Nat.mod_eq_of_lt (by omega)
  have hne : start + timeout ≠ 0 := by
    intro hzero
    rw [hzero] at hsum
    have h0 : (0 : UInt64).toNat = 0 := rfl
    omega
  have hge : now ≥ start + timeout := UInt64.le_iff_toNat_le.mpr (by omega)
  rw [deadlinePassed, decide_eq_true hge, Bool.and_true, bne_eq_false_iff_eq] at h
  exact hne h

/-- The device lets a command pass on the observer's grant. -/
theorem SboInv.granted {o : Observed} (h : SboInv config o) {a now : UInt64}
    (hholds : (bindingOf config a).Holds o.device.shared now) :
    ∃ grant, o.grants a = some grant ∧ grant.Live now ∧
      now.toNat < grant.nowMs.toNat + (config a).sboTimeoutMs.toNat ∧
      ((config a).model = .sboEnhanced → ∃ selected, grant.command = some selected ∧
        remembered (o.device.states a) = (true, selected)) := by
  obtain ⟨hid, howner, hlive⟩ := hholds
  obtain ⟨grant, hgrant, hdeadline, hcommand⟩ := h.owner a howner hid
  obtain ⟨-, htimeout, hterm⟩ := h.term a grant hgrant
  have hlive' : grant.Live now := by rwa [Grant.Live, ← hdeadline]
  refine ⟨grant, hgrant, hlive', ?_, hcommand⟩
  rw [Grant.Live, hterm] at hlive'
  exact lt_of_live htimeout hlive'

/-- **An accepted Oper** is the observer's selection, used in time. -/
theorem SboInv.oper_accepted (hsbo : ∀ a, (config a).requiresSelection = true) {o : Observed}
    (h : SboInv config o) {a : UInt64} {input : ControlInput} {encodedData : Bytes}
    {access : Option MmsStaticRequestAccessContext}
    (haccepts : o.accepts config (.serve a input (.oper encodedData access)) = true) :
    ∃ grant command, o.grants a = some grant ∧ grant.Live input.nowMs ∧
      input.nowMs.toNat < grant.nowMs.toNat + (config a).sboTimeoutMs.toNat ∧
      tryDecodeStaticDirectBooleanOperate encodedData = some command ∧
      ((config a).model = .sboEnhanced → ∃ selected, grant.command = some selected ∧
        { selected with timestamp := command.timestamp } = command) := by
  have hserved := served_alone (bindingOf config a) input o.device.shared (o.device.states a)
    (hsbo a) (.oper encodedData access)
  simp only [Observed.accepts, Observed.result, SboDevice.serve, Option.elim] at haccepts
  generalize alone input ((bindingOf config a).serve (o.device.states a) _) o.device.shared =
    served at hserved haccepts
  obtain ⟨⟨result, state⟩, shared⟩ := served
  cases hserved with
  | refused _ _ _ _ hresult => exact absurd (hresult.symm.trans haccepts) nofun
  | lapsed _ _ _ _ hresult => exact absurd (hresult.symm.trans haccepts) nofun
  | operated _ _ command _ _ hdecode hholds hmatches _ =>
    obtain ⟨grant, hgrant, hlive, hterm, hcommand⟩ := h.granted hholds
    refine ⟨grant, command, hgrant, hlive, hterm, hdecode, fun hmodel => ?_⟩
    obtain ⟨selected, hselected, hremembered⟩ := hcommand hmodel
    obtain ⟨-, hsequence⟩ := hmatches hmodel
    refine ⟨selected, hselected, ?_⟩
    rw [← (Prod.mk.inj hremembered).2]
    exact sameSelectedSequence_oper hsequence

/-- **An accepted Cancel** likewise; it has no Check bits. -/
theorem SboInv.cancel_accepted (hsbo : ∀ a, (config a).requiresSelection = true) {o : Observed}
    (h : SboInv config o) {a : UInt64} {input : ControlInput} {encodedData : Bytes}
    {access : MmsStaticRequestAccessContext}
    (haccepts : o.accepts config (.serve a input (.cancel encodedData access)) = true) :
    ∃ grant command, o.grants a = some grant ∧ grant.Live input.nowMs ∧
      input.nowMs.toNat < grant.nowMs.toNat + (config a).sboTimeoutMs.toNat ∧
      tryDecodeStaticBooleanCancel encodedData = some command ∧
      ((config a).model = .sboEnhanced → ∃ selected, grant.command = some selected ∧
        { selected with
          timestamp := command.timestamp
          synchroCheck := command.synchroCheck
          interlockCheck := command.interlockCheck } = command) := by
  have hserved := served_alone (bindingOf config a) input o.device.shared (o.device.states a)
    (hsbo a) (.cancel encodedData access)
  simp only [Observed.accepts, Observed.result, SboDevice.serve, Option.elim] at haccepts
  generalize alone input ((bindingOf config a).serve (o.device.states a) _) o.device.shared =
    served at hserved haccepts
  obtain ⟨⟨result, state⟩, shared⟩ := served
  cases hserved with
  | refused _ _ _ _ hresult => exact absurd (hresult.symm.trans haccepts) nofun
  | lapsed _ _ _ _ hresult => exact absurd (hresult.symm.trans haccepts) nofun
  | cancelled _ _ command _ hdecode hholds hmatches =>
    obtain ⟨grant, hgrant, hlive, hterm, hcommand⟩ := h.granted hholds
    refine ⟨grant, command, hgrant, hlive, hterm, hdecode, fun hmodel => ?_⟩
    obtain ⟨selected, hselected, hremembered⟩ := hcommand hmodel
    obtain ⟨-, hsequence⟩ := hmatches hmodel
    refine ⟨selected, hselected, ?_⟩
    rw [← (Prod.mk.inj hremembered).2]
    exact sameSelectedSequence_cancel hsequence

/-- Two grants in force are one. -/
theorem SboInv.exclusive {o : Observed} (h : SboInv config o) {a b now : UInt64}
    {grant grant' : Grant} (hclock : o.clockMs ≤ now) (ha : o.grants a = some grant)
    (hb : o.grants b = some grant') (hlive : grant.Live now) (hlive' : grant'.Live now) :
    a = b := by
  have howner (c : UInt64) (g : Grant) (hc : o.grants c = some g) (hg : g.Live now) :
      c = o.device.shared.selectedAssociationId := by
    by_contra hne
    have hpassed := deadlinePassed_mono hclock (h.others c g hc hne)
    exact absurd (hpassed.symm.trans hg) nofun
  exact (howner a grant ha hlive).trans (howner b grant' hb hlive').symm

/-- An accepted Oper uses the grant up. -/
theorem grants_of_oper {o : Observed} {a : UInt64} {input : ControlInput} {encodedData : Bytes}
    {access : Option MmsStaticRequestAccessContext}
    (haccepts : o.accepts config (.serve a input (.oper encodedData access)) = true) :
    (sboStep config o (.serve a input (.oper encodedData access))).grants a = none := by
  simp only [Observed.accepts, Observed.result, Option.elim] at haccepts
  simp only [sboStep, Function.update_self]
  have hwrite : ∃ written, (o.device.serve config a input (.oper encodedData access)).1 =
      .write written := by
    cases access <;> exact ⟨_, congrArg (fun served => served.1.1) (alone_write _)⟩
  obtain ⟨⟨success, code⟩, hresult⟩ := hwrite
  rw [hresult] at haccepts ⊢
  obtain rfl : success = true := haccepts
  rfl

/-- A grant appears when its association selects. -/
theorem selects_of_grants {o : Observed} {event : SboEvent} {a : UInt64}
    (hbefore : o.grants a = none) (hafter : (sboStep config o event).grants a ≠ none) :
    event.Selects a ∧ o.accepts config event = true := by
  cases event with
  | terminated b => exact absurd hbefore hafter
  | serve b input request =>
    by_cases hab : a = b
    · subst hab
      simp only [sboStep, Function.update_self, hbefore] at hafter
      simp only [Observed.accepts, Observed.result, Option.elim]
      generalize (o.device.serve config a input request).1 = result at hafter ⊢
      unfold grantAfter at hafter
      split at hafter
      · exact ⟨rfl, rfl⟩
      · exact ⟨rfl, rfl⟩
      all_goals exact absurd rfl hafter
    · simp only [sboStep, Function.update_of_ne hab] at hafter
      exact absurd hbefore hafter

end Invariant

/-! ## Main theorem -/

section

variable (config : UInt64 → MmsStaticDirectBooleanControlBinding)

/-- What is observed before event `i` of a run. -/
def observedAt (device : SboDevice) (es : List SboEvent) (i : Nat) : Observed :=
  stateAt (sboStep config) { device } es i

variable {config}

theorem sboInv_observedAt (hsbo : ∀ a, (config a).requiresSelection = true) {device : SboDevice}
    (hfree : device.shared.selectedAssociationId = 0) {es : List SboEvent}
    (hforward : Along (sboStep config) Forward { device } es) (i : Nat) :
    SboInv config (observedAt config device es i) := by
  rw [← List.take_append_drop i es] at hforward
  exact exec_invariant_where (SboInv config) (fun _ _ hok hi => sboInv_step hsbo hok hi)
    (sboInv_start hfree) (along_append.mp hforward).1

/-- Between two accepted Opers of an association it has selected again. -/
theorem selects_between (hsbo : ∀ a, (config a).requiresSelection = true) {device : SboDevice}
    (hfree : device.shared.selectedAssociationId = 0) {es : List SboEvent}
    (hforward : Along (sboStep config) Forward { device } es) {i j : Nat} {a : UInt64}
    {input input' : ControlInput} {encodedData encodedData' : Bytes}
    {access access' : Option MmsStaticRequestAccessContext} (hij : i < j)
    (hi : es[i]? = some (.serve a input (.oper encodedData access)))
    (hacci : (observedAt config device es i).accepts config
      (.serve a input (.oper encodedData access)) = true)
    (hj : es[j]? = some (.serve a input' (.oper encodedData' access')))
    (haccj : (observedAt config device es j).accepts config
      (.serve a input' (.oper encodedData' access')) = true) :
    ∃ k event, i < k ∧ k < j ∧ es[k]? = some event ∧ event.Selects a ∧
      (observedAt config device es k).accepts config event = true := by
  obtain ⟨hilt, hieq⟩ := List.getElem?_eq_some_iff.mp hi
  obtain ⟨hjlt, -⟩ := List.getElem?_eq_some_iff.mp hj
  have hused : (observedAt config device es (i + 1)).grants a = none := by
    rw [observedAt, stateAt_succ _ hilt, hieq]
    exact grants_of_oper hacci
  have hheld : ¬(observedAt config device es j).grants a = none := by
    obtain ⟨grant, -, hgrant, -⟩ :=
      (sboInv_observedAt hsbo hfree hforward j).oper_accepted hsbo haccj
    rw [hgrant]
    exact nofun
  -- the grant of the second Oper is made in some step between them
  obtain ⟨k, hik, hkj, hnone, hsome⟩ :=
    exists_step_of_change (P := fun o : Observed => o.grants a = none) hij (Nat.le_of_lt hjlt)
      hused hheld
  have hk : k < es.length := by omega
  rw [stateAt_succ _ hk] at hsome
  obtain ⟨hselects, haccepts⟩ := selects_of_grants hnone hsome
  exact ⟨k, es[k], hik, hkj, List.getElem?_eq_getElem hk, hselects, haccepts⟩

variable (config)

/-- **The selection of a control is exclusive and single-use**, operations one at a time. -/
theorem sbo_exclusive (hsbo : ∀ a, (config a).requiresSelection = true) (device : SboDevice)
    (hfree : device.shared.selectedAssociationId = 0) (es : List SboEvent)
    (hforward : Along (sboStep config) Forward { device } es) :
    (∀ i a input encodedData access, es[i]? = some (.serve a input (.oper encodedData access)) →
      (observedAt config device es i).accepts config
        (.serve a input (.oper encodedData access)) = true →
      ∃ grant command, (observedAt config device es i).grants a = some grant ∧
        grant.Live input.nowMs ∧
        input.nowMs.toNat < grant.nowMs.toNat + (config a).sboTimeoutMs.toNat ∧
        tryDecodeStaticDirectBooleanOperate encodedData = some command ∧
        ((config a).model = .sboEnhanced → ∃ selected, grant.command = some selected ∧
          { selected with timestamp := command.timestamp } = command)) ∧
    (∀ i a input encodedData access, es[i]? = some (.serve a input (.cancel encodedData access)) →
      (observedAt config device es i).accepts config
        (.serve a input (.cancel encodedData access)) = true →
      ∃ grant command, (observedAt config device es i).grants a = some grant ∧
        grant.Live input.nowMs ∧
        input.nowMs.toNat < grant.nowMs.toNat + (config a).sboTimeoutMs.toNat ∧
        tryDecodeStaticBooleanCancel encodedData = some command ∧
        ((config a).model = .sboEnhanced → ∃ selected, grant.command = some selected ∧
          { selected with
            timestamp := command.timestamp
            synchroCheck := command.synchroCheck
            interlockCheck := command.interlockCheck } = command)) ∧
    (∀ i a b now grant grant', (observedAt config device es i).clockMs ≤ now →
      (observedAt config device es i).grants a = some grant → grant.Live now →
      (observedAt config device es i).grants b = some grant' → grant'.Live now → a = b) ∧
    ∀ i j a input encodedData access input' encodedData' access', i < j →
      es[i]? = some (.serve a input (.oper encodedData access)) →
      (observedAt config device es i).accepts config
        (.serve a input (.oper encodedData access)) = true →
      es[j]? = some (.serve a input' (.oper encodedData' access')) →
      (observedAt config device es j).accepts config
        (.serve a input' (.oper encodedData' access')) = true →
      ∃ k event, i < k ∧ k < j ∧ es[k]? = some event ∧ event.Selects a ∧
        (observedAt config device es k).accepts config event = true := by
  have hinv (i : Nat) : SboInv config (observedAt config device es i) :=
    sboInv_observedAt hsbo hfree hforward i
  refine ⟨fun i a input encodedData access _ haccepts => (hinv i).oper_accepted hsbo haccepts,
    fun i a input encodedData access _ haccepts => (hinv i).cancel_accepted hsbo haccepts,
    fun i a b now grant grant' hclock ha hlive hb hlive' =>
      (hinv i).exclusive hclock ha hb hlive hlive', ?_⟩
  intro i j a input encodedData access input' encodedData' access' hij hi hacci hj haccj
  exact selects_between hsbo hfree hforward hij hi hacci hj haccj

end

/-! ## A sample run -/

/-- An enhanced control for every association. -/
def sampleControl : UInt64 → MmsStaticDirectBooleanControlBinding :=
  fun _ => { model := .sboEnhanced }

/-- The control structure of `on`, with the control number 1 and this time stamp. -/
def sampleCommand (timestamp : Bytes) : Bytes :=
  [0xA2, 0x1E, 0x83, 0x01, 0xFF, 0xA2, 0x05, 0x85, 0x01, 0x03, 0x89, 0x00, 0x86, 0x01, 0x01,
    0x91, 0x08] ++ timestamp ++ [0x83, 0x01, 0x00, 0x84, 0x02, 0x06, 0x00]

def sampleAccess : MmsStaticRequestAccessContext := { associationId := 7, owner := [0x41] }

/-- Select with value, then operate one second later with a fresh time stamp. -/
def sampleEvents : List SboEvent :=
  [.serve 7 { nowMs := 1000 } (.sbow (sampleCommand [1, 2, 3, 4, 5, 6, 7, 8]) sampleAccess),
    .serve 7 { nowMs := 2000 }
      (.oper (sampleCommand [1, 2, 3, 5, 5, 6, 7, 8]) (some sampleAccess))]

/-- The Oper of the sample run is accepted with another command than its selection recorded. -/
theorem timestamp_differs :
    Along (sboStep sampleControl) Forward { device := {} } sampleEvents ∧
      (observedAt sampleControl {} sampleEvents 1).accepts sampleControl
        (.serve 7 { nowMs := 2000 }
          (.oper (sampleCommand [1, 2, 3, 5, 5, 6, 7, 8]) (some sampleAccess))) = true ∧
      ((observedAt sampleControl {} sampleEvents 1).grants 7).bind Grant.command ≠
        tryDecodeStaticDirectBooleanOperate (sampleCommand [1, 2, 3, 5, 5, 6, 7, 8]) := by
  decide

theorem sbo_exclusive_sample :
    ∃ grant command, (observedAt sampleControl {} sampleEvents 1).grants 7 = some grant ∧
      grant.Live 2000 ∧ (2000 : UInt64).toNat < grant.nowMs.toNat + (10000 : UInt64).toNat ∧
      tryDecodeStaticDirectBooleanOperate (sampleCommand [1, 2, 3, 5, 5, 6, 7, 8]) =
        some command ∧
      (MmsStaticControlModel.sboEnhanced = .sboEnhanced → ∃ selected,
        grant.command = some selected ∧
          { selected with timestamp := command.timestamp } = command) :=
  (sbo_exclusive sampleControl (fun _ => rfl) {} rfl sampleEvents (by decide)).1 1 7
    { nowMs := 2000 } _ _ rfl (by decide)

end ArStack.Mms
