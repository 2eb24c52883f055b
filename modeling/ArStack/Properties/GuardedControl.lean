import ArStack.Control.GuardedControl

/-!
# Guarded control

Any number of clients call the planner of one object.

* `Outcome` — what one call can do
* `ControlSafe` — what is guaranteed of a call, given the calls before it
* `guarded_control_safe` — every run
-/

namespace ArStack.Control

open ArStack.Lib GuardedControlState GuardedControlPlanner

variable {Context : Type}

abbrev ControlStep (Context : Type) :=
  Step GuardedControlState (ControlCall Context) (Option GuardedControlDecision)

/-- The association owns the object. -/
def GuardedControlState.Owns (s : GuardedControlState) (association : UInt64) : Prop :=
  (s.selected = true ∨ s.waitingForTermination = true) ∧ s.ownerAssociationId = association

/-- The association owns the object, and its selection has not expired at the time of a call. -/
def GuardedControlState.OwnsAt (s : GuardedControlState) (nowMs? : Option UInt64)
    (association : UInt64) : Prop :=
  s.Owns association ∧ ∀ nowMs ∈ nowMs?, s.expired nowMs = false

def GuardedControlDecision.terminates (decision : GuardedControlDecision) : Bool :=
  decision.status == .positiveTermination || decision.status == .negativeTermination

/-- A call that asks for a selection. -/
def ControlCall.Selects (call : ControlCall Context) (context : Context) (action : ControlAction)
    (client : ControlClientIdentity) (sequence : ControlSequenceView) (nowMs : UInt64) : Prop :=
  (call = .select context client sequence nowMs ∧ action = .select) ∨
    (call = .selectWithValue context client sequence nowMs ∧ action = .selectWithValue)

/-- The association that the call reports closed. -/
def ControlCall.closes? : ControlCall Context → Option UInt64
  | .onAssociationClosed association => some association
  | _ => none

theorem ControlCall.Selects.closes? {call : ControlCall Context} {context : Context}
    {action : ControlAction} {client : ControlClientIdentity} {sequence : ControlSequenceView}
    {nowMs : UInt64} (h : call.Selects context action client sequence nowMs) :
    call.closes? = none := by
  rcases h with ⟨rfl, -⟩ | ⟨rfl, -⟩ <;> rfl

/-- The action of a call that the policy has to allow, with the sequence it is shown. -/
def ControlCall.Asks (call : ControlCall Context) (context : Context) (action : ControlAction)
    (client : ControlClientIdentity) (sequence : ControlSequenceView) : Prop :=
  (∃ nowMs, call.Selects context action client sequence nowMs) ∨
    (∃ nowMs, call = .operate context client sequence nowMs ∧ action = .operate) ∨
    ∃ nowMs, call = .cancel context client nowMs ∧ action = .cancel ∧ sequence = {}

namespace ControlStep

def Accepted (t : ControlStep Context) : Prop := ∃ d, t.output = some d ∧ d.accepted = true

def Terminates (t : ControlStep Context) : Prop := ∃ d, t.output = some d ∧ d.terminates = true

/-- The client is granted a selection under this number. -/
def Grants (t : ControlStep Context) (client : ControlClientIdentity)
    (sequence : ControlSequenceView) (nowMs : UInt64) (number : UInt8) : Prop :=
  (∃ context action, t.event.Selects context action client sequence nowMs) ∧
    ∃ d, t.output = some d ∧ d.accepted = true ∧ d.controlNumber = number

/-- Another call of a client is accepted, or the association is closed. -/
def Ends (t : ControlStep Context) (association : UInt64) : Prop :=
  t.Accepted ∨ t.event = .onAssociationClosed association

/-- An enhanced command of the association starts. -/
def Waits (t : ControlStep Context) (association : UInt64) : Prop :=
  (∃ context client sequence nowMs, t.event = .operate context client sequence nowMs ∧
    client.associationId = association) ∧
    ∃ d, t.output = some d ∧ d.status = .acceptedWaitingTermination

end ControlStep

open ControlStep

/-- A selection of that time is in force at this time. -/
def GuardedControlPlanner.InForce (planner : GuardedControlPlanner Context)
    (grantedMs nowMs : UInt64) : Prop :=
  planner.policy.sboTimeoutMs = 0 ∨
    nowMs.toNat < grantedMs.toNat + planner.policy.sboTimeoutMs.toNat

/-- A command of the association awaits its termination. -/
def Awaiting (past : List (ControlStep Context)) (association : UInt64) : Prop :=
  ∃ front command mid, past = front ++ command :: mid ∧ Waits command association ∧
    ∀ t ∈ mid, ¬Terminates t ∧ t.event ≠ .onAssociationClosed association

/-- The selection that an operate of the client uses: it is in force, at every call since and now,
and nothing has ended it. -/
def Selection (planner : GuardedControlPlanner Context) (past : List (ControlStep Context))
    (client : ControlClientIdentity) (sequence : ControlSequenceView) (nowMs : UInt64) : Prop :=
  ∃ front grant mid granted grantedMs number,
    past = front ++ grant :: mid ∧ Grants grant client granted grantedMs number ∧
      sequenceMatches sequence (fingerprint granted number) = true ∧
      planner.InForce grantedMs nowMs ∧
      ∀ t ∈ mid, ¬Ends t client.associationId ∧ ∀ m ∈ t.event.nowMs?, planner.InForce grantedMs m

/-- What is guaranteed of a call after the calls of `past`. -/
structure ControlSafe (planner : GuardedControlPlanner Context) (past : List (ControlStep Context))
    (t : ControlStep Context) : Prop where
  oneOwner : ∀ a b, t.before.OwnsAt t.event.nowMs? a → t.after.Owns b → a = b
  idle : t.after.selected = false → t.after.waitingForTermination = false →
    t.after.ownerAssociationId = 0
  operateSelected : modelRequiresSelect planner.model → ∀ context client sequence nowMs,
    t.event = .operate context client sequence nowMs → Accepted t →
      Selection planner past client sequence nowMs
  refusedWhileWaiting : (∃ association, Awaiting past association) →
    (∃ context action client sequence nowMs, t.event.Selects context action client sequence nowMs ∨
      t.event = .operate context client sequence nowMs) → ¬Accepted t
  terminated : Terminates t → ∃ front command mid association, past = front ++ command :: mid ∧
    Waits command association ∧ ∀ u ∈ mid, ¬Terminates u
  authorized : Accepted t → ¬Terminates t → ∃ context action client sequence,
    t.event.Asks context action client sequence ∧
      planner.authorized context action client sequence = true

/-! ## What a call can do -/

/-- The decision lets nothing out and ends no command. -/
def Refused (decision : Option GuardedControlDecision) : Prop :=
  ∀ d, decision = some d → d.accepted = false ∧ d.terminates = false

/-- What the calls do to the state. -/
inductive Outcome (planner : GuardedControlPlanner Context) (s : GuardedControlState) :
    ControlCall Context → Option GuardedControlDecision → GuardedControlState → Prop where
  | kept {call decision} : call.closes? = none → Refused decision → Outcome planner s call decision s
  | ignored {association} : association = 0 ∨ s.ownerAssociationId ≠ association →
    Outcome planner s (.onAssociationClosed association) none s
  /-- Expiry, or an operate that does not fit the selection or is denied. -/
  | lost {call decision} : s.selected = true → Refused decision →
    Outcome planner s call decision s.clearActive
  | granted {call context action client sequence nowMs number next} :
    call.Selects context action client sequence nowMs →
    modelRequiresSelect planner.model = true →
    planner.authorized context action client sequence = true →
    s.waitingForTermination = false → (s.selected = true → s.expired nowMs = true) →
    client.associationId ≠ 0 →
    Outcome planner s call (some { status := .ok, action, controlNumber := number })
      { activeSequence := fingerprint sequence number
        ownerAssociationId := client.associationId
        selectionExpiresAtMs := planner.selectionDeadline nowMs
        nextControlNumber := next
        selected := true }
  | used {context client sequence nowMs} : modelRequiresSelect planner.model = true →
    planner.authorized context .operate client sequence = true →
    s.selected = true → s.waitingForTermination = false → s.expired nowMs = false →
    s.ownerAssociationId = client.associationId →
    sequenceMatches sequence s.activeSequence = true →
    Outcome planner s (.operate context client sequence nowMs)
      (some (planner.acceptOperate { s with selected := false, selectionExpiresAtMs := 0 }
        s.activeSequence.controlNumber).1)
      (planner.acceptOperate { s with selected := false, selectionExpiresAtMs := 0 }
        s.activeSequence.controlNumber).2
  | started {context client sequence nowMs number next} :
    modelRequiresSelect planner.model = false →
    planner.authorized context .operate client sequence = true → s.waitingForTermination = false →
    Outcome planner s (.operate context client sequence nowMs)
      (some (planner.acceptOperate
        { s with
          activeSequence := fingerprint sequence number
          ownerAssociationId := client.associationId
          nextControlNumber := next } number).1)
      (planner.acceptOperate
        { s with
          activeSequence := fingerprint sequence number
          ownerAssociationId := client.associationId
          nextControlNumber := next } number).2
  | cancelled {context client nowMs} : planner.authorized context .cancel client {} = true →
    s.selected = true →
    Outcome planner s (.cancel context client nowMs) (some (s.reject .cancel .ok .abortionByCancel))
      s.clearActive
  | terminated {error addCause decision} : s.waitingForTermination = true →
    decision.terminates = true →
    Outcome planner s (.commandTermination error addCause) (some decision) s.clearActive
  | closed {association} : association ≠ 0 → s.ownerAssociationId = association →
    Outcome planner s (.onAssociationClosed association) none s.clearActive

theorem refused_none : Refused none := fun _ h => (by cases h)

theorem refused_reject (s : GuardedControlState) (action : ControlAction)
    {status : GuardedControlStatus} (addCause : AddCause)
    (h : ({ status } : GuardedControlDecision).accepted = false ∧
      ({ status } : GuardedControlDecision).terminates = false) :
    Refused (some (s.reject action status addCause)) := by
  rintro d hd
  cases hd
  exact h

variable (planner : GuardedControlPlanner Context) {s : GuardedControlState}

theorem selected_of_expired {nowMs : UInt64} (h : s.expired nowMs = true) : s.selected = true := by
  rw [expired, Bool.and_eq_true, Bool.and_eq_true] at h
  exact h.1.1

theorem expireSelection_of_expired {nowMs : UInt64} (h : s.expired nowMs = true) :
    s.expireSelection nowMs = s.clearActive := if_pos h

theorem expireSelection_of_not_expired {nowMs : UInt64} (h : s.expired nowMs = false) :
    s.expireSelection nowMs = s := if_neg (by rw [h]; exact Bool.false_ne_true)

theorem ne_zero_of_valid {client : ControlClientIdentity} (h : ¬(!client.valid) = true) :
    client.associationId ≠ 0 := by
  simpa [ControlClientIdentity.valid] using h

theorem selectFor_outcome (hexclusive : s.selected = true → s.waitingForTermination = false)
    {call : ControlCall Context} {context : Context} {action : ControlAction}
    {model : ControlModel} {client : ControlClientIdentity} {sequence : ControlSequenceView}
    {nowMs : UInt64} (hcall : call.Selects context action client sequence nowMs)
    (hmodel : modelRequiresSelect model = true) :
    Outcome planner s call (some (planner.selectFor action model context s client sequence nowMs).1)
      (planner.selectFor action model context s client sequence nowMs).2 := by
  rw [selectFor]
  split
  · exact .kept hcall.closes? (refused_reject _ _ _ ⟨rfl, rfl⟩)
  rename_i heq
  split
  · exact .kept hcall.closes? (refused_reject _ _ _ ⟨rfl, rfl⟩)
  rename_i hclient
  split
  · exact .kept hcall.closes? (refused_reject _ _ _ ⟨rfl, rfl⟩)
  have hrequires : modelRequiresSelect planner.model = true := not_not.mp heq ▸ hmodel
  dsimp only
  cases hexpired : s.expired nowMs with
  | true =>
    have hselected := selected_of_expired hexpired
    rw [expireSelection_of_expired hexpired, if_neg (by exact Bool.false_ne_true),
      if_neg (by exact Bool.false_ne_true)]
    split
    · exact .lost hselected (refused_reject _ _ _ ⟨rfl, rfl⟩)
    · rename_i hauthorized
      exact .granted hcall hrequires (by simpa using hauthorized) (hexclusive hselected)
        (fun _ => hexpired) (ne_zero_of_valid hclient)
  | false =>
    rw [expireSelection_of_not_expired hexpired]
    split
    · exact .kept hcall.closes? (refused_reject _ _ _ ⟨rfl, rfl⟩)
    rename_i hwaiting
    split
    · split <;> exact .kept hcall.closes? (refused_reject _ _ _ ⟨rfl, rfl⟩)
    rename_i hselected
    split
    · exact .kept hcall.closes? (refused_reject _ _ _ ⟨rfl, rfl⟩)
    · rename_i hauthorized
      have hstate : s.waitingForTermination = false := by simpa using hwaiting
      rw [hstate]
      exact .granted hcall hrequires (by simpa using hauthorized) hstate
        (fun h => absurd h hselected) (ne_zero_of_valid hclient)

theorem operateSelected_outcome (hexclusive : s.selected = true → s.waitingForTermination = false)
    {context : Context} {client : ControlClientIdentity} {sequence : ControlSequenceView}
    {nowMs : UInt64} (hrequires : modelRequiresSelect planner.model = true) :
    Outcome planner s (.operate context client sequence nowMs)
      (some (planner.operateSelected context s client sequence nowMs).1)
      (planner.operateSelected context s client sequence nowMs).2 := by
  rw [operateSelected]
  split
  · rename_i hexpired
    exact .lost (selected_of_expired hexpired) (refused_reject _ _ _ ⟨rfl, rfl⟩)
  rename_i hexpired
  split
  · exact .kept rfl (refused_reject _ _ _ ⟨rfl, rfl⟩)
  rename_i hselected
  have hselected : s.selected = true := by simpa using hselected
  split
  · exact .kept rfl (refused_reject _ _ _ ⟨rfl, rfl⟩)
  rename_i howner
  split
  · exact .lost hselected (refused_reject _ _ _ ⟨rfl, rfl⟩)
  rename_i hmatches
  split
  · exact .lost hselected (refused_reject _ _ _ ⟨rfl, rfl⟩)
  · rename_i hauthorized
    exact .used hrequires (by simpa using hauthorized) hselected (hexclusive hselected)
      (by simpa using hexpired) (not_not.mp howner) (by simpa using hmatches)

theorem operate_outcome (hexclusive : s.selected = true → s.waitingForTermination = false)
    {context : Context} {client : ControlClientIdentity} {sequence : ControlSequenceView}
    {nowMs : UInt64} :
    Outcome planner s (.operate context client sequence nowMs)
      (some (planner.operate context s client sequence nowMs).1)
      (planner.operate context s client sequence nowMs).2 := by
  rw [operate]
  split
  · exact .kept rfl (refused_reject _ _ _ ⟨rfl, rfl⟩)
  split
  · exact .kept rfl (refused_reject _ _ _ ⟨rfl, rfl⟩)
  split
  · exact .kept rfl (refused_reject _ _ _ ⟨rfl, rfl⟩)
  split
  · exact .kept rfl (refused_reject _ _ _ ⟨rfl, rfl⟩)
  rename_i hwaiting
  split
  · rename_i hrequires
    exact operateSelected_outcome planner hexclusive hrequires
  · rename_i hrequires
    rw [operateDirect]
    split
    · exact .kept rfl (refused_reject _ _ _ ⟨rfl, rfl⟩)
    · rename_i hauthorized
      exact .started (by simpa using hrequires) (by simpa using hauthorized) (by simpa using hwaiting)

theorem cancel_outcome {context : Context} {client : ControlClientIdentity} {nowMs : UInt64} :
    Outcome planner s (.cancel context client nowMs) (some (planner.cancel context s client nowMs).1)
      (planner.cancel context s client nowMs).2 := by
  rw [cancel]
  split
  · exact .kept rfl (refused_reject _ _ _ ⟨rfl, rfl⟩)
  split
  · exact .kept rfl (refused_reject _ _ _ ⟨rfl, rfl⟩)
  split
  · rename_i hexpired
    exact .lost (selected_of_expired hexpired) (refused_reject _ _ _ ⟨rfl, rfl⟩)
  split
  · exact .kept rfl (refused_reject _ _ _ ⟨rfl, rfl⟩)
  rename_i hselected
  split
  · exact .kept rfl (refused_reject _ _ _ ⟨rfl, rfl⟩)
  split
  · exact .kept rfl (refused_reject _ _ _ ⟨rfl, rfl⟩)
  · rename_i hauthorized
    exact .cancelled (by simpa using hauthorized) (by simpa using hselected)

theorem commandTermination_outcome (error : ControlError) (addCause : AddCause) :
    Outcome planner s (.commandTermination error addCause)
      (some (commandTermination s error addCause).1) (commandTermination s error addCause).2 := by
  rw [commandTermination]
  split
  · exact .kept rfl (refused_reject _ _ _ ⟨rfl, rfl⟩)
  · rename_i hwaiting
    refine .terminated (by simpa using hwaiting) ?_
    dsimp only
    split <;> rfl

/-- **What a call can do.** -/
theorem step_outcome (hexclusive : s.selected = true → s.waitingForTermination = false)
    (call : ControlCall Context) :
    Outcome planner s call (planner.step s call).1 (planner.step s call).2 := by
  cases call with
  | select context client sequence nowMs =>
    exact selectFor_outcome planner hexclusive (.inl ⟨rfl, rfl⟩) rfl
  | selectWithValue context client sequence nowMs =>
    exact selectFor_outcome planner hexclusive (.inr ⟨rfl, rfl⟩) rfl
  | operate context client sequence nowMs => exact operate_outcome planner hexclusive
  | cancel context client nowMs => exact cancel_outcome planner
  | commandTermination error addCause => exact commandTermination_outcome planner error addCause
  | onAssociationClosed association =>
    show Outcome planner s _ none (if _ then _ else _)
    split
    · rename_i howner
      exact .closed howner.1 howner.2
    · rename_i hother
      refine .ignored ?_
      by_cases hzero : association = 0
      · exact .inl hzero
      · exact .inr fun howner => hother ⟨hzero, howner⟩
  | tick nowMs =>
    show Outcome planner s _ none (s.expireSelection nowMs)
    cases hexpired : s.expired nowMs with
    | true =>
      rw [expireSelection_of_expired hexpired]
      exact .lost (selected_of_expired hexpired) refused_none
    | false =>
      rw [expireSelection_of_not_expired hexpired]
      exact .kept rfl refused_none

/-! ## The invariant -/

/-- The selection that the state holds was granted, and nothing has ended it. -/
def HeldSelection (planner : GuardedControlPlanner Context) (past : List (ControlStep Context))
    (s : GuardedControlState) : Prop :=
  ∃ front grant mid client granted grantedMs number,
    past = front ++ grant :: mid ∧ Grants grant client granted grantedMs number ∧
      s.ownerAssociationId = client.associationId ∧
      s.activeSequence = fingerprint granted number ∧
      s.selectionExpiresAtMs = planner.selectionDeadline grantedMs ∧
      ∀ t ∈ mid, ¬Ends t client.associationId

/-- A command has been started and not terminated. -/
def Started (past : List (ControlStep Context)) : Prop :=
  ∃ front command mid association, past = front ++ command :: mid ∧ Waits command association ∧
    ∀ t ∈ mid, ¬Terminates t

structure ControlInv (planner : GuardedControlPlanner Context) (past : List (ControlStep Context))
    (s : GuardedControlState) : Prop where
  exclusive : s.selected = true → s.waitingForTermination = false
  idle : s.selected = false → s.waitingForTermination = false → s.ownerAssociationId = 0
  owner : s.selected = true → s.ownerAssociationId ≠ 0
  requires : s.selected = true → modelRequiresSelect planner.model = true
  selection : s.selected = true → HeldSelection planner past s
  started : s.waitingForTermination = true → Started past
  awaiting : ∀ association, Awaiting past association →
    s.waitingForTermination = true ∧ s.ownerAssociationId = association

variable {planner} {past : List (ControlStep Context)} {t : ControlStep Context}

theorem HeldSelection.concat {s' : GuardedControlState} (h : HeldSelection planner past s)
    (hends : ¬Ends t s.ownerAssociationId) (howner : s'.ownerAssociationId = s.ownerAssociationId)
    (hactive : s'.activeSequence = s.activeSequence)
    (hexpires : s'.selectionExpiresAtMs = s.selectionExpiresAtMs) :
    HeldSelection planner (past ++ [t]) s' := by
  obtain ⟨front, grant, mid, client, granted, grantedMs, number, rfl, hgrant, hclient, hsequence,
    hdeadline, hkept⟩ := h
  refine ⟨front, grant, mid ++ [t], client, granted, grantedMs, number, by simp, hgrant,
    howner.trans hclient, hactive.trans hsequence, hexpires.trans hdeadline, ?_⟩
  rw [hclient] at hends
  exact List.forall_mem_append.mpr ⟨hkept, by simpa using hends⟩

theorem Started.concat (h : Started past) (hterminates : ¬Terminates t) : Started (past ++ [t]) := by
  obtain ⟨front, command, mid, association, rfl, hwaits, hkept⟩ := h
  refine ⟨front, command, mid ++ [t], association, by simp, hwaits, ?_⟩
  exact List.forall_mem_append.mpr ⟨hkept, by simpa using hterminates⟩

/-- What awaits its termination was started by the last call or before it. -/
theorem Awaiting.of_concat {association : UInt64} (h : Awaiting (past ++ [t]) association) :
    Waits t association ∨
      Awaiting past association ∧ ¬Terminates t ∧ t.event ≠ .onAssociationClosed association := by
  obtain ⟨front, command, mid, hsplit, hwaits, hkept⟩ := h
  rcases split_concat hsplit with ⟨rfl, rfl, rfl⟩ | ⟨mid, rfl, hpast⟩
  · exact .inl hwaits
  · obtain ⟨hbefore, hlast⟩ := List.forall_mem_append.mp hkept
    exact .inr ⟨⟨front, command, mid, hpast, hwaits, hbefore⟩, hlast t List.mem_cons_self⟩

theorem inForce_of_not_expired {grantedMs nowMs : UInt64} (hselected : s.selected = true)
    (hexpires : s.selectionExpiresAtMs = planner.selectionDeadline grantedMs)
    (h : s.expired nowMs = false) : planner.InForce grantedMs nowMs := by
  by_cases htimeout : planner.policy.sboTimeoutMs = 0
  · exact .inl htimeout
  right
  rw [expired, hselected, hexpires, selectionDeadline, if_neg htimeout] at h
  have hpositive : 0 < planner.policy.sboTimeoutMs.toNat :=
    Nat.pos_of_ne_zero fun hzero => htimeout (UInt64.toNat_inj.mp hzero)
  have htimeoutLt := planner.policy.sboTimeoutMs.toNat_lt
  have hmax : (UInt64.ofNat sizeMax).toNat = 2 ^ 64 - 1 := rfl
  have hroom : (UInt64.ofNat sizeMax - planner.policy.sboTimeoutMs).toNat =
      2 ^ 64 - 1 - planner.policy.sboTimeoutMs.toNat := by
    rw [UInt64.toNat_sub_of_le _ _ (by rw [UInt64.le_iff_toNat_le, hmax]; omega), hmax]
  split at h
  · rename_i hlate
    rw [gt_iff_lt, UInt64.lt_iff_toNat_lt, hroom] at hlate
    have hmaxNe : (UInt64.ofNat sizeMax != 0) = true := rfl
    rw [hmaxNe, Bool.true_and, Bool.true_and, decide_eq_false_iff_not, ge_iff_le,
      UInt64.le_iff_toNat_le, hmax] at h
    omega
  · rename_i hearly
    rw [gt_iff_lt, UInt64.lt_iff_toNat_lt, hroom] at hearly
    have hsum : (grantedMs + planner.policy.sboTimeoutMs).toNat =
        grantedMs.toNat + planner.policy.sboTimeoutMs.toNat := by
      rw [UInt64.toNat_add, Nat.mod_eq_of_lt (by omega)]
    have hne : (grantedMs + planner.policy.sboTimeoutMs != 0) = true := by
      rw [bne_iff_ne]
      intro hzero
      rw [hzero] at hsum
      have : (0 : UInt64).toNat = 0 := rfl
      omega
    rw [hne, Bool.true_and, Bool.true_and, decide_eq_false_iff_not, ge_iff_le,
      UInt64.le_iff_toNat_le, hsum] at h
    omega

/-! ## One call -/

theorem not_accepted {call : ControlCall Context} {decision : Option GuardedControlDecision}
    {s' : GuardedControlState} (h : Refused decision) : ¬Accepted ⟨call, s, decision, s'⟩ := by
  rintro ⟨d, hd, haccepted⟩
  rw [(h d hd).1] at haccepted
  exact Bool.false_ne_true haccepted

theorem not_terminates {call : ControlCall Context} {decision : Option GuardedControlDecision}
    {s' : GuardedControlState} (h : Refused decision) : ¬Terminates ⟨call, s, decision, s'⟩ := by
  rintro ⟨d, hd, hterminates⟩
  rw [(h d hd).2] at hterminates
  exact Bool.false_ne_true hterminates

theorem not_waits {association : UInt64} (h : ¬Accepted t) : ¬Waits t association := by
  rintro ⟨-, d, hd, hstatus⟩
  exact h ⟨d, hd, by rw [GuardedControlDecision.accepted, hstatus]; rfl⟩

theorem not_owns_clearActive (association : UInt64) : ¬s.clearActive.Owns association := by
  rintro ⟨h | h, -⟩ <;> exact Bool.false_ne_true h

/-- A refused call. -/
theorem safe_of_refused {call : ControlCall Context} {decision : Option GuardedControlDecision}
    {s' : GuardedControlState} (h : Refused decision)
    (howner : ∀ a b, s.Owns a → s'.Owns b → a = b)
    (hidle : s'.selected = false → s'.waitingForTermination = false → s'.ownerAssociationId = 0) :
    ControlSafe planner past ⟨call, s, decision, s'⟩ where
  oneOwner a b ha hb := howner a b ha.1 hb
  idle := hidle
  operateSelected _ _ _ _ _ _ haccepted := absurd haccepted (not_accepted h)
  refusedWhileWaiting _ _ := not_accepted h
  terminated hterminates := absurd hterminates (not_terminates h)
  authorized haccepted := absurd haccepted (not_accepted h)

theorem ControlInv.clear (h : ∀ association, ¬Awaiting (past ++ [t]) association) :
    ControlInv planner (past ++ [t]) s.clearActive where
  exclusive _ := rfl
  idle _ _ := rfl
  owner hselected := absurd hselected Bool.false_ne_true
  requires hselected := absurd hselected Bool.false_ne_true
  selection hselected := absurd hselected Bool.false_ne_true
  started hwaiting := absurd hwaiting Bool.false_ne_true
  awaiting association hawaiting := absurd hawaiting (h association)

/-- Nothing awaits its termination unless the state says so. -/
theorem ControlInv.not_awaiting (h : ControlInv planner past s)
    (hwaiting : s.waitingForTermination = false) (association : UInt64) :
    ¬Awaiting past association := fun hawaiting => by
  rw [(h.awaiting association hawaiting).1] at hwaiting
  cases hwaiting

theorem ControlInv.kept (h : ControlInv planner past s) {call : ControlCall Context}
    {decision : Option GuardedControlDecision} (hrefused : Refused decision)
    (hcall : ∀ association, call = .onAssociationClosed association →
      association = 0 ∨ s.ownerAssociationId ≠ association) :
    ControlInv planner (past ++ [⟨call, s, decision, s⟩]) s where
  exclusive := h.exclusive
  idle := h.idle
  owner := h.owner
  requires := h.requires
  selection hselected := by
    refine (h.selection hselected).concat ?_ rfl rfl rfl
    rintro (haccepted | hclosed)
    · exact not_accepted hrefused haccepted
    · rcases hcall _ hclosed with hzero | hne
      · exact h.owner hselected hzero
      · exact hne rfl
  started hwaiting := (h.started hwaiting).concat (not_terminates hrefused)
  awaiting association hawaiting := by
    rcases hawaiting.of_concat with hwaits | ⟨hbefore, -, -⟩
    · exact absurd hwaits (not_waits (not_accepted hrefused))
    · exact h.awaiting association hbefore

/-- A call that is safe and keeps the invariant. -/
def Preserved (planner : GuardedControlPlanner Context) (past : List (ControlStep Context))
    (t : ControlStep Context) : Prop :=
  ControlSafe planner past t ∧ ControlInv planner (past ++ [t]) t.after

theorem ControlInv.lost (h : ControlInv planner past s) (hselected : s.selected = true)
    {call : ControlCall Context} {decision : Option GuardedControlDecision}
    (hrefused : Refused decision) : Preserved planner past ⟨call, s, decision, s.clearActive⟩ := by
  refine ⟨safe_of_refused hrefused (fun a b _ hb => absurd hb (not_owns_clearActive b))
    (fun _ _ => rfl), ControlInv.clear fun association hawaiting => ?_⟩
  rcases hawaiting.of_concat with hwaits | ⟨hbefore, -, -⟩
  · exact not_waits (not_accepted hrefused) hwaits
  · exact h.not_awaiting (h.exclusive hselected) association hbefore

theorem ControlInv.granted (h : ControlInv planner past s) {call : ControlCall Context}
    {context : Context} {action : ControlAction} {client : ControlClientIdentity}
    {sequence : ControlSequenceView} {nowMs : UInt64} {number next : UInt8}
    (hcall : call.Selects context action client sequence nowMs)
    (hrequires : modelRequiresSelect planner.model = true)
    (hauthorized : planner.authorized context action client sequence = true)
    (hwaiting : s.waitingForTermination = false)
    (hfree : s.selected = true → s.expired nowMs = true) (hclient : client.associationId ≠ 0) :
    Preserved planner past
      ⟨call, s, some { status := .ok, action, controlNumber := number },
        { activeSequence := fingerprint sequence number
          ownerAssociationId := client.associationId
          selectionExpiresAtMs := planner.selectionDeadline nowMs
          nextControlNumber := next
          selected := true }⟩ := by
  have hnow : call.nowMs? = some nowMs := by
    rcases hcall with ⟨rfl, -⟩ | ⟨rfl, -⟩ <;> rfl
  refine ⟨⟨?_, ?_, ?_, ?_, ?_, ?_⟩, ⟨?_, ?_, ?_, ?_, ?_, ?_, ?_⟩⟩
  · rintro a b ⟨⟨hselected | hwaits, -⟩, hunexpired⟩ -
    · have hexpired := hunexpired nowMs hnow
      rw [hfree hselected] at hexpired
      cases hexpired
    · rw [hwaiting] at hwaits
      cases hwaits
  · exact fun hselected => absurd hselected.symm Bool.false_ne_true
  · rintro - context' client' sequence' nowMs' hoperate -
    rcases hcall with ⟨rfl, -⟩ | ⟨rfl, -⟩ <;> cases hoperate
  · rintro ⟨association, hawaiting⟩ -
    exact absurd hawaiting (h.not_awaiting hwaiting association)
  · rintro ⟨d, hd, hterminates⟩
    cases hd
    cases hterminates
  · exact fun _ _ => ⟨context, action, client, sequence, .inl ⟨nowMs, hcall⟩, hauthorized⟩
  · exact fun _ => rfl
  · exact fun hselected => absurd hselected.symm Bool.false_ne_true
  · exact fun _ => hclient
  · exact fun _ => hrequires
  · exact fun _ => ⟨past, _, [], client, sequence, nowMs, number, rfl,
      ⟨⟨context, action, hcall⟩, _, rfl, rfl, rfl⟩, rfl, rfl, rfl,
      fun _ hmem => absurd hmem List.not_mem_nil⟩
  · exact fun hwaits => absurd hwaits Bool.false_ne_true
  · intro association hawaiting
    rcases hawaiting.of_concat with hwaits | ⟨hbefore, -, -⟩
    · obtain ⟨-, d, hd, hstatus⟩ := hwaits
      cases hd
      cases hstatus
    · exact absurd hbefore (h.not_awaiting hwaiting association)

/-- The accepted operate of either kind of model. -/
theorem ControlInv.accepted (h : ControlInv planner past s) {context : Context}
    {client : ControlClientIdentity} {sequence : ControlSequenceView} {nowMs : UInt64}
    {s₀ : GuardedControlState} {number : UInt8}
    (hauthorized : planner.authorized context .operate client sequence = true)
    (hwaiting : s.waitingForTermination = false)
    (hselected : s₀.selected = false) (howner : s₀.ownerAssociationId = client.associationId)
    (hsame : s.selected = true → s.ownerAssociationId = client.associationId)
    (hselection : modelRequiresSelect planner.model →
      Selection planner past client sequence nowMs) :
    Preserved planner past
      ⟨.operate context client sequence nowMs, s, some (planner.acceptOperate s₀ number).1,
        (planner.acceptOperate s₀ number).2⟩ := by
  have hnot (association : UInt64) : ¬Awaiting past association := h.not_awaiting hwaiting association
  have hterminates : (planner.acceptOperate s₀ number).1.terminates = false := by
    rw [acceptOperate]
    split <;> rfl
  have howns (b : UInt64) (hb : (planner.acceptOperate s₀ number).2.Owns b) :
      b = client.associationId := by
    rw [acceptOperate] at hb
    split at hb
    · exact hb.2.symm.trans howner
    · exact absurd hb (not_owns_clearActive b)
  have hsafe : ControlSafe planner past
      ⟨.operate context client sequence nowMs, s, some (planner.acceptOperate s₀ number).1,
        (planner.acceptOperate s₀ number).2⟩ := by
    refine ⟨?_, ?_, ?_, ?_, ?_, ?_⟩
    · rintro a b ⟨⟨hheld | hwaits, ha⟩, -⟩ hb
      · rw [howns b hb, ← ha, hsame hheld]
      · rw [hwaiting] at hwaits
        cases hwaits
    · dsimp only
      rw [acceptOperate]
      split
      · exact fun _ hwaits => absurd hwaits.symm Bool.false_ne_true
      · exact fun _ _ => rfl
    · rintro hrequires context' client' sequence' nowMs' hoperate -
      cases hoperate
      exact hselection hrequires
    · rintro ⟨association, hawaiting⟩ -
      exact absurd hawaiting (hnot association)
    · rintro ⟨d, hd, hends⟩
      cases hd
      rw [hterminates] at hends
      cases hends
    · exact fun _ _ => ⟨context, .operate, client, sequence, .inr (.inl ⟨nowMs, rfl, rfl⟩),
        hauthorized⟩
  refine ⟨hsafe, ?_⟩
  dsimp only
  cases henhanced : modelIsEnhanced planner.model with
  | true =>
    have haccept : planner.acceptOperate s₀ number =
        ({ status := .acceptedWaitingTermination, action := .operate, controlNumber := number },
          { s₀ with waitingForTermination := true }) := if_pos henhanced
    rw [haccept]
    refine ⟨?_, ?_, ?_, ?_, ?_, ?_, ?_⟩
    · exact fun hheld => absurd (hselected.symm.trans hheld) Bool.false_ne_true
    · exact fun _ hwaits => absurd hwaits.symm Bool.false_ne_true
    · exact fun hheld => absurd (hselected.symm.trans hheld) Bool.false_ne_true
    · exact fun hheld => absurd (hselected.symm.trans hheld) Bool.false_ne_true
    · exact fun hheld => absurd (hselected.symm.trans hheld) Bool.false_ne_true
    · exact fun _ => ⟨past, _, [], client.associationId, rfl,
        ⟨⟨context, client, sequence, nowMs, rfl, rfl⟩, _, rfl, rfl⟩,
        fun _ hmem => absurd hmem List.not_mem_nil⟩
    · intro association hawaiting
      rcases hawaiting.of_concat with hwaits | ⟨hbefore, -, -⟩
      · obtain ⟨⟨context', client', sequence', nowMs', hoperate, hassociation⟩, -⟩ := hwaits
        cases hoperate
        exact ⟨rfl, howner.trans hassociation⟩
      · exact absurd hbefore (hnot association)
  | false =>
    have haccept : planner.acceptOperate s₀ number =
        ({ status := .ok, action := .operate, controlNumber := number }, s₀.clearActive) :=
      if_neg (by rw [henhanced]; exact Bool.false_ne_true)
    rw [haccept]
    refine ControlInv.clear fun association hawaiting => ?_
    rcases hawaiting.of_concat with hwaits | ⟨hbefore, -, -⟩
    · obtain ⟨-, d, hd, hstatus⟩ := hwaits
      cases hd
      cases hstatus
    · exact hnot association hbefore

theorem ControlInv.used (h : ControlInv planner past s) {context : Context}
    {client : ControlClientIdentity} {sequence : ControlSequenceView} {nowMs : UInt64}
    (hauthorized : planner.authorized context .operate client sequence = true)
    (hselected : s.selected = true) (hexpired : s.expired nowMs = false)
    (howner : s.ownerAssociationId = client.associationId)
    (hmatches : sequenceMatches sequence s.activeSequence = true)
    (htimes : ∀ u ∈ past, ∀ m ∈ u.event.nowMs?, m ≤ nowMs) :
    Preserved planner past
      ⟨.operate context client sequence nowMs, s,
        some (planner.acceptOperate { s with selected := false, selectionExpiresAtMs := 0 }
          s.activeSequence.controlNumber).1,
        (planner.acceptOperate { s with selected := false, selectionExpiresAtMs := 0 }
          s.activeSequence.controlNumber).2⟩ := by
  refine h.accepted hauthorized (h.exclusive hselected) rfl howner (fun _ => howner) fun _ => ?_
  obtain ⟨front, grant, mid, client', granted, grantedMs, number, rfl, hgrant, hclient, hactive,
    hexpires, hkept⟩ := h.selection hselected
  have hsame : client' = client := by
    have hid := hclient.symm.trans howner
    cases client'
    cases client
    exact congrArg ControlClientIdentity.mk hid
  obtain rfl := hsame
  have hforce := inForce_of_not_expired hselected hexpires hexpired
  refine ⟨front, grant, mid, granted, grantedMs, number, rfl, hgrant, hactive ▸ hmatches, hforce, ?_⟩
  intro t hmem
  refine ⟨hkept t hmem, fun m hm => ?_⟩
  -- time does not go back, so that the selection has been in force all the time
  have hle := UInt64.le_iff_toNat_le.mp
    (htimes t (List.mem_append_right _ (List.mem_cons_of_mem _ hmem)) m hm)
  rcases hforce with hnever | hlt
  · exact .inl hnever
  · exact .inr (by omega)

theorem ControlInv.cancelled (h : ControlInv planner past s) {context : Context}
    {client : ControlClientIdentity} {nowMs : UInt64}
    (hauthorized : planner.authorized context .cancel client {} = true)
    (hselected : s.selected = true) :
    Preserved planner past
      ⟨.cancel context client nowMs, s, some (s.reject .cancel .ok .abortionByCancel),
        s.clearActive⟩ := by
  refine ⟨⟨?_, fun _ _ => rfl, ?_, ?_, ?_, ?_⟩, ControlInv.clear fun association hawaiting => ?_⟩
  · exact fun a b _ hb => absurd hb (not_owns_clearActive b)
  · intro _ context' client' sequence' nowMs' hoperate
    cases hoperate
  · rintro - ⟨context', action', client', sequence', nowMs', (⟨hcall, -⟩ | ⟨hcall, -⟩) | hcall⟩ <;>
      cases hcall
  · rintro ⟨d, hd, hterminates⟩
    cases hd
    cases hterminates
  · exact fun _ _ => ⟨context, .cancel, client, {}, .inr (.inr ⟨nowMs, rfl, rfl, rfl⟩), hauthorized⟩
  · rcases hawaiting.of_concat with hwaits | ⟨hbefore, -, -⟩
    · obtain ⟨⟨_, _, _, _, hoperate, -⟩, -⟩ := hwaits
      cases hoperate
    · exact h.not_awaiting (h.exclusive hselected) association hbefore

theorem ControlInv.terminated (h : ControlInv planner past s) {error : ControlError}
    {addCause : AddCause} {decision : GuardedControlDecision}
    (hwaiting : s.waitingForTermination = true) (hterminates : decision.terminates = true) :
    Preserved planner past ⟨.commandTermination error addCause, s, some decision, s.clearActive⟩ := by
  refine ⟨⟨?_, fun _ _ => rfl, ?_, ?_, ?_, ?_⟩, ControlInv.clear fun association hawaiting => ?_⟩
  · exact fun a b _ hb => absurd hb (not_owns_clearActive b)
  · intro _ context' client' sequence' nowMs' hoperate
    cases hoperate
  · rintro - ⟨context', action', client', sequence', nowMs', (⟨hcall, -⟩ | ⟨hcall, -⟩) | hcall⟩ <;>
      cases hcall
  · exact fun _ => h.started hwaiting
  · exact fun _ hnot => absurd ⟨decision, rfl, hterminates⟩ hnot
  · rcases hawaiting.of_concat with hwaits | ⟨-, hnot, -⟩
    · obtain ⟨⟨_, _, _, _, hoperate, -⟩, -⟩ := hwaits
      cases hoperate
    · exact hnot ⟨decision, rfl, hterminates⟩

theorem ControlInv.closed (h : ControlInv planner past s) {association : UInt64}
    (howner : s.ownerAssociationId = association) :
    Preserved planner past ⟨.onAssociationClosed association, s, none, s.clearActive⟩ := by
  refine ⟨safe_of_refused refused_none (fun a b _ hb => absurd hb (not_owns_clearActive b))
    (fun _ _ => rfl), ControlInv.clear fun other hawaiting => ?_⟩
  rcases hawaiting.of_concat with hwaits | ⟨hbefore, -, hnot⟩
  · exact not_waits (not_accepted refused_none) hwaits
  · refine hnot ?_
    rw [← howner, (h.awaiting other hbefore).2]

/-- **One call of the planner.** -/
theorem ControlInv.step (h : ControlInv planner past s) (call : ControlCall Context)
    (htimes : ∀ u ∈ past, ∀ m ∈ u.event.nowMs?, ∀ n ∈ call.nowMs?, m ≤ n) :
    Preserved planner past (stepOn planner.step s call) := by
  have houtcome := step_outcome planner h.exclusive call
  have hsame (a b : UInt64) (ha : s.Owns a) (hb : s.Owns b) : a = b := ha.2.symm.trans hb.2
  rw [stepOn]
  generalize (planner.step s call).1 = decision at houtcome ⊢
  generalize (planner.step s call).2 = s' at houtcome ⊢
  cases houtcome with
  | kept hcall hrefused =>
    refine ⟨safe_of_refused hrefused hsame h.idle, h.kept hrefused fun association hclose => ?_⟩
    rw [hclose] at hcall
    cases hcall
  | ignored hother =>
    refine ⟨safe_of_refused refused_none hsame h.idle, h.kept refused_none fun a hclose => ?_⟩
    cases hclose
    exact hother
  | lost hselected hrefused => exact h.lost hselected hrefused
  | granted hcall hrequires hauthorized hwaiting hfree hclient =>
    exact h.granted hcall hrequires hauthorized hwaiting hfree hclient
  | used _ hauthorized hselected _ hexpired howner hmatches =>
    exact h.used hauthorized hselected hexpired howner hmatches fun u hu m hm =>
      htimes u hu m hm _ rfl
  | started hrequires hauthorized hwaiting =>
    have hunselected : s.selected = false := by
      cases hselected : s.selected with
      | false => rfl
      | true => exact absurd (hrequires.symm.trans (h.requires hselected)) Bool.false_ne_true
    exact h.accepted hauthorized hwaiting hunselected rfl
      (fun hselected => absurd (hunselected.symm.trans hselected) Bool.false_ne_true)
      (fun hselects => absurd (hrequires.symm.trans hselects) Bool.false_ne_true)
  | cancelled hauthorized hselected => exact h.cancelled hauthorized hselected
  | terminated hwaiting hterminates => exact h.terminated hwaiting hterminates
  | closed _ howner => exact h.closed howner

theorem controlInv_initial (planner : GuardedControlPlanner Context) : ControlInv planner [] {} where
  exclusive _ := rfl
  idle _ _ := rfl
  owner h := absurd h Bool.false_ne_true
  requires h := absurd h Bool.false_ne_true
  selection h := absurd h Bool.false_ne_true
  started h := absurd h Bool.false_ne_true
  awaiting _ h := by
    obtain ⟨front, command, mid, hsplit, -⟩ := h
    exact absurd hsplit.symm (List.append_ne_nil_of_right_ne_nil _ (List.cons_ne_nil _ _))

/-! ## Runs -/

/-- The first call is not later than the second. -/
def ControlCall.NotAfter (first second : ControlCall Context) : Prop :=
  ∀ m ∈ first.nowMs?, ∀ n ∈ second.nowMs?, m ≤ n

/-- **Every call of a run of the planner is safe.** -/
theorem guarded_control_safe (planner : GuardedControlPlanner Context)
    {calls : List (ControlCall Context)} (htimes : calls.Pairwise ControlCall.NotAfter)
    {past future : List (ControlStep Context)} {t : ControlStep Context}
    (hsplit : history planner.step {} calls = past ++ t :: future) : ControlSafe planner past t := by
  refine history_rule (ControlInv planner) (ControlSafe planner) ?_ htimes
    (controlInv_initial planner) hsplit
  intro past s call h hbefore
  exact h.step call fun u hu m hm n hn => hbefore u hu m hm n hn

/-- A planner that allows everything. -/
def openPlanner : GuardedControlPlanner Unit where
  object := { domain := [0x4C], logicalNode := [0x4E], dataObjectPath := [0x44] }
  model := .selectBeforeOperateEnhanced
  policy := { authorize := some fun _ _ _ _ _ => true }

/-- A selection of association 7, its operate and the refused operate of association 8. -/
def contendedCalls : List (ControlCall Unit) :=
  [.selectWithValue () { associationId := 7 } { controlValue := [1] } 100,
    .operate () { associationId := 7 } { controlValue := [1] } 10099,
    .operate () { associationId := 8 } { controlValue := [1] } 10099]

theorem guarded_control_safe_sample :
    (history openPlanner.step {} contendedCalls).map (fun t => t.output.map (·.status)) =
      [some .ok, some .acceptedWaitingTermination, some .commandAlreadyInExecution] ∧
    ∀ t ∈ (history openPlanner.step {} contendedCalls)[1]?,
      ControlSafe openPlanner ((history openPlanner.step {} contendedCalls).take 1) t := by
  refine ⟨by decide, fun t ht => ?_⟩
  have htimes : contendedCalls.Pairwise ControlCall.NotAfter := by
    simp [contendedCalls, ControlCall.NotAfter, ControlCall.nowMs?]
  have hsplit : history openPlanner.step {} contendedCalls =
      (history openPlanner.step {} contendedCalls).take 1 ++
        t :: (history openPlanner.step {} contendedCalls).drop 2 := by
    cases ht
    rfl
  exact guarded_control_safe openPlanner htimes hsplit

end ArStack.Control
