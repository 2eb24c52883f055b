import ArStack.Mms.StaticBrcbObjects
import ArStack.Properties.BrcbOwnership

/-!
# What a rejected attribute write leaves behind

A write claims a free block for its client before it asks the runtime, and the claim stays when
the runtime refuses.

* `request_refused` — a refused request changes nothing
* `claimAndRequest_reserved`, `claimAndRequest_free` — the claim in front of it
* `rejected_write_iff` — exactly which rejected writes have no effect
-/

namespace ArStack.Mms

open MmsStaticBrcbRuntime MmsStaticBrcbControl MmsStaticBrcbObjects

/-! ## Refusals of the runtime -/

namespace MmsStaticBrcbRuntime

variable {rt : MmsStaticBrcbRuntime}

theorem configure_refused {valid unchanged : Bool}
    {update : MmsStaticBrcbRuntime → MmsStaticBrcbRuntime}
    (h : (rt.configure valid unchanged update).1 ≠ .ok) :
    (rt.configure valid unchanged update).2 = rt := by
  rw [configure] at h ⊢
  split
  · rfl
  split
  · rfl
  split
  · rfl
  split
  · rfl
  · rename_i hinit hvalid henabled hchanged
    rw [if_neg hinit, if_neg hvalid, if_neg henabled, if_neg hchanged] at h
    exact absurd rfl h

theorem requestGeneralInterrogation_refused (h : rt.requestGeneralInterrogation.1 ≠ .ok) :
    rt.requestGeneralInterrogation.2 = rt := by
  rw [requestGeneralInterrogation] at h ⊢
  split
  · rfl
  split
  · rfl
  split
  · rfl
  split
  · rfl
  · rename_i hinit henabled htrigger hpending
    rw [if_neg hinit, if_neg henabled, if_neg htrigger, if_neg hpending] at h
    exact absurd rfl h

theorem setEnabled_refused {enabled : Bool} (h : (rt.setEnabled enabled).1 ≠ .ok) :
    (rt.setEnabled enabled).2 = rt := by
  rw [setEnabled] at h ⊢
  split
  · rfl
  split
  · rfl
  · rename_i hinit hsame
    rw [if_neg hinit, if_neg hsame] at h
    exact absurd rfl h

theorem moveCursor_refused {entryId : Bytes} {behind : Nat}
    (h : (rt.moveCursor entryId behind).1 ≠ .ok) : (rt.moveCursor entryId behind).2 = rt := by
  rw [moveCursor] at h ⊢
  split
  · rfl
  · rename_i hinit
    rw [if_neg hinit] at h
    cases hfind : rt.findEntry entryId with
    | none => rfl
    | some logical =>
      rw [hfind] at h
      exact absurd rfl h

theorem rewindToOldest_refused (h : rt.rewindToOldest.1 ≠ .ok) : rt.rewindToOldest.2 = rt := by
  rw [rewindToOldest] at h ⊢
  split
  · rfl
  · rename_i hready
    rw [if_neg hready] at h
    exact absurd rfl h

theorem purgeBuffer_refused (h : rt.purgeBuffer.1 ≠ .ok) : rt.purgeBuffer.2 = rt := by
  rw [purgeBuffer] at h ⊢
  split
  · rfl
  · rename_i hready
    rw [if_neg hready] at h
    exact absurd rfl h

end MmsStaticBrcbRuntime

/-! ## Refusals of the control -/

namespace MmsStaticBrcbControl

variable {control : MmsStaticBrcbControl} {client : MmsStaticBrcbClientIdentity} {nowMs : UInt64}

theorem mapRuntimeStatus_ok {status : MmsStaticBrcbStatus} :
    mapRuntimeStatus status = .ok ↔ status = .ok := by
  cases status <;> decide

/-- A call that changes nothing when it is refused, behind the gate. -/
theorem forward_refused {call : MmsStaticBrcbRuntime → MmsStaticBrcbStatus × MmsStaticBrcbRuntime}
    (hcall : ∀ rt, (call rt).1 ≠ .ok → (call rt).2 = rt) (h : (control.forward call).1 ≠ .ok) :
    (control.forward call).2 = control := by
  have hstatus : (call control.reports).1 ≠ .ok := fun hok => h (mapRuntimeStatus_ok.mpr hok)
  show { control with reports := (call control.reports).2 } = control
  rw [hcall control.reports hstatus]

theorem guarded_refused {enabled : Bool}
    {call : MmsStaticBrcbRuntime → MmsStaticBrcbStatus × MmsStaticBrcbRuntime}
    (hcall : ∀ rt, (call rt).1 ≠ .ok → (call rt).2 = rt)
    (h : (control.guarded client nowMs enabled call).1 ≠ .ok) :
    control.OnlyTicked nowMs (control.guarded client nowMs enabled call).2 := by
  simp only [guarded] at h ⊢
  rcases requireControlAccess_cases control client nowMs with ⟨hne, honly⟩ | ⟨hok, -, -, heq⟩
  · rw [if_pos hne]
    exact honly
  · rw [if_neg (not_not.mpr hok), heq] at h ⊢
    split
    · exact .inl rfl
    · rename_i henabled
      rw [if_neg henabled] at h
      exact .inl (forward_refused hcall h)

/-- **A refused request changes nothing but what has expired.** -/
theorem request_refused {request : Request} (h : (control.request client nowMs request).1 ≠ .ok) :
    control.OnlyTicked nowMs (control.request client nowMs request).2 := by
  cases request with
  | release =>
    simp only [MmsStaticBrcbControl.request, release] at h ⊢
    rcases requireControlAccess_cases control client nowMs with ⟨hne, honly⟩ | ⟨hok, -, -, heq⟩
    · rw [if_pos hne]
      exact honly
    · rw [if_neg (not_not.mpr hok), heq] at h ⊢
      split
      · exact .inl rfl
      · rename_i henabled
        rw [if_neg henabled] at h
        exact absurd rfl h
  | setReportEnabled enabled =>
    simp only [MmsStaticBrcbControl.request, setReportEnabled] at h ⊢
    rcases requireControlAccess_cases control client nowMs with ⟨hne, honly⟩ | ⟨hok, -, -, heq⟩
    · rw [if_pos hne]
      exact honly
    · rw [if_neg (not_not.mpr hok), heq] at h ⊢
      exact .inl (forward_refused (fun rt => setEnabled_refused) h)
  | setOptionalFields optionalFields => exact guarded_refused (fun rt => configure_refused) h
  | setTriggerOptions triggerOptions => exact guarded_refused (fun rt => configure_refused) h
  | setIntegrityPeriod integrityPeriodMs => exact guarded_refused (fun rt => configure_refused) h
  | requestGeneralInterrogation =>
    exact guarded_refused (fun rt => requestGeneralInterrogation_refused) h
  | replayFrom entryId => exact guarded_refused (fun rt => moveCursor_refused) h
  | resumeAfter entryId => exact guarded_refused (fun rt => moveCursor_refused) h
  | rewindToOldest => exact guarded_refused (fun rt => rewindToOldest_refused) h
  | purgeBuffer => exact guarded_refused (fun rt => purgeBuffer_refused) h

theorem reserve_refused {seconds : UInt32} (h : (control.reserve client nowMs seconds).1 ≠ .ok) :
    control.OnlyTicked nowMs (control.reserve client nowMs seconds).2 := by
  simp only [reserve] at h ⊢
  split
  · exact .inl rfl
  split
  · exact .inl rfl
  rename_i hvalid hclient
  rw [if_neg hvalid, if_neg hclient] at h
  split
  · rename_i hfree
    rw [if_pos hfree] at h
    exact absurd rfl h
  rename_i hfree
  rw [if_neg hfree] at h
  split
  · exact .inr rfl
  rename_i hsame
  rw [if_neg hsame] at h
  split
  · exact .inr rfl
  · rename_i hother
    rw [if_neg hother] at h
    exact absurd rfl h

/-! ## What an owner is refused -/

/-- The runtime refuses this request of the owner. -/
def refuses (rt : MmsStaticBrcbRuntime) : Request → Bool
  | .release => rt.enabled
  | .setReportEnabled _ => false
  | .setOptionalFields fields =>
    rt.enabled || !(decide (fields.length = optionalFieldBytes) &&
      fields.getD 0 0 &&& ~~~allowedOptionalFirst == 0 &&
      fields.getD 1 0 &&& ~~~allowedOptionalSecond == 0)
  | .setTriggerOptions options => rt.enabled || options &&& ~~~allowedTriggers != 0
  | .setIntegrityPeriod _ => rt.enabled
  | .requestGeneralInterrogation =>
    !rt.enabled || rt.triggerOptions &&& triggerGeneralInterrogation == 0
  | .replayFrom entryId | .resumeAfter entryId => rt.enabled || (rt.findEntry entryId).isNone
  | .rewindToOldest => rt.enabled || decide (rt.count > rt.slots.length)
  | .purgeBuffer => rt.enabled || rt.slots.isEmpty

variable (nowMs) in
/-- The gate is open for the owner. -/
theorem requireControlAccess_owner (hvalid : control.valid = true) (hclient : client.valid = true)
    (howns : control.ownsLiveAssociation client = true) :
    control.requireControlAccess client nowMs = (.ok, control) := by
  have hconnected := (records_of_ownsLiveAssociation howns).ownerConnected
  have htick : control.tick nowMs = control := by
    rw [tick, if_pos (by simp [hconnected])]
  rw [requireControlAccess, if_neg (by simp [hvalid]), if_neg (by simp [hclient])]
  dsimp only
  rw [htick, if_pos howns]

theorem guarded_owner (hgate : control.requireControlAccess client nowMs = (.ok, control))
    (enabled : Bool) (call : MmsStaticBrcbRuntime → MmsStaticBrcbStatus × MmsStaticBrcbRuntime) :
    (control.guarded client nowMs enabled call).1 = .ok ↔
      control.reports.enabled = enabled ∧ (call control.reports).1 = .ok := by
  simp only [guarded, hgate, ne_eq, not_true_eq_false, if_false]
  by_cases henabled : control.reports.enabled = enabled
  · rw [if_neg (not_not.mpr henabled)]
    exact mapRuntimeStatus_ok.trans ⟨fun hok => ⟨henabled, hok⟩, fun h => h.2⟩
  · rw [if_pos henabled]
    exact iff_of_false (by simp) fun h => henabled h.1

theorem configure_ok {rt : MmsStaticBrcbRuntime} (hinit : rt.initialized = true)
    {valid unchanged : Bool} {update : MmsStaticBrcbRuntime → MmsStaticBrcbRuntime} :
    rt.enabled = false ∧ (rt.configure valid unchanged update).1 = .ok ↔
      rt.enabled = false ∧ valid = true := by
  rw [configure, if_neg (by simp [hinit])]
  cases valid <;> cases henabled : rt.enabled <;> cases unchanged <;> simp

theorem moveCursor_ok {rt : MmsStaticBrcbRuntime} (hinit : rt.initialized = true)
    {entryId : Bytes} {behind : Nat} :
    (rt.moveCursor entryId behind).1 = .ok ↔ (rt.findEntry entryId).isNone = false := by
  rw [moveCursor, if_neg (by simp [hinit])]
  cases rt.findEntry entryId <;> simp

/-- **The owner's request succeeds unless the runtime refuses it.** -/
theorem request_owner (hvalid : control.valid = true)
    (hgate : control.requireControlAccess client nowMs = (.ok, control)) (request : Request) :
    (control.request client nowMs request).1 = .ok ↔ refuses control.reports request = false := by
  have hinit : control.reports.initialized = true := hvalid
  cases request with
  | release =>
    simp only [MmsStaticBrcbControl.request, release, hgate, refuses]
    cases control.reports.enabled <;> simp
  | setReportEnabled enabled =>
    have hcall : (control.reports.setEnabled enabled).1 = .ok := by
      rw [setEnabled, if_neg (by simp [hinit])]
      split <;> rfl
    simp only [MmsStaticBrcbControl.request, setReportEnabled, hgate, refuses]
    exact iff_of_true (mapRuntimeStatus_ok.mpr hcall) trivial
  | setOptionalFields fields =>
    refine (guarded_owner hgate _ _).trans ((configure_ok hinit).trans ?_)
    simp [refuses]
  | setTriggerOptions options =>
    refine (guarded_owner hgate _ _).trans ((configure_ok hinit).trans ?_)
    simp [refuses]
  | setIntegrityPeriod period =>
    refine (guarded_owner hgate _ _).trans ((configure_ok hinit).trans ?_)
    simp [refuses]
  | requestGeneralInterrogation =>
    refine (guarded_owner hgate _ _).trans ?_
    rw [MmsStaticBrcbRuntime.requestGeneralInterrogation, if_neg (by simp [hinit]), refuses]
    cases henabled : control.reports.enabled with
    | false => simp
    | true =>
      by_cases htrigger : control.reports.triggerOptions &&& triggerGeneralInterrogation = 0
      · simp [htrigger]
      · cases control.reports.generalInterrogationPending <;> simp [htrigger]
  | replayFrom entryId =>
    refine (guarded_owner hgate _ _).trans ?_
    rw [MmsStaticBrcbRuntime.replayFrom, moveCursor_ok hinit, refuses, Bool.or_eq_false_iff]
  | resumeAfter entryId =>
    refine (guarded_owner hgate _ _).trans ?_
    rw [MmsStaticBrcbRuntime.resumeAfter, moveCursor_ok hinit, refuses, Bool.or_eq_false_iff]
  | rewindToOldest =>
    refine (guarded_owner hgate _ _).trans ?_
    rw [MmsStaticBrcbRuntime.rewindToOldest, refuses, Bool.or_eq_false_iff, hinit]
    by_cases hcount : control.reports.count > control.reports.slots.length <;> simp [hcount]
  | purgeBuffer =>
    refine (guarded_owner hgate _ _).trans ?_
    rw [MmsStaticBrcbRuntime.purgeBuffer, refuses, Bool.or_eq_false_iff, hinit]
    cases control.reports.slots.isEmpty <;> simp

/-! ## The claim -/

theorem tick_tick : (control.tick nowMs).tick nowMs = control.tick nowMs := by
  rcases tick_cases control nowMs with ⟨hlive, heq⟩ | ⟨-, heq⟩
  · rw [heq, heq]
  · rw [heq]
    rfl

theorem valid_tick : (control.tick nowMs).valid = control.valid := by
  rcases tick_cases control nowMs with ⟨-, heq⟩ | ⟨-, heq⟩
  · rw [heq]
  · rw [heq]
    exact initialized_disableReports

theorem OnlyTicked.of_tick {after : MmsStaticBrcbControl}
    (h : (control.tick nowMs).OnlyTicked nowMs after) : control.OnlyTicked nowMs after := by
  rcases h with h | h
  · exact .inr h
  · exact .inr (h.trans tick_tick)

/-- A block that is free at `nowMs`, claimed for the client. -/
def claimed (control : MmsStaticBrcbControl) (client : MmsStaticBrcbClientIdentity)
    (nowMs : UInt64) : MmsStaticBrcbControl :=
  { control.tick nowMs with
    owner := (control.tick nowMs).copyOwner client
    ownerSize := client.ownerSize
    associationId := client.associationId
    resvTmsSeconds := 0
    reservationExpiresAtMs := 0
    reserved := true
    ownerConnected := true }

theorem ensureClaimed_reserved (h : (control.tick nowMs).reserved = true) :
    ensureClaimed control client nowMs = (.ok, control.tick nowMs) := by
  simp only [ensureClaimed, state, h, if_true]

theorem ensureClaimed_free (hfree : (control.tick nowMs).reserved = false)
    (hvalid : control.valid = true) (hclient : client.valid = true) :
    ensureClaimed control client nowMs = (.ok, control.claimed client nowMs) := by
  simp only [ensureClaimed, state, hfree, Bool.false_eq_true, if_false, reserve, valid_tick,
    hvalid, hclient, Bool.not_true, tick_tick, Bool.not_false, if_true]
  rfl

/-- The client that claimed the block owns it. -/
theorem ownsLiveAssociation_claimed (hclient : client.valid = true) :
    (control.claimed client nowMs).ownsLiveAssociation client = true := by
  have hle : client.ownerSize ≤ maximumOwnerBytes := by
    simp only [MmsStaticBrcbClientIdentity.valid, Bool.and_eq_true, decide_eq_true_eq] at hclient
    exact hclient.2
  have howner : ((control.tick nowMs).copyOwner client).toList.take client.ownerSize
      = client.owner.toList.take client.ownerSize := by
    rw [copyOwner_view hle, MmsStaticBrcbClientIdentity.ownerView, if_pos hle]
  rw [ownsLiveAssociation, sameOwner]
  simp [claimed, hclient, howner]

theorem request_claimed {request : Request}
    (h : ((control.claimed client nowMs).request client nowMs request).1 ≠ .ok) :
    ((control.claimed client nowMs).request client nowMs request).2
      = control.claimed client nowMs := by
  have htick : (control.claimed client nowMs).tick nowMs = control.claimed client nowMs := by
    rw [tick, if_pos (by simp [claimed])]
  rcases request_refused h with heq | heq
  · exact heq
  · exact heq.trans htick

end MmsStaticBrcbControl

/-! ## The write -/

namespace MmsStaticBrcbObjects

variable {control : MmsStaticBrcbControl} {client : MmsStaticBrcbClientIdentity} {nowMs : UInt64}

theorem mapControlStatus_success {status : MmsStaticBrcbControlStatus} :
    (mapControlStatus status).success = true ↔ status = .ok := by
  cases status <;> decide

theorem refused_of_failure {status : MmsStaticBrcbControlStatus}
    (h : (mapControlStatus status).success = false) : status ≠ .ok := by
  rintro rfl
  cases h

/-- On a block that is reserved, a rejected write has no effect. -/
theorem claimAndRequest_reserved {request : Request} (hreserved : (control.tick nowMs).reserved = true)
    (h : (claimAndRequest control client nowMs request).1.success = false) :
    control.OnlyTicked nowMs (claimAndRequest control client nowMs request).2 := by
  simp only [claimAndRequest, ensureClaimed_reserved hreserved, ne_eq, not_true_eq_false,
    if_false] at h ⊢
  exact (request_refused (refused_of_failure h)).of_tick

/-- Nor on a free block that cannot be claimed. -/
theorem claimAndRequest_unclaimed {request : Request}
    (hfree : (control.tick nowMs).reserved = false)
    (hunfit : ¬(control.valid = true ∧ client.valid = true)) :
    control.OnlyTicked nowMs (claimAndRequest control client nowMs request).2 := by
  have hclaim : (ensureClaimed control client nowMs).1 ≠ .ok ∧
      (ensureClaimed control client nowMs).2 = control.tick nowMs := by
    simp only [ensureClaimed, state, hfree, Bool.false_eq_true, if_false, reserve, valid_tick]
    cases hvalid : control.valid with
    | false => simp
    | true =>
      cases hclient : client.valid with
      | false => simp
      | true => exact absurd ⟨hvalid, hclient⟩ hunfit
  simp only [claimAndRequest]
  rw [if_pos hclaim.1]
  exact .inr hclaim.2

/-- **On a free block a request that the runtime refuses leaves the claim.** -/
theorem claimAndRequest_free {request : Request} (hfree : (control.tick nowMs).reserved = false)
    (hvalid : control.valid = true) (hclient : client.valid = true) :
    ((claimAndRequest control client nowMs request).1.success = false →
        control.OnlyTicked nowMs (claimAndRequest control client nowMs request).2) ↔
      refuses (control.tick nowMs).reports request = false := by
  have hvalid' : (control.claimed client nowMs).valid = true := valid_tick.trans hvalid
  have hgate := requireControlAccess_owner nowMs hvalid' hclient
    (ownsLiveAssociation_claimed hclient)
  have hreports : (control.claimed client nowMs).reports = (control.tick nowMs).reports := rfl
  have howner := request_owner hvalid' hgate request
  rw [hreports] at howner
  have hclaim := ensureClaimed_free hfree hvalid hclient
  simp only [claimAndRequest, hclaim, ne_eq, not_true_eq_false, if_false]
  cases hrefuses : refuses (control.tick nowMs).reports request with
  | false =>
    refine iff_of_true (fun h => ?_) rfl
    exact absurd (howner.mpr hrefuses) (refused_of_failure h)
  | true =>
    have hne : ((control.claimed client nowMs).request client nowMs request).1 ≠ .ok := by
      intro hok
      rw [howner.mp hok] at hrefuses
      cases hrefuses
    have hfailed : (mapControlStatus
        ((control.claimed client nowMs).request client nowMs request).1).success = false := by
      rw [← Bool.not_eq_true, mapControlStatus_success]
      exact hne
    refine iff_of_false (fun h => ?_) (by simp)
    have honly := h hfailed
    rw [request_claimed hne] at honly
    rcases honly with heq | heq
    · have hlive : control.tick nowMs = control := by
        rw [← heq, tick, if_pos (by simp [claimed])]
      rw [hlive, ← heq] at hfree
      cases hfree
    · rw [← heq] at hfree
      cases hfree

/-- The request a well-formed write makes of a block it has claimed. -/
def requestOfFree (attr : MmsStaticBrcbAttribute) (encodedData : Bytes) : Option Request :=
  match attr with
  | .reportEnabled =>
    (decodeBoolean encodedData).bind fun value =>
      if value then some (.setReportEnabled true) else none
  | .optionalFields =>
    (decodeBitString 6 2 encodedData).bind fun bytes =>
      if bytes.getD 0 0 &&& ~~~allowedOptionalFirst ≠ 0 ∨
          bytes.getD 1 0 &&& ~~~allowedOptionalSecond ≠ 0 then none
      else some (.setOptionalFields bytes)
  | .triggerOptions =>
    (decodeBitString 2 1 encodedData).bind fun bytes =>
      if bytes.getD 0 0 &&& ~~~allowedTriggers ≠ 0 then none
      else some (.setTriggerOptions (bytes.getD 0 0))
  | .integrityPeriod => (decodeUnsigned32 encodedData).map .setIntegrityPeriod
  | .generalInterrogation =>
    (decodeBoolean encodedData).bind fun value =>
      if value then some .requestGeneralInterrogation else none
  | .purgeBuffer =>
    (decodeBoolean encodedData).bind fun value => if value then some .purgeBuffer else none
  | .entryId =>
    (decodeEntryIdOctets encodedData).map fun entryId =>
      if allZero entryId then .rewindToOldest else .resumeAfter entryId
  | .reservationTime | .reportId | .dataSet | .confRevision | .bufferTime | .sequenceNumber
  | .timeOfEntry | .owner => none

/-- The write claims a free block for a request that the runtime refuses. -/
structure ClaimsInVain (control : MmsStaticBrcbControl) (attr : MmsStaticBrcbAttribute)
    (encodedData : Bytes) (access : MmsStaticRequestAccessContext) (nowMs : UInt64) : Prop where
  free : (control.tick nowMs).reserved = false
  valid : control.valid = true
  client : (makeClient access).isSome = true
  refused : ∃ request ∈ requestOfFree attr encodedData,
    refuses (control.tick nowMs).reports request = true

theorem valid_makeClient {access : MmsStaticRequestAccessContext} (h : makeClient access = some client) :
    client.valid = true := by
  rw [makeClient] at h
  split at h
  · cases h
  · dsimp only at h
    split at h
    · rename_i hvalid
      cases h
      exact hvalid
    · cases h

theorem claimAndRequest_tick {request : Request} :
    claimAndRequest (control.tick nowMs) client nowMs request
      = claimAndRequest control client nowMs request := by
  have hclaim : ensureClaimed (control.tick nowMs) client nowMs
      = ensureClaimed control client nowMs := by
    rw [ensureClaimed, ensureClaimed, state, state, tick_tick]
  rw [claimAndRequest, claimAndRequest, hclaim]

/-- The write makes this request of a block it has claimed, or none and then has no effect when
it is rejected. -/
structure Makes (control : MmsStaticBrcbControl) (client : MmsStaticBrcbClientIdentity)
    (nowMs : UInt64) (answer : MmsStaticWriteResult × MmsStaticBrcbControl)
    (request? : Option Request) : Prop where
  some : ∀ request ∈ request?, answer = claimAndRequest control client nowMs request
  none : request? = none → answer.1.success = false → control.OnlyTicked nowMs answer.2

theorem Makes.request {request : Request} :
    Makes control client nowMs (claimAndRequest control client nowMs request) (.some request) where
  some := by
    intro request' hrequest
    cases hrequest
    rfl
  none := fun h => by simp at h

/-- The write is answered at once. -/
theorem Makes.answered {result : MmsStaticWriteResult} :
    Makes control client nowMs (result, control) Option.none where
  some := by simp
  none _ _ := .inl rfl

theorem Makes.rejected_iff {answer : MmsStaticWriteResult × MmsStaticBrcbControl}
    {request? : Option Request} (h : Makes control client nowMs answer request?)
    (hclient : client.valid = true) :
    (answer.1.success = false → control.OnlyTicked nowMs answer.2) ↔
      ¬((control.tick nowMs).reserved = false ∧ control.valid = true ∧
        ∃ request ∈ request?, refuses (control.tick nowMs).reports request = true) := by
  cases hrequest : request? with
  | none => exact iff_of_true (h.none hrequest) (by simp)
  | some request =>
    rw [h.some request hrequest]
    cases hreserved : (control.tick nowMs).reserved with
    | true => exact iff_of_true (claimAndRequest_reserved hreserved) (by simp)
    | false =>
      cases hvalid : control.valid with
      | false =>
        refine iff_of_true (fun _ => claimAndRequest_unclaimed hreserved fun h => ?_) (by simp)
        rw [h.1] at hvalid
        cases hvalid
      | true =>
        rw [claimAndRequest_free hreserved hvalid hclient]
        simp

theorem writeReportEnabled_eq {encodedData : Bytes} {value : Bool}
    (h : MmsStaticBrcbObjects.decodeBoolean encodedData = some value) :
    writeReportEnabled control client nowMs encodedData =
      if !value && !(control.tick nowMs).reserved then (written, control.tick nowMs)
      else claimAndRequest control client nowMs (.setReportEnabled value) := by
  rw [writeReportEnabled, h, ← claimAndRequest_tick]
  rfl

theorem makes_reportEnabled {encodedData : Bytes} :
    Makes control client nowMs (writeReportEnabled control client nowMs encodedData)
      (requestOfFree .reportEnabled encodedData) := by
  cases hdecode : MmsStaticBrcbObjects.decodeBoolean encodedData with
  | none =>
    rw [requestOfFree, writeReportEnabled, hdecode]
    exact .answered
  | some value =>
    rw [requestOfFree, writeReportEnabled_eq hdecode, hdecode]
    cases value with
    | true => exact @Makes.request control client nowMs (.setReportEnabled true)
    | false =>
      refine ⟨by simp, fun _ => ?_⟩
      by_cases hreserved : (control.tick nowMs).reserved = true
      · rw [if_neg (by simp [hreserved])]
        exact claimAndRequest_reserved hreserved
      · rw [if_pos (by simp [hreserved])]
        exact fun h => absurd h (by simp [written])

theorem makes_optionalFields {encodedData : Bytes} :
    Makes control client nowMs (writeOptionalFields control client nowMs encodedData)
      (requestOfFree .optionalFields encodedData) := by
  rw [requestOfFree, writeOptionalFields]
  cases decodeBitString 6 2 encodedData with
  | none => exact .answered
  | some bytes =>
    dsimp only [Option.bind_some]
    split
    · exact .answered
    · exact .request

theorem makes_triggerOptions {encodedData : Bytes} :
    Makes control client nowMs (writeTriggerOptions control client nowMs encodedData)
      (requestOfFree .triggerOptions encodedData) := by
  rw [requestOfFree, writeTriggerOptions]
  cases decodeBitString 2 1 encodedData with
  | none => exact .answered
  | some bytes =>
    dsimp only [Option.bind_some]
    split
    · exact .answered
    · exact .request

theorem makes_integrityPeriod {encodedData : Bytes} :
    Makes control client nowMs (writeIntegrityPeriod control client nowMs encodedData)
      (requestOfFree .integrityPeriod encodedData) := by
  rw [requestOfFree, writeIntegrityPeriod]
  cases decodeUnsigned32 encodedData with
  | none => exact .answered
  | some value => exact .request

/-- `GI` and `PurgeBuf`. -/
theorem makes_command {encodedData : Bytes} {request : Request} :
    Makes control client nowMs (writeCommand control client nowMs encodedData request)
      ((MmsStaticBrcbObjects.decodeBoolean encodedData).bind fun value =>
        if value then some request else none) := by
  rw [writeCommand]
  cases MmsStaticBrcbObjects.decodeBoolean encodedData with
  | none => exact .answered
  | some value =>
    cases value with
    | false => exact .answered
    | true => exact .request

theorem makes_entryId {encodedData : Bytes} :
    Makes control client nowMs (writeEntryId control client nowMs encodedData)
      (requestOfFree .entryId encodedData) := by
  rw [requestOfFree, writeEntryId]
  cases decodeEntryIdOctets encodedData with
  | none => exact .answered
  | some entryId => exact .request

theorem writeReservationTime_eq {encodedData : Bytes} {seconds : UInt32}
    (h : decodeNonnegativeInteger16 encodedData = some seconds) :
    writeReservationTime control client nowMs encodedData =
      if seconds = 0 then
        if !(control.tick nowMs).reserved then (written, control.tick nowMs)
        else
          (mapControlStatus ((control.tick nowMs).request client nowMs .release).1,
            ((control.tick nowMs).request client nowMs .release).2)
      else
        (mapControlStatus ((control.tick nowMs).reserve client nowMs seconds).1,
          ((control.tick nowMs).reserve client nowMs seconds).2) := by
  rw [writeReservationTime, h]
  rfl

theorem writeReservationTime_refused {encodedData : Bytes}
    (h : (writeReservationTime control client nowMs encodedData).1.success = false) :
    control.OnlyTicked nowMs (writeReservationTime control client nowMs encodedData).2 := by
  cases hseconds : decodeNonnegativeInteger16 encodedData with
  | none =>
    rw [writeReservationTime, hseconds]
    exact .inl rfl
  | some seconds =>
    rw [writeReservationTime_eq hseconds] at h ⊢
    by_cases hzero : seconds = 0
    · rw [if_pos hzero] at h ⊢
      by_cases hfree : (!(control.tick nowMs).reserved) = true
      · rw [if_pos hfree]
        exact .inr rfl
      · rw [if_neg hfree] at h ⊢
        exact (request_refused (refused_of_failure h)).of_tick
    · rw [if_neg hzero] at h ⊢
      exact (reserve_refused (refused_of_failure h)).of_tick

theorem makes_reservationTime {encodedData : Bytes} :
    Makes control client nowMs (writeReservationTime control client nowMs encodedData)
      (requestOfFree .reservationTime encodedData) where
  some := by simp [requestOfFree]
  none _ := writeReservationTime_refused

/-- **A rejected write has no effect, unless it claims a free block in vain.** -/
theorem rejected_write_iff (control : MmsStaticBrcbControl) (attr : MmsStaticBrcbAttribute)
    (encodedData : Bytes) (access : MmsStaticRequestAccessContext) (nowMs : UInt64) :
    ((writeBrcbAttribute control attr encodedData access nowMs).1.success = false →
        control.OnlyTicked nowMs (writeBrcbAttribute control attr encodedData access nowMs).2) ↔
      ¬ClaimsInVain control attr encodedData access nowMs := by
  rw [writeBrcbAttribute]
  cases haccess : makeClient access with
  | none =>
    refine iff_of_true (fun _ => .inl rfl) fun h => ?_
    have hclient := h.client
    rw [haccess] at hclient
    cases hclient
  | some client =>
    have hclient := valid_makeClient haccess
    have hvain : ClaimsInVain control attr encodedData access nowMs ↔
        (control.tick nowMs).reserved = false ∧ control.valid = true ∧
          ∃ request ∈ requestOfFree attr encodedData,
            refuses (control.tick nowMs).reports request = true :=
      ⟨fun h => ⟨h.free, h.valid, h.refused⟩,
        fun h => ⟨h.1, h.2.1, by rw [haccess]; rfl, h.2.2⟩⟩
    rw [hvain]
    cases attr with
    | reportEnabled => exact makes_reportEnabled.rejected_iff hclient
    | optionalFields => exact makes_optionalFields.rejected_iff hclient
    | triggerOptions => exact makes_triggerOptions.rejected_iff hclient
    | integrityPeriod => exact makes_integrityPeriod.rejected_iff hclient
    | generalInterrogation => exact makes_command.rejected_iff hclient
    | purgeBuffer => exact makes_command.rejected_iff hclient
    | entryId => exact makes_entryId.rejected_iff hclient
    | reservationTime => exact makes_reservationTime.rejected_iff hclient
    | reportId => exact Makes.answered.rejected_iff hclient
    | dataSet => exact Makes.answered.rejected_iff hclient
    | confRevision => exact Makes.answered.rejected_iff hclient
    | bufferTime => exact Makes.answered.rejected_iff hclient
    | sequenceNumber => exact Makes.answered.rejected_iff hclient
    | timeOfEntry => exact Makes.answered.rejected_iff hclient
    | owner => exact Makes.answered.rejected_iff hclient

/-- A fresh control block, and the association of a client. -/
def freshControl : MmsStaticBrcbControl := { reports := (sampleRuntime [40]).initializeRuntime.2 }

def clientAccess (associationId : UInt64) : MmsStaticRequestAccessContext :=
  { associationId := associationId, owner := [UInt8.ofNat associationId.toNat] }

/-- **A general interrogation of a disabled block is rejected, and keeps every other client out.** -/
theorem rejected_write_claims :
    let data : Bytes := [0x83, 0x01, 0xFF]
    let (result, control) :=
      writeBrcbAttribute freshControl .generalInterrogation data (clientAccess 1) 0
    (freshControl.valid = true ∧ freshControl.reserved = false) ∧
    result = failed temporarilyUnavailable ∧ control.reserved = true ∧
    control.associationId = 1 ∧
    (writeBrcbAttribute freshControl .reportEnabled data (clientAccess 2) 0).1 = written ∧
    (writeBrcbAttribute control .reportEnabled data (clientAccess 2) 0).1
      = failed objectAccessDenied := by
  decide

end MmsStaticBrcbObjects

end ArStack.Mms
