import ArStack.Mms.AssociationEvents

/-!
# What an operation does to the event log

* `Follows` — the log goes on: as long as it drops nothing, what was in it stays in front
* `Quiet` — it goes on without a new association
* one lemma for each operation
-/

namespace ArStack.Mms

open ArStack.Lib

namespace MmsEventedAssociation

/-- The log has gone on; an association that was accepted since is in it unless it has dropped
something. -/
structure Follows (rt rt' : MmsEventedAssociation) : Prop where
  dropped : rt.dropped ≤ rt'.dropped
  accepted : rt.accepted ≤ rt'.accepted
  events : rt'.dropped = rt.dropped → ∃ added, rt'.events = rt.events ++ added ∧
    (rt.accepted < rt'.accepted → ∃ event ∈ added, event.kind = .associationAccepted)

/-- The log has gone on in the same association. -/
structure Quiet (rt rt' : MmsEventedAssociation) : Prop extends Follows rt rt' where
  same : rt'.accepted = rt.accepted

theorem Follows.of_log {rt rt' : MmsEventedAssociation} (hevents : rt'.events = rt.events)
    (hdropped : rt'.dropped = rt.dropped) (haccepted : rt'.accepted = rt.accepted) :
    Follows rt rt' where
  dropped := Nat.le_of_eq hdropped.symm
  accepted := Nat.le_of_eq haccepted.symm
  events := fun _ => ⟨[], by rw [hevents, List.append_nil], fun hlt => by omega⟩

theorem Follows.trans {rt rt' rt'' : MmsEventedAssociation} (h : Follows rt rt')
    (h' : Follows rt' rt'') : Follows rt rt'' where
  dropped := Nat.le_trans h.dropped h'.dropped
  accepted := Nat.le_trans h.accepted h'.accepted
  events := by
    intro hsame
    have hle := h.dropped
    have hle' := h'.dropped
    obtain ⟨added, hevents, hadded⟩ := h.events (by omega)
    obtain ⟨added', hevents', hadded'⟩ := h'.events (by omega)
    refine ⟨added ++ added', by rw [hevents', hevents, List.append_assoc], fun hlt => ?_⟩
    by_cases hfirst : rt.accepted < rt'.accepted
    · obtain ⟨event, hmem, hkind⟩ := hadded hfirst
      exact ⟨event, List.mem_append_left _ hmem, hkind⟩
    · obtain ⟨event, hmem, hkind⟩ := hadded' (by omega)
      exact ⟨event, List.mem_append_right _ hmem, hkind⟩

theorem Quiet.of_log {rt rt' : MmsEventedAssociation} (hevents : rt'.events = rt.events)
    (hdropped : rt'.dropped = rt.dropped) (haccepted : rt'.accepted = rt.accepted) :
    Quiet rt rt' := ⟨.of_log hevents hdropped haccepted, haccepted⟩

theorem Quiet.refl (rt : MmsEventedAssociation) : Quiet rt rt := .of_log rfl rfl rfl

theorem Quiet.trans {rt rt' rt'' : MmsEventedAssociation} (h : Quiet rt rt')
    (h' : Quiet rt' rt'') : Quiet rt rt'' :=
  ⟨h.toFollows.trans h'.toFollows, h'.same.trans h.same⟩

/-- **Every event goes on.** -/
theorem follows_addEvent (rt : MmsEventedAssociation) (kind : MmsAssociationEventKind)
    (message : String) (invokeId : Option Nat) : Follows rt (rt.addEvent kind message invokeId) where
  dropped := by
    rw [addEvent]
    dsimp only
    split <;> omega
  accepted := by
    rw [addEvent]
    dsimp only
    split <;> omega
  events := by
    rw [addEvent]
    dsimp only
    intro hsame
    have hroom : decide (rt.events.length ≥ rt.options.maximumEvents) = false := by
      by_contra hfull
      rw [Bool.not_eq_false] at hfull
      rw [hfull, if_pos rfl] at hsame
      omega
    rw [hroom, if_neg Bool.false_ne_true]
    refine ⟨_, rfl, fun hlt => ⟨_, List.mem_singleton.mpr rfl, ?_⟩⟩
    by_contra hkind
    rw [if_neg hkind] at hlt
    omega

theorem quiet_addEvent (rt : MmsEventedAssociation) {kind : MmsAssociationEventKind}
    (hkind : kind ≠ .associationAccepted) (message : String) (invokeId : Option Nat) :
    Quiet rt (rt.addEvent kind message invokeId) :=
  ⟨follows_addEvent rt kind message invokeId, if_neg hkind⟩

theorem follows_enter (rt : MmsEventedAssociation) (state : MmsAssociationRuntimeState)
    (kind : MmsAssociationEventKind) (message : String) (invokeId : Option Nat) :
    Follows rt (rt.enter state kind message invokeId) := by
  have hstate : Follows rt { rt with state } := .of_log rfl rfl rfl
  exact hstate.trans (follows_addEvent { rt with state } kind message invokeId)

theorem quiet_enter (rt : MmsEventedAssociation) (state : MmsAssociationRuntimeState)
    {kind : MmsAssociationEventKind} (hkind : kind ≠ .associationAccepted) (message : String)
    (invokeId : Option Nat) : Quiet rt (rt.enter state kind message invokeId) :=
  ⟨follows_enter rt state kind message invokeId, if_neg hkind⟩

theorem quiet_closeAll (rt : MmsEventedAssociation) : Quiet rt rt.closeAll := .of_log rfl rfl rfl

theorem quiet_disconnect (rt : MmsEventedAssociation) : Quiet rt rt.disconnect := by
  rw [disconnect]
  split
  · exact .refl rt
  · exact ((quiet_enter rt _ (by decide) _ _).trans (quiet_closeAll _)).trans
      (quiet_enter _ _ (by decide) _ _)

/-! ## Connecting -/

theorem quiet_startTransport (rt : MmsEventedAssociation) (profile : String) (index count : Nat) :
    Quiet rt (rt.startTransport profile index count) := by
  have hreset : Quiet rt rt.resetForAttempt := .of_log rfl rfl rfl
  exact hreset.trans (quiet_enter rt.resetForAttempt .transportConnecting (by decide) _ none)

theorem quiet_startCotp (rt : MmsEventedAssociation) (profile : String) :
    Quiet rt (rt.startCotp profile) := by
  have hopen : Quiet rt { rt with transportConnected := true } := .of_log rfl rfl rfl
  rw [startCotp]
  exact (hopen.trans (quiet_enter _ _ (by decide) _ _)).trans (quiet_enter _ _ (by decide) _ _)

theorem quiet_startAcse (rt : MmsEventedAssociation) (profile : String) (tpduSizeCode : UInt8) :
    Quiet rt (rt.startAcse profile tpduSizeCode) := by
  rw [startAcse]
  exact (quiet_enter _ _ (by decide) _ _).trans (quiet_enter _ _ (by decide) _ _)

theorem follows_accept (rt : MmsEventedAssociation) (profile : String)
    (answer : Except String MmsInitiated) :
    Follows rt (rt.accept profile answer) ∧ rt.accepted < (rt.accept profile answer).accepted := by
  cases answer with
  | ok initiated =>
    rw [accept]
    refine ⟨Follows.trans ?_ (follows_enter _ _ _ _ _), Nat.lt_succ_self _⟩
    exact .of_log rfl rfl rfl
  | error compatibility =>
    rw [accept]
    refine ⟨Follows.trans ?_ (follows_enter _ _ _ _ _), Nat.lt_succ_self _⟩
    exact .of_log rfl rfl rfl

/-- An attempt that fails leaves the association as it is, one that succeeds is a new one. -/
theorem attempt_cases (rt : MmsEventedAssociation) (profile : String) (index count : Nat)
    (outcome : ProfileOutcome) :
    (∃ failure rt', rt.attempt profile index count outcome = (some failure, rt') ∧ Quiet rt rt') ∨
    ∃ rt', rt.attempt profile index count outcome = (none, rt') ∧ Follows rt rt' ∧
      rt.accepted < rt'.accepted := by
  have htransport := quiet_startTransport rt profile index count
  have hcotp := htransport.trans (quiet_startCotp _ profile)
  cases outcome with
  | beforeTransport failure => exact .inl ⟨failure, rt, rfl, .refl rt⟩
  | duringTransport failure => exact .inl ⟨failure, _, rfl, htransport⟩
  | duringCotp failure => exact .inl ⟨failure, _, rfl, hcotp⟩
  | duringAcse tpduSizeCode failure =>
    exact .inl ⟨failure, _, rfl, hcotp.trans (quiet_startAcse _ profile tpduSizeCode)⟩
  | accepted tpduSizeCode answer =>
    have hacse := hcotp.trans (quiet_startAcse _ profile tpduSizeCode)
    obtain ⟨hfollows, hlt⟩ := follows_accept (((rt.startTransport profile index count).startCotp
      profile).startAcse profile tpduSizeCode) profile answer
    have hsame := hacse.same
    exact .inr ⟨_, rfl, hacse.toFollows.trans hfollows, by omega⟩

theorem quiet_failProfile (rt : MmsEventedAssociation) {kind : MmsAssociationEventKind}
    (hkind : kind ≠ .associationAccepted) (message : String) :
    Quiet rt (rt.failProfile kind message) :=
  (quiet_enter rt _ hkind message none).trans (.of_log rfl rfl rfl)

/-- What an association is like after `connect`. -/
def Connected (rt : MmsEventedAssociation) : EStateM.Result MmsAssociationFailure
    MmsEventedAssociation Unit → Prop
  | .ok _ rt' => Follows rt rt' ∧ rt.accepted < rt'.accepted
  | .error _ rt' => Quiet rt rt'

theorem Connected.after {rt rt' : MmsEventedAssociation} (h : Quiet rt rt')
    {result : EStateM.Result MmsAssociationFailure MmsEventedAssociation Unit}
    (hresult : Connected rt' result) : Connected rt result := by
  have hsame := h.same
  cases result with
  | ok _ rt'' => exact ⟨h.toFollows.trans hresult.1, by have := hresult.2; omega⟩
  | error _ rt'' => exact h.trans hresult

theorem connected_connectProfiles (count : Nat) (profiles : List String) (index : Nat)
    (attempts : List String) (rt : MmsEventedAssociation) :
    Connected rt (connectProfiles count index attempts profiles rt) := by
  induction profiles generalizing index attempts rt with
  | nil => exact (quiet_closeAll rt).trans (quiet_enter _ _ (by decide) _ _)
  | cons profile profiles ih =>
    rw [connectProfiles]
    have hscript : Quiet rt
        { rt with script := { rt.script with profiles := rt.script.profiles.drop 1 } } :=
      .of_log rfl rfl rfl
    dsimp only
    generalize rt.script.profiles.headD
      (.duringTransport (.timeout "MMS transport connect timed out.")) = outcome
    refine Connected.after hscript ?_
    generalize { rt with script := { rt.script with profiles := rt.script.profiles.drop 1 } } = rt
    rcases attempt_cases rt profile index count outcome with
      ⟨failure, rt', hattempt, hquiet⟩ | ⟨rt', hattempt, hfollows, hlt⟩
    · rw [hattempt]
      cases failure with
      | cancelled message => exact hquiet.trans (quiet_failProfile rt' (by decide) _)
      | timeout message =>
        exact Connected.after (hquiet.trans (quiet_failProfile rt' (by decide) _)) (ih _ _ _)
      | error message =>
        dsimp only
        split
        · exact hquiet.trans (quiet_failProfile rt' (by decide) _)
        · exact Connected.after (hquiet.trans (quiet_failProfile rt' (by decide) _)) (ih _ _ _)
    · rw [hattempt]
      exact ⟨hfollows, hlt⟩

/-- **`connect` accepts a new association, or leaves the old one to end.** -/
theorem connected_connect (endpoint : MmsEndpoint) (rt : MmsEventedAssociation) :
    Connected rt (connect endpoint rt) := by
  rw [connect]
  split
  · exact Quiet.refl rt
  · split
    · exact Quiet.refl rt
    · refine Connected.after ((quiet_disconnect rt).trans ?_) (connected_connectProfiles _ _ _ _ _)
      exact .of_log rfl rfl rfl

/-! ## Exchanges -/

/-- What holds on through the work of an exchange: an event that is no acceptance is logged, what
is received is routed, or the transport is closed. -/
structure Stable (P : MmsEventedAssociation → Prop) : Prop where
  event : ∀ rt kind message invokeId, kind ≠ .associationAccepted → P rt →
    P (rt.addEvent kind message invokeId)
  work : ∀ rt state transportConnected invokeRouter informationReports script, P rt →
    P { rt with state, transportConnected, invokeRouter, informationReports, script }

theorem stable_quiet (rt₀ : MmsEventedAssociation) : Stable (Quiet rt₀) where
  event := fun rt _ message invokeId hkind h => h.trans (quiet_addEvent rt hkind message invokeId)
  work := fun _ _ _ _ _ _ h => h.trans (.of_log rfl rfl rfl)

section Exchanges

variable {P : MmsEventedAssociation → Prop} (hP : Stable P)

include hP

theorem Stable.closeAll {rt : MmsEventedAssociation} (h : P rt) : P rt.closeAll :=
  hP.work rt rt.state false rt.invokeRouter.clear [] rt.script h

theorem Stable.enter {rt : MmsEventedAssociation} (h : P rt) (state : MmsAssociationRuntimeState)
    {kind : MmsAssociationEventKind} (hkind : kind ≠ .associationAccepted) (message : String)
    (invokeId : Option Nat) : P (rt.enter state kind message invokeId) :=
  hP.event _ kind message invokeId hkind
    (hP.work rt state rt.transportConnected rt.invokeRouter rt.informationReports rt.script h)

theorem Stable.fault {rt : MmsEventedAssociation} (h : P rt) (failure : MmsAssociationFailure)
    (invokeId : Option Nat) : P (rt.fault failure invokeId) := by
  cases failure with
  | cancelled message => exact hP.closeAll (hP.enter h _ (by decide) _ _)
  | timeout message => exact hP.closeAll (hP.enter h _ (by decide) _ _)
  | error message =>
    rw [MmsEventedAssociation.fault]
    split
    · exact hP.closeAll (hP.enter h _ (by decide) _ _)
    · exact hP.closeAll (hP.enter h _ (by decide) _ _)

omit hP in
theorem keeps_throwFormat {σ α : Type} {P : σ → Prop} (x : Except String α) :
    Keeps P (throwFormat x : EStateM MmsAssociationFailure σ α) := by
  cases x with
  | ok a => exact Keeps.pure a
  | error message => exact Keeps.throw _

theorem keeps_logEvent {kind : MmsAssociationEventKind} (hkind : kind ≠ .associationAccepted)
    (message : String) (invokeId : Option Nat) :
    Keeps P (logEvent kind message invokeId) :=
  fun rt h => hP.event rt kind message invokeId hkind h

theorem keeps_sendApplicationPayload : Keeps P sendApplicationPayload := by
  intro rt h
  rw [sendApplicationPayload]
  rcases rt.script.sends with _ | ⟨_ | _, sends⟩
  · exact h
  · exact hP.work rt rt.state rt.transportConnected rt.invokeRouter rt.informationReports _ h
  · exact hP.work rt rt.state rt.transportConnected rt.invokeRouter rt.informationReports _ h

theorem keeps_receiveApplicationPayload : Keeps P receiveApplicationPayload := by
  intro rt h
  rw [receiveApplicationPayload]
  rcases rt.script.receives with _ | ⟨_ | _, receives⟩
  · exact h
  · exact hP.work rt rt.state rt.transportConnected rt.invokeRouter rt.informationReports _ h
  · exact hP.work rt rt.state rt.transportConnected rt.invokeRouter rt.informationReports _ h

theorem keeps_route (payload : Bytes) : Keeps P (route payload) := by
  intro rt h
  rw [route]
  cases rt.invokeRouter.route payload with
  | error message => exact h
  | ok answer => exact hP.work rt rt.state rt.transportConnected _ rt.informationReports rt.script h

theorem keeps_queueReport (payload : Bytes) : Keeps P (queueReport payload) :=
  fun rt h => hP.work rt rt.state rt.transportConnected rt.invokeRouter _ rt.script h

theorem keeps_dequeue (invokeId : Nat) (missing : String) :
    Keeps P (dequeue invokeId missing) := by
  intro rt h
  rw [dequeue]
  rcases rt.invokeRouter.tryDequeue invokeId with ⟨_ | envelope, router⟩
  · exact h
  · exact hP.work rt rt.state rt.transportConnected _ rt.informationReports rt.script h

omit hP in
theorem keeps_requireNoOrphan (message : String) : Keeps P (requireNoOrphan message) := by
  intro rt h
  rw [requireNoOrphan]
  by_cases horphan : rt.invokeRouter.queuedConfirmedCount ≠ 0
  · rw [if_pos horphan]
    exact h
  · rw [if_neg horphan]
    exact h

theorem keeps_guarded {α : Type} (invokeId : Option Nat) {body : EventedM α}
    (h : Keeps P body) : Keeps P (guarded invokeId body) := by
  intro rt hrt
  have hbody := h rt hrt
  rw [guarded]
  cases hx : body rt with
  | ok a rt' =>
    rw [hx] at hbody
    exact hbody
  | error failure rt' =>
    rw [hx] at hbody
    exact hP.fault hbody failure invokeId

theorem keeps_routeReceivedPayload (payload : Bytes) :
    Keeps P (routeReceivedPayload payload) := by
  refine Keeps.bind (keeps_throwFormat _) fun envelope => ?_
  split
  · refine Keeps.bind (keeps_queueReport hP payload) fun _ => ?_
    exact Keeps.bind (keeps_logEvent hP (by decide) _ _) fun _ => Keeps.pure envelope
  · refine Keeps.bind (keeps_route hP payload) fun result => ?_
    split
    · exact Keeps.bind (keeps_logEvent hP (by decide) _ _) fun _ => Keeps.pure envelope
    · exact Keeps.pure envelope

theorem keeps_awaitResult (expectedInvokeId iterations : Nat) :
    Keeps P (awaitResult expectedInvokeId iterations) := by
  induction iterations with
  | zero => exact Keeps.throw _
  | succ iterations ih =>
    refine Keeps.bind (keeps_receiveApplicationPayload hP) fun received => ?_
    refine Keeps.bind (keeps_routeReceivedPayload hP received) fun envelope => ?_
    split
    · exact Keeps.throw _
    · split
      · refine Keeps.bind (keeps_dequeue hP _ _) fun matched => ?_
        exact Keeps.bind (keeps_logEvent hP (by decide) _ _) fun _ => Keeps.pure _
      · exact ih

theorem keeps_exchangeConfirmed (payload : Bytes) (expectedInvokeId : Nat) :
    Keeps P (exchangeConfirmed payload expectedInvokeId) := by
  intro rt hrt
  rw [exchangeConfirmed]
  cases rt.requireAssociated with
  | error failure => exact hrt
  | ok _ =>
    dsimp only
    by_cases hid : expectedInvokeId = 0 ∨ expectedInvokeId > MmsPduCodec.maximumInvokeId
    · rw [if_pos hid]
      exact hrt
    · rw [if_neg hid]
      cases MmsAssociationRuntime.checkRequest payload expectedInvokeId
          "Confirmed exchange payload does not contain the expected invoke ID." with
      | error message => exact hrt
      | ok _ =>
        refine keeps_guarded hP _ ?_ rt hrt
        refine Keeps.bind (keeps_requireNoOrphan _) fun _ => ?_
        refine Keeps.bind (keeps_sendApplicationPayload hP) fun _ => ?_
        refine Keeps.bind (keeps_logEvent hP (by decide) _ _) fun _ => ?_
        exact keeps_awaitResult hP _ _

theorem keeps_sendRequests (requests : List MmsConfirmedBatchRequest) :
    Keeps P (sendRequests requests) := by
  induction requests with
  | nil => exact Keeps.pure _
  | cons request requests ih =>
    refine Keeps.bind (keeps_sendApplicationPayload hP) fun _ => ?_
    exact Keeps.bind (keeps_logEvent hP (by decide) _ _) fun _ => ih

theorem keeps_collectResults (requests : List MmsConfirmedBatchRequest) (iterations : Nat)
    (completed : List (Option MmsConfirmedExchangeResult)) (remaining : Nat) :
    Keeps P (collectResults requests iterations completed remaining) := by
  induction iterations generalizing completed remaining with
  | zero => exact Keeps.throw _
  | succ iterations ih =>
    refine Keeps.bind (keeps_receiveApplicationPayload hP) fun bytes => ?_
    refine Keeps.bind (keeps_routeReceivedPayload hP bytes) fun envelope => ?_
    split
    · exact ih _ _
    · split
      · split
        · exact Keeps.throw _
        · refine Keeps.bind (keeps_dequeue hP _ _) fun matched => ?_
          refine Keeps.bind (keeps_logEvent hP (by decide) _ _) fun _ => ?_
          split
          · exact Keeps.pure _
          · exact ih _ _
      · exact Keeps.throw _

theorem keeps_exchangeConfirmedBatch (requests : List MmsConfirmedBatchRequest) :
    Keeps P (exchangeConfirmedBatch requests) := by
  intro rt hrt
  rw [exchangeConfirmedBatch]
  cases rt.acceptBatch requests with
  | error failure => exact hrt
  | ok _ =>
    refine keeps_guarded hP none ?_ rt hrt
    refine Keeps.bind (keeps_requireNoOrphan _) fun _ => ?_
    exact Keeps.bind (keeps_sendRequests hP requests) fun _ => keeps_collectResults hP _ _ _ _

/-! ## Polling -/

theorem keeps_receiveOne : Keeps P receiveOne :=
  Keeps.bind (keeps_receiveApplicationPayload hP) fun payload => keeps_routeReceivedPayload hP payload

theorem keeps_pollOnce : Keeps P pollOnce := by
  intro rt hrt
  rw [pollOnce]
  cases rt.requireAssociated with
  | error failure => exact hrt
  | ok _ => exact keeps_guarded hP none (keeps_receiveOne hP) rt hrt

theorem keeps_tryPollOnceFor (timeoutPositive stoppedBefore : Bool) :
    Keeps P (tryPollOnceFor timeoutPositive stoppedBefore) := by
  intro rt hrt
  rw [tryPollOnceFor]
  cases rt.requireAssociated with
  | error failure => exact hrt
  | ok _ =>
    cases timeoutPositive with
    | false => exact hrt
    | true =>
      cases stoppedBefore with
      | true => exact hrt
      | false =>
        have hone := keeps_receiveOne hP rt hrt
        dsimp only
        rw [Bool.not_true, if_neg Bool.false_ne_true, if_neg Bool.false_ne_true]
        cases hx : receiveOne rt with
        | ok envelope rt' =>
          rw [hx] at hone
          exact hone
        | error failure rt' =>
          rw [hx] at hone
          cases failure with
          | timeout message => exact hone
          | cancelled message => exact hone
          | error message =>
            dsimp only
            by_cases hstop : rt'.script.stopRequested = true
            · rw [if_pos hstop]
              exact hone
            · rw [if_neg hstop]
              exact hP.closeAll (hP.enter hone _ (by decide) _ _)

end Exchanges

end MmsEventedAssociation

end ArStack.Mms
