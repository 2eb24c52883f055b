import ArStack.Mms.ReportSubscriptionRuntime

/-!
# The cleanup of a subscription is recorded

* `Recorded` — what the server has of the runtime's writes, the runtime has on record
* `ensures_startBody` — the stages of a start, with what they leave when they throw
* `cleanup_recorded` — whole runs, against servers whose confirmations arrive
* `cleanup_forgotten` — a write that is applied and not confirmed, and a second start
-/

namespace ArStack.Mms

open ArStack.Lib

/-- A write that enables or reserves is not applied behind the runtime's back: the association
is lost with its response, or the response confirms it. -/
def Server.Confirms (server : Server) : Prop :=
  ∀ exchange name, name ∈ ["RptEna", "Resv"] →
    (server.write exchange name (.boolean true)).applied = true →
      (server.write exchange name (.boolean true)).confirmed = true ∨
        (server.write exchange name (.boolean true)).lost = true

theorem Server.Confirms.not_applied {server : Server} (h : server.Confirms) {exchange : Nat}
    {name : String} (hname : name ∈ ["RptEna", "Resv"])
    (hconfirmed : (server.write exchange name (.boolean true)).confirmed = false)
    (hlost : (server.write exchange name (.boolean true)).lost = false) :
    (server.write exchange name (.boolean true)).applied = false := by
  rw [← Bool.not_eq_true]
  intro happlied
  rcases h exchange name hname happlied with h | h
  · rw [hconfirmed] at h
    cases h
  · rw [hlost] at h
    cases h

namespace SubscriptionSession

variable {s : SubscriptionSession}

/-- The obligation is on record: marked, and the subscription is active or has to be cleaned
up. -/
def OnRecord (s : SubscriptionSession) (marked : Bool) : Prop :=
  marked = true ∧ (s.runtime.state = .active ∨ s.runtime.cleanupRequired = true)

/-- What the server has of the runtime's writes is on record while the association is usable. -/
structure Recorded (s : SubscriptionSession) : Prop where
  enabled : s.peer.associated = true → s.peer.enabled = true →
    s.OnRecord s.runtime.enabledByRuntime
  reserved : s.peer.associated = true → s.peer.reserved = true →
    s.OnRecord s.runtime.reservationTouched

/-- A start meets a server that confirms what it applies, and nothing that a previous
subscription has left there. -/
def Orderly (s : SubscriptionSession) : SubscriptionEvent → Prop
  | .start server =>
    server.Confirms ∧
      (s.peer.associated = true → s.runtime.state ≠ .active →
        s.peer.enabled = false ∧ s.peer.reserved = false)
  | _ => True

/-- What the server has is marked, the exceptions apart. -/
structure Marked (enable reserve : Bool) (s : SubscriptionSession) : Prop where
  enabled : s.peer.associated = true → s.peer.enabled = true →
    s.runtime.enabledByRuntime = true ∨ enable = true
  reserved : s.peer.associated = true → s.peer.reserved = true →
    s.runtime.reservationTouched = true ∨ reserve = true

/-- A start after its probe: only a control block that was enabled before is restored. -/
structure Starting (reported : Option Bool) (enable reserve : Bool) (s : SubscriptionSession) :
    Prop where
  marked : s.Marked enable reserve
  probed : s.peer.reportedEnabled = reported
  restore : s.runtime.restoreEnabledRequired = true → reported = some true

/-- What is undone after a start that throws, and in a stop. -/
structure Undoing (s : SubscriptionSession) : Prop where
  marked : s.Marked false false
  restore : s.runtime.restoreEnabledRequired = true → s.peer.reportedEnabled ≠ some false

theorem Starting.undoing {reported : Option Bool} (h : s.Starting reported false false) :
    s.Undoing := by
  refine ⟨h.marked, fun hrestore => ?_⟩
  rw [h.probed, h.restore hrestore]
  simp

/-- The invariant between operations. -/
structure Settled (s : SubscriptionSession) : Prop where
  marked : s.Marked false false
  obliged : s.runtime.state ≠ .active → s.runtime.obliged = true →
    s.runtime.cleanupRequired = true

theorem Settled.recorded (h : s.Settled) : s.Recorded := by
  have hrecord : s.runtime.obliged = true →
      s.runtime.state = .active ∨ s.runtime.cleanupRequired = true := by
    intro hobliged
    by_cases hactive : s.runtime.state = .active
    · exact Or.inl hactive
    · exact Or.inr (h.obliged hactive hobliged)
  constructor
  · intro hassociated henabled
    have hmark : s.runtime.enabledByRuntime = true := by
      simpa using h.marked.enabled hassociated henabled
    exact ⟨hmark, hrecord (by simp [MmsReportSubscriptionRuntime.obliged, hmark])⟩
  · intro hassociated hreserved
    have hmark : s.runtime.reservationTouched = true := by
      simpa using h.marked.reserved hassociated hreserved
    exact ⟨hmark, hrecord (by simp [MmsReportSubscriptionRuntime.obliged, hmark])⟩

end SubscriptionSession

namespace Subscription

open SubscriptionSession MmsReportSubscriptionRuntime

variable {server : Server} {reported : Option Bool} {e r : Bool}
  {P : SubscriptionSession → Prop} {E : SubscriptionSession → Prop}

/-! ## One step of a start -/

/-- The server has no more than before. -/
structure PeerLe (peer peer' : Peer) : Prop where
  associated : peer'.associated = true → peer.associated = true
  enabled : peer'.enabled = true → peer.enabled = true
  reserved : peer'.reserved = true → peer.reserved = true
  probed : peer'.reportedEnabled = peer.reportedEnabled

/-- A write that neither enables nor reserves leaves the server no more than it has. -/
theorem peer_write_le {peer : Peer} {name : String} {value : MmsRcbValue} {answer : WriteAnswer}
    (h : name ∉ ["RptEna", "Resv"] ∨ value = .boolean false ∨
      name = "RptEna" ∧ peer.reportedEnabled ≠ some false) :
    PeerLe peer (peer.write name value answer) := by
  have hassociated : (peer.associated && !answer.lost) = true → peer.associated = true := by
    intro ha
    exact (Bool.and_eq_true _ _ ▸ ha).1
  rw [Peer.write]
  by_cases henable : name = "RptEna"
  · rw [if_pos henable]
    by_cases hvalue : value = .boolean true
    · -- only a control block that was reported enabled is written so here
      have hreported : peer.reportedEnabled ≠ some false := by
        rcases h with h | h | h
        · simp [henable] at h
        · rw [h] at hvalue
          cases hvalue
        · exact h.2
      rw [if_pos hvalue]
      refine ⟨hassociated, fun he => ?_, fun hr => hr, rfl⟩
      simpa [hreported] using he
    · rw [if_neg hvalue]
      exact ⟨hassociated, fun he => (Bool.and_eq_true _ _ ▸ he).1, fun hr => hr, rfl⟩
  · rw [if_neg henable]
    by_cases hreserve : name = "Resv"
    · have hvalue : value ≠ .boolean true := by
        rcases h with h | h | h
        · simp [hreserve] at h
        · rw [h]
          simp
        · exact absurd h.1 henable
      rw [if_pos hreserve, if_neg hvalue]
      exact ⟨hassociated, fun he => he, fun hr => (Bool.and_eq_true _ _ ▸ hr).1, rfl⟩
    · rw [if_neg hreserve]
      exact ⟨hassociated, fun he => he, fun hr => hr, rfl⟩

/-- The runtime keeps what it has to undo. -/
structure SameFlags (rt rt' : MmsReportSubscriptionRuntime) : Prop where
  enabled : rt'.enabledByRuntime = rt.enabledByRuntime
  reserved : rt'.reservationTouched = rt.reservationTouched
  restore : rt'.restoreEnabledRequired = rt.restoreEnabledRequired

theorem starting_of_sameFlags {s : SubscriptionSession} {rt : MmsReportSubscriptionRuntime}
    (h : s.Starting reported e r) (hflags : SameFlags s.runtime rt) :
    SubscriptionSession.Starting reported e r { s with runtime := rt } := by
  refine ⟨⟨fun ha he => ?_, fun ha hr => ?_⟩, h.probed, fun hrestore => ?_⟩
  · rw [hflags.enabled]
    exact h.marked.enabled ha he
  · rw [hflags.reserved]
    exact h.marked.reserved ha hr
  · rw [hflags.restore] at hrestore
    exact h.restore hrestore

theorem ensures_modifyRuntime {Q : Unit → SubscriptionSession → Prop}
    {f : MmsReportSubscriptionRuntime → MmsReportSubscriptionRuntime}
    (h : ∀ s, P s → Q () { s with runtime := f s.runtime }) :
    Ensures P (modifyRuntime f) Q E :=
  fun s hs => h s hs

/-- A change of state or an event keeps a start. -/
theorem ensures_keep {f : MmsReportSubscriptionRuntime → MmsReportSubscriptionRuntime}
    (hf : ∀ rt, SameFlags rt (f rt)) :
    Ensures (Starting reported e r) (modifyRuntime f)
      (fun _ => Starting reported e r) E :=
  ensures_modifyRuntime fun s hs => starting_of_sameFlags hs (hf s.runtime)

theorem ensures_setState {state : MmsReportSubscriptionState} {message : String} :
    Ensures (Starting reported e r) (setState state message)
      (fun _ => Starting reported e r) E :=
  ensures_keep fun _ => ⟨rfl, rfl, rfl⟩

theorem ensures_addEvent {kind : MmsReportSubscriptionEventKind} {message : String} :
    Ensures (Starting reported e r) (addEvent kind message)
      (fun _ => Starting reported e r) E :=
  ensures_keep fun _ => ⟨rfl, rfl, rfl⟩

theorem ensures_throwText {α : Type} {x : Except String α} (hE : ∀ s, P s → E s) :
    Ensures P (throwText x) (fun _ => P) E := by
  cases x with
  | ok a => exact Ensures.pure fun _ hs => hs
  | error message => exact Ensures.throw hE

/-- What a probe reports at first stays reported. -/
def reportedAfter (reported : Option Bool) (current : MmsReportControlState) : Option Bool :=
  reported.or (some (current.reportEnabled.getD false))

theorem ensures_probe :
    Ensures (Starting reported false false) (probe server)
      (fun current => Starting (reportedAfter reported current) false false)
      (Starting reported false false) := by
  intro s hs
  rw [probe]
  cases hattributes : s.runtime.probeAttributes with
  | error message => exact hs
  | ok attributes =>
    by_cases hassociated : s.peer.associated = true
    · simp only [hassociated, Bool.not_true, Bool.false_eq_true, if_false]
      cases hreply : server.probe s.peer.exchanges attributes with
      | exchangeFailed message =>
        refine ⟨⟨fun ha => ?_, fun ha => ?_⟩, hs.probed, hs.restore⟩
        · cases ha
        · cases ha
      | undecodable message =>
        exact ⟨⟨hs.marked.enabled, hs.marked.reserved⟩, hs.probed, hs.restore⟩
      | confirmedError =>
        exact ⟨⟨hs.marked.enabled, hs.marked.reserved⟩, hs.probed, hs.restore⟩
      | response current =>
        refine ⟨⟨hs.marked.enabled, hs.marked.reserved⟩, ?_, fun hrestore => ?_⟩
        · simp [Peer.probed, reportedAfter, hs.probed]
        · have hreported := hs.restore hrestore
          simp [reportedAfter, hreported]
    · rw [Bool.not_eq_true] at hassociated
      simp only [hassociated, Bool.not_false, if_true]
      exact hs

/-- The session after the answer to a write. -/
def answered (server : Server) (name : String) (value : MmsRcbValue) (s : SubscriptionSession) :
    SubscriptionSession :=
  { s with peer := s.peer.write name value (server.write s.peer.exchanges name value) }

theorem writeOutcome_ok {answer : WriteAnswer} {name : String} :
    writeOutcome name answer.reply = .ok () ↔ answer.confirmed = true := by
  rw [WriteAnswer.confirmed]
  rcases answer.reply with message | message | _ | ⟨_ | ⟨result, _ | ⟨second, rest⟩⟩⟩
  · simp [writeOutcome]
  · simp [writeOutcome]
  · simp [writeOutcome]
  · simp [writeOutcome]
  · cases hsuccess : result.success <;> simp [writeOutcome, hsuccess]
  · simp [writeOutcome]

/-- A write is not sent, or it is sent and its answer tells whether it throws. -/
theorem writeAttribute_cases (server : Server) (name : String) (value : MmsRcbValue)
    (s : SubscriptionSession) :
    (∃ message, writeAttribute server name value s = .error message s) ∨
    ((server.write s.peer.exchanges name value).confirmed = true ∧
      writeAttribute server name value s = .ok ()
        { answered server name value s with
          runtime := s.runtime.addEvent .attributeWritten
            ("RCB attribute written: " ++ name ++ ".") }) ∨
    (server.write s.peer.exchanges name value).confirmed = false ∧
      ∃ message, writeAttribute server name value s = .error message (answered server name value s)
    := by
  unfold writeAttribute
  by_cases hexposed : containsAttribute s.runtime.candidate name = true
  · by_cases hassociated : s.peer.associated = true
    · simp only [hexposed, hassociated, Bool.not_true, Bool.false_eq_true, if_false]
      cases houtcome : writeOutcome name (server.write s.peer.exchanges name value).reply with
      | ok _ => exact Or.inr (Or.inl ⟨writeOutcome_ok.mp houtcome, rfl⟩)
      | error message =>
        refine Or.inr (Or.inr ⟨?_, message, rfl⟩)
        rw [← Bool.not_eq_true]
        intro hconfirmed
        rw [writeOutcome_ok.mpr hconfirmed] at houtcome
        cases houtcome
    · simp only [hexposed, hassociated, Bool.not_true, Bool.false_eq_true, if_false]
      exact Or.inl ⟨notActive, rfl⟩
  · simp only [hexposed, Bool.not_false, if_true]
    exact Or.inl ⟨_, rfl⟩

/-- A write that neither enables nor reserves. -/
theorem ensures_write {name : String} {value : MmsRcbValue}
    (hname : name ∉ ["RptEna", "Resv"] ∨ value = .boolean false ∨
      name = "RptEna" ∧ reported ≠ some false) :
    Ensures (Starting reported false false) (writeAttribute server name value)
      (fun _ => Starting reported false false) (Starting reported false false) := by
  intro s hs
  have hanswered : (answered server name value s).Starting reported false false := by
    have hpeer : PeerLe s.peer
        (s.peer.write name value (server.write s.peer.exchanges name value)) := peer_write_le
      (hname.imp_right (Or.imp_right fun h => ⟨h.1, by rw [hs.probed]; exact h.2⟩))
    refine ⟨⟨fun ha he => ?_, fun ha hr => ?_⟩, ?_, hs.restore⟩
    · exact hs.marked.enabled (hpeer.associated ha) (hpeer.enabled he)
    · exact hs.marked.reserved (hpeer.associated ha) (hpeer.reserved hr)
    · exact hpeer.probed.trans hs.probed
  obtain ⟨message, hw⟩ | ⟨-, hw⟩ | ⟨-, message, hw⟩ := writeAttribute_cases server name value s
  · rw [hw]
    exact hs
  · rw [hw]
    exact starting_of_sameFlags hanswered ⟨rfl, rfl, rfl⟩
  · rw [hw]
    exact hanswered

/-- The write that enables: what throws was not applied or has lost the association. -/
theorem ensures_enableWrite (hserver : server.Confirms) :
    Ensures (Starting reported false false) (writeAttribute server "RptEna" (.boolean true))
      (fun _ => Starting reported true false) (Starting reported false false) := by
  intro s hs
  have hpeer : (answered server "RptEna" (.boolean true) s).Starting reported true false :=
    ⟨⟨fun _ _ => Or.inr rfl, fun ha hr => hs.marked.reserved (Bool.and_eq_true _ _ ▸ ha).1 hr⟩,
      hs.probed, hs.restore⟩
  obtain ⟨message, hw⟩ | ⟨-, hw⟩ | ⟨hconfirmed, message, hw⟩ :=
    writeAttribute_cases server "RptEna" (.boolean true) s
  · rw [hw]
    exact hs
  · rw [hw]
    exact starting_of_sameFlags hpeer ⟨rfl, rfl, rfl⟩
  · rw [hw]
    refine ⟨⟨fun ha he => ?_, fun ha hr => ?_⟩, hs.probed, hs.restore⟩
    · have hboth := Bool.and_eq_true _ _ ▸ ha
      have hkept := hserver.not_applied (by simp) hconfirmed (by simpa using hboth.2)
      exact hs.marked.enabled hboth.1 (by simpa [answered, Peer.write, hkept] using he)
    · exact hs.marked.reserved (Bool.and_eq_true _ _ ▸ ha).1 hr

/-- The write that reserves. -/
theorem ensures_reserveWrite (hserver : server.Confirms) :
    Ensures (Starting reported false false) (writeAttribute server "Resv" (.boolean true))
      (fun _ => Starting reported false true) (Starting reported false false) := by
  intro s hs
  have hpeer : (answered server "Resv" (.boolean true) s).Starting reported false true :=
    ⟨⟨fun ha he => hs.marked.enabled (Bool.and_eq_true _ _ ▸ ha).1 he, fun _ _ => Or.inr rfl⟩,
      hs.probed, hs.restore⟩
  obtain ⟨message, hw⟩ | ⟨-, hw⟩ | ⟨hconfirmed, message, hw⟩ :=
    writeAttribute_cases server "Resv" (.boolean true) s
  · rw [hw]
    exact hs
  · rw [hw]
    exact starting_of_sameFlags hpeer ⟨rfl, rfl, rfl⟩
  · rw [hw]
    refine ⟨⟨fun ha he => ?_, fun ha hr => ?_⟩, hs.probed, hs.restore⟩
    · exact hs.marked.enabled (Bool.and_eq_true _ _ ▸ ha).1 he
    · have hboth := Bool.and_eq_true _ _ ▸ ha
      have hkept := hserver.not_applied (by simp) hconfirmed (by simpa using hboth.2)
      exact hs.marked.reserved hboth.1 (by simpa [answered, Peer.write, hkept] using hr)

/-! ## The stages of a start -/

theorem ensures_writeIf {changed : Bool} {name : String} {value : MmsRcbValue}
    (hname : name ∉ ["RptEna", "Resv"]) :
    Ensures (Starting reported false false) (writeIf server changed name value)
      (fun _ => Starting reported false false) (Starting reported false false) := by
  rw [writeIf]
  split
  · exact ensures_write (Or.inl hname)
  · exact Ensures.pure fun _ hs => hs

theorem ensures_disableCallerOwned {wasEnabled : Bool} {delta : ConfigurationDelta} :
    Ensures (Starting (some wasEnabled) false false) (disableCallerOwned server wasEnabled delta)
      (fun _ => Starting (some wasEnabled) false false)
      (Starting (some wasEnabled) false false) := by
  rw [disableCallerOwned]
  split
  · rename_i hchanged
    have hwas : wasEnabled = true := (Bool.and_eq_true _ _ ▸ hchanged).1
    refine Ensures.bind _ ensures_setState fun _ => ?_
    refine Ensures.bind _ (ensures_write (Or.inr (Or.inl rfl))) fun _ => ?_
    refine ensures_modifyRuntime fun s hs => ?_
    exact ⟨⟨hs.marked.enabled, hs.marked.reserved⟩, hs.probed, fun _ => congrArg some hwas⟩
  · exact Ensures.pure fun _ hs => hs

theorem ensures_reserve (hserver : server.Confirms) {wasEnabled : Bool} :
    Ensures (Starting (some wasEnabled) false false) (reserve server wasEnabled)
      (fun _ => Starting (some wasEnabled) false false)
      (Starting (some wasEnabled) false false) := by
  rw [Subscription.reserve]
  refine Ensures.get fun s₀ => Ensures.mono ?_ (fun s hs => hs.1) (fun _ _ h => h) fun _ h => h
  split
  · refine Ensures.bind _ ensures_setState fun _ => ?_
    refine Ensures.bind _ (ensures_reserveWrite hserver) fun _ => ?_
    refine ensures_modifyRuntime fun s hs => ?_
    exact ⟨⟨hs.marked.enabled, fun _ _ => Or.inl rfl⟩, hs.probed, hs.restore⟩
  · exact Ensures.pure fun _ hs => hs

theorem ensures_applyDelta {delta : ConfigurationDelta} :
    Ensures (Starting reported false false) (applyDelta server delta)
      (fun _ => Starting reported false false) (Starting reported false false) := by
  rw [applyDelta]
  refine Ensures.bind _ ensures_setState fun _ => ?_
  refine Ensures.get fun s₀ => Ensures.mono ?_ (fun s hs => hs.1) (fun _ _ h => h) fun _ h => h
  refine Ensures.bind _ (ensures_writeIf (by decide)) fun _ => ?_
  exact Ensures.bind _ (ensures_writeIf (by decide)) fun _ => ensures_writeIf (by decide)

theorem ensures_verifyConfiguration {wasEnabled : Bool} {delta : ConfigurationDelta} :
    Ensures (Starting (some wasEnabled) false false) (verifyConfiguration server delta)
      (fun _ => Starting (some wasEnabled) false false)
      (Starting (some wasEnabled) false false) := by
  rw [verifyConfiguration]
  refine Ensures.get fun s₀ => Ensures.mono ?_ (fun s hs => hs.1) (fun _ _ h => h) fun _ h => h
  split
  · refine Ensures.bind _ ensures_setState fun _ => ?_
    refine Ensures.bind _ ensures_probe fun current => ?_
    exact ensures_throwText fun _ hs => hs
  · exact Ensures.pure fun _ hs => hs

theorem ensures_markEnabled {wasEnabled : Bool} :
    Ensures (Starting (some wasEnabled) wasEnabled.not false) (modifyRuntime (markEnabled wasEnabled))
      (fun _ => Starting (some wasEnabled) false false) E := by
  refine ensures_modifyRuntime fun s hs => ?_
  cases wasEnabled with
  | true => exact ⟨⟨hs.marked.enabled, hs.marked.reserved⟩, hs.probed, fun _ => rfl⟩
  | false => exact ⟨⟨fun _ _ => Or.inl rfl, hs.marked.reserved⟩, hs.probed, hs.restore⟩

theorem ensures_settleEnabled {wasEnabled : Bool} :
    Ensures (Starting reported false false) (modifyRuntime (settleEnabled wasEnabled))
      (fun _ => Starting reported false false) E := by
  refine ensures_modifyRuntime fun s hs => ?_
  cases wasEnabled with
  | true =>
    refine ⟨⟨hs.marked.enabled, hs.marked.reserved⟩, hs.probed, fun h => ?_⟩
    cases h
  | false => exact starting_of_sameFlags hs ⟨rfl, rfl, rfl⟩

/-- The write that enables marks what it has enabled, if the control block was not enabled
before. -/
theorem ensures_enable (hserver : server.Confirms) {wasEnabled : Bool}
    {delta : ConfigurationDelta} :
    Ensures (Starting (some wasEnabled) false false) (enable server wasEnabled delta)
      (fun _ => Starting (some wasEnabled) false false)
      (Starting (some wasEnabled) false false) := by
  have hwrite : Ensures (Starting (some wasEnabled) false false)
      (writeAttribute server "RptEna" (.boolean true))
      (fun _ => Starting (some wasEnabled) wasEnabled.not false)
      (Starting (some wasEnabled) false false) := by
    cases wasEnabled with
    | true => exact ensures_write (Or.inr (Or.inr ⟨rfl, by simp⟩))
    | false => exact ensures_enableWrite hserver
  rw [Subscription.enable]
  split
  · refine Ensures.bind _ ensures_setState fun _ => ?_
    refine Ensures.bind _ hwrite fun _ => ?_
    refine Ensures.bind _ ensures_markEnabled fun _ => ?_
    refine Ensures.bind _ ensures_setState fun _ => ?_
    refine Ensures.bind _ ensures_probe fun current => ?_
    split
    · exact Ensures.throw fun _ hs => hs
    · exact ensures_settleEnabled
  · exact ensures_addEvent

theorem ensures_writeGeneralInterrogation :
    Ensures (Starting reported false false) (writeGeneralInterrogation server)
      (fun _ => Starting reported false false) (Starting reported false false) := by
  intro s hs
  have hwrite := @ensures_write server reported "GI" (.boolean true) (Or.inl (by decide)) s hs
  rw [writeGeneralInterrogation]
  cases hw : writeAttribute server "GI" (.boolean true) s with
  | ok _ s' =>
    rw [hw] at hwrite
    exact starting_of_sameFlags hwrite ⟨rfl, rfl, rfl⟩
  | error message s' =>
    rw [hw] at hwrite
    exact starting_of_sameFlags hwrite ⟨rfl, rfl, rfl⟩

theorem ensures_triggerGeneralInterrogation :
    Ensures (Starting reported false false) (triggerGeneralInterrogation server)
      (fun _ => Starting reported false false) (Starting reported false false) := by
  rw [triggerGeneralInterrogation]
  refine Ensures.get fun s₀ => Ensures.mono ?_ (fun s hs => hs.1) (fun _ _ h => h) fun _ h => h
  split
  · exact Ensures.pure fun _ hs => hs
  · split
    · exact ensures_addEvent
    · exact ensures_writeGeneralInterrogation

/-- The stages after the first probe. -/
theorem ensures_startBody (hserver : server.Confirms) :
    Ensures (Starting none false false) (startBody server)
      (fun _ => Settled) Undoing := by
  rw [startBody]
  refine Ensures.bind _ ensures_setState fun _ => ?_
  refine Ensures.bind _ (ensures_probe.mono (fun _ h => h) (fun _ _ h => h) fun _ h => h.undoing)
    fun current => ?_
  refine Ensures.mono (E := Starting (some (current.reportEnabled.getD false)) false false) ?_
    (fun _ h => h) (fun _ _ h => h) fun _ h => h.undoing
  refine Ensures.get fun s₀ => Ensures.mono ?_ (fun s hs => hs.1) (fun _ _ h => h) fun _ h => h
  refine Ensures.bind _ (ensures_throwText fun _ hs => hs) fun _ => ?_
  refine Ensures.bind _ (ensures_throwText fun _ hs => hs) fun delta => ?_
  refine Ensures.bind _ ensures_disableCallerOwned fun _ => ?_
  refine Ensures.bind _ (ensures_reserve hserver) fun _ => ?_
  refine Ensures.bind _ ensures_applyDelta fun _ => ?_
  refine Ensures.bind _ ensures_verifyConfiguration fun _ => ?_
  refine Ensures.bind _ (ensures_enable hserver) fun _ => ?_
  refine Ensures.bind _ ensures_triggerGeneralInterrogation fun _ => ?_
  refine ensures_modifyRuntime fun s hs => ?_
  exact ⟨⟨hs.marked.enabled, hs.marked.reserved⟩, fun h => absurd rfl h⟩

/-! ## What is undone -/

theorem undoing_of_le {s s' : SubscriptionSession} (h : s.Undoing)
    (hflags : SameFlags s.runtime s'.runtime) (hpeer : PeerLe s.peer s'.peer) : s'.Undoing := by
  refine ⟨⟨fun ha he => ?_, fun ha hr => ?_⟩, fun hrestore => ?_⟩
  · rw [hflags.enabled]
    exact h.marked.enabled (hpeer.associated ha) (hpeer.enabled he)
  · rw [hflags.reserved]
    exact h.marked.reserved (hpeer.associated ha) (hpeer.reserved hr)
  · rw [hflags.restore] at hrestore
    rw [hpeer.probed]
    exact h.restore hrestore

theorem PeerLe.refl (peer : Peer) : PeerLe peer peer := ⟨id, id, id, rfl⟩

/-- What the server does not have after a write of `false` that is confirmed. -/
structure Released (name : String) (value : MmsRcbValue) (s : SubscriptionSession) : Prop where
  enabled : name = "RptEna" → value = .boolean false → s.peer.enabled = false
  reserved : name = "Resv" → value = .boolean false → s.peer.reserved = false

theorem released_answered {name : String} {value : MmsRcbValue} {s : SubscriptionSession}
    (h : (server.write s.peer.exchanges name value).confirmed = true) :
    Released name value (answered server name value s) := by
  constructor
  · rintro rfl rfl
    simp [answered, Peer.write, h]
  · rintro rfl rfl
    simp [answered, Peer.write, h]

/-- A cleanup write does not throw, and tells whether it was confirmed. -/
theorem ensures_tryWrite {name : String} {value : MmsRcbValue}
    (hle : ∀ s answer, P s → s.Undoing ∧ PeerLe s.peer (s.peer.write name value answer)) :
    Ensures P (tryWriteAttribute server name value)
      (fun written s => s.Undoing ∧ (written = true → Released name value s)) E := by
  intro s hs
  obtain ⟨hundoing, hpeer⟩ := hle s (server.write s.peer.exchanges name value) hs
  rw [tryWriteAttribute]
  obtain ⟨message, hw⟩ | ⟨hconfirmed, hw⟩ | ⟨-, message, hw⟩ :=
    writeAttribute_cases server name value s
  · rw [hw]
    exact ⟨undoing_of_le hundoing ⟨rfl, rfl, rfl⟩ (PeerLe.refl _), fun h => nomatch h⟩
  · rw [hw]
    have hreleased := released_answered hconfirmed
    exact ⟨undoing_of_le hundoing ⟨rfl, rfl, rfl⟩ hpeer,
      fun _ => ⟨hreleased.enabled, hreleased.reserved⟩⟩
  · rw [hw]
    exact ⟨undoing_of_le hundoing ⟨rfl, rfl, rfl⟩ hpeer, fun h => nomatch h⟩

theorem peer_restore_le {s : SubscriptionSession} {answer : WriteAnswer} (h : s.Undoing)
    (hrestore : s.runtime.restoreEnabledRequired = true) :
    PeerLe s.peer (s.peer.write "RptEna" (.boolean true) answer) :=
  peer_write_le (Or.inr (Or.inr ⟨rfl, h.restore hrestore⟩))

theorem peer_release_le {peer : Peer} {name : String} {answer : WriteAnswer} :
    PeerLe peer (peer.write name (.boolean false) answer) :=
  peer_write_le (Or.inr (Or.inl rfl))

theorem undoing_restored {s : SubscriptionSession} {rt : MmsReportSubscriptionRuntime}
    (h : s.Undoing) (henabled : rt.enabledByRuntime = s.runtime.enabledByRuntime)
    (hreserved : rt.reservationTouched = s.runtime.reservationTouched)
    (hrestore : rt.restoreEnabledRequired = false) :
    SubscriptionSession.Undoing { s with runtime := rt } := by
  refine ⟨⟨fun ha he => ?_, fun ha hr => ?_⟩, fun h => ?_⟩
  · rw [henabled]
    exact h.marked.enabled ha he
  · rw [hreserved]
    exact h.marked.reserved ha hr
  · rw [hrestore] at h
    cases h

theorem undoing_disabled {s : SubscriptionSession} {rt : MmsReportSubscriptionRuntime}
    (h : s.Undoing) (henabled : s.peer.enabled = false)
    (hreserved : rt.reservationTouched = s.runtime.reservationTouched)
    (hrestore : rt.restoreEnabledRequired = s.runtime.restoreEnabledRequired) :
    SubscriptionSession.Undoing { s with runtime := rt } := by
  refine ⟨⟨fun _ he => ?_, fun ha hr => ?_⟩, fun hr => ?_⟩
  · rw [henabled] at he
    cases he
  · rw [hreserved]
    exact h.marked.reserved ha hr
  · rw [hrestore] at hr
    exact h.restore hr

theorem undoing_released {s : SubscriptionSession} {rt : MmsReportSubscriptionRuntime}
    (h : s.Undoing) (henabled : rt.enabledByRuntime = s.runtime.enabledByRuntime)
    (hreserved : s.peer.reserved = false)
    (hrestore : rt.restoreEnabledRequired = s.runtime.restoreEnabledRequired) :
    SubscriptionSession.Undoing { s with runtime := rt } := by
  refine ⟨⟨fun ha he => ?_, fun _ hr => ?_⟩, fun hr => ?_⟩
  · rw [henabled]
    exact h.marked.enabled ha he
  · rw [hreserved] at hr
    cases hr
  · rw [hrestore] at hr
    exact h.restore hr

/-! ## After a start that throws -/

theorem ensures_rollbackEnable :
    Ensures Undoing (rollbackEnable server) (fun _ => Undoing) E := by
  rw [rollbackEnable]
  refine Ensures.get fun s₀ => ?_
  split
  · rename_i hrestore
    refine Ensures.bind _ (ensures_tryWrite fun s answer hs => ?_) fun written => ?_
    · obtain ⟨hundoing, rfl⟩ := hs
      exact ⟨hundoing, peer_restore_le hundoing hrestore⟩
    · refine ensures_modifyRuntime fun s hs => ?_
      cases written with
      | true => exact undoing_restored hs.1 rfl rfl rfl
      | false => exact hs.1
  · split
    · rename_i hmarked
      refine Ensures.bind (fun written s => (s.Undoing ∧
          (written = true → Released "RptEna" (.boolean false) s)))
        (ensures_tryWrite fun s answer hs => ⟨hs.1, peer_release_le⟩) fun written => ?_
      refine ensures_modifyRuntime fun s hs => ?_
      cases written with
      | true => exact undoing_disabled hs.1 ((hs.2 rfl).enabled rfl rfl) rfl rfl
      | false => exact ⟨⟨fun _ _ => Or.inl rfl, hs.1.marked.reserved⟩, hs.1.restore⟩
    · exact Ensures.pure fun s hs => hs.1

theorem ensures_rollbackReservation :
    Ensures Undoing (rollbackReservation server) (fun _ => Undoing) E := by
  rw [rollbackReservation]
  refine Ensures.get fun s₀ => ?_
  split
  · refine Ensures.bind _ (ensures_tryWrite fun s answer hs => ⟨hs.1, peer_release_le⟩)
      fun written => ?_
    refine ensures_modifyRuntime fun s hs => ?_
    cases written with
    | true => exact undoing_released hs.1 rfl ((hs.2 rfl).reserved rfl rfl) rfl
    | false => exact ⟨⟨hs.1.marked.enabled, fun _ _ => Or.inl rfl⟩, hs.1.restore⟩
  · exact Ensures.pure fun s hs => hs.1

theorem ensures_rollback : Ensures Undoing (rollback server) (fun _ => Undoing) E := by
  rw [rollback]
  refine Ensures.get fun s₀ => ?_
  split
  · exact Ensures.bind _ (ensures_rollbackEnable.mono (fun _ h => h.1) (fun _ _ h => h)
      fun _ h => h) fun _ => ensures_rollbackReservation
  · exact Ensures.pure fun s hs => hs.1

/-- A start that throws leaves what it could not undo on record. -/
theorem ensures_startFailed {message : String} :
    Ensures Undoing (startFailed server message) (fun _ => Settled) Settled := by
  rw [startFailed]
  refine Ensures.bind _ ensures_rollback fun _ => ?_
  refine Ensures.bind (fun _ => Settled) (ensures_modifyRuntime fun s hs => ?_) fun _ => ?_
  · exact ⟨⟨hs.marked.enabled, hs.marked.reserved⟩, fun _ h => h⟩
  · exact Ensures.throw fun _ h => h

/-! ## Operations -/

/-- Between operations nothing is reported yet. -/
def Resting (s : SubscriptionSession) : Prop := s.Settled ∧ s.peer.reportedEnabled = none

theorem Resting.undoing {s : SubscriptionSession} (h : Resting s) : s.Undoing := by
  refine ⟨h.1.marked, fun _ => ?_⟩
  rw [h.2]
  simp

theorem ensures_undo {needed : MmsReportSubscriptionRuntime → Bool} {name : String} {value : Bool}
    {done : MmsReportSubscriptionRuntime → MmsReportSubscriptionRuntime}
    (hle : ∀ (s : SubscriptionSession) answer, s.Undoing → needed s.runtime = true →
      PeerLe s.peer (s.peer.write name (.boolean value) answer))
    (hdone : ∀ s : SubscriptionSession, s.Undoing → Released name (.boolean value) s →
      SubscriptionSession.Undoing { s with runtime := done s.runtime }) :
    Ensures Undoing (undo server needed name value done) (fun _ => Undoing) E := by
  rw [undo]
  refine Ensures.get fun s₀ => ?_
  split
  · rename_i hneeded
    refine Ensures.bind _ (ensures_tryWrite fun s answer hs => ?_) fun written => ?_
    · obtain ⟨hundoing, rfl⟩ := hs
      exact ⟨hundoing, hle s answer hundoing hneeded⟩
    · refine Ensures.bind (fun _ => Undoing) (ensures_modifyRuntime fun s hs => ?_) fun _ =>
        Ensures.pure fun _ h => h
      cases written with
      | true => exact hdone s hs.1 (hs.2 rfl)
      | false => exact hs.1
  · exact Ensures.pure fun s hs => hs.1

/-- What is left to undo at the end of a stop is on record. -/
theorem settled_conclude {s : SubscriptionSession} {cleanupOk : Bool} {deferred stopped : String}
    (h : s.Undoing) :
    SubscriptionSession.Settled
      { s with runtime := conclude cleanupOk deferred stopped s.runtime } := by
  rw [conclude]
  by_cases hrequired : (!cleanupOk || s.runtime.obliged) = true
  · simp only [hrequired, if_true]
    exact ⟨⟨h.marked.enabled, h.marked.reserved⟩, fun _ _ => rfl⟩
  · rw [Bool.not_eq_true] at hrequired
    simp only [hrequired, Bool.false_eq_true, if_false]
    refine ⟨⟨h.marked.enabled, h.marked.reserved⟩, fun _ hobliged => ?_⟩
    have hnone : s.runtime.obliged = false := (Bool.or_eq_false_iff.mp hrequired).2
    rw [← hobliged, ← hnone]
    rfl

theorem ensures_stopAssociated :
    Ensures Undoing (stopAssociated server) (fun _ => Settled) E := by
  rw [stopAssociated]
  refine Ensures.bind (fun _ => Undoing) ?_ fun restored => ?_
  · exact ensures_undo (fun s answer hs hneeded => peer_restore_le hs hneeded)
      fun s hs _ => undoing_restored hs rfl rfl rfl
  refine Ensures.bind (fun _ => Undoing) ?_ fun disabled => ?_
  · exact ensures_undo (fun s answer hs _ => peer_release_le)
      fun s hs hreleased => undoing_disabled hs (hreleased.enabled rfl rfl) rfl rfl
  refine Ensures.bind (fun _ => Undoing) ?_ fun released => ?_
  · exact ensures_undo (fun s answer hs _ => peer_release_le)
      fun s hs hreleased => undoing_released hs rfl (hreleased.reserved rfl rfl) rfl
  exact ensures_modifyRuntime fun s hs => settled_conclude hs

theorem ensures_stop : Ensures Resting (stop server) (fun _ => Settled) E := by
  rw [stop]
  refine Ensures.get fun s₀ => ?_
  split
  · exact Ensures.pure fun s hs => hs.1.1
  · refine Ensures.bind (fun _ => Undoing) (ensures_modifyRuntime fun s hs => ?_) fun _ => ?_
    · exact undoing_of_le hs.1.undoing ⟨rfl, rfl, rfl⟩ (PeerLe.refl _)
    · split
      · exact ensures_modifyRuntime fun s hs => settled_conclude hs
      · exact ensures_stopAssociated

theorem ensures_retryCleanup : Ensures Resting (retryCleanup server) (fun _ => Settled) E := by
  rw [retryCleanup]
  refine Ensures.get fun s₀ => ?_
  split
  · exact Ensures.pure fun s hs => hs.1.1
  · split
    · exact Ensures.pure fun s hs => hs.1.1
    · refine Ensures.bind _ (ensures_stop.mono (fun _ h => h.1) (fun _ _ h => h) fun _ h => h)
        fun _ => ?_
      exact Ensures.get fun s₁ => Ensures.pure fun s hs => hs.1

/-- A start forgets what is marked, and there is nothing to be marked. -/
theorem ensures_start (hserver : server.Confirms) :
    Ensures
      (fun s => Resting s ∧ (s.peer.associated = true → s.runtime.state ≠ .active →
        s.peer.enabled = false ∧ s.peer.reserved = false))
      (start server) (fun _ => Settled) Settled := by
  rintro s ⟨hresting, hfree⟩
  unfold Subscription.start
  by_cases hassociated : s.peer.associated = true
  · by_cases hactive : s.runtime.active = true
    · simp only [hassociated, hactive, Bool.not_true, Bool.false_eq_true, if_false, if_true]
      exact hresting.1
    · simp only [hassociated, hactive, Bool.not_true, Bool.false_eq_true, if_false]
      have hnone := hfree hassociated (by simpa [active] using hactive)
      have hstarting :
          SubscriptionSession.Starting none false false
            { s with runtime := resetForStart s.runtime } := by
        refine ⟨⟨fun _ he => ?_, fun _ hr => ?_⟩, hresting.2, fun h => ?_⟩
        · simp [hnone.1] at he
        · simp [hnone.2] at hr
        · cases h
      have hbody := ensures_startBody hserver _ hstarting
      cases hrun : startBody server { s with runtime := resetForStart s.runtime } with
      | ok _ s' =>
        rw [hrun] at hbody
        exact hbody
      | error message s' =>
        rw [hrun] at hbody
        exact ensures_startFailed s' hbody
  · simp only [hassociated, Bool.not_false, if_true]
    exact hresting.1

/-- Reports are only counted. -/
theorem ingestReport_keeps (rt : MmsReportSubscriptionRuntime) (ingested : Ingested) :
    SameFlags rt (ingestReport rt ingested) ∧ (ingestReport rt ingested).state = rt.state ∧
      (ingestReport rt ingested).cleanupRequired = rt.cleanupRequired := by
  cases ingested <;> exact ⟨⟨rfl, rfl, rfl⟩, rfl, rfl⟩

theorem foldl_ingestReport_keeps (rt : MmsReportSubscriptionRuntime) (reports : List Ingested) :
    SameFlags rt (reports.foldl ingestReport rt) ∧
      (reports.foldl ingestReport rt).state = rt.state ∧
      (reports.foldl ingestReport rt).cleanupRequired = rt.cleanupRequired := by
  induction reports generalizing rt with
  | nil => exact ⟨⟨rfl, rfl, rfl⟩, rfl, rfl⟩
  | cons report reports ih =>
    obtain ⟨hflags, hstate, hcleanup⟩ := ingestReport_keeps rt report
    obtain ⟨ihflags, ihstate, ihcleanup⟩ := ih (ingestReport rt report)
    exact ⟨⟨ihflags.enabled.trans hflags.enabled, ihflags.reserved.trans hflags.reserved,
      ihflags.restore.trans hflags.restore⟩, ihstate.trans hstate, ihcleanup.trans hcleanup⟩

theorem ensures_pollOnce {polled : Except String Bool} {reports : List Ingested} :
    Ensures Settled (pollOnce polled reports) (fun _ => Settled) Settled := by
  intro s hs
  unfold pollOnce
  by_cases hactive : s.runtime.active = true
  · by_cases hassociated : s.peer.associated = true
    · simp only [hactive, hassociated, Bool.not_true, Bool.false_eq_true, if_false]
      cases polled with
      | error message => exact ⟨⟨(fun ha => nomatch ha), (fun ha => nomatch ha)⟩, hs.obliged⟩
      | ok informationReport =>
        obtain ⟨hflags, hstate, hcleanup⟩ := foldl_ingestReport_keeps s.runtime reports
        refine ⟨⟨fun ha he => ?_, fun ha hr => ?_⟩, fun hnot hobliged => ?_⟩
        · rw [hflags.enabled]
          exact hs.marked.enabled ha he
        · rw [hflags.reserved]
          exact hs.marked.reserved ha hr
        · have hactive : s.runtime.state = .active := by simpa [active] using hactive
          exact absurd (hstate.trans hactive) hnot
    · simp only [hactive, hassociated, Bool.not_true, Bool.not_false, Bool.false_eq_true, if_false,
        if_true]
      exact hs
  · simp only [hactive, Bool.not_false, if_true]
    exact hs

end Subscription

/-! ## Runs -/

namespace SubscriptionSession

open Subscription

variable {s : SubscriptionSession}

theorem settled_after {α : Type} {x : SubscriptionM α} {P : SubscriptionSession → Prop}
    (hx : Ensures P x (fun _ => Settled) Settled)
    (hs : P { s with peer := { s.peer with reportedEnabled := none } }) : (s.after x).Settled := by
  have h := hx _ hs
  rw [after]
  cases hrun : x { s with peer := { s.peer with reportedEnabled := none } } with
  | ok a s' =>
    rw [hrun] at h
    exact h
  | error message s' =>
    rw [hrun] at h
    exact h

/-- **Step lemma.** -/
theorem settled_step {event : SubscriptionEvent} (horderly : s.Orderly event) (h : s.Settled) :
    (s.step event).Settled := by
  have hresting : Resting { s with peer := { s.peer with reportedEnabled := none } } :=
    ⟨⟨⟨h.marked.enabled, h.marked.reserved⟩, h.obliged⟩, rfl⟩
  cases event with
  | start server => exact settled_after (ensures_start horderly.1) ⟨hresting, horderly.2⟩
  | stop server => exact settled_after ensures_stop hresting
  | retryCleanup server => exact settled_after ensures_retryCleanup hresting
  | poll polled reports => exact settled_after ensures_pollOnce hresting.1
  | associationLost => exact ⟨⟨(fun ha => nomatch ha), (fun ha => nomatch ha)⟩, h.obliged⟩

/-- A subscription that has not been started, over an association that is usable. -/
def initial (candidate : MmsReportControlCandidate) (options : MmsReportSubscriptionOptions) :
    SubscriptionSession :=
  { runtime := { candidate, options } }

theorem settled_initial {candidate : MmsReportControlCandidate}
    {options : MmsReportSubscriptionOptions} : (initial candidate options).Settled :=
  ⟨⟨(fun _ h => nomatch h), (fun _ h => nomatch h)⟩, (fun _ h => nomatch h)⟩

/-- In every state of a run whose starts are orderly, what the server has enabled or reserved
for the runtime is on record. -/
theorem cleanup_recorded (candidate : MmsReportControlCandidate)
    (options : MmsReportSubscriptionOptions) (events : List SubscriptionEvent)
    (horderly : Along step Orderly (initial candidate options) events) (i : Nat) :
    (stateAt step (initial candidate options) events i).Recorded := by
  have htake : Along step Orderly (initial candidate options) (events.take i) :=
    (along_append.mp (by rwa [List.take_append_drop i events])).1
  exact (exec_invariant_where Settled (fun _ _ => settled_step) settled_initial htake).recorded

/-- An unbuffered control block with its reservation. -/
def sampleCandidate : MmsReportControlCandidate :=
  { attributes := ["RptEna", "DatSet", "Resv"] }

/-- A server that answers every write with `answer` and has the control block enabled from its
fourth exchange on. -/
def sampleServer (answer : WriteAnswer) : Server where
  probe exchange _ :=
    .response
      { reportEnabled := some (decide (4 ≤ exchange)), reserved := some true,
        availability := .available }
  write _ _ _ := answer

theorem confirms_sampleServer : (sampleServer {}).Confirms :=
  fun _ _ _ _ => Or.inl rfl

theorem cleanup_recorded_sample :
    (stateAt step (initial sampleCandidate {})
        [.start (sampleServer {}), .poll (.ok true) [.mapped "rcb"], .stop (sampleServer {})]
        2).Recorded ∧
      (stateAt step (initial sampleCandidate {})
        [.start (sampleServer {}), .poll (.ok true) [.mapped "rcb"], .stop (sampleServer {})]
        2).peer.enabled = true := by
  refine ⟨cleanup_recorded sampleCandidate {} _ ?_ 2, by decide⟩
  exact ⟨⟨confirms_sampleServer, fun _ _ => ⟨rfl, rfl⟩⟩, trivial, trivial, trivial⟩

/-- A reservation that the server has applied, with a response that does not decode, is not on
record; and neither is what a stop could not undo, once another start has begun. -/
theorem cleanup_forgotten :
    ¬(exec step (initial sampleCandidate {})
        [.start (sampleServer { applied := true, reply := .undecodable "truncated" })]).Recorded ∧
      ¬(exec step (initial sampleCandidate {})
        [.start (sampleServer {}), .stop (sampleServer { applied := false, reply := .confirmedError }),
          .start (sampleServer {})]).Recorded := by
  constructor
  · intro h
    have hmarked := (h.reserved (by decide) (by decide)).1
    revert hmarked
    decide
  · intro h
    have hmarked := (h.enabled (by decide) (by decide)).1
    revert hmarked
    decide

end SubscriptionSession

end ArStack.Mms
