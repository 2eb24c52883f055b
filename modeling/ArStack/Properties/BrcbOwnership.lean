import ArStack.Lib.Run
import ArStack.Mms.StaticBrcbControl
import ArStack.Spec.BrcbRuntime

/-!
# Exclusive ownership of a BRCB

* `gateInv_step` — reports are enabled only while their owner is connected
* `request_records` — a request succeeds for the client on record only
* `step_frees` — the steps after which another client may become the owner
* `exclusive_ownership` — all three for whole runs, with the time of the expiry
-/

namespace ArStack.Mms

open ArStack.Lib

namespace MmsStaticBrcbControl

variable {control : MmsStaticBrcbControl} {client : MmsStaticBrcbClientIdentity} {nowMs : UInt64}

/-- The identity of the owner on record. -/
def recordedOwner (control : MmsStaticBrcbControl) : Option Bytes :=
  if control.reserved then some control.ownerView else none

/-- The client is on record, with its owner and its live association. -/
structure Records (control : MmsStaticBrcbControl) (client : MmsStaticBrcbClientIdentity) :
    Prop where
  reserved : control.reserved = true
  ownerConnected : control.ownerConnected = true
  owner : control.ownerView = client.ownerView
  association : control.associationId = client.associationId

/-- The reservation of a client that is gone has run out. -/
structure Expired (control : MmsStaticBrcbControl) (nowMs : UInt64) : Prop where
  reserved : control.reserved = true
  disconnected : control.ownerConnected = false
  retained : control.resvTmsSeconds ≠ 0
  due : control.reservationExpiresAtMs ≤ nowMs

/-- Reports are enabled only while their owner is connected, and only in a valid runtime. -/
structure GateInv (control : MmsStaticBrcbControl) : Prop where
  owned : control.reports.enabled = true →
    control.reserved = true ∧ control.ownerConnected = true
  initialized : control.reports.enabled = true → control.reports.initialized = true

/-! ## The reservation -/

/-- `1000 * seconds` after `nowMs`, at most the largest time. -/
theorem toNat_reservationDeadline (nowMs : UInt64) (seconds : UInt32) :
    (reservationDeadline nowMs seconds).toNat =
      min (nowMs.toNat + 1000 * seconds.toNat) (2 ^ 64 - 1) := by
  have hseconds := seconds.toNat_lt
  have hnow := nowMs.toNat_lt
  have hmax : uint64Max.toNat = 2 ^ 64 - 1 := rfl
  have hdiv : (uint64Max / 1000).toNat = (2 ^ 64 - 1) / 1000 := rfl
  have h1000 : (1000 : UInt64).toNat = 1000 := rfl
  have hduration : (seconds.toUInt64 * 1000).toNat = seconds.toNat * 1000 := by
    rw [UInt64.toNat_mul, UInt32.toNat_toUInt64, h1000]
    omega
  have hroom : (uint64Max - nowMs).toNat = 2 ^ 64 - 1 - nowMs.toNat := by
    rw [UInt64.toNat_sub_of_le, hmax]
    rw [UInt64.le_iff_toNat_le, hmax]
    omega
  simp only [reservationDeadline]
  rw [if_neg (by
    rw [gt_iff_lt, UInt64.lt_iff_toNat_lt, hdiv, UInt32.toNat_toUInt64]
    omega)]
  split
  · rename_i h
    rw [gt_iff_lt, UInt64.lt_iff_toNat_lt, hroom, hduration] at h
    rw [hmax]
    omega
  · rename_i h
    rw [gt_iff_lt, UInt64.lt_iff_toNat_lt, hroom, hduration] at h
    rw [UInt64.toNat_add, hduration]
    omega

theorem disableReports_reservation :
    control.disableReports = { control with reports := control.disableReports.reports } := by
  rw [disableReports]
  split <;> rfl

theorem initialized_disableReports :
    control.disableReports.reports.initialized = control.reports.initialized := by
  rw [disableReports]
  split
  · exact congrArg MmsStaticBrcbRuntime.Fixed.initialized
      (@MmsStaticBrcbRuntime.fixed_setEnabled control.reports false)
  · rfl

theorem GateInv.disableReports (h : GateInv control) :
    control.disableReports.reports.enabled = false := by
  rw [MmsStaticBrcbControl.disableReports]
  split
  · rename_i hon
    rw [Bool.and_eq_true] at hon
    exact MmsStaticBrcbRuntime.enabled_setEnabled hon.1
  · rename_i hoff
    by_contra hon
    rw [Bool.not_eq_false] at hon
    exact hoff (by rw [valid, h.initialized hon, hon]; rfl)

theorem tick_cases (control : MmsStaticBrcbControl) (nowMs : UInt64) :
    (¬control.Expired nowMs ∧ control.tick nowMs = control) ∨
    control.Expired nowMs ∧ control.tick nowMs = control.disableReports.clearReservation := by
  rw [tick]
  split
  · rename_i h
    refine Or.inl ⟨fun hexpired => ?_, rfl⟩
    rw [hexpired.reserved, hexpired.disconnected] at h
    exact hexpired.retained (by simpa using h)
  · rename_i h
    simp only [Bool.or_eq_true, Bool.not_eq_true', not_or, Bool.not_eq_false, Bool.not_eq_true,
      beq_iff_eq] at h
    split
    · rename_i hdue
      exact Or.inl ⟨fun hexpired => UInt64.not_le.mpr hdue hexpired.due, rfl⟩
    · rename_i hdue
      exact Or.inr ⟨⟨h.1.1, h.1.2, h.2, UInt64.not_lt.mp hdue⟩, rfl⟩

theorem GateInv.tick (h : GateInv control) (nowMs : UInt64) : GateInv (control.tick nowMs) := by
  rcases tick_cases control nowMs with ⟨-, heq⟩ | ⟨-, heq⟩
  · rwa [heq]
  · rw [heq]
    have hoff : control.disableReports.clearReservation.reports.enabled = false := h.disableReports
    exact ⟨fun hon => absurd (hoff.symm.trans hon) nofun,
      fun hon => absurd (hoff.symm.trans hon) nofun⟩

/-- An owner that is compared equal is the owner on record. -/
theorem ownerView_of_sameOwner (h : control.sameOwner client = true) :
    control.reserved = true ∧ control.ownerView = client.ownerView := by
  simp only [sameOwner, MmsStaticBrcbClientIdentity.valid, Bool.and_eq_true, beq_iff_eq,
    decide_eq_true_eq] at h
  obtain ⟨⟨⟨⟨-, hle⟩, hreserved⟩, hsize⟩, howner⟩ := h
  refine ⟨hreserved, ?_⟩
  rw [ownerView, ← hsize, ← howner, MmsStaticBrcbClientIdentity.ownerView, if_pos hle]

theorem records_of_ownsLiveAssociation (h : control.ownsLiveAssociation client = true) :
    control.Records client := by
  rw [ownsLiveAssociation, Bool.and_eq_true, Bool.and_eq_true, beq_iff_eq] at h
  obtain ⟨⟨hsame, hconnected⟩, hassociation⟩ := h
  obtain ⟨hreserved, howner⟩ := ownerView_of_sameOwner hsame
  exact ⟨hreserved, hconnected, howner, hassociation.symm⟩

/-! ## The gate -/

/-- Nothing has happened to the control but expiry. -/
def OnlyTicked (control : MmsStaticBrcbControl) (nowMs : UInt64)
    (after : MmsStaticBrcbControl) : Prop :=
  after = control ∨ after = control.tick nowMs

/-- **The gate opens for the client on record only.** -/
theorem requireControlAccess_cases (control : MmsStaticBrcbControl)
    (client : MmsStaticBrcbClientIdentity) (nowMs : UInt64) :
    ((control.requireControlAccess client nowMs).1 ≠ .ok ∧
      control.OnlyTicked nowMs (control.requireControlAccess client nowMs).2) ∨
    (control.requireControlAccess client nowMs).1 = .ok ∧ control.valid = true ∧
      control.Records client ∧ (control.requireControlAccess client nowMs).2 = control := by
  rw [requireControlAccess]
  split
  · exact Or.inl ⟨nofun, Or.inl rfl⟩
  · rename_i hvalid
    split
    · exact Or.inl ⟨nofun, Or.inl rfl⟩
    · dsimp only
      split
      · rename_i howns
        rcases tick_cases control nowMs with ⟨-, heq⟩ | ⟨-, heq⟩
        · rw [heq] at howns ⊢
          exact Or.inr ⟨rfl, by simpa using hvalid, records_of_ownsLiveAssociation howns, rfl⟩
        · -- an expired reservation has no owner
          rw [heq] at howns
          exact absurd (records_of_ownsLiveAssociation howns).reserved nofun
      · exact Or.inl ⟨nofun, Or.inr rfl⟩

/-- What a request of the client on record does. -/
inductive Granted (control : MmsStaticBrcbControl) :
    Request → MmsStaticBrcbControlStatus → MmsStaticBrcbControl → Prop
  | released (h : control.reports.enabled = false) :
    Granted control .release .ok control.clearReservation
  | forwarded (request : Request) (status : MmsStaticBrcbControlStatus)
    (operation : MmsStaticBrcbRuntime.Operation) :
    Granted control request status { control with reports := control.reports.step operation }
  | unavailable (request : Request) : Granted control request .temporarilyUnavailable control

theorem guarded_cases (request : Request) (enabled : Bool)
    (operation : MmsStaticBrcbRuntime.Operation)
    {call : MmsStaticBrcbRuntime → MmsStaticBrcbStatus × MmsStaticBrcbRuntime}
    (hcall : (call control.reports).2 = control.reports.step operation) :
    ((control.guarded client nowMs enabled call).1 ≠ .ok ∧
      control.OnlyTicked nowMs (control.guarded client nowMs enabled call).2) ∨
    control.valid = true ∧ control.Records client ∧
      control.Granted request (control.guarded client nowMs enabled call).1
        (control.guarded client nowMs enabled call).2 := by
  simp only [guarded]
  rcases requireControlAccess_cases control client nowMs with
    ⟨hne, honly⟩ | ⟨hok, hvalid, hrecords, heq⟩
  · rw [if_pos hne]
    exact Or.inl ⟨hne, honly⟩
  · rw [if_neg (not_not.mpr hok), heq]
    refine Or.inr ⟨hvalid, hrecords, ?_⟩
    split
    · exact .unavailable request
    · simp only [forward, hcall]
      exact .forwarded request _ operation

/-- **A request is refused, or it comes from the client on record.** -/
theorem request_cases (control : MmsStaticBrcbControl) (client : MmsStaticBrcbClientIdentity)
    (nowMs : UInt64) (request : Request) :
    ((control.request client nowMs request).1 ≠ .ok ∧
      control.OnlyTicked nowMs (control.request client nowMs request).2) ∨
    control.valid = true ∧ control.Records client ∧
      control.Granted request (control.request client nowMs request).1
        (control.request client nowMs request).2 := by
  cases request with
  | release =>
    simp only [MmsStaticBrcbControl.request, release]
    rcases requireControlAccess_cases control client nowMs with
      ⟨hne, honly⟩ | ⟨hok, hvalid, hrecords, heq⟩
    · rw [if_pos hne]
      exact Or.inl ⟨hne, honly⟩
    · rw [if_neg (not_not.mpr hok), heq]
      refine Or.inr ⟨hvalid, hrecords, ?_⟩
      split
      · exact .unavailable .release
      · rename_i hoff
        exact .released (by simpa using hoff)
  | setReportEnabled enabled =>
    simp only [MmsStaticBrcbControl.request, setReportEnabled]
    rcases requireControlAccess_cases control client nowMs with
      ⟨hne, honly⟩ | ⟨hok, hvalid, hrecords, heq⟩
    · rw [if_pos hne]
      exact Or.inl ⟨hne, honly⟩
    · rw [if_neg (not_not.mpr hok), heq]
      exact Or.inr ⟨hvalid, hrecords, .forwarded _ _ (.setEnabled enabled)⟩
  | setOptionalFields optionalFields =>
    exact guarded_cases _ false (.setOptionalFields optionalFields) rfl
  | setTriggerOptions triggerOptions =>
    exact guarded_cases _ false (.setTriggerOptions triggerOptions) rfl
  | setIntegrityPeriod integrityPeriodMs =>
    exact guarded_cases _ false (.setIntegrityPeriod integrityPeriodMs) rfl
  | requestGeneralInterrogation =>
    exact guarded_cases _ true .requestGeneralInterrogation rfl
  | replayFrom entryId => exact guarded_cases _ false (.replayFrom entryId) rfl
  | resumeAfter entryId => exact guarded_cases _ false (.resumeAfter entryId) rfl
  | rewindToOldest => exact guarded_cases _ false .rewindToOldest rfl
  | purgeBuffer => exact guarded_cases _ false .purgeBuffer rfl

theorem request_records {request : Request} (h : (control.request client nowMs request).1 = .ok) :
    control.Records client := by
  rcases request_cases control client nowMs request with ⟨hne, -⟩ | ⟨-, hrecords, -⟩
  · exact absurd h hne
  · exact hrecords

/-! ## Reserving and closing -/

theorem copyOwner_view (h : client.ownerSize ≤ maximumOwnerBytes) :
    (control.copyOwner client).toList.take client.ownerSize = client.ownerView := by
  rw [MmsStaticBrcbClientIdentity.ownerView, if_pos h]
  refine List.ext_getElem? fun i => ?_
  rw [List.getElem?_take, List.getElem?_take]
  split
  · rename_i hi
    have hlt : i < maximumOwnerBytes := by omega
    simp [copyOwner, hi, hlt]
  · rfl

/-- A reservation is refused, or it is made for a client that takes it over from nobody or from
itself. -/
theorem reserve_cases (control : MmsStaticBrcbControl) (client : MmsStaticBrcbClientIdentity)
    (nowMs : UInt64) (resvTmsSeconds : UInt32) :
    control.OnlyTicked nowMs (control.reserve client nowMs resvTmsSeconds).2 ∨
    ((control.tick nowMs).reserved = true → (control.tick nowMs).ownerView = client.ownerView) ∧
      (control.reserve client nowMs resvTmsSeconds).2.reports = (control.tick nowMs).reports ∧
      (control.reserve client nowMs resvTmsSeconds).2.Records client := by
  simp only [reserve]
  split
  · exact Or.inl (Or.inl rfl)
  split
  · exact Or.inl (Or.inl rfl)
  rename_i hclient
  have hsize : client.ownerSize ≤ maximumOwnerBytes := by
    rw [Bool.not_eq_true', Bool.not_eq_false, MmsStaticBrcbClientIdentity.valid, Bool.and_eq_true,
      decide_eq_true_eq] at hclient
    exact hclient.2
  split
  · rename_i hfree
    refine Or.inr ⟨fun hreserved => ?_, rfl, rfl, rfl, copyOwner_view hsize, rfl⟩
    rw [hreserved] at hfree
    exact absurd hfree nofun
  split
  · exact Or.inl (Or.inr rfl)
  rename_i hsame
  rw [Bool.not_eq_true', Bool.not_eq_false] at hsame
  obtain ⟨hreserved, howner⟩ := ownerView_of_sameOwner hsame
  split
  · exact Or.inl (Or.inr rfl)
  · exact Or.inr ⟨fun _ => howner, rfl, hreserved, rfl, howner, rfl⟩

/-- Only the close of the live association on record does anything. -/
theorem onAssociationClosed_cases (control : MmsStaticBrcbControl) (nowMs associationId : UInt64) :
    control.OnlyTicked nowMs (control.onAssociationClosed nowMs associationId) ∨
    control.reserved = true ∧ control.ownerConnected = true ∧
      control.associationId = associationId ∧
      ((control.resvTmsSeconds = 0 ∧
          control.onAssociationClosed nowMs associationId =
            control.disableReports.clearReservation) ∨
        control.onAssociationClosed nowMs associationId =
          { control.disableReports with
            associationId := 0
            ownerConnected := false
            reservationExpiresAtMs := reservationDeadline nowMs control.resvTmsSeconds }) := by
  simp only [onAssociationClosed]
  split
  · exact Or.inl (Or.inr rfl)
  rename_i hclose
  simp only [Bool.or_eq_true, Bool.not_eq_true', not_or, Bool.not_eq_false, bne_iff_ne, ne_eq,
    not_not] at hclose
  obtain ⟨⟨⟨hreserved, hconnected⟩, -⟩, hassociation⟩ := hclose
  rcases tick_cases control nowMs with ⟨-, heq⟩ | ⟨-, heq⟩
  · rw [heq] at hreserved hconnected hassociation ⊢
    have hseconds : control.disableReports.resvTmsSeconds = control.resvTmsSeconds := by
      rw [disableReports_reservation]
    rw [hseconds]
    refine Or.inr ⟨hreserved, hconnected, hassociation.symm, ?_⟩
    split
    · rename_i hzero
      exact Or.inl ⟨hzero, rfl⟩
    · exact Or.inr rfl
  · rw [heq] at hreserved
    exact absurd hreserved nofun

/-! ## One step -/

/-- The time that a call of the control is given. -/
def Event.time : Event → Option UInt64
  | .reserve _ _ nowMs | .request _ nowMs _ | .associationClosed _ nowMs | .tick nowMs
  | .state nowMs => some nowMs
  | .runtime _ | .restore _ => none

/-- The device itself does not enable reports. -/
def Event.Quiet (event : Event) : Prop := event ≠ .runtime (.setEnabled true)

theorem GateInv.onlyTicked {after : MmsStaticBrcbControl} (h : GateInv control)
    (honly : control.OnlyTicked nowMs after) : GateInv after := by
  rcases honly with rfl | rfl
  · exact h
  · exact h.tick nowMs

/-- What an operation leaves enabled was initialized, and enabled before unless it enables. -/
theorem enabled_of_step {rt : MmsStaticBrcbRuntime} {operation : MmsStaticBrcbRuntime.Operation}
    (hoperation : operation ≠ .setEnabled true) (h : (rt.step operation).enabled = true) :
    rt.enabled = true := by
  by_cases hset : ∃ enabled, operation = .setEnabled enabled
  · obtain ⟨enabled, rfl⟩ := hset
    cases enabled with
    | true => exact absurd rfl hoperation
    | false =>
      rw [MmsStaticBrcbRuntime.step, MmsStaticBrcbRuntime.setEnabled] at h
      split at h
      · exact h
      · split at h
        · exact h
        · cases h
  · rwa [MmsStaticBrcbRuntime.enabled_step fun enabled heq => hset ⟨enabled, heq⟩] at h

theorem enabled_of_restore {rt : MmsStaticBrcbRuntime} {source : Bytes}
    (h : (MmsStaticBrcbStateCodec.restore rt source).2.enabled = true) :
    (MmsStaticBrcbStateCodec.restore rt source).2 = rt := by
  have hbody (headerBytes deliveryOffset : Nat) (replayGap : Bool)
      (hb : (MmsStaticBrcbStateCodec.restoreBody rt source headerBytes deliveryOffset
        replayGap).2.enabled = true) :
      (MmsStaticBrcbStateCodec.restoreBody rt source headerBytes deliveryOffset replayGap).2 =
        rt := by
    revert hb
    simp only [MmsStaticBrcbStateCodec.restoreBody]
    repeat' split
    -- the image is loaded into a runtime that is disabled
    all_goals first | exact fun _ => rfl | exact fun hb => absurd hb nofun
  revert h
  simp only [MmsStaticBrcbStateCodec.restore]
  repeat' split
  all_goals first | exact fun _ => rfl | exact hbody _ _ _

/-- **Step of the gate.** -/
theorem gateInv_step {event : Event} (hquiet : event.Quiet) (h : GateInv control) :
    GateInv (control.step event) := by
  cases event with
  | reserve client resvTmsSeconds nowMs =>
    rcases reserve_cases control client nowMs resvTmsSeconds with honly | ⟨-, hreports, hrecords⟩
    · exact h.onlyTicked honly
    · refine ⟨fun _ => ⟨hrecords.reserved, hrecords.ownerConnected⟩, fun hon => ?_⟩
      rw [step, hreports] at hon ⊢
      exact (h.tick nowMs).initialized hon
  | request client nowMs request =>
    rw [step]
    rcases request_cases control client nowMs request with ⟨-, honly⟩ | ⟨hvalid, hrecords, hgranted⟩
    · exact h.onlyTicked honly
    · generalize control.request client nowMs request = after at hgranted ⊢
      obtain ⟨status, after⟩ := after
      cases hgranted with
      | released hoff =>
        exact ⟨fun hon => absurd (hoff.symm.trans hon) nofun,
          fun hon => absurd (hoff.symm.trans hon) nofun⟩
      | forwarded _ _ operation =>
        exact ⟨fun _ => ⟨hrecords.reserved, hrecords.ownerConnected⟩,
          fun _ => MmsStaticBrcbRuntime.initialized_step hvalid⟩
      | unavailable => exact h
  | associationClosed associationId nowMs =>
    rw [step]
    rcases onAssociationClosed_cases control nowMs associationId with
      honly | ⟨-, -, -, ⟨-, heq⟩ | heq⟩
    · exact h.onlyTicked honly
    all_goals
      rw [heq]
      have hoff := h.disableReports
      exact ⟨fun hon => absurd (hoff.symm.trans hon) nofun,
        fun hon => absurd (hoff.symm.trans hon) nofun⟩
  | tick nowMs => exact h.tick nowMs
  | state nowMs => exact h.tick nowMs
  | runtime operation =>
    have hbefore (hon : (control.reports.step operation).enabled = true) :=
      enabled_of_step (fun heq => hquiet (congrArg Event.runtime heq)) hon
    exact ⟨fun hon => h.owned (hbefore hon),
      fun hon => MmsStaticBrcbRuntime.initialized_step (h.initialized (hbefore hon))⟩
  | restore image =>
    have hbefore (hon : (MmsStaticBrcbStateCodec.restore control.reports image).2.enabled = true) :
        control.reports.enabled = true := by
      rwa [enabled_of_restore hon] at hon
    refine ⟨fun hon => h.owned (hbefore hon), fun hon => ?_⟩
    rw [step, enabled_of_restore hon]
    exact h.initialized (hbefore hon)

/-- A step that ends the reservation: the release of the client on record, the close of its
association when nothing is retained, or any call after the reservation has run out. -/
inductive Frees (control : MmsStaticBrcbControl) : Event → Prop
  | release (client : MmsStaticBrcbClientIdentity) (nowMs : UInt64)
    (hrecords : control.Records client) (hok : (control.release client nowMs).1 = .ok) :
    Frees control (.request client nowMs .release)
  | close (nowMs : UInt64) (hconnected : control.ownerConnected = true)
    (hzero : control.resvTmsSeconds = 0) :
    Frees control (.associationClosed control.associationId nowMs)
  | expiry (event : Event) (nowMs : UInt64) (hnow : event.time = some nowMs)
    (hexpired : control.Expired nowMs) : Frees control event

theorem onlyTicked_frees (h : GateInv control) {after : MmsStaticBrcbControl}
    (honly : control.OnlyTicked nowMs after) (hne : after.recordedOwner ≠ control.recordedOwner) :
    control.Expired nowMs ∧ after.reports.enabled = false := by
  rcases honly with rfl | rfl
  · exact absurd rfl hne
  · rcases tick_cases control nowMs with ⟨-, heq⟩ | ⟨hexpired, heq⟩
    · rw [heq] at hne
      exact absurd rfl hne
    · rw [heq]
      exact ⟨hexpired, h.disableReports⟩

/-- **Who ends a reservation.** Only these steps take the owner off the record, and they leave
reports disabled. -/
theorem step_frees {event : Event} (h : GateInv control) {owner : Bytes}
    (howner : control.recordedOwner = some owner)
    (hne : (control.step event).recordedOwner ≠ some owner) :
    control.Frees event ∧ (control.step event).reports.enabled = false := by
  rw [← howner] at hne
  have hreserved : control.reserved = true := by
    rw [recordedOwner] at howner
    split at howner
    · assumption
    · cases howner
  cases event with
  | reserve client resvTmsSeconds nowMs =>
    rw [step] at hne ⊢
    rcases reserve_cases control client nowMs resvTmsSeconds with
      honly | ⟨hsame, hreports, hrecords⟩
    · obtain ⟨hexpired, hoff⟩ := onlyTicked_frees h honly hne
      exact ⟨.expiry _ nowMs rfl hexpired, hoff⟩
    · rcases tick_cases control nowMs with ⟨-, heq⟩ | ⟨hexpired, heq⟩
      · -- the owner keeps its own reservation
        rw [heq] at hsame
        rw [recordedOwner, recordedOwner, hrecords.reserved, hreserved, hrecords.owner,
          hsame hreserved] at hne
        exact absurd rfl hne
      · rw [hreports, heq]
        exact ⟨.expiry _ nowMs rfl hexpired, h.disableReports⟩
  | request client nowMs request =>
    rw [step] at hne ⊢
    rcases request_cases control client nowMs request with ⟨-, honly⟩ | ⟨hvalid, hrecords, hgranted⟩
    · obtain ⟨hexpired, hoff⟩ := onlyTicked_frees h honly hne
      exact ⟨.expiry _ nowMs rfl hexpired, hoff⟩
    · rcases hrequest : control.request client nowMs request with ⟨status, after⟩
      rw [hrequest] at hgranted hne
      cases hgranted with
      | released hoff =>
        exact ⟨.release client nowMs hrecords (congrArg Prod.fst hrequest), hoff⟩
      | forwarded => exact absurd rfl hne
      | unavailable => exact absurd rfl hne
  | associationClosed associationId nowMs =>
    rw [step] at hne ⊢
    rcases onAssociationClosed_cases control nowMs associationId with
      honly | ⟨-, hconnected, rfl, ⟨hzero, heq⟩ | heq⟩
    · obtain ⟨hexpired, hoff⟩ := onlyTicked_frees h honly hne
      exact ⟨.expiry _ nowMs rfl hexpired, hoff⟩
    · rw [heq]
      exact ⟨.close nowMs hconnected hzero, h.disableReports⟩
    · rw [heq, disableReports_reservation] at hne
      exact absurd rfl hne
  | tick nowMs =>
    obtain ⟨hexpired, hoff⟩ := onlyTicked_frees h (Or.inr rfl) hne
    exact ⟨.expiry _ nowMs rfl hexpired, hoff⟩
  | state nowMs =>
    obtain ⟨hexpired, hoff⟩ := onlyTicked_frees h (Or.inr rfl) hne
    exact ⟨.expiry _ nowMs rfl hexpired, hoff⟩
  | runtime operation => exact absurd rfl hne
  | restore image => exact absurd rfl hne

/-- A reservation that survives expiry is unchanged. -/
theorem onlyTicked_reserved {after : MmsStaticBrcbControl} (honly : control.OnlyTicked nowMs after)
    (hreserved : after.reserved = true) : after = control := by
  rcases honly with rfl | rfl
  · rfl
  · rcases tick_cases control nowMs with ⟨-, heq⟩ | ⟨-, heq⟩
    · exact heq
    · rw [heq] at hreserved
      cases hreserved

/-- How a client comes to be gone: its association was closed by this step, which set the end of
its reservation, or it was gone before. -/
theorem step_disconnected {event : Event} (hreserved : (control.step event).reserved = true)
    (hgone : (control.step event).ownerConnected = false) :
    (∃ nowMs, event = .associationClosed control.associationId nowMs ∧
      control.ownerConnected = true ∧
      (control.step event).reservationExpiresAtMs =
        reservationDeadline nowMs (control.step event).resvTmsSeconds) ∨
    control.reserved = true ∧ control.ownerConnected = false ∧
      (control.step event).reservationExpiresAtMs = control.reservationExpiresAtMs ∧
      (control.step event).resvTmsSeconds = control.resvTmsSeconds := by
  have unchanged (nowMs : UInt64) (honly : control.OnlyTicked nowMs (control.step event)) :
      control.reserved = true ∧ control.ownerConnected = false ∧
        (control.step event).reservationExpiresAtMs = control.reservationExpiresAtMs ∧
        (control.step event).resvTmsSeconds = control.resvTmsSeconds := by
    have heq := onlyTicked_reserved honly hreserved
    rw [heq] at hreserved hgone ⊢
    exact ⟨hreserved, hgone, rfl, rfl⟩
  cases event with
  | reserve client resvTmsSeconds nowMs =>
    rcases reserve_cases control client nowMs resvTmsSeconds with honly | ⟨-, -, hrecords⟩
    · exact Or.inr (unchanged nowMs honly)
    · exact absurd (hrecords.ownerConnected.symm.trans hgone) nofun
  | request client nowMs request =>
    rcases request_cases control client nowMs request with ⟨-, honly⟩ | ⟨-, hrecords, hgranted⟩
    · exact Or.inr (unchanged nowMs honly)
    · rw [step] at hreserved hgone
      generalize control.request client nowMs request = after at hgranted hreserved hgone
      obtain ⟨status, after⟩ := after
      -- a request that is granted leaves its client connected or takes it off the record
      cases hgranted with
      | released => cases hreserved
      | forwarded => exact absurd (hrecords.ownerConnected.symm.trans hgone) nofun
      | unavailable => exact absurd (hrecords.ownerConnected.symm.trans hgone) nofun
  | associationClosed associationId nowMs =>
    rcases onAssociationClosed_cases control nowMs associationId with
      honly | ⟨-, hconnected, rfl, ⟨-, heq⟩ | heq⟩
    · exact Or.inr (unchanged nowMs honly)
    · rw [step, heq] at hreserved
      cases hreserved
    · refine Or.inl ⟨nowMs, rfl, hconnected, ?_⟩
      rw [step, heq, disableReports_reservation]
  | tick nowMs => exact Or.inr (unchanged nowMs (Or.inr rfl))
  | state nowMs => exact Or.inr (unchanged nowMs (Or.inr rfl))
  | runtime operation => exact Or.inr ⟨hreserved, hgone, rfl, rfl⟩
  | restore image => exact Or.inr ⟨hreserved, hgone, rfl, rfl⟩

/-! ## Runs -/

section Run

variable (rt : MmsStaticBrcbRuntime) (es : List Event)

/-- Before event `i` of a run that starts with nobody on record. -/
def before (i : Nat) : MmsStaticBrcbControl := stateAt step { reports := rt } es i

variable {rt es}

theorem gateInv_before (hoff : rt.enabled = false) (hquiet : ∀ event ∈ es, event.Quiet) (i : Nat) :
    GateInv (before rt es i) := by
  have hstep (control : MmsStaticBrcbControl) (event : Event) (hquiet : event.Quiet)
      (h : GateInv control) : GateInv (control.step event) := gateInv_step hquiet h
  refine exec_invariant_of GateInv hstep ?_
    fun event hevent => hquiet event (List.mem_of_mem_take hevent)
  exact ⟨fun hon => absurd (hoff.symm.trans hon) nofun,
    fun hon => absurd (hoff.symm.trans hon) nofun⟩

theorem before_succ (rt : MmsStaticBrcbRuntime) {i : Nat} (h : i < es.length) :
    before rt es (i + 1) = (before rt es i).step es[i] := stateAt_succ _ h

/-- A client that is gone has closed its association, and its reservation ends `ResvTms` later. -/
theorem exists_close {k : Nat} (hk : k ≤ es.length) (hreserved : (before rt es k).reserved = true)
    (hgone : (before rt es k).ownerConnected = false) :
    ∃ c closedMs, c < k ∧
      es[c]? = some (.associationClosed (before rt es c).associationId closedMs) ∧
      (before rt es c).ownerConnected = true ∧
      (∀ m, c < m → m ≤ k → (before rt es m).ownerConnected = false) ∧
      (before rt es k).reservationExpiresAtMs =
        reservationDeadline closedMs (before rt es k).resvTmsSeconds := by
  induction k with
  | zero => cases hreserved
  | succ k ih =>
    have hk' : k < es.length := by omega
    have hsucc := before_succ rt hk'
    rw [hsucc] at hreserved hgone ⊢
    rcases step_disconnected hreserved hgone with
      ⟨nowMs, hevent, hconnected, hexpires⟩ | ⟨hreserved', hgone', hexpires, hseconds⟩
    · refine ⟨k, nowMs, Nat.lt_succ_self k, ?_, hconnected, fun m hlt hle => ?_, hexpires⟩
      · rw [List.getElem?_eq_getElem (by omega), hevent]
      · obtain rfl : m = k + 1 := by omega
        rw [hsucc]
        exact hgone
    · obtain ⟨c, closedMs, hc, hclose, hconnected, hall, hdeadline⟩ :=
        ih (by omega) hreserved' hgone'
      refine ⟨c, closedMs, by omega, hclose, hconnected, fun m hlt hle => ?_, ?_⟩
      · rcases Nat.le_or_eq_of_le_succ hle with hm | rfl
        · exact hall m hlt hm
        · rw [hsucc]
          exact hgone
      · rw [hexpires, hseconds, hdeadline]

/-- Event `k` of a run ends the reservation: the release of the client on record, the close of
its association when nothing is retained, or any call of the control `ResvTms` seconds after that
close or later. -/
inductive FreesAt (rt : MmsStaticBrcbRuntime) (es : List Event) (k : Nat) : Prop
  | release (client : MmsStaticBrcbClientIdentity) (nowMs : UInt64)
    (hevent : es[k]? = some (.request client nowMs .release))
    (hrecords : (before rt es k).Records client)
    (hok : ((before rt es k).release client nowMs).1 = .ok)
  | close (nowMs : UInt64)
    (hevent : es[k]? = some (.associationClosed (before rt es k).associationId nowMs))
    (hconnected : (before rt es k).ownerConnected = true)
    (hzero : (before rt es k).resvTmsSeconds = 0)
  | expiry (event : Event) (nowMs closedMs : UInt64) (c : Nat) (hevent : es[k]? = some event)
    (htime : event.time = some nowMs) (hc : c < k)
    (hclose : es[c]? = some (.associationClosed (before rt es c).associationId closedMs))
    (hconnected : (before rt es c).ownerConnected = true)
    (hgone : ∀ m, c < m → m ≤ k → (before rt es m).ownerConnected = false)
    (hretained : (before rt es k).resvTmsSeconds ≠ 0)
    (hdue : min (closedMs.toNat + 1000 * (before rt es k).resvTmsSeconds.toNat) (2 ^ 64 - 1) ≤
      nowMs.toNat)

theorem freesAt_of_frees {k : Nat} (hk : k < es.length) (h : (before rt es k).Frees es[k]) :
    FreesAt rt es k := by
  have hget : es[k]? = some es[k] := List.getElem?_eq_getElem hk
  generalize es[k] = event at h hget
  cases h with
  | release client nowMs hrecords hok => exact .release client nowMs hget hrecords hok
  | close nowMs hconnected hzero => exact .close nowMs hget hconnected hzero
  | expiry _ nowMs hnow hexpired =>
    obtain ⟨c, closedMs, hc, hclose, hconnected, hgone, hdeadline⟩ :=
      exists_close (by omega) hexpired.reserved hexpired.disconnected
    refine .expiry event nowMs closedMs c hget hnow hc hclose hconnected hgone hexpired.retained ?_
    rw [← toNat_reservationDeadline, ← hdeadline]
    exact UInt64.le_iff_toNat_le.mp hexpired.due

/-- **Exclusive ownership.** In every run reports are enabled only while an owner is connected;
a request succeeds for the client on record only; and between two different owners some event
ends the reservation of the first and leaves reports disabled. -/
theorem exclusive_ownership (rt : MmsStaticBrcbRuntime) (hoff : rt.enabled = false)
    (es : List Event) (hquiet : ∀ event ∈ es, event.Quiet) :
    (∀ i, (before rt es i).reports.enabled = true →
      (before rt es i).reserved = true ∧ (before rt es i).ownerConnected = true) ∧
    (∀ i client nowMs request, ((before rt es i).request client nowMs request).1 = .ok →
      (before rt es i).Records client) ∧
    ∀ i j first second, i ≤ j → j ≤ es.length →
      (before rt es i).recordedOwner = some first → (before rt es j).recordedOwner = some second →
      first ≠ second → ∃ k, i ≤ k ∧ k < j ∧ (before rt es k).recordedOwner = some first ∧
        FreesAt rt es k ∧ (before rt es (k + 1)).reports.enabled = false := by
  refine ⟨fun i hon => (gateInv_before hoff hquiet i).owned hon,
    fun i client nowMs request hok => request_records hok, ?_⟩
  intro i j first second hij hj hfirst hsecond hne
  have hchanged : ¬(before rt es j).recordedOwner = some first := by
    rw [hsecond]
    exact fun h => hne (Option.some.inj h).symm
  obtain ⟨k, hik, hkj, howner, hlost⟩ := exists_step_of_change
    (P := fun control : MmsStaticBrcbControl => control.recordedOwner = some first) hij hj hfirst
    hchanged
  have hk : k < es.length := by omega
  have hsucc := before_succ rt hk
  obtain ⟨hfrees, hdisabled⟩ := step_frees (gateInv_before hoff hquiet k) howner (by
    rw [← hsucc]
    exact hlost)
  exact ⟨k, hik, hkj, howner, freesAt_of_frees hk hfrees, by rw [hsucc]; exact hdisabled⟩

end Run

/-- A client with an owner of one octet. -/
def sampleClient (associationId : UInt64) (owner : UInt8) : MmsStaticBrcbClientIdentity where
  associationId := associationId
  owner := (Vector.replicate maximumOwnerBytes 0).set 0 owner
  ownerSize := 1

/-- A client enables reports and is gone, and another one reserves when its second is over. -/
def sampleTakeover : List Event :=
  [.reserve (sampleClient 1 0xA) 1 0, .request (sampleClient 1 0xA) 5 (.setReportEnabled true),
    .associationClosed 1 10, .reserve (sampleClient 2 0xB) 1 1009,
    .reserve (sampleClient 2 0xB) 1 1010]

theorem exclusive_ownership_sample :
    let rt := (MmsStaticBrcbRuntime.sampleRuntime [40]).initializeRuntime.2
    ∃ k, 1 ≤ k ∧ k < 5 ∧ (before rt sampleTakeover k).recordedOwner = some [0xA] ∧
      FreesAt rt sampleTakeover k ∧
      (before rt sampleTakeover (k + 1)).reports.enabled = false := by
  intro rt
  have hquiet : ∀ event ∈ sampleTakeover, event.Quiet := by
    intro event hevent
    simp only [sampleTakeover, List.mem_cons, List.not_mem_nil, or_false] at hevent
    rcases hevent with rfl | rfl | rfl | rfl | rfl <;> exact nofun
  exact (exclusive_ownership rt (by decide) sampleTakeover hquiet).2.2 1 5 [0xA] [0xB] (by decide)
    (by decide) (by decide) (by decide) (by decide)

end MmsStaticBrcbControl

end ArStack.Mms
