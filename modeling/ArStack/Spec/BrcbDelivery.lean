import ArStack.Mms.StaticBrcbConnection
import ArStack.Properties.BrcbOwnership
import ArStack.Properties.BrcbRing

/-!
# Polls and commits

* `poll_cases`, `commitSent_cases` — what a poll and a commit do to the control
* `front_eq_some` — a poll stages the first unread entry of the log
-/

namespace ArStack.Mms

open ArStack.Lib ArStack.Wire MmsStaticBrcbControl MmsStaticBrcbRuntime

/-- What `front` shows of an entry. -/
def BrcbEntry.view (entry : BrcbEntry) : MmsStaticBrcbEntryView where
  mmsPdu := entry.pdu
  entryId := (encodeEntryId entry.entryNumber).toList
  sequenceNumber := entry.sequenceNumber
  bufferOverflow := entry.bufferOverflow

theorem MmsStaticBrcbSlot.view_entry (slot : MmsStaticBrcbSlot) :
    slot.entry.view =
      ⟨slot.pdu, slot.entryId.toList, slot.sequenceNumber, slot.bufferOverflow⟩ := by
  show (⟨slot.pdu, (encodeEntryId (decodeEntryId slot.entryId.toList)).toList,
    slot.sequenceNumber, slot.bufferOverflow⟩ : MmsStaticBrcbEntryView) = _
  rw [encodeEntryId_decodeEntryId]

/-- **`front` is the first unread entry.** -/
theorem front_eq_some {rt : MmsStaticBrcbRuntime} (h : RingInv rt.ring)
    {view : MmsStaticBrcbEntryView} (hfront : rt.front = some view) :
    ∃ entry, (log _ h).unread.head? = some entry ∧ view = entry.view := by
  have hlength : rt.ring.retained.length = rt.count := h.length_retained
  rw [front] at hfront
  split at hfront
  · cases hfront
  rename_i hready
  simp only [Bool.or_eq_true, decide_eq_true_eq, not_or, Nat.not_le] at hready
  have hlt : rt.deliveryOffset < rt.ring.count := hready.1.2
  have hget : rt.ring.retained[rt.deliveryOffset]?
      = rt.slots[(rt.head + rt.deliveryOffset) % rt.slots.length]? := h.getElem?_retained hlt
  cases hslot : rt.slots[(rt.head + rt.deliveryOffset) % rt.slots.length]? with
  | none =>
    rw [hslot] at hfront
    cases hfront
  | some slot =>
    rw [hslot] at hfront hget
    simp only at hfront
    split at hfront
    · cases hfront
    · refine ⟨slot.entry, ?_, ?_⟩
      · rw [BoundedLog.unread, List.head?_drop, log, List.getElem?_map]
        show (rt.ring.retained[rt.deliveryOffset]?).map _ = _
        rw [hget]
        rfl
      · rw [MmsStaticBrcbSlot.view_entry]
        exact (Option.some.inj hfront).symm

/-! ## Entry numbers -/

/-- The numbers in use are 1 to `2 ^ 64 - 1`. -/
theorem toNat_nextEntryNumber {number : UInt64} (h : number ≠ 0) :
    (nextEntryNumber number).toNat = number.toNat % (2 ^ 64 - 1) + 1 := by
  have hlt := number.toNat_lt
  have hpos : number.toNat ≠ 0 := fun hzero => h (UInt64.toNat_inj.mp hzero)
  have hmax : uint64Max.toNat = 2 ^ 64 - 1 := rfl
  rw [nextEntryNumber]
  split
  · rename_i heq
    rw [heq, hmax, Nat.mod_self]
    rfl
  · rename_i hne
    have hne' : number.toNat ≠ 2 ^ 64 - 1 := fun heq =>
      hne (UInt64.toNat_inj.mp (heq.trans hmax.symm))
    rw [UInt64.toNat_add, Nat.mod_eq_of_lt (show number.toNat < 2 ^ 64 - 1 by omega)]
    simp only [UInt64.reduceToNat]
    omega

theorem toNat_iterate_nextEntryNumber {number : UInt64} (h : number ≠ 0) (n : Nat) :
    (nextEntryNumber^[n] number).toNat = (number.toNat - 1 + n) % (2 ^ 64 - 1) + 1 := by
  induction n with
  | zero =>
    have hlt := number.toNat_lt
    have hpos : number.toNat ≠ 0 := fun hzero => h (UInt64.toNat_inj.mp hzero)
    rw [Function.iterate_zero, id, Nat.add_zero, Nat.mod_eq_of_lt (by omega)]
    omega
  | succ n ih =>
    have hne : nextEntryNumber^[n] number ≠ 0 := by
      intro hzero
      rw [hzero] at ih
      exact absurd ih (Nat.succ_ne_zero _).symm
    rw [Function.iterate_succ_apply', toNat_nextEntryNumber hne, ih, Nat.mod_add_mod,
      Nat.add_assoc]

/-- A number comes back after `2 ^ 64 - 1` others at the earliest. -/
theorem le_of_iterate_nextEntryNumber {number : UInt64} (h : number ≠ 0) {n : Nat} (hn : n ≠ 0)
    (heq : nextEntryNumber^[n] number = number) : 2 ^ 64 - 1 ≤ n := by
  have hlt := number.toNat_lt
  have hpos : number.toNat ≠ 0 := fun hzero => h (UInt64.toNat_inj.mp hzero)
  have hnat := toNat_iterate_nextEntryNumber h n
  rw [heq] at hnat
  by_contra hless
  rcases Nat.lt_or_ge (number.toNat - 1 + n) (2 ^ 64 - 1) with hsmall | hlarge
  · rw [Nat.mod_eq_of_lt hsmall] at hnat
    omega
  · rw [Nat.mod_eq_sub_mod hlarge, Nat.mod_eq_of_lt (by omega)] at hnat
    omega

/-- The numbers of a list that is numbered without a gap. -/
theorem iterate_of_isChain {entries : List BrcbEntry}
    (h : entries.IsChain fun entry entry' => entry'.entryNumber = nextEntryNumber entry.entryNumber)
    {k : Nat} {entry : BrcbEntry} (hentry : entries[k]? = some entry) {n : Nat}
    {entry' : BrcbEntry} (hentry' : entries[k + n]? = some entry') :
    entry'.entryNumber = nextEntryNumber^[n] entry.entryNumber := by
  induction n generalizing entry' with
  | zero =>
    rw [Nat.add_zero, hentry] at hentry'
    rw [Option.some.inj hentry']
    rfl
  | succ n ih =>
    have hlt : k + n + 1 < entries.length := (List.getElem?_eq_some_iff.mp hentry').1
    have hmid : entries[k + n]? = some entries[k + n] := List.getElem?_eq_getElem (by omega)
    have hnext := List.isChain_iff_getElem.mp h (k + n) hlt
    rw [← Nat.add_assoc, List.getElem?_eq_getElem hlt] at hentry'
    rw [Function.iterate_succ_apply', ← ih hmid, ← Option.some.inj hentry']
    exact hnext

namespace MmsStaticBrcbConnection

/-- Whatever the outcome, the result is about the entry. -/
structure About (entry : BrcbEntry) (result : MmsStaticBrcbConnectionResult) : Prop where
  entryId : result.entryId = encodeEntryId entry.entryNumber
  sequenceNumber : result.sequenceNumber = entry.sequenceNumber
  bufferOverflow : result.bufferOverflow = entry.bufferOverflow

theorem about_entryResult (status : MmsStaticBrcbConnectionStatus) (entry : BrcbEntry) :
    About entry (entryResult status entry.view) := by
  refine ⟨?_, rfl, rfl⟩
  have hlen : entry.view.entryId.length = entryIdBytes := Vector.length_toList
  rw [entryResult, dif_pos hlen]
  rfl

theorem about_stage (connection : MmsStaticConnectionRuntime) (entry : BrcbEntry)
    (responseSize workspaceSize : Nat) :
    About entry (stage connection entry.view responseSize workspaceSize) := by
  have hall (status : MmsStaticBrcbConnectionStatus) := about_entryResult status entry
  simp only [stage]
  split
  · exact hall _
  · split
    · split
      · exact hall _
      · split
        · exact hall _
        · exact ⟨(hall .workspaceTooSmall).1, rfl, rfl⟩
    · split
      · split
        · exact ⟨(hall .responseBufferTooSmall).1, rfl, rfl⟩
        · exact hall _
      · exact ⟨(hall .responseReady).1, rfl, rfl⟩

/-- A connected owner does not expire. -/
theorem tick_of_connected {control : MmsStaticBrcbControl} (h : control.ownerConnected = true)
    (nowMs : UInt64) : control.tick nowMs = control := by
  rw [tick, h]
  simp

theorem connected_of_authorized {connection : MmsStaticConnectionRuntime} {valid : Bool}
    {control : MmsStaticBrcbControl} {nowMs : UInt64}
    (h : authorized connection valid (control.state nowMs).1 = true) :
    control.ownerConnected = true := by
  have hconnected : (control.tick nowMs).ownerConnected = true := by
    simp only [authorized, Bool.and_eq_true] at h
    exact h.1.1.1.2
  rcases tick_cases control nowMs with ⟨-, heq⟩ | ⟨-, heq⟩
  · rwa [heq] at hconnected
  · rw [heq] at hconnected
    cases hconnected

/-- **A poll is refused, or it stages the entry at the cursor and leaves the control alone**; then
it does the same at any time. -/
theorem poll_cases (connection : MmsStaticConnectionRuntime) (control : MmsStaticBrcbControl)
    (nowMs : UInt64) (responseSize workspaceSize : Nat) :
    ((poll connection control nowMs responseSize workspaceSize).1.status ≠ .responseReady ∧
      control.OnlyTicked nowMs (poll connection control nowMs responseSize workspaceSize).2) ∨
    ∃ entry, control.reports.front = some entry ∧
      ∀ nowMs', poll connection control nowMs' responseSize workspaceSize =
        (stage connection entry responseSize workspaceSize, control) := by
  rw [poll]
  split
  · exact .inl ⟨nofun, .inl rfl⟩
  rename_i hestablished
  dsimp only
  split
  · exact .inl ⟨nofun, .inr rfl⟩
  rename_i henabled
  split
  · exact .inl ⟨nofun, .inr rfl⟩
  rename_i hauthorized
  have hauth : authorized connection (control.state nowMs).2.valid (control.state nowMs).1
      = true := by simpa using hauthorized
  have hconnected := connected_of_authorized hauth
  have hstate (nowMs' : UInt64) : control.state nowMs' = ((control.state nowMs).1, control) := by
    simp only [state, tick_of_connected hconnected]
  cases hfront : (control.state nowMs).2.reports.front with
  | none => exact .inl ⟨nofun, .inr rfl⟩
  | some entry =>
    rw [hstate nowMs] at hauthorized hfront
    refine .inr ⟨entry, hfront, fun nowMs' => ?_⟩
    rw [poll, if_neg hestablished, hstate nowMs']
    dsimp only
    rw [if_neg henabled, if_neg hauthorized, hfront]

theorem commitSent_cases (connection : MmsStaticConnectionRuntime)
    (control : MmsStaticBrcbControl) (nowMs : UInt64) (staged : MmsStaticBrcbConnectionResult) :
    ((commitSent connection control nowMs staged).1 = false ∧
      control.OnlyTicked nowMs (commitSent connection control nowMs staged).2) ∨
    (commitSent connection control nowMs staged).1 = true ∧ staged.status = .responseReady ∧
      (control.reports.commitDelivery staged.entryId.toList).1 = .ok ∧
      (commitSent connection control nowMs staged).2 =
        { control with
          reports := (control.reports.commitDelivery staged.entryId.toList).2 } := by
  rw [commitSent]
  split
  · exact .inl ⟨rfl, .inl rfl⟩
  rename_i hready
  dsimp only
  split
  · exact .inl ⟨rfl, .inr rfl⟩
  rename_i hauthorized
  simp only [Bool.or_eq_true, not_or, Bool.not_eq_true', Bool.not_eq_false] at hready hauthorized
  have hconnected := connected_of_authorized hauthorized.2
  have hstate : control.state nowMs = ((control.state nowMs).1, control) := by
    simp only [state, tick_of_connected hconnected]
  rw [hstate]
  dsimp only
  rcases commitDelivery_cases control.reports staged.entryId.toList with
    ⟨hne, heq⟩ | ⟨hok, -, -, -⟩
  · refine .inl ⟨beq_eq_false_iff_ne.mpr hne, .inl ?_⟩
    rw [heq]
  · refine .inr ⟨by rw [hok]; rfl, ?_, hok, rfl⟩
    simpa [MmsStaticBrcbConnectionResult.responseReady] using hready.1.1

end MmsStaticBrcbConnection

/-! ## What expiry leaves alone -/

/-- An expired owner is gone, so its reports are disabled already. -/
theorem reports_onlyTicked {control after : MmsStaticBrcbControl} {nowMs : UInt64}
    (h : GateInv control) (honly : control.OnlyTicked nowMs after) :
    after.reports = control.reports := by
  rcases honly with rfl | rfl
  · rfl
  · rcases tick_cases control nowMs with ⟨-, heq⟩ | ⟨hexpired, heq⟩
    · rw [heq]
    · rw [heq]
      show control.disableReports.reports = control.reports
      rw [disableReports, if_neg]
      intro hon
      rw [Bool.and_eq_true] at hon
      exact absurd (h.owned hon.2).2 (by rw [hexpired.disconnected]; exact Bool.false_ne_true)

end ArStack.Mms
