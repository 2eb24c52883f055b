import ArStack.Properties.DeviceContainer
import ArStack.Spec.BrcbCheckpoint
import ArStack.Spec.Crc32

/-!
# Changed octets are noticed

Device profiles, the containers of three of them and the banks of the checkpoint store carry
CRCs. With one octet changed they are refused, or the octet is one that is not read.

* `eq_of_checksum`, `eq_of_crcAround` — octets with their checksum among them
* `slice_changed` — the parts of octets of which one is changed
* `corruption_detected`
-/

namespace ArStack.SampledValues

open ArStack.Integrity ArStack.Lib

/-! ## Checksums -/

/-- The checksum over octets of which four count as 0. -/
def crcAround (offset : Nat) (bytes : Bytes) : UInt32 :=
  crc32Finalize (crc32Update (crc32Update (crc32Update crc32InitialState (bytes.take offset))
    [0, 0, 0, 0]) (bytes.drop (offset + 4)))

theorem slice_eq_of_readU32 {source other : Bytes} {offset : Nat}
    (hlength : offset + 4 ≤ source.length) (hother : offset + 4 ≤ other.length)
    (h : readU32 source offset = readU32 other offset) :
    slice source offset 4 = slice other offset 4 := by
  rw [u32_readU32 hlength, u32_readU32 hother, h]

/-- Octets in front of a checksum and those of the checksum itself. -/
theorem eq_of_checksum (offset : Nat) (sum : Bytes → Bytes → UInt32)
    (hsum : ∀ {front back behind octet octet'},
      sum (front ++ octet :: back) behind = sum (front ++ octet' :: back) behind → octet = octet')
    {front back : Bytes} {octet octet' : UInt8}
    (hlength : offset + 4 ≤ (front ++ octet :: back).length) (hfront : front.length < offset + 4)
    (h : sum ((front ++ octet :: back).take offset) ((front ++ octet :: back).drop (offset + 4)) =
      readU32 (front ++ octet :: back) offset)
    (h' : sum ((front ++ octet' :: back).take offset) ((front ++ octet' :: back).drop (offset + 4)) =
      readU32 (front ++ octet' :: back) offset) : octet = octet' := by
  have hlength' : offset + 4 ≤ (front ++ octet' :: back).length := by simpa using hlength
  obtain ⟨k, hk⟩ : ∃ k, offset + 4 = front.length + (k + 1) :=
    ⟨offset + 4 - front.length - 1, by omega⟩
  rw [hk, List.drop_length_add_append] at h h'
  rcases Nat.lt_or_ge front.length offset with hbefore | hnot
  · obtain ⟨j, rfl⟩ : ∃ j, offset = front.length + (j + 1) := ⟨offset - front.length - 1, by omega⟩
    have hread : readU32 (front ++ octet :: back) (front.length + (j + 1)) =
        readU32 (front ++ octet' :: back) (front.length + (j + 1)) := by
      rw [readU32, readU32, readAt, readAt, slice, slice, List.drop_length_add_append,
        List.drop_length_add_append]
      rfl
    rw [List.take_length_add_append] at h h'
    exact hsum (h.trans (hread.trans h'.symm))
  · rw [List.take_append_of_le_length hnot] at h h'
    have hslice := slice_eq_of_readU32 hlength hlength' (h.symm.trans h')
    have hfour : 4 = (front.drop offset).length + (k + 1) := by
      rw [List.length_drop]
      omega
    rw [slice, slice, List.drop_append_of_le_length hnot, List.drop_append_of_le_length hnot, hfour,
      List.take_length_add_append, List.take_length_add_append] at hslice
    exact (List.cons.inj (List.append_cancel_left hslice)).1

/-- **Octets that carry their checksum do not carry it with one of them changed.** -/
theorem eq_of_crcAround {offset : Nat} {front back : Bytes} {octet octet' : UInt8}
    (hlength : offset + 4 ≤ (front ++ octet :: back).length)
    (h : crcAround offset (front ++ octet :: back) = readU32 (front ++ octet :: back) offset)
    (h' : crcAround offset (front ++ octet' :: back) = readU32 (front ++ octet' :: back) offset) :
    octet = octet' := by
  rcases Nat.lt_or_ge front.length (offset + 4) with hfield | hbehind
  · refine eq_of_checksum offset (fun before behind => crc32Finalize (crc32Update
      (crc32Update (crc32Update crc32InitialState before) [0, 0, 0, 0]) behind)) (fun h => ?_)
      hlength hfield h h'
    exact eq_of_crc32Update (crc32Update_injective _ (crc32Update_injective _
      (crc32Finalize_injective h)))
  · have hread : readU32 (front ++ octet :: back) offset =
        readU32 (front ++ octet' :: back) offset := by
      rw [readU32, readU32, readAt, readAt, slice_append_left _ _ hbehind,
        slice_append_left _ _ hbehind]
    have hcrc := crc32Finalize_injective (h.trans (hread.trans h'.symm))
    have hle : offset ≤ front.length := by omega
    rw [List.take_append_of_le_length hle, List.take_append_of_le_length hle,
      List.drop_append_of_le_length hbehind, List.drop_append_of_le_length hbehind] at hcrc
    exact eq_of_crc32Update hcrc

/-! ## Device profiles -/

theorem crcAround_of_decodeRecord {source : Bytes} {profile : CompiledSvDeviceProfile}
    (h : SvDeviceProfileBinaryCodec.decodeRecord source = .ok profile) :
    kCrcOffset + 4 ≤ source.length ∧ crcAround kCrcOffset source = readU32 source kCrcOffset := by
  obtain ⟨hlength, -, -, -, -, hcrc, -⟩ := SvDeviceProfileBinaryCodec.decodeRecord_eq_ok.mp h
  rw [SvDeviceProfileBinaryCodec.recordCrc, if_neg (by omega)] at hcrc
  exact ⟨hlength, hcrc⟩

theorem crcAround_of_decodeContainer {source : Bytes} {profiles : M4Profiles}
    (h : M4ThreeSvBinaryCodec.decodeContainer source = .ok profiles) :
    M4ThreeSvBinaryCodec.kCrcOffset + 4 ≤ source.length ∧
      crcAround M4ThreeSvBinaryCodec.kCrcOffset source =
        readU32 source M4ThreeSvBinaryCodec.kCrcOffset := by
  obtain ⟨hlength, -, -, -, -, hcrc, -⟩ := M4ThreeSvBinaryCodec.decodeContainer_eq_ok.mp h
  have hheader : M4ThreeSvBinaryCodec.kCrcOffset + 4 ≤ M4ThreeSvBinaryCodec.headerBytes := by decide
  exact ⟨hheader.trans hlength, hcrc.symm⟩

end ArStack.SampledValues

namespace ArStack.Mms

open ArStack.Integrity ArStack.Lib ArStack.SampledValues

/-! ## Banks -/

/-- A part of the octets has the changed one or is the same. -/
theorem slice_changed (front back : Bytes) (octet octet' : UInt8) (offset n : Nat) :
    slice (front ++ octet :: back) offset n = slice (front ++ octet' :: back) offset n ∨
      ∃ before behind, slice (front ++ octet :: back) offset n = before ++ octet :: behind ∧
        slice (front ++ octet' :: back) offset n = before ++ octet' :: behind := by
  rcases Nat.lt_or_ge front.length offset with hbefore | hnot
  · obtain ⟨j, rfl⟩ : ∃ j, offset = front.length + (j + 1) := ⟨offset - front.length - 1, by omega⟩
    left
    rw [slice, slice, List.drop_length_add_append, List.drop_length_add_append]
    rfl
  rcases Nat.lt_or_ge front.length (offset + n) with hwithin | hbehind
  · right
    obtain ⟨k, hk⟩ : ∃ k, n = (front.drop offset).length + (k + 1) := by
      refine ⟨n - (front.length - offset) - 1, ?_⟩
      rw [List.length_drop]
      omega
    refine ⟨front.drop offset, back.take k, ?_, ?_⟩
    · rw [slice, List.drop_append_of_le_length hnot, hk, List.take_length_add_append]
      rfl
    · rw [slice, List.drop_append_of_le_length hnot, hk, List.take_length_add_append]
      rfl
  · left
    rw [slice_append_left _ _ hbehind, slice_append_left _ _ hbehind]

namespace MmsStaticBrcbCheckpointStore

theorem eq_of_headerValid {front back : Bytes} {octet octet' : UInt8}
    (hlength : (front ++ octet :: back).length = recordHeaderBytes)
    (h : headerValid (front ++ octet :: back) = true)
    (h' : headerValid (front ++ octet' :: back) = true) : octet = octet' := by
  simp only [headerValid, Bool.and_eq_true, beq_iff_eq] at h h'
  have hsame (bytes : Bytes) (hcrc : (crc32 (bytes.take 36)).toNat = readAt bytes 36 4) :
      crc32 (bytes.take 36) = SampledValues.readU32 bytes 36 := by
    rw [SampledValues.readU32, ← hcrc, UInt32.ofNat_toNat]
  have hlong : recordHeaderBytes = 40 := rfl
  refine eq_of_checksum 36 (fun before _ => crc32 before) eq_of_crc32 (by omega) ?_
    (hsame _ h.1.2) (hsame _ h'.1.2)
  rw [List.length_append, List.length_cons] at hlength
  omega

theorem headerValid_of_inspectBank {cells : Bytes} {bankIndex bankBytes : Nat} {info : BankInfo}
    (h : inspectBank cells bankIndex bankBytes = some info) :
    headerValid (headerOf cells bankIndex bankBytes) = true := by
  by_contra hnot
  rw [Bool.not_eq_true] at hnot
  simp [inspectBank, hnot] at h

/-- **A bank with a changed octet** has the same record if it has one. -/
theorem inspectBank_changed {front back : Bytes} {octet octet' : UInt8} (hne : octet ≠ octet')
    {bankIndex bankBytes : Nat} {info info' : BankInfo}
    (hcells : bankOffset bankIndex bankBytes + recordHeaderBytes ≤
      (front ++ octet :: back).length)
    (h : inspectBank (front ++ octet :: back) bankIndex bankBytes = some info)
    (h' : inspectBank (front ++ octet' :: back) bankIndex bankBytes = some info') :
    info' = info ∧ payloadOf (front ++ octet' :: back) bankIndex bankBytes info.payloadBytes =
      payloadOf (front ++ octet :: back) bankIndex bankBytes info.payloadBytes := by
  have hvalid := headerValid_of_inspectBank h
  have hvalid' := headerValid_of_inspectBank h'
  have hbank := inspectBank_eq_some h
  have hbank' := inspectBank_eq_some h'
  have hheader : headerOf (front ++ octet :: back) bankIndex bankBytes =
      headerOf (front ++ octet' :: back) bankIndex bankBytes := by
    rcases slice_changed front back octet octet' (bankOffset bankIndex bankBytes)
      recordHeaderBytes with hsame | ⟨before, behind, hold, hnew⟩
    · exact hsame
    · have hlength := length_slice hcells
      rw [headerOf, hold] at hvalid
      rw [headerOf, hnew] at hvalid'
      rw [hold] at hlength
      exact absurd (eq_of_headerValid hlength hvalid hvalid') hne
  have hinfo : info' = info := by
    have hgeneration : info'.generation = info.generation := by
      rw [hbank'.generation, ← hheader, ← hbank.generation]
    have hbytes : info'.payloadBytes = info.payloadBytes := by
      rw [hbank'.payloadBytes, ← hheader, ← hbank.payloadBytes]
    have hcrc : info'.payloadCrc = info.payloadCrc := by
      rw [hbank'.payloadCrc, ← hheader, ← hbank.payloadCrc]
    cases info
    cases info'
    rw [BankInfo.mk.injEq]
    exact ⟨hgeneration, hbytes, hcrc⟩
  refine ⟨hinfo, ?_⟩
  have hcrc := hbank.checked
  have hcrc' := hbank'.checked
  rw [hinfo] at hcrc'
  rcases slice_changed front back octet octet'
    (bankOffset bankIndex bankBytes + recordHeaderBytes) info.payloadBytes
    with hsame | ⟨before, behind, hold, hnew⟩
  · exact hsame.symm
  · rw [payloadOf, hold] at hcrc
    rw [payloadOf, hnew] at hcrc'
    exact absurd (eq_of_crc32 (hcrc.trans hcrc'.symm)) hne

end MmsStaticBrcbCheckpointStore

open MmsStaticBrcbCheckpointStore

/-- **A changed octet is noticed.** Records and containers that are accepted are refused with one
octet changed; a bank that has a record has none then, or the same one. -/
theorem corruption_detected :
    (∀ (front back : Bytes) (octet octet' : UInt8), octet ≠ octet' →
      ∀ profile, SvDeviceProfileBinaryCodec.decodeRecord (front ++ octet :: back) = .ok profile →
        ∃ status, SvDeviceProfileBinaryCodec.decodeRecord (front ++ octet' :: back) =
          .error status) ∧
    (∀ (front back : Bytes) (octet octet' : UInt8), octet ≠ octet' →
      ∀ profiles, M4ThreeSvBinaryCodec.decodeContainer (front ++ octet :: back) = .ok profiles →
        ∃ status, M4ThreeSvBinaryCodec.decodeContainer (front ++ octet' :: back) =
          .error status) ∧
    ∀ (front back : Bytes) (octet octet' : UInt8) (bankIndex bankBytes : Nat) (info : BankInfo),
      octet ≠ octet' →
      bankOffset bankIndex bankBytes + recordHeaderBytes ≤ (front ++ octet :: back).length →
      inspectBank (front ++ octet :: back) bankIndex bankBytes = some info →
        inspectBank (front ++ octet' :: back) bankIndex bankBytes = none ∨
        inspectBank (front ++ octet' :: back) bankIndex bankBytes = some info ∧
          payloadOf (front ++ octet' :: back) bankIndex bankBytes info.payloadBytes =
            payloadOf (front ++ octet :: back) bankIndex bankBytes info.payloadBytes := by
  refine ⟨fun front back octet octet' hne profile h => ?_,
    fun front back octet octet' hne profiles h => ?_,
    fun front back octet octet' bankIndex bankBytes info hne hcells h => ?_⟩
  · cases hdecode : SvDeviceProfileBinaryCodec.decodeRecord (front ++ octet' :: back) with
    | error status => exact ⟨status, rfl⟩
    | ok profile' =>
      obtain ⟨hlength, hcrc⟩ := crcAround_of_decodeRecord h
      obtain ⟨-, hcrc'⟩ := crcAround_of_decodeRecord hdecode
      exact absurd (eq_of_crcAround hlength hcrc hcrc') hne
  · cases hdecode : M4ThreeSvBinaryCodec.decodeContainer (front ++ octet' :: back) with
    | error status => exact ⟨status, rfl⟩
    | ok profiles' =>
      obtain ⟨hlength, hcrc⟩ := crcAround_of_decodeContainer h
      obtain ⟨-, hcrc'⟩ := crcAround_of_decodeContainer hdecode
      exact absurd (eq_of_crcAround hlength hcrc hcrc') hne
  · cases hinspect : inspectBank (front ++ octet' :: back) bankIndex bankBytes with
    | none => exact .inl rfl
    | some info' =>
      obtain ⟨hinfo, hpayload⟩ := inspectBank_changed hne hcells h hinspect
      exact .inr ⟨congrArg some hinfo, hpayload⟩

end ArStack.Mms
