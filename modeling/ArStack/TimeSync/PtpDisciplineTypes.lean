import Mathlib.Algebra.Ring.Int.Defs
import ArStack.Wire

/-!
# PTP values

Points in time are nanoseconds of the steady clock, intervals of `std::chrono::milliseconds` are
milliseconds.

* `PtpFrame` — the parts of a received message that the receiver reads
* `calculatePeerDelay`, `calculateOffsetFromMaster`
* `PtpOffsetMeasurement` — what the receiver measures and the discipline observes
-/

namespace ArStack.TimeSync

open ArStack.Lib

/-- Nanoseconds in a millisecond. -/
def millisecond : Int := 1000000

/-! ## Checked arithmetic -/

def checkedAdd (left right : Int64) : Option Int64 :=
  if (right > 0 ∧ left > Int64.maxValue - right) ∨ (right < 0 ∧ left < Int64.minValue - right) then
    none
  else some (left + right)

def checkedSubtract (left right : Int64) : Option Int64 :=
  if right = Int64.minValue then
    if left ≥ 0 then none else some (left - right)
  else checkedAdd left (-right)

def magnitude (value : Int64) : UInt64 :=
  if value ≥ 0 then value.toUInt64 else (-(value + 1)).toUInt64 + 1

theorem toNat_toUInt64 {value : Int64} (h : 0 ≤ value.toInt) :
    (value.toUInt64.toNat : Int) = value.toInt := by
  have hvalue : value.toInt = value.toBitVec.toInt := rfl
  rw [hvalue, BitVec.toInt_eq_toNat_cond] at h ⊢
  show (value.toBitVec.toNat : Int) = _
  split at h <;> omega

theorem bmod_of_mem {n : Int} (hlow : -2 ^ 63 ≤ n) (hhigh : n < 2 ^ 63) : n.bmod (2 ^ 64) = n :=
  Int.bmod_eq_of_le (by omega) (by omega)

theorem toInt_neg {value : Int64} (h : value ≠ Int64.minValue) : (-value).toInt = -value.toInt := by
  have hlow := value.le_toInt
  have hhigh := value.toInt_lt
  have hne : value.toInt ≠ -2 ^ 63 := fun heq => h (Int64.toInt_inj.mp heq)
  rw [Int64.toInt_neg, bmod_of_mem (by omega) (by omega)]

theorem magnitude_toNat (value : Int64) : (magnitude value).toNat = value.toInt.natAbs := by
  have hlow := value.le_toInt
  have hhigh := value.toInt_lt
  rw [magnitude]
  split
  · rename_i h
    have h : 0 ≤ value.toInt := Int64.le_iff_toInt_le.mp h
    have hnat := toNat_toUInt64 h
    omega
  · rename_i h
    have h : ¬0 ≤ value.toInt := fun h' => h (Int64.le_iff_toInt_le.mpr h')
    have hone : (1 : Int64).toInt = 1 := rfl
    have hneg : (-(value + 1)).toInt = -(value.toInt + 1) := by
      rw [Int64.toInt_neg, Int64.toInt_add, hone, bmod_of_mem (n := value.toInt + 1) (by omega)
        (by omega), bmod_of_mem (by omega) (by omega)]
    have hnonneg : 0 ≤ (-(value + 1)).toInt := by omega
    have hnat := toNat_toUInt64 hnonneg
    have hone : (1 : UInt64).toNat = 1 := rfl
    rw [UInt64.toNat_add, hone]
    omega

/-- Minus a value, unless it does not fit. -/
theorem checkedSubtract_zero (value : Int64) :
    checkedSubtract 0 value = if value = Int64.minValue then none else some (-value) := by
  have hlow := value.le_toInt
  have hhigh := value.toInt_lt
  have hzero : (0 : Int64).toInt = 0 := rfl
  rw [checkedSubtract]
  split
  · rw [if_pos (by decide)]
  · rename_i hmin
    have hneg := toInt_neg hmin
    have hne : value.toInt ≠ -2 ^ 63 := fun heq => hmin (Int64.toInt_inj.mp heq)
    have hsub {left : Int64} (h : -2 ^ 63 ≤ left.toInt + value.toInt)
        (h' : left.toInt + value.toInt < 2 ^ 63) :
        (left - -value).toInt = left.toInt + value.toInt := by
      rw [Int64.toInt_sub, hneg, sub_neg_eq_add, bmod_of_mem h h']
    rw [checkedAdd, if_neg, Int64.zero_add]
    rintro (⟨hright, hleft⟩ | ⟨hright, hleft⟩)
    · have hright := Int64.lt_iff_toInt_lt.mp hright
      have hleft := Int64.lt_iff_toInt_lt.mp hleft
      have hmax : Int64.maxValue.toInt = 2 ^ 63 - 1 := rfl
      rw [hsub (by omega) (by omega)] at hleft
      omega
    · have hright := Int64.lt_iff_toInt_lt.mp hright
      have hleft := Int64.lt_iff_toInt_lt.mp hleft
      have hmin : Int64.minValue.toInt = -2 ^ 63 := rfl
      rw [hsub (by omega) (by omega)] at hleft
      omega

/-! ## Messages -/

/-- Any octet of a nibble may stand for a message type. -/
abbrev PtpMessageType := UInt8

namespace PtpMessageType

def sync : PtpMessageType := 0x0
def pdelayResp : PtpMessageType := 0x3
def followUp : PtpMessageType := 0x8
def pdelayRespFollowUp : PtpMessageType := 0xA
def announce : PtpMessageType := 0xB

end PtpMessageType

/-- Any octet of an Announce. -/
abbrev PtpTimeSource := UInt8

namespace PtpTimeSource

def handSet : PtpTimeSource := 0x60
def internalOscillator : PtpTimeSource := 0xA0

end PtpTimeSource

abbrev PtpClockIdentity := Vector UInt8 8

structure PtpPortIdentity where
  clockIdentity : PtpClockIdentity := Vector.replicate 8 0
  portNumber : UInt16 := 1
  deriving DecidableEq

structure PtpTimestamp where
  seconds : UInt64 := 0
  nanoseconds : UInt32 := 0
  deriving DecidableEq

/-- The first ten octets. -/
def PtpTimestamp.tryRead (source : Bytes) : Option PtpTimestamp :=
  if source.length < 10 then none
  else
    let nanoseconds := UInt32.ofNat (beValue (slice source 6 4))
    if nanoseconds ≥ 1000000000 then none
    else some { seconds := UInt64.ofNat (beValue (slice source 0 6)), nanoseconds }

structure PtpHeader where
  transportSpecific : UInt8 := 0
  messageType : PtpMessageType := .sync
  domainNumber : UInt8 := 0
  flags : UInt16 := 0
  correctionField : Int64 := 0
  sourcePortIdentity : PtpPortIdentity := {}
  sequenceId : UInt16 := 0
  logMessageInterval : Int8 := 0
  deriving DecidableEq

def PtpHeader.isTwoStep (header : PtpHeader) : Bool := header.flags &&& 0x0200 ≠ 0

structure PtpAnnounceMessage where
  priority1 : UInt8 := 128
  clockClass : UInt8 := 248
  clockAccuracy : UInt8 := 0xFE
  offsetScaledLogVariance : UInt16 := 0xFFFF
  priority2 : UInt8 := 128
  grandmasterIdentity : PtpClockIdentity := Vector.replicate 8 0
  stepsRemoved : UInt16 := 0
  timeSource : PtpTimeSource := .internalOscillator
  deriving DecidableEq

structure PtpFrame where
  header : PtpHeader := {}
  timestamp : Option PtpTimestamp := none
  announce : Option PtpAnnounceMessage := none
  body : Bytes := []
  deriving DecidableEq

/-! ## Measurements -/

def ptpTimestampNanoseconds (timestamp : PtpTimestamp) : Option Int64 :=
  if timestamp.nanoseconds ≥ 1000000000 then none
  else
    let ns := timestamp.nanoseconds.toUInt64.toInt64
    if timestamp.seconds > ((Int64.maxValue - ns) / 1000000000).toUInt64 then none
    else some (timestamp.seconds.toInt64 * 1000000000 + ns)

def ptpTimestampDeltaNanoseconds (left right : PtpTimestamp) : Option Int64 := do
  let leftNs ← ptpTimestampNanoseconds left
  let rightNs ← ptpTimestampNanoseconds right
  checkedSubtract leftNs rightNs

def ptpCorrectionNanoseconds (correctionField : Int64) : Int64 := correctionField / 65536

structure PtpPeerDelayExchange where
  t1RequestTx : PtpTimestamp
  t2PeerRequestRx : PtpTimestamp
  t3PeerResponseTx : PtpTimestamp
  t4ResponseRx : PtpTimestamp
  responseCorrectionField : Int64
  responseFollowUpCorrectionField : Int64
  deriving DecidableEq

structure PtpPeerDelayMeasurement where
  meanPathDelayNs : Int64
  roundTripPathNs : Int64
  deriving DecidableEq

def calculatePeerDelay (exchange : PtpPeerDelayExchange) : Option PtpPeerDelayMeasurement := do
  let t2MinusT1 ← ptpTimestampDeltaNanoseconds exchange.t2PeerRequestRx exchange.t1RequestTx
  let t4MinusT3 ← ptpTimestampDeltaNanoseconds exchange.t4ResponseRx exchange.t3PeerResponseTx
  let pathSum ← checkedAdd t2MinusT1 t4MinusT3
  let pathSum ← checkedSubtract pathSum
    (ptpCorrectionNanoseconds exchange.responseCorrectionField)
  let pathSum ← checkedSubtract pathSum
    (ptpCorrectionNanoseconds exchange.responseFollowUpCorrectionField)
  if pathSum < 0 then none
  else some { meanPathDelayNs := pathSum / 2, roundTripPathNs := pathSum }

structure PtpSyncExchange where
  masterOriginTimestamp : PtpTimestamp
  localReceiveTimestamp : PtpTimestamp
  meanPathDelayNs : Int64
  syncCorrectionField : Int64
  followUpCorrectionField : Int64
  deriving DecidableEq

def calculateOffsetFromMaster (exchange : PtpSyncExchange) : Option Int64 := do
  if exchange.meanPathDelayNs < 0 then none
  let result ← ptpTimestampDeltaNanoseconds exchange.localReceiveTimestamp
    exchange.masterOriginTimestamp
  let result ← checkedSubtract result exchange.meanPathDelayNs
  let result ← checkedSubtract result (ptpCorrectionNanoseconds exchange.syncCorrectionField)
  checkedSubtract result (ptpCorrectionNanoseconds exchange.followUpCorrectionField)

/-- The flags `currentUtcOffsetValid`, `ptpTimescale` and `timeTraceable`. -/
def requiredFlags : UInt16 := 0x0004 ||| 0x0008 ||| 0x0010

def ptpAnnounceIsGloballyTraceable (frame : PtpFrame) : Bool :=
  match frame.announce with
  | none => false
  | some announce =>
    frame.header.messageType = .announce && frame.header.flags &&& requiredFlags = requiredFlags &&
      announce.clockClass < 128 && announce.timeSource ≠ .internalOscillator &&
      announce.timeSource ≠ .handSet && announce.grandmasterIdentity.toList.any (· ≠ 0)

structure PtpOffsetMeasurement where
  sourcePortIdentity : PtpPortIdentity := {}
  syncSequenceId : UInt16 := 0
  offsetFromMasterNs : Int64 := 0
  meanPathDelayNs : Int64 := 0
  globallyTraceable : Bool := false
  deriving DecidableEq

end ArStack.TimeSync
