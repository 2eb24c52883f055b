import ArStack.TimeSync.PtpCodec
import ArStack.TimeSync.PtpTimeReceiver

/-!
# PTP messages are read back

* `tryRead_write` — timestamps
* `parseHeader_messageHeader`, `parseAnnounce_body`, `parsePdelayBody_body` — the parts
* `tryParseMessage_buildMessage` — messages
* `tryParse_buildEthernetFrame` — frames
* `ptp_roundtrip`
-/

namespace ArStack.TimeSync

open ArStack.Ethernet ArStack.Lib

/-! ## Octets -/

@[simp] theorem length_u32Be (value : UInt32) : (u32Be value).length = 4 := length_beOctets 4 _

@[simp] theorem length_u64Be (value : UInt64) : (u64Be value).length = 8 := length_beOctets 8 _

theorem readU16Be_of_slice {source : Bytes} {offset : Nat} {value : UInt16}
    (h : slice source offset 2 = u16Be value) : readU16Be source offset = value := by
  have hlt : value.toNat < 256 ^ 2 := value.toNat_lt
  rw [readU16Be, readAt, h, u16Be, beValue_beOctets 2 hlt, UInt16.ofNat_toNat]

theorem readU64_of_slice {source : Bytes} {offset : Nat} {value : UInt64}
    (h : slice source offset 8 = u64Be value) : UInt64.ofNat (readAt source offset 8) = value := by
  rw [readAt, h, u64Be, beValue_beOctets_uint64, UInt64.ofNat_toNat]

/-- An octet behind some others. -/
theorem octetAt_append_right {front : Bytes} (back : Bytes) {offset : Nat}
    (h : front.length ≤ offset) : octetAt (front ++ back) offset = octetAt back (offset - front.length) := by
  rw [octetAt, octetAt, List.getD_append_right _ _ _ _ h]

theorem readU16Be_append_right {front : Bytes} (back : Bytes) {offset : Nat}
    (h : front.length ≤ offset) :
    readU16Be (front ++ back) offset = readU16Be back (offset - front.length) := by
  rw [readU16Be, readU16Be, readAt, readAt, slice_append_right _ _ _ h]

namespace PtpCodec

/-- **An identity is read back**, wherever it stands. -/
theorem readClockIdentity_append {front : Bytes} (identity : PtpClockIdentity) (back : Bytes)
    {offset : Nat} (h : front.length = offset) :
    readClockIdentity (front ++ (identity.toList ++ back)) offset = identity := by
  subst h
  ext i hi
  have hlength : identity.toList.length = 8 := identity.length_toList
  rw [readClockIdentity, Vector.getElem_ofFn, List.getD_append_right _ _ _ _ (Nat.le_add_right _ _),
    Nat.add_sub_cancel_left, List.getD_append _ _ _ _ (by omega),
    List.getD_eq_getElem _ _ (by omega), Vector.getElem_toList]

/-! ## Headers -/

section Header

variable (messageType : PtpMessageType) (options : PtpBuildOptions) (controlField : UInt8)
  (bodyLength : Nat)

/-- What stands in front of the source. -/
def headerFront : Bytes :=
  [options.transportSpecific <<< 4 ||| messageType &&& 0x0F, ptpVersion] ++
    u16Be (.ofNat (ptpHeaderLength + bodyLength)) ++
    [options.domainNumber, 0] ++
    u16Be options.flags ++
    u64Be options.correctionField.toUInt64 ++
    [0, 0, 0, 0]

/-- What stands behind the clock identity. -/
def headerBack : Bytes :=
  u16Be options.sourcePortIdentity.portNumber ++
    u16Be options.sequenceId ++
    [controlField, options.logMessageInterval.toUInt8]

/-- The header that the builders write. -/
def messageHeader : Bytes :=
  headerFront messageType options bodyLength ++
    (options.sourcePortIdentity.clockIdentity.toList ++ headerBack options controlField)

theorem length_headerFront : (headerFront messageType options bodyLength).length = 20 := rfl

theorem length_messageHeader :
    (messageHeader messageType options controlField bodyLength).length = ptpHeaderLength := by
  have hidentity := options.sourcePortIdentity.clockIdentity.length_toList
  have hback : (headerBack options controlField).length = 6 := rfl
  rw [messageHeader, List.length_append, List.length_append, length_headerFront, hidentity, hback]
  rfl

theorem buildMessage_eq {body : Bytes} (h : body.length ≤ 65535 - ptpHeaderLength) :
    buildMessage messageType options controlField body =
      messageHeader messageType options controlField body.length ++ body := by
  rw [buildMessage, if_neg (Nat.not_lt.mpr h), messageHeader, headerFront, headerBack,
    PtpPortIdentity.octets]
  simp only [List.append_assoc]

/-- The header that the parser has for a header of the builders. -/
def writtenHeader : PtpWireHeader where
  transportSpecific := options.transportSpecific
  messageType
  messageLength := .ofNat (ptpHeaderLength + bodyLength)
  domainNumber := options.domainNumber
  flags := options.flags
  correctionField := options.correctionField
  sourcePortIdentity := options.sourcePortIdentity
  sequenceId := options.sequenceId
  controlField
  logMessageInterval := options.logMessageInterval

end Header

/-- The two halves of the first octet. -/
theorem first_octet : ∀ transport type : Fin 16,
    (UInt8.ofNat transport <<< 4 ||| UInt8.ofNat type &&& 0x0F) >>> 4 = UInt8.ofNat transport ∧
      (UInt8.ofNat transport <<< 4 ||| UInt8.ofNat type &&& 0x0F) &&& 0x0F = UInt8.ofNat type := by
  decide

/-- **The header is read back.** -/
theorem parseHeader_messageHeader {messageType : PtpMessageType} {options : PtpBuildOptions}
    (htype : messageType.toNat < 16) (htransport : options.transportSpecific.toNat < 16)
    (controlField : UInt8) (bodyLength : Nat) (rest : Bytes) :
    parseHeader (messageHeader messageType options controlField bodyLength ++ rest) =
      writtenHeader messageType options controlField bodyLength := by
  obtain ⟨htransportOctet, htypeOctet⟩ :=
    first_octet ⟨options.transportSpecific.toNat, htransport⟩ ⟨messageType.toNat, htype⟩
  rw [UInt8.ofNat_toNat, UInt8.ofNat_toNat] at htransportOctet htypeOctet
  have hlength := length_headerFront messageType options bodyLength
  have hidentity := options.sourcePortIdentity.clockIdentity.length_toList
  have hmessage : messageHeader messageType options controlField bodyLength ++ rest =
      headerFront messageType options bodyLength ++
        (options.sourcePortIdentity.clockIdentity.toList ++
          (headerBack options controlField ++ rest)) := by
    rw [messageHeader, List.append_assoc, List.append_assoc]
  generalize htail : options.sourcePortIdentity.clockIdentity.toList ++
    (headerBack options controlField ++ rest) = tail at hmessage
  -- the fields in front of the source
  have hoctet : octetAt (headerFront messageType options bodyLength ++ tail) 0 =
      options.transportSpecific <<< 4 ||| messageType &&& 0x0F := rfl
  have hversion : octetAt (headerFront messageType options bodyLength ++ tail) 1 = ptpVersion := rfl
  have hnibble : ptpVersion &&& 0x0F = ptpVersion := by decide
  have hmessageLength : slice (headerFront messageType options bodyLength ++ tail) 2 2 =
      u16Be (.ofNat (ptpHeaderLength + bodyLength)) := rfl
  have hdomain : octetAt (headerFront messageType options bodyLength ++ tail) 4 =
      options.domainNumber := rfl
  have hflags : slice (headerFront messageType options bodyLength ++ tail) 6 2 =
      u16Be options.flags := rfl
  have hcorrection : slice (headerFront messageType options bodyLength ++ tail) 8 8 =
      u64Be options.correctionField.toUInt64 := rfl
  -- the source and the fields behind it
  have hsource : readClockIdentity (headerFront messageType options bodyLength ++ tail) 20 =
      options.sourcePortIdentity.clockIdentity := by
    rw [← htail]
    exact readClockIdentity_append _ _ hlength
  have hbehind : headerFront messageType options bodyLength ++ tail =
      (headerFront messageType options bodyLength ++
        options.sourcePortIdentity.clockIdentity.toList) ++
          (headerBack options controlField ++ rest) := by
    rw [← htail, List.append_assoc]
  have hsum : (headerFront messageType options bodyLength ++
      options.sourcePortIdentity.clockIdentity.toList).length = 28 := by
    rw [List.length_append, hlength, hidentity]
  have hport : slice (headerFront messageType options bodyLength ++ tail) 28 2 =
      u16Be options.sourcePortIdentity.portNumber := by
    rw [hbehind, slice_append_right _ _ _ (by omega), hsum]
    rfl
  have hsequence : slice (headerFront messageType options bodyLength ++ tail) 30 2 =
      u16Be options.sequenceId := by
    rw [hbehind, slice_append_right _ _ _ (by omega), hsum]
    rfl
  have hcontrol : octetAt (headerFront messageType options bodyLength ++ tail) 32 =
      controlField := by
    rw [hbehind, octetAt_append_right _ (by omega), hsum]
    rfl
  have hinterval : octetAt (headerFront messageType options bodyLength ++ tail) 33 =
      options.logMessageInterval.toUInt8 := by
    rw [hbehind, octetAt_append_right _ (by omega), hsum]
    rfl
  rw [hmessage]
  unfold parseHeader writtenHeader
  rw [hoctet, htransportOctet, htypeOctet, hversion, hnibble, readU16Be_of_slice hmessageLength, hdomain,
    readU16Be_of_slice hflags, readU64_of_slice hcorrection, hsource, readU16Be_of_slice hport,
    readU16Be_of_slice hsequence, hcontrol, hinterval]
  rfl

/-! ## Timestamps -/

theorem length_write {timestamp : PtpTimestamp} {octets : Bytes} (h : timestamp.write = some octets) :
    octets.length = 10 := by
  unfold PtpTimestamp.write at h
  split at h
  · cases h
  · cases h
    rfl

/-- **A timestamp is read back.** -/
theorem tryRead_write {timestamp : PtpTimestamp} {octets : Bytes}
    (h : timestamp.write = some octets) : PtpTimestamp.tryRead octets = some timestamp := by
  have hlength := length_write h
  unfold PtpTimestamp.write at h
  split at h
  · cases h
  rename_i hvalid
  obtain ⟨hseconds, hnanoseconds⟩ := not_or.mp hvalid
  cases h
  have hmax : maxSeconds.toNat = 2 ^ 48 - 1 := rfl
  have hlt : timestamp.seconds.toNat < 2 ^ 48 := by
    have hle := UInt64.le_iff_toNat_le.mp (UInt64.not_lt.mp hseconds)
    omega
  have hfields : slice (u16Be (timestamp.seconds >>> 32).toUInt16 ++
      u32Be (timestamp.seconds &&& 0xFFFFFFFF).toUInt32 ++ u32Be timestamp.nanoseconds) 0 6 =
        u16Be (timestamp.seconds >>> 32).toUInt16 ++
          u32Be (timestamp.seconds &&& 0xFFFFFFFF).toUInt32 := rfl
  have hrest : slice (u16Be (timestamp.seconds >>> 32).toUInt16 ++
      u32Be (timestamp.seconds &&& 0xFFFFFFFF).toUInt32 ++ u32Be timestamp.nanoseconds) 6 4 =
        u32Be timestamp.nanoseconds := rfl
  have hhigh : (timestamp.seconds >>> 32).toUInt16.toNat = timestamp.seconds.toNat / 2 ^ 32 := by
    rw [UInt64.toNat_toUInt16, UInt64.toNat_shiftRight, Nat.shiftRight_eq_div_pow]
    exact Nat.mod_eq_of_lt (by show timestamp.seconds.toNat / 2 ^ 32 < _; omega)
  have hlow : (timestamp.seconds &&& 0xFFFFFFFF).toUInt32.toNat =
      timestamp.seconds.toNat % 2 ^ 32 := by
    have hmask : (0xFFFFFFFF : UInt64).toNat = 2 ^ 32 - 1 := rfl
    rw [UInt64.toNat_toUInt32, UInt64.toNat_and, hmask, Nat.and_two_pow_sub_one_eq_mod, Nat.mod_mod]
  have hvalue : UInt64.ofNat (beValue (u16Be (timestamp.seconds >>> 32).toUInt16 ++
      u32Be (timestamp.seconds &&& 0xFFFFFFFF).toUInt32)) = timestamp.seconds := by
    have hhighLt := (timestamp.seconds >>> 32).toUInt16.toNat_lt
    have hlowLt := (timestamp.seconds &&& 0xFFFFFFFF).toUInt32.toNat_lt
    refine UInt64.toNat_inj.mp ?_
    rw [UInt64.toNat_ofNat', beValue_append, length_u32Be, u16Be, u32Be,
      beValue_beOctets 2 (by omega), beValue_beOctets 4 (by omega), hhigh, hlow]
    omega
  have hnanosecondsLt := timestamp.nanoseconds.toNat_lt
  unfold PtpTimestamp.tryRead
  dsimp only
  rw [if_neg (by omega), hfields, hrest, hvalue, u32Be, beValue_beOctets 4 (by omega),
    UInt32.ofNat_toNat, if_neg hnanoseconds]

/-! ## Messages -/

/-- The frame that the parser has for a message. -/
def writtenFrame (messageType : PtpMessageType) (options : PtpBuildOptions) (controlField : UInt8)
    (body : Bytes) : PtpWireFrame where
  header := writtenHeader messageType options controlField body.length
  timestamp := parseTimestamp messageType body
  message := messageHeader messageType options controlField body.length ++ body
  body

/-- **A message is read back**, also with padding behind it. -/
theorem tryParseMessage_buildMessage {messageType : PtpMessageType} {options : PtpBuildOptions}
    (htype : messageType.toNat < 16) (htransport : options.transportSpecific.toNat < 16)
    (controlField : UInt8) {body : Bytes} (hbody : body.length ≤ 65535 - ptpHeaderLength)
    (padding : Bytes) :
    tryParseMessage (buildMessage messageType options controlField body ++ padding) =
      if messageType = .announce ∧ body.length ≥ 30 then
        (PtpTimestamp.tryRead (body.take 10)).map fun timestamp =>
          { writtenFrame messageType options controlField body with
            timestamp, announce := some (parseAnnounce body timestamp) }
      else some (writtenFrame messageType options controlField body) := by
  have hlength := length_messageHeader messageType options controlField body.length
  have hheaderLength : ptpHeaderLength = 34 := rfl
  have hheader := parseHeader_messageHeader htype htransport controlField body.length
    (body ++ padding)
  have hsize : (writtenHeader messageType options controlField body.length).messageLength.toNat =
      ptpHeaderLength + body.length := by
    show (UInt16.ofNat (ptpHeaderLength + body.length)).toNat = _
    rw [UInt16.toNat_ofNat', Nat.mod_eq_of_lt (by omega)]
  have hmessage : buildMessage messageType options controlField body ++ padding =
      messageHeader messageType options controlField body.length ++ (body ++ padding) := by
    rw [buildMessage_eq _ _ _ hbody, List.append_assoc]
  have htake : (messageHeader messageType options controlField body.length ++
      (body ++ padding)).take (ptpHeaderLength + body.length) =
        messageHeader messageType options controlField body.length ++ body := by
    rw [← List.append_assoc, List.take_left' (by rw [List.length_append]; omega)]
  have hslice : slice (messageHeader messageType options controlField body.length ++
      (body ++ padding)) ptpHeaderLength (ptpHeaderLength + body.length - ptpHeaderLength) = body := by
    rw [slice_append_right _ _ _ (by omega), hlength, Nat.sub_self, Nat.add_sub_cancel_left,
      slice_append_left _ _ (by omega), slice_all]
  unfold tryParseMessage
  rw [hmessage, if_neg (by rw [List.length_append]; omega), hheader]
  dsimp only
  rw [hsize, htake, hslice]
  have hversion : ¬(writtenHeader messageType options controlField body.length).version ≠
      ptpVersion := not_not.mpr rfl
  have hfits : ¬(ptpHeaderLength + body.length < ptpHeaderLength ∨
      (messageHeader messageType options controlField body.length ++ (body ++ padding)).length <
        ptpHeaderLength + body.length) := by
    rw [List.length_append, List.length_append]
    omega
  rw [if_neg hversion, if_neg hfits]
  have htypeEq : (writtenHeader messageType options controlField body.length).messageType =
      messageType := rfl
  rw [htypeEq]
  by_cases hannounce : messageType = .announce ∧ body.length ≥ 30
  · rw [if_pos hannounce, if_pos hannounce]
    cases PtpTimestamp.tryRead (body.take 10) with
    | none => rfl
    | some timestamp => rfl
  · rw [if_neg hannounce, if_neg hannounce]
    rfl

/-! ## Frames -/

/-- The VLAN of a tag is read back. -/
theorem vlanIdFromTci_tci {vlan : VlanTag} (h : vlan.Valid) : vlanIdFromTci vlan.tci = vlan.vlanId := by
  have hvlan := VlanTag.fromTagControlInformation_tci h
  have hmask : (0x0FFF : UInt16).toNat = 0x0FFF := rfl
  have hid : UInt16.ofNat (vlan.tci.toNat &&& 0x0FFF) = vlan.vlanId := congrArg VlanTag.vlanId hvlan
  rw [vlanIdFromTci, ← hid]
  refine UInt16.toNat_inj.mp ?_
  rw [UInt16.toNat_and, hmask, UInt16.toNat_ofNat', Nat.mod_eq_of_lt]
  exact Nat.lt_of_le_of_lt Nat.and_le_left vlan.tci.toNat_lt

/-- What `build_ethernet_frame` asks of its tag. -/
def ValidTag (vlanId : Option UInt16) (vlanPriority : UInt8) : Prop :=
  isValidVlanPriority vlanPriority = true ∧ ∀ id, vlanId = some id → isValidVlanId id = true

section Frame

variable {destinationMac sourceMac : MacAddress} {rest : Bytes} {frame : PtpWireFrame}

/-- A frame without a tag. -/
theorem tryParse_untagged (hparse : tryParseMessage rest = some frame)
    (hlength : ptpHeaderLength ≤ rest.length) :
    tryParseEthernetFrame
        (destinationMac.octets ++ sourceMac.octets ++ (u16Be ptpEthertype ++ rest)) = some
      { frame with
        outerVlanId := none
        vlanId := none
        peerDelayMulticast := destinationMac.octets == ptpPeerDelayMulticastMac } := by
  have hheader : ptpHeaderLength = 34 := rfl
  have haddresses : (destinationMac.octets ++ sourceMac.octets).length = 12 := by
    rw [List.length_append, destinationMac.length_octets, sourceMac.length_octets]
  have htype : readU16Be (destinationMac.octets ++ sourceMac.octets ++
      (u16Be ptpEthertype ++ rest)) 12 = ptpEthertype := readU16Be_u16Be _ _ _ haddresses
  have hdrop : (destinationMac.octets ++ sourceMac.octets ++ (u16Be ptpEthertype ++ rest)).drop 14 =
      rest := by
    rw [← List.append_assoc]
    exact List.drop_left' (by rw [List.length_append, haddresses, length_u16Be])
  have htake : (destinationMac.octets ++ sourceMac.octets ++ (u16Be ptpEthertype ++ rest)).take 6 =
      destinationMac.octets := by
    rw [List.append_assoc, List.take_left' destinationMac.length_octets]
  have htotal : (destinationMac.octets ++ sourceMac.octets ++
      (u16Be ptpEthertype ++ rest)).length = 14 + rest.length := by
    rw [List.length_append, haddresses, List.length_append, length_u16Be]
    omega
  have hqinq : ptpEthertype ≠ ptpQinqEthertype := by decide
  have hvlan : ptpEthertype ≠ ptpVlanEthertype := by decide
  have hfits : ¬(ptpEthertype ≠ ptpEthertype ∨ (destinationMac.octets ++ sourceMac.octets ++
      (u16Be ptpEthertype ++ rest)).length < 14 + ptpHeaderLength) := by
    rintro (hne | hshort)
    · exact hne rfl
    · omega
  unfold tryParseEthernetFrame
  rw [if_neg (by omega), htype, readTag, if_neg hqinq]
  simp only [Option.bind_eq_bind, Option.bind_some]
  rw [readTag, if_neg hvlan]
  simp only [Option.bind_some]
  rw [if_neg hfits, hdrop, hparse, htake]
  rfl

/-- A frame with a tag. -/
theorem tryParse_tagged {vlan : VlanTag} (hvlan : vlan.Valid)
    (hparse : tryParseMessage rest = some frame) (hlength : ptpHeaderLength ≤ rest.length) :
    tryParseEthernetFrame (destinationMac.octets ++ sourceMac.octets ++
        (u16Be vlanTagEthertype ++ (u16Be vlan.tci ++ (u16Be ptpEthertype ++ rest)))) = some
      { frame with
        outerVlanId := none
        vlanId := some vlan.vlanId
        peerDelayMulticast := destinationMac.octets == ptpPeerDelayMulticastMac } := by
  have hheader : ptpHeaderLength = 34 := rfl
  have haddresses : (destinationMac.octets ++ sourceMac.octets).length = 12 := by
    rw [List.length_append, destinationMac.length_octets, sourceMac.length_octets]
  generalize hbytes : destinationMac.octets ++ sourceMac.octets ++
    (u16Be vlanTagEthertype ++ (u16Be vlan.tci ++ (u16Be ptpEthertype ++ rest))) = bytes
  have htag : readU16Be bytes 12 = vlanTagEthertype := by
    rw [← hbytes]
    exact readU16Be_u16Be _ _ _ haddresses
  have htci : readU16Be bytes 14 = vlan.tci := by
    rw [← hbytes, ← List.append_assoc]
    exact readU16Be_u16Be _ _ _ (by rw [List.length_append, haddresses, length_u16Be])
  have htype : readU16Be bytes (14 + 2) = ptpEthertype := by
    rw [← hbytes, ← List.append_assoc, ← List.append_assoc]
    refine readU16Be_u16Be _ _ _ ?_
    rw [List.length_append, List.length_append, haddresses, length_u16Be, length_u16Be]
  have hdrop : bytes.drop (14 + 4) = rest := by
    rw [← hbytes, ← List.append_assoc, ← List.append_assoc, ← List.append_assoc]
    refine List.drop_left' ?_
    rw [List.length_append, List.length_append, List.length_append, haddresses, length_u16Be,
      length_u16Be, length_u16Be]
  have htake : bytes.take 6 = destinationMac.octets := by
    rw [← hbytes, List.append_assoc, List.take_left' destinationMac.length_octets]
  have htotal : bytes.length = 18 + rest.length := by
    rw [← hbytes, List.length_append, haddresses]
    simp only [List.length_append, length_u16Be]
    omega
  have hqinq : vlanTagEthertype ≠ ptpQinqEthertype := by decide
  have hvlanTag : vlanTagEthertype = ptpVlanEthertype := rfl
  have hfits : ¬(ptpEthertype ≠ ptpEthertype ∨ bytes.length < 14 + 4 + ptpHeaderLength) := by
    rintro (hne | hshort)
    · exact hne rfl
    · omega
  unfold tryParseEthernetFrame
  rw [if_neg (by omega), htag, readTag, if_neg hqinq]
  simp only [Option.bind_eq_bind, Option.bind_some]
  rw [readTag, if_pos hvlanTag, if_neg (by omega)]
  simp only [Option.bind_some]
  rw [htype, if_neg hfits, hdrop, hparse, htake, htci, vlanIdFromTci_tci hvlan]
  rfl

end Frame

/-- **A frame is read back** as its message, in the VLAN. -/
theorem tryParse_buildEthernetFrame (destinationMac sourceMac : MacAddress) {message padding : Bytes}
    {vlanId : Option UInt16} {vlanPriority : UInt8} (hvlan : ValidTag vlanId vlanPriority)
    {frame : PtpWireFrame} (hparse : tryParseMessage (message ++ padding) = some frame)
    (hlength : ptpHeaderLength ≤ message.length) :
    ∃ octets, buildEthernetFrame destinationMac sourceMac message vlanId vlanPriority = .ok octets ∧
      tryParseEthernetFrame (octets ++ padding) = some
        { frame with
          outerVlanId := none
          vlanId
          peerDelayMulticast := destinationMac.octets == ptpPeerDelayMulticastMac } := by
  obtain ⟨hpriority, hid⟩ := hvlan
  have hrest : ptpHeaderLength ≤ (message ++ padding).length := by
    rw [List.length_append]
    omega
  unfold buildEthernetFrame
  cases vlanId with
  | none =>
    have hvalid : ¬(!isValidVlanPriority vlanPriority ||
        (none : Option UInt16).any (!isValidVlanId ·)) = true := by
      rw [hpriority]
      decide
    rw [if_neg hvalid]
    refine ⟨_, rfl, ?_⟩
    dsimp only
    rw [List.append_assoc, List.append_assoc]
    exact tryParse_untagged hparse hrest
  | some id =>
    have hidValid := hid id rfl
    have hvlan : VlanTag.Valid { priorityCodePoint := vlanPriority, vlanId := id } :=
      ⟨hpriority, hidValid⟩
    have hvalid : ¬(!isValidVlanPriority vlanPriority || (some id).any (!isValidVlanId ·)) = true := by
      rw [hpriority, Option.any_some, hidValid]
      decide
    have htci : VlanTag.toTagControlInformation { priorityCodePoint := vlanPriority, vlanId := id } =
        .ok (VlanTag.tci { priorityCodePoint := vlanPriority, vlanId := id }) := by
      rw [VlanTag.toTagControlInformation, hpriority, hidValid]
      rfl
    rw [if_neg hvalid, EthernetFrameCodec.encode]
    dsimp only [Option.map_some]
    rw [htci]
    refine ⟨_, rfl, ?_⟩
    simp only [List.append_assoc]
    rw [← List.append_assoc]
    exact tryParse_tagged hvlan hparse hrest

/-! ## Bodies -/

/-- **The requesting port of a response is read back** by the receiver. -/
theorem parsePdelayBody_body {frame : PtpFrame} {timestamp : PtpTimestamp} {octets : Bytes}
    (htimestamp : timestamp.write = some octets) (requestingPortIdentity : PtpPortIdentity)
    (hbody : frame.body = octets ++ requestingPortIdentity.octets) :
    parsePdelayBody frame = some (timestamp, requestingPortIdentity) := by
  have hlength := length_write htimestamp
  have hidentity := requestingPortIdentity.clockIdentity.length_toList
  have hlt := requestingPortIdentity.portNumber.toNat_lt
  have htotal : frame.body.length = 20 := by
    rw [hbody, PtpPortIdentity.octets, List.length_append, List.length_append, length_u16Be]
    omega
  have htake : frame.body.take 10 = octets := by
    rw [hbody, List.take_left' hlength]
  have hclock : (Vector.ofFn fun i : Fin 8 => frame.body.getD (10 + i.val) 0) =
      requestingPortIdentity.clockIdentity := by
    rw [hbody]
    exact readClockIdentity_append _ _ hlength
  have hport : slice frame.body 18 2 = u16Be requestingPortIdentity.portNumber := by
    rw [hbody, PtpPortIdentity.octets, ← List.append_assoc, slice_append_right _ _ _
      (by rw [List.length_append]; omega), List.length_append, hlength, hidentity]
    exact slice_all _
  unfold parsePdelayBody
  rw [if_neg (by omega), htake, tryRead_write htimestamp]
  dsimp only
  rw [hclock, hport, u16Be, beValue_beOctets 2 (by omega), UInt16.ofNat_toNat]

/-- What an Announce says. -/
def writtenAnnounce (options : PtpBuildOptions) (currentUtcOffset : Int16) : PtpWireAnnounce where
  originTimestamp := options.timestamp
  currentUtcOffset
  priority1 := options.priority1
  clockClass := options.clockClass
  clockAccuracy := options.clockAccuracy
  offsetScaledLogVariance := options.offsetScaledLogVariance
  priority2 := options.priority2
  grandmasterIdentity := announcedGrandmaster options
  stepsRemoved := options.stepsRemoved
  timeSource := options.timeSource

theorem length_announceFields (options : PtpBuildOptions) (currentUtcOffset : Int16) :
    (announceFields options currentUtcOffset).length = 20 := by
  have hidentity := (announcedGrandmaster options).length_toList
  unfold announceFields
  simp only [List.length_append, List.length_cons, List.length_nil, length_u16Be, hidentity]

/-- **An Announce is read back.** -/
theorem parseAnnounce_body {options : PtpBuildOptions} {octets : Bytes}
    (htimestamp : options.timestamp.write = some octets) (currentUtcOffset : Int16) :
    parseAnnounce (octets ++ announceFields options currentUtcOffset) options.timestamp =
      writtenAnnounce options currentUtcOffset := by
  have hlength := length_write htimestamp
  have hidentity := (announcedGrandmaster options).length_toList
  have hfields : announceFields options currentUtcOffset =
      (u16Be currentUtcOffset.toUInt16 ++
        [0, options.priority1, options.clockClass, options.clockAccuracy] ++
        u16Be options.offsetScaledLogVariance ++ [options.priority2]) ++
      ((announcedGrandmaster options).toList ++
        (u16Be options.stepsRemoved ++ [options.timeSource])) := by
    unfold announceFields
    simp only [List.append_assoc]
  generalize hfront : u16Be currentUtcOffset.toUInt16 ++
    [0, options.priority1, options.clockClass, options.clockAccuracy] ++
    u16Be options.offsetScaledLogVariance ++ [options.priority2] = front at hfields
  have hfrontLength : front.length = 9 := by
    rw [← hfront]
    rfl
  -- the fields in front of the grandmaster
  have hnear {offset : Nat} (hoffset : 10 ≤ offset) :
      octetAt (octets ++ announceFields options currentUtcOffset) offset =
          octetAt (announceFields options currentUtcOffset) (offset - 10) ∧
        readU16Be (octets ++ announceFields options currentUtcOffset) offset =
          readU16Be (announceFields options currentUtcOffset) (offset - 10) := by
    rw [octetAt_append_right _ (by omega), readU16Be_append_right _ (by omega), hlength]
    exact ⟨rfl, rfl⟩
  have hutc : slice (announceFields options currentUtcOffset) 0 2 =
      u16Be currentUtcOffset.toUInt16 := by
    rw [hfields, ← hfront]
    rfl
  have hvariance : slice (announceFields options currentUtcOffset) 6 2 =
      u16Be options.offsetScaledLogVariance := by
    rw [hfields, ← hfront]
    rfl
  have hpriority1 : octetAt (announceFields options currentUtcOffset) 3 = options.priority1 := by
    rw [hfields, ← hfront]
    rfl
  have hclass : octetAt (announceFields options currentUtcOffset) 4 = options.clockClass := by
    rw [hfields, ← hfront]
    rfl
  have haccuracy : octetAt (announceFields options currentUtcOffset) 5 = options.clockAccuracy := by
    rw [hfields, ← hfront]
    rfl
  have hpriority2 : octetAt (announceFields options currentUtcOffset) 8 = options.priority2 := by
    rw [hfields, ← hfront]
    rfl
  -- the grandmaster and the fields behind it
  have hgrandmaster : readClockIdentity (octets ++ announceFields options currentUtcOffset) 19 =
      announcedGrandmaster options := by
    rw [hfields, ← List.append_assoc]
    exact readClockIdentity_append _ _ (by rw [List.length_append]; omega)
  have hbehind : octets ++ announceFields options currentUtcOffset =
      (octets ++ front ++ (announcedGrandmaster options).toList) ++
        (u16Be options.stepsRemoved ++ [options.timeSource]) := by
    rw [hfields]
    simp only [List.append_assoc]
  have hsum : (octets ++ front ++ (announcedGrandmaster options).toList).length = 27 := by
    rw [List.length_append, List.length_append]
    omega
  have hsteps : readU16Be (octets ++ announceFields options currentUtcOffset) 27 =
      options.stepsRemoved := by
    rw [hbehind]
    exact readU16Be_u16Be _ _ _ hsum
  have hsource : octetAt (octets ++ announceFields options currentUtcOffset) 29 =
      options.timeSource := by
    rw [hbehind, octetAt_append_right _ (by omega), hsum]
    rfl
  unfold parseAnnounce writtenAnnounce
  rw [(hnear (show 10 ≤ 10 by omega)).2, (hnear (show 10 ≤ 13 by omega)).1,
    (hnear (show 10 ≤ 14 by omega)).1, (hnear (show 10 ≤ 15 by omega)).1,
    (hnear (show 10 ≤ 16 by omega)).2, (hnear (show 10 ≤ 18 by omega)).1, hgrandmaster, hsteps,
    hsource, readU16Be_of_slice hutc, readU16Be_of_slice hvariance, hpriority1, hclass, haccuracy,
    hpriority2]
  rfl

end PtpCodec

/-! ## The builders -/

/-- A message kind with a builder, and what the builder is given beside the options. -/
inductive PtpBuilder where
  | sync
  | followUp
  | pdelayReq
  | pdelayResp (requestingPortIdentity : PtpPortIdentity)
  | pdelayRespFollowUp (requestingPortIdentity : PtpPortIdentity)
  | announce (currentUtcOffset : Int16)
  deriving DecidableEq

namespace PtpBuilder

open PtpCodec

def build (options : PtpBuildOptions) : PtpBuilder → Bytes
  | sync => buildSync options
  | followUp => buildFollowUp options
  | pdelayReq => buildPdelayReq options
  | pdelayResp port => buildPdelayResp options port
  | pdelayRespFollowUp port => buildPdelayRespFollowUp options port
  | announce offset => buildAnnounce options offset

def messageType : PtpBuilder → PtpMessageType
  | sync => .sync
  | followUp => .followUp
  | pdelayReq => .pdelayReq
  | pdelayResp _ => .pdelayResp
  | pdelayRespFollowUp _ => .pdelayRespFollowUp
  | announce _ => .announce

def controlField : PtpBuilder → UInt8
  | sync => 0x00
  | followUp => 0x02
  | _ => 0x05

/-- The body behind the timestamp. -/
def fields (options : PtpBuildOptions) : PtpBuilder → Bytes
  | pdelayResp port => port.octets
  | pdelayRespFollowUp port => port.octets
  | announce offset => announceFields options offset
  | _ => []

/-- The parser reads the timestamps of general messages, and of Sync. -/
def hasTimestamp : PtpBuilder → Bool
  | sync => true
  | followUp => true
  | announce _ => true
  | _ => false

def announced (options : PtpBuildOptions) : PtpBuilder → Option PtpWireAnnounce
  | announce offset => some (writtenAnnounce options offset)
  | _ => none

def requestingPortIdentity : PtpBuilder → Option PtpPortIdentity
  | pdelayResp port => some port
  | pdelayRespFollowUp port => some port
  | _ => none

theorem build_eq {options : PtpBuildOptions} {octets : Bytes}
    (h : options.timestamp.write = some octets) (builder : PtpBuilder) :
    builder.build options = buildMessage builder.messageType options builder.controlField
      (octets ++ builder.fields options) := by
  have htimestamp (messageType : PtpMessageType) (controlField : UInt8) :
      buildTimestampMessage messageType options controlField =
        buildMessage messageType options controlField (octets ++ []) := by
    rw [buildTimestampMessage, h, List.append_nil]
  have hresponse (messageType : PtpMessageType) (port : PtpPortIdentity) :
      buildPdelayResponse messageType options port =
        buildMessage messageType options 0x05 (octets ++ port.octets) := by
    rw [buildPdelayResponse, h]
  cases builder with
  | sync => exact htimestamp .sync 0x00
  | followUp => exact htimestamp .followUp 0x02
  | pdelayReq => exact htimestamp .pdelayReq 0x05
  | pdelayResp port => exact hresponse .pdelayResp port
  | pdelayRespFollowUp port => exact hresponse .pdelayRespFollowUp port
  | announce offset =>
    rw [build, buildAnnounce, h]
    rfl

theorem length_fields_le (options : PtpBuildOptions) (builder : PtpBuilder) :
    (builder.fields options).length ≤ 20 := by
  have hport (port : PtpPortIdentity) : port.octets.length = 10 := by
    have hidentity := port.clockIdentity.length_toList
    rw [PtpPortIdentity.octets, List.length_append, hidentity, length_u16Be]
  cases builder with
  | sync => exact Nat.zero_le _
  | followUp => exact Nat.zero_le _
  | pdelayReq => exact Nat.zero_le _
  | pdelayResp port =>
    rw [fields, hport]
    omega
  | pdelayRespFollowUp port =>
    rw [fields, hport]
    omega
  | announce offset => rw [fields, length_announceFields]

theorem messageType_lt (builder : PtpBuilder) : builder.messageType.toNat < 16 := by
  cases builder with
  | sync => exact (by decide : UInt8.toNat PtpMessageType.sync < 16)
  | followUp => exact (by decide : UInt8.toNat PtpMessageType.followUp < 16)
  | pdelayReq => exact (by decide : UInt8.toNat PtpMessageType.pdelayReq < 16)
  | pdelayResp port => exact (by decide : UInt8.toNat PtpMessageType.pdelayResp < 16)
  | pdelayRespFollowUp port =>
    exact (by decide : UInt8.toNat PtpMessageType.pdelayRespFollowUp < 16)
  | announce offset => exact (by decide : UInt8.toNat PtpMessageType.announce < 16)

theorem announce_of_messageType {builder : PtpBuilder} (h : builder.messageType = .announce) :
    ∃ offset, builder = announce offset := by
  cases builder with
  | announce offset => exact ⟨offset, rfl⟩
  | sync => exact absurd h (by decide : PtpMessageType.sync ≠ .announce)
  | followUp => exact absurd h (by decide : PtpMessageType.followUp ≠ .announce)
  | pdelayReq => exact absurd h (by decide : PtpMessageType.pdelayReq ≠ .announce)
  | pdelayResp port => exact absurd h (by decide : PtpMessageType.pdelayResp ≠ .announce)
  | pdelayRespFollowUp port =>
    exact absurd h (by decide : PtpMessageType.pdelayRespFollowUp ≠ .announce)

theorem length_build {options : PtpBuildOptions} {octets : Bytes}
    (h : options.timestamp.write = some octets) (builder : PtpBuilder) :
    ptpHeaderLength ≤ (builder.build options).length := by
  have hlength := length_write h
  have hfields := length_fields_le options builder
  have hheader : ptpHeaderLength = 34 := rfl
  have hbody : (octets ++ builder.fields options).length ≤ 65535 - ptpHeaderLength := by
    rw [List.length_append]
    omega
  rw [build_eq h, buildMessage_eq _ _ _ hbody, List.length_append, length_messageHeader]
  omega

/-- The frame that the parser has for a message of the builder. -/
def received (options : PtpBuildOptions) (octets : Bytes) (builder : PtpBuilder) : PtpWireFrame :=
  { writtenFrame builder.messageType options builder.controlField
      (octets ++ builder.fields options) with
    timestamp := if builder.hasTimestamp then some options.timestamp else none
    announce := builder.announced options }

theorem tryParseMessage_build {options : PtpBuildOptions} {octets : Bytes}
    (h : options.timestamp.write = some octets) (htransport : options.transportSpecific.toNat < 16)
    (builder : PtpBuilder) (padding : Bytes) :
    tryParseMessage (builder.build options ++ padding) = some (builder.received options octets) := by
  have hlength := length_write h
  have hfields := length_fields_le options builder
  have htake : (octets ++ builder.fields options).take 10 = octets := List.take_left' hlength
  have hheader : ptpHeaderLength = 34 := rfl
  have hbody : (octets ++ builder.fields options).length ≤ 65535 - ptpHeaderLength := by
    rw [List.length_append]
    omega
  rw [build_eq h, tryParseMessage_buildMessage builder.messageType_lt htransport _ hbody, htake,
    tryRead_write h]
  have hten : 10 ≤ (octets ++ builder.fields options).length := by
    rw [List.length_append]
    omega
  have hparsed : parseTimestamp builder.messageType (octets ++ builder.fields options) =
      if builder.messageType = .sync ∨ builder.messageType = .followUp then some options.timestamp
      else none := by
    unfold parseTimestamp
    by_cases hkind : builder.messageType = .sync ∨ builder.messageType = .followUp
    · rw [if_pos ⟨hkind, hten⟩, if_pos hkind, htake, tryRead_write h]
    · rw [if_neg (fun hboth => hkind hboth.1), if_neg hkind]
  by_cases hannounce : builder.messageType = .announce
  · obtain ⟨offset, rfl⟩ := announce_of_messageType hannounce
    have hthirty : 30 ≤ (octets ++ (announce offset).fields options).length := by
      rw [List.length_append, fields, length_announceFields]
      omega
    have hfound : parseAnnounce (octets ++ (announce offset).fields options) options.timestamp =
        writtenAnnounce options offset := parseAnnounce_body h offset
    rw [if_pos ⟨hannounce, hthirty⟩, Option.map_some, hfound]
    rfl
  · have hkinds : (if builder.messageType = .sync ∨ builder.messageType = .followUp then
          some options.timestamp else none) =
        if builder.hasTimestamp then some options.timestamp else none := by
      cases builder with
      | announce offset => exact absurd rfl hannounce
      | _ => rfl
    have hnone : builder.announced options = none := by
      cases builder with
      | announce offset => exact absurd rfl hannounce
      | _ => rfl
    rw [if_neg fun hboth => hannounce hboth.1]
    unfold received
    rw [hnone, ← hkinds, ← hparsed]
    rfl

end PtpBuilder

/-! ## Round trip -/

/-- What the wire has room for. -/
structure PtpTimestamp.Representable (timestamp : PtpTimestamp) : Prop where
  seconds : timestamp.seconds ≤ maxSeconds
  nanoseconds : timestamp.nanoseconds < 1000000000

theorem PtpTimestamp.Representable.write {timestamp : PtpTimestamp} (h : timestamp.Representable) :
    ∃ octets, timestamp.write = some octets := by
  have hvalid : ¬(timestamp.seconds > maxSeconds ∨ timestamp.nanoseconds ≥ 1000000000) := by
    rintro (hseconds | hnanoseconds)
    · exact absurd h.seconds (UInt64.not_le.mpr hseconds)
    · exact absurd h.nanoseconds (UInt32.not_lt.mpr hnanoseconds)
  exact ⟨_, by rw [PtpTimestamp.write, if_neg hvalid]⟩

/-- **A message in a frame is read back**, whatever padding follows: its fields, its body and, where
the parser reads it, its timestamp. The receiver has the timestamp and the requesting port of a
response. -/
theorem ptp_roundtrip (builder : PtpBuilder) (options : PtpBuildOptions)
    (destinationMac sourceMac : MacAddress) {vlanId : Option UInt16} {vlanPriority : UInt8}
    (htransport : options.transportSpecific ≤ 15) (htimestamp : options.timestamp.Representable)
    (hvlan : PtpCodec.ValidTag vlanId vlanPriority) :
    ∃ octets timestamp, options.timestamp.write = some timestamp ∧
      PtpCodec.buildEthernetFrame destinationMac sourceMac (builder.build options) vlanId
        vlanPriority = .ok octets ∧
      ∀ padding, ∃ frame, PtpCodec.tryParseEthernetFrame (octets ++ padding) = some frame ∧
        frame.header = PtpCodec.writtenHeader builder.messageType options builder.controlField
          (timestamp ++ builder.fields options).length ∧
        frame.vlanId = vlanId ∧ frame.outerVlanId = none ∧
        frame.timestamp = (if builder.hasTimestamp then some options.timestamp else none) ∧
        frame.announce = builder.announced options ∧
        frame.body = timestamp ++ builder.fields options ∧
        PtpTimestamp.tryRead (frame.body.take 10) = some options.timestamp ∧
        ∀ port, builder.requestingPortIdentity = some port →
          parsePdelayBody frame.received = some (options.timestamp, port) := by
  obtain ⟨timestamp, hwrite⟩ := htimestamp.write
  have htransport : options.transportSpecific.toNat < 16 := by
    have hle := UInt8.le_iff_toNat_le.mp htransport
    have hfifteen : (15 : UInt8).toNat = 15 := rfl
    omega
  have hlength := PtpCodec.length_write hwrite
  have hparse := PtpBuilder.tryParseMessage_build hwrite htransport builder
  have hbuilt := PtpBuilder.length_build hwrite builder
  obtain ⟨octets, hframe, -⟩ := PtpCodec.tryParse_buildEthernetFrame destinationMac sourceMac hvlan
    (hparse []) hbuilt
  refine ⟨octets, timestamp, hwrite, hframe, fun padding => ?_⟩
  obtain ⟨octets', hframe', hfound⟩ := PtpCodec.tryParse_buildEthernetFrame destinationMac sourceMac
    hvlan (hparse padding) hbuilt
  obtain rfl : octets = octets' := Except.ok.inj (hframe.symm.trans hframe')
  refine ⟨_, hfound, rfl, rfl, rfl, rfl, rfl, rfl, ?_, ?_⟩
  · have htake : (timestamp ++ builder.fields options).take 10 = timestamp := List.take_left' hlength
    show PtpTimestamp.tryRead ((timestamp ++ builder.fields options).take 10) = _
    rw [htake, PtpCodec.tryRead_write hwrite]
  · intro port hport
    refine PtpCodec.parsePdelayBody_body hwrite port ?_
    show timestamp ++ builder.fields options = _
    cases builder with
    | pdelayResp port' =>
      cases hport
      rfl
    | pdelayRespFollowUp port' =>
      cases hport
      rfl
    | sync => cases hport
    | followUp => cases hport
    | pdelayReq => cases hport
    | announce offset => cases hport

/-- A station, for the examples. -/
def stationMac : MacAddress where
  octets := [0x02, 0, 0, 0, 0, 1]
  length_octets := rfl

theorem ptp_roundtrip_pdelayResp :
    ∃ octets timestamp, ({} : PtpTimestamp).write = some timestamp ∧
      PtpCodec.buildEthernetFrame stationMac stationMac
        (PtpCodec.buildPdelayResp {} { portNumber := 7 }) (some 5) 4 = .ok octets ∧
      ∀ padding, ∃ frame, PtpCodec.tryParseEthernetFrame (octets ++ padding) = some frame ∧
        parsePdelayBody frame.received = some ({}, { portNumber := 7 }) := by
  have hvlan : PtpCodec.ValidTag (some 5) 4 := by
    refine ⟨by decide, fun id hid => ?_⟩
    obtain rfl := Option.some.inj hid
    decide
  obtain ⟨octets, timestamp, hwrite, hframe, hparse⟩ := ptp_roundtrip
    (.pdelayResp { portNumber := 7 }) {} stationMac stationMac (by decide)
    ⟨by decide, by decide⟩ hvlan
  refine ⟨octets, timestamp, hwrite, hframe, fun padding => ?_⟩
  obtain ⟨frame, hfound, -, -, -, -, -, -, -, hport⟩ := hparse padding
  exact ⟨frame, hfound, hport _ rfl⟩

/-- A Pdelay_Req has no timestamp for the parser, and an Announce without a grandmaster announces
the sender. -/
theorem pdelayReq_without_timestamp :
    ((PtpCodec.tryParseMessage (PtpCodec.buildPdelayReq {})).map (·.timestamp)) = some none ∧
      PtpCodec.announcedGrandmaster
          { sourcePortIdentity := { clockIdentity := #v[1, 2, 3, 4, 5, 6, 7, 8] } } =
        #v[1, 2, 3, 4, 5, 6, 7, 8] := by
  refine ⟨?_, rfl⟩
  have hwrite : ({} : PtpTimestamp).write = some [0, 0, 0, 0, 0, 0, 0, 0, 0, 0] := by decide
  have hparse := @PtpBuilder.tryParseMessage_build {} _ hwrite (by decide) .pdelayReq []
  rw [List.append_nil] at hparse
  rw [show PtpCodec.buildPdelayReq {} = PtpBuilder.pdelayReq.build {} from rfl, hparse]
  rfl

end ArStack.TimeSync
