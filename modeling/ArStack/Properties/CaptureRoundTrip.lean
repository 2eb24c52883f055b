import ArStack.Capture.Pcap

/-!
# Captures are read back

The writer takes any snap length and any frame, the reader asks for more. What the reader asks for
is exactly what has to hold of a capture for it to be read back.

* `readGlobalHeader_globalHeader`, `readPacket_octets` — the parts
* `visitPackets_octets`, `visitPackets_long` — captures
* `readAll_writePackets`
-/

namespace ArStack.Capture

open ArStack.Lib

/-! ## Numbers -/

@[simp] theorem length_u16Le (value : UInt16) : (u16Le value).length = 2 := by
  rw [u16Le, List.length_reverse, length_beOctets]

@[simp] theorem length_u32Le (value : UInt32) : (u32Le value).length = 4 := by
  rw [u32Le, List.length_reverse, length_beOctets]

theorem readU16_u16Le (value : UInt16) : readU16 (u16Le value) .littleEndian = value := by
  have hlt : value.toNat < 256 ^ 2 := value.toNat_lt
  unfold readU16 ByteOrder.arrange u16Le
  dsimp only
  rw [List.reverse_reverse, beValue_beOctets 2 hlt, UInt16.ofNat_toNat]

theorem readU32_u32Le (value : UInt32) : readU32 (u32Le value) .littleEndian = value := by
  have hlt : value.toNat < 256 ^ 4 := value.toNat_lt
  unfold readU32 ByteOrder.arrange u32Le
  dsimp only
  rw [List.reverse_reverse, beValue_beOctets 4 hlt, UInt32.ofNat_toNat]

theorem readExactly_append {octets rest : Bytes} {count : Nat} (h : octets.length = count) :
    readExactly (octets ++ rest) count = some (octets, rest) := by
  subst h
  rw [readExactly, if_pos (by rw [List.length_append]; omega), List.take_left, List.drop_left]

/-! ## The global header -/

/-- The snap lengths of the reader. -/
def SupportedSnapLength (snapLength : UInt32) : Prop :=
  0 < snapLength.toNat ∧ snapLength.toNat ≤ maximumSupportedSnapLength.toNat

instance (snapLength : UInt32) : Decidable (SupportedSnapLength snapLength) :=
  inferInstanceAs (Decidable (_ ∧ _))

theorem not_supportedSnapLength {snapLength : UInt32} :
    (snapLength = 0 ∨ snapLength > maximumSupportedSnapLength) ↔
      ¬SupportedSnapLength snapLength := by
  have hzero : snapLength = 0 ↔ snapLength.toNat = 0 := UInt32.toNat_inj.symm
  have hlarge : snapLength > maximumSupportedSnapLength ↔
      maximumSupportedSnapLength.toNat < snapLength.toNat := UInt32.lt_iff_toNat_lt
  unfold SupportedSnapLength
  rw [hzero, hlarge]
  omega

theorem length_globalHeader (snapLength : UInt32) :
    (PcapWriter.globalHeader snapLength).length = globalHeaderLength := by
  unfold PcapWriter.globalHeader
  simp only [List.length_append, length_u16Le, length_u32Le]
  rfl

/-- **The global header is read back**, with a snap length that the reader supports. -/
theorem readGlobalHeader_globalHeader (snapLength : UInt32) :
    PcapReader.readGlobalHeader (PcapWriter.globalHeader snapLength) =
      if SupportedSnapLength snapLength then
        .ok { byteOrder := .littleEndian, resolution := .microseconds, snapLength }
      else .error ("Unsupported PCAP snap length " ++ toString snapLength ++ ".") := by
  have hmagic : resolveByteOrder ((PcapWriter.globalHeader snapLength).take 4) =
      .ok (.littleEndian, .microseconds) := rfl
  have hmajor : slice (PcapWriter.globalHeader snapLength) 4 2 = u16Le 2 := rfl
  have hminor : slice (PcapWriter.globalHeader snapLength) 6 2 = u16Le 4 := rfl
  have hsnap : slice (PcapWriter.globalHeader snapLength) 16 4 = u32Le snapLength := rfl
  have hlink : slice (PcapWriter.globalHeader snapLength) 20 4 = u32Le linkTypeEthernet := rfl
  have hversion : ¬((2 : UInt16) ≠ 2 ∨ (4 : UInt16) ≠ 4) := by decide
  unfold PcapReader.readGlobalHeader
  rw [hmagic]
  dsimp only [Except.bind, bind]
  rw [hmajor, hminor, hsnap, hlink, readU16_u16Le, readU16_u16Le, readU32_u32Le, readU32_u32Le,
    if_neg hversion, if_neg (not_not.mpr rfl)]
  by_cases hsupported : SupportedSnapLength snapLength
  · rw [if_pos hsupported, if_neg fun hbad => not_supportedSnapLength.mp hbad hsupported]
  · rw [if_neg hsupported, if_pos (not_supportedSnapLength.mpr hsupported)]

/-! ## Packets -/

/-- The packet with its timestamp cut to microseconds. -/
def PcapPacket.truncated (packet : PcapPacket) : PcapPacket where
  timestamp := packet.timestamp / 1000 * 1000
  frame := packet.frame

/-- What the writer asks of a packet. -/
structure PcapPacket.Writable (packet : PcapPacket) : Prop where
  frame : packet.frame.length ≤ uint32Max
  nonneg : 0 ≤ packet.timestamp / nanosecondsPerSecond
  seconds : packet.timestamp / nanosecondsPerSecond ≤ uint32Max

/-- What the writer makes of a packet. -/
def PcapPacket.octets (packet : PcapPacket) : Bytes :=
  PcapWriter.packetOctets (packet.timestamp / nanosecondsPerSecond)
    ((packet.timestamp - packet.timestamp / nanosecondsPerSecond * nanosecondsPerSecond) / 1000)
    packet.frame

theorem writePacket_ok {writer writer' : PcapWriter} {packet : PcapPacket}
    (h : writer.writePacket packet.timestamp packet.frame = .ok writer') :
    packet.Writable ∧ writer' = { stream := writer.stream ++ packet.octets } := by
  unfold PcapWriter.writePacket at h
  dsimp only at h
  split at h
  · cases h
  rename_i hframe
  split at h
  · cases h
  rename_i hseconds
  cases h
  obtain ⟨hnonneg, hle⟩ := not_or.mp hseconds
  exact ⟨⟨Nat.le_of_not_lt hframe, Int.not_lt.mp hnonneg, Int.not_lt.mp hle⟩, rfl⟩

/-- Seconds and microseconds recombine. -/
theorem toTimestamp_parts {packet : PcapPacket} (h : packet.Writable) :
    toTimestamp (.ofNat (packet.timestamp / nanosecondsPerSecond).toNat)
        (.ofNat ((packet.timestamp -
          packet.timestamp / nanosecondsPerSecond * nanosecondsPerSecond) / 1000).toNat)
        .microseconds = packet.truncated.timestamp := by
  obtain ⟨-, hnonneg, hseconds⟩ := h
  have hbillion : nanosecondsPerSecond = 1000000000 := rfl
  have hmax : (uint32Max : Int) = 4294967295 := rfl
  unfold toTimestamp PcapPacket.truncated
  dsimp only
  rw [hbillion] at hnonneg hseconds ⊢
  rw [UInt32.toNat_ofNat', UInt32.toNat_ofNat']
  omega

/-- The header that the writer puts in front of the frame. -/
def PcapPacket.header (packet : PcapPacket) : Bytes :=
  u32Le (.ofNat (packet.timestamp / nanosecondsPerSecond).toNat) ++
    u32Le (.ofNat ((packet.timestamp -
      packet.timestamp / nanosecondsPerSecond * nanosecondsPerSecond) / 1000).toNat) ++
    u32Le (.ofNat packet.frame.length) ++ u32Le (.ofNat packet.frame.length)

theorem PcapPacket.octets_eq (packet : PcapPacket) :
    packet.octets = packet.header ++ packet.frame := rfl

theorem PcapPacket.length_header (packet : PcapPacket) :
    packet.header.length = packetHeaderLength := by
  unfold PcapPacket.header
  simp only [List.length_append, length_u32Le]
  rfl

/-- The fields of that header. -/
def PcapPacket.headerFields (packet : PcapPacket) : PcapReader.PacketHeader where
  seconds := .ofNat (packet.timestamp / nanosecondsPerSecond).toNat
  fractional := .ofNat ((packet.timestamp -
    packet.timestamp / nanosecondsPerSecond * nanosecondsPerSecond) / 1000).toNat
  includedLength := .ofNat packet.frame.length
  originalLength := .ofNat packet.frame.length

/-- The header of a packet is read back. -/
theorem readPacketHeader_header (packet : PcapPacket) :
    PcapReader.readPacketHeader packet.header .littleEndian = packet.headerFields := by
  have hseconds : slice packet.header 0 4 = u32Le packet.headerFields.seconds := rfl
  have hfractional : slice packet.header 4 4 = u32Le packet.headerFields.fractional := rfl
  have hincluded : slice packet.header 8 4 = u32Le packet.headerFields.includedLength := rfl
  have horiginal : slice packet.header 12 4 = u32Le packet.headerFields.originalLength := rfl
  unfold PcapReader.readPacketHeader
  rw [hseconds, hfractional, hincluded, horiginal, readU32_u32Le, readU32_u32Le, readU32_u32Le,
    readU32_u32Le]

section Packet

variable {snapLength : UInt32} {packet : PcapPacket}

/-- The format of the writer. -/
def writtenFormat (snapLength : UInt32) : PcapReader.Format where
  byteOrder := .littleEndian
  resolution := .microseconds
  snapLength

theorem toNat_includedLength (h : packet.Writable) :
    packet.headerFields.includedLength.toNat = packet.frame.length := by
  have hmax : uint32Max = 4294967295 := rfl
  have hframe := h.frame
  unfold PcapPacket.headerFields
  rw [UInt32.toNat_ofNat']
  omega

/-- Of the lengths of a packet the reader refuses those above the snap length. -/
theorem invalidLengths_iff (hsnap : SupportedSnapLength snapLength) (h : packet.Writable) :
    packet.headerFields.invalidLengths snapLength = true ↔
      snapLength.toNat < packet.frame.length := by
  have hgt (limit : UInt32) : packet.headerFields.includedLength > limit ↔
      limit.toNat < packet.frame.length := by
    rw [gt_iff_lt, UInt32.lt_iff_toNat_lt, toNat_includedLength h]
  have hirrefl : ¬packet.headerFields.originalLength < packet.headerFields.includedLength :=
    UInt32.lt_irrefl _
  have hle := hsnap.2
  unfold PcapReader.PacketHeader.invalidLengths
  rw [Bool.or_eq_true, Bool.or_eq_true, decide_eq_true_iff, decide_eq_true_iff,
    decide_eq_true_iff, hgt, hgt]
  constructor
  · rintro ((hlong | hlong) | hless)
    · exact hlong
    · exact Nat.lt_of_le_of_lt hle hlong
    · exact absurd hless hirrefl
  · exact fun hlong => .inl (.inl hlong)

/-- **A packet is read back** if the snap length holds its frame. -/
theorem readPacket_octets (hsnap : SupportedSnapLength snapLength) (h : packet.Writable)
    (hle : packet.frame.length ≤ snapLength.toNat) (rest : Bytes) :
    PcapReader.readPacket (writtenFormat snapLength) (packet.octets ++ rest) =
      .ok (some (packet.truncated, rest)) := by
  have hvalid : ¬packet.headerFields.invalidLengths (writtenFormat snapLength).snapLength = true :=
    (invalidLengths_iff hsnap h).not.mpr (Nat.not_lt.mpr hle)
  have hheader : PcapReader.readPacketHeader packet.header (writtenFormat snapLength).byteOrder =
      packet.headerFields := readPacketHeader_header packet
  have htimestamp : toTimestamp packet.headerFields.seconds packet.headerFields.fractional
      (writtenFormat snapLength).resolution = packet.truncated.timestamp := toTimestamp_parts h
  unfold PcapReader.readPacket
  rw [PcapPacket.octets_eq, List.append_assoc, readExactly_append packet.length_header]
  dsimp only
  rw [hheader, if_neg hvalid, readExactly_append (toNat_includedLength h).symm]
  dsimp only
  rw [htimestamp]
  rfl

/-- A frame that is longer than the snap length is refused. -/
theorem readPacket_long (hsnap : SupportedSnapLength snapLength) (h : packet.Writable)
    (hlong : snapLength.toNat < packet.frame.length) (rest : Bytes) :
    ∃ error, PcapReader.readPacket (writtenFormat snapLength) (packet.octets ++ rest) =
      .error error := by
  have hinvalid : packet.headerFields.invalidLengths (writtenFormat snapLength).snapLength = true :=
    (invalidLengths_iff hsnap h).mpr hlong
  have hheader : PcapReader.readPacketHeader packet.header (writtenFormat snapLength).byteOrder =
      packet.headerFields := readPacketHeader_header packet
  unfold PcapReader.readPacket
  rw [PcapPacket.octets_eq, List.append_assoc, readExactly_append packet.length_header]
  dsimp only
  rw [hheader, if_pos hinvalid]
  exact ⟨_, rfl⟩

end Packet

/-! ## Captures -/

theorem writePackets_ok {writer writer' : PcapWriter} {packets : List PcapPacket}
    (h : writer.writePackets packets = .ok writer') :
    (∀ packet ∈ packets, packet.Writable) ∧
      writer'.stream = writer.stream ++ packets.flatMap PcapPacket.octets := by
  induction packets generalizing writer with
  | nil =>
    cases h
    exact ⟨fun _ hmem => absurd hmem List.not_mem_nil, (List.append_nil _).symm⟩
  | cons packet packets ih =>
    unfold PcapWriter.writePackets at h
    rw [List.foldlM_cons] at h
    cases hpacket : writer.writePacket packet.timestamp packet.frame with
    | error error =>
      rw [hpacket] at h
      cases h
    | ok next =>
      rw [hpacket] at h
      obtain ⟨hwritable, rfl⟩ := writePacket_ok hpacket
      obtain ⟨hothers, hstream⟩ := ih h
      refine ⟨List.forall_mem_cons.mpr ⟨hwritable, hothers⟩, ?_⟩
      rw [hstream, List.flatMap_cons, List.append_assoc]

section Visit

variable {σ : Type} {snapLength : UInt32}

theorem visitPackets_of_error {format : PcapReader.Format} {visitor : σ → PcapPacket → σ}
    {stream : Bytes} {error : String} (h : PcapReader.readPacket format stream = .error error)
    (state : σ) : PcapReader.visitPackets format visitor stream state = (.error error, state) := by
  rw [PcapReader.visitPackets]
  split
  · rename_i hread
    rw [h] at hread
    cases hread
    rfl
  · rename_i hread
    rw [h] at hread
    cases hread
  · rename_i hread
    rw [h] at hread
    cases hread

theorem visitPackets_of_some {format : PcapReader.Format} {visitor : σ → PcapPacket → σ}
    {stream rest : Bytes} {packet : PcapPacket}
    (h : PcapReader.readPacket format stream = .ok (some (packet, rest))) (state : σ) :
    PcapReader.visitPackets format visitor stream state =
      PcapReader.visitPackets format visitor rest (visitor state packet) := by
  rw [PcapReader.visitPackets]
  split
  · rename_i hread
    rw [h] at hread
    cases hread
  · rename_i hread
    rw [h] at hread
    cases hread
  · rename_i hread
    rw [h] at hread
    cases hread
    rfl

/-- **What the loop does with a capture** whose frames are not longer than the snap length. -/
theorem visitPackets_octets (hsnap : SupportedSnapLength snapLength) (visitor : σ → PcapPacket → σ)
    {packets : List PcapPacket} (hwritable : ∀ packet ∈ packets, packet.Writable)
    (hle : ∀ packet ∈ packets, packet.frame.length ≤ snapLength.toNat) (state : σ) :
    PcapReader.visitPackets (writtenFormat snapLength) visitor
        (packets.flatMap PcapPacket.octets) state =
      (.ok (), (packets.map PcapPacket.truncated).foldl visitor state) := by
  induction packets generalizing state with
  | nil =>
    rw [PcapReader.visitPackets]
    rfl
  | cons packet packets ih =>
    obtain ⟨hpacket, hwritable⟩ := List.forall_mem_cons.mp hwritable
    obtain ⟨hframe, hle⟩ := List.forall_mem_cons.mp hle
    have hread := readPacket_octets hsnap hpacket hframe (packets.flatMap PcapPacket.octets)
    rw [List.flatMap_cons, visitPackets_of_some hread, ih hwritable hle]
    rfl

/-- A frame that is longer than the snap length stops the loop. -/
theorem visitPackets_long (hsnap : SupportedSnapLength snapLength) (visitor : σ → PcapPacket → σ)
    {packets : List PcapPacket} (hwritable : ∀ packet ∈ packets, packet.Writable)
    (hlong : ∃ packet ∈ packets, snapLength.toNat < packet.frame.length) (state : σ) :
    ∃ error, (PcapReader.visitPackets (writtenFormat snapLength) visitor
      (packets.flatMap PcapPacket.octets) state).1 = .error error := by
  induction packets generalizing state with
  | nil =>
    obtain ⟨packet, hmem, -⟩ := hlong
    exact absurd hmem List.not_mem_nil
  | cons packet packets ih =>
    obtain ⟨hpacket, hwritable⟩ := List.forall_mem_cons.mp hwritable
    rw [List.flatMap_cons]
    by_cases hframe : packet.frame.length ≤ snapLength.toNat
    · have hread := readPacket_octets hsnap hpacket hframe (packets.flatMap PcapPacket.octets)
      rw [visitPackets_of_some hread]
      refine ih hwritable ?_ _
      obtain ⟨other, hmem, hother⟩ := hlong
      rcases List.mem_cons.mp hmem with rfl | hmem
      · exact absurd hframe (Nat.not_le.mpr hother)
      · exact ⟨other, hmem, hother⟩
    · obtain ⟨error, hread⟩ := readPacket_long hsnap hpacket (Nat.lt_of_not_le hframe)
        (packets.flatMap PcapPacket.octets)
      exact ⟨error, by rw [visitPackets_of_error hread]⟩

end Visit

theorem foldl_concat (packets read : List PcapPacket) :
    packets.foldl (fun packets packet => packets ++ [packet]) read = read ++ packets := by
  induction packets generalizing read with
  | nil => exact (List.append_nil _).symm
  | cons packet packets ih => rw [List.foldl_cons, ih, List.append_assoc, List.singleton_append]

/-- What the reader makes of a written capture, behind its header. -/
theorem readAll_globalHeader (snapLength : UInt32) (rest : Bytes) :
    PcapReader.readAll (PcapWriter.globalHeader snapLength ++ rest) =
      if SupportedSnapLength snapLength then
        let visited := PcapReader.visitPackets (writtenFormat snapLength)
          (fun packets packet => packets ++ [packet]) rest []
        visited.1.map fun _ => visited.2
      else .error ("Unsupported PCAP snap length " ++ toString snapLength ++ ".") := by
  unfold PcapReader.readAll PcapReader.forEachPacket
  rw [readExactly_append (length_globalHeader snapLength)]
  dsimp only
  rw [readGlobalHeader_globalHeader]
  by_cases hsupported : SupportedSnapLength snapLength
  · rw [if_pos hsupported, if_pos hsupported]
    rfl
  · rw [if_neg hsupported, if_neg hsupported]
    rfl

/-- **A written capture is read back** exactly if the reader supports its snap length, and that is
not below the length of a frame. -/
theorem readAll_writePackets {snapLength : UInt32} {packets : List PcapPacket} {writer : PcapWriter}
    (h : (PcapWriter.new snapLength).writePackets packets = .ok writer) :
    PcapWriter.writeAll packets snapLength = .ok writer.stream ∧
      (PcapReader.readAll writer.stream = .ok (packets.map PcapPacket.truncated) ↔
        SupportedSnapLength snapLength ∧
          ∀ packet ∈ packets, packet.frame.length ≤ snapLength.toNat) := by
  obtain ⟨hwritable, hstream⟩ := writePackets_ok h
  have hnew : (PcapWriter.new snapLength).stream = PcapWriter.globalHeader snapLength := rfl
  refine ⟨by rw [PcapWriter.writeAll, h]; rfl, ?_⟩
  rw [hstream, hnew, readAll_globalHeader]
  by_cases hsupported : SupportedSnapLength snapLength
  · rw [if_pos hsupported]
    by_cases hle : ∀ packet ∈ packets, packet.frame.length ≤ snapLength.toNat
    · have hvisit := visitPackets_octets hsupported
        (fun packets packet => packets ++ [packet]) hwritable hle []
      rw [hvisit, foldl_concat]
      exact iff_of_true rfl ⟨hsupported, hle⟩
    · have hlong : ∃ packet ∈ packets, snapLength.toNat < packet.frame.length := by
        by_contra hnone
        refine hle fun packet hmem => Nat.le_of_not_lt fun hlt => hnone ⟨packet, hmem, hlt⟩
      obtain ⟨error, hvisit⟩ := visitPackets_long hsupported
        (fun packets packet => packets ++ [packet]) hwritable hlong []
      dsimp only
      rw [hvisit]
      refine iff_of_false ?_ fun hboth => hle hboth.2
      intro hok
      cases hok
  · rw [if_neg hsupported]
    refine iff_of_false ?_ fun hboth => hsupported hboth.1
    intro hok
    cases hok

theorem readAll_writePackets_onePacket :
    PcapReader.readAll (PcapWriter.globalHeader 16 ++
        PcapPacket.octets { timestamp := 1500000123, frame := [7, 8] }) =
      .ok [{ timestamp := 1500000000, frame := [7, 8] }] := by
  have hwritten : (PcapWriter.new 16).writePackets [{ timestamp := 1500000123, frame := [7, 8] }] =
      .ok { stream := PcapWriter.globalHeader 16 ++
        PcapPacket.octets { timestamp := 1500000123, frame := [7, 8] } } := rfl
  exact (readAll_writePackets hwritten).2.mpr (by decide)

/-- Without a snap length the writer succeeds, and nothing is read back. -/
theorem unreadable_capture :
    PcapWriter.writeAll [] 0 = .ok (PcapWriter.globalHeader 0) ∧
      PcapReader.readAll (PcapWriter.globalHeader 0) = .error "Unsupported PCAP snap length 0." :=
  ⟨rfl, readAll_globalHeader 0 []⟩

end ArStack.Capture
