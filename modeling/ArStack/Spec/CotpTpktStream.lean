import ArStack.Osi.CotpTpktStream

/-!
# What the segmenters write and the stream decoder reads

Both segmenters cut a message into the same pieces. The stream decoder sees the stream only
through a peek at its unread octets, and a frame of the segmenter is a frame of that peek.

* `encodeInto_eq` — the frames of `encode_into`
* `encodeDataSegments_eq` — the TPDUs of `encode_data_segments`
* `tryPop_of_ready`, `tryPop_of_needMore` — `try_pop` by the peek
* `isFrame_tpktFrame` — a frame of the segmenter
-/

namespace ArStack.Osi

open ArStack.Wire ArStack.Lib

/-! ## Segments -/

/-- The segments of a message, the last one marked. -/
def segments (maximumUserData : Nat) (userData : Bytes) : List (Bool × Bytes) :=
  withLast (pieces maximumUserData userData)

/-- The Data TPDU of a segment, with the number 0. -/
def segmentTpdu (segment : Bool × Bytes) : Bytes := CotpFrameCodec.dataTpdu segment.2 segment.1 0

/-- A TPDU in its TPKT frame. -/
def tpktFrame (tpdu : Bytes) : Bytes :=
  TpktSpanCodec.header (TpktSpanCodec.headerLength + tpdu.length) ++ tpdu

@[simp] theorem length_dataTpdu (userData : Bytes) (final : Bool) (number : UInt8) :
    (CotpFrameCodec.dataTpdu userData final number).length = 3 + userData.length := by
  rw [CotpFrameCodec.dataTpdu, List.length_append]
  rfl

@[simp] theorem length_tpktFrame (tpdu : Bytes) : (tpktFrame tpdu).length = 4 + tpdu.length := by
  rw [tpktFrame, List.length_append]
  rfl

theorem segments_of_le {size : Nat} {userData : Bytes} (h : userData.length ≤ size) :
    segments size userData = [(true, userData)] := by
  rw [segments, pieces_of_le h]
  rfl

theorem segments_of_lt {size : Nat} {userData : Bytes} (hsize : size ≠ 0)
    (h : size < userData.length) :
    segments size userData = (false, userData.take size) :: segments size (userData.drop size) := by
  rw [segments, pieces_of_lt hsize h, withLast_cons _ (pieces_ne_nil _ _)]
  rfl

theorem segments_ne_nil (size : Nat) (userData : Bytes) : segments size userData ≠ [] := by
  intro h
  have hlength := congrArg List.length h
  rw [segments, length_withLast, List.length_nil, List.length_eq_zero_iff] at hlength
  exact pieces_ne_nil _ _ hlength

theorem flatten_segments {size : Nat} (hsize : size ≠ 0) (userData : Bytes) :
    ((segments size userData).map Prod.snd).flatten = userData := by
  rw [segments, map_snd_withLast, flatten_pieces hsize]

/-- A segment that is not the last one is full. -/
theorem length_of_mem_segments {size : Nat} (hsize : size ≠ 0) (userData : Bytes) :
    ∀ segment ∈ segments size userData, segment.2.length ≤ min size userData.length ∧
      (segment.1 = false → segment.2.length = size) := by
  induction userData using pieces_induction hsize with
  | last userData h =>
    intro segment hsegment
    rw [segments_of_le h, List.mem_singleton] at hsegment
    subst hsegment
    exact ⟨by simp [h], nofun⟩
  | more userData h ih =>
    intro segment hsegment
    rw [segments_of_lt hsize h] at hsegment
    rcases List.mem_cons.mp hsegment with rfl | hsegment
    · have hlength : (userData.take size).length = size := by
        rw [List.length_take]
        omega
      exact ⟨by rw [hlength]; omega, fun _ => hlength⟩
    · obtain ⟨hle, hfull⟩ := ih segment hsegment
      rw [List.length_drop] at hle
      exact ⟨by omega, hfull⟩

/-- The number of segments, as the plan computes it. -/
theorem length_segments {size : Nat} (hsize : size ≠ 0) (userData : Bytes) :
    (segments size userData).length =
      if userData.length = 0 then 1 else 1 + (userData.length - 1) / size := by
  rw [segments, length_withLast, length_pieces hsize]

/-! ## The segmenter of spans -/

namespace CotpTpktDataStreamSpanCodec

theorem encodeSegment_eq {chunk : Bytes} (h : 7 + chunk.length ≤ 65535) (final : Bool) :
    encodeSegment chunk final = some (tpktFrame (segmentTpdu (final, chunk))) := by
  have hsize : ¬((0 : UInt8) > 0x7F ∨ chunk.length > sizeMax - 3) := by
    rintro (hzero | hbig)
    · exact absurd hzero (by decide)
    · rw [sizeMax] at hbig
      omega
  have hcotp : CotpSpanCodec.encodeDataInto chunk
      (TpktSpanCodec.headerLength + 3 + chunk.length - TpktSpanCodec.headerLength) final 0 =
      { bytes := segmentTpdu (final, chunk), requiredBytes := chunk.length + 3 } := by
    rw [CotpSpanCodec.encodeDataInto, if_neg hsize, if_neg]
    · rfl
    · simp [TpktSpanCodec.headerLength]
      omega
  rw [encodeSegment, if_neg (by simp [TpktSpanCodec.headerLength, TpktSpanCodec.maximumFrameBytes]; omega)]
  simp only [hcotp]
  rw [if_neg]
  · rw [tpktFrame, segmentTpdu, length_dataTpdu]
    simp only [TpktSpanCodec.headerLength]
    rw [Nat.add_assoc]
  · simp [EncodeResult.success, EncodeResult.bytesWritten, segmentTpdu]
    omega

/-- The loop from any offset on. -/
theorem encodeSegments_eq {userData : Bytes} {size : Nat} (hsize : size ≠ 0)
    (hframe : 7 + size ≤ 65535) (message : Bytes) (offset : Nat)
    (hmessage : userData.drop offset = message) (hoffset : offset ≤ userData.length) :
    encodeSegments userData size (segments size message).length offset =
      some (((segments size message).map fun s => tpktFrame (segmentTpdu s)).flatten,
        userData.length) := by
  induction message using pieces_induction hsize generalizing offset with
  | last message h =>
    have hlength : userData.length - offset = message.length := by
      rw [← hmessage, List.length_drop]
    have hslice : slice userData offset (min (userData.length - offset) size) = message := by
      rw [slice, hmessage, hlength, Nat.min_eq_left h, List.take_length]
    rw [segments_of_le h, List.length_singleton, encodeSegments, hslice]
    simp only [encodeSegments, beq_self_eq_true]
    rw [encodeSegment_eq (by omega)]
    simp only [Option.bind_eq_bind, Option.bind_some, List.map_singleton, List.flatten_singleton,
      List.append_nil, Nat.min_eq_left (hlength ▸ h), Option.some.injEq, Prod.mk.injEq, true_and]
    omega
  | more message h ih =>
    have hlength : userData.length - offset = message.length := by
      rw [← hmessage, List.length_drop]
    have hchunk : min (userData.length - offset) size = size := by omega
    have hslice : slice userData offset size = message.take size := by rw [slice, hmessage]
    have hrest := ih (offset + size) (by rw [← hmessage, List.drop_drop]) (by omega)
    have hlast : ((segments size (message.drop size)).length == 0) = false := by
      rw [beq_eq_false_iff_ne]
      exact fun hzero => segments_ne_nil _ _ (List.length_eq_zero_iff.mp hzero)
    rw [segments_of_lt hsize h, List.length_cons, encodeSegments, hchunk, hslice, hlast, hrest,
      encodeSegment_eq (by rw [List.length_take]; omega)]
    rfl

/-- A plan that is made. -/
theorem tryPlan_eq_some {userData : Bytes} {negotiated : Nat} {plan : CotpTpktDataStreamPlan}
    (h : tryPlan userData.length negotiated = some plan) :
    3 < negotiated ∧ negotiated ≤ 65531 ∧ plan.maximumUserData = negotiated - 3 ∧
      plan.segmentCount = (segments (negotiated - 3) userData).length ∧
      plan.requiredBytes = userData.length + plan.segmentCount * 7 ∧
      userData.length ≤ sizeMax - 7 := by
  rw [tryPlan, Option.ite_none_left_eq_some, not_or, Nat.not_le, Nat.not_lt] at h
  obtain ⟨⟨hlow, hhigh⟩, h⟩ := h
  rw [Option.ite_none_left_eq_some] at h
  obtain ⟨hcount, h⟩ := h
  obtain rfl := Option.some.inj h
  refine ⟨hlow, hhigh, rfl, ?_, rfl, ?_⟩
  · rw [length_segments (by omega)]
  · have hone : 1 ≤ (sizeMax - userData.length) / 7 := by
      refine Nat.le_trans (m := if userData.length = 0 then 1 else _) ?_ (Nat.le_of_not_lt hcount)
      split
      · exact Nat.le_refl _
      · exact Nat.le_add_right _ _
    omega

/-- **The frames of `encode_into`.** -/
theorem encodeInto_eq {userData : Bytes} {negotiated destinationSize : Nat}
    (h : (encodeInto userData negotiated destinationSize).success = true) :
    3 < negotiated ∧ negotiated ≤ 65531 ∧ userData.length ≤ sizeMax - 7 ∧
      (encodeInto userData negotiated destinationSize).bytes =
        ((segments (negotiated - 3) userData).map fun s => tpktFrame (segmentTpdu s)).flatten := by
  rw [encodeInto] at h ⊢
  cases hplan : tryPlan userData.length negotiated with
  | none => simp [hplan, EncodeResult.success] at h
  | some plan =>
    simp only [hplan] at h ⊢
    obtain ⟨hlow, hhigh, hmaximum, hcount, -, hsize⟩ := tryPlan_eq_some hplan
    refine ⟨hlow, hhigh, hsize, ?_⟩
    rw [hmaximum, hcount, encodeSegments_eq (by omega) (by omega) userData 0 (List.drop_zero ..)
      (Nat.zero_le _)] at h ⊢
    split at h
    · cases h
    rename_i hroom
    simp only at h
    split at h
    · cases h
    rename_i hexact
    rw [if_neg hroom]
    simp only
    rw [if_neg hexact]

end CotpTpktDataStreamSpanCodec

/-! ## The other segmenter -/

namespace CotpFrameCodec

/-- The numbers of the Data TPDUs, counted modulo 128. -/
def numbered (number : UInt8) : List (Bool × Bytes) → List Bytes
  | [] => []
  | segment :: segments =>
    dataTpdu segment.2 segment.1 number :: numbered ((number + 1) &&& 0x7F) segments

theorem encodeData_eq {userData : Bytes} {number : UInt8} (hnumber : number ≤ 0x7F)
    (hsize : userData.length ≤ sizeMax - 7) (final : Bool) :
    encodeData userData final number = .ok (dataTpdu userData final number) := by
  rw [encodeData, if_neg (UInt8.not_lt.mpr hnumber), if_neg (by omega)]

theorem and_le_number (number : UInt8) : number &&& 0x7F ≤ 0x7F := by
  rw [UInt8.le_iff_toNat_le, UInt8.toNat_and]
  exact Nat.and_le_right

/-- The loop, on a message that is not empty. -/
theorem encodeDataSegmentsFrom_eq {size : Nat} (hsize : size ≠ 0) (userData : Bytes) :
    ∀ {number : UInt8}, number ≤ 0x7F → userData ≠ [] → userData.length ≤ sizeMax - 7 →
      encodeDataSegmentsFrom size number userData = .ok (numbered number (segments size userData)) := by
  induction userData using pieces_induction hsize with
  | last userData h =>
    intro number hnumber hne hmax
    have hmin : min size userData.length = userData.length := Nat.min_eq_right h
    rw [encodeDataSegmentsFrom, dif_neg (not_or.mpr ⟨hne, hsize⟩), hmin, segments_of_le h]
    dsimp only
    rw [List.take_length, List.drop_length, encodeDataSegmentsFrom, dif_pos (Or.inl rfl),
      decide_eq_true rfl, encodeData_eq hnumber hmax]
    rfl
  | more userData h ih =>
    intro number hnumber hne hmax
    have hmin : min size userData.length = size := Nat.min_eq_left (Nat.le_of_lt h)
    have hrest : (userData.drop size).length = userData.length - size := List.length_drop
    have hnext := ih (and_le_number (number + 1))
      (fun hnil => by rw [hnil, List.length_nil] at hrest; omega) (by omega)
    have htake : (userData.take size).length ≤ sizeMax - 7 := by
      rw [List.length_take]
      omega
    rw [encodeDataSegmentsFrom, dif_neg (not_or.mpr ⟨hne, hsize⟩), hmin, segments_of_lt hsize h]
    dsimp only
    rw [decide_eq_false (Nat.ne_of_lt h), encodeData_eq hnumber htake, hnext]
    rfl

/-- **The TPDUs of `encode_data_segments`.** -/
theorem encodeDataSegments_eq {userData : Bytes} {code : UInt8} {negotiated : Nat}
    (hcode : tpduSizeBytes code = .ok negotiated) (hlow : 3 < negotiated)
    (hmax : userData.length ≤ sizeMax - 7) :
    encodeDataSegments userData code = .ok (numbered 0 (segments (negotiated - 3) userData)) := by
  rw [encodeDataSegments, hcode]
  simp only [bind, Except.bind]
  rw [if_neg (by omega)]
  by_cases hne : userData = []
  · subst hne
    rw [if_pos rfl, segments_of_le (Nat.zero_le _), encodeData_eq (by decide) (Nat.zero_le _)]
    rfl
  · rw [if_neg hne]
    exact encodeDataSegmentsFrom_eq (by omega) userData (by decide) hne hmax

@[simp] theorem length_numbered (number : UInt8) (l : List (Bool × Bytes)) :
    (numbered number l).length = l.length := by
  induction l generalizing number with
  | nil => rfl
  | cons segment l ih => rw [numbered, List.length_cons, List.length_cons, ih]

theorem next_number (n : Nat) :
    (UInt8.ofNat (n % 128) + 1) &&& 0x7F = UInt8.ofNat ((n + 1) % 128) := by
  rw [← UInt8.toNat_inj, UInt8.toNat_and, UInt8.toNat_add, UInt8.toNat_ofNat', UInt8.toNat_ofNat']
  have hmask : ((n % 128 % 2 ^ 8 + UInt8.toNat 1) % 2 ^ 8) &&& UInt8.toNat 0x7F =
      ((n % 128 % 2 ^ 8 + 1) % 2 ^ 8) % 2 ^ 7 := Nat.and_two_pow_sub_one_eq_mod _ 7
  rw [hmask]
  omega

/-- The number of a TPDU is its place. -/
theorem getElem?_numbered (l : List (Bool × Bytes)) (start i : Nat) :
    (numbered (UInt8.ofNat (start % 128)) l)[i]? =
      l[i]?.map fun segment => dataTpdu segment.2 segment.1 (UInt8.ofNat ((start + i) % 128)) := by
  induction l generalizing start i with
  | nil => rfl
  | cons segment l ih =>
    cases i with
    | zero => rfl
    | succ i =>
      rw [numbered, next_number, List.getElem?_cons_succ, List.getElem?_cons_succ, ih (start + 1) i]
      congr! 4
      omega

end CotpFrameCodec

/-! ## The stream decoder -/

namespace TpktStreamDecoder

theorem headerLength_eq : TpktFrameCodec.headerLength = 4 := rfl

theorem supportedVersion_eq : TpktFrameCodec.supportedVersion = 3 := rfl

/-- The next frame, as `try_pop` looks for it in the unread octets. -/
def peek (limit : Nat) (bytes : Bytes) : Peek :=
  if bytes.length < 4 then .needMore
  else if octetAt bytes 0 ≠ 3 ∨ octetAt bytes 1 ≠ 0 then .invalid
  else if readAt bytes 2 2 < 4 ∨ readAt bytes 2 2 > limit then .invalid
  else if bytes.length < readAt bytes 2 2 then .needMore
  else .ready (readAt bytes 2 2)

/-- The offset is inside the buffer. -/
def Valid (decoder : TpktStreamDecoder) : Prop := decoder.offset ≤ decoder.buffer.length

theorem length_unread (decoder : TpktStreamDecoder) :
    decoder.unread.length = decoder.bufferedBytes := List.length_drop

theorem unread_compact (decoder : TpktStreamDecoder) : decoder.compact.unread = decoder.unread := by
  rw [compact]
  split
  · rfl
  split
  · rename_i _ hall
    simp [unread, hall]
  split
  · simp [unread]
  · rfl

theorem Valid.compact {decoder : TpktStreamDecoder} (h : decoder.Valid) :
    decoder.compact.Valid := by
  rw [TpktStreamDecoder.compact]
  split
  · exact h
  split
  · exact Nat.le_refl _
  split
  · exact Nat.zero_le _
  · exact h

@[simp] theorem maximumBufferedBytes_compact (decoder : TpktStreamDecoder) :
    decoder.compact.maximumBufferedBytes = decoder.maximumBufferedBytes := by
  rw [compact]
  split
  · rfl
  split
  · rfl
  split <;> rfl

/-- The octets fit into the buffer. -/
def hasRoom (decoder : TpktStreamDecoder) (bytes : Bytes) : Bool :=
  bytes.isEmpty ||
    decide (bytes.length ≤ decoder.maximumBufferedBytes - decoder.compact.buffer.length)

/-- **What is received is behind what is unread.** -/
theorem append_eq {decoder : TpktStreamDecoder} (hvalid : decoder.Valid) {bytes : Bytes}
    (hroom : decoder.hasRoom bytes = true) :
    ∃ decoder', decoder.append bytes = .ok decoder' ∧ decoder'.Valid ∧
      decoder'.unread = decoder.unread ++ bytes ∧
      decoder'.maximumBufferedBytes = decoder.maximumBufferedBytes := by
  rw [append]
  by_cases hempty : bytes = []
  · subst hempty
    exact ⟨decoder, rfl, hvalid, by rw [List.append_nil], rfl⟩
  · rw [hasRoom, Bool.or_eq_true, List.isEmpty_iff, decide_eq_true_eq] at hroom
    have hcompact := hvalid.compact
    rw [if_neg hempty]
    dsimp only
    rw [maximumBufferedBytes_compact, if_neg (Nat.not_lt.mpr (hroom.resolve_left hempty))]
    refine ⟨_, rfl, ?_, ?_, rfl⟩
    · exact Nat.le_trans hcompact (by rw [List.length_append]; exact Nat.le_add_right _ _)
    · rw [← unread_compact decoder]
      exact List.drop_append_of_le_length hcompact

/-- **Nothing to take yet.** -/
theorem tryPop_of_needMore {decoder : TpktStreamDecoder}
    (h : peek decoder.maximumBufferedBytes decoder.unread = .needMore) :
    decoder.tryPop = .ok (none, decoder) := by
  rw [peek, length_unread] at h
  rw [tryPop]
  dsimp only
  rw [headerLength_eq, supportedVersion_eq]
  by_cases hshort : decoder.bufferedBytes < 4
  · exact if_pos hshort
  rw [if_neg hshort] at h
  split at h
  · cases h
  rename_i hheader
  rw [not_or, not_not, not_not] at hheader
  split at h
  · cases h
  rename_i hdeclared
  rw [not_or] at hdeclared
  split at h
  · rename_i hmissing
    rw [if_neg hshort, if_neg (not_not.mpr hheader.1), if_neg (not_not.mpr hheader.2),
      if_neg hdeclared.1, if_neg hdeclared.2, if_pos hmissing]
  · cases h

/-- A frame at the front of what is unread. -/
theorem tryDecode_take {unread : Bytes} {n : Nat} (hlong : n ≤ unread.length)
    (hversion : octetAt unread 0 = 3) (hreserved : octetAt unread 1 = 0)
    (hn : readAt unread 2 2 = n) (hmin : ¬n < 4) :
    TpktFrameCodec.tryDecode (unread.take n) =
      .ok { version := octetAt unread 0, declaredLength := n, payload := (unread.take n).drop 4 } := by
  have hlength : (unread.take n).length = n := by
    rw [List.length_take]
    omega
  have hfront (i : Nat) (hi : i < 4) : octetAt (unread.take n) i = octetAt unread i := by
    rw [octetAt, octetAt, List.getD_eq_getElem?_getD, List.getD_eq_getElem?_getD,
      List.getElem?_take_of_lt (by omega)]
  have hread : readAt (unread.take n) 2 2 = n := by
    have htake : min 2 (n - 2) = 2 := by omega
    rw [readAt, slice, List.drop_take, List.take_take, htake]
    exact hn
  rw [TpktFrameCodec.tryDecode]
  dsimp only
  rw [headerLength_eq, supportedVersion_eq, hlength, if_neg hmin, hfront 0 (by decide),
    hfront 1 (by decide), if_neg (not_not.mpr hversion), if_neg (not_not.mpr hreserved), hread,
    if_neg hmin, if_neg (not_not.mpr rfl)]

/-- **The frame that is taken.** -/
theorem tryPop_of_ready {decoder : TpktStreamDecoder} (hvalid : decoder.Valid) {n : Nat}
    (h : peek decoder.maximumBufferedBytes decoder.unread = .ready n) :
    ∃ frame decoder', decoder.tryPop = .ok (some frame, decoder') ∧
      frame.payload = (decoder.unread.take n).drop 4 ∧ decoder'.Valid ∧
      decoder'.unread = decoder.unread.drop n ∧
      decoder'.maximumBufferedBytes = decoder.maximumBufferedBytes := by
  rw [peek, length_unread] at h
  rw [tryPop]
  dsimp only
  rw [headerLength_eq, supportedVersion_eq]
  by_cases hshort : decoder.bufferedBytes < 4
  · rw [if_pos hshort] at h
    cases h
  rw [if_neg hshort] at h
  split at h
  · cases h
  rename_i hheader
  rw [not_or, not_not, not_not] at hheader
  split at h
  · cases h
  rename_i hdeclared
  rw [not_or] at hdeclared
  split at h
  · cases h
  rename_i hmissing
  have hn : readAt decoder.unread 2 2 = n := Peek.ready.inj h
  rw [hn] at hdeclared hmissing
  rw [if_neg hshort, hn, if_neg (not_not.mpr hheader.1), if_neg (not_not.mpr hheader.2), if_neg hdeclared.1,
    if_neg hdeclared.2, if_neg hmissing]
  have hdecode := tryDecode_take (by rw [length_unread]; omega) hheader.1 hheader.2 hn hdeclared.1
  rw [hdecode]
  refine ⟨_, _, rfl, rfl, Valid.compact ?_, ?_, maximumBufferedBytes_compact _⟩
  · have hbuffered : decoder.bufferedBytes = decoder.buffer.length - decoder.offset := rfl
    change decoder.offset + n ≤ decoder.buffer.length
    have hoffset : decoder.offset ≤ decoder.buffer.length := hvalid
    omega
  · rw [unread_compact, unread, unread, List.drop_drop]

end TpktStreamDecoder

/-! ## Frames of the stream -/

theorem readAt_tpktFrame {tpdu : Bytes} (hlength : tpdu.length ≤ 65531) (rest : Bytes) :
    readAt (tpktFrame tpdu ++ rest) 2 2 = 4 + tpdu.length := by
  have hvalue := beValue_beOctets 2 (n := 4 + tpdu.length) (by omega)
  exact hvalue

/-- **A frame of the segmenter is a frame for the decoder.** -/
theorem isFrame_tpktFrame {limit : Nat} {tpdu : Bytes} (hlength : tpdu.length ≤ 65531)
    (hlimit : 4 + tpdu.length ≤ limit) :
    IsFrame (TpktStreamDecoder.peek limit) (tpktFrame tpdu) := by
  constructor
  · intro rest
    rw [TpktStreamDecoder.peek, readAt_tpktFrame hlength, length_tpktFrame, List.length_append,
      length_tpktFrame, if_neg (by omega), if_neg, if_neg (by omega), if_neg (by omega)]
    exact not_or.mpr ⟨not_not.mpr rfl, not_not.mpr rfl⟩
  · intro window rest h hrest
    have hshort : window.length < 4 + tpdu.length := by
      have hboth := congrArg List.length h
      rw [List.length_append, length_tpktFrame] at hboth
      have hpos : 0 < rest.length := List.length_pos_iff.mpr hrest
      omega
    rw [TpktStreamDecoder.peek]
    by_cases hheader : window.length < 4
    · exact if_pos hheader
    · -- the header is there, and says that octets are missing
      have hleading : window = (tpktFrame tpdu).take window.length := by
        rw [← h, List.take_left]
      have hfront (i : Nat) (hi : i < 4) : octetAt window i = octetAt (tpktFrame tpdu) i := by
        rw [hleading, octetAt, octetAt, List.getD_eq_getElem?_getD, List.getD_eq_getElem?_getD,
          List.getElem?_take_of_lt (by omega)]
      have hread : readAt window 2 2 = 4 + tpdu.length := by
        rw [← readAt_tpktFrame hlength [], List.append_nil, ← h, readAt, readAt,
          slice_append_left _ _ (by omega)]
      rw [if_neg hheader, hread, hfront 0 (by decide), hfront 1 (by decide), if_neg,
        if_neg (by omega), if_pos hshort]
      exact not_or.mpr ⟨not_not.mpr rfl, not_not.mpr rfl⟩

theorem drop_tpktFrame (tpdu : Bytes) : (tpktFrame tpdu).drop 4 = tpdu := rfl

end ArStack.Osi
