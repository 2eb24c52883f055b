import Mathlib
import ArStack.Spec.CotpTpktStream

/-!
# A message through the segmenter and back

The receiver appends what a connection delivers to the stream decoder, takes out every frame
that is whole, and appends its payload to the reassembler.

* `Receiver.receiveAll` — the receiver on a sequence of chunks
* `segmentation_roundTrip` — the frames of a message, in any chunks
* `segments_numbered` — the TPDUs of the two segmenters differ
-/

namespace ArStack.Osi

open ArStack.Wire ArStack.Lib

/-! ## The receiver -/

/-- The decoder and the reassembler, the payloads that were taken out, and each completion with
the number of payloads taken out by then. -/
structure Receiver where
  decoder : TpktStreamDecoder := {}
  reassembler : CotpDataReassembler := {}
  payloads : List Bytes := []
  completed : List (Nat × Bytes) := []
  deriving DecidableEq

namespace Receiver

/-- A payload goes to the reassembler. -/
def take (receiver : Receiver) (payload : Bytes) (decoder : TpktStreamDecoder) :
    Except String Receiver :=
  match receiver.reassembler.appendEncoded payload with
  | .error error => .error error
  | .ok reassembler =>
    .ok
      { decoder
        reassembler
        payloads := receiver.payloads ++ [payload]
        completed :=
          if reassembler.isComplete then
            receiver.completed ++ [(receiver.payloads.length + 1, reassembler.buffer)]
          else receiver.completed }

/-- Take out frames until none is whole. -/
def pump : Nat → Receiver → Except String Receiver
  | 0, receiver => .ok receiver
  | fuel + 1, receiver =>
    match receiver.decoder.tryPop with
    | .error error => .error error
    | .ok (none, decoder) => .ok { receiver with decoder }
    | .ok (some frame, decoder) =>
      match receiver.take frame.payload decoder with
      | .error error => .error error
      | .ok receiver => pump fuel receiver

/-- A chunk arrives. -/
def receive (receiver : Receiver) (chunk : Bytes) : Except String Receiver :=
  match receiver.decoder.append chunk with
  | .error error => .error error
  | .ok decoder => pump (decoder.bufferedBytes + 1) { receiver with decoder }

def receiveAll (receiver : Receiver) : List Bytes → Except String Receiver
  | [] => .ok receiver
  | chunk :: chunks =>
    match receiver.receive chunk with
    | .error error => .error error
    | .ok receiver => receiver.receiveAll chunks

/-- Every chunk fits into the buffer of the stream decoder when it arrives. -/
def hasRoom (receiver : Receiver) : List Bytes → Bool
  | [] => true
  | chunk :: chunks =>
    receiver.decoder.hasRoom chunk &&
      match receiver.receive chunk with
      | .error _ => true
      | .ok receiver => receiver.hasRoom chunks

end Receiver

/-! ## Reassembly -/

theorem tryDecode_dataTpdu (userData : Bytes) (final : Bool) :
    CotpFrameCodec.tryDecode (CotpFrameCodec.dataTpdu userData final 0) =
      .ok
        { kind := .data
          code := CotpFrameCodec.dataCode
          lengthIndicator := 2
          endOfTransmission := final
          tpduNumber := 0
          userData } := by
  have hlength := length_dataTpdu userData final 0
  have hindicator : octetAt (CotpFrameCodec.dataTpdu userData final 0) 0 = 2 := rfl
  have hcode : octetAt (CotpFrameCodec.dataTpdu userData final 0) 1 = CotpFrameCodec.dataCode := rfl
  have hkind : CotpFrameCodec.kindFromCode CotpFrameCodec.dataCode = .data := by decide
  have hthird : octetAt (CotpFrameCodec.dataTpdu userData final 0) 2 =
      (if final then 0x80 else 0x00) ||| 0 := rfl
  have hmark : (((if final then (0x80 : UInt8) else 0x00) ||| 0) &&& 0x80 != 0) = final := by
    cases final <;> decide
  have hnumber : ((if final then (0x80 : UInt8) else 0x00) ||| 0) &&& 0x7F = 0 := by
    cases final <;> decide
  have hheader : ¬((2 : UInt8) < 2 ∨ (2 : UInt8).toNat + 1 > 3 + userData.length) := by
    rintro (hlt | hgt)
    · exact absurd hlt (by decide)
    · have htwo : (2 : UInt8).toNat = 2 := rfl
      omega
  rw [CotpFrameCodec.tryDecode, hlength, if_neg (by omega), hindicator, if_neg hheader, hcode, hkind]
  simp only [CotpFrameCodec.tryDecodeData]
  rw [hindicator, if_neg (not_not.mpr rfl), hthird, hcode, hmark, hnumber]
  rfl

/-- A segment is appended. -/
theorem appendEncoded_segment {reassembler : CotpDataReassembler} {segment : Bool × Bytes}
    (hopen : reassembler.isComplete = false)
    (hfragments : reassembler.fragmentCount < reassembler.maximumFragments)
    (hbytes : reassembler.buffer.length + segment.2.length ≤ reassembler.maximumBytes)
    (hfull : segment.1 = false → segment.2 ≠ []) :
    reassembler.appendEncoded (segmentTpdu segment) =
      .ok
        { reassembler with
          fragmentCount := reassembler.fragmentCount + 1
          isComplete := segment.1
          buffer := reassembler.buffer ++ segment.2 } := by
  have hempty : CotpDataReassembler.emptyNonfinal
      { kind := .data
        code := CotpFrameCodec.dataCode
        lengthIndicator := 2
        endOfTransmission := segment.1
        tpduNumber := 0
        userData := segment.2 } = false := by
    cases hfinal : segment.1 with
    | false => simpa [CotpDataReassembler.emptyNonfinal] using hfull hfinal
    | true => simp [CotpDataReassembler.emptyNonfinal]
  rw [CotpDataReassembler.appendEncoded, segmentTpdu, tryDecode_dataTpdu]
  simp only [bind, Except.bind]
  rw [CotpDataReassembler.append, hopen, if_neg (by decide), if_neg (not_not.mpr rfl),
    if_neg (by omega), hempty, if_neg (by simp), if_neg (by dsimp only; omega)]
  rfl

/-! ## The invariant of the receiver -/

section Receiver

/-- What the segments of a message are to a receiver with these limits. -/
structure Receivable (start : Receiver) (all : List (Bool × Bytes)) : Prop where
  final : ∀ done segment todo, all = done ++ segment :: todo → segment.1 = todo.isEmpty
  full : ∀ segment ∈ all, segment.1 = false → segment.2 ≠ []
  frame : ∀ segment ∈ all,
    IsFrame (TpktStreamDecoder.peek start.decoder.maximumBufferedBytes)
      (tpktFrame (segmentTpdu segment))
  count : all.length ≤ start.reassembler.maximumFragments
  size : (all.map Prod.snd).flatten.length ≤ start.reassembler.maximumBytes

/-- The receiver has taken `done` and is waiting for `todo`, of which `rest` has not arrived. -/
structure Midway (start : Receiver) (all done todo : List (Bool × Bytes)) (rest : Bytes)
    (receiver : Receiver) : Prop where
  split : all = done ++ todo
  valid : receiver.decoder.Valid
  limit : receiver.decoder.maximumBufferedBytes = start.decoder.maximumBufferedBytes
  stream : receiver.decoder.unread ++ rest =
    (todo.map fun segment => tpktFrame (segmentTpdu segment)).flatten
  payloads : receiver.payloads = done.map segmentTpdu
  reassembler : receiver.reassembler =
    { start.reassembler with
      fragmentCount := done.length
      isComplete := todo.isEmpty
      buffer := (done.map Prod.snd).flatten }
  completed : receiver.completed =
    if todo.isEmpty then [(done.length, (done.map Prod.snd).flatten)] else []

variable {start receiver : Receiver} {all done todo : List (Bool × Bytes)} {rest : Bytes}

/-- A payload is taken. -/
theorem Midway.take {segment : Bool × Bytes} (hall : Receivable start all)
    (h : Midway start all done (segment :: todo) rest receiver) {decoder : TpktStreamDecoder}
    {window : Bytes} (hvalid : decoder.Valid) (hunread : decoder.unread = window)
    (hlimit : decoder.maximumBufferedBytes = receiver.decoder.maximumBufferedBytes)
    (hstream : window ++ rest = (todo.map fun s => tpktFrame (segmentTpdu s)).flatten) :
    ∃ receiver', receiver.take (segmentTpdu segment) decoder = .ok receiver' ∧
      receiver'.decoder = decoder ∧
      Midway start all (done ++ [segment]) todo rest receiver' := by
  have hsplit : all = (done ++ [segment]) ++ todo := by simp [h.split]
  have hmem : segment ∈ all := by simp [h.split]
  have hfinal := hall.final done segment todo h.split
  have hcount := hall.count
  have hsize := hall.size
  rw [h.split, List.length_append, List.length_cons] at hcount
  rw [h.split, List.map_append, List.flatten_append, List.map_cons, List.flatten_cons,
    List.length_append, List.length_append] at hsize
  have happend : receiver.reassembler.appendEncoded (segmentTpdu segment) =
      .ok
        { start.reassembler with
          fragmentCount := (done ++ [segment]).length
          isComplete := todo.isEmpty
          buffer := ((done ++ [segment]).map Prod.snd).flatten } := by
    rw [h.reassembler, appendEncoded_segment rfl (by dsimp only; omega) (by dsimp only; omega)
      (hall.full segment hmem), ← hfinal]
    simp
  refine ⟨_, by rw [Receiver.take, happend], rfl, hsplit, hvalid, hlimit.trans h.limit, ?_, ?_, rfl,
    ?_⟩
  · rw [hunread]
    exact hstream
  · change receiver.payloads ++ [segmentTpdu segment] = _
    rw [h.payloads, List.map_append, List.map_singleton]
  · change (if todo.isEmpty = true then receiver.completed ++ [(receiver.payloads.length + 1, _)]
      else receiver.completed) = _
    rw [h.completed, h.payloads, List.length_map, List.length_append, List.length_singleton]
    cases todo <;> rfl

/-- **Everything that has arrived whole is taken.** -/
theorem Midway.pump (hall : Receivable start all) (fuel : Nat)
    (h : Midway start all done todo rest receiver)
    (hfuel : receiver.decoder.unread.length < fuel) :
    ∃ receiver' done' todo', receiver.pump fuel = .ok receiver' ∧
      Midway start all done' todo' rest receiver' ∧ (rest = [] → todo' = []) := by
  induction fuel generalizing receiver done todo with
  | zero => omega
  | succ fuel ih =>
    have hframes : ∀ frame ∈ todo.map fun s => tpktFrame (segmentTpdu s),
        IsFrame (TpktStreamDecoder.peek receiver.decoder.maximumBufferedBytes) frame := by
      intro frame hframe
      obtain ⟨segment, hsegment, rfl⟩ := List.mem_map.mp hframe
      rw [h.limit]
      exact hall.frame segment (by rw [h.split]; exact List.mem_append_right _ hsegment)
    rw [Receiver.pump]
    rcases peek_stream rfl hframes h.stream with
      ⟨hmore, hdone⟩ | ⟨frame, frames, window, hmap, hwindow, hready, hrest⟩
    · rw [TpktStreamDecoder.tryPop_of_needMore hmore]
      exact ⟨receiver, done, todo, rfl, h, fun hnil => List.map_eq_nil_iff.mp (hdone hnil)⟩
    · cases todo with
      | nil => cases hmap
      | cons segment todo =>
        obtain ⟨rfl, rfl⟩ := List.cons.inj hmap
        obtain ⟨popped, decoder, hpop, hpayload, hvalid, hunread, hlimit⟩ :=
          TpktStreamDecoder.tryPop_of_ready h.valid hready
        rw [hwindow, List.take_left', drop_tpktFrame] at hpayload
        rw [hwindow, List.drop_left'] at hunread
        · obtain ⟨receiver', htake, hdecoder, hmid⟩ :=
            h.take hall hvalid hunread hlimit hrest
          simp only [hpop, hpayload, htake]
          refine ih hmid ?_
          have hlength := congrArg List.length hwindow
          rw [List.length_append, length_tpktFrame] at hlength
          rw [hdecoder, hunread]
          omega
        · rfl
        · rfl

/-- A chunk arrives. -/
theorem Midway.receive (hall : Receivable start all) {chunk : Bytes}
    (h : Midway start all done todo (chunk ++ rest) receiver)
    (hroom : receiver.decoder.hasRoom chunk = true) :
    ∃ receiver' done' todo', receiver.receive chunk = .ok receiver' ∧
      Midway start all done' todo' rest receiver' ∧ (rest = [] → todo' = []) := by
  obtain ⟨decoder, happend, hvalid, hunread, hlimit⟩ :=
    TpktStreamDecoder.append_eq h.valid hroom
  have hstream : decoder.unread ++ rest = (todo.map fun s => tpktFrame (segmentTpdu s)).flatten := by
    rw [hunread, List.append_assoc]
    exact h.stream
  have hmid : Midway start all done todo rest { receiver with decoder } :=
    ⟨h.split, hvalid, hlimit.trans h.limit, hstream, h.payloads, h.reassembler, h.completed⟩
  rw [Receiver.receive, happend]
  exact hmid.pump hall _ (by rw [TpktStreamDecoder.length_unread]; exact Nat.lt_succ_self _)

/-- **All chunks arrive.** -/
theorem Midway.receiveAll (hall : Receivable start all) (chunks : List Bytes)
    (h : Midway start all done todo chunks.flatten receiver)
    (hroom : receiver.hasRoom chunks = true) (hopen : chunks = [] → todo = []) :
    ∃ receiver', receiver.receiveAll chunks = .ok receiver' ∧
      Midway start all all [] [] receiver' := by
  induction chunks generalizing receiver done todo with
  | nil =>
    obtain rfl := hopen rfl
    obtain rfl : all = done := h.split.trans (List.append_nil done)
    exact ⟨receiver, rfl, h⟩
  | cons chunk chunks ih =>
    rw [Receiver.hasRoom, Bool.and_eq_true] at hroom
    rw [List.flatten_cons] at h
    obtain ⟨receiver', done', todo', hreceive, hmid, hlast⟩ := h.receive hall hroom.1
    rw [Receiver.receiveAll, hreceive]
    refine ih hmid ?_ fun hnil => hlast (by rw [hnil, List.flatten_nil])
    simpa only [hreceive] using hroom.2

end Receiver

/-! ## The round trip -/

theorem segments_final {size : Nat} {userData : Bytes} {done todo : List (Bool × Bytes)}
    {segment : Bool × Bytes} (h : segments size userData = done ++ segment :: todo) :
    segment.1 = todo.isEmpty := by
  have hlength := congrArg List.length h
  rw [segments, length_withLast, List.length_append, List.length_cons] at hlength
  have hi : done.length < (withLast (pieces size userData)).length := by
    rw [length_withLast]
    omega
  have hmark := fst_getElem_withLast (pieces size userData) done.length hi
  have hget : (withLast (pieces size userData))[done.length] = segment := by
    have h' : withLast (pieces size userData) = done ++ segment :: todo := h
    simp only [h', List.getElem_append_right (Nat.le_refl _), Nat.sub_self, List.getElem_cons_zero]
  rw [hget, hlength] at hmark
  rw [hmark]
  cases todo with
  | nil => simp
  | cons => simp

/-- The segments of a message, within the limits of the receiver. -/
theorem receivable_segments {start : Receiver} {userData : Bytes} {negotiated : Nat}
    (hlow : 3 < negotiated) (hhigh : negotiated ≤ 65531)
    (hframe : 4 + min negotiated (3 + userData.length) ≤ start.decoder.maximumBufferedBytes)
    (hcount : (segments (negotiated - 3) userData).length ≤ start.reassembler.maximumFragments)
    (hsize : userData.length ≤ start.reassembler.maximumBytes) :
    Receivable start (segments (negotiated - 3) userData) := by
  have hne : negotiated - 3 ≠ 0 := by omega
  refine ⟨fun _ _ _ => segments_final, fun segment hsegment hfinal => ?_,
    fun segment hsegment => ?_, hcount, by rwa [flatten_segments hne]⟩
  · have hlength := (length_of_mem_segments hne userData segment hsegment).2 hfinal
    intro hnil
    rw [hnil, List.length_nil] at hlength
    omega
  · have hlength := (length_of_mem_segments hne userData segment hsegment).1
    have htpdu : (segmentTpdu segment).length = 3 + segment.2.length := length_dataTpdu ..
    exact isFrame_tpktFrame (by omega) (by omega)

/-- The TPDUs of `encode_into`. -/
def spanTpdus (negotiated : Nat) (userData : Bytes) : List Bytes :=
  (segments (negotiated - 3) userData).map segmentTpdu

/-- Only the last TPDU ends the transmission. -/
theorem eot_spanTpdus {negotiated : Nat} {userData tpdu : Bytes} {i : Nat}
    (h : (spanTpdus negotiated userData)[i]? = some tpdu) :
    octetAt tpdu 2 &&& 0x80 ≠ 0 ↔ i + 1 = (spanTpdus negotiated userData).length := by
  obtain ⟨segment, hsegment, rfl⟩ := (List.getElem?_map ▸ Option.map_eq_some_iff).mp h
  obtain ⟨hi, hget⟩ := List.getElem?_eq_some_iff.mp hsegment
  have hmark := fst_getElem_withLast _ i hi
  have hlength : (spanTpdus negotiated userData).length =
      (pieces (negotiated - 3) userData).length := by
    rw [spanTpdus, List.length_map, segments, length_withLast]
  have hsegments : (withLast (pieces (negotiated - 3) userData))[i] = segment := hget
  rw [hsegments] at hmark
  have hoctet : octetAt (segmentTpdu segment) 2 = (if segment.1 then 0x80 else 0x00) ||| 0 := rfl
  rw [hoctet, hmark, hlength]
  by_cases hlast : i + 1 = (pieces (negotiated - 3) userData).length
  · simp [hlast]
  · simp [hlast]

/-- A TPDU with another number. -/
theorem dataTpdu_number (userData : Bytes) (final : Bool) (number : UInt8) :
    CotpFrameCodec.dataTpdu userData final number =
      (CotpFrameCodec.dataTpdu userData final 0).set 2
        (octetAt (CotpFrameCodec.dataTpdu userData final 0) 2 ||| number) := by
  have hoctet : octetAt (CotpFrameCodec.dataTpdu userData final 0) 2 =
      (if final then 0x80 else 0x00) ||| 0 := rfl
  rw [hoctet, UInt8.or_zero]
  rfl

/-- **A message survives segmentation.** -/
theorem segmentation_roundTrip (userData : Bytes) (negotiated destinationSize : Nat)
    (hsuccess : (CotpTpktDataStreamSpanCodec.encodeInto userData negotiated
      destinationSize).success = true)
    (decoder : TpktStreamDecoder) (reassembler : CotpDataReassembler)
    (hdecoder : decoder.unread = [] ∧ decoder.Valid)
    (hreassembler : reassembler.fragmentCount = 0 ∧ reassembler.isComplete = false ∧
      reassembler.buffer = [])
    (hframe : 4 + min negotiated (3 + userData.length) ≤ decoder.maximumBufferedBytes)
    (hcount : (spanTpdus negotiated userData).length ≤ reassembler.maximumFragments)
    (hsize : userData.length ≤ reassembler.maximumBytes) (chunks : List Bytes)
    (hchunks : chunks.flatten =
      (CotpTpktDataStreamSpanCodec.encodeInto userData negotiated destinationSize).bytes)
    (hroom : Receiver.hasRoom { decoder, reassembler } chunks = true) :
    (∃ receiver, Receiver.receiveAll { decoder, reassembler } chunks = .ok receiver ∧
      receiver.payloads = spanTpdus negotiated userData ∧
      receiver.completed = [(receiver.payloads.length, userData)] ∧
      receiver.reassembler.complete = .ok userData ∧ receiver.decoder.bufferedBytes = 0) ∧
    (CotpTpktDataStreamSpanCodec.encodeInto userData negotiated destinationSize).bytes =
      ((spanTpdus negotiated userData).map tpktFrame).flatten ∧
    (∀ tpdu ∈ spanTpdus negotiated userData, tpdu.length ≤ negotiated) ∧
    (∀ i tpdu, (spanTpdus negotiated userData)[i]? = some tpdu →
      (octetAt tpdu 2 &&& 0x80 ≠ 0 ↔ i + 1 = (spanTpdus negotiated userData).length)) ∧
    ∀ code, CotpFrameCodec.tpduSizeBytes code = .ok negotiated →
      ∃ tpdus, CotpFrameCodec.encodeDataSegments userData code = .ok tpdus ∧
        tpdus.length = (spanTpdus negotiated userData).length ∧
        ∀ (i : Nat) (tpdu : Bytes), (spanTpdus negotiated userData)[i]? = some tpdu →
          tpdus[i]? = some (tpdu.set 2 (octetAt tpdu 2 ||| UInt8.ofNat (i % 128))) := by
  obtain ⟨hlow, hhigh, hmax, hbytes⟩ := CotpTpktDataStreamSpanCodec.encodeInto_eq hsuccess
  have hne : negotiated - 3 ≠ 0 := by omega
  refine ⟨?_, ?_, ?_, fun i tpdu => eot_spanTpdus, ?_⟩
  · have hall : Receivable { decoder, reassembler } (segments (negotiated - 3) userData) :=
      receivable_segments hlow hhigh hframe (by simpa [spanTpdus] using hcount) hsize
    have hstart : Midway { decoder, reassembler } (segments (negotiated - 3) userData) []
        (segments (negotiated - 3) userData) chunks.flatten { decoder, reassembler } := by
      have hopen : (segments (negotiated - 3) userData).isEmpty = false :=
        List.isEmpty_eq_false_iff.mpr (segments_ne_nil _ _)
      refine ⟨rfl, hdecoder.2, rfl, ?_, rfl, ?_, by rw [hopen]; rfl⟩
      · rw [hchunks, hbytes]
        change decoder.unread ++ _ = _
        rw [hdecoder.1, List.nil_append]
      · obtain ⟨hfragments, hcomplete, hbuffer⟩ := hreassembler
        rw [hopen]
        obtain ⟨_, _, _, _, _, _, _⟩ := reassembler
        simp only at hfragments hcomplete hbuffer
        subst hfragments hcomplete hbuffer
        rfl
    have hsome : chunks = [] → segments (negotiated - 3) userData = [] := by
      rintro rfl
      rw [hbytes] at hchunks
      cases hsegments : segments (negotiated - 3) userData with
      | nil => rfl
      | cons segment todo => rw [hsegments] at hchunks; cases hchunks
    obtain ⟨receiver, hreceive, hmid⟩ := hstart.receiveAll hall chunks hroom hsome
    have hbuffer : receiver.reassembler.buffer = userData := by
      rw [hmid.reassembler]
      exact flatten_segments hne userData
    refine ⟨receiver, hreceive, hmid.payloads, ?_, ?_, ?_⟩
    · rw [hmid.completed, hmid.payloads, flatten_segments hne, List.length_map]
      rfl
    · rw [CotpDataReassembler.complete, hbuffer, hmid.reassembler]
      rfl
    · have hunread := hmid.stream
      rw [List.append_nil] at hunread
      rw [← TpktStreamDecoder.length_unread, hunread]
      rfl
  · rw [hbytes, spanTpdus, List.map_map]
    rfl
  · intro tpdu htpdu
    obtain ⟨segment, hsegment, rfl⟩ := List.mem_map.mp htpdu
    have hlength := (length_of_mem_segments hne userData segment hsegment).1
    rw [segmentTpdu, length_dataTpdu]
    omega
  · intro code hcode
    refine ⟨_, CotpFrameCodec.encodeDataSegments_eq hcode hlow hmax, ?_, fun i tpdu htpdu => ?_⟩
    · rw [CotpFrameCodec.length_numbered, spanTpdus, List.length_map]
    · have hnumber := CotpFrameCodec.getElem?_numbered (segments (negotiated - 3) userData) 0 i
      rw [spanTpdus, List.getElem?_map, Option.map_eq_some_iff] at htpdu
      obtain ⟨segment, hsegment, rfl⟩ := htpdu
      rw [hsegment, Nat.zero_add, Option.map_some, dataTpdu_number] at hnumber
      exact hnumber

/-- A payload of two segments in one chunk, and octet by octet. -/
theorem segmentation_roundTrip_sample :
    ∃ receiver, Receiver.receiveAll {} [[3, 0, 0, 8, 2, 0xF0], [0, 7, 3, 0], [0, 8, 2, 0xF0, 0x80, 9]] =
        .ok receiver ∧
      receiver.payloads = spanTpdus 4 [7, 9] ∧
      receiver.completed = [(receiver.payloads.length, [7, 9])] ∧
      receiver.reassembler.complete = .ok [7, 9] ∧ receiver.decoder.bufferedBytes = 0 :=
  (segmentation_roundTrip [7, 9] 4 64 (by decide) {} {} ⟨rfl, Nat.le_refl 0⟩ (by decide)
    (by decide) (by rw [spanTpdus, List.length_map, length_segments (by decide)]; decide)
    (by decide) _ (by decide) (by decide)).1

/-- The TPDUs of the two segmenters differ, and a receiver has limits. -/
theorem segments_numbered :
    (∃ tpdus, CotpFrameCodec.encodeDataSegments (List.replicate 126 0) 7 = .ok tpdus ∧
      tpdus ≠ spanTpdus 128 (List.replicate 126 0)) ∧
    (CotpTpktDataStreamSpanCodec.encodeInto [7, 9] 4 64).success = true ∧
      (Receiver.receive { reassembler := { maximumBytes := 1 } }
        (CotpTpktDataStreamSpanCodec.encodeInto [7, 9] 4 64).bytes).toOption = none ∧
      (Receiver.receive { decoder := { maximumBufferedBytes := 12 } }
        (CotpTpktDataStreamSpanCodec.encodeInto [7, 9] 4 64).bytes).toOption = none := by
  have hcode : CotpFrameCodec.tpduSizeBytes 7 = .ok 128 := rfl
  have hsegments : segments (128 - 3) (List.replicate 126 0) =
      [(false, List.replicate 125 0), (true, [0])] := by
    rw [segments_of_lt (by decide) (by rw [List.length_replicate]; decide),
      segments_of_le (by rw [List.length_drop, List.length_replicate]; decide), List.take_replicate,
      List.drop_replicate]
    rfl
  refine ⟨⟨_, CotpFrameCodec.encodeDataSegments_eq hcode (by decide) ?_, ?_⟩, by decide⟩
  · rw [List.length_replicate]
    decide
  · rw [spanTpdus, hsegments]
    decide

end ArStack.Osi
