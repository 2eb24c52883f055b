import ArStack.Lib.Incremental
import ArStack.Spec.CotpTpktStream

/-!
# How a TPKT stream is cut

The stream decoder gives the frames of the stream however it is cut, as long as no chunk is
refused. It keeps some of the octets that have been read, and they count when a chunk is added.

* `nextFrame` — the next frame, from the unread octets alone; `stable_nextFrame`
* `shows_popFrame` — the decoder takes the frames that its unread octets show
* `exact_iff_clear` — when an overflow is reported exactly for too many unread octets
* `chunks_read_alike`
-/

namespace ArStack.Osi.TpktStreamDecoder

open ArStack.Lib ArStack.Wire

/-! ## Frames of the unread octets -/

/-- The next frame and what is behind it, when there is one. -/
def nextFrame (limit : Nat) (unread : Bytes) : Except String (Option (TpktFrame × Bytes)) :=
  if unread.length < 4 then .ok none
  else if octetAt unread 0 ≠ 3 then .error "Unsupported TPKT version in stream."
  else if octetAt unread 1 ≠ 0 then .error "TPKT reserved octet in stream must be zero."
  else if readAt unread 2 2 < 4 then .error "TPKT stream declared an invalid frame length."
  else if readAt unread 2 2 > limit then
    .error "TPKT frame exceeds the configured stream buffer limit."
  else if unread.length < readAt unread 2 2 then .ok none
  else
    .ok (some
      ({ version := octetAt unread 0, declaredLength := readAt unread 2 2,
         payload := (unread.take (readAt unread 2 2)).drop 4 },
       unread.drop (readAt unread 2 2)))

/-- What a window has to say for its next frame. -/
inductive NextFrame (limit : Nat) (unread : Bytes) :
    Except String (Option (TpktFrame × Bytes)) → Prop where
  | header (h : unread.length < 4) : NextFrame limit unread (.ok none)
  | version (h : ¬unread.length < 4) (hversion : octetAt unread 0 ≠ 3) :
      NextFrame limit unread (.error "Unsupported TPKT version in stream.")
  | reserved (h : ¬unread.length < 4) (hversion : octetAt unread 0 = 3)
      (hreserved : octetAt unread 1 ≠ 0) :
      NextFrame limit unread (.error "TPKT reserved octet in stream must be zero.")
  | small (h : ¬unread.length < 4) (hversion : octetAt unread 0 = 3)
      (hreserved : octetAt unread 1 = 0) (hsmall : readAt unread 2 2 < 4) :
      NextFrame limit unread (.error "TPKT stream declared an invalid frame length.")
  | large (h : ¬unread.length < 4) (hversion : octetAt unread 0 = 3)
      (hreserved : octetAt unread 1 = 0) (hsmall : ¬readAt unread 2 2 < 4)
      (hlarge : readAt unread 2 2 > limit) :
      NextFrame limit unread (.error "TPKT frame exceeds the configured stream buffer limit.")
  | body (h : ¬unread.length < 4) (hversion : octetAt unread 0 = 3)
      (hreserved : octetAt unread 1 = 0) (hsmall : ¬readAt unread 2 2 < 4)
      (hlarge : ¬readAt unread 2 2 > limit) (hmissing : unread.length < readAt unread 2 2) :
      NextFrame limit unread (.ok none)
  | frame (h : ¬unread.length < 4) (hversion : octetAt unread 0 = 3)
      (hreserved : octetAt unread 1 = 0) (hsmall : ¬readAt unread 2 2 < 4)
      (hlarge : ¬readAt unread 2 2 > limit) (hwhole : ¬unread.length < readAt unread 2 2) :
      NextFrame limit unread (.ok (some
        ({ version := octetAt unread 0, declaredLength := readAt unread 2 2,
           payload := (unread.take (readAt unread 2 2)).drop 4 },
         unread.drop (readAt unread 2 2))))

theorem nextFrame_cases (limit : Nat) (unread : Bytes) :
    NextFrame limit unread (nextFrame limit unread) := by
  rw [nextFrame]
  split
  · exact .header ‹_›
  split
  · exact .version ‹_› ‹_›
  rename_i hversion
  rw [not_not] at hversion
  split
  · exact .reserved ‹_› hversion ‹_›
  rename_i hreserved
  rw [not_not] at hreserved
  split
  · exact .small ‹_› hversion hreserved ‹_›
  split
  · exact .large ‹_› hversion hreserved ‹_› ‹_›
  split
  · exact .body ‹_› hversion hreserved ‹_› ‹_› ‹_›
  · exact .frame ‹_› hversion hreserved ‹_› ‹_› ‹_›

theorem octetAt_append {window : Bytes} {i : Nat} (h : i < window.length) (more : Bytes) :
    octetAt (window ++ more) i = octetAt window i := by
  rw [octetAt, octetAt, List.getD_eq_getElem?_getD, List.getD_eq_getElem?_getD,
    List.getElem?_append_left h]

theorem readAt_append (window : Bytes) {offset width : Nat} (h : offset + width ≤ window.length)
    (more : Bytes) : readAt (window ++ more) offset width = readAt window offset width := by
  rw [readAt, readAt, slice, slice, List.drop_append_of_le_length (by omega),
    List.take_append_of_le_length (by rw [List.length_drop]; omega)]

/-- **Only the octets of a frame matter to it.** -/
theorem stable_nextFrame (limit : Nat) : Stable (nextFrame limit) where
  shorter := by
    intro window frame rest h
    have hcases := nextFrame_cases limit window
    rw [h] at hcases
    cases hcases with
    | frame =>
      rw [List.length_drop]
      omega
  item := by
    intro window frame rest h more
    have hcases := nextFrame_cases limit window
    rw [h] at hcases
    cases hcases with
    | frame hheader hversion hreserved hsmall hlarge hwhole =>
      have hread := readAt_append window (show 2 + 2 ≤ window.length by omega) more
      rw [nextFrame, List.length_append, if_neg (by omega), octetAt_append (by omega),
        if_neg (not_not.mpr hversion), octetAt_append (by omega), if_neg (not_not.mpr hreserved),
        hread, if_neg hsmall, if_neg hlarge, if_neg (by omega),
        List.take_append_of_le_length (by omega), List.drop_append_of_le_length (by omega)]
  fails := by
    intro window e h more
    have hcases := nextFrame_cases limit window
    rw [h] at hcases
    have hhead : ¬window.length < 4 → ¬(window ++ more).length < 4 := by
      rw [List.length_append]
      omega
    have hread : ¬window.length < 4 → readAt (window ++ more) 2 2 = readAt window 2 2 :=
      fun hlong => readAt_append window (by omega) more
    cases hcases with
    | version hheader hversion =>
      rw [nextFrame, if_neg (hhead hheader), octetAt_append (by omega), if_pos hversion]
    | reserved hheader hversion hreserved =>
      rw [nextFrame, if_neg (hhead hheader), octetAt_append (by omega),
        if_neg (not_not.mpr hversion), octetAt_append (by omega), if_pos hreserved]
    | small hheader hversion hreserved hsmall =>
      rw [nextFrame, if_neg (hhead hheader), octetAt_append (by omega),
        if_neg (not_not.mpr hversion), octetAt_append (by omega), if_neg (not_not.mpr hreserved),
        hread hheader, if_pos hsmall]
    | large hheader hversion hreserved hsmall hlarge =>
      rw [nextFrame, if_neg (hhead hheader), octetAt_append (by omega),
        if_neg (not_not.mpr hversion), octetAt_append (by omega), if_neg (not_not.mpr hreserved),
        hread hheader, if_neg hsmall, if_pos hlarge]

/-! ## The decoder -/

/-- `try_pop`, with a decoder only when there is a frame. -/
def popFrame (decoder : TpktStreamDecoder) :
    Except String (Option (TpktFrame × TpktStreamDecoder)) :=
  match decoder.tryPop with
  | .error e => .error e
  | .ok (none, _) => .ok none
  | .ok (some frame, decoder) => .ok (some (frame, decoder))

/-- A decoder of this limit that holds no more than it may. -/
structure Within (limit : Nat) (decoder : TpktStreamDecoder) : Prop where
  valid : decoder.Valid
  configured : decoder.maximumBufferedBytes = limit
  bounded : decoder.buffer.length ≤ limit

/-- Octets that have been read stay in the buffer when it is compacted. -/
def Keeps (decoder : TpktStreamDecoder) : Prop :=
  0 < decoder.offset ∧ decoder.offset < decoder.buffer.length / 2 ∧ decoder.offset < 65535

instance (decoder : TpktStreamDecoder) : Decidable decoder.Keeps :=
  inferInstanceAs (Decidable (_ ∧ _))

theorem compact_of_keeps {decoder : TpktStreamDecoder} (h : decoder.Keeps) :
    decoder.compact = decoder := by
  obtain ⟨hpos, hhalf, hlow⟩ := h
  rw [compact, if_neg (by omega), if_neg (by omega), if_neg (by omega)]

theorem length_compact {decoder : TpktStreamDecoder} (hvalid : decoder.Valid)
    (h : ¬decoder.Keeps) : decoder.compact.buffer.length = decoder.bufferedBytes := by
  rw [Valid] at hvalid
  rw [Keeps] at h
  rw [compact, bufferedBytes]
  split
  · omega
  split
  · show (0 : Nat) = _
    omega
  split
  · exact List.length_drop
  · omega

theorem length_compact_le (decoder : TpktStreamDecoder) :
    decoder.compact.buffer.length ≤ decoder.buffer.length := by
  rw [compact]
  split
  · exact Nat.le_refl _
  split
  · exact Nat.zero_le _
  split
  · rw [List.length_drop]
    exact Nat.sub_le _ _
  · exact Nat.le_refl _

theorem Within.compact {limit : Nat} {decoder : TpktStreamDecoder} (h : Within limit decoder) :
    Within limit decoder.compact where
  valid := h.valid.compact
  configured := by rw [maximumBufferedBytes_compact, h.configured]
  bounded := Nat.le_trans (length_compact_le decoder) h.bounded

/-- **The decoder takes the frames that its unread octets show.** -/
theorem shows_popFrame (limit : Nat) :
    Shows popFrame (nextFrame limit) unread (Within limit) where
  same := by
    intro decoder h
    have hcases := nextFrame_cases limit decoder.unread
    revert hcases
    generalize nextFrame limit decoder.unread = next
    intro hcases
    rw [popFrame, tryPop]
    dsimp only
    rw [headerLength_eq, supportedVersion_eq, h.configured]
    rw [← length_unread]
    cases hcases with
    | header hheader => rw [if_pos hheader]; rfl
    | version hheader hversion => rw [if_neg hheader, if_pos hversion]; rfl
    | reserved hheader hversion hreserved =>
      rw [if_neg hheader, if_neg (not_not.mpr hversion), if_pos hreserved]
      rfl
    | small hheader hversion hreserved hsmall =>
      rw [if_neg hheader, if_neg (not_not.mpr hversion), if_neg (not_not.mpr hreserved),
        if_pos hsmall]
      rfl
    | large hheader hversion hreserved hsmall hlarge =>
      rw [if_neg hheader, if_neg (not_not.mpr hversion), if_neg (not_not.mpr hreserved),
        if_neg hsmall, if_pos hlarge]
      rfl
    | body hheader hversion hreserved hsmall hlarge hmissing =>
      rw [if_neg hheader, if_neg (not_not.mpr hversion), if_neg (not_not.mpr hreserved),
        if_neg hsmall, if_neg hlarge, if_pos hmissing]
      rfl
    | frame hheader hversion hreserved hsmall hlarge hwhole =>
      rw [if_neg hheader, if_neg (not_not.mpr hversion), if_neg (not_not.mpr hreserved),
        if_neg hsmall, if_neg hlarge, if_neg hwhole,
        tryDecode_take (Nat.le_of_not_lt hwhole) hversion hreserved rfl hsmall]
      show Except.ok (some (_, unread (TpktStreamDecoder.compact _))) = _
      rw [unread_compact, unread, unread, List.drop_drop]
      rfl
  keeps := by
    intro decoder frame decoder' h hpop
    have hwhole : ∀ n, ¬decoder.bufferedBytes < n → decoder.offset + n ≤ decoder.buffer.length := by
      intro n hn
      have hoffset : decoder.offset ≤ decoder.buffer.length := h.valid
      rw [bufferedBytes] at hn
      omega
    rw [popFrame] at hpop
    split at hpop
    · cases hpop
    · cases hpop
    · rename_i frame' decoder'' htry
      cases hpop
      rw [tryPop] at htry
      split at htry
      · cases htry
      dsimp only at htry
      split at htry
      · cases htry
      split at htry
      · cases htry
      split at htry
      · cases htry
      split at htry
      · cases htry
      split at htry
      · cases htry
      rename_i hmissing
      split at htry
      · cases htry
      · cases htry
        exact Within.compact ⟨hwhole _ hmissing, h.configured, h.bounded⟩

/-! ## Chunks -/

/-- The unread octets and the chunk are within the limit. -/
def Fits (decoder : TpktStreamDecoder) (chunk : Bytes) : Prop :=
  decoder.bufferedBytes + chunk.length ≤ decoder.maximumBufferedBytes

/-- An overflow is reported exactly when the unread octets and the chunk exceed the limit. -/
def Exact (decoder : TpktStreamDecoder) (chunk : Bytes) : Prop :=
  (∃ e, decoder.append chunk = .error e) ↔ ¬decoder.Fits chunk

/-- The octets that have been read and are kept fit too, unless the chunk does not fit anyway. -/
def Clear (decoder : TpktStreamDecoder) (chunk : Bytes) : Prop :=
  decoder.Keeps → decoder.Fits chunk →
    decoder.offset + decoder.bufferedBytes + chunk.length ≤ decoder.maximumBufferedBytes

theorem append_error_iff {decoder : TpktStreamDecoder} {chunk : Bytes} :
    (∃ e, decoder.append chunk = .error e) ↔
      chunk ≠ [] ∧
        chunk.length > decoder.maximumBufferedBytes - decoder.compact.buffer.length := by
  rw [append]
  split
  · rename_i hempty
    refine iff_of_false ?_ fun h => h.1 hempty
    rintro ⟨e, he⟩
    cases he
  · rename_i hne
    dsimp only
    rw [maximumBufferedBytes_compact]
    split
    · exact iff_of_true ⟨_, rfl⟩ ⟨hne, by assumption⟩
    · refine iff_of_false ?_ fun h => absurd h.2 (by assumption)
      rintro ⟨e, he⟩
      cases he

/-- **The bound counts the unread octets only, but for the octets that are kept.** -/
theorem exact_iff_clear {limit : Nat} {decoder : TpktStreamDecoder} (h : Within limit decoder)
    {chunk : Bytes} : decoder.Exact chunk ↔ decoder.Clear chunk := by
  have hoffset : decoder.offset ≤ decoder.buffer.length := h.valid
  have hbounded := h.bounded
  have hempty : chunk = [] ↔ chunk.length = 0 := List.length_eq_zero_iff.symm
  rw [Exact, append_error_iff, Clear, Fits, ne_eq, hempty, h.configured]
  by_cases hkeeps : decoder.Keeps
  · have hsame := compact_of_keeps hkeeps
    rw [hsame, bufferedBytes]
    constructor
    · intro hiff _ hfits
      by_contra hover
      exact absurd hfits (hiff.mp (by omega))
    · intro hclear
      constructor
      · rintro ⟨hne, hgt⟩ hfits
        have := hclear hkeeps hfits
        omega
      · omega
  · rw [length_compact h.valid hkeeps]
    have hle : decoder.bufferedBytes ≤ decoder.buffer.length := Nat.sub_le _ _
    exact iff_of_true (by omega) fun hk => absurd hk hkeeps

theorem within_append {limit : Nat} {decoder decoder' : TpktStreamDecoder} {chunk : Bytes}
    (h : Within limit decoder) (happend : decoder.append chunk = .ok decoder') :
    Within limit decoder' := by
  rw [append] at happend
  split at happend
  · cases happend
    exact h
  · dsimp only at happend
    split at happend
    · cases happend
    · rename_i hroom
      cases happend
      have hcompact := h.compact
      have hoffset : decoder.compact.offset ≤ decoder.compact.buffer.length := hcompact.valid
      have hbounded := hcompact.bounded
      rw [hcompact.configured] at hroom
      refine ⟨?_, hcompact.configured, ?_⟩
      · rw [Valid, List.length_append]
        dsimp only
        omega
      · rw [List.length_append]
        omega

/-- A chunk that is accepted. -/
theorem append_of_clear {limit : Nat} {decoder : TpktStreamDecoder} {chunk : Bytes}
    (h : Within limit decoder) (hok : decoder.Fits chunk ∧ decoder.Clear chunk) :
    ∃ decoder', decoder.append chunk = .ok decoder' ∧ Within limit decoder' ∧
      decoder'.unread = decoder.unread ++ chunk := by
  have hroom : decoder.hasRoom chunk = true := by
    by_contra hfull
    rw [hasRoom, Bool.or_eq_true, not_or, List.isEmpty_iff, decide_eq_true_eq] at hfull
    exact ((exact_iff_clear h).mpr hok.2).mp
      (append_error_iff.mpr ⟨hfull.1, Nat.lt_of_not_le hfull.2⟩) hok.1
  obtain ⟨decoder', happend, -, hunread, -⟩ := append_eq h.valid hroom
  exact ⟨decoder', happend, within_append h happend, hunread⟩

/-- Every append of the run meets `P` in the state that it comes to. -/
def EachAppend (P : TpktStreamDecoder → Bytes → Prop) (decoder : TpktStreamDecoder)
    (chunks : List Bytes) : Prop :=
  EachChunk popFrame append bufferedBytes P decoder chunks

/-- The frames of a run: after every append they are all taken. -/
def readChunks (decoder : TpktStreamDecoder) (chunks : List Bytes) :
    Outcome String TpktFrame TpktStreamDecoder :=
  feed popFrame append bufferedBytes decoder chunks

/-- **However a stream is cut, its frames and its format errors are the same.** -/
theorem chunks_read_alike (limit : Nat) :
    let start : TpktStreamDecoder := { maximumBufferedBytes := limit }
    (∀ chunks, start.EachAppend Exact chunks ↔ start.EachAppend Clear chunks) ∧
      ∀ chunks chunks' : List Bytes, chunks.flatten = chunks'.flatten →
        start.EachAppend (fun decoder chunk => decoder.Fits chunk ∧ decoder.Clear chunk) chunks →
        start.EachAppend (fun decoder chunk => decoder.Fits chunk ∧ decoder.Clear chunk) chunks' →
          (start.readChunks chunks).map unread = (start.readChunks chunks').map unread := by
  intro start
  have hstart : Within limit start := ⟨Nat.le_refl _, rfl, Nat.zero_le _⟩
  have hread (chunks : List Bytes)
      (hok : start.EachAppend (fun decoder chunk => decoder.Fits chunk ∧ decoder.Clear chunk)
        chunks) : (start.readChunks chunks).map unread = readAll (nextFrame limit) chunks.flatten := by
    rw [readChunks, feed_view (shows_popFrame limit) (fun decoder => (length_unread decoder).symm)
      append_of_clear hstart hok]
    exact feed_flatten (stable_nextFrame limit) rfl chunks
  constructor
  · intro chunks
    exact eachChunk_iff (shows_popFrame limit) within_append (fun h => exact_iff_clear h)
      hstart chunks
  · intro chunks chunks' hsame hok hok'
    rw [hread chunks hok, hread chunks' hok', hsame]

/-- A frame of four octets, and one of twelve that is cut in two. -/
def cutStream : List Bytes :=
  [[0x03, 0x00, 0x00, 0x04, 0x03, 0x00, 0x00, 0x0C, 0x11, 0x22],
   [0x33, 0x44, 0x55, 0x66, 0x77, 0x88]]

def cutAtFrames : List Bytes :=
  [[0x03, 0x00, 0x00, 0x04],
   [0x03, 0x00, 0x00, 0x0C, 0x11, 0x22, 0x33, 0x44, 0x55, 0x66, 0x77, 0x88]]

/-- The decoder after the first chunk, before and after its frames are taken. -/
def cutReceived : TpktStreamDecoder where
  buffer := [0x03, 0x00, 0x00, 0x04, 0x03, 0x00, 0x00, 0x0C, 0x11, 0x22]
  maximumBufferedBytes := 12

def cutTaken : TpktStreamDecoder := { cutReceived with offset := 4, decodedFrames := 1 }

/-- The four octets that have been read are kept, and the rest of the frame is refused. -/
theorem cut_stream_overflows :
    let start : TpktStreamDecoder := { maximumBufferedBytes := 12 }
    cutStream.flatten = cutAtFrames.flatten ∧
      ((start.readChunks cutStream).items.length = 1 ∧
        (start.readChunks cutStream).state =
          .error "TPKT stream exceeded the bounded buffer limit.") ∧
      ((start.readChunks cutAtFrames).items.length = 2 ∧
        (start.readChunks cutAtFrames).state.map unread = .ok []) ∧
      ¬start.EachAppend Exact cutStream := by
  intro start
  refine ⟨by decide, by decide, by decide, fun hexact => ?_⟩
  have hreceived : start.append (cutStream.getD 0 []) = .ok cutReceived := by decide
  have htaken : (takeAll popFrame (cutReceived.bufferedBytes + 1) cutReceived).state =
      .ok cutTaken := by decide
  have hlast : cutTaken.Exact (cutStream.getD 1 []) := (hexact.2 _ hreceived _ htaken).1
  exact hlast.mp ⟨"TPKT stream exceeded the bounded buffer limit.", by decide⟩
    (show 6 + 6 ≤ 12 by decide)

end ArStack.Osi.TpktStreamDecoder
