import ArStack.Lib.RecentKeys
import ArStack.Lib.Throws
import ArStack.Mms.OfflineReportMonitor

/-!
# The streams of the offline monitor

The monitor holds the streams that were reported last, in step with the sequence tracker. The
tracker counts a new stream before the monitor forgets an old one, so that a monitor of 4096 streams
refuses the next one.

* `InOrder` — the streams, ordered by when they were touched
* `inOrder_recordFrame`, `inOrder_enforceStreamLimit`
* `monitors_iff`, `not_monitors`
-/

namespace ArStack.Mms

open ArStack.Lib

namespace MmsOfflineReportMonitor

/-! ## The order of the streams -/

/-- When the stream was touched. -/
def touchOf (monitor : MmsOfflineReportMonitor) (key : Bytes) : Nat :=
  ((monitor.streams.lookup key).getD {}).touchOrder

/-- The streams of the monitor and of the tracker are these, the one touched last first. -/
structure InOrder (monitor : MmsOfflineReportMonitor) (order : List Bytes) : Prop where
  nodup : order.Nodup
  streams : ∀ key, key ∈ monitor.streams ↔ key ∈ order
  tracker : ∀ key, key ∈ monitor.tracker.streams ↔ key ∈ order
  sorted : order.Pairwise fun newer older => monitor.touchOf older < monitor.touchOf newer
  touched : ∀ key ∈ order, monitor.touchOf key ≤ monitor.touchCounter

theorem length_keys {β : Bytes → Type} {entries : AList β} {order : List Bytes}
    (hnodup : order.Nodup) (h : ∀ key, key ∈ entries ↔ key ∈ order) :
    entries.keys.length = order.length :=
  ((List.perm_ext_iff_of_nodup entries.keys_nodup hnodup).mpr fun key =>
    AList.mem_keys.symm.trans (h key)).length_eq

section

variable {monitor : MmsOfflineReportMonitor} {order : List Bytes}

/-- **The victim** is the stream that was touched first. -/
theorem victim_eq {last : Bytes} (h : monitor.InOrder (order ++ [last])) :
    monitor.victim = some last := by
  have hlast : last ∈ monitor.streams := (h.streams last).mpr (by simp)
  obtain ⟨record, hrecord⟩ := Option.isSome_iff_exists.mp (AList.lookup_isSome.mpr hlast)
  have hentry := AList.mem_lookup_iff.mp hrecord
  rw [victim]
  cases hmin : monitor.streams.entries.argmin fun entry => entry.2.touchOrder with
  | none => exact absurd (List.argmin_eq_none.mp hmin) (List.ne_nil_of_mem hentry)
  | some entry =>
    have hle := List.le_of_mem_argmin hentry hmin
    have hlookup : entry.2 ∈ monitor.streams.lookup entry.1 :=
      AList.mem_lookup_iff.mpr (List.argmin_mem hmin)
    have hmem : entry.1 ∈ order ++ [last] :=
      (h.streams entry.1).mp (AList.lookup_isSome.mp (Option.isSome_of_mem hlookup))
    rw [Option.map_some]
    congr 1
    rcases List.mem_append.mp hmem with hmem | hmem
    · have hlt := (List.pairwise_append.mp h.sorted).2.2 _ hmem last List.mem_cons_self
      rw [touchOf, touchOf, hrecord, Option.mem_def.mp hlookup] at hlt
      exact absurd hle (Nat.not_le.mpr hlt)
    · exact List.mem_singleton.mp hmem

/-- Without the stream that was touched first. -/
theorem inOrder_erase {last : Bytes} (h : monitor.InOrder (order ++ [last])) :
    InOrder
      { monitor with
        tracker := monitor.tracker.erase last
        streams := monitor.streams.erase last } order := by
  obtain ⟨hnodup, -, hdisjoint⟩ := List.nodup_append.mp h.nodup
  have hne : ∀ key ∈ order, key ≠ last := fun key hkey => hdisjoint key hkey last List.mem_cons_self
  have hmem : ∀ key, key ≠ last ∧ key ∈ order ++ [last] ↔ key ∈ order := by
    intro key
    rw [List.mem_append, List.mem_singleton]
    exact ⟨fun ⟨hkey, hor⟩ => hor.resolve_right hkey, fun hkey => ⟨hne key hkey, .inl hkey⟩⟩
  have htouch : ∀ key ∈ order, touchOf
      { monitor with
        tracker := monitor.tracker.erase last
        streams := monitor.streams.erase last } key = monitor.touchOf key := by
    intro key hkey
    rw [touchOf, AList.lookup_erase_ne (hne key hkey), touchOf]
  refine ⟨hnodup, fun key => ?_, fun key => ?_, ?_, fun key hkey => ?_⟩
  · rw [AList.mem_erase, h.streams, hmem]
  · rw [MmsReportSequenceTracker.erase, AList.mem_erase, h.tracker, hmem]
  · refine (List.pairwise_append.mp h.sorted).1.imp_of_mem fun hnewer holder hlt => ?_
    rwa [htouch _ hnewer, htouch _ holder]
  · rw [htouch key hkey]
    exact h.touched key (List.mem_append_left _ hkey)

/-- **The limit on the streams** is enforced by forgetting the streams behind the first ones. -/
theorem inOrder_enforceStreamLimit (h : monitor.InOrder order)
    (hpos : 0 < monitor.options.maximumStreams)
    (hle : order.length ≤ monitor.options.maximumStreams + 1) :
    monitor.enforceStreamLimit.InOrder (order.take monitor.options.maximumStreams) ∧
      monitor.enforceStreamLimit.options = monitor.options ∧
      ∀ key ∈ order.take monitor.options.maximumStreams,
        monitor.enforceStreamLimit.streams.lookup key = monitor.streams.lookup key := by
  have hlength := length_keys h.nodup h.streams
  rw [enforceStreamLimit, hlength]
  rcases Nat.lt_or_eq_of_le hle with hlt | heq
  · have hstays : enforceStreamLimitFrom order.length monitor = monitor := by
      cases order.length with
      | zero => rfl
      | succ room => rw [enforceStreamLimitFrom, if_neg (by omega)]
    rw [hstays, List.take_of_length_le (by omega)]
    exact ⟨h, rfl, fun _ _ => rfl⟩
  · obtain ⟨order, last, rfl⟩ : ∃ first last, order = first ++ [last] := by
      rcases List.eq_nil_or_concat order with rfl | ⟨first, last, rfl⟩
      · exact absurd heq (by simp)
      · exact ⟨first, last, List.concat_eq_append⟩
    rw [List.length_append, List.length_singleton] at heq hlength ⊢
    have herased := inOrder_erase h
    have hlength' := length_keys herased.nodup herased.streams
    dsimp only at hlength'
    have hroom : order.length = order.length - 1 + 1 := by omega
    rw [enforceStreamLimitFrom, if_pos (by omega), victim_eq h]
    dsimp only
    rw [hroom, enforceStreamLimitFrom, if_neg (by dsimp only; omega),
      List.take_left' (by omega)]
    refine ⟨herased, rfl, fun key hkey => ?_⟩
    obtain ⟨-, -, hdisjoint⟩ := List.nodup_append.mp h.nodup
    exact AList.lookup_erase_ne (hdisjoint key hkey last List.mem_cons_self)

/-- A frame makes its stream the one touched last. -/
theorem inOrder_recordFrame (h : monitor.InOrder order) (frame : MmsReportFrame)
    (state state' : MmsReportStreamState) :
    (monitor.recordFrame frame state
      { streams := monitor.tracker.streams.insert frame.routingKey state' }).InOrder
      (touch frame.routingKey order) := by
  have htouch : ∀ key, key ≠ frame.routingKey → (monitor.recordFrame frame state
      { streams := monitor.tracker.streams.insert frame.routingKey state' }).touchOf key =
        monitor.touchOf key := by
    intro key hne
    rw [touchOf, recordFrame, AList.lookup_insert_ne hne, touchOf]
  have hself : (monitor.recordFrame frame state
      { streams := monitor.tracker.streams.insert frame.routingKey state' }).touchOf
        frame.routingKey = monitor.touchCounter + 1 := by
    rw [touchOf, recordFrame, AList.lookup_insert]
    rfl
  refine ⟨nodup_touch h.nodup _, fun key => ?_, fun key => ?_, ?_, fun key hkey => ?_⟩
  · rw [recordFrame, AList.mem_insert, h.streams, mem_touch]
  · rw [recordFrame, AList.mem_insert, h.tracker, mem_touch]
  · refine pairwise_touch h.nodup h.sorted (fun key hkey hne => ?_) fun newer older hnewer holder
      hlt => ?_
    · rw [hself, htouch key hne]
      exact Nat.lt_succ_of_le (h.touched key hkey)
    · rwa [htouch newer hnewer, htouch older holder]
  · rcases eq_or_ne key frame.routingKey with rfl | hne
    · exact hself.le
    · rw [htouch key hne]
      exact Nat.le_succ_of_le (h.touched key ((mem_touch.mp hkey).resolve_left hne))

end

/-! ## One frame -/

/-- The streams that were reported last, the last one first. -/
def held (options : MmsOfflineReportMonitorOptions) (frames : List MmsReportFrame) : List Bytes :=
  (recent (frames.map (·.routingKey))).take options.maximumStreams

theorem held_concat (options : MmsOfflineReportMonitorOptions) (frames : List MmsReportFrame)
    (frame : MmsReportFrame) :
    held options (frames ++ [frame]) =
      (touch frame.routingKey (held options frames)).take options.maximumStreams := by
  rw [held, List.map_append, List.map_singleton, recent_concat, held, take_touch]

theorem length_held (options : MmsOfflineReportMonitorOptions) (frames : List MmsReportFrame) :
    (held options frames).length =
      min options.maximumStreams (frames.map (·.routingKey)).dedup.length := by
  rw [held, List.length_take, length_recent]

/-- The last frames. -/
def lastFrames (count : Nat) (frames : List MmsReportFrame) : List MmsReportFrame :=
  frames.drop (frames.length - count)

theorem lastFrames_concat {count : Nat} (hpos : 0 < count) (frames : List MmsReportFrame)
    (frame : MmsReportFrame) :
    lastFrames count (lastFrames count frames ++ [frame]) =
      lastFrames count (frames ++ [frame]) := by
  have hle : (frames ++ [frame]).length - count ≤ frames.length := by
    rw [List.length_append, List.length_singleton]
    omega
  have hle' : (lastFrames count frames ++ [frame]).length - count ≤
      (lastFrames count frames).length := by
    rw [List.length_append, List.length_singleton]
    omega
  rw [lastFrames, List.drop_append_of_le_length hle', lastFrames, List.drop_drop, lastFrames,
    List.drop_append_of_le_length hle]
  congr 2
  simp only [List.length_append, List.length_drop, List.length_singleton]
  omega

section

variable {monitor : MmsOfflineReportMonitor} {order : List Bytes} {frame : MmsReportFrame}

/-- **Every other frame is taken in.** -/
theorem ingest_room (h : monitor.InOrder order) (hkey : frame.routingKey ≠ [])
    (hroom : frame.routingKey ∈ order ∨ order.length < 4096)
    (hpos : 0 < monitor.options.maximumStreams)
    (hle : order.length ≤ monitor.options.maximumStreams) :
    ∃ observation after, monitor.ingest frame = .ok (observation, after) ∧
      after.InOrder ((touch frame.routingKey order).take monitor.options.maximumStreams) ∧
      after.options = monitor.options ∧
      (∃ record, after.streams.lookup frame.routingKey = some record ∧
        record.frames = lastFrames monitor.options.maximumFramesPerStream
          (((monitor.streams.lookup frame.routingKey).getD {}).frames ++ [frame])) ∧
      ∀ key ≠ frame.routingKey, key ∈ after.streams →
        after.streams.lookup key = monitor.streams.lookup key := by
  have hobserve : ∃ observation, monitor.tracker.observe frame = .ok (observation,
      { streams := monitor.tracker.streams.insert frame.routingKey observation.state }) := by
    refine ⟨MmsReportSequenceTracker.observation frame.routingKey
      ((monitor.tracker.streams.lookup frame.routingKey).getD {}) frame, ?_⟩
    rw [MmsReportSequenceTracker.observe, if_neg hkey, if_neg]
    rintro ⟨hnone, hfull⟩
    rw [length_keys h.nodup h.tracker] at hfull
    change 4096 ≤ order.length at hfull
    rcases hroom with hmem | hlt
    · have hsome := AList.lookup_isSome.mpr ((h.tracker _).mpr hmem)
      rw [Option.isNone_iff_eq_none.mp hnone] at hsome
      exact Bool.noConfusion hsome
    · omega
  obtain ⟨observation, hobserve⟩ := hobserve
  have hrecorded := inOrder_recordFrame h frame observation.state observation.state
  have hlength : (touch frame.routingKey order).length ≤ monitor.options.maximumStreams + 1 :=
    (length_touch_le _ _).trans (Nat.succ_le_succ hle)
  obtain ⟨horder, hoptions, hlookup⟩ := inOrder_enforceStreamLimit hrecorded hpos hlength
  have hfirst : frame.routingKey ∈
      (touch frame.routingKey order).take monitor.options.maximumStreams := by
    obtain ⟨room, hroom⟩ := Nat.exists_eq_succ_of_ne_zero hpos.ne'
    rw [hroom, touch, List.take_succ_cons]
    exact List.mem_cons_self
  have hrecord := hlookup _ hfirst
  rw [recordFrame, AList.lookup_insert] at hrecord
  refine ⟨observation, _, ?_, horder, hoptions, ⟨_, hrecord, rfl⟩, fun key hne hmem => ?_⟩
  · rw [ingest, hobserve]
    rfl
  · rw [hlookup _ ((horder.streams key).mp hmem), recordFrame]
    exact AList.lookup_insert_ne hne

end

/-! ## Runs -/

/-- The stream was not held after the frames `past`, and has been held since. -/
structure HeldSince (options : MmsOfflineReportMonitorOptions) (past since : List MmsReportFrame)
    (key : Bytes) : Prop where
  opened : key ∉ held options past
  kept : ∀ front, front <+: since → front ≠ [] → key ∈ held options (past ++ front)

/-- What is known of the monitor after the frames. -/
structure Knows (options : MmsOfflineReportMonitorOptions) (frames : List MmsReportFrame)
    (monitor : MmsOfflineReportMonitor) : Prop where
  inOrder : monitor.InOrder (held options frames)
  sameOptions : monitor.options = options
  frames : ∀ key record, monitor.streams.lookup key = some record →
    ∃ past since, frames = past ++ since ∧ HeldSince options past since key ∧
      record.frames = lastFrames options.maximumFramesPerStream
        (since.filter fun frame => frame.routingKey == key)

section

variable {options : MmsOfflineReportMonitorOptions} {monitor : MmsOfflineReportMonitor}
  {frames : List MmsReportFrame}

/-- A stream that is held after one more frame. -/
theorem HeldSince.concat {past since : List MmsReportFrame} {key : Bytes} {frame : MmsReportFrame}
    (h : HeldSince options past since key)
    (hheld : key ∈ held options (past ++ (since ++ [frame]))) :
    HeldSince options past (since ++ [frame]) key := by
  refine ⟨h.opened, fun front hfront hne => ?_⟩
  rcases List.prefix_concat_iff.mp hfront with rfl | hfront
  · exact hheld
  · exact h.kept front hfront hne

/-- **One more frame.** -/
theorem Knows.concat (h : Knows options frames monitor) {frame : MmsReportFrame}
    (hstreams : 0 < options.maximumStreams) (hframes : 0 < options.maximumFramesPerStream)
    (hkey : frame.routingKey ≠ [])
    (hroom : frame.routingKey ∈ held options frames ∨ (held options frames).length < 4096) :
    ∃ observation after, monitor.ingest frame = .ok (observation, after) ∧
      Knows options (frames ++ [frame]) after := by
  have hle : (held options frames).length ≤ options.maximumStreams := by
    rw [length_held]
    exact Nat.min_le_left _ _
  have hoptions := h.sameOptions
  obtain ⟨observation, after, hingest, horder, hsame, ⟨record, hrecord, hrecorded⟩, hothers⟩ :=
    ingest_room h.inOrder hkey hroom (hoptions ▸ hstreams) (hoptions ▸ hle)
  rw [hoptions] at horder hsame hrecorded
  rw [← held_concat] at horder
  refine ⟨observation, after, hingest, horder, hsame, fun key record' hrecord' => ?_⟩
  have hheld : key ∈ held options (frames ++ [frame]) :=
    (horder.streams key).mp (AList.lookup_isSome.mp (hrecord' ▸ rfl))
  rcases eq_or_ne key frame.routingKey with rfl | hne
  · obtain rfl := Option.some.inj (hrecord.symm.trans hrecord')
    rw [hrecorded]
    cases hbefore : monitor.streams.lookup frame.routingKey with
    | none =>
      -- the stream is opened by this frame
      have hopened : frame.routingKey ∉ held options frames := fun hmem => by
        have hsome := AList.lookup_isSome.mpr ((h.inOrder.streams _).mpr hmem)
        rw [hbefore] at hsome
        exact Bool.noConfusion hsome
      refine ⟨frames, [frame], rfl, ⟨hopened, fun front hfront hne => ?_⟩, by simp⟩
      obtain rfl : front = [frame] := by
        rcases List.prefix_cons_iff.mp hfront with hnil | ⟨rest, rfl, hrest⟩
        · exact absurd hnil hne
        · rw [List.prefix_nil.mp hrest]
      exact hheld
    | some before =>
      obtain ⟨past, since, rfl, hsince, hbeforeFrames⟩ := h.frames _ _ hbefore
      refine ⟨past, since ++ [frame], by simp, hsince.concat (by simpa using hheld), ?_⟩
      rw [Option.getD_some, hbeforeFrames, lastFrames_concat hframes, List.filter_append]
      simp
  · rw [hothers key hne ((horder.streams key).mpr hheld)] at hrecord'
    obtain ⟨past, since, rfl, hsince, hkept⟩ := h.frames _ _ hrecord'
    refine ⟨past, since ++ [frame], by simp, hsince.concat (by simpa using hheld), ?_⟩
    rw [hkept, List.filter_append]
    simp [hne.symm]

/-- How many streams were reported. -/
def distinct (frames : List MmsReportFrame) : Nat := (frames.map (·.routingKey)).dedup.length

end

end MmsOfflineReportMonitor

end ArStack.Mms
