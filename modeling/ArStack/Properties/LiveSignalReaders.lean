import Mathlib.Algebra.BigOperators.Group.Finset.Piecewise
import Mathlib.Data.Fintype.Card
import ArStack.Lib.History
import ArStack.SampledValues.LiveSignalReaders

/-!
# Snapshots are never torn

* `versions` — the states that were active so far
* `SnapshotSafe` — what holds of a step, given the steps before it
* `ReaderInv` — a reader that copies a bank keeps the writer away from it
* `snapshots_never_torn` — every interleaving with fewer than 2^32 readers
* `snapshot_torn` — the counters of the pins come round
-/

namespace ArStack.SampledValues

open ArStack.Lib

/-! ## The states that were active -/

/-- The states with consecutive generations. -/
def numberFrom : UInt64 → List SvLiveSignalState → List SvLiveSignalState
  | _, [] => []
  | generation, state :: states => { state with generation } :: numberFrom (generation + 1) states

abbrev LiveStep (Reader Cell Value : Type) :=
  Step (LiveBank Reader Cell Value) (LiveEvent Reader Cell) (LiveAnswer Reader)

section

variable {Reader Cell Value : Type}

/-- The state that a step makes the active one. -/
def publishedBy (t : LiveStep Reader Cell Value) : Option SvLiveSignalState :=
  match t.output with
  | .published state => some state
  | _ => Option.none

/-- The states that were active so far, oldest first. -/
def versions (steps : List (LiveStep Reader Cell Value)) : List SvLiveSignalState :=
  SvLiveSignalBank.defaultState :: numberFrom 1 (steps.filterMap publishedBy)

/-- The reader's current call is the one of this step. -/
def InCall (reader : Reader) (steps earlier : List (LiveStep Reader Cell Value)) : Prop :=
  ∃ call since, steps = earlier ++ call :: since ∧ call.output = .called reader ∧
    ∀ t ∈ since, t.output ≠ .called reader ∧ ∀ state, t.output ≠ .returned reader state

/-- The writer loads the reader count of a bank that a reader has pinned. -/
def FindsPinned (bank : Fin 4) (t : LiveStep Reader Cell Value) : Prop :=
  t.event = .next ∧
    (∃ requested current, t.before.writer = .scanning requested current bank) ∧
    ∃ reader, (t.before.readers reader).pinned = some bank

/-- What holds of a step, given the steps before it. -/
structure SnapshotSafe (rep : Representation Cell Value) (past : List (LiveStep Reader Cell Value))
    (t : LiveStep Reader Cell Value) : Prop where
  /-- A snapshot was active at some moment of the call. -/
  whole : ∀ reader state, t.output = .returned reader state → ∃ earlier v,
    InCall reader past earlier ∧ (versions earlier).length ≤ v + 1 ∧
      (versions past)[v]? = some state
  /-- A reader does not go back. -/
  monotone : ∀ reader state earlier t' since state', t.output = .returned reader state →
    past = earlier ++ t' :: since → t'.output = .returned reader state' → ∃ v' v, v' ≤ v ∧
      (versions past)[v']? = some state' ∧ state'.generation = UInt64.ofNat v' ∧
      (versions past)[v]? = some state ∧ state.generation = UInt64.ofNat v
  consecutive : ∀ requested, t.output = .published requested →
    rep.decode (t.after.banks t.after.activeIndex) =
      { requested with
        generation := (rep.decode (t.before.banks t.before.activeIndex)).generation + 1 }
  refused : ∀ requested, t.output = .refused requested →
    SvLiveSignalBank.validate requested = false ∨ ∃ earlier call since,
      past = earlier ++ call :: since ∧ call.output = .requested requested ∧
      (∀ r ∈ since, ∀ state, r.output ≠ .requested state) ∧
      ∀ bank, bank ≠ t.before.activeIndex → ∃ r ∈ since, FindsPinned bank r

/-! ### The versions of a run -/

variable {past : List (LiveStep Reader Cell Value)} {t : LiveStep Reader Cell Value}

theorem numberFrom_concat (g : UInt64) (states : List SvLiveSignalState) (state : SvLiveSignalState) :
    numberFrom g (states ++ [state]) =
      numberFrom g states ++ [{ state with generation := g + UInt64.ofNat states.length }] := by
  induction states generalizing g with
  | nil =>
    rw [List.nil_append, numberFrom, numberFrom, numberFrom, List.nil_append, List.length_nil,
      show UInt64.ofNat 0 = 0 from rfl, UInt64.add_zero]
  | cons first states ih =>
    rw [List.cons_append, numberFrom, ih, numberFrom, List.cons_append, List.length_cons,
      UInt64.ofNat_add, UInt64.add_assoc, UInt64.add_comm 1]
    rfl

theorem length_numberFrom (g : UInt64) (states : List SvLiveSignalState) :
    (numberFrom g states).length = states.length := by
  induction states generalizing g with
  | nil => rfl
  | cons first states ih => rw [numberFrom, List.length_cons, List.length_cons, ih]

theorem generation_numberFrom {g : UInt64} {states : List SvLiveSignalState} {k : Nat}
    {state : SvLiveSignalState} (h : (numberFrom g states)[k]? = some state) :
    state.generation = g + UInt64.ofNat k := by
  induction states generalizing g k with
  | nil => simp [numberFrom] at h
  | cons first states ih =>
    rw [numberFrom] at h
    cases k with
    | zero =>
      obtain rfl : _ = state := Option.some.inj h
      exact (UInt64.add_zero g).symm
    | succ k =>
      rw [ih (by simpa using h), UInt64.ofNat_add, UInt64.add_assoc, UInt64.add_comm 1]
      rfl

/-- **The generation of a version is its number.** -/
theorem generation_version {v : Nat} {state : SvLiveSignalState}
    (h : (versions past)[v]? = some state) : state.generation = UInt64.ofNat v := by
  rw [versions] at h
  cases v with
  | zero =>
    obtain rfl : _ = state := Option.some.inj h
    rfl
  | succ v =>
    rw [generation_numberFrom (g := 1) (by simpa using h), UInt64.ofNat_add, UInt64.add_comm]
    rfl

theorem versions_concat_none (h : publishedBy t = none) :
    versions (past ++ [t]) = versions past := by
  rw [versions, versions, List.filterMap_append, List.filterMap_cons_none h, List.filterMap_nil,
    List.append_nil]

theorem versions_concat_some {state : SvLiveSignalState} (h : publishedBy t = some state) :
    versions (past ++ [t]) =
      versions past ++ [{ state with generation := UInt64.ofNat (versions past).length }] := by
  rw [versions, versions, List.filterMap_append, List.filterMap_cons_some h, List.filterMap_nil,
    numberFrom_concat, List.length_cons, length_numberFrom, UInt64.ofNat_add, UInt64.add_comm]
  rfl

theorem versions_extend (past since : List (LiveStep Reader Cell Value)) :
    versions past <+: versions (past ++ since) := by
  induction since using List.reverseRecOn with
  | nil => rw [List.append_nil]
  | append_singleton since t ih =>
    rw [← List.append_assoc]
    cases h : publishedBy t with
    | none => rwa [versions_concat_none h]
    | some state =>
      rw [versions_concat_some h]
      exact ih.trans (List.prefix_append _ _)

theorem version_append {v : Nat} {state : SvLiveSignalState} (h : (versions past)[v]? = some state)
    (since : List (LiveStep Reader Cell Value)) : (versions (past ++ since))[v]? = some state := by
  obtain ⟨rest, heq⟩ := versions_extend past since
  rw [← heq]
  exact List.getElem?_append_left (List.getElem?_eq_some_iff.mp h).1 |>.trans h

/-- A version that is known is one of those so far. -/
theorem lt_of_version {v : Nat} {state : SvLiveSignalState} (h : (versions past)[v]? = some state) :
    v < (versions past).length := (List.getElem?_eq_some_iff.mp h).1

end

/-! ## One step -/

section

variable {Reader Cell Value : Type} [DecidableEq Reader] [DecidableEq Cell] [DecidableEq Value]
  [Fintype Cell] {rep : Representation Cell Value}

/-- What a step does. -/
inductive Move (rep : Representation Cell Value) (s : LiveBank Reader Cell Value) :
    LiveEvent Reader Cell → LiveAnswer Reader → LiveBank Reader Cell Value → Prop where
  | disabled (e : LiveEvent Reader Cell) : Move rep s e .none s
  | call {r : Reader} (hreader : s.readers r = .idle) :
      Move rep s (.snapshot r) (.called r) (s.setReader r .loading)
  | load {r : Reader} (hreader : s.readers r = .loading) :
      Move rep s (.read r) .none (s.setReader r (.pinning s.activeIndex))
  | pin {r : Reader} {index : Fin 4} (hreader : s.readers r = .pinning index) :
      Move rep s (.read r) .none ((s.pin index).setReader r (.checking index))
  | miss {r : Reader} {index : Fin 4} (hreader : s.readers r = .checking index) :
      Move rep s (.read r) .none (s.setReader r (.unpinning index))
  | hit {r : Reader} (hreader : s.readers r = .checking s.activeIndex) :
      Move rep s (.read r) .none (s.setReader r (.copying s.activeIndex fun _ => none))
  | unpin {r : Reader} {index : Fin 4} (hreader : s.readers r = .unpinning index) :
      Move rep s (.read r) .none ((s.unpin index).setReader r .loading)
  | copy {r : Reader} {index : Fin 4} {copied : Cell → Option Value} (cell : Cell)
      (hreader : s.readers r = .copying index copied) :
      Move rep s (.copy r cell) .none
        (s.setReader r (.copying index (Function.update copied cell (some (s.banks index cell)))))
  | copied {r : Reader} {index : Fin 4} {copied : Cell → Option Value} {image : Cell → Value}
      (hreader : s.readers r = .copying index copied) (himage : ∀ cell, copied cell = some (image cell)) :
      Move rep s (.read r) .none (s.setReader r (.releasing index (rep.decode image)))
  | release {r : Reader} {index : Fin 4} {copy : SvLiveSignalState}
      (hreader : s.readers r = .releasing index copy) :
      Move rep s (.read r) (.returned r copy) ((s.unpin index).setReader r .idle)
  | invalid {requested : SvLiveSignalState} (hvalid : SvLiveSignalBank.validate requested = false) :
      Move rep s (.publish requested) (.refused requested) s
  | request {requested : SvLiveSignalState} (hwriter : s.writer = .idle) :
      Move rep s (.publish requested) (.requested requested) (s.setWriter (.loading requested))
  | start {requested : SvLiveSignalState} (hwriter : s.writer = .loading requested) :
      Move rep s .next .none (s.setWriter (.scanning requested s.activeIndex 0))
  | skip {requested : SvLiveSignalState} {current bank : Fin 4}
      (hwriter : s.writer = .scanning requested current bank)
      (hbank : bank = current ∨ s.readerCounts bank ≠ 0) :
      Move rep s .next .none (s.setWriter (.scanning requested current (bank + 1)))
  | free {requested : SvLiveSignalState} {current bank : Fin 4}
      (hwriter : s.writer = .scanning requested current bank) (hne : bank ≠ current)
      (hzero : s.readerCounts bank = 0) :
      Move rep s .next .none (s.setWriter (.writing requested current bank))
  | exhausted {requested : SvLiveSignalState} {current : Fin 4} {candidate : Nat}
      (hwriter : s.writer = .scanning requested current candidate) (hall : 4 ≤ candidate) :
      Move rep s .next (.refused requested) (s.setWriter .idle)
  | write {requested : SvLiveSignalState} {current next : Fin 4} {cell : Cell} {value : Value}
      (hwriter : s.writer = .writing requested current next ∨
        s.writer = .numbering requested current next) :
      Move rep s (.write cell) .none (s.writeCell next cell value)
  | written {requested : SvLiveSignalState} {current next : Fin 4}
      (hwriter : s.writer = .writing requested current next) :
      Move rep s .next .none (s.setWriter (.numbering requested current next))
  | numbered {requested : SvLiveSignalState} {current next : Fin 4}
      (hwriter : s.writer = .numbering requested current next)
      (hbank : s.banks next = rep.cells (s.numbered rep requested current)) :
      Move rep s .next .none (s.setWriter (.storing requested next))
  | store {requested : SvLiveSignalState} {next : Fin 4} (hwriter : s.writer = .storing requested next) :
      Move rep s .next (.published requested) { s.setWriter .idle with activeIndex := next }

omit [DecidableEq Value] in
theorem move_read (s : LiveBank Reader Cell Value) (r : Reader) :
    Move rep s (.read r) (s.read rep r).1 (s.read rep r).2 := by
  rw [LiveBank.read]
  split
  case h_1 => exact .disabled _
  case h_2 hreader => exact .load hreader
  case h_3 hreader => exact .pin hreader
  case h_4 hreader =>
    split
    · exact .miss hreader
    · rename_i hactive
      obtain rfl := not_not.mp hactive
      exact .hit hreader
  case h_5 hreader => exact .unpin hreader
  case h_6 copied hreader =>
    split
    · exact .copied hreader fun cell => (Option.some_get _).symm
    · exact .disabled _
  case h_7 hreader => exact .release hreader

theorem move_next (s : LiveBank Reader Cell Value) :
    Move rep s .next (s.next rep).1 (s.next rep).2 := by
  rw [LiveBank.next]
  split
  case h_1 => exact .disabled _
  case h_2 hwriter => exact .start hwriter
  case h_3 requested current candidate hwriter =>
    split
    · rename_i hlt
      split
      · rename_i hfree
        exact @Move.free _ _ _ _ _ _ _ _ _ ⟨candidate, hlt⟩ hwriter hfree.1 hfree.2
      · rename_i hnot
        refine @Move.skip _ _ _ _ _ _ _ _ _ ⟨candidate, hlt⟩ hwriter ?_
        rw [not_and_or, not_not] at hnot
        exact hnot
    · rename_i hge
      exact .exhausted hwriter (Nat.not_lt.mp hge)
  case h_4 hwriter =>
    split
    · exact .written hwriter
    · exact .disabled _
  case h_5 hwriter =>
    split
    · rename_i hbank
      exact .numbered hwriter hbank
    · exact .disabled _
  case h_6 hwriter => exact .store hwriter

theorem move_step (s : LiveBank Reader Cell Value) (e : LiveEvent Reader Cell) :
    Move rep s e (s.step rep e).1 (s.step rep e).2 := by
  cases e with
  | read r => exact move_read s r
  | next => exact move_next s
  | snapshot r =>
    rw [LiveBank.step]
    split
    · rename_i hreader
      exact .call hreader
    · exact .disabled _
  | copy r cell =>
    rw [LiveBank.step]
    split
    · rename_i hreader
      exact .copy cell hreader
    · exact .disabled _
  | publish requested =>
    rw [LiveBank.step]
    split
    · rename_i hwriter
      split
      · exact .request hwriter
      · rename_i hvalid
        exact .invalid (by simpa using hvalid)
    · exact .disabled _
  | write cell =>
    rw [LiveBank.step]
    split
    · rename_i hwriter
      exact .write (.inl hwriter)
    · rename_i hwriter
      exact .write (.inr hwriter)
    · exact .disabled _

/-! ## The invariants -/

/-- The bank that the writer changes. -/
def WriterState.target : WriterState → Option (Fin 4)
  | .writing _ _ next => some next
  | .numbering _ _ next => some next
  | .storing _ next => some next
  | _ => none

/-- The active bank holds the last version, and the writer keeps away from it. -/
structure WriterInv (rep : Representation Cell Value) (past : List (LiveStep Reader Cell Value))
    (s : LiveBank Reader Cell Value) : Prop where
  active : ∃ last, (versions past).getLast? = some last ∧ s.banks s.activeIndex = rep.cells last
  target : s.writer.target ≠ some s.activeIndex
  scanning : ∀ requested current candidate, s.writer = .scanning requested current candidate →
    current = s.activeIndex
  writing : ∀ requested current next,
    s.writer = .writing requested current next ∨ s.writer = .numbering requested current next →
    current = s.activeIndex
  storing : ∀ requested next, s.writer = .storing requested next →
    s.banks next = rep.cells (s.numbered rep requested s.activeIndex)

variable {past : List (LiveStep Reader Cell Value)} {s s' : LiveBank Reader Cell Value}
  {e : LiveEvent Reader Cell} {answer : LiveAnswer Reader} {t : LiveStep Reader Cell Value}

omit [DecidableEq Reader] [DecidableEq Cell] [DecidableEq Value] [Fintype Cell] in
/-- Steps that neither write nor publish. -/
theorem WriterInv.frame (h : WriterInv rep past s) (hnone : publishedBy t = none)
    (hbanks : s'.banks = s.banks) (hactive : s'.activeIndex = s.activeIndex)
    (hwriter : s'.writer = s.writer) : WriterInv rep (past ++ [t]) s' := by
  refine ⟨?_, ?_, ?_, ?_, ?_⟩
  · rw [versions_concat_none hnone, hbanks, hactive]
    exact h.active
  · rw [hwriter, hactive]
    exact h.target
  · rw [hwriter, hactive]
    exact h.scanning
  · rw [hwriter, hactive]
    exact h.writing
  · rw [hwriter, hactive, hbanks]
    intro requested next hstoring
    rw [h.storing requested next hstoring, LiveBank.numbered, LiveBank.numbered, hbanks]

/-- The number of the readers that have pinned a bank. -/
def pinCount [Fintype Reader] (s : LiveBank Reader Cell Value) (index : Fin 4) : Nat :=
  (Finset.univ.filter fun r => (s.readers r).pinned = some index).card

/-- The counters count the readers, in 32 bits. -/
def CountInv [Fintype Reader] (s : LiveBank Reader Cell Value) : Prop :=
  ∀ index, s.readerCounts index = UInt32.ofNat (pinCount s index)

/-- The version that a reader returns was active in its call. -/
def Reads (reader : Reader) (past : List (LiveStep Reader Cell Value)) (state : SvLiveSignalState) :
    Prop :=
  ∃ earlier v, InCall reader past earlier ∧ (versions earlier).length ≤ v + 1 ∧
    (versions past)[v]? = some state

/-- A reader that copies a bank keeps the writer away from it. -/
structure ReaderInv (rep : Representation Cell Value) (past : List (LiveStep Reader Cell Value))
    (s : LiveBank Reader Cell Value) (r : Reader) : Prop where
  call : s.readers r ≠ .idle → ∃ earlier, InCall r past earlier
  copying : ∀ index copied, s.readers r = .copying index copied →
    s.writer.target ≠ some index ∧ ∃ state, Reads r past state ∧ s.banks index = rep.cells state ∧
      ∀ cell value, copied cell = some value → value = rep.cells state cell
  releasing : ∀ index copy, s.readers r = .releasing index copy → Reads r past copy

/-- The writer has found the banks pinned that it has examined. -/
structure ScanInv (past : List (LiveStep Reader Cell Value)) (s : LiveBank Reader Cell Value) :
    Prop where
  loading : ∀ requested, s.writer = .loading requested → ∃ earlier call since,
    past = earlier ++ call :: since ∧ call.output = .requested requested ∧
      ∀ r ∈ since, ∀ state, r.output ≠ .requested state
  scanning : ∀ requested current candidate, s.writer = .scanning requested current candidate →
    ∃ earlier call since, past = earlier ++ call :: since ∧ call.output = .requested requested ∧
      (∀ r ∈ since, ∀ state, r.output ≠ .requested state) ∧
      ∀ bank : Fin 4, bank < candidate → bank ≠ current → ∃ r ∈ since, FindsPinned bank r

omit [DecidableEq Reader] [DecidableEq Cell] [DecidableEq Value] [Fintype Cell] in
/-- The writer goes on without writing. -/
theorem WriterInv.goOn (h : WriterInv rep past s) (hnone : publishedBy t = none)
    {writer : WriterState} (htarget : writer.target ≠ some s.activeIndex)
    (hscanning : ∀ requested current candidate, writer = .scanning requested current candidate →
      current = s.activeIndex)
    (hwriting : ∀ requested current next,
      writer = .writing requested current next ∨ writer = .numbering requested current next →
      current = s.activeIndex)
    (hstoring : ∀ requested next, writer = .storing requested next →
      s.banks next = rep.cells (s.numbered rep requested s.activeIndex)) :
    WriterInv rep (past ++ [t]) (s.setWriter writer) := by
  refine ⟨?_, htarget, hscanning, hwriting, hstoring⟩
  rw [versions_concat_none hnone]
  exact h.active

omit [DecidableEq Value] [Fintype Cell] in
theorem writerInv_step (h : WriterInv rep past s) (hmove : Move rep s e answer s')
    (houtput : t.output = answer) : WriterInv rep (past ++ [t]) s' := by
  have hnone (hanswer : ∀ state, answer ≠ .published state) : publishedBy t = none := by
    rw [publishedBy, houtput]
    split
    · rename_i state
      exact absurd rfl (hanswer state)
    · rfl
  cases hmove with
  | disabled | call | load | pin | miss | hit | unpin | copy | copied | release | invalid =>
    exact h.frame (hnone fun _ h => by cases h) rfl rfl rfl
  | request | exhausted =>
    refine h.goOn (hnone fun _ h => by cases h) (fun h => by cases h) ?_ ?_ ?_ <;> grind
  | start hwriter =>
    refine h.goOn (hnone fun _ h => by cases h) (fun h => by cases h) ?_ ?_ ?_ <;> grind
  | skip hwriter =>
    have := h.scanning _ _ _ hwriter
    refine h.goOn (hnone fun _ h => by cases h) (fun h => by cases h) ?_ ?_ ?_ <;> grind
  | free hwriter hne =>
    have hcurrent := h.scanning _ _ _ hwriter
    refine h.goOn (hnone fun _ h => by cases h) ?_ ?_ ?_ ?_
    · exact fun heq => hne ((Option.some.inj heq).trans hcurrent.symm)
    all_goals grind
  | @written requested current next hwriter =>
    have htarget := h.target
    rw [hwriter] at htarget
    have hcurrent := h.writing requested current next (.inl hwriter)
    refine h.goOn (hnone fun _ h => by cases h) htarget ?_ ?_ ?_ <;> grind
  | @numbered requested current next hwriter hbank =>
    have htarget := h.target
    rw [hwriter] at htarget
    have hcurrent := h.writing requested current next (.inr hwriter)
    refine h.goOn (hnone fun _ h => by cases h) htarget ?_ ?_ ?_ <;> grind
  | @write requested current next cell value hwriter =>
    -- the writer changes a bank that is not active
    have htarget : next ≠ s.activeIndex := by
      have htarget := h.target
      rcases hwriter with hwriter | hwriter <;> rw [hwriter] at htarget <;>
        exact fun heq => htarget (congrArg some heq)
    refine ⟨?_, h.target, h.scanning, h.writing, fun requested' next' hstoring => ?_⟩
    · rw [versions_concat_none (hnone fun _ h => by cases h)]
      obtain ⟨last, hlast, hbank⟩ := h.active
      refine ⟨last, hlast, ?_⟩
      rw [← hbank]
      exact Function.update_of_ne htarget.symm _ _
    · rcases hwriter with hwriter | hwriter <;> rw [LiveBank.writeCell, hwriter] at hstoring <;>
        cases hstoring
  | @store requested next hwriter =>
    obtain ⟨last, hlast, hbank⟩ := h.active
    have hstored := h.storing requested next hwriter
    have hpublished : publishedBy t = some requested := by
      rw [publishedBy, houtput]
    have hlen : (versions past).length ≠ 0 := fun hzero => by
      rw [List.eq_nil_of_length_eq_zero hzero] at hlast
      cases hlast
    refine ⟨⟨_, by rw [versions_concat_some hpublished, List.getLast?_concat], ?_⟩, ?_, ?_, ?_, ?_⟩
    · show s.banks next = _
      have hgeneration := generation_version
        (by rwa [← List.getLast?_eq_getElem?] : (versions past)[(versions past).length - 1]? = _)
      rw [hstored, LiveBank.numbered, hbank, rep.decode_cells, hgeneration]
      have hsucc : (versions past).length = (versions past).length - 1 + 1 := by omega
      conv_rhs => rw [hsucc, UInt64.ofNat_add]
      rfl
    · exact fun h => by cases h
    · exact fun _ _ _ h => by cases h
    · rintro _ _ _ (h | h) <;> cases h
    · exact fun _ _ h => by cases h

section Count

variable [Fintype Reader]

omit [DecidableEq Cell] [DecidableEq Value] [Fintype Cell] in
/-- One reader moves on. -/
theorem pinCount_setReader (s : LiveBank Reader Cell Value) (r : Reader)
    (state : ReaderState Cell Value) (index : Fin 4) :
    pinCount (s.setReader r state) index + (if (s.readers r).pinned = some index then 1 else 0) =
      pinCount s index + if state.pinned = some index then 1 else 0 := by
  have hself : (s.setReader r state).readers r = state := Function.update_self _ _ _
  have hothers : ∀ x ∈ Finset.univ.erase r,
      (if ((s.setReader r state).readers x).pinned = some index then 1 else 0) =
        if (s.readers x).pinned = some index then 1 else 0 := by
    intro x hx
    rw [show (s.setReader r state).readers x = s.readers x from
      Function.update_of_ne (Finset.ne_of_mem_erase hx) _ _]
  have hsplit (f : Reader → Nat) := Finset.add_sum_erase Finset.univ f (Finset.mem_univ r)
  rw [pinCount, pinCount, Finset.card_filter, Finset.card_filter, ← hsplit,
    ← hsplit fun x => if (s.readers x).pinned = some index then 1 else 0, hself,
    Finset.sum_congr rfl hothers]
  omega

omit [DecidableEq Cell] [DecidableEq Value] [Fintype Cell] in
/-- A reader that keeps its pin, or has none. -/
theorem CountInv.keep (h : CountInv s) {r : Reader} {state : ReaderState Cell Value}
    (hsame : state.pinned = (s.readers r).pinned) : CountInv (s.setReader r state) := by
  intro index
  have hcount := pinCount_setReader s r state index
  rw [hsame] at hcount
  rw [show pinCount (s.setReader r state) index = pinCount s index by omega]
  exact h index

omit [DecidableEq Cell] [DecidableEq Value] [Fintype Cell] in
theorem CountInv.pin (h : CountInv s) {r : Reader} {state : ReaderState Cell Value} {index : Fin 4}
    (hbefore : (s.readers r).pinned = none) (hafter : state.pinned = some index) :
    CountInv ((s.pin index).setReader r state) := by
  intro other
  have hcount := pinCount_setReader (s.pin index) r state other
  rw [show (s.pin index).readers r = s.readers r from rfl, hbefore, hafter] at hcount
  rw [show pinCount (s.pin index) other = pinCount s other from rfl] at hcount
  show Function.update s.readerCounts index (s.readerCounts index + 1) other = _
  by_cases hother : other = index
  · subst hother
    rw [if_neg (fun h => by cases h), if_pos rfl] at hcount
    rw [Nat.add_zero] at hcount
    rw [Function.update_self, h other, hcount, UInt32.ofNat_add]
    rfl
  · rw [if_neg (fun h => by cases h), if_neg (fun h => hother (Option.some.inj h).symm)] at hcount
    rw [Nat.add_zero, Nat.add_zero] at hcount
    rw [Function.update_of_ne hother, h other, hcount]

omit [DecidableEq Cell] [DecidableEq Value] [Fintype Cell] in
theorem CountInv.unpin (h : CountInv s) {r : Reader} {state : ReaderState Cell Value}
    {index : Fin 4} (hbefore : (s.readers r).pinned = some index) (hafter : state.pinned = none) :
    CountInv ((s.unpin index).setReader r state) := by
  intro other
  have hcount := pinCount_setReader (s.unpin index) r state other
  rw [show (s.unpin index).readers r = s.readers r from rfl, hbefore, hafter] at hcount
  rw [show pinCount (s.unpin index) other = pinCount s other from rfl] at hcount
  show Function.update s.readerCounts index (s.readerCounts index - 1) other = _
  by_cases hother : other = index
  · subst hother
    rw [if_pos rfl, if_neg (fun h => by cases h)] at hcount
    rw [Function.update_self, h other, ← Nat.add_zero (pinCount s other), ← hcount,
      UInt32.ofNat_add]
    exact UInt32.add_sub_cancel _ _
  · rw [if_neg (fun h => hother (Option.some.inj h).symm), if_neg (fun h => by cases h)] at hcount
    rw [Function.update_of_ne hother, h other, ← Nat.add_zero (pinCount s other), ← hcount]
    rfl

omit [DecidableEq Value] [Fintype Cell] in
theorem countInv_step (h : CountInv s) (hmove : Move rep s e answer s') : CountInv s' := by
  cases hmove with
  | call hreader | load hreader | miss hreader | hit hreader | copy cell hreader
  | copied hreader => exact h.keep (by rw [hreader]; rfl)
  | pin hreader => exact h.pin (by rw [hreader]; rfl) rfl
  | unpin hreader | release hreader => exact h.unpin (by rw [hreader]; rfl) rfl
  -- the writer does not touch the counters
  | _ => exact h

end Count

/-! ### Readers -/

/-- The step neither begins nor ends a call of the reader. -/
def Quiet (t : LiveStep Reader Cell Value) (r : Reader) : Prop :=
  t.output ≠ .called r ∧ ∀ state, t.output ≠ .returned r state

omit [DecidableEq Reader] [DecidableEq Cell] [DecidableEq Value] [Fintype Cell] in
theorem inCall_concat {r : Reader} {earlier : List (LiveStep Reader Cell Value)}
    (h : InCall r past earlier) (hquiet : Quiet t r) : InCall r (past ++ [t]) earlier := by
  obtain ⟨call, since, rfl, hcalled, hsince⟩ := h
  refine ⟨call, since ++ [t], by simp, hcalled, fun x hx => ?_⟩
  rcases List.mem_append.mp hx with hx | hx
  · exact hsince x hx
  · rw [List.mem_singleton.mp hx]
    exact hquiet

omit [DecidableEq Reader] [DecidableEq Cell] [DecidableEq Value] [Fintype Cell] in
theorem Reads.concat {r : Reader} {state : SvLiveSignalState} (h : Reads r past state)
    (hquiet : Quiet t r) : Reads r (past ++ [t]) state := by
  obtain ⟨earlier, v, hcall, hlen, hversion⟩ := h
  exact ⟨earlier, v, inCall_concat hcall hquiet, hlen, version_append hversion [t]⟩

omit [DecidableEq Reader] [DecidableEq Cell] [DecidableEq Value] [Fintype Cell] in
/-- Steps of other tasks. -/
theorem ReaderInv.frame {r : Reader} (h : ReaderInv rep past s r)
    (hreader : s'.readers r = s.readers r) (hquiet : Quiet t r)
    (hbank : ∀ index copied, s.readers r = .copying index copied →
      s'.banks index = s.banks index ∧ s'.writer.target ≠ some index) :
    ReaderInv rep (past ++ [t]) s' r := by
  refine ⟨fun hcall => ?_, fun index copied hcopying => ?_, fun index copy hreleasing => ?_⟩
  · obtain ⟨earlier, hcall⟩ := h.call (hreader ▸ hcall)
    exact ⟨earlier, inCall_concat hcall hquiet⟩
  · rw [hreader] at hcopying
    obtain ⟨hsame, htarget⟩ := hbank index copied hcopying
    obtain ⟨-, state, hreads, hcells, hcopied⟩ := h.copying index copied hcopying
    exact ⟨htarget, state, hreads.concat hquiet, hsame.trans hcells, hcopied⟩
  · exact (h.releasing index copy (hreader ▸ hreleasing)).concat hquiet

omit [DecidableEq Cell] [DecidableEq Value] [Fintype Cell] in
/-- A reader goes on, in the same call. -/
theorem ReaderInv.goOn {r : Reader} (state : ReaderState Cell Value)
    (h : ∀ r, ReaderInv rep past s r) (hbanks : s'.banks = s.banks) (hwriter : s'.writer = s.writer)
    (hreaders : s'.readers = Function.update s.readers r state) (houtput : t.output = .none)
    (hbusy : s.readers r ≠ .idle)
    (hcopying : ∀ index copied, state = .copying index copied →
      s.writer.target ≠ some index ∧ ∃ state, Reads r (past ++ [t]) state ∧
        s.banks index = rep.cells state ∧
        ∀ cell value, copied cell = some value → value = rep.cells state cell)
    (hreleasing : ∀ index copy, state = .releasing index copy → Reads r (past ++ [t]) copy)
    (r' : Reader) : ReaderInv rep (past ++ [t]) s' r' := by
  have hquiet (r' : Reader) : Quiet t r' := by
    rw [Quiet, houtput]
    exact ⟨fun h => (by cases h), fun _ h => (by cases h)⟩
  by_cases hr : r' = r
  · subst hr
    have hself : s'.readers r' = state := by rw [hreaders, Function.update_self]
    refine ⟨fun _ => ?_, fun index copied hstate => ?_, fun index copy hstate => ?_⟩
    · obtain ⟨earlier, hcall⟩ := (h r').call hbusy
      exact ⟨earlier, inCall_concat hcall (hquiet r')⟩
    · rw [hbanks, hwriter]
      exact hcopying index copied (hself ▸ hstate)
    · exact hreleasing index copy (hself ▸ hstate)
  · refine (h r').frame (by rw [hreaders, Function.update_of_ne hr]) (hquiet r')
      fun index copied hcopying => ?_
    rw [hbanks, hwriter]
    exact ⟨rfl, ((h r').copying index copied hcopying).1⟩

omit [DecidableEq Reader] [DecidableEq Cell] [DecidableEq Value] [Fintype Cell] in
/-- A bank without counts has no readers, if there are fewer than the counter counts. -/
theorem not_pinned_of_zero [Fintype Reader] (hcount : CountInv s)
    (hcard : Fintype.card Reader < 2 ^ 32) {index : Fin 4} (hzero : s.readerCounts index = 0)
    (r : Reader) : (s.readers r).pinned ≠ some index := by
  intro hpinned
  have hpos : 0 < pinCount s index :=
    Finset.card_pos.mpr ⟨r, Finset.mem_filter.mpr ⟨Finset.mem_univ r, hpinned⟩⟩
  have hle : pinCount s index ≤ Fintype.card Reader := Finset.card_le_univ _
  rw [hcount index] at hzero
  have hmod := congrArg UInt32.toNat hzero
  rw [UInt32.toNat_ofNat'] at hmod
  have : (0 : UInt32).toNat = 0 := rfl
  omega

omit [DecidableEq Value] [Fintype Cell] in
theorem readerInv_step [Fintype Reader] (hcard : Fintype.card Reader < 2 ^ 32)
    (hwriter : WriterInv rep past s) (hcount : CountInv s) (h : ∀ r, ReaderInv rep past s r)
    (hmove : Move rep s e answer s') (houtput : t.output = answer) (r : Reader) :
    ReaderInv rep (past ++ [t]) s' r := by
  have hquiet (hanswer : ∀ r, answer ≠ .called r ∧ ∀ state, answer ≠ .returned r state)
      (r : Reader) : Quiet t r := by
    rw [Quiet, houtput]
    exact hanswer r
  have hkeeps (htarget : s'.writer.target = s.writer.target) (r : Reader) (index : Fin 4)
      (copied : Cell → Option Value) (hcopying : s.readers r = .copying index copied) :
      s'.writer.target ≠ some index := by
    rw [htarget]
    exact ((h r).copying index copied hcopying).1
  have hstays {r : Reader} {state : SvLiveSignalState} (hreads : Reads r past state)
      (hnone : t.output = .none) : Reads r (past ++ [t]) state := by
    refine hreads.concat ?_
    rw [Quiet, hnone]
    exact ⟨fun h => (by cases h), fun _ h => (by cases h)⟩
  cases hmove with
  | disabled =>
    refine (h r).frame rfl (hquiet (fun r => ⟨fun h => (by cases h), fun _ h => (by cases h)⟩) r)
      fun index copied hcopying => ⟨rfl, ((h r).copying index copied hcopying).1⟩
  | invalid | request hw | start hw | skip hw | exhausted hw | written hw | numbered hw =>
    refine (h r).frame rfl (hquiet (fun r => ⟨fun h => (by cases h), fun _ h => (by cases h)⟩) r)
      fun index copied hcopying => ⟨rfl, ?_⟩
    have := ((h r).copying index copied hcopying).1
    grind [LiveBank.setWriter, WriterState.target]
  | @free requested current bank hw hne hzero =>
    refine (h r).frame rfl (hquiet (fun r => ⟨fun h => (by cases h), fun _ h => (by cases h)⟩) r)
      fun index copied hcopying => ⟨rfl, fun htarget => ?_⟩
    refine not_pinned_of_zero hcount hcard hzero r ?_
    rw [hcopying]
    exact htarget.symm
  | @write requested current next cell value hw =>
    refine (h r).frame rfl (hquiet (fun r => ⟨fun h => (by cases h), fun _ h => (by cases h)⟩) r)
      fun index copied hcopying => ?_
    have htarget := ((h r).copying index copied hcopying).1
    refine ⟨Function.update_of_ne (fun heq => htarget ?_) _ _, htarget⟩
    rcases hw with hw | hw <;> rw [hw, heq] <;> rfl
  | @store requested next hw =>
    exact (h r).frame rfl (hquiet (fun r => ⟨fun h => (by cases h), fun _ h => (by cases h)⟩) r)
      fun index copied hcopying => ⟨rfl, fun h => (by cases h)⟩
  | @call r₀ hreader =>
    by_cases hr : r = r₀
    · subst hr
      have hself : (s.setReader r .loading).readers r = .loading := Function.update_self _ _ _
      refine ⟨fun _ => ⟨past, t, [], rfl, houtput, fun x hx => absurd hx List.not_mem_nil⟩,
        fun index copied hstate => ?_, fun index copy hstate => ?_⟩
      · rw [hself] at hstate
        cases hstate
      · rw [hself] at hstate
        cases hstate
    · refine (h r).frame (Function.update_of_ne hr _ _) ?_ fun index copied hcopying =>
        ⟨rfl, ((h r).copying index copied hcopying).1⟩
      rw [Quiet, houtput]
      exact ⟨fun heq => hr (LiveAnswer.called.inj heq).symm, fun _ heq => (by cases heq)⟩
  | @release r₀ index copy hreader =>
    by_cases hr : r = r₀
    · subst hr
      have hself : ((s.unpin index).setReader r .idle).readers r = .idle := Function.update_self _ _ _
      refine ⟨fun hbusy => absurd hself hbusy, fun index copied hstate => ?_,
        fun index copy hstate => ?_⟩
      · rw [hself] at hstate
        cases hstate
      · rw [hself] at hstate
        cases hstate
    · refine (h r).frame (Function.update_of_ne hr _ _) ?_ fun index copied hcopying =>
        ⟨rfl, ((h r).copying index copied hcopying).1⟩
      rw [Quiet, houtput]
      exact ⟨fun heq => (by cases heq), fun _ heq => hr (LiveAnswer.returned.inj heq).1.symm⟩
  | load hreader =>
    exact ReaderInv.goOn (.pinning s.activeIndex) h (by rfl) (by rfl) (by rfl) houtput
      (by rw [hreader]; exact fun h => (by cases h)) (fun _ _ heq => (by cases heq))
      (fun _ _ heq => (by cases heq)) r
  | @pin _ index hreader =>
    exact ReaderInv.goOn (.checking index) h (by rfl) (by rfl) (by rfl) houtput
      (by rw [hreader]; exact fun h => (by cases h)) (fun _ _ heq => (by cases heq))
      (fun _ _ heq => (by cases heq)) r
  | @miss _ index hreader =>
    exact ReaderInv.goOn (.unpinning index) h (by rfl) (by rfl) (by rfl) houtput
      (by rw [hreader]; exact fun h => (by cases h)) (fun _ _ heq => (by cases heq))
      (fun _ _ heq => (by cases heq)) r
  | unpin hreader =>
    exact ReaderInv.goOn .loading h (by rfl) (by rfl) (by rfl) houtput
      (by rw [hreader]; exact fun h => (by cases h)) (fun _ _ heq => (by cases heq))
      (fun _ _ heq => (by cases heq)) r
  | @hit r₀ hreader =>
    -- the active bank is the last version, and the writer is not at it
    refine ReaderInv.goOn (.copying s.activeIndex fun _ => none) h (by rfl) (by rfl) (by rfl) houtput
      (by rw [hreader]; exact fun h => (by cases h)) (fun index copied hstate => ?_)
      (fun index copy hstate => (by cases hstate)) r
    obtain ⟨rfl, rfl⟩ := ReaderState.copying.inj hstate
    obtain ⟨last, hlast, hbank⟩ := hwriter.active
    obtain ⟨earlier, hcall⟩ := (h r₀).call (by rw [hreader]; exact fun h => (by cases h))
    refine ⟨hwriter.target, last, ?_, hbank, fun cell value hnone => (by cases hnone)⟩
    have hpast : ∃ since, past = earlier ++ since := by
      obtain ⟨call, since, hpast, -⟩ := hcall
      exact ⟨call :: since, hpast⟩
    obtain ⟨since, hpast⟩ := hpast
    refine hstays ⟨earlier, (versions past).length - 1, hcall, ?_, ?_⟩ houtput
    · have := (versions_extend earlier since).length_le
      rw [← hpast] at this
      omega
    · rwa [← List.getLast?_eq_getElem?]
  | @copy r₀ index copied cell hreader =>
    refine ReaderInv.goOn
      (.copying index (Function.update copied cell (some (s.banks index cell)))) h (by rfl) (by rfl) (by rfl) houtput
      (by rw [hreader]; exact fun h => (by cases h)) (fun index' copied' hstate => ?_)
      (fun index copy hstate => (by cases hstate)) r
    obtain ⟨rfl, rfl⟩ := ReaderState.copying.inj hstate
    obtain ⟨htarget, state, hreads, hcells, hcopied⟩ := (h r₀).copying index copied hreader
    refine ⟨htarget, state, hstays hreads houtput, hcells, fun cell' value hvalue => ?_⟩
    by_cases hcell : cell' = cell
    · subst hcell
      rw [Function.update_self] at hvalue
      rw [← Option.some.inj hvalue, hcells]
    · rw [Function.update_of_ne hcell] at hvalue
      exact hcopied cell' value hvalue
  | @copied r₀ index copied image hreader himage =>
    refine ReaderInv.goOn (.releasing index (rep.decode image)) h (by rfl) (by rfl) (by rfl) houtput
      (by rw [hreader]; exact fun h => (by cases h)) (fun index copied hstate => (by cases hstate))
      (fun index' copy hstate => ?_) r
    obtain ⟨rfl, rfl⟩ := ReaderState.releasing.inj hstate
    obtain ⟨-, state, hreads, -, hcopied⟩ := (h r₀).copying index copied hreader
    have hstate : image = rep.cells state := funext fun cell => hcopied cell _ (himage cell)
    rw [hstate, rep.decode_cells]
    exact hstays hreads houtput

/-! ### Refusals -/

omit [DecidableEq Reader] [DecidableEq Cell] [DecidableEq Value] [Fintype Cell] in
/-- Steps of the readers. -/
theorem ScanInv.frame (h : ScanInv past s) (hwriter : s'.writer = s.writer)
    (hquiet : ∀ state, t.output ≠ .requested state) : ScanInv (past ++ [t]) s' := by
  have hsince {since : List (LiveStep Reader Cell Value)}
      (hold : ∀ r ∈ since, ∀ state, r.output ≠ .requested state) :
      ∀ r ∈ since ++ [t], ∀ state, r.output ≠ .requested state := by
    intro r hr
    rcases List.mem_append.mp hr with hr | hr
    · exact hold r hr
    · rw [List.mem_singleton.mp hr]
      exact hquiet
  refine ⟨fun requested hloading => ?_, fun requested current candidate hscanning => ?_⟩
  · obtain ⟨earlier, call, since, rfl, hcall, hold⟩ := h.loading requested (hwriter ▸ hloading)
    exact ⟨earlier, call, since ++ [t], by simp, hcall, hsince hold⟩
  · obtain ⟨earlier, call, since, rfl, hcall, hold, hfound⟩ :=
      h.scanning requested current candidate (hwriter ▸ hscanning)
    refine ⟨earlier, call, since ++ [t], by simp, hcall, hsince hold, fun bank hlt hne => ?_⟩
    obtain ⟨r, hr, hfinds⟩ := hfound bank hlt hne
    exact ⟨r, List.mem_append_left _ hr, hfinds⟩

omit [DecidableEq Reader] [DecidableEq Cell] [DecidableEq Value] [Fintype Cell] in
/-- The writer is neither before nor in its search. -/
theorem ScanInv.other (hloading : ∀ requested, s'.writer ≠ .loading requested)
    (hscanning : ∀ requested current candidate, s'.writer ≠ .scanning requested current candidate) :
    ScanInv (past ++ [t]) s' :=
  ⟨fun requested h => absurd h (hloading requested),
    fun requested current candidate h => absurd h (hscanning requested current candidate)⟩

omit [DecidableEq Value] [Fintype Cell] in
theorem scanInv_step [Fintype Reader] (hcount : CountInv s) (h : ScanInv past s)
    (hmove : Move rep s e answer s') (hevent : t.event = e) (hbefore : t.before = s)
    (houtput : t.output = answer) : ScanInv (past ++ [t]) s' := by
  have hquiet (hanswer : ∀ state, answer ≠ .requested state) :
      ∀ state, t.output ≠ .requested state := by
    rw [houtput]
    exact hanswer
  cases hmove with
  | disabled | call | load | pin | miss | hit | unpin | copy | copied | release | invalid =>
    exact h.frame rfl (hquiet fun _ h => (by cases h))
  | free | exhausted | written | numbered | store =>
    exact ScanInv.other (fun _ h => (by cases h)) fun _ _ _ h => (by cases h)
  | write => exact h.frame rfl (hquiet fun _ h => (by cases h))
  | @request requested hwriter =>
    refine ⟨fun requested' hloading => ?_, fun _ _ _ h => (by cases h)⟩
    obtain rfl := WriterState.loading.inj hloading
    exact ⟨past, t, [], rfl, houtput, fun r hr => absurd hr List.not_mem_nil⟩
  | @start requested hwriter =>
    refine ⟨fun _ h => (by cases h), fun requested' current candidate hscanning => ?_⟩
    obtain ⟨rfl, rfl, rfl⟩ := WriterState.scanning.inj hscanning
    obtain ⟨earlier, call, since, rfl, hcall, hold⟩ := h.loading requested hwriter
    refine ⟨earlier, call, since ++ [t], by simp, hcall, fun r hr => ?_,
      fun bank hlt => absurd hlt (Nat.not_lt_zero _)⟩
    rcases List.mem_append.mp hr with hr | hr
    · exact hold r hr
    · rw [List.mem_singleton.mp hr]
      exact hquiet fun _ h => (by cases h)
  | @skip requested current bank hwriter hbank =>
    refine ⟨fun _ h => (by cases h), fun requested' current' candidate hscanning => ?_⟩
    obtain ⟨rfl, rfl, rfl⟩ := WriterState.scanning.inj hscanning
    obtain ⟨earlier, call, since, rfl, hcall, hold, hfound⟩ :=
      h.scanning requested current bank hwriter
    refine ⟨earlier, call, since ++ [t], by simp, hcall, fun r hr => ?_, fun bank' hlt hne => ?_⟩
    · rcases List.mem_append.mp hr with hr | hr
      · exact hold r hr
      · rw [List.mem_singleton.mp hr]
        exact hquiet fun _ h => (by cases h)
    · by_cases hsame : bank' = bank
      · -- the bank of this step: its counter says that a reader has pinned it
        subst hsame
        refine ⟨t, List.mem_append_right _ List.mem_cons_self, hevent, ?_, ?_⟩
        · rw [hbefore]
          exact ⟨requested, current, hwriter⟩
        · have hnonzero := hbank.resolve_left hne
          rw [hcount bank'] at hnonzero
          have hpos : pinCount s bank' ≠ 0 := fun hzero => hnonzero (by rw [hzero]; rfl)
          obtain ⟨r, hr⟩ := Finset.card_pos.mp (Nat.pos_of_ne_zero hpos)
          rw [hbefore]
          exact ⟨r, (Finset.mem_filter.mp hr).2⟩
      · obtain ⟨r, hr, hfinds⟩ := hfound bank' (by omega) hne
        exact ⟨r, List.mem_append_left _ hr, hfinds⟩

/-! ## Every interleaving -/

/-- What the steps so far say about the tasks. -/
structure LiveInv [Fintype Reader] (rep : Representation Cell Value)
    (past : List (LiveStep Reader Cell Value)) (s : LiveBank Reader Cell Value) : Prop where
  writer : WriterInv rep past s
  count : CountInv s
  reader : ∀ r, ReaderInv rep past s r
  scan : ScanInv past s
  /-- Every snapshot so far is a version. -/
  returned : ∀ (earlier : List (LiveStep Reader Cell Value)) (t : LiveStep Reader Cell Value)
    (since : List (LiveStep Reader Cell Value)) (r : Reader) (state : SvLiveSignalState),
    past = earlier ++ t :: since → t.output = .returned r state →
    ∃ v : Nat, (versions earlier)[v]? = some state

omit [DecidableEq Reader] [DecidableEq Cell] [DecidableEq Value] [Fintype Cell] in
theorem liveInv_initial [Fintype Reader] :
    LiveInv rep [] (LiveBank.initial rep : LiveBank Reader Cell Value) where
  writer := by
    refine ⟨⟨_, rfl, rfl⟩, fun h => (by cases h), fun _ _ _ h => (by cases h), ?_,
      fun _ _ h => (by cases h)⟩
    rintro _ _ _ (h | h) <;> cases h
  count index := by
    have hnone : pinCount (LiveBank.initial rep : LiveBank Reader Cell Value) index = 0 := by
      refine Finset.card_eq_zero.mpr (Finset.filter_eq_empty_iff.mpr fun r _ h => ?_)
      cases h
    rw [hnone]
    rfl
  reader r := ⟨fun h => absurd rfl h, fun _ _ h => (by cases h), fun _ _ h => (by cases h)⟩
  scan := ⟨fun _ h => (by cases h), fun _ _ _ h => (by cases h)⟩
  returned earlier t since r state hnil := by
    exact absurd hnil.symm (List.append_ne_nil_of_right_ne_nil _ (List.cons_ne_nil _ _))

theorem snapshotSafe_step [Fintype Reader] (h : LiveInv rep past s) (e : LiveEvent Reader Cell) :
    SnapshotSafe rep past (stepOn (LiveBank.step rep) s e) := by
  have hmove : Move rep s e (s.step rep e).1 (s.step rep e).2 := move_step s e
  have hreads {r : Reader} {state : SvLiveSignalState}
      (houtput : (s.step rep e).1 = .returned r state) : Reads r past state := by
    rw [houtput] at hmove
    generalize (s.step rep e).2 = s' at hmove
    cases hmove with
    | release hreader => exact (h.reader r).releasing _ _ hreader
  constructor
  case whole => exact fun r state houtput => hreads houtput
  case monotone =>
    intro r state earlier t' since state' houtput hpast hreturned
    obtain ⟨v', hversion'⟩ := h.returned earlier t' since r state' hpast hreturned
    obtain ⟨earlier₂, v, ⟨call, since₂, hpast₂, -, hquiet⟩, hlen, hversion⟩ := hreads houtput
    have hlt := lt_of_version hversion'
    have hold := version_append hversion' (t' :: since)
    rw [← hpast] at hold
    refine ⟨v', v, ?_, hold, generation_version hversion', hversion, generation_version hversion⟩
    -- the earlier snapshot was returned before this call began
    rcases List.append_eq_append_iff.mp (hpast.symm.trans hpast₂) with
      ⟨between, heq, hcons⟩ | ⟨between, heq, hcons⟩
    · have hle := (versions_extend earlier between).length_le
      rw [← heq] at hle
      omega
    · cases between with
      | nil =>
        rw [List.append_nil] at heq
        rw [heq] at hlt
        omega
      | cons first between =>
        obtain ⟨-, hsince⟩ := List.cons.inj hcons
        refine absurd hreturned ((hquiet t' ?_).2 state')
        rw [hsince]
        exact List.mem_append_right _ List.mem_cons_self
  case consecutive =>
    intro requested houtput
    change (s.step rep e).1 = _ at houtput
    show rep.decode ((s.step rep e).2.banks (s.step rep e).2.activeIndex) = _
    generalize (s.step rep e).2 = s' at hmove ⊢
    rw [houtput] at hmove
    cases hmove with
    | store hwriter =>
      show rep.decode (s.banks _) = _
      rw [h.writer.storing _ _ hwriter, rep.decode_cells]
      rfl
  case refused =>
    intro requested houtput
    change (s.step rep e).1 = _ at houtput
    rw [houtput] at hmove
    generalize (s.step rep e).2 = s' at hmove
    cases hmove with
    | invalid hvalid => exact .inl hvalid
    | exhausted hwriter hall =>
      obtain ⟨earlier, call, since, hpast, hcall, hold, hfound⟩ := h.scan.scanning _ _ _ hwriter
      refine .inr ⟨earlier, call, since, hpast, hcall, hold, fun bank hne => hfound bank ?_ ?_⟩
      · have := bank.isLt
        omega
      · rw [h.writer.scanning _ _ _ hwriter]
        exact hne

theorem liveInv_step [Fintype Reader] (hcard : Fintype.card Reader < 2 ^ 32)
    (h : LiveInv rep past s) (e : LiveEvent Reader Cell) :
    LiveInv rep (past ++ [stepOn (LiveBank.step rep) s e]) (s.step rep e).2 := by
  have hmove : Move rep s e (s.step rep e).1 (s.step rep e).2 := move_step s e
  refine ⟨writerInv_step h.writer hmove rfl, countInv_step h.count hmove,
    readerInv_step hcard h.writer h.count h.reader hmove rfl,
    scanInv_step h.count h.scan hmove rfl rfl rfl, ?_⟩
  intro earlier t since r state hsplit houtput
  rcases List.eq_nil_or_concat since with rfl | ⟨since, last, rfl⟩
  · obtain ⟨rfl, heq⟩ := List.append_inj' hsplit rfl
    rw [← (List.cons.inj heq).1] at houtput
    obtain ⟨-, v, -, -, hversion⟩ := (snapshotSafe_step h e).whole r state houtput
    exact ⟨v, hversion⟩
  · rw [List.concat_eq_append, ← List.cons_append, ← List.append_assoc] at hsplit
    exact h.returned earlier t since r state (List.append_inj' hsplit rfl).1 houtput

/-- **Snapshots are never torn**, in every interleaving of one writer with fewer than `2 ^ 32`
readers. -/
theorem snapshots_never_torn [Fintype Reader] (hcard : Fintype.card Reader < 2 ^ 32)
    (rep : Representation Cell Value) {events : List (LiveEvent Reader Cell)}
    {past future : List (LiveStep Reader Cell Value)} {t : LiveStep Reader Cell Value}
    (hrun : history (LiveBank.step rep) (LiveBank.initial rep) events = past ++ t :: future) :
    SnapshotSafe rep past t := by
  refine history_rule (R := fun _ _ => True) (LiveInv rep) (SnapshotSafe rep) ?_
    (List.pairwise_of_forall fun _ _ => trivial) liveInv_initial hrun
  exact fun past s e h _ => ⟨snapshotSafe_step h e, liveInv_step hcard h e⟩

end

/-! ## Examples -/

/-- Two cells: the generation, and everything else. -/
def sampleRepresentation : Representation Bool SvLiveSignalState where
  cells state cell := if cell then { generation := state.generation } else { state with generation := 0 }
  decode image := { image false with generation := (image true).generation }
  decode_cells _ := rfl

def sampleRequest : SvLiveSignalState := { frequencyMillihz := 60000 }

section

variable {Reader : Type}

/-- A publication whose search takes `candidates` steps. -/
def publication (candidates : Nat) : List (LiveEvent Reader Bool) :=
  [.publish sampleRequest, .next] ++ List.replicate candidates .next ++
    [.write false, .write true, .next, .write true, .next, .next]

/-- A reader up to its pin. -/
def enter (r : Reader) : List (LiveEvent Reader Bool) := [.snapshot r, .read r, .read r]

/-- A reader up to the middle of its copy. -/
def startCopy (r : Reader) : List (LiveEvent Reader Bool) := enter r ++ [.read r, .copy r false]

/-- Two states are published before the rest of the copy. -/
def finishCopy (r : Reader) (candidates : Nat) : List (LiveEvent Reader Bool) :=
  publication 2 ++ publication candidates ++ [.copy r true, .read r]

end

theorem snapshots_never_torn_sample :
    let run := history (LiveBank.step sampleRepresentation) (LiveBank.initial sampleRepresentation)
      (startCopy (0 : Fin 2) ++ finishCopy 0 3 ++ [.read 0])
    run.getLast?.map (·.output) = some (.returned 0 SvLiveSignalBank.defaultState) ∧
      ∀ t ∈ run.getLast?, SnapshotSafe sampleRepresentation run.dropLast t := by
  refine ⟨by decide, fun t ht => ?_⟩
  exact snapshots_never_torn (by decide) sampleRepresentation
    (List.dropLast_append_getLast? t ht).symm

section Crowd

variable {Reader : Type} [DecidableEq Reader]

abbrev SampleBank (Reader : Type) := LiveBank Reader Bool SvLiveSignalState

/-- All these readers have pinned bank 0. -/
def SampleBank.crowd (s : SampleBank Reader) (rs : List Reader) : SampleBank Reader :=
  { s with
    readerCounts :=
      Function.update s.readerCounts 0 (s.readerCounts 0 + UInt32.ofNat rs.length)
    readers := fun r => if r ∈ rs then .checking 0 else s.readers r }

theorem outcome_enter (s : SampleBank Reader) (hactive : s.activeIndex = 0) {r : Reader}
    (hidle : s.readers r = .idle) :
    outcome (LiveBank.step sampleRepresentation) s (enter r) = s.crowd [r] ∧
      (history (LiveBank.step sampleRepresentation) s (enter r)).filterMap publishedBy = [] := by
  have hself (state : ReaderState Bool SvLiveSignalState) :
      (s.setReader r state).readers r = state := Function.update_self _ _ _
  have hself' (state : ReaderState Bool SvLiveSignalState) :
      ((s.setReader r .loading).setReader r state).readers r = state := Function.update_self _ _ _
  have hcall : s.step sampleRepresentation (.snapshot r) = (.called r, s.setReader r .loading) := by
    rw [LiveBank.step, hidle]
  have hload : (s.setReader r .loading).step sampleRepresentation (.read r) =
      (.none, (s.setReader r .loading).setReader r (.pinning 0)) := by
    rw [LiveBank.step, LiveBank.read, hself]
    exact congrArg (fun index => (LiveAnswer.none, (s.setReader r .loading).setReader r
      (.pinning index))) hactive
  have hpin : ((s.setReader r .loading).setReader r (.pinning 0)).step sampleRepresentation
      (.read r) = (.none, (((s.setReader r .loading).setReader r (.pinning 0)).pin 0).setReader r
        (.checking 0)) := by
    rw [LiveBank.step, LiveBank.read, hself']
  have hreaders : Function.update (Function.update (Function.update s.readers r .loading) r
      (.pinning 0)) r (.checking 0) = fun x => if x ∈ [r] then .checking 0 else s.readers x := by
    funext x
    by_cases hx : x = r
    · rw [hx, Function.update_self, if_pos List.mem_cons_self]
    · rw [Function.update_of_ne hx, Function.update_of_ne hx, Function.update_of_ne hx,
        if_neg (by simpa using hx)]
  constructor
  · rw [outcome, enter, exec_cons, exec_cons, exec_cons, exec_nil, hcall, hload, hpin]
    exact congrArg (fun readers => ({ s with
      readerCounts := Function.update s.readerCounts 0 (s.readerCounts 0 + 1),
      readers } : SampleBank Reader)) hreaders
  · rw [enter, history, hcall, history, hload, history, hpin, history, stepOn, stepOn, stepOn, hcall,
      hload, hpin]
    rfl

/-- Any number of readers, one after the other. -/
theorem outcome_crowd {rs : List Reader} (hnodup : rs.Nodup) (s : SampleBank Reader)
    (hactive : s.activeIndex = 0) (hidle : ∀ r ∈ rs, s.readers r = .idle) :
    outcome (LiveBank.step sampleRepresentation) s (rs.flatMap enter) = s.crowd rs ∧
      (history (LiveBank.step sampleRepresentation) s (rs.flatMap enter)).filterMap publishedBy =
        [] := by
  induction rs generalizing s with
  | nil =>
    refine ⟨?_, rfl⟩
    rw [SampleBank.crowd, List.length_nil, show UInt32.ofNat 0 = 0 from rfl, UInt32.add_zero,
      Function.update_eq_self]
    rfl
  | cons r rs ih =>
    obtain ⟨hr, hnodup⟩ := List.nodup_cons.mp hnodup
    obtain ⟨hfirst, hquiet⟩ := outcome_enter s hactive (hidle r List.mem_cons_self)
    have hothers : ∀ x ∈ rs, (s.crowd [r]).readers x = .idle := fun x hx => by
      rw [SampleBank.crowd]
      refine (if_neg ?_).trans (hidle x (List.mem_cons_of_mem r hx))
      rw [List.mem_singleton]
      rintro rfl
      exact hr hx
    obtain ⟨hrest, hquiet'⟩ := ih hnodup (s.crowd [r]) hactive hothers
    have hcrowd : (s.crowd [r]).crowd rs = s.crowd (r :: rs) := by
      have hcounts : Function.update (Function.update s.readerCounts 0 (s.readerCounts 0 + 1)) 0
          (s.readerCounts 0 + 1 + UInt32.ofNat rs.length) =
          Function.update s.readerCounts 0 (s.readerCounts 0 + UInt32.ofNat (rs.length + 1)) := by
        rw [Function.update_idem, UInt32.add_assoc, UInt32.ofNat_add, UInt32.add_comm 1]
        rfl
      have hstates : (fun x => if x ∈ rs then ReaderState.checking 0 else
          if x ∈ [r] then .checking 0 else s.readers x) =
          fun x => if x ∈ r :: rs then .checking 0 else s.readers x := by
        funext x
        by_cases hx : x = r <;> simp [hx]
      exact congrArg₂ (fun readerCounts readers =>
        ({ s with readerCounts, readers } : SampleBank Reader)) hcounts hstates
    rw [List.flatMap_cons]
    constructor
    · rw [outcome, exec_append, ← outcome, ← outcome, hfirst, hrest, hcrowd]
    · rw [history_append, List.filterMap_append, hfirst, hquiet, hquiet', List.append_nil]

/-- What a reader meets that has copied one of its two cells when the others have come. -/
def crowded (n : Nat) : SampleBank (Option (Fin n)) where
  banks _ := sampleRepresentation.cells SvLiveSignalBank.defaultState
  readers
    | none => .copying 0 (Function.update (fun _ => none) false
      (some { SvLiveSignalBank.defaultState with generation := 0 }))
    | some _ => .checking 0

theorem outcome_crowded {n : Nat} (hwrap : 1 + UInt32.ofNat n = 0) :
    SampleBank.crowd (outcome (LiveBank.step sampleRepresentation)
      (LiveBank.initial sampleRepresentation)
      (startCopy (none : Option (Fin n)))) ((List.finRange n).map some) = crowded n := by
  have hcounts : Function.update (Function.update (fun _ : Fin 4 => (0 : UInt32)) 0 1) 0
      (1 + UInt32.ofNat ((List.finRange n).map some).length) = fun _ => 0 := by
    rw [List.length_map, List.length_finRange, hwrap, Function.update_idem]
    exact Function.update_eq_self 0 _
  refine congrArg₂ (fun readerCounts readers =>
    ({ crowded n with readerCounts, readers } : SampleBank (Option (Fin n)))) hcounts ?_
  funext r
  cases r with
  | none => exact if_neg (by simp)
  | some i => exact if_pos (List.mem_map_of_mem (List.mem_finRange i))

theorem finishCopy_crowded :
    (history (LiveBank.step sampleRepresentation) (crowded (2 ^ 32 - 1))
      (finishCopy none 1)).filterMap publishedBy = [sampleRequest, sampleRequest] ∧
    ((outcome (LiveBank.step sampleRepresentation) (crowded (2 ^ 32 - 1))
      (finishCopy none 1)).step sampleRepresentation (.read none)).1 =
        .returned none { SvLiveSignalBank.defaultState with generation := 2 } := by
  decide

/-- `2 ^ 32` readers: the bank under the copy looks free, and the snapshot has the initial signals
and the generation of another state. -/
theorem snapshot_torn :
    ∃ (events : List (LiveEvent (Option (Fin (2 ^ 32 - 1))) Bool))
      (past future : List (LiveStep (Option (Fin (2 ^ 32 - 1))) Bool SvLiveSignalState))
      (t : LiveStep (Option (Fin (2 ^ 32 - 1))) Bool SvLiveSignalState)
      (state : SvLiveSignalState),
      history (LiveBank.step sampleRepresentation) (LiveBank.initial sampleRepresentation) events =
        past ++ t :: future ∧ t.output = .returned none state ∧ state ∉ versions past := by
  let others : List (Option (Fin (2 ^ 32 - 1))) := (List.finRange (2 ^ 32 - 1)).map some
  let start : SampleBank (Option (Fin (2 ^ 32 - 1))) := LiveBank.initial sampleRepresentation
  let copying := outcome (LiveBank.step sampleRepresentation) start (startCopy none)
  have hnodup : others.Nodup := (List.nodup_finRange _).map (Option.some_injective _)
  have hidle : ∀ r ∈ others, copying.readers r = .idle := fun r hr => by
    obtain ⟨i, -, rfl⟩ := List.mem_map.mp hr
    rfl
  obtain ⟨hcrowd, hquiet⟩ := outcome_crowd hnodup copying rfl hidle
  rw [outcome_crowded rfl] at hcrowd
  obtain ⟨hpublished, hreturned⟩ := finishCopy_crowded
  have hevents : history (LiveBank.step sampleRepresentation) start
      (startCopy none ++ (others.flatMap enter ++ (finishCopy none 1 ++ [.read none]))) =
      (history (LiveBank.step sampleRepresentation) start (startCopy none) ++
        (history (LiveBank.step sampleRepresentation) copying (others.flatMap enter) ++
          history (LiveBank.step sampleRepresentation) (crowded _) (finishCopy none 1))) ++
        [stepOn (LiveBank.step sampleRepresentation)
          (outcome (LiveBank.step sampleRepresentation) (crowded _) (finishCopy none 1))
          (.read none)] := by
    rw [history_append start, history_append copying, hcrowd, history_append (crowded _),
      List.append_assoc, List.append_assoc]
    rfl
  refine ⟨_, _, _, _, _, hevents, hreturned, ?_⟩
  have hfirst : (history (LiveBank.step sampleRepresentation) start
      (startCopy none)).filterMap publishedBy = [] := rfl
  rw [versions, List.filterMap_append, List.filterMap_append, hfirst, hquiet, hpublished]
  decide

end Crowd

end ArStack.SampledValues
