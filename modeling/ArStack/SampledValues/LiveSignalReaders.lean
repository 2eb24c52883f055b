import Mathlib.Data.Fintype.Pi
import Mathlib.Logic.Function.Basic
import ArStack.SampledValues.LiveSignalState

/-!
# The live signal bank, one atomic operation at a time

One writer and any number of readers call `publish` and `snapshot` at the same time. Atomic
operations are single steps; a state is copied and assigned cell by cell, in any order.

* `Representation` — the cells of a state
* `LiveBank`, `LiveBank.step`
-/

namespace ArStack.SampledValues

/-- How a state is laid out in memory. -/
structure Representation (Cell Value : Type) where
  cells : SvLiveSignalState → Cell → Value
  decode : (Cell → Value) → SvLiveSignalState
  decode_cells : ∀ state, decode (cells state) = state

/-- Where a reader is in `snapshot`. -/
inductive ReaderState (Cell Value : Type) where
  | idle
  /-- Before the load of the active index. -/
  | loading
  /-- Before the pin. -/
  | pinning (index : Fin 4)
  /-- Before the second load. -/
  | checking (index : Fin 4)
  /-- Before the pin is taken back. -/
  | unpinning (index : Fin 4)
  /-- The cells that have been copied. -/
  | copying (index : Fin 4) (copied : Cell → Option Value)
  /-- Before the pin is taken back and the copy returned. -/
  | releasing (index : Fin 4) (copy : SvLiveSignalState)

/-- The bank that the reader counts for. -/
def ReaderState.pinned {Cell Value : Type} : ReaderState Cell Value → Option (Fin 4)
  | .checking index => some index
  | .unpinning index => some index
  | .copying index _ => some index
  | .releasing index _ => some index
  | _ => none

/-- Where the writer is in `publish`. -/
inductive WriterState where
  | idle
  /-- Before the load of the active index. -/
  | loading (requested : SvLiveSignalState)
  /-- Before the load of a reader count. -/
  | scanning (requested : SvLiveSignalState) (current : Fin 4) (candidate : Nat)
  /-- In the assignment of the requested state. -/
  | writing (requested : SvLiveSignalState) (current next : Fin 4)
  /-- In the assignment of the generation. -/
  | numbering (requested : SvLiveSignalState) (current next : Fin 4)
  /-- Before the store of the active index. -/
  | storing (requested : SvLiveSignalState) (next : Fin 4)
  deriving DecidableEq

structure LiveBank (Reader Cell Value : Type) where
  banks : Fin 4 → Cell → Value
  readerCounts : Fin 4 → UInt32 := fun _ => 0
  activeIndex : Fin 4 := 0
  writer : WriterState := .idle
  readers : Reader → ReaderState Cell Value := fun _ => .idle

/-- What the tasks do next. -/
inductive LiveEvent (Reader Cell : Type) where
  /-- A reader calls `snapshot`. -/
  | snapshot (reader : Reader)
  /-- The next atomic operation of a reader. -/
  | read (reader : Reader)
  | copy (reader : Reader) (cell : Cell)
  /-- The writer calls `publish`. -/
  | publish (requested : SvLiveSignalState)
  /-- The next operation of the writer. -/
  | next
  | write (cell : Cell)

inductive LiveAnswer (Reader : Type) where
  | none
  | called (reader : Reader)
  | returned (reader : Reader) (state : SvLiveSignalState)
  | requested (state : SvLiveSignalState)
  | refused (state : SvLiveSignalState)
  | published (state : SvLiveSignalState)
  deriving DecidableEq

namespace LiveBank

section

variable {Reader Cell Value : Type} [DecidableEq Reader] [DecidableEq Cell] [DecidableEq Value]
  [Fintype Cell] (rep : Representation Cell Value)

/-- The constructor. -/
def initial : LiveBank Reader Cell Value where
  banks _ := rep.cells SvLiveSignalBank.defaultState

def setReader (s : LiveBank Reader Cell Value) (reader : Reader)
    (state : ReaderState Cell Value) : LiveBank Reader Cell Value :=
  { s with readers := Function.update s.readers reader state }

/-- `reader_counts_[index].fetch_add(1U)` -/
def pin (s : LiveBank Reader Cell Value) (index : Fin 4) : LiveBank Reader Cell Value :=
  { s with readerCounts := Function.update s.readerCounts index (s.readerCounts index + 1) }

/-- `reader_counts_[index].fetch_sub(1U)` -/
def unpin (s : LiveBank Reader Cell Value) (index : Fin 4) : LiveBank Reader Cell Value :=
  { s with readerCounts := Function.update s.readerCounts index (s.readerCounts index - 1) }

def setWriter (s : LiveBank Reader Cell Value) (writer : WriterState) :
    LiveBank Reader Cell Value := { s with writer }

def writeCell (s : LiveBank Reader Cell Value) (index : Fin 4) (cell : Cell) (value : Value) :
    LiveBank Reader Cell Value :=
  { s with banks := Function.update s.banks index (Function.update (s.banks index) cell value) }

/-- The state that `publish` leaves in the bank: `banks_[current].generation + 1U`. -/
def numbered (s : LiveBank Reader Cell Value) (requested : SvLiveSignalState) (current : Fin 4) :
    SvLiveSignalState :=
  { requested with generation := (rep.decode (s.banks current)).generation + 1 }

/-- The next atomic operation of a reader. -/
def read (s : LiveBank Reader Cell Value) (reader : Reader) :
    LiveAnswer Reader × LiveBank Reader Cell Value :=
  match s.readers reader with
  | .idle => (.none, s)
  | .loading => (.none, s.setReader reader (.pinning s.activeIndex))
  | .pinning index => (.none, (s.pin index).setReader reader (.checking index))
  | .checking index =>
    if s.activeIndex ≠ index then (.none, s.setReader reader (.unpinning index))
    else (.none, s.setReader reader (.copying index fun _ => none))
  | .unpinning index => (.none, (s.unpin index).setReader reader .loading)
  | .copying index copied =>
    if h : ∀ cell, (copied cell).isSome then
      (.none,
        s.setReader reader (.releasing index (rep.decode fun cell => (copied cell).get (h cell))))
    else (.none, s)
  | .releasing index copy => (.returned reader copy, (s.unpin index).setReader reader .idle)

/-- The next operation of the writer. -/
def next (s : LiveBank Reader Cell Value) : LiveAnswer Reader × LiveBank Reader Cell Value :=
  match s.writer with
  | .idle => (.none, s)
  | .loading requested => (.none, s.setWriter (.scanning requested s.activeIndex 0))
  | .scanning requested current candidate =>
    if h : candidate < 4 then
      if (⟨candidate, h⟩ : Fin 4) ≠ current ∧ s.readerCounts ⟨candidate, h⟩ = 0 then
        (.none, s.setWriter (.writing requested current ⟨candidate, h⟩))
      else (.none, s.setWriter (.scanning requested current (candidate + 1)))
    else (.refused requested, s.setWriter .idle)
  | .writing requested current next =>
    if s.banks next = rep.cells requested then
      (.none, s.setWriter (.numbering requested current next))
    else (.none, s)
  | .numbering requested current next =>
    if s.banks next = rep.cells (s.numbered rep requested current) then
      (.none, s.setWriter (.storing requested next))
    else (.none, s)
  | .storing requested next =>
    (.published requested, { s.setWriter .idle with activeIndex := next })

/-- One step of any task. What a task cannot do next changes nothing. -/
def step (s : LiveBank Reader Cell Value) :
    LiveEvent Reader Cell → LiveAnswer Reader × LiveBank Reader Cell Value
  | .snapshot reader =>
    match s.readers reader with
    | .idle => (.called reader, s.setReader reader .loading)
    | _ => (.none, s)
  | .read reader => s.read rep reader
  | .copy reader cell =>
    match s.readers reader with
    | .copying index copied =>
      (.none, s.setReader reader
        (.copying index (Function.update copied cell (some (s.banks index cell)))))
    | _ => (.none, s)
  | .publish requested =>
    match s.writer with
    | .idle =>
      if SvLiveSignalBank.validate requested then
        (.requested requested, s.setWriter (.loading requested))
      else (.refused requested, s)
    | _ => (.none, s)
  | .next => s.next rep
  | .write cell =>
    match s.writer with
    | .writing requested _ next => (.none, s.writeCell next cell (rep.cells requested cell))
    | .numbering requested current next =>
      (.none, s.writeCell next cell (rep.cells (s.numbered rep requested current) cell))
    | _ => (.none, s)

end

end LiveBank

end ArStack.SampledValues
