import ArStack.Mms.Reporting
import Mathlib.Data.List.MinMax

/-!
# The offline report monitor

`MmsOfflineReportMonitor` keeps the last reports of the streams that were reported last. The
sequence tracker inside has its own limit on the number of streams.

* `MmsOfflineReportMonitor.create`, `ingest`, `snapshots`, `clear`
-/

namespace ArStack.Mms

structure MmsOfflineReportMonitorOptions where
  maximumStreams : Nat := 128
  maximumFramesPerStream : Nat := 256
  deriving DecidableEq

structure MmsOfflineReportStreamSnapshot where
  state : MmsReportStreamState
  recentFrames : List MmsReportFrame

namespace MmsOfflineReportMonitor

structure StreamRecord where
  state : MmsReportStreamState := {}
  frames : List MmsReportFrame := []
  touchOrder : Nat := 0

end MmsOfflineReportMonitor

structure MmsOfflineReportMonitor where
  options : MmsOfflineReportMonitorOptions := {}
  tracker : MmsReportSequenceTracker := {}
  streams : AList fun _ : Bytes => MmsOfflineReportMonitor.StreamRecord := ∅
  touchCounter : Nat := 0

namespace MmsOfflineReportMonitor

def create (options : MmsOfflineReportMonitorOptions) : Except String MmsOfflineReportMonitor :=
  if options.maximumStreams = 0 ∨ options.maximumStreams > 4096 ∨
      options.maximumFramesPerStream = 0 ∨ options.maximumFramesPerStream > 65536 then
    .error "Offline report monitor limits are invalid."
  else .ok { options }

section

variable (monitor : MmsOfflineReportMonitor)

/-- The key of the stream that was touched first. -/
def victim : Option Bytes :=
  (monitor.streams.entries.argmin fun entry => entry.2.touchOrder).map Sigma.fst

/-- `enforce_stream_limit`, which erases at most as many streams as there are. -/
def enforceStreamLimitFrom : Nat → MmsOfflineReportMonitor → MmsOfflineReportMonitor
  | 0, monitor => monitor
  | room + 1, monitor =>
    if monitor.streams.keys.length > monitor.options.maximumStreams then
      match monitor.victim with
      | none => monitor
      | some key =>
        enforceStreamLimitFrom room
          { monitor with
            tracker := monitor.tracker.erase key
            streams := monitor.streams.erase key }
    else monitor

def enforceStreamLimit : MmsOfflineReportMonitor :=
  enforceStreamLimitFrom monitor.streams.keys.length monitor

/-- What the stream of a frame becomes. -/
def recordFrame (frame : MmsReportFrame) (state : MmsReportStreamState)
    (tracker : MmsReportSequenceTracker) : MmsOfflineReportMonitor :=
  let key := frame.routingKey
  let frames := ((monitor.streams.lookup key).getD {}).frames ++ [frame]
  let touchCounter := monitor.touchCounter + 1
  { monitor with
    tracker
    touchCounter
    streams :=
      monitor.streams.insert key
        { state
          frames := frames.drop (frames.length - monitor.options.maximumFramesPerStream)
          touchOrder := touchCounter } }

def ingest (frame : MmsReportFrame) :
    Except String (MmsReportObservation × MmsOfflineReportMonitor) := do
  let (observation, tracker) ← monitor.tracker.observe frame
  .ok (observation, (monitor.recordFrame frame observation.state tracker).enforceStreamLimit)

def snapshots : List MmsOfflineReportStreamSnapshot :=
  monitor.streams.entries.map fun entry =>
    { state := entry.2.state, recentFrames := entry.2.frames }

def clear : MmsOfflineReportMonitor := { options := monitor.options }

end

end MmsOfflineReportMonitor

end ArStack.Mms
