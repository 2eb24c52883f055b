import ArStack.Lib.Run
import ArStack.Mms.StaticConnectionRuntime

/-!
# The server session

`MmsStaticServerSession` moves octets between a TCP stream and the connection runtime: a poll
sends what is left of a response, or takes a frame out of what was received, or receives more.

* `pollOnce`, `reset` — the operations
* `ConnectionEvent`, `ServerSessionEvent` — the runs of a runtime and of a session
-/

namespace ArStack.Mms

open ArStack.Wire

inductive IoStatus where
  | ok
  | wouldBlock
  | timeout
  | closed
  | ioError
  | invalidArgument
  | bufferTooSmall
  deriving DecidableEq

structure IoResult where
  status : IoStatus := .ok
  transferred : Nat := 0
  deriving DecidableEq

/-- What a receive callback returns, with the octets it has put into the destination. -/
structure IoReceived where
  status : IoStatus := .ok
  data : Bytes := []
  deriving DecidableEq

inductive MmsStaticServerSessionStatus where
  | progressed
  | responsePending
  | wouldBlock
  | timedOut
  | applicationRejected
  | peerClosed
  | transportError
  | protocolError
  | receiveBufferFull
  | invalidConfiguration
  deriving DecidableEq

structure MmsStaticServerSessionResult where
  status : MmsStaticServerSessionStatus := .invalidConfiguration
  connectionStatus : MmsStaticConnectionStatus := .needMore
  bytesReceived : Nat := 0
  bytesSent : Nat := 0
  bufferedInputBytes : Nat := 0
  pendingOutputBytes : Nat := 0
  applicationStatus : MmsStaticDispatchStatus := .responseReady
  applicationService : MmsWireConfirmedService := .unknown
  invokeId : UInt32 := 0
  deriving DecidableEq

def MmsStaticServerSessionResult.terminal (result : MmsStaticServerSessionResult) : Bool :=
  result.status == .peerClosed || result.status == .transportError ||
    result.status == .protocolError || result.status == .receiveBufferFull ||
    result.status == .invalidConfiguration

/-- The sizes of the buffers. -/
structure MmsStaticServerSessionBuffers where
  receive : Nat := 0
  response : Nat := 0
  workspace : Nat := 0
  deriving DecidableEq

def MmsStaticServerSessionBuffers.valid (buffers : MmsStaticServerSessionBuffers) : Bool :=
  buffers.receive != 0 && buffers.response != 0 && buffers.workspace != 0

/-- `streamSet` tells whether the stream has its callbacks; `receive` is what was received and
not consumed, `response` the response whose first `responseOffset` octets were sent. -/
structure MmsStaticServerSession (α : Type) where
  runtime : MmsStaticConnectionRuntime := {}
  application : α
  streamSet : Bool := true
  buffers : MmsStaticServerSessionBuffers := {}
  receive : Bytes := []
  response : Bytes := []
  responseOffset : Nat := 0
  terminal : Bool := false
  deriving DecidableEq

/-- What the transport and the clock do in one poll. -/
structure PollInput where
  sent : IoResult := {}
  received : IoReceived := {}
  nowMs : UInt64 := 0
  deriving DecidableEq

/-- A poll: its result, the session it leaves, what it sent and the callbacks it made. -/
structure PollStep (α : Type) where
  result : MmsStaticServerSessionResult
  session : MmsStaticServerSession α
  sent : Bytes := []
  notified : List AssociationClosed := []

namespace MmsStaticServerSession

variable {α : Type} (session : MmsStaticServerSession α)

def makeResult (status : MmsStaticServerSessionStatus)
    (connectionStatus : MmsStaticConnectionStatus) (bytesReceived bytesSent : Nat) :
    MmsStaticServerSessionResult :=
  { status
    connectionStatus
    bytesReceived
    bytesSent
    bufferedInputBytes := session.receive.length
    pendingOutputBytes := session.response.length - session.responseOffset }

def consumeInput (consumed : Nat) : MmsStaticServerSession α :=
  if consumed = 0 ∨ consumed > session.receive.length then session
  else { session with receive := session.receive.drop consumed }

/-- A poll that leaves the session as it is. -/
def idle (status : MmsStaticServerSessionStatus) (connectionStatus : MmsStaticConnectionStatus) :
    PollStep α :=
  { result := session.makeResult status connectionStatus 0 0, session }

/-- The end of the session closes the transport of the runtime. -/
def terminate (nowMs : UInt64) (status : MmsStaticServerSessionStatus)
    (connectionStatus : MmsStaticConnectionStatus) : PollStep α :=
  let (runtime, notified) := session.runtime.closeTransport nowMs
  let session := { session with runtime, terminal := true }
  { result := session.makeResult status connectionStatus 0 0
    session
    notified := notified.toList }

/-- Send what is left of the response. -/
def sendPending (sent : IoResult) (nowMs : UInt64) : PollStep α :=
  let remaining := session.response.drop session.responseOffset
  match sent.status with
  | .wouldBlock => session.idle .wouldBlock .responseReady
  | .timeout => session.idle .timedOut .responseReady
  | .closed => session.terminate nowMs .peerClosed .closed
  | .ok =>
    if sent.transferred = 0 ∨ sent.transferred > remaining.length then
      session.terminate nowMs .transportError .backendFailure
    else
      let offset := session.responseOffset + sent.transferred
      let session :=
        if offset = session.response.length then
          { session with response := [], responseOffset := 0 }
        else { session with responseOffset := offset }
      { result := session.makeResult .progressed .responseReady 0 sent.transferred
        session
        sent := remaining.take sent.transferred }
  | _ => session.terminate nowMs .transportError .backendFailure

/-- A result with what the application reports. -/
def withApplication (result : MmsStaticServerSessionResult)
    (connection : MmsStaticConnectionResult) : MmsStaticServerSessionResult :=
  { result with
    applicationStatus := connection.applicationStatus
    applicationService := connection.applicationService
    invokeId := connection.invokeId }

/-- Receive into the rest of the receive buffer. -/
def receiveMore (received : IoReceived) (nowMs : UInt64) : PollStep α :=
  if session.receive.length = session.buffers.receive then
    session.terminate nowMs .receiveBufferFull .needMore
  else
    match received.status with
    | .wouldBlock => session.idle .wouldBlock .needMore
    | .timeout => session.idle .timedOut .needMore
    | .closed => session.terminate nowMs .peerClosed .closed
    | .ok =>
      if received.data = [] ∨
          received.data.length > session.buffers.receive - session.receive.length then
        session.terminate nowMs .transportError .backendFailure
      else
        let session := { session with receive := session.receive ++ received.data }
        { result := session.makeResult .progressed .needMore received.data.length 0
          session }
    | _ => session.terminate nowMs .transportError .backendFailure

/-- What becomes of the session after a call of the connection runtime. -/
def afterWindow (connection : MmsStaticConnectionResult) (input : PollInput) : PollStep α :=
  match connection.status with
  | .responseReady =>
    let session := session.consumeInput connection.consumedBytes
    let session := { session with response := connection.bytes, responseOffset := 0 }
    let readConfirmedError := connection.applicationService == .read &&
      connection.applicationStatus != .responseReady
    { result :=
        withApplication
          (session.makeResult
            (if readConfirmedError then .applicationRejected else .responsePending)
            connection.status 0 0) connection
      session }
  | .consumedNoResponse =>
    (session.consumeInput connection.consumedBytes).idle .progressed connection.status
  | .applicationRejected =>
    let session := session.consumeInput connection.consumedBytes
    { result :=
        withApplication (session.makeResult .applicationRejected connection.status 0 0) connection
      session }
  | .closed =>
    (session.consumeInput connection.consumedBytes).terminate input.nowMs .peerClosed
      connection.status
  | .needMore => session.receiveMore input.received input.nowMs
  | _ => session.terminate input.nowMs .protocolError connection.status

/-- Take the first frame out of what was received. -/
def processReceived (services : MmsStaticConnectionServices α) (input : PollInput) :
    PollStep α :=
  let step := session.runtime.processTcpWindow services session.application session.receive
    session.buffers.response session.buffers.workspace input.nowMs
  let session := { session with runtime := step.runtime, application := step.application }
  let after := session.afterWindow step.result input
  { after with notified := step.notified.toList ++ after.notified }

def pollOnce (services : MmsStaticConnectionServices α) (input : PollInput) : PollStep α :=
  if !session.buffers.valid || !session.streamSet then
    session.terminate input.nowMs .invalidConfiguration .backendFailure
  else if session.terminal then session.idle .protocolError .closed
  else if session.responseOffset < session.response.length then
    session.sendPending input.sent input.nowMs
  else if session.receive ≠ [] then session.processReceived services input
  else session.receiveMore input.received input.nowMs

def reset (nowMs : UInt64) : MmsStaticServerSession α × List AssociationClosed :=
  let (runtime, notified) := session.runtime.reset nowMs
  ({ session with
      runtime, receive := [], response := [], responseOffset := 0, terminal := false },
    notified.toList)

/-- The platform closes the transport of the runtime. -/
def closeTransport (nowMs : UInt64) : MmsStaticServerSession α × List AssociationClosed :=
  let (runtime, notified) := session.runtime.closeTransport nowMs
  ({ session with runtime }, notified.toList)

end MmsStaticServerSession

/-! ## Runs -/

/-- A call of a member function of the runtime. -/
inductive ConnectionEvent where
  | processTcpWindow (tcpBytes : Bytes) (responseSize workspaceSize : Nat) (nowMs : UInt64)
  | closeTransport (nowMs : UInt64)
  | reset (nowMs : UInt64)
  deriving DecidableEq

/-- A runtime with the history of its associations: those that were established and the calls
of the lifecycle callback, in order. -/
inductive AssociationNote where
  | established (associationId : UInt64)
  | closed (call : AssociationClosed)
  deriving DecidableEq

/-- The note of a step that has established an association. -/
def establishedNotes (before after : MmsStaticConnectionRuntime) : List AssociationNote :=
  if after.state = .established ∧ before.state ≠ .established then
    [.established after.policy.associationId]
  else []

structure ConnectionSession (α : Type) where
  runtime : MmsStaticConnectionRuntime
  application : α
  notes : List AssociationNote := []

namespace ConnectionSession

variable {α : Type}

def step (services : MmsStaticConnectionServices α) (s : ConnectionSession α) :
    ConnectionEvent → ConnectionSession α
  | .processTcpWindow tcpBytes responseSize workspaceSize nowMs =>
    let step := s.runtime.processTcpWindow services s.application tcpBytes responseSize
      workspaceSize nowMs
    { runtime := step.runtime
      application := step.application
      notes := s.notes ++ step.notified.toList.map .closed ++
        establishedNotes s.runtime step.runtime }
  | .closeTransport nowMs =>
    let (runtime, notified) := s.runtime.closeTransport nowMs
    { s with runtime, notes := s.notes ++ notified.toList.map .closed }
  | .reset nowMs =>
    let (runtime, notified) := s.runtime.reset nowMs
    { s with runtime, notes := s.notes ++ notified.toList.map .closed }

end ConnectionSession

/-- A call of a member function of the session, or the platform closing the transport. -/
inductive ServerSessionEvent where
  | poll (input : PollInput)
  | closeTransport (nowMs : UInt64)
  | reset (nowMs : UInt64)
  deriving DecidableEq

structure ServerSessionRun (α : Type) where
  session : MmsStaticServerSession α
  notes : List AssociationNote := []

namespace ServerSessionRun

variable {α : Type}

def step (services : MmsStaticConnectionServices α) (s : ServerSessionRun α) :
    ServerSessionEvent → ServerSessionRun α
  | .poll input =>
    let step := s.session.pollOnce services input
    { session := step.session
      notes := s.notes ++ step.notified.map .closed ++
        establishedNotes s.session.runtime step.session.runtime }
  | .closeTransport nowMs =>
    let (session, notified) := s.session.closeTransport nowMs
    { session, notes := s.notes ++ notified.map .closed }
  | .reset nowMs =>
    let (session, notified) := s.session.reset nowMs
    { session, notes := s.notes ++ notified.map .closed }

end ServerSessionRun

end ArStack.Mms
