import ArStack.Mms.AssociationEvents
import ArStack.Mms.FileService

/-!
# File transfer

`MmsFileTransferRuntime` downloads a file over an association into a sink: it opens the file, reads
its blocks and closes it whatever happened in between. The sink and the stop token answer from
scripts, which the environment writes.

* `openFile`, `readBlock`, `readBlocks`, `transfer`, `closeFile`
* `download`, `downloadAdaptive`
-/

namespace ArStack.Mms

structure MmsFileTransferOptions where
  maximumBytes : Nat := 512 * 1024 * 1024
  maximumReadOperations : Nat := 100000
  maximumBlockBytes : Nat := 1024 * 1024
  maximumDiagnostics : Nat := 64
  maximumDiagnosticBytes : Nat := 512
  requireDeclaredSizeMatch : Bool := false
  deriving DecidableEq

/-- How a sink takes a call: it does what it is asked, or it is left with other content and an
error. -/
inductive SinkAnswer where
  | done
  | failed (left : Bytes) (error : String)
  deriving DecidableEq

/-- A sink, with its answers to come; behind them it does what it is asked. -/
structure MmsFileSink where
  content : Bytes := []
  writes : List SinkAnswer := []
  flushes : List SinkAnswer := []
  resets : List SinkAnswer := []
  deriving DecidableEq

namespace MmsFileSink

variable (sink : MmsFileSink)

/-- The text of the error, if there is one. -/
def write (data : Bytes) : Option String × MmsFileSink :=
  match sink.writes with
  | .failed left error :: writes => (some error, { sink with content := left, writes })
  | answers => (none, { sink with content := sink.content ++ data, writes := answers.drop 1 })

def flush : Option String × MmsFileSink :=
  match sink.flushes with
  | .failed left error :: flushes => (some error, { sink with content := left, flushes })
  | answers => (none, { sink with flushes := answers.drop 1 })

def reset : Option String × MmsFileSink :=
  match sink.resets with
  | .failed left error :: resets => (some error, { sink with content := left, resets })
  | answers => (none, { sink with content := [], resets := answers.drop 1 })

end MmsFileSink

structure MmsFileTransferResult where
  success : Bool := false
  remotePath : Bytes := []
  bytesTransferred : Nat := 0
  expectedBytes : Option Nat := none
  readOperations : Nat := 0
  remoteFileClosed : Bool := false
  adaptiveFallbackAttempted : Bool := false
  adaptiveFallbackSucceeded : Bool := false
  failureKind : MmsFileFailureKind := .none
  message : String := ""
  diagnostics : List MmsFileDiagnostic := []
  primaryAttemptDiagnostics : List MmsFileDiagnostic := []
  fallbackAttemptDiagnostics : List MmsFileDiagnostic := []
  deriving DecidableEq

/-- What a transfer does with the server and the sink, which nothing reads. -/
inductive FileTraffic where
  | openRequested (path : Bytes) (rootedBackslash : Bool)
  /-- A FileOpen response is decoded. -/
  | opened (frsmId : Int32) (declared : Option UInt32)
  | readRequested (frsmId : Int32)
  /-- A FileRead response is decoded. -/
  | block (data : Bytes) (moreFollows : Bool)
  | flushed
  | closeRequested (frsmId : Int32)
  deriving DecidableEq

/-- The runtime's channel, which is an association, and the caller's sink and stop token. -/
structure FileClient where
  association : MmsEventedAssociation := {}
  sink : MmsFileSink := {}
  /-- The answers of the stop token. -/
  stops : List Bool := []
  traffic : List FileTraffic := []
  deriving DecidableEq

/-- A download under way. -/
structure FileTransfer where
  client : FileClient := {}
  result : MmsFileTransferResult := {}
  frsm : Option Int32 := none

/-- What is thrown in it: an error of the file services, or another exception with this text. -/
inductive FileThrown where
  | service (diagnostic : MmsFileDiagnostic)
  | other (what : String)

abbrev TransferM := EStateM FileThrown FileTransfer

/-! ## Diagnostics -/

def boundText (value : String) (maximumBytes : Nat) : String :=
  if value.length ≤ maximumBytes then value
  else String.ofList (value.toList.take maximumBytes) ++ "...(" ++ toString value.length ++ " bytes)"

def appendDiagnostic (diagnostics : List MmsFileDiagnostic) (diagnostic : MmsFileDiagnostic)
    (options : MmsFileTransferOptions) : List MmsFileDiagnostic :=
  let diagnostic := { diagnostic with
    message := boundText diagnostic.message options.maximumDiagnosticBytes
    requestHex := boundText diagnostic.requestHex options.maximumDiagnosticBytes
    responseHex := boundText diagnostic.responseHex options.maximumDiagnosticBytes }
  if options.maximumDiagnostics = 0 then diagnostics
  else if diagnostics.length < options.maximumDiagnostics then diagnostics ++ [diagnostic]
  else if !diagnostic.success then diagnostics.dropLast ++ [diagnostic]
  else diagnostics

def exceptionDiagnostic (stage : String) (invokeId : Nat) (requestHex what : String)
    (failureKind : MmsFileFailureKind) : MmsFileDiagnostic :=
  { stage, failureKind, message := stage ++ " exchange failed: " ++ what, invokeId := some invokeId,
    requestHex }

/-- The kind of failure for an exception of the channel. -/
def MmsAssociationFailure.fileFailureKind : MmsAssociationFailure → MmsFileFailureKind
  | .cancelled _ => .cancelled
  | .timeout _ => .timedOut
  | .error _ => .transport

def FileThrown.what : FileThrown → String
  | .service diagnostic => diagnostic.message
  | .other what => what

def MmsFileTransferResult.fail (result : MmsFileTransferResult) (failureKind : MmsFileFailureKind)
    (message : String) : MmsFileTransferResult :=
  if result.failureKind = .none then { result with failureKind, message } else result

def hasFileNonexistentOpen (result : MmsFileTransferResult) : Bool :=
  if result.success ∨ result.bytesTransferred ≠ 0 ∨ result.readOperations ≠ 0 then false
  else result.diagnostics.any fun diagnostic =>
    diagnostic.stage == "FileOpen" && diagnostic.fileNonExistent

/-! ## The channel -/

namespace FileClient

variable (client : FileClient)

/-- Poll the stop token. -/
def stopRequested : Bool × FileClient :=
  (client.stops.headD false, { client with stops := client.stops.drop 1 })

def nextInvokeId : Nat × FileClient :=
  let (invokeId, association) := client.association.takeInvokeId
  (invokeId, { client with association })

def record (item : FileTraffic) : FileClient := { client with traffic := client.traffic ++ [item] }

/-- The response payload. The token of the call is stopped or not when it is looked at. -/
def exchangeConfirmed (request : Bytes) (expectedInvokeId : Nat) (stopRequested : Bool) :
    Except MmsAssociationFailure Bytes × FileClient :=
  let association := { client.association with
    script := { client.association.script with stopRequested } }
  match MmsEventedAssociation.exchangeConfirmed request expectedInvokeId association with
  | .ok exchange association =>
    (.ok (if exchange.presentationPayload ≠ [] then exchange.presentationPayload
      else exchange.envelope.mmsPayload), { client with association })
  | .error failure association => (.error failure, { client with association })

end FileClient

namespace MmsFileTransferRuntime

open MmsFileServiceCodec

/-! ## Steps of a download -/

def stopRequested : TransferM Bool := fun s =>
  let (stop, client) := s.client.stopRequested
  .ok stop { s with client }

def nextInvokeId : TransferM Nat := fun s =>
  let (invokeId, client) := s.client.nextInvokeId
  .ok invokeId { s with client }

def record (item : FileTraffic) : TransferM Unit := fun s =>
  .ok () { s with client := s.client.record item }

def fail (failureKind : MmsFileFailureKind) (message : String) : TransferM Unit := fun s =>
  .ok () { s with result := s.result.fail failureKind message }

def note (options : MmsFileTransferOptions) (diagnostic : MmsFileDiagnostic) : TransferM Unit :=
  fun s => .ok () { s with result := { s.result with
    diagnostics := appendDiagnostic s.result.diagnostics diagnostic options } }

/-- An encoder that throws. -/
def throwText {α : Type} : Except String α → TransferM α
  | .ok a => pure a
  | .error message => throw (.other message)

/-- A decoder that throws. -/
def throwService {α : Type} : Except MmsFileDiagnostic α → TransferM α
  | .ok a => pure a
  | .error diagnostic => throw (.service diagnostic)

/-- `catch (const MmsFileServiceError&)`. -/
def catchService {α : Type} (body : TransferM α) (handler : MmsFileDiagnostic → TransferM α) :
    TransferM α := fun s =>
  match body s with
  | .ok a s => .ok a s
  | .error (.service diagnostic) s => handler diagnostic s
  | .error (.other what) s => .error (.other what) s

/-- The lambda `exchange`, which turns what the channel throws into an error of the services. -/
def exchange (options : MmsFileTransferOptions) (stage : String) (invokeId : Nat)
    (request : Bytes) : TransferM Bytes := fun s =>
  let (stop, client) := s.client.stopRequested
  match client.exchangeConfirmed request invokeId stop with
  | (.ok payload, client) => .ok payload { s with client }
  | (.error failure, client) =>
    let diagnostic := exceptionDiagnostic stage invokeId
      (hexPreview request options.maximumDiagnosticBytes) failure.message failure.fileFailureKind
    let result := { s.result with
      diagnostics := appendDiagnostic s.result.diagnostics diagnostic options }
    .error (.service diagnostic) { s with client, result }

/-- The handler of an error of the services: it is noted, unless it was just noted. -/
def handleService (options : MmsFileTransferOptions) (stage : String) (frsmId : Option Int32)
    (request : Bytes) (diagnostic : MmsFileDiagnostic) : TransferM Unit := fun s =>
  let noted := s.result.diagnostics.getLast?.any fun last => last.message == diagnostic.message
  let completed := { diagnostic with
    stage
    frsmId := frsmId.or diagnostic.frsmId
    requestHex := hexPreview request options.maximumDiagnosticBytes }
  let result :=
    if noted then s.result
    else { s.result with
      diagnostics := appendDiagnostic s.result.diagnostics completed options }
  .ok () { s with result := result.fail diagnostic.failureKind diagnostic.message }

/-- The frame of the file is known from here on. -/
def takeOpened (options : MmsFileTransferOptions) (opened : MmsFileOpenResponse) (invokeId : Nat)
    (request payload : Bytes) : TransferM Unit := fun s =>
  let declared := opened.fileSizeBytes.filter (0 < ·)
  let sizeText := match declared with
    | some size => ", declaredSize=" ++ toString size.toNat ++ "."
    | none => ", declared size unavailable."
  let result := { s.result with
    expectedBytes := declared.map (·.toNat)
    diagnostics := appendDiagnostic s.result.diagnostics
      { stage := "FileOpen"
        success := true
        message := "FileOpen succeeded; FRSM=" ++ toString opened.frsmId.toInt ++ sizeText
        invokeId := some invokeId
        frsmId := some opened.frsmId
        requestHex := hexPreview request options.maximumDiagnosticBytes
        responseHex := hexPreview payload options.maximumDiagnosticBytes } options }
  let result :=
    if (declared.map (·.toNat)).any (options.maximumBytes < ·) then
      result.fail .limitExceeded
        "Remote file declared size exceeds the configured maximum byte limit."
    else result
  .ok () { s with result, frsm := some opened.frsmId }

def openFile (options : MmsFileTransferOptions) (normalizedPath : Bytes) (rootedBackslash : Bool) :
    TransferM Unit := do
  if ← stopRequested then fail .cancelled "File transfer cancelled before FileOpen."
  else
    let invokeId ← nextInvokeId
    let s ← get
    let request ← throwText (encodeFileOpenRequestPData
      { invokeId, remotePath := normalizedPath, rootedBackslash }
      s.client.association.presentationContextId)
    catchService (do
        record (.openRequested normalizedPath rootedBackslash)
        let payload ← exchange options "FileOpen" invokeId request
        let opened ← throwService (decodeFileOpenResponse payload invokeId)
        record (.opened opened.frsmId opened.fileSizeBytes)
        takeOpened options opened invokeId request payload)
      (handleService options "FileOpen" none request)

/-- What is wrong with a block. -/
def blockFailure (options : MmsFileTransferOptions) (result : MmsFileTransferResult)
    (block : MmsFileReadResponse) : Option (MmsFileFailureKind × String) :=
  let size := block.data.length
  if block.data = [] ∧ block.moreFollows = true then
    some (.protocol, "FileRead returned an empty block while moreFollows remained true.")
  else if size > options.maximumBlockBytes then
    some (.limitExceeded, "FileRead block exceeds the configured maximum block size.")
  else if size > options.maximumBytes - result.bytesTransferred then
    some (.limitExceeded, "File transfer exceeds the configured maximum byte limit.")
  else if result.expectedBytes.any fun expected =>
      decide (size > expected - min expected result.bytesTransferred) then
    some (.protocol, "FileRead bytes exceed the advertised remote file size.")
  else none

/-- Note a decoded block, and what is wrong with it. -/
def noteBlock (options : MmsFileTransferOptions) (block : MmsFileReadResponse) (invokeId : Nat)
    (frsmId : Int32) (request payload : Bytes) : TransferM Unit := fun s =>
  let result := match blockFailure options s.result block with
    | some (failureKind, message) => s.result.fail failureKind message
    | none => s.result
  .ok () { s with result := { result with
    diagnostics := appendDiagnostic result.diagnostics
      { stage := "FileRead #" ++ toString result.readOperations
        failureKind := result.failureKind
        success := decide (result.failureKind = .none)
        message := "FileRead decoded " ++ toString block.data.length ++ " byte(s); moreFollows=" ++
          (if block.moreFollows then "true." else "false.")
        invokeId := some invokeId
        frsmId := some frsmId
        requestHex := hexPreview request options.maximumDiagnosticBytes
        responseHex := hexPreview payload options.maximumDiagnosticBytes } options } }

/-- Whether the sink has taken the block. -/
def writeBlock (options : MmsFileTransferOptions) (data : Bytes) (invokeId : Nat)
    (frsmId : Int32) : TransferM Bool := fun s =>
  if data = [] then .ok true s
  else
    let (failed, sink) := s.client.sink.write data
    let client := { s.client with sink }
    match failed with
    | some error =>
      let result := { s.result with
        diagnostics := appendDiagnostic s.result.diagnostics
          { stage := "Sink write after FileRead #" ++ toString s.result.readOperations
            failureKind := .sink
            message := error
            invokeId := some invokeId
            frsmId := some frsmId } options }
      .ok false { s with client, result := result.fail .sink ("Local sink write failed: " ++ error) }
    | none =>
      let bytesTransferred := s.result.bytesTransferred + data.length
      .ok true { s with client, result := { s.result with bytesTransferred } }

/-- The number of the FileRead operation that begins. -/
def countRead : TransferM Nat := fun s =>
  let readOperations := s.result.readOperations + 1
  .ok readOperations { s with result := { s.result with readOperations } }

/-- The body of the loop: whether another block is to be read. -/
def readBlock (options : MmsFileTransferOptions) : TransferM Bool := do
  let readOperations ← countRead
  let s ← get
  let frsmId := s.frsm.getD 0
  let invokeId ← nextInvokeId
  let request ← throwText (encodeFileReadRequestPData { invokeId, frsmId }
    s.client.association.presentationContextId)
  catchService (do
      record (.readRequested frsmId)
      let payload ← exchange options "FileRead" invokeId request
      let block ← throwService (decodeFileReadResponse payload invokeId)
      record (.block block.data block.moreFollows)
      noteBlock options block invokeId frsmId request payload
      let s ← get
      if s.result.failureKind ≠ .none then pure false
      else if ← writeBlock options block.data invokeId frsmId then pure block.moreFollows
      else pure false)
    (fun diagnostic => do
      handleService options ("FileRead #" ++ toString readOperations) s.frsm request diagnostic
      pure false)

/-- The loop, with the number of FileRead operations that are left. -/
def readBlocks (options : MmsFileTransferOptions) : Nat → TransferM Unit
  | 0 => do
    if ← stopRequested then fail .cancelled "File transfer cancelled before FileRead."
    else fail .limitExceeded "FileRead exceeded the configured operation limit."
  | remaining + 1 => do
    if ← stopRequested then fail .cancelled "File transfer cancelled before FileRead."
    else if ← readBlock options then readBlocks options remaining
    else pure ()

/-- What is checked when all blocks are read. -/
def finish (options : MmsFileTransferOptions) : TransferM Unit := fun s =>
  let mismatch := decide (s.result.failureKind = .none) && options.requireDeclaredSizeMatch &&
    s.result.expectedBytes.any (· != s.result.bytesTransferred)
  let result :=
    if mismatch then
      s.result.fail .protocol "Transferred byte count does not match the advertised file size."
    else s.result
  if result.failureKind = .none then
    let (failed, sink) := s.client.sink.flush
    let client := { s.client with sink }
    match failed with
    | some error =>
      .ok () { s with client, result := result.fail .sink ("Local sink flush failed: " ++ error) }
    | none => .ok () { s with client := client.record .flushed, result }
  else .ok () { s with result }

/-- The body of the outer `try`. -/
def transferBody (options : MmsFileTransferOptions) (normalizedPath : Bytes)
    (rootedBackslash : Bool) : TransferM Unit := do
  openFile options normalizedPath rootedBackslash
  let s ← get
  if s.result.failureKind = .none then readBlocks options options.maximumReadOperations
  else pure ()
  finish options

def transfer (options : MmsFileTransferOptions) (normalizedPath : Bytes) (rootedBackslash : Bool)
    (s : FileTransfer) : FileTransfer :=
  match transferBody options normalizedPath rootedBackslash s with
  | .ok _ s => s
  | .error thrown s =>
    { s with
      result := s.result.fail .transport ("File transfer pipeline failed: " ++ thrown.what) }

/-! ## Closing -/

/-- The close is noted as failed. -/
def closeFailed (options : MmsFileTransferOptions) (result : MmsFileTransferResult)
    (diagnostic : MmsFileDiagnostic) (message : String) : MmsFileTransferResult :=
  { result with
    diagnostics := appendDiagnostic result.diagnostics diagnostic options }.fail .cleanup message

def closeExchange (options : MmsFileTransferOptions) (frsmId : Int32) (client : FileClient)
    (result : MmsFileTransferResult) : FileTransfer :=
  let (invokeId, client) := client.nextInvokeId
  let excepted (what : String) (request : Bytes) : MmsFileTransferResult :=
    closeFailed options result
      { stage := "FileClose"
        failureKind := .cleanup
        message := "FileClose exchange failed: " ++ what
        invokeId := some invokeId
        frsmId := some frsmId
        requestHex := hexPreview request options.maximumDiagnosticBytes }
      ("FileClose failed: " ++ what)
  match encodeFileCloseRequestPData { invokeId, frsmId }
      client.association.presentationContextId with
  | .error what => { client, frsm := some frsmId, result := excepted what [] }
  | .ok request =>
    match (client.record (.closeRequested frsmId)).exchangeConfirmed request invokeId false with
    | (.error failure, client) =>
      { client, frsm := some frsmId, result := excepted failure.message request }
    | (.ok payload, client) =>
      match decodeFileCloseResponse payload invokeId with
      | .error diagnostic =>
        let completed := { diagnostic with
          stage := "FileClose"
          frsmId := some frsmId
          requestHex := hexPreview request options.maximumDiagnosticBytes }
        let result := closeFailed options result completed diagnostic.message
        { client, result, frsm := some frsmId }
      | .ok _ =>
        let closed : MmsFileDiagnostic :=
          { stage := "FileClose"
            success := true
            message := "FileClose succeeded for FRSM=" ++ toString frsmId.toInt ++ "."
            invokeId := some invokeId
            frsmId := some frsmId
            requestHex := hexPreview request options.maximumDiagnosticBytes
            responseHex := hexPreview payload options.maximumDiagnosticBytes }
        let diagnostics := appendDiagnostic result.diagnostics closed options
        let result := { result with remoteFileClosed := true, diagnostics }
        { client, result, frsm := some frsmId }

def closeFile (options : MmsFileTransferOptions) (s : FileTransfer) : FileTransfer :=
  match s.frsm with
  | none => s
  | some frsmId =>
    if s.client.association.associated then closeExchange options frsmId s.client s.result
    else
      let skipped : MmsFileDiagnostic :=
        { stage := "FileClose"
          failureKind := .cleanup
          message := "FileClose skipped because the MMS association is no longer active."
          frsmId := some frsmId }
      let result := closeFailed options s.result skipped
        "FileClose skipped because the association is inactive."
      { s with result }

/-- The verdict. -/
def conclude (s : FileTransfer) : MmsFileTransferResult :=
  let success := decide (s.result.failureKind = .none) &&
    (s.frsm.isNone || s.result.remoteFileClosed)
  let result := { s.result with success }
  if result.success then
    { result with
      message := "Downloaded " ++ toString result.bytesTransferred ++ " byte(s) from '" ++
        fileText result.remotePath ++ "' in " ++ toString result.readOperations ++
        " FileRead operation(s)." }
  else if result.message = "" then { result with message := "MMS file transfer failed." }
  else result

/-! ## Downloads -/

/-- A member function that may throw. -/
abbrev FileClientM := EStateM String FileClient

def downloadAttempt (normalizedPath : Bytes) (rootedBackslash : Bool)
    (options : MmsFileTransferOptions) : FileClientM MmsFileTransferResult := fun client =>
  match if rootedBackslash then rootedBackslashPath normalizedPath else .ok normalizedPath with
  | .error what => .error what client
  | .ok remotePath =>
    if options.maximumBytes = 0 ∨ options.maximumReadOperations = 0 ∨
        options.maximumBlockBytes = 0 ∨ options.maximumDiagnosticBytes = 0 then
      .ok
        { remotePath
          failureKind := .invalidArgument
          message := "File transfer bounds must be greater than zero." } client
    else
      let s := closeFile options
        (transfer options normalizedPath rootedBackslash { client, result := { remotePath } })
      .ok (conclude s) s.client

def download (remotePath : Bytes) (options : MmsFileTransferOptions) :
    FileClientM MmsFileTransferResult := fun client =>
  match normalizeRemotePath remotePath with
  | .error what => .ok { failureKind := .invalidArgument, message := what } client
  | .ok normalized => downloadAttempt normalized false options client

/-- The result of the second attempt, with what the first one has left. -/
def fallbackResult (options : MmsFileTransferOptions) (primary fallback : MmsFileTransferResult) :
    MmsFileTransferResult :=
  { fallback with
    adaptiveFallbackAttempted := true
    adaptiveFallbackSucceeded := fallback.success
    primaryAttemptDiagnostics := primary.diagnostics
    fallbackAttemptDiagnostics := fallback.diagnostics
    diagnostics := fallback.diagnostics.foldl
      (fun diagnostics diagnostic => appendDiagnostic diagnostics diagnostic options)
      primary.diagnostics
    message := fallback.message ++
      if fallback.success then " Adaptive rooted-backslash FileOpen fallback succeeded."
      else " Adaptive rooted-backslash FileOpen fallback also failed." }

def downloadAdaptive (remotePath : Bytes) (options : MmsFileTransferOptions) :
    FileClientM MmsFileTransferResult := do
  let primary ← download remotePath options
  let primary := { primary with primaryAttemptDiagnostics := primary.diagnostics }
  if !hasFileNonexistentOpen primary then pure primary
  else
    let client ← get
    let (failed, sink) := client.sink.reset
    set { client with sink }
    match failed with
    | some resetError =>
      pure { primary with
        failureKind := .sink
        message := primary.message ++
          " Rooted-backslash retry was skipped because the sink could not reset: " ++ resetError
        diagnostics := appendDiagnostic primary.diagnostics
          { stage := "Adaptive sink reset", failureKind := .sink, message := resetError } options }
    | none =>
      match normalizeRemotePath remotePath with
      | .error what => throw what
      | .ok normalized =>
        let fallback ← downloadAttempt normalized true options
        pure (fallbackResult options primary fallback)

end MmsFileTransferRuntime

end ArStack.Mms
