import Mathlib.Data.List.DropRight
import ArStack.Mms.Pdu

/-!
# File services

`MmsFileServiceCodec` encodes the requests of FileOpen, FileRead and FileClose and decodes their
responses. What it throws is a diagnostic.

* `normalizeRemotePath`, `rootedBackslashPath`
* `decodeServiceResponse` — what every response has to be
* `decodeFileOpenResponse`, `decodeFileReadResponse`, `decodeFileCloseResponse`
-/

namespace ArStack.Mms

open ArStack.Asn1

inductive MmsFileFailureKind where
  | none
  | invalidArgument
  | malformedResponse
  | invokeIdMismatch
  | unexpectedService
  | confirmedError
  | rejectOrAbort
  | transport
  | cancelled
  | timedOut
  | protocol
  | limitExceeded
  | sink
  | cleanup
  deriving DecidableEq

structure MmsFileDiagnostic where
  stage : String := ""
  failureKind : MmsFileFailureKind := .none
  success : Bool := false
  message : String := ""
  invokeId : Option Nat := none
  frsmId : Option Int32 := none
  errorClass : Option Nat := none
  errorValue : Option Nat := none
  requestHex : String := ""
  responseHex : String := ""
  deriving DecidableEq

def MmsFileDiagnostic.fileNonExistent (diagnostic : MmsFileDiagnostic) : Bool :=
  diagnostic.failureKind == .confirmedError && diagnostic.errorClass == some 11 &&
    diagnostic.errorValue == some 7

structure MmsFileOpenRequest where
  invokeId : Nat := 0
  remotePath : Bytes := []
  initialPosition : UInt32 := 0
  rootedBackslash : Bool := false
  deriving DecidableEq

structure MmsFileOpenResponse where
  invokeId : Nat := 0
  frsmId : Int32 := 0
  fileSizeBytes : Option UInt32 := none
  lastModified : Bytes := []
  deriving DecidableEq

/-- `MmsFileReadRequest` and `MmsFileCloseRequest` have the same fields. -/
structure MmsFrsmRequest where
  invokeId : Nat := 0
  frsmId : Int32 := 0
  deriving DecidableEq

structure MmsFileReadResponse where
  invokeId : Nat := 0
  data : Bytes := []
  moreFollows : Bool := true
  deriving DecidableEq

structure MmsFileCloseResponse where
  invokeId : Nat := 0
  deriving DecidableEq

/-- The characters of these octets. -/
def fileText (octets : Bytes) : String := String.ofList (octets.map fun octet => Char.ofNat octet.toNat)

def codecHexPreviewBytes : Nat := 512

def hexDigit (value : Nat) : Char := Char.ofNat (if value < 10 then 0x30 + value else 0x37 + value)

def hexPreview (bytes : Bytes) (maximumBytes : Nat := codecHexPreviewBytes) : String :=
  let octets := (bytes.take maximumBytes).map fun octet =>
    String.ofList [hexDigit (octet.toNat / 16), hexDigit (octet.toNat % 16)]
  String.intercalate " " octets ++
    if maximumBytes < bytes.length then " ... (" ++ toString bytes.length ++ " bytes total)" else ""

namespace MmsFileServiceCodec

def fileOpenServiceTag : Nat := 72
def fileReadServiceTag : Nat := 73
def fileCloseServiceTag : Nat := 74
def maximumPathBytes : Nat := 1024

/-! ## Paths -/

def blank (octet : UInt8) : Bool :=
  octet == 0x20 || octet == 0x09 || octet == 0x0D || octet == 0x0A

/-- Without the blanks around it. -/
def trimBlanks (text : Bytes) : Bytes := (text.dropWhile blank).rdropWhile blank

/-- The parts between the slashes. -/
def pathSegments : Bytes → List Bytes
  | [] => [[]]
  | octet :: rest =>
    if octet = 0x2F then [] :: pathSegments rest
    else
      match pathSegments rest with
      | [] => [[octet]]
      | segment :: segments => (octet :: segment) :: segments

/-- A segment without blanks; an empty one is left out. -/
def normalizeSegment (segment : Bytes) : Except String (Option Bytes) :=
  match trimBlanks segment with
  | [] => .ok none
  | segment =>
    if segment = [0x2E] ∨ segment = [0x2E, 0x2E] then
      .error "MMS remote path contains a traversal segment."
    else if 0x3A ∈ segment then
      .error "MMS remote path contains an ambiguous drive/scheme segment."
    else if segment.any (· < 0x20) then .error "MMS remote path contains a control character."
    else .ok (some segment)

def normalizeRemotePath (path : Bytes) (allowRoot : Bool := false) : Except String Bytes :=
  if 0 ∈ path then .error "MMS remote path contains a null character."
  else if trimBlanks path = [] then
    if allowRoot then .ok [] else .error "MMS remote path is empty."
  else
    let path := (trimBlanks path).map fun octet => if octet = 0x5C then 0x2F else octet
    if allowRoot = true ∧ (path = [0x2F] ∨ path = [0x2A]) then .ok []
    else do
      let segments ← (pathSegments path).mapM normalizeSegment
      let normalized := List.intercalate [0x2F] (segments.filterMap id)
      if normalized = [] then
        if allowRoot then .ok [] else .error "MMS remote path has no usable segment."
      else if normalized.length > maximumPathBytes then
        .error "MMS remote path exceeds the configured byte bound."
      else .ok normalized

def rootedBackslashPath (path : Bytes) : Except String Bytes := do
  let normalized ← normalizeRemotePath path
  .ok (0x5C :: normalized.map fun octet => if octet = 0x2F then 0x5C else octet)

/-! ## Requests -/

def concat (parts : List Bytes) : Except String Bytes :=
  concatWithin MmsPduCodec.maximumPduBytes "MMS file-service encoding exceeds the PDU bound." parts

def graphicString (value : Bytes) : Except String Bytes := BerWriter.encodeTagged 0x19 value

def encodeSegmentedFileName (path : Bytes) : Except String Bytes := do
  let segments ← (pathSegments path).mapM graphicString
  .ok segments.flatten

def validateInvokeId (invokeId : Nat) : Except String Unit :=
  if invokeId = 0 ∨ invokeId > MmsPduCodec.maximumInvokeId then
    .error "MMS file-service invoke ID is outside the supported range."
  else .ok ()

def encodeFileOpenRequestPdu (request : MmsFileOpenRequest) : Except String Bytes := do
  validateInvokeId request.invokeId
  let normalized ← normalizeRemotePath request.remotePath
  let nameContent ←
    if request.rootedBackslash then do
      let rooted ← rootedBackslashPath normalized
      graphicString rooted
    else encodeSegmentedFileName normalized
  let fileName ← BerWriter.encodeTlv .contextSpecific true 0 nameContent
  let position ← BerWriter.encodeTlv .contextSpecific false 1
    (positiveIntegerContent request.initialPosition.toUInt64)
  let body ← concat [fileName, position]
  MmsPduCodec.encodeConfirmedRequest
    { invokeId := request.invokeId, serviceTag := fileOpenServiceTag, serviceValue := body }

def encodeFileOpenRequestPData (request : MmsFileOpenRequest) (presentationContextId : UInt32) :
    Except String Bytes := do
  let pdu ← encodeFileOpenRequestPdu request
  MmsPduCodec.wrapPData pdu presentationContextId

def encodeFrsmRequest (request : MmsFrsmRequest) (serviceTag : Nat) : Except String Bytes := do
  validateInvokeId request.invokeId
  MmsPduCodec.encodeConfirmedRequest
    { invokeId := request.invokeId
      serviceTag
      serviceConstructed := false
      serviceValue := BerWriter.encodeSignedInteger request.frsmId.toInt64 }

def encodeFileReadRequestPData (request : MmsFrsmRequest) (presentationContextId : UInt32) :
    Except String Bytes := do
  let pdu ← encodeFrsmRequest request fileReadServiceTag
  MmsPduCodec.wrapPData pdu presentationContextId

def encodeFileCloseRequestPData (request : MmsFrsmRequest) (presentationContextId : UInt32) :
    Except String Bytes := do
  let pdu ← encodeFrsmRequest request fileCloseServiceTag
  MmsPduCodec.wrapPData pdu presentationContextId

/-! ## Responses -/

/-- A diagnostic of the codec about this payload. -/
def fileError (stage : String) (failureKind : MmsFileFailureKind) (message : String)
    (invokeId : Option Nat) (payload : Bytes) : MmsFileDiagnostic :=
  { stage, failureKind, message, invokeId, responseHex := hexPreview payload }

def decodeServiceError (envelope : MmsPduEnvelope) (expectedInvokeId : Nat) (operation : String) :
    MmsFileDiagnostic :=
  match MmsPduCodec.decodeConfirmedError envelope.mmsPayload with
  | .ok error =>
    { fileError operation .confirmedError
        ("MMS Confirmed-Error PDU during " ++ operation ++ ": errorClass=[" ++
          toString error.errorClassTag ++ "], value=" ++ toString error.errorValue ++ ".")
        (some error.invokeId) envelope.mmsPayload with
      errorClass := some error.errorClassTag
      errorValue := some error.errorValue }
  | .error message =>
    fileError operation .malformedResponse
      (operation ++ " Confirmed-Error decode failed: " ++ message) (some expectedInvokeId)
      envelope.mmsPayload

def decodeServiceResponse (payload : Bytes) (expectedInvokeId expectedServiceTag : Nat)
    (operation : String) : Except MmsFileDiagnostic MmsConfirmed :=
  match MmsPduCodec.decodeEnvelope payload with
  | .error message =>
    .error (fileError operation .malformedResponse
      (operation ++ " response decode failed: " ++ message) (some expectedInvokeId) payload)
  | .ok envelope =>
    let failed (failureKind : MmsFileFailureKind) (message : String) (invokeId : Option Nat) :
        Except MmsFileDiagnostic MmsConfirmed :=
      .error (fileError operation failureKind message invokeId envelope.mmsPayload)
    if envelope.kind = .confirmedError then
      .error (decodeServiceError envelope expectedInvokeId operation)
    else if envelope.kind = .reject ∨ envelope.kind = .unconfirmed then
      failed .rejectOrAbort ("MMS Reject/Abort PDU during " ++ operation ++ ".") envelope.invokeId
    else if envelope.kind ≠ .confirmedResponse then
      failed .unexpectedService (operation ++ " expected an MMS Confirmed-Response PDU.")
        envelope.invokeId
    else
      match MmsPduCodec.decodeConfirmedResponse envelope.mmsPayload with
      | .error message =>
        failed .malformedResponse (operation ++ " Confirmed-Response decode failed: " ++ message)
          envelope.invokeId
      | .ok response =>
        if response.invokeId ≠ expectedInvokeId then
          failed .invokeIdMismatch
            (operation ++ " invoke ID mismatch. Expected " ++ toString expectedInvokeId ++
              ", received " ++ toString response.invokeId ++ ".") (some response.invokeId)
        else if response.serviceTag ≠ expectedServiceTag then
          failed .unexpectedService
            (operation ++ " response service mismatch. Expected [" ++ toString expectedServiceTag ++
              "], received [" ++ toString response.serviceTag ++ "].") (some response.invokeId)
        else .ok response

def readU32 (field : BerTlv) : Option UInt32 :=
  (BerReader.readUnsignedInteger field).bind fun value =>
    if value > uint32Max then none else some (.ofNat value)

/-- An attribute of the opened file. -/
def openAttribute (result : MmsFileOpenResponse) (field : BerTlv) :
    Except String MmsFileOpenResponse :=
  if field.tagClass ≠ .contextSpecific then .ok result
  else if field.tagNumber = 0 then
    match readU32 field with
    | some size => .ok { result with fileSizeBytes := some size }
    | none => .error "FileOpen size is not an unsigned Integer32."
  else if field.tagNumber = 1 then .ok { result with lastModified := field.value }
  else .ok result

/-- A field of a FileOpen response, with whether the FRSM identifier was read. -/
def openField : MmsFileOpenResponse × Bool → BerTlv → Except String (MmsFileOpenResponse × Bool)
  | (result, haveFrsm), field =>
    if field.tagClass ≠ .contextSpecific then .ok (result, haveFrsm)
    else if field.tagNumber = 0 ∧ field.constructed = false then
      match BerReader.readSignedInteger field with
      | some value =>
        if value < -2147483648 ∨ value > 2147483647 then
          .error "FileOpen FRSM is not a signed Integer32."
        else .ok ({ result with frsmId := .ofInt value }, true)
      | none => .error "FileOpen FRSM is not a signed Integer32."
    else if field.tagNumber = 1 ∧ field.constructed = true then do
      let attributes ← BerReader.readChildren field.value
      let result ← attributes.foldlM openAttribute result
      .ok (result, haveFrsm)
    else .ok (result, haveFrsm)

def readOpenResponse (service : MmsConfirmed) : Except String MmsFileOpenResponse := do
  let fields ← BerReader.readChildren service.serviceValue
  let (result, haveFrsm) ← fields.foldlM openField ({ invokeId := service.invokeId }, false)
  if haveFrsm then .ok result
  else .error "FileOpen response has no signed Integer32 FRSM identifier."

def decodeFileOpenResponse (payload : Bytes) (expectedInvokeId : Nat) :
    Except MmsFileDiagnostic MmsFileOpenResponse := do
  let service ← decodeServiceResponse payload expectedInvokeId fileOpenServiceTag "FileOpen"
  match readOpenResponse service with
  | .ok result => .ok result
  | .error message =>
    .error (fileError "FileOpen" .malformedResponse
      ("FileOpen service decode failed: " ++ message) (some service.invokeId) payload)

/-- A field of a FileRead response, with whether a data block was read. -/
def readField : MmsFileReadResponse × Bool → BerTlv → Except String (MmsFileReadResponse × Bool)
  | (result, haveData), field =>
    if field.tagClass ≠ .contextSpecific then .ok (result, haveData)
    else if field.tagNumber = 0 ∧ field.constructed = false then
      if haveData then .error "FileRead response contains duplicate data blocks."
      else .ok ({ result with data := field.value }, true)
    else if field.tagNumber = 1 ∧ field.value ≠ [] then
      let moreFollows := (BerReader.readBoolean field).getD (octetAt field.value 0 != 0)
      .ok ({ result with moreFollows }, haveData)
    else .ok (result, haveData)

def readReadResponse (service : MmsConfirmed) : Except String MmsFileReadResponse := do
  let fields ← BerReader.readChildren service.serviceValue
  let (result, haveData) ← fields.foldlM readField ({ invokeId := service.invokeId }, false)
  if haveData then .ok result else .error "FileRead response has no data block."

def decodeFileReadResponse (payload : Bytes) (expectedInvokeId : Nat) :
    Except MmsFileDiagnostic MmsFileReadResponse := do
  let service ← decodeServiceResponse payload expectedInvokeId fileReadServiceTag "FileRead"
  match readReadResponse service with
  | .ok result => .ok result
  | .error message =>
    .error (fileError "FileRead" .malformedResponse
      ("FileRead service decode failed: " ++ message) (some service.invokeId) payload)

def decodeFileCloseResponse (payload : Bytes) (expectedInvokeId : Nat) :
    Except MmsFileDiagnostic MmsFileCloseResponse := do
  let service ← decodeServiceResponse payload expectedInvokeId fileCloseServiceTag "FileClose"
  if service.serviceValue ≠ [] then
    .error (fileError "FileClose" .malformedResponse
      "FileClose successful response must be empty." (some service.invokeId) payload)
  else .ok { invokeId := service.invokeId }

end MmsFileServiceCodec

end ArStack.Mms
