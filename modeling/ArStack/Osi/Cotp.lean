import ArStack.Wire
import ArStack.Lib.Framing

/-!
# COTP TPDUs

A TPDU is a header, whose length its first octet gives, and user data. A Data TPDU carries one
segment of a message; its third octet has the end-of-transmission mark and a number.

* `CotpFrameCodec.tryDecode` — one TPDU
* `CotpFrameCodec.encodeConnectionConfirm`, `encodeConnectionConfirmFor` — the answer to a
  connection request
* `CotpFrameCodec.encodeDataSegments` — the Data TPDUs of a message
* `CotpDataReassembler` — the message of a sequence of Data TPDUs
* `CotpSpanCodec.encodeDataInto` — one Data TPDU in a span
-/

namespace ArStack.Osi

open ArStack.Wire

inductive CotpTpduKind where
  | unknown
  | connectionRequest
  | connectionConfirm
  | data
  | disconnectRequest
  | error
  deriving DecidableEq

structure CotpParameter where
  code : UInt8 := 0
  value : Bytes := []
  deriving DecidableEq

structure CotpTpdu where
  kind : CotpTpduKind := .unknown
  code : UInt8 := 0
  lengthIndicator : UInt8 := 0
  destinationReference : Nat := 0
  sourceReference : Nat := 0
  classOrReason : UInt8 := 0
  endOfTransmission : Bool := false
  tpduNumber : UInt8 := 0
  parameters : List CotpParameter := []
  userData : Bytes := []
  deriving DecidableEq

/-- The first parameter with this code. -/
def CotpTpdu.parameter (tpdu : CotpTpdu) (parameterCode : UInt8) : Option Bytes :=
  (tpdu.parameters.find? (·.code == parameterCode)).map (·.value)

namespace CotpFrameCodec

def connectionRequestCode : UInt8 := 0xE0
def connectionConfirmCode : UInt8 := 0xD0
def disconnectRequestCode : UInt8 := 0x80
def dataCode : UInt8 := 0xF0
def errorCode : UInt8 := 0x70

def kindFromCode (code : UInt8) : CotpTpduKind :=
  if code = connectionRequestCode then .connectionRequest
  else if code = connectionConfirmCode then .connectionConfirm
  else if code = dataCode then .data
  else if code = disconnectRequestCode then .disconnectRequest
  else if code = errorCode then .error
  else .unknown

def tpduSizeBytes (tpduSizeCode : UInt8) : Except String Nat :=
  if tpduSizeCode < 0x07 ∨ tpduSizeCode > 0x0F then
    .error "COTP TPDU size code must be in the range 0x07..0x0F."
  else .ok (1 <<< tpduSizeCode.toNat)

/-- The parameters of a variable header. -/
def parseParameters : Bytes → Except String (List CotpParameter)
  | [] => .ok []
  | [_] => .error "COTP parameter header is truncated."
  | code :: length :: rest =>
    if length.toNat > rest.length then
      .error "COTP parameter value exceeds the variable header."
    else do
      let parameters ← parseParameters (rest.drop length.toNat)
      .ok ({ code, value := rest.take length.toNat } :: parameters)
termination_by bytes => bytes.length
decreasing_by
  simp only [List.length_drop, List.length_cons]
  omega

def tryDecodeData (bytes : Bytes) : Except String CotpTpdu :=
  if octetAt bytes 0 ≠ 2 then .error "COTP Data TPDU must use a two-octet length indicator."
  else
    .ok
      { kind := .data
        code := octetAt bytes 1
        lengthIndicator := octetAt bytes 0
        endOfTransmission := octetAt bytes 2 &&& 0x80 != 0
        tpduNumber := octetAt bytes 2 &&& 0x7F
        userData := bytes.drop 3 }

def tryDecodeReference (bytes : Bytes) (kind : CotpTpduKind) : Except String CotpTpdu :=
  let headerEnd := (octetAt bytes 0).toNat + 1
  if octetAt bytes 0 < 6 ∨ bytes.length < 7 then
    .error "COTP reference TPDU is shorter than the fixed header."
  else
    match parseParameters (Lib.slice bytes 7 (headerEnd - 7)) with
    | .error error => .error error
    | .ok parameters =>
      let userData := bytes.drop headerEnd
      if (kind = .connectionRequest ∨ kind = .connectionConfirm) ∧ userData ≠ [] then
        .error "COTP CR/CC contains unsupported trailing user data."
      else
        .ok
          { kind
            code := octetAt bytes 1
            lengthIndicator := octetAt bytes 0
            destinationReference := readAt bytes 2 2
            sourceReference := readAt bytes 4 2
            classOrReason := octetAt bytes 6
            endOfTransmission := true
            parameters
            userData }

def tryDecode (bytes : Bytes) : Except String CotpTpdu :=
  if bytes.length < 2 then .error "COTP TPDU is shorter than LI and code octets."
  else if octetAt bytes 0 < 2 ∨ (octetAt bytes 0).toNat + 1 > bytes.length then
    .error "COTP length indicator is invalid for the supplied TPDU."
  else
    match kindFromCode (octetAt bytes 1) with
    | .unknown => .error "Unknown COTP TPDU code."
    | .data => tryDecodeData bytes
    | kind => tryDecodeReference bytes kind

/-! ### The connection confirm -/

def tpduSizeParameter : UInt8 := 0xC0
def sourceTsapParameter : UInt8 := 0xC1
def destinationTsapParameter : UInt8 := 0xC2

/-- The octets of the parameters, from those of the parameters before. -/
def encodedParametersSize : Nat → List CotpParameter → Except String Nat
  | total, [] => .ok total
  | total, parameter :: parameters =>
    if parameter.value.length > 248 then
      .error "COTP parameter value exceeds the variable-header capacity."
    else
      let encodedSize := 2 + parameter.value.length
      if encodedSize > 248 - total then
        .error "COTP variable header exceeds the length-indicator capacity."
      else encodedParametersSize (total + encodedSize) parameters

def parameterBytes (parameters : List CotpParameter) : Bytes :=
  parameters.flatMap fun parameter =>
    [parameter.code, UInt8.ofNat parameter.value.length] ++ parameter.value

/-- A TPDU with references and a variable header. -/
def encodeReferenceTpdu (code : UInt8) (destinationReference sourceReference : Nat)
    (classOrReason : UInt8) (parameters : List CotpParameter) : Except String Bytes := do
  let size ← encodedParametersSize 0 parameters
  if 6 + size > 255 then .error "COTP header exceeds the one-byte length indicator."
  else
    .ok ([UInt8.ofNat (6 + size), code] ++ Lib.beOctets 2 destinationReference ++
      Lib.beOctets 2 sourceReference ++ [classOrReason] ++ parameterBytes parameters)

/-- The TPDU size code of the answer: the smaller one of what is offered and the maximum. -/
def selectedTpduSize (request : CotpTpdu) (maximumTpduSizeCode : UInt8) : Except String UInt8 := do
  let _ ← tpduSizeBytes maximumTpduSizeCode
  match request.parameter tpduSizeParameter with
  | some [offered] => do
    let _ ← tpduSizeBytes offered
    .ok (min offered maximumTpduSizeCode)
  | _ => .ok maximumTpduSizeCode

/-- Source and destination selector change places; the other parameters are not answered. -/
def confirmParameter (parameter : CotpParameter) : Option CotpParameter :=
  if parameter.code = sourceTsapParameter ∧ parameter.value ≠ [] then
    some { code := destinationTsapParameter, value := parameter.value }
  else if parameter.code = destinationTsapParameter ∧ parameter.value ≠ [] then
    some { code := sourceTsapParameter, value := parameter.value }
  else none

def connectionConfirmParameters (request : CotpTpdu) (maximumTpduSizeCode : UInt8) :
    Except String (List CotpParameter) := do
  let selected ← selectedTpduSize request maximumTpduSizeCode
  .ok ({ code := tpduSizeParameter, value := [selected] } ::
    request.parameters.filterMap confirmParameter)

def encodeConnectionConfirm (destinationReference sourceReference : Nat)
    (maximumTpduSizeCode : UInt8 := 0x0A) : Except String Bytes := do
  let _ ← tpduSizeBytes maximumTpduSizeCode
  encodeReferenceTpdu connectionConfirmCode destinationReference sourceReference 0
    [{ code := tpduSizeParameter, value := [maximumTpduSizeCode] }]

/-- The overload that answers a decoded request. -/
def encodeConnectionConfirmFor (connectionRequest : CotpTpdu) (sourceReference : Nat)
    (maximumTpduSizeCode : UInt8 := 0x0A) : Except String Bytes :=
  if connectionRequest.kind ≠ .connectionRequest then
    .error "COTP connection confirm requires a decoded connection request."
  else do
    let parameters ← connectionConfirmParameters connectionRequest maximumTpduSizeCode
    encodeReferenceTpdu connectionConfirmCode connectionRequest.sourceReference sourceReference 0
      parameters

/-! ### Data -/

/-- The octets of a Data TPDU. -/
def dataTpdu (userData : Bytes) (endOfTransmission : Bool) (tpduNumber : UInt8) : Bytes :=
  [0x02, dataCode, (if endOfTransmission then 0x80 else 0x00) ||| tpduNumber] ++ userData

def encodeData (userData : Bytes) (endOfTransmission : Bool) (tpduNumber : UInt8) :
    Except String Bytes :=
  if tpduNumber > 0x7F then .error "COTP TPDU number must fit in seven bits."
  else if userData.length > sizeMax - 3 then
    .error "COTP Data payload size overflows the encoded frame length."
  else .ok (dataTpdu userData endOfTransmission tpduNumber)

/-- The loop of `encode_data_segments` on what is left of the message. -/
def encodeDataSegmentsFrom (maximumUserData : Nat) (tpduNumber : UInt8) (userData : Bytes) :
    Except String (List Bytes) :=
  if _h : userData = [] ∨ maximumUserData = 0 then .ok []
  else do
    let length := min maximumUserData userData.length
    let final := length = userData.length
    let segment ← encodeData (userData.take length) final tpduNumber
    let segments ←
      encodeDataSegmentsFrom maximumUserData ((tpduNumber + 1) &&& 0x7F) (userData.drop length)
    .ok (segment :: segments)
termination_by userData.length
decreasing_by
  have : userData.length ≠ 0 := fun h => _h (Or.inl (List.length_eq_zero_iff.mp h))
  rw [List.length_drop]
  omega

def encodeDataSegments (userData : Bytes) (tpduSizeCode : UInt8) : Except String (List Bytes) := do
  let capacity ← tpduSizeBytes tpduSizeCode
  if capacity ≤ 3 then .error "COTP TPDU capacity cannot hold a Data header."
  else if userData = [] then do
    let segment ← encodeData [] true 0
    .ok [segment]
  else encodeDataSegmentsFrom (capacity - 3) 0 userData

end CotpFrameCodec

/-! ## Reassembly -/

structure CotpDataReassembler where
  maximumBytes : Nat := 64 * 1024 * 1024
  maximumFragments : Nat := 1048576
  maximumEmptyNonfinalFragments : Nat := 1024
  fragmentCount : Nat := 0
  emptyNonfinalFragments : Nat := 0
  isComplete : Bool := false
  buffer : Bytes := []
  deriving DecidableEq

namespace CotpDataReassembler

def create (maximumBytes maximumFragments maximumEmptyNonfinalFragments : Nat) :
    Except String CotpDataReassembler :=
  if maximumBytes = 0 ∨ maximumBytes > 512 * 1024 * 1024 then
    .error "COTP reassembly byte limit is outside the supported range."
  else if maximumFragments = 0 ∨ maximumFragments > 16 * 1024 * 1024 then
    .error "COTP reassembly fragment limit is outside the supported range."
  else if maximumEmptyNonfinalFragments = 0 ∨ maximumEmptyNonfinalFragments > maximumFragments then
    .error "COTP empty-fragment limit is invalid."
  else .ok { maximumBytes, maximumFragments, maximumEmptyNonfinalFragments }

/-- An empty segment that is not the last one. -/
def emptyNonfinal (tpdu : CotpTpdu) : Bool := tpdu.userData.isEmpty && !tpdu.endOfTransmission

def append (reassembler : CotpDataReassembler) (tpdu : CotpTpdu) :
    Except String CotpDataReassembler :=
  if reassembler.isComplete then .error "COTP Data sequence is already complete."
  else if tpdu.kind ≠ .data then .error "COTP reassembler accepts only Data TPDUs."
  else if reassembler.fragmentCount ≥ reassembler.maximumFragments then
    .error "COTP Data sequence exceeded the fragment-count limit."
  else if emptyNonfinal tpdu ∧
      reassembler.emptyNonfinalFragments ≥ reassembler.maximumEmptyNonfinalFragments then
    .error "COTP Data sequence exceeded the empty non-final fragment limit."
  else if tpdu.userData.length > reassembler.maximumBytes - reassembler.buffer.length then
    .error "COTP Data sequence exceeded the bounded reassembly size."
  else
    .ok
      { reassembler with
        fragmentCount := reassembler.fragmentCount + 1
        emptyNonfinalFragments :=
          reassembler.emptyNonfinalFragments + if emptyNonfinal tpdu then 1 else 0
        isComplete := tpdu.endOfTransmission
        buffer := reassembler.buffer ++ tpdu.userData }

def appendEncoded (reassembler : CotpDataReassembler) (encodedTpdu : Bytes) :
    Except String CotpDataReassembler := do
  let tpdu ← CotpFrameCodec.tryDecode encodedTpdu
  reassembler.append tpdu

def complete (reassembler : CotpDataReassembler) : Except String Bytes :=
  if !reassembler.isComplete then .error "COTP Data sequence ended before EOT."
  else .ok reassembler.buffer

end CotpDataReassembler

/-! ## Spans -/

namespace CotpSpanCodec

def encodeDataInto (userData : Bytes) (destinationSize : Nat) (endOfTransmission : Bool)
    (tpduNumber : UInt8) : EncodeResult :=
  if tpduNumber > 0x7F ∨ userData.length > sizeMax - 3 then { status := .valueOutOfRange }
  else
    let required := userData.length + 3
    if destinationSize < required then { status := .bufferTooSmall, requiredBytes := required }
    else
      { bytes := CotpFrameCodec.dataTpdu userData endOfTransmission tpduNumber
        requiredBytes := required }

end CotpSpanCodec

end ArStack.Osi
