import ArStack.Osi.Cotp

/-!
# COTP TPDUs in spans

The server's view of a TPDU: the parameters stay encoded until one is looked up.

* `CotpSpanCodec.tryDecodeView` — one TPDU
* `CotpSpanCodec.encodeConnectionConfirmFromRequestInto` — the answer to a connection request
-/

namespace ArStack.Osi

open ArStack.Wire

structure CotpTpduView where
  kind : CotpTpduKind := .unknown
  code : UInt8 := 0
  lengthIndicator : UInt8 := 0
  destinationReference : Nat := 0
  sourceReference : Nat := 0
  classOrReason : UInt8 := 0
  endOfTransmission : Bool := false
  tpduNumber : UInt8 := 0
  parameterBytes : Bytes := []
  userData : Bytes := []
  deriving DecidableEq

namespace CotpSpanCodec

def tpduSizeParameter : UInt8 := 0xC0
def sourceTsapParameter : UInt8 := 0xC1
def destinationTsapParameter : UInt8 := 0xC2

/-- The parameters of a variable header, as far as they are well formed, and whether that is all
of it. A parameter takes at least two octets, so the number of octets is enough fuel. -/
def splitParameters : Nat → Bytes → List CotpParameter × Bool
  | _, [] => ([], true)
  | 0, _ => ([], false)
  | _, [_] => ([], false)
  | fuel + 1, code :: length :: rest =>
    if length.toNat > rest.length then ([], false)
    else
      let (parameters, complete) := splitParameters fuel (rest.drop length.toNat)
      ({ code, value := rest.take length.toNat } :: parameters, complete)

def validateParameterBytes (bytes : Bytes) : Bool := (splitParameters bytes.length bytes).2

end CotpSpanCodec

open CotpSpanCodec

/-- The first parameter with this code. -/
def CotpTpduView.tryParameter (tpdu : CotpTpduView) (parameterCode : UInt8) : Option Bytes :=
  ((splitParameters tpdu.parameterBytes.length tpdu.parameterBytes).1.find?
    (·.code == parameterCode)).map (·.value)

namespace CotpSpanCodec

def tryDecodeData (bytes : Bytes) : Option CotpTpduView :=
  if octetAt bytes 0 ≠ 2 then none
  else
    some
      { kind := .data
        code := octetAt bytes 1
        lengthIndicator := octetAt bytes 0
        endOfTransmission := octetAt bytes 2 &&& 0x80 != 0
        tpduNumber := octetAt bytes 2 &&& 0x7F
        userData := bytes.drop 3 }

def tryDecodeReference (bytes : Bytes) (kind : CotpTpduKind) : Option CotpTpduView :=
  let headerEnd := (octetAt bytes 0).toNat + 1
  if octetAt bytes 0 < 6 ∨ bytes.length < 7 then none
  else
    let parameterBytes := Lib.slice bytes 7 (headerEnd - 7)
    let userData := bytes.drop headerEnd
    if !validateParameterBytes parameterBytes ||
        (kind == .connectionRequest || kind == .connectionConfirm) && !userData.isEmpty then none
    else
      some
        { kind
          code := octetAt bytes 1
          lengthIndicator := octetAt bytes 0
          destinationReference := readAt bytes 2 2
          sourceReference := readAt bytes 4 2
          classOrReason := octetAt bytes 6
          endOfTransmission := true
          parameterBytes
          userData }

def tryDecodeView (bytes : Bytes) : Option CotpTpduView :=
  if bytes.length < 2 then none
  else if octetAt bytes 0 < 2 ∨ (octetAt bytes 0).toNat + 1 > bytes.length then none
  else
    match CotpFrameCodec.kindFromCode (octetAt bytes 1) with
    | .unknown => none
    | .data => tryDecodeData bytes
    | kind => tryDecodeReference bytes kind

def tryTpduSizeBytes (tpduSizeCode : UInt8) : Option Nat :=
  if tpduSizeCode < 0x07 ∨ tpduSizeCode > 0x0F then none else some (1 <<< tpduSizeCode.toNat)

/-! ## The connection confirm -/

/-- The octets of the parameters, from those of the parameters before. -/
def encodedParametersSize : Nat → List CotpParameter → Option Nat
  | total, [] => some total
  | total, parameter :: parameters =>
    if parameter.value.length > 248 then none
    else
      let encoded := 2 + parameter.value.length
      if encoded > 248 - total then none else encodedParametersSize (total + encoded) parameters

/-- A parameter, in the octets that are left for it. -/
def writeParameters : Nat → List CotpParameter → Option Bytes
  | _, [] => some []
  | room, { code, value } :: parameters =>
    if value.length > 248 ∨ room < value.length + 2 then none
    else do
      let rest ← writeParameters (room - (value.length + 2)) parameters
      some ([code, UInt8.ofNat value.length] ++ value ++ rest)

def encodeReferenceInto (code : UInt8) (destinationReference sourceReference : Nat)
    (classOrReason : UInt8) (parameters : List CotpParameter) (destinationSize : Nat) :
    EncodeResult :=
  match encodedParametersSize 0 parameters with
  | none => { status := .valueOutOfRange }
  | some size =>
    let lengthIndicator := 6 + size
    let required := lengthIndicator + 1
    if destinationSize < required then { status := .bufferTooSmall, requiredBytes := required }
    else
      match writeParameters (destinationSize - 7) parameters with
      | none => { status := .valueOutOfRange, requiredBytes := required }
      | some octets =>
        if 7 + octets.length ≠ required then
          { status := .valueOutOfRange, requiredBytes := required }
        else
          { bytes := [UInt8.ofNat lengthIndicator, code] ++ Lib.beOctets 2 destinationReference ++
              Lib.beOctets 2 sourceReference ++ [classOrReason] ++ octets
            requiredBytes := required }

def encodeConnectionConfirmInto (destinationReference sourceReference : Nat)
    (destinationSize : Nat) (maximumTpduSizeCode : UInt8 := 0x0A) : EncodeResult :=
  match tryTpduSizeBytes maximumTpduSizeCode with
  | none => { status := .valueOutOfRange }
  | some _ =>
    encodeReferenceInto CotpFrameCodec.connectionConfirmCode destinationReference sourceReference 0
      [{ code := tpduSizeParameter, value := [maximumTpduSizeCode] }] destinationSize

/-- The TPDU size code of the answer: the smaller one of what is offered and the maximum. -/
def selectedTpduSize (request : CotpTpduView) (maximumTpduSizeCode : UInt8) : Option UInt8 := do
  let _ ← tryTpduSizeBytes maximumTpduSizeCode
  match request.tryParameter tpduSizeParameter with
  | some [offered] =>
    let _ ← tryTpduSizeBytes offered
    some (min offered maximumTpduSizeCode)
  | _ => some maximumTpduSizeCode

/-- A transport selector that the answer mirrors. -/
def mirrored (parameter : CotpParameter) : Bool :=
  (parameter.code == sourceTsapParameter || parameter.code == destinationTsapParameter) &&
    !parameter.value.isEmpty

/-- The octets of the parameters of the answer, from those of the parameters before. -/
def mirroredSize : Nat → List CotpParameter → Option Nat
  | total, [] => some total
  | total, parameter :: parameters =>
    if !mirrored parameter then mirroredSize total parameters
    else
      let encoded := parameter.value.length + 2
      if parameter.value.length > 248 ∨ encoded > 248 - total then none
      else mirroredSize (total + encoded) parameters

def mirroredParameterSize (request : CotpTpduView) : Option Nat :=
  let (parameters, complete) :=
    splitParameters request.parameterBytes.length request.parameterBytes
  if !complete then none else mirroredSize 3 parameters

/-- Source and destination change places. -/
def mirroredCode (code : UInt8) : UInt8 :=
  if code = sourceTsapParameter then destinationTsapParameter else sourceTsapParameter

def mirroredBytes (parameters : List CotpParameter) : Bytes :=
  (parameters.filter mirrored).flatMap fun parameter =>
    [mirroredCode parameter.code, UInt8.ofNat parameter.value.length] ++ parameter.value

def encodeConnectionConfirmFromRequestInto (request : CotpTpduView) (sourceReference : Nat)
    (destinationSize : Nat) (maximumTpduSizeCode : UInt8) : EncodeResult :=
  if request.kind ≠ .connectionRequest ∨ request.userData ≠ [] then { status := .valueOutOfRange }
  else
    match selectedTpduSize request maximumTpduSizeCode, mirroredParameterSize request with
    | some selected, some parameterBytes =>
      let lengthIndicator := 6 + parameterBytes
      let required := lengthIndicator + 1
      if destinationSize < required then
        { status := .bufferTooSmall, requiredBytes := required }
      else
        let bytes :=
          [UInt8.ofNat lengthIndicator, CotpFrameCodec.connectionConfirmCode] ++
            Lib.beOctets 2 request.sourceReference ++ Lib.beOctets 2 sourceReference ++
            [0, tpduSizeParameter, 1, selected] ++
            mirroredBytes (splitParameters request.parameterBytes.length request.parameterBytes).1
        if bytes.length ≠ required then
          { status := .valueOutOfRange, requiredBytes := required }
        else { bytes, requiredBytes := required }
    | _, _ => { status := .valueOutOfRange }

end CotpSpanCodec

end ArStack.Osi
