import ArStack.Osi.CotpSpan

/-!
# The two COTP codecs agree

* `SameTpdu` — a decoded TPDU and a view of it
* `decoders_agree`
* `Answers` — the two encoders' answers to the same request
* `confirm_agrees`, `confirmFor_agrees`
* `codecs_agree`
-/

namespace ArStack.Osi

open ArStack.Wire

/-! ## Parameters -/

namespace CotpSpanCodec

/-- **The two walks over a variable header.** -/
theorem splitParameters_of_parse (bytes : Bytes) {fuel : Nat} (hfuel : bytes.length ≤ fuel) :
    match CotpFrameCodec.parseParameters bytes with
    | .ok parameters => splitParameters fuel bytes = (parameters, true)
    | .error _ => (splitParameters fuel bytes).2 = false := by
  induction bytes using CotpFrameCodec.parseParameters.induct generalizing fuel with
  | case1 =>
    rw [CotpFrameCodec.parseParameters]
    cases fuel <;> rfl
  | case2 octet =>
    rw [CotpFrameCodec.parseParameters]
    cases fuel <;> rfl
  | case3 code length rest hlong =>
    obtain _ | fuel := fuel
    · cases hfuel
    rw [CotpFrameCodec.parseParameters, if_pos hlong]
    show (splitParameters (fuel + 1) (code :: length :: rest)).2 = false
    rw [splitParameters, if_pos hlong]
  | case4 code length rest hfits ih =>
    obtain _ | fuel := fuel
    · cases hfuel
    rw [List.length_cons, List.length_cons] at hfuel
    have hshort : (rest.drop length.toNat).length ≤ fuel := by
      rw [List.length_drop]
      omega
    have hrest := ih hshort
    rw [CotpFrameCodec.parseParameters, if_neg hfits, splitParameters, if_neg hfits]
    cases hparse : CotpFrameCodec.parseParameters (rest.drop length.toNat) with
    | error e =>
      rw [hparse] at hrest
      exact hrest
    | ok parameters =>
      rw [hparse] at hrest
      dsimp only at hrest
      rw [hrest]
      rfl

end CotpSpanCodec

/-! ## Decoding -/

/-- The view shows the TPDU: what is read at once and what is looked up. -/
structure SameTpdu (tpdu : CotpTpdu) (view : CotpTpduView) : Prop where
  kind : view.kind = tpdu.kind
  code : view.code = tpdu.code
  lengthIndicator : view.lengthIndicator = tpdu.lengthIndicator
  destinationReference : view.destinationReference = tpdu.destinationReference
  sourceReference : view.sourceReference = tpdu.sourceReference
  classOrReason : view.classOrReason = tpdu.classOrReason
  endOfTransmission : view.endOfTransmission = tpdu.endOfTransmission
  tpduNumber : view.tpduNumber = tpdu.tpduNumber
  parameters : CotpSpanCodec.splitParameters view.parameterBytes.length view.parameterBytes =
    (tpdu.parameters, true)
  userData : view.userData = tpdu.userData

/-- Size and selectors are found in both. -/
theorem SameTpdu.parameter {tpdu : CotpTpdu} {view : CotpTpduView} (h : SameTpdu tpdu view)
    (parameterCode : UInt8) : view.tryParameter parameterCode = tpdu.parameter parameterCode := by
  rw [CotpTpduView.tryParameter, h.parameters]
  rfl

/-- Both decoders refuse, or they give the same TPDU. -/
def SameDecoded : Except String CotpTpdu → Option CotpTpduView → Prop
  | .ok tpdu, some view => SameTpdu tpdu view
  | .error _, none => True
  | _, _ => False

theorem decodeData_agrees (bytes : Bytes) :
    SameDecoded (CotpFrameCodec.tryDecodeData bytes) (CotpSpanCodec.tryDecodeData bytes) := by
  rw [CotpFrameCodec.tryDecodeData, CotpSpanCodec.tryDecodeData]
  split
  · trivial
  · exact ⟨rfl, rfl, rfl, rfl, rfl, rfl, rfl, rfl, rfl, rfl⟩

theorem decodeReference_agrees (bytes : Bytes) (kind : CotpTpduKind) :
    SameDecoded (CotpFrameCodec.tryDecodeReference bytes kind)
      (CotpSpanCodec.tryDecodeReference bytes kind) := by
  rw [CotpFrameCodec.tryDecodeReference, CotpSpanCodec.tryDecodeReference]
  dsimp only
  by_cases hshort : octetAt bytes 0 < 6 ∨ bytes.length < 7
  · rw [if_pos hshort, if_pos hshort]
    trivial
  rw [if_neg hshort, if_neg hshort]
  generalize hheader : Lib.slice bytes 7 ((octetAt bytes 0).toNat + 1 - 7) = header
  have hwalk := CotpSpanCodec.splitParameters_of_parse header (Nat.le_refl _)
  have hconnect : ((kind == .connectionRequest || kind == .connectionConfirm) &&
      !(bytes.drop ((octetAt bytes 0).toNat + 1)).isEmpty) = true ↔
        (kind = .connectionRequest ∨ kind = .connectionConfirm) ∧
          bytes.drop ((octetAt bytes 0).toNat + 1) ≠ [] := by
    rw [Bool.and_eq_true, Bool.or_eq_true, beq_iff_eq, beq_iff_eq, Bool.not_eq_true',
      Bool.eq_false_iff, ne_eq, List.isEmpty_iff]
  cases hparse : CotpFrameCodec.parseParameters header with
  | error e =>
    rw [hparse] at hwalk
    have hinvalid : CotpSpanCodec.validateParameterBytes header = false := hwalk
    rw [hinvalid]
    trivial
  | ok parameters =>
    rw [hparse] at hwalk
    dsimp only at hwalk
    have hvalid : CotpSpanCodec.validateParameterBytes header = true := by
      rw [CotpSpanCodec.validateParameterBytes, hwalk]
    rw [hvalid, Bool.not_true, Bool.false_or]
    dsimp only
    by_cases htrailing : (kind = .connectionRequest ∨ kind = .connectionConfirm) ∧
        bytes.drop ((octetAt bytes 0).toNat + 1) ≠ []
    · rw [if_pos htrailing, if_pos (hconnect.mpr htrailing)]
      trivial
    · rw [if_neg htrailing, if_neg fun h => htrailing (hconnect.mp h)]
      exact ⟨rfl, rfl, rfl, rfl, rfl, rfl, rfl, rfl, hwalk, rfl⟩

/-- **The decoders accept the same octets and read the same from them.** -/
theorem decoders_agree (bytes : Bytes) :
    SameDecoded (CotpFrameCodec.tryDecode bytes) (CotpSpanCodec.tryDecodeView bytes) := by
  rw [CotpFrameCodec.tryDecode, CotpSpanCodec.tryDecodeView]
  by_cases hshort : bytes.length < 2
  · rw [if_pos hshort, if_pos hshort]
    trivial
  rw [if_neg hshort, if_neg hshort]
  by_cases hlength : octetAt bytes 0 < 2 ∨ (octetAt bytes 0).toNat + 1 > bytes.length
  · rw [if_pos hlength, if_pos hlength]
    trivial
  rw [if_neg hlength, if_neg hlength]
  cases hkind : CotpFrameCodec.kindFromCode (octetAt bytes 1) with
  | unknown => trivial
  | data => exact decodeData_agrees bytes
  | _ => exact decodeReference_agrees bytes _

/-! ## Encoding -/

/-- The span encoder refuses what the other one refuses, and writes the same octets where there
is room for them. -/
def Answers (destinationSize : Nat) : Except String Bytes → EncodeResult → Prop
  | .error _, result => result = { status := .valueOutOfRange }
  | .ok octets, result =>
    result = if destinationSize < octets.length then
        { status := .bufferTooSmall, requiredBytes := octets.length }
      else { bytes := octets, requiredBytes := octets.length }

theorem tpduSizeBytes_agrees (code : UInt8) :
    (∃ size, CotpFrameCodec.tpduSizeBytes code = .ok size ∧
        CotpSpanCodec.tryTpduSizeBytes code = some size) ∨
      ((∃ e, CotpFrameCodec.tpduSizeBytes code = .error e) ∧
        CotpSpanCodec.tryTpduSizeBytes code = none) := by
  rw [CotpFrameCodec.tpduSizeBytes, CotpSpanCodec.tryTpduSizeBytes]
  split
  · exact .inr ⟨⟨_, rfl⟩, rfl⟩
  · exact .inl ⟨_, rfl, rfl⟩

/-- The size of the variable header is its length. -/
theorem encodedParametersSize_agrees (total : Nat) (parameters : List CotpParameter) :
    match CotpFrameCodec.encodedParametersSize total parameters with
    | .ok size => CotpSpanCodec.encodedParametersSize total parameters = some size ∧
        size = total + (CotpFrameCodec.parameterBytes parameters).length ∧
        (total ≤ 248 → size ≤ 248) ∧
        ∀ parameter ∈ parameters, parameter.value.length ≤ 248
    | .error _ => CotpSpanCodec.encodedParametersSize total parameters = none := by
  induction parameters generalizing total with
  | nil => exact ⟨rfl, rfl, id, by simp⟩
  | cons parameter parameters ih =>
    rw [CotpFrameCodec.encodedParametersSize, CotpSpanCodec.encodedParametersSize]
    by_cases hlong : parameter.value.length > 248
    · rw [if_pos hlong, if_pos hlong]
    rw [if_neg hlong, if_neg hlong]
    dsimp only
    by_cases hfull : 2 + parameter.value.length > 248 - total
    · rw [if_pos hfull, if_pos hfull]
    rw [if_neg hfull, if_neg hfull]
    have hrest := ih (total + (2 + parameter.value.length))
    cases hsize : CotpFrameCodec.encodedParametersSize (total + (2 + parameter.value.length))
        parameters with
    | error e =>
      rw [hsize] at hrest
      exact hrest
    | ok size =>
      rw [hsize] at hrest
      obtain ⟨hspan, hlength, hbound, hvalues⟩ := hrest
      refine ⟨hspan, ?_, fun _ => hbound (by omega), ?_⟩
      · rw [hlength, CotpFrameCodec.parameterBytes, CotpFrameCodec.parameterBytes,
          List.flatMap_cons]
        simp only [List.length_append, List.length_cons, List.length_nil]
        omega
      · intro other hmem
        rcases List.mem_cons.mp hmem with rfl | hmem
        · omega
        · exact hvalues other hmem

/-- The parameters are written where there is room for them. -/
theorem writeParameters_eq {parameters : List CotpParameter} {room : Nat}
    (hvalues : ∀ parameter ∈ parameters, parameter.value.length ≤ 248)
    (hroom : (CotpFrameCodec.parameterBytes parameters).length ≤ room) :
    CotpSpanCodec.writeParameters room parameters =
      some (CotpFrameCodec.parameterBytes parameters) := by
  induction parameters generalizing room with
  | nil => rfl
  | cons parameter parameters ih =>
    have hvalue := hvalues parameter List.mem_cons_self
    have hsplit : (CotpFrameCodec.parameterBytes (parameter :: parameters)).length =
        2 + parameter.value.length + (CotpFrameCodec.parameterBytes parameters).length := by
      rw [CotpFrameCodec.parameterBytes, List.flatMap_cons]
      simp only [List.length_append, List.length_cons, List.length_nil,
        CotpFrameCodec.parameterBytes]
    rw [CotpSpanCodec.writeParameters, if_neg (by omega),
      ih (fun other hmem => hvalues other (List.mem_cons_of_mem _ hmem)) (by omega)]
    rfl

theorem encodeReference_agrees (code : UInt8) (destinationReference sourceReference : Nat)
    (classOrReason : UInt8) (parameters : List CotpParameter) (destinationSize : Nat) :
    Answers destinationSize
      (CotpFrameCodec.encodeReferenceTpdu code destinationReference sourceReference classOrReason
        parameters)
      (CotpSpanCodec.encodeReferenceInto code destinationReference sourceReference classOrReason
        parameters destinationSize) := by
  have hsizes := encodedParametersSize_agrees 0 parameters
  rw [CotpFrameCodec.encodeReferenceTpdu, CotpSpanCodec.encodeReferenceInto]
  cases hsize : CotpFrameCodec.encodedParametersSize 0 parameters with
  | error e =>
    rw [hsize] at hsizes
    dsimp only at hsizes
    rw [hsizes]
    rfl
  | ok size =>
    rw [hsize] at hsizes
    obtain ⟨hspan, hlength, hbound, hvalues⟩ := hsizes
    have hle := hbound (by omega)
    rw [Nat.zero_add] at hlength
    rw [hspan]
    show Answers destinationSize (if 6 + size > 255 then _ else _) _
    rw [if_neg (by omega)]
    dsimp only
    have htotal : ([UInt8.ofNat (6 + size), code] ++ Lib.beOctets 2 destinationReference ++
        Lib.beOctets 2 sourceReference ++ [classOrReason] ++
          CotpFrameCodec.parameterBytes parameters).length = 6 + size + 1 := by
      simp only [List.length_append, List.length_cons, List.length_nil, Lib.length_beOctets]
      omega
    rw [Answers, htotal]
    by_cases hroom : destinationSize < 6 + size + 1
    · rw [if_pos hroom, if_pos hroom]
    · rw [if_neg hroom, if_neg hroom, writeParameters_eq hvalues (by omega)]
      dsimp only
      rw [if_neg (by omega)]

/-- **The confirm that takes references.** -/
theorem confirm_agrees (destinationReference sourceReference : Nat) (maximumTpduSizeCode : UInt8)
    (destinationSize : Nat) :
    Answers destinationSize
      (CotpFrameCodec.encodeConnectionConfirm destinationReference sourceReference
        maximumTpduSizeCode)
      (CotpSpanCodec.encodeConnectionConfirmInto destinationReference sourceReference
        destinationSize maximumTpduSizeCode) := by
  rw [CotpFrameCodec.encodeConnectionConfirm, CotpSpanCodec.encodeConnectionConfirmInto]
  rcases tpduSizeBytes_agrees maximumTpduSizeCode with ⟨size, hok, hsome⟩ | ⟨⟨e, herror⟩, hnone⟩
  · rw [hok, hsome]
    exact encodeReference_agrees CotpFrameCodec.connectionConfirmCode destinationReference
      sourceReference 0 [{ code := CotpFrameCodec.tpduSizeParameter, value := [maximumTpduSizeCode] }]
      destinationSize
  · rw [herror, hnone]
    rfl

theorem selectedTpduSize_agrees {request : CotpTpdu} {view : CotpTpduView}
    (h : SameTpdu request view) (maximumTpduSizeCode : UInt8) :
    (∃ selected, CotpFrameCodec.selectedTpduSize request maximumTpduSizeCode = .ok selected ∧
        CotpSpanCodec.selectedTpduSize view maximumTpduSizeCode = some selected) ∨
      ((∃ e, CotpFrameCodec.selectedTpduSize request maximumTpduSizeCode = .error e) ∧
        CotpSpanCodec.selectedTpduSize view maximumTpduSizeCode = none) := by
  have hoffer : view.tryParameter CotpSpanCodec.tpduSizeParameter =
      request.parameter CotpFrameCodec.tpduSizeParameter := h.parameter _
  rw [CotpFrameCodec.selectedTpduSize, CotpSpanCodec.selectedTpduSize, hoffer]
  rcases tpduSizeBytes_agrees maximumTpduSizeCode with ⟨size, hok, hsome⟩ | ⟨⟨e, herror⟩, hnone⟩
  · rw [hok, hsome]
    cases request.parameter CotpFrameCodec.tpduSizeParameter with
    | none => exact .inl ⟨_, rfl, rfl⟩
    | some value =>
      obtain _ | ⟨offered, _ | ⟨second, rest⟩⟩ := value
      · exact .inl ⟨_, rfl, rfl⟩
      · -- one octet is an offer
        rcases tpduSizeBytes_agrees offered with ⟨size', hok', hsome'⟩ | ⟨⟨e, herror⟩, hnone⟩
        · refine .inl ⟨min offered maximumTpduSizeCode, ?_, ?_⟩
          · show (CotpFrameCodec.tpduSizeBytes offered).bind _ = _
            rw [hok']
            rfl
          · show (CotpSpanCodec.tryTpduSizeBytes offered).bind _ = _
            rw [hsome']
            rfl
        · refine .inr ⟨⟨e, ?_⟩, ?_⟩
          · show (CotpFrameCodec.tpduSizeBytes offered).bind _ = _
            rw [herror]
            rfl
          · show (CotpSpanCodec.tryTpduSizeBytes offered).bind _ = _
            rw [hnone]
            rfl
      · exact .inl ⟨_, rfl, rfl⟩
  · rw [herror, hnone]
    exact .inr ⟨⟨e, rfl⟩, rfl⟩

/-- A selector is answered under the other code. -/
theorem confirmParameter_eq (parameter : CotpParameter) :
    CotpFrameCodec.confirmParameter parameter =
      if CotpSpanCodec.mirrored parameter then
        some { code := CotpSpanCodec.mirroredCode parameter.code, value := parameter.value }
      else none := by
  obtain ⟨code, value⟩ := parameter
  have hcodes : CotpFrameCodec.destinationTsapParameter ≠ CotpFrameCodec.sourceTsapParameter := by
    decide
  rw [CotpFrameCodec.confirmParameter, CotpSpanCodec.mirrored, CotpSpanCodec.mirroredCode]
  dsimp only
  rw [CotpSpanCodec.sourceTsapParameter, CotpSpanCodec.destinationTsapParameter,
    CotpFrameCodec.sourceTsapParameter, CotpFrameCodec.destinationTsapParameter]
  rw [CotpFrameCodec.sourceTsapParameter, CotpFrameCodec.destinationTsapParameter] at hcodes
  by_cases hempty : value = []
  · subst hempty
    simp
  · by_cases hsource : code = 0xC1
    · subst hsource
      simp [hempty]
    · by_cases hdestination : code = 0xC2
      · subst hdestination
        simp [hempty]
      · simp [hsource, hdestination]

theorem mirroredSize_eq (total : Nat) (parameters : List CotpParameter) :
    CotpSpanCodec.mirroredSize total parameters =
      CotpSpanCodec.encodedParametersSize total
        (parameters.filterMap CotpFrameCodec.confirmParameter) := by
  induction parameters generalizing total with
  | nil => rfl
  | cons parameter parameters ih =>
    rw [CotpSpanCodec.mirroredSize, List.filterMap_cons, confirmParameter_eq]
    cases hmirrored : CotpSpanCodec.mirrored parameter with
    | false => exact ih total
    | true =>
      show (if parameter.value.length > 248 ∨ _ then none else _) =
        CotpSpanCodec.encodedParametersSize total ({ code := _, value := _ } :: _)
      rw [CotpSpanCodec.encodedParametersSize]
      dsimp only
      by_cases hlong : parameter.value.length > 248
      · rw [if_pos (.inl hlong), if_pos hlong]
      · rw [if_neg hlong, Nat.add_comm 2]
        by_cases hfull : parameter.value.length + 2 > 248 - total
        · rw [if_pos (.inr hfull), if_pos hfull]
        · rw [if_neg (not_or.mpr ⟨hlong, hfull⟩), if_neg hfull, ih]

theorem mirroredBytes_eq (parameters : List CotpParameter) :
    CotpSpanCodec.mirroredBytes parameters =
      CotpFrameCodec.parameterBytes
        (parameters.filterMap CotpFrameCodec.confirmParameter) := by
  induction parameters with
  | nil => rfl
  | cons parameter parameters ih =>
    rw [CotpSpanCodec.mirroredBytes, List.filter_cons, List.filterMap_cons, confirmParameter_eq]
    cases hmirrored : CotpSpanCodec.mirrored parameter with
    | false => exact ih
    | true =>
      show _ = CotpFrameCodec.parameterBytes ({ code := _, value := _ } :: _)
      rw [CotpFrameCodec.parameterBytes, List.flatMap_cons, ← CotpFrameCodec.parameterBytes, ← ih]
      rfl

/-- **The confirm that answers a request.** -/
theorem confirmFor_agrees {request : CotpTpdu} {view : CotpTpduView} (h : SameTpdu request view)
    (huserData : request.kind = .connectionRequest → request.userData = [])
    (sourceReference : Nat) (maximumTpduSizeCode : UInt8) (destinationSize : Nat) :
    Answers destinationSize
      (CotpFrameCodec.encodeConnectionConfirmFor request sourceReference maximumTpduSizeCode)
      (CotpSpanCodec.encodeConnectionConfirmFromRequestInto view sourceReference destinationSize
        maximumTpduSizeCode) := by
  rw [CotpFrameCodec.encodeConnectionConfirmFor,
    CotpSpanCodec.encodeConnectionConfirmFromRequestInto, h.kind, h.userData]
  by_cases hkind : request.kind ≠ .connectionRequest
  · rw [if_pos hkind, if_pos (.inl hkind)]
    rfl
  rw [if_neg hkind, if_neg (not_or.mpr ⟨hkind, not_not.mpr (huserData (not_not.mp hkind))⟩)]
  rw [CotpFrameCodec.connectionConfirmParameters, CotpSpanCodec.mirroredParameterSize]
  rcases selectedTpduSize_agrees h maximumTpduSizeCode with
    ⟨selected, hok, hsome⟩ | ⟨⟨e, herror⟩, hnone⟩
  · rw [hok, hsome, h.parameters, h.sourceReference]
    show Answers destinationSize (CotpFrameCodec.encodeReferenceTpdu
      CotpFrameCodec.connectionConfirmCode request.sourceReference sourceReference 0
      ({ code := CotpFrameCodec.tpduSizeParameter, value := [selected] } ::
        request.parameters.filterMap CotpFrameCodec.confirmParameter)) _
    generalize hparameters : ({ code := CotpFrameCodec.tpduSizeParameter, value := [selected] } ::
      request.parameters.filterMap CotpFrameCodec.confirmParameter) = parameters
    have hsizes := encodedParametersSize_agrees 0 parameters
    have hmirrored : CotpSpanCodec.mirroredSize 3 request.parameters =
        CotpSpanCodec.encodedParametersSize 0 parameters := by
      rw [mirroredSize_eq, ← hparameters]
      rfl
    have hbytes : CotpFrameCodec.parameterBytes parameters =
        [CotpSpanCodec.tpduSizeParameter, 1, selected] ++
          CotpSpanCodec.mirroredBytes request.parameters := by
      rw [mirroredBytes_eq, ← hparameters]
      rfl
    rw [CotpFrameCodec.encodeReferenceTpdu]
    dsimp only
    rw [Bool.not_true, if_neg Bool.false_ne_true, hmirrored]
    cases hsize : CotpFrameCodec.encodedParametersSize 0 parameters with
    | error e =>
      rw [hsize] at hsizes
      dsimp only at hsizes
      rw [hsizes]
      rfl
    | ok size =>
      rw [hsize] at hsizes
      obtain ⟨hspan, hlength, hbound, -⟩ := hsizes
      have hle := hbound (by omega)
      rw [Nat.zero_add] at hlength
      rw [hspan]
      show Answers destinationSize (if 6 + size > 255 then _ else _) _
      rw [if_neg (by omega)]
      dsimp only
      have htotal : ([UInt8.ofNat (6 + size), CotpFrameCodec.connectionConfirmCode] ++
          Lib.beOctets 2 request.sourceReference ++ Lib.beOctets 2 sourceReference ++ [0] ++
            CotpFrameCodec.parameterBytes parameters).length = 6 + size + 1 := by
        simp only [List.length_append, List.length_cons, List.length_nil, Lib.length_beOctets]
        omega
      have hsame : [UInt8.ofNat (6 + size), CotpFrameCodec.connectionConfirmCode] ++
          Lib.beOctets 2 request.sourceReference ++ Lib.beOctets 2 sourceReference ++
            [0, CotpSpanCodec.tpduSizeParameter, 1, selected] ++
              CotpSpanCodec.mirroredBytes request.parameters =
          [UInt8.ofNat (6 + size), CotpFrameCodec.connectionConfirmCode] ++
            Lib.beOctets 2 request.sourceReference ++ Lib.beOctets 2 sourceReference ++ [0] ++
              CotpFrameCodec.parameterBytes parameters := by
        rw [hbytes]
        simp only [List.append_assoc, List.cons_append, List.nil_append]
      rw [Answers, htotal, hsame, htotal, if_neg (not_not.mpr rfl)]
  · rw [herror, hnone]
    rfl

/-- A request that has been decoded has no user data. -/
theorem userData_of_decode {bytes : Bytes} {tpdu : CotpTpdu}
    (h : CotpFrameCodec.tryDecode bytes = .ok tpdu) (hkind : tpdu.kind = .connectionRequest) :
    tpdu.userData = [] := by
  rw [CotpFrameCodec.tryDecode] at h
  split at h
  · cases h
  split at h
  · cases h
  split at h
  · cases h
  · rw [CotpFrameCodec.tryDecodeData] at h
    split at h
    · cases h
    · cases h
      cases hkind
  · rw [CotpFrameCodec.tryDecodeReference] at h
    dsimp only at h
    split at h
    · cases h
    split at h
    · cases h
    split at h
    · cases h
    rename_i htrailing
    cases h
    by_contra hne
    exact htrailing ⟨.inl hkind, hne⟩

/-- **The span and the vector codec agree.** -/
theorem codecs_agree :
    (∀ bytes, SameDecoded (CotpFrameCodec.tryDecode bytes) (CotpSpanCodec.tryDecodeView bytes)) ∧
      (∀ (tpdu : CotpTpdu) (view : CotpTpduView), SameTpdu tpdu view → ∀ parameterCode,
        view.tryParameter parameterCode = tpdu.parameter parameterCode) ∧
      (∀ bytes tpdu view, CotpFrameCodec.tryDecode bytes = .ok tpdu →
        CotpSpanCodec.tryDecodeView bytes = some view →
        ∀ sourceReference maximumTpduSizeCode destinationSize,
          Answers destinationSize
            (CotpFrameCodec.encodeConnectionConfirmFor tpdu sourceReference maximumTpduSizeCode)
            (CotpSpanCodec.encodeConnectionConfirmFromRequestInto view sourceReference
              destinationSize maximumTpduSizeCode)) ∧
      ∀ destinationReference sourceReference maximumTpduSizeCode destinationSize,
        Answers destinationSize
          (CotpFrameCodec.encodeConnectionConfirm destinationReference sourceReference
            maximumTpduSizeCode)
          (CotpSpanCodec.encodeConnectionConfirmInto destinationReference sourceReference
            destinationSize maximumTpduSizeCode) := by
  refine ⟨decoders_agree, fun tpdu view h parameterCode => h.parameter parameterCode,
    fun bytes tpdu view htpdu hview sourceReference code size => ?_, confirm_agrees⟩
  have hsame := decoders_agree bytes
  rw [htpdu, hview] at hsame
  exact confirmFor_agrees hsame (userData_of_decode htpdu) sourceReference code size

end ArStack.Osi
