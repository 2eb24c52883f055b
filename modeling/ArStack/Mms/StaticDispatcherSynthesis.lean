import ArStack.Mms.BufferedReportSpan
import ArStack.Mms.StaticDispatcherHierarchy

/-!
# Synthesised values and types of the static dispatcher

A structure without an entry of its own is put together from the entries below it: a first pass
measures it, a second one writes it, with the lengths of the first in front.

What the callbacks answer for a destination of some size is `read`. The comparison of the children
is not an order for every table, so `std::sort` is any rearrangement of them.

* `ChildSort` — the rearrangement
* `measureSyntheticSubtree`, `encodeSyntheticSubtree`
* `measureSyntheticTypeSubtree`, `encodeSyntheticTypeSubtree`
-/

namespace ArStack.Mms.MmsStaticApplicationDispatcher

open ArStack.Asn1 ArStack.Wire

def maximumSyntheticReadDepth : Nat := 16

inductive SyntheticReadStatus where
  | ok
  | notFound
  | valueUnavailable
  | workspaceTooSmall
  | backendFailure
  deriving DecidableEq

/-- A result with a status other than ok. -/
structure SyntheticReadFailure where
  status : SyntheticReadStatus
  requiredBytes : Nat := 0
  deriving DecidableEq

/-- What a measurement finds. -/
structure SyntheticSize where
  contentBytes : Nat
  encodedBytes : Nat
  deriving DecidableEq

/-- What `std::sort` makes of the children under a name. -/
structure ChildSort where
  order : Bytes → List SyntheticChild → List SyntheticChild
  perm : ∀ path children, (order path children).Perm children

variable (sort : ChildSort) (read : MmsStaticObjectEntry → Nat → EncodeResult)
  (objects : MmsStaticObjectTable) (domain : Bytes)

/-- The children in the order of the response. -/
def sortedChildren (path : Bytes) : SyntheticChildren :=
  let children := collectSyntheticChildren objects domain path
  if children.overflow then children else { children with values := sort.order path children.values }

/-! ## Values -/

def measureExactObject (object : MmsStaticObjectEntry) : Except SyntheticReadStatus SyntheticSize :=
  let probe := read object 0
  if probe.status = .bufferTooSmall ∧ probe.requiredBytes > 0 then
    .ok { contentBytes := 0, encodedBytes := probe.requiredBytes }
  else if probe.success ∧ probe.bytesWritten > 0 then
    .ok { contentBytes := 0, encodedBytes := probe.bytesWritten }
  else .error .valueUnavailable

/-- The size of a child: it has an entry, or is a structure itself. -/
def measureChild (measureSubtree : Bytes → Except SyntheticReadStatus SyntheticSize)
    (child : SyntheticChild) : Except SyntheticReadStatus SyntheticSize :=
  match child.exactObject with
  | some object => measureExactObject read object
  | none => measureSubtree child.path

/-- The loop over the children. -/
def measureChildren (measureSubtree : Bytes → Except SyntheticReadStatus SyntheticSize) :
    List SyntheticChild → Nat → Except SyntheticReadStatus Nat
  | [], contentBytes => .ok contentBytes
  | child :: children, contentBytes =>
    match measureChild read measureSubtree child with
    | .error status => .error status
    | .ok measured =>
      match addSize contentBytes measured.encodedBytes with
      | none => .error .backendFailure
      | some contentBytes => measureChildren measureSubtree children contentBytes

/-- `measure_synthetic_subtree`; `levels` is what is left of the greatest depth. -/
def measureSyntheticSubtree : Nat → Bytes → Except SyntheticReadStatus SyntheticSize
  | 0, _ => .error .backendFailure
  | levels + 1, path =>
    if domain = [] ∨ path = [] then .error .backendFailure
    else
      let children := sortedChildren sort objects domain path
      if children.overflow then .error .backendFailure
      else if children.values = [] then .error .notFound
      else
        match measureChildren read (measureSyntheticSubtree levels) children.values 0 with
        | .error status => .error status
        | .ok contentBytes =>
          match BerSpanWriter.tlvSize 2 contentBytes with
          | none => .error .backendFailure
          | some encodedBytes => .ok { contentBytes, encodedBytes }

/-- A child behind `offset` octets of the structure, which has `room` octets in all. -/
def encodeChild (encodeSubtree : Bytes → Nat → Except SyntheticReadFailure Bytes)
    (room offset : Nat) (child : SyntheticChild) : Except SyntheticReadFailure Bytes :=
  match child.exactObject with
  | some object =>
    let answer := read object (room - offset)
    if answer.status = .bufferTooSmall then
      .error { status := .workspaceTooSmall
               requiredBytes := (addSize offset answer.requiredBytes).getD sizeMax }
    else if !answer.success then .error { status := .valueUnavailable }
    else if answer.bytesWritten = 0 ∨ answer.bytesWritten > room - offset ∨
        !Detail.validMmsData answer.bytes then
      .error { status := .backendFailure, requiredBytes := room }
    else .ok answer.bytes
  | none =>
    match encodeSubtree child.path (room - offset) with
    | .ok octets => .ok octets
    | .error failure =>
      if failure.status = .workspaceTooSmall then
        match addSize offset failure.requiredBytes with
        | some requiredBytes => .error { status := failure.status, requiredBytes }
        | none => .error failure
      else .error failure

/-- The loop over the children: what stands in the destination in the end. -/
def encodeChildren (encodeSubtree : Bytes → Nat → Except SyntheticReadFailure Bytes) (room : Nat) :
    List SyntheticChild → Bytes → Except SyntheticReadFailure Bytes
  | [], out => .ok out
  | child :: children, out =>
    match encodeChild read encodeSubtree room out.length child with
    | .error failure => .error failure
    | .ok octets => encodeChildren encodeSubtree room children (out ++ octets)

/-- `encode_synthetic_subtree`, into a destination of that size. -/
def encodeSyntheticSubtree : Nat → Bytes → Nat → Except SyntheticReadFailure Bytes
  | 0, _, _ => .error { status := .backendFailure }
  | levels + 1, path, destinationSize =>
    match measureSyntheticSubtree sort read objects domain (levels + 1) path with
    | .error status => .error { status }
    | .ok measured =>
      let failure : SyntheticReadFailure :=
        { status := .backendFailure, requiredBytes := measured.encodedBytes }
      if destinationSize < measured.encodedBytes then
        .error { failure with status := .workspaceTooSmall }
      else
        let writer : BerSpanWriter := { capacity := measured.encodedBytes }
        match writer.writeTlvHeader .contextSpecific true 2 measured.contentBytes with
        | none => .error failure
        | some writer =>
          let children := sortedChildren sort objects domain path
          if children.overflow then .error failure
          else
            match encodeChildren read (encodeSyntheticSubtree levels) measured.encodedBytes
              children.values writer.out with
            | .error failure => .error failure
            | .ok out =>
              if out.length ≠ measured.encodedBytes ∨ !Detail.validMmsData out then .error failure
              else .ok out

/-! ## Types -/

inductive SyntheticTypeStatus where
  | ok
  | notFound
  | workspaceTooSmall
  | backendFailure
  deriving DecidableEq

structure SyntheticTypeFailure where
  status : SyntheticTypeStatus
  requiredBytes : Nat := 0
  deriving DecidableEq

structure SyntheticTypeSize where
  componentBytes : Nat
  listBytes : Nat
  encodedBytes : Nat
  deriving DecidableEq

/-- The size of the type of a child. -/
def measureChildType (measureSubtree : Bytes → Except SyntheticTypeStatus SyntheticTypeSize)
    (child : SyntheticChild) : Except SyntheticTypeStatus Nat :=
  match child.exactObject with
  | some object =>
    if !validTypeSpecification object.typeSpecification then .error .backendFailure
    else .ok object.typeSpecification.length
  | none =>
    match measureSubtree child.path with
    | .error status => .error status
    | .ok nested => .ok nested.encodedBytes

/-- The content of a component: its name and its type. -/
def componentContent (nameBytes childTypeBytes : Nat) : Option Nat := do
  let nameTlv ← BerSpanWriter.tlvSize 0 nameBytes
  let typeWrapper ← BerSpanWriter.tlvSize 1 childTypeBytes
  addSize nameTlv typeWrapper

/-- The loop over the components. -/
def measureComponents (measureSubtree : Bytes → Except SyntheticTypeStatus SyntheticTypeSize)
    (path : Bytes) : List SyntheticChild → Nat → Except SyntheticTypeStatus Nat
  | [], componentBytes => .ok componentBytes
  | child :: children, componentBytes =>
    match measureChildType measureSubtree child with
    | .error status => .error status
    | .ok childTypeBytes =>
      let total := do
        let content ← componentContent (childName path child.path).length childTypeBytes
        let component ← BerSpanWriter.tlvSize 16 content
        addSize componentBytes component
      match total with
      | none => .error .backendFailure
      | some componentBytes => measureComponents measureSubtree path children componentBytes

/-- The sizes of the list of components and of the structure. -/
def structureSize (componentBytes : Nat) : Option SyntheticTypeSize := do
  let listBytes ← BerSpanWriter.tlvSize 1 componentBytes
  let encodedBytes ← BerSpanWriter.tlvSize 2 listBytes
  some { componentBytes, listBytes, encodedBytes }

/-- `measure_synthetic_type_subtree` -/
def measureSyntheticTypeSubtree : Nat → Bytes → Except SyntheticTypeStatus SyntheticTypeSize
  | 0, _ => .error .backendFailure
  | levels + 1, path =>
    if domain = [] ∨ path = [] then .error .backendFailure
    else
      let children := sortedChildren sort objects domain path
      if children.overflow then .error .backendFailure
      else if children.values = [] then .error .notFound
      else
        match measureComponents (measureSyntheticTypeSubtree levels) path children.values 0 with
        | .error status => .error status
        | .ok componentBytes =>
          match structureSize componentBytes with
          | none => .error .backendFailure
          | some measured => .ok measured

/-- The headers in front of the type of a child, with its name. -/
def writeComponentHeader (writer : BerSpanWriter) (name : Bytes) (childTypeBytes : Nat) :
    Option BerSpanWriter := do
  let content ← componentContent name.length childTypeBytes
  let writer ← writer.writeTlvHeader .universal true 16 content
  let writer ← writer.writeTlvHeader .contextSpecific false 0 name.length
  let writer ← writer.writeBytes name
  writer.writeTlvHeader .contextSpecific true 1 childTypeBytes

/-- A component. `required` is what a failure of the writer reports. -/
def encodeComponent (measureSubtree : Bytes → Except SyntheticTypeStatus SyntheticTypeSize)
    (encodeSubtree : Bytes → Nat → Except SyntheticTypeFailure Bytes) (path : Bytes)
    (required : Nat) (writer : BerSpanWriter) (child : SyntheticChild) :
    Except SyntheticTypeFailure BerSpanWriter :=
  let failure : SyntheticTypeFailure := { status := .backendFailure, requiredBytes := required }
  let name := childName path child.path
  match child.exactObject with
  | some object =>
    match writeComponentHeader writer name object.typeSpecification.length with
    | none => .error failure
    | some writer =>
      match writer.writeBytes object.typeSpecification with
      | none => .error failure
      | some writer => .ok writer
  | none =>
    match measureSubtree child.path with
    | .error status => .error { status }
    | .ok nested =>
      match writeComponentHeader writer name nested.encodedBytes with
      | none => .error failure
      | some writer =>
        match encodeSubtree child.path writer.remaining with
        | .error failure => .error failure
        | .ok octets =>
          match writer.writeBytes octets with
          | none => .error failure
          | some writer => .ok writer

/-- The loop over the components. -/
def encodeComponents (measureSubtree : Bytes → Except SyntheticTypeStatus SyntheticTypeSize)
    (encodeSubtree : Bytes → Nat → Except SyntheticTypeFailure Bytes) (path : Bytes)
    (required : Nat) : List SyntheticChild → BerSpanWriter → Except SyntheticTypeFailure BerSpanWriter
  | [], writer => .ok writer
  | child :: children, writer =>
    match encodeComponent measureSubtree encodeSubtree path required writer child with
    | .error failure => .error failure
    | .ok writer => encodeComponents measureSubtree encodeSubtree path required children writer

/-- `encode_synthetic_type_subtree`, into a destination of that size. -/
def encodeSyntheticTypeSubtree : Nat → Bytes → Nat → Except SyntheticTypeFailure Bytes
  | 0, _, _ => .error { status := .backendFailure }
  | levels + 1, path, destinationSize =>
    match measureSyntheticTypeSubtree sort objects domain (levels + 1) path with
    | .error status => .error { status }
    | .ok measured =>
      let failure : SyntheticTypeFailure :=
        { status := .backendFailure, requiredBytes := measured.encodedBytes }
      if destinationSize < measured.encodedBytes then
        .error { failure with status := .workspaceTooSmall }
      else
        let writer : BerSpanWriter := { capacity := destinationSize }
        let headers := do
          let writer ← writer.writeTlvHeader .contextSpecific true 2 measured.listBytes
          writer.writeTlvHeader .contextSpecific true 1 measured.componentBytes
        match headers with
        | none => .error failure
        | some writer =>
          let children := sortedChildren sort objects domain path
          if children.overflow then .error failure
          else
            match encodeComponents (measureSyntheticTypeSubtree sort objects domain levels)
              (encodeSyntheticTypeSubtree levels) path measured.encodedBytes children.values
              writer with
            | .error failure => .error failure
            | .ok writer =>
              if writer.size ≠ measured.encodedBytes ∨ !validTypeSpecification writer.out then
                .error failure
              else .ok writer.out

end ArStack.Mms.MmsStaticApplicationDispatcher
