import ArStack.Asn1.BerSpanReader

/-!
# Object and data set tables

The two static tables a server is configured with. An object entry carries callbacks; here
it says which of them are present, and what a callback answers is an input of the operation
that calls it.

* `MmsStaticObjectTable`, `MmsStaticDataSetTable` — the tables, `valid` and `find`
* `MmsStaticDataSetTable.find_domainSpecific_mem`, `find_valid` — what a hit satisfies
-/

namespace ArStack.Mms

open ArStack.Asn1

/-- Limits of `MmsServiceSpanCodec`. -/
def maximumIdentifierBytes : Nat := 1024
def maximumVariables : Nat := 128

/-- Limits of `MmsDataSetSpanCodec` and `MmsInformationReportSpanCodec`. -/
abbrev maximumMembers : Nat := 128

/-- A non-empty text of at most `maximumBytes` 7-bit characters other than NUL. -/
def visibleAscii (text : Bytes) (maximumBytes : Nat) : Bool :=
  !text.isEmpty && decide (text.length ≤ maximumBytes) &&
    text.all fun byte => byte != 0 && decide (byte ≤ 0x7F)

inductive MmsObjectNameViewKind where
  | vmdSpecific
  | domainSpecific
  | aaSpecific
  deriving DecidableEq

structure MmsObjectNameView where
  kind : MmsObjectNameViewKind := .domainSpecific
  domain : Bytes := []
  item : Bytes := []
  deriving DecidableEq

/-- The domain-specific name the runtimes look objects and data sets up by. -/
def objectName (domain item : Bytes) : MmsObjectNameView := ⟨.domainSpecific, domain, item⟩

/-! ## Objects -/

inductive MmsStaticWriteSemantic where
  | ordinary
  | rcbConfiguration
  | rcbEnable
  | rcbGeneralInterrogation
  deriving DecidableEq

structure MmsStaticObjectEntry where
  domain : Bytes
  item : Bytes
  typeSpecification : Bytes
  read : Bool := true
  write : Bool := false
  contextualWrite : Bool := false
  /-- The identity of the transaction group, if the entry is in one. -/
  writeTransactionGroup : Option Nat := none
  writeSemantic : MmsStaticWriteSemantic := .ordinary
  /-- The place in the engineering model; the largest size where none is specified. -/
  declarationOrder : UInt64 := 0xFFFFFFFFFFFFFFFF
  deriving DecidableEq

namespace MmsStaticObjectEntry

def writable (object : MmsStaticObjectEntry) : Bool := object.write || object.contextualWrite

def sameName (left right : MmsStaticObjectEntry) : Bool :=
  left.domain == right.domain && left.item == right.item

end MmsStaticObjectEntry

def validTypeSpecification (encoded : Bytes) : Bool :=
  match BerSpanReader.tryReadExact encoded with
  | none => false
  | some type => type.tagClass == .contextSpecific

structure MmsStaticObjectTable where
  objects : List MmsStaticObjectEntry
  deriving DecidableEq

namespace MmsStaticObjectTable

def maximumObjects : Nat := 8192

/-- Every entry is well formed and no later entry has its name. -/
def validObjects : List MmsStaticObjectEntry → Bool
  | [] => true
  | object :: others =>
    visibleAscii object.domain maximumIdentifierBytes &&
      visibleAscii object.item maximumIdentifierBytes &&
      validTypeSpecification object.typeSpecification && object.read &&
      !others.any object.sameName && validObjects others

def valid (table : MmsStaticObjectTable) : Bool :=
  !table.objects.isEmpty && decide (table.objects.length ≤ maximumObjects) &&
    validObjects table.objects

def find (table : MmsStaticObjectTable) (name : MmsObjectNameView) :
    Option MmsStaticObjectEntry :=
  if name.kind ≠ .domainSpecific ∨ name.domain.isEmpty ∨ name.item.isEmpty then none
  else table.objects.find? fun object => name.domain == object.domain && name.item == object.item

end MmsStaticObjectTable

/-! ## Data sets -/

structure MmsStaticDataSetMember where
  domain : Bytes
  item : Bytes
  deriving DecidableEq

structure MmsStaticDataSetEntry where
  domain : Bytes
  item : Bytes
  members : List MmsStaticDataSetMember
  deriving DecidableEq

structure MmsStaticDataSetTable where
  dataSets : List MmsStaticDataSetEntry
  deriving DecidableEq

def validName (value : Bytes) : Bool := visibleAscii value maximumIdentifierBytes

/-- Names are well formed and no member is listed twice. -/
def validMembers : List MmsStaticDataSetMember → Bool
  | [] => true
  | member :: others =>
    validName member.domain && validName member.item && !others.contains member &&
      validMembers others

namespace MmsStaticDataSetEntry

def valid (dataSet : MmsStaticDataSetEntry) : Bool :=
  validName dataSet.domain && validName dataSet.item && !dataSet.members.isEmpty &&
    decide (dataSet.members.length ≤ maximumMembers) && validMembers dataSet.members

def sameName (left right : MmsStaticDataSetEntry) : Bool :=
  left.domain == right.domain && left.item == right.item

end MmsStaticDataSetEntry

namespace MmsStaticDataSetTable

def maximumDataSets : Nat := 64

def validDataSets : List MmsStaticDataSetEntry → Bool
  | [] => true
  | dataSet :: others =>
    dataSet.valid && !others.any dataSet.sameName && validDataSets others

def valid (table : MmsStaticDataSetTable) : Bool :=
  decide (table.dataSets.length ≤ maximumDataSets) && validDataSets table.dataSets

/-- Every member of every data set is an object of the table. -/
def validAgainst (table : MmsStaticDataSetTable) (objects : MmsStaticObjectTable) : Bool :=
  table.valid && objects.valid && table.dataSets.all fun dataSet =>
    dataSet.members.all fun member => (objects.find (objectName member.domain member.item)).isSome

/-- VMD- and AA-specific names resolve by item, when the item is unique across domains. -/
def find (table : MmsStaticDataSetTable) (name : MmsObjectNameView) :
    Option MmsStaticDataSetEntry :=
  match name.kind with
  | .domainSpecific => table.dataSets.find? fun dataSet =>
      name.domain == dataSet.domain && name.item == dataSet.item
  | _ =>
    if name.item.isEmpty then none
    else
      match table.dataSets.filter fun dataSet => name.item == dataSet.item with
      | [dataSet] => some dataSet
      | _ => none

theorem find_domainSpecific_mem {table : MmsStaticDataSetTable} {domain item : Bytes}
    {dataSet : MmsStaticDataSetEntry} (h : table.find (objectName domain item) = some dataSet) :
    dataSet ∈ table.dataSets := List.mem_of_find?_eq_some h

theorem validDataSets_mem {dataSets : List MmsStaticDataSetEntry}
    (h : validDataSets dataSets = true) {dataSet : MmsStaticDataSetEntry}
    (hmem : dataSet ∈ dataSets) : dataSet.valid = true := by
  induction dataSets with
  | nil => simp at hmem
  | cons first others ih =>
    simp only [validDataSets, Bool.and_eq_true] at h
    rcases List.mem_cons.mp hmem with rfl | hmem
    · exact h.1.1
    · exact ih h.2 hmem

/-- A data set of a valid table has between one and `maximumMembers` members. -/
theorem find_valid {table : MmsStaticDataSetTable} (hvalid : table.valid = true)
    {domain item : Bytes} {dataSet : MmsStaticDataSetEntry}
    (h : table.find (objectName domain item) = some dataSet) :
    0 < dataSet.members.length ∧ dataSet.members.length ≤ maximumMembers := by
  simp only [valid, Bool.and_eq_true] at hvalid
  have hds := validDataSets_mem hvalid.2 (find_domainSpecific_mem h)
  simp only [MmsStaticDataSetEntry.valid, Bool.and_eq_true, decide_eq_true_eq] at hds
  refine ⟨?_, hds.1.2⟩
  have hne := hds.1.1.2
  cases hm : dataSet.members with
  | nil => simp [hm] at hne
  | cons member members => simp

end MmsStaticDataSetTable

end ArStack.Mms
