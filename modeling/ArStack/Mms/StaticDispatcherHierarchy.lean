import ArStack.Lib.TextMatch
import ArStack.Mms.StaticTables

/-!
# The hierarchy of the static dispatcher

Items have names such as `LN$FC$DO$DA`. A structure that is asked for under a shorter name is
put together from the items below it, child by child.

* `collectSyntheticChildren` — the children of a name
* `syntheticChildrenLess` — the order in which they are sorted
-/

namespace ArStack.Mms

open ArStack.Lib

/-- `MmsServiceSpanCodec::maximum_identifiers`. -/
def maximumIdentifiers : Nat := 128

namespace MmsStaticApplicationDispatcher

def urcbAttributeOrder : List Bytes :=
  ["RptID", "RptEna", "Resv", "DatSet", "ConfRev", "OptFlds", "BufTm", "SqNum", "TrgOps", "IntgPd",
    "GI", "Owner"].map ascii

def brcbAttributeOrder : List Bytes :=
  ["RptID", "RptEna", "DatSet", "ConfRev", "OptFlds", "BufTm", "SqNum", "TrgOps", "IntgPd", "GI",
    "PurgeBuf", "EntryID", "TimeofEntry", "ResvTms", "Owner"].map ascii

def referenceIec61850ControlServiceOrder : List Bytes :=
  ["SBO", "SBOw", "Oper", "Cancel"].map ascii

/-- The character that separates the parts of a name. -/
def separator : UInt8 := 0x24

/-- The declaration order of what is not in the engineering model. -/
def unspecified : UInt64 := 0xFFFFFFFFFFFFFFFF

/-- `path` is the source's prefix: the name of the structure. -/
structure SyntheticChild where
  path : Bytes := []
  exactObject : Option MmsStaticObjectEntry := none
  declarationOrder : UInt64 := unspecified
  deriving DecidableEq

def isDescendantItem (item path : Bytes) : Bool :=
  decide (item.length > path.length) && path.isPrefixOf item && item[path.length]? == some separator

/-- The name up to the next separator. -/
def immediateChildPath (item path : Bytes) : Bytes :=
  if !isDescendantItem item path then []
  else
    item.take (path.length + 1) ++ (item.drop (path.length + 1)).takeWhile (· != separator)

def containsText (text part : Bytes) : Bool :=
  (List.range (text.length + 1)).any fun start => part.isPrefixOf (text.drop start)

def semanticChildOrder (path : Bytes) : List Bytes :=
  if containsText path (ascii "$RP$") then urcbAttributeOrder
  else if containsText path (ascii "$BR$") then brcbAttributeOrder
  else if containsText path (ascii "$CO$") && path.count separator == 2 then
    referenceIec61850ControlServiceOrder
  else []

/-- The name of a child below the structure. -/
def childName (path child : Bytes) : Bytes := child.drop (path.length + 1)

def syntheticChildRank (path child : Bytes) : Option Nat :=
  if !isDescendantItem child path then none
  else (semanticChildOrder path).findIdx? (childName path child == ·)

/-- The order of texts: octet by octet. -/
def textLess (left right : Bytes) : Bool :=
  decide (left.map UInt8.toNat < right.map UInt8.toNat)

def syntheticChildLess (path left right : Bytes) : Bool :=
  match syntheticChildRank path left, syntheticChildRank path right with
  | some leftRank, some rightRank => decide (leftRank < rightRank)
  | some _, none => true
  | none, some _ => false
  | none, none => textLess left right

def useDeclarationOrder (path : Bytes) : Bool := !path.isEmpty

def declarationOrderLess (leftOrder : UInt64) (left : Bytes) (rightOrder : UInt64)
    (right : Bytes) : Bool :=
  if leftOrder ≠ unspecified ∨ rightOrder ≠ unspecified then
    if leftOrder = unspecified then false
    else if rightOrder = unspecified then true
    else if leftOrder ≠ rightOrder then decide (leftOrder < rightOrder)
    else textLess left right
  else textLess left right

structure SyntheticChildren where
  values : List SyntheticChild := []
  overflow : Bool := false
  deriving DecidableEq

/-- A candidate below a child that has been met before. -/
def SyntheticChild.meet (child : Bytes) (candidate : MmsStaticObjectEntry)
    (existing : SyntheticChild) : SyntheticChild :=
  { existing with
    declarationOrder := min existing.declarationOrder candidate.declarationOrder
    exactObject := if candidate.item = child then some candidate else existing.exactObject }

/-- The children with the first one of this name changed, if there is one. -/
def updateChild (child : Bytes) (update : SyntheticChild → SyntheticChild) :
    List SyntheticChild → Option (List SyntheticChild)
  | [] => none
  | existing :: others =>
    if existing.path = child then some (update existing :: others)
    else (updateChild child update others).map (existing :: ·)

/-- One candidate of the table. -/
def collectCandidate (domain path : Bytes) (result : SyntheticChildren)
    (candidate : MmsStaticObjectEntry) : SyntheticChildren :=
  if result.overflow ∨ candidate.domain ≠ domain ∨ !isDescendantItem candidate.item path then result
  else
    let child := immediateChildPath candidate.item path
    if child = [] then result
    else
      match updateChild child (SyntheticChild.meet child candidate) result.values with
      | some values => { result with values }
      | none =>
        if result.values.length ≥ maximumIdentifiers then { result with overflow := true }
        else
          { result with
            values := result.values ++
              [{ path := child
                 exactObject := if candidate.item = child then some candidate else none
                 declarationOrder := candidate.declarationOrder }] }

/-- The children in the order of the table, before they are sorted. -/
def collectSyntheticChildren (objects : MmsStaticObjectTable) (domain path : Bytes) :
    SyntheticChildren :=
  objects.objects.foldl (collectCandidate domain path) {}

/-- The comparison of the sort. -/
def syntheticChildrenLess (path : Bytes) (left right : SyntheticChild) : Bool :=
  let leftName := childName path left.path
  let rightName := childName path right.path
  let declared :=
    declarationOrderLess left.declarationOrder left.path right.declarationOrder right.path
  if semanticChildOrder path ≠ [] then syntheticChildLess path left.path right.path
  else if useDeclarationOrder path then
    -- CO is placed behind ST and MX, before everything else
    if separator ∉ path then
      if leftName = ascii "CO" ∧ rightName ≠ ascii "CO" then
        rightName != ascii "MX" && rightName != ascii "ST"
      else if rightName = ascii "CO" ∧ leftName ≠ ascii "CO" then
        leftName == ascii "MX" || leftName == ascii "ST"
      else declared
    else declared
  else textLess left.path right.path

end MmsStaticApplicationDispatcher

end ArStack.Mms
