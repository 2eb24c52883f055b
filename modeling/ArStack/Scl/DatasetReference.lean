import ArStack.Lib.TextMatch
import ArStack.Wire
import Mathlib.Data.List.SplitOn

/-!
# References to data sets

`SclDataSetReferenceResolver` finds the data set that a reference names: `IEDLD/LN$name`,
`LD/LN$name`, both with `$DS$`, `LN$name`, `LN.name` or `name`, with the device and the node of the
context where the reference leaves them out.

* `parseReference` — the device, the node and the name
* `resolve`
-/

namespace ArStack.Scl

open ArStack.Lib

inductive SclDataSetBindingStatus where
  | notSpecified
  | unresolved
  | resolvedEmpty
  | resolved
  deriving DecidableEq

structure SclDataSet where
  iedName : Bytes := []
  ldInst : Bytes := []
  logicalNodePath : Bytes := []
  name : Bytes := []
  reference : Bytes := []
  entries : List Bytes := []
  deriving DecidableEq

structure SclDataSetBindingResolution where
  status : SclDataSetBindingStatus := .notSpecified
  dataSet : Option SclDataSet := none
  canonicalReference : Bytes := []
  localName : Bytes := []
  deriving DecidableEq

namespace SclDataSetReferenceResolver

def same (left right : Bytes) : Bool := lowerAscii (trimAscii left) == lowerAscii (trimAscii right)

/-- The parts between the delimiters, without blanks and without the empty ones. -/
def splitPath (text : Bytes) (delimiter : UInt8) : List Bytes :=
  ((text.splitOn delimiter).map trimAscii).filter (· ≠ [])

structure ParsedReference where
  ldInst : Bytes := []
  logicalNodePath : Bytes := []
  localName : Bytes := []
  deriving DecidableEq

/-- The device of a domain: what comes after the name of the IED. -/
def stripIedName (domain iedName : Bytes) : Bytes :=
  if iedName ≠ [] ∧ lowerAscii iedName <+: lowerAscii domain ∧ domain.length > iedName.length then
    domain.drop iedName.length
  else domain

/-- The path is in reverse order: the leaf, the domain, and what comes before it. -/
def resolveLdInst (reversed : List Bytes) (iedName fallbackLdInst : Bytes) : Bytes :=
  match reversed with
  | _ :: domain :: before =>
    let domain :=
      match before with
      | [] => trimAscii domain
      | outer :: _ => if same (trimAscii domain) iedName then trimAscii outer else trimAscii domain
    let domain := stripIedName domain iedName
    if domain = [] then fallbackLdInst else domain
  | _ => fallbackLdInst

/-- `$ds$`, in any case. -/
def infixDs (a b c d : UInt8) : Bool := lowerAscii [a, b, c, d] == [0x24, 0x64, 0x73, 0x24]

/-- With `$` for each `$ds$`. -/
def replaceDs : Bytes → Bytes
  | a :: b :: c :: d :: rest =>
    if infixDs a b c d then 0x24 :: replaceDs rest else a :: replaceDs (b :: c :: d :: rest)
  | text => text

/-- The node and the name around the last dot, if neither is empty. -/
def splitDot (leaf : Bytes) : Option (Bytes × Bytes) :=
  match leaf.reverse.dropWhile (· ≠ 0x2E) with
  | [] => none
  | _ :: before =>
    let name := (leaf.reverse.takeWhile (· ≠ 0x2E)).reverse
    if before = [] ∨ name = [] then none
    else some (trimAscii before.reverse, trimAscii name)

/-- The node and the name in a leaf. -/
def splitLeaf (leaf fallbackLogicalNodePath : Bytes) : Bytes × Bytes :=
  match splitPath leaf 0x24 with
  | first :: second :: rest => (first, (second :: rest).getLast (List.cons_ne_nil _ _))
  | _ => (splitDot leaf).getD (fallbackLogicalNodePath, leaf)

def parseReference (rawReference iedName fallbackLdInst fallbackLogicalNodePath : Bytes) :
    ParsedReference :=
  let normalized :=
    replaceDs ((trimAscii rawReference).map fun octet => if octet = 0x5C then 0x2F else octet)
  let reversed := (splitPath normalized 0x2F).reverse
  let leaf := reversed.headD normalized
  let ldInst := resolveLdInst reversed iedName fallbackLdInst
  let (logicalNodePath, localName) := splitLeaf leaf fallbackLogicalNodePath
  { ldInst := if ldInst = [] then fallbackLdInst else ldInst
    logicalNodePath := if logicalNodePath = [] then fallbackLogicalNodePath else logicalNodePath
    localName := trimAscii localName }

def buildCanonicalReference (iedName : Bytes) (parts : ParsedReference) : Bytes :=
  if parts.localName = [] then []
  else iedName ++ parts.ldInst ++ 0x2F :: parts.logicalNodePath ++ 0x24 :: parts.localName

def isNamed (iedName : Bytes) (parts : ParsedReference) (dataSet : SclDataSet) : Bool :=
  same dataSet.iedName iedName && same dataSet.ldInst parts.ldInst &&
    same dataSet.logicalNodePath parts.logicalNodePath && same dataSet.name parts.localName

/-- One data set has to be named; the loop of the source stops at the second. -/
def resolve (dataSets : List SclDataSet) (iedName ldInst logicalNodePath rawReference : Bytes) :
    SclDataSetBindingResolution :=
  if trimAscii rawReference = [] then {}
  else
    let parts := parseReference rawReference iedName ldInst logicalNodePath
    match dataSets.filter (isNamed iedName parts) with
    | [dataSet] =>
      { status := if dataSet.entries = [] then .resolvedEmpty else .resolved
        dataSet := some dataSet
        canonicalReference := dataSet.reference
        localName := dataSet.name }
    | _ =>
      { status := .unresolved
        canonicalReference := buildCanonicalReference iedName parts
        localName := parts.localName }

end SclDataSetReferenceResolver

end ArStack.Scl
