import ArStack.Lib.Octets
import ArStack.Scl.DatasetReference

/-!
# A reference names its data set

The seven spellings of a reference are parsed to the device, the node and the name of the data set.

* `replaceDs_plain`, `splitPath_two`, `splitDot_dotted` — the pieces of the parser
* `parse_domain`, `parse_leaf` — with a domain and without
* `dataset_references`
-/

namespace ArStack.Scl.SclDataSetReferenceResolver

open ArStack.Lib

/-! ## Plain names -/

/-- An octet that is neither a delimiter nor a blank. -/
def PlainOctet (octet : UInt8) : Prop :=
  octet ≠ 0x2F ∧ octet ≠ 0x5C ∧ octet ≠ 0x24 ∧ octet ≠ 0x2E ∧ asciiSpace octet = false

structure Plain (name : Bytes) : Prop where
  ne_nil : name ≠ []
  octets : ∀ octet ∈ name, PlainOctet octet

theorem plain_singleton {octet : UInt8} (h : PlainOctet octet) : Plain [octet] := by
  refine ⟨List.cons_ne_nil _ _, fun other hmem => ?_⟩
  rwa [List.mem_singleton.mp hmem]

theorem Plain.append {left right : Bytes} (hleft : Plain left) (hright : Plain right) :
    Plain (left ++ right) := by
  refine ⟨List.append_ne_nil_of_left_ne_nil hleft.ne_nil _, fun octet hmem => ?_⟩
  rcases List.mem_append.mp hmem with hmem | hmem
  · exact hleft.octets octet hmem
  · exact hright.octets octet hmem

theorem Plain.trim {name : Bytes} (h : Plain name) : trimAscii name = name :=
  trimAscii_of_noSpace fun octet hmem => (h.octets octet hmem).2.2.2.2

theorem Plain.slash {name : Bytes} (h : Plain name) : 0x2F ∉ name := fun hmem => (h.octets _ hmem).1 rfl

theorem Plain.dollar {name : Bytes} (h : Plain name) : 0x24 ∉ name := fun hmem =>
  (h.octets _ hmem).2.2.1 rfl

theorem Plain.dot {name : Bytes} (h : Plain name) : 0x2E ∉ name := fun hmem =>
  (h.octets _ hmem).2.2.2.1 rfl

/-! ## `$ds$` -/

theorem infixDs_eq_false {a b c d : UInt8} (h : a ≠ 0x24 ∨ d ≠ 0x24) : infixDs a b c d = false := by
  have hdollar : ∀ octet : UInt8, (if 0x41 ≤ octet ∧ octet ≤ 0x5A then octet + 0x20 else octet) = 0x24 →
      octet = 0x24 := by
    refine forall_octet ?_
    decide +kernel
  refine Bool.eq_false_iff.mpr fun hds => ?_
  obtain ⟨ha, hrest⟩ := List.cons.inj (beq_iff_eq.mp hds)
  obtain ⟨-, hrest⟩ := List.cons.inj hrest
  obtain ⟨-, hrest⟩ := List.cons.inj hrest
  obtain ⟨hd, -⟩ := List.cons.inj hrest
  rcases h with h | h
  · exact h (hdollar a ha)
  · exact h (hdollar d hd)

theorem replaceDs_cons {octet : UInt8} (h : octet ≠ 0x24) (rest : Bytes) :
    replaceDs (octet :: rest) = octet :: replaceDs rest := by
  rcases rest with _ | ⟨b, _ | ⟨c, _ | ⟨d, rest⟩⟩⟩
  · rfl
  · rfl
  · rfl
  · rw [replaceDs, infixDs_eq_false (.inl h), if_neg Bool.false_ne_true]

theorem replaceDs_append {front : Bytes} (h : 0x24 ∉ front) (rest : Bytes) :
    replaceDs (front ++ rest) = front ++ replaceDs rest := by
  induction front with
  | nil => rfl
  | cons octet front ih =>
    have hoctet : octet ≠ 0x24 := by
      rintro rfl
      exact h List.mem_cons_self
    rw [List.cons_append, replaceDs_cons hoctet, ih fun hmem => h (List.mem_cons_of_mem _ hmem),
      List.cons_append]

theorem replaceDs_plain {text : Bytes} (h : 0x24 ∉ text) : replaceDs text = text := by
  have happend := replaceDs_append h []
  rw [List.append_nil] at happend
  rw [happend]
  exact List.append_nil text

theorem replaceDs_dollar {name : Bytes} (h : 0x24 ∉ name) :
    replaceDs (0x24 :: name) = 0x24 :: name := by
  rcases name with _ | ⟨b, _ | ⟨c, _ | ⟨d, rest⟩⟩⟩
  · rfl
  · rfl
  · rfl
  · have hd : d ≠ 0x24 := by
      rintro rfl
      exact h (by simp)
    rw [replaceDs, infixDs_eq_false (.inr hd), if_neg Bool.false_ne_true, replaceDs_plain h]

theorem replaceDs_infix {name : Bytes} (h : 0x24 ∉ name) :
    replaceDs (0x24 :: 0x44 :: 0x53 :: 0x24 :: name) = 0x24 :: name := by
  have hds : infixDs 0x24 0x44 0x53 0x24 = true := by decide
  rw [replaceDs, hds, if_pos rfl, replaceDs_plain h]

/-! ## Splitting -/

theorem splitPath_one {text : Bytes} {delimiter : UInt8} (h : delimiter ∉ text)
    (htrim : trimAscii text = text) (hne : text ≠ []) : splitPath text delimiter = [text] := by
  have hsplit : text.splitOn delimiter = [text] := by
    have hparts : ∀ part ∈ [text], delimiter ∉ part := by
      intro part hpart
      rw [List.mem_singleton.mp hpart]
      exact h
    have hone := List.splitOn_intercalate delimiter hparts (List.cons_ne_nil _ _)
    rwa [List.intercalate_singleton] at hone
  rw [splitPath, hsplit]
  simp [htrim, hne]

theorem splitPath_two {front name : Bytes} {delimiter : UInt8} (hfront : delimiter ∉ front)
    (hname : delimiter ∉ name) (htrim : trimAscii front = front) (hne : front ≠ [])
    (htrim' : trimAscii name = name) (hne' : name ≠ []) :
    splitPath (front ++ delimiter :: name) delimiter = [front, name] := by
  have hparts : ∀ part ∈ [front, name], delimiter ∉ part := by
    intro part hpart
    rcases List.mem_cons.mp hpart with rfl | hpart
    · exact hfront
    · rw [List.mem_singleton.mp hpart]
      exact hname
  have htwo := List.splitOn_intercalate delimiter hparts (List.cons_ne_nil _ _)
  rw [List.intercalate_cons_cons, List.intercalate_singleton, List.append_assoc] at htwo
  have hsplit : (front ++ delimiter :: name).splitOn delimiter = [front, name] := htwo
  rw [splitPath, hsplit]
  simp [htrim, hne, htrim', hne']

theorem splitDot_none {text : Bytes} (h : 0x2E ∉ text) : splitDot text = none := by
  have hdrop : text.reverse.dropWhile (· ≠ 0x2E) = [] := by
    rw [List.dropWhile_eq_nil_iff]
    intro octet hmem
    refine decide_eq_true fun heq => h ?_
    rw [← heq]
    exact List.mem_reverse.mp hmem
  rw [splitDot, hdrop]

theorem splitDot_dotted {node name : Bytes} (hnode : Plain node) (hname : Plain name) :
    splitDot (node ++ 0x2E :: name) = some (node, name) := by
  have hreverse : (node ++ 0x2E :: name).reverse = name.reverse ++ 0x2E :: node.reverse := by
    simp
  have hall : ∀ octet ∈ name.reverse, decide (octet ≠ 0x2E) = true := by
    intro octet hmem
    exact decide_eq_true (hname.octets octet (List.mem_reverse.mp hmem)).2.2.2.1
  have hdrop : (name.reverse ++ 0x2E :: node.reverse).dropWhile (· ≠ 0x2E) =
      0x2E :: node.reverse := by
    rw [List.dropWhile_append_of_pos hall, List.dropWhile_cons_of_neg (by decide)]
  have htake : (name.reverse ++ 0x2E :: node.reverse).takeWhile (· ≠ 0x2E) = name.reverse := by
    rw [List.takeWhile_append_of_pos hall, List.takeWhile_cons_of_neg (by decide), List.append_nil]
  rw [splitDot, hreverse, hdrop, htake]
  dsimp only
  have hne : ¬(node.reverse = [] ∨ name.reverse.reverse = []) := by
    rw [List.reverse_reverse, List.reverse_eq_nil_iff]
    exact not_or.mpr ⟨hnode.ne_nil, hname.ne_nil⟩
  rw [if_neg hne, List.reverse_reverse, List.reverse_reverse, hnode.trim, hname.trim]

/-! ## Leaves -/

/-- What comes after the domain, and the node and the name in it. -/
inductive Leaf (node name fallback : Bytes) : Bytes → Bytes → Prop where
  | dollar : Leaf node name fallback (node ++ 0x24 :: name) (node ++ 0x24 :: name)
  | ds : Leaf node name fallback (node ++ 0x24 :: 0x44 :: 0x53 :: 0x24 :: name)
      (node ++ 0x24 :: name)
  | dot : Leaf node name fallback (node ++ 0x2E :: name) (node ++ 0x2E :: name)
  | name (h : fallback = node) : Leaf node name fallback name name

/-- What is left of the leaf is a leaf as well. -/
theorem leaf_replaced {node name fallback raw leaf : Bytes} (h : Leaf node name fallback raw leaf) :
    Leaf node name fallback leaf leaf := by
  cases h with
  | dollar => exact .dollar
  | ds => exact .dollar
  | dot => exact .dot
  | name hfallback => exact .name hfallback

section Leaves

variable {node name fallback raw leaf : Bytes} (hnode : Plain node) (hname : Plain name)
  (h : Leaf node name fallback raw leaf)

include hnode hname h

/-- The octets of a leaf are no slashes and no blanks. -/
theorem leaf_octets {octet : UInt8} (hmem : octet ∈ raw) :
    octet ≠ 0x2F ∧ octet ≠ 0x5C ∧ asciiSpace octet = false := by
  have hplain : PlainOctet octet → octet ≠ 0x2F ∧ octet ≠ 0x5C ∧ asciiSpace octet = false :=
    fun hoctet => ⟨hoctet.1, hoctet.2.1, hoctet.2.2.2.2⟩
  cases h with
  | dollar =>
    rcases List.mem_append.mp hmem with hmem | hmem
    · exact hplain (hnode.octets octet hmem)
    · rcases List.mem_cons.mp hmem with rfl | hmem
      · decide
      · exact hplain (hname.octets octet hmem)
  | ds =>
    rcases List.mem_append.mp hmem with hmem | hmem
    · exact hplain (hnode.octets octet hmem)
    · rcases List.mem_cons.mp hmem with rfl | hmem
      · decide
      rcases List.mem_cons.mp hmem with rfl | hmem
      · decide
      rcases List.mem_cons.mp hmem with rfl | hmem
      · decide
      rcases List.mem_cons.mp hmem with rfl | hmem
      · decide
      · exact hplain (hname.octets octet hmem)
  | dot =>
    rcases List.mem_append.mp hmem with hmem | hmem
    · exact hplain (hnode.octets octet hmem)
    · rcases List.mem_cons.mp hmem with rfl | hmem
      · decide
      · exact hplain (hname.octets octet hmem)
  | name _ => exact hplain (hname.octets octet hmem)

theorem replaceDs_leaf : replaceDs raw = leaf := by
  cases h with
  | dollar => rw [replaceDs_append hnode.dollar, replaceDs_dollar hname.dollar]
  | ds => rw [replaceDs_append hnode.dollar, replaceDs_infix hname.dollar]
  | dot =>
    refine replaceDs_plain fun hmem => ?_
    rcases List.mem_append.mp hmem with hmem | hmem
    · exact hnode.dollar hmem
    · rcases List.mem_cons.mp hmem with heq | hmem
      · cases heq
      · exact hname.dollar hmem
  | name _ => exact replaceDs_plain hname.dollar

theorem leaf_ne_nil : leaf ≠ [] := by
  cases h with
  | dollar | ds | dot => exact List.append_ne_nil_of_left_ne_nil hnode.ne_nil _
  | name _ => exact hname.ne_nil

theorem leaf_trim : trimAscii leaf = leaf :=
  trimAscii_of_noSpace fun _ hmem => (leaf_octets hnode hname (leaf_replaced h) hmem).2.2

theorem leaf_slash : 0x2F ∉ leaf := fun hmem =>
  (leaf_octets hnode hname (leaf_replaced h) hmem).1 rfl

theorem splitLeaf_leaf : splitLeaf leaf fallback = (node, name) := by
  cases h with
  | dollar | ds =>
    rw [splitLeaf, splitPath_two hnode.dollar hname.dollar hnode.trim hnode.ne_nil hname.trim
      hname.ne_nil]
    rfl
  | dot =>
    have hdollar : 0x24 ∉ node ++ 0x2E :: name := by
      intro hmem
      rcases List.mem_append.mp hmem with hmem | hmem
      · exact hnode.dollar hmem
      · rcases List.mem_cons.mp hmem with heq | hmem
        · cases heq
        · exact hname.dollar hmem
    have hdot : Leaf node name fallback (node ++ 0x2E :: name) (node ++ 0x2E :: name) := .dot
    rw [splitLeaf, splitPath_one hdollar (leaf_trim hnode hname hdot) (leaf_ne_nil hnode hname hdot),
      splitDot_dotted hnode hname]
    rfl
  | name hfallback =>
    subst hfallback
    rw [splitLeaf, splitPath_one hname.dollar hname.trim hname.ne_nil, splitDot_none hname.dot]
    rfl

end Leaves

/-! ## References -/

/-- Octets that stay as they are before the reference is split. -/
theorem normalized_eq {raw : Bytes}
    (h : ∀ octet ∈ raw, octet ≠ 0x5C ∧ asciiSpace octet = false) :
    ((trimAscii raw).map fun octet => if octet = 0x5C then 0x2F else octet) = raw := by
  rw [trimAscii_of_noSpace fun octet hmem => (h octet hmem).2]
  refine (List.map_congr_left fun octet hmem => ?_).trans (List.map_id _)
  rw [if_neg (h octet hmem).1, id]

section References

variable {node name fallback raw leaf iedName ldInst fallbackLdInst : Bytes} (hnode : Plain node)
  (hname : Plain name) (h : Leaf node name fallback raw leaf)

include hnode hname h

/-- **With a domain**, the device is what is left of it. -/
theorem parse_domain {domain : Bytes} (hdomain : Plain domain)
    (hstrip : stripIedName domain iedName = ldInst) (hldInst : ldInst ≠ []) :
    parseReference (domain ++ 0x2F :: raw) iedName fallbackLdInst fallback =
      { ldInst, logicalNodePath := node, localName := name } := by
  have hoctets : ∀ octet ∈ domain ++ 0x2F :: raw, octet ≠ 0x5C ∧ asciiSpace octet = false := by
    intro octet hmem
    rcases List.mem_append.mp hmem with hmem | hmem
    · exact ⟨(hdomain.octets octet hmem).2.1, (hdomain.octets octet hmem).2.2.2.2⟩
    · rcases List.mem_cons.mp hmem with rfl | hmem
      · decide
      · exact (leaf_octets hnode hname h hmem).2
  have hreplace : replaceDs (domain ++ 0x2F :: raw) = domain ++ 0x2F :: leaf := by
    rw [replaceDs_append hdomain.dollar, replaceDs_cons (by decide), replaceDs_leaf hnode hname h]
  have hpath : splitPath (domain ++ 0x2F :: leaf) 0x2F = [domain, leaf] := by
    exact splitPath_two hdomain.slash (leaf_slash hnode hname h) hdomain.trim hdomain.ne_nil
      (leaf_trim hnode hname h) (leaf_ne_nil hnode hname h)
  have hresolve : resolveLdInst [leaf, domain] iedName fallbackLdInst = ldInst := by
    rw [resolveLdInst, hdomain.trim, hstrip, if_neg hldInst]
  rw [parseReference, normalized_eq hoctets, hreplace, hpath]
  change ParsedReference.mk
    (if resolveLdInst [leaf, domain] iedName fallbackLdInst = [] then fallbackLdInst
      else resolveLdInst [leaf, domain] iedName fallbackLdInst)
    (if (splitLeaf leaf fallback).1 = [] then fallback else (splitLeaf leaf fallback).1)
    (trimAscii (splitLeaf leaf fallback).2) = _
  rw [hresolve, splitLeaf_leaf hnode hname h, if_neg hldInst, if_neg hnode.ne_nil, hname.trim]

/-- **Without a domain**, the device is that of the context. -/
theorem parse_leaf (hfallback : fallbackLdInst = ldInst) :
    parseReference raw iedName fallbackLdInst fallback =
      { ldInst, logicalNodePath := node, localName := name } := by
  have hpath : splitPath leaf 0x2F = [leaf] :=
    splitPath_one (leaf_slash hnode hname h) (leaf_trim hnode hname h) (leaf_ne_nil hnode hname h)
  rw [parseReference, normalized_eq fun octet hmem => (leaf_octets hnode hname h hmem).2,
    replaceDs_leaf hnode hname h, hpath]
  change ParsedReference.mk (if fallbackLdInst = [] then fallbackLdInst else fallbackLdInst)
    (if (splitLeaf leaf fallback).1 = [] then fallback else (splitLeaf leaf fallback).1)
    (trimAscii (splitLeaf leaf fallback).2) = _
  rw [splitLeaf_leaf hnode hname h, if_neg hnode.ne_nil, hname.trim, ite_self, hfallback]

end References

/-! ## Resolution -/

theorem stripIedName_canonical {iedName ldInst : Bytes} (hied : iedName ≠ []) (hld : ldInst ≠ []) :
    stripIedName (iedName ++ ldInst) iedName = ldInst := by
  have hprefix : lowerAscii iedName <+: lowerAscii (iedName ++ ldInst) := by
    unfold lowerAscii
    rw [List.map_append]
    exact List.prefix_append _ _
  have hlength : (iedName ++ ldInst).length > iedName.length := by
    have hpos := List.length_pos_iff.mpr hld
    rw [List.length_append]
    omega
  rw [stripIedName, if_pos ⟨hied, hprefix, hlength⟩, List.drop_left]

/-- The device does not begin with the name of its IED. -/
def Unambiguous (dataSet : SclDataSet) : Prop :=
  ¬(lowerAscii dataSet.iedName <+: lowerAscii dataSet.ldInst ∧
    dataSet.iedName.length < dataSet.ldInst.length)

theorem stripIedName_relative {dataSet : SclDataSet} (h : Unambiguous dataSet) :
    stripIedName dataSet.ldInst dataSet.iedName = dataSet.ldInst := by
  rw [stripIedName, if_neg fun hstrip => h hstrip.2]

/-- The spellings of a reference to a data set, in the context of a device and a node. -/
inductive Spells (dataSet : SclDataSet) (ldInst logicalNodePath : Bytes) : Bytes → Prop where
  | canonical : Spells dataSet ldInst logicalNodePath (dataSet.iedName ++ dataSet.ldInst ++
      0x2F :: (dataSet.logicalNodePath ++ 0x24 :: dataSet.name))
  | canonicalDs : Spells dataSet ldInst logicalNodePath (dataSet.iedName ++ dataSet.ldInst ++
      0x2F :: (dataSet.logicalNodePath ++ 0x24 :: 0x44 :: 0x53 :: 0x24 :: dataSet.name))
  | relative (h : Unambiguous dataSet) : Spells dataSet ldInst logicalNodePath
      (dataSet.ldInst ++ 0x2F :: (dataSet.logicalNodePath ++ 0x24 :: dataSet.name))
  | relativeDs (h : Unambiguous dataSet) : Spells dataSet ldInst logicalNodePath (dataSet.ldInst ++
      0x2F :: (dataSet.logicalNodePath ++ 0x24 :: 0x44 :: 0x53 :: 0x24 :: dataSet.name))
  | dollar (hld : ldInst = dataSet.ldInst) : Spells dataSet ldInst logicalNodePath
      (dataSet.logicalNodePath ++ 0x24 :: dataSet.name)
  | dot (hld : ldInst = dataSet.ldInst) : Spells dataSet ldInst logicalNodePath
      (dataSet.logicalNodePath ++ 0x2E :: dataSet.name)
  | name (hld : ldInst = dataSet.ldInst) (hnode : logicalNodePath = dataSet.logicalNodePath) :
      Spells dataSet ldInst logicalNodePath dataSet.name

/-- Names without delimiters and blanks. -/
structure PlainNames (dataSet : SclDataSet) : Prop where
  iedName : Plain dataSet.iedName
  ldInst : Plain dataSet.ldInst
  logicalNodePath : Plain dataSet.logicalNodePath
  name : Plain dataSet.name

def partsOf (dataSet : SclDataSet) : ParsedReference :=
  { ldInst := dataSet.ldInst, logicalNodePath := dataSet.logicalNodePath, localName := dataSet.name }

/-- **Every spelling is parsed to the names of the data set.** -/
theorem parse_spelling {dataSet : SclDataSet} {ldInst logicalNodePath raw : Bytes}
    (hplain : PlainNames dataSet) (h : Spells dataSet ldInst logicalNodePath raw) :
    parseReference raw dataSet.iedName ldInst logicalNodePath = partsOf dataSet := by
  have hnode := hplain.logicalNodePath
  have hname := hplain.name
  have hcanonical := hplain.iedName.append hplain.ldInst
  have hstrip := stripIedName_canonical hplain.iedName.ne_nil hplain.ldInst.ne_nil
  cases h with
  | canonical => exact parse_domain hnode hname .dollar hcanonical hstrip hplain.ldInst.ne_nil
  | canonicalDs => exact parse_domain hnode hname .ds hcanonical hstrip hplain.ldInst.ne_nil
  | relative h =>
    exact parse_domain hnode hname .dollar hplain.ldInst (stripIedName_relative h)
      hplain.ldInst.ne_nil
  | relativeDs h =>
    exact parse_domain hnode hname .ds hplain.ldInst (stripIedName_relative h) hplain.ldInst.ne_nil
  | dollar hld => exact parse_leaf hnode hname .dollar hld
  | dot hld => exact parse_leaf hnode hname .dot hld
  | name hld hfallback => exact parse_leaf hnode hname (.name hfallback) hld

theorem spelling_ne_blank {dataSet : SclDataSet} {ldInst logicalNodePath raw : Bytes}
    (hplain : PlainNames dataSet) (h : Spells dataSet ldInst logicalNodePath raw) :
    trimAscii raw ≠ [] := by
  obtain ⟨octet, hmem⟩ := List.exists_mem_of_ne_nil _ hplain.name.ne_nil
  have hraw : octet ∈ raw := by
    cases h <;> simp [hmem]
  exact trimAscii_ne_nil hraw (hplain.name.octets octet hmem).2.2.2.2

/-- Only the data set itself is named. -/
theorem filter_unique {dataSet : SclDataSet} {before behind : List SclDataSet}
    (h : ∀ other ∈ before ++ behind, isNamed dataSet.iedName (partsOf dataSet) other = false) :
    (before ++ dataSet :: behind).filter (isNamed dataSet.iedName (partsOf dataSet)) = [dataSet] := by
  have hself : isNamed dataSet.iedName (partsOf dataSet) dataSet = true := by
    unfold isNamed same partsOf
    simp
  have hbefore : before.filter (isNamed dataSet.iedName (partsOf dataSet)) = [] := by
    rw [List.filter_eq_nil_iff]
    intro other hother
    rw [h other (List.mem_append_left _ hother)]
    exact Bool.false_ne_true
  have hbehind : behind.filter (isNamed dataSet.iedName (partsOf dataSet)) = [] := by
    rw [List.filter_eq_nil_iff]
    intro other hother
    rw [h other (List.mem_append_right _ hother)]
    exact Bool.false_ne_true
  rw [List.filter_append, List.filter_cons_of_pos hself, hbefore, hbehind, List.nil_append]

/-- **References name their data set**: all spellings of the only data set of its names, and never
a data set of another IED or one of several. -/
theorem dataset_references (dataSets : List SclDataSet) (iedName ldInst logicalNodePath raw : Bytes) :
    (∀ dataSet before behind, dataSets = before ++ dataSet :: behind → iedName = dataSet.iedName →
      PlainNames dataSet →
      (∀ other ∈ before ++ behind, isNamed dataSet.iedName (partsOf dataSet) other = false) →
      Spells dataSet ldInst logicalNodePath raw →
      (resolve dataSets iedName ldInst logicalNodePath raw).dataSet = some dataSet) ∧
    (∀ dataSet, (resolve dataSets iedName ldInst logicalNodePath raw).dataSet = some dataSet →
      dataSet ∈ dataSets ∧ same dataSet.iedName iedName = true ∧
        dataSets.countP (isNamed iedName (parseReference raw iedName ldInst logicalNodePath)) = 1) := by
  constructor
  · rintro dataSet before behind rfl rfl hplain hunique hspells
    unfold resolve
    rw [if_neg (spelling_ne_blank hplain hspells), parse_spelling hplain hspells]
    dsimp only
    rw [filter_unique hunique]
  · intro dataSet h
    unfold resolve at h
    split at h
    · cases h
    dsimp only at h
    cases hfilter : dataSets.filter
        (isNamed iedName (parseReference raw iedName ldInst logicalNodePath)) with
    | nil =>
      rw [hfilter] at h
      cases h
    | cons first rest =>
      cases rest with
      | cons second rest =>
        rw [hfilter] at h
        cases h
      | nil =>
        rw [hfilter] at h
        cases h
        have hmem : dataSet ∈ dataSets.filter
            (isNamed iedName (parseReference raw iedName ldInst logicalNodePath)) := by
          rw [hfilter]
          exact List.mem_cons_self
        obtain ⟨hin, hnamed⟩ := List.mem_filter.mp hmem
        unfold isNamed at hnamed
        obtain ⟨hfront, -⟩ := Bool.and_eq_true_iff.mp hnamed
        obtain ⟨hfront, -⟩ := Bool.and_eq_true_iff.mp hfront
        obtain ⟨hied, -⟩ := Bool.and_eq_true_iff.mp hfront
        refine ⟨hin, hied, ?_⟩
        rw [List.countP_eq_length_filter, hfilter, List.length_singleton]

/-- The data set `n` of the node `L` on a device of the IED `A`. -/
def dataSetOn (ldInst : Bytes) : SclDataSet :=
  { iedName := [0x41], ldInst, logicalNodePath := [0x4C], name := [0x6E] }

theorem dataset_references_dot :
    (resolve [dataSetOn [0x42], dataSetOn [0x41, 0x42]] [0x41] [0x41, 0x42] []
      [0x4C, 0x2E, 0x6E]).dataSet = some (dataSetOn [0x41, 0x42]) :=
  (dataset_references _ _ _ _ _).1 (dataSetOn [0x41, 0x42]) [dataSetOn [0x42]] [] rfl rfl
    ⟨plain_singleton (by unfold PlainOctet; decide),
      (plain_singleton (by unfold PlainOctet; decide)).append
        (plain_singleton (by unfold PlainOctet; decide)),
      plain_singleton (by unfold PlainOctet; decide),
      plain_singleton (by unfold PlainOctet; decide)⟩
    (by decide) (.dot rfl)

/-- `AB/L$n` is `L$n` on the device `B` of the IED `A`, and not on its device `AB`. -/
theorem relative_ambiguous :
    (resolve [dataSetOn [0x42], dataSetOn [0x41, 0x42]] [0x41] [] []
      [0x41, 0x42, 0x2F, 0x4C, 0x24, 0x6E]).dataSet = some (dataSetOn [0x42]) ∧
    (resolve [dataSetOn [0x41, 0x42]] [0x41] [] []
      [0x41, 0x42, 0x2F, 0x4C, 0x24, 0x6E]).dataSet = none := by
  decide

end ArStack.Scl.SclDataSetReferenceResolver
