import ArStack.Mms.StaticDispatcherHierarchy
import Mathlib.Data.List.Lex
import Mathlib.Data.List.Nodup
import Mathlib.Order.Defs.Unbundled

/-!
# The order of the children of a structure

* `Collected` — the children are below the structure, each once
* `declarationOrderLess_iff` — the declaration order, then the name
* `Misplaced` — a child that is declared before MX or ST, next to CO
* `hierarchy_order_iff`
-/

namespace ArStack.Mms.MmsStaticApplicationDispatcher

open ArStack.Lib

/-! ## Names -/

theorem textLess_iff {left right : Bytes} :
    textLess left right = true ↔ left.map UInt8.toNat < right.map UInt8.toNat :=
  decide_eq_true_iff

theorem textLess_irrefl (text : Bytes) : textLess text text = false :=
  decide_eq_false (lt_irrefl _)

theorem textLess_trans {a b c : Bytes} (h : textLess a b = true) (h' : textLess b c = true) :
    textLess a c = true :=
  textLess_iff.mpr (lt_trans (textLess_iff.mp h) (textLess_iff.mp h'))

theorem eq_of_not_textLess {a b : Bytes} (h : ¬textLess a b = true) (h' : ¬textLess b a = true) :
    a = b := by
  rw [textLess_iff] at h h'
  have hmap : a.map UInt8.toNat = b.map UInt8.toNat :=
    le_antisymm (not_lt.mp h') (not_lt.mp h)
  exact List.map_injective_iff.mpr (fun _ _ => UInt8.toNat_inj.mp) hmap

/-- A name below a structure: the structure, a separator and the rest. -/
theorem eq_of_descendant {item path : Bytes} (h : isDescendantItem item path = true) :
    item = path ++ separator :: childName path item := by
  rw [isDescendantItem, Bool.and_eq_true, Bool.and_eq_true, decide_eq_true_eq, beq_iff_eq,
    List.isPrefixOf_iff_prefix] at h
  obtain ⟨⟨hlength, rest, hrest⟩, hseparator⟩ := h
  subst hrest
  rw [List.getElem?_append_right (Nat.le_refl _), Nat.sub_self] at hseparator
  obtain _ | ⟨first, rest⟩ := rest
  · cases hseparator
  · cases hseparator
    rw [childName, List.drop_append, List.drop_eq_nil_of_le (Nat.le_succ _), List.nil_append,
      Nat.add_sub_cancel_left, List.drop_one, List.tail_cons]

/-- The child that a name belongs to is below the structure. -/
theorem descendant_immediateChild {item path : Bytes} (h : isDescendantItem item path = true) :
    isDescendantItem (immediateChildPath item path) path = true := by
  have hitem := eq_of_descendant h
  rw [immediateChildPath, h, Bool.not_true, if_neg Bool.false_ne_true]
  have htake : item.take (path.length + 1) = path ++ [separator] := by
    rw [hitem, List.take_append, List.take_of_length_le (Nat.le_succ _), Nat.add_sub_cancel_left]
    rfl
  rw [htake, isDescendantItem]
  simp

/-- Children of one structure are told apart by their names. -/
theorem path_eq_of_name {path a b : Bytes} (ha : isDescendantItem a path = true)
    (hb : isDescendantItem b path = true) (h : childName path a = childName path b) : a = b := by
  rw [eq_of_descendant ha, eq_of_descendant hb, h]

/-! ## Children -/

/-- The children are below the structure, each once. -/
structure Collected (path : Bytes) (children : List SyntheticChild) : Prop where
  descendants : ∀ child ∈ children, isDescendantItem child.path path = true
  nodup : (children.map SyntheticChild.path).Nodup

theorem updateChild_some {child : Bytes} (update : SyntheticChild → SyntheticChild)
    (hupdate : ∀ existing, (update existing).path = existing.path)
    {values values' : List SyntheticChild} (h : updateChild child update values = some values') :
    values'.map SyntheticChild.path = values.map SyntheticChild.path := by
  induction values generalizing values' with
  | nil => cases h
  | cons existing others ih =>
    rw [updateChild] at h
    split at h
    · cases h
      rw [List.map_cons, List.map_cons, hupdate]
    · obtain ⟨others', hothers, rfl⟩ := Option.map_eq_some_iff.mp h
      rw [List.map_cons, List.map_cons, ih hothers]

theorem updateChild_none {child : Bytes} {update : SyntheticChild → SyntheticChild}
    {values : List SyntheticChild} (h : updateChild child update values = none) :
    child ∉ values.map SyntheticChild.path := by
  induction values with
  | nil => exact List.not_mem_nil
  | cons existing others ih =>
    rw [updateChild] at h
    split at h
    · cases h
    · rename_i hne
      rw [List.map_cons, List.mem_cons, not_or]
      exact ⟨fun heq => hne heq.symm, ih (Option.map_eq_none_iff.mp h)⟩

/-- That the children are below the structure can be seen from their names. -/
theorem collected_of_paths {path : Bytes} {children : List SyntheticChild}
    (hdescendants : ∀ name ∈ children.map SyntheticChild.path, isDescendantItem name path = true)
    (hnodup : (children.map SyntheticChild.path).Nodup) : Collected path children :=
  ⟨fun _ hmem => hdescendants _ (List.mem_map_of_mem hmem), hnodup⟩

theorem Collected.paths {path : Bytes} {children : List SyntheticChild}
    (h : Collected path children) :
    ∀ name ∈ children.map SyntheticChild.path, isDescendantItem name path = true := by
  intro name hmem
  obtain ⟨child, hchild, rfl⟩ := List.mem_map.mp hmem
  exact h.descendants child hchild

theorem collectCandidate_collected (domain : Bytes) {path : Bytes} {result : SyntheticChildren}
    (h : Collected path result.values) (candidate : MmsStaticObjectEntry) :
    Collected path (collectCandidate domain path result candidate).values := by
  rw [collectCandidate]
  split
  · exact h
  rename_i hcandidate
  have hdescendant : isDescendantItem candidate.item path = true := by
    simpa using (not_or.mp (not_or.mp hcandidate).2).2
  have hbelow := descendant_immediateChild hdescendant
  dsimp only
  split
  · exact h
  split
  · rename_i values hupdate
    have hpaths : values.map SyntheticChild.path = result.values.map SyntheticChild.path :=
      updateChild_some (SyntheticChild.meet _ candidate) (fun _ => rfl) hupdate
    exact collected_of_paths (by rw [hpaths]; exact h.paths) (by rw [hpaths]; exact h.nodup)
  · rename_i hnone
    split
    · exact h
    · have hnew := updateChild_none hnone
      refine collected_of_paths ?_ ?_
      · intro name hmem
        rw [List.map_append, List.mem_append, List.map_singleton, List.mem_singleton] at hmem
        rcases hmem with hmem | rfl
        · exact h.paths name hmem
        · exact hbelow
      · rw [List.map_append, List.map_singleton]
        exact List.nodup_append_comm.mp (List.nodup_cons.mpr ⟨hnew, h.nodup⟩)

/-- **The children are collected once each.** -/
theorem collected (objects : MmsStaticObjectTable) (domain path : Bytes) :
    Collected path (collectSyntheticChildren objects domain path).values := by
  have hloop (entries : List MmsStaticObjectEntry) {result : SyntheticChildren}
      (h : Collected path result.values) :
      Collected path (entries.foldl (collectCandidate domain path) result).values := by
    induction entries generalizing result with
    | nil => exact h
    | cons candidate entries ih => exact ih (collectCandidate_collected domain h candidate)
  exact hloop objects.objects ⟨fun _ hmem => absurd hmem List.not_mem_nil, .nil⟩

/-! ## Declaration order -/

/-- **The declaration order, then the name.** -/
theorem declarationOrderLess_iff {leftOrder rightOrder : UInt64} {left right : Bytes} :
    declarationOrderLess leftOrder left rightOrder right = true ↔
      leftOrder < rightOrder ∨ leftOrder = rightOrder ∧ textLess left right = true := by
  have hmax (order : UInt64) : order ≤ unspecified :=
    UInt64.le_iff_toNat_le.mpr (Nat.le_of_lt_succ order.toNat_lt)
  rw [declarationOrderLess]
  by_cases hboth : leftOrder ≠ unspecified ∨ rightOrder ≠ unspecified
  · rw [if_pos hboth]
    by_cases hleft : leftOrder = unspecified
    · subst hleft
      rw [if_pos rfl]
      have hnot : ¬unspecified < rightOrder := UInt64.not_lt.mpr (hmax rightOrder)
      have hne : unspecified ≠ rightOrder := fun heq =>
        hboth.elim (fun h => h rfl) fun h => h heq.symm
      exact iff_of_false Bool.false_ne_true (not_or.mpr ⟨hnot, fun h => hne h.1⟩)
    · rw [if_neg hleft]
      by_cases hright : rightOrder = unspecified
      · subst hright
        rw [if_pos rfl]
        have hlt : leftOrder < unspecified :=
          UInt64.lt_of_le_of_ne (hmax leftOrder) hleft
        exact iff_of_true rfl (.inl hlt)
      · rw [if_neg hright]
        by_cases hsame : leftOrder = rightOrder
        · subst hsame
          rw [if_neg (not_not.mpr rfl)]
          have hirrefl : ¬leftOrder < leftOrder := UInt64.lt_irrefl _
          exact ⟨fun h => .inr ⟨rfl, h⟩, fun h => (h.resolve_left hirrefl).2⟩
        · rw [if_pos hsame, decide_eq_true_eq]
          exact ⟨.inl, fun h => h.resolve_right fun h' => hsame h'.1⟩
  · rw [if_neg hboth]
    rw [not_or, not_not, not_not] at hboth
    obtain ⟨rfl, rfl⟩ := hboth
    have hirrefl : ¬unspecified < unspecified := UInt64.lt_irrefl _
    exact ⟨fun h => .inr ⟨rfl, h⟩, fun h => (h.resolve_left hirrefl).2⟩

/-- What the declaration order says of two children. -/
def declaredBefore (left right : SyntheticChild) : Bool :=
  declarationOrderLess left.declarationOrder left.path right.declarationOrder right.path

theorem declaredBefore_irrefl (child : SyntheticChild) : ¬declaredBefore child child = true := by
  rw [declaredBefore, declarationOrderLess_iff, textLess_irrefl]
  rintro (hlt | ⟨-, htext⟩)
  · exact UInt64.lt_irrefl _ hlt
  · cases htext

theorem declaredBefore_trans {a b c : SyntheticChild} (h : declaredBefore a b = true)
    (h' : declaredBefore b c = true) : declaredBefore a c = true := by
  rw [declaredBefore, declarationOrderLess_iff] at h h' ⊢
  rcases h with hlt | ⟨heq, htext⟩
  · rcases h' with hlt' | ⟨heq', -⟩
    · exact .inl (UInt64.lt_trans hlt hlt')
    · exact .inl (heq' ▸ hlt)
  · rcases h' with hlt' | ⟨heq', htext'⟩
    · exact .inl (heq ▸ hlt')
    · exact .inr ⟨heq.trans heq', textLess_trans htext htext'⟩

theorem path_eq_of_not_declaredBefore {a b : SyntheticChild} (h : ¬declaredBefore a b = true)
    (h' : ¬declaredBefore b a = true) : a.path = b.path := by
  rw [declaredBefore, declarationOrderLess_iff, not_or] at h h'
  have hsame : a.declarationOrder = b.declarationOrder :=
    UInt64.le_antisymm (UInt64.not_lt.mp h'.1) (UInt64.not_lt.mp h.1)
  exact eq_of_not_textLess (fun htext => h.2 ⟨hsame, htext⟩)
    fun htext => h'.2 ⟨hsame.symm, htext⟩

/-! ## The comparison -/

/-- A structure whose name has one part. -/
def LogicalNodeRoot (path : Bytes) : Prop := path ≠ [] ∧ separator ∉ path

def isControl (path : Bytes) (child : SyntheticChild) : Prop :=
  childName path child.path = ascii "CO"

/-- The functional constraints that CO is placed behind. -/
def isStatus (path : Bytes) (child : SyntheticChild) : Prop :=
  childName path child.path = ascii "MX" ∨ childName path child.path = ascii "ST"

/-- Next to CO, a child that is placed behind it is declared before one that it is placed
behind. -/
def Misplaced (path : Bytes) (children : List SyntheticChild) : Prop :=
  LogicalNodeRoot path ∧ ∃ control ∈ children, ∃ early ∈ children, ∃ late ∈ children,
    isControl path control ∧ ¬isControl path early ∧ ¬isStatus path early ∧ isStatus path late ∧
      declaredBefore early late = true

theorem not_control_of_status {path : Bytes} {child : SyntheticChild} (h : isStatus path child) :
    ¬isControl path child := by
  have hMx : ascii "MX" ≠ ascii "CO" := by decide
  have hSt : ascii "ST" ≠ ascii "CO" := by decide
  intro hcontrol
  rw [isControl] at hcontrol
  rcases h with h | h
  · exact hMx (h.symm.trans hcontrol)
  · exact hSt (h.symm.trans hcontrol)

/-- A text of the name has its characters. -/
theorem mem_of_containsText {text part : Bytes} (h : containsText text part = true) {octet : UInt8}
    (hmem : octet ∈ part) : octet ∈ text := by
  obtain ⟨start, -, hstart⟩ := List.any_eq_true.mp h
  exact List.mem_of_mem_drop ((List.isPrefixOf_iff_prefix.mp hstart).subset hmem)

theorem semanticChildOrder_of_root {path : Bytes} (h : separator ∉ path) :
    semanticChildOrder path = [] := by
  have hnot (part : Bytes) (hmem : separator ∈ part) : containsText path part = false :=
    Bool.eq_false_iff.mpr fun hcontains => h (mem_of_containsText hcontains hmem)
  rw [semanticChildOrder, hnot _ (by decide), hnot _ (by decide), hnot _ (by decide)]
  rfl

/-- The comparison of two children of a logical node. -/
theorem less_root {path : Bytes} (h : LogicalNodeRoot path) (left right : SyntheticChild) :
    (isControl path left → isControl path right →
        syntheticChildrenLess path left right = declaredBefore left right) ∧
      (isControl path left → ¬isControl path right →
        (syntheticChildrenLess path left right = true ↔ ¬isStatus path right)) ∧
      (¬isControl path left → isControl path right →
        (syntheticChildrenLess path left right = true ↔ isStatus path left)) ∧
      (¬isControl path left → ¬isControl path right →
        syntheticChildrenLess path left right = declaredBefore left right) := by
  have hdeclared : useDeclarationOrder path = true := by
    rw [useDeclarationOrder, Bool.not_eq_true', Bool.eq_false_iff, ne_eq, List.isEmpty_iff]
    exact h.1
  simp only [isControl, isStatus]
  rw [syntheticChildrenLess, semanticChildOrder_of_root h.2, hdeclared]
  rw [if_neg (not_not.mpr rfl), if_pos rfl, if_pos h.2]
  refine ⟨fun hl hr => ?_, fun hl hr => ?_, fun hl hr => ?_, fun hl hr => ?_⟩
  · rw [if_neg fun hand => hand.2 hr, if_neg fun hand => hand.2 hl]
    rfl
  · rw [if_pos ⟨hl, hr⟩, Bool.and_eq_true, bne_iff_ne, bne_iff_ne, not_or]
  · rw [if_neg fun hand => hl hand.1, if_pos ⟨hr, hl⟩, Bool.or_eq_true, beq_iff_eq, beq_iff_eq]
  · rw [if_neg fun hand => hl hand.1, if_neg fun hand => hr hand.1]
    rfl

/-- The comparison of two children of another structure. -/
theorem less_declared {path : Bytes} (hnot : ¬LogicalNodeRoot path) (hne : path ≠ [])
    (hsemantic : semanticChildOrder path = []) (left right : SyntheticChild) :
    syntheticChildrenLess path left right = declaredBefore left right := by
  have hdeclared : useDeclarationOrder path = true := by
    rw [useDeclarationOrder, Bool.not_eq_true', Bool.eq_false_iff, ne_eq, List.isEmpty_iff]
    exact hne
  have hseparator : ¬separator ∉ path := fun habsent => hnot ⟨hne, habsent⟩
  rw [syntheticChildrenLess, hsemantic, hdeclared]
  rw [if_neg (not_not.mpr rfl), if_pos rfl, if_neg hseparator]
  rfl

theorem syntheticChildLess_iff {path left right : Bytes} :
    syntheticChildLess path left right = true ↔
      (∃ i j, syntheticChildRank path left = some i ∧ syntheticChildRank path right = some j ∧
        i < j) ∨
      (∃ i, syntheticChildRank path left = some i ∧ syntheticChildRank path right = none) ∨
      (syntheticChildRank path left = none ∧ syntheticChildRank path right = none ∧
        textLess left right = true) := by
  rw [syntheticChildLess]
  cases syntheticChildRank path left with
  | none => cases syntheticChildRank path right <;> simp
  | some i => cases syntheticChildRank path right <;> simp

/-! ## Strict orders -/

section Orders

variable {path : Bytes} {children : List SyntheticChild}

/-- The comparison of the children that are there. -/
def LessOn (path : Bytes) (children : List SyntheticChild)
    (left right : {child // child ∈ children}) : Prop :=
  syntheticChildrenLess path left.1 right.1 = true

theorem eq_of_path (h : Collected path children) {left right : {child // child ∈ children}}
    (hpath : left.1.path = right.1.path) : left = right :=
  Subtype.ext (List.inj_on_of_nodup_map h.nodup left.2 right.2 hpath)

/-- A strict total order is a strict weak order. -/
theorem strictWeakOrder_of {r : {child // child ∈ children} → {child // child ∈ children} → Prop}
    (hirrefl : ∀ a, ¬r a a) (htrans : ∀ a b c, r a b → r b c → r a c)
    (htotal : ∀ a b, ¬r a b → ¬r b a → a = b) : IsStrictWeakOrder {child // child ∈ children} r where
  irrefl := hirrefl
  trans := htrans
  incomp_trans a b c hab hbc := by
    obtain rfl := htotal a b hab.1 hab.2
    exact hbc

/-- **The fixed attribute orders.** -/
theorem semantic_strictWeak (h : Collected path children) (hsemantic : semanticChildOrder path ≠ []) :
    IsStrictWeakOrder {child // child ∈ children} (LessOn path children) := by
  have hless (left right : {child // child ∈ children}) : LessOn path children left right ↔
      syntheticChildLess path left.1.path right.1.path = true := by
    rw [LessOn, syntheticChildrenLess, if_pos hsemantic]
  have hname {left right : {child // child ∈ children}} {rank : Nat}
      (hl : syntheticChildRank path left.1.path = some rank)
      (hr : syntheticChildRank path right.1.path = some rank) : left = right := by
    have hbelow := h.descendants left.1 left.2
    have hbelow' := h.descendants right.1 right.2
    rw [syntheticChildRank, hbelow, Bool.not_true, if_neg Bool.false_ne_true] at hl
    rw [syntheticChildRank, hbelow', Bool.not_true, if_neg Bool.false_ne_true] at hr
    obtain ⟨hlt, heq, -⟩ := List.findIdx?_eq_some_iff_getElem.mp hl
    obtain ⟨_, heq', -⟩ := List.findIdx?_eq_some_iff_getElem.mp hr
    exact eq_of_path h (path_eq_of_name hbelow hbelow'
      ((beq_iff_eq.mp heq).trans (beq_iff_eq.mp heq').symm))
  refine strictWeakOrder_of (fun a => ?_) (fun a b c hab hbc => ?_) (fun a b hab hba => ?_)
  · rw [hless, syntheticChildLess_iff]
    rintro (⟨i, j, hi, hj, hlt⟩ | ⟨i, hi, hnone⟩ | ⟨-, -, htext⟩)
    · rw [hi] at hj
      exact absurd (Option.some.inj hj) (Nat.ne_of_lt hlt)
    · rw [hi] at hnone
      cases hnone
    · rw [textLess_irrefl] at htext
      cases htext
  · rw [hless, syntheticChildLess_iff] at hab hbc ⊢
    rcases hab with ⟨i, j, hi, hj, hlt⟩ | ⟨i, hi, hnone⟩ | ⟨hnone, hnone', htext⟩
    · rcases hbc with ⟨j', k, hj', hk, hlt'⟩ | ⟨j', -, hnone⟩ | ⟨hnone, -, -⟩
      · obtain rfl := Option.some.inj (hj.symm.trans hj')
        exact .inl ⟨i, k, hi, hk, Nat.lt_trans hlt hlt'⟩
      · exact .inr (.inl ⟨i, hi, hnone⟩)
      · exact absurd (hj.symm.trans hnone) (Option.some_ne_none j)
    · rcases hbc with ⟨j', k, hj', -, -⟩ | ⟨j', hj', -⟩ | ⟨-, hnone', -⟩
      · exact absurd (hj'.symm.trans hnone) (Option.some_ne_none j')
      · exact absurd (hj'.symm.trans hnone) (Option.some_ne_none j')
      · exact .inr (.inl ⟨i, hi, hnone'⟩)
    · rcases hbc with ⟨j', k, hj', -, -⟩ | ⟨j', hj', -⟩ | ⟨-, hnone'', htext'⟩
      · exact absurd (hj'.symm.trans hnone') (Option.some_ne_none j')
      · exact absurd (hj'.symm.trans hnone') (Option.some_ne_none j')
      · exact .inr (.inr ⟨hnone, hnone'', textLess_trans htext htext'⟩)
  · rw [hless, syntheticChildLess_iff, not_or, not_or] at hab hba
    cases ha : syntheticChildRank path a.1.path with
    | none =>
      cases hb : syntheticChildRank path b.1.path with
      | none =>
        exact eq_of_path h (eq_of_not_textLess (fun htext => hab.2.2 ⟨ha, hb, htext⟩)
          fun htext => hba.2.2 ⟨hb, ha, htext⟩)
      | some j => exact absurd ⟨j, hb, ha⟩ hba.2.1
    | some i =>
      cases hb : syntheticChildRank path b.1.path with
      | none => exact absurd ⟨i, ha, hb⟩ hab.2.1
      | some j =>
        rcases Nat.lt_trichotomy i j with hlt | rfl | hgt
        · exact absurd ⟨i, j, ha, hb, hlt⟩ hab.1
        · exact hname ha hb
        · exact absurd ⟨j, i, hb, ha, hgt⟩ hba.1

theorem declared_strictWeak (h : Collected path children)
    (hless : ∀ left right, syntheticChildrenLess path left right = declaredBefore left right) :
    IsStrictWeakOrder {child // child ∈ children} (LessOn path children) := by
  have hrel : LessOn path children = fun left right => declaredBefore left.1 right.1 = true :=
    funext₂ fun left right => by rw [LessOn, hless]
  rw [hrel]
  exact strictWeakOrder_of (fun a => declaredBefore_irrefl a.1)
    (fun a b c => declaredBefore_trans) fun a b hab hba =>
      eq_of_path h (path_eq_of_not_declaredBefore hab hba)

theorem text_strictWeak (h : Collected path children)
    (hless : ∀ left right, syntheticChildrenLess path left right = textLess left.path right.path) :
    IsStrictWeakOrder {child // child ∈ children} (LessOn path children) := by
  have hrel : LessOn path children = fun left right => textLess left.1.path right.1.path = true :=
    funext₂ fun left right => by rw [LessOn, hless]
  rw [hrel]
  exact strictWeakOrder_of (fun a => Bool.eq_false_iff.mp (textLess_irrefl a.1.path))
    (fun a b c => textLess_trans) fun a b hab hba => eq_of_path h (eq_of_not_textLess hab hba)

/-- **CO among the others.** Where nothing is misplaced the declaration order and the place of CO
agree. -/
theorem root_strictWeak (h : Collected path children) (hroot : LogicalNodeRoot path)
    (hplaced : ¬Misplaced path children) :
    IsStrictWeakOrder {child // child ∈ children} (LessOn path children) := by
  have hcontrol {a b : {child // child ∈ children}} (ha : isControl path a.1)
      (hb : isControl path b.1) : a = b :=
    eq_of_path h (path_eq_of_name (h.descendants a.1 a.2) (h.descendants b.1 b.2)
      (Eq.trans ha hb.symm))
  have hearly {control early late : {child // child ∈ children}} (hc : isControl path control.1)
      (he : ¬isControl path early.1) (hs : ¬isStatus path early.1) (hl : isStatus path late.1) :
      ¬declaredBefore early.1 late.1 = true := fun hbefore =>
    hplaced ⟨hroot, control.1, control.2, early.1, early.2, late.1, late.2, hc, he, hs, hl, hbefore⟩
  refine strictWeakOrder_of (fun a => ?_) (fun a b c hab hbc => ?_) (fun a b hab hba => ?_)
  · obtain ⟨hboth, -, -, hneither⟩ := less_root hroot a.1 a.1
    by_cases ha : isControl path a.1
    · rw [LessOn, hboth ha ha]
      exact declaredBefore_irrefl a.1
    · rw [LessOn, hneither ha ha]
      exact declaredBefore_irrefl a.1
  · obtain ⟨-, hfirst, hsecond, hneither⟩ := less_root hroot a.1 b.1
    obtain ⟨-, hfirst', hsecond', hneither'⟩ := less_root hroot b.1 c.1
    obtain ⟨-, hfirst'', hsecond'', hneither''⟩ := less_root hroot a.1 c.1
    rw [LessOn] at hab hbc ⊢
    by_cases ha : isControl path a.1
    · by_cases hb : isControl path b.1
      · obtain rfl := hcontrol ha hb
        exact hbc
      have hb' := (hfirst ha hb).mp hab
      by_cases hc : isControl path c.1
      · exact absurd ((hsecond' hb hc).mp hbc) hb'
      · rw [hneither' hb hc] at hbc
        exact (hfirst'' ha hc).mpr fun hstatus => hearly ha hb hb' hstatus hbc
    · by_cases hb : isControl path b.1
      · have ha' := (hsecond ha hb).mp hab
        by_cases hc : isControl path c.1
        · obtain rfl := hcontrol hb hc
          exact hab
        have hc' := (hfirst' hb hc).mp hbc
        rw [hneither'' ha hc]
        by_contra hnot
        obtain rfl := eq_of_path h (path_eq_of_not_declaredBefore hnot (hearly hb hc hc' ha'))
        exact hc' ha'
      rw [hneither ha hb] at hab
      by_cases hc : isControl path c.1
      · have hb' := (hsecond' hb hc).mp hbc
        exact (hsecond'' ha hc).mpr (by_contra fun ha' => hearly hc ha ha' hb' hab)
      · rw [hneither' hb hc] at hbc
        rw [hneither'' ha hc]
        exact declaredBefore_trans hab hbc
  · obtain ⟨-, hfirst, hsecond, hneither⟩ := less_root hroot a.1 b.1
    obtain ⟨-, hfirst', hsecond', hneither'⟩ := less_root hroot b.1 a.1
    rw [LessOn] at hab hba
    by_cases ha : isControl path a.1
    · by_cases hb : isControl path b.1
      · exact hcontrol ha hb
      · exact absurd (fun hstatus => hba ((hsecond' hb ha).mpr hstatus))
          fun hstatus => hab ((hfirst ha hb).mpr hstatus)
    · by_cases hb : isControl path b.1
      · exact absurd (fun hstatus => hab ((hsecond ha hb).mpr hstatus))
          fun hstatus => hba ((hfirst' hb ha).mpr hstatus)
      · rw [hneither ha hb] at hab
        rw [hneither' hb ha] at hba
        exact eq_of_path h (path_eq_of_not_declaredBefore hab hba)

/-- A child that is misplaced closes a cycle. -/
theorem not_strictWeak_of_misplaced (hmisplaced : Misplaced path children) :
    ¬IsStrictWeakOrder {child // child ∈ children} (LessOn path children) := by
  obtain ⟨hroot, control, hcontrol, early, hearly, late, hlate, hc, he, he', hl, hbefore⟩ :=
    hmisplaced
  intro horder
  have hlate' := not_control_of_status hl
  have hcontrolEarly : LessOn path children ⟨control, hcontrol⟩ ⟨early, hearly⟩ :=
    ((less_root hroot control early).2.1 hc he).mpr he'
  have hlateControl : LessOn path children ⟨late, hlate⟩ ⟨control, hcontrol⟩ :=
    ((less_root hroot late control).2.2.1 hlate' hc).mpr hl
  have hearlyLate : LessOn path children ⟨early, hearly⟩ ⟨late, hlate⟩ :=
    ((less_root hroot early late).2.2.2 he hlate').trans hbefore
  have hcycle := horder.trans _ _ _ (horder.trans _ _ _ hcontrolEarly hearlyLate) hlateControl
  exact horder.irrefl _ hcycle

end Orders

/-- **When the comparison of the children is a strict weak order.** -/
theorem hierarchy_order_iff (objects : MmsStaticObjectTable) (domain path : Bytes) :
    let children := (collectSyntheticChildren objects domain path).values
    (IsStrictWeakOrder {child // child ∈ children}
        (fun left right => syntheticChildrenLess path left.1 right.1 = true) ↔
      ¬Misplaced path children) ∧
    (children.map SyntheticChild.path).Nodup ∧
    ∀ child ∈ children, isDescendantItem child.path path = true := by
  intro children
  have h := collected objects domain path
  refine ⟨⟨fun horder hmisplaced => not_strictWeak_of_misplaced hmisplaced horder,
    fun hplaced => ?_⟩, h.nodup, h.descendants⟩
  by_cases hsemantic : semanticChildOrder path = []
  · by_cases hroot : LogicalNodeRoot path
    · exact root_strictWeak h hroot hplaced
    · by_cases hempty : path = []
      · refine text_strictWeak h fun left right => ?_
        subst hempty
        rfl
      · exact declared_strictWeak h (less_declared hroot hempty hsemantic)
  · exact semantic_strictWeak h hsemantic

/-- CF is declared before ST, next to CO. -/
def cyclicObjects : MmsStaticObjectTable where
  objects :=
    [{ domain := ascii "D", item := ascii "L$CF$M", typeSpecification := [0x83, 0x00],
       declarationOrder := 0 },
     { domain := ascii "D", item := ascii "L$ST$M", typeSpecification := [0x83, 0x00],
       declarationOrder := 1 },
     { domain := ascii "D", item := ascii "L$CO$M", typeSpecification := [0x83, 0x00],
       declarationOrder := 2 }]

/-- CF comes before ST, ST before CO and CO before CF. -/
theorem hierarchy_order_cycle :
    cyclicObjects.valid = true ∧
      ((collectSyntheticChildren cyclicObjects (ascii "D") (ascii "L")).values.map
          SyntheticChild.path = [ascii "L$CF", ascii "L$ST", ascii "L$CO"]) ∧
      ¬IsStrictWeakOrder
        {child // child ∈ (collectSyntheticChildren cyclicObjects (ascii "D") (ascii "L")).values}
        (fun left right => syntheticChildrenLess (ascii "L") left.1 right.1 = true) := by
  refine ⟨by decide, by decide, not_strictWeak_of_misplaced ?_⟩
  refine ⟨by unfold LogicalNodeRoot; decide, { path := ascii "L$CO", declarationOrder := 2 },
    by decide, { path := ascii "L$CF", declarationOrder := 0 }, by decide,
    { path := ascii "L$ST", declarationOrder := 1 }, by decide, ?_, ?_, ?_, ?_, ?_⟩
  · unfold isControl; decide
  · unfold isControl; decide
  · unfold isStatus; decide
  · unfold isStatus; decide
  · decide

end ArStack.Mms.MmsStaticApplicationDispatcher
