import ArStack.Lib.Octets

/-!
# Storage that can lose power

A medium is a string of cells with the contents that the last sync made durable and the
contents as issued since. Losing power leaves, in each cell, either of the two.

* `splice` — overwrite a range; `getElem?_splice` says what every cell holds after it
* `Medium`, `Op`, `Medium.run` — erase, write and sync
* `run_agreesOutside` — the frame rule of a run of operations
* `PowerLoss` — what power loss may leave; `PowerLoss.frame` is its frame rule
-/

namespace ArStack.Lib

variable {α : Type*}

/-- `cells` with `source` written from `offset` on. -/
def splice (cells : List α) (offset : Nat) (source : List α) : List α :=
  cells.take offset ++ source ++ cells.drop (offset + source.length)

theorem length_splice {cells : List α} {offset : Nat} {source : List α}
    (h : offset + source.length ≤ cells.length) :
    (splice cells offset source).length = cells.length := by
  rw [splice, List.length_append, List.length_append, List.length_take, List.length_drop]
  omega

theorem getElem?_splice {cells : List α} {offset : Nat} {source : List α}
    (h : offset + source.length ≤ cells.length) (i : Nat) :
    (splice cells offset source)[i]? =
      if offset ≤ i ∧ i < offset + source.length then source[i - offset]? else cells[i]? := by
  have htake : (cells.take offset).length = offset := by
    rw [List.length_take]
    omega
  rw [splice, List.append_assoc]
  by_cases hlt : i < offset
  · rw [List.getElem?_append_left (by omega), List.getElem?_take_of_lt hlt, if_neg (by omega)]
  · rw [List.getElem?_append_right (by omega), htake]
    by_cases hin : i < offset + source.length
    · rw [List.getElem?_append_left (by omega), if_pos (by omega)]
    · rw [List.getElem?_append_right (by omega), List.getElem?_drop, if_neg (by omega)]
      congr 1
      omega

theorem getElem?_slice {cells : List α} {offset len : Nat} (i : Nat) :
    (slice cells offset len)[i]? = if i < len then cells[offset + i]? else none := by
  rw [slice, List.getElem?_take, List.getElem?_drop]

/-- A slice sees its own cells only. -/
theorem slice_congr {cells cells' : List α} {offset len : Nat}
    (h : ∀ i, offset ≤ i → i < offset + len → cells[i]? = cells'[i]?) :
    slice cells offset len = slice cells' offset len := by
  refine List.ext_getElem? fun i => ?_
  rw [getElem?_slice, getElem?_slice]
  split
  · exact h _ (by omega) (by omega)
  · rfl

/-- A slice within what was written sees that. -/
theorem slice_splice_within {cells : List α} {offset : Nat} {source : List α}
    (h : offset + source.length ≤ cells.length) {skip len : Nat} (hs : skip + len ≤ source.length) :
    slice (splice cells offset source) (offset + skip) len = slice source skip len := by
  refine List.ext_getElem? fun i => ?_
  rw [getElem?_slice, getElem?_slice, getElem?_splice h]
  split
  · rw [if_pos (by omega)]
    congr 1
    omega
  · rfl

/-- What was written is read back. -/
theorem slice_splice {cells : List α} {offset : Nat} {source : List α}
    (h : offset + source.length ≤ cells.length) :
    slice (splice cells offset source) offset source.length = source := by
  have hw := @slice_splice_within _ cells offset source h 0 source.length (by omega)
  rwa [Nat.add_zero, slice_all] at hw

/-- A slice beside what was written does not see it. -/
theorem slice_splice_beside {cells : List α} {offset : Nat} {source : List α}
    (h : offset + source.length ≤ cells.length) {at' len : Nat}
    (hs : at' + len ≤ offset ∨ offset + source.length ≤ at') :
    slice (splice cells offset source) at' len = slice cells at' len :=
  slice_congr fun i hlo hhi => by rw [getElem?_splice h, if_neg (by omega)]

/-- An operation on the medium; erasing fills a range with `blank`. -/
inductive Op (α : Type*) where
  | erase (offset len : Nat)
  | write (offset : Nat) (source : List α)
  | sync
  deriving DecidableEq

structure Medium (α : Type*) where
  synced : List α
  current : List α
  deriving DecidableEq

namespace Medium

/-- A medium after a restart. -/
def rest (cells : List α) : Medium α := ⟨cells, cells⟩

def apply (blank : α) (m : Medium α) : Op α → Medium α
  | .erase offset len => { m with current := splice m.current offset (List.replicate len blank) }
  | .write offset source => { m with current := splice m.current offset source }
  | .sync => rest m.current

def run (blank : α) (m : Medium α) (ops : List (Op α)) : Medium α := ops.foldl (apply blank) m

theorem run_append (blank : α) (m : Medium α) (ops ops' : List (Op α)) :
    run blank m (ops ++ ops') = run blank (run blank m ops) ops' := List.foldl_append

end Medium

/-- The operation touches cells from `lo` up to `hi` only. -/
def Op.Within (lo hi : Nat) : Op α → Prop
  | .erase offset len => lo ≤ offset ∧ offset + len ≤ hi
  | .write offset source => lo ≤ offset ∧ offset + source.length ≤ hi
  | .sync => True

namespace Medium

/-- Outside of `lo` to `hi` the medium holds what `cells` holds, synced or not. -/
structure AgreesOutside (lo hi : Nat) (cells : List α) (m : Medium α) : Prop where
  length : m.current.length = cells.length
  synced : ∀ i, i < lo ∨ hi ≤ i → m.synced[i]? = cells[i]?
  current : ∀ i, i < lo ∨ hi ≤ i → m.current[i]? = cells[i]?

theorem AgreesOutside.rest (lo hi : Nat) (cells : List α) :
    AgreesOutside lo hi cells (rest cells) :=
  ⟨rfl, fun _ _ => rfl, fun _ _ => rfl⟩

theorem AgreesOutside.splice {lo hi : Nat} {cells : List α} {m : Medium α} {offset : Nat}
    {source : List α} (h : AgreesOutside lo hi cells m) (hlo : lo ≤ offset)
    (hhi : offset + source.length ≤ hi) (hcells : hi ≤ cells.length) :
    AgreesOutside lo hi cells { m with current := Lib.splice m.current offset source } := by
  have hfit : offset + source.length ≤ m.current.length := by
    rw [h.length]
    omega
  refine ⟨(length_splice hfit).trans h.length, h.synced, fun i hi' => ?_⟩
  rw [getElem?_splice hfit, if_neg (by omega)]
  exact h.current i hi'

/-- **Frame rule.** Operations within a range leave the other cells as they were. -/
theorem run_agreesOutside (blank : α) {lo hi : Nat} {cells : List α} (hcells : hi ≤ cells.length)
    {ops : List (Op α)} (hops : ∀ op ∈ ops, op.Within lo hi) {m : Medium α}
    (h : AgreesOutside lo hi cells m) : AgreesOutside lo hi cells (run blank m ops) := by
  induction ops generalizing m with
  | nil => exact h
  | cons op ops ih =>
    refine ih (fun op' hop' => hops op' (List.mem_cons_of_mem op hop')) ?_
    have hop := hops op List.mem_cons_self
    cases op with
    | erase offset len =>
      exact h.splice hop.1 (by rw [List.length_replicate]; exact hop.2) hcells
    | write offset source => exact h.splice hop.1 hop.2 hcells
    | sync => exact ⟨h.length, h.current, h.current⟩

end Medium

/-- What the cells may hold after power is lost: each cell what was durable or what was last
issued for it. -/
def PowerLoss (m : Medium α) (cells : List α) : Prop :=
  cells.length = m.current.length ∧
    ∀ i < cells.length, cells[i]? = m.synced[i]? ∨ cells[i]? = m.current[i]?

/-- Each cell is the one of `synced` or of `current` in its place. -/
def eachOf [DecidableEq α] : List α → List α → List α → Bool
  | [], _, _ => true
  | cell :: cells, synced, current =>
    (decide (synced.head? = some cell) || decide (current.head? = some cell)) &&
      eachOf cells synced.tail current.tail

theorem eachOf_iff [DecidableEq α] {cells synced current : List α} :
    eachOf cells synced current = true ↔
      ∀ i < cells.length, cells[i]? = synced[i]? ∨ cells[i]? = current[i]? := by
  induction cells generalizing synced current with
  | nil => exact ⟨fun _ i hi => absurd hi (Nat.not_lt_zero i), fun _ => rfl⟩
  | cons cell cells ih =>
    rw [eachOf, Bool.and_eq_true, ih, Bool.or_eq_true, decide_eq_true_eq, decide_eq_true_eq]
    constructor
    · rintro ⟨hfirst, hrest⟩ i hi
      cases i with
      | zero =>
        rw [List.getElem?_cons_zero, ← List.head?_eq_getElem?, ← List.head?_eq_getElem?]
        exact hfirst.imp Eq.symm Eq.symm
      | succ i =>
        rw [List.getElem?_cons_succ, ← List.getElem?_tail, ← List.getElem?_tail]
        exact hrest i (Nat.lt_of_succ_lt_succ hi)
    · intro h
      refine ⟨?_, fun i hi => ?_⟩
      · have hfirst := h 0 (Nat.succ_pos _)
        rw [List.getElem?_cons_zero, ← List.head?_eq_getElem?, ← List.head?_eq_getElem?] at hfirst
        exact hfirst.imp Eq.symm Eq.symm
      · have hnext := h (i + 1) (Nat.succ_lt_succ hi)
        rwa [List.getElem?_cons_succ, ← List.getElem?_tail, ← List.getElem?_tail] at hnext

instance [DecidableEq α] (m : Medium α) (cells : List α) : Decidable (PowerLoss m cells) :=
  decidable_of_iff
    (cells.length = m.current.length ∧ eachOf cells m.synced m.current = true)
    (and_congr_right fun _ => eachOf_iff)

/-- Where nothing was issued since the last sync the cells are unharmed. -/
theorem PowerLoss.eq_of_eq {m : Medium α} {cells : List α} (h : PowerLoss m cells) {i : Nat}
    (heq : m.synced[i]? = m.current[i]?) : cells[i]? = m.current[i]? := by
  by_cases hi : i < cells.length
  · rcases h.2 i hi with hs | hc
    · rw [hs, heq]
    · exact hc
  · rw [List.getElem?_eq_none (by omega), List.getElem?_eq_none (by rw [← h.1]; omega)]

/-- Losing power at rest changes nothing. -/
theorem PowerLoss.eq_rest {cells cells' : List α} (h : PowerLoss (Medium.rest cells) cells') :
    cells' = cells :=
  List.ext_getElem? fun _ => h.eq_of_eq rfl

/-- **Crash frame rule.** Power loss during operations within a range spares the other cells. -/
theorem PowerLoss.frame {blank : α} {lo hi : Nat} {cells after : List α} {ops : List (Op α)}
    {issued : Nat} (h : PowerLoss (Medium.run blank (.rest cells) (ops.take issued)) after)
    (hops : ∀ op ∈ ops, op.Within lo hi) (hcells : hi ≤ cells.length) :
    after.length = cells.length ∧ ∀ i, i < lo ∨ hi ≤ i → after[i]? = cells[i]? := by
  have htaken : ∀ op ∈ ops.take issued, op.Within lo hi :=
    fun op hop => hops op (List.mem_of_mem_take hop)
  have hagrees := Medium.run_agreesOutside blank hcells htaken (.rest lo hi cells)
  refine ⟨h.1.trans hagrees.length, fun i hi' => ?_⟩
  rw [h.eq_of_eq ((hagrees.synced i hi').trans (hagrees.current i hi').symm), hagrees.current i hi']

end ArStack.Lib
