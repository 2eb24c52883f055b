import ArStack.Lib.Run
import ArStack.Spec.BrcbCheckpoint
import ArStack.Spec.BrcbStateCodec

/-!
# Checkpoints and power loss

A device writes checkpoints and loses power at any point of them. What a restore loads then
is the image of the last checkpoint that returned ok or of one that was interrupted since.
The bank that a checkpoint overwrites is not the newest, its footer is erased before anything
is written, and the footer is written last.

* `checkpoint_ok` — what a checkpoint does that is not refused
* `crashInv_checkpoint` — the newest bank survives, or its successor takes its place
* `restore_recovers` — what a restore loads after any run
* `restore_mixture` — an interrupted erase that no check detects
-/

namespace ArStack.Mms

open ArStack.Lib ArStack.Integrity

namespace MmsStaticBrcbCheckpointStore

/-! ## Generations -/

theorem nextGeneration_ne_zero (g : UInt64) : nextGeneration g ≠ 0 := by
  rw [nextGeneration, uint64Max]
  split
  · decide
  · grind

/-- The successor of a generation is newer than it, over the wrap too. -/
theorem generationNewer_next (g : UInt64) : generationNewer (nextGeneration g) g = true := by
  rw [nextGeneration, uint64Max]
  split
  · rename_i hwrap
    rcases hwrap with rfl | rfl <;> decide
  · have hdiff : g + 1 - g = 1 := by grind
    have hne : g + 1 ≠ g := by grind
    rw [generationNewer, if_neg hne, hdiff]
    rfl

theorem generationNewer_of_next (g : UInt64) : generationNewer g (nextGeneration g) = false := by
  rw [nextGeneration, uint64Max]
  split
  · rename_i hwrap
    rcases hwrap with rfl | rfl <;> decide
  · have hdiff : g - (g + 1) = 0xFFFFFFFFFFFFFFFF := by grind
    have hne : g ≠ g + 1 := by grind
    rw [generationNewer, if_neg hne, hdiff]
    rfl

/-! ## The newest bank -/

/-- Bank `newest` holds `info`, and the other one is invalid or holds the predecessor. -/
structure Newest (store : MmsStaticBrcbCheckpointStore) (cells : Bytes) (newest : Nat)
    (info : BankInfo) : Prop where
  bank : newest < bankCount
  holds : inspectBank cells newest store.bankBytes = some info
  follows : ∀ other, inspectBank cells (1 - newest) store.bankBytes = some other →
    info.generation = nextGeneration other.generation

section Newest

variable {store : MmsStaticBrcbCheckpointStore} {cells : Bytes} {newest : Nat} {info : BankInfo}

/-- The bank that is overwritten is not the newest. -/
theorem Newest.target (h : store.Newest cells newest info) :
    selectTarget (inspectBank cells 0 store.bankBytes) (inspectBank cells 1 store.bankBytes) =
      (1 - newest, info.generation) := by
  obtain ⟨hbank, hholds, hfollows⟩ := h
  obtain rfl | rfl : newest = 0 ∨ newest = 1 := by
    simp only [bankCount] at hbank
    omega
  · cases hother : inspectBank cells 1 store.bankBytes with
    | none => rw [hholds]; rfl
    | some other =>
      have hold := generationNewer_of_next other.generation
      rw [← hfollows other hother] at hold
      simp [hholds, selectTarget, hold]
  · cases hother : inspectBank cells 0 store.bankBytes with
    | none => rw [hholds]; rfl
    | some other =>
      have hnew := generationNewer_next other.generation
      rw [← hfollows other hother] at hnew
      simp [hholds, selectTarget, hnew]

/-- The bank that is loaded is the newest. -/
theorem Newest.primary (h : store.Newest cells newest info) :
    ∃ fallback, selectPrimary (inspectBank cells 0 store.bankBytes)
      (inspectBank cells 1 store.bankBytes) = some ((newest, info), fallback) := by
  obtain ⟨hbank, hholds, hfollows⟩ := h
  obtain rfl | rfl : newest = 0 ∨ newest = 1 := by
    simp only [bankCount] at hbank
    omega
  · cases hother : inspectBank cells 1 store.bankBytes with
    | none => exact ⟨none, by rw [hholds]; rfl⟩
    | some other =>
      have hold := generationNewer_of_next other.generation
      rw [← hfollows other hother] at hold
      exact ⟨some (1, other), by simp [hholds, selectPrimary, hold]⟩
  · cases hother : inspectBank cells 0 store.bankBytes with
    | none => exact ⟨none, by rw [hholds]; rfl⟩
    | some other =>
      have hnew := generationNewer_next other.generation
      rw [← hfollows other hother] at hnew
      exact ⟨some (0, other), by simp [hholds, selectPrimary, hnew]⟩

end Newest

/-! ## Runs with power loss -/

/-- The storage, the image of the last checkpoint that returned ok, and the images of those
that were interrupted since. -/
structure CrashState where
  cells : Bytes
  lastOk : Option Bytes := none
  interrupted : List Bytes := []
  deriving DecidableEq

/-- A checkpoint runs to its end, or power is lost when `issued` of its operations have been
issued, and the storage holds `after`. -/
inductive CrashEvent where
  | checkpoint (runtime : MmsStaticBrcbRuntime) (bufferSize : Nat)
  | powerLost (runtime : MmsStaticBrcbRuntime) (bufferSize issued : Nat) (after : Bytes)

section Run

variable (store : MmsStaticBrcbCheckpointStore) (blank : UInt8)

/-- Storage that was never written. -/
def blankStorage : CrashState := { cells := List.replicate store.capacityBytes blank }

def crashStep (s : CrashState) : CrashEvent → CrashState
  | .checkpoint runtime bufferSize =>
    let (result, ops) := store.checkpoint s.cells runtime bufferSize
    if result.status = .ok then
      { cells := (Medium.run blank (.rest s.cells) ops).current
        lastOk := some (MmsStaticBrcbStateCodec.encode runtime bufferSize).bytes }
    else s
  | .powerLost runtime bufferSize _ after =>
    if (store.checkpoint s.cells runtime bufferSize).1.status = .ok then
      { s with
        cells := after
        interrupted := (MmsStaticBrcbStateCodec.encode runtime bufferSize).bytes :: s.interrupted }
    else s

/-- `after` is something that power loss can leave there. -/
def Possible (s : CrashState) : CrashEvent → Prop
  | .checkpoint _ _ => True
  | .powerLost runtime bufferSize issued after =>
    PowerLoss (Medium.run blank (.rest s.cells)
      ((store.checkpoint s.cells runtime bufferSize).2.take issued)) after

/-- When the erase of a bank is interrupted and the bank still passes every check, it holds the
record it held before. -/
def EraseDetected (s : CrashState) : CrashEvent → Prop
  | .checkpoint _ _ => True
  | .powerLost runtime bufferSize issued after =>
    let target := (store.checkpoint s.cells runtime bufferSize).1.bankIndex
    issued = 1 → ∀ info ∈ inspectBank after target store.bankBytes,
      inspectBank s.cells target store.bankBytes = some info ∧
        payloadOf after target store.bankBytes info.payloadBytes =
          payloadOf s.cells target store.bankBytes info.payloadBytes

instance (s : CrashState) (event : CrashEvent) : Decidable (store.Possible blank s event) :=
  match event with
  | .checkpoint _ _ => .isTrue trivial
  | .powerLost _ _ _ _ => inferInstanceAs (Decidable (PowerLoss _ _))

instance (s : CrashState) (event : CrashEvent) : Decidable (store.EraseDetected s event) :=
  match event with
  | .checkpoint _ _ => .isTrue trivial
  | .powerLost _ _ _ _ => inferInstanceAs (Decidable (_ = 1 → _))

/-- What a restore owes: an image it loads is that of the last checkpoint that returned ok or
of one interrupted since, and when there was one that returned ok it loads an image. -/
structure Recovers (s : CrashState)
    (restored : MmsStaticBrcbCheckpointResult × Option Bytes × MmsStaticBrcbRuntime) : Prop where
  loaded : ∀ image, restored.2.1 = some image → s.lastOk = some image ∨ image ∈ s.interrupted
  found : s.lastOk ≠ none → restored.1.status ≠ .noCheckpoint ∧ restored.2.1 ≠ none

end Run

/-! ## One checkpoint -/

section Checkpoint

variable {store : MmsStaticBrcbCheckpointStore} {cells : Bytes} {runtime : MmsStaticBrcbRuntime}
  {bufferSize : Nat}

/-- A refusal is not ok. -/
theorem prepare_error {result : MmsStaticBrcbCheckpointResult}
    (h : store.prepare cells runtime bufferSize = .error result) : result.status ≠ .ok := by
  rw [prepare] at h
  split at h
  · cases h
    exact nofun
  · dsimp only at h
    split at h
    · cases h
      dsimp only
      split <;> exact nofun
    · split at h
      · cases h
        exact nofun
      · cases h

theorem prepare_ok {target : Nat} {generation : UInt64} {payload : Bytes}
    (h : store.prepare cells runtime bufferSize = .ok (target, generation, payload)) :
    store.valid = true ∧ (MmsStaticBrcbStateCodec.encode runtime bufferSize).status = .ok ∧
      payload = (MmsStaticBrcbStateCodec.encode runtime bufferSize).bytes ∧
      payload.length ≤ store.maximumStateBytes ∧ payload.length ≤ uint32Max ∧
      ∃ current, generation = nextGeneration current ∧
        selectTarget (inspectBank cells 0 store.bankBytes) (inspectBank cells 1 store.bankBytes) =
          (target, current) := by
  rw [prepare] at h
  split at h
  · cases h
  · rename_i hvalid
    dsimp only at h
    split at h
    · cases h
    · rename_i hstatus
      split at h
      · cases h
      · rename_i hlayout
        cases h
        simp only [not_or, not_lt] at hlayout
        exact ⟨by simpa using hvalid, not_not.mp hstatus, rfl, hlayout.1, hlayout.2, _, rfl, rfl⟩

/-- What a checkpoint does that is not refused. -/
theorem checkpoint_ok (h : (store.checkpoint cells runtime bufferSize).1.status = .ok) :
    ∃ target current, store.valid = true ∧
      selectTarget (inspectBank cells 0 store.bankBytes) (inspectBank cells 1 store.bankBytes) =
        (target, current) ∧
      (MmsStaticBrcbStateCodec.encode runtime bufferSize).bytes ≠ [] ∧
      (MmsStaticBrcbStateCodec.encode runtime bufferSize).bytes.length ≤ store.maximumStateBytes ∧
      (MmsStaticBrcbStateCodec.encode runtime bufferSize).bytes.length ≤ uint32Max ∧
      (store.checkpoint cells runtime bufferSize).1.bankIndex = target ∧
      (store.checkpoint cells runtime bufferSize).2 = store.recordOps target
        (nextGeneration current) (MmsStaticBrcbStateCodec.encode runtime bufferSize).bytes := by
  cases hprepare : store.prepare cells runtime bufferSize with
  | error result =>
    rw [checkpoint, hprepare] at h
    exact absurd h (prepare_error hprepare)
  | ok decided =>
    obtain ⟨target, generation, payload⟩ := decided
    obtain ⟨hvalid, hstatus, rfl, hmax, h32, current, rfl, htarget⟩ := prepare_ok hprepare
    have hne : (MmsStaticBrcbStateCodec.encode runtime bufferSize).bytes ≠ [] := by
      rw [(MmsStaticBrcbStateCodec.encode_ok hstatus).2.2.2]
      intro hnil
      have hlen := congrArg List.length (List.append_eq_nil_iff.mp hnil).1
      rw [MmsStaticBrcbStateCodec.length_encodeHeader] at hlen
      exact absurd hlen (by decide)
    refine ⟨target, current, hvalid, htarget, hne, hmax, h32, ?_, ?_⟩ <;> rw [checkpoint, hprepare]

end Checkpoint

/-- A valid store has room for both banks, and for a header and a footer in each. -/
theorem valid_bounds {store : MmsStaticBrcbCheckpointStore} (h : store.valid = true) :
    recordHeaderBytes + recordFooterBytes < store.bankBytes ∧
      2 * store.bankBytes ≤ store.capacityBytes ∧
      store.maximumStateBytes = store.bankBytes - recordHeaderBytes - recordFooterBytes := by
  rw [valid, Bool.and_eq_true, Bool.and_eq_true, decide_eq_true_eq, decide_eq_true_eq] at h
  have hlayout := h.1.2
  have hcapacity : store.bankBytes ≤ store.capacityBytes / 2 := h.2
  refine ⟨hlayout, by omega, ?_⟩
  rw [maximumStateBytes, if_pos (by omega)]

/-! ## The invariant -/

/-- `image` may be loaded. -/
def CrashState.Allowed (s : CrashState) (image : Bytes) : Prop :=
  s.lastOk = some image ∨ image ∈ s.interrupted

/-- There is no valid bank and no checkpoint returned ok, or the newest bank holds an image
that may be loaded. -/
structure CrashInv (store : MmsStaticBrcbCheckpointStore) (s : CrashState) : Prop where
  length : s.cells.length = store.capacityBytes
  banks : (inspectBank s.cells 0 store.bankBytes = none ∧
      inspectBank s.cells 1 store.bankBytes = none ∧ s.lastOk = none) ∨
    ∃ newest info, store.Newest s.cells newest info ∧
      s.Allowed (payloadOf s.cells newest store.bankBytes info.payloadBytes)

/-- An erased bank is invalid. -/
theorem inspectBank_replicate {blank : UInt8} {capacity bankIndex bankBytes : Nat}
    (hlayout : recordHeaderBytes + recordFooterBytes < bankBytes)
    (hfit : bankOffset bankIndex bankBytes + bankBytes ≤ capacity) :
    inspectBank (List.replicate capacity blank) bankIndex bankBytes = none := by
  have hfooter : footerOf (List.replicate capacity blank) bankIndex bankBytes =
      List.replicate recordFooterBytes blank := by
    rw [footerOf, slice, List.drop_replicate, List.take_replicate]
    congr 1
    omega
  simp only [inspectBank, hfooter, footerValid_replicate]
  simp

/-- Storage that was never written has no valid bank. -/
theorem crashInv_blank (store : MmsStaticBrcbCheckpointStore) (blank : UInt8)
    (hvalid : store.valid = true) : store.CrashInv (store.blankStorage blank) := by
  obtain ⟨hlayout, hcapacity, -⟩ := valid_bounds hvalid
  refine ⟨List.length_replicate, Or.inl ⟨?_, ?_, rfl⟩⟩
  · exact inspectBank_replicate hlayout (by simp only [bankOffset]; omega)
  · exact inspectBank_replicate hlayout (by simp only [bankOffset]; omega)

section Step

variable {store : MmsStaticBrcbCheckpointStore} {blank : UInt8}

/-- The target is one of the banks, and the other one, if it is valid, has the newest
generation. -/
theorem selectTarget_eq {cells : Bytes} {target : Nat} {current : UInt64}
    (h : selectTarget (inspectBank cells 0 store.bankBytes) (inspectBank cells 1 store.bankBytes) =
      (target, current)) :
    target < bankCount ∧ ∀ other, inspectBank cells (1 - target) store.bankBytes = some other →
      other.generation = current := by
  cases hfirst : inspectBank cells 0 store.bankBytes with
  | none =>
    cases hsecond : inspectBank cells 1 store.bankBytes with
    | none =>
      rw [hfirst, hsecond] at h
      cases h
      exact ⟨by decide, fun other hother => by rw [hsecond] at hother; cases hother⟩
    | some second =>
      rw [hfirst, hsecond] at h
      cases h
      exact ⟨by decide, fun other hother => by rw [hsecond] at hother; cases hother; rfl⟩
  | some first =>
    cases hsecond : inspectBank cells 1 store.bankBytes with
    | none =>
      rw [hfirst, hsecond] at h
      cases h
      exact ⟨by decide, fun other hother => by rw [hfirst] at hother; cases hother; rfl⟩
    | some second =>
      rw [hfirst, hsecond, selectTarget] at h
      split at h
      · cases h
        exact ⟨by decide, fun other hother => by rw [hsecond] at hother; cases hother; rfl⟩
      · cases h
        exact ⟨by decide, fun other hother => by rw [hfirst] at hother; cases hother; rfl⟩

theorem other_ne {target : Nat} (h : target < bankCount) : 1 - target ≠ target := by
  rw [bankCount] at h
  omega

/-- A bank with the successor of the newest generation is the newest. -/
theorem newest_of_record {cells after : Bytes} {target : Nat} {current : UInt64} {payload : Bytes}
    (hlayout : recordHeaderBytes + recordFooterBytes < store.bankBytes)
    (htarget : selectTarget (inspectBank cells 0 store.bankBytes)
      (inspectBank cells 1 store.bankBytes) = (target, current))
    (hother : ∀ other ≠ target, SameBank other store.bankBytes after cells)
    (hrecord : inspectBank after target store.bankBytes =
      some (recordInfo (nextGeneration current) payload)) :
    store.Newest after target (recordInfo (nextGeneration current) payload) := by
  obtain ⟨hlt, hcurrent⟩ := selectTarget_eq htarget
  refine ⟨hlt, hrecord, fun other hinspect => ?_⟩
  rw [inspectBank_congr hlayout (hother _ (other_ne hlt))] at hinspect
  rw [hcurrent other hinspect]
  rfl

/-- **A checkpoint that is interrupted.** The target bank is invalid afterwards, or as it was,
or holds the new record; the other one is untouched. -/
theorem crashInv_interrupted {s : CrashState} (hinv : store.CrashInv s)
    (hvalid : store.valid = true) {after : Bytes} {target : Nat} {current : UInt64}
    {payload : Bytes}
    (htarget : selectTarget (inspectBank s.cells 0 store.bankBytes)
      (inspectBank s.cells 1 store.bankBytes) = (target, current))
    (hlength : after.length = s.cells.length)
    (hother : ∀ other ≠ target, SameBank other store.bankBytes after s.cells)
    (hbank : ∀ info, inspectBank after target store.bankBytes = some info →
      (inspectBank s.cells target store.bankBytes = some info ∧
        payloadOf after target store.bankBytes info.payloadBytes =
          payloadOf s.cells target store.bankBytes info.payloadBytes) ∨
      (info = recordInfo (nextGeneration current) payload ∧
        payloadOf after target store.bankBytes info.payloadBytes = payload)) :
    store.CrashInv { s with cells := after, interrupted := payload :: s.interrupted } := by
  obtain ⟨hlayout, -, -⟩ := valid_bounds hvalid
  refine ⟨hlength.trans hinv.length, ?_⟩
  -- a new record in the target bank is the newest
  have hnew (info : BankInfo) (hinfo : inspectBank after target store.bankBytes = some info)
      (h : info = recordInfo (nextGeneration current) payload ∧
        payloadOf after target store.bankBytes info.payloadBytes = payload) :
      ∃ newest info, store.Newest after newest info ∧
        CrashState.Allowed { s with cells := after, interrupted := payload :: s.interrupted }
          (payloadOf after newest store.bankBytes info.payloadBytes) := by
    rw [h.1] at hinfo
    refine ⟨target, _, newest_of_record hlayout htarget hother hinfo, Or.inr ?_⟩
    rw [← h.1, h.2]
    exact List.mem_cons_self
  obtain ⟨hfirst, hsecond, hnone⟩ | ⟨newest, info, hnewest, hallowed⟩ := hinv.banks
  · -- no valid bank before
    rw [hfirst, hsecond] at htarget
    cases htarget
    by_cases hafter : inspectBank after 0 store.bankBytes = none
    · refine Or.inl ⟨hafter, ?_, hnone⟩
      exact (inspectBank_congr hlayout (hother 1 (by decide))).trans hsecond
    · obtain ⟨info, hinfo⟩ := Option.ne_none_iff_exists'.mp hafter
      rcases hbank info hinfo with ⟨hold, -⟩ | hrecord
      · rw [hfirst] at hold
        cases hold
      · exact Or.inr (hnew info hinfo hrecord)
  · obtain ⟨ht, hc⟩ := Prod.mk.inj (hnewest.target.symm.trans htarget)
    have hne : newest ≠ target := by
      rw [← ht]
      exact (other_ne hnewest.bank).symm
    have hsame := hother newest hne
    have hfits := (inspectBank_eq_some hnewest.holds).fits
    refine Or.inr ?_
    by_cases hrecord : ∃ info', inspectBank after target store.bankBytes = some info' ∧
        info' = recordInfo (nextGeneration current) payload ∧
        payloadOf after target store.bankBytes info'.payloadBytes = payload
    · obtain ⟨info', hinfo', hrecord⟩ := hrecord
      exact hnew info' hinfo' hrecord
    · refine ⟨newest, info, ⟨hnewest.bank, ?_, fun other hinspect => ?_⟩, ?_⟩
      · exact (inspectBank_congr hlayout hsame).trans hnewest.holds
      · rw [ht] at hinspect
        rcases hbank other hinspect with ⟨hold, -⟩ | hrec
        · exact hnewest.follows other (by rw [ht]; exact hold)
        · exact absurd ⟨other, hinspect, hrec⟩ hrecord
      · rw [payloadOf_congr hsame (by omega)]
        exact hallowed.imp id (List.mem_cons_of_mem payload)

/-- The image of a checkpoint fits the bank it is written to. -/
theorem fits_checkpoint {s : CrashState} (hinv : store.CrashInv s) (hvalid : store.valid = true)
    {target : Nat} (htarget : target < bankCount) {payload : Bytes} (hne : payload ≠ [])
    (hmax : payload.length ≤ store.maximumStateBytes) (h32 : payload.length ≤ uint32Max) :
    store.Fits target payload s.cells := by
  obtain ⟨hlayout, hcapacity, hmaximum⟩ := valid_bounds hvalid
  refine ⟨?_, hlayout, hne, by rw [← hmaximum]; exact hmax, h32⟩
  rw [hinv.length, bankOffset, ← Nat.succ_mul]
  exact (Nat.mul_le_mul_right _ htarget).trans hcapacity

/-- **A checkpoint that runs to its end.** Its record is the newest. -/
theorem crashInv_checkpoint {s : CrashState} (hinv : store.CrashInv s)
    {runtime : MmsStaticBrcbRuntime} {bufferSize : Nat} :
    store.CrashInv (store.crashStep blank s (.checkpoint runtime bufferSize)) := by
  simp only [crashStep]
  split
  · rename_i hok
    obtain ⟨target, current, hvalid, htarget, hne, hmax, h32, -, hops⟩ := checkpoint_ok hok
    rw [hops]
    generalize (MmsStaticBrcbStateCodec.encode runtime bufferSize).bytes = payload at *
    have hfits := fits_checkpoint hinv hvalid (selectTarget_eq htarget).1 hne hmax h32
    have hloss : PowerLoss (Medium.run blank (.rest s.cells)
        ((store.recordOps target (nextGeneration current) payload).take 7))
        (Medium.run blank (.rest s.cells)
          (store.recordOps target (nextGeneration current) payload)).current :=
      ⟨rfl, fun i hi => Or.inr rfl⟩
    have hrecord := inspectBank_recordOps blank hfits (nextGeneration_ne_zero current)
    refine ⟨(powerLoss_length hfits hloss).trans hinv.length, Or.inr ⟨target, _, newest_of_record
      hfits.layout htarget (fun other hne => powerLoss_other hfits hloss hne) hrecord, Or.inl ?_⟩⟩
    exact congrArg some (powerLoss_target hfits (by decide) hloss hrecord).2.symm
  · exact hinv

theorem crashInv_powerLost {s : CrashState} (hinv : store.CrashInv s)
    {runtime : MmsStaticBrcbRuntime} {bufferSize issued : Nat} {after : Bytes}
    (hpossible : store.Possible blank s (.powerLost runtime bufferSize issued after))
    (hdetected : store.EraseDetected s (.powerLost runtime bufferSize issued after)) :
    store.CrashInv (store.crashStep blank s (.powerLost runtime bufferSize issued after)) := by
  simp only [crashStep]
  split
  · rename_i hok
    obtain ⟨target, current, hvalid, htarget, hne, hmax, h32, hindex, hops⟩ := checkpoint_ok hok
    simp only [Possible, EraseDetected, hops, hindex] at hpossible hdetected
    generalize (MmsStaticBrcbStateCodec.encode runtime bufferSize).bytes = payload at *
    have hfits := fits_checkpoint hinv hvalid (selectTarget_eq htarget).1 hne hmax h32
    refine crashInv_interrupted hinv hvalid htarget (powerLoss_length hfits hpossible)
      (fun other hne => powerLoss_other hfits hpossible hne) fun info hinfo => ?_
    obtain rfl | rfl | hissued : issued = 0 ∨ issued = 1 ∨ 2 ≤ issued := by omega
    · -- nothing was issued
      obtain rfl : after = s.cells := PowerLoss.eq_rest hpossible
      exact Or.inl ⟨hinfo, rfl⟩
    · exact Or.inl (hdetected rfl info hinfo)
    · exact Or.inr (powerLoss_target hfits hissued hpossible hinfo)
  · exact hinv

end Step

/-! ## Runs -/

variable {store : MmsStaticBrcbCheckpointStore} {blank : UInt8}

theorem crashInv_step {s : CrashState} {event : CrashEvent}
    (hok : store.Possible blank s event ∧ store.EraseDetected s event) (hinv : store.CrashInv s) :
    store.CrashInv (store.crashStep blank s event) := by
  cases event with
  | checkpoint runtime bufferSize => exact crashInv_checkpoint hinv
  | powerLost runtime bufferSize issued after => exact crashInv_powerLost hinv hok.1 hok.2

/-- A store that is not valid refuses every checkpoint. -/
theorem exec_of_invalid (hvalid : store.valid ≠ true) (s : CrashState) (es : List CrashEvent) :
    exec (store.crashStep blank) s es = s := by
  refine exec_invariant (fun s' => s' = s) (fun s' e hs => ?_) rfl es
  subst hs
  cases e <;>
  · simp only [crashStep]
    split
    · rename_i hok
      obtain ⟨-, -, hv, -⟩ := checkpoint_ok hok
      exact absurd hv hvalid
    · rfl

/-- A restore loads what the newest bank holds. -/
theorem restore_of_crashInv {s : CrashState} (hinv : store.CrashInv s)
    (hvalid : store.valid = true) (runtime : MmsStaticBrcbRuntime) {bufferSize : Nat}
    (hbuffer : store.maximumStateBytes ≤ bufferSize) :
    Recovers s (store.restore s.cells runtime bufferSize) := by
  obtain ⟨hfirst, hsecond, hnone⟩ | ⟨newest, info, hnewest, hallowed⟩ := hinv.banks
  · have hrestore : store.restore s.cells runtime bufferSize =
        ({ status := .noCheckpoint }, none, runtime) := by
      rw [restore, hvalid, hfirst, hsecond]
      rfl
    rw [hrestore]
    exact ⟨nofun, fun hsome => absurd hnone hsome⟩
  · have hbank := inspectBank_eq_some hnewest.holds
    obtain ⟨-, -, hmaximum⟩ := valid_bounds hvalid
    obtain ⟨fallback, hprimary⟩ := hnewest.primary
    have hload : store.loadBank s.cells bufferSize (newest, info) =
        .ok (payloadOf s.cells newest store.bankBytes info.payloadBytes) := by
      have hfits := hbank.fits
      rw [loadBank, if_neg (by dsimp only; omega)]
      dsimp only
      rw [if_neg (not_not.mpr hbank.checked)]
    have hselected : store.loadSelected s.cells bufferSize (newest, info) fallback =
        ((newest, info), .ok (payloadOf s.cells newest store.bankBytes info.payloadBytes)) := by
      simp only [loadSelected, hload]
    rw [restore, hvalid, hprimary]
    simp only [hselected]
    refine ⟨fun image himage => ?_, fun _ => ⟨?_, nofun⟩⟩
    · cases himage
      exact hallowed
    · simp only [Bool.not_true, Bool.false_eq_true, ↓reduceIte]
      split <;> exact nofun

/-- **Restoring after power loss.** After any checkpoints and power losses, the image that a
restore loads is that of the last checkpoint that returned ok or of one interrupted since; and
once one has returned ok, an image is loaded. -/
theorem restore_recovers (store : MmsStaticBrcbCheckpointStore) (blank : UInt8)
    (es : List CrashEvent)
    (hes : Along (store.crashStep blank)
      (fun s event => store.Possible blank s event ∧ store.EraseDetected s event)
      (store.blankStorage blank) es)
    (runtime : MmsStaticBrcbRuntime) (bufferSize : Nat)
    (hbuffer : store.maximumStateBytes ≤ bufferSize) :
    let s := exec (store.crashStep blank) (store.blankStorage blank) es
    Recovers s (store.restore s.cells runtime bufferSize) := by
  intro s
  by_cases hvalid : store.valid = true
  · have hinv : store.CrashInv s := exec_invariant_where store.CrashInv
      (fun _ _ hok hinv => crashInv_step hok hinv) (crashInv_blank store blank hvalid) hes
    exact restore_of_crashInv hinv hvalid runtime hbuffer
  · have hs : s = store.blankStorage blank := exec_of_invalid hvalid _ es
    have hrestore : store.restore s.cells runtime bufferSize =
        ({ status := .invalidBackend }, none, runtime) := by
      rw [restore, if_pos (by simpa using hvalid)]
    rw [hrestore, hs]
    exact ⟨nofun, fun hsome => absurd rfl hsome⟩

/-- A device with one slot and nothing retained, that has dropped so many reports. -/
def dropped (droppedReports : UInt64) : MmsStaticBrcbRuntime :=
  { (MmsStaticBrcbRuntime.sampleRuntime [40]).initializeRuntime.2 with droppedReports }

/-- Two banks of 128 octets. -/
def sampleStore : MmsStaticBrcbCheckpointStore := { capacityBytes := 256, bankBytes := 128 }

/-- Two checkpoints, and a third that loses power while it erases the bank of the first: the
octets at `places` are erased already. -/
def tornErase (first : UInt64) (places : List Nat) : List CrashEvent :=
  let written := [.checkpoint (dropped first) 56, .checkpoint (dropped 0) 56]
  let s := exec (sampleStore.crashStep 0xFF) (sampleStore.blankStorage 0xFF) written
  written ++ [.powerLost (dropped 1) 56 1 (places.foldl (fun cells i => cells.set i 0xFF) s.cells)]

theorem restore_recovers_sample :
    let s := exec (sampleStore.crashStep 0xFF) (sampleStore.blankStorage 0xFF) (tornErase 2 [0, 97])
    Recovers s (sampleStore.restore s.cells (dropped 0) 56) :=
  restore_recovers sampleStore 0xFF (tornErase 2 [0, 97]) (by decide +kernel) (dropped 0) 56
    (by decide)

/-- One checkpoint, a second that loses power when its footer is durable, and a third that
loses power before its first operation. -/
def interruptedTwice : List CrashEvent :=
  let s := exec (sampleStore.crashStep 0xFF) (sampleStore.blankStorage 0xFF)
    [.checkpoint (dropped 0) 56]
  let (_, ops) := sampleStore.checkpoint s.cells (dropped 1) 56
  let after := (Medium.run 0xFF (.rest s.cells) ops).current
  [.checkpoint (dropped 0) 56, .powerLost (dropped 1) 56 7 after, .powerLost (dropped 2) 56 0 after]

/-- Where both generations, both payload checksums and four octets of the image are erased, and
the checksums agree with that, the torn bank passes for the newest. And of two checkpoints that
were interrupted the first can be the newest. -/
theorem restore_mixture :
    (Along (sampleStore.crashStep 0xFF) (sampleStore.Possible 0xFF) (sampleStore.blankStorage 0xFF)
        (tornErase 0x95D16882DA0B5B08 [19, 24, 25, 26, 27, 76, 77, 78, 79, 111, 116, 117, 118, 119]) ∧
      let s := exec (sampleStore.crashStep 0xFF) (sampleStore.blankStorage 0xFF)
        (tornErase 0x95D16882DA0B5B08 [19, 24, 25, 26, 27, 76, 77, 78, 79, 111, 116, 117, 118, 119])
      ¬Recovers s (sampleStore.restore s.cells (dropped 0) 56)) ∧
    Along (sampleStore.crashStep 0xFF) (sampleStore.Possible 0xFF) (sampleStore.blankStorage 0xFF)
        interruptedTwice ∧
      let s := exec (sampleStore.crashStep 0xFF) (sampleStore.blankStorage 0xFF) interruptedTwice
      let loaded := (sampleStore.restore s.cells (dropped 0) 56).2.1
      loaded ≠ none ∧ loaded ≠ s.lastOk ∧ loaded ≠ s.interrupted.head? := by
  refine ⟨⟨by decide +kernel, fun h => ?_⟩, by decide +kernel, by decide +kernel⟩
  have hloaded := h.loaded (MmsStaticBrcbStateCodec.encode (dropped 0x95D16882FFFFFFFF) 56).bytes
    (by decide +kernel)
  revert hloaded
  decide +kernel

end MmsStaticBrcbCheckpointStore

end ArStack.Mms
