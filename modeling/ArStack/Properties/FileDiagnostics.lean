import ArStack.Lib.Throws
import ArStack.Mms.FileTransfer

/-!
# Downloads and the diagnostics they keep

The bounds of the diagnostics change what is noted and how it is shortened. Two downloads that
differ only in these bounds take the same steps; whether the second attempt of an adaptive download
is made is decided by the diagnostics that were kept, and none are kept where the bound is zero.

* `Alike` — transfers that differ in what they have noted
* `coupled_transferBody`, `coupled_downloadAttempt` — the steps of an attempt
* `hasFileNonexistentOpen_download` — when the second attempt is made
* `uninfluenced_iff`
-/

namespace ArStack.Mms

open ArStack.Lib
open MmsFileServiceCodec (encodeFileCloseRequestPData encodeFileOpenRequestPData decodeFileOpenResponse
  decodeFileCloseResponse normalizeRemotePath rootedBackslashPath)

/-- With other bounds for the diagnostics. -/
def MmsFileTransferOptions.withDiagnostics (options : MmsFileTransferOptions)
    (maximumDiagnostics maximumDiagnosticBytes : Nat) : MmsFileTransferOptions :=
  { options with maximumDiagnostics, maximumDiagnosticBytes }

namespace MmsFileTransferResult

/-- With other diagnostics. -/
def noting (result : MmsFileTransferResult) (diagnostics : List MmsFileDiagnostic) :
    MmsFileTransferResult :=
  { result with diagnostics }

theorem fail_noting (result : MmsFileTransferResult) (diagnostics : List MmsFileDiagnostic)
    (failureKind : MmsFileFailureKind) (message : String) :
    (result.noting diagnostics).fail failureKind message =
      (result.fail failureKind message).noting diagnostics := by
  unfold fail
  by_cases h : result.failureKind = .none
  · rw [if_pos (show (result.noting diagnostics).failureKind = .none from h), if_pos h]
    rfl
  · rw [if_neg (show ¬(result.noting diagnostics).failureKind = .none from h), if_neg h]

/-- The results differ at most in what they have noted. -/
def SameButNotes (result result' : MmsFileTransferResult) : Prop :=
  ∃ diagnostics, result' = result.noting diagnostics

theorem SameButNotes.fail {result result' : MmsFileTransferResult} (h : SameButNotes result result')
    (failureKind : MmsFileFailureKind) (message : String) :
    SameButNotes (result.fail failureKind message) (result'.fail failureKind message) := by
  obtain ⟨diagnostics, rfl⟩ := h
  exact ⟨diagnostics, fail_noting result diagnostics failureKind message⟩

theorem SameButNotes.noting {result result' : MmsFileTransferResult}
    (h : SameButNotes result result') (diagnostics diagnostics' : List MmsFileDiagnostic) :
    SameButNotes (result.noting diagnostics) (result'.noting diagnostics') := by
  obtain ⟨-, rfl⟩ := h
  exact ⟨diagnostics', rfl⟩

/-- A failure does not change what was noted. -/
theorem diagnostics_fail (result : MmsFileTransferResult) (failureKind : MmsFileFailureKind)
    (message : String) : (result.fail failureKind message).diagnostics = result.diagnostics := by
  unfold fail
  split
  · rfl
  · rfl

end MmsFileTransferResult

namespace MmsFileTransferRuntime

/-! ## Alike transfers -/

/-- The transfer with other diagnostics. -/
def noting (s : FileTransfer) (diagnostics : List MmsFileDiagnostic) : FileTransfer :=
  { s with result := s.result.noting diagnostics }

/-- The transfers differ at most in what they have noted. -/
def Alike (s t : FileTransfer) : Prop := ∃ diagnostics, t = noting s diagnostics

theorem alike_of_result {result result' : MmsFileTransferResult} (client : FileClient)
    (frsm : Option Int32) (h : result.SameButNotes result') :
    Alike { client, result, frsm } { client, result := result', frsm } := by
  obtain ⟨diagnostics, rfl⟩ := h
  exact ⟨diagnostics, rfl⟩

/-- Alike, and one has failed as the other has. -/
theorem alike_fail {result result' : MmsFileTransferResult} (client : FileClient)
    (frsm : Option Int32) (h : result.SameButNotes result') (failureKind : MmsFileFailureKind)
    (message : String) :
    Alike { client, result := result.fail failureKind message, frsm }
      { client, result := result'.fail failureKind message, frsm } :=
  alike_of_result client frsm (h.fail failureKind message)

/-- What is thrown has the same kind and the same text. -/
inductive AlikeThrown : FileThrown → FileThrown → Prop where
  | service {diagnostic diagnostic' : MmsFileDiagnostic} :
    diagnostic.failureKind = diagnostic'.failureKind → diagnostic.message = diagnostic'.message →
    AlikeThrown (.service diagnostic) (.service diagnostic')
  | other (what : String) : AlikeThrown (.other what) (.other what)

/-- Two runs of a step, from alike transfers. -/
abbrev InStep {α : Type} (x y : TransferM α) : Prop := Coupled Alike AlikeThrown Eq x y

theorem coupled_catchService {α : Type} {x y : TransferM α}
    {handler handler' : MmsFileDiagnostic → TransferM α} (hxy : InStep x y)
    (hhandler : ∀ diagnostic diagnostic', diagnostic.failureKind = diagnostic'.failureKind →
      diagnostic.message = diagnostic'.message →
      InStep (handler diagnostic) (handler' diagnostic')) :
    InStep (catchService x handler) (catchService y handler') := by
  intro s t hst
  have h := hxy s t hst
  unfold catchService
  cases hx : x s with
  | ok a s' =>
    rw [hx] at h
    cases hy : y t with
    | ok b t' =>
      rw [hy] at h
      exact h
    | error e t' =>
      rw [hy] at h
      cases h
  | error e s' =>
    rw [hx] at h
    cases hy : y t with
    | ok b t' =>
      rw [hy] at h
      cases h
    | error e' t' =>
      rw [hy] at h
      cases h with
      | error hthrown hst' =>
        cases hthrown with
        | service hkind hmessage => exact hhandler _ _ hkind hmessage s' t' hst'
        | other what => exact .error (.other what) hst'

theorem coupled_get {α : Type} {f g : FileTransfer → TransferM α}
    (h : ∀ s t, Alike s t → InStep (f s) (g t)) : InStep (get >>= f) (get >>= g) :=
  Coupled.bind Alike Coupled.get h

theorem coupled_ite {α : Type} {c : Prop} [Decidable c] {x x' y y' : TransferM α}
    (hx : InStep x x') (hy : InStep y y') :
    InStep (if c then x else y) (if c then x' else y') := by
  split
  · exact hx
  · exact hy

/-! ## Steps -/

theorem coupled_stopRequested : InStep stopRequested stopRequested := by
  rintro s t ⟨diagnostics, rfl⟩
  exact .ok rfl ⟨diagnostics, rfl⟩

theorem coupled_nextInvokeId : InStep nextInvokeId nextInvokeId := by
  rintro s t ⟨diagnostics, rfl⟩
  exact .ok rfl ⟨diagnostics, rfl⟩

theorem coupled_record (item : FileTraffic) : InStep (record item) (record item) := by
  rintro s t ⟨diagnostics, rfl⟩
  exact .ok rfl ⟨diagnostics, rfl⟩

theorem coupled_fail (failureKind : MmsFileFailureKind) (message : String) :
    InStep (fail failureKind message) (fail failureKind message) := by
  rintro s t ⟨diagnostics, rfl⟩
  exact .ok rfl (alike_fail s.client s.frsm ⟨diagnostics, rfl⟩ failureKind message)

theorem coupled_throwText {α : Type} (result : Except String α) :
    InStep (throwText result) (throwText result) := by
  cases result with
  | ok a => exact Coupled.pure rfl
  | error message => exact Coupled.throw (.other message)

theorem coupled_throwService {α : Type} (result : Except MmsFileDiagnostic α) :
    InStep (throwService result) (throwService result) := by
  cases result with
  | ok a => exact Coupled.pure rfl
  | error diagnostic => exact Coupled.throw (.service rfl rfl)

theorem coupled_countRead : InStep countRead countRead := by
  rintro s t ⟨diagnostics, rfl⟩
  exact .ok rfl ⟨diagnostics, rfl⟩

variable (options : MmsFileTransferOptions) (n b : Nat)

theorem coupled_exchange (stage : String) (invokeId : Nat) (request : Bytes) :
    InStep (exchange options stage invokeId request)
      (exchange (options.withDiagnostics n b) stage invokeId request) := by
  rintro s t ⟨diagnostics, rfl⟩
  have hclient : (noting s diagnostics).client = s.client := rfl
  unfold exchange
  rw [hclient]
  generalize s.client.stopRequested = stopped
  obtain ⟨stop, client⟩ := stopped
  dsimp only
  cases client.exchangeConfirmed request invokeId stop with
  | mk answer client =>
    cases answer with
    | ok payload => exact .ok rfl ⟨diagnostics, rfl⟩
    | error failure => exact .error (.service rfl rfl) ⟨_, rfl⟩

/-- Noted once or twice, the transfers remain alike. -/
theorem coupled_handleService (stage : String) (frsmId : Option Int32) (request : Bytes)
    {diagnostic diagnostic' : MmsFileDiagnostic}
    (hkind : diagnostic.failureKind = diagnostic'.failureKind)
    (hmessage : diagnostic.message = diagnostic'.message) :
    InStep (handleService options stage frsmId request diagnostic)
      (handleService (options.withDiagnostics n b) stage frsmId request diagnostic') := by
  -- whichever branch is taken, only the diagnostics change before the failure is set
  have hhandled : ∀ (options : MmsFileTransferOptions) (diagnostic : MmsFileDiagnostic)
      (s : FileTransfer), ∃ result, s.result.SameButNotes result ∧
        handleService options stage frsmId request diagnostic s =
          .ok () { s with
            result := result.fail diagnostic.failureKind diagnostic.message } := by
    intro options diagnostic s
    unfold handleService
    dsimp only
    split
    · exact ⟨s.result, ⟨s.result.diagnostics, rfl⟩, rfl⟩
    · exact ⟨_, ⟨_, rfl⟩, rfl⟩
  rintro s t ⟨diagnostics, rfl⟩
  obtain ⟨result, hresult, hnoted⟩ := hhandled options diagnostic s
  obtain ⟨result', hresult', hnoted'⟩ :=
    hhandled (options.withDiagnostics n b) diagnostic' (noting s diagnostics)
  have hboth : result.SameButNotes result' := by
    obtain ⟨noted, rfl⟩ := hresult
    obtain ⟨noted', rfl⟩ := hresult'
    exact ⟨noted', rfl⟩
  rw [hnoted, hnoted', ← hkind, ← hmessage]
  exact .ok rfl (alike_fail s.client s.frsm hboth _ _)

theorem coupled_takeOpened (opened : MmsFileOpenResponse) (invokeId : Nat)
    (request payload : Bytes) :
    InStep (takeOpened options opened invokeId request payload)
      (takeOpened (options.withDiagnostics n b) opened invokeId request payload) := by
  rintro s t ⟨diagnostics, rfl⟩
  unfold takeOpened
  dsimp only
  refine .ok rfl ?_
  have hlimit : (options.withDiagnostics n b).maximumBytes = options.maximumBytes := rfl
  rw [hlimit]
  split
  · exact alike_fail s.client _ ⟨_, rfl⟩ _ _
  · exact ⟨_, rfl⟩

theorem coupled_openFile (normalizedPath : Bytes) (rootedBackslash : Bool) :
    InStep (openFile options normalizedPath rootedBackslash)
      (openFile (options.withDiagnostics n b) normalizedPath rootedBackslash) := by
  unfold openFile
  refine Coupled.bind Eq coupled_stopRequested ?_
  rintro stop _ rfl
  refine coupled_ite (coupled_fail _ _) ?_
  refine Coupled.bind Eq coupled_nextInvokeId ?_
  rintro invokeId _ rfl
  refine coupled_get ?_
  rintro s t ⟨diagnostics, rfl⟩
  refine Coupled.bind Eq (coupled_throwText _) ?_
  rintro request _ rfl
  refine coupled_catchService ?_ fun _ _ hkind hmessage =>
    coupled_handleService options n b "FileOpen" none request hkind hmessage
  refine Coupled.bind Eq (coupled_record _) ?_
  rintro - - -
  refine Coupled.bind Eq (coupled_exchange options n b "FileOpen" invokeId request) ?_
  rintro payload _ rfl
  refine Coupled.bind Eq (coupled_throwService _) ?_
  rintro opened _ rfl
  refine Coupled.bind Eq (coupled_record _) ?_
  rintro - - -
  exact coupled_takeOpened options n b opened invokeId request payload

theorem coupled_noteBlock (block : MmsFileReadResponse) (invokeId : Nat) (frsmId : Int32)
    (request payload : Bytes) :
    InStep (noteBlock options block invokeId frsmId request payload)
      (noteBlock (options.withDiagnostics n b) block invokeId frsmId request payload) := by
  rintro s t ⟨diagnostics, rfl⟩
  have hfailure : blockFailure (options.withDiagnostics n b) (noting s diagnostics).result block =
      blockFailure options s.result block := rfl
  unfold noteBlock
  rw [hfailure]
  dsimp only
  refine .ok rfl ?_
  cases blockFailure options s.result block with
  | none => exact ⟨_, rfl⟩
  | some failure =>
    obtain ⟨failureKind, message⟩ := failure
    dsimp only
    have hfailed : (s.result.fail failureKind message).SameButNotes
        ((noting s diagnostics).result.fail failureKind message) :=
      MmsFileTransferResult.SameButNotes.fail ⟨diagnostics, rfl⟩ failureKind message
    exact alike_of_result s.client s.frsm (hfailed.noting _ _)

theorem coupled_writeBlock (data : Bytes) (invokeId : Nat) (frsmId : Int32) :
    InStep (writeBlock options data invokeId frsmId)
      (writeBlock (options.withDiagnostics n b) data invokeId frsmId) := by
  rintro s t ⟨diagnostics, rfl⟩
  have hclient : (noting s diagnostics).client = s.client := rfl
  unfold writeBlock
  rw [hclient]
  split
  · exact .ok rfl ⟨diagnostics, rfl⟩
  · generalize s.client.sink.write data = written
    obtain ⟨failed, sink⟩ := written
    cases failed with
    | none => exact .ok rfl ⟨diagnostics, rfl⟩
    | some error =>
      exact .ok rfl (alike_fail _ s.frsm ⟨_, rfl⟩ _ _)

theorem coupled_readBlock : InStep (readBlock options) (readBlock (options.withDiagnostics n b)) := by
  unfold readBlock
  refine Coupled.bind Eq coupled_countRead ?_
  rintro readOperations _ rfl
  refine coupled_get ?_
  rintro s t ⟨diagnostics, rfl⟩
  refine Coupled.bind Eq coupled_nextInvokeId ?_
  rintro invokeId _ rfl
  refine Coupled.bind Eq (coupled_throwText _) ?_
  rintro request _ rfl
  refine coupled_catchService ?_ fun _ _ hkind hmessage => Coupled.bind Eq
    (coupled_handleService options n b _ s.frsm request hkind hmessage) fun _ _ _ => Coupled.pure rfl
  refine Coupled.bind Eq (coupled_record _) ?_
  rintro - - -
  refine Coupled.bind Eq (coupled_exchange options n b "FileRead" invokeId request) ?_
  rintro payload _ rfl
  refine Coupled.bind Eq (coupled_throwService _) ?_
  rintro block _ rfl
  refine Coupled.bind Eq (coupled_record _) ?_
  rintro - - -
  refine Coupled.bind Eq (coupled_noteBlock options n b block invokeId _ request payload) ?_
  rintro - - -
  refine coupled_get ?_
  rintro s' t ⟨diagnostics', rfl⟩
  refine coupled_ite (Coupled.pure rfl) ?_
  refine Coupled.bind Eq (coupled_writeBlock options n b block.data invokeId _) ?_
  rintro written _ rfl
  exact coupled_ite (Coupled.pure rfl) (Coupled.pure rfl)

/-- By induction on the operations that are left. -/
theorem coupled_readBlocks (remaining : Nat) :
    InStep (readBlocks options remaining) (readBlocks (options.withDiagnostics n b) remaining) := by
  induction remaining with
  | zero =>
    unfold readBlocks
    refine Coupled.bind Eq coupled_stopRequested ?_
    rintro stop _ rfl
    exact coupled_ite (coupled_fail _ _) (coupled_fail _ _)
  | succ remaining ih =>
    unfold readBlocks
    refine Coupled.bind Eq coupled_stopRequested ?_
    rintro stop _ rfl
    refine coupled_ite (coupled_fail _ _) ?_
    refine Coupled.bind Eq (coupled_readBlock options n b) ?_
    rintro more _ rfl
    exact coupled_ite ih (Coupled.pure rfl)

/-- A declared size that was not transferred. -/
def sizeMismatch (options : MmsFileTransferOptions) (result : MmsFileTransferResult) : Bool :=
  decide (result.failureKind = .none) && options.requireDeclaredSizeMatch &&
    result.expectedBytes.any (· != result.bytesTransferred)

/-- The result with the verdict on the size. -/
def sizeChecked (options : MmsFileTransferOptions) (result : MmsFileTransferResult) :
    MmsFileTransferResult :=
  if sizeMismatch options result then
    result.fail .protocol "Transferred byte count does not match the advertised file size."
  else result

/-- The flush, which a failure before it leaves out. -/
def flushed (s : FileTransfer) (result : MmsFileTransferResult) :
    EStateM.Result FileThrown FileTransfer Unit :=
  if result.failureKind = .none then
    let (failed, sink) := s.client.sink.flush
    let client := { s.client with sink }
    match failed with
    | some error =>
      .ok () { s with client, result := result.fail .sink ("Local sink flush failed: " ++ error) }
    | none => .ok () { s with client := client.record .flushed, result }
  else .ok () { s with result }

theorem finish_eq (s : FileTransfer) :
    finish options s = flushed s (sizeChecked options s.result) := rfl

theorem sizeChecked_noting (result : MmsFileTransferResult) (diagnostics : List MmsFileDiagnostic) :
    sizeChecked (options.withDiagnostics n b) (result.noting diagnostics) =
      (sizeChecked options result).noting diagnostics := by
  have hmismatch : sizeMismatch (options.withDiagnostics n b) (result.noting diagnostics) =
      sizeMismatch options result := rfl
  unfold sizeChecked
  rw [hmismatch]
  cases sizeMismatch options result with
  | true => exact MmsFileTransferResult.fail_noting result diagnostics _ _
  | false => rfl

theorem coupled_finish : InStep (finish options) (finish (options.withDiagnostics n b)) := by
  rintro s t ⟨diagnostics, rfl⟩
  have hresult : (noting s diagnostics).result = s.result.noting diagnostics := rfl
  rw [finish_eq, finish_eq, hresult, sizeChecked_noting]
  generalize sizeChecked options s.result = result
  have hkind : (result.noting diagnostics).failureKind = result.failureKind := rfl
  have hclient : (noting s diagnostics).client = s.client := rfl
  unfold flushed
  rw [hkind, hclient]
  split
  · generalize s.client.sink.flush = answered
    obtain ⟨failed, sink⟩ := answered
    cases failed with
    | none => exact .ok rfl (alike_of_result _ s.frsm ⟨diagnostics, rfl⟩)
    | some error => exact .ok rfl (alike_fail _ s.frsm ⟨diagnostics, rfl⟩ _ _)
  · exact .ok rfl (alike_of_result s.client s.frsm ⟨diagnostics, rfl⟩)

/-! ## An attempt -/

theorem coupled_transferBody (normalizedPath : Bytes) (rootedBackslash : Bool) :
    InStep (transferBody options normalizedPath rootedBackslash)
      (transferBody (options.withDiagnostics n b) normalizedPath rootedBackslash) := by
  unfold transferBody
  refine Coupled.bind Eq (coupled_openFile options n b normalizedPath rootedBackslash) ?_
  rintro - - -
  refine coupled_get ?_
  rintro s t ⟨diagnostics, rfl⟩
  have hfinish := coupled_finish options n b
  exact coupled_ite (Coupled.bind Eq (coupled_readBlocks options n b _) fun _ _ _ => hfinish) hfinish

theorem alike_transfer (normalizedPath : Bytes) (rootedBackslash : Bool) {s t : FileTransfer}
    (h : Alike s t) : Alike (transfer options normalizedPath rootedBackslash s)
      (transfer (options.withDiagnostics n b) normalizedPath rootedBackslash t) := by
  have hbody := coupled_transferBody options n b normalizedPath rootedBackslash s t h
  unfold transfer
  cases hs : transferBody options normalizedPath rootedBackslash s with
  | ok a s' =>
    rw [hs] at hbody
    cases ht : transferBody (options.withDiagnostics n b) normalizedPath rootedBackslash t with
    | ok a' t' =>
      rw [ht] at hbody
      cases hbody with
      | ok _ hst => exact hst
    | error thrown t' =>
      rw [ht] at hbody
      cases hbody
  | error thrown s' =>
    rw [hs] at hbody
    cases ht : transferBody (options.withDiagnostics n b) normalizedPath rootedBackslash t with
    | ok a' t' =>
      rw [ht] at hbody
      cases hbody
    | error thrown' t' =>
      rw [ht] at hbody
      cases hbody with
      | error hthrown hst =>
        obtain ⟨diagnostics, rfl⟩ := hst
        have hwhat : thrown.what = thrown'.what := by
          cases hthrown with
          | service _ hmessage => exact hmessage
          | other what => rfl
        dsimp only
        rw [← hwhat]
        exact alike_fail s'.client s'.frsm ⟨diagnostics, rfl⟩ _ _

theorem closeFailed_sameButNotes {result result' : MmsFileTransferResult}
    (h : result.SameButNotes result') (diagnostic diagnostic' : MmsFileDiagnostic)
    (message : String) : (closeFailed options result diagnostic message).SameButNotes
      (closeFailed (options.withDiagnostics n b) result' diagnostic' message) :=
  (h.noting _ _).fail .cleanup message

theorem alike_closeExchange (frsmId : Int32) (client : FileClient)
    {result result' : MmsFileTransferResult} (h : result.SameButNotes result') :
    Alike (closeExchange options frsmId client result)
      (closeExchange (options.withDiagnostics n b) frsmId client result') := by
  unfold closeExchange
  generalize client.nextInvokeId = taken
  obtain ⟨invokeId, client⟩ := taken
  dsimp only
  cases encodeFileCloseRequestPData { invokeId, frsmId }
    client.association.presentationContextId with
  | error what =>
    exact alike_of_result client _ (closeFailed_sameButNotes options n b h _ _ _)
  | ok request =>
    dsimp only
    generalize (client.record (.closeRequested frsmId)).exchangeConfirmed request invokeId false =
      exchanged
    obtain ⟨answer, client⟩ := exchanged
    cases answer with
    | error failure =>
      exact alike_of_result client _ (closeFailed_sameButNotes options n b h _ _ _)
    | ok payload =>
      dsimp only
      cases decodeFileCloseResponse payload invokeId with
      | error diagnostic =>
        exact alike_of_result client _ (closeFailed_sameButNotes options n b h _ _ _)
      | ok closed =>
        obtain ⟨diagnostics, rfl⟩ := h
        exact ⟨_, rfl⟩

theorem alike_closeFile {s t : FileTransfer} (h : Alike s t) :
    Alike (closeFile options s) (closeFile (options.withDiagnostics n b) t) := by
  obtain ⟨diagnostics, rfl⟩ := h
  have hfrsm : (noting s diagnostics).frsm = s.frsm := rfl
  have hclient : (noting s diagnostics).client = s.client := rfl
  unfold closeFile
  rw [hfrsm, hclient]
  cases s.frsm with
  | none => exact ⟨diagnostics, rfl⟩
  | some frsmId =>
    dsimp only
    split
    · exact alike_closeExchange options n b frsmId s.client ⟨diagnostics, rfl⟩
    · exact alike_of_result s.client _
        (closeFailed_sameButNotes options n b ⟨diagnostics, rfl⟩ _ _ _)

theorem conclude_noting (s : FileTransfer) (diagnostics : List MmsFileDiagnostic) :
    conclude (noting s diagnostics) = (conclude s).noting diagnostics := by
  generalize hsuccess : (decide (s.result.failureKind = .none) &&
    (s.frsm.isNone || s.result.remoteFileClosed)) = success
  have hsuccess' : (decide ((noting s diagnostics).result.failureKind = .none) &&
      ((noting s diagnostics).frsm.isNone || (noting s diagnostics).result.remoteFileClosed)) =
        success := hsuccess
  unfold conclude
  dsimp only
  rw [hsuccess, hsuccess']
  cases success with
  | true => rfl
  | false =>
    have hmessage : (noting s diagnostics).result.message = s.result.message := rfl
    rw [if_neg Bool.false_ne_true, if_neg Bool.false_ne_true, hmessage]
    by_cases hempty : s.result.message = ""
    · rw [if_pos hempty, if_pos hempty]
      rfl
    · rw [if_neg hempty, if_neg hempty]
      rfl

/-- **Two attempts with different bounds for the diagnostics** do the same. -/
theorem coupled_downloadAttempt {b : Nat} (hbytes : options.maximumDiagnosticBytes ≠ 0)
    (hb : b ≠ 0) (normalizedPath : Bytes) (rootedBackslash : Bool) :
    Coupled Eq Eq MmsFileTransferResult.SameButNotes
      (downloadAttempt normalizedPath rootedBackslash options)
      (downloadAttempt normalizedPath rootedBackslash (options.withDiagnostics n b)) := by
  rintro client _ rfl
  unfold downloadAttempt
  cases (if rootedBackslash then rootedBackslashPath normalizedPath else .ok normalizedPath) with
  | error what => exact .error rfl rfl
  | ok remotePath =>
    dsimp only
    have hbounds : (options.maximumBytes = 0 ∨ options.maximumReadOperations = 0 ∨
        options.maximumBlockBytes = 0 ∨ options.maximumDiagnosticBytes = 0) ↔
        ((options.withDiagnostics n b).maximumBytes = 0 ∨
          (options.withDiagnostics n b).maximumReadOperations = 0 ∨
          (options.withDiagnostics n b).maximumBlockBytes = 0 ∨
          (options.withDiagnostics n b).maximumDiagnosticBytes = 0) := by
      have hb' : (options.withDiagnostics n b).maximumDiagnosticBytes = b := rfl
      simp only [hb', hb, hbytes]
      rfl
    by_cases hinvalid : options.maximumBytes = 0 ∨ options.maximumReadOperations = 0 ∨
        options.maximumBlockBytes = 0 ∨ options.maximumDiagnosticBytes = 0
    · rw [if_pos hinvalid, if_pos (hbounds.mp hinvalid)]
      exact .ok ⟨[], rfl⟩ rfl
    · rw [if_neg hinvalid, if_neg (mt hbounds.mpr hinvalid)]
      have hstart : Alike { client, result := { remotePath } } { client, result := { remotePath } } :=
        ⟨[], rfl⟩
      obtain ⟨diagnostics, hclosed⟩ := alike_closeFile options n b
        (alike_transfer options n b normalizedPath rootedBackslash hstart)
      rw [hclosed, conclude_noting]
      exact .ok ⟨diagnostics, rfl⟩ rfl

theorem coupled_download {b : Nat} (hbytes : options.maximumDiagnosticBytes ≠ 0) (hb : b ≠ 0)
    (remotePath : Bytes) :
    Coupled Eq Eq MmsFileTransferResult.SameButNotes (download remotePath options)
      (download remotePath (options.withDiagnostics n b)) := by
  rintro client _ rfl
  unfold download
  cases normalizeRemotePath remotePath with
  | error what => exact .ok ⟨[], rfl⟩ rfl
  | ok normalized =>
    exact coupled_downloadAttempt options n hbytes hb normalized false client client rfl

/-! ## Notes of a refused FileOpen -/

/-- What was noted is not that the server does not have the file. -/
def Plain (diagnostic : MmsFileDiagnostic) : Prop :=
  ¬(diagnostic.stage = "FileOpen" ∧ diagnostic.fileNonExistent = true)

def NoRefusal (s : FileTransfer) : Prop := ∀ diagnostic ∈ s.result.diagnostics, Plain diagnostic

variable {options}

theorem plain_of_kind {diagnostic : MmsFileDiagnostic}
    (h : diagnostic.failureKind ≠ .confirmedError) : Plain diagnostic := by
  rintro ⟨-, hnonexistent⟩
  unfold MmsFileDiagnostic.fileNonExistent at hnonexistent
  simp [h] at hnonexistent

theorem plain_of_stage {diagnostic : MmsFileDiagnostic} (h : diagnostic.stage ≠ "FileOpen") :
    Plain diagnostic := fun hplain => h hplain.1

theorem fileRead_ne (operations : Nat) : "FileRead #" ++ toString operations ≠ "FileOpen" := by
  intro h
  have hlist := congrArg (fun text => text.toList.take 5) h
  simp [String.toList_append] at hlist

theorem forall_plain_append {diagnostics : List MmsFileDiagnostic} {diagnostic : MmsFileDiagnostic}
    (h : ∀ noted ∈ diagnostics, Plain noted) (hplain : Plain diagnostic) :
    ∀ noted ∈ appendDiagnostic diagnostics diagnostic options, Plain noted := by
  intro noted hmem
  unfold appendDiagnostic at hmem
  dsimp only at hmem
  split at hmem
  · exact h noted hmem
  split at hmem
  · rcases List.mem_append.mp hmem with hmem | hmem
    · exact h noted hmem
    · rw [List.mem_singleton.mp hmem]
      exact hplain
  split at hmem
  · rcases List.mem_append.mp hmem with hmem | hmem
    · exact h noted (List.dropLast_subset _ hmem)
    · rw [List.mem_singleton.mp hmem]
      exact hplain
  · exact h noted hmem

theorem keeps_catchService {α : Type} {body : TransferM α}
    {handler : MmsFileDiagnostic → TransferM α} (hbody : Keeps NoRefusal body)
    (hhandler : ∀ diagnostic, Keeps NoRefusal (handler diagnostic)) :
    Keeps NoRefusal (catchService body handler) := by
  intro s hs
  have h := hbody s hs
  unfold catchService
  cases hx : body s with
  | ok a s' =>
    rw [hx] at h
    exact h
  | error thrown s' =>
    rw [hx] at h
    cases thrown with
    | service diagnostic => exact hhandler diagnostic s' h
    | other what => exact h

theorem fileFailureKind_ne (failure : MmsAssociationFailure) :
    failure.fileFailureKind ≠ .confirmedError := by
  cases failure with
  | cancelled message => exact fun h => MmsFileFailureKind.noConfusion h
  | timeout message => exact fun h => MmsFileFailureKind.noConfusion h
  | error message => exact fun h => MmsFileFailureKind.noConfusion h

theorem keeps_exchange (stage : String) (invokeId : Nat) (request : Bytes) :
    Keeps NoRefusal (exchange options stage invokeId request) := by
  intro s hs
  unfold exchange
  generalize s.client.stopRequested = stopped
  obtain ⟨stop, client⟩ := stopped
  dsimp only
  generalize client.exchangeConfirmed request invokeId stop = exchanged
  obtain ⟨answer, client⟩ := exchanged
  cases answer with
  | ok payload => exact hs
  | error failure => exact forall_plain_append hs (plain_of_kind (fileFailureKind_ne failure))

theorem keeps_handleService {stage : String} {diagnostic : MmsFileDiagnostic}
    (hplain : stage ≠ "FileOpen" ∨ diagnostic.failureKind ≠ .confirmedError)
    (frsmId : Option Int32) (request : Bytes) :
    Keeps NoRefusal (handleService options stage frsmId request diagnostic) := by
  intro s hs
  unfold handleService
  dsimp only
  unfold NoRefusal
  dsimp only
  rw [MmsFileTransferResult.diagnostics_fail]
  split
  · exact hs
  · refine forall_plain_append hs ?_
    rcases hplain with hstage | hkind
    · exact plain_of_stage hstage
    · exact plain_of_kind hkind

theorem keeps_takeOpened (opened : MmsFileOpenResponse) (invokeId : Nat)
    (request payload : Bytes) :
    Keeps NoRefusal (takeOpened options opened invokeId request payload) := by
  intro s hs
  unfold takeOpened
  dsimp only
  unfold NoRefusal
  dsimp only
  have hplain {diagnostic : MmsFileDiagnostic} (h : diagnostic.failureKind = .none) :
      Plain diagnostic := by
    refine plain_of_kind ?_
    rw [h]
    decide
  split
  · rw [MmsFileTransferResult.diagnostics_fail]
    exact forall_plain_append hs (hplain rfl)
  · exact forall_plain_append hs (hplain rfl)

theorem keeps_noteBlock (block : MmsFileReadResponse) (invokeId : Nat) (frsmId : Int32)
    (request payload : Bytes) :
    Keeps NoRefusal (noteBlock options block invokeId frsmId request payload) := by
  intro s hs
  unfold noteBlock
  dsimp only
  refine forall_plain_append ?_ (plain_of_stage (fileRead_ne _))
  split
  · rw [MmsFileTransferResult.diagnostics_fail]
    exact hs
  · exact hs

theorem keeps_writeBlock (data : Bytes) (invokeId : Nat) (frsmId : Int32) :
    Keeps NoRefusal (writeBlock options data invokeId frsmId) := by
  intro s hs
  unfold writeBlock
  by_cases hempty : data = []
  · rw [if_pos hempty]
    exact hs
  · rw [if_neg hempty]
    generalize s.client.sink.write data = written
    obtain ⟨failed, sink⟩ := written
    cases failed with
    | none => exact hs
    | some error =>
      dsimp only
      unfold NoRefusal
      dsimp only
      rw [MmsFileTransferResult.diagnostics_fail]
      exact forall_plain_append hs (plain_of_kind fun h => MmsFileFailureKind.noConfusion h)

theorem keeps_fail (failureKind : MmsFileFailureKind) (message : String) :
    Keeps NoRefusal (fail failureKind message) := by
  intro s hs
  unfold fail NoRefusal
  dsimp only
  rw [MmsFileTransferResult.diagnostics_fail]
  exact hs

theorem keeps_throwText {α : Type} (result : Except String α) :
    Keeps NoRefusal (throwText result) := by
  cases result with
  | ok a => exact Keeps.pure a
  | error message => exact Keeps.throw _

theorem keeps_throwService {α : Type} (result : Except MmsFileDiagnostic α) :
    Keeps NoRefusal (throwService result) := by
  cases result with
  | ok a => exact Keeps.pure a
  | error diagnostic => exact Keeps.throw _

theorem keeps_readBlock : Keeps NoRefusal (readBlock options) := by
  unfold readBlock
  refine Keeps.bind (fun s hs => hs) fun readOperations => ?_
  refine Keeps.get fun s => ?_
  refine Keeps.bind (fun s hs => hs) fun invokeId => ?_
  refine Keeps.bind (keeps_throwText _) fun request => ?_
  refine keeps_catchService ?_ fun diagnostic =>
    Keeps.bind (keeps_handleService (.inl (fileRead_ne readOperations)) _ request)
      fun _ => Keeps.pure false
  refine Keeps.bind (fun s hs => hs) fun _ => ?_
  refine Keeps.bind (keeps_exchange "FileRead" invokeId request) fun payload => ?_
  refine Keeps.bind (keeps_throwService _) fun block => ?_
  refine Keeps.bind (fun s hs => hs) fun _ => ?_
  refine Keeps.bind (keeps_noteBlock block invokeId _ request payload) fun _ => ?_
  refine Keeps.get fun s => ?_
  split
  · exact Keeps.pure false
  · refine Keeps.bind (keeps_writeBlock block.data invokeId _) fun written => ?_
    cases written with
    | true => exact Keeps.pure block.moreFollows
    | false => exact Keeps.pure false

theorem keeps_readBlocks (remaining : Nat) : Keeps NoRefusal (readBlocks options remaining) := by
  induction remaining with
  | zero =>
    unfold readBlocks
    refine Keeps.bind (fun s hs => hs) fun stop => ?_
    cases stop with
    | true => exact keeps_fail _ _
    | false => exact keeps_fail _ _
  | succ remaining ih =>
    unfold readBlocks
    refine Keeps.bind (fun s hs => hs) fun stop => ?_
    cases stop with
    | true => exact keeps_fail _ _
    | false =>
      refine Keeps.bind keeps_readBlock fun more => ?_
      cases more with
      | true => exact ih
      | false => exact Keeps.pure ()

theorem diagnostics_flushed {s : FileTransfer} {result : MmsFileTransferResult} :
    ∃ s', flushed s result = .ok () s' ∧ s'.result.diagnostics = result.diagnostics := by
  unfold flushed
  split
  · generalize s.client.sink.flush = answered
    obtain ⟨failed, sink⟩ := answered
    cases failed with
    | none => exact ⟨_, rfl, rfl⟩
    | some error => exact ⟨_, rfl, MmsFileTransferResult.diagnostics_fail _ _ _⟩
  · exact ⟨_, rfl, rfl⟩

theorem keeps_finish : Keeps NoRefusal (finish options) := by
  intro s hs
  obtain ⟨s', hflushed, hdiagnostics⟩ := @diagnostics_flushed s (sizeChecked options s.result)
  have hchecked : (sizeChecked options s.result).diagnostics = s.result.diagnostics := by
    unfold sizeChecked
    split
    · exact MmsFileTransferResult.diagnostics_fail _ _ _
    · rfl
  rw [finish_eq, hflushed]
  dsimp only
  unfold NoRefusal
  rw [hdiagnostics, hchecked]
  exact hs

theorem forall_plain_closeFailed {result : MmsFileTransferResult}
    (h : ∀ noted ∈ result.diagnostics, Plain noted) {diagnostic : MmsFileDiagnostic}
    (hstage : diagnostic.stage = "FileClose") (message : String) :
    ∀ noted ∈ (closeFailed options result diagnostic message).diagnostics, Plain noted := by
  have hne : diagnostic.stage ≠ "FileOpen" := by
    rw [hstage]
    decide
  unfold closeFailed
  rw [MmsFileTransferResult.diagnostics_fail]
  exact forall_plain_append h (plain_of_stage hne)

theorem noRefusal_closeExchange (frsmId : Int32) (client : FileClient)
    {result : MmsFileTransferResult} (h : ∀ noted ∈ result.diagnostics, Plain noted) :
    NoRefusal (closeExchange options frsmId client result) := by
  unfold closeExchange
  generalize client.nextInvokeId = taken
  obtain ⟨invokeId, client⟩ := taken
  dsimp only
  cases encodeFileCloseRequestPData { invokeId, frsmId }
    client.association.presentationContextId with
  | error what => exact forall_plain_closeFailed h rfl _
  | ok request =>
    dsimp only
    generalize (client.record (.closeRequested frsmId)).exchangeConfirmed request invokeId false =
      exchanged
    obtain ⟨answer, client⟩ := exchanged
    cases answer with
    | error failure => exact forall_plain_closeFailed h rfl _
    | ok payload =>
      dsimp only
      cases decodeFileCloseResponse payload invokeId with
      | error diagnostic => exact forall_plain_closeFailed h rfl _
      | ok closed =>
        exact forall_plain_append h (plain_of_stage (show "FileClose" ≠ "FileOpen" by decide))

theorem noRefusal_closeFile {s : FileTransfer} (h : NoRefusal s) :
    NoRefusal (closeFile options s) := by
  unfold closeFile
  cases s.frsm with
  | none => exact h
  | some frsmId =>
    dsimp only
    split
    · exact noRefusal_closeExchange frsmId s.client h
    · exact forall_plain_closeFailed h rfl _

theorem diagnostics_conclude (s : FileTransfer) :
    (conclude s).diagnostics = s.result.diagnostics := by
  unfold conclude
  dsimp only
  split
  · rfl
  · split
    · rfl
    · rfl

theorem hasFileNonexistentOpen_of_plain {result : MmsFileTransferResult}
    (h : ∀ diagnostic ∈ result.diagnostics, Plain diagnostic) :
    hasFileNonexistentOpen result = false := by
  unfold hasFileNonexistentOpen
  split
  · rfl
  · refine List.any_eq_false.mpr fun diagnostic hmem hrefusal => h diagnostic hmem ?_
    simpa using hrefusal

/-! ## The first request -/

/-- The answer of the server to a FileOpen request that it refuses. -/
def openRefusal (normalizedPath : Bytes) (client : FileClient) : Option MmsFileDiagnostic :=
  let (stop, client) := client.stopRequested
  if stop then none
  else
    let (invokeId, client) := client.nextInvokeId
    match encodeFileOpenRequestPData { invokeId, remotePath := normalizedPath }
        client.association.presentationContextId with
    | .error _ => none
    | .ok request =>
      let (stop, client) := (client.record (.openRequested normalizedPath false)).stopRequested
      match (client.exchangeConfirmed request invokeId stop).1 with
      | .error _ => none
      | .ok payload =>
        match decodeFileOpenResponse payload invokeId with
        | .error diagnostic => some diagnostic
        | .ok _ => none

/-- The note of a refused FileOpen request. -/
def refusalNote (options : MmsFileTransferOptions) (request : Bytes)
    (diagnostic : MmsFileDiagnostic) : MmsFileDiagnostic :=
  { diagnostic with
    stage := "FileOpen"
    frsmId := (none : Option Int32).or diagnostic.frsmId
    requestHex := hexPreview request options.maximumDiagnosticBytes }

/-- What the first step of an attempt comes to, before anything is noted. -/
inductive Opened (options : MmsFileTransferOptions) (normalizedPath : Bytes) (s : FileTransfer) :
    EStateM.Result FileThrown FileTransfer Unit → Prop where
  | refused {diagnostic : MmsFileDiagnostic} (client : FileClient) (request : Bytes) :
    openRefusal normalizedPath s.client = some diagnostic →
    Opened options normalizedPath s (.ok () { s with
      client
      result := { s.result with
        diagnostics := appendDiagnostic [] (refusalNote options request diagnostic) options }.fail
          diagnostic.failureKind diagnostic.message })
  | returned {s' : FileTransfer} :
    openRefusal normalizedPath s.client = none → NoRefusal s' →
    Opened options normalizedPath s (.ok () s')
  | thrown {s' : FileTransfer} (thrown : FileThrown) :
    openRefusal normalizedPath s.client = none → NoRefusal s' →
    Opened options normalizedPath s (.error thrown s')

/-- **The first step**, along the script of the client. -/
theorem opened_openFile (normalizedPath : Bytes) {s : FileTransfer}
    (hempty : s.result.diagnostics = []) :
    Opened options normalizedPath s (openFile options normalizedPath false s) := by
  have hs : NoRefusal s := by
    intro diagnostic hmem
    rw [hempty] at hmem
    cases hmem
  cases hstop : s.client.stopRequested with
  | mk stop client =>
  have hstopped : stopRequested s = .ok stop { s with client } := by
    unfold stopRequested
    rw [hstop]
  unfold openFile
  rw [bind_of_ok hstopped]
  cases stop with
  | true =>
    have hnone : openRefusal normalizedPath s.client = none := by
      unfold openRefusal
      rw [hstop]
      rfl
    exact .returned hnone (keeps_fail _ _ { s with client } hs)
  | false =>
    cases hnext : client.nextInvokeId with
    | mk invokeId numbered =>
    have hinvoke : nextInvokeId { s with client } = .ok invokeId { s with client := numbered } := by
      unfold nextInvokeId
      dsimp only
      rw [hnext]
    rw [if_neg Bool.false_ne_true, bind_of_ok hinvoke, get_bind]
    have hrefusal : openRefusal normalizedPath s.client =
        match encodeFileOpenRequestPData { invokeId, remotePath := normalizedPath }
            numbered.association.presentationContextId with
        | .error _ => none
        | .ok request =>
          let (stop, client) := (numbered.record (.openRequested normalizedPath false)).stopRequested
          match (client.exchangeConfirmed request invokeId stop).1 with
          | .error _ => none
          | .ok payload =>
            match decodeFileOpenResponse payload invokeId with
            | .error diagnostic => some diagnostic
            | .ok _ => none := by
      rw [openRefusal, hstop]
      dsimp only
      rw [if_neg Bool.false_ne_true, hnext]
    dsimp only
    cases hencode : encodeFileOpenRequestPData { invokeId, remotePath := normalizedPath }
        numbered.association.presentationContextId with
    | error what =>
      rw [hencode] at hrefusal
      exact .thrown _ hrefusal hs
    | ok request =>
      rw [hencode] at hrefusal
      dsimp only at hrefusal
      have hrequest : throwText (.ok request) { s with client := numbered } =
          .ok request { s with client := numbered } := rfl
      have hrecord : record (.openRequested normalizedPath false) { s with client := numbered } =
          .ok () { s with client := numbered.record (.openRequested normalizedPath false) } := rfl
      rw [bind_of_ok hrequest]
      unfold catchService
      rw [bind_of_ok hrecord]
      generalize numbered.record (.openRequested normalizedPath false) = recorded at hrefusal ⊢
      cases hpolled : recorded.stopRequested with
      | mk stopped polled =>
      cases hexchanged : polled.exchangeConfirmed request invokeId stopped with
      | mk answer answered =>
      rw [hpolled] at hrefusal
      dsimp only at hrefusal
      rw [hexchanged] at hrefusal
      cases answer with
      | error failure =>
        have hexchange : ∃ s' diagnostic, exchange options "FileOpen" invokeId request
            { s with client := recorded } = .error (.service diagnostic) s' ∧ NoRefusal s' ∧
              diagnostic.failureKind ≠ .confirmedError := by
          unfold exchange
          dsimp only
          rw [hpolled]
          dsimp only
          rw [hexchanged]
          exact ⟨_, _, rfl, forall_plain_append hs (plain_of_kind (fileFailureKind_ne failure)),
            fileFailureKind_ne failure⟩
        obtain ⟨s', diagnostic, hexchange, hs', hkind⟩ := hexchange
        rw [bind_of_error hexchange]
        exact .returned hrefusal (keeps_handleService (.inr hkind) none request s' hs')
      | ok payload =>
        have hexchange : exchange options "FileOpen" invokeId request { s with client := recorded } =
            .ok payload { s with client := answered } := by
          unfold exchange
          dsimp only
          rw [hpolled]
          dsimp only
          rw [hexchanged]
        rw [bind_of_ok hexchange]
        dsimp only at hrefusal
        cases hdecode : decodeFileOpenResponse payload invokeId with
        | error diagnostic =>
          rw [hdecode] at hrefusal
          have hthrow : throwService (α := MmsFileOpenResponse) (.error diagnostic)
              { s with client := answered } = .error (.service diagnostic)
                { s with client := answered } := rfl
          have hhandled : handleService options "FileOpen" none request diagnostic
              { s with client := answered } =
              .ok () { s with
                client := answered
                result := { s.result with
                  diagnostics := appendDiagnostic [] (refusalNote options request diagnostic)
                    options }.fail diagnostic.failureKind diagnostic.message } := by
            unfold handleService
            dsimp only
            rw [hempty]
            rfl
          rw [bind_of_error hthrow]
          dsimp only
          rw [hhandled]
          exact .refused answered request hrefusal
        | ok opened =>
          rw [hdecode] at hrefusal
          exact .returned hrefusal (keeps_takeOpened opened invokeId request payload
            { s with client := answered.record (.opened opened.frsmId opened.fileSizeBytes) } hs)

/-- The server answers the FileOpen request of the first attempt with the error that it does not
have the file. -/
def refusedAsNonexistent (remotePath : Bytes) (options : MmsFileTransferOptions)
    (client : FileClient) : Bool :=
  decide (options.maximumBytes ≠ 0 ∧ options.maximumReadOperations ≠ 0 ∧
    options.maximumBlockBytes ≠ 0) &&
  match normalizeRemotePath remotePath with
  | .error _ => false
  | .ok normalized => (openRefusal normalized client).any MmsFileDiagnostic.fileNonExistent

/-- After a refused FileOpen nothing else is done. -/
theorem transfer_refused {normalizedPath : Bytes} {s : FileTransfer} {client : FileClient}
    {result : MmsFileTransferResult} (hkind : result.failureKind ≠ .none)
    (h : openFile options normalizedPath false s = .ok () { s with client, result }) :
    transfer options normalizedPath false s = { s with client, result } := by
  have hfinish : finish options { s with client, result } = .ok () { s with client, result } := by
    have hmismatch : sizeMismatch options result = false := by
      unfold sizeMismatch
      rw [decide_eq_false hkind]
      rfl
    rw [finish_eq, sizeChecked, hmismatch, if_neg Bool.false_ne_true, flushed, if_neg hkind]
  unfold transfer transferBody
  rw [bind_of_ok h, get_bind]
  dsimp only
  rw [if_neg hkind, hfinish]

/-- The steps behind the first one note no refusal. -/
theorem noRefusal_transfer {normalizedPath : Bytes} {s : FileTransfer}
    (h : ∀ s', openFile options normalizedPath false s = .ok () s' → NoRefusal s')
    (herror : ∀ thrown s', openFile options normalizedPath false s = .error thrown s' →
      NoRefusal s') : NoRefusal (transfer options normalizedPath false s) := by
  have hcaught {s' : FileTransfer} (message : String) (hs' : NoRefusal s') :
      NoRefusal { s' with result := s'.result.fail .transport message } := by
    unfold NoRefusal
    dsimp only
    rw [MmsFileTransferResult.diagnostics_fail]
    exact hs'
  unfold transfer transferBody
  cases hopen : openFile options normalizedPath false s with
  | error thrown s' =>
    rw [bind_of_error hopen]
    exact hcaught _ (herror thrown s' hopen)
  | ok _ s' =>
    rw [bind_of_ok hopen, get_bind]
    dsimp only
    have hrest : Keeps NoRefusal (if s'.result.failureKind = .none then
        readBlocks options options.maximumReadOperations >>= fun _ => finish options
        else finish options) := by
      split
      · exact Keeps.bind (keeps_readBlocks _) fun _ => keeps_finish
      · exact keeps_finish
    have hafter := hrest s' (h s' hopen)
    generalize (if s'.result.failureKind = .none then
      readBlocks options options.maximumReadOperations >>= fun _ => finish options
      else finish options) s' = returned at hafter ⊢
    cases returned with
    | ok _ s'' => exact hafter
    | error thrown s'' => exact hcaught _ hafter

theorem hasFileNonexistentOpen_conclude {s : FileTransfer} (hkind : s.result.failureKind ≠ .none)
    (hbytes : s.result.bytesTransferred = 0) (hreads : s.result.readOperations = 0) :
    hasFileNonexistentOpen (conclude s) = s.result.diagnostics.any fun diagnostic =>
      diagnostic.stage == "FileOpen" && diagnostic.fileNonExistent := by
  have hfailed : (decide (s.result.failureKind = .none) &&
      (s.frsm.isNone || s.result.remoteFileClosed)) = false := by
    rw [decide_eq_false hkind]
    rfl
  have hfields : (conclude s).success = false ∧ (conclude s).bytesTransferred = 0 ∧
      (conclude s).readOperations = 0 := by
    unfold conclude
    dsimp only
    rw [hfailed, if_neg Bool.false_ne_true]
    split
    · exact ⟨rfl, hbytes, hreads⟩
    · exact ⟨rfl, hbytes, hreads⟩
  unfold hasFileNonexistentOpen
  rw [if_neg (by simp [hfields]), diagnostics_conclude]

/-- The first attempt, when the server does not have the file. -/
theorem transfer_nonexistent {normalizedPath : Bytes} (remotePath : Bytes) {client : FileClient}
    (h : (openRefusal normalizedPath client).any MmsFileDiagnostic.fileNonExistent = true) :
    ∃ answered request diagnostic, diagnostic.fileNonExistent = true ∧
      transfer options normalizedPath false { client, result := { remotePath } } =
        { client := answered
          result :=
            { remotePath
              diagnostics := appendDiagnostic [] (refusalNote options request diagnostic) options
              failureKind := .confirmedError
              message := diagnostic.message } } := by
  have hopened := @opened_openFile options normalizedPath { client, result := { remotePath } } rfl
  generalize hrun : openFile options normalizedPath false { client, result := { remotePath } } =
    returned at hopened
  have hsome {none' : Prop} (hnone : openRefusal normalizedPath client = none) : none' := by
    rw [hnone] at h
    cases h
  cases hopened with
  | returned hnone hs' => exact hsome hnone
  | thrown what hnone hs' => exact hsome hnone
  | @refused diagnostic answered request hrefusal =>
    rw [hrefusal] at h
    have hnonexistent : diagnostic.fileNonExistent = true := h
    have hkind : diagnostic.failureKind = .confirmedError := by
      unfold MmsFileDiagnostic.fileNonExistent at hnonexistent
      simp only [Bool.and_eq_true, beq_iff_eq] at hnonexistent
      exact hnonexistent.1.1
    have hfailed : ({ remotePath
                      diagnostics := appendDiagnostic []
                        (refusalNote options request diagnostic) options } :
          MmsFileTransferResult).fail diagnostic.failureKind diagnostic.message =
        { remotePath
          diagnostics := appendDiagnostic [] (refusalNote options request diagnostic) options
          failureKind := .confirmedError
          message := diagnostic.message } := by
      rw [hkind]
      rfl
    dsimp only at hrun
    rw [hfailed] at hrun
    exact ⟨answered, request, diagnostic, hnonexistent,
      transfer_refused (fun h => MmsFileFailureKind.noConfusion h) hrun⟩

/-- Otherwise nothing that is noted says so. -/
theorem noRefusal_attempt {normalizedPath : Bytes} (remotePath : Bytes) {client : FileClient}
    (h : (openRefusal normalizedPath client).any MmsFileDiagnostic.fileNonExistent = false) :
    NoRefusal (transfer options normalizedPath false { client, result := { remotePath } }) := by
  have hopened := @opened_openFile options normalizedPath { client, result := { remotePath } } rfl
  generalize hrun : openFile options normalizedPath false { client, result := { remotePath } } =
    returned at hopened
  refine noRefusal_transfer (fun s' hok => ?_) (fun thrown s' herror => ?_)
  · rw [hrun] at hok
    cases hopened with
    | returned hnone hs' =>
      cases hok
      exact hs'
    | thrown what hnone hs' => cases hok
    | @refused diagnostic answered request hrefusal =>
      cases hok
      unfold NoRefusal
      dsimp only
      rw [MmsFileTransferResult.diagnostics_fail]
      rw [hrefusal] at h
      have hexistent : diagnostic.fileNonExistent = false := h
      refine forall_plain_append (fun noted hmem => ?_) fun hrefused => ?_
      · cases hmem
      · have hnonexistent : diagnostic.fileNonExistent = true := hrefused.2
        rw [hexistent] at hnonexistent
        cases hnonexistent
  · rw [hrun] at herror
    cases hopened with
    | returned hnone hs' => cases herror
    | thrown what hnone hs' =>
      cases herror
      exact hs'
    | refused answered request hrefusal => cases herror

/-- **When the second attempt is made.** -/
theorem hasFileNonexistentOpen_attempt (normalizedPath remotePath : Bytes) (client : FileClient) :
    hasFileNonexistentOpen (conclude (closeFile options
        (transfer options normalizedPath false { client, result := { remotePath } }))) =
      (decide (options.maximumDiagnostics ≠ 0) &&
        (openRefusal normalizedPath client).any MmsFileDiagnostic.fileNonExistent) := by
  cases hrefused : (openRefusal normalizedPath client).any MmsFileDiagnostic.fileNonExistent with
  | false =>
    rw [Bool.and_false]
    refine hasFileNonexistentOpen_of_plain ?_
    rw [diagnostics_conclude]
    exact noRefusal_closeFile (noRefusal_attempt remotePath hrefused)
  | true =>
    obtain ⟨answered, request, diagnostic, hnonexistent, htransfer⟩ :=
      @transfer_nonexistent options normalizedPath remotePath client hrefused
    rw [htransfer, Bool.and_true]
    refine (hasFileNonexistentOpen_conclude (fun h => MmsFileFailureKind.noConfusion h) rfl
      rfl).trans ?_
    show (appendDiagnostic [] (refusalNote options request diagnostic) options).any _ = _
    unfold appendDiagnostic
    dsimp only
    by_cases hzero : options.maximumDiagnostics = 0
    · rw [if_pos hzero, hzero]
      rfl
    · have hroom : ([] : List MmsFileDiagnostic).length < options.maximumDiagnostics :=
        Nat.pos_of_ne_zero hzero
      rw [if_neg hzero, if_pos hroom, decide_eq_true hzero]
      show (true && diagnostic.fileNonExistent || false) = true
      rw [hnonexistent]
      rfl

theorem hasFileNonexistentOpen_download (hbytes : options.maximumDiagnosticBytes ≠ 0)
    {remotePath : Bytes} {client client' : FileClient} {result : MmsFileTransferResult}
    (h : download remotePath options client = .ok result client') :
    hasFileNonexistentOpen result = (decide (options.maximumDiagnostics ≠ 0) &&
      refusedAsNonexistent remotePath options client) := by
  unfold download at h
  unfold refusedAsNonexistent
  cases hnormalized : normalizeRemotePath remotePath with
  | error what =>
    rw [hnormalized] at h
    cases h
    rw [Bool.and_false, Bool.and_false]
    rfl
  | ok normalized =>
    rw [hnormalized] at h
    dsimp only at h ⊢
    unfold downloadAttempt at h
    rw [if_neg Bool.false_ne_true] at h
    dsimp only at h
    by_cases hinvalid : options.maximumBytes = 0 ∨ options.maximumReadOperations = 0 ∨
        options.maximumBlockBytes = 0 ∨ options.maximumDiagnosticBytes = 0
    · rw [if_pos hinvalid] at h
      cases h
      have hfalse : decide (options.maximumBytes ≠ 0 ∧ options.maximumReadOperations ≠ 0 ∧
          options.maximumBlockBytes ≠ 0) = false := by
        refine decide_eq_false ?_
        rintro ⟨hmaximum, hreads, hblock⟩
        rcases hinvalid with h | h | h | h
        · exact hmaximum h
        · exact hreads h
        · exact hblock h
        · exact hbytes h
      rw [hfalse, Bool.false_and, Bool.and_false]
      rfl
    · rw [if_neg hinvalid] at h
      cases h
      rw [hasFileNonexistentOpen_attempt]
      have htrue : decide (options.maximumBytes ≠ 0 ∧ options.maximumReadOperations ≠ 0 ∧
          options.maximumBlockBytes ≠ 0) = true := by
        simp only [not_or] at hinvalid
        exact decide_eq_true ⟨hinvalid.1, hinvalid.2.1, hinvalid.2.2.1⟩
      rw [htrue, Bool.true_and]

/-! ## Two downloads -/

/-- What a caller sees of a transfer, besides the diagnostics. -/
structure Observed where
  success : Bool
  failureKind : MmsFileFailureKind
  bytesTransferred : Nat
  readOperations : Nat
  adaptiveFallbackAttempted : Bool
  adaptiveFallbackSucceeded : Bool
  deriving DecidableEq

def observed (result : MmsFileTransferResult) : Observed where
  success := result.success
  failureKind := result.failureKind
  bytesTransferred := result.bytesTransferred
  readOperations := result.readOperations
  adaptiveFallbackAttempted := result.adaptiveFallbackAttempted
  adaptiveFallbackSucceeded := result.adaptiveFallbackSucceeded

/-- The same requests and the same content of the sink, which the clients have, and the same for the
caller to see. -/
def SameTransfer (returned returned' : EStateM.Result String FileClient MmsFileTransferResult) :
    Prop :=
  Together Eq Eq (fun result result' => observed result = observed result') returned returned'

/-- The bounds of the diagnostics make no difference to a download and to an adaptive one. -/
def Uninfluenced (remotePath : Bytes) (client : FileClient)
    (options options' : MmsFileTransferOptions) : Prop :=
  SameTransfer (download remotePath options client) (download remotePath options' client) ∧
    SameTransfer (downloadAdaptive remotePath options client)
      (downloadAdaptive remotePath options' client)

/-- What is seen of a first attempt, when the server does not have the file. -/
theorem download_nonexistent (hbytes : options.maximumDiagnosticBytes ≠ 0) {remotePath : Bytes}
    {client : FileClient} (h : refusedAsNonexistent remotePath options client = true) :
    ∃ result client', download remotePath options client = .ok result client' ∧
      (observed result).failureKind = .confirmedError ∧
      (observed result).adaptiveFallbackAttempted = false := by
  unfold refusedAsNonexistent at h
  rw [Bool.and_eq_true, decide_eq_true_eq] at h
  obtain ⟨⟨hmaximum, hreads, hblock⟩, h⟩ := h
  unfold download
  cases hnormalized : normalizeRemotePath remotePath with
  | error what =>
    rw [hnormalized] at h
    cases h
  | ok normalized =>
    rw [hnormalized] at h
    obtain ⟨answered, request, diagnostic, -, htransfer⟩ :=
      @transfer_nonexistent options normalized normalized client h
    have hvalid : ¬(options.maximumBytes = 0 ∨ options.maximumReadOperations = 0 ∨
        options.maximumBlockBytes = 0 ∨ options.maximumDiagnosticBytes = 0) := by
      simp only [not_or]
      exact ⟨hmaximum, hreads, hblock, hbytes⟩
    dsimp only
    unfold downloadAttempt
    rw [if_neg Bool.false_ne_true]
    dsimp only
    rw [if_neg hvalid, htransfer]
    refine ⟨_, _, rfl, ?_⟩
    unfold closeFile conclude observed
    dsimp only
    split
    · exact ⟨rfl, rfl⟩
    · split
      · exact ⟨rfl, rfl⟩
      · exact ⟨rfl, rfl⟩

/-- The second attempt of an adaptive download. -/
def secondAttempt (remotePath : Bytes) (options : MmsFileTransferOptions)
    (primary : MmsFileTransferResult) : FileClientM MmsFileTransferResult := do
  let client ← get
  let (failed, sink) := client.sink.reset
  set { client with sink }
  match failed with
  | some resetError =>
    pure { primary with
      failureKind := .sink
      message := primary.message ++
        " Rooted-backslash retry was skipped because the sink could not reset: " ++ resetError
      diagnostics := appendDiagnostic primary.diagnostics
        { stage := "Adaptive sink reset", failureKind := .sink, message := resetError } options }
  | none =>
    match normalizeRemotePath remotePath with
    | .error what => throw what
    | .ok normalized =>
      let fallback ← downloadAttempt normalized true options
      pure (fallbackResult options primary fallback)

/-- An adaptive download behind its first attempt. -/
def afterFirst (remotePath : Bytes) (options : MmsFileTransferOptions)
    (primary : MmsFileTransferResult) : FileClientM MmsFileTransferResult :=
  let primary := { primary with primaryAttemptDiagnostics := primary.diagnostics }
  if !hasFileNonexistentOpen primary then pure primary
  else secondAttempt remotePath options primary

theorem downloadAdaptive_eq (remotePath : Bytes) :
    downloadAdaptive remotePath options =
      download remotePath options >>= afterFirst remotePath options := rfl

theorem afterFirst_of_made {remotePath : Bytes} {primary : MmsFileTransferResult}
    (h : hasFileNonexistentOpen primary = true) :
    afterFirst remotePath options primary = secondAttempt remotePath options
      { primary with primaryAttemptDiagnostics := primary.diagnostics } := by
  have hmade : hasFileNonexistentOpen { primary with
      primaryAttemptDiagnostics := primary.diagnostics } = true := h
  unfold afterFirst
  dsimp only
  rw [hmade]
  rfl

theorem afterFirst_of_not_made {remotePath : Bytes} {primary : MmsFileTransferResult}
    (h : hasFileNonexistentOpen primary = false) :
    afterFirst remotePath options primary =
      pure { primary with primaryAttemptDiagnostics := primary.diagnostics } := by
  have hmade : hasFileNonexistentOpen { primary with
      primaryAttemptDiagnostics := primary.diagnostics } = false := h
  unfold afterFirst
  dsimp only
  rw [hmade]
  rfl

/-- What is seen of an adaptive download whose second attempt is made is not what is seen of its
first attempt alone. -/
theorem secondAttempt_seen (remotePath : Bytes) (primary : MmsFileTransferResult)
    {client client' : FileClient} {result : MmsFileTransferResult}
    (h : secondAttempt remotePath options primary client = .ok result client') :
    (observed result).failureKind = .sink ∨
      (observed result).adaptiveFallbackAttempted = true := by
  have hrun := get_bind_ok h
  cases hreset : client.sink.reset with
  | mk failed sink =>
  rw [hreset] at hrun
  dsimp only at hrun
  have hset := set_bind_ok hrun
  cases failed with
  | some resetError =>
    obtain ⟨rfl, -⟩ := pure_ok hset
    exact .inl rfl
  | none =>
    dsimp only at hset
    cases hnormalized : normalizeRemotePath remotePath with
    | error what =>
      rw [hnormalized] at hset
      cases hset
    | ok normalized =>
      rw [hnormalized] at hset
      obtain ⟨fallback, _, _, hpure⟩ := bind_ok hset
      obtain ⟨rfl, -⟩ := pure_ok hpure
      exact .inr rfl

theorem SameTransfer.symm {returned returned' : EStateM.Result String FileClient
    MmsFileTransferResult} (h : SameTransfer returned returned') :
    SameTransfer returned' returned := by
  cases h with
  | ok hsame hclient => exact .ok hsame.symm hclient.symm
  | error hwhat hclient => exact .error hwhat.symm hclient.symm

theorem ne_secondAttempt {remotePath : Bytes} {primary result : MmsFileTransferResult}
    {client client' : FileClient} (hkind : (observed result).failureKind = .confirmedError)
    (hattempted : (observed result).adaptiveFallbackAttempted = false) :
    ¬SameTransfer (.ok result client) (secondAttempt remotePath options primary client') := by
  intro hsame
  cases hsecond : secondAttempt remotePath options primary client' with
  | error what client'' =>
    rw [hsecond] at hsame
    cases hsame
  | ok second client'' =>
    rw [hsecond] at hsame
    cases hsame with
    | ok hseen hclient =>
      rcases secondAttempt_seen remotePath primary hsecond with hsink | hmade
      · rw [← hseen, hkind] at hsink
        cases hsink
      · rw [← hseen, hattempted] at hmade
        cases hmade

theorem coupled_secondAttempt {b : Nat} (hbytes : options.maximumDiagnosticBytes ≠ 0) (hb : b ≠ 0)
    (remotePath : Bytes) {primary primary' : MmsFileTransferResult}
    (hsame : observed primary = observed primary') :
    Coupled Eq Eq (fun result result' => observed result = observed result')
      (secondAttempt remotePath options primary)
      (secondAttempt remotePath (options.withDiagnostics n b) primary') := by
  unfold secondAttempt
  refine Coupled.bind Eq Coupled.get ?_
  rintro client _ rfl
  cases client.sink.reset with
  | mk failed sink =>
  dsimp only
  refine Coupled.bind Eq (fun _ _ _ => .ok rfl rfl) ?_
  rintro - - -
  cases failed with
  | some resetError =>
    refine Coupled.pure ?_
    simp only [observed, Observed.mk.injEq] at hsame ⊢
    exact ⟨hsame.1, trivial, hsame.2.2⟩
  | none =>
    dsimp only
    cases normalizeRemotePath remotePath with
    | error what => exact Coupled.throw rfl
    | ok normalized =>
      refine Coupled.bind _ (coupled_downloadAttempt options n hbytes hb normalized true) ?_
      rintro fallback _ ⟨diagnostics, rfl⟩
      exact Coupled.pure rfl

section Bounds

variable {n b : Nat} (hbytes : options.maximumDiagnosticBytes ≠ 0) (hb : b ≠ 0)
  (remotePath : Bytes) (client : FileClient)

include hbytes hb

/-- The second attempt is made in both runs or in neither. -/
theorem sameTransfer_adaptive
    (hagree : (options.maximumDiagnostics = 0 ↔ n = 0) ∨
      refusedAsNonexistent remotePath options client = false) :
    SameTransfer (downloadAdaptive remotePath options client)
      (downloadAdaptive remotePath (options.withDiagnostics n b) client) := by
  have hfirst := coupled_download options n hbytes hb remotePath client client rfl
  rw [downloadAdaptive_eq, downloadAdaptive_eq]
  cases hdownload : download remotePath options client with
  | error what client' =>
    rw [hdownload] at hfirst
    cases hdownload' : download remotePath (options.withDiagnostics n b) client with
    | ok result' client'' =>
      rw [hdownload'] at hfirst
      cases hfirst
    | error what' client'' =>
      rw [hdownload'] at hfirst
      rw [bind_of_error hdownload, bind_of_error hdownload']
      cases hfirst with
      | error hwhat hclient => exact .error hwhat hclient
  | ok result client' =>
    rw [hdownload] at hfirst
    cases hdownload' : download remotePath (options.withDiagnostics n b) client with
    | error what' client'' =>
      rw [hdownload'] at hfirst
      cases hfirst
    | ok result' client'' =>
      rw [hdownload'] at hfirst
      cases hfirst with
      | ok hresult hclient =>
        obtain ⟨diagnostics, rfl⟩ := hresult
        have hmade := hasFileNonexistentOpen_download hbytes hdownload
        have hmade' := @hasFileNonexistentOpen_download (options.withDiagnostics n b) hb _ _ _ _
          hdownload'
        have hrefused : refusedAsNonexistent remotePath (options.withDiagnostics n b) client =
            refusedAsNonexistent remotePath options client := rfl
        have hzero : (options.withDiagnostics n b).maximumDiagnostics = n := rfl
        rw [hrefused, hzero] at hmade'
        have hboth : hasFileNonexistentOpen (result.noting diagnostics) =
            hasFileNonexistentOpen result := by
          rw [hmade, hmade']
          rcases hagree with hiff | hfalse
          · have hne : (n ≠ 0) = (options.maximumDiagnostics ≠ 0) := by
              rw [ne_eq, ne_eq, hiff]
            simp only [hne]
          · rw [hfalse, Bool.and_false, Bool.and_false]
        rw [bind_of_ok hdownload, bind_of_ok hdownload', ← hclient]
        cases hfound : hasFileNonexistentOpen result with
        | false =>
          rw [afterFirst_of_not_made hfound, afterFirst_of_not_made (hboth.trans hfound)]
          exact .ok rfl rfl
        | true =>
          rw [afterFirst_of_made hfound, afterFirst_of_made (hboth.trans hfound)]
          have hseen : observed { result with primaryAttemptDiagnostics := result.diagnostics } =
              observed { result.noting diagnostics with
                primaryAttemptDiagnostics := (result.noting diagnostics).diagnostics } := rfl
          exact coupled_secondAttempt n hbytes hb remotePath hseen client' client' rfl

/-- The bound is zero in one run only, and only the other one makes the second attempt. -/
theorem not_sameTransfer_adaptive
    (hdiffer : ¬(options.maximumDiagnostics = 0 ↔ n = 0))
    (hrefused : refusedAsNonexistent remotePath options client = true) :
    ¬SameTransfer (downloadAdaptive remotePath options client)
      (downloadAdaptive remotePath (options.withDiagnostics n b) client) := by
  obtain ⟨result, client', hdownload, hkind, hattempted⟩ := download_nonexistent hbytes hrefused
  obtain ⟨result', client'', hdownload', hkind', hattempted'⟩ :=
    @download_nonexistent (options.withDiagnostics n b) hb remotePath client hrefused
  have hmade := hasFileNonexistentOpen_download hbytes hdownload
  have hmade' := @hasFileNonexistentOpen_download (options.withDiagnostics n b) hb _ _ _ _
    hdownload'
  have hrefused' : refusedAsNonexistent remotePath (options.withDiagnostics n b) client = true :=
    hrefused
  have hbound : (options.withDiagnostics n b).maximumDiagnostics = n := rfl
  rw [hrefused, Bool.and_true] at hmade
  rw [hrefused', Bool.and_true, hbound] at hmade'
  rw [downloadAdaptive_eq, downloadAdaptive_eq, bind_of_ok hdownload, bind_of_ok hdownload']
  by_cases hzero : options.maximumDiagnostics = 0
  · have hpositive : n ≠ 0 := fun hn => hdiffer ⟨fun _ => hn, fun _ => hzero⟩
    rw [decide_eq_false (not_not_intro hzero)] at hmade
    rw [decide_eq_true hpositive] at hmade'
    rw [afterFirst_of_not_made hmade, afterFirst_of_made hmade']
    have hseen : (observed { result with
        primaryAttemptDiagnostics := result.diagnostics }).failureKind = .confirmedError := hkind
    exact ne_secondAttempt hseen hattempted
  · have hnone : n = 0 := by
      by_contra hn
      exact hdiffer ⟨fun h => absurd h hzero, fun h => absurd h hn⟩
    rw [decide_eq_true hzero] at hmade
    rw [decide_eq_false (not_not_intro hnone)] at hmade'
    rw [afterFirst_of_made hmade, afterFirst_of_not_made hmade']
    have hseen : (observed { result' with
        primaryAttemptDiagnostics := result'.diagnostics }).failureKind = .confirmedError := hkind'
    exact fun hsame => ne_secondAttempt hseen hattempted' hsame.symm

/-- **When the bounds of the diagnostics make no difference**: none are kept in both runs or in
neither, or the server does not refuse the first FileOpen because it does not have the file. -/
theorem uninfluenced_iff :
    Uninfluenced remotePath client options (options.withDiagnostics n b) ↔
      (options.maximumDiagnostics = 0 ↔ n = 0) ∨
        refusedAsNonexistent remotePath options client = false := by
  constructor
  · rintro ⟨-, hadaptive⟩
    by_contra hneither
    obtain ⟨hdiffer, hrefused⟩ := not_or.mp hneither
    exact not_sameTransfer_adaptive hbytes hb remotePath client hdiffer
      (Bool.of_not_eq_false hrefused) hadaptive
  · intro hagree
    refine ⟨?_, sameTransfer_adaptive hbytes hb remotePath client hagree⟩
    have hfirst := coupled_download options n hbytes hb remotePath client client rfl
    unfold SameTransfer
    refine hfirst.mono (fun result result' hresult => ?_)
    obtain ⟨diagnostics, rfl⟩ := hresult
    rfl

end Bounds

theorem uninfluenced_inactive :
    Uninfluenced [0x61] {} {} (MmsFileTransferOptions.withDiagnostics {} 0 1) :=
  (uninfluenced_iff (by decide) (by decide) [0x61] {}).mpr (.inr (by decide))

/-- A server that answers the FileOpen request with error class 11, value 7. -/
def absentClient : FileClient where
  association :=
    { state := .associated
      transportConnected := true
      script := { receives := [.ok [0xA2, 10, 0x80, 1, 1, 0xA2, 5, 0xA0, 3, 0x8B, 1, 7]] } }

/-- Where no diagnostics are kept, the second attempt is not made. -/
theorem not_uninfluenced :
    ¬Uninfluenced [0x61] absentClient {} (MmsFileTransferOptions.withDiagnostics {} 0 512) := by
  have hbytes : ({} : MmsFileTransferOptions).maximumDiagnosticBytes ≠ 0 := by decide
  have hdiffer : ¬(({} : MmsFileTransferOptions).maximumDiagnostics = 0 ↔ 0 = 0) := by decide
  have hrefused : refusedAsNonexistent [0x61] {} absentClient = true := by decide
  exact fun h => not_sameTransfer_adaptive hbytes hbytes [0x61] absentClient hdiffer hrefused h.2

end MmsFileTransferRuntime

end ArStack.Mms
