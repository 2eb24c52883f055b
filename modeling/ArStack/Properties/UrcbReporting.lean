import ArStack.Lib.Run
import ArStack.Spec.UrcbRuntime

/-!
# What a URCB reports

A run remembers the accepted notifications until a committed report or a disable settles them.
The masks of a control block summarize the outstanding ones, so a report that is encoded has
exactly these, and the revision keeps a plan from being committed for another state.

* `UrcbRun.step` — the operations and the polls, with what is remembered of them
* `UrcbInv` — the invariant
* `urcb_reporting` — idle blocks, every accepted reason in one report, SqNum and retries
-/

namespace ArStack.Mms

open ArStack.Lib ArStack.Wire

open MmsStaticUrcbRuntime MmsStaticReportConnection

/-! ## Runs -/

/-- An accepted notification: a member of a control block and the bit of the reason. -/
structure Notification where
  block : Nat
  member : Nat
  bit : UInt8
  deriving DecidableEq

/-- The reasons of a member among the notifications. -/
def reasons (notifications : List Notification) (block member : Nat) : UInt8 :=
  marks (fun n => (n.block, n.member)) Notification.bit notifications (block, member)

/-- A report that was encoded, with the operations and the initializations before it. -/
structure Encoding where
  plan : MmsStaticUrcbEmissionPlan
  bytes : Bytes
  operations : Nat
  starts : Nat
  deriving DecidableEq

/-- A report that was committed, with the notifications that the commit has settled. -/
structure CommittedReport where
  plan : MmsStaticUrcbEmissionPlan
  bytes : Bytes
  settled : List Notification
  deriving DecidableEq

structure UrcbRun where
  runtime : MmsStaticUrcbRuntime
  operations : Nat := 0
  starts : Nat := 0
  encodings : List Encoding := []
  accepted : List Notification := []
  outstanding : List Notification := []
  discarded : List Notification := []
  committed : List CommittedReport := []
  /-- The SqNums of a control block's reports since it was last enabled. -/
  sequence : Nat → List UInt8 := fun _ => []

/-- What an attribute write can set besides the enable flag. -/
inductive UrcbSetting where
  | reserved (reserved : Bool)
  | reportId (reportId : Bytes)
  | dataSet (domain item : Bytes)
  | optionalFields (optionalFields : Bytes)
  | bufferTimeMs (bufferTimeMs : UInt32)
  | triggerOptions (triggerOptions : UInt8)
  | integrityPeriodMs (integrityPeriodMs : UInt32)
  | generalInterrogation

inductive UrcbOperation where
  | restart
  | setEnabled (index : Nat) (enabled : Bool) (nowMs : UInt64)
  | set (index : Nat) (setting : UrcbSetting)
  | notify (index member : Nat) (reason : MmsStaticUrcbEventReason) (nowMs : UInt64)
  | encode (plan : MmsStaticUrcbEmissionPlan) (reportTime : Bytes)
      (destinationSize workspaceSize : Nat) (reads : ReadCallbacks)
  /-- Commit the plan of an encoding. -/
  | commit (encoding : Nat) (nowMs : UInt64)
  | poll (connection : MmsStaticConnectionRuntime) (nowMs : UInt64) (reportTime : Bytes)
      (responseSize workspaceSize : Nat) (reads : ReadCallbacks)

def MmsStaticUrcbRuntime.applySetting (rt : MmsStaticUrcbRuntime) (index : Nat) :
    UrcbSetting → MmsStaticUrcbStatus × MmsStaticUrcbRuntime
  | .reserved reserved => rt.setReserved index reserved
  | .reportId reportId => rt.setReportId index reportId
  | .dataSet domain item => rt.setDataSet index domain item
  | .optionalFields optionalFields => rt.setOptionalFields index optionalFields
  | .bufferTimeMs bufferTimeMs => rt.setBufferTimeMs index bufferTimeMs
  | .triggerOptions triggerOptions => rt.setTriggerOptions index triggerOptions
  | .integrityPeriodMs integrityPeriodMs => rt.setIntegrityPeriodMs index integrityPeriodMs
  | .generalInterrogation => rt.requestGeneralInterrogation index

namespace UrcbRun

/-- The run before its first operation. -/
def start (definitions : List MmsStaticUrcbDefinition) (states : List MmsStaticUrcbState)
    (objects : MmsStaticObjectTable) (dataSets : MmsStaticDataSetTable) : UrcbRun :=
  { runtime := { definitions, states, objects, dataSets } }

def after (run : UrcbRun) (runtime : MmsStaticUrcbRuntime) : UrcbRun :=
  { run with runtime, operations := run.operations + 1 }

/-- The outstanding notifications of a block are dropped. -/
def discard (run : UrcbRun) (block : Nat) : UrcbRun :=
  { run with
    outstanding := run.outstanding.filter fun n => n.block != block
    discarded := run.discarded ++ run.outstanding.filter fun n => n.block == block }

def accept (run : UrcbRun) (notification : Notification) : UrcbRun :=
  { run with
    accepted := run.accepted ++ [notification]
    outstanding := run.outstanding ++ [notification] }

/-- A report is committed; one for an event settles what is outstanding for its block. -/
def deliver (run : UrcbRun) (plan : MmsStaticUrcbEmissionPlan) (bytes : Bytes) : UrcbRun :=
  let settles (n : Notification) : Bool := plan.reason.event && n.block == plan.index
  { run with
    committed := run.committed ++ [⟨plan, bytes, run.outstanding.filter settles⟩]
    outstanding := run.outstanding.filter fun n => !settles n
    sequence := Function.update run.sequence plan.index
      (run.sequence plan.index ++ [plan.sequenceNumber]) }

def step (run : UrcbRun) : UrcbOperation → UrcbRun
  | .restart =>
    { run.after run.runtime.initializeRuntime.2 with
      starts := run.starts + 1
      outstanding := []
      discarded := run.discarded ++ run.outstanding }
  | .setEnabled index enabled nowMs =>
    let (status, runtime) := run.runtime.setEnabled index enabled nowMs
    if status = .ok ∧ (run.runtime.state index).any fun state => state.enabled != enabled then
      { (run.after runtime).discard index with
        sequence :=
          if enabled then Function.update run.sequence index [] else run.sequence }
    else run.after runtime
  | .set index setting => run.after (run.runtime.applySetting index setting).2
  | .notify index member reason nowMs =>
    let (status, runtime) := run.runtime.notify index member reason nowMs
    if status = .ok ∧ (run.runtime.state index).any fun state => selects state reason then
      (run.after runtime).accept ⟨index, member, (urcbEventMapping reason).2.bit⟩
    else run.after runtime
  | .encode plan reportTime destinationSize workspaceSize reads =>
    let encoded := run.runtime.encode plan reportTime destinationSize workspaceSize reads
    let run := run.after run.runtime
    if encoded.status = .ok then
      { run with
        encodings := run.encodings ++ [⟨plan, encoded.bytes, run.operations, run.starts⟩] }
    else run
  | .commit encoding nowMs =>
    match run.encodings[encoding]? with
    | none => run
    | some encoding =>
      let (status, runtime) := run.runtime.commit encoding.plan nowMs
      if status = .ok then (run.after runtime).deliver encoding.plan encoding.bytes
      else run.after runtime
  | .poll connection nowMs reportTime responseSize workspaceSize reads =>
    let polled := poll connection run.runtime nowMs reportTime responseSize workspaceSize reads
    let next := run.after polled.2
    match run.runtime.nextDue nowMs with
    | none => next
    | some plan =>
      if polled.1.status = .responseReady then
        next.deliver plan
          (run.runtime.encode plan reportTime responseSize workspaceSize reads).bytes
      else next

/-- A commit follows its encoding within fewer operations than there are revisions, and the
runtime is not initialized in between. -/
def Prompt (run : UrcbRun) : UrcbOperation → Prop
  | .commit encoding _ => ∀ e ∈ run.encodings[encoding]?,
    e.starts = run.starts ∧ run.operations < e.operations + (2 ^ 32 - 1)
  | _ => True

end UrcbRun

/-! ## What is to hold -/

/-- The report has the reasons of what its commit has settled, and no others. -/
def CommittedReport.Faithful (report : CommittedReport) : Prop :=
  (report.plan.reason.event = true →
    ∃ memberCount,
      EncodesEvent report.plan (reasons report.settled report.plan.index) memberCount
        report.bytes ∧
      ∀ n ∈ report.settled, n.block = report.plan.index ∧ n.member < memberCount ∧ n.bit ≠ 0 ∧
        reasons report.settled n.block n.member &&& n.bit = n.bit) ∧
  (report.plan.reason.event = false →
    report.settled = [] ∧ EncodesSnapshot report.plan report.bytes)

/-- A poll that fails for lack of capacity can be repeated. -/
def Repeatable (rt : MmsStaticUrcbRuntime) : Prop :=
  ∀ connection nowMs reportTime responseSize workspaceSize reads,
    let failed := poll connection rt nowMs reportTime responseSize workspaceSize reads
    failed.1.status = .responseBufferTooSmall ∨ failed.1.status = .workspaceTooSmall →
    failed.2 = rt ∧
      ∀ connection' laterMs reportTime' responseSize' workspaceSize' reads',
        let next := (poll connection' failed.2 laterMs reportTime' responseSize' workspaceSize'
          reads').1
        next.status ≠ .notEstablished →
        (laterMs = nowMs → next.controlBlockIndex = failed.1.controlBlockIndex ∧
          next.reason = failed.1.reason ∧ next.sequenceNumber = failed.1.sequenceNumber) ∧
        (next.status ≠ .noReportDue →
          next.controlBlockIndex = failed.1.controlBlockIndex →
          next.sequenceNumber = failed.1.sequenceNumber)

structure UrcbReporting (run : UrcbRun) : Prop where
  idle : ∀ index state, run.runtime.state index = some state → state.enabled = false →
    state.eventPending = false ∧ state.generalInterrogationPending = false ∧
      state.integrityArmed = false
  /-- Every accepted notification is in one report, discarded or still outstanding. -/
  once : run.accepted.Perm
    (run.committed.flatMap (·.settled) ++ run.discarded ++ run.outstanding)
  outstanding : ∀ n ∈ run.outstanding, ∃ state, run.runtime.state n.block = some state ∧
    state.enabled = true ∧ state.eventPending = true ∧ state.mask n.member &&& n.bit = n.bit
  faithful : ∀ report ∈ run.committed, report.Faithful
  /-- The SqNums of an enable period are 1, 2, 3, … modulo 256. -/
  numbered : ∀ index, run.sequence index =
    (List.range (run.sequence index).length).map fun k => UInt8.ofNat (k + 1)
  repeatable : Repeatable run.runtime

/-! ## The invariant -/

/-- A control block and what the run remembers of it. -/
structure BlockInv (outstanding : List Notification) (sequence : Nat → List UInt8) (index : Nat)
    (state : MmsStaticUrcbState) : Prop where
  idle : state.enabled = false → state.eventPending = false ∧
    state.generalInterrogationPending = false ∧ state.integrityArmed = false
  masks : ∀ member, state.mask member = reasons outstanding index member
  sequence : state.enabled = true →
    state.sequenceNumber = UInt8.ofNat (sequence index).length
  revision : state.revision ≠ 0

/-- The block of an outstanding notification. -/
structure Outstanding (rt : MmsStaticUrcbRuntime) (n : Notification)
    (state : MmsStaticUrcbState) : Prop where
  block : rt.state n.block = some state
  enabled : state.enabled = true
  eventPending : state.eventPending = true
  member : ∀ dataSet, rt.dataSetOf state.dataSetDomain state.dataSetItem = some dataSet →
    n.member < dataSet.members.length

/-- An encoding and the revision of its block: as long as the block has not changed, the report
is the one that the runtime would encode. -/
structure Tracked (run : UrcbRun) (encoding : Encoding) : Prop where
  starts : encoding.starts ≤ run.starts
  revision : encoding.plan.revision ≠ 0
  block : encoding.starts = run.starts → ∀ state,
    run.runtime.state encoding.plan.index = some state →
    ∃ n, encoding.operations + n ≤ run.operations ∧
      state.revision = bumpRevision^[n] encoding.plan.revision ∧
      (n = 0 → ∃ reportTime destinationSize workspaceSize reads,
        (run.runtime.encode encoding.plan reportTime destinationSize workspaceSize
          reads).status = .ok ∧
        (run.runtime.encode encoding.plan reportTime destinationSize workspaceSize
          reads).bytes = encoding.bytes)

structure UrcbInv (run : UrcbRun) : Prop where
  block : ∀ index state, run.runtime.state index = some state →
    BlockInv run.outstanding run.sequence index state
  once : run.accepted.Perm
    (run.committed.flatMap (·.settled) ++ run.discarded ++ run.outstanding)
  outstanding : ∀ n ∈ run.outstanding, n.bit ≠ 0 ∧ ∃ state, Outstanding run.runtime n state
  faithful : ∀ report ∈ run.committed, report.Faithful
  numbered : ∀ index, run.sequence index =
    (List.range (run.sequence index).length).map fun k => UInt8.ofNat (k + 1)
  encodings : ∀ encoding ∈ run.encodings, Tracked run encoding

variable {run : UrcbRun} {rt rt' : MmsStaticUrcbRuntime} {index : Nat}
  {state state' : MmsStaticUrcbState} {outstanding : List Notification}
  {sequence : Nat → List UInt8}

theorem and_reasons {n : Notification} (h : n ∈ outstanding) :
    reasons outstanding n.block n.member &&& n.bit = n.bit := and_marks h

/-- The notifications of other blocks do not matter. -/
theorem reasons_filter (p : Nat → Bool) (outstanding : List Notification) (block member : Nat) :
    reasons (outstanding.filter fun n => p n.block) block member =
      if p block then reasons outstanding block member else 0 :=
  marks_filter (fun site : Nat × Nat => p site.1) outstanding (block, member)

theorem reasons_concat (outstanding : List Notification) (n : Notification) (block member : Nat) :
    reasons (outstanding ++ [n]) block member =
      if n.block = block ∧ n.member = member then reasons outstanding block member ||| n.bit
      else reasons outstanding block member := by
  rw [reasons, marks_concat]
  simp only [Prod.mk.injEq]
  rfl

/-- What one step does to the encodings that are already there. -/
theorem Tracked.advance {run' : UrcbRun} {encoding : Encoding} (h : Tracked run encoding)
    (hadvances : Advances run.runtime run'.runtime) (hstarts : run'.starts = run.starts)
    (hoperations : run.operations < run'.operations) : Tracked run' encoding := by
  refine ⟨hstarts ▸ h.starts, h.revision, fun heq state' hstate' => ?_⟩
  rw [hstarts] at heq
  rcases hadvances.block encoding.plan.index with hsame | ⟨state, next, hstate, hnext, hrevision⟩
  · rw [hstate'] at hsame
    obtain ⟨n, hn, hrevision, hencodes⟩ := h.block heq state' hsame.symm
    refine ⟨n, by omega, hrevision, fun hzero => ?_⟩
    obtain ⟨reportTime, destinationSize, workspaceSize, reads, hencode⟩ := hencodes hzero
    refine ⟨reportTime, destinationSize, workspaceSize, reads, ?_⟩
    rw [encode_congr hadvances.objects hadvances.dataSets encoding.plan hsame.symm hstate']
    exact hencode
  · obtain rfl : next = state' := Option.some.inj (hnext.symm.trans hstate')
    obtain ⟨n, hn, heq', -⟩ := h.block heq state hstate
    refine ⟨n + 1, by omega, ?_, nofun⟩
    rw [hrevision, heq', Function.iterate_succ_apply']

/-- The blocks after one of them has changed. -/
theorem UrcbInv.block_setState (h : UrcbInv run) (hstate : run.runtime.state index = some state)
    (hblock : BlockInv outstanding sequence index state')
    (hreasons : ∀ j, j ≠ index → ∀ member,
      reasons outstanding j member = reasons run.outstanding j member)
    (hsequence : ∀ j, j ≠ index → sequence j = run.sequence j) (j : Nat)
    (other : MmsStaticUrcbState)
    (hother : (run.runtime.setState index state').state j = some other) :
    BlockInv outstanding sequence j other := by
  rw [state_setState hstate] at hother
  split at hother
  · rename_i heq
    subst heq
    obtain rfl := Option.some.inj hother
    exact hblock
  · rename_i hne
    have hj := h.block j other hother
    refine ⟨hj.idle, fun member => ?_, fun henabled => ?_, hj.revision⟩
    · rw [hj.masks, hreasons j (Ne.symm hne)]
    · rw [hj.sequence henabled, hsequence j (Ne.symm hne)]

/-- The block of a notification after another block, or this one, has changed. -/
theorem Outstanding.setState {n : Notification} (h : Outstanding rt n state)
    {changed : MmsStaticUrcbState} (hchanged : rt.state index = some changed)
    (hkept : n.block = index → state'.enabled = true ∧ state'.eventPending = true ∧
      state'.dataSetDomain = changed.dataSetDomain ∧ state'.dataSetItem = changed.dataSetItem) :
    ∃ next, Outstanding (rt.setState index state') n next := by
  by_cases heq : index = n.block
  · subst heq
    obtain rfl : changed = state := Option.some.inj (hchanged.symm.trans h.block)
    obtain ⟨henabled, hpending, hdomain, hitem⟩ := hkept rfl
    refine ⟨state', ?_, henabled, hpending, ?_⟩
    · rw [state_setState hchanged, if_pos rfl]
    · rw [hdomain, hitem]
      exact h.member
  · refine ⟨state, ?_, h.enabled, h.eventPending, h.member⟩
    rw [state_setState hchanged, if_neg heq]
    exact h.block

/-! ## The steps -/

theorem advances_quiet (hstate : run.runtime.state index = some state)
    (hquiet : Quiet state state') :
    Advances run.runtime (run.runtime.setState index state') :=
  advances_setState hstate hquiet.revision

theorem UrcbInv.unchanged (h : UrcbInv run) : UrcbInv (run.after run.runtime) where
  block := h.block
  once := h.once
  outstanding := h.outstanding
  faithful := h.faithful
  numbered := h.numbered
  encodings := fun encoding hmem =>
    (h.encodings encoding hmem).advance (Advances.refl run.runtime) rfl (Nat.lt_succ_self _)

theorem UrcbInv.quiet (h : UrcbInv run) (hstate : run.runtime.state index = some state)
    (hquiet : Quiet state state') : UrcbInv (run.after (run.runtime.setState index state')) := by
  have hblock := h.block index state hstate
  refine
    { block := h.block_setState hstate ?_ (fun _ _ _ => rfl) fun _ _ => rfl
      once := h.once
      outstanding := fun n hmem => ?_
      faithful := h.faithful
      numbered := h.numbered
      encodings := fun encoding hmem =>
        (h.encodings encoding hmem).advance (advances_quiet hstate hquiet) rfl
          (Nat.lt_succ_self _) }
  · refine ⟨fun hdisabled => ?_, fun member => ?_, fun henabled => ?_, ?_⟩
    · rw [hquiet.enabled] at hdisabled
      obtain ⟨hevent, hgi, harmed⟩ := hblock.idle hdisabled
      obtain ⟨hgi', harmed'⟩ := hquiet.idle hdisabled
      exact ⟨hquiet.eventPending.trans hevent, hgi'.trans hgi, harmed'.trans harmed⟩
    · rw [MmsStaticUrcbState.mask, hquiet.masks]
      exact hblock.masks member
    · rw [hquiet.sequenceNumber]
      exact hblock.sequence (hquiet.enabled ▸ henabled)
    · rcases hquiet.revision with rfl | hrevision
      · exact hblock.revision
      · exact hrevision ▸ bumpRevision_ne_zero _
  · obtain ⟨hbit, other, hother⟩ := h.outstanding n hmem
    refine ⟨hbit, hother.setState hstate fun heq => ?_⟩
    obtain rfl : state = other := by
      subst heq
      exact Option.some.inj (hstate.symm.trans hother.block)
    exact ⟨hquiet.enabled.trans hother.enabled, hquiet.eventPending.trans hother.eventPending,
      hquiet.dataSet hother.enabled⟩

/-- The settings do not touch events, the enable flag and the sequence number. -/
theorem applySetting_cases (rt : MmsStaticUrcbRuntime) (index : Nat) (setting : UrcbSetting) :
    (rt.applySetting index setting).2 = rt ∨ ∃ state state', rt.state index = some state ∧
      Quiet state state' ∧ (rt.applySetting index setting).2 = rt.setState index state' := by
  have hon {operation : MmsStaticUrcbState → MmsStaticUrcbStatus × MmsStaticUrcbState}
      (hquiet : ∀ state, Quiet state (operation state).2) :
      (rt.onState index operation).2 = rt ∨ ∃ state state', rt.state index = some state ∧
        Quiet state state' ∧ (rt.onState index operation).2 = rt.setState index state' := by
    rcases onState_cases rt index operation with ⟨-, hrt, -⟩ | ⟨state, hstate, heq⟩
    · exact Or.inl hrt
    · exact Or.inr ⟨state, _, hstate, hquiet state, by rw [heq]⟩
  cases setting with
  | reserved reserved => exact hon (quiet_setReserved reserved)
  | generalInterrogation => exact hon quiet_requestGeneralInterrogation
  | reportId => exact hon (quiet_configure _ fun _ => ⟨rfl, rfl, rfl, rfl, rfl, rfl, rfl⟩)
  | dataSet => exact hon (quiet_configure _ fun _ => ⟨rfl, rfl, rfl, rfl, rfl, rfl, rfl⟩)
  | optionalFields => exact hon (quiet_configure _ fun _ => ⟨rfl, rfl, rfl, rfl, rfl, rfl, rfl⟩)
  | bufferTimeMs => exact hon (quiet_configure _ fun _ => ⟨rfl, rfl, rfl, rfl, rfl, rfl, rfl⟩)
  | triggerOptions => exact hon (quiet_configure _ fun _ => ⟨rfl, rfl, rfl, rfl, rfl, rfl, rfl⟩)
  | integrityPeriodMs => exact hon (quiet_configure _ fun _ => ⟨rfl, rfl, rfl, rfl, rfl, rfl, rfl⟩)

theorem UrcbInv.set (h : UrcbInv run) (index : Nat) (setting : UrcbSetting) :
    UrcbInv (run.step (.set index setting)) := by
  show UrcbInv (run.after (run.runtime.applySetting index setting).2)
  rcases applySetting_cases run.runtime index setting with heq | ⟨state, state', hstate, hquiet, heq⟩
  · rw [heq]
    exact h.unchanged
  · rw [heq]
    exact h.quiet hstate hquiet

theorem UrcbInv.restart (h : UrcbInv run) : UrcbInv (run.step .restart) := by
  refine
    { block := fun index state hstate => ?_
      once := ?_
      outstanding := fun n hmem => absurd hmem List.not_mem_nil
      faithful := h.faithful
      numbered := h.numbered
      encodings := fun encoding hmem => ?_ }
  · obtain ⟨definition, rfl⟩ := state_initializeRuntime hstate
    refine ⟨fun _ => ⟨rfl, rfl, rfl⟩, fun member => ?_,
      fun henabled => absurd henabled Bool.false_ne_true,
      show (1 : UInt32) ≠ 0 by decide⟩
    show (Vector.replicate maximumMembers (0 : UInt8)).toList.getD member 0 = 0
    rw [Vector.toList_replicate, List.getD_eq_getElem?_getD, List.getElem?_replicate]
    split <;> rfl
  · show run.accepted.Perm (run.committed.flatMap (·.settled) ++
      (run.discarded ++ run.outstanding) ++ [])
    rw [List.append_nil, ← List.append_assoc]
    exact h.once
  · have htracked := h.encodings encoding hmem
    refine ⟨Nat.le_succ_of_le htracked.starts, htracked.revision, fun heq => ?_⟩
    exact absurd (heq ▸ htracked.starts) (Nat.not_succ_le_self _)

theorem UrcbInv.notify (h : UrcbInv run) (index member : Nat) (reason : MmsStaticUrcbEventReason)
    (nowMs : UInt64) : UrcbInv (run.step (.notify index member reason nowMs)) := by
  rw [UrcbRun.step]
  rcases notify_cases run.runtime index member reason nowMs with
    ⟨hrt, hrefused⟩ | ⟨state, dataSet, hmember, hstate, henabled, hselects, hdata, hlt, hnotify⟩
  · dsimp only
    rw [if_neg, hrt]
    · exact h.unchanged
    · rintro ⟨hok, hany⟩
      rcases hrefused with hstatus | hselects
      · exact hstatus hok
      · obtain ⟨state, hstate, hselected⟩ := (Option.any_eq_true _ _).mp hany
        rw [hselects state hstate] at hselected
        cases hselected
  · have hany : (run.runtime.state index).any (fun state => selects state reason) = true := by
      rw [hstate]
      exact hselects
    rw [hnotify]
    dsimp only
    rw [if_pos ⟨rfl, hany⟩]
    have hblock := h.block index state hstate
    refine
      { block := h.block_setState hstate ?_ (fun j hj other => ?_) fun _ _ => rfl
        once := ?_
        outstanding := fun n hmem => ?_
        faithful := h.faithful
        numbered := h.numbered
        encodings := fun encoding hmem =>
          (h.encodings encoding hmem).advance (advances_setState hstate (Or.inr rfl)) rfl
            (Nat.lt_succ_self _) }
    · refine ⟨fun hdisabled => ?_, fun other => ?_, hblock.sequence, bumpRevision_ne_zero _⟩
      · exact absurd (hdisabled.symm.trans henabled) Bool.false_ne_true
      · rw [mask_markMember, UrcbRun.accept, reasons_concat, hblock.masks]
        simp only [true_and]
        rfl
    · rw [UrcbRun.accept, reasons_concat, if_neg fun heq => hj heq.1.symm]
      rfl
    · show (run.accepted ++ [_]).Perm (_ ++ (run.outstanding ++ [_]))
      rw [← List.append_assoc]
      exact h.once.append_right _
    · rcases List.mem_append.mp hmem with hmem | hmem
      · obtain ⟨hbit, other, hother⟩ := h.outstanding n hmem
        refine ⟨hbit, hother.setState hstate fun _ => ⟨henabled, rfl, rfl, rfl⟩⟩
      · obtain rfl : n = _ := List.mem_singleton.mp hmem
        refine ⟨urcbEventMapping_bit_ne_zero reason,
          markMember ⟨member, hmember⟩ (urcbEventMapping reason).2.bit nowMs state, ?_, henabled,
          rfl, ?_⟩
        · exact (state_setState hstate _ _).trans (if_pos rfl)
        · intro other hother
          obtain rfl : dataSet = other := Option.some.inj (hdata.symm.trans hother)
          exact hlt

/-- Dropping what is outstanding for a block. -/
theorem perm_discard {accepted settled discarded outstanding : List Notification}
    (h : accepted.Perm (settled ++ discarded ++ outstanding)) (p : Notification → Bool) :
    accepted.Perm (settled ++ (discarded ++ outstanding.filter p) ++
      outstanding.filter fun n => !p n) := by
  refine h.trans ?_
  rw [List.append_assoc, List.append_assoc, List.append_assoc]
  exact ((List.filter_append_perm p outstanding).symm.append_left _).append_left _

/-- Settling what is outstanding for a block. -/
theorem perm_settle {accepted settled discarded outstanding : List Notification}
    (h : accepted.Perm (settled ++ discarded ++ outstanding)) (p : Notification → Bool) :
    accepted.Perm (settled ++ outstanding.filter p ++ discarded ++
      outstanding.filter fun n => !p n) := by
  refine (perm_discard h p).trans ?_
  rw [List.append_assoc, List.append_assoc, List.append_assoc, List.append_assoc]
  refine List.Perm.append_left _ ?_
  rw [← List.append_assoc, ← List.append_assoc]
  exact List.perm_append_comm.append_right _

theorem UrcbInv.setEnabled (h : UrcbInv run) (index : Nat) (enabled : Bool) (nowMs : UInt64) :
    UrcbInv (run.step (.setEnabled index enabled nowMs)) := by
  rw [UrcbRun.step]
  rcases setEnabled_cases run.runtime index enabled nowMs with
    ⟨hrt, hrefused⟩ | ⟨state, hstate, hchanged, hset⟩
  · dsimp only
    rw [if_neg, hrt]
    · exact h.unchanged
    · rintro ⟨hok, hany⟩
      rcases hrefused with hstatus | hsame
      · exact hstatus hok
      · obtain ⟨state, hstate, hne⟩ := (Option.any_eq_true _ _).mp hany
        simp [hsame state hstate] at hne
  · have hany : (run.runtime.state index).any (fun state => state.enabled != enabled) = true := by
      rw [hstate]
      simpa using hchanged
    rw [hset]
    dsimp only
    rw [if_pos ⟨rfl, hany⟩]
    have hrevision : (if enabled then enable nowMs state else disable state).revision =
        bumpRevision state.revision := by
      cases enabled <;> rfl
    have hmask : ∀ member, (if enabled then enable nowMs state else disable state).mask member =
        0 := by
      intro member
      cases enabled with
      | true => exact mask_clearPendingEvent { state with
          enabled := true, generalInterrogationPending := false } member
      | false => exact mask_clearPendingEvent { state with
          enabled := false, generalInterrogationPending := false } member
    refine
      { block := h.block_setState hstate ?_ (fun j hj member => ?_) fun j hj => ?_
        once := perm_discard h.once fun n => n.block == index
        outstanding := fun n hmem => ?_
        faithful := h.faithful
        numbered := fun j => ?_
        encodings := fun encoding hmem =>
          (h.encodings encoding hmem).advance (advances_setState hstate (Or.inr hrevision)) rfl
            (Nat.lt_succ_self _) }
    · refine ⟨fun hdisabled => ?_, fun member => ?_, fun henabled => ?_,
        hrevision ▸ bumpRevision_ne_zero _⟩
      · cases enabled with
        | true => cases hdisabled
        | false => exact ⟨rfl, rfl, rfl⟩
      · rw [hmask]
        refine Eq.trans ?_ (reasons_filter (fun block => block != index) _ _ _).symm
        simp
      · cases enabled with
        | true =>
          simp only [if_true, Function.update_self]
          rfl
        | false => cases henabled
    · refine (reasons_filter (fun block => block != index) _ _ _).trans (if_pos ?_)
      simpa using hj
    · cases enabled with
      | true => exact Function.update_of_ne hj _ _
      | false => rfl
    · obtain ⟨hmem, hne⟩ := List.mem_filter.mp hmem
      obtain ⟨hbit, other, hother⟩ := h.outstanding n hmem
      exact ⟨hbit, hother.setState hstate fun heq => by simp [heq] at hne⟩
    · cases enabled with
      | true =>
        by_cases hj : j = index
        · subst hj
          simp
        · simp only [if_true, Function.update_of_ne hj]
          exact h.numbered j
      | false => exact h.numbered j

/-- **A committed report.** It was encoded from the block as the commit has found it. -/
theorem UrcbInv.deliver (h : UrcbInv run) {plan : MmsStaticUrcbEmissionPlan} {nowMs : UInt64}
    {reportTime : Bytes} {destinationSize workspaceSize : Nat} {reads : ReadCallbacks}
    (hencode : (run.runtime.encode plan reportTime destinationSize workspaceSize reads).status =
      .ok) (hcommit : (run.runtime.commit plan nowMs).1 = .ok) :
    UrcbInv ((run.after (run.runtime.commit plan nowMs).2).deliver plan
      (run.runtime.encode plan reportTime destinationSize workspaceSize reads).bytes) := by
  rcases run.runtime.commit_cases plan nowMs with ⟨hstatus, -⟩ | ⟨state, hstate, hmatches, heq⟩
  · exact absurd hcommit hstatus
  obtain ⟨encoded, dataSet, hencoded, -, hdata, hevent, hsnapshot⟩ := encode_cases hencode
  obtain rfl : state = encoded := Option.some.inj (hstate.symm.trans hencoded)
  obtain ⟨henabled, -, hsequence, -⟩ := matchesState_iff hmatches
  rw [heq]
  have hblock := h.block plan.index state hstate
  have hnext : plan.sequenceNumber = UInt8.ofNat ((run.sequence plan.index).length + 1) := by
    rw [hsequence, hblock.sequence henabled, nextSequenceNumber, UInt8.ofNat_add]
    rfl
  have hother : ∀ j, j ≠ plan.index →
      ∀ member, reasons (run.outstanding.filter fun n =>
        !(plan.reason.event && n.block == plan.index)) j member =
          reasons run.outstanding j member := by
    intro j hj member
    refine (reasons_filter (fun block => !(plan.reason.event && block == plan.index)) _ _ _).trans
      (if_pos ?_)
    simp [hj]
  refine
    { block := h.block_setState hstate ?_ hother fun j hj => Function.update_of_ne hj _ _
      once := ?_
      outstanding := fun n hmem => ?_
      faithful := fun report hmem => ?_
      numbered := fun j => ?_
      encodings := fun encoding hmem =>
        (h.encodings encoding hmem).advance
          (advances_setState hstate (Or.inr (revision_committed plan nowMs state))) rfl
          (Nat.lt_succ_self _) }
  · refine ⟨fun hdisabled => ?_, fun member => ?_, fun _ => ?_,
      revision_committed plan nowMs state ▸ bumpRevision_ne_zero _⟩
    · rw [enabled_committed, henabled] at hdisabled
      cases hdisabled
    · rw [mask_committed]
      refine Eq.trans ?_
        (reasons_filter (fun block => !(plan.reason.event && block == plan.index)) _ _ _).symm
      cases plan.reason.event with
      | true => simp
      | false =>
        simp only [Bool.false_and, Bool.not_false, Bool.false_eq_true, if_false, if_true]
        exact hblock.masks member
    · rw [sequenceNumber_committed, hnext]
      simp [UrcbRun.deliver, UrcbRun.after]
  · simp only [UrcbRun.deliver, List.flatMap_append, List.flatMap_cons, List.flatMap_nil,
      List.append_nil]
    exact perm_settle h.once _
  · obtain ⟨hmem, hkept⟩ := List.mem_filter.mp hmem
    obtain ⟨hbit, other, hother⟩ := h.outstanding n hmem
    refine ⟨hbit, hother.setState hstate fun hindex => ?_⟩
    have hnot : plan.reason.event = false := by simpa [hindex] using hkept
    obtain rfl : state = other := by
      rw [← hindex] at hstate
      exact Option.some.inj (hstate.symm.trans hother.block)
    refine ⟨(enabled_committed _ _ _).trans henabled, ?_, dataSet_committed plan nowMs state⟩
    rw [eventPending_committed, hnot]
    simpa using hother.eventPending
  · rcases List.mem_append.mp hmem with hmem | hmem
    · exact h.faithful report hmem
    obtain rfl := List.mem_singleton.mp hmem
    refine ⟨fun hreason => ?_, fun hreason => ?_⟩
    · have hsettled : ∀ member, reasons (run.outstanding.filter fun n =>
          plan.reason.event && n.block == plan.index) plan.index member = state.mask member := by
        intro member
        refine (reasons_filter (fun block => plan.reason.event && block == plan.index) _ _ _).trans ?_
        rw [hblock.masks]
        simp [show plan.reason.event = true from hreason]
      refine ⟨dataSet.members.length, ?_, fun n hn => ?_⟩
      · have hencodes := hevent hreason
        rwa [← funext hsettled] at hencodes
      · obtain ⟨hmem', hpicked⟩ := List.mem_filter.mp hn
        have hindex : n.block = plan.index := by
          simpa [show plan.reason.event = true from hreason] using hpicked
        obtain ⟨hbit, other, hother⟩ := h.outstanding n hmem'
        obtain rfl : state = other := by
          rw [← hindex] at hstate
          exact Option.some.inj (hstate.symm.trans hother.block)
        exact ⟨hindex, hother.member dataSet hdata, hbit, and_reasons hn⟩
    · refine ⟨?_, hsnapshot hreason⟩
      refine List.filter_eq_nil_iff.mpr fun n _ => ?_
      simp [show plan.reason.event = false from hreason]
  · show Function.update run.sequence plan.index _ j = _
    by_cases hj : j = plan.index
    · subst hj
      simp only [UrcbRun.deliver, UrcbRun.after, Function.update_self, List.length_append,
        List.length_singleton, List.range_succ, List.map_append, List.map_singleton]
      rw [← h.numbered plan.index, hnext]
    · simp only [UrcbRun.deliver, UrcbRun.after, Function.update_of_ne hj]
      exact h.numbered j

theorem UrcbInv.encode (h : UrcbInv run) (plan : MmsStaticUrcbEmissionPlan) (reportTime : Bytes)
    (destinationSize workspaceSize : Nat) (reads : ReadCallbacks) :
    UrcbInv (run.step (.encode plan reportTime destinationSize workspaceSize reads)) := by
  rw [UrcbRun.step]
  split
  · rename_i hencode
    have hunchanged := h.unchanged
    refine { hunchanged with encodings := fun encoding hmem => ?_ }
    rcases List.mem_append.mp hmem with hmem | hmem
    · obtain ⟨hstarts, hrevision, hblock⟩ := hunchanged.encodings encoding hmem
      exact ⟨hstarts, hrevision, hblock⟩
    obtain rfl := List.mem_singleton.mp hmem
    obtain ⟨state, -, hstate, hmatches, -⟩ := encode_cases hencode
    have hplan := (matchesState_iff hmatches).2.1
    refine ⟨Nat.le_refl _, hplan ▸ (h.block _ state hstate).revision, fun _ other hother => ?_⟩
    obtain rfl : state = other := Option.some.inj (hstate.symm.trans hother)
    exact ⟨0, Nat.le_refl _, hplan.symm, fun _ =>
      ⟨reportTime, destinationSize, workspaceSize, reads, hencode, rfl⟩⟩
  · exact h.unchanged

theorem UrcbInv.commit (h : UrcbInv run) {encoding : Nat} {nowMs : UInt64}
    (hprompt : run.Prompt (.commit encoding nowMs)) :
    UrcbInv (run.step (.commit encoding nowMs)) := by
  rw [UrcbRun.step]
  cases hget : run.encodings[encoding]? with
  | none => exact h
  | some e =>
    dsimp only
    split
    · rename_i hok
      obtain ⟨hstarts, hoperations⟩ := hprompt e hget
      obtain ⟨-, hne, htracked⟩ := h.encodings e (List.mem_of_getElem? hget)
      rcases run.runtime.commit_cases e.plan nowMs with ⟨hstatus, -⟩ | ⟨state, hstate, hmatches, -⟩
      · exact absurd hok hstatus
      obtain ⟨n, hn, hrevision, hencodes⟩ := htracked hstarts state hstate
      -- fewer changes than revisions: the block is as it was when the report was encoded
      have hzero : n = 0 := by
        have hperiod : bumpRevision^[n] e.plan.revision = e.plan.revision :=
          hrevision.symm.trans (matchesState_iff hmatches).2.1.symm
        have hmod := (iterate_bumpRevision_eq_iff hne n).mp hperiod
        rwa [Nat.mod_eq_of_lt (by omega)] at hmod
      obtain ⟨reportTime, destinationSize, workspaceSize, reads, hencode, hbytes⟩ :=
        hencodes hzero
      rw [← hbytes]
      exact h.deliver hencode hok
    · rename_i hfailed
      rcases run.runtime.commit_cases e.plan nowMs with ⟨-, hrt⟩ | ⟨state, -, -, heq⟩
      · rw [hrt]
        exact h.unchanged
      · rw [heq] at hfailed
        exact absurd rfl hfailed

theorem UrcbInv.poll (h : UrcbInv run) (connection : MmsStaticConnectionRuntime) (nowMs : UInt64)
    (reportTime : Bytes) (responseSize workspaceSize : Nat) (reads : ReadCallbacks) :
    UrcbInv (run.step (.poll connection nowMs reportTime responseSize workspaceSize reads)) := by
  rw [UrcbRun.step]
  rcases poll_cases connection run.runtime nowMs reportTime responseSize workspaceSize reads with
    ⟨hstatus, hrt⟩ | ⟨hstatus, plan, hdue, hencode, hcommit, hrt⟩
  · rw [hrt]
    cases run.runtime.nextDue nowMs with
    | none => exact h.unchanged
    | some plan =>
      dsimp only
      rw [if_neg hstatus]
      exact h.unchanged
  · rw [hrt, hdue]
    dsimp only
    rw [if_pos hstatus]
    exact h.deliver hencode hcommit

/-- **Every step keeps the invariant.** -/
theorem UrcbInv.step (run : UrcbRun) (operation : UrcbOperation) (hprompt : run.Prompt operation)
    (h : UrcbInv run) : UrcbInv (run.step operation) := by
  cases operation with
  | restart => exact h.restart
  | setEnabled index enabled nowMs => exact h.setEnabled index enabled nowMs
  | set index setting => exact h.set index setting
  | notify index member reason nowMs => exact h.notify index member reason nowMs
  | encode plan reportTime destinationSize workspaceSize reads =>
    exact h.encode plan reportTime destinationSize workspaceSize reads
  | commit encoding nowMs => exact h.commit hprompt
  | poll connection nowMs reportTime responseSize workspaceSize reads =>
    exact h.poll connection nowMs reportTime responseSize workspaceSize reads

theorem urcbInv_start (definitions : List MmsStaticUrcbDefinition)
    (states : List MmsStaticUrcbState) (objects : MmsStaticObjectTable)
    (dataSets : MmsStaticDataSetTable) : UrcbInv (.start definitions states objects dataSets) where
  block := fun _ _ hstate => absurd (initialized_of_state hstate) Bool.false_ne_true
  once := .refl _
  outstanding := fun _ hmem => absurd hmem List.not_mem_nil
  faithful := fun _ hmem => absurd hmem List.not_mem_nil
  numbered := fun _ => rfl
  encodings := fun _ hmem => absurd hmem List.not_mem_nil

/-- A failed poll leaves its plan. -/
theorem repeatable (rt : MmsStaticUrcbRuntime) : Repeatable rt := by
  intro connection nowMs reportTime responseSize workspaceSize reads failed hfailed
  have hready : failed.1.status ≠ .responseReady := by
    rcases hfailed with hfailed | hfailed <;> rw [hfailed] <;> nofun
  have hestablished : failed.1.status ≠ .notEstablished := by
    rcases hfailed with hfailed | hfailed <;> rw [hfailed] <;> nofun
  have hdue : failed.1.status ≠ .noReportDue := by
    rcases hfailed with hfailed | hfailed <;> rw [hfailed] <;> nofun
  have hrt : failed.2 = rt := by
    rcases poll_cases connection rt nowMs reportTime responseSize workspaceSize reads with
      ⟨-, hrt⟩ | ⟨hstatus, -⟩
    · exact hrt
    · exact absurd hstatus hready
  refine ⟨hrt, fun connection' laterMs reportTime' responseSize' workspaceSize' reads' => ?_⟩
  rw [hrt]
  intro next hnext
  obtain ⟨plan, hplan⟩ : ∃ plan, rt.nextDue nowMs = some plan := by
    cases hplan : rt.nextDue nowMs with
    | none => exact absurd (poll_noReportDue hestablished hplan) hdue
    | some plan => exact ⟨plan, rfl⟩
  obtain ⟨-, hindex, hsequence, hreason⟩ := poll_about hestablished hplan
  refine ⟨fun hlater => ?_, fun hnextDue hsame => ?_⟩
  · subst hlater
    obtain ⟨-, hindex', hsequence', hreason'⟩ := poll_about hnext hplan
    exact ⟨hindex'.trans hindex.symm, hreason'.trans hreason.symm, hsequence'.trans hsequence.symm⟩
  · cases hplan' : rt.nextDue laterMs with
    | none => exact absurd (poll_noReportDue hnext hplan') hnextDue
    | some plan' =>
      obtain ⟨-, hindex', hsequence', -⟩ := poll_about hnext hplan'
      obtain ⟨state, hstate, -, hnumber⟩ := nextDue_eq_some hplan
      obtain ⟨state', hstate', -, hnumber'⟩ := nextDue_eq_some hplan'
      -- one block, one state: the number has not been used
      have hblock : plan'.index = plan.index := hindex'.symm.trans (hsame.trans hindex)
      obtain rfl : state = state' := by
        rw [hblock] at hstate'
        exact Option.some.inj (hstate.symm.trans hstate')
      exact hsequence'.trans (hnumber'.trans (hnumber.symm.trans hsequence.symm))

/-- **Reporting of a URCB table**, over every run of its operations and of polls. -/
theorem urcb_reporting (definitions : List MmsStaticUrcbDefinition)
    (states : List MmsStaticUrcbState) (objects : MmsStaticObjectTable)
    (dataSets : MmsStaticDataSetTable) (operations : List UrcbOperation)
    (hprompt : Along UrcbRun.step UrcbRun.Prompt (.start definitions states objects dataSets)
      operations) :
    UrcbReporting (exec UrcbRun.step (.start definitions states objects dataSets) operations) := by
  have hinv := exec_invariant_where UrcbInv UrcbInv.step
    (urcbInv_start definitions states objects dataSets) hprompt
  refine
    { idle := fun index state hstate => (hinv.block index state hstate).idle
      once := hinv.once
      outstanding := fun n hmem => ?_
      faithful := hinv.faithful
      numbered := hinv.numbered
      repeatable := repeatable _ }
  obtain ⟨-, state, hstate⟩ := hinv.outstanding n hmem
  refine ⟨state, hstate.block, hstate.enabled, hstate.eventPending, ?_⟩
  rw [(hinv.block n.block state hstate.block).masks]
  exact and_reasons hmem

/-! ## Two control blocks -/

def sampleUrcb (item : UInt8) (bufferTimeMs : UInt32) : MmsStaticUrcbDefinition :=
  { domain := [0x44]
    item := [item]
    reportId := [0x52]
    dataSetDomain := [0x44]
    dataSetItem := [0x53]
    optionalFields := #v[0x50, 0x00]
    bufferTimeMs
    triggerOptions := 0x7C
    integrityPeriodMs := 0 }

/-- Two control blocks over a data set of two objects. -/
def sampleUrcbs : UrcbRun :=
  .start [sampleUrcb 0x41 10, sampleUrcb 0x42 0] [{}, {}]
    ⟨[{ domain := [0x44], item := [0x49], typeSpecification := [0x83, 0x00] },
      { domain := [0x44], item := [0x4A], typeSpecification := [0x83, 0x00] }]⟩
    ⟨[{ domain := [0x44], item := [0x53], members := [⟨[0x44], [0x49]⟩, ⟨[0x44], [0x4A]⟩] }]⟩

def samplePlan : MmsStaticUrcbEmissionPlan := ⟨0, 3, 1, .dataChange⟩

def sampleReads : ReadCallbacks := fun _ _ _ => { bytes := [0x83, 0x01, 0x01], requiredBytes := 3 }

/-- The first block is enabled, its first member changes and the report is encoded. -/
def sampleEncoded : List UrcbOperation :=
  [.restart, .setEnabled 0 true 0, .notify 0 0 .dataChange 0,
    .encode samplePlan [] 64 64 sampleReads]

/-- The encoded report: it includes the first member only. -/
def sampleEventReport : Bytes :=
  [0xA3, 0x21, 0xA0, 0x1F, 0xA1, 0x05, 0x80, 0x03, 0x52, 0x50, 0x54, 0xA0, 0x16, 0x8A, 0x01, 0x52,
    0x84, 0x03, 0x06, 0x50, 0x00, 0x86, 0x01, 0x01, 0x84, 0x02, 0x06, 0x80, 0x83, 0x01, 0x01, 0x84,
    0x02, 0x02, 0x40]

theorem encodings_sampleEncoded :
    (exec UrcbRun.step sampleUrcbs sampleEncoded).encodings =
      [⟨samplePlan, sampleEventReport, 4, 1⟩] := by
  decide

theorem urcb_reporting_sample :
    UrcbReporting (exec UrcbRun.step sampleUrcbs (sampleEncoded ++ [.commit 0 0])) := by
  refine urcb_reporting _ _ _ _ _ (along_append.mpr ⟨⟨trivial, trivial, trivial, trivial, trivial⟩,
    fun e he => ?_, trivial⟩)
  obtain rfl : Encoding.mk samplePlan sampleEventReport 4 1 = e := by
    have hget := congrArg (·[0]?) encodings_sampleEncoded
    exact Option.some.inj (hget.symm.trans he)
  exact ⟨by decide, by decide⟩

/-! ### Where the claim fails -/

/-- The reason of a notification is in no report, and nothing is left of it. -/
def Lost (run : UrcbRun) (n : Notification) : Prop :=
  n ∈ run.accepted ∧ n ∉ run.outstanding ∧ n ∉ run.discarded ∧
    ∀ report ∈ run.committed, ∃ input destinationSize,
      (MmsBufferedSelectiveInformationReportSpanCodec.encodeSnapshotInto input
        destinationSize).success = true ∧
      (MmsBufferedSelectiveInformationReportSpanCodec.encodeSnapshotInto input
        destinationSize).bytes = report.bytes ∧
      n.member ∉ input.includedMemberIndices

/-- The other member changes. -/
def sampleNote : Notification := ⟨0, 1, 0x40⟩

/-- The first block after the other member has changed `n` times. -/
structure Waiting (run : UrcbRun) (n : Nat) : Prop where
  block : ∃ state dataSet, run.runtime.state 0 = some state ∧ state.enabled = true ∧
    selects state .dataChange = true ∧
    run.runtime.dataSetOf state.dataSetDomain state.dataSetItem = some dataSet ∧
    1 < dataSet.members.length ∧ state.revision = bumpRevision^[n] 3 ∧
    state.sequenceNumber = 0 ∧ state.eventPending = true ∧ state.pendingMemberCount ≠ 0
  encodings : run.encodings = [⟨samplePlan, sampleEventReport, 4, 1⟩]
  committed : run.committed = []
  discarded : run.discarded = []
  accepted : 0 < n → sampleNote ∈ run.accepted
  outstanding : ∀ note ∈ run.outstanding, note.block = 0

theorem Waiting.notify {n : Nat} (h : Waiting run n) :
    Waiting (run.step (.notify 0 1 .dataChange 0)) (n + 1) := by
  obtain ⟨state, dataSet, hstate, henabled, hselects, hdata, hlt, hrevision, hsequence, hpending,
    hcount⟩ := h.block
  have hnotify : run.runtime.notify 0 1 .dataChange 0 =
      (.ok, run.runtime.setState 0 (markMember ⟨1, by decide⟩ 0x40 0 state)) := by
    have htrigger : ¬state.triggerOptions &&& triggerDataChange = 0 := by
      simpa [selects, urcbEventMapping] using hselects
    have hinitialized := initialized_of_state hstate
    simp only [MmsStaticUrcbRuntime.notify, onState, hinitialized, Bool.not_true,
      Bool.false_eq_true, if_false, hstate, henabled, urcbEventMapping, htrigger, hdata,
      if_neg (Nat.not_le.mpr hlt), dif_pos (show 1 < maximumMembers by decide)]
    rfl
  have hany : (run.runtime.state 0).any (fun state => selects state .dataChange) = true := by
    rw [hstate]
    exact hselects
  rw [UrcbRun.step, hnotify]
  dsimp only
  rw [if_pos ⟨rfl, hany⟩]
  refine
    { block := ⟨markMember ⟨1, by decide⟩ 0x40 0 state, dataSet, ?_, henabled, hselects, hdata, hlt,
        ?_, hsequence, rfl, ?_⟩
      encodings := h.encodings
      committed := h.committed
      discarded := h.discarded
      accepted := fun _ => List.mem_append_right _ (List.mem_singleton_self _)
      outstanding := fun note hmem => ?_ }
  · exact (state_setState hstate _ _).trans (if_pos rfl)
  · rw [Function.iterate_succ_apply', ← hrevision]
    rfl
  · show (if _ then state.pendingMemberCount + 1 else state.pendingMemberCount) ≠ 0
    split
    · exact Nat.succ_ne_zero _
    · exact hcount
  · rcases List.mem_append.mp hmem with hmem | hmem
    · exact h.outstanding note hmem
    · rw [List.mem_singleton.mp hmem]

/-- What the encoded report was made of. -/
def sampleEventInput : MmsBufferedSelectiveInformationReportSnapshotInput where
  reportId := [0x52]
  optionalFields := [0x50, 0x00]
  sequenceNumber := 1
  reportTime := []
  dataSetReference := ⟨[0x44], [0x53]⟩
  bufferOverflow := false
  entryId := []
  confRevision := 1
  dataSetMemberCount := 2
  includedMemberIndices := [0]
  includedMemberReferences := [⟨[0x44], [0x49]⟩]
  includedMemberResults := [{ success := true, encodedData := [0x83, 0x01, 0x01] }]
  includedReasonForInclusion := [0x40]

theorem encodeSnapshotInto_sampleEventInput :
    MmsBufferedSelectiveInformationReportSpanCodec.encodeSnapshotInto sampleEventInput 64 =
      { bytes := sampleEventReport, requiredBytes := 35 } := by
  decide

/-- When the revision has come round, the commit settles what is in no report. -/
theorem Waiting.lost {n : Nat} (h : Waiting run n) (hn : 0 < n)
    (hround : bumpRevision^[n] 3 = 3) : Lost (run.step (.commit 0 0)) sampleNote := by
  obtain ⟨state, dataSet, hstate, henabled, -, -, -, hrevision, hsequence, hpending, hcount⟩ :=
    h.block
  have hmatches : samplePlan.matchesState state = true := by
    simp [MmsStaticUrcbEmissionPlan.matchesState, samplePlan, henabled, hrevision, hround,
      hsequence, hpending, hcount, nextSequenceNumber, MmsStaticUrcbReportReason.event]
  have hcommit : (run.runtime.commit samplePlan 0).1 = .ok := by
    have hblock : run.runtime.state samplePlan.index = some state := hstate
    simp only [MmsStaticUrcbRuntime.commit, onState, initialized_of_state hstate, Bool.not_true,
      Bool.false_eq_true, if_false, hblock, hmatches]
  have hstep : run.step (.commit 0 0) =
      (run.after (run.runtime.commit samplePlan 0).2).deliver samplePlan sampleEventReport := by
    rw [UrcbRun.step, h.encodings]
    exact if_pos hcommit
  rw [hstep]
  refine ⟨h.accepted hn, fun hmem => ?_, ?_, fun report hmem => ?_⟩
  · simpa [samplePlan, sampleNote, MmsStaticUrcbReportReason.event] using
      (List.mem_filter.mp hmem).2
  · show sampleNote ∉ run.discarded
    rw [h.discarded]
    exact List.not_mem_nil
  · have hreports : report ∈ run.committed ++ [_] := hmem
    rw [h.committed, List.nil_append, List.mem_singleton] at hreports
    subst hreports
    refine ⟨sampleEventInput, 64, ?_, ?_, by decide⟩
    · rw [encodeSnapshotInto_sampleEventInput]
      rfl
    · rw [encodeSnapshotInto_sampleEventInput]

/-- The first block when its report is encoded. -/
def sampleUrcbState : MmsStaticUrcbState :=
  markMember ⟨0, by decide⟩ 0x40 0 (enable 0 (initialState (sampleUrcb 0x41 10)))

theorem waiting_sampleEncoded : Waiting (exec UrcbRun.step sampleUrcbs sampleEncoded) 0 where
  block := ⟨sampleUrcbState, _, by decide +kernel, rfl, by decide +kernel, rfl, by decide,
    by decide, rfl, rfl, by decide⟩
  encodings := encodings_sampleEncoded
  committed := rfl
  discarded := rfl
  accepted := nofun
  outstanding := by decide

theorem waiting_replicate (n : Nat) :
    Waiting (exec UrcbRun.step sampleUrcbs
      (sampleEncoded ++ List.replicate n (.notify 0 1 .dataChange 0))) n := by
  induction n with
  | zero => exact waiting_sampleEncoded
  | succ n ih =>
    rw [List.replicate_succ', ← List.append_assoc, exec_concat]
    exact ih.notify

/-- The run in which the runtime is initialized between the encoding and its commit. -/
def sampleRestarted : List UrcbOperation :=
  sampleEncoded ++ [.restart, .setEnabled 0 true 0, .notify 0 1 .dataChange 0]

def sampleUrcbConnection : MmsStaticConnectionRuntime :=
  { state := .established, mmsPresentationContextId := 3, negotiatedTpduSizeBytes := 1024 }

/-- Both blocks have an event; the report of the second one is due at once. -/
def sampleDue : List UrcbOperation :=
  [.restart, .setEnabled 0 true 0, .setEnabled 1 true 0, .notify 0 0 .dataChange 0,
    .notify 1 0 .dataChange 0]

theorem lost_sampleRestarted :
    Lost (exec UrcbRun.step sampleUrcbs (sampleRestarted ++ [.commit 0 0])) sampleNote := by
  have hcommitted : (exec UrcbRun.step sampleUrcbs (sampleRestarted ++ [.commit 0 0])).committed =
      [⟨samplePlan, sampleEventReport, [sampleNote]⟩] := by
    decide
  refine ⟨by decide, by decide, by decide, fun report hmem => ?_⟩
  rw [hcommitted, List.mem_singleton] at hmem
  subst hmem
  refine ⟨sampleEventInput, 64, ?_, ?_, by decide⟩
  · rw [encodeSnapshotInto_sampleEventInput]
    rfl
  · rw [encodeSnapshotInto_sampleEventInput]

/-- The first SqNum is 1, a plan can be committed for a later state of its block, and a poll after
a failed one can be about another block. -/
theorem urcb_reporting_unrestricted :
    (exec UrcbRun.step sampleUrcbs (sampleEncoded ++ [.commit 0 0])).sequence 0 = [1] ∧
    Lost (exec UrcbRun.step sampleUrcbs (sampleEncoded ++
      List.replicate (2 ^ 32 - 1) (.notify 0 1 .dataChange 0) ++ [.commit 0 0])) sampleNote ∧
    Lost (exec UrcbRun.step sampleUrcbs (sampleRestarted ++ [.commit 0 0])) sampleNote ∧
    (let rt := (exec UrcbRun.step sampleUrcbs sampleDue).runtime
     let failed := (poll sampleUrcbConnection rt 0 [] 4 64 sampleReads).1
     let next := (poll sampleUrcbConnection rt 10 [] 64 64 sampleReads).1
     failed.status = .responseBufferTooSmall ∧ failed.controlBlockIndex = 1 ∧
       next.status = .responseReady ∧ next.controlBlockIndex = 0) := by
  refine ⟨by decide +kernel, ?_, lost_sampleRestarted, by decide +kernel⟩
  rw [exec_concat]
  refine (waiting_replicate _).lost (by decide) ?_
  exact (iterate_bumpRevision_eq_iff (by decide) _).mpr (Nat.mod_self _)

end ArStack.Mms
