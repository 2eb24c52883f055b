import ArStack.Mms.AssociationRuntime
import ArStack.Spec.CotpTpktStream

/-!
# Batch matching

A batch of confirmed requests is answered by the payloads that arrive while the call receives.
When the call returns, each request has the one result with its invoke identifier among them,
and the InformationReports between them have been queued.

* `Receives` — the payloads that arrive on a line
* `BatchMatched` — what a batch that returns has done
* `batch_matched` — every batch
-/

namespace ArStack.Mms

open ArStack.Lib ArStack.Osi

/-! ## What arrives -/

/-- The payloads that the line delivers one after the other. -/
inductive Receives (maximumReceiveChunks : Nat) (start : MmsAssociationLine) :
    List Bytes → MmsAssociationLine → Prop where
  | nil : Receives maximumReceiveChunks start [] start
  | concat {payloads : List Bytes} {line line' : MmsAssociationLine} {payload : Bytes} :
    Receives maximumReceiveChunks start payloads line →
    MmsAssociationLine.receiveApplicationPayload maximumReceiveChunks line = .ok payload line' →
    Receives maximumReceiveChunks start (payloads ++ [payload]) line'

/-- The next `n` payloads of the line. -/
def receivePayloads (maximumReceiveChunks : Nat) :
    Nat → MmsAssociationLine → Option (List Bytes × MmsAssociationLine)
  | 0, line => some ([], line)
  | n + 1, line => do
    let (payloads, line) ← receivePayloads maximumReceiveChunks n line
    let (payload, line) ← returned
      (MmsAssociationLine.receiveApplicationPayload maximumReceiveChunks line)
    some (payloads ++ [payload], line)

theorem receives_of_receivePayloads {maximumReceiveChunks n : Nat}
    {start line : MmsAssociationLine} {payloads : List Bytes}
    (h : receivePayloads maximumReceiveChunks n start = some (payloads, line)) :
    Receives maximumReceiveChunks start payloads line := by
  induction n generalizing payloads line with
  | zero =>
    cases h
    exact .nil
  | succ n ih =>
    obtain ⟨⟨payloads', line'⟩, hfirst, h⟩ := Option.bind_eq_some_iff.mp h
    obtain ⟨⟨payload, line''⟩, hlast, h⟩ := Option.bind_eq_some_iff.mp h
    cases h
    exact (ih hfirst).concat (ok_of_returned hlast)

/-- The payload is an InformationReport. -/
def isReport (payload : Bytes) : Bool :=
  match MmsPduCodec.decodeEnvelope payload with
  | .ok envelope => envelope.informationReport
  | .error _ => false

/-- The payload is the result of a confirmed request. -/
def isResult (payload : Bytes) : Bool :=
  match MmsPduCodec.decodeEnvelope payload with
  | .ok envelope => envelope.confirmedResult
  | .error _ => false

/-- The payload is the result of the confirmed request with this invoke identifier. -/
def isResultOf (invokeId : Nat) (payload : Bytes) : Bool :=
  match MmsPduCodec.decodeEnvelope payload with
  | .ok envelope => envelope.confirmedResult && envelope.matchesInvoke invokeId
  | .error _ => false

namespace MmsAssociationRuntime

/-- What a batch that returns has done, with the payloads that arrived. -/
structure BatchMatched (rt : MmsAssociationRuntime) (requests : List MmsConfirmedBatchRequest)
    (payloads : List Bytes) (results : List MmsConfirmedExchangeResult)
    (rt' : MmsAssociationRuntime) : Prop where
  length : results.length = requests.length
  /-- The result of a request is the only one with its invoke identifier. -/
  only : ∀ (i : Nat) request, requests[i]? = some request →
    ∃ result, results[i]? = some result ∧
      payloads.filter (isResultOf request.invokeId) = [result.presentationPayload] ∧
      MmsPduCodec.decodeEnvelope result.presentationPayload = .ok result.envelope
  /-- No result belongs to another request. -/
  known : ∀ payload ∈ payloads, isResult payload = true →
    ∃ request ∈ requests, isResultOf request.invokeId payload = true
  /-- The reports are queued in their order; only a full queue drops its oldest ones. -/
  reports : ∃ dropped, rt.informationReports ++ payloads.filter isReport =
      dropped ++ rt'.informationReports ∧
    (dropped ≠ [] →
      rt.options.maximumQueuedInformationReports ≤ rt'.informationReports.length)
  /-- The router holds no result. -/
  router : rt'.invokeRouter.confirmed = []

/-! ## One payload -/

theorem onLine_ok {α : Type} {x : LineM α} {a : α} {rt rt' : MmsAssociationRuntime}
    (h : onLine x rt = .ok a rt') :
    x rt.toMmsAssociationLine = .ok a rt'.toMmsAssociationLine ∧
      rt' = { rt with toMmsAssociationLine := rt'.toMmsAssociationLine } := by
  rw [onLine] at h
  split at h
  · rename_i line heq
    cases h
    exact ⟨heq, rfl⟩
  · cases h

theorem receiveApplicationPayload_ok {rt rt' : MmsAssociationRuntime} {payload : Bytes}
    (h : receiveApplicationPayload rt = .ok payload rt') :
    MmsAssociationLine.receiveApplicationPayload rt.options.maximumReceiveChunksPerOperation
        rt.toMmsAssociationLine = .ok payload rt'.toMmsAssociationLine ∧
      rt' = { rt with toMmsAssociationLine := rt'.toMmsAssociationLine } :=
  onLine_ok (get_bind_ok h)

theorem throwFormat_ok {σ α : Type} {x : Except String α} {s s' : σ} {a : α}
    (h : (throwFormat x : EStateM MmsAssociationFailure σ α) s = .ok a s') :
    x = .ok a ∧ s = s' := by
  cases x with
  | error message => cases h
  | ok b =>
    cases h
    exact ⟨rfl, rfl⟩

/-- A payload is routed by what it decodes to: a report to the reports, anything else to the
router. -/
theorem routeReceivedPayload_ok {rt rt' : MmsAssociationRuntime} {payload : Bytes}
    {envelope : MmsPduEnvelope} (h : routeReceivedPayload payload rt = .ok envelope rt') :
    MmsPduCodec.decodeEnvelope payload = .ok envelope ∧
      ((envelope.informationReport = true ∧ rt' = rt.queueInformationReport payload) ∨
        (envelope.informationReport = false ∧ ∃ result invokeRouter,
          rt.invokeRouter.route payload = .ok (result, invokeRouter) ∧
            rt' = { rt with invokeRouter })) := by
  obtain ⟨envelope', rt₁, hthrow, h⟩ := bind_ok h
  obtain ⟨hdecode, rfl⟩ := throwFormat_ok hthrow
  replace h := get_bind_ok h
  split at h
  · rename_i hreport
    replace h := set_bind_ok h
    obtain ⟨rfl, rfl⟩ := pure_ok h
    exact ⟨hdecode, Or.inl ⟨hreport, rfl⟩⟩
  · rename_i hreport
    obtain ⟨⟨result, invokeRouter⟩, rt₂, hthrow, h⟩ := bind_ok h
    obtain ⟨hroute, rfl⟩ := throwFormat_ok hthrow
    replace h := set_bind_ok h
    obtain ⟨rfl, rfl⟩ := pure_ok h
    exact ⟨hdecode, Or.inr ⟨by simpa using hreport, result, invokeRouter, hroute, rfl⟩⟩

theorem dequeue_ok {rt rt' : MmsAssociationRuntime} {invokeId : Nat} {missing : String}
    {envelope matched : MmsPduEnvelope} (hqueue : rt.invokeRouter.confirmed = [(invokeId, envelope)])
    (h : dequeue invokeId missing rt = .ok matched rt') :
    matched = envelope ∧
      rt' = { rt with invokeRouter := (rt.invokeRouter.tryDequeue invokeId).2 } := by
  obtain ⟨hfirst, -⟩ := MmsInvokeRouter.tryDequeue_singleton hqueue
  rw [dequeue] at h
  split at h
  · cases h
  · rename_i envelope' invokeRouter heq
    rw [heq] at hfirst ⊢
    cases h
    exact ⟨Option.some.inj hfirst, rfl⟩

/-! ## The requests -/

/-- Accepted requests have different invoke identifiers. -/
theorem nodup_of_checkRequests {before : List Nat} {requests : List MmsConfirmedBatchRequest}
    (h : checkRequests before requests = .ok ()) :
    (requests.map (·.invokeId)).Nodup ∧ ∀ request ∈ requests, request.invokeId ∉ before := by
  induction requests generalizing before with
  | nil => exact ⟨List.nodup_nil, nofun⟩
  | cons request requests ih =>
    rw [checkRequests] at h
    split at h
    · cases h
    · rename_i hvalid
      obtain ⟨-, -, h⟩ := except_bind_ok h
      obtain ⟨hnodup, hbefore⟩ := ih h
      rw [Bool.or_eq_true, not_or] at hvalid
      have hnew : request.invokeId ∉ before := by simpa using hvalid.2
      refine ⟨?_, ?_⟩
      · rw [List.map_cons, List.nodup_cons]
        refine ⟨fun hmem => ?_, hnodup⟩
        obtain ⟨other, hother, heq⟩ := List.mem_map.mp hmem
        exact hbefore other hother (heq ▸ List.mem_cons_self)
      · intro other hother
        rcases List.mem_cons.mp hother with rfl | hother
        · exact hnew
        · exact fun hmem => hbefore other hother (List.mem_cons_of_mem _ hmem)

theorem nodup_of_acceptBatch {rt : MmsAssociationRuntime}
    {requests : List MmsConfirmedBatchRequest} (h : rt.acceptBatch requests = .ok ()) :
    (requests.map (·.invokeId)).Nodup ∧ requests ≠ [] := by
  obtain ⟨-, -, h⟩ := except_bind_ok h
  split at h
  · cases h
  · rename_i hwindow
    split at h
    · cases h
    · rename_i hcheck
      exact ⟨(nodup_of_checkRequests hcheck).1, fun hempty => hwindow (Or.inl hempty)⟩

theorem slotOf_eq_some {requests : List MmsConfirmedBatchRequest} {invokeId slot : Nat}
    (h : slotOf requests (some invokeId) = some slot) :
    ∃ request, requests[slot]? = some request ∧ request.invokeId = invokeId := by
  rw [slotOf] at h
  obtain ⟨hlt, hfound, -⟩ := List.findIdx?_eq_some_iff_getElem.mp h
  exact ⟨requests[slot], List.getElem?_eq_getElem hlt, by simpa using hfound⟩

/-! ## The receive loop -/

/-- What the receive loop keeps, from the line where all requests are sent on. -/
structure Collecting (start : MmsAssociationRuntime) (requests : List MmsConfirmedBatchRequest)
    (payloads : List Bytes) (completed : List (Option MmsConfirmedExchangeResult))
    (rt : MmsAssociationRuntime) : Prop where
  arrived : Receives start.options.maximumReceiveChunksPerOperation start.toMmsAssociationLine
    payloads rt.toMmsAssociationLine
  options : rt.options = start.options
  length : completed.length = requests.length
  /-- A filled slot has a result of its request. -/
  own : ∀ (slot : Nat) result, completed[slot]? = some (some result) →
    MmsPduCodec.decodeEnvelope result.presentationPayload = .ok result.envelope ∧
      result.envelope.confirmedResult = true ∧
      result.envelope.invokeId = (requests[slot]?).map (·.invokeId)
  /-- The filled slots are the results that arrived. -/
  results : (payloads.filter isResult).Perm
    ((completed.filterMap id).map (·.presentationPayload))
  reports : ∃ dropped, start.informationReports ++ payloads.filter isReport =
      dropped ++ rt.informationReports ∧
    (dropped ≠ [] →
      start.options.maximumQueuedInformationReports ≤ rt.informationReports.length)
  router : rt.invokeRouter.confirmed = []

section Loop

variable {start rt rt₁ rt₂ : MmsAssociationRuntime} {requests : List MmsConfirmedBatchRequest}
  {payloads : List Bytes} {completed : List (Option MmsConfirmedExchangeResult)}
  {payload : Bytes} {envelope : MmsPduEnvelope}

theorem isReport_eq (h : MmsPduCodec.decodeEnvelope payload = .ok envelope) :
    isReport payload = envelope.informationReport := by
  rw [isReport, h]

theorem isResult_eq (h : MmsPduCodec.decodeEnvelope payload = .ok envelope) :
    isResult payload = envelope.confirmedResult := by
  rw [isResult, h]

theorem isResultOf_eq (h : MmsPduCodec.decodeEnvelope payload = .ok envelope) (invokeId : Nat) :
    isResultOf invokeId payload =
      (envelope.confirmedResult && envelope.matchesInvoke invokeId) := by
  rw [isResultOf, h]

/-- Queueing a report drops at most the oldest one. -/
theorem queueInformationReport_reports (rt : MmsAssociationRuntime) (payload : Bytes) :
    ∃ dropped, rt.informationReports ++ [payload] =
        dropped ++ (rt.queueInformationReport payload).informationReports ∧
      (dropped ≠ [] → rt.options.maximumQueuedInformationReports ≤
        (rt.queueInformationReport payload).informationReports.length) := by
  rw [queueInformationReport]
  by_cases hfull : rt.informationReports.length ≥ rt.options.maximumQueuedInformationReports
  · simp only [if_pos hfull]
    refine ⟨rt.informationReports.take 1, ?_, ?_⟩
    · rw [← List.append_assoc, List.take_append_drop]
    · intro hne
      have hpos : rt.informationReports ≠ [] := fun hnil => hne (by rw [hnil, List.take_nil])
      have := List.length_pos_iff.mpr hpos
      simp only [List.length_append, List.length_drop, List.length_singleton]
      omega
  · simp only [if_neg hfull]
    exact ⟨[], rfl, fun hne => absurd rfl hne⟩

/-- A payload that arrives and is routed. -/
theorem Collecting.route (h : Collecting start requests payloads completed rt)
    (hreceive : receiveApplicationPayload rt = .ok payload rt₁)
    (hroute : routeReceivedPayload payload rt₁ = .ok envelope rt₂) :
    Receives start.options.maximumReceiveChunksPerOperation start.toMmsAssociationLine
        (payloads ++ [payload]) rt₂.toMmsAssociationLine ∧
      rt₂.options = start.options ∧
      ∃ dropped, start.informationReports ++ (payloads ++ [payload]).filter isReport =
          dropped ++ rt₂.informationReports ∧
        (dropped ≠ [] →
          start.options.maximumQueuedInformationReports ≤ rt₂.informationReports.length) := by
  obtain ⟨hline, hrt₁⟩ := receiveApplicationPayload_ok hreceive
  obtain ⟨hdecode, hcases⟩ := routeReceivedPayload_ok hroute
  rw [h.options] at hline
  have harrived := h.arrived.concat hline
  have hoptions : rt₁.options = start.options := by rw [hrt₁, ← h.options]
  have hreports₁ : rt₁.informationReports = rt.informationReports := by rw [hrt₁]
  obtain ⟨dropped, hdropped, hfull⟩ := h.reports
  rw [List.filter_append]
  rcases hcases with ⟨hreport, rfl⟩ | ⟨hreport, _, _, _, rfl⟩
  · refine ⟨harrived, hoptions, ?_⟩
    obtain ⟨more, hmore, hmoreFull⟩ := queueInformationReport_reports rt₁ payload
    rw [hoptions] at hmoreFull
    refine ⟨dropped ++ more, ?_, fun hne => ?_⟩
    · rw [List.filter_cons_of_pos (by rw [isReport_eq hdecode, hreport]), List.filter_nil,
        ← List.append_assoc, hdropped, List.append_assoc, List.append_assoc, ← hmore, hreports₁]
    · by_cases hmoreNil : more = []
      · rw [hmoreNil, List.append_nil] at hne
        have hlength := congrArg List.length hmore
        have := hfull hne
        rw [hmoreNil, List.nil_append, hreports₁, List.length_append] at hlength
        rw [← hlength]
        omega
      · exact hmoreFull hmoreNil
  · refine ⟨harrived, hoptions, dropped, ?_, ?_⟩
    · rw [List.filter_cons_of_neg (by rw [isReport_eq hdecode, hreport]; exact Bool.false_ne_true),
        List.filter_nil, List.append_nil, hdropped, hreports₁]
    · rw [hreports₁]
      exact hfull

/-- A payload that is not a result. -/
theorem Collecting.skip (h : Collecting start requests payloads completed rt)
    (hreceive : receiveApplicationPayload rt = .ok payload rt₁)
    (hroute : routeReceivedPayload payload rt₁ = .ok envelope rt₂)
    (hconfirmed : envelope.confirmedResult = false) :
    Collecting start requests (payloads ++ [payload]) completed rt₂ := by
  obtain ⟨harrived, hoptions, hreports⟩ := h.route hreceive hroute
  obtain ⟨-, hrt₁⟩ := receiveApplicationPayload_ok hreceive
  obtain ⟨hdecode, hcases⟩ := routeReceivedPayload_ok hroute
  have hrouter₁ : rt₁.invokeRouter = rt.invokeRouter := by rw [hrt₁]
  refine ⟨harrived, hoptions, h.length, h.own, ?_, hreports, ?_⟩
  · rw [List.filter_append, List.filter_cons_of_neg (by rw [isResult_eq hdecode, hconfirmed]; exact Bool.false_ne_true),
      List.filter_nil, List.append_nil]
    exact h.results
  · rcases hcases with ⟨-, rfl⟩ | ⟨-, _, _, hrouted, rfl⟩
    · exact (congrArg MmsInvokeRouter.confirmed hrouter₁).trans h.router
    · rw [MmsInvokeRouter.route_of_not_confirmed hdecode hconfirmed hrouted, hrouter₁, h.router]

/-- A result, which the router then has. -/
theorem Collecting.confirmed (h : Collecting start requests payloads completed rt)
    (hreceive : receiveApplicationPayload rt = .ok payload rt₁)
    (hroute : routeReceivedPayload payload rt₁ = .ok envelope rt₂) {invokeId : Nat}
    (hconfirmed : envelope.confirmedResult = true) (hid : envelope.invokeId = some invokeId) :
    rt₂.invokeRouter.confirmed = [(invokeId, envelope)] := by
  obtain ⟨-, hrt₁⟩ := receiveApplicationPayload_ok hreceive
  obtain ⟨hdecode, hcases⟩ := routeReceivedPayload_ok hroute
  have hrouter₁ : rt₁.invokeRouter = rt.invokeRouter := by rw [hrt₁]
  rcases hcases with ⟨hreport, -⟩ | ⟨-, _, _, hrouted, rfl⟩
  · rw [MmsPduCodec.confirmedResult_of_informationReport hdecode hreport] at hconfirmed
    cases hconfirmed
  · rw [MmsInvokeRouter.route_of_confirmed hdecode hconfirmed hid hrouted, hrouter₁, h.router]
    rfl

/-- A result that fills the slot of its request. -/
theorem Collecting.fill (h : Collecting start requests payloads completed rt)
    (hreceive : receiveApplicationPayload rt = .ok payload rt₁)
    (hroute : routeReceivedPayload payload rt₁ = .ok envelope rt₂) {invokeId slot : Nat}
    (hconfirmed : envelope.confirmedResult = true) (hid : envelope.invokeId = some invokeId)
    (hslot : slotOf requests (some invokeId) = some slot) (hempty : completed[slot]? = some none) :
    Collecting start requests (payloads ++ [payload])
      (completed.set slot (some { envelope, presentationPayload := payload }))
      { rt₂ with invokeRouter := (rt₂.invokeRouter.tryDequeue invokeId).2 } := by
  obtain ⟨harrived, hoptions, hreports⟩ := h.route hreceive hroute
  obtain ⟨hdecode, -⟩ := routeReceivedPayload_ok hroute
  obtain ⟨request, hrequest, hrequestId⟩ := slotOf_eq_some hslot
  have hqueue := h.confirmed hreceive hroute hconfirmed hid
  refine ⟨harrived, hoptions, by rw [List.length_set, h.length], ?_, ?_, hreports,
    (MmsInvokeRouter.tryDequeue_singleton hqueue).2⟩
  · intro slot' result hresult
    by_cases heq : slot = slot'
    · subst heq
      rw [List.getElem?_set_self (List.getElem?_eq_some_iff.mp hempty).1] at hresult
      obtain rfl := Option.some.inj (Option.some.inj hresult)
      exact ⟨hdecode, hconfirmed, by rw [hid, hrequest, ← hrequestId]; rfl⟩
    · rw [List.getElem?_set_ne heq] at hresult
      exact h.own slot' result hresult
  · rw [List.filter_append, List.filter_cons_of_pos (by rw [isResult_eq hdecode, hconfirmed]),
      List.filter_nil]
    have hfilled := (perm_filterMap_set hempty
      (a := { envelope, presentationPayload := payload })).map (·.presentationPayload)
    rw [List.map_cons] at hfilled
    exact ((h.results.append_right [payload]).trans
      (List.perm_append_singleton _ _)).trans hfilled.symm

/-- **The receive loop.** When it returns, every slot is filled. -/
theorem collectResults_ok {iterations remaining : Nat} {results : List MmsConfirmedExchangeResult}
    {rt' : MmsAssociationRuntime} (hc : Collecting start requests payloads completed rt)
    (hremaining : completed.countP Option.isNone = remaining)
    (h : collectResults requests iterations completed remaining rt = .ok results rt') :
    ∃ payloads' completed', Collecting start requests payloads' completed' rt' ∧
      completed'.countP Option.isNone = 0 ∧ results = completed'.filterMap id := by
  induction iterations generalizing rt payloads completed remaining with
  | zero => cases h
  | succ iterations ih =>
    rw [collectResults] at h
    obtain ⟨payload, rt₁, hreceive, h⟩ := bind_ok h
    obtain ⟨envelope, rt₂, hroute, h⟩ := bind_ok h
    by_cases hconfirmed : envelope.confirmedResult = true
    · rw [if_neg (by simp [hconfirmed])] at h
      cases hid : envelope.invokeId with
      | none =>
        rw [hid] at h
        cases h
      | some invokeId =>
        rw [hid] at h
        cases hslot : slotOf requests (some invokeId) with
        | none =>
          rw [hslot] at h
          cases h
        | some slot =>
          rw [hslot] at h
          dsimp only at h
          split at h
          · cases h
          rename_i hfilled
          obtain ⟨request, hrequest, -⟩ := slotOf_eq_some hslot
          have hlt : slot < completed.length := by
            rw [hc.length]
            exact (List.getElem?_eq_some_iff.mp hrequest).1
          have hempty : completed[slot]? = some none := by
            rw [List.getD_eq_getElem?_getD, List.getElem?_eq_getElem hlt, Option.getD_some] at hfilled
            rw [List.getElem?_eq_getElem hlt, Option.not_isSome_iff_eq_none.mp hfilled]
          obtain ⟨matched, rt₃, hdequeue, h⟩ := bind_ok h
          obtain ⟨rfl, rfl⟩ := dequeue_ok (hc.confirmed hreceive hroute hconfirmed hid) hdequeue
          have hnext := hc.fill hreceive hroute hconfirmed hid hslot hempty
          have hcount := countP_isNone_set hempty
            (a := { envelope := matched, presentationPayload := payload })
          split at h
          · rename_i hlast
            obtain ⟨rfl, rfl⟩ := pure_ok h
            exact ⟨_, _, hnext, by omega, rfl⟩
          · exact ih hnext (by omega) h
    · rw [if_pos (by simpa using hconfirmed)] at h
      exact ih (hc.skip hreceive hroute (by simpa using hconfirmed)) hremaining h

/-- Full slots are the results of the requests. -/
theorem Collecting.matched {rt' : MmsAssociationRuntime} {payloads : List Bytes}
    (hc : Collecting start requests payloads completed rt')
    (hfull : completed.countP Option.isNone = 0) (hnodup : (requests.map (·.invokeId)).Nodup) :
    BatchMatched start requests payloads (completed.filterMap id) rt' := by
  have hget := getElem?_filterMap_of_full hfull
  have hslot (i : Nat) (hi : i < completed.length) : ∃ result, completed[i]? = some (some result) := by
    have hmem : completed[i] ∈ completed := List.getElem_mem hi
    have hsome := List.countP_eq_zero.mp hfull _ hmem
    cases heq : completed[i] with
    | none => exact absurd (congrArg Option.isNone heq) hsome
    | some result => exact ⟨result, by rw [List.getElem?_eq_getElem hi, heq]⟩
  -- slot by slot, the identifiers of the results are those of the requests
  have hids : (completed.filterMap id).map (·.envelope.invokeId) =
      requests.map fun request => some request.invokeId := by
    refine List.ext_getElem? fun i => ?_
    rw [List.getElem?_map, List.getElem?_map, hget]
    by_cases hi : i < completed.length
    · obtain ⟨result, hresult⟩ := hslot i hi
      obtain ⟨-, -, hid⟩ := hc.own i result hresult
      rw [hresult]
      rw [hc.length] at hi
      rw [List.getElem?_eq_getElem hi] at hid ⊢
      simpa using hid
    · rw [List.getElem?_eq_none (by omega), List.getElem?_eq_none (by rw [← hc.length]; omega)]
      rfl
  have hidsNodup : ((completed.filterMap id).map (·.envelope.invokeId)).Nodup := by
    rw [hids]
    have := List.Nodup.map (f := some) (fun _ _ => Option.some.inj) hnodup
    rwa [List.map_map] at this
  have hresultOf (result : MmsConfirmedExchangeResult) (hmem : result ∈ completed.filterMap id) :
      MmsPduCodec.decodeEnvelope result.presentationPayload = .ok result.envelope ∧
        result.envelope.confirmedResult = true := by
    obtain ⟨o, ho, hsome⟩ := List.mem_filterMap.mp hmem
    obtain ⟨i, hi, rfl⟩ := List.mem_iff_getElem.mp ho
    obtain ⟨hdecode, hconfirmed, -⟩ := hc.own i result (by
      rw [List.getElem?_eq_getElem hi]
      exact congrArg some hsome)
    exact ⟨hdecode, hconfirmed⟩
  have hlength : (completed.filterMap id).length = requests.length := by
    have := congrArg List.length hids
    simpa using this
  refine ⟨hlength, ?_, ?_, hc.reports, hc.router⟩
  · intro i request hrequest
    have hi : i < completed.length := by
      rw [hc.length]
      exact (List.getElem?_eq_some_iff.mp hrequest).1
    obtain ⟨result, hresult⟩ := hslot i hi
    obtain ⟨hdecode, -, hid⟩ := hc.own i result hresult
    rw [hrequest] at hid
    have hat : (completed.filterMap id)[i]? = some result := by
      rw [hget, hresult]
      rfl
    refine ⟨result, hat, ?_, hdecode⟩
    have hsub : payloads.filter (isResultOf request.invokeId) =
        (payloads.filter isResult).filter (isResultOf request.invokeId) := by
      rw [List.filter_filter]
      refine List.filter_congr fun payload _ => ?_
      rw [isResultOf, isResult]
      split
      · rename_i envelope _
        cases envelope.confirmedResult <;> simp
      · rfl
    have hone : ((completed.filterMap id).map (·.presentationPayload)).filter
        (isResultOf request.invokeId) = [result.presentationPayload] := by
      rw [List.filter_map]
      have hkey : (completed.filterMap id).filter
            (isResultOf request.invokeId ∘ (·.presentationPayload)) =
          (completed.filterMap id).filter
            fun other => other.envelope.invokeId == result.envelope.invokeId := by
        refine List.filter_congr fun other hother => ?_
        obtain ⟨hdecode', hconfirmed'⟩ := hresultOf other hother
        rw [Function.comp_apply, isResultOf_eq hdecode', hconfirmed', hid]
        rfl
      rw [hkey]
      exact congrArg _ (filter_eq_singleton hidsNodup hat)
    rw [hsub]
    exact List.perm_singleton.mp (hone ▸ hc.results.filter (isResultOf request.invokeId))
  · intro payload hpayload hresult
    have hpayloads := hc.results.mem_iff.mp (List.mem_filter.mpr ⟨hpayload, hresult⟩)
    obtain ⟨result, hmem, rfl⟩ := List.mem_map.mp hpayloads
    obtain ⟨hdecode, hconfirmed⟩ := hresultOf result hmem
    have hid : result.envelope.invokeId ∈ requests.map fun request => some request.invokeId := by
      rw [← hids]
      exact List.mem_map_of_mem hmem
    obtain ⟨request, hrequest, heq⟩ := List.mem_map.mp hid
    refine ⟨request, hrequest, ?_⟩
    rw [isResultOf_eq hdecode, hconfirmed, MmsPduEnvelope.matchesInvoke, ← heq]
    simp

end Loop

/-! ## The call -/

/-- All requests are sent, and the router was empty before. -/
theorem batchBody_ok {rt rt' : MmsAssociationRuntime} {requests : List MmsConfirmedBatchRequest}
    {results : List MmsConfirmedExchangeResult} (h : batchBody requests rt = .ok results rt') :
    rt.invokeRouter.confirmed = [] ∧ ∃ sent, sendRequests requests rt = .ok () sent ∧
      collectResults requests sent.options.maximumReceiveChunksPerOperation
        (List.replicate requests.length none) requests.length sent = .ok results rt' := by
  obtain ⟨_, rt₁, horphan, hrest⟩ := bind_ok h
  obtain ⟨_, sent, hsend, hcollect⟩ := bind_ok hrest
  replace hcollect := get_bind_ok hcollect
  replace horphan := get_bind_ok horphan
  split at horphan
  · cases horphan
  · rename_i hcount
    obtain ⟨-, rfl⟩ := pure_ok horphan
    exact ⟨List.length_eq_zero_iff.mp (not_not.mp hcount), sent, hsend, hcollect⟩

/-- Sending changes only the line. -/
theorem sendRequests_ok {rt rt' : MmsAssociationRuntime}
    {requests : List MmsConfirmedBatchRequest} (h : sendRequests requests rt = .ok () rt') :
    rt' = { rt with toMmsAssociationLine := rt'.toMmsAssociationLine } := by
  induction requests generalizing rt with
  | nil =>
    obtain ⟨-, rfl⟩ := pure_ok h
    rfl
  | cons request requests ih =>
    obtain ⟨_, rt₁, hcancelled, hrest⟩ := bind_ok h
    obtain ⟨_, rt₂, hsend, hrequests⟩ := bind_ok hrest
    obtain ⟨-, hrt₁⟩ := onLine_ok hcancelled
    obtain ⟨-, hrt₂⟩ := onLine_ok (get_bind_ok hsend)
    rw [ih hrequests, hrt₂, hrt₁]

/-- **A batch of confirmed requests.** When the call returns, it has matched the results that
arrived. When it fails after the requests were accepted, no result is left in the router; a
batch that is not accepted leaves the association as it was. -/
theorem batch_matched (rt : MmsAssociationRuntime) (requests : List MmsConfirmedBatchRequest) :
    (∀ results rt', exchangeConfirmedBatch requests rt = .ok results rt' →
      ∃ sent payloads, sendRequests requests rt = .ok () sent ∧
        Receives rt.options.maximumReceiveChunksPerOperation sent.toMmsAssociationLine payloads
          rt'.toMmsAssociationLine ∧
        BatchMatched rt requests payloads results rt') ∧
    (∀ failure rt', exchangeConfirmedBatch requests rt = .error failure rt' →
      (rt.acceptBatch requests = .error failure ∧ rt' = rt) ∨
      (rt.acceptBatch requests = .ok () ∧ rt'.invokeRouter.confirmed = [] ∧
        rt'.state = .faulted)) := by
  refine ⟨fun results rt' h => ?_, fun failure rt' h => ?_⟩
  · rw [exchangeConfirmedBatch] at h
    split at h
    · cases h
    rename_i haccept
    rw [guarded] at h
    split at h
    · rename_i hbody
      cases h
      obtain ⟨hempty, sent, hsend, hcollect⟩ := batchBody_ok hbody
      have hsent := sendRequests_ok hsend
      obtain ⟨hnodup, hne⟩ := nodup_of_acceptBatch haccept
      have hoptions : sent.options = rt.options := by rw [hsent]
      have hreports : sent.informationReports = rt.informationReports := by rw [hsent]
      have hstart : Collecting sent requests [] (List.replicate requests.length none) sent := by
        refine ⟨.nil, rfl, List.length_replicate, fun slot result hresult => ?_, ?_,
          ⟨[], List.append_nil _, fun hne => absurd rfl hne⟩, ?_⟩
        · rw [List.getElem?_replicate] at hresult
          split at hresult <;> cases hresult
        · rw [List.filterMap_replicate_of_none rfl]
          exact List.Perm.refl _
        · rw [hsent]
          exact hempty
      have hmissing : (List.replicate requests.length
          (none : Option MmsConfirmedExchangeResult)).countP Option.isNone = requests.length := by
        rw [List.countP_replicate]
        rfl
      obtain ⟨payloads, completed, hdone, hfull, rfl⟩ := collectResults_ok hstart hmissing hcollect
      have hmatched := hdone.matched hfull hnodup
      refine ⟨sent, payloads, hsend, hoptions ▸ hdone.arrived, hmatched.length, hmatched.only,
        hmatched.known, ?_, hmatched.router⟩
      rw [← hreports, ← hoptions]
      exact hmatched.reports
    · cases h
  · rw [exchangeConfirmedBatch] at h
    split at h
    · rename_i failure' haccept
      cases h
      exact Or.inl ⟨haccept, rfl⟩
    · rename_i haccept
      rw [guarded] at h
      split at h
      · cases h
      · cases h
        exact Or.inr ⟨haccept, rfl, rfl⟩

/-! ## A batch of two -/

/-- A Read request, and the response to it. -/
def sampleRequest (invokeId : UInt8) : MmsConfirmedBatchRequest :=
  ⟨[0xA0, 0x05, 0x02, 0x01, invokeId, 0xA4, 0x00], invokeId.toNat⟩

def sampleResponse (invokeId : UInt8) : Bytes := [0xA1, 0x05, 0x02, 0x01, invokeId, 0xA4, 0x00]

def sampleReport (content : UInt8) : Bytes := [0xA3, 0x03, 0xA0, 0x01, content]

/-- A payload in its frame. -/
def sampleFrame (payload : Bytes) : Bytes := tpktFrame (segmentTpdu (true, payload))

/-- An association whose transport has been given `sent`, and will receive two chunks, each with
a response and a report. -/
def sampleAssociation (maximumQueuedInformationReports : Nat) (sent : List Bytes) :
    MmsAssociationRuntime :=
  { transport :=
      { sent
        receives :=
          [.ok (sampleFrame (sampleResponse 8) ++ sampleFrame (sampleReport 1)),
            .ok (sampleFrame (sampleReport 2) ++ sampleFrame (sampleResponse 7))] }
    options := { maximumReceiveChunksPerOperation := 8, maximumQueuedInformationReports }
    state := .associated
    negotiatedOutstandingVerified := true }

/-- The frames of both requests. -/
def sampleSent : List Bytes :=
  [sampleFrame (sampleRequest 7).presentationPayload,
    sampleFrame (sampleRequest 8).presentationPayload]

def sampleResult (invokeId : UInt8) : MmsConfirmedExchangeResult :=
  { envelope :=
      { kind := .confirmedResponse
        invokeId := some invokeId.toNat
        serviceTag := some 4
        mmsPayload := sampleResponse invokeId }
    presentationPayload := sampleResponse invokeId }

/-- The association after the batch, with these reports in the queue. -/
def sampleDone (maximumQueuedInformationReports : Nat) (reports : List Bytes) :
    MmsAssociationRuntime :=
  { sampleAssociation maximumQueuedInformationReports sampleSent with
    transport := { sent := sampleSent }
    tpktDecoder := { decodedFrames := 4 }
    informationReports := reports }

theorem encodeDataSegments_sample (invokeId : UInt8) :
    CotpFrameCodec.encodeDataSegments (sampleRequest invokeId).presentationPayload 0x0A =
      .ok [segmentTpdu (true, (sampleRequest invokeId).presentationPayload)] := by
  have hlength : (sampleRequest invokeId).presentationPayload.length = 7 := rfl
  have hsize : CotpFrameCodec.tpduSizeBytes 0x0A = .ok 1024 := rfl
  rw [CotpFrameCodec.encodeDataSegments_eq hsize (by decide) (by rw [hlength]; decide),
    segments_of_le (by rw [hlength]; decide)]
  rfl

theorem sendApplicationPayload_sample (maximum : Nat) (sent : List Bytes) (invokeId : UInt8) :
    sendApplicationPayload (sampleRequest invokeId).presentationPayload
        (sampleAssociation maximum sent) =
      .ok () (sampleAssociation maximum
        (sent ++ [sampleFrame (sampleRequest invokeId).presentationPayload])) := by
  change onLine (MmsAssociationLine.sendApplicationPayload 0x0A _) _ = _
  rw [onLine, MmsAssociationLine.sendApplicationPayload, encodeDataSegments_sample]
  rfl

theorem sendRequests_sample (maximum : Nat) :
    sendRequests [sampleRequest 7, sampleRequest 8] (sampleAssociation maximum []) =
      .ok () (sampleAssociation maximum sampleSent) := by
  change (sendApplicationPayload (sampleRequest 7).presentationPayload >>= fun _ =>
    sendRequests [sampleRequest 8]) (sampleAssociation maximum []) = _
  rw [bind_of_ok (sendApplicationPayload_sample maximum [] 7)]
  change (sendApplicationPayload (sampleRequest 8).presentationPayload >>= fun _ =>
    sendRequests []) (sampleAssociation maximum _) = _
  rw [bind_of_ok (sendApplicationPayload_sample maximum _ 8)]
  rfl

/-- What the receive loop does, for a queue of `maximum` reports, decides the batch. -/
theorem exchangeConfirmedBatch_sample {maximum : Nat} {reports : List Bytes}
    (h : collectResults [sampleRequest 7, sampleRequest 8] 8 [none, none] 2
        (sampleAssociation maximum sampleSent) =
      .ok [sampleResult 7, sampleResult 8] (sampleDone maximum reports)) :
    exchangeConfirmedBatch [sampleRequest 7, sampleRequest 8] (sampleAssociation maximum []) =
      .ok [sampleResult 7, sampleResult 8] (sampleDone maximum reports) := by
  have haccept : (sampleAssociation maximum []).acceptBatch [sampleRequest 7, sampleRequest 8] =
      .ok () := rfl
  have hbody : batchBody [sampleRequest 7, sampleRequest 8] (sampleAssociation maximum []) =
      .ok [sampleResult 7, sampleResult 8] (sampleDone maximum reports) := by
    change (sendRequests [sampleRequest 7, sampleRequest 8] >>= fun _ => _)
      (sampleAssociation maximum []) = _
    rw [bind_of_ok (sendRequests_sample maximum)]
    exact h
  rw [exchangeConfirmedBatch, haccept]
  dsimp only
  rw [guarded, hbody]

theorem batch_matched_sample :
    ∃ sent payloads, sendRequests [sampleRequest 7, sampleRequest 8] (sampleAssociation 2 []) =
        .ok () sent ∧
      Receives 8 sent.toMmsAssociationLine payloads
        (sampleDone 2 [sampleReport 1, sampleReport 2]).toMmsAssociationLine ∧
      BatchMatched (sampleAssociation 2 []) [sampleRequest 7, sampleRequest 8] payloads
        [sampleResult 7, sampleResult 8] (sampleDone 2 [sampleReport 1, sampleReport 2]) :=
  (batch_matched (sampleAssociation 2 []) [sampleRequest 7, sampleRequest 8]).1 _ _
    (exchangeConfirmedBatch_sample (ok_of_returned (by decide +kernel)))

/-- **A report is lost.** With room for one report, the first of two that arrive during a batch
is gone when the call returns. -/
theorem report_dropped :
    exchangeConfirmedBatch [sampleRequest 7, sampleRequest 8] (sampleAssociation 1 []) =
        .ok [sampleResult 7, sampleResult 8] (sampleDone 1 [sampleReport 2]) ∧
      Receives 8 (sampleAssociation 1 sampleSent).toMmsAssociationLine
        [sampleResponse 8, sampleReport 1, sampleReport 2, sampleResponse 7]
        (sampleDone 1 [sampleReport 2]).toMmsAssociationLine ∧
      isReport (sampleReport 1) = true ∧
      sampleReport 1 ∉ (sampleDone 1 [sampleReport 2]).informationReports := by
  refine ⟨exchangeConfirmedBatch_sample (ok_of_returned (by decide +kernel)),
    receives_of_receivePayloads (n := 4) (by decide +kernel), by decide, by decide⟩

end MmsAssociationRuntime

end ArStack.Mms
