import ArStack.Mms.Pdu

/-!
# The invoke router

`MmsInvokeRouter` keeps the confirmed results that nobody has taken yet, in a queue for each
invoke identifier, and the other PDUs in a bounded queue of their own. The queues of all
identifiers are one list in the order of arrival, so that there is no empty queue and the
count is its length. The mutex is not modelled.

* `route` — decode a PDU and queue it
* `tryDequeue` — take the oldest result of an identifier
-/

namespace ArStack.Mms

inductive MmsInvokeRouteAction where
  | queuedConfirmedResult
  | queuedUnmatched
  deriving DecidableEq

structure MmsInvokeRouteResult where
  action : MmsInvokeRouteAction := .queuedUnmatched
  envelope : MmsPduEnvelope := {}
  deriving DecidableEq

structure MmsInvokeRouter where
  maximumQueuedResults : Nat := 1024
  maximumResultsPerInvoke : Nat := 8
  confirmed : List (Nat × MmsPduEnvelope) := []
  unmatched : List MmsPduEnvelope := []
  deriving DecidableEq

namespace MmsInvokeRouter

def create (maximumQueuedResults maximumResultsPerInvoke : Nat) : Except String MmsInvokeRouter :=
  if maximumQueuedResults = 0 ∨ maximumResultsPerInvoke = 0 ∨
      maximumResultsPerInvoke > maximumQueuedResults then
    .error "MMS invoke-router limits are invalid."
  else .ok { maximumQueuedResults, maximumResultsPerInvoke }

variable (router : MmsInvokeRouter)

def queuedConfirmedCount : Nat := router.confirmed.length

def queuedUnmatchedCount : Nat := router.unmatched.length

/-- The results of one identifier, oldest first. -/
def queueOf (invokeId : Nat) : List (Nat × MmsPduEnvelope) :=
  router.confirmed.filter (·.1 == invokeId)

/-- Queue a PDU that is not a confirmed result; the oldest one makes room. -/
def queueUnmatched (envelope : MmsPduEnvelope) : MmsInvokeRouteResult × MmsInvokeRouter :=
  let unmatched :=
    if router.unmatched.length ≥ router.maximumQueuedResults then router.unmatched.drop 1
    else router.unmatched
  ({ action := .queuedUnmatched, envelope },
    { router with unmatched := unmatched ++ [envelope] })

def queueConfirmed (invokeId : Nat) (envelope : MmsPduEnvelope) :
    Except String (MmsInvokeRouteResult × MmsInvokeRouter) :=
  if router.queuedConfirmedCount ≥ router.maximumQueuedResults then
    .error "MMS invoke-router total queue limit exceeded."
  else if (router.queueOf invokeId).length ≥ router.maximumResultsPerInvoke then
    .error "MMS invoke-router per-invoke queue limit exceeded."
  else
    .ok ({ action := .queuedConfirmedResult, envelope },
      { router with confirmed := router.confirmed ++ [(invokeId, envelope)] })

def route (payload : Bytes) : Except String (MmsInvokeRouteResult × MmsInvokeRouter) := do
  let envelope ← MmsPduCodec.decodeEnvelope payload
  match envelope.confirmedResult, envelope.invokeId with
  | true, some invokeId => router.queueConfirmed invokeId envelope
  | _, _ => .ok (router.queueUnmatched envelope)

def tryDequeue (invokeId : Nat) : Option MmsPduEnvelope × MmsInvokeRouter :=
  match router.queueOf invokeId with
  | [] => (none, router)
  | (_, envelope) :: _ =>
    (some envelope, { router with confirmed := router.confirmed.eraseP (·.1 == invokeId) })

def tryDequeueUnmatched : Option MmsPduEnvelope × MmsInvokeRouter :=
  match router.unmatched with
  | [] => (none, router)
  | envelope :: unmatched => (some envelope, { router with unmatched })

def clear : MmsInvokeRouter := { router with confirmed := [], unmatched := [] }

/-! ## What a PDU does to the results -/

variable {router}

/-- A PDU that is not a confirmed result leaves the results alone. -/
theorem route_of_not_confirmed {payload : Bytes} {result : MmsInvokeRouteResult}
    {router' : MmsInvokeRouter} {envelope : MmsPduEnvelope}
    (hdecode : MmsPduCodec.decodeEnvelope payload = .ok envelope)
    (hconfirmed : envelope.confirmedResult = false)
    (h : router.route payload = .ok (result, router')) : router'.confirmed = router.confirmed := by
  rw [route, hdecode] at h
  obtain ⟨_, ⟨⟩, h⟩ := Lib.except_bind_ok h
  rw [hconfirmed] at h
  cases h
  rfl

/-- A confirmed result is queued last. -/
theorem route_of_confirmed {payload : Bytes} {result : MmsInvokeRouteResult}
    {router' : MmsInvokeRouter} {envelope : MmsPduEnvelope} {invokeId : Nat}
    (hdecode : MmsPduCodec.decodeEnvelope payload = .ok envelope)
    (hconfirmed : envelope.confirmedResult = true) (hid : envelope.invokeId = some invokeId)
    (h : router.route payload = .ok (result, router')) :
    router'.confirmed = router.confirmed ++ [(invokeId, envelope)] := by
  rw [route, hdecode] at h
  obtain ⟨_, ⟨⟩, h⟩ := Lib.except_bind_ok h
  rw [hconfirmed, hid] at h
  dsimp only at h
  rw [queueConfirmed] at h
  split at h
  · cases h
  split at h
  · cases h
  · cases h
    rfl

/-- The only result is the one that is taken. -/
theorem tryDequeue_singleton {invokeId : Nat} {envelope : MmsPduEnvelope}
    (h : router.confirmed = [(invokeId, envelope)]) :
    (router.tryDequeue invokeId).1 = some envelope ∧
      (router.tryDequeue invokeId).2.confirmed = [] := by
  simp [tryDequeue, queueOf, h]

end MmsInvokeRouter

end ArStack.Mms
