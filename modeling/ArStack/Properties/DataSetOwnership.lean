import ArStack.Lib.Run
import ArStack.Mms.DynamicDataSetRuntime
import ArStack.Spec.AssociationEvents

/-!
# Which DataSets are removed

A removal of what is owned asks the server to delete a DataSet that was defined in the association
that is open. The runtime looks for the marker of its scope at an index of the event log; when the
log has dropped entries since, a later association can have an entry there that looks the same.

* `Plain` — a reference whose name survives its normalisation
* `Lookalike` — the log shows the marker of an earlier association
* `ownership_lawful` — nothing else goes wrong
-/

namespace ArStack.Mms

open ArStack.Asn1 ArStack.Lib

/-! ## Names and references -/

namespace MmsDataSetDirectoryCodec

theorem not_dollar_mem_normalizeDataSetItem (item : Bytes) : 0x24 ∉ normalizeDataSetItem item := by
  intro hmem
  obtain ⟨octet, -, hoctet⟩ := List.mem_map.mp hmem
  by_cases hdollar : octet = 0x24
  · rw [if_pos hdollar] at hoctet
    exact absurd hoctet (by decide)
  · rw [if_neg hdollar] at hoctet
    exact hdollar hoctet

theorem dollarFirstDot_of_not_mem {item : Bytes} (h : 0x2E ∉ item) : dollarFirstDot item = item := by
  induction item with
  | nil => rfl
  | cons octet item ih =>
    rw [List.mem_cons, not_or] at h
    rw [dollarFirstDot, if_neg (Ne.symm h.1), ih h.2]

theorem dollarFirstDot_of_split {front : Bytes} (h : 0x2E ∉ front) (rest : Bytes) :
    dollarFirstDot (front ++ 0x2E :: rest) = front ++ 0x24 :: rest := by
  induction front with
  | nil => exact if_pos rfl
  | cons octet front ih =>
    rw [List.mem_cons, not_or] at h
    rw [List.cons_append, dollarFirstDot, if_neg (Ne.symm h.1), ih h.2, List.cons_append]

/-- An item without a dot stays as it is, another one is split at the first. -/
theorem dollarFirstDot_cases (item : Bytes) :
    (0x2E ∉ item ∧ dollarFirstDot item = item) ∨
      ∃ front rest, item = front ++ 0x2E :: rest ∧ 0x2E ∉ front ∧
        dollarFirstDot item = front ++ 0x24 :: rest := by
  by_cases hdot : 0x2E ∈ item
  · obtain ⟨front, rest, rfl, hfront⟩ := List.eq_append_cons_of_mem hdot
    exact .inr ⟨front, rest, rfl, hfront, dollarFirstDot_of_split hfront rest⟩
  · exact .inl ⟨hdot, dollarFirstDot_of_not_mem hdot⟩

theorem normalizeDataSetItem_dollarFirstDot (item : Bytes) :
    normalizeDataSetItem (dollarFirstDot item) = normalizeDataSetItem item := by
  rcases dollarFirstDot_cases item with ⟨-, hitem⟩ | ⟨front, rest, rfl, -, hitem⟩
  · rw [hitem]
  · rw [hitem]
    simp [normalizeDataSetItem]

theorem normalizeDataSetItem_of_not_mem {item : Bytes} (h : 0x24 ∉ item) :
    normalizeDataSetItem item = item := by
  induction item with
  | nil => rfl
  | cons octet item ih =>
    rw [List.mem_cons, not_or] at h
    have hcons : normalizeDataSetItem (octet :: item) =
        (if octet = 0x24 then 0x2E else octet) :: normalizeDataSetItem item := rfl
    rw [hcons, if_neg (Ne.symm h.1), ih h.2]

/-- A reference with a slash, of which the domain has none. -/
theorem parseDataSetReference_slash {domain : Bytes} (h : 0x2F ∉ domain) (item : Bytes) :
    parseDataSetReference (domain ++ 0x2F :: item) =
      { kind := .domainSpecific, domain, item := dollarFirstDot item } := by
  have hspan : (domain ++ 0x2F :: item).span (· != 0x2F) = (domain, 0x2F :: item) := by
    rw [List.span_eq_takeWhile_dropWhile]
    have hall : ∀ octet ∈ domain, (octet != 0x2F) = true := fun octet hoctet =>
      bne_iff_ne.mpr fun heq => h (heq ▸ hoctet)
    rw [List.takeWhile_append_of_pos hall, List.dropWhile_append_of_pos hall]
    simp
  rw [parseDataSetReference, hspan]

/-- A reference of a domain. -/
theorem parseDataSetReference_domain {reference : Bytes}
    (h : (parseDataSetReference reference).kind = .domainSpecific) :
    ∃ domain item, 0x2F ∉ domain ∧ reference = domain ++ 0x2F :: item ∧
      parseDataSetReference reference =
        { kind := .domainSpecific, domain, item := dollarFirstDot item } := by
  by_cases hslash : 0x2F ∈ reference
  · obtain ⟨domain, item, rfl, hdomain⟩ := List.eq_append_cons_of_mem hslash
    exact ⟨domain, item, hdomain, rfl, parseDataSetReference_slash hdomain item⟩
  · have hall : ∀ octet ∈ reference, (octet != 0x2F) = true := fun octet hoctet =>
      bne_iff_ne.mpr fun heq => hslash (heq ▸ hoctet)
    have hspan : reference.span (· != 0x2F) = (reference, []) := by
      have htake : (reference ++ []).takeWhile (· != 0x2F) = _ :=
        List.takeWhile_append_of_pos hall
      have hdrop : (reference ++ []).dropWhile (· != 0x2F) = _ :=
        List.dropWhile_append_of_pos hall
      rw [List.append_nil] at htake hdrop
      rw [List.span_eq_takeWhile_dropWhile, htake, hdrop, List.takeWhile_nil, List.dropWhile_nil,
        List.append_nil]
    rw [parseDataSetReference, hspan] at h
    exact MmsObjectNameKind.noConfusion h

/-- At a dollar sign that is the only one, a text splits in one way. -/
theorem split_at_single {front rest front' rest' : Bytes} {octet : UInt8}
    (h : front ++ octet :: rest = front' ++ octet :: rest') (hfront : octet ∉ front')
    (hrest : octet ∉ rest') : front = front' := by
  rcases List.append_eq_append_iff.mp h with ⟨between, hfront', hbetween⟩ |
    ⟨between, hfront', hbetween⟩
  · cases between with
    | nil => rw [hfront', List.append_nil]
    | cons other between =>
      rw [List.cons_append, List.cons.injEq] at hbetween
      exact absurd (by rw [hfront', ← hbetween.1]; simp) hfront
  · cases between with
    | nil => rw [hfront', List.append_nil]
    | cons other between =>
      rw [List.cons_append, List.cons.injEq] at hbetween
      exact absurd (by rw [hbetween.2]; simp) hrest

/-- In front of the only dollar sign of an item there is no dot. -/
def SplitAtFirst (item : Bytes) : Prop :=
  ∀ front rest, item = front ++ 0x24 :: rest → 0x24 ∉ front → 0x24 ∉ rest → 0x2E ∉ front

theorem splitAtFirst_dollarFirstDot (item : Bytes) : SplitAtFirst (dollarFirstDot item) := by
  intro front rest hsplit hfront hrest
  rcases dollarFirstDot_cases item with ⟨hdot, hitem⟩ | ⟨front', rest', -, hdot, hitem⟩
  · rw [hitem] at hsplit
    intro hmem
    exact hdot (hsplit ▸ List.mem_append_left _ hmem)
  · rw [hitem] at hsplit
    rw [← split_at_single hsplit hfront hrest]
    exact hdot

theorem splitAtFirst_lln0 (item : Bytes) : SplitAtFirst (Lib.ascii "LLN0$" ++ item) := by
  intro front rest hsplit hfront hrest
  have hlln0 : Lib.ascii "LLN0$" ++ item = Lib.ascii "LLN0" ++ 0x24 :: item := rfl
  rw [← split_at_single (hlln0 ▸ hsplit) hfront hrest]
  decide

/-- **An item with a dollar sign survives its normalisation when it has no second one.** -/
theorem dollarFirstDot_normalizeDataSetItem {item : Bytes} (hitem : SplitAtFirst item)
    (hdollar : 0x24 ∈ item) :
    dollarFirstDot (normalizeDataSetItem item) = item ↔ item.count 0x24 ≤ 1 := by
  constructor
  · intro h
    have hnone := List.count_eq_zero.mpr (not_dollar_mem_normalizeDataSetItem item)
    rw [← h]
    rcases dollarFirstDot_cases (normalizeDataSetItem item) with
      ⟨-, hcase⟩ | ⟨front, rest, hsplit, -, hcase⟩
    · rw [hcase, hnone]
      exact Nat.zero_le 1
    · rw [hsplit, List.count_append, List.count_cons_of_ne (by decide)] at hnone
      rw [hcase, List.count_append, List.count_cons_self]
      omega
  · intro h
    obtain ⟨front, rest, rfl, hfront⟩ := List.eq_append_cons_of_mem hdollar
    have hrest : 0x24 ∉ rest := by
      rw [List.count_append, List.count_cons_self] at h
      exact List.count_eq_zero.mp (by omega)
    have hdot := hitem front rest rfl hfront hrest
    have hnormalized : normalizeDataSetItem (front ++ 0x24 :: rest) = front ++ 0x2E :: rest := by
      have happend : normalizeDataSetItem (front ++ 0x24 :: rest) =
          normalizeDataSetItem front ++ 0x2E :: normalizeDataSetItem rest := by
        simp [normalizeDataSetItem]
      rw [happend, normalizeDataSetItem_of_not_mem hfront, normalizeDataSetItem_of_not_mem hrest]
    rw [hnormalized, dollarFirstDot_of_split hdot]

end MmsDataSetDirectoryCodec

namespace MmsDynamicDataSetRuntime

open MmsDataSetDirectoryCodec

/-- The item of the name has no second dollar sign. -/
def Plain (reference : Bytes) : Prop := (dataSetName reference).item.count 0x24 ≤ 1

instance (reference : Bytes) : Decidable (Plain reference) := inferInstanceAs (Decidable (_ ≤ _))

/-- The name that a reference is for. -/
theorem dataSetName_domain {reference : Bytes}
    (h : (parseDataSetReference reference).kind = .domainSpecific) :
    ∃ domain item, 0x2F ∉ domain ∧ SplitAtFirst item ∧ 0x24 ∈ item ∧
      dataSetName reference = { kind := .domainSpecific, domain, item } := by
  obtain ⟨domain, rest, hdomain, -, hparse⟩ := parseDataSetReference_domain h
  rw [dataSetName, hparse]
  dsimp only
  by_cases hdollar : 0x24 ∈ dollarFirstDot rest
  · rw [if_pos hdollar]
    exact ⟨domain, _, hdomain, splitAtFirst_dollarFirstDot rest, hdollar, rfl⟩
  · rw [if_neg hdollar]
    exact ⟨domain, _, hdomain, splitAtFirst_lln0 _,
      List.mem_append_left _ (by decide : 0x24 ∈ Lib.ascii "LLN0$"), rfl⟩

/-- A normalised reference is one of the form that it is normalised to. -/
theorem normalizeReference_ok {reference normalized : Bytes}
    (h : normalizeReference reference = .ok normalized) :
    toIecReference (parseDataSetReference normalized) = normalized ∧
      (parseDataSetReference normalized = dataSetName reference ↔ Plain reference) := by
  rw [normalizeReference] at h
  by_cases hkind : (parseDataSetReference reference).kind ≠ .domainSpecific
  · rw [if_pos hkind] at h
    cases h
  · rw [if_neg hkind] at h
    obtain ⟨_, -, h⟩ := except_bind_ok h
    obtain ⟨domain, item, hdomain, hitem, hdollar, hname⟩ :=
      dataSetName_domain (Decidable.not_not.mp hkind)
    have hnormalized : normalized = domain ++ 0x2F :: normalizeDataSetItem item := by
      rw [hname] at h
      have h := (Except.ok.inj h).symm
      rw [toIecReference, if_neg (Decidable.not_not.mpr rfl)] at h
      simpa using h
    have hparse := parseDataSetReference_slash hdomain (normalizeDataSetItem item)
    rw [← hnormalized] at hparse
    constructor
    · rw [hparse, hnormalized, toIecReference, if_neg (Decidable.not_not.mpr rfl)]
      rw [normalizeDataSetItem_dollarFirstDot,
        normalizeDataSetItem_of_not_mem (not_dollar_mem_normalizeDataSetItem item)]
      simp
    · rw [hparse, Plain, hname, ← dollarFirstDot_normalizeDataSetItem hitem hdollar]
      simp

/-! ## The work of one call -/

/-- The association has gone on and the traffic has these items more. -/
structure Moved (before client : DataSetClient) (items : List DataSetTraffic) : Prop where
  runtime : client.runtime = before.runtime
  association : MmsEventedAssociation.Quiet before.association client.association
  traffic : client.traffic = before.traffic ++ items

theorem Moved.refl (client : DataSetClient) : Moved client client [] :=
  ⟨rfl, .refl _, (List.append_nil _).symm⟩

section Calls

variable {before : DataSetClient} {items : List DataSetTraffic}

theorem moves_onAssociation {α : Type} {x : MmsEventedAssociation.EventedM α}
    (h : ∀ association, Keeps (MmsEventedAssociation.Quiet association) x) :
    Keeps (Moved before · items) (onAssociation x) := by
  intro client hclient
  have hquiet := h client.association client.association (.refl _)
  rw [onAssociation]
  cases hx : x client.association with
  | ok a association =>
    rw [hx] at hquiet
    exact ⟨hclient.runtime, hclient.association.trans hquiet, hclient.traffic⟩
  | error failure association =>
    rw [hx] at hquiet
    exact ⟨hclient.runtime, hclient.association.trans hquiet, hclient.traffic⟩

theorem moves_record (item : DataSetTraffic) {E : DataSetClient → Prop} :
    Ensures (Moved before · items) (record item) (fun _ => (Moved before · (items ++ [item]))) E :=
  fun client h => by
    refine ⟨h.runtime, h.association, ?_⟩
    show client.traffic ++ [item] = before.traffic ++ (items ++ [item])
    rw [h.traffic, List.append_assoc]

theorem moves_throwFormat {α : Type} (x : Except String α) :
    Keeps (Moved before · items) (throwFormat x : DataSetM α) :=
  MmsEventedAssociation.keeps_throwFormat x

theorem moves_nextInvokeId : Keeps (Moved before · items) nextInvokeId := fun _ h =>
  ⟨h.runtime, h.association.trans (.of_log rfl rfl rfl), h.traffic⟩

theorem moves_exchange (encoded : Bytes) (invokeId : Nat) (operation : String) :
    Keeps (Moved before · items) (exchange encoded invokeId operation) := by
  refine Keeps.bind (moves_onAssociation fun association =>
    MmsEventedAssociation.keeps_exchangeConfirmed (MmsEventedAssociation.stable_quiet association)
      encoded invokeId) fun result => ?_
  exact Keeps.bind (moves_throwFormat _) fun _ => Keeps.pure _

theorem moves_wrapRequest (pdu : Bytes) (operation : String) :
    Keeps (Moved before · items) (wrapRequest pdu operation) :=
  Keeps.get fun _ => Keeps.bind (moves_throwFormat _) fun _ => moves_throwFormat _

theorem moves_verify (name : MmsObjectName) (members : List MmsObjectName) :
    Keeps (Moved before · items) (verify name members) := by
  refine Keeps.bind ?_ fun directory => ?_
  · refine Keeps.bind moves_nextInvokeId fun invokeId => Keeps.get fun client => ?_
    refine Keeps.bind (moves_throwFormat _) fun encoded => ?_
    exact Keeps.bind (moves_exchange _ _ _) fun payload => moves_throwFormat _
  · split
    · exact Keeps.throw _
    · split
      · exact Keeps.throw _
      · exact Keeps.pure _

/-- A creation that fails up to its confirmation leaves no trace, one that succeeds is recorded. -/
theorem moves_define (reference normalized : Bytes) (members : List MmsObjectName) :
    Ensures (Moved before · items) (define reference normalized members)
      (fun _ => (Moved before · (items ++ [.defined reference (parseDataSetReference normalized)])))
      (Moved before · items) := by
  refine Ensures.bind _ moves_nextInvokeId fun invokeId => ?_
  refine Ensures.bind _ (moves_throwFormat _) fun pdu => ?_
  refine Ensures.bind _ (moves_wrapRequest _ _) fun encoded => ?_
  refine Ensures.bind _ (moves_exchange _ _ _) fun payload => ?_
  refine Ensures.bind _ (moves_throwFormat _) fun response => ?_
  exact Ensures.bind _ (moves_record _) fun _ => Ensures.pure fun _ h => h

/-- The traffic of a removal. -/
def removal (cause : DeleteCause) (name : MmsObjectName) (deleted : Bool) : List DataSetTraffic :=
  .deleteIssued cause name :: if deleted then [.deleted name] else []

/-- A removal that fails has issued its request or not. -/
def RemovalFailed (before client : DataSetClient) (items : List DataSetTraffic)
    (cause : DeleteCause) (name : MmsObjectName) : Prop :=
  Moved before client items ∨ Moved before client (items ++ removal cause name false)

theorem moves_removeImpl (cause : DeleteCause) (normalized : Bytes) :
    Ensures (Moved before · items) (removeImpl cause normalized)
      (fun response => (Moved before ·
        (items ++ removal cause (parseDataSetReference normalized) response.deleted)))
      (RemovalFailed before · items cause (parseDataSetReference normalized)) := by
  have hearly {α : Type} {x : DataSetM α} (h : Keeps (Moved before · items) x) :
      Ensures (Moved before · items) x (fun _ => (Moved before · items))
        (RemovalFailed before · items cause (parseDataSetReference normalized)) :=
    h.mono (fun _ h => h) (fun _ _ h => h) fun _ h => .inl h
  have hlate {α : Type} {x : DataSetM α} (h : Keeps (Moved before ·
        (items ++ [.deleteIssued cause (parseDataSetReference normalized)])) x) :
      Ensures (Moved before · (items ++ [.deleteIssued cause (parseDataSetReference normalized)]))
        x (fun _ => (Moved before ·
          (items ++ [.deleteIssued cause (parseDataSetReference normalized)])))
        (RemovalFailed before · items cause (parseDataSetReference normalized)) :=
    h.mono (fun _ h => h) (fun _ _ h => h) fun _ h => .inr h
  refine Ensures.bind _ (hearly moves_nextInvokeId) fun invokeId => ?_
  refine Ensures.bind _ (hearly (moves_throwFormat _)) fun pdu => ?_
  refine Ensures.bind _ (hearly (moves_wrapRequest _ _)) fun encoded => ?_
  refine Ensures.bind _ (moves_record _) fun _ => ?_
  refine Ensures.bind _ (hlate (moves_exchange _ _ _)) fun payload => ?_
  refine Ensures.bind _ (hlate (moves_throwFormat _)) fun response => ?_
  by_cases hdeleted : response.deleted = true
  · rw [if_pos hdeleted]
    refine Ensures.bind _ (moves_record _) fun _ => Ensures.pure fun client h => ?_
    rw [removal, if_pos hdeleted]
    rwa [List.append_assoc] at h
  · rw [if_neg hdeleted]
    refine Ensures.pure fun client h => ?_
    rw [removal, if_neg hdeleted]
    exact h

/-- A DataSet that does not verify is removed again, as far as that goes. -/
theorem moves_verifyOrRollback (normalized : Bytes) (members : List MmsObjectName) :
    Ensures (Moved before · items) (verifyOrRollback normalized members)
      (fun _ => (Moved before · items))
      (fun client => Moved before client items ∨ ∃ deleted, Moved before client
        (items ++ removal .rollback (parseDataSetReference normalized) deleted)) := by
  intro client hclient
  have hverify := moves_verify (parseDataSetReference normalized) members client hclient
  rw [verifyOrRollback]
  cases hx : verify (parseDataSetReference normalized) members client with
  | ok directory client' =>
    rw [hx] at hverify
    exact hverify
  | error failure client' =>
    rw [hx] at hverify
    have hremove := moves_removeImpl .rollback normalized client' hverify
    dsimp only
    cases hr : removeImpl .rollback normalized client' with
    | ok response client'' =>
      rw [hr] at hremove
      exact .inr ⟨_, hremove⟩
    | error failure' client'' =>
      rw [hr] at hremove
      exact hremove.imp_right fun h => ⟨false, h⟩

end Calls

/-! ## The ledger of the open association -/

/-- The DataSets that were defined in the association that is open and not deleted since. -/
def bookkeep (held : List MmsObjectName) : DataSetTraffic → List MmsObjectName
  | .associated => []
  | .defined _ name => name :: held
  | .deleteIssued _ _ => held
  | .deleted name => held.filter (· ≠ name)

def ledger (traffic : List DataSetTraffic) : List MmsObjectName := exec bookkeep [] traffic

/-- What may be sent: each request is for the name of its reference, and a removal of what is owned
is for a DataSet of the ledger. -/
def Permitted (held : List MmsObjectName) : DataSetTraffic → Prop
  | .defined reference name => name = dataSetName reference
  | .deleteIssued (.remove policy reference) name =>
    name = dataSetName reference ∧ (policy = .ownedOnly → name ∈ held)
  | _ => True

instance (held : List MmsObjectName) : (item : DataSetTraffic) → Decidable (Permitted held item)
  | .associated => .isTrue trivial
  | .defined _ _ => inferInstanceAs (Decidable (_ = _))
  | .deleteIssued (.remove _ _) _ => inferInstanceAs (Decidable (_ ∧ _))
  | .deleteIssued .rollback _ => .isTrue trivial
  | .deleted _ => .isTrue trivial

/-- Each item was permitted when it was sent. -/
def Lawful (traffic : List DataSetTraffic) : Prop := Along bookkeep Permitted [] traffic

instance (traffic : List DataSetTraffic) : Decidable (Lawful traffic) :=
  inferInstanceAs (Decidable (Along _ _ _ _))

theorem lawful_append {traffic items : List DataSetTraffic} (h : Lawful traffic)
    (hitems : Along bookkeep Permitted (ledger traffic) items) : Lawful (traffic ++ items) :=
  along_append.mpr ⟨h, hitems⟩

theorem ledger_append (traffic items : List DataSetTraffic) :
    ledger (traffic ++ items) = exec bookkeep (ledger traffic) items := exec_append _ _ _

theorem mem_removal {held : List MmsObjectName} {name name' : MmsObjectName} (hmem : name' ∈ held)
    (hne : name' ≠ name) (cause : DeleteCause) (deleted : Bool) :
    name' ∈ exec bookkeep held (removal cause name deleted) := by
  cases deleted with
  | false => exact hmem
  | true => exact List.mem_filter.mpr ⟨hmem, decide_eq_true hne⟩

theorem along_removal {held : List MmsObjectName} {cause : DeleteCause} {name : MmsObjectName}
    (h : Permitted held (.deleteIssued cause name)) (deleted : Bool) :
    Along bookkeep Permitted held (removal cause name deleted) := by
  cases deleted with
  | false => exact ⟨h, trivial⟩
  | true => exact ⟨h, trivial, trivial⟩

/-! ## The invariant -/

/-- The event log has gone on from where the scope was captured. -/
structure Marked (rt : MmsDynamicDataSetRuntime) (association : MmsEventedAssociation) : Prop where
  dropped : rt.droppedAtCapture ≤ association.dropped
  accepted : rt.acceptedAtCapture ≤ association.accepted
  events : association.dropped = rt.droppedAtCapture → ∃ front added,
    association.events = front ++ added ∧ front.length = rt.ownershipEventCount ∧
      (rt.acceptedAtCapture < association.accepted →
        ∃ event ∈ added, event.kind = .associationAccepted)

theorem Marked.follows {rt : MmsDynamicDataSetRuntime} {association association' :
    MmsEventedAssociation} (h : Marked rt association)
    (hfollows : MmsEventedAssociation.Follows association association') :
    Marked rt association' where
  dropped := Nat.le_trans h.dropped hfollows.dropped
  accepted := Nat.le_trans h.accepted hfollows.accepted
  events := by
    intro hsame
    have hle := h.dropped
    have hle' := hfollows.dropped
    obtain ⟨front, added, hevents, hlength, hadded⟩ := h.events (by omega)
    obtain ⟨added', hevents', hadded'⟩ := hfollows.events (by omega)
    refine ⟨front, added ++ added', by rw [hevents', hevents, List.append_assoc], hlength,
      fun hlt => ?_⟩
    by_cases hfirst : rt.acceptedAtCapture < association.accepted
    · obtain ⟨event, hmem, hkind⟩ := hadded hfirst
      exact ⟨event, List.mem_append_left _ hmem, hkind⟩
    · obtain ⟨event, hmem, hkind⟩ := hadded' (by omega)
      exact ⟨event, List.mem_append_right _ hmem, hkind⟩

/-- As long as the log drops nothing, it shows that another association was accepted. -/
theorem Marked.stands {rt : MmsDynamicDataSetRuntime} {association : MmsEventedAssociation}
    (h : Marked rt association) (hlt : rt.acceptedAtCapture < association.accepted)
    (hstands : rt.markerStands association.events = true) :
    rt.droppedAtCapture < association.dropped := by
  by_contra hnot
  have hle := h.dropped
  obtain ⟨front, added, hevents, hlength, hadded⟩ := h.events (by omega)
  obtain ⟨event, hmem, hkind⟩ := hadded hlt
  rw [markerStands, Bool.and_eq_true] at hstands
  rw [hevents, ← hlength, List.drop_left] at hstands
  have hquiet := List.all_eq_true.mp hstands.2 event hmem
  rw [hkind] at hquiet
  exact absurd hquiet (by decide)

/-- What the runtime owns was defined in the association of its scope. -/
structure Sound (client : DataSetClient) : Prop where
  lawful : Lawful client.traffic
  marked : client.runtime.ownedDataSets ≠ [] → Marked client.runtime client.association
  named : ∀ reference ∈ client.runtime.ownedDataSets,
    toIecReference (parseDataSetReference reference) = reference
  held : client.association.accepted = client.runtime.acceptedAtCapture →
    ∀ reference ∈ client.runtime.ownedDataSets,
      parseDataSetReference reference ∈ ledger client.traffic

/-- The scope of what the runtime owns is the association that is open. -/
def Current (client : DataSetClient) : Prop :=
  client.runtime.ownedDataSets ≠ [] →
    client.association.accepted = client.runtime.acceptedAtCapture

/-- Owned DataSets of an earlier association, whose marker the log seems to show: it has dropped
entries since, another association was accepted at the endpoint, and an entry like the marker has
come to stand in its place. -/
structure Lookalike (client : DataSetClient) : Prop where
  associated : client.association.associated = true
  owned : client.runtime.ownedDataSets ≠ []
  endpoint : client.association.endpoint = client.runtime.ownershipEndpoint
  dropped : client.runtime.droppedAtCapture < client.association.dropped
  accepted : client.runtime.acceptedAtCapture < client.association.accepted
  stands : client.runtime.markerStands client.association.events = true

instance (client : DataSetClient) : Decidable (Lookalike client) :=
  decidable_of_iff (client.association.associated = true ∧
    client.runtime.ownedDataSets ≠ [] ∧
    client.association.endpoint = client.runtime.ownershipEndpoint ∧
    client.runtime.droppedAtCapture < client.association.dropped ∧
    client.runtime.acceptedAtCapture < client.association.accepted ∧
    client.runtime.markerStands client.association.events = true)
    ⟨fun ⟨associated, owned, endpoint, dropped, accepted, stands⟩ =>
      ⟨associated, owned, endpoint, dropped, accepted, stands⟩,
     fun h => ⟨h.associated, h.owned, h.endpoint, h.dropped, h.accepted, h.stands⟩⟩

theorem Sound.of_none {client : DataSetClient} (hlawful : Lawful client.traffic)
    (hnone : client.runtime.ownedDataSets = []) : Sound client where
  lawful := hlawful
  marked := fun h => absurd hnone h
  named := by
    rw [hnone]
    exact fun _ hmem => absurd hmem List.not_mem_nil
  held := by
    rw [hnone]
    exact fun _ _ hmem => absurd hmem List.not_mem_nil

theorem Current.of_none {client : DataSetClient} (hnone : client.runtime.ownedDataSets = []) :
    Current client := fun h => absurd hnone h

theorem Sound.moved {before client : DataSetClient} {items : List DataSetTraffic}
    (h : Sound before) (hmoved : Moved before client items)
    (hlawful : Along bookkeep Permitted (ledger before.traffic) items)
    (hheld : ∀ reference ∈ before.runtime.ownedDataSets,
      parseDataSetReference reference ∈ ledger before.traffic →
        parseDataSetReference reference ∈ exec bookkeep (ledger before.traffic) items) :
    Sound client where
  lawful := by
    rw [hmoved.traffic]
    exact lawful_append h.lawful hlawful
  marked := by
    rw [hmoved.runtime]
    exact fun howned => (h.marked howned).follows hmoved.association.toFollows
  named := by
    rw [hmoved.runtime]
    exact h.named
  held := by
    rw [hmoved.runtime, hmoved.association.same, hmoved.traffic, ledger_append]
    exact fun hsame reference hmem => hheld reference hmem (h.held hsame reference hmem)

theorem Sound.moved_nil {before client : DataSetClient} (h : Sound before)
    (hmoved : Moved before client []) : Sound client :=
  h.moved hmoved trivial fun _ _ hheld => hheld

/-! ## Calls -/

theorem sound_synchronizeOwnershipScope {client : DataSetClient} (h : Sound client) :
    Sound { client with
      runtime := client.runtime.synchronizeOwnershipScope client.association } := by
  rw [synchronizeOwnershipScope]
  by_cases howned : client.runtime.ownedDataSets = []
  · rw [if_pos howned]
    split
    · exact h
    · exact .of_none h.lawful rfl
  · rw [if_neg howned]
    split
    · exact .of_none h.lawful rfl
    · split
      · exact h
      · exact .of_none h.lawful rfl

/-- What is left owned is owned in the open association, unless the log deceives. -/
theorem current_synchronizeOwnershipScope {client : DataSetClient} (h : Sound client)
    (hlookalike : ¬Lookalike client) :
    Current { client with
      runtime := client.runtime.synchronizeOwnershipScope client.association } := by
  rw [synchronizeOwnershipScope]
  by_cases howned : client.runtime.ownedDataSets = []
  · rw [if_pos howned]
    split
    · exact .of_none howned
    · exact .of_none rfl
  · rw [if_neg howned]
    split
    · exact .of_none rfl
    · rename_i hscope
      split
      · rename_i hstands
        intro _
        have hmarked := h.marked howned
        have hle := hmarked.accepted
        by_contra hne
        have hlt : client.runtime.acceptedAtCapture < client.association.accepted := by
          change client.association.accepted ≠ client.runtime.acceptedAtCapture at hne
          omega
        rw [not_or, not_or, not_not] at hscope
        exact hlookalike ⟨eq_true_of_ne_false hscope.2.1, howned, hscope.2.2,
          hmarked.stands hlt hstands, hlt, hstands⟩
      · exact .of_none rfl

theorem synchronizeOwnershipScope_subset (rt : MmsDynamicDataSetRuntime)
    (association : MmsEventedAssociation) :
    (rt.synchronizeOwnershipScope association).ownedDataSets ⊆ rt.ownedDataSets := by
  rw [synchronizeOwnershipScope]
  repeat' split
  all_goals first | exact List.Subset.refl _ | exact List.nil_subset _

theorem sound_requireScope {client : DataSetClient} (h : Sound client) (missing : String) :
    Ensures (· = client) (requireScope missing)
      (fun _ client' => Sound client' ∧ (¬Lookalike client → Current client') ∧
        client'.runtime.ownedDataSets ⊆ client.runtime.ownedDataSets) Sound := by
  rintro client rfl
  rw [requireScope]
  by_cases hassociated : client.association.associated = true
  · rw [if_pos hassociated]
    exact ⟨sound_synchronizeOwnershipScope h, current_synchronizeOwnershipScope h,
      synchronizeOwnershipScope_subset _ _⟩
  · rw [if_neg hassociated]
    exact Sound.of_none h.lawful rfl

/-- The scope is captured with the last event of the log as its marker, or forgotten. -/
theorem captureOwnershipScope_cases (rt : MmsDynamicDataSetRuntime)
    (association : MmsEventedAssociation) :
    (∃ marker, rt.captureOwnershipScope association = { rt with
      ownershipScopeValid := true
      ownershipEndpoint := association.endpoint
      ownershipEventCount := association.events.length
      ownershipMarker := marker
      droppedAtCapture := association.dropped
      acceptedAtCapture := association.accepted }) ∨
    rt.captureOwnershipScope association = rt.clearOwnershipScope := by
  rw [captureOwnershipScope]
  split
  · rename_i marker _ _
    exact .inl ⟨marker, rfl⟩
  · exact .inr rfl

section Ownership

variable {before : DataSetClient} {reference normalized : Bytes}

/-- The DataSet that was just defined is in the ledger. -/
theorem sound_takeOwnership (hsound : Sound before)
    (hnamed : toIecReference (parseDataSetReference normalized) = normalized)
    (hname : parseDataSetReference normalized = dataSetName reference) :
    Ensures (Moved before · [.defined reference (parseDataSetReference normalized)])
      (takeOwnership normalized) (fun _ => Sound) Sound := by
  intro client hmoved
  have hclient : Sound client :=
    hsound.moved hmoved ⟨hname, trivial⟩ fun _ _ hheld => List.mem_cons_of_mem _ hheld
  have hnew : parseDataSetReference normalized ∈ ledger client.traffic := by
    rw [hmoved.traffic, ledger_append]
    exact List.mem_cons_self
  rw [takeOwnership]
  dsimp only
  by_cases hnone : client.runtime.ownedDataSets = []
  · rw [if_pos hnone, hnone]
    rcases captureOwnershipScope_cases { client.runtime with ownedDataSets := [normalized] }
      client.association with ⟨marker, hcapture⟩ | hcapture
    · rw [hcapture, if_pos rfl]
      refine ⟨hclient.lawful, fun _ => ⟨Nat.le_refl _, Nat.le_refl _, fun _ => ?_⟩, ?_, ?_⟩
      · exact ⟨_, [], (List.append_nil _).symm, rfl, fun hlt => absurd hlt (Nat.lt_irrefl _)⟩
      · exact List.forall_mem_singleton.mpr hnamed
      · exact fun _ => List.forall_mem_singleton.mpr hnew
    · rw [hcapture, if_neg (by exact Bool.false_ne_true)]
      exact Sound.of_none hclient.lawful rfl
  · rw [if_neg hnone]
    have hmarked := hclient.marked hnone
    refine ⟨hclient.lawful, fun _ => ⟨hmarked.dropped, hmarked.accepted, hmarked.events⟩, ?_,
      fun hsame => ?_⟩
    · exact List.forall_mem_cons.mpr ⟨hnamed, hclient.named⟩
    · exact List.forall_mem_cons.mpr ⟨hnew, hclient.held hsame⟩

/-- **A creation keeps the invariant.** -/
theorem sound_create (hplain : Plain reference) (members : List MmsObjectName) :
    Keeps Sound (create reference members) := by
  have hscope : Keeps Sound (requireScope
      "Cannot create a dynamic DataSet without an active MMS association.") := fun client h =>
    (sound_requireScope h _).mono (fun _ h => h) (fun _ _ h => h.1) (fun _ h => h) client rfl
  refine Keeps.bind hscope fun _ => Ensures.get fun before => ?_
  rintro client ⟨hsound, rfl⟩
  refine (?_ : Ensures (Moved client · []) _ (fun _ => Sound) Sound) client (.refl client)
  have hquiet {α : Type} {x : DataSetM α} (h : Keeps (Moved client · []) x) :
      Ensures (Moved client · []) x (fun _ => (Moved client · [])) Sound :=
    h.mono (fun _ h => h) (fun _ _ h => h) fun _ h => hsound.moved_nil h
  split
  · exact Ensures.throw fun _ h => hsound.moved_nil h
  · refine Ensures.bind _ (hquiet (moves_throwFormat _)) fun _ => ?_
    cases hnormalized : normalizeReference reference with
    | error message => exact Ensures.throw fun _ h => hsound.moved_nil h
    | ok normalized =>
      obtain ⟨hnamed, hname⟩ := normalizeReference_ok hnormalized
      have hname := hname.mpr hplain
      show Ensures _ (if normalized ∈ client.runtime.ownedDataSets then _ else _) _ _
      split
      · exact Ensures.throw fun _ h => hsound.moved_nil h
      · rename_i hfresh
        have hdefined : Along bookkeep Permitted (ledger client.traffic)
            [.defined reference (parseDataSetReference normalized)] := ⟨hname, trivial⟩
        refine Ensures.bind (fun _ => (Moved client ·
          [.defined reference (parseDataSetReference normalized)])) ?_ fun response => ?_
        · exact (moves_define reference normalized members).mono (fun _ h => h)
            (fun _ _ h => h) fun _ h => hsound.moved_nil h
        · split
          · refine Ensures.bind (fun _ => (Moved client ·
              [.defined reference (parseDataSetReference normalized)])) ?_ fun directory => ?_
            · refine (moves_verifyOrRollback normalized members).mono (fun _ h => h)
                (fun _ _ h => h) fun client' h => ?_
              rcases h with h | ⟨deleted, h⟩
              · exact hsound.moved h hdefined fun _ _ hheld => List.mem_cons_of_mem _ hheld
              · refine hsound.moved h (along_append.mpr
                  ⟨hdefined, @along_removal _ .rollback _ trivial _⟩) ?_
                intro reference' hmem hheld
                rw [exec_append]
                refine mem_removal (List.mem_cons_of_mem _ hheld) (fun heq => hfresh ?_) _ _
                rw [← hnamed, ← heq, hsound.named reference' hmem]
                exact hmem
            · refine Ensures.bind _ (sound_takeOwnership hsound hnamed hname) fun _ => ?_
              exact Ensures.pure fun _ h => h
          · refine Ensures.bind _ (sound_takeOwnership hsound hnamed hname) fun _ => ?_
            exact Ensures.pure fun _ h => h

/-- What is dropped is not looked for in the ledger any more. -/
theorem sound_dropOwnership {cause : DeleteCause} {deleted : Bool} (hsound : Sound before)
    (hpermitted : Permitted (ledger before.traffic)
      (.deleteIssued cause (parseDataSetReference normalized)))
    (hnamed : toIecReference (parseDataSetReference normalized) = normalized) :
    Ensures (Moved before · (removal cause (parseDataSetReference normalized) deleted))
      (dropOwnership normalized) (fun _ => Sound) Sound := by
  intro client hmoved
  have hlawful : Lawful client.traffic := by
    rw [hmoved.traffic]
    exact lawful_append hsound.lawful (along_removal hpermitted deleted)
  rw [dropOwnership]
  dsimp only
  by_cases hnone : client.runtime.ownedDataSets.filter (· ≠ normalized) = []
  · rw [if_pos hnone]
    exact .of_none hlawful rfl
  · rw [if_neg hnone]
    have hsome : client.runtime.ownedDataSets ≠ [] := fun heq => hnone (by rw [heq]; rfl)
    rw [hmoved.runtime] at hsome
    have hmarked := (hsound.marked hsome).follows hmoved.association.toFollows
    rw [← hmoved.runtime] at hmarked
    refine ⟨hlawful, fun _ => ⟨hmarked.dropped, hmarked.accepted, hmarked.events⟩, ?_, ?_⟩
    · intro reference hmem
      have hmem := (List.mem_filter.mp hmem).1
      rw [hmoved.runtime] at hmem
      exact hsound.named reference hmem
    · intro hsame reference hmem
      obtain ⟨hmem, hne⟩ := List.mem_filter.mp hmem
      rw [hmoved.runtime] at hmem hsame
      rw [hmoved.association.same] at hsame
      show parseDataSetReference reference ∈ ledger client.traffic
      rw [hmoved.traffic, ledger_append]
      refine mem_removal (hsound.held hsame reference hmem) (fun heq => ?_) _ _
      refine of_decide_eq_true hne ?_
      rw [← hsound.named reference hmem, heq, hnamed]

/-- The removal is of a DataSet that the log seems to show as owned in the open association. -/
def Deceived (client : DataSetClient) (reference : Bytes) : Prop :=
  Lookalike client ∧ ∃ normalized ∈ client.runtime.ownedDataSets,
    normalizeReference reference = .ok normalized

instance (client : DataSetClient) (reference : Bytes) : Decidable (Deceived client reference) :=
  inferInstanceAs (Decidable (_ ∧ ∃ normalized ∈ client.runtime.ownedDataSets, _))

/-- **A removal keeps the invariant, unless the log deceives it.** -/
theorem sound_remove (hplain : Plain reference) {policy : MmsDynamicDataSetDeletePolicy}
    (hbefore : Sound before) (hdeceived : policy = .ownedOnly → ¬Deceived before reference) :
    Ensures (· = before) (remove reference policy) (fun _ => Sound) Sound := by
  refine Ensures.bind _ (sound_requireScope hbefore _) fun _ => ?_
  cases hnormalized : normalizeReference reference with
  | error message => exact fun _ h => h.1
  | ok normalized =>
    obtain ⟨hnamed, hname⟩ := normalizeReference_ok hnormalized
    have hname := hname.mpr hplain
    refine Ensures.bind (fun a client => a = normalized ∧ Sound client ∧
      (¬Lookalike before → Current client) ∧
      client.runtime.ownedDataSets ⊆ before.runtime.ownedDataSets)
      (fun _ h => ⟨rfl, h⟩) fun a => ?_
    refine Ensures.get fun _ => ?_
    rintro client ⟨⟨rfl, hsound, hcurrent, hsubset⟩, rfl⟩
    refine (?_ : Ensures (Moved client · []) _ (fun _ => Sound) Sound) client (.refl client)
    split
    · exact Ensures.throw fun _ h => hsound.moved_nil h
    · rename_i haccepted
      have hpermitted : Permitted (ledger client.traffic)
          (.deleteIssued (.remove policy reference) (parseDataSetReference a)) := by
        refine ⟨hname, fun howned => ?_⟩
        have hmem : a ∈ client.runtime.ownedDataSets := by
          by_contra hnot
          exact haccepted ⟨hnot, by rw [howned]; decide⟩
        have hreal : ¬Lookalike before := fun h =>
          hdeceived howned ⟨h, a, hsubset hmem, hnormalized⟩
        exact hsound.held (hcurrent hreal (List.ne_nil_of_mem hmem)) a hmem
      refine Ensures.bind (fun response => (Moved client ·
        (removal (.remove policy reference) (parseDataSetReference a) response.deleted))) ?_
        fun response => ?_
      · refine (moves_removeImpl (.remove policy reference) a).mono (fun _ h => h)
          (fun _ _ h => h) fun client' h => ?_
        rcases h with h | h
        · exact hsound.moved_nil h
        · exact hsound.moved h (along_removal hpermitted false) fun _ _ hheld => hheld
      · split
        · refine Ensures.bind _ (sound_dropOwnership hsound hpermitted hnamed) fun _ => ?_
          exact Ensures.pure fun _ h => h
        · rename_i hleft
          refine Ensures.pure fun client' h => ?_
          rw [Bool.eq_false_iff.mpr fun hdeleted => hleft (.inl hdeleted)] at h
          exact hsound.moved h (along_removal hpermitted false) fun _ _ hheld => hheld

end Ownership

end MmsDynamicDataSetRuntime

/-! ## Runs -/

/-- What happens to the runtime and its association. -/
inductive DataSetCall where
  | connect (endpoint : MmsEndpoint)
  | disconnect
  | transportLost
  | takeInvokeId
  | popReport
  | exchange (payload : Bytes) (expectedInvokeId : Nat)
  | exchangeBatch (requests : List MmsConfirmedBatchRequest)
  | pollOnce
  | tryPollOnceFor (timeoutPositive stoppedBefore : Bool)
  | create (reference : Bytes) (members : List MmsObjectName)
  | remove (reference : Bytes) (policy : MmsDynamicDataSetDeletePolicy)
  | owns (reference : Bytes)

/-- A call, and what the layers below and the server answer while it runs. -/
structure DataSetEvent where
  call : DataSetCall
  script : AssociationScript := {}

namespace DataSetClient

open MmsDynamicDataSetRuntime MmsDataSetDirectoryCodec

def init (options : MmsEventedOptions) (dataSetOptions : MmsDynamicDataSetOptions) :
    DataSetClient where
  association := { options }
  runtime := { options := dataSetOptions }

/-- The client after a call, whether it returned or threw. -/
def after {α : Type} (x : DataSetM α) (client : DataSetClient) : DataSetClient :=
  match x client with
  | .ok _ client => client
  | .error _ client => client

def perform (client : DataSetClient) : DataSetCall → DataSetClient
  | .connect endpoint =>
    after (do
      onAssociation (MmsEventedAssociation.connect endpoint)
      record .associated) client
  | .disconnect => { client with association := client.association.disconnect }
  | .transportLost =>
    { client with association := { client.association with transportConnected := false } }
  | .takeInvokeId => { client with association := client.association.takeInvokeId.2 }
  | .popReport => { client with association := client.association.tryPopInformationReport.2 }
  | .exchange payload expectedInvokeId =>
    after (onAssociation (MmsEventedAssociation.exchangeConfirmed payload expectedInvokeId)) client
  | .exchangeBatch requests =>
    after (onAssociation (MmsEventedAssociation.exchangeConfirmedBatch requests)) client
  | .pollOnce => after (onAssociation MmsEventedAssociation.pollOnce) client
  | .tryPollOnceFor timeoutPositive stoppedBefore =>
    after (onAssociation (MmsEventedAssociation.tryPollOnceFor timeoutPositive stoppedBefore))
      client
  | .create reference members => after (create reference members) client
  | .remove reference policy => after (remove reference policy) client
  | .owns reference => (owns reference client).2

def step (client : DataSetClient) (event : DataSetEvent) : DataSetClient :=
  perform { client with association := { client.association with script := event.script } }
    event.call

/-- The call is with a plain reference, and no removal that the log deceives. -/
def Careful (client : DataSetClient) (event : DataSetEvent) : Prop :=
  match event.call with
  | .create reference _ => Plain reference
  | .remove reference policy =>
    Plain reference ∧ (policy = .ownedOnly → ¬Deceived client reference)
  | _ => True

instance (client : DataSetClient) : (event : DataSetEvent) → Decidable (Careful client event)
  | ⟨.create _ _, _⟩ => inferInstanceAs (Decidable (Plain _))
  | ⟨.remove _ _, _⟩ => inferInstanceAs (Decidable (_ ∧ (_ → ¬_)))
  | ⟨.connect _, _⟩ | ⟨.disconnect, _⟩ | ⟨.transportLost, _⟩ | ⟨.takeInvokeId, _⟩
  | ⟨.popReport, _⟩ | ⟨.exchange _ _, _⟩ | ⟨.exchangeBatch _, _⟩ | ⟨.pollOnce, _⟩
  | ⟨.tryPollOnceFor _ _, _⟩ | ⟨.owns _, _⟩ => .isTrue trivial

theorem sound_after {α : Type} {x : DataSetM α} {client : DataSetClient} {P : DataSetClient → Prop}
    (hx : Ensures P x (fun _ => Sound) Sound) (h : P client) : Sound (after x client) := by
  have hclient := hx client h
  rw [after]
  cases hresult : x client with
  | ok a client' =>
    rw [hresult] at hclient
    exact hclient
  | error failure client' =>
    rw [hresult] at hclient
    exact hclient

/-- Work on the association alone. -/
theorem sound_onAssociation {α : Type} {x : MmsEventedAssociation.EventedM α}
    {client : DataSetClient} (h : Sound client)
    (hx : ∀ association, Keeps (MmsEventedAssociation.Quiet association) x) :
    Sound (after (onAssociation x) client) :=
  sound_after ((moves_onAssociation hx).mono (fun _ h => h) (fun _ _ hmoved => h.moved_nil hmoved)
    fun _ hmoved => h.moved_nil hmoved) (.refl client)

/-- A new association: what is owned is of an earlier one. -/
theorem sound_connect {client : DataSetClient} (h : Sound client) (endpoint : MmsEndpoint) :
    Sound (perform client (.connect endpoint)) := by
  have hconnected := MmsEventedAssociation.connected_connect endpoint client.association
  rw [perform, after]
  cases hx : MmsEventedAssociation.connect endpoint client.association with
  | ok _ association =>
    rw [hx] at hconnected
    have hrun : onAssociation (MmsEventedAssociation.connect endpoint) client =
        .ok () { client with association } := by
      rw [onAssociation, hx]
    rw [bind_of_ok hrun]
    refine ⟨lawful_append h.lawful ⟨trivial, trivial⟩,
      fun howned => (h.marked howned).follows hconnected.1, h.named, fun hsame => ?_⟩
    intro reference hmem
    have hle := (h.marked (List.ne_nil_of_mem hmem)).accepted
    have hlt := hconnected.2
    change association.accepted = client.runtime.acceptedAtCapture at hsame
    omega
  | error failure association =>
    rw [hx] at hconnected
    have hrun : onAssociation (MmsEventedAssociation.connect endpoint) client =
        .error failure { client with association } := by
      rw [onAssociation, hx]
    rw [bind_of_error hrun]
    exact h.moved_nil ⟨rfl, hconnected, (List.append_nil _).symm⟩

/-- **Every careful step keeps the invariant.** -/
theorem sound_step (client : DataSetClient) (event : DataSetEvent) (hcareful : Careful client event)
    (h : Sound client) : Sound (step client event) := by
  obtain ⟨call, script⟩ := event
  rw [step]
  have hscript : Sound
      { client with association := { client.association with script } } :=
    h.moved_nil ⟨rfl, .of_log rfl rfl rfl, (List.append_nil _).symm⟩
  cases call with
  | connect endpoint => exact sound_connect hscript endpoint
  | disconnect =>
    exact hscript.moved_nil ⟨rfl, MmsEventedAssociation.quiet_disconnect _,
      (List.append_nil _).symm⟩
  | transportLost =>
    exact hscript.moved_nil ⟨rfl, .of_log rfl rfl rfl, (List.append_nil _).symm⟩
  | takeInvokeId => exact hscript.moved_nil ⟨rfl, .of_log rfl rfl rfl, (List.append_nil _).symm⟩
  | popReport =>
    refine hscript.moved_nil ⟨rfl, ?_, (List.append_nil _).symm⟩
    rw [perform, MmsEventedAssociation.tryPopInformationReport]
    split <;> exact .of_log rfl rfl rfl
  | exchange payload expectedInvokeId =>
    exact sound_onAssociation hscript fun association =>
      MmsEventedAssociation.keeps_exchangeConfirmed (MmsEventedAssociation.stable_quiet association)
        payload expectedInvokeId
  | exchangeBatch requests =>
    exact sound_onAssociation hscript fun association =>
      MmsEventedAssociation.keeps_exchangeConfirmedBatch
        (MmsEventedAssociation.stable_quiet association) requests
  | pollOnce =>
    exact sound_onAssociation hscript fun association =>
      MmsEventedAssociation.keeps_pollOnce (MmsEventedAssociation.stable_quiet association)
  | tryPollOnceFor timeoutPositive stoppedBefore =>
    exact sound_onAssociation hscript fun association =>
      MmsEventedAssociation.keeps_tryPollOnceFor (MmsEventedAssociation.stable_quiet association)
        timeoutPositive stoppedBefore
  | create reference members => exact sound_after (sound_create hcareful members) hscript
  | remove reference policy =>
    refine sound_after (sound_remove hcareful.1 hscript fun howned hdeceived => ?_) rfl
    obtain ⟨hlookalike, hmem⟩ := hdeceived
    exact hcareful.2 howned ⟨⟨hlookalike.associated, hlookalike.owned, hlookalike.endpoint,
      hlookalike.dropped, hlookalike.accepted, hlookalike.stands⟩, hmem⟩
  | owns reference =>
    rw [perform, owns]
    dsimp only
    cases normalizeReference reference with
    | ok normalized => exact sound_synchronizeOwnershipScope hscript
    | error message => exact sound_synchronizeOwnershipScope hscript

/-- **In every careful run a removal of what is owned is of a DataSet that was defined in the open
association and not deleted since. A normalised reference is for the same name exactly if it is
plain.** -/
theorem ownership_lawful (options : MmsEventedOptions) (dataSetOptions : MmsDynamicDataSetOptions) :
    (∀ events, Along step Careful (init options dataSetOptions) events →
      Lawful (exec step (init options dataSetOptions) events).traffic) ∧
    ∀ reference normalized, normalizeReference reference = .ok normalized →
      (parseDataSetReference normalized = dataSetName reference ↔ Plain reference) := by
  constructor
  · intro events hcareful
    have hinit : Sound (init options dataSetOptions) := .of_none trivial rfl
    exact (exec_invariant_where Sound sound_step hinit hcareful).lawful
  · intro reference normalized h
    exact (normalizeReference_ok h).2

/-! ## Two runs -/

/-- The P-DATA of a confirmed DefineNamedVariableList, with invoke identifier 1. -/
def defineConfirmed : Bytes :=
  [0x01, 0x00, 0x01, 0x00, 0x61, 0x0E, 0x30, 0x0C, 0x02, 0x01, 0x03, 0xA0, 0x07,
   0xA1, 0x05, 0x02, 0x01, 0x01, 0x8B, 0x00]

/-- The P-DATA of a DeleteNamedVariableList that deleted one list, with invoke identifier 2. -/
def deleteConfirmed : Bytes :=
  [0x01, 0x00, 0x01, 0x00, 0x61, 0x14, 0x30, 0x12, 0x02, 0x01, 0x03, 0xA0, 0x0D,
   0xA1, 0x0B, 0x02, 0x01, 0x02, 0xAD, 0x06, 0x80, 0x01, 0x01, 0x81, 0x01, 0x01]

/-- The P-DATA of the request for the directory of `LD/LLN0.Ds`, with invoke identifier 1. -/
def directoryRequest : Bytes :=
  [0x01, 0x00, 0x01, 0x00, 0x61, 0x1D, 0x30, 0x1B, 0x02, 0x01, 0x03, 0xA0, 0x16,
   0xA0, 0x14, 0x02, 0x01, 0x01, 0xAC, 0x0F, 0xA1, 0x0D, 0x1A, 0x02, 0x4C, 0x44,
   0x1A, 0x07, 0x4C, 0x4C, 0x4E, 0x30, 0x24, 0x44, 0x73]

/-- The server accepts an association. -/
def connecting : DataSetEvent where
  call := .connect { host := "ied" }
  script := { profiles := [.accepted 10 (.ok {})] }

/-- `LD/LLN0.Ds` is created with one member. -/
def creating : DataSetEvent where
  call := .create (ascii "LD/LLN0.Ds")
    [{ kind := .domainSpecific, domain := ascii "LD", item := ascii "GGIO1$ST$Ind" }]
  script := { receives := [.ok defineConfirmed] }

/-- What is owned under that reference is removed, with this answer. -/
def removing (answer : Bytes) : DataSetEvent where
  call := .remove (ascii "LD/LLN0.Ds") .ownedOnly
  script := { receives := [.ok answer] }

/-- In one association the DataSet is created and removed. -/
theorem ownership_lawful_sample :
    Along step Careful (init {} { verifyAfterCreate := false })
        [connecting, creating, removing deleteConfirmed] ∧
      (exec step (init {} { verifyAfterCreate := false })
        [connecting, creating, removing deleteConfirmed]).traffic =
          [.associated, .defined (ascii "LD/LLN0.Ds") (dataSetName (ascii "LD/LLN0.Ds")),
           .deleteIssued (.remove .ownedOnly (ascii "LD/LLN0.Ds"))
            (dataSetName (ascii "LD/LLN0.Ds")),
           .deleted (dataSetName (ascii "LD/LLN0.Ds"))] ∧
      Lawful (exec step (init {} { verifyAfterCreate := false })
        [connecting, creating, removing deleteConfirmed]).traffic ∧
      (parseDataSetReference (ascii "LD/LLN0.Ds") = dataSetName (ascii "LD/Ds") ↔
        Plain (ascii "LD/Ds")) :=
  ⟨by decide, by decide,
    (ownership_lawful {} { verifyAfterCreate := false }).1 _ (by decide),
    (ownership_lawful {} { verifyAfterCreate := false }).2 (ascii "LD/Ds") (ascii "LD/LLN0.Ds")
      (by decide)⟩

/-- The log has room for eight events. The second association takes six of them, and the exchange
in it the two others, of which the last looks like the one of the creation. -/
def deceptive : List DataSetEvent :=
  [connecting, creating, { call := .disconnect }, connecting, { call := .takeInvokeId },
   { call := .exchange directoryRequest 1, script := { receives := [.ok defineConfirmed] } },
   removing deleteConfirmed]

/-- A DataSet of the first association is removed in the second; and two references for different
names are normalised to one. -/
theorem ownership_unlawful :
    ¬Lawful (exec step (init { maximumEvents := 8 } { verifyAfterCreate := false })
      deceptive).traffic ∧
    (exec step (init { maximumEvents := 8 } { verifyAfterCreate := false })
      deceptive).traffic.drop 2 =
        [.associated,
         .deleteIssued (.remove .ownedOnly (ascii "LD/LLN0.Ds"))
          (dataSetName (ascii "LD/LLN0.Ds")),
         .deleted (dataSetName (ascii "LD/LLN0.Ds"))] ∧
    (normalizeReference (ascii "LD/LN.A.B") = normalizeReference (ascii "LD/LN$A$B") ∧
      dataSetName (ascii "LD/LN.A.B") ≠ dataSetName (ascii "LD/LN$A$B")) := by
  decide +kernel

end DataSetClient

end ArStack.Mms
