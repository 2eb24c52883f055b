import ArStack.Mms.StaticDispatcherWrite
import ArStack.Properties.ServiceRoundTrip
import ArStack.Spec.SpanResponse

/-!
# The order of the writes of a request

* `Ordered` — what holds of the order when the groups met so far are ordered
* `buildWriteExecutionOrder_ordered`
* `executeWrites_result` — a result is the outcome of its own item
* `write_execution_order`
-/

namespace ArStack.Mms.MmsStaticApplicationDispatcher

open ArStack.Asn1 ArStack.Lib ArStack.Wire

/-! ## Order -/

/-- The items of a group, in the order of the request. -/
def membersOf (items : List WriteItem) (group : Nat) : List Nat :=
  (List.range items.length).filter fun index => groupAt items index == some group

theorem mem_membersOf {items : List WriteItem} {group index : Nat} :
    index ∈ membersOf items group ↔ index < items.length ∧ groupAt items index = some group := by
  rw [membersOf, List.mem_filter, List.mem_range, beq_iff_eq]

theorem membersOf_increasing (items : List WriteItem) (group : Nat) :
    (membersOf items group).Pairwise (· < ·) :=
  List.Pairwise.filter _ List.pairwise_lt_range

theorem nodup_membersOf (items : List WriteItem) (group : Nat) : (membersOf items group).Nodup :=
  (membersOf_increasing items group).imp Nat.ne_of_lt

/-- An item before the `count`-th is of this group. -/
def SeenBefore (items : List WriteItem) (count group : Nat) : Prop :=
  ∃ index < count, groupAt items index = some group

/-- The groups of the first `count` items are ordered, the other items are in their places. -/
structure Ordered (items : List WriteItem) (count : Nat) (order : List Nat) : Prop where
  perm : order.Perm (List.range items.length)
  kept : ∀ index < items.length,
    (∀ group, groupAt items index = some group → ¬SeenBefore items count group) →
      order[index]? = some index
  sorted : ∀ group, SeenBefore items count group →
    (membersOf items group).map (order[·]?) =
      (stableSort (phaseAt items) (membersOf items group)).map some

theorem Ordered.length {items : List WriteItem} {count : Nat} {order : List Nat}
    (h : Ordered items count order) : order.length = items.length := by
  rw [h.perm.length_eq, List.length_range]

theorem ordered_init (items : List WriteItem) : Ordered items 0 (List.range items.length) where
  perm := .refl _
  kept index hlt _ := List.getElem?_range hlt
  sorted group h := by
    obtain ⟨index, hlt, -⟩ := h
    exact absurd hlt (Nat.not_lt_zero _)

/-- The items that are collected at the first item of a group are all of the group. -/
theorem positions_eq {items : List WriteItem} {first group : Nat}
    (hnew : ¬SeenBefore items first group) :
    ((List.range items.length).drop first).filter (fun index => groupAt items index == some group) =
      membersOf items group := by
  have hearlier : ((List.range items.length).take first).filter
      (fun index => groupAt items index == some group) = [] := by
    refine List.filter_eq_nil_iff.mpr fun index hmem => ?_
    rw [List.take_range, List.mem_range] at hmem
    intro hgroup
    exact hnew ⟨index, by omega, beq_iff_eq.mp hgroup⟩
  rw [membersOf, ← List.take_append_drop first (List.range items.length), List.filter_append,
    List.take_append_drop, hearlier, List.nil_append]

/-- One item more. -/
theorem seenBefore_succ {items : List WriteItem} {count group : Nat} :
    SeenBefore items (count + 1) group ↔
      SeenBefore items count group ∨ groupAt items count = some group := by
  constructor
  · rintro ⟨index, hlt, hgroup⟩
    rcases Nat.lt_succ_iff_lt_or_eq.mp hlt with hlt | rfl
    · exact .inl ⟨index, hlt, hgroup⟩
    · exact .inr hgroup
  · rintro (⟨index, hlt, hgroup⟩ | hgroup)
    · exact ⟨index, by omega, hgroup⟩
    · exact ⟨count, by omega, hgroup⟩

/-- An item that brings no new group changes nothing. -/
theorem Ordered.same {items : List WriteItem} {first : Nat} {order : List Nat}
    (h : Ordered items first order)
    (hold : ∀ group, groupAt items first = some group → SeenBefore items first group) :
    Ordered items (first + 1) order where
  perm := h.perm
  kept index hlt hnone := h.kept index hlt fun group hgroup hseen =>
    hnone group hgroup (seenBefore_succ.mpr (.inl hseen))
  sorted group hseen := h.sorted group ((seenBefore_succ.mp hseen).elim id (hold group))

theorem orderGroup_ordered {items : List WriteItem} {first : Nat} {order : List Nat}
    (h : Ordered items first order) :
    Ordered items (first + 1) (orderGroup items order first) := by
  rw [orderGroup]
  cases hgroup : groupAt items first with
  | none => exact h.same fun group hsome => by rw [hgroup] at hsome; cases hsome
  | some group =>
    dsimp only
    split
    · rename_i hany
      refine h.same fun group' hsome => ?_
      rw [hgroup] at hsome
      cases hsome
      obtain ⟨index, hmem, heq⟩ := List.any_eq_true.mp hany
      exact ⟨index, List.mem_range.mp hmem, beq_iff_eq.mp heq⟩
    · rename_i hany
      have hnew : ¬SeenBefore items first group := by
        rintro ⟨index, hlt, heq⟩
        exact hany (List.any_eq_true.mpr ⟨index, List.mem_range.mpr hlt, beq_iff_eq.mpr heq⟩)
      rw [positions_eq hnew]
      have hnodup := nodup_membersOf items group
      have hsort : (stableSort (phaseAt items) (membersOf items group)).Perm
          (membersOf items group) := stableSort_perm _
      have hin : ∀ index ∈ membersOf items group, index < order.length := fun index hmem => by
        rw [h.length]
        exact (mem_membersOf.mp hmem).1
      -- the group is met for the first time, so its items are still in their places
      have hplaces : (membersOf items group).map (order[·]?) =
          (membersOf items group).map some :=
        List.map_congr_left fun index hmem => by
          obtain ⟨hlt, hmember⟩ := mem_membersOf.mp hmem
          refine h.kept index hlt fun group' hgroup' => ?_
          rw [hmember] at hgroup'
          cases hgroup'
          exact hnew
      have hother {index : Nat} (hne : groupAt items index ≠ some group) :
          (place order ((membersOf items group).zip
            (stableSort (phaseAt items) (membersOf items group))))[index]? = order[index]? := by
        refine place_of_notMem ?_
        rw [List.map_fst_zip (Nat.le_of_eq hsort.length_eq.symm)]
        exact fun hmem => hne (mem_membersOf.mp hmem).2
      refine ⟨?_, fun index hlt hnone => ?_, fun group' hseen => ?_⟩
      · refine (place_perm hnodup hin ?_).trans h.perm
        rw [hplaces]
        exact hsort.map some
      · have hne : groupAt items index ≠ some group := fun heq =>
          hnone group heq (seenBefore_succ.mpr (.inr hgroup))
        rw [hother hne]
        exact h.kept index hlt fun group' hgroup' hseen =>
          hnone group' hgroup' (seenBefore_succ.mpr (.inl hseen))
      · by_cases hsame : group' = group
        · subst hsame
          exact map_place hnodup hsort.length_eq hin
        · have hseen' : SeenBefore items first group' := by
            refine (seenBefore_succ.mp hseen).resolve_right fun heq => hsame ?_
            rw [hgroup] at heq
            exact (Option.some.inj heq).symm
          rw [← h.sorted group' hseen']
          refine List.map_congr_left fun index hmem => hother fun heq => hsame ?_
          rw [(mem_membersOf.mp hmem).2] at heq
          exact Option.some.inj heq

/-- **After the loop all groups are ordered.** -/
theorem buildWriteExecutionOrder_ordered (items : List WriteItem) :
    Ordered items items.length (buildWriteExecutionOrder items) := by
  have hloop (count : Nat) : Ordered items count
      ((List.range count).foldl (orderGroup items) (List.range items.length)) := by
    induction count with
    | zero => exact ordered_init items
    | succ count ih =>
      rw [List.range_succ, List.foldl_append]
      exact orderGroup_ordered ih
  exact hloop items.length

/-- Earlier phases come first; items of one phase are in the order of the request. -/
def WritesBefore (items : List WriteItem) (i j : Nat) : Prop :=
  phaseAt items i < phaseAt items j ∨ phaseAt items i = phaseAt items j ∧ i < j

/-- **The positions of a group have its items, in the order of their phases.** -/
theorem group_sorted (items : List WriteItem) (group : Nat) :
    ∃ placed : List Nat, (membersOf items group).map ((buildWriteExecutionOrder items)[·]?) =
        placed.map some ∧
      placed.Perm (membersOf items group) ∧ placed.Pairwise (WritesBefore items) := by
  by_cases hseen : SeenBefore items items.length group
  · exact ⟨_, (buildWriteExecutionOrder_ordered items).sorted group hseen, stableSort_perm _,
      stableSort_pairwise (membersOf_increasing items group)⟩
  · have hnil : membersOf items group = [] :=
      List.eq_nil_iff_forall_not_mem.mpr fun index hmem =>
        hseen ⟨index, (mem_membersOf.mp hmem).1, (mem_membersOf.mp hmem).2⟩
    rw [hnil]
    exact ⟨[], rfl, .refl _, .nil⟩

/-! ## Execution -/

section Execution

variable {σ : Type} (backend : WriteBackend σ) (policy : MmsStaticDispatchPolicy)
  (access : MmsStaticRequestAccessContext)

theorem executeAt_some {items : List WriteItem} {index : Nat} {item : WriteItem}
    (h : items[index]? = some item) (progress : WriteProgress σ) :
    executeAt backend policy access items progress index =
      { results := progress.results.set index
          (executeWrite backend policy access item progress.state).1
        state := (executeWrite backend policy access item progress.state).2 } := by
  rw [executeAt, h]

theorem length_executeAt (items : List WriteItem) (progress : WriteProgress σ) (index : Nat) :
    (executeAt backend policy access items progress index).results.length =
      progress.results.length := by
  cases h : items[index]? with
  | none => rw [executeAt, h]
  | some item =>
    rw [executeAt_some backend policy access h]
    exact List.length_set

theorem length_foldl_executeAt (items : List WriteItem) (order : List Nat)
    (progress : WriteProgress σ) :
    (order.foldl (executeAt backend policy access items) progress).results.length =
      progress.results.length := by
  induction order generalizing progress with
  | nil => rfl
  | cons index order ih => exact (ih _).trans (length_executeAt backend policy access items _ _)

theorem executeAt_other {items : List WriteItem} {progress : WriteProgress σ} {index i : Nat}
    (hne : index ≠ i) :
    (executeAt backend policy access items progress index).results[i]? =
      progress.results[i]? := by
  cases h : items[index]? with
  | none => rw [executeAt, h]
  | some item =>
    rw [executeAt_some backend policy access h]
    exact List.getElem?_set_ne hne

theorem foldl_executeAt_other {items : List WriteItem} {order : List Nat} {i : Nat}
    (hnot : i ∉ order) (progress : WriteProgress σ) :
    (order.foldl (executeAt backend policy access items) progress).results[i]? =
      progress.results[i]? := by
  induction order generalizing progress with
  | nil => rfl
  | cons index order ih =>
    rw [List.mem_cons, not_or] at hnot
    exact (ih hnot.2 _).trans (executeAt_other backend policy access (Ne.symm hnot.1))

/-- **A result is the outcome of its own item**, in the state that the writes before it have
left. -/
theorem executeWrites_result {items : List WriteItem} {order : List Nat} (hnodup : order.Nodup)
    {k i : Nat} (hk : order[k]? = some i) {item : WriteItem} (hi : items[i]? = some item)
    (state : σ) :
    (executeWrites backend policy access items order state).results[i]? =
      some (executeWrite backend policy access item
        (executeWrites backend policy access items (order.take k) state).state).1 := by
  obtain ⟨hlt, heq⟩ := List.getElem?_eq_some_iff.mp hk
  have hsplit : order = order.take k ++ i :: order.drop (k + 1) := by
    rw [← heq, List.getElem_cons_drop, List.take_append_drop]
  have hlater : i ∉ order.drop (k + 1) := by
    rw [hsplit] at hnodup
    exact (List.nodup_cons.mp hnodup.of_append_right).1
  have hlength : i < (executeWrites backend policy access items (order.take k)
      state).results.length := by
    rw [executeWrites, length_foldl_executeAt, List.length_replicate]
    exact (List.getElem?_eq_some_iff.mp hi).1
  calc (executeWrites backend policy access items order state).results[i]?
      = ((order.take k ++ i :: order.drop (k + 1)).foldl (executeAt backend policy access items)
          { results := List.replicate items.length {}, state }).results[i]? := by
        rw [← hsplit, executeWrites]
    _ = (executeAt backend policy access items
          (executeWrites backend policy access items (order.take k) state) i).results[i]? := by
        rw [List.foldl_append, List.foldl_cons, foldl_executeAt_other _ _ _ hlater, executeWrites]
    _ = _ := by
        rw [executeAt_some backend policy access hi]
        exact List.getElem?_set_self hlength

end Execution

/-! ## The request -/

theorem length_of_tryDecodeWriteRequest {confirmed : MmsConfirmedPduView}
    {request : MmsWriteRequestView}
    (h : MmsServiceSpanCodec.tryDecodeWriteRequest confirmed = some request) :
    request.names.length = request.data.length := by
  rw [MmsServiceSpanCodec.tryDecodeWriteRequest] at h
  split at h
  · cases h
  obtain ⟨lists, -, h⟩ := Option.bind_eq_some_iff.mp h
  split at h
  · split at h
    · cases h
    obtain ⟨names, -, h⟩ := Option.bind_eq_some_iff.mp h
    obtain ⟨values, -, h⟩ := Option.bind_eq_some_iff.mp h
    split at h
    · cases h
    rename_i hcount
    cases h
    exact not_not.mp fun hne => hcount (.inr hne)
  · cases h

theorem makeEncoded_success {confirmed : MmsConfirmedPduView} {encoded : EncodeResult}
    (h : (makeEncoded confirmed encoded).success = true) :
    encoded.status = .ok ∧ (makeEncoded confirmed encoded).bytes = encoded.bytes := by
  rw [makeEncoded] at h ⊢
  split at h
  · rename_i hok
    rw [if_pos hok]
    exact ⟨EncodeResult.success_iff.mp hok, rfl⟩
  · split at h <;> cases h

/-- **The client reads the results in the order of its request.** -/
theorem decodeWriteResponse_of_encoded {confirmed : MmsConfirmedPduView}
    {results : List MmsWriteAccessResultInput} {responseSize : Nat}
    (h : (makeEncoded confirmed (MmsServiceSpanCodec.encodeWriteResponseInto confirmed.invokeId
      results responseSize)).success = true) :
    MmsServiceCodec.decodeWriteResponse
        (makeEncoded confirmed (MmsServiceSpanCodec.encodeWriteResponseInto confirmed.invokeId
          results responseSize)).bytes (some confirmed.invokeId) =
      .ok { invokeId := confirmed.invokeId,
            results := results.map MmsServiceSpanCodec.clientResult } := by
  obtain ⟨hok, hbytes⟩ := makeEncoded_success h
  obtain ⟨hencode, hlen⟩ := MmsServiceSpanCodec.encodeWriteResponseInto_ok hok
  rw [hbytes]
  refine MmsServiceCodec.writeResponse_back (fun result hmem => ?_) hencode (.inl rfl) hlen
    fun invokeId hid => (Option.some.inj hid).symm
  obtain ⟨input, -, rfl⟩ := List.mem_map.mp hmem
  obtain ⟨success, failureCode⟩ := input
  cases success with
  | true => exact fun _ => rfl
  | false => exact fun hsuccess => absurd hsuccess Bool.false_ne_true

/-- **Writes are executed group by group and reported in the order of the request.** -/
theorem write_execution_order {σ : Type} (backend : WriteBackend σ)
    (policy : MmsStaticDispatchPolicy) (access : MmsStaticRequestAccessContext)
    (objects : MmsStaticObjectTable) {confirmed : MmsConfirmedPduView}
    {request : MmsWriteRequestView}
    (hrequest : MmsServiceSpanCodec.tryDecodeWriteRequest confirmed = some request)
    (hcount : request.names.length ≤ policy.maximumWriteVariables) (responseSize : Nat) (state : σ) :
    let items := resolveItems objects request
    let order := buildWriteExecutionOrder items
    let executed := executeWrites backend policy access items order state
    let answer := dispatchWrite backend policy access objects confirmed responseSize state
    items.length = request.names.length ∧
      order.Perm (List.range items.length) ∧
      (∀ index < items.length, groupAt items index = none → order[index]? = some index) ∧
      (∀ group, ∃ placed : List Nat,
        (membersOf items group).map (order[·]?) = placed.map some ∧
        placed.Perm (membersOf items group) ∧ placed.Pairwise (WritesBefore items)) ∧
      answer.2 = executed.state ∧ executed.results.length = items.length ∧
      (∀ k index item, order[k]? = some index → items[index]? = some item →
        executed.results[index]? = some (executeWrite backend policy access item
          (executeWrites backend policy access items (order.take k) state).state).1) ∧
      (answer.1.success = true →
        MmsServiceCodec.decodeWriteResponse answer.1.bytes (some confirmed.invokeId) =
          .ok { invokeId := confirmed.invokeId,
                results := executed.results.map MmsServiceSpanCodec.clientResult }) := by
  intro items order executed answer
  have hanswer : answer = (makeEncoded confirmed (MmsServiceSpanCodec.encodeWriteResponseInto
      confirmed.invokeId executed.results responseSize), executed.state) := by
    show dispatchWrite backend policy access objects confirmed responseSize state = _
    rw [dispatchWrite, hrequest]
    exact if_neg (Nat.not_lt.mpr hcount)
  have hordered := buildWriteExecutionOrder_ordered items
  refine ⟨?_, hordered.perm, fun index hlt hnone => ?_, group_sorted items, ?_, ?_,
    fun k index item hk hitem => ?_, ?_⟩
  · show (List.zipWith _ _ _).length = _
    rw [List.length_zipWith, ← length_of_tryDecodeWriteRequest hrequest, Nat.min_self]
  · exact hordered.kept index hlt fun group hsome => by rw [hnone] at hsome; cases hsome
  · rw [hanswer]
  · exact (length_foldl_executeAt backend policy access items order _).trans List.length_replicate
  · exact executeWrites_result backend policy access
      (hordered.perm.nodup_iff.mpr List.nodup_range) hk hitem state
  · rw [hanswer]
    exact decodeWriteResponse_of_encoded

/-- Two objects of one group; the configuration goes before the enabling. -/
def sampleWriteObjects : MmsStaticObjectTable where
  objects :=
    [{ domain := [0x44], item := [0x61], typeSpecification := [0x83, 0x00], write := true,
       writeTransactionGroup := some 1, writeSemantic := .rcbEnable },
     { domain := [0x44], item := [0x62], typeSpecification := [0x83, 0x00], write := true,
       writeTransactionGroup := some 1, writeSemantic := .rcbConfiguration }]

def sampleWriteRequest : MmsConfirmedPduView where
  kind := .confirmedRequest
  invokeId := 7
  serviceTag := 5
  serviceConstructed := true
  serviceValue :=
    [0xA0, 0x18, 0x30, 0x0A, 0xA0, 0x08, 0xA1, 0x06, 0x1A, 0x01, 0x44, 0x1A, 0x01, 0x61,
      0x30, 0x0A, 0xA0, 0x08, 0xA1, 0x06, 0x1A, 0x01, 0x44, 0x1A, 0x01, 0x62,
      0xA0, 0x06, 0x83, 0x01, 0xFF, 0x83, 0x01, 0x00]

/-- Only the write of true succeeds. -/
def sampleWriteBackend : WriteBackend Nat where
  write _ value count := ({ success := value == [0x83, 0x01, 0xFF], failureCode := 11 }, count + 1)
  contextualWrite _ _ _ count := ({}, count)

def sampleWriteItems : MmsWriteRequestView where
  invokeId := 7
  names := [objectName [0x44] [0x61], objectName [0x44] [0x62]]
  data := [[0x83, 0x01, 0xFF], [0x83, 0x01, 0x00]]

theorem write_execution_order_sample :
    (buildWriteExecutionOrder (resolveItems sampleWriteObjects sampleWriteItems)).Perm
        (List.range (resolveItems sampleWriteObjects sampleWriteItems).length) ∧
      buildWriteExecutionOrder (resolveItems sampleWriteObjects sampleWriteItems) = [1, 0] ∧
      MmsServiceCodec.decodeWriteResponse
          (dispatchWrite sampleWriteBackend { maximumWriteVariables := 8 } {} sampleWriteObjects
            sampleWriteRequest 100 0).1.bytes (some 7) =
        .ok { invokeId := 7,
              results := [{ success := true }, { success := false, failureCode := some 11 }] } := by
  have h := @write_execution_order Nat sampleWriteBackend { maximumWriteVariables := 8 } {}
    sampleWriteObjects sampleWriteRequest sampleWriteItems (by decide) (by decide) 100 0
  exact ⟨h.2.1, by decide, (h.2.2.2.2.2.2.2 (by decide)).trans (by decide)⟩

end ArStack.Mms.MmsStaticApplicationDispatcher
