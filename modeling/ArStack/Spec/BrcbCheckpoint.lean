import ArStack.Mms.StaticBrcbCheckpointStore

/-!
# Banks and the records they hold

* `inspectBank_eq_some` — what a valid bank says about its record
* `inspectBank_of_record` — a bank that holds a record whole is valid
* `inspectBank_of_header` — a bank with a whole header is invalid or holds that record
* `powerLoss_target` — what a checkpoint that loses power leaves in the bank it writes
-/

namespace ArStack.Mms

open ArStack.Lib ArStack.Integrity

namespace MmsStaticBrcbCheckpointStore

/-! ## The ends of a record -/

section Ends

variable (generation : UInt64) (payloadBytes : Nat) (payloadCrc : UInt32)

theorem length_buildHeader :
    (buildHeader generation payloadBytes payloadCrc).length = recordHeaderBytes := by
  simp [buildHeader, headerMagic, recordHeaderBytes]

theorem length_buildFooter :
    (buildFooter generation payloadBytes payloadCrc).length = recordFooterBytes := by
  simp [buildFooter, footerMagic, recordFooterBytes]

/-- A number of four octets is read back. -/
theorem readAt_of_slice_uint32 {source : Bytes} {offset : Nat} {n : UInt32}
    (h : slice source offset 4 = beOctets 4 n.toNat) : readAt source offset 4 = n.toNat := by
  rw [readAt, h, beValue_beOctets 4 n.toNat_lt]

theorem readAt_of_slice_uint64 {source : Bytes} {offset : Nat} {n : UInt64}
    (h : slice source offset 8 = beOctets 8 n.toNat) : readAt source offset 8 = n.toNat := by
  rw [readAt, h, beValue_beOctets_uint64]

theorem headerValid_buildHeader :
    headerValid (buildHeader generation payloadBytes payloadCrc) = true := by
  have htake : (buildHeader generation payloadBytes payloadCrc).take 36 =
      headerMagic ++ beOctets 2 formatVersion ++ beOctets 2 recordHeaderBytes ++
        beOctets 8 generation.toNat ++ beOctets 4 payloadBytes ++ beOctets 4 payloadCrc.toNat ++
        List.replicate 8 0 := List.take_left' (by simp [headerMagic])
  have hcrc : slice (buildHeader generation payloadBytes payloadCrc) 36 4 =
      beOctets 4 (crc32 ((buildHeader generation payloadBytes payloadCrc).take 36)).toNat := by
    rw [htake]
    simp [slice, buildHeader, headerMagic, List.drop_append, List.drop_of_length_le]
  have hmagic : (buildHeader generation payloadBytes payloadCrc).take 8 = headerMagic := by
    simp [buildHeader, headerMagic]
  have hversion : slice (buildHeader generation payloadBytes payloadCrc) 8 2 =
      beOctets 2 formatVersion := by
    simp [slice, buildHeader, headerMagic]
  have hsize : slice (buildHeader generation payloadBytes payloadCrc) 10 2 =
      beOctets 2 recordHeaderBytes := by
    simp [slice, buildHeader, headerMagic]
  have hreserved : slice (buildHeader generation payloadBytes payloadCrc) 28 8 =
      List.replicate 8 0 := by
    simp [slice, buildHeader, headerMagic, List.drop_append, List.drop_of_length_le]
  rw [headerValid, hmagic, readAt_of_slice_uint32 hcrc, readAt, hversion, readAt, hsize, hreserved]
  simp only [beq_self_eq_true, Bool.true_and, Bool.and_true]
  decide

theorem footerValid_buildFooter :
    footerValid (buildFooter generation payloadBytes payloadCrc) = true := by
  have htake : (buildFooter generation payloadBytes payloadCrc).take 28 =
      footerMagic ++ beOctets 8 generation.toNat ++ beOctets 4 payloadBytes ++
        beOctets 4 payloadCrc.toNat ++ List.replicate 4 0 :=
    List.take_left' (by simp [footerMagic])
  have hcrc : slice (buildFooter generation payloadBytes payloadCrc) 28 4 =
      beOctets 4 (crc32 ((buildFooter generation payloadBytes payloadCrc).take 28)).toNat := by
    rw [htake]
    simp [slice, buildFooter, footerMagic, List.drop_append, List.drop_of_length_le]
  have hmagic : (buildFooter generation payloadBytes payloadCrc).take 8 = footerMagic := by
    simp [buildFooter, footerMagic]
  have hreserved : slice (buildFooter generation payloadBytes payloadCrc) 24 4 =
      List.replicate 4 0 := by
    simp [slice, buildFooter, footerMagic, List.drop_append, List.drop_of_length_le]
  rw [footerValid, hmagic, readAt_of_slice_uint32 hcrc, hreserved]
  simp only [beq_self_eq_true, Bool.true_and]
  decide

/-- A footer area that is still erased does not commit. -/
theorem footerValid_replicate (blank : UInt8) :
    footerValid (List.replicate recordFooterBytes blank) = false := by
  have hne : ((List.replicate recordFooterBytes blank).take 8 == footerMagic) = false := by
    rw [beq_eq_false_iff_ne]
    intro h
    -- the first two letters of the magic differ
    have hletters : blank = 0x41 ∧ blank = 0x52 := by
      rw [List.take_replicate, footerMagic] at h
      exact ⟨(List.cons.inj h).1, (List.cons.inj (List.cons.inj h).2).1⟩
    exact absurd (hletters.1.symm.trans hletters.2) (by decide)
  rw [footerValid, hne, Bool.false_and, Bool.false_and]

theorem readAt_header_generation :
    readAt (buildHeader generation payloadBytes payloadCrc) 12 8 = generation.toNat := by
  refine readAt_of_slice_uint64 ?_
  simp [slice, buildHeader, headerMagic, List.drop_append, List.drop_of_length_le]

theorem readAt_header_payloadBytes (h : payloadBytes ≤ uint32Max) :
    readAt (buildHeader generation payloadBytes payloadCrc) 20 4 = payloadBytes := by
  have hs : slice (buildHeader generation payloadBytes payloadCrc) 20 4 =
      beOctets 4 payloadBytes := by
    simp [slice, buildHeader, headerMagic, List.drop_append, List.drop_of_length_le]
  rw [readAt, hs, beValue_beOctets 4 (Nat.lt_of_le_of_lt h (by decide))]

theorem readAt_header_payloadCrc :
    readAt (buildHeader generation payloadBytes payloadCrc) 24 4 = payloadCrc.toNat := by
  refine readAt_of_slice_uint32 ?_
  simp [slice, buildHeader, headerMagic, List.drop_append, List.drop_of_length_le]

theorem readAt_footer_generation :
    readAt (buildFooter generation payloadBytes payloadCrc) 8 8 = generation.toNat := by
  refine readAt_of_slice_uint64 ?_
  simp [slice, buildFooter, footerMagic]

theorem readAt_footer_payloadBytes (h : payloadBytes ≤ uint32Max) :
    readAt (buildFooter generation payloadBytes payloadCrc) 16 4 = payloadBytes := by
  have hs : slice (buildFooter generation payloadBytes payloadCrc) 16 4 =
      beOctets 4 payloadBytes := by
    simp [slice, buildFooter, footerMagic]
  rw [readAt, hs, beValue_beOctets 4 (Nat.lt_of_le_of_lt h (by decide))]

theorem readAt_footer_payloadCrc :
    readAt (buildFooter generation payloadBytes payloadCrc) 20 4 = payloadCrc.toNat := by
  refine readAt_of_slice_uint32 ?_
  simp [slice, buildFooter, footerMagic, List.drop_append, List.drop_of_length_le]

end Ends

/-! ## One bank -/

section Bank

variable {cells cells' : Bytes} {bankIndex bankBytes : Nat} {info : BankInfo}

/-- What a valid bank says about its record. -/
structure ValidBank (cells : Bytes) (bankIndex bankBytes : Nat) (info : BankInfo) : Prop where
  footer : footerValid (footerOf cells bankIndex bankBytes) = true
  generation : info.generation = UInt64.ofNat (readAt (headerOf cells bankIndex bankBytes) 12 8)
  payloadBytes : info.payloadBytes = readAt (headerOf cells bankIndex bankBytes) 20 4
  payloadCrc : info.payloadCrc = UInt32.ofNat (readAt (headerOf cells bankIndex bankBytes) 24 4)
  fits : info.payloadBytes ≤ bankBytes - recordHeaderBytes - recordFooterBytes
  checked : crc32 (payloadOf cells bankIndex bankBytes info.payloadBytes) = info.payloadCrc

theorem inspectBank_eq_some (h : inspectBank cells bankIndex bankBytes = some info) :
    ValidBank cells bankIndex bankBytes info := by
  simp only [inspectBank] at h
  split at h
  · exact absurd h nofun
  · rename_i hends
    split at h
    · exact absurd h nofun
    · rename_i hfields
      split at h
      · exact absurd h nofun
      · rename_i hcrc
        obtain rfl := Option.some.inj h
        simp only [Bool.or_eq_true, Bool.not_eq_true', not_or, Bool.not_eq_false] at hends
        simp only [not_or, not_lt] at hfields
        exact ⟨hends.2, rfl, rfl, rfl, hfields.2.2.2.2.2, not_not.mp hcrc⟩

/-- The cells of a bank. -/
def SameBank (bankIndex bankBytes : Nat) (cells cells' : Bytes) : Prop :=
  ∀ i, bankOffset bankIndex bankBytes ≤ i → i < bankOffset bankIndex bankBytes + bankBytes →
    cells[i]? = cells'[i]?

theorem payloadOf_congr (h : SameBank bankIndex bankBytes cells cells') {payloadBytes : Nat}
    (hfits : recordHeaderBytes + payloadBytes ≤ bankBytes) :
    payloadOf cells bankIndex bankBytes payloadBytes =
      payloadOf cells' bankIndex bankBytes payloadBytes :=
  slice_congr fun i hlo hhi => h i (by omega) (by omega)

/-- Inspecting a bank reads its own cells only. -/
theorem inspectBank_congr (hb : recordHeaderBytes + recordFooterBytes < bankBytes)
    (h : SameBank bankIndex bankBytes cells cells') :
    inspectBank cells bankIndex bankBytes = inspectBank cells' bankIndex bankBytes := by
  have hheader : headerOf cells bankIndex bankBytes = headerOf cells' bankIndex bankBytes :=
    slice_congr fun i hlo hhi => h i (by omega) (by omega)
  have hfooter : footerOf cells bankIndex bankBytes = footerOf cells' bankIndex bankBytes :=
    slice_congr fun i hlo hhi => h i (by omega) (by omega)
  simp only [inspectBank, hheader, hfooter]
  split
  · rfl
  · split
    · rfl
    · rename_i hfields
      simp only [not_or, Nat.not_lt] at hfields
      rw [payloadOf_congr h (by omega)]

/-! ## A bank that is being written -/

section Record

variable {generation : UInt64} {payload : Bytes}

/-- The record of an image. -/
def recordInfo (generation : UInt64) (payload : Bytes) : BankInfo :=
  { generation, payloadBytes := payload.length, payloadCrc := crc32 payload }

/-- A whole header leaves no other record than its own. -/
theorem inspectBank_of_header (h32 : payload.length ≤ uint32Max)
    (hheader : headerOf cells bankIndex bankBytes =
      buildHeader generation payload.length (crc32 payload))
    (h : inspectBank cells bankIndex bankBytes = some info) :
    info = recordInfo generation payload := by
  obtain ⟨-, hgeneration, hbytes, hcrc, -, -⟩ := inspectBank_eq_some h
  rw [hheader] at hgeneration hbytes hcrc
  rw [readAt_header_generation, UInt64.ofNat_toNat] at hgeneration
  rw [readAt_header_payloadBytes _ _ _ h32] at hbytes
  rw [readAt_header_payloadCrc, UInt32.ofNat_toNat] at hcrc
  rw [recordInfo, ← hgeneration, ← hbytes, ← hcrc]

/-- A record that is there whole makes its bank valid. -/
theorem inspectBank_of_record (hgeneration : generation ≠ 0) (hpayload : payload ≠ [])
    (h32 : payload.length ≤ uint32Max)
    (hfits : payload.length ≤ bankBytes - recordHeaderBytes - recordFooterBytes)
    (hheader : headerOf cells bankIndex bankBytes =
      buildHeader generation payload.length (crc32 payload))
    (hfooter : footerOf cells bankIndex bankBytes =
      buildFooter generation payload.length (crc32 payload))
    (hbody : payloadOf cells bankIndex bankBytes payload.length = payload) :
    inspectBank cells bankIndex bankBytes = some (recordInfo generation payload) := by
  have hne : payload.length ≠ 0 := fun h => hpayload (List.length_eq_zero_iff.mp h)
  simp only [inspectBank, hheader, hfooter, headerValid_buildHeader, footerValid_buildFooter,
    readAt_header_generation, readAt_header_payloadBytes _ _ _ h32, readAt_header_payloadCrc,
    readAt_footer_generation, readAt_footer_payloadBytes _ _ _ h32, readAt_footer_payloadCrc,
    UInt64.ofNat_toNat, UInt32.ofNat_toNat, hbody, hgeneration, hne, Nat.not_lt.mpr hfits]
  simp [recordInfo]

end Record

end Bank

/-! ## The operations of a checkpoint -/

section Ops

variable (store : MmsStaticBrcbCheckpointStore) (target : Nat) (generation : UInt64)
  (payload : Bytes)

def eraseOps : List (Op UInt8) := [.erase (bankOffset target store.bankBytes) store.bankBytes, .sync]

def bodyOps : List (Op UInt8) :=
  [.write (bankOffset target store.bankBytes)
      (buildHeader generation payload.length (crc32 payload)),
    .write (bankOffset target store.bankBytes + recordHeaderBytes) payload,
    .sync]

def commitOps : List (Op UInt8) :=
  [.write (bankOffset target store.bankBytes + store.bankBytes - recordFooterBytes)
      (buildFooter generation payload.length (crc32 payload)),
    .sync]

theorem recordOps_eq :
    store.recordOps target generation payload =
      store.eraseOps target ++ store.bodyOps target generation payload ++
        store.commitOps target generation payload := rfl

/-- The storage once its bank is erased, once it holds header and image, and in the end. -/
def erased (blank : UInt8) (cells : Bytes) : Bytes :=
  splice cells (bankOffset target store.bankBytes) (List.replicate store.bankBytes blank)

def recorded (cells : Bytes) : Bytes :=
  splice (splice cells (bankOffset target store.bankBytes)
      (buildHeader generation payload.length (crc32 payload)))
    (bankOffset target store.bankBytes + recordHeaderBytes) payload

def committed (cells : Bytes) : Bytes :=
  splice cells (bankOffset target store.bankBytes + store.bankBytes - recordFooterBytes)
    (buildFooter generation payload.length (crc32 payload))

end Ops

/-- The bank is in the storage and the image fits it. -/
structure Fits (store : MmsStaticBrcbCheckpointStore) (target : Nat) (payload : Bytes)
    (cells : Bytes) : Prop where
  bank : bankOffset target store.bankBytes + store.bankBytes ≤ cells.length
  layout : recordHeaderBytes + recordFooterBytes < store.bankBytes
  payload_ne : payload ≠ []
  payload_le : payload.length ≤ store.bankBytes - recordHeaderBytes - recordFooterBytes
  payload_le_uint32 : payload.length ≤ uint32Max

section Written

variable {store : MmsStaticBrcbCheckpointStore} {target : Nat} {generation : UInt64}
  {payload cells : Bytes} {blank : UInt8} (h : store.Fits target payload cells)
include h

omit h in
theorem eraseOps_within (op : Op UInt8) (hop : op ∈ store.eraseOps target) :
    op.Within (bankOffset target store.bankBytes)
      (bankOffset target store.bankBytes + store.bankBytes) := by
  simp only [eraseOps, List.mem_cons, List.not_mem_nil, or_false] at hop
  rcases hop with rfl | rfl
  · exact ⟨Nat.le_refl _, Nat.le_refl _⟩
  · trivial

theorem bodyOps_within (op : Op UInt8) (hop : op ∈ store.bodyOps target generation payload) :
    op.Within (bankOffset target store.bankBytes)
      (bankOffset target store.bankBytes + store.bankBytes - recordFooterBytes) := by
  have hlayout := h.layout
  have hle := h.payload_le
  simp only [bodyOps, List.mem_cons, List.not_mem_nil, or_false] at hop
  rcases hop with rfl | rfl | rfl
  · refine ⟨Nat.le_refl _, ?_⟩
    rw [length_buildHeader]
    omega
  · exact ⟨Nat.le_add_right _ _, by omega⟩
  · trivial

theorem commitOps_within (op : Op UInt8) (hop : op ∈ store.commitOps target generation payload) :
    op.Within (bankOffset target store.bankBytes + store.bankBytes - recordFooterBytes)
      (bankOffset target store.bankBytes + store.bankBytes) := by
  have hlayout := h.layout
  simp only [commitOps, List.mem_cons, List.not_mem_nil, or_false] at hop
  rcases hop with rfl | rfl
  · refine ⟨Nat.le_refl _, ?_⟩
    rw [length_buildFooter]
    omega
  · trivial

/-- A checkpoint touches its target bank only. -/
theorem recordOps_within (op : Op UInt8) (hop : op ∈ store.recordOps target generation payload) :
    op.Within (bankOffset target store.bankBytes)
      (bankOffset target store.bankBytes + store.bankBytes) := by
  have hlayout := h.layout
  have widen {lo hi : Nat} (hlo : bankOffset target store.bankBytes ≤ lo)
      (hhi : hi ≤ bankOffset target store.bankBytes + store.bankBytes) (hw : op.Within lo hi) :
      op.Within (bankOffset target store.bankBytes)
        (bankOffset target store.bankBytes + store.bankBytes) := by
    cases op with
    | erase offset len => exact ⟨hlo.trans hw.1, hw.2.trans hhi⟩
    | write offset source => exact ⟨hlo.trans hw.1, hw.2.trans hhi⟩
    | sync => trivial
  rw [recordOps_eq, List.mem_append, List.mem_append] at hop
  rcases hop with (herase | hbody) | hcommit
  · exact eraseOps_within op herase
  · exact widen (Nat.le_refl _) (by omega) (bodyOps_within h op hbody)
  · exact widen (by omega) (Nat.le_refl _) (commitOps_within h op hcommit)

theorem length_erased : (store.erased target blank cells).length = cells.length :=
  length_splice (by rw [List.length_replicate]; exact h.bank)

theorem length_recorded :
    (store.recorded target generation payload cells).length = cells.length := by
  have hbank := h.bank
  have hlayout := h.layout
  have hle := h.payload_le
  have hheader : (splice cells (bankOffset target store.bankBytes)
      (buildHeader generation payload.length (crc32 payload))).length = cells.length :=
    length_splice (by rw [length_buildHeader]; omega)
  exact (length_splice (by rw [hheader]; omega)).trans hheader

theorem footerOf_erased :
    footerOf (store.erased target blank cells) target store.bankBytes =
      List.replicate recordFooterBytes blank := by
  have hbank := h.bank
  have hlayout := h.layout
  have hat : bankOffset target store.bankBytes + store.bankBytes - recordFooterBytes =
      bankOffset target store.bankBytes + (store.bankBytes - recordFooterBytes) := by omega
  rw [footerOf, erased, hat, slice_splice_within (by rw [List.length_replicate]; exact hbank)
    (by rw [List.length_replicate]; omega), slice, List.drop_replicate, List.take_replicate]
  congr 1
  omega

theorem headerOf_recorded :
    headerOf (store.recorded target generation payload cells) target store.bankBytes =
      buildHeader generation payload.length (crc32 payload) := by
  have hbank := h.bank
  have hlayout := h.layout
  have hle := h.payload_le
  have hlen := length_buildHeader generation payload.length (crc32 payload)
  have hfit : bankOffset target store.bankBytes +
      (buildHeader generation payload.length (crc32 payload)).length ≤ cells.length := by omega
  rw [headerOf, recorded, slice_splice_beside (by rw [length_splice hfit]; omega)
    (Or.inl (Nat.le_refl _)), ← hlen, slice_splice hfit]

theorem payloadOf_recorded :
    payloadOf (store.recorded target generation payload cells) target store.bankBytes
      payload.length = payload := by
  have hbank := h.bank
  have hlayout := h.layout
  have hle := h.payload_le
  have hlen := length_buildHeader generation payload.length (crc32 payload)
  have hfit : bankOffset target store.bankBytes +
      (buildHeader generation payload.length (crc32 payload)).length ≤ cells.length := by omega
  exact slice_splice (by rw [length_splice hfit]; omega)

variable (generation) in
/-- The footer leaves header and image alone. -/
theorem committed_parts :
    headerOf (store.committed target generation payload cells) target store.bankBytes =
        headerOf cells target store.bankBytes ∧
      payloadOf (store.committed target generation payload cells) target store.bankBytes
        payload.length = payloadOf cells target store.bankBytes payload.length ∧
      footerOf (store.committed target generation payload cells) target store.bankBytes =
        buildFooter generation payload.length (crc32 payload) := by
  have hbank := h.bank
  have hlayout := h.layout
  have hle := h.payload_le
  have hlen := length_buildFooter generation payload.length (crc32 payload)
  have hfit : bankOffset target store.bankBytes + store.bankBytes - recordFooterBytes +
      (buildFooter generation payload.length (crc32 payload)).length ≤ cells.length := by omega
  refine ⟨slice_splice_beside hfit (Or.inl (by omega)), slice_splice_beside hfit
    (Or.inl (by omega)), ?_⟩
  rw [footerOf, committed, ← hlen]
  exact slice_splice (by rw [hlen] at hfit ⊢; exact hfit)

/-! ## Power loss -/

variable {issued : Nat} {after : Bytes}

theorem powerLoss_length
    (hloss : PowerLoss (Medium.run blank (.rest cells)
      ((store.recordOps target generation payload).take issued)) after) :
    after.length = cells.length :=
  (hloss.frame (recordOps_within h) h.bank).1

/-- **The other bank.** It is as it was at every point of a checkpoint. -/
theorem powerLoss_other
    (hloss : PowerLoss (Medium.run blank (.rest cells)
      ((store.recordOps target generation payload).take issued)) after)
    {other : Nat} (hother : other ≠ target) : SameBank other store.bankBytes after cells := by
  intro i hlo hhi
  refine (hloss.frame (recordOps_within h) h.bank).2 i ?_
  simp only [bankOffset] at hlo hhi ⊢
  rcases Nat.lt_or_gt_of_ne hother with hlt | hgt
  · have hnext := Nat.mul_le_mul_right store.bankBytes (Nat.succ_le_of_lt hlt)
    rw [Nat.succ_mul] at hnext
    omega
  · have hnext := Nat.mul_le_mul_right store.bankBytes (Nat.succ_le_of_lt hgt)
    rw [Nat.succ_mul] at hnext
    omega

/-- Until the image is durable the bank has no footer. -/
theorem powerLoss_body
    (hloss : PowerLoss (Medium.run blank (.rest (store.erased target blank cells))
      ((store.bodyOps target generation payload).take issued)) after) :
    inspectBank after target store.bankBytes = none := by
  have hframe := hloss.frame (bodyOps_within h) (by
    rw [length_erased h]
    exact (Nat.sub_le _ _).trans h.bank)
  have hfooter : footerOf after target store.bankBytes = List.replicate recordFooterBytes blank := by
    rw [← footerOf_erased h]
    exact slice_congr fun i hlo hhi => hframe.2 i (Or.inr hlo)
  simp only [inspectBank, hfooter, footerValid_replicate]
  simp

/-- Afterwards the bank holds the record or none. -/
theorem powerLoss_commit {durable : Bytes} (hlength : durable.length = cells.length)
    (hheader : headerOf durable target store.bankBytes =
      buildHeader generation payload.length (crc32 payload))
    (hbody : payloadOf durable target store.bankBytes payload.length = payload)
    (hloss : PowerLoss (Medium.run blank (.rest durable)
      ((store.commitOps target generation payload).take issued)) after)
    {info : BankInfo} (hinfo : inspectBank after target store.bankBytes = some info) :
    info = recordInfo generation payload ∧
      payloadOf after target store.bankBytes info.payloadBytes = payload := by
  have hlayout := h.layout
  have hle := h.payload_le
  have hframe := hloss.frame (commitOps_within h) (by rw [hlength]; exact h.bank)
  have hheader' : headerOf after target store.bankBytes =
      buildHeader generation payload.length (crc32 payload) := by
    rw [← hheader]
    exact slice_congr fun i hlo hhi => hframe.2 i (Or.inl (by omega))
  have hbody' : payloadOf after target store.bankBytes payload.length = payload := by
    refine Eq.trans ?_ hbody
    exact slice_congr fun i hlo hhi => hframe.2 i (Or.inl (by omega))
  obtain rfl := inspectBank_of_header h.payload_le_uint32 hheader' hinfo
  exact ⟨rfl, hbody'⟩

variable (blank) in
theorem fits_erased : store.Fits target payload (store.erased target blank cells) :=
  { h with bank := by rw [length_erased h]; exact h.bank }

/-- **The target bank.** Once the erase is durable, the bank holds the new record or none. -/
theorem powerLoss_target (hissued : 2 ≤ issued)
    (hloss : PowerLoss (Medium.run blank (.rest cells)
      ((store.recordOps target generation payload).take issued)) after)
    {info : BankInfo} (hinfo : inspectBank after target store.bankBytes = some info) :
    info = recordInfo generation payload ∧
      payloadOf after target store.bankBytes info.payloadBytes = payload := by
  obtain ⟨k, rfl⟩ := Nat.exists_eq_add_of_le hissued
  have hphases : (store.recordOps target generation payload).take (2 + k) =
      store.eraseOps target ++ ((store.bodyOps target generation payload).take k ++
        (store.commitOps target generation payload).take (k - 3)) := by
    rw [recordOps_eq, List.append_assoc, List.take_append,
      List.take_of_length_le (Nat.le_add_right 2 k)]
    have hbody : 2 + k - (store.eraseOps target).length = k := Nat.add_sub_cancel_left 2 k
    rw [List.take_append, hbody]
    rfl
  rw [hphases, Medium.run_append, Medium.run_append] at hloss
  by_cases hk : k ≤ 3
  · -- header and image are on their way, or just durable
    rw [Nat.sub_eq_zero_of_le hk, List.take_zero] at hloss
    rw [powerLoss_body h hloss] at hinfo
    exact absurd hinfo nofun
  · have hall : (store.bodyOps target generation payload).take k =
        store.bodyOps target generation payload := List.take_of_length_le (Nat.le_of_not_le hk)
    have herased := fits_erased blank h
    rw [hall] at hloss
    exact powerLoss_commit h ((length_recorded herased).trans (length_erased h))
      (headerOf_recorded herased) (payloadOf_recorded herased) hloss hinfo

variable (blank) in
/-- A checkpoint that is done has written its record. -/
theorem inspectBank_recordOps (hgeneration : generation ≠ 0) :
    inspectBank (Medium.run blank (.rest cells)
        (store.recordOps target generation payload)).current target store.bankBytes =
      some (recordInfo generation payload) := by
  have herased := fits_erased blank h
  have hrecorded : store.Fits target payload
      (store.recorded target generation payload (store.erased target blank cells)) :=
    { herased with bank := by rw [length_recorded herased]; exact herased.bank }
  obtain ⟨hheader, hbody, hfooter⟩ := committed_parts generation hrecorded
  rw [headerOf_recorded herased] at hheader
  rw [payloadOf_recorded herased] at hbody
  exact inspectBank_of_record hgeneration h.payload_ne h.payload_le_uint32 h.payload_le hheader
    hfooter hbody

end Written

end MmsStaticBrcbCheckpointStore

end ArStack.Mms
