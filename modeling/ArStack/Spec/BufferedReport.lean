import ArStack.Mms.BufferedReportSpan
import Mathlib.Data.List.TakeWhile

/-!
# What an encoded report contains

* `encodeSnapshotInto_ok` — an encoded report ends with its inclusion bit string, the values
  and, when the optional field is selected, one reason for each included member
* `inclusionOctets_bit` — a member's bit is set exactly when it is included
-/

namespace ArStack.Asn1.BerSpanWriter

/-- A step of an encoder that only adds octets. -/
def Grows (f : BerSpanWriter → Option BerSpanWriter) : Prop :=
  ∀ ⦃writer writer'⦄, f writer = some writer' → writer.out <+: writer'.out

theorem grows_some : Grows some := by
  intro writer writer' h
  obtain rfl := Option.some.inj h
  exact List.prefix_refl _

theorem grows_none : Grows fun _ => none := by
  intro writer writer' h
  cases h

theorem grows_writeBytes (value : Bytes) : Grows (writeBytes · value) := by
  intro writer writer' h
  obtain rfl := writeBytes_eq_some h
  exact List.prefix_append _ _

theorem Grows.bind {f g : BerSpanWriter → Option BerSpanWriter} (hf : Grows f) (hg : Grows g) :
    Grows fun writer => (f writer).bind g := by
  intro writer writer' h
  obtain ⟨w, hw, hw'⟩ := Option.bind_eq_some_iff.mp h
  exact (hf hw).trans (hg hw')

theorem Grows.ite {f g : BerSpanWriter → Option BerSpanWriter} (p : Prop) [Decidable p]
    (hf : Grows f) (hg : Grows g) : Grows fun writer => if p then f writer else g writer := by
  intro writer writer' h
  by_cases hp : p
  · exact hf (by simpa [hp] using h)
  · exact hg (by simpa [hp] using h)

theorem Grows.writeIf (selected : Bool) {f : BerSpanWriter → Option BerSpanWriter} (hf : Grows f) :
    Grows (Mms.Detail.writeIf selected f) := hf.ite _ grows_some

theorem Grows.foldlM {α : Type} {f : BerSpanWriter → α → Option BerSpanWriter}
    (hf : ∀ x, Grows (f · x)) (xs : List α) : Grows (xs.foldlM f ·) := by
  induction xs with
  | nil => exact grows_some
  | cons x xs ih =>
    intro writer writer' h
    exact (hf x).bind ih h

theorem grows_writeTlvHeader (tagClass : BerClass) (constructed : Bool)
    (tagNumber valueLength : Nat) :
    Grows (writeTlvHeader · tagClass constructed tagNumber valueLength) :=
  (grows_writeBytes _).bind (grows_none.ite _ (grows_writeBytes _))

theorem writeTlvHeader_out {writer writer' : BerSpanWriter} {tagClass : BerClass}
    {constructed : Bool} {tagNumber valueLength : Nat}
    (h : writer.writeTlvHeader tagClass constructed tagNumber valueLength = some writer') :
    writer'.out = writer.out ++ tlvHeader tagClass constructed tagNumber valueLength := by
  obtain ⟨w, hw, hw'⟩ := Option.bind_eq_some_iff.mp h
  rw [writeLength] at hw'
  split at hw'
  · cases hw'
  · rw [writeBytes_eq_some hw', writeBytes_eq_some hw, tlvHeader, List.append_assoc]

/-- A fold of steps that each add `g x` adds all of them. -/
theorem foldlM_out {α : Type} {f : BerSpanWriter → α → Option BerSpanWriter} {g : α → Bytes}
    (hf : ∀ x writer writer', f writer x = some writer' → writer'.out = writer.out ++ g x)
    (xs : List α) {writer writer' : BerSpanWriter} (h : xs.foldlM f writer = some writer') :
    writer'.out = writer.out ++ xs.flatMap g := by
  induction xs generalizing writer with
  | nil =>
    obtain rfl := Option.some.inj h
    simp
  | cons x xs ih =>
    rw [List.foldlM_cons] at h
    obtain ⟨w, hw, hw'⟩ := Option.bind_eq_some_iff.mp h
    rw [ih hw', hf x _ _ hw, List.flatMap_cons, List.append_assoc]

end ArStack.Asn1.BerSpanWriter

namespace ArStack.Mms

open ArStack.Asn1 ArStack.Asn1.BerSpanWriter ArStack.Wire

namespace Detail

theorem writeBitString_out {writer writer' : BerSpanWriter} {unusedBits : UInt8} {bytes : Bytes}
    (h : writeBitString writer unusedBits bytes = some writer') :
    writer'.out = writer.out ++
      (tlvHeader .contextSpecific false 4 (1 + bytes.length) ++ unusedBits :: bytes) := by
  rw [writeBitString] at h
  split at h
  · cases h
  · obtain ⟨w, hw, h⟩ := Option.bind_eq_some_iff.mp h
    obtain ⟨w', hw', h⟩ := Option.bind_eq_some_iff.mp h
    rw [writeBytes_eq_some h, writeBytes_eq_some hw', writeTlvHeader_out hw]
    simp

theorem grows_writeReference (reference : MmsInformationReportReferenceInput) :
    Grows (writeReference · reference) := by
  intro writer writer' h
  obtain ⟨content, -, h⟩ := Option.bind_eq_some_iff.mp h
  exact (grows_writeTlvHeader _ _ _ _).bind ((grows_writeBytes _).bind
    ((grows_writeBytes _).bind (grows_writeBytes _))) h

theorem grows_writeAccessResult (result : MmsReadAccessResultInput) :
    Grows (writeAccessResult · result) :=
  (grows_writeBytes _).ite _ ((grows_writeTlvHeader _ _ _ _).bind
    (((grows_writeBytes _).writeIf _).bind (grows_writeBytes _)))

end Detail

namespace MmsBufferedSelectiveInformationReportSpanCodec

open Detail

variable (report : MmsBufferedSelectiveInformationReportSnapshotInput)

/-! ## The fields of interest -/

/-- The inclusion octets of a report. -/
def inclusionOctets : Bytes :=
  (inclusionBytes ((report.dataSetMemberCount + 7) / 8) 0 report.includedMemberIndices).1

/-- A bit string with one bit for each member. -/
def memberBitString (memberCount : Nat) (octets : Bytes) : Bytes :=
  tlvHeader .contextSpecific false 4 (1 + (memberCount + 7) / 8) ++
    UInt8.ofNat ((memberCount + 7) / 8 * 8 - memberCount) :: octets

/-- The inclusion bit string. -/
def inclusionField : Bytes := memberBitString report.dataSetMemberCount (inclusionOctets report)

/-- One reason for inclusion, a bit string of six bits. -/
def reasonField (reason : UInt8) : Bytes := [0x84, 0x02, 0x02, reason]

/-- The reasons of a report, if its optional fields select them. -/
def reasonFields : Bytes :=
  if optionalSelected report 0 optReasonForInclusion then
    report.includedReasonForInclusion.flatMap reasonField
  else []

variable {report}

theorem writeInclusion_out {writer writer' : BerSpanWriter}
    (h : writeInclusion writer report.dataSetMemberCount report.includedMemberIndices
      = some writer') : writer'.out = writer.out ++ inclusionField report := by
  obtain ⟨w, hw, h⟩ := Option.bind_eq_some_iff.mp h
  obtain ⟨w', hw', h⟩ := Option.bind_eq_some_iff.mp h
  obtain ⟨w'', hw'', h⟩ := Option.bind_eq_some_iff.mp h
  split at h
  · obtain rfl := Option.some.inj h
    rw [writeBytes_eq_some hw'', writeBytes_eq_some hw', writeTlvHeader_out hw, inclusionField,
      memberBitString, inclusionOctets]
    simp
  · cases h

theorem writeReasons_out {writer writer' : BerSpanWriter}
    (h : writeReasons writer report = some writer') :
    writer'.out = writer.out ++ reasonFields report := by
  rw [writeReasons, writeIf] at h
  rw [reasonFields]
  split at h
  · rename_i hsel
    rw [if_pos hsel]
    exact foldlM_out (fun reason w w' hw => writeBitString_out hw) _ h
  · rename_i hsel
    rw [if_neg hsel, List.append_nil, Option.some.inj h]

/-- **What a successful encoding consists of.** -/
theorem encodeSnapshotInto_ok {destinationSize : Nat}
    (h : (encodeSnapshotInto report destinationSize).status = .ok) :
    ∃ preamble values, (encodeSnapshotInto report destinationSize).bytes
      = preamble ++ inclusionField report ++ values ++ reasonFields report := by
  simp only [encodeSnapshotInto] at h ⊢
  split at h
  · cases h
  rename_i hvalid
  rw [if_neg hvalid]
  cases hsizes : sizes report with
  | none => rw [hsizes] at h; cases h
  | some sizes =>
    simp only [hsizes] at h ⊢
    split at h
    · cases h
    rename_i hfits
    rw [if_neg hfits]
    cases hwrite : (writePreamble { capacity := sizes.required } sizes).bind
        (writeAccessResults · report) with
    | none => rw [hwrite] at h; cases h
    | some writer =>
      simp only [hwrite] at h ⊢
      split at h
      · cases h
      rename_i hsize
      rw [if_neg hsize]
      obtain ⟨w, -, hres⟩ := Option.bind_eq_some_iff.mp hwrite
      obtain ⟨w₁, -, hres⟩ := Option.bind_eq_some_iff.mp hres
      obtain ⟨w₂, hinc, hres⟩ := Option.bind_eq_some_iff.mp hres
      obtain ⟨w₃, hrefs, hres⟩ := Option.bind_eq_some_iff.mp hres
      obtain ⟨w₄, hvals, hreasons⟩ := Option.bind_eq_some_iff.mp hres
      obtain ⟨refs, hrefs'⟩ := (Grows.foldlM grows_writeReference _).writeIf _ hrefs
      obtain ⟨vals, hvals'⟩ := Grows.foldlM grows_writeAccessResult _ hvals
      refine ⟨w₁.out, refs ++ vals, ?_⟩
      rw [writeReasons_out hreasons, ← hvals', ← hrefs', writeInclusion_out hinc]
      simp only [List.append_assoc]

/-! ## The bits of the inclusion bit string -/

theorem inclusionBit_and (i m : Nat) :
    inclusionBit i &&& inclusionBit m ≠ 0 ↔ i % 8 = m % 8 := by
  have hfin : ∀ a b : Fin 8, (0x80 >>> UInt8.ofNat a) &&& (0x80 >>> UInt8.ofNat b) ≠ (0 : UInt8) ↔
      (a : Nat) = b := by decide
  exact hfin ⟨i % 8, Nat.mod_lt _ (by omega)⟩ ⟨m % 8, Nat.mod_lt _ (by omega)⟩

theorem or_and_ne_zero (a b c : UInt8) :
    (a ||| b) &&& c ≠ 0 ↔ a &&& c ≠ 0 ∨ b &&& c ≠ 0 := by
  have hdistrib : (a ||| b) &&& c = (a &&& c) ||| (b &&& c) :=
    UInt8.toBitVec_inj.mp BitVec.and_or_distrib_right
  rw [hdistrib, ne_eq, UInt8.or_eq_zero_iff, not_and_or]

/-- The bits that a fold over `here` sets. -/
theorem foldl_inclusionBit (here : List Nat) (value : UInt8) (m : Nat) :
    here.foldl (fun value index => value ||| inclusionBit index) value &&& inclusionBit m ≠ 0 ↔
      value &&& inclusionBit m ≠ 0 ∨ ∃ i ∈ here, i % 8 = m % 8 := by
  induction here generalizing value with
  | nil => simp
  | cons i here ih =>
    rw [List.foldl_cons, ih, or_and_ne_zero, inclusionBit_and]
    simp only [List.mem_cons, exists_eq_or_imp, or_assoc]

/-- Of ascending indices, those of octet `b` come first. -/
theorem octet_lt_of_mem_dropWhile {b : Nat} {included : List Nat}
    (hsort : included.Pairwise (· < ·)) (hge : ∀ i ∈ included, b ≤ i / 8) {i : Nat}
    (h : i ∈ included.dropWhile fun index => index / 8 = b) : b < i / 8 := by
  induction included with
  | nil => simp at h
  | cons a included ih =>
    obtain ⟨ha, hsort⟩ := List.pairwise_cons.mp hsort
    rw [List.dropWhile_cons] at h
    split at h
    · exact ih hsort (fun j hj => hge j (List.mem_cons_of_mem a hj)) h
    · rename_i hne
      have hab : b < a / 8 := by
        have := hge a List.mem_cons_self
        simp only [decide_eq_true_eq] at hne
        omega
      rcases List.mem_cons.mp h with rfl | hi
      · exact hab
      · have := ha i hi
        omega

/-- **A member's bit is set exactly when it is included.** -/
theorem inclusionBytes_bit {count b : Nat} {included : List Nat}
    (hsort : included.Pairwise (· < ·)) (hge : ∀ i ∈ included, b ≤ i / 8) {m : Nat}
    (hb : b ≤ m / 8) (hm : m / 8 < b + count) :
    (inclusionBytes count b included).1.getD (m / 8 - b) 0 &&& inclusionBit m ≠ 0 ↔
      m ∈ included := by
  induction count generalizing b included with
  | zero => omega
  | succ count ih =>
    have hsplit := List.takeWhile_append_dropWhile
      (p := fun index => decide (index / 8 = b)) (l := included)
    have hlater := fun i => octet_lt_of_mem_dropWhile (i := i) hsort hge
    have hhere : ∀ i ∈ included.takeWhile fun index => index / 8 = b, i / 8 = b := fun i hi => by
      simpa using List.mem_takeWhile_imp hi
    rw [← hsplit, List.mem_append, inclusionBytes]
    by_cases hmb : m / 8 = b
    · rw [show m / 8 - b = 0 by omega, List.getD_cons_zero, hsplit, foldl_inclusionBit]
      constructor
      · rintro (h | ⟨i, hi, him⟩)
        · simp at h
        · have : i = m := by
            have := hhere i hi
            omega
          exact .inl (this ▸ hi)
      · rintro (h | h)
        · exact .inr ⟨m, h, rfl⟩
        · have := hlater m h
          omega
    · obtain ⟨k, hk⟩ : ∃ k, m / 8 - b = k + 1 := ⟨m / 8 - b - 1, by omega⟩
      rw [hsplit, hk, List.getD_cons_succ, show k = m / 8 - (b + 1) by omega,
        ih (hsort.sublist (List.dropWhile_sublist _)) (fun i hi => hlater i hi) (by omega)
          (by omega)]
      refine ⟨.inr, fun h => h.resolve_left fun h' => hmb (hhere m h')⟩

theorem inclusionOctets_bit (hsort : report.includedMemberIndices.Pairwise (· < ·)) {m : Nat}
    (hm : m < report.dataSetMemberCount) :
    (inclusionOctets report).getD (m / 8) 0 &&& inclusionBit m ≠ 0 ↔
      m ∈ report.includedMemberIndices :=
  inclusionBytes_bit (b := 0) hsort (fun i _ => Nat.zero_le _) (Nat.zero_le _) (by omega)

end MmsBufferedSelectiveInformationReportSpanCodec

end ArStack.Mms
