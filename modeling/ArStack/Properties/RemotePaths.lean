import ArStack.Lib.Throws
import ArStack.Mms.FileService
import ArStack.Spec.EncodedSize

/-!
# Remote paths

A normalized path is its segments with slashes between them, and a FileOpen request carries the
segments one by one.

* `pathSegments_intercalate` — a path in its segments
* `normalizeSegments_ok` — what becomes of the segments
* `normalizeRemotePath_ok`, `normalizeRemotePath_segments` — there and back
* `fileName_segments` — the name in a FileOpen request
* `remote_paths`
-/

namespace ArStack.Mms.MmsFileServiceCodec

open ArStack.Asn1 ArStack.Lib BerReader

/-! ## Segments -/

theorem pathSegments_eq_splitOn (path : Bytes) : pathSegments path = path.splitOn 0x2F := by
  induction path with
  | nil => rfl
  | cons octet rest ih =>
    rw [pathSegments, List.splitOn_cons_eq_if_modifyHead, ih]
    by_cases hslash : octet = 0x2F
    · rw [if_pos hslash, if_pos (beq_iff_eq.mpr hslash)]
    · rw [if_neg hslash, if_neg fun heq => hslash (beq_iff_eq.mp heq)]
      cases hsplit : rest.splitOn 0x2F with
      | nil => exact absurd hsplit (List.splitOn_ne_nil _ _)
      | cons segment segments => rfl

theorem pathSegments_intercalate {segments : List Bytes} (hne : segments ≠ [])
    (hslash : ∀ segment ∈ segments, 0x2F ∉ segment) :
    pathSegments (List.intercalate [0x2F] segments) = segments := by
  rw [pathSegments_eq_splitOn, List.splitOn_intercalate 0x2F hslash hne]

/-- A segment has the octets of the path, but for the slashes. -/
theorem mem_of_pathSegments {path segment : Bytes} (h : segment ∈ pathSegments path) {octet : UInt8}
    (hmem : octet ∈ segment) : octet ∈ path ∧ octet ≠ 0x2F := by
  induction path generalizing segment with
  | nil =>
    obtain rfl := List.mem_singleton.mp h
    exact absurd hmem List.not_mem_nil
  | cons first rest ih =>
    rw [pathSegments] at h
    split at h
    · rcases List.mem_cons.mp h with rfl | h
      · exact absurd hmem List.not_mem_nil
      · obtain ⟨hrest, hne⟩ := ih h hmem
        exact ⟨List.mem_cons_of_mem _ hrest, hne⟩
    rename_i hfirst
    split at h
    · obtain rfl := List.mem_singleton.mp h
      obtain rfl := List.mem_singleton.mp hmem
      exact ⟨List.mem_cons_self, hfirst⟩
    · rename_i head tail hsplit
      rcases List.mem_cons.mp h with rfl | h
      · rcases List.mem_cons.mp hmem with rfl | hmem
        · exact ⟨List.mem_cons_self, hfirst⟩
        · obtain ⟨hrest, hne⟩ := ih (hsplit ▸ List.mem_cons_self) hmem
          exact ⟨List.mem_cons_of_mem _ hrest, hne⟩
      · obtain ⟨hrest, hne⟩ := ih (hsplit ▸ List.mem_cons_of_mem _ h) hmem
        exact ⟨List.mem_cons_of_mem _ hrest, hne⟩

/-! ## Blanks -/

/-- Neither end is a blank. -/
def Trimmed (text : Bytes) : Prop :=
  (∀ h : text ≠ [], blank (text.head h) = false) ∧ ∀ h : text ≠ [], blank (text.getLast h) = false

theorem trimBlanks_of_trimmed {text : Bytes} (h : Trimmed text) : trimBlanks text = text := by
  cases text with
  | nil => rfl
  | cons first rest =>
    have hfirst : blank first = false := h.1 (List.cons_ne_nil _ _)
    have hlast := h.2 (List.cons_ne_nil _ _)
    have hdrop : (first :: rest).dropWhile blank = first :: rest :=
      List.dropWhile_cons_of_neg (by rw [hfirst]; exact Bool.false_ne_true)
    rw [trimBlanks, hdrop, List.rdropWhile_eq_self_iff]
    intro hne
    rw [hlast]
    exact Bool.false_ne_true

theorem trimmed_trimBlanks (text : Bytes) : Trimmed (trimBlanks text) := by
  constructor
  · intro hne
    have hprefix : trimBlanks text <+: text.dropWhile blank := List.rdropWhile_prefix _ _
    obtain ⟨rest, hrest⟩ := hprefix
    have hdrop : text.dropWhile blank ≠ [] := by
      rw [← hrest]
      exact List.append_ne_nil_of_left_ne_nil hne _
    have hhead := List.head_dropWhile_not blank hdrop
    have hsame : (trimBlanks text).head hne = (text.dropWhile blank).head hdrop := by
      simp only [← hrest, List.head_append_of_ne_nil hne]
    rw [hsame]
    exact hhead
  · intro hne
    have hlast := List.rdropWhile_last_not blank (text.dropWhile blank) hne
    exact Bool.eq_false_iff.mpr hlast

theorem mem_of_trimBlanks {text : Bytes} {octet : UInt8} (h : octet ∈ trimBlanks text) :
    octet ∈ text := by
  have hfront : trimBlanks text <+: text.dropWhile blank := List.rdropWhile_prefix _ _
  exact (List.dropWhile_sublist blank).mem (hfront.mem h)

/-! ## Usable segments -/

/-- What a path consists of. -/
structure Usable (segment : Bytes) : Prop where
  ne_nil : segment ≠ []
  trimmed : Trimmed segment
  ne_dot : segment ≠ [0x2E]
  ne_dots : segment ≠ [0x2E, 0x2E]
  colon : 0x3A ∉ segment
  slash : 0x2F ∉ segment
  backslash : 0x5C ∉ segment
  control : ∀ octet ∈ segment, 0x20 ≤ octet

/-- Neither kind of slash. -/
def NoSlash (segment : Bytes) : Prop := 0x2F ∉ segment ∧ 0x5C ∉ segment

/-- **A segment is left out, or it is usable** without its blanks. -/
theorem normalizeSegment_ok {segment : Bytes} {found : Option Bytes} (hslash : NoSlash segment)
    (h : normalizeSegment segment = .ok found) :
    found = (if trimBlanks segment = [] then none else some (trimBlanks segment)) ∧
      ∀ used, found = some used → Usable used := by
  rw [normalizeSegment] at h
  split at h
  · rename_i hnil
    cases h
    rw [if_pos hnil]
    refine ⟨rfl, fun used hused => ?_⟩
    cases hused
  · rename_i hnil
    split at h
    · cases h
    rename_i hdots
    split at h
    · cases h
    rename_i hcolon
    split at h
    · cases h
    rename_i hcontrol
    cases h
    obtain ⟨hdot, hdotdot⟩ := not_or.mp hdots
    rw [if_neg hnil]
    refine ⟨rfl, fun used hused => ?_⟩
    cases hused
    refine ⟨hnil, trimmed_trimBlanks segment, hdot, hdotdot, hcolon,
      fun hmem => hslash.1 (mem_of_trimBlanks hmem), fun hmem => hslash.2 (mem_of_trimBlanks hmem),
      fun octet hmem => ?_⟩
    refine UInt8.not_lt.mp fun hlow => hcontrol (List.any_eq_true.mpr ⟨octet, hmem, ?_⟩)
    exact decide_eq_true hlow

theorem normalizeSegment_usable {segment : Bytes} (h : Usable segment) :
    normalizeSegment segment = .ok (some segment) := by
  have htrim := trimBlanks_of_trimmed h.trimmed
  have hdots : ¬(segment = [0x2E] ∨ segment = [0x2E, 0x2E]) := not_or.mpr ⟨h.ne_dot, h.ne_dots⟩
  have hcontrol : ¬segment.any (· < 0x20) = true := by
    intro hany
    obtain ⟨octet, hmem, hlow⟩ := List.any_eq_true.mp hany
    exact UInt8.not_lt.mpr (h.control octet hmem) (of_decide_eq_true hlow)
  rw [normalizeSegment, htrim]
  split
  · exact absurd rfl h.ne_nil
  · rw [if_neg hdots, if_neg h.colon, if_neg hcontrol]

/-- The segments that are left of some. -/
def usableSegments (segments : List Bytes) : List Bytes :=
  (segments.map trimBlanks).filter (· ≠ [])

theorem normalizeSegments_ok {segments : List Bytes} {found : List (Option Bytes)}
    (hslash : ∀ segment ∈ segments, NoSlash segment)
    (h : segments.mapM normalizeSegment = .ok found) :
    found.filterMap id = usableSegments segments ∧ ∀ segment ∈ usableSegments segments, Usable segment := by
  induction segments generalizing found with
  | nil =>
    cases h
    exact ⟨rfl, fun segment hmem => absurd hmem List.not_mem_nil⟩
  | cons segment segments ih =>
    obtain ⟨hsegment, hslash⟩ := List.forall_mem_cons.mp hslash
    obtain ⟨first, rest, hfirst, hrest, rfl⟩ := mapM_cons_ok h
    obtain ⟨hsame, husable⟩ := ih hslash hrest
    obtain ⟨hfound, hused⟩ := normalizeSegment_ok hsegment hfirst
    unfold usableSegments at hsame husable ⊢
    rw [List.map_cons, List.filter_cons]
    by_cases hnil : trimBlanks segment = []
    · rw [if_pos hnil] at hfound
      subst hfound
      rw [List.filterMap_cons_none rfl, if_neg (by simp [hnil])]
      exact ⟨hsame, husable⟩
    · rw [if_neg hnil] at hfound
      subst hfound
      have hcons : (some (trimBlanks segment) :: rest).filterMap id =
          trimBlanks segment :: rest.filterMap id := rfl
      rw [hcons, if_pos (by simp [hnil]), hsame]
      exact ⟨rfl, List.forall_mem_cons.mpr ⟨hused _ rfl, husable⟩⟩

theorem normalizeSegments_usable {segments : List Bytes} (h : ∀ segment ∈ segments, Usable segment) :
    segments.mapM normalizeSegment = .ok (segments.map some) := by
  induction segments with
  | nil => rfl
  | cons segment segments ih =>
    obtain ⟨hsegment, hsegments⟩ := List.forall_mem_cons.mp h
    rw [List.mapM_cons, normalizeSegment_usable hsegment, ih hsegments]
    rfl

/-! ## Paths -/

/-- The path with slashes of one kind. -/
def slashed (path : Bytes) : Bytes := path.map fun octet => if octet = 0x5C then 0x2F else octet

/-- The usable segments of a path. -/
def segmentsOf (path : Bytes) : List Bytes := usableSegments (pathSegments (slashed (trimBlanks path)))

theorem noSlash_of_slashed {path segment : Bytes} (h : segment ∈ pathSegments (slashed path)) :
    NoSlash segment := by
  refine ⟨fun hmem => (mem_of_pathSegments h hmem).2 rfl, fun hmem => ?_⟩
  obtain ⟨hmem, -⟩ := mem_of_pathSegments h hmem
  obtain ⟨octet, -, heq⟩ := List.mem_map.mp hmem
  split at heq
  · cases heq
  · rename_i hne
    exact hne heq

theorem slashed_star {path : Bytes} : slashed path = [0x2A] ↔ path = [0x2A] := by
  constructor
  · intro h
    obtain ⟨octet, rfl⟩ := List.length_eq_one_iff.mp
      (show path.length = 1 by rw [← List.length_map, ← slashed, h, List.length_singleton])
    obtain ⟨hoctet, -⟩ := List.cons.inj h
    change (if octet = 0x5C then 0x2F else octet) = 0x2A at hoctet
    split at hoctet
    · exact absurd hoctet (by decide)
    · rw [hoctet]
  · rintro rfl
    rfl

theorem intercalate_eq_nil {segments : List Bytes} (h : ∀ segment ∈ segments, Usable segment)
    (hnil : List.intercalate [0x2F] segments = []) : segments = [] := by
  cases segments with
  | nil => rfl
  | cons segment segments =>
    have hne := (h segment List.mem_cons_self).ne_nil
    cases segments with
    | nil =>
      rw [List.intercalate_singleton] at hnil
      exact absurd hnil hne
    | cons next segments =>
      rw [List.intercalate_cons_cons] at hnil
      exact absurd (List.append_eq_nil_iff.mp (List.append_eq_nil_iff.mp hnil).1).1 hne

/-- **What a path is normalized to**: nothing, or its usable segments. -/
theorem normalizeRemotePath_ok {path normalized : Bytes} {allowRoot : Bool}
    (h : normalizeRemotePath path allowRoot = .ok normalized) :
    (normalized = [] ∧ allowRoot = true ∧ (segmentsOf path = [] ∨ trimBlanks path = [0x2A])) ∨
      normalized ≠ [] ∧ normalized = List.intercalate [0x2F] (segmentsOf path) ∧
        normalized.length ≤ maximumPathBytes ∧ ∀ segment ∈ segmentsOf path, Usable segment := by
  unfold normalizeRemotePath at h
  split at h
  · cases h
  split at h
  · rename_i hblank
    cases allowRoot with
    | false => cases h
    | true =>
      cases h
      refine .inl ⟨rfl, rfl, .inl ?_⟩
      rw [segmentsOf, hblank]
      rfl
  rename_i hblank
  have hslashed : (trimBlanks path).map (fun octet => if octet = 0x5C then 0x2F else octet) =
      slashed (trimBlanks path) := rfl
  dsimp only at h
  rw [hslashed] at h
  split at h
  · rename_i hroot
    obtain ⟨hallow, hroot⟩ := hroot
    cases h
    refine .inl ⟨rfl, hallow, ?_⟩
    rcases hroot with hroot | hroot
    · refine .inl ?_
      rw [segmentsOf, hroot]
      rfl
    · exact .inr (slashed_star.mp hroot)
  obtain ⟨found, hfound, h⟩ := except_bind_ok h
  obtain ⟨hsame, husable⟩ := normalizeSegments_ok (fun _ hmem => noSlash_of_slashed hmem) hfound
  have hsegments : found.filterMap id = segmentsOf path := hsame
  rw [hsegments] at h
  split at h
  · rename_i hnil
    cases allowRoot with
    | false => cases h
    | true =>
      cases h
      exact .inl ⟨rfl, rfl, .inl (intercalate_eq_nil husable hnil)⟩
  rename_i hne
  split at h
  · cases h
  · rename_i hlength
    cases h
    exact .inr ⟨hne, rfl, Nat.le_of_not_lt hlength, husable⟩

theorem mem_intercalate {segments : List Bytes} {octet : UInt8} (h : octet ∈ List.intercalate [0x2F] segments) :
    octet = 0x2F ∨ ∃ segment ∈ segments, octet ∈ segment := by
  induction segments with
  | nil => exact absurd h List.not_mem_nil
  | cons segment segments ih =>
    cases segments with
    | nil =>
      rw [List.intercalate_singleton] at h
      exact .inr ⟨segment, List.mem_cons_self, h⟩
    | cons next segments =>
      rw [List.intercalate_cons_cons, List.append_assoc] at h
      rcases List.mem_append.mp h with h | h
      · exact .inr ⟨segment, List.mem_cons_self, h⟩
      · rcases List.mem_append.mp h with h | h
        · exact .inl (List.mem_singleton.mp h)
        · rcases ih h with hslash | ⟨found, hfound, hmem⟩
          · exact .inl hslash
          · exact .inr ⟨found, List.mem_cons_of_mem _ hfound, hmem⟩

/-! ## Normalized paths -/

section Normalized

variable {segments : List Bytes} (hne : segments ≠ [])
  (husable : ∀ segment ∈ segments, Usable segment)

include hne husable

theorem trimmed_intercalate : Trimmed (List.intercalate [0x2F] segments) := by
  induction segments with
  | nil => exact absurd rfl hne
  | cons segment segments ih =>
    obtain ⟨hsegment, hsegments⟩ := List.forall_mem_cons.mp husable
    cases segments with
    | nil =>
      rw [List.intercalate_singleton]
      exact hsegment.trimmed
    | cons next segments =>
      have htail := ih (List.cons_ne_nil _ _) hsegments
      have hrest : List.intercalate [0x2F] (next :: segments) ≠ [] := fun hnil =>
        absurd (intercalate_eq_nil hsegments hnil) (List.cons_ne_nil _ _)
      rw [List.intercalate_cons_cons]
      constructor
      · intro _
        rw [List.head_append_of_ne_nil (List.append_ne_nil_of_left_ne_nil hsegment.ne_nil _),
          List.head_append_of_ne_nil hsegment.ne_nil]
        exact hsegment.trimmed.1 hsegment.ne_nil
      · intro _
        rw [List.getLast_append_of_ne_nil _ hrest]
        exact htail.2 hrest

/-- **Usable segments are left as they are**, the wildcard of a root apart. -/
theorem normalizeRemotePath_segments {allowRoot : Bool}
    (hlength : (List.intercalate [0x2F] segments).length ≤ maximumPathBytes)
    (hwildcard : ¬(allowRoot = true ∧ List.intercalate [0x2F] segments = [0x2A])) :
    normalizeRemotePath (List.intercalate [0x2F] segments) allowRoot =
      .ok (List.intercalate [0x2F] segments) := by
  have hnil : List.intercalate [0x2F] segments ≠ [] := fun hnil =>
    hne (intercalate_eq_nil husable hnil)
  have hsplit := pathSegments_intercalate hne fun segment hmem => (husable segment hmem).slash
  have hzero : 0 ∉ List.intercalate [0x2F] segments := by
    intro hmem
    rcases mem_intercalate hmem with hslash | ⟨segment, hsegment, hmem⟩
    · cases hslash
    · exact absurd ((husable segment hsegment).control 0 hmem) (by decide)
  have hbackslash : ∀ octet ∈ List.intercalate [0x2F] segments, octet ≠ 0x5C := by
    rintro octet hmem rfl
    rcases mem_intercalate hmem with hslash | ⟨segment, hsegment, hmem⟩
    · cases hslash
    · exact (husable segment hsegment).backslash hmem
  have hsame : (List.intercalate [0x2F] segments).map
      (fun octet => if octet = 0x5C then 0x2F else octet) = List.intercalate [0x2F] segments := by
    refine (List.map_congr_left fun octet hmem => ?_).trans (List.map_id _)
    rw [if_neg (hbackslash octet hmem), id]
  have hslash : List.intercalate [0x2F] segments ≠ [0x2F] := by
    intro heq
    rw [heq] at hsplit
    have hfirst : [] ∈ segments := by
      rw [← hsplit]
      exact List.mem_cons_self
    exact (husable [] hfirst).ne_nil rfl
  have hroot : ¬(allowRoot = true ∧ (List.intercalate [0x2F] segments = [0x2F] ∨
      List.intercalate [0x2F] segments = [0x2A])) := by
    rintro ⟨hallow, heq | heq⟩
    · exact hslash heq
    · exact hwildcard ⟨hallow, heq⟩
  have hfilter : (segments.map some).filterMap id = segments := by
    rw [List.filterMap_map]
    exact List.filterMap_some
  unfold normalizeRemotePath
  rw [trimBlanks_of_trimmed (trimmed_intercalate hne husable), if_neg hzero, if_neg hnil]
  dsimp only
  rw [hsame, if_neg hroot, hsplit, normalizeSegments_usable husable]
  dsimp only [bind, Except.bind]
  rw [hfilter, if_neg hnil, if_neg (Nat.not_lt.mpr hlength)]

end Normalized

/-! ## File names -/

/-- The strings in the file name of a FileOpen request. -/
def fileNameStrings (pdu : Bytes) : Except String (List BerTlv) := do
  let request ← MmsPduCodec.decodeConfirmedRequest pdu
  let fields ← readChildren request.serviceValue
  match fields with
  | [] => .error "MMS FileOpen request has no file name."
  | fileName :: _ => readChildren fileName.value

theorem graphicStrings_read {segments strings : List Bytes}
    (h : segments.mapM graphicString = .ok strings) :
    List.Forall₂ ReadsAs strings (segments.map (taggedTlv 0x19)) := by
  induction segments generalizing strings with
  | nil =>
    cases h
    exact .nil
  | cons segment segments ih =>
    obtain ⟨first, rest, hfirst, hrest, rfl⟩ := mapM_cons_ok h
    exact .cons (readsAs_of_encodeTagged hfirst (by decide)) (ih hrest)

theorem length_graphicStrings_le {segments strings : List Bytes}
    (h : segments.mapM graphicString = .ok strings) (hne : ∀ segment ∈ segments, segment ≠ []) :
    strings.flatten.length ≤ 7 * (List.intercalate [0x2F] segments).length := by
  induction segments generalizing strings with
  | nil =>
    cases h
    exact Nat.zero_le _
  | cons segment segments ih =>
    obtain ⟨hsegment, hsegments⟩ := List.forall_mem_cons.mp hne
    obtain ⟨first, rest, hfirst, hrest, rfl⟩ := mapM_cons_ok h
    have htail := ih hrest hsegments
    obtain ⟨-, rfl⟩ := BerWriter.encodeTagged_ok hfirst
    have hfield := length_lengthField_le segment.length
    have hpos := List.length_pos_iff.mpr hsegment
    have hcons : segment.length + (List.intercalate [0x2F] segments).length ≤
        (List.intercalate [0x2F] (segment :: segments)).length := by
      cases segments with
      | nil =>
        rw [List.intercalate_singleton]
        exact Nat.le_refl _
      | cons next segments =>
        rw [List.intercalate_cons_cons, List.length_append, List.length_append]
        omega
    rw [List.flatten_cons, List.length_append, List.length_append, List.length_cons]
    omega

/-- **A FileOpen request carries the strings of its name.** -/
theorem fileNameStrings_of_content {request : MmsFileOpenRequest} {pdu : Bytes} {content : Bytes}
    {fileName position body : Bytes} {strings : List BerTlv}
    (hinvoke : validateInvokeId request.invokeId = .ok ())
    (hname : BerWriter.encodeTlv .contextSpecific true 0 content = .ok fileName)
    (hposition : BerWriter.encodeTlv .contextSpecific false 1
      (positiveIntegerContent request.initialPosition.toUInt64) = .ok position)
    (hbody : concat [fileName, position] = .ok body)
    (h : MmsPduCodec.encodeConfirmedRequest
      { invokeId := request.invokeId, serviceTag := fileOpenServiceTag, serviceValue := body } = .ok pdu)
    (hlen : content.length ≤ 8000) (hstrings : readChildren content = .ok strings) :
    fileNameStrings pdu = .ok strings := by
  have hfields : body = fileName ++ position := by
    rw [concat, concatWithin] at hbody
    split at hbody
    · cases hbody
    · cases hbody
      rw [List.flatten_cons, List.flatten_singleton]
  have hread := readChildren_two (readsAs_of_encodeTlv 0 hname (by decide))
    (readsAs_of_encodeTlv 1 hposition (by decide))
  have hvalid : request.invokeId ≤ MmsPduCodec.maximumInvokeId := by
    rw [validateInvokeId] at hinvoke
    split at hinvoke
    · cases hinvoke
    · omega
  obtain ⟨_, hname', -, hnameLen⟩ := encodes_encodeTlv .contextSpecific true 0 hlen (by decide)
    (by decide)
  cases hname.symm.trans hname'
  obtain ⟨_, hposition', -, hpositionLen⟩ := encodes_encodeTlv .contextSpecific false 1
    (length_positiveIntegerContent_le request.initialPosition.toUInt64) (by decide) (by decide)
  cases hposition.symm.trans hposition'
  have hbodyLen : body.length ≤ 8031 := by
    rw [hfields, List.length_append]
    omega
  have hmax : 8031 + 32 ≤ MmsPduCodec.maximumPduBytes := by decide
  let confirmed : MmsConfirmed :=
    { invokeId := request.invokeId, serviceTag := fileOpenServiceTag, serviceValue := body }
  have htag : confirmed.serviceTag ≤ 1000000 := show fileOpenServiceTag ≤ 1000000 by decide
  obtain ⟨_, hpdu, -, hpduLen⟩ := @encodes_encodeConfirmedRequest confirmed _ hvalid htag hbodyLen hmax
  cases h.symm.trans hpdu
  have hdecode : MmsPduCodec.decodeConfirmedRequest pdu = _ :=
    MmsPduCodec.decodeConfirmed_encode h (by decide) (by decide) (by omega) _
  rw [fileNameStrings, hdecode]
  dsimp only [bind, Except.bind]
  rw [hfields, hread]
  exact hstrings

/-- With backslashes for the slashes. -/
theorem backslashed_intercalate {segments : List Bytes} (h : ∀ segment ∈ segments, 0x2F ∉ segment) :
    (List.intercalate [0x2F] segments).map (fun octet => if octet = 0x2F then 0x5C else octet) =
      List.intercalate [0x5C] segments := by
  have hkept : ∀ segment ∈ segments,
      segment.map (fun octet => if octet = 0x2F then 0x5C else octet) = segment := by
    intro segment hsegment
    refine (List.map_congr_left fun octet hmem => ?_).trans (List.map_id _)
    have hne : octet ≠ 0x2F := by
      rintro rfl
      exact h segment hsegment hmem
    rw [if_neg hne, id]
  clear h
  induction segments with
  | nil => rfl
  | cons segment segments ih =>
    obtain ⟨hsegment, hsegments⟩ := List.forall_mem_cons.mp hkept
    cases segments with
    | nil =>
      rw [List.intercalate_singleton, List.intercalate_singleton, hsegment]
    | cons next segments =>
      rw [List.intercalate_cons_cons, List.intercalate_cons_cons, List.map_append, List.map_append,
        hsegment, ih hsegments]
      rfl

/-- The strings of a file name: the segments, or one path in backslashes. -/
def fileNameOf (rootedBackslash : Bool) (segments : List Bytes) : List Bytes :=
  if rootedBackslash then [0x5C :: List.intercalate [0x5C] segments] else segments

theorem fileName_segments {request : MmsFileOpenRequest} {pdu : Bytes} {segments : List Bytes}
    (hne : segments ≠ []) (husable : ∀ segment ∈ segments, Usable segment)
    (hlength : (List.intercalate [0x2F] segments).length ≤ maximumPathBytes)
    (hpath : normalizeRemotePath request.remotePath = .ok (List.intercalate [0x2F] segments))
    (h : encodeFileOpenRequestPdu request = .ok pdu) :
    fileNameStrings pdu = .ok ((fileNameOf request.rootedBackslash segments).map (taggedTlv 0x19)) := by
  have hmax : maximumPathBytes = 1024 := rfl
  have hslash : ∀ segment ∈ segments, 0x2F ∉ segment := fun segment hmem => (husable segment hmem).slash
  unfold encodeFileOpenRequestPdu at h
  obtain ⟨⟨⟩, hinvoke, h⟩ := except_bind_ok h
  rw [hpath] at h
  obtain ⟨_, hnormalized, h⟩ := except_bind_ok h
  cases hnormalized
  rw [fileNameOf]
  dsimp only at h
  cases hrooted : request.rootedBackslash with
  | false =>
    rw [hrooted, if_neg Bool.false_ne_true] at h
    obtain ⟨content, hcontent, hrest⟩ := except_bind_ok h
    obtain ⟨fileName, hname, hrest⟩ := except_bind_ok hrest
    obtain ⟨position, hposition, hrest⟩ := except_bind_ok hrest
    obtain ⟨body, hbody, hpdu⟩ := except_bind_ok hrest
    rw [encodeSegmentedFileName, pathSegments_intercalate hne hslash] at hcontent
    obtain ⟨strings, hstrings, hcontent⟩ := except_bind_ok hcontent
    cases hcontent
    have hlen := length_graphicStrings_le hstrings fun segment hmem => (husable segment hmem).ne_nil
    refine fileNameStrings_of_content hinvoke hname hposition hbody hpdu (by omega) ?_
    exact readChildren_flatten (graphicStrings_read hstrings)
  | true =>
    rw [hrooted, if_pos rfl] at h
    obtain ⟨rooted, hpath, hrest⟩ := except_bind_ok h
    obtain ⟨content, hcontent, hrest⟩ := except_bind_ok hrest
    obtain ⟨fileName, hname, hrest⟩ := except_bind_ok hrest
    obtain ⟨position, hposition, hrest⟩ := except_bind_ok hrest
    obtain ⟨body, hbody, hpdu⟩ := except_bind_ok hrest
    rw [rootedBackslashPath] at hpath
    rw [normalizeRemotePath_segments hne husable hlength fun hroot => Bool.false_ne_true hroot.1] at hpath
    obtain ⟨_, hnormalized, hpath⟩ := except_bind_ok hpath
    cases hnormalized
    cases hpath
    rw [backslashed_intercalate hslash] at hcontent
    have hsame : (0x5C :: List.intercalate [0x5C] segments).length ≤ 1025 := by
      rw [← backslashed_intercalate hslash, List.length_cons, List.length_map]
      omega
    obtain ⟨_, hencoded, -, hlen⟩ := encodes_encodeTagged 0x19 hsame (by decide)
    cases hcontent.symm.trans hencoded
    refine fileNameStrings_of_content hinvoke hname hposition hbody hpdu (by omega) ?_
    exact readChildren_one (readsAs_of_encodeTagged hcontent (by decide))

/-! ## Remote paths -/

/-- **A normalized path is canonical**: it is left as it is unless a root is allowed and it is the
wildcard, it is empty for a path without segments or the wildcard of a root only, and otherwise it
is its usable segments, of which a FileOpen request makes the strings of the file name. -/
theorem remote_paths {path normalized : Bytes} {allowRoot : Bool}
    (h : normalizeRemotePath path allowRoot = .ok normalized) :
    (¬(allowRoot = true ∧ normalized = [0x2A]) →
      normalizeRemotePath normalized allowRoot = .ok normalized) ∧
    (normalized = [] → segmentsOf path = [] ∨ allowRoot = true ∧ trimBlanks path = [0x2A]) ∧
    (normalized ≠ [] →
      normalized = List.intercalate [0x2F] (segmentsOf path) ∧
      (∀ segment ∈ segmentsOf path, Usable segment) ∧
      ∀ (request : MmsFileOpenRequest) (pdu : Bytes), request.remotePath = path →
        encodeFileOpenRequestPdu request = .ok pdu →
        fileNameStrings pdu =
          .ok ((fileNameOf request.rootedBackslash (segmentsOf path)).map (taggedTlv 0x19))) := by
  rcases normalizeRemotePath_ok h with ⟨rfl, rfl, hroot⟩ | ⟨hnormalized, rfl, hlength, husable⟩
  · refine ⟨fun _ => rfl, fun _ => ?_, fun hne => absurd rfl hne⟩
    rcases hroot with hnone | hwildcard
    · exact .inl hnone
    · exact .inr ⟨rfl, hwildcard⟩
  · have hne : segmentsOf path ≠ [] := by
      intro hnil
      rw [hnil] at hnormalized
      exact hnormalized rfl
    refine ⟨fun hwildcard => normalizeRemotePath_segments hne husable hlength hwildcard,
      fun hnil => absurd hnil hnormalized, fun _ => ⟨rfl, husable, ?_⟩⟩
    rintro request pdu rfl hpdu
    have hpath : normalizeRemotePath request.remotePath =
        .ok (List.intercalate [0x2F] (segmentsOf request.remotePath)) := by
      unfold encodeFileOpenRequestPdu at hpdu
      obtain ⟨⟨⟩, -, hpdu⟩ := except_bind_ok hpdu
      obtain ⟨found, hfound, -⟩ := except_bind_ok hpdu
      rcases normalizeRemotePath_ok hfound with ⟨-, hallow, -⟩ | ⟨-, rfl, -, -⟩
      · exact absurd hallow Bool.false_ne_true
      · exact hfound
    exact fileName_segments hne husable hlength hpath hpdu

/-- `/COMTRADE/ fault.dat ` has two segments. -/
theorem remote_paths_comtrade :
    segmentsOf [0x2F, 0x43, 0x2F, 0x20, 0x66, 0x2E, 0x64, 0x20] = [[0x43], [0x66, 0x2E, 0x64]] ∧
      ∀ request pdu, request.remotePath = [0x2F, 0x43, 0x2F, 0x20, 0x66, 0x2E, 0x64, 0x20] →
        encodeFileOpenRequestPdu request = .ok pdu →
        fileNameStrings pdu = .ok ((fileNameOf request.rootedBackslash
          (segmentsOf [0x2F, 0x43, 0x2F, 0x20, 0x66, 0x2E, 0x64, 0x20])).map (taggedTlv 0x19)) :=
  ⟨by decide, ((@remote_paths _ [0x43, 0x2F, 0x66, 0x2E, 0x64] false (by decide)).2.2
    (by decide)).2.2⟩

/-- `*/` is normalized to `*`, and that to nothing; a rooted name is one string; DEL is kept. -/
theorem remote_paths_wildcard :
    normalizeRemotePath [0x2A, 0x2F] true = .ok [0x2A] ∧ normalizeRemotePath [0x2A] true = .ok [] ∧
      normalizeRemotePath [0x61, 0x7F] = .ok [0x61, 0x7F] ∧
      (do
        let pdu ← encodeFileOpenRequestPdu
          { invokeId := 1, remotePath := [0x61, 0x2F, 0x62], rootedBackslash := true }
        let strings ← fileNameStrings pdu
        pure (strings.map BerTlv.value)) = .ok [[0x5C, 0x61, 0x5C, 0x62]] := by
  decide

end ArStack.Mms.MmsFileServiceCodec
