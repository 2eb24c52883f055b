import ArStack.Control.CommandTermination

/-!
# Whose command a termination ends

A report ends the command on an object when one of its names is taken for the object's. The
decoder compares the names from the logical node on, so that it also takes names of other objects;
`Misread` says which, and `termination_belongs_iff` that nothing else goes wrong.

* `Denotes` — a text names the object or a part of it
* `OperateLookalike`, `ReportedLookalike` — a text is taken for a name of the object
* `termination_belongs_iff` — when only the object's own termination is reported
-/

namespace ArStack.Control

open ArStack.Lib (ascii map_eq_append prefix_map_iff suffix_map_iff infix_map_iff)
open ArStack.Mms (MmsInformationReport)

namespace CommandTerminationDecoder

/-! ## Names of an object -/

/-- A character of a reference, in lower case and with `.` for `$`. -/
def refByte (byte : UInt8) : UInt8 := asciiLower (if byte = 0x24 then 0x2E else byte)

/-- The same text up to case and the choice of `.` or `$`. -/
def SameText (left right : Bytes) : Prop := left.map refByte = right.map refByte

def isDelimiter (byte : UInt8) : Bool := byte == 0x2E || byte == 0x24 || byte == 0x2F

/-- The text without the delimiters around it. -/
def trimmed (text : Bytes) : Bytes := (text.dropWhile isDelimiter).rdropWhile isDelimiter

/-- `LN.path`. -/
def dataName (object : ControlObjectReference) : Bytes :=
  object.logicalNode ++ ascii "." ++ object.dataObjectPath

/-- `LN.CO.path`. -/
def controlName (object : ControlObjectReference) : Bytes :=
  object.logicalNode ++ ascii ".CO." ++ object.dataObjectPath

/-- The control services of an object. -/
def serviceLeaves : List Bytes := [ascii "Oper", ascii "SBO", ascii "SBOw", ascii "Cancel"]

/-- A name may end here. -/
def AtBoundary (rest : Bytes) : Prop :=
  rest = [] ∨ ∃ delimiter more, rest = delimiter :: more ∧ (delimiter = 0x2E ∨ delimiter = 0x24)

/-- An item of the object's logical node is the object, its control part, a control service of it
or something in one of these. -/
def OwnItem (object : ControlObjectReference) (item : Bytes) : Prop :=
  SameText item (controlName object) ∨
    ∃ head rest, item = head ++ rest ∧ AtBoundary rest ∧
      (SameText head (dataName object) ∨
        ∃ leaf ∈ serviceLeaves, SameText head (controlName object ++ ascii "." ++ leaf))

/-- No domain, or the object's. -/
def OwnDomain (object : ControlObjectReference) (before : Bytes) : Prop :=
  before = [] ∨
    ∃ domain delimiter, before = domain ++ [delimiter] ∧ isDelimiter delimiter = true ∧
      SameText domain object.domain

/-- The text names the object or a part of it. -/
def Denotes (object : ControlObjectReference) (text : Bytes) : Prop :=
  ∃ name before item, (name = text ∨ name = trimmed text) ∧ name = before ++ item ∧
    OwnDomain object before ∧ OwnItem object item

/-! ## Names that are taken for the object's -/

/-- A character where `.` and `/` are read as `$`. -/
def operateByte (byte : UInt8) : UInt8 :=
  asciiLower (if isDelimiter byte then 0x24 else byte)

/-- `LN$CO$path$Oper`. -/
def operateName (object : ControlObjectReference) : Bytes :=
  object.logicalNode ++ ascii "$CO$" ++ objectPathDollars object ++ ascii "$Oper"

/-- The text ends as the `Oper` of the object does, but it goes on in front of the logical node, or
has a `/` in it. -/
def OperateLookalike (object : ControlObjectReference) (text : Bytes) : Prop :=
  ∃ before item, trimmed text = before ++ item ∧
    item.map operateByte = (operateName object).map asciiLower ∧
    ¬ (OwnDomain object before ∧ OwnItem object item)

/-- The three forms of an item that the decoder looks for behind a `/`. -/
def TakenItem (object : ControlObjectReference) (item : Bytes) : Prop :=
  item.map refByte = (dataName object).map asciiLower ∨
    item.map refByte = (controlName object).map asciiLower ∨
    (controlName object ++ ascii ".").map asciiLower <+: item.map refByte

/-- Behind its last `/`, or one in front of it, the text has the name of the object, of its control
part or of something in that; but the domain is another one or that something no control service. -/
def ReportedLookalike (object : ControlObjectReference) (text : Bytes) : Prop :=
  ∃ domain item, text = domain ++ ascii "/" ++ item ∧ TakenItem object item ∧
    ¬ (SameText domain object.domain ∧ OwnItem object item)

/-! ## Folds of characters -/

theorem refByte_refByte (byte : UInt8) : refByte (refByte byte) = refByte byte := by
  unfold refByte asciiLower
  grind

theorem refByte_asciiLower (byte : UInt8) : refByte (asciiLower byte) = refByte byte := by
  unfold refByte asciiLower
  grind

theorem refByte_eq_slash {byte : UInt8} : refByte byte = 0x2F ↔ byte = 0x2F := by
  unfold refByte asciiLower
  grind

theorem refByte_eq_dot {byte : UInt8} : refByte byte = 0x2E ↔ byte = 0x2E ∨ byte = 0x24 := by
  unfold refByte asciiLower
  grind

/-- A pattern is only lowered, so a text that has it has no `$` left to tell apart. -/
theorem sameText_of_lower {left right : Bytes} (h : left.map refByte = right.map asciiLower) :
    SameText left right := by
  have hleft : (left.map refByte).map refByte = left.map refByte := by
    rw [List.map_map]
    exact List.map_congr_left fun byte _ => refByte_refByte byte
  have hright : (right.map asciiLower).map refByte = right.map refByte := by
    rw [List.map_map]
    exact List.map_congr_left fun byte _ => refByte_asciiLower byte
  rw [SameText, ← hleft, h, hright]

theorem lower_replaceByte (text : Bytes) :
    (replaceByte 0x24 0x2E text).map asciiLower = text.map refByte := by
  rw [replaceByte, List.map_map]
  rfl

theorem trimDelimiter_map (f : UInt8 → UInt8) (delimiter : UInt8) (text : Bytes) :
    trimDelimiter (text.map f) delimiter =
      ((text.dropWhile fun byte => f byte == delimiter).rdropWhile
        fun byte => f byte == delimiter).map f := by
  rw [trimDelimiter, List.dropWhile_map, List.rdropWhile, ← List.map_reverse, List.dropWhile_map,
    ← List.map_reverse]
  rfl

theorem lower_trimDelimiter (text : Bytes) :
    (trimDelimiter (replaceByte 0x2F 0x24 (replaceByte 0x2E 0x24 text)) 0x24).map asciiLower =
      (trimmed text).map operateByte := by
  have hreplaced : replaceByte 0x2F 0x24 (replaceByte 0x2E 0x24 text) =
      text.map fun byte => if isDelimiter byte then 0x24 else byte := by
    rw [replaceByte, replaceByte, List.map_map]
    refine List.map_congr_left fun byte _ => ?_
    simp only [Function.comp, isDelimiter]
    grind
  have hdelimiter : (fun byte : UInt8 => (if isDelimiter byte then 0x24 else byte) == (0x24 : UInt8)) =
      isDelimiter := by
    funext byte
    unfold isDelimiter
    grind
  rw [hreplaced, trimDelimiter_map, hdelimiter, List.map_map]
  rfl

/-! ## What the decoder takes for a name -/

/-- The text reads as the `Oper` of the object, from the logical node on. -/
theorem matchesOperateReference_iff {object : ControlObjectReference} (hvalid : object.valid)
    {text : Bytes} :
    matchesOperateReference object text = true ↔
      ∃ before item, trimmed text = before ++ item ∧
        item.map operateByte = (operateName object).map asciiLower := by
  have hnormalized := lower_trimDelimiter text
  constructor
  · intro h
    rw [matchesOperateReference] at h
    split at h
    · cases h
    · rw [← suffix_map_iff, ← hnormalized]
      simp only [Bool.or_eq_true, asciiEqual, asciiEndsWith, decide_eq_true_eq] at h
      rcases h with h | h
      · rw [h]
        exact ⟨(object.domain ++ ascii "$").map asciiLower, by simp [operateName]⟩
      · simpa [operateName] using h
  · rintro ⟨before, item, hsplit, hitem⟩
    have hne : text.isEmpty = false := by
      cases text with
      | nil =>
        obtain ⟨-, rfl⟩ : before = [] ∧ item = [] := by simpa [trimmed] using hsplit
        simp [operateName, ascii] at hitem
      | cons byte rest => rfl
    rw [matchesOperateReference, if_neg (by simp [hvalid, hne])]
    have h : (operateName object).map asciiLower <:+ (trimmed text).map operateByte :=
      suffix_map_iff.mpr ⟨before, item, hsplit, hitem⟩
    rw [← hnormalized] at h
    simp only [Bool.or_eq_true, asciiEndsWith, decide_eq_true_eq]
    exact .inr (by simpa [operateName] using h)

/-- The text reads as a name of the object behind a `/`, or starts as its whole reference. -/
theorem matchesReportedReference_iff {object : ControlObjectReference} (hvalid : object.valid)
    {text : Bytes} :
    matchesReportedReference object text = true ↔
      (objectReference object ++ ascii ".").map asciiLower <+: text.map refByte ∨
      (ascii "/" ++ dataName object).map asciiLower <:+ text.map refByte ∨
      (ascii "/" ++ controlName object).map asciiLower <:+ text.map refByte ∨
      (ascii "/" ++ controlName object ++ ascii ".").map asciiLower <:+: text.map refByte := by
  have hnormalized := lower_replaceByte text
  have hdata : objectReference object = object.domain ++ (ascii "/" ++ dataName object) := by
    simp [objectReference, dataName]
  constructor
  · intro h
    rw [matchesReportedReference] at h
    split at h
    · cases h
    · simp only [Bool.or_eq_true, asciiEqual, asciiStartsWith, asciiEndsWith, asciiContains,
        decide_eq_true_eq, hnormalized] at h
      rcases h with (((((h | h) | h) | h) | h) | h) | h
      · refine .inr (.inl ?_)
        rw [h, hdata]
        exact ⟨object.domain.map asciiLower, by simp⟩
      · exact .inl h
      · exact .inr (.inl (by simpa [dataName] using h))
      · refine .inr (.inr (.inl ?_))
        rw [h]
        exact ⟨object.domain.map asciiLower, by simp [controlName]⟩
      · refine .inr (.inr (.inr ?_))
        rw [h]
        exact ⟨object.domain.map asciiLower, [], by simp [controlName]⟩
      · exact .inr (.inr (.inl (by simpa [controlName] using h)))
      · exact .inr (.inr (.inr (by simpa [controlName] using h)))
  · intro h
    have hne : text.isEmpty = false := by
      cases text with
      | nil =>
        rcases h with h | h | h | h
        · simp [objectReference, ascii] at h
        · simp [dataName, ascii] at h
        · simp [controlName, ascii] at h
        · simp [controlName, ascii] at h
      | cons byte rest => rfl
    rw [matchesReportedReference, if_neg (by simp [hvalid, hne])]
    simp only [Bool.or_eq_true, asciiEqual, asciiStartsWith, asciiEndsWith, asciiContains,
      decide_eq_true_eq, hnormalized]
    rcases h with h | h | h | h
    · exact .inl (.inl (.inl (.inl (.inl (.inr h)))))
    · exact .inl (.inl (.inl (.inl (.inr (by simpa [dataName] using h)))))
    · exact .inl (.inr (by simpa [controlName] using h))
    · exact .inr (by simpa [controlName] using h)

/-- A pattern that starts with `/` splits the text there. -/
theorem split_slash {rest : Bytes} {part : Bytes}
    (h : part.map refByte = (ascii "/" ++ rest).map asciiLower) :
    ∃ item, part = ascii "/" ++ item ∧ item.map refByte = rest.map asciiLower := by
  rw [List.map_append] at h
  obtain ⟨slash, item, rfl, hslash, hitem⟩ := map_eq_append h
  cases slash with
  | nil => simp [ascii] at hslash
  | cons byte more =>
    obtain ⟨hbyte, hmore⟩ : refByte byte = asciiLower 0x2F ∧ more = [] := by
      simpa [ascii] using hslash
    subst hmore
    obtain rfl : byte = 0x2F := refByte_eq_slash.mp hbyte
    exact ⟨item, rfl, hitem⟩

theorem ownItem_of_prefix {object : ControlObjectReference} {head rest : Bytes}
    (h : head.map refByte = (dataName object ++ ascii ".").map asciiLower) :
    OwnItem object (head ++ rest) := by
  rw [List.map_append] at h
  obtain ⟨name, dot, rfl, hname, hdot⟩ := map_eq_append h
  cases dot with
  | nil => simp [ascii] at hdot
  | cons byte more =>
    obtain ⟨hbyte, hmore⟩ : refByte byte = asciiLower 0x2E ∧ more = [] := by
      simpa [ascii] using hdot
    subst hmore
    exact .inr ⟨name, byte :: rest, by simp, .inr ⟨byte, rest, rfl, refByte_eq_dot.mp hbyte⟩,
      .inl (sameText_of_lower hname)⟩

theorem denotes_or_lookalike_of_split {object : ControlObjectReference} {domain item : Bytes}
    (h : TakenItem object item) :
    Denotes object (domain ++ ascii "/" ++ item) ∨
      ReportedLookalike object (domain ++ ascii "/" ++ item) := by
  by_cases hown : SameText domain object.domain ∧ OwnItem object item
  · exact .inl ⟨_, domain ++ ascii "/", item, .inl rfl, rfl, .inr ⟨domain, 0x2F, rfl, rfl, hown.1⟩,
      hown.2⟩
  · exact .inr ⟨domain, item, rfl, h, hown⟩

/-- **A reported name is one of the object, or a lookalike.** -/
theorem denotes_or_lookalike_of_reported {object : ControlObjectReference} (hvalid : object.valid)
    {text : Bytes} (h : matchesReportedReference object text = true) :
    Denotes object text ∨ ReportedLookalike object text := by
  rcases (matchesReportedReference_iff hvalid).mp h with h | h | h | h
  · left
    obtain ⟨whole, rest, rfl, hwhole⟩ := prefix_map_iff.mp h
    have hsplit : objectReference object ++ ascii "." =
        object.domain ++ (ascii "/" ++ (dataName object ++ ascii ".")) := by
      simp [objectReference, dataName]
    rw [hsplit, List.map_append] at hwhole
    obtain ⟨domain, part, rfl, hdomain, hpart⟩ := map_eq_append hwhole
    obtain ⟨head, rfl, hhead⟩ := split_slash hpart
    exact ⟨_, domain ++ ascii "/", head ++ rest, .inl rfl, by simp,
      .inr ⟨domain, 0x2F, rfl, rfl, sameText_of_lower hdomain⟩, ownItem_of_prefix hhead⟩
  · obtain ⟨domain, part, rfl, hpart⟩ := suffix_map_iff.mp h
    obtain ⟨item, rfl, hitem⟩ := split_slash hpart
    rw [← List.append_assoc]
    exact denotes_or_lookalike_of_split (.inl hitem)
  · obtain ⟨domain, part, rfl, hpart⟩ := suffix_map_iff.mp h
    obtain ⟨item, rfl, hitem⟩ := split_slash hpart
    rw [← List.append_assoc]
    exact denotes_or_lookalike_of_split (.inr (.inl hitem))
  · obtain ⟨domain, part, rest, rfl, hpart⟩ := infix_map_iff.mp h
    rw [List.append_assoc] at hpart
    obtain ⟨item, rfl, hitem⟩ := split_slash hpart
    have hsplit : domain ++ (ascii "/" ++ item) ++ rest = domain ++ ascii "/" ++ (item ++ rest) := by
      simp
    rw [hsplit]
    exact denotes_or_lookalike_of_split (.inr (.inr (prefix_map_iff.mpr ⟨item, rest, rfl, hitem⟩)))

theorem denotes_or_lookalike_of_operate {object : ControlObjectReference} (hvalid : object.valid)
    {text : Bytes} (h : matchesOperateReference object text = true) :
    Denotes object text ∨ OperateLookalike object text := by
  obtain ⟨before, item, hsplit, hitem⟩ := (matchesOperateReference_iff hvalid).mp h
  by_cases hown : OwnDomain object before ∧ OwnItem object item
  · exact .inl ⟨_, before, item, .inr rfl, hsplit, hown⟩
  · exact .inr ⟨before, item, hsplit, hitem, hown⟩

theorem OperateLookalike.matches {object : ControlObjectReference} (hvalid : object.valid)
    {text : Bytes} (h : OperateLookalike object text) :
    matchesOperateReference object text = true := by
  obtain ⟨before, item, hsplit, hitem, -⟩ := h
  exact (matchesOperateReference_iff hvalid).mpr ⟨before, item, hsplit, hitem⟩

theorem ReportedLookalike.matches {object : ControlObjectReference} (hvalid : object.valid)
    {text : Bytes} (h : ReportedLookalike object text) :
    matchesReportedReference object text = true := by
  obtain ⟨domain, item, rfl, hitem, -⟩ := h
  have hslash : (ascii "/" ++ item).map refByte = ascii "/" ++ item.map refByte := rfl
  rw [matchesReportedReference_iff hvalid]
  rcases hitem with hitem | hitem | ⟨rest, hitem⟩
  · refine .inr (.inl (suffix_map_iff.mpr ⟨domain, ascii "/" ++ item, by simp, ?_⟩))
    rw [hslash, hitem]
    rfl
  · refine .inr (.inr (.inl (suffix_map_iff.mpr ⟨domain, ascii "/" ++ item, by simp, ?_⟩)))
    rw [hslash, hitem]
    rfl
  · refine .inr (.inr (.inr ⟨domain.map refByte, rest, ?_⟩))
    have htext : (domain ++ ascii "/" ++ item).map refByte =
        domain.map refByte ++ (ascii "/" ++ item.map refByte) := by
      rw [List.append_assoc, List.map_append, hslash]
    rw [htext, ← hitem]
    simp [ascii, asciiLower]

/-! ## Reports -/

/-- The error structures of the report. -/
def reportErrors (report : MmsInformationReport) : List LastApplError :=
  report.items.filterMap itemError

/-- A reference of the report, or what an error structure of it calls its control object, names
the object. -/
def NamesObject (object : ControlObjectReference) (report : MmsInformationReport) : Prop :=
  (∃ text ∈ referenceTexts report, Denotes object text) ∨
    ∃ error ∈ reportErrors report, Denotes object error.controlObject

/-- A generic error of the sequence that is waited for. -/
def Correlated (report : MmsInformationReport) (correlation : Option CommandCorrelation) : Prop :=
  (∃ text ∈ referenceTexts report, isGenericLastApplErrorReference text = true) ∧
    ∃ error ∈ reportErrors report, ∃ expected, correlation = some expected ∧
      error.originCategory = some expected.originCategory ∧
      error.originIdentifier = expected.originIdentifier ∧
      error.controlNumber = some expected.controlNumber

/-- A lookalike that the decoder goes by: the `Oper` of another object, or an error structure that
is about another object or comes with a reference to one. -/
def Misread (object : ControlObjectReference) (report : MmsInformationReport) : Prop :=
  (∃ text ∈ referenceTexts report, OperateLookalike object text) ∨
    ∃ error ∈ reportErrors report,
      (∃ text ∈ referenceTexts report, ReportedLookalike object text) ∨
        OperateLookalike object error.controlObject ∨ ReportedLookalike object error.controlObject

def Terminates (termination : CommandTermination) : Prop :=
  termination.isForControlObject = true ∧ termination.isTermination = true

theorem terminates_decode_iff {object : ControlObjectReference} (hvalid : object.valid)
    {report : MmsInformationReport} {correlation : Option CommandCorrelation} :
    Terminates (decode report object correlation) ↔
      (∃ error ∈ reportErrors report,
        errorMatches object correlation (referenceTexts report) error = true) ∨
      ∃ text ∈ referenceTexts report, matchesOperateReference object text = true := by
  have hfound : ((reportErrors report).find?
      (errorMatches object correlation (referenceTexts report))).isSome = true ↔ _ :=
    List.find?_isSome
  rw [decode, if_neg (by simp [hvalid]), terminatingError]
  rw [reportErrors] at hfound ⊢
  cases hfind : (report.items.filterMap itemError).find?
      (errorMatches object correlation (referenceTexts report)) with
  | some error =>
    rw [hfind] at hfound
    simp only [Terminates, and_self, true_iff]
    exact .inl (by simpa using hfound)
  | none =>
    rw [hfind] at hfound
    have hnone : ¬ ∃ error ∈ report.items.filterMap itemError,
        errorMatches object correlation (referenceTexts report) error = true := by
      simpa using hfound
    rw [or_iff_right hnone, ← List.any_eq_true]
    cases (referenceTexts report).any (matchesOperateReference object) with
    | true => simp [Terminates]
    | false => simp [Terminates]

theorem errorMatches_iff {object : ControlObjectReference}
    {correlation : Option CommandCorrelation} {texts : List Bytes} {error : LastApplError} :
    errorMatches object correlation texts error = true ↔
      (∃ text ∈ texts, matchesReportedReference object text = true) ∨
      (∃ text ∈ texts, matchesOperateReference object text = true) ∨
      (error.controlObject ≠ [] ∧ (matchesReportedReference object error.controlObject = true ∨
        matchesOperateReference object error.controlObject = true)) ∨
      ((∃ text ∈ texts, isGenericLastApplErrorReference text = true) ∧
        ∃ expected, correlation = some expected ∧ matchesCorrelation error expected = true) := by
  have hany : (correlation.any fun expected => matchesCorrelation error expected) = true ↔
      ∃ expected, correlation = some expected ∧ matchesCorrelation error expected = true := by
    cases correlation with
    | none => simp
    | some expected => simp
  simp [errorMatches, or_assoc, hany]

/-- The decoder goes by names of the object, by a correlated error or by a lookalike. -/
theorem named_or_misread_of_terminates {object : ControlObjectReference} (hvalid : object.valid)
    {report : MmsInformationReport} {correlation : Option CommandCorrelation}
    (h : Terminates (decode report object correlation)) :
    (NamesObject object report ∨ Correlated report correlation) ∨ Misread object report := by
  have operate : (∃ text ∈ referenceTexts report, matchesOperateReference object text = true) →
      (NamesObject object report ∨ Correlated report correlation) ∨ Misread object report := by
    rintro ⟨text, hmem, htext⟩
    rcases denotes_or_lookalike_of_operate hvalid htext with hdenotes | hlike
    · exact .inl (.inl (.inl ⟨text, hmem, hdenotes⟩))
    · exact .inr (.inl ⟨text, hmem, hlike⟩)
  rcases (terminates_decode_iff hvalid).mp h with ⟨error, herror, hmatches⟩ | h
  · rcases errorMatches_iff.mp hmatches with ⟨text, hmem, htext⟩ | h | ⟨-, h | h⟩ | ⟨hgeneric, h⟩
    · rcases denotes_or_lookalike_of_reported hvalid htext with hdenotes | hlike
      · exact .inl (.inl (.inl ⟨text, hmem, hdenotes⟩))
      · exact .inr (.inr ⟨error, herror, .inl ⟨text, hmem, hlike⟩⟩)
    · exact operate h
    · rcases denotes_or_lookalike_of_reported hvalid h with hdenotes | hlike
      · exact .inl (.inl (.inr ⟨error, herror, hdenotes⟩))
      · exact .inr (.inr ⟨error, herror, .inr (.inr hlike)⟩)
    · rcases denotes_or_lookalike_of_operate hvalid h with hdenotes | hlike
      · exact .inl (.inl (.inr ⟨error, herror, hdenotes⟩))
      · exact .inr (.inr ⟨error, herror, .inr (.inl hlike)⟩)
    · obtain ⟨expected, rfl, hexpected⟩ := h
      simp only [matchesCorrelation, Bool.and_eq_true, beq_iff_eq] at hexpected
      obtain ⟨⟨⟨-, hcategory⟩, hnumber⟩, hidentifier⟩ := hexpected
      exact .inl (.inr ⟨hgeneric, error, herror, expected, rfl, hcategory, hidentifier, hnumber⟩)
  · exact operate h

/-- A lookalike that counts ends the command. -/
theorem terminates_of_misread {object : ControlObjectReference} (hvalid : object.valid)
    {report : MmsInformationReport} {correlation : Option CommandCorrelation}
    (h : Misread object report) : Terminates (decode report object correlation) := by
  have nonempty : ∀ text, matchesReportedReference object text = true ∨
      matchesOperateReference object text = true → text ≠ [] := by
    rintro text h rfl
    simp [matchesReportedReference, matchesOperateReference] at h
  rw [terminates_decode_iff hvalid]
  rcases h with ⟨text, hmem, hlike⟩ | ⟨error, herror, ⟨text, hmem, hlike⟩ | hlike | hlike⟩
  · exact .inr ⟨text, hmem, hlike.matches hvalid⟩
  · exact .inl ⟨error, herror, errorMatches_iff.mpr (.inl ⟨text, hmem, hlike.matches hvalid⟩)⟩
  · have hmatches := hlike.matches hvalid
    exact .inl ⟨error, herror, errorMatches_iff.mpr
      (.inr (.inr (.inl ⟨nonempty _ (.inr hmatches), .inr hmatches⟩)))⟩
  · have hmatches := hlike.matches hvalid
    exact .inl ⟨error, herror, errorMatches_iff.mpr
      (.inr (.inr (.inl ⟨nonempty _ (.inl hmatches), .inl hmatches⟩)))⟩

/-- **A termination is the object's own, unless a lookalike is taken for it**: the decoder reports
a termination of the object only from a report that names the object or is the correlated error, if
and only if the report is such a one or has no lookalike that counts. -/
theorem termination_belongs_iff (object : ControlObjectReference) (hvalid : object.valid = true)
    (report : MmsInformationReport) (correlation : Option CommandCorrelation) :
    (Terminates (decode report object correlation) →
      NamesObject object report ∨ Correlated report correlation) ↔
    (NamesObject object report ∨ Correlated report correlation) ∨ ¬ Misread object report := by
  constructor
  · intro h
    by_cases hmisread : Misread object report
    · exact .inl (h (terminates_of_misread hvalid hmisread))
    · exact .inr hmisread
  · rintro (hnamed | hmisread) hterminates
    · exact hnamed
    · exact (named_or_misread_of_terminates hvalid hterminates).resolve_right hmisread

/-! ## A lookalike -/

/-- A name of the object has the logical node in front or behind as much text as the domain has. -/
theorem Denotes.logicalNode {object : ControlObjectReference} {text : Bytes}
    (h : Denotes object text) :
    ∃ name, (name = text ∨ name = trimmed text) ∧
      (object.logicalNode.map refByte <+: name.map refByte ∨
        object.logicalNode.map refByte <+: (name.drop (object.domain.length + 1)).map refByte) := by
  obtain ⟨name, before, item, hname, rfl, hbefore, hitem⟩ := h
  have hnode : object.logicalNode.map refByte <+: item.map refByte := by
    rcases hitem with h | ⟨head, rest, rfl, -, h | ⟨leaf, -, h⟩⟩
    · rw [h]
      simp [controlName]
    · rw [List.map_append, h]
      simp [dataName]
    · rw [List.map_append, h]
      simp [controlName]
  refine ⟨before ++ item, hname, ?_⟩
  rcases hbefore with rfl | ⟨domain, delimiter, rfl, -, hdomain⟩
  · exact .inl hnode
  · have hlength : object.domain.length + 1 = (domain ++ [delimiter]).length := by
      have h : domain.length = object.domain.length := by simpa using congrArg List.length hdomain
      rw [List.length_append, h, List.length_singleton]
    rw [hlength, List.drop_left]
    exact .inr hnode

/-- A switch of the logical device `LD0`. -/
def switchObject : ControlObjectReference where
  domain := ascii "LD0"
  logicalNode := ascii "CSWI1"
  dataObjectPath := ascii "Pos"

/-- The `Oper` of the switch of the other bay. -/
def otherBayReport : MmsInformationReport where
  variableReferences := [{ domain := ascii "LD0", item := ascii "Q0CSWI1$CO$Pos$Oper" }]

/-- The termination of a command on `Q0CSWI1` is one on `CSWI1`. -/
theorem termination_of_lookalike :
    ¬ ∀ (object : ControlObjectReference), object.valid = true →
      ∀ (report : MmsInformationReport) (correlation : Option CommandCorrelation),
        Terminates (decode report object correlation) →
          NamesObject object report ∨ Correlated report correlation := by
  intro h
  have hterminates : Terminates (decode otherBayReport switchObject none) := by
    rw [Terminates]
    decide
  rcases h switchObject (by decide) otherBayReport none hterminates with
    (⟨text, hmem, hdenotes⟩ | ⟨error, herror, -⟩) | ⟨-, error, herror, -⟩
  · obtain rfl : text = ascii "LD0/Q0CSWI1$CO$Pos$Oper" := List.mem_singleton.mp hmem
    obtain ⟨name, rfl | rfl, hnode⟩ := hdenotes.logicalNode
    · exact absurd hnode (by decide)
    · exact absurd hnode (by decide)
  · exact absurd herror (List.not_mem_nil)
  · exact absurd herror (List.not_mem_nil)

/-- The `Oper` of the switch itself. -/
def ownReport : MmsInformationReport where
  variableReferences := [{ domain := ascii "LD0", item := ascii "CSWI1$CO$Pos$Oper" }]

theorem termination_belongs_iff_sample :
    switchObject.valid = true ∧
    ((Terminates (decode ownReport switchObject none) →
      NamesObject switchObject ownReport ∨ Correlated ownReport none) ↔
    (NamesObject switchObject ownReport ∨ Correlated ownReport none) ∨
      ¬ Misread switchObject ownReport) :=
  ⟨by decide, termination_belongs_iff switchObject (by decide) ownReport none⟩

end CommandTerminationDecoder

end ArStack.Control
