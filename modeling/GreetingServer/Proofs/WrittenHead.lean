import GreetingServer.Proofs.Splitting
import GreetingServer.Proofs.WholeHead

/-! Heads as peers write them. A head whose words are visible, whose fields have one line each and
which is not too long is read back as it was written, and not a byte behind it is looked at. -/
namespace GreetingServer
namespace Text

def isInner (c : Char) : Bool := isLatin1 c && !isLineEnd c

def isVisible (c : Char) : Bool := 33 ≤ c.toNat && c.toNat ≤ 126

theorem ofLatin1_map_toByte {t : Text} (h : ∀ c ∈ t, isLatin1 c = true) :
    ofLatin1 (t.map toByte) = t := by
  have hall : t.all isLatin1 = true := List.all_eq_true.2 h
  exact ofLatin1_toLatin1 (by rw [toLatin1, if_pos hall])

theorem isInner_of_le {c : Char} (hl : 32 ≤ c.toNat) (hu : c.toNat < 256) : isInner c = true := by
  have hr : c ≠ '\r' := by
    rintro rfl
    exact absurd hl (by decide)
  have hn : c ≠ '\n' := by
    rintro rfl
    exact absurd hl (by decide)
  simp [isInner, isLatin1, isLineEnd, hr, hn, hu]

theorem isInner_of_isVisible {c : Char} (h : isVisible c = true) : isInner c = true := by
  simp only [isVisible, Bool.and_eq_true, decide_eq_true_eq] at h
  exact isInner_of_le (by omega) (by omega)

theorem isBlank_of_isVisible {c : Char} (h : isVisible c = true) : isBlank c = false := by
  simp only [isVisible, Bool.and_eq_true, decide_eq_true_eq] at h
  exact isBlank_of_visible h.1 h.2

theorem isLatin1_of_isInner {c : Char} (h : isInner c = true) : isLatin1 c = true := by
  simp only [isInner, Bool.and_eq_true] at h
  exact h.1

theorem isLineEnd_of_isInner {c : Char} (h : isInner c = true) : isLineEnd c = false := by
  simp only [isInner, Bool.and_eq_true, Bool.not_eq_true'] at h
  exact h.2

theorem newline_notMem_map_toByte {t : Text} (h : ∀ c ∈ t, isInner c = true) :
    Source.newline ∉ t.map toByte := by
  intro hm
  obtain ⟨c, hc, he⟩ := List.mem_map.1 hm
  have hback := ofByte_toByte (isLatin1_of_isInner (h c hc))
  rw [he] at hback
  have hend := isLineEnd_of_isInner (h c hc)
  rw [← hback] at hend
  exact absurd hend (by decide)

end Text

namespace Http
open Text (isInner isVisible toByte)
open HeaderBlock (lineLimit lineCountLimit)

theorem map_toByte_line {t : Text} (h : ∀ c ∈ t, isInner c = true) :
    (t ++ lineEnd).map toByte = (t.map toByte ++ [13]) ++ [Source.newline] ∧
      Source.newline ∉ t.map toByte ++ [13] ∧
      (t.map toByte ++ [13]).length + 1 = (t ++ lineEnd).length := by
  refine ⟨?_, ?_, ?_⟩
  · rw [List.map_append, List.append_assoc]
    rfl
  · intro hm
    rcases List.mem_append.1 hm with hm | hm
    · exact Text.newline_notMem_map_toByte h hm
    · exact absurd hm (by decide)
  · have he : (t ++ lineEnd).length = t.length + 2 := List.length_append
    rw [List.length_append, List.length_map, List.length_singleton, he]

theorem readLine_text {t : Text} (h : ∀ c ∈ t, isInner c = true)
    (hl : (t ++ lineEnd).length ≤ lineLimit) (rest : Bytes) (failure : Option Fault) :
    Source.readLine (lineLimit + 1) ⟨(t ++ lineEnd).map toByte ++ rest, failure⟩ =
      (.ok ((t ++ lineEnd).map toByte), ⟨rest, failure⟩) := by
  obtain ⟨hsplit, hnot, hlen⟩ := map_toByte_line h
  have hread := Source.readLine_line hnot (show _ < lineLimit + 1 by omega) rest failure
  rw [hsplit, List.append_assoc, List.singleton_append]
  exact hread

theorem ofLatin1_line {t : Text} (h : ∀ c ∈ t, isInner c = true) :
    Text.ofLatin1 ((t ++ lineEnd).map toByte) = t ++ lineEnd := by
  apply Text.ofLatin1_map_toByte
  intro c hc
  rcases List.mem_append.1 hc with hc | hc
  · exact Text.isLatin1_of_isInner (h c hc)
  · have hend : ∀ d ∈ lineEnd, Text.isLatin1 d = true := List.all_eq_true.1 (by decide)
    exact hend c hc

def isValueChar (c : Char) : Bool :=
  (32 ≤ c.toNat && c.toNat ≤ 126) || (160 ≤ c.toNat && c.toNat ≤ 255)

theorem isInner_of_isValueChar {c : Char} (h : isValueChar c = true) : isInner c = true := by
  simp only [isValueChar, Bool.or_eq_true, Bool.and_eq_true, decide_eq_true_eq] at h
  exact Text.isInner_of_le (by omega) (by omega)

theorem isVisible_of_isNameChar {c : Char} (h : FieldLine.isNameChar c = true) :
    isVisible c = true := by
  simp only [FieldLine.isNameChar, Bool.and_eq_true] at h
  simpa [isVisible] using h.1

/-- A field that takes one line, and comes back from it. -/
structure IsPlainField (field : Text × Text) : Prop where
  name_ne_nil : field.1 ≠ []
  name : ∀ c ∈ field.1, FieldLine.isNameChar c = true
  value : ∀ c ∈ field.2, isValueChar c = true
  value_start : field.2.head? ≠ some ' '
  short : (fieldLine field).length ≤ lineLimit

namespace IsPlainField
variable {field : Text × Text}

theorem ne_colon_of_mem_name (h : IsPlainField field) {c : Char} (hc : c ∈ field.1) : c ≠ ':' := by
  have hn := h.name c hc
  simp only [FieldLine.isNameChar, Bool.and_eq_true, bne_iff_ne] at hn
  exact hn.2

theorem isInner_of_mem (h : IsPlainField field) :
    ∀ c ∈ field.1 ++ ": ".toList ++ field.2, isInner c = true := by
  intro c hc
  rcases List.mem_append.1 hc with hc | hc
  · rcases List.mem_append.1 hc with hc | hc
    · exact Text.isInner_of_isVisible (isVisible_of_isNameChar (h.name c hc))
    · have hboth : ∀ d ∈ ": ".toList, isInner d = true := List.all_eq_true.1 (by decide)
      exact hboth c hc
  · exact isInner_of_isValueChar (h.value c hc)

theorem exists_name (h : IsPlainField field) : ∃ c name, field.1 = c :: name ∧
    FieldLine.isNameChar c = true := by
  cases hf : field.1 with
  | nil => exact absurd hf h.name_ne_nil
  | cons c name => exact ⟨c, name, rfl, h.name c (by simp [hf])⟩

theorem fieldLine_eq (field : Text × Text) :
    fieldLine field = field.1 ++ ':' :: ' ' :: (field.2 ++ lineEnd) := by
  simp [fieldLine, List.append_assoc]

theorem dropWhile_fieldLine (h : IsPlainField field) :
    (fieldLine field).dropWhile FieldLine.isNameChar = ':' :: ' ' :: (field.2 ++ lineEnd) := by
  have hname : field.1.dropWhile FieldLine.isNameChar = [] := List.dropWhile_eq_nil_iff.2 h.name
  rw [fieldLine_eq, List.dropWhile_append, hname]
  rfl

theorem isFieldLine_fieldLine (h : IsPlainField field) :
    FieldLine.isFieldLine (fieldLine field) = true := by
  simp [FieldLine.isFieldLine, h.dropWhile_fieldLine]

theorem isContinuation_fieldLine (h : IsPlainField field) :
    FieldLine.isContinuation (fieldLine field) = false := by
  obtain ⟨c, name, hf, hc⟩ := h.exists_name
  rw [fieldLine_eq, hf, List.cons_append]
  unfold FieldLine.isContinuation
  split
  · rename_i he
    rw [(List.cons.inj he).1] at hc
    exact absurd hc (by decide)
  · rename_i he
    rw [(List.cons.inj he).1] at hc
    exact absurd hc (by decide)
  · rfl

/-- The first character that is not in the name is the colon, and the envelope has a blank there. -/
theorem isEnvelope_fieldLine (h : IsPlainField field) :
    FieldLine.isEnvelope (fieldLine field) = false := by
  rw [Bool.eq_false_iff]
  intro he
  obtain ⟨rest, hr⟩ := List.isPrefixOf_iff_prefix.1 he
  have hother : (FieldLine.envelope ++ rest).dropWhile FieldLine.isNameChar = ' ' :: rest := rfl
  rw [hr, h.dropWhile_fieldLine] at hother
  exact absurd (List.cons.inj hother).1 (by decide)

theorem head?_fieldLine (h : IsPlainField field) : (fieldLine field).head? ≠ some ':' := by
  obtain ⟨c, name, hf, hc⟩ := h.exists_name
  rw [fieldLine_eq, hf, List.cons_append, List.head?_cons]
  rintro he
  rw [Option.some.inj he] at hc
  exact absurd hc (by decide)

theorem field_fieldLine (h : IsPlainField field) :
    FieldLine.field (fieldLine field) [] = field := by
  have hall : ∀ c ∈ field.1, (c != ':') = true := by
    intro c hc
    rw [bne_iff_ne]
    exact h.ne_colon_of_mem_name hc
  have hname : (fieldLine field).takeWhile (· != ':') = field.1 := by
    rw [fieldLine_eq, List.takeWhile_append_of_pos hall]
    simp
  have hrest : ((fieldLine field).dropWhile (· != ':')).drop 1 = ' ' :: (field.2 ++ lineEnd) := by
    rw [fieldLine_eq, List.dropWhile_append_of_pos hall]
    simp
  have hleft : Text.trimLeft (fun c => c = ' ' || c = '\t') (' ' :: (field.2 ++ lineEnd)) =
      field.2 ++ lineEnd := by
    cases hv : field.2 with
    | nil => rfl
    | cons c value =>
      have hc := h.value c (by simp [hv])
      have hblank : c ≠ ' ' := by
        rintro rfl
        exact h.value_start (by rw [hv, List.head?_cons])
      have htab : c ≠ '\t' := by
        rintro rfl
        exact absurd hc (by decide)
      simp [Text.trimLeft, hblank, htab]
  have hright : Text.trimRight Text.isLineEnd (field.2 ++ lineEnd) = field.2 := by
    apply Text.trimRight_append
    · exact List.all_eq_true.1 (by decide)
    · intro c hc
      exact Text.isLineEnd_of_isInner
        (isInner_of_isValueChar (h.value c (List.mem_of_mem_getLast? hc)))
  rw [FieldLine.field, hname, hrest, hleft, List.flatten_nil, List.append_nil, hright]

theorem takeLine_fieldLine (h : IsPlainField field) (fields : Headers) :
    FieldLine.takeLine (fieldLine field) ([], fields) = ([], field :: fields) := by
  have hhead : ((fieldLine field).head? == some ':') = false := beq_false_of_ne h.head?_fieldLine
  simp only [FieldLine.takeLine, h.isContinuation_fieldLine, h.isEnvelope_fieldLine, hhead,
    h.field_fieldLine, Bool.false_or, Bool.false_eq_true, if_false]

end IsPlainField

/-! The block of such fields, with the empty line behind them. -/

def blockText (fields : Headers) : Text := fields.flatMap fieldLine ++ lineEnd

section Block
variable {field : Text × Text} {fields : Headers}

theorem lines_blockText (h : ∀ field ∈ fields, IsPlainField field) :
    Text.lines (blockText fields) = fields.map fieldLine ++ [lineEnd] := by
  induction fields with
  | nil => rfl
  | cons field fields ih =>
    -- No character of the line ends it, so that the next line starts behind its end.
    have hfield : IsPlainField field := h field (by simp)
    have hrest := ih fun f hf => h f (by simp [hf])
    have hinner : ∀ c ∈ field.1 ++ ": ".toList ++ field.2, Text.isLineEnd c = false :=
      fun c hc => Text.isLineEnd_of_isInner (hfield.isInner_of_mem c hc)
    have hsplit : blockText (field :: fields) =
        (field.1 ++ ": ".toList ++ field.2) ++ '\r' :: '\n' :: blockText fields := by
      simp [blockText, fieldLine, lineEnd]
    rw [hsplit, Text.lines_append hinner, hrest]
    rfl

theorem isFieldLine_lineEnd : FieldLine.isFieldLine lineEnd = false := by decide

theorem takeWhile_lines_blockText (h : ∀ field ∈ fields, IsPlainField field) :
    (Text.lines (blockText fields)).takeWhile FieldLine.isFieldLine = fields.map fieldLine := by
  have hall : ∀ line ∈ fields.map fieldLine, FieldLine.isFieldLine line = true := by
    intro line hline
    obtain ⟨field, hf, rfl⟩ := List.mem_map.1 hline
    exact (h field hf).isFieldLine_fieldLine
  rw [lines_blockText h, List.takeWhile_append_of_pos hall, List.takeWhile_cons,
    isFieldLine_lineEnd]
  simp

theorem fields_fieldLines (h : ∀ field ∈ fields, IsPlainField field) :
    FieldLine.fields (fields.map fieldLine) = fields := by
  have hfold : (fields.map fieldLine).foldr FieldLine.takeLine ([], []) = ([], fields) := by
    induction fields with
    | nil => rfl
    | cons field fields ih =>
      have hrest := ih fun f hf => h f (by simp [hf])
      rw [List.map_cons, List.foldr_cons, hrest, (h field (by simp)).takeLine_fieldLine]
  rw [FieldLine.fields, hfold]

theorem parse_blockText (h : ∀ field ∈ fields, IsPlainField field) :
    HeaderBlock.parse (blockText fields) = fields := by
  rw [HeaderBlock.parse, takeWhile_lines_blockText h, fields_fieldLines h]

theorem run_fieldLines (h : ∀ field ∈ fields, IsPlainField field) (before rest : List Text) :
    Mime.Nesting.run ⟨.fields before false, []⟩ (fields.map fieldLine ++ rest) =
      Mime.Nesting.run ⟨.fields ((fields.map fieldLine).reverse ++ before) false, []⟩ rest := by
  induction fields generalizing before with
  | nil => rfl
  | cons field fields ih =>
    have hline := (h field (by simp)).isFieldLine_fieldLine
    have hrest := ih (fun f hf => h f (by simp [hf])) (fieldLine field :: before)
    have hstep : Mime.Nesting.step ⟨.fields before false, []⟩ (fieldLine field) =
        .ok ⟨.fields (fieldLine field :: before) false, []⟩ := by
      simp [Mime.Nesting.step, Mime.outermost?, Mime.Nesting.take, hline, Mime.Nesting.checkDepth]
    rw [List.map_cons, List.cons_append, Mime.Nesting.run, hstep]
    simp only [hrest, List.reverse_cons, List.append_assoc, List.singleton_append]

/-- The last field's line is no envelope, so that the text starts behind the empty line. -/
theorem keepEnvelope_fieldLines (h : ∀ field ∈ fields, IsPlainField field) (n : Mime.Nesting) :
    Mime.Nesting.keepEnvelope (fields.map fieldLine).reverse n = n := by
  cases hr : (fields.map fieldLine).reverse with
  | nil => rfl
  | cons last before =>
    have hlast : last ∈ fields.map fieldLine := by
      rw [← List.mem_reverse, hr]
      exact List.mem_cons_self
    obtain ⟨field, hf, rfl⟩ := List.mem_map.1 hlast
    have henv := (h field hf).isEnvelope_fieldLine
    cases before with
    | nil => rfl
    | cons line before => simp [Mime.Nesting.keepEnvelope, henv]

theorem checkTypes_blockText (h : ∀ field ∈ fields, IsPlainField field)
    (ht : fields.first? Mime.MediaType.contentTypeField = none) :
    Mime.checkTypes (blockText fields) = .ok () := by
  have htype : Mime.MediaType.ofHeaders fields false = .ok .text :=
    Mime.MediaType.ofHeaders_of_first?_eq_none ht false
  have hempty : Text.isEmptyLine lineEnd = true := by decide
  have hend : Mime.Nesting.step ⟨.fields (fields.map fieldLine).reverse false, []⟩ lineEnd =
      .ok ⟨.text, []⟩ := by
    simp only [Mime.Nesting.step, Mime.outermost?, Mime.Nesting.take, isFieldLine_lineEnd,
      Bool.false_eq_true, if_false, Mime.Nesting.endFields, List.reverse_reverse,
      fields_fieldLines h, htype, Except.map, Mime.Nesting.enter, keepEnvelope_fieldLines h,
      hempty, if_true, Mime.Nesting.checkDepth]
    rfl
  have hrun := run_fieldLines h [] [lineEnd]
  rw [List.append_nil] at hrun
  rw [Mime.checkTypes, lines_blockText h]
  rw [show ({} : Mime.Nesting) = ⟨.fields [] false, []⟩ from rfl, hrun, Mime.Nesting.run, hend]
  rfl

theorem endsBlock_of_length {line : Bytes} (h : 2 < line.length) :
    HeaderBlock.endsBlock line = false := by
  unfold HeaderBlock.endsBlock
  match line, h with
  | a :: b :: c :: rest, _ => simp

theorem length_fieldLine (h : IsPlainField field) : 2 < ((fieldLine field).map toByte).length := by
  have hname : 0 < field.1.length := List.length_pos_iff.2 h.name_ne_nil
  rw [List.length_map, IsPlainField.fieldLine_eq]
  simp only [List.length_append, List.length_cons]
  omega

theorem readLines_blockText (h : ∀ field ∈ fields, IsPlainField field) {allowed : Nat}
    (ha : fields.length < allowed) (rest : Bytes) (failure : Option Fault) :
    HeaderBlock.readLines allowed ⟨(blockText fields).map toByte ++ rest, failure⟩ =
      .ok ((fields.map fieldLine ++ [lineEnd]).map (·.map toByte), ⟨rest, failure⟩) := by
  induction fields generalizing allowed with
  | nil =>
    obtain ⟨allowed, rfl⟩ := Nat.exists_eq_add_one_of_ne_zero (Nat.ne_of_gt ha)
    have hnone : ∀ c ∈ ([] : Text), isInner c = true := by simp
    have hread := readLine_text hnone (by decide) rest failure
    have hempty : HeaderBlock.endsBlock (lineEnd.map toByte) = true := by decide
    have hlen : (lineEnd.map toByte).length ≤ lineLimit := by decide
    rw [List.nil_append] at hread
    rw [blockText, List.flatMap_nil, List.nil_append, HeaderBlock.readLines_succ hread hlen,
      if_pos hempty]
    rfl
  | cons field fields ih =>
    obtain ⟨allowed, rfl⟩ := Nat.exists_eq_add_one_of_ne_zero (Nat.ne_of_gt (Nat.zero_lt_of_lt ha))
    have hfield : IsPlainField field := h field (by simp)
    have hrest := ih (fun f hf => h f (by simp [hf])) (Nat.lt_of_succ_lt_succ ha)
    have hread := readLine_text hfield.isInner_of_mem hfield.short
      ((blockText fields).map toByte ++ rest) failure
    have hlen : ((fieldLine field).map toByte).length ≤ lineLimit := by
      rw [List.length_map]
      exact hfield.short
    rw [← fieldLine] at hread
    have hsplit : (blockText (field :: fields)).map toByte ++ rest =
        (fieldLine field).map toByte ++ ((blockText fields).map toByte ++ rest) := by
      simp [blockText]
    rw [hsplit, HeaderBlock.readLines_succ hread hlen,
      if_neg (by rw [endsBlock_of_length (length_fieldLine hfield)]; decide), hrest]
    rfl

theorem ofLatin1_blockText (h : ∀ field ∈ fields, IsPlainField field) :
    Text.ofLatin1 ((blockText fields).map toByte) = blockText fields := by
  induction fields with
  | nil => exact ofLatin1_line (by simp)
  | cons field fields ih =>
    have hline := ofLatin1_line (h field (by simp)).isInner_of_mem
    have hrest := ih fun f hf => h f (by simp [hf])
    have hsplit : blockText (field :: fields) = fieldLine field ++ blockText fields := by
      simp [blockText]
    rw [← fieldLine] at hline
    rw [hsplit, List.map_append, Text.ofLatin1, List.map_append]
    exact congrArg₂ (· ++ ·) hline hrest

theorem read_blockText (h : ∀ field ∈ fields, IsPlainField field)
    (hc : fields.length < lineCountLimit)
    (ht : fields.first? Mime.MediaType.contentTypeField = none)
    (line : RequestLine) (rest : Bytes) (failure : Option Fault) :
    HeaderBlock.read line ⟨(blockText fields).map toByte ++ rest, failure⟩ =
      .ok (fields, ⟨rest, failure⟩) := by
  have hflat : (((fields.map fieldLine ++ [lineEnd]).map (·.map toByte))).flatten =
      (blockText fields).map toByte := by
    simp [blockText, List.flatMap, Function.comp_def]
  simp only [HeaderBlock.read, readLines_blockText h hc rest failure, hflat,
    ofLatin1_blockText h, HeaderBlock.accept, checkTypes_blockText h ht,
    parse_blockText h, Except.map]

end Block

/-! Request lines: a method, a target and the usual version, with single blanks between them. -/

namespace RequestLine

def written (method target : Text) : Text := method ++ ' ' :: (target ++ ' ' :: protocol)

theorem isVisible_of_mem_protocol {c : Char} (hc : c ∈ protocol) : isVisible c = true := by
  have hall : ∀ d ∈ protocol, isVisible d = true := List.all_eq_true.1 (by decide)
  exact hall c hc

variable {method target : Text}

/-- What holds of its words, of the blank and of visible characters holds of the whole line. -/
theorem forall_mem_written {P : Char → Prop} (hm : ∀ c ∈ method, P c) (ht : ∀ c ∈ target, P c)
    (hblank : P ' ') (hv : ∀ c, isVisible c = true → P c) : ∀ c ∈ written method target, P c := by
  intro c hc
  rcases List.mem_append.1 hc with hc | hc
  · exact hm c hc
  · rcases List.mem_cons.1 hc with rfl | hc
    · exact hblank
    · rcases List.mem_append.1 hc with hc | hc
      · exact ht c hc
      · rcases List.mem_cons.1 hc with rfl | hc
        · exact hblank
        · exact hv c (isVisible_of_mem_protocol hc)

theorem words_written (hm : method ≠ []) (hmf : ∀ c ∈ method, Text.isBlank c = false)
    (ht : target ≠ []) (htf : ∀ c ∈ target, Text.isBlank c = false) :
    Text.words (written method target) = [method, target, protocol] := by
  have hblank : Text.isBlank ' ' = true := by decide
  rw [written, Text.words_append hm hmf hblank, Text.words_append ht htf hblank,
    Text.words_of_free (by decide)
      (fun c hc => Text.isBlank_of_isVisible (isVisible_of_mem_protocol hc))]

/-- The line is read back, but for several slashes at the front of its target. -/
theorem parse_written (hm : method ≠ []) (hmf : ∀ c ∈ method, Text.isBlank c = false)
    (ht : target ≠ []) (htf : ∀ c ∈ target, Text.isBlank c = false) :
    parse (written method target ++ lineEnd) =
      .ok ⟨method, singleSlash target, protocol, true⟩ := by
  have htrim : Text.trimRight (fun c => c = '\r' || c = '\n') (written method target ++ lineEnd) =
      written method target := by
    apply Text.trimRight_append
    · exact List.all_eq_true.1 (by decide)
    · have hfree := forall_mem_written (P := fun c => Text.isLineEnd c = false)
        (fun c hc => Text.isLineEnd_of_free (hmf c hc))
        (fun c hc => Text.isLineEnd_of_free (htf c hc)) (by decide)
        (fun c hc => Text.isLineEnd_of_isInner (Text.isInner_of_isVisible hc))
      exact fun c hc => hfree c (List.mem_of_mem_getLast? hc)
  have hversion : [protocol].getLastD [] = protocol := rfl
  rw [parse, htrim, words_written hm hmf ht htf]
  simp only [ofWords, hversion, persistence_protocol, List.isEmpty_nil, if_true]

end RequestLine

namespace Head

variable {method target : Text}

theorem readRequestLine_written (hm : method ≠ []) (hmv : ∀ c ∈ method, isVisible c = true)
    (ht : target ≠ []) (hti : ∀ c ∈ target, isInner c = true ∧ Text.isBlank c = false)
    (hl : (RequestLine.written method target ++ lineEnd).length ≤ lineLimit) (rest : Bytes)
    (failure : Option Fault) :
    readRequestLine ⟨(RequestLine.written method target ++ lineEnd).map toByte ++ rest, failure⟩ =
      .ok (⟨method, RequestLine.singleSlash target, protocol, true⟩, ⟨rest, failure⟩) := by
  have hinner := RequestLine.forall_mem_written
    (fun c hc => Text.isInner_of_isVisible (hmv c hc)) (fun c hc => (hti c hc).1) (by decide)
    fun _ hv => Text.isInner_of_isVisible hv
  have hparse := RequestLine.parse_written hm
    (fun c hc => Text.isBlank_of_isVisible (hmv c hc)) ht fun c hc => (hti c hc).2
  have hlen : ¬lineLimit <
      ((RequestLine.written method target ++ lineEnd).map toByte).length := by
    rw [List.length_map]
    omega
  have hne : (RequestLine.written method target ++ lineEnd).map toByte ≠ [] := by
    simp [lineEnd]
  simp only [readRequestLine, readLine_text hinner hl rest failure, if_neg hlen, if_neg hne,
    ofLatin1_line hinner, hparse]

theorem readRequestLine_of_long {t : Text} (h : ∀ c ∈ t, isInner c = true)
    (hl : lineLimit < (t ++ lineEnd).length) (rest : Bytes) (failure : Option Fault) :
    readRequestLine ⟨(t ++ lineEnd).map toByte ++ rest, failure⟩ =
      .error (.refuse lineTooLong none) := by
  obtain ⟨hsplit, hnot, hlen⟩ := map_toByte_line h
  obtain ⟨piece, u, hread, hpiece⟩ :=
    Source.readLine_of_long hnot (show lineLimit + 1 ≤ _ by omega) rest failure
  rw [hsplit, List.append_assoc, List.singleton_append, readRequestLine, hread]
  simp only
  rw [if_pos (by omega)]

theorem line_of_read {head : Head} {t : Source} {rest : Bytes} {failure : Option Fault}
    (hm : method ≠ []) (hmv : ∀ c ∈ method, isVisible c = true) (ht : target ≠ [])
    (hti : ∀ c ∈ target, isInner c = true ∧ Text.isBlank c = false)
    (hr : read ⟨(RequestLine.written method target ++ lineEnd).map toByte ++ rest, failure⟩ =
      .ok (head, t)) :
    head.line = ⟨method, RequestLine.singleSlash target, protocol, true⟩ := by
  obtain ⟨u, hline, -⟩ := exists_readRequestLine_of_read hr
  by_cases hl : (RequestLine.written method target ++ lineEnd).length ≤ lineLimit
  · rw [readRequestLine_written hm hmv ht hti hl] at hline
    exact (Prod.mk.inj (Except.ok.inj hline)).1.symm
  · have hinner := RequestLine.forall_mem_written
      (fun c hc => Text.isInner_of_isVisible (hmv c hc)) (fun c hc => (hti c hc).1) (by decide)
      fun _ hv => Text.isInner_of_isVisible hv
    rw [readRequestLine_of_long hinner (Nat.lt_of_not_le hl)] at hline
    cases hline

end Head

/-! Whole heads: the request line and the block. -/

structure WrittenHead where
  method : Text
  target : Text
  fields : Headers
  deriving Repr, DecidableEq

namespace WrittenHead

def firstLine (w : WrittenHead) : Text :=
  w.method ++ ' ' :: (w.target ++ ' ' :: protocol) ++ lineEnd

def bytes (w : WrittenHead) : Bytes :=
  w.firstLine.map toByte ++ (blockText w.fields).map toByte

def head (w : WrittenHead) : Head := ⟨⟨w.method, w.target, protocol, true⟩, w.fields⟩

/-- The head can be read back. Its target starts with one slash, and nothing is said about a media
type. -/
structure IsPlain (w : WrittenHead) : Prop where
  method_ne_nil : w.method ≠ []
  method : ∀ c ∈ w.method, isVisible c = true
  target : ∃ rest, w.target = '/' :: rest ∧ rest.head? ≠ some '/' ∧ ∀ c ∈ rest, isVisible c = true
  fields : ∀ field ∈ w.fields, IsPlainField field
  untyped : w.fields.first? Mime.MediaType.contentTypeField = none
  short : w.firstLine.length ≤ lineLimit
  few : w.fields.length < lineCountLimit

variable {w : WrittenHead}

theorem isBare_head (w : WrittenHead) : w.head.line.isBare = false := by
  have hprotocol : (protocol == RequestLine.bareVersion) = false := by decide
  exact hprotocol

namespace IsPlain

theorem isVisible_of_mem_target (h : IsPlain w) {c : Char} (hc : c ∈ w.target) :
    isVisible c = true := by
  obtain ⟨rest, ht, -, hv⟩ := h.target
  rw [ht] at hc
  rcases List.mem_cons.1 hc with rfl | hc
  · decide
  · exact hv c hc

theorem singleSlash_target (h : IsPlain w) : RequestLine.singleSlash w.target = w.target := by
  obtain ⟨rest, ht, hs, -⟩ := h.target
  rw [ht]
  cases rest with
  | nil => rfl
  | cons c rest =>
    apply RequestLine.singleSlash_of_single
    rintro rfl
    exact hs rfl

theorem readRequestLine_eq (h : IsPlain w) (rest : Bytes) (failure : Option Fault) :
    Head.readRequestLine ⟨w.firstLine.map toByte ++ rest, failure⟩ =
      .ok (w.head.line, ⟨rest, failure⟩) := by
  have htarget : w.target ≠ [] := by
    obtain ⟨rest, ht, -⟩ := h.target
    rw [ht]
    simp
  have hread := Head.readRequestLine_written h.method_ne_nil h.method htarget
    (fun c hc => ⟨Text.isInner_of_isVisible (h.isVisible_of_mem_target hc),
      Text.isBlank_of_isVisible (h.isVisible_of_mem_target hc)⟩) h.short rest failure
  rw [h.singleSlash_target] at hread
  exact hread

theorem read_eq (h : IsPlain w) (rest : Bytes) (failure : Option Fault) :
    Head.read ⟨w.bytes ++ rest, failure⟩ = .ok (w.head, ⟨rest, failure⟩) := by
  have hline := h.readRequestLine_eq ((blockText w.fields).map toByte ++ rest) failure
  have hblock := read_blockText h.fields h.few h.untyped w.head.line rest failure
  rw [bytes, List.append_assoc]
  simp only [Head.read, hline, hblock]
  rfl

end IsPlain
end WrittenHead
end Http
end GreetingServer
