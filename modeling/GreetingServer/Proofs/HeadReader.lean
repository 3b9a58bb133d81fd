import GreetingServer.Proofs.WrittenHead
import GreetingServer.Proofs.WrittenResponse

/-! Heads as peers read them. A peer takes the lines of a head up to the first empty one. The first
of them tells the status, and the others spell the fields; a head without line ends in its fields is
taken as it was written, and not a byte behind it is looked at. -/
namespace GreetingServer
namespace Text

def toInt : Text → Int
  | '-' :: digits => -(Nat.ofDigitChars 10 digits 0 : Nat)
  | digits => Nat.ofDigitChars 10 digits 0

theorem toInt_of_head? {t : Text} (h : t.head? ≠ some '-') :
    toInt t = Nat.ofDigitChars 10 t 0 := by
  unfold toInt
  split
  · exact absurd rfl h
  · rfl

theorem toInt_numeral (n : Int) : toInt (numeral n) = n := by
  cases n with
  | ofNat n =>
    have hdigits : (ofNat n).head? ≠ some '-' := by
      intro h
      exact absurd (isDigit_of_mem_ofNat (List.mem_of_mem_head? h)) (by decide)
    exact (toInt_of_head? hdigits).trans (congrArg Int.ofNat Nat.ofDigitChars_ten_toDigits)
  | negSucc n =>
    have hvalue : Nat.ofDigitChars 10 (ofNat (n + 1)) 0 = n + 1 := Nat.ofDigitChars_ten_toDigits
    rw [numeral, toInt, hvalue]
    rfl

theorem isInner_of_isGraphic {c : Char} (h : isGraphic c = true) : isInner c = true := by
  simp only [isGraphic, Bool.and_eq_true, decide_eq_true_eq] at h
  exact isInner_of_le h.1 (by omega)

theorem eq_or_isDigit_of_mem_numeral {n : Int} {c : Char} (h : c ∈ numeral n) :
    c = '-' ∨ c.isDigit = true := by
  cases n with
  | ofNat n => exact .inr (isDigit_of_mem_ofNat h)
  | negSucc n => exact (List.mem_cons.1 h).imp_right isDigit_of_mem_ofNat

theorem isBlank_ne_of_mem_numeral {n : Int} {c : Char} (h : c ∈ numeral n) : c ≠ ' ' := by
  rintro rfl
  rcases eq_or_isDigit_of_mem_numeral h with h | h <;> exact absurd h (by decide)

end Text

namespace Http
open Text (isInner isGraphic toByte)

def lineOf (t : Text) : Text := t ++ lineEnd

def takeHead? (bytes : Bytes) : Option (List Text × Bytes) :=
  let lines := Text.lines (Text.ofLatin1 bytes)
  match lines.dropWhile (· != lineEnd) with
  | [] => none
  | _ :: behind => some (lines.takeWhile (· != lineEnd), behind.flatten.map toByte)

theorem lines_flatten_append {texts : List Text}
    (h : ∀ t ∈ texts, ∀ c ∈ t, Text.isLineEnd c = false) (rest : Text) :
    Text.lines ((texts.map lineOf).flatten ++ rest) = texts.map lineOf ++ Text.lines rest := by
  induction texts with
  | nil => rfl
  | cons t texts ih =>
    have hrest := ih fun u hu => h u (List.mem_cons_of_mem t hu)
    have hline := Text.lines_append (h t List.mem_cons_self)
      ((texts.map lineOf).flatten ++ rest)
    have hsplit : ((t :: texts).map lineOf).flatten ++ rest =
        t ++ '\r' :: '\n' :: ((texts.map lineOf).flatten ++ rest) := by
      simp [lineOf, lineEnd]
    rw [hsplit, hline, hrest]
    rfl

/-- A head of such lines is taken as it was written, and what is behind it is left. -/
theorem takeHead?_append {texts : List Text}
    (h : ∀ t ∈ texts, t ≠ [] ∧ ∀ c ∈ t, isInner c = true) (rest : Bytes) :
    takeHead? (((texts.map lineOf).flatten ++ lineEnd).map toByte ++ rest) =
      some (texts.map lineOf, rest) := by
  have hlatin : ∀ c ∈ (texts.map lineOf).flatten ++ lineEnd, Text.isLatin1 c = true := by
    have hend : ∀ c ∈ lineEnd, Text.isLatin1 c = true := List.all_eq_true.1 (by decide)
    intro c hc
    rcases List.mem_append.1 hc with hc | hc
    · obtain ⟨line, hline, hc⟩ := List.mem_flatten.1 hc
      obtain ⟨t, ht, rfl⟩ := List.mem_map.1 hline
      rcases List.mem_append.1 hc with hc | hc
      · exact Text.isLatin1_of_isInner ((h t ht).2 c hc)
      · exact hend c hc
    · exact hend c hc
  have hlines : Text.lines (Text.ofLatin1
      (((texts.map lineOf).flatten ++ lineEnd).map toByte ++ rest)) =
        texts.map lineOf ++ lineEnd :: Text.lines (Text.ofLatin1 rest) := by
    have hempty := Text.lines_append (t := []) (by simp) (Text.ofLatin1 rest)
    have hends : ∀ t ∈ texts, ∀ c ∈ t, Text.isLineEnd c = false :=
      fun t ht c hc => Text.isLineEnd_of_isInner ((h t ht).2 c hc)
    rw [Text.ofLatin1, List.map_append, ← Text.ofLatin1, Text.ofLatin1_map_toByte hlatin,
      List.append_assoc, lines_flatten_append hends]
    exact congrArg (texts.map lineOf ++ ·) hempty
  have hfull : ∀ line ∈ texts.map lineOf, (line != lineEnd) = true := by
    intro line hline
    obtain ⟨t, ht, rfl⟩ := List.mem_map.1 hline
    simpa [lineOf] using (h t ht).1
  have hback : (Text.lines (Text.ofLatin1 rest)).flatten.map toByte = rest := by
    rw [Text.flatten_lines, Text.ofLatin1, List.map_map]
    simp [Function.comp_def, Text.toByte_ofByte]
  simp only [takeHead?, hlines, List.dropWhile_append_of_pos hfull,
    List.takeWhile_append_of_pos hfull]
  simp [hback]

def fieldText (field : Text × Text) : Text := field.1 ++ ": ".toList ++ field.2

/-- A head is taken from its first line to its last field, and what is behind its empty line is
left. -/
theorem takeHead?_fieldLines {first : Text} {fields : Headers} (hne : first ≠ [])
    (hfirst : ∀ c ∈ first, isInner c = true)
    (hfields : ∀ field ∈ fields, ∀ c ∈ field.1 ++ field.2, isInner c = true) (rest : Bytes) :
    takeHead? (((lineOf first :: fields.map fieldLine).flatten ++ lineEnd).map toByte ++ rest) =
      some (lineOf first :: fields.map fieldLine, rest) := by
  have hlines : (first :: fields.map fieldText).map lineOf =
      lineOf first :: fields.map fieldLine := by
    rw [List.map_cons, List.map_map]
    rfl
  have htexts : ∀ t ∈ first :: fields.map fieldText, t ≠ [] ∧ ∀ c ∈ t, isInner c = true := by
    intro t ht
    rcases List.mem_cons.1 ht with rfl | ht
    · exact ⟨hne, hfirst⟩
    · obtain ⟨field, hf, rfl⟩ := List.mem_map.1 ht
      refine ⟨by simp [fieldText], ?_⟩
      intro c hc
      rcases List.mem_append.1 hc with hc | hc
      · rcases List.mem_append.1 hc with hc | hc
        · exact hfields field hf c (List.mem_append_left _ hc)
        · have hcolon : ∀ d ∈ ": ".toList, isInner d = true := List.all_eq_true.1 (by decide)
          exact hcolon c hc
      · exact hfields field hf c (List.mem_append_right _ hc)
  rw [← hlines]
  exact takeHead?_append htexts rest

theorem isInner_of_mem_statusText {phrase : Text} (h : ∀ c ∈ phrase, isInner c = true)
    (code : Int) : ∀ c ∈ statusText code phrase, isInner c = true := by
  have hprotocol : ∀ c ∈ protocol, isInner c = true := List.all_eq_true.1 (by decide)
  have hblank : isInner ' ' = true := by decide
  intro c hc
  rcases List.mem_append.1 hc with hc | hc
  · rcases List.mem_append.1 hc with hc | hc
    · exact hprotocol c hc
    · rcases List.mem_cons.1 hc with rfl | hc
      · exact hblank
      · exact Text.isInner_of_isGraphic
          (List.all_eq_true.1 (Text.all_isGraphic_numeral code) c hc)
  · rcases List.mem_cons.1 hc with rfl | hc
    · exact hblank
    · exact h c hc

theorem statusText_ne_nil (code : Int) (phrase : Text) : statusText code phrase ≠ [] :=
  List.cons_ne_nil _ _

/-- The status that the first line tells: its second word. -/
def statusOfLine (line : Text) : Int := Text.toInt ((Text.splitBy (· = ' ') line).getD 1 [])

theorem statusOfLine_codeLine (code : Int) (phrase : Text) :
    statusOfLine (codeLine (Text.numeral code) phrase) = code := by
  have hspace : ' ' ∉ protocol := by decide
  have hprotocol : ∀ c ∈ protocol, (decide (c = ' ')) = false := fun c hc =>
    decide_eq_false (ne_of_mem_of_not_mem hc hspace)
  have hcode : ∀ c ∈ Text.numeral code, (decide (c = ' ')) = false := by
    intro c hc
    simpa using Text.isBlank_ne_of_mem_numeral hc
  have hline : codeLine (Text.numeral code) phrase =
      protocol ++ ' ' :: (Text.numeral code ++ ' ' :: (phrase ++ lineEnd)) := by
    simp [codeLine]
  rw [statusOfLine, hline, Text.splitBy_append hprotocol (by decide),
    Text.splitBy_append hcode (by decide)]
  exact Text.toInt_numeral code

/-- The field that a line spells. Its name ends at the first colon, and its value starts behind the
blank that follows. -/
def fieldOfLine (line : Text) : Text × Text :=
  (line.takeWhile (· != ':'), Text.trimRight Text.isLineEnd ((line.dropWhile (· != ':')).drop 2))

theorem fieldOfLine_fieldLine {field : Text × Text} (hn : ∀ c ∈ field.1, c ≠ ':')
    (hv : ∀ c ∈ field.2, Text.isLineEnd c = false) : fieldOfLine (fieldLine field) = field := by
  have hname : ∀ c ∈ field.1, (c != ':') = true := fun c hc => bne_iff_ne.2 (hn c hc)
  have hvalue : Text.trimRight Text.isLineEnd (field.2 ++ lineEnd) = field.2 :=
    Text.trimRight_append (List.all_eq_true.1 (by decide))
      fun c hc => hv c (List.mem_of_mem_getLast? hc)
  rw [IsPlainField.fieldLine_eq, fieldOfLine, List.takeWhile_append_of_pos hname,
    List.dropWhile_append_of_pos hname]
  simp [hvalue]

namespace ResponseHead
variable {date : Text} {closing : Bool} {r : Response}

theorem isInner_of_mem_allFields (hd : date.all isGraphic = true)
    (h : ∀ field ∈ r.headers, ∀ c ∈ field.1 ++ field.2, isInner c = true) {field : Text × Text}
    (hf : field ∈ allFields date closing r) : ∀ c ∈ field.1 ++ field.2, isInner c = true := by
  rcases isGraphic_of_mem_fields hd hf with hm | ⟨hname, hvalue⟩
  · exact h field hm
  · intro c hc
    rcases List.mem_append.1 hc with hc | hc
    · exact Text.isInner_of_isGraphic (List.all_eq_true.1 hname c hc)
    · exact Text.isInner_of_isGraphic (List.all_eq_true.1 hvalue c hc)

theorem takeHead?_lines (closing : Bool) (hd : date.all isGraphic = true)
    (h : ∀ field ∈ r.headers, ∀ c ∈ field.1 ++ field.2, isInner c = true) (rest : Bytes) :
    takeHead? ((lines date closing r).flatten.map toByte ++ rest) =
      some (codeLine (Text.numeral r.status) (Status.phrase r.status) ::
        (allFields date closing r).map fieldLine, rest) := by
  have htext : ∀ c ∈ statusText r.status (Status.phrase r.status), isInner c = true := fun c hc =>
    Text.isInner_of_isGraphic (List.all_eq_true.1 (all_isGraphic_statusText r.status) c hc)
  have hfields : ∀ field ∈ allFields date closing r, ∀ c ∈ field.1 ++ field.2, isInner c = true :=
    fun field hf => isInner_of_mem_allFields hd h hf
  rw [lines_eq, List.flatten_append, List.flatten_singleton, codeLine_numeral]
  exact takeHead?_fieldLines (statusText_ne_nil _ _) htext hfields rest

end ResponseHead
end Http
end GreetingServer
