import GreetingServer.Clock
import GreetingServer.Http.ResponseHead

/-! Responses whose heads can be written. All that the server puts into a head by itself is
printable ASCII, so that only a handler's own fields can keep a head from being written, and only
those of them that are about the connection have a say in whether it goes on. -/
namespace GreetingServer
namespace Text

/-- Printable characters of ASCII, the blank included. -/
def isGraphic (c : Char) : Bool := 32 ≤ c.toNat && c.toNat ≤ 126

theorem isLatin1_of_isGraphic {c : Char} (h : isGraphic c = true) : isLatin1 c = true := by
  simp only [isGraphic, Bool.and_eq_true, decide_eq_true_eq] at h
  simp only [isLatin1, decide_eq_true_eq]
  omega

theorem all_isLatin1_of_isGraphic {t : Text} (h : t.all isGraphic = true) :
    t.all isLatin1 = true :=
  List.all_eq_true.2 fun c hc => isLatin1_of_isGraphic (List.all_eq_true.1 h c hc)

@[simp] theorem all_isGraphic_ofNat (n : Nat) : (ofNat n).all isGraphic = true := by
  rw [List.all_eq_true]
  intro c hc
  have hb := toNat_of_isDigit (isDigit_of_mem_ofNat hc)
  simp only [isGraphic, Bool.and_eq_true, decide_eq_true_eq]
  omega

@[simp] theorem all_isGraphic_numeral (n : Int) : (numeral n).all isGraphic = true := by
  have hminus : isGraphic '-' = true := by decide
  cases n with
  | ofNat n => exact all_isGraphic_ofNat n
  | negSucc n => simp [numeral, hminus]

theorem all_isGraphic_padLeft (length : Nat) {fill : Char} {t : Text} (hf : isGraphic fill = true)
    (ht : t.all isGraphic = true) : (padLeft length fill t).all isGraphic = true := by
  simp [padLeft, hf, ht]

end Text

namespace Http
open Text (isGraphic)

namespace Status

@[simp] theorem all_isGraphic_phrase (code : Int) : (phrase code).all isGraphic = true := by
  have htable : ∀ entry ∈ phrases, entry.2.toList.all isGraphic = true := by decide +kernel
  unfold phrase
  cases h : phrases.lookup code with
  | none => rfl
  | some text =>
    obtain ⟨before, after, he, -⟩ := List.lookup_eq_some_iff.1 h
    exact htable (code, text) (by simp [he])

end Status
end Http

namespace Instant
open Text (isGraphic)

@[simp] theorem all_isGraphic_twoDigits (n : Nat) : (twoDigits n).all isGraphic = true :=
  Text.all_isGraphic_padLeft 2 (by decide) (Text.all_isGraphic_ofNat n)

@[simp] theorem all_isGraphic_fourDigits (n : Int) : (fourDigits n).all isGraphic = true :=
  Text.all_isGraphic_padLeft 4 (by decide) (Text.all_isGraphic_numeral n)

theorem all_isGraphic_getD {names : List String}
    (h : ∀ name ∈ names, name.toList.all isGraphic = true) (i : Nat) :
    (names.getD i "").toList.all isGraphic = true := by
  rw [List.getD_eq_getElem?_getD]
  cases hi : names[i]? with
  | none => rfl
  | some name => exact h name (List.mem_of_getElem? hi)

theorem all_isGraphic_dateText (c : CivilTime) : (dateText c).all isGraphic = true := by
  have hday : (weekdayNames.getD c.weekday "").toList.all isGraphic = true :=
    all_isGraphic_getD (by decide) _
  have hmonth : (monthNames.getD (c.month - 1) "").toList.all isGraphic = true :=
    all_isGraphic_getD (by decide) _
  have hblank : isGraphic ' ' = true := by decide
  have hcolon : isGraphic ':' = true := by decide
  have hzone : " GMT".toList.all isGraphic = true := by decide
  have hcomma : ", ".toList.all isGraphic = true := by decide
  simp only [dateText, timeOfDay, List.all_append, List.all_cons, hday, hmonth, hblank, hcolon,
    hzone, hcomma, all_isGraphic_twoDigits, all_isGraphic_fourDigits, Bool.and_self]

theorem all_isGraphic_httpDate {now : Instant} {date : Text} (h : now.httpDate = .ok date) :
    date.all isGraphic = true := by
  simp only [httpDate] at h
  split at h
  · cases h
  · split at h
    · cases h
    · split at h
      · rw [← Except.ok.inj h]
        exact all_isGraphic_dateText _
      · cases h

end Instant

namespace Http
open Text (isLatin1 isGraphic)

/-- A field that Latin-1 can write. -/
def IsLatin1Field (field : Text × Text) : Prop :=
  field.1.all isLatin1 = true ∧ field.2.all isLatin1 = true

theorem all_isLatin1_fieldLine {field : Text × Text} (h : IsLatin1Field field) :
    (fieldLine field).all isLatin1 = true := by
  have hcolon : ": ".toList.all isLatin1 = true := by decide
  have hend : lineEnd.all isLatin1 = true := by decide
  simp only [fieldLine, List.all_append, h.1, h.2, hcolon, hend, Bool.and_self]

def statusText (code : Int) (phrase : Text) : Text :=
  protocol ++ ' ' :: Text.numeral code ++ ' ' :: phrase

theorem codeLine_numeral (code : Int) (phrase : Text) :
    codeLine (Text.numeral code) phrase = statusText code phrase ++ lineEnd := by
  simp [codeLine, statusText]

theorem all_isGraphic_statusText (code : Int) :
    (statusText code (Status.phrase code)).all isGraphic = true := by
  have hprotocol : protocol.all isGraphic = true := by decide
  have hblank : isGraphic ' ' = true := by decide
  simp only [statusText, List.all_append, List.all_cons, hprotocol, hblank,
    Text.all_isGraphic_numeral, Status.all_isGraphic_phrase, Bool.and_self]

/-- The status of the response has not too many digits to be written. -/
def Response.IsNumbered (r : Response) : Prop := ∃ t, Text.ofInt r.status = .ok t

instance : DecidablePred Response.IsNumbered := fun r =>
  match h : Text.ofInt r.status with
  | .ok t => isTrue ⟨t, h⟩
  | .error _ => isFalse (by simp [Response.IsNumbered, h])

/-- A response whose head can be written: so can its status, and Latin-1 has all characters of its
fields. -/
structure Response.IsWritable (r : Response) : Prop where
  numbered : r.IsNumbered
  latin1 : ∀ field ∈ r.headers, IsLatin1Field field

/-- The server's own responses have small codes and no fields. -/
theorem Response.isWritable_of_lt (status : Nat) (h : status < 100000) (body : Bytes) :
    Response.IsWritable { status, body } := ⟨⟨_, Text.ofInt_of_lt h⟩, by simp⟩

namespace ResponseHead

def allFields (date : Text) (closing : Bool) (r : Response) : Headers :=
  fields date r ++ closeFields closing

def lines (date : Text) (closing : Bool) (r : Response) : List Text :=
  codeLine (Text.numeral r.status) (Status.phrase r.status) :: fieldLines date closing r

theorem lines_eq (date : Text) (closing : Bool) (r : Response) :
    lines date closing r =
      codeLine (Text.numeral r.status) (Status.phrase r.status) ::
        (allFields date closing r).map fieldLine ++ [lineEnd] := rfl

/-- The server's own fields are made of printable ASCII. -/
theorem isGraphic_of_mem_fields {date : Text} (hd : date.all isGraphic = true) {closing : Bool}
    {r : Response} {field : Text × Text} (h : field ∈ allFields date closing r) :
    field ∈ r.headers ∨ (field.1.all isGraphic = true ∧ field.2.all isGraphic = true) := by
  simp only [allFields, fields, closeFields, commonFields, List.mem_append, List.mem_cons, List.not_mem_nil, or_false] at h
  have hdate : "Date".toList.all isGraphic = true := by decide
  have hlength : "Content-Length".toList.all isGraphic = true := by decide
  rcases h with (((rfl | rfl) | h) | rfl) | h
  · exact Or.inr ⟨by decide, by decide⟩
  · exact Or.inr ⟨hdate, hd⟩
  · exact Or.inl h
  · exact Or.inr ⟨hlength, Text.all_isGraphic_ofNat _⟩
  · cases closing with
    | false => cases h
    | true =>
      rw [List.mem_singleton.1 h]
      exact Or.inr ⟨by decide, by decide⟩

theorem encodeLines_of_isLatin1 {ls : List Text} (h : ∀ line ∈ ls, line.all isLatin1 = true) :
    encodeLines ls = .ok (ls.flatten.map Text.toByte) := by
  induction ls with
  | nil => rfl
  | cons line ls ih =>
    have hline : encodeLine line = .ok (line.map Text.toByte) := by
      rw [encodeLine_ok_iff, Text.toLatin1, if_pos (h line (by simp))]
    have hrest := ih fun l hl => h l (by simp [hl])
    rw [encodeLines_cons_ok hline hrest, List.flatten_cons, List.map_append]

theorem isLatin1_of_encodeLines {ls : List Text} {bytes : Bytes}
    (h : encodeLines ls = .ok bytes) : ∀ line ∈ ls, line.all isLatin1 = true := by
  induction ls generalizing bytes with
  | nil => simp
  | cons line ls ih =>
    simp only [encodeLines] at h
    cases hline : encodeLine line with
    | error fault => simp [hline] at h
    | ok front =>
      cases hrest : encodeLines ls with
      | error fault => simp [hline, hrest] at h
      | ok back =>
        intro other ho
        rcases List.mem_cons.1 ho with rfl | ho
        · rw [encodeLine_ok_iff, Text.toLatin1] at hline
          split at hline
          · assumption
          · cases hline
        · exact ih hrest other ho

theorem statusBytes_of_isNumbered {r : Response} (h : r.IsNumbered) :
    statusBytes r =
      .ok ((codeLine (Text.numeral r.status) (Status.phrase r.status)).map Text.toByte) := by
  obtain ⟨t, ht⟩ := h
  have hline : (codeLine (Text.numeral r.status) (Status.phrase r.status)).all isLatin1 = true := by
    rw [codeLine_numeral, List.all_append,
      Text.all_isLatin1_of_isGraphic (all_isGraphic_statusText r.status)]
    decide
  rw [statusBytes, statusLine, ht, Text.eq_numeral_of_ofInt ht]
  exact encodeLine_ok_iff.2 (by rw [Text.toLatin1, if_pos hline])

theorem exists_error_of_not_isNumbered {r : Response} (h : ¬r.IsNumbered) :
    ∃ fault, statusBytes r = .error fault := by
  cases ht : Text.ofInt r.status with
  | ok t => exact absurd ⟨t, ht⟩ h
  | error e => exact ⟨Fault.unwritten e, by simp [statusBytes, statusLine, ht, Fault.written, Except.map]⟩

theorem isLatin1Field_of_encodeLines {date : Text} {closing : Bool} {r : Response} {bytes : Bytes}
    (h : encodeLines (fieldLines date closing r) = .ok bytes) :
    ∀ field ∈ r.headers, IsLatin1Field field := by
  intro field hf
  have hmem : fieldLine field ∈ fieldLines date closing r := by
    refine List.mem_append_left _ (List.mem_map_of_mem ?_)
    simp [fields, hf]
  have hline := isLatin1_of_encodeLines h _ hmem
  simp only [fieldLine, List.all_append, Bool.and_eq_true] at hline
  exact ⟨hline.1.1.1, hline.1.2⟩

theorem encodeLines_of_isWritable {date : Text} (hd : date.all isGraphic = true)
    (closing : Bool) {r : Response} (h : r.IsWritable) :
    encodeLines (fieldLines date closing r) =
      .ok ((fieldLines date closing r).flatten.map Text.toByte) := by
  apply encodeLines_of_isLatin1
  have hown : ∀ field ∈ allFields date closing r, IsLatin1Field field := by
    intro field hf
    rcases isGraphic_of_mem_fields hd hf with hm | ⟨hname, hvalue⟩
    · exact h.latin1 field hm
    · exact ⟨Text.all_isLatin1_of_isGraphic hname, Text.all_isLatin1_of_isGraphic hvalue⟩
  intro line hl
  rcases List.mem_append.1 hl with hl | hl
  · obtain ⟨field, hf, rfl⟩ := List.mem_map.1 hl
    exact all_isLatin1_fieldLine (hown field hf)
  · rw [List.mem_singleton.1 hl]
    decide

/-- Fields with other names have no say in whether the connection goes on. -/
theorem closingAfter_of_silent {headers : Headers}
    (h : ∀ field ∈ headers, Text.lower field.1 ≠ "connection".toList) (closing : Bool) :
    closingAfter closing headers = closing := by
  induction headers with
  | nil => rfl
  | cons field headers ih =>
    have hfield : afterField closing field = closing := by
      rw [afterField, if_neg (h field (by simp))]
    have hrest := ih fun f hf => h f (by simp [hf])
    rw [closingAfter, List.foldl_cons, hfield]
    exact hrest

end ResponseHead
end Http
end GreetingServer
