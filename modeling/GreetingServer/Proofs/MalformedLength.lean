import GreetingServer.Proofs.Framing
import GreetingServer.Proofs.SentResponse

/-! Lengths that are not told in ASCII digits. A request with such a length is refused as a bad one,
and the connection ends. The exception are superscripts: they count as digits, but no number is read
from them, so that the request fails like one that the server has a fault with, and the connection
goes on behind its head. -/
namespace GreetingServer

namespace Text

theorem mem_of_mem_trimLeft {drops : Char → Bool} {t : Text} {c : Char} (h : c ∈ trimLeft drops t) :
    c ∈ t := (List.dropWhile_sublist drops).mem h

theorem mem_of_mem_trimRight {drops : Char → Bool} {t : Text} {c : Char}
    (h : c ∈ trimRight drops t) : c ∈ t := by
  rw [trimRight, List.mem_reverse] at h
  exact List.mem_reverse.1 ((List.dropWhile_sublist drops).mem h)

theorem mem_of_mem_strip {t : Text} {c : Char} (h : c ∈ strip t) : c ∈ t :=
  mem_of_mem_trimLeft (mem_of_mem_trimRight h)

theorem mem_of_mem_lines {t line : Text} {c : Char} (hl : line ∈ lines t) (h : c ∈ line) :
    c ∈ t := by
  rw [← flatten_lines t]
  exact List.mem_flatten.2 ⟨line, hl, h⟩

theorem isDigit_of_decimalValue? {c : Char} (hc : isLatin1 c = true) {n : Nat}
    (h : decimalValue? c = some n) : c.isDigit = true := by
  obtain ⟨first, hfind, -⟩ := Option.map_eq_some_iff.1 h
  have hzeros : ∀ n ∈ zeros, n = 48 ∨ 256 ≤ n := by decide
  have hrange := List.find?_some hfind
  have hfirst := hzeros first (List.mem_of_find?_eq_some hfind)
  simp only [isLatin1, decide_eq_true_eq] at hc
  simp only [Bool.and_eq_true, decide_eq_true_eq] at hrange
  have hcode : 48 ≤ c.toNat ∧ c.toNat ≤ 57 := by omega
  simpa [Char.isDigit, UInt32.le_iff_toNat_le] using hcode

/-- No number is read from a text with a character that has no decimal value. -/
theorem readNat_of_mem {t : Text} {c : Char} (h : c ∈ t) (hc : isNumeralChar c = false) :
    ∃ e, readNat t = .error e := by
  have hshort : (t.takeWhile isNumeralChar).length < t.length := by
    have hle : (t.takeWhile isNumeralChar).length ≤ t.length := (List.takeWhile_sublist _).length_le
    refine Nat.lt_of_le_of_ne hle fun he => ?_
    have hall := List.takeWhile_eq_self_iff.1 ((List.takeWhile_prefix _).eq_of_length he)
    rw [hall c h] at hc
    cases hc
  simp only [readNat, if_pos hshort]
  split
  · exact ⟨_, rfl⟩
  · split <;> exact ⟨_, rfl⟩

end Text

namespace Http

namespace FieldLine

theorem mem_of_mem_field {line : Text} {continuations : List Text} {c : Char}
    (h : c ∈ (field line continuations).2) : c ∈ line ∨ ∃ more ∈ continuations, c ∈ more := by
  rcases List.mem_append.1 (Text.mem_of_mem_trimRight h) with hc | hc
  · have hdrop := List.mem_of_mem_drop (Text.mem_of_mem_trimLeft hc)
    exact Or.inl ((List.dropWhile_sublist _).mem hdrop)
  · obtain ⟨more, hmore, hc⟩ := List.mem_flatten.1 hc
    exact Or.inr ⟨more, hmore, hc⟩

theorem mem_of_mem_takeLine {lines : List Text} :
    (∀ more ∈ (lines.foldr takeLine ([], [])).1, more ∈ lines) ∧
      ∀ f ∈ (lines.foldr takeLine ([], [])).2, ∀ c ∈ f.2, ∃ line ∈ lines, c ∈ line := by
  induction lines with
  | nil => exact ⟨by simp, by simp⟩
  | cons line lines ih =>
    obtain ⟨hmore, hfields⟩ := ih
    have hold : ∀ f ∈ (lines.foldr takeLine ([], [])).2, ∀ c ∈ f.2, ∃ l ∈ line :: lines, c ∈ l := by
      intro f hf c hc
      obtain ⟨l, hl, hcl⟩ := hfields f hf c hc
      exact ⟨l, List.mem_cons_of_mem line hl, hcl⟩
    rw [List.foldr_cons, takeLine]
    split
    · refine ⟨?_, hold⟩
      intro more hm
      rcases List.mem_cons.1 hm with rfl | hm
      · exact List.mem_cons_self
      · exact List.mem_cons_of_mem line (hmore more hm)
    · split
      · exact ⟨by simp, hold⟩
      · refine ⟨by simp, ?_⟩
        intro f hf c hc
        rcases List.mem_cons.1 hf with rfl | hf
        · rcases mem_of_mem_field hc with hc | ⟨more, hm, hc⟩
          · exact ⟨line, List.mem_cons_self, hc⟩
          · exact ⟨more, List.mem_cons_of_mem line (hmore more hm), hc⟩
        · exact hold f hf c hc

end FieldLine

theorem HeaderBlock.mem_of_mem_parse {block : Text} {field : Text × Text}
    (hf : field ∈ parse block) {c : Char} (hc : c ∈ field.2) : c ∈ block := by
  obtain ⟨line, hl, hcl⟩ := FieldLine.mem_of_mem_takeLine.2 field hf c hc
  exact Text.mem_of_mem_lines ((List.takeWhile_sublist _).mem hl) hcl

theorem HeaderBlock.isLatin1_of_read {line : RequestLine} {s t : Source} {headers : Headers}
    (h : read line s = .ok (headers, t)) {field : Text × Text} (hf : field ∈ headers) :
    ∀ c ∈ field.2, Text.isLatin1 c = true := by
  obtain ⟨lines, -, ha⟩ := exists_readLines_of_read h
  unfold accept at ha
  split at ha
  · cases ha
  · obtain rfl := Except.ok.inj ha
    intro c hc
    obtain ⟨b, -, rfl⟩ := List.mem_map.1 (mem_of_mem_parse hf hc)
    exact Text.isLatin1_ofByte b

theorem Head.isLatin1_of_read {s t : Source} {head : Head} (h : read s = .ok (head, t))
    {name value : Text} (hv : head.headers.first? name = some value) :
    ∀ c ∈ value, Text.isLatin1 c = true := by
  obtain ⟨field, hfield, rfl⟩ := List.mem_map.1 (List.mem_of_mem_head? hv)
  obtain ⟨u, -, hblock⟩ := exists_readRequestLine_of_read h
  exact HeaderBlock.isLatin1_of_read hblock (List.mem_filter.1 hfield).1

namespace ContentLength

/-- The value, without the blanks around it, is no number in ASCII digits. -/
def IsIrregular (value : Text) : Prop :=
  Text.strip value = [] ∨ ∃ c ∈ Text.strip value, c.isDigit = false

/-- Digits that are not ASCII make no number, although they are digits. -/
theorem ofHeaders_of_superscript {headers : Headers} {value : Text}
    (hv : headers.first? fieldName = some value) (hl : ∀ c ∈ value, Text.isLatin1 c = true)
    (hi : IsIrregular value) (hm : ¬IsMalformed headers) :
    (∃ c ∈ Text.strip value, Text.decimalValue? c = none) ∧
      ∃ e, ofHeaders headers = .error (Fault.ofNumeral (Text.strip value) e) := by
  have hne : Text.strip value ≠ [] := fun he => hm ⟨value, hv, Or.inl he⟩
  have hdigits : ∀ c ∈ Text.strip value, Text.isDigit c = true := by
    intro c hc
    by_contra hd
    exact hm ⟨value, hv, Or.inr ⟨c, hc, by simpa using hd⟩⟩
  obtain ⟨c, hc, hascii⟩ := hi.resolve_left hne
  have hvalue : Text.decimalValue? c = none := by
    cases hsome : Text.decimalValue? c with
    | none => rfl
    | some n =>
      rw [Text.isDigit_of_decimalValue? (hl c (Text.mem_of_mem_strip hc)) hsome] at hascii
      cases hascii
  have hunderscore : c ≠ '_' := by
    rintro rfl
    exact absurd (hdigits '_' hc) (by decide)
  obtain ⟨e, he⟩ := Text.readNat_of_mem hc (by simp [Text.isNumeralChar, hvalue, hunderscore])
  refine ⟨⟨c, hc, hvalue⟩, e, ?_⟩
  have hempty : (Text.strip value).isEmpty = false := List.isEmpty_eq_false_iff.2 hne
  rw [ofHeaders_of_first? hv, ofValue, hempty, List.all_eq_true.2 hdigits]
  simp only [he, Bool.not_true, Bool.or_false, Bool.false_eq_true, if_false]

end ContentLength
end Http

namespace Connection
open Http.ContentLength (fieldName IsMalformed IsIrregular)
variable {site : Site} {head : Http.Head} {date : Text}

def refusalBody (value : Text) : Bytes :=
  Http.utf8 ("Bad Request: invalid Content-Length: ".toList ++ Text.quoted value)

def refusalHead (date : Text) (length : Nat) : Text :=
  ["HTTP/1.1 400 Bad Request\r\n".toList, "Server: BaseHTTP/0.6 Python/3.11.2\r\n".toList,
    "Date: ".toList ++ date ++ "\r\n".toList,
    "Content-Length: ".toList ++ Text.ofNat length ++ "\r\n".toList,
    "Connection: close\r\n".toList, "\r\n".toList].flatten

/-- A connection whose first request is refused: one response is sent, and no handler is called,
nothing is logged, and no further request is read. -/
structure IsRefused (site : Site) (head : Http.Head) (value : Text) (s : Source) : Prop where
  next_eq : (exchange site s).next = none
  serve_eq : ∃ date, site.now.httpDate = .ok date ∧
    serve site s Sink.unlimited =
      { sent := interimBytes head ++
          (refusalHead date (refusalBody value).length).map Text.toByte ++
            if head.line.isHead then [] else refusalBody value }

theorem flatten_lines_refusal (date : Text) (body : Bytes) :
    (Http.ResponseHead.lines date true { status := 400, body }).flatten =
      refusalHead date body.length := by
  have hlines : Http.ResponseHead.lines date true { status := 400, body } =
      [Http.codeLine (Text.numeral 400) (Http.Status.phrase 400),
        Http.fieldLine ("Server".toList, Http.serverName),
        Http.fieldLine ("Date".toList, date), Http.fieldLine (Http.lengthField body),
        Http.fieldLine Http.closeField, Http.lineEnd] := rfl
  have hstatus : Http.codeLine (Text.numeral 400) (Http.Status.phrase 400) =
      "HTTP/1.1 400 Bad Request\r\n".toList := by decide
  have hserver : Http.fieldLine ("Server".toList, Http.serverName) =
      "Server: BaseHTTP/0.6 Python/3.11.2\r\n".toList := by decide
  have hdate : Http.fieldLine ("Date".toList, date) =
      "Date: ".toList ++ date ++ "\r\n".toList := rfl
  have hlength : Http.fieldLine (Http.lengthField body) =
      "Content-Length: ".toList ++ Text.ofNat body.length ++ "\r\n".toList := rfl
  have hclose : Http.fieldLine Http.closeField = "Connection: close\r\n".toList := by decide
  rw [hlines, hstatus, hserver, hdate, hlength, hclose]
  rfl

theorem rejectBadRequest_malformed (site : Site) (head : Http.Head) (value : Text) (s : Source) :
    rejectBadRequest site head (Http.ContentLength.malformed value) s =
      respond site head true (some (Http.ContentLength.malformed value))
        { status := 400, body := refusalBody value } s := by
  have htold : (Http.ContentLength.malformed value).IsTold
      ("invalid Content-Length: ".toList ++ Text.quoted value) := rfl
  rw [rejectBadRequest_eq ⟨_, htold⟩, refusalResponse, htold.message_eq, refusalBody]
  rfl

theorem isRefused_of_isMalformed (hd : site.now.httpDate = .ok date) {s t : Source}
    (hr : Http.Head.read s = .ok (head, t)) (hbare : head.line.isBare = false) {value : Text}
    (hv : head.headers.first? fieldName = some value) (hm : IsMalformed head.headers) :
    IsRefused site head (Text.strip value) s := by
  have hwritable : Http.Response.IsWritable
      { status := 400, body := refusalBody (Text.strip value) } :=
    Http.Response.isWritable_of_lt 400 (by decide) _
  have hanswer : answer site head t =
      respond site head true (some (Http.ContentLength.malformed (Text.strip value)))
        { status := 400, body := refusalBody (Text.strip value) } t := by
    obtain ⟨told, htold, hlength⟩ := Http.ContentLength.ofHeaders_of_isMalformed hm
    obtain rfl : value = told := Option.some.inj (hv.symm.trans htold)
    simp only [answer, hlength, rejectBadRequest_malformed]
    rfl
  obtain ⟨hsent, hnext⟩ := outcome_respond hd hwritable head true
    (some (Http.ContentLength.malformed (Text.strip value))) t
  rw [← hanswer] at hsent hnext
  have hend : (exchange site s).next = none := by
    rw [next_exchange_of_read site hr, hnext]
    rfl
  refine ⟨hend, date, hd, ?_⟩
  rw [serve_of_next_none hend, outcome_exchange hr, hsent]
  simp [responseBytes, hbare, flatten_lines_refusal, Record.append_eq, Record.append]

/-- A failure is logged, and so something else has come of the connection than a response. -/
theorem not_isRefused_of_fail {s t : Source} (hr : Http.Head.read s = .ok (head, t))
    {fault : Fault} (hf : fault.IsNews)
    (ha : answer site head t = fail site head head.isClosing fault t) (value : Text) :
    ¬IsRefused site head value s := by
  rintro ⟨hend, date, hd, hserve⟩
  have hlogs := congrArg Record.logs hserve
  rw [serve_of_next_none hend, outcome_exchange hr, ha,
    fail_eq hf.isInterrupt hf.isTellable] at hlogs
  simp [outcome, requestError, Delivery.perform, Record.append_eq, Record.append,
    Record.addLog] at hlogs

theorem answer_of_superscript (site : Site) {s t : Source}
    (hr : Http.Head.read s = .ok (head, t)) {value : Text}
    (hv : head.headers.first? fieldName = some value) (hi : IsIrregular value)
    (hm : ¬IsMalformed head.headers) :
    (∃ c ∈ Text.strip value, Text.decimalValue? c = none) ∧
      ∃ e, answer site head t = fail site head head.isClosing
        (Fault.ofNumeral (Text.strip value) e) t := by
  obtain ⟨hc, e, he⟩ := Http.ContentLength.ofHeaders_of_superscript hv
    (Http.Head.isLatin1_of_read hr hv) hi hm
  refine ⟨hc, e, ?_⟩
  simp only [answer, he]
  cases e <;> rfl

/-- A length that is told, but not in ASCII digits. The request is refused exactly if the date can
be told and there is nothing in the value or a character that is no digit. Otherwise some of its
digits are superscripts, and the request fails, whereupon the connection goes on right behind its
head if the request does not end it. -/
theorem isRefused_iff (site : Site) {s t : Source} (hr : Http.Head.read s = .ok (head, t))
    (hbare : head.line.isBare = false) {value : Text}
    (hv : head.headers.first? fieldName = some value) (hi : IsIrregular value) :
    (IsRefused site head (Text.strip value) s ↔ ¬Undated site ∧ IsMalformed head.headers) ∧
      (¬IsMalformed head.headers →
        (∃ c ∈ Text.strip value, Text.decimalValue? c = none) ∧
          ∃ e, answer site head t = fail site head head.isClosing
            (Fault.ofNumeral (Text.strip value) e) t) := by
  refine ⟨⟨?_, ?_⟩, answer_of_superscript site hr hv hi⟩
  · intro hrefused
    refine ⟨?_, ?_⟩
    · obtain ⟨date, hd, -⟩ := hrefused.serve_eq
      rintro ⟨fault, hf⟩
      rw [hd] at hf
      cases hf
    · by_contra hm
      obtain ⟨-, e, he⟩ := answer_of_superscript site hr hv hi hm
      exact not_isRefused_of_fail hr (Fault.isNews_ofNumeral _ e) he _ hrefused
  · rintro ⟨hd, hm⟩
    cases hdate : site.now.httpDate with
    | error fault => exact absurd ⟨fault, hdate⟩ hd
    | ok date => exact isRefused_of_isMalformed hdate hr hbare hv hm

/-- A sign makes the request a bad one, and what follows it is not read. -/
theorem isRefused_greeting :
    IsRefused Greeting.site (uploadHead "+3".toList).head "+3".toList
      ⟨(uploadHead "+3".toList).bytes ++ getBytes, none⟩ := by
  have hplain : (uploadHead "+3".toList).IsPlain :=
    isPlain_uploadHead ⟨by decide, List.all_eq_true.1 (by decide), List.all_eq_true.1 (by decide),
      by decide, by decide⟩
  have hread := hplain.read_eq getBytes none
  have hmalformed : IsMalformed (uploadHead "+3".toList).head.headers :=
    ⟨"+3".toList, rfl, Or.inr ⟨'+', by decide, by decide⟩⟩
  have hirregular : IsIrregular "+3".toList := Or.inr ⟨'+', by decide, by decide⟩
  have hdated : ¬Undated Greeting.site := by
    rintro ⟨f, hf⟩
    cases hf
  have hiff := isRefused_iff Greeting.site hread (Http.WrittenHead.isBare_head _) rfl hirregular
  exact hiff.1.2 ⟨hdated, hmalformed⟩

/-- A superscript is no ASCII digit, and still the request is not refused: it fails, and the next
request is read right behind its head. -/
theorem not_isRefused_superscript :
    Http.Head.read ⟨(uploadHead ['²']).bytes ++ getBytes, none⟩ =
        .ok ((uploadHead ['²']).head, ⟨getBytes, none⟩) ∧
      (uploadHead ['²']).head.line.isBare = false ∧
      (uploadHead ['²']).head.headers.first? fieldName = some ['²'] ∧ IsIrregular ['²'] ∧
      ¬IsRefused Greeting.site (uploadHead ['²']).head ['²']
        ⟨(uploadHead ['²']).bytes ++ getBytes, none⟩ ∧
      (exchange Greeting.site ⟨(uploadHead ['²']).bytes ++ getBytes, none⟩).next =
        some ⟨getBytes, none⟩ := by
  have hplain : (uploadHead ['²']).IsPlain :=
    isPlain_uploadHead ⟨by decide, List.all_eq_true.1 (by decide), List.all_eq_true.1 (by decide),
      by decide, by decide⟩
  have hread := hplain.read_eq getBytes none
  have hirregular : IsIrregular ['²'] := Or.inr ⟨'²', by decide, by decide⟩
  have hdigits : ¬IsMalformed (uploadHead ['²']).head.headers := by
    have hstrip : Text.strip ['²'] = ['²'] := by decide
    rintro ⟨value, hv, hm⟩
    obtain rfl : ['²'] = value := Option.some.inj hv
    rw [hstrip] at hm
    rcases hm with he | ⟨c, hc, hd⟩
    · cases he
    · obtain rfl := List.mem_singleton.1 hc
      rw [Text.isDigit_superscript] at hd
      cases hd
  have hdated : ¬Undated Greeting.site := by
    rintro ⟨f, hf⟩
    cases hf
  obtain ⟨-, e, he⟩ := answer_of_superscript Greeting.site hread rfl hirregular hdigits
  have hnews := Fault.isNews_ofNumeral (Text.strip ['²']) e
  refine ⟨hread, Http.WrittenHead.isBare_head _, rfl, hirregular, ?_, ?_⟩
  · exact not_isRefused_of_fail hread hnews he _
  · have hopen : (uploadHead ['²']).head.isClosing = false := by decide
    rw [next_exchange_of_read Greeting.site hread, he]
    exact next_fail_eq_some hnews.isInterrupt hnews.isTellable hdated hopen _

end Connection
end GreetingServer
