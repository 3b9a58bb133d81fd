import GreetingServer.Http.Message
import GreetingServer.Proofs.AnnouncedLength
import GreetingServer.Proofs.Routing
import GreetingServer.RemoteAddress

/-! Requests as peers write them: a head, which announces the length of the body, and the body. None
of the fields of such a request has a say in how it is answered, except the one about the length. -/
namespace GreetingServer
namespace Http

namespace Headers

theorem values_eq_nil {headers : Headers} {name : Text}
    (h : ∀ field ∈ headers, Text.lower field.1 ≠ Text.lower name) : headers.values name = [] := by
  rw [values, List.map_eq_nil_iff, List.filter_eq_nil_iff]
  intro field hf
  simpa [sameName] using h field hf

end Headers

/-- A request as a peer writes it; the announcement of its body's length comes last in its head. -/
structure WrittenRequest where
  method : Text
  target : Text
  fields : Headers
  body : Bytes
  deriving Repr, DecidableEq

namespace WrittenRequest

def writtenHead (r : WrittenRequest) : WrittenHead :=
  ⟨r.method, r.target, r.fields ++ [lengthField r.body]⟩

def bytes (r : WrittenRequest) : Bytes := r.writtenHead.bytes ++ r.body

def path (r : WrittenRequest) : Text := (Text.cut (fun c => c = '?' || c = '#') r.target).1

def seen (r : WrittenRequest) (peer : Peer) : Request where
  method := r.method
  path := r.path
  headers := r.fields ++ [lengthField r.body]
  remoteAddress := peer.text

/-- Names, in lower case, of fields that have a say in how the request is read and answered. -/
def reservedNames : List Text :=
  ["content-length", "content-type", "transfer-encoding", "connection", "expect"].map (·.toList)

/-- The request can be read back: its words are visible, its fields have different names, none of
them reserved, and its lines are neither too long nor too many. -/
structure IsPlain (r : WrittenRequest) : Prop where
  method_ne_nil : r.method ≠ []
  method : ∀ c ∈ r.method, Text.isVisible c = true
  target : ∃ rest, r.target = '/' :: rest ∧ rest.head? ≠ some '/' ∧
    ∀ c ∈ rest, Text.isVisible c = true
  fields : ∀ field ∈ r.fields, IsPlainField field
  distinct : (r.fields.map (·.1)).Nodup
  free : ∀ field ∈ r.fields, Text.lower field.1 ∉ reservedNames
  short : r.writtenHead.firstLine.length ≤ HeaderBlock.lineLimit
  few : r.fields.length + 1 < HeaderBlock.lineCountLimit
  /-- The length of the body is a numeral that is read: it is less than ten to the power of 4300. -/
  countable : (Text.ofNat r.body.length).length ≤ Text.digitLimit

variable {r : WrittenRequest}

@[simp] theorem name_lengthField (body : Bytes) :
    (lengthField body).1 = ContentLength.fieldName := rfl

@[simp] theorem value_lengthField (body : Bytes) :
    (lengthField body).2 = Text.ofNat body.length := rfl

theorem lower_fieldName : Text.lower ContentLength.fieldName = "content-length".toList := by decide

namespace IsPlain

theorem values_eq_nil (h : IsPlain r) {name : Text} (hn : Text.lower name ∈ reservedNames)
    (hl : Text.lower name ≠ "content-length".toList) :
    (r.fields ++ [lengthField r.body]).values name = [] := by
  apply Headers.values_eq_nil
  intro field hf he
  rcases List.mem_append.1 hf with hf | hf
  · exact h.free field hf (he ▸ hn)
  · rw [List.mem_singleton.1 hf] at he
    exact hl (he.symm.trans lower_fieldName)

theorem announces (h : IsPlain r) :
    ContentLength.Announces r.writtenHead.head.headers r.body.length := by
  have hnone : r.fields.values ContentLength.fieldName = [] := by
    apply Headers.values_eq_nil
    intro field hf he
    apply h.free field hf
    rw [he]
    decide
  have hown : Headers.values [lengthField r.body] ContentLength.fieldName =
      [Text.ofNat r.body.length] := rfl
  have hfirst : r.writtenHead.head.headers.first? ContentLength.fieldName =
      some (Text.ofNat r.body.length) := by
    have hvalues := Headers.values_append r.fields [lengthField r.body] ContentLength.fieldName
    rw [hnone, hown] at hvalues
    rw [Headers.first?]
    exact congrArg List.head? hvalues
  have hnum := Text.isNumeral_ofNat r.body.length
  refine .told hfirst ?_ ?_
  · rw [hnum.strip_eq]
    exact hnum
  · rw [hnum.strip_eq]
    exact h.countable

theorem lengthField_isPlainField (h : IsPlain r) : IsPlainField (lengthField r.body) where
  name_ne_nil := by
    rw [name_lengthField]
    decide
  name := by
    rw [name_lengthField]
    exact List.all_eq_true.1 (by decide)
  value c hc := by
    have hb := Text.toNat_of_isDigit (Text.isDigit_of_mem_ofNat hc)
    simp only [isValueChar, Bool.or_eq_true, Bool.and_eq_true, decide_eq_true_eq]
    omega
  value_start hs := by
    have hd := Text.isDigit_of_mem_ofNat (List.mem_of_mem_head? hs)
    exact absurd hd (by decide)
  short := by
    have hc := h.countable
    have hname : ContentLength.fieldName.length = 14 := by decide
    have hcolon : ": ".toList.length = 2 := by decide
    have hend : lineEnd.length = 2 := by decide
    rw [fieldLine, name_lengthField, value_lengthField, List.length_append, List.length_append,
      List.length_append, hname, hcolon, hend]
    unfold Text.digitLimit at hc
    unfold HeaderBlock.lineLimit
    omega

theorem writtenHead_isPlain (h : IsPlain r) : r.writtenHead.IsPlain where
  method_ne_nil := h.method_ne_nil
  method := h.method
  target := h.target
  fields field hf := by
    rcases List.mem_append.1 hf with hf | hf
    · exact h.fields field hf
    · rw [List.mem_singleton.1 hf]
      exact h.lengthField_isPlainField
  untyped := by
    have hv : (r.fields ++ [lengthField r.body]).values Mime.MediaType.contentTypeField = [] :=
      h.values_eq_nil (by decide) (by decide)
    exact congrArg List.head? hv
  short := h.short
  few := by
    have hf := h.few
    simpa [writtenHead] using hf

theorem lowered_eq_nil (h : IsPlain r) {name : Text} (hn : Text.lower name ∈ reservedNames)
    (hl : Text.lower name ≠ "content-length".toList) : r.writtenHead.head.lowered name = [] := by
  have hv : r.writtenHead.head.headers.first? name = none :=
    congrArg List.head? (h.values_eq_nil hn hl)
  rw [Head.lowered, hv]
  rfl

theorem isClosing_eq (h : IsPlain r) : r.writtenHead.head.isClosing = false := by
  have hwish : r.writtenHead.head.lowered "Connection".toList = [] :=
    h.lowered_eq_nil (by decide) (by decide)
  simp only [Head.isClosing, hwish]
  rfl

theorem expectsContinue_eq (h : IsPlain r) : r.writtenHead.head.expectsContinue = false := by
  have hwish : r.writtenHead.head.lowered "Expect".toList = [] :=
    h.lowered_eq_nil (by decide) (by decide)
  simp only [Head.expectsContinue, hwish]
  rfl

theorem hasTransferCoding_eq (h : IsPlain r) : r.writtenHead.head.hasTransferCoding = false := by
  have hv : (r.fields ++ [lengthField r.body]).values "Transfer-Encoding".toList = [] :=
    h.values_eq_nil (by decide) (by decide)
  rw [Headers.values, List.map_eq_nil_iff, List.filter_eq_nil_iff] at hv
  rw [Head.hasTransferCoding, Headers.has, Bool.eq_false_iff]
  intro hany
  obtain ⟨field, hf, hs⟩ := List.any_eq_true.1 hany
  exact hv field hf hs

theorem toMap_eq (h : IsPlain r) :
    (r.fields ++ [lengthField r.body]).toMap = r.fields ++ [lengthField r.body] := by
  have hlast : (lengthField r.body).1 ∉ r.fields.map (·.1) := by
    intro hm
    obtain ⟨field, hf, he⟩ := List.mem_map.1 hm
    apply h.free field hf
    rw [he, name_lengthField]
    decide
  have hnodup : (Ordered.keys ([] ++ (r.fields ++ [lengthField r.body]))).Nodup := by
    rw [List.nil_append, Ordered.keys, List.map_append, List.nodup_append]
    refine ⟨h.distinct, by simp, ?_⟩
    rintro a ha b hb rfl
    obtain rfl : a = (lengthField r.body).1 := by simpa using hb
    exact hlast ha
  exact Ordered.putAll_of_nodup hnodup

end IsPlain
end WrittenRequest
end Http
end GreetingServer
