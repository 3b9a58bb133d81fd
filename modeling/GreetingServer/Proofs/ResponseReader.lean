import GreetingServer.Proofs.HeadReader
import GreetingServer.Proofs.SentResponse
import GreetingServer.Proofs.WrittenRequest

/-! Responses as peers read them. A peer takes the head of a response, and behind it as many bytes
as the head tells, or none if it has asked for the head alone. A response with legible fields is
read back from its bytes, and not a byte behind it is looked at, whatever its body is. -/
namespace GreetingServer
namespace Http
open Text (isInner isGraphic toByte)

structure WireResponse where
  status : Int
  fields : Headers
  body : Bytes
  deriving Repr, DecidableEq

namespace WireResponse

def lengthOf? (fields : Headers) : Option Nat :=
  (fields.first? ContentLength.fieldName).map fun value => Nat.ofDigitChars 10 value 0

def read? (headOnly : Bool) (bytes : Bytes) : Option (WireResponse × Bytes) :=
  match takeHead? bytes with
  | some (first :: lines, behind) =>
    let fields := lines.map fieldOfLine
    match if headOnly then some 0 else lengthOf? fields with
    | some length =>
      if behind.length < length then none
      else some (⟨statusOfLine first, fields, behind.take length⟩, behind.drop length)
    | none => none
  | _ => none

/-- The responses that some bytes are made of, to requests of which it is known whether they ask
for the head alone. There may be less responses than requests. -/
def readAll? : List Bool → Bytes → Option (List WireResponse)
  | _, [] => some []
  | [], _ :: _ => none
  | headOnly :: more, bytes =>
    match read? headOnly bytes with
    | some (response, behind) => (readAll? more behind).map (response :: ·)
    | none => none

end WireResponse

def ownNames : List Text := ["Server", "Date", "Content-Length", "Connection"].map (·.toList)

def isOwnName (name : Text) : Bool := ownNames.any fun own => Headers.sameName own name

/-- A field of a response that comes through as it is: Latin-1 without line ends, no colon in the
name, and not a name of the server's own fields. -/
structure IsLegibleField (field : Text × Text) : Prop where
  name : ∀ c ∈ field.1, isInner c = true ∧ c ≠ ':'
  value : ∀ c ∈ field.2, isInner c = true
  free : isOwnName field.1 = false

instance : DecidablePred IsLegibleField := fun field =>
  decidable_of_iff ((field.1.all fun c => isInner c && c != ':') = true ∧
      field.2.all isInner = true ∧ isOwnName field.1 = false) <| by
    simp only [List.all_eq_true, Bool.and_eq_true, bne_iff_ne]
    exact ⟨fun h => ⟨h.1, h.2.1, h.2.2⟩, fun h => ⟨h.name, h.value, h.free⟩⟩

theorem IsLegibleField.isInner {field : Text × Text} (h : IsLegibleField field) :
    ∀ c ∈ field.1 ++ field.2, isInner c = true := by
  intro c hc
  rcases List.mem_append.1 hc with hc | hc
  · exact (h.name c hc).1
  · exact h.value c hc

theorem IsLegibleField.isLatin1Field {field : Text × Text} (h : IsLegibleField field) :
    IsLatin1Field field :=
  ⟨List.all_eq_true.2 fun c hc => Text.isLatin1_of_isInner (h.name c hc).1,
    List.all_eq_true.2 fun c hc => Text.isLatin1_of_isInner (h.value c hc)⟩

namespace ResponseHead
variable {date : Text} {closing : Bool} {r : Response}

def IsOwnField (date : Text) (body : Bytes) (field : Text × Text) : Prop :=
  field ∈ commonFields date ∨ field = lengthField body ∨ field = closeField

theorem IsOwnField.name_mem {body : Bytes} {field : Text × Text}
    (h : IsOwnField date body field) : field.1 ∈ ownNames := by
  have hserver : "Server".toList ∈ ownNames := by decide
  have hdate : "Date".toList ∈ ownNames := by decide
  have hlength : "Content-Length".toList ∈ ownNames := by decide
  have hclose : closeField.1 ∈ ownNames := by decide
  simp only [IsOwnField, commonFields, List.mem_cons, List.not_mem_nil, or_false] at h
  rcases h with (rfl | rfl) | rfl | rfl
  · exact hserver
  · exact hdate
  · exact hlength
  · exact hclose

theorem IsOwnField.isOwnName_eq {body : Bytes} {field : Text × Text}
    (h : IsOwnField date body field) : isOwnName field.1 = true :=
  List.any_eq_true.2 ⟨field.1, h.name_mem, BEq.rfl⟩

theorem IsOwnField.ne_colon {body : Bytes} {field : Text × Text}
    (h : IsOwnField date body field) : ∀ c ∈ field.1, c ≠ ':' := by
  have hnames : ∀ name ∈ ownNames, ':' ∉ name := by decide
  exact fun c hc => ne_of_mem_of_not_mem hc (hnames _ h.name_mem)

/-- The fields of a head are the response's, with the server's own around them. -/
theorem exists_allFields_eq (date : Text) (closing : Bool) (r : Response) :
    ∃ before behind, allFields date closing r = before ++ r.headers ++ behind ∧
      ∀ field ∈ before ++ behind, IsOwnField date r.body field := by
  refine ⟨commonFields date, lengthField r.body :: if closing then [closeField] else [], ?_, ?_⟩
  · simp [allFields, fields, closeFields]
  · intro field hf
    rcases List.mem_append.1 hf with hf | hf
    · exact Or.inl hf
    · rcases List.mem_cons.1 hf with rfl | hf
      · exact Or.inr (Or.inl rfl)
      · cases closing with
        | false => cases hf
        | true => exact Or.inr (Or.inr (List.mem_singleton.1 hf))

theorem mem_allFields {field : Text × Text} (h : field ∈ allFields date closing r) :
    field ∈ r.headers ∨ IsOwnField date r.body field := by
  obtain ⟨before, behind, he, hown⟩ := exists_allFields_eq date closing r
  rw [he] at h
  rcases List.mem_append.1 h with h | h
  · rcases List.mem_append.1 h with h | h
    · exact Or.inr (hown field (List.mem_append_left _ h))
    · exact Or.inl h
  · exact Or.inr (hown field (List.mem_append_right _ h))

/-- Without the server's own fields those of the response are left, as they were added. -/
theorem filter_allFields (h : ∀ field ∈ r.headers, isOwnName field.1 = false) :
    (allFields date closing r).filter (fun field => !isOwnName field.1) = r.headers := by
  obtain ⟨before, behind, he, hown⟩ := exists_allFields_eq date closing r
  have hdropped : ∀ field ∈ before ++ behind, ¬(!isOwnName field.1) = true := by
    intro field hf
    rw [(hown field hf).isOwnName_eq]
    decide
  have hkept : r.headers.filter (fun field => !isOwnName field.1) = r.headers :=
    List.filter_eq_self.2 fun field hf => by rw [h field hf, Bool.not_false]
  rw [he, List.filter_append, List.filter_append, hkept,
    List.filter_eq_nil_iff.2 fun field hf => hdropped field (List.mem_append_left _ hf),
    List.filter_eq_nil_iff.2 fun field hf => hdropped field (List.mem_append_right _ hf),
    List.nil_append, List.append_nil]

theorem values_allFields_of_free {name : Text} (h : isOwnName name = false) :
    (allFields date closing r).values name = r.headerValues name := by
  obtain ⟨before, behind, he, hown⟩ := exists_allFields_eq date closing r
  have hother : ∀ field ∈ before ++ behind, Text.lower field.1 ≠ Text.lower name := by
    intro field hf hsame
    have hall := List.any_eq_false.1 h field.1 (hown field hf).name_mem
    exact hall (beq_iff_eq.2 hsame)
  rw [he, Headers.values_append, Headers.values_append,
    Headers.values_eq_nil fun field hf => hother field (List.mem_append_left _ hf),
    Headers.values_eq_nil fun field hf => hother field (List.mem_append_right _ hf),
    List.nil_append, List.append_nil, Response.headerValues]

theorem values_allFields_length (h : ∀ field ∈ r.headers, isOwnName field.1 = false) :
    (allFields date closing r).values ContentLength.fieldName = [Text.ofNat r.body.length] := by
  have hcommon : (commonFields date).values ContentLength.fieldName = [] := rfl
  have hheaders : Headers.values r.headers ContentLength.fieldName = [] := by
    apply Headers.values_eq_nil
    intro field hf he
    have hown : isOwnName field.1 = true :=
      List.any_eq_true.2 ⟨ContentLength.fieldName, by decide, beq_iff_eq.2 he.symm⟩
    rw [h field hf] at hown
    cases hown
  have hlength : Headers.values [lengthField r.body] ContentLength.fieldName =
      [Text.ofNat r.body.length] := rfl
  have hclose : Headers.values (if closing then [closeField] else []) ContentLength.fieldName =
      [] := by
    cases closing <;> rfl
  rw [allFields, fields, closeFields, Headers.values_append, Headers.values_append, Headers.values_append, hcommon,
    hheaders, hlength, hclose]
  rfl

end ResponseHead

namespace WireResponse
variable {date : Text} {closing : Bool} {r : Response}

/-- The response is read as it was made: its status, its own fields in their order, all values of a
name that the server does not add, its length once, and its body unless the head alone was asked
for. -/
structure Shows (w : WireResponse) (headOnly : Bool) (r : Response) : Prop where
  status : w.status = r.status
  fields : w.fields.filter (fun field => !isOwnName field.1) = r.headers
  values : ∀ name, isOwnName name = false → w.fields.values name = r.headerValues name
  length : w.fields.values ContentLength.fieldName = [Text.ofNat r.body.length]
  body : w.body = if headOnly then [] else r.body

def ofResponse (date : Text) (closing headOnly : Bool) (r : Response) : WireResponse :=
  ⟨r.status, ResponseHead.allFields date closing r, if headOnly then [] else r.body⟩

theorem shows_ofResponse (h : ∀ field ∈ r.headers, IsLegibleField field) (headOnly : Bool) :
    (ofResponse date closing headOnly r).Shows headOnly r where
  status := rfl
  fields := ResponseHead.filter_allFields fun field hf => (h field hf).free
  values _ hn := ResponseHead.values_allFields_of_free hn
  length := ResponseHead.values_allFields_length fun field hf => (h field hf).free
  body := rfl

theorem map_fieldOfLine (hd : date.all isGraphic = true)
    (h : ∀ field ∈ r.headers, IsLegibleField field) :
    ((ResponseHead.allFields date closing r).map fieldLine).map fieldOfLine =
      ResponseHead.allFields date closing r := by
  have hinner : ∀ field ∈ r.headers, ∀ c ∈ field.1 ++ field.2, isInner c = true :=
    fun field hf => (h field hf).isInner
  have hcolon : ∀ field ∈ ResponseHead.allFields date closing r, ∀ c ∈ field.1, c ≠ ':' := by
    intro field hf c hc
    rcases ResponseHead.mem_allFields hf with hf | hown
    · exact ((h field hf).name c hc).2
    · exact hown.ne_colon c hc
  rw [List.map_map]
  have hback : ∀ field ∈ ResponseHead.allFields date closing r,
      (fieldOfLine ∘ fieldLine) field = field := fun field hf =>
    fieldOfLine_fieldLine (hcolon field hf) fun c hc =>
      Text.isLineEnd_of_isInner
        (ResponseHead.isInner_of_mem_allFields hd hinner hf c (List.mem_append_right _ hc))
  simpa using List.map_congr_left hback

theorem lengthOf?_allFields (h : ∀ field ∈ r.headers, IsLegibleField field) :
    lengthOf? (ResponseHead.allFields date closing r) = some r.body.length := by
  rw [lengthOf?, Headers.first?,
    ResponseHead.values_allFields_length fun field hf => (h field hf).free]
  exact congrArg some Nat.ofDigitChars_ten_toDigits

/-- The head of a response is read back from its lines, and the body behind it unless the head alone
was asked for. -/
theorem read?_lines (closing : Bool) (hd : date.all isGraphic = true)
    (h : ∀ field ∈ r.headers, IsLegibleField field) (headOnly : Bool) (rest : Bytes) :
    read? headOnly ((ResponseHead.lines date closing r).flatten.map toByte ++
        ((if headOnly then [] else r.body) ++ rest)) =
      some (ofResponse date closing headOnly r, rest) := by
  have hinner : ∀ field ∈ r.headers, ∀ c ∈ field.1 ++ field.2, isInner c = true :=
    fun field hf => (h field hf).isInner
  have hlines := ResponseHead.takeHead?_lines closing hd hinner
    ((if headOnly then [] else r.body) ++ rest)
  rw [read?, hlines]
  simp only [map_fieldOfLine hd h, lengthOf?_allFields h, statusOfLine_codeLine, ofResponse]
  cases headOnly <;> simp

end WireResponse
end Http

namespace Connection
open Http (WireResponse)

theorem read?_responseBytes {date : Text} (hd : date.all Text.isGraphic = true) {head : Http.Head}
    (hbare : head.line.isBare = false) (closing : Bool) {r : Http.Response}
    (h : ∀ field ∈ r.headers, Http.IsLegibleField field) (rest : Bytes) :
    WireResponse.read? head.line.isHead (responseBytes date head closing r ++ rest) =
      some (WireResponse.ofResponse date closing head.line.isHead r, rest) := by
  rw [responseBytes, hbare, if_neg Bool.false_ne_true, List.append_assoc]
  exact WireResponse.read?_lines _ hd h head.line.isHead rest

end Connection
end GreetingServer
