import GreetingServer.Http.ContentLength
import GreetingServer.Proofs.Splitting
import Mathlib.Data.List.Basic

/-! The length that a request announces for its body. A numeral of ASCII digits is read as what it
denotes if it is short enough; a longer one makes the request fail without being a bad one. -/
namespace GreetingServer
namespace Text

/-- The text is a number in ASCII digits. -/
structure IsNumeral (t : Text) (n : Nat) : Prop where
  ne_nil : t ≠ []
  digits : ∀ c ∈ t, c.isDigit = true
  value : Nat.ofDigitChars 10 t 0 = n

theorem isNumeral_ofNat (n : Nat) : IsNumeral (ofNat n) n where
  ne_nil := ofNat_ne_nil n
  digits _ hc := isDigit_of_mem_ofNat hc
  value := Nat.ofDigitChars_ten_toDigits

theorem decimalValue?_of_isDigit {c : Char} (h : c.isDigit = true) :
    decimalValue? c = some (c.toNat - '0'.toNat) := by
  have hb := toNat_of_isDigit h
  simp [decimalValue?, zeros, hb]

theorem isBlank_of_isDigit {c : Char} (h : c.isDigit = true) : isBlank c = false := by
  have hb := toNat_of_isDigit h
  exact isBlank_of_visible (by omega) (by omega)

namespace IsNumeral
variable {t : Text} {n : Nat}

theorem all_isDigit (h : IsNumeral t n) : t.all isDigit = true := by
  rw [List.all_eq_true]
  intro c hc
  simp [isDigit, decimalValue?_of_isDigit (h.digits c hc)]

theorem takeWhile_eq (h : IsNumeral t n) : t.takeWhile isNumeralChar = t := by
  rw [List.takeWhile_eq_self_iff]
  intro c hc
  simp [isNumeralChar, decimalValue?_of_isDigit (h.digits c hc)]

theorem filterMap_eq (h : IsNumeral t n) :
    t.filterMap decimalValue? = t.map fun c => c.toNat - '0'.toNat := by
  rw [← List.filterMap_eq_map]
  exact List.filterMap_congr fun c hc => decimalValue?_of_isDigit (h.digits c hc)

theorem digitsValue_eq (h : IsNumeral t n) :
    digitsValue (t.map fun c => c.toNat - '0'.toNat) = n := by
  rw [← h.value, Nat.ofDigitChars_eq_foldl, digitsValue, List.foldl_map]

theorem underscoresSeparate_eq (h : IsNumeral t n) : underscoresSeparate t = true := by
  have hfree : ∀ c ∈ t, (c == '_') = false := by
    intro c hc
    rw [beq_eq_false_iff_ne]
    rintro rfl
    exact absurd (h.digits '_' hc) (by decide)
  simp [underscoresSeparate, splitBy_of_free hfree, h.ne_nil]

theorem strip_eq (h : IsNumeral t n) : strip t = t :=
  strip_of_free fun c hc => isBlank_of_isDigit (h.digits c hc)

theorem readNat_eq (h : IsNumeral t n) (hl : t.length ≤ digitLimit) : readNat t = .ok n := by
  have hlen : ¬digitLimit < (t.map fun c => c.toNat - '0'.toNat).length := by
    rw [List.length_map]
    omega
  simp only [readNat, h.takeWhile_eq, h.filterMap_eq, h.underscoresSeparate_eq, Bool.not_true,
    Bool.false_eq_true, if_false, if_neg hlen, Nat.lt_irrefl, h.digitsValue_eq]

theorem readNat_of_long (h : IsNumeral t n) (hl : digitLimit < t.length) :
    readNat t = .error (.tooLong t.length) := by
  simp only [readNat, h.takeWhile_eq, h.filterMap_eq, h.underscoresSeparate_eq, Bool.not_true,
    Bool.false_eq_true, if_false, List.length_map, if_pos hl]

end IsNumeral
end Text

namespace Http
namespace ContentLength

def fieldName : Text := "Content-Length".toList

/-- The headers announce the length of the body: they tell it in ASCII digits that are not too many,
or they have no word of it and it is zero. If they tell it more than once the first time counts. -/
inductive Announces (headers : Headers) : Nat → Prop
  | absent (h : headers.first? fieldName = none) : Announces headers 0
  | told {value : Text} {n : Nat} (h : headers.first? fieldName = some value)
      (hn : Text.IsNumeral (Text.strip value) n)
      (hl : (Text.strip value).length ≤ Text.digitLimit) : Announces headers n

theorem ofHeaders_of_first? {headers : Headers} {value : Text}
    (h : headers.first? fieldName = some value) :
    ofHeaders headers = ofValue (Text.strip value) := by
  unfold ofHeaders
  rw [show "Content-Length".toList = fieldName from rfl, h]

theorem ofValue_numeral {t : Text} {n : Nat} (h : Text.IsNumeral t n)
    (hl : t.length ≤ Text.digitLimit) : ofValue t = .ok n := by
  have he : t.isEmpty = false := List.isEmpty_eq_false_iff.2 h.ne_nil
  simp [ofValue, he, h.all_isDigit, h.readNat_eq hl]

/-- Too many digits are no reason to call the request a bad one. -/
theorem ofValue_of_long {t : Text} {n : Nat} (h : Text.IsNumeral t n)
    (hl : Text.digitLimit < t.length) :
    ofValue t = .error (Fault.ofNumeral t (.tooLong t.length)) := by
  have he : t.isEmpty = false := List.isEmpty_eq_false_iff.2 h.ne_nil
  simp [ofValue, he, h.all_isDigit, h.readNat_of_long hl]

/-- The headers tell a length that is not made of digits. -/
def IsMalformed (headers : Headers) : Prop :=
  ∃ value, headers.first? fieldName = some value ∧
    (Text.strip value = [] ∨ ∃ c ∈ Text.strip value, Text.isDigit c = false)

theorem ofHeaders_of_isMalformed {headers : Headers} (h : IsMalformed headers) :
    ∃ value, headers.first? fieldName = some value ∧
      ofHeaders headers = .error (malformed (Text.strip value)) := by
  obtain ⟨value, hv, hm⟩ := h
  refine ⟨value, hv, ?_⟩
  rw [ofHeaders_of_first? hv, ofValue, if_pos]
  rcases hm with he | ⟨c, hc, hd⟩
  · simp [he]
  · have hall : (Text.strip value).all Text.isDigit = false :=
      List.all_eq_false.2 ⟨c, hc, by simp [hd]⟩
    simp [hall]

theorem ofHeaders_of_announces {headers : Headers} {n : Nat} (h : Announces headers n) :
    ofHeaders headers = .ok n := by
  cases h with
  | absent h =>
    unfold ofHeaders
    rw [show "Content-Length".toList = fieldName from rfl, h]
  | told h hn hl => rw [ofHeaders_of_first? h, ofValue_numeral hn hl]

end ContentLength
end Http
end GreetingServer
