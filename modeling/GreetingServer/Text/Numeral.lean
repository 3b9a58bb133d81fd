import GreetingServer.Text.Blank
import GreetingServer.Text.Digit

/-! Decimal numerals of integers: how one is written, and what is read as one. A numeral that is
read may have blanks around it, a sign, digits of any script, and single underscores between digits.
The digits of a numeral are limited in number, because reading and writing them takes time that
grows faster than their number. -/
namespace GreetingServer
namespace Text

def ofNat (n : Nat) : Text := Nat.toDigits 10 n

/-- The decimal numeral of an integer, however many digits it has. -/
def numeral : Int → Text
  | .ofNat n => ofNat n
  | .negSucc n => '-' :: ofNat (n + 1)

def digitLimit : Nat := 4300

/-- Why a text is not read as an integer, or an integer not written. -/
inductive NumeralError
  | malformed
  | tooLong (digits : Nat)
  deriving Repr, DecidableEq

def ofInt (n : Int) : Except NumeralError Text :=
  let digits := (ofNat n.natAbs).length
  if digitLimit < digits then .error (.tooLong digits) else .ok (numeral n)

def digitsValue (digits : List Nat) : Nat := digits.foldl (fun n d => 10 * n + d) 0

def isNumeralChar (c : Char) : Bool := (decimalValue? c).isSome || c == '_'

/-- Every underscore has a digit on both sides. -/
def underscoresSeparate (t : Text) : Bool :=
  (splitBy (· == '_') t).all (!·.isEmpty)

/-- The numeral of a natural number. The limit is checked on the digits at the front, before what
follows them. -/
def readNat (t : Text) : Except NumeralError Nat :=
  let run := t.takeWhile isNumeralChar
  let digits := run.filterMap decimalValue?
  if !underscoresSeparate run then .error .malformed
  else if digitLimit < digits.length then .error (.tooLong digits.length)
  else if run.length < t.length then .error .malformed
  else .ok (digitsValue digits)

def readInt (t : Text) : Except NumeralError Int :=
  match strip t with
  | '-' :: rest => (readNat rest).map fun n => -(n : Int)
  | '+' :: rest => (readNat rest).map (↑·)
  | rest => (readNat rest).map (↑·)

@[simp] theorem numeral_natCast (n : Nat) : numeral (n : Int) = ofNat n := rfl

theorem eq_numeral_of_ofInt {n : Int} {t : Text} (h : ofInt n = .ok t) : t = numeral n := by
  unfold ofInt at h
  dsimp only at h
  split at h
  · cases h
  · exact (Except.ok.inj h).symm

theorem ofInt_of_length {n : Int} (h : (ofNat n.natAbs).length ≤ digitLimit) :
    ofInt n = .ok (numeral n) := if_neg (Nat.not_lt.2 h)

/-- The least natural number with more digits than that. -/
def leastBeyond (digits : Nat) : Nat := Nat.pow 10 digits

theorem length_ofNat_le_iff {n k : Nat} (hk : 0 < k) : (ofNat n).length ≤ k ↔ n < leastBeyond k :=
  Nat.length_toDigits_le_iff (by decide) hk

/-- The first natural number that is not written. -/
def firstUnwritten : Nat := leastBeyond digitLimit

theorem exists_ofInt_iff {n : Int} : (∃ t, ofInt n = .ok t) ↔ n.natAbs < firstUnwritten := by
  rw [firstUnwritten, ← length_ofNat_le_iff (by decide)]
  constructor
  · rintro ⟨t, h⟩
    unfold ofInt at h
    dsimp only at h
    split at h
    · cases h
    · exact Nat.not_lt.1 ‹_›
  · exact fun h => ⟨_, ofInt_of_length h⟩

theorem not_exists_ofInt_firstUnwritten : ¬∃ t, ofInt firstUnwritten = .ok t := by
  rw [exists_ofInt_iff, Int.natAbs_natCast]
  exact Nat.lt_irrefl _

theorem ofInt_of_lt {n : Nat} (h : n < 100000) : ofInt n = .ok (ofNat n) := by
  have hlength : (ofNat n).length ≤ 5 := (length_ofNat_le_iff (by decide)).2 h
  exact ofInt_of_length (Nat.le_trans hlength (by decide))

theorem toNat_of_isDigit {c : Char} (h : c.isDigit = true) : 48 ≤ c.toNat ∧ c.toNat ≤ 57 := by
  simpa [Char.isDigit, UInt32.le_iff_toNat_le] using h

theorem isDigit_of_mem_ofNat {n : Nat} {c : Char} (h : c ∈ ofNat n) : c.isDigit = true :=
  Nat.isDigit_of_mem_toDigits (by decide) (by decide) h

theorem ofNat_ne_nil (n : Nat) : ofNat n ≠ [] := Nat.toDigits_ne_nil

end Text
end GreetingServer
