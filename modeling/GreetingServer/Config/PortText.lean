import GreetingServer.Text.Blank
import GreetingServer.Text.Numeral

/-! Texts that spell a port. A plain numeral has a sign at most, digits without needless zeros, and
nothing else. Any other text is tidied first: blanks around it, a plus sign, zeros at its front, a
fraction of zeros and single underscores are dropped, and what is left has to be a plain numeral. -/
namespace GreetingServer
namespace Config

inductive PlainNumeral
  | value (n : Int)
  | tooLong
  | other
  deriving Repr, DecidableEq

/-- The digits at the front of a plain numeral: a zero alone, or digits of which the first is none.
-/
def leadingDigits : Text → Text
  | '0' :: _ => ['0']
  | t => t.takeWhile Char.isDigit

/-- A text as a plain numeral. That there are too many digits is seen before what follows them. -/
def readPlain (t : Text) : PlainNumeral :=
  let negative := t.head? == some '-'
  let body := if negative then t.drop 1 else t
  let digits := leadingDigits body
  if Text.digitLimit < digits.length then .tooLong
  else if digits.isEmpty || digits.length < body.length then .other
  else
    let n := Text.digitsValue (digits.map fun c => c.toNat - '0'.toNat)
    .value (if negative then -(n : Int) else n)

/-- Blanks around a port. The separators of records are not among them. -/
def isSpacing (c : Char) : Bool := Text.isBlank c && !(28 ≤ c.toNat && c.toNat ≤ 31)

def startsNumber (c : Char) : Bool := (c.isDigit && c != '0') || c == '-'

def afterZero (last : Char) : Text → Option Text
  | [] => some [last]
  | c :: rest =>
    if c = '0' || c = '_' then afterZero c rest
    else if c = '.' then some (last :: c :: rest)
    else if startsNumber c then some (c :: rest)
    else none

def dropZeros : Text → Option Text
  | [] => none
  | c :: rest =>
    if c = '0' then afterZero c rest else if startsNumber c then some (c :: rest) else none

def dropPointZeros (t : Text) : Text :=
  match Text.cut (· = '.') t with
  | (whole, _ :: fractional) =>
    if !fractional.isEmpty && fractional.all (· = '0') then whole else t
  | _ => t

def dropUnderscores (t : Text) : Text :=
  if Text.underscoresSeparate t then t.filter (· != '_') else t

def tidyUnsigned (t : Text) : Option Text :=
  (dropZeros t).map fun t => dropUnderscores (dropPointZeros t)

/-- A text is tidied, which fails if what it starts with cannot be dropped. -/
def tidy (t : Text) : Option Text :=
  match Text.trim isSpacing t with
  | '+' :: '-' :: _ => none
  | '+' :: rest => tidyUnsigned rest
  | '-' :: rest => (tidyUnsigned rest).map ('-' :: ·)
  | rest => tidyUnsigned rest

theorem readPlain_zero_digit (c : Char) (t : Text) : readPlain ('0' :: c :: t) = .other := by
  simp [readPlain, leadingDigits, Text.digitLimit]

end Config
end GreetingServer
