import GreetingServer.Fault
import GreetingServer.Number.Rounded
import GreetingServer.Template.Directive

/-! Conversions: how a directive writes one argument. -/
namespace GreetingServer

def Value.shownAscii (v : Value) : Except Text.NumeralError Text :=
  v.shown.map (·.flatMap fun c => if c.toNat < 128 then [c] else Text.escapeCode c)

namespace Template

/-- A directive whose width and precision are known. -/
structure Layout where
  leftAligned : Bool := false
  signed : Bool := false
  spaced : Bool := false
  alternate : Bool := false
  zeroFilled : Bool := false
  width : Nat := 0
  precision : Option Nat := none
  deriving Repr, DecidableEq

/-- A number as it is written: its sign, what marks its base, and its digits. -/
structure Numeral where
  negative : Bool
  marker : Text := []
  digits : Text
  deriving Repr, DecidableEq

namespace Layout

def place {α : Type} (l : Layout) (blank : α) (t : List α) : List α :=
  if l.leftAligned then Text.padRight l.width blank t else Text.padLeft l.width blank t

def placeText (l : Layout) (t : Text) : Text := l.place ' ' t

def sign (l : Layout) (negative : Bool) : Text :=
  if negative then ['-'] else if l.signed then ['+'] else if l.spaced then [' '] else []

/-- A number takes its place; zeros fill the room between its sign and its digits. -/
def placeNumeral (l : Layout) (n : Numeral) : Text :=
  let front := l.sign n.negative ++ n.marker
  if l.zeroFilled && !l.leftAligned then
    front ++ Text.padLeft (l.width - front.length) '0' n.digits
  else l.placeText (front ++ n.digits)

end Layout

/-- The argument is no number, or none of the right kind. -/
def notANumber (conversion : Char) (what : String) (v : Value) : Fault :=
  Fault.wrongType ('%' :: conversion :: " format: ".toList ++ what.toList ++
    " is required, not ".toList ++ v.typeName)

def integerOf (conversion : Char) : Value → Except Fault Int
  | .int n => .ok n
  | .bool b => .ok (if b then 1 else 0)
  | .float x =>
    if conversion = 'o' || conversion = 'x' || conversion = 'X' then
      .error (notANumber conversion "an integer" (.float x))
    else
      match Number.Parts.ofFloat x with
      | .finite b => .ok b.truncate
      | .infinite _ =>
        .error (Fault.overflow "cannot convert float infinity to integer".toList)
      | .nan =>
        .error (Fault.invalidValue "cannot convert float NaN to integer".toList)
  | v =>
    if conversion = 'o' || conversion = 'x' || conversion = 'X' then
      .error (notANumber conversion "an integer" v)
    else .error (notANumber conversion "a real number" v)

/-- An integer in the base of the conversion, with at least as many digits as the precision says. -/
def integerNumeral (l : Layout) (conversion : Char) (n : Int) : Numeral :=
  let (base, marker) :=
    if conversion = 'o' then (8, ['0', 'o'])
    else if conversion = 'x' then (16, ['0', 'x'])
    else if conversion = 'X' then (16, ['0', 'X'])
    else (10, [])
  let digits := Nat.toDigits base n.natAbs
  let digits := if conversion = 'X' then digits.map Char.toUpper else digits
  ⟨n < 0, if l.alternate then marker else [], Text.padLeft (l.precision.getD 0) '0' digits⟩

/-- The floating-point number that an argument is taken for. -/
def floatOf : Value → Except Fault Float
  | .float x => .ok x
  | .bool b => .ok (if b then 1 else 0)
  | .int n =>
    let x := Float.ofScientific n.natAbs false 0
    match Number.Parts.ofFloat x with
    | .finite _ => .ok (if n < 0 then -x else x)
    | _ => .error (Fault.overflow "int too large to convert to float".toList)
  | v => .error (Fault.wrongType ("must be real number, not ".toList ++ v.typeName))

/-- Digits behind a point; the point is left out if there are none, unless it is asked for. -/
def behindPoint (alternate : Bool) (digits : Text) : Text :=
  if digits.isEmpty && !alternate then [] else '.' :: digits

def dropZerosBehind (digits : Text) : Text := Text.trimRight (· = '0') digits

def fixedDigits (b : Number.Binary) (places : Nat) : Text × Text :=
  let digits := Text.padLeft (places + 1) '0' (Text.ofNat (Number.roundedTo b (-(places : Int))))
  (digits.take (digits.length - places), digits.drop (digits.length - places))

/-- A number with one digit before the point, a count of places behind it, and an exponent. -/
def scientificDigits (b : Number.Binary) (places : Nat) : Text × Text × Int :=
  let d := Number.roundedDigits b (places + 1)
  let digits := Text.padRight (places + 1) '0' (Text.ofNat d.digits)
  (digits.take 1, digits.drop 1, if b.mantissa = 0 then 0 else d.exponent + places)

def writeExponent (mark : Char) (e : Int) : Text :=
  mark :: (if e < 0 then '-' else '+') :: Text.padLeft 2 '0' (Text.ofNat e.natAbs)

/-- The digits of a finite number. In the general form the precision counts all digits, numbers of
middling size are written without exponent, and zeros at the end are dropped. -/
def finiteDigits (l : Layout) (conversion : Char) (b : Number.Binary) : Text :=
  let precision := l.precision.getD 6
  let form := conversion.toLower
  let mark := if conversion.isUpper then 'E' else 'e'
  if form = 'f' then
    let (whole, fractional) := fixedDigits b precision
    whole ++ behindPoint l.alternate fractional
  else if form = 'e' then
    let (first, fractional, e) := scientificDigits b precision
    first ++ behindPoint l.alternate fractional ++ writeExponent mark e
  else
    let count := max precision 1
    let (first, fractional, e) := scientificDigits b (count - 1)
    let trimmed (t : Text) := if l.alternate then t else dropZerosBehind t
    if -4 ≤ e && e < count then
      let (whole, fractional) := fixedDigits b ((count : Int) - 1 - e).toNat
      whole ++ behindPoint l.alternate (trimmed fractional)
    else first ++ behindPoint l.alternate (trimmed fractional) ++ writeExponent mark e

def floatNumeral (l : Layout) (conversion : Char) (x : Float) : Numeral :=
  let cased (t : Text) := if conversion.isUpper then t.map Char.toUpper else t
  match Number.Parts.ofFloat x with
  | .nan => ⟨false, [], cased "nan".toList⟩
  | .infinite negative => ⟨negative, [], cased "inf".toList⟩
  | .finite b => ⟨b.negative, [], finiteDigits l conversion b⟩

def codePointOf : Value → Except Fault CodePoint
  | .text [c] => .ok (.char c)
  | .points [p] => .ok p
  | .int n => ofCode n
  | .bool b => ofCode (if b then 1 else 0)
  | _ => .error (Fault.wrongType "%c requires int or char".toList)
where
  ofCode (n : Int) : Except Fault CodePoint :=
    if 0 ≤ n ∧ n < 0x110000 then .ok (CodePoint.ofNat n.toNat)
    else .error (Fault.overflow "%c arg not in range(0x110000)".toList)

/-- A text, of which at most as many characters are written as the precision says. -/
def clip {α : Type} (l : Layout) (t : List α) : List α :=
  match l.precision with
  | none => t
  | some n => t.take n

def unsupported (conversion : CodePoint) (position : Nat) : Fault :=
  let code := conversion.toNat
  let shown := if 31 ≤ code && code ≤ 126 then Char.ofNat code else '?'
  Fault.invalidValue ("unsupported format character '".toList ++ shown :: "' (0x".toList ++
    Nat.toDigits 16 code ++ ") at index ".toList ++ Text.ofNat position)

/-- More digits than this cannot be asked for of an integer. -/
def precisionLimit : Nat := Nat.pow 2 31 - 4

def checkDecimal (conversion : Char) (n : Int) : Except Fault Unit :=
  if conversion = 'o' || conversion = 'x' || conversion = 'X' then .ok ()
  else (Fault.written (Text.ofInt n)).map fun _ => ()

def convertInteger (l : Layout) (conversion : Char) (v : Value) : Except Fault Text :=
  match integerOf conversion v with
  | .error f => .error f
  | .ok n =>
    if precisionLimit < l.precision.getD 0 then
      .error (Fault.overflow "precision too large".toList)
    else (checkDecimal conversion n).map fun _ => l.placeNumeral (integerNumeral l conversion n)

def convertText (l : Layout) (conversion : Char) (position : Nat) (v : Value) : Except Fault Text :=
  match conversion with
  | 'r' => (Fault.written v.shown).map fun t => l.placeText (clip l t)
  | 'a' => (Fault.written v.shownAscii).map fun t => l.placeText (clip l t)
  | 'd' | 'i' | 'u' | 'o' | 'x' | 'X' => convertInteger l conversion v
  | 'e' | 'E' | 'f' | 'F' | 'g' | 'G' =>
    (floatOf v).map fun x => l.placeNumeral (floatNumeral l conversion x)
  | _ => .error (unsupported (.char conversion) position)

/-- An argument is written as code points. There may be surrogates only if the argument is taken as
it is. -/
def convertPoints (l : Layout) (conversion : CodePoint) (position : Nat) (v : Value) :
    Except Fault (List CodePoint) :=
  match conversion, v with
  | .char 'c', v => (codePointOf v).map fun p => l.place (.char ' ') [p]
  | .char 's', v => (Fault.written v.displayed).map fun ps => l.place (.char ' ') (clip l ps)
  | .char c, v => (convertText l c position v).map CodePoint.ofText
  | .surrogate index, _ => .error (unsupported (.surrogate index) position)

/-- No memory holds a text of more code points. -/
def roomLimit : Nat := Nat.pow 2 32

def convert (l : Layout) (conversion : CodePoint) (position : Nat) (v : Value) :
    Except Fault (List CodePoint) :=
  if l.width ≤ roomLimit then convertPoints l conversion position v
  else
    match convertPoints { l with width := 0 } conversion position v with
    | .error f => .error f
    | .ok _ => .error (Fault.of .noMemory [])

end Template
end GreetingServer
