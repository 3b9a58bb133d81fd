import GreetingServer.Number.Shortest
import GreetingServer.Text.Numeral
import GreetingServer.Text.Quoted
import GreetingServer.Value

/-! The text of a value. `literal` shows a text between quotes, as everything inside a list, a tuple
or a dictionary is shown; `displayPoints` shows a text as it is. There is such a text only if each
integer in the value has a numeral that is short enough: `shown` and `displayed` see to that. -/
namespace GreetingServer
namespace Number

/-- The decimal written with its point among the digits, if its first digit stands at most sixteen
places before the point or four behind it, and else with an exponent of at least two digits. A point
has a digit on both sides. -/
def writeDecimal (d : Decimal) : Text :=
  let digits := Text.ofNat d.digits
  let point : Int := digits.length + d.exponent
  if -3 ≤ point && point ≤ 16 then
    if point ≤ 0 then "0.".toList ++ List.replicate (-point).toNat '0' ++ digits
    else if digits.length ≤ point then
      digits ++ List.replicate (point.toNat - digits.length) '0' ++ ".0".toList
    else digits.take point.toNat ++ '.' :: digits.drop point.toNat
  else
    let e := point - 1
    let sign := if e < 0 then '-' else '+'
    let fractional := if digits.length = 1 then [] else '.' :: digits.drop 1
    digits.take 1 ++ fractional ++ 'e' :: sign :: Text.padLeft 2 '0' (Text.ofNat e.natAbs)

/-- The text of a floating-point number, given the texts of infinity and of what is no number. -/
def writeFloat (infinity nan : Text) (x : Float) : Text :=
  match Parts.ofFloat x with
  | .nan => nan
  | .infinite negative => (if negative then ['-'] else []) ++ infinity
  | .finite b => (if b.negative then ['-'] else []) ++ writeDecimal (shortest b)

end Number

namespace Value

mutual

def literal : Value → Text
  | null => "None".toList
  | bool true => "True".toList
  | bool false => "False".toList
  | int n => Text.numeral n
  | float x => Number.writeFloat "inf".toList "nan".toList x
  | text t => Text.quoted t
  | points ps => Text.quotedPoints ps
  | bytes b => Text.quotedBytes b
  | list items => '[' :: Text.join ", ".toList (literals items) ++ [']']
  | tuple [item] => '(' :: literal item ++ ",)".toList
  | tuple items => '(' :: Text.join ", ".toList (literals items) ++ [')']
  | dict entries => '\x7b' :: Text.join ", ".toList (literalEntries entries) ++ ['\x7d']

def literals : List Value → List Text
  | [] => []
  | item :: rest => literal item :: literals rest

def literalEntries : List (List CodePoint × Value) → List Text
  | [] => []
  | (key, value) :: rest =>
    (Text.quotedPoints key ++ ": ".toList ++ literal value) :: literalEntries rest

end

def displayPoints : Value → List CodePoint
  | text t => CodePoint.ofText t
  | points ps => ps
  | value => CodePoint.ofText (literal value)

mutual

/-- The numerals in a value are written, unless one of them is too long. -/
def checkNumerals : Value → Except Text.NumeralError Unit
  | int n => (Text.ofInt n).map fun _ => ()
  | list items => checkItems items
  | tuple items => checkItems items
  | dict entries => checkEntries entries
  | _ => .ok ()

def checkItems : List Value → Except Text.NumeralError Unit
  | [] => .ok ()
  | item :: rest =>
    match checkNumerals item with
    | .error e => .error e
    | .ok () => checkItems rest

def checkEntries : List (List CodePoint × Value) → Except Text.NumeralError Unit
  | [] => .ok ()
  | (_, value) :: rest =>
    match checkNumerals value with
    | .error e => .error e
    | .ok () => checkEntries rest

end

def shown (v : Value) : Except Text.NumeralError Text := v.checkNumerals.map fun _ => v.literal

def displayed (v : Value) : Except Text.NumeralError (List CodePoint) :=
  v.checkNumerals.map fun _ => v.displayPoints

@[simp] theorem displayPoints_text (t : Text) : displayPoints (text t) = CodePoint.ofText t := rfl
@[simp] theorem displayPoints_int (n : Int) :
    displayPoints (int n) = CodePoint.ofText (Text.numeral n) := by
  simp [displayPoints, literal]

@[simp] theorem displayed_text (t : Text) : displayed (text t) = .ok (CodePoint.ofText t) := by
  simp [displayed, checkNumerals, Except.map]

theorem displayed_int (n : Int) : displayed (int n) = (Text.ofInt n).map CodePoint.ofText := by
  rw [displayed, checkNumerals, displayPoints_int]
  cases h : Text.ofInt n with
  | error e => rfl
  | ok t => rw [Text.eq_numeral_of_ofInt h]; rfl

@[simp] theorem checkNumerals_ofPoints (ps : List CodePoint) :
    checkNumerals (ofPoints ps) = .ok () := by
  unfold ofPoints
  split <;> simp [checkNumerals]

@[simp] theorem displayPoints_ofPoints (ps : List CodePoint) : displayPoints (ofPoints ps) = ps := by
  unfold ofPoints
  split
  · rename_i t ht
    exact CodePoint.ofText_of_text? ht
  · rfl

end Value
end GreetingServer
