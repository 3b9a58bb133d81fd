import GreetingServer.Ordered
import GreetingServer.Text.Hexadecimal
import GreetingServer.Value

/-! JSON texts as values. The reader is a machine that takes one character at a time; the containers
that are still open lie on its stack, so reading a text is a fold over its characters. A number with
a fraction or an exponent is a floating-point number, and every other number an integer. -/
namespace GreetingServer
namespace Json

/-- A container that is still open, with what it holds so far, last first. -/
inductive Frame
  | list (items : List Value)
  | dict (entries : List (List CodePoint × Value)) (key : List CodePoint)

inductive Role
  | value
  | key (entries : List (List CodePoint × Value))

/-- What the next character of a string continues. -/
inductive Piece
  | plain
  | escaped
  | code (digits unit : Nat)

/-- A string that is being read: its code points, last first, and a first unit of two. -/
structure Spelling where
  done : List CodePoint := []
  high : Option Nat := none

inductive State
  | expectValue (stack : List Frame)
  /-- A value or the end of an empty array comes next. -/
  | expectItem (stack : List Frame)
  /-- A key comes next, or the end of the object if that has no entry. -/
  | expectKey (canEnd : Bool) (entries : List (List CodePoint × Value)) (stack : List Frame)
  | expectColon (entries : List (List CodePoint × Value)) (key : List CodePoint)
    (stack : List Frame)
  | complete (value : Value) (stack : List Frame)
  | string (role : Role) (piece : Piece) (spelling : Spelling) (stack : List Frame)
  /-- A number or a word, last character first. -/
  | word (done : List Char) (stack : List Frame)
  | failed

/-- Characters that may stand between the parts of a text. -/
def isSpace (c : Char) : Bool := c = ' ' || c = '\t' || c = '\n' || c = '\r'

/-- A first unit that no second unit follows is a surrogate. -/
def Spelling.settle (s : Spelling) : List CodePoint :=
  match s.high with
  | none => s.done
  | some high => CodePoint.ofNat high :: s.done

def Spelling.pushPoint (s : Spelling) (p : CodePoint) : Spelling := ⟨p :: s.settle, none⟩

def Spelling.push (s : Spelling) (c : Char) : Spelling := s.pushPoint (.char c)

def Spelling.pushUnit (s : Spelling) (unit : Nat) : Spelling :=
  if 0xd800 ≤ unit && unit < 0xdc00 then ⟨s.settle, some unit⟩
  else if 0xdc00 ≤ unit && unit < 0xe000 then
    match s.high with
    | some high =>
      ⟨CodePoint.ofNat (0x10000 + (high - 0xd800) * 0x400 + (unit - 0xdc00)) :: s.done, none⟩
    | none => s.pushPoint (CodePoint.ofNat unit)
  else s.push (Char.ofNat unit)

def Spelling.points (s : Spelling) : List CodePoint := s.settle.reverse

def unescape (c : Char) : Option Char :=
  if c = '\x22' || c = '\\' || c = '/' then some c
  else if c = 'n' then some '\n'
  else if c = 'r' then some '\r'
  else if c = 't' then some '\t'
  else if c = 'b' then some '\x08'
  else if c = 'f' then some '\x0c'
  else none

/-- The value of ASCII digits, none of another character. -/
def digits? (t : Text) : Option Nat :=
  if t.all Char.isDigit && !t.isEmpty then
    some (t.foldl (fun n c => 10 * n + (c.toNat - '0'.toNat)) 0)
  else none

def exponent? : Text → Option Int
  | '-' :: t => (digits? t).map fun n => -(n : Int)
  | '+' :: t => (digits? t).map (↑·)
  | t => (digits? t).map (↑·)

/-- The floating-point number nearest to `mantissa * 10 ^ scale`. It is zero or infinite if the
first digit stands hundreds of places away from the point. -/
def nearest (mantissa : Nat) (scale : Int) : Float :=
  let point := (Nat.toDigits 10 mantissa).length + scale
  if mantissa = 0 || point < -400 then 0
  else if 400 < point then 1 / 0
  else Float.ofScientific mantissa (scale < 0) scale.natAbs

def number? (t : Text) : Option Value :=
  let negative := t.head? == some '-'
  let body := if negative then t.drop 1 else t
  let whole := body.takeWhile Char.isDigit
  let rest := body.dropWhile Char.isDigit
  if rest.isEmpty then
    (digits? whole).map fun n => .int (if negative then -(n : Int) else n)
  else
    let (fractional, rest) := match rest with
      | '.' :: rest => (rest.takeWhile Char.isDigit, rest.dropWhile Char.isDigit)
      | rest => ([], rest)
    let exponent := match rest with
      | [] => some 0
      | c :: rest => if c = 'e' || c = 'E' then exponent? rest else none
    match digits? (whole ++ fractional), exponent with
    | some mantissa, some e =>
      let x := nearest mantissa (e - (fractional.length : Int))
      some (.float (if negative then -x else x))
    | _, _ => none

/-- The value of a number or a word. There are words for the floating-point numbers that have no
digits. -/
def word? (t : Text) : Option Value :=
  if t = "null".toList then some .null
  else if t = "true".toList then some (.bool true)
  else if t = "false".toList then some (.bool false)
  else if t = "NaN".toList then some (.float (0 / 0))
  else if t = "Infinity".toList then some (.float (1 / 0))
  else if t = "-Infinity".toList then some (.float (-1 / 0))
  else number? t

def isWordChar (c : Char) : Bool := c.isAlphanum || c = '-' || c = '+' || c = '.'

def startValue (c : Char) (stack : List Frame) : State :=
  if c = '[' then .expectItem stack
  else if c = '\x7b' then .expectKey true [] stack
  else if c = '\x22' then .string .value .plain {} stack
  else if isWordChar c then .word [c] stack
  else .failed

/-- An object from its entries, last first; the last value of a key counts. -/
def close (entries : List (List CodePoint × Value)) : Value :=
  .dict (Ordered.putAll entries.reverse [])

def afterValue (value : Value) (c : Char) : List Frame → State
  | [] => if isSpace c then .complete value [] else .failed
  | .list items :: stack =>
    if isSpace c then .complete value (.list items :: stack)
    else if c = ',' then .expectValue (.list (value :: items) :: stack)
    else if c = ']' then .complete (.list (value :: items).reverse) stack
    else .failed
  | .dict entries key :: stack =>
    if isSpace c then .complete value (.dict entries key :: stack)
    else if c = ',' then .expectKey false ((key, value) :: entries) stack
    else if c = '\x7d' then .complete (close ((key, value) :: entries)) stack
    else .failed

def endString (role : Role) (points : List CodePoint) (stack : List Frame) : State :=
  match role with
  | .value => .complete (.ofPoints points) stack
  | .key entries => .expectColon entries points stack

def step (state : State) (c : Char) : State :=
  match state with
  | .expectValue stack => if isSpace c then state else startValue c stack
  | .expectItem stack =>
    if isSpace c then state
    else if c = ']' then .complete (.list []) stack
    else startValue c (.list [] :: stack)
  | .expectKey canEnd entries stack =>
    if isSpace c then state
    else if c = '\x22' then .string (.key entries) .plain {} stack
    else if c = '\x7d' && canEnd then .complete (close entries) stack
    else .failed
  | .expectColon entries key stack =>
    if isSpace c then state
    else if c = ':' then .expectValue (.dict entries key :: stack)
    else .failed
  | .complete value stack => afterValue value c stack
  | .string role .plain spelling stack =>
    if c = '\x22' then endString role spelling.points stack
    else if c = '\\' then .string role .escaped spelling stack
    else .string role .plain (spelling.push c) stack
  | .string role .escaped spelling stack =>
    if c = 'u' then .string role (.code 0 0) spelling stack
    else match unescape c with
      | some meant => .string role .plain (spelling.push meant) stack
      | none => .failed
  | .string role (.code digits unit) spelling stack =>
    match Text.hexadecimalValue? c with
    | none => .failed
    | some d =>
      if digits = 3 then .string role .plain (spelling.pushUnit (16 * unit + d)) stack
      else .string role (.code (digits + 1) (16 * unit + d)) spelling stack
  | .word done stack =>
    if isWordChar c then .word (c :: done) stack
    else match word? done.reverse with
      | some value => afterValue value c stack
      | none => .failed
  | .failed => .failed

def State.finish : State → Option Value
  | .complete value [] => some value
  | .word done [] => word? done.reverse
  | _ => none

def read (t : Text) : Option Value := (t.foldl step (.expectValue [])).finish

end Json
end GreetingServer
