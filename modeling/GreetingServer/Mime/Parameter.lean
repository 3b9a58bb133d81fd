import GreetingServer.Fault
import GreetingServer.RunSort
import GreetingServer.Text.Hexadecimal
import GreetingServer.Text.Lowercase

/-! Parameters of a media type. A parameter is given as a whole, or in segments whose names have an
asterisk after the name of the parameter and perhaps a number after that. The segments are put in
order and joined; those whose names end with an asterisk have percent escapes, and if there is one
of them the value may start with a charset and a language, each with an apostrophe behind it. -/
namespace GreetingServer
namespace Mime

/-- Two characters in a row are replaced by one wherever they stand. -/
def replacePair (first second written : Char) : Text → Text
  | a :: b :: rest =>
    if a = first && b = second then written :: replacePair first second written rest
    else a :: replacePair first second written (b :: rest)
  | t => t

/-- The text between the quotes or angle brackets around it, if it has some. -/
def unquote (t : Text) : Text :=
  let inner := (t.drop 1).dropLast
  if t.length ≤ 1 then t
  else if t.head? = some '\x22' && t.getLast? = some '\x22' then
    replacePair '\\' '\x22' '\x22' (replacePair '\\' '\\' '\\' inner)
  else if t.head? = some '<' && t.getLast? = some '>' then inner
  else t

def escapeQuotes (t : Text) : Text :=
  t.flatMap fun c => if c = '\x22' || c = '\\' then ['\\', c] else [c]

/-- Percent escapes are replaced by the Latin-1 characters that they stand for. -/
def unescape : Text → Text
  | '%' :: a :: b :: rest =>
    match Text.hexadecimalValue? a, Text.hexadecimalValue? b with
    | some high, some low => Char.ofNat (16 * high + low) :: unescape rest
    | _, _ => '%' :: unescape (a :: b :: rest)
  | c :: rest => c :: unescape rest
  | [] => []

/-- Pieces of a value that is being cut, last first, the characters of the last one, last first, and
whether these leave a quote open. -/
structure Cutting where
  pieces : List Text := []
  current : List Char := []
  quoted : Bool := false

namespace Cutting

/-- One character. A quote after a backslash neither opens nor closes. -/
def step (s : Cutting) (c : Char) : Cutting :=
  if c = ';' && !s.quoted then ⟨s.current.reverse :: s.pieces, [], false⟩
  else
    let turns := c = '\x22' && s.current.head? != some '\\'
    { s with current := c :: s.current, quoted := s.quoted != turns }

def finish (s : Cutting) : List Text := (s.current.reverse :: s.pieces).reverse

end Cutting

/-- The pieces of a value between the semicolons that are outside quotes. If a quote stays open, all
semicolons after it are inside. -/
def pieces (value : Text) : List Text := (value.foldl Cutting.step {}).finish

def nameAndValue (piece : Text) : Text × Text :=
  match Text.cut (· = '=') piece with
  | (name, _ :: value) => (Text.lower (Text.strip name), Text.strip value)
  | (name, []) => (Text.strip name, [])

structure Segment where
  number : Option Nat
  text : Text
  escaped : Bool
  deriving Repr, DecidableEq

inductive Item
  | whole (name text : Text)
  | segment (name : Text) (s : Segment)
  deriving Repr, DecidableEq

/-- Characters of a parameter's name before the asterisk of a segment. -/
def isNameChar (c : Char) : Bool := c.isAlphanum || c = '_'

def segmentNumber (digits : Text) : Except Fault (Option Nat) :=
  if digits.isEmpty then .ok none
  else match Text.readNat digits with
    | .ok n => .ok (some n)
    | .error e => .error (Fault.ofNumeral digits e)

/-- What may stand behind the number of a segment: an asterisk if the segment has escapes. Without a
number nothing may stand there. -/
def endsSegment (digits rest : Text) : Bool :=
  rest.isEmpty || (!digits.isEmpty && rest == ['*'])

/-- The name of a parameter and the digits of a segment's number, of which there may be none, if the
name is that of a segment. -/
def segmentName? (name : Text) : Option (Text × Text) :=
  let own := name.takeWhile isNameChar
  match own, name.drop own.length with
  | _ :: _, '*' :: rest =>
    let digits := rest.takeWhile Char.isDigit
    if endsSegment digits (rest.drop digits.length) then some (own, digits) else none
  | _, _ => none

def itemOf (name value : Text) : Except Fault Item :=
  match segmentName? name with
  | some (own, digits) =>
    (segmentNumber digits).map fun number =>
      .segment own ⟨number, unquote value, name.getLast? = some '*'⟩
  | none => .ok (.whole name (unquote value))

/-- The items of the pieces behind the media type itself. -/
def itemsOf : List Text → Except Fault (List Item)
  | [] => .ok []
  | piece :: rest =>
    match itemOf (nameAndValue piece).1 (nameAndValue piece).2 with
    | .error f => .error f
    | .ok item => (itemsOf rest).map (item :: ·)

inductive Parameter
  | plain (text : Text)
  | extended (charset : Option Text) (text : Text)
  deriving Repr, DecidableEq

namespace Segment

def hasTextBefore (a b : Segment) : Bool :=
  Text.isBefore a.text b.text || (a.text == b.text && !a.escaped && b.escaped)

def value (s : Segment) : Text := if s.escaped then unescape s.text else s.text

def numberType (s : Segment) : String := if s.number.isSome then "int" else "NoneType"

/-- A number cannot be compared with none. -/
def incomparable (a b : Segment) : Fault :=
  Fault.unordered "<" a.numberType.toList b.numberType.toList

def isBefore (a b : Segment) : Except Fault Bool :=
  match a.number, b.number with
  | some m, some n => .ok (m < n || (m == n && a.hasTextBefore b))
  | none, none => .ok (a.hasTextBefore b)
  | _, _ => .error (incomparable a b)

/-- The segments in order. All of them have to have numbers, or none. -/
def sorted (segments : List Segment) : Except Fault (List Segment) := RunSort.sort isBefore segments

end Segment

namespace Parameter

/-- An extended value is cut at its first two apostrophes, if it has them. The charset is told as it
would stand between quotes. -/
def ofExtended (t : Text) : Parameter :=
  match Text.cut (· = '\x27') t with
  | (charset, _ :: rest) =>
    match Text.cut (· = '\x27') rest with
    | (_, _ :: text) => .extended (some (escapeQuotes charset)) text
    | _ => .extended none t
  | _ => .extended none t

def ofSegments (segments : List Segment) : Except Fault Parameter :=
  (Segment.sorted segments).map fun segments =>
    let t := segments.flatMap Segment.value
    if segments.any (·.escaped) then ofExtended t else .plain t

def wholes (items : List Item) : List (Text × Parameter) :=
  items.filterMap fun
    | .whole name text => some (name, .plain text)
    | .segment _ _ => none

def segmented (items : List Item) : List Text :=
  (items.filterMap fun
    | .whole _ _ => none
    | .segment name _ => some name).eraseDups

def segmentsOf (items : List Item) (name : Text) : List Segment :=
  items.filterMap fun
    | .whole _ _ => none
    | .segment other s => if other = name then some s else none

def joined (items : List Item) : List Text → Except Fault (List (Text × Parameter))
  | [] => .ok []
  | name :: rest =>
    match ofSegments (segmentsOf items name) with
    | .error f => .error f
    | .ok p => (joined items rest).map ((name, p) :: ·)

/-- All parameters of a value: those that are given as a whole come first. -/
def ofValue (value : Text) : Except Fault (List (Text × Parameter)) :=
  match itemsOf ((pieces value).drop 1) with
  | .error f => .error f
  | .ok items => (joined items (segmented items)).map (wholes items ++ ·)

end Parameter

end Mime
end GreetingServer
