import GreetingServer.Charset.Basic

/-! A charset in which a text is its ASCII characters and, behind its last hyphen, what other
characters have to be inserted and where. Each insertion is one number, which counts the places
passed since the last one; its digits have weights that adapt to the numbers before. -/
namespace GreetingServer
namespace Charset
namespace Punycode

def digit? (c : Char) : Option Nat :=
  let c := c.toUpper
  if 'A' ≤ c && c ≤ 'Z' then some (c.toNat - 'A'.toNat)
  else if c.isDigit then some (c.toNat - '0'.toNat + 26)
  else none

/-- The least digit at a place that does not end a number. -/
def threshold (place bias : Nat) : Nat := max 1 (min 26 (36 * (place + 1) - bias))

/-- A large number is divided until it is small; how often tells the bias. -/
def biasOf (delta divisions : Nat) : Nat :=
  if delta ≤ 455 then divisions + 36 * delta / (delta + 38) else biasOf (delta / 35) (divisions + 36)
termination_by delta
decreasing_by omega

/-- The bias after a number, given the length of the text then. -/
def adapt (delta length : Nat) (isFirst : Bool) : Nat :=
  let halved := if isFirst then delta / 700 else delta / 2
  biasOf (halved + halved / length) 0

/-- The code point of the last character, where it was inserted, and the text so far. `next` is the
first place behind the last insertion. -/
structure Progress where
  text : Text
  code : Nat := 0x80
  next : Nat := 0
  bias : Nat := 72
  isFirst : Bool := true
  /-- The digits of the number so far: their value, the weight of the next one, and their count. -/
  value : Nat := 0
  weight : Nat := 1
  place : Nat := 0

def greatest : Nat := 0x10ffff

namespace Progress

/-- A character is inserted. Code points behind the greatest are replaced by a question mark. -/
def insert (p : Progress) (delta : Nat) : Progress :=
  let length := p.text.length + 1
  let position := p.next + delta
  let code := p.code + position / length
  let code := if greatest < code then '?'.toNat else code
  let place := position % length
  let c := if code.isValidChar then Char.ofNat code else replacement
  { text := p.text.take place ++ c :: p.text.drop place
    code
    next := place + 1
    bias := adapt delta length p.isFirst
    isFirst := false }

/-- One digit. It ends its number if it is small for its place. -/
def push (p : Progress) (digit : Nat) : Progress :=
  let limit := threshold p.place p.bias
  let value := p.value + digit * p.weight
  if digit < limit then p.insert value
  else { p with value, weight := p.weight * (36 - limit), place := p.place + 1 }

/-- All digits up to the first character that is none. A number that has no end counts for nothing.
-/
def run (p : Progress) : Text → Text
  | [] => p.text
  | c :: rest =>
    match digit? c with
    | some digit => (p.push digit).run rest
    | none => p.text

end Progress

/-- The text that bytes spell. Bytes beyond ASCII are replaced before the last hyphen, and refused
behind it. -/
def decode (t : Text) : Except Refusal Text :=
  let digits := Text.afterLast '-' t
  let plain := digits.takeWhile (·.toNat < 128)
  match digits.drop plain.length with
  | byte :: _ => .error (.beyondAscii byte plain.length)
  | [] =>
    let base := t.take (t.length - digits.length - 1)
    .ok (({ text := base.map fun c => if c.toNat < 128 then c else replacement } : Progress).run digits)

def charset : Charset := { name := "punycode", decode }

end Punycode
end Charset
end GreetingServer
