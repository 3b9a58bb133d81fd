import GreetingServer.Charset.Basic
import GreetingServer.Text.CharacterName
import GreetingServer.Text.Hexadecimal

/-! Charsets in which a backslash starts the escape of a character. In the one most escapes of
programming languages are known; in the other just the two that give a code point. -/
namespace GreetingServer
namespace Charset
namespace Escapes

inductive Mode
  | plain
  | backslash
  /-- A code of up to three octal digits: how many there are, and their value. -/
  | octal (count value : Nat)
  /-- A code of hexadecimal digits: how many are still to come, and the value so far. -/
  | hexadecimal (left value : Nat)
  | beforeName
  | name (done : List Char)
  deriving Repr, DecidableEq

structure Progress where
  done : Done := []
  mode : Mode := .plain
  deriving Repr, DecidableEq

def controls : List (Char × Char) :=
  [('a', '\x07'), ('b', '\x08'), ('t', '\t'), ('n', '\n'), ('v', '\x0b'), ('f', '\x0c'), ('r', '\r'),
    ('\\', '\\'), ('\x27', '\x27'), ('\x22', '\x22')]

def digits? (c : Char) : Option Nat :=
  if c = 'u' then some 4 else if c = 'U' then some 8 else none

def octal? (c : Char) : Option Nat :=
  if '0' ≤ c && c ≤ '7' then some (c.toNat - '0'.toNat) else none

namespace Progress

def push (p : Progress) (c : Char) : Progress := ⟨c :: p.done, .plain⟩

def pushCode (p : Progress) (n : Nat) : Except Refusal Progress := (scalar n).map p.push

def plain (p : Progress) (c : Char) : Progress :=
  if c = '\\' then { p with mode := .backslash } else p.push c

/-- A backslash that starts no escape, and the character behind it. -/
def unescaped (p : Progress) (c : Char) : Progress := (p.push '\\').push c

def digit (p : Progress) (left value : Nat) (c : Char) : Except Refusal Progress :=
  match Text.hexadecimalValue? c with
  | none => .error .unspelled
  | some d =>
    let value := 16 * value + d
    if left = 1 then p.pushCode value else .ok { p with mode := .hexadecimal (left - 1) value }

/-- The character behind a backslash. An escaped end of line stands for nothing. -/
def escape (p : Progress) (c : Char) : Progress :=
  match digits? c, octal? c with
  | some count, _ => { p with mode := .hexadecimal count 0 }
  | none, some value => { p with mode := .octal 1 value }
  | none, none =>
    if c = 'x' then { p with mode := .hexadecimal 2 0 }
    else if c = 'N' then { p with mode := .beforeName }
    else if c = '\n' then { p with mode := .plain }
    else match controls.lookup c with
      | some control => p.push control
      | none => p.unescaped c

def step (p : Progress) (c : Char) : Except Refusal Progress :=
  match p.mode with
  | .plain => .ok (p.plain c)
  | .backslash => .ok (p.escape c)
  | .octal count value =>
    match octal? c with
    | some d =>
      if count = 2 then p.pushCode (8 * value + d)
      else .ok { p with mode := .octal (count + 1) (8 * value + d) }
    | none => (p.pushCode value).map fun p => p.plain c
  | .hexadecimal left value => p.digit left value c
  | .beforeName => if c = '\x7b' then .ok { p with mode := .name [] } else .error .unspelled
  | .name done =>
    if c = '\x7d' then
      match Text.ofName? done.reverse with
      | some c => .ok (p.push c)
      | none => .error .unspelled
    else .ok { p with mode := .name (c :: done) }

def stepRaw (p : Progress) (c : Char) : Except Refusal Progress :=
  match p.mode with
  | .backslash =>
    match digits? c with
    | some count => .ok { p with mode := .hexadecimal count 0 }
    | none => .ok (p.unescaped c)
  | .hexadecimal left value => p.digit left value c
  | _ => .ok (p.plain c)

/-- The text when there are no more characters. An escape may not be cut off, but octal digits may
be few. -/
def finish (p : Progress) : Except Refusal Text :=
  match p.mode with
  | .plain => .ok p.done.reverse
  | .octal _ value => (p.pushCode value).map (·.done.reverse)
  | _ => .error .unspelled

/-- The text when there are no more characters, where only codes are escaped. A backslash may be the
last character. -/
def finishRaw (p : Progress) : Except Refusal Text :=
  match p.mode with
  | .plain => .ok p.done.reverse
  | .backslash => .ok ('\\' :: p.done).reverse
  | _ => .error .unspelled

end Progress

def decode (t : Text) : Except Refusal Text :=
  match feed Progress.step {} t with
  | .error r => .error r
  | .ok p => p.finish

def decodeRaw (t : Text) : Except Refusal Text :=
  match feed Progress.stepRaw {} t with
  | .error r => .error r
  | .ok p => p.finishRaw

def all : List Charset :=
  [{ name := "unicode_escape", decode }, { name := "raw_unicode_escape", decode := decodeRaw }]

end Escapes
end Charset
end GreetingServer
