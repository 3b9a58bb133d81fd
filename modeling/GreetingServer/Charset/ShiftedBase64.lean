import GreetingServer.Charset.Basic

/-! A charset of seven bits. Most ASCII characters stand for themselves; others are written as the
bits of their units of sixteen, in sixes, between a plus sign and the next character that stands for
no six bits. -/
namespace GreetingServer
namespace Charset
namespace ShiftedBase64

def bits? (c : Char) : Option Nat :=
  if 'A' ≤ c && c ≤ 'Z' then some (c.toNat - 'A'.toNat)
  else if 'a' ≤ c && c ≤ 'z' then some (c.toNat - 'a'.toNat + 26)
  else if c.isDigit then some (c.toNat - '0'.toNat + 52)
  else if c = '+' then some 62
  else if c = '/' then some 63
  else none

inductive Mode
  | plain
  | opened
  /-- Bits: as many as are left over from the units so far, and their number. -/
  | shifted (count rest : Nat)
  deriving Repr, DecidableEq

structure Progress where
  done : Done := []
  mode : Mode := .plain
  deriving Repr, DecidableEq

namespace Progress

def plain (p : Progress) (c : Char) : Except Refusal Progress :=
  if c.toNat < 128 then .ok ⟨c :: p.done, .plain⟩ else .error .unspelled

def push (p : Progress) (count rest bits : Nat) : Except Refusal Progress :=
  let count := count + 6
  let rest := 64 * rest + bits
  if count < 16 then .ok { p with mode := .shifted count rest }
  else
    let left := count - 16
    (scalar (rest / Nat.pow 2 left)).map fun c => ⟨c :: p.done, .shifted left (rest % Nat.pow 2 left)⟩

/-- Bits that are left over fill up the last six, and are zero. -/
def closes (count rest : Nat) : Bool := count < 6 && rest = 0

def step (p : Progress) (c : Char) : Except Refusal Progress :=
  match p.mode with
  | .plain => if c = '+' then .ok { p with mode := .opened } else p.plain c
  | .opened =>
    match bits? c with
    | some bits => p.push 0 0 bits
    | none => if c = '-' then .ok ⟨'+' :: p.done, .plain⟩ else .error .unspelled
  | .shifted count rest =>
    match bits? c with
    | some bits => p.push count rest bits
    | none =>
      if !closes count rest then .error .unspelled
      else if c = '-' then .ok { p with mode := .plain }
      else p.plain c

def finish (p : Progress) : Except Refusal Text :=
  match p.mode with
  | .shifted count rest => if closes count rest then .ok p.done.reverse else .error .unspelled
  | _ => .ok p.done.reverse

end Progress

def decode (t : Text) : Except Refusal Text :=
  match feed Progress.step {} t with
  | .error r => .error r
  | .ok p => p.finish

def charset : Charset := ⟨"utf_7", ["u7", "unicode_1_1_utf_7", "utf7"], decode⟩

end ShiftedBase64
end Charset
end GreetingServer
