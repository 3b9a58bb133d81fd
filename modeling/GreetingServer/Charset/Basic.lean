import GreetingServer.Text.Latin1

/-! Charsets. A charset has a name and reads bytes as text. The bytes are given as the Latin-1
characters that they stand for; what they spell may be refused for several reasons. -/
namespace GreetingServer

inductive Charset.Refusal
  | unspelled
  | beyondAscii (byte : Char) (position : Nat)
  /-- The charset never reads anything, and says why. -/
  | unsupported (complaint : String)
  /-- The charset comes to a state that it has no rule for. -/
  | internal
  deriving Repr, DecidableEq

/-- A charset: its name, other names for it, and how bytes are read in it. -/
structure Charset where
  name : String
  aliases : List String := []
  decode : Text → Except Charset.Refusal Text

namespace Charset

def replacement : Char := '\uFFFD'

/-- A machine takes one byte at a time, up to the first that it refuses. -/
def feed {σ : Type} (step : σ → Char → Except Refusal σ) (start : σ) (t : Text) : Except Refusal σ :=
  t.foldl (fun s c => s.bind fun s => step s c) (.ok start)

/-- The character of a code point, which may not be a surrogate. -/
def scalar (n : Nat) : Except Refusal Char :=
  if n.isValidChar then .ok (Char.ofNat n) else .error .unspelled

/-- Characters that are read one after the other: those so far, last first. -/
abbrev Done := List Char

end Charset
end GreetingServer
