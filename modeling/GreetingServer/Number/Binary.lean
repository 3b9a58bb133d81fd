/-! Binary numbers: what the bits of a floating-point number stand for. -/
namespace GreetingServer
namespace Number

/-- The number that is `mantissa * 2 ^ exponent`, or its negative. -/
structure Binary where
  negative : Bool
  mantissa : Nat
  exponent : Int
  deriving Repr, DecidableEq

inductive Parts
  | nan
  | infinite (negative : Bool)
  | finite (value : Binary)
  deriving Repr, DecidableEq

def leastExponent : Int := -1074

/-- Mantissas above the least exponent lie between this and its double. -/
def leastNormal : Nat := Nat.pow 2 52

/-- One bit of sign, eleven of exponent and 52 of mantissa. -/
def Parts.ofBits (word : UInt64) : Parts :=
  let negative := word.toNat / Nat.pow 2 63 == 1
  let scale := word.toNat / leastNormal % Nat.pow 2 11
  let mantissa := word.toNat % leastNormal
  if scale = 2047 then
    if mantissa = 0 then .infinite negative else .nan
  else if scale = 0 then .finite ⟨negative, mantissa, leastExponent⟩
  else .finite ⟨negative, leastNormal + mantissa, leastExponent + ((scale - 1 : Nat) : Int)⟩

def Parts.ofFloat (x : Float) : Parts := .ofBits x.toBits

def fraction (mantissa : Nat) (exponent : Int) : Nat × Nat :=
  (mantissa * Nat.pow 2 exponent.toNat, Nat.pow 2 (-exponent).toNat)

/-- The integer that remains when the fraction of a finite number is dropped. -/
def Binary.truncate (b : Binary) : Int :=
  let (num, den) := fraction b.mantissa b.exponent
  if b.negative then -((num / den : Nat) : Int) else (num / den : Nat)

def Binary.whole? (b : Binary) : Option Int :=
  let (num, den) := fraction b.mantissa b.exponent
  if num % den = 0 then some b.truncate else none

end Number
end GreetingServer
