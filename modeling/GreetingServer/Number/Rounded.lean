import GreetingServer.Number.Shortest

/-! Decimals with a given number of places or digits, rounded to nearest, ties to even. -/
namespace GreetingServer
namespace Number

/-- The integer nearest to a quotient; a tie goes to the even neighbour. -/
def roundDiv (num den : Nat) : Nat :=
  let q := num / den
  let r := num % den
  if 2 * r < den then q
  else if den < 2 * r then q + 1
  else if q % 2 = 0 then q else q + 1

/-- The multiple of `10 ^ k` nearest to the number, counted in such steps. -/
def roundedTo (b : Binary) (k : Int) : Nat :=
  let (num, den) := fraction b.mantissa b.exponent
  roundDiv (num * Nat.pow 10 (-k).toNat) (den * Nat.pow 10 k.toNat)

/-- The number with a given number of digits, at least one. Rounding may carry into a new digit; the
last one, a zero, is dropped then. -/
def roundedDigits (b : Binary) (count : Nat) : Decimal :=
  if b.mantissa = 0 then ⟨0, 1 - (count : Int)⟩
  else
    let (num, den) := fraction b.mantissa b.exponent
    let k := magnitude num den - (count : Int)
    let digits := roundedTo b k
    if Nat.pow 10 count ≤ digits then ⟨digits / 10, k + 1⟩ else ⟨digits, k⟩

end Number
end GreetingServer
