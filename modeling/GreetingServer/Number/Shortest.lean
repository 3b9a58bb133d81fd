import GreetingServer.Number.Binary

/-! The shortest decimal that reads back. A binary number has an interval of reals that round to it;
among the decimals with the fewest digits in that interval the one nearest to the number is taken,
and of two that are equally near the even one. -/
namespace GreetingServer
namespace Number

structure Decimal where
  digits : Nat
  exponent : Int
  deriving Repr, DecidableEq

/-- The numbers of four times a mantissa's scale that bound the interval of a mantissa: half a step
above, and half a step below, which is a quarter where the exponent changes. -/
def bounds (b : Binary) : Nat × Nat :=
  (4 * b.mantissa -
    (if b.mantissa = leastNormal && b.exponent != leastExponent then 1 else 2), 4 * b.mantissa + 2)

/-- How many digits stand before the point; zero or less if the first digit stands behind it. -/
def magnitude (num den : Nat) : Int :=
  if den ≤ num then (Nat.toDigits 10 (num / den)).length
  else match (List.range 400).find? fun j => den ≤ num * Nat.pow 10 (j + 1) with
    | some j => -(j : Int)
    | none => 0

/-- The decimal on the grid of multiples of `10 ^ k` that reads back, if one of the two neighbours
of the number on that grid does. -/
def onGrid (b : Binary) (k : Int) : Option Nat :=
  let (num, den) := fraction 1 (b.exponent - 2)
  let a := num * Nat.pow 10 (-k).toNat
  let d := den * Nat.pow 10 k.toNat
  let value := 4 * b.mantissa * a
  let (low, high) := bounds b
  let inside (n : Nat) : Bool :=
    if b.mantissa % 2 = 0 then low * a ≤ n * d && n * d ≤ high * a
    else low * a < n * d && n * d < high * a
  let below := value / d
  let above := below + 1
  match inside below, inside above with
  | false, false => none
  | true, false => some below
  | false, true => some above
  | true, true =>
    let gapBelow := value - below * d
    let gapAbove := above * d - value
    if gapBelow < gapAbove then some below
    else if gapAbove < gapBelow then some above
    else if below % 2 = 0 then some below else some above

def dropZeros : Nat → Decimal → Decimal
  | 0, d => d
  | fuel + 1, d =>
    if d.digits != 0 && d.digits % 10 = 0 then dropZeros fuel ⟨d.digits / 10, d.exponent + 1⟩ else d

def digitsThatSuffice : Nat := 17

/-- The shortest decimal that reads back as the magnitude of the number. -/
def shortest (b : Binary) : Decimal :=
  if b.mantissa = 0 then ⟨0, 0⟩
  else
    let (num, den) := fraction b.mantissa b.exponent
    let size := magnitude num den
    let hit := (List.range digitsThatSuffice).findSome? fun (n : Nat) =>
      let k := size - ((n : Int) + 1)
      (onGrid b k).map fun digits => dropZeros digitsThatSuffice ⟨digits, k⟩
    hit.getD ⟨0, 0⟩

end Number
end GreetingServer
