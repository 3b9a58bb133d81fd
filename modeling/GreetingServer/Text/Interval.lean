/-! A character class can be given by intervals of code points. -/
namespace GreetingServer
namespace Text

def inIntervals (intervals : List (Nat × Nat)) (c : Char) : Bool :=
  intervals.any fun interval => interval.1 ≤ c.toNat && c.toNat ≤ interval.2

end Text
end GreetingServer
