import GreetingServer.Text.Basic

/-! Hexadecimal numerals of a fixed least length, as escapes use them. -/
namespace GreetingServer
namespace Text

/-- The hexadecimal numeral in lower case, filled up with zeros. -/
def hexadecimal (length n : Nat) : Text := padLeft length '0' (Nat.toDigits 16 n)

def hexadecimalValue? (c : Char) : Option Nat :=
  if '0' ≤ c && c ≤ '9' then some (c.toNat - '0'.toNat)
  else if 'a' ≤ c && c ≤ 'f' then some (c.toNat - 'a'.toNat + 10)
  else if 'A' ≤ c && c ≤ 'F' then some (c.toNat - 'A'.toNat + 10)
  else none

end Text
end GreetingServer
