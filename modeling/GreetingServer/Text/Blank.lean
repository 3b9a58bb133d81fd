import GreetingServer.Text.Basic
import GreetingServer.Text.Interval

/-! Blank characters: the spaces of all scripts, the line and paragraph separators, and the controls
that separate lines, columns, pages and records. -/
namespace GreetingServer
namespace Text

def blankIntervals : List (Nat × Nat) :=
  [(0x9, 0xd), (0x1c, 0x20), (0x85, 0x85), (0xa0, 0xa0), (0x1680, 0x1680), (0x2000, 0x200a),
    (0x2028, 0x2029), (0x202f, 0x202f), (0x205f, 0x205f), (0x3000, 0x3000)]

def isBlank (c : Char) : Bool := inIntervals blankIntervals c

def words (t : Text) : List Text := (splitBy isBlank t).filter (!·.isEmpty)

def strip (t : Text) : Text := trim isBlank t

end Text
end GreetingServer
