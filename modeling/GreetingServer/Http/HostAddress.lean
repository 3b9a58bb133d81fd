import GreetingServer.Text.Basic
import GreetingServer.Text.Hexadecimal

/-! Numeric host addresses: four decimal numbers with points, or up to eight hexadecimal numbers
with colons, of which one run of zeros may be left out and the last two may be written as four
decimal numbers. The second kind may name a zone after a percent sign. -/
namespace GreetingServer
namespace Http
namespace HostAddress

/-- A decimal number below 256 without leading zeros. -/
def isOctet (t : Text) : Bool :=
  !t.isEmpty && t.all Char.isDigit && t.length ≤ 3 && (t == ['0'] || t.head? != some '0') &&
    t.foldl (fun n c => 10 * n + (c.toNat - '0'.toNat)) 0 ≤ 255

/-- Four decimal numbers with points between them. -/
def isVersion4 (t : Text) : Bool :=
  let parts := Text.splitBy (· = '.') t
  parts.length == 4 && parts.all isOctet

/-- A hexadecimal number of at most four digits. -/
def isHextet (t : Text) : Bool :=
  !t.isEmpty && t.length ≤ 4 && t.all fun c => (Text.hexadecimalValue? c).isSome

/-- Four decimal numbers at the end stand for two hexadecimal ones; none if they are wrong. -/
def replaceTail (parts : List Text) : Option (List Text) :=
  match parts.getLast? with
  | some last =>
    if last.contains '.' then
      if isVersion4 last then some (parts.dropLast ++ [['0'], ['0']]) else none
    else some parts
  | none => some parts

/-- The numbers on one side of the left-out zeros: the outer end may be empty if nothing else is on
that side. -/
def sideOf (outerEmpty : Bool) (side : List Text) : Option (List Text) :=
  if outerEmpty then (if side.length = 1 then some [] else none) else some side

/-- The parts of an address without its zone form eight numbers, or fewer with zeros left out. -/
def isComplete (parts : List Text) : Bool :=
  let gaps := (List.range parts.length).filter fun i =>
    0 < i && i + 1 < parts.length && (parts.getD i []).isEmpty
  match gaps with
  | [] => parts.length == 8 && parts.all isHextet
  | [gap] =>
    let high := sideOf ((parts.head?.getD []).isEmpty) (parts.take gap)
    let low := sideOf ((parts.getLast?.getD []).isEmpty) (parts.drop (gap + 1))
    match high, low with
    | some high, some low => (high ++ low).length < 8 && (high ++ low).all isHextet
    | _, _ => false
  | _ => false

/-- The zone of an address is not empty and has no further percent sign. -/
def zoneIsValid (zone : Text) : Bool :=
  match zone with
  | [] => true
  | _ :: name => !name.isEmpty && !name.contains '%'

def isVersion6 (t : Text) : Bool :=
  let (address, zone) := Text.cut (· = '%') t
  !t.contains '/' && zoneIsValid zone &&
    (let parts := Text.splitBy (· = ':') address
    3 ≤ parts.length &&
      match replaceTail parts with
      | none => false
      | some parts => parts.length ≤ 9 && isComplete parts)

end HostAddress
end Http
end GreetingServer
