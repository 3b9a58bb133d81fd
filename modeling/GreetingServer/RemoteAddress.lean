import GreetingServer.Fault

/-! The text of a peer address. -/
namespace GreetingServer
namespace RemoteAddress

/-- The character that stands between a host and a port. -/
def colon : CodePoint := .char ':'

/-- A host and a port with a colon between them. Hosts with colons stand in brackets, so that the
last colon is always the one before the port. -/
def hostAndPort (host port : List CodePoint) : List CodePoint :=
  if host.contains colon then
    .char '[' :: host ++ .char ']' :: colon :: port
  else host ++ colon :: port

def points : Value → Except Text.NumeralError (List CodePoint)
  | .tuple (host :: port :: _) =>
    match host.displayed with
    | .error e => .error e
    | .ok host => port.displayed.map (hostAndPort host)
  | address => address.displayed

theorem points_tuple (host : List CodePoint) (port : Int) (rest : List Value) :
    points (.tuple (.ofPoints host :: .int port :: rest)) =
      (Text.ofInt port).map fun t => hostAndPort host (CodePoint.ofText t) := by
  have hhost : (Value.ofPoints host).displayed = .ok host := by
    rw [Value.displayed, Value.checkNumerals_ofPoints, Value.displayPoints_ofPoints]
    rfl
  simp only [points, hhost, Value.displayed_int]
  cases Text.ofInt port <;> rfl

end RemoteAddress

/-- The address of a peer as the operating system tells it. The numbers in it are short enough to be
written, and so it has a text. -/
structure Peer where
  address : Value
  short : address.checkNumerals = .ok ()
  points : List CodePoint
  told : RemoteAddress.points address = .ok points

namespace Peer

def text (p : Peer) : Text := CodePoint.replaced p.points

def ofValue? (address : Value) : Option Peer :=
  match hs : address.checkNumerals, ht : RemoteAddress.points address with
  | .ok (), .ok points => some ⟨address, hs, points, ht⟩
  | _, _ => none

def ofHost (host : Text) (port : UInt16) : Peer where
  address := .tuple [.text host, .int port.toNat]
  short := by
    simp [Value.checkNumerals, Value.checkItems, Except.map,
      Text.ofInt_of_lt (Nat.lt_trans port.toNat_lt (by decide))]
  points := RemoteAddress.hostAndPort (CodePoint.ofText host)
    (CodePoint.ofText (Text.ofNat port.toNat))
  told := by
    simp [RemoteAddress.points, Value.displayed_int, Except.map,
      Text.ofInt_of_lt (Nat.lt_trans port.toNat_lt (by decide))]

def ofTexts (host port : Text) : Peer where
  address := .tuple [.text host, .text port]
  short := by simp [Value.checkNumerals, Value.checkItems]
  points := RemoteAddress.hostAndPort (CodePoint.ofText host) (CodePoint.ofText port)
  told := by simp [RemoteAddress.points, Except.map]

def ofText (address : Text) : Peer where
  address := .text address
  short := by simp [Value.checkNumerals]
  points := CodePoint.ofText address
  told := by simp [RemoteAddress.points]

end Peer
end GreetingServer
