import GreetingServer.Config.PortText
import GreetingServer.Fault
import GreetingServer.Number.Binary
import GreetingServer.Ordered

/-! The address that the server listens on. It is made from values of any shape, and made only if
each of them is right. -/
namespace GreetingServer

structure Config where
  host : Text := "0.0.0.0".toList
  port : Int := 5000
  deriving Repr, DecidableEq

namespace Config

inductive Problem
  | notText
  | notUnicode
  | notInteger
  | unreadable
  | tooLarge
  | fractional
  | infinite
  | frozen
  deriving Repr, DecidableEq

def Problem.name : Problem → Text
  | notText => "string_type".toList
  | notUnicode => "string_unicode".toList
  | notInteger => "int_type".toList
  | unreadable => "int_parsing".toList
  | tooLarge => "int_parsing_size".toList
  | fractional => "int_from_float".toList
  | infinite => "finite_number".toList
  | frozen => "frozen_instance".toList

def Problem.message : Problem → Text
  | notText => "Input should be a valid string".toList
  | notUnicode =>
    "Input should be a valid string, unable to parse raw data as a unicode string".toList
  | notInteger => "Input should be a valid integer".toList
  | unreadable =>
    "Input should be a valid integer, unable to parse string as an integer".toList
  | tooLarge => "Unable to parse input string as an integer, exceeded maximum size".toList
  | fractional => "Input should be a valid integer, got a number with a fractional part".toList
  | infinite => "Input should be a finite number".toList
  | frozen => "Instance is frozen".toList

structure Issue where
  field : Text
  problem : Problem
  deriving Repr, DecidableEq

def address (c : Config) : Except Text.NumeralError Text :=
  (Text.ofInt c.port).map fun port => c.host ++ ':' :: port

/-- The port that a text spells. The length of a numeral counts only before it is tidied. -/
def readPort (t : Text) : Except Problem Int :=
  match readPlain t with
  | .value n => .ok n
  | .tooLong => .error .tooLarge
  | .other =>
    match (tidy t).map readPlain with
    | some (.value n) => .ok n
    | _ => .error .unreadable

/-- The port that a floating-point number stands for: it has to be whole and of middling size. -/
def wholePort (x : Float) : Except Problem Int :=
  match Number.Parts.ofFloat x with
  | .finite b =>
    match b.whole? with
    | none => .error .fractional
    | some n => if n.natAbs < Nat.pow 2 63 then .ok n else .error .tooLarge
  | _ => .error .infinite

def portOf : Value → Except Problem Int
  | .int n => .ok n
  | .bool b => .ok (if b then 1 else 0)
  | .text t => readPort t
  | .points _ => .error .notUnicode
  | .float x => wholePort x
  | _ => .error .notInteger

def hostOf : Value → Except Problem Text
  | .text t => .ok t
  | .points _ => .error .notUnicode
  | _ => .error .notText

def hostField : Text := "host".toList
def portField : Text := "port".toList

def fieldOf {α : Type} (read : Value → Except Problem α) (default : α) :
    Option Value → Except Problem α
  | none => .ok default
  | some v => read v

def issueOf {α : Type} (field : Text) : Except Problem α → List Issue
  | .ok _ => []
  | .error problem => [⟨field, problem⟩]

/-- A configuration from values by name; other names are passed over. -/
def ofValues (values : Ordered Text Value) : Except (List Issue) Config :=
  let host := fieldOf hostOf ({} : Config).host (values.get? hostField)
  let port := fieldOf portOf ({} : Config).port (values.get? portField)
  match host, port with
  | .ok host, .ok port => .ok ⟨host, port⟩
  | host, port => .error (issueOf hostField host ++ issueOf portField port)

theorem address_default : ({} : Config).address = .ok "0.0.0.0:5000".toList := by rfl

end Config
end GreetingServer
