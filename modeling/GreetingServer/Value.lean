import GreetingServer.Text.CodePoint

/-! Values of any shape: what a log field may hold, what a message template is filled with, and what
a peer address may be. A dictionary keeps the order in which its keys were first put; its keys may
have surrogates. -/
namespace GreetingServer

inductive Value
  | null
  | bool (b : Bool)
  | int (n : Int)
  | float (x : Float)
  | text (t : Text)
  | points (ps : List CodePoint)
  | bytes (b : Bytes)
  | list (items : List Value)
  | tuple (items : List Value)
  | dict (entries : List (List CodePoint × Value))
  deriving Inhabited

namespace Value

/-- Whether a value counts as true: not null, false, zero or empty. -/
def isTruthy : Value → Bool
  | null => false
  | bool b => b
  | int n => n != 0
  | float x => !(x == 0)
  | text t => !t.isEmpty
  | points ps => !ps.isEmpty
  | bytes b => !b.isEmpty
  | list items => !items.isEmpty
  | tuple items => !items.isEmpty
  | dict entries => !entries.isEmpty

def typeName : Value → Text
  | null => "NoneType".toList
  | bool _ => "bool".toList
  | int _ => "int".toList
  | float _ => "float".toList
  | text _ => "str".toList
  | points _ => "str".toList
  | bytes _ => "bytes".toList
  | list _ => "list".toList
  | tuple _ => "tuple".toList
  | dict _ => "dict".toList

def isKey : Value → Bool
  | list _ => false
  | dict _ => false
  | _ => true

/-- Code points are a text unless there is a surrogate among them. -/
def ofPoints (ps : List CodePoint) : Value :=
  match CodePoint.text? ps with
  | some t => text t
  | none => points ps

def ofFields (fields : List (Text × Value)) : Value :=
  dict (fields.map fun entry => (CodePoint.ofText entry.1, entry.2))

def textEntries (entries : List (List CodePoint × Value)) : List (Text × Value) :=
  entries.filterMap fun entry => (CodePoint.text? entry.1).map fun key => (key, entry.2)

@[simp] theorem ofPoints_ofText (t : Text) : ofPoints (CodePoint.ofText t) = text t := by
  simp [ofPoints]

end Value
end GreetingServer
