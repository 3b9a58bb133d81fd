import GreetingServer.Config
import GreetingServer.Value.Display

/-! Assignments to a configuration, which is seen as values by name. Its fields cannot be changed.
Most names with an underscore in front can be assigned to, and tell nothing about the address; one
of them stands for all values together, which are then exchanged for others. -/
namespace GreetingServer
namespace Config

/-- Why a value is not assigned to a name. -/
inductive Refusal
  | issue (i : Issue)
  | fault (f : Fault)

def sharedNames : List String :=
  ["__class_vars__", "__private_attributes__", "__signature__"]

def sharedText (name : Text) : Text :=
  Text.quoted name ++ " is a ClassVar of `ServerConfig` and cannot be set on an instance. ".toList ++
    "If you want to set a value on the class, use `ServerConfig.".toList ++ name ++
    " = value`.".toList

/-- What goes wrong with a name that has an underscore in front. Of these only a few cannot be
assigned to, or not every value. -/
def innerFault? (name : Text) (value : Value) : Option Fault :=
  let fixed (text : Text) : Option Fault := some (Fault.of .noAttribute text)
  if sharedNames.any (·.toList = name) then fixed (sharedText name)
  else match String.ofList name, value with
    | "__class__", v =>
      some (Fault.wrongType ("__class__ must be set to a class, not '".toList ++ v.typeName ++
        "' object".toList))
    | "__dict__", .dict _ => none
    | "__dict__", v =>
      some (Fault.wrongType ("__dict__ must be set to a dictionary, not a '".toList ++ v.typeName ++
        "'".toList))
    | "__weakref__", _ =>
      fixed "attribute '__weakref__' of 'ServerConfig' objects is not writable".toList
    | "__fields_set__", _ =>
      fixed "property '__fields_set__' of 'ServerConfig' object has no setter".toList
    | _, _ => none

/-- No field can be changed, and nothing else has a name without an underscore in front. -/
def refusal? (name : Text) (value : Value) : Option Refusal :=
  if name.head? = some '_' then (innerFault? name value).map .fault
  else some (.issue ⟨name, .frozen⟩)

def allValues : Text := "__dict__".toList

def values (c : Config) : Ordered Text Value :=
  [(hostField, .text c.host), (portField, .int c.port)]

def assign (name : Text) (value : Value) (held : Ordered Text Value) :
    Ordered Text Value × Option Refusal :=
  match refusal? name value, value with
  | some r, _ => (held, some r)
  | none, .dict entries => (if name = allValues then Value.textEntries entries else held, none)
  | none, _ => (held, none)

def assignAll (held : Ordered Text Value) :
    List (Text × Value) → Ordered Text Value × List (Option Refusal)
  | [] => (held, [])
  | (name, value) :: rest =>
    let (held, refusal) := assign name value held
    let (held, refusals) := assignAll held rest
    (held, refusal :: refusals)

/-- The value of a field. It is lost if all values have been exchanged for others without it. -/
def valueOf (field : Text) (held : Ordered Text Value) : Except Fault Value :=
  match held.get? field with
  | some v => .ok v
  | none =>
    .error (Fault.of .noAttribute
      ("'ServerConfig' object has no attribute ".toList ++ Text.quoted field))

def textOf (field : Text) (held : Ordered Text Value) : Except Fault (List CodePoint) :=
  match valueOf field held with
  | .error f => .error f
  | .ok v => Fault.written v.displayed

def addressOf (held : Ordered Text Value) : Except Fault (List CodePoint) :=
  match textOf hostField held with
  | .error f => .error f
  | .ok host => (textOf portField held).map fun port => host ++ .char ':' :: port

@[simp] theorem addressOf_values (c : Config) :
    addressOf c.values = (Fault.written c.address).map CodePoint.ofText := by
  have hhost : textOf hostField c.values = .ok (CodePoint.ofText c.host) := by
    simp [textOf, valueOf, values, Ordered.get?_cons, hostField, Fault.written]
  have hport : textOf portField c.values = Fault.written ((Text.ofInt c.port).map CodePoint.ofText) := by
    simp [textOf, valueOf, values, Ordered.get?_cons, hostField, portField, Value.displayed_int]
  rw [addressOf, hhost, hport, address]
  cases Text.ofInt c.port with
  | error e => rfl
  | ok t => simp [Except.map, Fault.written, CodePoint.ofText]

theorem assign_of_head {name : Text} (h : name.head? ≠ some '_') (value : Value)
    (held : Ordered Text Value) :
    assign name value held = (held, some (.issue ⟨name, .frozen⟩)) := by
  simp [assign, refusal?, h]

end Config
end GreetingServer
