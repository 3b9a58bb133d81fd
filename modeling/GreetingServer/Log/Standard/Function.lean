import GreetingServer.Fault

/-! Functions and how they may be called: with values one after the other, and with fields, each of
which stands for a value by its name. -/
namespace GreetingServer
namespace Log
namespace Standard

structure Function where
  name : String
  parameters : List String := ["self"]
  takesMore : Bool := false
  takesFields : Bool := false
  deriving Repr, DecidableEq

namespace Function

def fault (f : Function) (text : Text) : Fault := Fault.wrongType (f.name.toList ++ "() ".toList ++ text)

/-- What is wrong with a field, given the count of the values before the fields: it stands for one
of them, or for nothing. -/
def fieldFault? (f : Function) (given : Nat) (name : Text) : Option Fault :=
  match f.parameters.findIdx? (·.toList = name) with
  | some i =>
    if i < given then
      some (f.fault ("got multiple values for argument '".toList ++ name ++ "'".toList))
    else none
  | none =>
    if f.takesFields then none
    else some (f.fault ("got an unexpected keyword argument '".toList ++ name ++ "'".toList))

/-- What is wrong with the count of the values: there are too many. -/
def countFault? (f : Function) (given : Nat) : Option Fault :=
  let count := f.parameters.length
  if given ≤ count || f.takesMore then none
  else
    let noun := if count = 1 then " positional argument but " else " positional arguments but "
    let verb := if given = 1 then " was given" else " were given"
    some (f.fault ("takes ".toList ++ Text.ofNat count ++ noun.toList ++ Text.ofNat given ++ verb.toList))

/-- What is missing: the first value that is neither given nor stood for by a field. -/
def missingFault? (f : Function) (given : Nat) (names : List Text) : Option Fault :=
  ((f.parameters.drop given).find? fun p => !names.contains p.toList).map fun p =>
    f.fault ("missing 1 required positional argument: '".toList ++ p.toList ++ "'".toList)

/-- A function is called with a count of values, and with fields of some names. Of all that is wrong
the first field is told, then the count. -/
def check (f : Function) (given : Nat) (names : List Text) : Except Fault Unit :=
  match names.findSome? (f.fieldFault? given) with
  | some fault => .error fault
  | none =>
    match f.countFault? given with
    | some fault => .error fault
    | none =>
      match f.missingFault? given names with
      | some fault => .error fault
      | none => .ok ()

end Function
end Standard
end Log
end GreetingServer
