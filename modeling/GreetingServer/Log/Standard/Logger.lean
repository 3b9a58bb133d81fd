import GreetingServer.Log.Documentation
import GreetingServer.Log.Standard.Function

/-! Loggers of the standard library of loggers. A logger has fields, which it adds to every entry,
and a setup. Others are derived from it. A logger that is not derived is assembled whenever it is
used; its setup may stand in the way of that, and may ask for the assembled one to be kept. -/
namespace GreetingServer
namespace Log
namespace Standard

def firstType? : Value → Except Fault (Option Text)
  | .text t => .ok (t.head?.map fun c => (Value.text [c]).typeName)
  | .points ps => .ok (ps.head?.map fun p => (Value.points [p]).typeName)
  | .bytes b => .ok (b.head?.map fun byte => (Value.int byte.toNat).typeName)
  | .list items | .tuple items => .ok (items.head?.map Value.typeName)
  | .dict entries => .ok (entries.head?.map fun entry => (Value.points entry.1).typeName)
  | v => .error (Fault.wrongType ("'".toList ++ v.typeName ++ "' object is not iterable".toList))

def notCallable (typeName : Text) : Fault :=
  Fault.wrongType ("'".toList ++ typeName ++ "' object is not callable".toList)

/-- A value that is not null, false, zero or empty is called. -/
def checkCallable (v : Value) : Except Fault Unit :=
  if v.isTruthy then .error (notCallable v.typeName) else .ok ()

def printFunction : Function := { name := "PrintLogger.msg", parameters := ["self", "message"] }

/-- A logger is assembled. No value can do that but the usual ones. -/
def assemble (s : Setup) : Except Fault Unit :=
  match checkCallable s.container with
  | .error f => .error f
  | .ok () => checkCallable s.wrapper

/-- An entry with fields of some names goes through the processors, none of which can be called but
the usual ones. If there are none, the printing function is called with the fields, which goes wrong
unless there is one field for the message and no other. -/
def process (s : Setup) (names : List Text) : Except Fault Unit :=
  match s.processors with
  | .null => .ok ()
  | v =>
    match firstType? v with
    | .error f => .error f
    | .ok (some typeName) => .error (notCallable typeName)
    | .ok none => printFunction.check 1 names

inductive Stage
  | waiting
  | kept
  | derived
  deriving Repr, DecidableEq

structure Logger where
  fields : Fields := []
  setup : Setup := {}
  stage : Stage := .waiting

def unbind (keys : List Value) (fields : Fields) : Except Fault Fields :=
  match keys with
  | [] => .ok fields
  | key :: rest =>
    if !key.isKey then .error (Fault.unhashable key.typeName)
    else match key with
      | .text t =>
        if (Ordered.get? fields t).isSome then unbind rest (Ordered.erase t fields)
        else .error (Fault.missing key)
      | key => .error (Fault.missing key)

/-- Fields without some keys, whether they are there or not. Nothing is looked for among no fields.
-/
def tryUnbind (keys : List Value) (fields : Fields) : Except Fault Fields :=
  match keys with
  | [] => .ok fields
  | key :: rest =>
    if fields.isEmpty then .ok fields
    else if !key.isKey then .error (Fault.unhashable key.typeName)
    else match key with
      | .text t => tryUnbind rest (Ordered.erase t fields)
      | _ => tryUnbind rest fields

namespace Logger

def makeFunction : Function :=
  { name := "wrap_logger", parameters := ["logger"], takesFields := true }

/-- A logger is made, unless a field has a name that its making needs. -/
def make (fields : Fields) : Except Fault Logger :=
  if (Ordered.get? fields "logger_factory_args".toList).isSome then
    .error (Fault.wrongType ("structlog._config.wrap_logger() got multiple values for keyword argument ".toList
      ++ Text.quoted "logger_factory_args".toList))
  else
    (makeFunction.check 1 (Ordered.keys fields)).map fun _ =>
      { fields := withoutSettings fields, setup := setupOf fields }

def assemble (l : Logger) : Except Fault Unit :=
  match l.stage with
  | .waiting => Standard.assemble l.setup
  | _ => .ok ()

def used (l : Logger) : Logger :=
  match l.stage, l.assemble with
  | .waiting, .ok () => if l.setup.keeps then { l with stage := .kept } else l
  | _, _ => l

def functionName (l : Logger) (name : String) : String :=
  if l.stage = .derived then "BoundLoggerBase." ++ name else "BoundLoggerLazyProxy." ++ name

def derive (l : Logger) (fields : Fields) : Logger := { l with fields, stage := .derived }

def bindFunction (l : Logger) : Function :=
  if l.stage = .kept then
    { name := "BoundLoggerLazyProxy.bind.<locals>.finalized_bind", parameters := [], takesFields := true }
  else { name := l.functionName "bind", takesFields := true }

def lastBindFunction : Function := { name := "BoundLoggerBase.bind", takesFields := true }

def bind (fields : Fields) (l : Logger) : Logger × Except Fault Logger :=
  let function := if l.stage = .kept then lastBindFunction else l.bindFunction
  match function.check 1 (Ordered.keys fields) with
  | .error f => (l, .error f)
  | .ok () => (l.used, l.assemble.map fun _ => l.derive (Ordered.putAll fields l.fields))

def change (l : Logger) (changed : Fields → Except Fault Fields) : Logger × Except Fault Logger :=
  match l.assemble with
  | .error f => (l, .error f)
  | .ok () => (l.used, (changed l.fields).map l.derive)

@[simp] theorem used_fields (l : Logger) : l.used.fields = l.fields := by
  unfold used
  split
  · split <;> rfl
  · rfl

@[simp] theorem used_setup (l : Logger) : l.used.setup = l.setup := by
  unfold used
  split
  · split <;> rfl
  · rfl

end Logger
end Standard
end Log
end GreetingServer
