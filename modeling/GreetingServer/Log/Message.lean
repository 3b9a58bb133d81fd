import GreetingServer.Log.Entry
import GreetingServer.Template

/-! Messages: calls of a logger by the names of its methods, and what they ask for. Most methods ask
for an entry; the others derive loggers, tell something about the logger, or put off what they do. -/
namespace GreetingServer
namespace Log

/-- A way to make an entry: its level, and whether it is about the fault being dealt with unless
something else is said. -/
structure Method where
  level : Level
  aboutHandled : Bool := false
  deriving Repr, DecidableEq

def methods : List (String × Method) :=
  [("debug", ⟨.debug, false⟩), ("info", ⟨.info, false⟩), ("msg", ⟨.info, false⟩),
    ("warning", ⟨.warning, false⟩), ("warn", ⟨.warning, false⟩), ("error", ⟨.error, false⟩),
    ("exception", ⟨.error, true⟩), ("critical", ⟨.critical, false⟩), ("fatal", ⟨.critical, false⟩)]

def levels : List (Nat × Level) :=
  [(10, .debug), (20, .info), (30, .warning), (40, .error), (50, .critical)]

/-- A value is compared with the least level, which is zero: whether it is lower. -/
def isLower (sign : String) (v : Value) : Except Fault Bool :=
  match v with
  | .int n => .ok (n < 0)
  | .bool _ => .ok false
  | .float x => .ok (x < 0)
  | v => .error (Fault.unordered sign v.typeName "int".toList)

/-- The level that a value tells, whatever kind of number it is. -/
def levelOf? (v : Value) : Option Level :=
  (levels.find? fun entry =>
    match v with
    | .int n => n = entry.1
    | .float x => x == Float.ofNat entry.1
    | _ => false).map (·.2)

/-- A call of a logger by the name of a method. -/
structure Message where
  method : Text
  event : Value
  arguments : List Value := []
  fields : Fields := []
  /-- The fault that is being dealt with during the call. -/
  handled : Option Fault := none
  namesHandled : Bool := false

structure Call where
  level : Level
  event : Value
  values : List Value
  given : Fields
  /-- The entry is about the fault being dealt with unless a field says otherwise. -/
  aboutHandled : Bool

namespace Message

/-- What a call says: its event, which may be a template for values. -/
def said (event : Value) (arguments : List Value) : Except Fault Value :=
  match event with
  | .text t => Template.fill (CodePoint.ofText t) arguments
  | .points ps => Template.fill ps arguments
  | v =>
    if arguments.isEmpty then .ok v
    else
      .error (Fault.wrongType ("unsupported operand type(s) for %: '".toList ++ v.typeName ++
        "' and 'tuple'".toList))

/-- What the method that takes the number of a level asks for: it says its first argument, or its
field for the event if it has no argument, and nothing at a level that is lower than all. -/
def leveledCall? (m : Message) : Option Call :=
  match isLower "<" m.event with
  | .ok false =>
    (levelOf? m.event).map fun level =>
      match m.arguments with
      | event :: values => ⟨level, event, values, m.fields, false⟩
      | [] => ⟨level, (Ordered.get? m.fields eventField).getD .null, [],
          Ordered.erase eventField m.fields, false⟩
  | _ => none

def call? (m : Message) : Option Call :=
  match methods.find? fun known => known.1.toList = m.method with
  | some known => some ⟨known.2.level, m.event, m.arguments, m.fields, known.2.aboutHandled⟩
  | none => if m.method = "log".toList then m.leveledCall? else none

end Message

namespace Call

def named (c : Call) (namesHandled : Bool) : Fields :=
  if namesHandled then Ordered.put faultField .null c.given else c.given

def passed (c : Call) (namesHandled : Bool) : Fields :=
  if c.aboutHandled then Ordered.putNew faultField (.bool true) (c.named namesHandled)
  else c.named namesHandled

end Call

def Entry.message (e : Entry) : Message where
  method := e.level.name
  event := e.event
  fields := e.fields
  handled := e.fault
  namesHandled := e.fault.isSome

end Log
end GreetingServer
