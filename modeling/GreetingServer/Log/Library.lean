import GreetingServer.Clock
import GreetingServer.Fault.Report
import GreetingServer.Json.Writer
import GreetingServer.Log.Message

/-! The logging library, as far as the program uses it. It is not the program's own, and so it is
whatever has these operations. The program's part is which processors an entry goes through, and in
which order. -/
namespace GreetingServer
namespace Log

/-- What a logger is set up with. What is null is as usual. -/
structure Setup where
  /-- What an entry goes through before it is printed. -/
  processors : Value := .null
  wrapper : Value := .null
  container : Value := .null
  keeps : Bool := false

/-- What processors take and give: the name of a method, and fields. A fault is no value; the field
for faults stands for it. -/
structure Draft where
  method : Text
  fields : Fields
  fault : Option Fault := none

/-- What there is beside a draft: the variables of the context, the fault that is being dealt with,
and the time. -/
structure Surroundings (Context : Type) where
  context : Context
  handled : Option Fault
  now : Instant

abbrev Processor (Context : Type) := Surroundings Context → Draft → Except Fault Draft

/-- The last one of the processors, which gives the text of a line. -/
abbrev Renderer (Context : Type) := Surroundings Context → Draft → Except Fault Text

structure Pipeline (Context : Type) where
  processors : List (Processor Context)
  renderer : Renderer Context

def processAll {Context : Type} (around : Surroundings Context) :
    List (Processor Context) → Draft → Except Fault Draft
  | [], d => .ok d
  | processor :: rest, d =>
    match processor around d with
    | .error f => .error f
    | .ok d => processAll around rest d

def Pipeline.run {Context : Type} (p : Pipeline Context) (around : Surroundings Context)
    (d : Draft) : Except Fault Text :=
  match processAll around p.processors d with
  | .error f => .error f
  | .ok d => p.renderer around d

structure Library where
  Logger : Type
  Context : Type
  get : Fields → Except Fault Logger
  bind : Fields → Logger → Logger × Except Fault Logger
  unbind : List Value → Logger → Logger × Except Fault Logger
  tryUnbind : List Value → Logger → Logger × Except Fault Logger
  fields : Logger → Fields
  setup : Logger → Setup
  emptyContext : Context
  bindContext : Fields → Context → Context
  unbindContext : List Text → Context → Context
  clearContext : Context → Context
  /-- The variables of the context, in an order of the library's own. -/
  contextFields : Context → Fields
  mergeContext : Processor Context
  addLevel : Processor Context
  setFault : Processor Context
  formatFault : Processor Context
  stampTime (format : Text) (universal : Bool) : Processor Context
  renderJson : Renderer Context
  /-- A method of a logger is called: the logger after that, and the lines that are printed. The
  library has been told which pipeline to use. -/
  log : Pipeline Context → Surroundings Context → Message → Logger →
    Logger × Except Fault (List Text)

/-- What the program has all its entries go through. -/
def Library.pipeline (lib : Library) : Pipeline lib.Context where
  processors := [lib.mergeContext, lib.addLevel, lib.setFault, lib.formatFault,
    lib.stampTime "iso".toList true]
  renderer := lib.renderJson

/-- A method of a logger is called where the program has set up the library. -/
def Library.send (lib : Library) (context : lib.Context) (now : Instant) (m : Message)
    (l : lib.Logger) : lib.Logger × Except Fault (List Text) :=
  lib.log lib.pipeline ⟨context, m.handled, now⟩ m l

/-- What goes into the processors for a call through a logger with fields. The event is a field,
unless it is null. -/
def Call.draft (c : Call) (m : Message) (event : Value) (bound : Fields) : Draft where
  method := c.level.name
  fields :=
    let fields := Ordered.putAll (c.passed m.namesHandled) bound
    match event with
    | .null => fields
    | event => Ordered.put eventField event fields
  fault := if m.namesHandled then m.handled else none

end Log
end GreetingServer
