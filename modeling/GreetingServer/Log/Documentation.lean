import GreetingServer.Log.Library

/-! What the documentation of the logging library says of its operations. Nothing else is known of
them. In particular, nothing is said about the order of the variables of the context. -/
namespace GreetingServer
namespace Log

/-- The names that set up a logger when it is made. They are no fields. -/
def settings : List String :=
  ["processors", "wrapper_class", "context_class", "cache_logger_on_first_use"]

def withoutSettings (fields : Fields) : Fields :=
  fields.filter fun field => !settings.any (·.toList = field.1)

/-- The setup among fields. Only the value true asks for keeping the assembled logger. -/
def setupOf (fields : Fields) : Setup where
  processors := (Ordered.get? fields "processors".toList).getD .null
  wrapper := (Ordered.get? fields "wrapper_class".toList).getD .null
  container := (Ordered.get? fields "context_class".toList).getD .null
  keeps := match Ordered.get? fields "cache_logger_on_first_use".toList with
    | some (.bool b) => b
    | _ => false

def Setup.printsFields (s : Setup) : Bool :=
  match s.processors with
  | .text t => t.isEmpty
  | .points ps => ps.isEmpty
  | .bytes b => b.isEmpty
  | .list items => items.isEmpty
  | .tuple items => items.isEmpty
  | .dict entries => entries.isEmpty
  | _ => false

def namesOf (keys : List Value) : List Text :=
  keys.filterMap fun key =>
    match key with
    | .text t => some t
    | _ => none

def without (names : List Text) (fields : Fields) : Fields :=
  fields.filter fun field => field.1 ∉ names

def addContext (context fields : Fields) : Fields :=
  context.foldl (fun fields entry => Ordered.putNew entry.1 entry.2 fields) fields

def levelOfMethod (method : Text) : Text :=
  if method = "warn".toList then "warning".toList
  else if method = "exception".toList then "error".toList
  else method

/-- The fault that a draft is about: the one that its field for faults stands for, or the one being
dealt with if the value of the field asks for it. -/
def Draft.about (d : Draft) (handled : Option Fault) : Option Fault :=
  match Ordered.get? d.fields faultField with
  | none => none
  | some v => if d.fault.isSome then d.fault else if v.isTruthy then handled else none

/-- The field for faults is replaced by the report of the fault that it tells. -/
def Draft.formatted (d : Draft) (handled : Option Fault) (trace : Fault.Trace) : Draft :=
  let fields := Ordered.erase faultField d.fields
  { d with
    fault := none
    fields := match d.about handled with
      | some f => Ordered.put reportField (.ofPoints (f.report trace)) fields
      | none => fields }

/-- What is printed without processors: the function that prints a text is called with the fields,
which has to be one for the message and no other. -/
structure Draft.IsLoose (d : Draft) (lines : List Text) : Prop where
  names : ∀ name ∈ Ordered.keys d.fields, name = messageField
  lines : ∃ value text, Ordered.get? d.fields messageField = some value ∧
    value.displayed = .ok (CodePoint.ofText text) ∧ lines = Text.splitBy (· = '\n') text

def ownNames : List String :=
  ["self", "logger", "logger_factory_args", "method_name", "event"] ++ settings

def AreOrdinary (fields : Fields) : Prop :=
  ∀ name ∈ Ordered.keys fields, ∀ own ∈ ownNames, name ≠ own.toList

/-- A call of the method of a level with a text and fields alone. -/
structure Message.IsOrdinary (m : Message) (level : Level) (event : List CodePoint) : Prop where
  method : m.method = level.name
  event : m.event = .ofPoints event
  arguments : m.arguments = []
  fields : AreOrdinary m.fields

variable (lib : Library)

/-- Loggers never change what they hold, and others are derived from them. -/
structure Library.DerivesLoggers : Prop where
  get {fields : Fields} {l : lib.Logger} (h : lib.get fields = .ok l) :
    lib.fields l = withoutSettings fields ∧ lib.setup l = setupOf fields
  get_ordinary {fields : Fields} (h : AreOrdinary fields) : ∃ l, lib.get fields = .ok l
  bind_source (fields : Fields) (l : lib.Logger) :
    lib.fields (lib.bind fields l).1 = lib.fields l ∧ lib.setup (lib.bind fields l).1 = lib.setup l
  bind {fields : Fields} {l other : lib.Logger} (h : (lib.bind fields l).2 = .ok other) :
    lib.fields other = Ordered.putAll fields (lib.fields l) ∧ lib.setup other = lib.setup l
  bind_ordinary {fields : Fields} {l : lib.Logger} (h : AreOrdinary fields)
    (hs : lib.setup l = {}) : ∃ other, (lib.bind fields l).2 = .ok other
  unbind_source (keys : List Value) (l : lib.Logger) :
    lib.fields (lib.unbind keys l).1 = lib.fields l ∧ lib.setup (lib.unbind keys l).1 = lib.setup l
  unbind {keys : List Value} {l other : lib.Logger} (h : (lib.unbind keys l).2 = .ok other) :
    lib.fields other = without (namesOf keys) (lib.fields l) ∧ lib.setup other = lib.setup l
  tryUnbind_source (keys : List Value) (l : lib.Logger) :
    lib.fields (lib.tryUnbind keys l).1 = lib.fields l ∧
      lib.setup (lib.tryUnbind keys l).1 = lib.setup l
  tryUnbind {keys : List Value} {l other : lib.Logger} (h : (lib.tryUnbind keys l).2 = .ok other) :
    lib.fields other = without (namesOf keys) (lib.fields l) ∧ lib.setup other = lib.setup l

structure Library.HoldsContext : Prop where
  distinct (c : lib.Context) : (Ordered.keys (lib.contextFields c)).Nodup
  empty : lib.contextFields lib.emptyContext = []
  bind (fields : Fields) (c : lib.Context) :
    (lib.contextFields (lib.bindContext fields c)).Perm (Ordered.putAll fields (lib.contextFields c))
  unbind (names : List Text) (c : lib.Context) :
    (lib.contextFields (lib.unbindContext names c)).Perm (without names (lib.contextFields c))
  clear (c : lib.Context) : lib.contextFields (lib.clearContext c) = []

structure Library.ProcessesDrafts : Prop where
  mergeContext (around : Surroundings lib.Context) (d : Draft) :
    ∃ order, order.Perm (lib.contextFields around.context) ∧
      lib.mergeContext around d = .ok { d with fields := addContext order d.fields }
  addLevel (around : Surroundings lib.Context) (d : Draft) :
    lib.addLevel around d =
      .ok { d with fields := Ordered.put levelField (.text (levelOfMethod d.method)) d.fields }
  setFault (around : Surroundings lib.Context) (d : Draft) :
    lib.setFault around d =
      .ok (if d.method = "exception".toList then
        { d with fields := Ordered.putNew faultField (.bool true) d.fields } else d)
  formatFault (around : Surroundings lib.Context) (d : Draft) :
    ∃ trace, lib.formatFault around d = .ok (d.formatted around.handled trace)
  stampTime (around : Surroundings lib.Context) (d : Draft) :
    lib.stampTime "iso".toList true around d =
      around.now.timestamp.map fun time =>
        { d with fields := Ordered.put timeField (.text time) d.fields }
  renderJson (around : Surroundings lib.Context) (d : Draft) :
    lib.renderJson around d = Json.dump (.ofFields d.fields)

/-- A call that does not fail makes the entry that it asks for, and has it go through the pipeline
unless the logger has processors of its own. -/
structure Library.MakesEntries : Prop where
  source (p : Pipeline lib.Context) (around : Surroundings lib.Context) (m : Message)
    (l : lib.Logger) :
    lib.fields (lib.log p around m l).1 = lib.fields l ∧
      lib.setup (lib.log p around m l).1 = lib.setup l
  silent {p : Pipeline lib.Context} {around : Surroundings lib.Context} {m : Message}
    {l : lib.Logger} {lines : List Text} (hc : m.call? = none)
    (h : (lib.log p around m l).2 = .ok lines) : lines = []
  entry {p : Pipeline lib.Context} {around : Surroundings lib.Context} {m : Message} {c : Call}
    {l : lib.Logger} {lines : List Text} (hc : m.call? = some c)
    (h : (lib.log p around m l).2 = .ok lines) :
    ∃ event, Message.said c.event c.values = .ok event ∧
      if (lib.setup l).printsFields then (c.draft m event (lib.fields l)).IsLoose lines
      else ∃ line, p.run around (c.draft m event (lib.fields l)) = .ok line ∧ lines = [line]
  ordinary (p : Pipeline lib.Context) (around : Surroundings lib.Context) {m : Message}
    {level : Level} {event : List CodePoint} (hm : m.IsOrdinary level event) {l : lib.Logger}
    (hs : lib.setup l = {}) :
    (lib.log p around m l).2 = (p.run around
      (Call.draft ⟨level, .ofPoints event, [], m.fields, false⟩ m (.ofPoints event)
        (lib.fields l))).map fun line => [line]

structure Library.IsDocumented : Prop where
  loggers : lib.DerivesLoggers
  context : lib.HoldsContext
  processors : lib.ProcessesDrafts
  entries : lib.MakesEntries

end Log
end GreetingServer
