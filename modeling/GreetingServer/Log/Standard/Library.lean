import GreetingServer.Log.Standard.Logger

/-! The standard library of loggers: what the methods of a logger do, and the processors. -/
namespace GreetingServer
namespace Log
namespace Standard

inductive Attribute
  | entry (m : Method)
  | leveledEntry
  | putOff (function : Function)
  | comparison
  | threshold
  deriving Repr, DecidableEq

/-- A function that stands for a method of an assembled logger. -/
def localFunction (name : String) (parameters : List String) : Function where
  name := "_make_filtering_bound_logger.<locals>." ++ name
  parameters
  takesMore := true
  takesFields := true

def namedFunction (name : String) : Function where
  name
  parameters := ["self", "event"]
  takesMore := true
  takesFields := true

def entryFunction (m : Method) : Function :=
  if m.aboutHandled then namedFunction "exception"
  else localFunction "make_method.<locals>.meth" ["self", "event"]

def leveledFunction : Function := localFunction "log" ["self", "level", "event"]

def comparisonFunction : Function where
  name := "_make_filtering_bound_logger.<locals>.<lambda>"
  parameters := ["self", "level"]

def thresholdFunction : Function := { comparisonFunction with parameters := ["self"] }

def putOffFunction (name : String) (m : Method) : Function :=
  if m.aboutHandled then namedFunction name
  else localFunction "make_method.<locals>.ameth" ["self", "event"]

/-- All methods of an assembled logger by name. -/
def attributes : List (String × Attribute) :=
  methods.map (fun entry => (entry.1, .entry entry.2)) ++
    methods.map (fun entry => ("a" ++ entry.1, .putOff (putOffFunction ("a" ++ entry.1) entry.2))) ++
    [("log", .leveledEntry), ("alog", .putOff (localFunction "alog" ["self", "level", "event"])),
      ("is_enabled_for", .comparison), ("get_effective_level", .threshold)]

def Attribute.find (name : Text) : Except Fault Attribute :=
  match attributes.find? fun known => known.1.toList = name with
  | some known => .ok known.2
  | none =>
    .error (Fault.of .noAttribute
      ("'BoundLoggerFilteringAtNotset' object has no attribute '".toList ++ name ++ "'".toList))

def givenFields (m : Message) : Fields :=
  if m.namesHandled then Ordered.put faultField .null m.fields else m.fields

def names (m : Message) : List Text := Ordered.keys (givenFields m)

/-- The count of the values of a call, the logger itself included. -/
def count (m : Message) : Nat := m.arguments.length + 2

/-- The function to which methods pass the fields of a call, together with three values. -/
def passFunction : Function where
  name := "BoundLoggerBase._proxy_to_logger"
  parameters := ["self", "method_name", "event"]
  takesFields := true

def withEvent (event : Value) (fields : Fields) : Fields :=
  match event with
  | .null => fields
  | event => Ordered.put eventField event fields

/-- What an entry of a logger is made of that says something and has further fields. -/
def draftOf (m : Message) (l : Logger) (level : Level) (event : Value) (fields : Fields) :
    Except Fault Draft :=
  match passFunction.check 3 (Ordered.keys fields) with
  | .error f => .error f
  | .ok () =>
    let draft : Draft :=
      ⟨level.name, withEvent event (Ordered.putAll fields l.fields),
        if m.namesHandled then m.handled else none⟩
    (process l.setup (Ordered.keys draft.fields)).map fun _ => draft

/-- The entry of a method. The fields of the call are passed to the function of the method before
the template is filled. A method that is about the fault being dealt with asks for it, unless a
field of the call says otherwise. -/
def entry (m : Message) (l : Logger) (method : Method) : Except Fault Draft :=
  match (entryFunction method).check (count m) (names m) with
  | .error f => .error f
  | .ok () =>
    match Message.said m.event m.arguments with
    | .error f => .error f
    | .ok event =>
      let fields :=
        if method.aboutHandled then Ordered.putNew faultField (.bool true) (givenFields m)
        else givenFields m
      draftOf m l method.level event fields

/-- The entry of the method that takes the event of a call for the number of a level, and the first
argument for the event. If there is no argument a field may stand for the event. There is no entry
of a level that is lower than all. -/
def leveledEntry (m : Message) (l : Logger) : Except Fault (Option Draft) :=
  match leveledFunction.check (count m) (names m) with
  | .error f => .error f
  | .ok () =>
    match isLower "<" m.event with
    | .error f => .error f
    | .ok true => .ok none
    | .ok false =>
      match levelOf? m.event with
      | none => .error (Fault.missing m.event)
      | some level =>
        let (event, fields) := match m.arguments.head? with
          | some event => (event, givenFields m)
          | none =>
            ((Ordered.get? (givenFields m) eventField).getD .null,
              Ordered.erase eventField (givenFields m))
        match Message.said event (m.arguments.drop 1) with
        | .error f => .error f
        | .ok event => (draftOf m l level event fields).map some

def answer (m : Message) (l : Logger) : Attribute → Except Fault (Option Draft)
  | .entry method => (entry m l method).map some
  | .leveledEntry => leveledEntry m l
  | .putOff function => (function.check (count m) (names m)).map fun _ => none
  | .comparison =>
    match comparisonFunction.check (count m) (names m) with
    | .error f => .error f
    | .ok () => (isLower ">=" m.event).map fun _ => none
  | .threshold => (thresholdFunction.check (count m) (names m)).map fun _ => none

/-- The methods that derive a logger take fields or keys. Those that take fields take no event, and
what the others derive is not used. -/
def derivation? (m : Message) (l : Logger) : Option (Logger × Except Fault (Option Draft)) :=
  let keys := m.event :: m.arguments
  let refused (f : Function) (count : Nat) : Logger × Except Fault (Option Draft) :=
    (l, (f.check count (names m)).map fun _ => none)
  let changed (name : String) (change : Fields → Except Fault Fields) :
      Logger × Except Fault (Option Draft) :=
    match ({ name := l.functionName name, takesMore := true } : Function).check (count m) (names m) with
    | .error f => (l, .error f)
    | .ok () => ((l.change change).1, (l.change change).2.map fun _ => none)
  if m.method = "bind".toList then
    some (refused l.bindFunction (if l.stage = .kept then count m - 1 else count m))
  else if m.method = "new".toList then
    some (refused { name := l.functionName "new", takesFields := true } (count m))
  else if m.method = "unbind".toList then some (changed "unbind" (unbind keys))
  else if m.method = "try_unbind".toList then some (changed "try_unbind" (tryUnbind keys))
  else none

def call (m : Message) (l : Logger) : Logger × Except Fault (Option Draft) :=
  match derivation? m l with
  | some outcome => outcome
  | none =>
    match l.assemble with
    | .error f => (l, .error f)
    | .ok () =>
      match Attribute.find m.method with
      | .error f => (l.used, .error f)
      | .ok found => (l.used, answer m l found)

def printed (v : Value) : Except Fault (List Text) :=
  match Fault.written v.displayed with
  | .error f => .error f
  | .ok ps => (Fault.scalarText ps).map (Text.splitBy (· = '\n'))

/-- What a draft comes to. A logger without processors prints the message alone. -/
def linesOf {Context : Type} (p : Pipeline Context) (around : Surroundings Context) (s : Setup) :
    Except Fault (Option Draft) → Except Fault (List Text)
  | .error f => .error f
  | .ok none => .ok []
  | .ok (some d) =>
    if s.printsFields then printed ((Ordered.get? d.fields messageField).getD .null)
    else (p.run around d).map fun line => [line]

/-- The library, with what faults are reported as. It keeps the variables of the context in the order
in which they were set. -/
def library (report : Fault → List CodePoint) : Library where
  Logger := Logger
  Context := { fields : Fields // (Ordered.keys fields).Nodup }
  get := Logger.make
  bind := Logger.bind
  unbind keys l := l.change (unbind keys)
  tryUnbind keys l := l.change (tryUnbind keys)
  fields := Logger.fields
  setup := Logger.setup
  emptyContext := ⟨[], List.nodup_nil⟩
  bindContext fields context :=
    ⟨Ordered.putAll fields context.1, Ordered.nodup_keys_putAll context.2 fields⟩
  unbindContext names context :=
    ⟨without names context.1, (List.filter_sublist.map _).nodup context.2⟩
  clearContext _ := ⟨[], List.nodup_nil⟩
  contextFields context := context.1
  mergeContext around d := .ok { d with fields := addContext around.context.1 d.fields }
  addLevel _ d :=
    .ok { d with fields := Ordered.put levelField (.text (levelOfMethod d.method)) d.fields }
  setFault _ d :=
    .ok (if d.method = "exception".toList then
      { d with fields := Ordered.putNew faultField (.bool true) d.fields } else d)
  formatFault around d :=
    let fields := Ordered.erase faultField d.fields
    .ok { d with
      fault := none
      fields := match d.about around.handled with
        | some f => Ordered.put reportField (.ofPoints (report f)) fields
        | none => fields }
  stampTime _ _ around d :=
    around.now.timestamp.map fun time =>
      { d with fields := Ordered.put timeField (.text time) d.fields }
  renderJson _ d := Json.dump (.ofFields d.fields)
  log p around m l := ((call m l).1, linesOf p around l.setup (call m l).2)

end Standard
end Log
end GreetingServer
