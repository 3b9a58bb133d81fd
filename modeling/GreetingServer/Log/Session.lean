import GreetingServer.Log.Library

/-! Sessions. Loggers have names and are derived from each other; beside them there are the
variables of the context, which all of them share. -/
namespace GreetingServer
namespace Log

inductive Step
  | get (name : Text) (fields : Fields)
  | bind (logger name : Text) (fields : Fields)
  | unbind (logger name : Text) (keys : List Value)
  | tryUnbind (logger name : Text) (keys : List Value)
  | bindContext (fields : Fields)
  | unbindContext (keys : List Text)
  | clearContext
  | setTime (now : Instant)
  | log (logger : Text) (message : Message)

/-- Loggers by name, the variables of the context, and the time. -/
structure Session (lib : Library) where
  loggers : Ordered Text lib.Logger := []
  context : lib.Context := lib.emptyContext
  now : Instant

namespace Session
variable {lib : Library}

def find (s : Session lib) (method logger : Text) : Except Fault lib.Logger :=
  match Ordered.get? s.loggers logger with
  | some l => .ok l
  | none =>
    .error (Fault.of .noAttribute
      ("'NoneType' object has no attribute '".toList ++ method ++ "'".toList))

def assign (s : Session lib) (name : Text) (l : lib.Logger) : Session lib :=
  { s with loggers := Ordered.put name l s.loggers }

def settle (s : Session lib) (name : Text) :
    Except Fault lib.Logger → Session lib × Except Fault (List Text)
  | .error f => (s, .error f)
  | .ok l => (s.assign name l, .ok [])

/-- A logger is derived from another one by a method and gets a name, unless it cannot be derived.
-/
def derive (s : Session lib) (method : String) (logger name : Text)
    (derived : lib.Logger → lib.Logger × Except Fault lib.Logger) :
    Session lib × Except Fault (List Text) :=
  match s.find method.toList logger with
  | .error f => (s, .error f)
  | .ok l => (s.assign logger (derived l).1).settle name (derived l).2

def send (s : Session lib) (logger : Text) (m : Message) : Session lib × Except Fault (List Text) :=
  match s.find m.method logger with
  | .error f => (s, .error f)
  | .ok l =>
    (s.assign logger (lib.send s.context s.now m l).1, (lib.send s.context s.now m l).2)

def step (s : Session lib) : Step → Session lib × Except Fault (List Text)
  | .get name fields => s.settle name (lib.get fields)
  | .bind logger name fields => s.derive "bind" logger name (lib.bind fields)
  | .unbind logger name keys => s.derive "unbind" logger name (lib.unbind keys)
  | .tryUnbind logger name keys => s.derive "try_unbind" logger name (lib.tryUnbind keys)
  | .bindContext fields => ({ s with context := lib.bindContext fields s.context }, .ok [])
  | .unbindContext keys => ({ s with context := lib.unbindContext keys s.context }, .ok [])
  | .clearContext => ({ s with context := lib.clearContext s.context }, .ok [])
  | .setTime now => ({ s with now }, .ok [])
  | .log logger m => s.send logger m

def rootName : Text := "root".toList

def start (lib : Library) (now : Instant) : Session lib :=
  (({ now } : Session lib).settle rootName (lib.get [])).1

def run (s : Session lib) : List Step → List (Except Fault (List Text))
  | [] => []
  | st :: rest => (s.step st).2 :: (s.step st).1.run rest

end Session
end Log
end GreetingServer
