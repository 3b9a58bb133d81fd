import GreetingServer.Greeting
import GreetingServer.Log.Library
import GreetingServer.Network

/-! A whole run of the program: it listens, greets on every connection until waiting for connections
fails, and stops. Everything that it logs is printed as lines. The run is put together from steps of
a network with a single server, and from what is to be done when a step ends by a fault. -/
namespace GreetingServer
namespace Program

/-- What happens while the server waits for connections. -/
inductive Event
  | connection (peer : Peer) (source : Source) (sink : Sink)
  /-- Taking a connection fails, and nothing comes of it. -/
  | refused

def serverName : Text := "server".toList

/-- What there is during a run: the network, the loggers of the parts of the program, and what has
come of it so far. The logger of the router is that of the last connection. -/
structure State (lib : Log.Library) where
  network : Network := {}
  main : lib.Logger
  server : lib.Logger
  router : lib.Logger
  lines : List Text := []
  sent : List Bytes := []
  pauses : List Nat := []

inductive Ending
  | raised (fault : Fault)
  | exited (code : Int)

abbrev Task (lib : Log.Library) (α : Type) := Work (State lib) Ending α

section
variable {lib : Log.Library} (now : Instant)

def State.logger (s : State lib) : Log.Part → lib.Logger
  | .main => s.main
  | .server => s.server
  | .router => s.router

def State.setLogger (part : Log.Part) (l : lib.Logger) (s : State lib) : State lib :=
  match part with
  | .main => { s with main := l }
  | .server => { s with server := l }
  | .router => { s with router := l }

def State.print (lines : List Text) (s : State lib) : State lib :=
  { s with lines := s.lines ++ lines }

def State.note (network : Network) (outcome : Network.Outcome) (s : State lib) : State lib :=
  { s with
    network
    pauses := s.pauses ++ outcome.pauses
    sent := s.sent ++ match outcome.result with
      | .sent bytes => [bytes]
      | _ => [] }

def attempt {α : Type} : Except Fault α → Task lib α
  | .ok a => pure a
  | .error fault => throw (.raised fault)

def say (e : Log.Entry) : Task lib Unit := do
  let (l, printed) := lib.send lib.emptyContext now e.message ((← get).logger e.part)
  modify (State.setLogger e.part l)
  let lines ← attempt printed
  modify (State.print lines)

def sayAll : List Log.Entry → Task lib Unit
  | [] => pure ()
  | e :: rest => do
    say now e
    sayAll rest

def derive (part : Log.Part) : Task lib Unit := do
  let (l, derived) := lib.bind [(Log.moduleField, .text part.module)] (← get).main
  modify (State.setLogger .main l)
  let l ← attempt derived
  modify (State.setLogger part l)

def act (st : Network.Step) : Task lib Network.Result := do
  let (network, outcome) := (← get).network.step Greeting.routes now serverName st
  modify (State.note network outcome)
  sayAll now outcome.logs
  return outcome.result

def perform (st : Network.Step) : Task lib Unit := do
  match ← act now st with
  | .failed fault => throw (.raised fault)
  | _ => pure ()

/-- A connection is served by a router with a logger of its own. -/
def serveOne (peer : Peer) (source : Source) (sink : Sink) : Task lib Unit := do
  derive .router
  perform now (.connect peer source sink)

def sayFarewell (peer : Peer) : Ending → Task lib Unit
  | .raised fault =>
    sayAll now (Delivery.perform peer Sink.unlimited (Connection.farewell peer fault)).logs
  | .exited _ => pure ()

/-- An event happens. Nothing that goes wrong on a connection goes beyond it. -/
def happen : Event → Task lib Unit
  | .connection peer source sink =>
    tryCatch (tryCatch (serveOne now peer source sink) (sayFarewell now peer)) fun _ => pure ()
  | .refused => perform now .refuse

/-- The server waits for connections until that fails. -/
def serveForever (ending : Fault) : List Event → Task lib Unit
  | [] => throw (.raised ending)
  | event :: rest => do
    happen now event
    serveForever ending rest

def start (events : List Event) (ending : Fault) : Task lib Unit := do
  perform now .start
  tryFinally (serveForever now ending events) (perform now (.breakDown ending))

def interruptedEntry : Log.Entry where
  part := .main
  level := .info
  event := .text "hello server interrupted".toList

def sayInterrupted : Ending → Task lib Unit
  | .raised fault => if fault.isInterrupt then say now interruptedEntry else throw (.raised fault)
  | ending => throw ending

def serve (events : List Event) (ending : Fault) : Task lib Unit :=
  tryFinally (tryCatch (start now events ending) (sayInterrupted now)) (perform now .stop)

def startingEntry (address : Text) : Log.Entry where
  part := .main
  level := .info
  event := .text "starting hello server".toList
  fields := [(Log.addressField, .text address)]

def notStartedEntry (address : Text) (fault : Fault) : Log.Entry where
  part := .main
  level := .error
  event := .text "failed to start hello server".toList
  fields := [(Log.addressField, .text address)]
  fault := some fault

/-- The server is made. Its logger is derived before it asks for its address. If it gets none, this
is said and leads to an exit code. -/
def build (config : Config) (answer : Except Fault Endpoint) : Task lib Unit := do
  derive .server
  match ← act now (.make config answer) with
  | .notListening address fault =>
    say now (notStartedEntry address fault)
    throw (.exited 1)
  | .failed fault => throw (.raised fault)
  | _ => pure ()

def main (config : Config) (answer : Except Fault Endpoint) (events : List Event) (ending : Fault) :
    Task lib Unit := do
  let address ← attempt (Fault.written config.address)
  say now (startingEntry address)
  build now config answer
  serve now events ending

end

inductive Outcome
  | returned
  | exited (code : Int)
  | failed (fault : Fault)

structure Run where
  outcome : Outcome
  lines : List Text := []
  sent : List Bytes := []
  pauses : List Nat := []
  bound : List Endpoint := []

def outcomeOf : Except Ending Unit → Outcome
  | .ok () => .returned
  | .error (.raised fault) => .failed fault
  | .error (.exited code) => .exited code

def mainModule (runsItself : Bool) : Text :=
  if runsItself then "__main__".toList else Log.Part.main.module

def run (lib : Log.Library) (module : Text) (now : Instant) (answer : Except Fault Endpoint)
    (events : List Event) (ending : Fault) : Run :=
  match lib.get [(Log.moduleField, .text module)] with
  | .error fault => { outcome := .failed fault }
  | .ok l =>
    let (ended, s) := (main now {} answer events ending).result
      { main := l, server := l, router := l }
    { outcome := outcomeOf ended, lines := s.lines, sent := s.sent, pauses := s.pauses
      bound := s.network.bound }

end Program
end GreetingServer
