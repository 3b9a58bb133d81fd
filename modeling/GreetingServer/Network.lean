import GreetingServer.Delivery
import GreetingServer.Server

/-! Several servers with names, and the addresses that they hold. Which address a new server gets is
for the operating system to say, and comes with the step. -/
namespace GreetingServer

/-- What is known of the last start of a server: it goes on, or how it ended. -/
inductive Running
  | goesOn
  | ended (fault : Fault)

/-- Servers by name, what is known of the last start under each name, and the addresses that are
held. A start is known until it is asked how it ended, even if another server takes the name. -/
structure Network where
  servers : Ordered Text Server := []
  starts : Ordered Text Running := []
  bound : List Endpoint := []

namespace Network

inductive Step
  /-- A server is made, to which the operating system gives an address or not. -/
  | make (config : Config) (answer : Except Fault Endpoint)
  | info
  | isStarted
  | start
  | stop
  | connect (peer : Peer) (source : Source) (sink : Sink)
  | refuse
  | breakDown (fault : Fault)

inductive Result
  | made
  /-- The server cannot listen on its address. The fault has that of the system as its cause. -/
  | notListening (address : Text) (fault : Fault)
  | failed (fault : Fault)
  | info (endpoint : Endpoint) (address : Text)
  | started (value : Bool)
  | serving
  | ended (fault : Option Fault)
  | stopped
  | sent (bytes : Bytes)
  | refused
  | notServing
  | noServer

/-- The outcome of a step: its result, and what handlers were called, how long they waited and what
was logged meanwhile. -/
structure Outcome where
  result : Result
  calls : List Call := []
  pauses : List Nat := []
  logs : List Log.Entry := []

abbrev Change := Network × Outcome

def noSuchPort : Fault := Fault.overflow "bind(): port must be 0-65535.".toList

def IsPortNumber (port : Int) : Prop := 0 ≤ port ∧ port ≤ 65535

/-- A host without characters that make it no name: null, and those that have to be encoded. -/
def IsPlainHost (host : Text) : Prop := ∀ c ∈ host, c ≠ '\x00' ∧ c.toNat < 128

/-- What one who wants to listen may be answered: an address that is not held, with the port that was
asked for unless any will do, or a fault. It is one of the operating system if nothing is wrong with
the host and the port themselves. -/
inductive MayAnswer (n : Network) (config : Config) : Except Fault Endpoint → Prop
  | given {e : Endpoint} (free : e ∉ n.bound) (exists_port : 0 < e.port)
      (port : config.port ≠ 0 → (e.port.toNat : Int) = config.port) : MayAnswer n config (.ok e)
  | refused {fault : Fault}
      (system : IsPlainHost config.host → IsPortNumber config.port → fault.kind.isSystem = true) :
      MayAnswer n config (.error fault)

def release (n : Network) (e : Endpoint) : Network := { n with bound := n.bound.erase e }

/-- A server of some name is there no more; the address that it holds stays bound. -/
def forget (n : Network) (name : Text) : Network :=
  { n with servers := Ordered.erase name n.servers }

def set (n : Network) (name : Text) (server : Server) : Network :=
  { n with servers := Ordered.put name server n.servers }

def noteStart (n : Network) (name : Text) (running : Running) : Network :=
  { n with starts := Ordered.put name running n.starts }

def dropStart (n : Network) (name : Text) : Network :=
  { n with starts := Ordered.erase name n.starts }

/-- The fault of a server that cannot listen, and the address that it tells. Both are written while
the fault of the operating system is dealt with. -/
def startupFault (config : Config) (cause : Fault) : Except Fault (Text × Fault) :=
  match Fault.written config.address with
  | .error f => .error { f with context := some cause }
  | .ok address =>
    match Fault.startup address cause with
    | .error f => .error { f with context := some cause }
    | .ok fault => .ok (address, fault)

/-- What comes of a server that is not made. What comes from the operating system is told together
with the address. -/
def notMade (config : Config) (fault : Fault) : Result :=
  if fault.kind.isSystem then
    match startupFault config fault with
    | .ok (address, fault) => .notListening address fault
    | .error f => .failed f
  else .failed fault

def make (n : Network) (name : Text) (config : Config) : Except Fault Endpoint → Change
  | .ok e =>
    ({ (n.forget name).set name { endpoint := e } with bound := e :: n.bound }, ⟨.made, [], [], []⟩)
  | .error f => (n.forget name, ⟨notMade config f, [], [], []⟩)

/-- A server is started. A start that a running server refuses is not the last one that is known. -/
def start (n : Network) (name : Text) (s : Server) : Change :=
  let (server, fault, logs) := s.start
  let m := n.set name server
  match fault with
  | none => (m.noteStart name .goesOn, ⟨.serving, [], [], logs⟩)
  | some f =>
    (if s.isRunning then m else m.noteStart name (.ended f), ⟨.failed f, [], [], logs⟩)

def endOf : Option Running → Result
  | none => .stopped
  | some .goesOn => .ended none
  | some (.ended f) => .ended (some f)

def stop (n : Network) (name : Text) (s : Server) : Change :=
  let (server, logs) := s.stop
  let result := endOf (Ordered.get? n.starts name)
  let n := if s.isOpen then n.release s.endpoint else n
  ((n.set name server).dropStart name, ⟨result, [], [], logs⟩)

def breakDown (n : Network) (name : Text) (s : Server) (fault : Fault) : Change :=
  let (server, logs) := s.breakDown
  ((n.set name server).dropStart name, ⟨.ended (some fault), [], [], logs⟩)

def connect (n : Network) (site : Site) (source : Source) (sink : Sink) : Change :=
  let r := Connection.serve site source sink
  (n, ⟨.sent r.sent, r.calls, r.pauses, r.logs⟩)

def whileServing (n : Network) (s : Server) (change : Change) : Change :=
  if s.isStarted then change else (n, ⟨.notServing, [], [], []⟩)

def stepWith (routes : RouteTable Handler) (now : Instant) (n : Network) (name : Text) (s : Server) :
    Step → Change
  | .make config answer => n.make name config answer
  | .info => (n, ⟨.info s.endpoint s.address, [], [], []⟩)
  | .isStarted => (n, ⟨.started s.isStarted, [], [], []⟩)
  | .start => n.start name s
  | .stop => n.stop name s
  | .connect peer source sink => n.whileServing s (n.connect ⟨routes, peer, now⟩ source sink)
  | .refuse => n.whileServing s (n, ⟨.refused, [], [], []⟩)
  | .breakDown fault => n.whileServing s (n.breakDown name s fault)

/-- A step. Every step but the making of a server needs the server to be there. -/
def step (routes : RouteTable Handler) (now : Instant) (n : Network) (name : Text) (st : Step) :
    Change :=
  match st, Ordered.get? n.servers name with
  | .make config answer, _ => n.make name config answer
  | _, none => (n, ⟨.noServer, [], [], []⟩)
  | st, some s => stepWith routes now n name s st

def MayTake (n : Network) : Step → Prop
  | .make config answer => MayAnswer n config answer
  | _ => True

/-- What the operating system may answer in steps with named servers, one after the other. -/
def MayTakeAll (routes : RouteTable Handler) (now : Instant) : Network → List (Text × Step) → Prop
  | _, [] => True
  | n, (name, st) :: rest => n.MayTake st ∧ MayTakeAll routes now (n.step routes now name st).1 rest

def isStarted? (n : Network) (name : Text) : Option Bool :=
  (Ordered.get? n.servers name).map (·.isStarted)

def boundPorts (n : Network) : List Nat := (n.bound.map fun e => e.port.toNat).mergeSort

end Network
end GreetingServer
