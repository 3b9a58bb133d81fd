import GreetingServer.Config
import GreetingServer.Connection

/-! Servers. The socket of a server is open from the start, and holds its address until the server
is closed. While the server is started a flag keeps out a second start, and an event tells others
that it serves; both are taken back however its serving ends. -/
namespace GreetingServer

/-- An address that a socket is bound to, as the operating system tells it. -/
structure Endpoint where
  host : Text
  port : UInt16
  deriving Repr, DecidableEq

def Endpoint.text (e : Endpoint) : Text := e.host ++ ':' :: Text.ofNat e.port.toNat

structure Server where
  endpoint : Endpoint
  isRunning : Bool := false
  isStarted : Bool := false
  isOpen : Bool := true
  deriving Repr, DecidableEq

namespace Server

def address (s : Server) : Text := s.endpoint.text

def news (s : Server) (event : String) : Log.Entry where
  part := .server
  level := .info
  event := .text event.toList
  fields := [(Log.addressField, .text s.address)]

def startedEntry (s : Server) : Log.Entry := s.news "HTTP server started"
def stoppedEntry (s : Server) : Log.Entry := s.news "HTTP server stopped"

def alreadyRunning : Fault := Fault.of .runtime "Server is already running.".toList

def alreadyClosed : Fault := Fault.invalidValue "Invalid file descriptor: -1".toList

def enter (s : Server) : Server × List Log.Entry :=
  ({ s with isRunning := true, isStarted := true }, [s.startedEntry])

/-- A start comes to its end, by whatever way. -/
def leave (s : Server) : Server × List Log.Entry :=
  ({ s with isRunning := false, isStarted := false }, [s.stoppedEntry])

/-- Why connections cannot be waited for: there is no socket to wait at. -/
def waitFault? (s : Server) : Option Fault := if s.isOpen then none else some alreadyClosed

/-- A server is started. The fault says why it does not serve after that. -/
def start (s : Server) : Server × Option Fault × List Log.Entry :=
  if s.isRunning then (s, some alreadyRunning, [])
  else
    match s.enter.1.waitFault? with
    | none => (s.enter.1, none, s.enter.2)
    | some fault => (s.enter.1.leave.1, some fault, s.enter.2 ++ s.enter.1.leave.2)

def close (s : Server) : Server := { s with isOpen := false }

/-- A server is stopped: it serves to its end if it serves, and its socket is closed. -/
def stop (s : Server) : Server × List Log.Entry :=
  if s.isRunning then (s.leave.1.close, s.leave.2) else (s.close, [])

/-- Serving ends by a fault; the server can be started again. -/
def breakDown (s : Server) : Server × List Log.Entry := s.leave

@[simp] theorem isOpen_stop (s : Server) : s.stop.1.isOpen = false := by
  unfold stop
  split <;> rfl

@[simp] theorem isRunning_stop (s : Server) : s.stop.1.isRunning = false := by
  unfold stop
  split
  · rfl
  · rename_i h
    exact Bool.eq_false_iff.2 h

@[simp] theorem stop_stop (s : Server) : s.stop.1.stop = (s.stop.1, []) := by
  have hclosed : s.stop.1.close = s.stop.1 := by
    unfold stop
    split <;> rfl
  rw [stop, isRunning_stop, if_neg Bool.false_ne_true, hclosed]

end Server
end GreetingServer
