import GreetingServer.Router.Serve

/-! Performing a plan against a peer that may stop taking bytes. The first write that the peer does
not take as a whole ends the connection: the part that it takes is sent, and nothing follows. -/
namespace GreetingServer

/-- What a peer takes: some number of bytes, or all, and the fault of a write that it does not take
as a whole. Closing the connection may fail too. -/
structure Sink where
  room : Option Nat := none
  failure : Fault := Fault.brokenPipe
  closing : Option Fault := none

namespace Sink

def unlimited : Sink := {}

def takes (sink : Sink) (bytes : Bytes) : Bool :=
  match sink.room with
  | none => true
  | some room => bytes.length ≤ room

def after (sink : Sink) (bytes : Bytes) : Sink :=
  { sink with room := sink.room.map (· - bytes.length) }

def part (sink : Sink) (bytes : Bytes) : Bytes :=
  match sink.room with
  | none => bytes
  | some room => bytes.take room

@[simp] theorem takes_unlimited (bytes : Bytes) : unlimited.takes bytes = true := rfl
@[simp] theorem after_unlimited (bytes : Bytes) : unlimited.after bytes = unlimited := rfl

end Sink

structure Record where
  sent : Bytes := []
  calls : List Call := []
  pauses : List Nat := []
  logs : List Log.Entry := []
  interruption : Option Fault := none

namespace Record

def addSent (r : Record) (bytes : Bytes) : Record := { r with sent := bytes ++ r.sent }
def addCall (r : Record) (call : Call) : Record := { r with calls := call :: r.calls }
def addPause (r : Record) (duration : Nat) : Record := { r with pauses := duration :: r.pauses }
def addLog (r : Record) (entry : Log.Entry) : Record := { r with logs := entry :: r.logs }

end Record

namespace Delivery

/-- What a write that the peer does not take as a whole leads to. -/
def broken (peer : Peer) (sink : Sink) (handling : Option Fault) : Record :=
  let fault := { sink.failure with context := handling }
  if fault.isInterrupt then { interruption := some fault }
  else if fault.isSilent then {}
  else
    match Connection.unexpected peer fault with
    | .log entry => { logs := [entry] }
    | _ => {}

def perform (peer : Peer) (sink : Sink) : List Act → Record
  | [] => {}
  | .write bytes handling :: rest =>
    if sink.takes bytes then (perform peer (sink.after bytes) rest).addSent bytes
    else (broken peer sink handling).addSent (sink.part bytes)
  | .call call :: rest => (perform peer sink rest).addCall call
  | .pause duration :: rest => (perform peer sink rest).addPause duration
  | .log entry :: rest => (perform peer sink rest).addLog entry
  | .interrupt fault :: _ => { interruption := some fault }

/-- The connection is closed. A failure of the operating system to do so is no news, and any other
fault ends the run. -/
def close (sink : Sink) (r : Record) : Record :=
  match sink.closing with
  | none => r
  | some fault => if fault.kind.isSystem then r else { r with interruption := some fault }

theorem close_of_isSystem {sink : Sink} (h : ∀ f ∈ sink.closing, f.kind.isSystem = true) (r : Record) :
    close sink r = r := by
  unfold close
  split
  · rfl
  · rename_i fault hf
    rw [if_pos (h fault (by simp [hf]))]

end Delivery

namespace Connection

/-- A connection is served by a router of its own and closed. -/
def serve (site : Site) (source : Source) (sink : Sink) : Record :=
  Delivery.close sink (Delivery.perform site.peer sink (Router.serve site { source } rfl))

theorem serve_eq (site : Site) (source : Source) (sink : Sink) :
    serve site source sink =
      Delivery.close sink (Delivery.perform site.peer sink (plan site source)) := by
  rw [serve, Router.serve_eq]
  rfl

theorem serve_unlimited (site : Site) (source : Source) :
    serve site source Sink.unlimited =
      Delivery.perform site.peer Sink.unlimited (plan site source) := by
  rw [serve_eq]
  rfl

end Connection
end GreetingServer
