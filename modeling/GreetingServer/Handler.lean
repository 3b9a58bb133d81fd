import GreetingServer.Fault
import GreetingServer.Http.Message

/-! Handlers. A handler answers a request after some pauses, with a response or with a fault. -/
namespace GreetingServer

/-- What a handler does with a request: how long it waits, in milliseconds, and what it answers. -/
structure Reply where
  pauses : List Nat := []
  result : Except Fault Http.Response

structure Handler where
  name : Text
  handle : Http.Request → Reply

namespace Handler

def unimplemented (name : Text) : Handler where
  name
  handle _ :=
    { result := .error
        (Fault.of .notImplemented "Handler subclasses must implement handle method.".toList) }

def constant (name : Text) (response : Http.Response) : Handler where
  name
  handle _ := { result := .ok response }

def failing (name : Text) (fault : Fault) : Handler where
  name
  handle _ := { result := .error fault }

end Handler
end GreetingServer
