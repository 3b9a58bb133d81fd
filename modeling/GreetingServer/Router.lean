import GreetingServer.Connection
import GreetingServer.Work

/-! The router of a connection. Its fields live as long as the connection: whether it ends after the
request, what the request asks for, and the part of a head that is not written yet. They come to
nothing for the next request, so that what a router does about a request is the exchange for it. -/
namespace GreetingServer

structure Router where
  closing : Bool := true
  method : Text := []
  version : Text := []
  buffer : Bytes := []
  source : Source
  acts : List Act := []

namespace Router

abbrev Action (α : Type) := Work Router Fault α

def isBare (r : Router) : Bool := r.version == Http.RequestLine.bareVersion

def isHead (r : Router) : Bool := r.method == "HEAD".toList

def put (bytes : Bytes) (r : Router) : Router := { r with buffer := r.buffer ++ bytes }

def setClosing (closing : Bool) (r : Router) : Router := { r with closing }

def addActs (acts : List Act) (r : Router) : Router := { r with acts := r.acts ++ acts }

def enter (head : Http.Head) (source : Source) (r : Router) : Router :=
  { r with
    source, closing := head.isClosing, method := head.line.method, version := head.line.version }

def perform (act : Act) : Action Unit := modify (addActs [act])

def close : Action Unit := modify (setClosing true)

def during {α : Type} (handling : Option Fault) (work : Action α) : Action α :=
  tryCatch work fun fault => throw { fault with context := handling }

/-- A line of a head is put to the others. Some versions have no heads. -/
def sendLine (line : Text) : Action Unit := do
  unless (← get).isBare do
    let bytes ← MonadExcept.ofExcept (Http.ResponseHead.encodeLine line)
    modify (put bytes)

def sendStatus (response : Http.Response) : Action Unit := do
  unless (← get).isBare do
    sendLine (← MonadExcept.ofExcept (Http.ResponseHead.statusLine response))

/-- A field may tell whether the connection ends, even if there is no head to write it to. -/
def sendField (field : Text × Text) : Action Unit := do
  sendLine (Http.fieldLine field)
  modify fun r => r.setClosing (Http.ResponseHead.afterField r.closing field)

def sendFields : Http.Headers → Action Unit
  | [] => pure ()
  | field :: rest => do
    sendField field
    sendFields rest

def flush (handling : Option Fault) : Action Unit :=
  modify fun r => { r.addActs [.write r.buffer handling] with buffer := [] }

def endHead (handling : Option Fault) : Action Unit := do
  unless (← get).isBare do
    sendLine Http.lineEnd
    flush handling

def sendBody (body : Bytes) (handling : Option Fault) : Action Unit := do
  unless (← get).isHead do
    perform (.write body handling)

/-- The head of a response is put together. What its fields say about the connection is known before
the last of them. -/
def sendHead (site : Site) (response : Http.Response) : Action Unit := do
  sendStatus response
  let date ← MonadExcept.ofExcept site.now.httpDate
  sendFields (Http.ResponseHead.fields date response)
  sendFields (Http.ResponseHead.closeFields (← get).closing)

def send (site : Site) (handling : Option Fault) (response : Http.Response) : Action Unit :=
  during handling do
    sendHead site response
    endHead handling
    sendBody response.body handling

def sendPage (site : Site) (page : Http.ErrorPage) (handling : Option Fault) : Action Unit := do
  let date ← during handling (MonadExcept.ofExcept site.now.httpDate)
  close
  unless page.bare do
    modify (put (page.head date))
    flush handling
  unless page.headOnly do
    perform (.write page.body handling)

/-- The peer is told to send the body if it waits for that. -/
def sendInterim (head : Http.Head) : Action Unit := do
  if head.expectsContinue then
    modify (put Http.continueHead)
    flush none

/-- The head of the next request is read, and sets the fields of the router. There may be none that
is to be answered. -/
def readHead (site : Site) : Action (Option Http.Head) := do
  match Http.Head.read (← get).source with
  | .error .quiet => close; return none
  | .error (.refuse page handling) => sendPage site page handling; return none
  | .error (.fail fault) => throw fault
  | .ok (head, source) =>
    modify (enter head source)
    sendInterim head
    return some head

def discardBody (length : Nat) : Action Unit := do
  let (result, source) := Discard.run Source.read length (← get).source
  modify fun r => { r with source }
  MonadExcept.ofExcept result

/-- Without a length a body in transfer coding cannot be skipped. -/
def closeBefore (head : Http.Head) (length : Nat) : Action Unit :=
  if length = 0 && head.hasTransferCoding then close else pure ()

def readRequest (site : Site) (head : Http.Head) : Action Http.Request := do
  let length ← MonadExcept.ofExcept (Http.ContentLength.ofHeaders head.headers)
  closeBefore head length
  discardBody length
  let path ← MonadExcept.ofExcept (Http.Target.path head.line.target)
  return Connection.requestOf site head path

def sendMessage (site : Site) (fault : Fault) (status : Int) (message : List CodePoint) :
    Action Unit := do
  let text ← during (some fault) (MonadExcept.ofExcept (Fault.scalarText message))
  send site (some fault) { status, body := Http.utf8 text }

def sendBadRequest (site : Site) (fault : Fault) : Action Unit := do
  close
  let message ← during (some fault)
    (MonadExcept.ofExcept (Connection.messageOf "Bad Request: " fault))
  sendMessage site fault 400 message

/-- A failure is logged and told to the peer, unless it ends the run. -/
def sendFailure (site : Site) (fault : Fault) : Action Unit := do
  if fault.isInterrupt then throw fault
  let message ← during (some fault)
    (MonadExcept.ofExcept (Connection.messageOf "Internal Server Error: " fault))
  perform (Connection.requestError (.ofPoints message) [] (some fault))
  sendMessage site fault 500 message

def callHandler (site : Site) (handler : Handler) (request : Http.Request) : Action Unit := do
  perform (.call ⟨handler.name, request⟩)
  let reply := handler.handle request
  modify (addActs (reply.pauses.map .pause))
  match reply.result with
  | .ok response => send site none response
  | .error fault => sendFailure site fault

def handle (site : Site) (head : Http.Head) : Action Unit := do
  match ← observing (readRequest site head) with
  | .error fault =>
    if fault.isDisconnect then close
    else if fault.kind = .badRequest then sendBadRequest site fault
    else sendFailure site fault
  | .ok request =>
    match RouteTable.find? site.routes request.method request.path with
    | none =>
      perform (Connection.notFoundError head)
      send site none { status := 404 }
    | some handler => callHandler site handler request

/-- The next request is read and answered. -/
def turn (site : Site) : Action Unit := do
  if let some head ← readHead site then
    handle site head

end Router
end GreetingServer
