import GreetingServer.Clock
import GreetingServer.Http.ContentLength
import GreetingServer.Http.Head
import GreetingServer.Http.ResponseHead
import GreetingServer.Http.Target
import GreetingServer.Handler
import GreetingServer.Log.Entry
import GreetingServer.RemoteAddress
import GreetingServer.RouteTable
import GreetingServer.Transport.Discard

/-! What the server does on a connection. The requests on it are answered one after the other; each
takes at least one byte, so that serving ends. The plan of a connection depends only on what is
read: it is the list of acts that are performed as long as the peer takes what is written. -/
namespace GreetingServer

structure Call where
  handler : Text
  request : Http.Request
  deriving Repr, DecidableEq

inductive Act
  /-- Bytes are written, possibly while a fault is being dealt with. -/
  | write (bytes : Bytes) (handling : Option Fault)
  | call (call : Call)
  | pause (duration : Nat)
  | log (entry : Log.Entry)
  /-- A fault that nobody deals with ends the run. -/
  | interrupt (fault : Fault)

structure Site where
  routes : RouteTable Handler
  peer : Peer
  now : Instant

/-- What is done about one request, and where the next one is read from if the connection stays
open. -/
structure Exchange where
  acts : List Act
  next : Option Source

namespace Connection

def requestError (event : Value) (fields : Log.Fields) (fault : Option Fault) : Act :=
  .log ⟨.router, .error, event, fields, fault⟩

def unexpected (peer : Peer) (fault : Fault) : Act :=
  .log ⟨.server, .error, .text "unexpected error while serving connection".toList,
    [("client_address".toList, peer.address)], some fault⟩

/-- A connection ends by a fault. This is worth an entry unless the peer is gone or silent. -/
def farewell (peer : Peer) (fault : Fault) : List Act :=
  if fault.isInterrupt then [.interrupt fault]
  else if fault.isSilent then []
  else [unexpected peer fault]

/-- A connection ends by a fault that comes up while another one may be dealt with. -/
def farewellFrom (peer : Peer) (fault : Fault) (handling : Option Fault) : List Act :=
  farewell peer { fault with context := handling }

def refuse (site : Site) (page : Http.ErrorPage) (handling : Option Fault) : List Act :=
  match site.now.httpDate with
  | .error fault => farewellFrom site.peer fault handling
  | .ok date => (page.writes date).map fun bytes => .write bytes handling

/-- What is written after the head of a response: nothing if the request asked for the head alone.
-/
def writeBody (head : Http.Head) (body : Bytes) (handling : Option Fault) : List Act :=
  if head.line.isHead then [] else [.write body handling]

def nextSource (closing : Bool) (s : Source) : Option Source := if closing then none else some s

/-- The bytes of a response's head, of which there are none if the request has no heads. Even then
the date has to be one that can be told. -/
def headBytes (site : Site) (head : Http.Head) (closing : Bool) (response : Http.Response) :
    Except Fault (Option Bytes) :=
  if head.line.isBare then site.now.httpDate.map fun _ => none
  else
    match Http.ResponseHead.statusBytes response with
    | .error fault => .error fault
    | .ok first =>
      match site.now.httpDate with
      | .error fault => .error fault
      | .ok date =>
        (Http.ResponseHead.encodeLines (Http.ResponseHead.fieldLines date closing response)).map
          fun rest => some (first ++ rest)

/-- A response is written. Its head is written as a whole, and if it cannot be, the connection ends
without a byte of it. -/
def respond (site : Site) (head : Http.Head) (closing : Bool) (handling : Option Fault)
    (response : Http.Response) (s : Source) : Exchange :=
  let closing := Http.ResponseHead.closingAfter closing response.headers
  match headBytes site head closing response with
  | .ok none => ⟨writeBody head response.body handling, nextSource closing s⟩
  | .ok (some bytes) =>
    ⟨.write bytes handling :: writeBody head response.body handling, nextSource closing s⟩
  | .error fault => ⟨farewellFrom site.peer fault handling, none⟩

/-- A response whose body is a message about the fault that is dealt with. The message has to be one
that can be sent. -/
def respondWith (site : Site) (head : Http.Head) (closing : Bool) (fault : Fault) (status : Int)
    (message : List CodePoint) (s : Source) : Exchange :=
  match Fault.scalarText message with
  | .error f => ⟨farewellFrom site.peer f (some fault), none⟩
  | .ok t => respond site head closing (some fault) { status, body := Http.utf8 t } s

def messageOf (words : String) (fault : Fault) : Except Fault (List CodePoint) :=
  (Fault.written fault.text).map (CodePoint.ofText words.toList ++ ·)

def rejectBadRequest (site : Site) (head : Http.Head) (fault : Fault) (s : Source) : Exchange :=
  match messageOf "Bad Request: " fault with
  | .error f => ⟨farewellFrom site.peer f (some fault), none⟩
  | .ok message => respondWith site head true fault 400 message s

/-- A request fails. The failure is logged and told to the peer, unless it ends the run. -/
def fail (site : Site) (head : Http.Head) (closing : Bool) (fault : Fault) (s : Source) : Exchange :=
  if fault.isInterrupt then ⟨[.interrupt fault], none⟩
  else
    match messageOf "Internal Server Error: " fault with
    | .error f => ⟨farewellFrom site.peer f (some fault), none⟩
    | .ok message =>
      let answer := respondWith site head closing fault 500 message s
      ⟨requestError (.ofPoints message) [] (some fault) :: answer.acts, answer.next⟩

def notFoundError (head : Http.Head) : Act :=
  requestError (.text "No handler found".toList)
    [("verb".toList, .text head.line.method), ("path".toList, .text head.line.target)] none

def notFound (site : Site) (head : Http.Head) (closing : Bool) (s : Source) : Exchange :=
  let answer := respond site head closing none { status := 404 } s
  ⟨notFoundError head :: answer.acts, answer.next⟩

def handle (site : Site) (head : Http.Head) (closing : Bool) (handler : Handler)
    (request : Http.Request) (s : Source) : Exchange :=
  let reply := handler.handle request
  let answer := match reply.result with
    | .ok response => respond site head closing none response s
    | .error fault => fail site head closing fault s
  ⟨.call ⟨handler.name, request⟩ :: reply.pauses.map .pause ++ answer.acts, answer.next⟩

def requestOf (site : Site) (head : Http.Head) (path : Text) : Http.Request where
  method := head.line.method
  path
  headers := head.headers.toMap
  remoteAddress := site.peer.text

/-- A request whose body has been read is answered. -/
def dispatch (site : Site) (head : Http.Head) (closing : Bool) (s : Source) : Exchange :=
  match Http.Target.path head.line.target with
  | .error fault => fail site head closing fault s
  | .ok path =>
    match RouteTable.find? site.routes head.line.method path with
    | none => notFound site head closing s
    | some handler => handle site head closing handler (requestOf site head path) s

/-- The connection ends after the request, if its headers and the length of its body alone say so.
Without a length a body in transfer coding cannot be skipped. -/
def closingWith (head : Http.Head) (length : Nat) : Bool :=
  head.isClosing || (length = 0 && head.hasTransferCoding)

/-- The body is read and dropped, and the request answered. -/
def answerAfterBody (site : Site) (head : Http.Head) (length : Nat) (s : Source) : Exchange :=
  match Discard.run Source.read length s with
  | (.ok (), s) => dispatch site head (closingWith head length) s
  | (.error fault, s) =>
    if fault.isDisconnect then ⟨[], none⟩
    else if fault.kind = .badRequest then rejectBadRequest site head fault s
    else fail site head (closingWith head length) fault s

def answer (site : Site) (head : Http.Head) (s : Source) : Exchange :=
  match Http.ContentLength.ofHeaders head.headers with
  | .ok length => answerAfterBody site head length s
  | .error fault =>
    if fault.kind = .badRequest then rejectBadRequest site head fault s
    else fail site head head.isClosing fault s

/-- The peer is told to send the body if it waits for that. -/
def interim (head : Http.Head) : List Act :=
  if head.expectsContinue then [.write Http.continueHead none] else []

def refusal (site : Site) : Http.Stop → List Act
  | .quiet => []
  | .refuse page handling => refuse site page handling
  | .fail fault => farewell site.peer fault

/-- The next request is read and answered. -/
def exchange (site : Site) (s : Source) : Exchange :=
  match Http.Head.read s with
  | .error stop => ⟨refusal site stop, none⟩
  | .ok (head, s) =>
    let e := answer site head s
    ⟨interim head ++ e.acts, e.next⟩

theorem exists_of_messageOf {words : String} {fault : Fault} {message : List CodePoint}
    (h : messageOf words fault = .ok message) :
    ∃ text, fault.text = .ok text ∧ message = CodePoint.ofText words.toList ++ text := by
  unfold messageOf at h
  cases ht : fault.text with
  | error e => simp [ht, Fault.written, Except.map] at h
  | ok text =>
    simp only [ht, Fault.written, Except.map, Except.ok.injEq] at h
    exact ⟨text, rfl, h.symm⟩

theorem next_respond {site : Site} {head : Http.Head} {closing : Bool}
    {handling : Option Fault} {response : Http.Response} {s t : Source}
    (h : (respond site head closing handling response s).next = some t) : t = s := by
  simp only [respond, nextSource] at h
  repeat' split at h
  all_goals simp_all

theorem next_respondWith {site : Site} {head : Http.Head} {closing : Bool} {fault : Fault}
    {status : Int} {message : List CodePoint} {s t : Source}
    (h : (respondWith site head closing fault status message s).next = some t) : t = s := by
  unfold respondWith at h
  split at h
  · simp at h
  · exact next_respond h

theorem next_rejectBadRequest {site : Site} {head : Http.Head} {fault : Fault} {s t : Source}
    (h : (rejectBadRequest site head fault s).next = some t) : t = s := by
  unfold rejectBadRequest at h
  split at h
  · simp at h
  · exact next_respondWith h

theorem next_fail {site : Site} {head : Http.Head} {closing : Bool} {fault : Fault}
    {s t : Source} (h : (fail site head closing fault s).next = some t) : t = s := by
  unfold fail at h
  split at h
  · simp at h
  · split at h
    · simp at h
    · exact next_respondWith h

theorem next_dispatch {site : Site} {head : Http.Head} {closing : Bool} {s t : Source}
    (h : (dispatch site head closing s).next = some t) : t = s := by
  unfold dispatch at h
  split at h
  · exact next_fail h
  · split at h
    · exact next_respond h
    · simp only [handle] at h
      split at h
      · exact next_respond h
      · exact next_fail h

theorem length_next_answer_le {site : Site} {head : Http.Head} {s t : Source}
    (h : (answer site head s).next = some t) : t.unread.length ≤ s.unread.length := by
  unfold answer at h
  split at h
  · rename_i length _
    unfold answerAfterBody at h
    have hd := Discard.length_unread_run_le length s
    split at h
    · rename_i u hu
      rw [hu] at hd
      exact next_dispatch h ▸ hd
    · rename_i fault u hu
      rw [hu] at hd
      split at h
      · simp at h
      · split at h
        · exact next_rejectBadRequest h ▸ hd
        · exact next_fail h ▸ hd
  · split at h
    · exact Nat.le_of_eq (by rw [next_rejectBadRequest h])
    · exact Nat.le_of_eq (by rw [next_fail h])

/-- A request that leaves the connection open has taken at least one byte. -/
theorem length_next_exchange_lt {site : Site} {s t : Source}
    (h : (exchange site s).next = some t) : t.unread.length < s.unread.length := by
  unfold exchange at h
  split at h
  · simp at h
  · rename_i head u hu
    exact Nat.lt_of_le_of_lt (length_next_answer_le h) (Http.Head.length_unread_of_read hu)

/-- What is done on a connection while the peer takes everything: the requests are answered one
after the other until the connection ends. -/
def plan (site : Site) (s : Source) : List Act :=
  match _h : exchange site s with
  | ⟨acts, none⟩ => acts
  | ⟨acts, some t⟩ => acts ++ plan site t
termination_by s.unread.length
decreasing_by exact length_next_exchange_lt (by rw [_h])

theorem plan_of_next_none {site : Site} {s : Source} (h : (exchange site s).next = none) :
    plan site s = (exchange site s).acts := by
  rw [plan]
  split <;> simp_all

theorem plan_of_next_some {site : Site} {s t : Source} (h : (exchange site s).next = some t) :
    plan site s = (exchange site s).acts ++ plan site t := by
  rw [plan]
  split <;> simp_all

end Connection
end GreetingServer
