import GreetingServer.Handler
import GreetingServer.RouteTable

/-! The greeting: every request is answered with the same text after the same delay, and with the
address of the peer in a header. -/
namespace GreetingServer
namespace Greeting

def body : Text := "Hello, world!\n".toList

/-- How long the answer is held back, in milliseconds. -/
def delay : Nat := 1000

def header : Text := "X-Remote-Addr".toList

def route : Route := ⟨none, "/".toList⟩

def response (request : Http.Request) : Http.Response :=
  { body := body.map Text.toByte, headers := [(header, request.remoteAddress)] }

def handler : Handler where
  name := "hello".toList
  handle request := { pauses := [delay], result := .ok (response request) }

def routes : RouteTable Handler := RouteTable.ofEntries [(route, handler)]

def publicNames : List String :=
  ["HELLO_BODY", "HelloHTTPServer", "HelloServerError", "REMOTE_ADDR_HEADER", "RESPONSE_DELAY_SEC",
    "ServerConfig", "ServerStartupError"]

theorem length_body : (body.map Text.toByte).length = 14 := by decide

/-- Every path that starts with a slash is greeted, whatever the method. -/
theorem find?_routes (verb path : Text) : RouteTable.find? routes verb ('/' :: path) = some handler := by
  have h : route.covers verb ('/' :: path) = true := by
    simp [Route.covers, Route.coversVerb, Route.coversPath, route]
  simp [RouteTable.find?, routes, RouteTable.ofEntries, Ordered.putAll, Ordered.put, Ordered.keys,
    RouteTable.best?, h, RouteTable.better, Ordered.get?]

end Greeting
end GreetingServer
