import GreetingServer.Fault
import GreetingServer.Ordered

/-! Log entries: what a part of the program says at which level, and the fields that say more about
it. -/
namespace GreetingServer
namespace Log

inductive Level
  | debug
  | info
  | warning
  | error
  | critical
  deriving Repr, DecidableEq

def Level.name : Level → Text
  | debug => "debug".toList
  | info => "info".toList
  | warning => "warning".toList
  | error => "error".toList
  | critical => "critical".toList

abbrev Fields := Ordered Text Value

inductive Part
  | main
  | server
  | router
  deriving Repr, DecidableEq

def Part.module : Part → Text
  | main => "hello_server.main".toList
  | server => "hello_server.http_server.server".toList
  | router => "hello_server.http_server.router".toList

structure Entry where
  part : Part
  level : Level
  event : Value
  fields : Fields := []
  fault : Option Fault := none

def moduleField : Text := "module".toList
def addressField : Text := "address".toList
def eventField : Text := "event".toList
def levelField : Text := "level".toList
def faultField : Text := "exc_info".toList
def reportField : Text := "exception".toList
def timeField : Text := "timestamp".toList
def messageField : Text := "message".toList

end Log
end GreetingServer
