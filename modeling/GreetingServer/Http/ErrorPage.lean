import GreetingServer.Http.Message
import GreetingServer.Http.Status
import GreetingServer.Text.Numeral

/-! What is written on a connection: response heads, and the pages that answer requests which could
not be understood. -/
namespace GreetingServer
namespace Http

def lineEnd : Text := "\r\n".toList

def protocol : Text := "HTTP/1.1".toList

def serverName : Text := "BaseHTTP/0.6 Python/3.11.2".toList

def codeLine (numeral phrase : Text) : Text :=
  protocol ++ ' ' :: numeral ++ ' ' :: phrase ++ lineEnd

def fieldLine (field : Text × Text) : Text := field.1 ++ ": ".toList ++ field.2 ++ lineEnd

def utf8 (t : Text) : Bytes := t.flatMap String.utf8EncodeChar

def commonFields (date : Text) : Headers :=
  [("Server".toList, serverName), ("Date".toList, date)]

def closeField : Text × Text := ("Connection".toList, "close".toList)

def lengthField (body : Bytes) : Text × Text :=
  ("Content-Length".toList, Text.ofNat body.length)

def escapeHtml (t : Text) : Text :=
  t.flatMap fun c =>
    if c = '&' then "&amp;".toList
    else if c = '<' then "&lt;".toList
    else if c = '>' then "&gt;".toList
    else [c]

/-- An answer to a request that could not be understood. The connection ends after it. -/
structure ErrorPage where
  status : Nat
  message : Text
  explanation : Text
  /-- The request was made in a version of the protocol that has no response heads. -/
  bare : Bool
  headOnly : Bool
  deriving Repr, DecidableEq

namespace ErrorPage

def text (p : ErrorPage) : Text :=
  let code := Text.ofNat p.status
  let message := escapeHtml p.message
  let explanation := escapeHtml p.explanation
  "<!DOCTYPE HTML>\n<html lang=\"en\">\n    <head>\n".toList ++
  "        <meta charset=\"utf-8\">\n        <title>Error response</title>\n".toList ++
  "    </head>\n    <body>\n        <h1>Error response</h1>\n".toList ++
  "        <p>Error code: ".toList ++ code ++ "</p>\n".toList ++
  "        <p>Message: ".toList ++ message ++ ".</p>\n".toList ++
  "        <p>Error code explanation: ".toList ++ code ++ " - ".toList ++ explanation ++
  ".</p>\n    </body>\n</html>\n".toList

def body (p : ErrorPage) : Bytes := utf8 p.text

/-- The head of the page. Its message has been read as Latin-1 and can be written so. -/
def head (p : ErrorPage) (date : Text) : Bytes :=
  let fields := commonFields date ++
    [closeField, ("Content-Type".toList, "text/html;charset=utf-8".toList), lengthField p.body]
  (codeLine (Text.ofNat p.status) p.message ++ fields.flatMap fieldLine ++ lineEnd).map Text.toByte

/-- What is written for the page: its head and its body, of which either may be left out. -/
def writes (p : ErrorPage) (date : Text) : List Bytes :=
  (if p.bare then [] else [p.head date]) ++ (if p.headOnly then [] else [p.body])

end ErrorPage

/-- The response to a request to go on and send the body. -/
def continueHead : Bytes := (codeLine "100".toList (Status.phrase 100) ++ lineEnd).map Text.toByte

end Http
end GreetingServer
