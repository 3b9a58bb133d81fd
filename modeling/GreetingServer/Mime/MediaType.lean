import GreetingServer.Charset
import GreetingServer.Http.Header
import GreetingServer.Mime.Parameter

/-! Media types of messages and of their parts. The type says how the text behind the fields of a
message is read: as parts with a boundary between them, as another message, as blocks of fields, or
as nothing but text. -/
namespace GreetingServer
namespace Mime

inductive MediaType
  | text
  | message
  /-- Blocks of fields with empty lines between them. -/
  | status
  /-- Parts, which cannot be told apart without a boundary. If the type is that of a digest, the
  parts are messages unless they say otherwise. -/
  | multipart (boundary : Option Text) (digest : Bool)
  deriving Repr, DecidableEq

/-- The text that a parameter stands for. An unknown charset leaves it as it is, quotes apart. -/
def Parameter.decode : Parameter → Except Fault Text
  | .plain t => .ok (unquote t)
  | .extended charset t =>
    (Charset.read? (charset.getD "us-ascii".toList) t).map fun decoded => decoded.getD (unquote t)

namespace MediaType

def contentTypeField : Text := "Content-Type".toList

def digestName : Text := "multipart/digest".toList
def statusName : Text := "message/delivery-status".toList
def textName : Text := "text/plain".toList

/-- The name of the type that a value starts with. A name has exactly one slash. -/
def nameOf (value : Text) : Text :=
  let name := Text.lower (Text.strip (Text.cut (· = ';') value).1)
  if name.count '/' = 1 then name else textName

/-- The boundary that a value gives: that of the first parameter with its name, without blanks at
the end. -/
def boundaryOf (value : Text) : Except Fault (Option Text) :=
  match Parameter.ofValue value with
  | .error f => .error f
  | .ok parameters =>
    match parameters.find? fun p => Text.lower p.1 = "boundary".toList with
    | none => .ok none
    | some (_, p) => p.decode.map fun t => some (Text.trimRight Text.isBlank t)

def ofValue (value : Text) : Except Fault MediaType :=
  let name := nameOf value
  let general := (Text.cut (· = '/') name).1
  if name = statusName then .ok status
  else if general = "message".toList then .ok message
  else if general = "multipart".toList then
    (boundaryOf value).map fun boundary => multipart boundary (name = digestName)
  else .ok text

/-- The type that fields give: that of the first field about it. A part of a digest is a message if
it has no such field. -/
def ofHeaders (headers : Http.Headers) (inDigest : Bool) : Except Fault MediaType :=
  match headers.first? contentTypeField with
  | some value => ofValue value
  | none => .ok (if inDigest then message else text)

@[simp] theorem ofHeaders_nil : ofHeaders [] false = .ok text := rfl

theorem ofHeaders_of_first?_eq_none {headers : Http.Headers}
    (h : headers.first? contentTypeField = none) (inDigest : Bool) :
    ofHeaders headers inDigest = .ok (if inDigest then message else text) := by
  simp [ofHeaders, h]

end MediaType
end Mime
end GreetingServer
