import GreetingServer.Fault
import GreetingServer.Http.ErrorPage
import GreetingServer.Text.Numeral
import GreetingServer.Text.Quoted

/-! The first line of a request: a method, a target and a version of the protocol. The oldest
version has requests of two words and responses without heads. -/
namespace GreetingServer
namespace Http

inductive Stop
  /-- There is no request, and the connection ends without a word. -/
  | quiet
  /-- The request is answered with a page, possibly while a fault is being dealt with. -/
  | refuse (page : ErrorPage) (handling : Option Fault)
  | fail (fault : Fault)

structure RequestLine where
  method : Text
  target : Text
  version : Text
  /-- The version of the request keeps the connection open after the response. -/
  persistent : Bool
  deriving Repr, DecidableEq

namespace RequestLine

def bareVersion : Text := "HTTP/0.9".toList

def isBare (line : RequestLine) : Bool := line.version == bareVersion

def isHead (line : RequestLine) : Bool := line.method == "HEAD".toList

def badRequest (message : Text) (bare : Bool) (handling : Option Fault) : Stop :=
  .refuse ⟨400, message, Status.meaning 400, bare, false⟩ handling

def versionNumber (t : Text) : Except Fault Int :=
  match Text.readInt t with
  | .ok n => .ok n
  | .error e => .error (Fault.ofNumeral t e)

def versionStart : Text := "HTTP/".toList

def versionNumbers (version : Text) : Except Fault (Int × Int) :=
  if versionStart.isPrefixOf version then
    match Text.splitBy (· = '.') (version.drop versionStart.length) with
    | [major, minor] =>
      match versionNumber major with
      | .error f => .error f
      | .ok major => (versionNumber minor).map fun minor => (major, minor)
    | _ => .error (Fault.invalidValue [])
  else .error (Fault.invalidValue [])

def atLeast (version least : Int × Int) : Bool :=
  least.1 < version.1 || (least.1 = version.1 && least.2 ≤ version.2)

/-- Whether a version keeps the connection open, if it is a version that is spoken here. -/
def persistence (version : Text) : Except Stop Bool :=
  match versionNumbers version with
  | .error f =>
    .error (badRequest ("Bad request version (".toList ++ Text.quoted version ++ [')']) true (some f))
  | .ok n =>
    if atLeast n (2, 0) then
      let numbers := version.drop versionStart.length
      .error (.refuse ⟨505, "Invalid HTTP version (".toList ++ numbers ++ [')'], Status.meaning 505,
        true, false⟩ none)
    else .ok (atLeast n (1, 1))

def singleSlash (target : Text) : Text :=
  if "//".toList.isPrefixOf target then '/' :: target.dropWhile (· = '/') else target

def badSyntax (line : Text) (bare : Bool) : Stop :=
  badRequest ("Bad request syntax (".toList ++ Text.quoted line ++ [')']) bare none

def ofWords (line : Text) : List Text → Except Stop RequestLine
  | [] => .error .quiet
  | [_] => .error (badSyntax line true)
  | [method, target] =>
    if method = "GET".toList then .ok ⟨method, singleSlash target, bareVersion, false⟩
    else
      .error
        (badRequest ("Bad HTTP/0.9 request type (".toList ++ Text.quoted method ++ [')']) true none)
  | method :: target :: version :: more =>
    let version := (version :: more).getLastD []
    match persistence version with
    | .error stop => .error stop
    | .ok persistent =>
      if more.isEmpty then .ok ⟨method, singleSlash target, version, persistent⟩
      else .error (badSyntax line (version == bareVersion))

def parse (raw : Text) : Except Stop RequestLine :=
  let line := Text.trimRight (fun c => c = '\r' || c = '\n') raw
  ofWords line (Text.words line)

theorem singleSlash_of_single (c : Char) (t : Text) (h : c ≠ '/') :
    singleSlash ('/' :: c :: t) = '/' :: c :: t := by
  simp [singleSlash, Ne.symm h]

/-- The usual version keeps the connection open. -/
theorem persistence_protocol : persistence protocol = .ok true := by
  simp only [persistence,
    show versionNumbers protocol = .ok (1, 1) by rfl,
    show atLeast (1, 1) (2, 0) = false by decide, show atLeast (1, 1) (1, 1) = true by decide]
  rfl

end RequestLine
end Http
end GreetingServer
