import GreetingServer.Http.Header
import GreetingServer.Text.Lines

/-! Lines of header fields. A line that starts with a blank goes on with the value of the field
before it. -/
namespace GreetingServer
namespace Http
namespace FieldLine

def isContinuation : Text → Bool
  | ' ' :: _ => true
  | '\t' :: _ => true
  | _ => false

def isNameChar (c : Char) : Bool := 33 ≤ c.toNat && c.toNat ≤ 126 && c != ':'

/-- What a line starts with that only separates letters in a box. -/
def envelope : Text := "From ".toList

def isEnvelope (line : Text) : Bool := envelope.isPrefixOf line

def isFieldLine (line : Text) : Bool :=
  isEnvelope line || (line.dropWhile isNameChar).head? == some ':' || isContinuation line

def field (line : Text) (continuations : List Text) : Text × Text :=
  (line.takeWhile (· != ':'),
    Text.trimRight Text.isLineEnd
      (Text.trimLeft (fun c => c = ' ' || c = '\t') ((line.dropWhile (· != ':')).drop 1) ++
        continuations.flatten))

/-- A line is taken into account: continuations wait for their field, and lines without a name are
dropped with all that continues them. -/
def takeLine (line : Text) (later : List Text × Headers) : List Text × Headers :=
  if isContinuation line then (line :: later.1, later.2)
  else if isEnvelope line || line.head? == some ':' then ([], later.2)
  else ([], field line later.1 :: later.2)

def fields (lines : List Text) : Headers := (lines.foldr takeLine ([], [])).2

end FieldLine
end Http
end GreetingServer
