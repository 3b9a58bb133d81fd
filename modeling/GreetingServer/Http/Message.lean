import GreetingServer.Http.Header
import GreetingServer.Text.Latin1

/-! Requests as handlers see them, and responses as handlers make them. -/
namespace GreetingServer
namespace Http

/-- A request. The path has no query; of the body nothing is kept. -/
structure Request where
  method : Text
  path : Text
  headers : Ordered Text Text
  remoteAddress : Text
  deriving Repr, DecidableEq

/-- A response. A header may have several values. -/
structure Response where
  status : Int := 200
  headers : Headers := []
  body : Bytes := []
  deriving Repr, DecidableEq

namespace Response

def addHeader (r : Response) (name value : Text) : Response :=
  { r with headers := r.headers ++ [(name, value)] }

def headerValues (r : Response) (name : Text) : List Text := r.headers.values name

@[simp] theorem headers_addHeader (r : Response) (name value : Text) :
    (r.addHeader name value).headers = r.headers ++ [(name, value)] := rfl

theorem headerValues_addHeader_self (r : Response) (name value : Text) :
    (r.addHeader name value).headerValues name = r.headerValues name ++ [value] := by
  simp [headerValues, Headers.values, Headers.sameName]

end Response
end Http
end GreetingServer
