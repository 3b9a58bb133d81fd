import GreetingServer.Ordered
import GreetingServer.Text.Lowercase
import GreetingServer.Text.Basic

/-! Header fields. Names are compared in lower case, and a name may stand more than once. -/
namespace GreetingServer
namespace Http

abbrev Headers := List (Text × Text)

namespace Headers

def sameName (a b : Text) : Bool := Text.lower a == Text.lower b

def values (headers : Headers) (name : Text) : List Text :=
  (headers.filter fun field => sameName field.1 name).map (·.2)

def first? (headers : Headers) (name : Text) : Option Text := (headers.values name).head?

def has (headers : Headers) (name : Text) : Bool := headers.any fun field => sameName field.1 name

/-- The fields as a map: of each spelling of a name the place of the first and the value of the
last. -/
def toMap (headers : Headers) : Ordered Text Text := Ordered.putAll headers []

theorem values_append (a b : Headers) (name : Text) :
    values (a ++ b) name = values a name ++ values b name := by
  simp [values]

end Headers
end Http
end GreetingServer
