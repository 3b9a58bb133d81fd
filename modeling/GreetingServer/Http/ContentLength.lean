import GreetingServer.Fault
import GreetingServer.Http.Header

/-! The length of a request's body, as its headers announce it. -/
namespace GreetingServer
namespace Http
namespace ContentLength

/-- A value that is not made of digits makes the request a bad one. -/
def malformed (value : Text) : Fault :=
  Fault.of .badRequest ("invalid Content-Length: ".toList ++ Text.quoted value)

/-- The length that a value stands for, blanks around it apart. Digits may be no decimal ones, or
too many. -/
def ofValue (value : Text) : Except Fault Nat :=
  if value.isEmpty || !value.all Text.isDigit then .error (malformed value)
  else match Text.readNat value with
    | .ok n => .ok n
    | .error e => .error (Fault.ofNumeral value e)

/-- The length that the headers announce: that of the first such header, and zero without one. -/
def ofHeaders (headers : Headers) : Except Fault Nat :=
  match headers.first? "Content-Length".toList with
  | none => .ok 0
  | some value => ofValue (Text.strip value)

@[simp] theorem ofHeaders_nil : ofHeaders [] = .ok 0 := rfl

/-- A wrong length is a matter of the request, and the peer is still there. -/
theorem isDisconnect_of_ofHeaders {headers : Headers} {f : Fault}
    (h : ofHeaders headers = .error f) : f.isDisconnect = false := by
  unfold ofHeaders at h
  split at h
  · cases h
  · unfold ofValue at h
    split at h
    · cases h
      rfl
    · split at h <;> cases h
      rename_i e _
      cases e <;> rfl

end ContentLength
end Http
end GreetingServer
