import GreetingServer.Fault
import GreetingServer.Http.HostAddress

/-! The target of a request. A target may name a scheme and an authority before its path, and a
query and a fragment behind it; routes look at the path alone. -/
namespace GreetingServer
namespace Http
namespace Target

def invalid (message : Text) : Fault := Fault.invalidValue message

def invalidBrackets : Fault := invalid "Invalid IPv6 URL".toList

/-- The name of a version of addresses that is still to come: its number and some address. -/
def isFutureAddress (host : Text) : Bool :=
  match host with
  | 'v' :: rest =>
    let number := rest.takeWhile fun c => (Text.hexadecimalValue? c).isSome
    match rest.drop number.length with
    | '.' :: address => !number.isEmpty && !address.isEmpty
    | _ => false
  | _ => false

/-- A host that stands in brackets has to be a numeric address, but not one with points alone. -/
def checkHost (host : Text) : Except Fault Unit :=
  if host.head? = some 'v' then
    if isFutureAddress host then .ok () else .error (invalid "IPvFuture address is invalid".toList)
  else if HostAddress.isVersion4 host then
    .error (invalid "An IPv4 address cannot be in brackets".toList)
  else if HostAddress.isVersion6 host then .ok ()
  else
    .error (invalid (Text.quoted host ++ " does not appear to be an IPv4 or IPv6 address".toList))

/-- An authority with both brackets: the brackets enclose the whole host, and only a port may follow
them. -/
def checkBrackets (authority : Text) : Except Fault Unit :=
  let hostAndPort := Text.afterLast '@' authority
  let (before, bracketed) := Text.cut (· = '[') hostAndPort
  match bracketed with
  | [] => checkHost (Text.cut (· = ':') hostAndPort).1
  | _ :: bracketed =>
    let (host, rest) := Text.cut (· = ']') bracketed
    if !before.isEmpty then .error invalidBrackets
    else match rest.drop 1 with
      | [] => checkHost host
      | ':' :: _ => checkHost host
      | _ => .error invalidBrackets

/-- An authority is wrong if it has one bracket without the other or a bad host between them. -/
def checkAuthority (authority : Text) : Except Fault Unit :=
  match authority.contains '[', authority.contains ']' with
  | false, false => .ok ()
  | true, true => checkBrackets authority
  | _, _ => .error invalidBrackets

def isSchemeChar (c : Char) : Bool := c.isAlphanum || c = '+' || c = '-' || c = '.'

def dropScheme (target : Text) : Text :=
  let (scheme, rest) := Text.cut (· = ':') target
  match scheme, rest with
  | first :: _, _ :: rest => if first.isAlpha && scheme.all isSchemeChar then rest else target
  | _, _ => target

def endsAuthority (c : Char) : Bool := c = '/' || c = '?' || c = '#'

def dropAuthority : Text → Except Fault Text
  | '/' :: '/' :: rest =>
    let (authority, rest) := Text.cut endsAuthority rest
    match checkAuthority authority with
    | .ok () => .ok rest
    | .error f => .error f
  | target => .ok target

def dropQuery (t : Text) : Text :=
  (Text.cut (· = '?') (Text.cut (· = '#') t).1).1

/-- Line ends and tabs are no part of a target, nor are controls and spaces at its front. -/
def clean (target : Text) : Text :=
  (target.dropWhile fun c => c.toNat ≤ 32).filter fun c => !(c = '\t' || c = '\r' || c = '\n')

def path (target : Text) : Except Fault Text :=
  match dropAuthority (dropScheme (clean target)) with
  | .ok rest => .ok (dropQuery rest)
  | .error f => .error f

theorem kind_of_checkHost {host : Text} {f : Fault} (h : checkHost host = .error f) :
    f.kind = .invalidValue := by
  unfold checkHost at h
  repeat' split at h
  all_goals cases h
  all_goals rfl

theorem kind_of_checkBrackets {authority : Text} {f : Fault}
    (h : checkBrackets authority = .error f) : f.kind = .invalidValue := by
  simp only [checkBrackets] at h
  repeat' split at h
  all_goals first
    | exact kind_of_checkHost h
    | (cases h; rfl)

theorem kind_of_path {target : Text} {f : Fault} (h : path target = .error f) :
    f.kind = .invalidValue := by
  unfold path at h
  split at h
  · cases h
  · rename_i fault hf
    obtain rfl := Except.error.inj h
    unfold dropAuthority at hf
    repeat' split at hf
    · cases hf
    · rename_i g hg
      obtain rfl := Except.error.inj hf
      unfold checkAuthority at hg
      split at hg
      · cases hg
      · exact kind_of_checkBrackets hg
      · cases hg
        rfl
    · cases hf

theorem dropScheme_slash (t : Text) : dropScheme ('/' :: t) = '/' :: t := by
  have ha : Char.isAlpha '/' = false := by decide
  simp only [dropScheme, Text.cut, List.takeWhile_cons, List.dropWhile_cons]
  simp only [show (!decide ('/' = ':')) = true by decide, if_true]
  split
  · rename_i first _ _ _ h _
    obtain rfl : '/' = first := (List.cons.inj h).1
    simp [ha]
  · rfl

end Target
end Http
end GreetingServer
