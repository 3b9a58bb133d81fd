import GreetingServer.Charset.Escapes
import GreetingServer.Charset.MultiByte
import GreetingServer.Charset.Page.Cp1250
import GreetingServer.Charset.Page.Cp437
import GreetingServer.Charset.Page.Ebcdic
import GreetingServer.Charset.Page.Iso8859
import GreetingServer.Charset.Page.National
import GreetingServer.Charset.Page.Roman
import GreetingServer.Charset.Punycode
import GreetingServer.Charset.ShiftedBase64
import GreetingServer.Charset.Switched
import GreetingServer.Charset.Unicode
import GreetingServer.Fault

/-! All charsets by name. In a name case and punctuation do not count, dots apart. Bytes that a
charset has no character for are replaced, unless it refuses them for another reason. -/
namespace GreetingServer
namespace Charset

def unsupported : List Charset :=
  [{ name := "idna", decode := fun _ => .error (.unsupported "Unsupported error handling replace") },
    { name := "undefined", decode := fun _ => .error (.unsupported "undefined encoding") }]

def pages : List Page :=
  [Page.ascii, Page.latin1, Page.charmap] ++ Page.iso8859 ++ Page.cp1250 ++ Page.cp437 ++ Page.roman ++
    Page.national ++ Page.ebcdic

def all : List Charset :=
  pages.map Page.charset ++ Unicode.all ++ [ShiftedBase64.charset, Punycode.charset] ++ Escapes.all ++
    MultiByte.all ++ [Tilde.charset] ++ Designated.all ++ unsupported

def isNameChar (c : Char) : Bool := c.isAlphanum || c = '.'

/-- A name in lower case, with an underscore for each run of other characters inside it. -/
def normalize (name : Text) : Text :=
  Text.join ['_']
    ((Text.splitBy (!isNameChar ·) name).filter (!·.isEmpty)) |>.map Char.toLower

def hasAlias (c : Charset) (name : Text) : Bool := c.aliases.any (·.toList = name)

/-- The charset of a name. In other names than the first a dot may stand for an underscore. -/
def find? (name : Text) : Option Charset :=
  let name := normalize name
  let undotted := name.map fun c => if c = '.' then '_' else c
  match all.find? fun c => c.hasAlias name with
  | some c => some c
  | none => all.find? fun c => c.name.toList = name || c.hasAlias undotted

def undecodable (byte : Char) (position : Nat) : Fault :=
  Fault.of .undecodable ("'ascii' codec can't decode byte 0x".toList ++
    Text.hexadecimal 2 byte.toNat ++ " in position ".toList ++ Text.ofNat position ++
    ": ordinal not in range(128)".toList)

def failure (name : Text) (kind : Fault.Kind) (complaint : Text) : Fault :=
  { Fault.of kind ("decoding with '".toList ++ name ++ "' codec failed (".toList ++ kind.name ++
      ": ".toList ++ complaint ++ ")".toList) with
    cause := some (Fault.of kind complaint) }

/-- What comes of bytes that a charset of a given name refuses. Of bytes without a character it
matters only that they have been replaced. -/
def Refusal.settle (name : Text) : Refusal → Except Fault Text
  | unspelled => .ok [replacement]
  | beyondAscii byte position => .error (undecodable byte position)
  | unsupported complaint =>
    .error (failure name .badEncoding complaint.toList)
  | internal =>
    .error (failure name .runtime "internal codec error".toList)

def read? (name : Text) (bytes : Text) : Except Fault (Option Text) :=
  if name.contains '\x00' then .error (Fault.invalidValue "embedded null character".toList)
  else if bytes.isEmpty then .ok (some [])
  else match find? name with
    | none => .ok none
    | some charset =>
      match charset.decode bytes with
      | .ok t => .ok (some t)
      | .error r => (r.settle name).map some

@[simp] theorem read?_nil {name : Text} (h : name.contains '\x00' = false) :
    read? name [] = .ok (some []) := by
  unfold read?
  rw [if_neg (by rw [h]; exact Bool.false_ne_true), if_pos List.isEmpty_nil]

end Charset
end GreetingServer
