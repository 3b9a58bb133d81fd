import GreetingServer.Value.Display

/-! Faults: what goes wrong in a handler, on a connection or in the server. A fault has a kind, by
which others decide what to do about it, and a text for people. The text may have surrogates, and
there is none if it would have a numeral that is too long. A fault may be the effect of another one,
or have come up while another one was being dealt with. -/
namespace GreetingServer

/-- Kinds of fault. Those of the first group come from the operating system. -/
inductive Fault.Kind
  | system
  | permission
  | fileNotFound
  | interruptedCall
  | wouldBlock
  | fileExists
  | notADirectory
  | isADirectory
  | childProcess
  | processLookup
  | brokenPipe
  | connectionAborted
  | connectionReset
  | connectionRefused
  | timeout
  | addressLookup
  | invalidValue
  | unencodable
  | undecodable
  | badEncoding
  | wrongType
  | missingKey
  | noAttribute
  | zeroDivision
  | overflow
  | noMemory
  | tooDeep
  | assertion
  | notImplemented
  | runtime
  | frozen
  | badRequest
  | longLine
  | badProtocol
  | server
  | startup
  | interrupt
  deriving Repr, DecidableEq

namespace Fault.Kind

def name : Kind → Text
  | system => "OSError".toList
  | permission => "PermissionError".toList
  | fileNotFound => "FileNotFoundError".toList
  | interruptedCall => "InterruptedError".toList
  | wouldBlock => "BlockingIOError".toList
  | fileExists => "FileExistsError".toList
  | notADirectory => "NotADirectoryError".toList
  | isADirectory => "IsADirectoryError".toList
  | childProcess => "ChildProcessError".toList
  | processLookup => "ProcessLookupError".toList
  | brokenPipe => "BrokenPipeError".toList
  | connectionAborted => "ConnectionAbortedError".toList
  | connectionReset => "ConnectionResetError".toList
  | connectionRefused => "ConnectionRefusedError".toList
  | timeout => "TimeoutError".toList
  | addressLookup => "gaierror".toList
  | invalidValue => "ValueError".toList
  | unencodable => "UnicodeEncodeError".toList
  | undecodable => "UnicodeDecodeError".toList
  | badEncoding => "UnicodeError".toList
  | wrongType => "TypeError".toList
  | missingKey => "KeyError".toList
  | noAttribute => "AttributeError".toList
  | zeroDivision => "ZeroDivisionError".toList
  | overflow => "OverflowError".toList
  | noMemory => "MemoryError".toList
  | tooDeep => "RecursionError".toList
  | assertion => "AssertionError".toList
  | notImplemented => "NotImplementedError".toList
  | runtime => "RuntimeError".toList
  | frozen => "FrozenInstanceError".toList
  | badRequest => "_BadRequest".toList
  | longLine => "LineTooLong".toList
  | badProtocol => "HTTPException".toList
  | server => "HelloServerError".toList
  | startup => "ServerStartupError".toList
  | interrupt => "KeyboardInterrupt".toList

/-- Where a kind belongs that is not among the general ones. -/
def home : Kind → Option Text
  | addressLookup => some "socket".toList
  | frozen => some "dataclasses".toList
  | badRequest => some "hello_server.http_server.router".toList
  | longLine => some "http.client".toList
  | badProtocol => some "http.client".toList
  | server => some "hello_server.exceptions".toList
  | startup => some "hello_server.exceptions".toList
  | _ => none

def fullName (k : Kind) : Text :=
  match k.home with
  | some place => place ++ '.' :: k.name
  | none => k.name

def isDisconnect : Kind → Bool
  | brokenPipe | connectionAborted | connectionReset | connectionRefused => true
  | _ => false

def isSystem : Kind → Bool
  | system | permission | fileNotFound | interruptedCall | wouldBlock | fileExists | notADirectory
  | isADirectory | childProcess | processLookup | brokenPipe | connectionAborted | connectionReset
  | connectionRefused | timeout | addressLookup => true
  | _ => false

/-- The kind that the operating system's error number tells. -/
def ofErrorNumber (n : Int) : Kind :=
  if n = 1 ∨ n = 13 then permission
  else if n = 2 then fileNotFound
  else if n = 3 then processLookup
  else if n = 4 then interruptedCall
  else if n = 10 then childProcess
  else if n = 11 ∨ n = 114 ∨ n = 115 then wouldBlock
  else if n = 17 then fileExists
  else if n = 20 then notADirectory
  else if n = 21 then isADirectory
  else if n = 32 ∨ n = 108 then brokenPipe
  else if n = 103 then connectionAborted
  else if n = 104 then connectionReset
  else if n = 111 then connectionRefused
  else if n = 110 then timeout
  else system

theorem isSystem_ofErrorNumber (n : Int) : (ofErrorNumber n).isSystem = true := by
  simp only [ofErrorNumber, apply_ite isSystem]
  simp only [isSystem, ite_self]

@[simp] theorem isSystem_of_isDisconnect {k : Kind} (h : k.isDisconnect = true) :
    k.isSystem = true := by cases k <;> simp_all [isDisconnect, isSystem]

end Fault.Kind

/-- A fault. It has been raised unless it was only made to be named as a cause. -/
structure Fault where
  kind : Fault.Kind
  text : Except Text.NumeralError (List CodePoint)
  raised : Bool := true
  cause : Option Fault := none
  context : Option Fault := none

namespace Fault

def of (kind : Kind) (text : Text) : Fault := { kind, text := .ok (CodePoint.ofText text) }

def wrongType (text : Text) : Fault := of .wrongType text

/-- A value of the right type cannot be used. -/
def invalidValue (text : Text) : Fault := of .invalidValue text

def unordered (sign : String) (first second : Text) : Fault :=
  wrongType ("'".toList ++ sign.toList ++ "' not supported between instances of '".toList ++ first ++
    "' and '".toList ++ second ++ "'".toList)

def unhashable (typeName : Text) : Fault := wrongType ("unhashable type: '".toList ++ typeName ++ "'".toList)

/-- A key is not there. It is shown as it stands inside other values. -/
def missing (key : Value) : Fault :=
  { kind := .missingKey, text := key.shown.map CodePoint.ofText }

def ofNumeral (t : Text) : Text.NumeralError → Fault
  | .malformed =>
    invalidValue ("invalid literal for int() with base 10: ".toList ++ (Text.quoted t).take 200)
  | .tooLong digits =>
    invalidValue ("Exceeds the limit (".toList ++ Text.ofNat Text.digitLimit ++
      " digits) for integer string conversion: value has ".toList ++ Text.ofNat digits ++
      " digits; use sys.set_int_max_str_digits() to increase the limit".toList)

/-- An integer has too many digits to be written. -/
def unwritten : Text.NumeralError → Fault := fun _ =>
  invalidValue ("Exceeds the limit (".toList ++ Text.ofNat Text.digitLimit ++
    " digits) for integer string conversion; use sys.set_int_max_str_digits() to increase the limit".toList)

def written {α : Type} : Except Text.NumeralError α → Except Fault α
  | .ok a => .ok a
  | .error e => .error (unwritten e)

/-- Code points that an encoding has not, told by where they start. A single one is told by its code,
and several by their positions. -/
def unencodable (codec reason : String) (start : Nat) (run : List CodePoint) : Fault :=
  let front := '\x27' :: codec.toList ++ "' codec can't encode ".toList
  of .unencodable <|
    match run with
    | [p] =>
      front ++ "character '".toList ++ p.escaped ++ "' in position ".toList ++ Text.ofNat start ++
        ": ".toList ++ reason.toList
    | run =>
      front ++ "characters in position ".toList ++ Text.ofNat start ++ '-' ::
        Text.ofNat (start + run.length - 1) ++ ": ".toList ++ reason.toList

/-- Code points as a text. Surrogates cannot be sent, and the first run of them is reported. -/
def scalarText (ps : List CodePoint) : Except Fault Text :=
  match CodePoint.text? ps with
  | some t => .ok t
  | none =>
    .error (unencodable "utf-8" "surrogates not allowed"
      (ps.takeWhile (·.char?.isSome)).length
      ((ps.dropWhile (·.char?.isSome)).takeWhile (·.char?.isNone)))

@[simp] theorem scalarText_ofText (t : Text) : scalarText (CodePoint.ofText t) = .ok t := by
  simp [scalarText]

/-- A number is too large or too small. -/
def overflow (text : Text) : Fault := of .overflow text

def describe (kind : Kind) : List Value → Except Text.NumeralError (List CodePoint)
  | [] => .ok []
  | [value] =>
    if kind = .missingKey then value.shown.map CodePoint.ofText else value.displayed
  | values => (Value.tuple values).shown.map CodePoint.ofText

def describeFiles : List Value → Text
  | [] => []
  | file :: others => ": ".toList ++ file.literal ++ others.flatMap (" -> ".toList ++ ·.literal)

def describeSystem (number message : Value) (files : List Value) :
    Except Text.NumeralError (List CodePoint) :=
  (Value.tuple (number :: message :: files)).checkNumerals.map fun _ =>
    CodePoint.ofText "[Errno ".toList ++ number.displayPoints ++ CodePoint.ofText "] ".toList ++
      message.displayPoints ++ CodePoint.ofText (describeFiles files)

def IsTold (f : Fault) (text : Text) : Prop := f.text = .ok (CodePoint.ofText text)

def present : Value → Bool
  | .null => false
  | _ => true

/-- The files among the values after an error number and a message: the first and the third. There
is no second file without a first. -/
def filesOf : List Value → List Value
  | [] => []
  | first :: rest => if present first then first :: (rest.drop 1).filter present else []

/-- A count of bytes is an integer of sixty-four bits. -/
def checkCount (n : Int) : Except Fault Unit :=
  if -Nat.pow 2 63 ≤ n ∧ n < Nat.pow 2 63 then .ok ()
  else
    .error (invalidValue "cannot fit 'int' into an index-sized integer".toList)

/-- The files that a fault of some kind is about. Where an operation would have blocked, a number
stands for the count of bytes that were written before, and not for files. -/
def filesFor (kind : Kind) (values : List Value) : Except Fault (List Value) :=
  match kind, values with
  | .wouldBlock, .int n :: _ => (checkCount n).map fun _ => []
  | .wouldBlock, .bool _ :: _ => .ok []
  | .wouldBlock, .float _ :: _ =>
    .error (wrongType "'float' object cannot be interpreted as an integer".toList)
  | _, values => .ok (filesOf values)

def errorNumber : Value → Option Int
  | .int n => some n
  | .bool b => some (if b then 1 else 0)
  | _ => none

/-- The kind of a system fault with an error number: if it is the general one, the number tells. -/
def kindFor (kind : Kind) (number : Value) : Kind :=
  match kind, errorNumber number with
  | .system, some n => Kind.ofErrorNumber n
  | kind, _ => kind

/-- A system fault of two to five values has an error number, a message and perhaps files. -/
def makeSystem (kind : Kind) : List Value → Except Fault Fault
  | number :: message :: rest =>
    if rest.length ≤ 3 then
      (filesFor (kindFor kind number) rest).map fun files =>
        { kind := kindFor kind number, text := describeSystem number message files }
    else .ok { kind, text := describe kind (number :: message :: rest) }
  | values => .ok { kind, text := describe kind values }

def makeServer : List Value → Except Fault Fault
  | [message] => .ok { kind := .server, text := message.displayed }
  | [] =>
    .error (wrongType
      "HelloServerError.__init__() missing 1 required positional argument: 'message'".toList)
  | values =>
    .error (wrongType ("HelloServerError.__init__() takes 2 positional arguments but ".toList ++
      Text.ofNat (values.length + 1) ++ " were given".toList))

def make (kind : Kind) (values : List Value) : Except Fault Fault :=
  if kind.isSystem then makeSystem kind values
  else if kind = .server then makeServer values
  else .ok { kind, text := describe kind values }

def ofMaking : Except Fault Fault → Fault
  | .ok f => f
  | .error f => f

def ofMakings (made cause : Except Fault Fault) : Fault :=
  match made, cause with
  | .error f, _ => f
  | .ok _, .error f => f
  | .ok f, .ok c => { f with cause := some { c with raised := false } }

def ofErrorNumber (number : Int) (message : Text) : Fault where
  kind := Kind.ofErrorNumber number
  text := describeSystem (.int number) (.text message) []

theorem isSystem_ofErrorNumber (number : Int) (message : Text) :
    (ofErrorNumber number message).kind.isSystem = true := Kind.isSystem_ofErrorNumber number

def ofLookup (number : Int) (message : Text) : Fault where
  kind := .addressLookup
  text := describeSystem (.int number) (.text message) []

def reset : Fault := ofErrorNumber 104 "Connection reset by peer".toList

def brokenPipe : Fault := ofErrorNumber 32 "Broken pipe".toList

def aborted : Fault := ofErrorNumber 103 "Software caused connection abort".toList

def refused : Fault := ofErrorNumber 111 "Connection refused".toList

def timedOut : Fault := of .timeout "timed out".toList

def noRoute : Fault := ofErrorNumber 113 "No route to host".toList

def interrupted : Fault := of .interrupt []

def selectorFailed : Fault := of .runtime "selector failed".toList

def addressInUse : Fault := ofErrorNumber 98 "Address already in use".toList

/-- The server cannot listen on an address for a reason that a cause tells. -/
def notListening (address : Text) (why : List CodePoint) (cause : Fault) : Fault where
  kind := .startup
  text := .ok (CodePoint.ofText ("Failed to listen on ".toList ++ address ++ ": ".toList) ++ why)
  cause := some cause

/-- The server cannot listen on an address. The text of the cause is told, if it can be written. -/
def startup (address : Text) (cause : Fault) : Except Fault Fault :=
  (written cause.text).map fun why => notListening address why cause

def isDisconnect (f : Fault) : Bool := f.kind.isDisconnect

/-- The end of a connection by this fault is no news: the peer is gone or has been silent too long.
-/
def isSilent (f : Fault) : Bool := f.isDisconnect || f.kind = .timeout

/-- The fault asks for the whole run to end, and nobody deals with it on the way. -/
def isInterrupt (f : Fault) : Bool := f.kind = .interrupt

theorem isSilent_of_isDisconnect {f : Fault} (h : f.isDisconnect = true) : f.isSilent = true := by
  simp [isSilent, h]

end Fault
end GreetingServer
