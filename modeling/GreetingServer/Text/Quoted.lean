import GreetingServer.Text.Hexadecimal
import GreetingServer.Text.Latin1
import GreetingServer.Text.Printable

/-! Quoted text. A text stands between single quotes, or between double quotes if it holds a single
quote and no double one. The quote, the backslash and all characters without a printed form are
escaped, so that the quoted form is printable and shows what it stands for. -/
namespace GreetingServer
namespace Text

def singleQuote : Char := '\x27'
def doubleQuote : Char := '\x22'

def quoteFor (t : Text) : Char :=
  if t.contains singleQuote && !t.contains doubleQuote then doubleQuote else singleQuote

def escapeCode (c : Char) : Text :=
  if c.toNat < 0x100 then '\\' :: 'x' :: hexadecimal 2 c.toNat
  else if c.toNat < 0x10000 then '\\' :: 'u' :: hexadecimal 4 c.toNat
  else '\\' :: 'U' :: hexadecimal 8 c.toNat

/-- A character inside quotes, where a class of characters stands for itself. -/
def escape (shown : Char → Bool) (quote c : Char) : Text :=
  if c = quote || c = '\\' then ['\\', c]
  else if c = '\t' then ['\\', 't']
  else if c = '\n' then ['\\', 'n']
  else if c = '\r' then ['\\', 'r']
  else if shown c then [c]
  else escapeCode c

def quoted (t : Text) : Text :=
  quoteFor t :: t.flatMap (escape isPrintable (quoteFor t)) ++ [quoteFor t]

/-- The text between quotes, with characters beyond ASCII escaped too. -/
def quotedAscii (t : Text) : Text :=
  quoteFor t :: t.flatMap (escape (fun c => isPrintable c && c.toNat < 128) (quoteFor t)) ++
    [quoteFor t]

/-- Bytes between quotes: those that are printable ASCII stand for themselves. -/
def quotedBytes (bytes : Bytes) : Text := 'b' :: quotedAscii (ofLatin1 bytes)

end Text
end GreetingServer
