import GreetingServer.Fault
import GreetingServer.Text.Hexadecimal

/-! Values as JSON texts of printable ASCII characters. Tuples are written as arrays, and bytes, for
which JSON has no form, as the text that shows them. A value is dumped only if all its numerals can
be written. -/
namespace GreetingServer
namespace Json

def escapeUnit (unit : Nat) : Text := '\\' :: 'u' :: Text.hexadecimal 4 unit

/-- A character inside a string. Those beyond the sixteen bits of a unit take two units. -/
def escape (c : Char) : Text :=
  if c = Text.doubleQuote then ['\\', c]
  else if c = '\\' then ['\\', c]
  else if c = '\n' then ['\\', 'n']
  else if c = '\r' then ['\\', 'r']
  else if c = '\t' then ['\\', 't']
  else if c = '\x0c' then ['\\', 'f']
  else if c = '\x08' then ['\\', 'b']
  else if 32 ≤ c.toNat && c.toNat ≤ 126 then [c]
  else if c.toNat < 0x10000 then escapeUnit c.toNat
  else
    escapeUnit (0xd800 + (c.toNat - 0x10000) / 0x400) ++
      escapeUnit (0xdc00 + (c.toNat - 0x10000) % 0x400)

def escapePoint : CodePoint → Text
  | .char c => escape c
  | .surrogate index => escapeUnit (CodePoint.firstSurrogate + index)

def writePoints (ps : List CodePoint) : Text :=
  Text.doubleQuote :: ps.flatMap escapePoint ++ [Text.doubleQuote]

def writeText (t : Text) : Text := Text.doubleQuote :: t.flatMap escape ++ [Text.doubleQuote]

mutual

def write : Value → Text
  | .null => "null".toList
  | .bool true => "true".toList
  | .bool false => "false".toList
  | .int n => Text.numeral n
  | .float x => Number.writeFloat "Infinity".toList "NaN".toList x
  | .text t => writeText t
  | .points ps => writePoints ps
  | .bytes b => writeText (Text.quotedBytes b)
  | .list items => '[' :: Text.join ", ".toList (writeItems items) ++ [']']
  | .tuple items => '[' :: Text.join ", ".toList (writeItems items) ++ [']']
  | .dict entries => '\x7b' :: Text.join ", ".toList (writeEntries entries) ++ ['\x7d']

def writeItems : List Value → List Text
  | [] => []
  | item :: rest => write item :: writeItems rest

def writeEntries : List (List CodePoint × Value) → List Text
  | [] => []
  | (key, value) :: rest => (writePoints key ++ ": ".toList ++ write value) :: writeEntries rest

end

def dump (v : Value) : Except Fault Text := (Fault.written v.checkNumerals).map fun _ => write v

theorem eq_write_of_dump {v : Value} {t : Text} (h : dump v = .ok t) : t = write v := by
  unfold dump at h
  cases hn : Fault.written v.checkNumerals with
  | error f =>
    rw [hn] at h
    cases h
  | ok _ =>
    rw [hn] at h
    exact (Except.ok.inj h).symm

theorem writeItems_eq_map (items : List Value) : writeItems items = items.map write := by
  induction items with
  | nil => simp [writeItems]
  | cons item rest ih => simp [writeItems, ih]

theorem writeEntries_eq_map (entries : List (List CodePoint × Value)) :
    writeEntries entries =
      entries.map fun entry => writePoints entry.1 ++ ": ".toList ++ write entry.2 := by
  induction entries with
  | nil => simp [writeEntries]
  | cons entry rest ih => obtain ⟨key, value⟩ := entry; simp [writeEntries, ih]

theorem writePoints_ofText (t : Text) : writePoints (CodePoint.ofText t) = writeText t := by
  simp [writePoints, writeText, CodePoint.ofText, List.flatMap_map, escapePoint]

end Json
end GreetingServer
