import GreetingServer.Charset.Basic

/-! Charsets that have every character: each stands for a number, which is written in units of one,
two or four bytes. A mark at the start may tell the order of the bytes of a unit. -/
namespace GreetingServer
namespace Charset
namespace Unicode

/-- Which byte of a unit comes first: the least or the greatest. -/
inductive ByteOrder
  | little
  | big
  deriving Repr, DecidableEq

def ByteOrder.unit (o : ByteOrder) (bytes : Text) : Nat :=
  let ordered := match o with
    | little => bytes.reverse
    | big => bytes
  ordered.foldl (fun n c => 256 * n + c.toNat) 0

/-- A text that is read in units: the characters so far, and the bytes of the next unit, last first.
-/
structure Progress where
  done : Done := []
  pending : List Char := []

def Progress.step (o : ByteOrder) (size : Nat) (p : Progress) (c : Char) : Except Refusal Progress :=
  let pending := c :: p.pending
  if pending.length < size then .ok { p with pending }
  else (scalar (o.unit pending.reverse)).map fun read => ⟨read :: p.done, []⟩

def decodeUnits (o : ByteOrder) (size : Nat) (t : Text) : Except Refusal Text :=
  match feed (Progress.step o size) {} t with
  | .error r => .error r
  | .ok p => if p.pending.isEmpty then .ok p.done.reverse else .error .unspelled

def mark : Nat := 0xfeff

/-- The text that units spell. If they start with the mark, it tells their order and is no part of
the text; else the least byte comes first. -/
def decodeMarked (size : Nat) (t : Text) : Except Refusal Text :=
  let first := t.take size
  if first.length = size && ByteOrder.little.unit first = mark then
    decodeUnits .little size (t.drop size)
  else if first.length = size && ByteOrder.big.unit first = mark then
    decodeUnits .big size (t.drop size)
  else decodeUnits .little size t

def decodeBytes (t : Text) : Except Refusal Text :=
  match String.fromUTF8? (ByteArray.mk (t.map Text.toByte).toArray) with
  | some s => .ok s.toList
  | none => .error .unspelled

/-- The mark in units of one byte, which is no part of the text at its start. -/
def withoutMark : Text → Text
  | 'ï' :: '»' :: '¿' :: t => t
  | t => t

def all : List Charset :=
  [⟨"utf_8", ["cp65001", "u8", "utf", "utf8", "utf8_ucs2", "utf8_ucs4"], decodeBytes⟩,
    ⟨"utf_8_sig", [], fun t => decodeBytes (withoutMark t)⟩,
    ⟨"utf_16", ["u16", "utf16"], decodeMarked 2⟩,
    ⟨"utf_16_le", ["unicodelittleunmarked", "utf_16le"], decodeUnits .little 2⟩,
    ⟨"utf_16_be", ["unicodebigunmarked", "utf_16be"], decodeUnits .big 2⟩,
    ⟨"utf_32", ["u32", "utf32"], decodeMarked 4⟩,
    ⟨"utf_32_le", ["utf_32le"], decodeUnits .little 4⟩,
    ⟨"utf_32_be", ["utf_32be"], decodeUnits .big 4⟩]

end Unicode
end Charset
end GreetingServer
