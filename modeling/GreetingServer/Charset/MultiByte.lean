import GreetingServer.Charset.Grid

/-! Charsets with characters of one or more bytes. A byte of ASCII is mostly a character of its own,
and every other byte starts a code of a grid. -/
namespace GreetingServer
namespace Charset
namespace MultiByte

inductive Reading
  | complete (c : Char)
  | more
  | unspelled
  deriving Repr, DecidableEq

def Reading.ofOption : Option Char → Reading
  | some c => complete c
  | none => unspelled

/-- A text that is read: the characters so far, and the bytes of the next one, last first. -/
structure Progress where
  done : Done := []
  pending : List Nat := []

def Progress.step (read : List Nat → Reading) (p : Progress) (c : Char) : Except Refusal Progress :=
  let pending := c.toNat :: p.pending
  match read pending.reverse with
  | .complete c => .ok ⟨c :: p.done, []⟩
  | .more => .ok { p with pending }
  | .unspelled => .error .unspelled

/-- The text that bytes spell. The last character has to be complete. -/
def decode (read : List Nat → Reading) (t : Text) : Except Refusal Text :=
  match feed (Progress.step read) {} t with
  | .error r => .error r
  | .ok p => if p.pending.isEmpty then .ok p.done.reverse else .error .unspelled

def inTwos (find : Nat → Option Char) : List Nat → Reading
  | [a] => if a < 128 then .complete (Char.ofNat a) else .more
  | [a, b] => .ofOption (find (256 * a + b))
  | _ => .unspelled

/-- Codes are two bytes long, and those of a further grid are three bytes, of which the first is
always the same. -/
def inThrees (first second : Grid) : List Nat → Reading
  | [0x8f, _] => .more
  | [0x8f, a, b] => .ofOption (second.raised.find? (256 * a + b))
  | bytes => inTwos first.raised.find? bytes

/-- The code of seven bits a byte of a code that is shifted: its first byte tells two rows, and its
second byte the cells of both, one after the other. -/
def unshift? (code : Nat) : Option Nat :=
  let lead := code / 256
  let trail := code % 256
  if lead < 0x81 || trail < 0x40 || trail = 0x7f || 0xfc < trail then none
  else
    let rows := if lead < 0xe0 then lead - 0x81 else lead - 0xc1
    let cell := if trail < 0x80 then trail - 0x40 else trail - 0x41
    some (0x2121 + 256 * (2 * rows + cell / 94) + cell % 94)

def shifted (g : Grid) : List Nat → Reading := inTwos fun code => (unshift? code).bind g.find?

/-- Codes are shifted, and the yen sign and the overline stand for two characters of ASCII. -/
def shiftedWithYen (g : Grid) : List Nat → Reading
  | [0x5c] => .complete '¥'
  | [0x7e] => .complete '‾'
  | bytes => shifted g bytes

/-- Codes are two bytes long, and one byte beyond ASCII is a control of its own. -/
def withControl (g : Grid) : List Nat → Reading
  | [0x80] => .complete '\x80'
  | bytes => inTwos g.find? bytes

/-- Characters behind ASCII that have no code of two bytes have codes of four, in their own order.
-/
def inFours : Grid :=
  let latin := (List.range 128).map fun n => Char.ofNat (128 + n)
  let others := latin.filter fun c => !(Grid.gbk.any fun run => run.2.toList.contains c)
  [(0, String.ofList others), (0x1562, "\u1680"),
    (0x1ee2, "\u2000\u2001\u2002\u2003\u2004\u2005\u2006\u2007\u2008\u2009\u200a"),
    (0x1eff, "\u2028\u2029"), (0x1f06, "\u202f"), (0x1f31, "\u205f")]

def isDigit (b : Nat) : Bool := 0x30 ≤ b && b ≤ 0x39

/-- The place of a code of four bytes among all of them. The second byte and the last one are
digits. -/
def place? (a b c d : Nat) : Option Nat :=
  if 0x81 ≤ a && isDigit b && 0x81 ≤ c && c ≤ 0xfe && isDigit d then
    some (((a - 0x81) * 10 + (b - 0x30)) * 1260 + (c - 0x81) * 10 + (d - 0x30))
  else none

def inTwosOrFours : List Nat → Reading
  | [a, b] => if isDigit b then .more else inTwos Grid.gbk.find? [a, b]
  | [_, _, _] => .more
  | [a, b, c, d] => .ofOption ((place? a b c d).bind inFours.find?)
  | bytes => inTwos Grid.gbk.find? bytes

def all : List Charset :=
  [⟨"gb2312", ["chinese", "csiso58gb231280", "euc_cn", "euccn", "eucgb2312_cn", "gb2312_1980",
      "gb2312_80", "iso_ir_58", "x_mac_simp_chinese"], decode (inTwos Grid.gb2312.raised.find?)⟩,
    ⟨"gbk", ["936", "cp936", "ms936"], decode (inTwos Grid.gbk.find?)⟩,
    ⟨"gb18030", ["gb18030_2000"], decode inTwosOrFours⟩,
    ⟨"big5", ["big5_tw", "csbig5", "x_mac_trad_chinese"], decode (inTwos Grid.big5.find?)⟩,
    ⟨"big5hkscs", ["big5_hkscs", "hkscs"], decode (inTwos Grid.big5hkscs.find?)⟩,
    ⟨"cp950", ["950", "ms950"], decode (inTwos Grid.cp950.find?)⟩,
    ⟨"euc_kr", ["euckr", "korean", "ks_c_5601", "ks_c_5601_1987", "ks_x_1001", "ksc5601", "ksx1001",
      "x_mac_korean"], decode (inTwos Grid.ksx1001.raised.find?)⟩,
    ⟨"cp949", ["949", "ms949", "uhc"], decode (inTwos Grid.ksx1001.raised.find?)⟩,
    ⟨"johab", ["cp1361", "ms1361"], decode (inTwos Grid.johab.find?)⟩,
    ⟨"euc_jp", ["eucjp", "u_jis", "ujis"], decode (inThrees Grid.jisx0208 Grid.jisx0212)⟩,
    ⟨"euc_jis_2004", ["euc_jis2004", "eucjis2004", "jisx0213"],
      decode (inThrees Grid.jisx0213 Grid.jisx0212)⟩,
    ⟨"euc_jisx0213", ["eucjisx0213"], decode (inThrees Grid.jisx0213 Grid.jisx0212)⟩,
    ⟨"shift_jis", ["csshiftjis", "s_jis", "shiftjis", "sjis", "x_mac_japanese"],
      decode (shifted Grid.jisx0208)⟩,
    ⟨"cp932", ["932", "ms932", "ms_kanji", "mskanji"], decode (withControl Grid.cp932)⟩,
    ⟨"shift_jis_2004", ["s_jis_2004", "shiftjis2004", "sjis_2004"],
      decode (shiftedWithYen (Grid.jisx0213 ++ Grid.tilde ++ Grid.backslash))⟩,
    ⟨"shift_jisx0213", ["s_jisx0213", "shiftjisx0213", "sjisx0213"],
      decode (shiftedWithYen (Grid.jisx0213 ++ Grid.tilde ++ Grid.backslash))⟩]

end MultiByte
end Charset
end GreetingServer
