import GreetingServer.Charset.Grid

/-! Charsets of seven bits in which escape sequences tell what the bytes behind them stand for. -/
namespace GreetingServer
namespace Charset

/-! Two characters behind a tilde switch between ASCII and a grid. -/
namespace Tilde

inductive Pending
  | nothing
  | tilde
  | lead (byte : Nat)
  deriving Repr, DecidableEq

structure Progress where
  done : Done := []
  inGrid : Bool := false
  pending : Pending := .nothing
  deriving Repr, DecidableEq

namespace Progress

def escape (p : Progress) (c : Char) : Except Refusal Progress :=
  if p.inGrid then
    if c = '\x7d' then .ok { p with inGrid := false, pending := .nothing } else .error .unspelled
  else if c = '~' then .ok { p with done := '~' :: p.done, pending := .nothing }
  else if c = '\x7b' then .ok { p with inGrid := true, pending := .nothing }
  else if c = '\n' then .ok { p with pending := .nothing }
  else .error .unspelled

def step (p : Progress) (c : Char) : Except Refusal Progress :=
  match p.pending with
  | .tilde => p.escape c
  | .lead byte =>
    match Grid.gb2312.find? (256 * byte + c.toNat) with
    | some c => .ok { p with done := c :: p.done, pending := .nothing }
    | none => .error .unspelled
  | .nothing =>
    if c = '~' then .ok { p with pending := .tilde }
    else if 128 ≤ c.toNat then .error .unspelled
    else if p.inGrid then .ok { p with pending := .lead c.toNat }
    else .ok { p with done := c :: p.done }

end Progress

/-- The text that bytes spell. It may end in the grid, but not inside a character. -/
def decode (t : Text) : Except Refusal Text :=
  match feed Progress.step {} t with
  | .error r => .error r
  | .ok p => if p.pending = .nothing then .ok p.done.reverse else .error .unspelled

def charset : Charset := ⟨"hz", ["hz_gb", "hz_gb_2312", "hzgb"], decode⟩

end Tilde

/-! An escape sequence designates a set for one of three positions. The bytes stand for characters
of the set at the first position, or of that at the second one after a shift; single characters of
the set at the third position have a mark before them. -/
namespace Designated

inductive Graphic
  | ascii
  | latin1
  | greek
  | roman
  /-- A set of single bytes of which no character is known here. -/
  | kana
  | grid (g : Grid)

structure Variant where
  /-- The sets that can be designated beside ASCII, with their final bytes: first those of single
  bytes, then those of two. -/
  singles : List (Char × Graphic) := []
  grids : List (Char × Grid)
  shifts : Bool := false
  marks : Bool := false
  revises : Bool := true

inductive Pending
  | nothing
  | escape
  /-- A sequence: its bytes behind the escape, last first, and how many bytes are skipped when its
  end is looked for. -/
  | sequence (bytes : List Char) (skipped : Nat)
  | kept
  | lead (byte : Nat) (g : Grid)
  /-- The mark before a character of the set at the third position. -/
  | mark

structure Progress where
  done : Done := []
  first : Graphic := .ascii
  second : Graphic := .ascii
  third : Graphic := .ascii
  isShifted : Bool := false
  pending : Pending := .nothing

def isFinal (c : Char) : Bool := c.isUpper || c = '@'

/-- The byte may stand first in a sequence that designates a set. -/
def isDesignator (c : Char) : Bool := "()$.&".toList.contains c

/-- No sequence is longer, its escape included. -/
def lengthLimit : Nat := 16

/-- The character of a byte in the upper half of the Greek set, if it is a Latin-1 character too. -/
def greek? (n : Nat) : Option Char :=
  let c := Char.ofNat (if n < 128 then n + 128 else n - 128)
  if c.toNat < 0xa0 || "\xa0£¦§¨©«¬\xad°±²³·»½".toList.contains c then some c else none

namespace Progress

def push (p : Progress) (c : Char) : Progress := { p with done := c :: p.done, pending := .nothing }

def keep (p : Progress) (c : Char) : Progress :=
  { p.push c with pending := if isFinal c then .nothing else .kept }

def designate (p : Progress) (position : Nat) (g : Graphic) : Progress :=
  match position with
  | 0 => { p with first := g, pending := .nothing }
  | 1 => { p with second := g, pending := .nothing }
  | _ => { p with third := g, pending := .nothing }

def designateSingle (v : Variant) (p : Progress) (position : Nat) (final : Char) :
    Except Refusal Progress :=
  if final = 'B' then .ok (p.designate position .ascii)
  else match v.singles.lookup final with
    | some g => .ok (p.designate position g)
    | none => .error .unspelled

def designateGrid (v : Variant) (p : Progress) (position : Nat) (final : Char) :
    Except Refusal Progress :=
  match v.grids.lookup final with
  | some g => .ok (p.designate position (.grid g))
  | none => .error .unspelled

/-- A complete sequence, given its bytes behind the escape. -/
def obey (v : Variant) (p : Progress) : List Char → Except Refusal Progress
  | ['$', final] => p.designateGrid v 0 final
  | ['(', final] => p.designateSingle v 0 final
  | [')', final] => p.designateSingle v 1 final
  | ['.', final] => if v.marks then p.designateSingle v 2 final else .error .unspelled
  | ['$', '(', final] => p.designateGrid v 0 final
  | ['$', ')', final] => p.designateGrid v 1 final
  | [_, _, '\x1b', '$', 'B'] => if v.revises then p.designateGrid v 0 'B' else .error .unspelled
  | _ => .error .unspelled

/-- A further byte of a sequence. A revision, which looks like an end, is passed over together with
the byte behind it. -/
def sequence (v : Variant) (p : Progress) (bytes : List Char) (skipped : Nat) (c : Char) :
    Except Refusal Progress :=
  let more (skipped : Nat) : Except Refusal Progress :=
    if lengthLimit ≤ bytes.length + 2 then .error .unspelled
    else .ok { p with pending := .sequence (c :: bytes) skipped }
  if 0 < skipped then more (skipped - 1)
  else if v.revises && c = '@' && bytes.head? = some '&' then more 1
  else if isFinal c then p.obey v (c :: bytes).reverse
  else more 0

def escape (v : Variant) (p : Progress) (c : Char) : Except Refusal Progress :=
  if isDesignator c then .ok { p with pending := .sequence [c] 0 }
  else if v.marks && c = 'N' then .ok { p with pending := .mark }
  else .ok ((p.push '\x1b').keep c)

def read (p : Progress) (c : Char) : Graphic → Except Refusal Progress
  | .ascii => .ok (p.push c)
  | .roman => .ok (p.push (if c = '\\' then '¥' else if c = '~' then '‾' else c))
  | .grid g => .ok { p with pending := .lead c.toNat g }
  | _ => .error .unspelled

def marked (p : Progress) (c : Char) : Except Refusal Progress :=
  match p.third with
  | .ascii => if c.toNat < 128 then .ok (p.push c) else .error .unspelled
  | .latin1 => if c.toNat < 128 then .ok (p.push (Char.ofNat (c.toNat + 128))) else .error .unspelled
  | .greek =>
    match greek? c.toNat with
    | some c => .ok (p.push c)
    | none => .error .unspelled
  | _ => .error .internal

/-- A byte that continues nothing. The end of a line undoes a shift. -/
def start (v : Variant) (p : Progress) (c : Char) : Except Refusal Progress :=
  if c = '\x1b' then .ok { p with pending := .escape }
  else if v.shifts && c = '\x0f' then .ok { p with isShifted := false }
  else if v.shifts && c = '\x0e' then .ok { p with isShifted := true }
  else if c = '\n' then .ok { p.push c with isShifted := false }
  else if c.toNat < 0x20 then .ok (p.push c)
  else if 128 ≤ c.toNat then .error .unspelled
  else p.read c (if p.isShifted then p.second else p.first)

def step (v : Variant) (p : Progress) (c : Char) : Except Refusal Progress :=
  match p.pending with
  | .nothing => p.start v c
  | .escape => p.escape v c
  | .sequence bytes skipped => p.sequence v bytes skipped c
  | .kept => .ok (p.keep c)
  | .lead byte g =>
    match g.find? (256 * byte + c.toNat) with
    | some c => .ok (p.push c)
    | none => .error .unspelled
  | .mark => p.marked c

def finish (p : Progress) : Except Refusal Text :=
  match p.pending with
  | .nothing | .kept => .ok p.done.reverse
  | _ => .error .unspelled

end Progress

def decode (v : Variant) (t : Text) : Except Refusal Text :=
  match feed (Progress.step v) {} t with
  | .error r => .error r
  | .ok p => p.finish

/-! The variants. -/

def korean : Variant where
  grids := [('C', Grid.ksx1001)]
  shifts := true
  revises := false

def japanese : Variant where
  singles := [('J', .roman)]
  grids := [('B', Grid.jisx0208), ('@', Grid.jisx0208)]

def japanese1 : Variant := { japanese with grids := ('D', Grid.jisx0212) :: japanese.grids }

def japanese2 : Variant where
  singles := [('J', .roman), ('A', .latin1), ('F', .greek)]
  grids := [('A', Grid.gb2312), ('C', Grid.ksx1001)] ++ japanese1.grids
  marks := true

/-- A variant with the two planes of the grid of `jisx0213`; of the second one no character is known
here. The first has a final byte of its own. -/
def planes (final : Char) : Variant where
  grids := [('B', Grid.jisx0208), (final, Grid.jisx0213 ++ Grid.tilde), ('P', [])]

def extended : Variant := { japanese1 with singles := [('J', .roman), ('I', .kana)] }

def all : List Charset :=
  [⟨"iso2022_kr", ["csiso2022kr", "iso2022kr", "iso_2022_kr"], decode korean⟩,
    ⟨"iso2022_jp", ["csiso2022jp", "iso2022jp", "iso_2022_jp"], decode japanese⟩,
    ⟨"iso2022_jp_1", ["iso2022jp_1", "iso_2022_jp_1"], decode japanese1⟩,
    ⟨"iso2022_jp_2", ["iso2022jp_2", "iso_2022_jp_2"], decode japanese2⟩,
    ⟨"iso2022_jp_3", ["iso2022jp_3", "iso_2022_jp_3"], decode (planes 'O')⟩,
    ⟨"iso2022_jp_2004", ["iso2022jp_2004", "iso_2022_jp_2004"], decode (planes 'Q')⟩,
    ⟨"iso2022_jp_ext", ["iso2022jp_ext", "iso_2022_jp_ext"], decode extended⟩]

end Designated
end Charset
end GreetingServer
