import GreetingServer.Value

/-! Message templates. A template is code points with directives among them, each of which starts
with a percent sign and says how one argument is written. The template is read by a machine that
takes one code point at a time. -/
namespace GreetingServer
namespace Template

/-- A width or a precision: a number, or the next argument. -/
inductive Amount
  | fixed (n : Nat)
  | argument
  deriving Repr, DecidableEq

structure Directive where
  key : Option (List CodePoint) := none
  leftAligned : Bool := false
  signed : Bool := false
  spaced : Bool := false
  alternate : Bool := false
  zeroFilled : Bool := false
  width : Option Amount := none
  precision : Option Amount := none
  deriving Repr, DecidableEq

inductive Piece
  | plain (p : CodePoint)
  | directive (d : Directive) (conversion : CodePoint) (position : Nat)
  | unfinished (d : Directive)
  /-- The template ends within the name of an argument. -/
  | unfinishedKey
  deriving Repr, DecidableEq

inductive Mode
  | text
  | start
  | key (depth : Nat) (done : List CodePoint)
  | flags (d : Directive)
  | width (d : Directive) (n : Nat)
  | widthDone (d : Directive)
  | precisionStart (d : Directive)
  | precision (d : Directive) (n : Nat)
  | precisionDone (d : Directive)
  | lengthDone (d : Directive)
  deriving Repr, DecidableEq

/-- The reader of a template: the pieces so far, last first, and how many code points they take. -/
structure Reader where
  mode : Mode := .text
  pieces : List Piece := []
  position : Nat := 0

namespace Reader

def goOn (r : Reader) (mode : Mode) : Reader := { r with mode, position := r.position + 1 }

def emit (r : Reader) (piece : Piece) : Reader :=
  ⟨.text, piece :: r.pieces, r.position + 1⟩

def takeConversion (r : Reader) (d : Directive) (p : CodePoint) : Reader :=
  r.emit (.directive d p r.position)

def takeLength (r : Reader) (d : Directive) (p : CodePoint) : Reader :=
  if p = .char 'h' || p = .char 'l' || p = .char 'L' then r.goOn (.lengthDone d)
  else r.takeConversion d p

def takePrecision (r : Reader) (d : Directive) (p : CodePoint) : Reader :=
  if p = .char '.' then r.goOn (.precisionStart { d with precision := some (.fixed 0) })
  else r.takeLength d p

def digit? (p : CodePoint) : Option Nat :=
  (p.char?.filter Char.isDigit).map fun c => c.toNat - '0'.toNat

def takeWidth (r : Reader) (d : Directive) (p : CodePoint) : Reader :=
  if p = .char '*' then r.goOn (.widthDone { d with width := some .argument })
  else match digit? p with
    | some n => r.goOn (.width d n)
    | none => r.takePrecision d p

def takeFlag (r : Reader) (d : Directive) (p : CodePoint) : Reader :=
  if p = .char '-' then r.goOn (.flags { d with leftAligned := true })
  else if p = .char '+' then r.goOn (.flags { d with signed := true })
  else if p = .char ' ' then r.goOn (.flags { d with spaced := true })
  else if p = .char '#' then r.goOn (.flags { d with alternate := true })
  else if p = .char '0' then r.goOn (.flags { d with zeroFilled := true })
  else r.takeWidth d p

def step (r : Reader) (p : CodePoint) : Reader :=
  match r.mode with
  | .text => if p = .char '%' then r.goOn .start else r.emit (.plain p)
  | .start =>
    if p = .char '%' then r.emit (.plain p)
    else if p = .char '(' then r.goOn (.key 1 [])
    else r.takeFlag {} p
  | .key depth done =>
    if p = .char ')' then
      if depth = 1 then r.goOn (.flags { key := some done.reverse })
      else r.goOn (.key (depth - 1) (p :: done))
    else if p = .char '(' then r.goOn (.key (depth + 1) (p :: done))
    else r.goOn (.key depth (p :: done))
  | .flags d => r.takeFlag d p
  | .width d n =>
    match digit? p with
    | some m => r.goOn (.width d (10 * n + m))
    | none => r.takePrecision { d with width := some (.fixed n) } p
  | .widthDone d => r.takePrecision d p
  | .precisionStart d =>
    if p = .char '*' then r.goOn (.precisionDone { d with precision := some .argument })
    else match digit? p with
      | some n => r.goOn (.precision d n)
      | none => r.takeLength d p
  | .precision d n =>
    match digit? p with
    | some m => r.goOn (.precision d (10 * n + m))
    | none => r.takeLength { d with precision := some (.fixed n) } p
  | .precisionDone d => r.takeLength d p
  | .lengthDone d => r.takeConversion d p

def finish (r : Reader) : List Piece :=
  match r.mode with
  | .text => r.pieces.reverse
  | .start => (.unfinished {} :: r.pieces).reverse
  | .key _ _ => (.unfinishedKey :: r.pieces).reverse
  | .width d n => (.unfinished { d with width := some (.fixed n) } :: r.pieces).reverse
  | .precision d n => (.unfinished { d with precision := some (.fixed n) } :: r.pieces).reverse
  | .flags d | .widthDone d | .precisionStart d | .precisionDone d | .lengthDone d =>
    (.unfinished d :: r.pieces).reverse

end Reader

def pieces (template : List CodePoint) : List Piece := (template.foldl Reader.step {}).finish

end Template
end GreetingServer
