import GreetingServer.Ordered
import GreetingServer.Template.Conversion

/-! Filling a template with arguments. The arguments come one after the other, or are looked up by
name in a single one that is a dictionary. -/
namespace GreetingServer
namespace Template

inductive Arguments
  | sequence (rest : List Value)
  | single (value : Value)
  | used

/-- How far an amount may go either way, and what it and its holder are called. -/
structure Bound where
  greatest : Nat
  name : String
  holder : String

def widthBound : Bound := ⟨Nat.pow 2 63 - 1, "width", "C ssize_t"⟩
def precisionBound : Bound := ⟨Nat.pow 2 31 - 1, "precision", "C int"⟩

/-- A number in the template goes too far. -/
def Bound.exceeded (b : Bound) : Fault :=
  Fault.invalidValue (b.name.toList ++ " too big".toList)

/-- An argument that is a number, unless it goes too far. -/
def Bound.check (b : Bound) (n : Int) : Except Fault Int :=
  if -((b.greatest : Int) + 1) ≤ n ∧ n ≤ b.greatest then .ok n
  else .error (Fault.overflow ("Python int too large to convert to ".toList ++ b.holder.toList))

structure Supply where
  arguments : Arguments
  named : Option (Ordered (List CodePoint) Value) := none

namespace Supply

def next (s : Supply) : Except Fault (Value × Supply) :=
  match s.arguments with
  | .sequence (v :: rest) => .ok (v, { s with arguments := .sequence rest })
  | .single v => .ok (v, { s with arguments := .used })
  | _ => .error (Fault.wrongType "not enough arguments for format string".toList)

def select (s : Supply) : Option (List CodePoint) → Except Fault Supply
  | none => .ok s
  | some key =>
    match s.named with
    | none => .error (Fault.wrongType "format requires a mapping".toList)
    | some entries =>
      match Ordered.get? entries key with
      | some v => .ok { s with arguments := .single v }
      | none => .error (Fault.missing (.ofPoints key))

def amount (s : Supply) (b : Bound) : Amount → Except Fault (Int × Supply)
  | .fixed n => if n ≤ b.greatest then .ok (n, s) else .error b.exceeded
  | .argument =>
    match s.next with
    | .error f => .error f
    | .ok (.int n, s) => (b.check n).map fun n => (n, s)
    | .ok (.bool n, s) => .ok (if n then 1 else 0, s)
    | .ok _ => .error (Fault.wrongType "* wants int".toList)

def optionalAmount (s : Supply) (b : Bound) : Option Amount → Except Fault (Option Int × Supply)
  | none => .ok (none, s)
  | some a =>
    match s.amount b a with
    | .ok (n, s) => .ok (some n, s)
    | .error f => .error f

/-- The layout of a directive. A negative width stands for alignment to the left, but the least one
has no opposite and is none; a negative precision stands for none of the digits. -/
def layout (s : Supply) (d : Directive) : Except Fault (Layout × Supply) :=
  match s.optionalAmount widthBound d.width with
  | .error f => .error f
  | .ok (width, s) =>
    match s.optionalAmount precisionBound d.precision with
    | .error f => .error f
    | .ok (precision, s) =>
      let width := width.getD 0
      .ok ({ leftAligned := d.leftAligned || width < 0, signed := d.signed, spaced := d.spaced
             alternate := d.alternate, zeroFilled := d.zeroFilled
             width := if widthBound.greatest < width.natAbs then 0 else width.natAbs
             precision := precision.map Int.toNat }, s)

def prepare (s : Supply) (d : Directive) : Except Fault (Layout × Supply) :=
  match s.select d.key with
  | .error f => .error f
  | .ok s => s.layout d

/-- No argument may be left over, unless the arguments have names. -/
def settle (s : Supply) : Except Fault Unit :=
  match s.named, s.arguments with
  | none, .sequence (_ :: _) =>
    .error (Fault.wrongType "not all arguments converted during string formatting".toList)
  | _, _ => .ok ()

end Supply

def write (s : Supply) : List Piece → Except Fault (List CodePoint × Supply)
  | [] => .ok ([], s)
  | piece :: rest =>
    match writePiece s piece with
    | .error f => .error f
    | .ok (t, s) =>
      match write s rest with
      | .error f => .error f
      | .ok (more, s) => .ok (t ++ more, s)
where
  writePiece (s : Supply) : Piece → Except Fault (List CodePoint × Supply)
    | .plain p => .ok ([p], s)
    | .directive d conversion position =>
      match s.prepare d with
      | .error f => .error f
      | .ok (l, s) =>
        match s.next with
        | .error f => .error f
        | .ok (v, s) => (convert l conversion position v).map fun t => (t, s)
    | .unfinished d =>
      match s.prepare d with
      | .error f => .error f
      | .ok _ => .error (Fault.invalidValue "incomplete format".toList)
    | .unfinishedKey =>
      match s.named with
      | none => .error (Fault.wrongType "format requires a mapping".toList)
      | some _ => .error (Fault.invalidValue "incomplete format key".toList)

/-- What a template is filled with: a single dictionary that is not empty gives names. -/
def supplyOf : List Value → Supply
  | [.dict (entry :: rest)] => ⟨.single (.dict (entry :: rest)), some (entry :: rest)⟩
  | values => ⟨.sequence values, none⟩

def fill (template : List CodePoint) (arguments : List Value) : Except Fault Value :=
  if arguments.isEmpty then .ok (.ofPoints template)
  else
    match write (supplyOf arguments) (pieces template) with
    | .error f => .error f
    | .ok (t, s) => (s.settle).map fun _ => .ofPoints t

@[simp] theorem fill_nil (template : List CodePoint) : fill template [] = .ok (.ofPoints template) :=
  rfl

end Template
end GreetingServer
