import GreetingServer.Text.Hexadecimal
import GreetingServer.Text.Quoted

/-! Code points: the characters, and the surrogates, which are units of sixteen bits that stand for
no character of their own. A text has characters only; where a surrogate can come up, a list of code
points takes the place of a text. -/
namespace GreetingServer

inductive CodePoint
  | char (c : Char)
  | surrogate (index : Fin 0x800)
  deriving Repr, DecidableEq

namespace CodePoint

def firstSurrogate : Nat := 0xd800

def ofNat (n : Nat) : CodePoint :=
  if h : firstSurrogate ≤ n ∧ n < firstSurrogate + 0x800 then
    .surrogate ⟨n - firstSurrogate, by omega⟩
  else .char (Char.ofNat n)

def toNat : CodePoint → Nat
  | char c => c.toNat
  | surrogate index => firstSurrogate + index

def char? : CodePoint → Option Char
  | char c => some c
  | surrogate _ => none

def text? (ps : List CodePoint) : Option Text :=
  if ps.all (·.char?.isSome) then some (ps.filterMap char?) else none

def replaced (ps : List CodePoint) : Text := ps.map fun p => p.char?.getD '\uFFFD'

def ofText (t : Text) : List CodePoint := t.map char

def escaped : CodePoint → Text
  | char c => Text.escapeCode c
  | surrogate index => '\\' :: 'u' :: Text.hexadecimal 4 (firstSurrogate + index)

@[simp] theorem ofText_append (s t : Text) : ofText (s ++ t) = ofText s ++ ofText t := List.map_append

@[simp] theorem text?_ofText (t : Text) : text? (ofText t) = some t := by
  simp [text?, ofText, List.filterMap_map, Function.comp_def, char?]

theorem ofText_of_text? {ps : List CodePoint} {t : Text} (h : text? ps = some t) :
    ofText t = ps := by
  unfold text? at h
  split at h
  · rename_i hall
    obtain rfl := Option.some.inj h
    clear h
    induction ps with
    | nil => rfl
    | cons p ps ih =>
      rw [List.all_cons, Bool.and_eq_true] at hall
      cases p with
      | char c => exact congrArg (char c :: ·) (ih hall.2)
      | surrogate index => exact absurd hall.1 (by simp [char?])
  · cases h

@[simp] theorem replaced_ofText (t : Text) : replaced (ofText t) = t := by
  simp [replaced, ofText, Function.comp_def, char?]

end CodePoint

namespace Text

def quotedPoints (points : List CodePoint) : Text :=
  let quote := quoteFor (points.filterMap CodePoint.char?)
  let shown : CodePoint → Text
    | .char c => escape isPrintable quote c
    | .surrogate index => (CodePoint.surrogate index).escaped
  quote :: points.flatMap shown ++ [quote]

end Text
end GreetingServer
