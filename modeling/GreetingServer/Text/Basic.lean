/-! Text is a list of Unicode scalar values: its length counts code points, and every operation on
it is a list operation. This module has the few that the list library lacks: cutting at a separator,
joining, and replacing what stands at the ends. -/
namespace GreetingServer

/-- A sequence of Unicode scalar values. -/
abbrev Text := List Char

namespace Text

/-- The pieces between the characters of a class. There is always one piece more than there are
separators, so the text is never lost when it has none. -/
def splitBy (separates : Char → Bool) (t : Text) : List Text :=
  t.foldr (fun c pieces =>
    if separates c then [] :: pieces
    else match pieces with
      | [] => [[c]]
      | piece :: rest => (c :: piece) :: rest) [[]]

/-- The pieces put side by side with a separator between neighbours. -/
def join (separator : Text) : List Text → Text
  | [] => []
  | piece :: rest => piece ++ rest.flatMap (separator ++ ·)

/-- The text before the first character of a class, and the text from that character on. -/
def cut (stops : Char → Bool) (t : Text) : Text × Text :=
  (t.takeWhile fun c => !stops c, t.dropWhile fun c => !stops c)

/-- Characters of a class are dropped from the front. -/
def trimLeft (drops : Char → Bool) (t : Text) : Text := t.dropWhile drops

/-- Characters of a class are dropped from the back. -/
def trimRight (drops : Char → Bool) (t : Text) : Text := (t.reverse.dropWhile drops).reverse

/-- Characters of a class are dropped from both ends. -/
def trim (drops : Char → Bool) (t : Text) : Text := trimRight drops (trimLeft drops t)

/-- The text before the last occurrence of a character is dropped together with it. -/
def afterLast (separator : Char) (t : Text) : Text :=
  (t.reverse.takeWhile (· != separator)).reverse

def replace (written : Char → Text) (t : Text) : Text := t.flatMap written

def padLeft {α : Type} (length : Nat) (fill : α) (t : List α) : List α :=
  List.replicate (length - t.length) fill ++ t

def padRight {α : Type} (length : Nat) (fill : α) (t : List α) : List α :=
  t ++ List.replicate (length - t.length) fill

/-- A text comes before another one: at the first place where they differ it has the smaller code
point, or it ends there. -/
def isBefore : Text → Text → Bool
  | _, [] => false
  | [], _ :: _ => true
  | a :: s, b :: t => a.toNat < b.toNat || (a == b && isBefore s t)

@[simp] theorem splitBy_nil (separates : Char → Bool) : splitBy separates [] = [[]] := rfl

theorem splitBy_ne_nil (separates : Char → Bool) (t : Text) : splitBy separates t ≠ [] := by
  cases t with
  | nil => simp
  | cons c t =>
    simp only [splitBy, List.foldr_cons]
    split
    · simp
    · split <;> simp

@[simp] theorem cut_append (stops : Char → Bool) (t : Text) :
    (cut stops t).1 ++ (cut stops t).2 = t := List.takeWhile_append_dropWhile

end Text
end GreetingServer
