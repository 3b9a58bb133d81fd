import GreetingServer.Text.Basic

/-! Lines of a text. A line ends with a newline, a carriage return or both, and keeps its end. -/
namespace GreetingServer
namespace Text

def lines (t : Text) : List Text :=
  t.foldr (fun c found =>
    if c = '\n' then [c] :: found
    else if c = '\r' then
      match found with
      | ['\n'] :: rest => ['\r', '\n'] :: rest
      | found => [c] :: found
    else match found with
      | [] => [[c]]
      | line :: rest => (c :: line) :: rest) []

def isLineEnd (c : Char) : Bool := c = '\r' || c = '\n'

def isEmptyLine (line : Text) : Bool := line.head?.any isLineEnd

def withoutEnd (line : Text) : Text :=
  match line.reverse with
  | '\n' :: '\r' :: rest => rest.reverse
  | c :: rest => if isLineEnd c then rest.reverse else line
  | [] => []

theorem flatten_lines (t : Text) : (lines t).flatten = t := by
  induction t with
  | nil => rfl
  | cons c t ih =>
    rw [lines, List.foldr_cons]
    rw [lines] at ih
    split
    · simp [ih]
    · split
      · split <;> simp_all
      · split <;> simp_all

end Text
end GreetingServer
