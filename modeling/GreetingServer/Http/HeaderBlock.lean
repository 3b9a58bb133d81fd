import GreetingServer.Http.RequestLine
import GreetingServer.Mime.Nesting
import GreetingServer.Transport.Source

/-! The header block of a request: lines up to an empty one. The first line that is no field ends
the fields. -/
namespace GreetingServer
namespace Http
namespace HeaderBlock

def parse (block : Text) : Headers :=
  FieldLine.fields ((Text.lines block).takeWhile FieldLine.isFieldLine)

def lineLimit : Nat := 65536

def lineCountLimit : Nat := 100

inductive Excess
  | longLine
  | manyLines
  deriving Repr, DecidableEq

def Excess.message : Excess → Text
  | longLine => "Line too long".toList
  | manyLines => "Too many headers".toList

def Excess.explanation : Excess → Text
  | longLine =>
    "got more than ".toList ++ Text.ofNat lineLimit ++ " bytes when reading header line".toList
  | manyLines => "got more than ".toList ++ Text.ofNat lineCountLimit ++ " headers".toList

def Excess.fault : Excess → Fault
  | longLine => Fault.of .longLine longLine.explanation
  | manyLines => Fault.of .badProtocol manyLines.explanation

def Excess.page (e : Excess) (line : RequestLine) : ErrorPage :=
  ⟨431, e.message, e.explanation, line.isBare, line.isHead⟩

def endsBlock (line : Bytes) : Bool := line == [13, 10] || line == [10] || line == []

def readLines : Nat → Source → Except (Except Fault Excess) (List Bytes × Source)
  | allowed, s =>
    match s.readLine (lineLimit + 1) with
    | (.error f, _) => .error (.error f)
    | (.ok line, s) =>
      if lineLimit < line.length then .error (.ok .longLine)
      else match allowed with
        | 0 => .error (.ok .manyLines)
        | allowed + 1 =>
          if endsBlock line then .ok ([line], s)
          else match readLines allowed s with
            | .error e => .error e
            | .ok (lines, s) => .ok (line :: lines, s)

/-- The fields of a header block, whose media types have to be readable. -/
def accept (block : Text) : Except Stop Headers :=
  match Mime.checkTypes block with
  | .error f => .error (.fail f)
  | .ok () => .ok (parse block)

def read (line : RequestLine) (s : Source) : Except Stop (Headers × Source) :=
  match readLines lineCountLimit s with
  | .error (.error f) => .error (.fail f)
  | .error (.ok excess) => .error (.refuse (excess.page line) (some excess.fault))
  | .ok (lines, s) => (accept (Text.ofLatin1 lines.flatten)).map fun headers => (headers, s)

theorem length_unread_readLine_le (limit : Nat) (s : Source) :
    (s.readLine limit).2.unread.length ≤ s.unread.length := Source.length_unread_read_le ..

theorem length_unread_of_readLines {allowed : Nat} {s t : Source} {lines : List Bytes}
    (h : readLines allowed s = .ok (lines, t)) : t.unread.length ≤ s.unread.length := by
  induction allowed generalizing s lines with
  | zero =>
    unfold readLines at h
    split at h
    · simp at h
    · split at h <;> simp at h
  | succ allowed ih =>
    unfold readLines at h
    have hr := length_unread_readLine_le (lineLimit + 1) s
    split at h
    · simp at h
    · rename_i line u heq
      rw [heq] at hr
      split at h
      · simp at h
      · simp only at h
        split at h
        · simp only [Except.ok.injEq, Prod.mk.injEq] at h
          exact h.2 ▸ hr
        · split at h
          · simp at h
          · rename_i lines' v hv
            simp only [Except.ok.injEq, Prod.mk.injEq] at h
            obtain ⟨-, rfl⟩ := h
            exact Nat.le_trans (ih hv) hr

theorem length_unread_of_read {line : RequestLine} {s t : Source} {headers : Headers}
    (h : read line s = .ok (headers, t)) : t.unread.length ≤ s.unread.length := by
  unfold read at h
  split at h
  · simp at h
  · simp at h
  · rename_i lines u heq
    cases ha : accept (Text.ofLatin1 lines.flatten) with
    | error stop => simp [ha, Except.map] at h
    | ok found =>
      simp only [ha, Except.map, Except.ok.injEq, Prod.mk.injEq] at h
      exact h.2 ▸ length_unread_of_readLines heq

end HeaderBlock
end Http
end GreetingServer
