import GreetingServer.Http.HeaderBlock

/-! The head of a request: its first line and its header fields. -/
namespace GreetingServer
namespace Http

structure Head where
  line : RequestLine
  headers : Headers
  deriving Repr, DecidableEq

namespace Head

def lineTooLong : ErrorPage := ⟨414, Status.phrase 414, Status.meaning 414, false, false⟩

def readRequestLine (s : Source) : Except Stop (RequestLine × Source) :=
  match s.readLine (HeaderBlock.lineLimit + 1) with
  | (.error f, _) => .error (.fail f)
  | (.ok raw, s) =>
    if HeaderBlock.lineLimit < raw.length then .error (.refuse lineTooLong none)
    else if raw = [] then .error .quiet
    else match RequestLine.parse (Text.ofLatin1 raw) with
      | .error stop => .error stop
      | .ok line => .ok (line, s)

def read (s : Source) : Except Stop (Head × Source) :=
  match readRequestLine s with
  | .error stop => .error stop
  | .ok (line, s) =>
    match HeaderBlock.read line s with
    | .error stop => .error stop
    | .ok (headers, s) => .ok (⟨line, headers⟩, s)

/-- The value of a header in lower case, empty without one. -/
def lowered (head : Head) (name : Text) : Text :=
  Text.lower ((head.headers.first? name).getD [])

/-- The connection ends after the response, unless the response says otherwise. -/
def isClosing (head : Head) : Bool :=
  let wish := head.lowered "Connection".toList
  if wish = "close".toList then true
  else if wish = "keep-alive".toList then false
  else !head.line.persistent

/-- The peer waits for a word before it sends the body. Versions are compared as texts. -/
def expectsContinue (head : Head) : Bool :=
  head.lowered "Expect".toList == "100-continue".toList && !Text.isBefore head.line.version protocol

/-- The body has no announced length that could be relied on. -/
def hasTransferCoding (head : Head) : Bool := head.headers.has "Transfer-Encoding".toList

theorem length_unread_of_readRequestLine {line : RequestLine} {s t : Source}
    (h : readRequestLine s = .ok (line, t)) : t.unread.length < s.unread.length := by
  unfold readRequestLine at h
  split at h
  · simp at h
  · rename_i raw u heq
    split at h
    · simp at h
    · split at h
      · simp at h
      · rename_i hne
        split at h
        · simp at h
        · simp only [Except.ok.injEq, Prod.mk.injEq] at h
          obtain ⟨-, rfl⟩ := h
          exact Source.length_unread_lt_of_read heq hne

theorem length_unread_of_read {head : Head} {s t : Source} (h : read s = .ok (head, t)) :
    t.unread.length < s.unread.length := by
  unfold read at h
  split at h
  · simp at h
  · rename_i line u hl
    split at h
    · simp at h
    · rename_i headers v hh
      simp only [Except.ok.injEq, Prod.mk.injEq] at h
      obtain ⟨-, rfl⟩ := h
      exact Nat.lt_of_le_of_lt (HeaderBlock.length_unread_of_read hh)
        (length_unread_of_readRequestLine hl)

end Head
end Http
end GreetingServer
