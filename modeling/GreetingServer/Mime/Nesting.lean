import GreetingServer.Http.FieldLine
import GreetingServer.Mime.MediaType

/-! Messages inside messages. The lines of a message are its fields and, behind an empty line or
from the first line on that is no field, its text. If its media type says so, the text holds further
messages with fields of their own. A machine that takes one line at a time finds the fields of all
of them, and fails where they give no media type or lie too deep inside each other. -/
namespace GreetingServer
namespace Mime

inductive Frame
  | part (boundary : Text) (digest : Bool)
  /-- A block of fields, which ends at an empty line. -/
  | block
  | message
  deriving Repr, DecidableEq

inductive Place
  /-- The fields of a message; those so far, last first. The message may be a part of a digest. -/
  | fields (lines : List Text) (inDigest : Bool)
  | text
  | beforeParts (boundary : Text) (digest : Bool)
  | betweenParts (boundary : Text) (digest : Bool)
  | betweenBlocks
  deriving Repr, DecidableEq

/-- What is known of a message when some of its lines have been read: the place of the next line,
and what lies around it, innermost first. -/
structure Nesting where
  place : Place := .fields [] false
  frames : List Frame := []
  deriving Repr, DecidableEq

def isBoundaryBlank (c : Char) : Bool := c = ' ' || c = '\t'

def behindBoundary? (boundary line : Text) : Option Text :=
  let start := '-' :: '-' :: boundary
  let line := Text.withoutEnd line
  if start.isPrefixOf line then some (line.drop start.length) else none

def isBoundary (boundary line : Text) : Bool :=
  match behindBoundary? boundary line with
  | some ('-' :: '-' :: rest) => rest.all isBoundaryBlank
  | some rest => rest.all isBoundaryBlank
  | none => false

def isLastBoundary (boundary line : Text) : Bool :=
  match behindBoundary? boundary line with
  | some ('-' :: '-' :: rest) => rest.all isBoundaryBlank
  | _ => false

def Frame.endsAt (line : Text) : Frame → Bool
  | .part boundary _ => isBoundary boundary line
  | .block => Text.isEmptyLine line
  | .message => false

def outermost? (line : Text) : List Frame → Option (Frame × List Frame)
  | [] => none
  | frame :: around =>
    match outermost? line around with
    | some found => some found
    | none => if frame.endsAt line then some (frame, around) else none

namespace Nesting

/-- No message may lie inside more others. -/
def depthLimit : Nat := 970

/-- There are not too many messages inside each other. -/
def checkDepth (n : Nesting) : Except Fault Nesting :=
  if n.frames.length ≤ depthLimit then .ok n
  else .error (Fault.of .tooDeep "maximum recursion depth exceeded".toList)

def enter (frames : List Frame) : MediaType → Nesting
  | .text => ⟨.text, frames⟩
  | .message => ⟨.fields [] false, .message :: frames⟩
  | .status => ⟨.fields [] false, .block :: frames⟩
  | .multipart none _ => ⟨.text, frames⟩
  | .multipart (some boundary) digest => ⟨.beforeParts boundary digest, frames⟩

def takeBeforeParts (boundary : Text) (digest : Bool) (line : Text) (frames : List Frame) : Nesting :=
  if isLastBoundary boundary line then ⟨.text, frames⟩
  else if isBoundary boundary line then ⟨.betweenParts boundary digest, frames⟩
  else ⟨.beforeParts boundary digest, frames⟩

/-- The first line of a message. If it is no field, then a message without fields is nothing but
text, unless it is a part of a digest, which has a message in it. -/
def takeFirst (inDigest : Bool) (line : Text) (frames : List Frame) : Nesting :=
  if Http.FieldLine.isFieldLine line then ⟨.fields [line] inDigest, frames⟩
  else if inDigest && Text.isEmptyLine line then ⟨.fields [] false, .message :: frames⟩
  else ⟨.text, frames⟩

def takeText (line : Text) (n : Nesting) : Nesting :=
  match n.place with
  | .beforeParts boundary digest => takeBeforeParts boundary digest line n.frames
  | .fields [] _ => takeFirst false line n.frames
  | _ => ⟨.text, n.frames⟩

/-- An envelope as the last line of the fields belongs to the text, unless it is the first line too.
-/
def keepEnvelope (lines : List Text) (n : Nesting) : Nesting :=
  match lines with
  | last :: _ :: _ => if Http.FieldLine.isEnvelope last then takeText last n else n
  | _ => n

def endFields (lines : List Text) (inDigest : Bool) (line : Text) (frames : List Frame) :
    Except Fault Nesting :=
  (MediaType.ofHeaders (Http.FieldLine.fields lines.reverse) inDigest).map fun type =>
    let n := keepEnvelope lines (enter frames type)
    if Text.isEmptyLine line then n else takeText line n

/-- A message is over, whose fields may have been read up to now. -/
def check (n : Nesting) : Except Fault Unit :=
  match n.place with
  | .fields lines inDigest =>
    (MediaType.ofHeaders (Http.FieldLine.fields lines.reverse) inDigest).map fun _ => ()
  | _ => .ok ()

def leave (line : Text) (around : List Frame) : Frame → Nesting
  | .part boundary digest =>
    ⟨if isLastBoundary boundary line then .text else .betweenParts boundary digest, around⟩
  | .block => ⟨.betweenBlocks, around⟩
  | .message => ⟨.text, around⟩

def take (n : Nesting) (line : Text) : Except Fault Nesting :=
  match n.place with
  | .fields lines inDigest =>
    if Http.FieldLine.isFieldLine line then .ok ⟨.fields (line :: lines) inDigest, n.frames⟩
    else endFields lines inDigest line n.frames
  | .text => .ok n
  | .beforeParts boundary digest => .ok (takeBeforeParts boundary digest line n.frames)
  | .betweenParts boundary digest =>
    if isBoundary boundary line then .ok n
    else .ok (takeFirst digest line (.part boundary digest :: n.frames))
  | .betweenBlocks =>
    if Text.isEmptyLine line then .ok n else .ok (takeFirst false line (.block :: n.frames))

/-- One line. If it ends a frame, then all messages inside that frame are over. -/
def step (n : Nesting) (line : Text) : Except Fault Nesting :=
  match outermost? line n.frames with
  | some (frame, around) => n.check.map fun _ => leave line around frame
  | none =>
    match n.take line with
    | .error f => .error f
    | .ok n => n.checkDepth

def run (n : Nesting) : List Text → Except Fault Unit
  | [] => n.check
  | line :: rest =>
    match n.step line with
    | .error f => .error f
    | .ok n => n.run rest

end Nesting

/-- The media types of a message and of all messages inside it are looked at. -/
def checkTypes (block : Text) : Except Fault Unit := ({} : Nesting).run (Text.lines block)

end Mime
end GreetingServer
