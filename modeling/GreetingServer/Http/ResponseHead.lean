import GreetingServer.Fault
import GreetingServer.Http.ErrorPage

/-! The head of a response in bytes. Every line has to be Latin-1; if one is not, there is no head.
-/
namespace GreetingServer
namespace Http
namespace ResponseHead

/-- A line that Latin-1 cannot write. The first run of such characters is reported. -/
def unencodable (u : Text.Unencodable) : Fault :=
  Fault.unencodable "latin-1" "ordinal not in range(256)" u.start (CodePoint.ofText u.run)

def encodeLine (line : Text) : Except Fault Bytes :=
  match Text.toLatin1 line with
  | .ok bytes => .ok bytes
  | .error u => .error (unencodable u)

def encodeLines : List Text → Except Fault Bytes
  | [] => .ok []
  | line :: rest =>
    match encodeLine line with
    | .error f => .error f
    | .ok bytes =>
      match encodeLines rest with
      | .error f => .error f
      | .ok more => .ok (bytes ++ more)

/-- The first line of a response, unless its code has too many digits. -/
def statusLine (r : Response) : Except Fault Text :=
  (Fault.written (Text.ofInt r.status)).map fun numeral => codeLine numeral (Status.phrase r.status)

def statusBytes (r : Response) : Except Fault Bytes :=
  match statusLine r with
  | .ok line => encodeLine line
  | .error f => .error f

/-- The fields of a response's head: those that the server adds stand around its own. -/
def fields (date : Text) (r : Response) : Headers :=
  commonFields date ++ r.headers ++ [lengthField r.body]

def closeFields (closing : Bool) : Headers := if closing then [closeField] else []

def fieldLines (date : Text) (closing : Bool) (r : Response) : List Text :=
  (fields date r ++ closeFields closing).map fieldLine ++ [lineEnd]

/-- A header of a response may tell whether the connection ends after it. -/
def afterField (closing : Bool) (field : Text × Text) : Bool :=
  if Text.lower field.1 = "connection".toList then
    let value := Text.lower field.2
    if value = "close".toList then true
    else if value = "keep-alive".toList then false
    else closing
  else closing

/-- Whether the connection ends after a response, if it would have been so without its headers. -/
def closingAfter (closing : Bool) (headers : Headers) : Bool := headers.foldl afterField closing

@[simp] theorem encodeLines_nil : encodeLines [] = .ok [] := rfl

theorem encodeLines_cons (line : Text) (rest : List Text) :
    encodeLines (line :: rest) = match encodeLine line with
      | .error f => .error f
      | .ok bytes => (encodeLines rest).map (bytes ++ ·) := by
  rw [encodeLines]
  cases encodeLine line <;> cases encodeLines rest <;> rfl

@[simp] theorem encodeLines_singleton (line : Text) : encodeLines [line] = encodeLine line := by
  rw [encodeLines_cons]
  cases encodeLine line <;> simp [Except.map]

theorem encodeLines_append (lines more : List Text) :
    encodeLines (lines ++ more) = match encodeLines lines with
      | .error f => .error f
      | .ok bytes => (encodeLines more).map (bytes ++ ·) := by
  induction lines with
  | nil => cases h : encodeLines more <;> simp [h, Except.map]
  | cons line rest ih =>
    rw [List.cons_append, encodeLines_cons, encodeLines_cons, ih]
    cases encodeLine line <;> cases encodeLines rest <;> cases encodeLines more <;>
      simp [Except.map]

theorem encodeLines_cons_ok {line : Text} {rest : List Text} {a b : Bytes}
    (ha : encodeLine line = .ok a) (hb : encodeLines rest = .ok b) :
    encodeLines (line :: rest) = .ok (a ++ b) := by
  simp [encodeLines, ha, hb]

theorem encodeLine_ok_iff {line : Text} {bytes : Bytes} :
    encodeLine line = .ok bytes ↔ Text.toLatin1 line = .ok bytes := by
  unfold encodeLine
  split <;> simp_all

@[simp] theorem closingAfter_nil (closing : Bool) : closingAfter closing [] = closing := rfl

theorem closingAfter_append (closing : Bool) (headers more : Headers) :
    closingAfter closing (headers ++ more) = closingAfter (closingAfter closing headers) more :=
  List.foldl_append

@[simp] theorem closingAfter_closeFields (closing : Bool) :
    closingAfter closing (closeFields closing) = closing := by cases closing <;> rfl

/-- What the server adds by itself has no say in whether the connection ends. -/
@[simp] theorem closingAfter_fields (closing : Bool) (date : Text) (r : Response) :
    closingAfter closing (fields date r) = closingAfter closing r.headers := by
  have hcommon : closingAfter closing (commonFields date) = closing := rfl
  rw [fields, closingAfter_append, closingAfter_append, hcommon]
  rfl

end ResponseHead
end Http
end GreetingServer
