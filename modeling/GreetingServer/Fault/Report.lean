import GreetingServer.Fault

/-! The report of a fault: its name and text, after the reports of the faults that led to it. Where a
fault was raised is not known to it, and so what is reported of that is given beside it. -/
namespace GreetingServer
namespace Fault

/-- What is reported of the places where faults were raised, in whole lines. -/
abbrev Trace := Fault → List CodePoint

def causeLine : Text :=
  "\n\nThe above exception was the direct cause of the following exception:\n\n".toList

def contextLine : Text :=
  "\n\nDuring handling of the above exception, another exception occurred:\n\n".toList

/-- What is said of a fault in a report, which is never nothing for lack of a text. -/
def reportedText (f : Fault) : List CodePoint :=
  match f.text with
  | .ok text => text
  | .error _ => CodePoint.ofText "<exception str() failed>".toList

/-- The name and the text of a fault, behind the place where it was raised. -/
def ownReport (trace : Trace) (f : Fault) : List CodePoint :=
  (if f.raised then CodePoint.ofText "Traceback (most recent call last):\n".toList ++ trace f
    else []) ++
    CodePoint.ofText f.kind.fullName ++
    (if f.reportedText.isEmpty then [] else CodePoint.ofText ": ".toList ++ f.reportedText)

/-- The report of a fault. A cause is reported rather than what was being dealt with. -/
def report (trace : Trace) : Fault → List CodePoint
  | ⟨kind, text, raised, some cause, context⟩ =>
    report trace cause ++ CodePoint.ofText causeLine ++
      ownReport trace ⟨kind, text, raised, some cause, context⟩
  | ⟨kind, text, raised, none, some context⟩ =>
    report trace context ++ CodePoint.ofText contextLine ++
      ownReport trace ⟨kind, text, raised, none, some context⟩
  | ⟨kind, text, raised, none, none⟩ => ownReport trace ⟨kind, text, raised, none, none⟩

end Fault
end GreetingServer
