import GreetingServer.Proofs.Composition
import GreetingServer.Proofs.WrittenResponse

/-! Responses as peers get them. A response whose head can be written is sent as a whole, and
nothing else comes of it; its own fields have a say in whether the next request is read. -/
namespace GreetingServer

namespace Delivery

theorem perform_pauses (peer : Peer) (sink : Sink) (durations : List Nat) (rest : List Act) :
    perform peer sink (durations.map .pause ++ rest) =
      { perform peer sink rest with pauses := durations ++ (perform peer sink rest).pauses } := by
  induction durations with
  | nil => rfl
  | cons duration durations ih =>
    rw [List.map_cons, List.cons_append, perform, ih]
    rfl

end Delivery

namespace Connection
variable {site : Site} {head : Http.Head} {date : Text}

/-- The word to go on, for a peer that waits for it. -/
def interimBytes (head : Http.Head) : Bytes :=
  if head.expectsContinue then Http.continueHead else []

/-- A response as it stands on the connection. It has no head if the request is a bare one, and no
body if the request asked for the head alone. -/
def responseBytes (date : Text) (head : Http.Head) (closing : Bool) (response : Http.Response) :
    Bytes :=
  (if head.line.isBare then []
    else (Http.ResponseHead.lines date closing response).flatten.map Text.toByte) ++
    if head.line.isHead then [] else response.body

theorem headBytes_of_isWritable (hd : site.now.httpDate = .ok date) (head : Http.Head)
    (closing : Bool) {response : Http.Response} (hw : response.IsWritable) :
    headBytes site head closing response =
      .ok (if head.line.isBare then none
        else some ((Http.ResponseHead.lines date closing response).flatten.map Text.toByte)) := by
  have hstatus := Http.ResponseHead.statusBytes_of_isNumbered hw.numbered
  have hfields := Http.ResponseHead.encodeLines_of_isWritable (Instant.all_isGraphic_httpDate hd)
    closing hw
  cases hbare : head.line.isBare with
  | true => simp only [headBytes, hd, hbare, if_true, Except.map]
  | false =>
    simp only [headBytes, hstatus, hd, hbare, hfields, Except.map, Bool.false_eq_true, if_false]
    rw [Http.ResponseHead.lines, List.flatten_cons, List.map_append]

theorem perform_interim (peer : Peer) (head : Http.Head) :
    Delivery.perform peer Sink.unlimited (interim head) = { sent := interimBytes head } := by
  cases hw : head.expectsContinue <;>
    simp [interim, interimBytes, hw, Delivery.perform, Record.addSent]

theorem perform_writeBody (peer : Peer) (head : Http.Head) (body : Bytes)
    (handling : Option Fault) :
    Delivery.perform peer Sink.unlimited (writeBody head body handling) =
      { sent := if head.line.isHead then [] else body } := by
  cases hh : head.line.isHead <;> simp [writeBody, hh, Delivery.perform, Record.addSent]

theorem outcome_respond (hd : site.now.httpDate = .ok date) {response : Http.Response}
    (hw : response.IsWritable) (head : Http.Head) (closing : Bool)
    (handling : Option Fault) (s : Source) :
    outcome site (respond site head closing handling response s) =
        { sent := responseBytes date head
            (Http.ResponseHead.closingAfter closing response.headers) response } ∧
      (respond site head closing handling response s).next =
        nextSource (Http.ResponseHead.closingAfter closing response.headers) s := by
  have hhead := headBytes_of_isWritable hd head
    (Http.ResponseHead.closingAfter closing response.headers) hw
  rw [respond_of_ok hhead]
  refine ⟨?_, rfl⟩
  cases hbare : head.line.isBare <;>
    simp [outcome, responseBytes, hbare, Delivery.perform, Record.addSent, perform_writeBody]

theorem outcome_handle_of_ok {handler : Handler} {request : Http.Request}
    {response : Http.Response} (hr : (handler.handle request).result = .ok response) (site : Site)
    (head : Http.Head) (closing : Bool) (s : Source) :
    outcome site (handle site head closing handler request s) =
        { calls := [⟨handler.name, request⟩], pauses := (handler.handle request).pauses } ++
          outcome site (respond site head closing none response s) ∧
      (handle site head closing handler request s).next =
        (respond site head closing none response s).next := by
  simp only [outcome, handle, hr, List.cons_append, Delivery.perform, Delivery.perform_pauses]
  exact ⟨rfl, trivial⟩

theorem outcome_handle_of_error {handler : Handler} {request : Http.Request} {fault : Fault}
    (hr : (handler.handle request).result = .error fault) (site : Site) (head : Http.Head)
    (closing : Bool) (s : Source) :
    outcome site (handle site head closing handler request s) =
        { calls := [⟨handler.name, request⟩], pauses := (handler.handle request).pauses } ++
          outcome site (fail site head closing fault s) ∧
      (handle site head closing handler request s).next =
        (fail site head closing fault s).next := by
  simp only [outcome, handle, hr, List.cons_append, Delivery.perform, Delivery.perform_pauses]
  exact ⟨rfl, trivial⟩

/-- What comes of a request is the word to go on and what comes of its answer. -/
theorem outcome_exchange {s t : Source} (hr : Http.Head.read s = .ok (head, t)) :
    outcome site (exchange site s) =
      { sent := interimBytes head } ++ outcome site (answer site head t) := by
  rw [exchange_of_read hr, outcome,
    Delivery.perform_append site.peer fun _ => isInterrupt_of_mem_interim, perform_interim]
  rfl

end Connection
end GreetingServer
