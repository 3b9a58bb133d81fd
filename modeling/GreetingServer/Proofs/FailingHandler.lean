import GreetingServer.Proofs.Answer
import GreetingServer.Proofs.LostPeer
import GreetingServer.Proofs.ResponseReader

/-! Handlers that fail. Whatever fault a handler ends with, be it one that would end a connection if
it came from there, it stays with its request: the peer is told about it, there is one entry in the
log, and the connection goes on as it would have gone on behind a plain response. -/
namespace GreetingServer

def Site.routing (site : Site) (routes : RouteTable Handler) : Site := { site with routes }

namespace Connection
open Http (WireResponse)
variable {site : Site} {head : Http.Head} {s behind : Source} {handler : Handler}
  {request : Http.Request} {fault : Fault}

/-- The next request is read together with its body, what is behind it stays unread, and a handler
is for it. -/
structure IsCalled (site : Site) (s : Source) (head : Http.Head) (behind : Source)
    (handler : Handler) (request : Http.Request) : Prop where
  read : ∃ t n, Http.Head.read s = .ok (head, t) ∧
    Http.ContentLength.ofHeaders head.headers = .ok n ∧ n ≤ t.unread.length ∧ behind = t.skip n
  headed : head.line.isBare = false
  routed : verdict site head = .routed handler request

theorem IsCalled.outcome_eq (h : IsCalled site s head behind handler request)
    (hh : (Verdict.routed handler request).IsAnswered) :
    let v := Verdict.routed handler request
    let response := respond site head (endsAfter head) v.handling v.response behind
    outcome site (exchange site s) =
        ({ sent := interimBytes head, calls := [⟨handler.name, request⟩],
           pauses := (handler.handle request).pauses, logs := v.entries head } : Record) ++
          outcome site response ∧
      (exchange site s).next = response.next := by
  obtain ⟨t, n, hr, hl, hb, rfl⟩ := h.read
  have hall := outcome_exchange_of_body hr hl hb (h.routed ▸ hh)
  rw [h.routed] at hall
  exact hall

theorem IsCalled.of_ok (h : IsCalled site s head behind handler request)
    {response : Http.Response} (hr : (handler.handle request).result = .ok response) :
    let answer := respond site head (endsAfter head) none response behind
    outcome site (exchange site s) =
        ({ sent := interimBytes head, calls := [⟨handler.name, request⟩],
           pauses := (handler.handle request).pauses } : Record) ++ outcome site answer ∧
      (exchange site s).next = answer.next := by
  have hall := h.outcome_eq (by simp [Verdict.IsAnswered, Verdict.failure?, hr])
  simpa only [Verdict.handling, Verdict.response, Verdict.entries, hr] using hall

theorem IsCalled.of_error (h : IsCalled site s head behind handler request)
    (hf : (handler.handle request).result = .error fault) (hi : fault.isInterrupt = false)
    (ht : fault.IsTellable) :
    let answer := respond site head (endsAfter head) (some fault) (failureResponse fault) behind
    outcome site (exchange site s) =
        ({ sent := interimBytes head, calls := [⟨handler.name, request⟩],
           pauses := (handler.handle request).pauses, logs := [failureEntry fault] } : Record) ++
          outcome site answer ∧
      (exchange site s).next = answer.next := by
  have hall := h.outcome_eq (by simpa [Verdict.IsAnswered, Verdict.failure?, hf] using ⟨hi, ht⟩)
  simpa only [Verdict.handling, Verdict.response, Verdict.entries, hf] using hall

/-- What comes of a request whose handler fails is one response about the failure and one entry. -/
theorem IsCalled.outcome_of_error {date : Text} (hd : site.now.httpDate = .ok date)
    (h : IsCalled site s head behind handler request)
    (hf : (handler.handle request).result = .error fault) (hi : fault.isInterrupt = false)
    (ht : fault.IsTellable) :
    outcome site (exchange site s) =
        { sent := interimBytes head ++
            responseBytes date head (endsAfter head) (failureResponse fault)
          calls := [⟨handler.name, request⟩]
          pauses := (handler.handle request).pauses
          logs := [failureEntry fault] } ∧
      (exchange site s).next = nextSource (endsAfter head) behind := by
  have hwritable := isWritable_failureResponse fault
  obtain ⟨houtcome, hnext⟩ := h.of_error hf hi ht
  rw [next_respond_of_nil hwritable rfl, hd] at hnext
  refine ⟨?_, hnext⟩
  rw [houtcome, (outcome_respond hd hwritable head _ _ _).1]
  simp [Record.append_eq, Record.append, failureResponse]

/-- A peer reads the response about a failure as it is meant, whatever comes behind it. -/
theorem read?_failureResponse {date : Text} (hd : site.now.httpDate = .ok date)
    (hbare : head.line.isBare = false) (closing : Bool) (fault : Fault) (rest : Bytes) :
    ∃ wire : WireResponse,
      WireResponse.read? head.line.isHead
          (responseBytes date head closing (failureResponse fault) ++ rest) = some (wire, rest) ∧
        wire.Shows head.line.isHead (failureResponse fault) := by
  have hfields : ∀ field ∈ (failureResponse fault).headers, Http.IsLegibleField field := by
    simp [failureResponse]
  exact ⟨_, read?_responseBytes (Instant.all_isGraphic_httpDate hd) hbare closing hfields rest,
    WireResponse.shows_ofResponse hfields _⟩

/-- The failure of a handler stays with its request, whatever its kind and its text, as long as that
is one of characters. The connection
goes on as it does with any other table whose handler for the request gives a plain response. If the
date can be told then the request is answered with one response about the failure and one entry in
the log, behind what has come of the requests before it, and what is behind the request is served
like a connection of its own if the request does not end the connection. -/
theorem serve_of_failing {start : Source} {earlier : Record} (he : Reaches site start earlier s)
    (hc : IsCalled site s head behind handler request)
    (hf : (handler.handle request).result = .error fault) (hi : fault.isInterrupt = false)
    (ht : fault.IsTellable) :
    (∀ routes other, IsCalled (site.routing routes) s head behind other request →
        (other.handle request).result = .ok {} →
        (exchange site s).next = (exchange (site.routing routes) s).next) ∧
      ∀ date, site.now.httpDate = .ok date →
        let own : Record :=
          { sent := interimBytes head ++
              responseBytes date head (endsAfter head) (failureResponse fault)
            calls := [⟨handler.name, request⟩]
            pauses := (handler.handle request).pauses
            logs := [failureEntry fault] }
        serve site start Sink.unlimited =
            earlier ++ (own ++
              if endsAfter head then {} else serve site behind Sink.unlimited) ∧
          (exchange site s).next = (if endsAfter head then none else some behind) ∧
          ∀ rest, ∃ wire : WireResponse,
            WireResponse.read? head.line.isHead
                (responseBytes date head (endsAfter head) (failureResponse fault) ++ rest) =
              some (wire, rest) ∧ wire.Shows head.line.isHead (failureResponse fault) := by
  constructor
  · intro routes other ho hplain
    have hempty : Http.Response.IsWritable {} := Http.Response.isWritable_of_lt 200 (by decide) []
    rw [(hc.of_error hf hi ht).2, (ho.of_ok hplain).2,
      next_respond_of_nil (isWritable_failureResponse fault) rfl, next_respond_of_nil hempty rfl]
    rfl
  · intro date hd own
    obtain ⟨hown, hnext⟩ := hc.outcome_of_error hd hf hi ht
    refine ⟨?_, hnext, fun rest => read?_failureResponse hd hc.headed _ fault rest⟩
    rw [he.serve_eq, serve_of_nextSource hnext, hown]

def strayFault : Fault := Fault.of .connectionReset "verloren: ü😀".toList

def straySite : Site :=
  { Greeting.site with
    routes := RouteTable.ofEntries
      [(Greeting.route, Handler.failing "stray".toList strayFault)] }

/-- A request with a body fails, and the one behind it is served. -/
theorem serve_of_failing_stray :
    let request := requestOf straySite postHead "/".toList
    let response := responseBytes "Thu, 01 Jan 1970 00:00:00 GMT".toList postHead false
      { status := 500, body := Http.utf8 "Internal Server Error: verloren: ü😀".toList }
    strayFault.isDisconnect = true ∧
      serve straySite ⟨postBytes ++ [71, 69, 84] ++ getBytes, none⟩ Sink.unlimited =
        ({ sent := response, calls := [⟨"stray".toList, request⟩],
           logs := [failureEntry strayFault] } : Record) ++
          serve straySite ⟨getBytes, none⟩ Sink.unlimited := by
  intro request response
  have hread := isWhole_postBytes.read_append ([71, 69, 84] ++ getBytes) none
  rw [← List.append_assoc] at hread
  have hcalled : IsCalled straySite ⟨postBytes ++ [71, 69, 84] ++ getBytes, none⟩ postHead
      ⟨getBytes, none⟩ (Handler.failing "stray".toList strayFault) request :=
    ⟨⟨_, 3, hread, rfl, by decide, rfl⟩, by decide, rfl⟩
  have hall := (serve_of_failing (Reaches.refl _) hcalled rfl rfl
    (Fault.isTellable_of _ _)).2 _ Instant.httpDate_zero
  refine ⟨rfl, ?_⟩
  rw [hall.1, Record.empty_append]
  rfl

end Connection
end GreetingServer
