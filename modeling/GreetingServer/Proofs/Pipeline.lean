import GreetingServer.Proofs.Routing
import GreetingServer.Proofs.SentResponse
import GreetingServer.Proofs.WrittenRequest
import Mathlib.Data.List.Forall2

/-! Pipelines of requests. Requests that are written one behind the other on a connection reach the
handlers as they were written and in the same order, whatever their bodies are. -/
namespace GreetingServer

namespace Reply

/-- There is an answer whose head can be written, and no field of it is about the connection. -/
def IsRegular (reply : Reply) : Prop :=
  ∃ response, reply.result = .ok response ∧ response.IsWritable ∧ ∀ field ∈ response.headers,
    Text.lower field.1 ≠ "connection".toList

end Reply

namespace Site

/-- The site answers every request of its peer: the date can be told, there is a route for all
requests, and the handlers give regular answers. -/
structure IsRegular (site : Site) (date : Text) : Prop where
  told : site.now.httpDate = .ok date
  catchAll : RouteTable.catchAll ∈ Ordered.keys site.routes
  handlers : ∀ entry ∈ site.routes, ∀ request : Http.Request,
    request.remoteAddress = site.peer.text → (entry.2.handle request).IsRegular

end Site

namespace Connection
open Http (WrittenRequest)
variable {site : Site} {date : Text} {r : WrittenRequest}

/-- What a handler's answer to a request looks like on the connection. -/
def answerBytes (date : Text) (r : WrittenRequest) (response : Http.Response) : Bytes :=
  (Http.ResponseHead.lines date false response).flatten.map Text.toByte ++
    if r.method = "HEAD".toList then [] else response.body

/-- What comes of a request: the handler that the table has for it is called once, with the request
as it was written, and its answer is sent. -/
def IsAnswer (site : Site) (date : Text) (r : WrittenRequest) (record : Record) : Prop :=
  ∃ handler response, RouteTable.find? site.routes r.method r.path = some handler ∧
    (handler.handle (r.seen site.peer)).result = .ok response ∧
    record =
      { sent := answerBytes date r response
        calls := [⟨handler.name, r.seen site.peer⟩]
        pauses := (handler.handle (r.seen site.peer)).pauses }

theorem exists_handler (hs : site.IsRegular date) (hr : r.IsPlain) :
    ∃ handler, RouteTable.find? site.routes r.method r.path = some handler ∧
      (handler.handle (r.seen site.peer)).IsRegular := by
  obtain ⟨rest, htarget, -, -⟩ := hr.target
  obtain ⟨behind, hbehind⟩ : ∃ behind, r.path = '/' :: behind := by
    rw [WrittenRequest.path, htarget]
    exact ⟨_, rfl⟩
  obtain ⟨entry, hentry, hfind⟩ := RouteTable.exists_find? hs.catchAll r.method behind
  rw [← hbehind] at hfind
  exact ⟨entry.2, hfind, hs.handlers entry hentry _ rfl⟩

theorem dispatch_of_isPlain (hr : r.IsPlain) {handler : Handler}
    (hf : RouteTable.find? site.routes r.method r.path = some handler) (closing : Bool)
    (s : Source) :
    dispatch site r.writtenHead.head closing s =
      handle site r.writtenHead.head closing handler (r.seen site.peer) s := by
  obtain ⟨rest, htarget, hslash, hvisible⟩ := hr.target
  have hpath : Http.Target.path r.writtenHead.head.line.target = .ok r.path := by
    have hp := Http.Target.path_of_slash hslash fun c hc =>
      Text.isBlank_of_isVisible (hvisible c hc)
    rw [← htarget] at hp
    exact hp
  have hseen : requestOf site r.writtenHead.head r.path = r.seen site.peer := by
    rw [requestOf, WrittenRequest.seen]
    congr 1
    exact hr.toMap_eq
  have hline : RouteTable.find? site.routes r.writtenHead.head.line.method r.path =
      some handler := hf
  simp only [dispatch, hpath, hline, hseen]

theorem closingWith_of_isPlain (hr : r.IsPlain) (length : Nat) :
    closingWith r.writtenHead.head length = false := by
  rw [closingWith, hr.isClosing_eq, hr.hasTransferCoding_eq, Bool.and_false, Bool.or_false]

theorem interim_of_isPlain (hr : r.IsPlain) : interim r.writtenHead.head = [] := by
  rw [interim, hr.expectsContinue_eq]
  rfl

theorem responseBytes_eq_answerBytes (response : Http.Response) :
    responseBytes date r.writtenHead.head false response = answerBytes date r response := by
  have hhead : r.writtenHead.head.line.isHead = (r.method == "HEAD".toList) := rfl
  simp only [responseBytes, answerBytes, r.writtenHead.isBare_head, hhead, beq_iff_eq,
    Bool.false_eq_true, if_false]

theorem alone_of_isPlain (hs : site.IsRegular date) (hr : r.IsPlain) :
    (alone site r.writtenHead.head r.body.length).staysOpen = true ∧
      IsAnswer site date r (outcome site (alone site r.writtenHead.head r.body.length)) := by
  obtain ⟨handler, hfind, response, hresult, hwritable, hfields⟩ := exists_handler hs hr
  have halone : alone site r.writtenHead.head r.body.length =
      handle site r.writtenHead.head false handler (r.seen site.peer) ⟨[], none⟩ := by
    rw [alone, closingWith_of_isPlain hr, interim_of_isPlain hr, dispatch_of_isPlain hr hfind]
    rfl
  have hsilent : Http.ResponseHead.closingAfter false response.headers = false :=
    Http.ResponseHead.closingAfter_of_silent hfields false
  obtain ⟨hcome, hnext⟩ := outcome_handle_of_ok hresult site r.writtenHead.head false ⟨[], none⟩
  obtain ⟨hsent, hgoes⟩ := outcome_respond hs.told hwritable r.writtenHead.head false none
    ⟨[], none⟩
  rw [hsilent] at hsent hgoes
  rw [halone]
  constructor
  · rw [Exchange.staysOpen, hnext, hgoes]
    rfl
  · refine ⟨handler, response, hfind, hresult, ?_⟩
    rw [hcome, hsent, responseBytes_eq_answerBytes]
    simp [Record.append_eq, Record.append]

/-- The first of some written requests is answered, and then the others are served. -/
theorem serve_cons_of_isPlain (hs : site.IsRegular date) (hr : r.IsPlain)
    (requests : List WrittenRequest) :
    ∃ record, IsAnswer site date r record ∧
      serve site ⟨(r :: requests).flatMap WrittenRequest.bytes, none⟩ Sink.unlimited =
        record ++ serve site ⟨requests.flatMap WrittenRequest.bytes, none⟩ Sink.unlimited := by
  obtain ⟨hopen, hanswer⟩ := alone_of_isPlain hs hr
  have hread := hr.writtenHead_isPlain.read_eq
    (r.body ++ requests.flatMap WrittenRequest.bytes) none
  have hbytes : (r :: requests).flatMap WrittenRequest.bytes =
      r.writtenHead.bytes ++ (r.body ++ requests.flatMap WrittenRequest.bytes) := by
    rw [List.flatMap_cons, WrittenRequest.bytes, List.append_assoc]
  rw [← hbytes] at hread
  have hexchange := exchange_of_append site hread
    (Http.ContentLength.ofHeaders_of_announces hr.announces)
  refine ⟨outcome site (alone site r.writtenHead.head r.body.length), hanswer, ?_⟩
  rw [serve_of_exchange hexchange, if_pos hopen]

/-- Written requests are read back. On a connection that holds nothing else, a regular site calls a
handler once for each of them, in their order and with each request as it was written, and sends the
answers in the same order. Nothing is logged. -/
theorem serve_pipeline (hs : site.IsRegular date) {requests : List WrittenRequest}
    (hr : ∀ r ∈ requests, r.IsPlain) :
    let record := serve site ⟨requests.flatMap WrittenRequest.bytes, none⟩ Sink.unlimited
    record.calls.map Call.request = requests.map (·.seen site.peer) ∧
      record.logs = [] ∧ record.interruption = none ∧
      ∃ records, List.Forall₂ (IsAnswer site date) requests records ∧
        record = records.foldr (· ++ ·) {} := by
  induction requests with
  | nil =>
    rw [List.flatMap_nil, serve_empty]
    exact ⟨rfl, rfl, rfl, [], .nil, rfl⟩
  | cons r requests ih =>
    obtain ⟨first, hfirst, hserve⟩ := serve_cons_of_isPlain hs (hr r (by simp)) requests
    obtain ⟨hcalls, hlogs, hgoes, records, hall, hrest⟩ := ih fun q hq => hr q (by simp [hq])
    have hanswer := hfirst
    obtain ⟨handler, response, -, -, rfl⟩ := hfirst
    simp only [hserve]
    refine ⟨?_, ?_, ?_, _ :: records, .cons hanswer hall, ?_⟩
    · simp [Record.append_eq, Record.append, hcalls]
    · simp [Record.append_eq, Record.append, hlogs]
    · simp [Record.append_eq, Record.append, hgoes]
    · rw [hrest]
      rfl

end Connection

namespace Greeting
open Http (WrittenRequest)

theorem site_isRegular : site.IsRegular "Thu, 01 Jan 1970 00:00:00 GMT".toList where
  told := Instant.httpDate_zero
  catchAll := by decide
  handlers entry hentry request hpeer := by
    obtain rfl : entry = (route, handler) := List.mem_singleton.1 hentry
    have hfield {field : Text × Text} (h : field ∈ (response request).headers) :
        field = (header, request.remoteAddress) := List.mem_singleton.1 h
    refine ⟨response request, rfl, ⟨⟨_, Text.ofInt_of_lt (n := 200) (by decide)⟩, ?_⟩, ?_⟩
    · intro field h
      rw [hfield h, hpeer]
      exact ⟨by decide, by decide⟩
    · intro field h
      rw [hfield h]
      exact (by decide : Text.lower header ≠ "connection".toList)

def twoRequests : List WrittenRequest :=
  [⟨"POST".toList, "/a?b".toList, [("Host".toList, "a b".toList)],
      "GET / HTTP/1.1\r\n\r\n".toList.map Text.toByte⟩,
    ⟨"HEAD".toList, "/".toList, [], []⟩]

theorem isPlain_of_mem_twoRequests {r : WrittenRequest} (h : r ∈ twoRequests) : r.IsPlain := by
  simp only [twoRequests, List.mem_cons, List.not_mem_nil, or_false] at h
  rcases h with rfl | rfl
  · refine ⟨by decide, List.all_eq_true.1 (by decide),
      ⟨_, rfl, by decide, List.all_eq_true.1 (by decide)⟩, ?_, by decide, by decide, by decide,
      by decide, by decide⟩
    intro field hfield
    obtain rfl := List.mem_singleton.1 hfield
    exact ⟨by decide, List.all_eq_true.1 (by decide), List.all_eq_true.1 (by decide), by decide,
      by decide⟩
  · exact ⟨by decide, List.all_eq_true.1 (by decide), ⟨_, rfl, by decide, by simp⟩, by simp,
      by decide, by decide, by decide, by decide, by decide⟩

/-- The body is no request, and both requests are greeted. -/
theorem serve_pipeline_greeting :
    (Connection.serve site ⟨twoRequests.flatMap WrittenRequest.bytes, none⟩
        Sink.unlimited).calls.map Call.request = twoRequests.map (·.seen site.peer) :=
  (Connection.serve_pipeline site_isRegular fun _ hr => isPlain_of_mem_twoRequests hr).1

end Greeting
end GreetingServer
