import GreetingServer.Proofs.PartialDelivery
import GreetingServer.Proofs.PartialSource
import GreetingServer.Proofs.Verdict

/-! The course of a connection: the requests on it that are accepted, and the head, if there is one,
that is not. Each of the requests has one outcome, and what comes of the connection is these
outcomes in order. -/
namespace GreetingServer

namespace Source

/-- A source that simply ends has always a line to give, if only an empty one. -/
theorem readLine_of_ended (limit : Nat) {s : Source} (h : s.failure = none) :
    ∃ line t, s.readLine limit = (.ok line, t) ∧ t.failure = none :=
  ⟨_, _, read_of_ended _ h, h⟩

end Source

namespace Http

theorem RequestLine.parse_ne_fail (raw : Text) (fault : Fault) :
    RequestLine.parse raw ≠ .error (.fail fault) := by
  have hpersistence (version : Text) : persistence version ≠ .error (.fail fault) := by
    unfold persistence
    split
    · simp [badRequest]
    · simp only
      split <;> simp
  simp only [parse]
  generalize Text.trimRight _ raw = line
  unfold ofWords
  split
  · simp
  · simp [badSyntax, badRequest]
  · split <;> simp [badRequest]
  · simp only
    split
    · rename_i hv
      intro he
      exact hpersistence _ (hv.trans (congrArg Except.error (Except.error.inj he)))
    · split <;> simp [badSyntax, badRequest]

namespace HeaderBlock

theorem readLines_ne_error {allowed : Nat} {s : Source} (h : s.failure = none) (fault : Fault) :
    readLines allowed s ≠ .error (.error fault) := by
  induction allowed generalizing s with
  | zero =>
    obtain ⟨line, t, hline, -⟩ := Source.readLine_of_ended (lineLimit + 1) h
    by_cases hl : lineLimit < line.length
    · simp [readLines_of_long hline hl]
    · simp [readLines_zero_of_short hline hl]
  | succ allowed ih =>
    obtain ⟨line, t, hline, ht⟩ := Source.readLine_of_ended (lineLimit + 1) h
    by_cases hl : lineLimit < line.length
    · simp [readLines_of_long hline hl]
    · rw [readLines_succ hline (Nat.le_of_not_lt hl)]
      split
      · simp
      · intro he
        cases hmore : readLines allowed t with
        | error e =>
          simp only [hmore, Except.map, Except.error.injEq] at he
          exact ih ht (he ▸ hmore)
        | ok found => simp [hmore, Except.map] at he

end HeaderBlock

namespace Head

/-- The head that comes next has media types that cannot be read. -/
def HasBadType (s : Source) (fault : Fault) : Prop :=
  ∃ line t lines u, readRequestLine s = .ok (line, t) ∧
    HeaderBlock.readLines HeaderBlock.lineCountLimit t = .ok (lines, u) ∧
    Mime.checkTypes (Text.ofLatin1 lines.flatten) = .error fault

theorem readRequestLine_ne_fail {s : Source} (h : s.failure = none) (fault : Fault) :
    readRequestLine s ≠ .error (.fail fault) := by
  obtain ⟨raw, t, hraw, -⟩ := Source.readLine_of_ended (HeaderBlock.lineLimit + 1) h
  simp only [readRequestLine, hraw]
  split
  · simp
  · split
    · simp
    · split
      · rename_i hstop
        intro he
        exact RequestLine.parse_ne_fail _ fault
          (hstop.trans (congrArg Except.error (Except.error.inj he)))
      · simp

/-- On a source that simply ends, the only fault of a head is one of its media types. -/
theorem hasBadType_of_read {s : Source} (h : s.failure = none) {fault : Fault}
    (hr : read s = .error (.fail fault)) : HasBadType s fault := by
  cases hline : readRequestLine s with
  | error stop =>
    simp only [read, hline, Except.error.injEq] at hr
    exact absurd (hr ▸ hline) (readRequestLine_ne_fail h fault)
  | ok found =>
    obtain ⟨line, t⟩ := found
    obtain ⟨raw, hraw, -⟩ := readRequestLine_eq_ok_iff.1 hline
    have ht := (Source.isRest_of_readLine hraw).failure_eq.trans h
    rw [read_of_readRequestLine hline] at hr
    cases hlines : HeaderBlock.readLines HeaderBlock.lineCountLimit t with
    | error e =>
      cases e with
      | error f => exact absurd hlines (HeaderBlock.readLines_ne_error ht f)
      | ok excess => simp [HeaderBlock.read, hlines, Except.map] at hr
    | ok block =>
      refine ⟨line, t, block.1, block.2, hline, hlines, ?_⟩
      cases hc : Mime.checkTypes (Text.ofLatin1 block.1.flatten) with
      | error f =>
        simp only [HeaderBlock.read, hlines, HeaderBlock.accept, hc, Except.map, Except.error.injEq,
          Stop.fail.injEq] at hr
        rw [hr]
      | ok found => simp [HeaderBlock.read, hlines, HeaderBlock.accept, hc, Except.map] at hr

end Head
end Http

namespace Connection
variable {site : Site} {date : Text}

/-- What is read on a connection: the heads that are accepted, each with the source behind it, and
the place at which a head is not accepted, with the reason. -/
structure Course where
  requests : List (Http.Head × Source)
  stop : Option (Source × Http.Stop)

/-- The course of a connection. -/
def course (site : Site) (s : Source) : Course :=
  match Http.Head.read s with
  | .error stop => ⟨[], some (s, stop)⟩
  | .ok found =>
    match _h : (exchange site s).next with
    | none => ⟨[found], none⟩
    | some t => ⟨found :: (course site t).requests, (course site t).stop⟩
termination_by s.unread.length
decreasing_by all_goals exact length_next_exchange_lt _h

theorem course_of_error {s : Source} {stop : Http.Stop} (h : Http.Head.read s = .error stop) :
    course site s = ⟨[], some (s, stop)⟩ := by
  rw [course, h]

theorem course_of_next_none {s : Source} {found : Http.Head × Source}
    (h : Http.Head.read s = .ok found) (hn : (exchange site s).next = none) :
    course site s = ⟨[found], none⟩ := by
  rw [course, h]
  simp only
  split <;> simp_all

theorem course_of_next_some {s t : Source} {found : Http.Head × Source}
    (h : Http.Head.read s = .ok found) (hn : (exchange site s).next = some t) :
    course site s = ⟨found :: (course site t).requests, (course site t).stop⟩ := by
  rw [course, h]
  simp only
  split <;> simp_all

/-- The entry about a connection that ends by a fault which nobody expects. -/
def unexpectedEntry (peer : Peer) (fault : Fault) : Log.Entry :=
  ⟨.server, .error, .text unexpectedEvent, [("client_address".toList, peer.address)], some fault⟩

theorem farewell_of_isNews {fault : Fault} (h : fault.IsNews) (peer : Peer) :
    farewell peer fault = [.log (unexpectedEntry peer fault)] := by
  simp only [farewell, h.isInterrupt, h.isSilent, Bool.false_eq_true, if_false]
  rfl

/-- What comes of a head that is not accepted: nothing, a page, or an entry in the log. -/
def ending (site : Site) (date : Text) : Option (Source × Http.Stop) → Record
  | none => {}
  | some (_, .quiet) => {}
  | some (_, .refuse page _) => { sent := (page.writes date).flatten }
  | some (_, .fail fault) => { logs := [unexpectedEntry site.peer fault] }

/-- One outcome of an accepted request. There is one response to it, behind the word to go on if the
peer waits for that; a handler is called at most once, and exactly if the request has been read
without a fault and one of the routes is for it; and there is an entry in the log exactly if the
request is answered by an error of the server's own. -/
structure IsOutcome (site : Site) (date : Text) (head : Http.Head) (record : Record) : Prop where
  sent : record.sent = interimBytes head ++ responseBytes date head
    (Http.ResponseHead.closingAfter (endsAfter head) (verdict site head).response.headers)
    (verdict site head).response
  calls_le : record.calls.length ≤ 1
  calls_iff : record.calls ≠ [] ↔
    ∃ n path, Http.ContentLength.ofHeaders head.headers = .ok n ∧
      Http.Target.path head.line.target = .ok path ∧
      ∃ route ∈ Ordered.keys site.routes, route.covers head.line.method path = true
  logs_length : record.logs.length = if (verdict site head).isOwnError then 1 else 0
  status : (verdict site head).isOwnError = true →
    (verdict site head).response.status = 404 ∨ (verdict site head).response.status = 500
  expected : ∀ entry ∈ record.logs, entry.level = .error ∧ entry.event ≠ .text unexpectedEvent
  uninterrupted : record.interruption = none

theorem isOutcome_verdict (site : Site) (date : Text) (head : Http.Head) :
    IsOutcome site date head
      (({ sent := interimBytes head } : Record) ++ (verdict site head).outcome date head) where
  sent := rfl
  calls_le := (verdict site head).length_calls_le
  calls_iff := calls_verdict_iff site head
  logs_length := (verdict site head).length_entries head
  status := Verdict.status_of_isOwnError
  expected _ h := Verdict.event_ne_of_mem_entries h
  uninterrupted := rfl

theorem perform_writes (peer : Peer) (handling : Option Fault) (pieces : List Bytes) :
    Delivery.perform peer Sink.unlimited (pieces.map fun bytes => .write bytes handling) =
      { sent := pieces.flatten } := by
  induction pieces with
  | nil => rfl
  | cons bytes pieces ih =>
    simp only [List.map_cons, Delivery.perform, Sink.takes_unlimited, Sink.after_unlimited, if_true,
      ih, Record.addSent, List.flatten_cons]

theorem serve_of_error (hd : site.now.httpDate = .ok date) {s : Source} (h : s.failure = none)
    {stop : Http.Stop} (hr : Http.Head.read s = .error stop) :
    serve site s Sink.unlimited = ending site date (some (s, stop)) := by
  have hexchange : exchange site s = ⟨refusal site stop, none⟩ := by simp only [exchange, hr]
  rw [serve_of_next_none (by rw [hexchange]), hexchange, outcome]
  cases stop with
  | quiet => rfl
  | refuse page handling =>
    simp only [refusal, refuse, hd]
    exact perform_writes _ _ _
  | fail fault =>
    obtain ⟨line, t, lines, u, -, -, hc⟩ := Http.Head.hasBadType_of_read h hr
    rw [refusal, farewell_of_isNews (Mime.failsLoudly_checkTypes _ fault hc)]
    rfl

/-- The next request is read from a source that ends or fails as the source does. -/
theorem failure_next_exchange {s u : Source} (hn : (exchange site s).next = some u) :
    u.failure = s.failure :=
  (isRest_next_exchange hn).failure_eq

/-- One outcome for each request. On a connection that simply ends, and not inside a body, the
accepted requests have one outcome each, and what comes of the connection is these in order,
followed by what comes of the head that is not accepted, if there is one. That is an entry in the
log only if the media types of that head cannot be read. -/
theorem serve_course (hs : site.IsTellable date) {s : Source} (hended : s.failure = none)
    (hbody : ∀ request ∈ (course site s).requests, HasWholeBody request.1 request.2) :
    (∃ records, List.Forall₂ (fun request => IsOutcome site date request.1)
        (course site s).requests records ∧
      serve site s Sink.unlimited =
        records.foldr (· ++ ·) (ending site date (course site s).stop)) ∧
    ∀ t fault, (course site s).stop = some (t, .fail fault) → Http.Head.HasBadType t fault := by
  induction hlen : s.unread.length using Nat.strongRecOn generalizing s with
  | ind n ih =>
    cases hr : Http.Head.read s with
    | error stop =>
      rw [course_of_error hr]
      refine ⟨⟨[], .nil, serve_of_error hs.told hended hr⟩, ?_⟩
      intro t fault he
      obtain ⟨rfl, rfl⟩ := Prod.mk.inj (Option.some.inj he)
      exact Http.Head.hasBadType_of_read hended hr
    | ok found =>
      obtain ⟨head, t⟩ := found
      have hfirst : (head, t) ∈ (course site s).requests := by
        cases hn : (exchange site s).next with
        | none => simp [course_of_next_none hr hn]
        | some u => simp [course_of_next_some hr hn]
      have hwhole : HasWholeBody head t := hbody _ hfirst
      have houtcome : outcome site (exchange site s) =
          ({ sent := interimBytes head } : Record) ++ (verdict site head).outcome date head := by
        rw [outcome_exchange hr, outcome_answer hs hwhole]
      cases hn : (exchange site s).next with
      | none =>
        rw [course_of_next_none hr hn]
        refine ⟨⟨[_], .cons (isOutcome_verdict site date head) .nil, ?_⟩, by simp⟩
        rw [serve_of_next_none hn, houtcome]
        exact (Record.append_empty _).symm
      | some u =>
        rw [course_of_next_some hr hn] at hbody ⊢
        have hlt := length_next_exchange_lt hn
        obtain ⟨⟨records, hall, hserve⟩, hstop⟩ := ih u.unread.length (hlen ▸ hlt)
          ((failure_next_exchange hn).trans hended)
          (fun request hm => hbody request (List.mem_cons_of_mem _ hm)) rfl
        refine ⟨⟨_ :: records, .cons (isOutcome_verdict site date head) hall, ?_⟩, hstop⟩
        rw [serve_of_next_some hn, houtcome, hserve]
        rfl

/-- A connection with one request, which has a body. -/
theorem serve_course_greeting :
    (course Greeting.site postSource).requests = [(postHead, ⟨[71, 69, 84], none⟩)] ∧
      ∃ record, IsOutcome Greeting.site "Thu, 01 Jan 1970 00:00:00 GMT".toList postHead record ∧
        serve Greeting.site postSource Sink.unlimited = record := by
  have hthree : Http.ContentLength.Announces postHead.headers 3 :=
    .told rfl isNumeral_three (by decide)
  have hread : Http.Head.read postSource = .ok (postHead, ⟨[71, 69, 84], none⟩) :=
    isWhole_postBytes.read_append [71, 69, 84] none
  have hbody : [(71 : UInt8), 69, 84].length = 3 := rfl
  have hexchange := exchange_of_whole Greeting.site isWhole_postBytes hthree hbody [] none
  rw [List.append_nil] at hexchange
  have hnext : (exchange Greeting.site postSource).next = some ⟨[], none⟩ := by
    rw [postSource, hexchange]
    rfl
  have hend : Http.Head.read ⟨[], none⟩ = .error .quiet := rfl
  have hcourse : course Greeting.site postSource =
      ⟨[(postHead, ⟨[71, 69, 84], none⟩)], some (⟨[], none⟩, .quiet)⟩ := by
    rw [course_of_next_some hread hnext, course_of_error hend]
  have hwhole : ∀ request ∈ (course Greeting.site postSource).requests,
      HasWholeBody request.1 request.2 := by
    rw [hcourse]
    intro request hm n hn
    obtain rfl := List.mem_singleton.1 hm
    rw [Http.ContentLength.ofHeaders_of_announces hthree] at hn
    exact Nat.le_of_eq (Except.ok.inj hn).symm
  obtain ⟨⟨records, hall, hserve⟩, -⟩ := serve_course Greeting.site_isRegular.isTellable rfl hwhole
  rw [hcourse] at hall hserve
  refine ⟨by rw [hcourse], ?_⟩
  cases hall with
  | cons hrecord hnil =>
    cases hnil
    exact ⟨_, hrecord, hserve.trans (Record.append_empty _)⟩

/-- A head with a media type that cannot be read: the number of one segment is missing. -/
def typedBytes : Bytes :=
  "GET / HTTP/1.1\r\nContent-Type: multipart/mixed; a*=x; a*1=y\r\n\r\n".toList.map Text.toByte

def bareBytes : Bytes := "HEAD / HTTP/0.9\r\n\r\n".toList.map Text.toByte

def bareHead : Http.Head := ⟨⟨"HEAD".toList, "/".toList, Http.RequestLine.bareVersion, false⟩, []⟩

def getHead : Http.Head := ⟨⟨"GET".toList, "/".toList, Http.protocol, true⟩, []⟩

def lateSite : Site := { Greeting.site with now := ⟨253402300800000000⟩ }

def siteWith (handler : Handler) : Site :=
  { Greeting.site with routes := RouteTable.ofEntries [(Greeting.route, handler)] }

def haltingHandler : Handler := .failing "stop".toList Fault.interrupted

/-- A handler whose failure has a text that cannot be sent. -/
def strayHandler : Handler :=
  .failing "stray".toList { kind := .invalidValue, text := .ok [.surrogate ⟨0, by decide⟩] }

def longHandler : Handler where
  name := "long".toList
  handle _ := { result := .ok { status := Text.firstUnwritten } }

theorem serve_of_closed {head : Http.Head} {s t : Source} (hr : Http.Head.read s = .ok (head, t))
    (hl : Http.ContentLength.ofHeaders head.headers = .ok 0)
    (hclosed : (alone site head 0).staysOpen = false) :
    serve site s Sink.unlimited = outcome site (alone site head 0) := by
  rw [serve_of_exchange (exchange_of_body hr hl (Nat.zero_le _)), hclosed]
  exact Record.append_empty _

/-- Not every connection is a row of outcomes. An entry that nobody expects is logged about a head
with a bad media type; a request in the version without heads gets no body either if it asks for the
head alone; and an accepted request is not answered if the date cannot be told, if its handler ends
the run, or if the text of the handler's failure or the status of its response cannot be written. -/
theorem not_one_outcome :
    Greeting.site.IsTellable "Thu, 01 Jan 1970 00:00:00 GMT".toList ∧
      ((course Greeting.site ⟨typedBytes, none⟩).requests = [] ∧
        (serve Greeting.site ⟨typedBytes, none⟩ Sink.unlimited).logs.map Log.Entry.event =
          [.text unexpectedEvent]) ∧
      (Http.Head.read ⟨bareBytes, none⟩ = .ok (bareHead, ⟨[], none⟩) ∧
        (verdict Greeting.site bareHead).response.body ≠ [] ∧
        (serve Greeting.site ⟨bareBytes, none⟩ Sink.unlimited).sent = []) ∧
      (Http.Head.read ⟨getBytes, none⟩ = .ok (getHead, ⟨[], none⟩) ∧
        ∀ site ∈ [lateSite, siteWith haltingHandler, siteWith strayHandler, siteWith longHandler],
          (serve site ⟨getBytes, none⟩ Sink.unlimited).sent = []) ∧
      ∀ handler ∈ [strayHandler, longHandler],
        ((serve (siteWith handler) ⟨getBytes, none⟩ Sink.unlimited).logs.map
          (·.event.displayPoints)).getLast? = some (CodePoint.ofText unexpectedEvent) := by
  have htyped : Http.Head.read ⟨typedBytes, none⟩ =
      .error (.fail (Fault.unordered "<" "int".toList "NoneType".toList)) := by rfl
  have hbare : Http.Head.read ⟨bareBytes, none⟩ = .ok (bareHead, ⟨[], none⟩) := by rfl
  have hget : Http.Head.read ⟨getBytes, none⟩ = .ok (getHead, ⟨[], none⟩) := by rfl
  refine ⟨Greeting.site_isRegular.isTellable, ⟨?_, ?_⟩, ⟨hbare, ?_, ?_⟩, ⟨hget, ?_⟩, ?_⟩
  · rw [course_of_error htyped]
  · rw [serve_of_error Instant.httpDate_zero rfl htyped]
    rfl
  · decide +kernel
  · rw [serve_of_closed hbare rfl (by decide +kernel)]
    decide +kernel
  · have hclosed : ∀ site ∈ [lateSite, siteWith haltingHandler, siteWith strayHandler,
        siteWith longHandler], (alone site getHead 0).staysOpen = false := by decide +kernel
    have hnone : ∀ site ∈ [lateSite, siteWith haltingHandler, siteWith strayHandler,
        siteWith longHandler], (outcome site (alone site getHead 0)).sent = [] := by decide +kernel
    intro site hsite
    rw [serve_of_closed hget rfl (hclosed site hsite)]
    exact hnone site hsite
  · have hclosed : ∀ handler ∈ [strayHandler, longHandler],
        (alone (siteWith handler) getHead 0).staysOpen = false := by decide +kernel
    have hlast : ∀ handler ∈ [strayHandler, longHandler],
        ((outcome (siteWith handler) (alone (siteWith handler) getHead 0)).logs.map
          (·.event.displayPoints)).getLast? = some (CodePoint.ofText unexpectedEvent) := by
      decide +kernel
    intro handler hhandler
    rw [serve_of_closed hget rfl (hclosed handler hhandler)]
    exact hlast handler hhandler

end Connection
end GreetingServer
