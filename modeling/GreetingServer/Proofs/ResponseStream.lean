import GreetingServer.Proofs.Answer
import GreetingServer.Proofs.ResponseReader

/-! The responses on a connection, as its peer reads them. If every request on it is answered as one
and has responses with heads, then the peer finds exactly the responses that were made, one after
the other and with nothing between them or behind the last. -/
namespace GreetingServer

/-- The responses of the handlers have fields that come through as they are. -/
def Site.IsLegible (site : Site) : Prop := site.EveryField Http.IsLegibleField

namespace Http
namespace WireResponse

theorem read?_nil (headOnly : Bool) : read? headOnly [] = none := rfl

theorem readAll?_nil (headOnly : List Bool) : readAll? headOnly [] = some [] := by
  cases headOnly <;> rfl

theorem readAll?_of_read? {headOnly : Bool} {more : List Bool} {bytes behind : Bytes}
    {w : WireResponse} (h : read? headOnly bytes = some (w, behind)) :
    readAll? (headOnly :: more) bytes = (readAll? more behind).map (w :: ·) := by
  cases bytes with
  | nil =>
    rw [read?_nil] at h
    cases h
  | cons b bytes => simp only [readAll?, h]

end WireResponse
end Http

namespace Connection
open Http (WireResponse)
variable {site : Site} {head : Http.Head} {stop : Http.Stop} {s t : Source}

/-- The response that is sent to a request, if there is one. There is none if a part of its body is
lacking, if its handler fails without a text or ends the run, if the status has more digits than can
be written, or if the date cannot be told. -/
def response? (site : Site) (request : Http.Head × Source) : Option Http.Response :=
  match site.now.httpDate with
  | .error _ => none
  | .ok _ =>
    if HasWholeBody request.1 request.2 ∧ (verdict site request.1).IsAnswered ∧
        (verdict site request.1).response.IsNumbered then
      some (verdict site request.1).response
    else none

/-- The responses on a connection, each with whether its request asked for the head alone. -/
def answered (site : Site) (s : Source) : List (Bool × Http.Response) :=
  (course site s).requests.filterMap fun request =>
    (response? site request).map fun response => (request.1.line.isHead, response)

/-- The connection does not fail, and all that is read on it are requests which are answered behind
their heads and wait for no word to go on. -/
structure IsRouted (site : Site) (s : Source) : Prop where
  ended : s.failure = none
  headed : ∀ request ∈ (course site s).requests, request.1.line.isBare = false
  patient : ∀ request ∈ (course site s).requests, request.1.expectsContinue = false
  unrefused : ∀ t page handling, (course site s).stop ≠ some (t, .refuse page handling)

theorem response?_eq_some {request : Http.Head × Source} {response : Http.Response}
    (h : response? site request = some response) :
    ∃ date, site.now.httpDate = .ok date ∧ HasWholeBody request.1 request.2 ∧
      (verdict site request.1).IsAnswered ∧ response.IsNumbered ∧
      response = (verdict site request.1).response := by
  unfold response? at h
  cases hd : site.now.httpDate with
  | error fault => simp [hd] at h
  | ok date =>
    rw [hd] at h
    simp only at h
    split at h
    · rename_i hc
      obtain rfl := Option.some.inj h
      exact ⟨date, rfl, hc.1, hc.2.1, hc.2.2, rfl⟩
    · cases h

theorem sent_answer_of_response? (hs : site.IsLegible) {response : Http.Response}
    (h : response? site (head, t) = some response) :
    ∃ date closing, site.now.httpDate = .ok date ∧
      (outcome site (answer site head t)).sent = responseBytes date head closing response := by
  obtain ⟨date, hd, hbody, hanswered, hnumbered, rfl⟩ := response?_eq_some h
  obtain ⟨u, hanswer⟩ := answer_eq_behind hbody hanswered
  have hwritable : (verdict site head).response.IsWritable :=
    ⟨hnumbered, fun field hf => (forall_mem_headers_verdict hs field hf).isLatin1Field⟩
  have hsent := congrArg Record.sent
    (outcome_respond hd hwritable head (endsAfter head) (verdict site head).handling u).1
  rw [outcome] at hsent
  refine ⟨date, Http.ResponseHead.closingAfter (endsAfter head)
    (verdict site head).response.headers, hd, ?_⟩
  rw [hanswer, outcome, Exchange.acts_behind,
    Delivery.sent_perform_append _ fun _ => Verdict.isWrite_of_mem_before]
  exact hsent

theorem answer_of_headBytes_error {fault : Fault} {u : Source}
    (hanswer : answer site head t =
      (respond site head (endsAfter head) (verdict site head).handling
        (verdict site head).response u).behind ((verdict site head).before head))
    (h : headBytes site head (Http.ResponseHead.closingAfter (endsAfter head)
      (verdict site head).response.headers) (verdict site head).response = .error fault) :
    (answer site head t).next = none ∧ (outcome site (answer site head t)).sent = [] := by
  rw [hanswer, respond_of_error h]
  refine ⟨rfl, ?_⟩
  rw [outcome, Exchange.acts_behind,
    Delivery.sent_perform_append _ fun _ => Verdict.isWrite_of_mem_before]
  exact sent_perform_farewell _ _

theorem answer_of_response?_none (ht : t.failure = none) (hbare : head.line.isBare = false)
    (hs : site.IsLegible) (h : response? site (head, t) = none) :
    (answer site head t).next = none ∧ (outcome site (answer site head t)).sent = [] := by
  by_cases hbody : HasWholeBody head t
  · by_cases hanswered : (verdict site head).IsAnswered
    · obtain ⟨u, hanswer⟩ := answer_eq_behind hbody hanswered
      by_cases hnumbered : (verdict site head).response.IsNumbered
      · cases hd : site.now.httpDate with
        | ok date => simp [response?, hd, hbody, hanswered, hnumbered] at h
        | error fault =>
          have hwritable : (verdict site head).response.IsWritable :=
            ⟨hnumbered, fun field hf => (forall_mem_headers_verdict hs field hf).isLatin1Field⟩
          exact answer_of_headBytes_error hanswer (headBytes_of_error hd _ hwritable)
      · obtain ⟨fault, hf⟩ := exists_headBytes_error site hbare
          (Http.ResponseHead.closingAfter (endsAfter head) (verdict site head).response.headers)
          hnumbered
        exact answer_of_headBytes_error hanswer hf
    · exact sent_answer_of_not_isAnswered hbody hanswered
  · rw [answer_of_lacking ht hbody]
    exact ⟨rfl, rfl⟩

theorem sent_of_error (site : Site) (hu : ∀ page handling, stop ≠ .refuse page handling)
    (hr : Http.Head.read s = .error stop) :
    (exchange site s).next = none ∧ (outcome site (exchange site s)).sent = [] := by
  have hexchange : exchange site s = ⟨refusal site stop, none⟩ := by simp only [exchange, hr]
  rw [hexchange]
  refine ⟨rfl, ?_⟩
  cases stop with
  | quiet => rfl
  | refuse page handling => exact absurd rfl (hu page handling)
  | fail fault => exact sent_perform_farewell _ _

/-- The word to go on is not sent to a peer that does not wait for it. -/
theorem sent_exchange_of_patient (site : Site) (hr : Http.Head.read s = .ok (head, t))
    (hp : head.expectsContinue = false) :
    (outcome site (exchange site s)).sent = (outcome site (answer site head t)).sent := by
  have hinterim : interimBytes head = [] := by rw [interimBytes, hp]; rfl
  rw [outcome_exchange hr, hinterim]
  rfl

/-- The requests behind the first one are answered on a connection of their own. -/
theorem IsRouted.behind {u : Source} (h : IsRouted site s) (hr : Http.Head.read s = .ok (head, t))
    (hn : (exchange site s).next = some u) : IsRouted site u := by
  have hcourse := course_of_next_some hr hn
  exact
    { ended := (failure_next_exchange hn).trans h.ended
      headed := fun request hm =>
        h.headed request (by rw [hcourse]; exact List.mem_cons_of_mem _ hm)
      patient := fun request hm =>
        h.patient request (by rw [hcourse]; exact List.mem_cons_of_mem _ hm)
      unrefused := fun v page handling => by
        have hstop := h.unrefused v page handling
        rw [hcourse] at hstop
        exact hstop }

/-- Bytes that a peer reads as responses. -/
def ReadsAs (headOnly : List Bool) (bytes : Bytes) (made : List (Bool × Http.Response)) : Prop :=
  ∃ wire, WireResponse.readAll? headOnly bytes = some wire ∧
    List.Forall₂ (fun made read => read.Shows made.1 made.2) made wire

theorem readsAs_nil (headOnly : List Bool) : ReadsAs headOnly [] [] :=
  ⟨[], WireResponse.readAll?_nil headOnly, .nil⟩

/-- The response to the first request is read before those to the others. -/
theorem ReadsAs.cons (hs : site.IsLegible) (hbare : head.line.isBare = false)
    {response : Http.Response} (h : response? site (head, t) = some response)
    {headOnly : List Bool} {rest : Bytes} {made : List (Bool × Http.Response)}
    (hrest : ReadsAs headOnly rest made) :
    ReadsAs (head.line.isHead :: headOnly) ((outcome site (answer site head t)).sent ++ rest)
      ((head.line.isHead, response) :: made) := by
  obtain ⟨date, closing, hd, hsent⟩ := sent_answer_of_response? hs h
  have hlegible : ∀ field ∈ response.headers, Http.IsLegibleField field := by
    obtain ⟨-, -, -, -, -, rfl⟩ := response?_eq_some h
    exact forall_mem_headers_verdict hs
  obtain ⟨wire, hread, hshows⟩ := hrest
  have hfirst := read?_responseBytes (Instant.all_isGraphic_httpDate hd) hbare closing hlegible rest
  refine ⟨WireResponse.ofResponse date closing head.line.isHead response :: wire, ?_,
    .cons (WireResponse.shows_ofResponse hlegible _) hshows⟩
  rw [hsent, WireResponse.readAll?_of_read? hfirst, hread, Option.map_some]

theorem mem_course_of_read (site : Site) (hr : Http.Head.read s = .ok (head, t)) :
    (head, t) ∈ (course site s).requests := by
  cases hn : (exchange site s).next with
  | none => simp [course_of_next_none hr hn]
  | some u => simp [course_of_next_some hr hn]

theorem answered_of_next_none (hr : Http.Head.read s = .ok (head, t))
    (hn : (exchange site s).next = none) :
    answered site s =
      ((response? site (head, t)).map fun response => (head.line.isHead, response)).toList := by
  rw [answered, course_of_next_none hr hn]
  cases hresponse : response? site (head, t) <;> simp [hresponse]

theorem answered_of_next_some {u : Source} (hr : Http.Head.read s = .ok (head, t))
    (hn : (exchange site s).next = some u) {response : Http.Response}
    (h : response? site (head, t) = some response) :
    answered site s = (head.line.isHead, response) :: answered site u := by
  simp [answered, course_of_next_some hr hn, h]

theorem exists_response?_of_next {u : Source} (hs : site.IsLegible) (ht : t.failure = none)
    (hbare : head.line.isBare = false) (hr : Http.Head.read s = .ok (head, t)) (hn : (exchange site s).next = some u) :
    ∃ response, response? site (head, t) = some response := by
  cases hresponse : response? site (head, t) with
  | some response => exact ⟨response, rfl⟩
  | none =>
    have hended := (answer_of_response?_none ht hbare hs hresponse).1
    rw [← next_exchange_of_read site hr, hn] at hended
    cases hended

theorem readsAs_last (hs : site.IsLegible) (h : IsRouted site s)
    (hr : Http.Head.read s = .ok (head, t)) (hn : (exchange site s).next = none) :
    ReadsAs [head.line.isHead] (outcome site (exchange site s)).sent (answered site s) := by
  have hm := mem_course_of_read site hr
  rw [sent_exchange_of_patient site hr (h.patient _ hm), answered_of_next_none hr hn]
  cases hresponse : response? site (head, t) with
  | none =>
    have hlast := (Http.Head.failure_of_read hr).trans h.ended
    rw [(answer_of_response?_none hlast (h.headed _ hm) hs hresponse).2]
    exact readsAs_nil _
  | some response =>
    have hone := ReadsAs.cons hs (h.headed _ hm) hresponse (readsAs_nil [])
    rw [List.append_nil] at hone
    exact hone

/-- The responses are read back. A peer that reads the bytes sent on a connection, and knows which
of its requests asked for the head alone, finds the responses to them, each as it was made, and
nothing else. -/
theorem readsAs_answered (hs : site.IsLegible) (h : IsRouted site s) :
    ReadsAs ((course site s).requests.map fun request => request.1.line.isHead)
      (serve site s Sink.unlimited).sent (answered site s) := by
  -- On what is unread, which gets less with every exchange that goes on.
  induction hlen : s.unread.length using Nat.strongRecOn generalizing s with
  | ind n ih =>
    cases hr : Http.Head.read s with
    | error stop =>
      have hcourse : course site s = ⟨[], some (s, stop)⟩ := course_of_error hr
      have hstop : ∀ page handling, stop ≠ .refuse page handling := by
        intro page handling he
        exact h.unrefused s page handling (by rw [hcourse, he])
      obtain ⟨hnext, hsent⟩ := sent_of_error site hstop hr
      rw [answered, hcourse, serve_of_next_none hnext, hsent]
      exact readsAs_nil _
    | ok found =>
      obtain ⟨head, t⟩ := found
      cases hn : (exchange site s).next with
      | none =>
        rw [course_of_next_none hr hn, serve_of_next_none hn]
        exact readsAs_last hs h hr hn
      | some u =>
        have hm := mem_course_of_read site hr
        obtain ⟨response, hresponse⟩ :=
          exists_response?_of_next hs ((Http.Head.failure_of_read hr).trans h.ended)
            (h.headed _ hm) hr hn
        have hlater := ih u.unread.length (hlen ▸ length_next_exchange_lt hn)
          (h.behind hr hn) rfl
        have hall := ReadsAs.cons hs (h.headed _ hm) hresponse hlater
        rw [← sent_exchange_of_patient site hr (h.patient _ hm)] at hall
        rw [course_of_next_some hr hn, serve_of_next_some hn,
          answered_of_next_some hr hn hresponse]
        exact hall

/-- A response with a name that comes twice, and with a body that looks like another response. -/
def notedResponse : Http.Response where
  status := 299
  headers := [("X-Note".toList, "a".toList), ("Vary".toList, []), ("x-note".toList, "b:c".toList)]
  body := "\r\n\r\nHTTP/1.1 200 OK\r\nContent-Length: 0\r\n\r\n".toList.map Text.toByte

def notedSite : Site :=
  { Greeting.site with
    routes := RouteTable.ofEntries
      [(Greeting.route, Handler.constant "notes".toList notedResponse)] }

def pairBytes : Bytes := "HEAD / HTTP/1.1\r\n\r\n".toList.map Text.toByte ++ getBytes

def headOnlyHead : Http.Head := ⟨⟨"HEAD".toList, "/".toList, Http.protocol, true⟩, []⟩

theorem isLegible_notedSite : notedSite.IsLegible := by
  have hfields : ∀ field ∈ notedResponse.headers, Http.IsLegibleField field := by
    intro field hf
    simp only [notedResponse, List.mem_cons, List.not_mem_nil, or_false] at hf
    rcases hf with rfl | rfl | rfl <;> decide
  intro entry hentry request _ response hr
  obtain rfl := List.mem_singleton.1 hentry
  obtain rfl := Except.ok.inj hr
  exact hfields

theorem course_pairBytes : course notedSite ⟨pairBytes, none⟩ =
    ⟨[(headOnlyHead, ⟨getBytes, none⟩), (getHead, ⟨[], none⟩)], some (⟨[], none⟩, .quiet)⟩ := by
  have hfirst : Http.Head.read ⟨pairBytes, none⟩ = .ok (headOnlyHead, ⟨getBytes, none⟩) := by rfl
  have hsecond : Http.Head.read ⟨getBytes, none⟩ = .ok (getHead, ⟨[], none⟩) := by rfl
  have hend : Http.Head.read ⟨[], none⟩ = .error .quiet := rfl
  have hopen : ∀ head, head = headOnlyHead ∨ head = getHead →
      (alone notedSite head 0).staysOpen = true := by
    rintro head (rfl | rfl) <;> decide +kernel
  have hnext : ∀ {s t : Source} {head : Http.Head}, Http.Head.read s = .ok (head, t) →
      head = headOnlyHead ∨ head = getHead → (exchange notedSite s).next = some t := by
    intro s t head hr hhead
    have hl : Http.ContentLength.ofHeaders head.headers = .ok 0 := by
      rcases hhead with rfl | rfl <;> rfl
    rw [exchange_of_body hr hl (Nat.zero_le _), Exchange.next_onward, hopen head hhead, if_pos rfl,
      Source.skip_zero]
  rw [course_of_next_some hfirst (hnext hfirst (Or.inl rfl)),
    course_of_next_some hsecond (hnext hsecond (Or.inr rfl)), course_of_error hend]

/-- Both responses are read back, of the first one the head alone. -/
theorem readsAs_notedResponse :
    notedSite.IsLegible ∧ IsRouted notedSite ⟨pairBytes, none⟩ ∧
      ReadsAs [true, false] (serve notedSite ⟨pairBytes, none⟩ Sink.unlimited).sent
        [(true, notedResponse), (false, notedResponse)] := by
  have hrouted : IsRouted notedSite ⟨pairBytes, none⟩ := by
    refine ⟨rfl, ?_, ?_, ?_⟩ <;> rw [course_pairBytes]
    · decide
    · decide
    · simp
  have hreads := readsAs_answered isLegible_notedSite hrouted
  have hanswered : answered notedSite ⟨pairBytes, none⟩ =
      [(true, notedResponse), (false, notedResponse)] := by
    rw [answered, course_pairBytes]
    rfl
  rw [hanswered, course_pairBytes] at hreads
  exact ⟨isLegible_notedSite, hrouted, hreads⟩

end Connection
end GreetingServer
