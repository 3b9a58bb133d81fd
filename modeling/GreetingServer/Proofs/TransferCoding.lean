import GreetingServer.Proofs.Framing
import GreetingServer.Proofs.Routing

/-! Bodies in transfer coding. Such a body cannot be skipped. If no length is announced beside it,
the connection ends with the request; if one is, then the body is taken to be as long as announced.
-/
namespace GreetingServer
namespace Connection
open Http.ContentLength (fieldName Announces IsMalformed)
variable {site : Site} {head : Http.Head} {closing : Bool} {fault : Fault}

/-- The response is what a handler answers to the request. -/
def IsHandlerResponse (site : Site) (head : Http.Head) (response : Http.Response) : Prop :=
  ∃ path handler, Http.Target.path head.line.target = .ok path ∧
    RouteTable.find? site.routes head.line.method path = some handler ∧
    (handler.handle (requestOf site head path)).result = .ok response

/-- The last word of the response's own fields about the connection is that it goes on. -/
def KeepsAlive (response : Http.Response) : Prop :=
  Http.ResponseHead.closingAfter true response.headers = false

/-- The connection ends with its first request, and what is behind the head of that request has no
part in what is done. -/
def EndsWithHead (site : Site) (head : Http.Head) (s : Source) : Prop :=
  (exchange site s).next = none ∧
    plan site s = interim head ++ (answer site head ⟨[], none⟩).acts

theorem next_respond_of_closing {handling : Option Fault} {response : Http.Response}
    (h : Http.ResponseHead.closingAfter closing response.headers = true) (s : Source) :
    (respond site head closing handling response s).next = none := by
  cases hb : headBytes site head (Http.ResponseHead.closingAfter closing response.headers)
      response with
  | error fault => rw [respond_of_error hb]
  | ok bytes =>
    rw [respond_of_ok hb, h]
    rfl

theorem next_respondWith_of_closing (status : Int) (message : List CodePoint) (s : Source) :
    (respondWith site head true fault status message s).next = none := by
  unfold respondWith
  split
  · rfl
  · exact next_respond_of_closing rfl s

theorem next_fail_of_closing (s : Source) : (fail site head true fault s).next = none := by
  unfold fail
  split
  · rfl
  · split
    · rfl
    · exact next_respondWith_of_closing 500 _ s

theorem next_rejectBadRequest_eq_none (s : Source) :
    (rejectBadRequest site head fault s).next = none := by
  unfold rejectBadRequest
  split
  · rfl
  · exact next_respondWith_of_closing 400 _ s

/-- A request that closes the connection does so unless the handler's response says otherwise. -/
theorem next_dispatch_of_closing
    (h : ∀ response, IsHandlerResponse site head response → ¬KeepsAlive response) (s : Source) :
    (dispatch site head true s).next = none := by
  cases hp : Http.Target.path head.line.target with
  | error fault =>
    simp only [dispatch, hp]
    exact next_fail_of_closing s
  | ok path =>
    cases hf : RouteTable.find? site.routes head.line.method path with
    | none =>
      simp only [dispatch, hp, hf, notFound]
      exact next_respond_of_closing rfl s
    | some handler =>
      simp only [dispatch, hp, hf, handle]
      cases hr : (handler.handle (requestOf site head path)).result with
      | error fault => exact next_fail_of_closing s
      | ok response =>
        have hlast : Http.ResponseHead.closingAfter true response.headers = true := by
          simpa [KeepsAlive] using h response ⟨path, handler, hp, hf, hr⟩
        exact next_respond_of_closing hlast s

theorem endsWithHead_of_next {s t : Source} (hr : Http.Head.read s = .ok (head, t))
    (hn : (answer site head t).next = none)
    (ha : (answer site head t).acts = (answer site head ⟨[], none⟩).acts) :
    EndsWithHead site head s := by
  have hnext := (next_exchange_of_read site hr).trans hn
  refine ⟨hnext, ?_⟩
  rw [plan_of_next_none hnext, exchange_of_read hr, ha]

theorem endsWithHead_of_isMalformed {s t : Source} (hr : Http.Head.read s = .ok (head, t))
    (hm : IsMalformed head.headers) : EndsWithHead site head s := by
  obtain ⟨value, -, hv⟩ := Http.ContentLength.ofHeaders_of_isMalformed hm
  have hanswer : ∀ u, answer site head u =
      rejectBadRequest site head (Http.ContentLength.malformed (Text.strip value)) u := by
    intro u
    simp only [answer, hv]
    rfl
  apply endsWithHead_of_next hr
  · rw [hanswer]
    exact next_rejectBadRequest_eq_none t
  · rw [hanswer, hanswer, ← rejectBadRequest_onward site head _ ⟨[], none⟩ t,
      Exchange.acts_onward]

theorem endsWithHead_of_zero {s t : Source} (hr : Http.Head.read s = .ok (head, t))
    (hc : head.hasTransferCoding = true) (hz : Announces head.headers 0)
    (h : ∀ response, IsHandlerResponse site head response → ¬KeepsAlive response) :
    EndsWithHead site head s := by
  have hclosing : closingWith head 0 = true := by simp [closingWith, hc]
  have hanswer : ∀ u, answer site head u = dispatch site head true u := by
    intro u
    rw [answer_of_length (Http.ContentLength.ofHeaders_of_announces hz),
      answerAfterBody_of_le (Nat.zero_le _), hclosing, Source.skip_zero]
  apply endsWithHead_of_next hr
  · rw [hanswer]
    exact next_dispatch_of_closing h t
  · rw [hanswer, hanswer, ← dispatch_onward site head true ⟨[], none⟩ t, Exchange.acts_onward]

/-- With a length, the next request is looked for right behind so many bytes. -/
theorem next_answer_of_announces {n : Nat} (hn : Announces head.headers n) {t u : Source}
    (hu : (answer site head t).next = some u) : u = t.skip n := by
  rw [answer_of_length (Http.ContentLength.ofHeaders_of_announces hn)] at hu
  by_cases hl : n ≤ t.unread.length
  · rw [answerAfterBody_of_le hl] at hu
    exact next_dispatch hu
  · have hlt : t.unread.length < n := Nat.lt_of_not_le hl
    rw [answerAfterBody_of_lt hlt] at hu
    -- Nothing is left of the source, and nothing is behind a body that is not there as a whole.
    have hempty : t.skip n = { t with unread := [] } := by
      rw [Source.skip, List.drop_of_length_le (Nat.le_of_lt hlt)]
    rw [hempty]
    split at hu
    · cases hu
    · split at hu
      · exact next_rejectBadRequest hu
      · exact next_fail hu

/-- Whether the connection goes on is left to the headers about the connection, and the next request
starts behind so many bytes, whatever they are. -/
structure GoesByLength (site : Site) (head : Http.Head) (n : Nat) (s t : Source) : Prop where
  whole : n ≤ t.unread.length → exchange site s =
    ⟨interim head ++ (dispatch site head head.isClosing (t.skip n)).acts,
      (dispatch site head head.isClosing (t.skip n)).next⟩
  lacking : t.unread.length < n → ∀ u, (exchange site s).next = some u →
    (fail site head head.isClosing (t.failure.getD Discard.abandoned) t).staysOpen = true
  behind : ∀ u, (exchange site s).next = some u → u = t.skip n

theorem goesByLength_of_announces {s t : Source} (hr : Http.Head.read s = .ok (head, t)) {n : Nat}
    (ha : Announces head.headers n) (hn : 0 < n) : GoesByLength site head n s t := by
  have hlength := Http.ContentLength.ofHeaders_of_announces ha
  have hclosing : closingWith head n = head.isClosing := by
    simp [closingWith, Nat.pos_iff_ne_zero.1 hn]
  refine ⟨fun hl => ?_, fun hl u hu => ?_, fun u hu => ?_⟩
  · rw [exchange_of_read hr, answer_of_length hlength, answerAfterBody_of_le hl, hclosing]
  · rw [next_exchange_of_read site hr, answer_of_length hlength, answerAfterBody_of_lt hl,
      hclosing] at hu
    split at hu
    · cases hu
    split at hu
    · rw [next_rejectBadRequest_eq_none] at hu
      cases hu
    · rw [Exchange.staysOpen, ← fail_onward site head _ _ { t with unread := [] } t,
        Exchange.next_onward, Exchange.staysOpen, hu]
      rfl
  · rw [next_exchange_of_read site hr] at hu
    exact next_answer_of_announces ha hu

/-- A request in transfer coding ends the connection if it announces no length, or zero, and no
handler's response keeps the connection alive; or if the length that it tells is not made of digits.
If it announces another length, then its body is taken to be as long as that. -/
theorem exchange_of_hasTransferCoding (site : Site) {s t : Source}
    (hr : Http.Head.read s = .ok (head, t)) (hc : head.hasTransferCoding = true) :
    (IsMalformed head.headers → EndsWithHead site head s) ∧
      (Announces head.headers 0 →
        EndsWithHead site head s ∨
          ∃ response, IsHandlerResponse site head response ∧ KeepsAlive response) ∧
      ∀ n, Announces head.headers n → 0 < n → GoesByLength site head n s t := by
  refine ⟨endsWithHead_of_isMalformed hr, ?_, ?_⟩
  · intro hz
    by_cases hk : ∃ response, IsHandlerResponse site head response ∧ KeepsAlive response
    · exact Or.inr hk
    · have hsilent : ∀ response, IsHandlerResponse site head response → ¬KeepsAlive response :=
        fun response hresponse halive => hk ⟨response, hresponse, halive⟩
      exact Or.inl (endsWithHead_of_zero hr hc hz hsilent)
  · intro n ha hn
    exact goesByLength_of_announces hr ha hn

def chunkedHead (more : Http.Headers) : Http.WrittenHead :=
  ⟨"POST".toList, "/".toList, ("Transfer-Encoding".toList, "chunked".toList) :: more⟩

theorem isPlain_chunkedHead {more : Http.Headers} (hm : ∀ field ∈ more, Http.IsPlainField field)
    (ht : more.first? Mime.MediaType.contentTypeField = none) (hl : more.length < 99) :
    (chunkedHead more).IsPlain where
  method_ne_nil := by simp [chunkedHead]
  method := show ∀ c ∈ "POST".toList, Text.isVisible c = true from List.all_eq_true.1 (by decide)
  target := ⟨[], rfl, by decide, by simp⟩
  fields field hf := by
    rcases List.mem_cons.1 hf with rfl | hf
    · exact ⟨by decide, List.all_eq_true.1 (by decide), List.all_eq_true.1 (by decide), by decide,
        by decide⟩
    · exact hm field hf
  untyped := by
    have hother : Http.Headers.sameName "Transfer-Encoding".toList
        Mime.MediaType.contentTypeField = false := by decide
    rw [chunkedHead, Http.Headers.first?, Http.Headers.values,
      List.filter_cons_of_neg (by rw [hother]; decide)]
    exact ht
  short := show (chunkedHead []).firstLine.length ≤ Http.HeaderBlock.lineLimit by decide
  few := by
    have hlimit : Http.HeaderBlock.lineCountLimit = 100 := rfl
    rw [chunkedHead, List.length_cons, hlimit]
    omega

theorem not_keepsAlive_greeting {head : Http.Head} {response : Http.Response}
    (h : IsHandlerResponse Greeting.site head response) : ¬KeepsAlive response := by
  obtain ⟨path, handler, -, hf, hr⟩ := h
  obtain ⟨route, hm⟩ := RouteTable.exists_mem_of_find? hf
  obtain rfl : handler = Greeting.handler := congrArg Prod.snd (List.mem_singleton.1 hm)
  obtain rfl := Except.ok.inj hr
  have hsilent : ∀ field ∈ (Greeting.response (requestOf Greeting.site head path)).headers,
      Text.lower field.1 ≠ "connection".toList := by
    intro field hfield
    rw [List.mem_singleton.1 hfield]
    have hother : Text.lower Greeting.header ≠ "connection".toList := by decide
    exact hother
  rw [KeepsAlive, Http.ResponseHead.closingAfter_of_silent hsilent]
  decide

def smuggledHead : Http.WrittenHead := ⟨"GET".toList, "/smuggled".toList, []⟩

theorem isPlain_smuggledHead : smuggledHead.IsPlain :=
  ⟨by decide, List.all_eq_true.1 (by decide), ⟨_, rfl, by decide, List.all_eq_true.1 (by decide)⟩,
    by simp [smuggledHead], rfl, by decide, by decide⟩

/-- The body of a request in transfer coding is not taken for a request if no length is announced.
-/
theorem endsWithHead_greeting :
    EndsWithHead Greeting.site (chunkedHead []).head
      ⟨(chunkedHead []).bytes ++ smuggledHead.bytes, none⟩ := by
  have hplain : (chunkedHead []).IsPlain := isPlain_chunkedHead (by simp) rfl (by decide)
  have hread := hplain.read_eq smuggledHead.bytes none
  have hends := (exchange_of_hasTransferCoding Greeting.site hread (by decide)).2.1
    (.absent (by decide))
  exact hends.resolve_right fun ⟨_, hresponse, halive⟩ => not_keepsAlive_greeting hresponse halive

def announcedHead : Http.WrittenHead := chunkedHead [(fieldName, "4".toList)]

/-- The first line of a body in transfer coding, which takes four bytes. -/
def chunkBytes : Bytes := "1a\r\n".toList.map Text.toByte

/-- A table whose only handler wants to keep connections alive. -/
def keepAliveSite : Site :=
  { Greeting.site with
    routes := RouteTable.ofEntries [(Greeting.route, Handler.constant "static".toList
      { headers := [("Connection".toList, "keep-alive".toList)] })] }

/-- Beside a length, transfer coding does not end the connection. What the coding has in its first
chunk is taken for the next request, and a handler is called for it. Nor does it end the connection
if a handler's response keeps that alive. -/
theorem not_endsWithHead_announced :
    Http.Head.read ⟨announcedHead.bytes ++ (chunkBytes ++ smuggledHead.bytes), none⟩ =
        .ok (announcedHead.head, ⟨chunkBytes ++ smuggledHead.bytes, none⟩) ∧
      announcedHead.head.hasTransferCoding = true ∧
      (exchange Greeting.site
          ⟨announcedHead.bytes ++ (chunkBytes ++ smuggledHead.bytes), none⟩).next =
        some ⟨smuggledHead.bytes, none⟩ ∧
      (∃ call ∈ (serve Greeting.site
          ⟨announcedHead.bytes ++ (chunkBytes ++ smuggledHead.bytes), none⟩ Sink.unlimited).calls,
        call.request.path = "/smuggled".toList) ∧
      (exchange keepAliveSite ⟨(chunkedHead []).bytes ++ smuggledHead.bytes, none⟩).next =
        some ⟨smuggledHead.bytes, none⟩ := by
  have hfield : Http.IsPlainField (fieldName, "4".toList) :=
    ⟨by decide, List.all_eq_true.1 (by decide), List.all_eq_true.1 (by decide), by decide,
      by decide⟩
  have hplain : announcedHead.IsPlain :=
    isPlain_chunkedHead (by simpa using hfield) (by decide) (by decide)
  have hread := hplain.read_eq (chunkBytes ++ smuggledHead.bytes) none
  have hfour : Announces announcedHead.head.headers 4 :=
    .told rfl ⟨by decide, List.all_eq_true.1 (by decide), by decide⟩ (by decide)
  have hfirst : exchange Greeting.site
      ⟨announcedHead.bytes ++ (chunkBytes ++ smuggledHead.bytes), none⟩ =
      (alone Greeting.site announcedHead.head 4).onward ⟨smuggledHead.bytes, none⟩ :=
    exchange_of_body hread (Http.ContentLength.ofHeaders_of_announces hfour) (by decide)
  have hnext := Exchange.next_onward (alone Greeting.site announcedHead.head 4)
    ⟨smuggledHead.bytes, none⟩
  have hopen : (alone Greeting.site announcedHead.head 4).staysOpen = true := rfl
  rw [if_pos hopen, ← hfirst] at hnext
  have hsecond : exchange Greeting.site ⟨smuggledHead.bytes, none⟩ =
      (alone Greeting.site smuggledHead.head 0).onward ⟨[], none⟩ :=
    exchange_of_body (isPlain_smuggledHead.read_eq [] none)
      (Http.ContentLength.ofHeaders_of_announces (.absent rfl)) (Nat.zero_le _)
  have hbare : (chunkedHead []).IsPlain := isPlain_chunkedHead (by simp) rfl (by decide)
  have halive : exchange keepAliveSite ⟨(chunkedHead []).bytes ++ smuggledHead.bytes, none⟩ =
      (alone keepAliveSite (chunkedHead []).head 0).onward ⟨smuggledHead.bytes, none⟩ :=
    exchange_of_body (hbare.read_eq smuggledHead.bytes none)
      (Http.ContentLength.ofHeaders_of_announces (.absent (by decide))) (Nat.zero_le _)
  refine ⟨hread, by decide, hnext, ?_, ?_⟩
  · rw [serve_of_exchange hfirst, if_pos hopen, serve_of_exchange hsecond]
    exact ⟨_, List.mem_append_right _ (List.mem_append_left _ List.mem_cons_self), rfl⟩
  · have hgoes : (alone keepAliveSite (chunkedHead []).head 0).staysOpen = true := rfl
    rw [halive, Exchange.next_onward, if_pos hgoes]

end Connection
end GreetingServer
