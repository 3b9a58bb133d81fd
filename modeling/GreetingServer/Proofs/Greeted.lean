import GreetingServer.Proofs.Answer

/-! Greetings and what they depend on. A request whose target starts with a slash is greeted, and
nothing of it comes back in the greeting: the bytes that are sent depend on the site, on whether the
connection goes on and on whether the head alone was asked for. -/
namespace GreetingServer

namespace Greeting

def responseTo (address : Text) : Http.Response :=
  { body := body.map Text.toByte, headers := [(header, address)] }

theorem isWritable_responseTo {address : Text} (h : address.all Text.isLatin1 = true) :
    (responseTo address).IsWritable where
  numbered := ⟨_, Text.ofInt_of_lt (by decide : 200 < 100000)⟩
  latin1 field hf := by
    rw [List.mem_singleton.1 hf]
    have hname : header.all Text.isLatin1 = true := by decide
    exact ⟨hname, h⟩

theorem closingAfter_responseTo (address : Text) (closing : Bool) :
    Http.ResponseHead.closingAfter closing (responseTo address).headers = closing := by
  apply Http.ResponseHead.closingAfter_of_silent
  intro field hf
  rw [List.mem_singleton.1 hf]
  have hother : Text.lower header ≠ "connection".toList := by decide
  exact hother

theorem lengthLine_mem (date : Text) (closing : Bool) (address : Text) :
    Http.fieldLine ("Content-Length".toList, "14".toList) ∈
      Http.ResponseHead.lines date closing (responseTo address) := by
  have hnumeral : Text.ofNat 14 = "14".toList := by decide
  have hlength : Http.lengthField (body.map Text.toByte) =
      ("Content-Length".toList, "14".toList) := by
    have hfield := congrArg (fun n => ("Content-Length".toList, Text.ofNat n)) length_body
    rw [← hnumeral]
    exact hfield
  have hmem : Http.lengthField (body.map Text.toByte) ∈
      Http.ResponseHead.allFields date closing (responseTo address) :=
    List.mem_append_left _ (List.mem_append_right _ (List.mem_singleton_self _))
  rw [Http.ResponseHead.lines_eq, ← hlength]
  exact List.mem_append_left _ (List.mem_cons_of_mem _ (List.mem_map_of_mem hmem))

end Greeting

namespace Connection
variable {site : Site} {head : Http.Head} {s t : Source}

theorem verdict_of_rooted (hroutes : site.routes = Greeting.routes) {n : Nat}
    (hl : Http.ContentLength.ofHeaders head.headers = .ok n) {rest : Text}
    (hp : Http.Target.path head.line.target = .ok ('/' :: rest)) :
    verdict site head = .routed Greeting.handler (requestOf site head ('/' :: rest)) := by
  simp only [verdict, hl, hp, hroutes, Greeting.find?_routes]

theorem exchange_greeting (hr : Http.Head.read s = .ok (head, t)) (hb : HasWholeBody head t)
    {request : Http.Request} (hv : verdict site head = .routed Greeting.handler request) :
    ∃ u, outcome site (exchange site s) =
        { sent := interimBytes head
          calls := [⟨Greeting.handler.name, request⟩]
          pauses := [Greeting.delay] } ++
        outcome site
          (respond site head (endsAfter head) none (Greeting.responseTo request.remoteAddress) u) ∧
      (exchange site s).next =
        (respond site head (endsAfter head) none
          (Greeting.responseTo request.remoteAddress) u).next := by
  have hanswered : (verdict site head).IsAnswered := by
    rw [hv]
    nofun
  obtain ⟨u, hanswer⟩ := answer_eq_behind hb hanswered
  rw [hv] at hanswer
  refine ⟨u, ?_, ?_⟩
  · rw [outcome_exchange hr, hanswer]
    rfl
  · rw [next_exchange_of_read site hr, hanswer]
    rfl

theorem hasWholeBody_of_announces {n : Nat} (hn : Http.ContentLength.Announces head.headers n)
    (hb : n ≤ t.unread.length) : HasWholeBody head t := by
  intro m hm
  rw [Http.ContentLength.ofHeaders_of_announces hn] at hm
  rw [← Except.ok.inj hm]
  exact hb

/-- The bytes start with an accepted request that is answered behind a head: its target starts with
a slash, it waits for no word to go on, and its body is there as a whole. -/
structure IsGreetable (s : Source) (head : Http.Head) (t : Source) : Prop where
  read : Http.Head.read s = .ok (head, t)
  headed : head.line.isBare = false
  rooted : head.line.target.head? = some '/'
  patient : head.expectsContinue = false
  whole : ∃ n, Http.ContentLength.Announces head.headers n ∧ n ≤ t.unread.length

/-- The handler of the greeting is called once, and there is one pause of a second. -/
structure IsGreetedOnce (record : Record) : Prop where
  calls : record.calls.map Call.handler = ["hello".toList]
  pauses : record.pauses = [1000]

/-- The head of a greeting, of which there is nothing if the date cannot be told. -/
def greetingFront (site : Site) (closing : Bool) : Bytes :=
  match site.now.httpDate with
  | .error _ => []
  | .ok date =>
    (Http.ResponseHead.lines date closing
      (Greeting.responseTo site.peer.text)).flatten.map Text.toByte

/-- The body of a greeting, of which there is nothing either if the date cannot be told. -/
def greetingBack (site : Site) : Bytes :=
  match site.now.httpDate with
  | .error _ => []
  | .ok _ => Greeting.body.map Text.toByte

theorem greetingFront_of_told {date : Text} (hd : site.now.httpDate = .ok date) (closing : Bool) :
    greetingFront site closing =
      (Http.ResponseHead.lines date closing
        (Greeting.responseTo site.peer.text)).flatten.map Text.toByte := by
  rw [greetingFront, hd]

theorem outcome_respond_greeting {address : Text} (ha : address = site.peer.text)
    (hpeer : site.peer.text.all Text.isLatin1 = true)
    (hbare : head.line.isBare = false) (closing : Bool) (u : Source) :
    ∃ logs interruption,
      outcome site (respond site head closing none (Greeting.responseTo address) u) =
        { sent :=
            greetingFront site
              (!(respond site head closing none (Greeting.responseTo address) u).staysOpen) ++
                if head.line.isHead then [] else greetingBack site
          logs := logs
          interruption := interruption } := by
  rw [ha]
  cases hd : site.now.httpDate with
  | error fault =>
    rw [respond_of_error (headBytes_of_error hd _ (Greeting.isWritable_responseTo hpeer))]
    obtain ⟨logs, interruption, hfarewell⟩ :=
      perform_farewell site.peer { fault with context := none }
    refine ⟨logs, interruption, ?_⟩
    simpa [outcome, farewellFrom, greetingFront, greetingBack, hd] using hfarewell
  | ok date =>
    obtain ⟨hsent, hnext⟩ := outcome_respond hd (Greeting.isWritable_responseTo hpeer) head
      closing none u
    rw [Greeting.closingAfter_responseTo] at hsent hnext
    have hopen : (respond site head closing none
        (Greeting.responseTo site.peer.text) u).staysOpen = !closing := by
      rw [Exchange.staysOpen, hnext]
      cases closing <;> rfl
    refine ⟨[], none, ?_⟩
    rw [hsent, hopen, Bool.not_not, greetingFront, greetingBack, hd, responseBytes, hbare]
    rfl

/-- A greeting depends on no more of its request than whether the connection goes on and whether the
head alone was asked for. -/
theorem outcome_of_isGreetable (hroutes : site.routes = Greeting.routes)
    (hpeer : site.peer.text.all Text.isLatin1 = true)
    (h : IsGreetable s head t) :
    IsGreetedOnce (outcome site (exchange site s)) ∧
      (outcome site (exchange site s)).sent =
        greetingFront site (!(exchange site s).staysOpen) ++
          if head.line.isHead then [] else greetingBack site := by
  obtain ⟨n, hn, hb⟩ := h.whole
  obtain ⟨raw, -, hparse⟩ := Http.Head.exists_parse_of_read h.read
  obtain ⟨rest, hp⟩ := Http.RequestLine.exists_path_of_parse hparse h.rooted
  have hv := verdict_of_rooted hroutes (Http.ContentLength.ofHeaders_of_announces hn) hp
  obtain ⟨u, hcome, hnext⟩ := exchange_greeting h.read (hasWholeBody_of_announces hn hb) hv
  obtain ⟨logs, interruption, hrespond⟩ := outcome_respond_greeting
    (show (requestOf site head ('/' :: rest)).remoteAddress = site.peer.text
      from rfl) hpeer h.headed (endsAfter head) u
  have hinterim : interimBytes head = [] := by
    rw [interimBytes, h.patient]
    rfl
  have hopen : (exchange site s).staysOpen =
      (respond site head (endsAfter head) none
        (Greeting.responseTo (requestOf site head ('/' :: rest)).remoteAddress) u).staysOpen := by
    rw [Exchange.staysOpen, hnext, Exchange.staysOpen]
  -- All that is left of the request is its end and whether the head alone was asked for.
  rw [hcome, hrespond, hopen, hinterim]
  exact ⟨⟨rfl, rfl⟩, rfl⟩

/-- Greetings reveal nothing of their requests but the caller. Of two requests each is greeted once,
and if the connection goes on after both or after neither then the same bytes are sent, but that a
request for the head alone gets no body. The head tells the length of the body all the same. -/
theorem greetings_alike (hroutes : site.routes = Greeting.routes)
    (hpeer : site.peer.text.all Text.isLatin1 = true)
    {s₁ s₂ t₁ t₂ : Source} {head₁ head₂ : Http.Head} (h₁ : IsGreetable s₁ head₁ t₁)
    (h₂ : IsGreetable s₂ head₂ t₂) :
    IsGreetedOnce (outcome site (exchange site s₁)) ∧
      IsGreetedOnce (outcome site (exchange site s₂)) ∧
      ((exchange site s₁).staysOpen = (exchange site s₂).staysOpen →
        ∃ front back,
          (outcome site (exchange site s₁)).sent =
            front ++ (if head₁.line.isHead then [] else back) ∧
          (outcome site (exchange site s₂)).sent =
            front ++ (if head₂.line.isHead then [] else back) ∧
          ∀ date, site.now.httpDate = .ok date →
            back = Greeting.body.map Text.toByte ∧ back.length = 14 ∧
              ∃ lines : List Text, front = lines.flatten.map Text.toByte ∧
                Http.fieldLine ("Content-Length".toList, "14".toList) ∈ lines) := by
  obtain ⟨hone₁, hsent₁⟩ := outcome_of_isGreetable hroutes hpeer h₁
  obtain ⟨hone₂, hsent₂⟩ := outcome_of_isGreetable hroutes hpeer h₂
  refine ⟨hone₁, hone₂, ?_⟩
  intro hopen
  refine ⟨greetingFront site (!(exchange site s₁).staysOpen), greetingBack site, hsent₁, ?_, ?_⟩
  · rw [hsent₂, hopen]
  · intro date hd
    have hfront := greetingFront_of_told hd (!(exchange site s₁).staysOpen)
    have hback : greetingBack site = Greeting.body.map Text.toByte := by rw [greetingBack, hd]
    exact ⟨hback, hback ▸ Greeting.length_body, _, hfront, Greeting.lengthLine_mem date _ _⟩

/-- A request for a head, with a query, a field and several slashes. -/
def probeBytes : Bytes := "HEAD //a?b=c HTTP/1.1\r\nCookie: d\r\n\r\n".toList.map Text.toByte

def probeHead : Http.Head :=
  ⟨⟨"HEAD".toList, "/a?b=c".toList, Http.protocol, true⟩, [("Cookie".toList, "d".toList)]⟩

theorem staysOpen_exchange_of_body {n : Nat} (hr : Http.Head.read s = .ok (head, t))
    (hl : Http.ContentLength.ofHeaders head.headers = .ok n) (hb : n ≤ t.unread.length) :
    (exchange site s).staysOpen = (alone site head n).staysOpen := by
  rw [exchange_of_body hr hl hb, Exchange.staysOpen, Exchange.next_onward]
  cases (alone site head n).staysOpen <;> rfl

/-- A post with a body and a request for a head are greeted alike. -/
theorem greetings_alike_post_probe :
    IsGreetable postSource postHead ⟨[71, 69, 84], none⟩ ∧
      IsGreetable ⟨probeBytes, none⟩ probeHead ⟨[], none⟩ ∧
      ∃ front back,
        (outcome Greeting.site (exchange Greeting.site postSource)).sent = front ++ back ∧
        (outcome Greeting.site (exchange Greeting.site ⟨probeBytes, none⟩)).sent = front ∧
        back.length = 14 := by
  have hpost : Http.Head.read postSource = .ok (postHead, ⟨[71, 69, 84], none⟩) :=
    isWhole_postBytes.read_append [71, 69, 84] none
  have hprobe : Http.Head.read ⟨probeBytes, none⟩ = .ok (probeHead, ⟨[], none⟩) := by rfl
  have hthree : Http.ContentLength.Announces postHead.headers 3 :=
    .told rfl isNumeral_three (by decide)
  have hzero : Http.ContentLength.Announces probeHead.headers 0 := .absent rfl
  have hfirst : IsGreetable postSource postHead ⟨[71, 69, 84], none⟩ :=
    ⟨hpost, by decide, by decide, by decide, 3, hthree, Nat.le_refl 3⟩
  have hsecond : IsGreetable ⟨probeBytes, none⟩ probeHead ⟨[], none⟩ :=
    ⟨hprobe, by decide, by decide, by decide, 0, hzero, Nat.le_refl 0⟩
  have hopen : (exchange Greeting.site postSource).staysOpen =
      (exchange Greeting.site ⟨probeBytes, none⟩).staysOpen := by
    rw [staysOpen_exchange_of_body hpost (Http.ContentLength.ofHeaders_of_announces hthree)
        (Nat.le_refl 3),
      staysOpen_exchange_of_body hprobe (Http.ContentLength.ofHeaders_of_announces hzero)
        (Nat.le_refl 0)]
    decide +kernel
  have hpeer : Greeting.site.peer.text.all Text.isLatin1 = true := by decide
  obtain ⟨-, -, halike⟩ := greetings_alike rfl hpeer hfirst hsecond
  obtain ⟨front, back, hback, hfront, htold⟩ := halike hopen
  refine ⟨hfirst, hsecond, front, back, hback, ?_, (htold _ Instant.httpDate_zero).2.1⟩
  rw [hfront]
  exact List.append_nil front

end Connection
end GreetingServer
