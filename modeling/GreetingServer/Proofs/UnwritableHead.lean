import GreetingServer.Proofs.Closing
import GreetingServer.Proofs.FailingHandler

/-! Heads that cannot be written. If a field of a response has a character that Latin-1 does not
have then not a byte of the response is sent, wherever the field stands. The connection ends with one
entry in the log that nobody expects, and what has come of the requests before stays as it is. -/
namespace GreetingServer
namespace Connection
variable {site : Site} {head : Http.Head} {closing : Bool} {handling : Option Fault}
  {response : Http.Response} {s t behind : Source} {handler : Handler} {request : Http.Request}

theorem headBytes_of_unwritable (site : Site) (hbare : head.line.isBare = false) (closing : Bool)
    (h : ∃ field ∈ response.headers, ¬Http.IsLatin1Field field) :
    ∃ fault, headBytes site head closing response = .error fault ∧
      (¬Undated site → response.IsNumbered → fault.kind = .unencodable) := by
  obtain ⟨field, hf, hbad⟩ := h
  cases hb : headBytes site head closing response with
  | ok bytes =>
    obtain ⟨date, -, hwritable⟩ := exists_date_of_headBytes hbare hb
    exact absurd (hwritable.latin1 field hf) hbad
  | error fault =>
    refine ⟨fault, rfl, fun hdated hnumbered => ?_⟩
    simp only [headBytes, hbare, Bool.false_eq_true, if_false] at hb
    split at hb
    · rename_i f hs
      obtain rfl := Except.error.inj hb
      rw [Http.ResponseHead.statusBytes_of_isNumbered hnumbered] at hs
      cases hs
    · split at hb
      · rename_i f hd
        exact absurd ⟨f, hd⟩ hdated
      · rename_i date hd
        cases he : Http.ResponseHead.encodeLines
            (Http.ResponseHead.fieldLines date closing response) with
        | ok bytes => simp [he, Except.map] at hb
        | error f =>
          rw [he] at hb
          rw [← Except.error.inj hb]
          exact Http.ResponseHead.kind_of_encodeLines he

/-- Nothing comes of a response whose head cannot be written but an entry, and the connection ends.
-/
theorem outcome_respond_of_unwritable {fault : Fault}
    (h : headBytes site head (Http.ResponseHead.closingAfter closing response.headers) response =
      .error fault) (handling : Option Fault) (s : Source) :
    outcome site (respond site head closing handling response s) =
        { logs := [unexpectedEntry site.peer { fault with context := handling }] } ∧
      (respond site head closing handling response s).next = none := by
  have hnews : ({ fault with context := handling } : Fault).IsNews :=
    (failsLoudly_headBytes site head _ response fault h).withContext handling
  rw [respond_of_error h, farewellFrom, farewell_of_isNews hnews]
  exact ⟨rfl, rfl⟩

theorem logs_respond_of_next
    (h : (respond site head closing handling response s).next = some t) :
    (outcome site (respond site head closing handling response s)).logs = [] := by
  cases hb : headBytes site head (Http.ResponseHead.closingAfter closing response.headers)
      response with
  | error fault =>
    rw [respond_of_error hb] at h
    cases h
  | ok bytes =>
    rw [respond_of_ok hb]
    cases bytes <;> simp [outcome, Delivery.perform, Record.addSent, perform_writeBody]

/-- What is logged about a request that leaves the connection open is not what nobody expects. -/
theorem expected_of_next (hs : s.failure = none) (h : (exchange site s).next = some t) :
    ∀ entry ∈ (outcome site (exchange site s)).logs, entry.event ≠ .text unexpectedEvent := by
  cases hr : Http.Head.read s with
  | error stop =>
    simp only [exchange, hr] at h
    cases h
  | ok found =>
    obtain ⟨head, u⟩ := found
    rw [next_exchange_of_read site hr] at h
    by_cases hb : HasWholeBody head u
    · by_cases hh : (verdict site head).IsAnswered
      · obtain ⟨v, hanswer⟩ := answer_eq_behind hb hh
        rw [hanswer] at h
        rw [outcome_exchange hr, hanswer, outcome_behind]
        simp only [Record.append_eq, Record.append, logs_respond_of_next h, List.nil_append,
          List.append_nil]
        exact fun entry he => (Verdict.event_ne_of_mem_entries he).2
      · rw [(sent_answer_of_not_isAnswered hb hh).1] at h
        cases h
    · rw [answer_of_lacking ((Http.Head.failure_of_read hr).trans hs) hb] at h
      cases h

/-- None of the requests that have been answered has led to an entry that nobody expects. -/
theorem Reaches.expected {record : Record} (h : Reaches site s record t) (hs : s.failure = none) :
    ∀ entry ∈ record.logs, entry.event ≠ .text unexpectedEvent := by
  induction h with
  | refl s => simp
  | @step s t u record hnext hmore ih =>
    intro entry he
    rcases List.mem_append.1 he with he | he
    · exact expected_of_next hs hnext entry he
    · exact ih ((failure_next_exchange hnext).trans hs) entry he

/-- The head of a response is sent as a whole or not at all. If a field of the response, wherever it
stands, cannot be written then nothing of the response is sent and no later request is served. The
connection ends with one entry that nobody expects, which tells the peer, behind what has come of the
requests before. -/
theorem serve_of_unwritable {start : Source} {earlier : Record} (hstart : start.failure = none)
    (he : Reaches site start earlier s) (hc : IsCalled site s head behind handler request)
    (hr : (handler.handle request).result = .ok response)
    (hf : ∃ field ∈ response.headers, ¬Http.IsLatin1Field field) :
    (exchange site s).next = none ∧
      (∀ entry ∈ earlier.logs, entry.event ≠ .text unexpectedEvent) ∧
      ∃ fault, (¬Undated site → response.IsNumbered → fault.kind = .unencodable) ∧
        serve site start Sink.unlimited = earlier ++
          { sent := interimBytes head
            calls := [⟨handler.name, request⟩]
            pauses := (handler.handle request).pauses
            logs := [unexpectedEntry site.peer fault] } := by
  obtain ⟨fault, hhead, hkind⟩ := headBytes_of_unwritable site hc.headed
    (Http.ResponseHead.closingAfter (endsAfter head) response.headers) hf
  obtain ⟨hentry, hends⟩ := outcome_respond_of_unwritable hhead none behind
  obtain ⟨houtcome, hnext⟩ := hc.of_ok hr
  rw [hentry] at houtcome
  rw [hends] at hnext
  refine ⟨hnext, he.expected hstart, { fault with context := none }, hkind, ?_⟩
  rw [he.serve_eq, serve_of_next_none hnext, houtcome]
  simp [Record.append_eq, Record.append]

/-- The greeting of a peer whose host has a name that is not Latin-1. -/
def foreignSite : Site :=
  { Greeting.site with peer := .ofHost "客.example".toList 49152 }

/-- Its address is a field of the response, and so the peer is not greeted. -/
theorem serve_of_unwritable_foreign :
    let request := requestOf foreignSite postHead "/".toList
    ∃ fault, fault.kind = .unencodable ∧
      serve foreignSite ⟨postBytes ++ [71, 69, 84] ++ getBytes, none⟩ Sink.unlimited =
        { calls := [⟨Greeting.handler.name, request⟩]
          pauses := [Greeting.delay]
          logs := [unexpectedEntry foreignSite.peer fault] } := by
  intro request
  have hread := isWhole_postBytes.read_append ([71, 69, 84] ++ getBytes) none
  rw [← List.append_assoc] at hread
  have hcalled : IsCalled foreignSite ⟨postBytes ++ [71, 69, 84] ++ getBytes, none⟩ postHead
      ⟨getBytes, none⟩ Greeting.handler request :=
    ⟨⟨_, 3, hread, rfl, by decide, rfl⟩, by decide, rfl⟩
  have hfield : ∃ field ∈ (Greeting.response request).headers, ¬Http.IsLatin1Field field :=
    ⟨_, List.mem_singleton.2 rfl, by unfold Http.IsLatin1Field; decide⟩
  obtain ⟨-, -, fault, hkind, hserve⟩ :=
    serve_of_unwritable rfl (Reaches.refl _) hcalled rfl hfield
  have hnumbered : (Greeting.response request).IsNumbered :=
    ⟨_, Text.ofInt_of_lt (by decide : 200 < 100000)⟩
  refine ⟨fault, hkind (not_undated_of_told Instant.httpDate_zero) hnumbered, ?_⟩
  rw [hserve, Record.empty_append]
  rfl

end Connection
end GreetingServer
