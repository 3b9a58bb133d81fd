import GreetingServer.Proofs.Course

/-! What an answer is made of. Before the response a handler may be called and wait, and an entry
may be logged; then the response is written, and whether the connection goes on is up to the request
and the response. No response is written if a part of the body is lacking or if the handler ends the
run. -/
namespace GreetingServer

def Exchange.behind (before : List Act) (e : Exchange) : Exchange := ⟨before ++ e.acts, e.next⟩

@[simp] theorem Exchange.acts_behind (before : List Act) (e : Exchange) :
    (e.behind before).acts = before ++ e.acts := rfl

/-- Every field that a handler adds to a response to the peer has a given property. -/
def Site.EveryField (site : Site) (P : Text × Text → Prop) : Prop :=
  ∀ entry ∈ site.routes, ∀ request : Http.Request,
    request.remoteAddress = site.peer.text →
      ∀ response, (entry.2.handle request).result = .ok response →
        ∀ field ∈ response.headers, P field

namespace Delivery

theorem perform_calls (peer : Peer) (calls : List Call) (acts : List Act) :
    perform peer Sink.unlimited (calls.map .call ++ acts) =
      ({ calls := calls } : Record) ++ perform peer Sink.unlimited acts := by
  induction calls with
  | nil => exact (Record.empty_append _).symm
  | cons call calls ih =>
    rw [List.map_cons, List.cons_append, perform, ih]
    rfl

theorem perform_logs (peer : Peer) (entries : List Log.Entry) (acts : List Act) :
    perform peer Sink.unlimited (entries.map .log ++ acts) =
      ({ logs := entries } : Record) ++ perform peer Sink.unlimited acts := by
  induction entries with
  | nil => exact (Record.empty_append _).symm
  | cons entry entries ih =>
    rw [List.map_cons, List.cons_append, perform, ih]
    rfl

theorem sent_perform_append (peer : Peer) {before : List Act}
    (h : ∀ act ∈ before, act.isWrite = false ∧ act.isInterrupt = false) (acts : List Act) :
    (perform peer Sink.unlimited (before ++ acts)).sent =
      (perform peer Sink.unlimited acts).sent := by
  induction before with
  | nil => rfl
  | cons act before ih =>
    have hrest := ih fun a ha => h a (List.mem_cons_of_mem act ha)
    have hact := h act List.mem_cons_self
    rw [List.cons_append]
    cases act with
    | write bytes handling => cases hact.1
    | call call => exact hrest
    | pause duration => exact hrest
    | log entry => exact hrest
    | interrupt fault => cases hact.2

theorem sent_perform_of_not_write {peer : Peer} {acts : List Act}
    (h : ∀ act ∈ acts, act.isWrite = false) :
    (perform peer Sink.unlimited acts).sent = [] := by
  induction acts with
  | nil => rfl
  | cons act acts ih =>
    have hrest := ih fun a ha => h a (List.mem_cons_of_mem act ha)
    cases act with
    | write bytes handling => exact absurd (h _ List.mem_cons_self) (by simp [Act.isWrite])
    | call call => exact hrest
    | pause duration => exact hrest
    | log entry => exact hrest
    | interrupt fault => rfl

theorem calls_perform_of_not_call {peer : Peer} {acts : List Act}
    (h : ∀ act ∈ acts, act.isCall = false) :
    (perform peer Sink.unlimited acts).calls = [] := by
  induction acts with
  | nil => rfl
  | cons act acts ih =>
    have hrest := ih fun a ha => h a (List.mem_cons_of_mem act ha)
    cases act with
    | write bytes handling => exact hrest
    | call call => exact absurd (h _ List.mem_cons_self) (by simp [Act.isCall])
    | pause duration => exact hrest
    | log entry => exact hrest
    | interrupt fault => rfl

end Delivery

namespace Verdict

def failure? : Verdict → Option Fault
  | routed handler request =>
    match (handler.handle request).result with
    | .ok _ => none
    | .error fault => some fault
  | _ => none

/-- There is a response: what a handler fails by, if it does, does not end the run and has a text. -/
def IsAnswered (v : Verdict) : Prop :=
  ∀ fault ∈ v.failure?, fault.isInterrupt = false ∧ fault.IsTellable

instance : DecidablePred IsAnswered := fun v =>
  inferInstanceAs (Decidable (∀ fault ∈ v.failure?, _))

/-- The fault that is being dealt with when the response is written. -/
def handling : Verdict → Option Fault
  | refused fault => some fault
  | unread fault => some fault
  | unrouted => none
  | routed handler request =>
    match (handler.handle request).result with
    | .ok _ => none
    | .error fault => some fault

def before (head : Http.Head) (v : Verdict) : List Act :=
  v.calls.map .call ++ v.pauses.map .pause ++ (v.entries head).map .log

theorem isWrite_of_mem_calls_pauses {v : Verdict} {act : Act}
    (h : act ∈ v.calls.map .call ++ v.pauses.map .pause) :
    act.isWrite = false ∧ act.isInterrupt = false := by
  simp only [List.mem_append, List.mem_map] at h
  rcases h with ⟨call, -, rfl⟩ | ⟨duration, -, rfl⟩ <;> exact ⟨rfl, rfl⟩

theorem isWrite_of_mem_before {head : Http.Head} {v : Verdict} {act : Act}
    (h : act ∈ v.before head) : act.isWrite = false ∧ act.isInterrupt = false := by
  rcases List.mem_append.1 h with h | h
  · exact isWrite_of_mem_calls_pauses h
  · obtain ⟨entry, -, rfl⟩ := List.mem_map.1 h
    exact ⟨rfl, rfl⟩

end Verdict

namespace Connection
open Verdict (routed)
variable {site : Site} {head : Http.Head}

theorem outcome_behind (v : Verdict) (head : Http.Head) (e : Exchange) :
    outcome site (e.behind (v.before head)) =
      ({ calls := v.calls, pauses := v.pauses, logs := v.entries head } : Record) ++
        outcome site e := by
  simp only [outcome, Exchange.acts_behind, Verdict.before, List.append_assoc,
    Delivery.perform_calls, Delivery.perform_pauses, Delivery.perform_logs]
  simp [Record.append_eq, Record.append]

theorem failsLoudly_headBytes (site : Site) (head : Http.Head) (closing : Bool)
    (response : Http.Response) : FailsLoudly (headBytes site head closing response) := by
  unfold headBytes
  split
  · exact site.now.failsLoudly_httpDate.map _
  · split
    · rename_i hs
      exact (Http.ResponseHead.failsLoudly_statusBytes _).error hs
    · split
      · rename_i hd
        exact site.now.failsLoudly_httpDate.error hd
      · exact (Http.ResponseHead.failsLoudly_encodeLines _).map _

theorem exists_headBytes_error (site : Site) (hbare : head.line.isBare = false) (closing : Bool)
    {response : Http.Response} (h : ¬response.IsNumbered) :
    ∃ fault, headBytes site head closing response = .error fault := by
  obtain ⟨fault, hf⟩ := Http.ResponseHead.exists_error_of_not_isNumbered h
  exact ⟨fault, by simp only [headBytes, hbare, hf, Bool.false_eq_true, if_false]⟩

/-- Behind a response without fields the connection goes on as the request says, unless the date
cannot be told. -/
theorem next_respond_of_nil {response : Http.Response} (hw : response.IsWritable)
    (h : response.headers = []) (site : Site) (head : Http.Head) (closing : Bool)
    (handling : Option Fault) (s : Source) :
    (respond site head closing handling response s).next =
      match site.now.httpDate with
      | .ok _ => nextSource closing s
      | .error _ => none := by
  cases hd : site.now.httpDate with
  | error f => rw [respond_of_error (headBytes_of_error hd _ hw)]
  | ok date =>
    rw [(outcome_respond hd hw head closing handling s).2, h]
    rfl

theorem perform_farewell (peer : Peer) (fault : Fault) :
    ∃ logs interruption, Delivery.perform peer Sink.unlimited (farewell peer fault) =
      { logs := logs, interruption := interruption } := by
  unfold farewell
  split
  · exact ⟨[], some fault, rfl⟩
  · split
    · exact ⟨[], none, rfl⟩
    · exact ⟨[unexpectedEntry peer fault], none, rfl⟩

theorem sent_perform_farewell (peer : Peer) (fault : Fault) :
    (Delivery.perform peer Sink.unlimited (farewell peer fault)).sent = [] := by
  obtain ⟨logs, interruption, h⟩ := perform_farewell peer fault
  rw [h]

instance (head : Http.Head) (t : Source) : Decidable (HasWholeBody head t) :=
  match h : Http.ContentLength.ofHeaders head.headers with
  | .ok n => decidable_of_iff (n ≤ t.unread.length) (by simp [HasWholeBody, h])
  | .error _ => isTrue (by simp [HasWholeBody, h])

theorem fail_eq_behind {fault : Fault} (hi : fault.isInterrupt = false) (ht : fault.IsTellable)
    (closing : Bool) (s : Source) :
    fail site head closing fault s =
      (respond site head closing (some fault) (failureResponse fault) s).behind
        [.log (failureEntry fault)] := fail_eq hi ht s

/-- Other failures end the connection, and the peer does not hear of them. -/
theorem endsMutely_fail_of_not {fault : Fault}
    (h : ¬(fault.isInterrupt = false ∧ fault.IsTellable)) (site : Site) (head : Http.Head)
    (closing : Bool) (s : Source) : (fail site head closing fault s).EndsMutely := by
  cases hi : fault.isInterrupt with
  | true =>
    rw [fail_of_isInterrupt hi]
    exact ⟨rfl, List.forall_mem_singleton.2 ⟨rfl, rfl⟩⟩
  | false => exact endsMutely_fail hi (fun ht => h ⟨hi, ht⟩) s

theorem handle_eq_behind {handler : Handler} {request : Http.Request}
    (hh : (routed handler request).IsAnswered) (closing : Bool) (s : Source) :
    handle site head closing handler request s =
      (respond site head closing (routed handler request).handling
        (routed handler request).response s).behind ((routed handler request).before head) := by
  cases hr : (handler.handle request).result with
  | ok response =>
    simp [handle, hr, Exchange.behind, Verdict.before, Verdict.calls, Verdict.pauses,
      Verdict.entries, Verdict.handling, Verdict.response]
  | error fault =>
    obtain ⟨hi, ht⟩ := hh fault (by simp [Verdict.failure?, hr])
    simp [handle, hr, fail_eq_behind hi ht, Exchange.behind, Verdict.before, Verdict.calls,
      Verdict.pauses, Verdict.entries, Verdict.handling, Verdict.response]

/-- What is true of the fields of handlers is true of those of all responses: the responses that the
server makes itself have none. -/
theorem forall_mem_headers_verdict {P : Text × Text → Prop} (h : site.EveryField P) :
    ∀ field ∈ (verdict site head).response.headers, P field := by
  intro field hf
  unfold verdict at hf
  split at hf
  · split at hf <;> cases hf
  · split at hf
    · cases hf
    · rename_i path hpath
      split at hf
      · cases hf
      · rename_i handler hfind
        obtain ⟨route, hm⟩ := RouteTable.exists_mem_of_find? hfind
        unfold Verdict.response at hf
        simp only at hf
        split at hf
        · rename_i response hr
          exact h _ hm (requestOf site head path) rfl response hr field hf
        · cases hf

theorem dispatch_eq_behind {n : Nat} (hl : Http.ContentLength.ofHeaders head.headers = .ok n)
    (hh : (verdict site head).IsAnswered) (s : Source) :
    dispatch site head (closingWith head n) s =
      (respond site head (endsAfter head) (verdict site head).handling
        (verdict site head).response s).behind ((verdict site head).before head) := by
  have hends : endsAfter head = closingWith head n := by simp only [endsAfter, hl]
  rw [← hends]
  cases hp : Http.Target.path head.line.target with
  | error fault =>
    have hnews := Http.Target.failsLoudly_path _ fault hp
    simp only [dispatch, verdict, hl, hp]
    exact fail_eq_behind hnews.isInterrupt hnews.isTellable _ s
  | ok path =>
    cases hf : RouteTable.find? site.routes head.line.method path with
    | none =>
      simp only [dispatch, verdict, hl, hp, hf]
      rfl
    | some handler =>
      simp only [verdict, hl, hp, hf] at hh
      simp only [dispatch, verdict, hl, hp, hf]
      exact handle_eq_behind hh _ s

theorem answer_eq_behind {t : Source} (hb : HasWholeBody head t)
    (hh : (verdict site head).IsAnswered) :
    ∃ u, answer site head t =
      (respond site head (endsAfter head) (verdict site head).handling
        (verdict site head).response u).behind ((verdict site head).before head) := by
  cases hl : Http.ContentLength.ofHeaders head.headers with
  | error fault =>
    have hnews := Http.ContentLength.failsLoudly_ofHeaders _ fault hl
    by_cases hk : fault.kind = .badRequest
    · have hends : endsAfter head = true := by simp [endsAfter, hl, hk]
      simp only [answer, verdict, hl, if_pos hk, hends]
      exact ⟨t, rejectBadRequest_eq hnews.isTellable t⟩
    · have hends : endsAfter head = head.isClosing := by simp [endsAfter, hl, hk]
      simp only [answer, verdict, hl, if_neg hk, hends]
      exact ⟨t, fail_eq_behind hnews.isInterrupt hnews.isTellable _ t⟩
  | ok n =>
    rw [answer_of_length hl, answerAfterBody_of_le (hb n hl)]
    exact ⟨_, dispatch_eq_behind hl hh _⟩

/-- Without a response the handler has been called, and the connection ends without a word to the
peer. -/
theorem answer_of_not_isAnswered {t : Source} (hb : HasWholeBody head t)
    (hh : ¬(verdict site head).IsAnswered) :
    ∃ e : Exchange, e.EndsMutely ∧ answer site head t =
      e.behind ((verdict site head).calls.map .call ++ (verdict site head).pauses.map .pause) := by
  unfold verdict at hh ⊢
  split at hh
  · split at hh <;> exact absurd (by simp [Verdict.IsAnswered, Verdict.failure?]) hh
  · rename_i n hl
    split at hh
    · exact absurd (by simp [Verdict.IsAnswered, Verdict.failure?]) hh
    · rename_i path hp
      split at hh
      · exact absurd (by simp [Verdict.IsAnswered, Verdict.failure?]) hh
      · rename_i handler hf
        cases hr : (handler.handle (requestOf site head path)).result with
        | ok response => exact absurd (by simp [Verdict.IsAnswered, Verdict.failure?, hr]) hh
        | error fault =>
          have hmute : ¬(fault.isInterrupt = false ∧ fault.IsTellable) := by
            simpa [Verdict.IsAnswered, Verdict.failure?, hr] using hh
          rw [answer_of_length hl, answerAfterBody_of_le (hb n hl)]
          refine ⟨_, endsMutely_fail_of_not hmute site head (closingWith head n) (t.skip n), ?_⟩
          simp [dispatch, hp, hf, handle, hr, Exchange.behind, Verdict.calls, Verdict.pauses]

theorem sent_of_endsMutely {e : Exchange} (h : e.EndsMutely) (site : Site) :
    (outcome site e).sent = [] :=
  Delivery.sent_perform_of_not_write fun act hact => (h.acts act hact).2

theorem sent_answer_of_not_isAnswered {t : Source} (hb : HasWholeBody head t)
    (hh : ¬(verdict site head).IsAnswered) :
    (answer site head t).next = none ∧ (outcome site (answer site head t)).sent = [] := by
  obtain ⟨e, he, hanswer⟩ := answer_of_not_isAnswered hb hh
  rw [hanswer]
  refine ⟨he.next, ?_⟩
  rw [outcome, Exchange.acts_behind,
    Delivery.sent_perform_append _ fun _ => Verdict.isWrite_of_mem_calls_pauses]
  exact sent_of_endsMutely he site

/-- What comes of a request whose body is there as a whole is what comes of its response, behind the
word to go on and what is done before the response. The next request is read from behind the body. -/
theorem outcome_exchange_of_body {s t : Source} (hr : Http.Head.read s = .ok (head, t)) {n : Nat}
    (hl : Http.ContentLength.ofHeaders head.headers = .ok n) (hb : n ≤ t.unread.length)
    (hh : (verdict site head).IsAnswered) :
    let response := respond site head (endsAfter head) (verdict site head).handling
      (verdict site head).response (t.skip n)
    outcome site (exchange site s) =
        ({ sent := interimBytes head, calls := (verdict site head).calls,
           pauses := (verdict site head).pauses,
           logs := (verdict site head).entries head } : Record) ++ outcome site response ∧
      (exchange site s).next = response.next := by
  intro response
  have hanswer : answer site head t = response.behind ((verdict site head).before head) := by
    rw [answer_of_length hl, answerAfterBody_of_le hb]
    exact dispatch_eq_behind hl hh _
  rw [outcome_exchange hr, next_exchange_of_read site hr, hanswer, outcome_behind]
  refine ⟨?_, rfl⟩
  simp [Record.append_eq, Record.append]

theorem exists_length_of_lacking {t : Source} (hb : ¬HasWholeBody head t) :
    ∃ n, Http.ContentLength.ofHeaders head.headers = .ok n ∧ t.unread.length < n := by
  cases hl : Http.ContentLength.ofHeaders head.headers with
  | error fault => simp [HasWholeBody, hl] at hb
  | ok n => exact ⟨n, rfl, by simpa [HasWholeBody, hl] using hb⟩

theorem answer_of_lacking {t : Source} (ht : t.failure = none) (hb : ¬HasWholeBody head t) :
    answer site head t = ⟨[], none⟩ := by
  obtain ⟨n, hl, hlt⟩ := exists_length_of_lacking hb
  rw [answer_of_length hl, answerAfterBody_of_lt hlt, ht]
  rfl

theorem calls_respond (closing : Bool) (handling : Option Fault) (response : Http.Response)
    (s : Source) : (outcome site (respond site head closing handling response s)).calls = [] :=
  Delivery.calls_perform_of_not_call fun _ => isCall_of_mem_respond

/-- A request is given up or fails if a part of its body is lacking, and no handler is called. -/
theorem calls_answer_of_lacking {t : Source} (hb : ¬HasWholeBody head t) :
    (outcome site (answer site head t)).calls = [] := by
  obtain ⟨n, hl, hlt⟩ := exists_length_of_lacking hb
  rw [answer_of_length hl, answerAfterBody_of_lt hlt]
  split
  · rfl
  · split
    · exact Delivery.calls_perform_of_not_call fun _ => isCall_of_mem_rejectBadRequest
    · exact Delivery.calls_perform_of_not_call fun _ => isCall_of_mem_fail

theorem calls_answer {t : Source} (hb : HasWholeBody head t) :
    (outcome site (answer site head t)).calls = (verdict site head).calls := by
  by_cases hh : (verdict site head).IsAnswered
  · obtain ⟨u, hanswer⟩ := answer_eq_behind hb hh
    rw [hanswer, outcome_behind]
    simp [Record.append_eq, Record.append, calls_respond]
  · obtain ⟨e, he, hanswer⟩ := answer_of_not_isAnswered hb hh
    have hmute : (Delivery.perform site.peer Sink.unlimited e.acts).calls = [] :=
      Delivery.calls_perform_of_not_call fun act hact => (he.acts act hact).1
    rw [hanswer, outcome, Exchange.acts_behind, List.append_assoc, Delivery.perform_calls,
      Delivery.perform_pauses]
    simp [Record.append_eq, Record.append, hmute]

theorem calls_exchange {s t : Source} (hr : Http.Head.read s = .ok (head, t)) :
    (outcome site (exchange site s)).calls =
      if HasWholeBody head t then (verdict site head).calls else [] := by
  have hcalls : (outcome site (exchange site s)).calls =
      (outcome site (answer site head t)).calls := by
    rw [outcome_exchange hr]
    rfl
  rw [hcalls]
  split
  · rename_i hb
    exact calls_answer hb
  · rename_i hb
    exact calls_answer_of_lacking hb

end Connection
end GreetingServer
