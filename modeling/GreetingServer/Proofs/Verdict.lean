import GreetingServer.Proofs.Framing
import GreetingServer.Proofs.Pipeline

/-! How requests are answered. A request whose body is there as a whole is answered in one of four
ways. Which one it is, what is sent and what is logged depend on its head and the site, and all of
it happens once. -/
namespace GreetingServer

namespace Reply

/-- What comes of a handler can be told to the peer: it is a response whose head can be written, or a
failure that does not end the run and has a text. -/
def IsTellable (reply : Reply) : Prop :=
  match reply.result with
  | .ok response => response.IsWritable
  | .error fault => fault.isInterrupt = false ∧ fault.IsTellable

theorem IsTellable.of_ok {reply : Reply} (h : reply.IsTellable) {response : Http.Response}
    (hr : reply.result = .ok response) : response.IsWritable := by
  rw [IsTellable, hr] at h
  exact h

theorem IsTellable.of_error {reply : Reply} (h : reply.IsTellable) {fault : Fault}
    (hr : reply.result = .error fault) : fault.isInterrupt = false ∧ fault.IsTellable := by
  rw [IsTellable, hr] at h
  exact h

theorem IsRegular.isTellable {reply : Reply} (h : reply.IsRegular) : reply.IsTellable := by
  obtain ⟨response, hr, hwritable, -⟩ := h
  rw [IsTellable, hr]
  exact hwritable

end Reply

namespace Site

/-- The site can answer its peer: the date can be told, and so can what comes of the handlers. -/
structure IsTellable (site : Site) (date : Text) : Prop where
  told : site.now.httpDate = .ok date
  handlers : ∀ entry ∈ site.routes, ∀ request : Http.Request,
    request.remoteAddress = site.peer.text → (entry.2.handle request).IsTellable

theorem IsRegular.isTellable {site : Site} {date : Text} (h : site.IsRegular date) :
    site.IsTellable date where
  told := h.told
  handlers entry hentry request hpeer := (h.handlers entry hentry request hpeer).isTellable

end Site

inductive Verdict
  | refused (fault : Fault)
  | unread (fault : Fault)
  | unrouted
  | routed (handler : Handler) (request : Http.Request)

namespace Connection
variable {site : Site} {head : Http.Head} {date : Text}

/-- The body that the head of a request announces is there as a whole. -/
def HasWholeBody (head : Http.Head) (t : Source) : Prop :=
  ∀ n, Http.ContentLength.ofHeaders head.headers = .ok n → n ≤ t.unread.length

/-- The connection ends after the request unless the response says otherwise. -/
def endsAfter (head : Http.Head) : Bool :=
  match Http.ContentLength.ofHeaders head.headers with
  | .ok length => closingWith head length
  | .error fault => fault.kind = .badRequest || head.isClosing

def verdict (site : Site) (head : Http.Head) : Verdict :=
  match Http.ContentLength.ofHeaders head.headers with
  | .error fault => if fault.kind = .badRequest then .refused fault else .unread fault
  | .ok _ =>
    match Http.Target.path head.line.target with
    | .error fault => .unread fault
    | .ok path =>
      match RouteTable.find? site.routes head.line.method path with
      | none => .unrouted
      | some handler => .routed handler (requestOf site head path)

/-- What is said about a connection that ends by a fault which nobody expects. -/
def unexpectedEvent : Text := "unexpected error while serving connection".toList

def errorEntry (event : Text) (fields : Log.Fields) (fault : Option Fault) : Log.Entry :=
  ⟨.router, .error, .text event, fields, fault⟩

def failureEntry (fault : Fault) : Log.Entry := errorEntry (failureMessage fault) [] (some fault)

def unroutedEntry (head : Http.Head) : Log.Entry :=
  errorEntry "No handler found".toList
    [("verb".toList, .text head.line.method), ("path".toList, .text head.line.target)] none

end Connection

namespace Verdict
open Connection (failureMessage failureResponse refusalResponse failureEntry unroutedEntry
  unexpectedEvent responseBytes endsAfter)

def response : Verdict → Http.Response
  | refused fault => refusalResponse fault
  | unread fault => failureResponse fault
  | unrouted => { status := 404 }
  | routed handler request =>
    match (handler.handle request).result with
    | .ok response => response
    | .error fault => failureResponse fault

/-- The request is answered by an error page of the server's own about a failure or a missing route.
-/
def isOwnError : Verdict → Bool
  | refused _ => false
  | unread _ => true
  | unrouted => true
  | routed handler request =>
    match (handler.handle request).result with
    | .ok _ => false
    | .error _ => true

def calls : Verdict → List Call
  | routed handler request => [⟨handler.name, request⟩]
  | _ => []

def pauses : Verdict → List Nat
  | routed handler request => (handler.handle request).pauses
  | _ => []

def entries (head : Http.Head) : Verdict → List Log.Entry
  | refused _ => []
  | unread fault => [failureEntry fault]
  | unrouted => [unroutedEntry head]
  | routed handler request =>
    match (handler.handle request).result with
    | .ok _ => []
    | .error fault => [failureEntry fault]

def outcome (date : Text) (head : Http.Head) (v : Verdict) : Record where
  sent := responseBytes date head
    (Http.ResponseHead.closingAfter (endsAfter head) v.response.headers) v.response
  calls := v.calls
  pauses := v.pauses
  logs := v.entries head

theorem length_calls_le (v : Verdict) : v.calls.length ≤ 1 := by
  cases v <;> simp [calls]

theorem length_entries (head : Http.Head) (v : Verdict) :
    (v.entries head).length = if v.isOwnError then 1 else 0 := by
  cases v with
  | routed handler request =>
    cases hr : (handler.handle request).result <;> simp [entries, isOwnError, hr]
  | _ => rfl

theorem status_of_isOwnError {v : Verdict} (h : v.isOwnError = true) :
    v.response.status = 404 ∨ v.response.status = 500 := by
  cases v with
  | refused fault => cases h
  | unread fault => exact Or.inr rfl
  | unrouted => exact Or.inl rfl
  | routed handler request =>
    cases hr : (handler.handle request).result with
    | ok response => simp [isOwnError, hr] at h
    | error fault => exact Or.inr (by simp [response, hr, failureResponse])

theorem event_failureEntry_ne (fault : Fault) :
    (failureEntry fault).event ≠ .text unexpectedEvent := by
  intro he
  have hfirst : (failureMessage fault).head? = some 'I' := rfl
  rw [show failureMessage fault = unexpectedEvent from Value.text.inj he] at hfirst
  exact absurd hfirst (by decide)

theorem event_unroutedEntry_ne (head : Http.Head) :
    (unroutedEntry head).event ≠ .text unexpectedEvent := by
  intro he
  exact absurd (Value.text.inj he) (by decide)

/-- What is logged about a request is an error, and not one that nobody expects. -/
theorem event_ne_of_mem_entries {head : Http.Head} {v : Verdict} {entry : Log.Entry}
    (h : entry ∈ v.entries head) :
    entry.level = .error ∧ entry.event ≠ .text unexpectedEvent := by
  cases v with
  | refused fault => cases h
  | unread fault =>
    obtain rfl := List.mem_singleton.1 h
    exact ⟨rfl, event_failureEntry_ne fault⟩
  | unrouted =>
    obtain rfl := List.mem_singleton.1 h
    exact ⟨rfl, event_unroutedEntry_ne head⟩
  | routed handler request =>
    cases hr : (handler.handle request).result with
    | ok response => simp [entries, hr] at h
    | error fault =>
      simp only [entries, hr, List.mem_singleton] at h
      rw [h]
      exact ⟨rfl, event_failureEntry_ne fault⟩

end Verdict

namespace Connection
variable {site : Site} {head : Http.Head} {date : Text}

/-- A handler is called exactly if the request has been read without a fault and one of the routes
is for it. -/
theorem calls_verdict_iff (site : Site) (head : Http.Head) :
    (verdict site head).calls ≠ [] ↔
      ∃ n path, Http.ContentLength.ofHeaders head.headers = .ok n ∧
        Http.Target.path head.line.target = .ok path ∧
        ∃ route ∈ Ordered.keys site.routes, route.covers head.line.method path = true := by
  cases hl : Http.ContentLength.ofHeaders head.headers with
  | error fault =>
    by_cases hk : fault.kind = .badRequest <;> simp [verdict, hl, hk, Verdict.calls]
  | ok n =>
    cases hp : Http.Target.path head.line.target with
    | error fault => simp [verdict, hl, hp, Verdict.calls]
    | ok path =>
      have hfind := RouteTable.find?_isSome_iff site.routes head.line.method path
      simp only [Except.ok.injEq, exists_and_left, exists_eq_left', ← hfind]
      cases hf : RouteTable.find? site.routes head.line.method path <;>
        simp [verdict, hl, hp, hf, Verdict.calls]

theorem outcome_fail (hd : site.now.httpDate = .ok date) {fault : Fault}
    (hi : fault.isInterrupt = false) (ht : fault.IsTellable) (head : Http.Head) (closing : Bool)
    (s : Source) :
    outcome site (fail site head closing fault s) =
      { sent := responseBytes date head closing (failureResponse fault)
        logs := [failureEntry fault] } := by
  have hsent := (outcome_respond hd (isWritable_failureResponse fault) head closing
    (some fault) s).1
  rw [fail_eq hi ht]
  simp only [outcome] at hsent ⊢
  rw [requestError, Delivery.perform, hsent]
  rfl

theorem outcome_notFound (hd : site.now.httpDate = .ok date) (head : Http.Head) (closing : Bool)
    (s : Source) :
    outcome site (notFound site head closing s) =
      { sent := responseBytes date head closing { status := 404 }
        logs := [unroutedEntry head] } := by
  have hwritable : Http.Response.IsWritable { status := 404 } :=
    Http.Response.isWritable_of_lt 404 (by decide) []
  have hsent := (outcome_respond hd hwritable head closing none s).1
  simp only [outcome, notFound] at hsent ⊢
  rw [notFoundError, requestError, Delivery.perform, hsent]
  rfl

theorem outcome_handle (hd : site.now.httpDate = .ok date) {handler : Handler}
    {request : Http.Request} (hh : (handler.handle request).IsTellable) (head : Http.Head)
    (s : Source) :
    outcome site (handle site head (endsAfter head) handler request s) =
      (Verdict.routed handler request).outcome date head := by
  cases hr : (handler.handle request).result with
  | ok response =>
    rw [(outcome_handle_of_ok hr site head _ s).1,
      (outcome_respond hd (hh.of_ok hr) head _ none s).1]
    simp [Verdict.outcome, Verdict.response, Verdict.calls, Verdict.pauses, Verdict.entries, hr,
      Record.append_eq, Record.append]
  | error fault =>
    obtain ⟨hi, ht⟩ := hh.of_error hr
    rw [(outcome_handle_of_error hr site head _ s).1, outcome_fail hd hi ht head _ s]
    simp [Verdict.outcome, Verdict.response, Verdict.calls, Verdict.pauses, Verdict.entries, hr,
      Record.append_eq, Record.append, failureResponse]

theorem outcome_dispatch (hs : site.IsTellable date) {n : Nat}
    (hl : Http.ContentLength.ofHeaders head.headers = .ok n) (s : Source) :
    outcome site (dispatch site head (closingWith head n) s) =
      (verdict site head).outcome date head := by
  have hends : endsAfter head = closingWith head n := by simp only [endsAfter, hl]
  rw [← hends]
  cases hp : Http.Target.path head.line.target with
  | error fault =>
    have hnews := Http.Target.failsLoudly_path _ fault hp
    simp only [dispatch, verdict, hl, hp]
    exact outcome_fail hs.told hnews.isInterrupt hnews.isTellable head _ s
  | ok path =>
    cases hf : RouteTable.find? site.routes head.line.method path with
    | none =>
      simp only [dispatch, verdict, hl, hp, hf]
      exact outcome_notFound hs.told head _ s
    | some handler =>
      obtain ⟨route, hm⟩ := RouteTable.exists_mem_of_find? hf
      simp only [dispatch, verdict, hl, hp, hf]
      exact outcome_handle hs.told (hs.handlers _ hm _ rfl) head s

theorem outcome_answer (hs : site.IsTellable date) {t : Source} (hb : HasWholeBody head t) :
    outcome site (answer site head t) = (verdict site head).outcome date head := by
  cases hl : Http.ContentLength.ofHeaders head.headers with
  | error fault =>
    have hnews := Http.ContentLength.failsLoudly_ofHeaders _ fault hl
    by_cases hk : fault.kind = .badRequest
    · have hends : endsAfter head = true := by simp [endsAfter, hl, hk]
      simp only [answer, verdict, hl, if_pos hk, Verdict.outcome, hends,
        rejectBadRequest_eq hnews.isTellable]
      exact (outcome_respond hs.told (isWritable_refusalResponse fault) head true (some fault) t).1
    · have hends : endsAfter head = head.isClosing := by simp [endsAfter, hl, hk]
      simp only [answer, verdict, hl, if_neg hk, Verdict.outcome, hends]
      exact outcome_fail hs.told hnews.isInterrupt hnews.isTellable head _ t
  | ok n =>
    rw [answer_of_length hl, answerAfterBody_of_le (hb n hl)]
    exact outcome_dispatch hs hl _

end Connection
end GreetingServer
