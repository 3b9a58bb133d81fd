import GreetingServer.Connection
import GreetingServer.Proofs.AnnouncedLength
import GreetingServer.Proofs.Discarding
import GreetingServer.Proofs.WholeHead

/-! What an exchange owes to the head of its request alone. Once the body is dropped, the acts and
the end of the connection depend on the head and the site, and the source only says where the next
request is read from. -/
namespace GreetingServer

namespace Act

def isWrite : Act → Bool
  | .write _ _ => true
  | _ => false

def isCall : Act → Bool
  | .call _ => true
  | _ => false

def isInterrupt : Act → Bool
  | .interrupt _ => true
  | _ => false

end Act

namespace Exchange

/-- The same acts, with the next request, if there is one, read from a given source. -/
def onward (e : Exchange) (s : Source) : Exchange := { e with next := e.next.map fun _ => s }

def staysOpen (e : Exchange) : Bool := e.next.isSome

@[simp] theorem acts_onward (e : Exchange) (s : Source) : (e.onward s).acts = e.acts := rfl

theorem next_onward (e : Exchange) (s : Source) :
    (e.onward s).next = if e.staysOpen then some s else none := by
  cases h : e.next <;> simp [onward, staysOpen, h]

end Exchange

namespace Connection
variable {site : Site} {head : Http.Head} {closing : Bool} {handling : Option Fault}

/-- A response is written as a whole, and its own headers have the last word on whether the
connection goes on. -/
theorem respond_of_ok {response : Http.Response} {bytes : Option Bytes}
    (h : headBytes site head (Http.ResponseHead.closingAfter closing response.headers) response =
      .ok bytes) (s : Source) :
    respond site head closing handling response s =
      ⟨(bytes.toList.map fun b => .write b handling) ++ writeBody head response.body handling,
        nextSource (Http.ResponseHead.closingAfter closing response.headers) s⟩ := by
  cases bytes with
  | none => simp only [respond, h, Option.toList_none, List.map_nil, List.nil_append]
  | some bytes =>
    simp only [respond, h, Option.toList_some, List.map_cons, List.map_nil, List.cons_append,
      List.nil_append]

theorem respond_of_error {response : Http.Response} {fault : Fault}
    (h : headBytes site head (Http.ResponseHead.closingAfter closing response.headers) response =
      .error fault) (s : Source) :
    respond site head closing handling response s =
      ⟨farewellFrom site.peer fault handling, none⟩ := by
  simp only [respond, h]

/-! What follows a request is never looked at when it is answered. -/

theorem nextSource_map (closing : Bool) (s t : Source) :
    (nextSource closing s).map (fun _ => t) = nextSource closing t := by
  cases closing <;> rfl

theorem respond_onward (site : Site) (head : Http.Head) (closing : Bool) (handling : Option Fault)
    (response : Http.Response) (s t : Source) :
    (respond site head closing handling response s).onward t =
      respond site head closing handling response t := by
  cases hb : headBytes site head (Http.ResponseHead.closingAfter closing response.headers)
      response with
  | error fault =>
    rw [respond_of_error hb, respond_of_error hb]
    rfl
  | ok bytes =>
    rw [respond_of_ok hb, respond_of_ok hb]
    simp only [Exchange.onward, nextSource_map]

theorem respondWith_onward (site : Site) (head : Http.Head) (closing : Bool) (fault : Fault)
    (status : Int) (message : List CodePoint) (s t : Source) :
    (respondWith site head closing fault status message s).onward t =
      respondWith site head closing fault status message t := by
  unfold respondWith
  split
  · rfl
  · exact respond_onward ..

theorem rejectBadRequest_onward (site : Site) (head : Http.Head) (fault : Fault) (s t : Source) :
    (rejectBadRequest site head fault s).onward t = rejectBadRequest site head fault t := by
  unfold rejectBadRequest
  split
  · rfl
  · exact respondWith_onward ..

theorem fail_onward (site : Site) (head : Http.Head) (closing : Bool) (fault : Fault)
    (s t : Source) :
    (fail site head closing fault s).onward t = fail site head closing fault t := by
  unfold fail
  split
  · rfl
  · split
    · rfl
    · simp only [← respondWith_onward site head closing fault 500 _ s t]
      rfl

theorem notFound_onward (site : Site) (head : Http.Head) (closing : Bool) (s t : Source) :
    (notFound site head closing s).onward t = notFound site head closing t := by
  simp only [notFound, ← respond_onward site head closing none _ s t]
  rfl

theorem handle_onward (site : Site) (head : Http.Head) (closing : Bool) (handler : Handler)
    (request : Http.Request) (s t : Source) :
    (handle site head closing handler request s).onward t =
      handle site head closing handler request t := by
  cases hr : (handler.handle request).result with
  | ok response =>
    simp only [handle, hr, ← respond_onward site head closing none response s t]
    rfl
  | error fault =>
    simp only [handle, hr, ← fail_onward site head closing fault s t]
    rfl

theorem dispatch_onward (site : Site) (head : Http.Head) (closing : Bool) (s t : Source) :
    (dispatch site head closing s).onward t = dispatch site head closing t := by
  unfold dispatch
  split
  · exact fail_onward site head closing _ s t
  · split
    · exact notFound_onward site head closing s t
    · exact handle_onward site head closing _ _ s t

/-- The exchange of a request whose body, of a given length, is there as a whole, with nothing
behind it. -/
def alone (site : Site) (head : Http.Head) (length : Nat) : Exchange :=
  let e := dispatch site head (closingWith head length) ⟨[], none⟩
  ⟨interim head ++ e.acts, e.next⟩

theorem exchange_of_read {s t : Source} (h : Http.Head.read s = .ok (head, t)) :
    exchange site s = ⟨interim head ++ (answer site head t).acts, (answer site head t).next⟩ := by
  simp only [exchange, h]

theorem next_exchange_of_read (site : Site) {s t : Source} (h : Http.Head.read s = .ok (head, t)) :
    (exchange site s).next = (answer site head t).next := by
  rw [exchange_of_read h]

theorem answer_of_length {length : Nat} (h : Http.ContentLength.ofHeaders head.headers = .ok length)
    (s : Source) : answer site head s = answerAfterBody site head length s := by
  simp only [answer, h]

/-- A body that is there as a whole is dropped, and the request is answered as if it were alone. -/
theorem answerAfterBody_of_le {length : Nat} {s : Source} (h : length ≤ s.unread.length) :
    answerAfterBody site head length s =
      dispatch site head (closingWith head length) (s.skip length) := by
  simp only [answerAfterBody, Discard.run_of_le h]

/-- A part of the body is lacking, which is found out at the end of the source. -/
theorem answerAfterBody_of_lt {length : Nat} {s : Source} (h : s.unread.length < length) :
    answerAfterBody site head length s =
      if (s.failure.getD Discard.abandoned).isDisconnect then ⟨[], none⟩
      else if (s.failure.getD Discard.abandoned).kind = .badRequest then
        rejectBadRequest site head (s.failure.getD Discard.abandoned) { s with unread := [] }
      else fail site head (closingWith head length) (s.failure.getD Discard.abandoned)
        { s with unread := [] } := by
  simp only [answerAfterBody, Discard.run_of_lt h]

theorem exchange_of_body {s t : Source} (hr : Http.Head.read s = .ok (head, t)) {length : Nat}
    (hl : Http.ContentLength.ofHeaders head.headers = .ok length)
    (hb : length ≤ t.unread.length) :
    exchange site s = (alone site head length).onward (t.skip length) := by
  rw [exchange_of_read hr, answer_of_length hl, answerAfterBody_of_le hb,
    ← dispatch_onward site head _ ⟨[], none⟩ (t.skip length)]
  rfl

/-- A body that is as long as announced is skipped, and what is behind it comes next. -/
theorem exchange_of_append (site : Site) {s : Source} {body tail : Bytes} {failure : Option Fault}
    (hr : Http.Head.read s = .ok (head, ⟨body ++ tail, failure⟩))
    (hl : Http.ContentLength.ofHeaders head.headers = .ok body.length) :
    exchange site s = (alone site head body.length).onward ⟨tail, failure⟩ := by
  have hlen : body.length ≤ (Source.mk (body ++ tail) failure).unread.length := by
    rw [List.length_append]
    omega
  have hskip : (Source.mk (body ++ tail) failure).skip body.length = ⟨tail, failure⟩ := by
    rw [Source.skip, List.drop_left]
  rw [exchange_of_body hr hl hlen, hskip]

theorem isRest_next_answer {s t : Source} (h : (answer site head s).next = some t) :
    t.IsRest s := by
  cases hl : Http.ContentLength.ofHeaders head.headers with
  | error fault =>
    simp only [answer, hl] at h
    split at h
    · exact next_rejectBadRequest h ▸ s.isRest_refl
    · exact next_fail h ▸ s.isRest_refl
  | ok n =>
    rw [answer_of_length hl] at h
    by_cases hb : n ≤ s.unread.length
    · rw [answerAfterBody_of_le hb] at h
      exact next_dispatch h ▸ s.isRest_skip n
    · rw [answerAfterBody_of_lt (Nat.lt_of_not_le hb)] at h
      split at h
      · cases h
      · split at h
        · exact next_rejectBadRequest h ▸ s.isRest_empty
        · exact next_fail h ▸ s.isRest_empty

theorem isRest_next_exchange {s t : Source} (h : (exchange site s).next = some t) :
    t.IsRest s := by
  cases hr : Http.Head.read s with
  | error stop =>
    simp only [exchange, hr] at h
    cases h
  | ok found =>
    rw [next_exchange_of_read site hr] at h
    exact (isRest_next_answer h).trans (Http.Head.isRest_of_read hr)

/-- A request that leaves the connection open has taken the first bytes of the source, at least one
of them. -/
theorem exists_skip_of_next_exchange {s t : Source} (h : (exchange site s).next = some t) :
    ∃ n, 0 < n ∧ n ≤ s.unread.length ∧ t = s.skip n :=
  (isRest_next_exchange h).exists_skip (length_next_exchange_lt h)

/-! The run is only ended by an exchange that ends the connection too. -/

/-- If the connection goes on then no act ends the run. -/
def GoesOnUninterrupted (e : Exchange) : Prop :=
  e.staysOpen = true → ∀ act ∈ e.acts, act.isInterrupt = false

theorem isInterrupt_of_mem_writeBody {body : Bytes} {act : Act}
    (h : act ∈ writeBody head body handling) : act.isInterrupt = false := by
  unfold writeBody at h
  split at h
  · cases h
  · rw [List.mem_singleton.1 h]
    rfl

theorem goesOnUninterrupted_respond (response : Http.Response) (s : Source) :
    GoesOnUninterrupted (respond site head closing handling response s) := by
  intro hopen act hact
  cases hb : headBytes site head (Http.ResponseHead.closingAfter closing response.headers)
      response with
  | error fault =>
    rw [respond_of_error hb] at hopen
    cases hopen
  | ok bytes =>
    rw [respond_of_ok hb] at hact
    rcases List.mem_append.1 hact with hact | hact
    · obtain ⟨b, -, rfl⟩ := List.mem_map.1 hact
      rfl
    · exact isInterrupt_of_mem_writeBody hact

theorem goesOnUninterrupted_none (acts : List Act) : GoesOnUninterrupted ⟨acts, none⟩ := nofun

theorem goesOnUninterrupted_respondWith (fault : Fault) (status : Int) (message : List CodePoint)
    (s : Source) : GoesOnUninterrupted (respondWith site head closing fault status message s) := by
  unfold respondWith
  split
  · exact goesOnUninterrupted_none _
  · exact goesOnUninterrupted_respond _ s

theorem goesOnUninterrupted_rejectBadRequest (fault : Fault) (s : Source) :
    GoesOnUninterrupted (rejectBadRequest site head fault s) := by
  unfold rejectBadRequest
  split
  · exact goesOnUninterrupted_none _
  · exact goesOnUninterrupted_respondWith _ _ _ s

theorem goesOnUninterrupted_fail (fault : Fault) (s : Source) :
    GoesOnUninterrupted (fail site head closing fault s) := by
  unfold fail
  split
  · exact goesOnUninterrupted_none _
  · split
    · exact goesOnUninterrupted_none _
    · intro hopen act hact
      rcases List.mem_cons.1 hact with rfl | hact
      · rfl
      · exact goesOnUninterrupted_respondWith _ _ _ s hopen act hact

theorem goesOnUninterrupted_notFound (s : Source) :
    GoesOnUninterrupted (notFound site head closing s) := by
  intro hopen act hact
  rcases List.mem_cons.1 hact with rfl | hact
  · rfl
  · exact goesOnUninterrupted_respond _ s hopen act hact

theorem goesOnUninterrupted_handle (handler : Handler) (request : Http.Request) (s : Source) :
    GoesOnUninterrupted (handle site head closing handler request s) := by
  intro hopen act hact
  simp only [handle, List.mem_cons, List.cons_append, List.mem_append, List.mem_map] at hact
  rcases hact with rfl | ⟨duration, -, rfl⟩ | hact
  · rfl
  · rfl
  · cases hr : (handler.handle request).result with
    | ok response =>
      simp only [hr] at hact
      simp only [handle, hr] at hopen
      exact goesOnUninterrupted_respond response s hopen act hact
    | error fault =>
      simp only [hr] at hact
      simp only [handle, hr] at hopen
      exact goesOnUninterrupted_fail fault s hopen act hact

theorem goesOnUninterrupted_dispatch (s : Source) :
    GoesOnUninterrupted (dispatch site head closing s) := by
  unfold dispatch
  split
  · exact goesOnUninterrupted_fail _ _
  · split
    · exact goesOnUninterrupted_notFound _
    · exact goesOnUninterrupted_handle _ _ _

theorem goesOnUninterrupted_answer (s : Source) :
    GoesOnUninterrupted (answer site head s) := by
  unfold answer
  split
  · unfold answerAfterBody
    split
    · exact goesOnUninterrupted_dispatch _
    · split
      · exact goesOnUninterrupted_none _
      · split
        · exact goesOnUninterrupted_rejectBadRequest _ _
        · exact goesOnUninterrupted_fail _ _
  · split
    · exact goesOnUninterrupted_rejectBadRequest _ _
    · exact goesOnUninterrupted_fail _ _

theorem isInterrupt_of_mem_interim {act : Act} (h : act ∈ interim head) :
    act.isInterrupt = false := by
  unfold interim at h
  split at h
  · rw [List.mem_singleton.1 h]
    rfl
  · cases h

/-- The acts of an exchange after which the connection goes on do not end the run. -/
theorem goesOnUninterrupted_exchange (s : Source) :
    GoesOnUninterrupted (exchange site s) := by
  unfold exchange
  split
  · intro hopen
    cases hopen
  · intro hopen act hact
    rcases List.mem_append.1 hact with hact | hact
    · exact isInterrupt_of_mem_interim hact
    · exact goesOnUninterrupted_answer _ hopen act hact

/-- Induction on the exchanges of a connection, of which each leaves less unread. -/
theorem exchange_induction (site : Site) {motive : Source → Prop}
    (last : ∀ s, (exchange site s).next = none → motive s)
    (more : ∀ s t, (exchange site s).next = some t → motive t → motive s) (s : Source) :
    motive s := by
  induction hlen : s.unread.length using Nat.strongRecOn generalizing s with
  | ind n ih =>
    cases hnext : (exchange site s).next with
    | none => exact last s hnext
    | some t => exact more s t hnext (ih _ (hlen ▸ length_next_exchange_lt hnext) t rfl)

end Connection
end GreetingServer
