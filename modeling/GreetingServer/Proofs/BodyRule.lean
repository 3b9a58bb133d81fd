import GreetingServer.Proofs.Closing
import GreetingServer.Proofs.ResponseStream

/-! Responses without bodies. Besides the responses to requests for a head alone there are statuses
whose responses end with their heads, whatever length these tell. The server only minds the former:
the body of a handler follows a head with such a status too, and a peer that knows the rule takes it
for the start of the next response. -/
namespace GreetingServer
namespace Http

/-- The response to a request may have a body: its status is neither an interim one nor one of those
that say that there is none. -/
def Status.allowsBody (status : Int) : Bool :=
  !((100 ≤ status && status ≤ 199) || status = 204 || status = 304)

/-- The response that comes first for a peer that knows which statuses are without bodies, and what
is behind it. -/
def WireResponse.readByRule? (headOnly : Bool) (bytes : Bytes) : Option (WireResponse × Bytes) :=
  match read? true bytes with
  | none => none
  | some (response, _) => read? (headOnly || !Status.allowsBody response.status) bytes

namespace WireResponse
variable {date : Text} {closing : Bool} {r : Response}

theorem readByRule?_lines (hd : date.all Text.isGraphic = true)
    (h : ∀ field ∈ r.headers, IsLegibleField field) (headOnly : Bool) (behind : Bytes) :
    readByRule? headOnly
        ((ResponseHead.lines date closing r).flatten.map Text.toByte ++ behind) =
      read? (headOnly || !Status.allowsBody r.status)
        ((ResponseHead.lines date closing r).flatten.map Text.toByte ++ behind) := by
  have hpeek := read?_lines closing hd h true behind
  rw [if_pos rfl, List.nil_append] at hpeek
  simp only [readByRule?, hpeek]
  rfl

/-- A peer that knows the rule reads a response to its end exactly if it has a body only where there
may be one. -/
theorem forall_readByRule?_iff (hd : date.all Text.isGraphic = true)
    (h : ∀ field ∈ r.headers, IsLegibleField field) (headOnly : Bool) :
    (∀ rest, ∃ response, readByRule? headOnly
        ((ResponseHead.lines date closing r).flatten.map Text.toByte ++
          ((if headOnly then [] else r.body) ++ rest)) = some (response, rest)) ↔
      headOnly = true ∨ Status.allowsBody r.status = true ∨ r.body = [] := by
  simp only [readByRule?_lines hd h]
  have hwhole := fun only rest => read?_lines closing hd h only rest
  cases headOnly with
  | true => exact iff_of_true (fun rest => ⟨_, hwhole true rest⟩) (Or.inl rfl)
  | false =>
    cases hallows : Status.allowsBody r.status with
    | true => exact iff_of_true (fun rest => ⟨_, hwhole false rest⟩) (Or.inr (Or.inl rfl))
    | false =>
      -- Here the peer stops behind the head, and so the body is left over.
      have hleft : ∀ rest, read? true ((ResponseHead.lines date closing r).flatten.map
          Text.toByte ++ (r.body ++ rest)) =
            some (ofResponse date closing true r, r.body ++ rest) :=
        fun rest => hwhole true (r.body ++ rest)
      simp only [Bool.false_or, Bool.not_false, Bool.false_eq_true, if_false, false_or, hleft,
        Option.some.injEq, Prod.mk.injEq, exists_eq_left', List.append_left_eq_self, forall_const]

end WireResponse
end Http

namespace Connection
open Http (WireResponse)
variable {site : Site} {head : Http.Head} {s t : Source}

def responseFront? (site : Site) (head : Http.Head) : Option Bytes :=
  match headBytes site head
    (Http.ResponseHead.closingAfter (endsAfter head) (verdict site head).response.headers)
    (verdict site head).response with
  | .ok front => front
  | .error _ => none

/-- Bytes follow the head of the response to a request. -/
def SendsBody (site : Site) (head : Http.Head) (t : Source) : Prop :=
  ∃ front behind, responseFront? site head = some front ∧
    (outcome site (answer site head t)).sent = front ++ behind ∧ behind ≠ []

/-- Bytes follow the head only if there may be a body. -/
def KeepsBodyRule (site : Site) (head : Http.Head) (t : Source) : Prop :=
  SendsBody site head t →
    head.line.isHead = false ∧ Http.Status.allowsBody (verdict site head).response.status = true

/-- A peer that knows the rule finds what is sent next where it starts, whatever that is. -/
def FindsNext (site : Site) (head : Http.Head) (t : Source) : Prop :=
  ∀ rest, ∃ response, WireResponse.readByRule? head.line.isHead
    ((outcome site (answer site head t)).sent ++ rest) = some (response, rest)

/-- The response that is made for a request has a body only if its status allows one, or the head
alone is asked for. -/
def HasRightBody (site : Site) (head : Http.Head) : Prop :=
  head.line.isHead = true ∨ Http.Status.allowsBody (verdict site head).response.status = true ∨
    (verdict site head).response.body = []

theorem failure_of_mem_course (hs : s.failure = none)
    (hm : (head, t) ∈ (course site s).requests) : t.failure = none := by
  induction hlen : s.unread.length using Nat.strongRecOn generalizing s with
  | ind n ih =>
    cases hr : Http.Head.read s with
    | error stop =>
      rw [course_of_error hr] at hm
      cases hm
    | ok found =>
      obtain ⟨first, u⟩ := found
      have hu : u.failure = none := (Http.Head.failure_of_read hr).trans hs
      cases hn : (exchange site s).next with
      | none =>
        rw [course_of_next_none hr hn] at hm
        obtain ⟨-, rfl⟩ := Prod.mk.inj (List.mem_singleton.1 hm)
        exact hu
      | some v =>
        rw [course_of_next_some hr hn] at hm
        rcases List.mem_cons.1 hm with he | hm
        · obtain ⟨-, rfl⟩ := Prod.mk.inj he
          exact hu
        · exact ih v.unread.length (hlen ▸ length_next_exchange_lt hn)
            ((failure_next_exchange hn).trans hs) hm rfl

theorem sent_answer (ht : t.failure = none) (hbare : head.line.isBare = false) :
    (outcome site (answer site head t)).sent = [] ∨
      ∃ date front, site.now.httpDate = .ok date ∧
        front = (Http.ResponseHead.lines date
          (Http.ResponseHead.closingAfter (endsAfter head) (verdict site head).response.headers)
          (verdict site head).response).flatten.map Text.toByte ∧
        responseFront? site head = some front ∧
        (outcome site (answer site head t)).sent =
          front ++ if head.line.isHead then [] else (verdict site head).response.body := by
  by_cases hbody : HasWholeBody head t
  · by_cases hanswered : (verdict site head).IsAnswered
    swap
    · exact Or.inl (sent_answer_of_not_isAnswered hbody hanswered).2
    · obtain ⟨u, hanswer⟩ := answer_eq_behind hbody hanswered
      have hsent : (outcome site (answer site head t)).sent =
          (outcome site (respond site head (endsAfter head) (verdict site head).handling
            (verdict site head).response u)).sent := by
        rw [hanswer, outcome_behind]
        rfl
      cases hb : headBytes site head (Http.ResponseHead.closingAfter (endsAfter head)
          (verdict site head).response.headers) (verdict site head).response with
      | error fault =>
        left
        rw [hsent, respond_of_error hb]
        exact sent_perform_farewell _ _
      | ok bytes =>
        right
        obtain ⟨date, hd, hwritable⟩ := exists_date_of_headBytes hbare hb
        have hfront := headBytes_of_isWritable hd head (Http.ResponseHead.closingAfter
          (endsAfter head) (verdict site head).response.headers) hwritable
        rw [hbare, if_neg Bool.false_ne_true] at hfront
        refine ⟨date, _, hd, rfl, by rw [responseFront?, hfront], ?_⟩
        rw [hsent, (outcome_respond hd hwritable head (endsAfter head) _ u).1, responseBytes,
          hbare]
        rfl
  · left
    rw [answer_of_lacking ht hbody]
    rfl

theorem sendsBody_iff (ht : t.failure = none) (hbare : head.line.isBare = false)
    (hsome : (outcome site (answer site head t)).sent ≠ []) :
    SendsBody site head t ↔
      head.line.isHead = false ∧ (verdict site head).response.body ≠ [] := by
  obtain ⟨date, front, -, -, hfront, hsent⟩ := (sent_answer ht hbare).resolve_left hsome
  constructor
  · rintro ⟨other, behind, hother, happend, hne⟩
    obtain rfl : front = other := Option.some.inj (hfront.symm.trans hother)
    rw [← List.append_cancel_left (hsent.symm.trans happend)] at hne
    cases hhead : head.line.isHead with
    | true =>
      rw [hhead, if_pos rfl] at hne
      exact absurd rfl hne
    | false =>
      rw [hhead, if_neg Bool.false_ne_true] at hne
      exact ⟨rfl, hne⟩
  · rintro ⟨hhead, hbody⟩
    rw [hhead, if_neg Bool.false_ne_true] at hsent
    exact ⟨front, _, hfront, hsent, hbody⟩

theorem keepsBodyRule_iff_of_ended (ht : t.failure = none) (hbare : head.line.isBare = false) :
    KeepsBodyRule site head t ↔
      HasRightBody site head ∨ (outcome site (answer site head t)).sent = [] := by
  by_cases hnone : (outcome site (answer site head t)).sent = []
  · refine iff_of_true ?_ (Or.inr hnone)
    rintro ⟨front, behind, -, happend, hne⟩
    rw [hnone] at happend
    exact absurd (List.append_eq_nil_iff.1 happend.symm).2 hne
  · rw [KeepsBodyRule, sendsBody_iff ht hbare hnone, or_iff_left hnone, HasRightBody]
    cases head.line.isHead with
    | true => simp
    | false =>
      by_cases hbody : (verdict site head).response.body = [] <;> simp [hbody]

/-- A peer that knows the rule finds the next response exactly behind one with the right body. -/
theorem findsNext_iff (hlegible : site.IsLegible) (ht : t.failure = none)
    (hbare : head.line.isBare = false)
    (hsome : (outcome site (answer site head t)).sent ≠ []) :
    FindsNext site head t ↔ HasRightBody site head := by
  obtain ⟨date, front, hd, rfl, -, hsent⟩ := (sent_answer ht hbare).resolve_left hsome
  have hfields : ∀ field ∈ (verdict site head).response.headers, Http.IsLegibleField field :=
    forall_mem_headers_verdict hlegible
  simp only [FindsNext, hsent, List.append_assoc]
  exact WireResponse.forall_readByRule?_iff (Instant.all_isGraphic_httpDate hd) hfields
    head.line.isHead

/-- On a connection that simply ends, and for every request on it that is answered behind a head,
the rule is kept exactly if the response has the right body or is not sent. A peer that knows the
rule finds the next response exactly if this one has the right body, provided that the handlers'
fields come through as they are. -/
theorem keepsBodyRule_iff (hs : s.failure = none) (hm : (head, t) ∈ (course site s).requests)
    (hbare : head.line.isBare = false) :
    (KeepsBodyRule site head t ↔
        HasRightBody site head ∨ (outcome site (answer site head t)).sent = []) ∧
      (site.IsLegible → (outcome site (answer site head t)).sent ≠ [] →
        (FindsNext site head t ↔ HasRightBody site head)) :=
  have ht := failure_of_mem_course hs hm
  ⟨keepsBodyRule_iff_of_ended ht hbare, fun hlegible hsome => findsNext_iff hlegible ht hbare hsome⟩

def constantSite (status : Int) (body : Bytes) : Site :=
  { Greeting.site with
    routes := RouteTable.ofEntries
      [(Greeting.route, Handler.constant "note".toList { status, body })] }

theorem isLegible_constantSite (status : Int) (body : Bytes) :
    (constantSite status body).IsLegible := by
  intro entry hentry request _ response hr field hf
  obtain rfl := List.mem_singleton.1 hentry
  obtain rfl := Except.ok.inj hr
  cases hf

theorem read_getBytes : Http.Head.read ⟨getBytes, none⟩ = .ok (getHead, ⟨[], none⟩) := by rfl

/-- A response that says that nothing has changed has no body and is read to its end. -/
theorem keepsBodyRule_unchanged :
    (getHead, ⟨[], none⟩) ∈ (course (constantSite 304 []) ⟨getBytes, none⟩).requests ∧
      getHead.line.isBare = false ∧
      KeepsBodyRule (constantSite 304 []) getHead ⟨[], none⟩ ∧
      FindsNext (constantSite 304 []) getHead ⟨[], none⟩ := by
  have hm := mem_course_of_read (constantSite 304 []) read_getBytes
  have hright : HasRightBody (constantSite 304 []) getHead := by
    exact Or.inr (Or.inr (by decide +kernel))
  have hsome : (outcome (constantSite 304 []) (answer (constantSite 304 []) getHead
      ⟨[], none⟩)).sent ≠ [] := by
    decide +kernel
  obtain ⟨hkeeps, hfinds⟩ := keepsBodyRule_iff rfl hm (show getHead.line.isBare = false by decide)
  exact ⟨hm, by decide, hkeeps.2 (Or.inl hright),
    (hfinds (isLegible_constantSite 304 []) hsome).2 hright⟩

/-- The body of a handler whose response says that there is none is sent nevertheless, and a peer
that knows the rule does not find what comes next. -/
theorem not_keepsBodyRule_noContent :
    (getHead, ⟨[], none⟩) ∈ (course (constantSite 204 [120]) ⟨getBytes, none⟩).requests ∧
      getHead.line.isBare = false ∧
      ¬KeepsBodyRule (constantSite 204 [120]) getHead ⟨[], none⟩ ∧
      ¬FindsNext (constantSite 204 [120]) getHead ⟨[], none⟩ := by
  have hwrong : ¬HasRightBody (constantSite 204 [120]) getHead := by
    rintro (hhead | hallows | hbody)
    · exact absurd hhead (by decide)
    · exact absurd hallows (by decide +kernel)
    · exact absurd hbody (by decide +kernel)
  have hsome : (outcome (constantSite 204 [120]) (answer (constantSite 204 [120]) getHead
      ⟨[], none⟩)).sent ≠ [] := by
    decide +kernel
  have hbare : getHead.line.isBare = false := by decide
  refine ⟨mem_course_of_read _ read_getBytes, hbare, ?_, ?_⟩
  · rw [keepsBodyRule_iff_of_ended rfl hbare]
    exact fun h => h.elim hwrong hsome
  · rw [findsNext_iff (isLegible_constantSite 204 [120]) rfl hbare hsome]
    exact hwrong

end Connection
end GreetingServer
