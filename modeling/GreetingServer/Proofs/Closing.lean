import GreetingServer.Proofs.Answer
import GreetingServer.Proofs.RefusalPage

/-! The end of a connection and its announcement. Whether the connection ends after a response is
found out before the head of the response is written, and the head announces the end if there is
one. So a peer that reads the heads knows where the connection ends, unless the fields of a handler
have line ends and look like other fields, or like the end of a head. -/
namespace GreetingServer

namespace Http

structure IsSilentField (field : Text × Text) : Prop where
  name : Text.lower field.1 ≠ "connection".toList
  line : ∀ c ∈ field.1 ++ field.2, Text.isLineEnd c = false

def closeLine : Text := fieldLine closeField

/-- The bytes start with a head that announces the end of the connection once, or not at all. -/
def TellsEnd (ends : Bool) (bytes : Bytes) : Prop :=
  ∃ lines behind, takeHead? bytes = some (lines, behind) ∧
    lines.count closeLine = if ends then 1 else 0

instance (ends : Bool) (bytes : Bytes) : Decidable (TellsEnd ends bytes) :=
  match h : takeHead? bytes with
  | none => isFalse (by simp [TellsEnd, h])
  | some (lines, behind) =>
    decidable_of_iff (lines.count closeLine = if ends then 1 else 0) (by simp [TellsEnd, h])

theorem name_of_fieldLine_eq {field : Text × Text} (h : fieldLine field = closeLine) :
    field.1 = "Connection".toList := by
  -- A name may have colons, but this line has only one, so that it tells where the name ends.
  have hcolon : ∀ n < 20, (closeLine.drop n).head? = some ':' →
      closeLine.take n = "Connection".toList := by decide
  have hsplit := IsPlainField.fieldLine_eq field
  rw [h] at hsplit
  have hlength : field.1.length < 20 := by
    have hl := congrArg List.length hsplit
    have hline : closeLine.length = 19 := by decide
    rw [hline, List.length_append, List.length_cons] at hl
    omega
  have htake : closeLine.take field.1.length = field.1 := by rw [hsplit, List.take_left]
  have hdrop : (closeLine.drop field.1.length).head? = some ':' := by
    rw [hsplit, List.drop_left]
    rfl
  exact htake.symm.trans (hcolon _ hlength hdrop)

theorem count_closeLine_of_other {fields : Headers}
    (h : ∀ field ∈ fields, Text.lower field.1 ≠ "connection".toList) :
    (fields.map fieldLine).count closeLine = 0 := by
  rw [List.count_eq_zero]
  intro hm
  obtain ⟨field, hf, he⟩ := List.mem_map.1 hm
  apply h field hf
  rw [name_of_fieldLine_eq he]
  decide

theorem codeLine_ne_closeLine (numeral phrase : Text) : codeLine numeral phrase ≠ closeLine := by
  intro he
  have hfirst : (codeLine numeral phrase).head? = some 'H' := rfl
  rw [he] at hfirst
  exact absurd hfirst (by decide)

theorem lower_ne_connection {name : String}
    (h : name ∈ ["Server", "Date", "Content-Length", "Content-Type"]) :
    Text.lower name.toList ≠ "connection".toList := by
  revert name
  decide

theorem lower_ne_of_common {date : Text} {field : Text × Text} (h : field ∈ commonFields date) :
    Text.lower field.1 ≠ "connection".toList := by
  simp only [commonFields, List.mem_cons, List.not_mem_nil, or_false] at h
  rcases h with rfl | rfl
  · exact lower_ne_connection (show "Server" ∈ _ by simp)
  · exact lower_ne_connection (show "Date" ∈ _ by simp)

theorem ResponseHead.count_closeLine {r : Response}
    (h : ∀ field ∈ r.headers, Text.lower field.1 ≠ "connection".toList) (date : Text)
    (closing : Bool) :
    ((ResponseHead.allFields date closing r).map fieldLine).count closeLine =
      if closing then 1 else 0 := by
  have hlength : ∀ field ∈ [lengthField r.body], Text.lower field.1 ≠ "connection".toList := by
    intro field hf
    rw [List.mem_singleton.1 hf]
    exact lower_ne_connection (show "Content-Length" ∈ _ by simp)
  rw [ResponseHead.allFields, ResponseHead.fields, List.map_append, List.map_append, List.map_append, List.count_append,
    List.count_append, List.count_append, count_closeLine_of_other fun _ => lower_ne_of_common,
    count_closeLine_of_other h, count_closeLine_of_other hlength]
  cases closing <;> rfl

theorem ErrorPage.count_closeLine (page : ErrorPage) (date : Text) :
    ((page.fields date).map fieldLine).count closeLine = 1 := by
  have hlast : ∀ field ∈ [("Content-Type".toList, "text/html;charset=utf-8".toList),
      lengthField page.body], Text.lower field.1 ≠ "connection".toList := by
    intro field hf
    simp only [List.mem_cons, List.not_mem_nil, or_false] at hf
    rcases hf with rfl | rfl
    · exact lower_ne_connection (show "Content-Type" ∈ _ by simp)
    · exact lower_ne_connection (show "Content-Length" ∈ _ by simp)
  rw [ErrorPage.fields, List.map_append, List.count_append, List.map_cons, List.count_cons,
    count_closeLine_of_other fun _ => lower_ne_of_common, count_closeLine_of_other hlast]
  rfl

theorem tellsEnd_of_takeHead? {ends : Bool} {bytes behind : Bytes} {numeral phrase : Text}
    {fields : Headers}
    (h : takeHead? bytes = some (codeLine numeral phrase :: fields.map fieldLine, behind))
    (hc : (fields.map fieldLine).count closeLine = if ends then 1 else 0) :
    TellsEnd ends bytes := by
  refine ⟨_, behind, h, ?_⟩
  rw [List.count_cons_of_ne (codeLine_ne_closeLine numeral phrase), hc]

end Http

/-- The responses of the handlers have fields of one line each, none of them about the connection.
-/
def Site.IsSilent (site : Site) : Prop := site.EveryField Http.IsSilentField

namespace Connection
open Http (TellsEnd)
variable {site : Site} {head : Http.Head} {s t : Source}

/-- Nothing is sent, or a head that tells whether the connection ends. -/
def IsAnnounced (site : Site) (e : Exchange) : Prop :=
  (outcome site e).sent = [] ∨ TellsEnd (!e.staysOpen) (outcome site e).sent

theorem isAnnounced_behind {before : List Act}
    (h : ∀ act ∈ before, act.isWrite = false ∧ act.isInterrupt = false) {e : Exchange}
    (he : IsAnnounced site e) : IsAnnounced site (e.behind before) := by
  have hsent : (outcome site (e.behind before)).sent = (outcome site e).sent :=
    Delivery.sent_perform_append site.peer h e.acts
  rw [IsAnnounced, hsent]
  exact he

theorem isAnnounced_farewell (fault : Fault) (next : Option Source) :
    IsAnnounced site ⟨farewell site.peer fault, next⟩ :=
  Or.inl (sent_perform_farewell site.peer fault)

theorem exists_date_of_headBytes (hbare : head.line.isBare = false) {closing : Bool}
    {response : Http.Response} {bytes : Option Bytes}
    (h : headBytes site head closing response = .ok bytes) :
    ∃ date, site.now.httpDate = .ok date ∧ response.IsWritable := by
  have hnumbered : response.IsNumbered := by
    by_contra hn
    obtain ⟨fault, hf⟩ := exists_headBytes_error site hbare closing hn
    rw [h] at hf
    cases hf
  simp only [headBytes, hbare, Bool.false_eq_true, if_false] at h
  split at h
  · cases h
  · split at h
    · cases h
    · rename_i date hd
      refine ⟨date, hd, hnumbered, ?_⟩
      cases he : Http.ResponseHead.encodeLines
          (Http.ResponseHead.fieldLines date closing response) with
      | error fault => simp [he, Except.map] at h
      | ok bytes => exact Http.ResponseHead.isLatin1Field_of_encodeLines he

theorem isAnnounced_respond (hbare : head.line.isBare = false) {response : Http.Response}
    (h : ∀ field ∈ response.headers, Http.IsSilentField field) (closing : Bool)
    (handling : Option Fault) (u : Source) :
    IsAnnounced site (respond site head closing handling response u) := by
  have hclosing :=
    Http.ResponseHead.closingAfter_of_silent (fun field hf => (h field hf).name) closing
  cases hb : headBytes site head (Http.ResponseHead.closingAfter closing response.headers)
      response with
  | error fault =>
    rw [respond_of_error hb]
    exact isAnnounced_farewell _ _
  | ok bytes =>
    obtain ⟨date, hd, hwritable⟩ := exists_date_of_headBytes hbare hb
    have hinner : ∀ field ∈ response.headers, ∀ c ∈ field.1 ++ field.2, Text.isInner c = true := by
      intro field hf c hc
      have hall : (field.1 ++ field.2).all Text.isLatin1 = true := by
        rw [List.all_append, (hwritable.latin1 field hf).1, (hwritable.latin1 field hf).2,
          Bool.and_self]
      rw [Text.isInner, List.all_eq_true.1 hall c hc, (h field hf).line c hc]
      rfl
    -- The fields have no say in the end, so that what the head announces is what comes about.
    obtain ⟨hsent, hnext⟩ := outcome_respond hd hwritable head closing handling u
    rw [hclosing] at hsent hnext
    right
    have hopen : (!(respond site head closing handling response u).staysOpen) = closing := by
      rw [Exchange.staysOpen, hnext]
      cases closing <;> rfl
    rw [hopen, hsent, responseBytes, hbare, if_neg Bool.false_ne_true]
    exact Http.tellsEnd_of_takeHead?
      (Http.ResponseHead.takeHead?_lines closing (Instant.all_isGraphic_httpDate hd) hinner _)
      (Http.ResponseHead.count_closeLine (fun field hf => (h field hf).name) date closing)

theorem isAnnounced_fail (hbare : head.line.isBare = false) (closing : Bool) (fault : Fault)
    (u : Source) : IsAnnounced site (fail site head closing fault u) := by
  by_cases hf : fault.isInterrupt = false ∧ fault.IsTellable
  · rw [fail_eq_behind hf.1 hf.2]
    refine isAnnounced_behind ?_ (isAnnounced_respond hbare (by simp [failureResponse]) _ _ _)
    intro act hact
    rw [List.mem_singleton.1 hact]
    exact ⟨rfl, rfl⟩
  · exact Or.inl (sent_of_endsMutely (endsMutely_fail_of_not hf site head closing u) site)

theorem isAnnounced_rejectBadRequest (hbare : head.line.isBare = false) (fault : Fault)
    (u : Source) : IsAnnounced site (rejectBadRequest site head fault u) := by
  by_cases ht : fault.IsTellable
  · rw [rejectBadRequest_eq ht]
    exact isAnnounced_respond hbare (by simp [refusalResponse]) _ _ _
  · exact Or.inl (sent_of_endsMutely (endsMutely_rejectBadRequest ht u) site)

/-- The answer to a request tells whether the next one is read. -/
theorem isAnnounced_answer (hs : site.IsSilent) (hbare : head.line.isBare = false) (t : Source) :
    IsAnnounced site (answer site head t) := by
  by_cases hbody : HasWholeBody head t
  · by_cases hanswered : (verdict site head).IsAnswered
    · obtain ⟨u, hanswer⟩ := answer_eq_behind hbody hanswered
      rw [hanswer]
      exact isAnnounced_behind (fun _ => Verdict.isWrite_of_mem_before)
        (isAnnounced_respond hbare (forall_mem_headers_verdict hs) _ _ _)
    · exact Or.inl (sent_answer_of_not_isAnswered hbody hanswered).2
  · obtain ⟨n, hl, hlt⟩ := exists_length_of_lacking hbody
    rw [answer_of_length hl, answerAfterBody_of_lt hlt]
    split
    · exact Or.inl rfl
    · split
      · exact isAnnounced_rejectBadRequest hbare _ _
      · exact isAnnounced_fail hbare _ _ _

theorem isAnnounced_refuse {page : Http.ErrorPage} (hp : page.IsPlain) (hbare : page.bare = false)
    (handling : Option Fault) : IsAnnounced site ⟨refuse site page handling, none⟩ := by
  cases hd : site.now.httpDate with
  | error fault =>
    simp only [refuse, hd]
    exact isAnnounced_farewell _ _
  | ok date =>
    right
    have hsent : (outcome site ⟨refuse site page handling, none⟩).sent =
        page.head date ++ (if page.headOnly then [] else [page.body]).flatten := by
      simp only [outcome, refuse, hd]
      rw [perform_writes]
      simp [Http.ErrorPage.writes, hbare]
    rw [hsent]
    exact Http.tellsEnd_of_takeHead?
      (Http.ErrorPage.takeHead?_head (Instant.all_isGraphic_httpDate hd) (hp hbare) _)
      (Http.ErrorPage.count_closeLine page date)

/-- One turn of a connection: a request, or what there is instead of one, is read and answered. -/
structure Turn where
  headed : Bool
  interim : Bytes
  answer : Exchange

/-- The turn that comes next. -/
def turn (site : Site) (s : Source) : Turn :=
  match Http.Head.read s with
  | .ok (head, t) => ⟨!head.line.isBare, interimBytes head, answer site head t⟩
  | .error (.refuse page handling) => ⟨!page.bare, [], ⟨refuse site page handling, none⟩⟩
  | .error stop => ⟨false, [], ⟨refusal site stop, none⟩⟩

/-- The turns of a connection, until it is not tried to read another request. -/
def turns (site : Site) (s : Source) : List Turn :=
  match _h : (exchange site s).next with
  | none => [turn site s]
  | some t => turn site s :: turns site t
termination_by s.unread.length
decreasing_by exact length_next_exchange_lt _h

theorem turns_of_next_none (h : (exchange site s).next = none) : turns site s = [turn site s] := by
  rw [turns]
  split <;> simp_all

theorem turns_of_next_some (h : (exchange site s).next = some t) :
    turns site s = turn site s :: turns site t := by
  rw [turns]
  split <;> simp_all

theorem turns_ne_nil (site : Site) (s : Source) : turns site s ≠ [] := by
  cases hn : (exchange site s).next with
  | none => simp [turns_of_next_none hn]
  | some t => simp [turns_of_next_some hn]

theorem exchange_eq_turn (site : Site) (s : Source) :
    (turn site s).answer.next = (exchange site s).next ∧
      (outcome site (exchange site s)).sent =
        (turn site s).interim ++ (outcome site (turn site s).answer).sent := by
  cases hr : Http.Head.read s with
  | ok found =>
    obtain ⟨head, t⟩ := found
    simp only [turn, hr]
    exact ⟨(next_exchange_of_read site hr).symm, by rw [outcome_exchange hr]; rfl⟩
  | error stop =>
    have hexchange : exchange site s = ⟨refusal site stop, none⟩ := by simp only [exchange, hr]
    rw [hexchange]
    cases stop <;> simp only [turn, hr] <;> exact ⟨trivial, rfl⟩

theorem isAnnounced_turn (hs : site.IsSilent) (h : (turn site s).headed = true) :
    IsAnnounced site (turn site s).answer := by
  cases hr : Http.Head.read s with
  | ok found =>
    obtain ⟨head, t⟩ := found
    simp only [turn, hr, Bool.not_eq_true'] at h ⊢
    exact isAnnounced_answer hs h t
  | error stop =>
    cases stop with
    | quiet => simp [turn, hr] at h
    | refuse page handling =>
      simp only [turn, hr, Bool.not_eq_true'] at h ⊢
      exact isAnnounced_refuse (Http.Head.isPlain_of_read hr) h handling
    | fail fault => simp [turn, hr] at h

theorem sent_turns (site : Site) (s : Source) :
    (serve site s Sink.unlimited).sent =
      (turns site s).flatMap fun turn => turn.interim ++ (outcome site turn.answer).sent := by
  induction hlen : s.unread.length using Nat.strongRecOn generalizing s with
  | ind n ih =>
    cases hn : (exchange site s).next with
    | none =>
      rw [serve_of_next_none hn, turns_of_next_none hn, (exchange_eq_turn site s).2]
      simp
    | some t =>
      have hrest := ih t.unread.length (hlen ▸ length_next_exchange_lt hn) t rfl
      rw [serve_of_next_some hn, turns_of_next_some hn, List.flatMap_cons,
        ← (exchange_eq_turn site s).2, ← hrest]
      rfl

theorem isEmpty_of_turns {before behind : List Turn} {last : Turn}
    (h : turns site s = before ++ last :: behind) :
    ∃ u, last = turn site u ∧ behind.isEmpty = !last.answer.staysOpen := by
  induction before generalizing s with
  | nil =>
    rw [List.nil_append] at h
    cases hn : (exchange site s).next with
    | none =>
      rw [turns_of_next_none hn] at h
      obtain ⟨rfl, rfl⟩ := List.cons.inj h
      refine ⟨s, rfl, ?_⟩
      rw [Exchange.staysOpen, (exchange_eq_turn site s).1, hn]
      rfl
    | some t =>
      rw [turns_of_next_some hn] at h
      obtain ⟨rfl, rfl⟩ := List.cons.inj h
      refine ⟨s, rfl, ?_⟩
      rw [Exchange.staysOpen, (exchange_eq_turn site s).1, hn, List.isEmpty_eq_false_iff.2]
      · rfl
      · exact turns_ne_nil site t
  | cons first before ih =>
    cases hn : (exchange site s).next with
    | none =>
      rw [turns_of_next_none hn] at h
      simpa using congrArg List.length h
    | some t =>
      rw [turns_of_next_some hn] at h
      exact ih (List.cons.inj h).2

/-- Closing is announced. What is sent on a connection is what is sent in its turns. If the final
response of a turn has a head and is sent then the head has the line about the end of the
connection, and has it once, exactly if it is not tried to read another request. -/
theorem tellsEnd_turns (hs : site.IsSilent) (s : Source) :
    (serve site s Sink.unlimited).sent =
        (turns site s).flatMap (fun turn => turn.interim ++ (outcome site turn.answer).sent) ∧
      ∀ before turn behind, turns site s = before ++ turn :: behind → turn.headed = true →
        (outcome site turn.answer).sent = [] ∨
          TellsEnd behind.isEmpty (outcome site turn.answer).sent := by
  refine ⟨sent_turns site s, ?_⟩
  intro before last behind hturns hheaded
  obtain ⟨u, rfl, hlast⟩ := isEmpty_of_turns hturns
  rw [hlast]
  exact isAnnounced_turn hs hheaded

/-- A request in an older version, which does not keep the connection open. -/
def oldBytes : Bytes := "GET / HTTP/1.0\r\n\r\n".toList.map Text.toByte

def oldHead : Http.Head := ⟨⟨"GET".toList, "/".toList, "HTTP/1.0".toList, false⟩, []⟩

theorem read_oldBytes : Http.Head.read ⟨oldBytes, none⟩ = .ok (oldHead, ⟨[], none⟩) := by rfl

theorem isSilent_greeting : Greeting.site.IsSilent := by
  intro entry hentry request hpeer response hr field hf
  obtain rfl := List.mem_singleton.1 hentry
  obtain rfl := Except.ok.inj hr
  obtain rfl := List.mem_singleton.1 hf
  have hother : Text.lower Greeting.header ≠ "connection".toList := by decide
  have hno : (Greeting.header ++ Greeting.site.peer.text).any Text.isLineEnd =
      false := by decide
  have hfree : ∀ c ∈ Greeting.header ++ Greeting.site.peer.text,
      Text.isLineEnd c = false := fun c hc => Bool.eq_false_iff.2 (List.any_eq_false.1 hno c hc)
  rw [← hpeer] at hfree
  exact ⟨hother, hfree⟩

theorem turn_of_read (site : Site) (hr : Http.Head.read s = .ok (head, t))
    (hl : Http.ContentLength.ofHeaders head.headers = .ok 0) :
    turn site s =
      ⟨!head.line.isBare, interimBytes head, dispatch site head (closingWith head 0) t⟩ := by
  simp only [turn, hr, answer_of_length hl, answerAfterBody_of_le (Nat.zero_le _), Source.skip_zero]

/-- If its answer keeps the connection open then the next turn comes behind its head. -/
theorem turns_of_read (site : Site) (hr : Http.Head.read s = .ok (head, t))
    (hl : Http.ContentLength.ofHeaders head.headers = .ok 0) :
    turns site s = turn site s ::
      if (dispatch site head (closingWith head 0) ⟨[], none⟩).staysOpen then turns site t
      else [] := by
  have hnext := (exchange_eq_turn site s).1
  rw [turn_of_read site hr hl, ← dispatch_onward site head _ ⟨[], none⟩ t,
    Exchange.next_onward] at hnext
  split at hnext
  · rename_i hopen
    rw [turns_of_next_some hnext.symm, if_pos hopen]
  · rename_i hopen
    rw [turns_of_next_none hnext.symm, if_neg hopen]

/-- The second of two greetings announces the end, and the first does not. -/
theorem tellsEnd_turns_greeting :
    Greeting.site.IsSilent ∧
      ∃ first last, turns Greeting.site ⟨getBytes ++ oldBytes, none⟩ = [first, last] ∧
        first.headed = true ∧ last.headed = true ∧
        TellsEnd false (outcome Greeting.site first.answer).sent ∧
        TellsEnd true (outcome Greeting.site last.answer).sent := by
  have hfirst : Http.Head.read ⟨getBytes ++ oldBytes, none⟩ =
      .ok (getHead, ⟨oldBytes, none⟩) := by rfl
  have hopen : (dispatch Greeting.site getHead (closingWith getHead 0) ⟨[], none⟩).staysOpen =
      true := by decide +kernel
  have hclosed : (dispatch Greeting.site oldHead (closingWith oldHead 0) ⟨[], none⟩).staysOpen =
      false := by decide +kernel
  have hturns : turns Greeting.site ⟨getBytes ++ oldBytes, none⟩ =
      [turn Greeting.site ⟨getBytes ++ oldBytes, none⟩, turn Greeting.site ⟨oldBytes, none⟩] := by
    rw [turns_of_read Greeting.site hfirst rfl, hopen, if_pos rfl,
      turns_of_read Greeting.site read_oldBytes rfl, hclosed, if_neg Bool.false_ne_true]
  obtain ⟨-, htells⟩ := tellsEnd_turns isSilent_greeting ⟨getBytes ++ oldBytes, none⟩
  have hhead : (turn Greeting.site ⟨getBytes ++ oldBytes, none⟩).headed = true := by
    rw [turn_of_read Greeting.site hfirst rfl]
    decide
  have holdHead : (turn Greeting.site ⟨oldBytes, none⟩).headed = true := by
    rw [turn_of_read Greeting.site read_oldBytes rfl]
    decide
  have htold := htells [] _ _ hturns hhead
  have hended := htells [_] _ [] hturns holdHead
  refine ⟨isSilent_greeting, _, _, hturns, hhead, holdHead, htold.resolve_left ?_,
    hended.resolve_left ?_⟩
  · rw [turn_of_read Greeting.site hfirst rfl]
    decide +kernel
  · rw [turn_of_read Greeting.site read_oldBytes rfl]
    decide +kernel

/-- A site whose handler adds a field with a given value. -/
def taggedSite (value : Text) : Site :=
  { Greeting.site with
    routes := RouteTable.ofEntries
      [(Greeting.route, Handler.constant "note".toList
        { headers := [("X-Note".toList, value)] })] }

/-- A value that looks like the announcement of the end. -/
def closingValue : Text := "a\r\nConnection: close".toList

def endingValue : Text := "a\r\n\r\nb".toList

/-- With line ends in the fields of a handler, none of which is about the connection, a peer is
misled. The end is announced although the next request is read, or it is not announced although the
connection ends. -/
theorem not_tellsEnd_tagged :
    Text.lower "X-Note".toList ≠ "connection".toList ∧
      (∃ first behind, turns (taggedSite closingValue) ⟨getBytes, none⟩ = first :: behind ∧
        behind ≠ [] ∧ first.headed = true ∧
        (outcome (taggedSite closingValue) first.answer).sent ≠ [] ∧
        ¬TellsEnd false (outcome (taggedSite closingValue) first.answer).sent) ∧
      ∃ last, turns (taggedSite endingValue) ⟨oldBytes, none⟩ = [last] ∧ last.headed = true ∧
        (outcome (taggedSite endingValue) last.answer).sent ≠ [] ∧
        ¬TellsEnd true (outcome (taggedSite endingValue) last.answer).sent := by
  have hget : Http.Head.read ⟨getBytes, none⟩ = .ok (getHead, ⟨[], none⟩) := by rfl
  have hopen : (dispatch (taggedSite closingValue) getHead (closingWith getHead 0)
      ⟨[], none⟩).staysOpen = true := by decide +kernel
  have hclosed : (dispatch (taggedSite endingValue) oldHead (closingWith oldHead 0)
      ⟨[], none⟩).staysOpen = false := by decide +kernel
  refine ⟨by decide, ⟨turn (taggedSite closingValue) ⟨getBytes, none⟩,
    turns (taggedSite closingValue) ⟨[], none⟩, ?_, turns_ne_nil _ _, ?_⟩,
    turn (taggedSite endingValue) ⟨oldBytes, none⟩, ?_, ?_⟩
  · rw [turns_of_read _ hget rfl, hopen, if_pos rfl]
  · rw [turn_of_read _ hget rfl]
    decide +kernel
  · rw [turns_of_read _ read_oldBytes rfl, hclosed, if_neg Bool.false_ne_true]
  · rw [turn_of_read _ read_oldBytes rfl]
    decide +kernel

end Connection
end GreetingServer
