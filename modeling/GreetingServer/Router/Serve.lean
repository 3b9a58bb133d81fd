import GreetingServer.Router

/-! What a router does about a request is the exchange for it, whatever its fields have been before:
a head sets all of them but the buffer, and the buffer is empty between requests. So a connection
can be served by one router. -/
namespace GreetingServer
namespace Router
open Http (Head)
open Http.ResponseHead (encodeLine encodeLines afterField closingAfter)
variable {site : Site} {head : Head} {closing : Bool}

@[simp] theorem isBare_put (bytes : Bytes) (r : Router) : (r.put bytes).isBare = r.isBare := rfl
@[simp] theorem isBare_setClosing (closing : Bool) (r : Router) :
    (r.setClosing closing).isBare = r.isBare := rfl
@[simp] theorem isHead_put (bytes : Bytes) (r : Router) : (r.put bytes).isHead = r.isHead := rfl
@[simp] theorem isHead_setClosing (closing : Bool) (r : Router) :
    (r.setClosing closing).isHead = r.isHead := rfl

@[simp] theorem closing_setClosing (closing : Bool) (r : Router) :
    (r.setClosing closing).closing = closing := rfl

theorem put_setClosing_put (a b : Bytes) (c d : Bool) (r : Router) :
    (((r.put a).setClosing c).put b).setClosing d = (r.put (a ++ b)).setClosing d := by
  simp [put, setClosing]

theorem result_during {α : Type} (handling : Option Fault) (action : Action α) (r : Router) :
    (during handling action).result r = match action.result r with
      | (.ok a, r) => (.ok a, r)
      | (.error f, r) => (.error { f with context := handling }, r) := by
  rw [during, Work.result_tryCatch]
  rcases action.result r with ⟨_ | _, _⟩ <;> rfl

def encode (r : Router) (lines : List Text) : Except Fault Bytes :=
  if r.isBare then .ok [] else encodeLines lines

@[simp] theorem encode_nil (r : Router) : r.encode [] = .ok [] := by
  unfold encode
  split <;> rfl

theorem encode_cons (r : Router) (line : Text) (rest : List Text) :
    r.encode (line :: rest) = (r.encode [line]).bind fun a => (r.encode rest).map (a ++ ·) := by
  unfold encode
  split
  · rfl
  · rw [Http.ResponseHead.encodeLines_cons, Http.ResponseHead.encodeLines_singleton]
    cases encodeLine line <;> rfl

/-- An action has put bytes to the head, or it has ended by a fault before anything was done. -/
def Puts (r : Router) (closing : Bool) (bytes : Except Fault Bytes)
    (outcome : Except Fault Unit × Router) : Prop :=
  match bytes with
  | .ok bytes => outcome = (.ok (), (r.put bytes).setClosing closing)
  | .error f => outcome.1 = .error f ∧ outcome.2.acts = r.acts

theorem Puts.andThen {r : Router} {c d : Bool} {a b : Except Fault Bytes}
    {first second : Action Unit} (ha : Puts r c a (first.result r))
    (hb : ∀ bytes, Puts ((r.put bytes).setClosing c) d b
      (second.result ((r.put bytes).setClosing c))) :
    Puts r d (a.bind fun x => b.map (x ++ ·)) ((do first; second : Action Unit).result r) := by
  rw [Work.result_bind]
  cases a with
  | error f =>
    obtain ⟨h, hacts⟩ := ha
    revert h hacts
    rcases first.result r with ⟨_ | _, s⟩
    · exact fun h hacts => ⟨by simpa using h, hacts⟩
    · nofun
  | ok bytes =>
    have h : first.result r = _ := ha
    rw [h]
    have hsecond := hb bytes
    cases b with
    | error f => exact hsecond
    | ok more => exact (show second.result _ = _ from hsecond).trans (by rw [put_setClosing_put])

theorem puts_sendLine (r : Router) (line : Text) :
    Puts r r.closing (r.encode [line]) ((sendLine line).result r) := by
  simp only [sendLine, encode, Work.result_bind, Work.result_get]
  cases r.isBare with
  | true => simp [Puts, put, setClosing]
  | false =>
    simp only [Http.ResponseHead.encodeLines_singleton, Bool.false_eq_true, if_false,
      Work.result_bind, Work.result_ofExcept, Work.result_modify]
    cases encodeLine line <;> simp [Puts, put, setClosing]

theorem puts_sendField (r : Router) (field : Text × Text) :
    Puts r (afterField r.closing field) (r.encode [Http.fieldLine field])
      ((sendField field).result r) := by
  have hline := puts_sendLine r (Http.fieldLine field)
  rw [sendField, Work.result_bind]
  revert hline
  cases r.encode [Http.fieldLine field] with
  | ok bytes =>
    intro h
    rw [show (sendLine (Http.fieldLine field)).result r = _ from h]
    rfl
  | error f =>
    rcases (sendLine (Http.fieldLine field)).result r with ⟨_ | _, s⟩
    · exact id
    · nofun

theorem puts_sendFields (r : Router) (fields : Http.Headers) :
    Puts r (closingAfter r.closing fields) (r.encode (fields.map Http.fieldLine))
      ((sendFields fields).result r) := by
  induction fields generalizing r with
  | nil => simp [sendFields, Puts, put, setClosing]
  | cons field rest ih =>
    rw [List.map_cons, encode_cons]
    exact (puts_sendField r field).andThen fun bytes => ih _

/-- A router whose fields are those that a head has set, and which has written all that it has put
together. -/
structure Serves (r : Router) (head : Head) (closing : Bool) : Prop where
  method : r.method = head.line.method
  version : r.version = head.line.version
  closing : r.closing = closing
  buffer : r.buffer = []

def ending (site : Site) : Except Fault Unit → List Act
  | .ok () => []
  | .error fault => Connection.farewell site.peer fault

def next? : Except Fault Unit × Router → Option Source
  | (.ok (), r) => if r.closing then none else some r.source
  | (.error _, _) => none

/-- An action has come to what an exchange tells, and nothing is left in the buffer. -/
structure ComesTo (site : Site) (r : Router) (outcome : Except Fault Unit × Router)
    (e : Exchange) : Prop where
  acts : outcome.2.acts ++ ending site outcome.1 = r.acts ++ e.acts
  next : next? outcome = e.next
  buffer : outcome.1 = .ok () → outcome.2.buffer = []

theorem Serves.isBare {r : Router} (h : r.Serves head closing) : r.isBare = head.line.isBare := by
  rw [Router.isBare, h.version]
  rfl

theorem Serves.isHead {r : Router} (h : r.Serves head closing) : r.isHead = head.line.isHead := by
  rw [Router.isHead, h.method]
  rfl

theorem comesTo_error {r s : Router} {fault : Fault} (h : s.acts = r.acts) :
    ComesTo site r (.error fault, s) ⟨Connection.farewell site.peer fault, none⟩ where
  acts := by rw [h]; rfl
  next := rfl
  buffer := nofun

def headBytes (site : Site) (r : Router) (response : Http.Response) : Except Fault Bytes :=
  (if r.isBare then .ok [] else Http.ResponseHead.statusBytes response).bind fun first =>
    (site.now.httpDate.bind fun date =>
      r.encode ((Http.ResponseHead.fields date response ++
        Http.ResponseHead.closeFields (closingAfter r.closing response.headers)).map
          Http.fieldLine)).map (first ++ ·)

theorem encode_append (r : Router) (lines more : List Text) :
    r.encode (lines ++ more) = (r.encode lines).bind fun a => (r.encode more).map (a ++ ·) := by
  unfold encode
  split
  · rfl
  · rw [Http.ResponseHead.encodeLines_append]
    cases encodeLines lines <;> rfl

theorem puts_sendStatus (r : Router) (response : Http.Response) :
    Puts r r.closing (if r.isBare then .ok [] else Http.ResponseHead.statusBytes response)
      ((sendStatus response).result r) := by
  simp only [sendStatus, Work.result_bind, Work.result_get]
  cases hb : r.isBare with
  | true => simp [Puts, put, setClosing]
  | false =>
    simp only [Bool.false_eq_true, if_false, Work.result_bind, Work.result_ofExcept,
      Http.ResponseHead.statusBytes]
    cases Http.ResponseHead.statusLine response with
    | error f => exact ⟨rfl, rfl⟩
    | ok line =>
      have h := puts_sendLine r line
      rw [encode, hb, if_neg Bool.false_ne_true, Http.ResponseHead.encodeLines_singleton] at h
      exact h

/-- What the fields say about the connection decides on the last of them. -/
theorem puts_allFields (r : Router) (date : Text) (response : Http.Response) :
    Puts r (closingAfter r.closing response.headers)
      (r.encode ((Http.ResponseHead.fields date response ++
        Http.ResponseHead.closeFields (closingAfter r.closing response.headers)).map
          Http.fieldLine))
      ((do
        sendFields (Http.ResponseHead.fields date response)
        sendFields (Http.ResponseHead.closeFields (← get).closing) : Action Unit).result r) := by
  have hfields := puts_sendFields r (Http.ResponseHead.fields date response)
  rw [Http.ResponseHead.closingAfter_fields] at hfields
  rw [List.map_append, encode_append]
  refine hfields.andThen fun bytes => ?_
  have hclose := puts_sendFields
    ((r.put bytes).setClosing (closingAfter r.closing response.headers))
    (Http.ResponseHead.closeFields (closingAfter r.closing response.headers))
  rw [closing_setClosing, Http.ResponseHead.closingAfter_closeFields] at hclose
  rw [Work.result_bind]
  exact hclose

theorem puts_sendHead (site : Site) (r : Router) (response : Http.Response) :
    Puts r (closingAfter r.closing response.headers) (headBytes site r response)
      ((sendHead site response).result r) := by
  refine (puts_sendStatus r response).andThen fun bytes => ?_
  rw [Work.result_bind, Work.result_ofExcept]
  cases site.now.httpDate with
  | error f => exact ⟨rfl, rfl⟩
  | ok date => exact puts_allFields ((r.put bytes).setClosing r.closing) date response

theorem result_endHead (handling : Option Fault) (r : Router) :
    (endHead handling).result r =
      (.ok (), if r.isBare then r
        else { r.addActs [.write (r.buffer ++ [13, 10]) handling] with buffer := [] }) := by
  simp only [endHead, Work.result_bind, Work.result_get]
  by_cases h : r.isBare = true
  · simp only [if_pos h, Work.result_pure]
  · have hline : (sendLine Http.lineEnd).result r = (.ok (), r.put [13, 10]) := by
      have hp := puts_sendLine r Http.lineEnd
      rwa [encode, if_neg h, Http.ResponseHead.encodeLines_singleton] at hp
    simp only [if_neg h, Work.result_bind, hline]
    rfl

theorem result_sendBody (body : Bytes) (handling : Option Fault) (r : Router) :
    (sendBody body handling).result r =
      (.ok (), r.addActs (if r.isHead then [] else [.write body handling])) := by
  simp only [sendBody, perform, Work.result_bind, Work.result_get]
  cases r.isHead <;> simp [addActs]

/-- A head that has been put together is written before the body, whichever of them there are. -/
theorem result_endHead_sendBody (body : Bytes) (handling : Option Fault) (r : Router) :
    ((do endHead handling; sendBody body handling : Action Unit).result r) =
      (.ok (), { r.addActs ((if r.isBare then [] else [.write (r.buffer ++ [13, 10]) handling]) ++
        if r.isHead then [] else [.write body handling]) with
          buffer := if r.isBare then r.buffer else [] }) := by
  rw [Work.result_bind, result_endHead]
  simp only [result_sendBody]
  by_cases h : r.isBare = true
  · simp only [if_pos h]
    rfl
  · simp only [if_neg h, addActs, List.append_assoc]
    rfl

theorem Serves.headBytes_eq {r : Router} (h : r.Serves head closing) (response : Http.Response) :
    Connection.headBytes site head (closingAfter closing response.headers) response =
      (headBytes site r response).map fun bytes =>
        if r.isBare then none else some (bytes ++ [13, 10]) := by
  have hend : encodeLines [Http.lineEnd] = .ok [13, 10] := rfl
  rw [Connection.headBytes, headBytes, ← h.isBare, ← h.closing]
  cases hb : r.isBare with
  | true => cases site.now.httpDate <;> simp [Except.bind, Except.map, encode, hb]
  | false =>
    simp only [Bool.false_eq_true, if_false, encode, hb, Http.ResponseHead.fieldLines,
      Http.ResponseHead.encodeLines_append, hend]
    cases Http.ResponseHead.statusBytes response with
    | error f => rfl
    | ok first =>
      cases site.now.httpDate with
      | error f => rfl
      | ok date =>
        simp only [Except.bind]
        cases encodeLines ((Http.ResponseHead.fields date response ++
          Http.ResponseHead.closeFields (closingAfter r.closing response.headers)).map
            Http.fieldLine) <;> simp [Except.map]

theorem eq_nil_of_headBytes {r : Router} (hb : r.isBare = true) {response : Http.Response}
    {bytes : Bytes} (h : headBytes site r response = .ok bytes) : bytes = [] := by
  revert h
  cases hd : site.now.httpDate <;> simp [headBytes, hb, hd, encode, Except.bind, Except.map]

theorem comesTo_send {r : Router} (h : r.Serves head closing)
    (handling : Option Fault) (response : Http.Response) :
    ComesTo site r ((send site handling response).result r)
      (Connection.respond site head closing handling response r.source) := by
  have hhead := puts_sendHead site r response
  rw [send, result_during, Work.result_bind]
  simp only [Connection.respond, h.headBytes_eq]
  revert hhead
  cases hbytes : headBytes site r response with
  | error f =>
    rcases (sendHead site response).result r with ⟨_ | _, s⟩
    · rintro ⟨hf, hacts⟩
      cases hf
      exact comesTo_error hacts
    · rintro ⟨⟨⟩, -⟩
  | ok bytes =>
    intro hhead
    rw [show (sendHead site response).result r = _ from hhead]
    dsimp only
    have hbuffer :
        ((r.put bytes).setClosing (closingAfter r.closing response.headers)).buffer = bytes := by
      simp [put, setClosing, h.buffer]
    rw [result_endHead_sendBody, isBare_setClosing, isBare_put, isHead_setClosing, isHead_put,
      h.isHead, hbuffer, ← h.closing]
    cases hb : r.isBare with
    | true =>
      obtain rfl := eq_nil_of_headBytes hb hbytes
      exact ⟨by simp [addActs, setClosing, put, ending, Except.map, Connection.writeBody], rfl,
        fun _ => rfl⟩
    | false =>
      exact ⟨by simp [addActs, setClosing, put, ending, Except.map, Connection.writeBody], rfl,
        fun _ => rfl⟩

theorem ComesTo.of_acts {r s : Router} {outcome : Except Fault Unit × Router} {acts : List Act}
    {e : Exchange} (h : ComesTo site s outcome e) (ha : s.acts = r.acts ++ acts) :
    ComesTo site r outcome ⟨acts ++ e.acts, e.next⟩ where
  acts := by rw [h.acts, ha, List.append_assoc]
  next := h.next
  buffer := h.buffer

theorem ComesTo.of_acts_eq {r s : Router} {outcome : Except Fault Unit × Router} {e : Exchange}
    (h : ComesTo site s outcome e) (ha : s.acts = r.acts) : ComesTo site r outcome e where
  acts := by rw [h.acts, ha]
  next := h.next
  buffer := h.buffer

theorem comesTo_sendMessage {r : Router} (h : r.Serves head closing) (fault : Fault) (status : Int)
    (message : List CodePoint) :
    ComesTo site r ((sendMessage site fault status message).result r)
      (Connection.respondWith site head closing fault status message r.source) := by
  rw [sendMessage, Connection.respondWith, Work.result_bind, result_during, Work.result_ofExcept]
  cases Fault.scalarText message with
  | error f => exact comesTo_error rfl
  | ok t => exact comesTo_send h _ _

theorem Serves.close {r : Router} (h : r.Serves head closing) :
    (r.setClosing true).Serves head true := ⟨h.method, h.version, rfl, h.buffer⟩

theorem comesTo_sendBadRequest {r : Router} (h : r.Serves head closing) (fault : Fault) :
    ComesTo site r ((sendBadRequest site fault).result r)
      (Connection.rejectBadRequest site head fault r.source) := by
  rw [sendBadRequest, Connection.rejectBadRequest, Router.close, Work.result_bind,
    Work.result_modify]
  dsimp only
  rw [Work.result_bind, result_during, Work.result_ofExcept]
  cases Connection.messageOf "Bad Request: " fault with
  | error f => exact comesTo_error rfl
  | ok message => exact (comesTo_sendMessage h.close fault 400 message).of_acts_eq rfl

theorem Serves.addActs {r : Router} (h : r.Serves head closing) (acts : List Act) :
    (r.addActs acts).Serves head closing := ⟨h.method, h.version, h.closing, h.buffer⟩

theorem comesTo_sendFailure {r : Router} (h : r.Serves head closing) (fault : Fault) :
    ComesTo site r ((sendFailure site fault).result r)
      (Connection.fail site head closing fault r.source) := by
  rw [sendFailure, Connection.fail]
  by_cases hi : fault.isInterrupt = true
  · rw [if_pos hi, if_pos hi]
    have hfarewell : Connection.farewell site.peer fault = [.interrupt fault] := by
      rw [Connection.farewell, if_pos hi]
    exact hfarewell ▸ comesTo_error rfl
  · rw [if_neg hi, if_neg hi, Work.result_bind, result_during, Work.result_ofExcept]
    cases Connection.messageOf "Internal Server Error: " fault with
    | error f => exact comesTo_error rfl
    | ok message =>
      exact (comesTo_sendMessage (h.addActs [_]) fault 500 message).of_acts rfl

theorem comesTo_callHandler {r : Router} (h : r.Serves head closing) (handler : Handler)
    (request : Http.Request) :
    ComesTo site r ((callHandler site handler request).result r)
      (Connection.handle site head closing handler request r.source) := by
  rw [callHandler, perform, Work.result_bind, Work.result_modify]
  dsimp only
  rw [Work.result_bind, Work.result_modify]
  dsimp only
  have hserves := (h.addActs [.call ⟨handler.name, request⟩]).addActs
    ((handler.handle request).pauses.map .pause)
  have hacts : ((r.addActs [.call ⟨handler.name, request⟩]).addActs
      ((handler.handle request).pauses.map .pause)).acts =
        r.acts ++
          (.call ⟨handler.name, request⟩ :: (handler.handle request).pauses.map .pause) := by
    simp [Router.addActs]
  rw [Connection.handle]
  cases (handler.handle request).result with
  | ok response => exact (comesTo_send hserves none response).of_acts hacts
  | error fault => exact (comesTo_sendFailure hserves fault).of_acts hacts

def afterBody (head : Head) (length : Nat) (source : Source) (r : Router) : Router :=
  { r.setClosing (Connection.closingWith head length) with source }

theorem result_discardBody (length : Nat) (r : Router) :
    (discardBody length).result r =
      ((Discard.run Source.read length r.source).1,
        { r with source := (Discard.run Source.read length r.source).2 }) := by
  simp only [discardBody, Work.result_bind, Work.result_get, Work.result_modify,
    Work.result_ofExcept]

theorem result_readRequest {r : Router} (h : r.Serves head head.isClosing) :
    (readRequest site head).result r = match Http.ContentLength.ofHeaders head.headers with
      | .error f => (.error f, r)
      | .ok length => match Discard.run Source.read length r.source with
        | (.error f, s) => (.error f, r.afterBody head length s)
        | (.ok (), s) => match Http.Target.path head.line.target with
          | .error f => (.error f, r.afterBody head length s)
          | .ok path => (.ok (Connection.requestOf site head path), r.afterBody head length s) := by
  rw [readRequest, Work.result_bind, Work.result_ofExcept]
  cases Http.ContentLength.ofHeaders head.headers with
  | error f => rfl
  | ok length =>
    have hclose : (closeBefore head length).result r =
        (.ok (), r.setClosing (Connection.closingWith head length)) := by
      rw [closeBefore, Connection.closingWith, ← h.closing]
      cases (decide (length = 0) && head.hasTransferCoding) <;> simp [close, setClosing]
    dsimp only
    rw [Work.result_bind, hclose]
    dsimp only
    rw [Work.result_bind, result_discardBody]
    rw [show (r.setClosing (Connection.closingWith head length)).source = r.source from rfl]
    rcases Discard.run Source.read length r.source with ⟨_ | _, s⟩
    · rfl
    · dsimp only
      rw [Work.result_bind, Work.result_ofExcept]
      cases Http.Target.path head.line.target <;> rfl

theorem Serves.afterBody {r : Router} (h : r.Serves head closing) (length : Nat) (s : Source) :
    (r.afterBody head length s).Serves head (Connection.closingWith head length) :=
  ⟨h.method, h.version, rfl, h.buffer⟩

theorem comesTo_failed (site : Site) {r t : Router} (h : t.Serves head closing) (hacts : t.acts = r.acts)
    (fault : Fault) :
    ComesTo site r
      ((if fault.isDisconnect then close
        else if fault.kind = .badRequest then sendBadRequest site fault
        else sendFailure site fault : Action Unit).result t)
      (if fault.isDisconnect then ⟨[], none⟩
        else if fault.kind = .badRequest then
          Connection.rejectBadRequest site head fault t.source
        else Connection.fail site head closing fault t.source) := by
  by_cases hd : fault.isDisconnect = true
  · rw [if_pos hd, if_pos hd]
    exact ⟨by simp [close, setClosing, ending, hacts], rfl, fun _ => h.buffer⟩
  · rw [if_neg hd, if_neg hd]
    split
    · exact (comesTo_sendBadRequest h fault).of_acts_eq hacts
    · exact (comesTo_sendFailure h fault).of_acts_eq hacts

theorem comesTo_handle {r : Router} (h : r.Serves head head.isClosing) :
    ComesTo site r ((handle site head).result r) (Connection.answer site head r.source) := by
  rw [handle, Work.result_bind, Work.result_observing, result_readRequest h, Connection.answer]
  cases hlength : Http.ContentLength.ofHeaders head.headers with
  | error f =>
    have hd := Http.ContentLength.isDisconnect_of_ofHeaders hlength
    have hfailed := comesTo_failed site h rfl f
    rw [hd] at hfailed
    simpa [hd] using hfailed
  | ok length =>
    dsimp only
    rw [Connection.answerAfterBody]
    rcases Discard.run Source.read length r.source with ⟨f | _, s⟩
    · exact comesTo_failed site (r := r) (h.afterBody length s) rfl f
    · dsimp only
      rw [Connection.dispatch]
      cases hpath : Http.Target.path head.line.target with
      | error f =>
        have hk := Http.Target.kind_of_path hpath
        have hfailed := comesTo_failed site (r := r) (h.afterBody length s) rfl f
        have hd : f.isDisconnect = false := by rw [Fault.isDisconnect, hk]; rfl
        have hbad : f.kind ≠ .badRequest := by rw [hk]; decide
        simp only [hd, hbad, Bool.false_eq_true, if_false] at hfailed ⊢
        exact hfailed
      | ok path =>
        dsimp only
        rw [show (Connection.requestOf site head path).method = head.line.method from rfl,
          show (Connection.requestOf site head path).path = path from rfl]
        cases RouteTable.find? site.routes head.line.method path with
        | none =>
          dsimp only
          rw [perform, Work.result_bind, Work.result_modify]
          exact (comesTo_send ((h.afterBody length s).addActs [Connection.notFoundError head])
            none { status := 404 }).of_acts (r := r) rfl
        | some handler =>
          exact (comesTo_callHandler (h.afterBody length s) handler _).of_acts_eq rfl

theorem comesTo_sendPage (site : Site) {r : Router} (h : r.buffer = []) (page : Http.ErrorPage)
    (handling : Option Fault) :
    ComesTo site r ((sendPage site page handling).result r)
      ⟨Connection.refuse site page handling, none⟩ := by
  rw [sendPage, Work.result_bind, result_during, Work.result_ofExcept, Connection.refuse]
  cases site.now.httpDate with
  | error f => exact comesTo_error rfl
  | ok date =>
    dsimp only
    rw [close, Work.result_bind, Work.result_modify]
    cases hb : page.bare <;> cases ho : page.headOnly <;>
      exact ⟨by simp [Work.result_bind, flush, perform, addActs, put, setClosing, ending, h,
        Http.ErrorPage.writes, hb, ho], rfl,
        fun _ => by simp [Work.result_bind, flush, perform, addActs, put, setClosing, h]⟩

theorem result_sendInterim {r : Router} (h : r.buffer = []) (head : Head) :
    (sendInterim head).result r = (.ok (), r.addActs (Connection.interim head)) := by
  rw [sendInterim, Connection.interim]
  cases head.expectsContinue with
  | false => simp [addActs]
  | true => simp [Work.result_bind, flush, addActs, put, h]

/-- Whatever the fields of a router have been before, what it does about a request is the exchange
for it, and after that its buffer is empty again. -/
theorem comesTo_turn (site : Site) {r : Router} (h : r.buffer = []) :
    ComesTo site r ((turn site).result r) (Connection.exchange site r.source) := by
  rw [turn, Work.result_bind, readHead, Work.result_bind, Work.result_get, Connection.exchange]
  dsimp only
  rcases Head.read r.source with (_ | ⟨page, handling⟩ | fault) | ⟨head, s⟩
  · exact ⟨rfl, rfl, fun _ => h⟩
  · have hpage := comesTo_sendPage site h page handling
    dsimp only
    rw [Work.result_bind]
    revert hpage
    rcases (sendPage site page handling).result r with ⟨_ | _, s⟩ <;> exact id
  · exact comesTo_error rfl
  · dsimp only
    rw [Work.result_bind, Work.result_modify]
    dsimp only
    rw [Work.result_bind, result_sendInterim (show (r.enter head s).buffer = [] from h)]
    have hserves :
        ((r.enter head s).addActs (Connection.interim head)).Serves head head.isClosing :=
      ⟨rfl, rfl, rfl, h⟩
    exact (comesTo_handle hserves).of_acts rfl

/-- A connection is served by one router, which has written all of its last head before it reads the
next one. A fault of it ends the connection. -/
def serve (site : Site) (r : Router) (written : r.buffer = []) : List Act :=
  match h : (turn site).result r with
  | (.error fault, s) => s.acts ++ Connection.farewell site.peer fault
  | (.ok (), s) =>
    if hc : s.closing = true then s.acts
    else
      have comes := h ▸ comesTo_turn site written
      have : s.source.unread.length < r.source.unread.length :=
        Connection.length_next_exchange_lt (by rw [← comes.next, next?, if_neg hc])
      serve site s (comes.buffer rfl)
termination_by r.source.unread.length

/-- No field of a router has a say in what comes of the requests after the one that it was set for.
-/
theorem serve_eq (site : Site) (r : Router) (written : r.buffer = []) :
    serve site r written = r.acts ++ Connection.plan site r.source := by
  fun_induction serve with
  | case1 r written fault s h =>
    have comes := h ▸ comesTo_turn site written
    rw [Connection.plan_of_next_none comes.next.symm, ← comes.acts]
    rfl
  | case2 r written s h hc =>
    have comes := h ▸ comesTo_turn site written
    have hnext : (Connection.exchange site r.source).next = none := by
      rw [← comes.next, next?, if_pos hc]
    rw [Connection.plan_of_next_none hnext, ← comes.acts]
    exact (List.append_nil _).symm
  | case3 r written s h hc comes hlt ih =>
    have hnext : (Connection.exchange site r.source).next = some s.source := by
      rw [← comes.next, next?, if_neg hc]
    rw [ih, Connection.plan_of_next_some hnext, ← List.append_assoc, ← comes.acts]
    exact congrArg (· ++ _) (List.append_nil _).symm

end Router
end GreetingServer
