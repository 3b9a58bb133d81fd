import GreetingServer.Proofs.LoudFault
import GreetingServer.Proofs.SentResponse
import GreetingServer.Proofs.WrittenHead

/-! Bodies and what is taken for one. A request that announces the length of its body in digits is
only answered by a handler when so many bytes have been dropped, and without them it is not answered
at all. The exception is a length that cannot be read: it is answered like a failure of the server,
after which the connection goes on as if there were no body. -/
namespace GreetingServer

/-- Nothing is said to the peer, no handler is called, and no request comes next. -/
structure Exchange.EndsMutely (e : Exchange) : Prop where
  next : e.next = none
  acts : ∀ act ∈ e.acts, act.isCall = false ∧ act.isWrite = false

namespace Connection
open Http.ContentLength (fieldName)
variable {site : Site} {head : Http.Head} {closing : Bool} {fault : Fault}

/-! What a failure leads to: an entry in the log and a response without fields of its own. -/

theorem exists_headBytes {date : Text} (hd : site.now.httpDate = .ok date) (head : Http.Head)
    (closing : Bool) {response : Http.Response} (hw : response.IsWritable) :
    ∃ bytes, headBytes site head closing response = .ok bytes ∧
      (bytes = none ↔ head.line.isBare = true) := by
  refine ⟨_, headBytes_of_isWritable hd head closing hw, ?_⟩
  cases head.line.isBare <;> simp

theorem headBytes_of_error (hd : site.now.httpDate = .error fault) (closing : Bool)
    {response : Http.Response} (hw : response.IsWritable) :
    headBytes site head closing response = .error fault := by
  cases hb : head.line.isBare <;>
    simp [headBytes, hd, hb, Http.ResponseHead.statusBytes_of_isNumbered hw.numbered, Except.map]

theorem isCall_of_mem_farewell {peer : Peer} {act : Act} (h : act ∈ farewell peer fault) :
    act.isCall = false ∧ act.isWrite = false := by
  unfold farewell at h
  split at h
  · rw [List.mem_singleton.1 h]
    exact ⟨rfl, rfl⟩
  · split at h
    · cases h
    · rw [List.mem_singleton.1 h]
      exact ⟨rfl, rfl⟩

theorem isCall_of_mem_writeBody {body : Bytes} {handling : Option Fault} {act : Act}
    (h : act ∈ writeBody head body handling) : act.isCall = false := by
  unfold writeBody at h
  split at h
  · cases h
  · rw [List.mem_singleton.1 h]
    rfl

theorem isCall_of_mem_respond {handling : Option Fault} {response : Http.Response} {s : Source}
    {act : Act} (h : act ∈ (respond site head closing handling response s).acts) :
    act.isCall = false := by
  cases hb : headBytes site head (Http.ResponseHead.closingAfter closing response.headers)
      response with
  | error fault =>
    rw [respond_of_error hb] at h
    exact (isCall_of_mem_farewell h).1
  | ok bytes =>
    rw [respond_of_ok hb] at h
    rcases List.mem_append.1 h with h | h
    · obtain ⟨b, -, rfl⟩ := List.mem_map.1 h
      rfl
    · exact isCall_of_mem_writeBody h

theorem isCall_of_mem_respondWith {status : Int} {message : List CodePoint} {s : Source} {act : Act}
    (h : act ∈ (respondWith site head closing fault status message s).acts) :
    act.isCall = false := by
  unfold respondWith at h
  split at h
  · exact (isCall_of_mem_farewell h).1
  · exact isCall_of_mem_respond h

theorem isCall_of_mem_fail {s : Source} {act : Act}
    (h : act ∈ (fail site head closing fault s).acts) : act.isCall = false := by
  unfold fail at h
  split at h
  · rw [List.mem_singleton.1 h]
    rfl
  · split at h
    · exact (isCall_of_mem_farewell h).1
    · rcases List.mem_cons.1 h with rfl | h
      · rfl
      · exact isCall_of_mem_respondWith h

theorem isCall_of_mem_rejectBadRequest {s : Source} {act : Act}
    (h : act ∈ (rejectBadRequest site head fault s).acts) : act.isCall = false := by
  unfold rejectBadRequest at h
  split at h
  · exact (isCall_of_mem_farewell h).1
  · exact isCall_of_mem_respondWith h

/-- The date cannot be told, and so no response has a head. -/
def Undated (site : Site) : Prop := ∃ fault, site.now.httpDate = .error fault

theorem not_undated_of_told {site : Site} {date : Text} (h : site.now.httpDate = .ok date) :
    ¬Undated site := by
  rintro ⟨fault, hf⟩
  cases h.symm.trans hf

def failureMessage (fault : Fault) : Text := "Internal Server Error: ".toList ++ fault.message

def failureResponse (fault : Fault) : Http.Response :=
  { status := 500, body := Http.utf8 (failureMessage fault) }

def refusalResponse (fault : Fault) : Http.Response :=
  { status := 400, body := Http.utf8 ("Bad Request: ".toList ++ fault.message) }

theorem isWritable_failureResponse (fault : Fault) : (failureResponse fault).IsWritable :=
  Http.Response.isWritable_of_lt 500 (by decide) _

theorem isWritable_refusalResponse (fault : Fault) : (refusalResponse fault).IsWritable :=
  Http.Response.isWritable_of_lt 400 (by decide) _

theorem messageOf_of_isTellable (words : String) (ht : fault.IsTellable) :
    messageOf words fault = .ok (CodePoint.ofText (words.toList ++ fault.message)) := by
  rw [messageOf, show fault.text = _ from ht.isTold, Fault.written, CodePoint.ofText_append]
  rfl

theorem failsLoudly_messageOf (words : String) (fault : Fault) :
    FailsLoudly (messageOf words fault) := (Fault.failsLoudly_written _).map _

theorem respondWith_ofText (site : Site) (head : Http.Head) (closing : Bool) (fault : Fault)
    (status : Int) (t : Text) (s : Source) :
    respondWith site head closing fault status (CodePoint.ofText t) s =
      respond site head closing (some fault) { status, body := Http.utf8 t } s := by
  rw [respondWith, Fault.scalarText_ofText]

theorem fail_of_isInterrupt (hi : fault.isInterrupt = true) (s : Source) :
    fail site head closing fault s = ⟨[.interrupt fault], none⟩ := by
  rw [fail, if_pos hi]

theorem fail_eq (hi : fault.isInterrupt = false) (ht : fault.IsTellable) (s : Source) :
    fail site head closing fault s =
      ⟨requestError (.text (failureMessage fault)) [] (some fault) ::
          (respond site head closing (some fault) (failureResponse fault) s).acts,
        (respond site head closing (some fault) (failureResponse fault) s).next⟩ := by
  rw [fail, if_neg (by simp [hi]), messageOf_of_isTellable _ ht]
  dsimp only
  rw [respondWith_ofText, Value.ofPoints_ofText]
  rfl

theorem rejectBadRequest_eq (ht : fault.IsTellable) (s : Source) :
    rejectBadRequest site head fault s =
      respond site head true (some fault) (refusalResponse fault) s := by
  rw [rejectBadRequest, messageOf_of_isTellable _ ht]
  exact respondWith_ofText ..

/-! A fault whose text cannot be told ends the connection, and the peer does not hear of it. -/

theorem isTellable_of_scalarText {words : String} {message : List CodePoint} {t : Text}
    (h : messageOf words fault = .ok message) (ht : Fault.scalarText message = .ok t) :
    fault.IsTellable := by
  obtain ⟨text, htext, rfl⟩ := exists_of_messageOf h
  unfold Fault.scalarText at ht
  split at ht
  · rename_i u hu
    obtain ⟨front, back, -, -, hback⟩ := List.map_eq_append_iff.1 (CodePoint.ofText_of_text? hu)
    exact ⟨back, htext.trans (congrArg Except.ok hback.symm)⟩
  · cases ht

theorem endsMutely_farewellFrom (peer : Peer) (fault : Fault) (handling : Option Fault) :
    Exchange.EndsMutely ⟨farewellFrom peer fault handling, none⟩ :=
  ⟨rfl, fun _ => isCall_of_mem_farewell⟩

theorem endsMutely_respondWith (ht : ¬fault.IsTellable) {words : String}
    {message : List CodePoint} (hm : messageOf words fault = .ok message) (site : Site)
    (head : Http.Head) (closing : Bool) (status : Int) (s : Source) :
    (respondWith site head closing fault status message s).EndsMutely := by
  unfold respondWith
  split
  · exact endsMutely_farewellFrom ..
  · exact absurd (isTellable_of_scalarText hm ‹_›) ht

theorem endsMutely_fail (hi : fault.isInterrupt = false) (ht : ¬fault.IsTellable) (s : Source) :
    (fail site head closing fault s).EndsMutely := by
  rw [fail, if_neg (by simp [hi])]
  split
  · exact endsMutely_farewellFrom ..
  · rename_i hm
    have hrest := endsMutely_respondWith ht hm site head closing 500 s
    exact ⟨hrest.next, List.forall_mem_cons.2 ⟨⟨rfl, rfl⟩, hrest.acts⟩⟩

theorem endsMutely_rejectBadRequest (ht : ¬fault.IsTellable) (s : Source) :
    (rejectBadRequest site head fault s).EndsMutely := by
  unfold rejectBadRequest
  split
  · exact endsMutely_farewellFrom ..
  · exact endsMutely_respondWith ht ‹_› site head true 400 s

/-! Others are told in a response of the server's own. -/

/-- The connection goes on behind such a response unless the request ends it or there is no date. -/
theorem next_respond_eq_none_iff {response : Http.Response} (hw : response.IsWritable)
    (hn : response.headers = []) (handling : Option Fault) (s : Source) :
    (respond site head closing handling response s).next = none ↔
      Undated site ∨ closing = true := by
  cases hd : site.now.httpDate with
  | error f =>
    rw [respond_of_error (headBytes_of_error hd _ hw)]
    simp [Undated, hd]
  | ok date =>
    obtain ⟨bytes, hb, -⟩ := exists_headBytes hd head
      (Http.ResponseHead.closingAfter closing response.headers) hw
    rw [respond_of_ok hb]
    cases closing <;> simp [Undated, hd, nextSource, hn]

/-- The peer gets something of it unless there is no date, or neither a head nor a body in it. -/
theorem isWrite_of_mem_respond_iff {response : Http.Response} (hw : response.IsWritable)
    (handling : Option Fault) (s : Source) :
    (∀ act ∈ (respond site head closing handling response s).acts, act.isWrite = false) ↔
      Undated site ∨ (head.line.isBare = true ∧ head.line.isHead = true) := by
  cases hd : site.now.httpDate with
  | error f =>
    rw [respond_of_error (headBytes_of_error hd _ hw)]
    exact iff_of_true (fun act hact => (isCall_of_mem_farewell hact).2) (Or.inl ⟨f, hd⟩)
  | ok date =>
    obtain ⟨bytes, hb, hbare⟩ := exists_headBytes hd head
      (Http.ResponseHead.closingAfter closing response.headers) hw
    rw [respond_of_ok hb]
    cases bytes with
    | none =>
      have hb : head.line.isBare = true := hbare.1 rfl
      cases hh : head.line.isHead <;> simp [Undated, hd, hb, hh, writeBody, Act.isWrite]
    | some bytes =>
      have hb : head.line.isBare = false := by
        rw [Bool.eq_false_iff]
        exact fun h => Option.some_ne_none _ (hbare.2 h)
      simp [Undated, hd, hb, Act.isWrite]

/-- A failure ends the connection if the request does or if there is no date. -/
theorem next_fail_eq_none_iff (hi : fault.isInterrupt = false) (ht : fault.IsTellable)
    (s : Source) :
    (fail site head closing fault s).next = none ↔ Undated site ∨ closing = true := by
  rw [fail_eq hi ht]
  exact next_respond_eq_none_iff (isWritable_failureResponse fault) rfl _ s

theorem next_fail_eq_some (hi : fault.isInterrupt = false) (ht : fault.IsTellable)
    (hd : ¬Undated site) (hc : closing = false) (s : Source) :
    (fail site head closing fault s).next = some s := by
  cases hn : (fail site head closing fault s).next with
  | none =>
    rcases (next_fail_eq_none_iff hi ht s).1 hn with h | h
    · exact absurd h hd
    · rw [hc] at h
      cases h
  | some t => rw [next_fail hn]

theorem isWrite_of_mem_fail_iff (hi : fault.isInterrupt = false) (ht : fault.IsTellable)
    (s : Source) :
    (∀ act ∈ (fail site head closing fault s).acts, act.isWrite = false) ↔
      Undated site ∨ (head.line.isBare = true ∧ head.line.isHead = true) := by
  rw [fail_eq hi ht, ← isWrite_of_mem_respond_iff (isWritable_failureResponse fault) _ s]
  exact List.forall_mem_cons.trans ⟨And.right, fun h => ⟨rfl, h⟩⟩

/-! The body of a request: what is behind its head, as far as the head announces it. -/

/-- What comes of a request keeps to its body. A handler is only called when so many bytes as
announced have been dropped and the request is answered from behind them, nothing is written if a
part of the body is lacking, and the next request, if there is one, starts right behind the body. -/
structure KeepsToBody (site : Site) (head : Http.Head) (n : Nat) (t : Source) (e : Exchange) :
    Prop where
  called : ∀ act ∈ e.acts, act.isCall = true →
    n ≤ t.unread.length ∧ Discard.run Source.read n t = (.ok (), t.skip n) ∧
      e = dispatch site head (closingWith head n) (t.skip n)
  lacking : t.unread.length < n → ∀ act ∈ e.acts, act.isWrite = false
  next : ∀ u, e.next = some u → n ≤ t.unread.length ∧ u = t.skip n

/-- The source has ended, or fails in a way that nobody is told about on the connection. A bad
request is answered by an empty response if the request asks for the head alone of one without head.
-/
def EndsQuietly (head : Http.Head) (t : Source) : Prop :=
  ∀ f ∈ t.failure, f.isDisconnect = true ∨ f.isInterrupt = true ∨ ¬f.IsTellable ∨
    (f.kind = .badRequest ∧ head.line.isBare = true ∧ head.line.isHead = true)

/-- The failure of the request is not told to the peer, and ends the connection. -/
def FailsSilently (site : Site) (head : Http.Head) : Prop :=
  Undated site ∨ (head.line.isBare = true ∧ head.line.isHead = true ∧ head.isClosing = true)

theorem keepsToBody_answerAfterBody {n : Nat} {t : Source} (h : n ≤ t.unread.length) :
    KeepsToBody site head n t (answerAfterBody site head n t) where
  called _ _ _ := ⟨h, Discard.run_of_le h, answerAfterBody_of_le h⟩
  lacking hl := absurd h (Nat.not_le_of_lt hl)
  next u hu := by
    rw [answerAfterBody_of_le h] at hu
    exact ⟨h, next_dispatch hu⟩

theorem keepsToBody_of_acts {n : Nat} {t : Source} {e : Exchange} (hn : e.next = none)
    (hc : ∀ act ∈ e.acts, act.isCall = false) (hw : ∀ act ∈ e.acts, act.isWrite = false) :
    KeepsToBody site head n t e where
  called act hact h := by
    rw [hc act hact] at h
    cases h
  lacking _ := hw
  next u hu := by
    rw [hn] at hu
    cases hu

theorem keepsToBody_of_endsMutely {n : Nat} {t : Source} {e : Exchange} (h : e.EndsMutely) :
    KeepsToBody site head n t e :=
  keepsToBody_of_acts h.next (fun act hact => (h.acts act hact).1) fun act hact =>
    (h.acts act hact).2

theorem KeepsToBody.next_eq_none {n : Nat} {t : Source} {e : Exchange}
    (h : KeepsToBody site head n t e) (hl : t.unread.length < n) : e.next = none := by
  rw [Option.eq_none_iff_forall_ne_some]
  intro v hv
  exact absurd (h.next v hv).1 (Nat.not_le_of_lt hl)

theorem keepsToBody_fail_of_lt {n : Nat} {t u : Source} (hi : fault.isInterrupt = false)
    (ht : fault.IsTellable) (hl : t.unread.length < n) :
    KeepsToBody site head n t (fail site head head.isClosing fault u) ↔
      FailsSilently site head := by
  constructor
  · intro hk
    rcases (isWrite_of_mem_fail_iff hi ht u).1 (hk.lacking hl) with hd | ⟨hb, hh⟩
    · exact Or.inl hd
    · rcases (next_fail_eq_none_iff hi ht u).1 (hk.next_eq_none hl) with hd | hc
      · exact Or.inl hd
      · exact Or.inr ⟨hb, hh, hc⟩
  · intro hs
    have hnext : Undated site ∨ head.isClosing = true := hs.imp_right fun h => h.2.2
    have hwrites : Undated site ∨ (head.line.isBare = true ∧ head.line.isHead = true) :=
      hs.imp_right fun h => ⟨h.1, h.2.1⟩
    exact keepsToBody_of_acts ((next_fail_eq_none_iff hi ht u).2 hnext)
      (fun _ hact => isCall_of_mem_fail hact) ((isWrite_of_mem_fail_iff hi ht u).2 hwrites)

theorem keepsToBody_rejectBadRequest_of_lt {n : Nat} {t u : Source} (ht : fault.IsTellable)
    (hl : t.unread.length < n) :
    KeepsToBody site head n t (rejectBadRequest site head fault u) ↔
      Undated site ∨ (head.line.isBare = true ∧ head.line.isHead = true) := by
  have hw := isWritable_refusalResponse fault
  rw [rejectBadRequest_eq ht, ← isWrite_of_mem_respond_iff hw (some fault) u]
  refine ⟨fun hk => hk.lacking hl, fun hwrites => ?_⟩
  exact keepsToBody_of_acts ((next_respond_eq_none_iff hw rfl _ u).2 (Or.inr rfl))
    (fun _ hact => isCall_of_mem_respond hact) hwrites

/-- A failure before the body is read keeps to the body if it is empty or the connection ends. -/
theorem keepsToBody_fail_of_le {n : Nat} {t : Source} (hi : fault.isInterrupt = false)
    (ht : fault.IsTellable) (hl : n ≤ t.unread.length) :
    KeepsToBody site head n t (fail site head closing fault t) ↔
      n = 0 ∨ closing = true ∨ Undated site := by
  constructor
  · intro hk
    cases hn : (fail site head closing fault t).next with
    | none =>
      rcases (next_fail_eq_none_iff hi ht t).1 hn with hd | hc
      · exact Or.inr (Or.inr hd)
      · exact Or.inr (Or.inl hc)
    | some u =>
      have hsame := (hk.next u hn).2
      rw [next_fail hn] at hsame
      have hlen := congrArg (fun v => v.unread.length) hsame
      simp only [Source.unread_skip, List.length_drop] at hlen
      exact Or.inl (by omega)
  · intro h
    refine ⟨?_, ?_, ?_⟩
    · intro act hact hcall
      rw [isCall_of_mem_fail hact] at hcall
      cases hcall
    · intro hlt
      exact absurd hl (Nat.not_le_of_lt hlt)
    · intro u hu
      refine ⟨hl, ?_⟩
      rcases h with rfl | h
      · rw [next_fail hu, Source.skip_zero]
      · rw [(next_fail_eq_none_iff hi ht t).2 h.symm] at hu
        cases hu

theorem closingWith_of_pos {n : Nat} (h : 0 < n) : closingWith head n = head.isClosing := by
  simp [closingWith, Nat.ne_of_gt h]

theorem keepsToBody_answerAfterBody_of_lt {n : Nat} {t : Source} (h : t.unread.length < n) :
    KeepsToBody site head n t (answerAfterBody site head n t) ↔
      EndsQuietly head t ∨ FailsSilently site head := by
  rw [answerAfterBody_of_lt h, closingWith_of_pos (Nat.zero_lt_of_lt h)]
  cases hf : t.failure with
  | none =>
    -- A source that simply ends counts as a peer that has left.
    have hquiet : EndsQuietly head t := by simp [EndsQuietly, hf]
    have hgone : Discard.abandoned.isDisconnect = true := by decide
    rw [Option.getD_none, if_pos hgone]
    exact iff_of_true (keepsToBody_of_acts rfl (by simp) (by simp)) (Or.inl hquiet)
  | some f =>
    have hquiet : EndsQuietly head t ↔ f.isDisconnect = true ∨ f.isInterrupt = true ∨
        ¬f.IsTellable ∨
          (f.kind = .badRequest ∧ head.line.isBare = true ∧ head.line.isHead = true) := by
      simp [EndsQuietly, hf]
    rw [Option.getD_some, hquiet]
    by_cases hd : f.isDisconnect = true
    · rw [if_pos hd]
      exact iff_of_true (keepsToBody_of_acts rfl (by simp) (by simp)) (Or.inl (Or.inl hd))
    · rw [if_neg hd]
      by_cases ht : f.IsTellable
      · by_cases hk : f.kind = .badRequest
        · have hi : f.isInterrupt = false := by rw [Fault.isInterrupt, hk]; rfl
          rw [if_pos hk, keepsToBody_rejectBadRequest_of_lt ht h]
          simp only [hd, hi, ht, hk, FailsSilently]
          tauto
        · rw [if_neg hk]
          by_cases hi : f.isInterrupt = true
          · rw [fail_of_isInterrupt hi]
            exact iff_of_true
              (keepsToBody_of_acts rfl (by simp [Act.isCall]) (by simp [Act.isWrite]))
              (Or.inl (Or.inr (Or.inl hi)))
          · rw [keepsToBody_fail_of_lt (Bool.eq_false_iff.2 hi) ht h]
            simp [hd, hi, ht, hk]
      · refine iff_of_true ?_ (Or.inl (Or.inr (Or.inr (Or.inl ht))))
        split
        · exact keepsToBody_of_endsMutely (endsMutely_rejectBadRequest ht _)
        · by_cases hi : f.isInterrupt = true
          · rw [fail_of_isInterrupt hi]
            exact keepsToBody_of_acts rfl (by simp [Act.isCall]) (by simp [Act.isWrite])
          · exact keepsToBody_of_endsMutely (endsMutely_fail (Bool.eq_false_iff.2 hi) ht _)

/-- A length with too many digits is a failure of the server, and the body stays where it is. -/
theorem answer_of_long {value : Text} {n : Nat}
    (hv : head.headers.first? fieldName = some value) (hn : Text.IsNumeral (Text.strip value) n)
    (hl : Text.digitLimit < (Text.strip value).length) (t : Source) :
    answer site head t = fail site head head.isClosing
      (Fault.ofNumeral (Text.strip value) (.tooLong (Text.strip value).length)) t := by
  have hlength := Http.ContentLength.ofHeaders_of_first? hv
  rw [Http.ContentLength.ofValue_of_long hn hl] at hlength
  simp only [answer, hlength]
  rfl

/-- A request with a length in digits keeps to its body in three cases: the length has not too many
digits, and the source has the whole body or ends quietly; the length has too many digits, and the
connection ends or there is no body; or the failure is silent. In all other cases the peer is told
about a failure, and the connection may go on inside the body. -/
theorem keepsToBody_iff {s t : Source} (hr : Http.Head.read s = .ok (head, t)) {value : Text}
    {n : Nat} (hv : head.headers.first? fieldName = some value)
    (hn : Text.IsNumeral (Text.strip value) n) :
    exchange site s =
        ⟨interim head ++ (answer site head t).acts, (answer site head t).next⟩ ∧
      (KeepsToBody site head n t (answer site head t) ↔
        ((Text.strip value).length ≤ Text.digitLimit ∧
            (n ≤ t.unread.length ∨ EndsQuietly head t)) ∨
          (Text.digitLimit < (Text.strip value).length ∧ n ≤ t.unread.length ∧
            (n = 0 ∨ head.isClosing = true)) ∨
          FailsSilently site head) := by
  refine ⟨exchange_of_read hr, ?_⟩
  by_cases hl : (Text.strip value).length ≤ Text.digitLimit
  -- The length is read, and then the source decides.
  · have hlength := Http.ContentLength.ofHeaders_of_announces (.told hv hn hl)
    have hnot : ¬Text.digitLimit < (Text.strip value).length := Nat.not_lt_of_le hl
    rw [answer_of_length hlength]
    by_cases hb : n ≤ t.unread.length
    · exact iff_of_true (keepsToBody_answerAfterBody hb) (Or.inl ⟨hl, Or.inl hb⟩)
    · rw [keepsToBody_answerAfterBody_of_lt (Nat.lt_of_not_le hb)]
      simp only [hl, hb, hnot, true_and, false_and, false_or]
  -- The length is refused, and the source is left as it is.
  · have hlong : Text.digitLimit < (Text.strip value).length := Nat.lt_of_not_le hl
    have hi : (Fault.ofNumeral (Text.strip value)
        (.tooLong (Text.strip value).length)).isInterrupt = false := rfl
    have ht := (Fault.isNews_ofNumeral (Text.strip value)
      (.tooLong (Text.strip value).length)).isTellable
    rw [answer_of_long hv hn hlong]
    by_cases hb : n ≤ t.unread.length
    · rw [keepsToBody_fail_of_le hi ht hb]
      simp only [hl, hb, hlong, FailsSilently, true_and, false_and, false_or]
      tauto
    · rw [keepsToBody_fail_of_lt hi ht (Nat.lt_of_not_le hb)]
      simp only [hl, hb, false_and, and_false, false_or]

/-- With a part of the body the greeting neither answers nor goes on. -/
theorem keepsToBody_greeting :
    KeepsToBody Greeting.site postHead 3 ⟨[1], none⟩
      (answer Greeting.site postHead ⟨[1], none⟩) := by
  have hquiet : EndsQuietly postHead ⟨[1], none⟩ := by
    intro f hf
    cases hf
  have hread := isWhole_postBytes.read_append [1] none
  exact ((keepsToBody_iff hread rfl isNumeral_three).2).2
    (Or.inl ⟨by decide, Or.inr hquiet⟩)

theorem le_ofDigitChars_replicate (k acc : Nat) :
    acc + k ≤ Nat.ofDigitChars 10 (List.replicate k '1') acc := by
  induction k generalizing acc with
  | zero => exact Nat.le_refl acc
  | succ k ih =>
    have hrest := ih (10 * acc + 1)
    rw [List.replicate_succ, Nat.ofDigitChars_cons]
    have hone : '1'.toNat - '0'.toNat = 1 := by decide
    rw [hone]
    omega

def longNumeral : Text := List.replicate (Text.digitLimit + 1) '1'

theorem isNumeral_longNumeral :
    Text.IsNumeral (Text.strip longNumeral) (Nat.ofDigitChars 10 longNumeral 0) := by
  have hdigits : ∀ c ∈ longNumeral, c.isDigit = true := by
    intro c hc
    rw [List.eq_of_mem_replicate hc]
    decide
  rw [Text.strip_of_free fun c hc => Text.isBlank_of_isDigit (hdigits c hc)]
  exact ⟨by simp [longNumeral], hdigits, rfl⟩

def uploadHead (value : Text) : Http.WrittenHead :=
  ⟨"POST".toList, "/upload".toList, [(fieldName, value)]⟩

theorem isPlain_uploadHead {value : Text} (h : Http.IsPlainField (fieldName, value)) :
    (uploadHead value).IsPlain where
  method_ne_nil := by simp [uploadHead]
  method := show ∀ c ∈ "POST".toList, Text.isVisible c = true from List.all_eq_true.1 (by decide)
  target := ⟨_, rfl, by decide, List.all_eq_true.1 (by decide)⟩
  fields field hf := by
    obtain rfl := List.mem_singleton.1 hf
    exact h
  untyped := by rfl
  short := show (uploadHead []).firstLine.length ≤ Http.HeaderBlock.lineLimit by decide
  few := show 1 < Http.HeaderBlock.lineCountLimit by decide

def longUpload : Http.WrittenHead :=
  ⟨"POST".toList, "/upload".toList, [(fieldName, longNumeral)]⟩

theorem isPlain_longUpload : longUpload.IsPlain := by
  have hones : ∀ c ∈ longNumeral, c = '1' := fun c hc => List.eq_of_mem_replicate hc
  refine isPlain_uploadHead ⟨by decide, List.all_eq_true.1 (by decide), ?_, ?_, ?_⟩
  · intro c hc
    rw [hones c hc]
    decide
  · intro hs
    exact absurd (hones ' ' (List.mem_of_mem_head? hs)) (by decide)
  · have hname : fieldName.length = 14 := by decide
    have hcolon : ": ".toList.length = 2 := by decide
    have hend : Http.lineEnd.length = 2 := by decide
    have hlong : longNumeral.length = Text.digitLimit + 1 := List.length_replicate
    rw [Http.fieldLine, List.length_append, List.length_append, List.length_append, hname,
      hcolon, hend, hlong]
    decide

def getBytes : Bytes := "GET / HTTP/1.1\r\n\r\n".toList.map Text.toByte

/-- A length with too many digits is not kept to. The body that it announces is not there, and still
the next request is read right behind the head. -/
theorem not_keepsToBody_longUpload :
    Http.Head.read ⟨longUpload.bytes ++ getBytes, none⟩ =
        .ok (longUpload.head, ⟨getBytes, none⟩) ∧
      longUpload.head.headers.first? fieldName = some longNumeral ∧
      Text.IsNumeral (Text.strip longNumeral) (Nat.ofDigitChars 10 longNumeral 0) ∧
      getBytes.length < Nat.ofDigitChars 10 longNumeral 0 ∧
      (exchange Greeting.site ⟨longUpload.bytes ++ getBytes, none⟩).next =
        some ⟨getBytes, none⟩ ∧
      ¬KeepsToBody Greeting.site longUpload.head (Nat.ofDigitChars 10 longNumeral 0)
        ⟨getBytes, none⟩ (answer Greeting.site longUpload.head ⟨getBytes, none⟩) := by
  have hread := isPlain_longUpload.read_eq getBytes none
  have hfirst : longUpload.head.headers.first? fieldName = some longNumeral := rfl
  have hlacking : getBytes.length < Nat.ofDigitChars 10 longNumeral 0 := by
    have hmany := le_ofDigitChars_replicate (Text.digitLimit + 1) 0
    have hfew : getBytes.length = 18 := by decide
    have hlimit : Text.digitLimit = 4300 := rfl
    rw [longNumeral]
    omega
  have hnext : (answer Greeting.site longUpload.head ⟨getBytes, none⟩).next =
      some ⟨getBytes, none⟩ := by
    have hlong : Text.digitLimit < (Text.strip longNumeral).length := by
      rw [Text.strip_of_free fun c hc => by rw [List.eq_of_mem_replicate hc]; decide, longNumeral,
        List.length_replicate]
      exact Nat.lt_succ_self _
    have hdated : ¬Undated Greeting.site := by
      rintro ⟨f, hf⟩
      cases hf
    rw [answer_of_long hfirst isNumeral_longNumeral hlong]
    exact next_fail_eq_some rfl (Fault.isNews_ofNumeral _ _).isTellable hdated rfl _
  refine ⟨hread, hfirst, isNumeral_longNumeral, hlacking, ?_, ?_⟩
  · exact (next_exchange_of_read Greeting.site hread).trans hnext
  · intro hk
    exact absurd (hk.next _ hnext).1 (Nat.not_le_of_lt hlacking)

end Connection
end GreetingServer
