import GreetingServer.Delivery
import GreetingServer.Proofs.Answer

/-! Connections that do not end the run. If neither the peer nor a handler interrupts, nothing that
happens on a connection does: every fault that the server itself comes upon is dealt with. -/
namespace GreetingServer

/-- Nothing in the way of reading ends the run. -/
def Source.IsCalm (s : Source) : Prop := ∀ fault ∈ s.failure, fault.isInterrupt = false

/-- Neither writing to the peer nor closing the connection ends the run. -/
structure Sink.IsCalm (sink : Sink) : Prop where
  failure : sink.failure.isInterrupt = false
  closing : ∀ fault ∈ sink.closing, fault.kind.isSystem = true

def RouteTable.IsCalm (routes : RouteTable Handler) : Prop :=
  ∀ entry ∈ routes, ∀ request fault, (entry.2.handle request).result = .error fault →
    fault.isInterrupt = false

namespace Source
variable {s t : Source}

theorem IsCalm.of_failure_eq (h : s.IsCalm) (he : t.failure = s.failure) : t.IsCalm := by
  rw [IsCalm, he]
  exact h

theorem IsCalm.error_read (h : s.IsCalm) {n : Nat} {fault : Fault} (hr : s.read n = (.error fault, t)) :
    fault.isInterrupt = false := by
  unfold read at hr
  split at hr
  · cases hr
  · rename_i f hf
    split at hr
    · obtain ⟨he, -⟩ := Prod.mk.inj hr
      rw [← Except.error.inj he]
      exact h f (by simp [hf])
    · cases hr

theorem IsCalm.read (h : s.IsCalm) {n : Nat} {result : Except Fault Bytes}
    (hr : s.read n = (result, t)) : t.IsCalm :=
  h.of_failure_eq (by rw [← failure_read n s, hr])

end Source

namespace Discard

/-- Dropping a body leaves the source calm, and what comes up meanwhile ends no run. -/
theorem isCalm_run {n : Nat} {s t : Source} {result : Except Fault Unit} (h : s.IsCalm)
    (hr : run Source.read n s = (result, t)) :
    t.IsCalm ∧ ∀ fault, result = .error fault → fault.isInterrupt = false := by
  induction n using Nat.strongRecOn generalizing s with
  | ind n ih =>
    rcases Nat.eq_zero_or_pos n with rfl | hn
    · rw [run_zero] at hr
      obtain ⟨rfl, rfl⟩ := Prod.mk.inj hr
      exact ⟨h, fun fault he => by cases he⟩
    · rw [run_pos _ hn] at hr
      split at hr
      · rename_i fault u hread
        obtain ⟨rfl, rfl⟩ := Prod.mk.inj hr
        refine ⟨h.read hread, fun other he => ?_⟩
        rw [← Except.error.inj he]
        exact h.error_read hread
      · rename_i piece u hread
        split at hr
        · obtain ⟨rfl, rfl⟩ := Prod.mk.inj hr
          exact ⟨h.read hread, fun other he => by rw [← Except.error.inj he]; rfl⟩
        · rename_i hne
          have hpos : 0 < piece.length := List.length_pos_iff.2 hne
          exact ih _ (by omega) (h.read hread) hr

end Discard

namespace Http

def IsCalmReading {ε α : Type} (calm : ε → Prop) : Except ε (α × Source) → Prop
  | .error e => calm e
  | .ok (_, t) => t.IsCalm

/-- The reason why a head is not accepted ends no run. -/
def Stop.IsCalm : Stop → Prop
  | .fail fault => fault.isInterrupt = false
  | _ => True

theorem RequestLine.isCalm_parse {raw : Text} {stop : Stop} (h : parse raw = .error stop) :
    stop.IsCalm := by
  cases stop with
  | quiet => trivial
  | refuse page handling => trivial
  | fail fault => exact absurd h (parse_ne_fail raw fault)

namespace HeaderBlock

/-- The reason why there are no lines ends no run. -/
def IsCalmReason : Except Fault Excess → Prop
  | .error fault => fault.isInterrupt = false
  | .ok _ => True

theorem isCalm_readLines (allowed : Nat) {s : Source} (h : s.IsCalm) :
    IsCalmReading IsCalmReason (readLines allowed s) := by
  induction allowed generalizing s with
  | zero =>
    unfold readLines
    split
    · rename_i hread
      exact h.error_read hread
    · split <;> trivial
  | succ allowed ih =>
    unfold readLines
    split
    · rename_i hread
      exact h.error_read hread
    · rename_i u hread
      have hu := h.read hread
      split
      · trivial
      · dsimp only
        split
        · exact hu
        · have hmore := ih hu
          cases hlines : readLines allowed u with
          | error e =>
            rw [hlines] at hmore
            exact hmore
          | ok found =>
            rw [hlines] at hmore
            exact hmore

theorem isCalm_read (line : RequestLine) {s : Source} (h : s.IsCalm) :
    IsCalmReading Stop.IsCalm (read line s) := by
  have hlines := isCalm_readLines lineCountLimit h
  unfold read
  split
  · rename_i hr
    rw [hr] at hlines
    exact hlines
  · trivial
  · rename_i lines t hr
    rw [hr] at hlines
    unfold accept
    split
    · rename_i fault hc
      exact (Mime.failsLoudly_checkTypes _ fault hc).isInterrupt
    · exact hlines

end HeaderBlock

namespace Head

theorem isCalm_readRequestLine {s : Source} (h : s.IsCalm) :
    IsCalmReading Stop.IsCalm (readRequestLine s) := by
  unfold readRequestLine
  split
  · rename_i hread
    exact h.error_read hread
  · rename_i u hread
    split
    · trivial
    · split
      · trivial
      · split
        · rename_i hstop
          exact RequestLine.isCalm_parse hstop
        · exact h.read hread

theorem isCalm_read {s : Source} (h : s.IsCalm) : IsCalmReading Stop.IsCalm (read s) := by
  have hline := isCalm_readRequestLine h
  unfold read
  split
  · rename_i hr
    rw [hr] at hline
    exact hline
  · rename_i line t hr
    rw [hr] at hline
    have hblock := HeaderBlock.isCalm_read line hline
    split
    · rename_i hb
      rw [hb] at hblock
      exact hblock
    · rename_i hb
      rw [hb] at hblock
      exact hblock

end Head
end Http

/-- No act ends the run, and the next request is read from a calm source. -/
structure Exchange.IsCalm (e : Exchange) : Prop where
  acts : ∀ act ∈ e.acts, act.isInterrupt = false
  next : ∀ t, e.next = some t → t.IsCalm

theorem Exchange.IsCalm.behind {e : Exchange} (he : e.IsCalm) {before : List Act}
    (h : ∀ act ∈ before, act.isInterrupt = false) : (e.behind before).IsCalm :=
  ⟨fun act hact => (List.mem_append.1 hact).elim (h act) (he.acts act), he.next⟩

namespace Connection
variable {site : Site} {head : Http.Head} {closing : Bool} {handling : Option Fault}
  {fault : Fault} {s : Source}

theorem isInterrupt_of_mem_farewell (hi : fault.isInterrupt = false) {peer : Peer} {act : Act}
    (h : act ∈ farewell peer fault) : act.isInterrupt = false := by
  rw [farewell, if_neg (by simp [hi])] at h
  split at h
  · cases h
  · rw [List.mem_singleton.1 h]
    rfl

theorem isCalm_respond (hs : s.IsCalm) (response : Http.Response) :
    (respond site head closing handling response s).IsCalm where
  acts act hact := by
    cases hb : headBytes site head (Http.ResponseHead.closingAfter closing response.headers)
        response with
    | error fault =>
      rw [respond_of_error hb] at hact
      exact isInterrupt_of_mem_farewell
        ((failsLoudly_headBytes _ _ _ _ _ hb).withContext handling).isInterrupt hact
    | ok bytes =>
      rw [respond_of_ok hb] at hact
      rcases List.mem_append.1 hact with hact | hact
      · obtain ⟨b, -, rfl⟩ := List.mem_map.1 hact
        rfl
      · exact isInterrupt_of_mem_writeBody hact
  next t ht := next_respond ht ▸ hs

theorem isCalm_farewellFrom (h : fault.IsNews) (peer : Peer) (handling : Option Fault) :
    Exchange.IsCalm ⟨farewellFrom peer fault handling, none⟩ where
  acts _ hact := isInterrupt_of_mem_farewell (h.withContext handling).isInterrupt hact
  next _ ht := by cases ht

theorem isCalm_respondWith (hs : s.IsCalm) (status : Int) (message : List CodePoint) :
    (respondWith site head closing fault status message s).IsCalm := by
  unfold respondWith
  split
  · rename_i f hf
    exact isCalm_farewellFrom (Fault.failsLoudly_scalarText _ f hf) _ _
  · exact isCalm_respond hs _

theorem isCalm_rejectBadRequest (hs : s.IsCalm) : (rejectBadRequest site head fault s).IsCalm := by
  unfold rejectBadRequest
  split
  · rename_i f hf
    exact isCalm_farewellFrom (failsLoudly_messageOf _ _ f hf) _ _
  · exact isCalm_respondWith hs _ _

theorem isCalm_fail (hs : s.IsCalm) (hi : fault.isInterrupt = false) :
    (fail site head closing fault s).IsCalm := by
  rw [fail, if_neg (by simp [hi])]
  split
  · rename_i f hf
    exact isCalm_farewellFrom (failsLoudly_messageOf _ _ f hf) _ _
  · exact (isCalm_respondWith hs _ _).behind (List.forall_mem_singleton.2 rfl)

theorem isCalm_notFound (hs : s.IsCalm) : (notFound site head closing s).IsCalm :=
  (isCalm_respond hs _).behind (List.forall_mem_singleton.2 rfl)

theorem isCalm_handle (hs : s.IsCalm) {handler : Handler} {request : Http.Request}
    (hh : ∀ fault, (handler.handle request).result = .error fault → fault.isInterrupt = false) :
    (handle site head closing handler request s).IsCalm := by
  have hbefore : ∀ act ∈ .call ⟨handler.name, request⟩ ::
      (handler.handle request).pauses.map Act.pause, act.isInterrupt = false :=
    List.forall_mem_cons.2 ⟨rfl, List.forall_mem_map.2 fun _ _ => rfl⟩
  cases hr : (handler.handle request).result with
  | ok response =>
    simp only [handle, hr]
    exact (isCalm_respond hs response).behind hbefore
  | error fault =>
    simp only [handle, hr]
    exact (isCalm_fail hs (hh fault hr)).behind hbefore

theorem isCalm_dispatch (hr : site.routes.IsCalm) (hs : s.IsCalm) :
    (dispatch site head closing s).IsCalm := by
  unfold dispatch
  split
  · rename_i fault hp
    exact isCalm_fail hs (Http.Target.failsLoudly_path _ fault hp).isInterrupt
  · split
    · exact isCalm_notFound hs
    · rename_i hf
      obtain ⟨route, hmem⟩ := RouteTable.exists_mem_of_find? hf
      exact isCalm_handle hs fun fault hfault => hr _ hmem _ fault hfault

theorem isCalm_answer (hr : site.routes.IsCalm) (hs : s.IsCalm) : (answer site head s).IsCalm := by
  unfold answer
  split
  · rename_i length _
    unfold answerAfterBody
    split
    · rename_i t hd
      exact isCalm_dispatch hr (Discard.isCalm_run hs hd).1
    · rename_i fault t hd
      have hcalm := Discard.isCalm_run hs hd
      split
      · exact ⟨fun act hact => (by cases hact), fun t ht => by cases ht⟩
      · split
        · exact isCalm_rejectBadRequest hcalm.1
        · exact isCalm_fail hcalm.1 (hcalm.2 fault rfl)
  · rename_i fault hl
    split
    · exact isCalm_rejectBadRequest hs
    · exact isCalm_fail hs
        (Http.ContentLength.failsLoudly_ofHeaders _ fault hl).isInterrupt

theorem isInterrupt_of_mem_refusal {stop : Http.Stop} (hstop : stop.IsCalm) {act : Act}
    (h : act ∈ refusal site stop) : act.isInterrupt = false := by
  cases stop with
  | quiet => cases h
  | refuse page handling =>
    simp only [refusal, refuse] at h
    split at h
    · rename_i fault hd
      have hnews := site.now.failsLoudly_httpDate _ hd
      exact isInterrupt_of_mem_farewell (hnews.withContext handling).isInterrupt h
    · obtain ⟨bytes, -, rfl⟩ := List.mem_map.1 h
      rfl
  | fail fault => exact isInterrupt_of_mem_farewell hstop h

theorem isCalm_exchange (hr : site.routes.IsCalm) (hs : s.IsCalm) : (exchange site s).IsCalm := by
  have hread := Http.Head.isCalm_read hs
  unfold exchange
  split
  · rename_i stop h
    rw [h] at hread
    exact ⟨fun act hact => isInterrupt_of_mem_refusal hread hact, fun t ht => by cases ht⟩
  · rename_i head t h
    rw [h] at hread
    have hanswer : (answer site head t).IsCalm := isCalm_answer hr hread
    exact hanswer.behind fun act => isInterrupt_of_mem_interim

theorem isInterrupt_of_mem_plan (hr : site.routes.IsCalm) (hs : s.IsCalm) {act : Act}
    (h : act ∈ plan site s) : act.isInterrupt = false := by
  induction s using exchange_induction site with
  | last s hnext =>
    rw [plan_of_next_none hnext] at h
    exact (isCalm_exchange hr hs).acts act h
  | more s t hnext ih =>
    rw [plan_of_next_some hnext] at h
    obtain h | h := List.mem_append.1 h
    · exact (isCalm_exchange hr hs).acts act h
    · exact ih ((isCalm_exchange hr hs).next t hnext) h

end Connection

namespace Delivery

theorem interruption_perform {peer : Peer} {sink : Sink} (hs : sink.failure.isInterrupt = false)
    {acts : List Act} (h : ∀ act ∈ acts, act.isInterrupt = false) :
    (perform peer sink acts).interruption = none := by
  induction acts generalizing sink with
  | nil => rfl
  | cons act acts ih =>
    have hrest : ∀ act ∈ acts, act.isInterrupt = false := fun a ha => h a (List.mem_cons_of_mem act ha)
    cases act with
    | write bytes handling =>
      rw [perform]
      split
      · have hafter : (sink.after bytes).failure.isInterrupt = false := hs
        exact ih hafter hrest
      · have hi : ({ sink.failure with context := handling } : Fault).isInterrupt = false := hs
        simp only [broken, hi, Bool.false_eq_true, if_false, Record.addSent]
        split
        · rfl
        · split <;> rfl
    | call call => exact ih hs hrest
    | pause duration => exact ih hs hrest
    | log entry => exact ih hs hrest
    | interrupt fault => exact absurd (h _ List.mem_cons_self) (by simp [Act.isInterrupt])

end Delivery

/-- A connection does not end the run if nobody asks for it, whatever else goes wrong on it. -/
theorem Connection.interruption_serve {site : Site} (hr : site.routes.IsCalm) {source : Source}
    (hs : source.IsCalm) {sink : Sink} (hk : sink.IsCalm) :
    (serve site source sink).interruption = none := by
  rw [serve_eq, Delivery.close_of_isSystem hk.closing]
  exact Delivery.interruption_perform hk.failure fun act h => isInterrupt_of_mem_plan hr hs h

theorem Greeting.isCalm_routes : routes.IsCalm := by
  intro entry he request fault hf
  obtain rfl := List.mem_singleton.1 he
  cases hf

end GreetingServer
