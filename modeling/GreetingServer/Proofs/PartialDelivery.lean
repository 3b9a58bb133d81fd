import GreetingServer.Proofs.Composition
import Mathlib.Data.List.Infix

/-! Peers that stop taking bytes. Such a peer gets the first bytes of what a peer gets that takes
everything, and nothing is done after the write that it does not take as a whole, except that an
unusual fault of that write is logged. -/
namespace GreetingServer

namespace Record

/-- What has come of one thing is the beginning of what has come of another. -/
structure IsPrefix (a b : Record) : Prop where
  sent : a.sent <+: b.sent
  calls : a.calls <+: b.calls
  pauses : a.pauses <+: b.pauses
  logs : a.logs <+: b.logs

end Record

namespace Sink

@[simp] theorem part_nil (sink : Sink) : sink.part [] = [] := by
  cases hr : sink.room <;> simp [part, hr]

@[simp] theorem takes_nil (sink : Sink) : sink.takes [] = true := by
  cases hr : sink.room <;> simp [takes, hr]

theorem part_append_of_takes {sink : Sink} {bytes : Bytes} (h : sink.takes bytes = true)
    (more : Bytes) : sink.part (bytes ++ more) = bytes ++ (sink.after bytes).part more := by
  cases hr : sink.room with
  | none => simp only [part, after, hr, Option.map_none]
  | some room =>
    have hle : bytes.length ≤ room := by simpa [takes, hr] using h
    simp only [part, after, hr, Option.map_some, List.take_append, List.take_of_length_le hle]

theorem part_append_of_not_takes {sink : Sink} {bytes : Bytes} (h : sink.takes bytes = false)
    (more : Bytes) : sink.part (bytes ++ more) = sink.part bytes := by
  cases hr : sink.room with
  | none => simp [takes, hr] at h
  | some room =>
    have hlt : room < bytes.length := by simpa [takes, hr] using h
    simp only [part, hr, List.take_append_of_le_length (Nat.le_of_lt hlt)]

theorem takes_append {sink : Sink} {bytes more : Bytes} (h : sink.takes (bytes ++ more) = true) :
    sink.takes bytes = true ∧ (sink.after bytes).takes more = true := by
  cases hr : sink.room with
  | none => simp [takes, after, hr]
  | some room =>
    have hle : bytes.length + more.length ≤ room := by simpa [takes, hr] using h
    simp only [takes, after, hr, Option.map_some, decide_eq_true_eq]
    omega

theorem takes_append_of_after {sink : Sink} {bytes more : Bytes} (h : sink.takes bytes = true)
    (hmore : (sink.after bytes).takes more = true) : sink.takes (bytes ++ more) = true := by
  cases hr : sink.room with
  | none => simp [takes, hr]
  | some room =>
    simp only [takes, after, hr, Option.map_some, decide_eq_true_eq, List.length_append] at h hmore ⊢
    omega

/-- The room that some bytes leave is what is left of it behind the first and then behind the rest. -/
theorem after_append (sink : Sink) (bytes more : Bytes) :
    sink.after (bytes ++ more) = (sink.after bytes).after more := by
  cases hr : sink.room <;> simp [after, hr, Nat.sub_sub]

@[simp] theorem after_nil (sink : Sink) : sink.after [] = sink := by
  obtain ⟨room, failure, closing⟩ := sink
  cases room <;> rfl

end Sink

namespace Delivery
variable {peer : Peer} {sink : Sink}

/-- What has come of acts that are broken off by a peer, beside what would have come of them all. -/
structure IsCut (sink : Sink) (cut whole : Record) : Prop where
  sent : cut.sent = sink.part whole.sent
  calls : cut.calls <+: whole.calls
  pauses : cut.pauses <+: whole.pauses
  logs : sink.failure.isSilent = true → cut.logs <+: whole.logs

/-- A write that is not taken as a whole is followed by nothing but, perhaps, an entry about it. -/
theorem broken_eq (peer : Peer) (sink : Sink) (handling : Option Fault) :
    (broken peer sink handling).sent = [] ∧ (broken peer sink handling).calls = [] ∧
      (broken peer sink handling).pauses = [] ∧
      (sink.failure.isSilent = true → (broken peer sink handling).logs = []) := by
  by_cases hi : ({ sink.failure with context := handling } : Fault).isInterrupt = true
  · simp [broken, hi]
  · by_cases hs : ({ sink.failure with context := handling } : Fault).isSilent = true
    · simp [broken, hi, hs]
    · have hsame : ({ sink.failure with context := handling } : Fault).isSilent =
          sink.failure.isSilent := rfl
      refine ⟨?_, ?_, ?_, fun hsilent => absurd (hsame.trans hsilent) hs⟩ <;>
        simp [broken, hi, hs, Connection.unexpected]

/-- Acts that are broken off have begun as they would have gone on. -/
theorem isCut_perform (peer : Peer) (sink : Sink) (acts : List Act) :
    IsCut sink (perform peer sink acts) (perform peer Sink.unlimited acts) := by
  induction acts generalizing sink with
  | nil => exact ⟨sink.part_nil.symm, List.prefix_rfl, List.prefix_rfl, fun _ => List.prefix_rfl⟩
  | cons act acts ih =>
    cases act with
    | write bytes handling =>
      by_cases ht : sink.takes bytes = true
      · have hrest := ih (sink.after bytes)
        simp only [perform, ht, Sink.takes_unlimited, Sink.after_unlimited, if_true]
        refine ⟨?_, hrest.calls, hrest.pauses, hrest.logs⟩
        simp only [Record.addSent, hrest.sent]
        exact (Sink.part_append_of_takes ht _).symm
      -- This is the write at which the peer stops.
      · obtain ⟨hsent, hcalls, hpauses, hlogs⟩ := broken_eq peer sink handling
        have hn : sink.takes bytes = false := by simpa using ht
        simp only [perform, hn, Sink.takes_unlimited, Sink.after_unlimited, if_true,
          Bool.false_eq_true, if_false]
        refine ⟨?_, ?_, ?_, ?_⟩
        · simp only [Record.addSent, hsent, List.append_nil]
          exact (Sink.part_append_of_not_takes hn _).symm
        · simp [Record.addSent, hcalls]
        · simp [Record.addSent, hpauses]
        · intro hs
          simp [Record.addSent, hlogs hs]
    | call call =>
      have hrest := ih sink
      exact ⟨hrest.sent, (List.prefix_cons_inj call).2 hrest.calls, hrest.pauses, hrest.logs⟩
    | pause duration =>
      have hrest := ih sink
      exact ⟨hrest.sent, hrest.calls, (List.prefix_cons_inj duration).2 hrest.pauses, hrest.logs⟩
    | log entry =>
      have hrest := ih sink
      exact ⟨hrest.sent, hrest.calls, hrest.pauses,
        fun hs => (List.prefix_cons_inj entry).2 (hrest.logs hs)⟩
    | interrupt fault =>
      exact ⟨sink.part_nil.symm, List.prefix_rfl, List.prefix_rfl, fun _ => List.prefix_rfl⟩

theorem perform_of_takes {acts : List Act}
    (h : sink.takes (perform peer Sink.unlimited acts).sent = true) :
    perform peer sink acts = perform peer Sink.unlimited acts := by
  induction acts generalizing sink with
  | nil => rfl
  | cons act acts ih =>
    cases act with
    | write bytes handling =>
      simp only [perform, Sink.takes_unlimited, Sink.after_unlimited, if_true] at h ⊢
      obtain ⟨ht, hrest⟩ := Sink.takes_append h
      rw [if_pos ht, ih hrest]
    | call call => exact congrArg (·.addCall call) (ih h)
    | pause duration => exact congrArg (·.addPause duration) (ih h)
    | log entry => exact congrArg (·.addLog entry) (ih h)
    | interrupt fault => rfl

/-- Acts whose writes are all taken are performed, and those behind them with the room that is left.
-/
theorem perform_append_of_takes {acts : List Act} (h : ∀ act ∈ acts, act.isInterrupt = false)
    (ht : sink.takes (perform peer Sink.unlimited acts).sent = true) (rest : List Act) :
    perform peer sink (acts ++ rest) =
      perform peer Sink.unlimited acts ++
        perform peer (sink.after (perform peer Sink.unlimited acts).sent) rest := by
  induction acts generalizing sink with
  | nil => simp [perform]
  | cons act acts ih =>
    have hacts : ∀ a ∈ acts, a.isInterrupt = false := fun a ha => h a (List.mem_cons_of_mem act ha)
    rw [List.cons_append]
    cases act with
    | write bytes handling =>
      simp only [perform, Sink.takes_unlimited, Sink.after_unlimited, if_true] at ht ⊢
      obtain ⟨hfirst, hmore⟩ := Sink.takes_append ht
      rw [if_pos hfirst, ih hacts hmore, Record.addSent_append, ← Sink.after_append]
      rfl
    | call call =>
      simp only [perform]
      rw [ih hacts ht, Record.addCall_append]
      rfl
    | pause duration =>
      simp only [perform]
      rw [ih hacts ht, Record.addPause_append]
      rfl
    | log entry =>
      simp only [perform]
      rw [ih hacts ht, Record.addLog_append]
      rfl
    | interrupt fault => cases h _ List.mem_cons_self

theorem close_eq (sink : Sink) (r : Record) :
    (close sink r).sent = r.sent ∧ (close sink r).calls = r.calls ∧
      (close sink r).pauses = r.pauses ∧ (close sink r).logs = r.logs := by
  unfold close
  split
  · exact ⟨rfl, rfl, rfl, rfl⟩
  · split <;> exact ⟨rfl, rfl, rfl, rfl⟩

end Delivery

namespace Connection

/-- A connection whose peer takes only so many bytes. These are the first ones of what it would have
been sent; the calls and the pauses are the first ones too, and so are the entries in the log if the
peer is gone. If there is room for everything then nothing is changed. -/
theorem serve_of_room (site : Site) (source : Source) (room : Nat) (failure : Fault)
    (closing : Option Fault) :
    let whole := serve site source Sink.unlimited
    let cut := serve site source ⟨some room, failure, closing⟩
    cut.sent = whole.sent.take room ∧ cut.calls <+: whole.calls ∧ cut.pauses <+: whole.pauses ∧
      (failure.isDisconnect = true → cut.logs <+: whole.logs) ∧
      (whole.sent.length ≤ room →
        cut.calls = whole.calls ∧ cut.pauses = whole.pauses ∧ cut.logs = whole.logs) := by
  rw [serve_unlimited, serve_eq]
  intro whole cut
  have hcut := Delivery.isCut_perform site.peer ⟨some room, failure, closing⟩ (plan site source)
  obtain ⟨hsent, hcalls, hpauses, hlogs⟩ := Delivery.close_eq ⟨some room, failure, closing⟩
    (Delivery.perform site.peer ⟨some room, failure, closing⟩ (plan site source))
  refine ⟨hsent.trans hcut.sent, hcalls ▸ hcut.calls, hpauses ▸ hcut.pauses, ?_, ?_⟩
  · intro hd
    exact hlogs ▸ hcut.logs (Fault.isSilent_of_isDisconnect hd)
  · intro hroom
    have hall : Delivery.perform site.peer ⟨some room, failure, closing⟩ (plan site source) =
        Delivery.perform site.peer Sink.unlimited (plan site source) :=
      Delivery.perform_of_takes (decide_eq_true hroom)
    refine ⟨hcalls.trans ?_, hpauses.trans ?_, hlogs.trans ?_⟩ <;> rw [hall]

/-- A request with a body, and a connection that holds nothing else. -/
def postSource : Source := ⟨postBytes ++ [71, 69, 84], none⟩

theorem serve_postSource :
    serve Greeting.site postSource Sink.unlimited =
      outcome Greeting.site (alone Greeting.site postHead 3) := by
  have hthree : Http.ContentLength.Announces postHead.headers 3 :=
    .told rfl isNumeral_three (by decide)
  have hbody : [(71 : UInt8), 69, 84].length = 3 := rfl
  have hfirst := exchange_of_whole Greeting.site isWhole_postBytes hthree hbody [] none
  rw [List.append_nil] at hfirst
  rw [postSource, serve_of_exchange hfirst, serve_empty, ite_self, Record.append_empty]

/-- A peer that leaves inside the head of the greeting has been sent the first bytes of it. Nothing
is logged about that. -/
theorem serve_of_room_greeting :
    let whole := serve Greeting.site postSource Sink.unlimited
    let cut := serve Greeting.site postSource ⟨some 20, Fault.brokenPipe, none⟩
    Fault.brokenPipe.isDisconnect = true ∧ 20 < whole.sent.length ∧
      cut.sent = whole.sent.take 20 ∧ cut.logs <+: whole.logs := by
  intro whole cut
  have hcut := serve_of_room Greeting.site postSource 20 Fault.brokenPipe none
  have hlong : 20 < whole.sent.length := by
    have hwhole : whole = outcome Greeting.site (alone Greeting.site postHead 3) := serve_postSource
    rw [hwhole]
    decide +kernel
  exact ⟨by decide, hlong, hcut.1, hcut.2.2.2.1 (by decide)⟩

end Connection
end GreetingServer
