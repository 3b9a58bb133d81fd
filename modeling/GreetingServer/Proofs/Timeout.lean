import GreetingServer.Proofs.Answer
import GreetingServer.Proofs.LostPeer

/-! Connections that time out. Wherever a read or a write does so the connection ends there without a
word, unless it is a read inside the body of a request: that timeout is taken for a failure of the
server, which is logged and told to the peer. -/
namespace GreetingServer

namespace Delivery
variable {peer : Peer} {sink : Sink}

/-- One of some acts is a write that the peer does not take as a whole. The record is what has come
of the acts before it, and of the part of it that is taken. -/
inductive IsBroken (peer : Peer) (sink : Sink) : List Act → Record → Prop
  | write (before : List Act) (h : ∀ act ∈ before, act.isInterrupt = false)
      (taken : sink.takes (perform peer Sink.unlimited before).sent = true) {bytes : Bytes}
      (broken : (sink.after (perform peer Sink.unlimited before).sent).takes bytes = false)
      (handling : Option Fault) (behind : List Act) :
      IsBroken peer sink (before ++ .write bytes handling :: behind)
        (perform peer Sink.unlimited before ++
          { sent := (sink.after (perform peer Sink.unlimited before).sent).part bytes })

/-- Nothing comes of a write that times out but the part of it that is taken. -/
theorem broken_of_timeout (h : sink.failure.kind = .timeout) (peer : Peer)
    (handling : Option Fault) : broken peer sink handling = {} := by
  simp [broken, Fault.isInterrupt, Fault.isSilent, h]

theorem perform_of_isBroken (h : sink.failure.kind = .timeout) {acts : List Act} {record : Record}
    (hb : IsBroken peer sink acts record) : perform peer sink acts = record := by
  cases hb with
  | write before hacts taken hbroken handling behind =>
    have hafter : (sink.after (perform peer Sink.unlimited before).sent).failure.kind = .timeout := h
    rw [perform_append_of_takes hacts taken, perform, if_neg (by simp [hbroken]),
      broken_of_timeout hafter]
    simp [Record.addSent]

theorem perform_cons {act : Act} (h : act.isInterrupt = false) (peer : Peer) (acts : List Act) :
    perform peer Sink.unlimited (act :: acts) =
      perform peer Sink.unlimited [act] ++ perform peer Sink.unlimited acts := by
  have hone : ∀ a ∈ [act], a.isInterrupt = false := by simpa using h
  exact perform_append peer hone acts

theorem IsBroken.cons {act : Act} (hact : act.isInterrupt = false)
    (ht : sink.takes (perform peer Sink.unlimited [act]).sent = true) {acts : List Act}
    {record : Record}
    (hb : IsBroken peer (sink.after (perform peer Sink.unlimited [act]).sent) acts record) :
    IsBroken peer sink (act :: acts) (perform peer Sink.unlimited [act] ++ record) := by
  cases hb with
  | write before h taken hbroken handling behind =>
    have hall : ∀ a ∈ act :: before, a.isInterrupt = false := by simpa [hact] using h
    have hsent : (perform peer Sink.unlimited (act :: before)).sent =
        (perform peer Sink.unlimited [act]).sent ++ (perform peer Sink.unlimited before).sent := by
      rw [perform_cons hact]
      rfl
    have hb := IsBroken.write (act :: before) hall
      (hsent ▸ Sink.takes_append_of_after ht taken) (by rwa [hsent, Sink.after_append]) handling
      behind
    rwa [hsent, Sink.after_append, perform_cons hact, Record.append_assoc] at hb

theorem takes_or_isBroken (peer : Peer) (sink : Sink) (acts : List Act) :
    sink.takes (perform peer Sink.unlimited acts).sent = true ∨
      ∃ record, IsBroken peer sink acts record := by
  induction acts generalizing sink with
  | nil => exact .inl sink.takes_nil
  | cons act acts ih =>
    by_cases ht : sink.takes (perform peer Sink.unlimited [act]).sent = true
    · cases hi : act.isInterrupt with
      | true =>
        cases act with
        | interrupt fault => exact .inl sink.takes_nil
        | _ => cases hi
      | false =>
        rcases ih (sink.after (perform peer Sink.unlimited [act]).sent) with hrest | ⟨record, hb⟩
        · rw [perform_cons hi]
          exact .inl (Sink.takes_append_of_after ht hrest)
        · exact .inr ⟨_, hb.cons hi ht⟩
    -- Nothing but a write can fail to be taken.
    · cases act with
      | write bytes handling =>
        have hn : sink.takes bytes = false := by
          simpa [perform, Record.addSent] using ht
        exact .inr ⟨_, .write [] (by simp) sink.takes_nil (by simpa [perform] using hn) handling acts⟩
      | _ => exact absurd sink.takes_nil ht

end Delivery

namespace Connection
variable {site : Site} {head : Http.Head} {s t : Source} {record : Record} {sink : Sink}
  {fault : Fault} {date : Text}

/-- Where a fault strikes a connection. -/
inductive Place
  | head
  | body (head : Http.Head)
  | write

/-- A read or a write on a connection fails by a given fault. The record is what has come of the
connection up to that. -/
inductive Strikes (site : Site) (start : Source) (sink : Sink) (fault : Fault) :
    Place → Record → Prop
  | head {s : Source} {record : Record} (reach : Reaches site start record s)
      (taken : sink.takes record.sent = true) (read : Http.Head.read s = .error (.fail fault)) :
      Strikes site start sink fault .head record
  | body {s t : Source} {record : Record} (reach : Reaches site start record s) {head : Http.Head}
      (taken : sink.takes (record.sent ++ interimBytes head) = true)
      (read : Http.Head.read s = .ok (head, t)) {n : Nat}
      (length : Http.ContentLength.ofHeaders head.headers = .ok n) (lacking : t.unread.length < n)
      (failing : t.failure = some fault) :
      Strikes site start sink fault (.body head) (record ++ { sent := interimBytes head })
  | write {record : Record} (failing : sink.failure = fault)
      (broken : Delivery.IsBroken site.peer sink (plan site start) record) :
      Strikes site start sink fault .write record

/-- What has come of a connection so far has come of the first acts on it. -/
theorem Reaches.exists_acts (h : Reaches site s record t) :
    ∃ acts, plan site s = acts ++ plan site t ∧ (∀ act ∈ acts, act.isInterrupt = false) ∧
      Delivery.perform site.peer Sink.unlimited acts = record := by
  induction h with
  | refl s => exact ⟨[], rfl, by simp, rfl⟩
  | @step s t u record hnext hmore ih =>
    obtain ⟨acts, hplan, hacts, hrecord⟩ := ih
    have hopen : (exchange site s).staysOpen = true := by
      rw [Exchange.staysOpen, hnext]
      rfl
    have hfirst := goesOnUninterrupted_exchange s hopen
    refine ⟨(exchange site s).acts ++ acts, ?_, ?_, ?_⟩
    · rw [plan_of_next_some hnext, hplan, List.append_assoc]
    · intro act ha
      rcases List.mem_append.1 ha with ha | ha
      · exact hfirst act ha
      · exact hacts act ha
    · rw [Delivery.perform_append site.peer hfirst, hrecord]
      rfl

theorem Reaches.failure_eq (h : Reaches site s record t) : t.failure = s.failure := by
  induction h with
  | refl s => rfl
  | step hnext _ ih => rw [ih, failure_next_exchange hnext]

/-- If the peer has taken what has been written so far then what comes of a connection is what has
come of it so far, followed by what comes of the rest with the room that is left. -/
theorem Reaches.perform_eq (h : Reaches site s record t) (ht : sink.takes record.sent = true) :
    Delivery.perform site.peer sink (plan site s) =
      record ++ Delivery.perform site.peer (sink.after record.sent) (plan site t) := by
  obtain ⟨acts, hplan, hacts, rfl⟩ := h.exists_acts
  rw [hplan, Delivery.perform_append_of_takes hacts ht]

/-- A connection ends without a word if the head of a request times out. -/
theorem plan_of_timeout (ht : fault.kind = .timeout)
    (hr : Http.Head.read s = .error (.fail fault)) : plan site s = [] := by
  have hexchange : exchange site s = ⟨[], none⟩ := by
    simp [exchange, hr, refusal, farewell, Fault.isInterrupt, Fault.isSilent, ht]
  rw [plan_of_next_none (by rw [hexchange]), hexchange]

theorem answer_of_timeout (site : Site) (ht : fault.kind = .timeout) {n : Nat}
    (hl : Http.ContentLength.ofHeaders head.headers = .ok n) (hlt : t.unread.length < n)
    (hf : t.failure = some fault) :
    answer site head t = fail site head head.isClosing fault ⟨[], some fault⟩ := by
  have hd : fault.isDisconnect = false := by simp [Fault.isDisconnect, ht, Fault.Kind.isDisconnect]
  rw [answer_of_length hl, answerAfterBody_of_lt hlt, hf, Option.getD_some,
    if_neg (by simp [hd]), if_neg (by simp [ht]), closingWith_of_pos (Nat.zero_lt_of_lt hlt)]

theorem exists_acts_fail_eq_log (hi : fault.isInterrupt = false) (site : Site) (head : Http.Head)
    (closing : Bool) (s : Source) :
    ∃ entry rest, (fail site head closing fault s).acts = .log entry :: rest ∧
      (fault.IsTellable → entry = failureEntry fault) := by
  by_cases ht : fault.IsTellable
  · rw [fail_eq_behind hi ht]
    exact ⟨_, _, rfl, fun _ => rfl⟩
  · rw [fail, if_neg (by simp [hi])]
    split
    · rename_i f hf
      have hnews := (failsLoudly_messageOf _ _ f hf).withContext (some fault)
      rw [farewellFrom, farewell_of_isNews hnews]
      exact ⟨_, _, rfl, fun h => absurd h ht⟩
    · exact ⟨_, _, rfl, fun h => absurd h ht⟩

theorem exists_logs_of_timeout (site : Site) (ht : fault.kind = .timeout)
    (hr : Http.Head.read s = .ok (head, t)) {n : Nat}
    (hl : Http.ContentLength.ofHeaders head.headers = .ok n) (hlt : t.unread.length < n)
    (hf : t.failure = some fault) (taken : sink.takes (interimBytes head) = true) :
    ∃ entry rest, (Delivery.perform site.peer sink (plan site s)).logs = entry :: rest ∧
      (fault.IsTellable → entry = failureEntry fault) := by
  have hi : fault.isInterrupt = false := by simp [Fault.isInterrupt, ht]
  obtain ⟨entry, acts, hacts, htold⟩ :=
    exists_acts_fail_eq_log hi site head head.isClosing ⟨[], some fault⟩
  obtain ⟨behind, hplan⟩ := acts_prefix_plan site s
  rw [exchange_of_read hr, answer_of_timeout site ht hl hlt hf, hacts] at hplan
  have hinterim := perform_interim site.peer head
  rw [← hplan, List.append_assoc,
    Delivery.perform_append_of_takes (fun _ => isInterrupt_of_mem_interim) (by rwa [hinterim]),
    hinterim]
  exact ⟨entry, _, rfl, htold⟩

/-- Then the peer is told, and the connection goes on unless the request ends it. -/
theorem serve_of_timeout_body (hd : site.now.httpDate = .ok date) (ht : fault.kind = .timeout)
    (htext : fault.IsTellable)
    (hr : Http.Head.read s = .ok (head, t)) {n : Nat}
    (hl : Http.ContentLength.ofHeaders head.headers = .ok n) (hlt : t.unread.length < n)
    (hf : t.failure = some fault) :
    serve site s Sink.unlimited =
      ({ sent := interimBytes head } : Record) ++
        (({ sent := responseBytes date head head.isClosing (failureResponse fault)
            logs := [failureEntry fault] } : Record) ++
          if head.isClosing then {} else serve site ⟨[], some fault⟩ Sink.unlimited) := by
  have hi : fault.isInterrupt = false := by simp [Fault.isInterrupt, ht]
  have hanswer := answer_of_timeout site ht hl hlt hf
  have houtcome : outcome site (exchange site s) = _ := outcome_exchange hr
  have hnext := next_exchange_of_read site hr
  rw [hanswer, outcome_fail hd hi htext] at houtcome
  rw [hanswer, fail_eq_behind hi htext, Exchange.behind,
    next_respond_of_nil (isWritable_failureResponse fault) rfl, hd] at hnext
  rw [serve_of_nextSource hnext, houtcome, Record.append_assoc]

theorem exchange_append (site : Site) {bytes : Bytes}
    (hread : Http.Head.read ⟨bytes, some fault⟩ ≠ .error (.fail fault))
    (hbody : ∀ head t, Http.Head.read ⟨bytes, some fault⟩ = .ok (head, t) → HasWholeBody head t)
    (more : Bytes) (ending : Option Fault) :
    ∃ e rest, exchange site ⟨bytes, some fault⟩ = Exchange.onward e ⟨rest, some fault⟩ ∧
      exchange site ⟨bytes ++ more, ending⟩ = e.onward ⟨rest ++ more, ending⟩ := by
  have h := Http.Head.read_agrees bytes more (some fault) ending
  generalize hpart : Http.Head.read ⟨bytes, some fault⟩ = part at h hread hbody
  generalize hwhole : Http.Head.read ⟨bytes ++ more, ending⟩ = whole at h
  cases h with
  | stopped stop =>
    simp only [exchange, hpart, hwhole]
    exact ⟨⟨refusal site stop, none⟩, [], rfl, rfl⟩
  | same head rest =>
    obtain ⟨e, behind, hfirst, hmore⟩ :=
      answer_append site (hbody head _ rfl) more (some fault) ending
    rw [exchange_of_read hpart, exchange_of_read hwhole, hfirst, hmore]
    exact ⟨⟨interim head ++ e.acts, e.next⟩, behind, rfl, rfl⟩
  | failed hfault =>
    obtain rfl := Option.some.inj hfault
    exact absurd rfl hread
  | ended hnone => cases hnone

theorem serve_append_of_reaches {bytes : Bytes}
    (h : ∀ record s, Reaches site ⟨bytes, some fault⟩ record s →
      Http.Head.read s ≠ .error (.fail fault) ∧
        ∀ head t, Http.Head.read s = .ok (head, t) → HasWholeBody head t)
    (more : Bytes) (ending : Option Fault) :
    serve site ⟨bytes, some fault⟩ Sink.unlimited =
      serve site ⟨bytes ++ more, ending⟩ Sink.unlimited := by
  -- On what is unread, which gets less with every exchange that goes on.
  induction hn : bytes.length using Nat.strongRecOn generalizing bytes with
  | ind n ih =>
    obtain ⟨hread, hbody⟩ := h _ _ (.refl _)
    obtain ⟨e, rest, hfirst, hmore⟩ := exchange_append site hread hbody more ending
    rw [serve_of_exchange hfirst, serve_of_exchange hmore]
    by_cases hopen : e.staysOpen = true
    · have hnext : (exchange site ⟨bytes, some fault⟩).next = some ⟨rest, some fault⟩ := by
        rw [hfirst, Exchange.next_onward, if_pos hopen]
      have hlt := length_next_exchange_lt hnext
      rw [if_pos hopen, if_pos hopen,
        ih rest.length (hn ▸ hlt) (fun record s hr => h _ s (.step hnext hr)) rfl]
    · rw [if_neg hopen, if_neg hopen]

/-- What is sent on a connection begins with the word to go on, if its first request waits for it. -/
theorem interimBytes_prefix (site : Site) (hr : Http.Head.read s = .ok (head, t)) :
    interimBytes head <+: (serve site s Sink.unlimited).sent := by
  have hacts : interim head <+: plan site s := by
    refine List.IsPrefix.trans ?_ (acts_prefix_plan site s)
    rw [exchange_of_read hr]
    exact List.prefix_append _ _
  have hsent := (Delivery.isPrefix_perform site.peer hacts).sent
  rwa [perform_interim, ← serve_unlimited] at hsent

/-- A fault that strikes a connection nowhere has no part in what comes of it. -/
theorem serve_of_not_strikes {bytes : Bytes} (hs : sink.failure = fault)
    (hc : ∀ f ∈ sink.closing, f.kind.isSystem = true)
    (h : ∀ place record, ¬Strikes site ⟨bytes, some fault⟩ sink fault place record) (more : Bytes)
    (ending : Option Fault) :
    serve site ⟨bytes, some fault⟩ sink = serve site ⟨bytes ++ more, ending⟩ Sink.unlimited := by
  rcases Delivery.takes_or_isBroken site.peer sink (plan site ⟨bytes, some fault⟩) with
    htakes | ⟨record, hbroken⟩
  swap
  · exact absurd (.write hs hbroken) (h _ _)
  rw [serve_eq, Delivery.close_of_isSystem hc, Delivery.perform_of_takes htakes,
    ← serve_unlimited]
  rw [← serve_unlimited] at htakes
  refine serve_append_of_reaches ?_ more ending
  intro record s hreach
  have hsent : sink.takes (record.sent ++ (serve site s Sink.unlimited).sent) = true := by
    rw [hreach.serve_eq] at htakes
    exact htakes
  refine ⟨fun hread => h _ _ (.head hreach (Sink.takes_append hsent).1 hread), ?_⟩
  intro head t hread
  by_contra hb
  obtain ⟨n, hl, hlt⟩ := exists_length_of_lacking hb
  obtain ⟨rest, hrest⟩ := interimBytes_prefix site hread
  have hinterim : sink.takes (record.sent ++ interimBytes head) = true := by
    rw [← hrest, ← List.append_assoc] at hsent
    exact (Sink.takes_append hsent).1
  have hfailing : t.failure = some fault :=
    (Http.Head.failure_of_read hread).trans hreach.failure_eq
  exact h _ _ (.body hreach hinterim hread hl hlt hfailing)

/-- A timeout ends a connection without a word wherever it strikes but in a body: what comes of the
connection is what has come of it up to there. A request whose body times out is answered like a
failure of the server, with an entry in the log and a response about the timeout. -/
theorem serve_of_timeout {start : Source} {place : Place} (ht : fault.kind = .timeout)
    (hc : ∀ f ∈ sink.closing, f.kind.isSystem = true)
    (h : Strikes site start sink fault place record) :
    (serve site start sink = record ↔ ∀ head, place ≠ .body head) ∧
      ∀ head, place = .body head → fault.IsTellable →
        (∃ rest, (serve site start sink).logs = record.logs ++ failureEntry fault :: rest) ∧
        ∀ date, site.now.httpDate = .ok date → sink = Sink.unlimited →
          serve site start sink = record ++
            (({ sent := responseBytes date head head.isClosing (failureResponse fault)
                logs := [failureEntry fault] } : Record) ++
              if head.isClosing then {} else serve site ⟨[], some fault⟩ Sink.unlimited) := by
  rw [serve_eq, Delivery.close_of_isSystem hc]
  cases h with
  | head reach taken read =>
    have hserve := reach.perform_eq taken
    rw [plan_of_timeout ht read] at hserve
    simp [hserve, Delivery.perform]
  | @body s t earlier reach head taken read n length lacking failing =>
    obtain ⟨hfront, hinterim⟩ := Sink.takes_append taken
    have hserve := reach.perform_eq hfront
    obtain ⟨entry, rest, hrest, htold⟩ :=
      exists_logs_of_timeout site ht read length lacking failing hinterim
    have hlogs : (Delivery.perform site.peer sink (plan site start)).logs =
        (earlier ++ ({ sent := interimBytes head } : Record)).logs ++ entry :: rest := by
      rw [hserve]
      simp [Record.append_eq, Record.append, hrest]
    refine ⟨⟨fun he => ?_, fun hplace => absurd rfl (hplace head)⟩, ?_⟩
    · rw [he] at hlogs
      simp at hlogs
    · rintro _ ⟨⟩ htext
      refine ⟨⟨rest, htold htext ▸ hlogs⟩, ?_⟩
      rintro date hd rfl
      have hbody := serve_of_timeout_body hd ht htext read length lacking failing
      rw [Record.append_assoc, ← hbody, ← serve_unlimited]
      exact reach.serve_eq
  | write failing broken =>
    simp [Delivery.perform_of_isBroken (failing ▸ ht) broken]

/-- A greeting waits for the next request, and another one is told to a peer that takes no more of
it. -/
theorem serve_of_timeout_greeting :
    let idle : Source := ⟨postBytes ++ [71, 69, 84], some Fault.timedOut⟩
    let stalled : Sink := ⟨some 20, Fault.timedOut, none⟩
    serve Greeting.site idle Sink.unlimited = serve Greeting.site postSource Sink.unlimited ∧
      ∃ record, Strikes Greeting.site postSource stalled Fault.timedOut .write record ∧
        serve Greeting.site postSource stalled = record := by
  intro idle stalled
  have hthree : Http.ContentLength.Announces postHead.headers 3 :=
    .told rfl isNumeral_three (by decide)
  have hbody : [(71 : UInt8), 69, 84].length = 3 := rfl
  have hexchange := exchange_of_whole Greeting.site isWhole_postBytes hthree hbody []
    (some Fault.timedOut)
  rw [List.append_nil] at hexchange
  have hnext : (exchange Greeting.site idle).next = some ⟨[], some Fault.timedOut⟩ := by
    rw [hexchange]
    rfl
  have hreach := Reaches.step hnext (.refl _)
  rw [hexchange, Record.append_empty] at hreach
  have hwhole : serve Greeting.site postSource Sink.unlimited =
      outcome Greeting.site (alone Greeting.site postHead 3) := serve_postSource
  constructor
  · have hstruck : Strikes Greeting.site idle Sink.unlimited Fault.timedOut .head _ :=
      .head hreach rfl rfl
    have hhead := (serve_of_timeout rfl (by simp [Sink.unlimited]) hstruck).1
    exact (hhead.2 (by simp)).trans hwhole.symm
  · have hlong : stalled.takes (serve Greeting.site postSource Sink.unlimited).sent = false := by
      rw [hwhole]
      decide +kernel
    rcases Delivery.takes_or_isBroken Greeting.site.peer stalled (plan Greeting.site postSource) with
      htakes | ⟨record, hbroken⟩
    · rw [← serve_unlimited] at htakes
      exact absurd (htakes.symm.trans hlong) (by decide)
    · have hstruck : Strikes Greeting.site postSource stalled Fault.timedOut .write record :=
        .write rfl hbroken
      have hwrite := (serve_of_timeout rfl (by simp [stalled]) hstruck).1
      exact ⟨record, hstruck, hwrite.2 (by simp)⟩

/-- A body that times out is not given up silently. -/
theorem not_silent_of_timeout_body :
    let source : Source := ⟨postBytes ++ [71], some Fault.timedOut⟩
    Strikes Greeting.site source Sink.unlimited Fault.timedOut (.body postHead) {} ∧
      serve Greeting.site source Sink.unlimited =
        { sent := responseBytes "Thu, 01 Jan 1970 00:00:00 GMT".toList postHead false
            (failureResponse Fault.timedOut)
          logs := [failureEntry Fault.timedOut] } := by
  intro source
  have hread : Http.Head.read source = .ok (postHead, ⟨[71], some Fault.timedOut⟩) :=
    isWhole_postBytes.read_append [71] (some Fault.timedOut)
  have hthree : Http.ContentLength.ofHeaders postHead.headers = .ok 3 := rfl
  refine ⟨.body (.refl _) rfl hread hthree (by decide) rfl, ?_⟩
  have htold : Fault.timedOut.IsTellable := Fault.isTellable_of _ _
  rw [serve_of_timeout_body Instant.httpDate_zero rfl htold hread hthree (by decide) rfl]
  have hsilent : serve Greeting.site ⟨[], some Fault.timedOut⟩ Sink.unlimited = {} := by
    rw [serve_eq, plan_of_timeout rfl rfl]
    rfl
  rw [hsilent]
  rfl

end Connection
end GreetingServer
