import GreetingServer.Proofs.PartialDelivery
import GreetingServer.Proofs.PartialSource
import GreetingServer.Proofs.SentResponse

/-! Peers that are lost while they are read from, and connections that end inside a body. Up to the
byte that does not come, a connection is served as if that byte did come. The request that it
belongs to is given up, and nothing comes of it but, perhaps, the word to go on. -/
namespace GreetingServer

namespace Record

theorem IsPrefix.rfl {a : Record} : a.IsPrefix a :=
  ⟨List.prefix_rfl, List.prefix_rfl, List.prefix_rfl, List.prefix_rfl⟩

theorem isPrefix_of_empty (a : Record) : IsPrefix {} a :=
  ⟨List.nil_prefix, List.nil_prefix, List.nil_prefix, List.nil_prefix⟩

theorem IsPrefix.append_left {a b : Record} (h : a.IsPrefix b) (front : Record) :
    (front ++ a).IsPrefix (front ++ b) :=
  ⟨(List.prefix_append_right_inj _).2 h.sent, (List.prefix_append_right_inj _).2 h.calls,
    (List.prefix_append_right_inj _).2 h.pauses, (List.prefix_append_right_inj _).2 h.logs⟩

end Record

namespace Delivery

theorem isPrefix_perform (peer : Peer) {first acts : List Act} (h : first <+: acts) :
    (perform peer Sink.unlimited first).IsPrefix (perform peer Sink.unlimited acts) := by
  induction first generalizing acts with
  | nil => exact Record.isPrefix_of_empty _
  | cons act first ih =>
    obtain ⟨rest, rfl⟩ := h
    have hrest := ih (List.prefix_append first rest)
    rw [List.cons_append]
    cases act with
    | write bytes handling =>
      simp only [perform, Sink.takes_unlimited, Sink.after_unlimited, if_true]
      exact ⟨(List.prefix_append_right_inj bytes).2 hrest.sent, hrest.calls, hrest.pauses,
        hrest.logs⟩
    | call call =>
      exact ⟨hrest.sent, (List.prefix_cons_inj call).2 hrest.calls, hrest.pauses, hrest.logs⟩
    | pause duration =>
      exact ⟨hrest.sent, hrest.calls, (List.prefix_cons_inj duration).2 hrest.pauses, hrest.logs⟩
    | log entry =>
      exact ⟨hrest.sent, hrest.calls, hrest.pauses, (List.prefix_cons_inj entry).2 hrest.logs⟩
    | interrupt fault => exact Record.IsPrefix.rfl

end Delivery

namespace Exchange

inductive Agrees (failure ending : Option Fault) (more : Bytes) : Exchange → Exchange → Prop
  /-- The same is done, and the next request comes right behind. -/
  | same (e : Exchange) (rest : Bytes) :
      Agrees failure ending more (e.onward ⟨rest, failure⟩) (e.onward ⟨rest ++ more, ending⟩)
  | lost {part whole : Exchange} (hnext : part.next = none) (hacts : part.acts <+: whole.acts) :
      Agrees failure ending more part whole
  /-- The source has ended in the head of the request, and nothing is left of it. -/
  | ended {part : Exchange} (h : failure = none)
      (hnext : ∀ t, part.next = some t → t.unread = []) (whole : Exchange) :
      Agrees failure ending more part whole

end Exchange

namespace Connection
variable {site : Site} {head : Http.Head} {bytes more : Bytes} {failure ending : Option Fault}

theorem farewell_of_isDisconnect {fault : Fault} (h : fault.isDisconnect = true) (peer : Peer) :
    farewell peer fault = [] := by
  have hi : fault.isInterrupt = false := by
    rw [Fault.isInterrupt, decide_eq_false_iff_not]
    intro hk
    rw [Fault.isDisconnect, hk] at h
    cases h
  rw [farewell, if_neg (by simp [hi]), if_pos (Fault.isSilent_of_isDisconnect h)]

/-- A request whose body is there is answered as if more bytes followed it. -/
theorem answer_append (site : Site)
    (hb : ∀ n, Http.ContentLength.ofHeaders head.headers = .ok n → n ≤ bytes.length) (more : Bytes)
    (failure ending : Option Fault) :
    ∃ e rest, answer site head ⟨bytes, failure⟩ = Exchange.onward e ⟨rest, failure⟩ ∧
      answer site head ⟨bytes ++ more, ending⟩ = e.onward ⟨rest ++ more, ending⟩ := by
  cases hl : Http.ContentLength.ofHeaders head.headers with
  | error fault =>
    simp only [answer, hl]
    split
    · exact ⟨_, bytes, (rejectBadRequest_onward _ _ _ ⟨[], none⟩ _).symm,
        (rejectBadRequest_onward _ _ _ ⟨[], none⟩ _).symm⟩
    · exact ⟨_, bytes, (fail_onward _ _ _ _ ⟨[], none⟩ _).symm,
        (fail_onward _ _ _ _ ⟨[], none⟩ _).symm⟩
  | ok length =>
    have hle := hb length hl
    have hwhole : length ≤ (bytes ++ more).length := by
      rw [List.length_append]
      omega
    rw [answer_of_length hl, answer_of_length hl, answerAfterBody_of_le hle,
      answerAfterBody_of_le hwhole, Source.skip, Source.skip, List.drop_append_of_le_length hle]
    exact ⟨_, bytes.drop length, (dispatch_onward _ _ _ ⟨[], none⟩ _).symm,
      (dispatch_onward _ _ _ ⟨[], none⟩ _).symm⟩

/-- A body that is there is dropped as if more bytes followed it, and without a part of it the
request is given up. -/
theorem agrees_answer (hf : ∀ fault ∈ failure, fault.isDisconnect = true) (site : Site)
    (head : Http.Head) (bytes more : Bytes) (ending : Option Fault) :
    Exchange.Agrees failure ending more (answer site head ⟨bytes, failure⟩)
      (answer site head ⟨bytes ++ more, ending⟩) := by
  by_cases hb : ∀ n, Http.ContentLength.ofHeaders head.headers = .ok n → n ≤ bytes.length
  · obtain ⟨e, rest, hpart, hwhole⟩ := answer_append site hb more failure ending
    rw [hpart, hwhole]
    exact .same e rest
  · push Not at hb
    obtain ⟨length, hl, hlt⟩ := hb
    have hgone : (failure.getD Discard.abandoned).isDisconnect = true := by
      cases failure with
      | none => rfl
      | some fault => exact hf fault rfl
    rw [answer_of_length hl, answerAfterBody_of_lt hlt, if_pos hgone]
    exact .lost rfl List.nil_prefix

/-- An exchange needs no byte that does not come, or it is given up for the lack of it. -/
theorem agrees_exchange (hf : ∀ fault ∈ failure, fault.isDisconnect = true) (site : Site)
    (bytes more : Bytes) (ending : Option Fault) :
    Exchange.Agrees failure ending more (exchange site ⟨bytes, failure⟩)
      (exchange site ⟨bytes ++ more, ending⟩) := by
  have h := Http.Head.read_agrees bytes more failure ending
  generalize hpart : Http.Head.read ⟨bytes, failure⟩ = part at h
  generalize hwhole : Http.Head.read ⟨bytes ++ more, ending⟩ = whole at h
  cases h with
  | stopped stop =>
    simp only [exchange, hpart, hwhole]
    exact .same ⟨refusal site stop, none⟩ []
  | same head rest =>
    rw [exchange_of_read hpart, exchange_of_read hwhole]
    have hanswer := agrees_answer hf site head rest more ending
    generalize answer site head ⟨rest, failure⟩ = part at hanswer
    generalize answer site head ⟨rest ++ more, ending⟩ = whole at hanswer
    cases hanswer with
    | same e rest => exact .same ⟨interim head ++ e.acts, e.next⟩ rest
    | lost hnext hacts => exact .lost hnext ((List.prefix_append_right_inj _).2 hacts)
    | ended hnone hnext =>
      have hgiven : ∀ t, (Exchange.mk (interim head ++ part.acts) part.next).next = some t →
          t.unread = [] := hnext
      exact .ended hnone hgiven _
  | failed hfault =>
    simp only [exchange, hpart, refusal, farewell_of_isDisconnect (hf _ hfault)]
    exact .lost rfl List.nil_prefix
  | ended hnone hleft =>
    refine .ended hnone ?_ _
    intro t ht
    cases part with
    | error stop =>
      simp only [exchange, hpart] at ht
      cases ht
    | ok found =>
      rw [next_exchange_of_read site hpart] at ht
      have hle := length_next_answer_le ht
      rw [hleft found.1 found.2 rfl, List.length_nil] at hle
      exact List.eq_nil_of_length_eq_zero (Nat.le_zero.1 hle)

theorem acts_prefix_plan (site : Site) (s : Source) : (exchange site s).acts <+: plan site s := by
  cases h : (exchange site s).next with
  | none => rw [plan_of_next_none h]
  | some t =>
    rw [plan_of_next_some h]
    exact List.prefix_append _ _

/-- What comes of a connection whose peer is lost is the beginning of what would have come of it. -/
theorem isPrefix_serve {fault : Fault} (hf : fault.isDisconnect = true) (site : Site)
    (bytes more : Bytes) (ending : Option Fault) :
    (serve site ⟨bytes, some fault⟩ Sink.unlimited).IsPrefix
      (serve site ⟨bytes ++ more, ending⟩ Sink.unlimited) := by
  -- Each exchange that leaves the connection open takes a byte.
  induction hn : bytes.length using Nat.strongRecOn generalizing bytes with
  | ind n ih =>
    have hlost : ∀ f ∈ some fault, f.isDisconnect = true := by
      intro f hm
      rw [← Option.some.inj hm]
      exact hf
    have h := agrees_exchange hlost site bytes more ending
    generalize hpart : exchange site ⟨bytes, some fault⟩ = part at h
    generalize hwhole : exchange site ⟨bytes ++ more, ending⟩ = whole at h
    cases h with
    | same e rest =>
      rw [serve_of_exchange hpart, serve_of_exchange hwhole]
      by_cases hopen : e.staysOpen = true
      · have hnext : (exchange site ⟨bytes, some fault⟩).next = some ⟨rest, some fault⟩ := by
          rw [hpart, Exchange.next_onward, if_pos hopen]
        have hlt := length_next_exchange_lt hnext
        rw [if_pos hopen, if_pos hopen]
        exact (ih rest.length (hn ▸ hlt) rest rfl).append_left _
      · rw [if_neg hopen, if_neg hopen]
        exact Record.IsPrefix.rfl
    | lost hnext hacts =>
      rw [serve_of_next_none (by rw [hpart, hnext]), hpart, serve_unlimited]
      have hplan := acts_prefix_plan site ⟨bytes ++ more, ending⟩
      rw [hwhole] at hplan
      exact Delivery.isPrefix_perform site.peer (hacts.trans hplan)
    | ended hnone => cases hnone

/-- Some requests of a connection have been answered, and the next one is read from a given source.
-/
inductive Reaches (site : Site) : Source → Record → Source → Prop
  | refl (s : Source) : Reaches site s {} s
  | step {s t u : Source} {record : Record} (h : (exchange site s).next = some t)
      (more : Reaches site t record u) :
      Reaches site s (outcome site (exchange site s) ++ record) u

/-- What comes of a connection is what has come of it so far, followed by what comes of the rest. -/
theorem Reaches.serve_eq {s t : Source} {record : Record} (h : Reaches site s record t) :
    serve site s Sink.unlimited = record ++ serve site t Sink.unlimited := by
  induction h with
  | refl s => exact (Record.empty_append _).symm
  | step hnext _ ih => rw [serve_of_next_some hnext, ih, Record.append_assoc]

theorem Reaches.length_le {s t : Source} {record : Record} (h : Reaches site s record t) :
    t.unread.length ≤ s.unread.length := by
  induction h with
  | refl s => exact Nat.le_refl _
  | step hnext _ ih => exact Nat.le_trans ih (Nat.le_of_lt (length_next_exchange_lt hnext))

theorem Reaches.append {s t : Source} {record : Record} (h : Reaches site s record t)
    (hs : s.failure = none) (ht : t.unread ≠ []) (more : Bytes) (ending : Option Fault) :
    t.failure = none ∧
      Reaches site ⟨s.unread ++ more, ending⟩ record ⟨t.unread ++ more, ending⟩ := by
  induction h with
  | refl s => exact ⟨hs, .refl _⟩
  | @step s t u record hnext hmore ih =>
    obtain ⟨bytes, failure⟩ := s
    obtain rfl : failure = none := hs
    have hended : ∀ f ∈ (none : Option Fault), f.isDisconnect = true := by simp
    have hagrees := agrees_exchange hended site bytes more ending
    generalize hpart : exchange site ⟨bytes, none⟩ = part at hagrees hnext ⊢
    generalize hwhole : exchange site ⟨bytes ++ more, ending⟩ = whole at hagrees
    cases hagrees with
    | same e rest =>
      cases hopen : e.staysOpen with
      | false =>
        rw [Exchange.next_onward, hopen] at hnext
        cases hnext
      | true =>
        rw [Exchange.next_onward, if_pos hopen] at hnext
        obtain rfl := Option.some.inj hnext
        obtain ⟨hfailure, hrest⟩ := ih rfl ht
        have hstep : (exchange site ⟨bytes ++ more, ending⟩).next =
            some ⟨rest ++ more, ending⟩ := by
          rw [hwhole, Exchange.next_onward, if_pos hopen]
        have hall := Reaches.step hstep hrest
        rw [hwhole] at hall
        exact ⟨hfailure, hall⟩
    | lost hnone =>
      rw [hnone] at hnext
      cases hnext
    -- Nothing would be left for the requests to come.
    | ended _ hleft =>
      have hle := hmore.length_le
      rw [hleft t hnext, List.length_nil] at hle
      exact absurd (List.eq_nil_of_length_eq_zero (Nat.le_zero.1 hle)) ht

/-- A request whose body ends too soon is given up, and so is the connection. -/
theorem serve_of_lacking (site : Site) {t u : Source} {n : Nat}
    (hr : Http.Head.read t = .ok (head, u)) (hu : u.failure = none)
    (hn : Http.ContentLength.Announces head.headers n)
    (hl : u.unread.length < n) :
    serve site t Sink.unlimited = { sent := interimBytes head } := by
  have hanswer : answer site head u = ⟨[], none⟩ := by
    rw [answer_of_length (Http.ContentLength.ofHeaders_of_announces hn),
      answerAfterBody_of_lt hl, hu]
    rfl
  rw [serve_of_next_none (by rw [next_exchange_of_read site hr, hanswer]), outcome_exchange hr,
    hanswer]
  exact Record.append_empty _

/-- A connection of which only the first bytes come. If the peer is lost behind them then what comes
of it is the beginning of what would have come of the whole connection. If they end inside the body
that the head of a request announces then the requests before it have been answered as on the whole
connection, and nothing comes of that request but the word to go on. -/
theorem serve_take (site : Site) (bytes : Bytes) (count : Nat) (ending : Option Fault) :
    (∀ fault : Fault, fault.isDisconnect = true →
      (serve site ⟨bytes.take count, some fault⟩ Sink.unlimited).IsPrefix
        (serve site ⟨bytes, ending⟩ Sink.unlimited)) ∧
    ∀ (record : Record) (t u : Source) (head : Http.Head) (n : Nat),
      Reaches site ⟨bytes.take count, none⟩ record t → Http.Head.read t = .ok (head, u) →
      Http.ContentLength.Announces head.headers n → u.unread.length < n →
        serve site ⟨bytes.take count, none⟩ Sink.unlimited =
            record ++ { sent := interimBytes head } ∧
          Reaches site ⟨bytes, ending⟩ record ⟨t.unread ++ bytes.drop count, ending⟩ ∧
          serve site ⟨bytes, ending⟩ Sink.unlimited =
            record ++ serve site ⟨t.unread ++ bytes.drop count, ending⟩ Sink.unlimited := by
  constructor
  · intro fault hf
    have h := isPrefix_serve hf site (bytes.take count) (bytes.drop count) ending
    rwa [List.take_append_drop] at h
  · intro record t u head n hreach hr hn hl
    have hne : t.unread ≠ [] :=
      List.ne_nil_of_length_pos (Nat.zero_lt_of_lt (Http.Head.length_unread_of_read hr))
    obtain ⟨hended, hwhole⟩ := hreach.append rfl hne (bytes.drop count) ending
    rw [List.take_append_drop] at hwhole
    obtain ⟨unread, failure⟩ := t
    obtain rfl : failure = none := hended
    have hlast := serve_of_lacking site hr (Http.Head.failure_of_read hr) hn hl
    exact ⟨by rw [hreach.serve_eq, hlast], hwhole, hwhole.serve_eq⟩

def postsBytes : Bytes := postBytes ++ [71, 69, 84] ++ (postBytes ++ [71, 69, 84])

/-- The second body lacks its last two bytes, and only the first request is answered. -/
theorem serve_take_greeting :
    let whole := serve Greeting.site ⟨postsBytes, none⟩ Sink.unlimited
    let first := serve Greeting.site postSource Sink.unlimited
    (serve Greeting.site ⟨postsBytes.take 80, some Fault.reset⟩ Sink.unlimited).IsPrefix whole ∧
      serve Greeting.site ⟨postsBytes.take 80, none⟩ Sink.unlimited = first ∧
      whole = first ++ first := by
  intro whole first
  have hthree : Http.ContentLength.Announces postHead.headers 3 :=
    .told rfl isNumeral_three (by decide)
  have hbody : [(71 : UInt8), 69, 84].length = 3 := rfl
  have htake : postsBytes.take 80 = postBytes ++ [71, 69, 84] ++ (postBytes ++ [71]) := by decide
  have hdrop : postBytes ++ [71] ++ postsBytes.drop 80 = postBytes ++ [71, 69, 84] := by decide
  have hexchange := exchange_of_whole Greeting.site isWhole_postBytes hthree hbody
    (postBytes ++ [71]) none
  have hfirst :
      outcome Greeting.site (exchange Greeting.site ⟨postsBytes.take 80, none⟩) = first := by
    rw [htake, hexchange]
    exact serve_postSource.symm
  have hnext : (exchange Greeting.site ⟨postsBytes.take 80, none⟩).next =
      some ⟨postBytes ++ [71], none⟩ := by
    rw [htake, hexchange]
    rfl
  have hreach := Reaches.step hnext (.refl _)
  rw [hfirst, Record.append_empty] at hreach
  obtain ⟨hlost, hended⟩ := serve_take Greeting.site postsBytes 80 none
  obtain ⟨hpart, -, hwhole⟩ := hended first ⟨postBytes ++ [71], none⟩ ⟨[71], none⟩ postHead 3 hreach
    (isWhole_postBytes.read_append [71] none) hthree (by decide)
  have hrest :=
    congrArg (fun rest => first ++ serve Greeting.site ⟨rest, none⟩ Sink.unlimited) hdrop
  exact ⟨hlost Fault.reset (by decide), hpart.trans (Record.append_empty _), hwhole.trans hrest⟩

end Connection
end GreetingServer
