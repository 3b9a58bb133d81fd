import GreetingServer.Proofs.Timeout

/-! The loop that serves a connection. Each round of it reads and answers one request, and there is
another round only if the request leaves the connection open and the peer has taken all that has been
written. A round with another one behind it has taken at least one byte, whatever the request, its
failures and the headers of its response have said about the connection. So the loop ends, and not
more handlers are called than there are bytes. -/
namespace GreetingServer

namespace Delivery

theorem perform_append_of_not_takes {peer : Peer} {sink : Sink} {acts : List Act}
    (h : sink.takes (perform peer Sink.unlimited acts).sent = false) (rest : List Act) :
    perform peer sink (acts ++ rest) = perform peer sink acts := by
  rcases takes_or_isBroken peer sink acts with ht | ⟨record, hb⟩
  · exact absurd (ht.symm.trans h) (by decide)
  · cases hb with
    | write before hacts taken broken handling behind =>
      rw [List.append_assoc, perform_append_of_takes hacts taken,
        perform_append_of_takes hacts taken]
      simp only [List.cons_append, perform, broken, Bool.false_eq_true, if_false]

end Delivery

namespace Connection
variable {site : Site}

/-- What a round of the loop starts with: what is still to be read, and what the peer still takes. -/
structure Standing where
  source : Source
  sink : Sink

def round (site : Site) (c : Standing) : Record :=
  Delivery.perform site.peer c.sink (exchange site c.source).acts

/-- What the next round starts with, if there is one. -/
def next? (site : Site) (c : Standing) : Option Standing :=
  let e := exchange site c.source
  if c.sink.takes (outcome site e).sent then
    e.next.map fun t => ⟨t, c.sink.after (outcome site e).sent⟩
  else none

/-- The rounds of the loop, and what comes of them. -/
inductive Loop (site : Site) : Standing → List Standing → Record → Prop
  | last {c : Standing} (ends : next? site c = none) : Loop site c [c] (round site c)
  | more {c d : Standing} (goesOn : next? site c = some d) {rounds : List Standing}
      {record : Record} (rest : Loop site d rounds record) :
      Loop site c (c :: rounds) (round site c ++ record)

theorem next?_eq_some_iff {c d : Standing} :
    next? site c = some d ↔
      c.sink.takes (outcome site (exchange site c.source)).sent = true ∧
        (exchange site c.source).next = some d.source ∧
        d.sink = c.sink.after (outcome site (exchange site c.source)).sent := by
  obtain ⟨source, sink⟩ := d
  simp only [next?]
  split
  · rename_i ht
    simp only [ht, Option.map_eq_some_iff, Standing.mk.injEq, true_and]
    constructor
    · rintro ⟨t, hnext, rfl, rfl⟩
      exact ⟨hnext, rfl⟩
    · rintro ⟨hnext, hsink⟩
      exact ⟨source, hnext, rfl, hsink.symm⟩
  · rename_i ht
    simp [ht]

/-- A round with another one behind it has taken the first bytes of what was unread, at least one of
them. -/
theorem exists_skip_of_next? {c d : Standing} (h : next? site c = some d) :
    ∃ n, 0 < n ∧ n ≤ c.source.unread.length ∧ d.source = c.source.skip n :=
  exists_skip_of_next_exchange (next?_eq_some_iff.1 h).2.1

theorem length_next?_lt {c d : Standing} (h : next? site c = some d) :
    d.source.unread.length < c.source.unread.length :=
  length_next_exchange_lt (next?_eq_some_iff.1 h).2.1

theorem isCall_of_mem_refusal {stop : Http.Stop} {act : Act} (h : act ∈ refusal site stop) :
    act.isCall = false := by
  cases stop with
  | quiet => cases h
  | refuse page handling =>
    simp only [refusal, refuse] at h
    split at h
    · exact (isCall_of_mem_farewell h).1
    · obtain ⟨bytes, -, rfl⟩ := List.mem_map.1 h
      rfl
  | fail fault => exact (isCall_of_mem_farewell h).1

theorem length_calls_exchange_le (site : Site) (s : Source) :
    (outcome site (exchange site s)).calls.length ≤ min 1 s.unread.length := by
  cases hr : Http.Head.read s with
  | error stop =>
    have hcalls : (outcome site (exchange site s)).calls = [] := by
      refine Delivery.calls_perform_of_not_call fun act hact => ?_
      simp only [exchange, hr] at hact
      exact isCall_of_mem_refusal hact
    simp [hcalls]
  | ok found =>
    obtain ⟨head, t⟩ := found
    have hbyte : 0 < s.unread.length :=
      Nat.lt_of_le_of_lt (Nat.zero_le _) (Http.Head.length_unread_of_read hr)
    have hone : (outcome site (exchange site s)).calls.length ≤ 1 := by
      rw [calls_exchange hr]
      split
      · exact (verdict site head).length_calls_le
      · exact Nat.zero_le 1
    omega

theorem length_calls_round_le (site : Site) (c : Standing) :
    (round site c).calls.length ≤ min 1 c.source.unread.length :=
  Nat.le_trans (Delivery.isCut_perform site.peer c.sink _).calls.length_le
    (length_calls_exchange_le site c.source)

theorem exists_loop (site : Site) (c : Standing) : ∃ rounds record, Loop site c rounds record := by
  induction hlen : c.source.unread.length using Nat.strongRecOn generalizing c with
  | ind n ih =>
    cases hnext : next? site c with
    | none => exact ⟨_, _, .last hnext⟩
    | some d =>
      obtain ⟨rounds, record, hrest⟩ := ih _ (hlen ▸ length_next?_lt hnext) d rfl
      exact ⟨_, _, .more hnext hrest⟩

theorem Loop.perform_plan {c : Standing} {rounds : List Standing} {record : Record}
    (h : Loop site c rounds record) :
    Delivery.perform site.peer c.sink (plan site c.source) = record := by
  induction h with
  | @last c ends =>
    cases hnext : (exchange site c.source).next with
    | none =>
      rw [plan_of_next_none hnext]
      rfl
    | some t =>
      -- The request leaves the connection open, and so the peer has not taken all of the response.
      have hbroken : c.sink.takes (outcome site (exchange site c.source)).sent = false := by
        by_contra ht
        simp only [Bool.not_eq_false] at ht
        have hmore : next? site c =
            some ⟨t, c.sink.after (outcome site (exchange site c.source)).sent⟩ :=
          next?_eq_some_iff.2 ⟨ht, hnext, rfl⟩
        cases hmore.symm.trans ends
      rw [plan_of_next_some hnext, Delivery.perform_append_of_not_takes hbroken]
      rfl
  | @more c d goesOn rounds record rest ih =>
    obtain ⟨ht, hnext, hsink⟩ := next?_eq_some_iff.1 goesOn
    have hopen : (exchange site c.source).staysOpen = true := by
      rw [Exchange.staysOpen, hnext]
      rfl
    rw [plan_of_next_some hnext,
      Delivery.perform_append_of_takes (goesOnUninterrupted_exchange c.source hopen) ht, round,
      Delivery.perform_of_takes ht, ← ih, hsink]
    rfl

theorem Loop.length_le {c : Standing} {rounds : List Standing} {record : Record}
    (h : Loop site c rounds record) : rounds.length ≤ c.source.unread.length + 1 := by
  induction h with
  | last ends => exact Nat.le_add_left 1 _
  | more goesOn rest ih =>
    have hlt := length_next?_lt goesOn
    rw [List.length_cons]
    omega

theorem Loop.length_calls_le {c : Standing} {rounds : List Standing} {record : Record}
    (h : Loop site c rounds record) : record.calls.length ≤ c.source.unread.length := by
  induction h with
  | @last c ends => exact Nat.le_trans (length_calls_round_le site c) (Nat.min_le_right _ _)
  | @more c d goesOn rounds record rest ih =>
    have hlt := length_next?_lt goesOn
    have hround := length_calls_round_le site c
    have hcalls : (round site c ++ record).calls = (round site c).calls ++ record.calls := rfl
    rw [hcalls, List.length_append]
    omega

/-- Serving a connection ends. Every round that leaves the connection open has taken at least one of
the unread bytes, from the first one on. The loop has a last round, there are not more rounds before
that than bytes, and what comes of the connection is what comes of its rounds in order. Handlers are
called at most as often as there are bytes. -/
theorem loop_ends (site : Site) (source : Source) (sink : Sink) :
    (∀ c d, next? site c = some d →
      ∃ n, 0 < n ∧ n ≤ c.source.unread.length ∧ d.source = c.source.skip n) ∧
    (∃ rounds record, Loop site ⟨source, sink⟩ rounds record) ∧
    ∀ rounds record, Loop site ⟨source, sink⟩ rounds record →
      rounds.length ≤ source.unread.length + 1 ∧
        serve site source sink = Delivery.close sink record ∧
        (serve site source sink).calls.length ≤ source.unread.length := by
  refine ⟨fun c d => exists_skip_of_next?, exists_loop site _, ?_⟩
  intro rounds record hloop
  have hserve : serve site source sink = Delivery.close sink record := by
    rw [serve_eq, hloop.perform_plan]
  refine ⟨hloop.length_le, hserve, ?_⟩
  rw [hserve, (Delivery.close_eq sink record).2.1]
  exact hloop.length_calls_le

/-- A request whose body times out is told so and leaves the connection open. It has taken all that
there is, and the round behind it is the last one. -/
theorem loop_ends_timedOut :
    let source : Source := ⟨postBytes ++ [71], some Fault.timedOut⟩
    let left : Source := ⟨[], some Fault.timedOut⟩
    ∃ record, Loop Greeting.site ⟨source, Sink.unlimited⟩
        [⟨source, Sink.unlimited⟩, ⟨left, Sink.unlimited⟩] record ∧
      serve Greeting.site source Sink.unlimited = Delivery.close Sink.unlimited record := by
  intro source left
  have hread : Http.Head.read source = .ok (postHead, ⟨[71], some Fault.timedOut⟩) :=
    isWhole_postBytes.read_append [71] (some Fault.timedOut)
  have hthree : Http.ContentLength.ofHeaders postHead.headers = .ok 3 := rfl
  have hnext : next? Greeting.site ⟨source, Sink.unlimited⟩ = some ⟨left, Sink.unlimited⟩ := by
    refine next?_eq_some_iff.2 ⟨rfl, ?_, rfl⟩
    rw [next_exchange_of_read _ hread, answer_of_timeout _ rfl hthree (by decide) rfl]
    rfl
  have hlast : next? Greeting.site ⟨left, Sink.unlimited⟩ = none := rfl
  have hloop := Loop.more hnext (.last hlast)
  exact ⟨_, hloop, ((loop_ends Greeting.site source Sink.unlimited).2.2 _ _ hloop).2.1⟩

end Connection
end GreetingServer
