import GreetingServer.Delivery
import GreetingServer.Greeting
import GreetingServer.Proofs.Exchange
import GreetingServer.Proofs.WholeHead

/-! Connections on which one request follows another. What comes of such a connection is what comes
of its first request, followed by what comes of a connection that holds only the rest. Neither the
body of the request nor the rest has a part in how the request itself is answered. -/
namespace GreetingServer

namespace Record

def append (a b : Record) : Record where
  sent := a.sent ++ b.sent
  calls := a.calls ++ b.calls
  pauses := a.pauses ++ b.pauses
  logs := a.logs ++ b.logs
  interruption := a.interruption <|> b.interruption

instance : Append Record := ⟨append⟩

theorem append_eq (a b : Record) : a ++ b = a.append b := rfl

@[simp] theorem append_empty (a : Record) : a ++ ({} : Record) = a := by
  simp [append_eq, append]

@[simp] theorem empty_append (a : Record) : ({} : Record) ++ a = a := by
  simp [append_eq, append]

theorem append_assoc (a b c : Record) : a ++ b ++ c = a ++ (b ++ c) := by
  cases h : a.interruption <;> simp [append_eq, append, h]

theorem addSent_append (a b : Record) (bytes : Bytes) :
    (a ++ b).addSent bytes = a.addSent bytes ++ b := by
  simp [append_eq, append, addSent]

theorem addCall_append (a b : Record) (call : Call) :
    (a ++ b).addCall call = a.addCall call ++ b := by
  simp [append_eq, append, addCall]

theorem addPause_append (a b : Record) (duration : Nat) :
    (a ++ b).addPause duration = a.addPause duration ++ b := by
  simp [append_eq, append, addPause]

theorem addLog_append (a b : Record) (entry : Log.Entry) :
    (a ++ b).addLog entry = a.addLog entry ++ b := by
  simp [append_eq, append, addLog]

end Record

namespace Delivery

theorem perform_append (peer : Peer) {acts : List Act}
    (h : ∀ act ∈ acts, act.isInterrupt = false) (rest : List Act) :
    perform peer Sink.unlimited (acts ++ rest) =
      perform peer Sink.unlimited acts ++ perform peer Sink.unlimited rest := by
  induction acts with
  | nil => exact (Record.empty_append _).symm
  | cons act acts ih =>
    have hrest := ih fun a ha => h a (List.mem_cons_of_mem act ha)
    rw [List.cons_append]
    cases act with
    | write bytes handling =>
      simp only [perform, Sink.takes_unlimited, Sink.after_unlimited, if_true, hrest,
        Record.addSent_append]
    | call call => simp only [perform, hrest, Record.addCall_append]
    | pause duration => simp only [perform, hrest, Record.addPause_append]
    | log entry => simp only [perform, hrest, Record.addLog_append]
    -- Nothing would follow an interruption, and there is none.
    | interrupt fault => exact absurd (h _ List.mem_cons_self) (by simp [Act.isInterrupt])

end Delivery

namespace Greeting

/-- The greeting for a peer on the same host, at the start of 1970. -/
def site : Site where
  routes := routes
  peer := Peer.ofHost "127.0.0.1".toList 50000
  now := ⟨0⟩

end Greeting

namespace Connection
variable {site : Site} {head : Http.Head}

/-- What comes of an exchange with a peer that takes everything. -/
def outcome (site : Site) (e : Exchange) : Record :=
  Delivery.perform site.peer Sink.unlimited e.acts

theorem serve_of_next_none {s : Source} (h : (exchange site s).next = none) :
    serve site s Sink.unlimited = outcome site (exchange site s) := by
  rw [serve_eq, plan_of_next_none h]
  rfl

theorem serve_of_next_some {s t : Source} (h : (exchange site s).next = some t) :
    serve site s Sink.unlimited =
      outcome site (exchange site s) ++ serve site t Sink.unlimited := by
  have hopen : (exchange site s).staysOpen = true := by
    rw [Exchange.staysOpen, h]
    rfl
  rw [serve_eq, serve_eq, plan_of_next_some h]
  exact Delivery.perform_append site.peer (goesOnUninterrupted_exchange s hopen) _

/-- Whether a first request ends the connection is up to the request and its response. -/
theorem serve_of_nextSource {closing : Bool} {s t : Source}
    (h : (exchange site s).next = nextSource closing t) :
    serve site s Sink.unlimited =
      outcome site (exchange site s) ++
        if closing then {} else serve site t Sink.unlimited := by
  cases closing with
  | true =>
    rw [serve_of_next_none h]
    exact (Record.append_empty _).symm
  | false => exact serve_of_next_some h

/-- What comes of a connection is what comes of its first exchange and, if that leaves it open, what
comes of the rest. -/
theorem serve_of_exchange {s t : Source} {e : Exchange} (h : exchange site s = e.onward t) :
    serve site s Sink.unlimited =
      outcome site e ++ if e.staysOpen then serve site t Sink.unlimited else {} := by
  have hnext := e.next_onward t
  rw [← h] at hnext
  have hacts : outcome site (exchange site s) = outcome site e := by
    rw [h]
    rfl
  by_cases hopen : e.staysOpen = true
  · rw [if_pos hopen] at hnext ⊢
    rw [serve_of_next_some hnext, hacts]
  · rw [if_neg hopen] at hnext ⊢
    rw [serve_of_next_none hnext, hacts, Record.append_empty]

theorem serve_empty (site : Site) : serve site ⟨[], none⟩ Sink.unlimited = {} := by
  have hr : exchange site ⟨[], none⟩ = ⟨[], none⟩ := rfl
  rw [serve_of_next_none (by rw [hr]), hr]
  rfl

/-- The first exchange of a connection that starts with a whole head and the body that it announces
is the one of the head alone, and the next request is read right behind the body. -/
theorem exchange_of_whole (site : Site) {bytes : Bytes} {n : Nat}
    (hw : Http.Head.IsWhole bytes head)
    (hn : Http.ContentLength.Announces head.headers n) {body : Bytes} (hb : body.length = n)
    (tail : Bytes) (failure : Option Fault) :
    exchange site ⟨bytes ++ body ++ tail, failure⟩ =
      (alone site head n).onward ⟨tail, failure⟩ := by
  subst hb
  rw [List.append_assoc]
  exact exchange_of_append site (hw.read_append (body ++ tail) failure)
    (Http.ContentLength.ofHeaders_of_announces hn)

/-- Keep-alive connections compose. A request whose head is whole and whose body is as long as the
head announces is answered by what its head and the site say. What follows the body is served like a
connection of its own if the request leaves the connection open, and is not looked at if it does
not. -/
theorem serve_append {bytes : Bytes} {n : Nat} (hw : Http.Head.IsWhole bytes head)
    (hn : Http.ContentLength.Announces head.headers n) {body : Bytes} (hb : body.length = n)
    (tail : Bytes) (failure : Option Fault) :
    serve site ⟨bytes ++ body ++ tail, failure⟩ Sink.unlimited =
        serve site ⟨bytes ++ body, none⟩ Sink.unlimited ++
          (if (alone site head n).staysOpen then serve site ⟨tail, failure⟩ Sink.unlimited
            else {}) ∧
      serve site ⟨bytes ++ body, none⟩ Sink.unlimited = outcome site (alone site head n) ∧
      (exchange site ⟨bytes ++ body ++ tail, failure⟩).next =
        if (alone site head n).staysOpen then some ⟨tail, failure⟩ else none := by
  have hall := exchange_of_whole site hw hn hb tail failure
  have hown := exchange_of_whole site hw hn hb [] none
  rw [List.append_nil] at hown
  have hfirst : serve site ⟨bytes ++ body, none⟩ Sink.unlimited =
      outcome site (alone site head n) := by
    rw [serve_of_exchange hown, serve_empty, ite_self, Record.append_empty]
  refine ⟨?_, hfirst, ?_⟩
  · rw [hfirst, serve_of_exchange hall]
  · rw [hall, Exchange.next_onward]

/-- The head of a request with a body of three bytes. -/
def postHead : Http.Head where
  line := ⟨"POST".toList, "/".toList, Http.protocol, true⟩
  headers := [(Http.ContentLength.fieldName, "3".toList)]

def postBytes : Bytes := "POST / HTTP/1.1\r\nContent-Length: 3\r\n\r\n".toList.map Text.toByte

set_option maxRecDepth 4000 in
theorem isWhole_postBytes : Http.Head.IsWhole postBytes postHead where
  read_eq := by rfl
  endsInBlank := ⟨postBytes.take 35, [13, 10], by decide, by decide⟩

theorem isNumeral_three : Text.IsNumeral (Text.strip "3".toList) 3 :=
  ⟨by decide, List.all_eq_true.1 (by decide), by decide⟩

/-- A body may look like a request, and what follows it is still served as if it came first. -/
theorem serve_append_greeting :
    let rest := postBytes ++ "GET".toList.map Text.toByte
    serve Greeting.site ⟨postBytes ++ [71, 69, 84] ++ rest, none⟩ Sink.unlimited =
      serve Greeting.site ⟨postBytes ++ [71, 69, 84], none⟩ Sink.unlimited ++
        serve Greeting.site ⟨rest, none⟩ Sink.unlimited := by
  have hthree : Http.ContentLength.Announces postHead.headers 3 :=
    .told rfl isNumeral_three (by decide)
  exact (serve_append isWhole_postBytes hthree (by decide) _ none).1

end Connection
end GreetingServer
