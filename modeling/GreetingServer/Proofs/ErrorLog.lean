import GreetingServer.Delivery
import GreetingServer.Proofs.Exchange

/-! What connections log. Each entry about a connection is an error and says one of three things:
that nobody expected the fault which ends the connection, that a request failed, or that no route is
for it. This is so whatever the peer sends and takes, and whatever the handlers do. -/
namespace GreetingServer

namespace Log.Entry

def connectionEvents : List Text :=
  ["unexpected error while serving connection".toList, "Internal Server Error: ".toList,
    "No handler found".toList]

def connectionFields : List Text := ["client_address".toList, "verb".toList, "path".toList]

structure IsConnectionError (entry : Log.Entry) : Prop where
  level : entry.level = .error
  event : ∃ start ∈ connectionEvents, ∃ rest,
    entry.event = .ofPoints (CodePoint.ofText start ++ rest)
  part : entry.part ≠ .main
  fields : ∀ field ∈ entry.fields,
    field.1 ∈ connectionFields ∧ field.2.checkNumerals = .ok ()

end Log.Entry

namespace Connection
variable {site : Site} {head : Http.Head} {closing : Bool} {handling : Option Fault}

def LogErrors (acts : List Act) : Prop :=
  ∀ entry, Act.log entry ∈ acts → entry.IsConnectionError

theorem LogErrors.append {acts more : List Act} (h : LogErrors acts) (hm : LogErrors more) :
    LogErrors (acts ++ more) :=
  fun entry he => (List.mem_append.1 he).elim (h entry) (hm entry)

theorem logErrors_of_not_log {acts : List Act} (h : ∀ entry, Act.log entry ∉ acts) :
    LogErrors acts :=
  fun entry he => absurd he (h entry)

theorem LogErrors.cons {act : Act} {acts : List Act}
    (ha : ∀ entry, act = .log entry → entry.IsConnectionError) (h : LogErrors acts) :
    LogErrors (act :: acts) := by
  intro entry he
  rcases List.mem_cons.1 he with he | he
  · exact ha entry he.symm
  · exact h entry he

theorem isConnectionError_unexpected {peer : Peer} {fault : Fault} {entry : Log.Entry}
    (h : unexpected peer fault = .log entry) : entry.IsConnectionError := by
  obtain rfl := Act.log.inj h
  refine ⟨rfl, ⟨_, List.mem_cons_self, [], by simp⟩, by simp, fun field hfield => ?_⟩
  obtain rfl := List.mem_singleton.1 hfield
  exact ⟨List.mem_cons_self, peer.short⟩

theorem logErrors_farewell (peer : Peer) (fault : Fault) : LogErrors (farewell peer fault) := by
  unfold farewell
  split
  · exact logErrors_of_not_log (by simp)
  · split
    · exact logErrors_of_not_log (by simp)
    · exact .cons (fun _ => isConnectionError_unexpected) (logErrors_of_not_log (by simp))

theorem logErrors_writeBody (body : Bytes) : LogErrors (writeBody head body handling) := by
  unfold writeBody
  split <;> exact logErrors_of_not_log (by simp)

theorem logErrors_respond (response : Http.Response) (s : Source) :
    LogErrors (respond site head closing handling response s).acts := by
  simp only [respond]
  split
  · exact logErrors_writeBody _
  · exact .cons (fun entry he => by cases he) (logErrors_writeBody _)
  · exact logErrors_farewell _ _

theorem logErrors_respondWith (fault : Fault) (status : Int) (message : List CodePoint)
    (s : Source) : LogErrors (respondWith site head closing fault status message s).acts := by
  unfold respondWith
  split
  · exact logErrors_farewell _ _
  · exact logErrors_respond _ s

theorem logErrors_rejectBadRequest (fault : Fault) (s : Source) :
    LogErrors (rejectBadRequest site head fault s).acts := by
  unfold rejectBadRequest
  split
  · exact logErrors_farewell _ _
  · exact logErrors_respondWith _ _ _ s

theorem logErrors_fail (fault : Fault) (s : Source) :
    LogErrors (fail site head closing fault s).acts := by
  unfold fail
  split
  · exact logErrors_of_not_log (by simp)
  · split
    · exact logErrors_farewell _ _
    · rename_i message hmessage
      refine .cons (fun entry he => ?_) (logErrors_respondWith _ _ _ s)
      obtain rfl := Act.log.inj he
      obtain ⟨text, -, rfl⟩ := exists_of_messageOf hmessage
      exact ⟨rfl, ⟨_, List.mem_cons_of_mem _ List.mem_cons_self, text, rfl⟩, by simp, by simp⟩

theorem logErrors_notFound (s : Source) : LogErrors (notFound site head closing s).acts := by
  refine .cons (fun entry he => ?_) (logErrors_respond _ s)
  obtain rfl := Act.log.inj he
  refine ⟨rfl, ⟨_, List.mem_cons_of_mem _ (List.mem_cons_of_mem _ List.mem_cons_self), [],
    by simp⟩, by simp, fun field hfield => ?_⟩
  simp only [List.mem_cons, List.not_mem_nil, or_false] at hfield
  rcases hfield with rfl | rfl
  · exact ⟨List.mem_cons_of_mem _ List.mem_cons_self, rfl⟩
  · exact ⟨List.mem_cons_of_mem _ (List.mem_cons_of_mem _ List.mem_cons_self), rfl⟩

theorem logErrors_handle (handler : Handler) (request : Http.Request) (s : Source) :
    LogErrors (handle site head closing handler request s).acts := by
  simp only [handle]
  refine .append (logErrors_of_not_log (by simp)) ?_
  split
  · exact logErrors_respond _ s
  · exact logErrors_fail _ s

theorem logErrors_dispatch (s : Source) : LogErrors (dispatch site head closing s).acts := by
  unfold dispatch
  split
  · exact logErrors_fail _ s
  · split
    · exact logErrors_notFound s
    · exact logErrors_handle _ _ s

theorem logErrors_answer (s : Source) : LogErrors (answer site head s).acts := by
  unfold answer
  split
  · unfold answerAfterBody
    split
    · exact logErrors_dispatch _
    · split
      · exact logErrors_of_not_log (by simp)
      · split
        · exact logErrors_rejectBadRequest _ _
        · exact logErrors_fail _ _
  · split
    · exact logErrors_rejectBadRequest _ s
    · exact logErrors_fail _ s

theorem logErrors_refusal (stop : Http.Stop) : LogErrors (refusal site stop) := by
  cases stop with
  | quiet => exact logErrors_of_not_log (by simp [refusal])
  | refuse page handling =>
    simp only [refusal, refuse]
    split
    · exact logErrors_farewell _ _
    · exact logErrors_of_not_log (by simp)
  | fail fault => exact logErrors_farewell _ _

theorem logErrors_exchange (s : Source) : LogErrors (exchange site s).acts := by
  unfold exchange
  split
  · exact logErrors_refusal _
  · refine .append ?_ (logErrors_answer _)
    unfold interim
    split <;> exact logErrors_of_not_log (by simp)

theorem logErrors_plan (site : Site) (s : Source) : LogErrors (plan site s) := by
  induction s using exchange_induction site with
  | last s hnext =>
    rw [plan_of_next_none hnext]
    exact logErrors_exchange s
  | more s t hnext ih =>
    rw [plan_of_next_some hnext]
    exact (logErrors_exchange s).append ih

end Connection

namespace Delivery
open Connection (LogErrors)

theorem isConnectionError_of_mem_broken {peer : Peer} {sink : Sink} {handling : Option Fault}
    {entry : Log.Entry} (h : entry ∈ (broken peer sink handling).logs) :
    entry.IsConnectionError := by
  simp only [broken] at h
  split at h
  · cases h
  · split at h
    · cases h
    · split at h
      · rename_i hentry
        rw [List.mem_singleton.1 h]
        exact Connection.isConnectionError_unexpected hentry
      · cases h

theorem isConnectionError_of_mem_perform {peer : Peer} {sink : Sink} {acts : List Act}
    (ha : LogErrors acts) {entry : Log.Entry} (h : entry ∈ (perform peer sink acts).logs) :
    entry.IsConnectionError := by
  induction acts generalizing sink with
  | nil => cases h
  | cons act acts ih =>
    have hrest : LogErrors acts := fun e he => ha e (List.mem_cons_of_mem act he)
    cases act with
    | write bytes handling =>
      rw [perform] at h
      split at h
      · exact ih hrest h
      · exact isConnectionError_of_mem_broken h
    | call call => exact ih hrest h
    | pause duration => exact ih hrest h
    | log first =>
      rcases List.mem_cons.1 h with rfl | h
      · exact ha _ List.mem_cons_self
      · exact ih hrest h
    | interrupt fault => cases h

end Delivery

theorem Connection.isConnectionError_of_mem_serve {site : Site} {source : Source} {sink : Sink}
    {entry : Log.Entry} (h : entry ∈ (serve site source sink).logs) : entry.IsConnectionError := by
  have hlogs : (serve site source sink).logs =
      (Delivery.perform site.peer sink (plan site source)).logs := by
    rw [serve_eq, Delivery.close]
    split
    · rfl
    · split <;> rfl
  rw [hlogs] at h
  exact Delivery.isConnectionError_of_mem_perform (logErrors_plan site source) h

end GreetingServer
