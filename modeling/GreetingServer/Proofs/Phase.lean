import Mathlib.Data.List.Induction
import GreetingServer.Network
import GreetingServer.Proofs.ErrorLog

/-! The phases of a server: listening, serving and closed. A phase says what may come of each step
and which phase is next, and so what may come of a whole life. News of a start is followed by news of
its end before the next start. -/
namespace GreetingServer

namespace Log.Entry

def tells (entry : Log.Entry) (t : Text) : Bool :=
  match entry.event with
  | .text event => event = t
  | _ => false

/-- The entry tells that a server has been started or has come to an end. -/
def isNews (entry : Log.Entry) : Bool :=
  entry.tells "HTTP server started".toList || entry.tells "HTTP server stopped".toList

theorem IsConnectionError.not_isNews {entry : Log.Entry} (h : entry.IsConnectionError) :
    entry.isNews = false := by
  obtain ⟨start, hstart, rest, he⟩ := h.event
  -- Already the first letter differs.
  have hfirst : (CodePoint.ofText start ++ rest).head? ≠ some (.char 'H') := by
    intro hh
    simp only [connectionEvents, List.mem_cons, List.not_mem_nil, or_false] at hstart
    rcases hstart with rfl | rfl | rfl <;> exact absurd (Option.some.inj hh) (by decide)
  have htells : ∀ t : Text, t.head? = some 'H' → entry.tells t = false := by
    intro t ht
    unfold tells
    split
    · rename_i event hevent
      refine decide_eq_false fun hsame => hfirst ?_
      have hpoints : CodePoint.ofText start ++ rest = CodePoint.ofText event := by
        rw [← Value.displayPoints_ofPoints (CodePoint.ofText start ++ rest), ← he, hevent]
        rfl
      rw [hpoints, hsame, CodePoint.ofText, List.head?_map, ht]
      rfl
    · rfl
  rw [isNews, htells _ rfl, htells _ rfl]
  rfl

end Log.Entry

namespace Network
variable {routes : RouteTable Handler} {now : Instant} {made : Server}

inductive Phase
  | listening
  | serving
  | closed
  deriving Repr, DecidableEq

namespace Phase

def next : Phase → Step → Phase
  | listening, .start => serving
  | serving, .breakDown _ => listening
  | _, .stop => closed
  | phase, _ => phase

def after (phase : Phase) (trace : List (Step × Outcome)) : Phase :=
  trace.foldl (fun phase entry => phase.next entry.1) phase

def server (made : Server) : Phase → Server
  | listening => { made with isRunning := false, isStarted := false, isOpen := true }
  | serving => { made with isRunning := true, isStarted := true, isOpen := true }
  | closed => { made with isRunning := false, isStarted := false, isOpen := false }

/-- What is known of the last start after a step in a phase. It is told once. -/
def heard : Phase → Step → Option Running → Option Running
  | listening, .start, _ => some .goesOn
  | closed, .start, _ => some (.ended Server.alreadyClosed)
  | serving, .breakDown _, _ => none
  | _, .stop, _ => none
  | _, _, known => known

/-- What may come of a step with a server in a phase, where something is known of the last start. A
connection is served as if it were alone. -/
def Answers (routes : RouteTable Handler) (now : Instant) (made : Server) :
    Phase → Option Running → Step → Outcome → Prop
  | listening, _, .start, o => o = { result := .serving, logs := [made.startedEntry] }
  | serving, _, .start, o =>
    o = { result := .failed (Fault.of .runtime "Server is already running.".toList) }
  | closed, _, .start, o =>
    o = { result := .failed (Fault.of .invalidValue "Invalid file descriptor: -1".toList)
          logs := [made.startedEntry, made.stoppedEntry] }
  | serving, _, .stop, o => o = { result := .ended none, logs := [made.stoppedEntry] }
  | _, known, .stop, o => o = { result := endOf known }
  | serving, _, .breakDown fault, o =>
    o = { result := .ended (some fault), logs := [made.stoppedEntry] }
  | serving, _, .connect peer source sink, o =>
    let record := Connection.serve ⟨routes, peer, now⟩ source sink
    o = { result := .sent record.sent, calls := record.calls, pauses := record.pauses
          logs := record.logs }
  | serving, _, .refuse, o => o = { result := .refused }
  | phase, _, .isStarted, o => o = { result := .started (phase = serving) }
  | _, _, .info, o => o = { result := .info made.endpoint made.address }
  | _, _, .make _ _, _ => False
  | _, _, _, o => o = { result := .notServing }

def heardAfter : Phase → Option Running → List (Step × Outcome) → Option Running
  | _, known, [] => known
  | phase, known, (st, _) :: trace => (phase.next st).heardAfter (phase.heard st known) trace

def Accepts (routes : RouteTable Handler) (now : Instant) (made : Server) :
    Phase → Option Running → List (Step × Outcome) → Prop
  | _, _, [] => True
  | phase, known, (st, o) :: trace =>
    phase.Answers routes now made known st o ∧
      Accepts routes now made (phase.next st) (phase.heard st known) trace

theorem heardAfter_concat {phase : Phase} {known : Option Running}
    {trace : List (Step × Outcome)} {st : Step} {o : Outcome} :
    phase.heardAfter known (trace ++ [(st, o)]) =
      (phase.after trace).heard st (phase.heardAfter known trace) := by
  induction trace generalizing phase known with
  | nil => rfl
  | cons entry trace ih => exact ih

theorem accepts_concat {phase : Phase} {known : Option Running} {trace : List (Step × Outcome)}
    {st : Step} {o : Outcome} :
    phase.Accepts routes now made known (trace ++ [(st, o)]) ↔
      phase.Accepts routes now made known trace ∧
        (phase.after trace).Answers routes now made (phase.heardAfter known trace) st o := by
  induction trace generalizing phase known with
  | nil => simp [Accepts, after, heardAfter]
  | cons entry trace ih =>
    obtain ⟨first, told⟩ := entry
    rw [List.cons_append, Accepts, Accepts, ih, and_assoc]
    rfl

theorem after_append (phase : Phase) (trace more : List (Step × Outcome)) :
    phase.after (trace ++ more) = (phase.after trace).after more :=
  List.foldl_append

theorem heardAfter_of_serving {trace : List (Step × Outcome)} (known : Option Running)
    (h : listening.after trace = serving) :
    listening.heardAfter known trace = some .goesOn := by
  induction trace using List.reverseRecOn with
  | nil => cases h
  | append_singleton trace entry ih =>
    obtain ⟨st, o⟩ := entry
    rw [after_append] at h
    rw [heardAfter_concat]
    change (listening.after trace).next st = serving at h
    cases hp : listening.after trace with
    | listening =>
      rw [hp] at h
      cases st <;> first | rfl | cases h
    | serving =>
      rw [hp] at h
      rw [ih hp]
      cases st <;> first | rfl | cases h
    | closed =>
      rw [hp] at h
      cases st <;> cases h

theorem after_closed (trace : List (Step × Outcome)) : closed.after trace = closed := by
  induction trace with
  | nil => rfl
  | cons entry trace ih =>
    obtain ⟨st, o⟩ := entry
    have hnext : closed.next st = closed := by cases st <;> rfl
    rw [after, List.foldl_cons, hnext]
    exact ih

def pending (made : Server) (phase : Phase) : List Log.Entry :=
  if phase = serving then [made.startedEntry] else []

/-- News of starts, each followed by news of its end. -/
def rounds (made : Server) (n : Nat) : List Log.Entry :=
  (List.replicate n [made.startedEntry, made.stoppedEntry]).flatten

theorem rounds_add (made : Server) (m n : Nat) :
    rounds made (m + n) = rounds made m ++ rounds made n := by
  rw [rounds, ← List.replicate_append_replicate, List.flatten_append]
  rfl

/-- A step tells of a start, of an end or of both, as the phase demands. -/
theorem exists_rounds_of_answers {phase : Phase} {known : Option Running} {st : Step} {o : Outcome}
    (h : phase.Answers routes now made known st o) :
    ∃ n, phase.pending made ++ o.logs.filter Log.Entry.isNews =
      rounds made n ++ (phase.next st).pending made := by
  have hstarted : made.startedEntry.isNews = true := rfl
  have hstopped : made.stoppedEntry.isNews = true := rfl
  cases st with
  | make config answer => cases phase <;> exact h.elim
  | info => exact ⟨0, by cases phase <;> rw [h] <;> rfl⟩
  | isStarted => exact ⟨0, by cases phase <;> rw [h] <;> rfl⟩
  | start =>
    cases phase with
    | listening => exact ⟨0, by rw [h]; rfl⟩
    | serving => exact ⟨0, by rw [h]; rfl⟩
    | closed => exact ⟨1, by rw [h]; rfl⟩
  | stop =>
    cases phase with
    | listening => exact ⟨0, by rw [h]; rfl⟩
    | serving => exact ⟨1, by rw [h]; rfl⟩
    | closed => exact ⟨0, by rw [h]; rfl⟩
  | connect peer source sink =>
    cases phase with
    | listening => exact ⟨0, by rw [h]; rfl⟩
    | serving =>
      have hnone : (Connection.serve ⟨routes, peer, now⟩ source sink).logs.filter
          Log.Entry.isNews = [] := by
        refine List.filter_eq_nil_iff.2 fun entry he => ?_
        rw [(Connection.isConnectionError_of_mem_serve he).not_isNews]
        exact Bool.false_ne_true
      refine ⟨0, ?_⟩
      rw [h, hnone]
      rfl
    | closed => exact ⟨0, by rw [h]; rfl⟩
  | refuse => exact ⟨0, by cases phase <;> rw [h] <;> rfl⟩
  | breakDown fault =>
    cases phase with
    | listening => exact ⟨0, by rw [h]; rfl⟩
    | serving => exact ⟨1, by rw [h]; rfl⟩
    | closed => exact ⟨0, by rw [h]; rfl⟩

/-- Steps tell of starts and of their ends, from the start that goes on before them to the one that
goes on after them. -/
theorem exists_rounds_of_accepts {phase : Phase} {known : Option Running}
    {trace : List (Step × Outcome)} (h : phase.Accepts routes now made known trace) :
    ∃ n, phase.pending made ++
        (trace.flatMap fun entry => entry.2.logs).filter Log.Entry.isNews =
      rounds made n ++ (phase.after trace).pending made := by
  induction trace generalizing phase known with
  | nil => exact ⟨0, by simp [rounds, after]⟩
  | cons entry trace ih =>
    obtain ⟨hfirst, hrest⟩ := h
    obtain ⟨m, hm⟩ := exists_rounds_of_answers hfirst
    obtain ⟨n, hn⟩ := ih hrest
    refine ⟨m + n, ?_⟩
    rw [List.flatMap_cons, List.filter_append, ← List.append_assoc, hm, List.append_assoc, hn,
      ← List.append_assoc, rounds_add]
    rfl

end Phase

/-- The life of a server: the server as it was made, what was known then of the last start under its
name, and all that has been done with it since, with what has come of that. -/
structure Life where
  made : Server
  inherited : Option Running := none
  trace : List (Step × Outcome) := []

namespace Life

def begin (endpoint : Endpoint) (inherited : Option Running) : Life :=
  { made := { endpoint }, inherited }

def phase (life : Life) : Phase := Phase.listening.after life.trace

/-- What is known by now of the last start under the name of the server. -/
def lastStart (life : Life) : Option Running := Phase.listening.heardAfter life.inherited life.trace

def IsAccepted (routes : RouteTable Handler) (now : Instant) (life : Life) : Prop :=
  Phase.listening.Accepts routes now life.made life.inherited life.trace

def server (life : Life) : Server := life.phase.server life.made

def isOpen (life : Life) : Bool := life.phase ≠ .closed

def add (life : Life) (st : Step) (o : Outcome) : Life :=
  { life with trace := life.trace ++ [(st, o)] }

def news (life : Life) : List Log.Entry :=
  (life.trace.flatMap fun entry => entry.2.logs).filter Log.Entry.isNews

theorem phase_add (life : Life) (st : Step) (o : Outcome) :
    (life.add st o).phase = life.phase.next st := by
  rw [phase, add, Phase.after_append]
  rfl

theorem lastStart_add (life : Life) (st : Step) (o : Outcome) :
    (life.add st o).lastStart = life.phase.heard st life.lastStart :=
  Phase.heardAfter_concat

/-- News of each start is followed by news of its end, but for the start that goes on. -/
theorem exists_news (life : Life)
    (h : life.IsAccepted routes now) :
    ∃ n, life.news = Phase.rounds life.made n ++ life.phase.pending life.made :=
  Phase.exists_rounds_of_accepts h

end Life

end Network
end GreetingServer
