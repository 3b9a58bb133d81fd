import GreetingServer.Proofs.Binding
import GreetingServer.Proofs.Serving
import GreetingServer.Proofs.StandardLog

/-! Whole runs of the program. A run that can listen tells that it starts, serves each connection as
if there were no other, tells that it stops, and frees its address; how it ends depends on the end of
waiting alone. A run that cannot listen says why and gives up. -/
namespace GreetingServer
namespace Program
variable {lib : Log.Library} {now : Instant} {time module : Text} {e : Endpoint}

/-- Neither the peer of an event nor the end of its connection interrupts. -/
def Event.IsCalm : Event → Prop
  | .connection _ source sink => source.IsCalm ∧ sink.IsCalm
  | .refused => True

/-- The fields of a line that the program prints about itself. -/
def ownFields (origin : Text) (address : Option Text) (level : Log.Level) (event : String)
    (report : Option (List CodePoint)) (time : Text) : Log.Fields :=
  (Log.moduleField, .text origin) :: (address.toList.map fun a => (Log.addressField, .text a)) ++
    [(Log.eventField, .text event.toList), (Log.levelField, .text level.name)] ++
    (report.toList.map fun r => (Log.reportField, .ofPoints r)) ++ [(Log.timeField, .text time)]

def ownAddress : Text := "0.0.0.0:5000".toList

/-- A run that can listen. -/
structure IsServed (lib : Log.Library) (module : Text) (now : Instant) (time : Text) (e : Endpoint)
    (events : List Event) (ending : Fault) (run : Run) : Prop where
  outcome : run.outcome = if ending.isInterrupt then .returned else .failed ending
  sent : run.sent = events.flatMap fun event => (event.alone now).map (·.sent)
  pauses : run.pauses = events.flatMap fun event => (event.alone now).flatMap (·.pauses)
  lines : ∃ starting started served stopped last,
    run.lines = starting :: started :: served ++ stopped :: last ∧
    Log.Tells starting (ownFields module (some ownAddress) .info "starting hello server" none time) ∧
    Log.Tells started
      (ownFields Log.Part.server.module (some e.text) .info "HTTP server started" none time) ∧
    List.Forall₂ (Prints lib now module)
      (events.flatMap fun event => (event.alone now).flatMap (·.logs)) served ∧
    Log.Tells stopped
      (ownFields Log.Part.server.module (some e.text) .info "HTTP server stopped" none time) ∧
    if ending.isInterrupt then
      ∃ line, last = [line] ∧
        Log.Tells line (ownFields module none .info "hello server interrupted" none time)
    else last = []
  freed : run.bound = []
  /-- No connection ends the run by itself. -/
  undisturbed : ∀ event ∈ events, event.IsCalm →
    ∀ record ∈ event.alone now, record.interruption = none

/-- A run that cannot listen because of a fault of the operating system. -/
structure IsGivenUp (module : Text) (time : Text) (fault : Fault) (why : List CodePoint)
    (run : Run) : Prop where
  outcome : run.outcome = .exited 1
  sent : run.sent = []
  pauses : run.pauses = []
  lines : ∃ starting notStarted trace,
    run.lines = [starting, notStarted] ∧
    Log.Tells starting (ownFields module (some ownAddress) .info "starting hello server" none time) ∧
    Log.Tells notStarted
      (ownFields module (some ownAddress) .error "failed to start hello server"
        (some ((Fault.notListening ownAddress why fault).report trace)) time)
  freed : run.bound = []

/-! The lines that the program prints about itself. -/

theorem isPlain_ownFields (origin : Text) (address : Option Text) (level : Log.Level) (event : String)
    (report : Option (List CodePoint)) (time : Text) :
    Log.IsPlain (ownFields origin address level event report time) := by
  have hkeys : Ordered.keys (ownFields origin address level event report time) =
      Log.moduleField :: (if address.isSome then [Log.addressField] else []) ++
        [Log.eventField, Log.levelField] ++ (if report.isSome then [Log.reportField] else []) ++
        [Log.timeField] := by
    cases address <;> cases report <;> rfl
  refine Log.isPlain_iff.2 ⟨?_, fun entry he => ?_⟩
  · rw [hkeys]
    cases address.isSome <;> cases report.isSome <;> decide
  · have hvalue : entry.2.IsString := by
      simp only [ownFields, List.cons_append, List.mem_cons, List.mem_append, List.mem_map,
        List.not_mem_nil, or_false] at he
      rcases he with rfl | (((⟨a, -, rfl⟩ | rfl | rfl) | ⟨r, -, rfl⟩) | rfl)
      · exact .text _
      · exact .text _
      · exact .text _
      · exact .text _
      · exact Value.isString_ofPoints r
      · exact .text _
    exact hvalue.isPlain

theorem tells_of_prints (hlib : lib.IsDocumented) {entry : Log.Entry} (he : IsSayable entry)
    (ht : now.timestamp = .ok time) {line : Text} (h : Prints lib now module entry line)
    {origin : Text} {address : Option Text} {level : Log.Level} {event : String}
    (report : Fault.Trace → Option (List CodePoint))
    (hf : ∀ trace, (draftOf module entry).completed [] entry.fault trace time =
      ownFields origin address level event (report trace) time) :
    ∃ trace, Log.Tells line (ownFields origin address level event (report trace) time) := by
  obtain ⟨trace, hrun⟩ := run_draftOf hlib he now module
  rw [ht] at hrun
  obtain rfl : Json.write (.ofFields ((draftOf module entry).completed [] entry.fault trace time)) =
      line := Except.ok.inj (hrun.symm.trans h)
  refine ⟨trace, ?_⟩
  rw [hf]
  exact Log.tells_write (isPlain_ownFields ..)

theorem isSayable_own {entry : Log.Entry} {event : Text} (address : Option Text)
    (hevent : entry.event = .text event)
    (hf : entry.fields = address.toList.map fun a => (Log.addressField, .text a)) :
    IsSayable entry := by
  have hfields : ∀ field ∈ entry.fields, ∃ a, field = (Log.addressField, .text a) := by
    rw [hf]
    intro field hfield
    obtain ⟨a, -, rfl⟩ := List.mem_map.1 hfield
    exact ⟨a, rfl⟩
  refine ⟨⟨CodePoint.ofText event, by rw [hevent, Value.ofPoints_ofText]⟩, ?_, ?_⟩
  · intro name hname own hown
    obtain ⟨field, hfield, rfl⟩ := List.mem_map.1 hname
    obtain ⟨a, rfl⟩ := hfields field hfield
    exact (by decide : ∀ own ∈ Log.ownNames, Log.addressField ≠ own.toList) own hown
  · intro field hfield
    obtain ⟨a, rfl⟩ := hfields field hfield
    rfl

theorem isSayable_starting : IsSayable (startingEntry ownAddress) :=
  isSayable_own (some ownAddress) rfl rfl

theorem isSayable_news (s : Server) (event : String) : IsSayable (s.news event) :=
  isSayable_own (some s.address) rfl rfl

theorem isSayable_interrupted : IsSayable interruptedEntry :=
  isSayable_own none rfl rfl

theorem isSayable_notStarted (fault : Fault) : IsSayable (notStartedEntry ownAddress fault) :=
  isSayable_own (some ownAddress) rfl rfl

/-! The network of the program. -/

def listening (e : Endpoint) : Network :=
  { servers := [(serverName, { endpoint := e })], bound := [e] }

def serving (e : Endpoint) : Network :=
  { servers := [(serverName, { endpoint := e, isRunning := true, isStarted := true })]
    starts := [(serverName, .goesOn)], bound := [e] }

def closed (e : Endpoint) : Network :=
  { servers := [(serverName, { endpoint := e, isOpen := false })] }

theorem step_make (now : Instant) (e : Endpoint) :
    ({} : Network).step Greeting.routes now serverName (.make {} (.ok e)) =
      (listening e, ⟨.made, [], [], []⟩) := rfl

theorem written_address : Fault.written ({} : Config).address = .ok ownAddress := by
  rw [Config.address_default]
  rfl

theorem step_make_error (now : Instant) {fault : Fault} {why : List CodePoint}
    (hsystem : fault.kind.isSystem = true) (hwhy : fault.text = .ok why) :
    ({} : Network).step Greeting.routes now serverName (.make {} (.error fault)) =
      ({}, ⟨.notListening ownAddress (Fault.notListening ownAddress why fault), [], [], []⟩) := by
  have hmade : Network.notMade {} fault =
      .notListening ownAddress (Fault.notListening ownAddress why fault) := by
    rw [Network.notMade, if_pos hsystem,
      Network.startupFault_of_canBeTold ⟨Config.address_default, hwhy⟩]
    rfl
  rw [← hmade]
  rfl

theorem step_make_untold (now : Instant) {fault : Fault} {e : Text.NumeralError}
    (hsystem : fault.kind.isSystem = true) (he : fault.text = .error e) :
    ({} : Network).step Greeting.routes now serverName (.make {} (.error fault)) =
      ({}, ⟨.failed { Fault.unwritten e with context := some fault }, [], [], []⟩) := by
  have hmade : Network.notMade {} fault =
      .failed { Fault.unwritten e with context := some fault } := by
    rw [Network.notMade, if_pos hsystem,
      Network.startupFault_of_untold Config.address_default he]
  rw [← hmade]
  rfl

theorem step_start (now : Instant) (e : Endpoint) :
    (listening e).step Greeting.routes now serverName .start =
      (serving e, ⟨.serving, [], [], [Server.startedEntry { endpoint := e }]⟩) := rfl

theorem step_breakDown (now : Instant) (e : Endpoint) (fault : Fault) :
    (serving e).step Greeting.routes now serverName (.breakDown fault) =
      (listening e, ⟨.ended (some fault), [], [], [Server.stoppedEntry { endpoint := e }]⟩) := rfl

theorem step_stop (now : Instant) (e : Endpoint) :
    (listening e).step Greeting.routes now serverName .stop =
      (closed e, ⟨.stopped, [], [], []⟩) := by
  have hfree : [e].erase e = [] := List.erase_cons_head e []
  have hstop : (listening e).step Greeting.routes now serverName .stop =
      ({ closed e with bound := [e].erase e }, ⟨.stopped, [], [], []⟩) := rfl
  rw [hstop, hfree]
  rfl

/-! Parts of a run. -/

theorem does_perform_one (hlib : lib.IsDocumented) {s : State lib} {st : Network.Step} {n : Network}
    {result : Network.Result} {entry : Log.Entry}
    (hst : s.network.step Greeting.routes now serverName st = (n, ⟨result, [], [], [entry]⟩))
    (ho : ∀ fault, result ≠ .failed fault) (hsent : bytesOf result = []) (he : IsSayable entry)
    (hs : s.HasLogger module entry.part) (ht : now.timestamp = .ok time) :
    ∃ line t, Prints lib now module entry line ∧ (perform now st).result s = (.ok (), t) ∧
      Leads module s t n [line] [] [] := by
  obtain ⟨lines, hlines, t, hdone, hleads⟩ := does_perform hlib hst ho
    (fun other hmem => by obtain rfl := List.mem_singleton.1 hmem; exact ⟨he, hs⟩) ht
  obtain ⟨line, rest, hline, hrest, rfl⟩ := List.forall₂_cons_left_iff.1 hlines
  obtain rfl := List.forall₂_nil_left_iff.1 hrest
  rw [hsent] at hleads
  exact ⟨line, t, hline, hdone, hleads⟩

section
variable {s : State lib}

/-- The server listens, and the main part and the server have their loggers. -/
structure IsReady (module : Text) (e : Endpoint) (s : State lib) : Prop where
  network : s.network = listening e
  main : s.HasLogger module .main
  server : s.HasLogger module .server

/-- The server starts, serves until waiting for connections fails, and stops. -/
theorem does_start (hlib : lib.IsDocumented) (h : IsReady module e s)
    (ht : now.timestamp = .ok time) (ending : Fault) (events : List Event) :
    ∃ started served stopped,
      Prints lib now module (Server.startedEntry { endpoint := e }) started ∧
      List.Forall₂ (Prints lib now module)
        (events.flatMap fun event => (event.alone now).flatMap (·.logs)) served ∧
      Prints lib now module (Server.stoppedEntry { endpoint := e }) stopped ∧
      Does module s (start now events ending) (.error (.raised ending)) (listening e)
        (started :: served ++ [stopped])
        (events.flatMap fun event => (event.alone now).map (·.sent))
        (events.flatMap fun event => (event.alone now).flatMap (·.pauses)) := by
  have hlistening := step_start now e
  rw [← h.network] at hlistening
  obtain ⟨started, t, hstarted, hstart, hleads⟩ :=
    does_perform_one hlib hlistening (by simp) rfl (isSayable_news _ _) h.server ht
  have hserving : IsServing module t :=
    { started := by
        rw [hleads.network]
        exact ⟨_, rfl, rfl⟩
      main := hleads.loggers _ h.main
      server := hleads.loggers _ h.server }
  obtain ⟨served, hserved, u, hserve, hmore⟩ := does_serveForever hlib hserving ht ending events
  have hending := step_breakDown now e ending
  rw [hleads.network] at hmore
  rw [← hmore.network] at hending
  obtain ⟨stopped, v, hstopped, hdown, hlast⟩ := does_perform_one hlib hending (by simp) rfl
    (isSayable_news _ _) (hmore.loggers _ hserving.server) ht
  refine ⟨started, served, stopped, hstarted, hserved, hstopped, v, ?_, ?_⟩
  · simp only [start, Work.result_bind, hstart, Work.result_tryFinally, hserve, hdown]
  · simpa using (hleads.trans hmore).trans hlast

/-- The server serves to its end and is closed. An interrupt is dealt with by a line about it. -/
theorem does_serve (hlib : lib.IsDocumented) (h : IsReady module e s)
    (ht : now.timestamp = .ok time) (ending : Fault) (events : List Event) :
    ∃ started served stopped last,
      Prints lib now module (Server.startedEntry { endpoint := e }) started ∧
      List.Forall₂ (Prints lib now module)
        (events.flatMap fun event => (event.alone now).flatMap (·.logs)) served ∧
      Prints lib now module (Server.stoppedEntry { endpoint := e }) stopped ∧
      List.Forall₂ (Prints lib now module)
        (if ending.isInterrupt then [interruptedEntry] else []) last ∧
      Does module s (serve now events ending)
        (if ending.isInterrupt then .ok () else .error (.raised ending)) (closed e)
        (started :: served ++ stopped :: last)
        (events.flatMap fun event => (event.alone now).map (·.sent))
        (events.flatMap fun event => (event.alone now).flatMap (·.pauses)) := by
  obtain ⟨started, served, stopped, hstarted, hserved, hstopped, t, hstart, hleads⟩ :=
    does_start hlib h ht ending events
  have hdeal : ∃ last, List.Forall₂ (Prints lib now module)
      (if ending.isInterrupt then [interruptedEntry] else []) last ∧
      Does module t (sayInterrupted now (.raised ending))
        (if ending.isInterrupt then .ok () else .error (.raised ending)) (listening e) last [] [] := by
    by_cases hi : ending.isInterrupt
    · obtain ⟨line, hline, hsay⟩ := does_say hlib isSayable_interrupted
        (hleads.loggers _ h.main) ht
      rw [hleads.network] at hsay
      simp only [hi, if_true, sayInterrupted]
      exact ⟨[line], .cons hline .nil, hsay⟩
    · have hthrow := does_throw (α := Unit) module t (.raised ending)
      rw [hleads.network] at hthrow
      simp only [hi, sayInterrupted]
      exact ⟨[], .nil, hthrow⟩
  obtain ⟨last, hlast, u, hdealt, hmore⟩ := hdeal
  have hstopping := step_stop now e
  rw [← hmore.network] at hstopping
  obtain ⟨lines, hlines, v, hstop, hend⟩ : ∃ lines, List.Forall₂ (Prints lib now module) [] lines ∧
      Does module u (perform now .stop) (.ok ()) (closed e) lines [] [] :=
    does_perform hlib hstopping (by simp) (by simp) ht
  obtain rfl := List.forall₂_nil_left_iff.1 hlines
  refine ⟨started, served, stopped, last, hstarted, hserved, hstopped, hlast, v, ?_, ?_⟩
  · simp only [serve, Work.result_tryFinally, Work.result_tryCatch, hstart, hdealt, hstop]
  · simpa using (hleads.trans hmore).trans hend

/-- The server gets its logger, and the system is asked for the address. -/
theorem does_ask (hlib : lib.IsDocumented) (hn : s.network = {}) (hs : s.HasLogger module .main)
    (ht : now.timestamp = .ok time) {answer : Except Fault Endpoint} {n : Network}
    {result : Network.Result}
    (hmake : ({} : Network).step Greeting.routes now serverName (.make {} answer) =
      (n, ⟨result, [], [], []⟩))
    (hsent : bytesOf result = []) :
    ∃ t u, (derive .server).result s = (.ok (), t) ∧
      (act now (.make {} answer)).result t = (.ok result, u) ∧ Leads module s u n [] [] [] ∧
      u.HasLogger module .server := by
  obtain ⟨t, hderived, hleads, hserver⟩ := does_derive hlib hs (by simp : Log.Part.server ≠ .main)
  rw [← hn, ← hleads.network] at hmake
  obtain ⟨lines, hlines, u, hacted, hmore⟩ : ∃ lines,
      List.Forall₂ (Prints lib now module) [] lines ∧
      Does module t (act now (.make {} answer)) (.ok result) n lines (bytesOf result) [] :=
    does_act hlib hmake (by simp) ht
  obtain rfl := List.forall₂_nil_left_iff.1 hlines
  rw [hsent] at hmore
  exact ⟨t, u, hderived, hacted, by simpa using hleads.trans hmore, hmore.loggers _ hserver⟩

theorem does_build (hlib : lib.IsDocumented) (hn : s.network = {}) (hs : s.HasLogger module .main)
    (ht : now.timestamp = .ok time) (e : Endpoint) :
    ∃ t, (build now {} (.ok e)).result s = (.ok (), t) ∧
      Leads module s t (listening e) [] [] [] ∧ t.HasLogger module .server := by
  obtain ⟨t, u, hderived, hmade, hleads, hserver⟩ :=
    does_ask hlib hn hs ht (step_make now e) rfl
  refine ⟨u, ?_, hleads, hserver⟩
  simp only [build, Work.result_bind, hderived, hmade, Work.result_pure]

theorem does_build_error (hlib : lib.IsDocumented) (hn : s.network = {})
    (hs : s.HasLogger module .main) (ht : now.timestamp = .ok time) {fault : Fault}
    {why : List CodePoint} (hsystem : fault.kind.isSystem = true) (hwhy : fault.text = .ok why) :
    ∃ line, Prints lib now module
        (notStartedEntry ownAddress (Fault.notListening ownAddress why fault)) line ∧
      Does module s (build now {} (.error fault)) (.error (.exited 1)) {} [line] [] [] := by
  obtain ⟨t, u, hderived, hmade, hleads, -⟩ :=
    does_ask hlib hn hs ht (step_make_error now hsystem hwhy) rfl
  obtain ⟨line, hline, v, hsaid, hend⟩ := does_say hlib
    (isSayable_notStarted (Fault.notListening ownAddress why fault)) (hleads.loggers _ hs) ht
  rw [hleads.network] at hend
  refine ⟨line, hline, v, ?_, by simpa using hleads.trans hend⟩
  simp only [build, Work.result_bind, hderived, hmade, hsaid, Work.result_throw]

theorem result_build_untold (hlib : lib.IsDocumented) (hn : s.network = {})
    (hs : s.HasLogger module .main) (ht : now.timestamp = .ok time) {fault : Fault}
    {e : Text.NumeralError} (hsystem : fault.kind.isSystem = true) (he : fault.text = .error e) :
    ∃ t, (build now {} (.error fault)).result s =
      (.error (.raised { Fault.unwritten e with context := some fault }), t) := by
  obtain ⟨t, u, hderived, hmade, -, -⟩ :=
    does_ask hlib hn hs ht (step_make_untold now hsystem he) rfl
  exact ⟨u, by simp only [build, Work.result_bind, hderived, hmade, Work.result_throw]⟩

end

/-! Runs. -/

def State.initial (l : lib.Logger) : State lib := { main := l, server := l, router := l }

theorem exists_main (hlib : lib.IsDocumented) (module : Text) :
    ∃ l, lib.get [(Log.moduleField, .text module)] = .ok l ∧
      (State.initial l).HasLogger module .main := by
  have hordinary : Log.AreOrdinary [(Log.moduleField, .text module)] := by
    intro name hname own hown
    obtain rfl := List.mem_singleton.1 hname
    exact (by decide : ∀ own ∈ Log.ownNames, Log.moduleField ≠ own.toList) own hown
  obtain ⟨l, hl⟩ := hlib.loggers.get_ordinary hordinary
  obtain ⟨hfields, hsetup⟩ := hlib.loggers.get hl
  exact ⟨l, hl, Prod.ext hfields hsetup⟩

theorem result_main (s : State lib) (now : Instant) (answer : Except Fault Endpoint)
    (events : List Event) (ending : Fault) :
    (main now {} answer events ending).result s =
      (say now (startingEntry ownAddress) >>= fun _ =>
        build now {} answer >>= fun _ => serve now events ending).result s := by
  rw [main, written_address]
  rfl

theorem run_eq {l : lib.Logger} (hget : lib.get [(Log.moduleField, .text module)] = .ok l)
    {answer : Except Fault Endpoint} {events : List Event} {ending : Fault}
    {ended : Except Ending Unit} {t : State lib}
    (h : (main now {} answer events ending).result (State.initial l) = (ended, t)) :
    run lib module now answer events ending =
      { outcome := outcomeOf ended, lines := t.lines, sent := t.sent, pauses := t.pauses
        bound := t.network.bound } := by
  rw [State.initial] at h
  simp only [run, hget, h]

theorem tells_starting (hlib : lib.IsDocumented) (ht : now.timestamp = .ok time) {line : Text}
    (h : Prints lib now module (startingEntry ownAddress) line) :
    Log.Tells line
      (ownFields module (some ownAddress) .info "starting hello server" none time) :=
  (tells_of_prints hlib isSayable_starting ht h (fun _ => none) fun _ => rfl).elim
    fun _ htells => htells

theorem tells_interrupted (hlib : lib.IsDocumented) (ht : now.timestamp = .ok time) {line : Text}
    (h : Prints lib now module interruptedEntry line) :
    Log.Tells line (ownFields module none .info "hello server interrupted" none time) :=
  (tells_of_prints hlib isSayable_interrupted ht h (fun _ => none) fun _ => rfl).elim
    fun _ htells => htells

theorem tells_news (hlib : lib.IsDocumented) (ht : now.timestamp = .ok time) {event : String}
    {line : Text} (h : Prints lib now module (Server.news { endpoint := e } event) line) :
    Log.Tells line (ownFields Log.Part.server.module (some e.text) .info event none time) :=
  (tells_of_prints hlib (isSayable_news _ event) ht h (fun _ => none) fun _ => rfl).elim
    fun _ htells => htells

theorem isServed_run (hlib : lib.IsDocumented) {l : lib.Logger}
    (hget : lib.get [(Log.moduleField, .text module)] = .ok l)
    (hl : (State.initial l).HasLogger module .main) (ht : now.timestamp = .ok time) (e : Endpoint)
    (events : List Event) (ending : Fault) :
    IsServed lib module now time e events ending (run lib module now (.ok e) events ending) := by
  obtain ⟨starting, hstarting, s, hsay, hfirst⟩ :=
    does_say hlib isSayable_starting (s := State.initial l) hl ht
  have hmain := hfirst.loggers _ hl
  obtain ⟨t, hbuild, hbuilt, hserver⟩ := does_build hlib hfirst.network hmain ht e
  obtain ⟨started, served, stopped, last, hstarted, hserved, hstopped, hlast, u, hserve, hleads⟩ :=
    does_serve hlib ⟨hbuilt.network, hbuilt.loggers _ hmain, hserver⟩ ht ending events
  have hall := (hfirst.trans hbuilt).trans hleads
  have hresult : (main now {} (.ok e) events ending).result (State.initial l) =
      (if ending.isInterrupt then .ok () else .error (.raised ending), u) := by
    simp only [result_main, Work.result_bind, hsay, hbuild, hserve]
  rw [run_eq hget hresult]
  exact
    { outcome := by
        dsimp only
        split <;> rfl
      sent := hall.sent
      pauses := hall.pauses
      lines := by
        refine ⟨starting, started, served, stopped, last, hall.lines,
          tells_starting hlib ht hstarting, tells_news hlib ht hstarted, hserved,
          tells_news hlib ht hstopped, ?_⟩
        by_cases hi : ending.isInterrupt
        · simp only [hi, if_true] at hlast ⊢
          obtain ⟨line, rest, hline, hrest, rfl⟩ := List.forall₂_cons_left_iff.1 hlast
          obtain rfl := List.forall₂_nil_left_iff.1 hrest
          exact ⟨line, rfl, tells_interrupted hlib ht hline⟩
        · simp only [hi] at hlast ⊢
          exact List.forall₂_nil_left_iff.1 hlast
      freed := congrArg Network.bound hall.network
      undisturbed := fun event _ hcalm record hrecord => by
        cases event with
        | connection peer source sink =>
          obtain rfl := List.mem_singleton.1 hrecord
          exact Connection.interruption_serve Greeting.isCalm_routes hcalm.1 hcalm.2
        | refused => cases hrecord }

theorem isGivenUp_run (hlib : lib.IsDocumented) {l : lib.Logger}
    (hget : lib.get [(Log.moduleField, .text module)] = .ok l)
    (hl : (State.initial l).HasLogger module .main) (ht : now.timestamp = .ok time) {fault : Fault}
    {why : List CodePoint} (hsystem : fault.kind.isSystem = true) (hwhy : fault.text = .ok why)
    (events : List Event) (ending : Fault) :
    IsGivenUp module time fault why (run lib module now (.error fault) events ending) := by
  obtain ⟨starting, hstarting, s, hsay, hfirst⟩ :=
    does_say hlib isSayable_starting (s := State.initial l) hl ht
  obtain ⟨notStarted, hnot, t, hbuild, hleads⟩ :=
    does_build_error hlib hfirst.network (hfirst.loggers _ hl) ht hsystem hwhy
  have hall := hfirst.trans hleads
  have hresult : (main now {} (.error fault) events ending).result (State.initial l) =
      (.error (.exited 1), t) := by
    simp only [result_main, Work.result_bind, hsay, hbuild]
  rw [run_eq hget hresult]
  obtain ⟨trace, htells⟩ : ∃ trace, Log.Tells notStarted
      (ownFields module (some ownAddress) .error "failed to start hello server"
        (some ((Fault.notListening ownAddress why fault).report trace)) time) :=
    tells_of_prints hlib (isSayable_notStarted _) ht hnot
      (fun trace => some ((Fault.notListening ownAddress why fault).report trace)) fun _ => rfl
  exact
    { outcome := rfl
      sent := hall.sent
      pauses := hall.pauses
      lines := ⟨starting, notStarted, trace, hall.lines, tells_starting hlib ht hstarting, htells⟩
      freed := congrArg Network.bound hall.network }

/-- Nothing is said, bound or served if the time cannot be told. -/
theorem run_of_untold_time (hlib : lib.IsDocumented) {fault : Fault}
    (ht : now.timestamp = .error fault) (module : Text) (answer : Except Fault Endpoint)
    (events : List Event) (ending : Fault) :
    run lib module now answer events ending = { outcome := .failed fault } := by
  obtain ⟨l, hget, hl⟩ := exists_main hlib module
  obtain ⟨m, hsay⟩ := result_say_of_error hlib isSayable_starting (s := State.initial l) hl ht
  have hresult : (main now {} answer events ending).result (State.initial l) =
      (.error (.raised fault), (State.initial l).setLogger .main m) := by
    rw [result_main, Work.result_bind, hsay]
    rfl
  rw [run_eq hget hresult]
  rfl

theorem outcome_run_of_untold_fault (hlib : lib.IsDocumented) (ht : now.timestamp = .ok time)
    {fault : Fault} {e : Text.NumeralError} (hsystem : fault.kind.isSystem = true)
    (he : fault.text = .error e) (module : Text) (events : List Event) (ending : Fault) :
    (run lib module now (.error fault) events ending).outcome =
      .failed { Fault.unwritten e with context := some fault } := by
  obtain ⟨l, hget, hl⟩ := exists_main hlib module
  obtain ⟨starting, -, s, hsay, hfirst⟩ :=
    does_say hlib isSayable_starting (s := State.initial l) hl ht
  obtain ⟨t, hbuild⟩ := result_build_untold hlib hfirst.network (hfirst.loggers _ hl) ht hsystem he
  have hresult : (main now {} (.error fault) events ending).result (State.initial l) =
      (.error (.raised { Fault.unwritten e with context := some fault }), t) := by
    simp only [result_main, Work.result_bind, hsay, hbuild]
  rw [run_eq hget hresult]
  rfl

/-- A run of the program that can tell the time serves each connection as if it were alone and
returns if it is interrupted, or gives up if it cannot listen. -/
theorem isServed_or_isGivenUp_run (hlib : lib.IsDocumented) (module : Text) (now : Instant)
    (events : List Event) (ending : Fault) :
    match now.timestamp with
    | .ok time =>
      (∀ e, IsServed lib module now time e events ending
        (run lib module now (.ok e) events ending)) ∧
      ∀ fault why, fault.kind.isSystem = true → fault.text = .ok why →
        IsGivenUp module time fault why (run lib module now (.error fault) events ending)
    | .error fault =>
      ∀ answer, run lib module now answer events ending = { outcome := .failed fault } := by
  cases ht : now.timestamp with
  | ok time =>
    obtain ⟨l, hget, hl⟩ := exists_main hlib module
    exact ⟨fun e => isServed_run hlib hget hl ht e events ending, fun fault why hsystem hwhy =>
      isGivenUp_run hlib hget hl ht hsystem hwhy events ending⟩
  | error fault => exact fun answer => run_of_untold_time hlib ht module answer events ending

/-- A connection whose peer reads ten bytes of the response and is gone. -/
def brokenConnection : Event :=
  .connection (.ofHost "peer".toList 40000)
    ⟨"GET / HTTP/1.1\r\n\r\n".toList.map Text.toByte, none⟩
    { room := some 10, closing := some Fault.brokenPipe }

theorem isServed_or_isGivenUp_run_broken :
    Log.Standard.plainLibrary.IsDocumented ∧
      (⟨0⟩ : Instant).timestamp = .ok "1970-01-01T00:00:00Z".toList ∧
      IsServed Log.Standard.plainLibrary (mainModule true) ⟨0⟩ "1970-01-01T00:00:00Z".toList
        ⟨"0.0.0.0".toList, 5000⟩ [brokenConnection, .refused] Fault.interrupted
        (run Log.Standard.plainLibrary (mainModule true) ⟨0⟩ (.ok ⟨"0.0.0.0".toList, 5000⟩)
          [brokenConnection, .refused] Fault.interrupted) ∧
      Fault.addressInUse.kind.isSystem = true ∧
      Fault.addressInUse.text =
        .ok (CodePoint.ofText "[Errno 98] Address already in use".toList) ∧
      IsGivenUp (mainModule true) "1970-01-01T00:00:00Z".toList Fault.addressInUse
        (CodePoint.ofText "[Errno 98] Address already in use".toList)
        (run Log.Standard.plainLibrary (mainModule true) ⟨0⟩ (.error Fault.addressInUse)
          [brokenConnection, .refused] Fault.interrupted) ∧
      brokenConnection.IsCalm ∧ ∀ record ∈ brokenConnection.alone ⟨0⟩, record.interruption = none := by
  have htime : (⟨0⟩ : Instant).timestamp = .ok "1970-01-01T00:00:00Z".toList := rfl
  have h := isServed_or_isGivenUp_run Log.Standard.isDocumented_plainLibrary (mainModule true) ⟨0⟩
    [brokenConnection, .refused] Fault.interrupted
  rw [htime] at h
  have hserved := h.1 ⟨"0.0.0.0".toList, 5000⟩
  have hcalm : brokenConnection.IsCalm :=
    ⟨fun fault hf => (by cases hf), ⟨rfl, fun fault hf => (by cases hf; rfl)⟩⟩
  exact ⟨Log.Standard.isDocumented_plainLibrary, htime, hserved, rfl, rfl, h.2 _ _ rfl rfl, hcalm,
    hserved.undisturbed _ List.mem_cons_self hcalm⟩

/-- At the start of the year 10000 the program fails instead of saying that it starts and returning
when it is interrupted. It also fails instead of giving up when the number of the error is too long
to be told. -/
theorem run_in_late_year :
    run Log.Standard.plainLibrary (mainModule false) ⟨253402300800000000⟩
        (.ok ⟨"0.0.0.0".toList, 5000⟩) [] Fault.interrupted =
      { outcome := .failed (Fault.overflow "date value out of range".toList), lines := [] } ∧
    (Fault.ofErrorNumber Text.firstUnwritten "strange".toList).kind.isSystem = true ∧
    ∃ fault, (run Log.Standard.plainLibrary (mainModule false) ⟨0⟩
        (.error (Fault.ofErrorNumber Text.firstUnwritten "strange".toList)) []
        Fault.interrupted).outcome = .failed fault := by
  have htime : (⟨0⟩ : Instant).timestamp = .ok "1970-01-01T00:00:00Z".toList := rfl
  have hlate : (⟨253402300800000000⟩ : Instant).timestamp =
      .error (Fault.overflow "date value out of range".toList) := rfl
  obtain ⟨e, he⟩ :=
    Fault.exists_error_ofErrorNumber Text.not_exists_ofInt_firstUnwritten "strange".toList
  have hsystem := Fault.isSystem_ofErrorNumber Text.firstUnwritten "strange".toList
  exact ⟨run_of_untold_time Log.Standard.isDocumented_plainLibrary hlate _ _ _ _, hsystem, _,
    outcome_run_of_untold_fault Log.Standard.isDocumented_plainLibrary htime hsystem he _ _ _⟩

end Program
end GreetingServer
