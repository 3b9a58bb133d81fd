import GreetingServer.Program
import GreetingServer.Proofs.ErrorLog
import GreetingServer.Proofs.Lifecycle
import GreetingServer.Proofs.LogLine
import GreetingServer.Proofs.Uninterrupted

/-! What the program does while it serves. A task is told by what it comes to and by what it leaves:
the network, and the lines, responses and pauses that it adds. Loggers are never told by more than
what they are bound to. An event leaves the network as it was and adds what the connection does if it
is served alone; so do any events, one after the other, until waiting for them fails. -/
namespace GreetingServer
namespace Program
variable {lib : Log.Library} {now : Instant} {time module : Text} {α β : Type}

def originOf (module : Text) : Log.Part → Text
  | .main => module
  | .server => Log.Part.server.module
  | .router => Log.Part.router.module

def State.HasLogger (module : Text) (part : Log.Part) (s : State lib) : Prop :=
  lib.content (s.logger part) = ([(Log.moduleField, .text (originOf module part))], {})

theorem logger_setLogger_self (s : State lib) (part : Log.Part) (l : lib.Logger) :
    (s.setLogger part l).logger part = l := by
  cases part <;> rfl

theorem logger_setLogger_other (s : State lib) {part other : Log.Part} (h : other ≠ part)
    (l : lib.Logger) : (s.setLogger part l).logger other = s.logger other := by
  cases part <;> cases other <;> first | rfl | exact absurd rfl h

theorem network_setLogger (s : State lib) (part : Log.Part) (l : lib.Logger) :
    (s.setLogger part l).network = s.network := by
  cases part <;> rfl

/-- A state leads to another one: the network is given, no logger is lost, and lines, responses and
pauses are added. -/
structure Leads (module : Text) (s t : State lib) (network : Network) (lines : List Text)
    (sent : List Bytes) (pauses : List Nat) : Prop where
  network : t.network = network
  loggers : ∀ part, s.HasLogger module part → t.HasLogger module part
  lines : t.lines = s.lines ++ lines
  sent : t.sent = s.sent ++ sent
  pauses : t.pauses = s.pauses ++ pauses

section
variable {s t u : State lib} {network other : Network} {lines more : List Text}
  {sent later : List Bytes} {pauses others : List Nat}

theorem Leads.refl (module : Text) (s : State lib) : Leads module s s s.network [] [] [] :=
  ⟨rfl, fun _ h => h, (List.append_nil _).symm, (List.append_nil _).symm, (List.append_nil _).symm⟩

theorem Leads.trans (h : Leads module s t network lines sent pauses)
    (ho : Leads module t u other more later others) :
    Leads module s u other (lines ++ more) (sent ++ later) (pauses ++ others) where
  network := ho.network
  loggers part hs := ho.loggers part (h.loggers part hs)
  lines := by rw [ho.lines, h.lines, List.append_assoc]
  sent := by rw [ho.sent, h.sent, List.append_assoc]
  pauses := by rw [ho.pauses, h.pauses, List.append_assoc]

theorem Leads.setLogger (module : Text) (s : State lib) (part : Log.Part) {l : lib.Logger}
    (h : s.HasLogger module part → (s.setLogger part l).HasLogger module part) :
    Leads module s (s.setLogger part l) s.network [] [] [] := by
  refine ⟨network_setLogger s part l, fun other hs => ?_, ?_, ?_, ?_⟩
  · by_cases ho : other = part
    · subst ho
      exact h hs
    · rw [State.HasLogger, logger_setLogger_other s ho]
      exact hs
  all_goals cases part <;> exact (List.append_nil _).symm

theorem Leads.print (module : Text) (s : State lib) (lines : List Text) :
    Leads module s (s.print lines) s.network lines [] [] :=
  ⟨rfl, fun part hs => by cases part <;> exact hs, rfl, (List.append_nil _).symm,
    (List.append_nil _).symm⟩

end

def Does (module : Text) (s : State lib) (task : Task lib α) (ended : Except Ending α)
    (network : Network) (lines : List Text) (sent : List Bytes) (pauses : List Nat) : Prop :=
  ∃ t, task.result s = (ended, t) ∧ Leads module s t network lines sent pauses

theorem does_pure (module : Text) (s : State lib) (a : α) :
    Does module s (pure a) (.ok a) s.network [] [] [] := ⟨s, rfl, .refl module s⟩

theorem does_throw (module : Text) (s : State lib) (e : Ending) :
    Does module s (throw e : Task lib α) (.error e) s.network [] [] [] := ⟨s, rfl, .refl module s⟩

theorem Does.tryCatch {s : State lib} {network : Network} {lines : List Text} {sent : List Bytes}
    {pauses : List Nat} {work : Task lib α} {a : α} (deal : Ending → Task lib α)
    (h : Does module s work (.ok a) network lines sent pauses) :
    Does module s (tryCatch work deal) (.ok a) network lines sent pauses := by
  obtain ⟨t, ht, hleads⟩ := h
  exact ⟨t, by rw [Work.result_tryCatch, ht], hleads⟩

/-! What is said. -/

def draftOf (module : Text) (e : Log.Entry) : Log.Draft :=
  Log.Call.draft ⟨e.level, e.event, [], e.fields, false⟩ e.message e.event
    [(Log.moduleField, .text (originOf module e.part))]

/-- What is printed for an entry. It does not depend on what has been printed before. -/
def Prints (lib : Log.Library) (now : Instant) (module : Text) (e : Log.Entry) (line : Text) : Prop :=
  lib.pipeline.run ⟨lib.emptyContext, e.fault, now⟩ (draftOf module e) = .ok line

/-- All that an entry says can be written, and no logger takes its fields for its own. -/
structure IsSayable (e : Log.Entry) : Prop where
  event : ∃ ps, e.event = .ofPoints ps
  fields : Log.AreOrdinary e.fields
  written : ∀ field ∈ e.fields, field.2.checkNumerals = .ok ()

theorem isSayable_of_isConnectionError {e : Log.Entry} (h : e.IsConnectionError) : IsSayable e := by
  obtain ⟨start, -, rest, hevent⟩ := h.event
  refine ⟨⟨_, hevent⟩, fun name hname own hown => ?_, fun field hfield => (h.fields field hfield).2⟩
  obtain ⟨field, hfield, rfl⟩ := List.mem_map.1 hname
  have hnames : ∀ name ∈ Log.Entry.connectionFields, ∀ own ∈ Log.ownNames, name ≠ own.toList := by
    decide
  exact hnames _ (h.fields field hfield).1 own hown

theorem checkNumerals_ofFields {fields : Log.Fields}
    (h : ∀ field ∈ fields, field.2.checkNumerals = .ok ()) :
    (Value.ofFields fields).checkNumerals = .ok () := by
  rw [Value.ofFields, Value.checkNumerals]
  induction fields with
  | nil => simp [Value.checkEntries]
  | cons field fields ih =>
    have hrest := ih fun other ho => h other (List.mem_cons_of_mem _ ho)
    simp only [List.map_cons, Value.checkEntries, h field List.mem_cons_self]
    exact hrest

/-- Outside the context only what can be written is put to what is said. -/
theorem written_completed {e : Log.Entry} (he : IsSayable e) (module : Text)
    (handled : Option Fault) (trace : Fault.Trace) (time : Text) :
    ∀ field ∈ (draftOf module e).completed [] handled trace time,
      field.2.checkNumerals = .ok () := by
  have htext (t : Text) : (Value.text t).checkNumerals = .ok () := rfl
  have hpoints (ps : List CodePoint) : (Value.ofPoints ps).checkNumerals = .ok () :=
    Value.checkNumerals_ofPoints ps
  have hdraft : ∀ field ∈ (draftOf module e).fields, field.2.checkNumerals = .ok () := by
    intro field hfield
    rw [draftOf, Log.Call.fields_draft] at hfield
    rcases Ordered.mem_putAll hfield with hsaid | hfield
    · obtain ⟨ps, hevent⟩ := he.event
      rw [hevent, Log.saidFields_of_ne_null (Value.isString_ofPoints ps).ne_null] at hsaid
      obtain rfl := List.mem_singleton.1 hsaid
      exact hpoints ps
    · rcases Ordered.mem_putAll hfield with hpassed | hbound
      · change field ∈ (if e.fault.isSome then Ordered.put Log.faultField .null e.fields
          else e.fields) at hpassed
        split at hpassed
        · rcases Ordered.mem_put hpassed with rfl | hgiven
          · rfl
          · exact he.written field hgiven
        · exact he.written field hpassed
      · obtain rfl := List.mem_singleton.1 hbound
        exact htext _
  have hleveled : ∀ field ∈ ((draftOf module e).leveled []).fields,
      field.2.checkNumerals = .ok () := by
    intro field hfield
    rcases Ordered.mem_put hfield with rfl | hfield
    · exact htext _
    · exact hdraft field hfield
  intro field hfield
  rcases Ordered.mem_put hfield with rfl | hfield
  · exact htext _
  · unfold Log.Draft.formatted at hfield
    cases habout : ((draftOf module e).leveled []).about handled with
    | none =>
      rw [habout] at hfield
      exact hleveled field (List.mem_of_mem_filter hfield)
    | some f =>
      rw [habout] at hfield
      rcases Ordered.mem_put hfield with rfl | hfield
      · exact hpoints _
      · exact hleveled field (List.mem_of_mem_filter hfield)

theorem run_draftOf (hlib : lib.IsDocumented) {e : Log.Entry} (he : IsSayable e)
    (now : Instant) (module : Text) :
    ∃ trace, lib.pipeline.run ⟨lib.emptyContext, e.fault, now⟩ (draftOf module e) =
      now.timestamp.map fun time =>
        Json.write (.ofFields ((draftOf module e).completed [] e.fault trace time)) := by
  obtain ⟨context, trace, hperm, hrun⟩ := lib.run_pipeline hlib.processors
    ⟨lib.emptyContext, e.fault, now⟩ (rfl : (draftOf module e).method = e.level.name)
  rw [hlib.context.empty] at hperm
  obtain rfl := hperm.eq_nil
  refine ⟨trace, hrun.trans ?_⟩
  cases now.timestamp with
  | error f => rfl
  | ok time =>
    change Json.dump _ = _
    rw [Json.dump, checkNumerals_ofFields (written_completed he module e.fault trace time)]
    rfl

theorem send_eq (hlib : lib.IsDocumented) {e : Log.Entry} (he : IsSayable e) {s : State lib}
    (hs : s.HasLogger module e.part) (now : Instant) :
    (lib.send lib.emptyContext now e.message (s.logger e.part)).2 =
      (lib.pipeline.run ⟨lib.emptyContext, e.fault, now⟩ (draftOf module e)).map
        fun line => [line] := by
  obtain ⟨ps, hevent⟩ := he.event
  obtain ⟨hfields, hsetup⟩ := Prod.mk.inj hs
  have hm : e.message.IsOrdinary e.level ps := ⟨rfl, hevent, rfl, he.fields⟩
  have hsend := hlib.entries.ordinary lib.pipeline ⟨lib.emptyContext, e.fault, now⟩ hm hsetup
  rw [hfields, ← hevent] at hsend
  exact hsend

theorem does_say (hlib : lib.IsDocumented) {e : Log.Entry} (he : IsSayable e) {s : State lib}
    (hs : s.HasLogger module e.part) (ht : now.timestamp = .ok time) :
    ∃ line, Prints lib now module e line ∧
      Does module s (say now e) (.ok ()) s.network [line] [] [] := by
  obtain ⟨trace, hrun⟩ := run_draftOf hlib he now module
  rw [ht] at hrun
  refine ⟨_, hrun, ?_⟩
  have hsource := hlib.entries.source lib.pipeline ⟨lib.emptyContext, e.fault, now⟩ e.message
    (s.logger e.part)
  rcases hsend : lib.send lib.emptyContext now e.message (s.logger e.part) with ⟨l, printed⟩
  have hprinted := send_eq hlib he hs now
  rw [hsend, hrun] at hprinted
  obtain rfl : printed = _ := hprinted
  have hl : (s.setLogger e.part l).HasLogger module e.part := by
    rw [State.HasLogger, logger_setLogger_self, ← hs]
    have hfirst : l = (lib.send lib.emptyContext now e.message (s.logger e.part)).1 := by rw [hsend]
    rw [hfirst]
    exact Prod.ext hsource.1 hsource.2
  have hprint := Leads.print module (s.setLogger e.part l)
    [Json.write (.ofFields ((draftOf module e).completed [] e.fault trace time))]
  rw [network_setLogger] at hprint
  refine ⟨_, ?_, (Leads.setLogger module s e.part fun _ => hl).trans hprint⟩
  simp only [say, Work.result_bind, Work.result_get, hsend, Work.result_modify]
  rfl

theorem result_say_of_error (hlib : lib.IsDocumented) {e : Log.Entry} (he : IsSayable e)
    {s : State lib} (hs : s.HasLogger module e.part) {f : Fault} (ht : now.timestamp = .error f) :
    ∃ l, (say now e).result s = (.error (.raised f), s.setLogger e.part l) := by
  obtain ⟨trace, hrun⟩ := run_draftOf hlib he now module
  rcases hsend : lib.send lib.emptyContext now e.message (s.logger e.part) with ⟨l, printed⟩
  have hprinted := send_eq hlib he hs now
  rw [hsend, hrun, ht] at hprinted
  obtain rfl : printed = _ := hprinted
  refine ⟨l, ?_⟩
  simp only [say, Work.result_bind, Work.result_get, hsend, Work.result_modify]
  rfl

theorem does_sayAll (hlib : lib.IsDocumented) {entries : List Log.Entry} {s : State lib}
    (he : ∀ e ∈ entries, IsSayable e ∧ s.HasLogger module e.part)
    (ht : now.timestamp = .ok time) :
    ∃ lines, List.Forall₂ (Prints lib now module) entries lines ∧
      Does module s (sayAll now entries) (.ok ()) s.network lines [] [] := by
  induction entries generalizing s with
  | nil => exact ⟨[], .nil, does_pure module s ()⟩
  | cons e entries ih =>
    obtain ⟨hsay, hlogger⟩ := he e List.mem_cons_self
    obtain ⟨line, hline, t, hresult, hleads⟩ := does_say hlib hsay hlogger ht
    obtain ⟨lines, hlines, hrest⟩ := ih (s := t) fun other ho =>
      ⟨(he other (List.mem_cons_of_mem _ ho)).1,
        hleads.loggers _ (he other (List.mem_cons_of_mem _ ho)).2⟩
    refine ⟨line :: lines, .cons hline hlines, ?_⟩
    rw [hleads.network] at hrest
    obtain ⟨u, hu, hmore⟩ := hrest
    exact ⟨u, by rw [sayAll, Work.result_bind, hresult]; exact hu, hleads.trans hmore⟩

/-! What is done with the loggers and the network. -/

theorem does_derive (hlib : lib.IsDocumented) {s : State lib} (hs : s.HasLogger module .main)
    {part : Log.Part} (hp : part ≠ .main) :
    ∃ t, (derive part).result s = (.ok (), t) ∧ Leads module s t s.network [] [] [] ∧
      t.HasLogger module part := by
  have hordinary : Log.AreOrdinary [(Log.moduleField, .text part.module)] := by
    intro name hname own hown
    obtain rfl := List.mem_singleton.1 hname
    exact (by decide : ∀ own ∈ Log.ownNames, Log.moduleField ≠ own.toList) own hown
  obtain ⟨hfields, hsetup⟩ := Prod.mk.inj hs
  change lib.fields s.main = _ at hfields
  change lib.setup s.main = _ at hsetup
  obtain ⟨l, hl⟩ := hlib.loggers.bind_ordinary hordinary hsetup
  have hsource := hlib.loggers.bind_source [(Log.moduleField, .text part.module)] s.main
  have hbound := hlib.loggers.bind hl
  rcases hbind : lib.bind [(Log.moduleField, .text part.module)] s.main with ⟨m, derived⟩
  rw [hbind] at hsource hl
  obtain rfl : derived = .ok l := hl
  have hmain : (s.setLogger .main m).HasLogger module .main := by
    rw [State.HasLogger, logger_setLogger_self, ← hs]
    exact Prod.ext hsource.1 hsource.2
  have hpart : ((s.setLogger .main m).setLogger part l).HasLogger module part := by
    rw [State.HasLogger, logger_setLogger_self]
    refine Prod.ext (hbound.1.trans ?_) (hbound.2.trans hsetup)
    rw [hfields]
    cases part with
    | main => exact absurd rfl hp
    | _ => rfl
  refine ⟨(s.setLogger .main m).setLogger part l, ?_,
    (Leads.setLogger module s .main fun _ => hmain).trans
      (Leads.setLogger module _ part fun _ => hpart), hpart⟩
  simp only [derive, Work.result_bind, Work.result_get, hbind, Work.result_modify]
  rfl

def bytesOf : Network.Result → List Bytes
  | .sent bytes => [bytes]
  | _ => []

theorem does_act (hlib : lib.IsDocumented) {s : State lib} {st : Network.Step} {n : Network}
    {o : Network.Outcome} (hst : s.network.step Greeting.routes now serverName st = (n, o))
    (he : ∀ e ∈ o.logs, IsSayable e ∧ s.HasLogger module e.part)
    (ht : now.timestamp = .ok time) :
    ∃ lines, List.Forall₂ (Prints lib now module) o.logs lines ∧
      Does module s (act now st) (.ok o.result) n lines (bytesOf o.result) o.pauses := by
  have hnote : Leads module s (s.note n o) n [] (bytesOf o.result) o.pauses := by
    refine ⟨rfl, fun part hs => ?_, (List.append_nil _).symm, ?_, rfl⟩
    · cases part <;> exact hs
    · change s.sent ++ _ = _
      cases o.result <;> rfl
  obtain ⟨lines, hlines, t, hsaid, hleads⟩ := does_sayAll hlib (s := s.note n o)
    (fun e hmem => ⟨(he e hmem).1, hnote.loggers _ (he e hmem).2⟩) ht
  refine ⟨lines, hlines, t, ?_, ?_⟩
  · simp only [act, Work.result_bind, Work.result_get, hst, Work.result_modify, hsaid]
    rfl
  · have hall := hnote.trans hleads
    rwa [List.nil_append, List.append_nil, List.append_nil] at hall

theorem does_perform (hlib : lib.IsDocumented) {s : State lib} {st : Network.Step} {n : Network}
    {o : Network.Outcome} (hst : s.network.step Greeting.routes now serverName st = (n, o))
    (ho : ∀ fault, o.result ≠ .failed fault)
    (he : ∀ e ∈ o.logs, IsSayable e ∧ s.HasLogger module e.part)
    (ht : now.timestamp = .ok time) :
    ∃ lines, List.Forall₂ (Prints lib now module) o.logs lines ∧
      Does module s (perform now st) (.ok ()) n lines (bytesOf o.result) o.pauses := by
  obtain ⟨lines, hlines, t, hact, hleads⟩ := does_act hlib hst he ht
  refine ⟨lines, hlines, t, ?_, hleads⟩
  rw [perform, Work.result_bind, hact]
  cases hr : o.result <;> first | rfl | exact absurd hr (ho _)

/-! Events. -/

/-- What comes of the connection of an event that is served alone. -/
def Event.alone (now : Instant) : Event → List Record
  | .connection peer source sink => [Connection.serve ⟨Greeting.routes, peer, now⟩ source sink]
  | .refused => []

/-- The server is started, and it has a logger as the main part has. -/
structure IsServing (module : Text) (s : State lib) : Prop where
  started : ∃ server, Ordered.get? s.network.servers serverName = some server ∧
    server.isStarted = true
  main : s.HasLogger module .main
  server : s.HasLogger module .server

theorem IsServing.of_leads {s t : State lib} (h : IsServing module s) {lines : List Text}
    {sent : List Bytes} {pauses : List Nat}
    (hl : Leads module s t s.network lines sent pauses) : IsServing module t where
  started := by
    rw [hl.network]
    exact h.started
  main := hl.loggers _ h.main
  server := hl.loggers _ h.server

theorem IsServing.step {s : State lib} (h : IsServing module s) (now : Instant) :
    (∀ peer source sink,
      let record := Connection.serve ⟨Greeting.routes, peer, now⟩ source sink
      s.network.step Greeting.routes now serverName (.connect peer source sink) =
        (s.network, ⟨.sent record.sent, record.calls, record.pauses, record.logs⟩)) ∧
      s.network.step Greeting.routes now serverName .refuse =
        (s.network, ⟨.refused, [], [], []⟩) := by
  obtain ⟨server, hget, hstarted⟩ := h.started
  constructor
  · intro peer source sink
    simp only [Network.step, hget, Network.stepWith, Network.whileServing, hstarted, if_true]
    rfl
  · simp only [Network.step, hget, Network.stepWith, Network.whileServing, hstarted, if_true]

theorem does_happen (hlib : lib.IsDocumented) {s : State lib} (h : IsServing module s)
    (ht : now.timestamp = .ok time) (event : Event) :
    ∃ lines, List.Forall₂ (Prints lib now module) ((event.alone now).flatMap (·.logs)) lines ∧
      Does module s (happen now event) (.ok ()) s.network lines ((event.alone now).map (·.sent))
        ((event.alone now).flatMap (·.pauses)) := by
  cases event with
  | connection peer source sink =>
    obtain ⟨t, hderived, hleads, hrouter⟩ := does_derive hlib h.main (by simp : Log.Part.router ≠ .main)
    have hserving := h.of_leads hleads
    have hsaid : ∀ e ∈ (Connection.serve ⟨Greeting.routes, peer, now⟩ source sink).logs,
        IsSayable e ∧ t.HasLogger module e.part := by
      intro e hmem
      have herror := Connection.isConnectionError_of_mem_serve hmem
      refine ⟨isSayable_of_isConnectionError herror, ?_⟩
      cases hpart : e.part with
      | main => exact absurd hpart herror.part
      | server => exact hserving.server
      | router => exact hrouter
    obtain ⟨lines, hlines, u, hperformed, hmore⟩ :=
      does_perform hlib ((hserving.step now).1 peer source sink) (by simp) hsaid ht
    rw [hleads.network] at hmore
    refine ⟨lines, by simpa [Event.alone] using hlines, ?_⟩
    have hone : Does module s (serveOne now peer source sink) (.ok ()) s.network lines
        [(Connection.serve ⟨Greeting.routes, peer, now⟩ source sink).sent]
        (Connection.serve ⟨Greeting.routes, peer, now⟩ source sink).pauses := by
      refine ⟨u, ?_, by simpa [bytesOf] using hleads.trans hmore⟩
      rw [serveOne, Work.result_bind, hderived]
      exact hperformed
    have hall := (hone.tryCatch (sayFarewell now peer)).tryCatch fun _ => pure ()
    simpa [Event.alone, happen] using hall
  | refused =>
    obtain ⟨lines, hlines, hdone⟩ := does_perform hlib (h.step now).2 (by simp) (by simp) ht
    exact ⟨lines, hlines, hdone⟩

theorem does_serveForever (hlib : lib.IsDocumented) {s : State lib} (h : IsServing module s)
    (ht : now.timestamp = .ok time) (ending : Fault) (events : List Event) :
    ∃ lines, List.Forall₂ (Prints lib now module)
        (events.flatMap fun event => (event.alone now).flatMap (·.logs)) lines ∧
      Does module s (serveForever now ending events) (.error (.raised ending)) s.network lines
        (events.flatMap fun event => (event.alone now).map (·.sent))
        (events.flatMap fun event => (event.alone now).flatMap (·.pauses)) := by
  induction events generalizing s with
  | nil => exact ⟨[], .nil, does_throw module s _⟩
  | cons event events ih =>
    obtain ⟨lines, hlines, t, hhappened, hleads⟩ := does_happen hlib h ht event
    obtain ⟨more, hmore, u, hserved, hrest⟩ := ih (h.of_leads hleads)
    rw [hleads.network] at hrest
    refine ⟨lines ++ more, ?_, u, ?_, hleads.trans hrest⟩
    · rw [List.flatMap_cons]
      exact List.rel_append hlines hmore
    · rw [serveForever, Work.result_bind, hhappened]
      exact hserved

end Program
end GreetingServer
