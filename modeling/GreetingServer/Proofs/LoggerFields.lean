import GreetingServer.Proofs.Lineage
import GreetingServer.Proofs.Splitting
import GreetingServer.Proofs.StandardLog

/-! What a line tells of its logger. Whatever is done with loggers before, and whatever fields are
bound, passed or set, the line of a call has the fields of its logger's lineage and no others of any
logger. None of them stands in for what the line says on its own account. -/
namespace GreetingServer
namespace Log

/-- What is printed where there are no processors: the text of the only field, which is one for the
message. -/
structure Call.IsLoose (c : Call) (event : Value) (bound : Fields) (lines : List Text) : Prop where
  event : event = .null
  names : ∀ name, name ∈ Ordered.keys bound ∨ name ∈ Ordered.keys c.given → name = messageField
  lines : ∃ value text,
    (Ordered.get? c.given messageField).or (Ordered.get? bound messageField) = some value ∧
      value.displayed = .ok (CodePoint.ofText text) ∧ lines = Text.splitBy (· = '\n') text

namespace Call
variable {c : Call} {m : Message} {event : Value} {bound : Fields}

theorem mem_keys_passed {name : Text} (h : name ∈ Ordered.keys c.given) (namesHandled : Bool) :
    name ∈ Ordered.keys (c.passed namesHandled) :=
  passed_induction (P := fun fields => name ∈ Ordered.keys fields) h
    (fun _ _ hf => Ordered.mem_keys_put.2 (Or.inr hf))
    (fun _ _ hf => Ordered.mem_keys_putNew hf) namesHandled

theorem isLoose_of_draft {lines : List Text} (h : (c.draft m event bound).IsLoose lines)
    (hg : (Ordered.keys c.given).Nodup) : c.IsLoose event bound lines := by
  have hmem {name : Text} (hname : name ∈ Ordered.keys (saidFields event) ∨
      name ∈ Ordered.keys (c.passed m.namesHandled) ∨ name ∈ Ordered.keys bound) :
      name = messageField := by
    refine h.names name ?_
    rwa [fields_draft, Ordered.mem_keys_putAll, Ordered.mem_keys_putAll]
  have hevent : event = .null := by
    by_contra hne
    have hfield : eventField ∈ Ordered.keys (saidFields event) := by
      rw [saidFields_of_ne_null hne]
      exact List.mem_singleton_self _
    exact absurd (hmem (Or.inl hfield)) (by decide)
  obtain ⟨value, text, hvalue, hlines⟩ := h.lines
  refine ⟨hevent, fun name hname => ?_, value, text, ?_, hlines⟩
  · rcases hname with hbound | hgiven
    · exact hmem (Or.inr (Or.inr hbound))
    · exact hmem (Or.inr (Or.inl (mem_keys_passed hgiven _)))
  · rw [← hvalue, get?_draft m event hg, get?_saidFields_other fun _ => hevent,
      get?_passed_other _ (by decide)]
    rfl

end Call

/-- The lines of a call through a logger of a lineage: none if the call asks for no entry, the text
of the only field if the logger was got without processors, and else one object, which tells the
fields of the lineage, the call and the variables of the context, those in some order. -/
def TellsLineage (now : Instant) (known : Fields) (g : Lineage) (m : Message)
    (lines : List Text) : Prop :=
  match m.call? with
  | none => lines = []
  | some c => ∃ event, Message.said c.event c.values = .ok event ∧
      if g.setup.printsFields then c.IsLoose event g.fields lines
      else ∃ context trace time printed, context.Perm known ∧ now.timestamp = .ok time ∧
        lines = [Json.write (.ofFields printed)] ∧
        (c.parts m event g.fields context trace time).IsTold printed

theorem Library.exists_line {lib : Library} (hlib : lib.ProcessesDrafts)
    {around : Surroundings lib.Context} {d : Draft} {level : Level} (hd : d.method = level.name)
    {line : Text} (h : lib.pipeline.run around d = .ok line) :
    ∃ context trace time, context.Perm (lib.contextFields around.context) ∧
      around.now.timestamp = .ok time ∧
      line = Json.write (.ofFields (d.completed context around.handled trace time)) := by
  obtain ⟨context, trace, hperm, hrun⟩ := lib.run_pipeline hlib around hd
  rw [hrun] at h
  cases htime : around.now.timestamp with
  | error f =>
    rw [htime] at h
    cases h
  | ok time =>
    rw [htime] at h
    exact ⟨context, trace, time, hperm, rfl, Json.eq_write_of_dump h⟩

theorem tellsLineage_of_send {lib : Library} (hlib : lib.IsDocumented) {context : lib.Context}
    {now : Instant} {m : Message} {l : lib.Logger} {lines : List Text}
    (h : (lib.send context now m l).2 = .ok lines) {g : Lineage}
    (hcontent : g.content = lib.content l) (hg : (Ordered.keys g.fields).Nodup)
    (hf : (Ordered.keys m.fields).Nodup) {known : Fields}
    (hv : (lib.contextFields context).Perm known) : TellsLineage now known g m lines := by
  obtain ⟨hfields, hsetup⟩ := Prod.mk.inj hcontent
  unfold TellsLineage
  cases hc : m.call? with
  | none => exact hlib.entries.silent hc h
  | some c =>
    have hgiven : (Ordered.keys c.given).Nodup := ((Message.given_sublist hc).map _).nodup hf
    obtain ⟨event, hsaid, hlines⟩ := hlib.entries.entry hc h
    rw [← hfields, ← hsetup] at hlines
    refine ⟨event, hsaid, ?_⟩
    split at hlines
    · rename_i hp
      rw [if_pos hp]
      exact Call.isLoose_of_draft hlines hgiven
    · rename_i hp
      rw [if_neg hp]
      obtain ⟨line, hline, rfl⟩ := hlines
      obtain ⟨order, trace, time, hperm, htime, rfl⟩ :=
        lib.exists_line hlib.processors (rfl : _ = c.level.name) hline
      exact ⟨order, trace, time, _, hperm.trans hv, htime, rfl,
        c.isTold_completed m event hg hgiven order trace time⟩

namespace Session
variable {lib : Library}

theorem exists_lineage_of_run (hlib : lib.IsDocumented) {now : Instant} {before rest : List Step}
    {name : Text} {m : Message} {lines : List Text} (hb : ∀ st ∈ before, st.GetsDistinct)
    (hf : (Ordered.keys m.fields).Nodup)
    (h : ((start lib now).run (before ++ .log name m :: rest))[before.length]? = some (.ok lines)) :
    ∃ g, lineage? ((start lib now).trail [] before) name = some g ∧
      TellsLineage ((start lib now).after before).now (contextAfter before) g m lines := by
  rw [getElem?_run] at h
  obtain ⟨l, hget, hsend⟩ := exists_logger_of_send (Option.some.inj h)
  obtain ⟨g, hg, hcontent⟩ :=
    ((isTraced_start hlib.loggers now).after hlib before).exists_lineage hget
  have hkeys : (Ordered.keys g.fields).Nodup :=
    nodup_keys_of_lineage? (fun st hst => hb st (mem_of_mem_trail hst)) hg
  exact ⟨g, hg,
    tellsLineage_of_send hlib hsend hcontent hkeys hf (perm_context_after hlib.context now before)⟩

/-- The level, the time and the user are bound, passed and set, each of them more than once. -/
def contestedSteps : List Step :=
  [.get "shop".toList [("level".toList, .text "debug".toList), ("user".toList, .int 1)],
    .bindContext [("user".toList, .int 2), ("timestamp".toList, .text "never".toList)],
    .bind "shop".toList "cart".toList [("exception".toList, .null), ("timestamp".toList, .int 0)],
    .unbind "shop".toList "shop".toList [.text "user".toList]]

def contestedCall : Message where
  method := "exception".toList
  event := .text "lost".toList
  fields := [("user".toList, .int 3), ("level".toList, .null)]
  handled := some Fault.interrupted

end Session
end Log
end GreetingServer
