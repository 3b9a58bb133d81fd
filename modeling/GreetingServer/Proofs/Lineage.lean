import GreetingServer.Log.Session
import GreetingServer.Proofs.LogCall

/-! Where the fields of a log line come from. The lineage of a logger is what it was got with, and
what was bound and unbound on the way from there. Whatever has been done with other loggers, a line
tells the fields of its logger's lineage, those of the call and those of the context. Above these
stands only what a line says on its own account: the level of the method, the time, and the report
of the fault that the call is about. -/
namespace GreetingServer
namespace Log

/-! Loggers are derived from each other. -/

/-- What makes the fields of a derived logger out of those of another one. -/
inductive Derivation
  | bind (more : Fields)
  | unbind (keys : List Value)

def Derivation.apply : Derivation → Fields → Fields
  | bind more, fields => Ordered.putAll more fields
  | unbind keys, fields => without (namesOf keys) fields

theorem Derivation.nodup_keys_apply {fields : Fields} (h : (Ordered.keys fields).Nodup)
    (d : Derivation) : (Ordered.keys (d.apply fields)).Nodup := by
  cases d with
  | bind more => exact Ordered.nodup_keys_putAll h more
  | unbind keys => exact (List.filter_sublist.map _).nodup h

def Library.content (lib : Library) (l : lib.Logger) : Fields × Setup := (lib.fields l, lib.setup l)

/-- A way to derive a logger from another one leaves the content of that, and changes the fields as
told. -/
structure Library.Derives (lib : Library)
    (derived : lib.Logger → lib.Logger × Except Fault lib.Logger) (d : Derivation) : Prop where
  source : ∀ l, lib.content (derived l).1 = lib.content l
  target : ∀ l other, (derived l).2 = .ok other →
    lib.content other = (d.apply (lib.fields l), lib.setup l)

namespace Library.DerivesLoggers
variable {lib : Library} (h : lib.DerivesLoggers)
include h

theorem derives_bind (fields : Fields) : lib.Derives (lib.bind fields) (.bind fields) where
  source l := Prod.ext (h.bind_source fields l).1 (h.bind_source fields l).2
  target _ _ ho := Prod.ext (h.bind ho).1 (h.bind ho).2

theorem derives_unbind (keys : List Value) : lib.Derives (lib.unbind keys) (.unbind keys) where
  source l := Prod.ext (h.unbind_source keys l).1 (h.unbind_source keys l).2
  target _ _ ho := Prod.ext (h.unbind ho).1 (h.unbind ho).2

theorem derives_tryUnbind (keys : List Value) : lib.Derives (lib.tryUnbind keys) (.unbind keys) where
  source l := Prod.ext (h.tryUnbind_source keys l).1 (h.tryUnbind_source keys l).2
  target _ _ ho := Prod.ext (h.tryUnbind ho).1 (h.tryUnbind ho).2

end Library.DerivesLoggers

/-! Lineages. -/

/-- Where a logger comes from: what a first one was got with, and how others were derived from it,
oldest first. -/
structure Lineage where
  made : Fields
  derivations : List Derivation := []

namespace Lineage

def fields (g : Lineage) : Fields :=
  g.derivations.foldl (fun fields d => d.apply fields) (withoutSettings g.made)

def setup (g : Lineage) : Setup := setupOf g.made

def content (g : Lineage) : Fields × Setup := (g.fields, g.setup)

def extend (g : Lineage) (d : Derivation) : Lineage :=
  { g with derivations := g.derivations ++ [d] }

theorem content_extend (g : Lineage) (d : Derivation) :
    (g.extend d).content = (d.apply g.fields, g.setup) := by
  simp only [content, fields, setup, extend, List.foldl_append, List.foldl_cons, List.foldl_nil]

end Lineage

inductive Origin
  | made (fields : Fields)
  | derived (logger : Text) (d : Derivation)

def Step.gives? : Step → Option (Text × Origin)
  | .get name fields => some (name, .made fields)
  | .bind logger name fields => some (name, .derived logger (.bind fields))
  | .unbind logger name keys => some (name, .derived logger (.unbind keys))
  | .tryUnbind logger name keys => some (name, .derived logger (.unbind keys))
  | _ => none

/-- The step gives the name to a logger. -/
def Step.Names (st : Step) (name : Text) : Prop := ∃ origin, st.gives? = some (name, origin)

/-- The lineage of the logger of a name after some steps, newest first. At the start there is one
logger. -/
def lineage? : List Step → Text → Option Lineage
  | [], name => if name = Session.rootName then some { made := [] } else none
  | st :: earlier, name =>
    match st.gives? with
    | none => lineage? earlier name
    | some (other, origin) =>
      if other = name then
        match origin with
        | .made fields => some { made := fields }
        | .derived logger d => (lineage? earlier logger).map (·.extend d)
      else lineage? earlier name

section
variable {st : Step} {earlier : List Step} {name : Text}

theorem lineage?_made {fields : Fields} (h : st.gives? = some (name, .made fields)) :
    lineage? (st :: earlier) name = some { made := fields } := by
  rw [lineage?, h]
  exact if_pos rfl

theorem lineage?_derived {logger : Text} {d : Derivation}
    (h : st.gives? = some (name, .derived logger d)) :
    lineage? (st :: earlier) name = (lineage? earlier logger).map (·.extend d) := by
  rw [lineage?, h]
  exact if_pos rfl

theorem lineage?_other (h : ¬ st.Names name) :
    lineage? (st :: earlier) name = lineage? earlier name := by
  rw [lineage?]
  split
  · rfl
  · rename_i other origin hst
    have hne : other ≠ name := fun hn => h ⟨origin, hn ▸ hst⟩
    exact if_neg hne

end

theorem lineage?_append {later earlier : List Step} {name : Text}
    (h : ∀ st ∈ later, ¬ st.Names name) :
    lineage? (later ++ earlier) name = lineage? earlier name := by
  induction later with
  | nil => rfl
  | cons st later ih =>
    rw [List.cons_append, lineage?_other (h st (by simp))]
    exact ih fun other ho => h other (by simp [ho])

/-- The fields that a logger is got with have different names. -/
def Step.GetsDistinct : Step → Prop
  | .get _ fields => (Ordered.keys fields).Nodup
  | _ => True

/-- What holds of no fields and of those that loggers are got with, and still does after what is
bound and unbound, holds of the fields of all loggers. -/
theorem lineage?_induction {P : Fields → Prop} {steps : List Step} (hnil : P [])
    (hmade : ∀ name fields, .get name fields ∈ steps → P (withoutSettings fields))
    (hderived : ∀ st ∈ steps, ∀ name logger d, st.gives? = some (name, .derived logger d) →
      ∀ fields, P fields → P (d.apply fields))
    {name : Text} {g : Lineage} (hg : lineage? steps name = some g) : P g.fields := by
  -- The lineage of a derived logger continues that of another name, so the name is any.
  induction steps generalizing name g with
  | nil =>
    rw [lineage?] at hg
    split at hg
    · rw [← Option.some.inj hg]
      exact hnil
    · cases hg
  | cons st earlier ih =>
    have hearlier {name : Text} {g : Lineage} (hg : lineage? earlier name = some g) : P g.fields :=
      ih (fun name fields hmem => hmade name fields (List.mem_cons_of_mem _ hmem))
        (fun other ho => hderived other (List.mem_cons_of_mem _ ho)) hg
    by_cases hst : st.Names name
    · obtain ⟨origin, hst⟩ := hst
      cases origin with
      | made fields =>
        rw [lineage?_made hst] at hg
        rw [← Option.some.inj hg]
        cases st with
        | get other more =>
          obtain ⟨rfl, hmore⟩ := Prod.mk.inj (Option.some.inj hst)
          obtain rfl := Origin.made.inj hmore
          exact hmade other more List.mem_cons_self
        | _ => cases hst
      | derived logger d =>
        rw [lineage?_derived hst] at hg
        obtain ⟨source, hsource, rfl⟩ := Option.map_eq_some_iff.1 hg
        rw [(Prod.mk.inj (source.content_extend d)).1]
        exact hderived st List.mem_cons_self _ _ _ hst _ (hearlier hsource)
    · rw [lineage?_other hst] at hg
      exact hearlier hg

theorem nodup_keys_of_lineage? {steps : List Step} (h : ∀ st ∈ steps, st.GetsDistinct) {name : Text}
    {g : Lineage} (hg : lineage? steps name = some g) : (Ordered.keys g.fields).Nodup :=
  lineage?_induction (P := fun fields => (Ordered.keys fields).Nodup) List.nodup_nil
    (fun _ fields hmem =>
      (List.filter_sublist.map _).nodup (show (Ordered.keys fields).Nodup from h _ hmem))
    (fun _ _ _ _ d _ _ hfields => d.nodup_keys_apply hfields) hg

/-! The context. -/

/-- The variables of the context after a step, in the order in which they were set. -/
def Step.contextAfter (context : Fields) : Step → Fields
  | .bindContext fields => Ordered.putAll fields context
  | .unbindContext names => without names context
  | .clearContext => []
  | _ => context

/-- The variables of the context after some steps. At the start there are none. -/
def contextAfter (steps : List Step) : Fields :=
  steps.foldl (fun context st => st.contextAfter context) []

/-! Sessions. -/

namespace Session
variable {lib : Library}

def after (s : Session lib) (steps : List Step) : Session lib :=
  steps.foldl (fun s st => (s.step st).1) s

theorem getElem?_run (s : Session lib) (before : List Step) (st : Step) (rest : List Step) :
    (s.run (before ++ st :: rest))[before.length]? = some ((s.after before).step st).2 := by
  induction before generalizing s with
  | nil => rfl
  | cons first before ih => exact ih (s.step first).1

/-- A step comes in front of the earlier ones, newest first, unless it fails. -/
def record (st : Step) (earlier : List Step) : Except Fault (List Text) → List Step
  | .ok _ => st :: earlier
  | .error _ => earlier

/-- The steps that do not fail, newest first, in front of the earlier ones. -/
def trail (s : Session lib) (earlier : List Step) : List Step → List Step
  | [] => earlier
  | st :: steps => (s.step st).1.trail (record st earlier (s.step st).2) steps

theorem trail_append (s : Session lib) (earlier early late : List Step) :
    s.trail earlier (early ++ late) = (s.after early).trail (s.trail earlier early) late := by
  induction early generalizing s earlier with
  | nil => rfl
  | cons st early ih => exact ih (s.step st).1 _

theorem exists_trail_eq_append (s : Session lib) (earlier steps : List Step) :
    ∃ later, (∀ st ∈ later, st ∈ steps) ∧ s.trail earlier steps = later ++ earlier := by
  induction steps generalizing s earlier with
  | nil => exact ⟨[], by simp, rfl⟩
  | cons st steps ih =>
    obtain ⟨later, hlater, htrail⟩ := ih (s.step st).1 (record st earlier (s.step st).2)
    rw [trail, htrail]
    cases (s.step st).2 with
    | ok _ =>
      refine ⟨later ++ [st], fun other ho => ?_, List.append_cons ..⟩
      rcases List.mem_append.1 ho with ho | ho
      · exact List.mem_cons_of_mem _ (hlater other ho)
      · exact List.mem_cons.2 (Or.inl (List.mem_singleton.1 ho))
    | error _ => exact ⟨later, fun other ho => List.mem_cons_of_mem _ (hlater other ho), rfl⟩

theorem find_ok {s : Session lib} {method name : Text} {l : lib.Logger} (h : s.find method name = .ok l) :
    Ordered.get? s.loggers name = some l := by
  unfold find at h
  split at h
  · rename_i found hfound
    rw [hfound, Except.ok.inj h]
  · cases h

theorem context_settle (s : Session lib) (name : Text) (made : Except Fault lib.Logger) :
    (s.settle name made).1.context = s.context := by
  cases made <;> rfl

theorem context_derive (s : Session lib) (method : String) (logger name : Text)
    (derived : lib.Logger → lib.Logger × Except Fault lib.Logger) :
    (s.derive method logger name derived).1.context = s.context := by
  unfold derive
  split
  · rfl
  · exact context_settle _ name _

theorem context_send (s : Session lib) (logger : Text) (m : Message) :
    (s.send logger m).1.context = s.context := by
  unfold send
  split <;> rfl

/-- A step leaves the variables that it should, in whatever order. -/
theorem perm_context_step (hlib : lib.HoldsContext) {s : Session lib} {context : Fields}
    (h : (lib.contextFields s.context).Perm context) (st : Step) :
    (lib.contextFields (s.step st).1.context).Perm (st.contextAfter context) := by
  cases st with
  | get name fields => exact (context_settle s name _).symm ▸ h
  | bind logger name fields => exact (context_derive s _ logger name _).symm ▸ h
  | unbind logger name keys => exact (context_derive s _ logger name _).symm ▸ h
  | tryUnbind logger name keys => exact (context_derive s _ logger name _).symm ▸ h
  | bindContext fields =>
    exact (hlib.bind fields s.context).trans (Ordered.putAll_perm (hlib.distinct s.context) h fields)
  | unbindContext names => exact (hlib.unbind names s.context).trans (h.filter _)
  | clearContext => exact List.Perm.of_eq (hlib.clear s.context)
  | setTime now => exact h
  | log logger m => exact (context_send s logger m).symm ▸ h

theorem perm_context_after (hlib : lib.HoldsContext) (now : Instant) (steps : List Step) :
    (lib.contextFields ((start lib now).after steps).context).Perm (contextAfter steps) := by
  have hstart : (lib.contextFields (start lib now).context).Perm [] := by
    rw [start, context_settle]
    exact List.Perm.of_eq hlib.empty
  have hall (steps : List Step) {s : Session lib} {context : Fields}
      (h : (lib.contextFields s.context).Perm context) :
      (lib.contextFields (s.after steps).context).Perm
        (steps.foldl (fun context st => st.contextAfter context) context) := by
    induction steps generalizing s context with
    | nil => exact h
    | cons st steps ih => exact ih (perm_context_step hlib h st)
  exact hall steps hstart

/-- The loggers of a session have the content that their lineages tell. -/
def IsTraced (s : Session lib) (earlier : List Step) : Prop :=
  ∀ name, (Ordered.get? s.loggers name).map lib.content =
    (lineage? earlier name).map Lineage.content

theorem isTraced_start (hlib : lib.DerivesLoggers) (now : Instant) :
    (start lib now).IsTraced [] := by
  have hnone : AreOrdinary [] := by
    intro name hname
    cases hname
  obtain ⟨l, hl⟩ := hlib.get_ordinary hnone
  intro name
  rw [start, hl]
  change (Ordered.get? (Ordered.put rootName l []) name).map lib.content = _
  by_cases hn : name = rootName
  · subst hn
    rw [lineage?, if_pos rfl]
    exact congrArg some (Prod.ext (hlib.get hl).1 (hlib.get hl).2)
  · rw [lineage?, if_neg hn, Ordered.get?_put_other hn]
    rfl

section
variable {s : Session lib} {earlier : List Step} (h : s.IsTraced earlier)
include h

theorem IsTraced.exists_lineage {name : Text} {l : lib.Logger}
    (hl : Ordered.get? s.loggers name = some l) :
    ∃ g, lineage? earlier name = some g ∧ g.content = lib.content l := by
  have hname := h name
  rw [hl] at hname
  exact Option.map_eq_some_iff.1 hname.symm

/-- A logger that is used keeps its content, and so it stays as its lineage tells. -/
theorem IsTraced.reassign {name : Text} {l other : lib.Logger}
    (hl : Ordered.get? s.loggers name = some l) (ho : lib.content other = lib.content l) :
    (s.assign name other).IsTraced earlier := by
  intro third
  by_cases hn : third = name
  · subst hn
    rw [← h third, hl, assign, Ordered.get?_put_self, Option.map_some, ho, Option.map_some]
  · rw [← h third, assign, Ordered.get?_put_other hn]

theorem IsTraced.settle {st : Step} {name : Text} {origin : Origin}
    (hst : st.gives? = some (name, origin)) {made : Except Fault lib.Logger}
    (hm : ∀ l, made = .ok l →
      ∃ g, lineage? (st :: earlier) name = some g ∧ lib.content l = g.content) :
    (s.settle name made).1.IsTraced (record st earlier (s.settle name made).2) := by
  cases made with
  | error f => exact h
  | ok l =>
    obtain ⟨g, hg, hcontent⟩ := hm l rfl
    intro other
    change (Ordered.get? (Ordered.put name l s.loggers) other).map lib.content = _
    by_cases hn : other = name
    · subst hn
      rw [Ordered.get?_put_self]
      change some (lib.content l) = (lineage? (st :: earlier) other).map Lineage.content
      rw [hg, hcontent]
      rfl
    · have hother : ¬ st.Names other := by
        rintro ⟨_, hnames⟩
        rw [hst] at hnames
        exact hn (Prod.mk.inj (Option.some.inj hnames)).1.symm
      rw [Ordered.get?_put_other hn]
      exact (h other).trans (congrArg _ (lineage?_other hother).symm)

theorem IsTraced.skip {st : Step} (hst : st.gives? = none) (outcome : Except Fault (List Text)) :
    s.IsTraced (record st earlier outcome) := by
  cases outcome with
  | error _ => exact h
  | ok _ =>
    intro name
    rw [record, lineage?_other, h name]
    rintro ⟨_, hnames⟩
    rw [hst] at hnames
    cases hnames

theorem IsTraced.derive {st : Step} {logger name : Text} {d : Derivation}
    (hst : st.gives? = some (name, .derived logger d))
    {derived : lib.Logger → lib.Logger × Except Fault lib.Logger} (hd : lib.Derives derived d)
    (method : String) :
    (s.derive method logger name derived).1.IsTraced
      (record st earlier (s.derive method logger name derived).2) := by
  unfold Session.derive
  split
  · exact h
  · rename_i l hfound
    have hl := find_ok hfound
    -- The source may be assembled by that, and then keeps its name.
    refine (h.reassign hl (hd.source l)).settle hst fun other hother => ?_
    obtain ⟨g, hg, hcontent⟩ := h.exists_lineage hl
    refine ⟨g.extend d, by rw [lineage?_derived hst, hg]; rfl, ?_⟩
    obtain ⟨hfields, hsetup⟩ := Prod.mk.inj hcontent
    rw [hd.target l other hother, Lineage.content_extend, hfields, hsetup]

/-- A step leaves every logger with the content that its lineage tells, whether it fails or not. -/
theorem IsTraced.step (hlib : lib.IsDocumented) (st : Step) :
    (s.step st).1.IsTraced (record st earlier (s.step st).2) := by
  cases st with
  | get name fields =>
    exact h.settle rfl fun l hl =>
      ⟨_, lineage?_made rfl, Prod.ext (hlib.loggers.get hl).1 (hlib.loggers.get hl).2⟩
  | bind logger name fields => exact h.derive rfl (hlib.loggers.derives_bind fields) _
  | unbind logger name keys => exact h.derive rfl (hlib.loggers.derives_unbind keys) _
  | tryUnbind logger name keys => exact h.derive rfl (hlib.loggers.derives_tryUnbind keys) _
  | bindContext fields => exact h.skip rfl _
  | unbindContext keys => exact h.skip rfl _
  | clearContext => exact h.skip rfl _
  | setTime now => exact h.skip rfl _
  | log logger m =>
    unfold Session.step Session.send
    dsimp only
    split
    · exact h
    · rename_i l hl
      have hsource := hlib.entries.source lib.pipeline ⟨s.context, m.handled, s.now⟩ m l
      exact (h.reassign (find_ok hl) (Prod.ext hsource.1 hsource.2)).skip rfl _

theorem IsTraced.after (hlib : lib.IsDocumented) (steps : List Step) :
    (s.after steps).IsTraced (s.trail earlier steps) := by
  induction steps generalizing s earlier with
  | nil => exact h
  | cons st steps ih => exact ih (h.step hlib st)

end

theorem mem_of_mem_trail {s : Session lib} {steps : List Step} {st : Step}
    (h : st ∈ s.trail [] steps) : st ∈ steps := by
  obtain ⟨later, hlater, htrail⟩ := s.exists_trail_eq_append [] steps
  rw [htrail, List.append_nil] at h
  exact hlater st h

theorem exists_logger_of_send {s : Session lib} {name : Text} {m : Message} {lines : List Text}
    (h : (s.send name m).2 = .ok lines) :
    ∃ l, Ordered.get? s.loggers name = some l ∧ (lib.send s.context s.now m l).2 = .ok lines := by
  unfold Session.send at h
  split at h
  · cases h
  · rename_i l hl
    exact ⟨l, find_ok hl, h⟩

end Session
end Log
end GreetingServer
