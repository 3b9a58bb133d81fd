import GreetingServer.Log.Documentation
import GreetingServer.Proofs.OrderedMap

/-! The fields of a log line. What ends up in a line is told here by the order of the names and the
value of each name, and not by what is put one after the other. Only the documentation of the logging
library says what is put there. -/
namespace GreetingServer
namespace Log

structure LineParts where
  bound : Fields
  given : Fields
  event : Value
  context : Fields
  level : Level
  about : Option Fault
  trace : Fault.Trace
  time : Text

def saidFields : Value → Fields
  | .null => []
  | event => [(eventField, event)]

theorem saidFields_of_ne_null {event : Value} (h : event ≠ .null) :
    saidFields event = [(eventField, event)] := by
  unfold saidFields
  split
  · exact absurd rfl h
  · rfl

theorem get?_saidFields_other {event : Value} {name : Text} (h : name = eventField → event = .null) :
    Ordered.get? (saidFields event) name = none := by
  by_cases hn : event = .null
  · rw [hn]
    rfl
  · rw [saidFields_of_ne_null hn, Ordered.get?_cons, if_neg fun hname => hn (h hname.symm)]
    rfl

theorem nodup_keys_saidFields (event : Value) : (Ordered.keys (saidFields event)).Nodup := by
  unfold saidFields
  split
  · exact List.nodup_nil
  · exact List.pairwise_singleton ..

namespace LineParts

/-- The names of the fields in order: each stands where it comes first, the wish for a report nowhere.
-/
def order (p : LineParts) : List Text :=
  let names := Ordered.keys p.bound ++ Ordered.keys p.given ++ [eventField] ++
    Ordered.keys p.context ++ [levelField]
  let reported := if p.about.isSome then [reportField] else []
  ((names.filter fun name => name ≠ faultField) ++ reported ++ [timeField]).eraseDups

/-- The value of a field. Of two parts that tell it the later one counts, but the context only tells
what nothing else does. -/
def value? (p : LineParts) (name : Text) : Option Value :=
  if name = timeField then some (.text p.time)
  else if name = reportField ∧ p.about.isSome then
    p.about.map fun f => .ofPoints (f.report p.trace)
  else if name = faultField then none
  else if name = levelField then some (.text p.level.name)
  else if name = eventField then some p.event
  else (Ordered.get? p.given name).or
    ((Ordered.get? p.bound name).or (Ordered.get? p.context name))

def fields (p : LineParts) : Fields := Ordered.tabulate p.value? p.order

/-- What the fields of a line tell when the event may be null, which is no field then. -/
structure IsTold (p : LineParts) (printed : Fields) : Prop where
  level : Ordered.get? printed levelField = some (.text p.level.name)
  time : Ordered.get? printed timeField = some (.text p.time)
  wish : Ordered.get? printed faultField = none
  report : ∀ f, p.about = some f →
    Ordered.get? printed reportField = some (.ofPoints (f.report p.trace))
  event : p.event ≠ .null → Ordered.get? printed eventField = some p.event
  others : ∀ name, name ≠ levelField → name ≠ timeField → name ≠ faultField →
    (name = reportField → p.about = none) → (name = eventField → p.event = .null) →
      Ordered.get? printed name = (Ordered.get? p.given name).or
        ((Ordered.get? p.bound name).or (Ordered.get? p.context name))
  order : Ordered.keys printed =
    ((Ordered.keys p.bound ++ Ordered.keys p.given ++ Ordered.keys (saidFields p.event) ++
        Ordered.keys p.context ++ [levelField]).filter (fun name => name ≠ faultField) ++
      (if p.about.isSome then [reportField] else []) ++ [timeField]).eraseDups

theorem IsTold.eq_fields {p : LineParts} {printed : Fields} (h : p.IsTold printed)
    (he : p.event ≠ .null) : printed = p.fields := by
  have horder : Ordered.keys printed = p.order := by
    rw [h.order, saidFields_of_ne_null he]
    rfl
  have hvalues : Ordered.get? printed = p.value? := by
    funext name
    unfold value?
    split_ifs with htime hreport hfault hlevel hevent
    · rw [htime, h.time]
    · obtain ⟨f, hf⟩ := Option.isSome_iff_exists.1 hreport.2
      rw [hreport.1, h.report f hf, hf]
      rfl
    · rw [hfault, h.wish]
    · rw [hlevel, h.level]
    · rw [hevent, h.event he]
    · exact h.others name hlevel htime hfault
        (fun hn => Option.not_isSome_iff_eq_none.1 fun hs => hreport ⟨hn, hs⟩)
        fun hn => absurd hn hevent
  have hnodup : (Ordered.keys printed).Nodup := by
    rw [horder]
    exact Ordered.nodup_eraseDups _
  rw [Ordered.eq_tabulate hnodup, horder, hvalues]
  rfl

end LineParts

/-! What the context adds. -/

theorem get?_addContext (context fields : Fields) (name : Text) :
    Ordered.get? (addContext context fields) name =
      (Ordered.get? fields name).or (Ordered.get? context name) := by
  induction context generalizing fields with
  | nil => simp [addContext]
  | cons entry context ih =>
    obtain ⟨key, value⟩ := entry
    have hnew : addContext ((key, value) :: context) fields =
        addContext context (Ordered.putNew key value fields) := rfl
    rw [hnew, ih, Ordered.get?_putNew, Ordered.get?_cons]
    split
    · cases Ordered.get? fields name <;> rfl
    · cases Ordered.get? fields name <;> rfl

theorem order_addContext {fields : Fields} {order : List Text}
    (h : Ordered.keys fields = order.eraseDups) (context : Fields) :
    Ordered.keys (addContext context fields) = (order ++ Ordered.keys context).eraseDups := by
  induction context generalizing fields order with
  | nil => simpa [Ordered.keys, addContext] using h
  | cons entry context ih =>
    obtain ⟨key, value⟩ := entry
    have hnew : addContext ((key, value) :: context) fields =
        addContext context (Ordered.putNew key value fields) := rfl
    rw [hnew, ih (Ordered.order_putNew h key value)]
    simp [Ordered.keys]

/-! What the processors make of a draft. -/

namespace Draft
variable {d : Draft} {context : Fields} {handled : Option Fault} {trace : Fault.Trace}

def leveled (d : Draft) (context : Fields) : Draft :=
  { d with fields := Ordered.put levelField (.text d.method) (addContext context d.fields) }

def completed (d : Draft) (context : Fields) (handled : Option Fault) (trace : Fault.Trace)
    (time : Text) : Fields :=
  Ordered.put timeField (.text time) ((d.leveled context).formatted handled trace).fields

theorem get?_leveled_other (context : Fields) {name : Text} (h : name ≠ levelField) :
    Ordered.get? (d.leveled context).fields name =
      (Ordered.get? d.fields name).or (Ordered.get? context name) := by
  rw [leveled, Ordered.get?_put_other h, get?_addContext]

/-- The fault of the line: that which the draft names, or the one being dealt with if that is wished
for by the draft or the context. -/
theorem about_leveled (context : Fields) (handled : Option Fault) :
    (d.leveled context).about handled =
      match (Ordered.get? d.fields faultField).or (Ordered.get? context faultField) with
      | none => none
      | some v => if d.fault.isSome then d.fault else if v.isTruthy then handled else none := by
  rw [about, get?_leveled_other context (by decide)]
  rfl

theorem order_formatted {order : List Text} (h : Ordered.keys d.fields = order.eraseDups)
    (handled : Option Fault) (trace : Fault.Trace) :
    Ordered.keys (d.formatted handled trace).fields =
      (order.filter (fun name => name ≠ faultField) ++
        if (d.about handled).isSome then [reportField] else []).eraseDups := by
  have herased := Ordered.order_erase h faultField
  unfold formatted
  cases d.about handled with
  | none => simpa using herased
  | some f => exact Ordered.order_put herased ..

theorem get?_formatted_other {name : Text} (hfault : name ≠ faultField)
    (hreport : name = reportField → d.about handled = none) :
    Ordered.get? (d.formatted handled trace).fields name = Ordered.get? d.fields name := by
  unfold formatted
  cases ha : d.about handled with
  | none => exact Ordered.get?_erase_other hfault _
  | some f =>
    have hne : name ≠ reportField := fun hn => by simp [hreport hn] at ha
    exact (Ordered.get?_put_other hne ..).trans (Ordered.get?_erase_other hfault _)

theorem get?_formatted_fault : Ordered.get? (d.formatted handled trace).fields faultField = none := by
  have hreport : faultField ≠ reportField := by decide
  unfold formatted
  cases d.about handled with
  | none => exact Ordered.get?_erase_self ..
  | some f => exact (Ordered.get?_put_other hreport ..).trans (Ordered.get?_erase_self ..)

/-- What a line does not tell on its own account its draft tells, or the context. -/
theorem get?_completed_other {name : Text} (hlevel : name ≠ levelField) (htime : name ≠ timeField)
    (hfault : name ≠ faultField)
    (hreport : name = reportField → (d.leveled context).about handled = none) (time : Text) :
    Ordered.get? (d.completed context handled trace time) name =
      (Ordered.get? d.fields name).or (Ordered.get? context name) := by
  rw [completed, Ordered.get?_put_other htime, get?_formatted_other hfault hreport,
    get?_leveled_other context hlevel]

theorem get?_completed_level (time : Text) :
    Ordered.get? (d.completed context handled trace time) levelField = some (.text d.method) := by
  have htime : levelField ≠ timeField := by decide
  have hreport : levelField ≠ reportField := by decide
  rw [completed, Ordered.get?_put_other htime,
    get?_formatted_other (by decide) fun hn => absurd hn hreport, leveled]
  exact Ordered.get?_put_self ..

theorem get?_completed_fault (time : Text) :
    Ordered.get? (d.completed context handled trace time) faultField = none := by
  have htime : faultField ≠ timeField := by decide
  rw [completed, Ordered.get?_put_other htime, get?_formatted_fault]

theorem get?_completed_report {f : Fault} (h : (d.leveled context).about handled = some f)
    (time : Text) :
    Ordered.get? (d.completed context handled trace time) reportField =
      some (.ofPoints (f.report trace)) := by
  have htime : reportField ≠ timeField := by decide
  rw [completed, Ordered.get?_put_other htime, formatted, h]
  exact Ordered.get?_put_self ..

theorem order_completed {order : List Text} (h : Ordered.keys d.fields = order.eraseDups)
    (context : Fields) (handled : Option Fault) (trace : Fault.Trace) (time : Text) :
    Ordered.keys (d.completed context handled trace time) =
      ((order ++ Ordered.keys context ++ [levelField]).filter (fun name => name ≠ faultField) ++
        (if ((d.leveled context).about handled).isSome then [reportField] else []) ++
          [timeField]).eraseDups := by
  have hlevel := Ordered.order_put (order_addContext h context) levelField (.text d.method)
  exact Ordered.order_put (order_formatted hlevel handled trace) ..

end Draft

/-- The line of a draft whose method is named like its level has fields as they are told, with the
variables of the context in some order. -/
theorem Library.run_pipeline {lib : Library} (hlib : lib.ProcessesDrafts)
    (around : Surroundings lib.Context) {d : Draft} {level : Level} (hd : d.method = level.name) :
    ∃ context trace, context.Perm (lib.contextFields around.context) ∧
      lib.pipeline.run around d =
        match around.now.timestamp with
        | .error f => .error f
        | .ok time => Json.dump (.ofFields (d.completed context around.handled trace time)) := by
  obtain ⟨context, hperm, hcontext⟩ := hlib.mergeContext around d
  have hlevel : levelOfMethod d.method = d.method := by
    rw [hd]
    cases level <;> rfl
  have hmethod : d.method ≠ "exception".toList := by
    rw [hd]
    cases level <;> decide
  obtain ⟨trace, htrace⟩ := hlib.formatFault around (d.leveled context)
  refine ⟨context, trace, hperm, ?_⟩
  unfold Draft.leveled at htrace
  simp only [pipeline, Pipeline.run, processAll, hcontext, hlib.addLevel, hlevel, hlib.setFault,
    if_neg hmethod, htrace, hlib.stampTime]
  cases around.now.timestamp with
  | error f => rfl
  | ok time => exact hlib.renderJson around _

namespace Call

/-- The fault that the entry of a call is about: the one that the call names, or the one being dealt
with if that is wished for. A field of the call has the first say in that, then the method, a field
of the logger, and the context. -/
def about (c : Call) (m : Message) (bound context : Fields) : Option Fault :=
  if m.namesHandled then m.handled
  else
    let wish := (Ordered.get? c.given faultField).or
      ((if c.aboutHandled then some (.bool true) else none).or
        ((Ordered.get? bound faultField).or (Ordered.get? context faultField)))
    if wish.any Value.isTruthy then m.handled else none

def parts (c : Call) (m : Message) (event : Value) (bound context : Fields) (trace : Fault.Trace)
    (time : Text) : LineParts where
  bound
  given := c.given
  event
  context
  level := c.level
  about := c.about m bound context
  trace
  time

variable {c : Call}

theorem passed_induction {P : Fields → Prop} (hgiven : P c.given)
    (hput : ∀ value fields, P fields → P (Ordered.put faultField value fields))
    (hnew : ∀ value fields, P fields → P (Ordered.putNew faultField value fields))
    (namesHandled : Bool) : P (c.passed namesHandled) := by
  have hnamed : P (c.named namesHandled) := by
    cases namesHandled with
    | false => exact hgiven
    | true => exact hput _ _ hgiven
  unfold passed
  split
  · exact hnew _ _ hnamed
  · exact hnamed

theorem get?_passed_other (namesHandled : Bool) {name : Text} (h : name ≠ faultField) :
    Ordered.get? (c.passed namesHandled) name = Ordered.get? c.given name := by
  refine passed_induction (P := fun fields => Ordered.get? fields name = Ordered.get? c.given name)
    rfl (fun value fields hf => ?_) (fun value fields hf => ?_) namesHandled
  · rw [Ordered.get?_put_other h, hf]
  · rw [Ordered.get?_putNew, if_neg (Ne.symm h), hf]
    simp

theorem filter_keys_passed (namesHandled : Bool) :
    (Ordered.keys (c.passed namesHandled)).filter (fun name => name ≠ faultField) =
      (Ordered.keys c.given).filter fun name => name ≠ faultField := by
  refine passed_induction (P := fun fields =>
      (Ordered.keys fields).filter (fun name => name ≠ faultField) =
        (Ordered.keys c.given).filter fun name => name ≠ faultField)
    rfl (fun value fields hf => ?_) (fun value fields hf => ?_) namesHandled
  · rw [Ordered.keys_put]
    split
    · exact hf
    · simpa using hf
  · rw [Ordered.putNew]
    split
    · exact hf
    · simpa [Ordered.keys] using hf

theorem nodup_keys_passed (h : (Ordered.keys c.given).Nodup) (namesHandled : Bool) :
    (Ordered.keys (c.passed namesHandled)).Nodup :=
  passed_induction (P := fun fields => (Ordered.keys fields).Nodup) h
    (fun value _ hf => Ordered.nodup_keys_put hf faultField value)
    (fun value _ hf => Ordered.nodup_keys_putNew hf faultField value) namesHandled

theorem get?_passed_fault (h : c.aboutHandled = true) :
    Ordered.get? (c.passed false) faultField =
      (Ordered.get? c.given faultField).or (some (.bool true)) := by
  rw [passed, if_pos h, Ordered.get?_putNew, if_pos rfl]
  rfl

theorem get?_passed_fault_named : Ordered.get? (c.passed true) faultField = some .null := by
  have hnamed : Ordered.get? (c.named true) faultField = some .null := Ordered.get?_put_self ..
  unfold passed
  split
  · rw [Ordered.get?_putNew, hnamed]
    rfl
  · exact hnamed

theorem fields_draft (m : Message) (event : Value) (bound : Fields) :
    (c.draft m event bound).fields =
      Ordered.putAll (saidFields event) (Ordered.putAll (c.passed m.namesHandled) bound) := by
  cases event <;> rfl

theorem get?_draft (m : Message) (event : Value) {bound : Fields} (h : (Ordered.keys c.given).Nodup)
    (name : Text) :
    Ordered.get? (c.draft m event bound).fields name =
      (Ordered.get? (saidFields event) name).or
        ((Ordered.get? (c.passed m.namesHandled) name).or (Ordered.get? bound name)) := by
  rw [fields_draft, Ordered.get?_putAll (nodup_keys_saidFields event),
    Ordered.get?_putAll (nodup_keys_passed h _)]

/-- The wishes among the fields decide what the entry of a call is about. -/
theorem about_draft (m : Message) (event : Value) {bound : Fields} (h : (Ordered.keys c.given).Nodup)
    (context : Fields) :
    ((c.draft m event bound).leveled context).about m.handled = c.about m bound context := by
  have hevent : faultField ≠ eventField := by decide
  rw [Draft.about_leveled, get?_draft m event h,
    get?_saidFields_other fun hn => absurd hn hevent, Option.none_or]
  unfold about draft
  cases hn : m.namesHandled with
  | true =>
    rw [get?_passed_fault_named]
    cases m.handled <;> rfl
  | false =>
    cases ha : c.aboutHandled with
    | true =>
      rw [get?_passed_fault ha]
      cases Ordered.get? c.given faultField <;> rfl
    | false =>
      have hpassed : c.passed false = c.given := by simp [passed, named, ha]
      rw [hpassed]
      cases Ordered.get? c.given faultField with
      | some v => rfl
      | none =>
        cases Ordered.get? bound faultField with
        | some v => rfl
        | none => cases Ordered.get? context faultField <;> rfl

theorem isTold_completed (m : Message) (event : Value) {bound : Fields}
    (hb : (Ordered.keys bound).Nodup) (h : (Ordered.keys c.given).Nodup) (context : Fields)
    (trace : Fault.Trace) (time : Text) :
    (c.parts m event bound context trace time).IsTold
      ((c.draft m event bound).completed context m.handled trace time) := by
  have habout : ((c.draft m event bound).leveled context).about m.handled =
      c.about m bound context := about_draft m event h context
  constructor
  · exact Draft.get?_completed_level time
  · exact Ordered.get?_put_self ..
  · exact Draft.get?_completed_fault time
  · exact fun f hf => Draft.get?_completed_report (habout.trans hf) time
  · intro (he : event ≠ .null)
    have hevent : eventField ≠ reportField := by decide
    have hsaid : Ordered.get? (saidFields event) eventField = some event := by
      rw [saidFields_of_ne_null he]
      rfl
    rw [Draft.get?_completed_other (by decide) (by decide) (by decide) fun hn => absurd hn hevent,
      get?_draft m event h, hsaid]
    rfl
  · intro name hlevel htime hfault hreport (hevent : name = eventField → event = .null)
    rw [Draft.get?_completed_other hlevel htime hfault fun hn => habout.trans (hreport hn),
      get?_draft m event h, get?_saidFields_other hevent, get?_passed_other _ hfault,
      Option.none_or, Option.or_assoc]
    rfl
  · have hbound : Ordered.keys bound = (Ordered.keys bound).eraseDups :=
      (Ordered.eraseDups_of_nodup hb).symm
    have hfields := Ordered.order_putAll (Ordered.order_putAll hbound (c.passed m.namesHandled))
      (saidFields event)
    rw [← fields_draft] at hfields
    rw [Draft.order_completed hfields, habout]
    simp only [List.filter_append, filter_keys_passed]
    rfl

end Call
end Log
end GreetingServer
