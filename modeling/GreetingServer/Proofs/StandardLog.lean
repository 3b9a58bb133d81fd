import GreetingServer.Log.Standard.Library
import GreetingServer.Proofs.LogCall

/-! The standard library of loggers does what the documentation says: its loggers are derived from
each other without a change, and a call that does not fail gets the entry that it asks for. -/
namespace GreetingServer
namespace Log
namespace Standard

theorem ok_of_map_ok {α β : Type} {f : α → β} {x : Except Fault α} {b : β} (h : x.map f = .ok b) :
    ∃ a, x = .ok a ∧ b = f a := by
  cases x with
  | error fault => cases h
  | ok a => exact ⟨a, rfl, (Except.ok.inj h).symm⟩

/-! Functions. -/

theorem Function.faultless_of_check {f : Function} {given : Nat} {names : List Text}
    (h : f.check given names = .ok ()) :
    (∀ name ∈ names, f.fieldFault? given name = none) ∧ f.missingFault? given names = none := by
  unfold check at h
  split at h
  · cases h
  · rename_i hfields
    split at h
    · cases h
    · split at h
      · cases h
      · rename_i hmissing
        exact ⟨List.findSome?_eq_none_iff.1 hfields, hmissing⟩

theorem Function.check_of_free {f : Function} (h : f.takesFields = true) {names : List Text}
    (hn : ∀ name ∈ names, ∀ p ∈ f.parameters, name ≠ p.toList) :
    f.check f.parameters.length names = .ok () := by
  have hfields : names.findSome? (f.fieldFault? f.parameters.length) = none := by
    refine List.findSome?_eq_none_iff.2 fun name hname => ?_
    have hfind : f.parameters.findIdx? (·.toList = name) = none := by
      refine List.findIdx?_eq_none_iff.2 fun p hp => ?_
      exact decide_eq_false (hn name hname p hp).symm
    rw [fieldFault?, hfind, if_pos h]
  simp [check, hfields, countFault?, missingFault?]

/-! The derivation of loggers. -/

theorem without_cons_text (t : Text) (keys : List Value) (fields : Fields) :
    without (namesOf (.text t :: keys)) fields = without (namesOf keys) (Ordered.erase t fields) := by
  have hnames : namesOf (.text t :: keys) = t :: namesOf keys := rfl
  simp only [without, hnames, Ordered.erase, List.filter_filter, List.mem_cons, not_or]
  refine List.filter_congr fun field _ => ?_
  rw [Bool.decide_and, Bool.and_comm]

theorem namesOf_cons_other {key : Value} (h : ∀ t, key ≠ .text t) (keys : List Value) :
    namesOf (key :: keys) = namesOf keys := by
  cases key with
  | text t => exact absurd rfl (h t)
  | _ => rfl

theorem unbind_eq_without {keys : List Value} {fields left : Fields}
    (h : unbind keys fields = .ok left) : left = without (namesOf keys) fields := by
  induction keys generalizing fields with
  | nil =>
    rw [← Except.ok.inj h]
    simp [without, namesOf]
  | cons key keys ih =>
    unfold unbind at h
    split at h
    · cases h
    · split at h
      · rename_i t
        split at h
        · rw [ih h, without_cons_text]
        · cases h
      · cases h

theorem tryUnbind_eq_without {keys : List Value} {fields left : Fields}
    (h : tryUnbind keys fields = .ok left) : left = without (namesOf keys) fields := by
  induction keys generalizing fields with
  | nil =>
    rw [← Except.ok.inj h]
    simp [without, namesOf]
  | cons key keys ih =>
    unfold tryUnbind at h
    split at h
    · rename_i hempty
      rw [← Except.ok.inj h, List.isEmpty_iff.1 hempty]
      rfl
    · split at h
      · cases h
      · split at h
        · rw [ih h, without_cons_text]
        · rename_i hkey
          rw [ih h, namesOf_cons_other hkey]

namespace Logger
variable {l other : Logger}

/-- Its use changes neither what a logger adds to its entries nor what it is set up with. -/
def content (l : Logger) : Fields × Setup := (l.fields, l.setup)

theorem content_used (l : Logger) : l.used.content = l.content := by
  rw [content, content, used_fields, used_setup]

theorem content_bind (fields : Fields) (l : Logger) : (bind fields l).1.content = l.content := by
  unfold bind
  dsimp only
  split
  · rfl
  · exact l.content_used

theorem content_of_bind {fields : Fields} (h : (bind fields l).2 = .ok other) :
    other.content = (Ordered.putAll fields l.fields, l.setup) := by
  unfold bind at h
  dsimp only at h
  split at h
  · cases h
  · obtain ⟨_, -, rfl⟩ := ok_of_map_ok h
    rfl

theorem content_change (l : Logger) (changed : Fields → Except Fault Fields) :
    (l.change changed).1.content = l.content := by
  unfold change
  split
  · rfl
  · exact l.content_used

theorem content_of_change {changed : Fields → Except Fault Fields}
    (h : (l.change changed).2 = .ok other) :
    ∃ left, changed l.fields = .ok left ∧ other.content = (left, l.setup) := by
  unfold change at h
  split at h
  · cases h
  · obtain ⟨left, hleft, rfl⟩ := ok_of_map_ok h
    exact ⟨left, hleft, rfl⟩

theorem content_of_make {fields : Fields} (h : make fields = .ok l) :
    l.content = (withoutSettings fields, setupOf fields) := by
  unfold make at h
  split at h
  · cases h
  · obtain ⟨_, -, rfl⟩ := ok_of_map_ok h
    rfl

theorem assemble_of_setup (h : l.setup = {}) : l.assemble = .ok () := by
  unfold assemble
  rw [h]
  cases l.stage <;> rfl

theorem exists_make {fields : Fields} (h : AreOrdinary fields) : ∃ l, make fields = .ok l := by
  have hnone : Ordered.get? fields "logger_factory_args".toList = none := by
    refine Option.not_isSome_iff_eq_none.1 fun hsome => ?_
    exact h _ (Ordered.get?_isSome_iff.1 hsome) "logger_factory_args" (by decide) rfl
  have hcheck : makeFunction.check 1 (Ordered.keys fields) = .ok () := by
    refine Function.check_of_free (f := makeFunction) rfl fun name hname p hp => ?_
    obtain rfl := List.mem_singleton.1 hp
    exact h name hname "logger" (by decide)
  unfold make
  rw [hnone, hcheck]
  exact ⟨_, rfl⟩

theorem exists_bind {fields : Fields} (h : AreOrdinary fields) (hs : l.setup = {}) :
    ∃ other, (bind fields l).2 = .ok other := by
  have hcheck (f : Function) (hp : f.parameters = ["self"]) (ht : f.takesFields = true) :
      f.check 1 (Ordered.keys fields) = .ok () := by
    have hfree : f.check f.parameters.length (Ordered.keys fields) = .ok () :=
      Function.check_of_free ht fun name hname p hmem => by
        rw [hp] at hmem
        obtain rfl := List.mem_singleton.1 hmem
        exact h name hname "self" (by decide)
    rwa [hp] at hfree
  have hfunction : ∀ f, f = (if l.stage = .kept then lastBindFunction else l.bindFunction) →
      f.check 1 (Ordered.keys fields) = .ok () := by
    rintro f rfl
    by_cases hkept : l.stage = .kept
    · rw [if_pos hkept]
      exact hcheck _ rfl rfl
    · rw [if_neg hkept, bindFunction, if_neg hkept]
      exact hcheck _ rfl rfl
  unfold bind
  dsimp only
  rw [hfunction _ rfl, assemble_of_setup hs]
  exact ⟨_, rfl⟩

end Logger

/-! What a call comes to. -/

/-- A method that makes entries is found before any other, and the one that takes the number of a
level by its name. No other makes entries. -/
theorem Attribute.find_ok {name : Text} {found : Attribute} (h : find name = .ok found) :
    match methods.find? fun known => known.1.toList = name with
    | some known => found = .entry known.2
    | none =>
      if name = "log".toList then found = .leveledEntry
      else (∃ function, found = .putOff function) ∨ found = .comparison ∨ found = .threshold := by
  by_cases hlog : name = "log".toList
  · subst hlog
    have hfind : find "log".toList = .ok .leveledEntry := by rfl
    rw [hfind] at h
    exact (Except.ok.inj h).symm
  · unfold find at h
    split at h
    · rename_i known hknown
      rw [← Except.ok.inj h]
      rw [attributes, List.append_assoc, List.find?_append, List.find?_map] at hknown
      split
      · rename_i method hmethod
        have heq : (methods.find? ((fun known => decide (known.1.toList = name)) ∘
            fun entry => (entry.1, Attribute.entry entry.2))) = some method := hmethod
        rw [heq] at hknown
        rw [← Option.some.inj hknown]
      · rename_i hmethod
        have heq : (methods.find? ((fun known => decide (known.1.toList = name)) ∘
            fun entry => (entry.1, Attribute.entry entry.2))) = none := hmethod
        rw [heq, Option.map_none, Option.none_or] at hknown
        have hname : known.1.toList = name := by simpa using List.find?_some hknown
        have hmem := List.mem_of_find?_eq_some hknown
        rw [if_neg hlog]
        rcases List.mem_append.1 hmem with hput | hmem
        · obtain ⟨entry, -, rfl⟩ := List.mem_map.1 hput
          exact Or.inl ⟨_, rfl⟩
        · simp only [List.mem_cons, List.not_mem_nil, or_false] at hmem
          rcases hmem with rfl | rfl | rfl | rfl
          · exact absurd hname.symm hlog
          · exact Or.inl ⟨_, rfl⟩
          · exact Or.inr (Or.inl rfl)
          · exact Or.inr (Or.inr rfl)
    · cases h

section
variable {m : Message} {l : Logger}

/-- The call gets what it asks for: an entry that says something if it asks for one. The processors
of the logger let it through. -/
def Gets (m : Message) (l : Logger) (asked : Option Call) (result : Option Draft) : Prop :=
  match asked with
  | none => result = none
  | some c => ∃ event, Message.said c.event c.values = .ok event ∧
      result = some (c.draft m event l.fields) ∧
      process l.setup (Ordered.keys (c.draft m event l.fields).fields) = .ok ()

theorem draftOf_ok {c : Call} {event : Value} {d : Draft}
    (h : draftOf m l c.level event (c.passed m.namesHandled) = .ok d) :
    d = c.draft m event l.fields ∧
      process l.setup (Ordered.keys (c.draft m event l.fields).fields) = .ok () := by
  unfold draftOf at h
  split at h
  · cases h
  · obtain ⟨⟨⟩, hprocess, rfl⟩ := ok_of_map_ok h
    have hdraft : withEvent event (Ordered.putAll (c.passed m.namesHandled) l.fields) =
        (c.draft m event l.fields).fields := by
      cases event <;> rfl
    rw [hdraft] at hprocess ⊢
    exact ⟨rfl, hprocess⟩

/-- A call gets its entry if what it says can be told and its fields are passed on. -/
theorem gets_of_said {c : Call} {fields : Fields} {result : Option Draft}
    (hfields : fields = c.passed m.namesHandled)
    (h : (match Message.said c.event c.values with
      | .error f => .error f
      | .ok event => (draftOf m l c.level event fields).map some : Except Fault (Option Draft)) =
        .ok result) :
    Gets m l (some c) result := by
  subst hfields
  split at h
  · cases h
  · rename_i event hsaid
    obtain ⟨d, hd, rfl⟩ := ok_of_map_ok h
    obtain ⟨rfl, hprocess⟩ := draftOf_ok hd
    exact ⟨event, hsaid, rfl, hprocess⟩

theorem gets_entry {method : Method} {d : Draft} (h : entry m l method = .ok d) :
    Gets m l (some ⟨method.level, m.event, m.arguments, m.fields, method.aboutHandled⟩) (some d) := by
  unfold entry at h
  split at h
  · cases h
  · split at h
    · cases h
    · rename_i event hsaid
      obtain ⟨rfl, hprocess⟩ := draftOf_ok
        (c := ⟨method.level, m.event, m.arguments, m.fields, method.aboutHandled⟩) h
      exact ⟨event, hsaid, rfl, hprocess⟩

theorem passed_erase (m : Message) (level : Level) :
    Call.passed ⟨level, (Ordered.get? m.fields eventField).getD .null, [],
      Ordered.erase eventField m.fields, false⟩ m.namesHandled =
      Ordered.erase eventField (givenFields m) := by
  have hne : faultField ≠ eventField := by decide
  simp only [Call.passed, Call.named, Bool.false_eq_true, if_false, givenFields]
  split
  · rw [Ordered.erase_put_other hne]
  · rfl

theorem get?_givenFields_event (m : Message) :
    Ordered.get? (givenFields m) eventField = Ordered.get? m.fields eventField := by
  have hne : eventField ≠ faultField := by decide
  unfold givenFields
  split
  · exact Ordered.get?_put_other hne ..
  · rfl

theorem gets_leveledEntry {result : Option Draft} (h : leveledEntry m l = .ok result) :
    Gets m l m.leveledCall? result := by
  unfold leveledEntry at h
  split at h
  · cases h
  · cases hlower : isLower "<" m.event with
    | error f =>
      rw [hlower] at h
      cases h
    | ok lower =>
      rw [hlower] at h
      cases lower with
      | true =>
        have hcall : m.leveledCall? = none := by rw [Message.leveledCall?, hlower]
        rw [hcall]
        exact (Except.ok.inj h).symm
      | false =>
        cases hlevel : levelOf? m.event with
        | none =>
          simp only [hlevel] at h
          cases h
        | some level =>
          simp only [hlevel] at h
          cases hargs : m.arguments with
          | nil =>
            have hcall : m.leveledCall? =
                some ⟨level, (Ordered.get? m.fields eventField).getD .null, [],
                  Ordered.erase eventField m.fields, false⟩ := by
              simp only [Message.leveledCall?, hlower, hlevel, hargs, Option.map_some]
            rw [hcall]
            simp only [hargs, List.head?_nil, List.drop_nil, get?_givenFields_event] at h
            exact gets_of_said (passed_erase m level).symm h
          | cons first values =>
            have hcall : m.leveledCall? = some ⟨level, first, values, m.fields, false⟩ := by
              simp only [Message.leveledCall?, hlower, hlevel, hargs, Option.map_some]
            rw [hcall]
            simp only [hargs, List.head?_cons, List.drop_one, List.tail_cons] at h
            exact gets_of_said rfl h

theorem none_of_map_none {α : Type} {x : Except Fault α} {result : Option Draft}
    (h : x.map (fun _ => none) = .ok result) : result = none :=
  (ok_of_map_ok h).elim fun _ hr => hr.2

theorem call?_eq_none {name : Text} (hm : m.method = name)
    (hname : methods.find? (fun known => known.1.toList = name) = none) (hlog : name ≠ "log".toList) :
    m.call? = none := by
  rw [Message.call?, hm, hname]
  exact if_neg hlog

/-- A call that derives a logger asks for no entry and gets none, and leaves the content of its
logger. -/
theorem derivation?_some {outcome : Logger × Except Fault (Option Draft)}
    (h : derivation? m l = some outcome) :
    m.call? = none ∧ outcome.1.content = l.content ∧
      ∀ result, outcome.2 = .ok result → result = none := by
  simp only [derivation?] at h
  by_cases hbind : m.method = "bind".toList
  · rw [if_pos hbind] at h
    obtain rfl := Option.some.inj h
    exact ⟨call?_eq_none hbind (by decide) (by decide), rfl, fun result hr => none_of_map_none hr⟩
  rw [if_neg hbind] at h
  by_cases hnew : m.method = "new".toList
  · rw [if_pos hnew] at h
    obtain rfl := Option.some.inj h
    exact ⟨call?_eq_none hnew (by decide) (by decide), rfl, fun result hr => none_of_map_none hr⟩
  rw [if_neg hnew] at h
  by_cases hunbind : m.method = "unbind".toList
  · rw [if_pos hunbind] at h
    refine ⟨call?_eq_none hunbind (by decide) (by decide), ?_⟩
    obtain rfl := Option.some.inj h
    split
    · exact ⟨rfl, fun result hr => by cases hr⟩
    · exact ⟨l.content_change _, fun result hr => none_of_map_none hr⟩
  rw [if_neg hunbind] at h
  by_cases htry : m.method = "try_unbind".toList
  · rw [if_pos htry] at h
    refine ⟨call?_eq_none htry (by decide) (by decide), ?_⟩
    obtain rfl := Option.some.inj h
    split
    · exact ⟨rfl, fun result hr => by cases hr⟩
    · exact ⟨l.content_change _, fun result hr => none_of_map_none hr⟩
  rw [if_neg htry] at h
  cases h

theorem content_call (m : Message) (l : Logger) : (call m l).1.content = l.content := by
  unfold call
  split
  · rename_i outcome hd
    exact (derivation?_some hd).2.1
  · split
    · rfl
    · split
      · exact l.content_used
      · exact l.content_used

/-- The methods that put something off or tell something make no entry. -/
theorem none_of_answer {found : Attribute} {result : Option Draft}
    (hf : (∃ function, found = .putOff function) ∨ found = .comparison ∨ found = .threshold)
    (h : answer m l found = .ok result) : result = none := by
  obtain ⟨function, rfl⟩ | rfl | rfl := hf
  · exact none_of_map_none h
  · simp only [answer] at h
    split at h
    · cases h
    · exact none_of_map_none h
  · exact none_of_map_none h

theorem gets_call {result : Option Draft} (h : (call m l).2 = .ok result) :
    Gets m l m.call? result := by
  unfold call at h
  split at h
  · rename_i outcome hd
    obtain ⟨hcall, -, hresult⟩ := derivation?_some hd
    rw [hcall]
    exact hresult result h
  · split at h
    · cases h
    · split at h
      · cases h
      · rename_i found hfound
        have hfind := Attribute.find_ok hfound
        unfold Message.call?
        cases hknown : methods.find? fun known => known.1.toList = m.method with
        | some known =>
          rw [hknown] at hfind
          subst hfind
          obtain ⟨d, hd, rfl⟩ := ok_of_map_ok h
          exact gets_entry hd
        | none =>
          rw [hknown] at hfind
          dsimp only at hfind
          split at hfind
          · rename_i hlog
            subst hfind
            rw [if_pos hlog]
            exact gets_leveledEntry h
          · rename_i hlog
            rw [if_neg hlog]
            exact none_of_answer hfind h

/-- A call that prints something, if only no line, gets what it asks for. -/
theorem gets_of_linesOf {Context : Type} {p : Pipeline Context} {around : Surroundings Context}
    {lines : List Text} (h : linesOf p around l.setup (call m l).2 = .ok lines) :
    ∃ result, (call m l).2 = .ok result ∧ Gets m l m.call? result := by
  cases hcall : (call m l).2 with
  | error f =>
    rw [hcall] at h
    cases h
  | ok result => exact ⟨result, rfl, gets_call hcall⟩

end

/-! What is printed. -/

theorem names_of_printsFields {s : Setup} {names : List Text} (hp : s.printsFields = true)
    (h : process s names = .ok ()) : messageField ∈ names ∧ ∀ name ∈ names, name = messageField := by
  have hcheck : printFunction.check 1 names = .ok () := by
    unfold Setup.printsFields at hp
    unfold process at h
    cases hv : s.processors <;> rw [hv] at hp h <;> first
      | cases hp
      | simpa [List.isEmpty_iff.1 hp, firstType?] using h
  obtain ⟨hfields, hmissing⟩ := Function.faultless_of_check hcheck
  constructor
  · by_contra hmem
    rw [Function.missingFault?, Option.map_eq_none_iff] at hmissing
    have hfound := List.find?_eq_none.1 hmissing "message" (List.mem_singleton_self _)
    simp only [Bool.not_eq_true', Bool.not_eq_false] at hfound
    exact hmem (List.contains_iff_mem.1 hfound)
  · intro name hn
    by_contra hne
    -- The printing function has one more value, and that is given already.
    have hfault : (printFunction.fieldFault? 1 name).isSome = true := by
      by_cases hself : "self".toList = name
      · subst hself
        rfl
      · have hmessage : "message".toList ≠ name := Ne.symm hne
        simp only [Function.fieldFault?, printFunction, List.findIdx?_cons, hself, hmessage]
        rfl
    rw [hfields name hn] at hfault
    cases hfault

theorem printed_text (t : Text) : printed (.text t) = .ok (Text.splitBy (· = '\n') t) := by
  simp only [printed, Value.displayed_text, Fault.written, Fault.scalarText_ofText]
  rfl

theorem printed_ok {v : Value} {lines : List Text} (h : printed v = .ok lines) :
    ∃ text, v.displayed = .ok (CodePoint.ofText text) ∧ lines = Text.splitBy (· = '\n') text := by
  unfold printed at h
  cases hd : v.displayed with
  | error e =>
    rw [hd] at h
    cases h
  | ok ps =>
    rw [hd] at h
    obtain ⟨text, htext, rfl⟩ := ok_of_map_ok h
    refine ⟨text, ?_, rfl⟩
    unfold Fault.scalarText at htext
    split at htext
    · rename_i t ht
      rw [← Except.ok.inj htext, CodePoint.ofText_of_text? ht]
    · cases htext

theorem lines_of_draft {Context : Type} {p : Pipeline Context} {around : Surroundings Context}
    {s : Setup} {d : Draft} {lines : List Text} (hd : process s (Ordered.keys d.fields) = .ok ())
    (h : linesOf p around s (.ok (some d)) = .ok lines) :
    if s.printsFields then d.IsLoose lines
    else ∃ line, p.run around d = .ok line ∧ lines = [line] := by
  cases hp : s.printsFields with
  | false =>
    simp only [linesOf, hp, Bool.false_eq_true, if_false] at h
    exact ok_of_map_ok h
  | true =>
    simp only [linesOf, hp, if_true] at h
    obtain ⟨hmem, hnames⟩ := names_of_printsFields hp hd
    obtain ⟨value, hvalue⟩ := Option.isSome_iff_exists.1 (Ordered.get?_isSome_iff.2 hmem)
    rw [hvalue] at h
    obtain ⟨text, hdisplayed, hlines⟩ := printed_ok h
    exact ⟨hnames, value, text, hvalue, hdisplayed, hlines⟩

/-! A call of the method of a level with code points and fields alone. -/

theorem call_of_isOrdinary {m : Message} {l : Logger} {level : Level} {event : List CodePoint}
    (hm : m.IsOrdinary level event) (hs : l.setup = {}) :
    (call m l).2 = .ok (some
      (Call.draft ⟨level, .ofPoints event, [], m.fields, false⟩ m (.ofPoints event) l.fields)) := by
  have hnames (p : String) (hp : p ∈ ownNames) (hfault : faultField ≠ p.toList) :
      ∀ name ∈ names m, name ≠ p.toList := by
    intro name hname
    unfold names givenFields at hname
    split at hname
    · rcases Ordered.mem_keys_put.1 hname with rfl | hname
      · exact hfault
      · exact hm.fields name hname p hp
    · exact hm.fields name hname p hp
  have hderivation : derivation? m l = none := by
    simp only [derivation?, hm.method]
    cases level <;> rfl
  have hfind : Attribute.find m.method = .ok (.entry ⟨level, false⟩) := by
    rw [hm.method]
    cases level <;> rfl
  have hcheck : (entryFunction ⟨level, false⟩).check (count m) (names m) = .ok () := by
    rw [count, hm.arguments]
    refine Function.check_of_free (f := entryFunction ⟨level, false⟩) rfl fun name hname p hp => ?_
    change p ∈ ["self", "event"] at hp
    simp only [List.mem_cons, List.not_mem_nil, or_false] at hp
    rcases hp with rfl | rfl
    · exact hnames "self" (by decide) (by decide) name hname
    · exact hnames "event" (by decide) (by decide) name hname
  have hpass : passFunction.check 3 (Ordered.keys (givenFields m)) = .ok () := by
    refine Function.check_of_free (f := passFunction) rfl fun name hname p hp => ?_
    change p ∈ ["self", "method_name", "event"] at hp
    simp only [List.mem_cons, List.not_mem_nil, or_false] at hp
    rcases hp with rfl | rfl | rfl
    · exact hnames "self" (by decide) (by decide) name hname
    · exact hnames "method_name" (by decide) (by decide) name hname
    · exact hnames "event" (by decide) (by decide) name hname
  have hsaid : Message.said m.event m.arguments = .ok (.ofPoints event) := by
    rw [hm.event, hm.arguments, Message.said_ofPoints]
  have hdraft : entry m l ⟨level, false⟩ = .ok
      (Call.draft ⟨level, .ofPoints event, [], m.fields, false⟩ m (.ofPoints event) l.fields) := by
    simp only [entry, hcheck, hsaid, Bool.false_eq_true, if_false, draftOf, hpass, hs]
    cases Value.ofPoints event <;> rfl
  simp only [call, hderivation, l.assemble_of_setup hs, hfind, answer, hdraft]
  rfl

theorem isDocumented_library (trace : Fault.Trace) : (library (Fault.report trace)).IsDocumented where
  loggers := {
    get := fun h => Prod.mk.inj (Logger.content_of_make h)
    get_ordinary := Logger.exists_make
    bind_source := fun fields l => Prod.mk.inj (Logger.content_bind fields l)
    bind := fun h => Prod.mk.inj (Logger.content_of_bind h)
    bind_ordinary := Logger.exists_bind
    unbind_source := fun keys l => Prod.mk.inj (Logger.content_change l _)
    unbind := fun h => by
      obtain ⟨left, hleft, hcontent⟩ := Logger.content_of_change h
      rw [unbind_eq_without hleft] at hcontent
      exact Prod.mk.inj hcontent
    tryUnbind_source := fun keys l => Prod.mk.inj (Logger.content_change l _)
    tryUnbind := fun h => by
      obtain ⟨left, hleft, hcontent⟩ := Logger.content_of_change h
      rw [tryUnbind_eq_without hleft] at hcontent
      exact Prod.mk.inj hcontent }
  context := {
    distinct := fun c => c.2
    empty := rfl
    bind := fun _ _ => List.Perm.refl _
    unbind := fun _ _ => List.Perm.refl _
    clear := fun _ => rfl }
  processors := {
    mergeContext := fun around _ => ⟨around.context.1, List.Perm.refl _, rfl⟩
    addLevel := fun _ _ => rfl
    setFault := fun _ _ => rfl
    formatFault := fun _ _ => ⟨trace, rfl⟩
    stampTime := fun _ _ => rfl
    renderJson := fun _ _ => rfl }
  entries := {
    source := fun _ _ m l => Prod.mk.inj (content_call m l)
    silent := fun {p around m l lines} hc h => by
      change linesOf p around l.setup (call m l).2 = .ok lines at h
      obtain ⟨result, hcall, hgets⟩ := gets_of_linesOf h
      rw [hc] at hgets
      rw [hcall, show result = none from hgets] at h
      exact (Except.ok.inj h).symm
    entry := fun {p around m c l lines} hc h => by
      change linesOf p around l.setup (call m l).2 = .ok lines at h
      obtain ⟨result, hcall, hgets⟩ := gets_of_linesOf h
      rw [hc] at hgets
      obtain ⟨event, hsaid, rfl, hprocess⟩ := hgets
      rw [hcall] at h
      exact ⟨event, hsaid, lines_of_draft hprocess h⟩
    ordinary := fun p around {m level event} hm {l} hs => by
      change linesOf p around l.setup (call m l).2 = _
      rw [call_of_isOrdinary hm hs, show l.setup = {} from hs]
      rfl }

/-- The standard library, with reports that tell nothing of the places where faults were raised. -/
def plainLibrary : Library := library (Fault.report fun _ => [])

theorem isDocumented_plainLibrary : plainLibrary.IsDocumented := isDocumented_library _

end Standard
end Log
end GreetingServer
