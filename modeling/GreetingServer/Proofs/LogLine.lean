import GreetingServer.Proofs.LoggerFields

/-! Log lines as JSON texts. Whatever is done with loggers before, a call that asks for an entry
prints one line of printable ASCII, which is read as the fields that the call and what is around it
tell, in their order. A call that asks for no entry prints nothing. -/
namespace GreetingServer
namespace Log

/-! Plain fields stay plain. -/

/-- There is no floating-point number among the fields, and no name twice. -/
def IsPlain (fields : Fields) : Prop := (Value.ofFields fields).IsPlain

theorem isPlain_iff {fields : Fields} :
    IsPlain fields ↔ (Ordered.keys fields).Nodup ∧ ∀ entry ∈ fields, entry.2.IsPlain :=
  Value.isPlain_ofFields_iff

theorem isPlain_nil : IsPlain [] := isPlain_iff.2 ⟨List.nodup_nil, by simp⟩

theorem IsPlain.sublist {fields more : Fields} (h : IsPlain more) (hs : fields.Sublist more) :
    IsPlain fields := by
  obtain ⟨hk, hv⟩ := isPlain_iff.1 h
  exact isPlain_iff.2 ⟨(hs.map _).nodup hk, fun entry he => hv entry (hs.subset he)⟩

theorem IsPlain.erase {fields : Fields} (h : IsPlain fields) (key : Text) :
    IsPlain (Ordered.erase key fields) :=
  h.sublist List.filter_sublist

theorem IsPlain.of_get? {fields : Fields} (h : IsPlain fields) {name : Text} {value : Value}
    (hv : Ordered.get? fields name = some value) : value.IsPlain :=
  (isPlain_iff.1 h).2 _ (Ordered.mem_of_get? hv)

theorem IsPlain.put {fields : Fields} (h : IsPlain fields) (key : Text) {value : Value}
    (hv : value.IsPlain) : IsPlain (Ordered.put key value fields) := by
  have hk := Ordered.nodup_keys_put (isPlain_iff.1 h).1 key value
  refine isPlain_iff.2 ⟨hk, fun entry he => ?_⟩
  obtain rfl | hold := Ordered.mem_put he
  · exact hv
  · exact (isPlain_iff.1 h).2 entry hold

theorem IsPlain.putAll {fields more : Fields} (h : IsPlain fields)
    (hm : ∀ entry ∈ more, entry.2.IsPlain) : IsPlain (Ordered.putAll more fields) := by
  induction more generalizing fields with
  | nil => exact h
  | cons entry more ih =>
    exact ih (h.put entry.1 (hm entry (by simp))) fun other ho => hm other (by simp [ho])

theorem IsPlain.perm {fields others : Fields} (h : IsPlain fields) (hp : fields.Perm others) :
    IsPlain others := by
  obtain ⟨hk, hv⟩ := isPlain_iff.1 h
  exact isPlain_iff.2 ⟨(hp.map _).nodup hk, fun entry he => hv entry (hp.mem_iff.2 he)⟩

theorem LineParts.isPlain_fields {p : LineParts} (hb : IsPlain p.bound) (hg : IsPlain p.given)
    (hc : IsPlain p.context) (he : p.event.IsString) : IsPlain p.fields := by
  have hvalue (name : Text) (value : Value) (h : p.value? name = some value) : value.IsPlain := by
    unfold value? at h
    split_ifs at h
    · rw [← Option.some.inj h]
      exact .text _
    · obtain ⟨f, -, rfl⟩ := Option.map_eq_some_iff.1 h
      exact (Value.isString_ofPoints _).isPlain
    · rw [← Option.some.inj h]
      exact .text _
    · rw [← Option.some.inj h]
      exact he.isPlain
    · rcases Option.or_eq_some_iff.1 h with h | ⟨-, h⟩
      · exact hg.of_get? h
      · rcases Option.or_eq_some_iff.1 h with h | ⟨-, h⟩
        · exact hb.of_get? h
        · exact hc.of_get? h
  refine isPlain_iff.2 ⟨?_, fun entry h => hvalue _ _ (Ordered.mem_tabulate h)⟩
  exact (Ordered.keys_tabulate_sublist _ _).nodup (Ordered.nodup_eraseDups _)

/-! Loggers and the context stay plain. -/

/-- The fields that a step gives to a logger or to the context are plain. A call may have any fields.
-/
def Step.IsPlain : Step → Prop
  | .get _ fields => Log.IsPlain fields
  | .bind _ _ fields => Log.IsPlain fields
  | .bindContext fields => Log.IsPlain fields
  | _ => True

theorem Step.IsPlain.apply {st : Step} (hst : st.IsPlain) {name logger : Text} {d : Derivation}
    (hd : st.gives? = some (name, .derived logger d)) {fields : Fields} (h : Log.IsPlain fields) :
    Log.IsPlain (d.apply fields) := by
  cases st <;> cases hd
  case bind more => exact h.putAll (isPlain_iff.1 hst).2
  all_goals exact h.sublist List.filter_sublist

theorem isPlain_of_lineage? {steps : List Step} (h : ∀ st ∈ steps, st.IsPlain) {name : Text}
    {g : Lineage} (hg : lineage? steps name = some g) : IsPlain g.fields :=
  lineage?_induction isPlain_nil
    (fun _ fields hmem => (show IsPlain fields from h _ hmem).sublist List.filter_sublist)
    (fun st hst _ _ _ hd _ hfields => (h st hst).apply hd hfields) hg

theorem isPlain_contextAfter {steps : List Step} (h : ∀ st ∈ steps, st.IsPlain) :
    IsPlain (contextAfter steps) := by
  have hall (steps : List Step) (h : ∀ st ∈ steps, st.IsPlain) {context : Fields}
      (hc : IsPlain context) :
      IsPlain (steps.foldl (fun context st => st.contextAfter context) context) := by
    induction steps generalizing context with
    | nil => exact hc
    | cons st steps ih =>
      refine ih (fun other ho => h other (List.mem_cons_of_mem _ ho)) ?_
      have hst := h st List.mem_cons_self
      cases st with
      | bindContext fields => exact hc.putAll (isPlain_iff.1 hst).2
      | unbindContext names => exact hc.sublist List.filter_sublist
      | clearContext => exact isPlain_nil
      | _ => exact hc
  exact hall steps h isPlain_nil

/-! What is printed. -/

/-- The text is one line of printable ASCII, and JSON with the given fields in their order. -/
structure Tells (line : Text) (fields : Fields) : Prop where
  graphic : line.all Text.isGraphic = true
  read : Json.read line = some (.ofFields (Ordered.mapValues Value.told fields))

theorem tells_write {fields : Fields} (h : IsPlain fields) :
    Tells (Json.write (.ofFields fields)) fields where
  graphic := Json.all_isGraphic_write h
  read := by rw [Json.read_write h, Value.told_ofFields (isPlain_iff.1 h).1]

/-- The lines of a call through a logger of a lineage: none if it asks for no entry, and else the one
that tells what it asks for, with the variables of the context in some order. -/
def Prints (now : Instant) (known : Fields) (g : Lineage) (m : Message) (lines : List Text) : Prop :=
  match m.call? with
  | none => lines = []
  | some c => ∃ context trace time event line,
      context.Perm known ∧ now.timestamp = .ok time ∧ Message.said c.event c.values = .ok event ∧
      lines = [line] ∧ Tells line (c.parts m event g.fields context trace time).fields

theorem TellsLineage.prints {now : Instant} {known : Fields} {g : Lineage} {m : Message}
    {lines : List Text} (h : TellsLineage now known g m lines) (hf : IsPlain m.fields)
    (hg : IsPlain g.fields) (hk : IsPlain known)
    (hs : ∀ c, m.call? = some c → c.event.IsString) : Prints now known g m lines := by
  unfold TellsLineage at h
  unfold Prints
  cases hc : m.call? with
  | none =>
    rw [hc] at h
    exact h
  | some c =>
    rw [hc] at h
    obtain ⟨event, hsaid, htells⟩ := h
    have hstring := Message.isString_said (hs c hc) hsaid
    split at htells
    · exact absurd htells.event hstring.ne_null
    · obtain ⟨context, trace, time, printed, hperm, htime, hlines, htold⟩ := htells
      have hgiven : IsPlain c.given := hf.sublist (Message.given_sublist hc)
      have hplain : IsPlain (c.parts m event g.fields context trace time).fields :=
        LineParts.isPlain_fields hg hgiven (hk.perm hperm.symm) hstring
      rw [htold.eq_fields hstring.ne_null] at hlines
      exact ⟨context, trace, time, event, _, hperm, htime, hsaid, hlines, tells_write hplain⟩

/-- The fields that a logger is got with have different names if they are plain. -/
theorem Step.IsPlain.getsDistinct {st : Step} (h : st.IsPlain) : st.GetsDistinct := by
  cases st with
  | get name fields => exact (isPlain_iff.1 (show Log.IsPlain fields from h)).1
  | _ => trivial

namespace Session
variable {lib : Library}

/-- After any steps that give plain fields, a call with plain fields that does not fail prints one
line of printable ASCII if it asks for an entry, and nothing else. Its JSON has the fields that the
logger, the call and the context tell, in their order. -/
theorem prints_of_run (hlib : lib.IsDocumented) {now : Instant} {before rest : List Step}
    {name : Text} {m : Message} {lines : List Text} (hb : ∀ st ∈ before, st.IsPlain)
    (hf : Log.IsPlain m.fields) (hs : ∀ c, m.call? = some c → c.event.IsString)
    (h : ((start lib now).run (before ++ .log name m :: rest))[before.length]? = some (.ok lines)) :
    ∃ g, lineage? ((start lib now).trail [] before) name = some g ∧
      Prints ((start lib now).after before).now (contextAfter before) g m lines := by
  obtain ⟨g, hg, htells⟩ := exists_lineage_of_run hlib (fun st hst => (hb st hst).getsDistinct)
    (isPlain_iff.1 hf).1 h
  have hplain : Log.IsPlain g.fields :=
    isPlain_of_lineage? (fun st hst => hb st (mem_of_mem_trail hst)) hg
  exact ⟨g, hg, htells.prints hf hplain (isPlain_contextAfter hb) hs⟩

/-- A logger and the context are given a field each. -/
def nestedSteps : List Step :=
  [.bind "root".toList "bound".toList [("module".toList, .text "app".toList)],
    .bindContext [("path".toList, .text ['\n', Char.ofNat 0x1f600])]]

def nestedCall : Message where
  method := "error".toList
  event := .text "a\"b".toList
  fields := [("got".toList, .tuple [.int (-1), .bytes [255], .null])]
  handled := some Fault.interrupted
  namesHandled := true

theorem prints_of_run_nested :
    ∃ lines g,
      ((start Standard.plainLibrary ⟨0⟩).run (nestedSteps ++ [.log "bound".toList nestedCall]))[2]? =
          some (.ok lines) ∧
        lineage? ((start Standard.plainLibrary ⟨0⟩).trail [] nestedSteps) "bound".toList = some g ∧
        Prints ((start Standard.plainLibrary ⟨0⟩).after nestedSteps).now (contextAfter nestedSteps) g
          nestedCall lines := by
  have hb : ∀ st ∈ nestedSteps, st.IsPlain := by
    intro st hst
    simp only [nestedSteps, List.mem_cons, List.not_mem_nil, or_false] at hst
    obtain rfl | rfl := hst
    · exact isPlain_iff.2 ⟨by decide, by simpa using .text _⟩
    · exact isPlain_iff.2 ⟨by decide, by simpa using .text _⟩
  have hf : Log.IsPlain nestedCall.fields := by
    refine isPlain_iff.2 ⟨by decide, fun entry he => ?_⟩
    obtain rfl := List.mem_singleton.1 he
    refine .tuple fun item hi => ?_
    simp only [List.mem_cons, List.not_mem_nil, or_false] at hi
    obtain rfl | rfl | rfl := hi
    · exact .int _
    · exact .bytes _
    · exact .null
  have hs : ∀ c, nestedCall.call? = some c → c.event.IsString := by
    intro c hc
    obtain rfl := Option.some.inj hc
    exact .text _
  have h : ∃ lines, ((start Standard.plainLibrary ⟨0⟩).run (nestedSteps ++
      .log "bound".toList nestedCall :: []))[nestedSteps.length]? = some (.ok lines) := ⟨_, rfl⟩
  obtain ⟨lines, hlines⟩ := h
  obtain ⟨g, hg, hprints⟩ := prints_of_run Standard.isDocumented_plainLibrary hb hf hs hlines
  exact ⟨lines, g, hlines, hg, hprints⟩

def pairedPoints : List CodePoint := [.surrogate 0, .surrogate 0x400]

def pairedFields (event : Value) : Fields :=
  [(eventField, event), (levelField, .text "info".toList),
    (timeField, .text "1970-01-01T00:00:00Z".toList)]

theorem isPlain_pairedFields : Log.IsPlain (pairedFields (.points pairedPoints)) := by
  refine isPlain_iff.2 ⟨by decide, fun entry he => ?_⟩
  simp only [pairedFields, List.mem_cons, List.not_mem_nil, or_false] at he
  obtain rfl | rfl | rfl := he
  · exact .points _
  · exact .text _
  · exact .text _

set_option maxRecDepth 8000 in
/-- A method that puts off what it does prints nothing. Two surrogates that come together in a string
are read as one character. -/
theorem quiet_call_and_paired_string :
    (start Standard.plainLibrary ⟨0⟩).run [.log "root".toList { method := "ainfo".toList, event := .text "x".toList }] =
        [.ok []] ∧
      ∃ line,
        (start Standard.plainLibrary ⟨0⟩).run [.log "root".toList
          { method := "info".toList, event := .text "%s%s".toList
            arguments := [.points [.surrogate 0], .points [.surrogate 0x400]] }] = [.ok [line]] ∧
        Message.said (.text "%s%s".toList) [.points [.surrogate 0], .points [.surrogate 0x400]] =
          .ok (.points pairedPoints) ∧
        Json.read line = some (.ofFields (pairedFields (.text [Char.ofNat 0x10000]))) := by
  refine ⟨by rfl, Json.write (.ofFields (pairedFields (.points pairedPoints))), by rfl, by rfl, ?_⟩
  rw [(tells_write isPlain_pairedFields).read]
  rfl

end Session
end Log
end GreetingServer
