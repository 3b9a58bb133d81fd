import GreetingServer.Proofs.AnnouncedLength
import GreetingServer.Proofs.OrderedMap
import GreetingServer.Proofs.WrittenText
import Mathlib.Data.List.Nodup

/-! Values that come back from their JSON texts. A plain value, in which there is no floating-point
number and no key twice, is written in printable ASCII, and reading that gives the value as JSON
tells it: tuples as lists, bytes as the text that shows them, two surrogates that are the units of a
character as that character, and everything else as it is. -/
namespace GreetingServer
namespace Value

/-- There is no floating-point number in the value, and each of its dictionaries has each key once.
-/
inductive IsPlain : Value → Prop
  | null : IsPlain .null
  | bool (b : Bool) : IsPlain (.bool b)
  | int (n : Int) : IsPlain (.int n)
  | text (t : Text) : IsPlain (.text t)
  | points (ps : List CodePoint) : IsPlain (.points ps)
  | bytes (b : Bytes) : IsPlain (.bytes b)
  | list {items : List Value} (h : ∀ item ∈ items, IsPlain item) : IsPlain (.list items)
  | tuple {items : List Value} (h : ∀ item ∈ items, IsPlain item) : IsPlain (.tuple items)
  | dict {entries : Ordered (List CodePoint) Value} (hk : (Ordered.keys entries).Nodup)
      (h : ∀ entry ∈ entries, IsPlain entry.2) : IsPlain (.dict entries)

mutual

/-- The value as JSON tells it. Of keys that are told alike the first one has the place, and the last
one the value. -/
def told : Value → Value
  | points ps => ofPoints (CodePoint.paired ps)
  | bytes b => text (Text.quotedBytes b)
  | list items => list (toldItems items)
  | tuple items => list (toldItems items)
  | dict entries => dict (Ordered.putAll (toldEntries entries) [])
  | v => v

def toldItems : List Value → List Value
  | [] => []
  | item :: rest => told item :: toldItems rest

def toldEntries : List (List CodePoint × Value) → List (List CodePoint × Value)
  | [] => []
  | (key, value) :: rest => (CodePoint.paired key, told value) :: toldEntries rest

end

theorem toldItems_eq_map (items : List Value) : toldItems items = items.map told := by
  induction items with
  | nil => simp [toldItems]
  | cons item rest ih => simp [toldItems, ih]

def toldEntry (entry : List CodePoint × Value) : List CodePoint × Value :=
  (CodePoint.paired entry.1, told entry.2)

theorem toldEntries_eq_map (entries : List (List CodePoint × Value)) :
    toldEntries entries = entries.map toldEntry := by
  induction entries with
  | nil => simp [toldEntries]
  | cons entry rest ih =>
    rw [toldEntries, ih]
    rfl

theorem nodup_keys_ofFields {fields : List (Text × Value)} :
    (Ordered.keys (fields.map fun entry => (CodePoint.ofText entry.1, entry.2))).Nodup ↔
      (Ordered.keys fields).Nodup := by
  rw [← List.nodup_map_iff CodePoint.ofText_injective]
  simp [Ordered.keys, Function.comp_def]

theorem isPlain_ofFields_iff {fields : List (Text × Value)} :
    (ofFields fields).IsPlain ↔
      (Ordered.keys fields).Nodup ∧ ∀ entry ∈ fields, entry.2.IsPlain := by
  unfold ofFields
  constructor
  · intro h
    cases h with
    | dict hk hv =>
      exact ⟨nodup_keys_ofFields.1 hk, fun entry he => hv _ (List.mem_map_of_mem he)⟩
  · rintro ⟨hk, hv⟩
    exact .dict (nodup_keys_ofFields.2 hk) (List.forall_mem_map.2 hv)

theorem told_ofFields {fields : List (Text × Value)} (h : (Ordered.keys fields).Nodup) :
    (ofFields fields).told = ofFields (Ordered.mapValues told fields) := by
  have htold : toldEntries (fields.map fun entry => (CodePoint.ofText entry.1, entry.2)) =
      (Ordered.mapValues told fields).map fun entry => (CodePoint.ofText entry.1, entry.2) := by
    simp [toldEntries_eq_map, toldEntry, Ordered.mapValues, CodePoint.paired_ofText]
  have hkeys : (Ordered.keys (Ordered.mapValues told fields)).Nodup := by
    rwa [Ordered.keys_mapValues]
  rw [ofFields, told, htold, Ordered.putAll_of_nodup (nodup_keys_ofFields.2 hkeys)]
  rfl

end Value

namespace Json
open Text (isGraphic)

/-! Numerals. -/

theorem digits?_of_isNumeral {t : Text} {n : Nat} (h : Text.IsNumeral t n) : digits? t = some n := by
  have hall : t.all Char.isDigit = true := List.all_eq_true.2 h.digits
  have hne : t.isEmpty = false := List.isEmpty_eq_false_iff.2 h.ne_nil
  rw [digits?, hall, hne, ← h.value, Nat.ofDigitChars_eq_foldl]
  rfl

theorem takeWhile_isDigit {t : Text} {n : Nat} (h : Text.IsNumeral t n) :
    t.takeWhile Char.isDigit = t ∧ t.dropWhile Char.isDigit = [] :=
  ⟨List.takeWhile_eq_self_iff.2 h.digits, List.dropWhile_eq_nil_iff.2 h.digits⟩

theorem number?_ofNat (n : Nat) : number? (Text.ofNat n) = some (.int n) := by
  have h := Text.isNumeral_ofNat n
  have hsign : ((Text.ofNat n).head? == some '-') = false := by
    rw [beq_eq_false_iff_ne]
    intro hm
    exact absurd (h.digits '-' (List.mem_of_mem_head? hm)) (by decide)
  simp [number?, hsign, takeWhile_isDigit h, digits?_of_isNumeral h]

theorem number?_numeral (n : Int) : number? (Text.numeral n) = some (.int n) := by
  cases n with
  | ofNat n => exact number?_ofNat n
  | negSucc n =>
    have h := Text.isNumeral_ofNat (n + 1)
    simp [number?, Text.numeral, takeWhile_isDigit h, digits?_of_isNumeral h, Int.negSucc_eq]

theorem isDigit_or_minus_of_mem_numeral {n : Int} {c : Char} (h : c ∈ Text.numeral n) :
    c.isDigit = true ∨ c = '-' := by
  cases n with
  | ofNat n => exact Or.inl (Text.isDigit_of_mem_ofNat h)
  | negSucc n =>
    rcases List.mem_cons.1 h with rfl | h
    · exact Or.inr rfl
    · exact Or.inl (Text.isDigit_of_mem_ofNat h)

theorem word?_numeral (n : Int) : word? (Text.numeral n) = some (.int n) := by
  have hne {w : Text} (c : Char) (hc : c ∈ w) (hn : ¬(c.isDigit = true ∨ c = '-')) :
      Text.numeral n ≠ w := fun he => hn (isDigit_or_minus_of_mem_numeral (he ▸ hc))
  rw [word?, if_neg (hne 'l' (by decide) (by decide)), if_neg (hne 'e' (by decide) (by decide)),
    if_neg (hne 'e' (by decide) (by decide)), if_neg (hne 'a' (by decide) (by decide)),
    if_neg (hne 'y' (by decide) (by decide)), if_neg (hne 'y' (by decide) (by decide)),
    number?_numeral]

theorem isWordChar_of_mem_numeral {n : Int} {c : Char} (h : c ∈ Text.numeral n) :
    isWordChar c = true := by
  rcases isDigit_or_minus_of_mem_numeral h with hd | rfl
  · simp [isWordChar, Char.isAlphanum, hd]
  · decide

/-! Values in progress. -/

inductive Yields (v : Value) (stack : List Frame) : State → Prop
  | complete : Yields v stack (.complete v stack)
  | word {done : List Char} (h : word? done.reverse = some v) : Yields v stack (.word done stack)

theorem Yields.step {v : Value} {stack : List Frame} {state : State} (h : Yields v stack state)
    {c : Char} (hc : isWordChar c = false) : Json.step state c = afterValue v c stack := by
  cases h with
  | complete => rfl
  | word h => simp [Json.step, hc, h]

theorem Yields.finish {v : Value} {state : State} (h : Yields v [] state) :
    state.finish = some v := by
  cases h with
  | complete => rfl
  | word h => exact h

structure IsForm (t : Text) (v : Value) : Prop where
  first : ∃ c rest, t = c :: rest ∧ isSpace c = false ∧ c ≠ ']'
  yields : ∀ stack, Yields v stack (t.foldl step (.expectValue stack))

theorem IsForm.read {t : Text} {v : Value} (h : IsForm t v) : read t = some v :=
  (h.yields []).finish

theorem IsForm.yields_item {t : Text} {v : Value} (h : IsForm t v) (rest : Text)
    (stack : List Frame) :
    (t ++ rest).foldl step (.expectItem stack) =
      (t ++ rest).foldl step (.expectValue (.list [] :: stack)) := by
  obtain ⟨c, more, rfl, hspace, hend⟩ := h.first
  simp [step, hspace, hend]

theorem not_special_of_isWordChar {c : Char} (h : isWordChar c = true) :
    isSpace c = false ∧ c ≠ ']' ∧ c ≠ '[' ∧ c ≠ '\x7b' ∧ c ≠ '\x22' := by
  have hne (d : Char) (hd : isWordChar d = false) : c ≠ d := fun he => by
    rw [he, hd] at h
    cases h
  have hspace : isSpace c = false := by
    simp [isSpace, hne ' ' (by decide), hne '\t' (by decide), hne '\n' (by decide),
      hne '\r' (by decide)]
  exact ⟨hspace, hne ']' (by decide), hne '[' (by decide), hne '\x7b' (by decide),
    hne '\x22' (by decide)⟩

theorem foldl_step_word {t : Text} (h : ∀ c ∈ t, isWordChar c = true) (done : List Char)
    (stack : List Frame) : t.foldl step (.word done stack) = .word (t.reverse ++ done) stack := by
  induction t generalizing done with
  | nil => rfl
  | cons c t ih =>
    have hc : step (.word done stack) c = .word (c :: done) stack := by
      simp [step, h c (by simp)]
    rw [List.foldl_cons, hc, ih fun d hd => h d (by simp [hd])]
    simp

theorem isForm_word {t : Text} {v : Value} (hne : t ≠ []) (h : t.all isWordChar = true)
    (hv : word? t = some v) : IsForm t v := by
  obtain ⟨c, rest, rfl⟩ := List.exists_cons_of_ne_nil hne
  obtain ⟨hc, hrest⟩ := List.forall_mem_cons.1 (List.all_eq_true.1 h)
  obtain ⟨hspace, hclose, hlist, hdict, hquote⟩ := not_special_of_isWordChar hc
  refine ⟨⟨c, rest, rfl, hspace, hclose⟩, fun stack => ?_⟩
  have hstart : step (.expectValue stack) c = .word [c] stack := by
    simp [step, startValue, hspace, hlist, hdict, hquote, hc]
  rw [List.foldl_cons, hstart, foldl_step_word hrest]
  exact .word (by simpa using hv)

theorem isForm_writePoints (ps : List CodePoint) :
    IsForm (writePoints ps) (.ofPoints (CodePoint.paired ps)) := by
  refine ⟨⟨Text.doubleQuote, _, rfl, by decide, by decide⟩, fun stack => ?_⟩
  have hstart : step (.expectValue stack) Text.doubleQuote = .string .value .plain {} stack := rfl
  rw [writePoints, List.cons_append, List.foldl_cons, hstart, foldl_step_writePoints_tail]
  exact .complete

theorem isForm_writeText (t : Text) : IsForm (writeText t) (.text t) := by
  have h := isForm_writePoints (CodePoint.ofText t)
  rwa [writePoints_ofText, CodePoint.paired_ofText, Value.ofPoints_ofText] at h

/-! Containers. -/

theorem yields_items {rest : List Value} (hrest : ∀ item ∈ rest, IsForm (write item) item.told)
    {v : Value} {done : List Value} {stack : List Frame} {state : State}
    (h : Yields v (.list done :: stack) state) :
    ∃ last before, (last :: before).reverse = (v :: done).reverse ++ rest.map Value.told ∧
      Yields last (.list before :: stack)
        ((rest.flatMap fun item => ", ".toList ++ write item).foldl step state) := by
  induction rest generalizing v done state with
  | nil => exact ⟨v, done, by simp, h⟩
  | cons item rest ih =>
    have hcomma : ", ".toList.foldl step state = .expectValue (.list (v :: done) :: stack) := by
      have hstep := h.step (c := ',') (by decide)
      show step (step state ',') ' ' = _
      rw [hstep]
      rfl
    have hitem := (hrest item (by simp)).yields (.list (v :: done) :: stack)
    obtain ⟨last, before, hall, hlast⟩ := ih (fun item hi => hrest item (by simp [hi])) hitem
    refine ⟨last, before, by rw [hall]; simp, ?_⟩
    rwa [List.flatMap_cons, List.foldl_append, List.foldl_append, hcomma]

theorem isForm_items {items : List Value} (h : ∀ item ∈ items, IsForm (write item) item.told) :
    IsForm ('[' :: Text.join ", ".toList (items.map write) ++ [']']) (.list (items.map Value.told)) := by
  refine ⟨⟨'[', _, rfl, by decide, by decide⟩, fun stack => ?_⟩
  have hopen : step (.expectValue stack) '[' = .expectItem stack := rfl
  rw [List.cons_append, List.foldl_cons, hopen]
  cases items with
  | nil => exact .complete
  | cons item rest =>
    have hitem := h item (by simp)
    obtain ⟨last, before, hall, hlast⟩ :=
      yields_items (fun other hi => h other (List.mem_cons_of_mem item hi))
        (hitem.yields (.list [] :: stack))
    have hjoin : Text.join ", ".toList ((item :: rest).map write) ++ [']'] =
        write item ++ ((rest.flatMap fun item => ", ".toList ++ write item) ++ [']']) := by
      simp [Text.join, List.flatMap_map]
    rw [hjoin, hitem.yields_item, List.foldl_append, List.foldl_append, List.foldl_cons,
      hlast.step (by decide)]
    have hend : afterValue last ']' (.list before :: stack) =
        .complete (.list (last :: before).reverse) stack := rfl
    rw [List.foldl_nil, hend, hall]
    exact .complete

def writeEntry (entry : List CodePoint × Value) : Text :=
  writePoints entry.1 ++ ": ".toList ++ write entry.2

theorem foldl_step_key (canEnd : Bool) (entries : List (List CodePoint × Value))
    (key : List CodePoint) (stack : List Frame) :
    (writePoints key ++ ": ".toList).foldl step (.expectKey canEnd entries stack) =
      .expectValue (.dict entries (CodePoint.paired key) :: stack) := by
  have hstart : step (.expectKey canEnd entries stack) Text.doubleQuote =
      .string (.key entries) .plain {} stack := rfl
  rw [List.foldl_append, writePoints, List.cons_append, List.foldl_cons, hstart,
    foldl_step_writePoints_tail, endString]
  rfl

theorem yields_entry {entry : List CodePoint × Value} (h : IsForm (write entry.2) entry.2.told)
    (canEnd : Bool) (entries : List (List CodePoint × Value)) (stack : List Frame) :
    Yields entry.2.told (.dict entries (CodePoint.paired entry.1) :: stack)
      ((writeEntry entry).foldl step (.expectKey canEnd entries stack)) := by
  rw [writeEntry, List.foldl_append, foldl_step_key]
  exact h.yields _

theorem yields_entries {rest : List (List CodePoint × Value)}
    (hrest : ∀ entry ∈ rest, IsForm (write entry.2) entry.2.told) {v : Value}
    {done : List (List CodePoint × Value)} {key : List CodePoint} {stack : List Frame}
    {state : State}
    (h : Yields v (.dict done key :: stack) state) :
    ∃ last lastKey before,
      ((lastKey, last) :: before).reverse =
        ((key, v) :: done).reverse ++ rest.map Value.toldEntry ∧
      Yields last (.dict before lastKey :: stack)
        ((rest.flatMap fun entry => ", ".toList ++ writeEntry entry).foldl step state) := by
  induction rest generalizing v done key state with
  | nil => exact ⟨v, key, done, by simp, h⟩
  | cons entry rest ih =>
    have hcomma : ", ".toList.foldl step state = .expectKey false ((key, v) :: done) stack := by
      have hstep := h.step (c := ',') (by decide)
      show step (step state ',') ' ' = _
      rw [hstep]
      rfl
    have hentry := yields_entry (hrest entry (by simp)) false ((key, v) :: done) stack
    obtain ⟨last, lastKey, before, hall, hlast⟩ :=
      ih (fun entry he => hrest entry (by simp [he])) hentry
    refine ⟨last, lastKey, before, by rw [hall]; simp [Value.toldEntry], ?_⟩
    rwa [List.flatMap_cons, List.foldl_append, List.foldl_append, hcomma]

theorem isForm_entries {entries : List (List CodePoint × Value)}
    (h : ∀ entry ∈ entries, IsForm (write entry.2) entry.2.told) :
    IsForm ('\x7b' :: Text.join ", ".toList (entries.map writeEntry) ++ ['\x7d'])
      (.dict (Ordered.putAll (entries.map Value.toldEntry) [])) := by
  refine ⟨⟨'\x7b', _, rfl, by decide, by decide⟩, fun stack => ?_⟩
  have hopen : step (.expectValue stack) '\x7b' = .expectKey true [] stack := rfl
  rw [List.cons_append, List.foldl_cons, hopen]
  cases entries with
  | nil => exact .complete
  | cons entry rest =>
    obtain ⟨last, lastKey, before, hall, hlast⟩ :=
      yields_entries (fun other he => h other (List.mem_cons_of_mem entry he))
        (yields_entry (h entry (by simp)) true [] stack)
    have hjoin : Text.join ", ".toList ((entry :: rest).map writeEntry) ++ ['\x7d'] =
        writeEntry entry ++ (rest.flatMap fun entry => ", ".toList ++ writeEntry entry) ++ ['\x7d'] := by
      simp [Text.join, List.flatMap_map]
    have hend : afterValue last '\x7d' (.dict before lastKey :: stack) =
        .complete (close ((lastKey, last) :: before)) stack := rfl
    have hentries : ((lastKey, last) :: before).reverse = (entry :: rest).map Value.toldEntry := hall
    rw [hjoin, List.foldl_append, List.foldl_append, List.foldl_cons, hlast.step (by decide),
      List.foldl_nil, hend, close, hentries]
    exact .complete

theorem isForm_write {v : Value} (h : v.IsPlain) : IsForm (write v) v.told := by
  induction h with
  | null => exact isForm_word (by decide) (by decide) rfl
  | bool b =>
    cases b with
    | false => exact isForm_word (by decide) (by decide) rfl
    | true => exact isForm_word (by decide) (by decide) rfl
  | int n =>
    refine isForm_word ?_ (List.all_eq_true.2 fun c hc => isWordChar_of_mem_numeral hc) (word?_numeral n)
    cases n with
    | ofNat n => exact Text.ofNat_ne_nil n
    | negSucc n => exact List.cons_ne_nil '-' (Text.ofNat (n + 1))
  | text t => exact isForm_writeText t
  | points ps => exact isForm_writePoints ps
  | bytes b => exact isForm_writeText _
  | list _ ih =>
    rw [write, writeItems_eq_map, Value.told, Value.toldItems_eq_map]
    exact isForm_items ih
  | tuple _ ih =>
    rw [write, writeItems_eq_map, Value.told, Value.toldItems_eq_map]
    exact isForm_items ih
  | dict _ _ ih =>
    rw [write, writeEntries_eq_map, Value.told, Value.toldEntries_eq_map]
    exact isForm_entries ih

theorem read_write {v : Value} (h : v.IsPlain) : read (write v) = some v.told := (isForm_write h).read

/-! All of it is printable ASCII. -/

theorem all_join {p : Char → Bool} {separator : Text} {pieces : List Text}
    (hs : separator.all p = true) (h : ∀ piece ∈ pieces, piece.all p = true) :
    (Text.join separator pieces).all p = true := by
  cases pieces with
  | nil => rfl
  | cons piece rest =>
    have hrest : rest.all (fun piece => piece.all p) = true :=
      List.all_eq_true.2 fun piece hp => h piece (by simp [hp])
    simpa [Text.join, List.all_flatMap, h piece (by simp), hs] using hrest

theorem all_isGraphic_joined {opening closing : Char} {pieces : List Text}
    (ho : isGraphic opening = true) (hc : isGraphic closing = true)
    (h : ∀ piece ∈ pieces, piece.all isGraphic = true) :
    (opening :: Text.join ", ".toList pieces ++ [closing]).all isGraphic = true := by
  have hseparator : ", ".toList.all isGraphic = true := by decide
  have hall := all_join hseparator h
  simp only [List.cons_append, List.all_cons, List.all_append, List.all_nil, ho, hc, hall,
    Bool.and_self]

theorem all_isGraphic_write {v : Value} (h : v.IsPlain) : (write v).all isGraphic = true := by
  induction h with
  | null => decide
  | bool b => cases b <;> decide
  | int n => exact Text.all_isGraphic_numeral n
  | text t => exact all_isGraphic_writeText t
  | points ps => exact all_isGraphic_writePoints ps
  | bytes b => exact all_isGraphic_writeText _
  | list _ ih =>
    rw [write, writeItems_eq_map]
    exact all_isGraphic_joined (by decide) (by decide) (List.forall_mem_map.2 ih)
  | tuple _ ih =>
    rw [write, writeItems_eq_map]
    exact all_isGraphic_joined (by decide) (by decide) (List.forall_mem_map.2 ih)
  | dict _ _ ih =>
    have hcolon : ": ".toList.all isGraphic = true := by decide
    rw [write, writeEntries_eq_map]
    refine all_isGraphic_joined (by decide) (by decide) (List.forall_mem_map.2 fun entry he => ?_)
    rw [List.all_append, List.all_append, all_isGraphic_writePoints, hcolon, ih entry he]
    rfl

end Json
end GreetingServer
