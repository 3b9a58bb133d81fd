import GreetingServer.Clock
import GreetingServer.Http.ContentLength
import GreetingServer.Http.ResponseHead
import GreetingServer.Http.Target
import GreetingServer.Mime.Nesting

/-! Faults that do not pass unnoticed. What is wrong with the length, the target or the media types
of a request never looks like a peer that is gone or silent, nor does it end the run. The same goes
for what keeps the head of a response from being written. -/
namespace GreetingServer

namespace Fault

/-- The text of the fault can be told to the peer. -/
def IsTellable (f : Fault) : Prop := ∃ text, f.IsTold text

theorem isTellable_iff (f : Fault) :
    f.IsTellable ↔ ∃ ps, f.text = .ok ps ∧ (CodePoint.text? ps).isSome = true := by
  constructor
  · rintro ⟨text, ht⟩
    exact ⟨_, ht, by simp⟩
  · rintro ⟨ps, ht, hp⟩
    obtain ⟨text, hp⟩ := Option.isSome_iff_exists.1 hp
    exact ⟨text, ht.trans (congrArg Except.ok (CodePoint.ofText_of_text? hp).symm)⟩

instance : DecidablePred IsTellable := fun f =>
  match h : f.text with
  | .ok ps => decidable_of_iff ((CodePoint.text? ps).isSome = true) (by simp [isTellable_iff, h])
  | .error _ => isFalse (by simp [isTellable_iff, h])

def message (f : Fault) : Text :=
  match f.text with
  | .ok ps => CodePoint.replaced ps
  | .error _ => []

/-- A connection that ends by the fault ends with an entry about it, and what it says can be told to
the peer. -/
structure IsNews (f : Fault) : Prop where
  isInterrupt : f.isInterrupt = false
  isSilent : f.isSilent = false
  isTellable : f.IsTellable

theorem IsTold.message_eq {f : Fault} {text : Text} (h : f.IsTold text) : f.message = text := by
  rw [message, show f.text = _ from h]
  exact CodePoint.replaced_ofText text

theorem IsTellable.isTold {f : Fault} (h : f.IsTellable) : f.IsTold f.message := by
  obtain ⟨text, ht⟩ := h
  rwa [ht.message_eq]

theorem isTellable_of (kind : Kind) (text : Text) : (of kind text).IsTellable := ⟨text, rfl⟩

theorem isTold_ofErrorNumber {number : Nat} (h : number < 100000) (message : Text) :
    (ofErrorNumber number message).IsTold
      ("[Errno ".toList ++ Text.ofNat number ++ "] ".toList ++ message) := by
  have hcheck : (Value.tuple [.int number, .text message]).checkNumerals = .ok () := by
    simp [Value.checkNumerals, Value.checkItems, Text.ofInt_of_lt h, Except.map]
  rw [IsTold, ofErrorNumber, describeSystem, hcheck, Value.displayPoints_int,
    Text.numeral_natCast, Value.displayPoints_text]
  simp only [Except.map, describeFiles, CodePoint.ofText_append]
  exact congrArg Except.ok (List.append_nil _)

theorem exists_error_ofErrorNumber {number : Int} (h : ¬∃ t, Text.ofInt number = .ok t)
    (message : Text) : ∃ e, (ofErrorNumber number message).text = .error e := by
  cases hn : Text.ofInt number with
  | ok t => exact absurd ⟨t, hn⟩ h
  | error e =>
    have hcheck : (Value.tuple [.int number, .text message]).checkNumerals = .error e := by
      simp only [Value.checkNumerals, Value.checkItems, hn, Except.map]
    exact ⟨e, by rw [ofErrorNumber, describeSystem, hcheck]; rfl⟩

theorem isNews_of {kind : Kind} {text : Text} (hi : (of kind text).isInterrupt = false)
    (hs : (of kind text).isSilent = false) : (of kind text).IsNews :=
  ⟨hi, hs, isTellable_of kind text⟩

theorem IsNews.withContext {f : Fault} (h : f.IsNews) (context : Option Fault) :
    ({ f with context } : Fault).IsNews := ⟨h.isInterrupt, h.isSilent, h.isTellable⟩

end Fault

def FailsLoudly {α : Type} (result : Except Fault α) : Prop := ∀ f, result = .error f → f.IsNews

section
variable {α β : Type}

theorem failsLoudly_ok (a : α) : FailsLoudly (.ok a) := by
  intro f h
  cases h

theorem failsLoudly_error {f : Fault} (h : f.IsNews) : FailsLoudly (.error f : Except Fault α) := by
  intro g hg
  rwa [← Except.error.inj hg]

/-- What the server itself finds wrong is told in its own words. -/
theorem failsLoudly_of {kind : Fault.Kind} {text : Text}
    (hi : (Fault.of kind text).isInterrupt = false) (hs : (Fault.of kind text).isSilent = false) :
    FailsLoudly (.error (Fault.of kind text) : Except Fault α) :=
  failsLoudly_error (Fault.isNews_of hi hs)

theorem FailsLoudly.map {result : Except Fault α} (h : FailsLoudly result) (f : α → β) :
    FailsLoudly (result.map f) := by
  cases result with
  | error fault => exact failsLoudly_error (h fault rfl)
  | ok a => exact failsLoudly_ok (f a)

theorem FailsLoudly.error {result : Except Fault α} (h : FailsLoudly result) {f : Fault}
    (hf : result = .error f) : FailsLoudly (.error f : Except Fault β) :=
  failsLoudly_error (h f hf)

end

theorem Fault.isNews_ofNumeral (t : Text) (e : Text.NumeralError) : (Fault.ofNumeral t e).IsNews := by
  cases e <;> exact isNews_of rfl rfl

/-- A number with too many digits is news. -/
theorem Fault.failsLoudly_written {α : Type} (x : Except Text.NumeralError α) :
    FailsLoudly (Fault.written x) := by
  cases x with
  | ok a => exact failsLoudly_ok a
  | error e => exact failsLoudly_error ⟨rfl, rfl, _, rfl⟩

theorem Fault.failsLoudly_scalarText (ps : List CodePoint) : FailsLoudly (Fault.scalarText ps) := by
  unfold Fault.scalarText
  split
  · exact failsLoudly_ok _
  · exact failsLoudly_error ⟨rfl, rfl, _, rfl⟩

namespace RunSort
variable {α : Type} {before : α → α → Except Fault Bool}

theorem failsLoudly_takeWhile (h : ∀ x y, FailsLoudly (before x y)) (last : α) (elements : List α) :
    FailsLoudly (takeWhile before last elements) := by
  induction elements generalizing last with
  | nil => exact failsLoudly_ok _
  | cons x rest ih =>
    rw [takeWhile]
    split
    · rename_i hb
      exact (h _ _).error hb
    · exact failsLoudly_ok _
    · split
      · rename_i hw
        exact (ih x).error hw
      · exact failsLoudly_ok _

theorem failsLoudly_takeRun (h : ∀ x y, FailsLoudly (before x y)) (elements : List α) :
    FailsLoudly (takeRun before elements) := by
  unfold takeRun
  split
  · split
    · rename_i hb
      exact (h _ _).error hb
    · exact (failsLoudly_takeWhile (fun x y => h y x) _ _).map _
    · exact (failsLoudly_takeWhile (fun x y => (h y x).map _) _ _).map _
  · exact failsLoudly_ok _

theorem failsLoudly_insert (h : ∀ x y, FailsLoudly (before x y)) (x : α) (run : List α) :
    FailsLoudly (insert before x run) := by
  induction run with
  | nil => exact failsLoudly_ok _
  | cons y rest ih =>
    rw [insert]
    split
    · rename_i hb
      exact (h _ _).error hb
    · exact failsLoudly_ok _
    · exact ih.map _

theorem failsLoudly_insertAll (h : ∀ x y, FailsLoudly (before x y)) (run elements : List α) :
    FailsLoudly (insertAll before run elements) := by
  induction elements generalizing run with
  | nil => exact failsLoudly_ok _
  | cons x rest ih =>
    rw [insertAll]
    split
    · rename_i hi
      exact (failsLoudly_insert h x run).error hi
    · exact ih _

theorem failsLoudly_merge (h : ∀ x y, FailsLoudly (before x y)) (first second : List α) :
    FailsLoudly (merge before first second) := by
  fun_induction merge before first second with
  | case1 => exact failsLoudly_ok _
  | case2 => exact failsLoudly_ok _
  | case3 x first y second fault hb => exact (h _ _).error hb
  | case4 x first y second hb ih => exact ih.map _
  | case5 x first y second hb ih => exact ih.map _

theorem failsLoudly_settle (h : ∀ x y, FailsLoudly (before x y)) (depth : Nat)
    (runs : List (Run α)) : FailsLoudly (settle before depth runs) := by
  fun_induction settle before depth runs with
  | case1 last first below hd fault hm => exact (failsLoudly_merge h _ _).error hm
  | case2 last first below hd elements hm ih => exact ih
  | case3 => exact failsLoudly_ok _
  | case4 => exact failsLoudly_ok _

theorem failsLoudly_push (h : ∀ x y, FailsLoudly (before x y)) (total : Nat) (elements : List α)
    (runs : List (Run α)) : FailsLoudly (push before total elements runs) := by
  unfold push
  split
  · exact failsLoudly_ok _
  · exact (failsLoudly_settle h _ _).map _

theorem failsLoudly_collect (h : ∀ x y, FailsLoudly (before x y)) (total : Nat)
    (runs : List (Run α)) (limit : Nat) (elements : List α) :
    FailsLoudly (collect before total runs limit elements) := by
  induction limit generalizing runs elements with
  | zero => exact failsLoudly_ok _
  | succ limit ih =>
    cases elements with
    | nil => exact failsLoudly_ok _
    | cons x rest =>
      simp only [collect]
      split
      · rename_i hr
        exact (failsLoudly_takeRun h _).error hr
      · split
        · rename_i hi
          exact (failsLoudly_insertAll h _ _).error hi
        · split
          · rename_i hp
            exact (failsLoudly_push h total _ runs).error hp
          · exact ih _ _

theorem failsLoudly_finish (h : ∀ x y, FailsLoudly (before x y)) (runs : List (Run α)) :
    FailsLoudly (finish before runs) := by
  fun_induction finish before runs with
  | case1 => exact failsLoudly_ok _
  | case2 => exact failsLoudly_ok _
  | case3 last first => exact failsLoudly_merge h _ _
  | case4 last second first below hl fault hm => exact (failsLoudly_merge h _ _).error hm
  | case5 last second first below hl elements hm ih => exact ih
  | case6 last second first below hl fault hm => exact (failsLoudly_merge h _ _).error hm
  | case7 last second first below hl elements hm ih => exact ih

theorem failsLoudly_sort (h : ∀ x y, FailsLoudly (before x y)) (elements : List α) :
    FailsLoudly (sort before elements) := by
  unfold sort
  split
  · rename_i hc
    exact (failsLoudly_collect h _ _ _ _).error hc
  · exact failsLoudly_finish h _

end RunSort

namespace Mime

theorem failsLoudly_segmentNumber (digits : Text) : FailsLoudly (segmentNumber digits) := by
  unfold segmentNumber
  split
  · exact failsLoudly_ok _
  · split
    · exact failsLoudly_ok _
    · exact failsLoudly_error (Fault.isNews_ofNumeral digits _)

theorem failsLoudly_itemOf (name value : Text) : FailsLoudly (itemOf name value) := by
  unfold itemOf
  split
  · exact (failsLoudly_segmentNumber _).map _
  · exact failsLoudly_ok _

theorem failsLoudly_itemsOf (pieces : List Text) : FailsLoudly (itemsOf pieces) := by
  induction pieces with
  | nil => exact failsLoudly_ok _
  | cons piece rest ih =>
    rw [itemsOf]
    split
    · rename_i hi
      exact (failsLoudly_itemOf _ _).error hi
    · exact ih.map _

theorem Segment.failsLoudly_isBefore (a b : Segment) : FailsLoudly (a.isBefore b) := by
  unfold Segment.isBefore
  split
  · exact failsLoudly_ok _
  · exact failsLoudly_ok _
  · exact failsLoudly_of rfl rfl

namespace Parameter

theorem failsLoudly_ofSegments (segments : List Segment) : FailsLoudly (ofSegments segments) :=
  (RunSort.failsLoudly_sort Segment.failsLoudly_isBefore segments).map _

theorem failsLoudly_joined (items : List Item) (names : List Text) :
    FailsLoudly (joined items names) := by
  induction names with
  | nil => exact failsLoudly_ok _
  | cons name rest ih =>
    rw [joined]
    split
    · rename_i hs
      exact (failsLoudly_ofSegments _).error hs
    · exact ih.map _

theorem failsLoudly_ofValue (value : Text) : FailsLoudly (ofValue value) := by
  unfold ofValue
  split
  · rename_i hi
    exact (failsLoudly_itemsOf _).error hi
  · exact (failsLoudly_joined _ _).map _

end Parameter
end Mime

theorem Charset.failsLoudly_settle (name : Text) (r : Refusal) : FailsLoudly (r.settle name) := by
  cases r with
  | unspelled => exact failsLoudly_ok _
  | beyondAscii byte position => exact failsLoudly_error ⟨rfl, rfl, _, rfl⟩
  | unsupported complaint => exact failsLoudly_error ⟨rfl, rfl, _, rfl⟩
  | internal => exact failsLoudly_error ⟨rfl, rfl, _, rfl⟩

theorem Charset.failsLoudly_read? (name bytes : Text) : FailsLoudly (read? name bytes) := by
  unfold read?
  split
  · exact failsLoudly_of rfl rfl
  · split
    · exact failsLoudly_ok _
    · split
      · exact failsLoudly_ok _
      · split
        · exact failsLoudly_ok _
        · exact (failsLoudly_settle name _).map _

namespace Mime

theorem Parameter.failsLoudly_decode (p : Parameter) : FailsLoudly p.decode := by
  cases p with
  | plain t => exact failsLoudly_ok _
  | extended charset t => exact (Charset.failsLoudly_read? _ t).map _

namespace MediaType

theorem failsLoudly_boundaryOf (value : Text) : FailsLoudly (boundaryOf value) := by
  unfold boundaryOf
  split
  · rename_i hp
    exact (Parameter.failsLoudly_ofValue value).error hp
  · split
    · exact failsLoudly_ok _
    · exact (Parameter.failsLoudly_decode _).map _

theorem failsLoudly_ofValue (value : Text) : FailsLoudly (ofValue value) := by
  simp only [ofValue]
  split
  · exact failsLoudly_ok _
  · split
    · exact failsLoudly_ok _
    · split
      · exact (failsLoudly_boundaryOf value).map _
      · exact failsLoudly_ok _

theorem failsLoudly_ofHeaders (headers : Http.Headers) (inDigest : Bool) :
    FailsLoudly (ofHeaders headers inDigest) := by
  unfold ofHeaders
  split
  · exact failsLoudly_ofValue _
  · exact failsLoudly_ok _

end MediaType

namespace Nesting

theorem failsLoudly_check (n : Nesting) : FailsLoudly n.check := by
  unfold check
  split
  · exact (MediaType.failsLoudly_ofHeaders _ _).map _
  · exact failsLoudly_ok _

theorem failsLoudly_checkDepth (n : Nesting) : FailsLoudly n.checkDepth := by
  unfold checkDepth
  split
  · exact failsLoudly_ok _
  · exact failsLoudly_of rfl rfl

theorem failsLoudly_take (n : Nesting) (line : Text) : FailsLoudly (n.take line) := by
  unfold take
  split
  · split
    · exact failsLoudly_ok _
    · exact (MediaType.failsLoudly_ofHeaders _ _).map _
  · exact failsLoudly_ok _
  · exact failsLoudly_ok _
  · split <;> exact failsLoudly_ok _
  · split <;> exact failsLoudly_ok _

theorem failsLoudly_step (n : Nesting) (line : Text) : FailsLoudly (n.step line) := by
  unfold step
  split
  · exact n.failsLoudly_check.map _
  · split
    · rename_i ht
      exact (n.failsLoudly_take line).error ht
    · exact failsLoudly_checkDepth _

theorem failsLoudly_run (n : Nesting) (lines : List Text) : FailsLoudly (n.run lines) := by
  induction lines generalizing n with
  | nil => exact n.failsLoudly_check
  | cons line rest ih =>
    rw [run]
    split
    · rename_i hs
      exact (n.failsLoudly_step line).error hs
    · exact ih _

end Nesting

theorem failsLoudly_checkTypes (block : Text) : FailsLoudly (checkTypes block) :=
  Nesting.failsLoudly_run _ _

end Mime

namespace Http

theorem ContentLength.failsLoudly_ofHeaders (headers : Headers) :
    FailsLoudly (ofHeaders headers) := by
  unfold ofHeaders
  split
  · exact failsLoudly_ok _
  · unfold ofValue
    split
    · exact failsLoudly_of rfl rfl
    · split
      · exact failsLoudly_ok _
      · exact failsLoudly_error (Fault.isNews_ofNumeral _ _)

namespace Target

theorem failsLoudly_checkHost (host : Text) : FailsLoudly (checkHost host) := by
  unfold checkHost
  split
  · split
    · exact failsLoudly_ok _
    · exact failsLoudly_of rfl rfl
  · split
    · exact failsLoudly_of rfl rfl
    · split
      · exact failsLoudly_ok _
      · exact failsLoudly_of rfl rfl

theorem failsLoudly_checkBrackets (authority : Text) : FailsLoudly (checkBrackets authority) := by
  simp only [checkBrackets]
  split
  · exact failsLoudly_checkHost _
  · split
    · exact failsLoudly_of rfl rfl
    · split
      · exact failsLoudly_checkHost _
      · exact failsLoudly_checkHost _
      · exact failsLoudly_of rfl rfl

theorem failsLoudly_checkAuthority (authority : Text) : FailsLoudly (checkAuthority authority) := by
  unfold checkAuthority
  split
  · exact failsLoudly_ok _
  · exact failsLoudly_checkBrackets authority
  · exact failsLoudly_of rfl rfl

theorem failsLoudly_dropAuthority (target : Text) : FailsLoudly (dropAuthority target) := by
  unfold dropAuthority
  split
  · simp only
    split
    · exact failsLoudly_ok _
    · rename_i hf
      exact (failsLoudly_checkAuthority _).error hf
  · exact failsLoudly_ok _

theorem failsLoudly_path (target : Text) : FailsLoudly (path target) := by
  unfold path
  split
  · exact failsLoudly_ok _
  · rename_i hf
    exact (failsLoudly_dropAuthority _).error hf

end Target

namespace ResponseHead

theorem kind_of_encodeLine {line : Text} {f : Fault} (h : encodeLine line = .error f) :
    f.kind = .unencodable := by
  unfold encodeLine at h
  split at h
  · cases h
  · rw [← Except.error.inj h]
    rfl

/-- What keeps lines from being written is a character that Latin-1 does not have. -/
theorem kind_of_encodeLines {lines : List Text} {f : Fault} (h : encodeLines lines = .error f) :
    f.kind = .unencodable := by
  induction lines with
  | nil => cases h
  | cons line rest ih =>
    rw [encodeLines] at h
    split at h
    · rename_i hline
      exact kind_of_encodeLine (hline.trans (congrArg Except.error (Except.error.inj h)))
    · split at h
      · rename_i hrest
        exact ih (hrest.trans (congrArg Except.error (Except.error.inj h)))
      · cases h

theorem failsLoudly_encodeLine (line : Text) : FailsLoudly (encodeLine line) := by
  unfold encodeLine
  split
  · exact failsLoudly_ok _
  · exact failsLoudly_of rfl rfl

theorem failsLoudly_encodeLines (lines : List Text) : FailsLoudly (encodeLines lines) := by
  induction lines with
  | nil => exact failsLoudly_ok _
  | cons line rest ih =>
    rw [encodeLines_cons]
    split
    · rename_i hline
      exact (failsLoudly_encodeLine line).error hline
    · exact ih.map _

theorem failsLoudly_statusBytes (r : Response) : FailsLoudly (statusBytes r) := by
  unfold statusBytes statusLine
  cases Text.ofInt r.status with
  | error e => exact failsLoudly_error ⟨rfl, rfl, _, rfl⟩
  | ok numeral => exact failsLoudly_encodeLine _

end ResponseHead
end Http

theorem Instant.failsLoudly_httpDate (now : Instant) : FailsLoudly now.httpDate := by
  simp only [httpDate]
  split
  · exact failsLoudly_of rfl rfl
  · split
    · exact failsLoudly_error ⟨rfl, rfl, _, Fault.isTold_ofErrorNumber (by decide) _⟩
    · split
      · exact failsLoudly_ok _
      · exact failsLoudly_of rfl rfl

end GreetingServer
