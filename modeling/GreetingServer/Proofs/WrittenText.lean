import GreetingServer.Json.Reader
import GreetingServer.Json.Writer
import GreetingServer.Proofs.WrittenResponse
import Mathlib.Data.List.Chain

/-! Strings of JSON texts. A string is written in printable ASCII and read back as it was, with one
exception: two surrogates that together are the units of a character are read as that character,
since it is written in the same way. -/
namespace GreetingServer
namespace Text

theorem hexadecimal_succ {length : Nat} (h : 0 < length) (n : Nat) :
    hexadecimal (length + 1) n = hexadecimal length (n / 16) ++ [(n % 16).digitChar] := by
  obtain ⟨k, rfl⟩ := Nat.exists_eq_succ_of_ne_zero (Nat.ne_of_gt h)
  rcases Nat.lt_or_ge n 16 with hn | hn
  · have hzero : n / 16 = 0 := Nat.div_eq_of_lt hn
    have hdigit : Nat.toDigits 16 0 = ['0'] := rfl
    rw [hexadecimal, hexadecimal, hzero, Nat.mod_eq_of_lt hn, Nat.toDigits_of_lt_base hn, hdigit]
    simp [padLeft, List.replicate_succ']
  · rw [hexadecimal, hexadecimal, Nat.toDigits_of_base_le (by decide) hn]
    simp [padLeft]

theorem hexadecimal_one {n : Nat} (h : n < 16) : hexadecimal 1 n = [n.digitChar] := by
  simp [hexadecimal, padLeft, Nat.toDigits_of_lt_base h]

theorem hexadecimal_four {n : Nat} (h : n < 0x10000) :
    hexadecimal 4 n = [(n / 16 / 16 / 16).digitChar, (n / 16 / 16 % 16).digitChar,
      (n / 16 % 16).digitChar, (n % 16).digitChar] := by
  have hfirst : n / 16 / 16 / 16 < 16 := by omega
  rw [hexadecimal_succ (by decide), hexadecimal_succ (by decide), hexadecimal_succ (by decide),
    hexadecimal_one hfirst]
  rfl

theorem hexadecimalValue?_digitChar {d : Nat} (h : d < 16) :
    hexadecimalValue? d.digitChar = some d := by
  have hall : ∀ d : Fin 16, hexadecimalValue? d.val.digitChar = some d.val := by decide
  exact hall ⟨d, h⟩

theorem isGraphic_digitChar {d : Nat} (h : d < 16) : isGraphic d.digitChar = true := by
  have hall : ∀ d : Fin 16, isGraphic d.val.digitChar = true := by decide
  exact hall ⟨d, h⟩

end Text

namespace CodePoint

def ofPair (high low : Nat) : CodePoint := .char (Char.ofNat (0x10000 + high * 0x400 + low))

def IsPair : CodePoint → CodePoint → Prop
  | .surrogate high, .surrogate low => high.val < 0x400 ∧ 0x400 ≤ low.val
  | _, _ => False

def paired : List CodePoint → List CodePoint
  | .surrogate high :: .surrogate low :: rest =>
    if high.val < 0x400 ∧ 0x400 ≤ low.val then ofPair high (low - 0x400) :: paired rest
    else .surrogate high :: paired (.surrogate low :: rest)
  | p :: rest => p :: paired rest
  | [] => []

theorem ofNat_surrogate (i : Fin 0x800) : ofNat (firstSurrogate + i) = .surrogate i := by
  have hi : firstSurrogate ≤ firstSurrogate + i.val ∧ firstSurrogate + i.val < firstSurrogate + 0x800 :=
    ⟨Nat.le_add_right .., Nat.add_lt_add_left i.isLt _⟩
  rw [ofNat, dif_pos hi]
  simp

@[simp] theorem paired_char (c : Char) (rest : List CodePoint) :
    paired (.char c :: rest) = .char c :: paired rest := rfl

@[simp] theorem paired_surrogate_char (i : Fin 0x800) (c : Char) (rest : List CodePoint) :
    paired (.surrogate i :: .char c :: rest) = .surrogate i :: .char c :: paired rest := rfl

theorem paired_pair {high low : Fin 0x800} (h : high.val < 0x400 ∧ 0x400 ≤ low.val)
    (rest : List CodePoint) :
    paired (.surrogate high :: .surrogate low :: rest) = ofPair high (low - 0x400) :: paired rest := by
  rw [paired, if_pos h]

theorem paired_surrogates {i j : Fin 0x800} (h : ¬(i.val < 0x400 ∧ 0x400 ≤ j.val))
    (rest : List CodePoint) :
    paired (.surrogate i :: .surrogate j :: rest) = .surrogate i :: paired (.surrogate j :: rest) := by
  rw [paired, if_neg h]

theorem paired_low {i : Fin 0x800} (h : 0x400 ≤ i.val) (rest : List CodePoint) :
    paired (.surrogate i :: rest) = .surrogate i :: paired rest := by
  match rest with
  | [] => rfl
  | .char c :: rest => rfl
  | .surrogate j :: rest => exact paired_surrogates (by omega) rest

theorem paired_of_isChain {ps : List CodePoint} (h : ps.IsChain fun p q => ¬IsPair p q) :
    paired ps = ps := by
  fun_induction paired ps with
  | case1 high low rest hpair ih =>
    rw [List.isChain_cons_cons] at h
    exact absurd hpair h.1
  | case2 high low rest hpair ih =>
    rw [List.isChain_cons_cons] at h
    rw [ih h.2]
  | case3 p rest hp ih => rw [ih h.tail]
  | case4 => rfl

theorem ofText_injective : Function.Injective ofText :=
  List.map_injective_iff.2 fun _ _ h => char.inj h

@[simp] theorem paired_ofText (t : Text) : paired (ofText t) = ofText t := by
  induction t with
  | nil => rfl
  | cons c t ih => exact congrArg (CodePoint.char c :: ·) ih

end CodePoint

namespace Json
open Text (isGraphic)

namespace Spelling

def take (s : Spelling) : CodePoint → Spelling
  | .char c => s.push c
  | .surrogate i => s.pushUnit (CodePoint.firstSurrogate + i)

theorem pushUnit_first (s : Spelling) {unit : Nat} (h : 0xd800 ≤ unit) (h' : unit < 0xdc00) :
    s.pushUnit unit = ⟨s.settle, some unit⟩ := by
  simp [pushUnit, h, h']

theorem pushUnit_second (done : List CodePoint) (high : Nat) {unit : Nat} (h : 0xdc00 ≤ unit)
    (h' : unit < 0xe000) :
    pushUnit ⟨done, some high⟩ unit =
      ⟨CodePoint.ofNat (0x10000 + (high - 0xd800) * 0x400 + (unit - 0xdc00)) :: done, none⟩ := by
  have hn : ¬unit < 0xdc00 := by omega
  simp [pushUnit, h, h', hn]

theorem pushUnit_second_alone (done : List CodePoint) {unit : Nat} (h : 0xdc00 ≤ unit)
    (h' : unit < 0xe000) : pushUnit ⟨done, none⟩ unit = ⟨CodePoint.ofNat unit :: done, none⟩ := by
  have hn : ¬unit < 0xdc00 := by omega
  simp [pushUnit, h, h', hn, pushPoint, settle]

theorem pushUnit_other (s : Spelling) {unit : Nat} (h : unit < 0xd800 ∨ 0xe000 ≤ unit) :
    s.pushUnit unit = s.push (Char.ofNat unit) := by
  have hfirst : ¬(0xd800 ≤ unit ∧ unit < 0xdc00) := by omega
  have hsecond : ¬(0xdc00 ≤ unit ∧ unit < 0xe000) := by omega
  simp [pushUnit, hfirst, hsecond]

theorem ofNat_pair {i j : Nat} (hi : i < 0x400) (hj : j < 0x400) :
    CodePoint.ofNat (0x10000 + i * 0x400 + j) = CodePoint.ofPair i j := by
  have h : ¬(CodePoint.firstSurrogate ≤ 0x10000 + i * 0x400 + j ∧
      0x10000 + i * 0x400 + j < CodePoint.firstSurrogate + 0x800) := by
    simp only [CodePoint.firstSurrogate]
    omega
  rw [CodePoint.ofNat, dif_neg h, CodePoint.ofPair]

/-- What is read of code points that are taken one after the other, when no first unit waits for a
second one, and when one does. -/
theorem points_foldl_take (ps : List CodePoint) :
    (∀ done, (ps.foldl take ⟨done, none⟩).points = done.reverse ++ CodePoint.paired ps) ∧
      ∀ done, ∀ i : Fin 0x800, i.val < 0x400 →
        (ps.foldl take ⟨done, some (CodePoint.firstSurrogate + i)⟩).points =
          done.reverse ++ CodePoint.paired (.surrogate i :: ps) := by
  induction ps with
  | nil =>
    refine ⟨fun done => by simp [points, settle, CodePoint.paired], fun done i _ => ?_⟩
    simp [points, settle, CodePoint.ofNat_surrogate, CodePoint.paired]
  | cons p ps ih =>
    cases p with
    | char c =>
      refine ⟨fun done => ?_, fun done i _ => ?_⟩
      · have htake : take ⟨done, none⟩ (.char c) = ⟨.char c :: done, none⟩ := rfl
        rw [List.foldl_cons, htake, ih.1]
        simp
      · have htake : take ⟨done, some (CodePoint.firstSurrogate + i)⟩ (.char c) =
            ⟨.char c :: .surrogate i :: done, none⟩ := by
          simp [take, push, pushPoint, settle, CodePoint.ofNat_surrogate]
        rw [List.foldl_cons, htake, ih.1]
        simp
    | surrogate j =>
      have hj := j.isLt
      have hfirst : CodePoint.firstSurrogate = 0xd800 := rfl
      rcases Nat.lt_or_ge j.val 0x400 with hlow | hlow
      · have htake (s : Spelling) : s.take (.surrogate j) =
            ⟨s.settle, some (CodePoint.firstSurrogate + j)⟩ :=
          pushUnit_first s (by omega) (by omega)
        refine ⟨fun done => ?_, fun done i _ => ?_⟩
        · rw [List.foldl_cons, htake, ih.2 _ j hlow]
          rfl
        · rw [List.foldl_cons, htake, ih.2 _ j hlow, CodePoint.paired_surrogates (by omega)]
          simp [settle, CodePoint.ofNat_surrogate]
      · refine ⟨fun done => ?_, fun done i hi => ?_⟩
        · have htake : take ⟨done, none⟩ (.surrogate j) = ⟨.surrogate j :: done, none⟩ := by
            rw [take, pushUnit_second_alone done (by omega) (by omega), CodePoint.ofNat_surrogate]
          rw [List.foldl_cons, htake, ih.1, CodePoint.paired_low hlow]
          simp
        · have htake : take ⟨done, some (CodePoint.firstSurrogate + i)⟩ (.surrogate j) =
              ⟨CodePoint.ofPair i (j - 0x400) :: done, none⟩ := by
            have hunit : CodePoint.firstSurrogate + j.val - 0xdc00 = j.val - 0x400 := by omega
            rw [take, pushUnit_second done _ (by omega) (by omega), hunit, hfirst,
              Nat.add_sub_cancel_left, ofNat_pair hi (by omega)]
          rw [List.foldl_cons, htake, ih.1, CodePoint.paired_pair ⟨hi, hlow⟩]
          simp

end Spelling

/-! Strings as they are written and read. -/

variable (role : Role) (s : Spelling) (stack : List Frame)

theorem foldl_step_escapeUnit {unit : Nat} (h : unit < 0x10000) :
    (escapeUnit unit).foldl step (.string role .plain s stack) =
      .string role .plain (s.pushUnit unit) stack := by
  have hfirst : unit / 16 / 16 / 16 < 16 := by omega
  have hvalue : 16 * (16 * (16 * (unit / 16 / 16 / 16) + unit / 16 / 16 % 16) + unit / 16 % 16) +
      unit % 16 = unit := by omega
  have hmod (n : Nat) : n % 16 < 16 := Nat.mod_lt _ (by decide)
  rw [escapeUnit, Text.hexadecimal_four h]
  simp [step, Text.hexadecimalValue?_digitChar, hfirst, hmod, hvalue]

theorem toNat_lt_or_gt (c : Char) : c.toNat < 0xd800 ∨ 0xe000 ≤ c.toNat ∧ c.toNat < 0x110000 := by
  have h : c.toNat < 0xd800 ∨ 0xdfff < c.toNat ∧ c.toNat < 0x110000 := c.valid
  omega

theorem foldl_step_escapeUnits {c : Char} (h : 0x10000 ≤ c.toNat) :
    (escapeUnit (0xd800 + (c.toNat - 0x10000) / 0x400) ++
        escapeUnit (0xdc00 + (c.toNat - 0x10000) % 0x400)).foldl step (.string role .plain s stack) =
      .string role .plain (s.push c) stack := by
  have hc := toNat_lt_or_gt c
  have hhigh : (c.toNat - 0x10000) / 0x400 < 0x400 := by omega
  have hlow : (c.toNat - 0x10000) % 0x400 < 0x400 := Nat.mod_lt _ (by decide)
  have hsum : 0x10000 + (c.toNat - 0x10000) / 0x400 * 0x400 + (c.toNat - 0x10000) % 0x400 = c.toNat := by
    omega
  rw [List.foldl_append, foldl_step_escapeUnit _ _ _ (by omega), foldl_step_escapeUnit _ _ _ (by omega),
    Spelling.pushUnit_first s (by omega) (by omega), Spelling.pushUnit_second _ _ (by omega) (by omega),
    Nat.add_sub_cancel_left, Nat.add_sub_cancel_left, Spelling.ofNat_pair hhigh hlow, CodePoint.ofPair,
    hsum, Char.ofNat_toNat]
  rfl

/-- The ways to write a character: by an escape that is one character, as it is, or by its units. -/
inductive Escape (c : Char) : Text → Prop
  | named {e : Char} (h : unescape e = some c) (hu : e ≠ 'u') (hg : isGraphic e = true) :
    Escape c ['\\', e]
  | plain (hq : c ≠ '\x22') (hb : c ≠ '\\') (hg : isGraphic c = true) : Escape c [c]
  | unit (h : c.toNat < 0x10000) : Escape c (escapeUnit c.toNat)
  | units (h : 0x10000 ≤ c.toNat) :
    Escape c (escapeUnit (0xd800 + (c.toNat - 0x10000) / 0x400) ++
      escapeUnit (0xdc00 + (c.toNat - 0x10000) % 0x400))

theorem escape_form (c : Char) : Escape c (escape c) := by
  unfold escape
  split_ifs with hq hb hn hr ht hf hs hg hu
  · exact .named (by rw [hq]; rfl) (by rw [hq]; decide) (by rw [hq]; decide)
  · exact .named (by rw [hb]; rfl) (by rw [hb]; decide) (by rw [hb]; decide)
  · exact .named (by rw [hn]; rfl) (by decide) (by decide)
  · exact .named (by rw [hr]; rfl) (by decide) (by decide)
  · exact .named (by rw [ht]; rfl) (by decide) (by decide)
  · exact .named (by rw [hf]; rfl) (by decide) (by decide)
  · exact .named (by rw [hs]; rfl) (by decide) (by decide)
  · exact .plain hq hb hg
  · exact .unit hu
  · exact .units (Nat.le_of_not_lt hu)

theorem foldl_step_escape (c : Char) :
    (escape c).foldl step (.string role .plain s stack) = .string role .plain (s.push c) stack := by
  have hform := escape_form c
  generalize escape c = t at hform ⊢
  cases hform with
  | named h hu hg =>
    have hslash : ¬('\\' : Char) = '\x22' := by decide
    simp [step, hslash, hu, h]
  | plain hq hb hg => simp [step, hq, hb]
  | unit h =>
    have hc := toNat_lt_or_gt c
    rw [foldl_step_escapeUnit _ _ _ h, Spelling.pushUnit_other s (by omega), Char.ofNat_toNat]
  | units h => exact foldl_step_escapeUnits role s stack h

theorem foldl_step_escapePoint (p : CodePoint) :
    (escapePoint p).foldl step (.string role .plain s stack) =
      .string role .plain (s.take p) stack := by
  cases p with
  | char c => exact foldl_step_escape role s stack c
  | surrogate i =>
    have hi := i.isLt
    have hfirst : CodePoint.firstSurrogate = 0xd800 := rfl
    exact foldl_step_escapeUnit role s stack (by omega)

theorem foldl_step_points (ps : List CodePoint) :
    (ps.flatMap escapePoint).foldl step (.string role .plain s stack) =
      .string role .plain (ps.foldl Spelling.take s) stack := by
  induction ps generalizing s with
  | nil => rfl
  | cons p ps ih =>
    rw [List.flatMap_cons, List.foldl_append, foldl_step_escapePoint, ih, List.foldl_cons]

theorem foldl_step_writePoints_tail (ps : List CodePoint) :
    (ps.flatMap escapePoint ++ [Text.doubleQuote]).foldl step (.string role .plain {} stack) =
      endString role (CodePoint.paired ps) stack := by
  rw [List.foldl_append, foldl_step_points]
  simp [step, Text.doubleQuote, (Spelling.points_foldl_take ps).1]

/-! All of it is printable ASCII. -/

theorem all_isGraphic_escapeUnit {unit : Nat} (h : unit < 0x10000) :
    (escapeUnit unit).all isGraphic = true := by
  have hfirst : unit / 16 / 16 / 16 < 16 := by omega
  have hmod (n : Nat) : n % 16 < 16 := Nat.mod_lt _ (by decide)
  have hslash : isGraphic '\\' = true := by decide
  have hu : isGraphic 'u' = true := by decide
  rw [escapeUnit, Text.hexadecimal_four h]
  simp [Text.isGraphic_digitChar, hfirst, hmod, hslash, hu]

theorem all_isGraphic_escape (c : Char) : (escape c).all isGraphic = true := by
  have hslash : isGraphic '\\' = true := by decide
  have hform := escape_form c
  generalize escape c = t at hform ⊢
  cases hform with
  | named h hu hg => simp [hslash, hg]
  | plain hq hb hg => simp [hg]
  | unit h => exact all_isGraphic_escapeUnit h
  | units h =>
    have hc := toNat_lt_or_gt c
    rw [List.all_append, all_isGraphic_escapeUnit (by omega), all_isGraphic_escapeUnit (by omega)]
    rfl

theorem all_isGraphic_escapePoint (p : CodePoint) : (escapePoint p).all isGraphic = true := by
  cases p with
  | char c => exact all_isGraphic_escape c
  | surrogate i =>
    have hi := i.isLt
    have hfirst : CodePoint.firstSurrogate = 0xd800 := rfl
    exact all_isGraphic_escapeUnit (by omega)

theorem all_isGraphic_writePoints (ps : List CodePoint) :
    (writePoints ps).all isGraphic = true := by
  have hquote : isGraphic Text.doubleQuote = true := by decide
  have hall : ps.all (fun p => (escapePoint p).all isGraphic) = true :=
    List.all_eq_true.2 fun p _ => all_isGraphic_escapePoint p
  simpa [writePoints, List.all_flatMap, hquote] using hall

theorem all_isGraphic_writeText (t : Text) : (writeText t).all isGraphic = true := by
  rw [← writePoints_ofText]
  exact all_isGraphic_writePoints _

end Json
end GreetingServer
