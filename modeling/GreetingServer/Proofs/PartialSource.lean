import GreetingServer.Proofs.WholeHead

/-! Sources that hold only the first of some bytes. What is read of such a source is what is read of
one that holds all of them, unless a byte is needed that is not there. Then the fault of the source
is told, if it has one, and if it simply ends then nothing is left of it. -/
namespace GreetingServer

namespace Source

/-- Results of reading the first of some bytes, which the source ends or fails behind, and of
reading all of them, with more bytes behind the first ones. A fault of the source is told by `lost`.
-/
inductive Agrees {ε α : Type} (lost : Fault → ε) (failure ending : Option Fault) (more : Bytes) :
    Except ε (α × Source) → Except ε (α × Source) → Prop
  /-- Neither reading goes on, for the same reason. -/
  | stopped (e : ε) : Agrees lost failure ending more (.error e) (.error e)
  | same (value : α) (rest : Bytes) :
      Agrees lost failure ending more (.ok (value, ⟨rest, failure⟩))
        (.ok (value, ⟨rest ++ more, ending⟩))
  | failed {fault : Fault} (h : failure = some fault) (whole : Except ε (α × Source)) :
      Agrees lost failure ending more (.error (lost fault)) whole
  | ended {part : Except ε (α × Source)} (h : failure = none)
      (hpart : ∀ value s, part = .ok (value, s) → s = ⟨[], none⟩) (whole : Except ε (α × Source)) :
      Agrees lost failure ending more part whole

variable {bytes more : Bytes} {failure ending : Option Fault}

/-- Results that agree still do when something is made of what is read. -/
theorem Agrees.map {ε α β : Type} {lost : Fault → ε} {part whole : Except ε (α × Source)}
    (h : Agrees lost failure ending more part whole) (f : α → β) :
    Agrees lost failure ending more (part.map fun found => (f found.1, found.2))
      (whole.map fun found => (f found.1, found.2)) := by
  cases h with
  | stopped e => exact .stopped e
  | same value rest => exact .same (f value) rest
  | failed hf => exact .failed hf _
  | ended hf hleft =>
    refine .ended hf ?_ _
    intro value s hs
    cases part with
    | error e => cases hs
    | ok found =>
      obtain ⟨-, rfl⟩ := Prod.mk.inj (Except.ok.inj hs)
      exact hleft found.1 found.2 rfl

theorem lineLength_of_le {limit : Nat} (h : lineLength limit (bytes ++ more) ≤ bytes.length) :
    lineLength limit bytes = lineLength limit (bytes ++ more) := by
  by_cases hn : newline ∈ bytes
  · exact (lineLength_append hn limit more).symm
  · have hi : bytes.findIdx (· == newline) = bytes.length := by
      rw [List.findIdx_eq_length]
      exact fun b hb => beq_false_of_ne fun e => hn (e ▸ hb)
    have hall : (bytes ++ more).findIdx (· == newline) =
        more.findIdx (· == newline) + bytes.length := by
      rw [List.findIdx_append, if_neg (by omega)]
    rw [lineLength, hall] at h
    rw [lineLength, lineLength, hall, hi]
    omega

theorem lt_lineLength_of_lt {limit : Nat} (h : bytes.length < lineLength limit (bytes ++ more)) :
    bytes.length < lineLength limit bytes := by
  by_cases hn : newline ∈ bytes
  · rwa [lineLength_append hn] at h
  · have hi : bytes.findIdx (· == newline) = bytes.length := by
      rw [List.findIdx_eq_length]
      exact fun b hb => beq_false_of_ne fun e => hn (e ▸ hb)
    have hlimit : bytes.length < limit := Nat.lt_of_lt_of_le h (Nat.min_le_left _ _)
    rw [lineLength, hi]
    omega

theorem readLine_part (limit : Nat) (bytes more : Bytes) (failure ending : Option Fault) :
    (∃ line rest, readLine limit ⟨bytes, failure⟩ = (.ok line, ⟨rest, failure⟩) ∧
      readLine limit ⟨bytes ++ more, ending⟩ = (.ok line, ⟨rest ++ more, ending⟩)) ∨
      readLine limit ⟨bytes, failure⟩ = (failure.elim (.ok bytes) .error, ⟨[], failure⟩) := by
  by_cases hle : lineLength limit (bytes ++ more) ≤ bytes.length
  · left
    have hlen := lineLength_of_le hle
    have hwhole : lineLength limit (bytes ++ more) ≤ (bytes ++ more).length := by
      rw [List.length_append]
      omega
    refine ⟨bytes.take (lineLength limit bytes), bytes.drop (lineLength limit bytes), ?_, ?_⟩
    · rw [readLine_eq_read, read_of_le (hlen ▸ hle)]
      rfl
    · rw [readLine_eq_read, read_of_le hwhole, skip]
      simp only [hlen, List.take_append_of_le_length hle, List.drop_append_of_le_length hle]
  · right
    have hlt := lt_lineLength_of_lt (Nat.lt_of_not_le hle)
    rw [readLine_eq_read]
    cases failure with
    | some fault => exact read_of_failing rfl hlt
    | none =>
      rw [read_of_ended _ rfl, skip, List.take_of_length_le (Nat.le_of_lt hlt),
        List.drop_of_length_le (Nat.le_of_lt hlt)]
      rfl

end Source

namespace Http
open Source (Agrees)
variable {bytes more : Bytes} {failure ending : Option Fault}

namespace HeaderBlock

theorem readLines_of_long {allowed : Nat} {s u : Source} {line : Bytes}
    (h : s.readLine (lineLimit + 1) = (.ok line, u)) (hl : lineLimit < line.length) :
    readLines allowed s = .error (.ok .longLine) := by
  rw [readLines, h]
  simp only [if_pos hl]

theorem readLines_zero_of_short {s u : Source} {line : Bytes}
    (h : s.readLine (lineLimit + 1) = (.ok line, u)) (hl : ¬lineLimit < line.length) :
    readLines 0 s = .error (.ok .manyLines) := by
  rw [readLines, h]
  simp only [if_neg hl]

theorem readLines_of_error {allowed : Nat} {s u : Source} {fault : Fault}
    (h : s.readLine (lineLimit + 1) = (.error fault, u)) :
    readLines allowed s = .error (.error fault) := by
  rw [readLines, h]

theorem eq_of_readLines_ended {allowed : Nat} {lines : List Bytes} {t : Source}
    (h : readLines allowed ⟨[], none⟩ = .ok (lines, t)) : t = ⟨[], none⟩ := by
  cases allowed with
  | zero => exact absurd h (readLines_zero _ _)
  | succ allowed => exact (Prod.mk.inj (Except.ok.inj h)).2.symm

theorem eq_of_readLines {allowed : Nat} {s t : Source} {line : Bytes}
    (h : s.readLine (lineLimit + 1) = (.ok line, ⟨[], none⟩)) {lines : List Bytes}
    (hr : readLines allowed s = .ok (lines, t)) : t = ⟨[], none⟩ := by
  by_cases hl : lineLimit < line.length
  · rw [readLines_of_long h hl] at hr
    cases hr
  · cases allowed with
    | zero => exact absurd hr (readLines_zero _ _)
    | succ allowed =>
      rw [readLines_succ h (Nat.le_of_not_lt hl)] at hr
      split at hr
      · exact (Prod.mk.inj (Except.ok.inj hr)).2.symm
      · cases hmore : readLines allowed ⟨[], none⟩ with
        | error e => simp [hmore, Except.map] at hr
        | ok found =>
          simp only [hmore, Except.map, Except.ok.injEq, Prod.mk.injEq] at hr
          rw [← hr.2]
          exact eq_of_readLines_ended hmore

theorem agrees_of_part {allowed : Nat}
    (h : Source.readLine (lineLimit + 1) ⟨bytes, failure⟩ =
      (failure.elim (.ok bytes) .error, ⟨[], failure⟩))
    (whole : Except (Except Fault Excess) (List Bytes × Source)) :
    Agrees Except.error failure ending more (readLines allowed ⟨bytes, failure⟩) whole := by
  cases failure with
  | some fault =>
    rw [readLines_of_error h]
    exact .failed rfl whole
  | none => exact .ended rfl (fun _ _ hr => eq_of_readLines h hr) whole

theorem readLines_agrees (allowed : Nat) (bytes more : Bytes) (failure ending : Option Fault) :
    Agrees Except.error failure ending more (readLines allowed ⟨bytes, failure⟩)
      (readLines allowed ⟨bytes ++ more, ending⟩) := by
  induction allowed generalizing bytes with
  | zero =>
    rcases Source.readLine_part (lineLimit + 1) bytes more failure ending with
      ⟨line, rest, hpart, hwhole⟩ | hpart
    · by_cases hl : lineLimit < line.length
      · rw [readLines_of_long hpart hl, readLines_of_long hwhole hl]
        exact .stopped _
      · rw [readLines_zero_of_short hpart hl, readLines_zero_of_short hwhole hl]
        exact .stopped _
    · exact agrees_of_part hpart _
  | succ allowed ih =>
    rcases Source.readLine_part (lineLimit + 1) bytes more failure ending with
      ⟨line, rest, hpart, hwhole⟩ | hpart
    · by_cases hl : lineLimit < line.length
      · rw [readLines_of_long hpart hl, readLines_of_long hwhole hl]
        exact .stopped _
      · rw [readLines_succ hpart (Nat.le_of_not_lt hl), readLines_succ hwhole (Nat.le_of_not_lt hl)]
        by_cases he : endsBlock line = true
        · rw [if_pos he, if_pos he]
          exact .same _ _
        · rw [if_neg he, if_neg he]
          exact (ih rest).map (line :: ·)
    · exact agrees_of_part hpart _

theorem read_agrees (line : RequestLine) (bytes more : Bytes) (failure ending : Option Fault) :
    Agrees Stop.fail failure ending more (read line ⟨bytes, failure⟩)
      (read line ⟨bytes ++ more, ending⟩) := by
  have h := readLines_agrees lineCountLimit bytes more failure ending
  generalize hpart : readLines lineCountLimit ⟨bytes, failure⟩ = part at h
  generalize hwhole : readLines lineCountLimit ⟨bytes ++ more, ending⟩ = whole at h
  cases h with
  | stopped e => cases e <;> simp only [read, hpart, hwhole] <;> exact .stopped _
  | same lines rest =>
    simp only [read, hpart, hwhole]
    cases accept (Text.ofLatin1 lines.flatten) with
    | error stop => exact .stopped stop
    | ok headers => exact .same headers rest
  | failed hf =>
    simp only [read, hpart]
    exact .failed hf _
  | ended hf hleft =>
    refine .ended hf ?_ _
    intro headers s hs
    obtain ⟨lines, hl, -⟩ := exists_readLines_of_read hs
    exact hleft lines s (hpart ▸ hl)

end HeaderBlock

namespace Head
open HeaderBlock (lineLimit)

theorem readRequestLine_agrees (bytes more : Bytes) (failure ending : Option Fault) :
    Agrees Stop.fail failure ending more (readRequestLine ⟨bytes, failure⟩)
      (readRequestLine ⟨bytes ++ more, ending⟩) := by
  rcases Source.readLine_part (lineLimit + 1) bytes more failure ending with
    ⟨line, rest, hpart, hwhole⟩ | hpart
  · rw [readRequestLine, readRequestLine, hpart, hwhole]
    simp only
    split
    · exact .stopped _
    · split
      · exact .stopped _
      · cases RequestLine.parse (Text.ofLatin1 line) with
        | error stop => exact .stopped stop
        | ok found => exact .same found rest
  · cases failure with
    | some fault =>
      rw [readRequestLine, hpart]
      exact .failed rfl _
    | none =>
      refine .ended rfl ?_ _
      intro line s hs
      obtain ⟨raw, hraw, -⟩ := readRequestLine_eq_ok_iff.1 hs
      exact (Prod.mk.inj (hraw.symm.trans hpart)).2

theorem read_agrees (bytes more : Bytes) (failure ending : Option Fault) :
    Agrees Stop.fail failure ending more (read ⟨bytes, failure⟩)
      (read ⟨bytes ++ more, ending⟩) := by
  have h := readRequestLine_agrees bytes more failure ending
  generalize hpart : readRequestLine ⟨bytes, failure⟩ = part at h
  generalize hwhole : readRequestLine ⟨bytes ++ more, ending⟩ = whole at h
  cases h with
  | stopped stop =>
    simp only [read, hpart, hwhole]
    exact .stopped stop
  | same line rest =>
    rw [read_of_readRequestLine hpart, read_of_readRequestLine hwhole]
    exact (HeaderBlock.read_agrees line rest more failure ending).map (Head.mk line)
  | failed hf =>
    simp only [read, hpart]
    exact .failed hf _
  | ended hf hleft =>
    -- Nothing is left behind the request line, and so there is an empty line behind it.
    refine .ended hf ?_ _
    intro head s hs
    obtain ⟨u, hline, hblock⟩ := exists_readRequestLine_of_read hs
    obtain rfl := hleft head.line u (hpart ▸ hline)
    obtain ⟨lines, hlines, -⟩ := HeaderBlock.exists_readLines_of_read hblock
    exact HeaderBlock.eq_of_readLines_ended hlines

theorem failure_of_read {head : Head} {s t : Source} (h : read s = .ok (head, t)) :
    t.failure = s.failure :=
  (isRest_of_read h).failure_eq

end Head
end Http
end GreetingServer
