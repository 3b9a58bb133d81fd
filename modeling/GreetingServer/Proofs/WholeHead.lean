import GreetingServer.Http.Head
import GreetingServer.Proofs.Reading

/-! Heads that have arrived as a whole. Such a head ends with its first empty line, and so it is
read in the same way whatever follows it and however the source goes on behind it. -/
namespace GreetingServer
namespace Http
open Source (newline lineLength)

namespace HeaderBlock

def blankLines : List Bytes := [[newline], [13, newline]]

theorem mem_blankLines {bytes : Bytes} :
    bytes ∈ blankLines ↔ bytes = [newline] ∨ bytes = [13, newline] := by
  simp [blankLines]

def EndsInBlank (bytes : Bytes) : Prop :=
  ∃ front, ∃ blank ∈ blankLines, bytes = front ++ newline :: blank

theorem newline_mem_of_endsInBlank {bytes : Bytes} (h : EndsInBlank bytes) : newline ∈ bytes := by
  obtain ⟨front, blank, -, rfl⟩ := h
  simp

theorem blank_behind_line {bytes : Bytes} (h : EndsInBlank bytes) (limit : Nat) :
    bytes.drop (lineLength limit bytes) ∈ blankLines ∨
      EndsInBlank (bytes.drop (lineLength limit bytes)) := by
  obtain ⟨front, blank, hb, rfl⟩ := h
  have hi : (front ++ newline :: blank).findIdx (· == newline) ≤ front.length := by
    rw [List.findIdx_append]
    split
    · omega
    · simp [List.findIdx_cons]
  have hm : lineLength limit (front ++ newline :: blank) ≤ front.length + 1 := by
    unfold lineLength
    omega
  generalize lineLength limit (front ++ newline :: blank) = m at hm
  by_cases hf : m ≤ front.length
  · right
    exact ⟨front.drop m, blank, hb, List.drop_append_of_le_length hf⟩
  · left
    have he : m = (front ++ [newline]).length := by
      rw [List.length_append, List.length_singleton]
      omega
    have hd : front ++ newline :: blank = (front ++ [newline]) ++ blank := List.append_cons ..
    rw [he, hd, List.drop_left]
    exact hb

theorem take_of_mem_blankLines {bytes : Bytes} (h : bytes ∈ blankLines) :
    bytes.take (lineLength (lineLimit + 1) bytes) = bytes := by
  rcases mem_blankLines.1 h with rfl | rfl <;> rfl

theorem endsBlock_of_mem_blankLines {bytes : Bytes} (h : bytes ∈ blankLines) :
    endsBlock bytes = true := by
  rcases mem_blankLines.1 h with rfl | rfl <;> rfl

theorem readLines_zero (s : Source) (found : List Bytes × Source) : readLines 0 s ≠ .ok found := by
  unfold readLines
  split
  · simp
  · split <;> simp

theorem readLines_succ {allowed : Nat} {s u : Source} {line : Bytes}
    (h : s.readLine (lineLimit + 1) = (.ok line, u)) (hl : line.length ≤ lineLimit) :
    readLines (allowed + 1) s =
      if endsBlock line then .ok ([line], u)
      else (readLines allowed u).map fun found => (line :: found.1, found.2) := by
  have hn : ¬lineLimit < line.length := by omega
  rw [readLines, h]
  simp only [if_neg hn]
  split
  · rfl
  · cases readLines allowed u <;> rfl

theorem exists_readLine_of_readLines {allowed : Nat} {s : Source} {found : List Bytes × Source}
    (h : readLines (allowed + 1) s = .ok found) :
    ∃ line u, s.readLine (lineLimit + 1) = (.ok line, u) ∧ line.length ≤ lineLimit := by
  unfold readLines at h
  split at h
  · cases h
  · rename_i line u hs
    split at h
    · cases h
    · rename_i hl
      exact ⟨line, u, hs, by omega⟩

/-- The lines of a block up to its empty line are read without a look at what follows it. -/
theorem readLines_append {allowed : Nat} {bytes left : Bytes} {lines : List Bytes}
    (hb : bytes ∈ blankLines ∨ EndsInBlank bytes)
    (h : readLines allowed ⟨bytes, none⟩ = .ok (lines, ⟨left, none⟩)) (rest : Bytes)
    (failure : Option Fault) :
    readLines allowed ⟨bytes ++ rest, failure⟩ = .ok (lines, ⟨left ++ rest, failure⟩) := by
  induction allowed generalizing bytes lines with
  | zero => exact absurd h (readLines_zero _ _)
  | succ allowed ih =>
    have hn : newline ∈ bytes := by
      rcases hb with hb | hb
      · rcases mem_blankLines.1 hb with rfl | rfl <;> simp
      · exact newline_mem_of_endsInBlank hb
    have hown := Source.readLine_append hn (lineLimit + 1) [] none
    have hmore := Source.readLine_append hn (lineLimit + 1) rest failure
    rw [List.append_nil, List.append_nil] at hown
    obtain ⟨line, u, hread, hlen⟩ := exists_readLine_of_readLines h
    obtain ⟨hline, rfl⟩ := Prod.mk.inj (hown.symm.trans hread)
    obtain rfl := Except.ok.inj hline
    rw [readLines_succ hown hlen] at h
    rw [readLines_succ hmore hlen]
    split at h
    · rename_i he
      obtain ⟨rfl, hleft⟩ := Prod.mk.inj (Except.ok.inj h)
      rw [if_pos he, (Source.mk.inj hleft).1]
    · -- The line is not empty, so the empty line is still to come.
      rename_i he
      have hstill : bytes.drop (lineLength (lineLimit + 1) bytes) ∈ blankLines ∨
          EndsInBlank (bytes.drop (lineLength (lineLimit + 1) bytes)) := by
        rcases hb with hb | hb
        · rw [take_of_mem_blankLines hb, endsBlock_of_mem_blankLines hb] at he
          exact absurd rfl he
        · exact blank_behind_line hb _
      cases hr : readLines allowed ⟨bytes.drop (lineLength (lineLimit + 1) bytes), none⟩ with
      | error e => simp [hr, Except.map] at h
      | ok found =>
        obtain ⟨more, v⟩ := found
        simp only [hr, Except.map, Except.ok.injEq, Prod.mk.injEq] at h
        obtain ⟨rfl, rfl⟩ := h
        rw [if_neg he, ih hstill hr]
        rfl

theorem isRest_of_readLines {allowed : Nat} {s t : Source} {lines : List Bytes}
    (h : readLines allowed s = .ok (lines, t)) : t.IsRest s := by
  induction allowed generalizing s lines with
  | zero => exact absurd h (readLines_zero _ _)
  | succ allowed ih =>
    obtain ⟨line, u, hline, hlen⟩ := exists_readLine_of_readLines h
    have hfirst := Source.isRest_of_readLine hline
    rw [readLines_succ hline hlen] at h
    split at h
    · obtain ⟨-, rfl⟩ := Prod.mk.inj (Except.ok.inj h)
      exact hfirst
    · cases hmore : readLines allowed u with
      | error e => simp [hmore, Except.map] at h
      | ok found =>
        simp only [hmore, Except.map, Except.ok.injEq, Prod.mk.injEq] at h
        obtain ⟨-, rfl⟩ := h
        exact (ih hmore).trans hfirst

theorem exists_readLines_of_read {line : RequestLine} {headers : Headers} {s t : Source}
    (h : read line s = .ok (headers, t)) :
    ∃ lines, readLines lineCountLimit s = .ok (lines, t) ∧
      accept (Text.ofLatin1 lines.flatten) = .ok headers := by
  unfold read at h
  split at h
  · cases h
  · cases h
  · rename_i lines u hl
    cases ha : accept (Text.ofLatin1 lines.flatten) with
    | error stop => simp [ha, Except.map] at h
    | ok found =>
      simp only [ha, Except.map, Except.ok.injEq, Prod.mk.injEq] at h
      obtain ⟨rfl, rfl⟩ := h
      exact ⟨lines, hl, ha⟩

/-- A block up to its empty line is read without a look at what follows it. -/
theorem read_append {line : RequestLine} {bytes left : Bytes} {headers : Headers}
    (hb : bytes ∈ blankLines ∨ EndsInBlank bytes)
    (h : read line ⟨bytes, none⟩ = .ok (headers, ⟨left, none⟩)) (rest : Bytes)
    (failure : Option Fault) :
    read line ⟨bytes ++ rest, failure⟩ = .ok (headers, ⟨left ++ rest, failure⟩) := by
  obtain ⟨lines, hl, ha⟩ := exists_readLines_of_read h
  simp only [read, readLines_append hb hl rest failure, ha, Except.map]

end HeaderBlock

namespace Head
open HeaderBlock (lineLimit EndsInBlank)

/-- The bytes are the head of a request as a whole: it is accepted and takes all of them, the last
of which are its empty line. -/
structure IsWhole (bytes : Bytes) (head : Head) : Prop where
  read_eq : read ⟨bytes, none⟩ = .ok (head, ⟨[], none⟩)
  endsInBlank : EndsInBlank bytes

/-- A request line is what a line says that is neither empty nor too long. -/
theorem readRequestLine_eq_ok_iff {line : RequestLine} {s t : Source} :
    readRequestLine s = .ok (line, t) ↔
      ∃ raw, s.readLine (lineLimit + 1) = (.ok raw, t) ∧ raw.length ≤ lineLimit ∧ raw ≠ [] ∧
        RequestLine.parse (Text.ofLatin1 raw) = .ok line := by
  constructor
  · intro h
    unfold readRequestLine at h
    split at h
    · cases h
    · rename_i raw u hread
      split at h
      · cases h
      · rename_i hlen
        split at h
        · cases h
        · rename_i hne
          split at h
          · cases h
          · rename_i found hparse
            obtain ⟨rfl, rfl⟩ := Prod.mk.inj (Except.ok.inj h)
            exact ⟨raw, hread, Nat.le_of_not_lt hlen, hne, hparse⟩
  · rintro ⟨raw, hread, hlen, hne, hparse⟩
    simp only [readRequestLine, hread, if_neg (Nat.not_lt.2 hlen), if_neg hne, hparse]

theorem readRequestLine_append {bytes : Bytes} {line : RequestLine} {s : Source}
    (hn : newline ∈ bytes) (h : readRequestLine ⟨bytes, none⟩ = .ok (line, s)) (rest : Bytes)
    (failure : Option Fault) :
    s = ⟨bytes.drop (lineLength (lineLimit + 1) bytes), none⟩ ∧
      readRequestLine ⟨bytes ++ rest, failure⟩ =
        .ok (line, ⟨bytes.drop (lineLength (lineLimit + 1) bytes) ++ rest, failure⟩) := by
  have hown := Source.readLine_append hn (lineLimit + 1) [] none
  have hmore := Source.readLine_append hn (lineLimit + 1) rest failure
  rw [List.append_nil, List.append_nil] at hown
  obtain ⟨raw, hread, hlen, hne, hparse⟩ := readRequestLine_eq_ok_iff.1 h
  obtain ⟨hraw, rfl⟩ := Prod.mk.inj (hown.symm.trans hread)
  obtain rfl := Except.ok.inj hraw
  exact ⟨rfl, readRequestLine_eq_ok_iff.2 ⟨_, hmore, hlen, hne, hparse⟩⟩

theorem read_of_readRequestLine {line : RequestLine} {s u : Source}
    (h : readRequestLine s = .ok (line, u)) :
    read s = (HeaderBlock.read line u).map fun found => (Head.mk line found.1, found.2) := by
  simp only [read, h]
  cases HeaderBlock.read line u <;> rfl

theorem exists_readRequestLine_of_read {head : Head} {s t : Source} (h : read s = .ok (head, t)) :
    ∃ u, readRequestLine s = .ok (head.line, u) ∧
      HeaderBlock.read head.line u = .ok (head.headers, t) := by
  unfold read at h
  split at h
  · cases h
  · rename_i line u hl
    split at h
    · cases h
    · rename_i headers v hh
      obtain ⟨rfl, rfl⟩ := Prod.mk.inj (Except.ok.inj h)
      exact ⟨u, hl, hh⟩

theorem isRest_of_read {head : Head} {s t : Source} (h : read s = .ok (head, t)) :
    t.IsRest s := by
  obtain ⟨u, hline, hblock⟩ := exists_readRequestLine_of_read h
  obtain ⟨raw, hraw, -⟩ := readRequestLine_eq_ok_iff.1 hline
  obtain ⟨lines, hlines, -⟩ := HeaderBlock.exists_readLines_of_read hblock
  exact (HeaderBlock.isRest_of_readLines hlines).trans (Source.isRest_of_readLine hraw)

theorem IsWhole.read_append {bytes : Bytes} {head : Head} (h : IsWhole bytes head) (rest : Bytes)
    (failure : Option Fault) :
    read ⟨bytes ++ rest, failure⟩ = .ok (head, ⟨rest, failure⟩) := by
  obtain ⟨u, hl, hh⟩ := exists_readRequestLine_of_read h.read_eq
  obtain ⟨rfl, hline⟩ := readRequestLine_append
    (HeaderBlock.newline_mem_of_endsInBlank h.endsInBlank) hl rest failure
  have hblank := HeaderBlock.blank_behind_line h.endsInBlank (lineLimit + 1)
  have hblock := HeaderBlock.read_append hblank hh rest failure
  rw [read_of_readRequestLine hline, hblock, List.nil_append]
  rfl

end Head
end Http
end GreetingServer
