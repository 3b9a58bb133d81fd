import GreetingServer.Transport.Source

/-! What reading takes from a source. A read takes the bytes that come first, or all that there are,
and so it leaves a rest of the source. A line that is there as a whole is read without a look at what
follows it. -/
namespace GreetingServer
namespace Source

def skip (n : Nat) (s : Source) : Source := { s with unread := s.unread.drop n }

@[simp] theorem unread_skip (n : Nat) (s : Source) : (s.skip n).unread = s.unread.drop n := rfl
@[simp] theorem skip_zero (s : Source) : s.skip 0 = s := rfl

theorem skip_skip (m n : Nat) (s : Source) : (s.skip m).skip n = s.skip (m + n) := by
  simp [skip]

theorem read_of_le {n : Nat} {s : Source} (h : n ≤ s.unread.length) :
    s.read n = (.ok (s.unread.take n), s.skip n) := by
  have hn : ¬(s.unread.take n).length < n := by
    rw [List.length_take]
    omega
  unfold read
  split
  · rfl
  · rw [if_neg hn]
    rfl

theorem read_of_ended (n : Nat) {s : Source} (h : s.failure = none) :
    s.read n = (.ok (s.unread.take n), s.skip n) := by
  simp [read, h, skip]

theorem read_of_failing {n : Nat} {s : Source} {f : Fault} (h : s.failure = some f)
    (hn : s.unread.length < n) : s.read n = (.error f, { s with unread := [] }) := by
  have ht : (s.unread.take n).length < n := by
    rw [List.length_take]
    omega
  simp only [read, h, if_pos ht]

def IsRest (t s : Source) : Prop := ∃ n, t = s.skip n

theorem isRest_refl (s : Source) : s.IsRest s := ⟨0, rfl⟩

theorem isRest_skip (n : Nat) (s : Source) : (s.skip n).IsRest s := ⟨n, rfl⟩

theorem isRest_empty (s : Source) : IsRest ⟨[], s.failure⟩ s :=
  ⟨s.unread.length, by rw [skip, List.drop_length]⟩

theorem IsRest.trans {s t u : Source} (h : u.IsRest t) (ht : t.IsRest s) : u.IsRest s := by
  obtain ⟨m, rfl⟩ := ht
  obtain ⟨n, rfl⟩ := h
  exact ⟨m + n, skip_skip m n s⟩

theorem IsRest.failure_eq {s t : Source} (h : t.IsRest s) : t.failure = s.failure := by
  obtain ⟨n, rfl⟩ := h
  rfl

/-- A shorter rest lacks so many bytes as have been taken. -/
theorem IsRest.exists_skip {s t : Source} (h : t.IsRest s)
    (hlt : t.unread.length < s.unread.length) :
    ∃ n, 0 < n ∧ n ≤ s.unread.length ∧ t = s.skip n := by
  obtain ⟨n, rfl⟩ := h
  rw [unread_skip, List.length_drop] at hlt
  by_cases hn : n ≤ s.unread.length
  · exact ⟨n, by omega, hn, rfl⟩
  · have hall : s.skip n = s.skip s.unread.length := by
      rw [skip, skip, List.drop_length, List.drop_of_length_le (by omega)]
    exact ⟨s.unread.length, by omega, Nat.le_refl _, hall⟩

theorem isRest_read (n : Nat) (s : Source) : (s.read n).2.IsRest s := by
  unfold read
  split
  · exact isRest_skip n s
  · split
    · exact isRest_empty s
    · exact isRest_skip n s

/-- How long the line is that comes first, its newline included. -/
def lineLength (limit : Nat) (bytes : Bytes) : Nat :=
  min limit (bytes.findIdx (· == newline) + 1)

theorem lineLength_le {bytes : Bytes} (h : newline ∈ bytes) (limit : Nat) :
    lineLength limit bytes ≤ bytes.length := by
  have hi : bytes.findIdx (· == newline) < bytes.length :=
    List.findIdx_lt_length_of_exists ⟨newline, h, beq_self_eq_true newline⟩
  unfold lineLength
  omega

theorem lineLength_append {bytes : Bytes} (h : newline ∈ bytes) (limit : Nat) (rest : Bytes) :
    lineLength limit (bytes ++ rest) = lineLength limit bytes := by
  have hi : bytes.findIdx (· == newline) < bytes.length :=
    List.findIdx_lt_length_of_exists ⟨newline, h, beq_self_eq_true newline⟩
  simp only [lineLength, List.findIdx_append, if_pos hi]

theorem readLine_eq_read (limit : Nat) (s : Source) :
    s.readLine limit = s.read (lineLength limit s.unread) := rfl

theorem isRest_of_readLine {limit : Nat} {s t : Source} {given : Except Fault Bytes}
    (h : s.readLine limit = (given, t)) : t.IsRest s := by
  have hrest := isRest_read (lineLength limit s.unread) s
  rw [← readLine_eq_read, h] at hrest
  exact hrest

theorem readLine_append {bytes : Bytes} (h : newline ∈ bytes) (limit : Nat) (rest : Bytes)
    (failure : Option Fault) :
    readLine limit ⟨bytes ++ rest, failure⟩ =
      (.ok (bytes.take (lineLength limit bytes)),
        ⟨bytes.drop (lineLength limit bytes) ++ rest, failure⟩) := by
  have hl := lineLength_le h limit
  have hle : lineLength limit (bytes ++ rest) ≤ (bytes ++ rest).length := by
    rw [lineLength_append h, List.length_append]
    omega
  rw [readLine_eq_read, read_of_le hle, lineLength_append h, skip]
  simp only [List.take_append_of_le_length hl, List.drop_append_of_le_length hl]

theorem lineLength_line {line : Bytes} (h : newline ∉ line) (limit : Nat) :
    lineLength limit (line ++ [newline]) = min limit (line.length + 1) := by
  have hn : line.findIdx (· == newline) = line.length := by
    rw [List.findIdx_eq_length]
    intro b hb
    exact beq_false_of_ne fun e => h (e ▸ hb)
  have hi : (line ++ [newline]).findIdx (· == newline) = line.length := by
    simp [List.findIdx_append, hn]
  rw [lineLength, hi]

theorem readLine_line {line : Bytes} (h : newline ∉ line) {limit : Nat} (hl : line.length < limit)
    (rest : Bytes) (failure : Option Fault) :
    readLine limit ⟨line ++ newline :: rest, failure⟩ =
      (.ok (line ++ [newline]), ⟨rest, failure⟩) := by
  have hm : lineLength limit (line ++ [newline]) = (line ++ [newline]).length := by
    rw [lineLength_line h, List.length_append, List.length_singleton]
    omega
  have hr := readLine_append (List.mem_append_right line (List.mem_singleton_self newline)) limit
    rest failure
  rw [hm, List.take_length, List.drop_length] at hr
  simpa using hr

theorem readLine_of_long {line : Bytes} (h : newline ∉ line) {limit : Nat}
    (hl : limit ≤ line.length + 1) (rest : Bytes) (failure : Option Fault) :
    ∃ piece t, readLine limit ⟨line ++ newline :: rest, failure⟩ = (.ok piece, t) ∧
      piece.length = limit := by
  have hm : lineLength limit (line ++ [newline]) = limit := by
    rw [lineLength_line h]
    omega
  have hr := readLine_append (List.mem_append_right line (List.mem_singleton_self newline)) limit
    rest failure
  rw [hm, List.append_assoc, List.singleton_append] at hr
  refine ⟨_, _, hr, List.length_take_of_le ?_⟩
  rw [List.length_append, List.length_singleton]
  exact hl

end Source

end GreetingServer
