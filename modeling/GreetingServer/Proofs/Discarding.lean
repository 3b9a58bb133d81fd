import GreetingServer.Proofs.Reading
import GreetingServer.Transport.Discard

/-! Dropping a body piece by piece. A reader may give less than it is asked for, as long as it gives
something while there is something to give. Whatever the sizes of its pieces, what comes of dropping
a body is what would come of reading the body at once: its bytes are gone and no other, or nothing is
left of the source, and the fault tells whether it has ended or failed. -/
namespace GreetingServer

namespace Source

inductive MayGive (n : Nat) (s : Source) : Except Fault Bytes → Source → Prop
  | piece {k : Nat} (pos : 0 < k) (le : k ≤ n) (there : k ≤ s.unread.length) :
      MayGive n s (.ok (s.unread.take k)) (s.skip k)
  | ended (unread : s.unread = []) (failure : s.failure = none) : MayGive n s (.ok []) s
  /-- The source fails for a lack of bytes, and those that it has are lost. -/
  | failed {fault : Fault} (failure : s.failure = some fault) (lacking : s.unread.length < n) :
      MayGive n s (.error fault) { s with unread := [] }

theorem MayGive.mono {m n : Nat} {s t : Source} {given : Except Fault Bytes}
    (h : s.MayGive m given t) (hmn : m ≤ n) : s.MayGive n given t := by
  cases h with
  | piece pos le there => exact .piece pos (Nat.le_trans le hmn) there
  | ended unread failure => exact .ended unread failure
  | failed failure lacking => exact .failed failure (Nat.lt_of_lt_of_le lacking hmn)

theorem mayGive_read {n : Nat} (hn : 0 < n) (s : Source) :
    s.MayGive n (s.read n).1 (s.read n).2 := by
  by_cases hle : n ≤ s.unread.length
  · rw [read_of_le hle]
    exact .piece hn (Nat.le_refl n) hle
  · have hlt : s.unread.length < n := Nat.lt_of_not_le hle
    cases hf : s.failure with
    | some fault =>
      rw [read_of_failing hf hlt]
      exact .failed hf hlt
    | none =>
      rw [read_of_ended n hf]
      by_cases hu : s.unread = []
      · have hskip : s.skip n = s := by rw [skip, hu, List.drop_nil, ← hu]
        rw [hskip, hu, List.take_nil]
        exact .ended hu hf
      · have hall : s.unread.take n = s.unread.take s.unread.length := by
          rw [List.take_of_length_le (Nat.le_of_lt hlt), List.take_length]
        have hskip : s.skip n = s.skip s.unread.length := by
          simp [skip, List.drop_of_length_le (Nat.le_of_lt hlt)]
        rw [hall, hskip]
        exact .piece (List.length_pos_iff.2 hu) (Nat.le_of_lt hlt) (Nat.le_refl _)

end Source

/-- A reader of a source, with a state of its own. -/
structure Reader (σ : Type) where
  read : Nat → σ → Except Fault Bytes × σ
  source : σ → Source
  mayGive : ∀ {n : Nat}, 0 < n → ∀ s : σ, (source s).MayGive n (read n s).1 (source (read n s).2)

namespace Reader

def whole : Reader Source where
  read := Source.read
  source := id
  mayGive := Source.mayGive_read

/-- A reader that gives pieces of given sizes, as long as there are any, but always a byte. -/
def ofSizes : Reader (Source × List Nat) where
  read n s :=
    let given := s.1.read (min n (max 1 (s.2.headD n)))
    (given.1, given.2, s.2.tail)
  source s := s.1
  mayGive hn s := (Source.mayGive_read (by omega) s.1).mono (Nat.min_le_left _ _)

theorem source_ofSizes (s : Source × List Nat) : ofSizes.source s = s.1 := rfl

end Reader

namespace Discard
variable {σ : Type} {n : Nat} {s : Source}

/-- A body is read at once, and lacks something if what is given is too short. -/
def atOnce (n : Nat) (s : Source) : Except Fault Unit × Source :=
  match s.read n with
  | (.error fault, t) => (.error fault, t)
  | (.ok piece, t) => (if piece.length < n then .error abandoned else .ok (), t)

theorem atOnce_of_le (h : n ≤ s.unread.length) : atOnce n s = (.ok (), s.skip n) := by
  have hlen : (s.unread.take n).length = n := List.length_take_of_le h
  simp only [atOnce, Source.read_of_le h, hlen, Nat.lt_irrefl, if_false]

theorem atOnce_of_lt (h : s.unread.length < n) :
    atOnce n s = (.error (s.failure.getD abandoned), { s with unread := [] }) := by
  cases hf : s.failure with
  | some fault => simp [atOnce, Source.read_of_failing hf h, hf]
  | none =>
    have hlen : (s.unread.take n).length < n := Nat.lt_of_le_of_lt (List.length_take_le' n _) h
    have hskip : s.skip n = { s with unread := [] } := by
      rw [Source.skip, List.drop_of_length_le (Nat.le_of_lt h)]
    simp only [atOnce, Source.read_of_ended n hf, if_pos hlen, hskip, hf, Option.getD_none]

/-- The first bytes of a body may be dropped before the others are read. -/
theorem atOnce_skip {k : Nat} (hk : k ≤ n) (there : k ≤ s.unread.length) :
    atOnce (n - k) (s.skip k) = atOnce n s := by
  have hlen : (s.skip k).unread.length = s.unread.length - k := by simp
  by_cases hle : n ≤ s.unread.length
  · rw [atOnce_of_le hle, atOnce_of_le (by omega), Source.skip_skip, Nat.add_sub_cancel' hk]
  · rw [atOnce_of_lt (by omega), atOnce_of_lt (by omega)]
    rfl

/-- Whatever the pieces of a reader, a body is dropped as if it were read at once. -/
theorem run_reader (r : Reader σ) (n : Nat) (s : σ) :
    ((run r.read n s).1, r.source (run r.read n s).2) = atOnce n (r.source s) := by
  induction n using Nat.strongRecOn generalizing s with
  | ind n ih =>
    rcases Nat.eq_zero_or_pos n with rfl | hn
    · rw [run_zero, atOnce_of_le (Nat.zero_le _), Source.skip_zero]
    · have hgiven := r.mayGive (n := min n chunk) (by unfold chunk; omega) s
      rw [run_pos _ hn]
      generalize r.read (min n chunk) s = step at hgiven ⊢
      obtain ⟨given, t⟩ := step
      generalize hleft : r.source t = left at hgiven
      cases hgiven with
      | @piece k pos le there =>
        have hlen : ((r.source s).unread.take k).length = k := List.length_take_of_le there
        have hne : (r.source s).unread.take k ≠ [] := List.ne_nil_of_length_pos (by omega)
        simp only [if_neg hne, hlen]
        rw [ih (n - k) (by omega) t, hleft, atOnce_skip (by omega) there]
      | ended unread failure =>
        have hlack : (r.source s).unread.length < n := by simpa [unread] using hn
        have hsame : (⟨[], (r.source s).failure⟩ : Source) = r.source s := by rw [← unread]
        rw [atOnce_of_lt hlack, hsame, failure]
        simp only [hleft, if_true, Option.getD_none]
      | failed failure lacking =>
        simp only [atOnce_of_lt (by omega : (r.source s).unread.length < n), hleft, failure,
          Option.getD_some]

/-- A body that is there as a whole is dropped, and nothing behind it is touched. -/
theorem run_of_le (h : n ≤ s.unread.length) : run Source.read n s = (.ok (), s.skip n) :=
  (run_reader Reader.whole n s).trans (atOnce_of_le h)

/-- What is lacking of a body is found out when the source has been read to its end. -/
theorem run_of_lt (h : s.unread.length < n) :
    run Source.read n s = (.error (s.failure.getD abandoned), { s with unread := [] }) :=
  (run_reader Reader.whole n s).trans (atOnce_of_lt h)

/-- Reading, with a note of how much is asked for each time, the last time first. -/
def noted (read : Nat → σ → Except Fault Bytes × σ) (n : Nat) (s : σ × List Nat) :
    Except Fault Bytes × σ × List Nat :=
  ((read n s.1).1, (read n s.1).2, n :: s.2)

theorem run_noted (read : Nat → σ → Except Fault Bytes × σ) (n : Nat) (s : σ)
    (asked : List Nat) :
    ∃ sizes, run (noted read) n (s, asked) =
        ((run read n s).1, (run read n s).2, sizes ++ asked) ∧
      sizes.length ≤ n ∧ ∀ size ∈ sizes, 0 < size ∧ size ≤ chunk := by
  induction n using Nat.strongRecOn generalizing s asked with
  | ind n ih =>
    rcases Nat.eq_zero_or_pos n with rfl | hn
    · exact ⟨[], by simp, by simp, by simp⟩
    · have hfirst : 0 < min n chunk ∧ min n chunk ≤ chunk := by unfold chunk; omega
      rw [run_pos _ hn, run_pos _ hn, noted]
      obtain ⟨given, t⟩ := read (min n chunk) s
      cases given with
      | error fault => exact ⟨[min n chunk], rfl, hn, by simpa using hfirst⟩
      | ok piece =>
        simp only
        split
        · exact ⟨[min n chunk], rfl, hn, by simpa using hfirst⟩
        · rename_i hne
          have hlen : 0 < piece.length := List.length_pos_iff.2 hne
          obtain ⟨sizes, hrun, hcount, hsizes⟩ :=
            ih (n - piece.length) (by omega) t (min n chunk :: asked)
          refine ⟨sizes ++ [min n chunk], by simpa using hrun, ?_, ?_⟩
          · rw [List.length_append, List.length_singleton]
            omega
          · intro size hsize
            rcases List.mem_append.1 hsize with hsize | hsize
            · exact hsizes size hsize
            · rw [List.mem_singleton.1 hsize]
              exact hfirst

/-- Dropping a body is exact. For every reader of a source and every length, what comes of it is what
comes of reading the body at once. If the source has the body then the bytes of the body are gone,
and nothing is wrong; else nothing is left of the source, and the fault is the one of the source, or
one about the peer if the source has simply ended. There are not more reads than bytes of the body,
and none of them asks for more than a chunk. -/
theorem run_exact (r : Reader σ) (n : Nat) (s : σ) :
    let ended := (run r.read n s).1
    let left := (run r.read n s).2
    (ended, r.source left) = atOnce n (r.source s) ∧
      (n ≤ (r.source s).unread.length ∧ ended = .ok () ∧ r.source left = (r.source s).skip n ∨
        (r.source s).unread.length < n ∧
          ended = .error ((r.source s).failure.getD abandoned) ∧ (r.source left).unread = []) ∧
      ∃ sizes, run (noted r.read) n (s, []) = (ended, left, sizes) ∧
        sizes.length ≤ n ∧ ∀ size ∈ sizes, 0 < size ∧ size ≤ chunk := by
  intro ended left
  have honce : (ended, r.source left) = atOnce n (r.source s) := run_reader r n s
  refine ⟨honce, ?_, ?_⟩
  · by_cases hle : n ≤ (r.source s).unread.length
    · rw [atOnce_of_le hle] at honce
      exact .inl ⟨hle, Prod.mk.inj honce⟩
    · have hlt : (r.source s).unread.length < n := Nat.lt_of_not_le hle
      rw [atOnce_of_lt hlt] at honce
      obtain ⟨hended, hleft⟩ := Prod.mk.inj honce
      exact .inr ⟨hlt, hended, congrArg Source.unread hleft⟩
  · obtain ⟨sizes, hrun, hcount, hsizes⟩ := run_noted r.read n s []
    exact ⟨sizes, by rw [hrun, List.append_nil], hcount, hsizes⟩

def twoChunks : Bytes := List.replicate (2 * chunk) 0

theorem length_twoChunks : twoChunks.length = 2 * chunk := List.length_replicate

/-- The chunks are dropped in pieces of other sizes, and the byte behind them is left. -/
theorem run_exact_twoChunks :
    ∃ dropped, run Reader.ofSizes.read (2 * chunk) (⟨twoChunks ++ [71], none⟩, [1, 70000, 2]) =
        dropped ∧
      dropped.1 = .ok () ∧ dropped.2.1 = ⟨[71], none⟩ := by
  rcases (run_exact Reader.ofSizes (2 * chunk) (⟨twoChunks ++ [71], none⟩, [1, 70000, 2])).2.1 with
    ⟨-, hended, hleft⟩ | ⟨hlt, -, -⟩
  · rw [Reader.source_ofSizes, Reader.source_ofSizes, Source.skip,
      List.drop_left' length_twoChunks] at hleft
    exact ⟨_, rfl, hended, hleft⟩
  · rw [Reader.source_ofSizes, List.length_append, length_twoChunks] at hlt
    omega

end Discard
end GreetingServer
