import GreetingServer.Fault

/-! Sources of bytes. A source hands out the bytes that a peer has sent, and after the last of them
it has ended or fails. A failing read loses the bytes that it has seen. -/
namespace GreetingServer

/-- The bytes that are still unread, and the fault of every read that needs more of them. Without a
fault the bytes simply end. -/
structure Source where
  unread : Bytes
  failure : Option Fault := none

namespace Source

def newline : UInt8 := 10

/-- Some bytes are read: as many as asked for, or all that are left if the bytes end before. -/
def read (n : Nat) (s : Source) : Except Fault Bytes × Source :=
  match s.failure with
  | none => (.ok (s.unread.take n), { s with unread := s.unread.drop n })
  | some f =>
    if (s.unread.take n).length < n then (.error f, { s with unread := [] })
    else (.ok (s.unread.take n), { s with unread := s.unread.drop n })

/-- A line is read together with its newline, or its first bytes if it is longer than the limit. -/
def readLine (limit : Nat) (s : Source) : Except Fault Bytes × Source :=
  s.read (min limit (s.unread.findIdx (· == newline) + 1))

@[simp] theorem failure_read (n : Nat) (s : Source) : (s.read n).2.failure = s.failure := by
  unfold read
  split
  · simp_all
  · split <;> simp_all

theorem length_unread_read_le (n : Nat) (s : Source) :
    (s.read n).2.unread.length ≤ s.unread.length := by
  unfold read
  split
  · simp
  · split <;> simp

theorem append_of_read {n : Nat} {s t : Source} {piece : Bytes} (h : s.read n = (.ok piece, t)) :
    piece ++ t.unread = s.unread := by
  unfold read at h
  split at h
  · injection h with h₁ h₂
    injection h₁ with h₁
    subst h₁ h₂
    simp
  · split at h
    · injection h with h₁ h₂
      cases h₁
    · injection h with h₁ h₂
      injection h₁ with h₁
      subst h₁ h₂
      simp

theorem length_unread_lt_of_read {n : Nat} {s t : Source} {piece : Bytes}
    (h : s.read n = (.ok piece, t)) (hp : piece ≠ []) : t.unread.length < s.unread.length := by
  have ha := congrArg List.length (append_of_read h)
  have hl : 0 < piece.length := List.length_pos_iff.2 hp
  simp only [List.length_append] at ha
  omega

/-- A read that is not too long for the source gives exactly what was asked for. -/
theorem read_append (piece rest : Bytes) (failure : Option Fault) :
    read piece.length ⟨piece ++ rest, failure⟩ = (.ok piece, ⟨rest, failure⟩) := by
  cases failure <;> simp [read]

end Source
end GreetingServer
