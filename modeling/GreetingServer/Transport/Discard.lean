import GreetingServer.Transport.Source

/-! Reading a body only to drop it. It is read in chunks, so that no more than one chunk of it is
held at any time. The reader may give less than was asked for; giving nothing means that the peer
has left. -/
namespace GreetingServer
namespace Discard

def chunk : Nat := 65536

/-- The peer has left before the body was complete. -/
def abandoned : Fault :=
  Fault.of .connectionReset "client closed connection while sending body".toList

def run {σ : Type} (read : Nat → σ → Except Fault Bytes × σ) (remaining : Nat) (s : σ) :
    Except Fault Unit × σ :=
  if remaining = 0 then (.ok (), s)
  else
    match read (min remaining chunk) s with
    | (.error f, s) => (.error f, s)
    | (.ok piece, s) =>
      if piece = [] then (.error abandoned, s) else run read (remaining - piece.length) s
termination_by remaining
decreasing_by
  have : 0 < piece.length := List.length_pos_iff.2 ‹_›
  omega

@[simp] theorem run_zero {σ : Type} (read : Nat → σ → Except Fault Bytes × σ) (s : σ) :
    run read 0 s = (.ok (), s) := by rw [run, if_pos rfl]

theorem run_pos {σ : Type} (read : Nat → σ → Except Fault Bytes × σ) {n : Nat} (h : 0 < n) (s : σ) :
    run read n s = match read (min n chunk) s with
      | (.error f, s) => (.error f, s)
      | (.ok piece, s) =>
        if piece = [] then (.error abandoned, s) else run read (n - piece.length) s := by
  rw [run, if_neg (by omega)]

/-- A reader that gives its bytes in pieces of its own: the sizes of the pieces to come, and what
was asked for so far, last first. -/
structure Pieces where
  sizes : List Nat
  asked : List Nat := []
  deriving Repr, DecidableEq

/-- A piece is read, but not more of it than was asked for; what is left of it is lost. -/
def Pieces.read (n : Nat) (p : Pieces) : Except Fault Bytes × Pieces :=
  (.ok (List.replicate (min n (p.sizes.headD 0)) 0), ⟨p.sizes.tail, n :: p.asked⟩)

theorem length_unread_run_le (n : Nat) (s : Source) :
    (run Source.read n s).2.unread.length ≤ s.unread.length := by
  induction n using Nat.strongRecOn generalizing s with
  | ind n ih =>
    rcases Nat.eq_zero_or_pos n with rfl | h
    · simp
    · rw [run_pos _ h]
      have hr := Source.length_unread_read_le (min n chunk) s
      split
      · simp_all
      · rename_i piece t heq
        rw [heq] at hr
        split
        · exact hr
        · rename_i hp
          have hl : 0 < piece.length := List.length_pos_iff.2 hp
          exact Nat.le_trans (ih _ (by omega) t) hr

end Discard
end GreetingServer
