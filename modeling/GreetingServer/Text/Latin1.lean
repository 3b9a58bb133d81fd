import GreetingServer.Text.Basic

/-! Latin-1: the first 256 characters are the 256 bytes. Every sequence of bytes can be read, and a
text can be written if all its characters are among the first 256. -/
namespace GreetingServer

abbrev Bytes := List UInt8

namespace Text

def ofByte (b : UInt8) : Char := Char.ofNat b.toNat

def toByte (c : Char) : UInt8 := UInt8.ofNat c.toNat

def ofLatin1 (bytes : Bytes) : Text := bytes.map ofByte

def isLatin1 (c : Char) : Bool := c.toNat < 256

/-- The first run of characters without a byte: where it starts and what it is. -/
structure Unencodable where
  start : Nat
  run : Text
  deriving Repr, DecidableEq

/-- The bytes of a text, or its first run of characters that have none. -/
def toLatin1 (t : Text) : Except Unencodable Bytes :=
  if t.all isLatin1 then .ok (t.map toByte)
  else .error ⟨(t.takeWhile isLatin1).length, (t.dropWhile isLatin1).takeWhile (!isLatin1 ·)⟩

theorem toNat_ofByte (b : UInt8) : (ofByte b).toNat = b.toNat := by
  have hv : b.toNat.isValidChar := Or.inl (Nat.lt_trans b.toNat_lt (by decide))
  rw [ofByte, Char.ofNat, dif_pos hv]
  rfl

theorem toByte_ofByte (b : UInt8) : toByte (ofByte b) = b := by
  rw [toByte, toNat_ofByte]
  exact UInt8.ofNat_toNat

theorem isLatin1_ofByte (b : UInt8) : isLatin1 (ofByte b) = true := by
  rw [isLatin1, toNat_ofByte]
  exact decide_eq_true b.toNat_lt

theorem ofByte_toByte {c : Char} (h : isLatin1 c = true) : ofByte (toByte c) = c := by
  simp only [isLatin1, decide_eq_true_eq] at h
  have hc : (UInt8.ofNat c.toNat).toNat = c.toNat := by simpa using Nat.mod_eq_of_lt h
  simp only [ofByte, toByte, hc]
  exact Char.ofNat_toNat c

@[simp] theorem toLatin1_ofLatin1 (bytes : Bytes) : toLatin1 (ofLatin1 bytes) = .ok bytes := by
  have h : (ofLatin1 bytes).all isLatin1 = true := by
    simpa [ofLatin1] using fun b _ => isLatin1_ofByte b
  rw [toLatin1, if_pos h]
  simp [ofLatin1, Function.comp_def, toByte_ofByte]

theorem ofLatin1_toLatin1 {t : Text} {bytes : Bytes} (h : toLatin1 t = .ok bytes) :
    ofLatin1 bytes = t := by
  unfold toLatin1 at h
  split at h
  · rename_i ht
    injection h with h
    subst h
    simp only [ofLatin1, List.map_map]
    have : ∀ c ∈ t, (ofByte ∘ toByte) c = c := fun c hc =>
      ofByte_toByte (List.all_eq_true.1 ht c hc)
    simpa using List.map_congr_left this
  · simp at h

end Text
end GreetingServer
