import GreetingServer.Charset.Basic

/-! Pages: charsets of single bytes. A page is a chart of all its characters, or of those behind
ASCII. -/
namespace GreetingServer
namespace Charset

structure Page where
  name : String
  aliases : List String := []
  /-- Its characters in order. If they are less than 256, the last of them has the last byte, and
  each byte before the first is the Latin-1 character that it stands for. -/
  rows : List String
  deriving Repr, DecidableEq

namespace Page

def chart (p : Page) : Array Char := (p.rows.flatMap String.toList).toArray

def charOf (chart : Array Char) (byte : Char) : Char :=
  let first := 256 - chart.size
  if byte.toNat < first then byte else chart.getD (byte.toNat - first) replacement

def decode (p : Page) (t : Text) : Text := t.map (charOf p.chart)

def charset (p : Page) : Charset where
  name := p.name
  aliases := p.aliases
  decode t := .ok (p.decode t)

def latin1 : Page where
  name := "latin_1"
  aliases := ["8859", "cp819", "csisolatin1", "ibm819", "iso8859", "iso8859_1", "iso_8859_1",
    "iso_8859_1_1987", "iso_ir_100", "l1", "latin", "latin1"]
  rows := []

/-- Latin-1 under a name that tells nothing about its chart. -/
def charmap : Page where
  name := "charmap"
  rows := []

def ascii : Page where
  name := "ascii"
  aliases := ["646", "ansi_x3.4_1968", "ansi_x3_4_1968", "ansi_x3.4_1986", "cp367", "csascii", "ibm367",
    "iso646_us", "iso_646.irv_1991", "iso_ir_6", "us", "us_ascii"]
  rows := [String.ofList (List.replicate 128 replacement)]

@[simp] theorem charOf_empty {c : Char} (h : Text.isLatin1 c = true) : charOf #[] c = c := by
  simp only [Text.isLatin1, decide_eq_true_eq] at h
  simp [charOf, h]

theorem decode_latin1 {t : Text} (h : t.all Text.isLatin1 = true) : latin1.decode t = t := by
  have hc : ∀ c ∈ t, charOf #[] c = c := fun c hc => charOf_empty (List.all_eq_true.1 h c hc)
  have : latin1.decode t = t.map (charOf #[]) := rfl
  rw [this, List.map_congr_left hc]
  simp

end Page
end Charset
end GreetingServer
