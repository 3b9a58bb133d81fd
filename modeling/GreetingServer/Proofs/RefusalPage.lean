import GreetingServer.Proofs.HeadReader
import GreetingServer.Proofs.MalformedLength

/-! Pages about heads that are not accepted, as peers read them. The message of such a page may
quote what the peer has sent, but quoted text has no line ends, so that the head of the page is
taken as it was written. -/
namespace GreetingServer
namespace Text

theorem isInner_digitChar {n : Nat} (h : n < 16) : isInner n.digitChar = true := by
  have hall : ∀ k ∈ List.range 16, isInner k.digitChar = true := by decide
  exact hall n (List.mem_range.2 h)

theorem isInner_of_mem_toDigits (n : Nat) : ∀ c ∈ Nat.toDigits 16 n, isInner c = true := by
  induction n using Nat.strongRecOn with
  | ind n ih =>
    intro c hc
    rcases Nat.lt_or_ge n 16 with h | h
    · rw [Nat.toDigits_of_lt_base h, List.mem_singleton] at hc
      rw [hc]
      exact isInner_digitChar h
    · rw [Nat.toDigits_of_base_le (by decide) h] at hc
      rcases List.mem_append.1 hc with hc | hc
      · exact ih (n / 16) (by omega) c hc
      · rw [List.mem_singleton.1 hc]
        exact isInner_digitChar (Nat.mod_lt n (by decide))

theorem isInner_of_mem_hexadecimal (length n : Nat) :
    ∀ c ∈ hexadecimal length n, isInner c = true := by
  intro c hc
  rcases List.mem_append.1 hc with hc | hc
  · rw [List.eq_of_mem_replicate hc]
    decide
  · exact isInner_of_mem_toDigits n c hc

theorem isInner_of_mem_escapeCode (c : Char) : ∀ d ∈ escapeCode c, isInner d = true := by
  have hcode : ∀ letter, isInner letter = true → ∀ length,
      ∀ d ∈ '\\' :: letter :: hexadecimal length c.toNat, isInner d = true := by
    intro letter hletter length d hd
    rcases List.mem_cons.1 hd with rfl | hd
    · decide
    · rcases List.mem_cons.1 hd with rfl | hd
      · exact hletter
      · exact isInner_of_mem_hexadecimal length c.toNat d hd
  unfold escapeCode
  split
  · exact hcode 'x' (by decide) 2
  · split
    · exact hcode 'u' (by decide) 4
    · exact hcode 'U' (by decide) 8

theorem isInner_of_mem_escape {shown : Char → Bool} {quote c : Char}
    (hq : isInner quote = true) (hc : isLatin1 c = true) :
    ∀ d ∈ escape shown quote c, isInner d = true := by
  have hbackslash : isInner '\\' = true := by decide
  have hletters : ∀ d ∈ ['t', 'n', 'r'], isInner d = true := List.all_eq_true.1 (by decide)
  have hpair : ∀ e, isInner e = true → ∀ d ∈ ['\\', e], isInner d = true := by
    intro e he d hd
    rcases List.mem_cons.1 hd with rfl | hd
    · exact hbackslash
    · rw [List.mem_singleton.1 hd]
      exact he
  unfold escape
  split
  · rename_i hspecial
    rcases Bool.or_eq_true_iff.1 hspecial with he | he
    · exact hpair c (of_decide_eq_true he ▸ hq)
    · exact hpair c (of_decide_eq_true he ▸ hbackslash)
  · split
    · exact hpair 't' (hletters _ (by simp))
    · split
      · exact hpair 'n' (hletters _ (by simp))
      · split
        · exact hpair 'r' (hletters _ (by simp))
        · rename_i hnewline hreturn
          split
          · intro d hd
            rw [List.mem_singleton.1 hd]
            simp [isInner, hc, isLineEnd, hnewline, hreturn]
          · exact isInner_of_mem_escapeCode c

theorem isInner_quoteFor (t : Text) : isInner (quoteFor t) = true := by
  unfold quoteFor
  split <;> decide

theorem isInner_of_mem_quoted {t : Text} (h : ∀ c ∈ t, isLatin1 c = true) :
    ∀ c ∈ quoted t, isInner c = true := by
  have hquote := isInner_quoteFor t
  intro c hc
  rcases List.mem_append.1 hc with hc | hc
  · rcases List.mem_cons.1 hc with rfl | hc
    · exact hquote
    · obtain ⟨d, hd, hc⟩ := List.mem_flatMap.1 hc
      exact isInner_of_mem_escape hquote (h d hd) c hc
  · rw [List.mem_singleton.1 hc]
    exact hquote

end Text

namespace Http
open Text (isInner isGraphic toByte)

/-- The message of the page is a single line, if the page has a head. -/
def ErrorPage.IsPlain (page : ErrorPage) : Prop :=
  page.bare = false → ∀ c ∈ page.message, isInner c = true

namespace RequestLine

theorem isInner_of_mem_badSyntax {line : Text} (h : ∀ c ∈ line, Text.isLatin1 c = true) :
    ∀ c ∈ "Bad request syntax (".toList ++ Text.quoted line ++ [')'], isInner c = true := by
  have hfront : ∀ c ∈ "Bad request syntax (".toList, isInner c = true :=
    List.all_eq_true.1 (by decide)
  intro c hc
  rcases List.mem_append.1 hc with hc | hc
  · rcases List.mem_append.1 hc with hc | hc
    · exact hfront c hc
    · exact Text.isInner_of_mem_quoted h c hc
  · rw [List.mem_singleton.1 hc]
    decide

theorem bare_of_persistence {version : Text} {page : ErrorPage} {handling : Option Fault}
    (h : persistence version = .error (.refuse page handling)) : page.bare = true := by
  unfold persistence at h
  split at h
  · obtain ⟨rfl, -⟩ := Stop.refuse.inj (Except.error.inj h)
    rfl
  · simp only at h
    split at h
    · obtain ⟨rfl, -⟩ := Stop.refuse.inj (Except.error.inj h)
      rfl
    · cases h

/-- The only page about a request line that has a head quotes the line. -/
theorem isPlain_of_parse {raw : Text} (hraw : ∀ c ∈ raw, Text.isLatin1 c = true)
    {page : ErrorPage} {handling : Option Fault}
    (h : parse raw = .error (.refuse page handling)) : page.IsPlain := by
  have hline : ∀ c ∈ Text.trimRight (fun c => c = '\r' || c = '\n') raw, Text.isLatin1 c = true :=
    fun c hc => hraw c (Text.mem_of_mem_trimRight hc)
  simp only [parse] at h
  generalize Text.trimRight _ raw = line at h hline
  unfold ofWords at h
  intro hbare
  split at h
  · cases h
  · obtain ⟨rfl, -⟩ := Stop.refuse.inj (Except.error.inj h)
    cases hbare
  · split at h
    · cases h
    · obtain ⟨rfl, -⟩ := Stop.refuse.inj (Except.error.inj h)
      cases hbare
  · simp only at h
    split at h
    · rename_i stop hstop
      obtain rfl := Except.error.inj h
      rw [bare_of_persistence hstop] at hbare
      cases hbare
    · split at h
      · cases h
      · obtain ⟨rfl, -⟩ := Stop.refuse.inj (Except.error.inj h)
        exact isInner_of_mem_badSyntax hline

end RequestLine

theorem HeaderBlock.isPlain_of_read {line : RequestLine} {s : Source} {page : ErrorPage}
    {handling : Option Fault} (h : read line s = .error (.refuse page handling)) :
    page.IsPlain := by
  have hmessages : ∀ e : Excess, ∀ c ∈ e.message, isInner c = true := by
    intro e
    cases e <;> exact List.all_eq_true.1 (by decide)
  unfold read at h
  split at h
  · cases h
  · rename_i excess hlines
    obtain ⟨rfl, -⟩ := Stop.refuse.inj (Except.error.inj h)
    exact fun _ => hmessages excess
  · rename_i lines t hlines
    unfold accept at h
    split at h <;> cases h

theorem Head.isPlain_of_read {s : Source} {page : ErrorPage} {handling : Option Fault}
    (h : read s = .error (.refuse page handling)) : page.IsPlain := by
  unfold read at h
  split at h
  · rename_i stop hline
    obtain rfl := Except.error.inj h
    unfold readRequestLine at hline
    split at hline
    · cases hline
    · rename_i raw t hraw
      split at hline
      · obtain ⟨rfl, -⟩ := Stop.refuse.inj (Except.error.inj hline)
        exact fun _ => List.all_eq_true.1 (by decide)
      · split at hline
        · cases hline
        · split at hline
          · rename_i stop hparse
            obtain rfl := Except.error.inj hline
            refine RequestLine.isPlain_of_parse ?_ hparse
            intro c hc
            obtain ⟨b, -, rfl⟩ := List.mem_map.1 hc
            exact Text.isLatin1_ofByte b
          · cases hline
  · split at h
    · rename_i stop hblock
      obtain rfl := Except.error.inj h
      exact HeaderBlock.isPlain_of_read hblock
    · cases h

namespace ErrorPage

def fields (page : ErrorPage) (date : Text) : Headers :=
  commonFields date ++
    [closeField, ("Content-Type".toList, "text/html;charset=utf-8".toList), lengthField page.body]

theorem isInner_of_mem_fields {page : ErrorPage} {date : Text} (hd : date.all isGraphic = true) :
    ∀ field ∈ page.fields date, ∀ c ∈ field.1 ++ field.2, isInner c = true := by
  intro field hf
  have hcases : field = ("Content-Type".toList, "text/html;charset=utf-8".toList) ∨
      field ∈ ResponseHead.allFields date true { body := page.body } := by
    simp only [fields, List.mem_append, List.mem_cons, List.not_mem_nil, or_false] at hf
    rcases hf with hf | rfl | rfl | rfl
    · exact Or.inr (by simp [ResponseHead.allFields, ResponseHead.fields, hf])
    · exact Or.inr (by simp [ResponseHead.allFields, ResponseHead.closeFields])
    · exact Or.inl rfl
    · exact Or.inr (by simp [ResponseHead.allFields, ResponseHead.fields])
  rcases hcases with rfl | hf
  · exact List.all_eq_true.1 (by decide)
  · exact ResponseHead.isInner_of_mem_allFields hd (by simp) hf

theorem takeHead?_head {page : ErrorPage} {date : Text} (hd : date.all isGraphic = true)
    (hm : ∀ c ∈ page.message, isInner c = true) (rest : Bytes) :
    takeHead? (page.head date ++ rest) =
      some (codeLine (Text.ofNat page.status) page.message :: (page.fields date).map fieldLine, rest) := by
  have hstatus : codeLine (Text.ofNat page.status) page.message =
      statusText page.status page.message ++ lineEnd := codeLine_numeral page.status page.message
  have hhead : page.head date =
      ((lineOf (statusText page.status page.message) ::
        (page.fields date).map fieldLine).flatten ++ lineEnd).map toByte := by
    rw [lineOf, ← hstatus, List.flatten_cons]
    rfl
  rw [hhead, hstatus]
  exact takeHead?_fieldLines (statusText_ne_nil _ _) (isInner_of_mem_statusText hm _)
    (isInner_of_mem_fields hd) rest

end ErrorPage
end Http
end GreetingServer
