import GreetingServer.Text.Blank
import GreetingServer.Text.Lines
import Mathlib.Data.List.TakeWhile

/-! Cutting texts that are put together from known pieces. A piece without separators comes back as
it was put in. -/
namespace GreetingServer
namespace Text

theorem splitBy_cons (separates : Char → Bool) (c : Char) (t : Text) :
    splitBy separates (c :: t) =
      if separates c then [] :: splitBy separates t
      else match splitBy separates t with
        | [] => [[c]]
        | piece :: rest => (c :: piece) :: rest := rfl

theorem splitBy_of_free {separates : Char → Bool} {t : Text} (h : ∀ c ∈ t, separates c = false) :
    splitBy separates t = [t] := by
  induction t with
  | nil => rfl
  | cons c t ih =>
    have hc : separates c = false := h c (by simp)
    have ht := ih fun d hd => h d (by simp [hd])
    simp [splitBy_cons, hc, ht]

theorem splitBy_append {separates : Char → Bool} {piece : Text}
    (h : ∀ c ∈ piece, separates c = false) {c : Char} (hc : separates c = true) (rest : Text) :
    splitBy separates (piece ++ c :: rest) = piece :: splitBy separates rest := by
  induction piece with
  | nil => simp [splitBy_cons, hc]
  | cons d piece ih =>
    have hd : separates d = false := h d (by simp)
    have hp := ih fun e he => h e (by simp [he])
    simp [splitBy_cons, hd, hp]

theorem words_append {word : Text} (hne : word ≠ []) (h : ∀ c ∈ word, isBlank c = false) {c : Char}
    (hc : isBlank c = true) (rest : Text) : words (word ++ c :: rest) = word :: words rest := by
  simp [words, splitBy_append h hc, hne]

theorem words_of_free {word : Text} (hne : word ≠ []) (h : ∀ c ∈ word, isBlank c = false) :
    words word = [word] := by
  simp [words, splitBy_of_free h, hne]

theorem free_of_mem_splitBy {separates : Char → Bool} {t piece : Text}
    (h : piece ∈ splitBy separates t) : ∀ c ∈ piece, separates c = false := by
  induction t generalizing piece with
  | nil =>
    rw [List.mem_singleton.1 h]
    simp
  | cons c t ih =>
    rw [splitBy_cons] at h
    by_cases hc : separates c = true
    · rw [if_pos hc] at h
      rcases List.mem_cons.1 h with rfl | h
      · simp
      · exact ih h
    · rw [if_neg hc] at h
      split at h
      · rename_i hs
        exact absurd hs (splitBy_ne_nil separates t)
      · rename_i first rest hs
        have hfirst := ih (hs ▸ List.mem_cons_self)
        rcases List.mem_cons.1 h with rfl | h
        · intro d hd
          rcases List.mem_cons.1 hd with rfl | hd
          · exact Bool.eq_false_iff.2 hc
          · exact hfirst d hd
        · exact ih (hs ▸ List.mem_cons_of_mem first h)

theorem isBlank_of_mem_words {t word : Text} (h : word ∈ words t) :
    word ≠ [] ∧ ∀ c ∈ word, isBlank c = false := by
  obtain ⟨hm, hne⟩ := List.mem_filter.1 h
  exact ⟨by simpa using hne, free_of_mem_splitBy hm⟩

/-- A text is cut where the first character of a class stands, or not at all. -/
theorem cut_of_stop {stops : Char → Bool} {t rest : Text} (h : ∀ c ∈ t, stops c = false)
    (hr : ∀ c ∈ rest.head?, stops c = true) : cut stops (t ++ rest) = (t, rest) := by
  have hkept : ∀ c ∈ t, (!stops c) = true := fun c hc => by rw [h c hc, Bool.not_false]
  rw [cut, List.takeWhile_append_of_pos hkept, List.dropWhile_append_of_pos hkept]
  cases rest with
  | nil => simp
  | cons c rest => simp [hr c rfl]

/-- What is dropped from the back stops at the first character that stays. -/
theorem trimRight_append {drops : Char → Bool} {t dropped : Text}
    (hd : ∀ c ∈ dropped, drops c = true) (ht : ∀ c ∈ t.getLast?, drops c = false) :
    trimRight drops (t ++ dropped) = t := by
  have hfront : (dropped.reverse).dropWhile drops = [] := by
    rw [List.dropWhile_eq_nil_iff]
    intro c hc
    exact hd c (List.mem_reverse.1 hc)
  have hstay : t.reverse.dropWhile drops = t.reverse := by
    cases hr : t.reverse with
    | nil => rfl
    | cons c rest =>
      have hl : t.getLast? = some c := by
        rw [← List.head?_reverse, hr]
        rfl
      simp [ht c (by simp [hl])]
  rw [trimRight, List.reverse_append, List.dropWhile_append, hfront]
  simp [hstay]

theorem trim_of_ends {drops : Char → Bool} {t : Text} (hh : ∀ c ∈ t.head?, drops c = false)
    (hl : ∀ c ∈ t.getLast?, drops c = false) : trim drops t = t := by
  have hleft : trimLeft drops t = t := by
    cases t with
    | nil => rfl
    | cons c rest => simp [trimLeft, hh c (by simp)]
  have hright : trimRight drops (t ++ []) = t := trimRight_append (by simp) hl
  rw [trim, hleft]
  simpa using hright

theorem strip_of_free {t : Text} (h : ∀ c ∈ t, isBlank c = false) : strip t = t :=
  trim_of_ends (fun c hc => h c (List.mem_of_mem_head? hc))
    (fun c hc => h c (List.mem_of_mem_getLast? hc))

/-- A text without line ends is a line together with the carriage return and the newline behind it.
-/
theorem lines_append {t : Text} (h : ∀ c ∈ t, isLineEnd c = false) (rest : Text) :
    lines (t ++ '\r' :: '\n' :: rest) = (t ++ ['\r', '\n']) :: lines rest := by
  induction t with
  | nil => rfl
  | cons c t ih =>
    have hc : c ≠ '\r' ∧ c ≠ '\n' := by simpa [isLineEnd] using h c (by simp)
    have ht := ih fun d hd => h d (by simp [hd])
    rw [List.cons_append, lines, List.foldr_cons, if_neg hc.2, if_neg hc.1, ← lines, ht]
    rfl

theorem isLineEnd_of_free {c : Char} (h : isBlank c = false) : isLineEnd c = false := by
  have hreturn : c ≠ '\r' := by
    rintro rfl
    exact absurd h (by decide)
  have hnewline : c ≠ '\n' := by
    rintro rfl
    exact absurd h (by decide)
  simp [isLineEnd, hreturn, hnewline]

theorem isBlank_of_visible {c : Char} (hl : 33 ≤ c.toNat) (hu : c.toNat ≤ 126) :
    isBlank c = false := by
  simp [isBlank, inIntervals, blankIntervals]
  omega

end Text
end GreetingServer
