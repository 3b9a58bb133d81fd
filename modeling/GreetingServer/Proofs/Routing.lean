import GreetingServer.Http.Target
import GreetingServer.Proofs.OrderedMap
import GreetingServer.Proofs.WrittenHead
import GreetingServer.RouteTable

/-! What a request is routed by. The path of a target that peers usually write is found without a
fault, and a table with a route for all requests has an entry for it. This is so for every accepted
request whose target starts with a slash. -/
namespace GreetingServer

namespace RouteTable
variable {α : Type}

def catchAll : Route := ⟨none, "/".toList⟩

theorem mem_of_foldl_better {routes : List Route} {first : Option Route} {best : Route}
    (h : routes.foldl better first = some best) : best ∈ routes ∨ first = some best := by
  induction routes generalizing first with
  | nil => exact Or.inr h
  | cons r routes ih =>
    rcases ih h with hm | hm
    · exact Or.inl (List.mem_cons_of_mem r hm)
    · cases first with
      | none =>
        obtain rfl : r = best := by simpa [better] using hm
        exact Or.inl List.mem_cons_self
      | some b =>
        simp only [better] at hm
        split at hm
        · obtain rfl : r = best := Option.some.inj hm
          exact Or.inl List.mem_cons_self
        · exact Or.inr hm

theorem mem_of_best? {routes : List Route} {verb path : Text} {best : Route}
    (h : best? routes verb path = some best) : best ∈ routes := by
  rcases mem_of_foldl_better h with hm | hm
  · exact (List.mem_filter.1 hm).1
  · cases hm

theorem covers_of_best? {routes : List Route} {verb path : Text} {best : Route}
    (h : best? routes verb path = some best) : best.covers verb path = true := by
  rcases mem_of_foldl_better h with hm | hm
  · exact (List.mem_filter.1 hm).2
  · cases hm

theorem exists_mem_of_find? {table : RouteTable α} {verb path : Text} {value : α}
    (h : find? table verb path = some value) : ∃ route, (route, value) ∈ table := by
  obtain ⟨route, -, hg⟩ := Option.bind_eq_some_iff.1 h
  exact ⟨route, Ordered.mem_of_get? hg⟩

theorem find?_isSome_iff (table : RouteTable α) (verb path : Text) :
    (find? table verb path).isSome = true ↔
      ∃ route ∈ Ordered.keys table, route.covers verb path = true := by
  cases hb : best? (Ordered.keys table) verb path with
  | none =>
    rw [best?_eq_none_iff] at hb
    have hnone : find? table verb path = none := by
      rw [find?, best?_eq_none_iff.2 hb, Option.bind_none]
    rw [hnone]
    refine iff_of_false Bool.false_ne_true ?_
    rintro ⟨route, hroute, hcovers⟩
    rw [hb route hroute] at hcovers
    cases hcovers
  | some best =>
    have hsome : (find? table verb path).isSome = true := by
      rw [find?, hb, Option.bind_some]
      exact Ordered.get?_isSome_iff.2 (mem_of_best? hb)
    exact iff_of_true hsome ⟨best, mem_of_best? hb, covers_of_best? hb⟩

/-- A table with a route for all requests has an entry for every path that starts with a slash. -/
theorem exists_find? {table : RouteTable α} (h : catchAll ∈ Ordered.keys table) (verb rest : Text) :
    ∃ entry ∈ table, find? table verb ('/' :: rest) = some entry.2 := by
  have hcovers : catchAll.covers verb ('/' :: rest) = true := by
    simp [Route.covers, Route.coversVerb, Route.coversPath, catchAll]
  obtain ⟨value, hv⟩ := Option.isSome_iff_exists.1
    ((find?_isSome_iff table verb _).2 ⟨catchAll, h, hcovers⟩)
  obtain ⟨route, hm⟩ := exists_mem_of_find? hv
  exact ⟨(route, value), hm, hv⟩

end RouteTable

namespace Http

namespace Target

theorem dropQuery_eq (t : Text) : dropQuery t = (Text.cut (fun c => c = '?' || c = '#') t).1 := by
  simp only [dropQuery, Text.cut, List.takeWhile_takeWhile]
  congr 1
  funext c
  by_cases hq : c = '?' <;> by_cases hf : c = '#' <;> simp [hq, hf]

theorem clean_of_free {target : Text} (h : ∀ c ∈ target, Text.isBlank c = false)
    (hs : ∀ c ∈ target.head?, 32 < c.toNat) : clean target = target := by
  have hkept : ∀ c ∈ target, (!(c = '\t' || c = '\r' || c = '\n')) = true := by
    intro c hc
    have htab : c ≠ '\t' := by
      rintro rfl
      exact absurd (h _ hc) (by decide)
    have hend := Text.isLineEnd_of_free (h c hc)
    simp only [Text.isLineEnd, Bool.or_eq_false_iff, decide_eq_false_iff_not] at hend
    simp [htab, hend.1, hend.2]
  have hfront : target.dropWhile (fun c => c.toNat ≤ 32) = target := by
    cases target with
    | nil => rfl
    | cons c rest =>
      have hc := hs c rfl
      rw [List.dropWhile_cons, if_neg (by simpa using hc)]
  rw [clean, hfront]
  exact List.filter_eq_self.2 hkept

theorem dropAuthority_of_slash {rest : Text} (h : rest.head? ≠ some '/') :
    dropAuthority ('/' :: rest) = .ok ('/' :: rest) := by
  unfold dropAuthority
  split
  · rename_i he
    rw [(List.cons.inj he).2] at h
    exact absurd rfl h
  · rfl

/-- The path of a target that starts with a single slash is all that comes before the query and the
fragment. -/
theorem path_of_slash {rest : Text} (hs : rest.head? ≠ some '/')
    (h : ∀ c ∈ rest, Text.isBlank c = false) :
    path ('/' :: rest) = .ok (Text.cut (fun c => c = '?' || c = '#') ('/' :: rest)).1 := by
  have hfree : ∀ c ∈ '/' :: rest, Text.isBlank c = false := by
    intro c hc
    rcases List.mem_cons.1 hc with rfl | hc
    · decide
    · exact h c hc
  have hclean : clean ('/' :: rest) = '/' :: rest := clean_of_free hfree (by simp)
  simp only [path, hclean, dropScheme_slash, dropAuthority_of_slash hs, dropQuery_eq]

end Target

namespace RequestLine

theorem free_of_mem_singleSlash {word : Text} (h : ∀ c ∈ word, Text.isBlank c = false) :
    ∀ c ∈ singleSlash word, Text.isBlank c = false := by
  unfold singleSlash
  split
  · intro c hc
    rcases List.mem_cons.1 hc with rfl | hc
    · decide
    · exact h c ((List.dropWhile_sublist _).mem hc)
  · exact h

theorem head?_ne_of_singleSlash {word rest : Text} (h : singleSlash word = '/' :: rest) :
    rest.head? ≠ some '/' := by
  unfold singleSlash at h
  split at h
  · obtain rfl := (List.cons.inj h).2
    intro he
    have hfirst := List.head?_dropWhile_not (fun c => decide (c = '/')) word
    rw [he] at hfirst
    exact absurd hfirst (by decide)
  · rename_i hsingle
    subst h
    intro he
    apply hsingle
    cases rest with
    | nil => cases he
    | cons c rest =>
      obtain rfl : c = '/' := Option.some.inj he
      rfl

theorem exists_path_of_head? {word : Text} (h : ∀ c ∈ word, Text.isBlank c = false)
    (hs : (singleSlash word).head? = some '/') :
    ∃ rest, Target.path (singleSlash word) = .ok ('/' :: rest) := by
  obtain ⟨rest, htarget⟩ := List.head?_eq_some_iff.1 hs
  have hrest : ∀ c ∈ rest, Text.isBlank c = false := by
    intro c hc
    apply free_of_mem_singleSlash h
    rw [htarget]
    exact List.mem_cons_of_mem _ hc
  rw [htarget, Target.path_of_slash (head?_ne_of_singleSlash htarget) hrest]
  exact ⟨_, rfl⟩

/-- The target as it stands in a line: the second of its words. -/
def writtenTarget? (raw : Text) : Option Text :=
  (Text.words (Text.trimRight (fun c => c = '\r' || c = '\n') raw))[1]?

/-- The target of a line that is accepted is the one that stands in it, but for several slashes at
the front of that. -/
theorem exists_word_of_parse {raw : Text} {line : RequestLine} (h : parse raw = .ok line) :
    ∃ word : Text, writtenTarget? raw = some word ∧ (∀ c ∈ word, Text.isBlank c = false) ∧
      line.target = singleSlash word := by
  simp only [parse] at h
  unfold writtenTarget?
  generalize Text.trimRight _ raw = text at h ⊢
  have hfree : ∀ word ∈ Text.words text, ∀ c ∈ word, Text.isBlank c = false :=
    fun word hword => (Text.isBlank_of_mem_words hword).2
  unfold ofWords at h
  split at h
  · cases h
  · cases h
  · rename_i method target hwords
    split at h
    · exact ⟨target, by rw [hwords]; rfl, hfree target (by simp [hwords]),
        by rw [← Except.ok.inj h]⟩
    · cases h
  · rename_i method target version more hwords
    simp only at h
    split at h
    · cases h
    · split at h
      · exact ⟨target, by rw [hwords]; rfl, hfree target (by simp [hwords]),
          by rw [← Except.ok.inj h]⟩
      · cases h

theorem exists_path_of_parse {raw : Text} {line : RequestLine} (h : parse raw = .ok line)
    (hs : line.target.head? = some '/') :
    ∃ rest, Target.path line.target = .ok ('/' :: rest) := by
  obtain ⟨word, -, hfree, hword⟩ := exists_word_of_parse h
  rw [hword] at hs ⊢
  exact exists_path_of_head? hfree hs

end RequestLine

namespace Head

def firstLine? (s : Source) : Option Text :=
  match (s.readLine (HeaderBlock.lineLimit + 1)).1 with
  | .error _ => none
  | .ok raw => some (Text.ofLatin1 raw)

theorem exists_parse_of_read {head : Head} {s t : Source} (h : read s = .ok (head, t)) :
    ∃ raw, firstLine? s = some raw ∧ RequestLine.parse raw = .ok head.line := by
  obtain ⟨u, hline, -⟩ := exists_readRequestLine_of_read h
  obtain ⟨raw, hread, -, -, hparse⟩ := readRequestLine_eq_ok_iff.1 hline
  exact ⟨_, by rw [firstLine?, hread], hparse⟩

end Head

end Http
end GreetingServer
