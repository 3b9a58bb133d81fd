import GreetingServer.Proofs.TargetForm

/-! Paths of requests. The path of a target that is a path is what stands before its query and its
fragment, with a single slash in front; the path of a target that is a whole address is what stands
there behind the authority. So neither a colon nor a bracket nor slashes inside a target are taken
for a scheme or an authority, and a query or a fragment has no say in which handler is found. -/
namespace GreetingServer
namespace Http

namespace Target

/-- What routes look at, of a target as it stands in a request line. -/
def pathOf (written : Text) : Except Fault Text := path (RequestLine.singleSlash written)

/-- What a route is found for, if there is one, by a method and a target as it stands in a request
line. -/
def handlerFor? (routes : RouteTable Handler) (method written : Text) : Option Handler :=
  match pathOf written with
  | .error _ => none
  | .ok path => RouteTable.find? routes method path

def startsSuffix (c : Char) : Bool := c = '?' || c = '#'

/-- What comes before the first query or fragment. -/
def beforeSuffix (t : Text) : Text := (Text.cut startsSuffix t).1

def IsSuffix (t : Text) : Prop := ∀ c ∈ t.head?, startsSuffix c = true

/-- Two targets that are the same but for what a query or a fragment at their ends says. -/
def DifferBehind (written other : Text) : Prop :=
  ∃ base suffix more, IsSuffix suffix ∧ IsSuffix more ∧ written = base ++ suffix ∧
    other = base ++ more

theorem beforeSuffix_cons {c : Char} (h : startsSuffix c = false) (t : Text) :
    beforeSuffix (c :: t) = c :: beforeSuffix t := by
  simp [beforeSuffix, Text.cut, h]

/-- A query or a fragment behind a text changes nothing before the first one. -/
theorem beforeSuffix_append_of_isSuffix (base : Text) {suffix : Text} (h : IsSuffix suffix) :
    beforeSuffix (base ++ suffix) = beforeSuffix base := by
  induction base with
  | nil =>
    cases suffix with
    | nil => rfl
    | cons c suffix => simp [beforeSuffix, Text.cut, h c rfl]
  | cons c base ih =>
    cases hc : startsSuffix c with
    | true => simp [beforeSuffix, Text.cut, hc]
    | false => rw [List.cons_append, beforeSuffix_cons hc, beforeSuffix_cons hc, ih]

theorem DifferBehind.beforeSuffix_eq {written other : Text} (h : DifferBehind written other) :
    beforeSuffix other = beforeSuffix written := by
  obtain ⟨base, suffix, more, hsuffix, hmore, rfl, rfl⟩ := h
  rw [beforeSuffix_append_of_isSuffix base hsuffix, beforeSuffix_append_of_isSuffix base hmore]

theorem dropQuery_eq_beforeSuffix (t : Text) : dropQuery t = beforeSuffix t := dropQuery_eq t

theorem handlerFor?_congr {written other : Text} (h : pathOf other = pathOf written)
    (routes : RouteTable Handler) (method : Text) :
    handlerFor? routes method other = handlerFor? routes method written := by
  simp only [handlerFor?, h]

theorem singleSlash_slash (behind : Text) :
    RequestLine.singleSlash ('/' :: behind) = '/' :: behind.dropWhile (· = '/') := by
  cases behind with
  | nil => rfl
  | cons c behind =>
    by_cases hc : c = '/'
    · subst hc
      rfl
    · simp [RequestLine.singleSlash_of_single c behind hc, hc]

theorem head?_dropWhile_slash (t : Text) : (t.dropWhile (· = '/')).head? ≠ some '/' := by
  intro he
  have hfirst := List.head?_dropWhile_not (fun c => decide (c = '/')) t
  rw [he] at hfirst
  exact absurd hfirst (by decide)

theorem pathOf_slash {behind : Text} (hfree : ∀ c ∈ behind, Text.isBlank c = false) :
    pathOf ('/' :: behind) = .ok (beforeSuffix ('/' :: behind.dropWhile (· = '/'))) := by
  rw [pathOf, singleSlash_slash]
  exact path_of_slash (head?_dropWhile_slash behind) fun c hc =>
    hfree c ((List.dropWhile_sublist _).mem hc)

/-- It does not matter which is cut off first, the slashes or the suffix. -/
theorem beforeSuffix_dropWhile (t : Text) :
    beforeSuffix (t.dropWhile (· = '/')) = (beforeSuffix t).dropWhile (· = '/') := by
  induction t with
  | nil => rfl
  | cons c t ih =>
    by_cases hc : c = '/'
    · subst hc
      rw [beforeSuffix_cons (by decide)]
      exact ih
    · cases hs : startsSuffix c with
      | true => simp [beforeSuffix, Text.cut, hs, hc]
      | false => simp [beforeSuffix_cons hs, hc]

theorem beforeSuffix_slash (behind : Text) :
    beforeSuffix ('/' :: behind.dropWhile (· = '/')) =
      '/' :: (beforeSuffix behind).dropWhile (· = '/') := by
  rw [beforeSuffix_cons (by decide), beforeSuffix_dropWhile]

/-- With another query or fragment a target that starts with a slash is one with the same path. -/
theorem pathOf_of_differBehind_slash {behind other : Text}
    (hfree : ∀ c ∈ behind, Text.isBlank c = false) (hother : ∀ c ∈ other, Text.isBlank c = false)
    (h : DifferBehind ('/' :: behind) other) : pathOf other = pathOf ('/' :: behind) := by
  obtain ⟨base, suffix, more, hsuffix, hmore, hwritten, rfl⟩ := h
  cases base with
  | nil =>
    rw [List.nil_append] at hwritten
    exact absurd (hsuffix '/' (by rw [← hwritten]; rfl)) (by decide)
  | cons c base =>
    rw [List.cons_append] at hwritten
    obtain ⟨rfl, rfl⟩ := List.cons.inj hwritten
    have hsame : beforeSuffix (base ++ more) = beforeSuffix (base ++ suffix) :=
      DifferBehind.beforeSuffix_eq ⟨base, suffix, more, hsuffix, hmore, rfl, rfl⟩
    have hmorefree : ∀ d ∈ base ++ more, Text.isBlank d = false :=
      fun d hd => hother d (List.mem_cons_of_mem _ hd)
    rw [List.cons_append, pathOf_slash hmorefree, pathOf_slash hfree, beforeSuffix_slash,
      beforeSuffix_slash, hsame]

theorem dropScheme_append {first : Char} {more rest : Text} (hfirst : first.isAlpha = true)
    (hmore : ∀ c ∈ more, isSchemeChar c = true) :
    dropScheme (first :: more ++ ':' :: rest) = rest := by
  have hscheme : ∀ c ∈ first :: more, isSchemeChar c = true := by
    intro c hc
    rcases List.mem_cons.1 hc with rfl | hc
    · simp [isSchemeChar, Char.isAlphanum, hfirst]
    · exact hmore c hc
  have hcolon : ∀ c ∈ first :: more, decide (c = ':') = false := by
    intro c hc
    refine decide_eq_false fun he => ?_
    exact absurd (he ▸ hscheme c hc) (by decide)
  have hcut : Text.cut (fun c => decide (c = ':')) (first :: more ++ ':' :: rest) =
      (first :: more, ':' :: rest) :=
    Text.cut_of_stop hcolon fun c hc => by
      obtain rfl : ':' = c := Option.some.inj hc
      rfl
  have hall : (first :: more).all isSchemeChar = true := List.all_eq_true.2 hscheme
  simp only [dropScheme, hcut, hfirst, hall, Bool.and_self, if_true]

end Target

structure Address where
  scheme : Text
  authority : Text
  rest : Text
  deriving Repr, DecidableEq

namespace Address
open Target (isSchemeChar pathOf beforeSuffix startsSuffix DifferBehind)
open TargetForm (isHostTextChar)

def text (a : Address) : Text := a.scheme ++ "://".toList ++ a.authority ++ a.rest

/-- The scheme is a letter with letters, digits, pluses, hyphens and points behind it; the authority
is made of letters, digits, points, hyphens and colons; and what is behind it starts as a path, a
query or a fragment does. -/
structure IsWellFormed (a : Address) : Prop where
  scheme : ∃ first more, a.scheme = first :: more ∧ first.isAlpha = true ∧
    ∀ c ∈ more, isSchemeChar c = true
  authority_ne_nil : a.authority ≠ []
  authority : ∀ c ∈ a.authority, isHostTextChar c = true
  rest : ∀ c ∈ a.rest.head?, c = '/' ∨ c = '?' ∨ c = '#'

variable {a : Address}

/-- The path of an address is what is behind its authority, up to the query and the fragment. -/
theorem IsWellFormed.pathOf_text (ha : a.IsWellFormed)
    (hfree : ∀ c ∈ a.text, Text.isBlank c = false) : pathOf a.text = .ok (beforeSuffix a.rest) := by
  obtain ⟨first, more, hscheme, hfirst, hmore⟩ := ha.scheme
  have htext : a.text = first :: more ++ ':' :: ("//".toList ++ (a.authority ++ a.rest)) := by
    simp [text, hscheme]
  have hvisible : Text.isVisible first = true :=
    Text.isVisible_of_isAlphanum (by simp [Char.isAlphanum, hfirst])
  have hhead : a.text.head? = some first := by rw [htext]; rfl
  have hslash : a.text.head? ≠ some '/' := by
    rw [hhead]
    rintro he
    rw [Option.some.inj he] at hfirst
    exact absurd hfirst (by decide)
  have hfront : ∀ c ∈ a.text.head?, 32 < c.toNat := by
    intro c hc
    obtain rfl : first = c := Option.some.inj (hhead.symm.trans hc)
    simp only [Text.isVisible, Bool.and_eq_true, decide_eq_true_eq] at hvisible
    omega
  have hends : ∀ c ∈ a.rest.head?, Target.endsAuthority c = true := by
    intro c hc
    rcases ha.rest c hc with rfl | rfl | rfl <;> decide
  have hauthority := Target.dropAuthority_append
    (fun c hc => TargetForm.endsAuthority_of_isHostTextChar (ha.authority c hc)) hends
  rw [pathOf, Target.singleSlash_of_head? hslash, Target.path, Target.clean_of_free hfree hfront,
    htext, Target.dropScheme_append hfirst hmore, hauthority]
  exact congrArg Except.ok (Target.dropQuery_eq_beforeSuffix a.rest)

/-- Neither a scheme nor an authority has a character that a query or a fragment starts with. -/
theorem IsWellFormed.startsSuffix_of_mem (ha : a.IsWellFormed) :
    ∀ c ∈ a.scheme ++ "://".toList ++ a.authority, startsSuffix c = false := by
  have hmarks : ∀ d : Char, startsSuffix d = true → d = '?' ∨ d = '#' := by
    intro d hd
    simpa [startsSuffix] using hd
  obtain ⟨first, more, hscheme, hfirst, hmore⟩ := ha.scheme
  intro c hc
  rw [Bool.eq_false_iff]
  intro hs
  rw [hscheme, List.mem_append, List.mem_append, List.mem_cons] at hc
  rcases hc with ((rfl | hc) | hc) | hc
  · rcases hmarks c hs with rfl | rfl <;> exact absurd hfirst (by decide)
  · have hchar := hmore c hc
    rcases hmarks c hs with rfl | rfl <;> exact absurd hchar (by decide)
  · have hnone : ("://".toList.any startsSuffix) = false := by decide
    exact List.any_eq_false.1 hnone c hc hs
  · have hchar := ha.authority c hc
    rcases hmarks c hs with rfl | rfl <;> exact absurd hchar (by decide)

/-- With another query or fragment an address is one with the same scheme and authority. -/
theorem IsWellFormed.exists_of_differBehind (ha : a.IsWellFormed) {other : Text}
    (h : DifferBehind a.text other) :
    ∃ b : Address, b.IsWellFormed ∧ other = b.text ∧ beforeSuffix b.rest = beforeSuffix a.rest := by
  obtain ⟨base, suffix, more, hsuffix, hmore, htext, rfl⟩ := h
  -- The base goes at least as far as the authority: the suffix cannot start before its end.
  obtain ⟨kept, hbase, hrest⟩ : ∃ kept, base = a.scheme ++ "://".toList ++ a.authority ++ kept ∧
      a.rest = kept ++ suffix := by
    rcases List.append_eq_append_iff.1 htext with ⟨kept, hbase, hrest⟩ | ⟨cut, hfront, hsuf⟩
    · exact ⟨kept, hbase, hrest⟩
    · cases cut with
      | nil => exact ⟨[], by simpa using hfront.symm, by simpa using hsuf.symm⟩
      | cons c cut =>
        have hfree := ha.startsSuffix_of_mem c (by rw [hfront]; simp)
        rw [hsuffix c (by rw [hsuf]; rfl)] at hfree
        cases hfree
  refine ⟨{ a with rest := kept ++ more }, ⟨ha.scheme, ha.authority_ne_nil, ha.authority, ?_⟩, ?_,
    ?_⟩
  · intro c hc
    cases kept with
    | nil => simpa [startsSuffix] using Or.inr (hmore c hc)
    | cons d kept => exact ha.rest c (by rw [hrest]; exact hc)
  · rw [hbase, List.append_assoc]
    rfl
  · exact DifferBehind.beforeSuffix_eq ⟨kept, suffix, more, hsuffix, hmore, hrest, rfl⟩

end Address

/-- The target of the request that comes next, as it stands in the first line. -/
def Head.writtenTarget? (s : Source) : Option Text :=
  (Head.firstLine? s).bind RequestLine.writtenTarget?

theorem Head.path_of_read {head : Head} {s t : Source} (hr : Head.read s = .ok (head, t))
    {written : Text} (hw : Head.writtenTarget? s = some written) :
    Target.path head.line.target = Target.pathOf written := by
  obtain ⟨raw, hfirst, hparse⟩ := Head.exists_parse_of_read hr
  obtain ⟨word, hword, -, htarget⟩ := RequestLine.exists_word_of_parse hparse
  rw [Head.writtenTarget?, hfirst, Option.bind_some, hword] at hw
  obtain rfl := Option.some.inj hw
  rw [htarget, Target.pathOf]

end Http

namespace Connection
open Http (Address)
open Http.Target (pathOf handlerFor? beforeSuffix DifferBehind)
variable {site : Site} {head : Http.Head} {s t : Source} {written : Text}

theorem calls_verdict_of_path (hp : Http.Target.path head.line.target = pathOf written) {n : Nat}
    (hl : Http.ContentLength.ofHeaders head.headers = .ok n) :
    (verdict site head).calls.map Call.handler =
      (handlerFor? site.routes head.line.method written).toList.map Handler.name := by
  simp only [verdict, hl, hp, handlerFor?]
  cases pathOf written with
  | error fault => rfl
  | ok path =>
    cases hf : RouteTable.find? site.routes head.line.method path <;> simp [hf, Verdict.calls]

theorem path_of_mem_calls (hp : Http.Target.path head.line.target = pathOf written) {call : Call}
    (hc : call ∈ (verdict site head).calls) : pathOf written = .ok call.request.path := by
  unfold verdict at hc
  split at hc
  · split at hc <;> cases hc
  · split at hc
    · cases hc
    · rename_i path hpath
      split at hc
      · cases hc
      · obtain rfl := List.mem_singleton.1 hc
        exact hp.symm.trans hpath

/-- A target and its path. -/
structure IsExtracted (written : Text) : Prop where
  /-- The path of a target that starts with a slash is what comes before the suffix, with one slash
  in front instead of several. -/
  rooted : ∀ behind, written = '/' :: behind →
    ∃ path, pathOf written = .ok ('/' :: path) ∧ path.head? ≠ some '/' ∧
      '/' :: path = beforeSuffix ('/' :: behind.dropWhile (· = '/'))
  /-- The path of an address is what comes before the suffix and behind the authority. -/
  addressed : ∀ address : Address, address.IsWellFormed → written = address.text →
    pathOf written = .ok (beforeSuffix address.rest)
  /-- Another suffix makes no other path, and no other handler is found. -/
  steady : (written.head? = some '/' ∨
      ∃ address : Address, address.IsWellFormed ∧ written = address.text) →
    ∀ other, (∀ c ∈ other, Text.isBlank c = false) → DifferBehind written other →
      pathOf other = pathOf written ∧
        ∀ routes method, handlerFor? routes method other = handlerFor? routes method written
  /-- The handler that is found is called for a request with the target, once its body is there. -/
  called : ∀ site s head t n, Http.Head.read s = .ok (head, t) →
    Http.Head.writtenTarget? s = some written →
    Http.ContentLength.ofHeaders head.headers = .ok n → n ≤ t.unread.length →
      (outcome site (exchange site s)).calls.map Call.handler =
        (handlerFor? site.routes head.line.method written).toList.map Handler.name
  /-- Whatever handler is called for such a request sees the path. -/
  seen : ∀ site s head t, Http.Head.read s = .ok (head, t) →
    Http.Head.writtenTarget? s = some written →
      ∀ call ∈ (outcome site (exchange site s)).calls, pathOf written = .ok call.request.path

theorem pathOf_of_differBehind (hfree : ∀ c ∈ written, Text.isBlank c = false)
    (h : written.head? = some '/' ∨
      ∃ address : Address, address.IsWellFormed ∧ written = address.text)
    {other : Text} (hother : ∀ c ∈ other, Text.isBlank c = false)
    (hd : DifferBehind written other) : pathOf other = pathOf written := by
  rcases h with hslash | ⟨address, ha, rfl⟩
  · obtain ⟨behind, rfl⟩ := List.head?_eq_some_iff.1 hslash
    exact Http.Target.pathOf_of_differBehind_slash
      (fun c hc => hfree c (List.mem_cons_of_mem _ hc)) hother hd
  · obtain ⟨b, hb, rfl, hrest⟩ := ha.exists_of_differBehind hd
    rw [hb.pathOf_text hother, ha.pathOf_text hfree, hrest]

/-- Every target without blanks has the path that it should have. -/
theorem isExtracted_of_free (hfree : ∀ c ∈ written, Text.isBlank c = false) :
    IsExtracted written where
  rooted behind hw := by
    subst hw
    have hbehind : ∀ c ∈ behind, Text.isBlank c = false :=
      fun c hc => hfree c (List.mem_cons_of_mem _ hc)
    refine ⟨(beforeSuffix behind).dropWhile (· = '/'), ?_, Http.Target.head?_dropWhile_slash _,
      (Http.Target.beforeSuffix_slash behind).symm⟩
    rw [Http.Target.pathOf_slash hbehind, Http.Target.beforeSuffix_slash]
  addressed address ha hw := by
    subst hw
    exact ha.pathOf_text hfree
  steady h other hother hd := by
    have hpath := pathOf_of_differBehind hfree h hother hd
    exact ⟨hpath, Http.Target.handlerFor?_congr hpath⟩
  called site s head t n hr hw hl hb := by
    have hwhole : HasWholeBody head t := by
      intro m hm
      rw [hl] at hm
      rw [← Except.ok.inj hm]
      exact hb
    rw [calls_exchange hr, if_pos hwhole]
    exact calls_verdict_of_path (Http.Head.path_of_read hr hw) hl
  seen site s head t hr hw call hc := by
    rw [calls_exchange hr] at hc
    split at hc
    · exact path_of_mem_calls (Http.Head.path_of_read hr hw) hc
    · cases hc

/-- An address with a port, and with slashes, a colon and a bracket where a path may have them. -/
def pageAddress : Address where
  scheme := "a+b".toList
  authority := "c.d:80".toList
  rest := "//e:[f?g#h".toList

/-- A target with several slashes, of which the handler sees one, and an address. -/
theorem isExtracted_probe_page :
    (∃ call ∈ (outcome Greeting.site (exchange Greeting.site ⟨probeBytes, none⟩)).calls,
      call.request.path = "/a".toList) ∧
      pageAddress.IsWellFormed ∧ pathOf pageAddress.text = .ok "//e:[f".toList := by
  have hprobe : ∀ c ∈ "//a?b=c".toList, Text.isBlank c = false := fun c hc =>
    Bool.eq_false_iff.2 (List.any_eq_false.1 (by decide) c hc)
  have hpage : ∀ c ∈ pageAddress.text, Text.isBlank c = false := fun c hc =>
    Bool.eq_false_iff.2 (List.any_eq_false.1 (by decide) c hc)
  have hread : Http.Head.read ⟨probeBytes, none⟩ = .ok (probeHead, ⟨[], none⟩) := by rfl
  have hwritten : Http.Head.writtenTarget? ⟨probeBytes, none⟩ = some "//a?b=c".toList := by
    decide +kernel
  have hwell : pageAddress.IsWellFormed := by
    refine ⟨⟨'a', "+b".toList, rfl, by decide, List.all_eq_true.1 (by decide)⟩, by decide,
      List.all_eq_true.1 (by decide), ?_⟩
    exact fun c hc => Or.inl (Option.some.inj hc).symm
  have hextracted := isExtracted_of_free hprobe
  have hname := hextracted.called Greeting.site _ _ _ 0 hread hwritten rfl (Nat.zero_le _)
  refine ⟨?_, hwell, (isExtracted_of_free hpage).addressed _ hwell rfl⟩
  cases hcalls : (outcome Greeting.site (exchange Greeting.site ⟨probeBytes, none⟩)).calls with
  | nil =>
    rw [hcalls] at hname
    exact absurd hname (by decide +kernel)
  | cons call calls =>
    have hseen := hextracted.seen Greeting.site _ _ _ hread hwritten call
      (hcalls ▸ List.mem_cons_self)
    exact ⟨call, List.mem_cons_self, (Except.ok.inj hseen).symm⟩

end Connection
end GreetingServer
