import GreetingServer.Proofs.Greeted

/-! The forms of targets. A target may be a path, a whole address, a host with a port, or a star for
the server itself. The path of the first starts with a slash, and so does that of the second if the
address has a path; of the other targets none does, and so they are not greeted, although the route
of the greeting is for every path. -/
namespace GreetingServer

theorem Text.isVisible_of_isAlphanum {c : Char} (h : c.isAlphanum = true) :
    isVisible c = true := by
  have hranges : ((65 ≤ c.toNat ∧ c.toNat ≤ 90) ∨ (97 ≤ c.toNat ∧ c.toNat ≤ 122)) ∨
      (48 ≤ c.toNat ∧ c.toNat ≤ 57) := by
    rcases Bool.or_eq_true_iff.1 h with h | h
    · rcases Bool.or_eq_true_iff.1 h with h | h
      · exact Or.inl (Or.inl (of_decide_eq_true h))
      · obtain ⟨hlow, hhigh⟩ := Bool.and_eq_true_iff.1 h
        exact Or.inl (Or.inr ⟨of_decide_eq_true hlow, of_decide_eq_true hhigh⟩)
    · exact Or.inr (toNat_of_isDigit h)
  simp only [isVisible, Bool.and_eq_true, decide_eq_true_eq]
  omega

namespace Http

def isHostChar (c : Char) : Bool := c.isAlphanum || c = '.' || c = '-'

def isTargetChar (c : Char) : Bool := Text.isLatin1 c && !Text.isBlank c

/-- The forms of targets. -/
inductive TargetForm
  /-- A path, which comes behind the slash, with what follows it. -/
  | origin (rest : Text)
  /-- A scheme, a host, maybe a port, and then a path or a query, or nothing. -/
  | absolute (host : Text) (port : Option Text) (rest : Text)
  | authority (host port : Text)
  | asterisk
  deriving Repr, DecidableEq

namespace TargetForm

def hostText (host : Text) (port : Option Text) : Text :=
  host ++ (port.map fun p => ':' :: p).getD []

def text : TargetForm → Text
  | origin rest => '/' :: rest
  | absolute host port rest => "http://".toList ++ hostText host port ++ rest
  | authority host port => hostText host (some port)
  | asterisk => ['*']

/-- A host is a name of letters, digits, points and hyphens, and a port is a row of digits. -/
structure IsHost (host : Text) (port : Option Text) : Prop where
  ne_nil : host ≠ []
  host : ∀ c ∈ host, isHostChar c = true
  port : ∀ p ∈ port, ∀ c ∈ p, c.isDigit = true

/-- The target is one of its form. What is behind the host of an address is a path or a query. -/
def IsWellFormed : TargetForm → Prop
  | origin rest => ∀ c ∈ rest, isTargetChar c = true
  | absolute host port rest =>
    IsHost host port ∧ (∀ c ∈ rest, isTargetChar c = true) ∧
      ∀ c ∈ rest.head?, c = '/' ∨ c = '?'
  | authority host port => IsHost host (some port)
  | asterisk => True

/-- The target has a path that starts with a slash. -/
def isRooted : TargetForm → Bool
  | origin _ => true
  | absolute _ _ rest => rest.head? == some '/'
  | authority _ _ => false
  | asterisk => false

end TargetForm

namespace Target

theorem singleSlash_of_head? {target : Text} (h : target.head? ≠ some '/') :
    RequestLine.singleSlash target = target := by
  unfold RequestLine.singleSlash
  split
  · rename_i hslashes
    obtain ⟨rest, rfl⟩ := List.isPrefixOf_iff_prefix.1 hslashes
    exact absurd rfl h
  · rfl

theorem dropScheme_http (t : Text) : dropScheme ("http:".toList ++ t) = t := rfl

theorem mem_of_mem_dropScheme {target : Text} {c : Char} (h : c ∈ dropScheme target) :
    c ∈ target := by
  have hcut := Text.cut_append (fun d => decide (d = ':')) target
  unfold dropScheme at h
  simp only at h
  split at h
  · rename_i hrest
    split at h
    · rw [← hcut, hrest]
      exact List.mem_append_right _ (List.mem_cons_of_mem _ h)
    · exact h
  · exact h

theorem dropAuthority_append {authority rest : Text}
    (h : ∀ c ∈ authority, endsAuthority c = false ∧ c ≠ '[' ∧ c ≠ ']')
    (hr : ∀ c ∈ rest.head?, endsAuthority c = true) :
    dropAuthority ("//".toList ++ (authority ++ rest)) = .ok rest := by
  have hcut : Text.cut endsAuthority (authority ++ rest) = (authority, rest) :=
    Text.cut_of_stop (fun c hc => (h c hc).1) hr
  have hopen : authority.contains '[' = false := by
    simpa using fun hc => (h _ hc).2.1 rfl
  have hclose : authority.contains ']' = false := by
    simpa using fun hc => (h _ hc).2.2 rfl
  have hcheck : checkAuthority authority = .ok () := by
    simp only [checkAuthority, hopen, hclose]
  unfold dropAuthority
  split
  · rename_i slashed he
    obtain rfl : authority ++ rest = slashed := (List.cons.inj (List.cons.inj he).2).2
    simp only [hcut, hcheck]
  · rename_i hno
    exact absurd rfl (hno (authority ++ rest))

theorem dropAuthority_of_head? {target : Text} (h : target.head? ≠ some '/') :
    dropAuthority target = .ok target := by
  unfold dropAuthority
  split
  · exact absurd rfl h
  · rfl

theorem path_of_no_slash {target : Text} (hfree : ∀ c ∈ target, Text.isBlank c = false)
    (hs : ∀ c ∈ target.head?, 32 < c.toNat) (h : '/' ∉ target) :
    ∃ p, path target = .ok p ∧ '/' ∉ p := by
  have hrest : '/' ∉ dropScheme target := fun hm => h (mem_of_mem_dropScheme hm)
  have hhead : (dropScheme target).head? ≠ some '/' :=
    fun he => hrest (List.mem_of_mem_head? he)
  refine ⟨dropQuery (dropScheme target), ?_, ?_⟩
  · simp only [path, clean_of_free hfree hs, dropAuthority_of_head? hhead]
  · rw [dropQuery_eq]
    exact fun hm => hrest ((List.takeWhile_sublist _).mem hm)

end Target

namespace TargetForm

def isHostTextChar (c : Char) : Bool := isHostChar c || c = ':'

theorem isVisible_of_isHostTextChar {c : Char} (h : isHostTextChar c = true) :
    Text.isVisible c = true := by
  simp only [isHostTextChar, isHostChar, Bool.or_eq_true, decide_eq_true_eq] at h
  rcases h with ((h | rfl) | rfl) | rfl
  · exact Text.isVisible_of_isAlphanum h
  · decide
  · decide
  · decide

theorem endsAuthority_of_isHostTextChar {c : Char} (h : isHostTextChar c = true) :
    Target.endsAuthority c = false ∧ c ≠ '[' ∧ c ≠ ']' := by
  have hnot : ∀ d ∈ ['/', '?', '#', '[', ']'], c ≠ d := by
    rintro d hd rfl
    have hno : (['/', '?', '#', '[', ']'].any isHostTextChar) = false := by decide
    exact List.any_eq_false.1 hno c hd h
  refine ⟨?_, hnot _ (by simp), hnot _ (by simp)⟩
  simp [Target.endsAuthority, hnot]

variable {host : Text} {port : Option Text}

theorem IsHost.isHostTextChar_of_mem (h : IsHost host port) :
    ∀ c ∈ hostText host port, isHostTextChar c = true := by
  intro c hc
  rcases List.mem_append.1 hc with hc | hc
  · rw [isHostTextChar, h.host c hc, Bool.true_or]
  · cases port with
    | none => cases hc
    | some p =>
      rcases List.mem_cons.1 hc with rfl | hc
      · decide
      · have hdigit := h.port p rfl c hc
        simp [isHostTextChar, isHostChar, Char.isAlphanum, hdigit]

theorem isTargetChar_of_isVisible {c : Char} (h : Text.isVisible c = true) :
    isTargetChar c = true := by
  rw [isTargetChar, Text.isBlank_of_isVisible h,
    Text.isLatin1_of_isInner (Text.isInner_of_isVisible h)]
  rfl

theorem IsHost.isTargetChar_of_mem (h : IsHost host port) :
    ∀ c ∈ hostText host port, isTargetChar c = true := fun c hc =>
  isTargetChar_of_isVisible (isVisible_of_isHostTextChar (h.isHostTextChar_of_mem c hc))

theorem isTargetChar_of_mem_text {f : TargetForm} (hf : f.IsWellFormed) :
    f.text ≠ [] ∧ ∀ c ∈ f.text, isTargetChar c = true := by
  cases f with
  | origin rest =>
    refine ⟨List.cons_ne_nil _ _, fun c hc => ?_⟩
    rcases List.mem_cons.1 hc with rfl | hc
    · decide
    · exact hf c hc
  | absolute host port rest =>
    obtain ⟨hhost, hrest, -⟩ := hf
    refine ⟨List.cons_ne_nil _ _, fun c hc => ?_⟩
    rcases List.mem_append.1 hc with hc | hc
    · rcases List.mem_append.1 hc with hc | hc
      · have hscheme : ∀ d ∈ "http://".toList, isTargetChar d = true :=
          List.all_eq_true.1 (by decide)
        exact hscheme c hc
      · exact hhost.isTargetChar_of_mem c hc
    · exact hrest c hc
  | authority host port =>
    refine ⟨fun he => hf.ne_nil (List.append_eq_nil_iff.1 he).1, ?_⟩
    exact IsHost.isTargetChar_of_mem hf
  | asterisk => exact ⟨List.cons_ne_nil _ _, List.all_eq_true.1 (by decide)⟩

theorem isBlank_of_isTargetChar {c : Char} (h : isTargetChar c = true) :
    Text.isBlank c = false := by
  simp only [isTargetChar, Bool.and_eq_true, Bool.not_eq_true'] at h
  exact h.2

theorem isInner_of_isTargetChar {c : Char} (h : isTargetChar c = true) :
    Text.isInner c = true := by
  have hend := Text.isLineEnd_of_free (isBlank_of_isTargetChar h)
  simp only [isTargetChar, Bool.and_eq_true] at h
  rw [Text.isInner, h.1, hend]
  rfl

theorem isBlank_of_mem_text {f : TargetForm} (hf : f.IsWellFormed) :
    ∀ c ∈ f.text, Text.isBlank c = false := fun c hc =>
  isBlank_of_isTargetChar ((isTargetChar_of_mem_text hf).2 c hc)

theorem path_text_absolute {rest : Text} (hf : (absolute host port rest).IsWellFormed) :
    Target.path (RequestLine.singleSlash (absolute host port rest).text) =
      .ok (Target.dropQuery rest) := by
  have hfree := isBlank_of_mem_text hf
  obtain ⟨hhost, -, hstart⟩ := hf
  have hends : ∀ c ∈ rest.head?, Target.endsAuthority c = true := by
    intro c hc
    rcases hstart c hc with rfl | rfl <;> decide
  have hauthority := Target.dropAuthority_append
    (fun c hc => endsAuthority_of_isHostTextChar (hhost.isHostTextChar_of_mem c hc)) hends
  have htext : (absolute host port rest).text =
      "http:".toList ++ ("//".toList ++ (hostText host port ++ rest)) := rfl
  have hfront : ∀ c ∈ (absolute host port rest).text.head?, 32 < c.toNat := by
    intro c hc
    obtain rfl : 'h' = c := Option.some.inj hc
    decide
  have hslash : (absolute host port rest).text.head? ≠ some '/' := by
    intro he
    exact absurd (show 'h' = '/' from Option.some.inj he) (by decide)
  rw [Target.singleSlash_of_head? hslash, Target.path, Target.clean_of_free hfree hfront, htext,
    Target.dropScheme_http, hauthority]

theorem exists_path_text_authority {port : Text} (hf : (authority host port).IsWellFormed) :
    ∃ p, Target.path (RequestLine.singleSlash (authority host port).text) = .ok p ∧ '/' ∉ p := by
  have hchars := IsHost.isHostTextChar_of_mem hf
  have hslash : '/' ∉ (authority host port).text := by
    intro hc
    exact absurd (hchars '/' hc) (by decide)
  have hfront : ∀ c ∈ (authority host port).text.head?, 32 < c.toNat := by
    intro c hc
    have hvisible := isVisible_of_isHostTextChar (hchars c (List.mem_of_mem_head? hc))
    simp only [Text.isVisible, Bool.and_eq_true, decide_eq_true_eq] at hvisible
    omega
  rw [Target.singleSlash_of_head? fun he => hslash (List.mem_of_mem_head? he)]
  exact Target.path_of_no_slash (isBlank_of_mem_text hf) hfront hslash

theorem exists_path_text {f : TargetForm} (hf : f.IsWellFormed) :
    ∃ p, Target.path (RequestLine.singleSlash f.text) = .ok p ∧
      (p.head? = some '/' ↔ f.isRooted = true) := by
  cases f with
  | origin rest =>
    have hslash : (RequestLine.singleSlash ('/' :: rest)).head? = some '/' := by
      unfold RequestLine.singleSlash
      split <;> rfl
    obtain ⟨p, hp⟩ := RequestLine.exists_path_of_head? (isBlank_of_mem_text hf) hslash
    exact ⟨'/' :: p, hp, iff_of_true rfl rfl⟩
  | absolute host port rest =>
    refine ⟨Target.dropQuery rest, path_text_absolute hf, ?_⟩
    rw [Target.dropQuery_eq]
    cases rest with
    | nil => simp [isRooted, Text.cut]
    | cons c rest => rcases hf.2.2 c rfl with rfl | rfl <;> simp [isRooted, Text.cut]
  | authority host port =>
    obtain ⟨p, hp, hno⟩ := exists_path_text_authority hf
    exact ⟨p, hp, iff_of_false (fun he => hno (List.mem_of_mem_head? he)) Bool.false_ne_true⟩
  | asterisk => exact ⟨['*'], rfl, by decide⟩

theorem exists_path_of_read {method : Text} (hmethod : method ≠ [])
    (hvisible : ∀ c ∈ method, Text.isVisible c = true) {f : TargetForm} (hf : f.IsWellFormed)
    {rest : Bytes} {failure : Option Fault} {head : Head} {t : Source}
    (hr : Head.read ⟨(RequestLine.written method f.text ++ lineEnd).map Text.toByte ++ rest,
      failure⟩ = .ok (head, t)) :
    ∃ p, Target.path head.line.target = .ok p ∧ (p.head? = some '/' ↔ f.isRooted = true) := by
  obtain ⟨htext, hchars⟩ := isTargetChar_of_mem_text hf
  have hline := Head.line_of_read hmethod hvisible htext
    (fun c hc => ⟨isInner_of_isTargetChar (hchars c hc), isBlank_of_isTargetChar (hchars c hc)⟩) hr
  rw [hline]
  exact exists_path_text hf

end TargetForm
end Http

namespace Greeting

theorem find?_routes_of_head? (verb : Text) {path : Text} (h : path.head? ≠ some '/') :
    RouteTable.find? routes verb path = none := by
  rw [← Option.not_isSome_iff_eq_none, RouteTable.find?_isSome_iff]
  rintro ⟨r, hr, hc⟩
  obtain rfl : r = route := List.mem_singleton.1 hr
  have hpath := (Route.covers_iff.1 hc).2
  rcases hpath with rfl | ⟨-, hprefix⟩
  · exact h rfl
  · obtain ⟨rest, rfl⟩ := hprefix
    exact h rfl

end Greeting

namespace Connection
open Http (TargetForm isHostChar)
variable {site : Site} {head : Http.Head} {s t : Source}

/-- The request is answered by the greeting, with the status of success. -/
def IsGreeted (site : Site) (head : Http.Head) (e : Exchange) : Prop :=
  ∃ date closing request, site.now.httpDate = .ok date ∧
    (Greeting.response request).status = 200 ∧
    outcome site e =
      { sent := interimBytes head ++ responseBytes date head closing (Greeting.response request)
        calls := [⟨Greeting.handler.name, request⟩]
        pauses := [Greeting.delay] }

/-- The request is answered as one that no route is for. -/
def IsNotFound (site : Site) (head : Http.Head) (e : Exchange) : Prop :=
  ∃ date closing, site.now.httpDate = .ok date ∧
    outcome site e =
      { sent := interimBytes head ++ responseBytes date head closing { status := 404 }
        logs := [unroutedEntry head] }

theorem not_isGreeted_of_calls {e : Exchange} (h : (outcome site e).calls = []) :
    ¬IsGreeted site head e := by
  rintro ⟨date, closing, request, -, -, hgreeted⟩
  rw [hgreeted] at h
  cases h

theorem not_isGreeted_of_isNotFound {e : Exchange} (h : IsNotFound site head e) :
    ¬IsGreeted site head e := by
  obtain ⟨date, closing, -, hmissing⟩ := h
  exact not_isGreeted_of_calls (congrArg Record.calls hmissing)

theorem isTellable_greeting (hroutes : site.routes = Greeting.routes) {date : Text}
    (hd : site.now.httpDate = .ok date)
    (hpeer : site.peer.text.all Text.isLatin1 = true) : site.IsTellable date where
  told := hd
  handlers entry hentry request hrequest := by
    rw [hroutes] at hentry
    obtain rfl : entry = (Greeting.route, Greeting.handler) := List.mem_singleton.1 hentry
    rw [← hrequest] at hpeer
    exact Greeting.isWritable_responseTo hpeer

theorem isGreeted_of_path (hroutes : site.routes = Greeting.routes) {date : Text}
    (hd : site.now.httpDate = .ok date)
    (hpeer : site.peer.text.all Text.isLatin1 = true)
    (hr : Http.Head.read s = .ok (head, t)) (hb : HasWholeBody head t) {n : Nat}
    (hl : Http.ContentLength.ofHeaders head.headers = .ok n) {rest : Text}
    (hp : Http.Target.path head.line.target = .ok ('/' :: rest)) :
    IsGreeted site head (exchange site s) := by
  have hcome := outcome_answer (isTellable_greeting hroutes hd hpeer) hb
  rw [verdict_of_rooted hroutes hl hp] at hcome
  refine ⟨date, Http.ResponseHead.closingAfter (endsAfter head)
    (Greeting.response (requestOf site head ('/' :: rest))).headers,
    requestOf site head ('/' :: rest), hd, rfl, ?_⟩
  rw [outcome_exchange hr, hcome]
  rfl

theorem isNotFound_of_path (hroutes : site.routes = Greeting.routes) {date : Text}
    (hd : site.now.httpDate = .ok date)
    (hpeer : site.peer.text.all Text.isLatin1 = true)
    (hr : Http.Head.read s = .ok (head, t)) (hb : HasWholeBody head t) {n : Nat}
    (hl : Http.ContentLength.ofHeaders head.headers = .ok n) {p : Text}
    (hp : Http.Target.path head.line.target = .ok p) (hslash : p.head? ≠ some '/') :
    IsNotFound site head (exchange site s) := by
  have hv : verdict site head = .unrouted := by
    simp only [verdict, hl, hp, hroutes, Greeting.find?_routes_of_head? _ hslash]
  have hcome := outcome_answer (isTellable_greeting hroutes hd hpeer) hb
  rw [hv] at hcome
  refine ⟨date, Http.ResponseHead.closingAfter (endsAfter head) [], hd, ?_⟩
  rw [outcome_exchange hr, hcome]
  rfl

/-- A request is greeted exactly if its target has a path that starts with a slash, and the date can
be told. Else no route is for it. -/
theorem isGreeted_iff (hroutes : site.routes = Greeting.routes)
    (hpeer : site.peer.text.all Text.isLatin1 = true) {method : Text}
    (hmethod : method ≠ []) (hvisible : ∀ c ∈ method, Text.isVisible c = true) {f : TargetForm}
    (hf : f.IsWellFormed) {rest : Bytes} {failure : Option Fault}
    (hs : s = ⟨(Http.RequestLine.written method f.text ++ Http.lineEnd).map Text.toByte ++ rest,
      failure⟩)
    (hr : Http.Head.read s = .ok (head, t)) {n : Nat}
    (hn : Http.ContentLength.Announces head.headers n) (hb : n ≤ t.unread.length) :
    (IsGreeted site head (exchange site s) ↔ ¬Undated site ∧ f.isRooted = true) ∧
      (¬Undated site → f.isRooted = false → IsNotFound site head (exchange site s)) := by
  have hl := Http.ContentLength.ofHeaders_of_announces hn
  have hwhole := hasWholeBody_of_announces hn hb
  obtain ⟨p, hp, hrooted⟩ := TargetForm.exists_path_of_read hmethod hvisible hf (hs ▸ hr)
  cases hd : site.now.httpDate with
  | error fault =>
    have hundated : Undated site := ⟨fault, hd⟩
    refine ⟨iff_of_false ?_ fun h => h.1 hundated, fun h => absurd hundated h⟩
    rintro ⟨date, -, -, htold, -⟩
    rw [hd] at htold
    cases htold
  | ok date =>
    have hdated := not_undated_of_told hd
    cases hfr : f.isRooted with
    | true =>
      obtain ⟨behind, rfl⟩ := List.head?_eq_some_iff.1 (hrooted.2 hfr)
      have hgreeted := isGreeted_of_path hroutes hd hpeer hr hwhole hl hp
      exact ⟨iff_of_true hgreeted ⟨hdated, rfl⟩, fun _ h => absurd h (by decide)⟩
    | false =>
      have hslash : p.head? ≠ some '/' := fun he => by
        rw [hrooted.1 he] at hfr
        cases hfr
      have hmissing := isNotFound_of_path hroutes hd hpeer hr hwhole hl hp hslash
      exact ⟨iff_of_false (not_isGreeted_of_isNotFound hmissing) fun h => absurd h.2 (by decide),
        fun _ _ => hmissing⟩

/-- A target that is a whole address, with a port, a path and a query. -/
def pageTarget : TargetForm :=
  .absolute "a-b.c".toList (some "80".toList) "/d?e".toList

def plainBytes (method : Text) (f : TargetForm) : Bytes :=
  (Http.RequestLine.written method f.text ++ Http.lineEnd).map Text.toByte ++
    Http.lineEnd.map Text.toByte

theorem isWellFormed_pageTarget : pageTarget.IsWellFormed := by
  refine ⟨⟨by decide, List.all_eq_true.1 (by decide), ?_⟩, List.all_eq_true.1 (by decide), ?_⟩
  · rintro p hp c hc
    obtain rfl := Option.some.inj hp
    exact List.all_eq_true.1 (show "80".toList.all Char.isDigit = true by decide) c hc
  · rintro c hc
    exact Or.inl (Option.some.inj hc).symm

/-- A request for a whole address is greeted if the address has a path. -/
theorem isGreeted_page :
    ∃ head, Http.Head.read ⟨plainBytes "GET".toList pageTarget, none⟩ = .ok (head, ⟨[], none⟩) ∧
      IsGreeted Greeting.site head
        (exchange Greeting.site ⟨plainBytes "GET".toList pageTarget, none⟩) := by
  have hread : Http.Head.read ⟨plainBytes "GET".toList pageTarget, none⟩ =
      .ok (⟨⟨"GET".toList, pageTarget.text, Http.protocol, true⟩, []⟩, ⟨[], none⟩) := by rfl
  have hpeer : Greeting.site.peer.text.all Text.isLatin1 = true := by decide
  have hiff := isGreeted_iff rfl hpeer (show "GET".toList ≠ [] by decide)
    (List.all_eq_true.1 (by decide)) isWellFormed_pageTarget rfl hread (.absent rfl)
    (Nat.le_refl 0)
  exact ⟨_, hread, hiff.1.2 ⟨not_undated_of_told Instant.httpDate_zero, by decide⟩⟩

/-- The target is well formed and the request for it a whole one, but nobody is greeted. -/
def IsUngreeted (method : Text) (f : TargetForm) : Prop :=
  f.IsWellFormed ∧
    ∃ head, Http.Head.read ⟨plainBytes method f, none⟩ = .ok (head, ⟨[], none⟩) ∧
      Http.ContentLength.Announces head.headers 0 ∧
      ¬IsGreeted Greeting.site head (exchange Greeting.site ⟨plainBytes method f, none⟩)

theorem isUngreeted_of_calls {method : Text} {f : TargetForm} (hf : f.IsWellFormed)
    (hread : Http.Head.read ⟨plainBytes method f, none⟩ =
      .ok (⟨⟨method, f.text, Http.protocol, true⟩, []⟩, ⟨[], none⟩))
    (hcalls : (outcome Greeting.site
      (alone Greeting.site ⟨⟨method, f.text, Http.protocol, true⟩, []⟩ 0)).calls = []) :
    IsUngreeted method f := by
  refine ⟨hf, _, hread, .absent rfl, not_isGreeted_of_calls ?_⟩
  rw [exchange_of_body hread rfl (Nat.zero_le _)]
  exact hcalls

/-- Not every request is greeted. The server itself has no path, nor has a host with a port or an
address that ends with its host. -/
theorem not_isGreeted_pathless :
    IsUngreeted "OPTIONS".toList .asterisk ∧
      IsUngreeted "CONNECT".toList (.authority "a.b".toList "443".toList) ∧
      IsUngreeted "GET".toList (.absolute "a.b".toList none []) := by
  have hhost : ∀ c ∈ "a.b".toList, isHostChar c = true :=
    List.all_eq_true.1 (by decide)
  refine ⟨?_, ?_, ?_⟩
  · exact isUngreeted_of_calls trivial rfl (by decide +kernel)
  · refine isUngreeted_of_calls ⟨by decide, hhost, ?_⟩ rfl (by decide +kernel)
    rintro p hp c hc
    obtain rfl := Option.some.inj hp
    exact List.all_eq_true.1 (show "443".toList.all Char.isDigit = true by decide) c hc
  · exact isUngreeted_of_calls ⟨⟨by decide, hhost, by simp⟩, by simp, by simp⟩ rfl
      (by decide +kernel)

end Connection
end GreetingServer
