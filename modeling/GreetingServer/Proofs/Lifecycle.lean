import GreetingServer.Proofs.OrderedMap
import GreetingServer.Proofs.Phase

/-! The lives of servers. Whatever is done with several servers, in whatever order, each of them goes
through the phases of listening, serving and closed as if it were alone; its flag, its event and its
socket never disagree about the phase. An address is held exactly as long as a server that is not
closed listens on it, and news of a start is followed by news of its end before the next start. -/
namespace GreetingServer
namespace Network
variable {routes : RouteTable Handler} {now : Instant} {made : Server}

/-- What has been done with servers: the network by now, the lives of the servers with names, and
the lives of those whose names have gone to others. -/
structure History where
  network : Network := {}
  known : Ordered Text Life := []
  forgotten : List Life := []

namespace History

def born? (n : Network) (name : Text) : Result → Option Life
  | .made =>
    (Ordered.get? n.servers name).map fun server =>
      { made := server, inherited := Ordered.get? n.starts name }
  | _ => none

/-- A step. The making of a server begins a life and forgets the server that had the name; every
other step becomes part of the life of the server that has the name. -/
def step (routes : RouteTable Handler) (now : Instant) (h : History) (name : Text) (st : Step) :
    History :=
  let (n, o) := h.network.step routes now name st
  match st with
  | .make _ _ =>
    let others := Ordered.erase name h.known
    { network := n
      known := match born? n name o.result with
        | some life => Ordered.put name life others
        | none => others
      forgotten := (Ordered.get? h.known name).toList ++ h.forgotten }
  | st =>
    { h with
      network := n
      known := match Ordered.get? h.known name with
        | some life => Ordered.put name (life.add st o) h.known
        | none => h.known }

def run (routes : RouteTable Handler) (now : Instant) (steps : List (Text × Step)) : History :=
  steps.foldl (fun h entry => h.step routes now entry.1 entry.2) {}

def lives (h : History) : List Life := h.known.map (·.2) ++ h.forgotten

end History

/-! A step with a server that is there. -/

/-- What a step with a server in a phase leads to: what may come of it, the server in the next phase
and every other server as it was, and its address free if it has been closed. -/
structure Follows (routes : RouteTable Handler) (now : Instant) (made : Server) (phase : Phase)
    (n : Network) (name : Text) (st : Step) (change : Change) : Prop where
  answers : phase.Answers routes now made (Ordered.get? n.starts name) st change.2
  servers : change.1.servers = Ordered.put name ((phase.next st).server made) n.servers
  starts : Ordered.get? change.1.starts name = phase.heard st (Ordered.get? n.starts name)
  otherStarts : ∀ other, other ≠ name →
    Ordered.get? change.1.starts other = Ordered.get? n.starts other
  bound : change.1.bound =
    if phase ≠ .closed ∧ phase.next st = .closed then n.bound.erase made.endpoint else n.bound

section
variable {phase : Phase} {n : Network} {name : Text} {st : Step}

theorem follows_same (hn : Ordered.get? n.servers name = some (phase.server made))
    (hnext : phase.next st = phase) (hheard : ∀ known, phase.heard st known = known) {o : Outcome}
    (ho : phase.Answers routes now made (Ordered.get? n.starts name) st o) :
    Follows routes now made phase n name st (n, o) where
  answers := ho
  servers := by rw [hnext, Ordered.put_of_get? hn]
  starts := (hheard _).symm
  otherStarts _ _ := rfl
  bound := by
    rw [hnext, if_neg]
    exact fun h => h.1 h.2

theorem follows_start :
    Follows routes now made phase n name .start (n.start name (phase.server made)) := by
  have hput : ∀ known other, other ≠ name →
      Ordered.get? (Ordered.put name known n.starts) other = Ordered.get? n.starts other :=
    fun known other ho => Ordered.get?_put_other ho _ _
  cases phase with
  | listening => exact ⟨rfl, rfl, Ordered.get?_put_self _ _ _, hput _, rfl⟩
  | serving => exact ⟨rfl, rfl, rfl, fun _ _ => rfl, rfl⟩
  | closed => exact ⟨rfl, rfl, Ordered.get?_put_self _ _ _, hput _, rfl⟩

theorem get?_starts_dropStart {other : Text} (ho : other ≠ name) :
    Ordered.get? (n.dropStart name).starts other = Ordered.get? n.starts other :=
  Ordered.get?_erase_other ho n.starts

theorem get?_starts_dropStart_self : Ordered.get? (n.dropStart name).starts name = none :=
  Ordered.get?_erase_self name n.starts

theorem follows_stop (hknown : phase = .serving → Ordered.get? n.starts name = some .goesOn) :
    Follows routes now made phase n name .stop (n.stop name (phase.server made)) := by
  cases phase with
  | listening =>
    exact ⟨rfl, rfl, get?_starts_dropStart_self, fun _ => get?_starts_dropStart, rfl⟩
  | serving =>
    have hresult : endOf (Ordered.get? n.starts name) = .ended none := by
      rw [hknown rfl]
      rfl
    refine ⟨?_, rfl, get?_starts_dropStart_self, fun _ => get?_starts_dropStart, rfl⟩
    simp only [stop, hresult]
    rfl
  | closed => exact ⟨rfl, rfl, get?_starts_dropStart_self, fun _ => get?_starts_dropStart, rfl⟩

theorem follows_stepWith (hn : Ordered.get? n.servers name = some (phase.server made))
    (hknown : phase = .serving → Ordered.get? n.starts name = some .goesOn)
    (hst : ∀ config answer, st ≠ .make config answer) :
    Follows routes now made phase n name st
      (stepWith routes now n name (phase.server made) st) := by
  cases st with
  | make config answer => exact absurd rfl (hst config answer)
  | info => cases phase <;> exact follows_same hn rfl (fun _ => rfl) rfl
  | isStarted => cases phase <;> exact follows_same hn rfl (fun _ => rfl) rfl
  | start => exact follows_start
  | stop => exact follows_stop hknown
  | connect peer source sink => cases phase <;> exact follows_same hn rfl (fun _ => rfl) rfl
  | refuse => cases phase <;> exact follows_same hn rfl (fun _ => rfl) rfl
  | breakDown fault =>
    cases phase with
    | listening => exact follows_same hn rfl (fun _ => rfl) rfl
    | serving =>
      exact ⟨rfl, rfl, get?_starts_dropStart_self, fun _ => get?_starts_dropStart, rfl⟩
    | closed => exact follows_same hn rfl (fun _ => rfl) rfl

theorem step_of_get? {s : Server} (hn : Ordered.get? n.servers name = some s)
    (hst : ∀ config answer, st ≠ .make config answer) :
    n.step routes now name st = stepWith routes now n name s st := by
  cases st with
  | make config answer => exact absurd rfl (hst config answer)
  | _ => simp only [step, hn]

theorem step_of_get?_none (hn : Ordered.get? n.servers name = none)
    (hst : ∀ config answer, st ≠ .make config answer) :
    n.step routes now name st = (n, { result := .noServer }) := by
  cases st with
  | make config answer => exact absurd rfl (hst config answer)
  | _ => simp only [step, hn]

end

theorem bound_start (n : Network) (name : Text) (s : Server) :
    (n.start name s).1.bound = n.bound := by
  unfold start
  rcases s.start with ⟨server, _ | f, logs⟩
  · rfl
  · cases s.isRunning <;> rfl

theorem bound_stepWith_sublist {n : Network} {name : Text} {s : Server} {st : Step}
    (hst : ∀ config answer, st ≠ .make config answer) :
    (stepWith routes now n name s st).1.bound.Sublist n.bound := by
  cases st with
  | make config answer => exact absurd rfl (hst config answer)
  | start => exact (bound_start n name s) ▸ List.Sublist.refl _
  | stop =>
    simp only [stepWith, stop]
    cases s.isOpen
    · exact List.Sublist.refl _
    · exact List.erase_sublist
  | info | isStarted => exact List.Sublist.refl _
  | connect peer source sink =>
    simp only [stepWith, whileServing]
    split <;> exact List.Sublist.refl _
  | refuse =>
    simp only [stepWith, whileServing]
    split <;> exact List.Sublist.refl _
  | breakDown fault =>
    simp only [stepWith, whileServing]
    split <;> exact List.Sublist.refl _

theorem notMade_ne_made (config : Config) (f : Fault) : notMade config f ≠ .made := by
  unfold notMade
  split
  · split <;> simp
  · simp

namespace History
variable {h : History} {name : Text} {config : Config}

/-- The lives of all servers, with those that have names in the order of their names. -/
theorem lives_perm (hnodup : (Ordered.keys h.known).Nodup) {life : Life}
    (hl : Ordered.get? h.known name = some life) :
    h.lives.Perm (life :: ((Ordered.erase name h.known).map (·.2) ++ h.forgotten)) :=
  ((Ordered.perm_of_get? hnodup hl).map Prod.snd).append_right h.forgotten

theorem lives_forget (hnodup : (Ordered.keys h.known).Nodup) (name : Text) :
    h.lives.Perm
      ((Ordered.erase name h.known).map (·.2) ++
        ((Ordered.get? h.known name).toList ++ h.forgotten)) := by
  cases hl : Ordered.get? h.known name with
  | none =>
    have hkey : name ∉ Ordered.keys h.known := by
      rw [← Ordered.get?_isSome_iff, hl]
      exact Bool.false_ne_true
    rw [Ordered.erase_of_notMem hkey]
    exact List.Perm.refl _
  | some life => exact (lives_perm hnodup hl).trans List.perm_middle.symm

def heldBy (lives : List Life) : List Endpoint :=
  (lives.filter Life.isOpen).map (·.made.endpoint)

theorem heldBy_perm {lives others : List Life} (h : lives.Perm others) :
    (heldBy lives).Perm (heldBy others) :=
  (h.filter _).map _

/-- The network is as the lives of its servers tell. -/
structure IsTracked (routes : RouteTable Handler) (now : Instant) (h : History) : Prop where
  servers : h.network.servers = Ordered.mapValues Life.server h.known
  nodup : (Ordered.keys h.known).Nodup
  starts : ∀ name life, Ordered.get? h.known name = some life →
    Ordered.get? h.network.starts name = life.lastStart
  lives : ∀ life ∈ h.lives, life.IsAccepted routes now
  bound : (heldBy h.lives).Perm h.network.bound

theorem IsTracked.get?_servers (ht : h.IsTracked routes now) (name : Text) :
    Ordered.get? h.network.servers name = (Ordered.get? h.known name).map Life.server := by
  rw [ht.servers, Ordered.get?_mapValues]

theorem step_made (routes : RouteTable Handler) (now : Instant) (e : Endpoint) :
    h.step routes now name (.make config (.ok e)) =
      let life := Life.begin e (Ordered.get? h.network.starts name)
      { network := (h.network.make name config (.ok e)).1
        known := Ordered.put name life (Ordered.erase name h.known)
        forgotten := (Ordered.get? h.known name).toList ++ h.forgotten } := by
  simp only [step, Network.step, make, born?, Network.set, Ordered.get?_put_self, Option.map_some]
  rfl

theorem step_notMade (routes : RouteTable Handler) (now : Instant) (f : Fault) :
    h.step routes now name (.make config (.error f)) =
      { network := h.network.forget name
        known := Ordered.erase name h.known
        forgotten := (Ordered.get? h.known name).toList ++ h.forgotten } := by
  have hborn : born? (h.network.forget name) name (notMade config f) = none := by
    unfold born?
    split
    · rename_i hmade
      exact absurd hmade (notMade_ne_made config f)
    · rfl
  simp only [step, Network.step, make, hborn]

theorem lives_step_made (routes : RouteTable Handler) (now : Instant)
    (hnodup : (Ordered.keys h.known).Nodup) (e : Endpoint) :
    (h.step routes now name (.make config (.ok e))).lives.Perm
      (Life.begin e (Ordered.get? h.network.starts name) :: h.lives) := by
  have herased := Ordered.nodup_keys_erase hnodup name
  have hgone : name ∉ Ordered.keys (Ordered.erase name h.known) := by
    rw [← Ordered.get?_isSome_iff, Ordered.get?_erase_self]
    exact Bool.false_ne_true
  rw [step_made]
  refine (((Ordered.put_perm herased name _).map Prod.snd).append_right _).trans ?_
  rw [Ordered.erase_of_notMem hgone]
  exact ((lives_forget hnodup name).symm).cons _

theorem lives_step_notMade (routes : RouteTable Handler) (now : Instant)
    (hnodup : (Ordered.keys h.known).Nodup) (f : Fault) :
    (h.step routes now name (.make config (.error f))).lives.Perm h.lives := by
  rw [step_notMade]
  exact (lives_forget hnodup name).symm

/-- A server that is made begins its life, and holds its address. -/
theorem isTracked_step_made (ht : h.IsTracked routes now) (e : Endpoint) :
    (h.step routes now name (.make config (.ok e))).IsTracked routes now := by
  let life := Life.begin e (Ordered.get? h.network.starts name)
  have hlives : (h.step routes now name (.make config (.ok e))).lives.Perm (life :: h.lives) :=
    lives_step_made routes now ht.nodup e
  have hstep : h.step routes now name (.make config (.ok e)) = _ := step_made routes now e
  constructor
  · rw [hstep]
    change Ordered.put name (Life.server life) (Ordered.erase name h.network.servers) = _
    rw [ht.servers, Ordered.erase_mapValues, Ordered.put_mapValues]
  · rw [hstep]
    exact Ordered.nodup_keys_put (Ordered.nodup_keys_erase ht.nodup name) name life
  · intro other found hfound
    rw [hstep] at hfound ⊢
    change Ordered.get? (Ordered.put name life (Ordered.erase name h.known)) other = _ at hfound
    change Ordered.get? h.network.starts other = _
    by_cases ho : other = name
    · rw [ho, Ordered.get?_put_self] at hfound
      obtain rfl := Option.some.inj hfound
      rw [ho]
      rfl
    · rw [Ordered.get?_put_other ho, Ordered.get?_erase_other ho] at hfound
      exact ht.starts other found hfound
  · intro other hother
    rcases List.mem_cons.1 (hlives.mem_iff.1 hother) with rfl | hother
    · trivial
    · exact ht.lives other hother
  · refine (heldBy_perm hlives).trans ?_
    rw [hstep]
    exact ht.bound.cons e

theorem isTracked_step_notMade (ht : h.IsTracked routes now) (f : Fault) :
    (h.step routes now name (.make config (.error f))).IsTracked routes now := by
  have hlives : (h.step routes now name (.make config (.error f))).lives.Perm h.lives :=
    lives_step_notMade routes now ht.nodup f
  have hstep : h.step routes now name (.make config (.error f)) = _ := step_notMade routes now f
  constructor
  · rw [hstep, ← Ordered.erase_mapValues, ← ht.servers]
    rfl
  · rw [hstep]
    exact Ordered.nodup_keys_erase ht.nodup name
  · intro other found hfound
    rw [hstep] at hfound ⊢
    change Ordered.get? (Ordered.erase name h.known) other = _ at hfound
    by_cases ho : other = name
    · rw [ho, Ordered.get?_erase_self] at hfound
      cases hfound
    · rw [Ordered.get?_erase_other ho] at hfound
      exact ht.starts other found hfound
  · exact fun life hlife => ht.lives life (hlives.mem_iff.1 hlife)
  · refine (heldBy_perm hlives).trans ?_
    rw [hstep]
    exact ht.bound

/-- A server that closes gives up its address, and any other step leaves the addresses as they are.
-/
theorem heldBy_add {life : Life} {rest : List Life} {bound : List Endpoint}
    (hp : (heldBy (life :: rest)).Perm bound) (st : Step) (o : Outcome) :
    (heldBy (life.add st o :: rest)).Perm
      (if life.phase ≠ .closed ∧ life.phase.next st = .closed then bound.erase life.made.endpoint
        else bound) := by
  have hcons : ∀ other : Life, heldBy (other :: rest) =
      if other.phase = .closed then heldBy rest else other.made.endpoint :: heldBy rest := by
    intro other
    by_cases hphase : other.phase = .closed <;> simp [heldBy, Life.isOpen, hphase]
  rw [hcons] at hp ⊢
  rw [Life.phase_add]
  by_cases hold : life.phase = .closed
  · have hnext : life.phase.next st = .closed := by
      rw [hold]
      cases st <;> rfl
    rw [if_pos hold] at hp
    rw [if_pos hnext, if_neg (fun hboth => hboth.1 hold)]
    exact hp
  · rw [if_neg hold] at hp
    by_cases hnext : life.phase.next st = .closed
    · rw [if_pos hnext, if_pos ⟨hold, hnext⟩]
      have herase := hp.erase life.made.endpoint
      rwa [List.erase_cons_head] at herase
    · rw [if_neg hnext, if_neg (fun hboth => hnext hboth.2)]
      exact hp

theorem isTracked_step_known (ht : h.IsTracked routes now) {life : Life}
    (hl : Ordered.get? h.known name = some life) {st : Step}
    (hst : ∀ config answer, st ≠ .make config answer) :
    (h.step routes now name st).IsTracked routes now := by
  have hn : Ordered.get? h.network.servers name = some (life.phase.server life.made) := by
    rw [ht.get?_servers, hl]
    rfl
  have hfollows : Follows routes now life.made life.phase h.network name st
      (h.network.step routes now name st) := by
    rw [step_of_get? hn hst]
    refine follows_stepWith hn (fun hserving => ?_) hst
    rw [ht.starts name life hl]
    exact Phase.heardAfter_of_serving life.inherited hserving
  rcases hchange : h.network.step routes now name st with ⟨n, o⟩
  rw [hchange] at hfollows
  have hstep : h.step routes now name st =
      { h with network := n, known := Ordered.put name (life.add st o) h.known } := by
    cases st with
    | make config answer => exact absurd rfl (hst config answer)
    | _ => simp only [step, hchange, hl]
  have hlives : (h.step routes now name st).lives.Perm (life.add st o ::
      ((Ordered.erase name h.known).map (·.2) ++ h.forgotten)) := by
    rw [hstep]
    exact ((Ordered.put_perm ht.nodup name _).map Prod.snd).append_right _
  have hbefore := lives_perm ht.nodup hl
  constructor
  · rw [hstep]
    change n.servers = _
    have hserver : (life.phase.next st).server life.made = (life.add st o).server := by
      rw [Life.server, Life.phase_add]
      rfl
    rw [hfollows.servers, ht.servers, hserver, Ordered.put_mapValues]
  · rw [hstep]
    exact Ordered.nodup_keys_put ht.nodup name _
  · intro other found hfound
    rw [hstep] at hfound ⊢
    change Ordered.get? (Ordered.put name (life.add st o) h.known) other = _ at hfound
    change Ordered.get? n.starts other = _
    by_cases ho : other = name
    · rw [ho, Ordered.get?_put_self] at hfound
      obtain rfl := Option.some.inj hfound
      rw [ho, hfollows.starts, ht.starts name life hl, Life.lastStart_add]
    · rw [Ordered.get?_put_other ho] at hfound
      rw [hfollows.otherStarts other ho]
      exact ht.starts other found hfound
  · intro other hother
    rcases List.mem_cons.1 (hlives.mem_iff.1 hother) with rfl | hother
    · have hold := ht.lives life (hbefore.mem_iff.2 List.mem_cons_self)
      have hanswers := hfollows.answers
      rw [ht.starts name life hl] at hanswers
      exact Phase.accepts_concat.2 ⟨hold, hanswers⟩
    · exact ht.lives other (hbefore.mem_iff.2 (List.mem_cons_of_mem _ hother))
  · refine (heldBy_perm hlives).trans ?_
    rw [hstep]
    change (heldBy _).Perm n.bound
    rw [hfollows.bound]
    exact heldBy_add ((heldBy_perm hbefore).symm.trans ht.bound) st o

theorem step_unknown (ht : h.IsTracked routes now) (hl : Ordered.get? h.known name = none)
    {st : Step} (hst : ∀ config answer, st ≠ .make config answer) :
    h.step routes now name st = h := by
  have hn : Ordered.get? h.network.servers name = none := by
    rw [ht.get?_servers, hl]
    rfl
  cases st with
  | make config answer => exact absurd rfl (hst config answer)
  | _ => simp only [step, step_of_get?_none hn hst, hl]

theorem isTracked_step (ht : h.IsTracked routes now) (name : Text) (st : Step) :
    (h.step routes now name st).IsTracked routes now := by
  cases st with
  | make config answer =>
    cases answer with
    | ok e => exact isTracked_step_made ht e
    | error f => exact isTracked_step_notMade ht f
  | _ =>
    cases hl : Ordered.get? h.known name with
    | some life => exact isTracked_step_known ht hl (by simp)
    | none =>
      rw [step_unknown ht hl (by simp)]
      exact ht

theorem isTracked_run (routes : RouteTable Handler) (now : Instant)
    (steps : List (Text × Step)) : (run routes now steps).IsTracked routes now := by
  induction steps using List.reverseRecOn with
  | nil =>
    have hnone : ∀ life ∈ ({} : History).lives, life.IsAccepted routes now := by
      intro life hlife
      cases hlife
    have hstarts : ∀ name life, Ordered.get? ({} : History).known name = some life →
        Ordered.get? ({} : History).network.starts name = life.lastStart := by
      intro name life hlife
      cases hlife
    exact ⟨rfl, List.nodup_nil, hstarts, hnone, List.Perm.refl _⟩
  | append_singleton steps entry ih =>
    rw [run, List.foldl_append]
    exact isTracked_step ih entry.1 entry.2

theorem network_step (h : History) (name : Text) (st : Step) :
    (h.step routes now name st).network = (h.network.step routes now name st).1 := by
  cases st <;> rfl

theorem network_run (routes : RouteTable Handler) (now : Instant) (steps : List (Text × Step)) :
    (run routes now steps).network =
      steps.foldl (fun n entry => (n.step routes now entry.1 entry.2).1) {} := by
  induction steps using List.reverseRecOn with
  | nil => rfl
  | append_singleton steps entry ih =>
    rw [List.foldl_append, List.foldl_cons, List.foldl_nil, ← ih, run, List.foldl_append,
      List.foldl_cons, List.foldl_nil, network_step]
    rfl

/-- Addresses are given away once before they are free again. -/
theorem nodup_bound_step {n : Network} (hn : n.bound.Nodup) {st : Step} (hst : n.MayTake st)
    (routes : RouteTable Handler) (now : Instant) (name : Text) :
    (n.step routes now name st).1.bound.Nodup := by
  cases st with
  | make config answer =>
    cases hst with
    | given free exists_port port => exact List.nodup_cons.2 ⟨free, hn⟩
    | refused system => exact hn
  | _ =>
    cases hs : Ordered.get? n.servers name with
    | none =>
      rw [step_of_get?_none hs (by simp)]
      exact hn
    | some s =>
      rw [step_of_get? hs (by simp)]
      exact (bound_stepWith_sublist (by simp)).nodup hn

theorem nodup_bound_foldl (routes : RouteTable Handler) (now : Instant) {n : Network}
    {steps : List (Text × Step)} (hn : n.bound.Nodup) (hs : MayTakeAll routes now n steps) :
    (steps.foldl (fun n entry => (n.step routes now entry.1 entry.2).1) n).bound.Nodup := by
  induction steps generalizing n with
  | nil => exact hn
  | cons entry steps ih => exact ih (nodup_bound_step hn hs.1 routes now entry.1) hs.2

/-- Each server has lived in its three phases, and the network is as their lives tell. -/
structure IsLawful (routes : RouteTable Handler) (now : Instant) (h : History) : Prop where
  /-- A server is made next exactly if it is given an address, and then it listens there. -/
  made : ∀ name config answer,
    ((h.network.step routes now name (.make config answer)).2.result = .made ↔
      ∃ e, answer = .ok e) ∧
    ∀ e, answer = .ok e →
      ∃ life, Ordered.get? (h.step routes now name (.make config answer)).known name = some life ∧
        life.made.endpoint = e ∧ life.phase = .listening ∧
        life.inherited = Ordered.get? h.network.starts name
  /-- All that has come of a step may come of it in the phase in which the server was. -/
  answers : ∀ life ∈ h.lives,
    Phase.listening.Accepts routes now life.made life.inherited life.trace
  final : ∀ life ∈ h.lives, ∀ before behind, life.trace = before ++ behind →
    Phase.listening.after before = .closed → life.phase = .closed
  /-- The flag, the event and the socket of the server of a name are as its phase demands. -/
  servers : ∀ name,
    Ordered.get? h.network.servers name = (Ordered.get? h.known name).map Life.server
  /-- To wait for a server succeeds exactly while it serves. -/
  started : ∀ name, h.network.isStarted? name =
    (Ordered.get? h.known name).map fun life => decide (life.phase = .serving)
  /-- The addresses that are held are those of the servers that are not closed. -/
  bound : h.network.bound.Perm
    ((h.lives.filter fun life => life.phase ≠ .closed).map fun life => life.made.endpoint)
  ports : h.network.boundPorts.Perm
    ((h.lives.filter fun life => life.phase ≠ .closed).map fun life =>
      life.made.endpoint.port.toNat)
  /-- News of each start is followed by its one news of the end, before that of the next start; only
  a server that serves has still to tell of its end. -/
  news : ∀ life ∈ h.lives, ∃ n, life.news =
    (List.replicate n [life.made.startedEntry, life.made.stoppedEntry]).flatten ++
      if life.phase = .serving then [life.made.startedEntry] else []

theorem result_make_iff (n : Network) (name : Text) (config : Config)
    (answer : Except Fault Endpoint) :
    (n.step routes now name (.make config answer)).2.result = .made ↔ ∃ e, answer = .ok e := by
  cases answer with
  | ok e => exact iff_of_true rfl ⟨e, rfl⟩
  | error f => exact iff_of_false (notMade_ne_made config f) (fun ⟨_, h⟩ => by cases h)

/-- Whatever is done with however many servers, each of them behaves as a machine of three phases. No
two of them share an address if none is given that is held. -/
theorem isLawful_run (routes : RouteTable Handler) (now : Instant) (steps : List (Text × Step)) :
    (run routes now steps).network =
        steps.foldl (fun n entry => (n.step routes now entry.1 entry.2).1) {} ∧
      (run routes now steps).IsLawful routes now ∧
      (MayTakeAll routes now {} steps → (run routes now steps).network.bound.Nodup) := by
  have ht := isTracked_run routes now steps
  refine ⟨network_run routes now steps, ?_, fun hs => ?_⟩
  · constructor
    · intro name config answer
      refine ⟨result_make_iff _ name config answer, ?_⟩
      rintro e rfl
      refine ⟨Life.begin e (Ordered.get? (run routes now steps).network.starts name), ?_, rfl, rfl,
        rfl⟩
      rw [step_made]
      exact Ordered.get?_put_self _ _ _
    · exact ht.lives
    · intro life _ before behind htrace hclosed
      rw [Life.phase, htrace, Phase.after_append, hclosed, Phase.after_closed]
    · exact ht.get?_servers
    · intro name
      rw [isStarted?, ht.get?_servers, Option.map_map]
      congr 1
      funext life
      change (life.phase.server life.made).isStarted = _
      cases life.phase <;> rfl
    · exact ht.bound.symm
    · refine (List.mergeSort_perm _ _).trans ?_
      have hports := ht.bound.symm.map fun e => e.port.toNat
      rwa [heldBy, List.map_map] at hports
    · exact fun life hlife => life.exists_news (ht.lives life hlife)
  · rw [network_run]
    exact nodup_bound_foldl routes now List.nodup_nil hs

/-- A server is started twice, is stopped while it serves, and is started in vain after that. -/
example :
    ((run [] ⟨0⟩ [("a".toList, .make {} (.ok ⟨"0.0.0.0".toList, 5000⟩)), ("a".toList, .start),
        ("a".toList, .breakDown Fault.selectorFailed), ("a".toList, .start), ("a".toList, .stop),
        ("a".toList, .start)]).lives.map fun life => (life.phase, life.news.length)) =
      [(.closed, 6)] := by
  decide

end History
end Network
end GreetingServer
