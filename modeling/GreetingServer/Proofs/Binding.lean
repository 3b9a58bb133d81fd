import GreetingServer.Proofs.Lifecycle

/-! The making of servers. Either a server is made and holds an address that nobody held before, or
its maker is told which address cannot be listened on and why, and all addresses and all other
servers are as they were. A fault that does not come from the operating system is the exception, such
as that of a port which no socket can have: its maker gets it without the address. -/
namespace GreetingServer
namespace Network
variable {routes : RouteTable Handler} {now : Instant} {n : Network}

/-- Both the address and the reason why it cannot be listened on can be written. -/
def CanBeTold (config : Config) (fault : Fault) (address : Text) (why : List CodePoint) : Prop :=
  config.address = .ok address ∧ fault.text = .ok why

theorem startupFault_of_canBeTold {config : Config} {fault : Fault} {address : Text}
    {why : List CodePoint} (h : CanBeTold config fault address why) :
    startupFault config fault = .ok (address, Fault.notListening address why fault) := by
  simp only [startupFault, Fault.startup, h.1, h.2, Fault.written]
  rfl

theorem startupFault_of_untold {config : Config} {fault : Fault} {address : Text}
    {e : Text.NumeralError} (ha : config.address = .ok address) (he : fault.text = .error e) :
    startupFault config fault = .error { Fault.unwritten e with context := some fault } := by
  simp only [startupFault, ha, Fault.startup, he, Fault.written]
  rfl

theorem startupFault_of_not {config : Config} {fault : Fault}
    (h : ¬∃ address why, CanBeTold config fault address why) :
    ∃ e, startupFault config fault = .error { Fault.unwritten e with context := some fault } := by
  cases ha : config.address with
  | error e => exact ⟨e, by simp only [startupFault, ha, Fault.written]⟩
  | ok address =>
    cases hw : fault.text with
    | error e => exact ⟨e, startupFault_of_untold ha hw⟩
    | ok why => exact absurd ⟨address, why, ha, hw⟩ h

theorem exists_address {config : Config} (h : IsPortNumber config.port) :
    ∃ address, config.address = .ok address := by
  obtain ⟨hleast, hmost⟩ := h
  obtain ⟨port, hport⟩ := Int.eq_ofNat_of_zero_le hleast
  have hlt : port < 100000 := by omega
  exact ⟨_, by rw [Config.address, hport, Text.ofInt_of_lt hlt]; rfl⟩

theorem get?_servers_make {name other : Text} {config : Config} {answer : Except Fault Endpoint}
    (ho : other ≠ name) :
    Ordered.get? (n.step routes now name (.make config answer)).1.servers other =
      Ordered.get? n.servers other := by
  have herased : Ordered.get? (n.forget name).servers other = Ordered.get? n.servers other :=
    Ordered.get?_erase_other ho n.servers
  cases answer with
  | ok e => exact (Ordered.get?_put_other ho _ _).trans herased
  | error f => exact herased

namespace History
variable {h : History} {name : Text} {config : Config} {answer : Except Fault Endpoint}

/-- A server has been made. It holds the address that it was given, which nobody held and which has
the port that it asked for if it asked for one, and nothing else is different. -/
structure IsMade (routes : RouteTable Handler) (now : Instant) (h : History) (name : Text)
    (config : Config) (answer : Except Fault Endpoint) : Prop where
  outcome : (h.network.step routes now name (.make config answer)).2 = { result := .made }
  bound : ∃ e, answer = .ok e ∧ (config.port ≠ 0 → (e.port.toNat : Int) = config.port) ∧
    e ∉ h.network.bound ∧
    (h.step routes now name (.make config answer)).network.bound = e :: h.network.bound ∧
    Ordered.get? (h.step routes now name (.make config answer)).network.servers name =
      some { endpoint := e } ∧
    (h.step routes now name (.make config answer)).lives.Perm
      (Life.begin e (Ordered.get? h.network.starts name) :: h.lives)
  others : ∀ other, other ≠ name →
    Ordered.get? (h.step routes now name (.make config answer)).network.servers other =
      Ordered.get? h.network.servers other

/-- No server has been made: the addresses and all other servers are as they were. -/
structure IsInVain (routes : RouteTable Handler) (now : Instant) (h : History) (name : Text)
    (config : Config) (answer : Except Fault Endpoint) : Prop where
  bound : (h.step routes now name (.make config answer)).network.bound = h.network.bound
  lives : (h.step routes now name (.make config answer)).lives.Perm h.lives
  others : ∀ other, other ≠ name →
    Ordered.get? (h.step routes now name (.make config answer)).network.servers other =
      Ordered.get? h.network.servers other

/-- No server has been made, and the maker is told the address and why it cannot be listened on, by
the fault that hindered it. -/
structure IsTold (routes : RouteTable Handler) (now : Instant) (h : History) (name : Text)
    (config : Config) (answer : Except Fault Endpoint) : Prop
    extends IsInVain routes now h name config answer where
  outcome : ∃ cause port why, answer = .error cause ∧ Text.ofInt config.port = .ok port ∧
    cause.text = .ok why ∧
    let address := config.host ++ ':' :: port
    (h.network.step routes now name (.make config answer)).2 =
      { result := .notListening address
          { kind := .startup
            text := .ok
              (CodePoint.ofText ("Failed to listen on ".toList ++ address ++ ": ".toList) ++ why)
            cause := some cause } }

/-- No server has been made, and the maker gets a fault that tells no address: the one that hindered
it, or that of writing what would be told about it. -/
structure IsUntold (routes : RouteTable Handler) (now : Instant) (h : History) (name : Text)
    (config : Config) (answer : Except Fault Endpoint) : Prop
    extends IsInVain routes now h name config answer where
  outcome : ∃ cause f, answer = .error cause ∧
    (h.network.step routes now name (.make config answer)).2 = { result := .failed f } ∧
    (f = cause ∧ cause.kind.isSystem = false ∨
      f.kind = .invalidValue ∧ f.context = some cause ∧ cause.kind.isSystem = true)

theorem isInVain_of_error (hnodup : (Ordered.keys h.known).Nodup) (f : Fault) :
    IsInVain routes now h name config (.error f) where
  bound := by
    rw [step_notMade]
    rfl
  lives := lives_step_notMade _ _ hnodup f
  others other ho := by
    rw [network_step, get?_servers_make ho]

theorem isTold_of_canBeTold (hnodup : (Ordered.keys h.known).Nodup) {f : Fault}
    (hf : f.kind.isSystem = true) {address : Text} {why : List CodePoint}
    (ht : CanBeTold config f address why) : IsTold routes now h name config (.error f) where
  toIsInVain := isInVain_of_error hnodup f
  outcome := by
    obtain ⟨port, hport, haddress⟩ : ∃ port, Text.ofInt config.port = .ok port ∧
        address = config.host ++ ':' :: port := by
      have hwritten := ht.1
      unfold Config.address at hwritten
      cases hport : Text.ofInt config.port with
      | error e =>
        rw [hport] at hwritten
        cases hwritten
      | ok port =>
        rw [hport] at hwritten
        exact ⟨port, rfl, (Except.ok.inj hwritten).symm⟩
    refine ⟨f, port, why, rfl, hport, ht.2, ?_⟩
    change ({ result := notMade config f } : Outcome) = _
    rw [notMade, if_pos hf, startupFault_of_canBeTold ht, haddress]
    rfl

/-- What is not the operating system's, or cannot be written, is not told. -/
theorem isUntold_of_not_canBeTold (hnodup : (Ordered.keys h.known).Nodup) {f : Fault}
    (ht : f.kind.isSystem = true → ¬∃ address why, CanBeTold config f address why) :
    IsUntold routes now h name config (.error f) where
  toIsInVain := isInVain_of_error hnodup f
  outcome := by
    by_cases hf : f.kind.isSystem = true
    · obtain ⟨e, he⟩ := startupFault_of_not (ht hf)
      refine ⟨f, { Fault.unwritten e with context := some f }, rfl, ?_, Or.inr ⟨rfl, rfl, hf⟩⟩
      change ({ result := notMade config f } : Outcome) = _
      rw [notMade, if_pos hf, he]
    · refine ⟨f, f, rfl, ?_, Or.inl ⟨rfl, by simpa using hf⟩⟩
      change ({ result := notMade config f } : Outcome) = _
      rw [notMade, if_neg hf]

theorem isMade_of_mayAnswer (hnodup : (Ordered.keys h.known).Nodup) {e : Endpoint}
    (ha : MayAnswer h.network config (.ok e)) : IsMade routes now h name config (.ok e) := by
  obtain ⟨hfree, -, hport⟩ := ha
  constructor
  · rfl
  · refine ⟨e, rfl, hport, hfree, ?_, ?_, lives_step_made _ _ hnodup e⟩
    · rw [step_made]
      rfl
    · rw [step_made]
      exact Ordered.get?_put_self _ _ _
  · intro other ho
    rw [network_step, get?_servers_make ho]

theorem IsUntold.not_isMade_or_isTold (hu : IsUntold routes now h name config answer) :
    ¬(IsMade routes now h name config answer ∨ IsTold routes now h name config answer) := by
  obtain ⟨_, f, -, ho, -⟩ := hu.outcome
  rintro (hmade | htold)
  · cases ho.symm.trans hmade.outcome
  · obtain ⟨_, _, _, -, -, -, ho'⟩ := htold.outcome
    cases ho.symm.trans ho'

/-- Whatever has been done with servers before, the making of a server ends with an address of its own
or with news about the address, unless the fault that hinders it is none of the operating system or
its text or the port cannot be written. Nothing is wrong where sockets can have the port, the host
is plain and the text of the fault can be written. -/
theorem isMade_or_isTold_iff (routes : RouteTable Handler) (now : Instant)
    (steps : List (Text × Step)) (name : Text) (config : Config) {answer : Except Fault Endpoint}
    (ha : MayAnswer (run routes now steps).network config answer) :
    (IsMade routes now (run routes now steps) name config answer ∨
        IsTold routes now (run routes now steps) name config answer ↔
      ∀ f, answer = .error f → f.kind.isSystem = true ∧ (∃ why, f.text = .ok why) ∧
        ∃ address, config.address = .ok address) ∧
    (¬(IsMade routes now (run routes now steps) name config answer ∨
        IsTold routes now (run routes now steps) name config answer) →
      IsUntold routes now (run routes now steps) name config answer) ∧
    (IsPortNumber config.port → IsPlainHost config.host →
      (∀ f, answer = .error f → ∃ why, f.text = .ok why) →
      IsMade routes now (run routes now steps) name config answer ∨
        IsTold routes now (run routes now steps) name config answer) := by
  have hnodup := (isTracked_run routes now steps).nodup
  cases answer with
  | ok e =>
    have hmade : IsMade routes now (run routes now steps) name config (.ok e) :=
      isMade_of_mayAnswer hnodup ha
    exact ⟨iff_of_true (Or.inl hmade) (fun _ hno => by cases hno),
      fun hno => absurd (Or.inl hmade) hno, fun _ _ _ => Or.inl hmade⟩
  | error f =>
    by_cases ht : f.kind.isSystem = true ∧ (∃ why, f.text = .ok why) ∧
        ∃ address, config.address = .ok address
    · obtain ⟨hf, ⟨why, hwhy⟩, address, haddress⟩ := ht
      have htold : IsTold routes now (run routes now steps) name config (.error f) :=
        isTold_of_canBeTold hnodup hf ⟨haddress, hwhy⟩
      refine ⟨iff_of_true (Or.inr htold) ?_, fun hno => absurd (Or.inr htold) hno,
        fun _ _ _ => Or.inr htold⟩
      rintro _ ⟨⟩
      exact ⟨hf, ⟨why, hwhy⟩, address, haddress⟩
    · have huntold : IsUntold routes now (run routes now steps) name config (.error f) :=
        isUntold_of_not_canBeTold hnodup fun hf htold =>
          let ⟨address, why, haddress, hwhy⟩ := htold
          ht ⟨hf, ⟨why, hwhy⟩, address, haddress⟩
      refine ⟨iff_of_false huntold.not_isMade_or_isTold fun hall => ht (hall f rfl),
        fun _ => huntold, fun hport hhost hwhy => ?_⟩
      -- A fault where nothing is wrong with the port and the host is told.
      cases ha with
      | refused system =>
        exact absurd ⟨system hhost hport, hwhy f rfl, exists_address hport⟩ ht

def oneServer : List (Text × Step) := [("a".toList, .make {} (.ok ⟨"0.0.0.0".toList, 5000⟩))]

/-- A second server cannot have the address of the first one, and one that wants a port for which it
lacks the privileges is told so too. -/
theorem isTold_held_or_denied :
    let held := Fault.addressInUse
    let denied := Fault.ofErrorNumber 13 "Permission denied".toList
    MayAnswer (run [] ⟨0⟩ oneServer).network {} (.error held) ∧
      ¬MayAnswer (run [] ⟨0⟩ oneServer).network {} (.ok ⟨"0.0.0.0".toList, 5000⟩) ∧
      (IsMade [] ⟨0⟩ (run [] ⟨0⟩ oneServer) "b".toList {} (.error held) ∨
        IsTold [] ⟨0⟩ (run [] ⟨0⟩ oneServer) "b".toList {} (.error held)) ∧
      MayAnswer (run [] ⟨0⟩ oneServer).network { port := 80 } (.error denied) ∧
      (IsMade [] ⟨0⟩ (run [] ⟨0⟩ oneServer) "c".toList { port := 80 } (.error denied) ∨
        IsTold [] ⟨0⟩ (run [] ⟨0⟩ oneServer) "c".toList { port := 80 } (.error denied)) := by
  have hplain : IsPlainHost ({} : Config).host := by
    have hall : ({} : Config).host.all (fun c => c ≠ '\x00' ∧ c.toNat < 128) = true := by decide
    exact fun c hc => of_decide_eq_true (List.all_eq_true.1 hall c hc)
  have hheld : MayAnswer (run [] ⟨0⟩ oneServer).network {} (.error Fault.addressInUse) :=
    .refused fun _ _ => Fault.isSystem_ofErrorNumber _ _
  have hdenied : MayAnswer (run [] ⟨0⟩ oneServer).network { port := 80 }
      (.error (Fault.ofErrorNumber 13 "Permission denied".toList)) :=
    .refused fun _ _ => Fault.isSystem_ofErrorNumber _ _
  refine ⟨hheld, ?_, ?_, hdenied, ?_⟩
  · rintro ⟨hfree, -, -⟩
    exact hfree (by decide)
  · refine (isMade_or_isTold_iff [] ⟨0⟩ oneServer "b".toList {} hheld).2.2
      ⟨by decide, by decide⟩ hplain ?_
    rintro _ ⟨⟩
    exact ⟨_, rfl⟩
  · refine (isMade_or_isTold_iff [] ⟨0⟩ oneServer "c".toList { port := 80 } hdenied).2.2
      ⟨by decide, by decide⟩ hplain ?_
    rintro _ ⟨⟩
    exact ⟨_, rfl⟩

/-- Nobody can have a port beyond those that sockets can have, and the maker of a server who wants
one is not told about the address. -/
theorem not_isTold_beyond :
    let config : Config := ⟨"127.0.0.1".toList, 70000⟩
    (∀ e, ¬MayAnswer (run [] ⟨0⟩ []).network config (.ok e)) ∧
      MayAnswer (run [] ⟨0⟩ []).network config (.error noSuchPort) ∧
      ¬(IsMade [] ⟨0⟩ (run [] ⟨0⟩ []) "s".toList config (.error noSuchPort) ∨
        IsTold [] ⟨0⟩ (run [] ⟨0⟩ []) "s".toList config (.error noSuchPort)) := by
  refine ⟨?_, .refused fun _ hport => absurd hport.2 (by decide), ?_⟩
  · rintro e ⟨-, -, hport⟩
    have hlt := e.port.toNat_lt
    have h := hport (by decide)
    change (e.port.toNat : Int) = 70000 at h
    omega
  · have hnodup := (isTracked_run [] ⟨0⟩ []).nodup
    exact (isUntold_of_not_canBeTold hnodup fun hf => by cases hf).not_isMade_or_isTold

end History
end Network
end GreetingServer
