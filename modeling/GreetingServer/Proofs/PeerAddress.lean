import GreetingServer.Proofs.Composition
import GreetingServer.Proofs.HeadReader

/-! Peer addresses as they are read. The numeral of a port has no colon, so the last colon of an
address stands before its port, and what comes before that colon has one of its own exactly if it is
a host in brackets. So a host and a port are read back from their address, and no others have the
same one. -/
namespace GreetingServer
namespace RemoteAddress
open CodePoint (ofText)

def cutAtLastColon (ps : List CodePoint) : List CodePoint × List CodePoint :=
  (((ps.reverse.dropWhile (· != colon)).drop 1).reverse,
    (ps.reverse.takeWhile (· != colon)).reverse)

/-- The host that stands before the last colon. It is in brackets if there are other colons. -/
def hostOf (front : List CodePoint) : List CodePoint :=
  if front.contains colon then (front.drop 1).dropLast else front

/-- The host and the port that an address tells. -/
def read (ps : List CodePoint) : List CodePoint × Int :=
  (hostOf (cutAtLastColon ps).1, Text.toInt (CodePoint.replaced (cutAtLastColon ps).2))

def written (host : List CodePoint) : List CodePoint :=
  if host.contains colon then .char '[' :: host ++ [.char ']'] else host

theorem hostAndPort_eq (host port : List CodePoint) :
    hostAndPort host port = written host ++ colon :: port := by
  unfold hostAndPort written
  split <;> simp

theorem cutAtLastColon_append {back : List CodePoint} (h : colon ∉ back) (front : List CodePoint) :
    cutAtLastColon (front ++ colon :: back) = (front, back) := by
  have hback : ∀ p ∈ back.reverse, (p != colon) = true := by
    intro p hp
    rw [bne_iff_ne]
    rintro rfl
    exact h (List.mem_reverse.1 hp)
  have hreverse : (front ++ colon :: back).reverse = back.reverse ++ colon :: front.reverse := by
    simp
  rw [cutAtLastColon, hreverse, List.takeWhile_append_of_pos hback,
    List.dropWhile_append_of_pos hback]
  simp

theorem hostOf_written (host : List CodePoint) : hostOf (written host) = host := by
  by_cases h : host.contains colon = true
  · have hfront : (CodePoint.char '[' :: host ++ [CodePoint.char ']']).contains colon = true := by
      simp_all
    rw [written, if_pos h, hostOf, if_pos hfront]
    simp
  · rw [written, if_neg h, hostOf, if_neg h]

theorem colon_notMem_numeral (n : Int) : colon ∉ ofText (Text.numeral n) := by
  intro h
  obtain ⟨c, hc, he⟩ := List.mem_map.1 h
  obtain rfl : c = ':' := CodePoint.char.inj he
  rcases Text.eq_or_isDigit_of_mem_numeral hc with hc | hc
  · exact absurd hc (by decide)
  · exact absurd hc (by decide)

theorem read_hostAndPort (host : List CodePoint) (port : Int) :
    read (hostAndPort host (ofText (Text.numeral port))) = (host, port) := by
  rw [read, hostAndPort_eq, cutAtLastColon_append (colon_notMem_numeral port), hostOf_written,
    CodePoint.replaced_ofText, Text.toInt_numeral]

/-- An address has a text exactly if the digits of its port are not too many to be written. -/
theorem points_eq_ok_iff {host : List CodePoint} {port : Int} {rest : List Value}
    {ps : List CodePoint} :
    points (.tuple (.ofPoints host :: .int port :: rest)) = .ok ps ↔
      port.natAbs < Text.firstUnwritten ∧ ps = hostAndPort host (ofText (Text.numeral port)) := by
  rw [points_tuple, ← Text.exists_ofInt_iff]
  cases ht : Text.ofInt port with
  | error e => simp [Except.map]
  | ok t => simp [Except.map, Text.eq_numeral_of_ofInt ht, eq_comm]

theorem read_points {host : List CodePoint} {port : Int} {rest : List Value} {ps : List CodePoint}
    (h : points (.tuple (.ofPoints host :: .int port :: rest)) = .ok ps) : read ps = (host, port) := by
  rw [(points_eq_ok_iff.1 h).2, read_hostAndPort]

theorem exists_hostAndPort_eq (host port : Text) :
    ∃ t, hostAndPort (ofText host) (ofText port) = ofText t := by
  unfold hostAndPort
  split
  · exact ⟨'[' :: host ++ ']' :: ':' :: port, by simp [ofText, colon]⟩
  · exact ⟨host ++ ':' :: port, by simp [ofText, colon]⟩

theorem ofText_text {p : Peer} {host : Text} {port : Int} {rest : List Value}
    (h : p.address = .tuple (.text host :: .int port :: rest)) : ofText p.text = p.points := by
  have htold := p.told
  rw [h, ← Value.ofPoints_ofText, points_eq_ok_iff] at htold
  obtain ⟨t, ht⟩ := exists_hostAndPort_eq host (Text.numeral port)
  rw [Peer.text, htold.2, ht, CodePoint.replaced_ofText]

theorem headerValues_greeting (site : Site) (head : Http.Head) (path : Text) :
    (Greeting.response (Connection.requestOf site head path)).headerValues Greeting.header =
      [site.peer.text] := by
  simp [Greeting.response, Connection.requestOf, Http.Response.headerValues, Http.Headers.values,
    Http.Headers.sameName]

/-- Peer addresses are unambiguous. Two hosts and ports share an address exactly if they are the
same and the port has not too many digits, whatever else the peers are told by. The host and the
port are read back from the address, and from the header by which a greeted peer is told it. -/
theorem points_eq_iff (host host' : List CodePoint) (port port' : Int) (rest rest' : List Value) :
    ((∃ ps, points (.tuple (.ofPoints host :: .int port :: rest)) = .ok ps ∧
        points (.tuple (.ofPoints host' :: .int port' :: rest')) = .ok ps) ↔
      (host = host' ∧ port = port') ∧ port.natAbs < Text.firstUnwritten) ∧
      (∀ ps, points (.tuple (.ofPoints host :: .int port :: rest)) = .ok ps →
        read ps = (host, port)) ∧
      ∀ (t : Text) (site : Site) (head : Http.Head) (path : Text),
        site.peer.address = .tuple (.text t :: .int port :: rest) →
        let response := Greeting.response (Connection.requestOf site head path)
        (response.headerValues Greeting.header).map (fun value => read (ofText value)) =
          [(ofText t, port)] := by
  refine ⟨⟨?_, ?_⟩, fun ps => read_points, ?_⟩
  · rintro ⟨ps, h, h'⟩
    have hread := (read_points h).symm.trans (read_points h')
    exact ⟨Prod.mk.inj hread, (points_eq_ok_iff.1 h).1⟩
  · rintro ⟨⟨rfl, rfl⟩, hport⟩
    exact ⟨_, points_eq_ok_iff.2 ⟨hport, rfl⟩, points_eq_ok_iff.2 ⟨hport, rfl⟩⟩
  · intro t site head path haddress response
    have htold := site.peer.told
    rw [haddress, ← Value.ofPoints_ofText] at htold
    rw [headerValues_greeting, List.map_cons, List.map_nil, ofText_text haddress,
      read_points htold]

/-- A scoped host with a bracket of its own is read back, and so is the one that a greeted peer is
told. -/
theorem points_eq_iff_scoped :
    let address : Value := .tuple [.ofPoints (ofText "fe80::1%[a".toList), .int (-80)]
    points address = .ok (ofText "[fe80::1%[a]:-80".toList) ∧
      read (ofText "[fe80::1%[a]:-80".toList) = (ofText "fe80::1%[a".toList, -80) ∧
      ((Greeting.response (Connection.requestOf Greeting.site ⟨⟨[], [], [], true⟩, []⟩
        [])).headerValues Greeting.header).map (fun value => read (ofText value)) =
          [(ofText "127.0.0.1".toList, 50000)] := by
  intro address
  have htold : points address = .ok (ofText "[fe80::1%[a]:-80".toList) := by decide +kernel
  exact ⟨htold, (points_eq_iff _ [] (-80) 0 [] []).2.1 _ htold,
    (points_eq_iff [] [] 50000 0 [] []).2.2 "127.0.0.1".toList Greeting.site _ [] rfl⟩

/-- The integer that a port is. A truth value is one too. -/
def portNumber? : Value → Option Int
  | .int n => some n
  | .bool b => some (if b then 1 else 0)
  | _ => none

/-- Two ports that are the same integer do not make the same address if one of them is a truth
value, and a port with too many digits makes none. -/
theorem not_points_eq_iff :
    (portNumber? (.bool true) = portNumber? (.int 1) ∧
      points (.tuple [.text "a".toList, .bool true]) ≠
        points (.tuple [.text "a".toList, .int 1])) ∧
      ∀ ps, points (.tuple [.text "a".toList, .int Text.firstUnwritten]) ≠ .ok ps := by
  refine ⟨⟨rfl, by decide +kernel⟩, ?_⟩
  intro ps h
  rw [← Value.ofPoints_ofText, points_eq_ok_iff, ← Text.exists_ofInt_iff] at h
  exact Text.not_exists_ofInt_firstUnwritten h.1

end RemoteAddress
end GreetingServer
