import GreetingServer.Proofs.LongestMatch

/-! What the order of a table decides. Tables with the same entries lead a request to the same place
in whatever order they have been put, with one exception: the longest path stands in the table both
for every verb and for the verb of the request. Then the older of these two routes is chosen, and
never a third one. -/
namespace GreetingServer

variable {verb path : Text}

theorem Route.IsFor.prefix_path {r : Route} (h : r.IsFor verb path) : r.path <+: path := by
  rcases h.2 with he | ⟨-, hp⟩
  · exact he ▸ List.prefix_rfl
  · exact hp

/-- Routes for one request with equally long paths have the same path. -/
theorem Route.IsFor.path_eq {r s : Route} (hr : r.IsFor verb path) (hs : s.IsFor verb path)
    (h : r.path.length = s.path.length) : r.path = s.path :=
  (List.prefix_of_prefix_length_le hr.prefix_path hs.prefix_path (Nat.le_of_eq h)).eq_of_length h

def Route.any (path : Text) : Route := ⟨none, path⟩

def Route.only (verb path : Text) : Route := ⟨some verb, path⟩

theorem Route.IsFor.eq_any_or_only {r : Route} (h : r.IsFor verb path) :
    r = Route.any r.path ∨ r = Route.only verb r.path := by
  obtain ⟨v, p⟩ := r
  rcases h.1 with hv | hv
  · exact Or.inl (congrArg (Route.mk · p) hv)
  · exact Or.inr (congrArg (Route.mk · p) hv)

namespace RouteTable
variable {α : Type} {routes others : List Route} {longest : Text}

structure IsLongestPath (routes : List Route) (verb path longest : Text) : Prop where
  reached : ∃ r ∈ routes, r.IsFor verb path ∧ r.path = longest
  bound : ∀ r ∈ routes, r.IsFor verb path → r.path.length ≤ longest.length

/-- The longest path is that of two routes for a request, one for every verb and one for the verb of
the request alone. -/
structure IsContested (routes : List Route) (verb path longest : Text) : Prop
    extends IsLongestPath routes verb path longest where
  any : Route.any longest ∈ routes
  only : Route.only verb longest ∈ routes

def older (routes : List Route) (r s : Route) : Route :=
  if routes.idxOf r < routes.idxOf s then r else s

theorem IsFirstLongest.isLongestPath {best : Route} (h : IsFirstLongest routes verb path best) :
    IsLongestPath routes verb path best.path where
  reached := ⟨best, h.mem, h.isFor, rfl⟩
  bound := h.longest

theorem IsFirstLongest.path_eq {best : Route} (h : IsFirstLongest routes verb path best)
    (hl : IsLongestPath routes verb path longest) : best.path = longest := by
  obtain ⟨r, hr, hfor, rfl⟩ := hl.reached
  exact h.isFor.path_eq hfor (Nat.le_antisymm (hl.bound best h.mem h.isFor) (h.longest r hr hfor))

theorem IsLongestPath.of_perm (h : IsLongestPath routes verb path longest)
    (hp : routes.Perm others) : IsLongestPath others verb path longest where
  reached := by
    obtain ⟨r, hr, hfor⟩ := h.reached
    exact ⟨r, hp.mem_iff.1 hr, hfor⟩
  bound r hr := h.bound r (hp.mem_iff.2 hr)

theorem IsContested.of_perm (h : IsContested routes verb path longest) (hp : routes.Perm others) :
    IsContested others verb path longest where
  toIsLongestPath := h.toIsLongestPath.of_perm hp
  any := hp.mem_iff.1 h.any
  only := hp.mem_iff.1 h.only

theorem IsFirstLongest.eq_or_isContested {best other : Route}
    (h : IsFirstLongest routes verb path best) (ho : IsFirstLongest others verb path other)
    (hp : routes.Perm others) : best = other ∨ IsContested routes verb path best.path := by
  have hpath : other.path = best.path := ho.path_eq (h.isLongestPath.of_perm hp)
  have hmem : other ∈ routes := hp.mem_iff.2 ho.mem
  rcases h.isFor.eq_any_or_only with hb | hb <;> rcases ho.isFor.eq_any_or_only with hs | hs
  · exact Or.inl (by rw [hb, hs, hpath])
  · exact Or.inr ⟨h.isLongestPath, hb ▸ h.mem, hpath ▸ hs ▸ hmem⟩
  · exact Or.inr ⟨h.isLongestPath, hpath ▸ hs ▸ hmem, hb ▸ h.mem⟩
  · exact Or.inl (by rw [hb, hs, hpath])

theorem IsContested.best?_eq (h : IsContested routes verb path longest) :
    best? routes verb path =
      some (older routes (Route.any longest) (Route.only verb longest)) := by
  cases hb : best? routes verb path with
  | none =>
    obtain ⟨r, hr, hfor, -⟩ := h.reached
    have hcovers := best?_eq_none_iff.1 hb r hr
    rw [Route.covers_iff.2 hfor] at hcovers
    cases hcovers
  | some best =>
    have hfirst := best?_eq_some_iff.1 hb
    have hpath := hfirst.path_eq h.toIsLongestPath
    have hcovered : path = longest ∨ (['/'] <:+ longest ∧ longest <+: path) :=
      hpath ▸ hfirst.isFor.2
    rcases hfirst.isFor.eq_any_or_only with he | he <;> rw [hpath] at he
    · have hle := hfirst.first _ h.only ⟨Or.inr rfl, hcovered⟩ (by rw [hpath]; rfl)
      have hne : routes.idxOf best ≠ routes.idxOf (Route.only verb longest) := by
        rw [Ne, List.idxOf_inj hfirst.mem, he]
        simp [Route.any, Route.only]
      rw [older, if_pos (he ▸ Nat.lt_of_le_of_ne hle hne), he]
    · have hle := hfirst.first _ h.any ⟨Or.inl rfl, hcovered⟩ (by rw [hpath]; rfl)
      rw [older, if_neg (he ▸ Nat.not_lt.2 hle), he]

theorem best?_eq_none_of_perm (hp : routes.Perm others) (h : best? routes verb path = none) :
    best? others verb path = none :=
  best?_eq_none_iff.2 fun r hr => best?_eq_none_iff.1 h r (hp.mem_iff.2 hr)

theorem best?_of_perm (hp : routes.Perm others)
    (h : ∀ longest, ¬IsContested routes verb path longest) :
    best? routes verb path = best? others verb path := by
  cases hb : best? routes verb path with
  | none => exact (best?_eq_none_of_perm hp hb).symm
  | some best =>
    cases ho : best? others verb path with
    | none => rw [best?_eq_none_of_perm hp.symm ho] at hb; cases hb
    | some other =>
      rcases (best?_eq_some_iff.1 hb).eq_or_isContested (best?_eq_some_iff.1 ho) hp with he | hc
      · rw [he]
      · exact absurd hc (h _)

theorem nodup_keys_ofEntries (entries : List (Route × α)) :
    (Ordered.keys (ofEntries entries)).Nodup := by
  induction entries using List.reverseRecOn with
  | nil => exact List.nodup_nil
  | append_singleton entries entry ih =>
    rw [ofEntries, Ordered.putAll_concat]
    exact Ordered.nodup_keys_put ih _ _

/-- The order of a table counts only where a route for every verb and one for the verb of the request
have the same path, the longest one. Otherwise tables with the same entries choose the same route
and find the same. With such a pair, each of them finds what the older route of the pair leads to in
it, and no other route is chosen. -/
theorem find?_of_perm {first second : RouteTable α} (hkeys : (Ordered.keys first).Nodup)
    (hp : first.Perm second) (verb path : Text) :
    ((∀ longest, ¬IsContested (Ordered.keys first) verb path longest) →
      best? (Ordered.keys first) verb path = best? (Ordered.keys second) verb path ∧
        find? first verb path = find? second verb path) ∧
    ∀ longest, IsContested (Ordered.keys first) verb path longest →
      ∀ table ∈ [first, second], ∃ route value,
        route = older (Ordered.keys table) (Route.any longest) (Route.only verb longest) ∧
          (route, value) ∈ table ∧ best? (Ordered.keys table) verb path = some route ∧
          find? table verb path = some value := by
  have hroutes : (Ordered.keys first).Perm (Ordered.keys second) := hp.map _
  constructor
  · intro h
    have hbest := best?_of_perm hroutes h
    refine ⟨hbest, ?_⟩
    rw [find?, find?, hbest]
    exact congrArg _ (funext fun route => Ordered.get?_of_perm hkeys hp route)
  · intro longest h table htable
    have hc : IsContested (Ordered.keys table) verb path longest := by
      simp only [List.mem_cons, List.not_mem_nil, or_false] at htable
      rcases htable with rfl | rfl
      · exact h
      · exact h.of_perm hroutes
    have hbest := hc.best?_eq
    obtain ⟨value, hv⟩ := Option.isSome_iff_exists.1 (Ordered.get?_isSome_iff.2 (mem_of_best? hbest))
    exact ⟨_, value, rfl, Ordered.mem_of_get? hv, hbest, by rw [find?, hbest, Option.bind_some, hv]⟩

def contested : List (Route × Nat) :=
  [(Route.any "/a/".toList, 1), (Route.only "GET".toList "/a/".toList, 2),
    (Route.any "/".toList, 3)]

/-- In the opposite order the other route of the pair is chosen, but only for requests that both of
them are for. -/
theorem find?_of_perm_contested :
    let first := ofEntries contested
    let second := ofEntries contested.reverse
    (IsContested (Ordered.keys first) "GET".toList "/a/b".toList "/a/".toList ∧
        ∀ table ∈ [first, second], ∃ value,
          (older (Ordered.keys table) (Route.any "/a/".toList)
            (Route.only "GET".toList "/a/".toList), value) ∈ table ∧
          find? table "GET".toList "/a/b".toList = some value) ∧
      (find? first "GET".toList "/a/b".toList, find? second "GET".toList "/a/b".toList) =
        (some 1, some 2) ∧
      find? first "PUT".toList "/a/b".toList = find? second "PUT".toList "/a/b".toList := by
  intro first second
  have hkeys := nodup_keys_ofEntries contested
  have hp : first.Perm second := by decide
  have hget : best? (Ordered.keys first) "GET".toList "/a/b".toList =
      some (Route.any "/a/".toList) := by decide
  have hpair : IsContested (Ordered.keys first) "GET".toList "/a/b".toList "/a/".toList :=
    ⟨(best?_eq_some_iff.1 hget).isLongestPath, by decide, by decide⟩
  have hsingle : ∀ longest, Route.only "PUT".toList longest ∉ Ordered.keys first := by
    intro longest
    simp [first, ofEntries, contested, Ordered.putAll, Ordered.put, Ordered.keys, Route.any,
      Route.only]
  refine ⟨⟨hpair, ?_⟩, by decide, ?_⟩
  · intro table htable
    obtain ⟨route, value, rfl, hv, -, hfind⟩ :=
      (find?_of_perm hkeys hp "GET".toList "/a/b".toList).2 _ hpair table htable
    exact ⟨value, hv, hfind⟩
  · exact ((find?_of_perm hkeys hp "PUT".toList "/a/b".toList).1
      fun longest hc => hsingle longest hc.only).2

end RouteTable
end GreetingServer
