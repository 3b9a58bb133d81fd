import GreetingServer.Proofs.Routing

/-! Which entry of a table a request is led to. Of the routes that are for the request it is the one
with the longest path, and of those with equally long paths the one that was put first; and what it
leads to was put last under that route. Entries that are put under a route which is there already
take no part in the choice. -/
namespace GreetingServer

/-- The route is for a request: its verb is the request's, or it has none, and the request's path is
its own path or, if that ends with a slash, starts with it. -/
def Route.IsFor (r : Route) (verb path : Text) : Prop :=
  (r.verb = none ∨ r.verb = some verb) ∧ (path = r.path ∨ (['/'] <:+ r.path ∧ r.path <+: path))

namespace RouteTable
variable {α : Type} {routes : List Route} {verb path : Text}

/-- Of the routes for a request this one has the longest path, and it is the first one of those with
a path of that length. -/
structure IsFirstLongest (routes : List Route) (verb path : Text) (best : Route) : Prop where
  mem : best ∈ routes
  isFor : best.IsFor verb path
  longest : ∀ r ∈ routes, r.IsFor verb path → r.path.length ≤ best.path.length
  first : ∀ r ∈ routes, r.IsFor verb path → r.path.length = best.path.length →
    routes.idxOf best ≤ routes.idxOf r

theorem IsFirstLongest.unique {best other : Route} (h : IsFirstLongest routes verb path best)
    (ho : IsFirstLongest routes verb path other) : best = other := by
  have hlength : best.path.length = other.path.length :=
    Nat.le_antisymm (ho.longest best h.mem h.isFor) (h.longest other ho.mem ho.isFor)
  have hplace : routes.idxOf best = routes.idxOf other :=
    Nat.le_antisymm (h.first other ho.mem ho.isFor hlength.symm)
      (ho.first best h.mem h.isFor hlength)
  exact (List.idxOf_inj h.mem).1 hplace

theorem best?_concat (routes : List Route) (r : Route) (verb path : Text) :
    best? (routes ++ [r]) verb path =
      if r.covers verb path then better (best? routes verb path) r else best? routes verb path := by
  by_cases h : r.covers verb path = true <;> simp [best?, List.filter_append, h]

theorem isFirstLongest_concat_self {r : Route} (hr : r.IsFor verb path)
    (h : ∀ s ∈ routes, s.IsFor verb path → s.path.length < r.path.length) :
    IsFirstLongest (routes ++ [r]) verb path r where
  mem := List.mem_append_right _ (List.mem_singleton_self r)
  isFor := hr
  longest s hs hfor := by
    rcases List.mem_append.1 hs with hs | hs
    · exact Nat.le_of_lt (h s hs hfor)
    · rw [List.mem_singleton.1 hs]
  first s hs hfor hlength := by
    rcases List.mem_append.1 hs with hs | hs
    · exact absurd hlength (Nat.ne_of_lt (h s hs hfor))
    · rw [List.mem_singleton.1 hs]

theorem IsFirstLongest.concat {best r : Route} (h : IsFirstLongest routes verb path best)
    (hr : r.IsFor verb path → r.path.length ≤ best.path.length) :
    IsFirstLongest (routes ++ [r]) verb path best where
  mem := List.mem_append_left _ h.mem
  isFor := h.isFor
  longest s hs hfor := by
    rcases List.mem_append.1 hs with hs | hs
    · exact h.longest s hs hfor
    · obtain rfl := List.mem_singleton.1 hs
      exact hr hfor
  first s hs hfor hlength := by
    rw [List.idxOf_append_of_mem h.mem]
    by_cases hm : s ∈ routes
    · rw [List.idxOf_append_of_mem hm]
      exact h.first s hm hfor hlength
    · rw [List.idxOf_append_of_notMem hm]
      have hplace := List.idxOf_lt_length_of_mem h.mem
      omega

theorem isFirstLongest_of_best? {best : Route} (h : best? routes verb path = some best) :
    IsFirstLongest routes verb path best := by
  induction routes using List.reverseRecOn generalizing best with
  | nil => cases h
  | append_singleton routes r ih =>
    rw [best?_concat] at h
    split at h
    · rename_i hr
      cases hb : best? routes verb path with
      | none =>
        rw [hb] at h
        obtain rfl : r = best := Option.some.inj h
        refine isFirstLongest_concat_self (Route.covers_iff.1 hr) ?_
        intro s hs hfor
        exact absurd (Route.covers_iff.2 hfor) (by rw [best?_eq_none_iff.1 hb s hs]; decide)
      | some old =>
        rw [hb] at h
        simp only [better] at h
        split at h
        · rename_i hlonger
          obtain rfl : r = best := Option.some.inj h
          refine isFirstLongest_concat_self (Route.covers_iff.1 hr) ?_
          exact fun s hs hfor => Nat.lt_of_le_of_lt ((ih hb).longest s hs hfor) hlonger
        · rename_i hlonger
          obtain rfl : old = best := Option.some.inj h
          exact (ih hb).concat fun _ => Nat.le_of_not_lt hlonger
    · rename_i hr
      exact (ih h).concat fun hfor => absurd (Route.covers_iff.2 hfor) hr

theorem best?_eq_some_iff {best : Route} :
    best? routes verb path = some best ↔ IsFirstLongest routes verb path best := by
  refine ⟨isFirstLongest_of_best?, fun h => ?_⟩
  cases hb : best? routes verb path with
  | none =>
    have hcovers := Route.covers_iff.2 h.isFor
    rw [best?_eq_none_iff.1 hb best h.mem] at hcovers
    cases hcovers
  | some other => rw [(isFirstLongest_of_best? hb).unique h]

theorem best?_concat_of_mem {r : Route} (h : r ∈ routes) (verb path : Text) :
    best? (routes ++ [r]) verb path = best? routes verb path := by
  rw [best?_concat]
  split
  · rename_i hr
    cases hb : best? routes verb path with
    | none => rw [best?_eq_none_iff.1 hb r h] at hr; cases hr
    | some best =>
      have hlongest := (best?_eq_some_iff.1 hb).longest r h (Route.covers_iff.1 hr)
      rw [better, if_neg (Nat.not_lt.2 hlongest)]
  · rfl

theorem mem_keys_ofEntries {entries : List (Route × α)} {route : Route} :
    route ∈ Ordered.keys (ofEntries entries) ↔ route ∈ entries.map (·.1) := by
  rw [ofEntries, Ordered.mem_keys_putAll]
  exact or_iff_left List.not_mem_nil

theorem best?_keys_ofEntries (entries : List (Route × α)) (verb path : Text) :
    best? (Ordered.keys (ofEntries entries)) verb path =
      best? (entries.map (·.1)) verb path := by
  induction entries using List.reverseRecOn with
  | nil => rfl
  | append_singleton entries entry ih =>
    obtain ⟨r, value⟩ := entry
    rw [ofEntries, Ordered.putAll_concat, Ordered.keys_put, List.map_append, List.map_singleton]
    split
    · rename_i h
      rw [best?_concat_of_mem (mem_keys_ofEntries.1 h)]
      exact ih
    · rw [best?_concat, best?_concat]
      exact congrArg (fun b => if r.covers verb path then better b r else b) ih

/-- A request is led nowhere exactly if no route of an entry is for it. Otherwise it is led to what
was put last under the first of the longest routes that are for it. -/
theorem find?_ofEntries_iff (entries : List (Route × α)) (verb path : Text) :
    (find? (ofEntries entries) verb path = none ↔
      ∀ entry ∈ entries, ¬entry.1.IsFor verb path) ∧
    ∀ value, find? (ofEntries entries) verb path = some value ↔
      ∃ route, IsFirstLongest (entries.map (·.1)) verb path route ∧
        Ordered.IsLastPut entries route value := by
  constructor
  · rw [← Option.not_isSome_iff_eq_none, find?_isSome_iff, not_exists]
    constructor
    · intro h entry hentry hfor
      have hroute := mem_keys_ofEntries.2 (List.mem_map_of_mem hentry)
      exact h entry.1 ⟨hroute, Route.covers_iff.2 hfor⟩
    · rintro h route ⟨hroute, hcovers⟩
      obtain ⟨entry, hentry, rfl⟩ := List.mem_map.1 (mem_keys_ofEntries.1 hroute)
      exact h entry hentry (Route.covers_iff.1 hcovers)
  · intro value
    rw [find?, Option.bind_eq_some_iff, best?_keys_ofEntries]
    constructor
    · rintro ⟨route, hbest, hvalue⟩
      exact ⟨route, best?_eq_some_iff.1 hbest, Ordered.get?_putAll_nil_iff.1 hvalue⟩
    · rintro ⟨route, hbest, hvalue⟩
      exact ⟨route, best?_eq_some_iff.2 hbest, Ordered.get?_putAll_nil_iff.2 hvalue⟩

/-- Of equally long routes the older one is chosen, and a value put later replaces its first one. -/
example : find? (ofEntries [(⟨none, "/a/".toList⟩, 1), (⟨some "GET".toList, "/a/".toList⟩, 2),
    (⟨none, "/".toList⟩, 3), (⟨none, "/a/".toList⟩, 4)]) "GET".toList "/a/b".toList = some 4 := by
  decide

end RouteTable
end GreetingServer
