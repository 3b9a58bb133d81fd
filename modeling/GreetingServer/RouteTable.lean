import GreetingServer.Fault
import GreetingServer.Ordered
import GreetingServer.Route

/-! Tables of routes. Of the routes that are for a request the one with the longest path is chosen,
and of several with equally long paths the one that is oldest in the table. -/
namespace GreetingServer

/-- Routes and what they lead to, in the order in which the routes were first put. -/
abbrev RouteTable (α : Type) := Ordered Route α

namespace RouteTable
variable {α : Type}

/-- Of two candidates the later one is better only if its path is longer. -/
def better (best : Option Route) (r : Route) : Option Route :=
  match best with
  | none => some r
  | some b => if b.path.length < r.path.length then some r else some b

def best? (routes : List Route) (verb path : Text) : Option Route :=
  (routes.filter (·.covers verb path)).foldl better none

def find? (table : RouteTable α) (verb path : Text) : Option α :=
  (best? (Ordered.keys table) verb path).bind (Ordered.get? table)

def ofEntries (entries : List (Route × α)) : RouteTable α := Ordered.putAll entries []

theorem foldl_better_isSome (best : Route) (routes : List Route) :
    (routes.foldl better (some best)).isSome = true := by
  induction routes generalizing best with
  | nil => rfl
  | cons r rest ih =>
    simp only [List.foldl_cons, better]
    split <;> exact ih _

theorem best?_eq_none_iff {routes : List Route} {verb path : Text} :
    best? routes verb path = none ↔ ∀ r ∈ routes, r.covers verb path = false := by
  rw [← Option.not_isSome_iff_eq_none, best?]
  cases h : routes.filter (·.covers verb path) with
  | nil => simpa using List.filter_eq_nil_iff.1 h
  | cons r rest =>
    have hr : r ∈ routes.filter (·.covers verb path) := h ▸ List.mem_cons_self ..
    have hc := List.mem_filter.1 hr
    simp only [List.foldl_cons, better, foldl_better_isSome, not_true_eq_false, false_iff]
    exact fun hall => by simp [hall r hc.1] at hc

inductive Change
  | assign
  | remove
  | replace
  deriving Repr, DecidableEq

def refusal : Change → Fault
  | .assign =>
    Fault.wrongType "'mappingproxy' object does not support item assignment".toList
  | .remove =>
    Fault.wrongType "'mappingproxy' object does not support item deletion".toList
  | .replace =>
    Fault.of .noAttribute "property 'routes' of 'RouterFactory' object has no setter".toList

end RouteTable
end GreetingServer
