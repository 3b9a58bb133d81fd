import GreetingServer.Fault

/-! Routes. A route names the requests that a handler is for, by method and by path. -/
namespace GreetingServer

/-- A route for one method, or for every method if it names none. A path that ends with a slash
stands for all paths that start with it, and any other path for itself alone. -/
structure Route where
  verb : Option Text
  path : Text
  deriving Repr, DecidableEq

namespace Route

def coversPath (r : Route) (path : Text) : Bool :=
  if ['/'].isSuffixOf r.path then r.path.isPrefixOf path else r.path == path

def coversVerb (r : Route) (verb : Text) : Bool :=
  match r.verb with
  | none => true
  | some v => v == verb

def covers (r : Route) (verb path : Text) : Bool := r.coversVerb verb && r.coversPath path

def display (r : Route) : Text :=
  "Route(verb=".toList ++ (r.verb.map Text.quoted).getD "None".toList ++ ", path=".toList ++
    Text.quoted r.path ++ [')']

/-- A route never changes: setting one of its fields is refused. -/
def refusal (field : Text) : Fault :=
  Fault.of .frozen ("cannot assign to field ".toList ++ Text.quoted field)

theorem coversPath_iff {r : Route} {path : Text} :
    r.coversPath path = true ↔ path = r.path ∨ (['/'] <:+ r.path ∧ r.path <+: path) := by
  unfold coversPath
  split
  · rename_i h
    rw [List.isSuffixOf_iff_suffix] at h
    rw [List.isPrefixOf_iff_prefix]
    exact ⟨fun hp => Or.inr ⟨h, hp⟩, fun hp => hp.elim (fun e => e ▸ List.prefix_rfl) (·.2)⟩
  · rename_i h
    rw [List.isSuffixOf_iff_suffix] at h
    simp only [beq_iff_eq]
    exact ⟨fun e => Or.inl e.symm, fun hp => hp.elim Eq.symm fun hs => absurd hs.1 h⟩

theorem coversVerb_iff {r : Route} {verb : Text} :
    r.coversVerb verb = true ↔ r.verb = none ∨ r.verb = some verb := by
  unfold coversVerb
  cases r.verb <;> simp

theorem covers_iff {r : Route} {verb path : Text} :
    r.covers verb path = true ↔ (r.verb = none ∨ r.verb = some verb) ∧
      (path = r.path ∨ (['/'] <:+ r.path ∧ r.path <+: path)) := by
  simp [covers, coversVerb_iff, coversPath_iff]

end Route
end GreetingServer
