import GreetingServer.Proofs.LogFields
import GreetingServer.Proofs.WrittenValue

/-! What a call of a logger asks for. A string is said as a string, and the fields that are asked for
are fields of the call. -/
namespace GreetingServer
namespace Value

/-- The value is a string, which may have surrogates in it. -/
inductive IsString : Value → Prop
  | text (t : Text) : IsString (.text t)
  | points (ps : List CodePoint) : IsString (.points ps)

theorem IsString.ne_null {v : Value} (h : v.IsString) : v ≠ .null := by
  cases h <;> simp

theorem IsString.isPlain {v : Value} (h : v.IsString) : v.IsPlain := by
  cases h with
  | text t => exact .text t
  | points ps => exact .points ps

theorem isString_ofPoints (ps : List CodePoint) : (ofPoints ps).IsString := by
  unfold ofPoints
  split
  · exact .text _
  · exact .points _

end Value

theorem Template.isString_fill {template : List CodePoint} {values : List Value} {v : Value}
    (h : fill template values = .ok v) : v.IsString := by
  unfold fill at h
  split at h
  · rw [← Except.ok.inj h]
    exact Value.isString_ofPoints template
  · split at h
    · cases h
    · rename_i t s _
      cases hs : s.settle with
      | error f =>
        rw [hs] at h
        cases h
      | ok _ =>
        rw [hs] at h
        rw [← Except.ok.inj h]
        exact Value.isString_ofPoints t

namespace Log
namespace Message
variable {m : Message}

theorem isString_said {event v : Value} {values : List Value} (he : event.IsString)
    (h : said event values = .ok v) : v.IsString := by
  cases he with
  | text t => exact Template.isString_fill h
  | points ps => exact Template.isString_fill h

theorem said_ofPoints (ps : List CodePoint) : said (.ofPoints ps) [] = .ok (.ofPoints ps) := by
  unfold Value.ofPoints
  split
  · rename_i t _
    rw [said, Template.fill_nil, Value.ofPoints_ofText]
  · rename_i h
    rw [said, Template.fill_nil, Value.ofPoints, h]

theorem given_sublist {c : Call} (h : m.call? = some c) :
    c.given.Sublist m.fields := by
  have hleveled : m.leveledCall? = some c → c.given.Sublist m.fields := by
    intro hl
    unfold leveledCall? at hl
    split at hl
    · obtain ⟨level, -, rfl⟩ := Option.map_eq_some_iff.1 hl
      split
      · exact List.Sublist.refl _
      · exact List.filter_sublist
    · cases hl
  unfold call? at h
  split at h
  · obtain rfl := Option.some.inj h
    exact List.Sublist.refl _
  · split at h
    · exact hleveled h
    · cases h

end Message
end Log
end GreetingServer
