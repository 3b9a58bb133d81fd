/-! Maps in the order in which their keys were first put. A map is the list of its entries; putting
a value under a key that is there already keeps the place of the key. -/
namespace GreetingServer

/-- The entries of a map, oldest key first. -/
abbrev Ordered (κ α : Type) := List (κ × α)

namespace Ordered
variable {κ α : Type} [DecidableEq κ]

def get? (entries : Ordered κ α) (key : κ) : Option α :=
  (entries.find? fun entry => entry.1 = key).map (·.2)

def put (key : κ) (value : α) : Ordered κ α → Ordered κ α
  | [] => [(key, value)]
  | (other, old) :: rest =>
    if other = key then (key, value) :: rest else (other, old) :: put key value rest

def putNew (key : κ) (value : α) (entries : Ordered κ α) : Ordered κ α :=
  if (entries.get? key).isSome then entries else entries ++ [(key, value)]

def erase (key : κ) (entries : Ordered κ α) : Ordered κ α := entries.filter fun entry => entry.1 ≠ key

def putAll (more entries : Ordered κ α) : Ordered κ α :=
  more.foldl (fun entries entry => put entry.1 entry.2 entries) entries

def keys (entries : Ordered κ α) : List κ := entries.map (·.1)

@[simp] theorem get?_nil (key : κ) : get? ([] : Ordered κ α) key = none := rfl

theorem get?_cons (key other : κ) (value : α) (rest : Ordered κ α) :
    get? ((other, value) :: rest) key = if other = key then some value else get? rest key := by
  by_cases h : other = key <;> simp [get?, h]

@[simp] theorem get?_put_self (key : κ) (value : α) (entries : Ordered κ α) :
    get? (put key value entries) key = some value := by
  induction entries with
  | nil => simp [put, get?_cons]
  | cons entry rest ih =>
    obtain ⟨other, old⟩ := entry
    by_cases h : other = key <;> simp [put, get?_cons, h, ih]

theorem get?_put_other {key other : κ} (h : other ≠ key) (value : α) (entries : Ordered κ α) :
    get? (put key value entries) other = get? entries other := by
  induction entries with
  | nil => simp [put, get?_cons, h.symm]
  | cons entry rest ih =>
    obtain ⟨third, old⟩ := entry
    by_cases hk : third = key
    · subst hk; simp [put, get?_cons, h.symm]
    · simp [put, get?_cons, hk, ih]

/-- A key that is there keeps its place, and a new one goes to the end. -/
theorem keys_put (key : κ) (value : α) (entries : Ordered κ α) :
    keys (put key value entries) = if key ∈ keys entries then keys entries else keys entries ++ [key] := by
  induction entries with
  | nil => simp [put, keys]
  | cons entry rest ih =>
    obtain ⟨other, old⟩ := entry
    by_cases h : other = key
    · subst h; simp [put, keys]
    · have hne : key ≠ other := fun e => h e.symm
      simp only [keys] at ih
      by_cases hm : key ∈ List.map (·.1) rest <;> simp_all [put, keys]

@[simp] theorem get?_erase_self (key : κ) (entries : Ordered κ α) :
    get? (erase key entries) key = none := by
  simp [get?, erase, List.find?_filter]

theorem get?_isSome_iff {key : κ} {entries : Ordered κ α} :
    (get? entries key).isSome = true ↔ key ∈ keys entries := by
  induction entries with
  | nil => simp [keys]
  | cons entry rest ih =>
    obtain ⟨other, old⟩ := entry
    by_cases h : other = key
    · subst h; simp [get?_cons, keys]
    · have hne : key ≠ other := fun e => h e.symm
      simpa [get?_cons, keys, h, hne] using ih

theorem nodup_keys_put {entries : Ordered κ α} (h : (keys entries).Nodup) (key : κ) (value : α) :
    (keys (put key value entries)).Nodup := by
  rw [keys_put]
  split
  · exact h
  · rename_i hk
    exact List.nodup_append.2 ⟨h, by simp, fun a ha b hb hab =>
      hk (by rwa [← List.mem_singleton.1 hb, ← hab])⟩

theorem nodup_keys_putAll {entries : Ordered κ α} (h : (keys entries).Nodup) (more : Ordered κ α) :
    (keys (putAll more entries)).Nodup := by
  induction more generalizing entries with
  | nil => exact h
  | cons entry more ih => exact ih (nodup_keys_put h entry.1 entry.2)

end Ordered
end GreetingServer
