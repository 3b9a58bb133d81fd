import GreetingServer.Ordered
import Mathlib.Data.List.Basic
import Mathlib.Data.List.Induction

/-! Maps in the order of their first keys. A map has each key once, and putting, erasing and changing
all values keep that. Under a key there is the value that was put there last. -/
namespace GreetingServer
namespace Ordered

/-! Names of which each counts where it comes first. -/

section
variable {κ : Type} [BEq κ] [LawfulBEq κ]

theorem eraseDups_concat (l : List κ) (key : κ) :
    (l ++ [key]).eraseDups = if key ∈ l then l.eraseDups else l.eraseDups ++ [key] := by
  rw [List.eraseDups_append, List.removeAll]
  by_cases hk : key ∈ l
  · simp [hk]
  · rw [if_neg hk]
    simp [hk]
    rfl

theorem eraseDups_filter (p : κ → Bool) (l : List κ) :
    (l.filter p).eraseDups = l.eraseDups.filter p := by
  induction l using List.reverseRecOn with
  | nil => rfl
  | append_singleton l key ih =>
    rw [eraseDups_concat, List.filter_append]
    by_cases hp : p key = true
    · rw [List.filter_cons_of_pos hp, List.filter_nil, eraseDups_concat, ih]
      by_cases hk : key ∈ l <;> simp [hk, hp]
    · rw [List.filter_cons_of_neg hp, List.filter_nil, List.append_nil, ih]
      by_cases hk : key ∈ l <;> simp [hk, hp]

theorem eraseDups_of_nodup {l : List κ} (h : l.Nodup) : l.eraseDups = l := by
  induction l using List.reverseRecOn with
  | nil => rfl
  | append_singleton l key ih =>
    rw [List.nodup_append] at h
    have hk : key ∉ l := fun hm => h.2.2 key hm key (by simp) rfl
    rw [eraseDups_concat, if_neg hk, ih h.1]

theorem nodup_eraseDups (l : List κ) : l.eraseDups.Nodup := by
  induction l using List.reverseRecOn with
  | nil => exact List.nodup_nil
  | append_singleton l key ih =>
    rw [eraseDups_concat]
    split
    · exact ih
    · rename_i hk
      refine List.nodup_append.2 ⟨ih, by simp, fun a ha b hb hab => hk ?_⟩
      rwa [← List.mem_singleton.1 hb, ← hab, ← List.mem_eraseDups]

end

/-! Putting and erasing. -/

variable {κ α β : Type} [DecidableEq κ]

theorem put_of_notMem {key : κ} {entries : Ordered κ α} (h : key ∉ keys entries) (value : α) :
    put key value entries = entries ++ [(key, value)] := by
  induction entries with
  | nil => rfl
  | cons entry rest ih =>
    obtain ⟨other, old⟩ := entry
    simp only [keys, List.map_cons, List.mem_cons, not_or] at h
    rw [put, if_neg (Ne.symm h.1), ih h.2]
    rfl

theorem putAll_of_nodup {more entries : Ordered κ α} (h : (keys (entries ++ more)).Nodup) :
    putAll more entries = entries ++ more := by
  induction more generalizing entries with
  | nil => rw [List.append_nil]; rfl
  | cons entry more ih =>
    obtain ⟨key, value⟩ := entry
    have hsplit : entries ++ (key, value) :: more = entries ++ [(key, value)] ++ more :=
      List.append_cons ..
    have hkey : key ∉ keys entries := by
      rw [keys, List.map_append, List.nodup_append] at h
      intro hm
      exact h.2.2 key hm key (by simp) rfl
    rw [putAll, List.foldl_cons, put_of_notMem hkey, hsplit]
    rw [hsplit] at h
    exact ih h

theorem mem_of_get? {key : κ} {value : α} {entries : Ordered κ α}
    (h : get? entries key = some value) : (key, value) ∈ entries := by
  obtain ⟨entry, hf, rfl⟩ := Option.map_eq_some_iff.1 h
  have hkey : entry.1 = key := by simpa using List.find?_some hf
  rw [← hkey]
  exact List.mem_of_find?_eq_some hf

theorem put_of_get? {key : κ} {value : α} {entries : Ordered κ α}
    (h : get? entries key = some value) : put key value entries = entries := by
  induction entries with
  | nil => cases h
  | cons entry rest ih =>
    obtain ⟨other, old⟩ := entry
    rw [get?_cons] at h
    rw [put]
    split
    · rename_i hk
      rw [if_pos hk] at h
      rw [hk, Option.some.inj h]
    · rename_i hk
      rw [if_neg hk] at h
      rw [ih h]

theorem erase_of_notMem {key : κ} {entries : Ordered κ α} (h : key ∉ keys entries) :
    erase key entries = entries := by
  refine List.filter_eq_self.2 fun entry hentry => ?_
  have hne : entry.1 ≠ key := fun hk => h (hk ▸ List.mem_map_of_mem hentry)
  simpa using hne

theorem get?_erase_other {key other : κ} (h : other ≠ key) (entries : Ordered κ α) :
    get? (erase key entries) other = get? entries other := by
  induction entries with
  | nil => rfl
  | cons entry rest ih =>
    obtain ⟨third, old⟩ := entry
    by_cases hk : third = key
    · subst hk
      rw [get?_cons, if_neg (Ne.symm h), ← ih]
      simp [erase]
    · have hkept : erase key ((third, old) :: rest) = (third, old) :: erase key rest := by
        simp [erase, hk]
      rw [hkept, get?_cons, get?_cons, ih]

/-! Entries put one after the other. -/

theorem putAll_concat (more entries : Ordered κ α) (key : κ) (value : α) :
    putAll (more ++ [(key, value)]) entries = put key value (putAll more entries) := by
  simp [putAll]

theorem mem_keys_put {key other : κ} {value : α} {entries : Ordered κ α} :
    other ∈ keys (put key value entries) ↔ other = key ∨ other ∈ keys entries := by
  rw [keys_put]
  split
  · rename_i h
    exact ⟨Or.inr, fun ho => ho.elim (fun e => e ▸ h) id⟩
  · simp [or_comm]

theorem mem_put {entry : κ × α} {key : κ} {value : α} {entries : Ordered κ α}
    (h : entry ∈ put key value entries) : entry = (key, value) ∨ entry ∈ entries := by
  induction entries with
  | nil => exact Or.inl (List.mem_singleton.1 h)
  | cons first rest ih =>
    obtain ⟨other, old⟩ := first
    rw [put] at h
    split at h
    · rcases List.mem_cons.1 h with rfl | h
      · exact Or.inl rfl
      · exact Or.inr (List.mem_cons_of_mem _ h)
    · rcases List.mem_cons.1 h with rfl | h
      · exact Or.inr List.mem_cons_self
      · exact (ih h).imp_right (List.mem_cons_of_mem _)

theorem mem_keys_putAll {key : κ} {more entries : Ordered κ α} :
    key ∈ keys (putAll more entries) ↔ key ∈ keys more ∨ key ∈ keys entries := by
  induction more using List.reverseRecOn with
  | nil => simp [putAll, keys]
  | append_singleton more entry ih =>
    obtain ⟨other, old⟩ := entry
    rw [putAll_concat, mem_keys_put, ih]
    have hmore : key ∈ keys (more ++ [(other, old)]) ↔ key ∈ keys more ∨ key = other := by
      simp [keys]
    rw [hmore, ← or_assoc, @or_comm (key = other)]

theorem mem_keys_putNew {key other : κ} {value : α} {entries : Ordered κ α}
    (h : other ∈ keys entries) : other ∈ keys (putNew key value entries) := by
  rw [putNew]
  split
  · exact h
  · rw [keys, List.map_append]
    exact List.mem_append_left _ h

theorem mem_putAll {entry : κ × α} {more entries : Ordered κ α} (h : entry ∈ putAll more entries) :
    entry ∈ more ∨ entry ∈ entries := by
  induction more generalizing entries with
  | nil => exact Or.inr h
  | cons first more ih =>
    rcases ih h with hm | hp
    · exact Or.inl (List.mem_cons_of_mem _ hm)
    · rcases mem_put hp with rfl | he
      · exact Or.inl List.mem_cons_self
      · exact Or.inr he

/-- Of all entries under the key, the last one has the value. -/
def IsLastPut (entries : List (κ × α)) (key : κ) (value : α) : Prop :=
  (entries.filter fun entry => entry.1 = key).getLast? = some (key, value)

theorem isLastPut_concat_self (entries : List (κ × α)) (key : κ) (old value : α) :
    IsLastPut (entries ++ [(key, old)]) key value ↔ old = value := by
  simp [IsLastPut, List.filter_append]

theorem isLastPut_concat_other {key other : κ} (h : other ≠ key) (entries : List (κ × α))
    (old value : α) :
    IsLastPut (entries ++ [(other, old)]) key value ↔ IsLastPut entries key value := by
  simp [IsLastPut, List.filter_append, h]

theorem get?_putAll_nil_iff {more : Ordered κ α} {key : κ} {value : α} :
    get? (putAll more []) key = some value ↔ IsLastPut more key value := by
  induction more using List.reverseRecOn with
  | nil => simp [putAll, IsLastPut]
  | append_singleton more entry ih =>
    obtain ⟨other, old⟩ := entry
    rw [putAll_concat]
    by_cases h : other = key
    · subst h
      rw [get?_put_self, isLastPut_concat_self, Option.some.injEq]
    · rw [get?_put_other (Ne.symm h), isLastPut_concat_other h, ih]

/-! Each key is there once. -/

theorem nodup_keys_putNew {entries : Ordered κ α} (h : (keys entries).Nodup) (key : κ) (value : α) :
    (keys (putNew key value entries)).Nodup := by
  rw [putNew]
  split
  · exact h
  · rename_i hk
    rw [get?_isSome_iff] at hk
    rw [← put_of_notMem hk]
    exact nodup_keys_put h key value

theorem nodup_keys_erase {entries : Ordered κ α} (h : (keys entries).Nodup) (key : κ) :
    (keys (erase key entries)).Nodup :=
  (List.filter_sublist.map _).nodup h

theorem put_perm {entries : Ordered κ α} (h : (keys entries).Nodup) (key : κ) (value : α) :
    (put key value entries).Perm ((key, value) :: erase key entries) := by
  induction entries with
  | nil => exact List.Perm.refl _
  | cons entry rest ih =>
    obtain ⟨other, old⟩ := entry
    rw [keys, List.map_cons, List.nodup_cons] at h
    by_cases hk : other = key
    · subst hk
      have herase : erase other ((other, old) :: rest) = rest := by
        rw [← erase_of_notMem h.1]
        simp [erase]
      rw [put, if_pos rfl, herase]
    · have herase : erase key ((other, old) :: rest) = (other, old) :: erase key rest := by
        simp [erase, hk]
      rw [put, if_neg hk, herase]
      exact ((ih h.2).cons _).trans (List.Perm.swap ..)

theorem put_perm_put {entries others : Ordered κ α} (h : (keys entries).Nodup)
    (hp : entries.Perm others) (key : κ) (value : α) :
    (put key value entries).Perm (put key value others) :=
  (put_perm h key value).trans
    (((hp.filter _).cons _).trans (put_perm ((hp.map _).nodup h) key value).symm)

theorem putAll_perm {entries others : Ordered κ α} (h : (keys entries).Nodup)
    (hp : entries.Perm others) (more : Ordered κ α) :
    (putAll more entries).Perm (putAll more others) := by
  induction more generalizing entries others with
  | nil => exact hp
  | cons entry more ih => exact ih (nodup_keys_put h _ _) (put_perm_put h hp _ _)

theorem perm_of_get? {entries : Ordered κ α} (h : (keys entries).Nodup) {key : κ} {value : α}
    (hv : get? entries key = some value) : entries.Perm ((key, value) :: erase key entries) := by
  have hput := put_perm h key value
  rwa [put_of_get? hv] at hput

theorem get?_of_mem {entries : Ordered κ α} (h : (keys entries).Nodup) {key : κ} {value : α}
    (hm : (key, value) ∈ entries) : get? entries key = some value := by
  induction entries with
  | nil => cases hm
  | cons entry rest ih =>
    obtain ⟨other, old⟩ := entry
    rw [keys, List.map_cons, List.nodup_cons] at h
    rw [get?_cons]
    rcases List.mem_cons.1 hm with he | hm
    · obtain ⟨rfl, rfl⟩ := Prod.mk.inj he
      rw [if_pos rfl]
    · have hne : other ≠ key := by
        rintro rfl
        exact h.1 (List.mem_map.2 ⟨_, hm, rfl⟩)
      rw [if_neg hne, ih h.2 hm]

theorem get?_of_perm {entries others : Ordered κ α} (h : (keys entries).Nodup)
    (hp : entries.Perm others) (key : κ) : get? entries key = get? others key := by
  have hothers : (keys others).Nodup := (hp.map _).nodup_iff.1 h
  apply Option.ext
  intro value
  constructor
  · intro hv
    exact get?_of_mem hothers (hp.mem_iff.1 (mem_of_get? hv))
  · intro hv
    exact get?_of_mem h (hp.mem_iff.2 (mem_of_get? hv))

def tabulate (value? : κ → Option α) (names : List κ) : Ordered κ α :=
  names.filterMap fun name => (value? name).map fun value => (name, value)

omit [DecidableEq κ] in
theorem mem_tabulate {value? : κ → Option α} {names : List κ} {entry : κ × α}
    (h : entry ∈ tabulate value? names) : value? entry.1 = some entry.2 := by
  obtain ⟨name, -, hname⟩ := List.mem_filterMap.1 h
  obtain ⟨value, hv, rfl⟩ := Option.map_eq_some_iff.1 hname
  exact hv

omit [DecidableEq κ] in
theorem keys_tabulate_sublist (value? : κ → Option α) (names : List κ) :
    (keys (tabulate value? names)).Sublist names := by
  induction names with
  | nil => exact List.Sublist.refl _
  | cons name names ih =>
    rw [tabulate, List.filterMap_cons]
    cases value? name with
    | none => exact ih.cons name
    | some value => exact ih.cons_cons name

theorem eq_tabulate {entries : Ordered κ α} (h : (keys entries).Nodup) :
    entries = tabulate (get? entries) (keys entries) := by
  have hself : entries.filterMap (fun entry => (get? entries entry.1).map fun value => (entry.1, value)) =
      entries.filterMap some :=
    List.filterMap_congr fun entry he => by rw [get?_of_mem h he]; rfl
  rw [tabulate, keys, List.filterMap_map]
  exact List.filterMap_some.symm.trans hself.symm

/-! The order of the keys is that in which they first came, however often they came again. -/

section
variable [BEq κ] [LawfulBEq κ]

variable {entries more : Ordered κ α} {order : List κ}

theorem order_put (h : keys entries = order.eraseDups) (key : κ) (value : α) :
    keys (put key value entries) = (order ++ [key]).eraseDups := by
  rw [keys_put, eraseDups_concat, h]
  simp only [List.mem_eraseDups]

theorem order_putNew (h : keys entries = order.eraseDups) (key : κ) (value : α) :
    keys (putNew key value entries) = (order ++ [key]).eraseDups := by
  have hmem : (get? entries key).isSome = true ↔ key ∈ order := by
    rw [get?_isSome_iff, h, List.mem_eraseDups]
  rw [putNew, eraseDups_concat]
  by_cases hk : key ∈ order
  · rw [if_pos (hmem.2 hk), if_pos hk, h]
  · rw [if_neg (fun hs => hk (hmem.1 hs)), if_neg hk, ← h]
    simp [keys]

theorem order_putAll (h : keys entries = order.eraseDups) (more : Ordered κ α) :
    keys (putAll more entries) = (order ++ keys more).eraseDups := by
  induction more using List.reverseRecOn with
  | nil => simpa [putAll, keys] using h
  | append_singleton more entry ih =>
    obtain ⟨key, value⟩ := entry
    rw [putAll_concat, order_put ih]
    simp [keys]

theorem order_erase (h : keys entries = order.eraseDups) (key : κ) :
    keys (erase key entries) = (order.filter fun other => other ≠ key).eraseDups := by
  rw [eraseDups_filter, ← h, erase, keys, keys, List.filter_map]
  rfl

end

/-! What there is under a key. -/

theorem get?_putNew (key other : κ) (value : α) (entries : Ordered κ α) :
    get? (putNew key value entries) other =
      (get? entries other).or (if key = other then some value else none) := by
  rw [putNew]
  split
  · rename_i hs
    by_cases hk : key = other
    · subst hk
      obtain ⟨old, ho⟩ := Option.isSome_iff_exists.1 hs
      rw [ho]
      rfl
    · rw [if_neg hk]
      simp
  · rename_i hs
    have happend : get? (entries ++ [(key, value)]) other =
        (get? entries other).or (get? [(key, value)] other) := by
      simp only [get?, List.find?_append]
      cases entries.find? fun entry => entry.1 = other <;> rfl
    rw [happend, get?_cons, get?_nil]

theorem get?_putAll {more entries : Ordered κ α} (hm : (keys more).Nodup) (key : κ) :
    get? (putAll more entries) key = (get? more key).or (get? entries key) := by
  induction more generalizing entries with
  | nil => rfl
  | cons entry more ih =>
    obtain ⟨other, value⟩ := entry
    rw [keys, List.map_cons, List.nodup_cons] at hm
    have hput : putAll ((other, value) :: more) entries = putAll more (put other value entries) := rfl
    rw [hput, ih hm.2, get?_cons]
    by_cases hk : other = key
    · subst hk
      have hnone : get? more other = none := by
        rw [← Option.not_isSome_iff_eq_none, get?_isSome_iff]
        exact hm.1
      rw [hnone, get?_put_self, if_pos rfl]
      rfl
    · rw [get?_put_other (Ne.symm hk), if_neg hk]

theorem erase_put_other {key other : κ} (h : other ≠ key) (value : α) (entries : Ordered κ α) :
    erase key (put other value entries) = put other value (erase key entries) := by
  induction entries with
  | nil => simp [put, erase, h]
  | cons entry rest ih =>
    obtain ⟨third, old⟩ := entry
    by_cases ho : third = other
    · subst ho
      simp [put, erase, h]
    · rw [put, if_neg ho]
      by_cases hk : third = key
      · subst hk
        simpa [erase] using ih
      · simpa [erase, hk, put, ho] using ih

/-! A change of all values. -/

def mapValues (f : α → β) (entries : Ordered κ α) : Ordered κ β :=
  entries.map fun entry => (entry.1, f entry.2)

omit [DecidableEq κ] in
@[simp] theorem keys_mapValues (f : α → β) (entries : Ordered κ α) :
    keys (mapValues f entries) = keys entries := by
  simp [keys, mapValues]

theorem get?_mapValues (f : α → β) (entries : Ordered κ α) (key : κ) :
    get? (mapValues f entries) key = (get? entries key).map f := by
  induction entries with
  | nil => rfl
  | cons entry rest ih =>
    obtain ⟨other, old⟩ := entry
    have hcons : mapValues f ((other, old) :: rest) = (other, f old) :: mapValues f rest := rfl
    rw [hcons, get?_cons, get?_cons, ih]
    split <;> rfl

theorem put_mapValues (f : α → β) (key : κ) (value : α) (entries : Ordered κ α) :
    put key (f value) (mapValues f entries) = mapValues f (put key value entries) := by
  induction entries with
  | nil => rfl
  | cons entry rest ih =>
    obtain ⟨other, old⟩ := entry
    have hcons : mapValues f ((other, old) :: rest) = (other, f old) :: mapValues f rest := rfl
    rw [hcons, put, put, ih]
    split <;> rfl

theorem erase_mapValues (f : α → β) (key : κ) (entries : Ordered κ α) :
    erase key (mapValues f entries) = mapValues f (erase key entries) := by
  simp [erase, mapValues, List.filter_map, Function.comp_def]

end Ordered
end GreetingServer
