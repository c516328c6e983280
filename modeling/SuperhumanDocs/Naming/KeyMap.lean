import Mathlib.Data.List.Basic
import Mathlib.Data.List.Nodup

/-!
# Maps keyed by a normal form of the name

A `KeyMap key β` holds values under names, at most one for the names of one key. Assigning to a
name whose key is taken keeps the old name and replaces the value.

* `find_ofList`: after a list of assignments a name finds the value assigned last to its key.
* `ofList_entries`: assignments to names with different keys all stay.
-/

set_option autoImplicit false

namespace Naming

/-- Values under names with pairwise different keys. -/
structure KeyMap {α κ : Type} (key : α → κ) (β : Type) where
  entries : List (α × β)
  distinct : (entries.map fun entry => key entry.1).Nodup

section
variable {α κ β : Type} [DecidableEq κ] {key : α → κ}

/-! ## Assignment -/

/-- Replace the value under a key, or add an entry. -/
def assignEntry (key : α → κ) (name : α) (value : β) : List (α × β) → List (α × β)
  | [] => [(name, value)]
  | entry :: rest =>
    if key entry.1 = key name then (entry.1, value) :: rest
    else entry :: assignEntry key name value rest

theorem assignEntry_keys (name : α) (value : β) (entries : List (α × β)) :
    (assignEntry key name value entries).map (fun entry => key entry.1) =
      if key name ∈ entries.map (fun entry => key entry.1)
      then entries.map (fun entry => key entry.1)
      else entries.map (fun entry => key entry.1) ++ [key name] := by
  induction entries with
  | nil => rfl
  | cons entry rest ih =>
    by_cases h : key entry.1 = key name
    · simp [assignEntry, h]
    · rw [assignEntry, if_neg h, List.map_cons, ih, List.map_cons]
      by_cases hrest : key name ∈ rest.map (fun entry => key entry.1)
      · rw [if_pos hrest, if_pos (List.mem_cons_of_mem _ hrest)]
      · rw [if_neg hrest, if_neg (by simpa [Ne.symm h] using hrest), List.cons_append]

theorem assignEntry_distinct {entries : List (α × β)}
    (h : (entries.map fun entry => key entry.1).Nodup) (name : α) (value : β) :
    ((assignEntry key name value entries).map fun entry => key entry.1).Nodup := by
  rw [assignEntry_keys]
  by_cases hmem : key name ∈ entries.map fun entry => key entry.1
  · rwa [if_pos hmem]
  · rw [if_neg hmem]
    exact List.Nodup.append h (List.nodup_singleton _) (by simpa using hmem)

/-- A new key goes to the end. -/
theorem assignEntry_new {name : α} {entries : List (α × β)}
    (h : ∀ entry ∈ entries, key entry.1 ≠ key name) (value : β) :
    assignEntry key name value entries = entries ++ [(name, value)] := by
  induction entries with
  | nil => rfl
  | cons entry rest ih =>
    rw [assignEntry, if_neg (h entry (.head _)), ih fun e he => h e (.tail _ he), List.cons_append]

namespace KeyMap

def empty : KeyMap key β := { entries := [], distinct := List.nodup_nil }

/-- `m[name] = value`. -/
def assign (m : KeyMap key β) (name : α) (value : β) : KeyMap key β where
  entries := assignEntry key name value m.entries
  distinct := assignEntry_distinct m.distinct name value

@[simp] theorem assign_entries (m : KeyMap key β) (name : α) (value : β) :
    (m.assign name value).entries = assignEntry key name value m.entries := rfl

/-- The assignments of a list, one after the other. -/
def ofList (items : List (α × β)) : KeyMap key β :=
  items.foldl (fun m item => m.assign item.1 item.2) empty

/-! ## Lookup -/

/-- The value under the key of a name. -/
def find (m : KeyMap key β) (name : α) : Option β :=
  (m.entries.find? fun entry => key entry.1 = key name).map (·.2)

theorem find_of_mem {m : KeyMap key β} {entry : α × β} (h : entry ∈ m.entries) :
    m.find entry.1 = some entry.2 := by
  obtain ⟨entries, hdistinct⟩ := m
  unfold find
  induction entries with
  | nil => cases h
  | cons first rest ih =>
    simp only [List.map_cons, List.nodup_cons] at hdistinct
    by_cases hkey : key first.1 = key entry.1
    · rcases List.mem_cons.1 h with rfl | hrest
      · simp
      · exact absurd (hkey ▸ List.mem_map_of_mem (f := fun e => key e.1) hrest) hdistinct.1
    · rw [List.find?_cons_of_neg (by simpa using hkey)]
      rcases List.mem_cons.1 h with rfl | hrest
      · exact absurd rfl hkey
      · exact ih hdistinct.2 hrest

theorem find_assign (m : KeyMap key β) (name : α) (value : β) (other : α) :
    (m.assign name value).find other = if key name = key other then some value else m.find other := by
  unfold find
  rw [assign_entries]
  generalize m.entries = entries
  induction entries with
  | nil => by_cases h : key name = key other <;> simp [assignEntry, h]
  | cons entry rest ih =>
    by_cases hentry : key entry.1 = key name
    · by_cases h : key name = key other
      · simp [assignEntry, hentry, h]
      · simp [assignEntry, hentry, h]
    · simp only [assignEntry, if_neg hentry]
      by_cases hother : key entry.1 = key other
      · have hname : key name ≠ key other := fun h => hentry (hother.trans h.symm)
        rw [List.find?_cons_of_pos (by simpa using hother), if_neg hname,
          List.find?_cons_of_pos (by simpa using hother)]
      · rw [List.find?_cons_of_neg (by simpa using hother),
          List.find?_cons_of_neg (by simpa using hother)]
        exact ih

/-- The value assigned last to the key of a name. -/
def latest (key : α → κ) (name : α) : List (α × β) → Option β
  | [] => none
  | item :: rest =>
    (latest key name rest).or (if key item.1 = key name then some item.2 else none)

/-- **A name finds the value assigned last to its key.** -/
theorem find_ofList (items : List (α × β)) (name : α) :
    (ofList items : KeyMap key β).find name = latest key name items := by
  suffices h : ∀ m : KeyMap key β, (items.foldl (fun m item => m.assign item.1 item.2) m).find name =
      (latest key name items).or (m.find name) by
    rw [ofList, h empty]
    cases latest key name items <;> rfl
  induction items with
  | nil => intro m; rfl
  | cons item rest ih =>
    intro m
    rw [List.foldl_cons, ih, find_assign, latest, Option.or_assoc]
    congr 1
    by_cases h : key item.1 = key name <;> simp [h]

theorem latest_eq_none {name : α} {items : List (α × β)} (h : latest key name items = none) :
    ∀ item ∈ items, key item.1 ≠ key name := by
  induction items with
  | nil => simp
  | cons first rest ih =>
    rw [latest, Option.or_eq_none_iff] at h
    intro item hitem heq
    rcases List.mem_cons.1 hitem with rfl | hitem
    · rw [if_pos heq] at h
      cases h.2
    · exact ih h.1 item hitem heq

/-- The last assignment to a key is the last of the list with that key. -/
theorem latest_eq_some {name : α} {value : β} {items : List (α × β)}
    (h : latest key name items = some value) :
    ∃ earlier item later, items = earlier ++ item :: later ∧ item.2 = value ∧
      key item.1 = key name ∧ ∀ other ∈ later, key other.1 ≠ key name := by
  induction items with
  | nil => cases h
  | cons item rest ih =>
    rw [latest] at h
    cases hrest : latest key name rest with
    | some last =>
      rw [hrest, Option.some_or] at h
      obtain ⟨earlier, found, later, hitems, hfound⟩ := ih (hrest.trans h)
      exact ⟨item :: earlier, found, later, by rw [hitems, List.cons_append], hfound⟩
    | none =>
      rw [hrest, Option.none_or] at h
      by_cases hkey : key item.1 = key name
      · rw [if_pos hkey] at h
        exact ⟨[], item, rest, rfl, Option.some.inj h, hkey, latest_eq_none hrest⟩
      · rw [if_neg hkey] at h
        cases h

/-- Lists of assignments that match find values that match. -/
theorem latest_rel {β' : Type} {R : β → β' → Prop} {items : List (α × β)} {items' : List (α × β')}
    (h : List.Forall₂ (fun item item' => item.1 = item'.1 ∧ R item.2 item'.2) items items')
    (name : α) : Option.Rel R (latest key name items) (latest key name items') := by
  induction h with
  | nil => exact .none
  | @cons item item' items items' hitem _ ih =>
    rw [latest, latest, hitem.1]
    generalize latest key name items = found at ih ⊢
    generalize latest key name items' = found' at ih ⊢
    cases ih with
    | some hfound => exact .some hfound
    | none =>
      by_cases hkey : key item'.1 = key name
      · rw [if_pos hkey, if_pos hkey]
        exact .some hitem.2
      · rw [if_neg hkey, if_neg hkey]
        exact .none

/-- **Assignments to different keys all stay, in order.** -/
theorem ofList_entries {items : List (α × β)}
    (h : items.Pairwise fun a b => key a.1 ≠ key b.1) :
    (ofList items : KeyMap key β).entries = items := by
  suffices hfold : ∀ (later : List (α × β)) (m : KeyMap key β), m.entries ++ later = items →
      (later.foldl (fun m item => m.assign item.1 item.2) m).entries = items from
    hfold items empty rfl
  intro later
  induction later with
  | nil => intro m hm; simpa using hm
  | cons item later ih =>
    intro m hm
    rw [List.foldl_cons]
    apply ih
    rw [← hm, List.pairwise_append] at h
    have hnew : ∀ entry ∈ m.entries, key entry.1 ≠ key item.1 :=
      fun entry hentry => h.2.2 entry hentry item (.head _)
    rw [assign_entries, assignEntry_new hnew, ← hm, List.append_assoc, List.singleton_append]

end KeyMap

end

end Naming
