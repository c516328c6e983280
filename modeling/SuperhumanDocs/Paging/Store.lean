import Mathlib.Data.List.Basic

/-!
# A store with a log of its writes

A `Store` holds at most one value for each key and remembers the keys that were written, oldest
first. The length of the log is the version of the store; a key is `Touched` since a version when
it was written after it.

* `touched_writeAll`: what is touched since a version is what was written since.
-/

set_option autoImplicit false

namespace Paging

/-- A store of values by key. -/
structure Store {κ α : Type} (key : α → κ) where
  find : κ → Option α
  log : List κ
  key_find : ∀ k a, find k = some a → key a = k

namespace Store

variable {κ α : Type} {key : α → κ}

def empty (key : α → κ) : Store key where
  find _ := none
  log := []
  key_find _ _ h := by cases h

/-- How often the store was written. -/
def version (s : Store key) : Nat := s.log.length

/-- The key was written after the version. -/
def Touched (s : Store key) (since : Nat) (k : κ) : Prop := k ∈ s.log.drop since

instance [DecidableEq κ] (s : Store key) (since : Nat) (k : κ) : Decidable (s.Touched since k) :=
  inferInstanceAs (Decidable (k ∈ s.log.drop since))

theorem not_touched_version (s : Store key) (k : κ) : ¬ s.Touched s.version k := by
  simp [Touched, version]

variable [DecidableEq κ]

/-- Write the value of a key. -/
def write (s : Store key) (a : α) : Store key where
  find k := if k = key a then some a else s.find k
  log := s.log ++ [key a]
  key_find k b h := by
    split at h
    · rename_i hk
      cases h
      exact hk.symm
    · exact s.key_find k b h

@[simp] theorem find_write (s : Store key) (a : α) (k : κ) :
    (s.write a).find k = if k = key a then some a else s.find k := rfl

def writeAll (s : Store key) (as : List α) : Store key := as.foldl write s

theorem log_writeAll (s : Store key) (as : List α) : (s.writeAll as).log = s.log ++ as.map key := by
  induction as generalizing s with
  | nil => simp [writeAll]
  | cons a as ih => rw [show s.writeAll (a :: as) = (s.write a).writeAll as from rfl, ih]; simp [write]

/-- **What is touched since a version is what was written since.** -/
theorem touched_writeAll {s : Store key} {as : List α} {since : Nat} (h : since ≤ s.version)
    (k : κ) : (s.writeAll as).Touched since k ↔ s.Touched since k ∨ k ∈ as.map key := by
  rw [Touched, log_writeAll, List.drop_append_of_le_length h, List.mem_append]
  exact Iff.rfl

end Store

end Paging
