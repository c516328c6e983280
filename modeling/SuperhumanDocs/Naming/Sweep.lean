import Mathlib.Data.List.Basic
import Mathlib.Logic.Function.Basic

/-!
# Renaming from left to right

`sweep step done rest` replaces the items of `rest` one after the other, each by a function of the
items already replaced and of itself.

* What has been replaced is never changed again (`sweep_append`, `sweep_take`), so the result on a
  prefix depends on that prefix only.
* An order that every replacement keeps with the items before it holds pairwise (`sweep_pairwise`);
  a list whose items the step keeps is kept (`sweep_fixed`).
* A search through numbered candidates with different keys passes each taken key at most once
  (`untried_lt`), so it ends.
-/

set_option autoImplicit false

namespace Naming

/-! ## Candidates -/

section Candidates
variable {κ : Type} [DecidableEq κ] (candidate : Nat → κ) (taken : List κ)

/-- The number of taken keys that no candidate before the `k`-th has. -/
def untried (k : Nat) : Nat := (taken.filter fun key => ∀ j < k, candidate j ≠ key).length

/-- A candidate whose key is taken leaves fewer taken keys for the later ones. -/
theorem untried_lt (hinj : Function.Injective candidate) {k : Nat} (h : candidate k ∈ taken) :
    untried candidate taken (k + 1) < untried candidate taken k := by
  have hsplit : (taken.filter fun key => ∀ j < k + 1, candidate j ≠ key) =
      (taken.filter fun key => ∀ j < k, candidate j ≠ key).filter (candidate k ≠ ·) := by
    rw [List.filter_filter]
    apply List.filter_congr
    intro key _
    rw [← Bool.decide_and]
    apply decide_eq_decide.2
    refine ⟨fun hall => ⟨hall k (by omega), fun j hj => hall j (by omega)⟩, fun hall j hj => ?_⟩
    by_cases hjk : j = k
    · exact hjk ▸ hall.1
    · exact hall.2 j (by omega)
  rw [untried, hsplit]
  apply List.length_filter_lt_length_iff_exists.2
  refine ⟨candidate k, ?_, by simp⟩
  rw [List.mem_filter]
  refine ⟨h, decide_eq_true fun j hj heq => ?_⟩
  have := hinj heq
  omega

end Candidates

/-! ## The sweep -/

section Sweep
variable {β : Type} (step : List β → β → β)

/-- Replace the items of a list from left to right; `done` are those already replaced. -/
def sweep (done : List β) : List β → List β
  | [] => done
  | x :: rest => sweep (done ++ [step done x]) rest

@[simp] theorem sweep_nil (done : List β) : sweep step done [] = done := rfl

@[simp] theorem sweep_cons (done : List β) (x : β) (rest : List β) :
    sweep step done (x :: rest) = sweep step (done ++ [step done x]) rest := rfl

theorem sweep_append (done xs ys : List β) :
    sweep step done (xs ++ ys) = sweep step (sweep step done xs) ys := by
  induction xs generalizing done with
  | nil => rfl
  | cons x xs ih => exact ih _

@[simp] theorem sweep_length (done xs : List β) :
    (sweep step done xs).length = done.length + xs.length := by
  induction xs generalizing done with
  | nil => simp
  | cons x xs ih =>
    rw [sweep_cons, ih, List.length_append, List.length_singleton, List.length_cons]
    omega

/-- What has been replaced stays. -/
theorem sweep_take (done xs : List β) : (sweep step done xs).take done.length = done := by
  induction xs generalizing done with
  | nil => simp
  | cons x xs ih =>
    have h := congrArg (List.take done.length) (ih (done ++ [step done x]))
    rw [List.take_take, List.take_left'] at h
    · simpa using h
    · rfl

/-- The result on a prefix depends on that prefix only. -/
theorem sweep_prefix (xs ys : List β) :
    (sweep step [] (xs ++ ys)).take xs.length = sweep step [] xs := by
  have h := sweep_take step (sweep step [] xs) ys
  rw [sweep_append]
  simpa using h

/-- Each item is replaced by a function of the items already replaced and of itself. -/
theorem sweep_getElem? (earlier : List β) (x : β) (later : List β) :
    (sweep step [] (earlier ++ x :: later))[earlier.length]? =
      some (step (sweep step [] earlier) x) := by
  have h := sweep_prefix step (earlier ++ [x]) later
  rw [List.append_assoc, List.singleton_append, sweep_append step [] earlier [x]] at h
  have hlast := congrArg (·[earlier.length]?) h
  have hlength : (sweep step [] earlier).length = earlier.length := by simp
  rw [List.getElem?_take_of_lt (by simp)] at hlast
  rw [hlast, sweep_cons, sweep_nil, ← hlength, List.getElem?_concat_length]

/-- A relation that every replacement has with the items before it holds pairwise. -/
theorem sweep_pairwise {R : β → β → Prop} (hstep : ∀ done x, ∀ y ∈ done, R y (step done x))
    {done : List β} (hdone : done.Pairwise R) (xs : List β) :
    (sweep step done xs).Pairwise R := by
  induction xs generalizing done with
  | nil => exact hdone
  | cons x xs ih =>
    apply ih
    rw [List.pairwise_append]
    refine ⟨hdone, List.pairwise_singleton _ _, fun y hy z hz => ?_⟩
    rw [List.mem_singleton.1 hz]
    exact hstep done x y hy

/-- A list whose items the step keeps is kept. -/
theorem sweep_fixed {xs : List β}
    (hstep : ∀ earlier x later, xs = earlier ++ x :: later → step earlier x = x) :
    sweep step [] xs = xs := by
  suffices h : ∀ later earlier, xs = earlier ++ later → sweep step earlier later = xs from
    h xs [] rfl
  intro later
  induction later with
  | nil => intro earlier hxs; simpa using hxs.symm
  | cons x later ih =>
    intro earlier hxs
    rw [sweep_cons, hstep earlier x later hxs]
    apply ih
    simpa using hxs

end Sweep

end Naming
