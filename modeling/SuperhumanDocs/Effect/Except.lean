import Mathlib.Data.List.Forall2

/-!
# Computations that may fail

* `bind_eq_ok`: inversion of a sequence.
* `mapM_eq_ok`: a traversal succeeds when every element does.
-/

set_option autoImplicit false

namespace Effect

variable {ε α β : Type}

theorem bind_eq_ok {x : Except ε α} {f : α → Except ε β} {b : β} :
    x >>= f = .ok b ↔ ∃ a, x = .ok a ∧ f a = .ok b := by
  cases x <;> simp [bind, Except.bind]

theorem pure_eq_ok {a b : α} : (pure a : Except ε α) = .ok b ↔ a = b := by
  simp [pure, Except.pure]

theorem mapError_eq_ok {ε' : Type} {x : Except ε α} {f : ε → ε'} {a : α} :
    x.mapError f = .ok a ↔ x = .ok a := by
  cases x <;> simp [Except.mapError]

/-- The computation succeeds. -/
def Succeeds (x : Except ε α) : Prop := ∃ a, x = .ok a

theorem not_succeeds_error {e : ε} : ¬ Succeeds (.error e : Except ε α) := by
  rintro ⟨a, ⟨⟩⟩

theorem succeeds_mapError {ε' : Type} {x : Except ε α} {f : ε → ε'} :
    Succeeds (x.mapError f) ↔ Succeeds x := exists_congr fun _ => mapError_eq_ok

/-- **A traversal succeeds when every element does.** -/
theorem mapM_eq_ok {f : α → Except ε β} {xs : List α} {ys : List β} :
    xs.mapM f = .ok ys ↔ List.Forall₂ (fun x y => f x = .ok y) xs ys := by
  induction xs generalizing ys with
  | nil =>
    rw [List.mapM_nil, pure_eq_ok, List.forall₂_nil_left_iff]
    exact eq_comm
  | cons x xs ih =>
    rw [List.mapM_cons, bind_eq_ok]
    constructor
    · intro ⟨y, hy, h⟩
      obtain ⟨ys', hys, h⟩ := bind_eq_ok.1 h
      cases h
      exact .cons hy (ih.1 hys)
    · intro h
      cases h with
      | cons hy hys => exact ⟨_, hy, bind_eq_ok.2 ⟨_, ih.2 hys, rfl⟩⟩

theorem mapM_succeeds {f : α → Except ε β} {xs : List α} :
    Succeeds (xs.mapM f) ↔ ∀ x ∈ xs, Succeeds (f x) := by
  constructor
  · intro ⟨ys, h⟩ x hx
    obtain ⟨n, hn, rfl⟩ := List.getElem_of_mem hx
    have h := mapM_eq_ok.1 h
    exact ⟨_, h.get hn (h.length_eq ▸ hn)⟩
  · intro h
    induction xs with
    | nil => exact ⟨[], rfl⟩
    | cons x xs ih =>
      obtain ⟨y, hy⟩ := h x (.head _)
      obtain ⟨ys, hys⟩ := ih fun x hx => h x (.tail _ hx)
      exact ⟨y :: ys, mapM_eq_ok.2 (.cons hy (mapM_eq_ok.1 hys))⟩

end Effect
