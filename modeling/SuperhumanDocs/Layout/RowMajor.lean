import Mathlib.Algebra.Group.Nat.Defs
import Mathlib.Data.List.Forall2
import Mathlib.Data.List.ReduceOption

/-!
# Tables stored row by row

A table of rows of one width is stored as the concatenation of its rows, and read back by the
index of a row (`rowAt`), with index arithmetic in machine words (`Addressable`). The cells of a
row are what is left of its columns when some are left out (`forall₂_reduceOption`).
-/

set_option autoImplicit false

namespace Layout

section
variable {α : Type}

def rowAt (values : List α) (index width : Nat) : List α := (values.drop (index * width)).take width

/-- **A row is read back from the stored table.** -/
theorem rowAt_flatten {rows : List (List α)} {width : Nat} (h : ∀ row ∈ rows, row.length = width)
    {index : Nat} {row : List α} (hrow : rows[index]? = some row) :
    rowAt rows.flatten index width = row := by
  induction rows generalizing index with
  | nil => simp at hrow
  | cons first rows ih =>
    have hfirst := h first (.head _)
    cases index with
    | zero =>
      obtain rfl : first = row := by simpa using hrow
      simp [rowAt, hfirst]
    | succ index =>
      rw [List.getElem?_cons_succ] at hrow
      rw [← ih (fun r hr => h r (.tail _ hr)) hrow, rowAt, rowAt, Nat.succ_mul, Nat.add_comm,
        ← List.drop_drop, List.flatten_cons, List.drop_left' hfirst]

end

/-! ## Addresses -/

/-- A number as a machine word. -/
def word (n : Nat) : Nat := n % 2 ^ 64

/-- The bounds of a row are computed without overflow and lie in the table. -/
structure Addressable (index width length : Nat) : Prop where
  start_eq : word (index * width) = index * width
  stop_eq : word (word (index * width) + width) = index * width + width
  stop_le : index * width + width ≤ length

/-- **Every row of a table that can be addressed is in range.** -/
theorem addressable {rowCount width length index : Nat} (hfits : rowCount * width < 2 ^ 64)
    (hlength : word (rowCount * width) ≤ length) (hindex : index < rowCount) :
    Addressable index width length := by
  have hstop : index * width + width ≤ rowCount * width := by
    rw [← Nat.succ_mul]
    exact Nat.mul_le_mul_right width hindex
  rw [word, Nat.mod_eq_of_lt hfits] at hlength
  have hstart : word (index * width) = index * width := Nat.mod_eq_of_lt (by omega)
  exact ⟨hstart, by rw [hstart]; exact Nat.mod_eq_of_lt (by omega), Nat.le_trans hstop hlength⟩

/-! ## Rows with cells left out -/

section
variable {α β γ : Type}

theorem forall₂_through {R : α → β → Prop} {S : β → γ → Prop} {xs : List α} {ys : List β}
    {zs : List γ} (h : List.Forall₂ R xs ys) (h' : List.Forall₂ S ys zs) :
    List.Forall₂ (fun x z => ∃ y, R x y ∧ S y z) xs zs := by
  induction h generalizing zs with
  | nil =>
    cases h'
    exact .nil
  | cons hr _ ih =>
    cases h' with
    | cons hs h' => exact .cons ⟨_, hr, hs⟩ (ih h')

/-- The elements that are not left out. -/
theorem forall₂_reduceOption {R : α → Option β → Prop} {kept : α → Bool} {xs : List α}
    {ys : List (Option β)} (h : List.Forall₂ R xs ys)
    (hkept : ∀ x y, R x y → y.isSome = kept x) :
    List.Forall₂ (fun x y => R x (some y)) (xs.filter kept) ys.reduceOption := by
  induction h with
  | nil => exact .nil
  | @cons x y xs ys hr _ ih =>
    have hx := hkept x y hr
    cases y with
    | none =>
      rw [List.filter_cons_of_neg (by simp [← hx]), List.reduceOption_cons_of_none]
      exact ih
    | some y =>
      rw [List.filter_cons_of_pos (by simp [← hx]), List.reduceOption_cons_of_some]
      exact .cons hr ih

/-- Columns and their values, side by side with what the values become. -/
theorem forall₂_zip {R : α → β → Prop} {columns : List γ} {xs : List α} {ys : List β}
    (h : List.Forall₂ R (xs.take columns.length) ys) :
    List.Forall₂ (fun pair pair' => pair'.1 = pair.1 ∧ R pair.2 pair'.2) (columns.zip xs)
      (columns.zip ys) := by
  induction columns generalizing xs ys with
  | nil => simp
  | cons column columns ih =>
    cases xs with
    | nil =>
      rw [List.take_nil, List.forall₂_nil_left_iff] at h
      simp [h]
    | cons x xs =>
      rw [List.length_cons, List.take_succ_cons] at h
      cases h with
      | cons hr h => exact .cons ⟨rfl, hr⟩ (ih h)

/-- What is made of each element by a choice. -/
theorem forall₂_chosen {R : α → β → Prop} {f : α → β → γ} {xs : List α} {zs : List γ}
    (h : List.Forall₂ (fun x z => ∃ y, R x y ∧ z = f x y) xs zs) :
    ∃ ys, List.Forall₂ R xs ys ∧ zs = (xs.zip ys).map fun pair => f pair.1 pair.2 := by
  induction h with
  | nil => exact ⟨[], .nil, rfl⟩
  | cons hchoice _ ih =>
    obtain ⟨y, hr, rfl⟩ := hchoice
    obtain ⟨ys, hys, rfl⟩ := ih
    exact ⟨y :: ys, .cons hr hys, rfl⟩

/-- Columns side by side with what becomes of them. -/
theorem forall₂_zip_self {R : α → β → Prop} {xs : List α} {ys : List β}
    (h : List.Forall₂ R xs ys) :
    List.Forall₂ (fun x pair => pair.1 = x ∧ R x pair.2) xs (xs.zip ys) := by
  induction h with
  | nil => exact .nil
  | cons hr _ ih => exact .cons ⟨rfl, hr⟩ ih

end

end Layout
