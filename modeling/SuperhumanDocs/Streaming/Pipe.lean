import Mathlib.Data.List.Chain
import Mathlib.Logic.Relation

/-!
# Pipes

A source hands out items a few at a time, a sink takes them a few at a time, and in between they
wait in order. When the items that are left in the source are known (`Rest`) and the sink accounts
for what it took (`Took`), then no item is lost, taken twice or taken out of turn, in whatever
order the two sides move and however the items are cut into chunks (`Pipe.accounted`). When every
chunk has an item, the two sides cannot go on for ever (`Pipe.length_le`).
-/

set_option autoImplicit false

namespace Streaming

open Relation (ReflTransGen)

/-- A source, the items that wait, and a sink. -/
structure Pipe (S K α : Type) where
  source : S
  pending : List α
  sink : K

section
variable {S K α : Type} (pull : S → List α → S → Prop) (push : K → List α → K → Prop)

inductive Pipe.Step : Pipe S K α → Pipe S K α → Prop
  | pull {source source' : S} {items pending : List α} {sink : K} :
      pull source items source' → Step ⟨source, pending, sink⟩ ⟨source', pending ++ items, sink⟩
  | push {source : S} {items pending : List α} {sink sink' : K} :
      push sink items sink' → Step ⟨source, items ++ pending, sink⟩ ⟨source, pending, sink'⟩

variable {pull push} {Rest : S → List α → Prop} {Took : List α → K → Prop}
  {pipe pipe' : Pipe S K α} {rest : List α}

/-- **Every item is in the sink, between, or still in the source**, in this order. -/
theorem Pipe.accounted
    (hpull : ∀ {source items source' rest}, Rest source rest → pull source items source' →
      ∃ rest', rest = items ++ rest' ∧ Rest source' rest')
    (hpush : ∀ {taken sink items sink'}, Took taken sink → push sink items sink' →
      Took (taken ++ items) sink')
    (hrest : Rest pipe.source rest) (htook : Took [] pipe.sink)
    (h : ReflTransGen (Pipe.Step pull push) pipe pipe') :
    ∃ taken rest', pipe.pending ++ rest = taken ++ (pipe'.pending ++ rest') ∧
      Rest pipe'.source rest' ∧ Took taken pipe'.sink := by
  induction h with
  | refl => exact ⟨[], rest, rfl, hrest, htook⟩
  | tail _ hstep ih =>
    obtain ⟨taken, left, hitems, hleft, htaken⟩ := ih
    cases hstep with
    | pull hpulled =>
      obtain ⟨left', rfl, hleft'⟩ := hpull hleft hpulled
      exact ⟨taken, left', by simpa using hitems, hleft', htaken⟩
    | push hpushed =>
      exact ⟨_, left, by simpa using hitems, hleft, hpush htaken hpushed⟩

/-- **How often the two sides move**: each item counts once for the source, which hands out no more
items than it loses, and once while it waits. -/
theorem Pipe.length_le {Size : S → ℕ → Prop}
    (hpull : ∀ {source items source' n}, Size source n → pull source items source' →
      ∃ n', Size source' n' ∧ n' < n ∧ n' + items.length ≤ n)
    (hpush : ∀ {sink items sink'}, push sink items sink' → items ≠ [])
    {n : ℕ} (hsize : Size pipe.source n) {pipes : List (Pipe S K α)}
    (h : List.IsChain (Pipe.Step pull push) (pipe :: pipes)) :
    pipes.length ≤ 2 * n + pipe.pending.length := by
  induction pipes generalizing pipe n with
  | nil => exact Nat.zero_le _
  | cons next pipes ih =>
    obtain ⟨hstep, hchain⟩ := List.isChain_cons_cons.1 h
    cases hstep with
    | pull hpulled =>
      obtain ⟨n', hsize', hlt, hle⟩ := hpull hsize hpulled
      have hrest := ih hsize' hchain
      simp only [List.length_append, List.length_cons] at hrest ⊢
      omega
    | @push source items pending sink sink' hpushed =>
      have hpos := List.length_pos_of_ne_nil (hpush hpushed)
      have hrest := @ih ⟨source, pending, sink'⟩ n hsize hchain
      simp only [List.length_append, List.length_cons] at hrest ⊢
      omega

end

end Streaming
