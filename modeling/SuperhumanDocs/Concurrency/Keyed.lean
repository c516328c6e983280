import SuperhumanDocs.Concurrency.Guarded
import Mathlib.Data.List.Nodup

/-!
# A table of cells under keys of their own

Processes share a table. Each gets a key once, uses no other, and no key is given twice.

* `Keyed.Discipline.refines`: then nobody can tell the table from private cells.
-/

set_option autoImplicit false

namespace Concurrency

/-- How actions use a table: the key an action gives to its process, the key it uses and what it
does to the cell there. -/
structure Keyed (α κ K : Type) where
  gives : α → Option K
  uses : α → Option K
  use : Option κ → α → Option κ → Prop

namespace Keyed

variable {ι π κ α K : Type} [DecidableEq ι] [DecidableEq K] (keyed : Keyed α κ K)

/-- The effect of an action on the table. -/
def shared (table : K → Option κ) (a : α) (table' : K → Option κ) : Prop :=
  match keyed.uses a with
  | none => table' = table
  | some key => ∃ c, keyed.use (table key) a c ∧ table' = Function.update table key c

/-- The effect of an action on a cell that nobody else uses. -/
def alone (c : Option κ) (a : α) (c' : Option κ) : Prop :=
  if (keyed.uses a).isSome then keyed.use c a c' else c' = c

/-- The keys given. -/
def given (es : List (ι × α)) : List K :=
  es.filterMap fun e => keyed.gives e.2

/-- The processes keep to their keys, as long as they are well formed. -/
structure Discipline (process : π → α → π → Prop) (WellFormed : π → Prop) (has : π → Option K) :
    Prop where
  wellFormed : ∀ p a p', WellFormed p → process p a p' → WellFormed p'
  give : ∀ p a p' key, process p a p' → keyed.gives a = some key →
    has p = none ∧ has p' = some key ∧ keyed.uses a = some key
  keep : ∀ p a p', process p a p' → keyed.gives a = none → has p' = has p
  own : ∀ p a p' key, WellFormed p → process p a p' → keyed.gives a = none →
    keyed.uses a = some key → has p = some key

variable {keyed} {process : π → α → π → Prop} {WellFormed : π → Prop} {has : π → Option K}

omit [DecidableEq ι] in
theorem shared_some {table : K → Option κ} {a : α} {key : K} {c : Option κ}
    (huses : keyed.uses a = some key) (huse : keyed.use (table key) a c) :
    keyed.shared table a (Function.update table key c) := by
  simp only [shared, huses]
  exact ⟨c, huse, rfl⟩

/-- The cell of a process is the one under its key. -/
structure Agrees (keyed : Keyed α κ K) (has : π → Option K) (es : List (ι × α)) (procs : ι → π)
    (table : K → Option κ) (cells : ι → Option κ) : Prop where
  cell_eq : ∀ i key, has (procs i) = some key → cells i = table key
  cell_none : ∀ i, has (procs i) = none → cells i = none
  distinct : ∀ i j key, has (procs i) = some key → has (procs j) = some key → i = j
  given : ∀ i key, has (procs i) = some key → key ∈ keyed.given es
  fresh : ∀ key, key ∉ keyed.given es → table key = none

omit [DecidableEq ι] [DecidableEq K] in
theorem given_snoc (es : List (ι × α)) (i : ι) (a : α) :
    keyed.given (es ++ [(i, a)]) = keyed.given es ++ (keyed.gives a).toList := by
  cases h : keyed.gives a <;> simp [given, h]

namespace Agrees

variable {es : List (ι × α)} {procs : ι → π} {table : K → Option κ} {cells : ι → Option κ} {i : ι}
  {a : α} {p : π} {key : K}

omit [DecidableEq K] in
/-- A process keeps its key. -/
theorem keep (h : Agrees keyed has es procs table cells) (hgives : keyed.gives a = none)
    (hp : has p = has (procs i)) :
    Agrees keyed has (es ++ [(i, a)]) (Function.update procs i p) table cells := by
  have hhas (j : ι) : has (Function.update procs i p j) = has (procs j) := by
    by_cases hji : j = i
    · subst hji
      rw [Function.update_self, hp]
    · rw [Function.update_of_ne hji]
  have hgiven : keyed.given (es ++ [(i, a)]) = keyed.given es := by
    rw [given_snoc, hgives, Option.toList_none, List.append_nil]
  constructor
  · simpa only [hhas] using h.cell_eq
  · simpa only [hhas] using h.cell_none
  · simpa only [hhas] using h.distinct
  · simpa only [hhas, hgiven] using h.given
  · simpa only [hgiven] using h.fresh

omit [DecidableEq K] in
/-- A process gets a key: nothing is under it, and the cell of the process is empty too. -/
theorem give (h : Agrees keyed has es procs table cells) (hgives : keyed.gives a = some key)
    (hfresh : key ∉ keyed.given es) (hi : has (procs i) = none) (hp : has p = some key) :
    Agrees keyed has (es ++ [(i, a)]) (Function.update procs i p) table cells := by
  have hhas {j : ι} {key' : K} (hj : has (Function.update procs i p j) = some key') :
      j = i ∧ key' = key ∨ j ≠ i ∧ key' ≠ key ∧ has (procs j) = some key' := by
    by_cases hji : j = i
    · subst hji
      rw [Function.update_self, hp, Option.some.injEq] at hj
      exact .inl ⟨rfl, hj.symm⟩
    · rw [Function.update_of_ne hji] at hj
      refine .inr ⟨hji, ?_, hj⟩
      rintro rfl
      exact hfresh (h.given j _ hj)
  have hgiven : keyed.given (es ++ [(i, a)]) = keyed.given es ++ [key] := by
    rw [given_snoc, hgives, Option.toList_some]
  constructor
  · intro j key' hj
    rcases hhas hj with ⟨rfl, rfl⟩ | ⟨-, -, hj⟩
    · rw [h.fresh _ hfresh, h.cell_none _ hi]
    · exact h.cell_eq j key' hj
  · intro j hj
    by_cases hji : j = i
    · rw [hji]
      exact h.cell_none i hi
    · rw [Function.update_of_ne hji] at hj
      exact h.cell_none j hj
  · intro j k key' hj hk
    rcases hhas hj with ⟨rfl, rfl⟩ | ⟨-, hne, hj⟩ <;> rcases hhas hk with ⟨rfl, heq⟩ | ⟨-, hne', hk⟩
    · rfl
    · exact absurd rfl hne'
    · exact absurd heq hne
    · exact h.distinct j k key' hj hk
  · intro j key' hj
    rw [hgiven, List.mem_append, List.mem_singleton]
    rcases hhas hj with ⟨-, rfl⟩ | ⟨-, -, hj⟩
    · exact .inr rfl
    · exact .inl (h.given j key' hj)
  · intro key' hkey
    rw [hgiven, List.mem_append, not_or] at hkey
    exact h.fresh key' hkey.1

/-- A process writes under its key. -/
theorem write (h : Agrees keyed has es procs table cells) (hi : has (procs i) = some key)
    (c : Option κ) :
    Agrees keyed has es procs (Function.update table key c) (Function.update cells i c) := by
  constructor
  · intro j key' hj
    by_cases hji : j = i
    · subst hji
      rw [hi, Option.some.injEq] at hj
      rw [Function.update_self, ← hj, Function.update_self]
    · have hne : key' ≠ key := by
        rintro rfl
        exact hji (h.distinct j i _ hj hi)
      rw [Function.update_of_ne hji, Function.update_of_ne hne]
      exact h.cell_eq j key' hj
  · intro j hj
    have hji : j ≠ i := by
      rintro rfl
      rw [hi] at hj
      cases hj
    rw [Function.update_of_ne hji]
    exact h.cell_none j hj
  · exact h.distinct
  · exact h.given
  · intro key' hkey
    have hne : key' ≠ key := by
      rintro rfl
      exact hkey (h.given i _ hi)
    rw [Function.update_of_ne hne]
    exact h.fresh key' hkey

end Agrees

namespace Discipline

/-- **The step**: what the table allows, private cells allow. -/
theorem step (hkeyed : keyed.Discipline process WellFormed has) {es : List (ι × α)}
    {procs : ι → π} {table table' : K → Option κ} {cells : ι → Option κ} {i : ι} {a : α} {p : π}
    (hnodup : (keyed.given (es ++ [(i, a)])).Nodup)
    (h : Agrees keyed has es procs table cells) (hi : WellFormed (procs i))
    (hprocess : process (procs i) a p)
    (hshared : keyed.shared table a table') :
    ∃ cells', privately keyed.alone i cells a cells' ∧
      Agrees keyed has (es ++ [(i, a)]) (Function.update procs i p) table' cells' := by
  -- after the step the process has its key, and nothing is written yet
  have hhas : Agrees keyed has (es ++ [(i, a)]) (Function.update procs i p) table cells ∧
      ∀ key, keyed.uses a = some key → has p = some key := by
    cases hgives : keyed.gives a with
    | some key =>
      obtain ⟨hnone, hp, huses⟩ := hkeyed.give _ _ _ _ hprocess hgives
      rw [given_snoc, hgives, List.nodup_append] at hnodup
      have hfresh : key ∉ keyed.given es := fun hkey => hnodup.2.2 key hkey key (by simp) rfl
      refine ⟨h.give hgives hfresh hnone hp, fun key' hkey' => ?_⟩
      rw [huses] at hkey'
      rwa [← hkey']
    | none =>
      have hp := hkeyed.keep _ _ _ hprocess hgives
      refine ⟨h.keep hgives hp, fun key huses => ?_⟩
      rw [hp]
      exact hkeyed.own _ _ _ _ hi hprocess hgives huses
  unfold Keyed.shared at hshared
  cases huses : keyed.uses a with
  | none =>
    simp only [huses] at hshared
    subst hshared
    refine ⟨cells, ⟨cells i, by simp [alone, huses], ?_⟩, hhas.1⟩
    exact (Function.update_eq_self i cells).symm
  | some key =>
    simp only [huses] at hshared
    obtain ⟨c, huse, rfl⟩ := hshared
    have hkey : has (Function.update procs i p i) = some key := by
      rw [Function.update_self]
      exact hhas.2 key huses
    rw [← hhas.1.cell_eq i key hkey] at huse
    exact ⟨_, ⟨c, by simpa [alone, huses] using huse, rfl⟩, hhas.1.write hkey c⟩

/-- **A table of cells under keys of their own is as good as private cells.** -/
theorem refines (hkeyed : keyed.Discipline process WellFormed has) {ρ : Type}
    (table : ρ → K → Option κ) {access : ι → ρ → α → ρ → Prop} {procs : ι → π} {r : ρ}
    {es : List (ι × α)} {s : State ι π ρ} (hrun : Run process access ⟨procs, r⟩ es s)
    (haccess : ∀ i r a r', access i r a r' → keyed.shared (table r) a (table r'))
    (hnodup : (keyed.given es).Nodup) (hwf : ∀ i, WellFormed (procs i))
    (hstart : ∀ i, has (procs i) = none) (hempty : ∀ key, table r key = none) :
    ∃ cells, Run process (privately keyed.alone) ⟨procs, fun _ => none⟩ es ⟨s.procs, cells⟩ ∧
      (∀ i, WellFormed (s.procs i)) ∧ Agrees keyed has es s.procs (table s.resource) cells := by
  apply hrun.simulate_along (P := fun es => (keyed.given es).Nodup)
    (R := fun es procs r cells =>
      (∀ i, WellFormed (procs i)) ∧ Agrees keyed has es procs (table r) cells) hnodup
  · intro es e h
    rw [given, List.filterMap_append] at h
    exact (List.nodup_append.1 h).1
  · refine ⟨hwf, ?_, fun _ _ => rfl, ?_, ?_, fun key _ => hempty key⟩
    all_goals
      intro i
      simp [hstart i]
  · intro es s cells i a p r hes h hprocess hr
    obtain ⟨cells', hcells, hagrees⟩ := hkeyed.step hes h.2 (h.1 i) hprocess (haccess i _ a r hr)
    refine ⟨cells', hcells, fun j => ?_, hagrees⟩
    by_cases hji : j = i
    · subst hji
      rw [Function.update_self]
      exact hkeyed.wellFormed _ _ _ (h.1 j) hprocess
    · rw [Function.update_of_ne hji]
      exact h.1 j

end Discipline

end Keyed

end Concurrency
