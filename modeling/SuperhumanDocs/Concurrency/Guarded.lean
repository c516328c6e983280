import Mathlib.Logic.Function.Basic

/-!
# Processes that share a guarded resource

Any number of processes take steps in any order; a step of a process has an effect on what they
share. What is shared may be private after all (`privately`): then each process can be looked at
on its own (`Run.privately_invariant`). Or it is one cell behind a lock (`Guard.shared`): if the
processes keep to the lock (`Guard.Discipline`), nobody can tell it from private cells.

* `Guard.Discipline.refines`: a run with the shared cell is one with private cells.
-/

set_option autoImplicit false

namespace Concurrency

section
variable {ι π ρ ρ' κ α : Type} [DecidableEq ι]

structure State (ι π ρ : Type) where
  procs : ι → π
  resource : ρ

/-- The runs from a state: the steps `process` allows, with effects `access` allows. -/
inductive Run (process : π → α → π → Prop) (access : ι → ρ → α → ρ → Prop) (start : State ι π ρ) :
    List (ι × α) → State ι π ρ → Prop
  | nil : Run process access start [] start
  | snoc {es : List (ι × α)} {s : State ι π ρ} {i : ι} {a : α} {p : π} {r : ρ} :
      Run process access start es s → process (s.procs i) a p → access i s.resource a r →
      Run process access start (es ++ [(i, a)]) ⟨Function.update s.procs i p, r⟩

variable {process : π → α → π → Prop} {access : ι → ρ → α → ρ → Prop}
  {access' : ι → ρ' → α → ρ' → Prop} {start s : State ι π ρ} {es : List (ι × α)}

/-- **Forward simulation** of what is shared, along runs of a kind that is closed under prefixes;
the relation may speak of the steps taken. -/
theorem Run.simulate_along {P : List (ι × α) → Prop}
    {R : List (ι × α) → (ι → π) → ρ → ρ' → Prop} {t₀ : ρ'} (h : Run process access start es s)
    (hes : P es) (hclosed : ∀ es e, P (es ++ [e]) → P es)
    (hstart : R [] start.procs start.resource t₀)
    (hstep : ∀ es (s : State ι π ρ) t i a p r, P (es ++ [(i, a)]) →
      R es s.procs s.resource t → process (s.procs i) a p → access i s.resource a r →
      ∃ t', access' i t a t' ∧ R (es ++ [(i, a)]) (Function.update s.procs i p) r t') :
    ∃ t, Run process access' ⟨start.procs, t₀⟩ es ⟨s.procs, t⟩ ∧ R es s.procs s.resource t := by
  induction h with
  | nil => exact ⟨t₀, .nil, hstart⟩
  | snoc _ hprocess haccess ih =>
    obtain ⟨t, hrun, hrel⟩ := ih (hclosed _ _ hes)
    obtain ⟨t', haccess', hrel'⟩ := hstep _ _ t _ _ _ _ hes hrel hprocess haccess
    exact ⟨t', .snoc (s := ⟨_, t⟩) hrun hprocess haccess', hrel'⟩

theorem Run.simulate {R : (ι → π) → ρ → ρ' → Prop} {t₀ : ρ'} (h : Run process access start es s)
    (hstart : R start.procs start.resource t₀)
    (hstep : ∀ (s : State ι π ρ) t i a p r, R s.procs s.resource t → process (s.procs i) a p →
      access i s.resource a r → ∃ t', access' i t a t' ∧ R (Function.update s.procs i p) r t') :
    ∃ t, Run process access' ⟨start.procs, t₀⟩ es ⟨s.procs, t⟩ ∧ R s.procs s.resource t :=
  h.simulate_along (P := fun _ => True) (R := fun _ => R) trivial (fun _ _ _ => trivial)
    hstart fun _ s t i a p r _ => hstep s t i a p r

/-! ## Private resources -/

def own (i : ι) (es : List (ι × α)) : List α :=
  es.filterMap fun e => if e.1 = i then some e.2 else none

theorem own_snoc_self (i : ι) (es : List (ι × α)) (a : α) :
    own i (es ++ [(i, a)]) = own i es ++ [a] := by
  simp [own]

theorem own_snoc_other {i j : ι} (h : j ≠ i) (es : List (ι × α)) (a : α) :
    own i (es ++ [(j, a)]) = own i es := by
  simp [own, h]

/-- Each process uses a cell of its own. -/
def privately (use : κ → α → κ → Prop) (i : ι) (cells : ι → κ) (a : α) (cells' : ι → κ) : Prop :=
  ∃ c, use (cells i) a c ∧ cells' = Function.update cells i c

/-- **With private cells an invariant of one process is one of all.** -/
theorem Run.privately_invariant {use : κ → α → κ → Prop} {start s : State ι π (ι → κ)}
    {Inv : π → κ → List α → Prop} (h : Run process (privately use) start es s)
    {i : ι} (hstart : Inv (start.procs i) (start.resource i) [])
    (hstep : ∀ p c acts a p' c', Inv p c acts → process p a p' → use c a c' →
      Inv p' c' (acts ++ [a])) : Inv (s.procs i) (s.resource i) (own i es) := by
  induction h with
  | nil => exact hstart
  | @snoc es s j a p r _ hprocess haccess ih =>
    obtain ⟨c, huse, rfl⟩ := haccess
    by_cases hj : j = i
    · subst hj
      simpa only [own_snoc_self, Function.update_self] using hstep _ _ _ _ _ _ ih hprocess huse
    · simpa only [own_snoc_other hj, Function.update_of_ne (Ne.symm hj)] using ih

end

/-! ## A cell behind a lock -/

structure Locked (ι κ : Type) where
  owner : Option ι
  content : κ

/-- How actions use a lock and the cell behind it: taking the lock needs it to be free, giving it
back does nothing unless one has it, and the other actions use the cell. Nothing keeps a process
that does not have the lock away from the cell. -/
structure Guard (α κ : Type) where
  acquires : α → Bool
  releases : α → Bool
  use : κ → α → κ → Prop

namespace Guard

variable {ι π κ α : Type} [DecidableEq ι] (guard : Guard α κ)

inductive shared (i : ι) : Locked ι κ → α → Locked ι κ → Prop
  | acquire {a : α} {c : κ} : guard.acquires a = true → shared i ⟨none, c⟩ a ⟨some i, c⟩
  | release {a : α} {owner : Option ι} {c : κ} : guard.acquires a = false →
      guard.releases a = true → shared i ⟨owner, c⟩ a ⟨if owner = some i then none else owner, c⟩
  | use {a : α} {owner : Option ι} {c c' : κ} : guard.acquires a = false →
      guard.releases a = false → guard.use c a c' → shared i ⟨owner, c⟩ a ⟨owner, c'⟩

/-- The effect of an action on a cell that nobody else uses. -/
def alone (c : κ) (a : α) (c' : κ) : Prop :=
  if guard.acquires a || guard.releases a then c' = c else guard.use c a c'

/-- The processes keep to the lock: they use the cell when they have the lock, and they overwrite
the cell before they are `inside`, that is, before they rely on what is in it. -/
structure Discipline (process : π → α → π → Prop) (holds inside : π → Prop) : Prop where
  holds_of_inside : ∀ p, inside p → holds p
  acquire : ∀ p a p', process p a p' → guard.acquires a = true → ¬ holds p ∧ holds p' ∧ ¬ inside p'
  release : ∀ p a p', process p a p' → guard.releases a = true → ¬ holds p'
  keep : ∀ p a p', process p a p' → guard.acquires a = false → guard.releases a = false →
    (holds p' ↔ holds p)
  untouched : ∀ p a p' c c', process p a p' → guard.acquires a = false →
    guard.releases a = false → ¬ holds p → guard.use c a c' → c' = c
  enter : ∀ p a p' c c' d, process p a p' → guard.acquires a = false → guard.releases a = false →
    ¬ inside p → guard.use c a c' → ∃ d', guard.use d a d' ∧ (inside p' → d' = c')

namespace Discipline

variable {guard} {process : π → α → π → Prop} {holds inside : π → Prop}

/-- The processes that have the lock, and what those inside see. -/
structure Agrees (holds inside : π → Prop) (procs : ι → π) (locked : Locked ι κ)
    (cells : ι → κ) : Prop where
  holds_iff : ∀ i, holds (procs i) ↔ locked.owner = some i
  content_eq : ∀ i, inside (procs i) → cells i = locked.content

omit [DecidableEq ι] in
theorem Agrees.not_holds {procs : ι → π} {locked : Locked ι κ} {cells : ι → κ} {i j : ι}
    (hagrees : Agrees holds inside procs locked cells) (hne : j ≠ i) (hj : holds (procs j)) :
    ¬ holds (procs i) := by
  intro hi
  have howner := ((hagrees.holds_iff j).mp hj).symm.trans ((hagrees.holds_iff i).mp hi)
  exact hne (Option.some.inj howner)

omit [DecidableEq ι] in
/-- What the use of the shared cell does to it, the use of the private one does, as far as the
process then relies on it. -/
theorem use_alone (h : guard.Discipline process holds inside) {procs : ι → π} {locked : Locked ι κ}
    {cells : ι → κ} {i : ι} {a : α} {p : π} {c' : κ}
    (hagrees : Agrees holds inside procs locked cells) (hprocess : process (procs i) a p)
    (hacquires : guard.acquires a = false) (hreleases : guard.releases a = false)
    (huse : guard.use locked.content a c') :
    ∃ d', guard.use (cells i) a d' ∧ (inside p → d' = c') := by
  by_cases hinside : inside (procs i)
  · rw [hagrees.content_eq i hinside]
    exact ⟨c', huse, fun _ => rfl⟩
  · exact h.enter _ _ _ _ _ _ hprocess hacquires hreleases hinside huse

/-- **The step**: what the shared cell allows, a private one allows. -/
theorem step (h : guard.Discipline process holds inside) {procs : ι → π}
    {locked locked' : Locked ι κ} {cells : ι → κ} {i : ι} {a : α} {p : π}
    (hagrees : Agrees holds inside procs locked cells)
    (hprocess : process (procs i) a p) (hshared : guard.shared i locked a locked') :
    ∃ cells', privately guard.alone i cells a cells' ∧
      Agrees holds inside (Function.update procs i p) locked' cells' := by
  cases hshared with
  | @acquire _ c hacquires =>
    obtain ⟨-, hp, hout⟩ := h.acquire _ _ _ hprocess hacquires
    have halone : guard.alone (cells i) a (cells i) := by simp [alone, hacquires]
    refine ⟨cells, ⟨cells i, halone, (Function.update_eq_self i cells).symm⟩, ?_, ?_⟩
    all_goals intro j; by_cases hj : j = i
    · subst hj
      simp [hp]
    · have hfree := hagrees.holds_iff j
      simp only [reduceCtorEq, iff_false] at hfree
      simp [Function.update_of_ne hj, hfree, Ne.symm hj]
    · subst hj
      simp [hout]
    · rw [Function.update_of_ne hj]
      exact hagrees.content_eq j
  | @release _ owner c _ hreleases =>
    have hout := h.release _ _ _ hprocess hreleases
    have halone : guard.alone (cells i) a (cells i) := by simp [alone, hreleases]
    refine ⟨cells, ⟨cells i, halone, (Function.update_eq_self i cells).symm⟩, ?_, ?_⟩
    all_goals intro j; by_cases hj : j = i
    · subst hj
      by_cases howner : owner = some j <;> simp [hout, howner]
    · have hholds := hagrees.holds_iff j
      by_cases howner : owner = some i <;> simp_all [Ne.symm hj]
    · subst hj
      intro hinside
      exact absurd (h.holds_of_inside _ (by simpa using hinside)) hout
    · rw [Function.update_of_ne hj]
      exact hagrees.content_eq j
  | @use _ owner c c' hacquires hreleases huse =>
    obtain ⟨d', huse', hd'⟩ := h.use_alone hagrees hprocess hacquires hreleases huse
    refine ⟨_, ⟨d', by simpa [alone, hacquires, hreleases] using huse', rfl⟩, ?_, ?_⟩
    all_goals intro j; by_cases hj : j = i
    · subst hj
      rw [Function.update_self, h.keep _ _ _ hprocess hacquires hreleases]
      exact hagrees.holds_iff j
    · rw [Function.update_of_ne hj]
      exact hagrees.holds_iff j
    · subst hj
      simpa using hd'
    · intro hinside
      rw [Function.update_of_ne hj] at hinside ⊢
      -- somebody else is inside, so this process does not have the lock
      have hnot := hagrees.not_holds hj (h.holds_of_inside _ hinside)
      have hc : c' = c := h.untouched _ _ _ _ _ hprocess hacquires hreleases hnot huse
      exact (hagrees.content_eq j hinside).trans hc.symm

/-- **A cell behind a lock is as good as a private one.** -/
theorem refines (h : guard.Discipline process holds inside) {procs : ι → π} {c : κ}
    {es : List (ι × α)} {s : State ι π (Locked ι κ)}
    (hrun : Run process guard.shared ⟨procs, ⟨none, c⟩⟩ es s) (hstart : ∀ i, ¬ holds (procs i))
    (cells : ι → κ) :
    ∃ cells', Run process (privately guard.alone) ⟨procs, cells⟩ es ⟨s.procs, cells'⟩ := by
  have hagrees : Agrees holds inside procs ⟨none, c⟩ cells :=
    ⟨fun i => by simp [hstart i], fun i hi => absurd (h.holds_of_inside _ hi) (hstart i)⟩
  obtain ⟨cells', hrun', -⟩ := hrun.simulate (R := Agrees holds inside) hagrees
    fun s t i a p r hrel hprocess haccess => h.step hrel hprocess haccess
  exact ⟨cells', hrun'⟩

/-- **What holds of one process on its own holds of each of many.** -/
theorem invariant (h : guard.Discipline process holds inside) {procs : ι → π} {c : κ} {d : κ}
    {Inv : π → κ → List α → Prop} {es : List (ι × α)} {s : State ι π (Locked ι κ)}
    (hrun : Run process guard.shared ⟨procs, ⟨none, c⟩⟩ es s) {i : ι}
    (hout : ∀ i, ¬ holds (procs i)) (hstart : Inv (procs i) d [])
    (hstep : ∀ p c acts a p' c', Inv p c acts → process p a p' → guard.alone c a c' →
      Inv p' c' (acts ++ [a])) : ∃ c', Inv (s.procs i) c' (own i es) := by
  obtain ⟨cells, hrun'⟩ := h.refines hrun hout fun _ => d
  exact ⟨cells i, hrun'.privately_invariant hstart hstep⟩

end Discipline

end Guard

end Concurrency
