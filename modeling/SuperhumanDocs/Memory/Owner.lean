import SuperhumanDocs.Memory.Triple

/-!
# Owning variables

A variable of an owning class is made from a value, is moved, and frees what it holds when it is
destroyed or when another value takes its place. A program makes, moves, observes and destroys
variables in any order; making one can throw, which destroys all variables there are.

* `Owner.run_spec`: a variable that was moved from is empty, and every value is freed exactly once.
-/

set_option autoImplicit false

namespace Memory

/-- An owning class: `γ` is what a variable holds, for a value of `α`. -/
structure Owner (β γ α δ : Type) where
  empty : γ
  make : α → Program β γ
  observe : γ → Program β δ
  reset : γ → Program β Unit

/-- A statement; variables are numbered in the order they were declared, among those alive. -/
inductive Statement (ε α : Type) where
  | declare
  | construct (result : Except ε α)
  | moveConstruct (source : ℕ)
  | moveAssign (target source : ℕ)
  | assign (target : ℕ) (result : Except ε α)
  | observe (source : ℕ)
  | destroy (target : ℕ)

/-- What a program observed, and what it threw. -/
structure ProgramResult (ε δ : Type) where
  observed : List δ
  thrown : Option ε

variable {β γ α δ ε : Type}

/-! ## Values that move -/

namespace Statement

/-- The variables after a statement, and what it observes; a variable is empty or has a value. -/
def step (vars : List (Option α)) : Statement ε α → Except ε (List (Option α) × List (Option α))
  | .declare => .ok (vars ++ [none], [])
  | .construct result => result.map fun a => (vars ++ [some a], [])
  | .moveConstruct source =>
    match vars[source]? with
    | none => .ok (vars, [])
    | some moved => .ok (vars.set source none ++ [moved], [])
  | .moveAssign target source =>
    match vars[target]?, vars[source]? with
    | some _, some moved =>
      if target = source then .ok (vars, [])
      else .ok ((vars.set source none).set target moved, [])
    | _, _ => .ok (vars, [])
  | .assign target result =>
    match vars[target]? with
    | none => .ok (vars, [])
    | some _ => result.map fun a => (vars.set target (some a), [])
  | .observe source =>
    match vars[source]? with
    | none => .ok (vars, [])
    | some value => .ok (vars, [value])
  | .destroy target => .ok (vars.eraseIdx target, [])

/-- What a program observes and throws. -/
def run : List (Statement ε α) → List (Option α) → ProgramResult ε (Option α)
  | [], _ => { observed := [], thrown := none }
  | statement :: statements, vars =>
    match statement.step vars with
    | .error e => { observed := [], thrown := some e }
    | .ok (vars, observed) =>
      let rest := run statements vars
      { rest with observed := observed ++ rest.observed }

end Statement

/-! ## Variables that own -/

namespace Owner

variable (owner : Owner β γ α δ)

/-- The same statement on variables that own what they hold. -/
def step (vars : List γ) : Statement ε α → Program β (Except ε (List γ × List δ))
  | .declare => pure (.ok (vars ++ [owner.empty], []))
  | .construct (.error e) => pure (.error e)
  | .construct (.ok a) => do return .ok (vars ++ [← owner.make a], [])
  | .moveConstruct source =>
    match vars[source]? with
    | none => pure (.ok (vars, []))
    | some moved => pure (.ok (vars.set source owner.empty ++ [moved], []))
  | .moveAssign target source =>
    match vars[target]?, vars[source]? with
    | some held, some moved =>
      if target = source then pure (.ok (vars, []))
      else do
        owner.reset held
        return .ok ((vars.set source owner.empty).set target moved, [])
    | _, _ => pure (.ok (vars, []))
  | .assign target result =>
    match vars[target]?, result with
    | none, _ => pure (.ok (vars, []))
    | some _, .error e => pure (.error e)
    | some held, .ok a => do
      let made ← owner.make a
      owner.reset held
      -- the temporary was moved from
      owner.reset owner.empty
      return .ok (vars.set target made, [])
  | .observe source =>
    match vars[source]? with
    | none => pure (.ok (vars, []))
    | some value => do return .ok (vars, [← owner.observe value])
  | .destroy target =>
    match vars[target]? with
    | none => pure (.ok (vars, []))
    | some held => do
      owner.reset held
      return .ok (vars.eraseIdx target, [])

/-- A scope: its statements, then the end of its variables, in the reverse of their order. -/
def run : List (Statement ε α) → List γ → Program β (ProgramResult ε δ)
  | [], vars => do
    vars.reverse.forM owner.reset
    return { observed := [], thrown := none }
  | statement :: statements, vars => do
    match ← owner.step vars statement with
    | .error e =>
      vars.reverse.forM owner.reset
      return { observed := [], thrown := some e }
    | .ok (vars, observed) =>
      let rest ← run statements vars
      return { rest with observed := observed ++ rest.observed }

/-- A class whose variables hold values as `R` says; `view` is what is observed of a value. -/
structure Lawful (R : γ → Option α → Owned β → Prop) (view : Option α → δ) : Prop where
  empty : R owner.empty none 0
  make : ∀ a, Triple 0 (owner.make a) fun c own => R c (some a) own
  observe : ∀ c a own, R c a own → Triple own (owner.observe c) (Leaves (view a) own)
  reset : ∀ c a own, R c a own → Triple own (owner.reset c) (Leaves () 0)

namespace Lawful

variable {owner} {R : γ → Option α → Owned β → Prop} {view : Option α → δ}
  {vars : List γ} {values : List (Option α)} {own : Owned β}

theorem getElem?_none (h : Each R vars values own) {index : ℕ} (hvar : vars[index]? = none) :
    values[index]? = none := by
  rw [List.getElem?_eq_none_iff] at hvar ⊢
  rwa [← h.length_eq]

/-- A variable is emptied, and what it held is at hand. -/
theorem emptied (hlawful : owner.Lawful R view) (h : Each R vars values own) {index : ℕ} {c : γ}
    (hvar : vars[index]? = some c) : ∃ value own₁ own₂, values[index]? = some value ∧
      R c value own₁ ∧ own = own₁ + own₂ ∧
      Each R (vars.set index owner.empty) (values.set index none) own₂ := by
  obtain ⟨value, own₁, own₂, hvalue, hR, hown, hset, -⟩ := h.focus hvar
  refine ⟨value, own₁, own₂, hvalue, hR, hown, ?_⟩
  rw [← zero_add own₂]
  exact hset _ _ _ hlawful.empty

/-- **One statement**: the variables hold what they hold of values that move. -/
theorem step_spec (hlawful : owner.Lawful R view) (h : Each R vars values own)
    (statement : Statement ε α) :
    Triple own (owner.step vars statement) fun result own' =>
      match statement.step values with
      | .error e => result = .error e ∧ own' = own
      | .ok (values, observed) => ∃ vars, result = .ok (vars, observed.map view) ∧
          Each R vars values own' := by
  cases statement with
  | declare =>
    refine Triple.pure ⟨_, rfl, ?_⟩
    rw [← add_zero own]
    exact h.concat hlawful.empty
  | construct result =>
    cases result with
    | error e => exact Triple.pure ⟨rfl, rfl⟩
    | ok a =>
      unfold step
      rw [← zero_add own]
      refine (hlawful.make a).frame_bind fun made own' hmade => Triple.pure ⟨_, rfl, ?_⟩
      rw [add_comm]
      exact h.concat hmade
  | moveConstruct source =>
    unfold step Statement.step
    dsimp only
    cases hsource : vars[source]? with
    | none =>
      rw [getElem?_none h hsource]
      exact Triple.pure ⟨vars, rfl, h⟩
    | some moved =>
      obtain ⟨value, own₁, own₂, hvalue, hR, rfl, hrest⟩ := hlawful.emptied h hsource
      rw [hvalue]
      refine Triple.pure ⟨_, rfl, ?_⟩
      rw [add_comm]
      exact hrest.concat hR
  | moveAssign target source =>
    unfold step Statement.step
    dsimp only
    cases htarget : vars[target]? with
    | none =>
      rw [getElem?_none h htarget]
      exact Triple.pure ⟨vars, rfl, h⟩
    | some held =>
      obtain ⟨a, -, -, ha, -⟩ := h.get htarget
      rw [ha]
      cases hsource : vars[source]? with
      | none =>
        rw [getElem?_none h hsource]
        exact Triple.pure ⟨vars, rfl, h⟩
      | some moved =>
        obtain ⟨value, own₁, own₂, hvalue, hmoved, rfl, hrest⟩ := hlawful.emptied h hsource
        rw [hvalue]
        dsimp only
        by_cases hself : target = source
        · rw [if_pos hself, if_pos hself]
          exact Triple.pure ⟨vars, rfl, h⟩
        · rw [if_neg hself, if_neg hself]
          have hheld : (vars.set source owner.empty)[target]? = some held := by
            rwa [List.getElem?_set_ne (Ne.symm hself)]
          obtain ⟨_, own₃, own₄, -, hreset, rfl, hset, -⟩ := hrest.focus hheld
          rw [show own₁ + (own₃ + own₄) = own₃ + (own₁ + own₄) by abel]
          refine (hlawful.reset _ _ _ hreset).leaves_frame_bind (Triple.pure ⟨_, rfl, ?_⟩)
          rw [zero_add]
          exact hset _ _ _ hmoved
  | assign target result =>
    unfold step Statement.step
    dsimp only
    cases htarget : vars[target]? with
    | none =>
      rw [getElem?_none h htarget]
      exact Triple.pure ⟨vars, rfl, h⟩
    | some held =>
      obtain ⟨a, own₁, own₂, ha, hheld, rfl, hset, -⟩ := h.focus htarget
      rw [ha]
      cases result with
      | error e => exact Triple.pure ⟨rfl, rfl⟩
      | ok a =>
        dsimp only
        rw [← zero_add (own₁ + own₂)]
        refine (hlawful.make a).frame_bind fun made new hmade => ?_
        rw [show new + (own₁ + own₂) = own₁ + (new + own₂) by abel]
        refine (hlawful.reset _ _ _ hheld).leaves_frame_bind ?_
        refine (hlawful.reset _ _ _ hlawful.empty).leaves_frame_bind (Triple.pure ⟨_, rfl, ?_⟩)
        rw [zero_add]
        exact hset _ _ _ hmade
  | observe source =>
    unfold step Statement.step
    dsimp only
    cases hsource : vars[source]? with
    | none =>
      rw [getElem?_none h hsource]
      exact Triple.pure ⟨vars, rfl, h⟩
    | some value =>
      obtain ⟨a, own₁, own₂, ha, hR, rfl⟩ := h.get hsource
      rw [ha]
      exact (hlawful.observe _ _ _ hR).leaves_frame_bind (Triple.pure ⟨vars, rfl, h⟩)
  | destroy target =>
    unfold step Statement.step
    dsimp only
    cases htarget : vars[target]? with
    | none =>
      have herase : values.eraseIdx target = values := by
        rw [List.getElem?_eq_none_iff] at htarget
        exact List.eraseIdx_of_length_le (h.length_eq ▸ htarget)
      rw [herase]
      exact Triple.pure ⟨vars, rfl, h⟩
    | some held =>
      obtain ⟨value, own₁, own₂, hvalue, hR, rfl, -, herase⟩ := h.focus htarget
      refine (hlawful.reset _ _ _ hR).leaves_frame_bind (Triple.pure ⟨_, rfl, ?_⟩)
      rw [zero_add]
      exact herase

theorem reset_all (hlawful : owner.Lawful R view) (h : Each R vars values own) :
    Triple own (vars.reverse.forM owner.reset) (Leaves () 0) :=
  h.reverse.forM hlawful.reset

/-- **A scope**: it observes what values that move would show, throws what they would, and owns
nothing at its end. -/
theorem run_spec (hlawful : owner.Lawful R view) (h : Each R vars values own)
    (statements : List (Statement ε α)) :
    Triple own (owner.run statements vars)
      (Leaves
        { observed := (Statement.run statements values).observed.map view
          thrown := (Statement.run statements values).thrown } 0) := by
  induction statements generalizing vars values own with
  | nil => exact (hlawful.reset_all h).leaves_bind (Triple.pure ⟨rfl, rfl⟩)
  | cons statement statements ih =>
    unfold run Statement.run
    refine (hlawful.step_spec h statement).bind fun result own' hresult => ?_
    cases hstep : statement.step values with
    | error e =>
      rw [hstep] at hresult
      obtain ⟨rfl, rfl⟩ := hresult
      exact (hlawful.reset_all h).leaves_bind (Triple.pure ⟨rfl, rfl⟩)
    | ok next =>
      rw [hstep] at hresult
      obtain ⟨vars', rfl, hvars⟩ := hresult
      refine (ih hvars).leaves_bind (Triple.pure ⟨?_, rfl⟩)
      rw [List.map_append]

end Lawful

end Owner

end Memory
