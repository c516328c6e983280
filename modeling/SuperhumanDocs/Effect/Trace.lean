import SuperhumanDocs.Effect.Except

/-!
# Effects with a trace

A `Run` is the state of an environment together with the events exchanged with it so far; a
`Traced` computation reads and changes it, and may fail. `Emits x ok err` bounds the events of
`x`: those of a run that returns `a` satisfy `ok a`, those of a run that fails with `e` satisfy
`err e`.

* `Emits.bind`, `Emits.ofExcept_bind`, `Emits.perform_bind`: the events of a sequence.
* `Emits.forM`: the events of a loop.
* `EmitsOnly.bind`, `EmitsOnly.outcome`: computations all of whose events are of a kind.
-/

set_option autoImplicit false

namespace Effect

/-- The state of an environment and the events so far. -/
structure Run (σ ω : Type) where
  state : σ
  trace : List ω

/-- A computation that may fail, in an environment that records events. -/
abbrev Traced (ε σ ω α : Type) := EStateM ε (Run σ ω) α

section
variable {ε σ ω α β : Type}

/-- Let the environment react, and record the event. -/
def perform (react : σ → α × σ) (event : α → ω) : Traced ε σ ω α := fun s =>
  .ok (react s.state).1 ⟨(react s.state).2, s.trace ++ [event (react s.state).1]⟩

/-- Look at the environment. -/
def observe (f : σ → α) : Traced ε σ ω α := fun s => .ok (f s.state) s

/-- A result that needs no environment. -/
def ofExcept (x : Except ε α) : Traced ε σ ω α := fun s =>
  match x with
  | .ok a => .ok a s
  | .error e => .error e s

/-! ## Execution, step by step -/

theorem bind_apply {x : Traced ε σ ω α} {f : α → Traced ε σ ω β} {s s' : Run σ ω} {a : α}
    (h : x s = .ok a s') : (x >>= f) s = f a s' := by
  show EStateM.bind x f s = f a s'
  rw [EStateM.bind, h]

theorem bind_apply_error {x : Traced ε σ ω α} {f : α → Traced ε σ ω β} {s s' : Run σ ω} {e : ε}
    (h : x s = .error e s') : (x >>= f) s = .error e s' := by
  show EStateM.bind x f s = .error e s'
  rw [EStateM.bind, h]

@[simp] theorem perform_apply (react : σ → α × σ) (event : α → ω) (s : Run σ ω) :
    (perform react event : Traced ε σ ω α) s =
      .ok (react s.state).1 ⟨(react s.state).2, s.trace ++ [event (react s.state).1]⟩ := rfl

@[simp] theorem observe_apply (f : σ → α) (s : Run σ ω) :
    (observe f : Traced ε σ ω α) s = .ok (f s.state) s := rfl

theorem ofExcept_apply {x : Except ε α} {a : α} (h : x = .ok a) (s : Run σ ω) :
    ofExcept x s = .ok a s := by
  rw [h]; rfl

/-! ## Runs that return -/

theorem run_bind_eq_ok {x : Traced ε σ ω α} {f : α → Traced ε σ ω β} {s s'' : Run σ ω} {b : β} :
    (x >>= f) s = .ok b s'' ↔ ∃ a s', x s = .ok a s' ∧ f a s' = .ok b s'' := by
  show EStateM.bind x f s = _ ↔ _
  unfold EStateM.bind
  cases x s with
  | ok a s' => simp
  | error e s' => simp

theorem run_pure_eq_ok {a b : α} {s s' : Run σ ω} :
    (pure a : Traced ε σ ω α) s = .ok b s' ↔ a = b ∧ s = s' := by
  show EStateM.Result.ok a s = .ok b s' ↔ _
  rw [EStateM.Result.ok.injEq]

theorem run_ofExcept_eq_ok {x : Except ε α} {a : α} {s s' : Run σ ω} :
    ofExcept x s = .ok a s' ↔ x = .ok a ∧ s = s' := by
  cases x with
  | ok b => rw [ofExcept, EStateM.Result.ok.injEq, Except.ok.injEq]
  | error e => simp [ofExcept]

theorem run_ofExcept_bind_eq_ok {x : Except ε α} {f : α → Traced ε σ ω β} {b : β}
    {s s' : Run σ ω} : (ofExcept x >>= f) s = .ok b s' ↔ ∃ a, x = .ok a ∧ f a s = .ok b s' := by
  rw [run_bind_eq_ok]
  apply Iff.intro
  · intro h
    obtain ⟨a, s₁, hx, h⟩ := h
    obtain ⟨hok, rfl⟩ := run_ofExcept_eq_ok.1 hx
    exact ⟨a, hok, h⟩
  · intro h
    obtain ⟨a, hx, h⟩ := h
    exact ⟨a, s, run_ofExcept_eq_ok.2 ⟨hx, rfl⟩, h⟩

theorem run_perform_bind_eq_ok {react : σ → α × σ} {event : α → ω} {f : α → Traced ε σ ω β}
    {b : β} {s s' : Run σ ω} : (perform react event >>= f) s = .ok b s' ↔
      f (react s.state).1 ⟨(react s.state).2, s.trace ++ [event (react s.state).1]⟩ = .ok b s' :=
  Iff.rfl

theorem run_adaptExcept_eq_ok {ε' : Type} {x : Traced ε σ ω α} {g : ε → ε'} {a : α}
    {s s' : Run σ ω} : x.adaptExcept g s = .ok a s' ↔ x s = .ok a s' := by
  unfold EStateM.adaptExcept
  cases x s with
  | ok b s₁ => simp
  | error e s₁ => simp

theorem run_throw_eq_ok {e : ε} {a : α} {s s' : Run σ ω} :
    (throw e : Traced ε σ ω α) s = .ok a s' ↔ False := by
  show EStateM.Result.error e s = .ok a s' ↔ _
  simp

/-! ## The events of a computation -/

/-- The events after `base` satisfy `ok` when the result is a value and `err` when it is a
failure. -/
def Emitted (base : List ω) (result : EStateM.Result ε (Run σ ω) α) (ok : α → List ω → Prop)
    (err : ε → List ω → Prop) : Prop :=
  match result with
  | .ok a s => ∃ t, s.trace = base ++ t ∧ ok a t
  | .error e s => ∃ t, s.trace = base ++ t ∧ err e t

/-- The events of `x` satisfy `ok` when it returns and `err` when it fails. -/
def Emits (x : Traced ε σ ω α) (ok : α → List ω → Prop) (err : ε → List ω → Prop) : Prop :=
  ∀ s, Emitted s.trace (x s) ok err

variable {ok ok' : α → List ω → Prop} {err err' : ε → List ω → Prop}

/-- An event comes before the others. -/
theorem Emitted.cons {base : List ω} {event : ω} {result : EStateM.Result ε (Run σ ω) α}
    (h : Emitted (base ++ [event]) result (fun a t => ok a (event :: t))
      (fun e t => err e (event :: t))) : Emitted base result ok err := by
  cases result with
  | ok a s =>
    obtain ⟨t, ht, hok⟩ := h
    exact ⟨event :: t, by rw [ht, List.append_assoc, List.singleton_append], hok⟩
  | error e s =>
    obtain ⟨t, ht, herr⟩ := h
    exact ⟨event :: t, by rw [ht, List.append_assoc, List.singleton_append], herr⟩

theorem Emitted.mono {base : List ω} {result : EStateM.Result ε (Run σ ω) α}
    (h : Emitted base result ok err) (hok : ∀ a t, ok a t → ok' a t)
    (herr : ∀ e t, err e t → err' e t) : Emitted base result ok' err' := by
  cases result with
  | ok a s =>
    obtain ⟨t, ht, h⟩ := h
    exact ⟨t, ht, hok a t h⟩
  | error e s =>
    obtain ⟨t, ht, h⟩ := h
    exact ⟨t, ht, herr e t h⟩

/-- What a run from a state came to. -/
structure Outcome (ε σ ω α : Type) where
  result : Except ε α
  state : σ
  events : List ω

/-- Run a computation from a state. -/
def runFrom (x : Traced ε σ ω α) (s : σ) : Outcome ε σ ω α :=
  match x ⟨s, []⟩ with
  | .ok a s => { result := .ok a, state := s.state, events := s.trace }
  | .error e s => { result := .error e, state := s.state, events := s.trace }

/-- The outcome with its error under another name. -/
def Outcome.mapError {ε' : Type} (g : ε → ε') (outcome : Outcome ε σ ω α) : Outcome ε' σ ω α where
  result := outcome.result.mapError g
  state := outcome.state
  events := outcome.events

@[simp] theorem Outcome.mapError_events {ε' : Type} (g : ε → ε') (outcome : Outcome ε σ ω α) :
    (outcome.mapError g).events = outcome.events := rfl

@[simp] theorem Outcome.mapError_state {ε' : Type} (g : ε → ε') (outcome : Outcome ε σ ω α) :
    (outcome.mapError g).state = outcome.state := rfl

@[simp] theorem Outcome.mapError_result {ε' : Type} (g : ε → ε') (outcome : Outcome ε σ ω α) :
    (outcome.mapError g).result = outcome.result.mapError g := rfl

theorem runFrom_adaptExcept {ε' : Type} (x : Traced ε σ ω α) (g : ε → ε') (s : σ) :
    runFrom (x.adaptExcept g) s = (runFrom x s).mapError g := by
  unfold runFrom EStateM.adaptExcept
  cases x ⟨s, []⟩ <;> rfl

theorem runFrom_result_eq_ok {x : Traced ε σ ω α} {s : σ} {a : α}
    (h : (runFrom x s).result = .ok a) :
    x ⟨s, []⟩ = .ok a ⟨(runFrom x s).state, (runFrom x s).events⟩ := by
  unfold runFrom at h ⊢
  cases hx : x ⟨s, []⟩ with
  | ok b s' => rw [hx] at h; cases h; rfl
  | error e s' => rw [hx] at h; cases h

theorem runFrom_of_ok {x : Traced ε σ ω α} {s : σ} {a : α} {s' : Run σ ω}
    (h : x ⟨s, []⟩ = .ok a s') :
    runFrom x s = { result := .ok a, state := s'.state, events := s'.trace } := by
  rw [runFrom, h]

theorem runFrom_result_iff {x : Traced ε σ ω α} {s : σ} {a : α} :
    (runFrom x s).result = .ok a ↔ ∃ s', x ⟨s, []⟩ = .ok a s' := by
  apply Iff.intro
  · exact fun h => ⟨_, runFrom_result_eq_ok h⟩
  · intro ⟨s', h⟩
    rw [runFrom_of_ok h]

/-- A run that ends with a result. -/
def finish (result : Except ε α) (s : Run σ ω) : EStateM.Result ε (Run σ ω) α :=
  match result with
  | .ok a => .ok a s
  | .error e => .error e s

theorem runFrom_of_finish {x : Traced ε σ ω α} {s : σ} {result : Except ε α} {s' : Run σ ω}
    (h : x ⟨s, []⟩ = finish result s') :
    runFrom x s = { result, state := s'.state, events := s'.trace } := by
  rw [runFrom, h]
  cases result <;> rfl

theorem runFrom_ofExcept_bind {x : Except ε α} {f : α → Traced ε σ ω β} (s : σ) :
    runFrom (Effect.ofExcept x >>= f) s =
      match x with
      | .ok a => runFrom (f a) s
      | .error e => { result := .error e, state := s, events := [] } := by
  cases x <;> rfl

theorem Emits.outcome {x : Traced ε σ ω α} (h : Emits x ok err) (s : σ) :
    (∃ a, (runFrom x s).result = .ok a ∧ ok a (runFrom x s).events) ∨
      ∃ e, (runFrom x s).result = .error e ∧ err e (runFrom x s).events := by
  have hs := h ⟨s, []⟩
  unfold runFrom
  cases hx : x ⟨s, []⟩ with
  | ok a s' =>
    rw [hx] at hs
    obtain ⟨t, ht, hok⟩ := hs
    exact .inl ⟨a, rfl, show ok a s'.trace from ht ▸ hok⟩
  | error e s' =>
    rw [hx] at hs
    obtain ⟨t, ht, herr⟩ := hs
    exact .inr ⟨e, rfl, show err e s'.trace from ht ▸ herr⟩

theorem Emits.mono {x : Traced ε σ ω α} (h : Emits x ok err) (hok : ∀ a t, ok a t → ok' a t)
    (herr : ∀ e t, err e t → err' e t) : Emits x ok' err' := fun s => (h s).mono hok herr

/-- Errors under another name. -/
theorem Emits.adaptExcept {ε' : Type} {x : Traced ε σ ω α} {err' : ε' → List ω → Prop}
    (g : ε → ε') (h : Emits x ok fun e => err' (g e)) : Emits (x.adaptExcept g) ok err' := by
  intro s
  have hs := h s
  unfold EStateM.adaptExcept
  cases hx : x s with
  | ok a s' | error e s' =>
    rw [hx] at hs
    exact hs

theorem Emits.pure (a : α) (h : ok a []) : Emits (ε := ε) (σ := σ) (Pure.pure a) ok err :=
  fun s => ⟨[], by simp, h⟩

theorem Emits.throw {e : ε} (h : err e []) :
    Emits (throw e : Traced ε σ ω α) ok err :=
  fun s => ⟨[], by simp, h⟩

theorem Emits.ofExcept {x : Except ε α} (hok : ∀ a, x = .ok a → ok a [])
    (herr : ∀ e, x = .error e → err e []) : Emits (σ := σ) (ofExcept x) ok err := by
  intro s
  cases x with
  | ok a => exact ⟨[], by simp, hok a rfl⟩
  | error e => exact ⟨[], by simp, herr e rfl⟩

theorem Emits.perform {react : σ → α × σ} {event : α → ω} (h : ∀ a, ok a [event a]) :
    Emits (perform react event) ok err :=
  fun s => ⟨[event (react s.state).1], rfl, h _⟩

/-- **The events of a sequence.** -/
theorem Emits.bind {x : Traced ε σ ω α} {f : α → Traced ε σ ω β} {okb : β → List ω → Prop}
    (hx : Emits x ok err) (hf : ∀ a, Emits (f a)
      (fun b t => ∀ t₀, ok a t₀ → okb b (t₀ ++ t)) (fun e t => ∀ t₀, ok a t₀ → err' e (t₀ ++ t)))
    (herr : ∀ e t, err e t → err' e t) : Emits (x >>= f) okb err' := by
  intro s
  have hs := hx s
  show Emitted s.trace (EStateM.bind x f s) okb err'
  unfold EStateM.bind Emitted
  cases hxs : x s with
  | error e s' =>
    rw [hxs] at hs
    obtain ⟨t, ht, he⟩ := hs
    exact ⟨t, ht, herr e t he⟩
  | ok a s' =>
    rw [hxs] at hs
    obtain ⟨t₀, ht₀, ha⟩ := hs
    have hs' := hf a s'
    simp only
    cases hfs : f a s' with
    | ok b s'' =>
      rw [hfs] at hs'
      obtain ⟨t, ht, hb⟩ := hs'
      exact ⟨t₀ ++ t, by rw [ht, ht₀, List.append_assoc], hb t₀ ha⟩
    | error e s'' =>
      rw [hfs] at hs'
      obtain ⟨t, ht, he⟩ := hs'
      exact ⟨t₀ ++ t, by rw [ht, ht₀, List.append_assoc], he t₀ ha⟩

/-- A sequence that starts with a result: what comes next may use it. -/
theorem Emits.ofExcept_bind {x : Except ε α} {f : α → Traced ε σ ω β} {okb : β → List ω → Prop}
    (hf : ∀ a, x = .ok a → Emits (f a) okb err) (herr : ∀ e, x = .error e → err e []) :
    Emits (Effect.ofExcept x >>= f) okb err := by
  cases x with
  | ok a => exact fun s => hf a rfl s
  | error e => exact fun s => ⟨[], by simp, herr e rfl⟩

/-- A sequence that starts with an event. -/
theorem Emits.perform_bind {react : σ → α × σ} {event : α → ω} {f : α → Traced ε σ ω β}
    {okb : β → List ω → Prop} (hf : ∀ a, Emits (f a) (fun b t => okb b (event a :: t))
      (fun e t => err e (event a :: t))) : Emits (Effect.perform react event >>= f) okb err :=
  fun s => (hf (react s.state).1 ⟨(react s.state).2, s.trace ++ [event (react s.state).1]⟩).cons

theorem Emits.observe_bind {g : σ → α} {f : α → Traced ε σ ω β} {okb : β → List ω → Prop}
    (hf : ∀ a, Emits (f a) okb err) : Emits (Effect.observe g >>= f) okb err :=
  fun s => hf (g s.state) s

/-- A sequence that ends with a value. -/
theorem Emits.bind_pure {x : Traced ε σ ω α} {g : α → β} {okb : β → List ω → Prop}
    (hx : Emits x (fun a => okb (g a)) err) : Emits (x >>= fun a => Pure.pure (g a)) okb err :=
  hx.bind (fun _ => Emits.pure _ fun t₀ h => by simpa using h) fun _ _ h => h

end

/-! ## Computations all of whose events are of a kind -/

section
variable {ε σ ω α β : Type} {x : Traced ε σ ω α} {f : α → Traced ε σ ω β} {P P' : ω → Prop}
  {ok : α → Prop} {ok' : β → Prop}

/-- Every event of `x` satisfies `P`, and a value it returns satisfies `ok`. -/
def EmitsOnly (x : Traced ε σ ω α) (P : ω → Prop) (ok : α → Prop) : Prop :=
  Emits x (fun a t => ok a ∧ ∀ event ∈ t, P event) fun _ t => ∀ event ∈ t, P event

theorem EmitsOnly.pure {a : α} (h : ok a) :
    EmitsOnly (Pure.pure a : Traced ε σ ω α) P ok :=
  Emits.pure a ⟨h, by simp⟩

theorem EmitsOnly.throw (e : ε) : EmitsOnly (throw e : Traced ε σ ω α) P ok :=
  Emits.throw (by simp)

theorem EmitsOnly.ofExcept {result : Except ε α} (h : ∀ a, result = .ok a → ok a) :
    EmitsOnly (Effect.ofExcept result : Traced ε σ ω α) P ok :=
  Emits.ofExcept (fun a ha => ⟨h a ha, by simp⟩) (by simp)

theorem EmitsOnly.perform {react : σ → α × σ} {event : α → ω} (hevent : ∀ a, P (event a))
    (h : ∀ s, ok (react s).1) : EmitsOnly (Effect.perform react event : Traced ε σ ω α) P ok :=
  fun s => ⟨[event (react s.state).1], rfl, h s.state, by simpa using hevent _⟩

/-- **The events of a sequence**; what comes next may use what was returned. -/
theorem EmitsOnly.bind (hx : EmitsOnly x P ok) (hf : ∀ a, ok a → EmitsOnly (f a) P ok') :
    EmitsOnly (x >>= f) P ok' := by
  intro s
  have hs := hx s
  show Emitted s.trace (EStateM.bind x f s) _ _
  unfold EStateM.bind Emitted
  cases hxs : x s with
  | error e s' =>
    rw [hxs] at hs
    exact hs
  | ok a s' =>
    rw [hxs] at hs
    obtain ⟨t₀, ht₀, hok, hevents⟩ := hs
    have hs' := hf a hok s'
    simp only
    cases hfs : f a s' with
    | ok b s'' =>
      rw [hfs] at hs'
      obtain ⟨t, ht, hok', hevents'⟩ := hs'
      refine ⟨t₀ ++ t, by rw [ht, ht₀, List.append_assoc], hok', fun event hevent => ?_⟩
      exact (List.mem_append.1 hevent).elim (hevents event) (hevents' event)
    | error e s'' =>
      rw [hfs] at hs'
      obtain ⟨t, ht, hevents'⟩ := hs'
      refine ⟨t₀ ++ t, by rw [ht, ht₀, List.append_assoc], fun event hevent => ?_⟩
      exact (List.mem_append.1 hevent).elim (hevents event) (hevents' event)

theorem EmitsOnly.ofExcept_bind {result : Except ε α}
    (hf : ∀ a, result = .ok a → EmitsOnly (f a) P ok') :
    EmitsOnly (Effect.ofExcept result >>= f) P ok' :=
  (EmitsOnly.ofExcept fun _ h => h).bind hf

theorem EmitsOnly.perform_bind {react : σ → α × σ} {event : α → ω} (hevent : ∀ a, P (event a))
    (hf : ∀ s, EmitsOnly (f (react s).1) P ok') :
    EmitsOnly (Effect.perform react event >>= f) P ok' := by
  have hperform : EmitsOnly (Effect.perform react event : Traced ε σ ω α) P
      fun a => ∃ s, a = (react s).1 := EmitsOnly.perform hevent fun s => ⟨s, rfl⟩
  refine hperform.bind ?_
  rintro a ⟨s, rfl⟩
  exact hf s

/-- Errors under another name. -/
theorem EmitsOnly.adaptExcept {ε' : Type} (g : ε → ε') (hx : EmitsOnly x P ok) :
    EmitsOnly (x.adaptExcept g) P ok := Emits.adaptExcept g hx

theorem EmitsOnly.mono (hx : EmitsOnly x P ok) {ok' : α → Prop} (hP : ∀ event, P event → P' event)
    (hok : ∀ a, ok a → ok' a) : EmitsOnly x P' ok' :=
  Emits.mono hx (fun a _ h => ⟨hok a h.1, fun event hevent => hP event (h.2 event hevent)⟩)
    fun _ _ h event hevent => hP event (h event hevent)

/-- What a run returns and sends. -/
theorem EmitsOnly.outcome (hx : EmitsOnly x P ok) (s : σ) :
    (∀ a, (runFrom x s).result = .ok a → ok a) ∧ ∀ event ∈ (runFrom x s).events, P event := by
  rcases Emits.outcome hx s with ⟨a, ha, hok, hevents⟩ | ⟨e, he, hevents⟩
  · refine ⟨fun a' ha' => ?_, hevents⟩
    cases ha.symm.trans ha'
    exact hok
  · refine ⟨fun a' ha' => ?_, hevents⟩
    cases he.symm.trans ha'

end

/-! ## Loops -/

section
variable {ε σ ω β : Type}

/-- The events of a loop that returned: one block for each element, in order. -/
def Blocks (ok : β → List ω → Prop) (xs : List β) (t : List ω) : Prop :=
  ∃ blocks, List.Forall₂ ok xs blocks ∧ t = blocks.flatten

/-- The events of a loop that failed: blocks for the elements before one, then its failure. -/
def BlocksThen (ok err : β → List ω → Prop) (xs : List β) (t : List ω) : Prop :=
  ∃ done x rest t₁ t₂, xs = done ++ x :: rest ∧ Blocks ok done t₁ ∧ err x t₂ ∧ t = t₁ ++ t₂

variable {ok err : β → List ω → Prop}

theorem Blocks.nil : Blocks ok [] [] := ⟨[], .nil, rfl⟩

theorem Blocks.cons {x : β} {xs : List β} {t₁ t₂ : List ω} (h : ok x t₁) (hs : Blocks ok xs t₂) :
    Blocks ok (x :: xs) (t₁ ++ t₂) := by
  obtain ⟨blocks, hb, rfl⟩ := hs
  exact ⟨t₁ :: blocks, .cons h hb, rfl⟩

theorem BlocksThen.cons {x : β} {xs : List β} {t₁ t₂ : List ω} (h : ok x t₁)
    (hs : BlocksThen ok err xs t₂) : BlocksThen ok err (x :: xs) (t₁ ++ t₂) := by
  obtain ⟨done, y, rest, u₁, u₂, rfl, hd, he, rfl⟩ := hs
  exact ⟨x :: done, y, rest, t₁ ++ u₁, u₂, rfl, hd.cons h, he, by rw [List.append_assoc]⟩

/-- What is picked from the events of each block is what is picked from all. -/
theorem Blocks.filterMap {γ : Type} {pick : ω → Option γ} {f : β → γ}
    (hblock : ∀ x t, ok x t → t.filterMap pick = [f x]) {xs : List β} {t : List ω}
    (h : Blocks ok xs t) : t.filterMap pick = xs.map f := by
  obtain ⟨blocks, hb, rfl⟩ := h
  induction hb with
  | nil => rfl
  | cons hx hb ih => rw [List.flatten_cons, List.filterMap_append, hblock _ _ hx, ih]; rfl

theorem BlocksThen.filterMap {γ : Type} {pick : ω → Option γ} {f : β → γ}
    (hblock : ∀ x t, ok x t → t.filterMap pick = [f x])
    (hlast : ∀ x t, err x t → t.filterMap pick <+: [f x]) {xs : List β} {t : List ω}
    (h : BlocksThen ok err xs t) : t.filterMap pick <+: xs.map f := by
  obtain ⟨done, x, rest, t₁, t₂, rfl, hdone, he, rfl⟩ := h
  rw [List.filterMap_append, hdone.filterMap hblock, List.map_append]
  exact (List.prefix_append_right_inj _).2 ((hlast x t₂ he).trans ⟨rest.map f, rfl⟩)

/-- The first block. -/
theorem Blocks.head {x : β} {xs : List β} {t : List ω} (h : Blocks ok (x :: xs) t) :
    ∃ t₁ t₂, t = t₁ ++ t₂ ∧ ok x t₁ := by
  obtain ⟨blocks, hb, rfl⟩ := h
  cases hb with
  | cons hx hb => exact ⟨_, _, List.flatten_cons, hx⟩

/-- The first element of a loop that failed has its block, or else it is the one that failed. -/
theorem BlocksThen.head {x : β} {xs : List β} {t : List ω} (h : BlocksThen ok err (x :: xs) t) :
    (∃ t₁ t₂, t = t₁ ++ t₂ ∧ ok x t₁) ∨ err x t := by
  obtain ⟨done, y, rest, t₁, t₂, heq, hd, he, rfl⟩ := h
  cases done with
  | nil =>
    obtain ⟨blocks, hb, rfl⟩ := hd
    cases hb
    cases heq
    exact .inr he
  | cons z done =>
    cases heq
    obtain ⟨u₁, u₂, rfl, hx⟩ := hd.head
    exact .inl ⟨u₁, u₂ ++ t₂, by rw [List.append_assoc], hx⟩

/-- Blocks that each come from a choice: the choices, and the blocks they give. -/
theorem Blocks.choose {γ : Type} {r : β → γ → Prop} {ok : γ → List ω → Prop} {xs : List β}
    {t : List ω} (h : Blocks (fun x t => ∃ y, r x y ∧ ok y t) xs t) :
    ∃ ys, List.Forall₂ r xs ys ∧ Blocks ok ys t := by
  induction xs generalizing t with
  | nil =>
    obtain ⟨blocks, hb, rfl⟩ := h
    cases hb
    exact ⟨[], .nil, Blocks.nil⟩
  | cons x xs ih =>
    obtain ⟨blocks, hb, rfl⟩ := h
    obtain _ | ⟨⟨y, hy, hok⟩, hb⟩ := hb
    obtain ⟨ys, hys, hblocks⟩ := ih ⟨_, hb, rfl⟩
    exact ⟨y :: ys, .cons hy hys, Blocks.cons hok hblocks⟩

/-- A list is split at an event that is not in its front part: in what comes after the front. -/
theorem split_after {first : ω → Prop} {front rest t₁ t₂ : List ω} {c : ω}
    (h : front ++ rest = t₁ ++ c :: t₂) (hfront : ∀ d ∈ front, ¬ first d) (hc : first c) :
    ∃ m, t₁ = front ++ m ∧ rest = m ++ c :: t₂ := by
  induction front generalizing t₁ with
  | nil => exact ⟨t₁, rfl, h⟩
  | cons d front ih =>
    cases t₁ with
    | nil =>
      cases h
      exact absurd hc (hfront _ (.head _))
    | cons d' t₁ =>
      rw [List.cons_append, List.cons_append, List.cons.injEq] at h
      obtain ⟨m, rfl, hm⟩ := ih h.2 fun d hd => hfront d (.tail _ hd)
      exact ⟨m, by rw [h.1]; rfl, hm⟩

/-- A split of the events at the first event of a block: the block goes on, and blocks follow. -/
theorem Blocks.split (first : ω → Prop)
    (hblock : ∀ x t, ok x t → ∃ c rest, t = c :: rest ∧ ∀ d ∈ rest, ¬ first d)
    {xs : List β} {t₁ t₂ : List ω} {c : ω} (h : Blocks ok xs (t₁ ++ c :: t₂)) (hc : first c) :
    ∃ x rest u, ok x (c :: rest) ∧ t₂ = rest ++ u := by
  induction xs generalizing t₁ with
  | nil =>
    obtain ⟨blocks, hb, h⟩ := h
    cases hb
    simp at h
  | cons x xs ih =>
    obtain ⟨blocks, hb, h⟩ := h
    obtain _ | ⟨hx, hb⟩ := hb
    obtain ⟨c₀, rest, rfl, hrest⟩ := hblock _ _ hx
    rw [List.flatten_cons, List.cons_append] at h
    cases t₁ with
    | nil =>
      cases h
      exact ⟨x, rest, _, hx, rfl⟩
    | cons c₁ t₁ =>
      -- the event is no later event of the first block, so it is in the other blocks
      rw [List.cons_append, List.cons.injEq] at h
      obtain ⟨m, rfl, hm⟩ := split_after h.2.symm hrest hc
      exact ih ⟨_, hb, hm.symm⟩

/-- **The events of a loop.** -/
theorem Emits.forM {f : β → Traced ε σ ω Unit} {errs : ε → β → List ω → Prop}
    (h : ∀ x, Emits (f x) (fun _ => ok x) (fun e => errs e x)) (xs : List β) :
    Emits (forM xs f) (fun _ => Blocks ok xs) (fun e => BlocksThen ok (errs e) xs) := by
  induction xs with
  | nil => exact Emits.pure _ Blocks.nil
  | cons x xs ih =>
    rw [List.forM_cons]
    refine (h x).bind (fun _ => ih.mono ?_ ?_) ?_
    · exact fun _ t ht t₀ h₀ => ht.cons h₀
    · exact fun _ t ht t₀ h₀ => ht.cons h₀
    · exact fun e t he => ⟨[], x, xs, [], t, rfl, Blocks.nil, he, rfl⟩

end

end Effect
