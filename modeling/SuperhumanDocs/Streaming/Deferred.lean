import SuperhumanDocs.Effect.Trace

/-!
# Deferred operations

A server takes an operation and applies it later, in any order with the others it has taken; a
reply may get lost, so that the client does not know whether an operation was taken. Who asks about
an operation by the id it was given, and is told that it is done, knows that it is applied.

* `Drains.single`: one operation and the questions after it.
* `Drains.blocks`: a client that waits for each of its operations finds them applied in turn.
-/

set_option autoImplicit false

namespace Streaming

open Effect (Blocks)

/-- What a client sees: an operation, with the id it was given, and the answer to a question. -/
inductive Deferred (ι α : Type) where
  | submit (operation : α) (id : Option ι)
  | poll (id : ι) (done : Bool)

section
variable {ι α : Type}

def Deferred.isPoll : Deferred ι α → Prop
  | submit _ _ => False
  | poll _ _ => True

/-- The data of a server, and the operations it has taken and not applied. -/
structure Backlog (D ι α : Type) where
  data : D
  queue : List (ι × α)

/-- The server answers an event. -/
inductive Answers {D : Type} : Backlog D ι α → Deferred ι α → Backlog D ι α → Prop
  | taken {data : D} {queue : List (ι × α)} {id : ι} {operation : α} :
      Answers ⟨data, queue⟩ (.submit operation (some id)) ⟨data, queue ++ [(id, operation)]⟩
  | lost {data : D} {queue : List (ι × α)} {id : ι} {operation : α} :
      Answers ⟨data, queue⟩ (.submit operation none) ⟨data, queue ++ [(id, operation)]⟩
  | refused {backlog : Backlog D ι α} {operation : α} :
      Answers backlog (.submit operation none) backlog
  /-- What is done is not in the queue. -/
  | polled {backlog : Backlog D ι α} {id : ι} {done : Bool} :
      (done = true → ∀ entry ∈ backlog.queue, entry.1 ≠ id) →
      Answers backlog (.poll id done) backlog

variable {D : Type} (apply : D → α → D)

/-- The server answers the events, and in between applies what it has taken. -/
inductive Drains : Backlog D ι α → List (Deferred ι α) → Backlog D ι α → Prop
  | nil {backlog : Backlog D ι α} : Drains backlog [] backlog
  | apply {data : D} {before after : List (ι × α)} {entry : ι × α}
      {events : List (Deferred ι α)} {backlog : Backlog D ι α} :
      Drains ⟨apply data entry.2, before ++ after⟩ events backlog →
      Drains ⟨data, before ++ entry :: after⟩ events backlog
  | answer {backlog next backlog' : Backlog D ι α} {event : Deferred ι α}
      {events : List (Deferred ι α)} :
      Answers backlog event next → Drains next events backlog' →
      Drains backlog (event :: events) backlog'

variable {apply} {data : D} {id : ι} {operation : α} {backlog backlog' : Backlog D ι α}
  {events events' : List (Deferred ι α)}

theorem Drains.split (h : Drains apply backlog (events ++ events') backlog') :
    ∃ between, Drains apply backlog events between ∧ Drains apply between events' backlog' := by
  generalize hall : events ++ events' = all at h
  induction h generalizing events with
  | nil =>
    obtain ⟨rfl, rfl⟩ := List.append_eq_nil_iff.1 hall
    exact ⟨_, .nil, .nil⟩
  | apply _ ih =>
    obtain ⟨between, hfirst, hsecond⟩ := ih hall
    exact ⟨between, .apply hfirst, hsecond⟩
  | answer hanswer h ih =>
    obtain ⟨rfl, rfl⟩ | ⟨rest, rfl, hrest⟩ := List.append_eq_cons_iff.1 hall
    · exact ⟨_, .nil, .answer hanswer h⟩
    · obtain ⟨between, hfirst, hsecond⟩ := ih hrest.symm
      exact ⟨between, .answer hanswer hfirst, hsecond⟩

/-- Some server answers the events: one that applies at once what it takes. -/
theorem Drains.total (apply : D → α → D) (data : D) (events : List (Deferred ι α)) :
    ∃ backlog, Drains apply ⟨data, []⟩ events backlog := by
  induction events generalizing data with
  | nil => exact ⟨_, .nil⟩
  | cons event events ih =>
    cases event with
    | submit operation id =>
      cases id with
      | none =>
        obtain ⟨backlog, h⟩ := ih data
        exact ⟨backlog, .answer .refused h⟩
      | some id =>
        obtain ⟨backlog, h⟩ := ih (apply data operation)
        have happlied : Drains apply ⟨data, [] ++ (id, operation) :: []⟩ events backlog := .apply h
        exact ⟨backlog, .answer .taken happlied⟩
    | poll id done =>
      obtain ⟨backlog, h⟩ := ih data
      exact ⟨backlog, .answer (.polled (by simp)) h⟩

/-! ## One operation -/

/-- A server with nothing to apply answers the next event. -/
theorem Drains.next {event : Deferred ι α} (h : Drains apply ⟨data, []⟩ (event :: events) backlog') :
    ∃ next, Answers ⟨data, []⟩ event next ∧ Drains apply next events backlog' := by
  generalize hserver : (⟨data, []⟩ : Backlog D ι α) = backlog at h
  cases h with
  | apply _ => simp at hserver
  | answer hanswer h => exact ⟨_, hanswer, h⟩

theorem Answers.poll {event : Deferred ι α} (h : Answers backlog event backlog')
    (hpoll : event.isPoll) : backlog' = backlog := by
  cases h with
  | taken => exact hpoll.elim
  | lost => exact hpoll.elim
  | refused => exact hpoll.elim
  | polled hdone => rfl

theorem Drains.idle (h : Drains apply ⟨data, []⟩ events backlog')
    (hpolls : ∀ event ∈ events, event.isPoll) : backlog' = ⟨data, []⟩ := by
  induction events with
  | nil =>
    generalize hserver : (⟨data, []⟩ : Backlog D ι α) = backlog at h
    cases h with
    | nil => rfl
    | apply _ => simp at hserver
  | cons event events ih =>
    obtain ⟨hpoll, hpolls⟩ := List.forall_mem_cons.1 hpolls
    obtain ⟨next, hanswer, h⟩ := h.next
    rw [hanswer.poll hpoll] at h
    exact ih h hpolls

/-- The operation waits alone, or it is applied. -/
inductive Single (apply : D → α → D) (data : D) (id : ι) (operation : α) : Backlog D ι α → Prop
  | queued : Single apply data id operation ⟨data, [(id, operation)]⟩
  | applied : Single apply data id operation ⟨apply data operation, []⟩

theorem Drains.single (h : Drains apply backlog events backlog')
    (hsingle : Single apply data id operation backlog) (hpolls : ∀ event ∈ events, event.isPoll) :
    Single apply data id operation backlog' ∧
      (.poll id true ∈ events → backlog' = ⟨apply data operation, []⟩) := by
  induction h with
  | nil => exact ⟨hsingle, by simp⟩
  | @apply data' before after entry events backlog h ih =>
    refine ih ?_ hpolls
    generalize hqueue : before ++ entry :: after = queue at hsingle
    cases hsingle with
    | applied => simp at hqueue
    | queued =>
      obtain ⟨rfl, hrest⟩ | ⟨rest, -, hrest⟩ := List.append_eq_cons_iff.1 hqueue
      · cases hrest
        exact .applied
      · simp at hrest
  | @answer backlog next backlog' event events hanswer h ih =>
    obtain ⟨hpoll, hlater⟩ := List.forall_mem_cons.1 hpolls
    obtain rfl := hanswer.poll hpoll
    obtain ⟨hlast, hdone⟩ := ih hsingle hlater
    refine ⟨hlast, fun hmem => ?_⟩
    obtain rfl | hmem := List.mem_cons.1 hmem
    · -- what is done is not in the queue
      cases hsingle with
      | applied => exact h.idle hlater
      | queued =>
        cases hanswer with
        | polled hnot => exact absurd rfl (hnot rfl _ (.head _))
    · exact hdone hmem

/-! ## Many operations -/

/-- The events of an operation that is waited for. -/
def Waited (operation : α) (events : List (Deferred ι α)) : Prop :=
  ∃ id rest, events = .submit operation (some id) :: rest ∧ (∀ event ∈ rest, event.isPoll) ∧
    .poll id true ∈ rest

/-- The events of an operation that may not have been waited for. -/
def Submitted (operation : α) (events : List (Deferred ι α)) : Prop :=
  ∃ id rest, events = .submit operation id :: rest ∧ ∀ event ∈ rest, event.isPoll

theorem Drains.waited (h : Drains apply ⟨data, []⟩ events backlog')
    (hwaited : Waited operation events) : backlog' = ⟨apply data operation, []⟩ := by
  obtain ⟨id, rest, rfl, hpolls, hdone⟩ := hwaited
  obtain ⟨next, hanswer, h⟩ := h.next
  cases hanswer with
  | taken => exact (h.single .queued hpolls).2 hdone

theorem Drains.submitted (h : Drains apply ⟨data, []⟩ events backlog')
    (hsubmitted : Submitted operation events) :
    backlog'.data = data ∨ backlog'.data = apply data operation := by
  obtain ⟨id, rest, rfl, hpolls⟩ := hsubmitted
  obtain ⟨next, hanswer, h⟩ := h.next
  have hsingle {id : ι} (h : Drains apply ⟨data, [] ++ [(id, operation)]⟩ rest backlog') :
      backlog'.data = data ∨ backlog'.data = apply data operation := by
    obtain ⟨hlast, -⟩ := h.single .queued hpolls
    cases hlast with
    | queued => exact .inl rfl
    | applied => exact .inr rfl
  cases hanswer with
  | taken => exact hsingle h
  | lost => exact hsingle h
  | refused => exact .inl (by rw [h.idle hpolls])

/-- **A client that waits for each of its operations finds them applied in turn.** -/
theorem Drains.blocks {operations : List α} (h : Drains apply ⟨data, []⟩ events backlog')
    (hblocks : Blocks Waited operations events) : backlog' = ⟨operations.foldl apply data, []⟩ := by
  obtain ⟨blocks, hblocks, rfl⟩ := hblocks
  induction hblocks generalizing data with
  | nil => exact h.idle (by simp)
  | cons hwaited _ ih =>
    rw [List.flatten_cons] at h
    obtain ⟨between, hfirst, hrest⟩ := h.split
    rw [hfirst.waited hwaited] at hrest
    exact ih hrest

end

end Streaming
