import SuperhumanDocs.Effect.Trace
import SuperhumanDocs.Mutation.Payload
import SuperhumanDocs.Sdk

/-!
# The status of a mutation

A `World` is everything the mutation requests depend on: the constructor of the SDK client, the
server behind it and the clock. `waitForMutation` reads the request id out of the response of a
mutation and asks for its status until it is completed or the time is up; the time left bounds
the loop.
-/

set_option autoImplicit false

namespace SuperhumanDocs

open Effect (Run Traced)
open Json (SerdeJson)

/-! ## Requests -/

structure UpsertRowsInput (F : Type) where
  docId : String
  tableIdOrName : String
  disableParsing : Option Bool
  payload : Operations.RowsUpsert F

structure UpdateRowInput (F : Type) where
  docId : String
  tableIdOrName : String
  rowIdOrName : String
  disableParsing : Option Bool
  payload : Operations.RowUpdate F

structure DeleteRowsInput where
  docId : String
  tableIdOrName : String
  payload : Operations.RowsDelete

inductive Operation (F : Type) where
  | upsertRows (input : UpsertRowsInput F)
  | updateRow (input : UpdateRowInput F)
  | deleteRows (input : DeleteRowsInput)
  | mutationStatus (requestId : String)

/-- The operation changes the document. -/
def Operation.isMutation {F : Type} : Operation F → Bool
  | mutationStatus _ => false
  | _ => true

/-- A request together with its reply. -/
structure Call (F : Type) where
  operation : Operation F
  reply : Reply

/-- The environment of the mutation requests; times are in nanoseconds. -/
structure World (F σ : Type) where
  /-- The runtime the requests run on, unless it could not be created. -/
  runtime : Except String Unit
  newClient : ClientConfig → Except String Unit
  send : σ → Operation F → Reply × σ
  now : σ → Nat
  sleep : σ → Nat → σ
  now_send : ∀ s operation, now s ≤ now (send s operation).2
  /-- A sleep lasts at least as long as asked for. -/
  now_sleep : ∀ s duration, now s + duration ≤ now (sleep s duration)

section
variable {F σ : Type} (w : World F σ)

/-- Send a request. -/
def World.call (operation : Operation F) : Traced String σ (Call F) Reply :=
  Effect.perform (fun s => w.send s operation) fun reply => { operation, reply }

/-- Send a request and take the body of its response. -/
def World.execute (operation : Operation F) : Traced String σ (Call F) String := do
  let reply ← w.call operation
  Effect.ofExcept (SuperhumanDocs.execute reply)

/-- The time passed since `started`. -/
def World.elapsed (started : Nat) (s : σ) : Nat := w.now s - started

end

/-! ## Responses -/

section
variable [SerdeJson]

def mutationRequestId (body : String) : Except String String := do
  let root ← (SerdeJson.fromStr body).mapError fun error => s!"invalid mutation response: {error}"
  match ((root.get "requestId").bind Json.Value.asStr).filter fun value => !value.isEmpty with
  | some requestId => .ok requestId
  | none => .error "Superhuman Docs mutation response did not contain requestId"

/-- White space of Unicode. -/
def isWhitespace (c : Char) : Bool :=
  (0x9 ≤ c.toNat && c.toNat ≤ 0xd) || c.toNat == 0x20 || c.toNat == 0x85 || c.toNat == 0xa0 ||
    c.toNat == 0x1680 || (0x2000 ≤ c.toNat && c.toNat ≤ 0x200a) || c.toNat == 0x2028 ||
    c.toNat == 0x2029 || c.toNat == 0x202f || c.toNat == 0x205f || c.toNat == 0x3000

/-- Nothing is left of the string when it is trimmed. -/
def isBlank (s : String) : Bool := s.toList.all isWhitespace

def mutationStatus (body : String) : Except String (Bool × Option String) := do
  let root ← (SerdeJson.fromStr body).mapError fun error =>
    s!"invalid mutation status response: {error}"
  match (root.get "completed").bind Json.Value.asBool with
  | none => .error "mutation status response did not contain completed"
  | some completed =>
    match root.get "warning" with
    | none | some .null => .ok (completed, none)
    | some (.string value) => .ok (completed, if isBlank value then none else some value)
    | some _ => .error "mutation status warning was not a string"

/-- The body that stands for a mutation the server does not know yet. -/
def pendingBody : String := "\x7b\"completed\":false\x7d"

/-- The status in a reply; a 404 stands for a pending mutation. -/
def fetchStatus (reply : Reply) : Except String (Bool × Option String) := do
  mutationStatus ((← executeAcceptingStatus 404 reply).getD pendingBody)

/-- What a status reply says: the mutation is completed, or it is pending. -/
def checkMutation (requestId : String) (allowWarnings : Bool) (reply : Reply) :
    Except String Bool := do
  let (completed, warning) ← (fetchStatus reply).mapError fun error =>
    s!"failed to check Superhuman Docs mutation {requestId}: {error}"
  if !completed then return false
  match warning with
  | some warning =>
    if !allowWarnings then
      throw ("Superhuman Docs mutation " ++ requestId ++
        " completed with a warning and cannot be rolled back: " ++ warning)
    return true
  | none => return true

/-- The warning of a status body: a text that is not blank. -/
def Warns (root : Json.Value) : Option String → Prop
  | none => root.get "warning" = none ∨ root.get "warning" = some .null ∨
      ∃ text, root.get "warning" = some (.string text) ∧ isBlank text = true
  | some text => root.get "warning" = some (.string text) ∧ isBlank text = false

/-- **What the body of a status says.** -/
theorem mutationStatus_eq_ok {body : String} {completed : Bool} {warning : Option String} :
    mutationStatus body = .ok (completed, warning) ↔ ∃ root, SerdeJson.fromStr body = .ok root ∧
      root.get "completed" = some (.bool completed) ∧ Warns root warning := by
  unfold mutationStatus
  rw [Effect.bind_eq_ok]
  refine exists_congr fun root => and_congr Effect.mapError_eq_ok ?_
  cases hfield : root.get "completed" with
  | none => simp
  | some value =>
    cases value with
    | bool done =>
      simp only [Option.bind_some, Json.Value.asBool]
      cases hwarning : root.get "warning" with
      | none => cases warning <;> simp [Warns, hwarning]
      | some value =>
        cases value with
        | null => cases warning <;> simp [Warns, hwarning]
        | string text =>
          cases warning with
          | none => cases hblank : isBlank text <;> simp [Warns, hwarning, hblank]
          | some other =>
            have hsame : isBlank text = false ∧ text = other ↔
                text = other ∧ isBlank other = false := by
              rw [and_comm]
              exact and_congr_right fun heq => heq ▸ Iff.rfl
            simp [Warns, hwarning, hsame]
        | _ => cases warning <;> simp [Warns, hwarning]
    | _ => simp [Json.Value.asBool]

/-- A mutation the server does not know yet is not completed. -/
theorem mutationStatus_pendingBody : mutationStatus pendingBody = .ok (false, none) := by
  have htext : pendingBody = (Json.Value.object [("completed", .bool false)]).print := by
    decide +kernel
  have hparse := SerdeJson.fromStr_print (.object [("completed", .bool false)]) (by decide)
  unfold mutationStatus
  rw [htext, hparse]
  rfl

/-- The status of a reply is that of its body, or of one that is pending. -/
theorem fetchStatus_eq_ok {reply : Reply} {completed : Bool} {warning : Option String} :
    fetchStatus reply = .ok (completed, warning) ↔
      (executeAcceptingStatus 404 reply = .ok none ∧ completed = false ∧ warning = none) ∨
      ∃ body root, executeAcceptingStatus 404 reply = .ok (some body) ∧
        SerdeJson.fromStr body = .ok root ∧ root.get "completed" = some (.bool completed) ∧
        Warns root warning := by
  unfold fetchStatus
  rw [Effect.bind_eq_ok]
  apply Iff.intro
  · intro ⟨body, hreply, h⟩
    cases body with
    | none =>
      cases mutationStatus_pendingBody.symm.trans h
      exact .inl ⟨hreply, rfl, rfl⟩
    | some body =>
      obtain ⟨root, hroot⟩ := mutationStatus_eq_ok.1 h
      exact .inr ⟨body, root, hreply, hroot⟩
  · intro h
    obtain ⟨hreply, rfl, rfl⟩ | ⟨body, root, hreply, hroot⟩ := h
    · exact ⟨none, hreply, mutationStatus_pendingBody⟩
    · exact ⟨some body, hreply, mutationStatus_eq_ok.2 ⟨root, hroot⟩⟩

end

/-! ## Waiting -/

def nanosPerSecond : Nat := 1000000000

def mutationPollInterval : Nat := 1 * nanosPerSecond

def timeoutMessage (requestId : String) (timeout : Nat) : String :=
  s!"Superhuman Docs mutation {requestId} did not complete within {timeout / nanosPerSecond} " ++
    "seconds; remote completion is unknown and may occur later"

section
variable {F σ : Type} [SerdeJson] (w : World F σ)

/-- Ask for the status until the mutation is completed. -/
def pollMutationStatus (requestId : String) (timeout : Nat) (allowWarnings : Bool)
    (started : Nat) (firstCheck : Bool) : Traced String σ (Call F) Unit := fun run =>
  if !firstCheck && timeout ≤ w.elapsed started run.state then
    .error (timeoutMessage requestId timeout) run
  else
    let operation : Operation F := .mutationStatus requestId
    let reply := (w.send run.state operation).1
    let s := (w.send run.state operation).2
    let run' : Run σ (Call F) := ⟨s, run.trace ++ [{ operation, reply }]⟩
    match checkMutation requestId allowWarnings reply with
    | .error e => .error e run'
    | .ok true => .ok () run'
    | .ok false =>
      if timeout ≤ w.elapsed started s then .error (timeoutMessage requestId timeout) run'
      else
        let pause := min mutationPollInterval (timeout - w.elapsed started s)
        pollMutationStatus requestId timeout allowWarnings started false
          ⟨w.sleep s pause, run'.trace⟩
termination_by run => started + timeout - w.now run.state
decreasing_by
  rename_i run _ hleft
  have hsend := w.now_send run.state (.mutationStatus requestId)
  have hsleep := w.now_sleep s pause
  simp only [World.elapsed, pause, mutationPollInterval, nanosPerSecond, s, operation] at *
  omega

def waitForMutation (config : ClientConfig) (responseBody : String) :
    Traced String σ (Call F) Unit := do
  if !config.waitForMutations then return ()
  let requestId ← Effect.ofExcept (mutationRequestId responseBody)
  let started ← Effect.observe w.now
  pollMutationStatus w requestId (config.mutationTimeoutSeconds * nanosPerSecond)
    config.allowMutationWarnings started true

end

end SuperhumanDocs
